import Reroute.Proofs.Request.Elements
import Reroute.Rule.Evaluate

/-!
# Keeping the front of a path

The indices 1, 2, … up to a number keep the first segment and as many addressable ones behind it (`keep_indicesTo`), the
front of the path.  What they keep of a front is counted anew: a front that ends with an empty segment has it as the
mark of a trailing slash, which is not addressable, so the same indices drop it from the front; any other front is kept
as it is (`Request.keep_front_twice`).
-/

namespace Reroute

namespace Path

variable {segments : List String} {count : Nat}

/-- The indices 1, 2, … up to a number. -/
def indicesTo (count : Nat) : List Int := (List.range count).map fun (before : Nat) => (before : Int) + 1

/-- The front of a path: its first segment and at most so many addressable ones behind it. -/
def front (count : Nat) (segments : List String) : List String :=
  ensureRoot (segments.take (min count (effectiveCount segments - 1) + 1))

private theorem mem_indicesTo {index : Int} : index ∈ indicesTo count ↔ 0 < index ∧ index ≤ count := by
  simp only [indicesTo, List.mem_map, List.mem_range]
  constructor
  · rintro ⟨before, hbefore, rfl⟩
    omega
  · rintro ⟨hpos, hle⟩
    exact ⟨index.toNat - 1, by omega, by omega⟩

private theorem mem_keepPositions_indicesTo {position : Nat} :
    position ∈ keepPositions segments (indicesTo count) ↔
      position < min count (effectiveCount segments - 1) + 1 := by
  rw [mem_keepPositions]
  constructor
  · rintro (rfl | ⟨index, hindex, hposition⟩)
    · omega
    · obtain ⟨hpos, hle⟩ := mem_indicesTo.mp hindex
      obtain ⟨haddress, -, hlt⟩ := resolve?_eq_some.mp hposition
      omega
  · intro hlt
    obtain rfl | hpos := Nat.eq_zero_or_pos position
    · exact .inl rfl
    · refine .inr ⟨position, mem_indicesTo.mpr ⟨by omega, by omega⟩, ?_⟩
      rw [resolve?_natCast hpos, if_pos (by omega)]

/-- Positions that are all those in front of another one select what is in front of it. -/
private theorem select_eq_take {positions : List Nat} {length : Nat}
    (h : ∀ position, position ∈ positions ↔ position < length)
    (start : Nat) (segments : List String) : select positions start segments = segments.take (length - start) := by
  induction segments generalizing start with
  | nil => rw [select, List.take_nil]
  | cons segment segments ih =>
    rw [select, ih]
    by_cases hstart : start < length
    · have hmore : length - start = length - (start + 1) + 1 := by omega
      rw [if_pos (List.contains_iff_mem.mpr ((h start).mpr hstart)), hmore, List.take_succ_cons]
    · have hnone : length - start = 0 := by omega
      have hnone' : length - (start + 1) = 0 := by omega
      have hcontains : ¬positions.contains start = true := by
        rw [List.contains_iff_mem, h]
        exact hstart
      rw [if_neg hcontains, hnone, hnone', List.take_zero, List.take_zero]

theorem keep_indicesTo (count : Nat) (segments : List String) :
    ensureRoot (select (keepPositions segments (indicesTo count)) 0 segments) = front count segments := by
  rw [select_eq_take (fun _ => mem_keepPositions_indicesTo) 0 segments, Nat.sub_zero, front]

/-! ### The front of a front -/

private theorem ensureRoot_eq_root_or (segments : List String) :
    ensureRoot segments = root ∨ ensureRoot segments = segments := by
  unfold ensureRoot
  split
  · exact .inl rfl
  · exact .inl rfl
  · exact .inr rfl

@[simp] theorem front_root (count : Nat) : front count root = root := by
  have hcount : effectiveCount root = 1 := rfl
  rw [front, hcount, Nat.sub_self, Nat.min_zero]
  rfl

/-- All segments of a path that is no longer than a front belong to it, but for the mark of a trailing slash. -/
private theorem front_of_length_le (hlength : segments.length ≤ count + 1) (hroot : ensureRoot segments = segments) :
    front count segments =
      if segments = root ∨ segments.getLast? ≠ some "" then segments else segments.dropLast := by
  by_cases hslash : segments = root
  · rw [hslash, front_root, if_pos (.inl rfl)]
  by_cases hlast : segments.getLast? = some ""
  · obtain ⟨kept, rfl⟩ := List.getLast?_eq_some_iff.mp hlast
    have hnil : kept ≠ [] := by
      rintro rfl
      cases hroot
    have hempty : kept ≠ [""] := by
      rintro rfl
      exact hslash rfl
    have hcount : effectiveCount (kept ++ [""]) = kept.length := by
      rw [effectiveCount, if_pos hlast, List.length_append, List.length_singleton, Nat.add_sub_cancel]
    have hkept : min count (kept.length - 1) + 1 = kept.length := by
      have hpos := List.length_pos_iff.mpr hnil
      rw [List.length_append, List.length_singleton] at hlength
      omega
    rw [if_neg (by simp [hslash]), front, hcount, hkept, List.take_left, List.dropLast_concat,
      ensureRoot_of_ne hnil hempty]
  · have hpos : 0 < segments.length := by
      rw [List.length_pos_iff]
      rintro rfl
      cases hroot
    have hcount : effectiveCount segments = segments.length := by rw [effectiveCount, if_neg hlast]
    rw [if_pos (.inr hlast), front, hcount, List.take_of_length_le (by omega), hroot]

/-- The front of a front lacks its mark of a trailing slash, unless that is the one of the root. -/
private theorem front_front (count : Nat) (segments : List String) :
    let kept := front count segments
    front count kept = if kept = root ∨ kept.getLast? ≠ some "" then kept else kept.dropLast := by
  intro kept
  obtain hroot | hsame := ensureRoot_eq_root_or (segments.take (min count (effectiveCount segments - 1) + 1))
  · have hkept : kept = root := hroot
    rw [hkept, front_root, if_pos (.inl rfl)]
  · have hkept : kept = segments.take (min count (effectiveCount segments - 1) + 1) := hsame
    refine front_of_length_le ?_ ?_
    · have hlength := List.length_take_le (min count (effectiveCount segments - 1) + 1) segments
      rw [hkept]
      omega
    · rw [hkept]
      exact hsame

end Path

namespace Request

private theorem path_keep_indicesTo (request : Request) (count : Nat) :
    (request.keep (.elements (Path.indicesTo count))).path = Path.front count request.path := by
  rw [keep, path_setSegments, Path.keep_indicesTo]

/-- The indices 1, 2, … up to a number keep the front of the path.  Done again they keep the same front, unless it is
not the root and ends with an empty segment, which by then is the mark of a trailing slash and goes. -/
theorem keep_front_twice (env : Env) (request : Request) (count : Nat) (scratch later : Scratch) :
    let keep (request : Request) (scratch : Scratch) :=
      (Action.perform env (.keep (.elements (Path.indicesTo count))) request scratch).request
    let once := keep request scratch
    let twice := keep once later
    once.path = Path.front count request.path ∧
      twice.path = (if once.path = Path.root ∨ once.path.getLast? ≠ some "" then once.path else once.path.dropLast) ∧
      (twice.path = once.path ↔ once.path = Path.root ∨ once.path.getLast? ≠ some "") := by
  intro keep once twice
  have honce : once.path = Path.front count request.path := path_keep_indicesTo request count
  have htwice : twice.path =
      if once.path = Path.root ∨ once.path.getLast? ≠ some "" then once.path else once.path.dropLast := by
    have hagain : twice.path = Path.front count once.path := path_keep_indicesTo once count
    rw [hagain, honce]
    exact Path.front_front count request.path
  refine ⟨honce, htwice, ?_⟩
  rw [htwice]
  split
  · rename_i hkept
    exact iff_of_true rfl hkept
  · rename_i hkept
    refine iff_of_false (fun hsame => ?_) hkept
    -- only a path without segments is as long without its last one
    have hempty : once.path = [] := by
      have hlength := congrArg List.length hsame
      rw [List.length_dropLast] at hlength
      exact List.length_eq_zero_iff.mp (by omega)
    exact hkept (.inr (by simp [hempty]))

/-- An empty segment between two others is kept as the last one, and then dropped as the mark of a trailing slash. -/
theorem keep_front_twice_inner_empty :
    let env : Env := ⟨.execute, "/www", .discard, fun _ => .ok .file⟩
    let keep (request : Request) := (Action.perform env (.keep (.elements (Path.indicesTo 2))) request .start).request
    let once := keep (ofUrl "/a//b")
    once.path = ["", "a", ""] ∧ (keep once).path = ["", "a"] ∧ (keep once).path ≠ once.path := by
  decide

end Request

end Reroute
