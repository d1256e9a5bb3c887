import Reroute.Proofs.Request.FirstSegment
import Reroute.Rule.Evaluate

/-!
# Cutting a path at a depth

The depth of a path is the number of its addressable segments, the mark of a leading slash not counted.  A limit is held
against all segments behind that mark (`Path.depth_add_surplus`), the mark of a trailing slash among them, and it is
counted in words: the greatest one comes to nothing where the mark of the leading slash is added to it
(`Path.keptCount_eq`).  So a path of some depth fits into the same limit only without a slash at its end, and a rooted
path does not fit into the greatest limit (`Request.truncate_unless_fits`).  Below the greatest limit, cuts in a row are
one cut at the least of their limits (`Request.truncations_compose`).
-/

namespace Reroute

namespace Path

variable {segments : List String}

/-- The number of addressable segments; the mark of a leading slash does not count. -/
def depth (segments : List String) : Nat :=
  effectiveCount segments - if IsRootedText (join segments) then 1 else 0

/-- The segments that a limit counts on top of the depth: the mark of a trailing slash, except in the empty path, and a
first segment that is no mark of a slash but has the slash itself. -/
def surplus (segments : List String) : Nat :=
  (if segments.getLast? = some "" ∧ segments ≠ [""] then 1 else 0) +
    if segments.head? ≠ some "" ∧ IsRootedText (join segments) then 1 else 0

/-- A path that is no longer than a limit allows. -/
structure Fits (limit : UInt64) (segments : List String) : Prop where
  word : segments.head? = some "" → limit.toNat + 1 < UInt64.size
  length : depth segments + surplus segments ≤ limit.toNat

instance (limit : UInt64) (segments : List String) : Decidable (Fits limit segments) :=
  decidable_of_iff ((segments.head? = some "" → limit.toNat + 1 < UInt64.size) ∧
    depth segments + surplus segments ≤ limit.toNat) ⟨fun h => ⟨h.1, h.2⟩, fun h => ⟨h.word, h.length⟩⟩

/-- A limit counts the segments behind the mark of a leading slash. -/
theorem depth_add_surplus (segments : List String) :
    depth segments + surplus segments = segments.length - if segments.head? = some "" then 1 else 0 := by
  by_cases hempty : segments = [""]
  · subst hempty
    decide
  have hrooted : segments.head? = some "" → IsRootedText (join segments) := by
    intro hhead
    obtain ⟨rest, rfl⟩ := List.head?_eq_some_iff.mp hhead
    exact begins_iff.mp ⟨.inl rfl, fun _ hrest => hempty (by rw [hrest])⟩
  have hpos : IsRootedText (join segments) → 0 < effectiveCount segments :=
    fun h => (begins_iff.mpr h).effectiveCount_pos
  have hcount : effectiveCount segments + (if segments.getLast? = some "" then 1 else 0) = segments.length := by
    unfold effectiveCount
    split
    · rename_i hlast
      have hne : segments ≠ [] := by
        rintro rfl
        cases hlast
      have hlength := List.length_pos_iff.mpr hne
      omega
    · rfl
  simp only [depth, surplus, ← hcount, hempty, ne_eq, not_false_eq_true, and_true]
  by_cases hhead : segments.head? = some ""
  · have hroot := hrooted hhead
    have hfirst := hpos hroot
    simp only [hhead, hroot, if_true, not_true_eq_false, false_and, if_false]
    omega
  · by_cases hroot : IsRootedText (join segments)
    · have hfirst := hpos hroot
      simp only [hhead, hroot, if_true, if_false, not_false_eq_true, and_self]
      omega
    · simp only [hhead, hroot, if_false, and_false]
      omega

/-- The mark of a leading slash is added to the limit as to a word. -/
theorem keptCount_eq (limit : UInt64) (segments : List String) :
    keptCount limit segments =
      if segments.head? = some "" then if limit.toNat + 1 < UInt64.size then limit.toNat + 1 else 0 else limit.toNat := by
  have hbound := limit.toNat_lt
  have hsize : UInt64.size = 2 ^ 64 := rfl
  have hone : (1 : UInt64).toNat = 1 := rfl
  simp only [keptCount, isRooted, beq_iff_eq]
  split
  · rw [UInt64.toNat_add, hone, hsize]
    split <;> omega
  · rfl

private theorem fits_iff {limit : UInt64} : Fits limit segments ↔ segments.length ≤ keptCount limit segments := by
  have hfits : Fits limit segments ↔ (segments.head? = some "" → limit.toNat + 1 < UInt64.size) ∧
      segments.length - (if segments.head? = some "" then 1 else 0) ≤ limit.toNat := by
    rw [← depth_add_surplus]
    exact ⟨fun h => ⟨h.word, h.length⟩, fun h => ⟨h.1, h.2⟩⟩
  rw [hfits, keptCount_eq]
  by_cases hhead : segments.head? = some ""
  · obtain ⟨rest, rfl⟩ := List.head?_eq_some_iff.mp hhead
    simp only [hhead, forall_const, if_true, List.length_cons]
    split <;> omega
  · simp only [hhead, false_implies, true_and, if_false]
    omega

/-! ### Cuts in a row -/

/-- The segments that a cut leaves. -/
def cut (limit : UInt64) (segments : List String) : List String := (truncate? limit segments).getD segments

/-- The mark of a leading slash, counted. -/
def marks (segments : List String) : Nat := if segments.head? = some "" then 1 else 0

variable {a b limit : UInt64}

private theorem keptCount_of_lt (h : limit.toNat + 1 < UInt64.size) (segments : List String) :
    keptCount limit segments = limit.toNat + marks segments := by
  rw [keptCount_eq, if_pos h, marks]
  split <;> rfl

private theorem cut_of_lt (h : limit.toNat + 1 < UInt64.size) (segments : List String) :
    cut limit segments =
      if segments.length ≤ limit.toNat + marks segments then segments
      else ensureRoot (segments.take (limit.toNat + marks segments)) := by
  rw [cut, truncate?, keptCount_of_lt h]
  split <;> rfl

private theorem Fits.mono (h : Fits a segments) (hab : a ≤ b) (hb : b.toNat + 1 < UInt64.size) : Fits b segments where
  word _ := hb
  length := Nat.le_trans h.length (UInt64.le_iff_toNat_le.mp hab)

/-- Nothing is cut off the root that is not put back. -/
@[simp] theorem cut_root (limit : UInt64) : cut limit root = root := by
  unfold cut truncate?
  split
  · rfl
  · rename_i hlong
    have hkept : keptCount limit root = 0 ∨ keptCount limit root = 1 := by
      have hlength : root.length = 2 := rfl
      omega
    obtain hkept | hkept := hkept <;> rw [hkept] <;> rfl

/-- A path with no segment but the mark of a slash has nothing to cut. -/
private theorem cut_of_length_le (h : limit.toNat + 1 < UInt64.size) (hshort : segments.length ≤ marks segments) :
    cut limit segments = segments := by
  rw [cut_of_lt h, if_pos (by omega)]

/-- A path that is cut right behind its mark, or at its front if it has none, becomes the root. -/
private theorem cut_zero (hlong : marks segments < segments.length) : cut 0 segments = root := by
  have hzero : (0 : UInt64).toNat = 0 := rfl
  rw [cut_of_lt (by decide), hzero, Nat.zero_add, if_neg (Nat.not_le.mpr hlong), marks]
  split
  · rename_i hhead
    obtain ⟨rest, rfl⟩ := List.head?_eq_some_iff.mp hhead
    rfl
  · rfl

private theorem marks_take {count : Nat} (h : count ≠ 0) (segments : List String) :
    marks (segments.take count) = marks segments := by
  rw [marks, List.head?_take, if_neg h, marks]

/-- Any other cut leaves a front of the path. -/
private theorem cut_of_pos (h : limit.toNat + 1 < UInt64.size) (hpos : 0 < limit.toNat) (segments : List String) :
    cut limit segments = segments.take (limit.toNat + marks segments) := by
  rw [cut_of_lt h]
  split
  · rename_i hfits
    rw [List.take_of_length_le hfits]
  · rename_i hlong
    have hlength : (segments.take (limit.toNat + marks segments)).length = limit.toNat + marks segments := by
      rw [List.length_take, Nat.min_eq_left (by omega)]
    have hmarks := marks_take (by omega : limit.toNat + marks segments ≠ 0) segments
    refine ensureRoot_of_ne ?_ ?_ <;> intro hfront <;> rw [hfront] at hlength hmarks
    · rw [List.length_nil] at hlength
      omega
    · have hmark : marks [""] = 1 := rfl
      rw [List.length_singleton] at hlength
      omega

/-- Of two cuts only the one at the lesser limit is seen. -/
private theorem cut_cut (ha : a.toNat + 1 < UInt64.size) (hb : b.toNat + 1 < UInt64.size) (segments : List String) :
    cut b (cut a segments) = cut (min a b) segments := by
  have hmin : (min a b).toNat = min a.toNat b.toNat := UInt64.toNat_min a b
  by_cases hshort : segments.length ≤ marks segments
  · rw [cut_of_length_le ha hshort, cut_of_length_le hb hshort, cut_of_length_le (by omega) hshort]
  have hlong := Nat.not_le.mp hshort
  obtain hzero | ha' := Nat.eq_zero_or_pos a.toNat
  · -- a relative path has got the mark of a slash by now, and the second cut is behind it
    obtain rfl : a = 0 := UInt64.toNat_inj.mp hzero
    obtain hmin : min 0 b = 0 := UInt64.toNat_inj.mp (by rw [hmin, hzero, Nat.zero_min])
    rw [hmin, cut_zero hlong, cut_root]
  have hkept := marks_take (by omega : a.toNat + marks segments ≠ 0) segments
  obtain hzero | hb' := Nat.eq_zero_or_pos b.toNat
  · obtain rfl : b = 0 := UInt64.toNat_inj.mp hzero
    obtain hmin : min a 0 = 0 := UInt64.toNat_inj.mp (by rw [hmin, hzero, Nat.min_zero])
    rw [hmin, cut_zero hlong, cut_of_pos ha ha', cut_zero]
    rw [hkept, List.length_take]
    omega
  · rw [cut_of_pos ha ha', cut_of_pos hb hb', cut_of_pos (by omega) (by omega), hkept, List.take_take, hmin,
      ← Nat.add_min_add_right, Nat.min_comm]

/-- What a cut leaves is a front of the path, or the root in place of a front without segments. -/
private theorem cut_eq_front (h : limit.toNat + 1 < UInt64.size) (segments : List String) :
    let front := segments.take (limit.toNat + marks segments)
    front <+: segments ∧
      cut limit segments = if front ≠ segments ∧ (front = [] ∨ front = [""]) then root else front := by
  intro front
  refine ⟨List.take_prefix _ _, ?_⟩
  rw [cut_of_lt h]
  by_cases hfits : segments.length ≤ limit.toNat + marks segments
  · have hfront : front = segments := List.take_of_length_le hfits
    rw [if_pos hfits, if_neg fun hcut => hcut.1 hfront, hfront]
  · have hfront : front ≠ segments := by
      intro hfront
      have hlength := congrArg List.length hfront
      rw [List.length_take] at hlength
      omega
    rw [if_neg hfits]
    by_cases hempty : front = [] ∨ front = [""]
    · rw [if_pos ⟨hfront, hempty⟩]
      show ensureRoot front = root
      obtain hempty | hempty := hempty <;> rw [hempty] <;> rfl
    · obtain ⟨hnil, hmark⟩ := not_or.mp hempty
      rw [if_neg fun hcut => hempty hcut.2]
      exact ensureRoot_of_ne hnil hmark

end Path

namespace Request

private theorem truncate_of_fits {request : Request} {limit : UInt64} (h : Path.Fits limit request.path) :
    request.truncate limit = request := by
  rw [truncate, Path.truncate?, if_pos (Path.fits_iff.mp h)]

private theorem truncate_of_not_fits {request : Request} {limit : UInt64} (h : ¬Path.Fits limit request.path) :
    request.truncate limit =
      request.modifyPath fun _ => Path.ensureRoot (request.path.take (Path.keptCount limit request.path)) := by
  rw [truncate, Path.truncate?, if_neg (mt Path.fits_iff.mpr h)]

/-- A path that fits into a limit stays as it is, and so does all else of the request.  Any other path is cut behind as
many segments as the limit says, next to the mark of a leading slash, but behind none if it has that mark and the limit
is the greatest word; the request is then modified, whether or not the path is another. -/
theorem truncate_unless_fits (env : Env) (request : Request) (limit : UInt64) (scratch : Scratch) :
    let truncated := (Action.perform env (.truncate limit) request scratch).request
    let marks := if request.path.head? = some "" then 1 else 0
    (Path.Fits limit request.path → truncated = request) ∧
      (¬Path.Fits limit request.path → truncated.modified = true ∧
        truncated.path =
          if request.path.head? = some "" ∧ limit.toNat + 1 = UInt64.size then Path.root
          else Path.ensureRoot (request.path.take (limit.toNat + marks))) := by
  intro truncated marks
  refine ⟨truncate_of_fits, fun hfits => ?_⟩
  have htruncated : truncated =
      request.modifyPath fun _ => Path.ensureRoot (request.path.take (Path.keptCount limit request.path)) :=
    truncate_of_not_fits hfits
  have hbound := limit.toNat_lt_size
  rw [htruncated]
  refine ⟨rfl, ?_⟩
  show Path.ensureRoot (request.path.take (Path.keptCount limit request.path)) = _
  rw [Path.keptCount_eq]
  by_cases hhead : request.path.head? = some ""
  · by_cases hgreatest : limit.toNat + 1 = UInt64.size
    · have hword : ¬limit.toNat + 1 < UInt64.size := by omega
      rw [if_pos hhead, if_neg hword, if_pos ⟨hhead, hgreatest⟩, List.take_zero]
      rfl
    · have hword : limit.toNat + 1 < UInt64.size := by omega
      rw [if_pos hhead, if_pos hword, if_neg fun h => hgreatest h.2]
      simp only [marks, if_pos hhead]
  · rw [if_neg hhead, if_neg fun h => hhead h.1]
    simp only [marks, if_neg hhead, Nat.add_zero]

theorem truncate_unless_fits_both :
    let env : Env := ⟨.execute, "/www", .discard, fun _ => .ok .file⟩
    let truncate (limit : UInt64) := (Action.perform env (.truncate limit) (ofUrl "/a/b/") .start).request
    (Path.Fits 3 (ofUrl "/a/b/").path ∧ truncate 3 = ofUrl "/a/b/") ∧
      ¬Path.Fits 1 (ofUrl "/a/b/").path ∧ (truncate 1).modified = true ∧ (truncate 1).path = ["", "a"] := by
  intro env truncate
  have hfits : Path.Fits 3 (ofUrl "/a/b/").path := by decide
  have hlong : ¬Path.Fits 1 (ofUrl "/a/b/").path := by decide
  obtain ⟨hmodified, hpath⟩ := (truncate_unless_fits env (ofUrl "/a/b/") 1 .start).2 hlong
  exact ⟨⟨hfits, (truncate_unless_fits env (ofUrl "/a/b/") 3 .start).1 hfits⟩, hlong, hmodified, hpath⟩

/-- Limits of at least the depth that change a request: one that is the depth takes the slash away from the end of a
path, and sets the root anew; the greatest one leaves nothing but the root. -/
theorem truncate_within_depth :
    let env : Env := ⟨.execute, "/www", .discard, fun _ => .ok .file⟩
    let truncate (limit : UInt64) (url : String) := (Action.perform env (.truncate limit) (ofUrl url) .start).request
    (Path.depth (ofUrl "/a/b/").path ≤ (2 : UInt64).toNat ∧ (ofUrl "/a/b/").pathText = "/a/b/" ∧
        (truncate 2 "/a/b/").pathText = "/a/b" ∧ (truncate 2 "/a/b/").modified = true) ∧
      (Path.depth (ofUrl "/").path ≤ (0 : UInt64).toNat ∧ (truncate 0 "/").path = (ofUrl "/").path ∧
        (ofUrl "/").modified = false ∧ (truncate 0 "/").modified = true) ∧
      Path.depth (ofUrl "/a/b").path ≤ (18446744073709551615 : UInt64).toNat ∧
        (truncate 18446744073709551615 "/a/b").pathText = "/" := by
  decide

/-! ### Cuts in a row -/

variable {request : Request} {a b limit : UInt64}

private theorem path_truncate (request : Request) (limit : UInt64) :
    (request.truncate limit).path = Path.cut limit request.path := by
  unfold truncate Path.cut
  split
  · rename_i segments hcut
    rw [hcut]
    rfl
  · rename_i hcut
    rw [hcut]
    rfl

private theorem truncate_modifyPath (request : Request) (f : List String → List String) (limit : UInt64) :
    (request.modifyPath f).truncate limit = request.modifyPath fun segments => Path.cut limit (f segments) := by
  have hpath : (request.modifyPath f).path = f request.path := rfl
  rw [truncate, hpath]
  split
  · rename_i segments hcut
    simp only [modifyPath, editPath, Path.cut, hcut, Option.getD_some]
    rfl
  · rename_i hcut
    simp only [modifyPath, editPath, Path.cut, hcut, Option.getD_none]

private theorem truncate_eq_modifyPath (h : ¬Path.Fits limit request.path) :
    request.truncate limit = request.modifyPath (Path.cut limit) := by
  rw [truncate_of_not_fits h]
  simp only [modifyPath, editPath, Path.cut, Path.truncate?, if_neg (mt Path.fits_iff.mpr h), Option.getD_some]

private theorem truncate_truncate (ha : a.toNat + 1 < UInt64.size) (hb : b.toNat + 1 < UInt64.size)
    (request : Request) :
    (request.truncate a).truncate b = request.truncate (min a b) := by
  by_cases hfits : Path.Fits a request.path
  · rw [truncate_of_fits hfits]
    by_cases hab : a ≤ b
    · have hmin : min a b = a := if_pos hab
      rw [hmin, truncate_of_fits hfits, truncate_of_fits (hfits.mono hab hb)]
    · have hmin : min a b = b := if_neg hab
      rw [hmin]
  · have hleast : min a b ≤ a := by
      rw [UInt64.le_iff_toNat_le, UInt64.toNat_min]
      exact Nat.min_le_left _ _
    have hmin : ¬Path.Fits (min a b) request.path := fun h => hfits (h.mono hleast ha)
    rw [truncate_eq_modifyPath hfits, truncate_modifyPath, truncate_eq_modifyPath hmin]
    simp only [Path.cut_cut ha hb]

/-- Any number of cuts come to one at the least of their limits. -/
theorem foldl_truncate {limits : List UInt64} (hlimit : limit.toNat + 1 < UInt64.size)
    (hlimits : ∀ other ∈ limits, other.toNat + 1 < UInt64.size) (request : Request) :
    limits.foldl truncate (request.truncate limit) = request.truncate (limits.foldl min limit) := by
  induction limits generalizing limit with
  | nil => rfl
  | cons other limits ih =>
    have hother := hlimits other List.mem_cons_self
    have hmin : (min limit other).toNat + 1 < UInt64.size := by
      rw [UInt64.toNat_min]
      omega
    rw [List.foldl_cons, List.foldl_cons, truncate_truncate hlimit hother,
      ih hmin fun more hmore => hlimits more (List.mem_cons_of_mem other hmore)]

/-- Below the greatest limit two cuts are one at the lesser of their limits, so the same cut done again changes nothing
and the order of cuts does not matter.  What is left is a front of the path, but where the path is cut down to nothing
or to the mark of its leading slash, it becomes the root. -/
theorem truncations_compose (env : Env) (request : Request) (ha : a.toNat + 1 < UInt64.size)
    (hb : b.toNat + 1 < UInt64.size) (scratch later : Scratch) :
    let truncate (limit : UInt64) (request : Request) (scratch : Scratch) :=
      (Action.perform env (.truncate limit) request scratch).request
    let both := truncate b (truncate a request scratch) later
    let marks := if request.path.head? = some "" then 1 else 0
    let front := request.path.take ((min a b).toNat + marks)
    both = truncate (min a b) request scratch ∧
      truncate a (truncate a request scratch) later = truncate a request scratch ∧
      truncate a (truncate b request scratch) later = both ∧
      front <+: request.path ∧
      both.path = if front ≠ request.path ∧ (front = [] ∨ front = [""]) then Path.root else front := by
  intro truncate both marks front
  have htruncate : ∀ limit request scratch, truncate limit request scratch = request.truncate limit :=
    fun limit request scratch => rfl
  have hboth : both = request.truncate (min a b) := truncate_truncate ha hb request
  have hmin : (min a b).toNat + 1 < UInt64.size := by
    rw [UInt64.toNat_min]
    omega
  obtain ⟨hfront, hcut⟩ := Path.cut_eq_front hmin request.path
  refine ⟨hboth, ?_, ?_, hfront, ?_⟩
  · rw [htruncate, htruncate, truncate_truncate ha ha]
    congr 1
    exact UInt64.toNat_inj.mp (by rw [UInt64.toNat_min, Nat.min_self])
  · rw [htruncate, htruncate, truncate_truncate hb ha, hboth]
    congr 1
    exact UInt64.toNat_inj.mp (by rw [UInt64.toNat_min, UInt64.toNat_min, Nat.min_comm])
  · rw [hboth, path_truncate]
    exact hcut

/-- A relative path that is cut away is a rooted one for the next cut. -/
theorem truncations_compose_relative :
    let env : Env := ⟨.execute, "/www", .discard, fun _ => .ok .file⟩
    let truncate (limit : UInt64) (request : Request) := (Action.perform env (.truncate limit) request .start).request
    (0 : UInt64).toNat + 1 < UInt64.size ∧ (2 : UInt64).toNat + 1 < UInt64.size ∧
      (ofUrl "a/b/c").path = ["a", "b", "c"] ∧ (truncate 0 (ofUrl "a/b/c")).path = ["", ""] ∧
      truncate 2 (truncate 0 (ofUrl "a/b/c")) = truncate 0 (truncate 2 (ofUrl "a/b/c")) := by
  intro env truncate
  have hzero : (0 : UInt64).toNat + 1 < UInt64.size := by decide
  have htwo : (2 : UInt64).toNat + 1 < UInt64.size := by decide
  exact ⟨hzero, htwo, by decide, by decide,
    (truncations_compose env (ofUrl "a/b/c") hzero htwo .start .start).2.2.1.symm⟩

end Request

end Reroute
