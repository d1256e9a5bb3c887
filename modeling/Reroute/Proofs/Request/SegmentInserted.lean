import Reroute.Proofs.Request.FirstSegment
import Reroute.Rule.Evaluate

/-!
# Inserting and deleting a segment

A segment that is inserted in front of an element is one more addressable segment and leaves the end of the path where
it is (`effectiveCount_insertIdx`), so the same index addresses it and deletes it again.  The other way round an element
that is deleted and inserted again is put where it was, unless it was the last: then its index addresses nothing any
more.  At the front a segment goes behind the mark of a slash, and so it is element one; only where there is no such
mark it is the first segment itself, and element one is another (`Request.insert_delete_inverse`).
-/

namespace Reroute

namespace Path

variable {segments : List String} {position : Nat}

/-! ### Addresses behind an insertion or a removal -/

private theorem resolveInsert?_of_pos (h : 0 < position) :
    resolveInsert? segments position = resolve? segments position := by
  rw [resolveInsert?, if_pos (by omega)]

/-- Behind the mark of a slash the front is the place of element one. -/
private theorem resolveInsert?_zero_of_head (h : segments.head? = some "") :
    resolveInsert? segments 0 = resolveInsert? segments 1 := by
  have hone : resolveInsert? segments 1 = if 1 < effectiveCount segments then some 1 else none :=
    (resolveInsert?_of_pos Nat.one_pos).trans (resolve?_natCast Nat.one_pos)
  rw [hone]
  simp only [resolveInsert?, h, ne_eq, not_true_eq_false, if_false, if_true]

/-- A first segment that is not empty is no mark, neither of a leading nor of a trailing slash. -/
private theorem effectiveCount_pos {first : String} (h : segments.head? = some first) (hfirst : first ≠ "") :
    0 < effectiveCount segments := by
  obtain ⟨rest, rfl⟩ := List.head?_eq_some_iff.mp h
  have hbegins : Begins (fun _ => True) (first :: rest) := ⟨trivial, fun hempty => absurd hempty hfirst⟩
  exact hbegins.effectiveCount_pos

/-- Without the mark of a slash there is always a place at the very front. -/
private theorem resolveInsert?_zero_of_head_ne {first : String} (h : segments.head? = some first)
    (hfirst : first ≠ "") :
    resolveInsert? segments 0 = some 0 := by
  have hmark : ¬segments.head? = some "" := by simpa [h] using hfirst
  simp only [resolveInsert?, hmark, ne_eq, not_true_eq_false, if_false, if_pos (effectiveCount_pos h hfirst)]

private theorem getLast?_insertIdx (h : position < segments.length) (text : String) :
    (segments.insertIdx position text).getLast? = segments.getLast? := by
  have hlength := List.length_insertIdx_of_le_length (Nat.le_of_lt h) text
  have hbehind : ¬segments.length + 1 - 1 < position := by omega
  have hother : ¬segments.length + 1 - 1 = position := by omega
  rw [List.getLast?_eq_getElem?, hlength, List.getElem?_insertIdx, if_neg hbehind, if_neg hother,
    List.getLast?_eq_getElem?, Nat.add_sub_cancel]

private theorem getLast?_eraseIdx (h : position + 1 < segments.length) :
    (segments.eraseIdx position).getLast? = segments.getLast? := by
  have hlength := List.length_eraseIdx_of_lt (Nat.lt_of_succ_lt h)
  have hbehind : ¬segments.length - 1 - 1 < position := by omega
  have hlast : segments.length - 1 - 1 + 1 = segments.length - 1 := by omega
  rw [List.getLast?_eq_getElem?, hlength, List.getElem?_eraseIdx, if_neg hbehind, hlast, List.getLast?_eq_getElem?]

/-- An inserted segment is addressable, and the others stay so. -/
theorem effectiveCount_insertIdx (h : position < effectiveCount segments) (text : String) :
    effectiveCount (segments.insertIdx position text) = effectiveCount segments + 1 := by
  have hposition := Nat.lt_of_lt_of_le h (effectiveCount_le_length segments)
  have hlength := List.length_insertIdx_of_le_length (Nat.le_of_lt hposition) text
  rw [effectiveCount, getLast?_insertIdx hposition, hlength, effectiveCount]
  split <;> omega

/-- A removed segment that is not the last addressable one takes only itself away. -/
private theorem effectiveCount_eraseIdx (h : position + 1 < effectiveCount segments) :
    effectiveCount (segments.eraseIdx position) + 1 = effectiveCount segments := by
  have hposition := Nat.lt_of_lt_of_le h (effectiveCount_le_length segments)
  have hlength := List.length_eraseIdx_of_lt (Nat.lt_of_succ_lt hposition)
  rw [effectiveCount, getLast?_eraseIdx hposition, hlength, effectiveCount]
  split <;> omega

/-! ### One segment more -/

/-- The longer path has one segment more, at the position; all others are as they were, in their order, and so is the
mark of a trailing slash. -/
structure Gains (segments longer : List String) (position : Nat) (text : String) : Prop where
  longer_eq : longer = segments.take position ++ text :: segments.drop position
  getLast?_eq : longer.getLast? = segments.getLast?

private theorem insertIdx_eq_take_append_drop {α : Type} {items : List α} {position : Nat}
    (h : position ≤ items.length) (item : α) :
    items.insertIdx position item = items.take position ++ item :: items.drop position := by
  induction items generalizing position with
  | nil =>
    obtain rfl : position = 0 := Nat.le_zero.mp h
    rfl
  | cons first items ih =>
    cases position with
    | zero => rfl
    | succ position =>
      rw [List.insertIdx_succ_cons, ih (Nat.le_of_succ_le_succ h), List.take_succ_cons, List.drop_succ_cons,
        List.cons_append]

private theorem gains_insertIdx (h : position < segments.length) (text : String) :
    Gains segments (segments.insertIdx position text) position text where
  longer_eq := insertIdx_eq_take_append_drop (Nat.le_of_lt h) text
  getLast?_eq := getLast?_insertIdx h text

private theorem gains_eraseIdx (h : position + 1 < segments.length) :
    Gains (segments.eraseIdx position) segments position (segments.getD position "") where
  longer_eq := by
    have hposition : position < segments.length := Nat.lt_of_succ_lt h
    have hlength := List.length_eraseIdx_of_lt hposition
    have hback := List.insertIdx_eraseIdx_getElem hposition
    rw [insertIdx_eq_take_append_drop (by omega)] at hback
    rw [List.getD_eq_getElem?_getD, List.getElem?_eq_getElem hposition, Option.getD_some]
    exact hback.symm
  getLast?_eq := (getLast?_eraseIdx h).symm

end Path

namespace Request

variable {request : Request} {position : Nat}

/-! ### Inserted and deleted again -/

private theorem insertSegment_of_lt (h : 0 < position) (hcount : position < Path.effectiveCount request.path)
    (text : String) :
    request.insertSegment position text = request.modifyPath (·.insertIdx position text) := by
  rw [insertSegment, Path.resolveInsert?_of_pos h, Path.resolve?_natCast h, if_pos hcount]

private theorem insertSegment_of_not_lt (h : 0 < position) (hcount : ¬position < Path.effectiveCount request.path)
    (text : String) : request.insertSegment position text = request := by
  rw [insertSegment, Path.resolveInsert?_of_pos h, Path.resolve?_natCast h, if_neg hcount]

private theorem delete_of_lt (h : 0 < position) (hcount : position < Path.effectiveCount request.path) :
    request.delete (.pathElement position) =
      request.modifyPath fun segments => Path.ensureRoot (segments.eraseIdx position) := by
  simp only [delete, Path.resolve?_natCast h, if_pos hcount]

private theorem delete_of_not_lt (h : 0 < position) (hcount : ¬position < Path.effectiveCount request.path) :
    request.delete (.pathElement position) = request := by
  simp only [delete, Path.resolve?_natCast h, if_neg hcount]

/-- An insertion and the deletion behind it: the path is the same again, and in between it has one segment more, or
nothing was done at all. -/
def Undone (request inserted deleted : Request) (position : Nat) (text : String) : Prop :=
  deleted.path = request.path ∧
    if position < Path.effectiveCount request.path then Path.Gains request.path inserted.path position text
    else inserted = request ∧ deleted = request

private theorem undone_delete (h : 0 < position) (text : String) :
    let inserted := request.insertSegment position text
    request.Undone inserted (inserted.delete (.pathElement position)) position text := by
  intro inserted
  by_cases hcount : position < Path.effectiveCount request.path
  · have hlength := Nat.lt_of_lt_of_le hcount (Path.effectiveCount_le_length request.path)
    have hinserted : inserted = request.modifyPath (·.insertIdx position text) := insertSegment_of_lt h hcount text
    have hpath : inserted.path = request.path.insertIdx position text := by
      rw [hinserted]
      rfl
    have hcount' : position < Path.effectiveCount inserted.path := by
      rw [hpath, Path.effectiveCount_insertIdx hcount]
      omega
    rw [Undone, if_pos hcount, delete_of_lt h hcount']
    refine ⟨?_, hpath ▸ Path.gains_insertIdx hlength text⟩
    show Path.ensureRoot (inserted.path.eraseIdx position) = request.path
    rw [hpath, List.eraseIdx_insertIdx_self, Path.ensureRoot_of_one_lt_length (by omega)]
  · have hinserted : inserted = request := insertSegment_of_not_lt h hcount text
    rw [Undone, if_neg hcount, hinserted, delete_of_not_lt h hcount]
    exact ⟨rfl, rfl, rfl⟩

/-- At the front, behind the mark of a slash, a segment is inserted as element one. -/
private theorem insertSegment_zero_of_head (h : request.path.head? = some "") (text : String) :
    request.insertSegment 0 text = request.insertSegment 1 text := by
  rw [insertSegment, insertSegment, Path.resolveInsert?_zero_of_head h]

/-- Without a mark it is inserted in front of the first segment. -/
private theorem insertSegment_zero_of_head_ne {first : String} (h : request.path.head? = some first)
    (hfirst : first ≠ "") (text : String) : request.insertSegment 0 text = request.modifyPath (·.insertIdx 0 text) := by
  rw [insertSegment, Path.resolveInsert?_zero_of_head_ne h hfirst]

/-- Then the first segment becomes element one, and it is the one that is deleted. -/
private theorem path_delete_insertSegment_zero {first : String} {rest : List String}
    (hpath : request.path = first :: rest) (hfirst : first ≠ "") (text : String) :
    ((request.insertSegment 0 text).delete (.pathElement 1)).path = Path.ensureRoot (text :: rest) := by
  have hhead : request.path.head? = some first := by rw [hpath]; rfl
  have hlonger : (request.insertSegment 0 text).path = request.path.insertIdx 0 text := by
    rw [insertSegment_zero_of_head_ne hhead hfirst]
    rfl
  have hcount : 1 < Path.effectiveCount (request.insertSegment 0 text).path := by
    have hpos := Path.effectiveCount_pos hhead hfirst
    have hmore := Path.effectiveCount_insertIdx hpos text
    rw [hlonger]
    omega
  have hdelete : (request.insertSegment 0 text).delete (.pathElement 1) = _ := delete_of_lt Nat.one_pos hcount
  rw [hdelete]
  show Path.ensureRoot ((request.insertSegment 0 text).path.eraseIdx 1) = _
  rw [hlonger, hpath]
  rfl

/-- A path with another first segment is the same only if that one is the same. -/
private theorem ensureRoot_cons_eq_cons {text first : String} {rest : List String} (hfirst : first ≠ "") :
    Path.ensureRoot (text :: rest) = first :: rest ↔ text = first := by
  by_cases hroot : text = "" ∧ rest = []
  · obtain ⟨rfl, rfl⟩ := hroot
    simp [Path.ensureRoot, Path.root, Ne.symm hfirst]
  · have hsame : Path.ensureRoot (text :: rest) = text :: rest := by
      refine Path.ensureRoot_of_ne (List.cons_ne_nil _ _) fun hempty => ?_
      cases hempty
      exact hroot ⟨rfl, rfl⟩
    rw [hsame, List.cons.injEq, and_iff_left rfl]

/-! ### Deleted and inserted again -/

private theorem gains_delete (h : 0 < position) (hcount : position + 1 < Path.effectiveCount request.path) :
    let deleted := request.delete (.pathElement position)
    let text := Path.element request.path position
    (deleted.insertSegment position text).path = request.path ∧
      Path.Gains deleted.path request.path position text := by
  intro deleted text
  have hlength := Nat.lt_of_lt_of_le hcount (Path.effectiveCount_le_length request.path)
  have hposition : position < request.path.length := Nat.lt_of_succ_lt hlength
  have hpath : deleted.path = request.path.eraseIdx position := by
    have hlonger : 1 < (request.path.eraseIdx position).length := by
      rw [List.length_eraseIdx_of_lt hposition]
      omega
    simp only [deleted, delete_of_lt h (Nat.lt_of_succ_lt hcount)]
    exact Path.ensureRoot_of_one_lt_length hlonger
  have htext : text = request.path.getD position "" := by
    refine Path.element_of_resolve? ?_
    rw [Path.resolve?_natCast h, if_pos (Nat.lt_of_succ_lt hcount)]
  have hcount' : position < Path.effectiveCount deleted.path := by
    have hless := Path.effectiveCount_eraseIdx hcount
    rw [hpath]
    omega
  constructor
  · rw [insertSegment_of_lt h hcount']
    show deleted.path.insertIdx position text = request.path
    rw [hpath, htext, List.getD_eq_getElem?_getD, List.getElem?_eq_getElem hposition, Option.getD_some,
      List.insertIdx_eraseIdx_getElem hposition]
  · rw [hpath, htext]
    exact Path.gains_eraseIdx hlength

/-! ### In a row -/

/-- A segment that is inserted in front of an element is deleted again at the same index, and one that is inserted at
the front of a path at index one, exactly if the path has the mark of a slash in front or the segment is its first one;
an element other than the last that is deleted is inserted again at its index. -/
theorem insert_delete_inverse (env : Env) (request : Request) (scratch later : Scratch) :
    let insert (index : Int) (value : Value) := (Action.perform env (.insert index value) request scratch).request
    let delete (index : Int) (changed : Request) :=
      (Action.perform env (.delete (.pathElement index)) changed later).request
    (∀ (index : Nat) (value : Value), 0 < index →
        request.Undone (insert index value) (delete index (insert index value)) index (value.read request scratch)) ∧
      (∀ (first : String) (value : Value), request.path.head? = some first →
        ((delete 1 (insert 0 value)).path = request.path ↔ first = "" ∨ first = value.read request scratch) ∧
          (first = "" →
            request.Undone (insert 0 value) (delete 1 (insert 0 value)) 1 (value.read request scratch)) ∧
          (first ≠ "" → Path.Gains request.path (insert 0 value).path 0 (value.read request scratch))) ∧
      ∀ index : Nat, 0 < index → index + 1 < Path.effectiveCount request.path →
        let text := Path.element request.path index
        (Action.perform env (.insert index (.literal text)) (delete index request) later).request.path =
            request.path ∧
          Path.Gains (delete index request).path request.path index text := by
  intro insert delete
  have hinsert : ∀ index value, insert index value = request.insertSegment index (value.read request scratch) :=
    fun index value => rfl
  have hdelete : ∀ index changed, delete index changed = changed.delete (.pathElement index) := fun index changed => rfl
  refine ⟨fun index value h => ?_, fun first value hfirst => ?_, fun index h hcount => ?_⟩
  · rw [hinsert, hdelete]
    exact undone_delete h _
  · rw [hinsert, hdelete]
    by_cases hempty : first = ""
    · subst hempty
      have hundone := @undone_delete request 1 Nat.one_pos (value.read request scratch)
      rw [insertSegment_zero_of_head hfirst]
      exact ⟨iff_of_true hundone.1 (.inl rfl), fun _ => hundone, fun hne => absurd rfl hne⟩
    · obtain ⟨rest, hpath⟩ := List.head?_eq_some_iff.mp hfirst
      have hlength : 0 < request.path.length := by
        rw [hpath]
        exact Nat.succ_pos _
      refine ⟨?_, fun hmark => absurd hmark hempty, fun _ => ?_⟩
      · rw [path_delete_insertSegment_zero hpath hempty, hpath, ensureRoot_cons_eq_cons hempty]
        simp [hempty, eq_comm]
      · rw [insertSegment_zero_of_head_ne hfirst hempty]
        exact Path.gains_insertIdx hlength _
  · exact gains_delete h hcount

theorem insert_delete_inverse_trailing :
    let env : Env := ⟨.execute, "/www", .discard, fun _ => .ok .file⟩
    let request := ofUrl "/a//b/"
    let insert (index : Int) (text : String) :=
      (Action.perform env (.insert index (.literal text)) request .start).request
    let delete (index : Int) (changed : Request) :=
      (Action.perform env (.delete (.pathElement index)) changed .start).request
    0 < 3 ∧ request.Undone (insert 3 "v") (delete 3 (insert 3 "v")) 3 "v" ∧
      request.path.head? = some "" ∧ request.Undone (insert 0 "v") (delete 1 (insert 0 "v")) 1 "v" ∧
      2 + 1 < Path.effectiveCount request.path ∧
      Path.Gains (delete 2 request).path request.path 2 (Path.element request.path 2) := by
  intro env request insert delete
  have hlaw := insert_delete_inverse env request .start .start
  have hhead : request.path.head? = some "" := by decide
  have hcount : 2 + 1 < Path.effectiveCount request.path := by decide
  exact ⟨by decide, hlaw.1 3 (.literal "v") (by decide), hhead, (hlaw.2.1 "" (.literal "v") hhead).2.1 rfl, hcount,
    (hlaw.2.2 2 (by decide) hcount).2⟩

/-- A path that begins with a slash need not have the mark of one: its first segment may have the slash itself. -/
theorem insert_delete_slashed :
    let env : Env := ⟨.execute, "/www", .discard, fun _ => .ok .file⟩
    let perform (action : Action) (request : Request) := (Action.perform env action request .start).request
    let request := perform (.insert 0 (.literal "/x")) (ofUrl "b")
    let restored := perform (.delete (.pathElement 1)) (perform (.insert 0 (.literal "v")) request)
    Path.IsRootedText (Path.join request.path) ∧ request.path = ["/x", "b"] ∧ restored.path = ["v", "b"] ∧
      restored.path ≠ request.path := by
  decide

end Request

end Reroute
