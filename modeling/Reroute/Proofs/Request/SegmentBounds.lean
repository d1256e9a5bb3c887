import Reroute.Proofs.Request.Elements
import Reroute.Proofs.Request.PathText

/-!
# Segments in bounds

Reads, writes, insertions and removals at a position are defined on every list, whether or not the position is one of
it.  Here they are written once more so that they come to nothing as soon as a position is out of bounds (`…InBounds?`),
and with them what is done to a path at computed positions.  Where a path has one segment at least, nothing is done at a
position that is not there.
-/

namespace Reroute

/-! ### Segments at positions -/

/-- Steps that all give something, one after the other. -/
private theorem mapM_eq_some_map {α β : Type} {f : α → Option β} {g : α → β} {items : List α}
    (h : ∀ item ∈ items, f item = some (g item)) : items.mapM f = some (items.map g) := by
  induction items with
  | nil => rfl
  | cons item items ih =>
    obtain ⟨hitem, hitems⟩ := List.forall_mem_cons.mp h
    rw [List.mapM_cons, hitem, ih hitems]
    rfl

namespace Path

/-- Overwrites the segment at a position, which has to be one of the list. -/
def setInBounds? (segments : List String) (position : Nat) (text : String) : Option (List String) :=
  if position < segments.length then some (segments.set position text) else none

/-- Inserts a segment at a position, which may be the end of the list but not beyond. -/
def insertInBounds? (segments : List String) (position : Nat) (text : String) : Option (List String) :=
  if position ≤ segments.length then some (segments.insertIdx position text) else none

/-- Removes the segment at a position, which has to be one of the list. -/
def removeInBounds? (segments : List String) (position : Nat) : Option (List String) :=
  if position < segments.length then some (segments.eraseIdx position) else none

/-- The segment at an index. -/
def elementInBounds? (segments : List String) (index : Int) : Option String :=
  match resolve? segments index with
  | some position => segments[position]?
  | none => some ""

/-- An emptied path becomes `/`, and so does one of which the first segment is all that is left, if it is empty. -/
def ensureRootInBounds? (segments : List String) : Option (List String) :=
  let padded := if segments = [] then [""] else segments
  if padded.length < 2 then padded[0]?.map fun first => if first = "" then padded ++ [""] else padded
  else some padded

/-- The segments at the positions that a list of indices keeps, read one after the other. -/
def keepInBounds? (segments : List String) (indices : List Int) : Option (List String) := do
  let kept ← (keepPositions segments indices).mapM (segments[·]?)
  ensureRootInBounds? kept

variable {segments : List String}

private theorem length_of_removeInBounds? {rest : List String} (h : removeInBounds? segments 0 = some rest) :
    rest.length < segments.length := by
  obtain ⟨hlength, hrest⟩ := Option.ite_none_right_eq_some.mp h
  cases hrest
  rw [List.length_eraseIdx, if_pos hlength]
  omega

/-- Removes the segment at position zero for as long as it is empty and another one is left. -/
def dropLeadingInBounds? (segments : List String) : Option (List String) :=
  if 1 < segments.length ∧ segments.head? = some "" then
    match _h : removeInBounds? segments 0 with
    | some rest => dropLeadingInBounds? rest
    | none => none
  else some segments
termination_by segments.length
decreasing_by exact length_of_removeInBounds? _h

/-- Applies a policy to the front of a path. -/
def normalizeLeadingInBounds? (policy : SlashPolicy) (segments : List String) : Option (List String) :=
  match policy with
  | .leave => some segments
  | .add => if segments.length < 2 ∨ segments.head? ≠ some "" then insertInBounds? segments 0 "" else some segments
  | .remove => dropLeadingInBounds? segments

/-- Applies a policy to each end; at the back segments are only put on and taken off. -/
def normalizeInBounds? (leading trailing : SlashPolicy) (segments : List String) : Option (List String) :=
  (normalizeLeadingInBounds? leading segments).map (normalizeTrailing trailing)

/-! ### In bounds -/

theorem setInBounds?_eq {position : Nat} (h : position < segments.length) (text : String) :
    setInBounds? segments position text = some (segments.set position text) :=
  if_pos h

theorem insertInBounds?_eq {position : Nat} (h : position ≤ segments.length) (text : String) :
    insertInBounds? segments position text = some (segments.insertIdx position text) :=
  if_pos h

theorem removeInBounds?_eq {position : Nat} (h : position < segments.length) :
    removeInBounds? segments position = some (segments.eraseIdx position) :=
  if_pos h

theorem elementInBounds?_eq (segments : List String) (index : Int) :
    elementInBounds? segments index = some (element segments index) := by
  unfold elementInBounds? element
  cases hposition : resolve? segments index with
  | some position =>
    simp only [List.getD_eq_getElem?_getD, List.getElem?_eq_getElem (lt_length_of_resolve? hposition), Option.getD_some]
  | none => rfl

theorem ensureRootInBounds?_eq (segments : List String) :
    ensureRootInBounds? segments = some (ensureRoot segments) := by
  match segments with
  | [] => rfl
  | [first] =>
    by_cases hfirst : first = ""
    · rw [hfirst]
      rfl
    · simp [ensureRootInBounds?, ensureRoot, hfirst]
  | first :: next :: rest =>
    have hlength : ¬(first :: next :: rest).length < 2 := by simp
    simp only [ensureRootInBounds?, ensureRoot, reduceCtorEq, if_false, if_neg hlength]

private theorem dropLeadingInBounds?_eq (segments : List String) :
    dropLeadingInBounds? segments = some (dropLeading segments) := by
  fun_induction dropLeading segments with
  | case1 next segments ih =>
    have hremoved : removeInBounds? ("" :: next :: segments) 0 = some (next :: segments) :=
      removeInBounds?_eq (Nat.zero_lt_succ _)
    rw [dropLeadingInBounds?, if_pos ⟨by simp, rfl⟩]
    split
    · rename_i rest hrest
      rw [hremoved] at hrest
      cases hrest
      exact ih
    · rename_i hnone
      rw [hremoved] at hnone
      cases hnone
  | case2 segments hlast =>
    have hdone : ¬(1 < segments.length ∧ segments.head? = some "") := by
      rintro ⟨hlength, hhead⟩
      cases segments with
      | nil => cases hhead
      | cons first segments =>
        cases segments with
        | nil => exact absurd hlength (Nat.lt_irrefl 1)
        | cons next rest =>
          cases hhead
          exact hlast next rest rfl
    rw [dropLeadingInBounds?, if_neg hdone]

theorem normalizeInBounds?_eq (leading trailing : SlashPolicy) (segments : List String) :
    normalizeInBounds? leading trailing segments = some (normalize leading trailing segments) := by
  have hleading : normalizeLeadingInBounds? leading segments = some (normalizeLeading leading segments) := by
    cases leading with
    | leave => rfl
    | add =>
      simp only [normalizeLeadingInBounds?, normalizeLeading]
      split
      · rw [insertInBounds?_eq (Nat.zero_le _), List.insertIdx_zero]
      · rfl
    | remove => exact dropLeadingInBounds?_eq segments
  rw [normalizeInBounds?, hleading, Option.map_some, normalize]

theorem keepInBounds?_eq (h : segments ≠ []) (indices : List Int) :
    keepInBounds? segments indices = some (ensureRoot (select (keepPositions segments indices) 0 segments)) := by
  have hread : (keepPositions segments indices).mapM (segments[·]?) =
      some ((keepPositions segments indices).map fun position => segments.getD position "") := by
    refine mapM_eq_some_map fun position hposition => ?_
    rw [List.getD_eq_getElem?_getD, List.getElem?_eq_getElem (lt_length_of_mem_keepPositions h hposition),
      Option.getD_some]
  rw [keepInBounds?, hread, map_getD_keepPositions h]
  exact ensureRootInBounds?_eq _

end Path

end Reroute
