import Reroute.Action.Shape

/-!
# Addressed elements

An index counts from the first segment or, if it is negative, back from behind the last addressable segment, and it
addresses an element if it comes to a position strictly between the two (`resolve?_eq_some`).  Such a position is a
position of the list (`lt_length_of_resolve?`), and a text that is not empty can be written there without moving any
other element (`resolve?_set`).  The positions that a list of indices keeps are increasing, and the segments at them are
those that are selected (`map_getD_eq_select`).
-/

namespace Reroute

namespace Path

variable {segments : List String} {index : Int} {position : Nat}

/-- The index comes to a position behind the first segment and in front of the end. -/
def Addresses (segments : List String) (index : Int) : Prop :=
  0 < index ∧ index < effectiveCount segments ∨ index < 0 ∧ 0 < effectiveCount segments + index

instance (segments : List String) (index : Int) : Decidable (Addresses segments index) :=
  inferInstanceAs (Decidable (_ ∨ _))

theorem resolve?_eq_some :
    resolve? segments index = some position ↔
      (index = position ∨ effectiveCount segments + index = position) ∧
        0 < position ∧ position < effectiveCount segments := by
  simp only [resolve?, Option.ite_none_right_eq_some, Option.some.injEq]
  split <;> omega

theorem resolve?_eq_none : resolve? segments index = none ↔ ¬Addresses segments index := by
  simp only [resolve?, ite_eq_right_iff, reduceCtorEq, imp_false, Addresses]
  split <;> omega

/-- An index counted from the front is the position itself. -/
theorem resolve?_natCast (h : 0 < position) :
    resolve? segments position = if position < effectiveCount segments then some position else none := by
  have hnonneg : ¬(position : Int) < 0 := by omega
  simp only [resolve?, if_neg hnonneg, Int.toNat_natCast]
  split <;> split <;> first | rfl | omega

theorem effectiveCount_le_length (segments : List String) : effectiveCount segments ≤ segments.length := by
  unfold effectiveCount
  split <;> omega

theorem pos_of_resolve? (h : resolve? segments index = some position) : 0 < position := (resolve?_eq_some.mp h).2.1

/-- An addressed position is one of the list. -/
theorem lt_length_of_resolve? (h : resolve? segments index = some position) : position < segments.length :=
  Nat.lt_of_lt_of_le (resolve?_eq_some.mp h).2.2 (effectiveCount_le_length segments)

/-- A segment goes in front of an addressed one, or behind the first, or in front of it. -/
theorem le_length_of_resolveInsert? (h : resolveInsert? segments index = some position) :
    position ≤ segments.length := by
  unfold resolveInsert? at h
  split at h
  · exact Nat.le_of_lt (lt_length_of_resolve? h)
  · obtain ⟨hposition, heq⟩ := Option.ite_none_right_eq_some.mp h
    cases heq
    exact Nat.le_of_lt (Nat.lt_of_lt_of_le hposition (effectiveCount_le_length segments))

theorem element_of_resolve? (h : resolve? segments index = some position) :
    element segments index = segments.getD position "" := by
  rw [element, h]

theorem element_of_not_addresses (h : ¬Addresses segments index) : element segments index = "" := by
  rw [element, resolve?_eq_none.mpr h]

/-! ### Writing an element -/

/-- A text that is not empty and is written in front of the end does not move the end. -/
private theorem effectiveCount_set (h : position < effectiveCount segments) {text : String} (htext : text ≠ "") :
    effectiveCount (segments.set position text) = effectiveCount segments := by
  have hlast : (segments.set position text).getLast? = some "" ↔ segments.getLast? = some "" := by
    rw [List.getLast?_eq_getElem?, List.getLast?_eq_getElem?, List.length_set, List.getElem?_set]
    split
    · rename_i hposition
      -- the last segment itself is written, so it is not the mark of a trailing slash
      have hmark : ¬segments[segments.length - 1]? = some "" := by
        intro hmark
        rw [effectiveCount, List.getLast?_eq_getElem?, if_pos hmark] at h
        omega
      simp [hmark, htext]
    · rfl
  simp only [effectiveCount, hlast, List.length_set]

theorem resolve?_set (h : position < effectiveCount segments) {text : String} (htext : text ≠ "") (index : Int) :
    resolve? (segments.set position text) index = resolve? segments index := by
  simp only [resolve?, effectiveCount_set h htext]

/-! ### What is left of a path -/

theorem ensureRoot_of_ne (hnil : segments ≠ []) (hempty : segments ≠ [""]) : ensureRoot segments = segments := by
  unfold ensureRoot
  split
  · exact absurd rfl hnil
  · exact absurd rfl hempty
  · rfl

theorem ensureRoot_of_one_lt_length (h : 1 < segments.length) : ensureRoot segments = segments := by
  refine ensureRoot_of_ne ?_ ?_ <;> rintro rfl <;> simp at h

/-! ### Positions that are kept -/

private theorem mem_insertPosition {kept position : Nat} {positions : List Nat} :
    kept ∈ insertPosition position positions ↔ kept = position ∨ kept ∈ positions := by
  fun_induction insertPosition position positions with
  | case1 => simp
  | case2 => simp
  | case3 => simp
  | case4 first positions _ _ ih =>
    simp only [List.mem_cons, ih]
    exact or_left_comm

/-- Position zero is kept, and every position that an index addresses. -/
theorem mem_keepPositions {indices : List Int} :
    position ∈ keepPositions segments indices ↔
      position = 0 ∨ ∃ index ∈ indices, resolve? segments index = some position := by
  rw [← List.mem_filterMap, keepPositions]
  induction indices.filterMap (resolve? segments) with
  | nil => simp
  | cons other positions ih =>
    rw [List.foldr_cons, mem_insertPosition, ih, List.mem_cons]
    exact or_left_comm

theorem zero_mem_keepPositions (segments : List String) (indices : List Int) : 0 ∈ keepPositions segments indices :=
  mem_keepPositions.mpr (.inl rfl)

/-- Position zero is one of the list where there is a segment. -/
theorem lt_length_of_mem_keepPositions (h : segments ≠ []) {indices : List Int}
    (hposition : position ∈ keepPositions segments indices) : position < segments.length := by
  obtain rfl | ⟨index, -, hindex⟩ := mem_keepPositions.mp hposition
  · exact List.length_pos_iff.mpr h
  · exact lt_length_of_resolve? hindex

private theorem pairwise_insertPosition {positions : List Nat} (h : positions.Pairwise (· < ·)) (position : Nat) :
    (insertPosition position positions).Pairwise (· < ·) := by
  fun_induction insertPosition position positions with
  | case1 => exact List.pairwise_singleton _ _
  | case2 first positions hlt =>
    refine List.pairwise_cons.mpr ⟨fun other hother => ?_, h⟩
    obtain rfl | hother := List.mem_cons.mp hother
    · exact hlt
    · exact Nat.lt_trans hlt ((List.pairwise_cons.mp h).1 other hother)
  | case3 => exact h
  | case4 first positions hlt hne ih =>
    obtain ⟨hfirst, hrest⟩ := List.pairwise_cons.mp h
    refine List.pairwise_cons.mpr ⟨fun other hother => ?_, ih hrest⟩
    obtain rfl | hother := mem_insertPosition.mp hother
    · omega
    · exact hfirst other hother

theorem pairwise_keepPositions (segments : List String) (indices : List Int) :
    (keepPositions segments indices).Pairwise (· < ·) := by
  unfold keepPositions
  induction indices.filterMap (resolve? segments) with
  | nil => exact List.pairwise_singleton _ _
  | cons position positions ih => exact pairwise_insertPosition ih position

/-- A position in front of all segments selects none of them. -/
private theorem select_cons_of_lt {position start : Nat} (h : position < start) (positions : List Nat)
    (segments : List String) : select (position :: positions) start segments = select positions start segments := by
  induction segments generalizing start with
  | nil => rfl
  | cons segment segments ih =>
    have hne : (position :: positions).contains start = positions.contains start := by
      simp [Nat.ne_of_gt h]
    rw [select, select, hne, ih (Nat.lt_succ_of_lt h)]

/-- Segments at increasing positions are those that the positions select. -/
theorem map_getD_eq_select {positions : List Nat} (hsorted : positions.Pairwise (· < ·)) {start : Nat}
    (hbounds : ∀ position ∈ positions, start ≤ position ∧ position < start + segments.length) :
    (positions.map fun position => segments.getD (position - start) "") = select positions start segments := by
  induction segments generalizing positions start with
  | nil =>
    cases positions with
    | nil => rfl
    | cons position positions =>
      have hposition := hbounds position List.mem_cons_self
      simp only [List.length_nil] at hposition
      omega
  | cons segment segments ih =>
    -- what is behind the first segment is counted from one position further on
    have hbehind : ∀ later : List Nat, later.Pairwise (· < ·) → (∀ position ∈ later, start < position) →
        (∀ position ∈ later, position < start + (segment :: segments).length) →
        (later.map fun position => (segment :: segments).getD (position - start) "") =
          select later (start + 1) segments := by
      intro later hlater hfront hback
      rw [← ih hlater]
      · refine List.map_congr_left fun position hposition => ?_
        have hstep : position - start = position - (start + 1) + 1 := by
          have hstart := hfront position hposition
          omega
        rw [hstep, List.getD_cons_succ]
      · intro position hposition
        have hstart := hfront position hposition
        have hend := hback position hposition
        rw [List.length_cons] at hend
        omega
    cases positions with
    | nil => exact hbehind [] List.Pairwise.nil (by simp) (by simp)
    | cons position later =>
      obtain ⟨hfirst, hlater⟩ := List.pairwise_cons.mp hsorted
      obtain ⟨hposition, hbounds'⟩ := List.forall_mem_cons.mp hbounds
      by_cases hstart : position = start
      · subst hstart
        have hcontains : (position :: later).contains position = true := by simp
        rw [select, if_pos hcontains, select_cons_of_lt (Nat.lt_succ_self position), List.map_cons, Nat.sub_self,
          List.getD_cons_zero, hbehind later hlater hfirst fun other hother => (hbounds' other hother).2]
      · have hfront : ∀ other ∈ position :: later, start < other := by
          intro other hother
          obtain rfl | hother := List.mem_cons.mp hother
          · omega
          · have hlt := hfirst other hother
            omega
        have hcontains : ¬(position :: later).contains start = true := by
          rw [List.contains_iff_mem]
          exact fun hmem => Nat.lt_irrefl start (hfront start hmem)
        rw [select, if_neg hcontains]
        exact hbehind _ hsorted hfront fun other hother => (hbounds other hother).2

/-- The segments at the kept positions are those that are selected. -/
theorem map_getD_keepPositions (h : segments ≠ []) (indices : List Int) :
    ((keepPositions segments indices).map fun position => segments.getD position "") =
      select (keepPositions segments indices) 0 segments :=
  map_getD_eq_select (pairwise_keepPositions segments indices) fun position hposition =>
    ⟨Nat.zero_le position, by simpa using lt_length_of_mem_keepPositions h hposition⟩

end Path

/-! ### The segments of a request -/

@[simp] theorem Request.path_setSegments (request : Request) (segments : List String) :
    (request.setSegments segments).path = segments := by
  unfold setSegments
  split
  · rename_i hsame
    exact hsame.symm
  · rfl

end Reroute
