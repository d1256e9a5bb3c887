import Mathlib.Data.List.InsertIdx
import Reroute.Action.Shape
import Reroute.Proofs.Text.Basic

/-!
# Reading back a written path

Texts and lists of segments stand for each other: a text is split into one segment at least, none of which has a
slash, and exactly the lists of such segments are split again from their text (`split_join_inverse`).  Segments are
canonical if each can moreover stand in front of a query.  What is split from a path's text is canonical, and every way
of shaping a path keeps it canonical.
-/

namespace Reroute.Path

/-! ### Segments and texts -/

/-- One segment at least, and no slash in any. -/
structure Segmented (segments : List String) : Prop where
  ne_nil : segments ≠ []
  slash : ∀ segment ∈ segments, '/' ∉ segment.toList

private theorem segmented_split (text : String) : Segmented (split text) :=
  ⟨Text.split_ne_nil '/' text, fun _ => Text.not_mem_of_mem_split⟩

/-- Segments without slashes are split again from their text. -/
private theorem Segmented.split_join {segments : List String} (h : Segmented segments) :
    split (join segments) = segments :=
  Text.split_join rfl h.ne_nil h.slash

theorem split_join_inverse (text : String) (segments : List String) :
    Segmented (split text) ∧ join (split text) = text ∧
      (split (join segments) = segments ↔ Segmented segments) := by
  refine ⟨segmented_split text, Text.join_split rfl text, fun h => ?_, Segmented.split_join⟩
  rw [← h]
  exact segmented_split (join segments)

/-! ### Canonical segments -/

/-- A text as it can stand between slashes in front of a query. -/
structure IsSegment (text : String) : Prop where
  slash : '/' ∉ text.toList
  mark : '?' ∉ text.toList

/-- One segment at least, and each as it can stand between slashes. -/
structure Canonical (segments : List String) : Prop where
  ne_nil : segments ≠ []
  isSegment : ∀ segment ∈ segments, IsSegment segment

private theorem isSegment_empty : IsSegment "" := ⟨List.not_mem_nil, List.not_mem_nil⟩

private theorem IsSegment.append {a b : String} (ha : IsSegment a) (hb : IsSegment b) : IsSegment (a ++ b) where
  slash := by simp [ha.slash, hb.slash]
  mark := by simp [ha.mark, hb.mark]

variable {segments : List String}

theorem canonical_split {text : String} (h : '?' ∉ text.toList) : Canonical (split text) where
  ne_nil := (segmented_split text).ne_nil
  isSegment segment hsegment :=
    ⟨(segmented_split text).slash segment hsegment, fun hmark => h (Text.mem_of_mem_split hsegment hmark)⟩

namespace Canonical

/-- Canonical segments are split again from their text. -/
theorem split_join (h : Canonical segments) : split (join segments) = segments :=
  Segmented.split_join ⟨h.ne_nil, fun segment hsegment => (h.isSegment segment hsegment).slash⟩

theorem not_mem_join (h : Canonical segments) : '?' ∉ (join segments).toList := by
  intro hmem
  obtain hmark | ⟨segment, hsegment, hmark⟩ := Text.mem_join rfl hmem
  · exact absurd hmark (by decide)
  · exact (h.isSegment segment hsegment).mark hmark

/-! ### Writing segments -/

theorem set (h : Canonical segments) (position : Nat) {text : String} (htext : IsSegment text) :
    Canonical (segments.set position text) where
  ne_nil := by simp [h.ne_nil]
  isSegment segment hsegment := by
    obtain hsegment | rfl := List.mem_or_eq_of_mem_set hsegment
    · exact h.isSegment segment hsegment
    · exact htext

theorem insertIdx (h : Canonical segments) (position : Nat) {text : String} (htext : IsSegment text) :
    Canonical (segments.insertIdx position text) where
  ne_nil := by
    have hlength := List.length_pos_iff.mpr h.ne_nil
    apply List.length_pos_iff.mp
    rw [List.length_insertIdx]
    split <;> omega
  isSegment segment hsegment := by
    obtain rfl | hsegment := List.eq_or_mem_of_mem_insertIdx hsegment
    · exact htext
    · exact h.isSegment segment hsegment

theorem modify (h : Canonical segments) (position : Nat) {text : String} (htext : IsSegment text) :
    Canonical (segments.modify position (· ++ text)) := by
  rw [List.modify_eq_set]
  refine h.set position (IsSegment.append ?_ htext)
  cases hold : segments[position]? with
  | none => exact isSegment_empty
  | some old => exact h.isSegment old (List.mem_of_getElem? hold)

/-! ### Shaping paths -/

/-- Segments that were there before or are empty. -/
private theorem of_mem (h : Canonical segments) {others : List String} (hne : others ≠ [])
    (hothers : ∀ segment ∈ others, segment ∈ segments ∨ segment = "") : Canonical others where
  ne_nil := hne
  isSegment segment hsegment := by
    obtain hsegment | rfl := hothers segment hsegment
    · exact h.isSegment segment hsegment
    · exact isSegment_empty

end Canonical

theorem canonical_root : Canonical root := canonical_split (by decide : '?' ∉ "/".toList)

theorem ensureRoot_ne_nil (segments : List String) : ensureRoot segments ≠ [] := by
  unfold ensureRoot
  split <;> simp_all [root]

private theorem mem_ensureRoot {segment : String} (h : segment ∈ ensureRoot segments) :
    segment ∈ segments ∨ segment = "" := by
  unfold ensureRoot at h
  split at h
  · exact .inr (by simpa [root] using h)
  · exact .inr (by simpa [root] using h)
  · exact .inl h

theorem mem_of_mem_select {segment : String} {positions : List Nat} {start : Nat}
    (h : segment ∈ select positions start segments) : segment ∈ segments := by
  induction segments generalizing start with
  | nil => exact h
  | cons first segments ih =>
    rw [select] at h
    split at h
    · obtain rfl | h := List.mem_cons.mp h
      · exact List.mem_cons_self
      · exact List.mem_cons_of_mem _ (ih h)
    · exact List.mem_cons_of_mem _ (ih h)

private theorem mem_of_mem_dropLeading {segment : String} (h : segment ∈ dropLeading segments) :
    segment ∈ segments := by
  fun_induction dropLeading segments with
  | case1 next segments ih => exact List.mem_cons_of_mem _ (ih h)
  | case2 segments => exact h

private theorem dropLeading_ne_nil (h : segments ≠ []) : dropLeading segments ≠ [] := by
  fun_induction dropLeading segments with
  | case1 next segments ih => exact ih (List.cons_ne_nil next segments)
  | case2 segments => exact h

private theorem normalizeLeading_ne_nil (h : segments ≠ []) (policy : SlashPolicy) :
    normalizeLeading policy segments ≠ [] := by
  cases policy with
  | leave => exact h
  | add =>
    simp only [normalizeLeading]
    split
    · exact List.cons_ne_nil "" segments
    · exact h
  | remove => exact dropLeading_ne_nil h

private theorem normalizeTrailing_ne_nil (h : segments ≠ []) (policy : SlashPolicy) :
    normalizeTrailing policy segments ≠ [] := by
  cases policy with
  | leave => exact h
  | add =>
    simp only [normalizeTrailing]
    split
    · exact List.append_ne_nil_of_right_ne_nil segments (List.cons_ne_nil "" [])
    · exact h
  | remove => exact List.reverse_ne_nil_iff.mpr (dropLeading_ne_nil (List.reverse_ne_nil_iff.mpr h))

theorem normalize_ne_nil (h : segments ≠ []) (leading trailing : SlashPolicy) :
    normalize leading trailing segments ≠ [] :=
  normalizeTrailing_ne_nil (normalizeLeading_ne_nil h leading) trailing

namespace Canonical

theorem ensureRoot (h : Canonical segments) {others : List String} (hothers : ∀ segment ∈ others, segment ∈ segments) :
    Canonical (ensureRoot others) :=
  h.of_mem (ensureRoot_ne_nil others) fun _ hsegment => (mem_ensureRoot hsegment).imp_left (hothers _)

private theorem normalizeLeading (h : Canonical segments) (policy : SlashPolicy) :
    Canonical (normalizeLeading policy segments) := by
  cases policy with
  | leave => exact h
  | add =>
    simp only [Path.normalizeLeading]
    split
    · exact h.of_mem (List.cons_ne_nil "" segments) fun _ hsegment => (List.mem_cons.mp hsegment).symm
    · exact h
  | remove => exact h.of_mem (dropLeading_ne_nil h.ne_nil) fun _ hsegment => .inl (mem_of_mem_dropLeading hsegment)

private theorem normalizeTrailing (h : Canonical segments) (policy : SlashPolicy) :
    Canonical (normalizeTrailing policy segments) := by
  cases policy with
  | leave => exact h
  | add =>
    simp only [Path.normalizeTrailing]
    split
    · exact h.of_mem (by simp) fun _ hsegment => by simpa using hsegment
    · exact h
  | remove =>
    have hreversed : segments.reverse ≠ [] := List.reverse_ne_nil_iff.mpr h.ne_nil
    refine h.of_mem (List.reverse_ne_nil_iff.mpr (dropLeading_ne_nil hreversed)) fun segment hsegment => .inl ?_
    exact List.mem_reverse.mp (mem_of_mem_dropLeading (List.mem_reverse.mp hsegment))

theorem normalize (h : Canonical segments) (leading trailing : SlashPolicy) :
    Canonical (normalize leading trailing segments) :=
  (h.normalizeLeading leading).normalizeTrailing trailing

theorem truncate? (h : Canonical segments) {depth : UInt64} {kept : List String}
    (hkept : truncate? depth segments = some kept) : Canonical kept := by
  unfold Path.truncate? at hkept
  split at hkept
  · cases hkept
  · cases hkept
    exact h.ensureRoot fun _ hsegment => List.mem_of_mem_take hsegment

end Canonical

end Reroute.Path
