import Mathlib.Data.List.InsertIdx
import Reroute.Action.Shape
import Reroute.Proofs.Request.Elements
import Reroute.Proofs.Text.Basic

/-!
# The first segment of a path

The text of a path begins with a slash if the first segment is empty and not the only one, or if it begins with a
slash itself (`begins_iff`).  Elements are addressed behind the first segment, so writing them keeps it, and what
shortens a path puts the root back.
-/

namespace Reroute.Path

/-! ### Kinds of first segments -/

/-- The text begins with a slash. -/
def IsRootedText (text : String) : Prop := text.toList.head? = some '/'

instance (text : String) : Decidable (IsRootedText text) :=
  inferInstanceAs (Decidable (text.toList.head? = some '/'))

/-- A first segment with which the text of a path begins with a slash: the mark of the slash, or one that has it. -/
def IsRootSegment (text : String) : Prop := text = "" ∨ IsRootedText text

/-- The path begins with a segment of a kind, and is more than the bare mark of a slash. -/
def Begins (p : String → Prop) : List String → Prop
  | [] => False
  | first :: rest => p first ∧ (first = "" → rest ≠ [])

variable {p : String → Prop} {segments : List String}

/-- Segments whose text begins with a slash. -/
theorem begins_iff : Begins IsRootSegment segments ↔ IsRootedText (join segments) := by
  have hslash : "/".toList = ['/'] := rfl
  rw [IsRootedText, join, Text.toList_join hslash]
  match segments with
  | [] => simp [Begins]
  | [first] =>
    simp only [Begins, List.map_cons, List.map_nil, List.intercalate_singleton, IsRootSegment, IsRootedText]
    constructor
    · rintro ⟨rfl | hfirst, hne⟩
      · exact absurd rfl (hne rfl)
      · exact hfirst
    · intro hfirst
      refine ⟨.inr hfirst, ?_⟩
      rintro rfl
      simp at hfirst
  | first :: next :: rest =>
    simp only [Begins, List.map_cons, List.intercalate_cons_cons, IsRootSegment, IsRootedText]
    by_cases hfirst : first = ""
    · simp [hfirst]
    · have hne : first.toList ≠ [] := by simpa using hfirst
      simp [hfirst, List.head?_append, List.head?_eq_some_head hne]

theorem Begins.imp {q : String → Prop} (h : Begins p segments) (himp : ∀ text, p text → q text) :
    Begins q segments := by
  cases segments with
  | nil => exact h.elim
  | cons first rest => exact ⟨himp first h.1, h.2⟩

theorem Begins.head (h : Begins p segments) : ∃ first, segments.head? = some first ∧ p first := by
  cases segments with
  | nil => exact h.elim
  | cons first rest => exact ⟨first, rfl, h.1⟩

/-- More than the bare mark of a slash can be addressed. -/
theorem Begins.effectiveCount_pos (h : Begins p segments) : 0 < effectiveCount segments := by
  unfold effectiveCount
  cases segments with
  | nil => exact h.elim
  | cons first rest =>
    cases rest with
    | nil =>
      have hfirst : first ≠ "" := fun hfirst => h.2 hfirst rfl
      simp [hfirst]
    | cons next rest => split <;> simp

/-- Segments with the mark of a slash in front. -/
theorem Begins.of_head (h : Begins p segments) (hhead : segments.head? = some "") : Begins (· = "") segments := by
  cases segments with
  | nil => exact h.elim
  | cons first rest => exact ⟨Option.some.inj hhead, h.2⟩

/-! ### Writing behind the first segment -/

theorem Begins.set (h : Begins p segments) {position : Nat} (hpos : 0 < position) (text : String) :
    Begins p (segments.set position text) := by
  obtain ⟨position, rfl⟩ := Nat.exists_eq_succ_of_ne_zero (Nat.ne_of_gt hpos)
  cases segments with
  | nil => exact h.elim
  | cons first rest => exact ⟨h.1, fun hfirst => by simpa using h.2 hfirst⟩

theorem Begins.modify (h : Begins p segments) {position : Nat} (hpos : 0 < position) (f : String → String) :
    Begins p (segments.modify position f) := by
  rw [List.modify_eq_set]
  exact h.set hpos _

private theorem Begins.insertIdx (h : Begins p segments) {position : Nat} (hpos : 0 < position) (text : String) :
    Begins p (segments.insertIdx position text) := by
  obtain ⟨position, rfl⟩ := Nat.exists_eq_succ_of_ne_zero (Nat.ne_of_gt hpos)
  cases segments with
  | nil => exact h.elim
  | cons first rest =>
    rw [List.insertIdx_succ_cons]
    refine ⟨h.1, fun hfirst hnil => ?_⟩
    have hlength := congrArg List.length hnil
    rw [List.length_insertIdx, List.length_nil] at hlength
    have hrest := List.length_pos_iff.mpr (h.2 hfirst)
    split at hlength <;> omega

private theorem Begins.cons (h : Begins p segments) {text : String} (htext : p text) : Begins p (text :: segments) :=
  ⟨htext, fun _ hnil => by simp [hnil, Begins] at h⟩

/-- A segment goes in front of the first one only where that one is not the mark of a slash. -/
theorem Begins.insertAt (h : Begins p segments) {index : Int} {position : Nat} {text : String}
    (hposition : resolveInsert? segments index = some position)
    (hfront : index = 0 → segments.head? ≠ some "" → p text) : Begins p (segments.insertIdx position text) := by
  unfold resolveInsert? at hposition
  split at hposition
  · exact h.insertIdx (pos_of_resolve? hposition) text
  · rename_i hindex
    obtain ⟨-, hposition⟩ := Option.ite_none_right_eq_some.mp hposition
    cases hposition
    split
    · exact h.insertIdx Nat.one_pos text
    · rename_i hhead
      exact h.cons (hfront (not_not.mp hindex) hhead)

private theorem Begins.concat (h : Begins p segments) (text : String) : Begins p (segments ++ [text]) := by
  cases segments with
  | nil => exact h.elim
  | cons first rest => exact ⟨h.1, fun _ => by simp⟩

private theorem Begins.normalizeTrailing (h : Begins p segments) {policy : SlashPolicy} (hpolicy : policy ≠ .remove) :
    Begins p (normalizeTrailing policy segments) := by
  cases policy with
  | leave => exact h
  | add =>
    simp only [Path.normalizeTrailing]
    split
    · exact h.concat ""
    · exact h
  | remove => exact absurd rfl hpolicy

/-! ### Shortening and padding -/

variable (hp : p "")

include hp

theorem begins_root : Begins p root := ⟨hp, fun _ => List.cons_ne_nil _ _⟩

theorem begins_split {text : String} (h : IsRootedText text) : Begins p (split text) := by
  obtain ⟨cs, htext⟩ := List.head?_eq_some_iff.mp h
  have hsplit : split text = "" :: Text.split '/' (String.ofList cs) := by
    simp [split, Text.split, htext, Text.splitChars]
  rw [hsplit]
  exact ⟨hp, fun _ => Text.split_ne_nil '/' _⟩

/-- Whatever is left of a path is filled up to a root. -/
private theorem begins_ensureRoot {others : List String} (h : ∀ first, others.head? = some first → p first) :
    Begins p (ensureRoot others) := by
  unfold ensureRoot
  split
  · exact begins_root hp
  · exact begins_root hp
  · rename_i hnil hmark
    cases others with
    | nil => exact absurd rfl hnil
    | cons first rest =>
      refine ⟨h first rfl, ?_⟩
      rintro rfl rfl
      exact hmark rfl

theorem Begins.eraseIdx (h : Begins p segments) {position : Nat} (hpos : 0 < position) :
    Begins p (ensureRoot (segments.eraseIdx position)) := by
  obtain ⟨position, rfl⟩ := Nat.exists_eq_succ_of_ne_zero (Nat.ne_of_gt hpos)
  obtain ⟨first, hhead, hfirst⟩ := h.head
  refine begins_ensureRoot hp fun other hother => ?_
  cases segments with
  | nil => exact h.elim
  | cons _ rest => simp_all

theorem Begins.take (h : Begins p segments) (count : Nat) : Begins p (ensureRoot (segments.take count)) := by
  refine begins_ensureRoot hp fun other hother => ?_
  cases segments with
  | nil => exact h.elim
  | cons first rest =>
    cases count with
    | zero => simp at hother
    | succ count =>
      obtain rfl : first = other := by simpa using hother
      exact h.1

theorem Begins.select (h : Begins p segments) {positions : List Nat} (hpositions : 0 ∈ positions) :
    Begins p (ensureRoot (select positions 0 segments)) := by
  refine begins_ensureRoot hp fun other hother => ?_
  cases segments with
  | nil => exact h.elim
  | cons first rest =>
    rw [Path.select, if_pos (List.contains_iff_mem.mpr hpositions)] at hother
    obtain rfl : first = other := by simpa using hother
    exact h.1

private theorem Begins.normalizeLeading (h : Begins p segments) {policy : SlashPolicy} (hpolicy : policy ≠ .remove) :
    Begins p (normalizeLeading policy segments) := by
  cases policy with
  | leave => exact h
  | add =>
    simp only [Path.normalizeLeading]
    split
    · exact h.cons hp
    · exact h
  | remove => exact absurd rfl hpolicy

theorem Begins.normalize (h : Begins p segments) {leading trailing : SlashPolicy} (hleading : leading ≠ .remove)
    (htrailing : trailing ≠ .remove) : Begins p (normalize leading trailing segments) :=
  (h.normalizeLeading hp hleading).normalizeTrailing htrailing

end Reroute.Path
