import Mathlib.Logic.ExistsUnique
import Reroute.Proofs.Request.FarIndices

/-!
# Addressing from both ends

A position behind the first segment and in front of the end is addressed by two indices and no others: by itself, and
by how far it stands in front of the end, with a minus sign.  Nothing else is addressed, so neither the mark of the slash
in front nor that of a slash behind ever is (`Path.addressed_from_both_ends`).
-/

namespace Reroute

/-- What only one number has is had by one index only, if that number has 32 bits. -/
private theorem existsUnique_isIndex {p : Int → Prop} {n : Int} (hn : IsIndex n) (h : ∀ index, p index ↔ index = n) :
    ∃! index, IsIndex index ∧ p index :=
  ⟨n, ⟨hn, (h n).mpr rfl⟩, fun index hindex => (h index).mp hindex.2⟩

namespace Path

variable {segments : List String} {index : Int} {position : Nat}

/-- The position holds the mark of the slash in front or of the slash behind. -/
def IsMark (segments : List String) (position : Nat) : Prop :=
  segments[position]? = some "" ∧ (position = 0 ∨ position + 1 = segments.length)

instance (segments : List String) (position : Nat) : Decidable (IsMark segments position) :=
  inferInstanceAs (Decidable (_ ∧ _))

private theorem exists_resolve?_iff :
    (∃ position, resolve? segments index = some position) ↔ Addresses segments index := by
  rw [← Option.ne_none_iff_exists', ne_eq, resolve?_eq_none, not_not]

private theorem not_isMark_of_resolve? (h : resolve? segments index = some position) : ¬IsMark segments position := by
  obtain ⟨-, hpos, hlt⟩ := resolve?_eq_some.mp h
  rintro ⟨hempty, rfl | hlast⟩
  · exact absurd hpos (Nat.lt_irrefl 0)
  · -- the mark of a slash behind is not counted, so the position would be the end itself
    have hmark : segments.getLast? = some "" := by
      rw [List.getLast?_eq_getElem?, ← hlast, Nat.add_sub_cancel, hempty]
    rw [effectiveCount, if_pos hmark] at hlt
    omega

/-- Counted from the front, a position is addressed by itself only. -/
private theorem front_index_iff (hpos : 0 < position) (hlt : position < effectiveCount segments) :
    0 < index ∧ resolve? segments index = some position ↔ index = position := by
  rw [resolve?_eq_some]
  omega

/-- Counted from the end, a position is addressed by how far it stands in front of the end. -/
private theorem back_index_iff (hpos : 0 < position) (hlt : position < effectiveCount segments) :
    index < 0 ∧ resolve? segments index = some position ↔ index = position - effectiveCount segments := by
  rw [resolve?_eq_some]
  omega

/-- A path of fewer than `2 ^ 31` segments needs no larger indices. -/
private theorem isIndex_of_lt_effectiveCount (hcount : effectiveCount segments < Nat.pow 2 31)
    (hlt : position < effectiveCount segments) :
    IsIndex position ∧ IsIndex (position - effectiveCount segments) := by
  simp only [IsIndex, Nat.pow_eq] at hcount ⊢
  omega

theorem addressed_from_both_ends (segments : List String) :
    (∀ index : Int, (∃ position, resolve? segments index = some position) ↔
        0 < index ∧ index < effectiveCount segments ∨ index < 0 ∧ 0 < effectiveCount segments + index) ∧
      (∀ (index : Int) (position : Nat), resolve? segments index = some position →
        (1 ≤ position ∧ position < effectiveCount segments) ∧ position < segments.length ∧
          ¬IsMark segments position) ∧
      (∀ index : Int, 0 < index → index < effectiveCount segments →
        resolve? segments index = some index.toNat ∧
          resolve? segments (-(effectiveCount segments - index)) = some index.toNat) ∧
      (effectiveCount segments < Nat.pow 2 31 → ∀ position : Nat, 1 ≤ position → position < effectiveCount segments →
        (∃! index, IsIndex index ∧ 0 < index ∧ resolve? segments index = some position) ∧
          ∃! index, IsIndex index ∧ index < 0 ∧ resolve? segments index = some position) := by
  refine ⟨fun index => exists_resolve?_iff, fun index position h => ?bounds, fun index hpos hlt => ?mirrored,
    fun hcount position hpos hlt => ?reached⟩
  case bounds => exact ⟨(resolve?_eq_some.mp h).2, lt_length_of_resolve? h, not_isMark_of_resolve? h⟩
  case mirrored =>
    rw [resolve?_eq_some, resolve?_eq_some]
    omega
  case reached =>
    obtain ⟨hfront, hback⟩ := isIndex_of_lt_effectiveCount hcount hlt
    exact ⟨existsUnique_isIndex hfront fun _ => front_index_iff hpos hlt,
      existsUnique_isIndex hback fun _ => back_index_iff hpos hlt⟩

/-- The mark behind `b` is not counted: `b` is the last of the two that are addressed. -/
theorem addressed_from_both_ends_slashed :
    let segments := split "/a/b/"
    resolve? segments (-1) = some 2 ∧ ¬IsMark segments 2 ∧ IsMark segments 3 ∧
      (0 < (1 : Int) ∧ (1 : Int) < effectiveCount segments ∧
        resolve? segments 1 = resolve? segments (-(effectiveCount segments - 1))) ∧
      effectiveCount segments < Nat.pow 2 31 ∧ 2 < effectiveCount segments ∧
        (∃! index, IsIndex index ∧ 0 < index ∧ resolve? segments index = some 2) ∧
          ∃! index, IsIndex index ∧ index < 0 ∧ resolve? segments index = some 2 := by
  obtain ⟨-, hbounds, hmirrored, hreached⟩ := addressed_from_both_ends (split "/a/b/")
  have hlast : resolve? (split "/a/b/") (-1) = some 2 := by decide
  have hcount : effectiveCount (split "/a/b/") < Nat.pow 2 31 := by decide
  have hfirst := hmirrored 1 (by decide) (by decide)
  exact ⟨hlast, (hbounds (-1) 2 hlast).2.2, by decide, ⟨by decide, by decide, hfirst.1.trans hfirst.2.symm⟩, hcount,
    by decide, hreached hcount 2 (by decide) (by decide)⟩

end Path

end Reroute
