import Mathlib.Data.List.TakeWhile
import Reroute.Proofs.Text.Basic
import Reroute.Text.Numeral

/-!
# Numerals are read back

A whole number written in decimal digits reads as the number itself.  With a sign in front of the digits a text spells a
number of any size (`Spells`), and it reads as that number where the number is in the range (`readInt?_of_spells`).  The
loose spelling under which names are compared leaves digits alone, but it drops the sign of a negative number
(`spelling_toString_int`).
-/

namespace Reroute.Text

theorem isDigit_of_mem_toString {n : Nat} {c : Char} (h : c ∈ (toString n).toList) : c.isDigit = true := by
  rw [Nat.toString_eq_repr, Nat.toList_repr] at h
  exact Nat.isDigit_of_mem_toDigits (by decide) (by decide) h

/-- Digits behind a value continue it. -/
private theorem digitsValue?_eq_some {digits : List Char} (hdigits : ∀ c ∈ digits, c.isDigit = true) (value : Nat) :
    digitsValue? value digits = some (Nat.ofDigitChars 10 digits value) := by
  induction digits generalizing value with
  | nil => rfl
  | cons c digits ih =>
    have hc : '0' ≤ c ∧ c ≤ '9' := by simpa [Char.isDigit, Char.le_def] using hdigits c (by simp)
    rw [digitsValue?, if_pos hc, ih fun d hd => hdigits d (List.mem_cons_of_mem c hd), Nat.ofDigitChars_cons,
      Nat.mul_comm]
    rfl

theorem readDigits?_toString (n : Nat) : readDigits? (toString n).toList = some n := by
  have hdigits : ∀ c ∈ (toString n).toList, c.isDigit = true := fun c => isDigit_of_mem_toString
  have hvalue : digitsValue? 0 (toString n).toList = some n := by
    rw [digitsValue?_eq_some hdigits, Nat.toString_eq_repr, Nat.toList_repr, Nat.ofDigitChars_ten_toDigits]
  have hne : (toString n).toList ≠ [] := by
    rw [Nat.toString_eq_repr, Nat.toList_repr]
    exact Nat.toDigits_ne_nil
  cases hchars : (toString n).toList with
  | nil => exact absurd hchars hne
  | cons c digits => rwa [hchars] at hvalue

/-! ### Signed numerals -/

/-- The text is a decimal numeral of a number: digits, one at least, behind an optional sign. -/
inductive Spells : List Char → Int → Prop
  | plain {digits : List Char} (hne : digits ≠ []) (hdigits : ∀ c ∈ digits, c.isDigit = true) :
      Spells digits (Nat.ofDigitChars 10 digits 0)
  | plus {digits : List Char} (hne : digits ≠ []) (hdigits : ∀ c ∈ digits, c.isDigit = true) :
      Spells ('+' :: digits) (Nat.ofDigitChars 10 digits 0)
  | minus {digits : List Char} (hne : digits ≠ []) (hdigits : ∀ c ∈ digits, c.isDigit = true) :
      Spells ('-' :: digits) (-(Nat.ofDigitChars 10 digits 0 : Int))

private theorem readDigits?_eq_some {digits : List Char} (hne : digits ≠ [])
    (hdigits : ∀ c ∈ digits, c.isDigit = true) :
    readDigits? digits = some (Nat.ofDigitChars 10 digits 0) := by
  cases digits with
  | nil => exact absurd rfl hne
  | cons c digits => exact digitsValue?_eq_some hdigits 0

variable {text : String} {chars : List Char} {n : Int}

private theorem readSigned?_of_spells (h : Spells chars n) : readSigned? chars = some n := by
  cases h with
  | plain hne hdigits =>
    unfold readSigned?
    split
    · exact absurd (hdigits '-' List.mem_cons_self) (by decide)
    · exact absurd (hdigits '+' List.mem_cons_self) (by decide)
    · rw [readDigits?_eq_some hne hdigits]
      rfl
  | plus hne hdigits =>
    simp only [readSigned?, readDigits?_eq_some hne hdigits]
    rfl
  | minus hne hdigits =>
    simp only [readSigned?, readDigits?_eq_some hne hdigits]
    rfl

theorem readInt?_of_spells (h : Spells text.toList n) (bits : Nat) :
    readInt? bits text =
      if -(Nat.pow 2 (bits - 1) : Int) ≤ n ∧ n < (Nat.pow 2 (bits - 1) : Int) then some n else none := by
  rw [readInt?, readSigned?_of_spells h, Option.filter_some]
  simp only [decide_eq_true_eq]

/-- A whole number is spelled as it is written. -/
theorem spells_toString (n : Int) : Spells (toString n).toList n := by
  have hplain : ∀ m : Nat, (toString m).toList ≠ [] ∧ (∀ c ∈ (toString m).toList, c.isDigit = true) ∧
      Nat.ofDigitChars 10 (toString m).toList 0 = m := by
    intro m
    refine ⟨?_, fun c => isDigit_of_mem_toString, ?_⟩
    · rw [Nat.toString_eq_repr, Nat.toList_repr]
      exact Nat.toDigits_ne_nil
    · rw [Nat.toString_eq_repr, Nat.toList_repr, Nat.ofDigitChars_ten_toDigits]
  cases n with
  | ofNat m =>
    obtain ⟨hne, hdigits, hvalue⟩ := hplain m
    have h := Spells.plain hne hdigits
    rwa [hvalue] at h
  | negSucc m =>
    obtain ⟨hne, hdigits, hvalue⟩ := hplain (m + 1)
    have htext : (toString (Int.negSucc m)).toList = '-' :: (toString (m + 1)).toList := by
      rw [show toString (Int.negSucc m) = "-" ++ toString (m + 1) from rfl, String.toList_append]
      rfl
    have h := Spells.minus hne hdigits
    rw [hvalue] at h
    rw [htext]
    exact h

/-! ### Digits as characters -/

private theorem toNat_of_isDigit {c : Char} (h : c.isDigit = true) : 48 ≤ c.toNat ∧ c.toNat ≤ 57 := by
  simpa [Char.isDigit, UInt32.le_iff_toNat_le] using h

private theorem toLower_of_isDigit {c : Char} (h : c.isDigit = true) : c.toLower = c := by
  have hdigit := toNat_of_isDigit h
  delta Char.toLower
  rw [dif_neg]
  intro hupper
  have hletter : 65 ≤ c.toNat := by simpa [UInt32.le_iff_toNat_le] using hupper.1
  omega

/-- A text with a character that is no digit is not a number as it is written. -/
theorem toString_ne_of_mem {text : String} {c : Char} (hmem : c ∈ text.toList) (hc : c.isDigit = false) (n : Nat) :
    toString n ≠ text := by
  rintro rfl
  rw [isDigit_of_mem_toString hmem] at hc
  cases hc

/-! ### Numerals without a sign -/

theorem readNat?_toString (bits n : Nat) : readNat? bits (toString n) =
    if n < Nat.pow 2 bits then some n else none := by
  have hread : readUnsigned? (toString n).toList = some n := by
    unfold readUnsigned?
    split
    · rename_i digits hplus
      have hmem : '+' ∈ (toString n).toList := by
        rw [hplus]
        exact List.mem_cons_self
      exact absurd (isDigit_of_mem_toString hmem) (by decide)
    · exact readDigits?_toString n
  rw [readNat?, hread, Option.filter_some]
  simp only [decide_eq_true_eq]

private theorem spelling_toString (n : Nat) : spelling (toString n) = toString n := by
  have hkept : (toString n).toList.filter (fun c => c != '_' && c != '-') = (toString n).toList := by
    rw [List.filter_eq_self]
    intro c hc
    have hdigit := isDigit_of_mem_toString hc
    have hne : ∀ d : Char, d.isDigit = false → c ≠ d := by
      rintro d hd rfl
      rw [hdigit] at hd
      cases hd
    simp [hne '_' (by decide), hne '-' (by decide)]
  have hsmall : (toString n).toList.map Char.toLower = (toString n).toList :=
    (List.map_congr_left fun c hc => toLower_of_isDigit (isDigit_of_mem_toString hc)).trans (List.map_id' _)
  rw [spelling, hkept, hsmall, String.ofList_toList]

/-- The dash of a negative number is dropped like any other. -/
theorem spelling_toString_int (n : Int) : spelling (toString n) = toString n.natAbs := by
  cases n with
  | ofNat m => exact spelling_toString m
  | negSucc m =>
    have hdash : spelling (toString (Int.negSucc m)) = spelling (toString (m + 1)) := by
      rw [show toString (Int.negSucc m) = "-" ++ toString (m + 1) from rfl, spelling, String.toList_append]
      rfl
    rw [hdash, spelling_toString]
    rfl

/-! ### Blanks around numerals -/

private theorem isBlank_of_isDigit {c : Char} (h : c.isDigit = true) : isBlank c = false := by
  have hdigit := toNat_of_isDigit h
  unfold isBlank
  simp only [Bool.or_eq_false_iff, Bool.and_eq_false_iff, decide_eq_false_iff_not, beq_eq_false_iff_ne]
  omega

theorem isBlank_of_mem_spelled (h : Spells chars n) {c : Char} (hc : c ∈ chars) : isBlank c = false := by
  cases h with
  | plain hne hdigits => exact isBlank_of_isDigit (hdigits c hc)
  | plus hne hdigits | minus hne hdigits =>
    obtain rfl | hc := List.mem_cons.mp hc
    · decide
    · exact isBlank_of_isDigit (hdigits c hc)

theorem trim_of_not_blank (h : ∀ c ∈ text.toList, isBlank c = false) : trim text = text := by
  exact trim_of_ends (fun c hc => h c (List.mem_of_head? hc)) (fun c hc => h c (List.mem_of_getLast? hc))

end Reroute.Text
