import Reroute.Proofs.Text.Utf8
import Reroute.Value.Operation

/-!
# Percent coding is read back

A text in percent coding has only unreserved characters and percent signs with two digits of base sixteen behind them
(`IsPercentCoded`).  All of these are ASCII and none is a plus sign, so the coding stands for its bytes as they are
(`percentBytes_encodeUtf8`), and they are those of the text that was put into it (`Operation.urlDecode_urlEncode`).
-/

namespace Reroute

namespace Text

/-! ### The form of a percent coding -/

/-- A letter or digit of ASCII, a dash, a dot, an underscore or a tilde. -/
def IsUnreserved (c : Char) : Prop := c.isAlphanum = true ∨ c ∈ ['-', '.', '_', '~']

/-- A digit of base sixteen, with capital letters. -/
def IsHexDigit (c : Char) : Prop := c ∈ "0123456789ABCDEF".toList

instance (c : Char) : Decidable (IsUnreserved c) := inferInstanceAs (Decidable (_ ∨ _))

instance (c : Char) : Decidable (IsHexDigit c) := inferInstanceAs (Decidable (_ ∈ _))

/-- Unreserved characters, and percent signs with two digits of base sixteen behind each. -/
inductive IsPercentCoded : List Char → Prop
  | nil : IsPercentCoded []
  | unreserved {c : Char} {cs : List Char} (hc : IsUnreserved c) (h : IsPercentCoded cs) : IsPercentCoded (c :: cs)
  | escape {high low : Char} {cs : List Char} (hhigh : IsHexDigit high) (hlow : IsHexDigit low)
      (h : IsPercentCoded cs) : IsPercentCoded ('%' :: high :: low :: cs)

private theorem isHexDigit_hexDigit {n : Nat} (h : n < 16) : IsHexDigit (hexDigit n) := by
  have hall : ∀ m < 16, IsHexDigit (hexDigit m) := by decide
  exact hall n h

private theorem isUnreserved_ofNat {b : UInt8} (h : isUnreserved b = true) : IsUnreserved (Char.ofNat b.toNat) := by
  have hall : ∀ n < 256, isUnreserved (UInt8.ofNat n) = true → IsUnreserved (Char.ofNat n) := by decide +kernel
  exact hall b.toNat b.toNat_lt (by rwa [UInt8.ofNat_toNat])

/-- Bytes in percent coding have its form. -/
private theorem isPercentCoded_flatMap (bytes : List UInt8) : IsPercentCoded (bytes.flatMap percentByte) := by
  induction bytes with
  | nil => exact .nil
  | cons b bytes ih =>
    have hbound := b.toNat_lt
    rw [List.flatMap_cons, percentByte]
    split
    · rename_i hunreserved
      exact .unreserved (isUnreserved_ofNat hunreserved) ih
    · exact .escape (isHexDigit_hexDigit (by omega)) (isHexDigit_hexDigit (by omega)) ih

private theorem IsPercentCoded.plus_not_mem {cs : List Char} (h : IsPercentCoded cs) : '+' ∉ cs := by
  induction h with
  | nil => exact List.not_mem_nil
  | unreserved hc _ ih =>
    refine List.not_mem_cons_of_ne_of_not_mem ?_ ih
    rintro rfl
    exact absurd hc (by decide)
  | escape hhigh hlow _ ih =>
    refine List.not_mem_cons_of_ne_of_not_mem (by decide) ?_
    refine List.not_mem_cons_of_ne_of_not_mem ?_ (List.not_mem_cons_of_ne_of_not_mem ?_ ih)
    · rintro rfl
      exact absurd hhigh (by decide)
    · rintro rfl
      exact absurd hlow (by decide)

/-! ### The bytes of a percent coding -/

/-- A digit of base sixteen is read as its value. -/
private theorem hexValue?_hexDigit {n : Nat} (h : n < 16) : hexValue? (UInt8.ofNat (hexDigit n).toNat) = some n := by
  have hall : ∀ m < 16, hexValue? (UInt8.ofNat (hexDigit m).toNat) = some m := by decide
  exact hall n h

private theorem encodeUtf8_ascii {b : UInt8} (h : b.toNat < 128) :
    String.utf8EncodeChar (Char.ofNat b.toNat) = [b] := by
  have hall : ∀ n < 128, String.utf8EncodeChar (Char.ofNat n) = [UInt8.ofNat n] := by decide
  rw [hall b.toNat h, UInt8.ofNat_toNat]

private theorem encodeUtf8_hexDigit {n : Nat} (h : n < 16) :
    String.utf8EncodeChar (hexDigit n) = [UInt8.ofNat (hexDigit n).toNat] := by
  have hall : ∀ m < 16, String.utf8EncodeChar (hexDigit m) = [UInt8.ofNat (hexDigit m).toNat] := by decide
  exact hall n h

/-- A byte that is no percent sign stands for itself. -/
private theorem percentBytes_cons_of_ne {b : UInt8} (h : b ≠ 37) (bytes : List UInt8) :
    percentBytes (b :: bytes) = b :: percentBytes bytes := by
  match bytes with
  | [] => rfl
  | [_] => rfl
  | high :: low :: rest => rw [percentBytes, decide_eq_false h]

/-- A byte is read from its percent coding. -/
private theorem percentBytes_percentByte (b : UInt8) (bytes : List UInt8) :
    percentBytes (encodeUtf8 (percentByte b) ++ bytes) = b :: percentBytes bytes := by
  have hbound := b.toNat_lt
  unfold percentByte
  split
  · rename_i hunreserved
    have hascii : b.toNat < 128 := by
      simp only [isUnreserved, Bool.or_eq_true, Bool.and_eq_true, decide_eq_true_eq, beq_iff_eq] at hunreserved
      omega
    have hpercent : b ≠ 37 := by
      rintro rfl
      exact absurd hunreserved (by decide)
    rw [encodeUtf8, List.flatMap_singleton, encodeUtf8_ascii hascii, List.singleton_append,
      percentBytes_cons_of_ne hpercent]
  · have hpercent : String.utf8EncodeChar '%' = [37] := by decide
    have hbyte : UInt8.ofNat (b.toNat / 16 * 16 + b.toNat % 16) = b := by
      rw [Nat.div_add_mod', UInt8.ofNat_toNat]
    have hhigh : b.toNat / 16 < 16 := by omega
    have hlow : b.toNat % 16 < 16 := by omega
    simp only [encodeUtf8, List.flatMap_cons, List.flatMap_nil, hpercent, encodeUtf8_hexDigit hhigh,
      encodeUtf8_hexDigit hlow, List.cons_append, List.nil_append, List.append_nil]
    rw [percentBytes, hexValue?_hexDigit hhigh, hexValue?_hexDigit hlow]
    simp only [decide_true, hbyte]

/-- Bytes are read from their percent coding. -/
theorem percentBytes_encodeUtf8 (bytes : List UInt8) :
    percentBytes (encodeUtf8 (bytes.flatMap percentByte)) = bytes := by
  induction bytes with
  | nil => rfl
  | cons b bytes ih =>
    rw [List.flatMap_cons, encodeUtf8, List.flatMap_append, ← encodeUtf8, ← encodeUtf8, percentBytes_percentByte, ih]

/-- A text without plus signs is decoded from its bytes as they are. -/
private theorem percentDecode_of_plus_not_mem {text : String} (h : '+' ∉ text.toList) :
    percentDecode text = String.ofList (decodeUtf8 (percentBytes (encodeUtf8 text.toList))) := by
  have hspaced : (text.toList.map fun c => if c = '+' then ' ' else c) = text.toList :=
    calc
      _ = text.toList.map id := List.map_congr_left fun c hc => if_neg fun hplus : c = '+' => h (by rwa [← hplus])
      _ = text.toList := List.map_id _
  simp only [percentDecode, hspaced]

end Text

/-- The percent coding of a text has unreserved characters and escapes only, and it is decoded as the text. -/
theorem Operation.urlDecode_urlEncode (text : String) :
    Text.IsPercentCoded (apply .urlEncode text).toList ∧ apply .urlDecode (apply .urlEncode text) = text := by
  have hcoded : (apply .urlEncode text).toList = (Text.encodeUtf8 text.toList).flatMap Text.percentByte :=
    String.toList_ofList
  have hform : Text.IsPercentCoded (apply .urlEncode text).toList := by
    rw [hcoded]
    exact Text.isPercentCoded_flatMap _
  refine ⟨hform, ?_⟩
  show Text.percentDecode (apply .urlEncode text) = text
  rw [Text.percentDecode_of_plus_not_mem hform.plus_not_mem, hcoded, Text.percentBytes_encodeUtf8,
    Text.decodeUtf8_encodeUtf8, String.ofList_toList]

end Reroute
