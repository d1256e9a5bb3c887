import Reroute.Text.Utf8

/-!
# Bytes of a text are read back

The first byte of a character says how many more are due and which the next one can be, and each of these adds six bits
(`decodeUtf8From_more`, `decodeUtf8From_last`).  So the bytes of a character are read as the character itself, whatever
stands behind them, and those of a text as the text: no byte of a text is replaced.
-/

namespace Reroute.Text

/-! ### Reading one byte -/

variable {b : UInt8}

private theorem decodeUtf8From_ascii (h : b.toNat < 0x80) (bytes : List UInt8) :
    decodeUtf8From none (b :: bytes) = Char.ofNat b.toNat :: decodeUtf8From none bytes := by
  simp only [decodeUtf8From, readByte, readLeadByte, if_pos h, List.singleton_append]

private theorem decodeUtf8From_lead_two (hlow : 0xC2 ≤ b.toNat) (hhigh : b.toNat < 0xE0) (bytes : List UInt8) :
    decodeUtf8From none (b :: bytes) = decodeUtf8From (some ⟨b.toNat - 0xC0, 1, 0x80, 0xBF⟩) bytes := by
  have hascii : ¬b.toNat < 0x80 := by omega
  simp only [decodeUtf8From, readByte, readLeadByte, if_neg hascii, if_neg (Nat.not_lt.mpr hlow), if_pos hhigh,
    List.nil_append]

private theorem decodeUtf8From_lead_three (hlow : 0xE0 ≤ b.toNat) (hhigh : b.toNat < 0xF0) (bytes : List UInt8) :
    decodeUtf8From none (b :: bytes) =
      decodeUtf8From (some ⟨b.toNat - 0xE0, 2, if b.toNat = 0xE0 then 0xA0 else 0x80,
        if b.toNat = 0xED then 0x9F else 0xBF⟩) bytes := by
  have hascii : ¬b.toNat < 0x80 := by omega
  have hmore : ¬b.toNat < 0xC2 := by omega
  simp only [decodeUtf8From, readByte, readLeadByte, if_neg hascii, if_neg hmore, if_neg (Nat.not_lt.mpr hlow),
    if_pos hhigh, List.nil_append]

private theorem decodeUtf8From_lead_four (hlow : 0xF0 ≤ b.toNat) (hhigh : b.toNat < 0xF5) (bytes : List UInt8) :
    decodeUtf8From none (b :: bytes) =
      decodeUtf8From (some ⟨b.toNat - 0xF0, 3, if b.toNat = 0xF0 then 0x90 else 0x80,
        if b.toNat = 0xF4 then 0x8F else 0xBF⟩) bytes := by
  have hascii : ¬b.toNat < 0x80 := by omega
  have hmore : ¬b.toNat < 0xC2 := by omega
  have htwo : ¬b.toNat < 0xE0 := by omega
  simp only [decodeUtf8From, readByte, readLeadByte, if_neg hascii, if_neg hmore, if_neg htwo,
    if_neg (Nat.not_lt.mpr hlow), if_pos hhigh, List.nil_append]

section

variable {value need low high : Nat} (hlow : low ≤ b.toNat) (hhigh : b.toNat ≤ high) (bytes : List UInt8)

include hlow hhigh

/-- The last byte that is due gives the character. -/
theorem decodeUtf8From_last :
    decodeUtf8From (some ⟨value, 1, low, high⟩) (b :: bytes) =
      Char.ofNat (value * 64 + (b.toNat - 0x80)) :: decodeUtf8From none bytes := by
  simp only [decodeUtf8From, readByte, hlow, hhigh, and_self, if_true, Nat.le_refl, List.singleton_append]

/-- A byte that is due adds its bits to the character. -/
theorem decodeUtf8From_more :
    decodeUtf8From (some ⟨value, need + 2, low, high⟩) (b :: bytes) =
      decodeUtf8From (some ⟨value * 64 + (b.toNat - 0x80), need + 1, 0x80, 0xBF⟩) bytes := by
  have hneed : ¬need + 2 ≤ 1 := by omega
  simp only [decodeUtf8From, readByte, hlow, hhigh, and_self, if_true, hneed, if_false, List.nil_append]
  rfl

end

/-! ### Reading characters -/

private theorem toNat_ofNat_of_lt {n : Nat} (h : n < 256) : (UInt8.ofNat n).toNat = n := by
  rw [UInt8.toNat_ofNat', Nat.mod_eq_of_lt h]

/-- The bytes of a character are read as the character. -/
private theorem decodeUtf8From_utf8EncodeChar (c : Char) (bytes : List UInt8) :
    decodeUtf8From none (String.utf8EncodeChar c ++ bytes) = c :: decodeUtf8From none bytes := by
  have hvalid : c.val.toNat < 0xD800 ∨ 0xDFFF < c.val.toNat ∧ c.val.toNat < 0x110000 := c.valid
  have hchar {n : Nat} (h : n = c.val.toNat) : Char.ofNat n = c := by rw [h, ← Char.toNat, Char.ofNat_toNat]
  unfold String.utf8EncodeChar
  generalize c.val.toNat = n at hvalid hchar
  dsimp only
  split
  · have hbyte := toNat_ofNat_of_lt (by omega : n < 256)
    rw [List.singleton_append, decodeUtf8From_ascii (by omega), hchar (by omega)]
  split
  · have hlead := toNat_ofNat_of_lt (by omega : n / 64 % 0x20 + 0xC0 < 256)
    have hlast := toNat_ofNat_of_lt (by omega : n % 0x40 + 0x80 < 256)
    rw [List.cons_append, List.singleton_append, decodeUtf8From_lead_two (by omega) (by omega),
      decodeUtf8From_last (by omega) (by omega), hchar (by omega)]
  split
  · have hlead := toNat_ofNat_of_lt (by omega : n / 4096 % 0x10 + 0xE0 < 256)
    have hmore := toNat_ofNat_of_lt (by omega : n / 64 % 0x40 + 0x80 < 256)
    have hlast := toNat_ofNat_of_lt (by omega : n % 0x40 + 0x80 < 256)
    rw [List.cons_append, List.cons_append, List.singleton_append, decodeUtf8From_lead_three (by omega) (by omega),
      decodeUtf8From_more, decodeUtf8From_last (by omega) (by omega), hchar (by omega)]
    · split <;> omega
    · split <;> omega
  · have hlead := toNat_ofNat_of_lt (by omega : n / 262144 % 0x08 + 0xF0 < 256)
    have hsecond := toNat_ofNat_of_lt (by omega : n / 4096 % 0x40 + 0x80 < 256)
    have hthird := toNat_ofNat_of_lt (by omega : n / 64 % 0x40 + 0x80 < 256)
    have hlast := toNat_ofNat_of_lt (by omega : n % 0x40 + 0x80 < 256)
    rw [List.cons_append, List.cons_append, List.cons_append, List.singleton_append,
      decodeUtf8From_lead_four (by omega) (by omega), decodeUtf8From_more, decodeUtf8From_more (by omega) (by omega),
      decodeUtf8From_last (by omega) (by omega), hchar (by omega)]
    · split <;> omega
    · split <;> omega

/-- The bytes of a text are read as the text. -/
theorem decodeUtf8_encodeUtf8 (cs : List Char) : decodeUtf8 (encodeUtf8 cs) = cs := by
  unfold decodeUtf8
  induction cs with
  | nil => rfl
  | cons c cs ih => rw [encodeUtf8, List.flatMap_cons, decodeUtf8From_utf8EncodeChar, ← encodeUtf8, ih]

end Reroute.Text
