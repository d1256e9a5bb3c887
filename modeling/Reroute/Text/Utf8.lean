/-!
# Bytes of a text

`encodeUtf8` lists the bytes of a text.  `decodeUtf8` reads bytes back: a sequence that is cut short or not
allowed becomes one replacement character, and reading goes on at the first byte that does not continue it.
-/

namespace Reroute.Text

/-- The bytes of the characters in UTF-8. -/
def encodeUtf8 (cs : List Char) : List UInt8 := cs.flatMap String.utf8EncodeChar

/-- The character that stands for bytes that cannot be read. -/
def replacement : Char := Char.ofNat 0xFFFD

/-- A character of which `need` more bytes are due, the next one between `low` and `high`. -/
structure PendingChar where
  value : Nat
  need : Nat
  low : Nat
  high : Nat

/-- What a byte at the start of a character gives: a character at once, or one that is pending. -/
def readLeadByte (b : Nat) : List Char × Option PendingChar :=
  if b < 0x80 then ([Char.ofNat b], none)
  else if b < 0xC2 then ([replacement], none)
  else if b < 0xE0 then ([], some ⟨b - 0xC0, 1, 0x80, 0xBF⟩)
  else if b < 0xF0 then
    ([], some ⟨b - 0xE0, 2, if b = 0xE0 then 0xA0 else 0x80, if b = 0xED then 0x9F else 0xBF⟩)
  else if b < 0xF5 then
    ([], some ⟨b - 0xF0, 3, if b = 0xF0 then 0x90 else 0x80, if b = 0xF4 then 0x8F else 0xBF⟩)
  else ([replacement], none)

/-- What the next byte gives after a possibly pending character. -/
def readByte (pending : Option PendingChar) (b : Nat) : List Char × Option PendingChar :=
  match pending with
  | none => readLeadByte b
  | some p =>
    if p.low ≤ b ∧ b ≤ p.high then
      let value := p.value * 64 + (b - 0x80)
      if p.need ≤ 1 then ([Char.ofNat value], none)
      else ([], some ⟨value, p.need - 1, 0x80, 0xBF⟩)
    else
      let next := readLeadByte b
      (replacement :: next.1, next.2)

/-- Reads bytes after a possibly pending character. -/
def decodeUtf8From : Option PendingChar → List UInt8 → List Char
  | none, [] => []
  | some _, [] => [replacement]
  | pending, b :: bytes =>
    let step := readByte pending b.toNat
    step.1 ++ decodeUtf8From step.2 bytes

/-- Reads bytes as UTF-8. -/
def decodeUtf8 (bytes : List UInt8) : List Char := decodeUtf8From none bytes

end Reroute.Text
