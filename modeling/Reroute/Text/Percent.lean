import Reroute.Text.Utf8

/-!
# Percent coding

Bytes outside the unreserved characters are written as a percent sign and two digits of base sixteen.  Reading
takes a plus sign as a space first, and leaves a percent sign alone that two such digits do not follow.
-/

namespace Reroute.Text

/-- The characters that stand for themselves: ASCII letters and digits, dash, dot, underscore, tilde. -/
def isUnreserved (b : UInt8) : Bool :=
  let n := b.toNat
  (48 ≤ n && n ≤ 57) || (65 ≤ n && n ≤ 90) || (97 ≤ n && n ≤ 122) || n == 45 || n == 46 || n == 95 || n == 126

/-- A digit of base sixteen, capital letters. -/
def hexDigit (n : Nat) : Char := if n < 10 then Char.ofNat (48 + n) else Char.ofNat (55 + n)

/-- The value of a digit of base sixteen. -/
def hexValue? (b : UInt8) : Option Nat :=
  let n := b.toNat
  if 48 ≤ n ∧ n ≤ 57 then some (n - 48)
  else if 65 ≤ n ∧ n ≤ 70 then some (n - 55)
  else if 97 ≤ n ∧ n ≤ 102 then some (n - 87)
  else none

/-- One byte in percent coding. -/
def percentByte (b : UInt8) : List Char :=
  if isUnreserved b then [Char.ofNat b.toNat]
  else ['%', hexDigit (b.toNat / 16), hexDigit (b.toNat % 16)]

/-- The text in percent coding. -/
def percentEncode (text : String) : String :=
  String.ofList ((encodeUtf8 text.toList).flatMap percentByte)

/-- Each percent sign with two digits of base sixteen behind it becomes the byte that they give. -/
def percentBytes : List UInt8 → List UInt8
  | b :: high :: low :: rest =>
    match decide (b = 37), hexValue? high, hexValue? low with
    | true, some h, some l => UInt8.ofNat (h * 16 + l) :: percentBytes rest
    | _, _, _ => b :: percentBytes (high :: low :: rest)
  | bytes => bytes

/-- The text that a percent coding stands for. -/
def percentDecode (text : String) : String :=
  let spaced := text.toList.map fun c => if c = '+' then ' ' else c
  String.ofList (decodeUtf8 (percentBytes (encodeUtf8 spaced)))

end Reroute.Text
