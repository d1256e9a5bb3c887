import Reroute.Text.Numeral

/-!
# Numbers of a rules file

Digits with a point and an exponent are kept with 53 binary digits.  A number is whole where its value is, however it
is written, and any other number is known by the shortest decimal that reads back.
-/

namespace Reroute.Hcl

open Reroute.Text

/-- A number: a whole one of 64 bits with or without a sign, or any other in its written form. -/
inductive Number where
  | whole (value : Int)
  | other (written : String)
deriving DecidableEq, Repr

namespace Number

/-! ### Written form -/

/-- So many zeros. -/
def zeros (n : Nat) : List Char := List.replicate n '0'

/-- A decimal in positional form between `10 ^ -5` and `10 ^ 16`, and with an exponent elsewhere. -/
def writtenDecimal (d : Decimal) : String :=
  let digits := Nat.toDigits 10 d.digits
  let point := digits.length + d.exponent
  String.ofList <|
    if 0 ≤ d.exponent ∧ point ≤ 16 then digits ++ zeros d.exponent.toNat ++ ['.', '0']
    else if 0 < point ∧ point ≤ 16 then digits.take point.toNat ++ '.' :: digits.drop point.toNat
    else if -5 < point ∧ point ≤ 0 then '0' :: '.' :: zeros (-point).toNat ++ digits
    else
      let exponent := 'e' :: (toString (point - 1)).toList
      match digits with
      | [digit] => digit :: exponent
      | digit :: places => digit :: '.' :: places ++ exponent
      | [] => []

/-- The number in digits. -/
def written : Number → String
  | whole value => toString value
  | other written => written

/-! ### Values -/

/-- A number without a sign. -/
def ofBinary (b : Binary) : Number :=
  match b.whole? with
  | some n => if n < 18446744073709551616 then whole n else other (writtenDecimal (.shortest b))
  | none => other (writtenDecimal (.shortest b))

/-- The number with the other sign.  A whole one that has no 64 bits with a sign is kept with 53 binary digits. -/
def negated : Number → Number
  | whole n =>
    if n ≤ 9223372036854775808 then whole (-n)
    else other ("-" ++ writtenDecimal (.shortest (.nearest n.toNat 1)))
  | other written => other ("-" ++ written)

/-! ### Reading -/

/-- The value of digits. -/
def ofDigits (digits : List Char) : Nat := (digitsValue? 0 digits).getD 0

/-- Reads the exponent of a number, if there is one. -/
def readExponent? : List Char → Option (Option Int × List Char)
  | e :: rest =>
    if e = 'e' ∨ e = 'E' then
      let (minus, rest) := match rest with
        | '-' :: rest => (true, rest)
        | '+' :: rest => (false, rest)
        | _ => (false, rest)
      let digits := rest.takeWhile Char.isDigit
      if digits.isEmpty then none
      else some (some (if minus then -(ofDigits digits : Int) else ofDigits digits), rest.dropWhile Char.isDigit)
    else some (none, e :: rest)
  | [] => some (none, [])

/-- Reads a number that begins with a digit.  Digits alone are exact and below `2 ^ 64`. -/
def read? (cs : List Char) : Option (Number × List Char) := do
  let digits := cs.takeWhile Char.isDigit
  let rest := cs.dropWhile Char.isDigit
  let (places, rest) := match rest with
    | '.' :: d :: more =>
      if d.isDigit then ((d :: more).takeWhile Char.isDigit, (d :: more).dropWhile Char.isDigit) else ([], rest)
    | _ => ([], rest)
  let (exponent, rest) ← readExponent? rest
  let value := ofDigits (digits ++ places)
  if places.isEmpty ∧ exponent = none then
    if value < 18446744073709551616 then some (whole value, rest) else none
  else
    let shift : Int := exponent.getD 0 - places.length
    let first := (Nat.toDigits 10 value).length + shift
    if value = 0 ∨ first < -400 then some (whole 0, rest)
    else if 400 < first then none
    else
      let b := Decimal.nearest ⟨value, shift⟩
      if b.isFinite then some (ofBinary b, rest) else none

end Number

end Reroute.Hcl
