/-!
# Decimal numerals

Whole numbers in decimal digits, with a sign where the range admits one; a numeral out of range does not read.  Numbers
with 53 binary digits: the one nearest to a quotient, and the shortest decimal that reads back as a given one.
-/

namespace Reroute.Text

/-! ### Whole numbers -/

/-- The value of a run of decimal digits after `value`. -/
def digitsValue? : Nat → List Char → Option Nat
  | value, [] => some value
  | value, c :: rest =>
    if '0' ≤ c ∧ c ≤ '9' then digitsValue? (value * 10 + (c.toNat - 48)) rest else none

/-- The value of at least one decimal digit and nothing else. -/
def readDigits? : List Char → Option Nat
  | [] => none
  | c :: rest => digitsValue? 0 (c :: rest)

/-- The value of decimal digits after an optional sign. -/
def readSigned? : List Char → Option Int
  | '-' :: digits => (readDigits? digits).map fun n => -(n : Int)
  | '+' :: digits => (readDigits? digits).map Int.ofNat
  | digits => (readDigits? digits).map Int.ofNat

/-- The value of decimal digits after an optional plus sign. -/
def readUnsigned? : List Char → Option Nat
  | '+' :: digits => readDigits? digits
  | digits => readDigits? digits

/-- A number from `-2^(bits-1)` up to `2^(bits-1) - 1`. -/
def readInt? (bits : Nat) (text : String) : Option Int :=
  (readSigned? text.toList).filter fun n => -(Nat.pow 2 (bits - 1) : Int) ≤ n ∧ n < (Nat.pow 2 (bits - 1) : Int)

/-- A number below `2^bits`. -/
def readNat? (bits : Nat) (text : String) : Option Nat :=
  (readUnsigned? text.toList).filter fun n => n < Nat.pow 2 bits

/-! ### Shortest decimals -/

/-- A quotient rounded to a whole number; a half goes to the even neighbour. -/
def roundHalfEven (num den : Nat) : Nat :=
  let whole := num / den
  let twice := 2 * (num % den)
  if twice < den ∨ (twice = den ∧ whole % 2 = 0) then whole else whole + 1

/-- The number `mantissa * 2 ^ exponent`; the mantissa has at most 53 binary digits. -/
structure Binary where
  mantissa : Nat
  exponent : Int
deriving DecidableEq, Repr

namespace Binary

/-- The binary exponent of a quotient: two to its power does not exceed the quotient, but the next power does. -/
def magnitude (num den : Nat) : Int :=
  let guess : Int := num.log2 - den.log2
  if den * Nat.pow 2 guess.toNat ≤ num * Nat.pow 2 (-guess).toNat then guess else guess - 1

/-- The number nearest to a quotient.  Below `2 ^ -1022` the numbers lie as far apart as above it. -/
def nearest (num den : Nat) : Binary :=
  if num = 0 then ⟨0, 0⟩
  else
    let exponent := max (magnitude num den - 52) (-1074)
    let mantissa := roundHalfEven (num * Nat.pow 2 (-exponent).toNat) (den * Nat.pow 2 exponent.toNat)
    if mantissa = 0 then ⟨0, 0⟩
    else if mantissa = Nat.pow 2 53 then ⟨Nat.pow 2 52, exponent + 1⟩
    else ⟨mantissa, exponent⟩

/-- The number as a quotient. -/
def quotient (b : Binary) : Nat × Nat :=
  (b.mantissa * Nat.pow 2 b.exponent.toNat, Nat.pow 2 (-b.exponent).toNat)

/-- Whether the number lies below `2 ^ 1024`. -/
def isFinite (b : Binary) : Bool := b.quotient.1 < Nat.pow 2 1024 * b.quotient.2

/-- The number if it is whole. -/
def whole? (b : Binary) : Option Nat :=
  let (num, den) := b.quotient
  if num % den = 0 then some (num / den) else none

end Binary

/-! ### Decimals -/

/-- The number `digits * 10 ^ exponent`. -/
structure Decimal where
  digits : Nat
  exponent : Int
deriving DecidableEq, Repr

namespace Decimal

/-- The number nearest to the decimal among those with 53 binary digits. -/
def nearest (d : Decimal) : Binary :=
  .nearest (d.digits * Nat.pow 10 d.exponent.toNat) (Nat.pow 10 (-d.exponent).toNat)

/-- Moves zeros at the end of the digits to the exponent; `fuel` is at least their number. -/
def trimmed : Nat → Decimal → Decimal
  | fuel + 1, ⟨digits, exponent⟩ =>
    if digits % 10 = 0 ∧ digits ≠ 0 then trimmed fuel ⟨digits / 10, exponent + 1⟩ else ⟨digits, exponent⟩
  | 0, d => d

/-- The power of ten of the first digit of a quotient; `fuel` bounds the zeros behind the point. -/
def magnitude (num den : Nat) : Nat → Int
  | 0 => 0
  | fuel + 1 =>
    if den ≤ num then (Nat.toDigits 10 (num / den)).length - 1 else magnitude (num * 10) den fuel - 1

/-- The decimal with its last digit at a power of ten that reads back as the number and lies nearest to it. -/
def atExponent? (b : Binary) (exponent : Int) : Option Decimal :=
  let (num, den) := b.quotient
  let num := num * Nat.pow 10 (-exponent).toNat
  let den := den * Nat.pow 10 exponent.toNat
  let near : Decimal := ⟨roundHalfEven num den, exponent⟩
  let below : Decimal := ⟨num / den, exponent⟩
  let above : Decimal := ⟨num / den + 1, exponent⟩
  [near, below, above].find? fun d => d.nearest == b

/-- The decimal with the fewest digits that reads back as the number. -/
def shortest (b : Binary) : Decimal :=
  let (num, den) := b.quotient
  let first := magnitude num den 400
  match (List.range 17).findSome? fun (places : Nat) => atExponent? b (first - (places : Int)) with
  | some d => d.trimmed 400
  | none => ⟨0, 0⟩

end Decimal

end Reroute.Text
