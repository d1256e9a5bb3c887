import Reroute.Text.AgeRuns
import Reroute.Text.CategoryRuns
import Reroute.Text.PropertyRanges
import Reroute.Text.ScriptExtensions
import Reroute.Text.ScriptRuns

/-!
# Characters

The general category, the script and the age of a character are looked up in tables of runs.  Such a table gives every
code point a number.  Its entries are `scale * first + value`: the code points from `first` up to the next entry have
the number `value`, which is below `scale`.  The entries are increasing and stand in blocks, so that a search skips most
of them.  The derived properties (alphabetic, cased, word character, printable, …) combine the category with the ranges
of `PropertyRanges`.
-/

namespace Reroute.Text

/-! ### Tables of runs -/

/-- The last block whose first run begins at or before `n`. -/
def lastBlock (scale n : Nat) : List (List Nat) → List Nat → List Nat
  | [], found => found
  | block :: blocks, found =>
    match block with
    | [] => lastBlock scale n blocks found
    | entry :: _ => if entry / scale ≤ n then lastBlock scale n blocks block else found

/-- The number of the last run that begins at or before `n`. -/
def lastRun (scale n : Nat) : List Nat → Nat → Nat
  | [], found => found
  | entry :: entries, found => if entry / scale ≤ n then lastRun scale n entries (entry % scale) else found

/-- The number of a code point; `default` holds in front of the first run. -/
def runValue (scale : Nat) (blocks : List (List Nat)) (default n : Nat) : Nat :=
  lastRun scale n (lastBlock scale n blocks []) default

/-! ### General categories -/

/-- The general categories, in the order in which the runs number them. -/
inductive Category where
  | lu | ll | lt | lm | lo
  | mn | mc | me
  | nd | nl | no
  | pc | pd | ps | pe | pi | pf | po
  | sm | sc | sk | so
  | zs | zl | zp
  | cc | cf | cs | co | cn
deriving DecidableEq, Repr

namespace Category

/-- The categories by number. -/
def all : List Category :=
  [lu, ll, lt, lm, lo, mn, mc, me, nd, nl, no, pc, pd, ps, pe, pi, pf, po, sm, sc, sk, so, zs, zl, zp, cc, cf,
    cs, co, cn]

/-- The general category of a character. -/
def of (c : Char) : Category :=
  (all[runValue 32 categoryBlocks 29 c.toNat]?).getD cn

/-- The two-letter name of a category. -/
def name : Category → String
  | lu => "Lu" | ll => "Ll" | lt => "Lt" | lm => "Lm" | lo => "Lo"
  | mn => "Mn" | mc => "Mc" | me => "Me"
  | nd => "Nd" | nl => "Nl" | no => "No"
  | pc => "Pc" | pd => "Pd" | ps => "Ps" | pe => "Pe" | pi => "Pi" | pf => "Pf" | po => "Po"
  | sm => "Sm" | sc => "Sc" | sk => "Sk" | so => "So"
  | zs => "Zs" | zl => "Zl" | zp => "Zp"
  | cc => "Cc" | cf => "Cf" | cs => "Cs" | co => "Co" | cn => "Cn"

/-- Letters of any kind. -/
def isLetter : Category → Bool
  | lu | ll | lt | lm | lo => true
  | _ => false

/-- Combining marks of any kind. -/
def isMark : Category → Bool
  | mn | mc | me => true
  | _ => false

/-- Numbers of any kind. -/
def isNumber : Category → Bool
  | nd | nl | no => true
  | _ => false

end Category

/-! ### Derived properties -/

/-- Letters, letter numbers and the other alphabetic characters. -/
def isAlphabetic (c : Char) : Bool :=
  let category := Category.of c
  category.isLetter || category == .nl || inRanges c.toNat otherAlphabetic

/-- Alphabetic characters and numbers. -/
def isAlphanumeric (c : Char) : Bool :=
  isAlphabetic c || (Category.of c).isNumber

/-- Small letters. -/
def isLowercase (c : Char) : Bool :=
  Category.of c == .ll || inRanges c.toNat otherLowercase

/-- Capital letters. -/
def isUppercase (c : Char) : Bool :=
  Category.of c == .lu || inRanges c.toNat otherUppercase

/-- Characters that have a case. -/
def isCased (c : Char) : Bool :=
  isLowercase c || isUppercase c || Category.of c == .lt

/-- Characters that are passed over when the case of the surroundings is looked at. -/
def isCaseIgnorable (c : Char) : Bool :=
  match Category.of c with
  | .mn | .me | .cf | .lm | .sk => true
  | _ => inRanges c.toNat otherCaseIgnorable

/-- Decimal digits of any script. -/
def isDecimalDigit (c : Char) : Bool := Category.of c == .nd

/-- Word characters: alphabetic, marks, decimal digits, connectors and the two joiners. -/
def isWord (c : Char) : Bool :=
  let category := Category.of c
  isAlphabetic c || category.isMark || category == .nd || category == .pc
    || c.toNat == 0x200C || c.toNat == 0x200D

/-- Characters that extend the one before them. -/
def isGraphemeExtend (c : Char) : Bool :=
  match Category.of c with
  | .mn | .me => true
  | _ => inRanges c.toNat otherGraphemeExtend

/-- Characters that show as themselves: no separators but the space, no controls, formats or unassigned ones. -/
def isPrintable (c : Char) : Bool :=
  c == ' ' ||
  match Category.of c with
  | .zs | .zl | .zp | .cc | .cf | .cs | .co | .cn => false
  | _ => true

/-! ### Identifiers -/

/-- Characters that begin an identifier. -/
def isIdStart (c : Char) : Bool :=
  let category := Category.of c
  ((category.isLetter || category == .nl) && !inRanges c.toNat noIdStart) || inRanges c.toNat otherIdStart

/-- Characters that continue an identifier. -/
def isIdContinue (c : Char) : Bool :=
  isIdStart c || inRanges c.toNat otherIdContinue ||
  match Category.of c with
  | .mn | .mc | .nd | .pc => true
  | _ => false

/-- Characters that begin an identifier in every normal form. -/
def isXidStart (c : Char) : Bool := isIdStart c && !inRanges c.toNat noXidStart

/-- Characters that continue an identifier in every normal form. -/
def isXidContinue (c : Char) : Bool := isIdContinue c && !inRanges c.toNat noXidContinue

/-! ### Scripts -/

/-- The script of a character. -/
def scriptOf (c : Char) : Nat := runValue 256 scriptBlocks 255 c.toNat

/-- Whether a character is used with a script, be it its own or not. -/
def usedWithScript (number : Nat) (c : Char) : Bool :=
  match scriptExtensions.find? fun entry => entry.1 ≤ c.toNat && c.toNat ≤ entry.2.1 with
  | some (_, _, scripts) => scripts.contains number
  | none => scriptOf c == number

/-- The script of a name in loose spelling. -/
def script? (spelling : String) : Option Nat := scriptNames.findIdx? (·.contains spelling)

/-! ### Ages -/

/-- Whether a character was assigned in the given version or before it. -/
def assignedBy (version : Nat) (c : Char) : Bool := runValue 32 ageBlocks 31 c.toNat ≤ version

/-- The version of a name in loose spelling: both numbers with a point, or behind a `v` without one. -/
def version? (spelling : String) : Option Nat :=
  versions.findIdx? fun (major, minor) =>
    spelling == toString major ++ "." ++ toString minor || spelling == "v" ++ toString major ++ toString minor

end Reroute.Text
