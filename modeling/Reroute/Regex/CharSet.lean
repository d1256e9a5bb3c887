import Reroute.Regex.Property

/-!
# Sets of characters

What a pattern may say about one character: ranges, properties, and sets built from others.  A set can be closed under
change of letter case.
-/

namespace Reroute.Regex

open Reroute.Text

/-- A set of characters. -/
inductive CharSet where
  | range (first last : Char)
  | property (p : Property)
  | union (members : List CharSet)
  | both (left right : CharSet)
  | complement (set : CharSet)
  | anyCase (set : CharSet)
  | anyAsciiCase (set : CharSet)
deriving Repr

namespace CharSet

mutual

/-- Whether a character is in the set. -/
def holds : CharSet → Char → Bool
  | range first last, c => first ≤ c && c ≤ last
  | property p, c => p.holds c
  | union members, c => anyHolds members c
  | both left right, c => left.holds c && right.holds c
  | complement set, c => !set.holds c
  | anyCase set, c => (caseVariants c).any fun d => set.holds d
  | anyAsciiCase set, c => set.holds c.toLower || set.holds c.toUpper

/-- Whether a character is in one of the sets. -/
def anyHolds : List CharSet → Char → Bool
  | [], _ => false
  | set :: sets, c => set.holds c || anyHolds sets c

end

/-- The set of one character. -/
def single (c : Char) : CharSet := range c c

/-- No character at all. -/
def none : CharSet := union []

/-- Every character. -/
def any : CharSet := complement none

/-- The characters of some general categories. -/
def ofCategories (members : List Category) : CharSet := property (.categories members)

/-- The members of the first set that are not in the second. -/
def without (left right : CharSet) : CharSet := both left (complement right)

/-- The members of exactly one of two sets. -/
def oneOf (left right : CharSet) : CharSet := union [without left right, without right left]

/-- The sets from ranges of code points. -/
def ofRanges (members : List (Nat × Nat)) : CharSet := property (.ranges members)

/-- The set or its complement. -/
def negateIf (negated : Bool) (set : CharSet) : CharSet := if negated then complement set else set

end CharSet

/-! ### ASCII sets -/

/-- ASCII digits, white space and word characters. -/
def asciiDigits : CharSet := .ofRanges [(48, 57)]

def asciiBlank : CharSet := .ofRanges [(9, 13), (32, 32)]

def asciiWord : CharSet := .ofRanges [(48, 57), (65, 90), (95, 95), (97, 122)]

/-- Whether a character is an ASCII word character. -/
def isAsciiWord (c : Char) : Bool := asciiWord.holds c

/-- The ASCII sets that a bracket names between colons. -/
def asciiClass? (name : String) : Option CharSet :=
  match name with
  | "alnum" => some (.ofRanges [(48, 57), (65, 90), (97, 122)])
  | "alpha" => some (.ofRanges [(65, 90), (97, 122)])
  | "ascii" => some (.ofRanges [(0, 127)])
  | "blank" => some (.ofRanges [(9, 9), (32, 32)])
  | "cntrl" => some (.ofRanges [(0, 31), (127, 127)])
  | "digit" => some asciiDigits
  | "graph" => some (.ofRanges [(33, 126)])
  | "lower" => some (.ofRanges [(97, 122)])
  | "print" => some (.ofRanges [(32, 126)])
  | "punct" => some (.ofRanges [(33, 47), (58, 64), (91, 96), (123, 126)])
  | "space" => some asciiBlank
  | "upper" => some (.ofRanges [(65, 90)])
  | "word" => some asciiWord
  | "xdigit" => some (.ofRanges [(48, 57), (65, 70), (97, 102)])
  | _ => none

end Reroute.Regex
