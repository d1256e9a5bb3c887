import Reroute.Text.Basic
import Reroute.Text.Break
import Reroute.Text.Character
import Reroute.Text.LetterCase

/-!
# Properties of characters

The properties that a pattern may ask for.
-/

namespace Reroute.Regex

open Reroute.Text

/-- A property of characters. -/
inductive Property where
  | categories (members : List Category)
  | ranges (members : List (Nat × Nat))
  | script (number : Nat)
  | usedWith (number : Nat)
  | assignedBy (version : Nat)
  | graphemeBreak (kind : GraphemeBreak)
  | wordBreak (kind : WordBreak)
  | sentenceBreak (kind : SentenceBreak)
  | alphabetic
  | lowercase
  | uppercase
  | decimalDigit
  | blank
  | word
  | cased
  | caseIgnorable
  | graphemeExtend
  | idStart
  | idContinue
  | xidStart
  | xidContinue
  | changesWhenLower
  | changesWhenUpper
  | changesWhenFolded
deriving DecidableEq, Repr

/-- Whether a character has the property. -/
def Property.holds (property : Property) (c : Char) : Bool :=
  match property with
  | .categories members => members.contains (Category.of c)
  | .ranges members => inRanges c.toNat members
  | .script number => scriptOf c == number
  | .usedWith number => usedWithScript number c
  | .assignedBy version => Text.assignedBy version c
  | .graphemeBreak kind => GraphemeBreak.of c == kind
  | .wordBreak kind => WordBreak.of c == kind
  | .sentenceBreak kind => SentenceBreak.of c == kind
  | .alphabetic => isAlphabetic c
  | .lowercase => isLowercase c
  | .uppercase => isUppercase c
  | .decimalDigit => isDecimalDigit c
  | .blank => isBlank c
  | .word => isWord c
  | .cased => isCased c
  | .caseIgnorable => isCaseIgnorable c
  | .graphemeExtend => isGraphemeExtend c
  | .idStart => isIdStart c
  | .idContinue => isIdContinue c
  | .xidStart => isXidStart c
  | .xidContinue => isXidContinue c
  | .changesWhenLower => lower (String.singleton c) != String.singleton c
  | .changesWhenUpper => upper (String.singleton c) != String.singleton c
  | .changesWhenFolded => foldForm c != c

end Reroute.Regex
