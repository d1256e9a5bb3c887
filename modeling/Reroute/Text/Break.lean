import Reroute.Text.Basic
import Reroute.Text.BinaryRanges
import Reroute.Text.Character

/-!
# Break classes

The classes of characters from which the borders of user-perceived characters, words and sentences are found.  Each
class follows from the category, the script and other properties, up to the listed exceptions.
-/

namespace Reroute.Text

/-! ### User-perceived characters -/

/-- The classes for borders of user-perceived characters; Korean syllables and their parts have classes of their own. -/
inductive GraphemeBreak where
  | control | carriageReturn | lineFeed | extend | joiner | prepend | spacingMark | regionalIndicator
  | leading | vowel | trailing | openSyllable | closedSyllable | other
deriving DecidableEq, Repr

namespace GraphemeBreak

/-- Stands in front of the character that it belongs to. -/
def prepending : List (Nat × Nat) := [
  (0x600, 0x605), (0x6DD, 0x6DD), (0x70F, 0x70F), (0x890, 0x891), (0x8E2, 0x8E2), (0xD4E, 0xD4E), (0x110BD, 0x110BD),
  (0x110CD, 0x110CD), (0x111C2, 0x111C3), (0x113D1, 0x113D1), (0x1193F, 0x1193F), (0x11941, 0x11941),
  (0x11A3A, 0x11A3A), (0x11A84, 0x11A89), (0x11D46, 0x11D46), (0x11F02, 0x11F02)]

/-- Spacing marks that stand on their own. -/
def looseMarks : List (Nat × Nat) := [
  (0x102B, 0x102C), (0x1038, 0x1038), (0x1062, 0x1064), (0x1067, 0x106D), (0x1083, 0x1083), (0x1087, 0x108C),
  (0x108F, 0x108F), (0x109A, 0x109C), (0x1A61, 0x1A61), (0x1A63, 0x1A64), (0xAA7B, 0xAA7B), (0xAA7D, 0xAA7D),
  (0x11720, 0x11721)]

/-- Vowels of syllables. -/
def vowels : List (Nat × Nat) := [
  (0x1160, 0x11A7), (0xD7B0, 0xD7C6), (0x16D63, 0x16D63), (0x16D67, 0x16D6A)]

/-- The class of a character. -/
def of (c : Char) : GraphemeBreak :=
  let n := c.toNat
  let category := Category.of c
  if n = 0xD then carriageReturn
  else if n = 0xA then lineFeed
  else if n = 0x200D then joiner
  else if isGraphemeExtend c || inRanges n rangesEmojiModifier then extend
  else if inRanges n rangesRegionalIndicator then regionalIndicator
  else if inRanges n prepending then prepend
  else if category == .zl || category == .zp || category == .cc || category == .cf then control
  else if category == .cn && inRanges n rangesDefaultIgnorableCodePoint then control
  else if (category == .mc && !inRanges n looseMarks) || n = 0xE33 || n = 0xEB3 then spacingMark
  else if inRanges n [(0x1100, 0x115F), (0xA960, 0xA97C)] then leading
  else if inRanges n vowels then vowel
  else if inRanges n [(0x11A8, 0x11FF), (0xD7CB, 0xD7FB)] then trailing
  else if inRanges n [(0xAC00, 0xD7A3)] then
    if (n - 0xAC00) % 28 = 0 then openSyllable else closedSyllable
  else other

/-- The class of a name in loose spelling; the class of all other characters cannot be asked for. -/
def ofSpelling? : String → Option GraphemeBreak
  | "control" | "cn" => some control
  | "cr" => some carriageReturn
  | "lf" => some lineFeed
  | "extend" | "ex" => some extend
  | "zwj" => some joiner
  | "prepend" | "pp" => some prepend
  | "spacingmark" | "sm" => some spacingMark
  | "regionalindicator" | "ri" => some regionalIndicator
  | "l" => some leading
  | "v" => some vowel
  | "t" => some trailing
  | "lv" => some openSyllable
  | "lvt" => some closedSyllable
  | _ => none

end GraphemeBreak

/-! ### Words -/

/-- The classes for borders of words. -/
inductive WordBreak where
  | letter | hebrewLetter | katakana | numeric | connector | extend | format | joiner | regionalIndicator
  | middleLetter | middleNumber | middleBoth | singleQuote | doubleQuote
  | carriageReturn | lineFeed | newline | space | other
deriving DecidableEq, Repr

namespace WordBreak

/-- Digits and number signs that are no decimal digits by category. -/
def numberSigns : List (Nat × Nat) := [
  (0x600, 0x605), (0x66B, 0x66B), (0x6DD, 0x6DD), (0x890, 0x891), (0x8E2, 0x8E2), (0x19DA, 0x19DA),
  (0x110BD, 0x110BD), (0x110CD, 0x110CD)]

/-- Letters by use that are not alphabetic. -/
def letterSigns : List (Nat × Nat) := [
  (0xB8, 0xB8), (0x2C2, 0x2C5), (0x2D2, 0x2D7), (0x2DE, 0x2DF), (0x2E5, 0x2EB), (0x2ED, 0x2ED), (0x2EF, 0x2FF),
  (0x55A, 0x55C), (0x55E, 0x55E), (0x58A, 0x58A), (0x5F3, 0x5F3), (0x70F, 0x70F), (0xA708, 0xA716),
  (0xA720, 0xA721), (0xA789, 0xA78A), (0xAB5B, 0xAB5B)]

/-- Signs that join numbers. -/
def numberJoints : List (Nat × Nat) := [
  (0x2C, 0x2C), (0x3B, 0x3B), (0x37E, 0x37E), (0x589, 0x589), (0x60C, 0x60D), (0x66C, 0x66C), (0x7F8, 0x7F8),
  (0x2044, 0x2044), (0xFE50, 0xFE50), (0xFE54, 0xFE54), (0xFF0C, 0xFF0C), (0xFF1B, 0xFF1B)]

/-- Signs that join letters as well as numbers. -/
def joints : List (Nat × Nat) := [
  (0x2E, 0x2E), (0x2018, 0x2019), (0x2024, 0x2024), (0xFE52, 0xFE52), (0xFF07, 0xFF07), (0xFF0E, 0xFF0E)]

/-- Signs that join letters. -/
def letterJoints : List (Nat × Nat) := [
  (0x3A, 0x3A), (0xB7, 0xB7), (0x387, 0x387), (0x55F, 0x55F), (0x5F4, 0x5F4), (0x2027, 0x2027), (0xFE13, 0xFE13),
  (0xFE55, 0xFE55), (0xFF1A, 0xFF1A)]

/-- Signs of other scripts that count as Katakana. -/
def katakanaSigns : List (Nat × Nat) := [
  (0x3031, 0x3035), (0x309B, 0x309C), (0x30A0, 0x30A0), (0x30FC, 0x30FC), (0xFF70, 0xFF70)]

/-- The scripts that are written without spaces between words. -/
def unspacedScripts : List String :=
  ["hiragana", "thai", "lao", "myanmar", "khmer", "taile", "newtailue", "taitham", "taiviet", "ahom"]

/-- Whether a character is written in a script. -/
def isIn (script : String) (c : Char) : Bool := script? script == some (scriptOf c)

/-- The class of a character. -/
def of (c : Char) : WordBreak :=
  let n := c.toNat
  let category := Category.of c
  if n = 0xD then carriageReturn
  else if n = 0xA then lineFeed
  else if inRanges n [(0xB, 0xC), (0x85, 0x85), (0x2028, 0x2029)] then newline
  else if n = 0x22 then doubleQuote
  else if n = 0x27 then singleQuote
  else if n = 0x200D then joiner
  else if isGraphemeExtend c || category == .mc || inRanges n rangesEmojiModifier then extend
  else if inRanges n rangesRegionalIndicator then regionalIndicator
  else if n = 0xA0 || n = 0x2007 || n = 0x200B then other
  else if category == .pc || n = 0x202F then connector
  else if category == .zs then space
  else if inRanges n numberJoints then middleNumber
  else if inRanges n joints then middleBoth
  else if inRanges n letterJoints then middleLetter
  else if category == .nd || inRanges n numberSigns then numeric
  else if inRanges n letterSigns then letter
  else if category == .cf then format
  else if isIn "katakana" c || inRanges n katakanaSigns then katakana
  else if category == .lo && isIn "hebrew" c then hebrewLetter
  else if isAlphabetic c && !inRanges n rangesIdeographic && !unspacedScripts.any (isIn · c) then letter
  else other

/-- The class of a name in loose spelling; the class of all other characters cannot be asked for. -/
def ofSpelling? : String → Option WordBreak
  | "aletter" | "le" => some letter
  | "hebrewletter" | "hl" => some hebrewLetter
  | "katakana" | "ka" => some katakana
  | "numeric" | "nu" => some numeric
  | "extendnumlet" | "ex" => some connector
  | "extend" => some extend
  | "format" | "fo" => some format
  | "zwj" => some joiner
  | "regionalindicator" | "ri" => some regionalIndicator
  | "midletter" | "ml" => some middleLetter
  | "midnum" | "mn" => some middleNumber
  | "midnumlet" | "mb" => some middleBoth
  | "singlequote" | "sq" => some singleQuote
  | "doublequote" | "dq" => some doubleQuote
  | "cr" => some carriageReturn
  | "lf" => some lineFeed
  | "newline" | "nl" => some newline
  | "wsegspace" => some space
  | _ => none

end WordBreak

/-! ### Sentences -/

/-- The classes for borders of sentences. -/
inductive SentenceBreak where
  | lower | upper | letter | numeric | extend | format | space | separator | carriageReturn | lineFeed
  | fullStop | terminal | continuation | close | other
deriving DecidableEq, Repr

namespace SentenceBreak

/-- Signs after which a sentence goes on. -/
def continuations : List (Nat × Nat) := [
  (0x2C, 0x2D), (0x3A, 0x3B), (0x37E, 0x37E), (0x55D, 0x55D), (0x60C, 0x60D), (0x7F8, 0x7F8), (0x1802, 0x1802),
  (0x1808, 0x1808), (0x2013, 0x2014), (0x3001, 0x3001), (0xFE10, 0xFE11), (0xFE13, 0xFE14), (0xFE31, 0xFE32),
  (0xFE50, 0xFE51), (0xFE54, 0xFE55), (0xFE58, 0xFE58), (0xFE63, 0xFE63), (0xFF0C, 0xFF0D), (0xFF1A, 0xFF1B),
  (0xFF64, 0xFF64)]

/-- Letters of a script whose sentences begin with no capital letter, though it has two cases. -/
def evenLetters : List (Nat × Nat) := [
  (0x10D0, 0x10FA), (0x10FD, 0x10FF), (0x1C90, 0x1CBA), (0x1CBD, 0x1CBF)]

/-- Quotation signs that are neither brackets nor quotation marks by other properties. -/
def quotationSigns : List (Nat × Nat) := [
  (0x275B, 0x2760), (0x2E00, 0x2E01), (0x2E06, 0x2E08), (0x2E0B, 0x2E0B), (0x1F676, 0x1F678)]

/-- The class of a character. -/
def of (c : Char) : SentenceBreak :=
  let n := c.toNat
  let category := Category.of c
  if n = 0xD then carriageReturn
  else if n = 0xA then lineFeed
  else if inRanges n [(0x85, 0x85), (0x2028, 0x2029)] then separator
  else if isGraphemeExtend c || category == .mc || n = 0x200D then extend
  else if isBlank c then space
  else if inRanges n [(0x2E, 0x2E), (0x2024, 0x2024), (0xFE52, 0xFE52), (0xFF0E, 0xFF0E)] then fullStop
  else if inRanges n continuations then continuation
  else if category == .nd || inRanges n WordBreak.numberSigns || n = 0x66C then numeric
  else if category == .cf then format
  else if inRanges n evenLetters || n = 0x5F3 then letter
  else if isLowercase c then lower
  else if category == .lt || isUppercase c then upper
  else if isAlphabetic c then letter
  else if inRanges n rangesSentenceTerminal then terminal
  else if n = 0xFF02 || n = 0xFF07 then other
  else if category == .ps || category == .pe || category == .pi || category == .pf then close
  else if inRanges n rangesQuotationMark || inRanges n quotationSigns then close
  else other

/-- The class of a name in loose spelling; the class of all other characters cannot be asked for. -/
def ofSpelling? : String → Option SentenceBreak
  | "lower" | "lo" => some lower
  | "upper" | "up" => some upper
  | "oletter" | "le" => some letter
  | "numeric" | "nu" => some numeric
  | "extend" | "ex" => some extend
  | "format" | "fo" => some format
  | "sp" => some space
  | "sep" | "se" => some separator
  | "cr" => some carriageReturn
  | "lf" => some lineFeed
  | "aterm" | "at" => some fullStop
  | "sterm" | "st" => some terminal
  | "scontinue" | "sc" => some continuation
  | "close" | "cl" => some close
  | _ => none

end SentenceBreak

end Reroute.Text
