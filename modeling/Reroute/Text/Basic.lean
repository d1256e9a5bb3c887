/-!
# Plain text

Splitting at a character, cutting at the first occurrence of one, trimming, ASCII letter case, and the loose
spelling under which names are compared.  Everything is stated on lists of characters first; the forms on
`String` wrap those.
-/

namespace Reroute.Text

/-! ### Splitting and cutting -/

/-- The runs between the separators; there is one more run than there are separators. -/
def splitChars (sep : Char) : List Char → List (List Char)
  | [] => [[]]
  | c :: rest =>
    if c = sep then [] :: splitChars sep rest
    else match splitChars sep rest with
      | [] => [[c]]
      | run :: runs => (c :: run) :: runs

/-- Splits at every occurrence of a character. -/
def split (sep : Char) (text : String) : List String :=
  (splitChars sep text.toList).map String.ofList

/-- The characters before and after the first occurrence of `sep`. -/
def cutChars? (sep : Char) : List Char → Option (List Char × List Char)
  | [] => none
  | c :: rest =>
    if c = sep then some ([], rest)
    else (cutChars? sep rest).map fun cut => (c :: cut.1, cut.2)

/-- The text before and after the first occurrence of `sep`. -/
def cut? (sep : Char) (text : String) : Option (String × String) :=
  (cutChars? sep text.toList).map fun cut => (String.ofList cut.1, String.ofList cut.2)

/-- The runs joined by a separator. -/
def joinChars (sep : List Char) : List (List Char) → List Char
  | [] => []
  | [run] => run
  | run :: runs => run ++ sep ++ joinChars sep runs

/-- The texts joined by a separator. -/
def join (sep : String) (texts : List String) : String :=
  String.ofList (joinChars sep.toList (texts.map String.toList))

/-! ### Trimming -/

/-- Drops the characters at the end for which `p` holds. -/
def dropEndWhile (p : Char → Bool) (cs : List Char) : List Char :=
  (cs.reverse.dropWhile p).reverse

/-- Drops the characters at the start for which `p` holds. -/
def trimStartBy (p : Char → Bool) (text : String) : String :=
  String.ofList (text.toList.dropWhile p)

/-- Drops the characters at the end for which `p` holds. -/
def trimEndBy (p : Char → Bool) (text : String) : String :=
  String.ofList (dropEndWhile p text.toList)

/-- Drops the characters at both ends for which `p` holds. -/
def trimBy (p : Char → Bool) (text : String) : String :=
  String.ofList (dropEndWhile p (text.toList.dropWhile p))

/-- The characters of the property White_Space. -/
def isBlank (c : Char) : Bool :=
  let n := c.toNat
  (9 ≤ n && n ≤ 13) || n == 32 || n == 0x85 || n == 0xA0 || n == 0x1680 || (0x2000 ≤ n && n ≤ 0x200A)
    || n == 0x2028 || n == 0x2029 || n == 0x202F || n == 0x205F || n == 0x3000

/-- Drops white space at both ends. -/
def trim (text : String) : String := trimBy isBlank text

/-! ### Comparing -/

/-- Whether `part` stands somewhere in the characters. -/
def occursIn (part : List Char) : List Char → Bool
  | [] => part.isEmpty
  | c :: rest => part.isPrefixOf (c :: rest) || occursIn part rest

/-- ASCII capital letters become small; everything else stays. -/
def lowerAscii (text : String) : String :=
  String.ofList (text.toList.map Char.toLower)

/-- The loose spelling of a name: no underscores or dashes, ASCII letters small. -/
def spelling (name : String) : String :=
  String.ofList ((name.toList.filter fun c => c != '_' && c != '-').map Char.toLower)

end Reroute.Text
