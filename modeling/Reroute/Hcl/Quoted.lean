import Reroute.Text.Json

/-!
# Quoted texts of a rules file

A text in quotes is a row of characters and of pieces of code.  Code begins at a dollar sign before a brace; a doubled
dollar or percent sign before a brace stands for the sign itself.
-/

namespace Reroute.Hcl

/-- A piece of a quoted text; code is kept as it stands, with its braces. -/
inductive Piece where
  | char (c : Char)
  | code (source : List Char)
deriving DecidableEq, Repr

/-! ### Written form -/

/-- The pieces in a row.  Signs that would otherwise begin code are doubled. -/
def writtenPieces : List Piece → List Char
  | .char '$' :: .char '\x7b' :: rest => '$' :: '$' :: '\x7b' :: writtenPieces rest
  | .char '%' :: .char '\x7b' :: rest => '%' :: '%' :: '\x7b' :: writtenPieces rest
  | .char c :: rest => c :: writtenPieces rest
  | .code source :: rest => source ++ writtenPieces rest
  | [] => []

/-- The characters of pieces without code. -/
def plainChars? : List Piece → Option (List Char)
  | .char c :: rest => (plainChars? rest).map (c :: ·)
  | .code _ :: _ => none
  | [] => some []

/-- A text in quotes. -/
def quotedText (content : String) : String :=
  JsonValue.written (String.ofList (writtenPieces (content.toList.map .char)))

/-! ### Escapes -/

/-- The value of digits of base sixteen. -/
def hexValue? : List Char → Option Nat :=
  List.foldl
    (fun value c => value.bind fun n =>
      if '0' ≤ c ∧ c ≤ '9' then some (n * 16 + (c.toNat - 48))
      else if 'a' ≤ c ∧ c ≤ 'f' then some (n * 16 + (c.toNat - 87))
      else if 'A' ≤ c ∧ c ≤ 'F' then some (n * 16 + (c.toNat - 55))
      else none)
    (some 0)

/-- The character with a code point written in base sixteen. -/
def hexChar? (digits : List Char) : Option Char :=
  (hexValue? digits).bind fun n => if n.isValidChar then some (Char.ofNat n) else none

/-- The character that a letter behind a backslash stands for. -/
def escaped? : Char → Option Char
  | 'n' => some '\n'
  | 'r' => some '\r'
  | 't' => some '\t'
  | 'b' => some (Char.ofNat 8)
  | 'f' => some (Char.ofNat 12)
  | '"' => some '"'
  | '\\' => some '\\'
  | '/' => some '/'
  | _ => none

/-- White space that may stand behind a backslash. -/
def isGap (c : Char) : Bool := c == ' ' || c == '\t' || c == '\n' || c == '\r'

/-- Reads what stands behind a backslash.  White space vanishes with it. -/
def readEscape? : List Char → Option (List Piece × List Char)
  | 'u' :: a :: b :: c :: d :: rest => (hexChar? [a, b, c, d]).map fun c => ([.char c], rest)
  | 'U' :: a :: b :: c :: d :: e :: f :: g :: h :: rest =>
    (hexChar? [a, b, c, d, e, f, g, h]).map fun c => ([.char c], rest)
  | c :: rest => if isGap c then some ([], rest.dropWhile isGap) else (escaped? c).map fun c => ([.char c], rest)
  | [] => none

end Reroute.Hcl
