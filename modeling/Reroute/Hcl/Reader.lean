import Reroute.Hcl.Blank
import Reroute.Hcl.Value
import Reroute.Text.Character

/-!
# Reading a rules file

A file is a row of attributes, one a line.  A file in which a name stands twice is refused, and so is an object in
which a key is written twice in the same way.  Nothing is evaluated: the parts of an expression are read as values and
kept in their written form.
-/

namespace Reroute.Hcl

open Reroute.Text

/-! ### Words

A word begins like an identifier or with an underscore, and hyphens may stand in it.  Words take the letters of
version 17 of the character tables, which are more than the tables of categories hold.
-/

/-- Letters that only version 17 of the tables has. -/
def newLetters : List (Nat × Nat) := [
  (2191, 2191), (3164, 3164), (3292, 3292), (42958, 42959), (42962, 42962), (42964, 42964), (42993, 42993),
  (67904, 67929), (69317, 69319), (73136, 73179), (93856, 93880), (93883, 93907), (94194, 94198), (100344, 100351),
  (101641, 101662), (101760, 101874), (124608, 124638), (124640, 124642), (124644, 124645), (124647, 124653),
  (124656, 124660), (124670, 124671), (177978, 177983), (183970, 183981), (205744, 210041)]

/-- Marks and digits that only version 17 of the tables has. -/
def newMarks : List (Nat × Nat) := [
  (6863, 6877), (6880, 6891), (69370, 69371), (72544, 72551), (73184, 73193), (124640, 124661)]

/-- Characters that begin a word. -/
def startsWord (c : Char) : Bool := c == '_' || isXidStart c || inRanges c.toNat newLetters

/-- Characters that continue a word. -/
def continuesWord (c : Char) : Bool :=
  startsWord c || c == '-' || isXidContinue c || inRanges c.toNat newMarks

/-- Reads a word. -/
def readWord? : List Char → Option (String × List Char)
  | c :: rest =>
    if startsWord c then some (String.ofList (c :: rest.takeWhile continuesWord), rest.dropWhile continuesWord)
    else none
  | [] => none

/-! ### Marks -/

/-- The depth of the deepest value. -/
def maxDepth : Nat := 64

/-- Reads an operator between two values. -/
def readOperator? : List Char → Option (String × List Char)
  | '=' :: '=' :: rest => some ("==", rest)
  | '!' :: '=' :: rest => some ("!=", rest)
  | '<' :: '=' :: rest => some ("<=", rest)
  | '>' :: '=' :: rest => some (">=", rest)
  | '&' :: '&' :: rest => some ("&&", rest)
  | '|' :: '|' :: rest => some ("||", rest)
  | '/' :: '/' :: _ | '/' :: '*' :: _ => none
  | c :: rest => if "+-*/%<>".toList.contains c then some (String.singleton c, rest) else none
  | [] => none

/-- What stands behind the mark between a key and its value. -/
def afterAssign? : List Char → Option (List Char)
  | '=' :: rest | ':' :: rest => some rest
  | _ => none

/-- What stands behind a certain character. -/
def afterMark? (mark : Char) : List Char → Option (List Char)
  | c :: rest => if c = mark then some rest else none
  | [] => none

/-- Whether a list or an object begins like a loop, which is not read. -/
def startsLoop (cs : List Char) : Bool :=
  match dropBlank true cs with
  | 'f' :: 'o' :: 'r' :: c :: _ => c == ' ' || c == '\t' || c == '#' || c == '/'
  | _ => false

/-- The name of a part of a value: a word or a position. -/
def readPart? (cs : List Char) : Option (String × List Char) :=
  match readWord? cs with
  | some word => some word
  | none =>
    let digits := cs.takeWhile Char.isDigit
    if digits.isEmpty then none else some (String.ofList digits, cs.dropWhile Char.isDigit)

/-- The value that a word stands for. -/
def Value.ofWord : String → Value
  | "null" => .null
  | "true" => .bool true
  | "false" => .bool false
  | word => .name word

/-- The value behind a minus sign. -/
def Value.negated : Value → Value
  | .number value => .number value.negated
  | value => .code ("-" ++ value.written)

/-! ### Values -/

mutual

/-- Reads a value at a depth: an operand, its parts, and what it is combined with.  Line ends may stand in it where
`lines` says so; `fuel` exceeds four times the length. -/
def readValue? : Nat → Nat → Bool → List Char → Option (Value × List Char)
  | 0, _, _, _ => none
  | fuel + 1, depth, lines, cs =>
    if maxDepth < depth then none
    else do
      let (value, rest) ← readOperand? fuel depth cs
      readBehind? fuel depth lines value rest

/-- Reads what stands behind an operand. -/
def readBehind? : Nat → Nat → Bool → Value → List Char → Option (Value × List Char)
  | 0, _, _, _, _ => none
  | fuel + 1, depth, lines, value, cs =>
    match dropBlank lines cs with
    | '.' :: '*' :: rest => readBehind? fuel depth lines (.code (value.written ++ ".*")) rest
    | '.' :: rest => do
      let (part, rest) ← readPart? rest
      readBehind? fuel depth lines (.code (value.written ++ "." ++ part)) rest
    | '[' :: rest =>
      match dropBlank true rest with
      | '*' :: rest => do
        let rest ← afterMark? ']' (dropBlank true rest)
        readBehind? fuel depth lines (.code (value.written ++ "[*]")) rest
      | rest => do
        let (index, rest) ← readValue? fuel (depth + 1) true rest
        let rest ← afterMark? ']' (dropBlank true rest)
        readBehind? fuel depth lines (.code (value.written ++ "[" ++ index.written ++ "]")) rest
    | '?' :: rest => do
      let (yes, rest) ← readValue? fuel (depth + 1) lines (dropBlank lines rest)
      let rest ← afterMark? ':' (dropBlank lines rest)
      let (no, rest) ← readValue? fuel (depth + 1) lines (dropBlank lines rest)
      some (.code (value.written ++ " ? " ++ yes.written ++ " : " ++ no.written), rest)
    | rest =>
      match readOperator? rest with
      | some (operator, rest) => do
        let (right, rest) ← readValue? fuel depth lines (dropBlank lines rest)
        some (.code (value.written ++ " " ++ operator ++ " " ++ right.written), rest)
      | none => some (value, cs)

/-- Reads an operand. -/
def readOperand? : Nat → Nat → List Char → Option (Value × List Char)
  | 0, _, _ => none
  | fuel + 1, depth, cs =>
    match cs with
    | '"' :: rest => do
      let (pieces, rest) ← readPieces? fuel depth rest
      some (.ofPieces pieces, rest)
    | '[' :: rest =>
      if startsLoop rest then none
      else do
        let (items, rest) ← readItems? fuel depth ']' (dropBlank true rest)
        some (.list items, rest)
    | '\x7b' :: rest =>
      if startsLoop rest then none
      else do
        let (fields, rest) ← readFields? fuel depth [] (dropBlank true rest)
        some (.object fields, rest)
    | '(' :: rest => do
      let (inner, rest) ← readValue? fuel (depth + 1) true (dropBlank true rest)
      let rest ← afterMark? ')' (dropBlank true rest)
      some (.group inner, rest)
    | '-' :: rest => do
      let (value, rest) ← readOperand? fuel depth (dropBlank false rest)
      some (value.negated, rest)
    | '!' :: rest => do
      let (value, rest) ← readOperand? fuel depth (dropBlank false rest)
      some (.code ("!" ++ value.written), rest)
    | cs =>
      match readWord? cs with
      | some (word, '(' :: rest) => do
        let (arguments, rest) ← readItems? fuel depth ')' (dropBlank true rest)
        some (.code (word ++ "(" ++ Value.writtenItems arguments ++ ")"), rest)
      | some (word, rest) => some (.ofWord word, rest)
      | none =>
        if (cs.head?.map Char.isDigit).getD false then do
          let (value, rest) ← Number.read? cs
          some (.number value, rest)
        else none

/-- Reads a text up to the closing quote.  A percent sign before a brace would begin a directive, which is not
read. -/
def readPieces? : Nat → Nat → List Char → Option (List Piece × List Char)
  | 0, _, _ => none
  | fuel + 1, depth, cs =>
    match cs with
    | [] => none
    | '"' :: rest => some ([], rest)
    | '$' :: '$' :: '\x7b' :: rest => do
      let (pieces, rest) ← readPieces? fuel depth rest
      some (.char '$' :: .char '\x7b' :: pieces, rest)
    | '%' :: '%' :: '\x7b' :: rest => do
      let (pieces, rest) ← readPieces? fuel depth rest
      some (.char '%' :: .char '\x7b' :: pieces, rest)
    | '%' :: '\x7b' :: _ => none
    | '$' :: '\x7b' :: code => do
      let (_, behind) ← readValue? fuel (depth + 1) true (dropBlank true code)
      let behind ← afterMark? '\x7d' (dropBlank true behind)
      let (pieces, rest) ← readPieces? fuel depth behind
      some (.code (cs.take (cs.length - behind.length)) :: pieces, rest)
    | '\\' :: rest => do
      let (first, rest) ← readEscape? rest
      let (pieces, rest) ← readPieces? fuel depth rest
      some (first ++ pieces, rest)
    | c :: rest => do
      let (pieces, rest) ← readPieces? fuel depth rest
      some (.char c :: pieces, rest)

/-- Reads values between commas up to a closing mark; a comma may stand behind the last one. -/
def readItems? : Nat → Nat → Char → List Char → Option (List Value × List Char)
  | 0, _, _, _ => none
  | fuel + 1, depth, close, cs =>
    match afterMark? close cs with
    | some rest => some ([], rest)
    | none => do
      let (item, rest) ← readValue? fuel (depth + 1) true cs
      let rest := dropBlank true rest
      match afterMark? close rest, afterMark? ',' rest with
      | some rest, _ => some ([item], rest)
      | none, some rest =>
        let (items, rest) ← readItems? fuel depth close (dropBlank true rest)
        some (item :: items, rest)
      | none, none => none

/-- Reads the fields of an object up to its end, each behind a comma or on a line of its own; `keys` are the written
keys so far. -/
def readFields? : Nat → Nat → List String → List Char → Option (List (Value × Value) × List Char)
  | 0, _, _, _ => none
  | fuel + 1, depth, keys, cs =>
    match afterMark? '\x7d' cs with
    | some rest => some ([], rest)
    | none => do
      let (key, rest) ← readValue? fuel (depth + 1) false cs
      let rest ← afterAssign? (dropBlank false rest)
      let (value, rest) ← readValue? fuel (depth + 1) false (dropBlank false rest)
      if keys.contains key.written then none
      else
        let rest := dropBlank false rest
        match afterMark? '\x7d' rest, afterMark? ',' rest <|> afterLineEnd? (dropLineComment rest) with
        | some rest, _ => some ([(key, value)], rest)
        | none, some rest =>
          let (fields, rest) ← readFields? fuel depth (key.written :: keys) (dropBlank true rest)
          some ((key, value) :: fields, rest)
        | none, none => none

end

/-! ### Files -/

/-- Reads the attributes of a file; `names` are the names so far. -/
def readAttributes? : Nat → List String → List Char → Option Fields
  | 0, _, _ => none
  | fuel + 1, names, cs =>
    match dropBlank true cs with
    | [] => some []
    | cs => do
      let (name, rest) ← readWord? cs
      let rest ← afterMark? '=' (dropBlank false rest)
      let (value, rest) ← readValue? (4 * rest.length + 4) 0 false (dropBlank false rest)
      if names.contains name then none
      else
        match dropLineComment (dropBlank false rest) with
        | [] => some [(name, value)]
        | rest =>
          let rest ← afterLineEnd? rest
          let fields ← readAttributes? fuel (name :: names) rest
          some ((name, value) :: fields)

/-- Reads the text of a file. -/
def parse? (text : String) : Option Fields := readAttributes? (text.length + 1) [] text.toList

end Reroute.Hcl
