/-!
# Blanks and comments of a rules file

Between the parts of a value stand blanks and block comments, and in some places line ends and line comments too.  In
a line comment a carriage return stands only before a line feed.
-/

namespace Reroute.Hcl

/-- What stands behind the end of a block comment. -/
def afterBlock? : List Char → Option (List Char)
  | '*' :: '/' :: rest => some rest
  | _ :: rest => afterBlock? rest
  | [] => none

/-- The line end behind the text of a line comment. -/
def afterLineText? : List Char → Option (List Char)
  | [] => some []
  | '\n' :: rest => some ('\n' :: rest)
  | '\r' :: '\n' :: rest => some ('\r' :: '\n' :: rest)
  | '\r' :: _ => none
  | _ :: rest => afterLineText? rest

/-- What stands behind a line comment, up to its line end. -/
def afterLineComment? : List Char → Option (List Char)
  | '#' :: rest => afterLineText? rest
  | '/' :: '/' :: rest => afterLineText? rest
  | _ => none

/-- What stands behind a line end. -/
def afterLineEnd? : List Char → Option (List Char)
  | '\n' :: rest => some rest
  | '\r' :: '\n' :: rest => some rest
  | _ => none

/-- What is being dropped: blanks, a line comment or a block comment. -/
inductive Gap where
  | blank
  | line
  | block
deriving DecidableEq, Repr

/-- Drops the rest of a gap and all blanks and comments behind it. -/
def dropGap (lines : Bool) : Gap → List Char → List Char
  | _, [] => []
  | .block, '*' :: '/' :: rest => dropGap lines .blank rest
  | .block, _ :: rest => dropGap lines .block rest
  | .line, '\n' :: rest => dropGap lines .blank rest
  | .line, _ :: rest => dropGap lines .line rest
  | .blank, '/' :: '*' :: rest =>
    if (afterBlock? rest).isSome then dropGap lines .block rest else '/' :: '*' :: rest
  | .blank, c :: rest =>
    if c = ' ' ∨ c = '\t' ∨ lines ∧ (c = '\n' ∨ c = '\r') then dropGap lines .blank rest
    else if lines ∧ (afterLineComment? (c :: rest)).isSome then dropGap lines .line rest
    else c :: rest

/-- Drops blanks and comments, with line ends and line comments only where `lines` says so. -/
def dropBlank (lines : Bool) (cs : List Char) : List Char := dropGap lines .blank cs

/-- Drops a line comment at the front, but not its line end. -/
def dropLineComment (cs : List Char) : List Char := (afterLineComment? cs).getD cs

end Reroute.Hcl
