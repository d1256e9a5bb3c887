import Reroute.Hcl.Number
import Reroute.Hcl.Quoted

/-!
# Values of a rules file

Texts, numbers, lists and objects, and expressions over names that nothing here evaluates.  Every value has a written
form; a value that stands for a text is that text, and any other is the template of its written form.
-/

namespace Reroute.Hcl

/-- A value.  A template is kept as it stands between its quotes, and an expression as it is written; a key of an
object is a value, where a bare word is a name. -/
inductive Value where
  | null
  | bool (value : Bool)
  | number (value : Number)
  | text (content : String)
  | template (content : String)
  | name (word : String)
  | list (items : List Value)
  | object (fields : List (Value × Value))
  | group (inner : Value)
  | code (written : String)
deriving Repr

/-- Named values in the order in which they stand. -/
abbrev Fields := List (String × Value)

namespace Value

/-! ### Written form -/

mutual

/-- The value on one line. -/
def written : Value → String
  | null => "null"
  | bool value => if value then "true" else "false"
  | number value => value.written
  | text content => quotedText content
  | template content => "\"" ++ content ++ "\""
  | name word => word
  | list items => "[" ++ writtenItems items ++ "]"
  | object [] => "\x7b\x7d"
  | object fields => "\x7b " ++ writtenFields fields ++ " \x7d"
  | group inner => "(" ++ inner.written ++ ")"
  | code written => written

/-- Values between commas. -/
def writtenItems : List Value → String
  | [] => ""
  | [item] => item.written
  | item :: items => item.written ++ ", " ++ writtenItems items

/-- Fields between commas. -/
def writtenFields : List (Value × Value) → String
  | [] => ""
  | [(key, value)] => key.written ++ " = " ++ value.written
  | (key, value) :: fields => key.written ++ " = " ++ value.written ++ ", " ++ writtenFields fields

end

/-- The value of a text in quotes. -/
def ofPieces (pieces : List Piece) : Value :=
  match plainChars? pieces with
  | some content => text (String.ofList content)
  | none => template (String.ofList (writtenPieces pieces))

/-- The value as a text. -/
def toText : Value → String
  | text content | template content => content
  | value => "$\x7b" ++ value.written ++ "\x7d"

/-- The value without the parentheses around it. -/
def bare : Value → Value
  | group inner => inner.bare
  | value => value

end Value

end Reroute.Hcl
