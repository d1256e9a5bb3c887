/-!
# JSON texts

Values with fields in order, their text on one line, and their text over several lines: two blanks for every level,
empty lists and objects on one line.
-/

namespace Reroute

/-- A JSON value. -/
inductive JsonValue where
  | null
  | bool (value : Bool)
  | number (value : Int)
  | text (content : String)
  | list (items : List JsonValue)
  | object (fields : List (String × JsonValue))
deriving Repr

namespace JsonValue

/-! ### Texts -/

/-- A control character as a number of four digits in base sixteen. -/
def escapedCode (n : Nat) : List Char :=
  let digits := Nat.toDigits 16 n
  ['\\', 'u'] ++ List.replicate (4 - digits.length) '0' ++ digits

/-- One character as it stands between the quotes. -/
def escapedChar (c : Char) : List Char :=
  if c = '"' then ['\\', '"']
  else if c = '\\' then ['\\', '\\']
  else if c = '\n' then ['\\', 'n']
  else if c = '\r' then ['\\', 'r']
  else if c = '\t' then ['\\', 't']
  else if c.toNat = 8 then ['\\', 'b']
  else if c.toNat = 12 then ['\\', 'f']
  else if c.toNat < 32 then escapedCode c.toNat
  else [c]

/-- A text in quotes. -/
def written (text : String) : String := String.ofList ('"' :: text.toList.flatMap escapedChar ++ ['"'])

/-- A text or `null`. -/
def ofText? : Option String → JsonValue
  | some content => .text content
  | none => .null

/-- A truth value or `null`. -/
def ofBool? : Option Bool → JsonValue
  | some value => .bool value
  | none => .null

/-- A number or `null`. -/
def ofNumber? : Option Int → JsonValue
  | some value => .number value
  | none => .null

/-- Named texts. -/
def ofEntries (entries : List (String × String)) : JsonValue := .object (entries.map fun entry => (entry.1, .text entry.2))

/-! ### Values on one line -/

mutual

/-- A value without blanks. -/
def compact : JsonValue → String
  | null => "null"
  | bool value => if value then "true" else "false"
  | number value => toString value
  | text content => written content
  | list items => "[" ++ compactItems true items ++ "]"
  | object fields => "\x7b" ++ compactFields true fields ++ "\x7d"

/-- The items of a list. -/
def compactItems (first : Bool) : List JsonValue → String
  | [] => ""
  | item :: items => (if first then "" else ",") ++ item.compact ++ compactItems false items

/-- The fields of an object. -/
def compactFields (first : Bool) : List (String × JsonValue) → String
  | [] => ""
  | (name, value) :: fields =>
    (if first then "" else ",") ++ written name ++ ":" ++ value.compact ++ compactFields false fields

end

/-! ### Values over several lines -/

/-- A line end and the blanks of a level. -/
def newLine (level : Nat) : String := String.ofList ('\n' :: List.replicate (2 * level) ' ')

mutual

/-- A value whose lines are indented by a level. -/
def pretty (level : Nat) : JsonValue → String
  | null => "null"
  | bool value => if value then "true" else "false"
  | number value => toString value
  | text content => written content
  | list [] => "[]"
  | list items => "[" ++ prettyItems (level + 1) true items ++ newLine level ++ "]"
  | object [] => "\x7b\x7d"
  | object fields => "\x7b" ++ prettyFields (level + 1) true fields ++ newLine level ++ "\x7d"

/-- The items of a list, each on a line of its own. -/
def prettyItems (level : Nat) (first : Bool) : List JsonValue → String
  | [] => ""
  | item :: items =>
    (if first then "" else ",") ++ newLine level ++ item.pretty level ++ prettyItems level false items

/-- The fields of an object, each on a line of its own. -/
def prettyFields (level : Nat) (first : Bool) : List (String × JsonValue) → String
  | [] => ""
  | (name, value) :: fields =>
    (if first then "" else ",") ++ newLine level ++ written name ++ ": " ++ value.pretty level
      ++ prettyFields level false fields

end

end JsonValue

end Reroute
