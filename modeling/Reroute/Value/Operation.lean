import Reroute.Text.Basic
import Reroute.Text.Percent
import Reroute.Value.LookupTable

/-!
# Operations on texts

What is done to a text after it was read: change of case, percent coding, making a path absolute, a lookup, or an
operation of the host.
-/

namespace Reroute

/-- An operation that the host brings along. -/
structure CustomOperation where
  name : String
  apply : String → String

/-- A change of a text. -/
inductive Operation where
  | lower
  | upper
  | urlEncode
  | urlDecode
  | makeAbsolute
  | table (table : LookupTable)
  | custom (operation : CustomOperation)

namespace Operation

/-- The built-in operation of a name; the case of ASCII letters does not count. -/
def builtin? (name : String) : Option Operation :=
  match Text.lowerAscii name with
  | "tolower" | "lower" | "lowercase" => some lower
  | "toupper" | "upper" | "uppercase" => some upper
  | "urlencode" | "encode" => some urlEncode
  | "urldecode" | "decode" => some urlDecode
  | "makeabsolute" | "absolute" => some makeAbsolute
  | _ => none

/-! ### Absolute paths -/

/-- The segments that survive, last first: dots vanish, a double dot takes the one before it along. -/
def reduceDots : List (List Char) → List (List Char) → List (List Char)
  | kept, [] => kept
  | kept, segment :: segments =>
    if segment = [] ∨ segment = ['.'] then reduceDots kept segments
    else if segment = ['.', '.'] then reduceDots kept.tail segments
    else reduceDots (segment :: kept) segments

/-- Roots a path and removes its dot segments; a text with a scheme stays as it is. -/
def absolute (text : String) : String :=
  let cs := text.toList
  if Text.occursIn [':', '/', '/'] cs then text
  else
    let kept := (reduceDots [] (Text.splitChars '/' cs)).reverse
    let slash := if cs.getLast? = some '/' ∧ kept ≠ [] then ['/'] else []
    String.ofList ('/' :: Text.joinChars ['/'] kept ++ slash)

/-- The changed text. -/
def apply : Operation → String → String
  | lower, text => Text.lower text
  | upper, text => Text.upper text
  | urlEncode, text => Text.percentEncode text
  | urlDecode, text => Text.percentDecode text
  | makeAbsolute, text => absolute text
  | table entries, text => entries.lookup text
  | custom operation, text => operation.apply text

/-- The name of an operation. -/
def name : Operation → String
  | lower => "toLower"
  | upper => "toUpper"
  | urlEncode => "urlEncode"
  | urlDecode => "urlDecode"
  | makeAbsolute => "makeAbsolute"
  | table entries => "map:" ++ entries.name
  | custom operation => operation.name

end Operation

end Reroute
