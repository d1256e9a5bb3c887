import Reroute.Text.Basic

/-!
# Query parameters

An ordered table from parameter names, ASCII letters small, to their values in order of arrival.  Values are kept
as they stand.
-/

namespace Reroute

/-- Parameters in order of first arrival. -/
abbrev Query := List (String × List String)

namespace Query

/-- Puts a value behind the values of a name; a new name goes to the end. -/
def add (name value : String) : Query → Query
  | [] => [(name, [value])]
  | (key, values) :: rest =>
    if key = name then (key, values ++ [value]) :: rest else (key, values) :: add name value rest

/-- The values of a name as it is spelled in the table. -/
def find? (name : String) (query : Query) : Option (List String) :=
  (List.find? (fun entry => entry.1 == name) query).map (·.2)

/-- Gives a name new values; a new name goes to the end. -/
def set (name : String) (values : List String) : Query → Query
  | [] => [(name, values)]
  | (key, old) :: rest => if key = name then (key, values) :: rest else (key, old) :: set name values rest

/-- Removes a name and keeps the order of the others. -/
def erase (name : String) (query : Query) : Query := query.filter fun entry => entry.1 != name

/-- The name and value of one part of a query text. -/
def part (text : String) : String × String :=
  let (name, value) := (Text.cut? '=' text).getD (text, "")
  (Text.lowerAscii name, value)

/-- The parts of a query text that are not empty. -/
def parts (text : String) : List String := (Text.split '&' text).filter (· != "")

/-- Reads a query text: parts between `&`, names cut off at the first `=`. -/
def parse (text : String) : Query :=
  (parts text).foldl (fun query text => let (name, value) := part text; query.add name value) []

/-- The written parts of one parameter; an empty value leaves the bare name. -/
def writeParts (name : String) : List String → List String
  | [] => [name]
  | values => values.map fun value => if value = "" then name else name ++ "=" ++ value

/-- Writes the parameters as a query text. -/
def serialize (query : Query) : String :=
  Text.join "&" (query.flatMap fun entry => writeParts entry.1 entry.2)

/-- The values of a parameter joined by commas; the case of ASCII letters in the name does not count. -/
def parameter? (name : String) (query : Query) : Option String :=
  (query.find? (Text.lowerAscii name)).map (Text.join ",")

end Query

end Reroute
