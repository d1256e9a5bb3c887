import Reroute.Action.Target
import Reroute.Request.State

/-!
# Writing single places

Replacing, appending to, inserting and deleting one place of the request.  What addresses no element, and what
deletes a name that is not there, changes nothing.
-/

namespace Reroute

namespace Request

/-- Gives a target a new text. -/
def replace (request : Request) (target : Target) (text : String) : Request :=
  match target with
  | .url => request.setUrl text
  | .path => request.setPathText text
  | .queryText => request.setQueryText text
  | .pathElement index =>
    match Path.resolve? request.path index with
    | some position => request.modifyPath (·.set position text)
    | none => request
  | .parameter name => request.modifyQuery (·.set name [text])
  | .header name => request.modifyHeaders (·.set name text)
  | .serverVariable name => request.modifyVariables (·.set name text)

/-- Puts a text behind a path, with one slash between. -/
def appendPath (path text : String) : String :=
  Text.trimEndBy (· == '/') path ++ "/" ++ Text.trimStartBy (· == '/') text

/-- Puts a text behind a query text, with one separator between; an empty text adds nothing. -/
def appendQuery? (query text : String) : Option String :=
  let addition := Text.trimStartBy (· == '&') text
  if addition = "" then none
  else
    let current := Text.trimEndBy (· == '&') query
    some (if current = "" then addition else current ++ "&" ++ addition)

/-- Puts a text behind the last value of a parameter, or makes it the first. -/
def appendValue (text : String) : List String → List String
  | [] => [text]
  | [value] => [value ++ text]
  | value :: values => value :: appendValue text values

/-- Puts a text behind the one at a target. -/
def append (request : Request) (target : Target) (text : String) : Request :=
  match target with
  | .url => request.setUrl (request.url ++ text)
  | .path => request.setPathText (appendPath request.pathText text)
  | .queryText =>
    match appendQuery? request.queryText text with
    | some query => request.setQueryText query
    | none => request
  | .pathElement index =>
    match Path.resolve? request.path index with
    | some position => request.modifyPath (·.modify position (· ++ text))
    | none => request
  | .parameter name => request.modifyQuery fun query => query.set name (appendValue text ((query.find? name).getD []))
  | .header name => request.modifyHeaders (·.append name text)
  | .serverVariable name => request.modifyVariables (·.append name text)

/-- Inserts a segment in front of an element. -/
def insertSegment (request : Request) (index : Int) (text : String) : Request :=
  match Path.resolveInsert? request.path index with
  | some position => request.modifyPath (·.insertIdx position text)
  | none => request

/-- Deletes a target; of a whole path or URL the root is left. -/
def delete (request : Request) (target : Target) : Request :=
  match target with
  | .url => request.setUrl "/"
  | .path => request.modifyPath fun _ => Path.root
  | .queryText => request.setQueryText ""
  | .pathElement index =>
    match Path.resolve? request.path index with
    | some position => request.modifyPath fun segments => Path.ensureRoot (segments.eraseIdx position)
    | none => request
  | .parameter name =>
    if (request.query.find? name).isSome then request.modifyQuery (·.erase name) else request
  | .header name => if request.headers.contains name then request.modifyHeaders (·.remove name) else request
  | .serverVariable name =>
    if request.serverVariables.contains name then request.modifyVariables (·.remove name) else request

end Request

/-- The index at which a segment is inserted; only path scopes take one, and it has to be a number. -/
def insertIndex (scope : Scope) (index : Option String) : Except BuildError Int :=
  if scope.isReceived then .error (.readOnlyScope "insert" scope)
  else if scope ≠ .path ∧ scope ≠ .pathElement then .error (.unsupportedScope "insert" scope)
  else match index.map Text.trim with
    | none => .error (.missingIndex scope)
    | some raw =>
      match Text.readInt? 32 raw with
      | some i => .ok i
      | none => .error (.invalidIndex scope raw)

end Reroute
