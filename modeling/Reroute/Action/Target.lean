import Reroute.BuildError
import Reroute.Text.Numeral

/-!
# Write targets

A place of the request that an action writes.  An element without an index other than zero stands for the whole
path; names are kept in small ASCII letters.
-/

namespace Reroute

/-- A place to write. -/
inductive Target where
  | url
  | path
  | queryText
  | pathElement (index : Int)
  | parameter (name : String)
  | header (name : String)
  | serverVariable (name : String)
deriving DecidableEq, Repr

namespace Target

/-- The target of an action at a scope. -/
def make (action : String) (scope : Scope) (index : Option String) : Except BuildError Target :=
  if scope.isReceived then .error (.readOnlyScope action scope)
  else
    let index := (index.map Text.trim).filter (· != "")
    let named (target : String → Target) : Except BuildError Target :=
      match index with
      | some name => .ok (target (Text.lowerAscii name))
      | none => .error (.missingIndex scope)
    match scope with
    | .url => .ok url
    | .path => .ok path
    | .queryText => .ok queryText
    | .pathElement =>
      match index.bind (Text.readInt? 32) with
      | some i => .ok (if i = 0 then path else pathElement i)
      | none => .ok path
    | .parameter => named parameter
    | .header => named header
    | .serverVariable => named serverVariable
    | _ => .error (.unsupportedScope action scope)

/-- The scope of a target. -/
def scope : Target → Scope
  | url => .url
  | path => .path
  | queryText => .queryText
  | pathElement _ => .pathElement
  | parameter _ => .parameter
  | header _ => .header
  | serverVariable _ => .serverVariable

/-- A target in words. -/
def describe (target : Target) : String :=
  match target with
  | pathElement index => target.scope.name ++ "[" ++ toString index ++ "]"
  | parameter name | header name | serverVariable name => target.scope.name ++ "[" ++ name ++ "]"
  | _ => target.scope.name

end Target

end Reroute
