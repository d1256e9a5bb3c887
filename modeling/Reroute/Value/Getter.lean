import Reroute.BuildError
import Reroute.Request.State
import Reroute.Text.Numeral
import Reroute.Value.Operation
import Reroute.Walk.Scratch

/-!
# Getters

A getter reads one text out of a request: a scope, what the scope needs besides, and the operations that are
applied afterwards, first to last.  Reading never fails; what is not there reads as the empty text.
-/

namespace Reroute

/-- What a scope needs besides its name. -/
inductive Argument where
  | nothing
  | element (index : Int)
  | group (index : Nat)
  | name (name : String)
  | text (text : String)
deriving DecidableEq, Repr

/-- A reader of one text. -/
structure Getter where
  scope : Scope
  argument : Argument
  operations : List Operation

namespace Getter

/-! ### Construction -/

/-- A getter for a scope.  An element scope without an index other than zero reads the whole path; named scopes
need a name and group scopes a number. -/
def make (scope : Scope) (index : Option String) : Except BuildError Getter :=
  let index := index.map Text.trim
  if scope.isPathElement then
    match index.bind (Text.readInt? 32) with
    | some i => if i = 0 then .ok ⟨scope.wholePath, .nothing, []⟩ else .ok ⟨scope, .element i, []⟩
    | none => .ok ⟨scope.wholePath, .nothing, []⟩
  else if scope.isCaptureGroup then
    match index with
    | none => .error (.missingIndex scope)
    | some raw =>
      match Text.readNat? 64 raw with
      | some group => .ok ⟨scope, .group group, []⟩
      | none => .error (.invalidIndex scope raw)
  else if scope.isNamed then
    match index with
    | none => .error (.missingIndex scope)
    | some name => if name = "" then .error (.missingIndex scope) else .ok ⟨scope, .name name, []⟩
  else if scope = .literal then .ok ⟨scope, .text (index.getD ""), []⟩
  else .ok ⟨scope, .nothing, []⟩

/-- A constant text. -/
def literal (text : String) : Getter := ⟨.literal, .text text, []⟩

/-- The header of a name. -/
def header (name : String) : Getter := ⟨.header, .name name, []⟩

/-- The server variable of a name. -/
def serverVariable (name : String) : Getter := ⟨.serverVariable, .name name, []⟩

/-- The scope of the groups under a key. -/
def groupScope : CaptureKey → Scope
  | .fromMatch => .matchGroup
  | .fromConditions => .conditionGroup

/-- A captured group. -/
def capture (key : CaptureKey) (index : Nat) : Getter := ⟨groupScope key, .group index, []⟩

/-- Adds an operation behind the others. -/
def withOperation (getter : Getter) (operation : Operation) : Getter :=
  { getter with operations := getter.operations ++ [operation] }

/-! ### Reading -/

/-- The element index, if the getter reads an element. -/
def element? (getter : Getter) : Option Int :=
  match getter.argument with
  | .element index => some index
  | _ => none

/-- The name, if the getter has one. -/
def name? (getter : Getter) : Option String :=
  match getter.argument with
  | .name name => some name
  | _ => none

/-- The text at the getter's place. -/
def resolve (getter : Getter) (request : Request) (scratch : Scratch) : String :=
  match getter.scope, getter.argument with
  | .receivedUrl, _ => request.receivedUrl
  | .receivedPath, _ => request.receivedPathText
  | .receivedQueryText, _ => request.receivedQueryText
  | .receivedPathElement, .element index => Path.element request.receivedPath index
  | .receivedParameter, .name name => (request.receivedParameter? name).getD ""
  | .receivedHeader, .name name => (request.headers.received? name).getD ""
  | .receivedServerVariable, .name name => (request.serverVariables.received? name).getD ""
  | .url, _ => request.url
  | .path, _ => request.pathText
  | .queryText, _ => request.queryText
  | .pathElement, .element index => Path.element request.path index
  | .parameter, .name name => (request.parameter? name).getD ""
  | .header, .name name => (request.headers.get? name).getD ""
  | .serverVariable, .name name => (request.serverVariables.get? name).getD ""
  | .literal, .text text => text
  | .matchGroup, .group index => scratch.capture .fromMatch index
  | .conditionGroup, .group index => scratch.capture .fromConditions index
  | .matchPath, _ =>
    match request.pathText.toList with
    | '/' :: rest => String.ofList rest
    | _ => request.pathText
  | _, _ => ""

/-- The text at the getter's place after all operations. -/
def read (getter : Getter) (request : Request) (scratch : Scratch) : String :=
  getter.operations.foldl (fun text operation => operation.apply text) (getter.resolve request scratch)

/-- The place in words, without operations. -/
def describePlace (getter : Getter) : String :=
  match getter.argument with
  | .nothing => getter.scope.name
  | .element index => getter.scope.name ++ "[" ++ toString index ++ "]"
  | .group index => getter.scope.name ++ "[" ++ toString index ++ "]"
  | .name name => getter.scope.name ++ "[" ++ name ++ "]"
  | .text text => Text.quoted text

/-- The place and the operations in words. -/
def describe (getter : Getter) : String :=
  getter.operations.foldl (fun text operation => operation.name ++ "(" ++ text ++ ")") getter.describePlace

end Getter

end Reroute
