import Reroute.Request.State
import Reroute.Value.Operation
import Reroute.Walk.Scratch

/-!
# Extensions

Operations, conditions and actions that the host brings along.  A registry keeps a builder under each name; the
case of ASCII letters in names does not count, and a later registration takes the place of an earlier one.
-/

namespace Reroute

/-- Parameters of an extension, as configured. -/
abbrev Parameters := List (String × String)

/-- The parameter of a name. -/
def Parameters.get? (parameters : Parameters) (name : String) : Option String :=
  (List.find? (fun entry => entry.1 == name) parameters).map (·.2)

/-- A condition that the host brings along; it may store captures. -/
structure CustomCondition where
  name : String
  test : Request → Scratch → Bool × Scratch

/-- An action that the host brings along. -/
structure CustomAction where
  name : String
  perform : Request → Scratch → Outcome × Request × Scratch

/-- Makes an extension from parameters, or says why it cannot. -/
abbrev Builder (α : Type) := Parameters → Except String α

/-- Builders by name. -/
abbrev Builders (α : Type) := List (String × Builder α)

namespace Builders

/-- The builder of a name. -/
def find? {α : Type} (builders : Builders α) (name : String) : Option (Builder α) :=
  (List.find? (fun entry => entry.1 == Text.lowerAscii name) builders).map (·.2)

/-- Registers a builder in front of the others. -/
def register {α : Type} (builders : Builders α) (name : String) (builder : Builder α) : Builders α :=
  (Text.lowerAscii name, builder) :: builders

end Builders

/-- The registered extensions. -/
structure Registry where
  operations : Builders CustomOperation
  conditions : Builders CustomCondition
  actions : Builders CustomAction

namespace Registry

/-- No extensions. -/
def empty : Registry := ⟨[], [], []⟩

/-- Registers an operation. -/
def registerOperation (registry : Registry) (name : String) (builder : Builder CustomOperation) : Registry :=
  { registry with operations := registry.operations.register name builder }

/-- Registers a condition. -/
def registerCondition (registry : Registry) (name : String) (builder : Builder CustomCondition) : Registry :=
  { registry with conditions := registry.conditions.register name builder }

/-- Registers an action. -/
def registerAction (registry : Registry) (name : String) (builder : Builder CustomAction) : Registry :=
  { registry with actions := registry.actions.register name builder }

/-- Whether nothing is registered. -/
def isEmpty (registry : Registry) : Bool :=
  registry.operations.isEmpty && registry.conditions.isEmpty && registry.actions.isEmpty

end Registry

end Reroute
