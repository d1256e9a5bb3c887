import Reroute.Value.Basic

/-!
# Making and reading values

A getter of a named scope needs a name and no more.  An operation that is added to a value changes the text of the
value, whatever the value is made of.
-/

namespace Reroute

namespace Text

@[simp] theorem join_nil (sep : String) : join sep [] = "" := rfl

theorem join_empty_cons (text : String) (texts : List String) : join "" (text :: texts) = text ++ join "" texts := by
  cases texts with
  | nil => simp [join, joinChars]
  | cons next texts => simp [join, joinChars, String.ofList_append]

end Text

/-- A getter of a named scope is made wherever a name is left. -/
theorem Getter.make_of_isNamed {scope : Scope} (h : scope.isNamed) (index : Option String) :
    make scope index =
      match (index.map Text.trim).filter (· != "") with
      | some name => .ok ⟨scope, .name name, []⟩
      | none => .error (.missingIndex scope) := by
  have hscope : scope.isPathElement = false ∧ scope.isCaptureGroup = false := by
    cases scope <;> first | exact ⟨rfl, rfl⟩ | cases h
  simp only [make, hscope.1, hscope.2, h, Bool.false_eq_true, if_false, if_true]
  cases index.map Text.trim with
  | none => rfl
  | some name => by_cases hname : name = "" <;> simp [hname, Option.filter_some]

namespace Value

variable (request : Request) (scratch : Scratch)

@[simp] theorem read_literal (text : String) : (literal text).read request scratch = text := rfl

theorem read_withOperation (value : Value) (operation : Operation) :
    (value.withOperation operation).read request scratch = operation.apply (value.read request scratch) := by
  cases value with
  | getter g =>
    simp only [withOperation, read, Getter.read, Getter.withOperation, List.foldl_append, List.foldl_cons,
      List.foldl_nil]
    rfl
  | concat parts separator inner =>
    cases inner with
    | none => rfl
    | some inner => simp [withOperation, read, readAll, applyTo, Text.join_empty_cons]

/-- Operations that are added one after the other are applied first to last. -/
private theorem read_foldl_withOperation (operations : List Operation) (value : Value) :
    (operations.foldl withOperation value).read request scratch =
      operations.foldl (fun text operation => operation.apply text) (value.read request scratch) := by
  induction operations generalizing value with
  | nil => rfl
  | cons operation operations ih => rw [List.foldl_cons, ih, read_withOperation, List.foldl_cons]

/-- An operation that is added to a value is applied to the whole text of the value, behind everything that made the
text, and operations that are added in a row are applied in that row. -/
theorem added_operations_act_last (value : Value) :
    (∀ operation : Operation,
        (value.withOperation operation).read request scratch = operation.apply (value.read request scratch)) ∧
      ∀ operations : List Operation, (operations.foldl withOperation value).read request scratch =
        operations.foldl (fun text operation => operation.apply text) (value.read request scratch) :=
  ⟨read_withOperation request scratch value, fun operations =>
    read_foldl_withOperation request scratch operations value⟩

end Value

end Reroute
