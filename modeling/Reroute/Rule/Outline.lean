import Reroute.Rule.Basic

/-!
# Outlines

The outline of a rule list: a line for each rule with its flags, its condition and its actions, the rules of
nested lists indented below their rule.
-/

namespace Reroute

/-- A condition of a rule as a line. -/
def Condition.outlineLine (depth : Nat) (condition : Condition) : String :=
  Event.indent depth ++ "  if   " ++ condition.describe

/-- An action of a rule as a line. -/
def Action.outlineLine (depth : Nat) (action : Action) : String := Event.indent depth ++ "  then " ++ action.describe

mutual

/-- The lines of a rule's action; only rule lists in it or directly in its sequence are opened. -/
def Action.outline (depth : Nat) : Action → List String
  | .rules list => list.outline (depth + 1)
  | .sequence steps => Action.outlineSteps depth steps
  | action => [action.outlineLine depth]

/-- The lines of the steps of a sequence. -/
def Action.outlineSteps (depth : Nat) : List Action → List String
  | [] => []
  | .rules list :: steps => list.outline (depth + 1) ++ Action.outlineSteps depth steps
  | step :: steps => step.outlineLine depth :: Action.outlineSteps depth steps

/-- The lines of a rule. -/
def Rule.outline (depth : Nat) : Rule → List String
  | ⟨name, stop, dynamic, condition, none⟩ =>
    (Event.indent depth ++ Rule.head name stop dynamic)
      :: (condition.map (·.outlineLine depth)).toList
  | ⟨name, stop, dynamic, condition, some action⟩ =>
    (Event.indent depth ++ Rule.head name stop dynamic)
      :: (condition.map (·.outlineLine depth)).toList ++ action.outline depth

/-- The lines of rules. -/
def Rule.outlineAll (depth : Nat) : List Rule → List String
  | [] => []
  | rule :: rules => rule.outline depth ++ Rule.outlineAll depth rules

/-- The lines of a rule list. -/
def RuleList.outline (depth : Nat) : RuleList → List String
  | ⟨_, _, rules⟩ => Rule.outlineAll depth rules

end

/-- The outline of a rule list, each line ended. -/
def RuleList.describeTree (list : RuleList) : String := String.join ((list.outline 0).map (· ++ "\n"))

end Reroute
