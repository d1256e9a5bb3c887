import Reroute.Action.Answer
import Reroute.Action.Edit
import Reroute.Action.Shape
import Reroute.Condition.Basic
import Reroute.Value.LookupTable

/-!
# Rules

An action changes the request, answers it, or runs further actions or rules; a rule guards an action by a
condition; a rule list holds rules in order.  `ActionList.push` merges a list of actions into another.  A rule set
is what a rules file is compiled to: a list of rules, and the lookup tables by their names in small letters.
-/

namespace Reroute

mutual

/-- An action. -/
inductive Action where
  | replace (target : Target) (value : Value)
  | append (target : Target) (value : Value)
  | insert (index : Int) (value : Value)
  | delete (target : Target)
  | keep (list : AllowList)
  | normalize (leading trailing : SlashPolicy)
  | truncate (depth : UInt64)
  | redirect (answer : Redirect)
  | respond (answer : FixedResponse)
  | abort
  | doNothing (outcome : Outcome)
  | custom (action : CustomAction)
  | sequence (steps : List Action)
  | rules (list : RuleList)

/-- An action guarded by a condition. -/
structure Rule where
  name : String
  stop : Bool
  dynamic : Bool
  condition : Option Condition
  action : Option Action

/-- Rules in order, and whether a rule that runs them as its action stops. -/
structure RuleList where
  name : String
  stop : Bool
  rules : List Rule

end

/-! ### Action lists -/

/-- Actions that are being put together. -/
structure ActionList where
  steps : List Action

namespace ActionList

/-- No actions. -/
def empty : ActionList := ⟨[]⟩

/-- Adds an action; a list of actions is merged. -/
def push (actions : ActionList) (action : Action) : ActionList :=
  match action with
  | .sequence steps => ⟨actions.steps ++ steps⟩
  | other => ⟨actions.steps ++ [other]⟩

/-- The list as an action; a single action is itself. -/
def toAction (actions : ActionList) : Action :=
  match actions.steps with
  | [only] => only
  | steps => .sequence steps

end ActionList

/-! ### Counting rules -/

mutual

/-- The rules in the lists below an action. -/
def Action.ruleCount : Action → Nat
  | .sequence steps => Action.ruleCountOf steps
  | .rules list => list.ruleCount
  | _ => 0

/-- The rules in the lists below actions. -/
def Action.ruleCountOf : List Action → Nat
  | [] => 0
  | action :: actions => action.ruleCount + Action.ruleCountOf actions

/-- A rule and the rules below it. -/
def Rule.ruleCount : Rule → Nat
  | ⟨_, _, _, _, none⟩ => 1
  | ⟨_, _, _, _, some action⟩ => 1 + action.ruleCount

/-- Rules and the rules below them. -/
def Rule.ruleCountOf : List Rule → Nat
  | [] => 0
  | rule :: rules => rule.ruleCount + Rule.ruleCountOf rules

/-- All rules of a list, nested ones among them. -/
def RuleList.ruleCount : RuleList → Nat
  | ⟨_, _, rules⟩ => Rule.ruleCountOf rules

end

/-! ### Descriptions -/

/-- A rule list in words. -/
def RuleList.describe (list : RuleList) : String :=
  "rules '" ++ list.name ++ "' (" ++ toString list.rules.length ++ " rules)"

mutual

/-- An action in words. -/
def Action.describe : Action → String
  | .replace target value => "replace " ++ target.describe ++ " = " ++ value.describe
  | .append target value => "append " ++ target.describe ++ " += " ++ value.describe
  | .insert index value => "insert pathElement[" ++ toString index ++ "] = " ++ value.describe
  | .delete target => "delete " ++ target.describe
  | .keep list => list.describe
  | .normalize leading trailing => "normalize leading=" ++ leading.name ++ " trailing=" ++ trailing.name
  | .truncate depth => "truncate depth=" ++ toString depth.toNat
  | .redirect answer => answer.describe
  | .respond answer => answer.describe
  | .abort => "abort"
  | .doNothing outcome => "none stop=" ++ Style.truth outcome.stop ++ " end=" ++ Style.truth outcome.endRequest
  | .custom action => action.name ++ "()"
  | .sequence steps => "[" ++ Text.join "; " (Action.describeAll steps) ++ "]"
  | .rules list => list.describe

/-- Actions in words. -/
def Action.describeAll : List Action → List String
  | [] => []
  | action :: actions => action.describe :: Action.describeAll actions

end

/-- The name and flags of a rule in words. -/
def Rule.head (name : String) (stop dynamic : Bool) : String :=
  "rule '" ++ name ++ "'" ++ (if stop then " [stop]" else "") ++ (if dynamic then " [dynamic]" else "")

/-- A rule in words. -/
def Rule.describe (rule : Rule) : String :=
  Rule.head rule.name rule.stop rule.dynamic ++
    (match rule.condition with
      | some condition => " if " ++ condition.describe
      | none => "") ++
    match rule.action with
    | some action => " then " ++ action.describe
    | none => ""

/-! ### Rule sets -/

/-- Rules with their lookup tables. -/
structure RuleSet where
  root : RuleList
  tables : List (String × LookupTable)

namespace RuleSet

/-- The empty rule set. -/
def empty : RuleSet := ⟨⟨"root", false, []⟩, []⟩

/-- The table of a name in any case of ASCII letters. -/
def table? (rules : RuleSet) (name : String) : Option LookupTable :=
  (rules.tables.find? fun entry => entry.1 == Text.lowerAscii name).map (·.2)

/-- The number of rules, nested ones among them. -/
def ruleCount (rules : RuleSet) : Nat := rules.root.ruleCount

/-- The number of tables. -/
def tableCount (rules : RuleSet) : Nat := rules.tables.length

end RuleSet

end Reroute
