import Reroute.Condition.FileMatch
import Reroute.Condition.NumberMatch
import Reroute.Condition.TextMatch
import Reroute.Extension

/-!
# Conditions

A condition is a match on a text, a number or a file, a condition of the host, or a list of conditions combined
by one of four logics.  `ConditionList.push` merges a list into another of the same logic and capture setting.
-/

namespace Reroute

/-- How a list combines its conditions: all hold, one holds, none holds, one does not hold. -/
inductive Logic where
  | matchAll
  | matchAny
  | matchNone
  | matchNotAny
deriving DecidableEq, Repr

namespace Logic

/-- The name of a logic. -/
def name : Logic → String
  | matchAll => "matchAll"
  | matchAny => "matchAny"
  | matchNone => "matchNone"
  | matchNotAny => "matchNotAny"

/-- The logic that a name stands for in loose spelling. -/
def parse (text : String) : Except BuildError Logic :=
  match Text.spelling text with
  | "matchall" | "all" | "and" => .ok matchAll
  | "matchany" | "any" | "or" => .ok matchAny
  | "matchnone" | "none" => .ok matchNone
  | "matchnotany" | "notany" => .ok matchNotAny
  | _ => .error (.unknownLogic text)

/-- The result of a condition at which a list need not look further. -/
def decisive : Logic → Bool
  | matchAll | matchNotAny => false
  | matchAny | matchNone => true

/-- The result of a list from whether a decisive condition was met. -/
def conclude (logic : Logic) (met : Bool) : Bool :=
  match logic with
  | matchAll | matchNone => !met
  | matchAny | matchNotAny => met

end Logic

/-- A condition. -/
inductive Condition where
  | text (m : TextMatch)
  | number (m : NumberMatch)
  | file (m : FileMatch)
  | custom (condition : CustomCondition) (negate : Bool)
  | list (logic : Logic) (trackCaptures : Bool) (items : List Condition)

/-- A list of conditions that is being put together. -/
structure ConditionList where
  logic : Logic
  trackCaptures : Bool
  items : List Condition

namespace ConditionList

/-- A list without conditions. -/
def empty (logic : Logic) (trackCaptures : Bool) : ConditionList := ⟨logic, trackCaptures, []⟩

/-- Adds a condition; a list of the same logic and capture setting is merged. -/
def push (conditions : ConditionList) (condition : Condition) : ConditionList :=
  match condition with
  | .list logic track items =>
    if logic = conditions.logic ∧ track = conditions.trackCaptures then
      { conditions with items := conditions.items ++ items }
    else { conditions with items := conditions.items ++ [.list logic track items] }
  | other => { conditions with items := conditions.items ++ [other] }

/-- The list as a condition; a single condition that must hold is itself. -/
def toCondition (conditions : ConditionList) : Condition :=
  match conditions.items with
  | [only] =>
    if conditions.logic = .matchAll ∧ conditions.trackCaptures = false then only
    else .list conditions.logic conditions.trackCaptures [only]
  | items => .list conditions.logic conditions.trackCaptures items

end ConditionList

namespace Condition

mutual

/-- A condition in words. -/
def describe : Condition → String
  | text m => m.describe
  | number m => m.describe
  | file m => m.describe
  | custom condition negate => (if negate then "not " else "") ++ condition.name ++ "()"
  | list logic _ items => logic.name ++ "[" ++ Text.join ", " (describeAll items) ++ "]"

/-- Conditions in words. -/
def describeAll : List Condition → List String
  | [] => []
  | condition :: conditions => condition.describe :: describeAll conditions

end

end Condition

end Reroute
