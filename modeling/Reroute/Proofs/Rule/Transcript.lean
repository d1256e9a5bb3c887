import Reroute.Proofs.Condition.Table
import Reroute.Proofs.Walk.Block

/-!
# Transcripts

A transcript of a walk has a block for every list, rule, condition and action that the walk came to, one inside the
other as in the rules.  What may stand in a transcript, and which results and flags belong to it, is said by a grammar
over the rules (`RuleList.Recorded`): what comes in order is recorded in order, and things are left out only behind one
that stops.
-/

namespace Reroute

/-- What the end of a rule says about it. -/
structure RuleReport where
  matched : Bool
  stop : Bool
  endRequest : Bool
deriving DecidableEq, Repr

/-- Whether no further rule is evaluated. -/
def RuleReport.Stops (report : RuleReport) : Prop := report.matched = true ∧ report.stop = true

/-! ### Blocks of a transcript -/

namespace EventBlock

/-- The block of a single condition. -/
def ofCondition (description : String) (result : Bool) : EventBlock := single (.condition description result) rfl

/-- The block of a list of conditions. -/
def ofConditions (logic : Logic) (inside : List EventBlock) (result : Bool) : EventBlock :=
  nest (.conditionListBegin logic.name) inside (.conditionListEnd logic.name result) rfl rfl

/-- The block of an action. -/
def ofAction (description : String) (outcome : Outcome) : EventBlock :=
  single (.action description outcome.stop outcome.endRequest) rfl

/-- The block of a rule. -/
def ofRule (name : String) (inside : List EventBlock) (report : RuleReport) : EventBlock :=
  nest (.ruleBegin name) inside (.ruleEnd name report.matched report.stop report.endRequest) rfl rfl

/-- The block of a rule list. -/
def ofRules (name : String) (inside : List EventBlock) (matched endRequest : Bool) : EventBlock :=
  nest (.ruleListBegin name) inside (.ruleListEnd name matched endRequest) rfl rfl

end EventBlock

/-! ### In order up to a stop -/

/-- Reports of things in order, of which only the last may stop; things are left over only if it does. -/
structure UpTo {α β : Type} (stops : α → Prop) (reports : List α) (left : List β) : Prop where
  before : ∀ report ∈ reports.dropLast, ¬stops report
  behind : left ≠ [] → ∃ last, reports.getLast? = some last ∧ stops last

namespace UpTo

variable {α β : Type} {stops : α → Prop} {report : α} {reports : List α} {left : List β}

theorem nil : UpTo stops ([] : List α) ([] : List β) := ⟨by simp, by simp⟩

theorem stop (h : stops report) : UpTo stops [report] left := ⟨by simp, fun _ => ⟨report, rfl, h⟩⟩

theorem cons (h : ¬stops report) (hrest : UpTo stops reports left) : UpTo stops (report :: reports) left where
  before := by
    cases reports with
    | nil => simp
    | cons next reports => simpa [h] using hrest.before
  behind hleft := by
    obtain ⟨last, hlast, hstops⟩ := hrest.behind hleft
    exact ⟨last, by simp [List.getLast?_cons, hlast], hstops⟩

end UpTo

/-! ### The grammar -/

/-- The actions that are made of no others. -/
def Action.IsLeaf : Action → Prop
  | .sequence _ | .rules _ => False
  | _ => True

/-- The conditions that are no list. -/
def Condition.IsSingle : Condition → Prop
  | .list _ _ _ => False
  | _ => True

mutual

/-- A condition with its result, and the block that its test records. -/
inductive Condition.Recorded : Condition → Bool → EventBlock → Prop
  | single {condition : Condition} (result : Bool) (h : condition.IsSingle) :
      Recorded condition result (.ofCondition condition.describe result)
  | list {logic : Logic} {track : Bool} {done left : List Condition} {results : List Bool} {blocks : List EventBlock}
      (hdone : Condition.AllRecorded done results blocks) (hupTo : UpTo (· = logic.decisive) results left) :
      Recorded (.list logic track (done ++ left)) (logic.table results)
        (.ofConditions logic blocks (logic.table results))

/-- Conditions in order with their results, and the blocks of their tests. -/
inductive Condition.AllRecorded : List Condition → List Bool → List EventBlock → Prop
  | nil : AllRecorded [] [] []
  | cons {condition : Condition} {conditions : List Condition} {result : Bool} {results : List Bool}
      {block : EventBlock} {blocks : List EventBlock} (hfirst : Condition.Recorded condition result block)
      (hrest : AllRecorded conditions results blocks) :
      AllRecorded (condition :: conditions) (result :: results) (block :: blocks)

end

/-- The blocks of a rule's condition, where it has one, that was tested with a result. -/
inductive Condition.RecordedIfAny : Option Condition → Bool → List EventBlock → Prop
  | none : RecordedIfAny none true []
  | some {condition : Condition} {result : Bool} {block : EventBlock} (h : condition.Recorded result block) :
      RecordedIfAny (some condition) result [block]

mutual

/-- An action with its outcome, and the blocks that it records; a sequence is not seen. -/
inductive Action.Recorded : Action → Outcome → List EventBlock → Prop
  | single {action : Action} (outcome : Outcome) (h : action.IsLeaf) :
      Action.Recorded action outcome [.ofAction action.describe outcome]
  | sequence {done left : List Action} {outcomes : List Outcome} {blocks : List EventBlock}
      (hdone : Action.AllRecorded done outcomes blocks) (hupTo : UpTo (·.stop = true) outcomes left) :
      Action.Recorded (.sequence (done ++ left)) ⟨outcomes.any (·.stop), outcomes.any (·.endRequest)⟩ blocks
  | rules {list : RuleList} {matched endRequest : Bool} {block : EventBlock}
      (h : RuleList.Recorded list matched endRequest block) :
      Action.Recorded (.rules list) ⟨list.stop, endRequest⟩ [block]

/-- Actions in order with their outcomes, and the blocks that they record. -/
inductive Action.AllRecorded : List Action → List Outcome → List EventBlock → Prop
  | nil : Action.AllRecorded [] [] []
  | cons {action : Action} {actions : List Action} {outcome : Outcome} {outcomes : List Outcome}
      {blocks more : List EventBlock} (hfirst : Action.Recorded action outcome blocks)
      (hrest : Action.AllRecorded actions outcomes more) :
      Action.AllRecorded (action :: actions) (outcome :: outcomes) (blocks ++ more)

/-- The blocks of a rule's action, where it has one. -/
inductive Action.RecordedIfAny : Option Action → Outcome → List EventBlock → Prop
  | none : Action.RecordedIfAny none .proceed []
  | some {action : Action} {outcome : Outcome} {blocks : List EventBlock} (h : Action.Recorded action outcome blocks) :
      Action.RecordedIfAny (some action) outcome blocks

/-- A rule with its report, and the block that its evaluation records. -/
inductive Rule.Recorded : Rule → RuleReport → EventBlock → Prop
  | missed {rule : Rule} {tested : List EventBlock} (htested : Condition.RecordedIfAny rule.condition false tested) :
      Rule.Recorded rule ⟨false, false, false⟩ (.ofRule rule.name tested ⟨false, false, false⟩)
  | matched {rule : Rule} {tested performed : List EventBlock} {outcome : Outcome}
      (htested : Condition.RecordedIfAny rule.condition true tested)
      (hperformed : Action.RecordedIfAny rule.action outcome performed) :
      Rule.Recorded rule ⟨true, outcome.stop || rule.stop, outcome.endRequest⟩
        (.ofRule rule.name (tested ++ performed) ⟨true, outcome.stop || rule.stop, outcome.endRequest⟩)

/-- Rules in order with their reports, and the blocks that they record. -/
inductive Rule.AllRecorded : List Rule → List RuleReport → List EventBlock → Prop
  | nil : Rule.AllRecorded [] [] []
  | cons {rule : Rule} {rules : List Rule} {report : RuleReport} {reports : List RuleReport} {block : EventBlock}
      {blocks : List EventBlock} (hfirst : Rule.Recorded rule report block)
      (hrest : Rule.AllRecorded rules reports blocks) :
      Rule.AllRecorded (rule :: rules) (report :: reports) (block :: blocks)

/-- A rule list with what its end says, and the block that a walk over it records. -/
inductive RuleList.Recorded : RuleList → Bool → Bool → EventBlock → Prop
  | walk {name : String} {stop : Bool} {done left : List Rule} {reports : List RuleReport} {blocks : List EventBlock}
      (hdone : Rule.AllRecorded done reports blocks) (hupTo : UpTo RuleReport.Stops reports left) :
      RuleList.Recorded ⟨name, stop, done ++ left⟩ (reports.any (·.matched)) (reports.any (·.endRequest))
        (.ofRules name blocks (reports.any (·.matched)) (reports.any (·.endRequest)))

end

end Reroute
