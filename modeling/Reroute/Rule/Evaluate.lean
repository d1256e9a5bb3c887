import Reroute.Condition.Test
import Reroute.Rule.Basic

/-!
# Evaluating rules

Every action other than a sequence or a rule list reports its outcome.  A sequence goes on until an action stops;
a rule performs its action where its condition holds; a list of rules goes on until a matched rule stops.  A list
run as an action stops its rule only by its own flag.
-/

namespace Reroute

/-- What an action leaves: its outcome, the request, the scratch, and the notes. -/
structure Performed where
  outcome : Outcome
  request : Request
  scratch : Scratch
  notes : List Note

/-- What a rule leaves: its scratch, the request, and the notes. -/
structure Evaluated where
  scratch : Scratch
  request : Request
  notes : List Note

/-- What a walk over rules reports. -/
structure WalkFlags where
  matched : Bool
  stopped : Bool
  endRequest : Bool
  dynamic : Bool
deriving DecidableEq, Repr

/-- No rule so far. -/
def WalkFlags.none : WalkFlags := ⟨false, false, false, false⟩

/-- What a walk leaves: its flags, the request, and the notes. -/
structure Walked where
  flags : WalkFlags
  request : Request
  notes : List Note

/-- Reports the outcome of a single action. -/
def Action.reportOutcome (env : Env) (action : Action) (outcome : Outcome) (request : Request) (scratch : Scratch) :
    Performed :=
  ⟨outcome, request, scratch, env.report (.action action.describe outcome.stop outcome.endRequest)⟩

/-- The scratch of a rule whose action has been performed. -/
def Scratch.finish (scratch : Scratch) (outcome : Outcome) (stop dynamic : Bool) : Scratch :=
  let scratch := scratch.absorb outcome
  { scratch with stop := scratch.stop || stop, dynamic := scratch.dynamic || dynamic }

/-- The flags of a walk behind a rule. -/
def WalkFlags.add (flags : WalkFlags) (scratch : Scratch) : WalkFlags :=
  if scratch.matched then
    ⟨true, flags.stopped || scratch.stop, flags.endRequest || scratch.endRequest, flags.dynamic || scratch.dynamic⟩
  else flags

mutual

/-- Performs an action. -/
def Action.perform (env : Env) : Action → Request → Scratch → Performed
  | .replace target value, request, scratch =>
    Action.reportOutcome env (.replace target value) .proceed (request.replace target (value.read request scratch)) scratch
  | .append target value, request, scratch =>
    Action.reportOutcome env (.append target value) .proceed (request.append target (value.read request scratch)) scratch
  | .insert index value, request, scratch =>
    Action.reportOutcome env (.insert index value) .proceed
      (request.insertSegment index (value.read request scratch)) scratch
  | .delete target, request, scratch =>
    Action.reportOutcome env (.delete target) .proceed (request.delete target) scratch
  | .keep list, request, scratch => Action.reportOutcome env (.keep list) .proceed (request.keep list) scratch
  | .normalize leading trailing, request, scratch =>
    Action.reportOutcome env (.normalize leading trailing) .proceed (request.normalize leading trailing) scratch
  | .truncate depth, request, scratch =>
    Action.reportOutcome env (.truncate depth) .proceed (request.truncate depth) scratch
  | .redirect answer, request, scratch =>
    Action.reportOutcome env (.redirect answer) answer.outcome
      (env.schedule request (answer.deferred request scratch)) scratch
  | .respond answer, request, scratch =>
    Action.reportOutcome env (.respond answer) answer.outcome
      (env.schedule request (answer.deferred request scratch)) scratch
  | .abort, request, scratch => Action.reportOutcome env .abort .terminate request scratch
  | .doNothing outcome, request, scratch => Action.reportOutcome env (.doNothing outcome) outcome request scratch
  | .custom action, request, scratch =>
    let (outcome, request, scratch) := action.perform request scratch
    Action.reportOutcome env (.custom action) outcome request scratch
  | .sequence steps, request, scratch => Action.performAll env steps request scratch
  | .rules list, request, scratch =>
    let walked := list.walk env (some scratch.bag) request
    ⟨⟨list.stop, walked.flags.endRequest⟩, walked.request,
      { scratch with dynamic := scratch.dynamic || walked.flags.dynamic }, walked.notes⟩

/-- Performs actions in order until one stops; any of them may end the request. -/
def Action.performAll (env : Env) : List Action → Request → Scratch → Performed
  | [], request, scratch => ⟨.proceed, request, scratch, []⟩
  | action :: actions, request, scratch =>
    let first := action.perform env request scratch
    if first.outcome.stop then ⟨⟨true, first.outcome.endRequest⟩, first.request, first.scratch, first.notes⟩
    else
      let rest := Action.performAll env actions first.request first.scratch
      ⟨⟨rest.outcome.stop, first.outcome.endRequest || rest.outcome.endRequest⟩, rest.request, rest.scratch,
        first.notes ++ rest.notes⟩

/-- Evaluates a rule; `outer` holds the properties of the rule around it. -/
def Rule.evaluate (env : Env) (outer : Option Bag) : Rule → Request → Evaluated
  | ⟨name, stop, dynamic, condition, action⟩, request =>
    let start := Scratch.ofBag (match outer with | some bag => bag.inside | none => .empty)
    let tested : Tested := match condition with
      | some condition => condition.test env request start
      | none => ⟨true, start, []⟩
    let performed : Performed :=
      if tested.holds then
        let scratch := { tested.scratch with matched := true }
        match action with
        | some action =>
          let performed := action.perform env request scratch
          { performed with scratch := performed.scratch.finish performed.outcome stop dynamic }
        | none => ⟨.proceed, request, scratch.finish .proceed stop dynamic, []⟩
      else ⟨.proceed, request, tested.scratch, []⟩
    let scratch := performed.scratch
    ⟨scratch, performed.request,
      env.report (.ruleBegin name) ++ tested.notes ++ performed.notes
        ++ env.report (.ruleEnd name scratch.matched scratch.stop scratch.endRequest)⟩

/-- Evaluates rules in order until a matched one stops. -/
def Rule.evaluateAll (env : Env) (outer : Option Bag) : List Rule → WalkFlags → Request → Walked
  | [], flags, request => ⟨flags, request, []⟩
  | rule :: rules, flags, request =>
    let evaluated := rule.evaluate env outer request
    let flags := flags.add evaluated.scratch
    if flags.stopped then ⟨flags, evaluated.request, evaluated.notes⟩
    else
      let rest := Rule.evaluateAll env outer rules flags evaluated.request
      { rest with notes := evaluated.notes ++ rest.notes }

/-- Walks over a rule list. -/
def RuleList.walk (env : Env) (outer : Option Bag) : RuleList → Request → Walked
  | ⟨name, _, rules⟩, request =>
    let walked := Rule.evaluateAll env outer rules .none request
    { walked with
      notes := env.report (.ruleListBegin name) ++ walked.notes
        ++ env.report (.ruleListEnd name walked.flags.matched walked.flags.endRequest) }

end

end Reroute
