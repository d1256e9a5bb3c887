import Reroute.Rule.Evaluate

/-!
# Rules in stages

A rule tests its condition and then fires: where the condition holds it performs its action and takes the outcome
and its own flags into its scratch.  `Rule.evaluate_eq` puts the stages together, so that nothing later has to
open the evaluation of a rule again.
-/

namespace Reroute

/-- The scratch with which a rule begins inside the rule that has the properties `outer`. -/
def Scratch.within (outer : Option Bag) : Scratch :=
  .ofBag (match outer with | some bag => bag.inside | none => .empty)

/-- Tests a condition that may be missing; a missing one holds. -/
def Condition.testIfAny (env : Env) (request : Request) : Option Condition → Scratch → Tested
  | some condition, scratch => condition.test env request scratch
  | none, scratch => ⟨true, scratch, []⟩

/-- Performs an action that may be missing; a missing one asks for nothing. -/
def Action.performIfAny (env : Env) : Option Action → Request → Scratch → Performed
  | some action, request, scratch => action.perform env request scratch
  | none, request, scratch => ⟨.proceed, request, scratch, []⟩

namespace Rule

/-- What a rule does behind its test. -/
def fire (env : Env) (rule : Rule) (request : Request) (tested : Tested) : Performed :=
  if tested.holds then
    let performed := Action.performIfAny env rule.action request { tested.scratch with matched := true }
    { performed with scratch := performed.scratch.finish performed.outcome rule.stop rule.dynamic }
  else ⟨.proceed, request, tested.scratch, []⟩

theorem evaluate_eq (env : Env) (outer : Option Bag) (rule : Rule) (request : Request) :
    rule.evaluate env outer request =
      let tested := Condition.testIfAny env request rule.condition (.within outer)
      let fired := rule.fire env request tested
      ⟨fired.scratch, fired.request, env.report (.ruleBegin rule.name) ++ tested.notes ++ fired.notes
        ++ env.report (.ruleEnd rule.name fired.scratch.matched fired.scratch.stop fired.scratch.endRequest)⟩ := by
  obtain ⟨name, stop, dynamic, condition, action⟩ := rule
  cases outer <;> cases condition <;> cases action <;> rfl

end Rule

end Reroute
