import Reroute.Engine
import Reroute.Proofs.Rule.Composition
import Reroute.Proofs.Rule.Recording

/-!
# Moments of a walk

The moments of a walk are the rules that match and the single actions that are performed, at any depth and in order;
an action comes with the request and the scratch that it is performed on.  The actions lead from the request to the one
that the walk leaves (`RuleList.lead_walk`), and they are those that a recording walk reports
(`RuleList.actions_walk`).
-/

namespace Reroute

/-- A rule that matches inside `depth` lists that other rules run, or a single action on what it is performed on. -/
inductive Moment where
  | matched (depth : Nat) (rule : Rule)
  | performed (action : Action) (request : Request) (scratch : Scratch)

/-- A moment of a list as one of the rule that runs the list. -/
def Moment.deepen : Moment → Moment
  | matched depth rule => matched (depth + 1) rule
  | performed action request scratch => performed action request scratch

mutual

/-- The moments of an action. -/
def Action.moments (env : Env) : Action → Request → Scratch → List Moment
  | .sequence steps, request, scratch => Action.momentsAll env steps request scratch
  | .rules list, request, scratch => (list.moments env (some scratch.bag) request).map Moment.deepen
  | action, request, scratch => [.performed action request scratch]

/-- The moments of actions in order, up to the first that stops. -/
def Action.momentsAll (env : Env) : List Action → Request → Scratch → List Moment
  | [], _, _ => []
  | action :: actions, request, scratch =>
    let first := action.perform env request scratch
    action.moments env request scratch ++
      if first.outcome.stop then [] else Action.momentsAll env actions first.request first.scratch

/-- The moments of a rule: that it matches, and those of its action. -/
def Rule.moments (env : Env) (outer : Option Bag) : Rule → Request → List Moment
  | ⟨name, stop, dynamic, condition, action⟩, request =>
    let tested := Condition.testIfAny env request condition (.within outer)
    if tested.holds then
      .matched 0 ⟨name, stop, dynamic, condition, action⟩ ::
        match action with
        | some action => action.moments env request { tested.scratch with matched := true }
        | none => []
    else []

/-- The moments of rules in order, up to the first that stops the walk. -/
def Rule.momentsAll (env : Env) (outer : Option Bag) : List Rule → Request → List Moment
  | [], _ => []
  | rule :: rules, request =>
    let first := rule.walk env outer request
    rule.moments env outer request ++ if first.flags.stopped then [] else Rule.momentsAll env outer rules first.request

/-- The moments of a walk over a rule list. -/
def RuleList.moments (env : Env) (outer : Option Bag) : RuleList → Request → List Moment
  | ⟨_, _, rules⟩, request => Rule.momentsAll env outer rules request

end

/-- The moments of an action that may be missing. -/
def Action.momentsIfAny (env : Env) : Option Action → Request → Scratch → List Moment
  | some action, request, scratch => action.moments env request scratch
  | none, _, _ => []

theorem Rule.moments_eq (env : Env) (outer : Option Bag) (rule : Rule) (request : Request) :
    rule.moments env outer request =
      let tested := Condition.testIfAny env request rule.condition (.within outer)
      if tested.holds then
        .matched 0 rule :: Action.momentsIfAny env rule.action request { tested.scratch with matched := true }
      else [] := by
  obtain ⟨name, stop, dynamic, condition, action⟩ := rule
  cases action <;> rfl

/-- A walk over rules ends behind the first, or goes on on the request that it leaves; so do the moments. -/
theorem Rule.walkAll_cons_cases (env : Env) (outer : Option Bag) (rule : Rule) (rules : List Rule) (request : Request) :
    let first := rule.walk env outer request
    let later := Rule.walkAll env outer rules first.request
    (Rule.walkAll env outer (rule :: rules) request = first ∧
        Rule.momentsAll env outer (rule :: rules) request = rule.moments env outer request) ∨
      (Rule.walkAll env outer (rule :: rules) request =
          ⟨first.flags.or later.flags, later.request, first.notes ++ later.notes⟩ ∧
        Rule.momentsAll env outer (rule :: rules) request =
          rule.moments env outer request ++ Rule.momentsAll env outer rules first.request) := by
  intro first later
  rw [Rule.walkAll_cons, Rule.momentsAll]
  cases hstopped : first.flags.stopped with
  | true =>
    refine .inl ⟨Walked.andThen_of_stopped hstopped _, ?_⟩
    rw [if_pos rfl, List.append_nil]
  | false =>
    refine .inr ⟨Walked.andThen_of_not_stopped hstopped _, ?_⟩
    rw [if_neg Bool.false_ne_true]

namespace Moment

private theorem filterMap_deepen {β : Type} {f : Moment → Option β} (h : ∀ moment : Moment, f moment.deepen = f moment)
    (moments : List Moment) : (moments.map deepen).filterMap f = moments.filterMap f := by
  rw [List.filterMap_map]
  congr 1
  funext moment
  exact h moment

theorem any_deepen {p : Moment → Bool} (h : ∀ moment : Moment, p moment.deepen = p moment) (moments : List Moment) :
    (moments.map deepen).any p = moments.any p := by
  rw [List.any_map]
  congr 1
  funext moment
  exact h moment

/-! ### Runs of actions -/

/-- Moments whose actions are performed one after the other, each on what the one before it has left.  All of them are
single actions that obey a law. -/
inductive Lead (env : Env) (law : ExtensionLaw) : Request → List Moment → Request → Prop
  | nil (request : Request) : Lead env law request [] request
  | matched {start reached : Request} {moments : List Moment} (depth : Nat) (rule : Rule)
      (h : Lead env law start moments reached) : Lead env law start (.matched depth rule :: moments) reached
  | performed {action : Action} {start reached : Request} {moments : List Moment} (scratch : Scratch)
      (hleaf : action.IsLeaf) (hlaw : action.Obeys law)
      (h : Lead env law (action.perform env start scratch).request moments reached) :
      Lead env law start (.performed action start scratch :: moments) reached

namespace Lead

variable {env : Env} {law : ExtensionLaw} {start middle reached : Request} {moments front back : List Moment}

private theorem append (hfront : Lead env law start front middle) (hback : Lead env law middle back reached) :
    Lead env law start (front ++ back) reached := by
  induction hfront with
  | nil request => exact hback
  | matched depth rule _ ih => exact .matched depth rule (ih hback)
  | performed scratch hleaf hlaw _ ih => exact .performed scratch hleaf hlaw (ih hback)

private theorem deepen (h : Lead env law start moments reached) :
    Lead env law start (moments.map Moment.deepen) reached := by
  induction h with
  | nil request => exact .nil request
  | matched depth rule _ ih => exact .matched (depth + 1) rule ih
  | performed scratch hleaf hlaw _ ih => exact .performed scratch hleaf hlaw ih

theorem isLeaf (h : Lead env law start moments reached) {action : Action} {request : Request} {scratch : Scratch}
    (hmem : .performed action request scratch ∈ moments) : action.IsLeaf := by
  induction h with
  | nil _ => exact absurd hmem List.not_mem_nil
  | matched depth rule _ ih =>
    rcases List.mem_cons.mp hmem with heq | hmem
    · cases heq
    · exact ih hmem
  | performed scratch' hleaf _ _ ih =>
    rcases List.mem_cons.mp hmem with heq | hmem
    · cases heq
      exact hleaf
    · exact ih hmem

end Lead

end Moment

mutual

private theorem Action.lead_perform (env : Env) {law : ExtensionLaw} :
    ∀ (action : Action) (request : Request) (scratch : Scratch), action.Obeys law →
      Moment.Lead env law request (action.moments env request scratch) (action.perform env request scratch).request
  | .sequence steps, request, scratch, h => Action.lead_performAll env steps request scratch h
  | .rules list, request, scratch, h => (RuleList.lead_walk env (some scratch.bag) list request h).deepen
  | .replace .., request, scratch, h | .append .., request, scratch, h | .insert .., request, scratch, h
  | .delete _, request, scratch, h | .keep _, request, scratch, h | .normalize .., request, scratch, h
  | .truncate _, request, scratch, h | .redirect _, request, scratch, h | .respond _, request, scratch, h
  | .abort, request, scratch, h | .doNothing _, request, scratch, h | .custom _, request, scratch, h =>
    .performed scratch (by trivial) h (.nil _)

private theorem Action.lead_performAll (env : Env) {law : ExtensionLaw} :
    ∀ (actions : List Action) (request : Request) (scratch : Scratch), Action.AllObey law actions →
      Moment.Lead env law request (Action.momentsAll env actions request scratch)
        (Action.performAll env actions request scratch).request
  | [], request, _, _ => .nil request
  | action :: actions, request, scratch, h => by
    have hfirst := Action.lead_perform env action request scratch h.1
    simp only [Action.momentsAll, Action.performAll]
    split
    · rw [List.append_nil]
      exact hfirst
    · exact hfirst.append (Action.lead_performAll env actions _ _ h.2)

private theorem Rule.lead_walk (env : Env) (outer : Option Bag) {law : ExtensionLaw} :
    ∀ (rule : Rule) (request : Request), rule.Obeys law →
      Moment.Lead env law request (rule.moments env outer request) (rule.walk env outer request).request
  | ⟨name, stop, dynamic, condition, action⟩, request, h => by
    simp only [Rule.moments_eq, Rule.walk, Rule.evaluate_eq, Rule.fire]
    split
    · refine .matched 0 _ ?_
      cases action with
      | none => exact .nil request
      | some action => exact Action.lead_perform env action request _ h.2
    · exact .nil request

private theorem Rule.lead_walkAll (env : Env) (outer : Option Bag) {law : ExtensionLaw} :
    ∀ (rules : List Rule) (request : Request), Rule.AllObey law rules →
      Moment.Lead env law request (Rule.momentsAll env outer rules request)
        (Rule.walkAll env outer rules request).request
  | [], request, _ => .nil request
  | rule :: rules, request, h => by
    have hfirst := Rule.lead_walk env outer rule request h.1
    rcases Rule.walkAll_cons_cases env outer rule rules request with ⟨hwalk, hmoments⟩ | ⟨hwalk, hmoments⟩
    · rw [hwalk, hmoments]
      exact hfirst
    · rw [hwalk, hmoments]
      exact hfirst.append (Rule.lead_walkAll env outer rules _ h.2)

/-- The actions of a walk lead to the request that the walk leaves. -/
theorem RuleList.lead_walk (env : Env) (outer : Option Bag) {law : ExtensionLaw} :
    ∀ (list : RuleList) (request : Request), list.Obeys law →
      Moment.Lead env law request (list.moments env outer request) (list.walk env outer request).request
  | ⟨_, _, rules⟩, request, h => Rule.lead_walkAll env outer rules request h

end

/-! ### Reported actions -/

/-- Whether an event reports an action. -/
def Event.isAction : Event → Bool
  | action .. => true
  | _ => false

/-- What a recording walk reports of a moment. -/
def Moment.event? (env : Env) : Moment → Option Event
  | matched _ _ => none
  | performed action request scratch =>
    let outcome := (action.perform env request scratch).outcome
    some (.action action.describe outcome.stop outcome.endRequest)

@[simp] theorem Moment.event?_deepen (env : Env) (moment : Moment) : moment.deepen.event? env = moment.event? env := by
  cases moment <;> rfl

namespace Condition

private theorem actions_reportResult (env : Env) (condition : Condition) (holds : Bool) (scratch : Scratch)
    {notes : List Note} (hnotes : Note.events notes = []) :
    Note.select Event.isAction (reportResult env condition holds scratch notes).notes = [] := by
  have hresult := Note.select_report_other Event.isAction env (.condition condition.describe holds) rfl
  rw [reportResult, Note.select_append, Note.select_of_events hnotes, hresult, List.append_nil]

mutual

private theorem actions_test (env : Env) (request : Request) : ∀ (condition : Condition) (scratch : Scratch),
    Note.select Event.isAction (condition.test env request scratch).notes = []
  | .text _, _ => actions_reportResult env _ _ _ rfl
  | .number _, _ => actions_reportResult env _ _ _ rfl
  | .file m, scratch => actions_reportResult env _ _ _ (m.events_test env request scratch)
  | .custom _ _, _ => actions_reportResult env _ _ _ rfl
  | .list logic track items, scratch => by
    have hitems := actions_meets env request logic.decisive items (scratch.pushTracking track)
    have hbegin := Note.select_report_other Event.isAction env (.conditionListBegin logic.name) rfl
    have hend := fun holds => Note.select_report_other Event.isAction env (.conditionListEnd logic.name holds) rfl
    simp only [test, Note.select_append, hbegin, hitems, hend, List.append_nil]

private theorem actions_meets (env : Env) (request : Request) (stop : Bool) :
    ∀ (conditions : List Condition) (scratch : Scratch),
      Note.select Event.isAction (meets env request stop conditions scratch).notes = []
  | [], _ => rfl
  | condition :: conditions, scratch => by
    have hfirst := actions_test env request condition scratch
    simp only [meets]
    split
    · exact hfirst
    · rw [Note.select_append, hfirst, actions_meets env request stop conditions _, List.append_nil]

end

private theorem actions_testIfAny (env : Env) (request : Request) (condition : Option Condition) (scratch : Scratch) :
    Note.select Event.isAction (testIfAny env request condition scratch).notes = [] := by
  cases condition with
  | none => rfl
  | some condition => exact actions_test env request condition scratch

end Condition

mutual

private theorem Action.actions_perform {env : Env} (henv : env.Records) :
    ∀ (action : Action) (request : Request) (scratch : Scratch),
      Note.select Event.isAction (action.perform env request scratch).notes =
        (action.moments env request scratch).filterMap (·.event? env)
  | .sequence steps, request, scratch => Action.actions_performAll henv steps request scratch
  | .rules list, request, scratch => by
    rw [Action.moments, Moment.filterMap_deepen (Moment.event?_deepen env)]
    exact RuleList.actions_walk henv (some scratch.bag) list request
  | .replace .., request, scratch | .append .., request, scratch | .insert .., request, scratch
  | .delete _, request, scratch | .keep _, request, scratch | .normalize .., request, scratch
  | .truncate _, request, scratch | .redirect _, request, scratch | .respond _, request, scratch
  | .abort, request, scratch | .doNothing _, request, scratch | .custom _, request, scratch => by
    rw [Action.notes_perform_leaf env (by trivial), Note.select_report henv rfl]
    rfl

private theorem Action.actions_performAll {env : Env} (henv : env.Records) :
    ∀ (actions : List Action) (request : Request) (scratch : Scratch),
      Note.select Event.isAction (Action.performAll env actions request scratch).notes =
        (Action.momentsAll env actions request scratch).filterMap (·.event? env)
  | [], _, _ => rfl
  | action :: actions, request, scratch => by
    have hfirst := Action.actions_perform henv action request scratch
    simp only [Action.momentsAll, Action.performAll]
    split
    · rw [List.append_nil, hfirst]
    · rw [Note.select_append, List.filterMap_append, hfirst, Action.actions_performAll henv actions]

private theorem Rule.actions_walk {env : Env} (henv : env.Records) (outer : Option Bag) :
    ∀ (rule : Rule) (request : Request),
      Note.select Event.isAction (rule.walk env outer request).notes =
        (rule.moments env outer request).filterMap (·.event? env)
  | ⟨name, stop, dynamic, condition, action⟩, request => by
    have hbegin := Note.select_report_other Event.isAction env (.ruleBegin name) rfl
    have htest := Condition.actions_testIfAny env request condition (.within outer)
    have hend := fun matched stop ends =>
      Note.select_report_other Event.isAction env (.ruleEnd name matched stop ends) rfl
    simp only [Rule.moments_eq, Rule.walk, Rule.evaluate_eq, Rule.fire, Note.select_append, hbegin, htest, hend,
      List.nil_append, List.append_nil]
    split
    · cases action with
      | none => rfl
      | some action => exact Action.actions_perform henv action request _
    · rfl

private theorem Rule.actions_walkAll {env : Env} (henv : env.Records) (outer : Option Bag) :
    ∀ (rules : List Rule) (request : Request),
      Note.select Event.isAction (Rule.walkAll env outer rules request).notes =
        (Rule.momentsAll env outer rules request).filterMap (·.event? env)
  | [], _ => rfl
  | rule :: rules, request => by
    have hfirst := Rule.actions_walk henv outer rule request
    rcases Rule.walkAll_cons_cases env outer rule rules request with ⟨hwalk, hmoments⟩ | ⟨hwalk, hmoments⟩
    · rw [hwalk, hmoments]
      exact hfirst
    · rw [hwalk, hmoments, Note.select_append, List.filterMap_append, hfirst, Rule.actions_walkAll henv outer rules]

/-- A recording walk reports the actions among its moments, in order, and no others. -/
theorem RuleList.actions_walk {env : Env} (henv : env.Records) (outer : Option Bag) :
    ∀ (list : RuleList) (request : Request),
      Note.select Event.isAction (list.walk env outer request).notes =
        (list.moments env outer request).filterMap (·.event? env)
  | ⟨name, stop, rules⟩, request => by
    have hrules := Rule.actions_walkAll henv outer rules request
    have hbegin := Note.select_report_other Event.isAction env (.ruleListBegin name) rfl
    have hend := fun matched ends => Note.select_report_other Event.isAction env (.ruleListEnd name matched ends) rfl
    simp only [RuleList.walk, Note.select_append, hbegin, hend, List.nil_append, List.append_nil]
    exact hrules

end

/-- What a recording engine reports of actions. -/
theorem Engine.actions_process (engine : Engine) (henv : engine.env.Records) (request : Request) :
    Note.select Event.isAction (engine.process request).notes =
      (engine.rules.root.moments engine.env none request).filterMap (·.event? engine.env) := by
  have hwalk := RuleList.actions_walk henv none engine.rules.root request
  have hrecord : ∀ (modified : Bool) (record : LogRecord),
      Note.select Event.isAction (if modified then [.record record] else []) = [] := by
    intro modified record
    cases modified <;> rfl
  simp only [process, Note.select_append, hrecord, List.append_nil]
  exact hwalk

end Reroute
