import Reroute.Proofs.Rule.Moments

/-!
# Where flags come from

The flags that a walk reports sum up its moments (`RuleList.summarizes_walk`): the request ends if a single action
asked for it at any depth, the result depends on the request if a rule that says so matched at any depth, and the walk
matched if a rule of its own list did.  The end of the request goes up with the outcomes of actions and the other flag
with the scratch of the rule around; neither gets lost where a list keeps its stop for itself.
-/

namespace Reroute

/-! ### Flags of a moment -/

namespace Moment

/-- Whether a single action asks for the end of the request. -/
def endsRequest (env : Env) : Moment → Bool
  | matched _ _ => false
  | performed action request scratch => (action.perform env request scratch).outcome.endRequest

/-- Whether a rule matches that is marked as dynamic. -/
def isDynamic : Moment → Bool
  | matched _ rule => rule.dynamic
  | performed _ _ _ => false

/-- Whether a rule of the list itself matches. -/
def isOutermost : Moment → Bool
  | matched 0 _ => true
  | _ => false

private theorem endsRequest_deepen (env : Env) (moment : Moment) :
    moment.deepen.endsRequest env = moment.endsRequest env := by
  cases moment <;> rfl

private theorem isDynamic_deepen (moment : Moment) : moment.deepen.isDynamic = moment.isDynamic := by
  cases moment <;> rfl

private theorem isOutermost_deepen (moment : Moment) : moment.deepen.isOutermost = false := by
  cases moment <;> rfl

private theorem any_isOutermost_deepen (moments : List Moment) : (moments.map deepen).any isOutermost = false := by
  rw [List.any_map, List.any_eq_false]
  intro moment _
  rw [Function.comp_apply, isOutermost_deepen]
  exact Bool.false_ne_true

private theorem endsRequest_iff {env : Env} {moments : List Moment} : moments.any (·.endsRequest env) = true ↔
    ∃ action request scratch, .performed action request scratch ∈ moments ∧
      (action.perform env request scratch).outcome.endRequest = true := by
  rw [List.any_eq_true]
  constructor
  · rintro ⟨moment, hmem, hends⟩
    cases moment with
    | matched depth rule => exact absurd hends Bool.false_ne_true
    | performed action request scratch => exact ⟨action, request, scratch, hmem, hends⟩
  · rintro ⟨action, request, scratch, hmem, hends⟩
    exact ⟨_, hmem, hends⟩

private theorem isDynamic_iff {moments : List Moment} : moments.any isDynamic = true ↔
    ∃ depth rule, .matched depth rule ∈ moments ∧ rule.dynamic = true := by
  rw [List.any_eq_true]
  constructor
  · rintro ⟨moment, hmem, hdynamic⟩
    cases moment with
    | matched depth rule => exact ⟨depth, rule, hmem, hdynamic⟩
    | performed action request scratch => exact absurd hdynamic Bool.false_ne_true
  · rintro ⟨depth, rule, hmem, hdynamic⟩
    exact ⟨_, hmem, hdynamic⟩

private theorem isOutermost_iff {moments : List Moment} :
    moments.any isOutermost = true ↔ ∃ rule, .matched 0 rule ∈ moments := by
  rw [List.any_eq_true]
  constructor
  · rintro ⟨moment, hmem, houter⟩
    cases moment with
    | matched depth rule =>
      cases depth with
      | zero => exact ⟨rule, hmem⟩
      | succ depth => exact absurd houter Bool.false_ne_true
    | performed action request scratch => exact absurd houter Bool.false_ne_true
  · rintro ⟨rule, hmem⟩
    exact ⟨_, hmem, rfl⟩

end Moment

/-! ### Rules of the list itself -/

mutual

private theorem Action.isOutermost_moments (env : Env) : ∀ (action : Action) (request : Request) (scratch : Scratch),
    (action.moments env request scratch).any Moment.isOutermost = false
  | .sequence steps, request, scratch => Action.isOutermost_momentsAll env steps request scratch
  | .rules list, request, scratch => by
    rw [Action.moments]
    exact Moment.any_isOutermost_deepen _
  | .replace .., _, _ | .append .., _, _ | .insert .., _, _ | .delete _, _, _ | .keep _, _, _ | .normalize .., _, _
  | .truncate _, _, _ | .redirect _, _, _ | .respond _, _, _ | .abort, _, _ | .doNothing _, _, _
  | .custom _, _, _ => rfl

private theorem Action.isOutermost_momentsAll (env : Env) :
    ∀ (actions : List Action) (request : Request) (scratch : Scratch),
    (Action.momentsAll env actions request scratch).any Moment.isOutermost = false
  | [], _, _ => rfl
  | action :: actions, request, scratch => by
    rw [Action.momentsAll, List.any_append, Action.isOutermost_moments env action request scratch, Bool.false_or]
    split
    · rfl
    · exact Action.isOutermost_momentsAll env actions _ _

end

private theorem Action.isOutermost_momentsIfAny (env : Env) (action : Option Action) (request : Request)
    (scratch : Scratch) :
    (momentsIfAny env action request scratch).any Moment.isOutermost = false := by
  cases action with
  | none => rfl
  | some action => exact isOutermost_moments env action request scratch

private theorem Rule.eq_of_outermost {env : Env} {outer : Option Bag} {rule other : Rule} {request : Request}
    (h : .matched 0 other ∈ rule.moments env outer request) : other = rule := by
  simp only [Rule.moments_eq] at h
  split at h
  · rcases List.mem_cons.mp h with heq | hmem
    · cases heq
      rfl
    · have hany := Moment.isOutermost_iff.mpr ⟨other, hmem⟩
      rw [Action.isOutermost_momentsIfAny] at hany
      exact absurd hany Bool.false_ne_true
  · exact absurd h List.not_mem_nil

private theorem Rule.mem_of_outermost {env : Env} {outer : Option Bag} {rule : Rule} :
    ∀ {rules : List Rule} {request : Request}, .matched 0 rule ∈ Rule.momentsAll env outer rules request → rule ∈ rules
  | [], _, h => absurd h List.not_mem_nil
  | first :: rules, request, h => by
    rw [Rule.momentsAll] at h
    rcases List.mem_append.mp h with hfirst | hrest
    · exact List.mem_cons.mpr (.inl (Rule.eq_of_outermost hfirst))
    · split at hrest
      · exact absurd hrest List.not_mem_nil
      · exact List.mem_cons_of_mem _ (Rule.mem_of_outermost hrest)

/-- Only rules of the list itself match at no depth. -/
private theorem RuleList.mem_of_outermost {env : Env} {outer : Option Bag} {rule : Rule} :
    ∀ {list : RuleList} {request : Request}, .matched 0 rule ∈ list.moments env outer request → rule ∈ list.rules
  | ⟨_, _, _⟩, _, h => Rule.mem_of_outermost h

/-! ### Sums -/

/-- Flags that are the sum of what happened. -/
structure WalkFlags.Summarizes (flags : WalkFlags) (env : Env) (moments : List Moment) : Prop where
  matched : flags.matched = moments.any (·.isOutermost)
  endRequest : flags.endRequest = moments.any (·.endsRequest env)
  dynamic : flags.dynamic = moments.any (·.isDynamic)

namespace WalkFlags

variable {env : Env}

private theorem summarizes_none : WalkFlags.none.Summarizes env [] := ⟨rfl, rfl, rfl⟩

private theorem Summarizes.or {a b : WalkFlags} {front back : List Moment} (ha : a.Summarizes env front)
    (hb : b.Summarizes env back) : (a.or b).Summarizes env (front ++ back) where
  matched := by rw [List.any_append, ← ha.matched, ← hb.matched]; rfl
  endRequest := by rw [List.any_append, ← ha.endRequest, ← hb.endRequest]; rfl
  dynamic := by rw [List.any_append, ← ha.dynamic, ← hb.dynamic]; rfl

end WalkFlags

/-- An action that asks for the end of the request if one of its moments does, and leaves the flags of the rule around
it except for what is dynamic inside. -/
structure Performed.Summarizes (performed : Performed) (env : Env) (before : Scratch) (moments : List Moment) :
    Prop where
  endRequest : performed.outcome.endRequest = moments.any (·.endsRequest env)
  flags : performed.scratch.flags = before.flags.or ⟨false, false, false, moments.any (·.isDynamic)⟩

namespace Performed

variable {env : Env} {scratch : Scratch}

private theorem summarizes_nothing (request : Request) (notes : List Note) :
    Summarizes ⟨.proceed, request, scratch, notes⟩ env scratch [] :=
  ⟨rfl, (WalkFlags.or_none scratch.flags).symm⟩

/-- A single action that leaves the flags of its rule. -/
private theorem summarizes_single (action : Action) (request : Request)
    (h : (action.perform env request scratch).scratch.flags = scratch.flags) :
    (action.perform env request scratch).Summarizes env scratch [.performed action request scratch] where
  endRequest := by simp [Moment.endsRequest]
  flags := h.trans (WalkFlags.or_none scratch.flags).symm

private theorem Summarizes.andThen {first : Performed} {rest : Request → Scratch → Performed} {front back : List Moment}
    (hfirst : first.Summarizes env scratch front)
    (hrest : (rest first.request first.scratch).Summarizes env first.scratch back) :
    (first.andThen rest).Summarizes env scratch (front ++ if first.outcome.stop then [] else back) := by
  unfold Performed.andThen
  cases hstop : first.outcome.stop with
  | true =>
    rw [if_pos rfl, if_pos rfl, List.append_nil]
    exact hfirst
  | false =>
    rw [if_neg Bool.false_ne_true, if_neg Bool.false_ne_true]
    constructor
    · rw [List.any_append, ← hfirst.endRequest, ← hrest.endRequest]
    · have hflags := hrest.flags
      rw [hfirst.flags, WalkFlags.or_assoc] at hflags
      rw [List.any_append]
      exact hflags

end Performed

/-! ### Every rule -/

/-- Extensions that leave the flags of the rule alone; an action of the host asks for what it wants by its outcome. -/
def ExtensionLaw.outcomeOnly : ExtensionLaw where
  condition c := ∀ request scratch, (c.test request scratch).2.flags = scratch.flags
  action a := ∀ request scratch, (a.perform request scratch).2.2.flags = scratch.flags

private theorem Scratch.flags_within (outer : Option Bag) : (within outer).flags = .none := by
  cases outer <;> rfl

private theorem Scratch.flags_finish (scratch : Scratch) (outcome : Outcome) (stop dynamic : Bool) :
    (scratch.finish outcome stop dynamic).flags =
      scratch.flags.or ⟨false, outcome.stop || stop, outcome.endRequest, dynamic⟩ := by
  simp [flags, finish, absorb, WalkFlags.or, Bool.or_assoc]

private theorem Condition.flags_testIfAny (env : Env) (request : Request) (condition : Option Condition)
    (scratch : Scratch) (h : ∀ c, condition = some c → c.Obeys ExtensionLaw.outcomeOnly.condition) :
    (testIfAny env request condition scratch).scratch.flags = scratch.flags := by
  cases condition with
  | none => rfl
  | some condition => exact flags_test id env request condition scratch (h condition rfl)

/-- A rule's flags from those of its test and its action. -/
private theorem Rule.summarizes_fire {env : Env} {rule : Rule} {request : Request} {tested : Tested}
    {moments : List Moment} (htested : tested.scratch.flags = .none)
    (hperformed : (Action.performIfAny env rule.action request { tested.scratch with matched := true }).Summarizes env
      { tested.scratch with matched := true } moments) :
    (WalkFlags.none.add (rule.fire env request tested).scratch).Summarizes env
      (if tested.holds then .matched 0 rule :: moments else []) := by
  unfold Rule.fire
  cases tested.holds with
  | false =>
    rw [if_neg Bool.false_ne_true, if_neg Bool.false_ne_true]
    have hmatched : tested.scratch.matched = false := congrArg WalkFlags.matched htested
    rw [WalkFlags.add_of_not_matched _ hmatched]
    exact WalkFlags.summarizes_none
  | true =>
    rw [if_pos rfl, if_pos rfl]
    generalize Action.performIfAny env rule.action request { tested.scratch with matched := true } = performed at *
    -- the rule matched, and its test asked for nothing
    have hstart : Scratch.flags { tested.scratch with matched := true } = ⟨true, false, false, false⟩ := by
      have hend : tested.scratch.endRequest = false := congrArg WalkFlags.endRequest htested
      have hstop : tested.scratch.stop = false := congrArg WalkFlags.stopped htested
      have hdynamic : tested.scratch.dynamic = false := congrArg WalkFlags.dynamic htested
      simp [Scratch.flags, hend, hstop, hdynamic]
    have hflags := performed.scratch.flags_finish performed.outcome rule.stop rule.dynamic
    rw [hperformed.flags, hstart, hperformed.endRequest] at hflags
    have hmatched : (performed.scratch.finish performed.outcome rule.stop rule.dynamic).matched = true :=
      congrArg WalkFlags.matched hflags
    rw [WalkFlags.add_of_matched _ hmatched, WalkFlags.none_or, hflags]
    refine ⟨rfl, ?_, ?_⟩
    · simp [WalkFlags.or, Moment.endsRequest]
    · simp [WalkFlags.or, Moment.isDynamic, Bool.or_comm]

mutual

private theorem Action.summarizes_perform (env : Env) :
    ∀ (action : Action) (request : Request) (scratch : Scratch), action.Obeys .outcomeOnly →
      (action.perform env request scratch).Summarizes env scratch (action.moments env request scratch)
  | .sequence steps, request, scratch, h => Action.summarizes_performAll env steps request scratch h
  | .rules list, request, scratch, h => by
    have hwalk := RuleList.summarizes_walk env (some scratch.bag) list request h
    rw [Action.moments]
    constructor
    · rw [Moment.any_deepen (Moment.endsRequest_deepen env), ← hwalk.endRequest, Action.perform]
    · rw [Moment.any_deepen Moment.isDynamic_deepen, ← hwalk.dynamic, Action.perform]
      simp [Scratch.flags, WalkFlags.or]
  | .custom action, request, scratch, h => Performed.summarizes_single _ request (h request scratch)
  | .replace .., request, scratch, _ | .append .., request, scratch, _ | .insert .., request, scratch, _
  | .delete _, request, scratch, _ | .keep _, request, scratch, _ | .normalize .., request, scratch, _
  | .truncate _, request, scratch, _ | .redirect _, request, scratch, _ | .respond _, request, scratch, _
  | .abort, request, scratch, _ | .doNothing _, request, scratch, _ => Performed.summarizes_single _ request rfl

private theorem Action.summarizes_performAll (env : Env) :
    ∀ (actions : List Action) (request : Request) (scratch : Scratch), Action.AllObey .outcomeOnly actions →
      (Action.performAll env actions request scratch).Summarizes env scratch
        (Action.momentsAll env actions request scratch)
  | [], request, _, _ => Performed.summarizes_nothing request []
  | action :: actions, request, scratch, h => by
    have hfirst := Action.summarizes_perform env action request scratch h.1
    rw [Action.performAll_cons, Action.momentsAll]
    exact hfirst.andThen (Action.summarizes_performAll env actions _ _ h.2)

private theorem Rule.summarizes_walk (env : Env) (outer : Option Bag) :
    ∀ (rule : Rule) (request : Request), rule.Obeys .outcomeOnly →
      (rule.walk env outer request).flags.Summarizes env (rule.moments env outer request)
  | ⟨name, stop, dynamic, condition, action⟩, request, h => by
    obtain ⟨hcondition, haction⟩ := Rule.obeys_iff.1 h
    have htested := Condition.flags_testIfAny env request condition (.within outer) hcondition
    rw [Scratch.flags_within] at htested
    rw [Rule.moments_eq, Rule.walk, Rule.evaluate_eq]
    generalize Condition.testIfAny env request condition (.within outer) = tested at *
    have hperformed : (Action.performIfAny env action request { tested.scratch with matched := true }).Summarizes env
        { tested.scratch with matched := true }
        (Action.momentsIfAny env action request { tested.scratch with matched := true }) := by
      cases action with
      | none => exact Performed.summarizes_nothing request []
      | some action => exact Action.summarizes_perform env action request _ (haction action rfl)
    exact Rule.summarizes_fire htested hperformed

private theorem Rule.summarizes_walkAll (env : Env) (outer : Option Bag) :
    ∀ (rules : List Rule) (request : Request), Rule.AllObey .outcomeOnly rules →
      (Rule.walkAll env outer rules request).flags.Summarizes env (Rule.momentsAll env outer rules request)
  | [], _, _ => WalkFlags.summarizes_none
  | rule :: rules, request, h => by
    have hfirst := Rule.summarizes_walk env outer rule request h.1
    rcases Rule.walkAll_cons_cases env outer rule rules request with ⟨hwalk, hmoments⟩ | ⟨hwalk, hmoments⟩
    · rw [hwalk, hmoments]
      exact hfirst
    · rw [hwalk, hmoments]
      exact hfirst.or (Rule.summarizes_walkAll env outer rules _ h.2)

/-- The flags of a walk sum up its moments. -/
theorem RuleList.summarizes_walk (env : Env) (outer : Option Bag) :
    ∀ (list : RuleList) (request : Request), list.Obeys .outcomeOnly →
      (list.walk env outer request).flags.Summarizes env (list.moments env outer request)
  | ⟨_, _, rules⟩, request, h => Rule.summarizes_walkAll env outer rules request h

end

/-! ### Verdicts -/

namespace Engine

/-- Where the flags of a verdict come from: single actions and rules at any depth, and rules of the root list.  The
moments that are meant lead from the request to the one that the walk leaves, and a recording engine reports their
actions. -/
theorem flags_of_verdict (engine : Engine) (request : Request) (hlaw : engine.rules.root.Obeys .outcomeOnly) :
    let verdict := (engine.process request).verdict
    let root := engine.rules.root
    let moments := root.moments engine.env none request
    (verdict.endRequest = true ↔ ∃ action on scratch, action.IsLeaf ∧ .performed action on scratch ∈ moments ∧
        (action.perform engine.env on scratch).outcome.endRequest = true) ∧
      (verdict.dynamic = true ↔ ∃ depth rule, .matched depth rule ∈ moments ∧ rule.dynamic = true) ∧
      (verdict.matched = true ↔ ∃ rule ∈ root.rules, .matched 0 rule ∈ moments) ∧
      Moment.Lead engine.env .outcomeOnly request moments (root.walk engine.env none request).request ∧
      (engine.env.Records →
        Note.select Event.isAction (engine.process request).notes = moments.filterMap (·.event? engine.env)) := by
  intro verdict root moments
  have hsum := RuleList.summarizes_walk engine.env none root request hlaw
  have hlead := RuleList.lead_walk engine.env none root request hlaw
  refine ⟨?_, ?_, ?_, hlead, ?_⟩
  · rw [show verdict.endRequest = _ from hsum.endRequest, Moment.endsRequest_iff]
    constructor
    · rintro ⟨action, on, scratch, hmem, hends⟩
      exact ⟨action, on, scratch, hlead.isLeaf hmem, hmem, hends⟩
    · rintro ⟨action, on, scratch, -, hmem, hends⟩
      exact ⟨action, on, scratch, hmem, hends⟩
  · rw [show verdict.dynamic = _ from hsum.dynamic]
    exact Moment.isDynamic_iff
  · rw [show verdict.matched = _ from hsum.matched, Moment.isOutermost_iff]
    constructor
    · rintro ⟨rule, hmem⟩
      exact ⟨rule, RuleList.mem_of_outermost hmem, hmem⟩
    · rintro ⟨rule, -, hmem⟩
      exact ⟨rule, hmem⟩
  · exact fun hrecords => engine.actions_process hrecords request

/-- An engine whose only rule runs a list that goes on behind a dynamic rule, which runs another list with a
redirect; the stop of the redirect stays in there. -/
def endingInside : Engine :=
  ⟨⟨⟨"root", false, [⟨"outer", false, false, none, some (.sequence [
      .custom ⟨"tag", fun request scratch => (⟨false, false⟩, request.replace (.header "x-tag") "on", scratch)⟩,
      .rules ⟨"middle", false, [
        ⟨"dynamic", false, true, none, some (.rules ⟨"inner", false, [
          ⟨"moved", false, false, none, some (.redirect (.make none .permanent))⟩,
          ⟨"unseen", false, false, none, none⟩]⟩)⟩,
        ⟨"behind", false, false, none, some (.replace .path (.literal "/new"))⟩]⟩])⟩]⟩, []⟩,
    ⟨.both, "/www", .record, fun _ => .ok .file⟩⟩

theorem flags_of_verdict_endingInside :
    let moments := endingInside.rules.root.moments endingInside.env none (.ofUrl "/old")
    endingInside.rules.root.Obeys .outcomeOnly ∧ endingInside.env.Records ∧
      (∃ action on scratch, action.IsLeaf ∧ .performed action on scratch ∈ moments ∧
        (action.perform endingInside.env on scratch).outcome.endRequest = true) ∧
      (∃ depth rule, .matched depth rule ∈ moments ∧ rule.dynamic = true) ∧
      moments.filterMap (·.event? endingInside.env) = [
        .action "tag()" false false, .action "redirect 301 -> url" true true,
        .action "replace path = \"/new\"" false false] := by
  intro moments
  have hlaw : endingInside.rules.root.Obeys .outcomeOnly := by
    simp only [endingInside, RuleList.Obeys, Rule.AllObey, Rule.Obeys, Action.Obeys, Action.AllObey, and_true, true_and]
    exact fun _ _ => rfl
  obtain ⟨hend, hdynamic, -, -, hactions⟩ := flags_of_verdict endingInside (.ofUrl "/old") hlaw
  refine ⟨hlaw, ⟨rfl, rfl⟩, hend.mp (by decide +kernel), hdynamic.mp (by decide +kernel), ?_⟩
  rw [← hactions ⟨rfl, rfl⟩]
  decide +kernel

end Engine

end Reroute
