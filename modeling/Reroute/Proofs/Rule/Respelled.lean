import Reroute.Proofs.Request.Names
import Reroute.Proofs.Value.Respelled

/-!
# Rules in another case

Two rule lists are put together in the same way, except that parameters, headers and server variables are named in
another case.  A walk over the one leaves what a walk over the other leaves, apart from the wording of its notes
(`RuleList.Respelled.walk_same`), and so do the engines (`Engine.process_respelled`).
-/

namespace Reroute

/-! ### What is left but for the notes -/

/-- Tests that leave the same but for their notes. -/
structure Tested.Same (a b : Tested) : Prop where
  holds : a.holds = b.holds
  scratch : a.scratch = b.scratch

/-- Actions that leave the same but for their notes. -/
structure Performed.Same (a b : Performed) : Prop where
  outcome : a.outcome = b.outcome
  request : a.request = b.request
  scratch : a.scratch = b.scratch

/-- Rules that leave the same but for their notes. -/
structure Evaluated.Same (a b : Evaluated) : Prop where
  scratch : a.scratch = b.scratch
  request : a.request = b.request

/-- Walks that leave the same but for their notes. -/
structure Walked.Same (a b : Walked) : Prop where
  flags : a.flags = b.flags
  request : a.request = b.request

/-! ### Conditions -/

namespace Condition

mutual

/-- Conditions put together in the same way from values whose names may differ in the case of ASCII letters. -/
inductive Respelled : Condition → Condition → Prop
  | text (m : TextMatch) {value : Value} (h : m.value.Respelled value) :
      Respelled (.text m) (.text { m with value := value })
  | number (m : NumberMatch) {value : Value} (h : m.value.Respelled value) :
      Respelled (.number m) (.number { m with value := value })
  | file (m : FileMatch) {value : Value} (h : m.value.Respelled value) :
      Respelled (.file m) (.file { m with value := value })
  | custom (condition : CustomCondition) (negate : Bool) :
      Respelled (.custom condition negate) (.custom condition negate)
  | list (logic : Logic) (track : Bool) {items others : List Condition} (h : AllRespelled items others) :
      Respelled (.list logic track items) (.list logic track others)

/-- The same of conditions in a row. -/
inductive AllRespelled : List Condition → List Condition → Prop
  | nil : AllRespelled [] []
  | cons {a b : Condition} {conditions others : List Condition} (h : Respelled a b)
      (hrest : AllRespelled conditions others) : AllRespelled (a :: conditions) (b :: others)

end

variable (env : Env) (request : Request)

mutual

private theorem Respelled.test_same : ∀ {a b : Condition}, a.Respelled b → ∀ scratch : Scratch,
    (a.test env request scratch).Same (b.test env request scratch)
  | _, _, .text m h, scratch => by
    simp only [test, TextMatch.test, h.read_eq]
    exact ⟨rfl, rfl⟩
  | _, _, .number m h, scratch => by
    simp only [test, NumberMatch.test, Value.readNumber, h.read_eq]
    exact ⟨rfl, rfl⟩
  | _, _, .file m h, scratch => by
    simp only [test, FileMatch.test, h.read_eq]
    exact ⟨rfl, rfl⟩
  | _, _, .custom condition negate, scratch => ⟨rfl, rfl⟩
  | _, _, .list logic track h, scratch => by
    obtain ⟨hholds, hscratch⟩ := h.meets_same logic.decisive (scratch.pushTracking track)
    simp only [test, hholds, hscratch]
    exact ⟨rfl, rfl⟩

private theorem AllRespelled.meets_same : ∀ {conditions others : List Condition}, AllRespelled conditions others →
    ∀ (result : Bool) (scratch : Scratch),
      (meets env request result conditions scratch).Same (meets env request result others scratch)
  | _, _, .nil, _, _ => ⟨rfl, rfl⟩
  | _, _, .cons h hrest, result, scratch => by
    obtain ⟨hholds, hscratch⟩ := h.test_same scratch
    simp only [meets, ← hholds, ← hscratch]
    split
    · exact ⟨rfl, rfl⟩
    · obtain ⟨hholds, hscratch⟩ := hrest.meets_same result _
      exact ⟨hholds, hscratch⟩

end

private theorem testIfAny_same {a b : Option Condition} (h : Option.Rel Respelled a b) (scratch : Scratch) :
    (testIfAny env request a scratch).Same (testIfAny env request b scratch) := by
  cases h with
  | none => exact ⟨rfl, rfl⟩
  | some h => exact h.test_same env request scratch

end Condition

/-! ### Actions and rules -/

mutual

/-- Actions put together in the same way, where names may differ in the case of ASCII letters. -/
inductive Action.Respelled : Action → Action → Prop
  | replace {target target' : Target} {value value' : Value} (htarget : target.Respelled target')
      (hvalue : value.Respelled value') : Action.Respelled (.replace target value) (.replace target' value')
  | append {target target' : Target} {value value' : Value} (htarget : target.Respelled target')
      (hvalue : value.Respelled value') : Action.Respelled (.append target value) (.append target' value')
  | insert (index : Int) {value value' : Value} (hvalue : value.Respelled value') :
      Action.Respelled (.insert index value) (.insert index value')
  | delete {target target' : Target} (htarget : target.Respelled target') :
      Action.Respelled (.delete target) (.delete target')
  | keep {list list' : AllowList} (hlist : list.Respelled list') : Action.Respelled (.keep list) (.keep list')
  | normalize (leading trailing : SlashPolicy) :
      Action.Respelled (.normalize leading trailing) (.normalize leading trailing)
  | truncate (depth : UInt64) : Action.Respelled (.truncate depth) (.truncate depth)
  | redirect (answer : Redirect) {location : Option Value}
      (h : Option.Rel Value.Respelled answer.location location) :
      Action.Respelled (.redirect answer) (.redirect { answer with location := location })
  | respond (answer : FixedResponse) {body : Option Value} (h : Option.Rel Value.Respelled answer.body body) :
      Action.Respelled (.respond answer) (.respond { answer with body := body })
  | abort : Action.Respelled .abort .abort
  | doNothing (outcome : Outcome) : Action.Respelled (.doNothing outcome) (.doNothing outcome)
  | custom (action : CustomAction) : Action.Respelled (.custom action) (.custom action)
  | sequence {steps steps' : List Action} (h : Action.AllRespelled steps steps') :
      Action.Respelled (.sequence steps) (.sequence steps')
  | rules {list list' : RuleList} (h : RuleList.Respelled list list') :
      Action.Respelled (.rules list) (.rules list')

/-- The same of actions in a row. -/
inductive Action.AllRespelled : List Action → List Action → Prop
  | nil : Action.AllRespelled [] []
  | cons {a b : Action} {actions others : List Action} (h : Action.Respelled a b)
      (hrest : Action.AllRespelled actions others) : Action.AllRespelled (a :: actions) (b :: others)

/-- The same of rules with their flags, conditions and actions. -/
inductive Rule.Respelled : Rule → Rule → Prop
  | idle (name : String) (stop dynamic : Bool) {condition condition' : Option Condition}
      (hcondition : Option.Rel Condition.Respelled condition condition') :
      Rule.Respelled ⟨name, stop, dynamic, condition, none⟩ ⟨name, stop, dynamic, condition', none⟩
  | acting (name : String) (stop dynamic : Bool) {condition condition' : Option Condition}
      (hcondition : Option.Rel Condition.Respelled condition condition') {action action' : Action}
      (haction : Action.Respelled action action') :
      Rule.Respelled ⟨name, stop, dynamic, condition, some action⟩ ⟨name, stop, dynamic, condition', some action'⟩

/-- The same of rules in a row. -/
inductive Rule.AllRespelled : List Rule → List Rule → Prop
  | nil : Rule.AllRespelled [] []
  | cons {a b : Rule} {rules others : List Rule} (h : Rule.Respelled a b)
      (hrest : Rule.AllRespelled rules others) : Rule.AllRespelled (a :: rules) (b :: others)

/-- The same of rule lists. -/
inductive RuleList.Respelled : RuleList → RuleList → Prop
  | mk (name : String) (stop : Bool) {rules others : List Rule} (h : Rule.AllRespelled rules others) :
      RuleList.Respelled ⟨name, stop, rules⟩ ⟨name, stop, others⟩

end

private theorem RuleList.Respelled.stop_eq {a b : RuleList} (h : a.Respelled b) : a.stop = b.stop := by
  cases h
  rfl

private theorem Redirect.deferred_respelled (answer : Redirect) {location : Option Value}
    (h : Option.Rel Value.Respelled answer.location location) (request : Request) (scratch : Scratch) :
    answer.deferred request scratch = { answer with location := location }.deferred request scratch := by
  obtain ⟨location', code, outcome⟩ := answer
  cases h with
  | none => rfl
  | some h => simp only [deferred, h.read_eq]

private theorem FixedResponse.deferred_respelled (answer : FixedResponse) {body : Option Value}
    (h : Option.Rel Value.Respelled answer.body body) (request : Request) (scratch : Scratch) :
    answer.deferred request scratch = { answer with body := body }.deferred request scratch := by
  obtain ⟨status, reason, body', outcome⟩ := answer
  cases h with
  | none => rfl
  | some h => simp only [deferred, Option.map_some, h.read_eq]

mutual

private theorem Action.Respelled.perform_same (env : Env) : ∀ {a b : Action}, a.Respelled b →
    ∀ (request : Request) (scratch : Scratch), (a.perform env request scratch).Same (b.perform env request scratch)
  | _, _, .replace htarget hvalue, request, scratch => by
    cases htarget.eq
    simp only [Action.perform, hvalue.read_eq]
    exact ⟨rfl, rfl, rfl⟩
  | _, _, .append htarget hvalue, request, scratch => by
    cases htarget.eq
    simp only [Action.perform, hvalue.read_eq]
    exact ⟨rfl, rfl, rfl⟩
  | _, _, .insert index hvalue, request, scratch => by
    simp only [Action.perform, hvalue.read_eq]
    exact ⟨rfl, rfl, rfl⟩
  | _, _, .delete htarget, request, scratch => by
    cases htarget.eq
    exact ⟨rfl, rfl, rfl⟩
  | _, _, .keep hlist, request, scratch => by
    cases hlist.eq
    exact ⟨rfl, rfl, rfl⟩
  | _, _, .normalize .., _, _ | _, _, .truncate _, _, _ | _, _, .abort, _, _ | _, _, .doNothing _, _, _
  | _, _, .custom _, _, _ => ⟨rfl, rfl, rfl⟩
  | _, _, .redirect answer h, request, scratch => by
    simp only [Action.perform, answer.deferred_respelled h]
    exact ⟨rfl, rfl, rfl⟩
  | _, _, .respond answer h, request, scratch => by
    simp only [Action.perform, answer.deferred_respelled h]
    exact ⟨rfl, rfl, rfl⟩
  | _, _, .sequence h, request, scratch => h.performAll_same env request scratch
  | _, _, .rules h, request, scratch => by
    obtain ⟨hflags, hrequest⟩ := h.walk_same env (some scratch.bag) request
    simp only [Action.perform, hflags, hrequest, h.stop_eq]
    exact ⟨rfl, rfl, rfl⟩

private theorem Action.AllRespelled.performAll_same (env : Env) : ∀ {actions others : List Action},
    Action.AllRespelled actions others → ∀ (request : Request) (scratch : Scratch),
      (Action.performAll env actions request scratch).Same (Action.performAll env others request scratch)
  | _, _, .nil, _, _ => ⟨rfl, rfl, rfl⟩
  | _, _, .cons h hrest, request, scratch => by
    obtain ⟨houtcome, hrequest, hscratch⟩ := h.perform_same env request scratch
    simp only [Action.performAll, ← houtcome, ← hrequest, ← hscratch]
    split
    · exact ⟨rfl, rfl, rfl⟩
    · obtain ⟨houtcome, hrequest, hscratch⟩ := hrest.performAll_same env _ _
      exact ⟨by rw [houtcome], hrequest, hscratch⟩

private theorem Rule.Respelled.evaluate_same (env : Env) (outer : Option Bag) : ∀ {a b : Rule}, a.Respelled b →
    ∀ request : Request, (a.evaluate env outer request).Same (b.evaluate env outer request)
  | _, _, .idle name stop dynamic hcondition, request => by
    obtain ⟨hholds, hscratch⟩ := Condition.testIfAny_same env request hcondition (.within outer)
    simp only [Rule.evaluate_eq, Rule.fire, ← hholds, ← hscratch]
    split <;> exact ⟨rfl, rfl⟩
  | _, _, .acting name stop dynamic hcondition haction, request => by
    obtain ⟨hholds, hscratch⟩ := Condition.testIfAny_same env request hcondition (.within outer)
    simp only [Rule.evaluate_eq, Rule.fire, ← hholds, ← hscratch]
    split
    · obtain ⟨houtcome, hrequest, hscratch⟩ := haction.perform_same env request _
      exact ⟨by simp only [Action.performIfAny, houtcome, hscratch], hrequest⟩
    · exact ⟨rfl, rfl⟩

private theorem Rule.AllRespelled.evaluateAll_same (env : Env) (outer : Option Bag) : ∀ {rules others : List Rule},
    Rule.AllRespelled rules others → ∀ (flags : WalkFlags) (request : Request),
      (Rule.evaluateAll env outer rules flags request).Same (Rule.evaluateAll env outer others flags request)
  | _, _, .nil, _, _ => ⟨rfl, rfl⟩
  | _, _, .cons h hrest, flags, request => by
    obtain ⟨hscratch, hrequest⟩ := h.evaluate_same env outer request
    simp only [Rule.evaluateAll, ← hscratch, ← hrequest]
    split
    · exact ⟨rfl, rfl⟩
    · obtain ⟨hflags, hrequest⟩ := hrest.evaluateAll_same env outer _ _
      exact ⟨hflags, hrequest⟩

/-- Walks over rules in another case leave the same but for their notes. -/
theorem RuleList.Respelled.walk_same (env : Env) (outer : Option Bag) : ∀ {a b : RuleList}, a.Respelled b →
    ∀ request : Request, (a.walk env outer request).Same (b.walk env outer request)
  | _, _, .mk name stop h, request => by
    obtain ⟨hflags, hrequest⟩ := h.evaluateAll_same env outer .none request
    exact ⟨hflags, hrequest⟩

end

/-! ### Small names on the way -/

private theorem Target.Respelled.made {a b : Target} (h : a.Respelled b) : a.Made := by
  obtain ⟨action, scope, index, _, _, ha, _⟩ := h
  exact ⟨action, scope, index, ha⟩

mutual

private theorem Action.Respelled.targetMade_moments (env : Env) : ∀ {a b : Action}, a.Respelled b →
    ∀ (request : Request) (scratch : Scratch), ∀ moment ∈ a.moments env request scratch, moment.TargetMade
  | _, _, .sequence h, request, scratch => h.targetMade_moments env request scratch
  | _, _, .rules h, request, scratch => by
    intro moment hmem
    obtain ⟨inner, hinner, rfl⟩ := List.mem_map.mp hmem
    exact Moment.targetMade_deepen (h.targetMade_moments env (some scratch.bag) request inner hinner)
  | _, _, .replace htarget _, _, _ | _, _, .append htarget _, _, _ | _, _, .delete htarget, _, _ =>
    List.forall_mem_singleton.mpr htarget.made
  | _, _, .insert .., _, _ | _, _, .keep _, _, _ | _, _, .normalize .., _, _ | _, _, .truncate _, _, _
  | _, _, .redirect .., _, _ | _, _, .respond .., _, _ | _, _, .abort, _, _ | _, _, .doNothing _, _, _
  | _, _, .custom _, _, _ => List.forall_mem_singleton.mpr trivial

private theorem Action.AllRespelled.targetMade_moments (env : Env) : ∀ {actions others : List Action},
    Action.AllRespelled actions others → ∀ (request : Request) (scratch : Scratch),
      ∀ moment ∈ Action.momentsAll env actions request scratch, moment.TargetMade
  | _, _, .nil, _, _ => List.forall_mem_nil _
  | _, _, .cons h hrest, request, scratch => by
    refine List.forall_mem_append.mpr ⟨h.targetMade_moments env request scratch, ?_⟩
    split
    · exact List.forall_mem_nil _
    · exact hrest.targetMade_moments env _ _

private theorem Rule.Respelled.targetMade_moments (env : Env) (outer : Option Bag) : ∀ {a b : Rule}, a.Respelled b →
    ∀ request : Request, ∀ moment ∈ a.moments env outer request, moment.TargetMade
  | _, _, .idle name stop dynamic hcondition, request => by
    rw [Rule.moments_eq]
    dsimp only
    split
    · exact List.forall_mem_singleton.mpr trivial
    · exact List.forall_mem_nil _
  | _, _, .acting name stop dynamic hcondition haction, request => by
    rw [Rule.moments_eq]
    dsimp only
    split
    · exact List.forall_mem_cons.mpr ⟨trivial, haction.targetMade_moments env request _⟩
    · exact List.forall_mem_nil _

private theorem Rule.AllRespelled.targetMade_moments (env : Env) (outer : Option Bag) : ∀ {rules others : List Rule},
    Rule.AllRespelled rules others → ∀ request : Request,
      ∀ moment ∈ Rule.momentsAll env outer rules request, moment.TargetMade
  | _, _, .nil, _ => List.forall_mem_nil _
  | _, _, .cons h hrest, request => by
    refine List.forall_mem_append.mpr ⟨h.targetMade_moments env outer request, ?_⟩
    split
    · exact List.forall_mem_nil _
    · exact hrest.targetMade_moments env outer _

private theorem RuleList.Respelled.targetMade_moments (env : Env) (outer : Option Bag) :
    ∀ {a b : RuleList}, a.Respelled b →
    ∀ request : Request, ∀ moment ∈ a.moments env outer request, moment.TargetMade
  | _, _, .mk name stop h, request => h.targetMade_moments env outer request

end

/-! ### Engines -/

namespace Engine

/-- Engines whose rules name things in another case, on requests seeded under names in another case, come to the same
verdict and leave the same request, and a dry run comes to the same verdict as well.  If the actions of the host keep
names small, all names are small and unique at the start, wherever an action is performed, and at the end. -/
theorem process_respelled {engine other : Engine} (henv : engine.env = other.env)
    (hrules : engine.rules.root.Respelled other.rules.root) {request seeded : Request}
    (hrequest : request.SeededAlike seeded) :
    ((engine.process request).verdict = (other.process seeded).verdict ∧
      (engine.process request).request = (other.process seeded).request ∧
      (engine.dryRun request).verdict = (other.dryRun seeded).verdict) ∧
    (engine.rules.root.Obeys .keepsNames →
      request.NamesSmall ∧
      (∀ action on scratch, .performed action on scratch ∈ engine.rules.root.moments engine.env none request →
        on.NamesSmall) ∧
      (engine.process request).request.NamesSmall) := by
  obtain ⟨rules, env⟩ := engine
  obtain ⟨rules', env'⟩ := other
  cases henv
  obtain ⟨hfresh, rfl⟩ := hrequest.fresh_and_eq
  have hsame (env : Env) : ((⟨rules, env⟩ : Engine).process request).verdict =
        ((⟨rules', env⟩ : Engine).process request).verdict ∧
      ((⟨rules, env⟩ : Engine).process request).request = ((⟨rules', env⟩ : Engine).process request).request := by
    obtain ⟨hflags, hwalked⟩ := hrules.walk_same env none request
    simp only [process, hflags, hwalked, and_self]
  refine ⟨⟨(hsame env).1, (hsame env).2, (hsame _).1⟩, fun hlaw => ?_⟩
  have hlead := RuleList.lead_walk env none rules.root request hlaw
  obtain ⟨hmoments, hlast⟩ := hlead.namesSmall (hrules.targetMade_moments env none request) hfresh.namesSmall
  exact ⟨hfresh.namesSmall, hmoments, ⟨hlast.query, hlast.receivedQuery, hlast.headers, hlast.serverVariables⟩⟩

/-- An engine that keeps nothing of the headers but a language, and writes that into a parameter, where the header is
named in some way. -/
def greeter (name : String) : Engine where
  rules := ⟨⟨"root", false, [⟨"greet", false, false,
    some (.text ⟨.getter (.header name), .equals, "en", .whole "en", false, false, .fromConditions⟩),
    some (.sequence [.replace (.parameter "lang") (.getter (.header name)), .keep (.headers ["x-lang"])])⟩]⟩, []⟩
  env := ⟨.execute, "/www", .discard, fun _ => .ok .file⟩

/-- A request with the language under some name. -/
def visitor (name : String) : Request := ((Request.ofUrl "/a?Lang=de").withHeader "Host" "one").withHeader name "en"

theorem process_respelled_greeter :
    (greeter "X-Lang").env = (greeter "x-LANG").env ∧
      (greeter "X-Lang").rules.root.Respelled (greeter "x-LANG").rules.root ∧
      (visitor "x-lang").SeededAlike (visitor "X-LANG") ∧ (greeter "X-Lang").rules.root.Obeys .keepsNames ∧
      ((greeter "x-LANG").process (visitor "X-LANG")).verdict.newUrl = "/a?lang=en" ∧
      ((greeter "x-LANG").process (visitor "X-LANG")).request.headers.live = [("x-lang", "en")] ∧
      ((greeter "X-Lang").process (visitor "x-lang")).request.NamesSmall := by
  have hcase : Text.lowerAscii "X-Lang" = Text.lowerAscii "x-LANG" := by decide
  have hgetter : (Value.getter (.header "X-Lang")).Respelled (.getter (.header "x-LANG")) := .getter (.header hcase)
  have htarget : (Target.parameter "lang").Respelled (.parameter "lang") :=
    ⟨"replace", .parameter, some "Lang", some "LANG", .inr ⟨.inl rfl, by decide⟩, by decide, by decide⟩
  have hlist : (AllowList.headers ["x-lang"]).Respelled (.headers ["x-lang"]) :=
    ⟨.header, some "X-Lang", some "x-LANG", .inr ⟨.inl rfl, by decide⟩, by decide, by decide⟩
  have hrules : (greeter "X-Lang").rules.root.Respelled (greeter "x-LANG").rules.root :=
    .mk _ _ (.cons (.acting _ _ _ (.some (.text _ hgetter))
      (.sequence (.cons (.replace htarget hgetter) (.cons (.keep hlist) .nil)))) .nil)
  have hrequest : (visitor "x-lang").SeededAlike (visitor "X-LANG") :=
    .withHeader "en" (by decide) (.withHeader "one" rfl (.ofUrl "/a?Lang=de"))
  have hlaw : (greeter "X-Lang").rules.root.Obeys .keepsNames := by
    simp only [greeter, RuleList.Obeys, Rule.AllObey, Rule.Obeys, Condition.Obeys, Action.Obeys, Action.AllObey,
      and_self]
  have henv : (greeter "X-Lang").env = (greeter "x-LANG").env := rfl
  obtain ⟨⟨hverdict, hleft, -⟩, hsmall⟩ := process_respelled henv hrules hrequest
  obtain ⟨-, -, hlast⟩ := hsmall hlaw
  refine ⟨henv, hrules, hrequest, hlaw, ?_, ?_, hlast⟩
  · rw [← hverdict]
    decide
  · rw [← hleft]
    decide

end Engine

end Reroute
