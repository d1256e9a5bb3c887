import Reroute.Engine
import Reroute.Proofs.Request.Queue
import Reroute.Proofs.Rule.Stages

/-!
# Modes of a walk

A full walk queues every deferred action and records every event.  A walk in any mode, with any sink and any queue
before it, is what is seen of the full walk from an empty queue (`RuleList.walk_eq_seen`): the same outcome and
scratch, the same request up to the queue, which gets the new actions only where the mode executes, and the same
notes with the events reported anew.  So the modes differ in the queue and in the events, and in nothing that a
later rule could read.
-/

namespace Reroute

/-! ### What is seen of a full walk -/

namespace Env

/-- The same surroundings with every deferred action queued and every event recorded. -/
def full (env : Env) : Env := { env with mode := .both, sink := .record }

/-- Surroundings that differ in mode and sink at most. -/
def SameSite (a b : Env) : Prop := a.documentRoot = b.documentRoot ∧ a.probe = b.probe

/-- The notes of a full walk with its events reported anew. -/
def seen (env : Env) (notes : List Note) : List Note :=
  notes.flatMap fun
    | .event event => env.report event
    | note => [note]

/-- The request of a full walk from an empty queue, behind the queue `before`. -/
def settled (env : Env) (before : List Deferred) (request : Request) : Request :=
  request.withQueue (before ++ if env.mode.executes then request.deferred else [])

variable (env : Env)

@[simp] theorem full_full : env.full.full = env.full := rfl

@[simp] theorem executes_full : env.full.mode.executes = true := rfl

private theorem SameSite.full_eq {a b : Env} (h : SameSite a b) : a.full = b.full := by
  obtain ⟨hroot, hprobe⟩ := h
  simp only [full, hroot, hprobe]

@[simp] theorem seen_nil : env.seen [] = [] := rfl

@[simp] theorem seen_append (front back : List Note) : env.seen (front ++ back) = env.seen front ++ env.seen back := by
  simp only [seen, List.flatMap_append]

@[simp] theorem seen_report (event : Event) : env.seen (env.full.report event) = env.report event := by
  simp [seen, report, full, Mode.traces]

/-- The full walk is seen as it is. -/
@[simp] theorem seen_full (notes : List Note) : env.full.seen notes = notes := by
  induction notes with
  | nil => rfl
  | cons note notes ih => cases note <;> simpa [seen, report, full, Mode.traces] using ih

@[simp] theorem withQueue_settled (before queue : List Deferred) (request : Request) :
    (env.settled before request).withQueue queue = request.withQueue queue := rfl

/-- Settling in two steps, the second of them from where the first one ended. -/
private theorem settled_settled (before : List Deferred) (first second : Request) :
    env.settled (env.settled before first).deferred second =
      env.settled before (env.full.settled first.deferred second) := by
  cases h : env.mode.executes <;> simp [settled, h]

end Env

/-- What is seen of a full test. -/
def Tested.seen (env : Env) (tested : Tested) : Tested := { tested with notes := env.seen tested.notes }

/-- What is seen of a full performance behind a queue. -/
def Performed.seen (env : Env) (before : List Deferred) (performed : Performed) : Performed :=
  ⟨performed.outcome, env.settled before performed.request, performed.scratch, env.seen performed.notes⟩

/-- What is seen of a full evaluation behind a queue. -/
def Evaluated.seen (env : Env) (before : List Deferred) (evaluated : Evaluated) : Evaluated :=
  ⟨evaluated.scratch, env.settled before evaluated.request, env.seen evaluated.notes⟩

/-- What is seen of a full walk behind a queue. -/
def Walked.seen (env : Env) (before : List Deferred) (walked : Walked) : Walked :=
  ⟨walked.flags, env.settled before walked.request, env.seen walked.notes⟩

/-! ### Conditions -/

private theorem FileMatch.test_full (m : FileMatch) (env : Env) (request : Request) (scratch : Scratch) :
    m.test env.full request scratch = m.test env request scratch := rfl

/-- Looking up a file leaves no event. -/
private theorem FileMatch.seen_notes (m : FileMatch) (env : Env) (request : Request) (scratch : Scratch) :
    env.seen (m.test env request scratch).2 = (m.test env request scratch).2 := by
  simp only [test]
  split <;> rfl

private theorem Condition.reportResult_eq_seen (env : Env) (condition : Condition) (holds : Bool) (scratch : Scratch)
    {notes : List Note} (hn : env.seen notes = notes) :
    reportResult env condition holds scratch notes =
      (reportResult env.full condition holds scratch notes).seen env := by
  simp [reportResult, Tested.seen, hn]

mutual

private theorem Condition.test_eq_seen (env : Env) (request : Request) :
    ∀ (condition : Condition) (scratch : Scratch), condition.Obeys ExtensionLaw.queueBlind.condition →
      condition.test env request scratch = (condition.test env.full (request.withQueue []) scratch).seen env
  | .text m, scratch, _ => by
    simp only [Condition.test, TextMatch.test_withQueue]
    exact Condition.reportResult_eq_seen env _ _ _ rfl
  | .number m, scratch, _ => by
    simp only [Condition.test, NumberMatch.test_withQueue]
    exact Condition.reportResult_eq_seen env _ _ _ rfl
  | .file m, scratch, _ => by
    simp only [Condition.test, FileMatch.test_full, FileMatch.test_withQueue]
    exact Condition.reportResult_eq_seen env _ _ _ (m.seen_notes env request scratch)
  | .custom condition negate, scratch, h => by
    have hc : condition.test (request.withQueue []) scratch = condition.test request scratch := h request [] scratch
    simp only [Condition.test, hc]
    exact Condition.reportResult_eq_seen env _ _ _ rfl
  | .list logic track items, scratch, h => by
    have hm := Condition.meets_eq_seen env request logic.decisive items (scratch.pushTracking track) h
    simp only [Condition.test, hm]
    simp [Tested.seen]

private theorem Condition.meets_eq_seen (env : Env) (request : Request) (result : Bool) :
    ∀ (conditions : List Condition) (scratch : Scratch),
      Condition.AllObey ExtensionLaw.queueBlind.condition conditions →
        Condition.meets env request result conditions scratch =
          (Condition.meets env.full (request.withQueue []) result conditions scratch).seen env
  | [], _, _ => rfl
  | condition :: conditions, scratch, h => by
    have hfirst := Condition.test_eq_seen env request condition scratch h.1
    simp only [Condition.meets, hfirst]
    generalize condition.test env.full (request.withQueue []) scratch = first
    have hrest := Condition.meets_eq_seen env request result conditions first.scratch h.2
    by_cases hd : first.holds = result
    · simp [Tested.seen, hd]
    · simp [Tested.seen, hd, hrest]

end

private theorem Condition.testIfAny_eq_seen (env : Env) (request : Request) (condition : Option Condition)
    (scratch : Scratch) (h : ∀ c, condition = some c → c.Obeys ExtensionLaw.queueBlind.condition) :
    Condition.testIfAny env request condition scratch =
      (Condition.testIfAny env.full (request.withQueue []) condition scratch).seen env := by
  cases condition with
  | none => rfl
  | some condition => exact condition.test_eq_seen env request scratch (h condition rfl)

/-! ### Actions -/

namespace Request

private theorem queueBlind_replace (target : Target) (value : Value) (scratch : Scratch) :
    QueueBlind fun request => request.replace target (value.read request scratch) := by
  intro request queue
  simp only [Value.read_withQueue, replace_withQueue]

private theorem queueBlind_append (target : Target) (value : Value) (scratch : Scratch) :
    QueueBlind fun request => request.append target (value.read request scratch) := by
  intro request queue
  simp only [Value.read_withQueue, append_withQueue]

private theorem queueBlind_insertSegment (index : Int) (value : Value) (scratch : Scratch) :
    QueueBlind fun request => request.insertSegment index (value.read request scratch) := by
  intro request queue
  simp only [Value.read_withQueue, insertSegment_withQueue]

end Request

/-- An action whose change of the request is blind to the queue. -/
private theorem Action.reportOutcome_eq_seen (env : Env) (action : Action) (outcome : Outcome) (scratch : Scratch)
    (request : Request) {f : Request → Request} (hf : Request.QueueBlind f) :
    Action.reportOutcome env action outcome (f request) scratch =
      (Action.reportOutcome env.full action outcome (f (request.withQueue [])) scratch).seen env request.deferred := by
  have hq : (f request).withQueue request.deferred = f request := by
    rw [← hf.deferred_eq request, Request.withQueue_deferred]
  simp [Action.reportOutcome, Performed.seen, Env.settled, hf request [], hq]

/-- An action that queues an answer where the mode executes. -/
private theorem Action.schedule_eq_seen (env : Env) (action : Action) (outcome : Outcome) (scratch : Scratch)
    (request : Request) (answer : Deferred) :
    Action.reportOutcome env action outcome (env.schedule request answer) scratch =
      (Action.reportOutcome env.full action outcome (env.full.schedule (request.withQueue []) answer) scratch).seen env
        request.deferred := by
  have hs : env.schedule request answer =
      env.settled request.deferred (env.full.schedule (request.withQueue []) answer) := by
    cases h : env.mode.executes <;> simp [Env.schedule, Env.settled, Request.defer_withQueue, h]
    rfl
  simp [Action.reportOutcome, Performed.seen, hs]

mutual

private theorem Action.perform_eq_seen (env : Env) :
    ∀ (action : Action) (request : Request) (scratch : Scratch), action.Obeys .queueBlind →
      action.perform env request scratch =
        (action.perform env.full (request.withQueue []) scratch).seen env request.deferred
  | .replace target value, request, scratch, _ => by
    simp only [Action.perform]
    exact Action.reportOutcome_eq_seen env _ _ _ request (Request.queueBlind_replace target value scratch)
  | .append target value, request, scratch, _ => by
    simp only [Action.perform]
    exact Action.reportOutcome_eq_seen env _ _ _ request (Request.queueBlind_append target value scratch)
  | .insert index value, request, scratch, _ => by
    simp only [Action.perform]
    exact Action.reportOutcome_eq_seen env _ _ _ request (Request.queueBlind_insertSegment index value scratch)
  | .delete target, request, scratch, _ => by
    simp only [Action.perform]
    exact Action.reportOutcome_eq_seen env _ _ _ request (f := (·.delete target))
      (Request.delete_withQueue · · target)
  | .keep list, request, scratch, _ => by
    simp only [Action.perform]
    exact Action.reportOutcome_eq_seen env _ _ _ request (f := (·.keep list)) (Request.keep_withQueue · · list)
  | .normalize leading trailing, request, scratch, _ => by
    simp only [Action.perform]
    exact Action.reportOutcome_eq_seen env _ _ _ request (f := (·.normalize leading trailing))
      (Request.normalize_withQueue · · leading trailing)
  | .truncate depth, request, scratch, _ => by
    simp only [Action.perform]
    exact Action.reportOutcome_eq_seen env _ _ _ request (f := (·.truncate depth))
      (Request.truncate_withQueue · · depth)
  | .redirect answer, request, scratch, _ => by
    simp only [Action.perform, Redirect.deferred_withQueue]
    exact Action.schedule_eq_seen env _ _ _ request _
  | .respond answer, request, scratch, _ => by
    simp only [Action.perform, FixedResponse.deferred_withQueue]
    exact Action.schedule_eq_seen env _ _ _ request _
  | .abort, request, scratch, _ => by
    simp only [Action.perform]
    exact Action.reportOutcome_eq_seen env _ _ _ request (f := id) (fun _ _ => rfl)
  | .doNothing outcome, request, scratch, _ => by
    simp only [Action.perform]
    exact Action.reportOutcome_eq_seen env _ _ _ request (f := id) (fun _ _ => rfl)
  | .custom action, request, scratch, h => by
    have hc : ∀ r queue s, action.perform (r.withQueue queue) s =
        ((action.perform r s).1, (action.perform r s).2.1.withQueue queue, (action.perform r s).2.2) := h
    have hblind : Request.QueueBlind fun r => (action.perform r scratch).2.1 := by
      intro r queue
      simp only [hc]
    have hreport := Action.reportOutcome_eq_seen env (.custom action) (action.perform request scratch).1
      (action.perform request scratch).2.2 request hblind
    simp only [hc] at hreport
    simp only [Action.perform, hc]
    exact hreport
  | .sequence steps, request, scratch, h => by
    simp only [Action.perform]
    exact Action.performAll_eq_seen env steps request scratch h
  | .rules list, request, scratch, h => by
    simp only [Action.perform, RuleList.walk_eq_seen env (some scratch.bag) list request h]
    rfl

private theorem Action.performAll_eq_seen (env : Env) :
    ∀ (actions : List Action) (request : Request) (scratch : Scratch), Action.AllObey .queueBlind actions →
      Action.performAll env actions request scratch =
        (Action.performAll env.full actions (request.withQueue []) scratch).seen env request.deferred
  | [], request, scratch, _ => by simp [Action.performAll, Performed.seen, Env.settled]
  | action :: actions, request, scratch, h => by
    simp only [Action.performAll, Action.perform_eq_seen env action request scratch h.1]
    generalize action.perform env.full (request.withQueue []) scratch = first
    -- both runs go on from what the first action left; the full one has its actions in the queue
    have hrest := Action.performAll_eq_seen env actions (env.settled request.deferred first.request) first.scratch h.2
    have hfull := Action.performAll_eq_seen env.full actions first.request first.scratch h.2
    rw [Env.withQueue_settled] at hrest
    by_cases hs : first.outcome.stop
    · simp [Performed.seen, hs]
    · simp [Performed.seen, hs, hrest, hfull, Env.settled_settled]

private theorem Rule.evaluate_eq_seen (env : Env) (outer : Option Bag) :
    ∀ (rule : Rule) (request : Request), rule.Obeys .queueBlind →
      rule.evaluate env outer request =
        (rule.evaluate env.full outer (request.withQueue [])).seen env request.deferred
  | ⟨name, stop, dynamic, condition, action⟩, request, h => by
    obtain ⟨hcondition, haction⟩ := Rule.obeys_iff.1 h
    have htest := Condition.testIfAny_eq_seen env request condition (.within outer) hcondition
    have hperform : ∀ scratch, Action.performIfAny env action request scratch =
        (Action.performIfAny env.full action (request.withQueue []) scratch).seen env request.deferred := by
      intro scratch
      cases action with
      | none => simp [Action.performIfAny, Performed.seen, Env.settled]
      | some action => exact Action.perform_eq_seen env action request scratch (haction action rfl)
    simp only [Rule.evaluate_eq, Rule.fire, htest, hperform]
    generalize Condition.testIfAny env.full (request.withQueue []) condition (.within outer) = tested
    by_cases hh : tested.holds
    · simp [Tested.seen, Performed.seen, Evaluated.seen, hh]
    · simp [Tested.seen, Evaluated.seen, Env.settled, hh]

private theorem Rule.evaluateAll_eq_seen (env : Env) (outer : Option Bag) :
    ∀ (rules : List Rule) (flags : WalkFlags) (request : Request), Rule.AllObey .queueBlind rules →
      Rule.evaluateAll env outer rules flags request =
        (Rule.evaluateAll env.full outer rules flags (request.withQueue [])).seen env request.deferred
  | [], flags, request, _ => by simp [Rule.evaluateAll, Walked.seen, Env.settled]
  | rule :: rules, flags, request, h => by
    simp only [Rule.evaluateAll, Rule.evaluate_eq_seen env outer rule request h.1]
    generalize rule.evaluate env.full outer (request.withQueue []) = first
    have hrest := Rule.evaluateAll_eq_seen env outer rules (flags.add first.scratch)
      (env.settled request.deferred first.request) h.2
    have hfull := Rule.evaluateAll_eq_seen env.full outer rules (flags.add first.scratch) first.request h.2
    rw [Env.withQueue_settled] at hrest
    by_cases hs : (flags.add first.scratch).stopped
    · simp [Evaluated.seen, Walked.seen, hs]
    · simp [Evaluated.seen, Walked.seen, hs, hrest, hfull, Env.settled_settled]

theorem RuleList.walk_eq_seen (env : Env) (outer : Option Bag) :
    ∀ (list : RuleList) (request : Request), list.Obeys .queueBlind →
      list.walk env outer request = (list.walk env.full outer (request.withQueue [])).seen env request.deferred
  | ⟨name, stop, rules⟩, request, h => by
    simp only [RuleList.walk, Rule.evaluateAll_eq_seen env outer rules .none request h]
    simp [Walked.seen]

end

/-! ### Engines -/

private theorem Mode.executes_iff {mode : Mode} : mode.executes = true ↔ mode ≠ .trace := by
  cases mode <;> simp [executes]

namespace Env

private theorem seen_eq_of_tracing {a b : Env} (ha : a.mode ≠ .execute) (hb : b.mode ≠ .execute)
    (hsink : a.sink = b.sink) (notes : List Note) : a.seen notes = b.seen notes := by
  have hreport : a.report = b.report := by
    funext event
    cases hma : a.mode <;> cases hmb : b.mode <;> simp_all [report, Mode.traces]
  simp only [seen, hreport]

private theorem seen_eq_of_silent {a b : Env} (ha : a.mode = .execute) (hb : b.mode = .execute) (notes : List Note) :
    a.seen notes = b.seen notes := by
  have hreport : a.report = b.report := by
    funext event
    simp [report, ha, hb, Mode.traces]
  simp only [seen, hreport]

/-- Where the mode does not trace, no event is recorded. -/
private theorem events_seen_of_silent {env : Env} (h : env.mode = .execute) (notes : List Note) :
    Note.events (env.seen notes) = [] := by
  have hreport : ∀ event, env.report event = [] := by simp [report, h, Mode.traces]
  induction notes with
  | nil => rfl
  | cons note notes ih => cases note <;> simpa [seen, hreport, Note.events] using ih

end Env

/-- What an engine makes of a full walk from an empty queue, behind a queue. -/
def Processed.ofFull (env : Env) (before : List Deferred) (full : Walked) : Processed :=
  ⟨⟨full.flags.matched, full.flags.endRequest, full.flags.dynamic, full.request.modified, full.request.url,
      (env.settled before full.request).deferred⟩,
    full.request.withQueue [],
    env.seen full.notes
      ++ if full.request.modified then [.record (Engine.record full.request full.flags.endRequest)] else []⟩

namespace Engine

private theorem process_eq_ofFull (engine : Engine) (request : Request) (h : engine.rules.root.Obeys .queueBlind) :
    engine.process request =
      .ofFull engine.env request.deferred (engine.rules.root.walk engine.env.full none (request.withQueue [])) := by
  simp only [process, RuleList.walk_eq_seen engine.env none engine.rules.root request h]
  rfl

/-- Engines over the same rules that differ in mode and sink at most. -/
theorem modes_agree (a b : Engine) (request : Request) (hrules : a.rules = b.rules) (hsite : a.env.SameSite b.env)
    (hblind : a.rules.root.Obeys .queueBlind) :
    -- the walks leave the same request up to the queue, and the verdicts are the same up to what was queued
    (∀ queue, (a.rules.root.walk a.env none request).request.withQueue queue =
        (b.rules.root.walk b.env none request).request.withQueue queue) ∧
      { (a.process request).verdict with deferred := [] } = { (b.process request).verdict with deferred := [] } ∧
      -- the executing modes queue the same actions, the other none
      (a.env.mode ≠ .trace → b.env.mode ≠ .trace →
        (a.process request).verdict.deferred = (b.process request).verdict.deferred) ∧
      (a.env.mode = .trace → (a.process request).verdict.deferred = request.deferred) ∧
      -- the tracing modes leave the same notes in like sinks, the other nothing in any sink
      (a.env.mode ≠ .execute → b.env.mode ≠ .execute → a.env.sink = b.env.sink →
        (a.process request).notes = (b.process request).notes) ∧
      (a.env.mode = .execute → Note.events (a.process request).notes = [] ∧
        ∀ sink, ({ a with env := { a.env with sink := sink } } : Engine).process request = a.process request) ∧
      -- a dry run gives the verdict of any mode, queues nothing and leaves the request alone
      { (a.dryRun request).verdict with deferred := [] } = { (a.process request).verdict with deferred := [] } ∧
      (a.dryRun request).verdict.deferred = request.deferred ∧ (a.dryRun request).request = request := by
  obtain ⟨rules, env⟩ := a
  obtain ⟨_, env'⟩ := b
  obtain rfl : rules = _ := hrules
  have hfull : env'.full = env.full := (Env.SameSite.full_eq hsite).symm
  have hwalk := RuleList.walk_eq_seen env none rules.root request hblind
  have hwalk' := RuleList.walk_eq_seen env' none rules.root request hblind
  have hprocess : ∀ e : Env, e.full = env.full → (⟨rules, e⟩ : Engine).process request =
      .ofFull e request.deferred (rules.root.walk env.full none (request.withQueue [])) :=
    fun e he => he ▸ process_eq_ofFull ⟨rules, e⟩ request hblind
  have hdry : ((⟨rules, env⟩ : Engine).dryRun request).verdict = (Processed.ofFull { env with mode := .trace }
      request.deferred (rules.root.walk env.full none (request.withQueue []))).verdict := by
    rw [← hprocess { env with mode := .trace } rfl]
    rfl
  rw [hfull] at hwalk'
  rw [hdry, hprocess env rfl, hprocess env' hfull]
  generalize rules.root.walk env.full none (request.withQueue []) = full at *
  refine ⟨?_, rfl, ?_, ?_, ?_, ?_, rfl, ?_, rfl⟩
  · intro queue
    rw [hwalk, hwalk']
    rfl
  · intro ha hb
    simp only [Processed.ofFull, Env.settled, Mode.executes_iff.2 ha, Mode.executes_iff.2 hb]
  · intro ha
    have hm : env.mode.executes = false := by rw [show env.mode = .trace from ha]; rfl
    simp [Processed.ofFull, Env.settled, hm]
  · intro ha hb hsink
    simp only [Processed.ofFull, Env.seen_eq_of_tracing ha hb hsink]
  · intro ha
    refine ⟨?_, ?_⟩
    · have hevents := Env.events_seen_of_silent ha full.notes
      simp only [Processed.ofFull]
      split <;> simpa [Note.events] using hevents
    · intro sink
      rw [hprocess { env with sink := sink } rfl]
      simp only [Processed.ofFull, Env.seen_eq_of_silent (b := env) (a := { env with sink := sink }) ha ha]
      rfl
  · simp [Processed.ofFull, Env.settled, Mode.executes]

/-- An engine whose only rule sets a header by an extension, writes the path and answers with a redirect. -/
def moving (mode : Mode) : Engine :=
  ⟨⟨⟨"root", false, [⟨"moved", false, false,
      some (.custom ⟨"always", fun _ scratch => (true, scratch)⟩ false),
      some (.sequence [
        .custom ⟨"tag", fun request scratch => (.proceed, request.replace (.header "x-tag") "on", scratch)⟩,
        .replace .path (.literal "/new"),
        .redirect (.make none .permanent)])⟩]⟩, []⟩,
    ⟨mode, "/www", .record, fun _ => .ok .file⟩⟩

theorem modes_agree_moving :
    (moving .both).rules = (moving .trace).rules ∧ (moving .both).env.SameSite (moving .trace).env ∧
      (moving .both).rules.root.Obeys .queueBlind ∧
      ((moving .both).process (.ofUrl "/old")).notes = ((moving .trace).process (.ofUrl "/old")).notes ∧
      ((moving .trace).process (.ofUrl "/old")).verdict.newUrl = "/new" := by
  have hsite : (moving .both).env.SameSite (moving .trace).env := ⟨rfl, rfl⟩
  have hblind : (moving .both).rules.root.Obeys .queueBlind := by
    simp only [moving, RuleList.Obeys, Rule.AllObey, Rule.obeys_iff, Option.some.injEq, forall_eq', Condition.Obeys,
      Action.Obeys, Action.AllObey, and_true]
    exact ⟨fun _ _ _ => rfl, fun _ _ _ => rfl⟩
  have h := modes_agree (moving .both) (moving .trace) (.ofUrl "/old") rfl hsite hblind
  refine ⟨rfl, hsite, hblind, h.2.2.2.2.1 (by decide) (by decide) rfl, ?_⟩
  rw [← congrArg Verdict.newUrl h.2.1]
  decide

end Engine

end Reroute
