import Reroute.Proofs.Rule.Stages
import Reroute.Proofs.Rule.Transcript

/-!
# Walks and their transcripts

The events of a walk are a transcript of it, with the results and flags that the walk reports, as long as extensions
leave the flags of the rule alone (`RuleList.walk_transcribed`).  The induction goes over the rules; it carries along
that nothing but the end of a rule sets its flags.
-/

namespace Reroute

/-! ### What is recorded -/

/-- Surroundings in which every event is recorded. -/
def Env.Records (env : Env) : Prop := env.mode.traces = true ∧ env.sink = .record

@[simp] theorem Note.events_append (front back : List Note) : events (front ++ back) = events front ++ events back :=
  List.filterMap_append

private theorem Env.Records.events_report {env : Env} (h : env.Records) (event : Event) :
    Note.events (env.report event) = [event] := by
  simp [Env.report, h.1, h.2, Note.events]

namespace Note

/-- The recorded events of a kind. -/
def select (kind : Event → Bool) (notes : List Note) : List Event := (events notes).filter kind

variable {kind : Event → Bool}

theorem select_append (front back : List Note) :
    select kind (front ++ back) = select kind front ++ select kind back := by
  rw [select, events_append, List.filter_append]
  rfl

theorem select_of_events {notes : List Note} (h : events notes = []) : select kind notes = [] := by
  rw [select, h]
  rfl

/-- Reporting an event of another kind. -/
theorem select_report_other (kind : Event → Bool) (env : Env) (event : Event) (h : kind event = false) :
    select kind (env.report event) = [] := by
  unfold Env.report
  cases env.mode.traces with
  | false => rfl
  | true => cases env.sink <;> simp [select, events, h]

theorem select_report {env : Env} (henv : env.Records) {event : Event} (h : kind event = true) :
    select kind (env.report event) = [event] := by
  rw [select, henv.events_report, List.filter_cons_of_pos h, List.filter_nil]

end Note

/-- Looking up a file records no event. -/
theorem FileMatch.events_test (m : FileMatch) (env : Env) (request : Request) (scratch : Scratch) :
    Note.events (m.test env request scratch).2 = [] := by
  simp only [test]
  split <;> rfl

/-! ### Flags that extensions leave alone -/

/-- The flags of a scratch that the end of its rule says. -/
def Scratch.report (scratch : Scratch) : RuleReport := ⟨scratch.matched, scratch.stop, scratch.endRequest⟩

private theorem Scratch.report_eq_iff {scratch : Scratch} {report : RuleReport} :
    scratch.report = report ↔ scratch.matched = report.matched ∧ scratch.stop = report.stop ∧
      scratch.endRequest = report.endRequest := by
  cases report
  simp [report]

/-- The scratch of a rule that asked for nothing yet and now matches. -/
private theorem Scratch.report_match {scratch : Scratch} (h : scratch.report = ⟨false, false, false⟩) :
    Scratch.report { scratch with matched := true } = ⟨true, false, false⟩ := by
  obtain ⟨-, hstop, hend⟩ := report_eq_iff.mp h
  exact report_eq_iff.mpr ⟨rfl, hstop, hend⟩

private theorem Scratch.report_finish {scratch : Scratch} (h : scratch.report = ⟨true, false, false⟩)
    (outcome : Outcome) (stop dynamic : Bool) :
    (scratch.finish outcome stop dynamic).report = ⟨true, outcome.stop || stop, outcome.endRequest⟩ := by
  obtain ⟨hmatched, hstop, hend⟩ := report_eq_iff.mp h
  simp [report, finish, absorb, hmatched, hstop, hend]

/-- Extensions that set no flag of the rule; an action of the host may still ask for anything by its outcome. -/
def ExtensionLaw.flagless : ExtensionLaw where
  condition c := ∀ request scratch, (c.test request scratch).2.report = scratch.report
  action a := ∀ request scratch, (a.perform request scratch).2.2.report = scratch.report

/-! ### Conditions -/

namespace Condition

private theorem events_reportResult {env : Env} (henv : env.Records) (condition : Condition) (holds : Bool)
    (scratch : Scratch) {notes : List Note} (hnotes : Note.events notes = []) :
    Note.events (reportResult env condition holds scratch notes).notes =
      (EventBlock.ofCondition condition.describe holds).events := by
  simp [reportResult, hnotes, henv.events_report, EventBlock.ofCondition, EventBlock.events]

/-- A single condition records its result. -/
private theorem recorded_test_single {env : Env} (henv : env.Records) (request : Request) {condition : Condition}
    (h : condition.IsSingle) (scratch : Scratch) :
    ∃ block, condition.Recorded (condition.test env request scratch).holds block ∧
      Note.events (condition.test env request scratch).notes = block.events := by
  refine ⟨_, .single _ h, ?_⟩
  cases condition with
  | text m => exact events_reportResult henv _ _ _ rfl
  | number m => exact events_reportResult henv _ _ _ rfl
  | file m => exact events_reportResult henv _ _ _ (m.events_test env request scratch)
  | custom condition negate => exact events_reportResult henv _ _ _ rfl
  | list logic track items => exact h.elim

mutual

/-- What a test records is a block for its condition and result. -/
private theorem recorded_test {env : Env} (henv : env.Records) (request : Request) :
    ∀ (condition : Condition) (scratch : Scratch),
      ∃ block, condition.Recorded (condition.test env request scratch).holds block ∧
        Note.events (condition.test env request scratch).notes = block.events
  | .list logic track items, scratch => by
    obtain ⟨done, left, results, blocks, hitems, hdone, hupTo, hevents, hmet⟩ :=
      recorded_meets henv request logic.decisive items (scratch.pushTracking track)
    have hholds : ((Condition.list logic track items).test env request scratch).holds = logic.table results := by
      rw [Logic.table_eq_conclude, ← hmet]
      rfl
    refine ⟨.ofConditions logic blocks (logic.table results), ?_, ?_⟩
    · rw [hholds, hitems]
      exact .list hdone hupTo
    · rw [← hholds]
      simp [test, henv.events_report, hevents, EventBlock.ofConditions, EventBlock.events]
  | .text _, scratch | .number _, scratch | .file _, scratch | .custom _ _, scratch =>
    recorded_test_single henv request (by trivial) scratch

/-- What tests up to a result record are blocks for the conditions up to there. -/
private theorem recorded_meets {env : Env} (henv : env.Records) (request : Request) (stop : Bool) :
    ∀ (conditions : List Condition) (scratch : Scratch),
      ∃ done left results blocks, conditions = done ++ left ∧ AllRecorded done results blocks ∧
        UpTo (· = stop) results left ∧
        Note.events (meets env request stop conditions scratch).notes = EventBlock.eventsOf blocks ∧
        (meets env request stop conditions scratch).holds = results.any (· == stop)
  | [], _ => ⟨[], [], [], [], rfl, .nil, .nil, rfl, rfl⟩
  | condition :: conditions, scratch => by
    obtain ⟨block, hfirst, hevents⟩ := recorded_test henv request condition scratch
    simp only [meets]
    split
    · rename_i hstop
      refine ⟨[condition], conditions, [stop], [block], rfl, .cons (hstop ▸ hfirst) .nil, .stop rfl, ?_, by simp⟩
      rw [hevents, EventBlock.eventsOf_singleton]
    · rename_i hstop
      obtain ⟨done, left, results, blocks, rfl, hdone, hupTo, hrest, hmet⟩ :=
        recorded_meets henv request stop conditions (condition.test env request scratch).scratch
      refine ⟨condition :: done, left, _ :: results, block :: blocks, rfl, .cons hfirst hdone, hupTo.cons hstop, ?_, ?_⟩
      · simp [hevents, hrest, EventBlock.eventsOf]
      · simp [hmet, hstop]

end

private theorem recorded_testIfAny {env : Env} (henv : env.Records) (request : Request) (condition : Option Condition)
    (scratch : Scratch) :
    ∃ blocks, RecordedIfAny condition (testIfAny env request condition scratch).holds blocks ∧
      Note.events (testIfAny env request condition scratch).notes = EventBlock.eventsOf blocks := by
  cases condition with
  | none => exact ⟨[], .none, rfl⟩
  | some condition =>
    obtain ⟨block, hblock, hevents⟩ := recorded_test henv request condition scratch
    exact ⟨[block], .some hblock, hevents.trans (EventBlock.eventsOf_singleton block).symm⟩

/-- A test leaves the flags of its rule. -/
private theorem report_test (env : Env) (request : Request) (condition : Condition) (scratch : Scratch)
    (h : condition.Obeys ExtensionLaw.flagless.condition) :
    (condition.test env request scratch).scratch.report = scratch.report :=
  flags_test (fun flags => (⟨flags.matched, flags.stopped, flags.endRequest⟩ : RuleReport)) env request condition
    scratch h

private theorem report_testIfAny (env : Env) (request : Request) (condition : Option Condition) (scratch : Scratch)
    (h : ∀ c, condition = some c → c.Obeys ExtensionLaw.flagless.condition) :
    (testIfAny env request condition scratch).scratch.report = scratch.report := by
  cases condition with
  | none => rfl
  | some condition => exact report_test env request condition scratch (h condition rfl)

end Condition

/-! ### Actions and rules -/

namespace Action

theorem notes_perform_leaf (env : Env) {action : Action} (h : action.IsLeaf) (request : Request) (scratch : Scratch) :
    let performed := action.perform env request scratch
    performed.notes = env.report (.action action.describe performed.outcome.stop performed.outcome.endRequest) := by
  cases action with
  | sequence steps => exact h.elim
  | rules list => exact h.elim
  | _ => rfl

private theorem report_perform_leaf (env : Env) {action : Action} (h : action.IsLeaf) (hlaw : action.Obeys .flagless)
    (request : Request) (scratch : Scratch) : (action.perform env request scratch).scratch.report = scratch.report := by
  cases action with
  | sequence steps => exact h.elim
  | rules list => exact h.elim
  | custom action => exact hlaw request scratch
  | _ => rfl

/-- A single action records its outcome. -/
private theorem recorded_perform_leaf {env : Env} (henv : env.Records) {action : Action} (h : action.IsLeaf)
    (hlaw : action.Obeys .flagless) (request : Request) (scratch : Scratch) :
    let performed := action.perform env request scratch
    ∃ blocks, action.Recorded performed.outcome blocks ∧ Note.events performed.notes = EventBlock.eventsOf blocks ∧
      performed.scratch.report = scratch.report := by
  intro performed
  refine ⟨_, .single performed.outcome h, ?_, report_perform_leaf env h hlaw request scratch⟩
  rw [notes_perform_leaf env h, henv.events_report, EventBlock.eventsOf_singleton]
  rfl

end Action

/-- A rule that did not match asks for nothing. -/
private theorem Rule.Recorded.report_of_missed {rule : Rule} {report : RuleReport} {block : EventBlock}
    (h : rule.Recorded report block) (hmatched : report.matched = false) : report = ⟨false, false, false⟩ := by
  cases h with
  | missed htested => rfl
  | matched htested hperformed => simp at hmatched

private theorem WalkFlags.stopped_add {flags : WalkFlags} (hflags : flags.stopped = false) (scratch : Scratch) :
    (flags.add scratch).stopped = true ↔ scratch.report.Stops := by
  cases hmatched : scratch.matched <;> simp [add, RuleReport.Stops, Scratch.report, hmatched, hflags]

private theorem WalkFlags.matched_add (flags : WalkFlags) (scratch : Scratch) :
    (flags.add scratch).matched = (flags.matched || scratch.report.matched) := by
  cases hmatched : scratch.matched <;> simp [add, Scratch.report, hmatched]

private theorem WalkFlags.endRequest_add (flags : WalkFlags) {scratch : Scratch}
    (h : scratch.report.matched = false → scratch.report = ⟨false, false, false⟩) :
    (flags.add scratch).endRequest = (flags.endRequest || scratch.report.endRequest) := by
  cases hmatched : scratch.matched with
  | true => simp [add, Scratch.report, hmatched]
  | false =>
    rw [h hmatched]
    simp [add, hmatched]

mutual

/-- What an action records are blocks for it and its outcome. -/
private theorem Action.recorded_perform {env : Env} (henv : env.Records) :
    ∀ (action : Action) (request : Request) (scratch : Scratch), action.Obeys .flagless →
      let performed := action.perform env request scratch
      ∃ blocks, action.Recorded performed.outcome blocks ∧ Note.events performed.notes = EventBlock.eventsOf blocks ∧
        performed.scratch.report = scratch.report
  | .sequence steps, request, scratch, h => by
    obtain ⟨done, left, outcomes, blocks, hsteps, hdone, hupTo, hevents, houtcome, hreport⟩ :=
      Action.recorded_performAll henv steps request scratch h
    refine ⟨blocks, ?_, hevents, hreport⟩
    simp only [Action.perform]
    rw [houtcome, hsteps]
    exact .sequence hdone hupTo
  | .rules list, request, scratch, h => by
    obtain ⟨block, hblock, hevents⟩ := RuleList.recorded_walk henv (some scratch.bag) list request h
    exact ⟨[block], .rules hblock, hevents.trans (EventBlock.eventsOf_singleton block).symm, rfl⟩
  | .replace .., request, scratch, h | .append .., request, scratch, h | .insert .., request, scratch, h
  | .delete _, request, scratch, h | .keep _, request, scratch, h | .normalize .., request, scratch, h
  | .truncate _, request, scratch, h | .redirect _, request, scratch, h | .respond _, request, scratch, h
  | .abort, request, scratch, h | .doNothing _, request, scratch, h | .custom _, request, scratch, h =>
    Action.recorded_perform_leaf henv (by trivial) h request scratch

/-- What actions in a row record are blocks for the actions up to the first that stops. -/
private theorem Action.recorded_performAll {env : Env} (henv : env.Records) :
    ∀ (actions : List Action) (request : Request) (scratch : Scratch), Action.AllObey .flagless actions →
      let performed := Action.performAll env actions request scratch
      ∃ done left outcomes blocks, actions = done ++ left ∧ Action.AllRecorded done outcomes blocks ∧
        UpTo (·.stop = true) outcomes left ∧ Note.events performed.notes = EventBlock.eventsOf blocks ∧
        performed.outcome = ⟨outcomes.any (·.stop), outcomes.any (·.endRequest)⟩ ∧
        performed.scratch.report = scratch.report
  | [], _, _, _ => ⟨[], [], [], [], rfl, .nil, .nil, rfl, rfl, rfl⟩
  | action :: actions, request, scratch, h => by
    obtain ⟨blocks, hfirst, hevents, hreport⟩ := Action.recorded_perform henv action request scratch h.1
    simp only [Action.performAll]
    generalize action.perform env request scratch = first at *
    split
    · rename_i hstop
      refine ⟨[action], actions, [first.outcome], blocks ++ [], rfl, .cons hfirst .nil, .stop hstop, ?_, ?_, hreport⟩
      · rw [List.append_nil, hevents]
      · simp [hstop]
    · rename_i hstop
      obtain ⟨done, left, outcomes, more, rfl, hdone, hupTo, hrest, houtcome, hreport'⟩ :=
        Action.recorded_performAll henv actions first.request first.scratch h.2
      refine ⟨action :: done, left, first.outcome :: outcomes, blocks ++ more, rfl, .cons hfirst hdone,
        hupTo.cons hstop, ?_, ?_, hreport'.trans hreport⟩
      · rw [Note.events_append, hevents, hrest, EventBlock.eventsOf_append]
      · simp [houtcome, hstop]

/-- What a rule records is a block for it and its report. -/
private theorem Rule.recorded_evaluate {env : Env} (henv : env.Records) (outer : Option Bag) :
    ∀ (rule : Rule) (request : Request), rule.Obeys .flagless →
      let evaluated := rule.evaluate env outer request
      ∃ block, rule.Recorded evaluated.scratch.report block ∧ Note.events evaluated.notes = block.events
  | ⟨name, stop, dynamic, condition, action⟩, request, h => by
    obtain ⟨hcondition, haction⟩ := Rule.obeys_iff.1 h
    obtain ⟨tested, htested, hevents⟩ := Condition.recorded_testIfAny henv request condition (.within outer)
    have hreport : (Condition.testIfAny env request condition (.within outer)).scratch.report = ⟨false, false, false⟩ :=
      Condition.report_testIfAny env request condition (.within outer) hcondition
    have hperform : ∀ scratch, let performed := Action.performIfAny env action request scratch
        ∃ blocks, Action.RecordedIfAny action performed.outcome blocks ∧
          Note.events performed.notes = EventBlock.eventsOf blocks ∧ performed.scratch.report = scratch.report := by
      intro scratch
      cases action with
      | none => exact ⟨[], .none, rfl, rfl⟩
      | some action =>
        obtain ⟨blocks, hblocks, hrest⟩ := Action.recorded_perform henv action request scratch (haction action rfl)
        exact ⟨blocks, .some hblocks, hrest⟩
    simp only [Rule.evaluate_eq, Rule.fire]
    generalize Condition.testIfAny env request condition (.within outer) = test at *
    by_cases hholds : test.holds = true
    · obtain ⟨performed, hperformed, hevents', hreport'⟩ := hperform { test.scratch with matched := true }
      simp only [hholds, if_true] at htested ⊢
      generalize Action.performIfAny env action request { test.scratch with matched := true } = fired at *
      have hfinish := Scratch.report_finish (hreport'.trans (Scratch.report_match hreport)) fired.outcome stop dynamic
      rw [hfinish]
      refine ⟨_, .matched htested hperformed, ?_⟩
      simp [henv.events_report, hevents, hevents', Scratch.report_eq_iff.mp hfinish, EventBlock.ofRule,
        EventBlock.events, EventBlock.eventsOf_append]
    · simp only [Bool.not_eq_true] at hholds
      simp only [hholds] at htested
      simp only [hholds, Bool.false_eq_true, if_false, hreport]
      refine ⟨_, .missed htested, ?_⟩
      simp [henv.events_report, hevents, Scratch.report_eq_iff.mp hreport, EventBlock.ofRule, EventBlock.events]

/-- What rules in order record are blocks for the rules up to the first that matches and stops. -/
private theorem Rule.recorded_evaluateAll {env : Env} (henv : env.Records) (outer : Option Bag) :
    ∀ (rules : List Rule) (flags : WalkFlags) (request : Request), Rule.AllObey .flagless rules →
      flags.stopped = false →
      let walked := Rule.evaluateAll env outer rules flags request
      ∃ done left reports blocks, rules = done ++ left ∧ Rule.AllRecorded done reports blocks ∧
        UpTo RuleReport.Stops reports left ∧ Note.events walked.notes = EventBlock.eventsOf blocks ∧
        walked.flags.matched = (flags.matched || reports.any (·.matched)) ∧
        walked.flags.endRequest = (flags.endRequest || reports.any (·.endRequest))
  | [], flags, _, _, _ => ⟨[], [], [], [], rfl, .nil, .nil, rfl, by simp [Rule.evaluateAll], by simp [Rule.evaluateAll]⟩
  | rule :: rules, flags, request, h, hflags => by
    obtain ⟨block, hfirst, hevents⟩ := Rule.recorded_evaluate henv outer rule request h.1
    have hmissed := hfirst.report_of_missed
    have hstops := WalkFlags.stopped_add hflags (rule.evaluate env outer request).scratch
    have hmatched := flags.matched_add (rule.evaluate env outer request).scratch
    have hend := flags.endRequest_add hmissed
    simp only [Rule.evaluateAll]
    split
    · rename_i hstopped
      refine ⟨[rule], rules, [_], [block], rfl, .cons hfirst .nil, .stop (hstops.mp hstopped), ?_, ?_, ?_⟩
      · rw [hevents, EventBlock.eventsOf_singleton]
      · simpa using hmatched
      · simpa using hend
    · rename_i hstopped
      obtain ⟨done, left, reports, blocks, rfl, hdone, hupTo, hrest, hmatched', hend'⟩ :=
        Rule.recorded_evaluateAll henv outer rules _ (rule.evaluate env outer request).request h.2
          (Bool.eq_false_iff.mpr hstopped)
      refine ⟨rule :: done, left, _ :: reports, block :: blocks, rfl, .cons hfirst hdone,
        hupTo.cons (mt hstops.mpr hstopped), ?_, ?_, ?_⟩
      · simp [hevents, hrest, EventBlock.eventsOf]
      · simp [hmatched', hmatched, Bool.or_assoc]
      · simp [hend', hend, Bool.or_assoc]

/-- What a walk records is a block for its rule list and flags. -/
private theorem RuleList.recorded_walk {env : Env} (henv : env.Records) (outer : Option Bag) :
    ∀ (list : RuleList) (request : Request), list.Obeys .flagless →
      let walked := list.walk env outer request
      ∃ block, list.Recorded walked.flags.matched walked.flags.endRequest block ∧
        Note.events walked.notes = block.events
  | ⟨name, stop, rules⟩, request, h => by
    obtain ⟨done, left, reports, blocks, hrules, hdone, hupTo, hevents, hmatched, hend⟩ :=
      Rule.recorded_evaluateAll henv outer rules .none request h rfl
    rw [show WalkFlags.none.matched = false from rfl, Bool.false_or] at hmatched
    rw [show WalkFlags.none.endRequest = false from rfl, Bool.false_or] at hend
    simp only [RuleList.walk, hmatched, hend]
    rw [hrules]
    refine ⟨_, .walk hdone hupTo, ?_⟩
    simp [← hrules, henv.events_report, hevents, EventBlock.ofRules, EventBlock.events]

end

/-! ### Every walk -/

/-- The events of a walk are a transcript of it with the flags that the walk reports, and they are written as lines
that are indented by as much as the transcript is nested; no depth is held back at zero. -/
theorem RuleList.walk_transcribed {env : Env} (henv : env.Records) (outer : Option Bag) (list : RuleList)
    (request : Request) (hlaw : list.Obeys .flagless) :
    let walked := list.walk env outer request
    let events := Note.events walked.notes
    ∃ block, list.Recorded walked.flags.matched walked.flags.endRequest block ∧ events = block.events ∧
      (∀ line, Event.render line events =
        String.join ((block.levels 0).map fun level => Event.indent level.1 ++ line level.2 ++ "\n")) ∧
      (Event.placed 0 events).map Event.signed = Event.unclamped 0 events := by
  intro walked events
  obtain ⟨block, hblock, hevents⟩ := RuleList.recorded_walk henv outer list request hlaw
  have hplaced : Event.placed 0 events = block.levels 0 := by
    rw [show events = block.events from hevents, block.placed_events]
  refine ⟨block, hblock, hevents, ?_, ?_⟩
  · intro line
    rw [Event.render, hplaced]
  · rw [hplaced, show events = block.events from hevents]
    exact (block.unclamped_events 0).symm

/-- Rules of which the first runs a list that is stopped in the middle and stops the walk itself. -/
def stoppedInside : RuleList :=
  let isOne (n : Int) : Condition := .number ⟨.literal "1", .equals, n, 0, false⟩
  ⟨"outer", false, [
    ⟨"missed", true, false, some (isOne 2), some .abort⟩,
    ⟨"matched", false, false, some (.list .matchNotAny false [isOne 1, isOne 2, isOne 3]),
      some (.sequence [
        .custom ⟨"tag", fun request scratch => (.proceed, request, scratch)⟩,
        .rules ⟨"inner", true, [⟨"ending", false, false, none, some .abort⟩, ⟨"unseen", false, false, none, none⟩]⟩,
        .abort])⟩,
    ⟨"unseen", false, false, none, none⟩]⟩

theorem walk_transcribed_stoppedInside :
    let env : Env := ⟨.both, "/www", .record, fun _ => .ok .file⟩
    env.Records ∧ stoppedInside.Obeys .flagless ∧
      ∃ block, stoppedInside.Recorded true true block ∧
        (block.levels 0).map (·.1) = [0, 1, 2, 1, 1, 2, 3, 3, 2, 2, 2, 3, 4, 3, 2, 1, 0] := by
  intro env
  have henv : env.Records := ⟨rfl, rfl⟩
  have hlaw : stoppedInside.Obeys .flagless := by
    simp only [stoppedInside, RuleList.Obeys, Rule.AllObey, Rule.Obeys, Condition.Obeys, Condition.AllObey,
      Action.Obeys, Action.AllObey, and_true, true_and]
    exact fun _ _ => rfl
  obtain ⟨block, hblock, hevents, -⟩ := RuleList.walk_transcribed henv none stoppedInside (.ofUrl "/") hlaw
  have hflags : (stoppedInside.walk env none (.ofUrl "/")).flags = ⟨true, true, true, false⟩ := by decide +kernel
  rw [hflags] at hblock
  refine ⟨henv, hlaw, block, hblock, ?_⟩
  rw [← block.placed_events, ← hevents]
  decide +kernel

end Reroute
