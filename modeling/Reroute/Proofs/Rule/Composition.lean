import Reroute.Proofs.Rule.Law
import Reroute.Proofs.Rule.Sequence

/-!
# Walks in parts

A walk over rules in a row is the walk over the first of them and, unless one of these stops it, the walk over the
others on the request that is left (`Rule.walkAll_append`).  Nothing else is handed on: a rule begins with the
properties of the enclosing rule only.  A list that a rule runs as its action asks for a stop by its own flag.
-/

namespace Reroute

/-! ### Flags -/

/-- What is reported by one part or another. -/
def WalkFlags.or (a b : WalkFlags) : WalkFlags :=
  ⟨a.matched || b.matched, a.stopped || b.stopped, a.endRequest || b.endRequest, a.dynamic || b.dynamic⟩

namespace WalkFlags

theorem or_assoc (a b c : WalkFlags) : (a.or b).or c = a.or (b.or c) := by
  simp [or, Bool.or_assoc]

@[simp] theorem none_or (flags : WalkFlags) : none.or flags = flags := by
  simp [or, none]

@[simp] theorem or_none (flags : WalkFlags) : flags.or none = flags := by
  simp [or, none]

@[simp] theorem stopped_or (a b : WalkFlags) : (a.or b).stopped = (a.stopped || b.stopped) := rfl

/-- A rule that is not marked as matched adds nothing. -/
theorem add_of_not_matched (flags : WalkFlags) {scratch : Scratch} (h : scratch.matched = false) :
    flags.add scratch = flags := by
  simp [add, h]

theorem add_of_matched (flags : WalkFlags) {scratch : Scratch} (h : scratch.matched = true) :
    flags.add scratch = flags.or scratch.flags := by
  simp [add, or, Scratch.flags, h]

private theorem add_eq_or (flags : WalkFlags) (scratch : Scratch) :
    flags.add scratch = flags.or (none.add scratch) := by
  cases h : scratch.matched with
  | false => rw [add_of_not_matched _ h, add_of_not_matched _ h, or_none]
  | true => rw [add_of_matched _ h, add_of_matched _ h, none_or]

private theorem stopped_none_add (scratch : Scratch) :
    (none.add scratch).stopped = (scratch.matched && scratch.stop) := by
  cases h : scratch.matched with
  | false => rw [add_of_not_matched _ h]; rfl
  | true => rw [add_of_matched _ h]; rfl

end WalkFlags

/-! ### Walks in a row -/

namespace Walked

/-- Goes on where no rule has stopped the walk. -/
def andThen (first : Walked) (rest : Request → Walked) : Walked :=
  if first.flags.stopped then first
  else
    let later := rest first.request
    ⟨first.flags.or later.flags, later.request, first.notes ++ later.notes⟩

theorem andThen_of_stopped {first : Walked} (h : first.flags.stopped = true) (rest : Request → Walked) :
    first.andThen rest = first := by
  rw [andThen, if_pos h]

theorem andThen_of_not_stopped {first : Walked} (h : first.flags.stopped = false) (rest : Request → Walked) :
    first.andThen rest = ⟨first.flags.or (rest first.request).flags, (rest first.request).request,
      first.notes ++ (rest first.request).notes⟩ := by
  rw [andThen, if_neg (by rw [h]; exact Bool.false_ne_true)]

private theorem andThen_assoc (first : Walked) (second third : Request → Walked) :
    (first.andThen second).andThen third = first.andThen fun request => (second request).andThen third := by
  cases hfirst : first.flags.stopped with
  | true => simp only [andThen_of_stopped hfirst]
  | false =>
    cases hsecond : (second first.request).flags.stopped with
    | true =>
      have hboth : (first.andThen second).flags.stopped = true := by
        simp [andThen_of_not_stopped hfirst, hsecond]
      rw [andThen_of_stopped hboth, andThen_of_not_stopped hfirst, andThen_of_not_stopped hfirst,
        andThen_of_stopped hsecond]
    | false =>
      have hboth : (first.andThen second).flags.stopped = false := by
        simp [andThen_of_not_stopped hfirst, hfirst, hsecond]
      rw [andThen_of_not_stopped hboth, andThen_of_not_stopped hfirst, andThen_of_not_stopped hfirst,
        andThen_of_not_stopped hsecond, WalkFlags.or_assoc, List.append_assoc]

/-- What stops one of two walks in a row stops both. -/
private theorem stopped_andThen (first : Walked) (rest : Request → Walked) :
    (first.andThen rest).flags.stopped = (first.flags.stopped || (rest first.request).flags.stopped) := by
  cases h : first.flags.stopped with
  | true => rw [andThen_of_stopped h, h, Bool.true_or]
  | false => rw [andThen_of_not_stopped h, WalkFlags.stopped_or, h]

/-- The walk over a list from what the walk over its rules leaves. -/
def enclosed (env : Env) (name : String) (walked : Walked) : Walked :=
  { walked with
    notes := env.report (.ruleListBegin name) ++ walked.notes
      ++ env.report (.ruleListEnd name walked.flags.matched walked.flags.endRequest) }

end Walked

namespace Rule

variable (env : Env) (outer : Option Bag)

/-- The walk over a single rule. -/
def walk (rule : Rule) (request : Request) : Walked :=
  let evaluated := rule.evaluate env outer request
  ⟨WalkFlags.none.add evaluated.scratch, evaluated.request, evaluated.notes⟩

/-- The walk over rules with nothing before it. -/
def walkAll (rules : List Rule) (request : Request) : Walked := evaluateAll env outer rules .none request

private theorem evaluateAll_eq (rules : List Rule) {flags : WalkFlags} (hflags : flags.stopped = false)
    (request : Request) :
    evaluateAll env outer rules flags request =
      { walkAll env outer rules request with flags := flags.or (walkAll env outer rules request).flags } := by
  induction rules generalizing flags request with
  | nil => simp [walkAll, evaluateAll]
  | cons rule rules ih =>
    have hadd := flags.add_eq_or (rule.evaluate env outer request).scratch
    simp only [walkAll, evaluateAll]
    generalize hfirst : WalkFlags.none.add (rule.evaluate env outer request).scratch = first at *
    have hstopped : (flags.add (rule.evaluate env outer request).scratch).stopped = first.stopped := by
      rw [hadd, WalkFlags.stopped_or, hflags, Bool.false_or]
    rw [hstopped]
    cases hgoes : first.stopped with
    | true => simp [hadd]
    | false =>
      -- both walks go on with flags of their own; what the others add is the same
      rw [ih (hstopped.trans hgoes), ih hgoes, hadd]
      simp [WalkFlags.or_assoc]

private theorem walkAll_nil (request : Request) : walkAll env outer [] request = ⟨.none, request, []⟩ := rfl

theorem walkAll_cons (rule : Rule) (rules : List Rule) (request : Request) :
    walkAll env outer (rule :: rules) request = (rule.walk env outer request).andThen (walkAll env outer rules) := by
  rw [walkAll, evaluateAll]
  cases hstopped : (WalkFlags.none.add (rule.evaluate env outer request).scratch).stopped with
  | true =>
    rw [Walked.andThen_of_stopped (by exact hstopped)]
    rfl
  | false =>
    rw [Walked.andThen_of_not_stopped (by exact hstopped), evaluateAll_eq env outer rules hstopped]
    rfl

theorem walkAll_append (front back : List Rule) (request : Request) :
    walkAll env outer (front ++ back) request =
      (walkAll env outer front request).andThen (walkAll env outer back) := by
  induction front generalizing request with
  | nil => rw [List.nil_append, walkAll_nil, Walked.andThen_of_not_stopped rfl, WalkFlags.none_or, List.nil_append]
  | cons rule rules ih =>
    rw [List.cons_append, walkAll_cons, walkAll_cons, Walked.andThen_assoc]
    congr 1
    funext request
    exact ih request

private theorem walkAll_singleton (rule : Rule) (request : Request) :
    walkAll env outer [rule] request = rule.walk env outer request := by
  rw [walkAll_cons]
  cases hstopped : (rule.walk env outer request).flags.stopped with
  | true => exact Walked.andThen_of_stopped hstopped _
  | false => simp [Walked.andThen_of_not_stopped hstopped, walkAll_nil]

/-- A stopped walk has a first rule that matched and stops, and comes to none behind it. -/
private theorem exists_stopping_of_stopped {rules : List Rule} {request : Request}
    (h : (walkAll env outer rules request).flags.stopped = true) :
    ∃ front rule behind, rules = front ++ rule :: behind ∧ (walkAll env outer front request).flags.stopped = false ∧
      (rule.walk env outer (walkAll env outer front request).request).flags.stopped = true := by
  induction rules generalizing request with
  | nil => exact absurd h Bool.false_ne_true
  | cons rule rules ih =>
    cases hfirst : (rule.walk env outer request).flags.stopped with
    | true => exact ⟨[], rule, rules, rfl, rfl, hfirst⟩
    | false =>
      rw [walkAll_cons, Walked.stopped_andThen, hfirst, Bool.false_or] at h
      obtain ⟨front, last, behind, rfl, hfront, hlast⟩ := ih h
      have hwalk : walkAll env outer (rule :: front) request =
          (rule.walk env outer request).andThen (walkAll env outer front) := walkAll_cons env outer rule front request
      refine ⟨rule :: front, last, behind, rfl, ?_, ?_⟩
      · rw [hwalk, Walked.stopped_andThen, hfirst, hfront, Bool.or_false]
      · rw [hwalk, Walked.andThen_of_not_stopped hfirst]
        exact hlast

/-- What stands behind a rule that stops is not looked at. -/
private theorem walkAll_append_of_stopping {front : List Rule} {rule : Rule} {request : Request}
    (hrule : (rule.walk env outer (walkAll env outer front request).request).flags.stopped = true)
    (others : List Rule) :
    walkAll env outer (front ++ rule :: others) request = walkAll env outer (front ++ [rule]) request := by
  rw [walkAll_append, walkAll_append]
  cases hfront : (walkAll env outer front request).flags.stopped with
  | true => rw [Walked.andThen_of_stopped hfront, Walked.andThen_of_stopped hfront]
  | false =>
    rw [Walked.andThen_of_not_stopped hfront, Walked.andThen_of_not_stopped hfront, walkAll_singleton, walkAll_cons,
      Walked.andThen_of_stopped hrule]

/-- A walk goes on with the others in the same way from whatever rules have left a request. -/
private theorem walkAll_append_of_not_stopped {front : List Rule} {request : Request}
    (h : (walkAll env outer front request).flags.stopped = false) (back : List Rule) :
    let first := walkAll env outer front request
    let later := walkAll env outer back first.request
    walkAll env outer (front ++ back) request =
      ⟨first.flags.or later.flags, later.request, first.notes ++ later.notes⟩ := by
  intro first later
  rw [walkAll_append, Walked.andThen_of_not_stopped h]

/-! ### Rules that miss -/

/-- A rule whose condition does not hold, and that no condition of the host marks as matched. -/
private theorem walk_of_missed {rule : Rule} {request : Request}
    (hfalse : (Condition.testIfAny env request rule.condition (.within outer)).holds = false)
    (hmark : (Condition.testIfAny env request rule.condition (.within outer)).scratch.matched = false) :
    (rule.walk env outer request).flags = .none ∧ (rule.walk env outer request).request = request := by
  have hfire : rule.fire env request (Condition.testIfAny env request rule.condition (.within outer)) =
      ⟨.proceed, request, (Condition.testIfAny env request rule.condition (.within outer)).scratch, []⟩ := by
    rw [fire, if_neg (by rw [hfalse]; exact Bool.false_ne_true)]
  simp only [walk, evaluate_eq, hfire, and_true]
  exact WalkFlags.add_of_not_matched _ hmark

/-- A rule that misses where it stands changes neither what a walk reports nor the request. -/
private theorem walkAll_insert_of_missed (front back : List Rule) {rule : Rule} {request : Request}
    (hfalse : (Condition.testIfAny env (walkAll env outer front request).request rule.condition
      (.within outer)).holds = false)
    (hmark : (Condition.testIfAny env (walkAll env outer front request).request rule.condition
      (.within outer)).scratch.matched = false) :
    (walkAll env outer (front ++ rule :: back) request).flags = (walkAll env outer (front ++ back) request).flags ∧
      (walkAll env outer (front ++ rule :: back) request).request =
        (walkAll env outer (front ++ back) request).request := by
  obtain ⟨hflags, hrequest⟩ := walk_of_missed env outer hfalse hmark
  rw [walkAll_append, walkAll_append]
  cases hfront : (walkAll env outer front request).flags.stopped with
  | true => simp only [Walked.andThen_of_stopped hfront, and_self]
  | false =>
    have hmissed : (rule.walk env outer (walkAll env outer front request).request).flags.stopped = false := by
      rw [hflags]
      rfl
    rw [Walked.andThen_of_not_stopped hfront, Walked.andThen_of_not_stopped hfront, walkAll_cons,
      Walked.andThen_of_not_stopped hmissed, hflags, hrequest, WalkFlags.none_or]
    exact ⟨rfl, rfl⟩

end Rule

/-! ### Lists run as actions -/

/-- Whether a matched rule goes on: neither what was performed nor an extension asks it to stop. -/
def Performed.GoesOn (performed : Performed) : Prop :=
  performed.outcome.stop = false ∧ performed.scratch.matched = true ∧ performed.scratch.stop = false

namespace Rule

variable (env : Env) (outer : Option Bag)

/-- When a rule that fires stops its walk. -/
private theorem stopped_walk_of_holds {rule : Rule} {action : Action} {request : Request}
    (haction : rule.action = some action)
    (hholds : (Condition.testIfAny env request rule.condition (.within outer)).holds = true) :
    let tested := Condition.testIfAny env request rule.condition (.within outer)
    let performed := action.perform env request { tested.scratch with matched := true }
    (rule.walk env outer request).flags.stopped =
      (performed.scratch.matched && (performed.scratch.stop || performed.outcome.stop || rule.stop)) := by
  intro tested performed
  have hfire : rule.fire env request tested =
      { performed with scratch := performed.scratch.finish performed.outcome rule.stop rule.dynamic } := by
    rw [fire, if_pos hholds, haction]
    rfl
  have hscratch : (rule.evaluate env outer request).scratch =
      performed.scratch.finish performed.outcome rule.stop rule.dynamic := by
    rw [evaluate_eq]
    exact congrArg Performed.scratch hfire
  rw [walk, WalkFlags.stopped_none_add, hscratch]
  rfl

/-- A rule that runs a list, alone or among other actions that let it go on, stops its walk if and only if the list
itself is marked to stop. -/
private theorem stopped_walk_iff_of_list {rule : Rule} {action : Action} {front back : List Action} {list : RuleList}
    {request : Request} (haction : rule.action = some action) (hsteps : action.spliced = front ++ .rules list :: back)
    (hholds : (Condition.testIfAny env request rule.condition (.within outer)).holds = true)
    (hrule : rule.stop = false) :
    let tested := Condition.testIfAny env request rule.condition (.within outer)
    let before := Action.performAll env front request { tested.scratch with matched := true }
    let inside := (Action.rules list).perform env before.request before.scratch
    let behind := Action.performAll env back inside.request inside.scratch
    before.GoesOn → (list.stop = false → behind.GoesOn) →
      ((rule.walk env outer request).flags.stopped = true ↔ list.stop = true) := by
  intro tested before inside behind hbefore hbehind
  obtain ⟨hgo, hmatched, hstop⟩ := hbefore
  have hperform : action.perform env request { tested.scratch with matched := true } =
      before.andThen fun request scratch =>
        ((Action.rules list).perform env request scratch).andThen (Action.performAll env back) := by
    rw [← Action.performAll_spliced, hsteps, Action.performAll_append]
    congr 1
    funext request scratch
    exact Action.performAll_cons env _ back request scratch
  have hlater : before.andThen (fun request scratch =>
        ((Action.rules list).perform env request scratch).andThen (Action.performAll env back)) =
      let later := inside.andThen (Action.performAll env back)
      ⟨⟨later.outcome.stop, before.outcome.endRequest || later.outcome.endRequest⟩, later.request, later.scratch,
        before.notes ++ later.notes⟩ := by
    rw [Performed.andThen, if_neg (by rw [hgo]; exact Bool.false_ne_true)]
  rw [stopped_walk_of_holds env outer haction hholds, hperform, hlater, hrule]
  -- the outcome of the list says its own flag, whatever its rules report
  have hown : inside.outcome.stop = list.stop := rfl
  have hmarks : inside.scratch.matched = true ∧ inside.scratch.stop = false := ⟨hmatched, hstop⟩
  cases hlist : list.stop with
  | true =>
    rw [Performed.andThen, if_pos (hown.trans hlist)]
    simp [hmarks, hown, hlist]
  | false =>
    obtain ⟨hgo', hmatched', hstop'⟩ := hbehind hlist
    rw [Performed.andThen, if_neg (by rw [hown, hlist]; exact Bool.false_ne_true)]
    simp [behind, hgo', hmatched', hstop']

end Rule

/-- The groups that a rule sees at its beginning are those of the enclosing rule. -/
private theorem Scratch.captures?_within (outer : Option Bag) (key : CaptureKey) :
    (within outer).captures? key = outer.bind fun bag => bag.get? Property.groups? key.name := by
  cases outer <;> rfl

/-! ### Every walk -/

/-- A walk over rules `xs` and then `ys`.  Behind `xs` it is the walk over `ys` on the request that is left, if there
is no stop, and all flags are joined.  A stop is that of the first rule that matches and stops, and what stands behind
it is not looked at.  A rule that misses can be put in anywhere; the groups of earlier rules are not seen by later
ones, which are led by the request alone; and a rule that runs a list is stopped by the list's own flag. -/
theorem RuleList.walk_in_parts (env : Env) (outer : Option Bag) (xs ys : List Rule) (request : Request) :
    let walk := Rule.walkAll env outer
    let left := (walk xs request).request
    -- both parts in a row, with nothing around and as the rules of a list
    walk (xs ++ ys) request = (walk xs request).andThen (walk ys) ∧
      (∀ name stop, (⟨name, stop, xs ++ ys⟩ : RuleList).walk env outer request =
        ((walk xs request).andThen (walk ys)).enclosed env name) ∧
      -- no rule behind the first that matches and stops is evaluated, whichever rules these are
      ((walk xs request).flags.stopped = true → ∃ front rule behind, xs = front ++ rule :: behind ∧
        (walk front request).flags.stopped = false ∧
        (rule.evaluate env outer (walk front request).request).scratch.matched = true ∧
        (rule.evaluate env outer (walk front request).request).scratch.stop = true ∧
        ∀ others, walk (front ++ rule :: others) request = walk (xs ++ ys) request) ∧
      -- a rule whose condition does not hold where it is put in; one of the host could still mark the rule as matched
      (∀ rule : Rule,
        let tested := Condition.testIfAny env left rule.condition (.within outer)
        tested.holds = false → tested.scratch.matched = false →
          (walk (xs ++ rule :: ys) request).flags = (walk (xs ++ ys) request).flags ∧
            (walk (xs ++ rule :: ys) request).request = (walk (xs ++ ys) request).request) ∧
      -- other rules that leave the same request, whatever groups they store
      (∀ xs' request', (walk xs request).flags.stopped = false → (walk xs' request').flags.stopped = false →
        (walk xs' request').request = left →
        ∃ later : Walked,
          walk (xs ++ ys) request = ⟨(walk xs request).flags.or later.flags, later.request,
            (walk xs request).notes ++ later.notes⟩ ∧
          walk (xs' ++ ys) request' = ⟨(walk xs' request').flags.or later.flags, later.request,
            (walk xs' request').notes ++ later.notes⟩) ∧
      (∀ key, (Scratch.within outer).captures? key = outer.bind fun bag => bag.get? Property.groups? key.name) ∧
      -- a rule that runs a list, where nothing else asks for a stop
      ∀ (rule : Rule) (action : Action) (front back : List Action) (list : RuleList),
        let tested := Condition.testIfAny env left rule.condition (.within outer)
        let before := Action.performAll env front left { tested.scratch with matched := true }
        let inside := (Action.rules list).perform env before.request before.scratch
        let behind := Action.performAll env back inside.request inside.scratch
        (walk xs request).flags.stopped = false → rule.action = some action →
          action.spliced = front ++ .rules list :: back → tested.holds = true → rule.stop = false → before.GoesOn →
          (list.stop = false → behind.GoesOn) →
          ((walk (xs ++ [rule]) request).flags.stopped = true ↔ list.stop = true) := by
  intro walk left
  have hrow : walk (xs ++ ys) request = (walk xs request).andThen (walk ys) :=
    Rule.walkAll_append env outer xs ys request
  refine ⟨hrow, ?_, ?_, ?_, ?_, Scratch.captures?_within outer, ?_⟩
  · intro name stop
    rw [← hrow]
    rfl
  · intro hstopped
    obtain ⟨front, rule, behind, hxs, hfront, hrule⟩ := Rule.exists_stopping_of_stopped env outer hstopped
    have hscratch := hrule
    rw [Rule.walk, WalkFlags.stopped_none_add, Bool.and_eq_true] at hscratch
    refine ⟨front, rule, behind, hxs, hfront, hscratch.1, hscratch.2, ?_⟩
    intro others
    rw [hxs, List.append_assoc, List.cons_append]
    exact (Rule.walkAll_append_of_stopping env outer hrule others).trans
      (Rule.walkAll_append_of_stopping env outer hrule (behind ++ ys)).symm
  · intro rule tested hfalse hmark
    exact Rule.walkAll_insert_of_missed env outer xs ys hfalse hmark
  · intro xs' request' hxs hxs' hleft
    refine ⟨walk ys left, Rule.walkAll_append_of_not_stopped env outer hxs ys, ?_⟩
    rw [← hleft]
    exact Rule.walkAll_append_of_not_stopped env outer hxs' ys
  · intro rule action front back list tested before inside behind hxs haction hsteps hholds hrule hbefore hbehind
    have hstopped : (walk (xs ++ [rule]) request).flags.stopped = (rule.walk env outer left).flags.stopped := by
      have hsingle : walk [rule] left = rule.walk env outer left := Rule.walkAll_singleton env outer rule left
      rw [← hsingle, ← Bool.false_or (walk [rule] left).flags.stopped, ← hxs, ← Walked.stopped_andThen]
      exact congrArg (·.flags.stopped) (Rule.walkAll_append env outer xs [rule] request)
    rw [hstopped]
    exact Rule.stopped_walk_iff_of_list env outer haction hsteps hholds hrule hbefore hbehind

/-- A rule that writes a header, and stores groups in front of it where `stores` says so. -/
def tagging (stores : Bool) : Rule :=
  ⟨"tag", false, false,
    if stores then
      some (.custom ⟨"grab", fun _ scratch => (true, scratch.storeCaptures .fromConditions ["a", "b"])⟩ false)
    else none,
    some (.replace (.header "x-tag") (.literal "on"))⟩

/-- A list whose only rule stops it. -/
def haltingList (stop : Bool) : RuleList := ⟨"inner", stop, [⟨"halt", true, false, none, some .abort⟩]⟩

/-- A rule that runs such a list between two other actions. -/
def nesting (stop : Bool) : Rule :=
  ⟨"nest", false, false, none,
    some (.sequence [.delete (.header "x-tag"), .rules (haltingList stop), .replace .path (.literal "/new")])⟩

theorem RuleList.walk_in_parts_nesting :
    let env : Env := ⟨.both, "/www", .record, fun _ => .ok .file⟩
    let walk := Rule.walkAll env none
    let halt : Rule := ⟨"halt", true, false, none, none⟩
    let missed : Rule := ⟨"missed", true, true, some (.number ⟨.literal "1", .equals, 2, 0, false⟩), some .abort⟩
    let last : Rule := ⟨"last", false, true, none, some (.delete .path)⟩
    -- a rule that misses in front of the last, and a rule that stops there
    (walk [tagging true, missed, last] (.ofUrl "/a")).flags = (walk [tagging true, last] (.ofUrl "/a")).flags ∧
      (∃ front rule behind, [tagging true, halt] = front ++ rule :: behind ∧
        walk [tagging true, halt, last] (.ofUrl "/a") = walk (front ++ [rule]) (.ofUrl "/a")) ∧
      -- the last rule behind the same request, with and without groups
      (∃ later : Walked, (walk [tagging true, last] (.ofUrl "/a")).request = later.request ∧
        (walk [tagging false, last] (.ofUrl "/a")).request = later.request) ∧
      -- a list that is marked to stop and one that is not
      (walk [tagging true, nesting true] (.ofUrl "/a")).flags.stopped = true ∧
      (walk [tagging true, nesting false] (.ofUrl "/a")).flags.stopped = false := by
  intro env walk halt missed last
  have hgoes : ∀ stores, (walk [tagging stores] (.ofUrl "/a")).flags.stopped = false := by decide +kernel
  obtain ⟨-, -, -, hmissed, hsame, -, hlist⟩ := RuleList.walk_in_parts env none [tagging true] [last] (.ofUrl "/a")
  obtain ⟨-, -, hstop, -⟩ := RuleList.walk_in_parts env none [tagging true, halt] [last] (.ofUrl "/a")
  refine ⟨(hmissed missed (by decide +kernel) (by decide +kernel)).1, ?_, ?_, ?_, ?_⟩
  · obtain ⟨front, rule, behind, hrules, -, -, -, hothers⟩ := hstop (by decide +kernel)
    exact ⟨front, rule, behind, hrules, (hothers []).symm⟩
  · obtain ⟨later, hwith, hwithout⟩ :=
      hsame [tagging false] (.ofUrl "/a") (hgoes true) (hgoes false) (by decide +kernel)
    exact ⟨later, by simpa using congrArg Walked.request hwith, by simpa using congrArg Walked.request hwithout⟩
  · refine (hlist (nesting true) _ [.delete (.header "x-tag")] [.replace .path (.literal "/new")] (haltingList true)
      (hgoes true) rfl rfl rfl rfl ⟨rfl, rfl, rfl⟩ ?_).mpr rfl
    intro hfalse
    exact absurd hfalse (by decide)
  · refine Bool.eq_false_iff.mpr (mt (hlist (nesting false) _ [.delete (.header "x-tag")]
      [.replace .path (.literal "/new")] (haltingList false) (hgoes true) rfl rfl rfl rfl ⟨rfl, rfl, rfl⟩ ?_).mp ?_)
    · exact fun _ => ⟨rfl, rfl, rfl⟩
    · exact Bool.false_ne_true

end Reroute
