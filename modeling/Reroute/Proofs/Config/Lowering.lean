import Reroute.Config.Compile
import Reroute.Proofs.Config.Conditions
import Reroute.Proofs.Rule.Sequence

/-!
# What a rule block means

A rule block is read part by part: its pattern, its conditions, its actions in order, and its nested rules, each of
them compiled on its own.  The rule that the block compiles to puts the pattern and the conditions into one list and
all actions into another, merges what can be merged and leaves out what is empty.  It evaluates as its parts do, but
for the reports of condition lists.
-/

namespace Reroute

/-! ### The parts of a block -/

/-- A test that goes on where its first part holds. -/
def Tested.andThen (first : Tested) (rest : Scratch → Tested) : Tested :=
  if first.holds then
    let later := rest first.scratch
    ⟨later.holds, later.scratch, first.notes ++ later.notes⟩
  else first

/-- What a rule block asks and does, every part on its own. -/
structure RuleParts where
  name : String
  stop : Bool
  dynamic : Bool
  pattern : Option Condition
  conditions : Option ConditionList
  actions : List Action
  nested : Option RuleList

namespace RuleParts

/-- The conditions as a list of their own. -/
def group (parts : RuleParts) : Option Condition :=
  parts.conditions.map fun list => .list list.logic list.trackCaptures list.items

/-- Tests the pattern, and where it holds the conditions; what is missing holds. -/
def test (parts : RuleParts) (env : Env) (request : Request) (scratch : Scratch) : Tested :=
  (Condition.testIfAny env request parts.pattern scratch).andThen (Condition.testIfAny env request parts.group)

/-- The actions in order, and then the nested rules. -/
def steps (parts : RuleParts) : List Action := parts.actions ++ (parts.nested.map Action.rules).toList

/-- What a rule does behind its test: its steps, and then it adds what they asked for and its own flags. -/
def fire (parts : RuleParts) (env : Env) (request : Request) (tested : Tested) : Performed :=
  if tested.holds then
    let performed := Action.performAll env parts.steps request { tested.scratch with matched := true }
    { performed with
      scratch := { performed.scratch with
        stop := performed.scratch.stop || performed.outcome.stop || parts.stop
        endRequest := performed.scratch.endRequest || performed.outcome.endRequest
        dynamic := performed.scratch.dynamic || parts.dynamic } }
  else ⟨.proceed, request, tested.scratch, []⟩

/-- Evaluates a rule by its parts; `outer` holds the properties of the rule around it. -/
def evaluate (parts : RuleParts) (env : Env) (outer : Option Bag) (request : Request) : Evaluated :=
  let tested := parts.test env request (.within outer)
  let fired := parts.fire env request tested
  ⟨fired.scratch, fired.request, env.report (.ruleBegin parts.name) ++ tested.notes ++ fired.notes
    ++ env.report (.ruleEnd parts.name fired.scratch.matched fired.scratch.stop fired.scratch.endRequest)⟩

end RuleParts

namespace Names

/-- The pattern of a rule, if it has one. -/
def patternOf (names : Names) (place : Place) : Option MatchBlock → Except ConfigError (Option Condition)
  | some block => (names.pattern (place.inside .pattern) block).map some
  | none => .ok none

/-- The conditions of a rule, if it has any. -/
def conditionsOf (names : Names) (place : Place) : Option GroupBlock → Except ConfigError (Option ConditionList)
  | some block => (names.group place .conditions block).map some
  | none => .ok none

/-- The actions of blocks counted from an index, each on its own. -/
def actionsOf (names : Names) (place : Place) (index : Nat) : List ActionBlock → Except ConfigError (List Action)
  | [] => .ok []
  | block :: blocks => do
    let action ← names.action (place.inside (.action index)) block
    let actions ← names.actionsOf place (index + 1) blocks
    .ok (action :: actions)

end Names

/-- The parts of a block, or the first fault in them. -/
def RuleBlock.parts (names : Names) (place : Place) (index : Nat) (block : RuleBlock) :
    Except ConfigError RuleParts := do
  let pattern ← names.patternOf place block.matcher
  let conditions ← names.conditionsOf place block.conditions
  let actions ← names.actionsOf place 0 block.actions
  let nested ← (compileRules names place 0 block.rules).result
  let name := ruleName block.name index
  .ok ⟨name, block.stop, block.dynamic, pattern, conditions, actions,
    if block.rules.isEmpty then none else some ⟨name, false, nested⟩⟩

/-! ### How the parts are put together -/

namespace RuleParts

/-- What a rule asks, in order. -/
def questions (parts : RuleParts) : List Condition := parts.pattern.toList ++ parts.group.toList

/-- The rule of the parts. -/
def assemble (parts : RuleParts) : Rule :=
  .assemble parts.name parts.stop parts.dynamic (.ofChildren .matchAll false parts.questions)
    (parts.steps.foldl ActionList.push .empty)

end RuleParts

private theorem Names.addActions_eq (names : Names) (place : Place) (index : Nat) (list : ActionList)
    (blocks : List ActionBlock) :
    names.addActions place index list blocks =
      (names.actionsOf place index blocks).map fun actions => actions.foldl ActionList.push list := by
  induction blocks generalizing index list with
  | nil => rfl
  | cons block blocks ih =>
    simp only [addActions, actionsOf, ih]
    cases names.action (place.inside (.action index)) block with
    | error fault => rfl
    | ok action =>
      simp only [bind, Except.bind]
      cases names.actionsOf place (index + 1) blocks <;> rfl

private theorem Names.ruleConditions_eq (names : Names) (place : Place) (matcher : Option MatchBlock)
    (conditions : Option GroupBlock) :
    names.ruleConditions place matcher conditions = (do
      let pattern ← names.patternOf place matcher
      let conditions ← names.conditionsOf place conditions
      let group := conditions.map fun list => Condition.list list.logic list.trackCaptures list.items
      .ok (.ofChildren .matchAll false (pattern.toList ++ group.toList))) := by
  cases matcher with
  | none =>
    cases conditions with
    | none => rfl
    | some block =>
      simp only [ruleConditions, patternOf, conditionsOf]
      cases names.group place .conditions block <;> rfl
  | some matcher =>
    simp only [ruleConditions, patternOf]
    cases names.pattern (place.inside .pattern) matcher with
    | error fault => rfl
    | ok pattern =>
      cases conditions with
      | none => rfl
      | some block =>
        simp only [conditionsOf]
        cases names.group place .conditions block <;> rfl

/-- A block compiles to the rule of its parts, or fails with the first fault in them; a disabled one makes none. -/
theorem result_compileRule (names : Names) (place : Place) (index : Nat) (block : RuleBlock) :
    (compileRule names place index block).result =
      if block.enabled then (block.parts names place index).map fun parts => some parts.assemble else .ok none := by
  obtain ⟨name, stop, dynamic, enabled, matcher, conditions, actions, rules⟩ := block
  rw [compileRule]
  cases enabled with
  | false => rfl
  | true =>
    simp only [Logged.result_bind, Logged.result_ofExcept, Logged.result_report, Logged.result_pure,
      Names.ruleConditions_eq, Names.addActions_eq, RuleBlock.parts, if_pos]
    -- The parts are read in the same order, so the first fault is the same.
    cases names.patternOf place matcher with
    | error fault => rfl
    | ok pattern =>
      cases names.conditionsOf place conditions with
      | error fault => rfl
      | ok group =>
        cases names.actionsOf place 0 actions with
        | error fault => rfl
        | ok made =>
          cases (compileRules names place 0 rules).result with
          | error fault => rfl
          | ok nested =>
            simp only [bind, Except.bind, Except.map, RuleParts.assemble, RuleParts.questions, RuleParts.group,
              RuleParts.steps]
            cases rules <;> simp

/-- A block that compiles to a rule has parts, and the rule is put together from them. -/
private theorem compileRule_eq_ok {names : Names} {place : Place} {index : Nat} {block : RuleBlock} {rule : Rule}
    (h : (compileRule names place index block).result = .ok (some rule)) :
    ∃ parts, block.parts names place index = .ok parts ∧ rule = parts.assemble := by
  rw [result_compileRule] at h
  split at h
  · obtain ⟨parts, hparts, hrule⟩ := Except.map_eq_ok.mp h
    exact ⟨parts, hparts, (Option.some.inj hrule).symm⟩
  · cases h

private theorem RuleBlock.obeys_questions {names : Names} {place : Place} {index : Nat} {block : RuleBlock}
    {parts : RuleParts} {p : CustomCondition → Prop} (hp : names.registry.ConditionsObey p)
    (h : block.parts names place index = .ok parts) : Condition.AllObey p parts.questions := by
  obtain ⟨pattern, hpattern, h⟩ := Except.bind_eq_ok.mp h
  obtain ⟨group, hgroup, h⟩ := Except.bind_eq_ok.mp h
  obtain ⟨actions, -, h⟩ := Except.bind_eq_ok.mp h
  obtain ⟨nested, -, h⟩ := Except.bind_eq_ok.mp h
  cases h
  refine Condition.allObey_append.mpr ⟨?_, ?_⟩
  · unfold Names.patternOf at hpattern
    split at hpattern
    · obtain ⟨condition, hcondition, rfl⟩ := Except.map_eq_ok.mp hpattern
      exact ⟨Names.obeys_pattern hcondition, trivial⟩
    · cases hpattern
      trivial
  · unfold Names.conditionsOf at hgroup
    split at hgroup
    · obtain ⟨list, hlist, rfl⟩ := Except.map_eq_ok.mp hgroup
      exact ⟨Names.allObey_group hp hlist, trivial⟩
    · cases hgroup
      trivial

/-! ### Evaluating what was put together -/

namespace Condition

/-- Tests conditions in order up to the first that does not hold. -/
def testAll (env : Env) (request : Request) (conditions : List Condition) (scratch : Scratch) : Tested :=
  let met := meets env request false conditions scratch
  ⟨!met.holds, met.scratch, met.notes⟩

private theorem testAll_append (env : Env) (request : Request) (front back : List Condition) (scratch : Scratch) :
    testAll env request (front ++ back) scratch =
      (testAll env request front scratch).andThen (testAll env request back) := by
  simp only [testAll, meets_append, Tested.orElse, Tested.andThen]
  by_cases hmet : (meets env request false front scratch).holds = true <;> simp [hmet]

private theorem testAll_toList (env : Env) (request : Request) (condition : Option Condition) (scratch : Scratch) :
    testAll env request condition.toList scratch = testIfAny env request condition scratch := by
  cases condition with
  | none => rfl
  | some condition =>
    simp only [testAll, Option.toList_some, meets, testIfAny]
    generalize condition.test env request scratch = tested
    obtain ⟨holds, scratch, notes⟩ := tested
    cases holds <;> simp

private theorem plain_test_matchAll (env : Env) (request : Request) (conditions : List Condition) (scratch : Scratch)
    (h : AllObey CustomCondition.KeepsTracking conditions) :
    ((Condition.list .matchAll false conditions).test env request scratch).plain =
      (testAll env request conditions scratch).plain := by
  have hpush : scratch.pushTracking false = scratch := Scratch.pushTracking_of_le (by simp)
  have htrack := tracking_meets env request false conditions scratch h
  simp [test, testAll, Tested.plain, Logic.decisive, Logic.conclude, hpush, Scratch.restoreTracking_of_eq htrack]

/-- A list of conditions all of which have to hold, as a rule keeps it. -/
private theorem plain_testIfAny_ofChildren (env : Env) (request : Request) {children : List Condition}
    (scratch : Scratch) (h : AllObey CustomCondition.KeepsTracking children) :
    let list := ConditionList.ofChildren .matchAll false children
    (testIfAny env request (if list.items.isEmpty then none else some list.toCondition) scratch).plain =
      (testAll env request children scratch).plain := by
  have hbuilt := ConditionList.plain_test_ofChildren env request .matchAll false children scratch h
  rw [map_counted_eq_self false children rfl, plain_test_matchAll env request children scratch h] at hbuilt
  refine Eq.trans ?_ hbuilt
  simp only [ConditionList.ofChildren_eq]
  cases children.flatMap (spliced .matchAll false) with
  | nil => exact (plain_test_matchAll env request [] scratch trivial).symm
  | cons condition conditions => rfl

end Condition

namespace RuleParts

variable (parts : RuleParts) (env : Env) (request : Request) (scratch : Scratch)

private theorem plain_test_assemble (h : Condition.AllObey CustomCondition.KeepsTracking parts.questions) :
    (Condition.testIfAny env request parts.assemble.condition scratch).plain =
      (parts.test env request scratch).plain := by
  refine (Condition.plain_testIfAny_ofChildren env request scratch h).trans ?_
  have hgroup := funext (Condition.testAll_toList env request parts.group)
  rw [questions, Condition.testAll_append, Condition.testAll_toList, hgroup]
  rfl

private theorem performIfAny_assemble :
    Action.performIfAny env parts.assemble.action request scratch =
      Action.performAll env parts.steps request scratch := by
  refine (ActionList.performIfAny_toAction env _ request scratch).trans ?_
  rw [ActionList.foldl_push_eq]
  exact Action.performAll_flatMap_spliced env parts.steps request scratch

private theorem fire_assemble {tested other : Tested} (h : tested.plain = other.plain) :
    parts.assemble.fire env request tested = parts.fire env request other := by
  obtain ⟨hholds, hscratch, -⟩ := Tested.plain_eq_iff.mp h
  simp only [Rule.fire, fire, performIfAny_assemble, hholds, hscratch]
  rfl

end RuleParts

/-- A rule evaluates as the parts of its block do: with the same flags, properties and captures, the same request, and
the same notes other than the reports of condition lists. -/
theorem evaluate_compileRule {names : Names} {place : Place} {index : Nat} {block : RuleBlock} {rule : Rule}
    (hkeep : names.registry.ConditionsObey CustomCondition.KeepsTracking)
    (h : (compileRule names place index block).result = .ok (some rule)) :
    ∃ parts, block.parts names place index = .ok parts ∧
      ∀ (env : Env) (outer : Option Bag) (request : Request),
        (rule.evaluate env outer request).scratch = (parts.evaluate env outer request).scratch ∧
        (rule.evaluate env outer request).request = (parts.evaluate env outer request).request ∧
        Note.listless (rule.evaluate env outer request).notes =
          Note.listless (parts.evaluate env outer request).notes := by
  obtain ⟨parts, hparts, rfl⟩ := compileRule_eq_ok h
  refine ⟨parts, hparts, fun env outer request => ?_⟩
  have htested := parts.plain_test_assemble env request (.within outer) (RuleBlock.obeys_questions hkeep hparts)
  obtain ⟨-, -, hnotes⟩ := Tested.plain_eq_iff.mp htested
  simp only [Rule.evaluate_eq, RuleParts.evaluate, parts.fire_assemble env request htested, Note.listless_append,
    hnotes, true_and]
  rfl

/-- A registry with a condition that always holds. -/
def agreeing : Registry :=
  Registry.empty.registerCondition "always" fun _ => .ok ⟨"always", fun _ scratch => (true, scratch)⟩

/-- A block with a pattern, a condition of the host, and an action with a flag. -/
def movedBlock : RuleBlock :=
  { RuleBlock.empty with
    name := some "moved"
    matcher := some { MatchBlock.empty with url := "old", kind := some "contains" }
    conditions := some ⟨none, false, [⟨{ TestBlock.empty with matchType := some "always" }, none⟩]⟩
    actions := [{ ActionBlock.empty with kind := "rewrite", url := some "/new", stop := some true }] }

theorem evaluate_compileRule_moved :
    let names : Names := ⟨[], agreeing⟩
    let env : Env := ⟨.execute, "/www", .discard, fun _ => .error "not found"⟩
    agreeing.ConditionsObey CustomCondition.KeepsTracking ∧
      ∃ rule parts, (compileRule names ⟨"rules.hcl", []⟩ 0 movedBlock).result = .ok (some rule) ∧
        movedBlock.parts names ⟨"rules.hcl", []⟩ 0 = .ok parts ∧
        (parts.evaluate env none (.ofUrl "/old")).request.url = "/new" ∧
        (parts.evaluate env none (.ofUrl "/old")).scratch.stop = true := by
  intro names env
  have hkeep : agreeing.ConditionsObey CustomCondition.KeepsTracking := by
    intro name build params condition hbuild hcondition
    simp only [agreeing, Registry.registerCondition, Builders.register, Builders.find?, Registry.empty,
      List.find?] at hbuild
    split at hbuild
    · cases hbuild
      cases hcondition
      exact fun _ _ => rfl
    · cases hbuild
  obtain ⟨rule, h⟩ : ∃ rule, (compileRule names ⟨"rules.hcl", []⟩ 0 movedBlock).result = .ok (some rule) :=
    ⟨_, rfl⟩
  obtain ⟨parts, hparts, hread⟩ := evaluate_compileRule (show names.registry.ConditionsObey _ from hkeep) h
  obtain ⟨hscratch, hrequest, -⟩ := hread env none (.ofUrl "/old")
  refine ⟨hkeep, rule, parts, h, hparts, ?_, ?_⟩
  · rw [← hrequest]
    cases h
    decide
  · rw [← hscratch]
    cases h
    decide

end Reroute
