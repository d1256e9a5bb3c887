import Reroute.Config.Compile
import Reroute.Proofs.Template.Compile
import Reroute.Proofs.Walk.Result

/-!
# Registering more extensions

The registry is asked last: for an operation behind the built-in ones and the lookup tables, for a condition or an
action behind all kinds that are known without it.  So a larger registry changes nothing but faults about names that
nobody knows, and every other document compiles as before, to the same rules or to the same fault
(`Document.compile_registered_more`).
-/

namespace Reroute

/-! ### Larger registries -/

/-- Every registered builder is registered in another table as well, under the same names. -/
def Builders.Within {α : Type} (builders larger : Builders α) : Prop :=
  ∀ name build, builders.find? name = some build → larger.find? name = some build

/-- Everything that is registered is registered in another registry as well, with the same builders. -/
structure Registry.Within (registry larger : Registry) : Prop where
  operations : registry.operations.Within larger.operations
  conditions : registry.conditions.Within larger.conditions
  actions : registry.actions.Within larger.actions

/-- The same lookup tables, and a registry within another. -/
structure Names.Within (names larger : Names) : Prop where
  tables : names.tables = larger.tables
  registry : names.registry.Within larger.registry

private theorem Builders.within_register {α : Type} {builders : Builders α} {name : String} (build : Builder α)
    (h : builders.find? name = none) : builders.Within (builders.register name build) := by
  intro other found hfound
  by_cases hname : Text.lowerAscii name = Text.lowerAscii other
  · have hsame : builders.find? other = builders.find? name := by simp only [find?, hname]
    rw [hsame, h] at hfound
    cases hfound
  · simpa [find?, register, hname] using hfound

/-! ### Faults about unknown names -/

/-- The fault is about an operation that nobody knows. -/
def TemplateError.IsUnknown : TemplateError → Prop
  | unknownOperation _ => True
  | _ => False

/-- The fault is about an operation, a condition or an action that nobody knows. -/
def ConfigError.IsUnknown : ConfigError → Prop
  | unknownAction _ _ => True
  | unknownMatch _ _ => True
  | template _ _ fault => fault.IsUnknown
  | _ => False

namespace Names

open Except (SameUnless)

variable {names larger : Names}

/-! ### Templates -/

private theorem operation_within (h : names.Within larger) (name : String) :
    (names.operation name).SameUnless TemplateError.IsUnknown (larger.operation name) := by
  unfold operation
  rw [h.tables]
  split
  · exact .refl _
  · split
    · exact .refl _
    · cases hfound : names.registry.operations.find? name with
      | none => exact .inl ⟨_, rfl, trivial⟩
      | some build =>
        have hlarger := h.registry.operations name build hfound
        rw [hlarger]
        exact .refl _

private theorem compileContent_within (h : names.Within larger)
    {compile compile' : List Char → Except TemplateError Value}
    (hcompile : ∀ text, (compile text).SameUnless TemplateError.IsUnknown (compile' text)) (content : List Char) :
    (names.compileContent compile content).SameUnless TemplateError.IsUnknown
      (larger.compileContent compile' content) := by
  unfold compileContent
  cases Template.splitHead? content with
  | none =>
    dsimp only
    split
    · exact hcompile _
    · exact .refl _
  | some cut =>
    dsimp only
    split
    · exact .refl _
    · exact .refl _
    · exact (operation_within h _).bind fun operation => (hcompile _).bind fun value => .refl _

private theorem compileWith_within (h : names.Within larger) (levels : Nat) (text : List Char) :
    (names.compileWith levels text).SameUnless TemplateError.IsUnknown (larger.compileWith levels text) := by
  induction levels generalizing text with
  | zero => exact .refl _
  | succ levels ih =>
    rw [compileWith_succ, compileWith_succ]
    split
    · exact .refl _
    · refine SameUnless.bind (.mapM (fun span => ?_) _) fun parts => .refl _
      cases span with
      | literal text => exact .refl _
      | braced content => exact compileContent_within h ih content

private theorem value_within (h : names.Within larger) (place : Place) (text : String) :
    (names.value place text).SameUnless ConfigError.IsUnknown (larger.value place text) :=
  (compileWith_within h _ _).mapError fun _ hunknown => hunknown

/-! ### Conditions -/

private theorem pattern_within (h : names.Within larger) (place : Place) (block : MatchBlock) :
    (names.pattern place block).SameUnless ConfigError.IsUnknown (larger.pattern place block) := by
  unfold pattern
  dsimp only
  split
  · exact (value_within h place _).bind fun input => .refl _
  · exact .refl _

private theorem testInput_within (h : names.Within larger) (place : Place) (block : TestBlock) :
    (names.testInput place block).SameUnless ConfigError.IsUnknown (larger.testInput place block) := by
  unfold testInput
  split
  · exact value_within h place _
  · exact .refl _
  · exact .refl _

private theorem customCondition_within (h : names.Within larger) (place : Place) (name : String) (block : TestBlock) :
    (names.customCondition place name block).SameUnless ConfigError.IsUnknown
      (larger.customCondition place name block) := by
  unfold customCondition
  cases hfound : names.registry.conditions.find? name with
  | none => exact .inl ⟨_, rfl, trivial⟩
  | some build =>
    have hlarger := h.registry.conditions name build hfound
    rw [hlarger]
    exact .refl _

private theorem test_within (h : names.Within larger) (place : Place) (block : TestBlock) :
    (names.test place block).SameUnless ConfigError.IsUnknown (larger.test place block) := by
  refine (testInput_within h place block).bind fun input => ?_
  dsimp only
  split
  -- the kinds that are known without the registry
  case h_7 =>
    split
    · exact .refl _
    · exact customCondition_within h place _ block
  all_goals exact .refl _

mutual

private theorem group_within (h : names.Within larger) : ∀ (block : GroupBlock) (holder : Place) (step : Step),
    (names.group holder step block).SameUnless ConfigError.IsUnknown (larger.group holder step block)
  | ⟨logic, track, items⟩, holder, step => by
    rw [group, group]
    exact (SameUnless.refl _).bind fun logic => groupItems_within h items _ 0 _

private theorem groupItems_within (h : names.Within larger) :
    ∀ (blocks : List ConditionBlock) (place : Place) (index : Nat)
    (list : ConditionList),
    (names.groupItems place index list blocks).SameUnless ConfigError.IsUnknown
      (larger.groupItems place index list blocks)
  | [], _, _, _ => .refl _
  | block :: blocks, place, index, list => by
    rw [groupItems, groupItems]
    exact (condition_within h block _).bind fun condition => groupItems_within h blocks place (index + 1) _

private theorem condition_within (h : names.Within larger) : ∀ (block : ConditionBlock) (place : Place),
    (names.condition place block).SameUnless ConfigError.IsUnknown (larger.condition place block)
  | ⟨block, none⟩, place => by
    rw [condition, condition]
    exact test_within h place block
  | ⟨_, some block⟩, place => by
    rw [condition, condition]
    exact (group_within h block place .group).bind fun list => .refl _

end

/-! ### Actions -/

private theorem source?_within (h : names.Within larger) (place : Place) (block : ActionBlock) :
    (names.source? place block).SameUnless ConfigError.IsUnknown (larger.source? place block) := by
  unfold source?
  split
  · exact (value_within h place _).map some
  all_goals exact .refl _

private theorem source_within (h : names.Within larger) (place : Place) (block : ActionBlock) :
    (names.source place block).SameUnless ConfigError.IsUnknown (larger.source place block) :=
  (source?_within h place block).bind fun _ => .refl _

private theorem replaceUrl_within (h : names.Within larger) (place : Place) (block : ActionBlock) :
    (names.replaceUrl place block).SameUnless ConfigError.IsUnknown (larger.replaceUrl place block) := by
  unfold replaceUrl
  dsimp only
  split
  · exact (source_within h place block).bind fun value => .refl _
  · exact (SameUnless.refl _).bind fun url => (value_within h place url).bind fun value => .refl _

private theorem redirect_within (h : names.Within larger) (place : Place) (block : ActionBlock) :
    (names.redirect place block).SameUnless ConfigError.IsUnknown (larger.redirect place block) := by
  refine (SameUnless.refl _).bind fun code => ?_
  dsimp only
  split
  · exact ((value_within h place _).map some).bind fun url => .refl _
  · exact (source?_within h place block).bind fun url => .refl _

private theorem respond_within (h : names.Within larger) (place : Place) (block : ActionBlock) :
    (names.respond place block).SameUnless ConfigError.IsUnknown (larger.respond place block) := by
  unfold respond
  dsimp only
  split
  · split
    · exact ((value_within h place _).map some).bind fun body => .refl _
    · exact .refl _
  · exact .refl _

private theorem customAction_within (h : names.Within larger) (place : Place) (block : ActionBlock) :
    (names.customAction place block).SameUnless ConfigError.IsUnknown (larger.customAction place block) := by
  unfold customAction
  cases hfound : names.registry.actions.find? block.kind with
  | none => exact .inl ⟨_, rfl, trivial⟩
  | some build =>
    have hlarger := h.registry.actions block.kind build hfound
    rw [hlarger]
    exact .refl _

private theorem bareAction_within (h : names.Within larger) (place : Place) (block : ActionBlock) :
    (names.bareAction place block).SameUnless ConfigError.IsUnknown (larger.bareAction place block) := by
  unfold bareAction
  dsimp only
  split
  case h_1 => exact replaceUrl_within h place block
  case h_2 | h_3 | h_4 =>
    exact (SameUnless.refl _).bind fun scope => (source_within h place block).bind fun value => .refl _
  case h_9 => exact redirect_within h place block
  case h_10 | h_11 => exact respond_within h place block
  case h_15 => exact customAction_within h place block
  all_goals exact .refl _

private theorem addActions_within (h : names.Within larger) (place : Place) (index : Nat) (list : ActionList)
    (blocks : List ActionBlock) :
    (names.addActions place index list blocks).SameUnless ConfigError.IsUnknown
      (larger.addActions place index list blocks) := by
  induction blocks generalizing index list with
  | nil => exact .refl _
  | cons block blocks ih =>
    rw [addActions, addActions]
    exact ((bareAction_within h _ block).map _).bind fun action => ih (index + 1) _

/-! ### Rules -/

private theorem ruleConditions_within (h : names.Within larger) (place : Place) (matcher : Option MatchBlock)
    (conditions : Option GroupBlock) :
    (names.ruleConditions place matcher conditions).SameUnless ConfigError.IsUnknown
      (larger.ruleConditions place matcher conditions) := by
  unfold ruleConditions
  have hconditions (list : ConditionList) := fun block : GroupBlock =>
    (group_within h block place .conditions).bind fun group =>
      .refl (.ok (list.push (.list group.logic group.trackCaptures group.items)))
  dsimp only
  split <;> split
  · exact ((pattern_within h _ _).map _).bind fun list => hconditions list _
  · exact ((pattern_within h _ _).map _).bind fun list => .refl _
  · exact (SameUnless.refl _).bind fun list => hconditions list _
  · exact .refl _

end Names

open Logged (SameUnless)

variable {names larger : Names}

mutual

private theorem compileRule_within (h : names.Within larger) : ∀ (block : RuleBlock) (place : Place) (index : Nat),
    (compileRule names place index block).SameUnless ConfigError.IsUnknown (compileRule larger place index block)
  | ⟨name, stop, dynamic, enabled, matcher, conditions, actions, rules⟩, place, index => by
    rw [compileRule, compileRule]
    dsimp only
    split
    · refine (SameUnless.ofExcept (names.ruleConditions_within h place matcher conditions)).bind fun asked => ?_
      refine (SameUnless.ofExcept (names.addActions_within h place 0 .empty actions)).bind fun steps => ?_
      exact (compileRules_within h rules place 0).bind fun nested => .refl _
    · exact .refl _

private theorem compileRules_within (h : names.Within larger) :
    ∀ (blocks : List RuleBlock) (place : Place) (index : Nat),
    (compileRules names place index blocks).SameUnless ConfigError.IsUnknown (compileRules larger place index blocks)
  | [], _, _ => .refl _
  | block :: blocks, place, index => by
    rw [compileRules, compileRules]
    refine (compileRule_within h block _ index).bind fun rule => ?_
    exact (compileRules_within h blocks place (index + 1)).bind fun rules => .refl _

end

/-! ### Documents -/

namespace Document

private theorem compile_within {registry larger : Registry} (h : registry.Within larger) (document : Document)
    (file : String) :
    (document.compile file registry).SameUnless ConfigError.IsUnknown (document.compile file larger) := by
  refine (SameUnless.refl _).bind fun tables => ?_
  dsimp only
  split
  · exact .refl _
  · have hnames : Names.Within ⟨tables, registry⟩ ⟨tables, larger⟩ := ⟨rfl, h⟩
    exact (compileRules_within hnames _ _ 0).bind fun rules => .refl _

/-- A document that compiles compiles to the same rules under a larger registry; one that does not still fails with
the same fault, unless that was about a name that nobody knows. -/
theorem compile_registered_more {registry larger : Registry} (h : registry.Within larger) (document : Document)
    (file : String) :
    (∀ rules, (document.compile file registry).result = .ok rules →
        (document.compile file larger).result = .ok rules) ∧
      ∀ fault, (document.compile file registry).result = .error fault → ¬fault.IsUnknown →
        (document.compile file larger).result = .error fault := by
  have hsame := compile_within h document file
  constructor
  · intro rules hrules
    obtain ⟨fault, hfault, -⟩ | heq := hsame
    · rw [hrules] at hfault
      cases hfault
    · rw [heq, hrules]
  · intro fault hfault hknown
    obtain ⟨other, hother, hunknown⟩ | heq := hsame
    · rw [hfault] at hother
      cases hother
      exact absurd hunknown hknown
    · rw [heq, hfault]

/-- A registry with an operation and a condition. -/
def spare : Registry :=
  (Registry.empty.registerOperation "shout" fun _ => .ok ⟨"shout", Text.upper⟩).registerCondition "always"
    fun _ => .ok ⟨"always", fun _ scratch => (true, scratch)⟩

/-- The same with more under the names of a built-in operation, of a kind of patterns, and of a kind of actions. -/
def crowded : Registry :=
  ((spare.registerOperation "Lower" fun _ => .error "never asked").registerCondition "contains"
    fun _ => .error "never asked").registerAction "rewrite" fun _ => .error "never asked"

/-- A rule that uses what is registered beside what is known without. -/
def usingSpare : Document :=
  let known := { TestBlock.empty with matchType := some "contains", pattern := some "old" }
  let custom := { TestBlock.empty with matchType := some "always" }
  let moved := { ActionBlock.empty with kind := "rewrite", value := some "/\x7blower:\x7bshout:a\x7d\x7d" }
  let conditions : GroupBlock := ⟨none, false, [⟨known, none⟩, ⟨custom, none⟩]⟩
  ⟨[], some [{ RuleBlock.empty with conditions := some conditions, actions := [moved] }]⟩

private theorem spare_within_crowded : spare.Within crowded where
  operations := Builders.within_register _ rfl
  conditions := Builders.within_register _ rfl
  actions := Builders.within_register _ rfl

theorem compile_registered_more_crowded :
    spare.Within crowded ∧ ∃ rules, (usingSpare.compile "rules.hcl" spare).result = .ok rules ∧
      (usingSpare.compile "rules.hcl" crowded).result = .ok rules := by
  obtain ⟨rules, hrules⟩ : ∃ rules, (usingSpare.compile "rules.hcl" spare).result = .ok rules := ⟨_, rfl⟩
  have hlarger := (compile_registered_more spare_within_crowded usingSpare "rules.hcl").1 rules hrules
  exact ⟨spare_within_crowded, rules, hrules, hlarger⟩

end Document

end Reroute
