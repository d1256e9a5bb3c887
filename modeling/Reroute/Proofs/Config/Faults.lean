import Reroute.Proofs.Config.Lowering
import Reroute.Proofs.Config.Places

/-!
# Faults carry the place of their block

Rules are compiled block by block, in the order of the list of blocks, and compiling stops at the first block that has
a fault of its own (`Document.compile_eq_error`).  The fault of a condition or of an action carries the place of that
block at every depth; the fault of a rule carries the place of the rule or that of its pattern.  As places lead to
their blocks, whoever reads a fault finds the block it is about (`Document.places_identify`).
-/

namespace Reroute

open Except (Fails)

/-- The place that a fault carries. -/
def ConfigError.place? : ConfigError → Option Place
  | unreadable _ _ | malformed _ | noRules _ => none
  | unnamedMap place | invalidMapName place _ | duplicateMap place _ | part place _ | unknownAction place _
  | unknownMatch place _ | missingField place _ | invalidStatus place _ | custom place _ _ _
  | template place _ _ => some place

/-- Every failure carries the place. -/
def Place.Blames {α : Type} (place : Place) (x : Except ConfigError α) : Prop := x.Fails (·.place? = some place)

namespace Place

variable (place : Place)

private theorem blames_scope (name : String) : place.Blames (place.scope name) := by
  unfold scope
  split
  · exact .ok _
  · exact .error rfl

private theorem blames_part {α : Type} (x : Except BuildError α) : place.Blames (x.mapError (.part place)) := by
  refine Fails.mapError ?_ x
  intro fault
  rfl

private theorem blames_getter (scope : Scope) (index : Option Scalar) : place.Blames (place.getter scope index) :=
  place.blames_part _

private theorem blames_scopeValue (name : String) (index : Option Scalar) :
    place.Blames (place.scopeValue name index) :=
  (place.blames_scope name).bind fun scope => place.blames_getter scope index

private theorem blames_required {α : Type} (field : String) (content : Option α) :
    place.Blames (place.required field content) := by
  cases content with
  | none => exact .error rfl
  | some content => exact .ok content

private theorem blames_parsed {α : Type} (parse : String → Except BuildError α) (fallback : α) (text : Option String) :
    place.Blames (place.parsed parse fallback text) := by
  cases text with
  | none => exact .ok fallback
  | some text => exact place.blames_part _

end Place

namespace Names

variable (names : Names) (place : Place)

private theorem blames_value (text : String) : place.Blames (names.value place text) := by
  refine Fails.mapError ?_ (names.compile text)
  intro fault
  rfl

/-! ### Conditions -/

private theorem blames_pattern (block : MatchBlock) : place.Blames (names.pattern place block) := by
  have hrest (input : Value) : place.Blames (do
      let kind ← place.parsed MatchKind.parse .regex block.kind
      let matching ← (TextMatch.make input kind block.url block.ignoreCase).mapError (.part place)
      .ok (Condition.text ((matching.withNegate block.negate).withKey .fromMatch))) :=
    (place.blames_parsed _ _ _).bind fun kind => (place.blames_part _).bind fun matching => .ok _
  unfold pattern
  dsimp only
  split
  · exact (blames_value names place _).bind hrest
  · exact (place.blames_getter _ _).bind hrest

private theorem blames_testInput (block : TestBlock) : place.Blames (names.testInput place block) := by
  unfold testInput
  split
  · exact blames_value names place _
  · exact place.blames_scopeValue _ _
  · exact place.blames_getter _ _

private theorem blames_customCondition (name : String) (block : TestBlock) :
    place.Blames (names.customCondition place name block) := by
  unfold customCondition
  split
  · exact .error rfl
  · split
    · exact .ok _
    · exact .error rfl

private theorem blames_test (block : TestBlock) : place.Blames (names.test place block) := by
  refine (blames_testInput names place block).bind fun input => ?_
  dsimp only
  split
  case h_1 =>
    exact (place.blames_parsed _ _ _).bind fun comparison => (place.blames_required _ _).bind fun operand => .ok _
  -- the kinds that compare with a pattern, and those of the host
  case h_7 =>
    split
    · exact (place.blames_required _ _).bind fun pattern => (place.blames_part _).bind fun matching => .ok _
    · exact blames_customCondition names place _ block
  all_goals exact .ok _

/-! ### Actions -/

private theorem blames_source? (block : ActionBlock) : place.Blames (names.source? place block) := by
  unfold source?
  split
  · exact (blames_value names place _).map some
  · exact .ok _
  · exact (place.blames_scopeValue _ _).map some
  · exact .ok _

private theorem blames_source (block : ActionBlock) : place.Blames (names.source place block) :=
  (blames_source? names place block).bind fun value => place.blames_required _ value

private theorem blames_targetScope (block : ActionBlock) : place.Blames (block.targetScope place) := by
  unfold ActionBlock.targetScope
  split
  · exact place.blames_scope _
  · exact .ok _

private theorem blames_replaceUrl (block : ActionBlock) : place.Blames (names.replaceUrl place block) := by
  have hrest (value : Value) : place.Blames (do
      let target ← (Target.make "replace" .url none).mapError (.part place)
      .ok (Action.replace target value)) := (place.blames_part _).bind fun target => .ok _
  unfold replaceUrl
  dsimp only
  split
  · exact (blames_source names place block).bind hrest
  · exact (place.blames_required _ _).bind fun url => (blames_value names place url).bind hrest

private theorem blames_redirect (block : ActionBlock) : place.Blames (names.redirect place block) := by
  refine (place.blames_parsed _ _ _).bind fun code => ?_
  dsimp only
  split
  · exact ((blames_value names place _).map some).bind fun url => .ok _
  · exact (blames_source? names place block).bind fun url => .ok _

private theorem blames_respond (block : ActionBlock) : place.Blames (names.respond place block) := by
  unfold respond
  dsimp only
  split
  · split
    · exact ((blames_value names place _).map some).bind fun body => .ok _
    · exact .ok _
  · exact .error rfl

private theorem blames_customAction (block : ActionBlock) : place.Blames (names.customAction place block) := by
  unfold customAction
  split
  · exact .error rfl
  · split
    · exact .ok _
    · exact .error rfl

private theorem blames_bareAction (block : ActionBlock) : place.Blames (names.bareAction place block) := by
  have hscope := blames_targetScope place block
  have hsource := blames_source names place block
  unfold bareAction
  dsimp only
  split
  case h_1 => exact blames_replaceUrl names place block
  case h_2 | h_3 | h_4 =>
    exact hscope.bind fun scope => hsource.bind fun value => (place.blames_part _).bind fun made => .ok _
  case h_5 | h_6 => exact hscope.bind fun scope => (place.blames_part _).bind fun made => .ok _
  case h_7 =>
    exact (place.blames_parsed _ _ _).bind fun leading => (place.blames_parsed _ _ _).bind fun trailing => .ok _
  case h_8 => exact (place.blames_required _ _).bind fun depth => .ok _
  case h_9 => exact blames_redirect names place block
  case h_10 | h_11 => exact blames_respond names place block
  case h_15 => exact blames_customAction names place block
  all_goals exact .ok _

private theorem blames_action (block : ActionBlock) : place.Blames (names.action place block) :=
  (blames_bareAction names place block).map _

end Names

/-! ### The block with the fault -/

/-- The fault in the logic of a group, which carries the place of the block around the group. -/
def GroupBlock.fault? (group : GroupBlock) (holder : Place) : Option ConfigError :=
  (holder.parsed Logic.parse .matchAll group.logic).fault?

namespace Names

/-- The first fault in what a block itself says, without the blocks inside it. -/
def fault? (names : Names) (place : Place) : Block → Option ConfigError
  | .map _ => none
  | .rule block =>
    (names.patternOf place block.matcher).fault?.or (block.conditions.bind fun group => group.fault? place)
  | .condition ⟨test, none⟩ => (names.test place test).fault?
  | .condition ⟨_, some group⟩ => group.fault? place
  | .action block => (names.action place block).fault?

/-- The first fault in blocks, each of which has its own. -/
def firstFault? (names : Names) (blocks : List (Place × Block)) : Option ConfigError :=
  blocks.findSome? fun entry => names.fault? entry.1 entry.2

variable (names : Names)

@[simp] theorem firstFault?_nil : names.firstFault? [] = none := rfl

private theorem firstFault?_cons (place : Place) (block : Block) (blocks : List (Place × Block)) :
    names.firstFault? ((place, block) :: blocks) = (names.fault? place block).or (names.firstFault? blocks) := by
  rw [firstFault?, List.findSome?_cons]
  cases names.fault? place block <;> rfl

private theorem firstFault?_append (front back : List (Place × Block)) :
    names.firstFault? (front ++ back) = (names.firstFault? front).or (names.firstFault? back) :=
  List.findSome?_append

mutual

private theorem fault?_group : ∀ (block : GroupBlock) (holder : Place) (step : Step),
    (names.group holder step block).fault? =
      (block.fault? holder).or (names.firstFault? (block.blocks (holder.inside step)))
  | ⟨logic, trackCaptures, items⟩, holder, step => by
    rw [group, GroupBlock.blocks]
    exact Except.fault?_bind fun logic => fault?_groupItems items (holder.inside step) 0 _

private theorem fault?_groupItems :
    ∀ (blocks : List ConditionBlock) (place : Place) (index : Nat) (list : ConditionList),
    (names.groupItems place index list blocks).fault? =
      names.firstFault? (ConditionBlock.blocksFrom place index blocks)
  | [], _, _, _ => rfl
  | block :: blocks, place, index, list => by
    rw [groupItems, ConditionBlock.blocksFrom, firstFault?_append, ← fault?_condition block]
    exact Except.fault?_bind fun condition => fault?_groupItems blocks place (index + 1) _

private theorem fault?_condition : ∀ (block : ConditionBlock) (place : Place),
    (names.condition place block).fault? = names.firstFault? (block.blocks place)
  | ⟨test, none⟩, place => by
    rw [condition, ConditionBlock.blocks, firstFault?_cons, firstFault?_nil, Option.or_none]
    rfl
  | ⟨test, some block⟩, place => by
    rw [condition, ConditionBlock.blocks, firstFault?_cons, Except.fault?_bind_ok, fault?_group block place .group]
    rfl

end

private theorem fault?_actionsOf (place : Place) (index : Nat) (blocks : List ActionBlock) :
    (names.actionsOf place index blocks).fault? = names.firstFault? (ActionBlock.blocksFrom place index blocks) := by
  induction blocks generalizing index with
  | nil => rfl
  | cons block blocks ih =>
    rw [actionsOf, ActionBlock.blocksFrom, firstFault?_cons]
    refine Except.fault?_bind fun action => ?_
    rw [Except.fault?_bind_ok, ih]

private theorem fault?_conditionsOf (place : Place) (conditions : Option GroupBlock) :
    (names.conditionsOf place conditions).fault? =
      (conditions.bind fun group => group.fault? place).or
        (names.firstFault? (RuleBlock.conditionBlocks place conditions)) := by
  cases conditions with
  | none => rfl
  | some group =>
    rw [conditionsOf, Except.fault?_map, fault?_group]
    rfl

end Names

mutual

/-- The blocks of a rule that are compiled; in a disabled one there are none. -/
def RuleBlock.liveBlocks (place : Place) : RuleBlock → List (Place × Block)
  | ⟨name, stop, dynamic, enabled, matcher, conditions, actions, rules⟩ =>
    if enabled then
      (place, .rule ⟨name, stop, dynamic, enabled, matcher, conditions, actions, rules⟩)
        :: RuleBlock.conditionBlocks place conditions
        ++ ActionBlock.blocksFrom place 0 actions ++ RuleBlock.liveBlocksFrom place 0 rules
    else []

/-- The blocks of rules that are compiled, counted from an index. -/
def RuleBlock.liveBlocksFrom (place : Place) (index : Nat) : List RuleBlock → List (Place × Block)
  | [] => []
  | block :: blocks =>
    block.liveBlocks (place.inside (.rule index)) ++ RuleBlock.liveBlocksFrom place (index + 1) blocks

end

mutual

private theorem RuleBlock.liveBlocks_sublist : ∀ (block : RuleBlock) (place : Place),
    (block.liveBlocks place).Sublist (block.blocks place)
  | ⟨name, stop, dynamic, enabled, matcher, conditions, actions, rules⟩, place => by
    rw [liveBlocks, blocks_eq]
    split
    · exact ((List.Sublist.refl _).append (.refl _)).append (liveBlocksFrom_sublist rules place 0)
    · exact List.nil_sublist _

private theorem RuleBlock.liveBlocksFrom_sublist : ∀ (blocks : List RuleBlock) (place : Place) (index : Nat),
    (liveBlocksFrom place index blocks).Sublist (blocksFrom place index blocks)
  | [], _, _ => .slnil
  | block :: blocks, place, index => by
    rw [liveBlocksFrom, blocksFrom]
    exact (liveBlocks_sublist block _).append (liveBlocksFrom_sublist blocks place (index + 1))

end

/-- The parts of a rule are read in the order of its pattern, its conditions, its actions and its nested rules. -/
private theorem RuleBlock.fault?_parts (names : Names) (place : Place) (index : Nat) (block : RuleBlock) :
    (block.parts names place index).fault? =
      (names.patternOf place block.matcher).fault?.or
        ((names.conditionsOf place block.conditions).fault?.or
          ((names.actionsOf place 0 block.actions).fault?.or
            (compileRules names place 0 block.rules).result.fault?)) := by
  refine Except.fault?_bind fun pattern => ?_
  refine Except.fault?_bind fun conditions => ?_
  refine Except.fault?_bind fun actions => ?_
  exact Except.fault?_bind_ok _ _

mutual

private theorem fault?_compileRule (names : Names) : ∀ (block : RuleBlock) (place : Place) (index : Nat),
    (compileRule names place index block).result.fault? = names.firstFault? (block.liveBlocks place)
  | ⟨name, stop, dynamic, enabled, matcher, conditions, actions, rules⟩, place, index => by
    rw [result_compileRule, RuleBlock.liveBlocks]
    cases enabled with
    | false => rfl
    | true =>
      rw [if_pos rfl, if_pos rfl, Except.fault?_map, RuleBlock.fault?_parts, names.fault?_conditionsOf,
        names.fault?_actionsOf, fault?_compileRules names rules place 0]
      simp only [Names.firstFault?_append, Names.firstFault?_cons, Names.fault?, List.cons_append, Option.or_assoc]

private theorem fault?_compileRules (names : Names) : ∀ (blocks : List RuleBlock) (place : Place) (index : Nat),
    (compileRules names place index blocks).result.fault? =
      names.firstFault? (RuleBlock.liveBlocksFrom place index blocks)
  | [], _, _ => rfl
  | block :: blocks, place, index => by
    rw [compileRules, RuleBlock.liveBlocksFrom, names.firstFault?_append, ← fault?_compileRule names block _ index,
      Logged.result_bind]
    refine Except.fault?_bind fun rule => ?_
    simp only [Logged.result_bind, Logged.result_pure, Except.fault?_bind_ok]
    exact fault?_compileRules names blocks place (index + 1)

end

/-! ### Faults of documents -/

/-- The fault of a block carries the place of the block; in a rule it may carry that of the pattern. -/
private theorem Names.place?_of_fault? {names : Names} {place : Place} {block : Block} {fault : ConfigError}
    (h : names.fault? place block = some fault) :
    fault.place? = some place ∨ ∃ rule, block = .rule rule ∧ fault.place? = some (place.inside .pattern) := by
  have hlogic (group : GroupBlock) (hfault : group.fault? place = some fault) : fault.place? = some place :=
    place.blames_parsed _ _ _ fault (Except.fault?_eq_some.mp hfault)
  unfold fault? at h
  split at h
  · cases h
  · rename_i rule
    obtain hpattern | ⟨-, hgroup⟩ := Option.or_eq_some_iff.mp h
    · refine .inr ⟨rule, rfl, ?_⟩
      unfold patternOf at hpattern
      split at hpattern
      · rw [Except.fault?_map] at hpattern
        exact blames_pattern names _ _ fault (Except.fault?_eq_some.mp hpattern)
      · cases hpattern
    · obtain ⟨group, -, hgroup⟩ := Option.bind_eq_some_iff.mp hgroup
      exact .inl (hlogic _ hgroup)
  · exact .inl (blames_test names place _ fault (Except.fault?_eq_some.mp h))
  · exact .inl (hlogic _ h)
  · exact .inl (blames_action names place _ fault (Except.fault?_eq_some.mp h))

namespace Document

/-- The blocks of the rules that are compiled. -/
def liveBlocks (document : Document) (file : String) : List (Place × Block) :=
  RuleBlock.liveBlocksFrom ⟨file, []⟩ 0 (document.rules.getD [])

/-- Compiling stops with the fault of a block: the lookup tables are made, and no block in front of it has a fault. -/
def StopsAt (document : Document) (file : String) (registry : Registry) (place : Place) (block : Block)
    (fault : ConfigError) : Prop :=
  ∃ tables before behind,
    (compileTables ⟨file, []⟩ 0 [] document.maps).result = .ok tables ∧
    document.liveBlocks file = before ++ (place, block) :: behind ∧
    (∀ entry ∈ before, Names.fault? ⟨tables, registry⟩ entry.1 entry.2 = none) ∧
    Names.fault? ⟨tables, registry⟩ place block = some fault

private theorem stopsAt_iff {document : Document} {file : String} {registry : Registry} {fault : ConfigError} :
    (∃ place block, document.StopsAt file registry place block fault) ↔
      ∃ tables, (compileTables ⟨file, []⟩ 0 [] document.maps).result = .ok tables ∧
        Names.firstFault? ⟨tables, registry⟩ (document.liveBlocks file) = some fault := by
  unfold Names.firstFault?
  constructor
  · rintro ⟨place, block, tables, before, behind, htables, hlive, hbefore, hfault⟩
    exact ⟨tables, htables, List.findSome?_eq_some_iff.mpr ⟨before, (place, block), behind, hlive, hfault, hbefore⟩⟩
  · rintro ⟨tables, htables, hfirst⟩
    obtain ⟨before, ⟨place, block⟩, behind, hlive, hfault, hbefore⟩ := List.findSome?_eq_some_iff.mp hfirst
    exact ⟨place, block, tables, before, behind, htables, hlive, hbefore, hfault⟩

private theorem mem_blocks_of_stopsAt {document : Document} {file : String} {registry : Registry} {place : Place}
    {block : Block} {fault : ConfigError} (h : document.StopsAt file registry place block fault) :
    (place, block) ∈ document.blocks file := by
  obtain ⟨_, before, behind, -, hlive, -, -⟩ := h
  have hmem : (place, block) ∈ document.liveBlocks file := by simp [hlive]
  exact List.mem_append_right _ ((RuleBlock.liveBlocksFrom_sublist _ _ _).subset hmem)

/-- The tables are compiled first, and then the blocks of the rules. -/
private theorem fault?_compile (document : Document) (file : String) (registry : Registry) :
    (document.compile file registry).result.fault? =
      match (compileTables ⟨file, []⟩ 0 [] document.maps).result with
      | .error fault => some fault
      | .ok tables =>
        if document.rules.isSome then Names.firstFault? ⟨tables, registry⟩ (document.liveBlocks file)
        else some (.noRules file) := by
  unfold compile
  rw [Logged.result_bind]
  cases (compileTables ⟨file, []⟩ 0 [] document.maps).result with
  | error fault => rfl
  | ok tables =>
    unfold liveBlocks
    cases document.rules with
    | none => rfl
    | some blocks =>
      have hrules := fault?_compileRules ⟨tables, registry⟩ blocks ⟨file, []⟩ 0
      refine Eq.trans ?_ hrules
      change (Logged.result (_ >>= _)).fault? = _
      simp only [Logged.result_bind, Logged.result_report, Logged.result_pure]
      exact Except.fault?_bind_ok _ _

/-- A document fails to compile in its lookup tables, for want of rules, or at a block of a rule. -/
theorem compile_eq_error {document : Document} {file : String} {registry : Registry} {fault : ConfigError} :
    (document.compile file registry).result = .error fault ↔
      (compileTables ⟨file, []⟩ 0 [] document.maps).result = .error fault ∨
      ((∃ tables, (compileTables ⟨file, []⟩ 0 [] document.maps).result = .ok tables) ∧ document.rules = none ∧
        fault = .noRules file) ∨
      ∃ place block, document.StopsAt file registry place block fault := by
  rw [← Except.fault?_eq_some, fault?_compile, stopsAt_iff]
  cases (compileTables ⟨file, []⟩ 0 [] document.maps).result with
  | error first => simp
  | ok tables =>
    cases hrules : document.rules with
    | none => simp [liveBlocks, hrules, RuleBlock.liveBlocksFrom, eq_comm]
    | some blocks => simp

/-- The displayed place of a block leads to that block and to no other, for every block that steps from the top lead to.
Where compiling stops at a block, the fault carries the place of the block: for a condition or an action nothing else,
for a rule that or the place of its pattern. -/
theorem places_identify (document : Document) (file : String) :
    (∀ place block, (place, block) ∈ document.blocks file ↔
      place.file = file ∧ document.find? place.steps = some block) ∧
    (∀ place block, (place, block) ∈ document.blocks file → document.at? place.path = some block) ∧
    (((document.blocks file).map Prod.fst).map Place.describe).Nodup ∧
    (∀ registry fault, (document.compile file registry).result = .error fault ↔
      (compileTables ⟨file, []⟩ 0 [] document.maps).result = .error fault ∨
      ((∃ tables, (compileTables ⟨file, []⟩ 0 [] document.maps).result = .ok tables) ∧ document.rules = none ∧
        fault = .noRules file) ∨
      ∃ place block, document.StopsAt file registry place block fault) ∧
    ∀ registry place block fault, document.StopsAt file registry place block fault →
      (place, block) ∈ document.blocks file ∧
      (fault.place? = some place ∨ ∃ rule, block = .rule rule ∧ fault.place? = some (place.inside .pattern)) := by
  refine ⟨fun place block => mem_blocks_iff, fun place block => at?_path, nodup_describe document file,
    fun registry fault => compile_eq_error, fun registry place block fault hstops => ?_⟩
  have hmem := mem_blocks_of_stopsAt hstops
  obtain ⟨_, _, _, -, -, -, hfault⟩ := hstops
  exact ⟨hmem, Names.place?_of_fault? hfault⟩

end Document

end Reroute
