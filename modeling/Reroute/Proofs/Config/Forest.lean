import Reroute.Proofs.Config.Actions
import Reroute.Proofs.Config.Lowering

/-!
# The rules of a document and of what it compiles to

A rules document is a forest of blocks, some of them disabled.  What it compiles to holds rules as well, but out of
sight: the nested rules of a rule are the last step of a sequence, which may stand for its only step.  Read as forests
of names and flags, both are the same, once what is disabled is left out with everything in it
(`forest_compileRules`).  So no rule is lost, made twice or moved, and the rules are counted right.  What stands inside
a disabled rule is not even looked at (`Document.result_compile_blanked`).
-/

namespace Reroute

/-! ### Rules as they are listed -/

/-- A rule as it is listed: its name, whether it stops, whether it is dynamic, and the rules nested in it. -/
inductive RuleTree where
  | node (name : String) (stop dynamic : Bool) (nested : List RuleTree)

mutual

/-- The number of rules in a tree. -/
def RuleTree.count : RuleTree → Nat
  | .node _ _ _ nested => 1 + RuleTree.countOf nested

/-- The number of rules in trees. -/
def RuleTree.countOf : List RuleTree → Nat
  | [] => 0
  | tree :: trees => tree.count + RuleTree.countOf trees

end

private theorem RuleTree.countOf_append (front back : List RuleTree) :
    countOf (front ++ back) = countOf front + countOf back := by
  induction front with
  | nil => rw [List.nil_append, countOf, Nat.zero_add]
  | cons tree front ih => rw [List.cons_append, countOf, countOf, ih, Nat.add_assoc]

mutual

/-- The rules in the lists below an action. -/
def Action.forest : Action → List RuleTree
  | .sequence steps => Action.forestOf steps
  | .rules list => list.forest
  | _ => []

/-- The rules in the lists below actions. -/
def Action.forestOf : List Action → List RuleTree
  | [] => []
  | action :: actions => action.forest ++ Action.forestOf actions

/-- A rule with the rules below its action. -/
def Rule.tree : Rule → RuleTree
  | ⟨name, stop, dynamic, _, none⟩ => .node name stop dynamic []
  | ⟨name, stop, dynamic, _, some action⟩ => .node name stop dynamic action.forest

/-- Rules with the rules below them. -/
def Rule.forestOf : List Rule → List RuleTree
  | [] => []
  | rule :: rules => rule.tree :: Rule.forestOf rules

/-- The rules of a list. -/
def RuleList.forest : RuleList → List RuleTree
  | ⟨_, _, rules⟩ => Rule.forestOf rules

end

mutual

/-- The rule of a block at a position, with the rules in it; a disabled block makes none, and neither does anything in
it. -/
def RuleBlock.tree? (index : Nat) : RuleBlock → Option RuleTree
  | ⟨name, stop, dynamic, enabled, _, _, _, rules⟩ =>
    if enabled then some (.node (name.getD ("rule-" ++ toString index)) stop dynamic (RuleBlock.forest 0 rules))
    else none

/-- The rules of blocks counted from an index; disabled ones count. -/
def RuleBlock.forest (index : Nat) : List RuleBlock → List RuleTree
  | [] => []
  | block :: blocks => (block.tree? index).toList ++ RuleBlock.forest (index + 1) blocks

end

/-! ### Counting -/

mutual

private theorem Action.ruleCount_eq : ∀ action : Action, action.ruleCount = RuleTree.countOf action.forest
  | .sequence steps => by rw [Action.ruleCount, Action.forest, Action.ruleCountOf_eq steps]
  | .rules list => by rw [Action.ruleCount, Action.forest, RuleList.ruleCount_eq list]
  | .replace _ _ | .append _ _ | .insert _ _ | .delete _ | .keep _ | .normalize _ _ | .truncate _ | .redirect _
  | .respond _ | .abort | .doNothing _ | .custom _ => rfl

private theorem Action.ruleCountOf_eq : ∀ actions : List Action,
    Action.ruleCountOf actions = RuleTree.countOf (Action.forestOf actions)
  | [] => rfl
  | action :: actions => by
    rw [Action.ruleCountOf, Action.forestOf, RuleTree.countOf_append, Action.ruleCount_eq action,
      Action.ruleCountOf_eq actions]

private theorem Rule.ruleCount_eq : ∀ rule : Rule, rule.ruleCount = rule.tree.count
  | ⟨_, _, _, _, none⟩ => rfl
  | ⟨_, _, _, _, some action⟩ => by rw [Rule.ruleCount, Rule.tree, RuleTree.count, Action.ruleCount_eq action]

private theorem Rule.ruleCountOf_eq : ∀ rules : List Rule,
    Rule.ruleCountOf rules = RuleTree.countOf (Rule.forestOf rules)
  | [] => rfl
  | rule :: rules => by
    rw [Rule.ruleCountOf, Rule.forestOf, RuleTree.countOf, Rule.ruleCount_eq rule, Rule.ruleCountOf_eq rules]

/-- The rules of a list are counted as they are listed. -/
private theorem RuleList.ruleCount_eq : ∀ list : RuleList, list.ruleCount = RuleTree.countOf list.forest
  | ⟨_, _, rules⟩ => by rw [RuleList.ruleCount, RuleList.forest, Rule.ruleCountOf_eq rules]

end

/-! ### Rules behind merged actions -/

namespace Action

private theorem forestOf_append (front back : List Action) :
    forestOf (front ++ back) = forestOf front ++ forestOf back := by
  induction front with
  | nil => rfl
  | cons action front ih => rw [List.cons_append, forestOf, forestOf, ih, List.append_assoc]

private theorem forestOf_singleton (action : Action) : forestOf [action] = action.forest := by
  rw [forestOf, forestOf, List.append_nil]

private theorem forestOf_spliced (action : Action) : forestOf action.spliced = action.forest := by
  unfold spliced
  split
  · rw [forest]
  · exact forestOf_singleton _

/-- Merging sequences moves no rule. -/
private theorem forestOf_flatMap_spliced (actions : List Action) :
    forestOf (actions.flatMap spliced) = forestOf actions := by
  induction actions with
  | nil => rfl
  | cons action actions ih => rw [List.flatMap_cons, forestOf_append, forestOf_spliced, ih, forestOf]

end Action

/-- A single action that stands for its list holds the same rules. -/
private theorem ActionList.forest_toAction (list : ActionList) : list.toAction.forest = Action.forestOf list.steps := by
  unfold toAction
  split
  · rename_i only honly
    rw [honly, Action.forestOf_singleton]
  · rw [Action.forest]

/-- A rule that was put together holds the rules of its steps. -/
private theorem Rule.tree_assemble (name : String) (stop dynamic : Bool) (conditions : ConditionList)
    (actions : ActionList) :
    (Rule.assemble name stop dynamic conditions actions).tree =
      .node name stop dynamic (Action.forestOf actions.steps) := by
  unfold Rule.assemble
  by_cases hempty : actions.steps.isEmpty = true
  · rw [if_pos hempty, Rule.tree, List.isEmpty_iff.mp hempty, Action.forestOf]
  · rw [if_neg hempty, Rule.tree, ActionList.forest_toAction]

/-- The rules of a rule made of parts are those of its steps, merged or not. -/
private theorem RuleParts.tree_assemble (parts : RuleParts) :
    parts.assemble.tree = .node parts.name parts.stop parts.dynamic (Action.forestOf parts.steps) := by
  rw [assemble, Rule.tree_assemble, ActionList.foldl_push_eq, ActionList.empty, List.nil_append,
    Action.forestOf_flatMap_spliced]

/-! ### Actions of a document -/

/-- No action that is made of a block holds rules, whatever its kind. -/
private theorem Action.Configured.forest {block : ActionBlock} {action : Action} (h : action.Configured block) :
    action.forest = [] := by
  cases action with
  | sequence | rules => exact h.elim
  | replace | append | insert | delete | keep | normalize | truncate | redirect | respond | abort | doNothing
  | custom => rfl

namespace Names

variable (names : Names) (place : Place) (block : ActionBlock)

private theorem forest_action : (names.action place block).Yields fun action => action.forest = [] := by
  intro action h
  obtain ⟨bare, hbare, rfl⟩ := Except.map_eq_ok.mp h
  have hforest : bare.forest = [] := (configured_bareAction names place block bare hbare).forest
  unfold Action.withFlags
  dsimp only
  split
  · exact hforest
  · rw [ActionList.forest_toAction, ActionList.push_eq, ActionList.push_eq, ActionList.empty, List.nil_append,
      Action.forestOf_append, Action.forestOf_spliced, Action.forestOf_spliced, hforest]
    rfl

private theorem forestOf_actionsOf (index : Nat) (blocks : List ActionBlock) :
    (names.actionsOf place index blocks).Yields fun actions => Action.forestOf actions = [] := by
  induction blocks generalizing index with
  | nil => exact .ok rfl
  | cons block blocks ih =>
    intro actions h
    obtain ⟨action, haction, h⟩ := Except.bind_eq_ok.mp h
    obtain ⟨rest, hrest, h⟩ := Except.bind_eq_ok.mp h
    cases h
    rw [Action.forestOf, forest_action names _ block action haction, ih _ rest hrest, List.nil_append]

end Names

/-! ### Rules of a document -/

/-- The rule of a block holds what its nested blocks compile to, and nothing else. -/
private theorem RuleBlock.tree_assemble {names : Names} {place : Place} {index : Nat} {block : RuleBlock}
    {parts : RuleParts} (h : block.parts names place index = .ok parts) :
    ∃ rules, (compileRules names place 0 block.rules).result = .ok rules ∧
      parts.assemble.tree = .node (ruleName block.name index) block.stop block.dynamic (Rule.forestOf rules) := by
  obtain ⟨pattern, -, h⟩ := Except.bind_eq_ok.mp h
  obtain ⟨group, -, h⟩ := Except.bind_eq_ok.mp h
  obtain ⟨actions, hactions, h⟩ := Except.bind_eq_ok.mp h
  obtain ⟨rules, hrules, h⟩ := Except.bind_eq_ok.mp h
  cases h
  refine ⟨rules, hrules, ?_⟩
  have hnone : Action.forestOf actions = [] := names.forestOf_actionsOf place 0 block.actions actions hactions
  rw [RuleParts.tree_assemble, RuleParts.steps, Action.forestOf_append, hnone, List.nil_append]
  by_cases hempty : block.rules.isEmpty = true
  · rw [List.isEmpty_iff.mp hempty] at hrules
    cases hrules
    rw [if_pos hempty]
    rfl
  · rw [if_neg hempty, Option.map_some, Option.toList_some, Action.forestOf_singleton, Action.forest, RuleList.forest]

mutual

private theorem tree_compileRule {names : Names} :
    ∀ {block : RuleBlock} {place : Place} {index : Nat} {made : Option Rule},
    (compileRule names place index block).result = .ok made → made.map Rule.tree = block.tree? index
  | ⟨name, stop, dynamic, enabled, matcher, conditions, actions, rules⟩, place, index, made, h => by
    rw [result_compileRule] at h
    cases enabled with
    | false =>
      cases h
      rfl
    | true =>
      obtain ⟨parts, hparts, rfl⟩ := Except.map_eq_ok.mp h
      obtain ⟨nested, hnested, htree⟩ := RuleBlock.tree_assemble hparts
      have hforest : Rule.forestOf nested = RuleBlock.forest 0 rules := forest_compileRules hnested
      rw [Option.map_some, htree, hforest]
      rfl

/-- Blocks compile to the rules that are listed in them, in the same order. -/
theorem forest_compileRules {names : Names} : ∀ {blocks : List RuleBlock} {place : Place} {index : Nat}
    {rules : List Rule}, (compileRules names place index blocks).result = .ok rules →
    Rule.forestOf rules = RuleBlock.forest index blocks
  | [], _, _, _, h => by
    cases h
    rfl
  | block :: blocks, place, index, rules, h => by
    rw [compileRules] at h
    simp only [Logged.result_bind] at h
    obtain ⟨made, hmade, h⟩ := Except.bind_eq_ok.mp h
    obtain ⟨rest, hrest, h⟩ := Except.bind_eq_ok.mp h
    cases h
    rw [RuleBlock.forest, ← tree_compileRule hmade, ← forest_compileRules hrest]
    cases made <;> rfl

end

/-! ### Disabled rules -/

mutual

/-- A block with nothing left inside of disabled ones. -/
def RuleBlock.blanked : RuleBlock → RuleBlock
  | ⟨name, stop, dynamic, enabled, matcher, conditions, actions, rules⟩ =>
    if enabled then ⟨name, stop, dynamic, true, matcher, conditions, actions, RuleBlock.blankedAll rules⟩
    else { RuleBlock.empty with enabled := false }

/-- Blocks with nothing left inside of disabled ones. -/
def RuleBlock.blankedAll : List RuleBlock → List RuleBlock
  | [] => []
  | block :: blocks => block.blanked :: RuleBlock.blankedAll blocks

end

/-- A document with nothing left inside of disabled rules. -/
def Document.blanked (document : Document) : Document :=
  { document with rules := document.rules.map RuleBlock.blankedAll }

private theorem RuleBlock.isEmpty_blankedAll (blocks : List RuleBlock) :
    (blankedAll blocks).isEmpty = blocks.isEmpty := by
  cases blocks <;> rfl

mutual

private theorem result_compileRule_blanked (names : Names) : ∀ (block : RuleBlock) (place : Place) (index : Nat),
    (compileRule names place index block.blanked).result = (compileRule names place index block).result
  | ⟨name, stop, dynamic, enabled, matcher, conditions, actions, rules⟩, place, index => by
    rw [result_compileRule, result_compileRule]
    cases enabled with
    | false => rfl
    | true =>
      have hrules := result_compileRules_blanked names rules place 0
      simp only [RuleBlock.blanked, if_pos, RuleBlock.parts, hrules, RuleBlock.isEmpty_blankedAll]

/-- What stands inside of disabled blocks is not looked at. -/
private theorem result_compileRules_blanked (names : Names) : ∀ (blocks : List RuleBlock) (place : Place) (index : Nat),
    (compileRules names place index (RuleBlock.blankedAll blocks)).result =
      (compileRules names place index blocks).result
  | [], _, _ => rfl
  | block :: blocks, place, index => by
    rw [RuleBlock.blankedAll, compileRules, compileRules]
    simp only [Logged.result_bind, result_compileRule_blanked names block, result_compileRules_blanked names blocks]

end

namespace Document

theorem result_compile_blanked (document : Document) (file : String) (registry : Registry) :
    (document.blanked.compile file registry).result = (document.compile file registry).result := by
  obtain ⟨maps, rules⟩ := document
  cases rules with
  | none => rfl
  | some blocks =>
    simp only [compile, blanked, Option.map_some, Logged.result_bind, result_compileRules_blanked]

/-- The rules of a rule set are the enabled rules of the document it was compiled from, in order and once each, and
are counted as such; two documents that differ at most inside of disabled rules compile to the same, or fail alike. -/
theorem compile_forest (document : Document) (file : String) (registry : Registry) :
    (∀ compiled, (document.compile file registry).result = .ok compiled →
      ∃ blocks, document.rules = some blocks ∧ compiled.root.forest = RuleBlock.forest 0 blocks ∧
        compiled.ruleCount = RuleTree.countOf (RuleBlock.forest 0 blocks)) ∧
      ∀ other : Document, other.blanked = document.blanked →
        (other.compile file registry).result = (document.compile file registry).result := by
  refine ⟨?_, ?_⟩
  · intro compiled h
    obtain ⟨maps, rules⟩ := document
    cases rules with
    | none =>
      simp only [compile, Logged.result_bind] at h
      obtain ⟨tables, -, h⟩ := Except.bind_eq_ok.mp h
      cases h
    | some blocks =>
      simp only [compile, Logged.result_bind] at h
      obtain ⟨tables, -, h⟩ := Except.bind_eq_ok.mp h
      obtain ⟨rules, hrules, h⟩ := Except.bind_eq_ok.mp h
      cases h
      have hforest : Rule.forestOf rules = RuleBlock.forest 0 blocks := forest_compileRules hrules
      refine ⟨blocks, rfl, hforest, ?_⟩
      rw [RuleSet.ruleCount, RuleList.ruleCount_eq, RuleList.forest, hforest]
  · intro other hother
    rw [← result_compile_blanked other, hother, result_compile_blanked]

/-- A disabled rule among others: it counts for the name behind it, and its action is of no known kind. -/
def withSwitchedOff (name : Option String) (kind : String) : Document :=
  let switchedOff :=
    { RuleBlock.empty with name := name, enabled := false, actions := [{ ActionBlock.empty with kind }] }
  let aborting := { RuleBlock.empty with actions := [{ ActionBlock.empty with kind := "abort" }] }
  ⟨[], some [{ aborting with name := some "outer", rules := [switchedOff, { aborting with dynamic := true }] },
    switchedOff, { RuleBlock.empty with stop := true, rules := [switchedOff] }]⟩

theorem compile_forest_switchedOff :
    let listed : List RuleTree :=
      [.node "outer" false false [.node "rule-1" false true []], .node "rule-2" true false []]
    ∃ compiled, ((withSwitchedOff none "unheard of").compile "rules.hcl" .empty).result = .ok compiled ∧
      compiled.root.forest = listed ∧ compiled.ruleCount = 3 ∧
      ((withSwitchedOff (some "off") "abort").compile "rules.hcl" .empty).result = .ok compiled := by
  intro listed
  obtain ⟨hread, hsame⟩ := compile_forest (withSwitchedOff none "unheard of") "rules.hcl" .empty
  obtain ⟨compiled, h⟩ : ∃ compiled,
      ((withSwitchedOff none "unheard of").compile "rules.hcl" .empty).result = .ok compiled := ⟨_, rfl⟩
  obtain ⟨blocks, hblocks, hforest, hcount⟩ := hread compiled h
  cases hblocks
  exact ⟨compiled, h, hforest, hcount, (hsame (withSwitchedOff (some "off") "abort") rfl).trans h⟩

end Document

end Reroute
