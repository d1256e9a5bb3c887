import Reroute.Proofs.Rule.Sequence
import Reroute.Proofs.Text.Basic
import Reroute.Rule.Outline

/-!
# Rules in an outline

The rules of a list are listed with the rules around them counted, each in front of those below it.  They are counted as
they are listed, through any sequence in a sequence, while an outline opens only the sequence of a rule itself.  That is
enough, since a sequence that was put together by `push` holds no other one: so an outline has a heading for every rule,
in the order of the list and indented by the depth (`RuleList.describeTree_shows`).
-/

namespace Reroute

/-! ### Rules with their depths -/

mutual

/-- The rules in the lists below an action, those of its own lists inside `depth` rules. -/
def Action.levels (depth : Nat) : Action → List (Nat × Rule)
  | .sequence steps => Action.levelsOf depth steps
  | .rules list => list.levels depth
  | _ => []

/-- The rules in the lists below actions in a row. -/
def Action.levelsOf (depth : Nat) : List Action → List (Nat × Rule)
  | [] => []
  | action :: actions => action.levels depth ++ Action.levelsOf depth actions

/-- A rule inside `depth` others with the rules below it, each with the number of rules around it. -/
def Rule.levels (depth : Nat) : Rule → List (Nat × Rule)
  | ⟨name, stop, dynamic, condition, none⟩ => [(depth, ⟨name, stop, dynamic, condition, none⟩)]
  | ⟨name, stop, dynamic, condition, some action⟩ =>
    (depth, ⟨name, stop, dynamic, condition, some action⟩) :: action.levels (depth + 1)

/-- Rules in a row with the rules below them, each with the number of rules around it. -/
def Rule.levelsOf (depth : Nat) : List Rule → List (Nat × Rule)
  | [] => []
  | rule :: rules => rule.levels depth ++ Rule.levelsOf depth rules

/-- The rules of a list inside `depth` rules and those below them, each with the number of rules around it. -/
def RuleList.levels (depth : Nat) : RuleList → List (Nat × Rule)
  | ⟨_, _, rules⟩ => Rule.levelsOf depth rules

end

mutual

private theorem Action.length_levels (depth : Nat) : ∀ action : Action, (action.levels depth).length = action.ruleCount
  | .sequence steps => by rw [Action.levels, Action.ruleCount, Action.length_levelsOf depth steps]
  | .rules list => by rw [Action.levels, Action.ruleCount, RuleList.length_levels depth list]
  | .replace _ _ | .append _ _ | .insert _ _ | .delete _ | .keep _ | .normalize _ _ | .truncate _ | .redirect _
  | .respond _ | .abort | .doNothing _ | .custom _ => rfl

private theorem Action.length_levelsOf (depth : Nat) : ∀ actions : List Action,
    (Action.levelsOf depth actions).length = Action.ruleCountOf actions
  | [] => rfl
  | action :: actions => by
    rw [Action.levelsOf, Action.ruleCountOf, List.length_append, Action.length_levels depth action,
      Action.length_levelsOf depth actions]

private theorem Rule.length_levels (depth : Nat) : ∀ rule : Rule, (rule.levels depth).length = rule.ruleCount
  | ⟨_, _, _, _, none⟩ => rfl
  | ⟨_, _, _, _, some action⟩ => by
    rw [Rule.levels, Rule.ruleCount, List.length_cons, Action.length_levels (depth + 1) action, Nat.add_comm]

private theorem Rule.length_levelsOf (depth : Nat) : ∀ rules : List Rule,
    (Rule.levelsOf depth rules).length = Rule.ruleCountOf rules
  | [] => rfl
  | rule :: rules => by
    rw [Rule.levelsOf, Rule.ruleCountOf, List.length_append, Rule.length_levels depth rule,
      Rule.length_levelsOf depth rules]

/-- The rules of a list are counted as they are listed. -/
private theorem RuleList.length_levels (depth : Nat) : ∀ list : RuleList, (list.levels depth).length = list.ruleCount
  | ⟨_, _, rules⟩ => by rw [RuleList.levels, RuleList.ruleCount, Rule.length_levelsOf depth rules]

end

/-! ### Sequences that were put together -/

namespace Action

/-- An action whose sequences, one in the other to any depth, were put together by `push`. -/
inductive Pushed : Action → Prop
  | single {action : Action} (h : ∀ steps, action ≠ .sequence steps) : Pushed action
  | sequence {actions : List Action} (h : ∀ action ∈ actions, Pushed action) :
      Pushed (.sequence (actions.foldl ActionList.push .empty).steps)

/-- Whatever is pushed, no sequence gets into the list. -/
private theorem Pushed.ne_sequence {action : Action} (h : action.Pushed) :
    ∀ step ∈ action.spliced, ∀ steps, step ≠ .sequence steps := by
  induction h with
  | @single action hsingle =>
    have hspliced : action.spliced = [action] := by
      unfold spliced
      split
      · exact absurd rfl (hsingle _)
      · rfl
    intro step hstep
    rw [hspliced, List.mem_singleton] at hstep
    rwa [hstep]
  | @sequence actions _ ih =>
    intro step hstep
    rw [spliced, ActionList.foldl_push_eq, ActionList.empty, List.nil_append] at hstep
    obtain ⟨action, haction, hmem⟩ := List.mem_flatMap.mp hstep
    exact ih action haction step hmem

private theorem describe_sequence (steps : List Action) :
    describe (.sequence steps) = "[" ++ Text.join "; " (steps.map describe) ++ "]" := by
  have hall : ∀ actions, describeAll actions = actions.map describe := by
    intro actions
    induction actions with
    | nil => rfl
    | cons action actions ih => exact congrArg (action.describe :: ·) ih
  rw [← hall]
  rfl

/-- The steps of a sequence are described in its description. -/
private theorem mem_describe_sequence {c : Char} {steps : List Action} {step : Action} (hstep : step ∈ steps)
    (h : c ∈ step.describe.toList) : c ∈ (describe (.sequence steps)).toList := by
  have hjoined : c ∈ (Text.join "; " (steps.map describe)).toList :=
    Text.mem_join_of_mem "; " (List.mem_map_of_mem hstep) h
  rw [describe_sequence, String.toList_append, String.toList_append]
  exact List.mem_append_left _ (List.mem_append_right _ hjoined)

/-- The steps are written one after the other where none of them is a sequence. -/
private theorem outlineSteps_cons (depth : Nat) {step : Action} (h : ∀ inner, step ≠ .sequence inner)
    (steps : List Action) :
    outlineSteps depth (step :: steps) = step.outline depth ++ outlineSteps depth steps := by
  cases step with
  | sequence inner => exact absurd rfl (h inner)
  | _ => rfl

end Action

/-! ### Headings -/

/-- The line at which a rule begins: two blanks for every rule around it, the name in quotes, and the flags. -/
def Rule.heading (level : Nat × Rule) : String :=
  String.ofList (List.replicate (2 * level.1) ' ') ++ Rule.head level.2.name level.2.stop level.2.dynamic

/-- A line at which a rule begins, however far it is indented. -/
def IsHeading (line : String) : Prop := "rule '".toList <+: line.toList.dropWhile (· == ' ')

instance : DecidablePred IsHeading := fun _ => inferInstanceAs (Decidable (_ <+: _))

private theorem isHeading_indent_append (depth : Nat) (text : String) :
    IsHeading (Event.indent depth ++ text) ↔ IsHeading text := by
  have hblank : ∀ c ∈ List.replicate (2 * depth) ' ', (c == ' ') = true := by simp
  simp only [IsHeading, Event.indent, String.toList_append, String.toList_ofList, List.dropWhile_append_of_pos hblank]

private theorem isHeading_heading (level : Nat × Rule) : IsHeading (Rule.heading level) := by
  refine (isHeading_indent_append level.1 _).mpr ?_
  simp [IsHeading, Rule.head]

private theorem not_isHeading_condition (depth : Nat) (condition : Condition) :
    ¬IsHeading (condition.outlineLine depth) := by
  rw [Condition.outlineLine, String.append_assoc, isHeading_indent_append]
  simp [IsHeading]

private theorem not_isHeading_action (depth : Nat) (action : Action) : ¬IsHeading (action.outlineLine depth) := by
  rw [Action.outlineLine, String.append_assoc, isHeading_indent_append]
  simp [IsHeading]

/-! ### Lines for rules -/

/-- A rule that can be shown line by line: no line breaks in its name or in what its condition and its action are
described by, and its sequences were put together by `push`. -/
structure Rule.Outlinable (rule : Rule) : Prop where
  name : '\n' ∉ rule.name.toList
  condition : ∀ condition ∈ rule.condition, '\n' ∉ condition.describe.toList
  action : ∀ action ∈ rule.action, '\n' ∉ action.describe.toList
  pushed : ∀ action ∈ rule.action, action.Pushed

/-- Whole lines, among them a heading for each of the rules in their order. -/
structure ShowsRules (lines : List String) (levels : List (Nat × Rule)) : Prop where
  headings : lines.filter (IsHeading ·) = levels.map Rule.heading
  unbroken : ∀ line ∈ lines, '\n' ∉ line.toList

namespace ShowsRules

private theorem nil : ShowsRules [] [] := ⟨rfl, by simp⟩

private theorem append {front back : List String} {above below : List (Nat × Rule)} (hfront : ShowsRules front above)
    (hback : ShowsRules back below) : ShowsRules (front ++ back) (above ++ below) where
  headings := by rw [List.filter_append, hfront.headings, hback.headings, List.map_append]
  unbroken line hline := (List.mem_append.mp hline).elim (hfront.unbroken line) (hback.unbroken line)

private theorem heading {level : Nat × Rule} (h : '\n' ∉ level.2.name.toList) :
    ShowsRules [Rule.heading level] [level] where
  headings := by simp [isHeading_heading]
  unbroken line hline := by
    rw [List.mem_singleton.mp hline]
    cases hstop : level.2.stop <;> cases hdynamic : level.2.dynamic <;>
      simp [Rule.heading, Rule.head, h, hstop, hdynamic]

private theorem condition (depth : Nat) {condition : Option Condition} (h : ∀ c ∈ condition, '\n' ∉ c.describe.toList) :
    ShowsRules (condition.map (·.outlineLine depth)).toList [] := by
  cases condition with
  | none => exact nil
  | some condition =>
    refine ⟨by simp [not_isHeading_condition], fun line hline => ?_⟩
    rw [Option.map_some, Option.toList_some, List.mem_singleton] at hline
    simp [hline, Condition.outlineLine, Event.indent, h condition rfl]

private theorem action (depth : Nat) {action : Action} (h : '\n' ∉ action.describe.toList) :
    ShowsRules [action.outlineLine depth] [] := by
  refine ⟨by simp [not_isHeading_action], fun line hline => ?_⟩
  rw [List.mem_singleton] at hline
  simp [hline, Action.outlineLine, Event.indent, h]

end ShowsRules

mutual

private theorem Action.outline_showsRules (depth : Nat) :
    ∀ action : Action, action.Pushed → '\n' ∉ action.describe.toList →
    (∀ level ∈ action.levels (depth + 1), level.2.Outlinable) →
      ShowsRules (action.outline depth) (action.levels (depth + 1))
  | .sequence steps, hpushed, hdescribe, hlevels => by
    have hsteps : ∀ step ∈ steps, '\n' ∉ step.describe.toList := fun step hstep hbreak =>
      hdescribe (Action.mem_describe_sequence hstep hbreak)
    exact Action.outlineSteps_showsRules depth steps hpushed.ne_sequence hsteps hlevels
  | .rules list, _, _, hlevels => RuleList.outline_showsRules (depth + 1) list hlevels
  | .replace _ _, _, hdescribe, _ | .append _ _, _, hdescribe, _ | .insert _ _, _, hdescribe, _
  | .delete _, _, hdescribe, _ | .keep _, _, hdescribe, _ | .normalize _ _, _, hdescribe, _
  | .truncate _, _, hdescribe, _ | .redirect _, _, hdescribe, _ | .respond _, _, hdescribe, _
  | .abort, _, hdescribe, _ | .doNothing _, _, hdescribe, _ | .custom _, _, hdescribe, _ =>
    ShowsRules.action depth hdescribe

private theorem Action.outlineSteps_showsRules (depth : Nat) : ∀ steps : List Action,
    (∀ step ∈ steps, ∀ inner, step ≠ .sequence inner) → (∀ step ∈ steps, '\n' ∉ step.describe.toList) →
      (∀ level ∈ Action.levelsOf (depth + 1) steps, level.2.Outlinable) →
        ShowsRules (Action.outlineSteps depth steps) (Action.levelsOf (depth + 1) steps)
  | [], _, _, _ => ShowsRules.nil
  | step :: steps, hflat, hdescribe, hlevels => by
    obtain ⟨hstep, hsteps⟩ := List.forall_mem_cons.mp hflat
    obtain ⟨hfirst, hrest⟩ := List.forall_mem_cons.mp hdescribe
    obtain ⟨hbelow, hbehind⟩ := List.forall_mem_append.mp hlevels
    rw [Action.outlineSteps_cons depth hstep, Action.levelsOf]
    exact (Action.outline_showsRules depth step (.single hstep) hfirst hbelow).append
      (Action.outlineSteps_showsRules depth steps hsteps hrest hbehind)

private theorem Rule.outline_showsRules (depth : Nat) : ∀ rule : Rule,
    (∀ level ∈ rule.levels depth, level.2.Outlinable) → ShowsRules (rule.outline depth) (rule.levels depth)
  | ⟨name, stop, dynamic, condition, none⟩, hlevels => by
    have hrule := hlevels _ List.mem_cons_self
    exact (ShowsRules.heading hrule.name).append (ShowsRules.condition depth hrule.condition)
  | ⟨name, stop, dynamic, condition, some action⟩, hlevels => by
    obtain ⟨hrule, hbelow⟩ := List.forall_mem_cons.mp hlevels
    have hfront := (ShowsRules.heading hrule.name).append (ShowsRules.condition depth hrule.condition)
    exact hfront.append
      (Action.outline_showsRules depth action (hrule.pushed action rfl) (hrule.action action rfl) hbelow)

private theorem Rule.outlineAll_showsRules (depth : Nat) : ∀ rules : List Rule,
    (∀ level ∈ Rule.levelsOf depth rules, level.2.Outlinable) →
      ShowsRules (Rule.outlineAll depth rules) (Rule.levelsOf depth rules)
  | [], _ => ShowsRules.nil
  | rule :: rules, hlevels => by
    obtain ⟨hrule, hrules⟩ := List.forall_mem_append.mp hlevels
    exact (Rule.outline_showsRules depth rule hrule).append (Rule.outlineAll_showsRules depth rules hrules)

/-- The outline of a list shows its rules and those below them. -/
private theorem RuleList.outline_showsRules (depth : Nat) : ∀ list : RuleList,
    (∀ level ∈ list.levels depth, level.2.Outlinable) → ShowsRules (list.outline depth) (list.levels depth)
  | ⟨_, _, rules⟩, hlevels => Rule.outlineAll_showsRules depth rules hlevels

end

theorem RuleList.describeTree_shows (list : RuleList) (h : ∀ level ∈ list.levels 0, level.2.Outlinable) :
    let headings := (Text.split '\n' list.describeTree).filter (IsHeading ·)
    headings = (list.levels 0).map Rule.heading ∧ headings.length = list.ruleCount := by
  have hshows := RuleList.outline_showsRules 0 list h
  have hlines : Text.split '\n' list.describeTree = list.outline 0 ++ [""] :=
    Text.split_join_ended rfl hshows.unbroken
  have hheadings : (Text.split '\n' list.describeTree).filter (IsHeading ·) = (list.levels 0).map Rule.heading := by
    rw [hlines, List.filter_append, hshows.headings]
    exact List.append_nil _
  refine ⟨hheadings, ?_⟩
  rw [hheadings, List.length_map, RuleList.length_levels]

/-- A rule with a list of its own. -/
def Rule.branching : Rule :=
  ⟨"first", false, false, none, some (.rules ⟨"deep", false, [⟨"deepest", false, true, none, some .abort⟩]⟩)⟩

/-- Two rules, of which the first has a list of its own. -/
def RuleList.branching : RuleList := ⟨"inner", false, [.branching, ⟨"second", false, false, none, none⟩]⟩

/-- A rule whose list stood in a sequence of its own before it was pushed. -/
def Rule.threeDeep : Rule :=
  ⟨"outer", true, false, some (.number ⟨.literal "1", .equals, 2, 0, false⟩),
    some (.sequence ((ActionList.empty.push (.delete .path)).push (.sequence [.rules .branching])).steps)⟩

theorem RuleList.describeTree_shows_threeDeep :
    let list : RuleList := ⟨"root", false, [.threeDeep]⟩
    (∀ level ∈ list.levels 0, level.2.Outlinable) ∧
      (Text.split '\n' list.describeTree).filter (IsHeading ·) =
        ["rule 'outer' [stop]", "  rule 'first'", "    rule 'deepest' [dynamic]", "  rule 'second'"] ∧
      list.ruleCount = 4 := by
  intro list
  have hpushed : ∀ action ∈ [.delete .path, .sequence [.rules .branching]], Action.Pushed action :=
    List.forall_mem_cons.mpr ⟨.single (by simp),
      List.forall_mem_singleton.mpr (@Action.Pushed.sequence [.rules .branching] (by simpa using .single (by simp)))⟩
  have houter : Rule.threeDeep.Outlinable :=
    ⟨by decide, fun _ hc => by cases hc; decide +kernel, fun _ ha => by cases ha; decide +kernel,
      fun _ ha => by cases ha; exact .sequence hpushed⟩
  have hfirst : Rule.branching.Outlinable :=
    ⟨by decide, nofun, fun _ ha => by cases ha; decide +kernel, fun _ ha => by cases ha; exact .single (by simp)⟩
  have hdeepest : Rule.Outlinable ⟨"deepest", false, true, none, some .abort⟩ :=
    ⟨by decide, nofun, fun _ ha => by cases ha; decide, fun _ ha => by cases ha; exact .single (by simp)⟩
  have hsecond : Rule.Outlinable ⟨"second", false, false, none, none⟩ := ⟨by decide, nofun, nofun, nofun⟩
  have hrules : ∀ level ∈ list.levels 0, level.2.Outlinable :=
    List.forall_mem_cons.mpr ⟨houter, List.forall_mem_cons.mpr ⟨hfirst, List.forall_mem_cons.mpr ⟨hdeepest,
      List.forall_mem_singleton.mpr hsecond⟩⟩⟩
  obtain ⟨hheadings, hlength⟩ := describeTree_shows list hrules
  exact ⟨hrules, hheadings.trans (by decide +kernel), hlength.symm.trans (by rw [hheadings]; rfl)⟩

/-- A rule behind a sequence that was put into another one by hand is counted, but no line shows it. -/
example :
    let hidden : Action := .rules ⟨"inner", false, [⟨"hidden", false, false, none, none⟩]⟩
    let list : RuleList := ⟨"root", false, [⟨"outer", false, false, none, some (.sequence [.sequence [hidden]])⟩]⟩
    list.outline 0 = ["rule 'outer'", "  then [rules 'inner' (1 rules)]"] ∧ list.ruleCount = 2 := by
  decide +kernel

end Reroute
