import Reroute.Config.Lower
import Reroute.Proofs.Condition.Merging
import Reroute.Proofs.Walk.Result

/-!
# Compiled conditions

An item that is not a group compiles to a single condition: a match, or a condition of the host that the registry made
(`Names.yields_test`).  So what holds of all conditions that the registry makes holds of those in what a group of
conditions compiles to, at any depth of groups.
-/

namespace Reroute

/-- Every condition that a registry makes has a property. -/
def Registry.ConditionsObey (p : CustomCondition → Prop) (registry : Registry) : Prop :=
  ∀ name build params condition,
    registry.conditions.find? name = some build → build params = .ok condition → p condition

private theorem ConditionList.allObey_push {p : CustomCondition → Prop} {list : ConditionList} {condition : Condition}
    (hlist : Condition.AllObey p list.items) (hcondition : condition.Obeys p) :
    Condition.AllObey p (list.push condition).items := by
  rw [push_eq]
  exact Condition.allObey_append.mpr ⟨hlist, Condition.allObey_spliced hcondition⟩

namespace Names

variable {names : Names} {p : CustomCondition → Prop}

theorem obeys_pattern {place : Place} {block : MatchBlock} {condition : Condition}
    (h : names.pattern place block = .ok condition) : condition.Obeys p := by
  unfold pattern at h
  dsimp only at h
  split at h
  all_goals
    obtain ⟨input, -, h⟩ := Except.bind_eq_ok.mp h
    obtain ⟨kind, -, h⟩ := Except.bind_eq_ok.mp h
    obtain ⟨matching, -, h⟩ := Except.bind_eq_ok.mp h
    cases h
    trivial

private theorem yields_customCondition {q : Condition → Prop} {place : Place} {name : String} {block : TestBlock}
    (hcustom : ∀ build condition, names.registry.conditions.find? name = some build →
      build block.params = .ok condition → q (.custom condition block.negate)) :
    (names.customCondition place name block).Yields q := by
  unfold customCondition
  split
  · exact .error _
  · rename_i build hbuild
    split
    · rename_i condition hcondition
      exact .ok (hcustom build condition hbuild hcondition)
    · exact .error _

/-- What holds of every match and of every condition that the registry makes holds of every single condition. -/
theorem yields_test {q : Condition → Prop} {place : Place} {block : TestBlock} (htext : ∀ m, q (.text m))
    (hnumber : ∀ m, q (.number m)) (hfile : ∀ m, q (.file m))
    (hcustom : ∀ name build condition, names.registry.conditions.find? name = some build →
      build block.params = .ok condition → q (.custom condition block.negate)) :
    (names.test place block).Yields q := by
  refine .bind fun input => ?_
  dsimp only
  split
  case h_1 => exact .bind fun comparison => .bind fun operand => .ok (hnumber _)
  case h_2 | h_3 | h_4 | h_5 | h_6 => exact .ok (hfile _)
  case h_7 =>
    split
    · exact .bind fun pattern => .bind fun matching => .ok (htext _)
    · exact yields_customCondition (hcustom _)

private theorem obeys_test (hp : names.registry.ConditionsObey p) {place : Place} {block : TestBlock}
    {condition : Condition} (h : names.test place block = .ok condition) : condition.Obeys p := by
  refine yields_test (fun _ => trivial) (fun _ => trivial) (fun _ => trivial) ?_ condition h
  intro name build condition hbuild hcondition
  exact hp name build block.params condition hbuild hcondition

mutual

theorem allObey_group (hp : names.registry.ConditionsObey p) : ∀ {block : GroupBlock} {holder : Place} {step : Step}
    {list : ConditionList}, names.group holder step block = .ok list → Condition.AllObey p list.items
  | ⟨_, _, _⟩, _, _, _, h => by
    rw [group] at h
    obtain ⟨logic, -, h⟩ := Except.bind_eq_ok.mp h
    exact allObey_groupItems hp h trivial

private theorem allObey_groupItems (hp : names.registry.ConditionsObey p) :
    ∀ {blocks : List ConditionBlock} {place : Place}
    {index : Nat} {start list : ConditionList}, names.groupItems place index start blocks = .ok list →
    Condition.AllObey p start.items → Condition.AllObey p list.items
  | [], _, _, _, _, h, hstart => by
    cases h
    exact hstart
  | _ :: _, _, _, _, _, h, hstart => by
    rw [groupItems] at h
    obtain ⟨condition, hcondition, h⟩ := Except.bind_eq_ok.mp h
    exact allObey_groupItems hp h (ConditionList.allObey_push hstart (obeys_condition hp hcondition))

private theorem obeys_condition (hp : names.registry.ConditionsObey p) : ∀ {block : ConditionBlock} {place : Place}
    {condition : Condition}, names.condition place block = .ok condition → condition.Obeys p
  | ⟨_, none⟩, _, _, h => by
    rw [Names.condition] at h
    exact obeys_test hp h
  | ⟨_, some _⟩, _, _, h => by
    rw [Names.condition] at h
    obtain ⟨list, hlist, h⟩ := Except.bind_eq_ok.mp h
    cases h
    exact allObey_group hp hlist

end

end Names

end Reroute
