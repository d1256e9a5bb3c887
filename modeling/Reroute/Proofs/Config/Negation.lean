import Reroute.Proofs.Config.Conditions
import Reroute.Proofs.Rule.Transcript

/-!
# Negated conditions

An item of a document may be negated.  A single condition takes the flag over as it is: compiling an item with its flag
set is the same as compiling it and setting the flag of what comes out (`Names.test_withNegate`), and with the flag set
a single condition holds where it does not hold without.  A group has no flag to take over, and the one that stands
beside it is not read.  So `negate` negates every item but the groups (`Names.negate_negates_iff`).
-/

namespace Reroute

/-! ### The flag in a block -/

/-- The same attributes, negated or not. -/
def TestBlock.withNegate (block : TestBlock) (negate : Bool) : TestBlock := { block with negate }

/-- The same item, negated or not. -/
def ConditionBlock.withNegate (block : ConditionBlock) (negate : Bool) : ConditionBlock :=
  { block with test := block.test.withNegate negate }

/-! ### The flag in a condition -/

namespace Condition

/-- The same condition, negated or not; a list has no flag. -/
def withNegate (negate : Bool) : Condition → Condition
  | text m => text (m.withNegate negate)
  | number m => number { m with negate }
  | file m => file { m with negate }
  | custom condition _ => custom condition negate
  | list logic track items => list logic track items

/-- A single condition that is negated holds where it does not hold otherwise. -/
private theorem holds_withNegate {condition : Condition} (hsingle : condition.IsSingle) (env : Env) (request : Request)
    (scratch : Scratch) :
    ((condition.withNegate true).test env request scratch).holds =
      !((condition.withNegate false).test env request scratch).holds := by
  cases condition with
  | text m => simp [withNegate, test, reportResult, TextMatch.test, TextMatch.withNegate]
  | number m => simp [withNegate, test, reportResult, NumberMatch.test]
  | file m =>
    simp only [withNegate, test, reportResult, FileMatch.test]
    split <;> simp
  | custom condition negate => simp [withNegate, test, reportResult]
  | list => exact hsingle.elim

end Condition

namespace Names

variable (names : Names) (place : Place)

private theorem customCondition_withNegate (name : String) (block : TestBlock) (negate : Bool) :
    names.customCondition place name (block.withNegate negate) =
      (names.customCondition place name block).map (.withNegate negate) := by
  unfold customCondition
  dsimp only [TestBlock.withNegate]
  split
  · rfl
  · split <;> rfl

/-- The flag of a single condition is taken over, whatever kind of condition it is. -/
theorem test_withNegate (block : TestBlock) (negate : Bool) :
    names.test place (block.withNegate negate) = (names.test place block).map (.withNegate negate) := by
  unfold test
  rw [Except.map_bind]
  refine congrArg (names.testInput place block >>= ·) (funext fun input => ?_)
  dsimp only [TestBlock.withNegate]
  split
  case h_1 => simp only [Except.map_bind]; rfl
  case h_2 | h_3 | h_4 | h_5 | h_6 => rfl
  case h_7 =>
    split
    · simp only [Except.map_bind]; rfl
    · exact customCondition_withNegate names place _ block negate

/-- The flag of an item is taken over, if the item is a single condition; beside a group it makes no difference. -/
private theorem condition_withNegate (block : ConditionBlock) (negate : Bool) :
    names.condition place (block.withNegate negate) =
      (names.condition place block).map (.withNegate negate) := by
  obtain ⟨attributes, group?⟩ := block
  cases group? with
  | none =>
    rw [ConditionBlock.withNegate, condition, condition]
    exact test_withNegate names place attributes negate
  | some group =>
    rw [ConditionBlock.withNegate, condition, condition, Except.map_bind]
    rfl

/-- An item fails to compile in the same way whether it is negated or not.  Where it compiles, it holds negated where it
does not hold otherwise, unless it is a group; a group is the same condition with the flag and without. -/
theorem negate_negates_iff (block : ConditionBlock) :
    (names.condition place (block.withNegate true)).fault? = (names.condition place (block.withNegate false)).fault? ∧
      ∀ plain negated, names.condition place (block.withNegate false) = .ok plain →
        names.condition place (block.withNegate true) = .ok negated →
        ((∀ (env : Env) (request : Request) (scratch : Scratch),
            (negated.test env request scratch).holds = !(plain.test env request scratch).holds) ↔
          block.group = none) ∧
        (block.group ≠ none → negated = plain) := by
  rw [condition_withNegate, condition_withNegate]
  constructor
  · rw [Except.fault?_map, Except.fault?_map]
  · intro plain negated hplain hnegated
    obtain ⟨made, hmade, rfl⟩ := Except.map_eq_ok.mp hplain
    rw [hmade] at hnegated
    cases hnegated
    obtain ⟨attributes, group?⟩ := block
    cases group? with
    | none =>
      rw [condition] at hmade
      have hsingle : made.IsSingle :=
        yields_test (fun _ => trivial) (fun _ => trivial) (fun _ => trivial) (fun _ _ _ _ _ => trivial) made hmade
      exact ⟨iff_of_true (made.holds_withNegate hsingle) rfl, fun hgroup => absurd rfl hgroup⟩
    | some group =>
      rw [condition] at hmade
      obtain ⟨list, -, hmade⟩ := Except.bind_eq_ok.mp hmade
      cases hmade
      refine ⟨iff_of_false (fun hopposite => ?_) (fun hgroup => by cases hgroup), fun _ => rfl⟩
      have hstart := hopposite ⟨.execute, "/www", .discard, fun _ => .error "not found"⟩ (.ofUrl "/") .start
      exact (Bool.eq_not_self _).mp hstart

/-- An item that asks whether a template gives the number one. -/
def isOne (input : String) : ConditionBlock :=
  ⟨{ TestBlock.empty with input := some input, matchType := some "number", operand := some 1 }, none⟩

theorem negate_negates_iff_numbers :
    ∃ plain negated, Names.condition ⟨[], .empty⟩ ⟨"rules.hcl", []⟩ ((isOne "1").withNegate false) = .ok plain ∧
      Names.condition ⟨[], .empty⟩ ⟨"rules.hcl", []⟩ ((isOne "1").withNegate true) = .ok negated ∧
      ∀ (env : Env) (request : Request) (scratch : Scratch),
        (negated.test env request scratch).holds = !(plain.test env request scratch).holds := by
  obtain ⟨plain, hplain⟩ : ∃ plain,
      Names.condition ⟨[], .empty⟩ ⟨"rules.hcl", []⟩ ((isOne "1").withNegate false) = .ok plain := ⟨_, rfl⟩
  obtain ⟨negated, hnegated⟩ : ∃ negated,
      Names.condition ⟨[], .empty⟩ ⟨"rules.hcl", []⟩ ((isOne "1").withNegate true) = .ok negated := ⟨_, rfl⟩
  obtain ⟨-, hitem⟩ := negate_negates_iff ⟨[], .empty⟩ ⟨"rules.hcl", []⟩ (isOne "1")
  exact ⟨plain, negated, hplain, hnegated, (hitem plain negated hplain hnegated).1.mpr rfl⟩

/-- A group that is negated holds all the same. -/
theorem group_not_negated :
    let group : ConditionBlock := ⟨TestBlock.empty, some { GroupBlock.empty with items := [isOne "1"] }⟩
    ∃ compiled, Names.condition ⟨[], .empty⟩ ⟨"rules.hcl", []⟩ (group.withNegate false) = .ok compiled ∧
      Names.condition ⟨[], .empty⟩ ⟨"rules.hcl", []⟩ (group.withNegate true) = .ok compiled ∧
      (compiled.test ⟨.execute, "/www", .discard, fun _ => .error "not found"⟩ (.ofUrl "/") .start).holds = true :=
  ⟨_, rfl, rfl, by decide +kernel⟩

end Names

end Reroute
