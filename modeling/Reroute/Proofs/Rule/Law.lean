import Reroute.Rule.Evaluate

/-!
# Laws of extensions

Conditions and actions of the host are functions about which nothing is known.  A law says what is asked of them;
a condition, an action or a rule list obeys a law if every extension in it does, at any depth.
-/

namespace Reroute

/-- What is asked of the conditions and actions of the host. -/
structure ExtensionLaw where
  condition : CustomCondition → Prop
  action : CustomAction → Prop

/-- The flags of a rule's scratch. -/
def Scratch.flags (scratch : Scratch) : WalkFlags :=
  ⟨scratch.matched, scratch.stop, scratch.endRequest, scratch.dynamic⟩

/-! ### Conditions -/

mutual

/-- Every condition of the host in a condition has a property. -/
def Condition.Obeys (p : CustomCondition → Prop) : Condition → Prop
  | .text _ => True
  | .number _ => True
  | .file _ => True
  | .custom condition _ => p condition
  | .list _ _ items => Condition.AllObey p items

/-- Every condition of the host in conditions has a property. -/
def Condition.AllObey (p : CustomCondition → Prop) : List Condition → Prop
  | [] => True
  | condition :: conditions => condition.Obeys p ∧ Condition.AllObey p conditions

end

namespace Condition

variable {p : CustomCondition → Prop}

private theorem allObey_iff {conditions : List Condition} : AllObey p conditions ↔ ∀ c ∈ conditions, c.Obeys p := by
  induction conditions with
  | nil => simp [AllObey]
  | cons condition conditions ih => simp [AllObey, ih]

theorem allObey_append {front back : List Condition} :
    AllObey p (front ++ back) ↔ AllObey p front ∧ AllObey p back := by
  simp only [allObey_iff, List.mem_append]
  constructor
  · intro h
    exact ⟨fun c hc => h c (.inl hc), fun c hc => h c (.inr hc)⟩
  · rintro ⟨hf, hb⟩ c (hc | hc)
    · exact hf c hc
    · exact hb c hc

/-! ### Flags behind a test -/

private theorem flags_text (m : TextMatch) (request : Request) (scratch : Scratch) :
    (m.test request scratch).2.flags = scratch.flags := by
  simp only [TextMatch.test]
  split
  · split <;> rfl
  · rfl

variable {α : Type} (read : WalkFlags → α) (env : Env) (request : Request)

mutual

/-- What is read off the flags of a rule is not changed by a test, if the conditions of the host do not change it. -/
theorem flags_test : ∀ (condition : Condition) (scratch : Scratch),
    condition.Obeys (fun c => ∀ request scratch, read (c.test request scratch).2.flags = read scratch.flags) →
      read (condition.test env request scratch).scratch.flags = read scratch.flags
  | .text m, scratch, _ => congrArg read (flags_text m request scratch)
  | .number _, _, _ => rfl
  | .file _, _, _ => rfl
  | .custom condition _, scratch, h => by
    have hc : ∀ request scratch, read (condition.test request scratch).2.flags = read scratch.flags := h
    exact hc request scratch
  | .list logic track items, scratch, h => flags_meets logic.decisive items (scratch.pushTracking track) h

private theorem flags_meets (stop : Bool) : ∀ (conditions : List Condition) (scratch : Scratch),
    AllObey (fun c => ∀ request scratch, read (c.test request scratch).2.flags = read scratch.flags) conditions →
      read (meets env request stop conditions scratch).scratch.flags = read scratch.flags
  | [], _, _ => rfl
  | condition :: conditions, scratch, h => by
    have hfirst := flags_test condition scratch h.1
    simp only [meets]
    split
    · exact hfirst
    · exact (flags_meets stop conditions _ h.2).trans hfirst

end

end Condition

/-! ### Actions and rules -/

mutual

/-- Every extension below an action obeys a law. -/
def Action.Obeys (law : ExtensionLaw) : Action → Prop
  | .custom action => law.action action
  | .sequence steps => Action.AllObey law steps
  | .rules list => list.Obeys law
  | _ => True

/-- Every extension below actions obeys a law. -/
def Action.AllObey (law : ExtensionLaw) : List Action → Prop
  | [] => True
  | action :: actions => action.Obeys law ∧ Action.AllObey law actions

/-- Every extension in a rule and below obeys a law. -/
def Rule.Obeys (law : ExtensionLaw) : Rule → Prop
  | ⟨_, _, _, condition, action⟩ =>
    (match condition with
      | some condition => condition.Obeys law.condition
      | none => True) ∧
    match action with
    | some action => action.Obeys law
    | none => True

/-- Every extension in rules and below obeys a law. -/
def Rule.AllObey (law : ExtensionLaw) : List Rule → Prop
  | [] => True
  | rule :: rules => rule.Obeys law ∧ Rule.AllObey law rules

/-- Every extension in a rule list and below obeys a law. -/
def RuleList.Obeys (law : ExtensionLaw) : RuleList → Prop
  | ⟨_, _, rules⟩ => Rule.AllObey law rules

end

theorem Rule.obeys_iff {law : ExtensionLaw} {rule : Rule} :
    rule.Obeys law ↔ (∀ c, rule.condition = some c → c.Obeys law.condition) ∧
      ∀ a, rule.action = some a → a.Obeys law := by
  obtain ⟨name, stop, dynamic, condition, action⟩ := rule
  cases condition <;> cases action <;> simp [Rule.Obeys]

end Reroute
