import Reroute.Proofs.Condition.Merging

/-!
# The table of logics

A list is described by a table: its result from the results of its conditions, and the result behind which it looks
at no further condition.  A list that is kept as it is does what the table says (`test_list_eq_reading`).  A list
that is put together by `push` does so for its conditions as it counts them; whether that is what the table says for
the conditions as they were pushed depends on the logic and on the run.
-/

namespace Reroute

/-! ### The table -/

/-- The result of a list from the results of its conditions. -/
def Logic.table : Logic → List Bool → Bool
  | matchAll, results => results.all (· == true)
  | matchAny, results => results.any (· == true)
  | matchNone, results => results.all (· == false)
  | matchNotAny, results => results.any (· == false)

theorem Logic.table_eq_conclude (logic : Logic) (results : List Bool) :
    logic.table results = logic.conclude (results.any (· == logic.decisive)) := by
  cases logic with
  | matchAny | matchNotAny => rfl
  | matchAll | matchNone => induction results with
    | nil => rfl
    | cons result results ih =>
      simp only [table, conclude, decisive, List.all_cons, List.any_cons, Bool.not_or] at ih ⊢
      rw [ih]
      cases result <;> rfl

private theorem Logic.conclude_inj (logic : Logic) {a b : Bool} : logic.conclude a = logic.conclude b ↔ a = b := by
  cases logic <;> simp [conclude]

namespace Condition

/-- The results of conditions in order, up to the first that is `stop`, and the scratch behind it. -/
def resultsUntil (env : Env) (request : Request) (stop : Bool) : List Condition → Scratch → List Bool × Scratch
  | [], scratch => ([], scratch)
  | condition :: conditions, scratch =>
    let tested := condition.test env request scratch
    if tested.holds = stop then ([tested.holds], tested.scratch)
    else
      let (results, behind) := resultsUntil env request stop conditions tested.scratch
      (tested.holds :: results, behind)

/-- What the table says about a list of conditions: its result, and the scratch that it leaves. -/
def reading (env : Env) (request : Request) (logic : Logic) (track : Bool) (conditions : List Condition)
    (scratch : Scratch) : Bool × Scratch :=
  let (results, behind) := resultsUntil env request logic.decisive conditions (scratch.pushTracking track)
  (logic.table results, behind.restoreTracking scratch.tracking)

variable (env : Env) (request : Request)

private theorem resultsUntil_eq_meets (stop : Bool) (conditions : List Condition) (scratch : Scratch) :
    (resultsUntil env request stop conditions scratch).1.any (· == stop) =
        (meets env request stop conditions scratch).holds ∧
      (resultsUntil env request stop conditions scratch).2 = (meets env request stop conditions scratch).scratch := by
  induction conditions generalizing scratch with
  | nil => exact ⟨rfl, rfl⟩
  | cons condition conditions ih =>
    simp only [resultsUntil, meets]
    split
    · rename_i hstop
      simp [hstop]
    · rename_i hstop
      simp [hstop, ih]

/-- A list as it stands does what the table says. -/
theorem test_list_eq_reading (logic : Logic) (track : Bool) (conditions : List Condition) (scratch : Scratch) :
    let tested := (Condition.list logic track conditions).test env request scratch
    (tested.holds, tested.scratch) = reading env request logic track conditions scratch := by
  obtain ⟨hmet, hbehind⟩ := resultsUntil_eq_meets env request logic.decisive conditions (scratch.pushTracking track)
  simp [test, reading, Logic.table_eq_conclude, hmet, hbehind]

/-! ### Where merging shows -/

/-- The test of the first condition that is merged, where the conditions in front of it let a list get there, and
the conditions pushed behind it. -/
def firstMerged? (logic : Logic) (track : Bool) : List Condition → Scratch → Option (Tested × List Condition)
  | [], _ => none
  | condition :: conditions, scratch =>
    let tested := condition.test env request scratch
    if (condition.mergedItems? logic track).isSome then some (tested, conditions)
    else if tested.holds = logic.decisive then none
    else firstMerged? logic track conditions tested.scratch

/-- Behind the first merged condition, one of the table and the merged list stops and the other goes on.  It makes
no difference where the one that goes on stops too, and leaves the captures that were there. -/
def MergesUnseen (logic : Logic) (track : Bool) (conditions : List Condition) (scratch : Scratch) : Prop :=
  ∀ tested behind, firstMerged? env request logic track conditions scratch = some (tested, behind) →
    let further := if tested.holds = logic.decisive then behind.flatMap (spliced logic track) else behind
    let later := meets env request logic.decisive further tested.scratch
    later.holds = true ∧ later.scratch.captures? = tested.scratch.captures?

variable {logic : Logic} {track : Bool}

/-- A merged condition under a negated logic counts with the opposite result. -/
private theorem test_counted_of_merged {condition : Condition} {items : List Condition} (scratch : Scratch)
    (hlogic : logic.unnegated ≠ logic) (h : condition.mergedItems? logic track = some items) :
    ((condition.counted logic track).test env request scratch).holds = !(condition.test env request scratch).holds ∧
      ((condition.counted logic track).test env request scratch).scratch =
        (condition.test env request scratch).scratch := by
  rw [eq_of_mergedItems?_eq_some h]
  cases logic with
  | matchAll | matchAny => exact absurd rfl hlogic
  | matchNone | matchNotAny => simp [counted, mergedItems?, test, Logic.unnegated, Logic.conclude, Logic.decisive]

private theorem meets_map_counted_iff {conditions : List Condition} {scratch : Scratch}
    (hlogic : logic.unnegated ≠ logic)
    (h : AllObey CustomCondition.KeepsTracking conditions) (hs : track = true → scratch.tracking = true) :
    let counting := meets env request logic.decisive (conditions.map (counted logic track)) scratch
    let kept := meets env request logic.decisive conditions scratch
    (counting.holds = kept.holds ∧ counting.scratch.captures? = kept.scratch.captures?) ↔
      MergesUnseen env request logic track conditions scratch := by
  induction conditions generalizing scratch with
  | nil => simp [meets, MergesUnseen, firstMerged?]
  | cons condition conditions ih =>
    have hs' : track = true → (condition.test env request scratch).scratch.tracking = true := by
      rw [tracking_test env request condition scratch h.1]
      exact hs
    cases hmerged : condition.mergedItems? logic track with
    | none =>
      have hcounted : condition.counted logic track = condition := by simp [counted, hmerged]
      by_cases hstop : (condition.test env request scratch).holds = logic.decisive
      · simp [meets, MergesUnseen, firstMerged?, hcounted, hmerged, hstop]
      · have := ih h.2 hs'
        simpa [meets, MergesUnseen, firstMerged?, hcounted, hmerged, hstop] using this
    | some items =>
      obtain ⟨hholds, hscratch⟩ := test_counted_of_merged env request scratch hlogic hmerged
      have hrest := plain_meets_flatMap_spliced env request logic h.2 hs'
      obtain ⟨hmet, hleft, -⟩ := Tested.plain_eq_iff.mp hrest
      -- the two results are opposite: either the table stops here and the merged list goes on, or the other way round
      by_cases hstop : (condition.test env request scratch).holds = logic.decisive
      · simp [meets, MergesUnseen, firstMerged?, hmerged, hholds, hscratch, hstop, hmet, hleft]
      · have hcounting : ((condition.counted logic track).test env request scratch).holds = logic.decisive := by
          rw [hholds]
          cases hd : logic.decisive <;> simp_all
        simp [meets, MergesUnseen, firstMerged?, hmerged, hcounting, hscratch, hstop,
          @eq_comm _ (condition.test env request scratch).scratch.captures?]

end Condition

/-! ### Lists that are put together -/

namespace ConditionList

open Condition

/-- What a list that is put together does: all that the table says for the conditions as the list counts them.  Under
a logic that is not negated this is what the table says for the conditions as they were pushed.  The result and the
captures are so if and only if the logic is not negated or the run is one that merging does not show on. -/
theorem reading_ofChildren_iff (env : Env) (request : Request) (logic : Logic) (track : Bool)
    (children : List Condition) (scratch : Scratch) (h : AllObey CustomCondition.KeepsTracking children) :
    let built := (ofChildren logic track children).toCondition.test env request scratch
    let table := reading env request logic track children scratch
    (built.holds, built.scratch) = reading env request logic track (children.map (counted logic track)) scratch ∧
      (logic = .matchAll ∨ logic = .matchAny → (built.holds, built.scratch) = table) ∧
      (built.holds = table.1 ∧ built.scratch.captures? = table.2.captures? ↔
        logic = .matchAll ∨ logic = .matchAny ∨
          MergesUnseen env request logic track children (scratch.pushTracking track)) := by
  intro built table
  obtain ⟨hholds, hscratch, -⟩ :=
    Tested.plain_eq_iff.mp (plain_test_ofChildren env request logic track children scratch h)
  have hbuilt : (built.holds, built.scratch) =
      reading env request logic track (children.map (counted logic track)) scratch := by
    rw [← test_list_eq_reading, ← hholds, ← hscratch]
  have hplain : logic = .matchAll ∨ logic = .matchAny → (built.holds, built.scratch) = table := by
    intro hlogic
    have hself : logic.unnegated = logic := by rcases hlogic with rfl | rfl <;> rfl
    rw [hbuilt, map_counted_eq_self track children hself]
  refine ⟨hbuilt, hplain, ?_⟩
  by_cases hlogic : logic = .matchAll ∨ logic = .matchAny
  · simp [← hplain hlogic, ← or_assoc, hlogic]
  · have hnegated : logic.unnegated ≠ logic := by
      cases logic <;> simp_all [Logic.unnegated]
    have hpushed : track = true → (scratch.pushTracking track).tracking = true := by
      rintro rfl
      simp [Scratch.pushTracking]
    have htable : table = _ := (test_list_eq_reading env request logic track children scratch).symm
    rw [← or_assoc, or_iff_right hlogic, htable]
    simp only [built, hholds, hscratch, test, Logic.conclude_inj]
    exact meets_map_counted_iff env request hnegated h hpushed

/-- Surroundings in which nothing is reported. -/
def quiet : Env := ⟨.execute, "/www", .discard, fun _ => .error "not found"⟩

/-- A condition pushed on its own and one inside a list none of whose conditions may hold; neither holds. -/
def unheld : List Condition :=
  [.number ⟨.literal "1", .equals, 2, 0, false⟩,
    .list .matchNone false [.custom ⟨"never", fun _ scratch => (false, scratch)⟩ false]]

theorem reading_ofChildren_iff_unheld :
    AllObey CustomCondition.KeepsTracking unheld ∧
      ¬MergesUnseen quiet (.ofUrl "/") .matchNone false unheld .start := by
  have hkeep : AllObey CustomCondition.KeepsTracking unheld := ⟨trivial, ⟨fun _ _ => rfl, trivial⟩, trivial⟩
  refine ⟨hkeep, fun hunseen => ?_⟩
  have h := (reading_ofChildren_iff quiet (.ofUrl "/") .matchNone false unheld .start hkeep).2.2.2 (.inr (.inr hunseen))
  exact absurd h.1 (by decide)

/-- A list none of whose conditions may hold is not what the table says where the only condition pushed into it is
another such list. -/
theorem reading_ofChildren_ne :
    let children := [Condition.list .matchNone false [.number ⟨.literal "1", .equals, 1, 0, false⟩]]
    let built := (ofChildren .matchNone false children).toCondition.test quiet (.ofUrl "/") .start
    built.holds ≠ (reading quiet (.ofUrl "/") .matchNone false children .start).1 := by
  decide

end ConditionList

end Reroute
