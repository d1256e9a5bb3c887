import Reroute.Condition.Test
import Reroute.Proofs.Rule.Law

/-!
# Merging condition lists

A list that is put together by `push` takes the items of a pushed list of its own logic and capture setting for its
own.  What this does to its result is one rule for all four logics: a merged list counts as if its logic were not
negated (`plain_test_ofChildren`).  For `matchAll` and `matchAny` that is the list as it was pushed; for
`matchNone` and `matchNotAny` it is the opposite result, and the main statement says on which runs the difference
does not show.
-/

namespace Reroute

/-! ### Reports of lists -/

/-- All logics. -/
def Logic.all : List Logic := [.matchAll, .matchAny, .matchNone, .matchNotAny]

namespace Note

/-- Whether a note reports that a condition list begins or ends. -/
def isOfList (note : Note) : Bool :=
  Logic.all.any fun logic =>
    [Event.conditionListBegin logic.name, .conditionListEnd logic.name true, .conditionListEnd logic.name false].any
      fun event => note == .event event || note == .record event.toRecord

/-- The notes without the reports of condition lists. -/
def listless (notes : List Note) : List Note := notes.filter fun note => !note.isOfList

@[simp] theorem listless_append (front back : List Note) : listless (front ++ back) = listless front ++ listless back :=
  List.filter_append ..

@[simp] theorem listless_reportBegin (env : Env) (logic : Logic) :
    listless (env.report (.conditionListBegin logic.name)) = [] := by
  unfold Env.report
  cases env.mode <;> cases env.sink <;> cases logic <;> rfl

@[simp] theorem listless_reportEnd (env : Env) (logic : Logic) (result : Bool) :
    listless (env.report (.conditionListEnd logic.name result)) = [] := by
  unfold Env.report
  cases env.mode <;> cases env.sink <;> cases logic <;> cases result <;> rfl

end Note

/-- A test without the reports of condition lists. -/
def Tested.plain (tested : Tested) : Tested := { tested with notes := Note.listless tested.notes }

theorem Tested.plain_eq_iff {a b : Tested} : a.plain = b.plain ↔
    a.holds = b.holds ∧ a.scratch = b.scratch ∧ Note.listless a.notes = Note.listless b.notes := by
  simp [Tested.plain]

/-- A test that goes on where its first part does not hold. -/
def Tested.orElse (first : Tested) (rest : Scratch → Tested) : Tested :=
  if first.holds then first
  else
    let later := rest first.scratch
    ⟨later.holds, later.scratch, first.notes ++ later.notes⟩

private theorem Tested.plain_orElse {a b : Tested} {rest other : Scratch → Tested} (h : a.plain = b.plain)
    (hrest : (rest a.scratch).plain = (other a.scratch).plain) : (a.orElse rest).plain = (b.orElse other).plain := by
  obtain ⟨hholds, hscratch, hnotes⟩ := plain_eq_iff.mp h
  rw [hscratch] at hrest
  obtain ⟨hholds', hscratch', hnotes'⟩ := plain_eq_iff.mp hrest
  unfold orElse
  rw [hholds, hscratch]
  split
  · exact h
  · simp [plain, hnotes, hholds', hscratch', hnotes']

/-! ### Capture tracking -/

/-- A condition of the host that leaves the capture tracking as it found it. -/
def CustomCondition.KeepsTracking (condition : CustomCondition) : Prop :=
  ∀ request scratch, (condition.test request scratch).2.tracking = scratch.tracking

namespace Scratch

theorem pushTracking_of_le {scratch : Scratch} {track : Bool} (h : track = true → scratch.tracking = true) :
    scratch.pushTracking track = scratch := by
  cases track with
  | false => simp [pushTracking]
  | true => simp [pushTracking, ← h rfl]

theorem restoreTracking_of_eq {scratch : Scratch} {before : Bool} (h : scratch.tracking = before) :
    scratch.restoreTracking before = scratch := by
  subst h
  rfl

end Scratch

namespace Condition

theorem tracking_test (env : Env) (request : Request) (condition : Condition) (scratch : Scratch)
    (h : condition.Obeys CustomCondition.KeepsTracking) :
    (condition.test env request scratch).scratch.tracking = scratch.tracking := by
  cases condition with
  | text m =>
    simp only [test, reportResult, TextMatch.test]
    split
    · split <;> rfl
    · rfl
  | number m => rfl
  | file m => rfl
  | custom condition negate => exact h request scratch
  | list logic track items => rfl

theorem tracking_meets (env : Env) (request : Request) (result : Bool) (conditions : List Condition) (scratch : Scratch)
    (h : AllObey CustomCondition.KeepsTracking conditions) :
    (meets env request result conditions scratch).scratch.tracking = scratch.tracking := by
  induction conditions generalizing scratch with
  | nil => rfl
  | cons condition conditions ih =>
    have hfirst := tracking_test env request condition scratch h.1
    simp only [meets]
    split
    · exact hfirst
    · rw [ih _ h.2, hfirst]

/-- Conditions behind others are looked at where no earlier one was decisive. -/
theorem meets_append (env : Env) (request : Request) (result : Bool) (front back : List Condition) (scratch : Scratch) :
    meets env request result (front ++ back) scratch =
      (meets env request result front scratch).orElse (meets env request result back) := by
  induction front generalizing scratch with
  | nil => simp [meets, Tested.orElse]
  | cons condition conditions ih =>
    simp only [List.cons_append, meets, ih, Tested.orElse]
    by_cases hd : (condition.test env request scratch).holds = result
    · simp [hd]
    · by_cases hr : (meets env request result conditions (condition.test env request scratch).scratch).holds <;>
        simp [hd, hr]

end Condition

/-! ### What a pushed condition becomes -/

namespace Logic

/-- The logic with the same decisive result that is not negated. -/
def unnegated : Logic → Logic
  | matchNone => matchAny
  | matchNotAny => matchAll
  | logic => logic

@[simp] theorem decisive_unnegated (logic : Logic) : logic.unnegated.decisive = logic.decisive := by
  cases logic <;> rfl

private theorem conclude_unnegated (logic : Logic) (met : Bool) :
    logic.unnegated.conclude met = logic.decisive ↔ met = true := by
  cases logic <;> cases met <;> decide

end Logic

namespace Condition

/-- The items of a condition that is merged into a list of the given logic and capture setting. -/
def mergedItems? (logic : Logic) (track : Bool) : Condition → Option (List Condition)
  | .list inner setting items => if inner = logic ∧ setting = track then some items else none
  | _ => none

/-- The items that a pushed condition adds to a list. -/
def spliced (logic : Logic) (track : Bool) (condition : Condition) : List Condition :=
  (condition.mergedItems? logic track).getD [condition]

/-- A pushed condition as the list counts it: a merged list is not negated. -/
def counted (logic : Logic) (track : Bool) (condition : Condition) : Condition :=
  match condition.mergedItems? logic track with
  | some items => .list logic.unnegated track items
  | none => condition

variable {logic : Logic} {track : Bool}

theorem eq_of_mergedItems?_eq_some {condition : Condition} {items : List Condition}
    (h : condition.mergedItems? logic track = some items) : condition = .list logic track items := by
  cases condition with
  | list inner setting inside =>
    simp only [mergedItems?] at h
    split at h
    · rename_i heq
      obtain ⟨rfl, rfl⟩ := heq
      cases h
      rfl
    · cases h
  | _ => cases h

private theorem counted_eq_self {condition : Condition} (h : logic.unnegated = logic) :
    condition.counted logic track = condition := by
  unfold counted
  split
  · rename_i items heq
    rw [h, eq_of_mergedItems?_eq_some heq]
  · rfl

theorem map_counted_eq_self (track : Bool) (conditions : List Condition) (h : logic.unnegated = logic) :
    conditions.map (counted logic track) = conditions := by
  exact (List.map_congr_left fun condition _ => counted_eq_self h).trans (List.map_id' conditions)

theorem allObey_spliced {p : CustomCondition → Prop} {condition : Condition} (h : condition.Obeys p) :
    AllObey p (condition.spliced logic track) := by
  unfold spliced
  cases heq : condition.mergedItems? logic track with
  | none => exact ⟨h, trivial⟩
  | some items =>
    rw [eq_of_mergedItems?_eq_some heq] at h
    exact h

private theorem allObey_flatMap_spliced {p : CustomCondition → Prop} {conditions : List Condition}
    (h : AllObey p conditions) : AllObey p (conditions.flatMap (spliced logic track)) := by
  induction conditions with
  | nil => trivial
  | cons condition conditions ih => exact allObey_append.mpr ⟨allObey_spliced h.1, ih h.2⟩

/-- The items of a merged list decide where the list itself would, if it were not negated. -/
private theorem plain_meets_spliced (env : Env) (request : Request) (logic : Logic) {condition : Condition}
    {scratch : Scratch}
    (h : condition.Obeys CustomCondition.KeepsTracking) (hs : track = true → scratch.tracking = true) :
    (meets env request logic.decisive (condition.spliced logic track) scratch).plain =
      (meets env request logic.decisive [condition.counted logic track] scratch).plain := by
  unfold spliced counted
  cases heq : condition.mergedItems? logic track with
  | none => rfl
  | some items =>
    rw [eq_of_mergedItems?_eq_some heq] at h
    have htrack := tracking_meets env request logic.decisive items scratch h
    simp only [Option.getD_some, meets, test, Logic.decisive_unnegated, Scratch.pushTracking_of_le hs,
      Scratch.restoreTracking_of_eq htrack, Logic.conclude_unnegated]
    split <;> simp_all [Tested.plain]

theorem plain_meets_flatMap_spliced (env : Env) (request : Request) (logic : Logic) {conditions : List Condition}
    {scratch : Scratch} (h : AllObey CustomCondition.KeepsTracking conditions) (hs : track = true → scratch.tracking = true) :
    (meets env request logic.decisive (conditions.flatMap (spliced logic track)) scratch).plain =
      (meets env request logic.decisive (conditions.map (counted logic track)) scratch).plain := by
  induction conditions generalizing scratch with
  | nil => rfl
  | cons condition conditions ih =>
    rw [List.flatMap_cons, List.map_cons, ← List.singleton_append, meets_append, meets_append]
    refine Tested.plain_orElse (plain_meets_spliced env request logic h.1 hs) (ih h.2 ?_)
    rw [tracking_meets _ _ _ _ _ (allObey_spliced h.1)]
    exact hs

end Condition

/-! ### Lists that are put together -/

namespace ConditionList

/-- The list that conditions are pushed into, one after the other. -/
def ofChildren (logic : Logic) (track : Bool) (children : List Condition) : ConditionList :=
  children.foldl push (.empty logic track)

theorem push_eq (conditions : ConditionList) (condition : Condition) :
    conditions.push condition = { conditions with
      items := conditions.items ++ condition.spliced conditions.logic conditions.trackCaptures } := by
  cases condition with
  | list inner setting items =>
    simp only [push, Condition.spliced, Condition.mergedItems?]
    split <;> rfl
  | _ => rfl

private theorem foldl_push_eq (conditions : ConditionList) (children : List Condition) :
    children.foldl push conditions = { conditions with
      items := conditions.items
        ++ children.flatMap (Condition.spliced conditions.logic conditions.trackCaptures) } := by
  induction children generalizing conditions with
  | nil => simp
  | cons child children ih => simp [ih, push_eq, List.append_assoc]

theorem ofChildren_eq (logic : Logic) (track : Bool) (children : List Condition) :
    ofChildren logic track children = ⟨logic, track, children.flatMap (Condition.spliced logic track)⟩ :=
  foldl_push_eq ..

/-- A single condition that stands for its list tests the same. -/
private theorem plain_test_toCondition (env : Env) (request : Request) (conditions : ConditionList) (scratch : Scratch)
    (h : Condition.AllObey CustomCondition.KeepsTracking conditions.items) :
    (conditions.toCondition.test env request scratch).plain =
      ((Condition.list conditions.logic conditions.trackCaptures conditions.items).test env request scratch).plain := by
  obtain ⟨logic, track, items⟩ := conditions
  unfold toCondition
  split
  · rename_i only heq
    obtain rfl : items = [only] := heq
    split
    · rename_i hsingle
      obtain ⟨rfl, rfl⟩ := hsingle
      have htrack := Condition.tracking_test env request only scratch h.1
      have hpush : scratch.pushTracking false = scratch := Scratch.pushTracking_of_le (by simp)
      simp only [Condition.test, Condition.meets, Logic.decisive, hpush, Tested.plain_eq_iff]
      cases hholds : (only.test env request scratch).holds <;>
        simp [Logic.conclude, Scratch.restoreTracking_of_eq htrack]
    · rfl
  · rfl

/-- What a list that is put together tests: its conditions as it counts them. -/
theorem plain_test_ofChildren (env : Env) (request : Request) (logic : Logic) (track : Bool)
    (children : List Condition) (scratch : Scratch) (h : Condition.AllObey CustomCondition.KeepsTracking children) :
    ((ofChildren logic track children).toCondition.test env request scratch).plain =
      ((Condition.list logic track (children.map (Condition.counted logic track))).test env request scratch).plain := by
  have hpushed : track = true → (scratch.pushTracking track).tracking = true := by
    rintro rfl
    simp [Scratch.pushTracking]
  have hmeets := Condition.plain_meets_flatMap_spliced env request logic h hpushed
  rw [ofChildren_eq, plain_test_toCondition env request _ scratch (Condition.allObey_flatMap_spliced h)]
  obtain ⟨hholds, hscratch, hnotes⟩ := Tested.plain_eq_iff.mp hmeets
  simp [Condition.test, Tested.plain, hholds, hscratch, hnotes]

end ConditionList

end Reroute
