import Reroute.Proofs.Rule.Stages

/-!
# Sequences of actions

A list of actions that is put together by `push` does what the pushed actions do one after the other.  That sequences
are merged into it, that a single action stands for its list, and that an empty list is left out makes no difference.
-/

namespace Reroute

/-- Goes on where nothing has asked to stop. -/
def Performed.andThen (first : Performed) (rest : Request → Scratch → Performed) : Performed :=
  if first.outcome.stop then first
  else
    let later := rest first.request first.scratch
    ⟨⟨later.outcome.stop, first.outcome.endRequest || later.outcome.endRequest⟩, later.request, later.scratch,
      first.notes ++ later.notes⟩

private theorem Performed.andThen_assoc (first : Performed) (second third : Request → Scratch → Performed) :
    (first.andThen second).andThen third =
      first.andThen fun request scratch => (second request scratch).andThen third := by
  unfold andThen
  by_cases hfirst : first.outcome.stop
  · simp [hfirst]
  · by_cases hsecond : (second first.request first.scratch).outcome.stop <;>
      simp [hfirst, hsecond, Bool.or_assoc]

private theorem Performed.andThen_proceed (performed : Performed) :
    performed.andThen (fun request scratch => ⟨.proceed, request, scratch, []⟩) = performed := by
  obtain ⟨⟨stop, endRequest⟩, request, scratch, notes⟩ := performed
  cases stop <;> simp [andThen, Outcome.proceed]

namespace Action

theorem performAll_cons (env : Env) (action : Action) (actions : List Action) (request : Request) (scratch : Scratch) :
    performAll env (action :: actions) request scratch =
      (action.perform env request scratch).andThen (performAll env actions) := by
  simp only [performAll, Performed.andThen]
  split
  · rename_i hstop
    rw [← hstop]
  · rfl

theorem performAll_append (env : Env) (front back : List Action) (request : Request) (scratch : Scratch) :
    performAll env (front ++ back) request scratch =
      (performAll env front request scratch).andThen (performAll env back) := by
  induction front generalizing request scratch with
  | nil => simp [performAll, Performed.andThen, Outcome.proceed]
  | cons action actions ih =>
    rw [List.cons_append, performAll_cons, performAll_cons, Performed.andThen_assoc]
    congr 1
    funext request scratch
    exact ih request scratch

private theorem performAll_singleton (env : Env) (action : Action) (request : Request) (scratch : Scratch) :
    performAll env [action] request scratch = action.perform env request scratch := by
  rw [performAll_cons]
  exact Performed.andThen_proceed _

/-- The steps that a pushed action adds to a list. -/
def spliced : Action → List Action
  | .sequence steps => steps
  | action => [action]

theorem performAll_spliced (env : Env) (action : Action) (request : Request) (scratch : Scratch) :
    performAll env action.spliced request scratch = action.perform env request scratch := by
  unfold spliced
  split
  · rfl
  · exact performAll_singleton env _ request scratch

theorem performAll_flatMap_spliced (env : Env) (actions : List Action) (request : Request) (scratch : Scratch) :
    performAll env (actions.flatMap spliced) request scratch = performAll env actions request scratch := by
  induction actions generalizing request scratch with
  | nil => rfl
  | cons action actions ih =>
    rw [List.flatMap_cons, performAll_append, performAll_spliced, performAll_cons]
    congr 1
    funext request scratch
    exact ih request scratch

end Action

namespace ActionList

theorem push_eq (list : ActionList) (action : Action) : list.push action = ⟨list.steps ++ action.spliced⟩ := by
  cases action <;> rfl

theorem foldl_push_eq (list : ActionList) (actions : List Action) :
    actions.foldl push list = ⟨list.steps ++ actions.flatMap Action.spliced⟩ := by
  induction actions generalizing list with
  | nil => simp
  | cons action actions ih => simp [ih, push_eq, List.append_assoc]

/-- A list of actions as an action of its own. -/
theorem perform_toAction (env : Env) (list : ActionList) (request : Request) (scratch : Scratch) :
    list.toAction.perform env request scratch = Action.performAll env list.steps request scratch := by
  obtain ⟨steps⟩ := list
  match steps with
  | [] => rfl
  | [only] => exact (Action.performAll_singleton env only request scratch).symm
  | _ :: _ :: _ => rfl

/-- A list of actions as a rule keeps it. -/
theorem performIfAny_toAction (env : Env) (list : ActionList) (request : Request) (scratch : Scratch) :
    Action.performIfAny env (if list.steps.isEmpty then none else some list.toAction) request scratch =
      Action.performAll env list.steps request scratch := by
  split
  · rename_i hempty
    rw [List.isEmpty_iff.mp hempty]
    rfl
  · exact perform_toAction env list request scratch

end ActionList

end Reroute
