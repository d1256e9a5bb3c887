import Reroute.Proofs.Rule.Changes

/-!
# Answers of a walk

The only single actions that touch the queue are redirects and fixed responses, and each puts one answer at its end,
with texts as they read at that moment (`Action.deferred_perform`).  What is performed later finds the answer in the
queue and hands it on; so a walk leaves the queue that it found and behind it the answers among its moments
(`Moment.Lead.deferred`).
-/

namespace Reroute

/-- The answer that a moment asks for, read off the request and the scratch of that moment. -/
def Moment.answer? : Moment → Option Deferred
  | performed (.redirect answer) request scratch => some (answer.deferred request scratch)
  | performed (.respond answer) request scratch => some (answer.deferred request scratch)
  | _ => none

private theorem Env.deferred_schedule {env : Env} (henv : env.mode.executes = true) (request : Request)
    (answer : Deferred) :
    (env.schedule request answer).deferred = request.deferred ++ [answer] := by
  rw [schedule, if_pos henv]
  rfl

/-- One action: an answer goes to the end of the queue, and everything else hands the queue on. -/
theorem Action.deferred_perform {env : Env} (henv : env.mode.executes = true) {action : Action} (h : action.IsSingle)
    (request : Request) (scratch : Scratch) :
    (action.perform env request scratch).request.deferred =
      request.deferred ++ (Moment.performed action request scratch).answer?.toList := by
  -- what is no answer is a change that is blind to the queue
  have hblind : ∀ f : Request → Request, Request.QueueBlind f → (f request).deferred = request.deferred ++ [] := by
    intro f hf
    rw [hf.deferred_eq, List.append_nil]
  cases action with
  | replace target value =>
    exact hblind (·.replace target (value.read request scratch)) fun r queue => r.replace_withQueue queue target _
  | append target value =>
    exact hblind (·.append target (value.read request scratch)) fun r queue => r.append_withQueue queue target _
  | insert index value =>
    exact hblind (·.insertSegment index (value.read request scratch))
      fun r queue => r.insertSegment_withQueue queue index _
  | delete target => exact hblind (·.delete target) fun r queue => r.delete_withQueue queue target
  | keep list => exact hblind (·.keep list) fun r queue => r.keep_withQueue queue list
  | normalize leading trailing =>
    exact hblind (·.normalize leading trailing) fun r queue => r.normalize_withQueue queue leading trailing
  | truncate depth => exact hblind (·.truncate depth) fun r queue => r.truncate_withQueue queue depth
  | redirect answer => exact Env.deferred_schedule henv request _
  | respond answer => exact Env.deferred_schedule henv request _
  | abort => exact (List.append_nil _).symm
  | doNothing outcome => exact (List.append_nil _).symm
  | custom action => exact h.elim
  | sequence steps => exact h.elim
  | rules list => exact h.elim

/-- Actions in a row: the answers stand behind the queue that was there, in order and each once. -/
theorem Moment.Lead.deferred {env : Env} (henv : env.mode.executes = true) {start reached : Request}
    {moments : List Moment} (h : Lead env .ownActions start moments reached) :
    reached.deferred = start.deferred ++ moments.filterMap answer? := by
  induction h with
  | nil request => exact (List.append_nil _).symm
  | matched depth rule _ ih => exact ih
  | @performed action start reached moments scratch hleaf hlaw _ ih =>
    have hsingle := Action.isSingle_of_leaf hleaf hlaw
    rw [ih, Action.deferred_perform henv hsingle, List.append_assoc, List.filterMap_cons]
    cases (Moment.performed action start scratch).answer? <;> rfl

namespace Engine

end Engine

end Reroute
