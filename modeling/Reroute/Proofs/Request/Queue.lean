import Reroute.Rule.Evaluate
import Reroute.Proofs.Rule.Law

/-!
# The queue of deferred actions

The queue stands beside the rest of a request: no value reads it, and whatever writes a place of the request hands
it on.  A change of a request is blind to the queue if it commutes with the exchange of the queue; extensions are
asked for the same by the law `queueBlind`.
-/

namespace Reroute

namespace Request

/-- The same request with another queue. -/
def withQueue (request : Request) (queue : List Deferred) : Request := { request with deferred := queue }

variable (request : Request) (queue other : List Deferred)

@[simp] theorem deferred_withQueue : (request.withQueue queue).deferred = queue := rfl

@[simp] theorem withQueue_withQueue : (request.withQueue queue).withQueue other = request.withQueue other := rfl

@[simp] theorem withQueue_deferred : request.withQueue request.deferred = request := rfl

@[simp] theorem path_withQueue : (request.withQueue queue).path = request.path := rfl

@[simp] theorem query_withQueue : (request.withQueue queue).query = request.query := rfl

@[simp] theorem headers_withQueue : (request.withQueue queue).headers = request.headers := rfl

@[simp] theorem serverVariables_withQueue :
    (request.withQueue queue).serverVariables = request.serverVariables := rfl

@[simp] theorem queryText_withQueue : (request.withQueue queue).queryText = request.queryText := rfl

@[simp] theorem url_withQueue : (request.withQueue queue).url = request.url := rfl

theorem defer_withQueue (action : Deferred) :
    (request.withQueue queue).defer action = request.withQueue (queue ++ [action]) := rfl

end Request

/-! ### Reading -/

private theorem Getter.read_withQueue (g : Getter) (request : Request) (queue : List Deferred) (scratch : Scratch) :
    g.read (request.withQueue queue) scratch = g.read request scratch := rfl

mutual

/-- No value reads the queue. -/
@[simp] theorem Value.read_withQueue (request : Request) (queue : List Deferred) (scratch : Scratch) :
    ∀ value : Value, value.read (request.withQueue queue) scratch = value.read request scratch
  | .getter _ => by simp only [Value.read, Getter.read_withQueue]
  | .concat parts _ _ => by simp only [Value.read, Value.readAll_withQueue request queue scratch parts]

private theorem Value.readAll_withQueue (request : Request) (queue : List Deferred) (scratch : Scratch) :
    ∀ values : List Value,
      Value.readAll values (request.withQueue queue) scratch = Value.readAll values request scratch
  | [] => rfl
  | value :: values => by
    simp only [Value.readAll, Value.read_withQueue request queue scratch value,
      Value.readAll_withQueue request queue scratch values]

end

theorem TextMatch.test_withQueue (m : TextMatch) (request : Request) (queue : List Deferred) (scratch : Scratch) :
    m.test (request.withQueue queue) scratch = m.test request scratch := by
  simp [TextMatch.test]

theorem NumberMatch.test_withQueue (m : NumberMatch) (request : Request) (queue : List Deferred) (scratch : Scratch) :
    m.test (request.withQueue queue) scratch = m.test request scratch := by
  simp [NumberMatch.test, Value.readNumber]

theorem FileMatch.test_withQueue (m : FileMatch) (env : Env) (request : Request) (queue : List Deferred)
    (scratch : Scratch) : m.test env (request.withQueue queue) scratch = m.test env request scratch := by
  simp [FileMatch.test]

theorem Redirect.deferred_withQueue (redirect : Redirect) (request : Request) (queue : List Deferred)
    (scratch : Scratch) : redirect.deferred (request.withQueue queue) scratch = redirect.deferred request scratch := by
  cases h : redirect.location <;> simp [Redirect.deferred, h]

theorem FixedResponse.deferred_withQueue (response : FixedResponse) (request : Request) (queue : List Deferred)
    (scratch : Scratch) : response.deferred (request.withQueue queue) scratch = response.deferred request scratch := by
  simp [FixedResponse.deferred]

/-! ### Writing -/

/-- A change of a request that neither looks at the queue nor changes it. -/
def Request.QueueBlind (f : Request → Request) : Prop :=
  ∀ request queue, f (request.withQueue queue) = (f request).withQueue queue

namespace Request.QueueBlind

/-- A blind change leaves the queue as it is. -/
theorem deferred_eq {f : Request → Request} (hf : QueueBlind f) (request : Request) :
    (f request).deferred = request.deferred := by
  have h := congrArg Request.deferred (hf request request.deferred)
  simpa using h

end Request.QueueBlind

namespace Request

theorem replace_withQueue (request : Request) (queue : List Deferred) (target : Target) (text : String) :
    (request.withQueue queue).replace target text = (request.replace target text).withQueue queue := by
  cases target with
  | pathElement index =>
    simp only [replace, path_withQueue]
    split <;> rfl
  | _ => rfl

theorem append_withQueue (request : Request) (queue : List Deferred) (target : Target) (text : String) :
    (request.withQueue queue).append target text = (request.append target text).withQueue queue := by
  cases target with
  | pathElement index =>
    simp only [append, path_withQueue]
    split <;> rfl
  | queryText =>
    simp only [append, queryText_withQueue]
    split <;> rfl
  | _ => rfl

theorem insertSegment_withQueue (request : Request) (queue : List Deferred) (index : Int) (text : String) :
    (request.withQueue queue).insertSegment index text = (request.insertSegment index text).withQueue queue := by
  simp only [insertSegment, path_withQueue]
  split <;> rfl

theorem delete_withQueue (request : Request) (queue : List Deferred) (target : Target) :
    (request.withQueue queue).delete target = (request.delete target).withQueue queue := by
  cases target with
  | pathElement index =>
    simp only [delete, path_withQueue]
    split <;> rfl
  | parameter name =>
    simp only [delete, query_withQueue, apply_ite (withQueue · queue)]
    rfl
  | header name =>
    simp only [delete, headers_withQueue, apply_ite (withQueue · queue)]
    rfl
  | serverVariable name =>
    simp only [delete, serverVariables_withQueue, apply_ite (withQueue · queue)]
    rfl
  | _ => rfl

private theorem setSegments_withQueue (request : Request) (queue : List Deferred) (segments : List String) :
    (request.withQueue queue).setSegments segments = (request.setSegments segments).withQueue queue := by
  simp only [setSegments, path_withQueue, apply_ite (withQueue · queue)]
  rfl

theorem keep_withQueue (request : Request) (queue : List Deferred) (list : AllowList) :
    (request.withQueue queue).keep list = (request.keep list).withQueue queue := by
  cases list with
  | elements indices => simp only [keep, path_withQueue, setSegments_withQueue]
  | parameters names =>
    simp only [keep, query_withQueue, apply_ite (withQueue · queue)]
    rfl
  | headers names =>
    simp only [keep, headers_withQueue, apply_ite (withQueue · queue)]
    rfl

theorem normalize_withQueue (request : Request) (queue : List Deferred) (leading trailing : SlashPolicy) :
    (request.withQueue queue).normalize leading trailing = (request.normalize leading trailing).withQueue queue := by
  simp only [normalize, path_withQueue, setSegments_withQueue]

theorem truncate_withQueue (request : Request) (queue : List Deferred) (depth : UInt64) :
    (request.withQueue queue).truncate depth = (request.truncate depth).withQueue queue := by
  simp only [truncate, path_withQueue]
  split <;> rfl

end Request

/-! ### Extensions -/

/-- Extensions that do not touch the queue: they neither look at it nor change it. -/
def ExtensionLaw.queueBlind : ExtensionLaw where
  condition c := ∀ request queue scratch, c.test (request.withQueue queue) scratch = c.test request scratch
  action a := ∀ request queue scratch,
    a.perform (request.withQueue queue) scratch =
      let (outcome, changed, scratch) := a.perform request scratch
      (outcome, changed.withQueue queue, scratch)

end Reroute
