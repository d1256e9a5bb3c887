import Reroute.Rule.Basic
import Reroute.Rule.Evaluate

/-!
# Engines

An engine runs a rule set on requests.  `process` changes the request and hands out the actions it queued; `dryRun`
works on a copy without side effects and only says what would come of it.
-/

namespace Reroute

/-- What came of a request. -/
structure Verdict where
  matched : Bool
  endRequest : Bool
  dynamic : Bool
  modified : Bool
  newUrl : String
  deferred : List Deferred
deriving DecidableEq, Repr

/-- A verdict, the request behind it, and the notes of the walk. -/
structure Processed where
  verdict : Verdict
  request : Request
  notes : List Note

/-- A rule set with its surroundings. -/
structure Engine where
  rules : RuleSet
  env : Env

namespace Engine

/-- The record of a changed request. -/
def record (request : Request) (endRequest : Bool) : LogRecord :=
  ⟨.debug, "rewrite_core::engine", "request rewritten",
    [("original", .text request.receivedUrl), ("rewritten", .text request.url), ("end_request", .bool endRequest)]⟩

/-- Walks over the rules and drains the queue. -/
def process (engine : Engine) (request : Request) : Processed :=
  let walked := engine.rules.root.walk engine.env none request
  let reported := if walked.request.modified then [.record (record walked.request walked.flags.endRequest)] else []
  let (deferred, drained) := walked.request.takeDeferred
  ⟨⟨walked.flags.matched, walked.flags.endRequest, walked.flags.dynamic, walked.request.modified, walked.request.url,
    deferred⟩, drained, walked.notes ++ reported⟩

/-- The same engine without side effects. -/
def dry (engine : Engine) : Engine := { engine with env := { engine.env with mode := .trace } }

/-- What would come of a request; the request itself stays. -/
def dryRun (engine : Engine) (request : Request) : Processed :=
  { engine.dry.process request with request := request }

end Engine

end Reroute
