import Reroute.Walk.Event

/-!
# The surroundings of a walk

Whether side effects are queued and events reported, where events go, and how files are looked up.  What a walk
leaves behind besides the request is a list of notes.
-/

namespace Reroute

/-- Whether side effects are queued and events reported. -/
inductive Mode where
  | execute
  | trace
  | both
deriving DecidableEq, Repr

namespace Mode

/-- Whether side effects are queued. -/
def executes : Mode → Bool
  | execute | both => true
  | trace => false

/-- Whether events are reported. -/
def traces : Mode → Bool
  | trace | both => true
  | execute => false

end Mode

/-- Where events go. -/
inductive Sink where
  | record
  | log
  | discard
deriving DecidableEq, Repr

/-- What a path leads to. -/
inductive FileKind where
  | file
  | directory
  | other
deriving DecidableEq, Repr

/-- The surroundings.  `probe` says what a path leads to, or why that cannot be said. -/
structure Env where
  mode : Mode
  documentRoot : String
  sink : Sink
  probe : String → Except String FileKind

/-- What a walk leaves behind: recorded events, log records, paths that were looked up. -/
inductive Note where
  | event (event : Event)
  | record (record : LogRecord)
  | probed (path : String)
deriving DecidableEq, Repr

namespace Note

/-- The events among notes. -/
def events (notes : List Note) : List Event :=
  notes.filterMap fun
    | event e => some e
    | _ => none

/-- The log records among notes. -/
def records (notes : List Note) : List LogRecord :=
  notes.filterMap fun
    | record r => some r
    | _ => none

/-- The looked-up paths among notes. -/
def paths (notes : List Note) : List String :=
  notes.filterMap fun
    | probed path => some path
    | _ => none

end Note

/-- The notes that reporting an event leaves. -/
def Env.report (env : Env) (event : Event) : List Note :=
  if env.mode.traces then
    match env.sink with
    | .record => [.event event]
    | .log => [.record event.toRecord]
    | .discard => []
  else []

end Reroute
