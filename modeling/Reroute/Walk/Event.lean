import Reroute.Text.Display
import Reroute.Walk.Log

/-!
# Events of a walk

What a walk over rules reports when it traces: where lists, rules and condition lists begin and end, and the
result of every condition and action.  `render` writes events as lines indented by their depth.
-/

namespace Reroute

/-- An event. -/
inductive Event where
  | ruleListBegin (name : String)
  | ruleListEnd (name : String) (matched endRequest : Bool)
  | ruleBegin (name : String)
  | ruleEnd (name : String) (matched stop endRequest : Bool)
  | conditionListBegin (logic : String)
  | conditionListEnd (logic : String) (result : Bool)
  | condition (description : String) (result : Bool)
  | action (description : String) (stop endRequest : Bool)
deriving DecidableEq, Repr

namespace Event

/-- How an event changes the depth: beginnings open a level and ends close one. -/
def depthChange : Event → Int
  | ruleListBegin _ | ruleBegin _ | conditionListBegin _ => 1
  | ruleListEnd _ _ _ | ruleEnd _ _ _ _ | conditionListEnd _ _ => -1
  | condition _ _ | action _ _ _ => 0

/-- An event in words. -/
def describe : Event → String
  | ruleListBegin name => "rules '" ++ name ++ "'"
  | ruleListEnd name matched endRequest =>
    "end rules '" ++ name ++ "' matched=" ++ Style.truth matched ++ " end=" ++ Style.truth endRequest
  | ruleBegin name => "rule '" ++ name ++ "'"
  | ruleEnd name matched stop endRequest =>
    "end rule '" ++ name ++ "' matched=" ++ Style.truth matched ++ " stop=" ++ Style.truth stop ++ " end=" ++ Style.truth endRequest
  | conditionListBegin logic => "conditions " ++ logic
  | conditionListEnd logic result => "end conditions " ++ logic ++ " = " ++ Style.truth result
  | condition description result => "condition " ++ description ++ " = " ++ Style.truth result
  | action description stop endRequest =>
    "action " ++ description ++ " stop=" ++ Style.truth stop ++ " end=" ++ Style.truth endRequest

/-! ### Lines -/

/-- The depth at which an event stands, and the depth behind it; a close at depth zero stays there. -/
def place (depth : Nat) (event : Event) : Nat × Nat :=
  let change := event.depthChange
  if change < 0 then (depth - 1, depth - 1)
  else if change > 0 then (depth, depth + 1)
  else (depth, depth)

/-- Events with the depths at which they stand. -/
def placed : Nat → List Event → List (Nat × Event)
  | _, [] => []
  | depth, event :: events =>
    let (here, behind) := place depth event
    (here, event) :: placed behind events

/-- Two blanks for every level. -/
def indent (depth : Nat) : String := String.ofList (List.replicate (2 * depth) ' ')

/-- The events as lines, each written by `line`. -/
def render (line : Event → String) (events : List Event) : String :=
  String.join ((placed 0 events).map fun p => indent p.1 ++ line p.2 ++ "\n")

/-- The events as plain lines. -/
def renderPlain (events : List Event) : String := render describe events

/-! ### Lines with style -/

/-- An event in style: what held is green, what did not is dimmed. -/
def styledLine (event : Event) : String :=
  match event with
  | condition _ true | conditionListEnd _ true | ruleEnd _ true _ _ => Style.green event.describe
  | condition _ false | conditionListEnd _ false | ruleEnd _ false _ _ => Style.dimmed event.describe
  | action _ _ _ => Style.yellow event.describe
  | _ => Style.bold event.describe

/-- The events as lines with style. -/
def renderPretty (events : List Event) : String := render styledLine events

/-! ### Records -/

/-- An event as a log record. -/
def toRecord (event : Event) : LogRecord :=
  let source := "rewrite_core::trace"
  match event with
  | ruleEnd name matched stop endRequest =>
    ⟨.debug, source, "rule evaluated",
      [("rule", .text name), ("matched", .bool matched), ("stop_processing", .bool stop),
        ("end_request", .bool endRequest)]⟩
  | condition description result =>
    ⟨.debug, source, "condition evaluated", [("condition", .text description), ("result", .bool result)]⟩
  | action description stop endRequest =>
    ⟨.debug, source, "action performed",
      [("action", .text description), ("stop_processing", .bool stop), ("end_request", .bool endRequest)]⟩
  | other => ⟨.trace, source, "rewrite trace", [("event", .text other.describe)]⟩

end Event

end Reroute
