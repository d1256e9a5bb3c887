import Reroute.Request.Deferred
import Reroute.Text.Json
import Reroute.Walk.Event

/-!
# Results as JSON

Events, queued actions and log records as JSON objects.
-/

namespace Reroute

/-- An event. -/
def Event.toJson : Event → JsonValue
  | ruleListBegin name => .object [("event", .text "rule_list_begin"), ("name", .text name)]
  | ruleListEnd name matched endRequest =>
    .object [("event", .text "rule_list_end"), ("name", .text name), ("matched", .bool matched),
      ("end_request", .bool endRequest)]
  | ruleBegin name => .object [("event", .text "rule_begin"), ("name", .text name)]
  | ruleEnd name matched stop endRequest =>
    .object [("event", .text "rule_end"), ("name", .text name), ("matched", .bool matched),
      ("stop_processing", .bool stop), ("end_request", .bool endRequest)]
  | conditionListBegin logic => .object [("event", .text "condition_list_begin"), ("logic", .text logic)]
  | conditionListEnd logic result =>
    .object [("event", .text "condition_list_end"), ("logic", .text logic), ("result", .bool result)]
  | condition description result =>
    .object [("event", .text "condition"), ("description", .text description), ("result", .bool result)]
  | action description stop endRequest =>
    .object [("event", .text "action"), ("description", .text description), ("stop_processing", .bool stop),
      ("end_request", .bool endRequest)]

/-- A queued action. -/
def Deferred.toJson : Deferred → JsonValue
  | redirect location status =>
    .object [("kind", .text "redirect"), ("location", .text location), ("status", .number status)]
  | respond status reason body =>
    .object [("kind", .text "respond"), ("status", .number status), ("reason", .text reason), ("body", .ofText? body)]

/-- A value of a record. -/
def LogValue.toJson : LogValue → JsonValue
  | text value => .text value
  | bool value => .bool value
  | number value => .number value

/-- A record with its values beside level, message and source. -/
def LogRecord.toJson (record : LogRecord) : JsonValue :=
  .object ([("level", .text record.level.name), ("message", .text record.message)]
    ++ record.values.map (fun value => (value.1, value.2.toJson)) ++ [("target", .text record.source)])

end Reroute
