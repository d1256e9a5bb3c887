import Reroute.Config.Document
import Reroute.Text.Json

/-!
# Documents as JSON

A document with all its attributes, the missing ones as `null`; named texts stand in the order of their names.
-/

namespace Reroute

/-- A number or a text. -/
def Scalar.toJson : Scalar → JsonValue
  | number value => .number value
  | text content => .text content

/-- A number, a text or `null`. -/
def Scalar.toJson? (scalar : Option Scalar) : JsonValue := (scalar.map Scalar.toJson).getD .null

/-- A lookup table. -/
def MapBlock.toJson (block : MapBlock) : JsonValue :=
  .object [("name", .ofText? block.name), ("default_value", .ofText? block.fallback),
    ("entries", .ofEntries (sortedByName block.entries))]

/-- A pattern. -/
def MatchBlock.toJson (block : MatchBlock) : JsonValue :=
  .object [("url", .text block.url), ("syntax", .ofText? block.kind), ("ignore_case", .bool block.ignoreCase),
    ("negate", .bool block.negate), ("input", .ofText? block.input)]

mutual

/-- A group of conditions. -/
def GroupBlock.toJson : GroupBlock → JsonValue
  | ⟨logic, trackCaptures, items⟩ =>
    .object [("logic", .ofText? logic), ("track_all_captures", .bool trackCaptures),
      ("items", .list (ConditionBlock.toJsonAll items))]

/-- A condition around the value of its group. -/
def ConditionBlock.toJson : ConditionBlock → JsonValue
  | ⟨test, group⟩ =>
    .object [("input", .ofText? test.input), ("scope", .ofText? test.scope), ("index", Scalar.toJson? test.index),
      ("pattern", .ofText? test.pattern), ("match_type", .ofText? test.matchType), ("negate", .bool test.negate),
      ("ignore_case", .bool test.ignoreCase), ("operator", .ofText? test.operator),
      ("value", .ofNumber? test.operand), ("default", .ofNumber? test.fallback),
      ("group", match group with | some group => group.toJson | none => .null),
      ("params", .ofEntries (sortedByName test.params))]

/-- Conditions in order. -/
def ConditionBlock.toJsonAll : List ConditionBlock → List JsonValue
  | [] => []
  | block :: blocks => block.toJson :: ConditionBlock.toJsonAll blocks

end

/-- An action. -/
def ActionBlock.toJson (block : ActionBlock) : JsonValue :=
  .object [("type", .text block.kind), ("scope", .ofText? block.scope), ("index", Scalar.toJson? block.index),
    ("value", .ofText? block.value), ("literal", .ofText? block.literal), ("from_scope", .ofText? block.fromScope),
    ("from_index", Scalar.toJson? block.fromIndex), ("url", .ofText? block.url),
    ("redirect_type", Scalar.toJson? block.redirectType), ("status_code", .ofNumber? (block.statusCode.map Int.ofNat)),
    ("status_reason", .ofText? block.statusReason), ("body", .ofText? block.body), ("leading", .ofText? block.leading),
    ("trailing", .ofText? block.trailing), ("max_depth", .ofNumber? (block.maxDepth.map fun depth => depth.toNat)),
    ("stop_processing", .ofBool? block.stop), ("end_request", .ofBool? block.endRequest),
    ("params", .ofEntries (sortedByName block.params))]

mutual

/-- A rule. -/
def RuleBlock.toJson : RuleBlock → JsonValue
  | ⟨name, stop, dynamic, enabled, matcher, conditions, actions, rules⟩ =>
    .object [("name", .ofText? name), ("stop_processing", .bool stop), ("dynamic", .bool dynamic),
      ("enabled", .bool enabled), ("match", (matcher.map MatchBlock.toJson).getD .null),
      ("conditions", (conditions.map GroupBlock.toJson).getD .null),
      ("actions", .list (actions.map ActionBlock.toJson)), ("rules", .list (RuleBlock.toJsonAll rules))]

/-- Rules in order. -/
def RuleBlock.toJsonAll : List RuleBlock → List JsonValue
  | [] => []
  | block :: blocks => block.toJson :: RuleBlock.toJsonAll blocks

end

/-- A document. -/
def Document.toJson (document : Document) : JsonValue :=
  .object [("rewrite_maps", .list (document.maps.map MapBlock.toJson)),
    ("rules", match document.rules with | some rules => .list (RuleBlock.toJsonAll rules) | none => .null)]

end Reroute
