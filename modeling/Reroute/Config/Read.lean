import Reroute.Config.Document
import Reroute.Hcl.Reader

/-!
# Reading rules documents

A document is read from the values of a rules file.  Attributes without a block's knowledge, attributes that stand
twice and values of a wrong type are refused, but every value can stand for a text.  An optional attribute may be
`null`.  A block may also stand as the list of its values in the order of its attributes, where only attributes with a
default may be missing at the end.
-/

namespace Reroute

namespace Hcl.Value

/-! ### Single values -/

/-- A truth value. -/
def bool? (value : Value) : Option Bool :=
  match value.bare with
  | bool value => some value
  | _ => none

/-- A whole number from a range. -/
def within? (low high : Int) (value : Value) : Option Int :=
  match value.bare with
  | number (.whole n) => if low ≤ n ∧ n ≤ high then some n else none
  | _ => none

/-- A signed number of 64 bits. -/
def int? : Value → Option Int := within? (-9223372036854775808) 9223372036854775807

/-- An unsigned number of so many bits. -/
def nat? (bits : Nat) (value : Value) : Option Nat := (within? 0 (Nat.pow 2 bits - 1 : Nat) value).map Int.toNat

/-- A text or an expression. -/
def symbol? : Value → Option String
  | text content => some content
  | template content => some content
  | name word => some (name word).toText
  | code written => some (code written).toText
  | _ => none

/-- A number or a text. -/
def scalar? (value : Value) : Option Scalar :=
  match value.bare with
  | number written => (number written).int?.map .number
  | value => value.symbol?.map .text

/-- A value that may be missing. -/
def optional? {α : Type} (read : Value → Option α) : Value → Option (Option α)
  | null => some none
  | value => (read value).map some

/-- A text that may be missing. -/
def optionalText? : Value → Option (Option String) := optional? fun value => some value.toText

/-! ### Lists and objects -/

/-- Values in a row. -/
def list? {α : Type} (read : Value → Option α) (value : Value) : Option (List α) :=
  match value.bare with
  | list items => items.mapM read
  | _ => none

/-- The text of a key: a bare word stands for itself. -/
def key? : Value → Option String
  | name word => some word
  | value => value.bare.symbol?

/-- The entries whose key does not come again. -/
def lastOfEach : List (String × String) → List (String × String)
  | [] => []
  | entry :: entries =>
    if entries.any (·.1 == entry.1) then lastOfEach entries else entry :: lastOfEach entries

/-- Named texts; of several with one name the last counts. -/
def texts? (value : Value) : Option (List (String × String)) :=
  match value.bare with
  | object fields => do
    let entries ← fields.mapM fun (key, value) => key.key?.map (·, value.toText)
    some (lastOfEach entries)
  | _ => none

/-- The attribute that a key names; a number is its position among `names`. -/
def attribute? (names : List String) (key : Value) : Option String :=
  match key.bare with
  | number (.whole n) => if 0 ≤ n then names[n.toNat]? else none
  | _ => key.key?

/-- The fields of a block with the attributes `names`, of which `required` at the front have no default. -/
def block? (names : List String) (required : Nat) (value : Value) : Option Fields :=
  match value.bare with
  | object fields => do
    let fields ← fields.mapM fun (key, value) => (key.attribute? names).map (·, value)
    if (fields.map (·.1)).Nodup then some fields else none
  | list items => if required ≤ items.length then some (names.zip items) else none
  | _ => none

end Hcl.Value

open Hcl (Value Fields)

/-! ### Blocks -/

namespace MapBlock

/-- Gives an attribute a value. -/
def set? (block : MapBlock) : String × Value → Option MapBlock
  | ("name", v) => v.optionalText?.map ({ block with name := · })
  | ("default_value", v) => v.optionalText?.map ({ block with fallback := · })
  | ("entries", v) => v.texts?.map ({ block with entries := · })
  | _ => none

/-- Reads a lookup table. -/
def read? (value : Value) : Option MapBlock := do
  let fields ← value.block? ["name", "default_value", "entries"] 2
  fields.foldlM set? empty

end MapBlock

namespace MatchBlock

/-- Gives an attribute a value. -/
def set? (block : MatchBlock) : String × Value → Option MatchBlock
  | ("url", v) => some { block with url := v.toText }
  | ("syntax", v) => v.optionalText?.map ({ block with kind := · })
  | ("ignore_case", v) => v.bool?.map ({ block with ignoreCase := · })
  | ("negate", v) => v.bool?.map ({ block with negate := · })
  | ("input", v) => v.optionalText?.map ({ block with input := · })
  | _ => none

/-- Reads a pattern. -/
def read? (value : Value) : Option MatchBlock := do
  let fields ← value.block? ["url", "syntax", "ignore_case", "negate", "input"] 5
  if fields.any (·.1 == "url") then fields.foldlM set? empty else none

end MatchBlock

namespace TestBlock

/-- Gives an attribute a value. -/
def set? (block : TestBlock) : String × Value → Option TestBlock
  | ("input", v) => v.optionalText?.map ({ block with input := · })
  | ("scope", v) => v.optionalText?.map ({ block with scope := · })
  | ("index", v) => (v.optional? (·.scalar?)).map ({ block with index := · })
  | ("pattern", v) => v.optionalText?.map ({ block with pattern := · })
  | ("match_type", v) => v.optionalText?.map ({ block with matchType := · })
  | ("negate", v) => v.bool?.map ({ block with negate := · })
  | ("ignore_case", v) => v.bool?.map ({ block with ignoreCase := · })
  | ("operator", v) => v.optionalText?.map ({ block with operator := · })
  | ("value", v) => (v.optional? (·.int?)).map ({ block with operand := · })
  | ("default", v) => (v.optional? (·.int?)).map ({ block with fallback := · })
  | ("params", v) => v.texts?.map ({ block with params := · })
  | _ => none

end TestBlock

namespace ConditionBlock

/-- Gives an attribute a value; `readGroup` reads a group. -/
def set? (readGroup : Value → Option GroupBlock) (block : ConditionBlock) : String × Value → Option ConditionBlock
  | ("group", v) => (v.optional? readGroup).map ({ block with group := · })
  | field => (block.test.set? field).map ({ block with test := · })

/-- Reads a condition; `readGroup` reads a group. -/
def read? (readGroup : Value → Option GroupBlock) (value : Value) : Option ConditionBlock := do
  let fields ← value.block? ["input", "scope", "index", "pattern", "match_type", "negate", "ignore_case", "operator",
    "value", "default", "group", "params"] 11
  fields.foldlM (set? readGroup) ⟨.empty, none⟩

end ConditionBlock

namespace GroupBlock

/-- Gives an attribute a value; `readItem` reads a condition. -/
def set? (readItem : Value → Option ConditionBlock) (block : GroupBlock) : String × Value → Option GroupBlock
  | ("logic", v) => v.optionalText?.map ({ block with logic := · })
  | ("track_all_captures", v) => v.bool?.map ({ block with trackCaptures := · })
  | ("items", v) => (v.list? readItem).map ({ block with items := · })
  | _ => none

/-- Reads a group; `fuel` exceeds the nesting of groups. -/
def read? : Nat → Value → Option GroupBlock
  | 0, _ => none
  | fuel + 1, value => do
    let fields ← value.block? ["logic", "track_all_captures", "items"] 1
    fields.foldlM (set? (ConditionBlock.read? (read? fuel))) empty

end GroupBlock

namespace ActionBlock

/-- Gives an attribute a value. -/
def set? (block : ActionBlock) : String × Value → Option ActionBlock
  | ("type", v) => some { block with kind := v.toText }
  | ("scope", v) => v.optionalText?.map ({ block with scope := · })
  | ("index", v) => (v.optional? (·.scalar?)).map ({ block with index := · })
  | ("value", v) => v.optionalText?.map ({ block with value := · })
  | ("literal", v) => v.optionalText?.map ({ block with literal := · })
  | ("from_scope", v) => v.optionalText?.map ({ block with fromScope := · })
  | ("from_index", v) => (v.optional? (·.scalar?)).map ({ block with fromIndex := · })
  | ("url", v) => v.optionalText?.map ({ block with url := · })
  | ("redirect_type", v) => (v.optional? (·.scalar?)).map ({ block with redirectType := · })
  | ("status_code", v) => (v.optional? (·.nat? 16)).map ({ block with statusCode := · })
  | ("status_reason", v) => v.optionalText?.map ({ block with statusReason := · })
  | ("body", v) => v.optionalText?.map ({ block with body := · })
  | ("leading", v) => v.optionalText?.map ({ block with leading := · })
  | ("trailing", v) => v.optionalText?.map ({ block with trailing := · })
  | ("max_depth", v) => (v.optional? (·.nat? 64)).map fun depth => { block with maxDepth := depth.map UInt64.ofNat }
  | ("stop_processing", v) => (v.optional? (·.bool?)).map ({ block with stop := · })
  | ("end_request", v) => (v.optional? (·.bool?)).map ({ block with endRequest := · })
  | ("params", v) => v.texts?.map ({ block with params := · })
  | _ => none

/-- Reads an action. -/
def read? (value : Value) : Option ActionBlock := do
  let fields ← value.block? ["type", "scope", "index", "value", "literal", "from_scope", "from_index", "url",
    "redirect_type", "status_code", "status_reason", "body", "leading", "trailing", "max_depth", "stop_processing",
    "end_request", "params"] 17
  if fields.any (·.1 == "type") then fields.foldlM set? empty else none

end ActionBlock

namespace RuleBlock

/-- Gives an attribute a value; groups nest below `fuel`, and `readRule` reads a nested rule. -/
def set? (fuel : Nat) (readRule : Value → Option RuleBlock) (block : RuleBlock) : String × Value → Option RuleBlock
  | ("name", v) => v.optionalText?.map ({ block with name := · })
  | ("stop_processing", v) => v.bool?.map ({ block with stop := · })
  | ("dynamic", v) => v.bool?.map ({ block with dynamic := · })
  | ("enabled", v) => v.bool?.map ({ block with enabled := · })
  | ("match", v) => (v.optional? MatchBlock.read?).map ({ block with matcher := · })
  | ("conditions", v) => (v.optional? (GroupBlock.read? fuel)).map ({ block with conditions := · })
  | ("actions", v) => (v.list? ActionBlock.read?).map ({ block with actions := · })
  | ("rules", v) => (v.list? readRule).map ({ block with rules := · })
  | _ => none

/-- Reads a rule; `fuel` exceeds the nesting of rules and groups. -/
def read? : Nat → Value → Option RuleBlock
  | 0, _ => none
  | fuel + 1, value => do
    let fields ← value.block? ["name", "stop_processing", "dynamic", "enabled", "match", "conditions", "actions",
      "rules"] 6
    fields.foldlM (set? fuel (read? fuel)) empty

end RuleBlock

namespace Document

/-- Gives an attribute a value; rules and groups nest below `fuel`. -/
def set? (fuel : Nat) (document : Document) : String × Value → Option Document
  | ("rewrite_maps", v) => (v.list? MapBlock.read?).map ({ document with maps := · })
  | ("rules", v) => (v.optional? (·.list? (RuleBlock.read? fuel))).map ({ document with rules := · })
  | _ => none

/-- Reads the text of a rules file.  Every level of nesting takes a character, so that the length of the text
suffices as fuel. -/
def parse? (text : String) : Option Document := do
  let fields ← Hcl.parse? text
  fields.foldlM (set? (text.length + 1)) ⟨[], none⟩

end Document

end Reroute
