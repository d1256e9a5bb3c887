import Reroute.Config.Lower
import Reroute.Rule.Basic
import Reroute.Walk.Log

/-!
# Compiling rules documents

A document becomes a rule set: first the lookup tables, then the rules in order.  A disabled rule is left out
unread, with everything in it.  A rule without a name is named after its position, and its nested rules become the
last of its actions.
-/

namespace Reroute

namespace Config

/-- The part of the program that reports. -/
def source : String := "rewrite_core::conf::compile"

/-- The record of a compiled table. -/
def tableRecord (table : LookupTable) : LogRecord :=
  ⟨.debug, source, "rewrite map compiled", [("map", .text table.name), ("entries", .number table.size)]⟩

/-- The record of a rule that is left out. -/
def skippedRecord (name : String) : LogRecord := ⟨.debug, source, "rule disabled, skipped", [("rule", .text name)]⟩

/-- The record of a compiled rule. -/
def ruleRecord (place : Place) (name : String) : LogRecord :=
  ⟨.debug, source, "rule compiled", [("origin", .text place.describe), ("rule", .text name)]⟩

/-- The record of a compiled document. -/
def documentRecord (file : String) (rules : RuleSet) : LogRecord :=
  ⟨.info, source, "rules compiled",
    [("file", .text file), ("rules", .number rules.ruleCount), ("maps", .number rules.tableCount)]⟩

end Config

open Config

/-! ### Lookup tables -/

/-- The name of a table without blanks around it. -/
def MapBlock.tableName (block : MapBlock) : String := Text.trim (block.name.getD "")

/-- The table of a block, among tables under the names `taken`; entries are made in the order of their keys. -/
def MapBlock.table (block : MapBlock) (place : Place) (taken : List String) : Except ConfigError LookupTable :=
  let name := block.tableName
  if name = "" then .error (.unnamedMap place)
  else if name.toList.contains ':' then .error (.invalidMapName place name)
  else if taken.contains (Text.lowerAscii name) then .error (.duplicateMap place name)
  else .ok (.ofEntries name block.fallback (sortedByName block.entries))

/-- The tables of blocks counted from an index, behind those so far. -/
def compileTables (place : Place) (index : Nat) (tables : List (String × LookupTable)) :
    List MapBlock → Logged ConfigError (List (String × LookupTable))
  | [] => pure tables
  | block :: blocks => do
    let table ← .ofExcept (block.table (place.inside (.map index)) (tables.map (·.1)))
    .report (tableRecord table)
    compileTables place (index + 1) (tables ++ [(Text.lowerAscii table.name, table)]) blocks

/-! ### Rules -/

/-- The name of a rule at a position. -/
def ruleName (name : Option String) (index : Nat) : String := name.getD ("rule-" ++ toString index)

/-- The rule of its parts; what has no items is left out. -/
def Rule.assemble (name : String) (stop dynamic : Bool) (conditions : ConditionList) (actions : ActionList) : Rule :=
  ⟨name, stop, dynamic, if conditions.items.isEmpty then none else some conditions.toCondition,
    if actions.steps.isEmpty then none else some actions.toAction⟩

mutual

/-- The rule of a block at a position among its like; a disabled one makes none. -/
def compileRule (names : Names) (place : Place) (index : Nat) : RuleBlock → Logged ConfigError (Option Rule)
  | ⟨name, stop, dynamic, enabled, matcher, conditions, actions, rules⟩ =>
    let name := ruleName name index
    if enabled then do
      let conditions ← .ofExcept (names.ruleConditions place matcher conditions)
      let actions ← .ofExcept (names.addActions place 0 .empty actions)
      let nested ← compileRules names place 0 rules
      let actions := if rules.isEmpty then actions else actions.push (.rules ⟨name, false, nested⟩)
      .report (ruleRecord place name)
      pure (some (.assemble name stop dynamic conditions actions))
    else do
      .report (skippedRecord name)
      pure none

/-- The rules of blocks in a place, counted from an index. -/
def compileRules (names : Names) (place : Place) (index : Nat) : List RuleBlock → Logged ConfigError (List Rule)
  | [] => pure []
  | block :: blocks => do
    let rule ← compileRule names (place.inside (.rule index)) index block
    let rules ← compileRules names place (index + 1) blocks
    pure (rule.toList ++ rules)

end

/-! ### Documents -/

/-- The rule set of a document. -/
def Document.compile (document : Document) (file : String) (registry : Registry) : Logged ConfigError RuleSet := do
  let place : Place := ⟨file, []⟩
  let tables ← compileTables place 0 [] document.maps
  match document.rules with
  | none => .ofExcept (.error (.noRules file))
  | some blocks =>
    let rules ← compileRules ⟨tables, registry⟩ place 0 blocks
    let compiled : RuleSet := ⟨⟨"root", false, rules⟩, tables⟩
    .report (documentRecord file compiled)
    pure compiled

end Reroute
