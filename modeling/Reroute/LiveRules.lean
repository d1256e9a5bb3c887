import Reroute.Config.Compile
import Reroute.Config.Read
import Reroute.Engine

/-!
# Loading rules

From the text of a rules file, or the path of one, to its rule set, and live rules, which are loaded anew while engines
run.  An engine keeps the rules that were current when it was made; a load that fails leaves the current rules in place.
-/

namespace Reroute

/-! ### Rules files -/

/-- The rule set of a text; the file's name stands in places and faults only. -/
def compileText (text file : String) (registry : Registry) : Logged ConfigError RuleSet :=
  match Document.parse? text with
  | none => .ofExcept (.error (.malformed file))
  | some document => document.compile file registry

/-- The rule set of the file at a path. -/
def loadRules (read : String → Except String String) (path : String) (registry : Registry) :
    Logged ConfigError RuleSet :=
  match read path with
  | .error reason => .ofExcept (.error (.unreadable path reason))
  | .ok text => compileText text path registry

/-! ### Live rules -/

/-- The rules that are current. -/
structure LiveRules where
  current : RuleSet

namespace LiveRules

/-- An engine over the current rules. -/
def engine (live : LiveRules) (env : Env) : Engine := ⟨live.current, env⟩

/-- The record of new rules in place of old ones. -/
def record (old new : RuleSet) : LogRecord :=
  ⟨.info, "rewrite_core::runtime::state", "rules reloaded",
    [("old_rules", .number old.ruleCount), ("old_maps", .number old.tableCount),
      ("new_rules", .number new.ruleCount), ("new_maps", .number new.tableCount)]⟩

/-- Takes over the rules of a load, unless it fails. -/
def reload (live : LiveRules) (load : Logged ConfigError RuleSet) : LiveRules × Logged ConfigError Unit :=
  match load.result with
  | .ok rules => (⟨rules⟩, ⟨load.log ++ [record live.current rules], .ok ()⟩)
  | .error fault => (live, ⟨load.log, .error fault⟩)

end LiveRules

end Reroute
