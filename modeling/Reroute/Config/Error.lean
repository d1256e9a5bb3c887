import Reroute.BuildError
import Reroute.Config.Place
import Reroute.Template.Compile

/-!
# Faults of rules files

Everything that keeps a rules file from becoming a rule set, with its wording, its causes and a hint for whoever
wrote the file.
-/

namespace Reroute

/-- A fault of a rules file. -/
inductive ConfigError where
  | unreadable (file reason : String)
  | malformed (file : String)
  | noRules (file : String)
  | unnamedMap (place : Place)
  | invalidMapName (place : Place) (name : String)
  | duplicateMap (place : Place) (name : String)
  | part (place : Place) (fault : BuildError)
  | unknownAction (place : Place) (kind : String)
  | unknownMatch (place : Place) (kind : String)
  | missingField (place : Place) (field : String)
  | invalidStatus (place : Place) (code : Nat)
  | custom (place : Place) (what name reason : String)
  | template (place : Place) (text : String) (fault : TemplateError)
deriving DecidableEq, Repr

namespace ConfigError

/-- The wording of a fault. -/
def message : ConfigError → String
  | unreadable file reason => "failed to read config file " ++ file ++ ": " ++ reason
  | malformed file => "invalid rules file: " ++ file
  | noRules file => "rules file " ++ file ++ " has no 'rules' attribute"
  | unnamedMap place => place.describe ++ ": rewrite map has no name"
  | invalidMapName place name => place.describe ++ ": rewrite map name '" ++ name ++ "' must not contain ':'"
  | duplicateMap place name => place.describe ++ ": duplicate rewrite map '" ++ name ++ "'"
  | part place fault => place.describe ++ ": " ++ fault.message
  | unknownAction place kind => place.describe ++ ": unknown action type '" ++ kind ++ "'"
  | unknownMatch place kind => place.describe ++ ": unknown match type '" ++ kind ++ "'"
  | missingField place field => place.describe ++ ": missing required field '" ++ field ++ "'"
  | invalidStatus place code => place.describe ++ ": invalid status code " ++ toString code
  | custom place what name reason =>
    place.describe ++ ": custom " ++ what ++ " '" ++ name ++ "' failed to build: " ++ reason
  | template place text fault => place.describe ++ ": invalid macro in '" ++ text ++ "': " ++ fault.message

/-- The wordings of the faults below a fault, the nearest first. -/
def causes : ConfigError → List String
  | unreadable _ reason => [reason]
  | part _ (.invalidWildcard pattern fault) => [(BuildError.invalidWildcard pattern fault).message, fault.message]
  | part _ fault => [fault.message]
  | custom _ _ _ reason => [reason]
  | template _ _ (.customOperation name reason) => [(TemplateError.customOperation name reason).message, reason]
  | template _ _ fault => [fault.message]
  | _ => []

/-! ### Hints -/

/-- What a rules file needs. -/
def rulesHint : String :=
  "A rules file must define a top-level `rules` list.\n\nExample:\n\nrules = [\n  \x7b\n    name  = \"lowercase\"\n" ++
  "    match = \x7b url = \"^(.*[A-Z].*)$\" \x7d\n" ++
  "    actions = [\x7b type = \"rewrite\", value = \"\x7btoLower:\x7bR:1\x7d\x7d\" \x7d]\n  \x7d\n]"

/-- The kinds of actions. -/
def actionHint : String :=
  "Valid action types are: rewrite, replace, append, insert, delete, keep,\n" ++
  "normalize, truncate, redirect, custom_response, abort, none.\n\n" ++
  "Custom actions must be registered before the rules are compiled."

/-- The kinds of conditions. -/
def matchHint : String :=
  "Valid match types are: pattern, wildcard, starts_with, ends_with, contains,\n" ++
  "equals, number, is_file, is_directory, exists.\n\n" ++
  "Custom conditions must be registered before the rules are compiled."

/-- How tables are named. -/
def mapHint : String :=
  "Rewrite maps are referenced from macros as `\x7bname:input\x7d`, so every map\n" ++
  "needs a unique `name` without a ':' character."

/-- How templates are written. -/
def templateHint : String :=
  "Macros are written in braces:\n\n" ++
  "\x7bR:1\x7d            capture group 1 of the rule's match\n" ++
  "\x7bC:1\x7d            capture group 1 of the conditions\n" ++
  "\x7btoLower:\x7bR:1\x7d\x7d  an operation or rewrite map applied to a value\n" ++
  "\x7bHTTP_HOST\x7d      the `host` request header\n" ++
  "\x7bNAME\x7d           the server variable NAME"

/-- How a rules file is written. -/
def fileHint : String :=
  "The rules file must be valid HCL. Check for unbalanced braces or\n" ++
  "misspelled attribute names (unknown attributes are rejected)."

/-- A hint for whoever wrote the file. -/
def hint? : ConfigError → Option String
  | malformed _ => some fileHint
  | noRules _ => some rulesHint
  | unnamedMap _ | invalidMapName _ _ => some mapHint
  | unknownAction _ _ => some actionHint
  | unknownMatch _ _ => some matchHint
  | template _ _ _ => some templateHint
  | _ => none

end ConfigError

end Reroute
