import Reroute.Glob
import Reroute.Value.Scope

/-!
# Faults of single parts

What can be wrong with a value, condition or action while it is put together.
-/

namespace Reroute

/-- A fault of a part. -/
inductive BuildError where
  | unknownScope (name : String)
  | missingIndex (scope : Scope)
  | invalidIndex (scope : Scope) (index : String)
  | readOnlyScope (action : String) (scope : Scope)
  | unsupportedScope (action : String) (scope : Scope)
  | unknownRedirectType (name : String)
  | unknownMatchKind (name : String)
  | unknownComparison (name : String)
  | unknownLogic (name : String)
  | unknownSeparatorPolicy (name : String)
  | invalidRegex (pattern : String)
  | invalidWildcard (pattern : String) (fault : Glob.Fault)
deriving DecidableEq, Repr

/-- The wording of a fault. -/
def BuildError.message : BuildError → String
  | unknownScope name => "unknown scope '" ++ name ++ "'"
  | missingIndex scope => "scope '" ++ scope.name ++ "' requires an index or name"
  | invalidIndex scope index => "invalid index '" ++ index ++ "' for scope '" ++ scope.name ++ "'"
  | readOnlyScope action scope => action ++ " cannot write to read-only scope '" ++ scope.name ++ "'"
  | unsupportedScope action scope => action ++ " does not support scope '" ++ scope.name ++ "'"
  | unknownRedirectType name => "unknown redirect type '" ++ name ++ "'"
  | unknownMatchKind name => "unknown match kind '" ++ name ++ "'"
  | unknownComparison name => "unknown number comparison '" ++ name ++ "'"
  | unknownLogic name => "unknown combination logic '" ++ name ++ "'"
  | unknownSeparatorPolicy name => "unknown separator policy '" ++ name ++ "'"
  | invalidRegex pattern => "invalid regular expression '" ++ pattern ++ "'"
  | invalidWildcard pattern fault => "invalid wildcard '" ++ pattern ++ "': " ++ fault.message

end Reroute
