import Reroute.Text.Basic

/-!
# Scopes

The places of a request that a value is read from or written to: those as received, those as they are now, and
those that belong to the rule under evaluation.
-/

namespace Reroute

/-- A place that a value is read from or written to. -/
inductive Scope where
  | receivedUrl
  | receivedPath
  | receivedQueryText
  | receivedPathElement
  | receivedParameter
  | receivedHeader
  | receivedServerVariable
  | url
  | path
  | queryText
  | pathElement
  | parameter
  | header
  | serverVariable
  | literal
  | matchGroup
  | conditionGroup
  | matchPath
deriving DecidableEq, Repr

namespace Scope

/-- All scopes. -/
def all : List Scope :=
  [receivedUrl, receivedPath, receivedQueryText, receivedPathElement, receivedParameter, receivedHeader,
    receivedServerVariable, url, path, queryText, pathElement, parameter, header, serverVariable, literal, matchGroup,
    conditionGroup, matchPath]

/-- The name of a scope. -/
def name : Scope → String
  | receivedUrl => "originalUrl"
  | receivedPath => "originalPath"
  | receivedQueryText => "originalQueryString"
  | receivedPathElement => "originalPathElement"
  | receivedParameter => "originalParameter"
  | receivedHeader => "originalHeader"
  | receivedServerVariable => "originalServerVariable"
  | url => "url"
  | path => "path"
  | queryText => "queryString"
  | pathElement => "pathElement"
  | parameter => "parameter"
  | header => "header"
  | serverVariable => "serverVariable"
  | literal => "literal"
  | matchGroup => "matchGroup"
  | conditionGroup => "conditionGroup"
  | matchPath => "matchPath"

/-- The scope that a name stands for in loose spelling. -/
def parse? (text : String) : Option Scope :=
  all.find? fun scope => Text.spelling scope.name == Text.spelling text

/-- Scopes that read the request as received. -/
def isReceived : Scope → Bool
  | receivedUrl | receivedPath | receivedQueryText | receivedPathElement | receivedParameter | receivedHeader
  | receivedServerVariable => true
  | _ => false

/-- Scopes that actions may write. -/
def isWritable : Scope → Bool
  | url | path | queryText | pathElement | parameter | header | serverVariable => true
  | _ => false

/-- Scopes that need a name. -/
def isNamed : Scope → Bool
  | receivedParameter | receivedHeader | receivedServerVariable | parameter | header | serverVariable => true
  | _ => false

/-- Scopes of single path elements. -/
def isPathElement : Scope → Bool
  | pathElement | receivedPathElement => true
  | _ => false

/-- Scopes of captured groups. -/
def isCaptureGroup : Scope → Bool
  | matchGroup | conditionGroup => true
  | _ => false

/-- The scope of the whole path beside that of its elements. -/
def wholePath : Scope → Scope
  | receivedPathElement => receivedPath
  | pathElement => path
  | scope => scope

end Scope

end Reroute
