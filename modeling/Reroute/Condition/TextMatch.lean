import Reroute.Regex.Search
import Reroute.Value.Basic

/-!
# Matching texts

A text match compares a value with a pattern: as a start, an end, a part, the whole, a wildcard or a regular
expression.  The last kind stores its groups in the scratch of the rule.
-/

namespace Reroute

/-- How a text is compared with a pattern. -/
inductive MatchKind where
  | startsWith
  | endsWith
  | contains
  | equals
  | wildcard
  | regex
deriving DecidableEq, Repr

namespace MatchKind

/-- The name of a kind. -/
def name : MatchKind → String
  | startsWith => "startsWith"
  | endsWith => "endsWith"
  | contains => "contains"
  | equals => "equals"
  | wildcard => "wildcard"
  | regex => "regex"

/-- The kind that a name stands for in loose spelling. -/
def parse (text : String) : Except BuildError MatchKind :=
  match Text.spelling text with
  | "startswith" | "prefix" => .ok startsWith
  | "endswith" | "suffix" => .ok endsWith
  | "contains" => .ok contains
  | "equals" | "exact" => .ok equals
  | "wildcard" | "glob" => .ok wildcard
  | "regex" | "regexp" | "pattern" => .ok regex
  | _ => .error (.unknownMatchKind text)

end MatchKind

/-- A pattern ready for comparison. -/
inductive Matcher where
  | start (text : String)
  | ending (text : String)
  | part (text : String)
  | whole (text : String)
  | wildcard (pattern : Glob.Pattern)
  | regex (pattern : Regex.Pattern)

namespace Matcher

/-- Makes a pattern ready; plain texts are put into small letters where case does not count. -/
def make (kind : MatchKind) (pattern : String) (ignoreCase : Bool) : Except BuildError Matcher :=
  let text := if ignoreCase then Text.lower pattern else pattern
  match kind with
  | .startsWith => .ok (start text)
  | .endsWith => .ok (ending text)
  | .contains => .ok (part text)
  | .equals => .ok (whole text)
  | .wildcard =>
    match Glob.parse pattern with
    | .ok tokens => .ok (wildcard tokens)
    | .error fault => .error (.invalidWildcard pattern fault)
  | .regex =>
    match Regex.Pattern.parse? ignoreCase pattern with
    | some compiled => .ok (regex compiled)
    | none => .error (.invalidRegex pattern)

/-- Whether a text matches, and the groups of a regular expression that does. -/
def test (matcher : Matcher) (ignoreCase : Bool) (text : String) : Bool × Option (List String) :=
  let folded := if ignoreCase then Text.lower text else text
  match matcher with
  | start pattern => (pattern.toList.isPrefixOf folded.toList, none)
  | ending pattern => (pattern.toList.isSuffixOf folded.toList, none)
  | part pattern => (Text.occursIn pattern.toList folded.toList, none)
  | whole pattern => (folded == pattern, none)
  | wildcard pattern => (Glob.accepts pattern ignoreCase text, none)
  | regex pattern =>
    match pattern.captures? text with
    | some groups => (true, some (groups.map (·.getD "")))
    | none => (false, none)

end Matcher

/-- A comparison of a value with a pattern. -/
structure TextMatch where
  value : Value
  kind : MatchKind
  pattern : String
  matcher : Matcher
  ignoreCase : Bool
  negate : Bool
  key : CaptureKey

namespace TextMatch

/-- A comparison that is not negated and stores groups for conditions. -/
def make (value : Value) (kind : MatchKind) (pattern : String) (ignoreCase : Bool) : Except BuildError TextMatch := do
  let matcher ← Matcher.make kind pattern ignoreCase
  .ok ⟨value, kind, pattern, matcher, ignoreCase, false, .fromConditions⟩

/-- The same comparison, negated or not. -/
def withNegate (m : TextMatch) (negate : Bool) : TextMatch := { m with negate := negate }

/-- The same comparison with groups stored under a key. -/
def withKey (m : TextMatch) (key : CaptureKey) : TextMatch := { m with key := key }

/-- Whether the value matches.  Groups are stored only on a match that is not negated. -/
def test (m : TextMatch) (request : Request) (scratch : Scratch) : Bool × Scratch :=
  let (matched, groups) := m.matcher.test m.ignoreCase (m.value.read request scratch)
  let stored := match groups with
    | some groups => if m.negate then scratch else scratch.storeCaptures m.key groups
    | none => scratch
  (matched != m.negate, stored)

/-- The comparison in words. -/
def describe (m : TextMatch) : String :=
  (if m.negate then "not " else "") ++ m.value.describe ++ " " ++ m.kind.name ++ " " ++ Text.quoted m.pattern
    ++ (if m.ignoreCase then " (ignore case)" else "")

end TextMatch

end Reroute
