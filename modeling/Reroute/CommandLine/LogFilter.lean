import Reroute.Text.Basic
import Reroute.Walk.Log

/-!
# Log filters

A filter is a row of directives, each a level for records whose source begins with a text.  Of the directives that
fit a record the one with the longest text decides, and of two with the same text the later one.
-/

namespace Reroute.CommandLine

/-- How much detail is let through from sources that begin with a text. -/
structure Directive where
  source : String
  detail : Nat
deriving DecidableEq, Repr

/-- A row of directives. -/
abbrev LogFilter := List Directive

namespace LogFilter

/-- The detail that a word stands for: nothing, or up to a level. -/
def detail? (word : String) : Option Nat :=
  match Text.lowerAscii word with
  | "off" | "0" => some 0
  | "" | "error" | "1" => some 1
  | "warn" | "2" => some 2
  | "info" | "3" => some 3
  | "debug" | "4" => some 4
  | "trace" | "5" => some 5
  | _ => none

/-- Whether a character may stand in the name of a source. -/
def isSourceChar (c : Char) : Bool := c.isAlphanum || c == '_' || c == '-' || c == ':'

/-- Reads a directive: a level, a source, or both. -/
def directive? (text : String) : Option Directive :=
  match Text.cut? '=' text with
  | some (source, word) =>
    if source.toList.all isSourceChar then (detail? word).map (⟨source, ·⟩) else none
  | none =>
    match detail? text with
    | some detail => some ⟨"", detail⟩
    | none => if text.toList.all isSourceChar then some ⟨text, 5⟩ else none

/-- Reads a filter; one without directives lets errors through. -/
def parse? (text : String) : Option LogFilter := do
  let directives ← ((Text.split ',' text).filter (· != "")).mapM directive?
  some (if directives.isEmpty then [⟨"", 1⟩] else directives)

/-- The directive that decides about a source, among those behind `best`. -/
def decisive (source : String) (best : Option Directive) : LogFilter → Option Directive
  | [] => best
  | directive :: directives =>
    let longer := match best with
      | some known => decide (known.source.length ≤ directive.source.length)
      | none => true
    let fits := directive.source.toList.isPrefixOf source.toList
    decisive source (if fits && longer then some directive else best) directives

/-- Whether a record is let through. -/
def allows (filter : LogFilter) (record : LogRecord) : Bool :=
  match decisive record.source none filter with
  | some directive => decide (record.level.detail ≤ directive.detail)
  | none => false

/-- The filter of a setting, or everything up to a level where there is none that reads. -/
def ofSetting (setting : Option String) (level : Level) : LogFilter :=
  (setting.bind parse?).getD [⟨"", level.detail⟩]

end LogFilter

end Reroute.CommandLine
