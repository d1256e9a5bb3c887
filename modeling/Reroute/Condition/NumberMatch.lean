import Reroute.Value.Basic

/-!
# Comparing numbers

A number match reads a value as a whole number, or takes a default where it is none, and compares it.
-/

namespace Reroute

/-- How a number is compared. -/
inductive Comparison where
  | equals
  | lessThan
  | greaterThan
deriving DecidableEq, Repr

namespace Comparison

/-- The comparison that a name stands for; dashes count as underscores. -/
def parse (text : String) : Except BuildError Comparison :=
  let key := String.ofList ((Text.lowerAscii text).toList.map fun c => if c = '-' then '_' else c)
  match key with
  | "equals" | "eq" | "==" => .ok equals
  | "less_than" | "lessthan" | "lt" | "<" => .ok lessThan
  | "greater_than" | "greaterthan" | "gt" | ">" => .ok greaterThan
  | _ => .error (.unknownComparison text)

/-- The sign of a comparison. -/
def sign : Comparison → String
  | equals => "=="
  | lessThan => "<"
  | greaterThan => ">"

/-- Whether two numbers compare so. -/
def holds : Comparison → Int → Int → Bool
  | equals, a, b => a == b
  | lessThan, a, b => decide (a < b)
  | greaterThan, a, b => decide (b < a)

end Comparison

/-- A comparison of a value with a number. -/
structure NumberMatch where
  value : Value
  comparison : Comparison
  operand : Int
  fallback : Int
  negate : Bool

namespace NumberMatch

/-- Whether the value compares so. -/
def test (m : NumberMatch) (request : Request) (scratch : Scratch) : Bool :=
  m.comparison.holds (m.value.readNumber request scratch m.fallback) m.operand != m.negate

/-- The comparison in words. -/
def describe (m : NumberMatch) : String :=
  (if m.negate then "not " else "") ++ m.value.describe ++ " " ++ m.comparison.sign ++ " " ++ toString m.operand

end NumberMatch

end Reroute
