import Reroute.Extension

/-!
# Rules documents

What a rules file says before it is compiled: lookup tables, and rules with a pattern, conditions, actions and
nested rules.  Nothing is checked here beyond the types of the attributes.
-/

namespace Reroute

/-- An attribute that is written as a number or as a text. -/
inductive Scalar where
  | number (value : Int)
  | text (content : String)
deriving DecidableEq, Repr

/-- The attribute as a text. -/
def Scalar.toText : Scalar → String
  | number value => toString value
  | text content => content

/-- A lookup table. -/
structure MapBlock where
  name : Option String
  fallback : Option String
  entries : List (String × String)
deriving DecidableEq, Repr

/-- The pattern of a rule; `input` is a template in place of the path. -/
structure MatchBlock where
  url : String
  kind : Option String
  ignoreCase : Bool
  negate : Bool
  input : Option String
deriving DecidableEq, Repr

/-- The attributes of a single condition. -/
structure TestBlock where
  input : Option String
  scope : Option String
  index : Option Scalar
  pattern : Option String
  matchType : Option String
  negate : Bool
  ignoreCase : Bool
  operator : Option String
  operand : Option Int
  fallback : Option Int
  params : Parameters
deriving DecidableEq, Repr

mutual

/-- Conditions under one logic. -/
structure GroupBlock where
  logic : Option String
  trackCaptures : Bool
  items : List ConditionBlock

/-- A condition; where a group stands in it, the other attributes do not count. -/
structure ConditionBlock where
  test : TestBlock
  group : Option GroupBlock

end

/-- An action. -/
structure ActionBlock where
  kind : String
  scope : Option String
  index : Option Scalar
  value : Option String
  literal : Option String
  fromScope : Option String
  fromIndex : Option Scalar
  url : Option String
  redirectType : Option Scalar
  statusCode : Option Nat
  statusReason : Option String
  body : Option String
  leading : Option String
  trailing : Option String
  maxDepth : Option UInt64
  stop : Option Bool
  endRequest : Option Bool
  params : Parameters
deriving DecidableEq, Repr

/-- A rule. -/
structure RuleBlock where
  name : Option String
  stop : Bool
  dynamic : Bool
  enabled : Bool
  matcher : Option MatchBlock
  conditions : Option GroupBlock
  actions : List ActionBlock
  rules : List RuleBlock

/-- A rules file. -/
structure Document where
  maps : List MapBlock
  rules : Option (List RuleBlock)

/-! ### Defaults -/

/-- A lookup table of which nothing is said. -/
def MapBlock.empty : MapBlock := ⟨none, none, []⟩

/-- A pattern of which nothing is said. -/
def MatchBlock.empty : MatchBlock := ⟨"", none, true, false, none⟩

/-- A condition of which nothing is said. -/
def TestBlock.empty : TestBlock := ⟨none, none, none, none, none, false, true, none, none, none, []⟩

/-- A group of which nothing is said. -/
def GroupBlock.empty : GroupBlock := ⟨none, false, []⟩

/-- An action of which nothing is said. -/
def ActionBlock.empty : ActionBlock :=
  ⟨"", none, none, none, none, none, none, none, none, none, none, none, none, none, none, none, none, []⟩

/-- A rule of which nothing is said. -/
def RuleBlock.empty : RuleBlock := ⟨none, false, false, true, none, none, [], []⟩

/-- Named texts in the order of the names. -/
def sortedByName (entries : List (String × String)) : List (String × String) :=
  entries.mergeSort fun a b => decide (a.1 ≤ b.1)

end Reroute
