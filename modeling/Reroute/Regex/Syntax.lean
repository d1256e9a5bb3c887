import Reroute.Regex.CharSet

/-!
# Patterns as trees

The tree that a pattern's text stands for, with flags already resolved: a character step carries its whole set,
a repetition its bounds and preference.
-/

namespace Reroute.Regex

/-- A condition on the place between two characters. -/
inductive Look where
  | textStart
  | textEnd
  | lineStart (crlf : Bool)
  | lineEnd (crlf : Bool)
  | wordBoundary (ascii : Bool)
  | noWordBoundary (ascii : Bool)
  | wordStart (ascii : Bool)
  | wordEnd (ascii : Bool)
  | wordStartHalf (ascii : Bool)
  | wordEndHalf (ascii : Bool)
deriving DecidableEq, Repr

/-- A pattern. -/
inductive Node where
  | empty
  | char (set : CharSet)
  | look (kind : Look)
  | group (index : Option Nat) (body : Node)
  | concat (parts : List Node)
  | alternate (branches : List Node)
  | repetition (low : Nat) (high : Option Nat) (greedy : Bool) (body : Node)
deriving Repr

namespace Node

/-- Parts in a row; a single part is itself. -/
def ofParts : List Node → Node
  | [] => empty
  | [part] => part
  | parts => concat parts

/-- Branches to choose from; a single branch is itself. -/
def ofBranches : List Node → Node
  | [branch] => branch
  | branches => alternate branches

mutual

/-- The least number of characters that a match takes. -/
def minLength : Node → Nat
  | empty | look _ => 0
  | char _ => 1
  | group _ body => body.minLength
  | concat parts => minSum parts
  | alternate branches => minLeast branches
  | repetition low _ _ body => low * body.minLength

def minSum : List Node → Nat
  | [] => 0
  | part :: parts => part.minLength + minSum parts

def minLeast : List Node → Nat
  | [] => 0
  | [branch] => branch.minLength
  | branch :: branches => min branch.minLength (minLeast branches)

end

mutual

/-- Whether a match can only be empty. -/
def onlyEmpty : Node → Bool
  | empty | look _ => true
  | char _ => false
  | group _ body => body.onlyEmpty
  | concat parts => allOnlyEmpty parts
  | alternate branches => allOnlyEmpty branches
  | repetition _ high _ body => high == some 0 || body.onlyEmpty

def allOnlyEmpty : List Node → Bool
  | [] => true
  | part :: parts => part.onlyEmpty && allOnlyEmpty parts

end

mutual

/-- The greatest group index; groups that are repeated zero times do not count. -/
def maxGroup : Node → Nat
  | empty | look _ | char _ => 0
  | group index body => max (index.getD 0) body.maxGroup
  | concat parts => maxGroupOf parts
  | alternate branches => maxGroupOf branches
  | repetition _ high _ body => if high = some 0 then 0 else body.maxGroup

def maxGroupOf : List Node → Nat
  | [] => 0
  | part :: parts => max part.maxGroup (maxGroupOf parts)

end

end Node

end Reroute.Regex
