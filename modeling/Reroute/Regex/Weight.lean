import Reroute.Regex.Runs
import Reroute.Regex.Syntax
import Reroute.Text.ByteRow

/-!
# Weight of a pattern

The weight of a pattern is the number of bytes of an automaton that reads its matches byte by byte, with all counted
repetitions written out.  A step takes 32 bytes, every way to choose from it 4 and every byte range to tell apart 8.
A pattern is weighed for texts that are read forward, where it stores groups, and for texts that are read backward.
-/

namespace Reroute.Regex

open Reroute.Text

/-- The direction in which a text is read. -/
inductive Direction where
  | forward
  | backward
deriving DecidableEq, Repr

/-! ### Sets -/

namespace CharSet

/-- The weight of rows that are read forward: ends of rows that are alike are shared. -/
def forwardWeight (rows : List ByteRow) : Nat :=
  (ByteRow.rests 4 rows).eraseDups.foldl (fun total rest => total + 32 + 8 * (ByteRow.groups rest).length) 32

/-- The weight of rows that are read backward: beginnings of rows that are alike are shared. -/
def backwardWeight (rows : List ByteRow) : Nat := 32 * ByteRow.beginnings [] rows + 4 * rows.length + 64

/-- The weight of runs. -/
def weightOfRuns (direction : Direction) (runs : List (Nat × Nat)) : Nat :=
  let rows := runs.flatMap fun (first, last) => ByteRow.ofRun first last
  match direction with
  | .forward => forwardWeight rows
  | .backward => backwardWeight rows

/-- The weight of a step over one character.  A single character is its bytes, and ASCII characters need one step. -/
def weight (direction : Direction) (set : CharSet) : Nat :=
  match set.runs with
  | [(first, last)] =>
    if first = last then 32 * (String.singleton (Char.ofNat first)).utf8ByteSize
    else if last < 128 then 72
    else weightOfRuns direction [(first, last)]
  | runs => if runs.all (·.2 < 128) then 8 * runs.length + 64 else weightOfRuns direction runs

end CharSet

/-! ### Patterns -/

namespace Node

/-- The set of a pattern that is one character of a set. -/
def set? : Node → Option CharSet
  | char set => some set
  | _ => none

/-- The weight of so many copies and, where there is no greatest number, of the loop at their end. -/
def repeatedWeight (low : Nat) (high : Option Nat) (body : Node) (weight : Nat) : Nat :=
  match high with
  | some 0 => 32
  | some high =>
    if low = high then low * weight
    else (if low = 0 ∧ 1 < high then 32 else low * weight) + (high - low) * (weight + 40) + 32
  | none => max low 1 * weight + if low = 0 ∧ body.minLength = 0 then 112 else 40

mutual

/-- The weight of a pattern, from the weight of a set and that of a stored group.  Characters to choose from are one
set. -/
def weight (ofSet : CharSet → Nat) (ofGroup : Nat) : Node → Nat
  | empty | look _ => 32
  | char set => ofSet set
  | group index body => body.weight ofSet ofGroup + if index.isSome then ofGroup else 0
  | concat parts => weightOfAll ofSet ofGroup parts
  | alternate branches =>
    match branches.mapM set? with
    | some sets => ofSet (.union sets)
    | none => weightOfAll ofSet ofGroup branches + 4 * branches.length + 64
  | repetition low high _ body => repeatedWeight low high body (body.weight ofSet ofGroup)

def weightOfAll (ofSet : CharSet → Nat) (ofGroup : Nat) : List Node → Nat
  | [] => 0
  | part :: parts => part.weight ofSet ofGroup + weightOfAll ofSet ofGroup parts

end

/-- The weight of the heaviest pattern. -/
def maxWeight : Nat := 10485760

/-- Whether a pattern is light enough for both directions.  With few steps it is, whatever its sets are. -/
def isLight (node : Node) : Bool :=
  node.weight (fun _ => 100000) 64 ≤ maxWeight ||
    (node.weight (CharSet.weight .forward) 64 + 208 ≤ maxWeight &&
      node.weight (CharSet.weight .backward) 0 + 144 ≤ maxWeight)

end Node

end Reroute.Regex
