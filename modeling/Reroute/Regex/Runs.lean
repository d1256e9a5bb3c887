import Reroute.Regex.CharSet

/-!
# Runs of a set

The members of a set as runs of code points.  A set is asked for every code point in the planes that hold letters and
signs, and elsewhere only where a block begins, because nothing changes within those.
-/

namespace Reroute.Regex

namespace CharSet

/-- The edges of the ranges that are named in a set. -/
def rangeEdges (members : List (Nat × Nat)) : List Nat := members.flatMap fun (first, last) => [first, last + 1]

mutual

/-- The places at which a set may begin or end outside of the planes that are asked one by one. -/
def edges : CharSet → List Nat
  | range first last => rangeEdges [(first.toNat, last.toNat)]
  | property (.ranges members) => rangeEdges members
  | property _ => []
  | union members => edgesOfAll members
  | both left right => left.edges ++ right.edges
  | complement set | anyCase set | anyAsciiCase set => set.edges

def edgesOfAll : List CharSet → List Nat
  | [] => []
  | set :: sets => set.edges ++ edgesOfAll sets

end

/-- The blocks behind the planes that are asked one by one. -/
def lateBlocks : List (Nat × Nat) := [
  (0x3FFFE, 0x3FFFF), (0x4FFFE, 0x4FFFF), (0x5FFFE, 0x5FFFF), (0x6FFFE, 0x6FFFF), (0x7FFFE, 0x7FFFF),
  (0x8FFFE, 0x8FFFF), (0x9FFFE, 0x9FFFF), (0xAFFFE, 0xAFFFF), (0xBFFFE, 0xBFFFF), (0xCFFFE, 0xCFFFF),
  (0xDFFFE, 0xDFFFF), (0xE0000, 0xE0000), (0xE0001, 0xE0001), (0xE0002, 0xE001F), (0xE0020, 0xE007F),
  (0xE0080, 0xE00FF), (0xE0100, 0xE01EF), (0xE01F0, 0xE0FFF), (0xEFFFE, 0xEFFFF), (0xF0000, 0xFFFFD),
  (0xFFFFE, 0xFFFFF), (0x100000, 0x10FFFD), (0x10FFFE, 0x10FFFF)]

/-- Whether a code point is a character of the set. -/
def holdsAt (set : CharSet) (n : Nat) : Bool := n.isValidChar && set.holds (Char.ofNat n)

/-- Puts code points with one answer behind the runs so far, the last one first. -/
def addRun (runs : List (Nat × Nat)) (first last : Nat) : List (Nat × Nat) :=
  match runs with
  | (start, stop) :: rest => if stop + 1 = first then (start, last) :: rest else (first, last) :: runs
  | [] => [(first, last)]

/-- Goes on to the next edge.  The state is the edge before and the runs up to it, the last one first. -/
def nextEdge (set : CharSet) (state : Nat × List (Nat × Nat)) (edge : Nat) : Nat × List (Nat × Nat) :=
  if state.1 < edge ∧ set.holdsAt state.1 then (edge, addRun state.2 state.1 (edge - 1)) else (edge, state.2)

/-- The runs of the set, in increasing order. -/
def runs (set : CharSet) : List (Nat × Nat) :=
  let planes := (List.range 0x323B1).foldl set.nextEdge (0, [])
  let late := ((rangeEdges lateBlocks ++ set.edges).filter (0x323B0 < ·)).mergeSort
  (late.foldl set.nextEdge planes).2.reverse

end CharSet

end Reroute.Regex
