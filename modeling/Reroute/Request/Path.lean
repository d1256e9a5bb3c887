import Reroute.Text.Basic

/-!
# Paths as segments

A path is the list of its segments between slashes; it is never empty.  An empty first segment marks a leading
slash, an empty last one a trailing slash.  Elements are addressed by signed indices: positive ones count from
the first segment, negative ones from behind the last addressable segment.
-/

namespace Reroute.Path

/-- The segments of a path's text. -/
def split (text : String) : List String := Text.split '/' text

/-- The text of a path's segments. -/
def join (segments : List String) : String := Text.join "/" segments

/-- The path `/`. -/
def root : List String := ["", ""]

/-- The number of addressable segments: the mark of a trailing slash does not count. -/
def effectiveCount (segments : List String) : Nat :=
  if segments.getLast? = some "" then segments.length - 1 else segments.length

/-- The position that an index addresses: strictly between the first segment and the end. -/
def resolve? (segments : List String) (index : Int) : Option Nat :=
  let count : Int := effectiveCount segments
  let position := if index < 0 then count + index else index
  if 0 < position ∧ position < count then some position.toNat else none

/-- The position at which a new segment is inserted; index zero means right behind a leading slash. -/
def resolveInsert? (segments : List String) (index : Int) : Option Nat :=
  if index ≠ 0 then resolve? segments index
  else
    let position := if segments.head? = some "" then 1 else 0
    if position < effectiveCount segments then some position else none

/-- An emptied path, or one of which only the mark of the leading slash is left, becomes `/`. -/
def ensureRoot : List String → List String
  | [] => root
  | [""] => root
  | segments => segments

/-- Whether the path begins with a slash. -/
def isRooted (segments : List String) : Bool := segments.head? == some ""

/-- The segment at an index, empty where the index addresses none. -/
def element (segments : List String) (index : Int) : String :=
  match resolve? segments index with
  | some position => segments.getD position ""
  | none => ""

/-- Inserts a position into an increasing list, once. -/
def insertPosition (position : Nat) : List Nat → List Nat
  | [] => [position]
  | p :: positions =>
    if position < p then position :: p :: positions
    else if position = p then p :: positions
    else p :: insertPosition position positions

/-- The positions that a list of indices keeps: the first segment and every addressed one, increasing. -/
def keepPositions (segments : List String) (indices : List Int) : List Nat :=
  (indices.filterMap (resolve? segments)).foldr insertPosition [0]

/-- The segments at increasing positions; `start` is the position of the first segment. -/
def select (positions : List Nat) : Nat → List String → List String
  | _, [] => []
  | start, segment :: segments =>
    if positions.contains start then segment :: select positions (start + 1) segments
    else select positions (start + 1) segments

end Reroute.Path
