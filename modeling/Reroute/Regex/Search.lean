import Reroute.Regex.Parser
import Reroute.Regex.Program

/-!
# Searching a text

All threads of a program advance through the text together, in order of preference; a step that a preferred
thread has reached at a place is not entered again there.  The first match from the left wins, and among those
that start there the preferred one.
-/

namespace Reroute.Regex

open Reroute.Text

/-- The place between two characters of the text. -/
structure Place where
  index : Nat
  before : Option Char
  behind : Option Char

/-- Whether the character beside a place is a word character. -/
def wordAt (ascii : Bool) : Option Char → Bool
  | none => false
  | some c => if ascii then isAsciiWord c else isWord c

/-- Whether a place meets a condition. -/
def Look.holds (kind : Look) (place : Place) : Bool :=
  match kind with
  | textStart => place.before.isNone
  | textEnd => place.behind.isNone
  | lineStart false => place.before.isNone || place.before == some '\n'
  | lineEnd false => place.behind.isNone || place.behind == some '\n'
  | lineStart true =>
    place.before.isNone || place.before == some '\n' || (place.before == some '\r' && place.behind != some '\n')
  | lineEnd true =>
    place.behind.isNone || place.behind == some '\r' || (place.behind == some '\n' && place.before != some '\r')
  | wordBoundary ascii => wordAt ascii place.before != wordAt ascii place.behind
  | noWordBoundary ascii => wordAt ascii place.before == wordAt ascii place.behind
  | wordStart ascii => !wordAt ascii place.before && wordAt ascii place.behind
  | wordEnd ascii => wordAt ascii place.before && !wordAt ascii place.behind
  | wordStartHalf ascii => !wordAt ascii place.before
  | wordEndHalf ascii => !wordAt ascii place.behind

/-- A thread: the step it stands at and the places it has stored. -/
structure Thread where
  step : Nat
  slots : Array (Option Nat)

/-- Follows steps that take no character.  `pending` holds the threads to follow, preferred first; `done` the
threads that wait for a character or accept, preferred last. -/
def follow (program : Program) (place : Place) :
    Nat → List Thread → Array Bool → List Thread → List Thread
  | 0, _, _, done => done.reverse
  | _, [], _, done => done.reverse
  | fuel + 1, thread :: pending, seen, done =>
    if seen.getD thread.step true then follow program place fuel pending seen done
    else
      let seen := seen.set! thread.step true
      match program[thread.step]? with
      | none => follow program place fuel pending seen done
      | some (.look kind next) =>
        let pending := if kind.holds place then { thread with step := next } :: pending else pending
        follow program place fuel pending seen done
      | some (.save slot next) =>
        follow program place fuel (⟨next, thread.slots.set! slot (some place.index)⟩ :: pending) seen done
      | some (.choose nexts) =>
        follow program place fuel (nexts.map (⟨·, thread.slots⟩) ++ pending) seen done
      | some _ => follow program place fuel pending seen (thread :: done)

/-- An upper bound on the threads that `follow` meets: each step is left once, along each of its ways on. -/
def Program.ways (program : Program) : Nat :=
  program.foldl (fun n step => n + match step with | .choose nexts => nexts.length + 1 | _ => 2) 0

/-- Lets the threads take a character, in order; a thread that accepts ends the list and gives the match. -/
def advance (program : Program) (c : Option Char) (best : Option (Array (Option Nat))) :
    List Thread → List Thread × Option (Array (Option Nat))
  | [] => ([], best)
  | thread :: threads =>
    match program[thread.step]? with
    | some .accept => ([], some thread.slots)
    | some (.char set next) =>
      let (moved, found) := advance program c best threads
      if c.any set.holds then (⟨next, thread.slots⟩ :: moved, found) else (moved, found)
    | _ => advance program c best threads

/-- One place of a search: a fresh thread starts there while there is no match, then all threads move on. -/
def searchAt (compiled : Compiled) (place : Place) (threads : List Thread) (best : Option (Array (Option Nat))) :
    List Thread × Option (Array (Option Nat)) :=
  let program := compiled.program
  let fresh : Thread := ⟨compiled.start, Array.replicate (2 * compiled.groups) none⟩
  let threads := if best.isNone then threads ++ [fresh] else threads
  let waiting :=
    follow program place (program.ways + threads.length + 1) threads (Array.replicate program.size false) []
  advance program place.behind best waiting

/-- Searches from a place on; `threads` came from the characters before, `best` is the match so far. -/
def searchFrom (compiled : Compiled) (index : Nat) (before : Option Char) (threads : List Thread)
    (best : Option (Array (Option Nat))) : List Char → Option (Array (Option Nat))
  | [] => (searchAt compiled ⟨index, before, none⟩ threads best).2
  | c :: rest =>
    let (moved, found) := searchAt compiled ⟨index, before, some c⟩ threads best
    if moved.isEmpty && found.isSome then found
    else searchFrom compiled (index + 1) (some c) moved found rest

/-- A compiled pattern with its text. -/
structure Pattern where
  text : String
  compiled : Compiled

/-- Reads and compiles a pattern. -/
def Pattern.parse? (ignoreCase : Bool) (text : String) : Option Pattern :=
  (Node.parse? ignoreCase text).map fun node => ⟨text, .ofNode node⟩

/-- The text between the two places of a group. -/
def groupText (cs : List Char) (slots : Array (Option Nat)) (index : Nat) : Option String :=
  match slots.getD (2 * index) none, slots.getD (2 * index + 1) none with
  | some first, some last => some (String.ofList ((cs.drop first).take (last - first)))
  | _, _ => none

/-- The groups of the first match, the whole match first; a group that took no part is `none`. -/
def Pattern.captures? (pattern : Pattern) (text : String) : Option (List (Option String)) :=
  let cs := text.toList
  let compiled := pattern.compiled
  (searchFrom compiled 0 none [] none cs).map fun slots =>
    (List.range compiled.groups).map (groupText cs slots)

end Reroute.Regex
