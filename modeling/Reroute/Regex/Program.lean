import Reroute.Regex.Syntax

/-!
# Patterns as programs

A pattern compiles to numbered steps.  Every step names the steps that may follow it, the preferred one first;
loops point back at a step that was reserved for them.
-/

namespace Reroute.Regex

/-- A step of a program. -/
inductive Step where
  | accept
  | char (set : CharSet) (next : Nat)
  | look (kind : Look) (next : Nat)
  | save (slot : Nat) (next : Nat)
  | choose (nexts : List Nat)
deriving Repr

abbrev Program := Array Step

/-- A builder gives the step at which its part begins, and the program with the part added. -/
abbrev Builder := Program → Nat × Program

namespace Program

/-- Adds a step at the end. -/
def add (step : Step) : Builder := fun program => (program.size, program.push step)

/-- Two ways to go on, the first preferred where the repetition is greedy. -/
def fork (greedy : Bool) (again leave : Nat) : Step :=
  .choose (if greedy then [again, leave] else [leave, again])

/-- A loop: `body` is built in front of a fork back to its own start. -/
def loop (body : Nat → Builder) (greedy : Bool) (next : Nat) (program : Program) : Nat × Nat × Program :=
  let turn := program.size
  let (start, program) := body turn (program.push .accept)
  (start, turn, program.set! turn (fork greedy start next))

/-- The same part several times in a row. -/
def copies (body : Nat → Builder) : Nat → Nat → Builder
  | 0, next, program => (next, program)
  | n + 1, next, program =>
    let (start, program) := body next program
    copies body n start program

/-- Up to `n` more turns, each of which may be the last. -/
def optional (body : Nat → Builder) (greedy : Bool) (leave : Nat) : Nat → Nat → Builder
  | 0, next, program => (next, program)
  | n + 1, next, program =>
    let (start, program) := body next program
    let (turn, program) := add (fork greedy start leave) program
    optional body greedy leave n turn program

/-- A repetition of a part; `canBeEmpty` says whether a turn may take no character. -/
def repetition (body : Nat → Builder) (canBeEmpty : Bool) (low : Nat) (high : Option Nat) (greedy : Bool)
    (next : Nat) (program : Program) : Nat × Program :=
  match high with
  | some high =>
    let (start, program) := optional body greedy next (high - low) next program
    copies body low start program
  | none =>
    let (start, turn, program) := loop body greedy next program
    if low = 0 then
      if canBeEmpty then add (fork greedy start next) program else (turn, program)
    else copies body (low - 1) start program

mutual

/-- Builds a pattern in front of the step `next`. -/
def build : Node → Nat → Builder
  | .empty, next, program => (next, program)
  | .char set, next, program => add (.char set next) program
  | .look kind, next, program => add (.look kind next) program
  | .group none body, next, program => build body next program
  | .group (some index) body, next, program =>
    let (close, program) := add (.save (2 * index + 1) next) program
    let (start, program) := build body close program
    add (.save (2 * index) start) program
  | .concat parts, next, program => buildAll parts next program
  | .alternate branches, next, program =>
    let (starts, program) := buildEach branches next program
    add (.choose starts) program
  | .repetition low high greedy body, next, program =>
    repetition (fun next program => build body next program) (body.minLength == 0) low high greedy next program

/-- Builds parts in a row. -/
def buildAll : List Node → Nat → Builder
  | [], next, program => (next, program)
  | part :: parts, next, program =>
    let (start, program) := buildAll parts next program
    build part start program

/-- Builds parts beside each other and gives their starts. -/
def buildEach : List Node → Nat → Program → List Nat × Program
  | [], _, program => ([], program)
  | part :: parts, next, program =>
    let (start, program) := build part next program
    let (starts, program) := buildEach parts next program
    (start :: starts, program)

end

end Program

/-- A pattern ready to search: its program, where it begins, and how many groups it stores. -/
structure Compiled where
  program : Program
  start : Nat
  groups : Nat

/-- Compiles a pattern; the whole match is group zero. -/
def Compiled.ofNode (node : Node) : Compiled :=
  let (start, program) := Program.build (.group (some 0) node) 0 #[.accept]
  ⟨program, start, node.maxGroup + 1⟩

end Reroute.Regex
