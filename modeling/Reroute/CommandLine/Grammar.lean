import Reroute.Text.Basic

/-!
# Options of a command

Arguments are read from left to right.  A text that begins with a dash is an option or a bundle of short ones,
until two dashes stand alone; everything else is a positional argument.  Values are checked where they stand, so
that a request for help counts only before the first mistake.
-/

namespace Reroute.CommandLine

/-- An option; one that takes no value is a flag. -/
structure OptionSpec where
  long : String
  short : Option Char
  takesValue : Bool
  repeats : Bool
  accepts : String → Bool

/-- A flag. -/
def OptionSpec.flag (long : String) (short : Option Char) : OptionSpec := ⟨long, short, false, false, fun _ => true⟩

/-- What a command takes; `required` positional arguments at the front have to be there. -/
structure Grammar where
  options : List OptionSpec
  positionals : List (String → Bool)
  required : Nat

/-- Why arguments are not carried out. -/
inductive Halt where
  | help
  | refused
deriving DecidableEq, Repr

/-- The options with their values and the positional arguments, each in order. -/
structure Given where
  options : List (String × String)
  positionals : List String
deriving DecidableEq, Repr

namespace Given

/-- Whether an option is given. -/
def has (given : Given) (long : String) : Bool := given.options.any (·.1 == long)

/-- The values of an option. -/
def values (given : Given) (long : String) : List String :=
  (given.options.filter (·.1 == long)).map (·.2)

/-- Adds an option, unless it is there and may not be repeated. -/
def addOption (given : Given) (spec : OptionSpec) (value : String) : Except Halt Given :=
  if given.has spec.long && !spec.repeats then .error .refused
  else if spec.accepts value then .ok { given with options := given.options ++ [(spec.long, value)] }
  else .error .refused

/-- Adds a positional argument that the grammar has room for. -/
def addPositional (given : Given) (grammar : Grammar) (value : String) : Except Halt Given :=
  match grammar.positionals[given.positionals.length]? with
  | some accepts =>
    if accepts value then .ok { given with positionals := given.positionals ++ [value] } else .error .refused
  | none => .error .refused

end Given

namespace Grammar

/-- The option of a long name. -/
def long? (grammar : Grammar) (name : String) : Option OptionSpec := grammar.options.find? (·.long == name)

/-- Whether a text stands where only an option can stand. -/
def isDashed (text : String) : Bool :=
  match text.toList with
  | '-' :: _ :: _ => true
  | _ => false

/-- Reads a bundle of short options. -/
def readShort (grammar : Grammar) (given : Given) : List Char → Except Halt Given
  | [] => .ok given
  | c :: rest => do
    if c = 'h' then .error .help
    else
      match grammar.options.find? (·.short == some c) with
      | some spec => grammar.readShort (← given.addOption spec "") rest
      | none => .error .refused

/-- A long option as written: its name, and the value behind an equals sign. -/
def splitLong (text : List Char) : String × Option String :=
  match Text.cutChars? '=' text with
  | some (name, value) => (String.ofList name, some (String.ofList value))
  | none => (String.ofList text, none)

/-- Reads a long option; the option that its value is still missing for is left over. -/
def readLong (grammar : Grammar) (given : Given) (text : List Char) : Except Halt (Option OptionSpec × Given) :=
  match splitLong text with
  | ("help", none) => .error .help
  | (name, value) =>
    match grammar.long? name, value with
    | none, _ => .error .refused
    | some spec, none =>
      if spec.takesValue then .ok (some spec, given) else (given.addOption spec "").map (none, ·)
    | some spec, some value =>
      if spec.takesValue then (given.addOption spec value).map (none, ·) else .error .refused

/-- Whether all required arguments are there. -/
def finish (grammar : Grammar) (given : Given) : Except Halt Given :=
  if given.positionals.length < grammar.required then .error .refused else .ok given

/-- Reads arguments; `pending` waits for its value. -/
def read (grammar : Grammar) (pending : Option OptionSpec) (given : Given) : List String → Except Halt Given
  | [] => if pending.isSome then .error .refused else grammar.finish given
  | argument :: rest =>
    match pending with
    | some spec =>
      if isDashed argument then .error .refused
      else do grammar.read none (← given.addOption spec argument) rest
    | none =>
      match argument.toList with
      | ['-', '-'] => do grammar.finish (← rest.foldlM (fun given value => given.addPositional grammar value) given)
      | '-' :: '-' :: text => do
        let (pending, given) ← grammar.readLong given text
        grammar.read pending given rest
      | '-' :: c :: text => do grammar.read none (← grammar.readShort given (c :: text)) rest
      | _ => do grammar.read none (← given.addPositional grammar argument) rest

end Grammar

end Reroute.CommandLine
