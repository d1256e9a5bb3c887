import Reroute.CommandLine.Grammar
import Reroute.Text.Display

/-!
# The commands and their arguments

What the program can be asked to do, and how its arguments say so.
-/

namespace Reroute.CommandLine

/-! ### Commands -/

/-- What one request is tried out with. -/
structure EvalOptions where
  path : String
  url : String
  headers : List (String × String)
  serverVariables : List (String × String)
  trace : Bool
  json : Bool
  documentRoot : String
  execute : Bool
deriving DecidableEq, Repr

/-- A command: say what a rules file holds, try out one request, or outline the rules. -/
inductive Command where
  | check (path : String) (plain : Bool)
  | eval (options : EvalOptions)
  | dump (path : String) (json : Bool)
deriving DecidableEq, Repr

/-- The page of a help text. -/
inductive Page where
  | top
  | check
  | eval
  | dump
  | help
deriving DecidableEq, Repr

/-- What arguments ask for. -/
inductive Asked where
  | run (jsonLogs : Bool) (command : Command)
  | help (page : Page)
  | version
  | nothing
  | refused
deriving DecidableEq, Repr

/-- The name and the value of a text with an equals sign between; blanks around the name do not count. -/
def parseKeyValue (raw : String) : Except String (String × String) :=
  match Text.cut? '=' raw with
  | none => .error ("expected name=value, got '" ++ raw ++ "'")
  | some (name, value) =>
    let name := Text.trim name
    if name = "" then .error ("empty name in '" ++ raw ++ "'") else .ok (name, value)

/-- Whether a text has a name and a value. -/
def isKeyValue (raw : String) : Bool :=
  match parseKeyValue raw with
  | .ok _ => true
  | .error _ => false

/-! ### Grammars -/

/-- The flag that every command takes. -/
def jsonLogs : OptionSpec := .flag "json-logs" none

/-- Paths are never empty. -/
def isPath (text : String) : Bool := text != ""

/-- The arguments of `check`. -/
def checkGrammar : Grammar := ⟨[jsonLogs, .flag "plain" (some 'p')], [isPath], 0⟩

/-- The arguments of `eval`. -/
def evalGrammar : Grammar :=
  ⟨[jsonLogs, ⟨"header", none, true, true, isKeyValue⟩, ⟨"var", none, true, true, isKeyValue⟩, .flag "trace" none,
      .flag "json" none, ⟨"document-root", none, true, false, isPath⟩, .flag "execute" none],
    [isPath, fun _ => true], 2⟩

/-- The arguments of `dump`. -/
def dumpGrammar : Grammar := ⟨[jsonLogs, .flag "json" none], [isPath], 0⟩

/-- The rules file where none is named. -/
def defaultPath : String := "rules.hcl"

/-! ### Reading -/

/-- The names and values of an option. -/
def Given.pairs (given : Given) (long : String) : List (String × String) :=
  (given.values long).filterMap fun raw => (parseKeyValue raw).toOption

/-- The command of what is given to `check`. -/
def checkCommand (given : Given) : Command := .check (given.positionals.headD defaultPath) (given.has "plain")

/-- The command of what is given to `eval`. -/
def evalCommand (given : Given) : Command :=
  .eval ⟨given.positionals.getD 0 "", given.positionals.getD 1 "", given.pairs "header", given.pairs "var",
    given.has "trace", given.has "json", (given.values "document-root").headD ".", given.has "execute"⟩

/-- The command of what is given to `dump`. -/
def dumpCommand (given : Given) : Command := .dump (given.positionals.headD defaultPath) (given.has "json")

/-- Reads the arguments of one command. -/
def readCommand (logs : Bool) (page : Page) (grammar : Grammar) (command : Given → Command) (arguments : List String) :
    Asked :=
  match grammar.read none ⟨[], []⟩ arguments with
  | .ok given => .run (logs || given.has "json-logs") (command given)
  | .error .help => .help page
  | .error .refused => .refused

/-- Reads the names behind `help`. -/
def readHelp : List String → Asked
  | [] => .help .top
  | ["check"] => .help .check
  | ["eval"] => .help .eval
  | ["dump"] => .help .dump
  | ["help"] => .help .help
  | _ => .refused

/-- Reads arguments up to the name of a command; `logs` says whether JSON logs are asked for so far. -/
def readTop (logs : Bool) : List String → Asked
  | [] => .refused
  | argument :: rest =>
    match argument with
    | "--help" => .help .top
    | "--version" => .version
    | "--json-logs" => if logs then .refused else readTop true rest
    | "check" => readCommand logs .check checkGrammar checkCommand rest
    | "eval" => readCommand logs .eval evalGrammar evalCommand rest
    | "dump" => readCommand logs .dump dumpGrammar dumpCommand rest
    | "help" => readHelp rest
    | _ =>
      match argument.toList with
      | '-' :: 'h' :: _ => .help .top
      | '-' :: 'V' :: _ => .version
      | _ => .refused

/-- Reads all arguments. -/
def read (arguments : List String) : Asked := if arguments.isEmpty then .nothing else readTop false arguments

/-! ### Commands in words -/

/-- Named values in braces. -/
def describeFields (fields : List (String × String)) : String :=
  " \x7b " ++ Text.join ", " (fields.map fun field => field.1 ++ ": " ++ field.2) ++ " \x7d"

/-- Pairs of texts in words. -/
def describePairs (pairs : List (String × String)) : String :=
  "[" ++ Text.join ", " (pairs.map fun pair => "(" ++ Text.quoted pair.1 ++ ", " ++ Text.quoted pair.2 ++ ")") ++ "]"

/-- A command in words. -/
def Command.describe : Command → String
  | check path plain => "Check" ++ describeFields [("path", Text.quoted path), ("plain", Style.truth plain)]
  | eval o =>
    "Eval(EvalArgs" ++ describeFields [("path", Text.quoted o.path), ("url", Text.quoted o.url),
      ("headers", describePairs o.headers), ("variables", describePairs o.serverVariables), ("trace", Style.truth o.trace),
      ("json", Style.truth o.json), ("document_root", Text.quoted o.documentRoot),
      ("execute", Style.truth o.execute)] ++ ")"
  | dump path json => "Dump" ++ describeFields [("path", Text.quoted path), ("json", Style.truth json)]

end Reroute.CommandLine
