import Reroute.CommandLine.Help
import Reroute.CommandLine.LogFilter
import Reroute.Config.Record
import Reroute.Engine
import Reroute.Files.Tree
import Reroute.LiveRules
import Reroute.Rule.Outline
import Reroute.Walk.Record

/-!
# Running commands

A command reads the rules file through the given files and leaves its log, its output, its error text and an exit
code.  The log comes before all output.
-/

namespace Reroute.CommandLine

/-- How files are read and looked up. -/
structure Files where
  read : String → Except String String
  probe : String → Except String FileKind

/-- The files of a tree. -/
def Files.ofTree (tree : FileTree) : Files := ⟨tree.read, tree.probe⟩

/-- What a command leaves; `paths` are those that were looked up. -/
structure Report where
  log : List LogRecord
  output : String
  errors : String
  code : Nat
  paths : List String

namespace Report

/-- A report of success. -/
def success (log : List LogRecord) (output : String) : Report := ⟨log, output, "", 0, []⟩

/-- A report of failure. -/
def failure (log : List LogRecord) (errors : String) (code : Nat) : Report := ⟨log, "", errors, code, []⟩

/-- A report of a failure with its causes. -/
def fault (log : List LogRecord) (reasons : List String) : Report :=
  failure log ("rewrite error: " ++ Text.join ": " reasons ++ "\n") 1

end Report

/-! ### Saying what a rules file holds -/

/-- A fault in style: a cross, and the causes. -/
def styledFault (fault : ConfigError) : String :=
  "\n" ++ Style.bold (Style.red "✘") ++ " " ++ fault.message ++ "\n"
    ++ String.join (fault.causes.map fun cause => "  " ++ Style.dimmed "caused by:" ++ " " ++ cause ++ "\n")

/-- A fault with its hint. -/
def faultText (fault : ConfigError) (plain : Bool) : String :=
  (if plain then fault.message ++ "\n" else styledFault fault) ++
    match fault.hint? with
    | some hint => "\n" ++ hint ++ "\n"
    | none => ""

/-- What a rule set holds. -/
def holdings (rules : RuleSet) : String :=
  "✔ Rules compiled successfully\n" ++
  "✔ " ++ toString rules.root.rules.length ++ " top-level rules\n" ++
  "✔ " ++ toString rules.ruleCount ++ " rules in total\n" ++
  "✔ " ++ toString rules.tableCount ++ " rewrite maps\n"

/-- Says what a rules file holds. -/
def runCheck (files : Files) (path : String) (plain : Bool) : Report :=
  let load := loadRules files.read path .empty
  match load.result with
  | .ok rules => .success load.log (holdings rules)
  | .error fault => .failure load.log (faultText fault plain) 1

/-! ### Outlines -/

/-- A lookup table as a line. -/
def tableLine (table : LookupTable) : String :=
  "map '" ++ table.name ++ "' (" ++ toString table.size ++ " entries, default " ++ Text.quoted table.fallback ++ ")\n"

/-- The outline of a rule set: the rules, then the tables in the order of their names. -/
def outline (rules : RuleSet) : String :=
  let tables := (rules.tables.map (·.2)).mergeSort fun a b => decide (a.name ≤ b.name)
  rules.root.describeTree ++ String.join (tables.map tableLine)

/-- Writes a rules file as JSON. -/
def runDumpJson (files : Files) (path : String) : Report :=
  match files.read path with
  | .error reason => .fault [] ["failed to read " ++ path, reason]
  | .ok text =>
    match Document.parse? text with
    | none => .fault [] [(ConfigError.malformed path).message]
    | some document => .success [] (document.toJson.pretty 0 ++ "\n")

/-- Outlines a rules file. -/
def runDump (files : Files) (path : String) (json : Bool) : Report :=
  if json then runDumpJson files path
  else
    let load := loadRules files.read path .empty
    match load.result with
    | .ok rules => .success load.log (outline rules)
    | .error fault => .fault load.log (fault.message :: fault.causes)

/-! ### Trying out a request -/

/-- A verdict as fields. -/
def verdictFields (verdict : Verdict) : List (String × JsonValue) :=
  [("matched", .bool verdict.matched), ("end_request", .bool verdict.endRequest), ("is_dynamic", .bool verdict.dynamic),
    ("modified", .bool verdict.modified), ("new_url", .text verdict.newUrl),
    ("deferred", .list (verdict.deferred.map Deferred.toJson))]

/-- What came of a request as JSON. -/
def verdictJson (processed : Processed) (trace : Bool) : JsonValue :=
  .object ([("original_url", .text processed.request.receivedUrl)] ++ verdictFields processed.verdict
    ++ if trace then [("trace", .list ((Note.events processed.notes).map Event.toJson))] else [])

/-- A truth value in style. -/
def styledFlag (b : Bool) : String := if b then Style.green "yes" else Style.dimmed "no"

/-- What came of a request in lines. -/
def verdictText (processed : Processed) : String :=
  let verdict := processed.verdict
  Style.bold "original:" ++ " " ++ processed.request.receivedUrl ++ "\n" ++
  Style.bold "rewritten:" ++ " " ++ verdict.newUrl ++ "\n" ++
  "  matched      " ++ styledFlag verdict.matched ++ "\n" ++
  "  modified     " ++ styledFlag verdict.modified ++ "\n" ++
  "  end request  " ++ styledFlag verdict.endRequest ++ "\n" ++
  "  dynamic      " ++ styledFlag verdict.dynamic ++ "\n" ++
  String.join (verdict.deferred.map fun action =>
    "  " ++ Style.yellow "deferred:" ++ " " ++ action.describe ++ "\n")

/-- The request that options describe. -/
def EvalOptions.request (options : EvalOptions) : Request :=
  let request := options.headers.foldl (fun request entry => request.withHeader entry.1 entry.2) (.ofUrl options.url)
  options.serverVariables.foldl (fun request entry => request.withVariable entry.1 entry.2) request

/-- The surroundings that options describe; without a trace the events go to the log. -/
def EvalOptions.env (options : EvalOptions) (files : Files) : Env :=
  ⟨if options.execute then .both else .trace, options.documentRoot, if options.trace then .record else .log, files.probe⟩

/-- Tries out a request. -/
def runEval (files : Files) (options : EvalOptions) : Report :=
  let load := loadRules files.read options.path .empty
  match load.result with
  | .error fault => .fault load.log (("failed to load rules from " ++ options.path) :: fault.message :: fault.causes)
  | .ok rules =>
    let processed := Engine.process ⟨rules, options.env files⟩ options.request
    let output :=
      if options.json then (verdictJson processed options.trace).pretty 0 ++ "\n"
      else
        (if options.trace then Event.renderPretty (Note.events processed.notes) ++ "\n" else "")
          ++ verdictText processed
    { Report.success (load.log ++ Note.records processed.notes) output with paths := Note.paths processed.notes }

/-! ### Running -/

/-- The file that a command reads. -/
def Command.path : Command → String
  | check path _ => path
  | eval options => options.path
  | dump path _ => path

/-- Runs a command. -/
def Command.run (files : Files) : Command → Report
  | check path plain => runCheck files path plain
  | eval options => runEval files options
  | dump path json => runDump files path json

/-- The record of a command. -/
def Command.record (command : Command) : LogRecord :=
  ⟨.debug, "rewrite", "running command", [("cmd", .text command.describe)]⟩

/-- The report of a command with the records that a filter lets through; JSON logs show more by themselves. -/
def runLogged (files : Files) (setting : Option String) (jsonLogs : Bool) (command : Command) : Report :=
  let filter := LogFilter.ofSetting setting (if jsonLogs then .info else .warn)
  let report := command.run files
  { report with log := (command.record :: report.log).filter filter.allows }

/-- The report of what arguments ask for. -/
def Asked.report (files : Files) (setting : Option String) : Asked → Report
  | run jsonLogs command => runLogged files setting jsonLogs command
  | help page => .success [] page.text
  | version => .success [] versionText
  | nothing => .failure [] topText 2
  | refused => .failure [] refusal 2

/-- Whether the log is written as JSON to the output, and not in lines to the errors. -/
def Asked.jsonLogs : Asked → Bool
  | run jsonLogs _ => jsonLogs
  | _ => false

/-! ### Log lines -/

/-- A value of a record in words. -/
def valueText : LogValue → String
  | .text value => value
  | .bool value => Style.truth value
  | .number value => toString value

/-- A record as a line: its level in five places, its message, its values. -/
def recordLine (record : LogRecord) : String :=
  String.ofList (List.replicate (5 - record.level.name.length) ' ') ++ record.level.name ++ " " ++ record.message
    ++ String.join (record.values.map fun value => " " ++ value.1 ++ "=" ++ valueText value.2) ++ "\n"

end Reroute.CommandLine
