import Reroute.CommandLine.Run

/-!
# The program

Runs the command that the arguments ask for on the files of the disk.  What a path leads to is looked up between
runs: a command runs again with the answers until it asks for no path that has none.
-/

namespace Reroute.Program

open CommandLine

/-- The reason why a path cannot be read or looked up. -/
def reason : IO.Error → String
  | .noFileOrDirectory _ _ _ => FileFault.notFound.message
  | error => toString error

/-- The content of the file at a path. -/
def readPath (path : String) : IO (Except String String) := do
  try
    return .ok (← IO.FS.readFile path)
  catch error => return .error (reason error)

/-- What a path leads to. -/
def probePath (path : String) : IO (Except String FileKind) := do
  try
    let resolved ← IO.FS.realPath path
    match (← resolved.metadata).type with
    | .file => return .ok .file
    | .dir => return .ok .directory
    | _ => return .ok .other
  catch error => return .error (reason error)

/-- The answers so far as files to run a command on. -/
def filesOf (content : Except String String) (known : List (String × Except String FileKind)) : Files :=
  ⟨fun _ => content, fun path => ((known.find? (·.1 == path)).map (·.2)).getD (.error "")⟩

/-- Runs a command until every path that it looks up has an answer. -/
partial def settle (asked : Asked) (setting : Option String) (content : Except String String)
    (known : List (String × Except String FileKind)) : IO Report := do
  let report := asked.report (filesOf content known) setting
  let unknown := report.paths.filter fun path => !known.any (·.1 == path)
  if unknown.isEmpty then return report
  else
    let answers ← unknown.mapM fun path => return (path, ← probePath path)
    settle asked setting content (known ++ answers)

/-- Reads the file that is asked for. -/
def contentOf : Asked → IO (Except String String)
  | .run _ command => readPath command.path
  | _ => return .error ""

end Reroute.Program

open Reroute CommandLine Program in
/-- Writes the log and the output, and answers with the exit code. -/
def main (arguments : List String) : IO UInt32 := do
  let asked := read arguments
  let report ← settle asked (← IO.getEnv "RUST_LOG") (← contentOf asked) []
  for record in report.log do
    if asked.jsonLogs then IO.println record.toJson.compact else IO.eprint (recordLine record)
  IO.print report.output
  IO.eprint report.errors
  return UInt32.ofNat report.code
