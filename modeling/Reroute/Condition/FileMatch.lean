import Reroute.Value.Basic
import Reroute.Walk.Env

/-!
# Files below the document root

A file match asks whether a value names a file, a directory or anything at all.  A path that begins with the
document root, part by part, is taken as it is; any other text is put behind the root.
-/

namespace Reroute

/-! ### Paths of the file system -/

namespace FilePath

/-- The parts of a path: a slash for the root, then the names; empty parts and dots do not count, except a dot at
the start of a relative path. -/
def parts (path : String) : List String :=
  let names := Text.split '/' path
  let rest (names : List String) := names.filter fun name => name != "" && name != "."
  match names with
  | "" :: more => (if more.isEmpty then [] else ["/"]) ++ rest more
  | "." :: more => "." :: rest more
  | names => rest names

/-- Whether a path begins with the parts of another. -/
def isBelow (root path : String) : Bool := (parts root).isPrefixOf (parts path)

/-- Whether a path begins at the root of the file system. -/
def isAbsolute (path : String) : Bool := path.toList.head? == some '/'

/-- A relative path behind another. -/
def append (root path : String) : String :=
  if root = "" ∨ root.toList.getLast? = some '/' then root ++ path else root ++ "/" ++ path

end FilePath

/-! ### The condition -/

/-- What is asked of a path. -/
inductive FileQuestion where
  | isFile
  | isDirectory
  | isThere
deriving DecidableEq, Repr

namespace FileQuestion

/-- The name of a question. -/
def name : FileQuestion → String
  | isFile => "isFile"
  | isDirectory => "isDirectory"
  | isThere => "exists"

/-- Whether a kind of file answers the question with yes. -/
def accepts : FileQuestion → FileKind → Bool
  | isFile, kind => kind == .file
  | isDirectory, kind => kind == .directory
  | isThere, _ => true

end FileQuestion

/-- A question about the path that a value names. -/
structure FileMatch where
  value : Value
  question : FileQuestion
  negate : Bool

namespace FileMatch

/-- The path that a text names. -/
def resolve (documentRoot text : String) : String :=
  if FilePath.isAbsolute text && FilePath.isBelow documentRoot text then text
  else FilePath.append documentRoot (Text.trimStartBy (· == '/') text)

/-- The record of a path that could not be looked up. -/
def failure (path reason : String) : LogRecord :=
  ⟨.trace, "rewrite_core::condition::static_path", "static path probe failed",
    [("path", .text path), ("error", .text reason)]⟩

/-- Whether the answer is yes; a path that cannot be looked up is not there. -/
def test (m : FileMatch) (env : Env) (request : Request) (scratch : Scratch) : Bool × List Note :=
  let path := resolve env.documentRoot (m.value.read request scratch)
  match env.probe path with
  | .ok kind => (m.question.accepts kind != m.negate, [.probed path])
  | .error reason => (false != m.negate, [.probed path, .record (failure path reason)])

/-- The question in words. -/
def describe (m : FileMatch) : String :=
  (if m.negate then "not " else "") ++ m.question.name ++ "(" ++ m.value.describe ++ ")"

end FileMatch

end Reroute
