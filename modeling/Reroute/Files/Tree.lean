import Reroute.Text.Basic
import Reroute.Walk.Env

/-!
# File trees

Files and directories held in memory, for trying rules out without a disk.  Paths are followed name by name from the
working directory or the root; whatever a path goes through has to be a directory.
-/

namespace Reroute

/-- Why a path leads nowhere. -/
inductive FileFault where
  | notFound
  | notDirectory
  | isDirectory
  | nameTooLong
  | emptyName
deriving DecidableEq, Repr

/-- The wording of a fault. -/
def FileFault.message : FileFault → String
  | notFound => "No such file or directory (os error 2)"
  | notDirectory => "Not a directory (os error 20)"
  | isDirectory => "Is a directory (os error 21)"
  | nameTooLong => "File name too long (os error 36)"
  | emptyName => "file name contained an unexpected NUL byte"

/-- What stands at a path. -/
inductive FileEntry where
  | file (content : String)
  | directory
  | device
deriving DecidableEq, Repr

/-- What a path leads to. -/
def FileEntry.kind : FileEntry → FileKind
  | file _ => .file
  | directory => .directory
  | device => .other

/-- Entries by the names from the root, and the names of the working directory. -/
structure FileTree where
  working : List String
  entries : List (List String × FileEntry)

namespace FileTree

/-! ### Following paths -/

/-- The entry at names from the root, which is a directory itself. -/
def entry? (tree : FileTree) (names : List String) : Option FileEntry :=
  if names = [] then some .directory else (tree.entries.find? (·.1 == names)).map (·.2)

/-- The names behind one more name of a path. -/
def enter (tree : FileTree) (here : List String) (name : String) : Except FileFault (List String) :=
  if tree.entry? here ≠ some .directory then .error .notDirectory
  else if name = "" ∨ name = "." then .ok here
  else if name = ".." then .ok here.dropLast
  else if 255 < name.utf8ByteSize then .error .nameTooLong
  else if (tree.entry? (here ++ [name])).isSome then .ok (here ++ [name])
  else .error .notFound

/-- The entry at a path. -/
def resolve (tree : FileTree) (path : String) : Except FileFault FileEntry := do
  if path = "" then .error .notFound
  else if path.toList.contains '\x00' then .error .emptyName
  else if 4096 ≤ path.utf8ByteSize then .error .nameTooLong
  else
    let start := if path.toList.head? = some '/' then [] else tree.working
    let names ← (Text.split '/' path).foldlM tree.enter start
    match tree.entry? names with
    | some entry => .ok entry
    | none => .error .notFound

/-- What a path leads to. -/
def probe (tree : FileTree) (path : String) : Except String FileKind :=
  ((tree.resolve path).map FileEntry.kind).mapError FileFault.message

/-- The content of the file at a path; a device has none. -/
def read (tree : FileTree) (path : String) : Except String String :=
  match tree.resolve path with
  | .ok (.file content) => .ok content
  | .ok .device => .ok ""
  | .ok .directory => .error FileFault.isDirectory.message
  | .error fault => .error fault.message

/-! ### Changes -/

/-- The names that a path leads through, whether they are there or not. -/
def namesOf (tree : FileTree) (path : String) : List String :=
  (Text.split '/' path).foldl
    (fun here name => if name = "" ∨ name = "." then here else if name = ".." then here.dropLast else here ++ [name])
    (if path.toList.head? = some '/' then [] else tree.working)

/-- Sets the entry at names. -/
def set (tree : FileTree) (names : List String) (entry : FileEntry) : FileTree :=
  { tree with entries := (names, entry) :: tree.entries.filter (·.1 != names) }

/-- Makes the directory at names, and those around it. -/
def makeDirectory (tree : FileTree) (names : List String) : FileTree :=
  (List.range (names.length + 1)).foldl
    (fun tree n => if (tree.entry? (names.take n)).isSome then tree else tree.set (names.take n) .directory) tree

/-- Writes a file, or makes a directory where the path ends in a slash. -/
def write (tree : FileTree) (path content : String) : FileTree :=
  let names := tree.namesOf path
  if path.toList.getLast? = some '/' then tree.makeDirectory names
  else (tree.makeDirectory names.dropLast).set names (.file content)

/-- Removes the file at a path, if there is one. -/
def remove? (tree : FileTree) (path : String) : Option FileTree :=
  match tree.resolve path with
  | .ok (.file _) => some { tree with entries := tree.entries.filter (·.1 != tree.namesOf path) }
  | _ => none

end FileTree

end Reroute
