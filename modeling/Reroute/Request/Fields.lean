import Reroute.Text.Basic

/-!
# Tables of named texts

Headers and server variables: names with ASCII letters small, in order of insertion.  The first write puts the
table as it was aside, so that the first values can still be read.
-/

namespace Reroute

/-- Named texts in order of insertion. -/
abbrev Entries := List (String × String)

namespace Entries

/-- The text under a name as it is spelled in the table. -/
def find? (name : String) (entries : Entries) : Option String :=
  (List.find? (fun entry => entry.1 == name) entries).map (·.2)

/-- Changes the text under a name; a name that is missing goes to the end with the text made of nothing. -/
def update (name : String) (f : Option String → String) : Entries → Entries
  | [] => [(name, f none)]
  | (key, text) :: rest => if key = name then (key, f (some text)) :: rest else (key, text) :: update name f rest

/-- Removes a name and keeps the order of the others. -/
def erase (name : String) (entries : Entries) : Entries := entries.filter fun entry => entry.1 != name

end Entries

/-- A table of named texts with its first state. -/
structure Fields where
  live : Entries
  received : Option Entries
deriving DecidableEq, Repr

namespace Fields

/-- The empty table. -/
def empty : Fields := ⟨[], none⟩

/-- The text under a name. -/
def get? (fields : Fields) (name : String) : Option String := fields.live.find? (Text.lowerAscii name)

/-- The table as it was before the first write. -/
def firstState (fields : Fields) : Entries := fields.received.getD fields.live

/-- The text under a name before the first write. -/
def received? (fields : Fields) (name : String) : Option String := fields.firstState.find? (Text.lowerAscii name)

/-- Whether a name is in the table. -/
def contains (fields : Fields) (name : String) : Bool := (fields.get? name).isSome

/-- Fills the table while a request is put together. -/
def seed (fields : Fields) (name value : String) : Fields :=
  { fields with live := fields.live.update (Text.lowerAscii name) fun _ => value }

/-! ### Writes -/

/-- Puts the table aside unless that was done before, and changes it. -/
def write (fields : Fields) (f : Entries → Entries) : Fields :=
  ⟨f fields.live, some fields.firstState⟩

/-- Sets the text under a name. -/
def set (fields : Fields) (name value : String) : Fields :=
  fields.write fun live => live.update (Text.lowerAscii name) fun _ => value

/-- Puts a text behind the one under a name. -/
def append (fields : Fields) (name value : String) : Fields :=
  fields.write fun live => live.update (Text.lowerAscii name) fun old => old.getD "" ++ value

/-- Removes a name. -/
def remove (fields : Fields) (name : String) : Fields :=
  fields.write fun live => live.erase (Text.lowerAscii name)

/-- Keeps the names for which `keep` holds. -/
def retain (fields : Fields) (keep : String → Bool) : Fields :=
  fields.write fun live => live.filter fun entry => keep entry.1

end Fields

end Reroute
