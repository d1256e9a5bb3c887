import Reroute.Text.LetterCase

/-!
# Lookup tables

A named table from keys to texts, with a text for keys that are not in it.  Keys are compared in small letters,
and a later entry takes the place of an earlier one.
-/

namespace Reroute

/-- A named table with a default. -/
structure LookupTable where
  name : String
  fallback : String
  entries : List (String × String)
deriving DecidableEq, Repr

namespace LookupTable

/-- The empty table. -/
def empty (name : String) (fallback : Option String) : LookupTable := ⟨name, fallback.getD "", []⟩

/-- Enters a text under a key in small letters. -/
def enter (key value : String) : List (String × String) → List (String × String)
  | [] => [(key, value)]
  | (known, old) :: rest => if known = key then (known, value) :: rest else (known, old) :: enter key value rest

/-- Enters a text under a key. -/
def insert (table : LookupTable) (key value : String) : LookupTable :=
  { table with entries := enter (Text.lower key) value table.entries }

/-- A table with entries made one after the other. -/
def ofEntries (name : String) (fallback : Option String) (entries : List (String × String)) : LookupTable :=
  entries.foldl (fun table entry => table.insert entry.1 entry.2) (empty name fallback)

/-- The text under a key, or the default. -/
def lookup (table : LookupTable) (key : String) : String :=
  match table.entries.find? fun entry => entry.1 == Text.lower key with
  | some entry => entry.2
  | none => table.fallback

/-- The number of entries. -/
def size (table : LookupTable) : Nat := table.entries.length

end LookupTable

end Reroute
