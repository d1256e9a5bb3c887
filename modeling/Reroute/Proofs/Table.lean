import Reroute.Request.Fields
import Reroute.Request.Query
import Reroute.Walk.Scratch

/-!
# Tables of named entries

Parameters, headers, server variables and properties are kept in tables: lists of names with what stands under them,
of which the first entry of a name counts.  They are all written in one way: the first entry of the name is changed
where it stands, or a new one goes behind all others (`Writes`).  Such a write adds no other name (`Writes.names`), and
what is found under other names stays (`Writes.find?`).  Where every name stands once, a table is known from its names
in order and from what is found under them (`eq_of_find?_eq`).
-/

namespace Reroute

namespace Table

variable {α : Type}

/-- What stands under a name. -/
def find? (name : String) (table : List (String × α)) : Option α :=
  (List.find? (fun entry => entry.1 == name) table).map (·.2)

private theorem find?_cons (name key : String) (value : α) (rest : List (String × α)) :
    find? name ((key, value) :: rest) = if key = name then some value else find? name rest := by
  by_cases h : key = name <;> simp [find?, h]

theorem find?_eq_none {name : String} {table : List (String × α)} :
    find? name table = none ↔ name ∉ table.map Prod.fst := by
  induction table with
  | nil => exact iff_of_true rfl List.not_mem_nil
  | cons entry table ih =>
    obtain ⟨key, value⟩ := entry
    rw [find?_cons, List.map_cons, List.mem_cons, not_or, ← ih]
    by_cases hkey : key = name
    · simp [hkey]
    · simp [hkey, Ne.symm hkey]

theorem find?_append (name : String) (front back : List (String × α)) :
    find? name (front ++ back) = (find? name front).or (find? name back) := by
  rw [find?, List.find?_append, Option.map_or]
  rfl

/-- Every value is changed, and every name stays. -/
theorem find?_map {β : Type} (f : String → α → β) (name : String) (table : List (String × α)) :
    find? name (table.map fun entry => (entry.1, f entry.1 entry.2)) = (find? name table).map (f name) := by
  induction table with
  | nil => rfl
  | cons entry table ih =>
    obtain ⟨key, value⟩ := entry
    rw [List.map_cons, find?_cons, find?_cons, ih]
    by_cases hkey : key = name
    · rw [if_pos hkey, if_pos hkey, hkey, Option.map_some]
    · rw [if_neg hkey, if_neg hkey]

/-- Entries are kept by their names. -/
theorem find?_filter (keep : String → Bool) {name : String} (h : keep name = true) (table : List (String × α)) :
    find? name (table.filter fun entry => keep entry.1) = find? name table := by
  induction table with
  | nil => rfl
  | cons entry table ih =>
    obtain ⟨key, value⟩ := entry
    rw [List.filter_cons]
    by_cases hkey : key = name
    · have hkeep : keep key = true := hkey ▸ h
      rw [if_pos hkeep, find?_cons, find?_cons, if_pos hkey, if_pos hkey]
    · rw [find?_cons, if_neg hkey, ← ih]
      split
      · rw [find?_cons, if_neg hkey]
      · rfl

/-- Where every name stands once, what is found under the name of an entry is what the entry holds. -/
theorem find?_of_mem {table : List (String × α)} (hnodup : (table.map Prod.fst).Nodup) {entry : String × α}
    (h : entry ∈ table) : find? entry.1 table = some entry.2 := by
  induction table with
  | nil => cases h
  | cons first table ih =>
    obtain ⟨key, value⟩ := first
    obtain ⟨hfirst, htable⟩ := List.nodup_cons.mp hnodup
    rw [find?_cons]
    obtain rfl | h := List.mem_cons.mp h
    · rw [if_pos rfl]
    · have hkey : key ≠ entry.1 := fun hkey => hfirst (List.mem_map.mpr ⟨entry, h, hkey.symm⟩)
      rw [if_neg hkey, ih htable h]

/-- Tables with the same names in the same order, each once, and the same under every name are the same. -/
theorem eq_of_find?_eq {table other : List (String × α)} (hnodup : (table.map Prod.fst).Nodup)
    (hnames : table.map Prod.fst = other.map Prod.fst) (hfind : ∀ name, find? name table = find? name other) :
    table = other := by
  have hlength : table.length = other.length := by simpa using congrArg List.length hnames
  refine List.ext_getElem hlength fun position h h' => ?_
  have hname : table[position].1 = other[position].1 := by
    have hposition : position < (table.map Prod.fst).length := by rwa [List.length_map]
    have hnames := List.getElem_of_eq hnames hposition
    rwa [List.getElem_map, List.getElem_map] at hnames
  have hvalue := find?_of_mem hnodup (List.getElem_mem h)
  rw [hfind, hname, find?_of_mem (hnames ▸ hnodup) (List.getElem_mem h')] at hvalue
  exact Prod.ext hname (Option.some.inj hvalue).symm

/-- A name that is put behind the others unless it is among them. -/
theorem nodup_enter {names : List String} (h : names.Nodup) (name : String) :
    (if name ∈ names then names else names ++ [name]).Nodup := by
  split
  · exact h
  · rename_i hnew
    refine List.nodup_append.mpr ⟨h, by simp, ?_⟩
    rintro other hother _ hlast rfl
    exact hnew (List.mem_singleton.mp hlast ▸ hother)

/-- The first entry of a name is changed where it stands, or a new one goes behind all others. -/
structure Writes (write : List (String × α) → List (String × α)) (name : String) (f : Option α → α) : Prop where
  nil : write [] = [(name, f none)]
  cons (key : String) (value : α) (rest : List (String × α)) : write ((key, value) :: rest) =
    if key = name then (key, f (some value)) :: rest else (key, value) :: write rest

namespace Writes

variable {write : List (String × α) → List (String × α)} {name : String} {f : Option α → α}

theorem names (h : Writes write name f) (table : List (String × α)) :
    (write table).map Prod.fst =
      if name ∈ table.map Prod.fst then table.map Prod.fst else table.map Prod.fst ++ [name] := by
  induction table with
  | nil =>
    rw [h.nil]
    rfl
  | cons entry rest ih =>
    obtain ⟨key, value⟩ := entry
    rw [h.cons]
    simp only [List.map_cons, List.mem_cons]
    by_cases hkey : key = name
    · rw [if_pos hkey, if_pos (.inl hkey.symm)]
      rfl
    · rw [if_neg hkey, List.map_cons, ih]
      simp only [Ne.symm hkey, false_or]
      split <;> rfl

theorem nodup (h : Writes write name f) {table : List (String × α)} (hnodup : (table.map Prod.fst).Nodup) :
    ((write table).map Prod.fst).Nodup := by
  rw [h.names]
  exact nodup_enter hnodup name

theorem find? (h : Writes write name f) (other : String) (table : List (String × α)) :
    Table.find? other (write table) =
      if name = other then some (f (Table.find? name table)) else Table.find? other table := by
  induction table with
  | nil =>
    rw [h.nil, find?_cons]
    rfl
  | cons entry rest ih =>
    obtain ⟨key, value⟩ := entry
    rw [h.cons, find?_cons name, find?_cons other]
    by_cases hkey : key = name
    · rw [if_pos hkey, if_pos hkey, find?_cons, hkey]
      by_cases hother : name = other
      · rw [if_pos hother, if_pos hother]
      · rw [if_neg hother, if_neg hother, if_neg hother]
    · rw [if_neg hkey, if_neg hkey, find?_cons, ih]
      by_cases hother : name = other
      · -- the entry in front is not the one that is written, so it is not the one that is looked for
        rw [if_pos hother, if_pos hother, if_neg fun h => hkey (h.trans hother.symm)]
      · rw [if_neg hother, if_neg hother]

end Writes

end Table

/-! ### The tables of a request and of a rule -/

theorem Query.writes_set (name : String) (values : List String) :
    Table.Writes (Query.set name values) name fun _ => values :=
  ⟨rfl, fun _ _ _ => rfl⟩

theorem Query.writes_add (name value : String) :
    Table.Writes (Query.add name value) name fun values => values.getD [] ++ [value] :=
  ⟨rfl, fun _ _ _ => rfl⟩

theorem Entries.writes_update (name : String) (f : Option String → String) :
    Table.Writes (Entries.update name f) name f :=
  ⟨rfl, fun _ _ _ => rfl⟩

theorem Properties.writes_set (name : String) (value : Property) :
    Table.Writes (Properties.set name value) name fun _ => value :=
  ⟨rfl, fun _ _ _ => rfl⟩

end Reroute
