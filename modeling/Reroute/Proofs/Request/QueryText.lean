import Reroute.Proofs.Table
import Reroute.Proofs.Text.Basic

/-!
# Reading back a written query

What is read from a query text has every name once, and under a name the values that the parts of the text give to it
(`find?_parse`).  A table of parameters is canonical if every name stands in it once, with names and values as a query
text can hold them.  What is read from a query text is canonical (`canonical_parse`), writing a parameter keeps a table
canonical, and a canonical table is read back from its written form (`parse_serialize`).  The part `=` alone is what
cannot be read back: its empty value under the empty name is written as nothing.
-/

namespace Reroute.Query

/-! ### Canonical tables -/

/-- A name as a query text can hold it: ASCII letters small, no separator. -/
structure IsName (name : String) : Prop where
  lower : Text.lowerAscii name = name
  ampersand : '&' ∉ name.toList
  equals : '=' ∉ name.toList

/-- A value as a query text can hold it under a name. -/
structure IsValue (name value : String) : Prop where
  ampersand : '&' ∉ value.toList
  written : name = "" → value ≠ ""

/-- A parameter as a query text can hold it. -/
structure IsParameter (name : String) (values : List String) : Prop where
  isName : IsName name
  isValue : ∀ value ∈ values, IsValue name value
  ne_nil : values ≠ []

/-- Every name once, and parameters as a query text can hold them. -/
structure Canonical (query : Query) : Prop where
  nodup : (query.map Prod.fst).Nodup
  isParameter : ∀ entry ∈ query, IsParameter entry.1 entry.2

/-! ### Writing parameters -/

variable {query : Query} {name : String} {values : List String}

theorem mem_of_find? (h : query.find? name = some values) : (name, values) ∈ query := by
  obtain ⟨⟨key, found⟩, hfound, rfl⟩ := Option.map_eq_some_iff.mp h
  obtain rfl : key = name := by simpa using List.find?_some hfound
  exact List.mem_of_find?_eq_some hfound

private theorem mem_set {entry : String × List String} (h : entry ∈ query.set name values) :
    entry ∈ query ∨ entry = (name, values) := by
  induction query with
  | nil => exact .inr (List.mem_singleton.mp h)
  | cons first query ih =>
    rw [set] at h
    split at h
    · rename_i hkey
      obtain rfl | h := List.mem_cons.mp h
      · exact .inr (by rw [hkey])
      · exact .inl (List.mem_cons_of_mem _ h)
    · obtain rfl | h := List.mem_cons.mp h
      · exact .inl List.mem_cons_self
      · exact (ih h).imp_left (List.mem_cons_of_mem _)

theorem Canonical.set (h : query.Canonical) (hparameter : IsParameter name values) :
    (query.set name values).Canonical where
  nodup := (writes_set name values).nodup h.nodup
  isParameter entry hentry := by
    obtain hentry | rfl := mem_set hentry
    · exact h.isParameter entry hentry
    · exact hparameter

theorem Canonical.filter (h : query.Canonical) (keep : String × List String → Bool) :
    Canonical (List.filter keep query) where
  nodup := h.nodup.sublist (List.filter_sublist.map _)
  isParameter entry hentry := h.isParameter entry (List.mem_filter.mp hentry).1

/-- The values of a name, none if the table does not hold it. -/
theorem Canonical.isValue_of_mem (h : query.Canonical) {value : String} (hvalue : value ∈ (query.find? name).getD []) :
    IsValue name value := by
  cases hfound : query.find? name with
  | none => simp [hfound] at hvalue
  | some values => exact (h.isParameter _ (mem_of_find? hfound)).isValue value (by simpa [hfound] using hvalue)

/-! ### Single parts -/

variable {value text : String}

private theorem isName_part (h : '&' ∉ text.toList) : IsName (part text).1 := by
  cases hcut : Text.cut? '=' text with
  | none =>
    have hequals := Text.cut?_eq_none.mp hcut
    simp only [part, hcut, Option.getD_none]
    refine ⟨Text.lowerAscii_lowerAscii text, ?_, ?_⟩
    · exact fun hmem => h (Text.mem_of_mem_lowerAscii (by decide) hmem)
    · exact fun hmem => hequals (Text.mem_of_mem_lowerAscii (by decide) hmem)
  | some cut =>
    obtain ⟨head, rest⟩ := cut
    obtain ⟨htext, hequals⟩ := Text.cut?_eq_some.mp hcut
    simp only [part, hcut, Option.getD_some]
    rw [htext, List.mem_append, not_or] at h
    refine ⟨Text.lowerAscii_lowerAscii head, ?_, ?_⟩
    · exact fun hmem => h.1 (Text.mem_of_mem_lowerAscii (by decide) hmem)
    · exact fun hmem => hequals (Text.mem_of_mem_lowerAscii (by decide) hmem)

private theorem ampersand_part (h : '&' ∉ text.toList) : '&' ∉ (part text).2.toList := by
  cases hcut : Text.cut? '=' text with
  | none => simp [part, hcut]
  | some cut =>
    obtain ⟨head, rest⟩ := cut
    obtain ⟨htext, -⟩ := Text.cut?_eq_some.mp hcut
    simp only [part, hcut, Option.getD_some]
    rw [htext, List.mem_append, List.mem_cons, not_or, not_or] at h
    exact h.2.2

/-- Two texts give the empty value to the empty name. -/
private theorem part_eq_empty (h : part text = ("", "")) : text = "" ∨ text = "=" := by
  cases hcut : Text.cut? '=' text with
  | none =>
    simp only [part, hcut, Option.getD_none, Prod.mk.injEq, Text.lowerAscii_eq_empty, and_true] at h
    exact .inl h
  | some cut =>
    obtain ⟨head, rest⟩ := cut
    obtain ⟨htext, -⟩ := Text.cut?_eq_some.mp hcut
    simp only [part, hcut, Option.getD_some, Prod.mk.injEq, Text.lowerAscii_eq_empty] at h
    obtain ⟨rfl, rfl⟩ := h
    exact .inr (String.toList_inj.mp htext)

theorem mem_parts {written : String} : written ∈ parts text ↔ written ∈ Text.split '&' text ∧ written ≠ "" := by
  rw [parts, List.mem_filter, bne_iff_ne]

/-! ### Reading a query text -/

theorem parse_eq_foldl (text : String) :
    parse text = (parts text).foldl (fun query text => Query.add (part text).1 (part text).2 query) [] := by
  simp only [parse]

theorem nodup_parse (text : String) : ((parse text).map Prod.fst).Nodup := by
  rw [parse_eq_foldl]
  refine List.foldlRecOn (motive := fun query : Query => (query.map Prod.fst).Nodup) _ _ List.nodup_nil ?_
  intro query hquery written _
  exact (writes_add _ _).nodup hquery

/-- The values that a query text gives to a name, in order. -/
def valuesOf (name text : String) : List String :=
  (parts text).filterMap fun written => if (part written).1 = name then some (part written).2 else none

theorem mem_valuesOf : value ∈ valuesOf name text ↔ ∃ written ∈ parts text, part written = (name, value) := by
  simp only [valuesOf, List.mem_filterMap, Option.ite_none_right_eq_some, Option.some.injEq, Prod.ext_iff]

/-- Under a name stand the values that the text gives to it. -/
theorem find?_parse (name text : String) :
    (parse text).find? name = if valuesOf name text = [] then none else some (valuesOf name text) := by
  rw [parse_eq_foldl, valuesOf]
  -- the values that the rest of the parts give stand behind those that are there
  suffices hread : ∀ (texts : List String) (query : Query),
      (texts.foldl (fun query text => query.add (part text).1 (part text).2) query).find? name =
        let values := texts.filterMap fun written => if (part written).1 = name then some (part written).2 else none
        if values = [] then query.find? name else some ((query.find? name).getD [] ++ values) from hread _ []
  intro texts
  induction texts with
  | nil => exact fun _ => rfl
  | cons text texts ih =>
    intro query
    have hadd : (query.add (part text).1 (part text).2).find? name =
        if (part text).1 = name then some ((query.find? (part text).1).getD [] ++ [(part text).2])
        else query.find? name := (writes_add _ _).find? name query
    simp only [List.foldl_cons, ih, hadd, List.filterMap_cons]
    by_cases hname : (part text).1 = name
    · simp only [hname, if_true, Option.getD_some, List.append_assoc, List.singleton_append, reduceCtorEq, if_false]
      split
      · rename_i hnil
        rw [hnil]
      · rfl
    · simp only [if_neg hname]

/-- A parameter that is read has the values that the text gives to its name, one at least. -/
theorem eq_valuesOf_of_mem (h : (name, values) ∈ parse text) : values = valuesOf name text ∧ values ≠ [] := by
  have hfound : (parse text).find? name = some values := Table.find?_of_mem (nodup_parse text) h
  rw [find?_parse, Option.ite_none_left_eq_some] at hfound
  obtain ⟨hne, hvalues⟩ := hfound
  cases hvalues
  exact ⟨rfl, hne⟩

/-- No part of a query text is `=` alone. -/
def NoBareMark (text : String) : Prop := "=" ∉ Text.split '&' text

instance (text : String) : Decidable (NoBareMark text) := inferInstanceAs (Decidable ("=" ∉ Text.split '&' text))

theorem isName_of_mem_valuesOf (h : value ∈ valuesOf name text) : IsName name := by
  obtain ⟨written, hwritten, hpart⟩ := mem_valuesOf.mp h
  have hname := isName_part (Text.not_mem_of_mem_split (mem_parts.mp hwritten).1)
  rwa [hpart] at hname

theorem ampersand_of_mem_valuesOf (h : value ∈ valuesOf name text) : '&' ∉ value.toList := by
  obtain ⟨written, hwritten, hpart⟩ := mem_valuesOf.mp h
  have hampersand := ampersand_part (Text.not_mem_of_mem_split (mem_parts.mp hwritten).1)
  rwa [hpart] at hampersand

/-- Some of the values that a text gives to a name are a parameter, if none of them is empty under the empty name. -/
theorem isParameter_of_subset (hsub : ∀ value ∈ values, value ∈ valuesOf name text) (hne : values ≠ [])
    (hwritten : ∀ value ∈ values, name = "" → value ≠ "") : IsParameter name values where
  isName := by
    obtain ⟨value, hvalue⟩ := List.exists_mem_of_ne_nil values hne
    exact isName_of_mem_valuesOf (hsub value hvalue)
  isValue value hvalue := ⟨ampersand_of_mem_valuesOf (hsub value hvalue), hwritten value hvalue⟩
  ne_nil := hne

/-- What is read from a query text is canonical. -/
theorem canonical_parse (h : NoBareMark text) : (parse text).Canonical where
  nodup := nodup_parse text
  isParameter := by
    rintro ⟨name, values⟩ hentry
    obtain ⟨rfl, hne⟩ := eq_valuesOf_of_mem hentry
    refine isParameter_of_subset (fun _ => id) hne ?_
    rintro value hvalue rfl rfl
    obtain ⟨written, hwritten, hpart⟩ := mem_valuesOf.mp hvalue
    obtain ⟨hsplit, hne⟩ := mem_parts.mp hwritten
    obtain rfl | rfl := part_eq_empty hpart
    · exact hne rfl
    · exact h hsplit

/-! ### Reading back what was written -/

/-- The text of one value under a name. -/
private theorem part_written (hname : IsName name) :
    part (if value = "" then name else name ++ "=" ++ value) = (name, value) := by
  split
  · rename_i hvalue
    rw [part, Text.cut?_eq_none.mpr hname.equals, hvalue]
    simp [hname.lower]
  · have hcut : Text.cut? '=' (name ++ "=" ++ value) = some (name, value) :=
      Text.cut?_eq_some.mpr ⟨by simp, hname.equals⟩
    rw [part, hcut]
    simp [hname.lower]

theorem writeParts_eq_map (hvalues : values ≠ []) :
    writeParts name values = values.map fun value => if value = "" then name else name ++ "=" ++ value := by
  cases values with
  | nil => exact absurd rfl hvalues
  | cons value values => rfl

theorem ampersand_writeParts (hne : values ≠ []) (hname : '&' ∉ name.toList)
    (hvalues : ∀ value ∈ values, '&' ∉ value.toList) {text : String} (htext : text ∈ writeParts name values) :
    '&' ∉ text.toList := by
  rw [writeParts_eq_map hne] at htext
  obtain ⟨value, hvalue, rfl⟩ := List.mem_map.mp htext
  split
  · exact hname
  · simp [hname, hvalues value hvalue]

/-- Only the empty value of the empty name is written as nothing. -/
theorem written_eq_empty {name value : String} :
    (if value = "" then name else name ++ "=" ++ value) = "" ↔ name = "" ∧ value = "" := by
  split
  · rename_i hvalue
    simp [hvalue]
  · rename_i hvalue
    simp [hvalue, String.append_eq_empty_iff]

private theorem ne_empty_of_mem_writeParts (h : IsParameter name values) {text : String}
    (htext : text ∈ writeParts name values) : text ≠ "" := by
  rw [writeParts_eq_map h.ne_nil] at htext
  obtain ⟨value, hvalue, rfl⟩ := List.mem_map.mp htext
  intro hempty
  obtain ⟨hname, hvalue'⟩ := written_eq_empty.mp hempty
  exact (h.isValue value hvalue).written hname hvalue'

/-- The parts of joined texts are those texts that are not empty. -/
theorem parts_join {texts : List String} (h : ∀ text ∈ texts, '&' ∉ text.toList) :
    parts (Text.join "&" texts) = texts.filter (· != "") := by
  rw [parts]
  cases texts with
  | nil => rfl
  | cons first texts => rw [Text.split_join rfl (List.cons_ne_nil first texts) h]

/-- The parts that were written are the parts that are read. -/
theorem parts_serialize (h : query.Canonical) :
    parts query.serialize = query.flatMap fun entry => writeParts entry.1 entry.2 := by
  have hampersand : ∀ text ∈ query.flatMap fun entry => writeParts entry.1 entry.2, '&' ∉ text.toList := by
    intro text htext
    obtain ⟨entry, hentry, hpart⟩ := List.mem_flatMap.mp htext
    have hparameter := h.isParameter entry hentry
    exact ampersand_writeParts hparameter.ne_nil hparameter.isName.ampersand
      (fun value hvalue => (hparameter.isValue value hvalue).ampersand) hpart
  rw [serialize, parts_join hampersand]
  refine List.filter_eq_self.mpr fun text htext => ?_
  obtain ⟨entry, hentry, hpart⟩ := List.mem_flatMap.mp htext
  exact bne_iff_ne.mpr (ne_empty_of_mem_writeParts (h.isParameter entry hentry) hpart)

private theorem add_append_of_not_mem (name value : String) {front : Query} (back : Query)
    (h : name ∉ front.map Prod.fst) : (front ++ back).add name value = front ++ back.add name value := by
  induction front with
  | nil => rfl
  | cons first front ih =>
    rw [List.map_cons, List.mem_cons, not_or] at h
    rw [List.cons_append, add, if_neg (Ne.symm h.1), ih h.2, List.cons_append]

/-- Reading the parts of one parameter puts it behind the others. -/
private theorem foldl_add_writeParts {front : Query} (hnew : name ∉ front.map Prod.fst) (h : IsParameter name values) :
    (writeParts name values).foldl (fun query text => query.add (part text).1 (part text).2) front =
      front ++ [(name, values)] := by
  have hmore : ∀ more old, List.foldl (fun query value => Query.add name value query) (front ++ [(name, old)]) more =
      front ++ [(name, old ++ more)] := by
    intro more
    induction more with
    | nil => simp
    | cons value more ih =>
      intro old
      rw [List.foldl_cons, add_append_of_not_mem name value _ hnew, add, if_pos rfl, ih]
      simp
  rw [writeParts_eq_map h.ne_nil, List.foldl_map]
  simp only [part_written h.isName]
  cases values with
  | nil => exact absurd rfl h.ne_nil
  | cons value values =>
    have hfirst := add_append_of_not_mem name value [] hnew
    rw [List.append_nil] at hfirst
    rw [List.foldl_cons, hfirst]
    exact hmore values [value]

/-- A canonical table is read back from its written form. -/
theorem parse_serialize (h : query.Canonical) : parse query.serialize = query := by
  rw [parse_eq_foldl, parts_serialize h, List.foldl_flatMap]
  -- what has been read so far stands in front, and no name of it comes again
  suffices hread : ∀ front : Query, (front ++ query).Canonical →
      query.foldl (fun front entry => (writeParts entry.1 entry.2).foldl
        (fun query text => query.add (part text).1 (part text).2) front) front = front ++ query from hread [] h
  clear h
  induction query with
  | nil => simp
  | cons first query ih =>
    intro front h
    have hnew : first.1 ∉ front.map Prod.fst := by
      have hnodup := h.nodup
      rw [List.map_append, List.map_cons] at hnodup
      exact fun hmem => (List.nodup_append.mp hnodup).2.2 _ hmem _ List.mem_cons_self rfl
    rw [List.foldl_cons, foldl_add_writeParts hnew (h.isParameter first (by simp)), ih _ (by simpa using h)]
    simp

end Reroute.Query
