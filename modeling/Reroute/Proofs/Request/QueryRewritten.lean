import Reroute.Proofs.Request.QueryText

/-!
# Writing a query text again

A change of one parameter writes all of them again.  What is then read is what was read before, without the empty values
of the empty name: their part is `=` alone and is written as nothing (`parse_serialize_parse`).  So everything survives
exactly if the query text has no such part.
-/

namespace Reroute.Query

variable {query : Query} {name : String} {values : List String}

/-- The table without the empty values of the empty name, and without that name if it has no other. -/
def withoutBareMarks (query : Query) : Query :=
  query.filterMap fun entry =>
    let kept := entry.2.filter fun value => entry.1 != "" || value != ""
    if kept = [] then none else some (entry.1, kept)

private theorem mem_withoutBareMarks :
    (name, values) ∈ query.withoutBareMarks ↔
      ∃ all, (name, all) ∈ query ∧ values = all.filter (fun value => name != "" || value != "") ∧ values ≠ [] := by
  simp only [withoutBareMarks, List.mem_filterMap, Prod.exists, Option.ite_none_left_eq_some, Option.some.injEq,
    Prod.mk.injEq]
  constructor
  · rintro ⟨key, all, hmem, hne, rfl, rfl⟩
    exact ⟨all, hmem, rfl, hne⟩
  · rintro ⟨all, hmem, rfl, hne⟩
    exact ⟨name, all, hmem, hne, rfl, rfl⟩

private theorem names_withoutBareMarks_sublist (query : Query) :
    (query.withoutBareMarks.map Prod.fst).Sublist (query.map Prod.fst) := by
  induction query with
  | nil => exact List.Sublist.refl _
  | cons entry query ih =>
    rw [withoutBareMarks, List.filterMap_cons]
    split
    · exact ih.cons _
    · rename_i kept hkept
      obtain ⟨-, hkept⟩ := Option.ite_none_left_eq_some.mp hkept
      cases hkept
      exact ih.cons_cons _

/-- Without the marks, what is read from a query text can be written. -/
private theorem canonical_withoutBareMarks (text : String) : (parse text).withoutBareMarks.Canonical where
  nodup := (nodup_parse text).sublist (names_withoutBareMarks_sublist _)
  isParameter := by
    rintro ⟨name, values⟩ hentry
    obtain ⟨all, hall, rfl, hne⟩ := mem_withoutBareMarks.mp hentry
    obtain ⟨rfl, -⟩ := eq_valuesOf_of_mem hall
    refine isParameter_of_subset (fun value hvalue => (List.mem_filter.mp hvalue).1) hne ?_
    rintro value hvalue rfl
    simpa using (List.mem_filter.mp hvalue).2

/-- The marks are those written parts that are empty. -/
private theorem filter_writeParts (hne : values ≠ []) :
    (writeParts name values).filter (· != "") =
      (values.filter fun value => name != "" || value != "").map
        fun value => if value = "" then name else name ++ "=" ++ value := by
  rw [writeParts_eq_map hne, List.filter_map]
  congr 1
  refine List.filter_congr fun value _ => ?_
  rw [Bool.eq_iff_iff, Function.comp_apply, bne_iff_ne, ne_eq, written_eq_empty, Bool.or_eq_true, bne_iff_ne,
    bne_iff_ne]
  exact Decidable.not_and_iff_not_or_not

private theorem flatMap_writeParts_withoutBareMarks (h : ∀ entry ∈ query, entry.2 ≠ []) :
    (query.withoutBareMarks.flatMap fun entry => writeParts entry.1 entry.2) =
      (query.flatMap fun entry => writeParts entry.1 entry.2).filter (· != "") := by
  induction query with
  | nil => rfl
  | cons entry query ih =>
    obtain ⟨hentry, hquery⟩ := List.forall_mem_cons.mp h
    rw [List.flatMap_cons, List.filter_append, filter_writeParts hentry, ← ih hquery, withoutBareMarks,
      List.filterMap_cons]
    by_cases hkept : (entry.2.filter fun value => entry.1 != "" || value != "") = []
    · simp only [hkept, if_true, List.map_nil, List.nil_append]
      rfl
    · simp only [if_neg hkept, List.flatMap_cons, writeParts_eq_map hkept]
      rfl

/-- What is read from a query text, written and read again is the same without the marks. -/
private theorem parse_serialize_eq (text : String) : parse (parse text).serialize = (parse text).withoutBareMarks := by
  have hcanonical := canonical_withoutBareMarks text
  have hvalues : ∀ entry ∈ parse text, entry.2 ≠ [] := fun entry hentry => (eq_valuesOf_of_mem hentry).2
  have hampersand : ∀ written ∈ (parse text).flatMap fun entry => writeParts entry.1 entry.2,
      '&' ∉ written.toList := by
    intro written hwritten
    obtain ⟨⟨name, values⟩, hentry, hpart⟩ := List.mem_flatMap.mp hwritten
    obtain ⟨rfl, hne⟩ := eq_valuesOf_of_mem hentry
    obtain ⟨value, hvalue⟩ := List.exists_mem_of_ne_nil _ hne
    exact ampersand_writeParts hne (isName_of_mem_valuesOf hvalue).ampersand
      (fun value hvalue => ampersand_of_mem_valuesOf hvalue) hpart
  have hparts : parts (parse text).serialize = parts (parse text).withoutBareMarks.serialize := by
    rw [parts_serialize hcanonical, flatMap_writeParts_withoutBareMarks hvalues, serialize, parts_join hampersand]
  calc parse (parse text).serialize
      = parse (parse text).withoutBareMarks.serialize := by rw [parse_eq_foldl, hparts, ← parse_eq_foldl]
    _ = (parse text).withoutBareMarks := parse_serialize hcanonical

/-- All parameters survive being written again exactly if no part of the query text is `=` alone; otherwise the empty
values of the empty name are lost, and nothing else is. -/
theorem parse_serialize_parse (text : String) :
    parse (parse text).serialize = (parse text).withoutBareMarks ∧
      (parse (parse text).serialize = parse text ↔ NoBareMark text) := by
  have heq := parse_serialize_eq text
  refine ⟨heq, ?_, fun h => parse_serialize (canonical_parse h)⟩
  intro hsame hmark
  rw [heq] at hsame
  -- the mark gives an empty value to the empty name, which is not among those that are left
  have hvalue : "" ∈ valuesOf "" text := mem_valuesOf.mpr ⟨"=", mem_parts.mpr ⟨hmark, by decide⟩, by decide⟩
  have hfound : (parse text).find? "" = some (valuesOf "" text) := by
    rw [find?_parse, if_neg (List.ne_nil_of_mem hvalue)]
  have hentry := mem_of_find? hfound
  rw [← hsame] at hentry
  obtain ⟨all, -, hvalues, -⟩ := mem_withoutBareMarks.mp hentry
  rw [hvalues] at hvalue
  simpa using (List.mem_filter.mp hvalue).2

/-- The mark alone, and among other values of the empty name. -/
theorem parse_serialize_bareMark :
    parse (parse "=").serialize ≠ parse "=" ∧ parse "=" = [("", [""])] ∧ (parse "=").serialize = "" ∧
      parse "=&a&=x" = [("", ["", "x"]), ("a", [""])] ∧
      parse (parse "=&a&=x").serialize = [("", ["x"]), ("a", [""])] := by
  decide

end Reroute.Query
