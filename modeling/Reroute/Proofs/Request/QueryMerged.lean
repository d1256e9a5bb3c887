import Mathlib.Data.List.DropRight
import Mathlib.Data.List.Forall2
import Mathlib.Data.Set.Finite.Basic
import Reroute.Proofs.Request.QueryText
import Reroute.Rule.Evaluate

/-!
# Putting query texts behind one another

Two tables of parameters are merged by putting the values of the second behind those of the first, and the names that
only the second has behind all others.  A separator between two query texts merges what is read from them
(`parse_append`), and separators at the ends of a text are not read (`parse_trimStart`, `parse_trimEnd`).  So to append
to the query text is to merge, and nothing that the text says is lost, changed or moved (`Request.append_merges`).

A request may hold parameters that its query text does not say, since a parameter that is written alone is stored as it
is.  What the text does not say is lost with the next append (`Request.append_drops_unsaid`).
-/

namespace Reroute

namespace Query

variable {query other middle larger : Query} {name value : String} {values : List String}

/-! ### Merging tables -/

private theorem find?_eq (name : String) (query : Query) : query.find? name = Table.find? name query := rfl

/-- The names of the first table with the values of the second behind their own, and then the other names of the
second. -/
def merge (query other : Query) : Query :=
  (query.map fun entry => (entry.1, entry.2 ++ (other.find? entry.1).getD [])) ++
    other.filter fun entry => entry.1 ∉ query.map Prod.fst

private theorem names_merge (query other : Query) :
    (query.merge other).map Prod.fst =
      query.map Prod.fst ++ (other.map Prod.fst).filter (· ∉ query.map Prod.fst) := by
  simp only [merge, List.map_append, List.map_map, List.filter_map]
  rfl

private theorem nodup_merge (h : (query.map Prod.fst).Nodup) (h' : (other.map Prod.fst).Nodup) :
    ((query.merge other).map Prod.fst).Nodup := by
  rw [names_merge]
  refine List.nodup_append.mpr ⟨h, h'.sublist List.filter_sublist, ?_⟩
  rintro name hname _ hother rfl
  simpa [hname] using (List.mem_filter.mp hother).2

private theorem find?_merge (name : String) (query other : Query) :
    (query.merge other).find? name =
      ((query.find? name).map (· ++ (other.find? name).getD [])).or (other.find? name) := by
  have hfront := Table.find?_map (fun key values => values ++ (other.find? key).getD []) name query
  simp only [find?_eq, merge, Table.find?_append] at hfront ⊢
  rw [hfront]
  cases hfound : Table.find? name query with
  | some values => rfl
  | none =>
    have hnew : name ∉ query.map Prod.fst := Table.find?_eq_none.mp hfound
    exact Table.find?_filter (fun key => decide (key ∉ query.map Prod.fst)) (decide_eq_true hnew) other

private theorem merge_nil (query : Query) : query.merge [] = query := by
  simp [merge, find?]

private theorem nil_merge (query : Query) : merge [] query = query := by
  simp [merge]

/-- A name that is put behind all others is new. -/
private theorem merge_singleton (hname : name ∉ query.map Prod.fst) (values : List String) :
    query.merge [(name, values)] = query ++ [(name, values)] := by
  have hold : ∀ entry ∈ query, (entry.1, entry.2 ++ (find? entry.1 [(name, values)]).getD []) = entry := by
    intro entry hentry
    have hne : name ≠ entry.1 := fun heq => hname (heq ▸ List.mem_map_of_mem hentry)
    simp [find?, hne]
  rw [merge, List.map_congr_left hold, List.map_id', List.filter_cons_of_pos (by simpa using hname), List.filter_nil]

/-- A value that is added behind a merge is added to the second table. -/
private theorem add_merge (h : (query.map Prod.fst).Nodup) (h' : (other.map Prod.fst).Nodup) (name value : String) :
    (query.merge other).add name value = query.merge (other.add name value) := by
  refine Table.eq_of_find?_eq ((writes_add name value).nodup (nodup_merge h h')) ?_ ?_
  · rw [(writes_add name value).names, names_merge, names_merge, (writes_add name value).names]
    by_cases hquery : name ∈ query.map Prod.fst
    · rw [if_pos (List.mem_append_left _ hquery)]
      split
      · rfl
      · rw [List.filter_append, List.filter_cons_of_neg (by simpa using hquery), List.filter_nil, List.append_nil]
    · have hmem : name ∈ query.map Prod.fst ++ (other.map Prod.fst).filter (· ∉ query.map Prod.fst) ↔
          name ∈ other.map Prod.fst := by simp [hquery]
      simp only [hmem]
      split
      · rfl
      · rw [List.filter_append, List.filter_cons_of_pos (by simpa using hquery), List.filter_nil, List.append_assoc]
  · intro key
    have hadd := (writes_add name value).find? key
    simp only [← find?_eq] at hadd ⊢
    simp only [hadd, find?_merge]
    by_cases hkey : name = key
    · subst hkey
      cases query.find? name <;> simp
    · simp only [if_neg hkey]

/-! ### Query texts behind one another -/

/-- A separator between two query texts merges what is read from them. -/
theorem parse_append (front back : String) : parse (front ++ "&" ++ back) = (parse front).merge (parse back) := by
  have hparts : parts (front ++ "&" ++ back) = parts front ++ parts back := by
    rw [parts, Text.split_append rfl, List.filter_append, parts, parts]
  -- the parts of the second text are read behind those of the first, and each goes to the second table
  have hread : ∀ (texts : List String) (other : Query), (other.map Prod.fst).Nodup →
      texts.foldl (fun query text => query.add (part text).1 (part text).2) ((parse front).merge other) =
        (parse front).merge (texts.foldl (fun query text => query.add (part text).1 (part text).2) other) := by
    intro texts
    induction texts with
    | nil => exact fun _ _ => rfl
    | cons text texts ih =>
      intro other hother
      rw [List.foldl_cons, List.foldl_cons, add_merge (nodup_parse front) hother]
      exact ih _ ((writes_add _ _).nodup hother)
  have hback := hread (parts back) [] List.nodup_nil
  rw [merge_nil] at hback
  rw [parse_eq_foldl, hparts, List.foldl_append, ← parse_eq_foldl, hback, ← parse_eq_foldl]

private theorem parse_empty : parse "" = [] := by decide

/-- Separators in front of a text are not read. -/
theorem parse_trimStart (text : String) : parse (Text.trimStartBy (· == '&') text) = parse text := by
  suffices hchars : ∀ cs : List Char, parse (String.ofList (cs.dropWhile (· == '&'))) = parse (String.ofList cs) by
    exact (hchars text.toList).trans (congrArg parse String.ofList_toList)
  intro cs
  induction cs with
  | nil => rfl
  | cons c cs ih =>
    by_cases hc : c = '&'
    · have happend : String.ofList (c :: cs) = "" ++ "&" ++ String.ofList cs := by
        rw [← String.toList_inj]
        simp [hc]
      rw [List.dropWhile_cons_of_pos (by simp [hc]), ih, happend, parse_append, parse_empty, nil_merge]
    · rw [List.dropWhile_cons_of_neg (by simpa using hc)]

/-- Separators at the end of a text are not read. -/
theorem parse_trimEnd (text : String) : parse (Text.trimEndBy (· == '&') text) = parse text := by
  suffices hchars : ∀ cs : List Char, parse (String.ofList (cs.rdropWhile (· == '&'))) = parse (String.ofList cs) by
    exact (hchars text.toList).trans (congrArg parse String.ofList_toList)
  intro cs
  induction cs using List.reverseRecOn with
  | nil => rfl
  | append_singleton cs c ih =>
    by_cases hc : c = '&'
    · have happend : String.ofList (cs ++ [c]) = String.ofList cs ++ "&" ++ "" := by
        rw [← String.toList_inj]
        simp [hc]
      rw [List.rdropWhile_concat_pos _ _ _ (by simp [hc]), ih, happend, parse_append, parse_empty, merge_nil]
    · rw [List.rdropWhile_concat_neg _ _ _ (by simpa using hc)]

/-! ### New names -/

/-- There is always another name that a query text can hold. -/
private theorem exists_freshName (names : List String) : ∃ name ∉ names, IsName name ∧ name ≠ "" := by
  let word (n : Nat) : String := String.ofList (List.replicate (n + 1) 'x')
  have hword (n : Nat) : (word n).toList = List.replicate (n + 1) 'x' := String.toList_ofList
  have hinj : Function.Injective word := by
    intro n m heq
    have hlength := congrArg (fun text => text.toList.length) heq
    simpa only [hword, List.length_replicate, Nat.add_right_cancel_iff] using hlength
  obtain ⟨_, ⟨n, rfl⟩, hfresh⟩ := (Set.infinite_range_of_injective hinj).exists_notMem_finset names.toFinset
  refine ⟨word n, fun hmem => hfresh (List.mem_toFinset.mpr hmem), ⟨?_, ?_, ?_⟩, ?_⟩
  · rw [Text.lowerAscii, hword, List.map_replicate]
    rfl
  · rw [hword]
    simp
  · rw [hword]
    simp
  · rw [ne_eq, ← String.toList_eq_nil_iff, hword]
    exact List.cons_ne_nil _ _

/-- A name alone is read as a parameter with an empty value. -/
private theorem parse_name (hname : IsName name) (hne : name ≠ "") : parse name = [(name, [""])] := by
  have hcanonical : Canonical [(name, [""])] := by
    refine ⟨List.nodup_singleton name, fun entry hentry => ?_⟩
    obtain rfl := List.mem_singleton.mp hentry
    refine ⟨hname, fun value hvalue => ?_, List.cons_ne_nil _ _⟩
    obtain rfl := List.mem_singleton.mp hvalue
    exact ⟨by simp, fun h => absurd h hne⟩
  have hserialize : serialize [(name, [""])] = name := by simp [serialize, writeParts, Text.join, Text.joinChars]
  rw [← hserialize, parse_serialize hcanonical, hserialize]

/-! ### Nothing is lost -/

/-- Every parameter of the first table stands at its place in the second, with its values in front of others. -/
def Extends (query larger : Query) : Prop :=
  ∃ front added, larger = front ++ added ∧ List.Forall₂ (fun old new => old.1 = new.1 ∧ old.2 <+: new.2) query front

/-- Position by position: the same name, with values behind the old ones. -/
private theorem extends_iff :
    query.Extends larger ↔ ∀ (position : Nat) name values, query[position]? = some (name, values) →
      ∃ added, larger[position]? = some (name, values ++ added) := by
  constructor
  · rintro ⟨front, added, rfl, hfront⟩ position name values hentry
    obtain ⟨hlt, hget⟩ := List.getElem?_eq_some_iff.mp hentry
    have hlt' : position < front.length := hfront.length_eq ▸ hlt
    obtain ⟨hname, more, hmore⟩ := hfront.get hlt hlt'
    refine ⟨more, ?_⟩
    rw [List.getElem?_append_left hlt', List.getElem?_eq_getElem hlt']
    simp only [List.get_eq_getElem, hget] at hname hmore
    rw [hname, hmore]
  · intro h
    induction query generalizing larger with
    | nil => exact ⟨[], larger, rfl, .nil⟩
    | cons entry query ih =>
      obtain ⟨more, hhead⟩ := h 0 entry.1 entry.2 rfl
      cases larger with
      | nil => cases hhead
      | cons first larger =>
        obtain ⟨front, added, rfl, hfront⟩ := @ih larger fun position => h (position + 1)
        cases hhead
        exact ⟨_ :: front, added, rfl, .cons ⟨rfl, List.prefix_append _ _⟩ hfront⟩

private theorem Extends.refl (query : Query) : query.Extends query :=
  extends_iff.mpr fun _ _ _ hentry => ⟨[], by rwa [List.append_nil]⟩

private theorem Extends.trans (h : query.Extends middle) (h' : middle.Extends larger) : query.Extends larger := by
  rw [extends_iff] at h h' ⊢
  intro position name values hentry
  obtain ⟨added, hmiddle⟩ := h position name values hentry
  obtain ⟨more, hlarger⟩ := h' position name _ hmiddle
  exact ⟨added ++ more, by rwa [← List.append_assoc]⟩

/-- A name that is not in the smaller table is not needed at the end of the larger one. -/
private theorem Extends.of_append (hname : name ∉ query.map Prod.fst) (h : query.Extends (larger ++ [(name, values)])) :
    query.Extends larger := by
  rw [extends_iff] at h ⊢
  intro position key old hentry
  obtain ⟨added, hlarger⟩ := h position key old hentry
  obtain ⟨hlt, hget⟩ := List.getElem?_eq_some_iff.mp hlarger
  have hne : key ≠ name := by
    rintro rfl
    exact hname (List.mem_map_of_mem (List.mem_of_getElem? hentry))
  refine ⟨added, ?_⟩
  rw [← hlarger, List.getElem?_append_left]
  by_contra hge
  rw [List.length_append, List.length_singleton] at hlt
  rw [List.getElem_append_right (Nat.le_of_not_lt hge)] at hget
  simp only [List.getElem_singleton, Prod.mk.injEq] at hget
  exact hne hget.1.symm

private theorem extends_merge (query other : Query) : query.Extends (query.merge other) := by
  refine ⟨_, _, rfl, List.forall₂_map_right_iff.mpr (List.forall₂_same.mpr fun entry _ => ⟨rfl, ?_⟩)⟩
  exact List.prefix_append _ _

end Query

namespace Request

open Reroute.Query (parse)

/-! ### Appending to the query text -/

private theorem trimStart_eq_empty {text : String} :
    Text.trimStartBy (· == '&') text = "" ↔ ∀ c ∈ text.toList, c = '&' := by
  rw [Text.trimStartBy, String.ofList_eq_empty_iff, List.dropWhile_eq_nil_iff]
  simp only [beq_iff_eq]

private theorem appendQuery?_eq_none {query text : String} :
    appendQuery? query text = none ↔ ∀ c ∈ text.toList, c = '&' := by
  rw [← trimStart_eq_empty, appendQuery?]
  split
  · rename_i hnothing
    simp [hnothing]
  · rename_i hsomething
    simp [hsomething]

private theorem parse_appendQuery? {query text joined : String} (h : appendQuery? query text = some joined) :
    parse joined = (parse query).merge (parse text) := by
  unfold appendQuery? at h
  obtain ⟨-, h⟩ := Option.ite_none_left_eq_some.mp h
  rw [← Option.some.inj h, ← Query.parse_trimEnd query, ← Query.parse_trimStart text]
  split
  · rename_i hcurrent
    rw [hcurrent, Query.parse_empty, Query.nil_merge]
  · exact Query.parse_append _ _

/-- What an append does to the query: it is merged with what is read from the text, or the whole request stays. -/
private theorem append_queryText (request : Request) (text : String) :
    ((∃ c ∈ text.toList, c ≠ '&') ∧
        (request.append .queryText text).query = (parse request.queryText).merge (parse text) ∧
        parse (request.append .queryText text).queryText = (parse request.queryText).merge (parse text)) ∨
      ((∀ c ∈ text.toList, c = '&') ∧ request.append .queryText text = request ∧
        (parse request.queryText).merge (parse text) = parse request.queryText) := by
  simp only [append]
  cases hjoined : appendQuery? request.queryText text with
  | some joined =>
    have hsomething : ¬∀ c ∈ text.toList, c = '&' := by
      rw [← appendQuery?_eq_none, hjoined]
      exact Option.some_ne_none joined
    push Not at hsomething
    exact .inl ⟨hsomething, parse_appendQuery? hjoined, parse_appendQuery? hjoined⟩
  | none =>
    have hnothing : ∀ c ∈ text.toList, c = '&' := appendQuery?_eq_none.mp hjoined
    refine .inr ⟨hnothing, rfl, ?_⟩
    rw [← Query.parse_trimStart text, trimStart_eq_empty.mpr hnothing, Query.parse_empty, Query.merge_nil]

/-- All parameters survive every append exactly if they are among those that are read from the query text. -/
private theorem extends_append_iff (request : Request) :
    (∀ text, request.query.Extends (request.append .queryText text).query) ↔
      request.query.Extends (parse request.queryText) := by
  constructor
  · intro h
    obtain ⟨name, hnew, hname, hne⟩ :=
      Query.exists_freshName (request.query.map Prod.fst ++ (parse request.queryText).map Prod.fst)
    rw [List.mem_append, not_or] at hnew
    obtain ⟨-, hquery, -⟩ | ⟨hmarks, -⟩ := append_queryText request name
    · have hextends := h name
      rw [hquery, Query.parse_name hname hne, Query.merge_singleton hnew.2] at hextends
      exact hextends.of_append hnew.1
    · obtain ⟨c, hc⟩ := List.exists_mem_of_ne_nil name.toList (mt String.toList_eq_nil_iff.mp hne)
      exact absurd (hmarks c hc ▸ hc) hname.ampersand
  · intro h text
    obtain ⟨-, hquery, -⟩ | ⟨-, hsame, -⟩ := append_queryText request text
    · rw [hquery]
      exact h.trans (Query.extends_merge _ _)
    · rw [hsame]
      exact .refl _

/-- An append to the query text merges what the text says with what is read from the value: every parameter that the
text says keeps its place, with its values in front of those that are appended, and new ones go behind all others.  The
parameters of the request are then the merged ones exactly if something other than separators was appended or the text
said them before; an append of nothing but separators leaves the whole request as it is.  All parameters of the request
survive every append, at their places and with their values in front, exactly if they stand so in what the text says. -/
theorem append_merges :
    (∀ front back : String, parse (front ++ "&" ++ back) = (parse front).merge (parse back)) ∧
      ∀ (env : Env) (request : Request) (scratch : Scratch),
        let appended (value : Value) := (Action.perform env (.append .queryText value) request scratch).request
        (∀ value,
          let text := value.read request scratch
          let merged := (parse request.queryText).merge (parse text)
          parse (appended value).queryText = merged ∧ (parse request.queryText).Extends merged ∧
            ((appended value).query = merged ↔
              (∃ c ∈ text.toList, c ≠ '&') ∨ request.query = parse request.queryText) ∧
            ((∀ c ∈ text.toList, c = '&') → appended value = request)) ∧
          ((∀ value, request.query.Extends (appended value).query) ↔
            request.query.Extends (parse request.queryText)) := by
  refine ⟨Query.parse_append, fun env request scratch => ?_⟩
  intro appended
  have happended (value : Value) : appended value = request.append .queryText (value.read request scratch) := by
    simp only [appended, Action.perform, Action.reportOutcome]
  refine ⟨fun value => ?_, ?_⟩
  · intro text merged
    rw [happended value]
    obtain ⟨hsomething, hquery, hparse⟩ | ⟨hnothing, hsame, hmerged⟩ := append_queryText request text
    · refine ⟨hparse, Query.extends_merge _ _, iff_of_true hquery (.inl hsomething), fun hnothing => ?_⟩
      obtain ⟨c, hc, hne⟩ := hsomething
      exact absurd (hnothing c hc) hne
    · have hnotsomething : ¬∃ c ∈ text.toList, c ≠ '&' := fun ⟨c, hc, hne⟩ => hne (hnothing c hc)
      rw [hsame, or_iff_right hnotsomething]
      simp only [merged, hmerged, iff_self]
      exact ⟨trivial, .refl _, trivial, fun _ => trivial⟩
  · rw [← extends_append_iff]
    refine ⟨fun h text => ?_, fun h value => happended value ▸ h _⟩
    have hliteral := h (.literal text)
    rwa [happended] at hliteral

theorem append_merges_rewritten :
    let env : Env := ⟨.execute, "/www", .discard, fun _ => .ok .file⟩
    let request := (ofUrl "/p?a=1&&B=2&").replace (.parameter "b") "3"
    (∃ c ∈ "&&A=4&c".toList, c ≠ '&') ∧
      (Action.perform env (.append .queryText (.literal "&&A=4&c")) request .start).request.query =
        [("a", ["1", "4"]), ("b", ["3"]), ("c", [""])] ∧
      (∀ c ∈ "&&".toList, c = '&') ∧
      (Action.perform env (.append .queryText (.literal "&&")) request .start).request = request := by
  intro env request
  have hsomething : ∃ c ∈ "&&A=4&c".toList, c ≠ '&' := ⟨'A', by decide, by decide⟩
  have hnothing : ∀ c ∈ "&&".toList, c = '&' := by simp
  obtain ⟨hmerges, -⟩ := append_merges.2 env request .start
  obtain ⟨-, -, hquery, -⟩ := hmerges (.literal "&&A=4&c")
  obtain ⟨-, -, -, hsame⟩ := hmerges (.literal "&&")
  exact ⟨hsomething, (hquery.mpr (.inl hsomething)).trans (by decide), hnothing, hsame hnothing⟩

/-- The text does not say the empty value of the empty name, and it says two parameters where one was stored: an append
of nothing leaves both requests with other parameters than the merged ones, and an append of something loses a parameter
of the first and a value of the second. -/
theorem append_drops_unsaid :
    let env : Env := ⟨.execute, "/www", .discard, fun _ => .ok .file⟩
    let replaced (url value : String) : Request :=
      (Action.perform env (.replace (.parameter "b") (.literal value)) (ofUrl url) .start).request
    let appended (request : Request) (text : String) : Request :=
      (Action.perform env (.append .queryText (.literal text)) request .start).request
    let marked := replaced "/p?=" "3"
    let joined := replaced "/p" "3&d=4"
    (marked.query = [("", [""]), ("b", ["3"])] ∧ marked.queryText = "&b=3" ∧
        (appended marked "&").query ≠ (parse marked.queryText).merge (parse "&") ∧
        (appended marked "c=1").query = [("b", ["3"]), ("c", ["1"])] ∧
        ¬marked.query.Extends (appended marked "c=1").query) ∧
      joined.query = [("b", ["3&d=4"])] ∧ joined.queryText = "b=3&d=4" ∧
        (appended joined "&").query ≠ (parse joined.queryText).merge (parse "&") ∧
        (appended joined "c=1").query = [("b", ["3"]), ("d", ["4"]), ("c", ["1"])] ∧
        ¬joined.query.Extends (appended joined "c=1").query := by
  intro env replaced appended marked joined
  have hmarked : (appended marked "c=1").query = [("b", ["3"]), ("c", ["1"])] := by decide
  have hjoined : (appended joined "c=1").query = [("b", ["3"]), ("d", ["4"]), ("c", ["1"])] := by decide
  refine ⟨⟨by decide, by decide, by decide, hmarked, fun h => ?_⟩,
    by decide, by decide, by decide, hjoined, fun h => ?_⟩
  · rw [hmarked, Query.extends_iff] at h
    obtain ⟨added, hentry⟩ := h 0 "" [""] rfl
    simp at hentry
  · rw [hjoined, Query.extends_iff] at h
    obtain ⟨added, hentry⟩ := h 0 "b" ["3&d=4"] rfl
    simp at hentry
end Request

end Reroute
