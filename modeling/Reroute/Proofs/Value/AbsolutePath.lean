import Mathlib.Logic.Relation
import Reroute.Proofs.Condition.DocumentRoot
import Reroute.Value.Operation

/-!
# Making paths absolute

Segments cancel one another until names are left: an empty one and a dot vanish, two dots go together with the name in
front of them, or alone at the root (`DotSegments.Cancels`).  In whatever order that is done, it ends at the same names,
and these are where the segments lead from the root (`DotSegments.normalForm_iff`).  The absolute form of a path has
these names behind a slash, with single slashes between them; so no scheme can come into being, and the absolute form of
an absolute form is the same (`Operation.makeAbsolute_normal`).
-/

namespace Reroute

/-! ### Segments that cancel -/

namespace DotSegments

open FilePath (enter resolved)

/-- A segment that is there to stay. -/
structure IsName (segment : String) : Prop where
  ne_empty : segment ≠ ""
  ne_dot : segment ≠ "."
  ne_up : segment ≠ ".."

/-- One cancellation: an empty segment or a dot vanishes, two dots and the name in front of them vanish, and two dots
vanish at the root. -/
inductive Cancels : List String → List String → Prop
  | blank {segment : String} (h : segment = "" ∨ segment = ".") (front back : List String) :
      Cancels (front ++ segment :: back) (front ++ back)
  | up {name : String} (h : IsName name) (front back : List String) :
      Cancels (front ++ name :: ".." :: back) (front ++ back)
  | root (back : List String) : Cancels (".." :: back) back

/-- Names that are left of segments by cancellations. -/
structure NormalForm (segments names : List String) : Prop where
  reached : Relation.ReflTransGen Cancels segments names
  isName : ∀ name ∈ names, IsName name

variable {segments names others : List String}

private theorem IsName.enter {name : String} (h : IsName name) (here : List String) :
    enter here name = here ++ [name] := by
  rw [FilePath.enter, if_neg (not_or.mpr ⟨h.ne_empty, h.ne_dot⟩), if_neg h.ne_up]

/-- Names alone lead all the way down. -/
private theorem foldl_enter_of_isName (h : ∀ name ∈ names, IsName name) (here : List String) :
    names.foldl enter here = here ++ names := by
  induction names generalizing here with
  | nil => rw [List.foldl_nil, List.append_nil]
  | cons name names ih =>
    have hnames : ∀ other ∈ names, IsName other := fun other hother => h other (List.mem_cons_of_mem name hother)
    rw [List.foldl_cons, (h name List.mem_cons_self).enter, ih hnames, List.append_assoc, List.singleton_append]

/-- Names stay names, one segment further along. -/
private theorem isName_enter {here : List String} (hhere : ∀ name ∈ here, IsName name) (segment : String) :
    ∀ name ∈ enter here segment, IsName name := by
  intro name hname
  unfold FilePath.enter at hname
  split at hname
  · exact hhere name hname
  rename_i hblank
  split at hname
  · exact hhere name ((List.dropLast_sublist here).subset hname)
  rename_i hup
  obtain hname | hname := List.mem_append.mp hname
  · exact hhere name hname
  · rw [List.mem_singleton.mp hname]
    exact ⟨fun h => hblank (.inl h), fun h => hblank (.inr h), hup⟩

/-- A segment behind names cancels, or is one more of them. -/
private theorem cancels_enter {here : List String} (hhere : ∀ name ∈ here, IsName name) (segment : String)
    (back : List String) : Relation.ReflTransGen Cancels (here ++ segment :: back) (enter here segment ++ back) := by
  unfold FilePath.enter
  split
  · rename_i hblank
    exact .single (.blank hblank here back)
  split
  · rename_i hup
    subst hup
    cases here using List.reverseRecOn with
    | nil => exact .single (.root back)
    | append_singleton front name =>
      have hname := hhere name (by simp)
      simpa using Relation.ReflTransGen.single (Cancels.up hname front back)
  · rw [List.append_assoc, List.singleton_append]

/-- Segments behind names cancel down to where they lead from there. -/
private theorem cancels_foldl_enter {here : List String} (hhere : ∀ name ∈ here, IsName name) (segments : List String) :
    Relation.ReflTransGen Cancels (here ++ segments) (segments.foldl enter here) ∧
      ∀ name ∈ segments.foldl enter here, IsName name := by
  induction segments generalizing here with
  | nil =>
    rw [List.append_nil]
    exact ⟨.refl, hhere⟩
  | cons segment segments ih =>
    obtain ⟨hreached, hnames⟩ := ih (isName_enter hhere segment)
    exact ⟨(cancels_enter hhere segment segments).trans hreached, hnames⟩

/-- A cancellation does not change where segments lead. -/
private theorem Cancels.foldl_enter (h : Cancels segments others) :
    segments.foldl enter [] = others.foldl enter [] := by
  cases h with
  | blank hblank front back =>
    rw [List.foldl_append, List.foldl_cons, List.foldl_append, enter, if_pos hblank]
  | up hname front back =>
    have hup (here : List String) : enter here ".." = here.dropLast := rfl
    rw [List.foldl_append, List.foldl_cons, List.foldl_cons, List.foldl_append, hname.enter, hup,
      List.dropLast_concat]
  | root back => rfl

/-- Cancellation ends at one list of names only, which is where the segments lead from the root. -/
theorem normalForm_iff : NormalForm segments names ↔ names = segments.foldl enter [] := by
  constructor
  · rintro ⟨hreached, hnames⟩
    induction hreached using Relation.ReflTransGen.head_induction_on with
    | refl => rw [foldl_enter_of_isName hnames, List.nil_append]
    | head hcancels _ ih => rw [ih, hcancels.foldl_enter]
  · rintro rfl
    have hnone : ∀ name ∈ ([] : List String), IsName name := fun name hname => nomatch hname
    obtain ⟨hreached, hnames⟩ := cancels_foldl_enter hnone segments
    exact ⟨hreached, hnames⟩

private theorem Cancels.sublist (h : Cancels segments others) : others.Sublist segments := by
  cases h with
  | blank _ front back => exact (List.Sublist.refl front).append (List.sublist_cons_self _ back)
  | up _ front back =>
    exact (List.Sublist.refl front).append ((List.sublist_cons_self _ back).trans (List.sublist_cons_self _ _))
  | root => exact List.sublist_cons_self _ others

/-- The names that are left are segments that were there, in their order. -/
private theorem NormalForm.sublist (h : NormalForm segments names) : names.Sublist segments := by
  obtain ⟨hreached, -⟩ := h
  induction hreached with
  | refl => exact List.Sublist.refl segments
  | tail _ hcancels ih => exact hcancels.sublist.trans ih

/-! ### Names behind a slash -/

/-- Names behind a slash, with single slashes between them and maybe one more at the end of them. -/
def written (names : List String) (slash : Prop) [Decidable slash] : String :=
  "/" ++ Text.join "/" names ++ if slash ∧ names ≠ [] then "/" else ""

private theorem split_slash (front back : String) :
    Text.split '/' (front ++ "/" ++ back) = Text.split '/' front ++ Text.split '/' back :=
  Text.split_append rfl front back

/-- A scheme has an empty segment between others. -/
private theorem not_scheme_of_inner {text : String}
    (h : ∀ segment ∈ (Text.split '/' text).tail.dropLast, segment ≠ "") :
    ¬"://".toList <:+: text.toList := by
  rintro ⟨front, back, htext⟩
  have hparts : text = String.ofList (front ++ [':']) ++ "/" ++ ("" ++ "/" ++ String.ofList back) := by
    rw [← String.toList_inj, ← htext]
    simp
  obtain ⟨first, firsts, hfirst⟩ := List.exists_cons_of_ne_nil (Text.split_ne_nil '/' (String.ofList (front ++ [':'])))
  refine h "" ?_ rfl
  rw [hparts, split_slash, split_slash, Text.split_empty, hfirst, List.cons_append, List.tail_cons,
    List.dropLast_append_of_ne_nil (by simp), List.singleton_append,
    List.dropLast_cons_of_ne_nil (Text.split_ne_nil '/' _)]
  simp

section

variable {slash : Prop} [Decidable slash] (h : ∀ name ∈ names, IsName name ∧ '/' ∉ name.toList)

include h

private theorem split_written :
    Text.split '/' (written names slash) = "" :: names ++ if slash ∨ names = [] then [""] else [] := by
  have hfront (text : String) : "/" ++ text = "" ++ "/" ++ text := by rw [String.empty_append]
  by_cases hnames : names = []
  · subst hnames
    simp only [written, ne_eq, not_true_eq_false, and_false, if_false, or_true, if_true]
    rfl
  have hjoin : Text.split '/' (Text.join "/" names) = names :=
    Text.split_join rfl hnames fun name hname => (h name hname).2
  unfold written
  by_cases hend : slash
  · have hback : "/" ++ Text.join "/" names ++ "/" = "" ++ "/" ++ Text.join "/" names ++ "/" ++ "" := by
      rw [String.append_empty, String.empty_append]
    rw [if_pos ⟨hend, hnames⟩, if_pos (.inl hend), hback, split_slash, split_slash, hjoin, Text.split_empty]
    rfl
  · rw [if_neg fun hboth => hend hboth.1, if_neg (not_or.mpr ⟨hend, hnames⟩), String.append_empty, hfront,
      split_slash, hjoin, Text.split_empty, List.append_nil]
    rfl

/-- No empty segment stands between others. -/
private theorem ne_empty_of_mem_inner {segment : String}
    (hsegment : segment ∈ (Text.split '/' (written names slash)).tail.dropLast) : segment ≠ "" := by
  rw [split_written h, List.cons_append, List.tail_cons] at hsegment
  split at hsegment
  · rw [List.dropLast_concat] at hsegment
    exact (h segment hsegment).1.ne_empty
  · rw [List.append_nil] at hsegment
    exact (h segment ((List.dropLast_sublist names).subset hsegment)).1.ne_empty

private theorem ne_dots_of_mem {segment : String} (hsegment : segment ∈ Text.split '/' (written names slash)) :
    segment ≠ "." ∧ segment ≠ ".." := by
  rw [split_written h] at hsegment
  have hcases : segment = "" ∨ segment ∈ names := by
    obtain hsegment | hsegment := List.mem_append.mp hsegment
    · exact List.mem_cons.mp hsegment
    · split at hsegment
      · exact .inl (List.mem_singleton.mp hsegment)
      · cases hsegment
  obtain rfl | hname := hcases
  · decide
  · exact ⟨(h segment hname).1.ne_dot, (h segment hname).1.ne_up⟩

/-- The slash at the end is seen in the text. -/
private theorem getLast?_written (hnames : names ≠ []) :
    (written names slash).toList.getLast? = some '/' ↔ slash := by
  have hslash : "/".toList = ['/'] := rfl
  constructor
  · intro hlast
    obtain ⟨front, hfront⟩ := Text.exists_eq_append_of_getLast? hslash hlast
    have hsplit := congrArg (Text.split '/') hfront
    by_contra hend
    rw [split_written h, if_neg (not_or.mpr ⟨hend, hnames⟩), List.append_nil, split_slash] at hsplit
    obtain ⟨name, rest, rfl⟩ := List.exists_cons_of_ne_nil hnames
    have hempty : (name :: rest).getLast? = some "" := by
      rw [← List.getLast?_cons_cons, hsplit]
      exact List.getLast?_concat
    exact (h "" (List.mem_of_getLast? hempty)).1.ne_empty rfl
  · intro hend
    rw [written, if_pos ⟨hend, hnames⟩, String.toList_append, hslash, List.getLast?_concat]

/-- The slash at the end is written again where it is read. -/
private theorem written_getLast? :
    written names ((written names slash).toList.getLast? = some '/') = written names slash := by
  have hend : (written names slash).toList.getLast? = some '/' ∧ names ≠ [] ↔ slash ∧ names ≠ [] :=
    and_congr_left fun hnames => getLast?_written h hnames
  rw [written]
  simp only [hend]
  rfl

/-- What is written of names has them for its normal form. -/
private theorem normalForm_written : NormalForm (Text.split '/' (written names slash)) names := by
  have hnames : ∀ name ∈ names, IsName name := fun name hname => (h name hname).1
  rw [normalForm_iff, split_written h, List.foldl_append, List.foldl_cons]
  have hempty (here : List String) : enter here "" = here := rfl
  rw [hempty, foldl_enter_of_isName hnames, List.nil_append]
  split <;> rfl

end

end DotSegments

/-! ### The absolute form of a path -/

namespace Operation

open DotSegments (NormalForm IsName written)

/-- The stack of the segments that survive, read from its bottom. -/
private theorem reduceDots_eq (kept segments : List (List Char)) :
    (reduceDots kept segments).reverse.map String.ofList =
      (segments.map String.ofList).foldl FilePath.enter (kept.reverse.map String.ofList) := by
  fun_induction reduceDots kept segments with
  | case1 kept => rfl
  | case2 kept segment segments hblank ih =>
    have henter : FilePath.enter (kept.reverse.map String.ofList) (String.ofList segment) =
        kept.reverse.map String.ofList := by
      obtain rfl | rfl := hblank <;> rfl
    rw [ih, List.map_cons, List.foldl_cons, henter]
  | case3 kept segments hblank ih =>
    have henter : FilePath.enter (kept.reverse.map String.ofList) (String.ofList ['.', '.']) =
        kept.tail.reverse.map String.ofList := by
      rw [← List.dropLast_reverse, List.map_dropLast]
      rfl
    rw [ih, List.map_cons, List.foldl_cons, henter]
  | case4 kept segment segments hblank hup ih =>
    have hchars {text : String} (h : String.ofList segment = text) : segment = text.toList := by
      rw [← h, String.toList_ofList]
    have hname : DotSegments.IsName (String.ofList segment) :=
      ⟨fun h => hblank (.inl (hchars h)), fun h => hblank (.inr (hchars h)), fun h => hup (hchars h)⟩
    rw [ih, List.map_cons, List.foldl_cons, hname.enter, List.reverse_cons, List.map_append]
    rfl

variable {text : String}

private theorem absolute_of_scheme (h : "://".toList <:+: text.toList) : absolute text = text :=
  if_pos (Text.occursIn_iff.mpr h)

/-- Any other text becomes the names at which it ends. -/
private theorem absolute_of_not_scheme (h : ¬"://".toList <:+: text.toList) :
    absolute text = written (FilePath.resolved text) (text.toList.getLast? = some '/') := by
  have hscheme : Text.occursIn [':', '/', '/'] text.toList = false :=
    Bool.eq_false_iff.mpr fun hoccurs => h (Text.occursIn_iff.mp hoccurs)
  have hnames : (reduceDots [] (Text.splitChars '/' text.toList)).reverse.map String.ofList = FilePath.resolved text :=
    reduceDots_eq [] _
  simp only [absolute, hscheme, Bool.false_eq_true, if_false, written, ← hnames]
  generalize (reduceDots [] (Text.splitChars '/' text.toList)).reverse = kept
  have hjoin : Text.join "/" (kept.map String.ofList) = String.ofList (Text.joinChars ['/'] kept) := by
    rw [Text.join, List.map_map, show String.toList ∘ String.ofList = id from funext fun _ => String.toList_ofList,
      List.map_id]
    rfl
  have hnil : kept.map String.ofList ≠ [] ↔ kept ≠ [] := not_congr List.map_eq_nil_iff
  simp only [hjoin, hnil, ← String.toList_inj]
  split <;> simp

/-- The names at which a path ends are segments of it. -/
private theorem isName_of_mem_resolved {name : String} (h : name ∈ FilePath.resolved text) :
    IsName name ∧ '/' ∉ name.toList := by
  have hnormal : NormalForm (Text.split '/' text) (FilePath.resolved text) := DotSegments.normalForm_iff.mpr rfl
  exact ⟨hnormal.isName name h, Text.not_mem_of_mem_split (hnormal.sublist.subset h)⟩

/-- A text with a scheme stays as it is.  Any other text becomes a slash and the names that are left when its segments
have cancelled one another, with single slashes between them, and with one at the end if there was one and a name is
left; so it begins with a slash, and no dots stand among its segments and no empty one between others.  The absolute
form of an absolute form is the same. -/
theorem makeAbsolute_normal (text : String) :
    let absolute := Operation.apply .makeAbsolute
    let names := FilePath.resolved text
    (∀ others, NormalForm (Text.split '/' text) others ↔ others = names) ∧
      ("://".toList <:+: text.toList → absolute text = text) ∧
      (¬"://".toList <:+: text.toList →
        absolute text =
            "/" ++ Text.join "/" names ++ (if text.toList.getLast? = some '/' ∧ names ≠ [] then "/" else "") ∧
          (absolute text).toList.head? = some '/' ∧
          (∀ segment ∈ Text.split '/' (absolute text), segment ≠ "." ∧ segment ≠ "..") ∧
          ∀ segment ∈ (Text.split '/' (absolute text)).tail.dropLast, segment ≠ "") ∧
      absolute (absolute text) = absolute text := by
  intro absolute names
  have hnames : ∀ name ∈ names, IsName name ∧ '/' ∉ name.toList := fun name => isName_of_mem_resolved
  have hwritten : ¬"://".toList <:+: text.toList → absolute text = written names (text.toList.getLast? = some '/') :=
    absolute_of_not_scheme
  refine ⟨fun others => DotSegments.normalForm_iff, absolute_of_scheme, fun h => ⟨hwritten h, ?_, ?_, ?_⟩, ?_⟩
  · rw [hwritten h, written, String.append_assoc, String.toList_append]
    rfl
  · rw [hwritten h]
    exact fun segment => DotSegments.ne_dots_of_mem hnames
  · rw [hwritten h]
    exact fun segment => DotSegments.ne_empty_of_mem_inner hnames
  · by_cases h : "://".toList <:+: text.toList
    · rw [show absolute text = text from absolute_of_scheme h]
      exact absolute_of_scheme h
    · have hagain : ¬"://".toList <:+: (absolute text).toList := by
        rw [hwritten h]
        exact DotSegments.not_scheme_of_inner fun segment => DotSegments.ne_empty_of_mem_inner hnames
      have hsame : FilePath.resolved (absolute text) = names := by
        rw [hwritten h]
        exact (DotSegments.normalForm_iff.mp (DotSegments.normalForm_written hnames)).symm
      have htwice : absolute (absolute text) = written names ((absolute text).toList.getLast? = some '/') := by
        rw [← hsame]
        exact absolute_of_not_scheme hagain
      rw [htwice, hwritten h, DotSegments.written_getLast? hnames]

/-- A step up beyond the root is lost, and one from a name takes the name away. -/
example : Operation.makeAbsolute.apply "../a/./b/..//c/" = "/a/c/" := by decide

end Operation

end Reroute
