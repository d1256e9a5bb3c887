import Reroute.Text.Basic

/-!
# Splitting, joining and cutting texts

Splitting at a character and joining with it undo each other: always in one order, and in the other on texts that
do not hold the character.  Cutting finds the one place of a first occurrence.  Neither small letters nor trimming
bring a separator into a text, and small letters move neither separators nor white space.
-/

namespace Reroute.Text

/-! ### Splitting and joining -/

private theorem splitChars_eq_splitOn (sep : Char) (text : List Char) : splitChars sep text = text.splitOn sep := by
  induction text with
  | nil => rfl
  | cons c text ih =>
    rw [splitChars, List.splitOn_cons_eq_if_modifyHead, ih]
    simp only [beq_iff_eq]
    split
    · rfl
    · cases hruns : text.splitOn sep with
      | nil => exact absurd hruns (List.splitOn_ne_nil sep text)
      | cons run runs => rfl

private theorem joinChars_eq_intercalate (sep : List Char) (runs : List (List Char)) :
    joinChars sep runs = sep.intercalate runs := by
  induction runs with
  | nil => rfl
  | cons run runs ih =>
    cases runs with
    | nil => simp [joinChars]
    | cons next runs => rw [joinChars, ih, List.intercalate_cons_cons]; simp

variable {sep : Char} {between : String}

theorem toList_join (hbetween : between.toList = [sep]) (texts : List String) :
    (join between texts).toList = [sep].intercalate (texts.map String.toList) := by
  rw [join, hbetween, joinChars_eq_intercalate, String.toList_ofList]

theorem split_ne_nil (sep : Char) (text : String) : split sep text ≠ [] := by
  rw [split, splitChars_eq_splitOn]
  simp [List.splitOn_ne_nil]

/-- What was split is joined again. -/
theorem join_split (hbetween : between.toList = [sep]) (text : String) : join between (split sep text) = text := by
  rw [← String.toList_inj, toList_join hbetween, split, splitChars_eq_splitOn, List.map_map]
  simp [Function.comp_def]

/-- What was joined is split again, if the separator stands in none of the texts. -/
theorem split_join (hbetween : between.toList = [sep]) {texts : List String} (hne : texts ≠ [])
    (hsep : ∀ text ∈ texts, sep ∉ text.toList) : split sep (join between texts) = texts := by
  have hruns : ∀ run ∈ texts.map String.toList, sep ∉ run := by simpa using hsep
  rw [split, splitChars_eq_splitOn, toList_join hbetween, List.splitOn_intercalate sep hruns (by simpa using hne),
    List.map_map]
  simp [Function.comp_def]

/-- A separator between two texts splits them from each other. -/
theorem split_append (hbetween : between.toList = [sep]) (front back : String) :
    split sep (front ++ between ++ back) = split sep front ++ split sep back := by
  simp only [split, splitChars_eq_splitOn, String.toList_append, hbetween, List.append_assoc, List.singleton_append,
    List.splitOn_append_cons_self, List.map_append]

theorem split_empty (sep : Char) : split sep "" = [""] := rfl

/-- Texts that each end with the separator, which stands nowhere else in them, are split from each other. -/
theorem split_join_ended (hbetween : between.toList = [sep]) {texts : List String}
    (hsep : ∀ text ∈ texts, sep ∉ text.toList) :
    split sep (String.join (texts.map (· ++ between))) = texts ++ [""] := by
  induction texts with
  | nil => rfl
  | cons text texts ih =>
    obtain ⟨htext, htexts⟩ := List.forall_mem_cons.mp hsep
    have hfront : split sep text = [text] := by
      simpa [join, joinChars] using split_join hbetween (List.cons_ne_nil text []) (by simpa using htext)
    rw [List.map_cons, String.join_cons, split_append hbetween, hfront, ih htexts, List.singleton_append,
      List.cons_append]

/-- A text that ends with the separator has nothing behind it. -/
theorem exists_eq_append_of_getLast? (hbetween : between.toList = [sep]) {text : String}
    (h : text.toList.getLast? = some sep) : ∃ front, text = front ++ between ++ "" := by
  obtain ⟨front, hfront⟩ := List.getLast?_eq_some_iff.mp h
  refine ⟨String.ofList front, ?_⟩
  rw [← String.toList_inj, hfront, String.append_empty, String.toList_append, String.toList_ofList, hbetween]

/-- A character of joined texts is the separator or stands in one of the texts. -/
theorem mem_join {c : Char} (hbetween : between.toList = [sep]) {texts : List String}
    (h : c ∈ (join between texts).toList) : c = sep ∨ ∃ text ∈ texts, c ∈ text.toList := by
  rw [toList_join hbetween] at h
  induction texts with
  | nil => simp at h
  | cons text texts ih =>
    cases texts with
    | nil => exact .inr ⟨text, by simp, by simpa using h⟩
    | cons next texts =>
      rw [List.map_cons, List.map_cons, List.intercalate_cons_cons, List.mem_append, List.mem_append,
        List.mem_singleton] at h
      obtain (h | h) | h := h
      · exact .inr ⟨text, by simp, h⟩
      · exact .inl h
      · obtain hsep | ⟨text, htext, hmem⟩ := ih h
        · exact .inl hsep
        · exact .inr ⟨text, List.mem_cons_of_mem _ htext, hmem⟩

theorem mem_join_of_mem {c : Char} (between : String) {texts : List String} {text : String} (htext : text ∈ texts)
    (h : c ∈ text.toList) : c ∈ (join between texts).toList := by
  rw [join, joinChars_eq_intercalate, String.toList_ofList]
  induction texts with
  | nil => simp at htext
  | cons first texts ih =>
    cases texts with
    | nil => simp_all
    | cons next texts =>
      rw [List.map_cons, List.map_cons, List.intercalate_cons_cons, List.mem_append]
      obtain rfl | htext := List.mem_cons.mp htext
      · exact .inl (List.mem_append_left _ h)
      · exact .inr (ih htext)

/-- The separator stands in no part. -/
theorem not_mem_of_mem_split {text part : String} (h : part ∈ split sep text) : sep ∉ part.toList := by
  obtain ⟨run, hrun, rfl⟩ := List.mem_map.mp h
  rw [String.toList_ofList]
  clear h
  generalize text.toList = chars at hrun
  induction chars generalizing run with
  | nil => simp_all [splitChars]
  | cons c chars ih =>
    rw [splitChars] at hrun
    split at hrun
    · obtain rfl | hrun := List.mem_cons.mp hrun
      · exact List.not_mem_nil
      · exact ih run hrun
    · rename_i hc
      cases hruns : splitChars sep chars with
      | nil => simp_all [Ne.symm hc]
      | cons first runs =>
        simp only [hruns, List.mem_cons] at hrun ih
        obtain rfl | hrun := hrun
        · simp [Ne.symm hc, ih first (.inl rfl)]
        · exact ih run (.inr hrun)

/-- The characters of a part stand in the text. -/
theorem mem_of_mem_split {c : Char} {text part : String} (hpart : part ∈ split sep text) (h : c ∈ part.toList) :
    c ∈ text.toList := by
  have hjoin := mem_join_of_mem (String.singleton sep) hpart h
  rwa [join_split (String.toList_singleton sep)] at hjoin

/-! ### Cutting -/

theorem cutChars?_eq_some {text head rest : List Char} :
    cutChars? sep text = some (head, rest) ↔ text = head ++ sep :: rest ∧ sep ∉ head := by
  induction text generalizing head rest with
  | nil => simp [cutChars?]
  | cons c text ih =>
    simp only [cutChars?]
    split
    · rename_i hc
      subst hc
      cases head with
      | nil => simp
      | cons d head => simp +contextual
    · rename_i hc
      constructor
      · intro h
        obtain ⟨⟨front, back⟩, hcut, heq⟩ := Option.map_eq_some_iff.mp h
        obtain ⟨rfl, hmem⟩ := ih.mp hcut
        cases heq
        exact ⟨rfl, by simp [hmem, Ne.symm hc]⟩
      · rintro ⟨heq, hmem⟩
        cases head with
        | nil => exact absurd (List.cons.inj heq).1 hc
        | cons d head =>
          obtain ⟨rfl, htext⟩ := List.cons.inj heq
          simp [ih.mpr ⟨htext, fun h => hmem (List.mem_cons_of_mem _ h)⟩]

private theorem cutChars?_eq_none {text : List Char} : cutChars? sep text = none ↔ sep ∉ text := by
  induction text with
  | nil => simp [cutChars?]
  | cons c text ih =>
    simp only [cutChars?]
    split
    · simp_all
    · rename_i hc
      simp [ih, Ne.symm hc]

theorem cut?_eq_some {text head rest : String} :
    cut? sep text = some (head, rest) ↔ text.toList = head.toList ++ sep :: rest.toList ∧ sep ∉ head.toList := by
  rw [← cutChars?_eq_some, cut?]
  constructor
  · intro h
    obtain ⟨cut, hcut, heq⟩ := Option.map_eq_some_iff.mp h
    cases heq
    simpa using hcut
  · intro h
    simp [h]

theorem cut?_eq_none {text : String} : cut? sep text = none ↔ sep ∉ text.toList := by
  rw [cut?, Option.map_eq_none_iff, cutChars?_eq_none]

/-! ### Occurring -/

theorem occursIn_iff {part cs : List Char} : occursIn part cs = true ↔ part <:+: cs := by
  induction cs with
  | nil => rw [occursIn, List.isEmpty_iff, List.infix_nil]
  | cons c cs ih => rw [occursIn, Bool.or_eq_true, List.isPrefixOf_iff_prefix, ih, List.infix_cons_iff]

/-! ### Letter case -/

@[simp] theorem lowerAscii_ofList_map_toLower (cs : List Char) :
    lowerAscii (String.ofList (cs.map Char.toLower)) = lowerAscii (String.ofList cs) := by
  have htwice : Char.toLower ∘ Char.toLower = Char.toLower := by
    funext c
    delta Function.comp Char.toLower
    split <;> grind
  simp [lowerAscii, htwice]

private theorem toLower_toUpper (c : Char) : c.toUpper.toLower = c.toLower := by
  delta Char.toLower Char.toUpper
  by_cases hsmall : 'a'.val ≤ c.val ∧ c.val ≤ 'z'.val
  · have hcapital : ¬(c.val ≥ 'A'.val ∧ c.val ≤ 'Z'.val) := by
      simp only [ge_iff_le, UInt32.le_iff_toNat_le, Char.reduceVal, UInt32.reduceToNat] at hsmall ⊢
      omega
    simp only [hsmall, and_self, dif_pos]
    rw [dif_neg hcapital, dif_pos]
    · apply Char.ext
      simp [UInt32.add_assoc]
    · simp only [ge_iff_le, UInt32.le_iff_toNat_le, Char.reduceVal, UInt32.reduceToNat, UInt32.toNat_add,
        UInt32.reduceSub] at hsmall ⊢
      omega
  · rw [dif_neg hsmall]

theorem lowerAscii_ofList_map_toUpper (cs : List Char) :
    lowerAscii (String.ofList (cs.map Char.toUpper)) = lowerAscii (String.ofList cs) := by
  have hchars : Char.toLower ∘ Char.toUpper = Char.toLower := funext toLower_toUpper
  simp [lowerAscii, hchars]

@[simp] theorem lowerAscii_lowerAscii (text : String) : lowerAscii (lowerAscii text) = lowerAscii text := by
  rw [lowerAscii.eq_def text, lowerAscii_ofList_map_toLower, String.ofList_toList, lowerAscii]

theorem lowerAscii_eq_empty {text : String} : lowerAscii text = "" ↔ text = "" := by
  simp [lowerAscii, String.ofList_eq_empty_iff]

private theorem toLower_eq_self {c : Char} (h : c.toLower.isLower = false) : c.toLower = c := by
  delta Char.toLower at h ⊢
  split at h
  · rename_i hupper
    delta Char.isLower at h
    simp only [Char.reduceVal, UInt32.reduceSub, ge_iff_le, UInt32.le_iff_toNat_le, UInt32.reduceToNat,
      UInt32.toNat_add, Bool.and_eq_false_imp, decide_eq_true_eq, decide_eq_false_iff_not] at h hupper
    omega
  · rename_i hupper
    rw [dif_neg hupper]

/-- What is no small letter in a text with the letters made small stands in the text itself. -/
theorem mem_of_mem_lowerAscii {c : Char} (hc : c.isLower = false) {text : String}
    (h : c ∈ (lowerAscii text).toList) : c ∈ text.toList := by
  rw [lowerAscii, String.toList_ofList] at h
  obtain ⟨d, hd, hlower⟩ := List.mem_map.mp h
  rw [← hlower] at hc
  rwa [← hlower, toLower_eq_self hc]

/-- What is no letter stands in texts that differ in the case of letters alike. -/
theorem mem_of_lowerAscii_eq {c : Char} (hc : c.isLower = false) (hlow : c.toLower = c) {text other : String}
    (h : lowerAscii text = lowerAscii other) (hmem : c ∈ text.toList) : c ∈ other.toList := by
  refine mem_of_mem_lowerAscii hc ?_
  rw [← h, lowerAscii, String.toList_ofList]
  exact List.mem_map.mpr ⟨c, hmem, hlow⟩

private theorem splitChars_map {f : Char → Char} (hsep : ∀ c, f c = sep ↔ c = sep) (cs : List Char) :
    splitChars sep (cs.map f) = (splitChars sep cs).map (List.map f) := by
  induction cs with
  | nil => rfl
  | cons c cs ih =>
    simp only [List.map_cons, splitChars, hsep, ih]
    split
    · rfl
    · cases splitChars sep cs <;> rfl

/-- Small letters move no separator that is no letter. -/
theorem split_lowerAscii (hsmall : sep.isLower = false) (hlow : sep.toLower = sep) (text : String) :
    split sep (lowerAscii text) = (split sep text).map lowerAscii := by
  have hsep (c : Char) : c.toLower = sep ↔ c = sep := by
    constructor
    · rintro rfl
      exact (toLower_eq_self hsmall).symm
    · rintro rfl
      exact hlow
  rw [split, lowerAscii, String.toList_ofList, splitChars_map hsep, split, List.map_map, List.map_map]
  refine List.map_congr_left fun run _ => ?_
  simp [lowerAscii]

/-! ### Trimming -/

theorem mem_of_mem_trimStartBy {p : Char → Bool} {c : Char} {text : String} (h : c ∈ (trimStartBy p text).toList) :
    c ∈ text.toList := by
  rw [trimStartBy, String.toList_ofList] at h
  exact (List.dropWhile_sublist p).subset h

private theorem dropEndWhile_map {p : Char → Bool} {f : Char → Char} (h : ∀ c, p (f c) = p c) (cs : List Char) :
    dropEndWhile p (cs.map f) = (dropEndWhile p cs).map f := by
  have hp : p ∘ f = p := funext h
  rw [dropEndWhile, dropEndWhile, ← List.map_reverse, List.dropWhile_map, hp, List.map_reverse]

private theorem dropWhile_of_head? {p : Char → Bool} {cs : List Char} (h : ∀ c, cs.head? = some c → p c = false) :
    cs.dropWhile p = cs := by
  cases cs with
  | nil => rfl
  | cons c cs => rw [List.dropWhile_cons, if_neg (by simp [h c rfl])]

private theorem head?_dropWhile {p : Char → Bool} {cs : List Char} {c : Char} (h : (cs.dropWhile p).head? = some c) :
    p c = false := by
  have hnot := List.head?_dropWhile_not p cs
  rwa [h] at hnot

/-- A text without white space at its ends is not trimmed. -/
theorem trim_of_ends {text : String} (hfront : ∀ c, text.toList.head? = some c → isBlank c = false)
    (hback : ∀ c, text.toList.getLast? = some c → isBlank c = false) : trim text = text := by
  have hreverse : text.toList.reverse.dropWhile isBlank = text.toList.reverse :=
    dropWhile_of_head? fun c hc => hback c (by rwa [List.head?_reverse] at hc)
  rw [trim, trimBy, dropEndWhile, dropWhile_of_head? hfront, hreverse, List.reverse_reverse, String.ofList_toList]

theorem trim_trim (text : String) : trim (trim text) = trim text := by
  have htrim : (trim text).toList = dropEndWhile isBlank (text.toList.dropWhile isBlank) := String.toList_ofList
  refine trim_of_ends (fun c hc => ?_) (fun c hc => ?_)
  · -- what is left begins where it began before the end was trimmed
    have hprefix : (trim text).toList <+: text.toList.dropWhile isBlank := by
      rw [htrim, dropEndWhile, ← List.reverse_suffix, List.reverse_reverse]
      exact List.dropWhile_suffix isBlank
    have hstart : (text.toList.dropWhile isBlank).head? = some c := by
      obtain ⟨back, hback⟩ := hprefix
      rw [← hback, List.head?_append, hc]
      rfl
    exact head?_dropWhile hstart
  · rw [htrim, dropEndWhile, List.getLast?_reverse] at hc
    exact head?_dropWhile hc

/-- ASCII capital letters are no white space, and neither are small ones. -/
private theorem isBlank_toLower (c : Char) : isBlank c.toLower = isBlank c := by
  delta Char.toLower
  split
  · rename_i hupper
    simp only [ge_iff_le, UInt32.le_iff_toNat_le, Char.reduceVal, UInt32.reduceToNat] at hupper
    rw [Bool.eq_iff_iff]
    simp only [isBlank, Char.toNat, UInt32.toNat_add, Char.reduceVal, UInt32.reduceSub, UInt32.reduceToNat,
      Bool.or_eq_true, Bool.and_eq_true, decide_eq_true_eq, beq_iff_eq]
    omega
  · rfl

theorem lowerAscii_trim (text : String) : lowerAscii (trim text) = trim (lowerAscii text) := by
  have hblank : isBlank ∘ Char.toLower = isBlank := funext isBlank_toLower
  simp only [trim, trimBy, lowerAscii, String.toList_ofList]
  rw [List.dropWhile_map, hblank, dropEndWhile_map isBlank_toLower]

theorem mem_of_mem_trimEndBy {p : Char → Bool} {c : Char} {text : String} (h : c ∈ (trimEndBy p text).toList) :
    c ∈ text.toList := by
  rw [trimEndBy, String.toList_ofList, dropEndWhile, List.mem_reverse] at h
  exact List.mem_reverse.mp ((List.dropWhile_sublist p).subset h)

end Reroute.Text
