import Reroute.Text.LetterCase

/-!
# Small letters of a part of a text

The small form of a character does not depend on where it stands, but for the capital sigma, which has one form at the
end of a word and another elsewhere.  So the small letters of a text are those of its parts, each where it stands
(`lowerBetween_append`), and they are those of a part alone if and only if every capital sigma of the part ends a word
in the text where it ends one in the part alone (`keepsSigmas_iff`).
-/

namespace Reroute.Text

/-! ### Characters where they stand -/

/-- Whether a letter between two texts ends a word: what has a case stands in front of it, and not behind it. -/
def endsWord (before behind : List Char) : Bool := startsCased before.reverse && !startsCased behind

/-- The small form of a character between two texts. -/
def smallFormBetween (before : List Char) (c : Char) (behind : List Char) : List Char :=
  if c = 'Σ' then [if endsWord before behind then 'ς' else 'σ'] else smallForm c

/-- The small letters of a part of a text between what stands before and behind it. -/
def lowerBetween : List Char → List Char → List Char → List Char
  | _, [], _ => []
  | before, c :: part, behind => smallFormBetween before c (part ++ behind) ++ lowerBetween (before ++ [c]) part behind

private theorem lowerFrom_cons (before : List Char) (c : Char) (behind : List Char) :
    lowerFrom before.reverse (c :: behind) =
      smallFormBetween before c behind ++ lowerFrom (before ++ [c]).reverse behind := by
  have hsigma : c.toNat = 0x3A3 ↔ c = 'Σ' := ⟨fun h => Char.toNat_inj.mp h, fun h => h ▸ rfl⟩
  rw [lowerFrom, List.reverse_concat, smallFormBetween]
  simp only [beq_iff_eq, hsigma]
  rfl

private theorem lowerFrom_eq (before cs : List Char) : lowerFrom before.reverse cs = lowerBetween before cs [] := by
  induction cs generalizing before with
  | nil => rfl
  | cons c cs ih => rw [lowerFrom_cons, ih, lowerBetween, List.append_nil]

theorem toList_lower (text : String) : (lower text).toList = lowerBetween [] text.toList [] := by
  rw [lower, String.toList_ofList]
  exact lowerFrom_eq [] text.toList

/-- The small letters of a text are those of its parts where they stand. -/
theorem lowerBetween_append (before front back behind : List Char) :
    lowerBetween before (front ++ back) behind =
      lowerBetween before front (back ++ behind) ++ lowerBetween (before ++ front) back behind := by
  induction front generalizing before with
  | nil => rw [List.nil_append, lowerBetween, List.nil_append, List.append_nil]
  | cons c front ih =>
    rw [List.cons_append, lowerBetween, lowerBetween, ih, List.append_assoc, List.append_assoc, List.append_assoc,
      List.singleton_append]

/-! ### Parts alone -/

/-- Where a character stands does not change how many characters its small form has. -/
private theorem length_smallFormBetween (before before' behind behind' : List Char) (c : Char) :
    (smallFormBetween before c behind).length = (smallFormBetween before' c behind').length := by
  unfold smallFormBetween
  split <;> rfl

private theorem length_lowerBetween (before before' part behind behind' : List Char) :
    (lowerBetween before part behind).length = (lowerBetween before' part behind').length := by
  induction part generalizing before before' with
  | nil => rfl
  | cons c part ih =>
    rw [lowerBetween, lowerBetween, List.length_append, List.length_append, length_smallFormBetween before before',
      ih (before ++ [c]) (before' ++ [c])]

/-- Every capital sigma of a part of a text ends a word in the text if and only if it ends one in the part alone. -/
def KeepsSigmas (before part behind : List Char) : Prop :=
  ∀ front back, part = front ++ 'Σ' :: back → endsWord (before ++ front) (back ++ behind) = endsWord front back

private theorem lowerBetween_eq_iff {before before' part behind behind' : List Char} :
    lowerBetween before part behind = lowerBetween before' part behind' ↔
      ∀ front back, part = front ++ 'Σ' :: back →
        endsWord (before ++ front) (back ++ behind) = endsWord (before' ++ front) (back ++ behind') := by
  induction part generalizing before before' with
  | nil => simp [lowerBetween]
  | cons c part ih =>
    have hlength := length_smallFormBetween before before' (part ++ behind) (part ++ behind') c
    have hform : smallFormBetween before c (part ++ behind) = smallFormBetween before' c (part ++ behind') ↔
        (c = 'Σ' → endsWord before (part ++ behind) = endsWord before' (part ++ behind')) := by
      unfold smallFormBetween
      split
      · rename_i hc
        generalize endsWord before (part ++ behind) = ends
        generalize endsWord before' (part ++ behind') = ends'
        cases ends <;> cases ends' <;> simp [hc]
      · rename_i hc
        exact iff_of_true rfl fun hsigma => absurd hsigma hc
    have happend : lowerBetween before (c :: part) behind = lowerBetween before' (c :: part) behind' ↔
        smallFormBetween before c (part ++ behind) = smallFormBetween before' c (part ++ behind') ∧
          lowerBetween (before ++ [c]) part behind = lowerBetween (before' ++ [c]) part behind' :=
      ⟨fun h => List.append_inj h hlength, fun h => by rw [lowerBetween, lowerBetween, h.1, h.2]⟩
    rw [happend, hform, ih]
    constructor
    · rintro ⟨hfirst, hrest⟩ front back hparts
      cases front with
      | nil =>
        obtain ⟨hc, rfl⟩ := List.cons.inj hparts
        simpa using hfirst hc
      | cons d front =>
        obtain ⟨rfl, hpart⟩ := List.cons.inj hparts
        simpa using hrest front back hpart
    · intro h
      refine ⟨?_, fun front back hpart => ?_⟩
      · rintro rfl
        simpa using h [] part rfl
      · simpa using h (c :: front) back (by rw [hpart, List.cons_append])

theorem keepsSigmas_iff {before part behind : List Char} :
    KeepsSigmas before part behind ↔ lowerBetween before part behind = lowerBetween [] part [] := by
  rw [lowerBetween_eq_iff]
  simp only [KeepsSigmas, List.nil_append, List.append_nil]

instance (before part behind : List Char) : Decidable (KeepsSigmas before part behind) :=
  decidable_of_iff _ keepsSigmas_iff.symm

theorem keepsSigmas_of_not_mem {part : List Char} (h : 'Σ' ∉ part) (before behind : List Char) :
    KeepsSigmas before part behind := by
  rintro front back rfl
  exact absurd (by simp) h

/-! ### Small letters in a text -/

variable {before part behind : List Char}

/-- A start of a text stays a start of it if its sigmas stay as they are. -/
theorem lowerBetween_isPrefix_iff :
    lowerBetween [] part [] <+: lowerBetween [] (part ++ behind) [] ↔ KeepsSigmas [] part behind := by
  have hlength := length_lowerBetween [] [] part behind []
  rw [lowerBetween_append, List.append_nil, keepsSigmas_iff]
  constructor
  · intro h
    have hpart := List.prefix_of_prefix_length_le h (List.prefix_append _ _) (Nat.le_of_eq hlength.symm)
    exact (hpart.eq_of_length hlength.symm).symm
  · intro h
    rw [h]
    exact List.prefix_append _ _

/-- An end of a text stays an end of it if its sigmas stay as they are. -/
theorem lowerBetween_isSuffix_iff :
    lowerBetween [] part [] <:+ lowerBetween [] (before ++ part) [] ↔ KeepsSigmas before part [] := by
  have hlength := length_lowerBetween before [] part [] []
  rw [lowerBetween_append, List.nil_append, keepsSigmas_iff]
  constructor
  · intro h
    have hpart := List.suffix_of_suffix_length_le h (List.suffix_append _ _) (Nat.le_of_eq hlength.symm)
    exact (hpart.eq_of_length hlength.symm).symm
  · intro h
    rw [h]
    exact List.suffix_append _ _

/-- The small letters of a part are among those of a text where the part stands in it with its sigmas as they are, or
where the part does not stand in it. -/
theorem lowerBetween_isInfix_iff {text : List Char} :
    lowerBetween [] part [] <:+: lowerBetween [] text [] ↔
      (∃ before behind, text = before ++ part ++ behind ∧ KeepsSigmas before part behind) ∨
        ∃ front back, lowerBetween [] text [] = front ++ lowerBetween [] part [] ++ back ∧
          ∀ before behind, text = before ++ part ++ behind → front ≠ lowerBetween [] before (part ++ behind) := by
  have hthree (before behind : List Char) : lowerBetween [] (before ++ part ++ behind) [] =
      lowerBetween [] before (part ++ behind) ++ lowerBetween before part behind ++
        lowerBetween (before ++ part) behind [] := by
    rw [List.append_assoc, lowerBetween_append, lowerBetween_append, List.nil_append, List.append_nil,
      List.append_assoc, List.append_nil]
  constructor
  · rintro ⟨front, back, htext⟩
    by_cases hstands : ∃ before behind,
        text = before ++ part ++ behind ∧ front = lowerBetween [] before (part ++ behind)
    · obtain ⟨before, behind, rfl, rfl⟩ := hstands
      refine .inl ⟨before, behind, rfl, keepsSigmas_iff.mpr ?_⟩
      rw [hthree, List.append_assoc, List.append_assoc] at htext
      have hrest := List.append_cancel_left htext
      exact (List.append_inj_left hrest (length_lowerBetween [] before part [] behind)).symm
    · exact .inr ⟨front, back, htext.symm, fun before behind hparts hfront => hstands ⟨before, behind, hparts, hfront⟩⟩
  · rintro (⟨before, behind, rfl, hkeeps⟩ | ⟨front, back, htext, -⟩)
    · rw [hthree, keepsSigmas_iff.mp hkeeps]
      exact List.infix_append _ _ _
    · exact ⟨front, back, htext.symm⟩

end Reroute.Text
