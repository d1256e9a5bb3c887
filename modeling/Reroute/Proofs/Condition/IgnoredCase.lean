import Reroute.Condition.TextMatch
import Reroute.Proofs.Text.Basic
import Reroute.Proofs.Text.LetterCase

/-!
# Matching texts without regard to case

A plain text match that ignores case compares the small letters of the value with those of the pattern, each of them
lowered as a whole.  A capital sigma at the end of a word has a small form of its own, and a pattern may end where a
word of the value goes on, or begin inside one; so a pattern that is met in a value may be missed once case is ignored,
and this happens to patterns with a capital sigma only (`TextMatch.ignoring_case_iff`).
-/

namespace Reroute

open Text (KeepsSigmas lowerBetween)

namespace MatchKind

/-- The kinds that compare with a plain text. -/
def IsPlain (kind : MatchKind) : Prop := kind ≠ .wildcard ∧ kind ≠ .regex

/-- How a plain pattern and a text compare, the case of both being as it is. -/
def Meets (kind : MatchKind) (pattern text : List Char) : Prop :=
  match kind with
  | .startsWith => pattern <+: text
  | .endsWith => pattern <:+ text
  | .contains => pattern <:+: text
  | _ => text = pattern

/-- What it takes for a pattern that is met in a text to be met without regard to case.  As a start or an end it has to
keep its sigmas.  As a part it has to keep them at one of its places, or its small letters also stand where it does not
stand itself. -/
def MeetsIgnoringCase (kind : MatchKind) (pattern text : List Char) : Prop :=
  match kind with
  | .startsWith => ∃ behind, text = pattern ++ behind ∧ KeepsSigmas [] pattern behind
  | .endsWith => ∃ before, text = before ++ pattern ∧ KeepsSigmas before pattern []
  | .contains =>
    (∃ before behind, text = before ++ pattern ++ behind ∧ KeepsSigmas before pattern behind) ∨
      ∃ front back, lowerBetween [] text [] = front ++ lowerBetween [] pattern [] ++ back ∧
        ∀ before behind, text = before ++ pattern ++ behind → front ≠ lowerBetween [] before (pattern ++ behind)
  | _ => True

variable {kind : MatchKind} {pattern text : List Char}

/-- What it takes is what it takes for the small letters of the pattern to meet those of the text. -/
private theorem meets_lower_iff (h : kind.Meets pattern text) :
    kind.Meets (lowerBetween [] pattern []) (lowerBetween [] text []) ↔ kind.MeetsIgnoringCase pattern text := by
  cases kind with
  | startsWith =>
    obtain ⟨behind, rfl⟩ := h
    refine Text.lowerBetween_isPrefix_iff.trans ⟨fun hkeeps => ⟨behind, rfl, hkeeps⟩, ?_⟩
    rintro ⟨other, hother, hkeeps⟩
    rwa [List.append_cancel_left hother]
  | endsWith =>
    obtain ⟨before, rfl⟩ := h
    refine Text.lowerBetween_isSuffix_iff.trans ⟨fun hkeeps => ⟨before, rfl, hkeeps⟩, ?_⟩
    rintro ⟨other, hother, hkeeps⟩
    rwa [List.append_cancel_right hother]
  | contains => exact Text.lowerBetween_isInfix_iff
  | equals | wildcard | regex =>
    obtain rfl : text = pattern := h
    exact iff_of_true rfl trivial

/-- A pattern without capital sigmas has none to keep. -/
private theorem meetsIgnoringCase_of_not_mem (h : kind.Meets pattern text) (hsigma : 'Σ' ∉ pattern) :
    kind.MeetsIgnoringCase pattern text := by
  have hkeeps := Text.keepsSigmas_of_not_mem hsigma
  cases kind with
  | startsWith =>
    obtain ⟨behind, rfl⟩ := h
    exact ⟨behind, rfl, hkeeps [] behind⟩
  | endsWith =>
    obtain ⟨before, rfl⟩ := h
    exact ⟨before, rfl, hkeeps before []⟩
  | contains =>
    obtain ⟨before, behind, rfl⟩ := h
    exact .inl ⟨before, behind, rfl, hkeeps before behind⟩
  | equals | wildcard | regex => trivial

end MatchKind

namespace TextMatch

variable {kind : MatchKind}

/-- A plain match is always made, and compares the value with the pattern, or the small letters of both. -/
private theorem exists_make (hkind : kind.IsPlain) (value : Value) (pattern : String) (ignoreCase : Bool) :
    ∃ made, make value kind pattern ignoreCase = .ok made ∧ ∀ request scratch,
      ((made.test request scratch).1 = true ↔
        kind.Meets (if ignoreCase then Text.lower pattern else pattern).toList
          (if ignoreCase then Text.lower (value.read request scratch) else value.read request scratch).toList) := by
  cases kind with
  | startsWith =>
    refine ⟨_, rfl, fun request scratch => ?_⟩
    simp only [test, Matcher.test, MatchKind.Meets, Bool.bne_false, List.isPrefixOf_iff_prefix]
  | endsWith =>
    refine ⟨_, rfl, fun request scratch => ?_⟩
    simp only [test, Matcher.test, MatchKind.Meets, Bool.bne_false, List.isSuffixOf_iff_suffix]
  | contains =>
    refine ⟨_, rfl, fun request scratch => ?_⟩
    simp only [test, Matcher.test, MatchKind.Meets, Bool.bne_false, Text.occursIn_iff]
  | equals =>
    refine ⟨_, rfl, fun request scratch => ?_⟩
    simp only [test, Matcher.test, MatchKind.Meets, Bool.bne_false, beq_iff_eq, String.toList_inj]
  | wildcard => exact absurd rfl hkind.1
  | regex => exact absurd rfl hkind.2

/-- A plain match that succeeds also succeeds without regard to case if and only if its pattern keeps its sigmas in the
value, or is found at another place; so it does wherever the pattern has no capital sigma. -/
theorem ignoring_case_iff (hkind : kind.IsPlain) (value : Value) (pattern : String) (request : Request)
    (scratch : Scratch) :
    ∃ strict folded, make value kind pattern false = .ok strict ∧ make value kind pattern true = .ok folded ∧
      ((strict.test request scratch).1 = true →
        ((folded.test request scratch).1 = true ↔
            kind.MeetsIgnoringCase pattern.toList (value.read request scratch).toList) ∧
          ('Σ' ∉ pattern.toList → (folded.test request scratch).1 = true)) := by
  obtain ⟨strict, hstrict, hstrictTest⟩ := exists_make hkind value pattern false
  obtain ⟨folded, hfolded, hfoldedTest⟩ := exists_make hkind value pattern true
  refine ⟨strict, folded, hstrict, hfolded, fun hmatches => ?_⟩
  have hmeets : kind.Meets pattern.toList (value.read request scratch).toList :=
    (hstrictTest request scratch).mp hmatches
  have hiff : (folded.test request scratch).1 = true ↔
      kind.MeetsIgnoringCase pattern.toList (value.read request scratch).toList := by
    rw [hfoldedTest, if_pos rfl, if_pos rfl, Text.toList_lower, Text.toList_lower, MatchKind.meets_lower_iff hmeets]
  exact ⟨hiff, fun hsigma => hiff.mpr (MatchKind.meetsIgnoringCase_of_not_mem hmeets hsigma)⟩

/-- The path of a request. -/
def requestPath : Value := .getter ⟨.path, .nothing, []⟩

/-- The end of a word, from inside it. -/
theorem ignoring_case_iff_word :
    MatchKind.IsPlain .endsWith ∧ ∃ strict folded, make requestPath .endsWith "ΔΟΣ" false = .ok strict ∧
      make requestPath .endsWith "ΔΟΣ" true = .ok folded ∧ (strict.test (.ofUrl "/ΟΔΟΣ") .start).1 = true ∧
      (folded.test (.ofUrl "/ΟΔΟΣ") .start).1 = true := by
  have hplain : MatchKind.IsPlain .endsWith := ⟨by decide, by decide⟩
  obtain ⟨strict, folded, hstrict, hfolded, hiff⟩ :=
    ignoring_case_iff hplain requestPath "ΔΟΣ" (.ofUrl "/ΟΔΟΣ") .start
  refine ⟨hplain, strict, folded, hstrict, hfolded, ?_⟩
  cases hstrict
  exact ⟨by decide, (hiff (by decide)).1.mpr ⟨['/', 'Ο'], by decide, by decide⟩⟩

/-- Patterns that are met at an end, at a start and inside, and missed there without regard to case: a last letter whose
word has begun in front of it, and letters whose word goes on behind them. -/
theorem missed_ignoring_case :
    let holds (kind : MatchKind) (pattern url : String) (ignoreCase : Bool) :=
      (make requestPath kind pattern ignoreCase).toOption.map fun made => (made.test (.ofUrl url) .start).1
    (holds .endsWith "Σ" "/ΟΔΟΣ" false = some true ∧ holds .endsWith "Σ" "/ΟΔΟΣ" true = some false) ∧
      (holds .startsWith "/ΜΕΣ" "/ΜΕΣΑ" false = some true ∧ holds .startsWith "/ΜΕΣ" "/ΜΕΣΑ" true = some false) ∧
      holds .contains "ΜΕΣ" "/ΜΕΣΑ" false = some true ∧ holds .contains "ΜΕΣ" "/ΜΕΣΑ" true = some false := by
  decide +kernel

end TextMatch

end Reroute
