import Reroute.Action.Answer
import Reroute.Config.Document
import Reroute.Proofs.Text.Numeral

/-!
# Redirects by number

The type of a redirect may be a number, which is written out and read like a name: in loose spelling, without
underscores and dashes.  That spelling is made for words, but it also takes the sign off a negative number.  So the
number is read by its magnitude (`RedirectCode.parse_number`), and some negative numbers stand for a status too
(`RedirectCode.reads_number_iff`).
-/

namespace Reroute.RedirectCode

/-- A number is read as its magnitude, which has to be a status of the class 3. -/
theorem parse_number (n : Int) :
    parse (Scalar.number n).toText =
      if 300 ≤ n.natAbs ∧ n.natAbs < 400 then .ok ⟨n.natAbs⟩ else .error (.unknownRedirectType (toString n)) := by
  have htrim : Text.trim (toString n) = toString n :=
    Text.trim_of_not_blank fun c hc => Text.isBlank_of_mem_spelled (Text.spells_toString n) hc
  have hkey : Text.spelling (Text.trim (toString n)) = toString n.natAbs := by
    rw [htrim, Text.spelling_toString_int]
  have hword : ∀ word : String, 'e' ∈ word.toList ∨ 'o' ∈ word.toList → toString n.natAbs ≠ word := by
    rintro word (hmem | hmem)
    · exact Text.toString_ne_of_mem hmem (by decide) _
    · exact Text.toString_ne_of_mem hmem (by decide) _
  show parse (toString n) = _
  unfold parse
  dsimp only
  rw [hkey]
  split
  case h_5 =>
    rw [Text.readNat?_toString]
    by_cases hbits : n.natAbs < Nat.pow 2 16
    · rw [if_pos hbits]
    · have hlarge : ¬(300 ≤ n.natAbs ∧ n.natAbs < 400) := by
        have hpow : Nat.pow 2 16 = 65536 := rfl
        omega
      rw [if_neg hbits, if_neg hlarge]
  all_goals
    rename_i hname
    exact absurd hname (hword _ (by decide))

/-- A number is read as a redirect exactly if it is one of the class 3, and then as itself. -/
def ReadsNumber (n : Int) : Prop :=
  ((∃ code, parse (Scalar.number n).toText = .ok code) ↔ 300 ≤ n ∧ n ≤ 399) ∧
    ∀ code, parse (Scalar.number n).toText = .ok code → (code.status : Int) = n

/-- Every number is read by its magnitude.  This is right for all numbers but those from -399 to -300, each of which
stands for the status that it is the negative of. -/
theorem reads_number_iff (n : Int) :
    (∀ code, parse (Scalar.number n).toText = .ok code ↔
        300 ≤ n.natAbs ∧ n.natAbs ≤ 399 ∧ code.status = n.natAbs) ∧
      (ReadsNumber n ↔ ¬(-399 ≤ n ∧ n ≤ -300)) := by
  have hread : ∀ code, parse (Scalar.number n).toText = .ok code ↔
      300 ≤ n.natAbs ∧ n.natAbs ≤ 399 ∧ code.status = n.natAbs := by
    intro ⟨status⟩
    rw [parse_number]
    split
    · rename_i hclass
      simp only [Except.ok.injEq, mk.injEq]
      omega
    · rename_i hclass
      simp only [reduceCtorEq, false_iff]
      omega
  refine ⟨hread, ?_⟩
  have hexists : (∃ code, parse (Scalar.number n).toText = .ok code) ↔ 300 ≤ n.natAbs ∧ n.natAbs ≤ 399 := by
    constructor
    · rintro ⟨code, hcode⟩
      obtain ⟨hlow, hhigh, -⟩ := (hread code).mp hcode
      exact ⟨hlow, hhigh⟩
    · rintro ⟨hlow, hhigh⟩
      exact ⟨⟨n.natAbs⟩, (hread _).mpr ⟨hlow, hhigh, rfl⟩⟩
  unfold ReadsNumber
  rw [hexists]
  constructor
  · rintro ⟨hclass, -⟩ hnegative
    omega
  · intro hother
    refine ⟨by omega, fun code hcode => ?_⟩
    obtain ⟨hlow, hhigh, hstatus⟩ := (hread code).mp hcode
    omega

/-- The number -301 stands for the status 301. -/
theorem parse_negative : ¬ReadsNumber (-301) ∧ parse (Scalar.number (-301)).toText = .ok ⟨301⟩ := by
  have hread : parse (Scalar.number (-301)).toText = .ok ⟨301⟩ := by rfl
  refine ⟨?_, hread⟩
  rintro ⟨-, hstatus⟩
  exact absurd (hstatus ⟨301⟩ hread) (by decide)

end Reroute.RedirectCode
