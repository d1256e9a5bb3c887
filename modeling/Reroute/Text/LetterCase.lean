import Reroute.Text.CaseRuns
import Reroute.Text.Character

/-!
# Letter case

Small and capital form of whole texts, and the letters that count as equal when case does not count.  A capital
sigma becomes the final small sigma at the end of a word, and the plain one elsewhere.
-/

namespace Reroute.Text

/-! ### Single characters -/

/-- The small form of a character on its own. -/
def smallForm (c : Char) : List Char :=
  if c.toNat == 0x130 then ['i', Char.ofNat 0x307]
  else match CaseRun.find? c.toNat smallRuns with
    | some n => [Char.ofNat n]
    | none => [c]

/-- The capital form of a character. -/
def capitalForm (c : Char) : List Char :=
  match capitalSequences.find? (·.1 == c.toNat) with
  | some (_, form) => form.map Char.ofNat
  | none =>
    match CaseRun.find? c.toNat capitalRuns with
    | some n => [Char.ofNat n]
    | none => [c]

/-- The character that stands for `c` when case does not count. -/
def foldForm (c : Char) : Char :=
  match CaseRun.find? c.toNat foldRuns with
  | some n => Char.ofNat n
  | none => c

/-- All characters equal to `c` when case does not count, `c` among them. -/
def caseVariants (c : Char) : List Char :=
  let stand := foldForm c
  stand :: (CaseRun.sources stand.toNat foldRuns).map Char.ofNat

/-! ### Whole texts -/

/-- Whether the first character that counts is one with a case. -/
def startsCased : List Char → Bool
  | [] => false
  | c :: rest => if isCaseIgnorable c then startsCased rest else isCased c

/-- Small forms of the characters; `before` are the characters already passed, nearest first. -/
def lowerFrom : List Char → List Char → List Char
  | _, [] => []
  | before, c :: rest =>
    (if c.toNat == 0x3A3 then
      [if startsCased before && !startsCased rest then Char.ofNat 0x3C2 else Char.ofNat 0x3C3]
    else smallForm c) ++ lowerFrom (c :: before) rest

/-- The text in small letters. -/
def lower (text : String) : String := String.ofList (lowerFrom [] text.toList)

/-- The text in capital letters. -/
def upper (text : String) : String := String.ofList (text.toList.flatMap capitalForm)

end Reroute.Text
