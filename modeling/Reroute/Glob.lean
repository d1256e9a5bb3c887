/-!
# Wildcard patterns

`?` stands for one character, `*` for any run, a set in brackets for one of its members (or, after `!`, for one
of the others).  Two stars stand for whole path components and must fill one.  A pattern either parses or has a
fault at a position; matching covers the whole text.
-/

namespace Reroute.Glob

/-! ### Patterns -/

/-- A member of a set: all characters from the first to the last. -/
structure Range where
  first : Char
  last : Char
deriving DecidableEq, Repr

/-- A step of a pattern. -/
inductive Token where
  | char (c : Char)
  | anyChar
  | anyRun
  | anyComponents
  | within (members : List Range)
  | except (members : List Range)
deriving DecidableEq, Repr

abbrev Pattern := List Token

/-- What a pattern can have wrong. -/
inductive FaultKind where
  | tooManyStars
  | partialComponent
  | openSet
deriving DecidableEq, Repr

/-- A fault and the position of the character that shows it. -/
structure Fault where
  position : Nat
  kind : FaultKind
deriving DecidableEq, Repr

/-- The wording of a fault. -/
def Fault.message (fault : Fault) : String :=
  let reason := match fault.kind with
    | .tooManyStars => "wildcards are either regular `*` or recursive `**`"
    | .partialComponent => "recursive wildcards must form a single path component"
    | .openSet => "invalid range pattern"
  "Pattern syntax error near position " ++ toString fault.position ++ ": " ++ reason

/-! ### Parsing -/

/-- The members written in a set; a dash between two characters spans a range. -/
def members : List Char → List Range
  | first :: '-' :: last :: rest => ⟨first, last⟩ :: members rest
  | c :: rest => ⟨c, c⟩ :: members rest
  | [] => []

/-- Where the parser stands: between tokens, after `before`, or inside a set that began at `start`. -/
inductive Mode where
  | between (before : Option Char)
  | inside (start : Nat) (negated : Bool) (collected : List Char)

/-- Adds a token for whole components unless one stands at the end already. -/
def pushComponents : List Token → List Token
  | .anyComponents :: token :: tokens => .anyComponents :: token :: tokens
  | tokens => .anyComponents :: tokens

/-- Parses from `position` on; `done` holds the tokens so far, last first. -/
def parseFrom (mode : Mode) (position : Nat) (done : List Token) : List Char → Except Fault Pattern
  | [] =>
    match mode with
    | .between _ => .ok done.reverse
    | .inside start _ _ => .error ⟨start, .openSet⟩
  | c :: rest =>
    match mode with
    | .inside start negated collected =>
      if c = ']' then
        let set := members collected.reverse
        parseFrom (.between (some c)) (position + 1) ((if negated then .except set else .within set) :: done) rest
      else parseFrom (.inside start negated (c :: collected)) (position + 1) done rest
    | .between before =>
      match c, rest with
      | '?', rest => parseFrom (.between (some c)) (position + 1) (.anyChar :: done) rest
      | '*', '*' :: '*' :: _ => .error ⟨position + 2, .tooManyStars⟩
      | '*', '*' :: after =>
        if before = none ∨ before = some '/' then
          match after with
          | [] => .ok (pushComponents done).reverse
          | '/' :: after' => parseFrom (.between (some '/')) (position + 3) (pushComponents done) after'
          | _ => .error ⟨position + 2, .partialComponent⟩
        else .error ⟨position - 1, .partialComponent⟩
      | '*', rest => parseFrom (.between (some c)) (position + 1) (.anyRun :: done) rest
      | '[', '!' :: d :: rest => parseFrom (.inside position true [d]) (position + 3) done rest
      | '[', d :: rest =>
        if d = '!' then .error ⟨position, .openSet⟩
        else parseFrom (.inside position false [d]) (position + 2) done rest
      | '[', [] => .error ⟨position, .openSet⟩
      | c, rest => parseFrom (.between (some c)) (position + 1) (.char c :: done) rest

/-- Parses a pattern. -/
def parse (text : String) : Except Fault Pattern := parseFrom (.between none) 0 [] text.toList

/-! ### Matching -/

/-- ASCII characters may differ in case only; others are equal or not. -/
def sameChar (ignoreCase : Bool) (a b : Char) : Bool :=
  if ignoreCase && a.toNat < 128 && b.toNat < 128 then a.toLower == b.toLower else a == b

/-- Whether a character is in a range; between ASCII letters case may be ignored. -/
def Range.holds (ignoreCase : Bool) (range : Range) (c : Char) : Bool :=
  if range.first = range.last then sameChar ignoreCase c range.first
  else
    let first := range.first.toLower
    let last := range.last.toLower
    (ignoreCase && c.toNat < 128 && first.isLower && last.isLower && first ≤ c.toLower && c.toLower ≤ last)
      || (range.first ≤ c && c ≤ range.last)

/-- The outcome of matching the rest of a pattern: the text may run out before the pattern does. -/
inductive Verdict where
  | matched
  | failed
  | exhausted
deriving DecidableEq

/-- Tries the rest of a pattern behind each character (behind each `/` when `components` is set). -/
def tryBehind (components : Bool) (rest : List Char → Verdict) : List Char → Verdict
  | [] => rest []
  | c :: cs =>
    if components && c != '/' then tryBehind components rest cs
    else match rest cs with
      | .failed => tryBehind components rest cs
      | verdict => verdict

/-- Matches one character and then the rest of a pattern. -/
def matchOne (holds : Char → Bool) (rest : List Char → Verdict) : List Char → Verdict
  | [] => .exhausted
  | c :: cs => if holds c then rest cs else .failed

/-- Matches a whole text. -/
def matchFrom (ignoreCase : Bool) : Pattern → List Char → Verdict
  | [], [] => .matched
  | [], _ :: _ => .failed
  | .char c :: tokens, cs => matchOne (sameChar ignoreCase · c) (matchFrom ignoreCase tokens) cs
  | .anyChar :: tokens, cs => matchOne (fun _ => true) (matchFrom ignoreCase tokens) cs
  | .within set :: tokens, cs =>
    matchOne (fun c => set.any (·.holds ignoreCase c)) (matchFrom ignoreCase tokens) cs
  | .except set :: tokens, cs =>
    matchOne (fun c => !set.any (·.holds ignoreCase c)) (matchFrom ignoreCase tokens) cs
  | .anyRun :: tokens, cs =>
    match matchFrom ignoreCase tokens cs with
    | .failed => tryBehind false (matchFrom ignoreCase tokens) cs
    | verdict => verdict
  | .anyComponents :: tokens, cs =>
    match matchFrom ignoreCase tokens cs with
    | .failed => tryBehind true (matchFrom ignoreCase tokens) cs
    | verdict => verdict

/-- Whether the pattern covers the text. -/
def accepts (pattern : Pattern) (ignoreCase : Bool) (text : String) : Bool :=
  matchFrom ignoreCase pattern text.toList = .matched

end Reroute.Glob
