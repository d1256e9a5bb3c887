import Reroute.Regex.NamedSet
import Reroute.Regex.Weight

/-!
# Reading patterns

`Node.parse?` reads the text of a pattern.  The reader carries the flags in force and the groups counted so far;
flags set inside a group end with the group.  A text that is no pattern gives `none`.
-/

namespace Reroute.Regex

open Reroute.Text

/-- The flags in force. -/
structure Flags where
  ignoreCase : Bool
  multiLine : Bool
  dotAll : Bool
  swapGreed : Bool
  crlf : Bool
  ignoreSpace : Bool
  asciiOnly : Bool
deriving DecidableEq, Repr

/-- The flags at the start of a pattern. -/
def Flags.start (ignoreCase : Bool) : Flags := ⟨ignoreCase, false, false, false, false, false, false⟩

/-- What is left to read, and what was read on the way. -/
structure Reader where
  rest : List Char
  flags : Flags
  groups : Nat
  names : List String

/-- Something that was read, and how deep its text nests: groups, brackets, repetitions, rows and choices count. -/
structure Nested (α : Type) where
  item : α
  depth : Nat

/-- The depth of things in a row; a single one is no row. -/
def rowDepth : List Nat → Nat
  | [] => 0
  | [depth] => depth
  | depths => depths.foldl max 0 + 1

/-! ### Blanks and comments -/

/-- Drops blanks, and comments from `#` to the end of the line. -/
def skipBlank : Bool → List Char → List Char
  | _, [] => []
  | true, c :: rest => skipBlank (c != '\n') rest
  | false, c :: rest =>
    if c = '#' then skipBlank true rest
    else if isBlank c then skipBlank false rest
    else c :: rest

/-- Drops what does not count under the flags. -/
def Flags.skip (flags : Flags) (cs : List Char) : List Char :=
  if flags.ignoreSpace then skipBlank false cs else cs

/-! ### Single steps -/

/-- The set of a literal character. -/
def Flags.literal (flags : Flags) (c : Char) : CharSet :=
  if flags.ignoreCase then
    if flags.asciiOnly then .anyAsciiCase (.single c) else .anyCase (.single c)
  else .single c

/-- Closes a set under change of case where the flags ask for it. -/
def Flags.closeCase (flags : Flags) (set : CharSet) : CharSet :=
  if flags.ignoreCase then
    if flags.asciiOnly then .anyAsciiCase set else .anyCase set
  else set

/-- The set or its complement, which no ASCII set has. -/
def Flags.negate? (flags : Flags) (negated : Bool) (set : CharSet) : Option CharSet :=
  if negated && flags.asciiOnly then none else some (.negateIf negated set)

/-- The set of the dot. -/
def Flags.dot? (flags : Flags) : Option CharSet :=
  if flags.asciiOnly then none
  else if flags.dotAll then some .any
  else if flags.crlf then some (.complement (.union [.single '\n', .single '\r']))
  else some (.complement (.single '\n'))

/-- The set of `\d`, `\s` or `\w`. -/
def Flags.shorthand? (flags : Flags) (letter : Char) : Option CharSet :=
  let pick (unicode : Property) (ascii : CharSet) : CharSet :=
    if flags.asciiOnly then ascii else .property unicode
  match letter with
  | 'd' => some (pick .decimalDigit asciiDigits)
  | 's' => some (pick .blank asciiBlank)
  | 'w' => some (pick .word asciiWord)
  | _ => none

/-- What a backslash introduces, or a character on its own. -/
inductive Atom where
  | literal (c : Char)
  | byte (value : Nat)
  | look (kind : Look)
  | shorthand (negated : Bool) (set : CharSet)
  | property (negated : Bool) (set : CharSet)

/-- Characters that a backslash makes literal because they mean something otherwise. -/
def isMeta (c : Char) : Bool := "\\.+*?()|[]\x7b\x7d^$#&-~".toList.contains c

/-- Characters that a backslash may make literal. -/
def isEscapable (c : Char) : Bool :=
  isMeta c || (c.toNat < 128 && !c.isAlphanum && c != '<' && c != '>')

/-- The value of digits of base sixteen. -/
def hexNumber? : Nat → List Char → Option Nat
  | n, [] => some n
  | n, c :: rest =>
    if '0' ≤ c ∧ c ≤ '9' then hexNumber? (n * 16 + (c.toNat - 48)) rest
    else if 'a' ≤ c ∧ c ≤ 'f' then hexNumber? (n * 16 + (c.toNat - 87)) rest
    else if 'A' ≤ c ∧ c ≤ 'F' then hexNumber? (n * 16 + (c.toNat - 55)) rest
    else none

/-- The character of a code point. -/
def charOf? (n : Nat) : Option Char := if n.isValidChar then some (Char.ofNat n) else none

/-- Takes `count` characters, with what does not count dropped behind each. -/
def Flags.takeDigits? (flags : Flags) : Nat → List Char → Option (List Char × List Char)
  | 0, cs => some ([], cs)
  | _ + 1, [] => none
  | n + 1, c :: cs => do
    let (digits, rest) ← flags.takeDigits? n (flags.skip cs)
    some (c :: digits, rest)

/-- Cuts at a closing brace; where blanks and comments do not count they are dropped from the part before it.  The
second flag says whether a comment is open. -/
def cutBrace? (ignoreSpace : Bool) : Bool → List Char → Option (List Char × List Char)
  | _, [] => none
  | true, c :: rest => cutBrace? ignoreSpace (c != '\n') rest
  | false, c :: rest =>
    if c = '\x7d' then some ([], rest)
    else if ignoreSpace && c = '#' then cutBrace? ignoreSpace true rest
    else if ignoreSpace && isBlank c then cutBrace? ignoreSpace false rest
    else (cutBrace? ignoreSpace false rest).map fun cut => (c :: cut.1, cut.2)

/-- Reads the digits of a character given by number; `cs` stands behind the letter. -/
def readCodePoint? (flags : Flags) (letter : Char) (cs : List Char) : Option (Atom × List Char) :=
  match flags.skip cs with
  | '\x7b' :: cs => do
    let (digits, rest) ← cutBrace? flags.ignoreSpace false cs
    if digits.isEmpty then none
    else
      let n ← hexNumber? 0 digits
      let c ← charOf? n
      some (.literal c, flags.skip rest)
  | cs => do
    let count := if letter = 'x' then 2 else if letter = 'u' then 4 else 8
    let (digits, rest) ← flags.takeDigits? count cs
    let n ← hexNumber? 0 digits
    if letter = 'x' && 127 < n then some (.byte n, rest)
    else
      let c ← charOf? n
      some (.literal c, rest)

/-- The texts before and behind `!=`. -/
def cutUnequal? : List Char → Option (List Char × List Char)
  | [] => none
  | '!' :: '=' :: rest => some ([], rest)
  | c :: rest => (cutUnequal? rest).map fun cut => (c :: cut.1, cut.2)

/-- The set that the inside of `\p` braces names.  Between a property and its value stand `!=`, a colon or an equals
sign, and all three mean the same. -/
def bracedSet? (inner : List Char) : Option CharSet :=
  match (cutUnequal? inner).orElse fun _ => (cutChars? ':' inner).orElse fun _ => cutChars? '=' inner with
  | some (name, value) => valueSet? (String.ofList name) (String.ofList value)
  | none => namedSet? (String.ofList inner)

/-- Reads a property; `cs` stands behind the letter. -/
def readProperty? (flags : Flags) (negated : Bool) (cs : List Char) : Option (Atom × List Char) :=
  if flags.asciiOnly then none
  else match flags.skip cs with
    | '\x7b' :: cs => do
      let (inner, rest) ← cutBrace? flags.ignoreSpace false cs
      let set ← bracedSet? inner
      some (.property negated set, rest)
    | c :: cs => do
      if c = '\\' then none
      else
        let set ← namedSet? (String.ofList [c])
        some (.property negated set, flags.skip cs)
    | [] => none

/-- Reads the name in braces that may follow `\b`. -/
def readBoundary? (flags : Flags) (cs : List Char) : Option (Look × List Char) :=
  match cs with
  | '\x7b' :: inside =>
    match flags.skip inside with
    | [] => none
    | c :: _ =>
      if !(c.isAlpha || c == '-') then some (.wordBoundary flags.asciiOnly, cs)
      else do
        let (name, rest) ← cutBrace? flags.ignoreSpace false inside
        match String.ofList name with
        | "start" => some (.wordStart flags.asciiOnly, rest)
        | "end" => some (.wordEnd flags.asciiOnly, rest)
        | "start-half" => some (.wordStartHalf flags.asciiOnly, rest)
        | "end-half" => some (.wordEndHalf flags.asciiOnly, rest)
        | _ => none
  | _ => some (.wordBoundary flags.asciiOnly, cs)

/-- Reads what stands behind a backslash. -/
def readEscape? (flags : Flags) : List Char → Option (Atom × List Char)
  | [] => none
  | c :: rest =>
    if c.isDigit then none
    else if c = 'x' || c = 'u' || c = 'U' then readCodePoint? flags c rest
    else if c = 'p' || c = 'P' then readProperty? flags (c == 'P') rest
    else if "dswDSW".toList.contains c then
      (flags.shorthand? c.toLower).map fun set => (.shorthand c.isUpper set, rest)
    else if isEscapable c then some (.literal c, rest)
    else match c with
      | 'a' => some (.literal (Char.ofNat 7), rest)
      | 'f' => some (.literal (Char.ofNat 12), rest)
      | 't' => some (.literal '\t', rest)
      | 'n' => some (.literal '\n', rest)
      | 'r' => some (.literal '\r', rest)
      | 'v' => some (.literal (Char.ofNat 11), rest)
      | 'A' => some (.look .textStart, rest)
      | 'z' => some (.look .textEnd, rest)
      | 'b' => (readBoundary? flags rest).map fun found => (.look found.1, found.2)
      | 'B' => some (.look (.noWordBoundary flags.asciiOnly), rest)
      | '<' => some (.look (.wordStart flags.asciiOnly), rest)
      | '>' => some (.look (.wordEnd flags.asciiOnly), rest)
      | _ => none

/-! ### Sets in brackets -/

/-- A set that is being read: the operator and set on its left, and the members since. -/
structure OpenSet where
  negated : Bool
  left : Option (Nested CharSet × (CharSet → CharSet → CharSet))
  members : List (Nested CharSet)

/-- The set read so far. -/
def OpenSet.current (flags : Flags) (s : OpenSet) : Nested CharSet :=
  let right := CharSet.union (s.members.reverse.map (·.item))
  let depth := rowDepth (s.members.map (·.depth))
  match s.left with
  | none => ⟨right, depth⟩
  | some (left, op) => ⟨op (flags.closeCase left.item) (flags.closeCase right), max left.depth depth + 1⟩

/-- The set at its closing bracket. -/
def OpenSet.close? (flags : Flags) (s : OpenSet) : Option (Nested CharSet) :=
  let current := s.current flags
  (flags.negate? s.negated (flags.closeCase current.item)).map (⟨·, current.depth + 1⟩)

/-- Adds a member. -/
def OpenSet.push (s : OpenSet) (member : Nested CharSet) : OpenSet := { s with members := member :: s.members }

/-- Adds a member that is no set in brackets. -/
def OpenSet.pushPlain (s : OpenSet) (member : CharSet) : OpenSet := s.push ⟨member, 0⟩

/-- Drops leading dashes, counting them. -/
def leadingDashes (flags : Flags) : Nat → List Char → Nat × List Char
  | 0, cs => (0, cs)
  | n + 1, '-' :: cs =>
    let (count, rest) := leadingDashes flags n (flags.skip cs)
    (count + 1, rest)
  | _ + 1, cs => (0, cs)

/-- Opens a set; `cs` stands behind the bracket.  Dashes, or else a closing bracket, are members at the start. -/
def OpenSet.begin? (flags : Flags) (cs : List Char) : Option (OpenSet × List Char) :=
  let cs := flags.skip cs
  let (negated, cs) := match cs with
    | '^' :: rest => (true, flags.skip rest)
    | _ => (false, cs)
  let (dashes, cs) := leadingDashes flags cs.length cs
  let start : OpenSet := ⟨negated, none, List.replicate dashes ⟨.single '-', 0⟩⟩
  match cs with
  | [] => none
  | ']' :: rest => if dashes = 0 then some (start.pushPlain (.single ']'), flags.skip rest) else some (start, cs)
  | _ => some (start, cs)

/-- Reads a set name between colons, which may be negated; `cs` stands behind the inner bracket. -/
def readAsciiClass? : List Char → Option (Bool × CharSet × List Char)
  | ':' :: cs =>
    let (negated, cs) := match cs with
      | '^' :: rest => (true, rest)
      | _ => (false, cs)
    match cutChars? ':' cs with
    | some (name, ']' :: rest) => (asciiClass? (String.ofList name)).map fun set => (negated, set, rest)
    | _ => none
  | _ => none

/-- The character of an atom that may bound a range. -/
def Atom.bound? (flags : Flags) : Atom → Option Char
  | .literal c => if flags.asciiOnly && 127 < c.toNat then none else some c
  | .byte n => if flags.asciiOnly then none else some (Char.ofNat n)
  | _ => none

/-- The set of an atom that may stand in brackets. -/
def Atom.member? (flags : Flags) : Atom → Option CharSet
  | .shorthand negated set => flags.negate? negated set
  | .property negated set => some (.negateIf negated (flags.closeCase set))
  | atom => (atom.bound? flags).map .single

/-- Reads one character or escape inside brackets. -/
def readSetAtom? (flags : Flags) : List Char → Option (Atom × List Char)
  | [] => none
  | '\\' :: rest => readEscape? flags rest
  | c :: rest => some (.literal c, flags.skip rest)

/-- What stands behind a dash when blanks are passed over, and then one comment sign too. -/
def afterDash? (commented : Bool) : List Char → Option Char
  | [] => none
  | c :: rest =>
    if isBlank c then afterDash? commented rest
    else if !commented && c = '#' then afterDash? true rest
    else some c

/-- Whether a dash before `cs` is no sign of a range: a bracket or another dash follows it. -/
def Flags.isPlainDash (flags : Flags) (cs : List Char) : Bool :=
  match if flags.ignoreSpace then afterDash? false cs else cs.head? with
  | some c => c == ']' || c == '-'
  | none => false

/-- Reads one member of a set, which may be a range. -/
def readMember? (flags : Flags) (cs : List Char) : Option (CharSet × List Char) := do
  let (first, rest) ← readSetAtom? flags cs
  let rest := flags.skip rest
  match rest with
  | [] => none
  | '-' :: behind =>
    if flags.isPlainDash behind then
      let set ← first.member? flags
      some (set, rest)
    else
      let (last, rest) ← readSetAtom? flags (flags.skip behind)
      let low ← first.bound? flags
      let high ← last.bound? flags
      if low ≤ high then some (.range low high, rest) else none
  | _ =>
    let set ← first.member? flags
    some (set, rest)

/-- Reads the inside of brackets; `outer` holds the sets around the open one. -/
def readSet? (flags : Flags) : Nat → List OpenSet → OpenSet → List Char → Option (Nested CharSet × List Char)
  | 0, _, _, _ => none
  | fuel + 1, outer, s, cs =>
    match flags.skip cs with
    | [] => none
    | '[' :: rest =>
      match readAsciiClass? rest with
      | some (negated, set, rest) => do
        let set ← flags.negate? negated (flags.closeCase set)
        readSet? flags fuel outer (s.pushPlain set) rest
      | none => do
        let (inner, rest) ← OpenSet.begin? flags rest
        readSet? flags fuel (s :: outer) inner rest
    | ']' :: rest => do
      let set ← s.close? flags
      match outer with
      | [] => some (set, rest)
      | parent :: outer => readSet? flags fuel outer (parent.push set) rest
    | '&' :: '&' :: rest => readSet? flags fuel outer ⟨s.negated, some (s.current flags, .both), []⟩ rest
    | '-' :: '-' :: rest => readSet? flags fuel outer ⟨s.negated, some (s.current flags, .without), []⟩ rest
    | '~' :: '~' :: rest => readSet? flags fuel outer ⟨s.negated, some (s.current flags, .oneOf), []⟩ rest
    | cs => do
      let (member, rest) ← readMember? flags cs
      readSet? flags fuel outer (s.pushPlain member) rest

/-- Reads a set in brackets; `cs` stands behind the bracket. -/
def readBracket? (flags : Flags) (cs : List Char) : Option (Nested CharSet × List Char) := do
  let (start, rest) ← OpenSet.begin? flags cs
  readSet? flags (cs.length + 1) [] start rest

/-! ### Flags and names of groups -/

/-- Sets one flag. -/
def Flags.set? (flags : Flags) (letter : Char) (on : Bool) : Option Flags :=
  match letter with
  | 'i' => some { flags with ignoreCase := on }
  | 'm' => some { flags with multiLine := on }
  | 's' => some { flags with dotAll := on }
  | 'U' => some { flags with swapGreed := on }
  | 'R' => some { flags with crlf := on }
  | 'x' => some { flags with ignoreSpace := on }
  | 'u' => some { flags with asciiOnly := !on }
  | _ => none

/-- Reads flag letters up to the `:` or `)` behind them; `seen` are the letters so far, the last one first. -/
def readFlags? : Flags → Bool → List Char → List Char → Option (Flags × List Char × List Char)
  | _, _, _, [] => none
  | flags, on, seen, c :: rest =>
    if c = ':' || c = ')' then
      if seen.head? = some '-' then none else some (flags, seen, c :: rest)
    else if seen.contains c then none
    else if c = '-' then readFlags? flags false (c :: seen) rest
    else do
      let flags ← flags.set? c on
      readFlags? flags on (c :: seen) rest

/-- Whether a character may stand in a group's name. -/
def isNameChar (first : Bool) (c : Char) : Bool :=
  c == '_' || (if first then isAlphabetic c else c == '.' || c == '[' || c == ']' || isAlphanumeric c)

/-- Reads a group's name up to the closing bracket. -/
def readName? (cs : List Char) : Option (String × List Char) := do
  let (name, rest) ← cutChars? '>' cs
  match name with
  | [] => none
  | c :: more =>
    if isNameChar true c && more.all (isNameChar false) then some (String.ofList name, rest) else none

/-! ### Repetition bounds -/

/-- Takes the digits at the front, with what does not count dropped behind each; `fuel` exceeds their number. -/
def Flags.takeNumber (flags : Flags) : Nat → List Char → List Char × List Char
  | fuel + 1, c :: cs =>
    if c.isDigit then
      let (digits, rest) := flags.takeNumber fuel (flags.skip cs)
      (c :: digits, rest)
    else ([], c :: cs)
  | _, cs => ([], cs)

/-- Reads a number between blanks. -/
def readCount (flags : Flags) (cs : List Char) : List Char × List Char :=
  let (digits, rest) := flags.takeNumber (cs.length + 1) (cs.dropWhile isBlank)
  (digits, flags.skip (rest.dropWhile isBlank))

/-- The value of the digits of a bound, which has 32 bits. -/
def countValue? (digits : List Char) : Option Nat :=
  if digits.isEmpty then none
  else
    let n := digits.foldl (fun n c => n * 10 + (c.toNat - 48)) 0
    if n < 4294967296 then some n else none

/-- Reads the bounds of a counted repetition; `cs` stands behind the brace. -/
def readBounds? (flags : Flags) (cs : List Char) : Option (Nat × Option Nat × List Char) :=
  let (first, rest) := readCount flags (flags.skip cs)
  match rest with
  | '\x7d' :: rest => do
    let n ← countValue? first
    some (n, some n, rest)
  | ',' :: rest =>
    match flags.skip rest with
    | '\x7d' :: rest => do
      let n ← countValue? first
      some (n, none, rest)
    | rest => do
      let low ← countValue? first
      let (second, rest) := readCount flags rest
      let high ← countValue? second
      match rest with
      | '\x7d' :: rest => if low ≤ high then some (low, some high, rest) else none
      | _ => none
  | _ => none

/-! ### The whole pattern -/

/-- A repetition, with the bounds of one that can only match nothing cut down to one. -/
def Node.repeated (low : Nat) (high : Option Nat) (greedy : Bool) (body : Node) : Node :=
  if body.onlyEmpty then .repetition (min low 1) (some (min (high.getD 1) 1)) greedy body
  else .repetition low high greedy body

/-- The parts of a branch; a flag setting is one without a node. -/
abbrev Parts := List (Nested (Option Node))

/-- Repeats the last part; a flag setting and the start of a branch cannot be repeated. -/
def repeatLast? (low : Nat) (high : Option Nat) (greedy : Bool) : Parts → Option Parts
  | ⟨some node, depth⟩ :: parts => some (⟨some (.repeated low high greedy node), depth + 1⟩ :: parts)
  | _ => none

/-- The node of an atom outside brackets. -/
def Atom.node? (flags : Flags) : Atom → Option Node
  | .literal c => some (.char (flags.literal c))
  | .byte n => if flags.asciiOnly then none else some (.char (flags.literal (Char.ofNat n)))
  | .look kind => some (.look kind)
  | .shorthand negated set => if negated && flags.asciiOnly then none else some (.char (.negateIf negated set))
  | .property negated set => some (.char (.negateIf negated (flags.closeCase set)))

/-- The parts of a branch, the last one first, as one pattern. -/
def branchOf (parts : Parts) : Nested Node :=
  ⟨.ofParts (parts.reverse.filterMap (·.item)), rowDepth (parts.map (·.depth))⟩

/-- Branches, the last one first, as one pattern. -/
def choiceOf (branches : List (Nested Node)) : Nested Node :=
  ⟨.ofBranches (branches.reverse.map (·.item)), rowDepth (branches.map (·.depth))⟩

/-- What opens behind a parenthesis: a flag setting, or a group with its flags and index. -/
inductive Opening where
  | setting (flags : Flags) (rest : List Char)
  | group (flags : Flags) (index : Option Nat) (name : Option String) (rest : List Char)

/-- Reads the start of a group; `cs` stands behind the parenthesis. -/
def readOpening? (r : Reader) (cs : List Char) : Option Opening :=
  match r.flags.skip cs with
  | '?' :: 'P' :: '<' :: rest | '?' :: '<' :: rest =>
    match rest with
    | '=' :: _ | '!' :: _ => none
    | _ => do
      let (name, rest) ← readName? rest
      if r.names.contains name then none
      else some (.group r.flags (some (r.groups + 1)) (some name) rest)
  | '?' :: '=' :: _ | '?' :: '!' :: _ => none
  | '?' :: rest => do
    let (flags, seen, rest) ← readFlags? r.flags true [] rest
    match rest with
    | ')' :: rest => if seen.isEmpty then none else some (.setting flags rest)
    | ':' :: rest => some (.group flags none none rest)
    | _ => none
  | rest => some (.group r.flags (some (r.groups + 1)) none rest)

/-- A trailing `?` turns the preference of a repetition round. -/
def readGreed (flags : Flags) : List Char → Bool × List Char
  | '?' :: rest => (flags.swapGreed, rest)
  | rest => (!flags.swapGreed, rest)

/-- Reads up to the end or to the parenthesis that closes the group; `parts` and `branches` are reversed. -/
def readBranches? : Nat → Reader → Parts → List (Nested Node) → Option (Nested Node × Reader)
  | 0, _, _, _ => none
  | fuel + 1, r, parts, branches =>
    let finish (rest : List Char) : Option (Nested Node × Reader) :=
      some (choiceOf (branchOf parts :: branches), { r with rest })
    let repeated (low : Nat) (high : Option Nat) (greedy : Bool) (rest : List Char) : Option (Nested Node × Reader) :=
      match repeatLast? low high greedy parts with
      | some parts => readBranches? fuel { r with rest } parts branches
      | none => none
    let plain (node : Node) (rest : List Char) : Option (Nested Node × Reader) :=
      readBranches? fuel { r with rest } (⟨some node, 0⟩ :: parts) branches
    match r.flags.skip r.rest with
    | [] => finish []
    | ')' :: rest => finish (')' :: rest)
    | '|' :: rest => readBranches? fuel { r with rest } [] (branchOf parts :: branches)
    | '(' :: rest =>
      match readOpening? r rest with
      | none => none
      | some (.setting flags rest) => readBranches? fuel { r with rest, flags } (⟨none, 0⟩ :: parts) branches
      | some (.group flags index name rest) =>
        let inner : Reader := ⟨rest, flags, r.groups + (if index.isSome then 1 else 0), name.toList ++ r.names⟩
        match readBranches? fuel inner [] [] with
        | some (body, after) =>
          match after.rest with
          | ')' :: rest =>
            let group : Nested (Option Node) := ⟨some (.group index body.item), body.depth + 1⟩
            readBranches? fuel { after with rest, flags := r.flags } (group :: parts) branches
          | _ => none
        | none => none
    | '[' :: rest =>
      match readBracket? r.flags rest with
      | some (set, rest) => readBranches? fuel { r with rest } (⟨some (.char set.item), set.depth⟩ :: parts) branches
      | none => none
    | '?' :: rest => let (greedy, rest) := readGreed r.flags rest; repeated 0 (some 1) greedy rest
    | '*' :: rest => let (greedy, rest) := readGreed r.flags rest; repeated 0 none greedy rest
    | '+' :: rest => let (greedy, rest) := readGreed r.flags rest; repeated 1 none greedy rest
    | '\x7b' :: rest =>
      match readBounds? r.flags rest with
      | some (low, high, rest) =>
        let (greedy, rest) := readGreed r.flags (r.flags.skip rest)
        repeated low high greedy rest
      | none => none
    | '\\' :: rest =>
      match readEscape? r.flags rest with
      | some (atom, rest) =>
        match atom.node? r.flags with
        | some node => plain node rest
        | none => none
      | none => none
    | '.' :: rest =>
      match r.flags.dot? with
      | some set => plain (.char set) rest
      | none => none
    | '^' :: rest => plain (.look (if r.flags.multiLine then .lineStart r.flags.crlf else .textStart)) rest
    | '$' :: rest => plain (.look (if r.flags.multiLine then .lineEnd r.flags.crlf else .textEnd)) rest
    | c :: rest => plain (.char (r.flags.literal c)) rest

/-- Patterns that nest deeper are refused, and so are those that are too heavy. -/
def maxDepth : Nat := 250

/-- Reads a pattern. -/
def Node.parse? (ignoreCase : Bool) (text : String) : Option Node :=
  let start : Reader := ⟨text.toList, .start ignoreCase, 0, []⟩
  match readBranches? (text.toList.length + 1) start [] [] with
  | some (⟨node, depth⟩, r) =>
    if r.rest.isEmpty && depth ≤ maxDepth && node.isLight then some node else none
  | none => none

end Reroute.Regex
