import Mathlib.Data.List.Chain
import Mathlib.Data.List.TakeWhile
import Mathlib.Order.MinMax
import Reroute.Proofs.Template.Compile
import Reroute.Proofs.Template.Spans

/-!
# Templates inside templates

The content of braces may ask for a template inside of it: the argument of an operation, or the content itself where a
brace comes first.  Such a template is balanced, because it is cut off behind a colon that no brace stands before, or at
blanks; and since the braces around the content are gone, it nests less deep (`Calls.nesting_lt`).  So it is cut into
spans as the whole was, the levels that the compiler counts down never run out, and a fault of braces is always one of
the whole template (`Names.compile_nested`).
-/

namespace Reroute

namespace Template

/-! ### The depth of nesting -/

/-- The most braces that are open anywhere in a text that begins with `depth` open ones. -/
def deepest (depth : Nat) : List Char → Nat
  | [] => depth
  | c :: rest => max depth (deepest (openBehind depth c) rest)

/-- How deep the braces of a text nest. -/
def nestingDepth (text : List Char) : Nat := deepest 0 text

private theorem within_iff {limit depth : Nat} {text : List Char} :
    Within limit depth text ↔ deepest depth text ≤ limit := by
  induction text generalizing depth with
  | nil => exact within_nil
  | cons c rest ih => rw [within_cons, ih, deepest, Nat.max_le]

private theorem le_deepest (depth : Nat) (text : List Char) : depth ≤ deepest depth text := by
  cases text with
  | nil => exact Nat.le_refl depth
  | cons c rest => exact Nat.le_max_left _ _

private theorem deepest_append (depth : Nat) (front back : List Char) :
    deepest depth (front ++ back) = max (deepest depth front) (deepest (depthBehind depth front) back) := by
  induction front generalizing depth with
  | nil => exact (Nat.max_eq_right (le_deepest depth back)).symm
  | cons c front ih => rw [List.cons_append, deepest, deepest, ih, depthBehind_cons, Nat.max_assoc]

private theorem openBehind_mono {depth other : Nat} (h : depth ≤ other) (c : Char) :
    openBehind depth c ≤ openBehind other c := by
  unfold openBehind
  split
  · omega
  · split <;> omega

private theorem deepest_mono {depth other : Nat} (h : depth ≤ other) (text : List Char) :
    deepest depth text ≤ deepest other text := by
  induction text generalizing depth other with
  | nil => exact h
  | cons c rest ih => exact max_le_max h (ih (openBehind_mono h c))

/-- A part of a text nests no deeper than the text. -/
private theorem nesting_le_of_infix {inner text : List Char} (h : inner <:+: text) :
    nestingDepth inner ≤ nestingDepth text := by
  obtain ⟨front, back, rfl⟩ := h
  have hinner : nestingDepth inner ≤ deepest (depthBehind 0 front) inner := deepest_mono (Nat.zero_le _) inner
  rw [nestingDepth, nestingDepth, deepest_append, deepest_append]
  exact Nat.le_trans hinner (Nat.le_trans (Nat.le_max_right _ _) (Nat.le_max_left _ _))

/-- Where no brace closes one that was open before, those that were open before add to the depth. -/
private theorem deepest_of_openBehind? {text : List Char} {inner behind : Nat}
    (h : openBehind? inner text = some behind)
    (depth : Nat) : deepest (depth + inner) text = depth + deepest inner text := by
  induction text generalizing inner with
  | nil => rfl
  | cons c rest ih =>
    have hrest : deepest (openBehind (depth + inner) c) rest = depth + deepest (openBehind inner c) rest := by
      simp only [openBehind?] at h
      unfold openBehind
      split at h
      · rename_i hopen
        rw [if_pos hopen, if_pos hopen]
        exact ih h
      · rename_i hopen
        rw [if_neg hopen, if_neg hopen]
        split at h
        · rename_i hclose
          rw [if_pos hclose, if_pos hclose]
          cases inner with
          | zero => cases h
          | succ inner => exact ih h
        · rename_i hclose
          rw [if_neg hclose, if_neg hclose]
          exact ih h
    rw [deepest, deepest, hrest, Nat.add_max_add_left]

/-- A text that opens no brace has no more open ones than it begins with. -/
private theorem deepest_of_not_mem {text : List Char} (h : '\x7b' ∉ text) (depth : Nat) :
    deepest depth text = depth := by
  induction text generalizing depth with
  | nil => rfl
  | cons c rest ih =>
    obtain ⟨hc, hrest⟩ := List.ne_and_not_mem_of_not_mem_cons h
    have hle : openBehind depth c ≤ depth := by
      rw [openBehind, if_neg (Ne.symm hc)]
      split <;> omega
    rw [deepest, ih hrest, Nat.max_eq_left hle]

/-- Braces around a balanced text nest one level deeper. -/
private theorem nestingDepth_braces {content : List Char} (h : Balanced content) :
    nestingDepth ('\x7b' :: content ++ ['\x7d']) = nestingDepth content + 1 := by
  have hinside : deepest (1 + 0) content = 1 + deepest 0 content := deepest_of_openBehind? h 1
  have hclosing : deepest (depthBehind 1 content) ['\x7d'] = 1 := by
    rw [h.depthBehind]
    rfl
  rw [nestingDepth, List.cons_append, deepest]
  show max 0 (deepest (1 + 0) (content ++ ['\x7d'])) = deepest 0 content + 1
  rw [deepest_append, hinside, hclosing]
  omega

/-- The content of braces nests less deep than what the spans were cut from. -/
private theorem nesting_lt_of_braced {spans : List Span} {content : List Char} (h : .braced content ∈ spans)
    (hcontent : Balanced content) : nestingDepth content < nestingDepth (sourceOf spans) := by
  obtain ⟨front, back, rfl⟩ := List.append_of_mem h
  have hpart : '\x7b' :: content ++ ['\x7d'] <:+: sourceOf (front ++ .braced content :: back) :=
    ⟨sourceOf front, sourceOf back, by simp [Span.source]⟩
  have hle := nesting_le_of_infix hpart
  rw [nestingDepth_braces hcontent] at hle
  omega

/-! ### Parts of balanced texts -/

/-- What is behind a part without an opening brace: nothing in that part closes one either. -/
private theorem Balanced.of_append {front back : List Char} (h : Balanced (front ++ back)) (hopen : '\x7b' ∉ front) :
    Balanced back := by
  induction front with
  | nil => exact h
  | cons c front ih =>
    rw [List.mem_cons, not_or] at hopen
    obtain ⟨hc, hfront⟩ := hopen
    have h' : openBehind? 0 (c :: (front ++ back)) = some 0 := h
    simp only [openBehind?, if_neg (Ne.symm hc)] at h'
    split at h'
    · cases h'
    · exact ih h' hfront

private theorem openBehind?_of_not_mem {text : List Char} (hopen : '\x7b' ∉ text) (hclose : '\x7d' ∉ text)
    (depth : Nat) :
    openBehind? depth text = some depth := by
  induction text with
  | nil => rfl
  | cons c rest ih =>
    rw [List.mem_cons, not_or] at hopen hclose
    simp only [openBehind?, if_neg (Ne.symm hopen.1), if_neg (Ne.symm hclose.1)]
    exact ih hopen.2 hclose.2

/-- A text without braces in front of a balanced one. -/
private theorem Balanced.append_of_not_mem {front back : List Char} (h : Balanced back) (hopen : '\x7b' ∉ front)
    (hclose : '\x7d' ∉ front) : Balanced (front ++ back) := by
  rw [Balanced, openBehind?_append, openBehind?_of_not_mem hopen hclose]
  exact h

private theorem nestingDepth_append_of_not_mem {front back : List Char} (hopen : '\x7b' ∉ front)
    (hclose : '\x7d' ∉ front) :
    nestingDepth (front ++ back) = nestingDepth back := by
  have hfront : Balanced front := openBehind?_of_not_mem hopen hclose 0
  rw [nestingDepth, deepest_append, deepest_of_not_mem hopen, hfront.depthBehind]
  exact Nat.max_eq_right (Nat.zero_le _)

/-- What is in front of a part without braces. -/
private theorem Balanced.of_append_left {front back : List Char} (h : Balanced (front ++ back)) (hopen : '\x7b' ∉ back)
    (hclose : '\x7d' ∉ back) : Balanced front := by
  have h' : openBehind? 0 (front ++ back) = some 0 := h
  rw [openBehind?_append] at h'
  obtain ⟨depth, hfront, hback⟩ := Option.bind_eq_some_iff.mp h'
  rw [openBehind?_of_not_mem hopen hclose] at hback
  rwa [Option.some.inj hback] at hfront

/-- A text without the blanks at its ends. -/
private theorem exists_eq_append_trimChars (text : List Char) :
    ∃ front back, text = front ++ trimChars text ++ back ∧ (∀ c ∈ front, Text.isBlank c = true) ∧
      ∀ c ∈ back, Text.isBlank c = true := by
  let behind := text.dropWhile Text.isBlank
  refine ⟨text.takeWhile Text.isBlank, (behind.reverse.takeWhile Text.isBlank).reverse, ?_,
    fun c => List.mem_takeWhile_imp, fun c hc => List.mem_takeWhile_imp (List.mem_reverse.mp hc)⟩
  have hback : trimChars text ++ (behind.reverse.takeWhile Text.isBlank).reverse = behind := by
    rw [trimChars, Text.dropEndWhile, ← List.reverse_append, List.takeWhile_append_dropWhile, List.reverse_reverse]
  rw [List.append_assoc, hback, List.takeWhile_append_dropWhile]

private theorem Balanced.trimChars {text : List Char} (h : Balanced text) : Balanced (trimChars text) := by
  obtain ⟨front, back, htext, hfront, hback⟩ := exists_eq_append_trimChars text
  have hbrace : ∀ part : List Char, (∀ c ∈ part, Text.isBlank c = true) → '\x7b' ∉ part ∧ '\x7d' ∉ part :=
    fun part hpart => ⟨fun hmem => absurd (hpart _ hmem) (by decide), fun hmem => absurd (hpart _ hmem) (by decide)⟩
  rw [htext] at h
  exact (h.of_append_left (hbrace back hback).1 (hbrace back hback).2).of_append (hbrace front hfront).1

private theorem trimChars_infix (text : List Char) : trimChars text <:+: text := by
  obtain ⟨front, back, htext, -, -⟩ := exists_eq_append_trimChars text
  exact ⟨front, back, htext.symm⟩

/-! ### Templates that a template asks for -/

/-- The template that a content asks for: what its operation is applied to, or all of it, where it is not headed and has
braces of its own. -/
inductive Asks (content : List Char) : List Char → Prop
  | argument {head rest : List Char} (hhead : Headed content head rest)
      (hkey : ∀ key : CaptureKey, (trimChars head).map Char.toUpper ≠ key.name.toList) : Asks content rest
  | content (hhead : ∀ head rest, ¬Headed content head rest) (hbrace : '\x7b' ∈ content) :
      Asks content (trimChars content)

/-- A template asks for another one inside of its braces. -/
def Calls (text inner : List Char) : Prop :=
  ∃ spans content, tokenize text = .ok spans ∧ .braced content ∈ spans ∧ Asks content inner

variable {content inner text : List Char}

private theorem Asks.balanced (h : Asks content inner) (hcontent : Balanced content) : Balanced inner := by
  cases h with
  | content hhead hbrace => exact hcontent.trimChars
  | @argument head rest hhead hkey =>
    obtain ⟨rfl, -, hbrace⟩ := hhead
    have hcolon : '\x7b' ∉ head ++ [':'] := by simp [hbrace]
    have hparts : head ++ ':' :: inner = (head ++ [':']) ++ inner := by simp
    rw [hparts] at hcontent
    exact hcontent.of_append hcolon

private theorem Asks.infix (h : Asks content inner) : inner <:+: content := by
  cases h with
  | content hhead hbrace => exact trimChars_infix content
  | @argument head rest hhead hkey =>
    obtain ⟨rfl, -, -⟩ := hhead
    exact ⟨head ++ [':'], [], by simp⟩

namespace Calls

private theorem balanced (h : Calls text inner) : Balanced inner := by
  obtain ⟨spans, content, hspans, hmem, hasks⟩ := h
  exact hasks.balanced ((tokenize_sound hspans).2 _ hmem)

theorem nesting_lt (h : Calls text inner) : nestingDepth inner < nestingDepth text := by
  obtain ⟨spans, content, hspans, hmem, hasks⟩ := h
  obtain ⟨hsource, hsound⟩ := tokenize_sound hspans
  calc nestingDepth inner ≤ nestingDepth content := nesting_le_of_infix hasks.infix
    _ < nestingDepth (sourceOf spans) := nesting_lt_of_braced hmem (hsound _ hmem)
    _ = nestingDepth text := by rw [hsource]

end Calls

private theorem exists_tokenize_iff :
    (∃ spans, tokenize text = .ok spans) ↔ nestingDepth text ≤ maxNesting ∧ depthBehind 0 text = 0 := by
  rw [tokenize, exists_spansFrom_iff (Nat.zero_le _), within_iff, nestingDepth]

namespace Calls

private theorem nesting_le (h : Calls text inner) : nestingDepth text ≤ maxNesting := by
  obtain ⟨spans, content, hspans, -, -⟩ := h
  exact (exists_tokenize_iff.mp ⟨spans, hspans⟩).1

private theorem exists_tokenize (h : Calls text inner) : ∃ spans, tokenize inner = .ok spans :=
  exists_tokenize_iff.mpr ⟨Nat.le_of_lt (Nat.lt_of_lt_of_le h.nesting_lt h.nesting_le), h.balanced.depthBehind 0⟩

/-- Each template of a chain is asked for by the one before it, so the chain is no longer than the first one is deep. -/
private theorem length_chain_le {chain : List (List Char)} (h : List.IsChain Calls (text :: chain)) :
    chain.length ≤ nestingDepth text := by
  induction chain generalizing text with
  | nil => exact Nat.zero_le _
  | cons inner chain ih =>
    obtain ⟨hcall, hchain⟩ := List.isChain_cons_cons.mp h
    exact Nat.lt_of_le_of_lt (ih hchain) hcall.nesting_lt

end Calls

end Template

/-! ### Compiling the templates inside -/

namespace Names

open Template

variable {names : Names} {compile : List Char → Except TemplateError Value} {content head rest text : List Char}

private theorem compileContent_of_key (hhead : Headed content head rest) (key : CaptureKey)
    (hkey : (trimChars head).map Char.toUpper = key.name.toList) :
    names.compileContent compile content = captureValue key rest := by
  rw [compileContent, splitHead?_eq_some.mpr ⟨head, hhead, rfl⟩]
  simp only [hkey, String.ofList_toList]
  cases key <;> rfl

private theorem compileContent_of_not_key (hhead : Headed content head rest)
    (hkey : ∀ key : CaptureKey, (trimChars head).map Char.toUpper ≠ key.name.toList) :
    names.compileContent compile content =
      names.operation (String.ofList (trimChars head)) >>= fun operation =>
        (compile rest).map (·.withOperation operation) := by
  have hchars : (String.ofList ((trimChars head).map Char.toUpper)).toList = _ := String.toList_ofList
  rw [compileContent, splitHead?_eq_some.mpr ⟨head, hhead, rfl⟩]
  simp only
  split
  · rename_i hmatch
    rw [hmatch] at hchars
    exact absurd hchars.symm (hkey .fromMatch)
  · rename_i hconditions
    rw [hconditions] at hchars
    exact absurd hchars.symm (hkey .fromConditions)
  · rfl

private theorem compileContent_of_not_headed (hhead : ∀ head rest, ¬Headed content head rest) :
    names.compileContent compile content =
      if '\x7b' ∈ content then compile (trimChars content) else .ok (.getter (plainGetter (trimChars content))) := by
  have hblank : Text.isBlank '\x7b' = false := by decide
  rw [compileContent, splitHead?_eq_none.mpr hhead]
  simp only [List.contains_iff_mem, mem_trimChars hblank]

/-- A content is headed by the name of a group or by another name, or it is not headed. -/
private theorem headed_cases (content : List Char) :
    (∃ head rest, Headed content head rest ∧
        ∃ key : CaptureKey, (trimChars head).map Char.toUpper = key.name.toList) ∨
      (∃ head rest, Headed content head rest ∧
        ∀ key : CaptureKey, (trimChars head).map Char.toUpper ≠ key.name.toList) ∨
      ∀ head rest, ¬Headed content head rest := by
  by_cases hheaded : ∃ head rest, Headed content head rest
  · obtain ⟨head, rest, hhead⟩ := hheaded
    by_cases hkey : ∃ key : CaptureKey, (trimChars head).map Char.toUpper = key.name.toList
    · exact .inl ⟨head, rest, hhead, hkey⟩
    · exact .inr (.inl ⟨head, rest, hhead, not_exists.mp hkey⟩)
  · exact .inr (.inr fun head rest hhead => hheaded ⟨head, rest, hhead⟩)

/-- What stands between braces is compiled with the help of the template that it asks for, and of no other. -/
private theorem compileContent_congr {other : List Char → Except TemplateError Value}
    (h : ∀ inner, Asks content inner → compile inner = other inner) :
    names.compileContent compile content = names.compileContent other content := by
  obtain ⟨head, rest, hhead, key, hkey⟩ | ⟨head, rest, hhead, hkey⟩ | hhead := headed_cases content
  · rw [compileContent_of_key hhead key hkey, compileContent_of_key hhead key hkey]
  · rw [compileContent_of_not_key hhead hkey, compileContent_of_not_key hhead hkey, h rest (.argument hhead hkey)]
  · rw [compileContent_of_not_headed hhead, compileContent_of_not_headed hhead]
    split
    · rename_i hbrace
      exact h _ (.content hhead hbrace)
    · rfl

/-- The same steps on the items of a list, one after the other. -/
private theorem mapM_congr {ε α β : Type} {f g : α → Except ε β} {items : List α}
    (h : ∀ item ∈ items, f item = g item) : items.mapM f = items.mapM g := by
  induction items with
  | nil => rfl
  | cons item items ih =>
    obtain ⟨hitem, hitems⟩ := List.forall_mem_cons.mp h
    rw [List.mapM_cons, List.mapM_cons, hitem, ih hitems]

private theorem compileSpans_congr {other : List Char → Except TemplateError Value} {spans : List Span}
    (hspans : tokenize text = .ok spans) (h : ∀ inner, Calls text inner → compile inner = other inner) :
    spans.mapM (names.compileSpan compile) = spans.mapM (names.compileSpan other) := by
  refine mapM_congr fun span hspan => ?_
  cases span with
  | literal run => rfl
  | braced content => exact compileContent_congr fun inner hinner => h inner ⟨spans, content, hspans, hspan, hinner⟩

/-- As long as there are more levels than a template nests deep, their number makes no difference. -/
private theorem compileWith_eq {levels other : Nat} (hlevels : nestingDepth text < levels)
    (hother : nestingDepth text < other) : names.compileWith levels text = names.compileWith other text := by
  induction levels generalizing other text with
  | zero => exact absurd hlevels (Nat.not_lt_zero _)
  | succ levels ih =>
    obtain ⟨other, rfl⟩ := Nat.exists_eq_add_one_of_ne_zero (Nat.ne_of_gt (Nat.zero_lt_of_lt hother))
    rw [compileWith_succ, compileWith_succ]
    cases hspans : tokenize text with
    | error fault => rfl
    | ok spans =>
      have hinside : ∀ inner, Calls text inner → names.compileWith levels inner = names.compileWith other inner :=
        fun inner hcall => ih (Nat.lt_of_lt_of_le hcall.nesting_lt (Nat.le_of_lt_succ hlevels))
          (Nat.lt_of_lt_of_le hcall.nesting_lt (Nat.le_of_lt_succ hother))
      simp only [compileSpans_congr hspans hinside]

/-! ### An operation in braces -/

/-- Braces around a balanced content are one span, if the content leaves a level for them. -/
private theorem compile_braces (names : Names) (hcontent : Balanced content)
    (hdepth : nestingDepth content < maxNesting) :
    names.compile (String.ofList ('\x7b' :: content ++ ['\x7d'])) =
      names.compileContent (names.compileWith maxNesting) content := by
  have hspans : tokenize ('\x7b' :: content ++ ['\x7d']) = .ok [.braced content] := by
    refine tokenize_eq_ok_iff.mpr ⟨by simp [sourceOf, Span.source], ⟨?_, by simp, ?_⟩, ?_⟩
    · intro span hspan
      obtain rfl := List.mem_singleton.mp hspan
      exact hcontent
    · intro run next hinfix
      have hlength := hinfix.length_le
      simp at hlength
    · rw [within_iff, ← nestingDepth, nestingDepth_braces hcontent]
      exact hdepth
  rw [compile, String.toList_ofList, compileWith_succ, hspans]
  simp only [List.mapM_cons, List.mapM_nil, compileSpan]
  cases names.compileContent (names.compileWith maxNesting) content <;> rfl

/-- A name in front of a colon, if it is not that of a group, adds its operation to what is compiled from the template
behind the colon. -/
theorem compile_operation (names : Names) {name input : String} (hcolon : ':' ∉ name.toList)
    (hopening : '\x7b' ∉ name.toList) (hclosing : '\x7d' ∉ name.toList)
    (hkey : ∀ key : CaptureKey, Text.lowerAscii (Text.trim name) ≠ Text.lowerAscii key.name)
    (hinput : Balanced input.toList) (hdepth : nestingDepth input.toList < maxNesting) :
    names.compile ("\x7b" ++ name ++ ":" ++ input ++ "\x7d") =
      names.operation (Text.trim name) >>= fun operation =>
        (names.compile input).map (·.withOperation operation) := by
  have hcontent : name.toList ++ ':' :: input.toList = (name.toList ++ [':']) ++ input.toList := by simp
  have hfront : '\x7b' ∉ name.toList ++ [':'] ∧ '\x7d' ∉ name.toList ++ [':'] := by simp [hopening, hclosing]
  have hbalanced : Balanced (name.toList ++ ':' :: input.toList) := by
    rw [hcontent]
    exact hinput.append_of_not_mem hfront.1 hfront.2
  have hnesting : nestingDepth (name.toList ++ ':' :: input.toList) < maxNesting := by
    rw [hcontent, nestingDepth_append_of_not_mem hfront.1 hfront.2]
    exact hdepth
  have hhead : Headed (name.toList ++ ':' :: input.toList) name.toList input.toList := ⟨rfl, hcolon, hopening⟩
  have hchars : ∀ key : CaptureKey, (trimChars name.toList).map Char.toUpper ≠ key.name.toList := by
    intro key heq
    refine hkey key ?_
    show Text.lowerAscii (String.ofList (trimChars name.toList)) = Text.lowerAscii key.name
    rw [← Text.lowerAscii_ofList_map_toUpper, heq, String.ofList_toList]
  have htext : "\x7b" ++ name ++ ":" ++ input ++ "\x7d" =
      String.ofList ('\x7b' :: (name.toList ++ ':' :: input.toList) ++ ['\x7d']) := by
    rw [← String.toList_inj]
    simp
  rw [htext, compile_braces names hbalanced hnesting, compileContent_of_not_key hhead hchars, compile,
    compileWith_eq hdepth (Nat.lt_succ_of_lt hdepth)]
  rfl

/-! ### Faults of braces -/

/-- A fault that is not one of braces. -/
def BracesAside (fault : TemplateError) : Prop := ∀ braces, fault ≠ .braces braces

private theorem captureValue_fails (key : CaptureKey) (index : List Char) :
    (captureValue key index).Fails BracesAside := by
  unfold captureValue
  split
  · exact .ok _
  · exact .error fun _ => nofun

private theorem operation_fails (names : Names) (name : String) : (names.operation name).Fails BracesAside := by
  unfold operation
  split
  · exact .ok _
  · split
    · exact .ok _
    · split
      · exact .error fun _ => nofun
      · split
        · exact .ok _
        · exact .error fun _ => nofun

private theorem compileContent_fails (h : ∀ inner, Asks content inner → (compile inner).Fails BracesAside) :
    (names.compileContent compile content).Fails BracesAside := by
  obtain ⟨head, rest, hhead, key, hkey⟩ | ⟨head, rest, hhead, hkey⟩ | hhead := headed_cases content
  · rw [compileContent_of_key hhead key hkey]
    exact captureValue_fails key rest
  · rw [compileContent_of_not_key hhead hkey]
    exact (operation_fails names _).bind fun _ => (h rest (.argument hhead hkey)).map _
  · rw [compileContent_of_not_headed hhead]
    split
    · rename_i hbrace
      exact h _ (.content hhead hbrace)
    · exact .ok _

/-- A template that is cut into spans fails on no braces. -/
private theorem compileWith_fails {levels : Nat} (hlevels : nestingDepth text < levels)
    (h : ∃ spans, tokenize text = .ok spans) : (names.compileWith levels text).Fails BracesAside := by
  induction levels generalizing text with
  | zero => exact absurd hlevels (Nat.not_lt_zero _)
  | succ levels ih =>
    obtain ⟨spans, hspans⟩ := h
    have hparts : (spans.mapM (names.compileSpan (names.compileWith levels))).Fails BracesAside := by
      refine .mapM fun span hspan => ?_
      cases span with
      | literal run => exact .ok _
      | braced content =>
        refine compileContent_fails fun inner hasks => ?_
        have hcall : Calls text inner := ⟨spans, content, hspans, hspan, hasks⟩
        exact ih (Nat.lt_of_lt_of_le hcall.nesting_lt (Nat.le_of_lt_succ hlevels)) hcall.exists_tokenize
    rw [compileWith_succ, hspans]
    exact hparts.bind fun _ => .ok _

/-- A template is compiled from its spans and from what the templates that it asks for compile to, however those are
compiled.  Each of them is balanced, nests less deep and is cut into spans, and templates ask for one another over 32
steps at most; so the only faults of braces are those of the template itself. -/
theorem compile_nested (names : Names) (text : String) :
    (∀ inside : List Char → Except TemplateError Value,
        (∀ inner, Calls text.toList inner → inside inner = names.compile (String.ofList inner)) →
          names.compile text =
            match tokenize text.toList with
            | .error fault => .error (.braces fault)
            | .ok spans => spans.mapM (names.compileSpan inside) >>= fun parts => .ok (joinParts parts)) ∧
      (∀ fault, names.compile text = .error (.braces fault) ↔ tokenize text.toList = .error fault) ∧
      (∀ inner, Calls text.toList inner →
        Balanced inner ∧ nestingDepth inner < nestingDepth text.toList ∧ ∃ spans, tokenize inner = .ok spans) ∧
      ∀ chain, List.IsChain Calls (text.toList :: chain) → chain.length ≤ 32 := by
  refine ⟨?_, ?_, ?_, ?_⟩
  · intro inside hinside
    rw [compile, compileWith_succ]
    cases hspans : tokenize text.toList with
    | error fault => rfl
    | ok spans =>
      have hlevels : ∀ inner, Calls text.toList inner → names.compileWith maxNesting inner = inside inner := by
        intro inner hcall
        have hinner : nestingDepth inner < maxNesting := Nat.lt_of_lt_of_le hcall.nesting_lt hcall.nesting_le
        rw [hinside inner hcall, compile, String.toList_ofList]
        exact compileWith_eq hinner (Nat.lt_succ_of_lt hinner)
      simp only [compileSpans_congr hspans hlevels]
  · intro fault
    cases hspans : tokenize text.toList with
    | error other =>
      have hcompile : names.compile text = .error (.braces other) := by
        rw [compile, compileWith_succ, hspans]
      simp [hcompile]
    | ok spans =>
      have hnesting := (exists_tokenize_iff.mp ⟨spans, hspans⟩).1
      have hfails : (names.compile text).Fails BracesAside :=
        compileWith_fails (Nat.lt_succ_of_le hnesting) ⟨spans, hspans⟩
      exact iff_of_false (fun h => hfails _ h fault rfl) (by simp)
  · intro inner hcall
    exact ⟨hcall.balanced, hcall.nesting_lt, hcall.exists_tokenize⟩
  · intro chain hchain
    cases chain with
    | nil => exact Nat.zero_le _
    | cons inner chain =>
      have hcall := (List.isChain_cons_cons.mp hchain).1
      exact Nat.le_trans (Calls.length_chain_le hchain) hcall.nesting_le

/-- A group inside of braces that are the argument of an operation. -/
def wrapped : List Char := "\x7bupper:\x7b \x7bR:1\x7d \x7d\x7d".toList

theorem compile_nested_wrapped :
    let names : Names := ⟨[], .empty⟩
    let argument := "\x7b \x7bR:1\x7d \x7d".toList
    Calls wrapped argument ∧ Calls argument "\x7bR:1\x7d".toList ∧
      names.compile (String.ofList wrapped) =
        [Span.braced "upper:\x7b \x7bR:1\x7d \x7d".toList].mapM
            (names.compileSpan fun inner => names.compile (String.ofList inner)) >>=
          (fun parts => .ok (joinParts parts)) ∧
      (Balanced argument ∧ nestingDepth argument < nestingDepth wrapped ∧ ∃ spans, tokenize argument = .ok spans) ∧
      [argument, "\x7bR:1\x7d".toList].length ≤ 32 ∧
      names.compile "a\x7bupper:\x7bR:1\x7d" = .error (.braces (.unbalanced 1)) := by
  intro names argument
  have hoperation : Headed "upper:\x7b \x7bR:1\x7d \x7d".toList "upper".toList argument := by
    refine ⟨rfl, by decide, by decide⟩
  have hkey : ∀ key : CaptureKey, (trimChars "upper".toList).map Char.toUpper ≠ key.name.toList := by
    intro key
    cases key <;> decide
  have hbare : ∀ head rest, ¬Headed " \x7bR:1\x7d ".toList head rest :=
    splitHead?_eq_none.mp (by decide)
  have hcall : Calls wrapped argument := ⟨_, _, rfl, List.mem_singleton.mpr rfl, .argument hoperation hkey⟩
  have hinner : Calls argument "\x7bR:1\x7d".toList :=
    ⟨_, _, rfl, List.mem_singleton.mpr rfl, .content hbare (by decide)⟩
  have hchain : List.IsChain Calls [wrapped, argument, "\x7bR:1\x7d".toList] :=
    .cons_cons hcall (.cons_cons hinner (.singleton _))
  have h := compile_nested names (String.ofList wrapped)
  rw [String.toList_ofList] at h
  obtain ⟨hcompile, -, hinside, hdepth⟩ := h
  refine ⟨hcall, hinner, hcompile _ fun _ _ => rfl, hinside argument hcall, hdepth _ hchain, ?_⟩
  exact ((compile_nested names "a\x7bupper:\x7bR:1\x7d").2.1 (.unbalanced 1)).mpr rfl

end Names

end Reroute
