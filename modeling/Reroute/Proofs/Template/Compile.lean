import Reroute.Proofs.Template.Expansion
import Reroute.Proofs.Value.Read
import Reroute.Proofs.Walk.Result

/-!
# Compiled templates

The compiler reads a template part by part, as the expansion does.  Each part of it agrees with its side of the
expansion, and the parts are put together by induction on the levels that are left for braces.
-/

namespace Reroute

open Template

/-! ### The parts of a content -/

namespace Template

theorem splitHead?_eq_some {content name rest : List Char} :
    splitHead? content = some (name, rest) ↔ ∃ head, Headed content head rest ∧ name = trimChars head := by
  unfold splitHead?
  constructor
  · intro h
    split at h
    · rename_i head back hcut
      obtain ⟨hcontent, hcolon⟩ := Text.cutChars?_eq_some.mp hcut
      split at h
      · cases h
      · rename_i hbrace
        cases h
        exact ⟨head, ⟨hcontent, hcolon, by simpa using hbrace⟩, rfl⟩
    · cases h
  · rintro ⟨head, ⟨hcontent, hcolon, hbrace⟩, rfl⟩
    simp [Text.cutChars?_eq_some.mpr ⟨hcontent, hcolon⟩, hbrace]

theorem splitHead?_eq_none {content : List Char} :
    splitHead? content = none ↔ ∀ head rest, ¬Headed content head rest := by
  constructor
  · intro h head rest hhead
    rw [splitHead?_eq_some.mpr ⟨head, hhead, rfl⟩] at h
    cases h
  · intro h
    cases hsplit : splitHead? content with
    | none => rfl
    | some cut =>
      obtain ⟨head, hhead, -⟩ := splitHead?_eq_some.mp hsplit
      exact absurd hhead (h head cut.2)

private theorem headerName?_eq_some {name back : List Char} :
    headerName? name = some back ↔
      ∃ mark, name = mark ++ '_' :: back ∧ mark.map Char.toUpper = ['H', 'T', 'T', 'P'] := by
  constructor
  · intro h
    unfold headerName? at h
    split at h
    · rename_i c₁ c₂ c₃ c₄ rest
      split at h
      · rename_i hmark
        cases h
        exact ⟨[c₁, c₂, c₃, c₄], rfl, hmark⟩
      · cases h
    · cases h
  · rintro ⟨mark, rfl, hmark⟩
    have hlength : mark.length = 4 := by simpa using congrArg List.length hmark
    match mark, hlength with
    | [c₁, c₂, c₃, c₄], _ => simp only [List.cons_append, List.nil_append, headerName?, hmark, if_true]

private theorem mem_dropWhile {p : Char → Bool} {c : Char} {text : List Char} (hc : p c = false) :
    c ∈ text.dropWhile p ↔ c ∈ text := by
  induction text with
  | nil => simp
  | cons d text ih =>
    rw [List.dropWhile_cons]
    split
    · rename_i hd
      have hne : c ≠ d := by
        rintro rfl
        simp [hc] at hd
      simp [ih, hne]
    · rfl

theorem mem_trimChars {c : Char} {text : List Char} (hc : Text.isBlank c = false) :
    c ∈ trimChars text ↔ c ∈ text := by
  simp [trimChars, Text.dropEndWhile, mem_dropWhile hc]

private theorem read_plainGetter_of_namesHeader {name header : List Char} (h : NamesHeader name header)
    (request : Request) (scratch : Scratch) :
    (plainGetter name).read request scratch = (request.headers.get? (String.ofList header)).getD "" := by
  obtain ⟨mark, back, hname, hmark, rfl⟩ := h
  have hheader := headerName?_eq_some.mpr ⟨mark, hname, hmark⟩
  simp only [plainGetter, hheader, Getter.read, Getter.header, Getter.resolve, List.foldl_nil, Fields.get?,
    Text.lowerAscii_ofList_map_toLower]

private theorem read_plainGetter_of_not_namesHeader {name : List Char} (h : ∀ header, ¬NamesHeader name header)
    (request : Request) (scratch : Scratch) :
    (plainGetter name).read request scratch = (request.serverVariables.get? (String.ofList name)).getD "" := by
  have hheader : headerName? name = none := by
    cases hfound : headerName? name with
    | none => rfl
    | some back =>
      obtain ⟨mark, hname, hmark⟩ := headerName?_eq_some.mp hfound
      exact absurd ⟨mark, back, hname, hmark, rfl⟩ (h _)
  simp [plainGetter, hheader, Getter.read, Getter.serverVariable, Getter.resolve]

private theorem read_capture (key : CaptureKey) (group : Nat) (request : Request) (scratch : Scratch) :
    (Getter.capture key group).read request scratch = scratch.capture key group := by
  cases key <;> rfl

end Template

theorem Names.resolves_iff {names : Names} {name : String} {operation : Operation} :
    names.operation name = .ok operation ↔ names.Resolves name operation := by
  constructor
  · intro h
    unfold Names.operation at h
    split at h
    · rename_i hbuiltin
      cases h
      exact .builtin hbuiltin
    · rename_i hbuiltin
      split at h
      · rename_i htable
        cases h
        exact .table hbuiltin htable
      · rename_i htable
        split at h
        · cases h
        · rename_i hfound
          split at h
          · rename_i hbuild
            cases h
            exact .custom hbuiltin htable hfound hbuild
          · cases h
  · intro h
    cases h with
    | builtin h => simp [Names.operation, h]
    | table hbuiltin h => simp [Names.operation, hbuiltin, h]
    | custom hbuiltin htable hbuild h => simp [Names.operation, hbuiltin, htable, hbuild, h]

/-! ### Compiling -/

namespace Names

variable {names : Names} {request : Request} {scratch : Scratch}

/-- The key whose name a head is. -/
private theorem key_unique {key other : CaptureKey} {head : List Char} (h : head = key.name.toList)
    (h' : head = other.name.toList) : key = other := by
  subst h
  cases key <;> cases other <;> first | rfl | exact absurd h' (by decide)

private theorem captureValue_expands {content head rest : List Char} (key : CaptureKey) {value : Value}
    (hhead : Headed content head rest) (hkey : (trimChars head).map Char.toUpper = key.name.toList)
    (h : captureValue key rest = .ok value) (text : String) :
    ContentExpands names request scratch content text ↔ text = value.read request scratch := by
  unfold captureValue at h
  split at h
  · rename_i group hgroup
    cases h
    rw [ContentExpands.headed_iff hhead, Value.read, read_capture]
    constructor
    · rintro (⟨other, group', hother, hgroup', rfl⟩ | ⟨hother, -⟩)
      · obtain rfl := key_unique hkey hother
        rw [hgroup] at hgroup'
        cases hgroup'
        rfl
      · exact absurd hkey (hother key)
    · rintro rfl
      exact .inl ⟨key, group, hkey, hgroup, rfl⟩
  · cases h

private theorem operation_expands {content head rest : List Char} {operation : Operation} {inner : Value}
    (hhead : Headed content head rest)
    (hkey : ∀ key : CaptureKey, (trimChars head).map Char.toUpper ≠ key.name.toList)
    (hoperation : names.operation (String.ofList (trimChars head)) = .ok operation)
    (hinner : ∀ text, Expands names request scratch rest text ↔ text = inner.read request scratch) (text : String) :
    ContentExpands names request scratch content text ↔
      text = (inner.withOperation operation).read request scratch := by
  rw [ContentExpands.headed_iff hhead, Value.read_withOperation]
  constructor
  · rintro (⟨key, -, heq, -⟩ | ⟨-, other, behind, hother, hbehind, rfl⟩)
    · exact absurd heq (hkey key)
    · have hsame := Names.resolves_iff.mpr hother
      rw [hoperation] at hsame
      cases hsame
      rw [(hinner behind).mp hbehind]
  · rintro rfl
    exact .inr ⟨hkey, operation, _, Names.resolves_iff.mp hoperation, (hinner _).mpr rfl, rfl⟩

private theorem plainGetter_expands {content : List Char} (hhead : ∀ head rest, ¬Headed content head rest)
    (hbrace : '\x7b' ∉ content) (text : String) :
    ContentExpands names request scratch content text ↔
      text = (plainGetter (trimChars content)).read request scratch := by
  rw [ContentExpands.headless_iff hhead]
  simp only [hbrace, false_and, not_false_eq_true, true_and, false_or]
  by_cases hheader : ∃ header, NamesHeader (trimChars content) header
  · obtain ⟨header, hheader⟩ := hheader
    constructor
    · rintro (⟨other, hother, rfl⟩ | ⟨hnone, -⟩)
      · exact (read_plainGetter_of_namesHeader hother request scratch).symm
      · exact absurd hheader (hnone header)
    · rintro rfl
      exact .inl ⟨header, hheader, read_plainGetter_of_namesHeader hheader request scratch⟩
  · have hnone := not_exists.mp hheader
    simp [hnone, read_plainGetter_of_not_namesHeader hnone]

private theorem compileContent_expands {compile : List Char → Except TemplateError Value} {content : List Char}
    {value : Value} (hcompile : ∀ {inner value}, compile inner = .ok value →
      ∀ text, Expands names request scratch inner text ↔ text = value.read request scratch)
    (h : names.compileContent compile content = .ok value) (text : String) :
    ContentExpands names request scratch content text ↔ text = value.read request scratch := by
  unfold compileContent at h
  split at h
  · rename_i name rest hsplit
    obtain ⟨head, hhead, rfl⟩ := splitHead?_eq_some.mp hsplit
    have hchars : (String.ofList ((trimChars head).map Char.toUpper)).toList = _ := String.toList_ofList
    split at h
    · rename_i hkey
      rw [hkey] at hchars
      exact captureValue_expands .fromMatch hhead hchars.symm h text
    · rename_i hkey
      rw [hkey] at hchars
      exact captureValue_expands .fromConditions hhead hchars.symm h text
    · rename_i hmatch hconditions
      have hkey : ∀ key : CaptureKey, (trimChars head).map Char.toUpper ≠ key.name.toList := by
        intro key heq
        rw [heq, String.ofList_toList] at hmatch hconditions
        cases key
        · exact hmatch rfl
        · exact hconditions rfl
      obtain ⟨operation, hoperation, h⟩ := Except.bind_eq_ok.mp h
      obtain ⟨inner, hinner, h⟩ := Except.bind_eq_ok.mp h
      cases h
      exact operation_expands hhead hkey hoperation (hcompile hinner) text
  · rename_i hsplit
    have hhead := splitHead?_eq_none.mp hsplit
    have hblank : Text.isBlank '\x7b' = false := by decide
    simp only [List.contains_iff_mem, mem_trimChars hblank] at h
    split at h
    · rename_i hbrace
      rw [ContentExpands.headless_iff hhead]
      simp only [hbrace, true_and, not_true_eq_false, false_and, or_false]
      exact hcompile h text
    · rename_i hbrace
      cases h
      exact plainGetter_expands hhead hbrace text

/-- The value of a span. -/
def compileSpan (names : Names) (compile : List Char → Except TemplateError Value) :
    Span → Except TemplateError Value
  | .literal text => .ok (Value.literal (String.ofList text))
  | .braced content => names.compileContent compile content

theorem compileWith_succ (names : Names) (levels : Nat) (text : List Char) :
    names.compileWith (levels + 1) text =
      match tokenize text with
      | .error fault => .error (.braces fault)
      | .ok spans =>
        spans.mapM (names.compileSpan (names.compileWith levels)) >>= fun parts => .ok (joinParts parts) :=
  rfl

private theorem read_joinParts (parts : List Value) (request : Request) (scratch : Scratch) :
    (joinParts parts).read request scratch = Text.join "" (Value.readAll parts request scratch) := by
  match parts with
  | [] => rfl
  | [part] => simp [joinParts, Value.readAll, Text.join_empty_cons]
  | _ :: _ :: _ => rfl

private theorem compileSpans_expands {compile : List Char → Except TemplateError Value} {spans : List Span}
    {parts : List Value} (hcompile : ∀ {inner value}, compile inner = .ok value →
      ∀ text, Expands names request scratch inner text ↔ text = value.read request scratch)
    (hsound : ∀ span ∈ spans, span.Sound) (h : spans.mapM (names.compileSpan compile) = .ok parts) (text : String) :
    Expands names request scratch (sourceOf spans) text ↔
      text = Text.join "" (Value.readAll parts request scratch) := by
  induction spans generalizing parts text with
  | nil =>
    cases h
    exact Expands.nil_iff
  | cons span spans ih =>
    rw [List.mapM_cons] at h
    obtain ⟨part, hpart, h⟩ := Except.bind_eq_ok.mp h
    obtain ⟨others, hothers, h⟩ := Except.bind_eq_ok.mp h
    cases h
    have hrest := ih (fun span hspan => hsound span (List.mem_cons_of_mem _ hspan)) hothers
    rw [sourceOf_cons, Value.readAll, Text.join_empty_cons]
    cases span with
    | literal run =>
      cases hpart
      rw [Span.source, Expands.append_iff (hsound _ (List.mem_cons_self ..))]
      simp [hrest]
    | braced content =>
      have hcontent := compileContent_expands hcompile hpart
      have hsource : (Span.braced content).source ++ sourceOf spans =
          '\x7b' :: content ++ '\x7d' :: sourceOf spans := by
        simp [Span.source]
      rw [hsource, Expands.braces_iff (hsound _ (List.mem_cons_self ..))]
      simp [hcontent, hrest]

private theorem compileWith_expands {levels : Nat} {source : List Char} {value : Value}
    (h : names.compileWith levels source = .ok value) (text : String) :
    Expands names request scratch source text ↔ text = value.read request scratch := by
  induction levels generalizing source value text with
  | zero => cases h
  | succ levels ih =>
    rw [compileWith_succ] at h
    split at h
    · cases h
    · rename_i spans hspans
      obtain ⟨parts, hparts, h⟩ := Except.bind_eq_ok.mp h
      cases h
      -- what is inside the spans compiles on fewer levels, so the induction covers it
      obtain ⟨hsource, hsound⟩ := tokenize_sound hspans
      rw [← hsource, read_joinParts]
      exact compileSpans_expands (fun hinner => ih hinner) hsound hparts text

/-- The value of a template that compiles reads, on every request and with every scratch, as what the template expands
to, and the template expands to nothing else. -/
theorem compile_expands {source : String} {value : Value} (h : names.compile source = .ok value) (request : Request)
    (scratch : Scratch) (text : String) :
    Expands names request scratch source.toList text ↔ text = value.read request scratch :=
  compileWith_expands h text

/-- A group and a literal run below an operation, behind a literal run. -/
def shouted : Value :=
  .concat [.literal "/a-", .concat [.getter (.capture .fromMatch 1), .literal "."] none (some .upper)] none none

theorem compile_expands_shouted :
    let names : Names := ⟨[], .empty⟩
    let scratch := Scratch.start.storeCaptures .fromMatch ["/docs", "docs"]
    names.compile "/a-\x7bupper:\x7bR:1\x7d.\x7d" = .ok shouted ∧
      Expands names (.ofUrl "/docs") scratch "/a-\x7bupper:\x7bR:1\x7d.\x7d".toList "/a-DOCS." := by
  have h : Names.compile ⟨[], .empty⟩ "/a-\x7bupper:\x7bR:1\x7d.\x7d" = .ok shouted := rfl
  exact ⟨h, (compile_expands h (.ofUrl "/docs") _ _).mpr (by decide)⟩

end Names

end Reroute
