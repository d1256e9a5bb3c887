import Reroute.Proofs.Walk.Result
import Reroute.Template.Span

/-!
# Matching braces

What stands between outermost braces is balanced: every closing brace in it closes one that was opened in it, and none
stays open.  A balanced text ends at one place only, so that a text is cut in one way (`Balanced.eq_of_append`), and
the spans of a template put together again are the template (`tokenize_sound`).
-/

namespace Reroute.Template

/-! ### Balanced texts -/

/-- How many braces are open behind a text that begins with `depth` open ones; nothing where a brace closes none. -/
def openBehind? : Nat → List Char → Option Nat
  | depth, [] => some depth
  | depth, c :: rest =>
    if c = '\x7b' then openBehind? (depth + 1) rest
    else if c = '\x7d' then
      match depth with
      | 0 => none
      | depth + 1 => openBehind? depth rest
    else openBehind? depth rest

/-- Every closing brace closes one that was opened before, and none stays open. -/
def Balanced (text : List Char) : Prop := openBehind? 0 text = some 0

instance : DecidablePred Balanced := fun text => inferInstanceAs (Decidable (openBehind? 0 text = some 0))

theorem openBehind?_append (depth : Nat) (front back : List Char) :
    openBehind? depth (front ++ back) = (openBehind? depth front).bind (openBehind? · back) := by
  induction front generalizing depth with
  | nil => rfl
  | cons c front ih =>
    simp only [List.cons_append, openBehind?]
    split
    · exact ih _
    · split
      · cases depth with
        | zero => rfl
        | succ depth => exact ih _
      · exact ih _

/-- A balanced text is not continued by a closing brace to another balanced one. -/
private theorem Balanced.not_append {text more : List Char} (h : Balanced text) :
    ¬Balanced (text ++ '\x7d' :: more) := by
  have h' : openBehind? 0 text = some 0 := h
  simp [Balanced, openBehind?_append, h', openBehind?]

/-- The brace that closes a balanced content is where it is. -/
theorem Balanced.eq_of_append {content other rest back : List Char} (h : Balanced content) (h' : Balanced other)
    (heq : content ++ '\x7d' :: rest = other ++ '\x7d' :: back) : content = other ∧ rest = back := by
  rcases List.append_eq_append_iff.mp heq with ⟨more, hother, hmore⟩ | ⟨more, hcontent, hmore⟩
  · cases more with
    | nil => simp_all
    | cons c more =>
      obtain ⟨rfl, -⟩ := List.cons.inj hmore
      exact absurd (hother ▸ h') h.not_append
  · cases more with
    | nil => simp_all
    | cons c more =>
      obtain ⟨rfl, -⟩ := List.cons.inj hmore
      exact absurd (hcontent ▸ h) h'.not_append

/-! ### Spans -/

namespace Span

/-- The text that a span was cut from. -/
def source : Span → List Char
  | .literal text => text
  | .braced content => '\x7b' :: content ++ ['\x7d']

/-- A literal run opens no brace, and the content of braces is balanced. -/
def Sound : Span → Prop
  | .literal text => '\x7b' ∉ text
  | .braced content => Balanced content

end Span

/-- The text that spans were cut from. -/
def sourceOf (spans : List Span) : List Char := spans.flatMap Span.source

/-- What the run that is being read has in it: no opening brace outside braces, and inside the outermost ones all
but that one of the open braces. -/
def Reading : Nat → List Char → Prop
  | 0, run => '\x7b' ∉ run
  | depth + 1, run => openBehind? 0 run = some depth

/-- The brace in front of the run that is being read. -/
def openedAt : Nat → List Char
  | 0 => []
  | _ + 1 => ['\x7b']

private theorem sourceOf_literalSpan (buffer : List Char) : sourceOf (literalSpan buffer) = buffer.reverse := by
  unfold literalSpan
  split
  · rename_i h
    subst h
    rfl
  · simp [sourceOf, Span.source]

private theorem sound_literalSpan {buffer : List Char} (h : '\x7b' ∉ buffer) :
    ∀ span ∈ literalSpan buffer, span.Sound := by
  unfold literalSpan
  split <;> simp [Span.Sound, h]

@[simp] theorem sourceOf_cons (span : Span) (spans : List Span) :
    sourceOf (span :: spans) = span.source ++ sourceOf spans := rfl

@[simp] theorem sourceOf_append (front back : List Span) :
    sourceOf (front ++ back) = sourceOf front ++ sourceOf back := List.flatMap_append

private theorem reading_nil : Reading 0 ([] : List Char).reverse := by
  simp [Reading]

private theorem reading_open {depth : Nat} {buffer : List Char} (h : Reading (depth + 1) buffer.reverse) :
    Reading (depth + 2) ('\x7b' :: buffer).reverse := by
  have h' : openBehind? 0 buffer.reverse = some depth := h
  simp [Reading, openBehind?_append, h', openBehind?]

private theorem reading_close {depth : Nat} {buffer : List Char} (h : Reading (depth + 2) buffer.reverse) :
    Reading (depth + 1) ('\x7d' :: buffer).reverse := by
  have h' : openBehind? 0 buffer.reverse = some (depth + 1) := h
  simp [Reading, openBehind?_append, h', openBehind?]

private theorem reading_plain {depth : Nat} {buffer : List Char} {c : Char} (h : Reading depth buffer.reverse)
    (hopen : c ≠ '\x7b') (hclose : ¬(c = '\x7d' ∧ depth ≠ 0)) : Reading depth (c :: buffer).reverse := by
  cases depth with
  | zero => simpa [Reading, Ne.symm hopen] using h
  | succ depth =>
    have h' : openBehind? 0 buffer.reverse = some depth := h
    have hclose' : c ≠ '\x7d' := fun heq => hclose ⟨heq, by omega⟩
    simp [Reading, openBehind?_append, h', openBehind?, hopen, hclose']

private theorem spansFrom_sound {offset depth start : Nat} {buffer text : List Char} {spans : List Span}
    (hrun : Reading depth buffer.reverse) (h : spansFrom offset depth start buffer text = .ok spans) :
    sourceOf spans = openedAt depth ++ buffer.reverse ++ text ∧ ∀ span ∈ spans, span.Sound := by
  induction text generalizing offset depth start buffer spans with
  | nil =>
    simp only [spansFrom] at h
    split at h
    · rename_i hdepth
      subst hdepth
      cases h
      exact ⟨by simp [sourceOf_literalSpan, openedAt], sound_literalSpan (by simpa [Reading] using hrun)⟩
    · cases h
  | cons c rest ih =>
    simp only [spansFrom] at h
    split at h
    · rename_i hc
      subst hc
      split at h
      · cases h
      · split at h
        · rename_i hdepth
          subst hdepth
          obtain ⟨behind, hbehind, rfl⟩ := Except.map_eq_ok.mp h
          have hinside : Reading 1 ([] : List Char).reverse := rfl
          obtain ⟨hsource, hsound⟩ := ih hinside hbehind
          -- an outermost brace opens: the run in front of it is a literal, and a new run begins behind it
          have hliteral : '\x7b' ∉ buffer := by simpa [Reading] using hrun
          refine ⟨?_, List.forall_mem_append.mpr ⟨sound_literalSpan hliteral, hsound⟩⟩
          rw [sourceOf_append, sourceOf_literalSpan, hsource]
          simp [openedAt]
        · rename_i hdepth
          obtain ⟨depth, rfl⟩ := Nat.exists_eq_succ_of_ne_zero hdepth
          simpa [openedAt] using ih (reading_open hrun) h
    · rename_i hopen
      split at h
      · rename_i hclose
        obtain ⟨rfl, hdepth⟩ := hclose
        obtain ⟨depth, rfl⟩ := Nat.exists_eq_succ_of_ne_zero hdepth
        split at h
        · rename_i hone
          obtain rfl : depth = 0 := by omega
          obtain ⟨behind, hbehind, rfl⟩ := Except.map_eq_ok.mp h
          obtain ⟨hsource, hsound⟩ := ih reading_nil hbehind
          -- the outermost brace closes: no other one is open, so the run is balanced
          refine ⟨?_, List.forall_mem_cons.mpr ⟨hrun, hsound⟩⟩
          rw [sourceOf_cons, hsource]
          simp [Span.source, openedAt]
        · rename_i hone
          obtain ⟨depth, rfl⟩ := Nat.exists_eq_succ_of_ne_zero (show depth ≠ 0 by omega)
          simpa [openedAt] using ih (reading_close hrun) h
      · rename_i hclose
        simpa using ih (reading_plain hrun hopen hclose) h

/-- The spans of a template are its text, and each of them is what it should be. -/
theorem tokenize_sound {text : List Char} {spans : List Span} (h : tokenize text = .ok spans) :
    sourceOf spans = text ∧ ∀ span ∈ spans, span.Sound := by
  simpa [openedAt] using spansFrom_sound reading_nil h

end Reroute.Template
