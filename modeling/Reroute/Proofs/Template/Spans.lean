import Reroute.Proofs.Template.Braces

/-!
# Cutting a template into spans

The braces that are open behind a text are counted without the spans: an opening brace is one more, a closing brace one
less, and one that closes nothing is skipped.  By this count alone it is said which templates are cut, which are nested
too deep, and which leave a brace open.  What a template is cut into is said by a grammar: spans of a certain shape that
make up the text again.  Both describe `tokenize` exactly (`tokenize_exact`).
-/

namespace Reroute.Template

/-! ### Counting open braces -/

/-- The open braces behind one more character. -/
def openBehind (depth : Nat) (c : Char) : Nat :=
  if c = '\x7b' then depth + 1 else if c = '\x7d' then depth - 1 else depth

/-- The open braces behind a text that begins with `depth` open ones. -/
def depthBehind (depth : Nat) (text : List Char) : Nat := text.foldl openBehind depth

/-- Nowhere in a text that begins with `depth` open braces are there more than `limit`. -/
def Within (limit depth : Nat) (text : List Char) : Prop :=
  ∀ front, front <+: text → depthBehind depth front ≤ limit

/-- From the `depth` open braces that a text begins with on, one of them stays open all through it. -/
def StaysOpen (depth : Nat) (text : List Char) : Prop := ∀ front, front <+: text → depthBehind depth front ≠ 0

/-- The number of bytes of a text. -/
def byteCount (text : List Char) : Nat := (String.ofList text).utf8ByteSize

@[simp] theorem depthBehind_nil (depth : Nat) : depthBehind depth [] = depth := rfl

@[simp] theorem depthBehind_cons (depth : Nat) (c : Char) (rest : List Char) :
    depthBehind depth (c :: rest) = depthBehind (openBehind depth c) rest := rfl

private theorem depthBehind_append (depth : Nat) (front back : List Char) :
    depthBehind depth (front ++ back) = depthBehind (depthBehind depth front) back := List.foldl_append

private theorem openBehind_le (depth : Nat) (c : Char) : openBehind depth c ≤ depth + 1 := by
  unfold openBehind
  split
  · omega
  · split <;> omega

private theorem forall_prefix_nil {p : List Char → Prop} : (∀ front, front <+: [] → p front) ↔ p [] := by
  simp [List.prefix_nil]

/-- A property of every front part is one of nothing, and one of every front part behind the first character. -/
private theorem forall_prefix_cons {p : List Char → Prop} {c : Char} {rest : List Char} :
    (∀ front, front <+: c :: rest → p front) ↔ p [] ∧ ∀ front, front <+: rest → p (c :: front) := by
  constructor
  · intro h
    exact ⟨h [] List.nil_prefix, fun front hfront => h _ ((List.prefix_cons_inj c).mpr hfront)⟩
  · rintro ⟨hnil, hcons⟩ front hfront
    obtain rfl | ⟨part, rfl, hpart⟩ := List.prefix_cons_iff.mp hfront
    · exact hnil
    · exact hcons part hpart

theorem within_nil {limit depth : Nat} : Within limit depth [] ↔ depth ≤ limit := forall_prefix_nil

theorem within_cons {limit depth : Nat} {c : Char} {rest : List Char} :
    Within limit depth (c :: rest) ↔ depth ≤ limit ∧ Within limit (openBehind depth c) rest :=
  forall_prefix_cons

private theorem staysOpen_nil {depth : Nat} : StaysOpen depth [] ↔ depth ≠ 0 := forall_prefix_nil

private theorem staysOpen_cons {depth : Nat} {c : Char} {rest : List Char} :
    StaysOpen depth (c :: rest) ↔ depth ≠ 0 ∧ StaysOpen (openBehind depth c) rest :=
  forall_prefix_cons

private theorem byteCount_cons (c : Char) (rest : List Char) : byteCount (c :: rest) = c.utf8Size + byteCount rest := by
  have hsplit : String.ofList (c :: rest) = String.singleton c ++ String.ofList rest := by
    rw [← String.toList_inj]
    simp
  rw [byteCount, hsplit, String.utf8ByteSize_append, String.utf8ByteSize_singleton, byteCount]

/-- A balanced text leaves as many braces open as it begins with. -/
private theorem depthBehind_of_openBehind? {text : List Char} {inner behind : Nat}
    (h : openBehind? inner text = some behind) (depth : Nat) : depthBehind (depth + inner) text = depth + behind := by
  induction text generalizing inner with
  | nil =>
    cases h
    rfl
  | cons c rest ih =>
    simp only [openBehind?] at h
    rw [depthBehind_cons, openBehind]
    split at h
    · rename_i hc
      rw [if_pos hc]
      exact ih h
    · rename_i hopen
      rw [if_neg hopen]
      split at h
      · rename_i hclose
        rw [if_pos hclose]
        cases inner with
        | zero => cases h
        | succ inner => exact ih h
      · rename_i hclose
        rw [if_neg hclose]
        exact ih h

theorem Balanced.depthBehind {content : List Char} (h : Balanced content) (depth : Nat) :
    depthBehind depth content = depth := depthBehind_of_openBehind? h depth

/-! ### Closed braces -/

/-- The brace in front of a text is closed in it: a balanced content stands before the closing brace. -/
def Closed (text : List Char) : Prop := ∃ content rest, text = content ++ '\x7d' :: rest ∧ Balanced content

/-- The first brace of a text that is never closed: what stands in front of it, and what behind. -/
structure FirstUnclosed (text front back : List Char) : Prop where
  text_eq : text = front ++ '\x7b' :: back
  unclosed : ¬Closed back
  first : ∀ front' back', text = front' ++ '\x7b' :: back' → ¬Closed back' → front.length ≤ front'.length

/-- A text behind which less braces are open than `depth + 1` has a brace that closes the one at `depth`. -/
private theorem exists_closing {text : List Char} {depth : Nat} (inner : Nat)
    (h : depthBehind (depth + 1 + inner) text ≤ depth) :
    ∃ content rest, text = content ++ '\x7d' :: rest ∧ openBehind? inner content = some 0 := by
  induction text generalizing inner with
  | nil =>
    rw [depthBehind_nil] at h
    omega
  | cons c rest ih =>
    rw [depthBehind_cons, openBehind] at h
    by_cases hopen : c = '\x7b'
    · rw [if_pos hopen] at h
      obtain ⟨content, back, hrest, hcontent⟩ := ih (inner + 1) h
      exact ⟨c :: content, back, by rw [hrest, List.cons_append], by simp [openBehind?, hopen, hcontent]⟩
    · rw [if_neg hopen] at h
      by_cases hclose : c = '\x7d'
      · rw [if_pos hclose] at h
        cases inner with
        | zero => exact ⟨[], rest, by rw [hclose, List.nil_append], rfl⟩
        | succ inner =>
          obtain ⟨content, back, hrest, hcontent⟩ := ih inner h
          refine ⟨c :: content, back, by rw [hrest, List.cons_append], ?_⟩
          rw [hclose]
          simpa [openBehind?] using hcontent
      · rw [if_neg hclose] at h
        obtain ⟨content, back, hrest, hcontent⟩ := ih inner h
        exact ⟨c :: content, back, by rw [hrest, List.cons_append], by simp [openBehind?, hopen, hclose, hcontent]⟩

/-- A brace behind which the count falls again to what it was before is closed. -/
private theorem closed_of_depthBehind_le {depth : Nat} {text : List Char} (h : depthBehind (depth + 1) text ≤ depth) :
    Closed text :=
  exists_closing 0 h

/-- Where no brace is left open, every brace is closed. -/
private theorem closed_of_depthBehind_eq_zero {front back : List Char}
    (h : depthBehind 0 (front ++ '\x7b' :: back) = 0) :
    Closed back := by
  rw [depthBehind_append, depthBehind_cons] at h
  have hle : depthBehind (depthBehind 0 front + 1) back ≤ depthBehind 0 front := by
    simp only [openBehind, if_pos] at h
    omega
  exact closed_of_depthBehind_le hle

private theorem not_closed_of_staysOpen {text : List Char} (h : StaysOpen 1 text) : ¬Closed text := by
  rintro ⟨content, rest, rfl, hcontent⟩
  refine h (content ++ ['\x7d']) ⟨rest, by simp⟩ ?_
  rw [depthBehind_append, hcontent.depthBehind]
  rfl

/-- A brace in front of which none is open and behind which it stays open is the first that is never closed. -/
private theorem firstUnclosed_of_staysOpen {front back : List Char} (hfront : depthBehind 0 front = 0)
    (hback : StaysOpen 1 back) : FirstUnclosed (front ++ '\x7b' :: back) front back where
  text_eq := rfl
  unclosed := not_closed_of_staysOpen hback
  first front' back' htext hunclosed := by
    refine Nat.le_of_not_lt fun hlt => ?_
    obtain ⟨more, hmore, -⟩ | ⟨more, hmore, hbehind⟩ := List.append_eq_append_iff.mp htext
    · rw [hmore, List.length_append] at hlt
      omega
    · cases more with
      | nil => simp [hmore] at hlt
      | cons c more =>
        -- the earlier brace stands in front of `front`, behind which nothing is open
        obtain ⟨rfl, hback'⟩ := List.cons.inj hbehind
        rw [hmore] at hfront
        obtain ⟨content, rest, rfl, hcontent⟩ := closed_of_depthBehind_eq_zero hfront
        refine hunclosed ⟨content, rest ++ '\x7b' :: back, ?_, hcontent⟩
        simpa using hback'

private theorem FirstUnclosed.front_unique {text front back front' back' : List Char}
    (h : FirstUnclosed text front back) (h' : FirstUnclosed text front' back') : front = front' := by
  have hlength : front.length = front'.length :=
    Nat.le_antisymm (h.first _ _ h'.text_eq h'.unclosed) (h'.first _ _ h.text_eq h.unclosed)
  exact (List.append_inj (h.text_eq.symm.trans h'.text_eq) hlength).1

/-! ### The shape of spans -/

/-- Spans as a template is cut into: contents of braces are balanced, literal runs hold something but no opening brace,
and no two of them stand side by side. -/
structure IsCut (spans : List Span) : Prop where
  sound : ∀ span ∈ spans, span.Sound
  ne_nil : Span.literal [] ∉ spans
  apart : ∀ run next, ¬[Span.literal run, .literal next] <:+: spans

private theorem IsCut.tail {span : Span} {spans : List Span} (h : IsCut (span :: spans)) : IsCut spans where
  sound other hother := h.sound other (List.mem_cons_of_mem _ hother)
  ne_nil hmem := h.ne_nil (List.mem_cons_of_mem _ hmem)
  apart run next hinfix := h.apart run next (List.infix_cons hinfix)

/-- Behind a literal run there is nothing, or braces. -/
private theorem IsCut.sourceOf_behind {run : List Char} {spans : List Span} (h : IsCut (.literal run :: spans)) :
    sourceOf spans = [] ∨ ∃ rest, sourceOf spans = '\x7b' :: rest := by
  cases spans with
  | nil => exact .inl rfl
  | cons span spans =>
    cases span with
    | literal next => exact absurd ⟨[], spans, rfl⟩ (h.apart run next)
    | braced content => exact .inr ⟨_, rfl⟩

/-- A literal run goes on to the first opening brace. -/
private theorem takeWhile_run {run behind : List Char} (hrun : '\x7b' ∉ run)
    (hbehind : behind = [] ∨ ∃ rest, behind = '\x7b' :: rest) :
    (run ++ behind).takeWhile (· != '\x7b') = run := by
  have hplain : ∀ c ∈ run, (c != '\x7b') = true := by
    intro c hc
    exact bne_iff_ne.mpr fun heq => hrun (heq ▸ hc)
  rw [List.takeWhile_append_of_pos hplain]
  obtain rfl | ⟨rest, rfl⟩ := hbehind <;> simp

/-- A text is cut in one way. -/
private theorem IsCut.eq_of_sourceOf_eq {spans others : List Span} (h : IsCut spans) (h' : IsCut others)
    (heq : sourceOf spans = sourceOf others) : spans = others := by
  have hstarts : ∀ {spans : List Span}, IsCut spans → sourceOf spans = [] → spans = [] := by
    intro spans hcut hnil
    cases spans with
    | nil => rfl
    | cons span spans =>
      cases span with
      | literal run =>
        obtain rfl : run = [] := (List.append_eq_nil_iff.mp hnil).1
        exact absurd List.mem_cons_self hcut.ne_nil
      | braced content => simp [Span.source] at hnil
  induction spans generalizing others with
  | nil => exact (hstarts h' heq.symm).symm
  | cons span spans ih =>
    cases others with
    | nil => exact hstarts h heq
    | cons other others =>
      have hsound := h.sound span List.mem_cons_self
      have hsound' := h'.sound other List.mem_cons_self
      rw [sourceOf_cons, sourceOf_cons] at heq
      cases span with
      | literal run =>
        cases other with
        | literal run' =>
          have hrun := congrArg (List.takeWhile (· != '\x7b')) heq
          simp only [Span.source] at hrun heq
          rw [takeWhile_run hsound h.sourceOf_behind, takeWhile_run hsound' h'.sourceOf_behind] at hrun
          subst hrun
          rw [ih h.tail h'.tail (List.append_cancel_left heq)]
        | braced content =>
          cases run with
          | nil => exact absurd List.mem_cons_self h.ne_nil
          | cons c run =>
            obtain ⟨rfl, -⟩ := List.cons.inj heq
            exact absurd List.mem_cons_self hsound
      | braced content =>
        cases other with
        | literal run =>
          cases run with
          | nil => exact absurd List.mem_cons_self h'.ne_nil
          | cons c run =>
            obtain ⟨rfl, -⟩ := List.cons.inj heq
            exact absurd List.mem_cons_self hsound'
        | braced content' =>
          have hbraces : content ++ '\x7d' :: sourceOf spans = content' ++ '\x7d' :: sourceOf others := by
            simpa [Span.source] using heq
          obtain ⟨rfl, hbehind⟩ := Balanced.eq_of_append hsound hsound' hbraces
          rw [ih h.tail h'.tail hbehind]

/-- Spans leave no brace open. -/
private theorem depthBehind_sourceOf {spans : List Span} (h : ∀ span ∈ spans, span.Sound) :
    depthBehind 0 (sourceOf spans) = 0 := by
  have hrun : ∀ {run : List Char}, '\x7b' ∉ run → depthBehind 0 run = 0 := by
    intro run hrun
    induction run with
    | nil => rfl
    | cons c run ih =>
      obtain ⟨hc, hrun⟩ := List.ne_and_not_mem_of_not_mem_cons hrun
      have hskip : openBehind 0 c = 0 := by simp [openBehind, Ne.symm hc]
      rw [depthBehind_cons, hskip, ih hrun]
  induction spans with
  | nil => rfl
  | cons span spans ih =>
    obtain ⟨hspan, hspans⟩ := List.forall_mem_cons.mp h
    have hsource : depthBehind 0 span.source = 0 := by
      cases span with
      | literal run => exact hrun hspan
      | braced content =>
        rw [Span.source, List.cons_append, depthBehind_cons, depthBehind_append, Balanced.depthBehind hspan]
        rfl
    rw [sourceOf_cons, depthBehind_append, hsource, ih hspans]

/-! ### One character further -/

/-- The spans that are finished where the open braces go from one number to another: a literal run in front of an
outermost brace, or the content of one that closes. -/
def finished (depth next : Nat) (buffer : List Char) : List Span :=
  if depth = 0 then if next = 0 then [] else literalSpan buffer
  else if next = 0 then [.braced buffer.reverse]
  else []

variable {offset depth start : Nat} {buffer : List Char}

/-- Where braces stay open, or none is, nothing is finished. -/
private theorem map_finished_of_iff {depth next : Nat} (h : depth = 0 ↔ next = 0)
    (x : Except BraceError (List Span)) : x.map (finished depth next buffer ++ ·) = x := by
  have hnone : finished depth next buffer = [] := by
    unfold finished
    split <;> simp_all
  rw [hnone]
  cases x <;> rfl

private theorem spansFrom_cons_of_tooDeep (offset start : Nat) (buffer rest : List Char) {c : Char}
    (hdepth : depth ≤ maxNesting) (h : maxNesting < openBehind depth c) :
    spansFrom offset depth start buffer (c :: rest) = .error .tooDeep := by
  have hopen : c = '\x7b' ∧ maxNesting ≤ depth := by
    unfold openBehind at h
    split at h
    · exact ⟨‹_›, by omega⟩
    · split at h <;> omega
  rw [spansFrom, if_pos hopen.1, if_pos hopen.2]

/-- A character that does not go too deep finishes what it finishes, and the rest is cut behind it.  Inside of braces
the outermost one is remembered. -/
private theorem spansFrom_cons (offset start : Nat) (buffer rest : List Char) {c : Char}
    (h : openBehind depth c ≤ maxNesting) :
    ∃ start' buffer', (openBehind depth c ≠ 0 → start' = if depth = 0 then offset else start) ∧
      spansFrom offset depth start buffer (c :: rest) =
        (spansFrom (offset + c.utf8Size) (openBehind depth c) start' buffer' rest).map
          (finished depth (openBehind depth c) buffer ++ ·) := by
  by_cases hopen : c = '\x7b'
  · have hsize : c.utf8Size = 1 := by rw [hopen]; rfl
    have hnext : openBehind depth c = depth + 1 := if_pos hopen
    have hlimit : ¬maxNesting ≤ depth := by omega
    rw [hnext, hsize, spansFrom, if_pos hopen, if_neg hlimit]
    by_cases hdepth : depth = 0
    · exact ⟨offset, [], by simp [hdepth], by simp [hdepth, finished]⟩
    · refine ⟨start, c :: buffer, by simp [hdepth], ?_⟩
      rw [if_neg hdepth, map_finished_of_iff (by omega)]
  · by_cases hclose : c = '\x7d' ∧ depth ≠ 0
    · have hsize : c.utf8Size = 1 := by rw [hclose.1]; rfl
      have hnext : openBehind depth c = depth - 1 := by rw [openBehind, if_neg hopen, if_pos hclose.1]
      rw [hnext, hsize, spansFrom, if_neg hopen, if_pos hclose]
      by_cases hone : depth = 1
      · exact ⟨0, [], by simp [hone], by simp [hone, finished]⟩
      · refine ⟨start, c :: buffer, by simp [hclose.2], ?_⟩
        rw [if_neg hone, map_finished_of_iff (by omega)]
    · have hnext : openBehind depth c = depth := by
        rw [openBehind, if_neg hopen]
        split
        · have hzero : depth = 0 := Classical.not_not.mp fun hdepth => hclose ⟨‹_›, hdepth⟩
          rw [hzero]
        · rfl
      rw [hnext, spansFrom, if_neg hopen, if_neg hclose]
      refine ⟨start, c :: buffer, fun hdepth => by simp [hdepth], ?_⟩
      rw [map_finished_of_iff Iff.rfl]

/-! ### What becomes of a template -/

/-- The cutter gives up where the count goes beyond the limit, and nowhere else. -/
private theorem spansFrom_eq_tooDeep_iff {text : List Char} (hdepth : depth ≤ maxNesting) :
    spansFrom offset depth start buffer text = .error .tooDeep ↔
      ∃ front, front <+: text ∧ depthBehind depth front = maxNesting + 1 := by
  induction text generalizing offset depth start buffer with
  | nil =>
    constructor
    · intro h
      rw [spansFrom] at h
      split at h <;> cases h
    · rintro ⟨front, hfront, hcount⟩
      obtain rfl := List.prefix_nil.mp hfront
      rw [depthBehind_nil] at hcount
      omega
  | cons c rest ih =>
    -- the part in front of the fault is not empty, because the count is still within the limit
    have hparts : (∃ front, front <+: c :: rest ∧ depthBehind depth front = maxNesting + 1) ↔
        ∃ front, front <+: rest ∧ depthBehind (openBehind depth c) front = maxNesting + 1 := by
      constructor
      · rintro ⟨front, hfront, hcount⟩
        obtain rfl | ⟨part, rfl, hpart⟩ := List.prefix_cons_iff.mp hfront
        · rw [depthBehind_nil] at hcount
          omega
        · exact ⟨part, hpart, hcount⟩
      · rintro ⟨part, hpart, hcount⟩
        exact ⟨c :: part, (List.prefix_cons_inj c).mpr hpart, hcount⟩
    rw [hparts]
    by_cases hnext : openBehind depth c ≤ maxNesting
    · obtain ⟨start', buffer', -, heq⟩ := spansFrom_cons offset start buffer rest hnext
      rw [heq, Except.map_eq_error, ih hnext]
    · have hfault := spansFrom_cons_of_tooDeep offset start buffer rest hdepth (Nat.lt_of_not_le hnext)
      have hstep := openBehind_le depth c
      have hcount : openBehind depth c = maxNesting + 1 := by omega
      exact iff_of_true hfault ⟨[], List.nil_prefix, hcount⟩

theorem exists_spansFrom_iff {text : List Char} (hdepth : depth ≤ maxNesting) :
    (∃ spans, spansFrom offset depth start buffer text = .ok spans) ↔
      Within maxNesting depth text ∧ depthBehind depth text = 0 := by
  induction text generalizing offset depth start buffer with
  | nil =>
    rw [spansFrom, within_nil, depthBehind_nil]
    by_cases hzero : depth = 0
    · rw [if_pos hzero]
      exact iff_of_true ⟨_, rfl⟩ ⟨hdepth, hzero⟩
    · rw [if_neg hzero]
      exact iff_of_false (by simp) (fun h => hzero h.2)
  | cons c rest ih =>
    rw [within_cons, depthBehind_cons]
    by_cases hnext : openBehind depth c ≤ maxNesting
    · obtain ⟨start', buffer', -, heq⟩ := spansFrom_cons offset start buffer rest hnext
      have hrest : (∃ spans, spansFrom (offset + c.utf8Size) (openBehind depth c) start' buffer' rest = .ok spans) ↔
          Within maxNesting (openBehind depth c) rest ∧ depthBehind (openBehind depth c) rest = 0 := ih hnext
      simp only [heq, Except.map_eq_ok, hdepth, true_and, ← hrest]
      constructor
      · rintro ⟨spans, behind, hbehind, -⟩
        exact ⟨behind, hbehind⟩
      · rintro ⟨behind, hbehind⟩
        exact ⟨_, behind, hbehind, rfl⟩
    · have hfault := spansFrom_cons_of_tooDeep offset start buffer rest hdepth (Nat.lt_of_not_le hnext)
      rw [hfault]
      exact iff_of_false (by simp) (fun h => hnext (h.1.2 [] List.nil_prefix))

/-- Where the cutter misses a closing brace, the count is within the limit.  The offset that it reports is that of the
outermost brace that is open at first, if one is open and stays so, and else that of one in the text that is opened
where none is open and stays open. -/
private theorem spansFrom_unbalanced {text : List Char} {fault : Nat} (hdepth : depth ≤ maxNesting)
    (h : spansFrom offset depth start buffer text = .error (.unbalanced fault)) :
    Within maxNesting depth text ∧
      ((StaysOpen depth text ∧ fault = start) ∨
        ∃ front back, text = front ++ '\x7b' :: back ∧ fault = offset + byteCount front ∧
          depthBehind depth front = 0 ∧ StaysOpen 1 back) := by
  induction text generalizing offset depth start buffer with
  | nil =>
    rw [spansFrom] at h
    split at h
    · cases h
    · rename_i hopen
      cases h
      exact ⟨within_nil.mpr hdepth, .inl ⟨staysOpen_nil.mpr hopen, rfl⟩⟩
  | cons c rest ih =>
    by_cases hnext : openBehind depth c ≤ maxNesting
    · obtain ⟨start', buffer', hstart, heq⟩ := spansFrom_cons offset start buffer rest hnext
      rw [heq, Except.map_eq_error] at h
      obtain ⟨hwithin, hrest⟩ := ih hnext h
      refine ⟨within_cons.mpr ⟨hdepth, hwithin⟩, ?_⟩
      obtain ⟨hopen, rfl⟩ | ⟨front, back, rfl, rfl, hfront, hback⟩ := hrest
      · have hnonzero : openBehind depth c ≠ 0 := hopen [] List.nil_prefix
        rw [hstart hnonzero]
        by_cases hzero : depth = 0
        · -- nothing is open in front of `c`, so `c` is the brace that stays open
          rw [hzero] at hopen hnonzero ⊢
          have hc : c = '\x7b' := by
            by_cases hc : c = '\x7b'
            · exact hc
            · simp [openBehind, hc] at hnonzero
          refine .inr ⟨[], rest, by rw [hc, List.nil_append], rfl, rfl, ?_⟩
          rwa [hc] at hopen
        · rw [if_neg hzero]
          exact .inl ⟨staysOpen_cons.mpr ⟨hzero, hopen⟩, rfl⟩
      · refine .inr ⟨c :: front, back, rfl, ?_, hfront, hback⟩
        rw [byteCount_cons, Nat.add_assoc]
    · rw [spansFrom_cons_of_tooDeep offset start buffer rest hdepth (Nat.lt_of_not_le hnext)] at h
      cases h

/-- Inside of braces the next span is their content; runs are not empty, and braces stand between them. -/
private theorem spansFrom_apart {text : List Char} {spans : List Span} (hdepth : depth ≤ maxNesting)
    (h : spansFrom offset depth start buffer text = .ok spans) :
    (depth ≠ 0 → ∃ content behind, spans = .braced content :: behind) ∧ Span.literal [] ∉ spans ∧
      ∀ run next, ¬[Span.literal run, .literal next] <:+: spans := by
  induction text generalizing offset depth start buffer spans with
  | nil =>
    rw [spansFrom] at h
    split at h
    · rename_i hzero
      cases h
      refine ⟨fun hopen => absurd hzero hopen, ?_⟩
      unfold literalSpan
      split
      · simp
      · rename_i hbuffer
        simp [hbuffer, List.infix_cons_iff]
    · cases h
  | cons c rest ih =>
    by_cases hnext : openBehind depth c ≤ maxNesting
    · obtain ⟨start', buffer', -, heq⟩ := spansFrom_cons offset start buffer rest hnext
      rw [heq] at h
      obtain ⟨later, hlater, rfl⟩ := Except.map_eq_ok.mp h
      obtain ⟨hhead, hnil, hapart⟩ := ih hnext hlater
      unfold finished
      by_cases hzero : depth = 0
      · rw [if_pos hzero]
        refine ⟨fun hopen => absurd hzero hopen, ?_⟩
        by_cases hnextZero : openBehind depth c = 0
        · rw [if_pos hnextZero]
          exact ⟨hnil, hapart⟩
        · rw [if_neg hnextZero]
          obtain ⟨content, behind, rfl⟩ := hhead hnextZero
          unfold literalSpan
          split
          · exact ⟨hnil, hapart⟩
          · rename_i hbuffer
            refine ⟨by simpa [hbuffer] using hnil, fun run next hinfix => ?_⟩
            -- the literal run in front stands before braces
            obtain hprefix | hinfix := List.infix_cons_iff.mp hinfix
            · simp at hprefix
            · exact hapart run next hinfix
      · rw [if_neg hzero]
        by_cases hnextZero : openBehind depth c = 0
        · rw [if_pos hnextZero]
          refine ⟨fun _ => ⟨_, _, rfl⟩, by simpa using hnil, fun run next hinfix => ?_⟩
          obtain hprefix | hinfix := List.infix_cons_iff.mp hinfix
          · simp at hprefix
          · exact hapart run next hinfix
        · rw [if_neg hnextZero]
          exact ⟨fun _ => hhead hnextZero, hnil, hapart⟩
    · rw [spansFrom_cons_of_tooDeep offset start buffer rest hdepth (Nat.lt_of_not_le hnext)] at h
      cases h

/-! ### Templates -/

private theorem tokenize_isCut {text : List Char} {spans : List Span} (h : tokenize text = .ok spans) :
    IsCut spans := by
  obtain ⟨-, hnil, hapart⟩ := spansFrom_apart (Nat.zero_le _) h
  exact ⟨(tokenize_sound h).2, hnil, hapart⟩

theorem tokenize_eq_ok_iff {text : List Char} {spans : List Span} :
    tokenize text = .ok spans ↔ sourceOf spans = text ∧ IsCut spans ∧ Within maxNesting 0 text := by
  constructor
  · intro h
    obtain ⟨hwithin, -⟩ := (exists_spansFrom_iff (Nat.zero_le _)).mp ⟨spans, h⟩
    exact ⟨(tokenize_sound h).1, tokenize_isCut h, hwithin⟩
  · rintro ⟨rfl, hcut, hwithin⟩
    obtain ⟨others, hothers⟩ :=
      (exists_spansFrom_iff (Nat.zero_le _)).mpr ⟨hwithin, depthBehind_sourceOf hcut.sound⟩
    have hsame := hcut.eq_of_sourceOf_eq (tokenize_isCut hothers) (tokenize_sound hothers).1.symm
    rw [tokenize, hothers, hsame]

/-- The fault of a template is the first brace that is never closed, if it is not nested too deep. -/
private theorem tokenize_eq_unbalanced_iff {text : List Char} {offset : Nat} :
    tokenize text = .error (.unbalanced offset) ↔
      Within maxNesting 0 text ∧ ∃ front back, FirstUnclosed text front back ∧ offset = byteCount front := by
  have hfault : ∀ {offset}, tokenize text = .error (.unbalanced offset) →
      Within maxNesting 0 text ∧ ∃ front back, FirstUnclosed text front back ∧ offset = byteCount front := by
    intro offset h
    obtain ⟨hwithin, ⟨hopen, -⟩ | ⟨front, back, rfl, rfl, hfront, hback⟩⟩ := spansFrom_unbalanced (Nat.zero_le _) h
    · exact absurd rfl (hopen [] List.nil_prefix)
    · exact ⟨hwithin, front, back, firstUnclosed_of_staysOpen hfront hback, Nat.zero_add _⟩
  constructor
  · exact hfault
  · rintro ⟨hwithin, front, back, hfirst, rfl⟩
    cases h : tokenize text with
    | ok spans =>
      obtain ⟨-, hcount⟩ := (exists_spansFrom_iff (Nat.zero_le _)).mp ⟨spans, h⟩
      rw [hfirst.text_eq] at hcount
      exact absurd (closed_of_depthBehind_eq_zero hcount) hfirst.unclosed
    | error fault =>
      cases fault with
      | tooDeep =>
        obtain ⟨part, hpart, hcount⟩ := (spansFrom_eq_tooDeep_iff (Nat.zero_le _)).mp h
        have hlimit := hwithin part hpart
        omega
      | unbalanced offset =>
        obtain ⟨-, front', back', hfirst', rfl⟩ := hfault h
        rw [hfirst.front_unique hfirst']

/-- A template is cut exactly if no more than 32 braces are open anywhere in it and none behind it.  What it is cut into
are the only spans of their shape that make it up, and any spans of that shape are cut out of what they make up, within
the limit.  A 33rd open brace is the one fault, and within the limit the first brace that is never closed is the
other. -/
theorem tokenize_exact (text : List Char) :
    ((∃ spans, tokenize text = .ok spans) ↔ Within 32 0 text ∧ depthBehind 0 text = 0) ∧
      (∀ spans, tokenize text = .ok spans ↔ sourceOf spans = text ∧ IsCut spans ∧ Within 32 0 text) ∧
      (tokenize text = .error .tooDeep ↔ ∃ front, front <+: text ∧ depthBehind 0 front = 33) ∧
      ∀ offset, tokenize text = .error (.unbalanced offset) ↔
        Within 32 0 text ∧ ∃ front back, FirstUnclosed text front back ∧ offset = byteCount front := by
  refine ⟨?_, ?_, ?_, ?_⟩
  · exact exists_spansFrom_iff (Nat.zero_le _)
  · intro spans
    exact tokenize_eq_ok_iff
  · exact spansFrom_eq_tooDeep_iff (Nat.zero_le _)
  · intro offset
    exact tokenize_eq_unbalanced_iff

end Reroute.Template
