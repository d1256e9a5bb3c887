import Mathlib.Data.List.Basic
import Reroute.Proofs.Request.FirstSegment
import Reroute.Rule.Evaluate

/-!
# Slashes at the ends of a path

A path is nothing but empty segments, or a bare part, which neither begins nor ends with an empty segment, between some
empty segments at either end (`Path.framed`).  Around a bare part a policy changes the number of empty segments at its
own end only (`Path.normalize_bare`).  Where there is no bare part the two policies count the same segments, one after
the other (`Path.normalize_blank`): there a slash that was put in front can be taken away again from behind
(`Request.normalize_add_rooted_iff`).  Either way a second pass finds nothing to change
(`Request.normalize_settles`).
-/

namespace Reroute

/-! ### Counting -/

namespace SlashPolicy

/-- The number of empty segments that a policy leaves of those at one end of a bare part. -/
def beside (policy : SlashPolicy) (count : Nat) : Nat :=
  match policy with
  | leave => count
  | add => max 1 count
  | remove => 0

/-- The number of segments that a policy leaves of a path that has only empty ones: a single one is no slash, two are
one. -/
def alone (policy : SlashPolicy) (count : Nat) : Nat :=
  match policy with
  | leave => count
  | add => max 2 count
  | remove => 1

private theorem beside_beside (policy : SlashPolicy) (count : Nat) :
    policy.beside (policy.beside count) = policy.beside count := by
  cases policy with
  | leave => rfl
  | add => exact Nat.max_eq_right (Nat.le_max_left 1 count)
  | remove => rfl

private theorem alone_pos (policy : SlashPolicy) {count : Nat} (h : 0 < count) : 0 < policy.alone count := by
  cases policy <;> simp only [alone] <;> omega

/-- The second policy may take back what the first one gave, and then does so each time. -/
private theorem alone_alone (leading trailing : SlashPolicy) (count : Nat) :
    trailing.alone (leading.alone (trailing.alone (leading.alone count))) = trailing.alone (leading.alone count) := by
  cases leading <;> cases trailing <;> simp only [alone] <;> omega

end SlashPolicy

namespace Path

open List (replicate)

variable {segments core : List String}

/-! ### Between the ends -/

/-- A part of a path that neither begins nor ends with an empty segment. -/
structure IsBare (core : List String) : Prop where
  ne_nil : core ≠ []
  head : core.head? ≠ some ""
  last : core.getLast? ≠ some ""

private theorem IsBare.reverse (h : IsBare core) : IsBare core.reverse where
  ne_nil := List.reverse_ne_nil_iff.mpr h.ne_nil
  head := by
    rw [List.head?_reverse]
    exact h.last
  last := by
    rw [List.getLast?_reverse]
    exact h.head

private theorem IsBare.length_pos (h : IsBare core) : 0 < core.length := List.length_pos_iff.mpr h.ne_nil

/-- A path of nothing but empty segments, or with a bare part between them. -/
inductive Framed : List String → Prop
  | blank {count : Nat} (h : 0 < count) : Framed (replicate count "")
  | bare (front : Nat) {core : List String} (h : IsBare core) (back : Nat) :
      Framed (replicate front "" ++ core ++ replicate back "")

private theorem exists_eq_replicate_append (segments : List String) :
    ∃ count rest, segments = replicate count "" ++ rest ∧ rest.head? ≠ some "" := by
  induction segments with
  | nil => exact ⟨0, [], rfl, by simp⟩
  | cons segment segments ih =>
    by_cases hsegment : segment = ""
    · obtain ⟨count, rest, rfl, hrest⟩ := ih
      exact ⟨count + 1, rest, by rw [hsegment, List.replicate_succ, List.cons_append], hrest⟩
    · exact ⟨0, segment :: segments, rfl, by simpa using hsegment⟩

theorem framed (h : segments ≠ []) : Framed segments := by
  obtain ⟨front, rest, rfl, hhead⟩ := exists_eq_replicate_append segments
  by_cases hrest : rest = []
  · rw [hrest, List.append_nil] at h ⊢
    exact .blank (Nat.pos_of_ne_zero fun hfront => h (by rw [hfront, List.replicate_zero]))
  · obtain ⟨back, core, hback, hlast⟩ := exists_eq_replicate_append rest.reverse
    have hrest' : rest = core.reverse ++ replicate back "" := by
      rw [← List.reverse_reverse rest, hback, List.reverse_append, List.reverse_replicate]
    have hcore : core.reverse ≠ [] := by
      intro hnil
      -- the rest would be empty segments only, but it does not begin with one
      rw [hnil, List.nil_append] at hrest'
      rw [hrest'] at hhead hrest
      cases back with
      | zero => exact hrest rfl
      | succ back => exact hhead rfl
    rw [hrest', ← List.append_assoc]
    refine .bare front ⟨hcore, ?_, ?_⟩ back
    · rwa [hrest', List.head?_append_of_ne_nil _ hcore] at hhead
    · rwa [List.getLast?_reverse]

/-! ### One end -/

private theorem dropLeading_replicate_append (count : Nat) (hhead : segments.head? ≠ some "") (hne : segments ≠ []) :
    dropLeading (replicate count "" ++ segments) = segments := by
  induction count with
  | zero =>
    rw [List.replicate_zero, List.nil_append]
    unfold dropLeading
    split
    · exact absurd List.head?_cons hhead
    · rfl
  | succ count ih =>
    have hmore : replicate count "" ++ segments ≠ [] := List.append_ne_nil_of_right_ne_nil _ hne
    obtain ⟨first, rest, hrest⟩ := List.exists_cons_of_ne_nil hmore
    rw [List.replicate_succ, List.cons_append, hrest, dropLeading, ← hrest, ih]

private theorem dropLeading_replicate (count : Nat) : dropLeading (replicate (count + 1) "") = [""] := by
  induction count with
  | zero => rfl
  | succ count ih => rw [List.replicate_succ, List.replicate_succ, dropLeading, ← List.replicate_succ, ih]

/-- In front of a bare part a policy counts the empty segments that are there. -/
private theorem normalizeLeading_bare (policy : SlashPolicy) (front : Nat) (h : IsBare core) (rest : List String) :
    normalizeLeading policy (replicate front "" ++ (core ++ rest)) =
      replicate (policy.beside front) "" ++ (core ++ rest) := by
  have hne : core ++ rest ≠ [] := List.append_ne_nil_of_left_ne_nil h.ne_nil rest
  have hhead : (core ++ rest).head? ≠ some "" := by
    rw [List.head?_append_of_ne_nil _ h.ne_nil]
    exact h.head
  cases policy with
  | leave => rfl
  | add =>
    cases front with
    | zero =>
      rw [List.replicate_zero, List.nil_append, normalizeLeading, if_pos (.inr hhead)]
      rfl
    | succ front =>
      have hmax : max 1 (front + 1) = front + 1 := by omega
      have hslash : ¬((replicate (front + 1) "" ++ (core ++ rest)).length < 2 ∨
          (replicate (front + 1) "" ++ (core ++ rest)).head? ≠ some "") := by
        have hlength := h.length_pos
        simp only [List.length_append, List.length_replicate, List.replicate_succ, List.cons_append, List.head?_cons,
          List.length_cons, ne_eq, not_true_eq_false, or_false]
        omega
      rw [normalizeLeading, if_neg hslash, SlashPolicy.beside, hmax]
  | remove => exact dropLeading_replicate_append front hhead hne

/-- Without a bare part a policy counts all segments. -/
private theorem normalizeLeading_blank (policy : SlashPolicy) {count : Nat} (h : 0 < count) :
    normalizeLeading policy (replicate count "") = replicate (policy.alone count) "" := by
  obtain ⟨count, rfl⟩ := Nat.exists_eq_succ_of_ne_zero (Nat.ne_of_gt h)
  cases policy with
  | leave => rfl
  | add =>
    cases count with
    | zero => rfl
    | succ count =>
      have hmax : max 2 (count + 1 + 1) = count + 1 + 1 := by omega
      rw [normalizeLeading, if_neg (by simp [List.replicate_succ]), SlashPolicy.alone, Nat.succ_eq_add_one, hmax]
  | remove => exact dropLeading_replicate count

/-- The back of a path is treated like the front of the path turned round. -/
private theorem normalizeTrailing_eq_reverse (policy : SlashPolicy) (segments : List String) :
    normalizeTrailing policy segments = (normalizeLeading policy segments.reverse).reverse := by
  cases policy with
  | leave => exact (List.reverse_reverse segments).symm
  | add =>
    simp only [normalizeTrailing, normalizeLeading, List.length_reverse, List.head?_reverse]
    split
    · rw [List.reverse_cons, List.reverse_reverse]
    · exact (List.reverse_reverse segments).symm
  | remove => rfl

/-! ### Both ends -/

theorem normalize_bare (leading trailing : SlashPolicy) (front : Nat) (h : IsBare core) (back : Nat) :
    normalize leading trailing (replicate front "" ++ core ++ replicate back "") =
      replicate (leading.beside front) "" ++ core ++ replicate (trailing.beside back) "" := by
  rw [normalize, List.append_assoc, normalizeLeading_bare leading front h, normalizeTrailing_eq_reverse,
    List.reverse_append, List.reverse_append, List.reverse_replicate, List.reverse_replicate, List.append_assoc,
    normalizeLeading_bare trailing back h.reverse]
  simp only [List.reverse_append, List.reverse_replicate, List.reverse_reverse]

theorem normalize_blank (leading trailing : SlashPolicy) {count : Nat} (h : 0 < count) :
    normalize leading trailing (replicate count "") = replicate (trailing.alone (leading.alone count)) "" := by
  rw [normalize, normalizeLeading_blank leading h, normalizeTrailing_eq_reverse, List.reverse_replicate,
    normalizeLeading_blank trailing (leading.alone_pos h), List.reverse_replicate]

/-- What was normalized is left as it is. -/
private theorem normalize_normalize (h : segments ≠ []) (leading trailing : SlashPolicy) :
    normalize leading trailing (normalize leading trailing segments) = normalize leading trailing segments := by
  cases framed h with
  | blank hcount =>
    rw [normalize_blank leading trailing hcount,
      normalize_blank leading trailing (trailing.alone_pos (leading.alone_pos hcount)),
      SlashPolicy.alone_alone]
  | bare front hcore back =>
    rw [normalize_bare leading trailing front hcore back, normalize_bare leading trailing _ hcore,
      SlashPolicy.beside_beside, SlashPolicy.beside_beside]

/-- Slashes that are put at the ends of a bare path are all that is taken away again. -/
private theorem normalize_remove_normalize_add (h : IsBare core) :
    normalize .remove .remove (normalize .add .add core) = core := by
  have hbare : core = replicate 0 "" ++ core ++ replicate 0 "" := (List.append_nil core).symm
  rw [hbare, normalize_bare .add .add 0 h 0, normalize_bare .remove .remove _ h]
  rfl

/-- Slashes put in front leave a rooted path, unless all that there is of it goes behind. -/
private theorem normalize_add_isRootedText_iff (h : segments ≠ []) (trailing : SlashPolicy) :
    IsRootedText (join (normalize .add trailing segments)) ↔
      ¬(trailing = .remove ∧ ∀ segment ∈ segments, segment = "") := by
  rw [← begins_iff]
  cases framed h with
  | @blank count hcount =>
    have hempty : ∀ segment ∈ replicate count "", segment = "" := fun _ => List.eq_of_mem_replicate
    rw [normalize_blank .add trailing hcount]
    by_cases htrailing : trailing = .remove
    · subst htrailing
      refine iff_of_false (fun hbegins => ?_) fun hnot => hnot ⟨rfl, hempty⟩
      exact hbegins.2 rfl rfl
    · refine iff_of_true ?_ fun hboth => htrailing hboth.1
      have htwo : ∃ more, trailing.alone (SlashPolicy.alone .add count) = more + 2 := by
        refine Nat.exists_eq_add_of_le' ?_
        cases trailing with
        | leave => exact Nat.le_max_left 2 count
        | add => exact Nat.le_max_left 2 _
        | remove => exact absurd rfl htrailing
      obtain ⟨more, hmore⟩ := htwo
      rw [hmore]
      exact ⟨.inl rfl, fun _ => List.cons_ne_nil _ _⟩
  | @bare front core hcore back =>
    rw [normalize_bare .add trailing front hcore back]
    have hone : ∃ more, SlashPolicy.beside .add front = more + 1 := Nat.exists_eq_add_of_le' (Nat.le_max_left 1 front)
    obtain ⟨more, hmore⟩ := hone
    refine iff_of_true ?_ fun hboth => ?_
    · rw [hmore]
      exact ⟨.inl rfl, fun _ => by simp [hcore.ne_nil]⟩
    · obtain ⟨first, rest, rfl⟩ := List.exists_cons_of_ne_nil hcore.ne_nil
      obtain rfl : first = "" := hboth.2 first (by simp)
      exact hcore.head rfl

end Path

namespace Request

variable {request : Request}

private theorem path_normalize (request : Request) (leading trailing : SlashPolicy) :
    (request.normalize leading trailing).path = Path.normalize leading trailing request.path := by
  rw [normalize, path_setSegments]

/-- A path's text is the one of its segments, also where they are the ones it had. -/
private theorem pathText_setSegments (htext : request.pathText = Path.join request.path) (segments : List String) :
    (request.setSegments segments).pathText = Path.join (request.setSegments segments).path := by
  unfold setSegments
  split
  · exact htext
  · rfl

/-! ### In a row -/

/-- Under any two policies a second pass changes nothing at all, and on a path that neither begins nor ends with a slash
the slashes that were added are all that is removed again. -/
theorem normalize_settles (env : Env) (h : request.path ≠ []) (scratch later : Scratch) :
    let normalize (leading trailing : SlashPolicy) (request : Request) (scratch : Scratch) :=
      (Action.perform env (.normalize leading trailing) request scratch).request
    (∀ leading trailing, normalize leading trailing (normalize leading trailing request scratch) later =
        normalize leading trailing request scratch) ∧
      (request.path.head? ≠ some "" → request.path.getLast? ≠ some "" →
        (normalize .remove .remove (normalize .add .add request scratch) later).path = request.path) := by
  intro normalize
  have hnormalize : ∀ leading trailing request scratch,
      normalize leading trailing request scratch = request.normalize leading trailing :=
    fun leading trailing request scratch => rfl
  constructor
  · intro leading trailing
    rw [hnormalize, hnormalize, Request.normalize.eq_def (request.normalize leading trailing), path_normalize,
      Path.normalize_normalize h, ← path_normalize]
    exact if_pos rfl
  · intro hhead hlast
    rw [hnormalize, hnormalize, path_normalize, path_normalize]
    exact Path.normalize_remove_normalize_add ⟨h, hhead, hlast⟩

theorem normalize_settles_mixed :
    let env : Env := ⟨.execute, "/www", .discard, fun _ => .ok .file⟩
    let normalize (leading trailing : SlashPolicy) (request : Request) :=
      (Action.perform env (.normalize leading trailing) request .start).request
    (ofUrl "//a//").path ≠ [] ∧ (normalize .add .remove (ofUrl "//a//")).path = ["", "", "a"] ∧
      normalize .add .remove (normalize .add .remove (ofUrl "//a//")) = normalize .add .remove (ofUrl "//a//") ∧
      ((ofUrl "a//b").path.head? ≠ some "" ∧ (ofUrl "a//b").path.getLast? ≠ some "") ∧
      (normalize .add .add (ofUrl "a//b")).path = ["", "a", "", "b", ""] ∧
      (normalize .remove .remove (normalize .add .add (ofUrl "a//b"))).path = (ofUrl "a//b").path := by
  intro env normalize
  have hslashes : (ofUrl "//a//").path ≠ [] := by decide
  have hbare : (ofUrl "a//b").path ≠ [] ∧ (ofUrl "a//b").path.head? ≠ some "" ∧
      (ofUrl "a//b").path.getLast? ≠ some "" := by decide
  exact ⟨hslashes, by decide, (normalize_settles env hslashes .start .start).1 .add .remove, hbare.2, by decide,
    (normalize_settles env hbare.1 .start .start).2 hbare.2.1 hbare.2.2⟩

/-- A slash that is put in front of a path makes it rooted, unless slashes are removed behind and the path has nothing
else: then nothing is left of it. -/
theorem normalize_add_rooted_iff (env : Env) (h : request.path ≠ []) (htext : request.pathText = Path.join request.path)
    (trailing : SlashPolicy) (scratch : Scratch) :
    let normalized := (Action.perform env (.normalize .add trailing) request scratch).request
    let vanishing := trailing = .remove ∧ ∀ segment ∈ request.path, segment = ""
    (Path.IsRootedText normalized.pathText ↔ ¬vanishing) ∧ (vanishing → normalized.pathText = "") := by
  intro normalized vanishing
  have hpath : normalized.path = Path.normalize .add trailing request.path := path_normalize request .add trailing
  have hjoin : normalized.pathText = Path.join normalized.path := pathText_setSegments htext _
  rw [hjoin, hpath]
  refine ⟨Path.normalize_add_isRootedText_iff h trailing, ?_⟩
  rintro ⟨rfl, hempty⟩
  have hblank : request.path = List.replicate request.path.length "" := List.eq_replicate_of_mem hempty
  rw [hblank, Path.normalize_blank .add .remove (List.length_pos_iff.mpr h)]
  rfl

theorem normalize_add_rooted_iff_relative :
    let env : Env := ⟨.execute, "/www", .discard, fun _ => .ok .file⟩
    let normalized := (Action.perform env (.normalize .add .remove) (ofUrl "a/") .start).request
    (ofUrl "a/").path ≠ [] ∧ (ofUrl "a/").pathText = Path.join (ofUrl "a/").path ∧ normalized.pathText = "/a" ∧
      Path.IsRootedText normalized.pathText := by
  intro env normalized
  have hpath : (ofUrl "a/").path ≠ [] ∧ (ofUrl "a/").pathText = Path.join (ofUrl "a/").path := by decide
  refine ⟨hpath.1, hpath.2, by decide, ?_⟩
  exact (normalize_add_rooted_iff env hpath.1 hpath.2 .remove .start).1.mpr fun hvanishing =>
    absurd (hvanishing.2 "a" (by decide)) (by decide)

/-- The root has one slash, which is removed from behind although one is to be in front. -/
theorem normalize_unrooted_root :
    let env : Env := ⟨.execute, "/www", .discard, fun _ => .ok .file⟩
    let normalized := (Action.perform env (.normalize .add .remove) (ofUrl "/") .start).request
    (ofUrl "/").pathText = "/" ∧ normalized.path = [""] ∧ normalized.pathText = "" ∧
      ¬Path.IsRootedText normalized.pathText := by
  decide

end Request

end Reroute
