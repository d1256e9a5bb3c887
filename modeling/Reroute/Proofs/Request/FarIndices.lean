import Reroute.Config.Document
import Reroute.Proofs.Request.Elements
import Reroute.Proofs.Text.Numeral
import Reroute.Rule.Evaluate

/-!
# Indices that address no element

An index that addresses no element makes an action do nothing and a getter read nothing.  This holds for the indices
that are read as numbers: those of 32 bits.  A numeral of a larger number is taken as if there were no index at all, and
so the whole path is written and read in place of an element (`Request.skips_iff`).
-/

namespace Reroute

/-! ### Numbers as indices -/

/-- The attribute is a number, or a decimal numeral of it with nothing but white space around. -/
def Scalar.Spells (scalar : Scalar) (n : Int) : Prop :=
  match scalar with
  | .number value => value = n
  | .text content => Text.Spells (Text.trim content).toList n

/-- The number has 32 bits. -/
def IsIndex (n : Int) : Prop := -(Nat.pow 2 31 : Int) ≤ n ∧ n < (Nat.pow 2 31 : Int)

instance : DecidablePred IsIndex := fun _ => inferInstanceAs (Decidable (_ ∧ _))

variable {scalar : Scalar} {n : Int}

private theorem Scalar.Spells.text (h : scalar.Spells n) : Text.Spells (Text.trim scalar.toText).toList n := by
  cases scalar with
  | number value =>
    obtain rfl : value = n := h
    have hspells := Text.spells_toString value
    have htrim : Text.trim (toString value) = toString value :=
      Text.trim_of_not_blank fun c hc => Text.isBlank_of_mem_spelled hspells hc
    show Text.Spells (Text.trim (toString value)).toList value
    rwa [htrim]
  | text content => exact h

private theorem Scalar.Spells.readInt? (h : scalar.Spells n) :
    Text.readInt? 32 (Text.trim scalar.toText) = if IsIndex n then some n else none :=
  Text.readInt?_of_spells h.text 32

private theorem Scalar.Spells.trim_ne_empty (h : scalar.Spells n) : Text.trim scalar.toText ≠ "" := by
  intro hempty
  have hspells := h.text
  rw [hempty] at hspells
  generalize hchars : "".toList = chars at hspells
  cases hspells with
  | plain hne => exact hne hchars.symm
  | plus | minus => cases hchars

private theorem Target.make_of_spells (h : scalar.Spells n) (hn : n ≠ 0) (action : String) :
    make action .pathElement (some scalar.toText) = .ok (if IsIndex n then .pathElement n else .path) := by
  have hne : (Text.trim scalar.toText != "") = true := by simpa using h.trim_ne_empty
  simp only [make, Scope.isReceived, Bool.false_eq_true, if_false, Option.map_some, Option.filter_some, hne, if_true,
    Option.bind_some, h.readInt?]
  by_cases hindex : IsIndex n
  · simp only [if_pos hindex, if_neg hn]
  · simp only [if_neg hindex]

private theorem Getter.make_of_spells (h : scalar.Spells n) (hn : n ≠ 0) :
    make .pathElement (some scalar.toText) =
      .ok (if IsIndex n then ⟨.pathElement, .element n, []⟩ else ⟨.path, .nothing, []⟩) := by
  simp only [make, Scope.isPathElement, if_true, Option.map_some, Option.bind_some, h.readInt?]
  by_cases hindex : IsIndex n
  · simp only [if_pos hindex, if_neg hn]
  · simp only [if_neg hindex]
    rfl

/-! ### Nothing happens -/

namespace Request

/-- At an index, replacing, appending and deleting an element change nothing of the request, and the element reads as
nothing. -/
structure Skips (request : Request) (index : Option String) : Prop where
  replace (value : Value) (env : Env) (scratch : Scratch) : ∃ target,
    Target.make "replace" .pathElement index = .ok target ∧
      (Action.perform env (.replace target value) request scratch).request = request
  append (value : Value) (env : Env) (scratch : Scratch) : ∃ target,
    Target.make "append" .pathElement index = .ok target ∧
      (Action.perform env (.append target value) request scratch).request = request
  delete (env : Env) (scratch : Scratch) : ∃ target,
    Target.make "delete" .pathElement index = .ok target ∧
      (Action.perform env (.delete target) request scratch).request = request
  read (scratch : Scratch) : ∃ getter,
    Getter.make .pathElement index = .ok getter ∧ getter.read request scratch = ""

variable {request : Request}

private theorem skips_of_isIndex (hspells : scalar.Spells n) (hn : n ≠ 0) (hindex : IsIndex n)
    (h : ¬Path.Addresses request.path n) : request.Skips (some scalar.toText) := by
  have hnone := Path.resolve?_eq_none.mpr h
  have htarget : ∀ action, Target.make action .pathElement (some scalar.toText) = .ok (.pathElement n) := by
    intro action
    rw [Target.make_of_spells hspells hn, if_pos hindex]
  refine ⟨fun value env scratch => ⟨_, htarget _, ?_⟩, fun value env scratch => ⟨_, htarget _, ?_⟩,
    fun env scratch => ⟨_, htarget _, ?_⟩, fun scratch => ⟨⟨.pathElement, .element n, []⟩, ?_, ?_⟩⟩
  · simp only [Action.perform, Action.reportOutcome, Request.replace, hnone]
  · simp only [Action.perform, Action.reportOutcome, Request.append, hnone]
  · simp only [Action.perform, Action.reportOutcome, Request.delete, hnone]
  · rw [Getter.make_of_spells hspells hn, if_pos hindex]
  · exact Path.element_of_not_addresses h

/-- Where the whole path is replaced, something is: the path cannot be two texts. -/
private theorem isIndex_of_skips (hspells : scalar.Spells n) (hn : n ≠ 0) (h : request.Skips (some scalar.toText)) :
    IsIndex n := by
  by_contra hindex
  have hpath : ∀ text, request.setPathText text = request := by
    intro text
    obtain ⟨target, htarget, hsame⟩ := h.replace (.literal text) ⟨.execute, "", .discard, fun _ => .ok .file⟩ .start
    rw [Target.make_of_spells hspells hn, if_neg hindex] at htarget
    cases htarget
    exact hsame
  have hone : (request.setPathText "a").path = ["a"] := rfl
  have hother : (request.setPathText "b").path = ["b"] := rfl
  rw [hpath] at hone hother
  rw [hone] at hother
  exact absurd hother (by decide)

/-- An index that addresses no element is skipped exactly if it is a number of 32 bits; a larger number stands for the
whole path. -/
theorem skips_iff (hspells : scalar.Spells n) (hn : n ≠ 0) (h : ¬Path.Addresses request.path n) :
    (request.Skips (some scalar.toText) ↔ -(Nat.pow 2 31 : Int) ≤ n ∧ n < (Nat.pow 2 31 : Int)) ∧
      (¬(-(Nat.pow 2 31 : Int) ≤ n ∧ n < (Nat.pow 2 31 : Int)) →
        (∀ action, Target.make action .pathElement (some scalar.toText) = .ok .path) ∧
          Getter.make .pathElement (some scalar.toText) = .ok ⟨.path, .nothing, []⟩) := by
  refine ⟨⟨isIndex_of_skips hspells hn, fun hindex => skips_of_isIndex hspells hn hindex h⟩, fun hindex => ⟨?_, ?_⟩⟩
  · intro action
    exact (Target.make_of_spells hspells hn action).trans (congrArg Except.ok (if_neg hindex))
  · exact (Getter.make_of_spells hspells hn).trans (congrArg Except.ok (if_neg hindex))

theorem skips_iff_behind_end :
    let request := ofUrl "/a/b"
    (Scalar.text " -3 ").Spells (-3) ∧ ¬Path.Addresses request.path (-3) ∧ request.Skips (some " -3 ") ∧
      (Scalar.number 2147483648).Spells 2147483648 ∧ ¬Path.Addresses request.path 2147483648 ∧
      ¬request.Skips (some "2147483648") := by
  have hnear : (Scalar.text " -3 ").Spells (-3) := Text.Spells.minus (List.cons_ne_nil '3' []) (List.all_eq_true.mp rfl)
  have hpath : ¬Path.Addresses (ofUrl "/a/b").path (-3) := by decide
  have hfar : ¬Path.Addresses (ofUrl "/a/b").path 2147483648 := by decide
  have hlarge : (Scalar.number 2147483648).Spells 2147483648 := rfl
  refine ⟨hnear, hpath, (skips_iff hnear (by decide) hpath).1.mpr (by decide), hlarge, hfar, ?_⟩
  intro hskips
  exact absurd ((skips_iff hlarge (by decide) hfar).1.mp hskips) (by decide)

/-- The number behind the last one of 32 bits: the whole path is written and read. -/
theorem far_index_rewrites :
    let request := ofUrl "/a/b"
    let env : Env := ⟨.execute, "/www", .discard, fun _ => .ok .file⟩
    (Scalar.text "2147483648").Spells 2147483648 ∧ ¬Path.Addresses request.path 2147483648 ∧
      Target.make "replace" .pathElement (some "2147483648") = .ok .path ∧
      (Action.perform env (.replace .path (.literal "x")) request .start).request.pathText = "x" ∧
      Getter.make .pathElement (some "2147483648") = .ok ⟨.path, .nothing, []⟩ ∧
      (Getter.mk .path .nothing []).read request .start = "/a/b" := by
  refine ⟨Text.Spells.plain (by decide) (List.all_eq_true.mp rfl), by decide, rfl, by decide, rfl, by decide⟩

end Request

end Reroute
