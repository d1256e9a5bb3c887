import Reroute.Proofs.Request.Received
import Reroute.Proofs.Text.Basic
import Reroute.Proofs.Value.Read

/-!
# Names in another case

Parameters, headers and server variables are named where targets, allow-lists and getters are made.  Targets and
allow-lists keep the names in small letters, so they come out the same however the names are written
(`Target.make_respelled`, `AllowList.make_respelled`).  Getters keep the names as they are written and put them into
small letters when they read, so they read the same (`Value.Respelled.read_eq`).
-/

namespace Reroute

/-- The scope reads or writes what has a name, or all that has one. -/
def Scope.TakesNames (scope : Scope) : Prop := scope.isNamed ∨ scope = .queryText

/-- What is given to a scope twice is the same; names may differ in the case of ASCII letters. -/
def Scope.SameIndex (scope : Scope) (index other : Option String) : Prop :=
  index = other ∨ scope.TakesNames ∧ index.map Text.lowerAscii = other.map Text.lowerAscii

/-! ### Targets and allow-lists -/

/-- The name that is left of an index without blanks around it. -/
private theorem Target.map_lowerAscii_trimmed (index : Option String) :
    ((index.map Text.trim).filter (· != "")).map Text.lowerAscii =
      ((index.map Text.lowerAscii).map Text.trim).filter (· != "") := by
  cases index with
  | none => rfl
  | some text =>
    simp only [Option.map_some, ← Text.lowerAscii_trim, Option.filter_some, bne_iff_ne, ne_eq, Text.lowerAscii_eq_empty]
    split <;> rfl

/-- A target comes out the same, however the name is written. -/
theorem Target.make_respelled (action : String) {scope : Scope} {index other : Option String}
    (h : scope.SameIndex index other) : make action scope index = make action scope other := by
  obtain rfl | ⟨hscope, hindex⟩ := h
  · rfl
  · have htrimmed := congrArg (fun index => (index.map Text.trim).filter (· != "")) hindex
    simp only [← Target.map_lowerAscii_trimmed] at htrimmed
    obtain hnamed | rfl := hscope
    · unfold make
      generalize (index.map Text.trim).filter (· != "") = left at htrimmed
      generalize (other.map Text.trim).filter (· != "") = right at htrimmed
      cases scope <;> cases left <;> cases right <;> simp_all [Scope.isNamed, Scope.isReceived]
    · rfl

private theorem AllowList.map_lowerAscii_listed (list : Option String) :
    (listed list).map Text.lowerAscii = listed (list.map Text.lowerAscii) := by
  have hempty : (list.map Text.lowerAscii).getD "" = Text.lowerAscii (list.getD "") := by
    cases list <;> rfl
  have htrim : Text.trim ∘ Text.lowerAscii = Text.lowerAscii ∘ Text.trim :=
    funext fun item => (Text.lowerAscii_trim item).symm
  have hne : (· != "") ∘ Text.lowerAscii = (· != "") := by
    funext item
    simp [bne, Text.lowerAscii_eq_empty, Bool.beq_eq_decide_eq]
  rw [listed, listed, hempty, Text.split_lowerAscii (by decide) (by decide), List.map_map, htrim, ← List.map_map]
  generalize (Text.split ',' (list.getD "")).map Text.trim = items
  rw [List.filter_map, hne]

/-- An allow-list comes out the same, however the names are written. -/
theorem AllowList.make_respelled {scope : Scope} {list other : Option String} (h : scope.SameIndex list other) :
    make scope list = make scope other := by
  obtain rfl | ⟨hscope, hlist⟩ := h
  · rfl
  · have hlisted := congrArg listed hlist
    rw [← map_lowerAscii_listed, ← map_lowerAscii_listed] at hlisted
    obtain hnamed | rfl := hscope
    · cases scope <;> simp_all [make, Scope.isNamed]
    · simp only [make, hlisted]

/-- Targets made in the same way, where names may differ in the case of ASCII letters. -/
def Target.Respelled (a b : Target) : Prop :=
  ∃ action scope index other, scope.SameIndex index other ∧ make action scope index = .ok a ∧
    make action scope other = .ok b

theorem Target.Respelled.eq {a b : Target} (h : a.Respelled b) : a = b := by
  obtain ⟨action, scope, index, other, hindex, ha, hb⟩ := h
  rw [make_respelled action hindex, hb] at ha
  cases ha
  rfl

/-- Allow-lists made in the same way, where names may differ in the case of ASCII letters. -/
def AllowList.Respelled (a b : AllowList) : Prop :=
  ∃ scope list other, scope.SameIndex list other ∧ make scope list = .ok a ∧ make scope other = .ok b

theorem AllowList.Respelled.eq {a b : AllowList} (h : a.Respelled b) : a = b := by
  obtain ⟨scope, list, other, hlist, ha, hb⟩ := h
  rw [make_respelled hlist, hb] at ha
  cases ha
  rfl

/-! ### Getters -/

private theorem Argument.SameUpToCase.eq_or_name {a b : Argument} (h : a.SameUpToCase b) :
    a = b ∨ ∃ name other, a = .name name ∧ b = .name other ∧ Text.lowerAscii name = Text.lowerAscii other := by
  unfold SameUpToCase at h
  split at h
  · rename_i name other
    exact .inr ⟨name, other, rfl, rfl, h⟩
  · exact .inl h

namespace Getter

/-- Getters made in the same way, where names may differ in the case of ASCII letters. -/
inductive Respelled : Getter → Getter → Prop
  | make {scope : Scope} {index other : Option String} {a b : Getter} (h : scope.SameIndex index other)
      (ha : Getter.make scope index = .ok a) (hb : Getter.make scope other = .ok b) : Respelled a b
  | literal (text : String) : Respelled (.literal text) (.literal text)
  | header {name other : String} (h : Text.lowerAscii name = Text.lowerAscii other) :
      Respelled (.header name) (.header other)
  | serverVariable {name other : String} (h : Text.lowerAscii name = Text.lowerAscii other) :
      Respelled (.serverVariable name) (.serverVariable other)
  | capture (key : CaptureKey) (index : Nat) : Respelled (.capture key index) (.capture key index)
  | withOperation (operation : Operation) {a b : Getter} (h : Respelled a b) :
      Respelled (a.withOperation operation) (b.withOperation operation)

/-- Getters of the same scope with the same operations, and with the same argument but for the case of a name. -/
structure Alike (a b : Getter) : Prop where
  scope : a.scope = b.scope
  argument : a.argument.SameUpToCase b.argument
  operations : a.operations = b.operations

private theorem Alike.refl (a : Getter) : a.Alike a := ⟨rfl, .refl _, rfl⟩

private theorem make_named {scope : Scope} (hscope : scope.isNamed) {index : Option String} {getter : Getter}
    (h : make scope index = .ok getter) : ∃ name, index = some name ∧ getter = ⟨scope, .name (Text.trim name), []⟩ := by
  rw [make_of_isNamed hscope] at h
  cases index with
  | none => cases h
  | some name =>
    simp only [Option.map_some, Option.filter_some] at h
    split at h
    · rename_i trimmed hname
      obtain ⟨-, heq⟩ := Option.ite_none_right_eq_some.mp hname
      cases heq
      cases h
      exact ⟨name, rfl, rfl⟩
    · cases h

private theorem Respelled.alike {a b : Getter} (h : a.Respelled b) : a.Alike b := by
  induction h with
  | make h ha hb =>
    obtain rfl | ⟨hnamed | rfl, hindex⟩ := h
    · rw [ha] at hb
      cases hb
      exact .refl _
    · obtain ⟨name, rfl, rfl⟩ := make_named hnamed ha
      obtain ⟨other, rfl, rfl⟩ := make_named hnamed hb
      have hname : Text.lowerAscii name = Text.lowerAscii other := Option.some.inj hindex
      refine ⟨rfl, ?_, rfl⟩
      change Text.lowerAscii (Text.trim name) = Text.lowerAscii (Text.trim other)
      rw [Text.lowerAscii_trim, Text.lowerAscii_trim, hname]
    · cases ha
      cases hb
      exact .refl _
  | literal text => exact .refl _
  | header h => exact ⟨rfl, h, rfl⟩
  | serverVariable h => exact ⟨rfl, h, rfl⟩
  | capture key index => exact .refl _
  | withOperation operation _ ih => exact ⟨ih.scope, ih.argument, congrArg (· ++ [operation]) ih.operations⟩

private theorem Alike.read_eq {a b : Getter} (h : a.Alike b) (request : Request) (scratch : Scratch) :
    a.read request scratch = b.read request scratch := by
  obtain ⟨scope, argument, operations⟩ := a
  obtain ⟨scope', argument', operations'⟩ := b
  obtain ⟨hscope, hargument, hoperations⟩ := h
  cases hscope
  cases hoperations
  obtain hargument | ⟨name, other, hname, hother, hsame⟩ := hargument.eq_or_name
  · cases hargument
    rfl
  · cases hname
    cases hother
    have hresolve : (Getter.mk scope (.name name) operations).resolve request scratch =
        (Getter.mk scope (.name other) operations).resolve request scratch := by
      cases scope <;> simp [resolve, hsame, Request.parameter?, Request.receivedParameter?, Query.parameter?,
        Fields.get?, Fields.received?]
    simp only [read, hresolve]

end Getter

/-! ### Values -/

namespace Value

mutual

/-- Values put together in the same way from getters whose names may differ in the case of ASCII letters. -/
inductive Respelled : Value → Value → Prop
  | getter {a b : Getter} (h : a.Respelled b) : Respelled (.getter a) (.getter b)
  | concat {parts others : List Value} (separator : Option String) (operation : Option Operation)
      (h : AllRespelled parts others) :
      Respelled (.concat parts separator operation) (.concat others separator operation)

/-- The same of values in a row. -/
inductive AllRespelled : List Value → List Value → Prop
  | nil : AllRespelled [] []
  | cons {a b : Value} {values others : List Value} (h : Respelled a b) (hrest : AllRespelled values others) :
      AllRespelled (a :: values) (b :: others)

end

variable (request : Request) (scratch : Scratch)

mutual

theorem Respelled.read_eq : ∀ {a b : Value}, a.Respelled b → a.read request scratch = b.read request scratch
  | _, _, .getter h => h.alike.read_eq request scratch
  | _, _, .concat separator operation h => by rw [read, read, h.readAll_eq]

private theorem AllRespelled.readAll_eq : ∀ {values others : List Value}, AllRespelled values others →
    readAll values request scratch = readAll others request scratch
  | _, _, .nil => rfl
  | _, _, .cons h hrest => by rw [readAll, readAll, h.read_eq, hrest.readAll_eq]

end

end Value

end Reroute
