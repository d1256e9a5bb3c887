import Reroute.Walk.Log

/-!
# Results in steps

A computation in steps succeeds where every step of it does, and what comes out of it comes out of the last step; where
it fails, the failure is that of the first step that fails.  The result of a computation with a log is that of the same
steps without.  Two computations whose steps are the same, but for failures of a certain kind, are the same but for such
failures.
-/

namespace Except

variable {ε α β : Type}

theorem bind_eq_ok {x : Except ε α} {f : α → Except ε β} {b : β} :
    (x >>= f) = .ok b ↔ ∃ a, x = .ok a ∧ f a = .ok b := by
  cases x <;> simp [bind, Except.bind]

theorem map_eq_ok {x : Except ε α} {f : α → β} {b : β} : x.map f = .ok b ↔ ∃ a, x = .ok a ∧ f a = b := by
  cases x <;> simp [Except.map]

theorem map_eq_error {x : Except ε α} {f : α → β} {e : ε} : x.map f = .error e ↔ x = .error e := by
  cases x <;> simp [Except.map]

theorem map_bind {γ : Type} (x : Except ε α) (f : α → Except ε β) (g : β → γ) :
    (x >>= f).map g = x >>= fun a => (f a).map g := by
  cases x <;> rfl

/-- Whatever comes out has a property. -/
def Yields (p : α → Prop) (x : Except ε α) : Prop := ∀ a, x = .ok a → p a

namespace Yields

variable {p : β → Prop}

theorem ok {b : β} (h : p b) : (ok b : Except ε β).Yields p := by
  intro b hb
  cases hb
  exact h

theorem error (e : ε) : (error e : Except ε β).Yields p := by
  intro b hb
  cases hb

/-- What comes out of steps comes out of the last one. -/
theorem bind {x : Except ε α} {f : α → Except ε β} (h : ∀ a, (f a).Yields p) : (x >>= f).Yields p := by
  intro b hb
  obtain ⟨a, -, hb⟩ := bind_eq_ok.mp hb
  exact h a b hb

end Yields

/-- The failure, if it is one. -/
def fault? : Except ε α → Option ε
  | ok _ => none
  | error e => some e

theorem fault?_eq_some {x : Except ε α} {e : ε} : x.fault? = some e ↔ x = .error e := by
  cases x <;> simp [fault?]

@[simp] theorem fault?_map (f : α → β) (x : Except ε α) : (x.map f).fault? = x.fault? := by
  cases x <;> rfl

/-- The first step fails, or what follows fails in one way whatever the first step gives. -/
theorem fault?_bind {x : Except ε α} {f : α → Except ε β} {later : Option ε} (h : ∀ a, (f a).fault? = later) :
    (x >>= f).fault? = x.fault?.or later := by
  cases x with
  | ok a => exact h a
  | error e => rfl

/-- A last step that cannot fail. -/
theorem fault?_bind_ok (x : Except ε α) (f : α → β) : (x >>= fun a => .ok (f a)).fault? = x.fault? := by
  cases x <;> rfl

/-- Every failure has a property. -/
def Fails (p : ε → Prop) (x : Except ε α) : Prop := ∀ e, x = .error e → p e

namespace Fails

variable {p : ε → Prop}

theorem ok (a : α) : (ok a : Except ε α).Fails p := by
  intro e he
  cases he

theorem error {e : ε} (h : p e) : (error e : Except ε α).Fails p := by
  intro e he
  cases he
  exact h

theorem bind {x : Except ε α} {f : α → Except ε β} (h : x.Fails p) (hnext : ∀ a, (f a).Fails p) :
    (x >>= f).Fails p := by
  cases x with
  | ok a => exact hnext a
  | error e => exact error (h e rfl)

theorem mapM {f : α → Except ε β} {items : List α} (h : ∀ item ∈ items, (f item).Fails p) :
    (items.mapM f).Fails p := by
  induction items with
  | nil => exact ok []
  | cons item items ih =>
    obtain ⟨hitem, hitems⟩ := List.forall_mem_cons.mp h
    rw [List.mapM_cons]
    exact hitem.bind fun _ => (ih hitems).bind fun _ => ok _

theorem map {x : Except ε α} (f : α → β) (h : x.Fails p) : (x.map f).Fails p := by
  cases x with
  | ok a => exact ok (f a)
  | error e => exact error (h e rfl)

theorem mapError {δ : Type} {q : δ → Prop} {f : ε → δ} (h : ∀ e, q (f e)) (x : Except ε α) :
    (x.mapError f).Fails q := by
  cases x with
  | ok a => exact ok a
  | error e => exact error (h e)

end Fails

/-- The same result, unless the first is a failure of a certain kind. -/
def SameUnless (p : ε → Prop) (x y : Except ε α) : Prop := (∃ e, x = .error e ∧ p e) ∨ y = x

namespace SameUnless

variable {p : ε → Prop} {x y : Except ε α}

theorem refl (x : Except ε α) : x.SameUnless p x := .inr rfl

theorem bind {f g : α → Except ε β} (h : x.SameUnless p y) (hnext : ∀ a, (f a).SameUnless p (g a)) :
    (x >>= f).SameUnless p (y >>= g) := by
  obtain ⟨e, rfl, he⟩ | rfl := h
  · exact .inl ⟨e, rfl, he⟩
  · cases y with
    | error e => exact .inr rfl
    | ok a => exact hnext a

theorem map (f : α → β) (h : x.SameUnless p y) : (x.map f).SameUnless p (y.map f) := by
  obtain ⟨e, rfl, he⟩ | rfl := h
  · exact .inl ⟨e, rfl, he⟩
  · exact .inr rfl

theorem mapError {δ : Type} {q : δ → Prop} {f : ε → δ} (h : x.SameUnless p y) (hkind : ∀ e, p e → q (f e)) :
    (x.mapError f).SameUnless q (y.mapError f) := by
  obtain ⟨e, rfl, he⟩ | rfl := h
  · exact .inl ⟨f e, rfl, hkind e he⟩
  · exact .inr rfl

theorem mapM {f g : β → Except ε α} (h : ∀ b, (f b).SameUnless p (g b)) (items : List β) :
    (items.mapM f).SameUnless p (items.mapM g) := by
  induction items with
  | nil => exact refl _
  | cons item items ih =>
    rw [List.mapM_cons, List.mapM_cons]
    exact (h item).bind fun a => ih.bind fun others => refl _

end SameUnless

end Except

namespace Reroute.Logged

variable {ε α β : Type}

@[simp] theorem result_pure (a : α) : (pure a : Logged ε α).result = .ok a := rfl

@[simp] theorem result_ofExcept (x : Except ε α) : (ofExcept x).result = x := rfl

@[simp] theorem result_report (record : LogRecord) : (report record : Logged ε Unit).result = .ok () := rfl

theorem result_bind (x : Logged ε α) (f : α → Logged ε β) :
    (x >>= f).result = x.result >>= fun a => (f a).result := by
  obtain ⟨log, result⟩ := x
  cases result <;> rfl

/-- The same result and the same log, unless the first fails in a certain way. -/
def SameUnless (p : ε → Prop) (x y : Logged ε α) : Prop := (∃ e, x.result = .error e ∧ p e) ∨ y = x

namespace SameUnless

variable {p : ε → Prop}

theorem refl (x : Logged ε α) : x.SameUnless p x := .inr rfl

theorem ofExcept {x y : Except ε α} (h : x.SameUnless p y) : (ofExcept x).SameUnless p (ofExcept y) := by
  obtain h | rfl := h
  · exact .inl h
  · exact .inr rfl

theorem bind {x y : Logged ε α} {f g : α → Logged ε β} (h : x.SameUnless p y)
    (hnext : ∀ a, (f a).SameUnless p (g a)) : (x >>= f).SameUnless p (y >>= g) := by
  obtain ⟨e, he, hkind⟩ | rfl := h
  · refine .inl ⟨e, ?_, hkind⟩
    rw [result_bind, he]
    rfl
  · obtain ⟨log, result⟩ := y
    cases result with
    | error e => exact .inr rfl
    | ok a =>
      obtain ⟨e, he, hkind⟩ | heq := hnext a
      · exact .inl ⟨e, he, hkind⟩
      · refine .inr ?_
        change Logged.andThen _ _ = Logged.andThen _ _
        simp only [Logged.andThen, heq]

end SameUnless

end Reroute.Logged
