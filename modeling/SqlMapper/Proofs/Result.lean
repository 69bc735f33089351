import Mathlib.Data.List.Forall2
import SqlMapper.Error

/-!
Results that may be errors. A sequence of steps succeeds if every step does, and
fails as the first step that fails; raising an error to a wider kind keeps the
successes.
-/

namespace SqlMapper

variable {ε ε' α β γ : Type}

theorem bind_eq_ok_iff {x : Except ε α} {f : α → Except ε β} {b : β} :
    x >>= f = .ok b ↔ ∃ a, x = .ok a ∧ f a = .ok b := by
  cases x with
  | error e =>
    refine ⟨fun h => ?_, fun h => ?_⟩
    · cases h
    · obtain ⟨a, h, -⟩ := h
      cases h
  | ok a =>
    refine ⟨fun h => ?_, fun h => ?_⟩
    · exact ⟨a, rfl, h⟩
    · obtain ⟨_, h, hb⟩ := h
      cases h
      exact hb

theorem bind_eq_error_iff {x : Except ε α} {f : α → Except ε β} {e : ε} :
    x >>= f = .error e ↔ x = .error e ∨ ∃ a, x = .ok a ∧ f a = .error e := by
  cases x <;> simp [bind, Except.bind]

theorem exists_ok_iff {x : Except ε α} : (∃ a, x = .ok a) ↔ ¬ ∃ e, x = .error e := by
  cases x <;> simp

theorem toOption_eq_some_iff {x : Except ε α} {a : α} : x.toOption = some a ↔ x = .ok a := by
  cases x <;> simp [Except.toOption]

@[simp] theorem ok_bind (a : α) (f : α → Except ε β) : (Except.ok a >>= f) = f a := rfl

@[simp] theorem error_bind (e : ε) (f : α → Except ε β) : (Except.error e >>= f) = .error e := rfl

theorem map_map (x : Except ε α) (f : α → β) (g : β → γ) :
    (x.map f).map g = x.map fun a => g (f a) := by
  cases x <;> rfl

theorem map_eq_ok_iff {x : Except ε α} {f : α → β} {b : β} :
    x.map f = .ok b ↔ ∃ a, x = .ok a ∧ f a = b := by
  cases x <;> simp [Except.map]

theorem map_eq_error_iff {x : Except ε α} {f : α → β} {e : ε} :
    x.map f = .error e ↔ x = .error e := by
  cases x <;> simp [Except.map]

theorem mapError_map (x : Except ε α) (f : α → β) (g : ε → ε') :
    (x.map f).mapError g = (x.mapError g).map f := by
  cases x <;> rfl

theorem mapError_eq_ok_iff {x : Except ε α} {f : ε → ε'} {a : α} :
    x.mapError f = .ok a ↔ x = .ok a := by
  cases x <;> simp [Except.mapError]

theorem mapError_eq_error_iff {x : Except ε α} {f : ε → ε'} {e : ε'} :
    x.mapError f = .error e ↔ ∃ cause, x = .error cause ∧ e = f cause := by
  cases x <;> simp [Except.mapError, eq_comm]

theorem map_eq_bind (x : Except ε α) (f : α → β) : x.map f = x >>= fun a => .ok (f a) := by
  cases x <;> rfl

theorem mapM_eq_ok_iff {f : α → Except ε β} {as : List α} {bs : List β} :
    as.mapM f = .ok bs ↔ List.Forall₂ (fun a b => f a = .ok b) as bs := by
  induction as generalizing bs with
  | nil =>
    rw [List.mapM_nil]
    cases bs with
    | nil => simp [pure, Except.pure]
    | cons b bs => simp [pure, Except.pure]
  | cons a as ih =>
    rw [List.mapM_cons, bind_eq_ok_iff]
    refine ⟨fun h => ?_, fun h => ?_⟩
    · obtain ⟨b, hb, h⟩ := h
      obtain ⟨rest, hrest, h⟩ := bind_eq_ok_iff.1 h
      cases h
      exact .cons hb (ih.1 hrest)
    · cases h with
      | cons hb hrest =>
        exact ⟨_, hb, bind_eq_ok_iff.2 ⟨_, ih.2 hrest, rfl⟩⟩

/-- The fault of the first element of a list that has one. -/
def FirstFault (fault : α → ε → Prop) (as : List α) (e : ε) : Prop :=
  ∃ before a after, as = before ++ a :: after ∧ (∀ b ∈ before, ∀ e', ¬ fault b e') ∧ fault a e

theorem not_firstFault_nil (fault : α → ε → Prop) (e : ε) : ¬ FirstFault fault [] e := by
  rintro ⟨before, a, after, h, -⟩
  simp at h

theorem firstFault_cons (fault : α → ε → Prop) (a : α) (as : List α) (e : ε) :
    FirstFault fault (a :: as) e ↔
      fault a e ∨ (∀ e', ¬ fault a e') ∧ FirstFault fault as e := by
  constructor
  · rintro ⟨before, b, after, h, sound, hb⟩
    cases before with
    | nil =>
      obtain ⟨rfl, rfl⟩ := List.cons.inj h
      exact .inl hb
    | cons c before =>
      obtain ⟨rfl, rfl⟩ := List.cons.inj h
      exact .inr ⟨sound a (by simp), before, b, after, rfl, fun x hx => sound x (by simp [hx]), hb⟩
  · rintro (h | ⟨sound, before, b, after, rfl, earlier, hb⟩)
    · exact ⟨[], a, as, rfl, by simp, h⟩
    · exact ⟨a :: before, b, after, rfl, List.forall_mem_cons.2 ⟨sound, earlier⟩, hb⟩

theorem exists_firstFault_iff (fault : α → ε → Prop) (as : List α) :
    (∃ e, FirstFault fault as e) ↔ ∃ a ∈ as, ∃ e, fault a e := by
  induction as with
  | nil => simp [not_firstFault_nil]
  | cons a as ih =>
    simp only [firstFault_cons, exists_or, exists_and_left, ih, List.exists_mem_cons_iff]
    by_cases h : ∃ e, fault a e
    · simp [h]
    · simp [not_exists.1 h]

theorem mapM_eq_error_iff {f : α → Except ε β} {as : List α} {e : ε} :
    as.mapM f = .error e ↔ FirstFault (fun a e => f a = .error e) as e := by
  induction as with
  | nil => simp [not_firstFault_nil, pure, Except.pure]
  | cons a as ih =>
    rw [List.mapM_cons, bind_eq_error_iff, firstFault_cons]
    cases h : f a with
    | error e' => simp
    | ok b =>
      simp only [reduceCtorEq, not_false_eq_true, implies_true, true_and, false_or, Except.ok.injEq,
        exists_eq_left', bind_eq_error_iff, ih]
      simp [pure, Except.pure]

@[simp] theorem liftBinding_eq_ok_iff {r : Except BindingError α} {a : α} :
    liftBinding r = .ok a ↔ r = .ok a :=
  mapError_eq_ok_iff

theorem liftBinding_eq_error_iff {r : Except BindingError α} {e : Error} :
    liftBinding r = .error e ↔ ∃ cause, r = .error cause ∧ e = .binding cause :=
  mapError_eq_error_iff

@[simp] theorem liftModel_eq_ok_iff {r : Except ModelError α} {a : α} :
    liftModel r = .ok a ↔ r = .ok a :=
  mapError_eq_ok_iff

theorem liftModel_eq_error_iff {r : Except ModelError α} {e : Error} :
    liftModel r = .error e ↔ ∃ cause, r = .error cause ∧ e = .model cause :=
  mapError_eq_error_iff

@[simp] theorem liftModel_ok (a : α) : liftModel (.ok a) = .ok a := rfl

theorem liftModel_bind (x : Except ModelError α) (f : α → Except ModelError β) :
    liftModel (x >>= f) = liftModel x >>= fun a => liftModel (f a) := by
  cases x <;> rfl

end SqlMapper
