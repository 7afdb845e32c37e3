import Mathlib.Logic.Basic

/-!
# CartoonDemo.Library.Transaction

**All or nothing.** An operation on a state either raises or returns a value with a new
state (`Except ε (α × σ)`). Run as a transaction it commits the new state or, when it
raises, leaves the old one: `commit`.
-/

namespace CartoonDemo

universe u v w

variable {ε : Type u} {α β : Type v} {σ : Type w}

/-- A sequence of two computations that returned: both of them did. -/
theorem except_bind_ok {x : Except ε α} {f : α → Except ε β} {b : β} (h : x >>= f = .ok b) :
    ∃ a, x = .ok a ∧ f a = .ok b := by
  cases x with
  | error e => exact absurd h (by simp [bind, Except.bind])
  | ok a => exact ⟨a, rfl, h⟩

/-- A sequence of two computations that raised: one of them did. -/
theorem except_bind_error {x : Except ε α} {f : α → Except ε β} {e : ε}
    (h : x >>= f = .error e) : x = .error e ∨ ∃ a, x = .ok a ∧ f a = .error e := by
  cases x with
  | error e' =>
      have he : (.error e' : Except ε β) = .error e := h
      exact Or.inl (congrArg Except.error (Except.error.inj he))
  | ok a => exact Or.inr ⟨a, rfl, h⟩

theorem except_ok_bind (a : α) (f : α → Except ε β) : ((.ok a : Except ε α) >>= f) = f a := rfl

theorem except_error_bind (e : ε) (f : α → Except ε β) :
    ((.error e : Except ε α) >>= f) = .error e := rfl

theorem except_map_bind {x : Except ε α} {f : α → Except ε β} {g : β → γ} :
    (x >>= f).map g = x >>= fun a => (f a).map g := by
  cases x <;> rfl

theorem except_map_ok {x : Except ε α} {f : α → β} {b : β} (h : x.map f = .ok b) :
    ∃ a, x = .ok a ∧ f a = b := by
  cases x with
  | error e => exact absurd h (by simp [Except.map])
  | ok a => exact ⟨a, rfl, Except.ok.inj h⟩

theorem except_map_error {x : Except ε α} {f : α → β} {e : ε} (h : x.map f = .error e) :
    x = .error e := by
  cases x with
  | error e' =>
      have he : (.error e' : Except ε β) = .error e := h
      exact congrArg Except.error (Except.error.inj he)
  | ok a => exact absurd h (by simp [Except.map])

theorem except_isOk_iff {x : Except ε α} : x.isOk ↔ ∃ a, x = .ok a := by
  cases x with
  | error e => simp [Except.isOk, Except.toBool]
  | ok a => simp [Except.isOk, Except.toBool]

theorem forall_except_ok_iff {x : Except ε α} {Q : Prop} :
    (∀ a, x = .ok a → Q) ↔ (x.isOk → Q) := by
  rw [except_isOk_iff, forall_exists_index]

/-- What a computation raises satisfies `P`. -/
structure Raises (P : ε → Prop) (x : Except ε α) : Prop where
  of_error : ∀ e, x = .error e → P e

@[simp] theorem raises_ok (P : ε → Prop) (a : α) : Raises P (.ok a : Except ε α) :=
  ⟨fun _ h => absurd h (by simp)⟩

@[simp] theorem raises_error {P : ε → Prop} {e : ε} :
    Raises P (.error e : Except ε α) ↔ P e :=
  ⟨fun h => h.of_error e rfl, fun h => ⟨fun _ he => by obtain rfl := Except.error.inj he; exact h⟩⟩

/-- What a sequence raises is raised by one of its parts. -/
theorem Raises.bind {P : ε → Prop} {x : Except ε α} {f : α → Except ε β} (hx : Raises P x)
    (hf : ∀ a, x = .ok a → Raises P (f a)) : Raises P (x >>= f) := by
  cases x with
  | error e => exact raises_error.mpr (hx.of_error e rfl)
  | ok a => exact hf a rfl

theorem raises_bind_iff {P : ε → Prop} {x : Except ε α} {f : α → Except ε β} :
    Raises P (x >>= f) ↔ Raises P x ∧ ∀ a, x = .ok a → Raises P (f a) := by
  refine ⟨fun h => ?_, fun h => h.1.bind h.2⟩
  cases x with
  | error e => exact ⟨raises_error.mpr (raises_error.mp h), fun _ ha => absurd ha (by simp)⟩
  | ok a =>
      refine ⟨raises_ok P a, fun b hb => ?_⟩
      obtain rfl := Except.ok.inj hb
      exact h

@[simp] theorem raises_map_iff {P : ε → Prop} {x : Except ε α} {f : α → β} :
    Raises P (x.map f) ↔ Raises P x := by
  cases x with
  | error e => simp only [Except.map, raises_error]
  | ok a => simp only [Except.map, raises_ok]

/-- The state after running an operation as a transaction from `s`. -/
def commit {α : Type v} (s : σ) : Except ε (α × σ) → σ
  | .ok (_, s') => s'
  | .error _ => s

@[simp] theorem commit_ok (s s' : σ) (a : α) : commit s (.ok (a, s') : Except ε (α × σ)) = s' :=
  rfl

@[simp] theorem commit_error (s : σ) (e : ε) : commit s (.error e : Except ε (α × σ)) = s := rfl

/-- A transaction leaves the state alone or the operation returned the new one. -/
theorem commit_cases (s : σ) (x : Except ε (α × σ)) :
    commit s x = s ∨ ∃ a, x = .ok (a, commit s x) := by
  cases x with
  | error e => exact Or.inl rfl
  | ok p => exact Or.inr ⟨p.1, rfl⟩

end CartoonDemo
