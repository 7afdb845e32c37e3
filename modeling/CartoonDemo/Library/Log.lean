import CartoonDemo.Library.Run

/-!
# CartoonDemo.Library.Log

**What the steps of a run log.** Each step of a run may emit entries; `logged` collects
them. When a step emits at most one entry, the log of a run has at most one entry exactly
when no two steps of the run both emit (`logged_length_le_one_iff`).

`PairsAlong` is the general form of such a statement: a relation between every step of a
run and every later one. To replace the relation by another, one needs to know only what
the first step makes true of all later states (`pairsAlong_congr`).
-/

namespace CartoonDemo

universe u v w

variable {σ : Type u} {α : Type v} {β : Type w}

/-- The entries emitted by the steps of a run, in order. -/
def logged (step : α → σ → σ) (emit : σ → α → List β) : σ → List α → List β
  | _, [] => []
  | s, a :: as => emit s a ++ logged step emit (step a s) as

/-- `R` holds between every step of the run and every later one. -/
def PairsAlong (step : α → σ → σ) (R : σ → α → σ → α → Prop) : σ → List α → Prop
  | _, [] => True
  | s, a :: as => Along step (R s a) (step a s) as ∧ PairsAlong step R (step a s) as

section Logged

variable {step : α → σ → σ} {emit : σ → α → List β}

theorem logged_eq_nil_iff {s : σ} {as : List α} :
    logged step emit s as = [] ↔ Along step (fun s a => emit s a = []) s as := by
  induction as generalizing s with
  | nil => exact iff_of_true rfl trivial
  | cons a as ih =>
      show emit s a ++ logged step emit (step a s) as = [] ↔ _
      rw [List.append_eq_nil_iff, ih, along_cons]

/-- **At most one entry**: no two steps emit. -/
theorem logged_length_le_one_iff (hone : ∀ s a, (emit s a).length ≤ 1) {s : σ} {as : List α} :
    (logged step emit s as).length ≤ 1 ↔
      PairsAlong step (fun s a s' b => emit s a = [] ∨ emit s' b = []) s as := by
  induction as generalizing s with
  | nil => exact iff_of_true (Nat.zero_le 1) trivial
  | cons a as ih =>
      show (emit s a ++ logged step emit (step a s) as).length ≤ 1 ↔
        Along step (fun s' b => emit s a = [] ∨ emit s' b = []) (step a s) as ∧ _
      rw [List.length_append, ← ih]
      cases he : emit s a with
      | nil =>
          -- nothing emitted: the rest of the run decides
          have hfree : Along step (fun s' b => ([] : List β) = [] ∨ emit s' b = []) (step a s) as :=
            along_of_invariant (motive := fun _ => True) (fun _ => True) (fun _ _ _ _ => trivial)
              (fun _ _ _ _ => Or.inl rfl) trivial (fun _ _ => trivial)
          rw [List.length_nil, Nat.zero_add]
          exact ⟨fun h => ⟨hfree, h⟩, fun h => h.2⟩
      | cons x xs =>
          -- one entry emitted: the rest of the run must emit none
          have hlen : xs.length = 0 := by
            have := hone s a
            rw [he, List.length_cons] at this
            omega
          have hrest : Along step (fun s' b => x :: xs = [] ∨ emit s' b = []) (step a s) as ↔
              logged step emit (step a s) as = [] := by
            rw [logged_eq_nil_iff]
            simp only [reduceCtorEq, false_or]
          rw [hrest, List.length_cons, hlen, ← List.length_eq_zero_iff]
          constructor
          · intro h; omega
          · intro h; omega

end Logged

/-- **Replacing the relation.** `later s a` is what the step `a` from `s` makes true of every
later state; two relations that agree wherever it holds hold along the same runs. -/
theorem pairsAlong_congr {step : α → σ → σ} {motive : σ → Prop} (later : σ → α → σ → Prop)
    {R Q : σ → α → σ → α → Prop} (hstep : ∀ s a, motive s → motive (step a s))
    (hnow : ∀ s a, motive s → later s a (step a s))
    (hlater : ∀ s a s' b, motive s' → later s a s' → later s a (step b s'))
    (hRQ : ∀ s a s' b, motive s' → later s a s' → (R s a s' b ↔ Q s a s' b))
    {s : σ} (hs : motive s) {as : List α} :
    PairsAlong step R s as ↔ PairsAlong step Q s as := by
  induction as generalizing s with
  | nil => exact Iff.rfl
  | cons a as ih =>
      show Along step (R s a) (step a s) as ∧ PairsAlong step R (step a s) as ↔
        Along step (Q s a) (step a s) as ∧ PairsAlong step Q (step a s) as
      rw [ih (hstep s a hs)]
      have hhead : Along step (R s a) (step a s) as ↔ Along step (Q s a) (step a s) as :=
        along_congr (motive := fun s' => motive s' ∧ later s a s')
          (fun s' b h => ⟨hstep s' b h.1, hlater s a s' b h.1 h.2⟩)
          (fun s' b h => hRQ s a s' b h.1 h.2) ⟨hstep s a hs, hnow s a hs⟩
      rw [hhead]

end CartoonDemo
