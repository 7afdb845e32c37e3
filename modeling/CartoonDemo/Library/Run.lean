import Mathlib.Data.List.Basic
import Mathlib.Data.Set.Finite.Lemmas
import Mathlib.Order.Interval.Finset.Nat

/-!
# CartoonDemo.Library.Run

**Runs of a labelled machine.** A machine is a total function `step : α → σ → σ`; an
action that is not enabled leaves the state alone, so every list of actions is a run and
"for every run" is a plain quantifier over lists.

Two kinds of statement are made about runs: that a state predicate holds at the end of
every run (`run_induction`), and that a predicate on state and action holds at every step
of a run (`Along`). Both are derived here once from what a single step preserves. A log that
only grows and stays bounded becomes constant (`exists_stable_of_prefix`).
-/

namespace CartoonDemo

universe u v

variable {σ : Type u} {α : Type v}

/-- The state after executing a list of actions. -/
def run (step : α → σ → σ) : σ → List α → σ
  | s, [] => s
  | s, a :: as => run step (step a s) as

@[simp] theorem run_nil (step : α → σ → σ) (s : σ) : run step s [] = s := rfl

@[simp] theorem run_cons (step : α → σ → σ) (s : σ) (a : α) (as : List α) :
    run step s (a :: as) = run step (step a s) as := rfl

theorem run_append (step : α → σ → σ) (s : σ) (as bs : List α) :
    run step s (as ++ bs) = run step (run step s as) bs := by
  induction as generalizing s with
  | nil => rfl
  | cons a as ih => exact ih (step a s)

/-- **Invariant rule.** What every allowed step preserves holds at the end of every run of
allowed actions. -/
theorem run_induction {step : α → σ → σ} (ok : α → Prop) {motive : σ → Prop}
    (hstep : ∀ s a, ok a → motive s → motive (step a s)) {s : σ} (hs : motive s) :
    ∀ {as : List α}, (∀ a ∈ as, ok a) → motive (run step s as) := by
  intro as
  induction as generalizing s with
  | nil => intro _; exact hs
  | cons a as ih =>
      intro hok
      rw [run_cons]
      exact ih (hstep s a (hok a (by simp)) hs) (fun b hb => hok b (by simp [hb]))

/-- `P` holds at every step of the run, of the state before the step and the action. -/
def Along (step : α → σ → σ) (P : σ → α → Prop) : σ → List α → Prop
  | _, [] => True
  | s, a :: as => P s a ∧ Along step P (step a s) as

@[simp] theorem along_nil (step : α → σ → σ) (P : σ → α → Prop) (s : σ) :
    Along step P s [] := trivial

@[simp] theorem along_cons (step : α → σ → σ) (P : σ → α → Prop) (s : σ) (a : α)
    (as : List α) : Along step P s (a :: as) ↔ P s a ∧ Along step P (step a s) as := Iff.rfl

instance decidableAlong (step : α → σ → σ) (P : σ → α → Prop) [∀ s a, Decidable (P s a)] :
    ∀ s as, Decidable (Along step P s as)
  | _, [] => isTrue trivial
  | s, a :: as =>
      have : Decidable (Along step P (step a s) as) := decidableAlong step P (step a s) as
      inferInstanceAs (Decidable (P s a ∧ Along step P (step a s) as))

theorem along_append {step : α → σ → σ} {P : σ → α → Prop} {s : σ} {as bs : List α} :
    Along step P s (as ++ bs) ↔ Along step P s as ∧ Along step P (run step s as) bs := by
  induction as generalizing s with
  | nil => exact (true_and _).symm ▸ Iff.rfl
  | cons a as ih => rw [List.cons_append, along_cons, along_cons, ih, run_cons, and_assoc]

/-- `Along` read at one position of the run. -/
theorem along_iff_forall_split {step : α → σ → σ} {P : σ → α → Prop} {s : σ} {as : List α} :
    Along step P s as ↔ ∀ pre a post, as = pre ++ a :: post → P (run step s pre) a := by
  induction as generalizing s with
  | nil => simp
  | cons b as ih =>
      rw [along_cons, ih]
      constructor
      · rintro ⟨hb, hrest⟩ pre a post heq
        cases pre with
        | nil =>
            obtain ⟨rfl, rfl⟩ : b = a ∧ as = post := by simpa using heq
            exact hb
        | cons c pre =>
            obtain ⟨rfl, rfl⟩ : b = c ∧ as = pre ++ a :: post := by simpa using heq
            exact hrest pre a post rfl
      · intro h
        refine ⟨h [] b as rfl, fun pre a post heq => ?_⟩
        exact h (b :: pre) a post (by rw [heq]; rfl)

/-- A step predicate that follows from an invariant holds along every run. -/
theorem along_of_invariant {step : α → σ → σ} (ok : α → Prop) {motive : σ → Prop}
    {P : σ → α → Prop} (hstep : ∀ s a, ok a → motive s → motive (step a s))
    (hP : ∀ s a, ok a → motive s → P s a) {s : σ} (hs : motive s) :
    ∀ {as : List α}, (∀ a ∈ as, ok a) → Along step P s as := by
  intro as
  induction as generalizing s with
  | nil => intro _; trivial
  | cons a as ih =>
      intro hok
      have ha : ok a := hok a (by simp)
      exact ⟨hP s a ha hs, ih (hstep s a ha hs) (fun b hb => hok b (by simp [hb]))⟩

/-- Two step predicates that agree wherever the invariant holds hold along the same runs. -/
theorem along_congr {step : α → σ → σ} {motive : σ → Prop} {P Q : σ → α → Prop}
    (hstep : ∀ s a, motive s → motive (step a s))
    (hPQ : ∀ s a, motive s → (P s a ↔ Q s a)) {s : σ} (hs : motive s) {as : List α} :
    Along step P s as ↔ Along step Q s as := by
  induction as generalizing s with
  | nil => exact Iff.rfl
  | cons a as ih => rw [along_cons, along_cons, hPQ s a hs, ih (hstep s a hs)]

/-- **Invariant rule** for steps whose condition depends on the state. -/
theorem run_along {step : α → σ → σ} {motive : σ → Prop} {C : σ → α → Prop}
    (hstep : ∀ s a, motive s → C s a → motive (step a s)) {s : σ} (hs : motive s) {as : List α}
    (h : Along step C s as) : motive (run step s as) := by
  induction as generalizing s with
  | nil => exact hs
  | cons a as ih => exact ih (hstep s a hs h.1) h.2

/-- A step predicate that follows from another wherever the invariant holds, for the actions of
the run; the invariant itself is kept only by the steps at which that other predicate holds. -/
theorem along_imp_of {step : α → σ → σ} {motive : σ → Prop} {C P : σ → α → Prop} {as : List α}
    (hstep : ∀ s, ∀ a ∈ as, motive s → C s a → motive (step a s))
    (hCP : ∀ s, ∀ a ∈ as, motive s → C s a → P s a) {s : σ} (hs : motive s)
    (h : Along step C s as) : Along step P s as := by
  induction as generalizing s with
  | nil => trivial
  | cons a as ih =>
      refine ⟨hCP s a (by simp) hs h.1, ?_⟩
      refine ih (fun s b hb => hstep s b (by simp [hb])) (fun s b hb => hCP s b (by simp [hb])) ?_ h.2
      exact hstep s a (by simp) hs h.1

/-- The same, when the rules do not depend on which actions the run has. -/
theorem along_imp {step : α → σ → σ} {motive : σ → Prop} {C P : σ → α → Prop}
    (hstep : ∀ s a, motive s → C s a → motive (step a s))
    (hCP : ∀ s a, motive s → C s a → P s a) {s : σ} (hs : motive s) {as : List α}
    (h : Along step C s as) : Along step P s as :=
  along_imp_of (fun s a _ => hstep s a) (fun s a _ => hCP s a) hs h

/-- A state predicate that a step keeps exactly if `C` holds of it, and that is not regained: it
holds at the end of a run exactly if it held at the start and `C` at every step. -/
theorem run_iff_along {step : α → σ → σ} {motive : σ → Prop} {Q : σ → Prop} {C : σ → α → Prop}
    (hstep : ∀ s a, motive s → motive (step a s))
    (hQ : ∀ s a, motive s → (Q (step a s) ↔ Q s ∧ C s a)) {s : σ} (hs : motive s) {as : List α} :
    Q (run step s as) ↔ Q s ∧ Along step C s as := by
  induction as generalizing s with
  | nil => exact ⟨fun h => ⟨h, trivial⟩, fun h => h.1⟩
  | cons a as ih => rw [run_cons, ih (hstep s a hs), hQ s a hs, along_cons, and_assoc]

/-! ### Growing lists -/

/-- A sequence of growing lists of bounded length becomes constant. -/
theorem exists_stable_of_prefix {f : Nat → List α} (hmono : ∀ m n, m ≤ n → f m <+: f n)
    {bound : Nat} (hbound : ∀ n, (f n).length ≤ bound) : ∃ n, ∀ m, n ≤ m → f m = f n := by
  have hfinite : (Set.range fun n => (f n).length).Finite :=
    (Set.finite_Iic bound).subset (by
      intro k hk
      obtain ⟨n, rfl⟩ := hk
      exact hbound n)
  -- the longest list of the sequence is its last one
  obtain ⟨k, ⟨n, rfl⟩, hmax⟩ :=
    Set.exists_max_image _ id hfinite ⟨_, Set.mem_range_self 0⟩
  refine ⟨n, fun m hm => ?_⟩
  exact ((hmono n m hm).eq_of_length_le (hmax _ ⟨m, rfl⟩)).symm

end CartoonDemo
