import Mathlib.Data.List.Basic

/-!
# CartoonDemo.Library.Gather

**Gathering the results of concurrent tasks** in slots of their own, as the tasks complete. The
first failure that is seen ends the gathering. Where all failures are the same, the outcome does not
depend on the order of completion (`gather_perm`); gathered in any order that completes every
task, the slots hold what each task returns (`gather_complete`).
-/

namespace CartoonDemo

section Gather

variable {ε α : Type} (run : ℕ → Except ε α)

/-- The loop over the tasks in the order in which they complete. -/
def gather : List ℕ → List (Option α) → Except ε (List (Option α))
  | [], slots => .ok slots
  | i :: order, slots =>
      match run i with
      | .error e => .error e
      | .ok a => gather order (slots.set i (some a))

/-- All tasks that fail do so in one way. -/
def FailAlike : Prop := ∀ i j e e', run i = .error e → run j = .error e' → e = e'

variable {run}

/-- What the gathering raises is raised by a task. -/
theorem gather_error {order : List ℕ} {slots : List (Option α)} {e : ε}
    (h : gather run order slots = .error e) : ∃ i ∈ order, run i = .error e := by
  induction order generalizing slots with
  | nil => cases h
  | cons i order ih =>
      rw [gather] at h
      cases hi : run i with
      | error e' =>
          rw [hi] at h
          exact ⟨i, List.mem_cons_self, by rw [hi, Except.error.inj h]⟩
      | ok a =>
          rw [hi] at h
          obtain ⟨j, hj, hraised⟩ := ih h
          exact ⟨j, List.mem_cons_of_mem i hj, hraised⟩

/-- Two completions in either order. -/
theorem gather_swap (hfail : FailAlike run) (i j : ℕ) (order : List ℕ) (slots : List (Option α)) :
    gather run (j :: i :: order) slots = gather run (i :: j :: order) slots := by
  simp only [gather]
  cases hi : run i with
  | error e =>
      cases hj : run j with
      | error e' => rw [hfail i j e e' hi hj]
      | ok b => rfl
  | ok a =>
      cases hj : run j with
      | error e' => rfl
      | ok b =>
          by_cases hij : i = j
          · subst hij
            obtain rfl : a = b := Except.ok.inj (hi.symm.trans hj)
            rfl
          · show gather run order _ = gather run order _
            rw [List.set_comm _ _ fun h => hij h.symm]

/-- **The order of completion makes no difference.** -/
theorem gather_perm (hfail : FailAlike run) {order order' : List ℕ} (h : order.Perm order')
    (slots : List (Option α)) : gather run order slots = gather run order' slots := by
  induction h generalizing slots with
  | nil => rfl
  | cons i _ ih =>
      rw [gather, gather]
      cases run i with
      | error e => rfl
      | ok a => exact ih _
  | swap i j order => exact gather_swap hfail i j order slots
  | trans _ _ ih ih' => rw [ih, ih']

/-- In the order of the tasks, each slot is filled in turn. -/
theorem gather_range {results : ℕ → α} {n k : ℕ} (hrun : ∀ i, n ≤ i → run i = .ok (results i))
    (filled : List (Option α)) (hfilled : filled.length = n) :
    gather run (List.range' n k) (filled ++ List.replicate k none) =
      .ok (filled ++ (List.range' n k).map fun i => some (results i)) := by
  induction k generalizing n filled with
  | zero => rfl
  | succ k ih =>
      rw [List.range'_succ, gather, hrun n (Nat.le_refl n), List.replicate_succ]
      show gather run _ ((filled ++ none :: List.replicate k none).set n (some (results n))) = _
      have hset : (filled ++ none :: List.replicate k none).set n (some (results n)) =
          filled ++ [some (results n)] ++ List.replicate k none := by
        rw [← hfilled, List.set_append_right _ _ (Nat.le_refl _), Nat.sub_self, List.set_cons_zero,
          List.append_assoc]
        rfl
      rw [hset, ih (fun i hi => hrun i (Nat.le_of_succ_le hi)) _ (by simp [hfilled]),
        List.append_assoc, List.map_cons]
      rfl

/-- Where every task returns, every slot holds what its task returned. -/
theorem gather_complete {results : ℕ → α} (hrun : ∀ i, run i = .ok (results i)) {n : ℕ}
    {order : List ℕ} (h : order.Perm (List.range n)) :
    gather run order (List.replicate n none) =
      .ok ((List.range n).map fun i => some (results i)) := by
  have hfail : FailAlike run := fun i j e e' he => by rw [hrun i] at he; cases he
  rw [gather_perm hfail h, List.range_eq_range']
  exact gather_range (fun i _ => hrun i) [] rfl

end Gather

end CartoonDemo
