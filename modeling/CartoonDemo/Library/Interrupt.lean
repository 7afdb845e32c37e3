import Mathlib.Data.List.Basic

/-!
# CartoonDemo.Library.Interrupt

**Calls that are interrupted.** A call in `EStateM ε σ` that raises keeps the state it had
reached, so what it wrote before the exception is visible. Between its writes a call passes
*points*, and an oracle says which exception, if any, is raised at each of them. `rollback` is
a call that undoes its writes when it raises.

`writeAll` is a sequence of writes with a point after each. It raises exactly when the
oracle has an exception for one of its points (`writeAll_ok`, `writeAll_error`), and
whatever each single write preserves holds where it stops (`writeAll_keeps`).
-/

namespace CartoonDemo

variable {ε σ ι α β : Type}

/-- The state in which a call ends, raised or returned. -/
def finalState : EStateM.Result ε σ α → σ
  | .ok _ s => s
  | .error _ s => s

/-- A point of a call, where the oracle may raise. -/
def point (faults : ι → Option ε) (p : ι) : EStateM ε σ Unit :=
  match faults p with
  | none => pure ()
  | some e => throw e

/-- An operation that writes everything or raises. -/
def perform (op : σ → Except ε (α × σ)) : EStateM ε σ α := fun s =>
  match op s with
  | .ok (a, s') => .ok a s'
  | .error e => .error e s

/-- A computation that does not touch the state. -/
def check (x : Except ε α) : EStateM ε σ α := fun s =>
  match x with
  | .ok a => .ok a s
  | .error e => .error e s

/-- A call whose writes are undone when it raises: `keep s s'` is what is left of the state `s'`
it had reached, when it started from `s`. -/
def rollback (keep : σ → σ → σ) (x : EStateM ε σ α) : EStateM ε σ α := fun s =>
  match x s with
  | .ok a s' => .ok a s'
  | .error e s' => .error e (keep s s')

/-! ### Sequences -/

theorem estate_bind_ok {x : EStateM ε σ α} {f : α → EStateM ε σ β} {s s' : σ} {a : α}
    (h : x s = .ok a s') : (x >>= f) s = f a s' := by
  simp only [bind, EStateM.bind, h]

theorem estate_bind_error {x : EStateM ε σ α} {f : α → EStateM ε σ β} {s s' : σ} {e : ε}
    (h : x s = .error e s') : (x >>= f) s = .error e s' := by
  simp only [bind, EStateM.bind, h]

@[simp] theorem point_none {faults : ι → Option ε} {p : ι} (h : faults p = none) (s : σ) :
    point faults p s = .ok () s := by
  unfold point
  rw [h]
  rfl

@[simp] theorem point_some {faults : ι → Option ε} {p : ι} {e : ε} (h : faults p = some e)
    (s : σ) : point faults p s = .error e s := by
  unfold point
  rw [h]
  rfl

@[simp] theorem check_ok (a : α) (s : σ) : (check (.ok a) : EStateM ε σ α) s = .ok a s := rfl

@[simp] theorem check_error (e : ε) (s : σ) :
    (check (.error e) : EStateM ε σ α) s = .error e s := rfl

theorem perform_ok {op : σ → Except ε (α × σ)} {s s' : σ} {a : α} (h : op s = .ok (a, s')) :
    perform op s = .ok a s' := by
  simp only [perform, h]

theorem perform_error {op : σ → Except ε (α × σ)} {s : σ} {e : ε} (h : op s = .error e) :
    perform op s = .error e s := by
  simp only [perform, h]

theorem rollback_ok {keep : σ → σ → σ} {x : EStateM ε σ α} {s s' : σ} {a : α}
    (h : x s = .ok a s') : rollback keep x s = .ok a s' := by
  simp only [rollback, h]

theorem rollback_error {keep : σ → σ → σ} {x : EStateM ε σ α} {s s' : σ} {e : ε}
    (h : x s = .error e s') : rollback keep x s = .error e (keep s s') := by
  simp only [rollback, h]

/-! ### Sequences of writes

A sequence that is interrupted has made the writes before the fault.
-/

/-- Perform the writes in order, passing a point after each. -/
def writeAll (faults : ι → Option ε) : List (ι × (σ → σ)) → EStateM ε σ Unit
  | [] => pure ()
  | (p, w) :: rest => do
      modify w
      point faults p
      writeAll faults rest

/-- The state after all the writes. -/
def afterWrites (writes : List (ι × (σ → σ))) (s : σ) : σ := writes.foldl (fun s w => w.2 s) s

section WriteAll

variable {faults : ι → Option ε}

theorem writeAll_cons_none {p : ι} (w : σ → σ) (rest : List (ι × (σ → σ)))
    (h : faults p = none) (s : σ) :
    writeAll faults ((p, w) :: rest) s = writeAll faults rest (w s) := by
  have hmodify : (modify w : EStateM ε σ PUnit) s = .ok () (w s) := rfl
  show (modify w >>= fun _ => point faults p >>= fun _ => writeAll faults rest) s = _
  rw [estate_bind_ok hmodify, estate_bind_ok (point_none h (w s))]

theorem writeAll_cons_some {p : ι} {e : ε} (w : σ → σ) (rest : List (ι × (σ → σ)))
    (h : faults p = some e) (s : σ) :
    writeAll faults ((p, w) :: rest) s = .error e (w s) := by
  have hmodify : (modify w : EStateM ε σ PUnit) s = .ok () (w s) := rfl
  show (modify w >>= fun _ => point faults p >>= fun _ => writeAll faults rest) s = _
  rw [estate_bind_ok hmodify, estate_bind_error (point_some h (w s))]

/-- Without an exception at its points the sequence is completed. -/
theorem writeAll_ok {writes : List (ι × (σ → σ))}
    (h : ∀ p ∈ writes.map Prod.fst, faults p = none) (s : σ) :
    writeAll faults writes s = .ok () (afterWrites writes s) := by
  induction writes generalizing s with
  | nil => rfl
  | cons pw rest ih =>
      obtain ⟨p, w⟩ := pw
      rw [writeAll_cons_none w rest (h p (by simp)) s]
      exact ih (fun q hq => h q (by simp [hq])) (w s)

/-- An exception at one of its points ends the sequence with an exception. -/
theorem writeAll_error {writes : List (ι × (σ → σ))} {p : ι}
    (hp : p ∈ writes.map Prod.fst) (h : faults p ≠ none) (s : σ) :
    ∃ e s', writeAll faults writes s = .error e s' := by
  induction writes generalizing s with
  | nil => exact absurd hp (by simp)
  | cons qw rest ih =>
      obtain ⟨q, w⟩ := qw
      cases hq : faults q with
      | some e => exact ⟨e, w s, writeAll_cons_some w rest hq s⟩
      | none =>
          rw [writeAll_cons_none w rest hq s]
          have hrest : p ∈ rest.map Prod.fst := by
            rcases List.mem_cons.mp hp with rfl | hp'
            · exact absurd hq h
            · exact hp'
          exact ih hrest (w s)

/-- What every write preserves holds in the state in which the sequence stops. -/
theorem writeAll_keeps {P : σ → Prop} {writes : List (ι × (σ → σ))}
    (hw : ∀ w ∈ writes, ∀ s, P s → P (w.2 s)) {s : σ} (hs : P s) :
    P (finalState (writeAll faults writes s)) := by
  induction writes generalizing s with
  | nil => exact hs
  | cons pw rest ih =>
      obtain ⟨p, w⟩ := pw
      have hstep : P (w s) := hw (p, w) (by simp) s hs
      cases hp : faults p with
      | some e => rw [writeAll_cons_some w rest hp s]; exact hstep
      | none =>
          rw [writeAll_cons_none w rest hp s]
          exact ih (fun v hv => hw v (by simp [hv])) hstep

end WriteAll

end CartoonDemo
