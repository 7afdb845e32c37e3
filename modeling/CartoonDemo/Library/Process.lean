import Mathlib.Data.List.Basic

/-!
# CartoonDemo.Library.Process

**Processes that make calls.** A `Proc` is a program cut at its calls to the outside: it
returns, raises, or makes a call and goes on with the answer, which is a value or an exception.
What a call does is not part of the process, so one program is run in two ways.

* `exec` runs it alone: every call is answered at once. It also returns the calls that were made.
  A part of a program whose calls have no effect leaves the world alone (`CallsOnly.exec`).
* A `Pool` holds many processes over one shared world. Between a call and the next one of the
  same process any of the others may proceed, and a process may stop for good at any call.

`Safe` is the judgment for the second way: every call of the process is made in a world that
meets its guard, whatever the others have done to the world in between (`rely`).
-/

namespace CartoonDemo

inductive Proc (C : Type) (A : C → Type) (ε α : Type) : Type
  | ret (a : α)
  | raise (e : ε)
  /-- A call, and how the process goes on with its answer. -/
  | call (c : C) (k : Except ε (A c) → Proc C A ε α)

namespace Proc

variable {C : Type} {A : C → Type} {ε α β : Type}

/-! ### Sequences -/

/-- `p`, and `f` with what it returns. -/
def bind : Proc C A ε α → (α → Proc C A ε β) → Proc C A ε β
  | .ret a, f => f a
  | .raise e, _ => .raise e
  | .call c k, f => .call c fun r => (k r).bind f

instance : Monad (Proc C A ε) where
  pure := .ret
  bind := .bind

/-- One call whose exceptions are raised. -/
def request (c : C) : Proc C A ε (A c) :=
  .call c fun
    | .ok a => .ret a
    | .error e => .raise e

/-- `p`, with what it raises as a result. -/
def attempt : Proc C A ε α → Proc C A ε (Except ε α)
  | .ret a => .ret (.ok a)
  | .raise e => .ret (.error e)
  | .call c k => .call c fun r => (k r).attempt

@[simp] theorem pure_eq (a : α) : (pure a : Proc C A ε α) = .ret a := rfl

@[simp] theorem bind_eq (p : Proc C A ε α) (f : α → Proc C A ε β) : p >>= f = p.bind f := rfl

/-! ### Runs of one process

A process is run against an `answer` to each of its calls.
-/

/-- How a process that runs alone ends, and the calls it has made. -/
structure Outcome (C ε α W : Type) where
  result : Except ε α
  world : W
  calls : List C

/-- The outcome with earlier calls before its own. -/
def Outcome.after {W : Type} (calls : List C) (o : Outcome C ε α W) : Outcome C ε α W :=
  { o with calls := calls ++ o.calls }

section Exec

variable {W : Type} {answer : (c : C) → W → Except ε (A c) × W}

/-- Run a process alone. -/
def exec (answer : (c : C) → W → Except ε (A c) × W) : Proc C A ε α → W → Outcome C ε α W
  | .ret a, w => { result := .ok a, world := w, calls := [] }
  | .raise e, w => { result := .error e, world := w, calls := [] }
  | .call c k, w => ((k (answer c w).1).exec answer (answer c w).2).after [c]

@[simp] theorem exec_ret (a : α) (w : W) :
    (.ret a : Proc C A ε α).exec answer w = { result := .ok a, world := w, calls := [] } := rfl

@[simp] theorem exec_raise (e : ε) (w : W) :
    (.raise e : Proc C A ε α).exec answer w =
      { result := .error e, world := w, calls := [] } := rfl

theorem exec_call (c : C) (k : Except ε (A c) → Proc C A ε α) (w : W) :
    (Proc.call c k).exec answer w = ((k (answer c w).1).exec answer (answer c w).2).after [c] :=
  rfl

@[simp] theorem Outcome.after_after (cs ds : List C) (o : Outcome C ε α W) :
    (o.after ds).after cs = o.after (cs ++ ds) := by
  simp [Outcome.after]

@[simp] theorem Outcome.after_result (cs : List C) (o : Outcome C ε α W) :
    (o.after cs).result = o.result := rfl

@[simp] theorem Outcome.after_world (cs : List C) (o : Outcome C ε α W) :
    (o.after cs).world = o.world := rfl

@[simp] theorem Outcome.after_calls (cs : List C) (o : Outcome C ε α W) :
    (o.after cs).calls = cs ++ o.calls := rfl

theorem exec_bind (p : Proc C A ε α) (f : α → Proc C A ε β) (w : W) :
    (p.bind f).exec answer w =
      match (p.exec answer w).result with
      | .ok a => ((f a).exec answer (p.exec answer w).world).after (p.exec answer w).calls
      | .error e =>
          { result := .error e, world := (p.exec answer w).world,
            calls := (p.exec answer w).calls } := by
  induction p generalizing w with
  | ret a => rfl
  | raise e => rfl
  | call c k ih =>
      have hbind : (Proc.call c k).bind f = .call c fun r => (k r).bind f := rfl
      rw [hbind, exec_call, ih, exec_call]
      simp only [Outcome.after_result, Outcome.after_world, Outcome.after_calls]
      cases ((k (answer c w).1).exec answer (answer c w).2).result with
      | ok a => rw [Outcome.after_after]
      | error e => rfl

theorem exec_bind_ok {p : Proc C A ε α} {f : α → Proc C A ε β} {w : W} {a : α}
    (h : (p.exec answer w).result = .ok a) :
    (p.bind f).exec answer w =
      ((f a).exec answer (p.exec answer w).world).after (p.exec answer w).calls := by
  rw [exec_bind, h]

theorem exec_bind_error {p : Proc C A ε α} {f : α → Proc C A ε β} {w : W} {e : ε}
    (h : (p.exec answer w).result = .error e) :
    (p.bind f).exec answer w =
      { result := .error e, world := (p.exec answer w).world, calls := (p.exec answer w).calls } := by
  rw [exec_bind, h]

theorem exec_attempt (p : Proc C A ε α) (w : W) :
    p.attempt.exec answer w =
      { result := .ok (p.exec answer w).result, world := (p.exec answer w).world,
        calls := (p.exec answer w).calls } := by
  induction p generalizing w with
  | ret a => rfl
  | raise e => rfl
  | call c k ih =>
      have hattempt : (Proc.call c k).attempt = .call c fun r => (k r).attempt := rfl
      rw [hattempt, exec_call, ih]
      rfl

end Exec

/-- Every call that the process may make satisfies `P`. -/
def CallsOnly (P : C → Prop) : Proc C A ε α → Prop
  | .ret _ => True
  | .raise _ => True
  | .call c k => P c ∧ ∀ r, (k r).CallsOnly P

section CallsOnly

variable {P : C → Prop}

theorem callsOnly_request {c : C} (h : P c) :
    (request c : Proc C A ε (A c)).CallsOnly P := by
  refine ⟨h, fun r => ?_⟩
  cases r with
  | ok a => trivial
  | error e => trivial

theorem CallsOnly.bind {p : Proc C A ε α} {f : α → Proc C A ε β} (h : p.CallsOnly P)
    (hf : ∀ a, (f a).CallsOnly P) : (p.bind f).CallsOnly P := by
  induction p with
  | ret a => exact hf a
  | raise e => trivial
  | call c k ih => exact ⟨h.1, fun r => ih r (h.2 r)⟩

theorem CallsOnly.attempt {p : Proc C A ε α} (h : p.CallsOnly P) : p.attempt.CallsOnly P := by
  induction p with
  | ret a => trivial
  | raise e => trivial
  | call c k ih => exact ⟨h.1, fun r => ih r (h.2 r)⟩

/-- A process that makes no call with an effect has none. -/
theorem CallsOnly.exec {W : Type} {answer : (c : C) → W → Except ε (A c) × W}
    {p : Proc C A ε α} (h : p.CallsOnly P) (hanswer : ∀ c, P c → ∀ w, (answer c w).2 = w) (w : W) :
    (p.exec answer w).world = w ∧ ∀ c ∈ (p.exec answer w).calls, P c := by
  induction p with
  | ret a => exact ⟨rfl, by simp⟩
  | raise e => exact ⟨rfl, by simp⟩
  | call c k ih =>
      obtain ⟨hworld, hcalls⟩ := ih (answer c w).1 (h.2 _)
      rw [exec_call, hanswer c h.1 w]
      refine ⟨hworld, fun d hd => ?_⟩
      rcases List.mem_cons.mp hd with rfl | hd
      · exact h.1
      · exact hcalls d hd

end CallsOnly

/-! ### Processes among others

A process is safe if each of its calls is allowed where it is made, whatever the others do in
between.
-/

section Safe

variable {W R : Type} {answer : (c : C) → R → W → Except ε (A c) × W} {rely : W → W → Prop}
  {guard : C → W → Prop}

/-- Every call is made in a world that meets its guard, and the process ends in `post`. The
others change the world, as `rely` allows, before the call is answered. -/
def Safe (answer : (c : C) → R → W → Except ε (A c) × W) (rely : W → W → Prop)
    (guard : C → W → Prop) (post : Except ε α → W → Prop) : Proc C A ε α → W → Prop
  | .ret a, w => post (.ok a) w
  | .raise e, w => post (.error e) w
  | .call c k, w =>
      guard c w ∧ ∀ w', rely w w' → ∀ r,
        Safe answer rely guard post (k (answer c r w').1) (answer c r w').2

theorem Safe.bind {post : Except ε β → W → Prop} (mid : Except ε α → W → Prop)
    {p : Proc C A ε α} {f : α → Proc C A ε β} {w : W} (h : p.Safe answer rely guard mid w)
    (hok : ∀ a w', mid (.ok a) w' → (f a).Safe answer rely guard post w')
    (herr : ∀ e w', mid (.error e) w' → post (.error e) w') :
    (p.bind f).Safe answer rely guard post w := by
  induction p generalizing w with
  | ret a => exact hok a w h
  | raise e => exact herr e w h
  | call c k ih => exact ⟨h.1, fun w' hw' r => ih _ (h.2 w' hw' r)⟩

theorem Safe.attempt {post : Except ε α → W → Prop} {p : Proc C A ε α} {w : W}
    (h : p.Safe answer rely guard post w) :
    p.attempt.Safe answer rely guard
      (fun r w' => ∀ a, r = .ok a → post a w') w := by
  induction p generalizing w with
  | ret a =>
      intro r hr
      obtain rfl := Except.ok.inj hr
      exact h
  | raise e =>
      intro r hr
      obtain rfl := Except.ok.inj hr
      exact h
  | call c k ih => exact ⟨h.1, fun w' hw' r => ih _ (h.2 w' hw' r)⟩

/-- **Frame rule**: what the process and the others keep still holds at the end. -/
theorem Safe.frame {post : Except ε α → W → Prop} {inv : W → Prop}
    (hinv : ∀ a b, rely a b → inv a → inv b) (heffect : ∀ c r w, rely w (answer c r w).2)
    {p : Proc C A ε α} {w : W} (h : p.Safe answer rely guard post w) (hw : inv w) :
    p.Safe answer rely guard (fun r w' => post r w' ∧ inv w') w := by
  induction p generalizing w with
  | ret a => exact ⟨h, hw⟩
  | raise e => exact ⟨h, hw⟩
  | call c k ih =>
      refine ⟨h.1, fun w' hw' r => ih _ (h.2 w' hw' r) ?_⟩
      exact hinv _ _ (heffect c r w') (hinv _ _ hw' hw)

/-- A safe process stays safe while the others proceed. -/
theorem Safe.stable {post : Except ε α → W → Prop} {p : Proc C A ε α} {w w' : W}
    (htrans : ∀ a b c, rely a b → rely b c → rely a c)
    (hguard : ∀ c a b, rely a b → guard c a → guard c b)
    (hpost : ∀ r a b, rely a b → post r a → post r b) (hrely : rely w w')
    (h : p.Safe answer rely guard post w) : p.Safe answer rely guard post w' := by
  cases p with
  | ret a => exact hpost _ w w' hrely h
  | raise e => exact hpost _ w w' hrely h
  | call c k =>
      refine ⟨hguard c w w' hrely h.1, fun w'' hw'' r => ?_⟩
      exact h.2 w'' (htrans w w' w'' hrely hw'') r

end Safe

end Proc

/-! ### Pools -/

/-- Processes over a shared world. -/
structure Pool (C : Type) (A : C → Type) (ε α W : Type) where
  world : W
  procs : List (Proc C A ε α) := []

namespace Pool

variable {C : Type} {A : C → Type} {ε α W R : Type}
  {answer : (c : C) → R → W → Except ε (A c) × W} {rely : W → W → Prop} {guard : C → W → Prop}

/-- Process `i` makes its next call, which is answered with `r`. -/
def proceed (answer : (c : C) → R → W → Except ε (A c) × W) (i : Nat) (r : R)
    (s : Pool C A ε α W) : Pool C A ε α W :=
  match s.procs[i]? with
  | some (.call c k) =>
      { world := (answer c r s.world).2, procs := s.procs.set i (k (answer c r s.world).1) }
  | _ => s

/-- The process stops for good. -/
def crash (i : Nat) (s : Pool C A ε α W) : Pool C A ε α W :=
  { s with procs := s.procs.eraseIdx i }

/-- Every process is safe where it stands. -/
def AllSafe (answer : (c : C) → R → W → Except ε (A c) × W) (rely : W → W → Prop)
    (guard : C → W → Prop) (s : Pool C A ε α W) : Prop :=
  ∀ p ∈ s.procs, p.Safe answer rely guard (fun _ _ => True) s.world

theorem AllSafe.crash {s : Pool C A ε α W} (h : s.AllSafe answer rely guard) (i : Nat) :
    (s.crash i).AllSafe answer rely guard :=
  fun p hp => h p (List.mem_of_mem_eraseIdx hp)

/-- The call that process `i` makes next meets its guard. -/
theorem AllSafe.callGuard {s : Pool C A ε α W} (h : s.AllSafe answer rely guard) {i : Nat} {c : C}
    {k : Except ε (A c) → Proc C A ε α} (hi : s.procs[i]? = some (.call c k)) :
    guard c s.world :=
  (h _ (List.mem_of_getElem? hi)).1

section Rely

variable (hrefl : ∀ a, rely a a) (htrans : ∀ a b c, rely a b → rely b c → rely a c)
  (hguard : ∀ c a b, rely a b → guard c a → guard c b)

include htrans hguard in
/-- A change of the world that the processes rely on keeps them safe. -/
theorem AllSafe.change {s : Pool C A ε α W} (h : s.AllSafe answer rely guard) {w' : W}
    (hrely : rely s.world w') : AllSafe answer rely guard { s with world := w' } := by
  intro p hp
  exact (h p hp).stable htrans hguard (fun _ _ _ _ _ => trivial) hrely

include hrefl htrans hguard in
/-- **One step of a process keeps all of them safe**, if what its call does is what the others
rely on. -/
theorem AllSafe.proceed {s : Pool C A ε α W} (h : s.AllSafe answer rely guard)
    (heffect : ∀ c r w, guard c w → rely w (answer c r w).2) (i : Nat) (r : R) :
    (s.proceed answer i r).AllSafe answer rely guard := by
  unfold Pool.proceed
  split
  · next c k hi =>
    have hcall := h _ (List.mem_of_getElem? hi)
    intro p hp
    rcases List.mem_or_eq_of_mem_set hp with hmem | rfl
    · exact (h p hmem).stable htrans hguard (fun _ _ _ _ _ => trivial)
        (heffect c r s.world hcall.1)
    · exact hcall.2 s.world (hrefl _) r
  · exact h

end Rely

end Pool

end CartoonDemo
