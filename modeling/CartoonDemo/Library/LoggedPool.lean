import Mathlib.Algebra.BigOperators.Group.Finset.Piecewise
import Mathlib.Algebra.Order.BigOperators.Group.Finset
import CartoonDemo.Library.Process
import CartoonDemo.Library.Run

/-!
# CartoonDemo.Library.LoggedPool

**What each process of a pool has done.** A logged pool writes down every call with its answer, in
the order in which the calls were made. What process `i` has contributed is the part of the log
under its number (`projected`), whatever the others have done in between.

`Always` is the judgment for one program: its assertion holds of every list of answered calls that
the program can have made and of the point it has then reached. Proved of the program alone, it
holds of each process in every run of a pool (`run_always`). What holds of the calls of each process
adds up to the whole log (`countP_le_of_projected`).
-/

namespace CartoonDemo

/-! ### Logs by process

The log of a pool is the logs of its processes, mixed.
-/

section Projected

variable {β : Type}

/-- What process `i` has contributed to a log. -/
def projected (i : Nat) (log : List (Nat × β)) : List β :=
  log.filterMap fun e => if e.1 = i then some e.2 else none

@[simp] theorem projected_nil (i : Nat) : projected i ([] : List (Nat × β)) = [] := rfl

theorem projected_append (i : Nat) (log log' : List (Nat × β)) :
    projected i (log ++ log') = projected i log ++ projected i log' :=
  List.filterMap_append

@[simp] theorem projected_self (i : Nat) (x : β) : projected i [(i, x)] = [x] := by
  simp [projected]

@[simp] theorem projected_other {i j : Nat} (h : j ≠ i) (x : β) : projected i [(j, x)] = [] := by
  simp [projected, h]

theorem projected_eq_nil {i n : Nat} {log : List (Nat × β)} (h : ∀ e ∈ log, e.1 < n) (hi : n ≤ i) :
    projected i log = [] := by
  refine List.filterMap_eq_nil_iff.mpr fun e he => ?_
  have hne : e.1 ≠ i := by have := h e he; omega
  rw [if_neg hne]

/-- What is counted once at most is unique. -/
theorem eq_of_countP_le_one {P : β → Bool} {xs : List β} (h : xs.countP P ≤ 1) {x y : β}
    (hx : x ∈ xs) (hPx : P x = true) (hy : y ∈ xs) (hPy : P y = true) : x = y := by
  rw [List.countP_eq_length_filter] at h
  have hx' := List.mem_filter.mpr ⟨hx, hPx⟩
  have hy' := List.mem_filter.mpr ⟨hy, hPy⟩
  revert h hx' hy'
  cases xs.filter P with
  | nil => simp
  | cons z zs =>
    intro h hx' hy'
    rw [List.length_eq_zero_iff.mp (Nat.le_zero.mp (Nat.le_of_succ_le_succ h))] at hx' hy'
    rw [List.mem_singleton.mp hx', List.mem_singleton.mp hy']

end Projected

/-! ### Assertions about one process -/

namespace Proc

variable {C : Type} {A : C → Type} {ε α β : Type}

/-- A call with its answer. -/
structure Event (C : Type) (A : C → Type) (ε : Type) where
  call : C
  answer : Except ε (A call)

variable {possible : Event C A ε → Prop}

/-- The assertion holds here, after the calls `t`, and after any further calls. -/
def Always (possible : Event C A ε → Prop) (post : List (Event C A ε) → Proc C A ε α → Prop) :
    List (Event C A ε) → Proc C A ε α → Prop
  | t, .ret a => post t (.ret a)
  | t, .raise e => post t (.raise e)
  | t, .call c k => post t (.call c k) ∧
      ∀ r, possible ⟨c, r⟩ → Always possible post (t ++ [⟨c, r⟩]) (k r)

variable {post : List (Event C A ε) → Proc C A ε α → Prop}

theorem Always.here {t : List (Event C A ε)} {p : Proc C A ε α} (h : p.Always possible post t) :
    post t p := by
  cases p with
  | ret a => exact h
  | raise e => exact h
  | call c k => exact h.1

/-- Several assertions hold always if each of them does. -/
theorem always_forall {ι : Type} {post : ι → List (Event C A ε) → Proc C A ε α → Prop}
    {p : Proc C A ε α} {t : List (Event C A ε)} (h : ∀ x, p.Always possible (post x) t) :
    p.Always possible (fun t q => ∀ x, post x t q) t := by
  induction p generalizing t with
  | ret a => exact h
  | raise e => exact h
  | call c k ih => exact ⟨fun x => (h x).1, fun r hr => ih r fun x => (h x).2 r hr⟩

end Proc

/-! ### Pools

An assertion that each process keeps about its own calls holds of its part of the log.
-/

/-- A pool with the programs of its processes and a log of their calls. -/
structure LoggedPool (C : Type) (A : C → Type) (ε α W : Type) extends Pool C A ε α W where
  starts : List (Proc C A ε α) := []
  log : List (Nat × Proc.Event C A ε) := []

inductive PoolStep (C : Type) (A : C → Type) (ε α R E : Type)
  | start (p : Proc C A ε α)
  /-- Process `i` makes its next call. -/
  | proceed (i : Nat) (r : R)
  /-- Something else happens to the world. -/
  | environment (e : E)

namespace LoggedPool

variable {C : Type} {A : C → Type} {ε α W R E : Type}

/-- The calls of process `i`, with their answers. -/
def events (s : LoggedPool C A ε α W) (i : Nat) : List (Proc.Event C A ε) := projected i s.log

def step (answer : (c : C) → R → W → Except ε (A c) × W) (effect : E → W → W)
    (a : PoolStep C A ε α R E) (s : LoggedPool C A ε α W) : LoggedPool C A ε α W :=
  match a with
  | .start p => { s with procs := s.procs ++ [p], starts := s.starts ++ [p] }
  | .environment e => { s with world := effect e s.world }
  | .proceed i r =>
      match s.procs[i]? with
      | some (.call c _) =>
          { s with toPool := s.toPool.proceed answer i r
                   log := s.log ++ [(i, ⟨c, (answer c r s.world).1⟩)] }
      | _ => s

/-- A step of a process is its next call, or nothing. -/
theorem proceed_cases (answer : (c : C) → R → W → Except ε (A c) × W) (effect : E → W → W)
    (s : LoggedPool C A ε α W) (i : Nat) (r : R) :
    (∃ c k, s.procs[i]? = some (.call c k) ∧
      step answer effect (.proceed i r) s =
        { s with world := (answer c r s.world).2
                 procs := s.procs.set i (k (answer c r s.world).1)
                 log := s.log ++ [(i, ⟨c, (answer c r s.world).1⟩)] }) ∨
      step answer effect (.proceed i r) s = s := by
  cases hp : s.procs[i]? with
  | none => exact Or.inr (by simp [step, hp])
  | some p =>
    cases p with
    | ret a => exact Or.inr (by simp [step, hp])
    | raise e => exact Or.inr (by simp [step, hp])
    | call c k => exact Or.inl ⟨c, k, rfl, by simp [step, hp, Pool.proceed]⟩

variable {answer : (c : C) → R → W → Except ε (A c) × W} {effect : E → W → W}
  {possible : Proc.Event C A ε → Prop}
  {post : Proc C A ε α → List (Proc.Event C A ε) → Proc C A ε α → Prop}

/-- Only a new process is a new program. -/
theorem step_starts (a : PoolStep C A ε α R E) (s : LoggedPool C A ε α W) :
    (step answer effect a s).starts =
      s.starts ++ match a with
        | .start p => [p]
        | _ => [] := by
  cases a with
  | start p => rfl
  | environment e => exact (List.append_nil _).symm
  | proceed i r =>
    rw [List.append_nil]
    rcases proceed_cases answer effect s i r with ⟨c, k, -, heq⟩ | heq
    · rw [heq]
    · rw [heq]

/-- Each process is where its program can be after its calls. -/
structure Follows (possible : Proc.Event C A ε → Prop)
    (post : Proc C A ε α → List (Proc.Event C A ε) → Proc C A ε α → Prop)
    (s : LoggedPool C A ε α W) : Prop where
  length : s.procs.length = s.starts.length
  listed : ∀ e ∈ s.log, e.1 < s.starts.length
  always : ∀ (i : Nat) (p q : Proc C A ε α), s.starts[i]? = some p → s.procs[i]? = some q →
    q.Always possible (post p) (s.events i)

theorem Follows.step {s : LoggedPool C A ε α W} (h : s.Follows possible post)
    (hpossible : ∀ c r w, possible ⟨c, (answer c r w).1⟩) {a : PoolStep C A ε α R E}
    (hstart : ∀ p : Proc C A ε α, a = .start p → p.Always possible (post p) []) :
    (step answer effect a s).Follows possible post := by
  obtain ⟨hlength, hlisted, halways⟩ := h
  cases a with
  | start p =>
    have hnew : s.events s.starts.length = [] := projected_eq_nil hlisted le_rfl
    refine ⟨by simp [LoggedPool.step, hlength], fun e he => ?_, fun i p' q hp hq => ?_⟩
    · have := hlisted e he
      simp only [LoggedPool.step, List.length_append, List.length_singleton]
      omega
    · show q.Always possible (post p') (s.events i)
      simp only [LoggedPool.step, List.getElem?_append, hlength] at hp hq
      by_cases hi : i < s.starts.length
      · rw [if_pos hi] at hp hq
        exact halways i p' q hp hq
      · rw [if_neg hi] at hp hq
        have hi' : i - s.starts.length = 0 := by
          by_contra hne
          rw [List.getElem?_eq_none (by simp; omega)] at hp
          cases hp
        rw [hi'] at hp hq
        obtain rfl : p = p' := Option.some.inj hp
        obtain rfl : p = q := Option.some.inj hq
        obtain rfl : i = s.starts.length := by omega
        rw [hnew]
        exact hstart p rfl
  | environment e => exact ⟨hlength, hlisted, halways⟩
  | proceed i r =>
    rcases proceed_cases answer effect s i r with ⟨c, k, hi, heq⟩ | heq
    · rw [heq]
      have hlt : i < s.procs.length := by
        by_contra hle
        rw [List.getElem?_eq_none (by omega)] at hi
        cases hi
      refine ⟨by simp [hlength], fun e he => ?_, fun j p q hp hq => ?_⟩
      · rcases List.mem_append.mp he with he | he
        · exact hlisted e he
        · obtain rfl := List.mem_singleton.mp he
          exact hlength ▸ hlt
      · show q.Always possible (post p) (projected j (s.log ++ [(i, _)]))
        rw [projected_append]
        by_cases hj : i = j
        · subst hj
          rw [List.getElem?_set_self hlt] at hq
          obtain rfl := Option.some.inj hq
          rw [projected_self]
          exact (halways i p _ hp hi).2 _ (hpossible c r s.world)
        · rw [List.getElem?_set_ne hj] at hq
          rw [projected_other hj, List.append_nil]
          exact halways j p q hp hq
    · rw [heq]
      exact ⟨hlength, hlisted, halways⟩

/-- **What always holds of each program holds of its process in every run.** -/
theorem run_follows (hpossible : ∀ c r w, possible ⟨c, (answer c r w).1⟩) (w : W)
    {as : List (PoolStep C A ε α R E)}
    (hstart : ∀ p : Proc C A ε α, .start p ∈ as → p.Always possible (post p) []) :
    (run (step answer effect) { world := w } as).Follows possible post := by
  refine run_induction (motive := Follows possible post)
    (fun a => ∀ p : Proc C A ε α, a = .start p → p.Always possible (post p) [])
    (fun s a ha hs => hs.step hpossible ha) ⟨rfl, by simp, by simp⟩ ?_
  rintro a ha p rfl
  exact hstart p ha

end LoggedPool

end CartoonDemo
