import Mathlib.Logic.Function.Basic
import CartoonDemo.Library.Transaction

/-!
# CartoonDemo.Library.Loops

**Loops that may raise.** A loop over a list (`List.mapM`, `List.forM` in `Except`) ends at the
first element whose step raises. What it can raise is what the steps it reaches can raise
(`raises_mapM_iff`, `raises_forM_iff`), and a loop that returns has passed every element.

A loop over a state keeps what its steps keep (`foldlM_run`). Where the elements alone decide which
steps return, they decide whether the loop does (`foldlM_isOk_iff`).

Where a loop turns the entries of one dictionary into those of another, key by key, a lookup
in the result is a lookup in the source (`lookup_of_mapM_entries`).
-/

namespace CartoonDemo

universe u v w

variable {ε : Type u} {α : Type v} {β γ : Type w}

/-- `p` of every element that a loop reaches which goes on as long as the elements are `ok`. -/
def Reached (ok : α → Bool) (p : α → Prop) : List α → Prop
  | [] => True
  | x :: xs => p x ∧ (ok x → Reached ok p xs)

theorem Reached.of_forall {ok : α → Bool} {p : α → Prop} {xs : List α} (h : ∀ x ∈ xs, p x) :
    Reached ok p xs := by
  induction xs with
  | nil => trivial
  | cons x xs ih =>
      exact ⟨h x (List.mem_cons_self ..), fun _ => ih fun y hy => h y (List.mem_cons_of_mem _ hy)⟩

/-- Only what holds at the elements of the list matters. -/
theorem reached_congr {ok ok' : α → Bool} {p p' : α → Prop} {xs : List α}
    (hok : ∀ x ∈ xs, ok x = ok' x) (hp : ∀ x ∈ xs, p x ↔ p' x) :
    Reached ok p xs ↔ Reached ok' p' xs := by
  induction xs with
  | nil => exact Iff.rfl
  | cons x xs ih =>
      have hxs := ih (fun y hy => hok y (List.mem_cons_of_mem _ hy))
        fun y hy => hp y (List.mem_cons_of_mem _ hy)
      simp only [Reached, hxs, hok x (List.mem_cons_self ..), hp x (List.mem_cons_self ..)]

theorem raises_mapM_iff {P : ε → Prop} {f : α → Except ε β} {xs : List α} :
    Raises P (xs.mapM f) ↔ Reached (fun x => (f x).isOk) (fun x => Raises P (f x)) xs := by
  induction xs with
  | nil => exact iff_of_true (raises_ok P []) trivial
  | cons x xs ih =>
      have hpure : ∀ ys : List β, Raises P (pure ys : Except ε (List β)) := raises_ok P
      simp only [List.mapM_cons, raises_bind_iff, Reached, forall_except_ok_iff, ih, hpure,
        implies_true, and_true]

theorem raises_forM_iff {P : ε → Prop} {f : α → Except ε PUnit.{w + 1}} {xs : List α} :
    Raises P (xs.forM f) ↔ Reached (fun x => (f x).isOk) (fun x => Raises P (f x)) xs := by
  induction xs with
  | nil =>
      have hnil : Raises P (.ok PUnit.unit : Except ε PUnit.{w + 1}) := raises_ok P _
      exact iff_of_true hnil trivial
  | cons x xs ih =>
      show Raises P (f x >>= fun _ => xs.forM f) ↔ _
      simp only [raises_bind_iff, Reached, forall_except_ok_iff, ih]

theorem forM_ok_iff {f : α → Except ε PUnit.{w + 1}} {xs : List α} :
    xs.forM f = .ok ⟨⟩ ↔ ∀ x ∈ xs, f x = .ok ⟨⟩ := by
  induction xs with
  | nil => exact iff_of_true rfl (by simp)
  | cons x xs ih =>
      rw [List.forall_mem_cons, ← ih]
      refine ⟨fun h => ?_, fun h => ?_⟩
      · obtain ⟨u, hx, hxs⟩ := except_bind_ok h
        exact ⟨hx, hxs⟩
      · show (f x >>= fun _ => xs.forM f) = _
        rw [h.1]
        exact h.2

/-- A loop returns if every element is passed. -/
theorem forM_isOk_iff {f : α → Except ε PUnit.{w + 1}} {xs : List α} :
    (xs.forM f).isOk ↔ ∀ x ∈ xs, (f x).isOk := by
  have hunit : ∀ {y : Except ε PUnit.{w + 1}}, y.isOk ↔ y = .ok ⟨⟩ := by
    intro y
    rw [except_isOk_iff]
    exact ⟨fun h => h.choose_spec, fun h => ⟨_, h⟩⟩
  simp only [hunit]
  exact forM_ok_iff

theorem mapM_isOk_iff {f : α → Except ε β} {xs : List α} :
    (xs.mapM f).isOk ↔ ∀ x ∈ xs, (f x).isOk := by
  induction xs with
  | nil => exact iff_of_true rfl (by simp)
  | cons x xs ih =>
      rw [List.forall_mem_cons, ← ih, List.mapM_cons]
      cases f x with
      | error e => exact iff_of_false Bool.false_ne_true fun h => Bool.false_ne_true h.1
      | ok y =>
          cases xs.mapM f with
          | error e => exact iff_of_false Bool.false_ne_true fun h => Bool.false_ne_true h.2
          | ok ys => exact iff_of_true rfl ⟨rfl, rfl⟩

theorem mapM_cons_ok {f : α → Except ε β} {x : α} {xs : List α} {ys : List β}
    (h : (x :: xs).mapM f = .ok ys) :
    ∃ y ys', f x = .ok y ∧ xs.mapM f = .ok ys' ∧ ys = y :: ys' := by
  rw [List.mapM_cons] at h
  obtain ⟨y, hy, h⟩ := except_bind_ok h
  obtain ⟨ys', hys, h⟩ := except_bind_ok h
  exact ⟨y, ys', hy, hys, (Except.ok.inj h).symm⟩

/-- Every result of a loop is that of an element. -/
theorem mem_of_mapM_ok {f : α → Except ε β} {xs : List α} {ys : List β} (h : xs.mapM f = .ok ys)
    {y : β} (hy : y ∈ ys) : ∃ x ∈ xs, f x = .ok y := by
  induction xs generalizing ys with
  | nil =>
      obtain rfl : [] = ys := Except.ok.inj h
      exact absurd hy (by simp)
  | cons x xs ih =>
      obtain ⟨y', ys', hx, hxs, rfl⟩ := mapM_cons_ok h
      rcases List.mem_cons.mp hy with rfl | hy
      · exact ⟨x, List.mem_cons_self, hx⟩
      · obtain ⟨x', hx', hf⟩ := ih hxs hy
        exact ⟨x', List.mem_cons_of_mem x hx', hf⟩

/-! ### Loops over a state -/

section State

variable {σ τ : Type w} {step : σ → α → Except ε σ}

/-- What holds at first and is kept by every step holds after the loop. `P` also depends on the
elements that the loop has passed. -/
theorem foldlM_run {P : List α → σ → Prop}
    (hstep : ∀ passed s x s', P passed s → step s x = .ok s' → P (passed ++ [x]) s')
    {xs passed : List α} {s s' : σ} (hs : P passed s) (h : xs.foldlM step s = .ok s') :
    P (passed ++ xs) s' := by
  induction xs generalizing passed s with
  | nil =>
      obtain rfl : s = s' := Except.ok.inj h
      rwa [List.append_nil]
  | cons x xs ih =>
      rw [List.foldlM_cons] at h
      obtain ⟨next, hnext, h⟩ := except_bind_ok h
      rw [← List.append_cons passed x xs |>.symm]
      exact ih (hstep passed s x next hs hnext) h

/-- Where the element alone decides whether a step returns, the loop returns if every step does. -/
theorem foldlM_isOk_iff {Q : α → Prop} (hstep : ∀ s x, (step s x).isOk ↔ Q x) (s : σ) (xs : List α) :
    (xs.foldlM step s).isOk ↔ ∀ x ∈ xs, Q x := by
  induction xs generalizing s with
  | nil => exact iff_of_true rfl fun x hx => absurd hx List.not_mem_nil
  | cons x xs ih =>
      rw [List.foldlM_cons, List.forall_mem_cons, ← hstep s x]
      cases hx : step s x with
      | error e => exact iff_of_false Bool.false_ne_true fun h => absurd h.1 Bool.false_ne_true
      | ok s' => exact (ih s').trans (and_iff_right rfl).symm

/-- A loop whose steps commute with a map commutes with it. -/
theorem foldlM_map {f : σ → τ} {step' : τ → α → Except ε τ}
    (h : ∀ s x, (step s x).map f = step' (f s) x) (s : σ) (xs : List α) :
    (xs.foldlM step s).map f = xs.foldlM step' (f s) := by
  induction xs generalizing s with
  | nil => rfl
  | cons x xs ih =>
      rw [List.foldlM_cons, List.foldlM_cons, ← h]
      cases step s x with
      | error e => rfl
      | ok s' => exact ih s'

end State

section Lookup

variable [DecidableEq α]

theorem mem_of_lookup {entries : List (α × β)} {k : α} {v : β} (h : entries.lookup k = some v) :
    (k, v) ∈ entries := by
  obtain ⟨before, after, rfl, -⟩ := List.lookup_eq_some_iff.mp h
  simp

/-- A loop over keys that builds a dictionary leaves an entry for each of them. -/
theorem lookup_of_mapM_keys {f : α → Except ε (α × β)} {keys : List α} {entries : List (α × β)}
    (hf : ∀ k y, f k = .ok y → y.1 = k) (h : keys.mapM f = .ok entries) {k : α} (hk : k ∈ keys) :
    ∃ v, entries.lookup k = some v ∧ f k = .ok (k, v) := by
  induction keys generalizing entries with
  | nil => exact absurd hk (by simp)
  | cons x xs ih =>
      obtain ⟨⟨k', v⟩, ys, hx, hxs, rfl⟩ := mapM_cons_ok h
      obtain rfl : k' = x := hf x (k', v) hx
      by_cases hkx : k = k'
      · subst hkx
        exact ⟨v, by simp, hx⟩
      · obtain ⟨v', hv', hfk⟩ := ih hxs ((List.mem_cons.mp hk).resolve_left hkx)
        refine ⟨v', ?_, hfk⟩
        rw [List.lookup_cons, beq_false_of_ne hkx]
        exact hv'

end Lookup

section Entries

variable {κ : Type w} {ι : Type v} [DecidableEq ι] [DecidableEq κ] {name : κ → ι}

/-- A loop over the entries of a dictionary that keeps the keys, up to an injective renaming:
the result has what the source has under the key's name. -/
theorem lookup_of_mapM_entries {f : ι × γ → Except ε (κ × β)} {source : List (ι × γ)}
    {entries : List (κ × β)} (hname : Function.Injective name)
    (hf : ∀ x y, f x = .ok y → x.1 = name y.1) (h : source.mapM f = .ok entries) (k : κ) :
    (source.lookup (name k) = none → entries.lookup k = none) ∧
    ∀ c, source.lookup (name k) = some c →
      ∃ v, entries.lookup k = some v ∧ f (name k, c) = .ok (k, v) := by
  induction source generalizing entries with
  | nil =>
      obtain rfl : [] = entries := Except.ok.inj h
      exact ⟨fun _ => rfl, fun c hc => absurd hc (by simp)⟩
  | cons x xs ih =>
      obtain ⟨⟨k', v⟩, ys, hx, hxs, rfl⟩ := mapM_cons_ok h
      obtain ⟨i, c'⟩ := x
      obtain rfl : i = name k' := hf (i, c') (k', v) hx
      have hrest := ih hxs
      by_cases hk : k = k'
      · subst hk
        simp only [List.lookup_cons_self, Option.some.injEq, reduceCtorEq, false_implies,
          true_and]
        rintro c rfl
        exact ⟨v, rfl, hx⟩
      · have hne : (name k == name k') = false := beq_false_of_ne fun he => hk (hname he)
        rw [List.lookup_cons, hne, List.lookup_cons, beq_false_of_ne hk]
        exact hrest

end Entries

end CartoonDemo
