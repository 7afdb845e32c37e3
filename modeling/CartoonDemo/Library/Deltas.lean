import CartoonDemo.Library.Run
import Mathlib.Algebra.BigOperators.Group.List.Basic

/-!
# CartoonDemo.Library.Deltas

**Showing values through a receiver that only adds.** A sender remembers, for each key, the value
that it has last set, and sends the difference when another one is set. What the receiver has added
up for a key is then the value last set for it, whatever was set for other keys in between
(`total_run`); and a value set for one key sends nothing to another (`sentTo_report_of_ne`).

Values are those of any commutative group: the arithmetic is exact.
-/

namespace CartoonDemo

section Deltas

variable {K V : Type} [DecidableEq K]

/-- The values of the entries under a key, in order. -/
def sentTo (k : K) (entries : List (K × V)) : List V :=
  (entries.filter fun e => e.1 = k).map Prod.snd

@[simp] theorem sentTo_nil (k : K) : sentTo k ([] : List (K × V)) = [] := rfl

theorem sentTo_cons_self (k : K) (v : V) (entries : List (K × V)) :
    sentTo k ((k, v) :: entries) = v :: sentTo k entries := by
  simp [sentTo]

theorem sentTo_cons_of_ne {k k' : K} (h : k' ≠ k) (v : V) (entries : List (K × V)) :
    sentTo k ((k', v) :: entries) = sentTo k entries := by
  simp [sentTo, h]

theorem sentTo_append (k : K) (entries entries' : List (K × V)) :
    sentTo k (entries ++ entries') = sentTo k entries ++ sentTo k entries' := by
  rw [sentTo, List.filter_append, List.map_append]
  rfl

variable [AddCommGroup V]

/-- What a receiver has added up for a key. -/
def total (k : K) (sent : List (K × V)) : V := (sentTo k sent).sum

/-- The value last set for a key; `0` if there is none. -/
def lastSet (k : K) (sets : List (K × V)) : V := (sentTo k sets).getLast?.getD 0

/-- A sender: the values it remembers, and what it has sent. -/
structure Reporter (K V : Type) where
  last : K → V
  sent : List (K × V)

namespace Reporter

/-- Nothing is set. -/
def init : Reporter K V := ⟨fun _ => 0, []⟩

/-- A value is set for a key: the difference is sent. -/
def report (set : K × V) (r : Reporter K V) : Reporter K V where
  last := Function.update r.last set.1 set.2
  sent := r.sent ++ [(set.1, set.2 - r.last set.1)]

/-- What the receiver shows is what the sender remembers. -/
def Telescoped (r : Reporter K V) : Prop := ∀ k, total k r.sent = r.last k

/-- Another key is sent nothing. -/
theorem sentTo_report_of_ne {k : K} {set : K × V} (h : set.1 ≠ k) (r : Reporter K V) :
    sentTo k (report set r).sent = sentTo k r.sent := by
  rw [report, sentTo_append, sentTo_cons_of_ne h, sentTo_nil, List.append_nil]

theorem telescoped_init : Telescoped (init : Reporter K V) := fun _ => rfl

theorem telescoped_report (set : K × V) {r : Reporter K V} (h : Telescoped r) :
    Telescoped (report set r) := by
  intro k
  by_cases hk : set.1 = k
  · subst hk
    show (sentTo set.1 (r.sent ++ [(set.1, set.2 - r.last set.1)])).sum =
      Function.update r.last set.1 set.2 set.1
    have hshown : (sentTo set.1 r.sent).sum = r.last set.1 := h set.1
    rw [sentTo_append, sentTo_cons_self, sentTo_nil, List.sum_append, List.sum_singleton, hshown,
      add_sub_cancel, Function.update_self]
  · show (sentTo k (report set r).sent).sum = Function.update r.last set.1 set.2 k
    rw [sentTo_report_of_ne hk, Function.update_of_ne (Ne.symm hk)]
    exact h k

theorem telescoped_run (sets : List (K × V)) : Telescoped (run report (init : Reporter K V) sets) :=
  run_induction (fun _ => True) (fun _ set _ h => telescoped_report set h) telescoped_init
    fun _ _ => trivial

/-- The sender remembers the last value, or what it began with. -/
theorem last_run (k : K) (sets : List (K × V)) (r : Reporter K V) :
    (run report r sets).last k = (sentTo k sets).getLast?.getD (r.last k) := by
  induction sets generalizing r with
  | nil => rfl
  | cons set sets ih =>
      obtain ⟨k', v⟩ := set
      rw [run_cons, ih]
      by_cases hk : k' = k
      · subst hk
        have hlast : (report (k', v) r).last k' = v := Function.update_self ..
        rw [sentTo_cons_self, List.getLast?_cons, hlast]
        rfl
      · have hlast : (report (k', v) r).last k = r.last k := Function.update_of_ne (Ne.symm hk) ..
        rw [sentTo_cons_of_ne hk, hlast]

/-- **The receiver shows what was last set.** -/
theorem total_run (k : K) (sets : List (K × V)) :
    total k (run report (init : Reporter K V) sets).sent = lastSet k sets :=
  (telescoped_run sets k).trans (last_run k sets init)

end Reporter

end Deltas

end CartoonDemo
