import Mathlib.Data.Nat.Basic

/-!
# CartoonDemo.Library.Snapshot

**Optimistic concurrency.** Rows of a keyed store carry a version; a client keeps a row it
has read and later writes only if the stored version is still the one it read. The store
in between may be changed by anybody, as long as each change of a row raises its version
(`Advances`).

`Observed cur k r` is what remains true of a snapshot `r` under such changes: the stored
row is `r` itself or a newer version. So a version that still matches means that the row
read *is* the stored row (`Observed.eq_of_version`), and the decision taken from the
snapshot is a decision about the current row.
-/

namespace CartoonDemo

universe u v

variable {K : Type u} {R : Type v} {version : R → Nat} {cur cur' : K → Option R}

/-- The row stored under `k` is `r`, or a row with a higher version. -/
def Observed (version : R → Nat) (cur : K → Option R) (k : K) (r : R) : Prop :=
  ∃ r', cur k = some r' ∧ (r' = r ∨ version r < version r')

/-- Every stored row is still there or has been replaced by a row with a higher version. -/
def Advances (version : R → Nat) (cur cur' : K → Option R) : Prop :=
  ∀ k r, cur k = some r → Observed version cur' k r

theorem Observed.of_get {k : K} {r : R} (h : cur k = some r) : Observed version cur k r :=
  ⟨r, h, Or.inl rfl⟩

/-- A snapshot stays observed while the store advances. -/
theorem Observed.advance {k : K} {r : R} (h : Observed version cur k r)
    (ha : Advances version cur cur') : Observed version cur' k r := by
  obtain ⟨r', hr', hle⟩ := h
  obtain ⟨r'', hr'', hle'⟩ := ha k r' hr'
  refine ⟨r'', hr'', ?_⟩
  rcases hle with rfl | hlt
  · exact hle'
  · rcases hle' with rfl | hlt'
    · exact Or.inr hlt
    · exact Or.inr (Nat.lt_trans hlt hlt')

/-- **A matching version identifies the row.** -/
theorem Observed.eq_of_version {k : K} {r r' : R} (h : Observed version cur k r)
    (hr' : cur k = some r') (hv : version r' = version r) : r' = r := by
  obtain ⟨q, hq, hle⟩ := h
  obtain rfl : q = r' := Option.some.inj (hq.symm.trans hr')
  rcases hle with rfl | hlt
  · rfl
  · exact absurd hv (Nat.ne_of_gt hlt)

theorem Advances.refl : Advances version cur cur := fun _ _ h => Observed.of_get h

/-- Writing one row with a higher version advances the store. -/
theorem Advances.of_write {k : K} {v : R}
    (hold : ∀ r, cur k = some r → version r < version v)
    (hnew : cur' k = some v) (hother : ∀ k', k' ≠ k → cur' k' = cur k') :
    Advances version cur cur' := by
  intro k' r hr
  by_cases hk : k' = k
  · subst hk
    exact ⟨v, hnew, Or.inr (hold r hr)⟩
  · exact ⟨r, (hother k' hk).trans hr, Or.inl rfl⟩

end CartoonDemo
