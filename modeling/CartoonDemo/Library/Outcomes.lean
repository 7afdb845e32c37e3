import Mathlib.Data.List.Forall2

/-!
# CartoonDemo.Library.Outcomes

**Lists of outcomes of two kinds.** A pipeline that keeps some of its items and rejects the others
writes what becomes of them into two lists, in the order of the items. Both together are a
permutation of the outcomes (`perm_kept_rejected`), so nothing is lost and nothing is doubled; and a
stage that goes over the kept ones alone is a stage over the outcomes (`exists_replace_kept`).
-/

namespace CartoonDemo

section Outcomes

variable {α β γ : Type}

/-- What is kept. -/
def kept (outcomes : List (α ⊕ β)) : List α := outcomes.filterMap Sum.getLeft?

/-- What is rejected. -/
def rejected (outcomes : List (α ⊕ β)) : List β := outcomes.filterMap Sum.getRight?

@[simp] theorem kept_inl (a : α) (outcomes : List (α ⊕ β)) :
    kept (.inl a :: outcomes) = a :: kept outcomes := rfl

@[simp] theorem kept_inr (b : β) (outcomes : List (α ⊕ β)) : kept (.inr b :: outcomes) = kept outcomes := rfl

@[simp] theorem rejected_inl (a : α) (outcomes : List (α ⊕ β)) :
    rejected (.inl a :: outcomes) = rejected outcomes := rfl

@[simp] theorem rejected_inr (b : β) (outcomes : List (α ⊕ β)) :
    rejected (.inr b :: outcomes) = b :: rejected outcomes := rfl

theorem kept_append (outcomes outcomes' : List (α ⊕ β)) :
    kept (outcomes ++ outcomes') = kept outcomes ++ kept outcomes' := List.filterMap_append

theorem rejected_append (outcomes outcomes' : List (α ⊕ β)) :
    rejected (outcomes ++ outcomes') = rejected outcomes ++ rejected outcomes' :=
  List.filterMap_append

@[simp] theorem kept_map_inr (bs : List β) : kept (bs.map (Sum.inr : β → α ⊕ β)) = [] := by
  induction bs with
  | nil => rfl
  | cons b bs ih => exact ih

@[simp] theorem rejected_map_inr (bs : List β) :
    rejected (bs.map (Sum.inr : β → α ⊕ β)) = bs := by
  induction bs with
  | nil => rfl
  | cons b bs ih => exact congrArg (b :: ·) ih

/-- **Nothing is lost and nothing is doubled.** -/
theorem perm_kept_rejected (outcomes : List (α ⊕ β)) :
    outcomes.Perm ((kept outcomes).map Sum.inl ++ (rejected outcomes).map Sum.inr) := by
  induction outcomes with
  | nil => exact .nil
  | cons outcome outcomes ih =>
      cases outcome with
      | inl a => exact ih.cons (.inl a)
      | inr b =>
          rw [kept_inr, rejected_inr, List.map_cons]
          exact (ih.cons (.inr b)).trans List.perm_middle.symm

/-- What becomes of the kept ones in a further stage. -/
theorem exists_replace_kept {R : α → γ → Prop} {outcomes : List (α ⊕ β)} {replaced : List γ}
    (h : List.Forall₂ R (kept outcomes) replaced) :
    ∃ outcomes' : List (γ ⊕ β), List.Forall₂ (Sum.LiftRel R Eq) outcomes outcomes' ∧
      kept outcomes' = replaced ∧ rejected outcomes' = rejected outcomes := by
  induction outcomes generalizing replaced with
  | nil =>
      cases h
      exact ⟨[], .nil, rfl, rfl⟩
  | cons outcome outcomes ih =>
      cases outcome with
      | inl a =>
          rw [kept_inl] at h
          obtain ⟨c, replaced', hac, hrest, rfl⟩ := List.forall₂_cons_left_iff.mp h
          obtain ⟨outcomes', hlift, hkept, hrejected⟩ := ih hrest
          exact ⟨.inl c :: outcomes', .cons (.inl hac) hlift, congrArg (c :: ·) hkept, hrejected⟩
      | inr b =>
          obtain ⟨outcomes', hlift, hkept, hrejected⟩ := ih h
          exact ⟨.inr b :: outcomes', .cons (.inr rfl) hlift, hkept, congrArg (b :: ·) hrejected⟩

/-- Two stages, one after the other. -/
theorem forall₂_stages {R : α → β → Prop} {S : β → γ → Prop} {T : α → γ → Prop}
    (hcomp : ∀ a b c, R a b → S b c → T a c) {as : List α} {bs : List β} {cs : List γ}
    (hR : List.Forall₂ R as bs) (hS : List.Forall₂ S bs cs) : List.Forall₂ T as cs := by
  induction hR generalizing cs with
  | nil =>
      cases hS
      exact .nil
  | cons hab _ ih =>
      obtain ⟨c, cs', hbc, hrest, rfl⟩ := List.forall₂_cons_left_iff.mp hS
      exact .cons (hcomp _ _ _ hab hbc) (ih hrest)

theorem exists_of_mem_right {R : α → β → Prop} {as : List α} {bs : List β} (h : List.Forall₂ R as bs)
    {b : β} (hb : b ∈ bs) : ∃ a ∈ as, R a b := by
  induction h with
  | nil => exact absurd hb List.not_mem_nil
  | cons hab _ ih =>
      rcases List.mem_cons.mp hb with rfl | hb
      · exact ⟨_, List.mem_cons_self, hab⟩
      · obtain ⟨a, ha, hR⟩ := ih hb
        exact ⟨a, List.mem_cons_of_mem _ ha, hR⟩

theorem exists_of_mem_left {R : α → β → Prop} {as : List α} {bs : List β} (h : List.Forall₂ R as bs)
    {a : α} (ha : a ∈ as) : ∃ b ∈ bs, R a b := by
  obtain ⟨b, hb, hR⟩ := exists_of_mem_right h.flip ha
  exact ⟨b, hb, hR⟩

theorem mem_kept_iff {outcomes : List (α ⊕ β)} {a : α} : a ∈ kept outcomes ↔ Sum.inl a ∈ outcomes := by
  rw [kept, List.mem_filterMap]
  simp

theorem mem_rejected_iff {outcomes : List (α ⊕ β)} {b : β} :
    b ∈ rejected outcomes ↔ Sum.inr b ∈ outcomes := by
  induction outcomes with
  | nil => exact iff_of_false List.not_mem_nil List.not_mem_nil
  | cons outcome outcomes ih => cases outcome <;> simp [ih]

end Outcomes

end CartoonDemo
