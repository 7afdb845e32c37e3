import Mathlib.Data.List.Sort

/-!
# CartoonDemo.Library.SortBy

**Sorting by a key** in a linear order, as Python's `sorted(xs, key=...)`. Where the keys are
distinct, the result depends on the elements alone and not on their order (`sortBy_eq_of_perm`), and
the position of an element is the number of elements with a smaller key (`findIdx_sortBy`). So an
element whose key becomes smaller, among keys that stay, does not move back.

`insertBy` is the same sort by insertion. It is stable: it moves nothing that is in order
(`insertBy_eq_self_iff`), and it commutes with filters (`filter_insertBy`).
-/

namespace CartoonDemo

section SortBy

variable {α κ : Type}

/-- The keys of a list are distinct. -/
def DistinctKeys (key : α → κ) (xs : List α) : Prop := (xs.map key).Nodup

theorem DistinctKeys.perm {key : α → κ} {xs ys : List α} (h : DistinctKeys key xs) (hp : xs.Perm ys) :
    DistinctKeys key ys := (hp.map key).nodup_iff.mp h

theorem DistinctKeys.inj {key : α → κ} {xs : List α} (h : DistinctKeys key xs) {a b : α} (ha : a ∈ xs)
    (hb : b ∈ xs) (hab : key a = key b) : a = b := List.inj_on_of_nodup_map h ha hb hab

variable [LinearOrder κ] (key : α → κ)

/-- `sorted(xs, key=key)`. -/
def sortBy (xs : List α) : List α := xs.mergeSort fun a b => key a ≤ key b

theorem sortBy_perm (xs : List α) : (sortBy key xs).Perm xs := List.mergeSort_perm xs _

theorem sortBy_pairwise (xs : List α) : (sortBy key xs).Pairwise fun a b => key a ≤ key b := by
  have htrans : ∀ a b c : α, decide (key a ≤ key b) = true → decide (key b ≤ key c) = true →
      decide (key a ≤ key c) = true := fun a b c hab hbc =>
    decide_eq_true (le_trans (of_decide_eq_true hab) (of_decide_eq_true hbc))
  have htotal : ∀ a b : α, (decide (key a ≤ key b) || decide (key b ≤ key a)) = true :=
    fun a b => by simpa using le_total (key a) (key b)
  exact (List.pairwise_mergeSort htrans htotal xs).imp of_decide_eq_true

variable {key}

/-- Sorting looks at the keys only. -/
theorem sortBy_map {β : Type} {key : α → κ} {key' : β → κ} {f : α → β}
    (h : ∀ x, key' (f x) = key x) (xs : List α) :
    sortBy key' (xs.map f) = (sortBy key xs).map f := by
  refine (List.map_mergeSort fun a _ b _ => ?_).symm
  rw [h, h]

/-- Distinct keys can be sorted in one way only. -/
theorem eq_of_sorted {xs ys : List α} (h : DistinctKeys key xs) (hp : xs.Perm ys)
    (hxs : xs.Pairwise fun a b => key a ≤ key b) (hys : ys.Pairwise fun a b => key a ≤ key b) :
    xs = ys := by
  have hinj : ∀ a b, a ∈ xs → b ∈ ys → key a ≤ key b → key b ≤ key a → a = b :=
    fun a b ha hb hab hba => h.inj ha (hp.mem_iff.mpr hb) (le_antisymm hab hba)
  exact hp.eq_of_pairwise hinj hxs hys

/-- **The order of the elements makes no difference.** -/
theorem sortBy_eq_of_perm {xs ys : List α} (h : DistinctKeys key xs) (hp : xs.Perm ys) :
    sortBy key xs = sortBy key ys := by
  have hperm : (sortBy key xs).Perm (sortBy key ys) :=
    (sortBy_perm key xs).trans (hp.trans (sortBy_perm key ys).symm)
  exact eq_of_sorted (h.perm (sortBy_perm key xs).symm) hperm (sortBy_pairwise key xs)
    (sortBy_pairwise key ys)

/-- A search looks at the elements of the list only. -/
theorem findIdx_congr {xs : List α} {p q : α → Bool} (h : ∀ x ∈ xs, p x = q x) :
    xs.findIdx p = xs.findIdx q := by
  induction xs with
  | nil => rfl
  | cons x xs ih =>
      rw [List.findIdx_cons, List.findIdx_cons, h x List.mem_cons_self,
        ih fun y hy => h y (List.mem_cons_of_mem x hy)]

/-- In a sorted list, the elements before one are those with a smaller key. -/
theorem findIdx_of_pairwise {xs : List α} (hs : xs.Pairwise fun a b => key a ≤ key b)
    (h : DistinctKeys key xs) {x : α} (hx : x ∈ xs) :
    xs.findIdx (fun y => key y = key x) = xs.countP fun y => key y < key x := by
  induction xs with
  | nil => cases hx
  | cons y ys ih =>
      obtain ⟨hle, hs⟩ := List.pairwise_cons.mp hs
      obtain ⟨hfresh, hnodup⟩ := List.nodup_cons.mp h
      rw [List.findIdx_cons, List.countP_cons]
      rcases List.mem_cons.mp hx with rfl | hx
      · -- nothing is smaller than the first element
        have hnone : ys.countP (fun z => key z < key x) = 0 :=
          List.countP_eq_zero.mpr fun z hz => by simpa using hle z hz
        simp [hnone]
      · have hne : key y ≠ key x := fun heq => hfresh (heq ▸ List.mem_map_of_mem hx)
        have hlt : key y < key x := lt_of_le_of_ne (hle x hx) hne
        simp [hne, hlt, ih hs hnodup hx]

theorem findIdx_sortBy {xs : List α} (h : DistinctKeys key xs) {x : α} (hx : x ∈ xs) :
    (sortBy key xs).findIdx (fun y => key y = key x) = xs.countP fun y => key y < key x := by
  have hp := sortBy_perm key xs
  rw [findIdx_of_pairwise (sortBy_pairwise key xs) (h.perm hp.symm) (hp.mem_iff.mpr hx)]
  exact hp.countP_eq _

end SortBy

/-! ### Insertion by a key

The sort of the repositories' listings. It is stable, so filters and batches can be moved past it.
-/

section InsertionSort

variable {α κ : Type} [LinearOrder κ] (key : α → κ)

/-- The same sort, by insertion: it computes by structural recursion. -/
abbrev insertBy (xs : List α) : List α := xs.insertionSort fun a b => key a ≤ key b

theorem insertBy_pairwise (xs : List α) : (insertBy key xs).Pairwise fun a b => key a ≤ key b :=
  haveI : IsTrans α fun a b => key a ≤ key b := ⟨fun _ _ _ => le_trans⟩
  haveI : Std.Total fun a b : α => key a ≤ key b := ⟨fun a b => le_total (key a) (key b)⟩
  List.pairwise_insertionSort _ xs

variable {key}

theorem insertBy_eq_of_perm {xs ys : List α} (h : DistinctKeys key xs) (hp : xs.Perm ys) :
    insertBy key xs = insertBy key ys := by
  have hxs := List.perm_insertionSort (fun a b => key a ≤ key b) xs
  have hys := List.perm_insertionSort (fun a b => key a ≤ key b) ys
  exact eq_of_sorted (h.perm hxs.symm) (hxs.trans (hp.trans hys.symm)) (insertBy_pairwise key xs)
    (insertBy_pairwise key ys)

/-- Sorting changes nothing but the order of keys that fall. -/
theorem insertBy_eq_self_iff {xs : List α} :
    insertBy key xs = xs ↔ xs.Pairwise fun a b => key a ≤ key b := by
  constructor
  · intro h
    rw [← h]
    exact insertBy_pairwise key xs
  · exact List.Pairwise.insertionSort_eq

/-- An insertion that the filter keeps can be made after it. -/
theorem filter_orderedInsert_of_pos {p : α → Bool} {a : α} (ha : p a) {xs : List α}
    (hs : xs.Pairwise fun a b => key a ≤ key b) :
    (xs.orderedInsert (fun a b => key a ≤ key b) a).filter p =
      (xs.filter p).orderedInsert (fun a b => key a ≤ key b) a := by
  induction xs with
  | nil => simp [ha]
  | cons b xs ih =>
      obtain ⟨hle, hs⟩ := List.pairwise_cons.mp hs
      rw [List.orderedInsert_cons]
      by_cases hab : key a ≤ key b
      · rw [if_pos hab, List.filter_cons, if_pos ha]
        -- what is left after `b` is not smaller than `b`
        have hall : ∀ c ∈ (b :: xs).filter p, key a ≤ key c := by
          intro c hc
          rcases List.mem_cons.mp (List.mem_of_mem_filter hc) with rfl | hc
          · exact hab
          · exact le_trans hab (hle c hc)
        cases hrest : (b :: xs).filter p with
        | nil => rfl
        | cons c rest =>
            rw [List.orderedInsert_cons, if_pos (hall c (by rw [hrest]; exact List.mem_cons_self))]
      · rw [if_neg hab, List.filter_cons, List.filter_cons, ih hs]
        by_cases hb : p b
        · rw [if_pos hb, if_pos hb, List.orderedInsert_cons, if_neg hab]
        · rw [if_neg hb, if_neg hb]

theorem filter_orderedInsert_of_neg {p : α → Bool} {a : α} (ha : ¬ p a) (xs : List α) :
    (xs.orderedInsert (fun a b => key a ≤ key b) a).filter p = xs.filter p := by
  induction xs with
  | nil => simp [ha]
  | cons b xs ih =>
      rw [List.orderedInsert_cons]
      split
      · rw [List.filter_cons, if_neg ha]
      · rw [List.filter_cons, List.filter_cons, ih]

/-- **Sorting and filtering commute**: a sort moves no element for the sake of another one. -/
theorem filter_insertBy (p : α → Bool) (xs : List α) :
    (insertBy key xs).filter p = insertBy key (xs.filter p) := by
  induction xs with
  | nil => rfl
  | cons a xs ih =>
      rw [insertBy, List.insertionSort_cons, List.filter_cons]
      by_cases ha : p a
      · rw [if_pos ha, filter_orderedInsert_of_pos ha (insertBy_pairwise key xs), ih,
          insertBy, insertBy, List.insertionSort_cons]
      · rw [if_neg ha, filter_orderedInsert_of_neg ha, ih]

/-- What a filter keeps of the first elements comes first among what it keeps. -/
theorem mem_take_filter {p : α → Bool} {xs : List α} {n : ℕ} {x : α} (hx : x ∈ xs.take n) (hp : p x) :
    x ∈ (xs.filter p).take n := by
  have hprefix : (xs.take n).filter p <+: xs.filter p := (List.take_prefix n xs).filter p
  have hlen : ((xs.take n).filter p).length ≤ n :=
    (List.length_filter_le _ _).trans (List.length_take_le _ _)
  have hmem : x ∈ (xs.take n).filter p := List.mem_filter.mpr ⟨hx, hp⟩
  rw [List.prefix_iff_eq_take.mp hprefix] at hmem
  exact List.take_subset_take_left _ hlen hmem

theorem map_insertBy {β : Type} {key : α → κ} {key' : β → κ} {f : α → β}
    (h : ∀ x, key' (f x) = key x) (xs : List α) :
    insertBy key' (xs.map f) = (insertBy key xs).map f := by
  refine (List.map_insertionSort _ _ f xs fun a _ b _ => ?_).symm
  rw [h, h]

end InsertionSort

end CartoonDemo
