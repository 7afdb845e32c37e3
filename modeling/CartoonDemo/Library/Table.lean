import Mathlib.Data.List.Nodup

/-!
# CartoonDemo.Library.Table

**Keyed tables.** A `Table key` is a list of rows in which no two rows share a key. It is
at once an insertion-ordered dictionary (`upsert` replaces a row in place or appends it)
and a relation with a primary key (`insert?` refuses a key that is taken).

Uniqueness is a field of the structure, so `get?` and membership in `rows` determine each
other (`get?_eq_some_iff`) and no client carries a key invariant of its own. The lemmas
below describe each operation twice, once through `get?` and once through `rows`, because
point reads and scans over the whole table both occur in clients.
-/

namespace CartoonDemo

universe u v

/-- A list of rows with pairwise distinct keys, in insertion order. -/
@[ext] structure Table {V : Type u} {K : Type v} (key : V → K) where
  /-- The rows, oldest insertion first. -/
  rows : List V
  /-- The primary-key constraint. -/
  nodup : (rows.map key).Nodup

namespace Table

variable {V : Type u} {K : Type v} {key : V → K}

instance [DecidableEq V] : DecidableEq (Table key) := fun s t =>
  decidable_of_iff (s.rows = t.rows) Table.ext_iff.symm

instance [Repr V] : Repr (Table key) := ⟨fun t n => reprPrec t.rows n⟩

/-- The table with no rows. -/
def empty : Table key := ⟨[], by simp⟩

@[simp] theorem rows_empty : (empty : Table key).rows = [] := rfl

/-- Two rows of one table with the same key are the same row. -/
theorem eq_of_key_eq (t : Table key) {r r' : V} (h : r ∈ t.rows) (h' : r' ∈ t.rows)
    (hk : key r = key r') : r = r' :=
  List.inj_on_of_nodup_map t.nodup h h' hk

variable [DecidableEq K]

/-- The row with the given key. -/
def get? (t : Table key) (k : K) : Option V := t.rows.find? (fun r => key r = k)

@[simp] theorem get?_empty (k : K) : (empty : Table key).get? k = none := rfl

theorem get?_eq_some_iff {t : Table key} {k : K} {r : V} :
    t.get? k = some r ↔ r ∈ t.rows ∧ key r = k := by
  constructor
  · intro h
    exact ⟨List.mem_of_find?_eq_some h, by simpa using List.find?_some h⟩
  · rintro ⟨hr, rfl⟩
    unfold get?
    cases hf : t.rows.find? (fun r' => key r' = key r) with
    | none => exact absurd (List.find?_eq_none.mp hf r hr) (by simp)
    | some r' =>
        have hk : key r' = key r := by simpa using List.find?_some hf
        rw [t.eq_of_key_eq (List.mem_of_find?_eq_some hf) hr hk]

theorem get?_eq_none_iff {t : Table key} {k : K} :
    t.get? k = none ↔ ∀ r ∈ t.rows, key r ≠ k := by
  simp [get?, List.find?_eq_none]

theorem mem_of_get? {t : Table key} {k : K} {r : V} (h : t.get? k = some r) : r ∈ t.rows :=
  (get?_eq_some_iff.mp h).1

theorem key_of_get? {t : Table key} {k : K} {r : V} (h : t.get? k = some r) : key r = k :=
  (get?_eq_some_iff.mp h).2

theorem get?_of_mem {t : Table key} {r : V} (h : r ∈ t.rows) : t.get? (key r) = some r :=
  get?_eq_some_iff.mpr ⟨h, rfl⟩

omit [DecidableEq K] in
/-- A key has at most one row. -/
theorem length_filter_key_le_one [DecidableEq K] (t : Table key) (k : K) :
    (t.rows.filter fun r => key r = k).length ≤ 1 := by
  have hcount : ((t.rows.filter fun r => key r = k).map key).count k ≤ 1 :=
    List.nodup_iff_count_le_one.mp (t.nodup.sublist (List.filter_sublist.map key)) k
  have hall : ∀ k' ∈ (t.rows.filter fun r => key r = k).map key, k = k' := by
    intro k' hk'
    obtain ⟨r, hr, rfl⟩ := List.mem_map.mp hk'
    have hrk : key r = k := by simpa using (List.mem_filter.mp hr).2
    exact hrk.symm
  rwa [List.count_eq_length.mpr hall, List.length_map] at hcount

/-! ### Writing a row

A row that is there is replaced in its place, a new one is put at the end.
-/

/-- The rows after writing `v`: the row with `v`'s key is replaced where it stands, and a
new key goes to the end. -/
def putRows (key : V → K) (v : V) (rows : List V) : List V :=
  if rows.any (fun r => key r = key v) then
    rows.map (fun r => if key r = key v then v else r)
  else rows ++ [v]

/-- `dict[key] = value`: in place for a known key, appended for a new one. -/
def upsert (t : Table key) (v : V) : Table key where
  rows := putRows key v t.rows
  nodup := by
    unfold putRows
    split
    · have hkeys : (t.rows.map (fun r => if key r = key v then v else r)).map key
          = t.rows.map key := by
        rw [List.map_map]
        refine List.map_congr_left fun r _ => ?_
        by_cases hr : key r = key v <;> simp [hr]
      rw [hkeys]
      exact t.nodup
    · next hnone =>
      have hfresh : key v ∉ t.rows.map key := by
        intro hmem
        obtain ⟨r, hr, hrk⟩ := List.mem_map.mp hmem
        exact hnone (List.any_eq_true.mpr ⟨r, hr, by simp [hrk]⟩)
      rw [List.map_append, List.map_cons, List.map_nil, List.nodup_append]
      refine ⟨t.nodup, by simp, ?_⟩
      intro a ha b hb hab
      rw [List.mem_singleton] at hb
      exact hfresh (hb ▸ hab ▸ ha)

theorem mem_upsert {t : Table key} {v r : V} :
    r ∈ (t.upsert v).rows ↔ r = v ∨ (r ∈ t.rows ∧ key r ≠ key v) := by
  unfold upsert putRows
  dsimp only
  split
  · next hany =>
    obtain ⟨q, hq, hqk⟩ := List.any_eq_true.mp hany
    simp only [List.mem_map]
    constructor
    · rintro ⟨p, hp, rfl⟩
      by_cases hpk : key p = key v
      · exact Or.inl (by simp [hpk])
      · exact Or.inr (by simpa [hpk] using hp)
    · rintro (rfl | ⟨hr, hrk⟩)
      · exact ⟨q, hq, if_pos (by simpa using hqk)⟩
      · exact ⟨r, hr, if_neg hrk⟩
  · next hnone =>
    have hne : ∀ p ∈ t.rows, key p ≠ key v := fun p hp hpk =>
      hnone (List.any_eq_true.mpr ⟨p, hp, by simp [hpk]⟩)
    simp only [List.mem_append, List.mem_singleton]
    constructor
    · rintro (hr | rfl)
      · exact Or.inr ⟨hr, hne r hr⟩
      · exact Or.inl rfl
    · rintro (rfl | ⟨hr, -⟩)
      · exact Or.inr rfl
      · exact Or.inl hr

@[simp] theorem get?_upsert (t : Table key) (v : V) (k : K) :
    (t.upsert v).get? k = if key v = k then some v else t.get? k := by
  by_cases hk : key v = k
  · rw [if_pos hk]
    exact get?_eq_some_iff.mpr ⟨mem_upsert.mpr (Or.inl rfl), hk⟩
  · rw [if_neg hk]
    cases hg : t.get? k with
    | none =>
        refine get?_eq_none_iff.mpr fun r hr => ?_
        rcases mem_upsert.mp hr with rfl | ⟨hr', -⟩
        · exact hk
        · exact get?_eq_none_iff.mp hg r hr'
    | some r =>
        obtain ⟨hr, hrk⟩ := get?_eq_some_iff.mp hg
        exact get?_eq_some_iff.mpr
          ⟨mem_upsert.mpr (Or.inr ⟨hr, fun h => hk (h.symm.trans hrk)⟩), hrk⟩

/-- A fresh key is appended. -/
theorem rows_upsert_of_get?_none {t : Table key} {v : V} (h : t.get? (key v) = none) :
    (t.upsert v).rows = t.rows ++ [v] := by
  have hne : ¬ t.rows.any (fun r => key r = key v) = true := by
    intro hany
    obtain ⟨r, hr, hrk⟩ := List.any_eq_true.mp hany
    exact get?_eq_none_iff.mp h r hr (by simpa using hrk)
  simp only [upsert, putRows, if_neg hne]

/-- A known key is replaced where it stands. -/
theorem rows_upsert_of_get?_some {t : Table key} {v r : V} (h : t.get? (key v) = some r) :
    (t.upsert v).rows = t.rows.map (fun q => if key q = key v then v else q) := by
  obtain ⟨hr, hrk⟩ := get?_eq_some_iff.mp h
  have hany : t.rows.any (fun q => key q = key v) = true :=
    List.any_eq_true.mpr ⟨r, hr, by simp [hrk]⟩
  simp only [upsert, putRows, if_pos hany]

/-- Of two writes under one key the second stays. -/
theorem upsert_upsert (t : Table key) {a b : V} (h : key a = key b) :
    (t.upsert a).upsert b = t.upsert b := by
  have ha : (t.upsert a).get? (key b) = some a := by rw [get?_upsert, if_pos h]
  refine Table.ext ?_
  rw [rows_upsert_of_get?_some ha]
  cases hg : t.get? (key b) with
  | none =>
      have hne : ∀ q ∈ t.rows, (if key q = key b then b else q) = q := fun q hq =>
        if_neg (get?_eq_none_iff.mp hg q hq)
      rw [rows_upsert_of_get?_none (by rw [h]; exact hg), rows_upsert_of_get?_none hg,
        List.map_append, List.map_congr_left hne, List.map_id']
      simp [h]
  | some r =>
      rw [rows_upsert_of_get?_some (by rw [h]; exact hg), rows_upsert_of_get?_some hg,
        List.map_map]
      refine List.map_congr_left fun q _ => ?_
      by_cases hq : key q = key b <;> simp [h, hq]

/-- `INSERT` under a primary key: `none` when the key is taken. -/
def insert? (t : Table key) (v : V) : Option (Table key) :=
  if (t.get? (key v)).isSome then none else some (t.upsert v)

theorem insert?_eq_some {t t' : Table key} {v : V} (h : t.insert? v = some t') :
    t.get? (key v) = none ∧ t' = t.upsert v := by
  unfold insert? at h
  split at h
  · exact absurd h (by simp)
  · next hnone => exact ⟨by simpa using hnone, (Option.some.inj h).symm⟩

theorem insert?_of_get?_none {t : Table key} {v : V} (h : t.get? (key v) = none) :
    t.insert? v = some (t.upsert v) := by
  simp [insert?, h]

theorem insert?_of_get?_some {t : Table key} {v r : V} (h : t.get? (key v) = some r) :
    t.insert? v = none := by
  simp [insert?, h]

/-! ### Removing a row -/

/-- The table without the row of key `k`. -/
def erase (t : Table key) (k : K) : Table key where
  rows := t.rows.filter (fun r => key r ≠ k)
  nodup := t.nodup.sublist (List.filter_sublist.map key)

theorem mem_erase {t : Table key} {k : K} {r : V} :
    r ∈ (t.erase k).rows ↔ r ∈ t.rows ∧ key r ≠ k := by
  simp [erase, List.mem_filter]

@[simp] theorem get?_erase (t : Table key) (k k' : K) :
    (t.erase k).get? k' = if k' = k then none else t.get? k' := by
  by_cases hk : k' = k
  · rw [if_pos hk]
    refine get?_eq_none_iff.mpr fun r hr hrk => ?_
    exact (mem_erase.mp hr).2 (hrk.trans hk)
  · rw [if_neg hk]
    cases hg : t.get? k' with
    | none => exact get?_eq_none_iff.mpr fun r hr => get?_eq_none_iff.mp hg r (mem_erase.mp hr).1
    | some r =>
        obtain ⟨hr, rfl⟩ := get?_eq_some_iff.mp hg
        exact get?_of_mem (mem_erase.mpr ⟨hr, hk⟩)

/-- `DELETE` of the rows that `p` rejects. -/
def filter (t : Table key) (p : V → Bool) : Table key where
  rows := t.rows.filter p
  nodup := t.nodup.sublist (List.filter_sublist.map key)

omit [DecidableEq K] in
theorem mem_filter {t : Table key} {p : V → Bool} {r : V} :
    r ∈ (t.filter p).rows ↔ r ∈ t.rows ∧ p r := List.mem_filter

/-! ### Updating every row -/

omit [DecidableEq K] in
/-- `UPDATE` of all rows by a function that leaves the key alone. -/
def mapRows (t : Table key) (f : V → V) (hf : ∀ r, key (f r) = key r) : Table key where
  rows := t.rows.map f
  nodup := by
    have hkeys : (t.rows.map f).map key = t.rows.map key := by
      rw [List.map_map]
      exact List.map_congr_left fun r _ => hf r
    rw [hkeys]
    exact t.nodup

omit [DecidableEq K] in
theorem mem_mapRows {t : Table key} {f : V → V} {hf : ∀ r, key (f r) = key r} {r : V} :
    r ∈ (t.mapRows f hf).rows ↔ ∃ q ∈ t.rows, f q = r := by
  simp [mapRows, List.mem_map]

@[simp] theorem get?_mapRows (t : Table key) (f : V → V) (hf : ∀ r, key (f r) = key r)
    (k : K) : (t.mapRows f hf).get? k = (t.get? k).map f := by
  cases hg : t.get? k with
  | none =>
      refine get?_eq_none_iff.mpr fun r hr => ?_
      obtain ⟨q, hq, rfl⟩ := mem_mapRows.mp hr
      rw [hf]
      exact get?_eq_none_iff.mp hg q hq
  | some r =>
      obtain ⟨hr, rfl⟩ := get?_eq_some_iff.mp hg
      exact get?_eq_some_iff.mpr ⟨mem_mapRows.mpr ⟨r, hr, rfl⟩, hf r⟩

end Table

end CartoonDemo
