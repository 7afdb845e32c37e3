import CartoonDemo.Persistence.Leases
import CartoonDemo.Library.Transaction

/-!
# CartoonDemo.Persistence.LeaseExclusion

**Leases exclude**, in both implementations and over every sequence of calls: a lease is
granted only when no row of the task is left unexpired (`tryAcquire_some`), a call under one lease id leaves
every other lease alone, and only an unexpired lease is renewed (`run_excludes`).

The implementations are compared operation by operation. They decide alike and leave the same
table, with one exception: `renew` reads the clock twice, and the two read it in opposite
orders (`renew_eq`).
-/

namespace CartoonDemo

namespace TaskLeaseRepoKind

variable {t : TaskLeases} {leaseId taskId workerId : String} {ttl first second now : Time}

/-! ### Deleting an expired row -/

/-- What `try_acquire` takes for a free task. -/
def vacant (taskId : String) (now : Time) (t : TaskLeases) : Bool :=
  match t.get? taskId with
  | none => true
  | some r => r.expiresAt < now

theorem vacant_iff : vacant taskId now t ↔ ∀ r ∈ t.rows, r.taskId = taskId → r.expiresAt < now := by
  unfold vacant
  cases hg : t.get? taskId with
  | none => exact iff_of_true rfl fun r hr hrk => absurd hrk (Table.get?_eq_none_iff.mp hg r hr)
  | some r =>
      obtain ⟨hr, hrk⟩ := Table.get?_eq_some_iff.mp hg
      show decide (r.expiresAt < now) = true ↔ _
      rw [decide_eq_true_eq]
      refine ⟨fun h q hq hqk => ?_, fun h => h r hr hrk⟩
      rwa [t.eq_of_key_eq hq hr (hqk.trans hrk.symm)]

theorem erase_of_get?_none (h : t.get? taskId = none) : t.erase taskId = t := by
  refine Table.ext (List.filter_eq_self.mpr fun r hr => ?_)
  simpa using Table.get?_eq_none_iff.mp h r hr

theorem fakes_deleteExpired_eq : InMemoryTaskLeaseRepo.deleteExpired now taskId t =
    if vacant taskId now t then t.erase taskId else t := by
  unfold InMemoryTaskLeaseRepo.deleteExpired vacant
  cases hg : t.get? taskId with
  | none => exact (erase_of_get?_none hg).symm
  | some r => simp only [decide_eq_true_eq]

theorem postgres_deleteExpired_eq : PostgresTaskLeaseRepo.deleteExpired now taskId t =
    if vacant taskId now t then t.erase taskId else t := by
  by_cases hv : vacant taskId now t
  · have hexpired := vacant_iff.mp hv
    rw [if_pos hv]
    refine Table.ext (List.filter_congr fun r hr => ?_)
    by_cases hrk : r.taskId = taskId
    · simp [hrk, hexpired r hr hrk]
    · simp [hrk]
  · rw [if_neg hv]
    refine Table.ext (List.filter_eq_self.mpr fun r hr => ?_)
    by_cases hrk : r.taskId = taskId
    · have hlive : ¬ r.expiresAt < now := by
        intro hlt
        refine hv (vacant_iff.mpr fun q hq hqk => ?_)
        rwa [t.eq_of_key_eq hq hr (hqk.trans hrk.symm)]
      simp [hlive]
    · simp [hrk]

/-! ### Acquiring

A lease is granted where there is no row or an expired one; the two repositories differ in which
rows they delete.
-/

/-- The row that `try_acquire` writes. -/
def granted (leaseId taskId workerId : String) (ttl now : Time) : TaskLeaseRow :=
  { leaseId, taskId, workerId, acquiredAt := now, expiresAt := now + ttl }

theorem get?_of_not_vacant (hv : ¬ vacant taskId now t) :
    ∃ r, t.get? taskId = some r ∧ now ≤ r.expiresAt := by
  unfold vacant at hv
  cases hg : t.get? taskId with
  | none => exact absurd (by rw [hg]) hv
  | some r =>
      rw [hg] at hv
      exact ⟨r, rfl, by simpa using hv⟩

/-- Both implementations grant a vacant task, and leave the table alone otherwise. -/
theorem tryAcquire_eq (kind : TaskLeaseRepoKind) (hfresh : ∀ r ∈ t.rows, r.leaseId ≠ leaseId) :
    kind.tryAcquire leaseId taskId workerId ttl first second t =
      if vacant taskId first t then
        (some (granted leaseId taskId workerId ttl second),
          (t.erase taskId).upsert (granted leaseId taskId workerId ttl second))
      else (none, t) := by
  have hfree : (t.erase taskId).get? taskId = none := by rw [Table.get?_erase, if_pos rfl]
  cases kind with
  | fakes =>
      show InMemoryTaskLeaseRepo.tryAcquire _ _ _ _ _ _ _ = _
      unfold InMemoryTaskLeaseRepo.tryAcquire
      dsimp only
      rw [fakes_deleteExpired_eq]
      by_cases hv : vacant taskId first t
      · rw [if_pos hv, if_pos hv, hfree]
        rfl
      · obtain ⟨r, hr, -⟩ := get?_of_not_vacant hv
        rw [if_neg hv, if_neg hv, hr]
        rfl
  | postgres =>
      have hnew : ¬ ((if vacant taskId first t then t.erase taskId else t).rows.any
          fun r => r.leaseId = leaseId) = true := by
        intro hany
        obtain ⟨r, hr, hrl⟩ := List.any_eq_true.mp hany
        refine hfresh r ?_ (by simpa using hrl)
        split at hr
        · exact (Table.mem_erase.mp hr).1
        · exact hr
      show PostgresTaskLeaseRepo.tryAcquire _ _ _ _ _ _ _ = _
      unfold PostgresTaskLeaseRepo.tryAcquire PostgresTaskLeaseRepo.insertLease
      dsimp only
      rw [postgres_deleteExpired_eq, if_neg hnew]
      by_cases hv : vacant taskId first t
      · rw [if_pos hv, if_pos hv, Table.insert?_of_get?_none hfree]
        rfl
      · obtain ⟨r, hr, -⟩ := get?_of_not_vacant hv
        rw [if_neg hv, if_neg hv, Table.insert?_of_get?_some hr]
        rfl

/-! ### The other operations -/

/-- No two rows share a lease id (the primary key of the table). -/
def IdsUnique (t : TaskLeases) : Prop :=
  ∀ r ∈ t.rows, ∀ q ∈ t.rows, r.leaseId = q.leaseId → r = q

theorem find?_leaseId_eq_some_iff (hu : IdsUnique t) {r : TaskLeaseRow} :
    t.rows.find? (fun q => q.leaseId = leaseId) = some r ↔ r ∈ t.rows ∧ r.leaseId = leaseId := by
  constructor
  · intro h
    exact ⟨List.mem_of_find?_eq_some h, by simpa using List.find?_some h⟩
  · rintro ⟨hr, rfl⟩
    cases hf : t.rows.find? fun q => q.leaseId = r.leaseId with
    | none => exact absurd (List.find?_eq_none.mp hf r hr) (by simp)
    | some q =>
        have hq : q.leaseId = r.leaseId := by simpa using List.find?_some hf
        rw [hu q (List.mem_of_find?_eq_some hf) r hr hq]

/-- The reading against which `renew` checks the expiry. -/
def checkedAt (first second : Time) : TaskLeaseRepoKind → Time
  | fakes => first
  | postgres => second

/-- The reading from which `renew` counts the new expiry. -/
def extendedFrom (first second : Time) : TaskLeaseRepoKind → Time
  | fakes => second
  | postgres => first

theorem postgres_extend_rows (hu : IdsUnique t) {r : TaskLeaseRow} (hr : r ∈ t.rows)
    (hrl : r.leaseId = leaseId) (hlive : now < r.expiresAt) {expiresAt : Time} :
    (t.rows.map fun q => if PostgresTaskLeaseRepo.renews leaseId now q then
      { q with expiresAt } else q) = (t.upsert { r with expiresAt }).rows := by
  have hget : t.get? ({ r with expiresAt } : TaskLeaseRow).taskId = some r := Table.get?_of_mem hr
  rw [Table.rows_upsert_of_get?_some hget]
  refine List.map_congr_left fun q hq => ?_
  by_cases hqk : q.taskId = r.taskId
  · obtain rfl := t.eq_of_key_eq hq hr hqk
    simp [PostgresTaskLeaseRepo.renews, hrl, hlive]
  · have hql : q.leaseId ≠ leaseId := fun h => hqk (by rw [hu q hq r hr (h.trans hrl.symm)])
    simp [PostgresTaskLeaseRepo.renews, hql, hqk]

/-- `renew` extends the row of the lease if it is unexpired at the reading that it checks. -/
theorem renew_eq (kind : TaskLeaseRepoKind) (hu : IdsUnique t) :
    kind.renew leaseId ttl first second t =
      match t.rows.find? fun r => r.leaseId = leaseId with
      | none => (.error (leaseNotFound leaseId), t)
      | some r =>
          if kind.checkedAt first second < r.expiresAt then
            (.ok { r with expiresAt := kind.extendedFrom first second + ttl },
              t.upsert { r with expiresAt := kind.extendedFrom first second + ttl })
          else (.error (leaseNotFound leaseId), t) := by
  cases kind with
  | fakes =>
      show InMemoryTaskLeaseRepo.renew _ _ _ _ _ = _
      unfold InMemoryTaskLeaseRepo.renew
      cases hf : t.rows.find? fun r => r.leaseId = leaseId with
      | none => rfl
      | some r =>
          by_cases hlive : first < r.expiresAt
          · exact (if_neg (Int.not_le.mpr hlive)).trans (if_pos hlive).symm
          · exact (if_pos (Int.not_lt.mp hlive)).trans (if_neg hlive).symm
  | postgres =>
      show PostgresTaskLeaseRepo.renew _ _ _ _ _ = _
      unfold PostgresTaskLeaseRepo.renew
      -- the row that the `WHERE` clause can select is the row of the lease
      have hnone : (∀ r ∈ t.rows, r.leaseId = leaseId → r.expiresAt ≤ second) →
          t.rows.find? (PostgresTaskLeaseRepo.renews leaseId second) = none := by
        intro h
        refine List.find?_eq_none.mpr fun r hr hsel => ?_
        obtain ⟨hrl, hlive⟩ : r.leaseId = leaseId ∧ second < r.expiresAt := by
          simpa [PostgresTaskLeaseRepo.renews] using hsel
        exact absurd hlive (Int.not_lt.mpr (h r hr hrl))
      cases hf : t.rows.find? fun r => r.leaseId = leaseId with
      | none =>
          have hother : ∀ r ∈ t.rows, r.leaseId ≠ leaseId := by simpa using hf
          rw [hnone fun r hr hrl => absurd hrl (hother r hr)]
      | some r =>
          obtain ⟨hr, hrl⟩ := (find?_leaseId_eq_some_iff hu).mp hf
          by_cases hlive : second < r.expiresAt
          · have hsome : t.rows.find? (PostgresTaskLeaseRepo.renews leaseId second) = some r := by
              cases hg : t.rows.find? (PostgresTaskLeaseRepo.renews leaseId second) with
              | none =>
                  refine absurd (List.find?_eq_none.mp hg r hr) ?_
                  simp [PostgresTaskLeaseRepo.renews, hrl, hlive]
              | some q =>
                  have hq : q.leaseId = leaseId ∧ second < q.expiresAt := by
                    simpa [PostgresTaskLeaseRepo.renews] using List.find?_some hg
                  rw [hu q (List.mem_of_find?_eq_some hg) r hr (hq.1.trans hrl.symm)]
            have hsel : PostgresTaskLeaseRepo.renews leaseId second r := by
              simp [PostgresTaskLeaseRepo.renews, hrl, hlive]
            rw [hsome]
            refine Eq.trans ?_ (if_pos hlive).symm
            refine Prod.ext ?_ (Table.ext (postgres_extend_rows hu hr hrl hlive))
            exact congrArg Except.ok (if_pos hsel)
          · have hone : ∀ q ∈ t.rows, q.leaseId = leaseId → q.expiresAt ≤ second := by
              intro q hq hql
              rw [hu q hq r hr (hql.trans hrl.symm)]
              exact Int.not_lt.mp hlive
            rw [hnone hone]
            exact (if_neg hlive).symm

/-- `release` deletes the row of the lease. -/
theorem release_eq (kind : TaskLeaseRepoKind) (hu : IdsUnique t) :
    kind.release leaseId t = t.filter fun r => r.leaseId ≠ leaseId := by
  cases kind with
  | postgres => rfl
  | fakes =>
      show InMemoryTaskLeaseRepo.release leaseId t = _
      unfold InMemoryTaskLeaseRepo.release
      cases hf : t.rows.find? fun r => r.leaseId = leaseId with
      | none =>
          have hother : ∀ r ∈ t.rows, r.leaseId ≠ leaseId := by simpa using hf
          exact Table.ext (List.filter_eq_self.mpr fun r hr => by simpa using hother r hr).symm
      | some r =>
          obtain ⟨hr, hrl⟩ := (find?_leaseId_eq_some_iff hu).mp hf
          refine Table.ext (List.filter_congr fun q hq => ?_)
          by_cases hqk : q.taskId = r.taskId
          · simp [t.eq_of_key_eq hq hr hqk, hrl]
          · have hql : q.leaseId ≠ leaseId := fun h => hqk (by rw [hu q hq r hr (h.trans hrl.symm)])
            simp [hqk, hql]

/-- `get_active_lease` is the row of the task if it is unexpired. -/
theorem getActiveLease_eq (kind : TaskLeaseRepoKind) :
    kind.getActiveLease taskId now t = (t.get? taskId).filter fun r => now < r.expiresAt := by
  cases kind with
  | fakes =>
      show InMemoryTaskLeaseRepo.getActiveLease taskId now t = _
      unfold InMemoryTaskLeaseRepo.getActiveLease
      cases hg : t.get? taskId with
      | none => rfl
      | some r =>
          by_cases hlive : now < r.expiresAt
          · rw [Option.filter_some_pos (by simpa using hlive)]
            exact if_neg (Int.not_le.mpr hlive)
          · rw [Option.filter_some_neg (by simpa using hlive)]
            exact if_pos (Int.not_lt.mp hlive)
  | postgres =>
      show t.rows.find? (fun r => decide (r.taskId = taskId) && decide (now < r.expiresAt)) = _
      cases hg : t.get? taskId with
      | none =>
          refine List.find?_eq_none.mpr fun r hr => ?_
          simp [Table.get?_eq_none_iff.mp hg r hr]
      | some r =>
          obtain ⟨hr, hrk⟩ := Table.get?_eq_some_iff.mp hg
          have honly : ∀ q ∈ t.rows, q.taskId = taskId → q = r :=
            fun q hq hqk => t.eq_of_key_eq hq hr (hqk.trans hrk.symm)
          by_cases hlive : now < r.expiresAt
          · rw [Option.filter_some_pos (by simpa using hlive)]
            cases hf : t.rows.find? fun q => decide (q.taskId = taskId) && decide (now < q.expiresAt) with
            | none => exact absurd (List.find?_eq_none.mp hf r hr) (by simp [hrk, hlive])
            | some q =>
                have hq : q.taskId = taskId ∧ now < q.expiresAt := by
                  simpa using List.find?_some hf
                rw [honly q (List.mem_of_find?_eq_some hf) hq.1]
          · rw [Option.filter_some_neg (by simpa using hlive)]
            refine List.find?_eq_none.mpr fun q hq hsel => hlive ?_
            obtain ⟨hqk, hql⟩ : q.taskId = taskId ∧ now < q.expiresAt := by simpa using hsel
            exact honly q hq hqk ▸ hql

/-! ### The leases of the system model

`Store.leases` has the rows without their times; there an expired lease is deleted by a step of
its own, and a renewal is no step at all. -/

/-- The store has the leases of the table. -/
def Stores (s : Store) (t : TaskLeases) : Prop :=
  s.leases.rows = t.rows.map fun r => ⟨r.leaseId, r.taskId, r.workerId⟩

theorem Stores.get?_isSome {s : Store} (h : Stores s t) (taskId : String) :
    (s.leases.get? taskId).isSome = (t.get? taskId).isSome := by
  unfold Table.get?
  rw [h, List.find?_map, Option.isSome_map]
  rfl

theorem Stores.erase {s : Store} (h : Stores s t) (taskId : String) :
    Stores { s with leases := s.leases.erase taskId } (t.erase taskId) := by
  show s.leases.rows.filter _ = (t.rows.filter _).map _
  rw [h, List.filter_map]
  rfl

/-- A granted lease is the deletion of what has expired, then `tryAcquireLease`. -/
theorem Stores.tryAcquire {s : Store} (kind : TaskLeaseRepoKind) (h : Stores s t)
    (hfresh : ∀ r ∈ t.rows, r.leaseId ≠ leaseId) (hv : vacant taskId first t) :
    ∃ s', tryAcquireLease leaseId taskId workerId
        { s with leases := s.leases.erase taskId } = some s' ∧
      Stores s' (kind.tryAcquire leaseId taskId workerId ttl first second t).2 := by
  have hfree : (s.leases.erase taskId).get? taskId = none := by rw [Table.get?_erase, if_pos rfl]
  have hfree' : (t.erase taskId).get? taskId = none := by rw [Table.get?_erase, if_pos rfl]
  refine ⟨_, by rw [tryAcquireLease, Table.insert?_of_get?_none hfree]; rfl, ?_⟩
  rw [tryAcquire_eq kind hfresh, if_pos hv]
  show (Table.upsert _ _).rows = (Table.upsert _ _).rows.map _
  rw [Table.rows_upsert_of_get?_none hfree, Table.rows_upsert_of_get?_none hfree', List.map_append,
    ← h.erase taskId]
  rfl

/-- A refused lease is a refused `tryAcquireLease`. -/
theorem Stores.tryAcquire_none {s : Store} (h : Stores s t) (hv : ¬ vacant taskId first t) :
    tryAcquireLease leaseId taskId workerId s = none := by
  obtain ⟨r, hr, -⟩ := get?_of_not_vacant hv
  have hsome : (s.leases.get? taskId).isSome := by rw [h.get?_isSome, hr]; rfl
  obtain ⟨l, hl⟩ := Option.isSome_iff_exists.mp hsome
  rw [tryAcquireLease, Table.insert?_of_get?_some hl]
  rfl

theorem Stores.renew {s : Store} (kind : TaskLeaseRepoKind) (h : Stores s t) (hu : IdsUnique t) :
    Stores s (kind.renew leaseId ttl first second t).2 := by
  rw [renew_eq kind hu]
  cases hf : t.rows.find? fun r => r.leaseId = leaseId with
  | none => exact h
  | some r =>
      have hget : ∀ expiresAt, t.get? ({ r with expiresAt } : TaskLeaseRow).taskId = some r :=
        fun _ => Table.get?_of_mem (List.mem_of_find?_eq_some hf)
      dsimp only
      split
      · show s.leases.rows = (Table.upsert _ _).rows.map _
        rw [h, Table.rows_upsert_of_get?_some (hget _), List.map_map]
        refine List.map_congr_left fun q hq => ?_
        by_cases hqk : q.taskId = r.taskId
        · obtain rfl := t.eq_of_key_eq hq (List.mem_of_find?_eq_some hf) hqk
          simp
        · simp [hqk]
      · exact h

theorem Stores.release {s : Store} (kind : TaskLeaseRepoKind) (h : Stores s t) (hu : IdsUnique t) :
    Stores (releaseLease leaseId s) (kind.release leaseId t) := by
  -- both search for the id, and what is found is erased by its task
  have hfind : s.leases.rows.find? (fun l => l.leaseId = leaseId) =
      (t.rows.find? fun r => r.leaseId = leaseId).map
        fun r => ⟨r.leaseId, r.taskId, r.workerId⟩ := by
    rw [h, List.find?_map]
    rfl
  have hrelease : kind.release leaseId t = InMemoryTaskLeaseRepo.release leaseId t :=
    (release_eq kind hu).trans (release_eq .fakes hu).symm
  rw [hrelease, releaseLease, hfind, InMemoryTaskLeaseRepo.release]
  cases t.rows.find? fun r => r.leaseId = leaseId with
  | none => exact h
  | some r => exact h.erase r.taskId

/-! ### One call -/

/-- What a call finds in the table or hands out. -/
theorem perform_rows (kind : TaskLeaseRepoKind) {a : LeaseAction} (hu : IdsUnique t)
    (hfresh : ∀ id ∈ (LeaseSys.issuedBy a).map Prod.fst, ∀ r ∈ t.rows, r.leaseId ≠ id)
    {r : TaskLeaseRow} (hr : r ∈ (kind.perform a t).2.rows) :
    (∃ q ∈ t.rows, q.leaseId = r.leaseId ∧ q.taskId = r.taskId) ∨
      (r.leaseId, r.taskId) ∈ LeaseSys.issuedBy a := by
  have hold : r ∈ t.rows → ∃ q ∈ t.rows, q.leaseId = r.leaseId ∧ q.taskId = r.taskId :=
    fun h => ⟨r, h, rfl, rfl⟩
  obtain ⟨call, first, second⟩ := a
  cases call with
  | tryAcquire leaseId taskId workerId ttl =>
      have hr : r ∈ (kind.tryAcquire leaseId taskId workerId ttl first second t).2.rows := hr
      rw [tryAcquire_eq kind (hfresh leaseId (List.mem_singleton.mpr rfl))] at hr
      split at hr
      · rcases Table.mem_upsert.mp hr with rfl | ⟨hr, -⟩
        · exact Or.inr (List.mem_singleton.mpr rfl)
        · exact Or.inl (hold (Table.mem_erase.mp hr).1)
      · exact Or.inl (hold hr)
  | renew leaseId ttl =>
      have hr : r ∈ (kind.renew leaseId ttl first second t).2.rows := hr
      rw [renew_eq kind hu] at hr
      cases hf : t.rows.find? fun r => r.leaseId = leaseId with
      | none =>
          rw [hf] at hr
          exact Or.inl (hold hr)
      | some q =>
          rw [hf] at hr
          dsimp only at hr
          split at hr
          · rcases Table.mem_upsert.mp hr with rfl | ⟨hr, -⟩
            · exact Or.inl ⟨q, List.mem_of_find?_eq_some hf, rfl, rfl⟩
            · exact Or.inl (hold hr)
          · exact Or.inl (hold hr)
  | release leaseId =>
      have hr : r ∈ (kind.release leaseId t).rows := hr
      rw [release_eq kind hu] at hr
      exact Or.inl (hold (Table.mem_filter.mp hr).1)
  | getActiveLease taskId => exact Or.inl (hold hr)

/-- A lease is granted only when every row of its task has expired. -/
theorem tryAcquire_some (kind : TaskLeaseRepoKind) (hfresh : ∀ r ∈ t.rows, r.leaseId ≠ leaseId)
    {lease : TaskLeaseRow}
    (h : (kind.tryAcquire leaseId taskId workerId ttl first second t).1 = some lease) :
    ∀ r ∈ t.rows, r.taskId = taskId → r.expiresAt < first := by
  rw [tryAcquire_eq kind hfresh] at h
  split at h
  · next hv => exact vacant_iff.mp hv
  · exact absurd h (by simp)

/-- A renewal that succeeds finds the lease unexpired. -/
theorem renew_ok (kind : TaskLeaseRepoKind) (hu : IdsUnique t) {lease : TaskLeaseRow}
    (h : (kind.renew leaseId ttl first second t).1 = .ok lease) :
    ∃ r ∈ t.rows, r.leaseId = leaseId ∧ kind.checkedAt first second < r.expiresAt := by
  rw [renew_eq kind hu] at h
  cases hf : t.rows.find? fun r => r.leaseId = leaseId with
  | none =>
      rw [hf] at h
      exact absurd h (by simp)
  | some r =>
      rw [hf] at h
      dsimp only at h
      split at h
      · next hlive =>
        exact ⟨r, List.mem_of_find?_eq_some hf, by simpa using List.find?_some hf, hlive⟩
      · exact absurd h (by simp)

/-- `renew` leaves the leases with another id alone. -/
theorem renew_others (kind : TaskLeaseRepoKind) (hu : IdsUnique t) {r : TaskLeaseRow}
    (hr : r.leaseId ≠ leaseId) :
    r ∈ (kind.renew leaseId ttl first second t).2.rows ↔ r ∈ t.rows := by
  rw [renew_eq kind hu]
  cases hf : t.rows.find? fun r => r.leaseId = leaseId with
  | none => exact Iff.rfl
  | some q =>
      obtain ⟨hq, hql⟩ := (find?_leaseId_eq_some_iff hu).mp hf
      dsimp only
      split
      · rw [Table.mem_upsert]
        refine ⟨fun h => h.elim (fun h => absurd (h ▸ hql) hr) And.left, fun h => Or.inr ⟨h, ?_⟩⟩
        exact fun hk => hr (t.eq_of_key_eq h hq hk ▸ hql)
      · exact Iff.rfl

/-- `release` leaves the leases with another id alone. -/
theorem release_others (kind : TaskLeaseRepoKind) (hu : IdsUnique t) {r : TaskLeaseRow}
    (hr : r.leaseId ≠ leaseId) : r ∈ (kind.release leaseId t).rows ↔ r ∈ t.rows := by
  rw [release_eq kind hu, Table.mem_filter]
  exact and_iff_left (by simpa using hr)

end TaskLeaseRepoKind

open TaskLeaseRepoKind

namespace LeaseSys

/-! ### Every sequence of calls

The invariant is that each row is a lease that was issued and not given up.
-/

/-- The rows have been handed out, under pairwise different ids. -/
structure Sound (σ : LeaseSys) : Prop where
  issued : ∀ r ∈ σ.leases.rows, (r.leaseId, r.taskId) ∈ σ.issued
  nodup : (σ.issued.map Prod.fst).Nodup

namespace Sound

variable {σ : LeaseSys}

theorem taskId_eq (h : Sound σ) {id task task' : String} (ht : (id, task) ∈ σ.issued)
    (ht' : (id, task') ∈ σ.issued) : task = task' :=
  congrArg Prod.snd (List.inj_on_of_nodup_map h.nodup ht ht' rfl)

theorem idsUnique (h : Sound σ) : IdsUnique σ.leases := by
  intro r hr q hq hid
  refine σ.leases.eq_of_key_eq hr hq ?_
  exact h.taskId_eq (h.issued r hr) (hid ▸ h.issued q hq)

theorem fresh (h : Sound σ) {id : String} (hid : id ∉ σ.issued.map Prod.fst) :
    ∀ r ∈ σ.leases.rows, r.leaseId ≠ id := by
  rintro r hr rfl
  exact hid (List.mem_map_of_mem (h.issued r hr))

theorem init (t₀ : Time) : Sound { clock := t₀ } := ⟨by simp [Table.empty], List.nodup_nil⟩

end Sound

theorem fresh_of_enabled {σ : LeaseSys} {a : LeaseAction} (ha : σ.enabled a) :
    ∀ id ∈ (issuedBy a).map Prod.fst, id ∉ σ.issued.map Prod.fst := by
  intro id hid
  obtain ⟨call, first, second⟩ := a
  cases call with
  | tryAcquire leaseId taskId workerId ttl =>
      obtain rfl : id = leaseId := List.mem_singleton.mp hid
      simpa [enabled] using (Bool.and_eq_true_iff.mp ha).2
  | renew | release | getActiveLease => exact absurd hid (by simp [issuedBy])

theorem Sound.step {σ : LeaseSys} (kind : TaskLeaseRepoKind) (a : LeaseAction) (h : Sound σ) :
    Sound (σ.step kind a) := by
  unfold LeaseSys.step
  split
  · next ha =>
    have hfresh := fresh_of_enabled ha
    refine ⟨fun r hr => ?_, ?_⟩
    · rcases perform_rows kind h.idsUnique (fun id hid => h.fresh (hfresh id hid)) hr with
        ⟨q, hq, hid, htask⟩ | hnew
      · exact List.mem_append_left _ (hid ▸ htask ▸ h.issued q hq)
      · exact List.mem_append_right _ hnew
    · show ((σ.issued ++ issuedBy a).map Prod.fst).Nodup
      rw [List.map_append, List.nodup_append]
      refine ⟨h.nodup, ?_, fun id hid id' hid' heq => hfresh id' hid' (heq ▸ hid)⟩
      cases hc : a.call <;> simp [issuedBy, hc]
  · exact h

theorem run_sound (kind : TaskLeaseRepoKind) (t₀ : Time) (as : List LeaseAction) :
    Sound (run (step kind) { clock := t₀ } as) :=
  run_induction (fun _ => True) (fun _ a _ h => h.step kind a) (Sound.init t₀) fun _ _ => trivial

/-- What a call does not do to the leases of others. -/
structure Excludes (kind : TaskLeaseRepoKind) (σ : LeaseSys) (a : LeaseAction) : Prop where
  /-- A task has at most one row. -/
  onePerTask : ∀ taskId, (σ.leases.rows.filter fun r => r.taskId = taskId).length ≤ 1
  /-- A granted lease finds no unexpired one on its task. -/
  acquires : σ.enabled a → ∀ leaseId taskId workerId ttl lease,
    a.call = .tryAcquire leaseId taskId workerId ttl →
    (kind.perform a σ.leases).1 = .tried (some lease) →
    ∀ r ∈ σ.leases.rows, r.taskId = taskId → r.expiresAt < a.first
  /-- A renewed lease was unexpired at the reading it was checked against. -/
  renews : ∀ leaseId ttl lease, a.call = .renew leaseId ttl →
    (kind.perform a σ.leases).1 = .renewed (.ok lease) →
    ∃ r ∈ σ.leases.rows, r.leaseId = leaseId ∧ kind.checkedAt a.first a.second < r.expiresAt
  /-- A call under one lease id leaves the rows with another one alone. -/
  others : ∀ leaseId, a.call = .release leaseId ∨ (∃ ttl, a.call = .renew leaseId ttl) →
    ∀ r, r.leaseId ≠ leaseId → (r ∈ (σ.step kind a).leases.rows ↔ r ∈ σ.leases.rows)

theorem Sound.excludes {σ : LeaseSys} (kind : TaskLeaseRepoKind) (a : LeaseAction) (h : Sound σ) :
    Excludes kind σ a where
  onePerTask := σ.leases.length_filter_key_le_one
  acquires := by
    obtain ⟨call, first, second⟩ := a
    rintro ha leaseId taskId workerId ttl lease rfl hlease
    have hfresh := h.fresh (fresh_of_enabled ha leaseId (List.mem_singleton.mpr rfl))
    exact tryAcquire_some kind hfresh (LeaseReply.tried.inj hlease)
  renews := by
    obtain ⟨call, first, second⟩ := a
    rintro leaseId ttl lease rfl hlease
    exact renew_ok kind h.idsUnique (LeaseReply.renewed.inj hlease)
  others := by
    obtain ⟨call, first, second⟩ := a
    intro leaseId hcall r hr
    unfold LeaseSys.step
    split
    · rcases hcall with rfl | ⟨ttl, rfl⟩
      · exact release_others kind h.idsUnique hr
      · exact renew_others kind h.idsUnique hr
    · exact Iff.rfl

/-- The clock stands still within a renewal. -/
def RenewsAtOnce (a : LeaseAction) : Prop :=
  match a.call with
  | .renew _ _ => a.first = a.second
  | _ => True

/-- The implementations answer alike and leave the same table. -/
theorem perform_eq {σ : LeaseSys} {a : LeaseAction} (h : Sound σ) (ha : σ.enabled a)
    (honce : RenewsAtOnce a) :
    TaskLeaseRepoKind.fakes.perform a σ.leases = TaskLeaseRepoKind.postgres.perform a σ.leases := by
  obtain ⟨call, first, second⟩ := a
  cases call with
  | tryAcquire leaseId taskId workerId ttl =>
      have hfresh := h.fresh (fresh_of_enabled ha leaseId (List.mem_singleton.mpr rfl))
      simp only [TaskLeaseRepoKind.perform, tryAcquire_eq _ hfresh]
  | renew leaseId ttl =>
      obtain rfl : first = second := honce
      simp only [TaskLeaseRepoKind.perform, renew_eq _ h.idsUnique]
      rfl
  | release leaseId => simp only [TaskLeaseRepoKind.perform, release_eq _ h.idsUnique]
  | getActiveLease taskId => simp only [TaskLeaseRepoKind.perform, getActiveLease_eq]

theorem run_agree (as : List LeaseAction) (honce : ∀ a ∈ as, RenewsAtOnce a) {σ : LeaseSys}
    (h : Sound σ) : replies .fakes σ as = replies .postgres σ as ∧
      run (step .fakes) σ as = run (step .postgres) σ as := by
  induction as generalizing σ with
  | nil => exact ⟨rfl, rfl⟩
  | cons a as ih =>
      have hstep : σ.step .fakes a = σ.step .postgres a := by
        unfold LeaseSys.step
        split
        · next ha => rw [perform_eq h ha (honce a (List.mem_cons_self ..))]
        · rfl
      have hreply : reply .fakes σ a = reply .postgres σ a := by
        unfold reply
        split
        · next ha => rw [perform_eq h ha (honce a (List.mem_cons_self ..))]
        · rfl
      obtain ⟨hreplies, hrun⟩ :=
        ih (fun b hb => honce b (List.mem_cons_of_mem _ hb)) (h.step .fakes a)
      refine ⟨?_, ?_⟩
      · show reply .fakes σ a ++ replies .fakes (σ.step .fakes a) as =
          reply .postgres σ a ++ replies .postgres (σ.step .postgres a) as
        rw [hreply, hreplies, hstep]
      · rw [run_cons, run_cons, hrun, hstep]

/-- **Leases exclude**, and the implementations agree as long as the clock stands still within
each renewal. -/
theorem run_excludes (t₀ : Time) (as : List LeaseAction) :
    (∀ kind, Along (step kind) (Excludes kind) { clock := t₀ } as ∧
      ∀ taskId, ((run (step kind) { clock := t₀ } as).leases.rows.filter
        fun r => r.taskId = taskId).length ≤ 1) ∧
    ((∀ a ∈ as, RenewsAtOnce a) →
      replies .fakes { clock := t₀ } as = replies .postgres { clock := t₀ } as ∧
      run (step .fakes) { clock := t₀ } as = run (step .postgres) { clock := t₀ } as) := by
  refine ⟨fun kind => ⟨?_, Table.length_filter_key_le_one _⟩, fun honce =>
    run_agree as honce (Sound.init t₀)⟩
  exact along_of_invariant (motive := Sound) (fun _ => True) (fun _ a _ h => h.step kind a)
    (fun _ a _ h => h.excludes kind a) (Sound.init t₀) fun _ _ => trivial

/-- A renewal during which the lease expires: the database refuses it, the dictionary does not. -/
def straddlingRenewal : List LeaseAction :=
  [{ call := .tryAcquire "lease" "task" "worker" 10, first := 0, second := 0 },
    { call := .renew "lease" 10, first := 9, second := 11 }]

theorem straddlingRenewal_disagrees :
    ¬ ∀ as, replies .fakes { clock := 0 } as = replies .postgres { clock := 0 } as := by
  intro h
  exact absurd (h straddlingRenewal) (by decide)

/-! ### One instant

The repositories disagree at the instant of expiry only.
-/

/-- `try_acquire`, `renew` and `get_active_lease`, called at one instant, agree on whether the
lease of the task has expired. -/
structure AgreeOnExpiry (kind : TaskLeaseRepoKind) (σ : LeaseSys) (taskId : String) (now : Time) :
    Prop where
  acquires : ∀ leaseId workerId ttl, leaseId ∉ σ.issued.map Prod.fst →
    ((kind.tryAcquire leaseId taskId workerId ttl now now σ.leases).1.isSome ↔
      kind.getActiveLease taskId now σ.leases = none)
  renews : ∀ leaseId ttl, (leaseId, taskId) ∈ σ.issued →
    ((kind.renew leaseId ttl now now σ.leases).1.isOk ↔
      ∃ r, kind.getActiveLease taskId now σ.leases = some r ∧ r.leaseId = leaseId)

theorem exists_fresh (ids : List String) : ∃ id, id ∉ ids := by
  have : Infinite String := Infinite.of_injective (fun n => String.ofList (List.replicate n 'a'))
    fun m n h => by simpa using congrArg List.length (String.ofList_inj.mp h)
  obtain ⟨id, hid⟩ := Infinite.exists_notMem_finset ids.toFinset
  exact ⟨id, by simpa using hid⟩

theorem getActiveLease_eq_none_iff (kind : TaskLeaseRepoKind) {t : TaskLeases} {taskId : String}
    {now : Time} : kind.getActiveLease taskId now t = none ↔
      ∀ r ∈ t.rows, r.taskId = taskId → r.expiresAt ≤ now := by
  rw [getActiveLease_eq, Option.filter_eq_none_iff]
  constructor
  · intro h r hr hrk
    simpa using h r (Table.get?_eq_some_iff.mpr ⟨hr, hrk⟩)
  · intro h r hr
    obtain ⟨hr, hrk⟩ := Table.get?_eq_some_iff.mp hr
    simpa using h r hr hrk

theorem getActiveLease_eq_some_iff (kind : TaskLeaseRepoKind) {t : TaskLeases} {taskId : String}
    {now : Time} {r : TaskLeaseRow} : kind.getActiveLease taskId now t = some r ↔
      (r ∈ t.rows ∧ r.taskId = taskId) ∧ now < r.expiresAt := by
  rw [getActiveLease_eq, Option.filter_eq_some_iff, Table.get?_eq_some_iff, decide_eq_true_eq]

theorem tryAcquire_isSome_iff (kind : TaskLeaseRepoKind) {t : TaskLeases}
    {leaseId taskId workerId : String} {ttl first second : Time}
    (hfresh : ∀ r ∈ t.rows, r.leaseId ≠ leaseId) :
    (kind.tryAcquire leaseId taskId workerId ttl first second t).1.isSome ↔
      ∀ r ∈ t.rows, r.taskId = taskId → r.expiresAt < first := by
  rw [tryAcquire_eq kind hfresh, ← vacant_iff]
  split
  · next hv => exact iff_of_true rfl hv
  · next hv => exact iff_of_false (by simp) hv

theorem renew_isOk_iff (kind : TaskLeaseRepoKind) {t : TaskLeases} (hu : IdsUnique t)
    {leaseId : String} {ttl now : Time} :
    (kind.renew leaseId ttl now now t).1.isOk ↔
      ∃ r ∈ t.rows, r.leaseId = leaseId ∧ now < r.expiresAt := by
  have hchecked : kind.checkedAt now now = now := by cases kind <;> rfl
  constructor
  · intro h
    obtain ⟨lease, h⟩ := except_isOk_iff.mp h
    exact hchecked ▸ renew_ok kind hu h
  · rintro ⟨r, hr, hrl, hlive⟩
    rw [renew_eq kind hu, (find?_leaseId_eq_some_iff hu).mpr ⟨hr, hrl⟩, hchecked]
    dsimp only
    rw [if_pos hlive]
    rfl

/-- A renewal succeeds exactly if the lease of the task is active and the renewer's. -/
theorem Sound.renews {σ : LeaseSys} (h : Sound σ) (kind : TaskLeaseRepoKind)
    {leaseId taskId : String} {ttl now : Time} (hid : (leaseId, taskId) ∈ σ.issued) :
    (kind.renew leaseId ttl now now σ.leases).1.isOk ↔
      ∃ r, kind.getActiveLease taskId now σ.leases = some r ∧ r.leaseId = leaseId := by
  rw [renew_isOk_iff kind h.idsUnique]
  constructor
  · rintro ⟨r, hr, rfl, hlive⟩
    have htask : r.taskId = taskId := h.taskId_eq (h.issued r hr) hid
    exact ⟨r, (getActiveLease_eq_some_iff kind).mpr ⟨⟨hr, htask⟩, hlive⟩, rfl⟩
  · rintro ⟨r, hr, hrl⟩
    obtain ⟨⟨hr, -⟩, hlive⟩ := (getActiveLease_eq_some_iff kind).mp hr
    exact ⟨r, hr, hrl, hlive⟩

/-- The operations agree at every instant but the one at which the lease of the task expires:
`get_active_lease` and `renew` take it for expired there, `try_acquire` does not delete it. -/
theorem agreeOnExpiry_iff (kind : TaskLeaseRepoKind) (t₀ : Time) (as : List LeaseAction)
    (taskId : String) (now : Time) :
    AgreeOnExpiry kind (run (step kind) { clock := t₀ } as) taskId now ↔
      ∀ r ∈ (run (step kind) { clock := t₀ } as).leases.rows, r.taskId = taskId →
        r.expiresAt ≠ now := by
  have h := run_sound kind t₀ as
  generalize run (step kind) { clock := t₀ } as = σ at h ⊢
  constructor
  · intro hagree r hr hrk hexp
    obtain ⟨leaseId, hfresh⟩ := exists_fresh (σ.issued.map Prod.fst)
    have hnone : kind.getActiveLease taskId now σ.leases = none := by
      refine (getActiveLease_eq_none_iff kind).mpr fun q hq hqk => ?_
      rw [σ.leases.eq_of_key_eq hq hr (hqk.trans hrk.symm)]
      exact le_of_eq hexp
    have hsome := (hagree.acquires leaseId "" 0 hfresh).mpr hnone
    exact ne_of_lt ((tryAcquire_isSome_iff kind (h.fresh hfresh)).mp hsome r hr hrk) hexp
  · intro hne
    refine ⟨fun leaseId workerId ttl hfresh => ?_, fun leaseId ttl hid => h.renews kind hid⟩
    rw [tryAcquire_isSome_iff kind (h.fresh hfresh), getActiveLease_eq_none_iff]
    refine forall₃_congr fun r hr hrk => ?_
    exact ⟨le_of_lt, fun hle => lt_of_le_of_ne hle (hne r hr hrk)⟩

/-- At the instant of its expiry a lease is not active, and still blocks its task. -/
theorem expiringLease_disagrees :
    ¬ ∀ kind as taskId now, AgreeOnExpiry kind (run (step kind) { clock := 0 } as) taskId now := by
  intro h
  have hagree := (h .postgres
    [{ call := .tryAcquire "lease" "task" "worker" 10, first := 0, second := 0 }] "task" 10).acquires
      "next" "other" 10 (by decide)
  exact absurd hagree (by decide)

end LeaseSys

end CartoonDemo
