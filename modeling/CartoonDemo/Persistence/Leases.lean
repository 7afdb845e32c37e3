import CartoonDemo.Persistence.Store
import CartoonDemo.Library.Log

/-!
# CartoonDemo.Persistence.Leases

The two implementations of the **task lease repository**, with the times that the system
model leaves out: a row carries `acquired_at` and `expires_at`, and every operation decides
for itself, against a clock reading of its own, whether the row has expired.

`PostgresTaskLeaseRepo` is the SQL over `task_leases` (primary key on the lease id, unique
index on the task id); `InMemoryTaskLeaseRepo` is the dictionary behind the tests. An
operation that reads the clock twice takes both readings, in the order of its own code.
-/

namespace CartoonDemo

/-- A row of `task_leases`. -/
structure TaskLeaseRow where
  leaseId : String
  taskId : String
  workerId : String
  acquiredAt : Time
  expiresAt : Time
  deriving DecidableEq, Repr

/-- The table, with its unique index on `task_id`. -/
abbrev TaskLeases := Table TaskLeaseRow.taskId

def leaseNotFound (leaseId : String) : PyException :=
  .persistenceNotFound ("Lease " ++ leaseId ++ " not found")

namespace PostgresTaskLeaseRepo

/-- `_delete_expired`. -/
def deleteExpired (now : Time) (taskId : String) (t : TaskLeases) : TaskLeases :=
  t.filter fun r => !(r.taskId = taskId && r.expiresAt < now)

/-- `_insert_lease`; `none` is a `UniqueViolation`, of the primary key or of the index. -/
def insertLease (leaseId taskId workerId : String) (ttl now : Time) (t : TaskLeases) :
    Option (TaskLeaseRow × TaskLeases) :=
  let lease := { leaseId, taskId, workerId, acquiredAt := now, expiresAt := now + ttl }
  if t.rows.any fun r => r.leaseId = leaseId then none
  else (t.insert? lease).map fun t => (lease, t)

/-- `try_acquire`: `first` is read for the deletion, `second` for the new row. -/
def tryAcquire (leaseId taskId workerId : String) (ttl first second : Time) (t : TaskLeases) :
    Option TaskLeaseRow × TaskLeases :=
  let t := deleteExpired first taskId t
  match insertLease leaseId taskId workerId ttl second t with
  | none => (none, t)
  | some (lease, t) => (some lease, t)

/-- The `WHERE` clause of `renew`. -/
def renews (leaseId : String) (now : Time) (r : TaskLeaseRow) : Bool :=
  r.leaseId = leaseId && now < r.expiresAt

/-- `renew`: `first` is read for the new expiry, `second` for the `WHERE` clause. -/
def renew (leaseId : String) (ttl first second : Time) (t : TaskLeases) :
    Except PyException TaskLeaseRow × TaskLeases :=
  let extend := fun r : TaskLeaseRow =>
    if renews leaseId second r then { r with expiresAt := first + ttl } else r
  match t.rows.find? (renews leaseId second) with
  | none => (.error (leaseNotFound leaseId), t)
  | some r =>
      (.ok (extend r), t.mapRows extend fun q => by
        by_cases h : renews leaseId second q <;> simp [extend, h])

/-- `release`. -/
def release (leaseId : String) (t : TaskLeases) : TaskLeases := t.filter fun r => r.leaseId ≠ leaseId

/-- `get_active_lease`. -/
def getActiveLease (taskId : String) (now : Time) (t : TaskLeases) : Option TaskLeaseRow :=
  t.rows.find? fun r => r.taskId = taskId && now < r.expiresAt

end PostgresTaskLeaseRepo

namespace InMemoryTaskLeaseRepo

/-- `_delete_expired`. -/
def deleteExpired (now : Time) (taskId : String) (t : TaskLeases) : TaskLeases :=
  match t.get? taskId with
  | none => t
  | some lease => if lease.expiresAt < now then t.erase taskId else t

/-- `try_acquire`: `first` is read for the deletion, `second` for the new lease. -/
def tryAcquire (leaseId taskId workerId : String) (ttl first second : Time) (t : TaskLeases) :
    Option TaskLeaseRow × TaskLeases :=
  let t := deleteExpired first taskId t
  if (t.get? taskId).isSome then (none, t)
  else
    let lease :=
      { leaseId, taskId, workerId, acquiredAt := second, expiresAt := second + ttl }
    (some lease, t.upsert lease)

/-- `renew`: `first` is read for the expiry check, `second` for the new expiry. -/
def renew (leaseId : String) (ttl first second : Time) (t : TaskLeases) :
    Except PyException TaskLeaseRow × TaskLeases :=
  match t.rows.find? fun r => r.leaseId = leaseId with
  | none => (.error (leaseNotFound leaseId), t)
  | some lease =>
      if lease.expiresAt ≤ first then (.error (leaseNotFound leaseId), t)
      else
        let renewed := { lease with expiresAt := second + ttl }
        (.ok renewed, t.upsert renewed)

/-- `release`. -/
def release (leaseId : String) (t : TaskLeases) : TaskLeases :=
  match t.rows.find? fun r => r.leaseId = leaseId with
  | none => t
  | some lease => t.erase lease.taskId

/-- `get_active_lease`. -/
def getActiveLease (taskId : String) (now : Time) (t : TaskLeases) : Option TaskLeaseRow :=
  match t.get? taskId with
  | none => none
  | some lease => if lease.expiresAt ≤ now then none else some lease

end InMemoryTaskLeaseRepo

/-! ### Calls -/

inductive TaskLeaseRepoKind
  | fakes
  | postgres
  deriving DecidableEq, Repr

/-- A call of the repository. `leaseId` of `try_acquire` is what `uuid4` returns there. -/
inductive LeaseCall
  | tryAcquire (leaseId taskId workerId : String) (ttl : Time)
  | renew (leaseId : String) (ttl : Time)
  | release (leaseId : String)
  | getActiveLease (taskId : String)
  deriving DecidableEq, Repr

/-- What a call returns or raises. -/
inductive LeaseReply
  | tried (lease : Option TaskLeaseRow)
  | renewed (lease : Except PyException TaskLeaseRow)
  | released
  | active (lease : Option TaskLeaseRow)
  deriving DecidableEq

/-- A call with the readings of the clock that it makes. -/
structure LeaseAction where
  call : LeaseCall
  first : Time
  second : Time
  deriving DecidableEq, Repr

namespace TaskLeaseRepoKind

def tryAcquire : TaskLeaseRepoKind → (leaseId taskId workerId : String) →
    (ttl first second : Time) → TaskLeases → Option TaskLeaseRow × TaskLeases
  | fakes => InMemoryTaskLeaseRepo.tryAcquire
  | postgres => PostgresTaskLeaseRepo.tryAcquire

def renew : TaskLeaseRepoKind → (leaseId : String) → (ttl first second : Time) → TaskLeases →
    Except PyException TaskLeaseRow × TaskLeases
  | fakes => InMemoryTaskLeaseRepo.renew
  | postgres => PostgresTaskLeaseRepo.renew

def release : TaskLeaseRepoKind → (leaseId : String) → TaskLeases → TaskLeases
  | fakes => InMemoryTaskLeaseRepo.release
  | postgres => PostgresTaskLeaseRepo.release

def getActiveLease : TaskLeaseRepoKind → (taskId : String) → Time → TaskLeases →
    Option TaskLeaseRow
  | fakes => InMemoryTaskLeaseRepo.getActiveLease
  | postgres => PostgresTaskLeaseRepo.getActiveLease

/-- The reply to a call and the table after it. -/
def perform (kind : TaskLeaseRepoKind) (a : LeaseAction) (t : TaskLeases) :
    LeaseReply × TaskLeases :=
  match a.call with
  | .tryAcquire leaseId taskId workerId ttl =>
      let (lease, t) := kind.tryAcquire leaseId taskId workerId ttl a.first a.second t
      (.tried lease, t)
  | .renew leaseId ttl =>
      let (lease, t) := kind.renew leaseId ttl a.first a.second t
      (.renewed lease, t)
  | .release leaseId => (.released, kind.release leaseId t)
  | .getActiveLease taskId => (.active (kind.getActiveLease taskId a.first t), t)

end TaskLeaseRepoKind

/-! ### Sequences of calls -/

/-- The table between two calls, the lease ids handed out so far with their tasks, and the last
reading of the clock. -/
structure LeaseSys where
  leases : TaskLeases := .empty
  issued : List (String × String) := []
  clock : Time
  deriving DecidableEq

namespace LeaseSys

/-- The clock does not run backwards, and `uuid4` returns nothing twice. -/
def enabled (σ : LeaseSys) (a : LeaseAction) : Bool :=
  σ.clock ≤ a.first && a.first ≤ a.second &&
    match a.call with
    | .tryAcquire leaseId _ _ _ => !(σ.issued.map Prod.fst).contains leaseId
    | _ => true

/-- The ids handed out by a call. -/
def issuedBy (a : LeaseAction) : List (String × String) :=
  match a.call with
  | .tryAcquire leaseId taskId _ _ => [(leaseId, taskId)]
  | _ => []

def step (kind : TaskLeaseRepoKind) (a : LeaseAction) (σ : LeaseSys) : LeaseSys :=
  if σ.enabled a then
    { leases := (kind.perform a σ.leases).2, issued := σ.issued ++ issuedBy a, clock := a.second }
  else σ

/-- The reply to a call, if it is one that can happen. -/
def reply (kind : TaskLeaseRepoKind) (σ : LeaseSys) (a : LeaseAction) : List LeaseReply :=
  if σ.enabled a then [(kind.perform a σ.leases).1] else []

/-- The replies to a sequence of calls. -/
def replies (kind : TaskLeaseRepoKind) : LeaseSys → List LeaseAction → List LeaseReply :=
  logged (step kind) (reply kind)

end LeaseSys

end CartoonDemo
