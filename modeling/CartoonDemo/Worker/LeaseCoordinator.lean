import CartoonDemo.Persistence.Leases

/-!
# CartoonDemo.Worker.LeaseCoordinator

The **lease coordinator** of one worker process, with its threads. A delivery starts and stops
the renewal of its lease; a renewal is a `threading.Timer` that calls `renew` and then
schedules the next timer. All of them share `_renew_failed` and the dictionary `_timers`.

Every thread stands between two operations on the shared state, and any thread may take its
next operation at any time, so a list of actions is an interleaving. The lease table is shared
with other processes, whose calls are actions too. A `Timer` object is identified by the
index of its thread.
-/

namespace CartoonDemo

/-- Where a thread stands: what it does next. -/
inductive LeaseThreadPc
  /-- `start_renewal`: clear `_renew_failed`. -/
  | resetting
  /-- `_schedule_renewal`: make a timer and enter it into `_timers`. -/
  | scheduling
  /-- `_schedule_renewal`: start the timer. -/
  | launching (timer : Nat)
  /-- `stop_renewal`: take the timer out of `_timers`. -/
  | popping (release : Bool)
  /-- `stop_renewal`: cancel the timer. -/
  | cancelling (timer : Option Nat) (release : Bool)
  /-- `release`: delete the lease. -/
  | releasing
  /-- A timer before `start`. -/
  | unstarted
  /-- A timer in its interval. -/
  | waiting
  /-- `_renew_lease`: read `_renew_failed`. -/
  | checking
  /-- `_renew_lease`: call `renew`. -/
  | renewing
  /-- `_renew_lease`: set `_renew_failed`. -/
  | failing
  | finished
  deriving DecidableEq, Repr

structure LeaseThread where
  leaseId : String
  pc : LeaseThreadPc
  /-- The thread of a `Timer`, not of a caller. -/
  timer : Bool := false
  /-- `cancel` has been called on the timer. -/
  cancelled : Bool := false
  deriving DecidableEq, Repr

/-- The coordinator, the table behind its repository, and what has happened to each lease. -/
structure LeaseCoordinator where
  repo : LeaseSys
  renewFailed : Bool := false
  timers : Table (Prod.fst : String × Nat → String) := .empty
  threads : List LeaseThread := []
  /-- `start_renewal` has returned. -/
  started : List String := []
  /-- `stop_renewal` has been called. -/
  stopping : List String := []
  /-- `stop_renewal` has returned. -/
  stopped : List String := []
  /-- A call of `renew` has raised. -/
  failed : List String := []
  deriving DecidableEq

/-- How a call of the repository goes: it reads the clock, or the database is out of reach. -/
inductive RepoOutcome
  | served (first second : Time)
  | outage
  deriving DecidableEq, Repr

inductive CoordinatorAction
  /-- A call on the table, by `acquire` or by another process. -/
  | onTable (call : LeaseAction)
  | startRenewal (leaseId : String)
  | stopRenewal (leaseId : String)
  | release (leaseId : String)
  /-- The thread takes its next operation. -/
  | proceed (thread : Nat) (outcome : RepoOutcome)
  deriving DecidableEq, Repr

namespace LeaseCoordinator

variable (σ : LeaseCoordinator)

def spawn (t : LeaseThread) : LeaseCoordinator := { σ with threads := σ.threads ++ [t] }

def updateThread (i : Nat) (f : LeaseThread → LeaseThread) : LeaseCoordinator :=
  { σ with threads := σ.threads.modify i f }

def goto (i : Nat) (pc : LeaseThreadPc) : LeaseCoordinator := σ.updateThread i ({ · with pc })

/-- `timer.cancel()`, if there is one. -/
def cancelTimer (timer : Option Nat) : LeaseCoordinator :=
  match timer with
  | none => σ
  | some timer => σ.updateThread timer ({ · with cancelled := true })

/-- Thread `i` calls `renew` for the lease, if the clock allows these readings. -/
def callRenew (kind : TaskLeaseRepoKind) (ttl : Time) (i : Nat) (leaseId : String)
    (first second : Time) : LeaseCoordinator :=
  let call := { call := .renew leaseId ttl, first, second }
  if σ.repo.enabled call then
    let σ' := { σ with repo := σ.repo.step kind call }
    match (kind.renew leaseId ttl first second σ.repo.leases).1 with
    | .ok _ => σ'.goto i .scheduling
    | .error _ => { σ'.goto i .failing with failed := σ.failed ++ [leaseId] }
  else σ

/-- The next operation of thread `i`, which is `t`. -/
def proceed (kind : TaskLeaseRepoKind) (ttl : Time) (i : Nat) (t : LeaseThread)
    (outcome : RepoOutcome) : LeaseCoordinator :=
  match t.pc with
  | .resetting => { σ.goto i .scheduling with renewFailed := false }
  | .scheduling =>
      let timer := σ.threads.length
      let σ' := σ.spawn { leaseId := t.leaseId, pc := .unstarted, timer := true }
      { σ' with timers := σ.timers.upsert (t.leaseId, timer) }.goto i (.launching timer)
  | .launching timer =>
      let σ' := (σ.goto timer .waiting).goto i .finished
      if t.timer then σ' else { σ' with started := σ.started ++ [t.leaseId] }
  -- `finished.wait(interval)` ends; a cancelled timer calls nothing
  | .waiting => σ.goto i (if t.cancelled then .finished else .checking)
  | .checking => σ.goto i (if σ.renewFailed then .finished else .renewing)
  | .renewing =>
      match outcome with
      | .served first second => σ.callRenew kind ttl i t.leaseId first second
      -- an exception that `_renew_lease` does not catch ends the timer's thread
      | .outage => { σ.goto i .finished with failed := σ.failed ++ [t.leaseId] }
  | .failing => { σ.goto i .finished with renewFailed := true }
  | .popping release =>
      { σ with timers := σ.timers.erase t.leaseId }.goto i
        (.cancelling ((σ.timers.get? t.leaseId).map Prod.snd) release)
  | .cancelling timer release =>
      { (σ.cancelTimer timer).goto i (if release then .releasing else .finished) with
        stopped := σ.stopped ++ [t.leaseId] }
  | .releasing =>
      match outcome with
      | .served first second =>
          let call := { call := .release t.leaseId, first, second }
          if σ.repo.enabled call then { σ with repo := σ.repo.step kind call }.goto i .finished
          else σ
      | .outage => σ.goto i .finished
  | .unstarted | .finished => σ

def step (kind : TaskLeaseRepoKind) (ttl : Time) (a : CoordinatorAction) (σ : LeaseCoordinator) :
    LeaseCoordinator :=
  match a with
  | .onTable call => { σ with repo := σ.repo.step kind call }
  | .startRenewal leaseId => σ.spawn { leaseId, pc := .resetting }
  | .stopRenewal leaseId =>
      { σ.spawn { leaseId, pc := .popping false } with stopping := σ.stopping ++ [leaseId] }
  | .release leaseId =>
      { σ.spawn { leaseId, pc := .popping true } with stopping := σ.stopping ++ [leaseId] }
  | .proceed i outcome =>
      match σ.threads[i]? with
      | none => σ
      | some t => σ.proceed kind ttl i t outcome

end LeaseCoordinator

end CartoonDemo
