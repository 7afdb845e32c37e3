import CartoonDemo.Library.Process
import CartoonDemo.Library.Run
import CartoonDemo.Worker.Loop

/-!
# CartoonDemo.Worker.Capacity

The **capacity of a worker**: `_process_delivery` from the moment it has its slot
(`worker/loop.py`), as a process whose calls are the places that may raise. Every call site is a
call of its own, and a fault pattern says which of them raise what.

Slot and counter are given back at the end of the `finally` clause, after the lease. The lease
is released there only if the call still holds it, and if that raises, the rest of the clause
is not run: `releasesCapacity_iff`.
-/

namespace CartoonDemo

open WorkerLoop

/-- What may be raised inside `_process_delivery`. -/
inductive LoopException
  | exception (e : PyException)
  | simulatedCrashBeforeAck
  /-- Not an `Exception`, such as `SystemExit`; no clause catches it. -/
  | baseException (className : String)
  deriving DecidableEq, Repr

/-- The calls of `_process_delivery` once it has its slot; a call that stands in the source
twice is told apart by `final`, in the `finally` clause, or by where the ack stands. -/
inductive LoopCall
  /-- `self._in_flight += 1`. -/
  | enter
  | acquireLease
  | startRenewal
  /-- `resolve_logical_version` and `build_idempotency_key`. -/
  | resolveKey
  | checkBeforeExecution
  | recordDuplicate
  | preAckDuplicate
  | ackDuplicate
  | buildExecutionContext
  | preHandler
  /-- The correlation scope and `record_task_started`. -/
  | taskStarted
  | handler
  | commit
  | postCommit
  | endSpan
  | stopRenewal (final : Bool)
  | releaseLease (final : Bool)
  | preAck
  | ack
  | recordCompletion
  | recordLeaseConflict
  | handleRetryableFailure
  /-- With its transaction and its ack. -/
  | handlePermanentFailure
  | releaseSlot
  /-- `self._in_flight -= 1`. -/
  | leave
  deriving DecidableEq, Repr

namespace LoopCall

/-- The calls on slot and counter, which cannot raise. -/
def touchesCapacity : LoopCall → Bool
  | .enter | .releaseSlot | .leave => true
  | _ => false

end LoopCall

abbrev LoopProc (α : Type) := Proc LoopCall (fun _ => Unit) LoopException α

namespace CapacityLoop

/-- One call of the loop. -/
def request (c : LoopCall) : LoopProc Unit := Proc.request c

/-- The end of a `finally` clause: what was raised before goes on. -/
def reraise : Except LoopException Unit → LoopProc Unit
  | .ok () => .ret ()
  | .error e => .raise e

/-! ### The code -/

/-- The transaction with the stage handler, and the hook after it. -/
def stage (skipAck : Bool) : LoopProc Unit := do
  request .handler
  if skipAck then .raise .simulatedCrashBeforeAck
  else
    request .commit
    request .postCommit

/-- A delivery whose key is completed already. -/
def duplicate (skipAck : Bool) : LoopProc Unit := do
  request .recordDuplicate
  request .preAckDuplicate
  if skipAck then return () else request .ackDuplicate

/-- The stage, and the end of its span whatever has happened. -/
def stageInSpan (skipAck : Bool) : LoopProc Unit := do
  let ended ← (stage skipAck).attempt
  request .endSpan
  reraise ended

/-- From the renewal timer to the end of the span; `completed` is the answer of
`check_before_execution`. -/
def execute (completed skipAck : Bool) : LoopProc Unit := do
  request .startRenewal
  request .resolveKey
  request .checkBeforeExecution
  if completed then duplicate skipAck
  else
    request .buildExecutionContext
    request .preHandler
    request .taskStarted
    stageInSpan skipAck

/-- The end of the `try` block, after the lease has been given back. -/
def acknowledge (skipAck : Bool) : LoopProc Unit := do
  request .preAck
  if skipAck then request .recordCompletion
  else
    request .ack
    request .recordCompletion

/-- The lease given back, in the `try` block or in the `finally` clause. -/
def giveBackLease (final : Bool) : LoopProc Unit := do
  request (.stopRenewal final)
  request (.releaseLease final)

/-- The `try` block: how it ends, and whether `lease_id` is still set. A duplicate returns
from the middle of it. -/
def tryBlock (completed skipAck : Bool) : LoopProc (Except LoopException Unit × Bool) := do
  match ← (request .acquireLease).attempt with
  | .error e => return (.error e, false)
  | .ok () =>
      match ← (execute completed skipAck).attempt with
      | .error e => return (.error e, true)
      | .ok () =>
          if completed then return (.ok (), true)
          else
            match ← (giveBackLease false).attempt with
            | .error e => return (.error e, true)
            | .ok () =>
                let ended ← (acknowledge skipAck).attempt
                return (ended, false)

/-- The `except` clauses. -/
def exceptClauses (cfg : AppConfig) (task : TaskRecord) (message : TaskMessage) :
    Except LoopException Unit → LoopProc Unit
  | .ok () => .ret ()
  | .error .simulatedCrashBeforeAck => .ret ()
  | .error (.baseException className) => .raise (.baseException className)
  | .error (.exception e) =>
      match failureDecision cfg task message e with
      | .ignore => request .recordLeaseConflict
      | .retry _ => request .handleRetryableFailure
      | .permanent _ _ _ => request .handlePermanentFailure

/-- `if lease_id is not None` in the `finally` clause. -/
def giveBackHeldLease (leaseHeld : Bool) : LoopProc Unit :=
  if leaseHeld then giveBackLease true else .ret ()

/-- The `finally` clause. -/
def finallyClause (leaseHeld : Bool) : LoopProc Unit := do
  giveBackHeldLease leaseHeld
  request .releaseSlot
  request .leave

/-- `_process_delivery`, after `acquire_blocking`. -/
def processDelivery (cfg : AppConfig) (task : TaskRecord) (message : TaskMessage)
    (completed skipAck : Bool) : LoopProc Unit := do
  request .enter
  let (ended, leaseHeld) ← tryBlock completed skipAck
  let result ← (exceptClauses cfg task message ended).attempt
  finallyClause leaseHeld
  reraise result

/-! ### Its calls

The two counters, and what each call does to them. Every call may raise.
-/

/-- The free slots of the delivery's task type, and the counter. -/
structure Counters where
  freeSlots : Int
  inFlight : Int
  deriving DecidableEq, Repr

/-- Which call sites raise, and what. -/
abbrev FaultPattern := LoopCall → Option LoopException

/-- What a call does and answers. -/
def answer (faults : FaultPattern) : (c : LoopCall) → Counters → Except LoopException Unit × Counters
  | .enter, n => (.ok (), { n with inFlight := n.inFlight + 1 })
  | .releaseSlot, n => (.ok (), { n with freeSlots := n.freeSlots + 1 })
  | .leave, n => (.ok (), { n with inFlight := n.inFlight - 1 })
  | c, n =>
      match faults c with
      | none => (.ok (), n)
      | some e => (.error e, n)

/-- The call has given back its slot exactly once, and the counter stands where it stood
before the delivery. -/
structure ReleasesCapacity (n : Counters)
    (o : Proc.Outcome LoopCall LoopException Unit Counters) : Prop where
  slot : o.calls.count .releaseSlot = 1
  freeSlots : o.world.freeSlots = n.freeSlots + 1
  inFlight : o.world.inFlight = n.inFlight

/-- The sites from the acquired lease to the end of the span. -/
def stagePath : List LoopCall :=
  [.startRenewal, .resolveKey, .checkBeforeExecution, .buildExecutionContext, .preHandler,
   .taskStarted, .handler, .commit, .postCommit, .endSpan]

/-- The delivery gets its lease and does not give it back in the `try` block, since it is a
duplicate, is not to be acked, or raises before. -/
def keepsLease (faults : FaultPattern) (completed skipAck : Bool) : Prop :=
  faults .acquireLease = none ∧
    ¬ (completed = false ∧ (skipAck = false ∧ ∀ c ∈ stagePath, faults c = none) ∧
      faults (.stopRenewal false) = none ∧ faults (.releaseLease false) = none)

/-- In the `finally` clause the lease is given back without an exception, if it is held. -/
def LeaseReleaseSucceeds (faults : FaultPattern) (completed skipAck : Bool) : Prop :=
  keepsLease faults completed skipAck →
    faults (.stopRenewal true) = none ∧ faults (.releaseLease true) = none

section Exec

variable {faults : FaultPattern}

theorem answer_eq {c : LoopCall} (hc : c.touchesCapacity = false) (n : Counters) :
    answer faults c n =
      match faults c with
      | none => (.ok (), n)
      | some e => (.error e, n) := by
  cases c <;> first | rfl | exact absurd hc (by decide)

theorem exec_request {c : LoopCall} (hc : c.touchesCapacity = false) (n : Counters) :
    (request c).exec (answer faults) n =
      { result := (match faults c with
          | none => .ok ()
          | some e => .error e), world := n, calls := [c] } := by
  show Proc.exec (answer faults) (.call c _) n = _
  rw [Proc.exec_call, answer_eq hc]
  cases faults c <;> rfl

theorem request_ok_iff {c : LoopCall} (hc : c.touchesCapacity = false) (n : Counters) :
    ((request c).exec (answer faults) n).result = .ok () ↔ faults c = none := by
  rw [exec_request hc]
  cases faults c <;> simp

/-- Parts of the code that leave slot and counter alone. -/
abbrev Neutral {α : Type} (p : LoopProc α) : Prop := p.CallsOnly (fun c => c.touchesCapacity = false)

theorem Neutral.world {α : Type} {p : LoopProc α} (h : Neutral p) (faults : FaultPattern)
    (n : Counters) :
    (p.exec (answer faults) n).world = n ∧
      ∀ c ∈ (p.exec (answer faults) n).calls, c.touchesCapacity = false := by
  refine h.exec (fun c hc n => ?_) n
  rw [answer_eq hc]
  cases faults c <;> rfl

/-! ### Which parts succeed -/

theorem neutral_request {c : LoopCall} (hc : c.touchesCapacity = false) : Neutral (request c) :=
  Proc.callsOnly_request hc

theorem neutral_stage (skipAck : Bool) : Neutral (stage skipAck) := by
  refine (neutral_request rfl).bind fun _ => ?_
  cases skipAck with
  | true => trivial
  | false => exact (neutral_request rfl).bind fun _ => neutral_request rfl

theorem neutral_duplicate (skipAck : Bool) : Neutral (duplicate skipAck) := by
  refine (neutral_request rfl).bind fun _ => (neutral_request rfl).bind fun _ => ?_
  cases skipAck with
  | true => trivial
  | false => exact neutral_request rfl

theorem neutral_stageInSpan (skipAck : Bool) : Neutral (stageInSpan skipAck) := by
  refine (neutral_stage skipAck).attempt.bind fun ended => (neutral_request rfl).bind fun _ => ?_
  cases ended with
  | ok _ => trivial
  | error e => trivial

theorem neutral_execute (completed skipAck : Bool) : Neutral (execute completed skipAck) := by
  refine (neutral_request rfl).bind fun _ => (neutral_request rfl).bind fun _ =>
    (neutral_request rfl).bind fun _ => ?_
  cases completed with
  | true => exact neutral_duplicate skipAck
  | false =>
      exact (neutral_request rfl).bind fun _ => (neutral_request rfl).bind fun _ =>
        (neutral_request rfl).bind fun _ => neutral_stageInSpan skipAck

theorem neutral_giveBackLease (final : Bool) : Neutral (giveBackLease final) :=
  (neutral_request rfl).bind fun _ => neutral_request rfl

theorem neutral_acknowledge (skipAck : Bool) : Neutral (acknowledge skipAck) := by
  refine (neutral_request rfl).bind fun _ => ?_
  cases skipAck with
  | true => exact neutral_request rfl
  | false => exact (neutral_request rfl).bind fun _ => neutral_request rfl

theorem neutral_tryBlock (completed skipAck : Bool) : Neutral (tryBlock completed skipAck) := by
  refine (neutral_request rfl).attempt.bind fun leased => ?_
  cases leased with
  | error e => trivial
  | ok _ =>
      refine (neutral_execute completed skipAck).attempt.bind fun executed => ?_
      cases executed with
      | error e => trivial
      | ok _ =>
          cases completed with
          | true => trivial
          | false =>
              refine (neutral_giveBackLease false).attempt.bind fun released => ?_
              cases released with
              | error e => trivial
              | ok _ => exact (neutral_acknowledge skipAck).attempt.bind fun _ => trivial

theorem neutral_exceptClauses (cfg : AppConfig) (task : TaskRecord) (message : TaskMessage)
    (ended : Except LoopException Unit) : Neutral (exceptClauses cfg task message ended) := by
  unfold exceptClauses
  split
  · trivial
  · trivial
  · trivial
  · split
    · exact neutral_request rfl
    · exact neutral_request rfl
    · exact neutral_request rfl

/-- A sequence succeeds if its parts do. -/
theorem bind_ok_iff {α : Type} {p : LoopProc Unit} {f : Unit → LoopProc α} (hp : Neutral p)
    (n : Counters) (a : α) :
    ((p.bind f).exec (answer faults) n).result = .ok a ↔
      (p.exec (answer faults) n).result = .ok () ∧
        ((f ()).exec (answer faults) n).result = .ok a := by
  rw [Proc.exec_bind, (hp.world faults n).1]
  cases (p.exec (answer faults) n).result with
  | ok u => simp
  | error e => simp

theorem stage_ok_iff (skipAck : Bool) (n : Counters) :
    ((stage skipAck).exec (answer faults) n).result = .ok () ↔
      skipAck = false ∧ faults .handler = none ∧ faults .commit = none ∧
        faults .postCommit = none := by
  show (((request .handler).bind fun _ => _).exec (answer faults) n).result = .ok () ↔ _
  rw [bind_ok_iff (neutral_request rfl), request_ok_iff rfl]
  cases skipAck with
  | true =>
      refine iff_of_false (fun h => ?_) (by simp)
      exact absurd h.2 (by simp)
  | false =>
      show _ ∧ (((request .commit).bind fun _ => request .postCommit).exec (answer faults)
        n).result = .ok () ↔ _
      rw [bind_ok_iff (neutral_request rfl), request_ok_iff rfl, request_ok_iff rfl]
      simp

theorem stageInSpan_ok_iff (skipAck : Bool) (n : Counters) :
    ((stageInSpan skipAck).exec (answer faults) n).result = .ok () ↔
      (skipAck = false ∧ faults .handler = none ∧ faults .commit = none ∧
        faults .postCommit = none) ∧ faults .endSpan = none := by
  rw [← stage_ok_iff skipAck n]
  show (((stage skipAck).attempt.bind fun ended => (request .endSpan).bind fun _ => _).exec
    (answer faults) n).result = .ok () ↔ _
  rw [Proc.exec_bind, Proc.exec_attempt]
  dsimp only
  rw [((neutral_stage skipAck).world faults n).1, Proc.Outcome.after_result,
    bind_ok_iff (neutral_request rfl), request_ok_iff rfl]
  cases ((stage skipAck).exec (answer faults) n).result with
  | ok u => simp [reraise]
  | error e => simp [reraise]

/-- The success path up to the lease: nothing on it raises. -/
theorem execute_ok_iff (skipAck : Bool) (n : Counters) :
    ((execute false skipAck).exec (answer faults) n).result = .ok () ↔
      skipAck = false ∧ ∀ c ∈ stagePath, faults c = none := by
  show (((request .startRenewal).bind fun _ => (request .resolveKey).bind fun _ =>
    (request .checkBeforeExecution).bind fun _ => (request .buildExecutionContext).bind fun _ =>
    (request .preHandler).bind fun _ => (request .taskStarted).bind fun _ =>
    stageInSpan skipAck).exec (answer faults) n).result = .ok () ↔ _
  iterate 6 rw [bind_ok_iff (neutral_request rfl), request_ok_iff rfl]
  rw [stageInSpan_ok_iff]
  simp only [stagePath, List.forall_mem_cons, List.not_mem_nil, false_implies, implies_true,
    and_true]
  tauto

theorem giveBackLease_ok_iff (final : Bool) (n : Counters) :
    ((giveBackLease final).exec (answer faults) n).result = .ok () ↔
      faults (.stopRenewal final) = none ∧ faults (.releaseLease final) = none := by
  show (((request (.stopRenewal final)).bind fun _ => request (.releaseLease final)).exec
    (answer faults) n).result = .ok () ↔ _
  rw [bind_ok_iff (neutral_request rfl), request_ok_iff rfl, request_ok_iff rfl]

/-! ### The `try` block -/

/-- How the `try` block ends is told to the clauses after it; it raises nothing itself. -/
theorem tryBlock_result (faults : FaultPattern) (completed skipAck : Bool) (n : Counters) :
    ∃ ended leaseHeld, ((tryBlock completed skipAck).exec (answer faults) n).result =
        .ok (ended, leaseHeld) ∧
      (leaseHeld = true ↔ keepsLease faults completed skipAck) := by
  show ∃ ended leaseHeld, (((request .acquireLease).attempt.bind fun leased => _).exec
    (answer faults) n).result = .ok (ended, leaseHeld) ∧ _
  rw [Proc.exec_bind, Proc.exec_attempt, exec_request rfl]
  unfold keepsLease
  cases hlease : faults .acquireLease with
  | some e => exact ⟨_, _, rfl, by simp⟩
  | none =>
      dsimp only
      rw [Proc.Outcome.after_result]
      show ∃ ended leaseHeld, (((execute completed skipAck).attempt.bind fun executed => _).exec
        (answer faults) n).result = .ok (ended, leaseHeld) ∧ _
      rw [Proc.exec_bind, Proc.exec_attempt]
      dsimp only
      rw [((neutral_execute completed skipAck).world faults n).1]
      cases completed with
      | true =>
          refine ⟨((execute true skipAck).exec (answer faults) n).result, true, ?_, by simp⟩
          cases ((execute true skipAck).exec (answer faults) n).result with
          | error e => rfl
          | ok u => rfl
      | false =>
          rw [← execute_ok_iff skipAck n, ← giveBackLease_ok_iff false n]
          cases ((execute false skipAck).exec (answer faults) n).result with
          | error e => exact ⟨_, _, rfl, by simp⟩
          | ok u =>
              dsimp only
              rw [Proc.Outcome.after_result]
              show ∃ ended leaseHeld, (((giveBackLease false).attempt.bind fun released => _).exec
                (answer faults) n).result = .ok (ended, leaseHeld) ∧ _
              rw [Proc.exec_bind, Proc.exec_attempt]
              dsimp only
              rw [((neutral_giveBackLease false).world faults n).1]
              cases ((giveBackLease false).exec (answer faults) n).result with
              | error e => exact ⟨_, _, rfl, by simp⟩
              | ok u =>
                  refine ⟨((acknowledge skipAck).exec (answer faults) n).result, false, ?_, by simp⟩
                  dsimp only
                  rw [Proc.Outcome.after_result]
                  show (((acknowledge skipAck).attempt.bind fun ended => .ret (ended, false)).exec
                    (answer faults) n).result = _
                  rw [Proc.exec_bind, Proc.exec_attempt]
                  rfl

/-! ### The `finally` clause

The steps of the clause are not protected from each other.
-/

theorem neutral_giveBackHeldLease (leaseHeld : Bool) : Neutral (giveBackHeldLease leaseHeld) := by
  cases leaseHeld with
  | true => exact neutral_giveBackLease true
  | false => trivial

theorem giveBackHeldLease_ok_iff (leaseHeld : Bool) (n : Counters) :
    ((giveBackHeldLease leaseHeld).exec (answer faults) n).result = .ok () ↔
      (leaseHeld = true → faults (.stopRenewal true) = none ∧
        faults (.releaseLease true) = none) := by
  cases leaseHeld with
  | true =>
      show ((giveBackLease true).exec (answer faults) n).result = .ok () ↔ _
      rw [giveBackLease_ok_iff]
      simp
  | false => simp [giveBackHeldLease]

/-- Calls that leave slot and counter alone do not release the slot. -/
theorem count_releaseSlot_eq_zero {calls : List LoopCall}
    (h : ∀ c ∈ calls, c.touchesCapacity = false) : calls.count .releaseSlot = 0 :=
  List.count_eq_zero.mpr fun hmem => absurd (h _ hmem) (by decide)

/-- Slot and counter are given back if the lease has been, or is not held. -/
theorem finallyClause_ok {leaseHeld : Bool} {n : Counters}
    (h : ((giveBackHeldLease leaseHeld).exec (answer faults) n).result = .ok ()) :
    ((finallyClause leaseHeld).exec (answer faults) n).world =
        { freeSlots := n.freeSlots + 1, inFlight := n.inFlight - 1 } ∧
      ((finallyClause leaseHeld).exec (answer faults) n).calls.count .releaseSlot = 1 := by
  obtain ⟨hworld, hcalls⟩ := (neutral_giveBackHeldLease leaseHeld).world faults n
  have hexec : (finallyClause leaseHeld).exec (answer faults) n =
      ((((request .releaseSlot).bind fun _ => request .leave).exec (answer faults)
        n).after ((giveBackHeldLease leaseHeld).exec (answer faults) n).calls) := by
    show (((giveBackHeldLease leaseHeld).bind fun _ => (request .releaseSlot).bind fun _ =>
      request .leave).exec (answer faults) n) = _
    rw [Proc.exec_bind_ok h, hworld]
  rw [hexec]
  refine ⟨rfl, ?_⟩
  rw [Proc.Outcome.after_calls, List.count_append, count_releaseSlot_eq_zero hcalls]
  rfl

/-- If giving back the lease raises, slot and counter stay taken. -/
theorem finallyClause_error {leaseHeld : Bool} {n : Counters}
    (h : ((giveBackHeldLease leaseHeld).exec (answer faults) n).result ≠ .ok ()) :
    ((finallyClause leaseHeld).exec (answer faults) n).world = n ∧
      ((finallyClause leaseHeld).exec (answer faults) n).calls.count .releaseSlot = 0 ∧
      ∃ e, ((finallyClause leaseHeld).exec (answer faults) n).result = .error e := by
  obtain ⟨hworld, hcalls⟩ := (neutral_giveBackHeldLease leaseHeld).world faults n
  cases hres : ((giveBackHeldLease leaseHeld).exec (answer faults) n).result with
  | ok u => exact absurd hres h
  | error e =>
      have hexec : (finallyClause leaseHeld).exec (answer faults) n =
          { result := .error e, world := n,
            calls := ((giveBackHeldLease leaseHeld).exec (answer faults) n).calls } := by
        show (((giveBackHeldLease leaseHeld).bind fun _ => (request .releaseSlot).bind fun _ =>
          request .leave).exec (answer faults) n) = _
        rw [Proc.exec_bind_error hres, hworld]
      rw [hexec]
      exact ⟨rfl, count_releaseSlot_eq_zero hcalls, e, rfl⟩

/-! ### The whole call -/

theorem exec_bind_reraise (p : LoopProc Unit) (result : Except LoopException Unit)
    (n : Counters) :
    ((p.bind fun _ => reraise result).exec (answer faults) n).world =
        (p.exec (answer faults) n).world ∧
      ((p.bind fun _ => reraise result).exec (answer faults) n).calls =
        (p.exec (answer faults) n).calls := by
  rw [Proc.exec_bind]
  cases (p.exec (answer faults) n).result with
  | error e => exact ⟨rfl, rfl⟩
  | ok u =>
      cases result with
      | ok v => exact ⟨rfl, List.append_nil _⟩
      | error e => exact ⟨rfl, List.append_nil _⟩

/-- Everything before the `finally` clause leaves the slot alone, and has counted the delivery. -/
theorem processDelivery_exec (faults : FaultPattern) (cfg : AppConfig) (task : TaskRecord)
    (message : TaskMessage) (completed skipAck : Bool) (n : Counters) :
    ∃ leaseHeld, (leaseHeld = true ↔ keepsLease faults completed skipAck) ∧
      ((processDelivery cfg task message completed skipAck).exec (answer faults) n).world =
        ((finallyClause leaseHeld).exec (answer faults)
          { n with inFlight := n.inFlight + 1 }).world ∧
      ((processDelivery cfg task message completed skipAck).exec (answer faults)
          n).calls.count .releaseSlot =
        ((finallyClause leaseHeld).exec (answer faults)
          { n with inFlight := n.inFlight + 1 }).calls.count .releaseSlot := by
  generalize hn : { n with inFlight := n.inFlight + 1 } = m
  obtain ⟨ended, leaseHeld, hresult, hheld⟩ := tryBlock_result faults completed skipAck m
  obtain ⟨htryWorld, htryCalls⟩ := (neutral_tryBlock completed skipAck).world faults m
  obtain ⟨hexcWorld, hexcCalls⟩ :=
    (neutral_exceptClauses cfg task message ended).world faults m
  refine ⟨leaseHeld, hheld, ?_⟩
  have hexec : (processDelivery cfg task message completed skipAck).exec (answer faults) n =
      (((((finallyClause leaseHeld).bind fun _ =>
          reraise ((exceptClauses cfg task message ended).exec (answer faults) m).result).exec
          (answer faults) m).after
        ((exceptClauses cfg task message ended).exec (answer faults) m).calls).after
        ((tryBlock completed skipAck).exec (answer faults) m).calls).after [.enter] := by
    have henter : ∀ f : Unit → LoopProc Unit,
        ((request .enter).bind f).exec (answer faults) n =
          ((f ()).exec (answer faults) m).after [.enter] := by
      intro f
      rw [← hn]
      rfl
    show ((request .enter).bind fun _ => (tryBlock completed skipAck).bind fun _ => _).exec
      (answer faults) n = _
    rw [henter, Proc.exec_bind_ok hresult, htryWorld]
    show (((((exceptClauses cfg task message ended).attempt.bind fun result =>
      (finallyClause leaseHeld).bind fun _ => reraise result).exec (answer faults) m).after
        _).after _) = _
    rw [Proc.exec_bind, Proc.exec_attempt, hexcWorld]
  rw [hexec]
  refine ⟨(exec_bind_reraise _ _ m).1, ?_⟩
  have henterCount : [LoopCall.enter].count .releaseSlot = 0 := rfl
  simp only [Proc.Outcome.after_calls, List.count_append, count_releaseSlot_eq_zero htryCalls,
    count_releaseSlot_eq_zero hexcCalls, (exec_bind_reraise _ _ m).2, henterCount]
  omega

/-- **One delivery** gives back its capacity exactly when giving back a lease that it still holds
in the `finally` clause does not raise. -/
theorem releasesCapacity_iff (cfg : AppConfig) (task : TaskRecord) (message : TaskMessage)
    (completed skipAck : Bool) (n : Counters) :
    ReleasesCapacity n
        ((processDelivery cfg task message completed skipAck).exec (answer faults) n) ↔
      LeaseReleaseSucceeds faults completed skipAck := by
  obtain ⟨leaseHeld, hheld, hworld, hcount⟩ :=
    processDelivery_exec faults cfg task message completed skipAck n
  unfold LeaseReleaseSucceeds
  rw [← hheld, ← giveBackHeldLease_ok_iff leaseHeld { n with inFlight := n.inFlight + 1 }]
  constructor
  · intro h
    by_contra hne
    have hzero := (finallyClause_error hne).2.1
    have hone := h.slot
    omega
  · intro h
    obtain ⟨hfinal, hone⟩ := finallyClause_ok h
    rw [hfinal] at hworld
    refine ⟨hcount.trans hone, by rw [hworld], ?_⟩
    rw [hworld]
    exact Int.add_sub_cancel _ _

end Exec

/-! ### Many deliveries

The counters of a worker are the sum over its deliveries.
-/

/-- The call of `_process_delivery` for one delivery, with what happens to it. -/
structure DeliveryRun where
  task : TaskRecord
  message : TaskMessage
  completed : Bool
  skipAck : Bool
  faults : FaultPattern

/-- The slots of a worker. What a delivery does to them it does at its end. -/
structure WorkerCapacity where
  free : TaskType → Int
  inFlight : Int := 0
  /-- The deliveries that have a slot and have not ended. -/
  running : List TaskType := []

inductive CapacityAction
  /-- `acquire_blocking` returns. -/
  | begin (taskType : TaskType)
  | finish (i : Nat) (delivery : DeliveryRun)

namespace WorkerCapacity

/-- How the delivery ends when the slots of its type stand at `n`. -/
def outcome (cfg : AppConfig) (d : DeliveryRun) (n : Counters) :
    Proc.Outcome LoopCall LoopException Unit Counters :=
  (processDelivery cfg d.task d.message d.completed d.skipAck).exec (answer d.faults) n

def counters (σ : WorkerCapacity) (taskType : TaskType) : Counters :=
  { freeSlots := σ.free taskType, inFlight := σ.inFlight }

def step (cfg : AppConfig) (a : CapacityAction) (σ : WorkerCapacity) : WorkerCapacity :=
  match a with
  | .begin taskType =>
      if 0 < σ.free taskType then
        { σ with
          free := Function.update σ.free taskType (σ.free taskType - 1)
          running := σ.running ++ [taskType] }
      else σ
  | .finish i d =>
      match σ.running[i]? with
      | none => σ
      | some taskType =>
          { free := Function.update σ.free taskType
              (outcome cfg d (σ.counters taskType)).world.freeSlots
            inFlight := (outcome cfg d (σ.counters taskType)).world.inFlight
            running := σ.running.eraseIdx i }

/-- Free slots and running deliveries of a task type. -/
def total (σ : WorkerCapacity) (taskType : TaskType) : Int :=
  σ.free taskType + σ.running.count taskType

/-- The delivery that ends with this step gives back its capacity. -/
def Restores (cfg : AppConfig) (σ : WorkerCapacity) : CapacityAction → Prop
  | .begin _ => True
  | .finish i d => ∀ taskType ∈ σ.running[i]?,
      ReleasesCapacity (σ.counters taskType) (outcome cfg d (σ.counters taskType))

/-- The delivery that ends with this step gives back a lease that it still holds. -/
def GivesBackLease (σ : WorkerCapacity) : CapacityAction → Prop
  | .begin _ => True
  | .finish i d => σ.running[i]?.isSome → LeaseReleaseSucceeds d.faults d.completed d.skipAck

theorem restores_iff (cfg : AppConfig) (σ : WorkerCapacity) (a : CapacityAction) :
    Restores cfg σ a ↔ GivesBackLease σ a := by
  cases a with
  | begin taskType => exact Iff.rfl
  | finish i d =>
      show (∀ taskType ∈ σ.running[i]?, _) ↔ (σ.running[i]?.isSome → _)
      cases σ.running[i]? with
      | none => simp
      | some taskType =>
          have hone : ReleasesCapacity (σ.counters taskType) (outcome cfg d (σ.counters taskType)) ↔
              LeaseReleaseSucceeds d.faults d.completed d.skipAck := releasesCapacity_iff ..
          simp [hone]

/-- **One step** that restores capacity leaves the total of every task type alone. -/
theorem step_total {cfg : AppConfig} {σ : WorkerCapacity} {a : CapacityAction}
    (h : Restores cfg σ a) (taskType : TaskType) :
    (step cfg a σ).total taskType = σ.total taskType := by
  cases a with
  | begin tt =>
      unfold step total
      dsimp only
      split
      · rw [List.count_append, List.count_singleton]
        by_cases htt : taskType = tt
        · subst htt
          simp only [Function.update_self, beq_self_eq_true, if_true]
          omega
        · have hne : (tt == taskType) = false := by simpa using Ne.symm htt
          simp [Function.update_of_ne htt, hne]
      · rfl
  | finish i d =>
      unfold step total
      dsimp only
      cases htt : σ.running[i]? with
      | none => rfl
      | some tt =>
          have hfree := (h tt htt).freeSlots
          obtain ⟨hi, hget⟩ := List.getElem?_eq_some_iff.mp htt
          have hcount : (σ.running.eraseIdx i).count taskType +
              (if tt == taskType then 1 else 0) = σ.running.count taskType := by
            rw [← (List.getElem_cons_eraseIdx_perm hi).count_eq taskType, List.count_cons, hget]
          dsimp only
          rw [hfree]
          by_cases heq : taskType = tt
          · subst heq
            rw [Function.update_self]
            rw [beq_self_eq_true, if_pos rfl] at hcount
            show σ.free taskType + 1 + _ = _
            omega
          · have hne : (tt == taskType) = false := by simpa using Ne.symm heq
            rw [hne] at hcount
            rw [Function.update_of_ne heq]
            simp only [Bool.false_eq_true, if_false, Nat.add_zero] at hcount
            rw [hcount]

/-- The capacity of the worker is kept: every delivery that ends gives back its slot once and
its place in the counter, and at every moment the free slots and the running deliveries of a
task type together are its limit. -/
structure CapacityKept (cfg : AppConfig) (limits : TaskType → Int)
    (actions : List CapacityAction) : Prop where
  restored : Along (step cfg) (Restores cfg) { free := limits } actions
  constant : ∀ moment, moment <+: actions → ∀ taskType,
    (run (step cfg) { free := limits } moment).total taskType = limits taskType

/-- **Capacity is kept in exactly those runs** in which no `finally` clause raises while it gives
back a lease. -/
theorem capacity_kept_iff (cfg : AppConfig) (limits : TaskType → Int)
    (actions : List CapacityAction) :
    CapacityKept cfg limits actions ↔
      Along (step cfg) GivesBackLease { free := limits } actions := by
  have hsteps : Along (step cfg) (Restores cfg) { free := limits } actions ↔
      Along (step cfg) GivesBackLease { free := limits } actions :=
    along_congr (motive := fun _ => True) (fun _ _ _ => trivial)
      (fun σ a _ => restores_iff cfg σ a) trivial
  refine ⟨fun h => hsteps.mp h.restored, fun h => ⟨hsteps.mpr h, ?_⟩⟩
  intro moment hmoment taskType
  obtain ⟨later, rfl⟩ := hmoment
  have hmoment : Along (step cfg) (Restores cfg) { free := limits } moment := by
    refine along_iff_forall_split.mpr fun pre a post heq => ?_
    exact along_iff_forall_split.mp (hsteps.mpr h) pre a (post ++ later) (by rw [heq]; simp)
  refine run_along (motive := fun σ => σ.total taskType = limits taskType)
    (fun σ a hσ ha => (step_total ha taskType).trans hσ) ?_ hmoment
  show limits taskType + ((0 : Nat) : Int) = limits taskType
  exact Int.add_zero _

/-- The tasks of the runs below. -/
def sampleRun (faults : FaultPattern) : DeliveryRun where
  task := { taskId := "task", workflowId := "wf", taskType := .collect, attempt := 1,
            status := .dispatched,
            payloadReference := { refId := "task", refKind := taskPayloadRefKind },
            idempotencyKey := "wf:COLLECT:1", createdAt := 0, updatedAt := 0 }
  message := { taskId := "task", workflowId := "wf", taskType := .collect, attempt := 1,
               createdAt := 0, payloadReference := "task" }
  completed := false
  skipAck := false
  faults := faults

/-- The database is not reached from the handler on. -/
def databaseDown : FaultPattern
  | .handler | .handleRetryableFailure | .handlePermanentFailure | .releaseLease _ =>
      some (.exception (.persistenceConnection "connection lost"))
  | _ => none

/-- One delivery while the database is down: its slot is gone for good, and so is its place in
the counter. -/
theorem databaseDown_leaks :
    ¬ CapacityKept .prod (fun _ => 1)
      [.begin .collect, .finish 0 (sampleRun databaseDown)] := by
  intro h
  have htotal := h.constant _ List.prefix_rfl .collect
  exact absurd htotal (by decide +kernel)

end WorkerCapacity

end CapacityLoop

end CartoonDemo
