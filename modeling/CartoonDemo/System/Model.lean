import CartoonDemo.Library.Run
import CartoonDemo.Worker.Loop
import CartoonDemo.Workflow.EngineSpec
import CartoonDemo.Workflow.Reconcile

/-!
# CartoonDemo.System.Model

The **running system**: one database, the queue stream, outbox publishers, workers and
reconciler scans, all interleaved.

Each process is a state machine whose steps are the places where the source touches shared
state. `Delivery` is one call of `_process_delivery` with its program counter (`Phase`);
between any two of its steps other processes run, its lease can expire and it can die. A
transaction is one step. Every ack, hook and repository call that the source allows to raise
has a step in which it does, and an ack that raises may or may not have reached the queue.

The machine is total: an action that is not enabled leaves the system alone, and so does one
whose `uuid4` draws are already in use. `Action.origin` tells the steps of the
pipeline from those of the reconciler and from engine calls of other callers.
-/

namespace CartoonDemo

open WorkerLoop

/-! ### State

The store, the stream and what each party has under way.
-/

/-- An entry of the queue stream; it stays pending until it is acked. -/
structure StreamEntry where
  message : TaskMessage
  acked : Bool := false
  deriving DecidableEq, Repr

/-- Where a call of `_process_delivery` stands. -/
inductive Phase
  | received
  | taskRead (task : TaskRecord)
  /-- Classified as stale, before its ack. -/
  | stale
  | accepted (task : TaskRecord)
  | leased (task : TaskRecord)
  /-- The pre-check found a completion; before its ack. -/
  | duplicate (task : TaskRecord) (key : String)
  /-- The handler is running. -/
  | executing (task : TaskRecord) (key : String)
  | committed (task : TaskRecord) (key : String)
  | released (task : TaskRecord) (key : String)
  /-- In an `except` clause. -/
  | raised (task : TaskRecord) (e : PyException)
  /-- The permanent failure is committed; before its ack. -/
  | failed (task : TaskRecord)
  /-- In the `finally` clause. -/
  | closing
  deriving DecidableEq, Repr

/-- The task record that the call has read. -/
def Phase.task? : Phase → Option TaskRecord
  | .received | .stale | .closing => none
  | .taskRead t | .accepted t | .leased t | .duplicate t _ | .executing t _ | .committed t _
  | .released t _ | .raised t _ | .failed t => some t

/-- The phases inside the `try` block in which something may raise. -/
def Phase.mayRaise : Phase → Option TaskRecord
  | .accepted t | .leased t | .duplicate t _ | .executing t _ | .committed t _
  | .released t _ => some t
  | _ => none

structure Delivery where
  worker : String
  /-- The position of its stream entry. -/
  entry : Nat
  message : TaskMessage
  lease : Option String := none
  phase : Phase := .received
  deriving DecidableEq, Repr

/-- `BackoffEntry`, in the memory of one worker. -/
structure BackoffEntry where
  worker : String
  taskId : String
  readyAt : Time
  deriving DecidableEq, Repr

def BackoffEntry.key (b : BackoffEntry) : String × String := (b.worker, b.taskId)

/-- One row that a publisher has fetched. -/
structure PublishFrame where
  entry : OutboxEntry
  enqueued : Bool := false
  deriving DecidableEq, Repr

/-- One call of `scan_and_repair`. -/
structure Scan where
  scanned : Nat
  remaining : List ReconciliationCandidate
  /-- The repair whose transaction comes next. -/
  pending : Option (ReconciliationScanner.RepairPlan × ReconciliationReport) := none
  reports : List ReconciliationReport := []
  /-- The exception that ended the scan. -/
  aborted : Option PyException := none
  deriving DecidableEq, Repr

structure Sys where
  store : Store := {}
  stream : List StreamEntry := []
  deliveries : List Delivery := []
  frames : List PublishFrame := []
  backoff : Table BackoffEntry.key := Table.empty
  scans : List Scan := []
  deriving DecidableEq

/-! ### Actions -/

/-- How a call of `ack` ends; one that raises may have been applied. -/
inductive AckOutcome
  | ok
  | raised (applied : Bool) (e : PyException)
  deriving DecidableEq, Repr

def AckOutcome.applied : AckOutcome → Bool
  | .ok => true
  | .raised b _ => b

/-- The steps of `_process_delivery`. -/
inductive DeliveryAction
  | readTask
  | readWorkflow
  /-- One of the two reads raises, before any `try`. -/
  | readRaises
  | ackStale (outcome : AckOutcome)
  | takeLease (leaseId : String) (now : Time)
  | precheck
  | ackDuplicate (outcome : AckOutcome)
  | execute (env : StageEnv) (reply : AgentReply)
  | release
  | ackCommitted (outcome : AckOutcome)
  | raise (e : PyException)
  | handleFailure (env : Env) (readyAt : Time)
  /-- The failure transaction itself raises, and is rolled back. -/
  | failureRaises (e : PyException)
  | ackFailed (outcome : AckOutcome)
  | close
  | crash

inductive PublishAction
  | enqueue
  | enqueueRaises (applied : Bool)
  | mark (now : Time)
  | markRaises (now : Time) (applied : Bool)
  | drop
  deriving DecidableEq, Repr

inductive ScanAction
  | inspect (now : Time)
  /-- A read of the loop raises, outside of any `try`. -/
  | readRaises (e : PyException)
  | repair (env : Env)
  | repairRaises (e : PyException)
  deriving DecidableEq, Repr

inductive Action
  | initiate (env : Env) (request : InitiateWorkflowRequest)
  | approve (env : Env) (workflowId : String) (action : ApprovalAction) (actor : Option String)
  | transition (env : Env) (request : TransitionRequest)
  | fetchRow (outboxId : String)
  | publish (i : Nat) (a : PublishAction)
  | deliver (entry : Nat) (worker : String)
  | delivery (i : Nat) (a : DeliveryAction)
  | crashWorker (worker : String)
  | expireLease (taskId : String)
  | scanCollect (batchSize : Nat) (clock : ReconciliationScanner.CollectClock)
  /-- A read of `collect_candidates` raises. -/
  | scanCollectRaises (e : PyException)
  | scan (k : Nat) (a : ScanAction)

/-- Where an action comes from: the pipeline of publishers, workers and users, an engine call
from outside of it, or the reconciler. -/
inductive Origin
  | pipeline | engine | reconciler
  deriving DecidableEq, Repr

def Action.origin : Action → Origin
  | .transition _ _ => .engine
  | .scanCollect _ _ | .scanCollectRaises _ | .scan _ _ => .reconciler
  | _ => .pipeline

/-! ### Fresh identifiers -/

/-- The identifiers of a stage transaction are not in use. -/
def Store.freshStage (s : Store) (env : StageEnv) : Bool :=
  (s.artifacts.get? env.artifactId).isNone && s.freshDispatch env.transition &&
    s.freshDispatch env.bridge

/-! ### Deliveries

One call of the loop on one message, step by step: others may act in between.
-/

/-- What one step of a delivery does: the store, whether its entry is acked, where the call
goes on (`none` when it has returned), and a scheduled backoff. -/
structure DeliveryEffect where
  store : Store
  acks : Bool := false
  next : Option Delivery
  backoff : Option BackoffEntry := none

/-- `should_defer`. -/
def shouldDefer (backoff : Table BackoffEntry.key) (worker taskId : String) (now : Time) : Bool :=
  (backoff.get? (worker, taskId)).any (fun b => now < b.readyAt)

namespace Delivery

/-- The call goes on in another phase and nothing else happens. -/
def goto (s : Store) (d : Delivery) (phase : Phase) : DeliveryEffect :=
  { store := s, next := some { d with phase := phase } }

/-- The call returns. -/
def return_ (s : Store) (acks : Bool := false) : DeliveryEffect :=
  { store := s, acks := acks, next := none }

/-- An ack inside the `try` block: success goes to the `finally` clause. -/
def ackInTry (s : Store) (d : Delivery) (task : TaskRecord) : AckOutcome → DeliveryEffect
  | .ok => { store := s, acks := true, next := some { d with phase := .closing } }
  | .raised applied e =>
      { store := s, acks := applied, next := some { d with phase := .raised task e } }

/-- The `except` clauses, up to the ack of a permanent failure. An exception raised by a
failure transaction itself leaves through the `finally` clause. -/
def handleException (repo : WorkflowRepoKind) (cfg : AppConfig) (env : Env) (readyAt : Time)
    (s : Store) (d : Delivery) (task : TaskRecord) (e : PyException) : DeliveryEffect :=
  match failureDecision cfg task d.message e with
  | .ignore => d.goto s .closing
  | .retry attempt =>
      match retryableFailure env.updatedAt task attempt e.str s with
      | .error _ => d.goto s .closing
      | .ok s =>
          { store := s, next := some { d with phase := .closing },
            backoff := some { worker := d.worker, taskId := task.taskId, readyAt := readyAt } }
  | .permanent taskType exhausted errorClass =>
      match permanentFailure repo cfg env d.message taskType task exhausted errorClass s with
      | .error _ => d.goto s .closing
      | .ok s => d.goto s (.failed task)

/-- One step of `_process_delivery`. -/
def step (repo : WorkflowRepoKind) (cfg : AppConfig) (backoff : Table BackoffEntry.key)
    (s : Store) (d : Delivery) (a : DeliveryAction) : DeliveryEffect :=
  match d.phase, a with
  | .received, .readTask =>
      match s.tasks.get? d.message.taskId with
      | none => return_ s
      | some task => d.goto s (.taskRead task)
  | .taskRead task, .readWorkflow =>
      match getWorkflow s d.message.workflowId with
      | none => return_ s
      | some workflow =>
          if WorkflowStateGuard.classifyStaleTask workflow.state task.taskType = .proceed then
            d.goto s (.accepted task)
          else d.goto s .stale
  | .received, .readRaises | .taskRead _, .readRaises => return_ s
  | .stale, .ackStale outcome => return_ s outcome.applied
  | .accepted task, .takeLease leaseId now =>
      if shouldDefer backoff d.worker d.message.taskId now then return_ s
      else
        match tryAcquireLease leaseId d.message.taskId d.worker s with
        | none => d.goto s (.raised task (.leaseConflict d.message.taskId d.worker))
        | some s => { d with lease := some leaseId }.goto s (.leased task)
  | .leased task, .precheck =>
      match deliveryKey s task d.message with
      | .error e => d.goto s (.raised task e)
      | .ok key =>
          if s.completed key then d.goto s (.duplicate task key)
          else d.goto s (.executing task key)
  | .duplicate task _, .ackDuplicate outcome => d.ackInTry s task outcome
  | .executing task key, .execute env reply =>
      if s.freshStage env then
        match stageTransaction repo cfg env
            { message := d.message, task := task, idempotencyKey := key } reply s with
        | .error e => d.goto s (.raised task e)
        | .ok s => d.goto s (.committed task key)
      else { store := s, next := some d }
  | .committed task key, .release =>
      { d with lease := none }.goto (d.lease.elim s (releaseLease · s)) (.released task key)
  | .released task _, .ackCommitted outcome => d.ackInTry s task outcome
  | .raised task e, .handleFailure env readyAt => d.handleException repo cfg env readyAt s task e
  | .raised _ _, .failureRaises _ => d.goto s .closing
  | .failed _, .ackFailed outcome =>
      { store := s, acks := outcome.applied, next := some { d with phase := .closing } }
  | .closing, .close => return_ (d.lease.elim s (releaseLease · s))
  | phase, .raise e =>
      match phase.mayRaise with
      | some task => d.goto s (.raised task e)
      | none => { store := s, next := some d }
  | _, .crash => return_ s
  | _, _ => { store := s, next := some d }

end Delivery

/-! ### Publishers -/

/-- `OutboxMessageBuilder.build`; `none` is the permanent error of a missing task. -/
def buildMessage (s : Store) (entry : OutboxEntry) : Option TaskMessage :=
  (s.tasks.get? entry.taskId).map fun task =>
    { taskId := entry.taskId, workflowId := entry.workflowId, taskType := entry.taskType,
      attempt := task.attempt, createdAt := task.createdAt,
      payloadReference := entry.payloadReference.refId }

/-- The store after `mark_published`, which does nothing when it raises. -/
def markedStore (now : Time) (outboxId : String) (s : Store) : Store :=
  match markPublished now outboxId s with
  | .ok s => s
  | .error _ => s

namespace Sys

/-- Remember or forget one publisher frame. -/
def setFrame (σ : Sys) (i : Nat) : Option PublishFrame → Sys
  | some f => { σ with frames := σ.frames.set i f }
  | none => { σ with frames := σ.frames.eraseIdx i }

/-- One step of `_publish_batch` for a fetched row. -/
def stepPublish (σ : Sys) (i : Nat) (f : PublishFrame) : PublishAction → Sys
  | .enqueue =>
      if f.enqueued then σ
      else
        match buildMessage σ.store f.entry with
        | none => σ.setFrame i none
        | some message =>
            setFrame { σ with stream := σ.stream ++ [{ message := message }] } i
              (some { f with enqueued := true })
  | .enqueueRaises applied =>
      -- a failed attempt; the row stays with the publisher, which tries again or drops it
      if f.enqueued then σ
      else
        match buildMessage σ.store f.entry with
        | none => σ
        | some message =>
            if applied then { σ with stream := σ.stream ++ [{ message := message }] } else σ
  | .mark now =>
      if f.enqueued then
        setFrame { σ with store := markedStore now f.entry.outboxId σ.store } i none
      else σ
  | .markRaises now applied =>
      if f.enqueued && applied then
        { σ with store := markedStore now f.entry.outboxId σ.store }
      else σ
  | .drop => σ.setFrame i none

/-! ### Scans

A scan reads first and repairs candidate by candidate.
-/

/-- Remember the new state of one scan. -/
def setScan (σ : Sys) (k : Nat) (scan : Scan) : Sys := { σ with scans := σ.scans.set k scan }

/-- One step of `scan_and_repair`. -/
def stepScan (repo : WorkflowRepoKind) (cfg : AppConfig) (sc : ReconciliationScanner) (σ : Sys)
    (k : Nat) (scan : Scan) : ScanAction → Sys
  | .inspect now =>
      match scan.aborted, scan.pending, scan.remaining with
      | none, none, candidate :: rest =>
          match sc.inspectCandidate repo cfg now candidate σ.store with
          | .skip report =>
              σ.setScan k { scan with remaining := rest, reports := scan.reports ++ [report] }
          | .repair plan report =>
              σ.setScan k { scan with remaining := rest, pending := some (plan, report) }
      | _, _, _ => σ
  | .readRaises e =>
      match scan.aborted, scan.pending, scan.remaining with
      | none, none, _ :: _ => σ.setScan k { scan with aborted := some e }
      | _, _, _ => σ
  | .repair env =>
      match scan.aborted, scan.pending with
      | none, some (plan, report) =>
          if σ.store.freshDispatch env then
            match ReconciliationScanner.performRepair repo cfg env plan σ.store with
            | .error e => σ.setScan k { scan with pending := none, aborted := some e }
            | .ok s =>
                setScan { σ with store := s } k
                  { scan with pending := none, reports := scan.reports ++ [report] }
          else σ
      | _, _ => σ
  | .repairRaises e =>
      match scan.aborted, scan.pending with
      | none, some _ => σ.setScan k { scan with pending := none, aborted := some e }
      | _, _ => σ

/-! ### The system

An action of one of the parties.
-/

/-- The stream after an ack of one entry. -/
def ackEntry (stream : List StreamEntry) (n : Nat) : List StreamEntry :=
  stream.modify n (fun e => { e with acked := true })

/-- The system after a step of delivery `i`. -/
def applyEffect (σ : Sys) (i : Nat) (d : Delivery) (e : DeliveryEffect) : Sys :=
  { σ with
    store := e.store
    stream := if e.acks then ackEntry σ.stream d.entry else σ.stream
    deliveries :=
      match e.next with
      | some d' => σ.deliveries.set i d'
      | none => σ.deliveries.eraseIdx i
    backoff := e.backoff.elim σ.backoff σ.backoff.upsert }

def step (repo : WorkflowRepoKind) (cfg : AppConfig) (sc : ReconciliationScanner) (a : Action)
    (σ : Sys) : Sys :=
  match a with
  | .initiate env request =>
      if σ.store.freshDispatch env then
        { σ with
          store := commit σ.store (WorkflowEngine.initiateWorkflow repo env request σ.store) }
      else σ
  | .approve env workflowId action actor =>
      if σ.store.freshDispatch env then
        { σ with
          store := commit σ.store
            (WorkflowEngine.applyApprovalAction repo env workflowId action actor σ.store) }
      else σ
  | .transition env request =>
      if σ.store.freshDispatch env then
        { σ with
          store := commit σ.store (WorkflowEngine.applyTransition repo cfg env request σ.store) }
      else σ
  | .fetchRow outboxId =>
      match σ.store.outbox.get? outboxId with
      | none => σ
      | some entry =>
          if entry.status = .pending then { σ with frames := σ.frames ++ [{ entry := entry }] }
          else σ
  | .publish i a =>
      match σ.frames[i]? with
      | none => σ
      | some f => σ.stepPublish i f a
  | .deliver n worker =>
      match σ.stream[n]? with
      | none => σ
      | some e =>
          if e.acked then σ
          else
            { σ with deliveries := σ.deliveries ++
              [{ worker := worker, entry := n, message := e.message }] }
  | .delivery i a =>
      match σ.deliveries[i]? with
      | none => σ
      | some d => σ.applyEffect i d (d.step repo cfg σ.backoff σ.store a)
  | .crashWorker worker =>
      { σ with
        deliveries := σ.deliveries.filter (fun d => d.worker ≠ worker)
        backoff := σ.backoff.rows.foldl
          (fun t b => if b.worker = worker then t.erase b.key else t) σ.backoff }
  | .expireLease taskId =>
      { σ with store := { σ.store with leases := σ.store.leases.erase taskId } }
  | .scanCollect batchSize clock =>
      let candidates := sc.collectCandidates repo clock batchSize σ.store
      { σ with scans := σ.scans ++ [{ scanned := candidates.length, remaining := candidates }] }
  | .scanCollectRaises e =>
      { σ with scans := σ.scans ++ [{ scanned := 0, remaining := [], aborted := some e }] }
  | .scan k a =>
      match σ.scans[k]? with
      | none => σ
      | some scan => σ.stepScan repo cfg sc k scan a

end Sys

end CartoonDemo
