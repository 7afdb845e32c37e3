import Mathlib.Data.Prod.Lex
import CartoonDemo.Library.Process
import CartoonDemo.Library.PyStr
import CartoonDemo.System.Model

/-!
# CartoonDemo.Runtime.Outbox

The **outbox publisher** (`runtime/outbox.py`), as a process: `publishBatch` is `_publish_batch`
with its two retry loops, and `OutboxCall` lists what it calls. What the calls do is
`OutboxCall.answer`: `fetch_unpublished` and `mark_published` of the PostgreSQL repository,
`get_task`, the dispatch hook, and `RedisTaskQueue.enqueue` with its message validation.

A `Reply` says what the outside adds to a call: an exception, raised after or instead of the
effect of the call; the time; and the order in which the database returns rows of the same
`created_at`. The delays between attempts are left out.
-/

namespace CartoonDemo

/-- The exceptions that the publisher tells apart. -/
inductive PublishException
  /-- `OutboxPublishPermanentError`. -/
  | permanent (message : String)
  /-- `OutboxPublishTransientError`. -/
  | transient (message : String)
  | invalidTaskMessage (message : String)
  | taskQueueConnection (message : String)
  | taskQueueUnavailable (message : String)
  /-- `RuntimeError` and its subclasses, such as `InjectedFailureError`. -/
  | runtime (className message : String)
  /-- Every other class, such as the persistence errors. -/
  | other (className message : String)
  deriving DecidableEq, Repr

namespace PublishException

/-- `exc.__class__.__name__`. -/
def className : PublishException → String
  | .permanent _ => "OutboxPublishPermanentError"
  | .transient _ => "OutboxPublishTransientError"
  | .invalidTaskMessage _ => "InvalidTaskMessageError"
  | .taskQueueConnection _ => "TaskQueueConnectionError"
  | .taskQueueUnavailable _ => "TaskQueueUnavailableError"
  | .runtime c _ | .other c _ => c

/-- The classes after which the retry loops try again. -/
def retried : PublishException → Bool
  | .taskQueueConnection _ | .taskQueueUnavailable _ | .runtime _ _ => true
  | _ => false

/-- The classes that `_publish_batch` counts as a failed row. -/
def counted : PublishException → Bool
  | .permanent _ | .transient _ => true
  | _ => false

end PublishException

/-! ### The queue -/

/-- `WORKER_STREAM_BY_TASK_TYPE`. -/
def workerStream : TaskType → String
  | .collect => "cartoon:tasks:collect"
  | .selectTopic => "cartoon:tasks:select_topic"
  | .generateScenario => "cartoon:tasks:generate_scenario"
  | .reviewScenario => "cartoon:tasks:review_scenario"

/-- `resolve_outbox_stream`. -/
def resolveOutboxStream (entry : OutboxEntry) : String := workerStream entry.taskType

/-- The fields of which `MessageValidator.validate` complains. Time stamps have a time zone. -/
def missingFields (m : TaskMessage) : List String :=
  (if PyStr.strip m.taskId = "" then ["task_id"] else []) ++
    (if PyStr.strip m.workflowId = "" then ["workflow_id"] else []) ++
    (if PyStr.strip m.payloadReference = "" then ["payload_reference"] else []) ++
    (if m.attempt < 1 then ["attempt"] else [])

/-- What `MessageValidator.validate` raises about some fields. -/
def invalidFields (missing : List String) : PublishException :=
  .invalidTaskMessage
    ("Invalid task message: missing or invalid fields: " ++ ", ".intercalate missing)

/-- One entry that `XADD` has appended; it is confirmed if `enqueue` returned. -/
structure StreamMessage where
  /-- The row it was enqueued for. -/
  outboxId : String
  stream : String
  message : TaskMessage
  confirmed : Bool
  deriving DecidableEq, Repr

/-- What the publisher shares with everyone else. -/
structure OutboxWorld where
  store : Store := {}
  streams : List StreamMessage := []
  deriving DecidableEq

/-! ### The repository -/

/-- The set that `fetch_unpublished` draws from. -/
def Store.unpublished (s : Store) : List OutboxEntry :=
  s.outbox.rows.filter (fun e => e.status = .pending)

/-- What `ORDER BY created_at` compares, and then the database among equals. -/
def fetchKey (tie : OutboxEntry → Nat) (e : OutboxEntry) : Lex (Time × Nat) :=
  toLex (e.createdAt, tie e)

/-- `fetch_unpublished`, with the order of the database among rows of the same time. -/
def fetchOldest (tie : OutboxEntry → Nat) (limit : Nat) (s : Store) : List OutboxEntry :=
  (s.unpublished.insertionSort (fun a b => fetchKey tie a ≤ fetchKey tie b)).take limit

/-! ### Calls

What a publisher asks of the others, with the answers that they may give.
-/

/-- `OutboxPublishFrame`. -/
structure OutboxPublishFrame where
  entry : OutboxEntry
  stream : String
  message : Option TaskMessage := none
  enqueueAttempts : Nat := 0
  markAttempts : Nat := 0
  lastErrorClass : Option String := none
  deriving DecidableEq, Repr

/-- The calls of `_publish_batch`; those for a row name it, and those in a retry loop the
attempt. -/
inductive OutboxCall
  | fetchUnpublished (limit : Nat)
  | getTask (entry : OutboxEntry)
  | invokeIfActive (entry : OutboxEntry)
  | enqueue (entry : OutboxEntry) (stream : String) (message : TaskMessage) (attempt : Nat)
  | clock (entry : OutboxEntry)
  | markPublished (entry : OutboxEntry) (now : Time) (attempt : Nat)
  deriving DecidableEq, Repr

namespace OutboxCall

abbrev Answer : OutboxCall → Type
  | .fetchUnpublished _ => List OutboxEntry
  | .getTask _ => Option TaskRecord
  | .clock _ => Time
  | .invokeIfActive _ | .enqueue _ _ _ _ | .markPublished _ _ _ => Unit

/-- What the outside adds to a call. -/
structure Reply where
  /-- The exception that the call raises, and whether it still takes effect. -/
  fault : Option (Bool × PublishException) := none
  now : Time := 0
  tie : OutboxEntry → Nat := fun _ => 0

/-- A call that only reads. -/
def Reply.read {α : Type} (r : Reply) (a : α) (w : OutboxWorld) :
    Except PublishException α × OutboxWorld :=
  match r.fault with
  | none => (.ok a, w)
  | some (_, e) => (.error e, w)

/-- `RedisTaskQueue.enqueue`. -/
def answerEnqueue (outboxId stream : String) (message : TaskMessage) (r : Reply) (w : OutboxWorld) :
    Except PublishException Unit × OutboxWorld :=
  match missingFields message, r.fault with
  | [], none =>
      (.ok (), { w with streams := w.streams ++ [⟨outboxId, stream, message, true⟩] })
  | [], some (applied, e) =>
      (.error e,
        if applied then { w with streams := w.streams ++ [⟨outboxId, stream, message, false⟩] }
        else w)
  | missing, _ =>
      (.error (invalidFields missing), w)

/-- `PostgresOutboxRepo.mark_published`. -/
def answerMark (outboxId : String) (now : Time) (r : Reply) (w : OutboxWorld) :
    Except PublishException Unit × OutboxWorld :=
  match r.fault with
  | some (applied, e) =>
      (.error e, if applied then { w with store := markedStore now outboxId w.store } else w)
  | none =>
      match CartoonDemo.markPublished now outboxId w.store with
      | .ok s => (.ok (), { w with store := s })
      | .error _ =>
          (.error (.other "PersistenceNotFoundError"
            ("Outbox entry " ++ outboxId ++ " not found")), w)

/-- What a call does and answers. -/
def answer : (c : OutboxCall) → Reply → OutboxWorld →
    Except PublishException c.Answer × OutboxWorld
  | .fetchUnpublished limit, r, w => r.read (fetchOldest r.tie limit w.store) w
  | .getTask entry, r, w => r.read (w.store.tasks.get? entry.taskId) w
  | .invokeIfActive _, r, w => r.read () w
  | .clock _, r, w => (.ok r.now, w)
  | .enqueue entry stream message _, r, w => answerEnqueue entry.outboxId stream message r w
  | .markPublished entry now _, r, w => answerMark entry.outboxId now r w

end OutboxCall

/-! ### The publisher

The two retry loops, the row and the batch.
-/

abbrev PublishProc (α : Type) := Proc OutboxCall OutboxCall.Answer PublishException α

/-- One call of the publisher. -/
def PublishProc.request (c : OutboxCall) : PublishProc c.Answer := Proc.request c

/-- The message of a row, for its task. -/
def OutboxMessageBuilder.message (entry : OutboxEntry) (task : TaskRecord) : TaskMessage :=
  { taskId := entry.taskId, workflowId := entry.workflowId, taskType := entry.taskType,
    attempt := task.attempt, createdAt := task.createdAt,
    payloadReference := entry.payloadReference.refId }

/-- `OutboxMessageBuilder.build`. -/
def OutboxMessageBuilder.build (entry : OutboxEntry) : PublishProc TaskMessage := do
  match ← PublishProc.request (.getTask entry) with
  | none => .raise (.permanent ("task not found: " ++ entry.taskId))
  | some task => return message entry task

namespace DefaultOutboxPublisherLoop

/-- `OUTBOX_RETRY_MAX_ATTEMPTS`. -/
def maxAttempts : Nat := 5

/-- The indices of `outbox_retry_schedule`. -/
def retrySchedule : List Nat := List.range maxAttempts

/-- The loop of `_enqueue_with_retry`, with the attempts that are left. -/
def enqueueLoop (message : TaskMessage) (frame : OutboxPublishFrame) :
    List Nat → PublishProc OutboxPublishFrame
  | [] => .raise (.transient (frame.lastErrorClass.getD "enqueue_failed"))
  | k :: rest =>
      .call (.enqueue frame.entry frame.stream message k) fun
        | .ok () => .ret frame
        | .error (.invalidTaskMessage m) => .raise (.permanent m)
        | .error e =>
            if e.retried then
              enqueueLoop message { frame with
                enqueueAttempts := frame.enqueueAttempts + 1
                lastErrorClass := some e.className } rest
            else .raise e

/-- `_enqueue_with_retry`. -/
def enqueueWithRetry (frame : OutboxPublishFrame) : PublishProc OutboxPublishFrame :=
  match frame.message with
  | none => .raise (.permanent "message not built")
  | some message => enqueueLoop message frame retrySchedule

/-- The loop of `_mark_published_with_retry`. -/
def markLoop (now : Time) (frame : OutboxPublishFrame) : List Nat → PublishProc Unit
  | [] => .raise (.transient (frame.lastErrorClass.getD "mark_published_failed"))
  | k :: rest =>
      .call (.markPublished frame.entry now k) fun
        | .ok () => .ret ()
        | .error e =>
            if e.retried then
              markLoop now { frame with
                markAttempts := frame.markAttempts + 1
                lastErrorClass := some e.className } rest
            else .raise e

/-- `_mark_published_with_retry`. -/
def markPublishedWithRetry (frame : OutboxPublishFrame) : PublishProc Unit := do
  let now ← PublishProc.request (.clock frame.entry)
  markLoop now frame retrySchedule

/-- The `try` block of `_publish_batch`. -/
def publishRow (entry : OutboxEntry) : PublishProc Unit := do
  let message ← OutboxMessageBuilder.build entry
  PublishProc.request (.invokeIfActive entry)
  let frame ← enqueueWithRetry
    { entry := entry, stream := resolveOutboxStream entry, message := some message }
  markPublishedWithRetry frame

/-- `OutboxPublishBatchResult`. -/
structure OutboxPublishBatchResult where
  fetchedCount : Nat
  publishedCount : Nat := 0
  failedCount : Nat := 0
  skippedCount : Nat := 0
  deriving DecidableEq, Repr

/-- The `for` loop of `_publish_batch`. -/
def publishRows (result : OutboxPublishBatchResult) :
    List OutboxEntry → PublishProc OutboxPublishBatchResult
  | [] => .ret result
  | entry :: rest => (publishRow entry).attempt.bind fun
      | .ok () => publishRows { result with publishedCount := result.publishedCount + 1 } rest
      | .error e =>
          if e.counted then
            publishRows { result with failedCount := result.failedCount + 1 } rest
          else .raise e

/-- `_publish_batch`. -/
def publishBatch (batchSize : Nat) : PublishProc OutboxPublishBatchResult := do
  let rows ← PublishProc.request (.fetchUnpublished batchSize)
  publishRows { fetchedCount := rows.length } rows

end DefaultOutboxPublisherLoop

end CartoonDemo
