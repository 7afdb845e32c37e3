import Mathlib.Data.Prod.Lex
import CartoonDemo.Library.ConsumerGroup
import CartoonDemo.TaskQueue.Message

/-!
# CartoonDemo.TaskQueue.RedisQueue

The **Redis task queue** (`redis_queue.py`, `consumer_groups.py`, `messages.py`) over a stream
with its consumer group. Every call of the client can fail, before or after the server has done
what was asked (`Outages`).

`dequeue` is `obtain` followed by `deliver`: an entry is read, or claimed again from the pending
list, and then decoded. Only an entry that `decode` reports as invalid is acknowledged here. The
actions of everyone who shares the stream are the steps of a machine (`QueueAction.step`).
-/

namespace CartoonDemo

namespace TaskQueue

open MessageValidator MessageSerializer

/-- The id of a stream entry: milliseconds, and a number among those of the millisecond. -/
abbrev StreamId := ℕ ×ₗ ℕ

def StreamId.text (id : StreamId) : String :=
  toString (ofLex id).1 ++ "-" ++ toString (ofLex id).2

abbrev RedisStream := ConsumerGroup StreamId FieldMap String

/-- What a call of the client raises: a timeout, an error reply, or another `RedisError` or
`OSError`. -/
inductive RedisFault
  | timeout (reason : String)
  | response (reason : String)
  | other (reason : String)
  deriving DecidableEq, Repr

/-- `PendingDelivery`. -/
structure PendingDelivery where
  message : TaskMessage
  stream : String
  consumerGroup : String
  deliveryId : StreamId
  dequeuedAt : Time
  deriving DecidableEq

/-- The calls of one `dequeue` that fail. The flag says that the server had done what was asked
when the call failed. -/
structure Outages where
  groups : Option RedisFault := none
  read : Option (RedisFault × Bool) := none
  claim : Option (RedisFault × Bool) := none
  ack : Option (RedisFault × Bool) := none
  deriving DecidableEq, Repr

/-- A call of the client. -/
def perform {α : Type} (outage : Option (RedisFault × Bool)) (operation : RedisStream → RedisStream × α)
    (s : RedisStream) : RedisStream × Except RedisFault α :=
  match outage with
  | none => ((operation s).1, .ok (operation s).2)
  | some (fault, done) => (if done then (operation s).1 else s, .error fault)

/-! ### Texts of errors -/

def connectionMessage (host : String) (port : Nat) (reason : String) : String :=
  "Redis connection failed (" ++ host ++ ":" ++ toString port ++ "): " ++ reason

def unavailableMessage (operation reason : String) : String :=
  "Redis unavailable during " ++ operation ++ ": " ++ reason

def invalidMessageMessage (stream deliveryId : String) (missing : List String) : String :=
  "Invalid task message on stream '" ++ stream ++ "'" ++
    (if deliveryId = "" then "" else ", delivery_id=" ++ deliveryId) ++
    ": missing or invalid fields: " ++
    (if missing.isEmpty then "unknown" else ", ".intercalate missing)

def consumerGroupMessage (stream group reason : String) : String :=
  "Consumer group error on stream '" ++ stream ++ "', group '" ++ group ++ "': " ++ reason

def ackMessage (deliveryId reason : String) : String :=
  "ACK failed for delivery_id '" ++ deliveryId ++ "': " ++ reason

def streamNotFoundMessage (stream : String) : String := "Stream not found: '" ++ stream ++ "'"

/-! ### The queue

The methods of the class, over the operations of a consumer group.
-/

/-- Where the server is, and the stream and the group that exist on it. -/
structure RedisTaskQueue where
  host : String
  port : Nat
  stream : String
  group : String
  deriving DecidableEq, Repr

namespace RedisTaskQueue

/-- `_is_valid_stream_name`. -/
def isValidStreamName (stream : String) : Bool :=
  PyStr.strip stream ≠ "" && !(PyStr.strip stream).toList.any PyStr.isSpace

/-- A `ConsumerGroupError`. -/
def groupError (stream group reason : String) : QueueException :=
  .consumerGroup (consumerGroupMessage stream group reason) stream group

/-- `_validate_stream_for_dequeue`. -/
def validateStreamForDequeue (stream group consumer : String) : Except QueueException Unit :=
  if !isValidStreamName stream then .error (groupError stream group "invalid stream name")
  else if PyStr.strip group = "" then .error (groupError stream group "invalid consumer group")
  else if PyStr.strip consumer = "" then .error (groupError stream group "invalid consumer name")
  else .ok ()

/-- `_validate_stream_for_enqueue`. -/
def validateStreamForEnqueue (stream : String) : Except QueueException Unit :=
  if isValidStreamName stream then .ok ()
  else .error (.streamNotFound (streamNotFoundMessage stream) stream)

variable (q : RedisTaskQueue)

/-- `group_exists`: an error reply means no, another error escapes as it is. -/
def groupExists (outage : Option RedisFault) (stream group : String) : Except QueueException Bool :=
  match outage with
  | none => .ok (stream = q.stream && group = q.group)
  | some (.response _) => .ok false
  | some (.timeout reason) | some (.other reason) => .error (.redis reason)

/-- The handlers around a call of the client. -/
def convert (operation : String) : RedisFault → QueueException
  | .timeout reason => .unavailable (unavailableMessage operation reason)
  | .response reason | .other reason => .connection (connectionMessage q.host q.port reason)

/-- The id `0-0`, from which every claim starts. -/
def claimStart : StreamId := toLex (0, 0)

/-- `_claim_pending_delivery`: the `next_start` of the reply is dropped. -/
def claimPendingDelivery (outage : Option (RedisFault × Bool)) (consumer : String)
    (s : RedisStream) : RedisStream × Except QueueException (Option (StreamId × FieldMap)) :=
  match perform outage (fun s => s.claim consumer claimStart) s with
  | (s, .error fault) => (s, .error (q.convert "dequeue" fault))
  | (s, .ok (_nextStart, message)) => (s, .ok message)

/-- The first half of `dequeue`: the entry that the server gives out. -/
def obtain (env : Outages) (stream group consumer : String) (s : RedisStream) :
    RedisStream × Except QueueException (Option (StreamId × FieldMap)) :=
  match validateStreamForDequeue stream group consumer, q.groupExists env.groups stream group with
  | .error e, _ => (s, .error e)
  | .ok (), .error e => (s, .error e)
  | .ok (), .ok false =>
      (s, .error (groupError stream group "consumer group does not exist"))
  | .ok (), .ok true =>
      match perform env.read (fun s => s.read consumer) s with
      | (s, .error fault) => (s, .error (q.convert "dequeue" fault))
      | (s, .ok (some entry)) => (s, .ok (some entry))
      | (s, .ok none) => q.claimPendingDelivery env.claim consumer s

/-- The second half of `dequeue`: what becomes of an entry. A failed acknowledgement is passed
over. -/
def deliver (env : Outages) (now : Time) (stream group : String) (entry : StreamId × FieldMap)
    (s : RedisStream) : RedisStream × Except QueueException (Option PendingDelivery) :=
  match decode entry.2 with
  | .ok message =>
      (s, .ok (some
        { message, stream, consumerGroup := group, deliveryId := entry.1, dequeuedAt := now }))
  | .error (.invalidTaskMessage _ missing) =>
      ((perform env.ack (fun s => s.ack entry.1) s).1,
        .error (.invalidTaskMessage
          (invalidMessageMessage stream (StreamId.text entry.1) missing) missing))
  | .error e => (s, .error e)

/-- `dequeue`. -/
def dequeue (env : Outages) (now : Time) (stream group consumer : String) (s : RedisStream) :
    RedisStream × Except QueueException (Option PendingDelivery) :=
  match q.obtain env stream group consumer s with
  | (s, .error e) => (s, .error e)
  | (s, .ok none) => (s, .ok none)
  | (s, .ok (some entry)) => deliver env now stream group entry s

/-- `ack`. -/
def ack (outage : Option (RedisFault × Bool)) (delivery : PendingDelivery) (s : RedisStream) :
    RedisStream × Except QueueException Unit :=
  match perform outage (fun s => s.ack delivery.deliveryId) s with
  | (s, .error fault) => (s, .error (q.convert "ack" fault))
  | (s, .ok 0) =>
      let id := StreamId.text delivery.deliveryId
      (s, .error (.ack (ackMessage id "delivery not found or already acknowledged") id))
  | (s, .ok _) => (s, .ok ())

/-- `enqueue`, under the id that the server gives to the entry. -/
def enqueue (outage : Option (RedisFault × Bool)) (id : StreamId) (stream : String)
    (message : TaskMessage) (s : RedisStream) : RedisStream × Except QueueException StreamId :=
  match validateStreamForEnqueue stream, encode message with
  | .error e, _ => (s, .error e)
  | .ok (), .error e => (s, .error e)
  | .ok (), .ok fields =>
      match perform outage
        (fun s => (s.add id (fields.map fun f => (.str f.1, .str f.2)), id)) s with
      | (s, .error fault) => (s, .error (q.convert "enqueue" fault))
      | (s, .ok id) => (s, .ok id)

end RedisTaskQueue

/-- The queue of the collectors. -/
def collectQueue : RedisTaskQueue where
  host := "localhost"
  port := 6379
  stream := "cartoon:tasks:collect"
  group := "cartoon:workers:collect"

/-! ### Everyone who shares the stream

Other consumers and producers act between two calls.
-/

/-- What happens to the stream: an entry is added by anyone, a consumer dequeues, or an id is
acknowledged. -/
inductive QueueAction
  | add (id : StreamId) (fields : FieldMap)
  | dequeue (env : Outages) (now : Time) (stream group consumer : String)
  | ack (outage : Option (RedisFault × Bool)) (delivery : PendingDelivery)
  deriving DecidableEq

namespace QueueAction

/-- The stream after an action. -/
def step (q : RedisTaskQueue) : QueueAction → RedisStream → RedisStream
  | add id fields, s => s.add id fields
  | dequeue env now stream group consumer, s => (q.dequeue env now stream group consumer s).1
  | ack outage delivery, s => (q.ack outage delivery s).1

/-- The entry that the server gives out in an action. -/
def obtained (q : RedisTaskQueue) : QueueAction → RedisStream → Option (StreamId × FieldMap)
  | dequeue env _ stream group consumer, s =>
      match (q.obtain env stream group consumer s).2 with
      | .ok entry => entry
      | .error _ => none
  | _, _ => none

/-- The acknowledgements inside `dequeue` succeed. -/
def AckSucceeds : QueueAction → Prop
  | dequeue env _ _ _ _ => env.ack = none
  | _ => True

instance : DecidablePred AckSucceeds := fun a => by
  cases a <;> unfold AckSucceeds <;> infer_instance

end QueueAction

/-- How often an entry is given out in a run. -/
def deliveries (q : RedisTaskQueue) (entry : StreamId × FieldMap) : RedisStream → List QueueAction → ℕ
  | _, [] => 0
  | s, a :: as =>
      (if a.obtained q s = some entry then 1 else 0) + deliveries q entry (a.step q s) as

end TaskQueue

end CartoonDemo
