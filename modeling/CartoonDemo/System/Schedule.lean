import CartoonDemo.System.Consistent

/-!
# CartoonDemo.System.Schedule

**Uninterrupted processing** of one outbox row: a publisher fetches, enqueues and marks it,
a worker receives the message, executes the stage and acks. The actions name processes by
their position, so a schedule is given the positions its processes will have.
-/

namespace CartoonDemo

open WorkerLoop

/-- A publisher's pass over one row, as frame `frame`. -/
def publishRow (outboxId : String) (frame : Nat) (now : Time) : List Action :=
  [.fetchRow outboxId, .publish frame .enqueue, .publish frame (.mark now)]

/-- A worker's way from the delivery of a stream entry to the end of its stage transaction,
as delivery `i`. -/
def executeEntry (entry i : Nat) (worker leaseId : String) (now : Time) (env : StageEnv)
    (reply : AgentReply) : List Action :=
  [.deliver entry worker, .delivery i .readTask, .delivery i .readWorkflow,
    .delivery i (.takeLease leaseId now), .delivery i .precheck, .delivery i (.execute env reply)]

/-- The rest of a delivery whose stage has committed. -/
def finishDelivery (i : Nat) : List Action :=
  [.delivery i .release, .delivery i (.ackCommitted .ok), .delivery i .close]

/-- The `n`-th outbox row from publishing to the last step, as the `entry`-th message and
delivery `i`; the identifiers its stage draws are numbered `k`. -/
def processRow (now : Time) (n entry i k : Nat) (reply : AgentReply) : List Action :=
  publishRow ("outbox-" ++ toString n) 0 now ++
    executeEntry entry i "worker" ("lease-" ++ toString k) now (StageEnv.numbered now k) reply ++
    finishDelivery i

/-- A workflow `wf` is initiated and its collection and topic selection are processed. -/
def topicRun : List Action :=
  .initiate (Env.numbered 0 0) { workflowId := some "wf" } ::
    (processRow 1 0 0 0 1 (.ok {}) ++ processRow 2 2 1 0 2 (.ok {}))

end CartoonDemo
