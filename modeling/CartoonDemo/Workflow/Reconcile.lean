import CartoonDemo.Workflow.Engine

/-!
# CartoonDemo.Workflow.Reconcile

The **reconciliation scanner** (`workflow/reconcile.py`): it collects candidates by four
patterns, reads each candidate's row again, and repairs it by recreating a task with its
outbox row or by failing the workflow.

The listing methods the scanner asks for with `getattr` exist on the in-memory repositories
only; over PostgreSQL the lists are empty (`listTasks` and its siblings). Each repair is a
transaction of its own, and an exception leaves `scan_and_repair` with the repairs before it
committed, so the scan returns its outcome and the store side by side.
-/

namespace CartoonDemo

open TransitionExecutor

/-- `_IN_FLIGHT`. -/
def TaskStatus.inFlight : TaskStatus → Bool
  | .pending | .dispatched | .inProgress => true
  | _ => false

/-- The patterns of the scanner. -/
inductive PatternId
  | rp001 | rp002 | rp003 | rp004
  deriving DecidableEq, Repr

/-- `_PATTERN_PRIORITY`. -/
def PatternId.priority : PatternId → Nat
  | .rp003 => 0
  | .rp001 => 1
  | .rp002 => 2
  | .rp004 => 3

/-- `ReconciliationCandidate`; only an `RP-001` candidate always has a task type. -/
inductive ReconciliationCandidate
  | rp001 (workflow : WorkflowRecord) (expectedTaskType : TaskType)
  | rp002 (workflow : WorkflowRecord)
  | rp003 (workflow : WorkflowRecord) (expectedTaskType : Option TaskType)
  | rp004 (workflow : WorkflowRecord)
  deriving DecidableEq, Repr

namespace ReconciliationCandidate

def workflow : ReconciliationCandidate → WorkflowRecord
  | .rp001 w _ | .rp002 w | .rp003 w _ | .rp004 w => w

def patternId : ReconciliationCandidate → PatternId
  | .rp001 _ _ => .rp001
  | .rp002 _ => .rp002
  | .rp003 _ _ => .rp003
  | .rp004 _ => .rp004

def workflowId (c : ReconciliationCandidate) : String := c.workflow.workflowId

end ReconciliationCandidate

structure ReconciliationReport where
  workflowId : String
  repairAction : PatternId
  repaired : Bool
  detail : Option String := none
  deriving DecidableEq, Repr

structure ReconciliationResult where
  scannedCount : Nat
  repairedCount : Nat
  reports : List ReconciliationReport
  deriving DecidableEq, Repr

/-- The configured scanner. `TRANSIENT_STATES` is a `frozenset`, so the order in which it is
iterated is some order of its members. -/
structure ReconciliationScanner where
  stuckThresholdOverrides : WorkflowState → Option Time := fun _ => none
  transientOrder : List WorkflowState := transientStates
  isOrder : transientOrder.Perm transientStates := by exact List.Perm.refl _

namespace ReconciliationScanner

/-! ### Listings

The reconciler asks whether the repository has these methods, and does without them if not.
-/

/-- `_list_tasks`. -/
def listTasks (repo : WorkflowRepoKind) (s : Store) (workflowId : String) : List TaskRecord :=
  match repo with
  | .fakes => listTasksForWorkflow s workflowId
  | .postgres => []

/-- `_list_unpublished`. -/
def listUnpublished (repo : WorkflowRepoKind) (s : Store) (workflowId : String) :
    List OutboxEntry :=
  match repo with
  | .fakes => listUnpublishedOutboxForWorkflow s workflowId
  | .postgres => []

/-- `list_workflows_for_reconciliation`, when the repository has it. -/
def listWorkflows (repo : WorkflowRepoKind) (s : Store) (states : List WorkflowState)
    (updatedBefore : Option Time) (limit : Nat) : List WorkflowRecord :=
  match repo with
  | .fakes => listWorkflowsForReconciliation s states updatedBefore limit
  | .postgres => []

/-- `max(…, key=created_at)`: the first of the newest. -/
def newest : List TaskRecord → Option TaskRecord
  | [] => none
  | t :: ts => some (ts.foldl (fun best t => if best.createdAt < t.createdAt then t else best) t)

/-- `_latest_task_of_type`. -/
def latestTaskOfType (tasks : List TaskRecord) (taskType : TaskType) : Option TaskRecord :=
  newest (tasks.filter (fun t => t.taskType = taskType))

/-- `_has_unpublished`. -/
def hasUnpublished (unpublished : List OutboxEntry) (taskType : TaskType) : Bool :=
  unpublished.any (fun e => e.taskType = taskType)

/-! ### Evaluating a workflow -/

/-- `_rp001_expected_task`. -/
def rp001ExpectedTask (workflow : WorkflowRecord) (tasks : List TaskRecord)
    (unpublished : List OutboxEntry) : Option TaskType :=
  if workflow.state ≠ .generatingScenario then expectedOutboxTask workflow.state
  else
    match latestTaskOfType tasks .generateScenario with
    | none => none
    | some latestGen =>
        if latestGen.status.inFlight then none
        else if hasUnpublished unpublished .generateScenario then none
        else some .generateScenario

/-- `_threshold_for`. -/
def thresholdFor (sc : ReconciliationScanner) (state : WorkflowState) : Option Time :=
  match sc.stuckThresholdOverrides state with
  | some t => some t
  | none => stuckThresholdSeconds state

/-- The row has not been written for longer than its state's threshold. -/
def overdue (sc : ReconciliationScanner) (now : Time) (workflow : WorkflowRecord) : Bool :=
  (sc.thresholdFor workflow.state).any (fun threshold => now - workflow.updatedAt > threshold)

/-- `latest_task is not None and latest_task.status in _IN_FLIGHT`. -/
def latestInFlight (latest : Option TaskRecord) : Bool :=
  latest.any (fun t => t.status.inFlight)

/-- `_evaluate_rp003(…).is_stuck`. -/
def isStuck (sc : ReconciliationScanner) (now : Time) (workflow : WorkflowRecord)
    (latest : Option TaskRecord) : Bool :=
  sc.overdue now workflow && !latestInFlight latest

/-- `is_stuck_retriable`. -/
def isStuckRetriable (latest : Option TaskRecord) (maxAttempts : Nat) : Bool :=
  (latest.elim 0 TaskRecord.attempt) < maxAttempts

/-- The task that the scanner looks at for a candidate. -/
def latestExpected (tasks : List TaskRecord) (expected : Option TaskType) : Option TaskRecord :=
  expected.bind (latestTaskOfType tasks)

/-! ### Collecting candidates

Three loops, then one candidate for each workflow, then the batch.
-/

/-- The clock readings of one `collect_candidates`: one for the listings, and one each time a
workflow is evaluated. -/
structure CollectClock where
  listed : Time
  evaluated : String → Time

/-- The `RP-003` candidate of one listed row, if it is stuck. -/
def rp003Candidate (sc : ReconciliationScanner) (repo : WorkflowRepoKind) (clock : CollectClock)
    (s : Store) (row : WorkflowRecord) : Option ReconciliationCandidate :=
  let tasks := listTasks repo s row.workflowId
  let expected := rp001ExpectedTask row tasks (listUnpublished repo s row.workflowId)
  if sc.isStuck (clock.evaluated row.workflowId) row (latestExpected tasks expected) then
    some (.rp003 row expected)
  else none

/-- The loop over `TRANSIENT_STATES`. -/
def stuckCandidates (sc : ReconciliationScanner) (repo : WorkflowRepoKind) (clock : CollectClock)
    (batchSize : Nat) (s : Store) : List ReconciliationCandidate :=
  sc.transientOrder.flatMap fun state =>
    match sc.thresholdFor state with
    | none => []
    | some threshold =>
        (listWorkflows repo s [state] (some (clock.listed - threshold)) batchSize).filterMap
          (sc.rp003Candidate repo clock s)

/-- `scan_states`. -/
def scanStates : List WorkflowState :=
  [.collecting, .collected, .topicSelected, .scenarioGenerated, .generatingScenario]

/-- The `RP-001` or `RP-002` candidate of one listed row. -/
def outboxCandidate (repo : WorkflowRepoKind) (s : Store) (row : WorkflowRecord) :
    Option ReconciliationCandidate :=
  if row.state.isTerminal then none
  else
    let unpublished := listUnpublished repo s row.workflowId
    if !unpublished.isEmpty then some (.rp002 row)
    else
      (rp001ExpectedTask row (listTasks repo s row.workflowId) unpublished).map (.rp001 row)

/-- The loop over `scan_states`. -/
def outboxCandidates (repo : WorkflowRepoKind) (batchSize : Nat) (s : Store) :
    List ReconciliationCandidate :=
  (listWorkflows repo s scanStates none batchSize).filterMap (outboxCandidate repo s)

/-- One step of the loop over the unpublished entries. -/
def terminalStep (s : Store) (candidates : List ReconciliationCandidate) (entry : OutboxEntry) :
    List ReconciliationCandidate :=
  if candidates.any (fun c => c.workflowId = entry.workflowId) then candidates
  else
    match getWorkflow s entry.workflowId with
    | none => candidates
    | some row => if row.state.isTerminal then candidates ++ [.rp004 row] else candidates

/-- One step of `_dedupe_candidates`: the dictionary keeps the position of the first
candidate and the candidate of the best priority. -/
def dedupeStep (byId : Table ReconciliationCandidate.workflowId)
    (candidate : ReconciliationCandidate) : Table ReconciliationCandidate.workflowId :=
  match byId.get? candidate.workflowId with
  | none => byId.upsert candidate
  | some existing =>
      if candidate.patternId.priority < existing.patternId.priority then byId.upsert candidate
      else byId

/-- `_dedupe_candidates`. -/
def dedupeCandidates (candidates : List ReconciliationCandidate) :
    List ReconciliationCandidate :=
  (candidates.foldl dedupeStep Table.empty).rows

/-- `collect_candidates`. -/
def collectCandidates (sc : ReconciliationScanner) (repo : WorkflowRepoKind)
    (clock : CollectClock) (batchSize : Nat) (s : Store) : List ReconciliationCandidate :=
  let candidates := sc.stuckCandidates repo clock batchSize s ++ outboxCandidates repo batchSize s
  let candidates := (fetchUnpublished s batchSize).foldl (terminalStep s) candidates
  (dedupeCandidates candidates).take batchSize

/-! ### Repairing

A candidate is looked at again before it is repaired.
-/

/-- What a repair transaction does. -/
inductive RepairPlan
  | recreate (workflow : WorkflowRecord) (taskType : TaskType) (attempt : Nat)
  | fail (workflow : WorkflowRecord)
  deriving DecidableEq, Repr

def RepairPlan.workflow : RepairPlan → WorkflowRecord
  | .recreate w _ _ | .fail w => w

/-- The outcome of looking at a candidate again. -/
inductive Inspection
  | skip (report : ReconciliationReport)
  | repair (plan : RepairPlan) (report : ReconciliationReport)
  deriving DecidableEq, Repr

/-- The loop body of `scan_and_repair` up to the repair transaction. -/
def inspectCandidate (sc : ReconciliationScanner) (repo : WorkflowRepoKind) (cfg : AppConfig)
    (now : Time) (candidate : ReconciliationCandidate) (s : Store) : Inspection :=
  let skip (detail : Option String) : Inspection :=
    .skip { workflowId := candidate.workflowId, repairAction := candidate.patternId,
            repaired := false, detail := detail }
  let repair (plan : RepairPlan) (detail : Option String) : Inspection :=
    .repair plan { workflowId := candidate.workflowId, repairAction := candidate.patternId,
                   repaired := true, detail := detail }
  match getWorkflow s candidate.workflowId with
  | none => skip (some "version_mismatch_skip")
  | some fresh =>
      if fresh.stateVersion ≠ candidate.workflow.stateVersion then
        skip (some "version_mismatch_skip")
      else
        match candidate with
        | .rp002 _ => skip (some "outbox_pending_publish")
        | .rp004 _ => skip (some "terminal_unpublished_outbox")
        | .rp001 _ expected => repair (.recreate fresh expected 1) none
        | .rp003 _ expected =>
            let latest := latestExpected (listTasks repo s fresh.workflowId) expected
            if !sc.isStuck now fresh latest then skip none
            else
              match expected with
              | some taskType =>
                  if isStuckRetriable latest (cfg.maxAttempts taskType) then
                    repair (.recreate fresh taskType (latest.elim 0 TaskRecord.attempt + 1))
                      (some "outbox_retry")
                  else repair (.fail fresh) none
              | none => repair (.fail fresh) none

/-- The request of the `RP-003` repair that fails a workflow. -/
def repairRequest (workflow : WorkflowRecord) : TransitionRequest :=
  { workflowId := workflow.workflowId, expectedState := workflow.state,
    signal := .reconciliationRepair, reason := "stuck_state_timeout" }

/-- The repair transaction. -/
def performRepair (repo : WorkflowRepoKind) (cfg : AppConfig) (env : Env) (plan : RepairPlan)
    (s : Store) : Except PyException Store :=
  match plan with
  | .recreate workflow taskType attempt =>
      .ok (recreateExpectedOutbox env workflow taskType attempt s).2
  | .fail workflow =>
      (WorkflowEngine.applyTransition repo cfg env (repairRequest workflow) s).map Prod.snd

/-- What one scan takes from its surroundings: the clock while it collects, the clock when it
inspects the candidate of a workflow, and what the repair of that workflow draws. A workflow
is inspected and repaired at most once in a scan. -/
structure ScanEnv where
  collect : CollectClock
  inspected : String → Time
  repair : String → Env

/-- A clock that stands at `now`, and the `n`-th identifiers for every repair. -/
def ScanEnv.numbered (now : Time) (n : Nat) : ScanEnv :=
  { collect := { listed := now, evaluated := fun _ => now }, inspected := fun _ => now,
    repair := fun _ => Env.numbered now n }

/-- The loop of `scan_and_repair` over the candidates. -/
def repairAll (sc : ReconciliationScanner) (repo : WorkflowRepoKind) (cfg : AppConfig)
    (env : ScanEnv) : List ReconciliationCandidate → Store →
    Except PyException (List ReconciliationReport) × Store
  | [], s => (.ok [], s)
  | candidate :: rest, s =>
      match sc.inspectCandidate repo cfg (env.inspected candidate.workflowId) candidate s with
      | .skip report =>
          let (outcome, s) := repairAll sc repo cfg env rest s
          (outcome.map (report :: ·), s)
      | .repair plan report =>
          match performRepair repo cfg (env.repair candidate.workflowId) plan s with
          | .error e => (.error e, s)
          | .ok s =>
              let (outcome, s) := repairAll sc repo cfg env rest s
              (outcome.map (report :: ·), s)

/-- `scan_and_repair`. -/
def scanAndRepair (sc : ReconciliationScanner) (repo : WorkflowRepoKind) (cfg : AppConfig)
    (env : ScanEnv) (batchSize : Nat) (s : Store) :
    Except PyException ReconciliationResult × Store :=
  let candidates := sc.collectCandidates repo env.collect batchSize s
  let (outcome, s) := sc.repairAll repo cfg env candidates s
  (outcome.map fun reports =>
    { scannedCount := candidates.length,
      repairedCount := (reports.filter ReconciliationReport.repaired).length,
      reports := reports }, s)

end ReconciliationScanner

end CartoonDemo
