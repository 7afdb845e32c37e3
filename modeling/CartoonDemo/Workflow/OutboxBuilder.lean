import CartoonDemo.Library.PyStr
import CartoonDemo.Persistence.Store
import CartoonDemo.Workflow.TransitionTable

/-!
# CartoonDemo.Workflow.OutboxBuilder

Task and outbox **specs** (`workflow/outbox_builder.py`): the logical version of the
operation a dispatch stands for, the idempotency key made from it, and the task row,
outbox row and payload that are written together.

The key is a real string; `formatIdempotencyKey_inj` says that it still identifies
workflow, task type and version.
-/

namespace CartoonDemo

/-- What one engine operation takes from its surroundings: the clock readings and fresh
identifiers it draws. -/
structure Env where
  /-- `_now()` in `create_workflow`. -/
  createdAt : Time
  /-- `now` in `update_workflow_state`. -/
  updatedAt : Time
  /-- `now` in `_build_transition`. -/
  occurredAt : Time
  /-- The clock of `OutboxSpecBuilder`. -/
  builtAt : Time
  /-- `now` in `OutboxRepo.insert`. -/
  insertedAt : Time
  workflowId : String
  transitionId : String
  taskId : String
  outboxId : String
  deriving DecidableEq, Repr

/-- A clock that stands at `now` and the `n`-th identifiers of their kind. -/
def Env.numbered (now : Time) (n : Nat) : Env :=
  { createdAt := now, updatedAt := now, occurredAt := now, builtAt := now, insertedAt := now,
    workflowId := "wf-" ++ toString n, transitionId := "transition-" ++ toString n,
    taskId := "task-" ++ toString n, outboxId := "outbox-" ++ toString n }

/-- The dispatch spec reported to the caller. -/
structure OutboxTaskSpec where
  taskId : String
  workflowId : String
  taskType : TaskType
  attempt : Nat
  payloadReference : String
  idempotencyKey : String
  createdAt : Time
  deriving DecidableEq, Repr

structure OutboxBuildResult where
  taskSpec : OutboxTaskSpec
  taskRecord : TaskRecord
  outboxInsert : OutboxInsertSpec
  payload : TaskPayload
  deriving DecidableEq, Repr

/-! ### Logical versions and keys

The key of an operation names its workflow, its task type and its version.
-/

/-- The logical version of the active scenario, `0` without one. -/
def activeScenarioVersion (s : Store) (workflowId : String) : Int :=
  match getActiveArtifact s workflowId .scenario with
  | some active => active.logicalVersion
  | none => 0

/-- `LogicalVersionTracker.resolve_for_task`. -/
def resolveForTask (s : Store) (workflowId : String) (taskType : TaskType)
    (increment : Bool) : Int :=
  match taskType with
  | .collect | .selectTopic => 1
  | .generateScenario | .reviewScenario =>
      let base := max (activeScenarioVersion s workflowId) 1
      if increment then base + 1 else base

/-- `format_idempotency_key`. -/
def formatIdempotencyKey (workflowId : String) (taskType : TaskType) (logicalVersion : Int) :
    String :=
  workflowId ++ ":" ++ taskType.value ++ ":" ++ toString logicalVersion

theorem TaskType.value_inj {t t' : TaskType} (h : t.value = t'.value) : t = t' := by
  cases t <;> cases t' <;> first | rfl | exact absurd h (by decide)

/-- A key identifies the logical operation. -/
theorem formatIdempotencyKey_inj {w w' : String} {t t' : TaskType} {n n' : Int}
    (h : formatIdempotencyKey w t n = formatIdempotencyKey w' t' n') :
    w = w' ∧ t = t' ∧ n = n' := by
  have hcolon : ∀ t : TaskType, ':' ∉ t.value.toList := by intro t; cases t <;> decide
  obtain ⟨hw, ht, hn⟩ := PyStr.joined_inj (hcolon t) (hcolon t') h
  exact ⟨hw, TaskType.value_inj ht, hn⟩

/-- `_payload_for_task_type`. -/
def payloadForTaskType : TaskType → Int → TaskPayload
  | .collect, _ | .selectTopic, _ => {}
  | .generateScenario, n | .reviewScenario, n => { logicalVersion := some n }

/-! ### Building -/

namespace OutboxSpecBuilder

/-- `OutboxSpecBuilder.build`. -/
def build (env : Env) (workflow : WorkflowRecord) (taskType : TaskType) (logicalVersion : Int)
    (attempt : Nat) : OutboxBuildResult :=
  let payloadRef : PayloadReference := { refId := env.taskId, refKind := taskPayloadRefKind }
  let key := formatIdempotencyKey workflow.workflowId taskType logicalVersion
  { taskSpec :=
      { taskId := env.taskId, workflowId := workflow.workflowId, taskType := taskType,
        attempt := attempt, payloadReference := env.taskId, idempotencyKey := key,
        createdAt := env.builtAt }
    taskRecord :=
      { taskId := env.taskId, workflowId := workflow.workflowId, taskType := taskType,
        attempt := attempt, status := .pending, payloadReference := payloadRef,
        idempotencyKey := key, createdAt := env.builtAt, updatedAt := env.builtAt }
    outboxInsert :=
      { workflowId := workflow.workflowId, taskId := env.taskId, taskType := taskType,
        payloadReference := payloadRef, idempotencyKey := key }
    payload := payloadForTaskType taskType logicalVersion }

/-- `OutboxSpecBuilder.build_for_decision`, of the decision's task type and increment
flag. -/
def buildForDecision (env : Env) (workflow : WorkflowRecord) (outboxTaskType : Option TaskType)
    (increment : Bool) (s : Store) : Option OutboxBuildResult :=
  outboxTaskType.map fun taskType =>
    build env workflow taskType (resolveForTask s workflow.workflowId taskType increment) 1

end OutboxSpecBuilder

end CartoonDemo
