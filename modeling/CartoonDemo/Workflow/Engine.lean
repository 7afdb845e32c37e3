import CartoonDemo.Workflow.OutboxBuilder

/-!
# CartoonDemo.Workflow.Engine

The **workflow engine** (`workflow/engine.py`, `workflow/executor.py`, `workflow/ids.py`):
`initiate_workflow`, `apply_transition` and `apply_approval_action`, each reading the
workflow row, deciding, and writing row, history, task and outbox together.

An operation has three parts: it reads the workflow row, it prepares what it will write
from that row and the active artifacts (`prepare…`), and the executor writes. Other
operations can come between the parts: the row may have changed by the time the executor
runs, and only the version given to `update_workflow_state` protects it. Telemetry is left
out, and so is the transaction guard, since an operation is always run inside a transaction
here.
-/

namespace CartoonDemo

/-! ### Requests and results -/

structure InitiateWorkflowRequest where
  workflowId : Option String := none
  actor : Option String := none
  deriving DecidableEq, Repr

structure TransitionRequest where
  workflowId : String
  expectedState : WorkflowState
  signal : TransitionSignal
  reason : String
  actor : Option String := none
  deriving DecidableEq, Repr

structure TransitionResult where
  workflowId : String
  fromState : WorkflowState
  toState : WorkflowState
  stateVersion : Nat
  transition : WorkflowTransitionRecord
  outboxWritten : Bool
  enqueuedTask : Option OutboxTaskSpec
  deriving DecidableEq, Repr

structure InitiateWorkflowResult where
  workflowId : String
  state : WorkflowState
  stateVersion : Nat
  transition : WorkflowTransitionRecord
  enqueuedTask : OutboxTaskSpec
  deriving DecidableEq, Repr

structure ApprovalActionResult where
  workflowId : String
  action : ApprovalAction
  fromState : WorkflowState
  toState : WorkflowState
  stateVersion : Nat
  transition : WorkflowTransitionRecord
  enqueuedTask : Option OutboxTaskSpec
  deriving DecidableEq, Repr

/-! ### The executor

What is written in one transaction: the row, the transition and the dispatch.
-/

namespace TransitionExecutor

/-- The `except` clauses around `update_workflow_state`. -/
def translate (workflowId : String) : PyException → PyException
  | .persistenceConflict m => .workflowConflict m workflowId
  | .persistenceNotFound m => .workflowNotFound m workflowId
  | e => e

/-- `create_task` and the outbox insert, when there is something to dispatch. -/
def dispatch (env : Env) : Option OutboxBuildResult → Store → Store
  | none, s => s
  | some o, s =>
      insertOutbox env.insertedAt env.outboxId o.outboxInsert (createTask o.taskRecord o.payload s)

/-- The write sequence the three `execute_…` methods share: compare-and-set of the row,
history, dispatch. -/
def write (repo : WorkflowRepoKind) (env : Env) (workflow : WorkflowRecord)
    (newState : WorkflowState) (failureReason : Option String) (revisionCount : Option Nat)
    (transition : WorkflowTransitionRecord) (outbox : Option OutboxBuildResult) (s : Store) :
    Except PyException (WorkflowRecord × Store) :=
  match updateWorkflowState repo env.updatedAt workflow.workflowId workflow.stateVersion
      newState failureReason revisionCount s with
  | .error e => .error (translate workflow.workflowId e)
  | .ok (updated, s) => .ok (updated, dispatch env outbox (appendTransition transition s))

/-- `execute_transition`. -/
def executeTransition (repo : WorkflowRepoKind) (env : Env) (workflow : WorkflowRecord)
    (decision : TransitionDecision) (transition : WorkflowTransitionRecord)
    (outbox : Option OutboxBuildResult) (revisionCount : Option Nat) (s : Store) :
    Except PyException (TransitionResult × Store) := do
  let (updated, s) ← write repo env workflow decision.toState decision.setFailureReason
    revisionCount transition outbox s
  return ({ workflowId := workflow.workflowId, fromState := decision.fromState,
            toState := decision.toState, stateVersion := updated.stateVersion,
            transition := transition, outboxWritten := outbox.isSome,
            enqueuedTask := outbox.map OutboxBuildResult.taskSpec }, s)

/-- `execute_approval`. -/
def executeApproval (repo : WorkflowRepoKind) (env : Env) (workflow : WorkflowRecord)
    (decision : ApprovalDecision) (transition : WorkflowTransitionRecord)
    (outbox : Option OutboxBuildResult) (s : Store) :
    Except PyException (ApprovalActionResult × Store) := do
  let (updated, s) ← write repo env workflow decision.toState none none transition outbox s
  return ({ workflowId := workflow.workflowId, action := decision.action,
            fromState := decision.fromState, toState := decision.toState,
            stateVersion := updated.stateVersion, transition := transition,
            enqueuedTask := outbox.map OutboxBuildResult.taskSpec }, s)

/-- `execute_initiate`. -/
def executeInitiate (repo : WorkflowRepoKind) (env : Env) (workflow : WorkflowRecord)
    (collectingTransition : WorkflowTransitionRecord) (outbox : OutboxBuildResult) (s : Store) :
    Except PyException (InitiateWorkflowResult × Store) := do
  let (updated, s) ← write repo env workflow .collecting none none collectingTransition
    (some outbox) s
  return ({ workflowId := workflow.workflowId, state := .collecting,
            stateVersion := updated.stateVersion, transition := collectingTransition,
            enqueuedTask := outbox.taskSpec }, s)

/-- `recreate_expected_outbox`: a task and outbox row for the workflow's current state,
with no write to the workflow row. -/
def recreateExpectedOutbox (env : Env) (workflow : WorkflowRecord) (taskType : TaskType)
    (attempt : Nat) (s : Store) : OutboxBuildResult × Store :=
  let logicalVersion :=
    resolveForTask s workflow.workflowId taskType (taskType = .generateScenario)
  let outbox := OutboxSpecBuilder.build env workflow taskType logicalVersion attempt
  (outbox, dispatch env (some outbox) s)

end TransitionExecutor

/-! ### The engine

Each operation reads and decides first (`prepare…`) and writes then, so that others can act in
between.
-/

namespace WorkflowEngine

/-- `_build_transition`. -/
def buildTransition (env : Env) (workflowId : String) (fromState toState : WorkflowState)
    (reason : String) (actor : Option String) : WorkflowTransitionRecord :=
  { transitionId := env.transitionId, workflowId := workflowId, fromState := fromState,
    toState := toState, reason := reason, occurredAt := env.occurredAt, actor := actor }

/-- `WorkflowIdAllocator.allocate`. -/
def allocate (env : Env) (request : InitiateWorkflowRequest) : Except PyException String :=
  match request.workflowId with
  | none => .ok env.workflowId
  | some given =>
      let workflowId := PyStr.strip given
      if workflowId = "" then
        .error (.valueError "workflow_id must be non-empty when provided")
      else .ok workflowId

/-- `WorkflowIdAllocator.validate_no_duplicate`. -/
def validateNoDuplicate (workflowId : String) (s : Store) : Except PyException Unit :=
  match getWorkflow s workflowId with
  | some _ => .error (.workflowConflict ("Workflow " ++ workflowId ++ " already exists") workflowId)
  | none => .ok ()

/-- `initiate_workflow` after the duplicate check. -/
def finishInitiate (repo : WorkflowRepoKind) (env : Env) (workflowId : String)
    (actor : Option String) (s : Store) : Except PyException (InitiateWorkflowResult × Store) := do
  let (workflow, s) ← createWorkflow repo env.createdAt workflowId s
  let outbox := OutboxSpecBuilder.build env workflow .collect 1 1
  let transition :=
    buildTransition env workflowId .created .collecting "workflow_initiated" actor
  TransitionExecutor.executeInitiate repo env workflow transition outbox s

/-- `initiate_workflow`. -/
def initiateWorkflow (repo : WorkflowRepoKind) (env : Env) (request : InitiateWorkflowRequest)
    (s : Store) : Except PyException (InitiateWorkflowResult × Store) := do
  let workflowId ← allocate env request
  validateNoDuplicate workflowId s
  finishInitiate repo env workflowId request.actor s

/-- The reason stored with a failure signal: the table's own, else the request's. -/
def withFailureReason (request : TransitionRequest) (d : TransitionDecision) :
    TransitionDecision :=
  if d.setFailureReason = none ∧
      (request.signal = .unrecoverableError ∨ request.signal = .retriesExhausted) then
    { d with setFailureReason := some request.reason }
  else d

/-- `lookup` as the engine re-raises it, with the workflow id filled in. -/
def decideTransition (cfg : AppConfig) (request : TransitionRequest) (workflow : WorkflowRecord) :
    Except PyException TransitionDecision :=
  match TransitionTable.lookup workflow.state request.signal workflow.revisionCount
      cfg.maxScenarioRevisions with
  | .ok d => .ok (withFailureReason request d)
  | .error (.invalidTransition m _ _ _) =>
      .error (.invalidTransition m request.workflowId workflow.state request.signal)
  | .error e => .error e

/-- What `apply_transition` hands to the executor. -/
structure PreparedTransition where
  workflow : WorkflowRecord
  decision : TransitionDecision
  transition : WorkflowTransitionRecord
  outbox : Option OutboxBuildResult
  newRevision : Option Nat
  deriving DecidableEq, Repr

/-- `apply_transition` from the read of the workflow row to the call of the executor. -/
def prepareTransition (cfg : AppConfig) (env : Env) (request : TransitionRequest)
    (workflow : WorkflowRecord) (s : Store) : Except PyException PreparedTransition :=
  if workflow.state ≠ request.expectedState then
    .error (.workflowConflict
      ("Expected state " ++ request.expectedState.value ++ " but found " ++ workflow.state.value)
      request.workflowId)
  else if workflow.state.isTerminal then
    .error (.invalidTransition
      ("Cannot transition from terminal state " ++ workflow.state.value) request.workflowId
      workflow.state request.signal)
  else
    match decideTransition cfg request workflow with
    | .error e => .error e
    | .ok decision =>
        .ok { workflow := workflow, decision := decision
              transition := buildTransition env request.workflowId workflow.state
                decision.toState request.reason request.actor
              outbox := OutboxSpecBuilder.buildForDecision env workflow decision.outboxTaskType
                decision.incrementLogicalVersion s
              newRevision :=
                if decision.incrementRevisionCount then some (workflow.revisionCount + 1)
                else none }

/-- The executor's part of `apply_transition`. -/
def PreparedTransition.execute (repo : WorkflowRepoKind) (env : Env) (p : PreparedTransition)
    (s : Store) : Except PyException (TransitionResult × Store) :=
  TransitionExecutor.executeTransition repo env p.workflow p.decision p.transition p.outbox
    p.newRevision s

/-- `apply_transition`. -/
def applyTransition (repo : WorkflowRepoKind) (cfg : AppConfig) (env : Env)
    (request : TransitionRequest) (s : Store) : Except PyException (TransitionResult × Store) :=
  match getWorkflow s request.workflowId with
  | none =>
      .error (.workflowNotFound (workflowNotFoundMessage request.workflowId) request.workflowId)
  | some workflow => do
      let p ← prepareTransition cfg env request workflow s
      p.execute repo env s

/-- What `apply_approval_action` hands to the executor. -/
structure PreparedApproval where
  workflow : WorkflowRecord
  decision : ApprovalDecision
  transition : WorkflowTransitionRecord
  outbox : Option OutboxBuildResult
  deriving DecidableEq, Repr

/-- `apply_approval_action` from the read of the workflow row to the call of the
executor. -/
def prepareApproval (env : Env) (action : ApprovalAction) (actor : Option String)
    (workflow : WorkflowRecord) (s : Store) : Except PyException PreparedApproval :=
  if workflow.state ≠ .awaitingHumanApproval then
    if workflow.state.isTerminal then
      .error (.workflowTerminal
        ("Workflow " ++ workflow.workflowId ++ " is terminal in state " ++ workflow.state.value)
        workflow.workflowId workflow.state)
    else
      .error (.invalidApproval
        ("Approval action " ++ action.value ++ " invalid in state " ++ workflow.state.value)
        workflow.workflowId action workflow.state)
  else
    let decision := TransitionTable.lookupApproval action
    .ok { workflow := workflow, decision := decision
          transition := buildTransition env workflow.workflowId workflow.state decision.toState
            ("approval_" ++ action.value) actor
          outbox := OutboxSpecBuilder.buildForDecision env workflow decision.outboxTaskType
            decision.incrementLogicalVersion s }

/-- The executor's part of `apply_approval_action`. -/
def PreparedApproval.execute (repo : WorkflowRepoKind) (env : Env) (p : PreparedApproval)
    (s : Store) : Except PyException (ApprovalActionResult × Store) :=
  TransitionExecutor.executeApproval repo env p.workflow p.decision p.transition p.outbox s

/-- `apply_approval_action`. -/
def applyApprovalAction (repo : WorkflowRepoKind) (env : Env) (workflowId : String)
    (action : ApprovalAction) (actor : Option String) (s : Store) :
    Except PyException (ApprovalActionResult × Store) :=
  match getWorkflow s workflowId with
  | none => .error (.workflowNotFound (workflowNotFoundMessage workflowId) workflowId)
  | some workflow => do
      let p ← prepareApproval env action actor workflow s
      p.execute repo env s

end WorkflowEngine

end CartoonDemo
