import CartoonDemo.Worker.Handlers

/-!
# CartoonDemo.Worker.Loop

The **transactions of the worker loop** (`worker/loop.py`): the stage transaction with its
success path, dispatch bridge and losing branch, and the two failure transactions. The
control flow between them, with every place at which other processes interleave, is in
`System.Model`.

`_apply_dispatch_bridge_transitions` is a `while True` loop. It is written with a fuel
argument here; `bridgeLoop_succ_eq` shows that the loop body runs at most once, so that any
fuel from `1` on gives the source's result.
-/

namespace CartoonDemo

namespace WorkerLoop

open WorkflowEngine

/-- What one stage transaction draws from clocks and `uuid4`, and what the store answers to its
artifact. The loop body of the bridge runs at most once, so one `Env` serves it. -/
structure StageEnv where
  artifactAt : Time
  artifactId : String
  refused : Option PyException := none
  claimedAt : Time
  completedAt : Time
  taskUpdatedAt : Time
  transition : Env
  bridge : Env
  deriving DecidableEq, Repr

/-- A clock that stands at `now` and the `n`-th identifiers of their kind; the transition and
the bridge draw their own. -/
def StageEnv.numbered (now : Time) (n : Nat) : StageEnv :=
  { artifactAt := now, artifactId := "artifact-" ++ toString n, claimedAt := now,
    completedAt := now, taskUpdatedAt := now, transition := Env.numbered now (2 * n),
    bridge := Env.numbered now (2 * n + 1) }

/-- `DeliveryContext`, as far as the transactions read it. -/
structure DeliveryContext where
  message : TaskMessage
  task : TaskRecord
  idempotencyKey : String
  deriving DecidableEq, Repr

/-! ### The dispatch bridge

A stage that ends in a state between two stages is moved on at once.
-/

/-- `pause_after_enqueue`. -/
def pauseAfterEnqueue : WorkflowState → Bool
  | .collected | .topicSelected | .scenarioGenerated => true
  | _ => false

/-- `post_stage_bridge`. -/
def postStageBridge : WorkflowState → Bool
  | .reviewPassed | .revisionRequired => true
  | _ => false

/-- `active_execution_states`. -/
def activeExecutionState : WorkflowState → Bool
  | .selectingTopic | .generatingScenario | .reviewing | .awaitingHumanApproval => true
  | _ => false

/-- The loop condition `needs_bridge`. -/
def needsBridge (current : TransitionResult) : Bool :=
  (current.enqueuedTask.isSome && pauseAfterEnqueue current.toState) ||
    postStageBridge current.toState

/-- The request of one bridge step. -/
def bridgeRequest (workflowId : String) (expected : WorkflowState) : TransitionRequest :=
  { workflowId := workflowId, expectedState := expected, signal := .stageCompleted,
    reason := "dispatch_bridge" }

/-- `_apply_dispatch_bridge_transitions`. -/
def bridgeLoop (repo : WorkflowRepoKind) (cfg : AppConfig) (env : Env) (workflowId : String) :
    Nat → TransitionResult → Store → Except PyException Store
  | 0, _, _ => .error (.other "RuntimeError" "dispatch bridge did not terminate")
  | fuel + 1, current, s =>
      if needsBridge current then
        match applyTransition repo cfg env (bridgeRequest workflowId current.toState) s with
        | .error e => .error e
        | .ok (next, s) =>
            if activeExecutionState next.toState then .ok s
            else bridgeLoop repo cfg env workflowId fuel next s
      else .ok s

/-- Enough fuel for the bridge. -/
def bridgeFuel : Nat := 2

/-! ### The success path -/

/-- `text or default`. -/
def textOr (text : Option String) (default : String) : String :=
  match text with
  | none | some "" => default
  | some t => t

/-- The request of the stage's own transition. -/
def stageRequest (ctx : DeliveryContext) (result : TaskHandlerResult) (reason : String) :
    TransitionRequest :=
  { workflowId := ctx.message.workflowId,
    expectedState := WorkflowStateGuard.expectedStateForTask ctx.task.taskType,
    signal := result.transitionSignal.getD .stageCompleted, reason := reason }

/-- `_scenario_c_loser_path`: the completion is already recorded; catch the workflow up
unless it has reached the stage's target state. -/
def scenarioCLoserPath (repo : WorkflowRepoKind) (cfg : AppConfig) (env : StageEnv)
    (ctx : DeliveryContext) (result : TaskHandlerResult) (s : Store) : Except PyException Store :=
  match getWorkflow s ctx.message.workflowId with
  | none => .ok s
  | some workflow =>
      match WorkflowStateGuard.postTransitionState ctx.task.taskType
          (result.transitionSignal.getD .stageCompleted) with
      | .error e => .error e
      | .ok expectedPost =>
          if workflow.state = expectedPost then .ok s
          else
            match applyTransition repo cfg env.transition
                (stageRequest ctx result "scenario_c_loser") s with
            | .error (.workflowConflict m w) =>
                match getWorkflow s ctx.message.workflowId with
                | some reloaded =>
                    if reloaded.state = expectedPost then .ok s
                    else .error (.workflowConflict m w)
                | none => .error (.workflowConflict m w)
            | .error e => .error e
            | .ok (_, s) =>
                match s.tasks.get? ctx.message.taskId with
                | none => .ok s
                | some task =>
                    if task.status ≠ .completed then
                      updateTask env.taskUpdatedAt ctx.message.taskId .completed none none
                        (some env.completedAt) s
                    else .ok s

/-- `classify_handler_result`, of which the success path reads the retryable flag. -/
def handlerFailureRetryable (result : TaskHandlerResult) : Bool :=
  result.outcome = .retryableFailure

/-- The part of the success path after the claim went through. -/
def completeStage (repo : WorkflowRepoKind) (cfg : AppConfig) (env : StageEnv)
    (ctx : DeliveryContext) (result : TaskHandlerResult) (s : Store) :
    Except PyException Store := do
  let (current, s) ← applyTransition repo cfg env.transition
    (stageRequest ctx result (textOr result.reason "stage completed")) s
  let s ← bridgeLoop repo cfg env.bridge ctx.message.workflowId bridgeFuel current s
  if ctx.message.taskId = "" then .ok s
  else
    updateTask env.taskUpdatedAt ctx.message.taskId .completed none none (some env.completedAt) s

/-- The completion record that `claim_completion` inserts. -/
def completionRecord (env : StageEnv) (ctx : DeliveryContext) (result : TaskHandlerResult) :
    IdempotencyRecord :=
  { idempotencyKey := ctx.idempotencyKey, workflowId := ctx.message.workflowId,
    taskId := ctx.message.taskId, completedAt := env.claimedAt,
    resultArtifactId := result.resultArtifactId }

/-- `_commit_success_path`. -/
def commitSuccessPath (repo : WorkflowRepoKind) (cfg : AppConfig) (env : StageEnv)
    (ctx : DeliveryContext) (result : TaskHandlerResult) (s : Store) : Except PyException Store :=
  if result.outcome ≠ .completed ∧ result.outcome ≠ .duplicateReused then
    .error (.taskExecution (handlerFailureRetryable result)
      (executionErrorMessage "" "" ctx.task.taskType (textOr result.reason "handler failure")))
  else
    match tryInsertIdempotency (completionRecord env ctx result) s with
    | none => scenarioCLoserPath repo cfg env ctx result s
    | some s => completeStage repo cfg env ctx result s

/-- The context handed to the stage handler. -/
def handlerContext (env : StageEnv) (ctx : DeliveryContext) : HandlerContext :=
  { message := ctx.message, task := ctx.task, now := env.artifactAt, artifactId := env.artifactId,
    refused := env.refused }

/-- The transaction of `_process_delivery`: the handler, then the success path. -/
def stageTransaction (repo : WorkflowRepoKind) (cfg : AppConfig) (env : StageEnv)
    (ctx : DeliveryContext) (reply : AgentReply) (s : Store) : Except PyException Store := do
  let (result, s) ← handleTask ctx.task.taskType (handlerContext env ctx) reply s
  commitSuccessPath repo cfg env ctx result s

/-! ### The failure transactions

What is written when a stage has failed, and whether it is tried again.
-/

/-- What the `except` clauses of `_process_delivery` decide about an exception. -/
inductive FailureDecision
  /-- A lease conflict: nothing is written and nothing is acked. -/
  | ignore
  | retry (effectiveAttempt : Nat)
  | permanent (taskType : TaskType) (exhausted : Bool) (errorClass : String)
  deriving DecidableEq, Repr

/-- The `except` clauses of `_process_delivery`. -/
def failureDecision (cfg : AppConfig) (task : TaskRecord) (message : TaskMessage) :
    PyException → FailureDecision
  | .leaseConflict _ _ => .ignore
  | .handlerNotFound taskType => .permanent taskType false "WKR_NO_HANDLER"
  | e =>
      let attempt := RetryClassifier.effectiveAttempt task message
      let exhausted := RetryClassifier.isExhausted cfg attempt task.taskType
      let (retryable, errorClass) := RetryClassifier.classifyException e
      if retryable && !exhausted then .retry attempt
      else .permanent task.taskType exhausted errorClass

/-- The transaction of `_handle_retryable_failure`. -/
def retryableFailure (now : Time) (task : TaskRecord) (effectiveAttempt : Nat) (reason : String)
    (s : Store) : Except PyException Store :=
  updateTask now task.taskId .dispatched (some (effectiveAttempt + 1)) (some reason) none s

/-- The request of `_handle_permanent_failure`. -/
def failureRequest (message : TaskMessage) (taskType : TaskType) (exhausted : Bool)
    (errorClass : String) : TransitionRequest :=
  { workflowId := message.workflowId,
    expectedState := WorkflowStateGuard.expectedStateForTask taskType,
    signal := if exhausted then .retriesExhausted else .unrecoverableError,
    reason := errorClass }

/-- The transaction of `_handle_permanent_failure`. -/
def permanentFailure (repo : WorkflowRepoKind) (cfg : AppConfig) (env : Env)
    (message : TaskMessage) (taskType : TaskType) (task : TaskRecord) (exhausted : Bool)
    (errorClass : String) (s : Store) : Except PyException Store := do
  let (_, s) ← applyTransition repo cfg env
    (failureRequest message taskType exhausted errorClass) s
  updateTask env.updatedAt task.taskId (if exhausted then .deadLetter else .failed) none
    (some errorClass) none s

end WorkerLoop

end CartoonDemo
