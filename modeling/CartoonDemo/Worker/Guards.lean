import CartoonDemo.Workflow.Engine

/-!
# CartoonDemo.Worker.Guards

The **pure decisions** of the worker loop: which deliveries are stale
(`worker/state_mapping.py`), which failures are retried (`worker/retry.py`), and which
logical operation a delivery stands for (`worker/idempotency.py`).
-/

namespace CartoonDemo

/-- The queue message of a task, without its trace carrier. -/
structure TaskMessage where
  taskId : String
  workflowId : String
  taskType : TaskType
  attempt : Nat
  createdAt : Time
  payloadReference : String
  deriving DecidableEq, Repr

namespace WorkflowStateGuard

/-! ### Stale deliveries

What a delivery is taken for is decided from the row that was read before the lease.
-/

/-- `StaleTaskDecision.action`; the `ack_and_skip` reason is always `state_mismatch`. -/
inductive StaleAction
  | proceed | ackAndSkip | ackAndSkipApproval | ackAndSkipTerminal
  deriving DecidableEq, Repr

/-- `expected_state_for_task`. -/
def expectedStateForTask : TaskType → WorkflowState
  | .collect => .collecting
  | .selectTopic => .selectingTopic
  | .generateScenario => .generatingScenario
  | .reviewScenario => .reviewing

/-- `classify_stale_task`. -/
def classifyStaleTask (workflowState : WorkflowState) (taskType : TaskType) : StaleAction :=
  if workflowState = .awaitingHumanApproval then .ackAndSkipApproval
  else if workflowState.isTerminal then .ackAndSkipTerminal
  else if workflowState ≠ expectedStateForTask taskType then .ackAndSkip
  else .proceed

/-- A delivery proceeds exactly in the state of its stage. -/
theorem classifyStaleTask_proceed {st : WorkflowState} {tt : TaskType} :
    classifyStaleTask st tt = .proceed ↔ st = expectedStateForTask tt := by
  cases tt <;> cases st <;> decide

theorem expectedStateForTask_inj {tt tt' : TaskType}
    (h : expectedStateForTask tt = expectedStateForTask tt') : tt = tt' := by
  cases tt <;> cases tt' <;> first | rfl | exact absurd h (by decide)

theorem expectedStateForTask_transient (tt : TaskType) :
    (expectedStateForTask tt).isTransient = true := by
  cases tt <;> rfl

/-- `_POST_TRANSITION_TABLE`. -/
def postTransitionTable : TaskType → TransitionSignal → Option WorkflowState
  | .collect, .stageCompleted => some .collected
  | .selectTopic, .stageCompleted => some .topicSelected
  | .selectTopic, .noSuitableTopic => some .noSuitableTopic
  | .generateScenario, .stageCompleted => some .scenarioGenerated
  | .reviewScenario, .criticPass => some .reviewPassed
  | .reviewScenario, .criticRevise => some .revisionRequired
  | _, _ => none

/-- `post_transition_state`. -/
def postTransitionState (taskType : TaskType) (signal : TransitionSignal) :
    Except PyException WorkflowState :=
  if signal = .retriesExhausted then .ok .failedPermanently
  else if signal = .unrecoverableError then .ok .failed
  else match postTransitionTable taskType signal with
    | some st => .ok st
    | none =>
        .error (.valueError ("Unknown post-transition pair: task_type=" ++ taskType.value ++
          ", signal=" ++ signal.value))

end WorkflowStateGuard

/-! ### Failures -/

/-- `format_worker_message` with all three identifiers. -/
def formatWorkerMessage (code message workflowId taskId : String) (taskType : TaskType) :
    String :=
  "code=" ++ code ++ " " ++ message ++ " workflow_id=" ++ workflowId ++ " task_id=" ++ taskId ++
    " task_type=" ++ taskType.value

/-- `execution_error_message`. -/
def executionErrorMessage (workflowId taskId : String) (taskType : TaskType) (detail : String) :
    String :=
  formatWorkerMessage "WKR_EXECUTION" detail workflowId taskId taskType

/-- `handler_not_found_message`. -/
def handlerNotFoundMessage (taskType : TaskType) : String :=
  "code=WKR_NO_HANDLER No handler registered for task type task_type=" ++ taskType.value

/-- `lease_conflict_message`. -/
def leaseConflictMessage (taskId workerId : String) : String :=
  "code=WKR_LEASE_CONFLICT Lease held by another worker task_id=" ++ taskId ++
    " worker_id=" ++ workerId

/-- `str(err)`. -/
def PyException.str : PyException → String
  | .workflowNotFound m _ | .workflowConflict m _ | .invalidTransition m _ _ _
  | .invalidApproval m _ _ _ | .workflowTerminal m _ _ | .persistenceConflict m
  | .persistenceNotFound m | .persistenceDuplicate m | .persistenceConnection m
  | .taskExecution _ m | .provider _ _ _ m | .collector _ _ m | .agentValidation _ m
  | .agentConfiguration _ m | .valueError m | .typeError m | .other _ m => m
  | .leaseConflict taskId workerId => leaseConflictMessage taskId workerId
  | .handlerNotFound taskType => handlerNotFoundMessage taskType

/-- `type(err).__name__`, for the classes that `classify_exception` reports by name. -/
def PyException.className : PyException → String
  | .workflowNotFound _ _ => "WorkflowNotFoundError"
  | .workflowConflict _ _ => "WorkflowConflictError"
  | .invalidTransition _ _ _ _ => "InvalidTransitionError"
  | .invalidApproval _ _ _ _ => "InvalidApprovalActionError"
  | .workflowTerminal _ _ _ => "WorkflowTerminalError"
  | .persistenceConflict _ => "PersistenceConflictError"
  | .persistenceNotFound _ => "PersistenceNotFoundError"
  | .persistenceDuplicate _ => "PersistenceDuplicateError"
  | .persistenceConnection _ => "PersistenceConnectionError"
  | .leaseConflict _ _ => "LeaseConflictError"
  | .handlerNotFound _ => "HandlerNotFoundError"
  | .taskExecution _ _ => "TaskExecutionError"
  | .provider _ _ _ _ => "ProviderError"
  | .collector _ _ _ => "CollectorError"
  | .agentValidation _ _ => "AgentOutputValidationError"
  | .agentConfiguration _ _ => "AgentConfigurationError"
  | .valueError _ => "ValueError"
  | .typeError _ => "TypeError"
  | .other name _ => name

namespace RetryClassifier

/-- `classify_exception`: whether the failure is retryable, and its error class. -/
def classifyException : PyException → Bool × String
  | .provider retryable _ errorClass _ => (retryable, errorClass)
  | .collector retryable code _ => (retryable, code)
  | .agentValidation code _ => (false, code)
  | .agentConfiguration code _ => (false, code)
  | .taskExecution retryable _ => (retryable, "WKR_EXECUTION")
  | e => (false, e.className)

/-- `effective_attempt`. -/
def effectiveAttempt (task : TaskRecord) (message : TaskMessage) : Nat :=
  max task.attempt message.attempt

/-- `is_exhausted`. -/
def isExhausted (cfg : AppConfig) (attempt : Nat) (taskType : TaskType) : Bool :=
  attempt ≥ cfg.maxAttempts taskType

end RetryClassifier

/-! ### Keys -/

/-- `build_idempotency_key`. -/
def buildIdempotencyKey (workflowId : String) (taskType : TaskType) (logicalVersion : Int) : String :=
  workflowId ++ ":" ++ taskType.value ++ ":" ++ toString logicalVersion

/-- **Keys identify logical operations**: the worker builds the keys of the engine, and equal keys
belong to one workflow, task type and version. -/
theorem idempotency_keys_identify :
    (∀ workflowId taskType logicalVersion,
      formatIdempotencyKey workflowId taskType logicalVersion =
        buildIdempotencyKey workflowId taskType logicalVersion) ∧
    ∀ workflowId workflowId' taskType taskType' logicalVersion logicalVersion',
      formatIdempotencyKey workflowId taskType logicalVersion =
          formatIdempotencyKey workflowId' taskType' logicalVersion' →
        workflowId = workflowId' ∧ taskType = taskType' ∧ logicalVersion = logicalVersion' :=
  ⟨fun _ _ _ => rfl, fun _ _ _ _ _ _ h => formatIdempotencyKey_inj h⟩

theorem idempotency_keys_identify_colons :
    ("a:COLLECT:1" : String) = "a:COLLECT:1" ∧ TaskType.collect = .collect ∧ (2 : Int) = 2 :=
  idempotency_keys_identify.2 "a:COLLECT:1" "a:COLLECT:1" .collect .collect 2 2 rfl

/-! ### Logical versions -/

/-- `_payload_logical_version`: any failure of the read counts as an absent version. -/
def payloadLogicalVersion (s : Store) (task : TaskRecord) : Option Int :=
  match getTaskPayload s task.payloadReference with
  | .error _ => none
  | .ok payload => payload.logicalVersion

/-- `resolve_logical_version`; a task record has no version attribute of its own. Only a
review without a version in its payload asks the active scenario. -/
def resolveLogicalVersion (s : Store) (task : TaskRecord) (message : TaskMessage) :
    Except PyException Int :=
  match task.taskType with
  | .collect | .selectTopic => .ok 1
  | .generateScenario => .ok ((payloadLogicalVersion s task).getD 1)
  | .reviewScenario =>
      match payloadLogicalVersion s task with
      | some n => .ok n
      | none =>
          match getActiveArtifact s message.workflowId .scenario with
          | none => .ok 1
          | some active =>
              match getArtifactContent s active.artifactId with
              | .error e => .error e
              | .ok (.scenario n) => .ok n
              | .ok _ => .ok 1

/-- `build_idempotency_key` of the version the worker resolves for a delivery. -/
def deliveryKey (s : Store) (task : TaskRecord) (message : TaskMessage) :
    Except PyException String :=
  (resolveLogicalVersion s task message).map
    (formatIdempotencyKey message.workflowId task.taskType)

end CartoonDemo
