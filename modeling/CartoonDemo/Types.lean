import CartoonDemo.Library.Table

/-!
# CartoonDemo.Types

The **value types** shared by the engine, the worker, the publisher and the repositories:
the enumerations with their wire tokens (`value`), the rows of the tables, and the
exceptions that cross module boundaries.

The source declares some enumerations once per package (`persistence.WorkflowState` and
`workflow.WorkflowState`, `persistence.TaskType` and `config.TaskType`) and converts
between them by token; the members coincide, so there is one type here and the
conversions are the identity. Clock readings are integers counting microseconds.
-/

namespace CartoonDemo

/-- A clock reading, in microseconds. -/
abbrev Time := Int

/-- One second of clock time. -/
def seconds (n : Int) : Time := n * 1000000

/-! ### Enumerations -/

/-- The workflow states. -/
inductive WorkflowState
  | created | collecting | collected | selectingTopic | noSuitableTopic | topicSelected
  | generatingScenario | scenarioGenerated | reviewing | revisionRequired | reviewPassed
  | awaitingHumanApproval | approved | rejected | reviewFailed | failed | failedPermanently
  deriving DecidableEq, Repr

def WorkflowState.value : WorkflowState → String
  | created => "CREATED"
  | collecting => "COLLECTING"
  | collected => "COLLECTED"
  | selectingTopic => "SELECTING_TOPIC"
  | noSuitableTopic => "NO_SUITABLE_TOPIC"
  | topicSelected => "TOPIC_SELECTED"
  | generatingScenario => "GENERATING_SCENARIO"
  | scenarioGenerated => "SCENARIO_GENERATED"
  | reviewing => "REVIEWING"
  | revisionRequired => "REVISION_REQUIRED"
  | reviewPassed => "REVIEW_PASSED"
  | awaitingHumanApproval => "AWAITING_HUMAN_APPROVAL"
  | approved => "APPROVED"
  | rejected => "REJECTED"
  | reviewFailed => "REVIEW_FAILED"
  | failed => "FAILED"
  | failedPermanently => "FAILED_PERMANENTLY"

/-- All states, in declaration order (the iteration order of the enumeration). -/
def WorkflowState.all : List WorkflowState :=
  [created, collecting, collected, selectingTopic, noSuitableTopic, topicSelected,
   generatingScenario, scenarioGenerated, reviewing, revisionRequired, reviewPassed,
   awaitingHumanApproval, approved, rejected, reviewFailed, failed, failedPermanently]

/-- The terminal states. The source lists the same six in four places
(`TERMINAL_WORKFLOW_STATES`, `TERMINAL_STATES`, `WorkflowStateGuard.TERMINAL_STATES` and
`_TERMINAL_STATES` of the in-memory repository). -/
def WorkflowState.isTerminal : WorkflowState → Bool
  | .noSuitableTopic | .approved | .rejected | .reviewFailed | .failed
  | .failedPermanently => true
  | _ => false

/-- The task types, one for each stage that a worker executes. -/
inductive TaskType
  | collect | selectTopic | generateScenario | reviewScenario
  deriving DecidableEq, Repr

def TaskType.value : TaskType → String
  | collect => "COLLECT"
  | selectTopic => "SELECT_TOPIC"
  | generateScenario => "GENERATE_SCENARIO"
  | reviewScenario => "REVIEW_SCENARIO"

inductive AgentId
  | topicSelector | scenarioGenerator | critic
  deriving DecidableEq, Repr

def AgentId.value : AgentId → String
  | topicSelector => "topic_selector"
  | scenarioGenerator => "scenario_generator"
  | critic => "critic"

inductive ProviderId
  | openai | anthropic | gemini | kimi | fake
  deriving DecidableEq, Repr

def ProviderId.value : ProviderId → String
  | openai => "openai"
  | anthropic => "anthropic"
  | gemini => "gemini"
  | kimi => "kimi"
  | fake => "fake"

/-- Completion and failure signals of `apply_transition`. -/
inductive TransitionSignal
  | stageCompleted | noSuitableTopic | criticRevise | criticPass
  | unrecoverableError | retriesExhausted | reconciliationRepair
  deriving DecidableEq, Repr

def TransitionSignal.value : TransitionSignal → String
  | stageCompleted => "stage_completed"
  | noSuitableTopic => "no_suitable_topic"
  | criticRevise => "critic_revise"
  | criticPass => "critic_pass"
  | unrecoverableError => "unrecoverable_error"
  | retriesExhausted => "retries_exhausted"
  | reconciliationRepair => "reconciliation_repair"

/-- Human approver actions. -/
inductive ApprovalAction
  | approve | reject | requestRegeneration
  deriving DecidableEq, Repr

def ApprovalAction.value : ApprovalAction → String
  | approve => "APPROVE"
  | reject => "REJECT"
  | requestRegeneration => "REQUEST_REGENERATION"

inductive TaskStatus
  | pending | dispatched | inProgress | completed | failed | deadLetter
  deriving DecidableEq, Repr

inductive ArtifactType
  | collectedStories | topicSelection | scenario | criticReview | promptResponse
  deriving DecidableEq, Repr

def ArtifactType.value : ArtifactType → String
  | collectedStories => "collected_stories"
  | topicSelection => "topic_selection"
  | scenario => "scenario"
  | criticReview => "critic_review"
  | promptResponse => "prompt_response"

inductive OutboxStatus
  | pending | published
  deriving DecidableEq, Repr

inductive InvocationStatus
  | success | validationFailed | providerError | timeout
  deriving DecidableEq, Repr

/-- What the topic selection agent decided. -/
inductive TopicSelectionOutcome
  | topicSelected | noSuitableTopic
  deriving DecidableEq, Repr

/-- The critic's verdict. -/
inductive CriticStatus
  | pass | revise
  deriving DecidableEq, Repr

/-! ### Rows

The rows of the tables, as far as a function of the model reads them.
-/

/-- Pointer to a stored task payload. -/
structure PayloadReference where
  refId : String
  refKind : String
  deriving DecidableEq, Repr

/-- The constant `TASK_PAYLOAD_REF_KIND`. -/
def taskPayloadRefKind : String := "task_payload"

structure WorkflowRecord where
  workflowId : String
  state : WorkflowState
  stateVersion : Nat
  createdAt : Time
  updatedAt : Time
  revisionCount : Nat := 0
  failureReason : Option String := none
  deriving DecidableEq, Repr

structure WorkflowTransitionRecord where
  transitionId : String
  workflowId : String
  fromState : WorkflowState
  toState : WorkflowState
  reason : String
  occurredAt : Time
  actor : Option String := none
  deriving DecidableEq, Repr

structure TaskRecord where
  taskId : String
  workflowId : String
  taskType : TaskType
  attempt : Nat
  status : TaskStatus
  payloadReference : PayloadReference
  idempotencyKey : String
  createdAt : Time
  updatedAt : Time
  completedAt : Option Time := none
  failureReason : Option String := none
  deriving DecidableEq, Repr

/-- The JSON object stored as a task payload: empty, or with a `logical_version`. -/
structure TaskPayload where
  logicalVersion : Option Int := none
  deriving DecidableEq, Repr

structure TaskPayloadRow where
  refId : String
  payload : TaskPayload
  deriving DecidableEq, Repr

structure OutboxEntry where
  outboxId : String
  workflowId : String
  taskId : String
  taskType : TaskType
  payloadReference : PayloadReference
  idempotencyKey : String
  status : OutboxStatus
  createdAt : Time
  publishedAt : Option Time := none
  deriving DecidableEq, Repr

structure OutboxInsertSpec where
  workflowId : String
  taskId : String
  taskType : TaskType
  payloadReference : PayloadReference
  idempotencyKey : String
  deriving DecidableEq, Repr

structure ArtifactRecord where
  artifactId : String
  workflowId : String
  artifactType : ArtifactType
  name : String
  version : Int
  logicalVersion : Int
  isActive : Bool
  createdAt : Time
  deriving DecidableEq, Repr

/-- Of each artifact's JSON content, the part that the stage handlers read back. -/
inductive ArtifactContent
  | collectedStories
  | topicSelection (outcome : TopicSelectionOutcome)
  | scenario (logicalVersion : Int)
  | criticReview (status : CriticStatus)
  deriving DecidableEq, Repr

structure ArtifactContentRow where
  artifactId : String
  content : ArtifactContent
  deriving DecidableEq, Repr

structure ArtifactCreateSpec where
  workflowId : String
  artifactType : ArtifactType
  name : String
  version : Int
  logicalVersion : Int
  content : ArtifactContent
  isActive : Bool := true
  deriving DecidableEq, Repr

structure IdempotencyRecord where
  idempotencyKey : String
  workflowId : String
  taskId : String
  completedAt : Time
  resultArtifactId : Option String := none
  deriving DecidableEq, Repr

structure TaskLease where
  leaseId : String
  taskId : String
  workerId : String
  deriving DecidableEq, Repr

/-- An audit row of one agent call, without its token counts. -/
structure AiInvocationRecord where
  workflowId : String
  taskId : String
  agentName : String
  inputArtifactId : Option String
  outputArtifactId : Option String
  attempt : Nat
  status : InvocationStatus
  deriving DecidableEq, Repr

/-! ### Exceptions -/

/-- The exceptions the modelled code raises or tells apart, with what it reads of them.
Every class that no `except` clause names is `other`. -/
inductive PyException
  | workflowNotFound (message workflowId : String)
  | workflowConflict (message workflowId : String)
  | invalidTransition (message workflowId : String) (fromState : WorkflowState)
      (signal : TransitionSignal)
  | invalidApproval (message workflowId : String) (action : ApprovalAction)
      (currentState : WorkflowState)
  | workflowTerminal (message workflowId : String) (state : WorkflowState)
  | persistenceConflict (message : String)
  | persistenceNotFound (message : String)
  | persistenceDuplicate (message : String)
  | persistenceConnection (message : String)
  | leaseConflict (taskId workerId : String)
  | handlerNotFound (taskType : TaskType)
  | taskExecution (retryable : Bool) (message : String)
  | provider (retryable timeout : Bool) (errorClass message : String)
  | collector (retryable : Bool) (code message : String)
  | agentValidation (code message : String)
  | agentConfiguration (code message : String)
  | valueError (message : String)
  | typeError (message : String)
  | other (className message : String)
  deriving DecidableEq, Repr

/-- The part of `AppConfig` that the engine and the worker read. -/
structure AppConfig where
  maxScenarioRevisions : Nat
  /-- `get_retry_policy(task_type).max_attempts`. -/
  maxAttempts : TaskType → Nat

/-- The limits in `config/cartoon.prod.yaml`. -/
def AppConfig.prod : AppConfig := { maxScenarioRevisions := 3, maxAttempts := fun _ => 3 }

end CartoonDemo
