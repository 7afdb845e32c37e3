import CartoonDemo.Config.Schema

/-!
# CartoonDemo.Config.Validator

**From a draft to the configuration** (`config/validator.py`, `config/credentials.py`,
`config/app_config.py`): `ConfigValidator.validate` checks references, numbers, prompt files
and credentials, in this order, and `AppConfigFactory.build` freezes the draft.

The numeric constraints are a list of checks in the order in which the source makes them. Each
is written as the comparison that refuses a value, and prints the value it refuses.
-/

namespace CartoonDemo

/-! ### Numeric constraints

The checks of the numbers as data, so that what they say can be said of all of them.
-/

/-- One comparison of `_validate_numeric_constraints`. -/
inductive NumericCheck
  | positiveInt (keyPath : String) (value : Int)
  | atLeastOne (keyPath : String) (value : Int)
  | positiveFloat (keyPath : String) (value : PyFloat)
  deriving DecidableEq, Repr

namespace NumericCheck

/-- The comparison that refuses the value is false. -/
def passes : NumericCheck → Bool
  | positiveInt _ value => !(value ≤ 0 : Bool)
  | atLeastOne _ value => !(value < 1 : Bool)
  | positiveFloat _ value => !value.le PyFloat.zero

/-- A check, and the error of one that fails. -/
def check (world : Surroundings) (c : NumericCheck) : Except ConfigException Unit :=
  if c.passes then .ok ()
  else
    match c with
    | positiveInt keyPath value => do
        let shown ← shownInt value
        throw (valueError keyPath ("Value must be positive (got " ++ shown ++ ")") "integer > 0")
    | atLeastOne keyPath value => do
        let shown ← shownInt value
        throw (valueError keyPath ("Value must be at least 1 (got " ++ shown ++ ")")
          "integer >= 1")
    | positiveFloat keyPath value =>
        throw (valueError keyPath
          ("Value must be positive (got " ++ world.shownFloat value ++ ")") "number > 0")

/-- The value that the check would print has a rendering. -/
def Printable : NumericCheck → Prop
  | positiveInt _ value => PyInt.Printable value
  | atLeastOne _ value => PyInt.Printable value
  | positiveFloat _ _ => True

end NumericCheck

/-- The checks of a retry policy. -/
def RetryPolicyDraft.checks (taskType : TaskType) (policy : RetryPolicyDraft) :
    List NumericCheck :=
  let base := "retry." ++ taskType.value
  [.atLeastOne (base ++ ".max_attempts") policy.maxAttempts,
   .positiveFloat (base ++ ".backoff.initial_seconds") policy.backoff.initialSeconds,
   .positiveFloat (base ++ ".backoff.multiplier") policy.backoff.multiplier,
   .positiveFloat (base ++ ".backoff.max_seconds") policy.backoff.maxSeconds]

/-- The checks of the timeouts of a provider. -/
def TimeoutDraft.checks (providerId : ProviderId) (timeout : TimeoutDraft) : List NumericCheck :=
  let base := "timeouts." ++ providerId.value
  .positiveFloat (base ++ ".read_seconds") timeout.readSeconds ::
    (timeout.connectSeconds.toList.map (.positiveFloat (base ++ ".connect_seconds")) ++
     timeout.totalSeconds.toList.map (.positiveFloat (base ++ ".total_seconds")))

/-- The check of a rate limit. -/
def ProviderDraft.checks (providerId : ProviderId) (provider : ProviderDraft) :
    List NumericCheck :=
  provider.rateLimitPerMinute.toList.map
    (.positiveInt ("providers." ++ providerId.value ++ ".rate_limit_per_minute"))

/-- The counts of `_validate_numeric_constraints`. -/
def ConfigDraft.countChecks (draft : ConfigDraft) : List NumericCheck :=
  [.positiveInt "collection.candidate_count" draft.collection.candidateCount,
   .positiveInt "workflow.max_scenario_revisions" draft.workflow.maxScenarioRevisions,
   .positiveInt "workers.topic_selector_concurrency" draft.workers.topicSelectorConcurrency,
   .positiveInt "workers.scenario_generator_concurrency"
     draft.workers.scenarioGeneratorConcurrency,
   .positiveInt "workers.critic_concurrency" draft.workers.criticConcurrency]

/-- The comparisons of `_validate_numeric_constraints`, in order. -/
def ConfigDraft.numericChecks (draft : ConfigDraft) : List NumericCheck :=
  draft.countChecks ++
  (draft.retry.flatMap (fun entry => entry.2.checks entry.1) ++
  (draft.timeouts.flatMap (fun entry => entry.2.checks entry.1) ++
  draft.providers.flatMap (fun entry => entry.2.checks entry.1)))

/-! ### The validator -/

namespace ConfigValidator

/-- The references of the agents in `_validate_referential_integrity`. -/
def checkAgentReference (draft : ConfigDraft) (entry : AgentId × AgentDraft) :
    Except ConfigException Unit :=
  if (draft.providers.lookup entry.2.provider).isSome then .ok ()
  else .error (valueError ("agents." ++ entry.1.value ++ ".provider")
    ("Provider '" ++ entry.2.provider.value ++ "' is not defined in providers")
    "reference to a defined provider")

/-- The injections in `_validate_referential_integrity`. -/
def checkInjection (entry : InjectionRef × Nat) : Except ConfigException Unit :=
  match entry.1 with
  | .known _ => .ok ()
  | .unknown s => .error (valueError
      ("failure_injection.active_injections[" ++ toString entry.2 ++ "]")
      ("Unknown injection ID '" ++ s ++ "'") "one of the defined InjectionId values")

/-- `_validate_referential_integrity`. -/
def validateReferentialIntegrity (draft : ConfigDraft) : Except ConfigException Unit := do
  draft.agents.forM (checkAgentReference draft)
  draft.failureInjection.activeInjections.zipIdx.forM checkInjection

/-- `_validate_numeric_constraints`. -/
def validateNumericConstraints (world : Surroundings) (draft : ConfigDraft) :
    Except ConfigException Unit :=
  draft.numericChecks.forM (NumericCheck.check world)

/-- `PromptChecker.check_all`. -/
def checkPrompts (world : Surroundings) (draft : ConfigDraft) : Except ConfigException Unit :=
  draft.agents.forM fun entry =>
    if world.promptFile entry.2.promptFile then .ok ()
    else .error (.promptNotFound
      (validationMessage ("agents." ++ entry.1.value ++ ".prompt_file")
        ("Prompt file not found at path '" ++ entry.2.promptFile ++ "'")
        "existing file on local filesystem") entry.2.promptFile)

/-- `_require_env`. -/
def requireEnv (world : Surroundings) (envVarName : String) : Except ConfigException Unit :=
  if world.environ envVarName = "" then
    .error (.credentialMissing
      ("Required credential environment variable is unset or empty: " ++ envVarName) envVarName)
  else .ok ()

/-- `ProviderCredChecker.check_referenced_providers`. -/
def checkProviderCredentials (world : Surroundings) (draft : ConfigDraft) :
    Except ConfigException Unit :=
  draft.agents.forM fun entry =>
    match draft.providers.lookup entry.2.provider with
    | none => .error (.py (.other "KeyError" entry.2.provider.value))
    | some provider => requireEnv world provider.apiKeyEnv

/-- `InfraCredChecker.check`. -/
def checkInfraCredentials (world : Surroundings) (infrastructure : InfrastructureDraft) :
    Except ConfigException Unit := do
  requireEnv world infrastructure.postgres.userEnv
  requireEnv world infrastructure.postgres.passwordEnv
  match infrastructure.redis.passwordEnv with
  | none => return ()
  | some name => requireEnv world name

/-- `validate`. -/
def validate (world : Surroundings) (draft : ConfigDraft) : Except ConfigException ConfigDraft := do
  validateReferentialIntegrity draft
  validateNumericConstraints world draft
  checkPrompts world draft
  checkProviderCredentials world draft
  checkInfraCredentials world draft.infrastructure
  return draft

end ConfigValidator

/-! ### The configuration -/

/-- `_ConcreteAppConfig`. -/
structure ConcreteAppConfig where
  infrastructure : InfrastructureDraft
  agents : List (AgentId × AgentDraft)
  providers : List (ProviderId × ProviderDraft)
  collection : CollectionDraft
  workflow : WorkflowDraft
  workers : WorkerDraft
  retry : List (TaskType × RetryPolicyDraft)
  timeouts : List (ProviderId × TimeoutDraft)
  failureInjection : FailureInjectionDraft
  deriving DecidableEq, Repr

namespace ConcreteAppConfig

variable (config : ConcreteAppConfig)

/-- `get_agent_config`; `none` is a `KeyError`, also in the lookups that follow. -/
def getAgentConfig (agentId : AgentId) : Option AgentDraft := config.agents.lookup agentId

/-- `get_provider_config`. -/
def getProviderConfig (providerId : ProviderId) : Option ProviderDraft :=
  config.providers.lookup providerId

/-- `get_retry_policy`. -/
def getRetryPolicy (taskType : TaskType) : Option RetryPolicyDraft := config.retry.lookup taskType

/-- `get_worker_concurrency`, with the fields of `_AGENT_CONCURRENCY_FIELDS`. -/
def getWorkerConcurrency (agentId : AgentId) : Option Int :=
  List.lookup agentId
    [(.topicSelector, config.workers.topicSelectorConcurrency),
     (.scenarioGenerator, config.workers.scenarioGeneratorConcurrency),
     (.critic, config.workers.criticConcurrency)]

end ConcreteAppConfig

namespace AppConfigFactory

/-- `_build_failure_injection`. -/
def buildFailureInjection (draft : FailureInjectionDraft) : FailureInjectionDraft :=
  { draft with activeInjections := if draft.enabled then draft.activeInjections else [] }

/-- `build`. -/
def build (draft : ConfigDraft) : ConcreteAppConfig :=
  { infrastructure := draft.infrastructure, agents := draft.agents, providers := draft.providers,
    collection := draft.collection, workflow := draft.workflow, workers := draft.workers,
    retry := draft.retry, timeouts := draft.timeouts,
    failureInjection := buildFailureInjection draft.failureInjection }

end AppConfigFactory

/-- The pipeline of `DefaultConfigLoader.load` from the parsed tree on, without the secret
scan. -/
def loadConfig (world : Surroundings) (tree : RawConfigTree) :
    Except ConfigException ConcreteAppConfig := do
  let draft ← SchemaMapper.map world tree
  let validated ← ConfigValidator.validate world draft
  return AppConfigFactory.build validated

end CartoonDemo
