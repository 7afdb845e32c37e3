import CartoonDemo.Types
import CartoonDemo.Library.PyNumber
import CartoonDemo.Library.PyStr
import CartoonDemo.Library.Transaction

/-!
# CartoonDemo.Config.Schema

The **configuration tree and the drafts** made of it (`config/schema.py`, `config/draft.py`,
`config/errors.py`, `config/messages.py`): what `yaml.safe_load` returns, and
`SchemaMapper.map`, which reads it domain by domain and raises at the first value it cannot
use.

A dict is the list of its entries, in order; a lookup finds the first. The draft of a domain and
the frozen value that `AppConfigFactory` makes of it have the same fields, so each pair is one
type here; the names are the draft's.
-/

namespace CartoonDemo

/-! ### Trees

What the YAML loader returns.
-/

/-- A key of a mapping. -/
inductive NodeKey
  | str (s : String)
  | int (n : Int)
  /-- Any other scalar, by its rendering. -/
  | other (shown : String)
  deriving DecidableEq, Repr

/-- A value that `yaml.safe_load` can return. -/
inductive Node
  | null
  | bool (b : Bool)
  | int (n : Int)
  | float (x : PyFloat)
  | str (s : String)
  | list (items : List Node)
  | mapping (entries : List (NodeKey × Node))
  /-- A date, a datetime, a set or bytes: the name of its class, and its truth value. -/
  | other (className : String) (truth : Bool)

/-- `RawConfigTree`. -/
abbrev RawConfigTree := List (NodeKey × Node)

/-- `type(node).__name__`. -/
def Node.typeName : Node → String
  | null => "NoneType"
  | bool _ => "bool"
  | int _ => "int"
  | float _ => "float"
  | str _ => "str"
  | list _ => "list"
  | mapping _ => "dict"
  | other className _ => className

/-- `bool(node)`. -/
def Node.truth : Node → Bool
  | null => false
  | bool b => b
  | int n => n ≠ 0
  | float x => x ≠ PyFloat.zero
  | str s => s ≠ ""
  | list items => !items.isEmpty
  | mapping entries => !entries.isEmpty
  | other _ t => t

namespace RawConfigTree

/-- `node[name]` where `name in node`. -/
def find? (node : RawConfigTree) (name : String) : Option Node := List.lookup (.str name) node

/-- `node.get(name)`. -/
def get (node : RawConfigTree) (name : String) : Node := (find? node name).getD .null

end RawConfigTree

/-! ### Errors -/

/-- `ConfigError` and its subclasses, and the exceptions of the language. -/
inductive ConfigException
  | missing (message keyPath : String)
  | format (message keyPath : String)
  | value (message keyPath : String)
  | credentialMissing (message envVarName : String)
  | promptNotFound (message promptFile : String)
  | py (e : PyException)
  deriving DecidableEq, Repr

/-- `isinstance(exc, ConfigError)`. -/
def ConfigException.IsConfigError : ConfigException → Prop
  | .py _ => False
  | _ => True

/-- `validation_message`. -/
def validationMessage (keyPath reason constraint : String) : String :=
  keyPath ++ ": " ++ reason ++ ". Expected: " ++ constraint

/-- `ConfigMissingError`, for a key that is not there. -/
def missingError (keyPath reason constraint : String) : ConfigException :=
  .missing (validationMessage keyPath reason constraint) keyPath

/-- `ConfigFormatError`, for a value of the wrong form. -/
def formatError (keyPath reason constraint : String) : ConfigException :=
  .format (validationMessage keyPath reason constraint) keyPath

/-- `_raise_value_error`. -/
def valueError (keyPath reason constraint : String) : ConfigException :=
  .value (validationMessage keyPath reason constraint) keyPath

/-- `f"{n}"` of an integer. -/
def shownInt (n : Int) : Except ConfigException String :=
  match PyInt.str n with
  | some s => .ok s
  | none => .error (.py (.valueError ("Exceeds the limit (4300 digits) for integer string " ++
      "conversion; use sys.set_int_max_str_digits() to increase the limit")))

/-- `f"{key}"`. -/
def NodeKey.shown : NodeKey → Except ConfigException String
  | .str s => .ok s
  | .int n => shownInt n
  | .other s => .ok s

/-- `f"{tokens}"` of a list of tokens. -/
def shownList (tokens : List String) : String :=
  "[" ++ ", ".intercalate (tokens.map fun t => "'" ++ t ++ "'") ++ "]"

/-- `sorted(tokens)`. -/
def sortedTokens (tokens : List String) : List String := tokens.mergeSort fun a b => a ≤ b

/-! ### Drafts -/

/-- The members of the enum. -/
def AgentId.all : List AgentId := [.topicSelector, .scenarioGenerator, .critic]

/-- The members of the enum. -/
def ProviderId.all : List ProviderId := [.openai, .anthropic, .gemini, .kimi, .fake]

/-- The members of the enum. -/
def TaskType.all : List TaskType := [.collect, .selectTopic, .generateScenario, .reviewScenario]

/-- The failure injections. -/
inductive InjectionId
  | wkrPre | wkrPostAgent | wkrPostCommit | wkrPreAck | qDup | qSlow | prvTimeout | prvRate
  | prvError | prvInvalid | coordDispatch | coordConflict
  deriving DecidableEq, Repr

/-- The text of the enum member. -/
def InjectionId.value : InjectionId → String
  | wkrPre => "FINJ-WKR-PRE"
  | wkrPostAgent => "FINJ-WKR-POST-AGENT"
  | wkrPostCommit => "FINJ-WKR-POST-COMMIT"
  | wkrPreAck => "FINJ-WKR-PRE-ACK"
  | qDup => "FINJ-Q-DUP"
  | qSlow => "FINJ-Q-SLOW"
  | prvTimeout => "FINJ-PRV-TIMEOUT"
  | prvRate => "FINJ-PRV-RATE"
  | prvError => "FINJ-PRV-ERROR"
  | prvInvalid => "FINJ-PRV-INVALID"
  | coordDispatch => "FINJ-COORD-DISPATCH"
  | coordConflict => "FINJ-COORD-CONFLICT"

/-- The members of the enum. -/
def InjectionId.all : List InjectionId :=
  [.wkrPre, .wkrPostAgent, .wkrPostCommit, .wkrPreAck, .qDup, .qSlow, .prvTimeout, .prvRate,
   .prvError, .prvInvalid, .coordDispatch, .coordConflict]

/-- An entry of `active_injections`: an `InjectionId`, or a string that names none. -/
inductive InjectionRef
  | known (id : InjectionId)
  | unknown (s : String)
  deriving DecidableEq, Repr

/-- A `Decimal`, by what it was made of. -/
inductive PyDecimal
  | ofInt (n : Int)
  | ofFloat (x : PyFloat)
  | ofText (s : String)
  deriving DecidableEq, Repr

/-- `infrastructure.postgres`. -/
structure PostgresDraft where
  host : String
  port : Int
  database : String
  userEnv : String
  passwordEnv : String
  deriving DecidableEq, Repr

/-- `infrastructure.redis`. -/
structure RedisDraft where
  host : String
  port : Int
  db : Int
  passwordEnv : Option String
  deriving DecidableEq, Repr

/-- `infrastructure`. -/
structure InfrastructureDraft where
  postgres : PostgresDraft
  redis : RedisDraft
  deriving DecidableEq, Repr

/-- An entry of `agents`. -/
structure AgentDraft where
  provider : ProviderId
  model : String
  promptFile : String
  deriving DecidableEq, Repr

/-- `pricing` of a provider. -/
structure ProviderPricingDraft where
  inputPer1kTokens : Option PyDecimal
  outputPer1kTokens : Option PyDecimal
  deriving DecidableEq, Repr

/-- An entry of `providers`. -/
structure ProviderDraft where
  apiKeyEnv : String
  rateLimitPerMinute : Option Int
  pricing : Option ProviderPricingDraft
  deriving DecidableEq, Repr

/-- `collection.scoring`. -/
structure CollectionScoringDraft where
  weightScore : Option PyFloat
  weightComments : Option PyFloat
  weightRecency : Option PyFloat
  deriving DecidableEq, Repr

/-- `collection`. -/
structure CollectionDraft where
  candidateCount : Int
  scoring : Option CollectionScoringDraft
  deriving DecidableEq, Repr

/-- `workflow`. -/
structure WorkflowDraft where
  maxScenarioRevisions : Int
  deriving DecidableEq, Repr

/-- `worker`. -/
structure WorkerDraft where
  topicSelectorConcurrency : Int
  scenarioGeneratorConcurrency : Int
  criticConcurrency : Int
  deriving DecidableEq, Repr

/-- `backoff` of a retry policy. -/
structure BackoffDraft where
  initialSeconds : PyFloat
  multiplier : PyFloat
  maxSeconds : PyFloat
  deriving DecidableEq, Repr

/-- An entry of `retry`. -/
structure RetryPolicyDraft where
  maxAttempts : Int
  backoff : BackoffDraft
  deriving DecidableEq, Repr

/-- An entry of `timeouts`. -/
structure TimeoutDraft where
  connectSeconds : Option PyFloat
  readSeconds : PyFloat
  totalSeconds : Option PyFloat
  deriving DecidableEq, Repr

/-- `failure_injection`. -/
structure FailureInjectionDraft where
  enabled : Bool
  activeInjections : List InjectionRef
  deriving DecidableEq, Repr

/-- A configuration that was mapped, before it is validated. -/
structure ConfigDraft where
  configVersion : Option String
  infrastructure : InfrastructureDraft
  agents : List (AgentId × AgentDraft)
  providers : List (ProviderId × ProviderDraft)
  collection : CollectionDraft
  workflow : WorkflowDraft
  workers : WorkerDraft
  retry : List (TaskType × RetryPolicyDraft)
  timeouts : List (ProviderId × TimeoutDraft)
  failureInjection : FailureInjectionDraft
  deriving DecidableEq, Repr

/-! ### The mapper

The readers of single values come first, then one function for each domain.
-/

/-- What the process finds around it. -/
structure Surroundings where
  /-- `Decimal(s)` accepts the text. -/
  decimalText : String → Bool
  /-- The path is relative and names a file. -/
  promptFile : String → Bool
  /-- `os.environ.get(name, "")`. -/
  environ : String → String
  /-- `f"{x}"` of a float. -/
  shownFloat : PyFloat → String

namespace SchemaMapper

open RawConfigTree

/-- `SUPPORTED_CONFIG_VERSIONS`. -/
def supportedConfigVersions : List String := ["1"]

/-- `_require_mapping`. -/
def requireMapping (node : Node) (keyPath : String) : Except ConfigException RawConfigTree :=
  match node with
  | .mapping entries => .ok entries
  | _ => .error (formatError keyPath "Value is not a mapping" "object mapping")

/-- `_require_domain`. -/
def requireDomain (tree : RawConfigTree) (name : String) : Except ConfigException RawConfigTree :=
  match find? tree name with
  | none => .error (missingError name "Required domain is missing" "present top-level mapping")
  | some node => requireMapping node name

/-- `_require_key`. -/
def requireKey (node : RawConfigTree) (key keyPath : String) : Except ConfigException Node :=
  match find? node key with
  | none => .error (missingError keyPath "Required key is missing" "present key")
  | some value => .ok value

/-- The error about a value's type. -/
def wrongType (node : Node) (keyPath constraint : String) : ConfigException :=
  formatError keyPath ("Value has wrong type (" ++ node.typeName ++ ")") constraint

/-- `_require_str`. -/
def requireStr (node : Node) (keyPath : String) : Except ConfigException String :=
  match node with
  | .str s =>
      let stripped := PyStr.strip s
      if stripped = "" then
        .error (formatError keyPath "String is empty or whitespace-only" "non-empty string")
      else .ok stripped
  | _ => .error (wrongType node keyPath "non-empty string")

/-- `_require_int`. -/
def requireInt (node : Node) (keyPath : String) : Except ConfigException Int :=
  match node with
  | .int n => .ok n
  | _ => .error (wrongType node keyPath "integer")

/-- `_require_positive_float`, which does not look at the sign. -/
def requirePositiveFloat (node : Node) (keyPath : String) : Except ConfigException PyFloat :=
  match node with
  | .int n =>
      match PyFloat.ofInt n with
      | some x => .ok x
      | none => .error (.py (.other "OverflowError" "int too large to convert to float"))
  | .float x => .ok x
  | _ => .error (wrongType node keyPath "number")

/-- `_optional_float`. -/
def optionalFloat (node : Node) (keyPath : String) : Except ConfigException (Option PyFloat) :=
  match node with
  | .null => .ok none
  | _ => (requirePositiveFloat node keyPath).map some

/-- `_optional_decimal`. -/
def optionalDecimal (world : Surroundings) (node : Node) (keyPath : String) :
    Except ConfigException (Option PyDecimal) :=
  match node with
  | .null => .ok none
  | .int n => .ok (some (.ofInt n))
  | .float x => .ok (some (.ofFloat x))
  | .str s =>
      if world.decimalText s then .ok (some (.ofText s))
      else .error (formatError keyPath "Value is not a valid decimal" "decimal number or null")
  | _ => .error (wrongType node keyPath "decimal number or null")

/-- `_parse_provider_id`. -/
def parseProviderId (node : Node) (keyPath : String) : Except ConfigException ProviderId := do
  let providerStr ← requireStr node keyPath
  match ProviderId.all.find? fun p => p.value = providerStr with
  | some p => return p
  | none => throw (formatError keyPath ("Invalid provider id '" ++ providerStr ++ "'")
      ("one of " ++ shownList (ProviderId.all.map ProviderId.value)))

/-- `_reject_unknown_keys`. -/
def rejectUnknownKeys (node : RawConfigTree) (root : String) (allowed : List String) :
    Except ConfigException Unit :=
  match List.find? (fun entry => entry.1 ∉ allowed.map NodeKey.str) node with
  | none => .ok ()
  | some entry => do
      let key ← entry.1.shown
      throw (formatError (root ++ "." ++ key) ("Unknown key '" ++ key ++ "'")
        ("whitelist keys: " ++ shownList (sortedTokens allowed)))

/-- `ProviderId(provider_key)` of a key that was allowed. -/
def providerOfKey (key : NodeKey) : Except ConfigException ProviderId :=
  match ProviderId.all.find? fun p => key = .str p.value with
  | some p => .ok p
  | none => .error (.py (.valueError "not a valid ProviderId"))

/-- `_map_config_version`. -/
def mapConfigVersion (tree : RawConfigTree) : Except ConfigException (Option String) :=
  match find? tree "config_version" with
  | none => .ok none
  | some node => do
      let version ← requireStr node "config_version"
      if version ∈ supportedConfigVersions then return some version
      else throw (formatError "config_version" ("Unsupported config version '" ++ version ++ "'")
        ("one of " ++ shownList (sortedTokens supportedConfigVersions)))

/-- `_require_str` of a required key; the path of a key is its parent's with its name. -/
def strKey (node : RawConfigTree) (root key : String) : Except ConfigException String := do
  requireStr (← requireKey node key (root ++ "." ++ key)) (root ++ "." ++ key)

/-- A key that has to hold an integer. -/
def intKey (node : RawConfigTree) (root key : String) : Except ConfigException Int := do
  requireInt (← requireKey node key (root ++ "." ++ key)) (root ++ "." ++ key)

/-- A key that has to hold a number. -/
def floatKey (node : RawConfigTree) (root key : String) : Except ConfigException PyFloat := do
  requirePositiveFloat (← requireKey node key (root ++ "." ++ key)) (root ++ "." ++ key)

/-- A key that has to hold a mapping. -/
def mappingKey (node : RawConfigTree) (root key : String) :
    Except ConfigException RawConfigTree := do
  requireMapping (← requireKey node key (root ++ "." ++ key)) (root ++ "." ++ key)

/-- Read a key where it is present. -/
def ifPresent {α : Type} (node : RawConfigTree) (key : String)
    (read : Node → Except ConfigException α) : Except ConfigException (Option α) :=
  match find? node key with
  | none => .ok none
  | some value => (read value).map some

/-- `_map_infrastructure`. -/
def mapInfrastructure (node : RawConfigTree) : Except ConfigException InfrastructureDraft := do
  let postgresNode ← mappingKey node "infrastructure" "postgres"
  let redisNode ← mappingKey node "infrastructure" "redis"
  let postgres : PostgresDraft := {
    host := ← strKey postgresNode "infrastructure.postgres" "host"
    port := ← intKey postgresNode "infrastructure.postgres" "port"
    database := ← strKey postgresNode "infrastructure.postgres" "database"
    userEnv := ← strKey postgresNode "infrastructure.postgres" "user_env"
    passwordEnv := ← strKey postgresNode "infrastructure.postgres" "password_env" }
  let redisPasswordEnv ← ifPresent redisNode "password_env" fun value =>
    requireStr value "infrastructure.redis.password_env"
  let redis : RedisDraft := {
    host := ← strKey redisNode "infrastructure.redis" "host"
    port := ← intKey redisNode "infrastructure.redis" "port"
    db := ← intKey redisNode "infrastructure.redis" "db"
    passwordEnv := redisPasswordEnv }
  return { postgres := postgres, redis := redis }

/-- One agent of `_map_agents`. -/
def mapAgent (node : RawConfigTree) (agentId : AgentId) :
    Except ConfigException (AgentId × AgentDraft) := do
  let keyPath := "agents." ++ agentId.value
  match find? node agentId.value with
  | none => throw (missingError keyPath "Required agent configuration is missing"
      "present agent mapping")
  | some value =>
      let agentNode ← requireMapping value keyPath
      let providerNode ← requireKey agentNode "provider" (keyPath ++ ".provider")
      let provider ← parseProviderId providerNode (keyPath ++ ".provider")
      let model ← strKey agentNode keyPath "model"
      let promptFile ← strKey agentNode keyPath "prompt_file"
      return (agentId, { provider := provider, model := model, promptFile := promptFile })

/-- `_map_agents`. -/
def mapAgents (node : RawConfigTree) : Except ConfigException (List (AgentId × AgentDraft)) := do
  rejectUnknownKeys node "agents" (AgentId.all.map AgentId.value)
  AgentId.all.mapM (mapAgent node)

/-- The `pricing` of a provider. -/
def mapPricing (world : Surroundings) (keyPath : String) (value : Node) :
    Except ConfigException ProviderPricingDraft := do
  let pricingNode ← requireMapping value (keyPath ++ ".pricing")
  let input ← optionalDecimal world (get pricingNode "input_per_1k_tokens")
    (keyPath ++ ".pricing.input_per_1k_tokens")
  let output ← optionalDecimal world (get pricingNode "output_per_1k_tokens")
    (keyPath ++ ".pricing.output_per_1k_tokens")
  return { inputPer1kTokens := input, outputPer1kTokens := output }

/-- One provider of `_map_providers`. -/
def mapProvider (world : Surroundings) (entry : NodeKey × Node) :
    Except ConfigException (ProviderId × ProviderDraft) := do
  let providerId ← providerOfKey entry.1
  let keyPath := "providers." ++ providerId.value
  let mapping ← requireMapping entry.2 keyPath
  let pricing ← ifPresent mapping "pricing" (mapPricing world keyPath)
  let rateLimit ← ifPresent mapping "rate_limit_per_minute" fun value =>
    requireInt value (keyPath ++ ".rate_limit_per_minute")
  let apiKeyEnv ← strKey mapping keyPath "api_key_env"
  return (providerId, { apiKeyEnv := apiKeyEnv, rateLimitPerMinute := rateLimit,
                        pricing := pricing })

/-- `_map_providers`. -/
def mapProviders (world : Surroundings) (node : RawConfigTree) :
    Except ConfigException (List (ProviderId × ProviderDraft)) := do
  rejectUnknownKeys node "providers" (ProviderId.all.map ProviderId.value)
  node.mapM (mapProvider world)

/-- One weight of `_map_collection_scoring`. -/
def mapWeight (node : RawConfigTree) (weight : String) :
    Except ConfigException (Option PyFloat) :=
  let keyPath := "collection.scoring." ++ weight
  match find? node weight with
  | none => .error (missingError keyPath "Required scoring weight is missing"
      "present weight key when scoring block is present")
  | some value => optionalFloat value keyPath

/-- `_map_collection_scoring`. -/
def mapCollectionScoring (node : RawConfigTree) :
    Except ConfigException CollectionScoringDraft := do
  let weightScore ← mapWeight node "weight_score"
  let weightComments ← mapWeight node "weight_comments"
  let weightRecency ← mapWeight node "weight_recency"
  return { weightScore := weightScore, weightComments := weightComments,
           weightRecency := weightRecency }

/-- `_map_collection`. -/
def mapCollection (node : RawConfigTree) : Except ConfigException CollectionDraft := do
  let scoring ← ifPresent node "scoring" fun value => do
    mapCollectionScoring (← requireMapping value "collection.scoring")
  let candidateCount ← intKey node "collection" "candidate_count"
  return { candidateCount := candidateCount, scoring := scoring }

/-- `_map_workflow`. -/
def mapWorkflow (node : RawConfigTree) : Except ConfigException WorkflowDraft := do
  let maxScenarioRevisions ← intKey node "workflow" "max_scenario_revisions"
  return { maxScenarioRevisions := maxScenarioRevisions }

/-- `_map_workers`. -/
def mapWorkers (node : RawConfigTree) : Except ConfigException WorkerDraft := do
  let topicSelector ← intKey node "workers" "topic_selector_concurrency"
  let scenarioGenerator ← intKey node "workers" "scenario_generator_concurrency"
  let critic ← intKey node "workers" "critic_concurrency"
  return { topicSelectorConcurrency := topicSelector,
           scenarioGeneratorConcurrency := scenarioGenerator, criticConcurrency := critic }

/-- `_map_retry_policy`. -/
def mapRetryPolicy (node : RawConfigTree) (keyPath : String) :
    Except ConfigException RetryPolicyDraft := do
  let backoffNode ← mappingKey node keyPath "backoff"
  let maxAttempts ← intKey node keyPath "max_attempts"
  let initialSeconds ← floatKey backoffNode (keyPath ++ ".backoff") "initial_seconds"
  let multiplier ← floatKey backoffNode (keyPath ++ ".backoff") "multiplier"
  let maxSeconds ← floatKey backoffNode (keyPath ++ ".backoff") "max_seconds"
  return { maxAttempts := maxAttempts,
           backoff := { initialSeconds := initialSeconds, multiplier := multiplier,
                        maxSeconds := maxSeconds } }

/-- One task type of `_map_retry`. -/
def mapRetryEntry (node : RawConfigTree) (taskType : TaskType) :
    Except ConfigException (TaskType × RetryPolicyDraft) := do
  let keyPath := "retry." ++ taskType.value
  match find? node taskType.value with
  | none => throw (missingError keyPath "Required retry policy is missing"
      "present retry mapping")
  | some value =>
      let policyNode ← requireMapping value keyPath
      return (taskType, ← mapRetryPolicy policyNode keyPath)

/-- `_map_retry`. -/
def mapRetry (node : RawConfigTree) :
    Except ConfigException (List (TaskType × RetryPolicyDraft)) := do
  rejectUnknownKeys node "retry" (TaskType.all.map TaskType.value)
  TaskType.all.mapM (mapRetryEntry node)

/-- One entry of `_map_timeouts`. -/
def mapTimeout (entry : NodeKey × Node) : Except ConfigException (ProviderId × TimeoutDraft) := do
  let providerId ← providerOfKey entry.1
  let keyPath := "timeouts." ++ providerId.value
  let mapping ← requireMapping entry.2 keyPath
  let connectSeconds ← optionalFloat (get mapping "connect_seconds")
    (keyPath ++ ".connect_seconds")
  let readSeconds ← floatKey mapping keyPath "read_seconds"
  let totalSeconds ← optionalFloat (get mapping "total_seconds") (keyPath ++ ".total_seconds")
  return (providerId, { connectSeconds := connectSeconds, readSeconds := readSeconds,
                        totalSeconds := totalSeconds })

/-- The loop over the referenced providers in `_map_timeouts`. -/
def requireTimeouts (node : RawConfigTree) (agents : List (AgentId × AgentDraft)) :
    Except ConfigException Unit :=
  match List.find? (fun agent => (find? node agent.2.provider.value).isNone) agents with
  | none => .ok ()
  | some agent => .error (missingError ("timeouts." ++ agent.2.provider.value)
      "Required timeout configuration is missing for referenced provider"
      "present timeout mapping")

/-- `_map_timeouts`. -/
def mapTimeouts (node : RawConfigTree) (agents : List (AgentId × AgentDraft)) :
    Except ConfigException (List (ProviderId × TimeoutDraft)) := do
  rejectUnknownKeys node "timeouts" (ProviderId.all.map ProviderId.value)
  requireTimeouts node agents
  node.mapM mapTimeout

/-- One entry of `active_injections`, at its index. -/
def mapInjection (entry : Node × Nat) : Except ConfigException InjectionRef := do
  let s ← requireStr entry.1 ("failure_injection.active_injections[" ++ toString entry.2 ++ "]")
  match InjectionId.all.find? fun id => id.value = s with
  | some id => return .known id
  | none => return .unknown s

/-- The list of `active_injections`. -/
def mapInjections (node : Node) : Except ConfigException (List InjectionRef) :=
  match node with
  | .list items => items.zipIdx.mapM mapInjection
  | _ => .error (wrongType node "failure_injection.active_injections" "list of injection ids")

/-- `_map_failure_injection`. -/
def mapFailureInjection (node : Node) : Except ConfigException FailureInjectionDraft :=
  match node with
  | .null => .ok { enabled := false, activeInjections := [] }
  | _ => do
      let mapping ← requireMapping node "failure_injection"
      let activeInjections ← ifPresent mapping "active_injections" mapInjections
      return { enabled := (get mapping "enabled").truth,
               activeInjections := activeInjections.getD [] }

/-- `map`. -/
def map (world : Surroundings) (tree : RawConfigTree) : Except ConfigException ConfigDraft := do
  let configVersion ← mapConfigVersion tree
  let infrastructure ← mapInfrastructure (← requireDomain tree "infrastructure")
  let agents ← mapAgents (← requireDomain tree "agents")
  let providers ← mapProviders world (← requireDomain tree "providers")
  let collection ← mapCollection (← requireDomain tree "collection")
  let workflow ← mapWorkflow (← requireDomain tree "workflow")
  let workers ← mapWorkers (← requireDomain tree "workers")
  let retry ← mapRetry (← requireDomain tree "retry")
  let timeouts ← mapTimeouts (← requireDomain tree "timeouts") agents
  let failureInjection ← mapFailureInjection (get tree "failure_injection")
  return { configVersion := configVersion, infrastructure := infrastructure, agents := agents,
           providers := providers, collection := collection, workflow := workflow,
           workers := workers, retry := retry, timeouts := timeouts,
           failureInjection := failureInjection }

end SchemaMapper

end CartoonDemo
