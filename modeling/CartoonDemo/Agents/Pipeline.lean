import CartoonDemo.Agents.InputValidation
import CartoonDemo.Agents.OutputSafety
import CartoonDemo.Providers.Generate

/-!
# CartoonDemo.Agents.Pipeline

The **run of an agent** (`agents/base.py`): the configuration is resolved, the input validated, the
prompt loaded and filled in; the provider is asked, and its text is parsed and validated. What the
agent asks of the prompt loader, the provider and telemetry are the calls of a process.

The stage of an agent is that of its context. `loads`, `bestMessage`, `render` and `dumps` are those
of `CartoonDemo.Agents.OutputValidation` and `CartoonDemo.Agents.Prompts`.
-/

namespace CartoonDemo

namespace Agents

open VendorErrorMapper

/-! ### Inputs and context -/

/-- The input of a stage. -/
inductive StageInput
  | topic (input : TopicSelectionInput)
  | scenario (input : ScenarioGenerationInput)
  | critic (input : CriticInput)

/-- The part of `AgentConfig` that an agent reads. -/
structure AgentConfig where
  provider : ProviderId
  model : String
  promptFile : String
  deriving DecidableEq, Repr

/-- The task that an agent runs for. -/
structure AgentRunContext where
  workflowId : String
  taskId : String
  taskAttempt : Int
  /-- `config.get_agent_config(agent_id)`; `none` is a `KeyError`. -/
  agentConfig : Option AgentConfig
  /-- `provider.provider_id`. -/
  providerId : ProviderId
  deriving DecidableEq, Repr

/-- `PromptLoadResult`. -/
structure PromptLoadResult where
  text : String
  version : String
  path : String
  deriving DecidableEq, Repr

namespace StageInput

/-- The agent that takes this input. -/
def agentId : StageInput → AgentId
  | topic _ => .topicSelector
  | scenario _ => .scenarioGenerator
  | critic _ => .critic

/-- The validation that the agent hands to `_run_pipeline`. -/
def validate : StageInput → Except AgentError Unit
  | topic input => InputValidator.validateTopicSelection input
  | scenario input => InputValidator.validateScenarioGeneration input
  | critic input => InputValidator.validateCritic input

/-- `_build_messages`. -/
def buildMessages (dumps : Json → String) (promptText : String) (input : StageInput) :
    Except AgentError (List ProviderMessage) :=
  match input with
  | topic i => buildTopicMessages dumps promptText i.candidates input.agentId
  | scenario i => buildScenarioMessages dumps promptText i.topic input.agentId
  | critic i => buildCriticMessages dumps promptText i.scenario i.revisionNumber input.agentId

end StageInput

/-- The `AgentConfigurationError` with this reason. -/
def configurationError (agentId : AgentId) (reason : String) : AgentError :=
  ⟨.configuration, AgentErrorKind.configuration.messageOf agentId reason, some agentId⟩

/-- `_resolve_agent_config`. -/
def resolveAgentConfig (context : AgentRunContext) (agentId : AgentId) :
    Except AgentError AgentConfig :=
  match context.agentConfig with
  | none => .error (configurationError agentId "missing agent config")
  | some config =>
      if PyStr.strip config.model = "" then .error (configurationError agentId "empty model")
      else if context.providerId ≠ config.provider then
        .error (configurationError agentId "provider mismatch")
      else .ok config

/-- `_build_generate_request`, with the defaults of temperature and output tokens. -/
def buildGenerateRequest (context : AgentRunContext) (config : AgentConfig)
    (messages : List ProviderMessage) : ProviderRequest where
  model := config.model
  messages := messages
  temperature := none
  maxOutputTokens := none
  workflowId := some context.workflowId
  taskId := some context.taskId
  taskAttempt := some context.taskAttempt

/-! ### The calls

What a run does outside itself. Every call may raise.
-/

/-- What leaves `run`: an agent's error, a provider's, or any other exception. -/
inductive AgentException
  | agent (error : AgentError)
  | provider (error : ProviderError)
  | other (className message : String)
  deriving DecidableEq

/-- What `_run_pipeline` asks of the others. -/
inductive PipelineCall
  /-- `PromptLoader.load`. -/
  | load (promptFile : String) (agentId : AgentId)
  | startRunSpan (model : String)
  /-- `provider.generate`. -/
  | generate (request : ProviderRequest)
  | recordValidation (passed : Bool)
  | logValidationFailed (validationErrorCode : String)
  /-- `emit_stage_outcome`; the scenario agent has none. -/
  | stageOutcome (output : StageOutput)
  | logRunCompleted (model promptVersion : String)
  | finalizeSpanSuccess
  | finalizeSpanFailure (errorClass : String) (retryable : Bool)

namespace PipelineCall

/-- What a call returns. -/
abbrev Answer : PipelineCall → Type
  | load _ _ => PromptLoadResult
  | generate _ => GenerateResponse
  | _ => Unit

/-- The calls that say how a run ends. -/
def isVerdict : PipelineCall → Bool
  | recordValidation _ | finalizeSpanSuccess | finalizeSpanFailure _ _ => true
  | _ => false

/-- The call asks the provider. -/
def isGenerate : PipelineCall → Bool
  | generate _ => true
  | _ => false

/-- The calls of `AgentTelemetry`. -/
def isTelemetry : PipelineCall → Bool
  | load _ _ | generate _ => false
  | _ => true

end PipelineCall

/-- A call, with how it ended. -/
abbrev PipelineEvent := Proc.Event PipelineCall PipelineCall.Answer AgentException

/-- Code that makes the calls of the pipeline. -/
abbrev PipelineProc (α : Type) := Proc PipelineCall PipelineCall.Answer AgentException α

/-! ### The pipeline -/

section Pipeline

variable (loads : String → LoadsResult) (bestMessage : Schema → Json → String)
  (render dumps : Json → String)

/-- A call of telemetry, and what follows. -/
def tell (c : PipelineCall) (rest : PipelineProc StageOutput) : PipelineProc StageOutput :=
  .call c fun
    | .ok _ => rest
    | .error e => .raise e

/-- The failure is recorded, the span ended, and the exception raised. -/
def runFailed (code errorClass : String) (retryable : Bool) (e : AgentException) :
    PipelineProc StageOutput :=
  tell (.recordValidation false) (tell (.logValidationFailed code)
    (tell (.finalizeSpanFailure errorClass retryable) (.raise e)))

/-- The stage outcome is emitted, where the agent has one. -/
def emitStageOutcome (output : StageOutput) (rest : PipelineProc StageOutput) :
    PipelineProc StageOutput :=
  match output with
  | .scenario _ => rest
  | _ => tell (.stageOutcome output) rest

/-- The output passed. -/
def runPassed (model promptVersion : String) (output : StageOutput) : PipelineProc StageOutput :=
  tell (.recordValidation true) (emitStageOutcome output
    (tell (.logRunCompleted model promptVersion) (tell .finalizeSpanSuccess (.ret output))))

/-- What follows the answer of the provider. -/
def afterResponse (agentId : AgentId) (model promptVersion content : String) :
    PipelineProc StageOutput :=
  match parseAndValidate loads bestMessage render agentId content promptVersion with
  | .ok result => runPassed model promptVersion result.2
  | .error (.agent e) =>
      if e.kind = .outputValidation then runFailed "AGT_OUTPUT" "AGT_OUTPUT" false (.agent e)
      else .raise (.agent e)
  | .error (.py name) => .raise (.other name "")

/-- The provider is asked. -/
def askProvider (agentId : AgentId) (config : AgentConfig) (promptVersion : String)
    (request : ProviderRequest) : PipelineProc StageOutput :=
  .call (.generate request) fun
    | .ok response => afterResponse loads bestMessage render agentId config.model promptVersion
        response.content
    | .error (.provider e) =>
        runFailed e.type.code e.type.errorClass.value e.retryable (.provider e)
    | .error e => .raise e

/-- `_run_pipeline`. -/
def runPipeline (context : AgentRunContext) (input : StageInput) : PipelineProc StageOutput :=
  match resolveAgentConfig context input.agentId with
  | .error e => .raise (.agent e)
  | .ok config =>
      match input.validate with
      | .error e => .raise (.agent e)
      | .ok () => .call (.load config.promptFile input.agentId) fun
          | .error e => .raise e
          | .ok prompt =>
              match input.buildMessages dumps prompt.text with
              | .error e => .raise (.agent e)
              | .ok messages => tell (.startRunSpan config.model)
                  (askProvider loads bestMessage render input.agentId config prompt.version
                    (buildGenerateRequest context config messages))

end Pipeline

/-! ### The others

What the prompt loader, the provider and the telemetry answer in one run.
-/

/-- What `PromptLoader.load` raises. -/
inductive LoadFailure
  | promptLoad (reason : String)
  | other (className message : String)

/-- An exception of the provider, as it reaches the agent. -/
def AgentException.ofProvider : ProviderException → AgentException
  | .provider error => .provider error
  | .transport _ => .other "VendorTransportError" "vendor transport failure"
  | .other className message => .other className message

/-- What the prompt loader, the provider and telemetry answer to a call. -/
structure PipelineReply where
  load : Except LoadFailure PromptLoadResult
  response : Except ProviderException GenerateResponse
  /-- Class name and message of what a call of telemetry raises: the logger refuses an envelope, the
  meter a label, the tracer an attribute. -/
  telemetry : Option (String × String) := none

/-- A call of telemetry raises none of the classes that the agent catches. -/
def PipelineReply.told (r : PipelineReply) : Except AgentException Unit :=
  match r.telemetry with
  | none => .ok ()
  | some (className, message) => .error (.other className message)

/-- One call is made and answered. -/
def pipelineAnswer : (c : PipelineCall) → PipelineReply → Unit →
    Except AgentException c.Answer × Unit
  | .load _ agentId, r, w =>
      (match r.load with
        | .ok prompt => .ok prompt
        | .error (.promptLoad reason) =>
            .error (.agent ⟨.promptLoad, promptLoadMessage agentId reason, some agentId⟩)
        | .error (.other className message) => .error (.other className message), w)
  | .generate _, r, w =>
      (match r.response with
        | .ok response => .ok response
        | .error e => .error (.ofProvider e), w)
  | .startRunSpan _, r, w => (r.told, w)
  | .recordValidation _, r, w => (r.told, w)
  | .logValidationFailed _, r, w => (r.told, w)
  | .stageOutcome _, r, w => (r.told, w)
  | .logRunCompleted _ _, r, w => (r.told, w)
  | .finalizeSpanSuccess, r, w => (r.told, w)
  | .finalizeSpanFailure _ _, r, w => (r.told, w)

end Agents

end CartoonDemo
