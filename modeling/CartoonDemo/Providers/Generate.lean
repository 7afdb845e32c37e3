import CartoonDemo.Agents.Prompts
import CartoonDemo.Library.LoggedPool
import CartoonDemo.Library.PyDouble
import CartoonDemo.Providers.ErrorMapper
import CartoonDemo.Providers.LimiterRuns

/-!
# CartoonDemo.Providers.Generate

The **call of a remote provider** (`providers/base.py`): `generate` validates the request, asks the
injection gate and the rate limiter, and calls the vendor within a deadline; every failure that is a
`ProviderError` is reported, and so is a success. What it asks of the others are the calls of a
process, so any number of threads may be between any two of its steps.

Readings of the clock and the seconds and rates of the configuration are rational numbers, and the
arithmetic is exact.
-/

namespace CartoonDemo

open Agents VendorErrorMapper

/-! ### Requests and responses -/

structure ProviderRequest where
  model : String
  messages : List ProviderMessage
  temperature : Option ℚ := none
  maxOutputTokens : Option Int := none
  workflowId : Option String := none
  taskId : Option String := none
  taskAttempt : Option Int := none
  deriving DecidableEq, Repr

structure TokenUsage where
  inputTokens : Option Int
  outputTokens : Option Int
  cachedTokens : Option Int := none
  deriving DecidableEq, Repr

structure VendorCallResult where
  content : String
  model : String
  tokenUsage : Option TokenUsage := none
  deriving DecidableEq, Repr

structure GenerateResponse where
  content : String
  model : String
  providerId : ProviderId
  latencyMs : ℚ
  tokenUsage : Option TokenUsage := none
  estimatedCostUsd : Option ℚ := none
  deriving DecidableEq, Repr

/-! ### Time and cost -/

/-- `TimeoutConfig`. -/
structure TimeoutConfig where
  connectSeconds : Option ℚ
  readSeconds : ℚ
  totalSeconds : Option ℚ
  deriving DecidableEq, Repr

structure TimeoutBudget where
  connectSeconds : Option ℚ
  readSeconds : ℚ
  totalSeconds : Option ℚ
  overallDeadlineSeconds : ℚ
  deriving DecidableEq, Repr

/-- `TimeoutContext.resolve_budget`. -/
def resolveBudget (config : TimeoutConfig) : TimeoutBudget :=
  match config.totalSeconds with
  | some total =>
      { connectSeconds := config.connectSeconds.map fun connect => min connect total
        readSeconds := min config.readSeconds total
        totalSeconds := some total
        overallDeadlineSeconds := total }
  | none =>
      { connectSeconds := config.connectSeconds
        readSeconds := config.readSeconds
        totalSeconds := none
        overallDeadlineSeconds :=
          match config.connectSeconds with
          | none => config.readSeconds
          | some connect => connect + config.readSeconds }

/-- `_elapsed_ms`, in thousandths. -/
def elapsedMs (started now : ℚ) : ℚ :=
  PyFloat.roundHalfEven (max (1 / 1000) ((now - started) * 1000) * 1000) / 1000

structure ProviderPricing where
  inputPer1kTokens : Option ℚ
  outputPer1kTokens : Option ℚ
  deriving DecidableEq, Repr

/-- To the nearest integer, ties away from zero. -/
def roundHalfUp (q : ℚ) : ℤ := if 0 ≤ q then (q + 1 / 2).floor else -(-q + 1 / 2).floor

/-- `CostCalculator.estimate`. -/
def estimate (pricing : Option ProviderPricing) (tokenUsage : Option TokenUsage) : Option ℚ := do
  let pricing ← pricing
  let usage ← tokenUsage
  let input ← usage.inputTokens
  let output ← usage.outputTokens
  let inputRate ← pricing.inputPer1kTokens
  let outputRate ← pricing.outputPer1kTokens
  return roundHalfUp ((input / 1000 * inputRate + output / 1000 * outputRate) * 1000000) / 1000000

/-! ### The calls -/

/-- `_telemetry_correlation`. -/
def telemetryCorrelation (request : ProviderRequest) : List (String × Json) :=
  (request.workflowId.toList.map fun id => ("workflow_id", .str id)) ++
    (request.taskId.toList.map fun id => ("task_id", .str id)) ++
    request.taskAttempt.toList.map fun attempt => ("task_attempt", .int attempt)

inductive ProviderException
  | provider (error : ProviderError)
  /-- `VendorTransportError`. -/
  | transport (signal : VendorFailureSignal)
  | other (className message : String)
  deriving DecidableEq, Repr

/-- What `generate` asks of the others. -/
inductive ProviderCall
  /-- `InjectionGate.evaluate`. -/
  | evaluate (request : ProviderRequest)
  /-- `ClientRateLimiter.acquire`. -/
  | acquire
  /-- `emit_call_started`. -/
  | callStarted (model : String)
  /-- A reading of `time.monotonic`. -/
  | monotonic
  /-- `transport.complete`. -/
  | complete (request : ProviderRequest) (timeout : TimeoutBudget)
  /-- `emit_call_failed`. -/
  | callFailed (model : String) (error : ProviderError) (latencyMs : ℚ)
      (correlation : List (String × Json))
  /-- `emit_call_completed`. -/
  | callCompleted (model : String) (latencyMs : ℚ) (tokenUsage : Option TokenUsage)
      (correlation : List (String × Json))

namespace ProviderCall

abbrev Answer : ProviderCall → Type
  | monotonic => ℚ
  | complete _ _ => VendorCallResult
  | _ => Unit

/-- The call reports how `generate` ends. -/
def isReport : ProviderCall → Bool
  | callFailed _ _ _ _ | callCompleted _ _ _ _ => true
  | _ => false

/-- The call goes to the vendor. -/
def isComplete : ProviderCall → Bool
  | complete _ _ => true
  | _ => false

/-- The calls of `ProviderTelemetry`. -/
def isTelemetry : ProviderCall → Bool
  | callStarted _ | callFailed _ _ _ _ | callCompleted _ _ _ _ => true
  | _ => false

end ProviderCall

abbrev ProviderEvent := Proc.Event ProviderCall ProviderCall.Answer ProviderException

abbrev ProviderProc := Proc ProviderCall ProviderCall.Answer ProviderException GenerateResponse

/-! ### The pipeline

`generate`, with every call that leaves the provider as one request.
-/

structure BaseRemoteProvider where
  providerId : ProviderId
  timeoutConfig : TimeoutConfig
  pricing : Option ProviderPricing := none
  rateLimitPerMinute : Option Int := none

namespace BaseRemoteProvider

open ProviderCall

variable (p : BaseRemoteProvider) (request : ProviderRequest)

def budget : TimeoutBudget := resolveBudget p.timeoutConfig

/-- `RequestValidator.validate`. -/
def validate : Except ProviderException Unit :=
  if request.messages.length = 0 then .error (.other "ValueError" "messages must not be empty")
  else if PyStr.strip request.model = "" then
    .error (.other "ValueError" "model must not be empty")
  else .ok ()

/-- `ResponseAssembler.build_success`, with the estimated cost. -/
def buildSuccess (result : VendorCallResult) (latencyMs : ℚ) : GenerateResponse where
  content := result.content
  model := result.model
  providerId := p.providerId
  latencyMs := latencyMs
  tokenUsage := result.tokenUsage
  estimatedCostUsd := estimate p.pricing result.tokenUsage

/-- The error is reported and raised. -/
def failed (error : ProviderError) (latencyMs : ℚ) : ProviderProc :=
  .call (.callFailed request.model error latencyMs (telemetryCorrelation request)) fun
    | .ok () => .raise (.provider error)
    | .error e => .raise e

/-- The same in the vendor phase, whose latency is read off the clock. -/
def failedSince (started : ℚ) (error : ProviderError) : ProviderProc :=
  .call .monotonic fun
    | .ok now => failed request error (elapsedMs started now)
    | .error e => .raise e

/-- `check_deadline`. -/
def checkDeadline (started deadline : ℚ) (rest : ProviderProc) : ProviderProc :=
  .call .monotonic fun
    | .ok now =>
        if deadline ≤ now then
          failedSince request started (make .timeout p.providerId "deadline exceeded")
        else rest
    | .error e => .raise e

/-- The response is built and reported. -/
def succeed (started : ℚ) (result : VendorCallResult) : ProviderProc :=
  .call .monotonic fun
    | .ok now =>
        .call (.callCompleted request.model (elapsedMs started now) result.tokenUsage
            (telemetryCorrelation request)) fun
          | .ok () => .ret (p.buildSuccess result (elapsedMs started now))
          | .error e => .raise e
    | .error e => .raise e

/-- The call of the vendor, and what follows. -/
def vendorPhase (started deadline : ℚ) : ProviderProc :=
  .call (.complete request p.budget) fun
    | .ok result => p.checkDeadline request started deadline (p.succeed request started result)
    | .error (.provider error) => failedSince request started error
    | .error (.transport signal) => failedSince request started (mapVendorFailure p.providerId signal)
    | .error e => .raise e

/-- From the start of the span on. -/
def admittedCall : ProviderProc :=
  .call (.callStarted request.model) fun
    | .ok () => .call .monotonic fun
        | .ok started => .call .monotonic fun
            | .ok entered =>
                let deadline := entered + p.budget.overallDeadlineSeconds
                p.checkDeadline request started deadline (p.vendorPhase request started deadline)
            | .error e => .raise e
        | .error e => .raise e
    | .error e => .raise e

/-- The rate limiter, and what follows. -/
def limitedCall : ProviderProc :=
  .call .acquire fun
    | .ok () => p.admittedCall request
    | .error (.provider error) =>
        if error.type = .rateLimit then failed request error 0 else .raise (.provider error)
    | .error e => .raise e

/-- `generate`. -/
def generate : ProviderProc :=
  match validate request with
  | .error e => .raise e
  | .ok () => .call (.evaluate request) fun
      | .ok () => p.limitedCall request
      | .error (.provider error) => failed request error 0
      | .error e => .raise e

end BaseRemoteProvider

/-! ### The others

What the clock, the limiter, the vendor and the telemetry answer.
-/

/-- The clock and the limiter of the provider. -/
structure ProviderWorld where
  now : ℚ
  limiter : ClientRateLimiter

/-- What the hooks of the gate, the vendor and telemetry answer to a call. -/
structure ProviderReply where
  gate : Except ProviderException Unit := .ok ()
  vendor : Except ProviderException VendorCallResult
  /-- Class name and message of what a call of telemetry raises. The logger refuses the report of a
  request without `workflow_id` or `task_id`, and the tracer some names of models. -/
  telemetry : Option (String × String) := none

/-- A call of telemetry raises no `ProviderError`. -/
def ProviderReply.told (r : ProviderReply) : Except ProviderException Unit :=
  match r.telemetry with
  | none => .ok ()
  | some (className, message) => .error (.other className message)

/-- One call is made and answered. -/
def BaseRemoteProvider.answer (p : BaseRemoteProvider) :
    (c : ProviderCall) → ProviderReply → ProviderWorld →
      Except ProviderException c.Answer × ProviderWorld
  | .evaluate _, r, w => (r.gate, w)
  | .acquire, _, w =>
      (if (w.limiter.acquire w.now).1 then .ok ()
        else .error (.provider (make .rateLimit p.providerId "client rate limit exceeded")),
        { w with limiter := (w.limiter.acquire w.now).2 })
  | .monotonic, _, w => (.ok w.now, w)
  | .complete _ _, r, w => (r.vendor, w)
  | .callStarted _, r, w => (r.told, w)
  | .callFailed _ _ _ _, r, w => (r.told, w)
  | .callCompleted _ _ _ _, r, w => (r.told, w)

/-- Time passes. -/
def ProviderWorld.tick (seconds : ℚ) (w : ProviderWorld) : ProviderWorld :=
  { w with now := w.now + max 0 seconds }

abbrev ProviderPool :=
  LoggedPool ProviderCall ProviderCall.Answer ProviderException GenerateResponse ProviderWorld

abbrev ProviderPoolStep :=
  PoolStep ProviderCall ProviderCall.Answer ProviderException GenerateResponse ProviderReply ℚ

inductive GenerateStep
  /-- A thread calls `generate`. -/
  | generate (request : ProviderRequest)
  /-- Thread `i` goes on to its next call. -/
  | proceed (i : Nat) (r : ProviderReply)
  | tick (seconds : ℚ)

namespace BaseRemoteProvider

variable (p : BaseRemoteProvider)

def poolStep : GenerateStep → ProviderPoolStep
  | .generate request => .start (p.generate request)
  | .proceed i r => .proceed i r
  | .tick seconds => .environment seconds

def step : ProviderPoolStep → ProviderPool → ProviderPool :=
  LoggedPool.step p.answer ProviderWorld.tick

/-- The provider as it is built. -/
def initial (start : ℚ) : ProviderPool :=
  { world := { now := start, limiter := .create p.rateLimitPerMinute start } }

/-- Threads call one provider, in any order of their steps. -/
def runCalls (start : ℚ) (steps : List GenerateStep) : ProviderPool :=
  run p.step (p.initial start) (steps.map p.poolStep)

end BaseRemoteProvider

end CartoonDemo
