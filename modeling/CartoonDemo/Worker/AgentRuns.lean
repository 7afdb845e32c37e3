import CartoonDemo.Agents.Pipeline
import CartoonDemo.Worker.Audit
import CartoonDemo.Worker.Exceptions

/-!
# CartoonDemo.Worker.AgentRuns

**What comes of an agent's run.** Whatever the prompt file, the provider and its text are, the
provider is asked at most once, and only with what a resolved configuration, a validated input and a
filled in prompt make; its own validation of the request passes. A run that returns has a validated
output; a run that fails after the provider was asked is recorded as failed, but for exceptions that
nobody foresees, those of telemetry among them (`RunSound`).

The worker retries a failed run exactly if its last exception is a provider error that may be retried
and the attempts of the task are not used up. `run_agent_stage` inserts an invocation exactly if the
provider or one of the validations failed; the stage transaction takes it back (`agent_runs`).
-/

namespace CartoonDemo

open Agents VendorErrorMapper

/-! ### What is read off the calls of one run

The assertions are about the calls that the run has made so far.
-/

def isGenerate (e : PipelineEvent) : Bool := e.call.isGenerate

def verdicts (t : List PipelineEvent) : List PipelineCall := (t.map (·.call)).filter (·.isVerdict)

/-- What the others can answer. -/
def PossibleAnswer : PipelineEvent → Prop
  | ⟨.load _ _, .error (.agent e)⟩ => e.kind = .promptLoad
  | ⟨.load _ _, .error (.provider _)⟩ => False
  | ⟨.generate _, .error (.agent _)⟩ => False
  | ⟨.generate _, .error (.provider _)⟩ => True
  | ⟨_, .error (.agent _)⟩ | ⟨_, .error (.provider _)⟩ => False
  | _ => True

theorem PossibleAnswer.telemetry {c : PipelineCall} {e : AgentException} (hc : c.isTelemetry = true)
    (h : PossibleAnswer ⟨c, .error e⟩) : ∃ className message, e = .other className message := by
  cases e with
  | other className message => exact ⟨className, message, rfl⟩
  | agent e => cases c <;> first | exact absurd h id | exact absurd hc (by simp [PipelineCall.isTelemetry])
  | provider e => cases c <;> first | exact absurd h id | exact absurd hc (by simp [PipelineCall.isTelemetry])

/-- No call of telemetry has raised. -/
def ToldAll (t : List PipelineEvent) : Prop :=
  ∀ c e, ⟨c, .error e⟩ ∈ t → c.isTelemetry = false

section Sound

variable (loads : String → LoadsResult) (bestMessage : Schema → Json → String)
  (render dumps : Json → String) (context : AgentRunContext) (input : StageInput)

/-- The request that the configuration, the input and the prompt make. -/
def AskedWith (t : List PipelineEvent) (request : ProviderRequest) : Prop :=
  ∃ config prompt messages, resolveAgentConfig context input.agentId = .ok config ∧
    input.validate = .ok () ∧
    ⟨.load config.promptFile input.agentId, .ok prompt⟩ ∈ t ∧
    input.buildMessages dumps prompt.text = .ok messages ∧
    request = buildGenerateRequest context config messages

/-- What holds of a run after the calls `t`, where `q` is left to do. -/
structure RunSound (t : List PipelineEvent) (q : PipelineProc StageOutput) : Prop where
  once : t.countP isGenerate ≤ 1
  asked : ∀ request answer, ⟨.generate request, answer⟩ ∈ t →
    AskedWith dumps context input t request ∧ BaseRemoteProvider.validate request = .ok ()
  told : ToldAll t ∨ ∃ className message, q = .raise (.other className message)
  returned : ∀ output, q = .ret output →
    ∃ request response promptVersion payload, ⟨.generate request, .ok response⟩ ∈ t ∧
      parseAndValidate loads bestMessage render input.agentId response.content promptVersion =
        .ok (payload, output) ∧
      verdicts t = [.recordValidation true, .finalizeSpanSuccess]
  provider : ∀ e, q = .raise (.provider e) →
    (∃ request, ⟨.generate request, .error (.provider e)⟩ ∈ t) ∧
      verdicts t = [.recordValidation false,
        .finalizeSpanFailure e.type.errorClass.value e.retryable]
  outputRefused : ∀ e, q = .raise (.agent e) → e.kind = .outputValidation →
    (∃ request response, ⟨.generate request, .ok response⟩ ∈ t) ∧
      verdicts t = [.recordValidation false, .finalizeSpanFailure "AGT_OUTPUT" false]
  early : ∀ e, q = .raise (.agent e) → e.kind ≠ .outputValidation →
    t.countP isGenerate = 0 ∧ verdicts t = [] ∧
      (e.kind = .inputValidation ↔ (resolveAgentConfig context input.agentId).isOk ∧
        ∃ e', input.validate = .error e')
  unforeseen : ∀ className message, q = .raise (.other className message) → ToldAll t →
    verdicts t = [] ∧ input.validate = .ok () ∧
      ∀ request e, ⟨.generate request, .error (.provider e)⟩ ∉ t

/-- The provider has been asked at most once, and with the right request. -/
structure AskedOnce (t : List PipelineEvent) : Prop where
  once : t.countP isGenerate ≤ 1
  asked : ∀ request answer, ⟨.generate request, answer⟩ ∈ t →
    AskedWith dumps context input t request ∧ BaseRemoteProvider.validate request = .ok ()

/-- The run goes on. -/
structure Pending (t : List PipelineEvent) : Prop extends AskedOnce dumps context input t where
  told : ToldAll t

variable {loads bestMessage render dumps context input}

/-- There is one answer of the provider. -/
theorem AskedOnce.unique {t : List PipelineEvent} (h : AskedOnce dumps context input t)
    {request request' : ProviderRequest} {answer answer' : Except AgentException GenerateResponse}
    (hmem : ⟨.generate request, answer⟩ ∈ t) (hmem' : ⟨.generate request', answer'⟩ ∈ t) :
    answer = answer' := by
  cases eq_of_countP_le_one h.once hmem rfl hmem' rfl
  rfl

theorem AskedWith.append {t : List PipelineEvent} {request : ProviderRequest}
    (h : AskedWith dumps context input t request) (t' : List PipelineEvent) :
    AskedWith dumps context input (t ++ t') request := by
  obtain ⟨config, prompt, messages, hconfig, hvalid, hload, hmessages, hrequest⟩ := h
  exact ⟨config, prompt, messages, hconfig, hvalid, List.mem_append_left _ hload, hmessages, hrequest⟩

theorem AskedOnce.snoc {t : List PipelineEvent} (h : AskedOnce dumps context input t)
    {e : PipelineEvent} (he : isGenerate e = false) : AskedOnce dumps context input (t ++ [e]) := by
  refine ⟨?_, fun request answer hmem => ?_⟩
  · rw [List.countP_append, List.countP_singleton, he]
    exact h.once
  · rcases List.mem_append.mp hmem with hmem | hmem
    · exact ⟨(h.asked request answer hmem).1.append _, (h.asked request answer hmem).2⟩
    · obtain rfl := List.mem_singleton.mp hmem
      cases he

theorem ToldAll.snoc {t : List PipelineEvent} (h : ToldAll t) {e : PipelineEvent}
    (he : ∀ x, e.answer = .error x → e.call.isTelemetry = false) : ToldAll (t ++ [e]) := by
  intro c x hmem
  rcases List.mem_append.mp hmem with hmem | hmem
  · exact h c x hmem
  · obtain rfl := List.mem_singleton.mp hmem
    exact he x rfl

theorem Pending.snoc {t : List PipelineEvent} (h : Pending dumps context input t) {c : PipelineCall}
    {a : c.Answer} (hc : isGenerate ⟨c, .ok a⟩ = false) :
    Pending dumps context input (t ++ [⟨c, .ok a⟩]) where
  toAskedOnce := h.toAskedOnce.snoc hc
  told := h.told.snoc (by intro x hx; cases hx)

/-- There is a call left to make. -/
theorem Pending.sound {t : List PipelineEvent} (h : Pending dumps context input t) (c : PipelineCall)
    (k : Except AgentException c.Answer → PipelineProc StageOutput) :
    RunSound loads bestMessage render dumps context input t (.call c k) where
  once := h.once
  asked := h.asked
  told := Or.inl h.told
  returned := by intro _ hq; cases hq
  provider := by intro _ hq; cases hq
  outputRefused := by intro _ hq; cases hq
  early := by intro _ hq; cases hq
  unforeseen := by intro _ _ hq; cases hq

theorem verdicts_append (t t' : List PipelineEvent) : verdicts (t ++ t') = verdicts t ++ verdicts t' := by
  rw [verdicts, List.map_append, List.filter_append, verdicts, verdicts]

/-- A run that a call of telemetry ends. -/
theorem AskedOnce.untold {t : List PipelineEvent} (h : AskedOnce dumps context input t) {c : PipelineCall}
    {e : AgentException} (hmem : ⟨c, .error e⟩ ∈ t) (hc : c.isTelemetry = true)
    {className message : String} :
    RunSound loads bestMessage render dumps context input t (.raise (.other className message)) where
  once := h.once
  asked := h.asked
  told := Or.inr ⟨className, message, rfl⟩
  returned := by intro _ hq; cases hq
  provider := by intro _ hq; cases hq
  outputRefused := by intro _ hq; cases hq
  early := by intro _ hq; cases hq
  unforeseen := by
    intro _ _ _ htold
    exact absurd ((htold c e hmem).symm.trans hc) (by simp)

/-- A call of telemetry, and what follows. -/
theorem tell_always {t : List PipelineEvent} (h : Pending dumps context input t) {c : PipelineCall}
    {rest : PipelineProc StageOutput} (hc : c.isTelemetry = true)
    (hrest : ∀ a, rest.Always PossibleAnswer
      (RunSound loads bestMessage render dumps context input) (t ++ [⟨c, .ok a⟩])) :
    (tell c rest).Always PossibleAnswer (RunSound loads bestMessage render dumps context input) t := by
  refine ⟨h.sound c _, fun r hr => ?_⟩
  cases r with
  | ok a => exact hrest a
  | error e =>
    obtain ⟨className, message, rfl⟩ := hr.telemetry hc
    have hasks : isGenerate ⟨c, .error (.other className message)⟩ = false := by
      cases c <;> first | rfl | exact absurd hc (by simp [PipelineCall.isTelemetry])
    exact (h.toAskedOnce.snoc hasks).untold (List.mem_append_right _ (List.mem_singleton_self _)) hc

/-- Three calls of telemetry before the end of a failed run. -/
theorem runFailed_always {t : List PipelineEvent} (h : Pending dumps context input t)
    {code errorClass : String} {retryable : Bool} {e : AgentException}
    (hend : ∀ t', Pending dumps context input (t ++ t') →
      verdicts t' = [.recordValidation false, .finalizeSpanFailure errorClass retryable] →
      RunSound loads bestMessage render dumps context input (t ++ t') (.raise e)) :
    (runFailed code errorClass retryable e).Always PossibleAnswer
      (RunSound loads bestMessage render dumps context input) t := by
  refine tell_always h rfl fun a => ?_
  have hrecorded := h.snoc (c := .recordValidation false) (a := a) rfl
  refine tell_always hrecorded rfl fun b => ?_
  have hlogged := hrecorded.snoc (c := .logValidationFailed code) (a := b) rfl
  refine tell_always hlogged rfl fun c => ?_
  have hended := hlogged.snoc (c := .finalizeSpanFailure errorClass retryable) (a := c) rfl
  rw [List.append_assoc, List.append_assoc] at hended ⊢
  exact hend _ hended rfl

/-- The end of a run that passed. -/
theorem runPassed_always {t : List PipelineEvent} (h : Pending dumps context input t)
    {model promptVersion : String} {output : StageOutput}
    (hend : ∀ t', Pending dumps context input (t ++ t') →
      verdicts t' = [.recordValidation true, .finalizeSpanSuccess] →
      RunSound loads bestMessage render dumps context input (t ++ t') (.ret output)) :
    (runPassed model promptVersion output).Always PossibleAnswer
      (RunSound loads bestMessage render dumps context input) t := by
  have hlast : ∀ t', Pending dumps context input (t ++ t') →
      verdicts t' = [.recordValidation true] →
      (tell (.logRunCompleted model promptVersion) (tell .finalizeSpanSuccess (.ret output))).Always
        PossibleAnswer (RunSound loads bestMessage render dumps context input) (t ++ t') := by
    intro t' ht' hverdicts
    refine tell_always ht' rfl fun a => ?_
    have hlogged := ht'.snoc (c := .logRunCompleted model promptVersion) (a := a) rfl
    refine tell_always hlogged rfl fun b => ?_
    have hended := hlogged.snoc (c := .finalizeSpanSuccess) (a := b) rfl
    rw [List.append_assoc, List.append_assoc] at hended ⊢
    refine hend _ hended ?_
    rw [verdicts_append, hverdicts]
    rfl
  refine tell_always h rfl fun a => ?_
  have hrecorded := h.snoc (c := .recordValidation true) (a := a) rfl
  have hemit : ∀ b, Pending dumps context input
      (t ++ ([⟨.recordValidation true, .ok a⟩] ++ [⟨.stageOutcome output, .ok b⟩])) := by
    intro b
    rw [← List.append_assoc]
    exact hrecorded.snoc rfl
  cases output with
  | scenario o => exact hlast _ hrecorded rfl
  | topic o =>
    refine tell_always hrecorded rfl fun b => ?_
    rw [List.append_assoc]
    exact hlast _ (hemit b) rfl
  | critic o =>
    refine tell_always hrecorded rfl fun b => ?_
    rw [List.append_assoc]
    exact hlast _ (hemit b) rfl

/-- An agent error of the parsing or the validation is one of the output. -/
theorem parseAndValidate_agent {stage : AgentId} {content promptVersion : String} {e : AgentError}
    (h : parseAndValidate loads bestMessage render stage content promptVersion = .error (.agent e)) :
    e.kind = .outputValidation := by
  rw [parseAndValidate] at h
  rcases except_bind_error h with h | ⟨payload, -, h⟩
  · rcases parseProviderContent_cases loads content stage with ⟨-, -, name, hpy⟩ |
      ⟨-, data, -, hok⟩ | ⟨-, e', he', hkind⟩
    · rw [hpy] at h
      cases h
    · rw [hok] at h
      cases h
    · rw [he'] at h
      cases h
      exact hkind
  · rcases except_bind_error h with h | ⟨output, -, h⟩
    · by_cases haccepts : (schemaOf stage).accepts (.obj payload.data)
      · obtain ⟨o, ho, -⟩ := validateStage_of_accepts bestMessage render payload promptVersion haccepts
        rw [ho] at h
        cases h
      · obtain ⟨e', he', hkind⟩ :=
          validateStage_of_rejects bestMessage render payload promptVersion haccepts
        rw [he'] at h
        cases h
        exact hkind
    · cases h

/-- What follows a text of the provider. -/
theorem afterResponse_always {t : List PipelineEvent} (h : Pending dumps context input t)
    (hquiet : verdicts t = []) {request : ProviderRequest} {response : GenerateResponse}
    (hmem : ⟨.generate request, .ok response⟩ ∈ t) (model promptVersion : String) :
    (afterResponse loads bestMessage render input.agentId model promptVersion
      response.content).Always PossibleAnswer
        (RunSound loads bestMessage render dumps context input) t := by
  rw [afterResponse]
  cases hparse : parseAndValidate loads bestMessage render input.agentId response.content
      promptVersion with
  | ok result =>
    refine runPassed_always h fun t' ht' hverdicts => ?_
    refine ⟨ht'.once, ht'.asked, Or.inl ht'.told, ?_, ?_, ?_, ?_, ?_⟩
    · intro output hq
      cases hq
      refine ⟨request, response, promptVersion, result.1, List.mem_append_left _ hmem, hparse, ?_⟩
      rw [verdicts_append, hquiet, hverdicts]
      rfl
    · intro e hq
      cases hq
    · intro e hq
      cases hq
    · intro e hq
      cases hq
    · intro className message hq
      cases hq
  | error e =>
    cases e with
    | py name =>
      refine ⟨h.once, h.asked, Or.inl h.told, ?_, ?_, ?_, ?_, ?_⟩
      · intro output hq
        cases hq
      · intro e hq
        cases hq
      · intro e hq
        cases hq
      · intro e hq
        cases hq
      · intro className message _ _
        obtain ⟨⟨_, _, _, -, hvalid, -⟩, -⟩ := h.asked request _ hmem
        refine ⟨hquiet, hvalid, fun request' e hmem' => ?_⟩
        cases h.unique hmem hmem'
    | agent e =>
      have hkind := parseAndValidate_agent hparse
      show Proc.Always PossibleAnswer _ _ (if e.kind = .outputValidation then _ else _)
      rw [if_pos hkind]
      refine runFailed_always h fun t' ht' hverdicts => ?_
      refine ⟨ht'.once, ht'.asked, Or.inl ht'.told, ?_, ?_, ?_, ?_, ?_⟩
      · intro output hq
        cases hq
      · intro e' hq
        cases hq
      · intro e' hq _
        cases hq
        refine ⟨⟨request, response, List.mem_append_left _ hmem⟩, ?_⟩
        rw [verdicts_append, hquiet, hverdicts]
        rfl
      · intro e' hq hother
        cases hq
        exact absurd hkind hother
      · intro className message hq
        cases hq

/-- The provider is asked with the right request, and only here. -/
theorem askProvider_always {t : List PipelineEvent} (hnone : t.countP isGenerate = 0)
    (htold : ToldAll t) (hquiet : verdicts t = []) {config : AgentConfig} {request : ProviderRequest}
    (hasked : AskedWith dumps context input t request)
    (hvalid : BaseRemoteProvider.validate request = .ok ()) (promptVersion : String) :
    (askProvider loads bestMessage render input.agentId config promptVersion request).Always
      PossibleAnswer (RunSound loads bestMessage render dumps context input) t := by
  have hbefore : Pending dumps context input t := by
    refine ⟨⟨by omega, fun request' answer hmem => ?_⟩, htold⟩
    exact absurd (List.countP_eq_zero.mp hnone _ hmem) (by simp [isGenerate, PipelineCall.isGenerate])
  refine ⟨hbefore.sound _ _, fun r hr => ?_⟩
  have hafter : Pending dumps context input (t ++ [⟨.generate request, r⟩]) := by
    refine ⟨⟨?_, fun request' answer hmem => ?_⟩, htold.snoc fun _ _ => rfl⟩
    · rw [List.countP_append, hnone]
      exact le_rfl
    · rcases List.mem_append.mp hmem with hmem | hmem
      · exact absurd (List.countP_eq_zero.mp hnone _ hmem)
          (by simp [isGenerate, PipelineCall.isGenerate])
      · cases List.mem_singleton.mp hmem
        exact ⟨hasked.append _, hvalid⟩
  have hafterQuiet : verdicts (t ++ [⟨.generate request, r⟩]) = [] := by
    rw [verdicts_append, hquiet]
    rfl
  have hmem : ⟨.generate request, r⟩ ∈ t ++ [⟨.generate request, r⟩] :=
    List.mem_append_right _ (List.mem_singleton_self _)
  cases r with
  | ok response => exact afterResponse_always hafter hafterQuiet hmem _ _
  | error e =>
    cases e with
    | agent e => exact absurd hr id
    | provider e =>
      refine runFailed_always hafter fun t' ht' hverdicts => ?_
      refine ⟨ht'.once, ht'.asked, Or.inl ht'.told, ?_, ?_, ?_, ?_, ?_⟩
      · intro output hq
        cases hq
      · intro e' hq
        cases hq
        refine ⟨⟨request, List.mem_append_left _ hmem⟩, ?_⟩
        rw [verdicts_append, hafterQuiet, hverdicts]
        rfl
      · intro e' hq
        cases hq
      · intro e' hq
        cases hq
      · intro className message hq
        cases hq
    | other className message =>
      refine ⟨hafter.once, hafter.asked, Or.inl hafter.told, ?_, ?_, ?_, ?_, ?_⟩
      · intro output hq
        cases hq
      · intro e' hq
        cases hq
      · intro e' hq
        cases hq
      · intro e' hq
        cases hq
      · intro _ _ _ _
        obtain ⟨_, _, _, -, hinput, -⟩ := hasked
        refine ⟨hafterQuiet, hinput, fun request' e hmem' => ?_⟩
        cases hafter.unique hmem hmem'

/-- A refused run before telemetry has started. -/
theorem sound_early {t : List PipelineEvent} (hnone : t.countP isGenerate = 0)
    (htold : ToldAll t) (hquiet : verdicts t = []) {e : AgentError} (hkind : e.kind ≠ .outputValidation)
    (hinput : e.kind = .inputValidation ↔ (resolveAgentConfig context input.agentId).isOk ∧
      ∃ e', input.validate = .error e') :
    RunSound loads bestMessage render dumps context input t (.raise (.agent e)) := by
  refine ⟨by omega, fun request answer hmem => ?_, Or.inl htold, ?_, ?_, ?_, ?_, ?_⟩
  · exact absurd (List.countP_eq_zero.mp hnone _ hmem) (by simp [isGenerate, PipelineCall.isGenerate])
  · intro output hq
    cases hq
  · intro e' hq
    cases hq
  · intro e' hq houtput
    cases hq
    exact absurd houtput hkind
  · intro e' hq _
    cases hq
    exact ⟨hnone, hquiet, hinput⟩
  · intro className message hq
    cases hq

/-! ### The checks before the provider is asked -/

theorem resolveAgentConfig_error {agentId : AgentId} {e : AgentError}
    (h : resolveAgentConfig context agentId = .error e) : e.kind = .configuration := by
  rw [resolveAgentConfig] at h
  split at h
  · cases h
    rfl
  · split at h
    · cases h
      rfl
    · split at h
      · cases h
        rfl
      · cases h

theorem resolveAgentConfig_model {agentId : AgentId} {config : AgentConfig}
    (h : resolveAgentConfig context agentId = .ok config) : PyStr.strip config.model ≠ "" := by
  rw [resolveAgentConfig] at h
  split at h
  · cases h
  · split at h
    · cases h
    · next hmodel =>
      split at h
      · cases h
      · cases h
        exact hmodel

theorem validate_error {e : AgentError} (h : input.validate = .error e) :
    e.kind = .inputValidation := by
  cases input with
  | topic i =>
    rw [StageInput.validate, InputValidator.validateTopicSelection] at h
    split at h
    · cases h
      rfl
    · split at h
      · cases h
        rfl
      · cases h
  | scenario i =>
    rw [StageInput.validate, InputValidator.validateScenarioGeneration] at h
    split at h
    · cases h
      rfl
    · cases h
  | critic i =>
    rw [StageInput.validate, InputValidator.validateCritic] at h
    split at h
    · cases h
      rfl
    · split at h
      · cases h
        rfl
      · cases h

theorem buildMessages_cases (promptText : String) (vars : List (String × String)) (payload : String)
    (agentId : AgentId) :
    (∃ messages, Agents.buildMessages promptText vars payload agentId = .ok messages ∧
        messages.length = 2) ∨
      ∃ e, Agents.buildMessages promptText vars payload agentId = .error e ∧ e.kind = .promptLoad := by
  rw [Agents.buildMessages, substituteMustache]
  split
  · exact Or.inr ⟨_, rfl, rfl⟩
  · exact Or.inl ⟨_, rfl, rfl⟩

/-- The messages of a stage are two, or the prompt could not be filled in. -/
theorem stageMessages_cases (dumps : Json → String) (promptText : String) (input : StageInput) :
    (∃ messages, input.buildMessages dumps promptText = .ok messages ∧ messages.length = 2) ∨
      ∃ e, input.buildMessages dumps promptText = .error e ∧ e.kind = .promptLoad := by
  cases input with
  | topic i => exact buildMessages_cases _ _ _ _
  | scenario i => exact buildMessages_cases _ _ _ _
  | critic i => exact buildMessages_cases _ _ _ _

/-- The provider does not refuse the request of an agent. -/
theorem validate_buildGenerateRequest {config : AgentConfig} {agentId : AgentId}
    (hconfig : resolveAgentConfig context agentId = .ok config) {messages : List ProviderMessage}
    (hmessages : messages.length = 2) :
    BaseRemoteProvider.validate (buildGenerateRequest context config messages) = .ok () := by
  rw [BaseRemoteProvider.validate]
  show (if messages.length = 0 then _ else if PyStr.strip config.model = "" then _ else _) = _
  rw [if_neg (by omega), if_neg (resolveAgentConfig_model hconfig)]

/-- **Every run is sound.** -/
theorem runPipeline_always :
    (runPipeline loads bestMessage render dumps context input).Always PossibleAnswer
      (RunSound loads bestMessage render dumps context input) [] := by
  have hempty : Pending dumps context input [] := ⟨⟨Nat.zero_le 1, by simp⟩, by simp [ToldAll]⟩
  rw [runPipeline]
  cases hconfig : resolveAgentConfig context input.agentId with
  | error e =>
    have hkind := resolveAgentConfig_error hconfig
    refine sound_early rfl hempty.told rfl (by simp [hkind]) ?_
    rw [hkind, hconfig]
    simp [Except.isOk, Except.toBool]
  | ok config =>
    cases hvalid : input.validate with
    | error e =>
      have hkind := validate_error hvalid
      refine sound_early rfl hempty.told rfl (by simp [hkind]) ?_
      rw [hkind, hconfig]
      exact iff_of_true rfl ⟨rfl, e, hvalid⟩
    | ok u =>
      have hother : ∀ e : AgentError, e.kind = .promptLoad →
          (e.kind = .inputValidation ↔ (resolveAgentConfig context input.agentId).isOk ∧
            ∃ e', input.validate = .error e') := by
        intro e hkind
        rw [hkind, hvalid]
        simp
      refine ⟨hempty.sound _ _, fun r hr => ?_⟩
      cases r with
      | error e =>
        cases e with
        | provider e => exact absurd hr id
        | agent e =>
          have hkind : e.kind = .promptLoad := hr
          exact sound_early rfl (hempty.told.snoc fun _ _ => rfl) rfl (by simp [hkind])
            (hother e hkind)
        | other className message =>
          have hloaded := hempty.toAskedOnce.snoc
            (e := ⟨.load config.promptFile input.agentId, .error (.other className message)⟩) rfl
          refine ⟨hloaded.once, hloaded.asked, Or.inr ⟨className, message, rfl⟩, ?_, ?_, ?_, ?_, ?_⟩
          · intro output hq
            cases hq
          · intro e' hq
            cases hq
          · intro e' hq
            cases hq
          · intro e' hq
            cases hq
          · intro _ _ _ _
            exact ⟨rfl, hvalid, by simp⟩
      | ok prompt =>
        have hloaded := hempty.snoc (c := .load config.promptFile input.agentId) (a := prompt) rfl
        rcases stageMessages_cases dumps prompt.text input with
          ⟨messages, hmessages, htwo⟩ | ⟨e, hmessages, hkind⟩
        · simp only [hmessages]
          refine tell_always hloaded rfl fun a => ?_
          refine askProvider_always rfl (hloaded.snoc (c := .startRunSpan config.model) (a := a)
            rfl).told rfl ?_ (validate_buildGenerateRequest hconfig htwo) _
          exact ⟨config, prompt, messages, hconfig, hvalid, by simp, hmessages, rfl⟩
        · simp only [hmessages]
          exact sound_early rfl hloaded.told rfl (by simp [hkind]) (hother e hkind)

end Sound

/-! ### What the worker makes of a failed run

The exception passes the handler and the stage transaction, which rolls back, and is classified by
the loop.
-/

/-- The exception, as the worker tells it apart. -/
def Agents.AgentException.toPyException : AgentException → PyException
  | .provider e => .provider e.retryable (e.type = .timeout) e.type.errorClass.value e.message
  | .other className message => .other className message
  | .agent e =>
      match e.kind with
      | .inputValidation | .outputValidation => .agentValidation e.kind.code e.message
      | .configuration => .agentConfiguration e.kind.code e.message
      | .promptLoad => .other "AgentPromptLoadError" e.message

section Taken

variable {loads : String → LoadsResult} {bestMessage : Schema → Json → String}
  {render dumps : Json → String} {context : AgentRunContext} {input : StageInput}

/-- The provider has answered with an error that meets `P`, and telemetry has raised nothing. -/
def FailedAtProvider (t : List PipelineEvent) (P : ProviderError → Prop) : Prop :=
  ToldAll t ∧ ∃ request error, ⟨.generate request, .error (.provider error)⟩ ∈ t ∧ P error

/-- The provider or one of the two validations has failed, and telemetry has raised nothing. -/
def FailedAsForeseen (context : AgentRunContext) (input : StageInput) (t : List PipelineEvent) :
    Prop :=
  ToldAll t ∧ (verdicts t ≠ [] ∨ ((resolveAgentConfig context input.agentId).isOk ∧
    ∃ e', input.validate = .error e'))

/-- What follows from a failed run: whether the worker retries, what `run_agent_stage` inserts, and
what is left of it. -/
structure WorkerTakes (context : AgentRunContext) (input : StageInput) (t : List PipelineEvent)
    (e : AgentException) : Prop where
  retried : ∀ cfg task message attempt,
    WorkerLoop.failureDecision cfg task message e.toPyException = .retry attempt ↔
      attempt = RetryClassifier.effectiveAttempt task message ∧
        RetryClassifier.isExhausted cfg attempt task.taskType = false ∧
        FailedAtProvider t fun error => error.retryable = true
  inserts : ∀ ctx agentName inputArtifactId st, ∃ st' rows,
    HandlerSupport.runAgentStage ctx agentName inputArtifactId (.error e.toPyException) {} st =
        .error e.toPyException st' ∧
      st'.store.aiInvocations = st.store.aiInvocations ++ rows ∧
      (rows ≠ [] ↔ FailedAsForeseen context input t) ∧
      ((∃ row ∈ rows, row.status = .timeout) ↔ FailedAtProvider t fun error => error.type = .timeout)
  rolledBack : ∀ repo cfg env ctx faults st, ∃ e' st',
    WorkerLoop.stageCalls repo cfg env ctx (.error e.toPyException) faults st = .error e' st' ∧
      st'.store = st.store

/-- What the three readings of an exception come to. -/
structure Reading (context : AgentRunContext) (input : StageInput) (t : List PipelineEvent)
    (e : PyException) : Prop where
  stage : e.ofStage
  retryable : (RetryClassifier.classifyException e).1 = true ↔
    FailedAtProvider t fun error => error.retryable = true
  caught : HandlerSupport.catches e = true ↔ FailedAsForeseen context input t
  timeout : HandlerSupport.mapAgentErrorToInvocationStatus (some e) = .timeout ↔
    FailedAtProvider t fun error => error.type = .timeout

/-- An exception that the worker reads right is taken right. -/
theorem Reading.taken {t : List PipelineEvent} {e : AgentException}
    (h : Reading context input t e.toPyException)
    (htimeout : HandlerSupport.mapAgentErrorToInvocationStatus (some e.toPyException) = .timeout →
      HandlerSupport.catches e.toPyException = true) :
    WorkerTakes context input t e where
  retried := by
    intro cfg task message attempt
    rw [failureDecision_retry_iff h.stage, h.retryable]
  inserts := by
    intro ctx agentName inputArtifactId st
    have hraises : HandlerSupport.runAgentStage ctx agentName inputArtifactId
        (.error e.toPyException) {} st = .error e.toPyException _ :=
      runAgentStage_raises (callRaised_quiet _)
    refine ⟨_, if HandlerSupport.catches e.toPyException then
      [HandlerSupport.failureRow ctx agentName inputArtifactId e.toPyException] else [], hraises, ?_, ?_, ?_⟩
    · by_cases hc : HandlerSupport.catches e.toPyException = true
      · rw [if_pos hc, if_pos hc]
        rfl
      · rw [if_neg hc, if_neg hc]
        exact (List.append_nil _).symm
    · rw [← h.caught]
      simp
    · rw [← h.timeout]
      by_cases hc : HandlerSupport.catches e.toPyException = true
      · rw [if_pos hc]
        simp [HandlerSupport.failureRow]
      · rw [if_neg hc]
        exact iff_of_false (by simp) fun hstatus => hc (htimeout hstatus)
  rolledBack := by
    intro repo cfg env ctx faults st
    obtain ⟨e', hout⟩ := WorkerLoop.stageOutcome_raised repo cfg env ctx e.toPyException faults st.store
    rw [WorkerLoop.stageCalls_eq, hout]
    exact ⟨e', _, rfl, rfl⟩

theorem RunSound.taken {t : List PipelineEvent} {e : AgentException}
    (h : RunSound loads bestMessage render dumps context input t (.raise e)) :
    WorkerTakes context input t e := by
  have honce : AskedOnce dumps context input t := ⟨h.once, h.asked⟩
  cases e with
  | provider error =>
    obtain ⟨⟨request, hmem⟩, hverdicts⟩ := h.provider error rfl
    have htold : ToldAll t := by
      rcases h.told with htold | ⟨_, _, hq⟩
      · exact htold
      · cases hq
    -- the provider has answered once
    have hfailed : ∀ P : ProviderError → Prop, P error ↔ FailedAtProvider t P := by
      intro P
      refine ⟨fun hP => ⟨htold, request, error, hmem, hP⟩, ?_⟩
      rintro ⟨-, request', error', hmem', hP⟩
      cases honce.unique hmem hmem'
      exact hP
    refine Reading.taken ⟨rfl, hfailed fun error => error.retryable = true, iff_of_true rfl ⟨htold, Or.inl (by simp [hverdicts])⟩, ?_⟩
      fun _ => rfl
    rw [← hfailed fun error => error.type = .timeout]
    by_cases htype : error.type = .timeout <;>
      simp [AgentException.toPyException, HandlerSupport.mapAgentErrorToInvocationStatus, htype]
  | other className message =>
    have hnone : ∀ P, ¬ FailedAtProvider t P := by
      rintro P ⟨htold, request, error, hmem, -⟩
      exact (h.unforeseen className message rfl htold).2.2 request error hmem
    refine Reading.taken ⟨rfl, iff_of_false (by simp [AgentException.toPyException,
      RetryClassifier.classifyException]) (hnone _), iff_of_false (by simp [
      AgentException.toPyException, HandlerSupport.catches]) ?_, iff_of_false (by simp [
      AgentException.toPyException, HandlerSupport.mapAgentErrorToInvocationStatus]) (hnone _)⟩
      (by simp [AgentException.toPyException, HandlerSupport.mapAgentErrorToInvocationStatus])
    rintro ⟨htold, hforeseen⟩
    obtain ⟨hverdicts, hvalid, -⟩ := h.unforeseen className message rfl htold
    rw [hverdicts, hvalid] at hforeseen
    simp at hforeseen
  | agent error =>
    have htold : ToldAll t := by
      rcases h.told with htold | ⟨_, _, hq⟩
      · exact htold
      · cases hq
    have hnone : ∀ P, ¬ FailedAtProvider t P := by
      rintro P ⟨-, request, error', hmem, -⟩
      by_cases hkind : error.kind = .outputValidation
      · obtain ⟨⟨request', response, hmem'⟩, -⟩ := h.outputRefused error rfl hkind
        cases honce.unique hmem hmem'
      · exact absurd (List.countP_eq_zero.mp (h.early error rfl hkind).1 _ hmem)
          (by simp [isGenerate, PipelineCall.isGenerate])
    have hcatches : HandlerSupport.catches (AgentException.agent error).toPyException = true ↔
        error.kind = .outputValidation ∨ error.kind = .inputValidation := by
      rw [AgentException.toPyException]
      cases error.kind <;> simp [HandlerSupport.catches]
    have hstage : (AgentException.agent error).toPyException.ofStage := by
      rw [AgentException.toPyException]
      cases error.kind <;> exact rfl
    have hpermanent :
        (RetryClassifier.classifyException (AgentException.agent error).toPyException).1 = false := by
      rw [AgentException.toPyException]
      cases error.kind <;> rfl
    have hstatus : HandlerSupport.mapAgentErrorToInvocationStatus
        (some (AgentException.agent error).toPyException) ≠ .timeout := by
      rw [AgentException.toPyException]
      cases error.kind <;> simp [HandlerSupport.mapAgentErrorToInvocationStatus]
    refine Reading.taken ⟨hstage, iff_of_false (by simp [hpermanent]) (hnone _), ?_,
      iff_of_false hstatus (hnone _)⟩ fun htimeout => absurd htimeout hstatus
    rw [hcatches]
    by_cases hkind : error.kind = .outputValidation
    · obtain ⟨-, hverdicts⟩ := h.outputRefused error rfl hkind
      exact iff_of_true (Or.inl hkind) ⟨htold, Or.inl (by simp [hverdicts])⟩
    · obtain ⟨-, hverdicts, hinput⟩ := h.early error rfl hkind
      rw [FailedAsForeseen, hverdicts, or_iff_right hkind, hinput]
      simp [htold]

end Taken

/-! ### Runs in any number of threads

The runs share the provider and the telemetry, and nothing else.
-/

abbrev AgentPool := LoggedPool PipelineCall PipelineCall.Answer AgentException StageOutput Unit

inductive AgentStep
  /-- A worker thread runs an agent. -/
  | run (context : AgentRunContext) (input : StageInput)
  | proceed (i : Nat) (r : PipelineReply)

section Pool

variable (loads : String → LoadsResult) (bestMessage : Schema → Json → String)
  (render dumps : Json → String)

def AgentStep.poolStep :
    AgentStep → PoolStep PipelineCall PipelineCall.Answer AgentException StageOutput PipelineReply Empty
  | .run context input => .start (runPipeline loads bestMessage render dumps context input)
  | .proceed i r => .proceed i r

/-- The agents after some steps of their threads. -/
def runAgents (steps : List AgentStep) : AgentPool :=
  CartoonDemo.run (LoggedPool.step pipelineAnswer fun _ w => w) { world := () }
    (steps.map (AgentStep.poolStep loads bestMessage render dumps))

/-- The runs, in the order in which they started. -/
def startedRuns (steps : List AgentStep) : List (AgentRunContext × StageInput) :=
  steps.filterMap fun
    | .run context input => some (context, input)
    | .proceed _ _ => none

theorem runAgents_starts (s : AgentPool) (steps : List AgentStep) :
    (CartoonDemo.run (LoggedPool.step pipelineAnswer fun _ w => w) s
        (steps.map (AgentStep.poolStep loads bestMessage render dumps))).starts =
      s.starts ++ (startedRuns steps).map fun r =>
        runPipeline loads bestMessage render dumps r.1 r.2 := by
  induction steps generalizing s with
  | nil => exact (List.append_nil _).symm
  | cons a steps ih =>
    rw [List.map_cons, run_cons, ih, LoggedPool.step_starts, List.append_assoc]
    cases a with
    | run context input => rfl
    | proceed i r => rfl

theorem told_cases (r : PipelineReply) :
    r.told = .ok () ∨ ∃ className message, r.told = .error (.other className message) := by
  unfold PipelineReply.told
  cases r.telemetry with
  | none => exact Or.inl rfl
  | some p => exact Or.inr ⟨p.1, p.2, rfl⟩

theorem possible_pipelineAnswer (c : PipelineCall) (r : PipelineReply) (w : Unit) :
    PossibleAnswer ⟨c, (pipelineAnswer c r w).1⟩ := by
  cases c with
  | load promptFile agentId =>
    obtain ⟨load, response⟩ := r
    cases load with
    | ok prompt => trivial
    | error e =>
      cases e with
      | promptLoad reason => exact rfl
      | other className message => trivial
  | generate request =>
    obtain ⟨load, response⟩ := r
    cases response with
    | ok response => trivial
    | error e =>
      cases e with
      | provider error => trivial
      | transport signal => trivial
      | other className message => trivial
  | _ =>
    dsimp only [pipelineAnswer]
    rcases told_cases r with htold | ⟨className, message, htold⟩ <;> rw [htold] <;> trivial

theorem runAgents_follows (steps : List AgentStep) :
    (runAgents loads bestMessage render dumps steps).Follows PossibleAnswer
      fun program t q => ∀ r : { r : AgentRunContext × StageInput //
          program = runPipeline loads bestMessage render dumps r.1 r.2 },
        RunSound loads bestMessage render dumps r.1.1 r.1.2 t q := by
  refine LoggedPool.run_follows possible_pipelineAnswer _ fun program _ => ?_
  refine Proc.always_forall fun r => ?_
  obtain ⟨r, rfl⟩ := r
  exact runPipeline_always

/-- **Agents ask once, with checked inputs, and the worker learns what happened**: every run is sound
in every run of the threads. A failed one is retried exactly after an error of the provider that may
be retried, while attempts are left; the invocation that is inserted for it is rolled back. -/
theorem agent_runs (steps : List AgentStep) (i : Nat) (context : AgentRunContext)
    (input : StageInput) (q : PipelineProc StageOutput)
    (hstarted : (startedRuns steps)[i]? = some (context, input))
    (hq : (runAgents loads bestMessage render dumps steps).procs[i]? = some q) :
    RunSound loads bestMessage render dumps context input
        ((runAgents loads bestMessage render dumps steps).events i) q ∧
      ∀ e, q = .raise e → WorkerTakes context input
        ((runAgents loads bestMessage render dumps steps).events i) e := by
  have hfollows := runAgents_follows loads bestMessage render dumps steps
  have hstart : (runAgents loads bestMessage render dumps steps).starts[i]? =
      some (runPipeline loads bestMessage render dumps context input) := by
    rw [runAgents, runAgents_starts, List.nil_append, List.getElem?_map, hstarted]
    rfl
  have hsound : RunSound loads bestMessage render dumps context input
      ((runAgents loads bestMessage render dumps steps).events i) q :=
    (hfollows.always i _ q hstart hq).here ⟨(context, input), rfl⟩
  refine ⟨hsound, ?_⟩
  rintro e rfl
  exact hsound.taken

end Pool

/-- A selection whose provider times out. -/
def selectionContext : AgentRunContext where
  workflowId := "wf"
  taskId := "task"
  taskAttempt := 1
  agentConfig := some { provider := .openai, model := "m", promptFile := "topic.md" }
  providerId := .openai

def selectionInput : StageInput := .topic ⟨[{ sourceId := "1" }]⟩

def timedOutError : ProviderError := make .timeout .openai "deadline exceeded"

def timedOutSteps : List AgentStep :=
  let r : PipelineReply :=
    { load := .ok { text := "t", version := "v", path := "topic.md" }
      response := .error (.provider timedOutError) }
  .run selectionContext selectionInput :: List.replicate 6 (.proceed 0 r)

/-- The task of the selection, in its first attempt, and its message. -/
def selectionTask : TaskRecord :=
  { taskId := "task", workflowId := "wf", taskType := .selectTopic, attempt := 1,
    status := .dispatched, payloadReference := { refId := "ref", refKind := taskPayloadRefKind },
    idempotencyKey := "wf:SELECT_TOPIC:1", createdAt := 0, updatedAt := 0 }

def selectionMessage : CartoonDemo.TaskMessage :=
  { taskId := "task", workflowId := "wf", taskType := .selectTopic, attempt := 1, createdAt := 0,
    payloadReference := "ref" }

theorem timedOut_retried :
    WorkerLoop.failureDecision .prod selectionTask selectionMessage
        (AgentException.provider timedOutError).toPyException = .retry 1 ∧
      WorkerTakes selectionContext selectionInput
        ((runAgents (fun _ => .otherError "") (fun _ _ => "") (fun _ => "") (fun _ => "")
          timedOutSteps).events 0) (.provider timedOutError) := by
  refine ⟨rfl, (agent_runs _ _ _ _ timedOutSteps 0 selectionContext selectionInput _ rfl ?_).2 _ rfl⟩
  rfl

end CartoonDemo
