import CartoonDemo.Observability.Logger

/-!
# CartoonDemo.Observability.LoggerCalls

The **calls of a configured logger** (`LoggerImpl` of `observability/logger_impl.py`). A call raises
where its line is not filtered out and a text in it is too long or nothing but a secret
(`emit_isOk_iff`), and nowhere else: what it adds to the line is never redacted.
-/

namespace CartoonDemo

namespace Observability

/-- The class of the exception. -/
def TelemetryError.className : TelemetryError → String
  | .invalidLogEnvelope _ => "InvalidLogEnvelopeError"
  | .redactionRequired _ => "RedactionRequiredError"
  | .py name => name

/-- `LoggerImpl`, with what it finds around it: the correlation and the trace that are bound, and
the time of a line. `json.dumps` always finds a text for the fields of a line. -/
structure LoggerImpl where
  repr : String → String
  dumps : Json → String
  logLevel : LogLevel
  serviceName : String
  correlation : CorrelationContext
  trace : Option TraceContext
  now : PyDatetime

namespace LoggerImpl

variable (logger : LoggerImpl)

/-- `_build_envelope`, of fields that are attributes. -/
def buildEnvelope (level : LogLevel) (event message : String) (attributes : Attributes) : LogEnvelope where
  event
  level
  timestamp := logger.now
  message
  serviceName := logger.serviceName
  workflowId := logger.correlation.workflowId
  taskId := logger.correlation.taskId
  taskAttempt := logger.correlation.taskAttempt
  traceId := logger.trace.map TraceContext.traceId
  spanId := logger.trace.map TraceContext.spanId
  attributes

/-- `emit`; a line is written without an exception. -/
def emit (envelope : LogEnvelope) : Except TelemetryError (Option LogLine) :=
  Observability.emit logger.repr (fun value => some (logger.dumps value)) logger.logLevel
    logger.correlation logger.trace envelope

/-- `info`. -/
def info (event message : String) (attributes : Attributes) :
    Except TelemetryError (Option LogLine) :=
  logger.emit (logger.buildEnvelope .info event message attributes)

/-- `warning`. -/
def warning (event message : String) (attributes : Attributes) :
    Except TelemetryError (Option LogLine) :=
  logger.emit (logger.buildEnvelope .warning event message attributes)

end LoggerImpl

/-! ### When a call raises

The checks before the filter concern the event and the keys, those after it the texts. -/

/-- The text may be an attribute of a line. -/
def Loggable (key value : String) : Prop :=
  value.length ≤ maxScalarStringLength ∧ isEntirelySecret value (some key) = false

instance (key value : String) : Decidable (Loggable key value) := instDecidableAnd

theorem redactStringValue_isOk_iff {value : String} {key : Option String} :
    (redactStringValue value key).isOk ↔ isEntirelySecret value key = false := by
  rw [redactStringValue]
  cases isEntirelySecret value key with
  | true => exact iff_of_false Bool.false_ne_true Bool.false_ne_true.symm
  | false => exact iff_of_true rfl rfl

theorem redactAttribute_isOk_iff {entry : String × Json} :
    (redactAttribute entry).isOk ↔
      ∀ value, entry.2 = .str value → isEntirelySecret value (some entry.1) = false := by
  obtain ⟨key, value⟩ := entry
  cases value with
  | str value =>
      simp only [redactAttribute, Json.str.injEq, forall_eq', ← redactStringValue_isOk_iff]
      cases redactStringValue value (some key) <;> rfl
  | _ => exact iff_of_true rfl (by simp)

theorem enforceBounded_isOk_iff {repr : String → String} {what : String} {entry : String × Json}
    (hscalar : isScalar entry.2) :
    (enforceBounded repr what entry.1 entry.2).isOk ↔
      ∀ value, entry.2 = .str value → value.length ≤ maxScalarStringLength := by
  obtain ⟨key, value⟩ := entry
  have hbound : (enforceBounded repr what key value).isOk ↔ withinBound value := by
    rw [enforceBounded, hscalar]
    show (require (withinBound value) _).isOk ↔ _
    cases withinBound value with
    | true => exact iff_of_true rfl rfl
    | false => exact iff_of_false Bool.false_ne_true Bool.false_ne_true
  rw [hbound]
  cases value with
  | str value => simp [withinBound]
  | _ => exact iff_of_true rfl (by simp)

/-- What follows the filter. -/
theorem written_isOk_iff {repr : String → String} {dumps : Json → Option String}
    {envelope : LogEnvelope} (hdumps : ∀ value, ∃ text, dumps value = some text)
    (hscalars : ∀ entry ∈ envelope.attributes, isScalar entry.2)
    (hmessage : isEntirelySecret envelope.message none = false) :
    Except.isOk (do
      validateBoundedAttributes repr envelope.attributes
      let redacted ← redactLogEnvelope envelope
      writeLine dumps redacted) ↔
        ∀ key value, (key, Json.str value) ∈ envelope.attributes → Loggable key value := by
  have hbounded : (validateBoundedAttributes repr envelope.attributes).isOk ↔
      ∀ key value, (key, Json.str value) ∈ envelope.attributes →
        value.length ≤ maxScalarStringLength := by
    rw [validateBoundedAttributes, forM_isOk_iff]
    refine ⟨fun h key value hmem => (enforceBounded_isOk_iff rfl).mp (h _ hmem) value rfl,
      fun h entry hmem => (enforceBounded_isOk_iff (hscalars entry hmem)).mpr fun value hvalue => ?_⟩
    exact h entry.1 value (hvalue ▸ hmem)
  have hredact : (redactLogEnvelope envelope).isOk ↔
      ∀ key value, (key, Json.str value) ∈ envelope.attributes →
        isEntirelySecret value (some key) = false := by
    obtain ⟨message, h⟩ := except_isOk_iff.mp (redactStringValue_isOk_iff.mpr hmessage)
    have hmap : (redactLogEnvelope envelope).isOk ↔ (redactAttributeMap envelope.attributes).isOk := by
      rw [redactLogEnvelope, h, except_ok_bind]
      cases redactAttributeMap envelope.attributes <;> rfl
    rw [hmap, redactAttributeMap, mapM_isOk_iff]
    refine ⟨fun h key value hmem => redactAttribute_isOk_iff.mp (h _ hmem) value rfl,
      fun h entry hmem => redactAttribute_isOk_iff.mpr fun value hvalue => ?_⟩
    exact h entry.1 value (hvalue ▸ hmem)
  have hboth : (∀ key value, (key, Json.str value) ∈ envelope.attributes → Loggable key value) ↔
      (validateBoundedAttributes repr envelope.attributes).isOk ∧ (redactLogEnvelope envelope).isOk := by
    rw [hbounded, hredact]
    exact ⟨fun h => ⟨fun key value hmem => (h key value hmem).1, fun key value hmem => (h key value hmem).2⟩,
      fun h key value hmem => ⟨h.1 key value hmem, h.2 key value hmem⟩⟩
  rw [hboth]
  cases validateBoundedAttributes repr envelope.attributes with
  | error e => exact iff_of_false Bool.false_ne_true fun h => Bool.false_ne_true h.1
  | ok u =>
      rw [except_ok_bind]
      cases redactLogEnvelope envelope with
      | error e => exact iff_of_false Bool.false_ne_true fun h => Bool.false_ne_true h.2
      | ok redacted =>
          obtain ⟨text, htext⟩ := hdumps (.obj (envelopeToJsonDict redacted))
          rw [except_ok_bind, writeLine, htext]
          exact iff_of_true rfl ⟨rfl, rfl⟩

/-- **When a call raises.** -/
theorem LoggerImpl.emit_isOk_iff (logger : LoggerImpl) {envelope : LogEnvelope}
    (hclass : classifyEvent envelope.event = .general) (hlevel : envelope.level ≠ .error)
    (hkeys : ∀ entry ∈ envelope.attributes, entry.1 ∉ forbiddenLogFields)
    (hscalars : ∀ entry ∈ envelope.attributes, isScalar entry.2)
    (hmessage : isEntirelySecret envelope.message none = false) :
    (logger.emit envelope).isOk ↔
      (passesLogLevelFilter envelope logger.logLevel →
        ∀ key value, (key, Json.str value) ∈ envelope.attributes → Loggable key value) := by
  have hforbidden : checkForbiddenLogFields logger.repr envelope.attributes = .ok () := by
    refine require_ok_iff.mpr (List.isEmpty_iff.mpr ?_)
    have hnone : (envelope.attributes.map Prod.fst).filter (· ∈ forbiddenLogFields) = [] := by
      rw [List.filter_eq_nil_iff, List.forall_mem_map]
      exact fun entry hentry h => hkeys entry hentry (of_decide_eq_true h)
    rw [hnone]
    exact (sortBy_perm id []).eq_nil
  have herror : validateErrorEnvelopeFields
      (mergeCorrelationFields envelope logger.correlation logger.trace) = .ok () :=
    require_ok_iff.mpr (by simpa [mergeCorrelationFields] using Or.inl hlevel)
  have hvalid : runLogValidationPipeline logger.repr envelope logger.correlation logger.trace
      logger.logLevel = _ := runLogValidationPipeline_general logger.repr hforbidden hclass herror
  rw [LoggerImpl.emit, Observability.emit, hvalid, except_ok_bind]
  by_cases hpasses : passesLogLevelFilter envelope logger.logLevel
  case neg =>
    rw [if_neg hpasses]
    exact iff_of_true rfl fun h => absurd h hpasses
  case pos =>
    -- the correlation changes neither the message nor the attributes
    have hmerged : isEntirelySecret
        (mergeCorrelationFields envelope logger.correlation logger.trace).message none = false := hmessage
    rw [if_pos hpasses, imp_iff_right hpasses]
    exact written_isOk_iff (fun value => ⟨_, rfl⟩) hscalars hmerged

end Observability

end CartoonDemo
