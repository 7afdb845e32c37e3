import CartoonDemo.Library.Json
import CartoonDemo.Library.Loops
import CartoonDemo.Library.PyDatetime
import CartoonDemo.Library.SortBy
import CartoonDemo.Observability.Growth
import Mathlib.Data.String.Basic

/-!
# CartoonDemo.Observability.Logger

The **emission of log lines** (`observability/validation.py`, `observability/logger_impl.py`), and the
validation of the attributes of a trace (`observability/tracer_impl.py`). The tracer redacts the
attributes and then looks at their lengths, so none that it lets through is too long
(`validateTraceAttributeMap_bounded`). The logger looks at the lengths first; its lines are bounded
where every text leaves room for the placeholders (`emit_bounded`), and there are texts of every
length that need all of it (`crowded_bounded_iff`).

`repr` stands for Python's `repr` of a string and `dumps` for `json.dumps`.
-/

namespace CartoonDemo

namespace Observability

/-- `MAX_SCALAR_STRING_LENGTH`. -/
def maxScalarStringLength : ℕ := 1024

inductive LogLevel
  | debug | info | warning | error
  deriving DecidableEq, Repr

def LogLevel.value : LogLevel → String
  | debug => "DEBUG"
  | info => "INFO"
  | warning => "WARNING"
  | error => "ERROR"

/-- `_LOG_LEVEL_ORDER`. -/
def LogLevel.order : LogLevel → ℕ
  | debug => 10
  | info => 20
  | warning => 30
  | error => 40

/-- A dict of attributes. -/
abbrev Attributes := List (String × Json)

structure LogEnvelope where
  event : String
  level : LogLevel
  timestamp : PyDatetime
  message : String
  serviceName : String
  workflowId : Option String := none
  taskId : Option String := none
  taskAttempt : Option ℤ := none
  traceId : Option String := none
  spanId : Option String := none
  errorClass : Option String := none
  retryable : Option Bool := none
  attributes : Attributes := []

/-- `CorrelationContext`. -/
structure CorrelationContext where
  workflowId : Option String
  taskId : Option String
  taskAttempt : Option ℤ

structure TraceContext where
  traceId : String
  spanId : String

/-! ### Validation of an envelope

The checks in the order of the pipeline.
-/

inductive EventClass
  | workflow | task | retryableLifecycle | general
  deriving DecidableEq, Repr

/-- `WORKFLOW_PREFIXES`, `TASK_PREFIXES` and `RETRYABLE_EVENTS`. -/
def workflowBeginnings : List String := ["workflow_", "state_transition", "human_approval_"]

def taskBeginnings : List String := ["task_", "agent_invocation_", "provider_call_"]

def retryableEvents : List String := ["task_retried", "task_redelivered"]

/-- `any(event.startswith(prefix) for prefix in beginnings)`. -/
def startsWithAny (event : String) (beginnings : List String) : Bool :=
  beginnings.any fun beginning => beginning.toList.isPrefixOf event.toList

/-- `classify_event`. -/
def classifyEvent (event : String) : EventClass :=
  if event ∈ retryableEvents then .retryableLifecycle
  else if startsWithAny event taskBeginnings then .task
  else if startsWithAny event workflowBeginnings then .workflow
  else .general

/-- `merge_correlation_fields`: what the caller has set stays. -/
def mergeCorrelationFields (envelope : LogEnvelope) (correlation : CorrelationContext)
    (trace : Option TraceContext) : LogEnvelope :=
  { envelope with
    workflowId := envelope.workflowId <|> correlation.workflowId
    taskId := envelope.taskId <|> correlation.taskId
    taskAttempt := envelope.taskAttempt <|> correlation.taskAttempt
    traceId := envelope.traceId <|> trace.map TraceContext.traceId
    spanId := envelope.spanId <|> trace.map TraceContext.spanId }

section Emission

variable (repr : String → String) (dumps : Json → Option String)

/-- `if not condition: raise InvalidLogEnvelopeError(message)`. -/
def require (condition : Bool) (message : String) : Except TelemetryError Unit :=
  if condition then .ok () else .error (.invalidLogEnvelope message)

/-- The keys that are forbidden, sorted; there must be none. -/
def checkForbidden (what : String) (forbidden : List String) (attributes : Attributes) :
    Except TelemetryError Unit :=
  let keys := sortBy id ((attributes.map Prod.fst).filter (· ∈ forbidden))
  require keys.isEmpty ("Forbidden " ++ what ++ " attribute keys: [" ++
    ", ".intercalate (keys.map repr) ++ "]")

/-- `check_forbidden_log_fields`. -/
def checkForbiddenLogFields : Attributes → Except TelemetryError Unit :=
  checkForbidden repr "log" forbiddenLogFields

/-- `check_forbidden_trace_keys`. -/
def checkForbiddenTraceKeys : Attributes → Except TelemetryError Unit :=
  checkForbidden repr "trace" forbiddenTraceAttributeKeys

/-- `validate_event_class_requirements`. -/
def validateEventClassRequirements (envelope : LogEnvelope) : Except TelemetryError Unit := do
  let requires (field : String) : String := "Event " ++ repr envelope.event ++ " requires " ++ field
  match classifyEvent envelope.event with
  | .workflow => require envelope.workflowId.isSome (requires "workflow_id")
  | .task =>
      require envelope.workflowId.isSome (requires "workflow_id")
      require envelope.taskId.isSome (requires "task_id")
  | .retryableLifecycle =>
      require envelope.workflowId.isSome (requires "workflow_id")
      require envelope.taskId.isSome (requires "task_id")
      require (envelope.taskAttempt.any (1 ≤ ·)) (requires "task_attempt >= 1")
  | .general => return ()

/-- `validate_error_envelope_fields`. -/
def validateErrorEnvelopeFields (envelope : LogEnvelope) : Except TelemetryError Unit :=
  require (envelope.level ≠ .error || (envelope.errorClass.isSome && envelope.retryable.isSome))
    "ERROR level logs require error_class and retryable"

/-- `passes_log_level_filter`. -/
def passesLogLevelFilter (envelope : LogEnvelope) (minLevel : LogLevel) : Bool :=
  minLevel.order ≤ envelope.level.order

/-- `run_log_validation_pipeline`. -/
def runLogValidationPipeline (envelope : LogEnvelope) (correlation : CorrelationContext)
    (trace : Option TraceContext) (minLevel : LogLevel) :
    Except TelemetryError (Option LogEnvelope) := do
  let merged := mergeCorrelationFields envelope correlation trace
  checkForbiddenLogFields repr merged.attributes
  validateEventClassRequirements repr merged
  validateErrorEnvelopeFields merged
  return if passesLogLevelFilter merged minLevel then some merged else none

/-! ### Bounds -/

/-- A `str`, an `int`, a `float` or a `bool`. -/
def isScalar : Json → Bool
  | .str _ | .int _ | .float _ | .bool _ => true
  | _ => false

/-- A string is not too long. -/
def withinBound : Json → Bool
  | .str s => s.length ≤ maxScalarStringLength
  | _ => true

/-- What the check of one attribute raises; the tracer and the logger name it differently. -/
def enforceBounded (what key : String) (value : Json) : Except TelemetryError Unit := do
  require (isScalar value)
    (what ++ " " ++ repr key ++ " must be a scalar (str, int, float, bool)")
  require (withinBound value)
    (what ++ " " ++ repr key ++ " exceeds maximum string length of " ++
      toString maxScalarStringLength)

/-- `validate_bounded_attributes`. -/
def validateBoundedAttributes (attributes : Attributes) : Except TelemetryError Unit :=
  attributes.forM fun entry => enforceBounded repr "Attribute" entry.1 entry.2

/-- `enforce_bounded_trace_scalar`. -/
def enforceBoundedTraceScalar (key : String) (value : Json) : Except TelemetryError Json := do
  enforceBounded repr "Trace attribute" key value
  return value

/-- The redaction of one attribute. -/
def redactAttribute (entry : String × Json) : Except TelemetryError (String × Json) :=
  match entry.2 with
  | .str s => (redactStringValue s (some entry.1)).map fun redacted => (entry.1, .str redacted)
  | value => .ok (entry.1, value)

/-- `redact_attribute_map`. -/
def redactAttributeMap (attributes : Attributes) : Except TelemetryError Attributes :=
  attributes.mapM redactAttribute

/-- `redact_log_envelope`; an envelope that nothing changes is returned as it is. -/
def redactLogEnvelope (envelope : LogEnvelope) : Except TelemetryError LogEnvelope := do
  let message ← redactStringValue envelope.message none
  let attributes ← redactAttributeMap envelope.attributes
  return { envelope with message, attributes }

/-! ### Lines -/

/-- The entries of a dict whose value is not `None`. -/
def present (entries : List (String × Option Json)) : List (String × Json) :=
  entries.filterMap fun entry => entry.2.map fun value => (entry.1, value)

/-- The fields of an envelope, as JSON has them. -/
def envelopeFields (envelope : LogEnvelope) : List (String × Option Json) :=
  [("event", some (.str envelope.event)),
   ("level", some (.str envelope.level.value)),
   ("timestamp", some (.str (String.ofList envelope.timestamp.isoformat))),
   ("message", some (.str envelope.message)),
   ("service_name", some (.str envelope.serviceName)),
   ("workflow_id", envelope.workflowId.map .str),
   ("task_id", envelope.taskId.map .str),
   ("task_attempt", envelope.taskAttempt.map .int),
   ("trace_id", envelope.traceId.map .str),
   ("span_id", envelope.spanId.map .str),
   ("error_class", envelope.errorClass.map .str),
   ("retryable", envelope.retryable.map .bool),
   ("attributes", if envelope.attributes = [] then none else some (.obj envelope.attributes))]

/-- `envelope_to_json_dict`. -/
def envelopeToJsonDict (envelope : LogEnvelope) : List (String × Json) :=
  present (envelopeFields envelope)

/-- A line, with the object that it is the text of. -/
structure LogLine where
  payload : List (String × Json)
  text : String

/-- The attributes in a line. -/
def LogLine.attributes (line : LogLine) : Attributes :=
  match line.payload.lookup "attributes" with
  | some (.obj attributes) => attributes
  | _ => []

/-- The line of an envelope. -/
def writeLine (envelope : LogEnvelope) : Except TelemetryError (Option LogLine) :=
  let payload := envelopeToJsonDict envelope
  match dumps (.obj payload) with
  | some text => .ok (some ⟨payload, text ++ "\n"⟩)
  | none => .error (.py "ValueError")

/-- `LoggerImpl.emit`; `none` where nothing is written. -/
def emit (minLevel : LogLevel) (correlation : CorrelationContext) (trace : Option TraceContext)
    (envelope : LogEnvelope) : Except TelemetryError (Option LogLine) := do
  match ← runLogValidationPipeline repr envelope correlation trace minLevel with
  | none => return none
  | some merged =>
      validateBoundedAttributes repr merged.attributes
      let redacted ← redactLogEnvelope merged
      writeLine dumps redacted

/-- `_validate_trace_attribute_map`. -/
def validateTraceAttributeMap (attributes : Attributes) : Except TelemetryError Attributes := do
  checkForbiddenTraceKeys repr attributes
  let redacted ← redactAttributeMap attributes
  redacted.mapM fun entry => do
    let value ← enforceBoundedTraceScalar repr entry.1 entry.2
    return (entry.1, value)

/-! ### What the checks establish

What is known of an envelope that has passed.
-/

theorem require_ok_iff {condition : Bool} {message : String} :
    require condition message = .ok () ↔ condition := by
  cases condition <;> simp [require]

theorem checkForbidden_ok {what : String} {forbidden : List String} {attributes : Attributes}
    (h : checkForbidden repr what forbidden attributes = .ok ()) {entry : String × Json}
    (hentry : entry ∈ attributes) : entry.1 ∉ forbidden := by
  intro hforbidden
  have hnil : sortBy id ((attributes.map Prod.fst).filter (· ∈ forbidden)) = [] :=
    List.isEmpty_iff.mp (require_ok_iff.mp h)
  have hmem : entry.1 ∈ (attributes.map Prod.fst).filter (· ∈ forbidden) :=
    List.mem_filter.mpr ⟨List.mem_map_of_mem hentry, decide_eq_true hforbidden⟩
  rw [← (sortBy_perm id _).mem_iff, hnil] at hmem
  cases hmem

theorem enforceBounded_ok {what key : String} {value : Json}
    (h : enforceBounded repr what key value = .ok ()) : withinBound value := by
  obtain ⟨_, -, hbound⟩ := except_bind_ok h
  exact require_ok_iff.mp hbound

/-- The redaction of an attribute keeps the key, and what is no string. -/
theorem redactAttribute_ok {entry redacted : String × Json} (h : redactAttribute entry = .ok redacted) :
    redacted.1 = entry.1 ∧
      ((∃ s, entry.2 = .str s ∧ redacted.2 = .str (applyStringScrubbers s (some entry.1))) ∨
        redacted.2 = entry.2 ∧ ∀ s, entry.2 ≠ .str s) := by
  obtain ⟨key, value⟩ := entry
  rw [redactAttribute] at h
  split at h
  · next s hs =>
      rw [redactStringValue] at h
      split at h
      · cases h
      · obtain rfl := Except.ok.inj h
        exact ⟨rfl, Or.inl ⟨s, hs, rfl⟩⟩
  · next hstr =>
      obtain rfl := Except.ok.inj h
      exact ⟨rfl, Or.inr ⟨rfl, hstr⟩⟩

/-! ### Traces -/

/-- Every string among the attributes is short, and no key of a log line is forbidden. -/
def Bounded (attributes : Attributes) : Prop :=
  (∀ key s, (key, Json.str s) ∈ attributes → s.length ≤ maxScalarStringLength) ∧
    ∀ entry ∈ attributes, entry.1 ∉ forbiddenLogFields

/-- **The tracer lets bounded attributes through.** -/
theorem validateTraceAttributeMap_bounded {attributes validated : Attributes}
    (h : validateTraceAttributeMap repr attributes = .ok validated) : Bounded validated := by
  obtain ⟨_, hforbidden, h⟩ := except_bind_ok h
  obtain ⟨redacted, hredacted, hvalidated⟩ := except_bind_ok h
  -- every validated attribute was redacted and found short
  have hpassed : ∀ entry ∈ validated, entry ∈ redacted ∧ withinBound entry.2 := by
    intro entry hentry
    obtain ⟨⟨key, value⟩, hmem, hpass⟩ := mem_of_mapM_ok hvalidated hentry
    obtain ⟨value', hvalue, hpass⟩ := except_bind_ok hpass
    obtain ⟨_, hbound, hsame⟩ := except_bind_ok hvalue
    obtain rfl := Except.ok.inj hsame
    obtain rfl := Except.ok.inj hpass
    exact ⟨hmem, enforceBounded_ok repr hbound⟩
  refine ⟨fun key s hs => of_decide_eq_true (hpassed _ hs).2, fun entry hentry hlog => ?_⟩
  obtain ⟨original, hmem, hredact⟩ := mem_of_mapM_ok hredacted (hpassed entry hentry).1
  refine checkForbidden_ok repr hforbidden hmem (List.mem_append_left _ ?_)
  rwa [← (redactAttribute_ok hredact).1]

/-! ### Log lines -/

theorem lookup_present {entries : List (String × Option Json)} (h : (entries.map Prod.fst).Nodup)
    (key : String) : (present entries).lookup key = (entries.lookup key).join := by
  induction entries with
  | nil => rfl
  | cons entry entries ih =>
      obtain ⟨key', value⟩ := entry
      obtain ⟨hfresh, hnodup⟩ := List.nodup_cons.mp h
      have hrest := ih hnodup
      have habsent : entries.lookup key' = none := by
        rw [List.lookup_eq_none_iff]
        intro other hother
        have hmem : other.1 ∈ entries.map Prod.fst := List.mem_map_of_mem hother
        simpa using fun heq : key' = other.1 => hfresh (heq ▸ hmem)
      rw [List.lookup_cons]
      by_cases hkey : key = key'
      · subst hkey
        rw [habsent] at hrest
        cases value with
        | none => simpa [present] using hrest
        | some value => simp [present]
      · have hne : (key == key') = false := beq_false_of_ne hkey
        rw [hne]
        cases value with
        | none => exact hrest
        | some value =>
            show List.lookup key ((key', value) :: present entries) = _
            rw [List.lookup_cons, hne]
            exact hrest

/-- The attributes of a line are those of the envelope. -/
theorem attributes_payload (envelope : LogEnvelope) (text : String) :
    (LogLine.mk (envelopeToJsonDict envelope) text).attributes = envelope.attributes := by
  have hkeys : ((envelopeFields envelope).map Prod.fst).Nodup :=
    show (["event", "level", "timestamp", "message", "service_name", "workflow_id", "task_id",
      "task_attempt", "trace_id", "span_id", "error_class", "retryable", "attributes"] :
        List String).Nodup from by decide
  have hlookup : (envelopeToJsonDict envelope).lookup "attributes" =
      if envelope.attributes = [] then none else some (.obj envelope.attributes) :=
    lookup_present hkeys "attributes"
  rw [LogLine.attributes, hlookup]
  by_cases hempty : envelope.attributes = []
  · rw [if_pos hempty, hempty]
  · rw [if_neg hempty]

/-- What is written are the redacted attributes, which have passed the checks before. -/
theorem emit_attributes {minLevel : LogLevel} {correlation : CorrelationContext}
    {trace : Option TraceContext} {envelope : LogEnvelope} {line : LogLine}
    (h : emit repr dumps minLevel correlation trace envelope = .ok (some line)) :
    checkForbiddenLogFields repr envelope.attributes = .ok () ∧
      (∀ key s, (key, Json.str s) ∈ envelope.attributes → s.length ≤ maxScalarStringLength) ∧
      redactAttributeMap envelope.attributes = .ok line.attributes := by
  obtain ⟨result, hvalid, h⟩ := except_bind_ok h
  obtain ⟨_, hforbidden, hvalid⟩ := except_bind_ok hvalid
  obtain ⟨_, -, hvalid⟩ := except_bind_ok hvalid
  obtain ⟨_, -, hvalid⟩ := except_bind_ok hvalid
  obtain rfl := Except.ok.inj hvalid
  refine ⟨hforbidden, ?_⟩
  by_cases hlevel : passesLogLevelFilter (mergeCorrelationFields envelope correlation trace) minLevel
  · rw [if_pos hlevel] at h
    obtain ⟨_, hbounded, h⟩ := except_bind_ok h
    have hshort : ∀ key s, (key, Json.str s) ∈ envelope.attributes →
        s.length ≤ maxScalarStringLength := by
      intro key s hs
      exact of_decide_eq_true (enforceBounded_ok repr (forM_ok_iff.mp hbounded _ hs))
    obtain ⟨redacted, hredacted, h⟩ := except_bind_ok h
    obtain ⟨message, -, hredacted⟩ := except_bind_ok hredacted
    obtain ⟨attributes, hattributes, hredacted⟩ := except_bind_ok hredacted
    obtain rfl := Except.ok.inj hredacted
    rw [writeLine] at h
    split at h
    · obtain rfl := Option.some.inj (Except.ok.inj h)
      rw [attributes_payload]
      exact ⟨hshort, hattributes⟩
    · cases h
  · rw [if_neg hlevel] at h
    cases h

theorem redactAttributeMap_str {key s redacted : String}
    (h : redactStringValue s (some key) = .ok redacted) :
    redactAttributeMap [(key, .str s)] = .ok [(key, .str redacted)] := by
  have hentry : redactAttribute (key, .str s) = .ok (key, .str redacted) := by
    rw [redactAttribute]
    dsimp only
    rw [h]
    rfl
  rw [redactAttributeMap, List.mapM_cons, hentry]
  rfl

theorem enforceBounded_of_str {s : String} (what key : String)
    (h : s.length ≤ maxScalarStringLength) : enforceBounded repr what key (.str s) = .ok () := by
  have hbound : withinBound (.str s) = true := decide_eq_true h
  rw [enforceBounded, hbound]
  rfl

theorem redactAttributeMap_secret {key s : String} (h : isEntirelySecret s (some key)) :
    redactAttributeMap [(key, .str s)] =
      .error (.redactionRequired "Unredactable secret in telemetry value") := by
  have hvalue : redactStringValue s (some key) = _ := if_pos h
  have hentry : redactAttribute (key, .str s) =
      .error (.redactionRequired "Unredactable secret in telemetry value") := by
    rw [redactAttribute]
    dsimp only
    rw [hvalue]
    rfl
  rw [redactAttributeMap, List.mapM_cons, hentry]
  rfl

theorem checkForbiddenTraceKeys_single {key : String} (value : Json)
    (h : key ∉ forbiddenTraceAttributeKeys) : checkForbiddenTraceKeys repr [(key, value)] = .ok () :=
  require_ok_iff.mpr (by simp [h, sortBy])

/-- A trace takes an attribute that is no secret as a whole and stays short. -/
theorem validateTraceAttributeMap_str {key s : String} (hkey : key ∉ forbiddenTraceAttributeKeys)
    (hsecret : isEntirelySecret s (some key) = false)
    (hlength : (applyStringScrubbers s (some key)).length ≤ maxScalarStringLength) :
    validateTraceAttributeMap repr [(key, .str s)] =
      .ok [(key, .str (applyStringScrubbers s (some key)))] := by
  have hredact : redactStringValue s (some key) = .ok (applyStringScrubbers s (some key)) := by
    rw [redactStringValue, hsecret]
    rfl
  generalize applyStringScrubbers s (some key) = redacted at hredact hlength ⊢
  have hentry : enforceBoundedTraceScalar repr key (.str redacted) = .ok (.str redacted) := by
    rw [enforceBoundedTraceScalar, enforceBounded_of_str repr _ _ hlength]
    rfl
  rw [validateTraceAttributeMap, checkForbiddenTraceKeys_single repr _ hkey,
    redactAttributeMap_str hredact, except_ok_bind, except_ok_bind, List.mapM_cons, hentry]
  rfl

theorem redactLogEnvelope_ok {envelope : LogEnvelope} {message : String} {attributes : Attributes}
    (hmessage : redactStringValue envelope.message none = .ok message)
    (hattributes : redactAttributeMap envelope.attributes = .ok attributes) :
    redactLogEnvelope envelope = .ok { envelope with message, attributes } := by
  rw [redactLogEnvelope, hmessage]
  show (redactAttributeMap envelope.attributes >>= _) = _
  rw [hattributes]
  rfl

theorem validateBoundedAttributes_str {key s : String} (h : s.length ≤ maxScalarStringLength) :
    validateBoundedAttributes repr [(key, .str s)] = .ok () := by
  refine forM_ok_iff.mpr fun entry hentry => ?_
  rw [List.mem_singleton.mp hentry]
  exact enforceBounded_of_str repr _ _ h

/-- An event of no class needs no correlation. -/
theorem runLogValidationPipeline_general {minLevel : LogLevel} {correlation : CorrelationContext}
    {trace : Option TraceContext} {envelope : LogEnvelope}
    (hforbidden : checkForbiddenLogFields repr envelope.attributes = .ok ())
    (hclass : classifyEvent envelope.event = .general)
    (herror : validateErrorEnvelopeFields (mergeCorrelationFields envelope correlation trace) = .ok ()) :
    runLogValidationPipeline repr envelope correlation trace minLevel =
      .ok (if passesLogLevelFilter envelope minLevel then
        some (mergeCorrelationFields envelope correlation trace) else none) := by
  have hmerged : classifyEvent (mergeCorrelationFields envelope correlation trace).event = .general :=
    hclass
  have hevent : validateEventClassRequirements repr
      (mergeCorrelationFields envelope correlation trace) = .ok () := by
    simp only [validateEventClassRequirements, hmerged]
    rfl
  have hpasses : passesLogLevelFilter (mergeCorrelationFields envelope correlation trace) minLevel =
      passesLogLevelFilter envelope minLevel := rfl
  have hattributes : checkForbiddenLogFields repr
      (mergeCorrelationFields envelope correlation trace).attributes = .ok () := hforbidden
  simp only [runLogValidationPipeline, hattributes, hevent, herror, hpasses, except_ok_bind]
  rfl

/-- An envelope that passes every check is written. -/
theorem emit_ok {minLevel : LogLevel} {correlation : CorrelationContext} {trace : Option TraceContext}
    {envelope merged redacted : LogEnvelope} {text : String}
    (hvalid : runLogValidationPipeline repr envelope correlation trace minLevel = .ok (some merged))
    (hbounded : validateBoundedAttributes repr merged.attributes = .ok ())
    (hredact : redactLogEnvelope merged = .ok redacted)
    (hdumps : dumps (.obj (envelopeToJsonDict redacted)) = some text) :
    emit repr dumps minLevel correlation trace envelope =
      .ok (some ⟨envelopeToJsonDict redacted, text ++ "\n"⟩) := by
  rw [emit, hvalid]
  show (validateBoundedAttributes repr merged.attributes >>= fun _ =>
    redactLogEnvelope merged >>= _) = _
  rw [hbounded, hredact]
  show writeLine dumps redacted = _
  rw [writeLine, hdumps]

/-- No secret is found in the text, or it is short enough for what the words in it with which
secrets begin allow. -/
def LeavesRoom (key value : String) : Prop :=
  secretSpan value.toList (some key) = none ∨
    value.length + growth value.toList ≤ maxScalarStringLength

/-- **A line is bounded** when every attribute leaves room. -/
theorem emit_bounded {minLevel : LogLevel} {correlation : CorrelationContext}
    {trace : Option TraceContext} {envelope : LogEnvelope} {line : LogLine}
    (h : emit repr dumps minLevel correlation trace envelope = .ok (some line))
    (hroom : ∀ key value, (key, Json.str value) ∈ envelope.attributes → LeavesRoom key value) :
    Bounded line.attributes := by
  obtain ⟨hforbidden, hshort, hredacted⟩ := emit_attributes repr dumps h
  refine ⟨fun key s hs => ?_, fun redacted hmem hlog => ?_⟩
  · obtain ⟨⟨key', value⟩, hmem, hredact⟩ := mem_of_mapM_ok hredacted hs
    obtain ⟨hkey, ⟨s', hs', hvalue⟩ | ⟨hvalue, hne⟩⟩ := redactAttribute_ok hredact
    · dsimp only at hkey hs' hvalue
      subst hkey hs'
      obtain rfl := Json.str.inj hvalue
      rcases hroom key s' hmem with hnone | hfits
      · -- nothing is replaced, and the text has been found short
        rw [applyStringScrubbers_of_none hnone]
        exact hshort key s' hmem
      · exact le_trans (length_applyStringScrubbers_le s' (some key)) hfits
    · exact absurd hvalue.symm (hne s)
  · obtain ⟨entry, hentry, hredact⟩ := mem_of_mapM_ok hredacted hmem
    refine checkForbidden_ok repr hforbidden hentry ?_
    rwa [← (redactAttribute_ok hredact).1]

/-! ### Texts that need the room

Of every length there is a text that needs all of the room that `LeavesRoom` asks for. -/

def padding (n : ℕ) : List Char := List.replicate n 'x'

/-- Some characters, and a short secret behind them. -/
def crowdedValue (n : ℕ) : String := String.ofList (padding n ++ " token:abcd".toList)

theorem toList_crowdedValue (n : ℕ) : (crowdedValue n).toList = padding n ++ " token:abcd".toList :=
  String.toList_ofList

theorem length_padding (n : ℕ) (s : List Char) :
    (String.ofList (padding n ++ s)).length = n + s.length := by
  rw [String.length_ofList, List.length_append, padding, List.length_replicate]

theorem length_crowdedValue (n : ℕ) : (crowdedValue n).length = n + 11 := length_padding n _

theorem scrubbersFor_note :
    scrubbersFor (some "note") = stringScrubbers ++ assignmentScrubbers := by
  have hplain : isCredentialLikeKey "note" = false := by decide +kernel
  rw [scrubbersFor, Option.any_some, hplain]
  rfl

/-- No secret begins with the padding. -/
theorem first_padding : ∀ scrubber ∈ stringScrubbers ++ assignmentScrubbers,
    scrubber.pattern.first 'x' = false ∧ scrubber.pattern.nullable = false := by
  simp only [stringScrubbers, assignmentScrubbers, List.cons_append, List.nil_append,
    List.forall_mem_cons]
  decide +kernel

/-- What is put for a secret depends on the secret alone. -/
theorem repl_alike {scrubber : Scrubber} (hmem : scrubber ∈ stringScrubbers ++ assignmentScrubbers)
    {c d m e : Regex.Cursor} (h : Regex.Alike c d) (hm : Regex.Alike m e) :
    scrubber.repl c m = scrubber.repl d e := by
  have hassignment : replAssignment c m = replAssignment d e := by
    rw [replAssignment, replAssignment, h.upTo hm, hm.captured]
  have hall : ∀ scrubber ∈ stringScrubbers ++ assignmentScrubbers,
      scrubber.repl c m = scrubber.repl d e := by
    simp only [stringScrubbers, assignmentScrubbers, List.cons_append, List.nil_append,
      List.forall_mem_cons]
    exact ⟨rfl, rfl, rfl, rfl, hassignment, rfl, hassignment, by simp⟩
  exact hall scrubber hmem

theorem scrub_crowded {scrubber : Scrubber} (hmem : scrubber ∈ stringScrubbers ++ assignmentScrubbers)
    {w : List Char}
    (h : (Regex.piecesFrom scrubber.pattern ⟨['x'], " token:abcd".toList, []⟩).flatMap
      (Regex.Piece.replace scrubber.repl) = w) (n : ℕ) :
    scrubber.scrub (padding (n + 1) ++ " token:abcd".toList) = padding (n + 1) ++ w := by
  refine scrub_keep (fun x hx => ?_) ?_
  · rw [List.eq_of_mem_replicate hx]
    exact (first_padding scrubber hmem).1
  · -- of the padding, only the last character matters
    rw [← h]
    exact Regex.replaced_alike (repl_alike hmem)
      ⟨rfl, rfl, by rw [padding, List.reverse_replicate]; rfl⟩

/-- The placeholder is longer than the secret. -/
theorem applyScrubbers_crowded (n : ℕ) :
    applyScrubbers (scrubbersFor (some "note")) (crowdedValue (n + 1)).toList =
      padding (n + 1) ++ " token: [REDACTED]".toList := by
  have hkept : ∀ scrubber ∈ stringScrubbers ++ assignmentScrubbers.take 2,
      (Regex.piecesFrom scrubber.pattern ⟨['x'], " token:abcd".toList, []⟩).flatMap
        (Regex.Piece.replace scrubber.repl) = " token:abcd".toList := by
    simp only [stringScrubbers, assignmentScrubbers, List.take, List.cons_append, List.nil_append,
      List.forall_mem_cons]
    decide +kernel
  have hsame : ∀ scrubber ∈ stringScrubbers ++ assignmentScrubbers.take 2,
      scrubber.scrub (padding (n + 1) ++ " token:abcd".toList) =
        padding (n + 1) ++ " token:abcd".toList := by
    intro scrubber hmem
    refine scrub_crowded (List.mem_append.mpr ?_) (hkept scrubber hmem) n
    exact (List.mem_append.mp hmem).imp id List.mem_of_mem_take
  have hlast : (⟨envStyleSecret, replAssignment⟩ : Scrubber).scrub
      (padding (n + 1) ++ " token:abcd".toList) = padding (n + 1) ++ " token: [REDACTED]".toList :=
    scrub_crowded (by simp [assignmentScrubbers]) (by decide +kernel) n
  have hlist : stringScrubbers ++ assignmentScrubbers =
      (stringScrubbers ++ assignmentScrubbers.take 2) ++ [⟨envStyleSecret, replAssignment⟩] := rfl
  rw [scrubbersFor_note, toList_crowdedValue, hlist, applyScrubbers_append,
    applyScrubbers_eq_self hsame]
  exact hlast

/-- The secret begins with one of the words, and nothing else does. -/
theorem growth_crowded (n : ℕ) : growth (crowdedValue n).toList = 7 := by
  have hfirst : ∀ head ∈ [bearerHead, jwtHead, apiKeyHead, authorizationHead, envStyleHead],
      head.first 'x' = false ∧ head.nullable = false := by
    decide +kernel
  have hplaces : ∀ head ∈ [bearerHead, jwtHead, apiKeyHead, authorizationHead, envStyleHead],
      Regex.places head (crowdedValue n).toList = Regex.places head " token:abcd".toList := by
    intro head hmem
    obtain ⟨hx, hnull⟩ := hfirst head hmem
    rw [toList_crowdedValue]
    refine Regex.places_keep (fun x hx' => ?_) hnull _
    rw [List.eq_of_mem_replicate hx']
    exact hx
  have hsecret : growth " token:abcd".toList = 7 := by decide +kernel
  rw [← hsecret, growth, growth, hplaces, hplaces, hplaces, hplaces, hplaces] <;> simp

theorem leavesRoom_crowded_iff (n : ℕ) :
    LeavesRoom "note" (crowdedValue (n + 1)) ↔ n + 19 ≤ maxScalarStringLength := by
  rw [LeavesRoom, growth_crowded, length_crowdedValue]
  refine or_iff_right fun hnone => ?_
  -- the secret is found, for it is replaced
  have hsame := applyStringScrubbers_of_none hnone
  rw [applyStringScrubbers, applyScrubbers_crowded] at hsame
  have hlength := congrArg String.length hsame
  rw [length_padding, length_crowdedValue] at hlength
  have hreplaced : " token: [REDACTED]".toList.length = 18 := rfl
  omega

theorem stripList_crowded (n : ℕ) :
    PyStr.stripList (crowdedValue (n + 1)).toList = (crowdedValue (n + 1)).toList := by
  have hsplit : (crowdedValue (n + 1)).toList =
      ('x' :: (padding n ++ " token:abc".toList)) ++ ['d'] := by
    rw [toList_crowdedValue, padding, List.replicate_succ, List.cons_append, List.cons_append,
      List.append_assoc]
    rfl
  rw [hsplit]
  exact PyStr.stripList_eq_self (by decide) (by decide)

theorem redact_crowded (n : ℕ) : redactStringValue (crowdedValue (n + 1)) (some "note") =
    .ok (String.ofList (padding (n + 1) ++ " token: [REDACTED]".toList)) := by
  have hentire : isEntirelySecret (crowdedValue (n + 1)) (some "note") = false := by
    have hvalue : (crowdedValue (n + 1)).toList = 'x' :: (padding n ++ " token:abcd".toList) := by
      rw [toList_crowdedValue, padding, List.replicate_succ, List.cons_append]
      rfl
    refine isEntirelySecret_eq_false ((stripList_crowded n).trans hvalue) ?_
    rw [scrubbersFor_note]
    exact first_padding
  rw [redactStringValue, hentire, applyStringScrubbers, applyScrubbers_crowded]
  rfl

/-- **A crowded text fits exactly when it leaves room.** -/
theorem crowded_bounded_iff {minLevel : LogLevel} {correlation : CorrelationContext}
    {trace : Option TraceContext} {envelope : LogEnvelope} {line : LogLine} {n : ℕ}
    (hattributes : envelope.attributes = [("note", .str (crowdedValue (n + 1)))])
    (h : emit repr dumps minLevel correlation trace envelope = .ok (some line)) :
    Bounded line.attributes ↔ LeavesRoom "note" (crowdedValue (n + 1)) := by
  obtain ⟨-, -, hredacted⟩ := emit_attributes repr dumps h
  rw [hattributes, redactAttributeMap_str (redact_crowded n)] at hredacted
  have hline := Except.ok.inj hredacted
  refine ⟨fun hbounded => ?_, fun hroom => emit_bounded repr dumps h fun key value hmem => ?_⟩
  · have hlength := hbounded.1 "note" (String.ofList (padding (n + 1) ++ " token: [REDACTED]".toList))
      (by rw [← hline]; exact List.mem_cons_self)
    rw [length_padding] at hlength
    exact (leavesRoom_crowded_iff n).mpr hlength
  · rw [hattributes] at hmem
    obtain ⟨rfl, hvalue⟩ := Prod.mk.inj (List.mem_singleton.mp hmem)
    rw [Json.str.inj hvalue]
    exact hroom

/-- **Emitted attributes are bounded** when each of them leaves room for the placeholders, those of a
trace always; and of every length there is a text that needs all of this room. -/
theorem emitted_attributes_bounded :
    (∀ attributes validated, validateTraceAttributeMap repr attributes = .ok validated →
      Bounded validated) ∧
    ∀ minLevel correlation trace envelope line,
      emit repr dumps minLevel correlation trace envelope = .ok (some line) →
        ((∀ key value, (key, Json.str value) ∈ envelope.attributes → LeavesRoom key value) →
          Bounded line.attributes) ∧
        ∀ n, envelope.attributes = [("note", .str (crowdedValue (n + 1)))] →
          (Bounded line.attributes ↔ LeavesRoom "note" (crowdedValue (n + 1))) :=
  ⟨fun _ _ h => validateTraceAttributeMap_bounded repr h,
    fun _ _ _ _ _ h => ⟨emit_bounded repr dumps h,
      fun _ hattributes => crowded_bounded_iff repr dumps hattributes h⟩⟩

end Emission

/-- A line with one attribute. -/
def noteEnvelope (value : String) : LogEnvelope where
  event := "note"
  level := .info
  timestamp := PyDatetime.ofUtc 0 PyDatetime.wallLimit_pos
  message := ""
  serviceName := "worker"
  attributes := [("note", .str value)]

/-- What is written of an attribute. -/
theorem emit_note {value redacted : String} (hlength : value.length ≤ maxScalarStringLength)
    (hredact : redactStringValue value (some "note") = .ok redacted) :
    ∃ line, emit (fun s => s) (fun _ => some "") .info ⟨none, none, none⟩ none (noteEnvelope value) =
        .ok (some line) ∧
      line.attributes = [("note", .str redacted)] := by
  have hforbidden : checkForbiddenLogFields (fun s => s) (noteEnvelope value).attributes = .ok () :=
    require_ok_iff.mpr (by simp [noteEnvelope, forbiddenLogFields, sortBy])
  have hbounded : validateBoundedAttributes (fun s => s) (noteEnvelope value).attributes = .ok () :=
    validateBoundedAttributes_str _ hlength
  have hmessage : redactStringValue "" none = .ok "" := by decide +kernel
  have hvalid : runLogValidationPipeline (fun s => s) (noteEnvelope value) ⟨none, none, none⟩ none
      .info = .ok (some (mergeCorrelationFields (noteEnvelope value) ⟨none, none, none⟩ none)) := by
    have hclass : classifyEvent "note" = .general := by decide +kernel
    exact runLogValidationPipeline_general (fun s => s) hforbidden hclass rfl
  have hattributes : redactAttributeMap (noteEnvelope value).attributes =
      .ok [("note", .str redacted)] := redactAttributeMap_str hredact
  exact ⟨_, emit_ok (fun s => s) (fun _ => some "") hvalid hbounded
    (redactLogEnvelope_ok hmessage hattributes) rfl, attributes_payload _ _⟩

/-- A password in a message, which is replaced in a trace and in a line. -/
theorem emitted_attributes_bounded_login :
    Bounded [("note", .str "login with token=[REDACTED]")] ∧
      ∃ line, emit (fun s => s) (fun _ => some "") .info ⟨none, none, none⟩ none
          (noteEnvelope "login with token=abcd") = .ok (some line) ∧
        line.attributes = [("note", .str "login with token=[REDACTED]")] ∧
        Bounded line.attributes := by
  have hredact : redactStringValue "login with token=abcd" (some "note") =
      .ok "login with token=[REDACTED]" := by decide +kernel
  have htrace : validateTraceAttributeMap (fun s => s) [("note", .str "login with token=abcd")] =
      .ok [("note", .str "login with token=[REDACTED]")] := by
    have hkept : isEntirelySecret "login with token=abcd" (some "note") = false := by decide +kernel
    have hredacted : applyStringScrubbers "login with token=abcd" (some "note") =
        "login with token=[REDACTED]" := by decide +kernel
    rw [validateTraceAttributeMap_str (fun s => s) (by decide) hkept (by rw [hredacted]; decide),
      hredacted]
  have hroom : LeavesRoom "note" "login with token=abcd" := Or.inr (by decide +kernel)
  obtain ⟨line, hline, hattributes⟩ := emit_note (by decide) hredact
  obtain ⟨htraced, hlogged⟩ := emitted_attributes_bounded (fun s => s) (fun _ => some "")
  refine ⟨htraced _ _ htrace, line, hline, hattributes, (hlogged _ _ _ _ _ hline).1 ?_⟩
  intro key value hmem
  obtain ⟨rfl, hvalue⟩ := Prod.mk.inj (List.mem_singleton.mp hmem)
  rw [Json.str.inj hvalue]
  exact hroom

-- the padding is to be counted and never to be written out
attribute [irreducible] padding crowdedValue

/-- A line may hold an attribute that is too long: 1024 characters, the last of which are a short
secret. -/
theorem crowded_line_not_bounded :
    ∃ line, emit (fun s => s) (fun _ => some "") .info ⟨none, none, none⟩ none
        (noteEnvelope (crowdedValue 1013)) = .ok (some line) ∧
      ¬ Bounded line.attributes := by
  have hlength : (crowdedValue 1013).length ≤ maxScalarStringLength := by
    rw [length_crowdedValue, maxScalarStringLength]
  obtain ⟨line, hline, hattributes⟩ := emit_note hlength (redact_crowded 1012)
  refine ⟨line, hline, fun hbounded => ?_⟩
  rw [hattributes] at hbounded
  have hlong := hbounded.1 "note" _ List.mem_cons_self
  rw [length_padding] at hlong
  exact absurd hlong (by decide)

end Observability

end CartoonDemo
