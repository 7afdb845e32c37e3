import CartoonDemo.Library.PyStr
import CartoonDemo.Library.Transaction
import CartoonDemo.Worker.Guards
import CartoonDemo.Workflow.Engine

/-!
# CartoonDemo.Api.Validation

**Requests and errors of the REST layer** (`api/errors.py`, `api/validation.py`,
`api/constants.py`, `api/types.py`): the exceptions a route can see with the HTTP status and
envelope each is mapped to, and `RequestValidator`.

A route validates twice, once when it binds the body and once in the handler, so what a
validator accepts it has to accept again: `sanitizeString_again` and its consequences.
-/

namespace CartoonDemo

/-! ### Errors

How an exception of a route becomes a status and an envelope.
-/

/-- `ApiError` and its subclasses. -/
inductive ApiErrorClass
  | base | validation | notFound | conflict | internal
  deriving DecidableEq, Repr

/-- The class attribute `error_class`. -/
def ApiErrorClass.errorClass : ApiErrorClass → String
  | .base => "API_ERROR"
  | .validation => "API_VALIDATION"
  | .notFound => "WF_NOT_FOUND"
  | .conflict => "WF_CONFLICT"
  | .internal => "API_INTERNAL"

/-- The class attribute `http_status`. -/
def ApiErrorClass.httpStatus : ApiErrorClass → Nat
  | .base => 500
  | .validation => 400
  | .notFound => 404
  | .conflict => 409
  | .internal => 500

/-- An error that a route answers with. -/
structure ApiError where
  cls : ApiErrorClass
  message : String
  retryable : Option Bool := none
  workflowId : Option String := none
  deriving DecidableEq, Repr

/-- The body of such an answer. -/
structure ApiErrorEnvelope where
  errorClass : String
  message : String
  retryable : Option Bool := none
  workflowId : Option String := none
  deriving DecidableEq, Repr

/-- `to_envelope`. -/
def ApiError.toEnvelope (e : ApiError) : ApiErrorEnvelope :=
  { errorClass := e.cls.errorClass, message := e.message, retryable := e.retryable,
    workflowId := e.workflowId }

/-- The exceptions a route tells apart: `ApiHttpException`, `ApiError`, and those of the
other packages. -/
inductive RouteException
  | http (status : Nat) (envelope : ApiErrorEnvelope)
  | api (e : ApiError)
  | py (e : PyException)
  deriving DecidableEq, Repr

/-- `isinstance(exc, WorkflowError)`. -/
def PyException.isWorkflowError : PyException → Bool
  | .workflowNotFound _ _ | .workflowConflict _ _ | .invalidTransition _ _ _ _
  | .invalidApproval _ _ _ _ | .workflowTerminal _ _ _ => true
  | _ => false

/-- `workflow_error_http_status`. -/
def workflowErrorHttpStatus : PyException → Nat
  | .workflowNotFound _ _ => 404
  | .invalidApproval _ _ _ _ => 409
  | .workflowTerminal _ _ _ => 409
  | .workflowConflict _ _ => 409
  | .invalidTransition _ _ _ _ => 409
  | _ => 500

/-- `map_workflow_error`. -/
def mapWorkflowError : PyException → ApiErrorEnvelope
  | .workflowNotFound m w =>
      ApiError.toEnvelope
        { cls := .notFound, message := m, retryable := some false, workflowId := some w }
  | .workflowConflict m w =>
      ApiError.toEnvelope
        { cls := .conflict, message := m, retryable := some false, workflowId := some w }
  | .invalidApproval m w _ _ =>
      { errorClass := "WF_INVALID_APPROVAL", message := m, retryable := some false,
        workflowId := some w }
  | .invalidTransition m w _ _ =>
      { errorClass := "WF_INVALID_TRANSITION", message := m, retryable := some false,
        workflowId := some w }
  | .workflowTerminal m w _ =>
      { errorClass := "WF_TERMINAL", message := m, retryable := some false,
        workflowId := some w }
  | e => ApiError.toEnvelope { cls := .internal, message := e.str }

/-- `map_unexpected_error`. -/
def mapUnexpectedError (workflowId : Option String) : RouteException :=
  .http 500 (ApiError.toEnvelope
    { cls := .internal, message := "An internal error occurred", workflowId := workflowId })

/-- The `except` clauses around the engine call of both handlers. -/
def engineErrorToHttp (workflowId : Option String) : RouteException → RouteException
  | .py e =>
      if e.isWorkflowError then .http (workflowErrorHttpStatus e) (mapWorkflowError e)
      else mapUnexpectedError workflowId
  | .api e => .http e.cls.httpStatus e.toEnvelope
  | .http _ _ => mapUnexpectedError workflowId

/-- Every exception of the engine call becomes an `ApiHttpException` with an error
status. -/
theorem engineErrorToHttp_http (workflowId : Option String) (e : RouteException) :
    ∃ status envelope, engineErrorToHttp workflowId e = .http status envelope ∧
      400 ≤ status := by
  cases e with
  | http status envelope => exact ⟨500, _, rfl, by decide⟩
  | api e => exact ⟨e.cls.httpStatus, e.toEnvelope, rfl, by cases e.cls <;> decide⟩
  | py e =>
      by_cases hw : e.isWorkflowError
      · refine ⟨workflowErrorHttpStatus e, mapWorkflowError e, ?_, ?_⟩
        · simp [engineErrorToHttp, hw]
        · cases e <;> simp [workflowErrorHttpStatus]
      · exact ⟨500, _, by simp [engineErrorToHttp, hw, mapUnexpectedError]; rfl, by decide⟩

/-! ### Requests -/

/-- A valid request to initiate a workflow. -/
structure InitiateWorkflowApiRequest where
  workflowId : Option String := none
  correlationId : Option String := none
  actor : Option String := none
  deriving DecidableEq, Repr

/-- A valid request to act on an approval. -/
structure SubmitApprovalApiRequest where
  action : ApprovalAction
  actor : Option String := none
  idempotencyKey : Option String := none
  deriving DecidableEq, Repr

/-- A value of the JSON body where the code expects a string or nothing. -/
inductive JsonField
  | null
  | text (s : String)
  /-- Any other JSON value, by the name of its Python class. -/
  | other (className : String)
  deriving DecidableEq, Repr

/-- A body as `_json_body` receives it. -/
inductive RequestBody (α : Type)
  | malformed (message : String)
  | nonObject
  | object (fields : α)
  deriving DecidableEq, Repr

/-- The fields of the body of `POST /workflows` as they arrive. -/
structure InitiateBody where
  workflowId : JsonField := .null
  correlationId : JsonField := .null
  actor : JsonField := .null
  deriving DecidableEq, Repr

/-- The fields of the body of an approval as they arrive. -/
structure ApprovalBody where
  /-- `str(body.get("action", ""))`. -/
  action : String
  actor : JsonField := .null
  idempotencyKey : JsonField := .null
  deriving DecidableEq, Repr

/-! ### Validation -/

namespace RequestValidator

def maxWorkflowIdLen : Nat := 128
def maxCorrelationIdLen : Nat := 128
def maxActorLen : Nat := 256
def maxIdempotencyKeyLen : Nat := 256

/-- A validation error. -/
def invalid (message : String) : RouteException := .api { cls := .validation, message := message }

/-- A printable ASCII character. -/
def printable (c : Char) : Bool := 32 ≤ c.toNat && c.toNat ≤ 126

/-- `WORKFLOW_ID_PATTERN`, of one character. -/
def workflowIdChar (c : Char) : Bool :=
  ('A' ≤ c && c ≤ 'Z') || ('a' ≤ c && c ≤ 'z') || ('0' ≤ c && c ≤ '9') || c = '_' || c = '-'

/-- `_sanitize_string(value, allow_empty=False)` of a given string. -/
def sanitizeText (field : String) (maxLen : Nat) (value : String) :
    Except RouteException String :=
  let stripped := PyStr.strip value
  if stripped = "" then .error (invalid (field ++ " must not be empty"))
  else if maxLen < stripped.length then .error (invalid (field ++ " exceeds maximum length"))
  else if stripped.toList.all printable then .ok stripped
  else .error (invalid (field ++ " contains invalid characters"))

/-- `_sanitize_string(value, allow_empty=False)`. -/
def sanitizeString (field : String) (maxLen : Nat) :
    Option String → Except RouteException (Option String)
  | none => .ok none
  | some value => (sanitizeText field maxLen value).map some

/-- The same of a value from the body: `strip` is the first attribute asked for. -/
def sanitizeField (field : String) (maxLen : Nat) : JsonField → Except RouteException (Option String)
  | .null => .ok none
  | .text value => sanitizeString field maxLen (some value)
  | .other className =>
      .error (.py (.other "AttributeError"
        ("'" ++ className ++ "' object has no attribute 'strip'")))

/-- `validate_workflow_id`. -/
def validateWorkflowId (raw : String) : Except RouteException String := do
  let sanitized ← sanitizeText "workflow_id" maxWorkflowIdLen raw
  if sanitized.toList.all workflowIdChar then return sanitized
  else throw (invalid "workflow_id contains invalid characters")

/-- `validate_workflow_id` where the caller passes `None` through. -/
def validateOptionalId : Option String → Except RouteException (Option String)
  | none => .ok none
  | some raw => (validateWorkflowId raw).map some

/-- `validate_workflow_id` of a value from the body. -/
def validateIdField : JsonField → Except RouteException (Option String)
  | .null => .ok none
  | .text raw => validateOptionalId (some raw)
  | .other className => sanitizeField "workflow_id" maxWorkflowIdLen (.other className)

/-- `validate_initiate_body` as the binding of the route calls it. -/
def validateInitiateFields (body : InitiateBody) :
    Except RouteException InitiateWorkflowApiRequest := do
  let workflowId ← validateIdField body.workflowId
  let correlationId ← sanitizeField "correlation_id" maxCorrelationIdLen body.correlationId
  let actor ← sanitizeField "actor" maxActorLen body.actor
  return { workflowId := workflowId, correlationId := correlationId, actor := actor }

/-- `validate_initiate_body` as the handler calls it. -/
def validateInitiateBody (request : InitiateWorkflowApiRequest) :
    Except RouteException InitiateWorkflowApiRequest := do
  let workflowId ← validateOptionalId request.workflowId
  let correlationId ← sanitizeString "correlation_id" maxCorrelationIdLen request.correlationId
  let actor ← sanitizeString "actor" maxActorLen request.actor
  return { workflowId := workflowId, correlationId := correlationId, actor := actor }

/-- `validate_idempotency_header`. -/
def validateIdempotencyHeader (raw : Option String) : Except RouteException (Option String) :=
  sanitizeString "idempotency_key" maxIdempotencyKeyLen raw

/-- `str.upper` of a character, where the result is ASCII; any other character upper-cases to
a text that no action token contains. -/
def upperChar (c : Char) : List Char :=
  match c.toNat with
  | 0x131 => ['I']
  | 0x17f => ['S']
  | 0xdf => ['S', 'S']
  | 0xfb00 => ['F', 'F']
  | 0xfb01 => ['F', 'I']
  | 0xfb02 => ['F', 'L']
  | 0xfb03 => ['F', 'F', 'I']
  | 0xfb04 => ['F', 'F', 'L']
  | 0xfb05 => ['S', 'T']
  | 0xfb06 => ['S', 'T']
  | _ => [c.toUpper]

/-- `str.upper`. -/
def upper (s : String) : String := String.ofList (s.toList.flatMap upperChar)

/-- `ApprovalAction(action.strip().upper())`. -/
def parseAction (action : String) : Except RouteException ApprovalAction :=
  let token := upper (PyStr.strip action)
  if token = ApprovalAction.approve.value then .ok .approve
  else if token = ApprovalAction.reject.value then .ok .reject
  else if token = ApprovalAction.requestRegeneration.value then .ok .requestRegeneration
  else .error (invalid "action must be a valid ApprovalAction")

/-- `validate_approval_body` as the binding of the route calls it. -/
def validateApprovalFields (body : ApprovalBody) (header : Option String) :
    Except RouteException SubmitApprovalApiRequest := do
  let action ← parseAction body.action
  let actor ← sanitizeField "actor" maxActorLen body.actor
  let bodyKey ← sanitizeField "idempotency_key" maxIdempotencyKeyLen body.idempotencyKey
  let headerKey ← validateIdempotencyHeader header
  return { action := action, actor := actor, idempotencyKey := bodyKey <|> headerKey }

/-- `validate_approval_body` as the handler calls it. -/
def validateApprovalBody (request : SubmitApprovalApiRequest) (header : Option String) :
    Except RouteException SubmitApprovalApiRequest := do
  let action ← parseAction request.action.value
  let actor ← sanitizeString "actor" maxActorLen request.actor
  let bodyKey ← sanitizeString "idempotency_key" maxIdempotencyKeyLen request.idempotencyKey
  let headerKey ← validateIdempotencyHeader header
  return { action := action, actor := actor, idempotencyKey := bodyKey <|> headerKey }

/-! ### Accepted values are accepted again

The validators leave what they have returned as it is, so that a client may send it once more.
-/

theorem sanitizeText_again {field : String} {maxLen : Nat} {raw x : String}
    (h : sanitizeText field maxLen raw = .ok x) : sanitizeText field maxLen x = .ok x := by
  unfold sanitizeText at h
  dsimp only at h
  split at h
  · exact absurd h (by simp)
  · next hempty =>
    split at h
    · exact absurd h (by simp)
    · next hlen =>
      split at h
      · next hchars =>
        obtain rfl := Except.ok.inj h
        simp only [sanitizeText, PyStr.strip_strip, hempty, hlen, hchars, if_true, if_false]
      · exact absurd h (by simp)

theorem sanitizeString_again {field : String} {maxLen : Nat} {raw x : Option String}
    (h : sanitizeString field maxLen raw = .ok x) : sanitizeString field maxLen x = .ok x := by
  cases raw with
  | none => obtain rfl := Except.ok.inj h; rfl
  | some value =>
      obtain ⟨y, hy, rfl⟩ := except_map_ok h
      simp only [sanitizeString, sanitizeText_again hy, Except.map]

theorem sanitizeField_again {field : String} {maxLen : Nat} {raw : JsonField} {x : Option String}
    (h : sanitizeField field maxLen raw = .ok x) : sanitizeString field maxLen x = .ok x := by
  cases raw with
  | null => obtain rfl := Except.ok.inj h; rfl
  | text value =>
      have htext : sanitizeString field maxLen (some value) = .ok x := h
      exact sanitizeString_again htext
  | other className => exact absurd h (by simp [sanitizeField])

/-- What `validate_workflow_id` returns is a sanitized text of identifier characters. -/
theorem validateWorkflowId_ok {raw x : String} (h : validateWorkflowId raw = .ok x) :
    sanitizeText "workflow_id" maxWorkflowIdLen raw = .ok x ∧ x.toList.all workflowIdChar := by
  obtain ⟨y, hy, hx⟩ := except_bind_ok h
  split at hx
  · next hchars => obtain rfl := Except.ok.inj hx; exact ⟨hy, hchars⟩
  · exact absurd hx (by simp [throw, throwThe, MonadExceptOf.throw])

theorem validateWorkflowId_again {raw x : String} (h : validateWorkflowId raw = .ok x) :
    validateWorkflowId x = .ok x := by
  obtain ⟨htext, hchars⟩ := validateWorkflowId_ok h
  unfold validateWorkflowId
  rw [sanitizeText_again htext]
  show (if x.toList.all workflowIdChar then _ else _) = _
  rw [if_pos hchars]
  rfl

/-- A validated id is not blank. -/
theorem strip_of_validateWorkflowId {raw x : String} (h : validateWorkflowId raw = .ok x) :
    PyStr.strip x = x ∧ x ≠ "" := by
  have hagain := sanitizeText_again (validateWorkflowId_ok h).1
  unfold sanitizeText at hagain
  dsimp only at hagain
  split at hagain
  · exact absurd hagain (by simp)
  · next hne =>
    split at hagain
    · exact absurd hagain (by simp)
    · split at hagain
      · have hstrip : PyStr.strip x = x := Except.ok.inj hagain
        exact ⟨hstrip, hstrip ▸ hne⟩
      · exact absurd hagain (by simp)

theorem validateOptionalId_again {raw x : Option String} (h : validateOptionalId raw = .ok x) :
    validateOptionalId x = .ok x := by
  cases raw with
  | none => obtain rfl := Except.ok.inj h; rfl
  | some value =>
      obtain ⟨y, hy, rfl⟩ := except_map_ok h
      simp only [validateOptionalId, validateWorkflowId_again hy, Except.map]

theorem validateIdField_again {raw : JsonField} {x : Option String}
    (h : validateIdField raw = .ok x) : validateOptionalId x = .ok x := by
  cases raw with
  | null => obtain rfl := Except.ok.inj h; rfl
  | text value =>
      have hid : validateOptionalId (some value) = .ok x := h
      exact validateOptionalId_again hid
  | other className => exact absurd h (by simp [validateIdField, sanitizeField])

theorem validateInitiateBody_again {body : InitiateBody} {v : InitiateWorkflowApiRequest}
    (h : validateInitiateFields body = .ok v) : validateInitiateBody v = .ok v := by
  obtain ⟨workflowId, hid, h⟩ := except_bind_ok h
  obtain ⟨correlationId, hcorr, h⟩ := except_bind_ok h
  obtain ⟨actor, hactor, h⟩ := except_bind_ok h
  obtain rfl := Except.ok.inj h
  unfold validateInitiateBody
  rw [validateIdField_again hid]
  show sanitizeString _ _ correlationId >>= _ = _
  rw [sanitizeField_again hcorr]
  show sanitizeString _ _ actor >>= _ = _
  rw [sanitizeField_again hactor]
  rfl

@[simp] theorem parseAction_value (action : ApprovalAction) :
    parseAction action.value = .ok action := by
  cases action <;> decide

/-- The second validation of an approval keeps action and actor, and the key that was
resolved wins over the header. -/
theorem validateApprovalBody_again {body : ApprovalBody} {header : Option String}
    {v : SubmitApprovalApiRequest} (h : validateApprovalFields body header = .ok v) :
    validateApprovalBody v header = .ok v := by
  obtain ⟨action, -, h⟩ := except_bind_ok h
  obtain ⟨actor, hactor, h⟩ := except_bind_ok h
  obtain ⟨bodyKey, hbody, h⟩ := except_bind_ok h
  obtain ⟨headerKey, hheader, h⟩ := except_bind_ok h
  obtain rfl := Except.ok.inj h
  have hkey : sanitizeString "idempotency_key" maxIdempotencyKeyLen (bodyKey <|> headerKey) =
      .ok (bodyKey <|> headerKey) := by
    cases bodyKey with
    | some k => exact sanitizeField_again hbody
    | none => exact sanitizeString_again hheader
  unfold validateApprovalBody
  rw [parseAction_value]
  show sanitizeString _ _ actor >>= _ = _
  rw [sanitizeField_again hactor]
  show sanitizeString _ _ (bodyKey <|> headerKey) >>= _ = _
  rw [hkey]
  show validateIdempotencyHeader header >>= _ = _
  rw [hheader]
  cases bodyKey <;> cases headerKey <;> rfl

end RequestValidator

end CartoonDemo
