import CartoonDemo.Api.EngineCall

/-!
# CartoonDemo.Api.Routes

The two **mutating routes** (`api/router.py`, `api/routes/initiate.py`,
`api/routes/approval.py`, `api/mappers.py`, `runtime/http_server.py`): `POST /workflows` and
`POST /workflows/{workflow_id}/approval`.

A route is three layers. The handler validates, calls the engine and turns whatever the
engine raises into an `ApiHttpException`; `_route_wrapper` turns that and every `ApiError`
into a response; `wrap_mutating` runs all of it inside one transaction, which commits when
its body returns and rolls back when an exception leaves it. Of the telemetry, the span that the
approval route starts before its `try` is modelled; the other log lines and spans hold nothing
that the logger or the tracer could refuse. Trace headers and the trace id of the initiate
response are left out.
-/

namespace CartoonDemo

/-! ### Responses -/

/-- What a request that initiates a workflow is answered. -/
structure InitiateWorkflowApiResponse where
  workflowId : String
  state : WorkflowState
  stateVersion : Nat
  createdAt : Time
  deriving DecidableEq, Repr

/-- What a request that acts on an approval is answered. -/
structure SubmitApprovalApiResponse where
  workflowId : String
  action : ApprovalAction
  fromState : WorkflowState
  toState : WorkflowState
  stateVersion : Nat
  transitionId : String
  deriving DecidableEq, Repr

/-- The body of a response. -/
inductive ResponseContent
  | initiated (r : InitiateWorkflowApiResponse)
  | approval (r : SubmitApprovalApiResponse)
  | error (envelope : ApiErrorEnvelope)
  deriving DecidableEq, Repr

/-- A response. -/
structure JSONResponse where
  statusCode : Nat
  content : ResponseContent
  deriving DecidableEq, Repr

/-- `map_initiate_result`. -/
def mapInitiateResult (result : InitiateWorkflowResult) : InitiateWorkflowApiResponse :=
  { workflowId := result.workflowId, state := result.state, stateVersion := result.stateVersion,
    createdAt := result.transition.occurredAt }

/-- `map_approval_result`. -/
def mapApprovalResult (result : ApprovalActionResult) : SubmitApprovalApiResponse :=
  { workflowId := result.workflowId, action := result.action, fromState := result.fromState,
    toState := result.toState, stateVersion := result.stateVersion,
    transitionId := result.transition.transitionId }

/-- `map_to_initiate_request`; the engine does not read the correlation id. -/
def mapToInitiateRequest (request : InitiateWorkflowApiRequest) : InitiateWorkflowRequest :=
  { workflowId := request.workflowId, actor := request.actor }

/-! ### Handlers

The telemetry of a handler comes before its `try`, so what it raises is not translated.
-/

/-- What a request meets: the repository behind the engine, the clock readings and fresh
identifiers of the call, and what comes up during it. -/
structure ApiDependencies where
  repo : WorkflowRepoKind
  env : Env
  faults : Faults

namespace ApiDependencies

open RequestValidator WorkflowEngine

variable (deps : ApiDependencies)

/-- The `try` around the engine call. -/
def engineCall {α : Type} (workflowId : Option String) (call : EStateM RouteException Store α) :
    EStateM RouteException Store α := fun s =>
  match call s with
  | .ok a s' => .ok a s'
  | .error e s' => .error (engineErrorToHttp workflowId e) s'

/-- `handle_initiate_workflow`. -/
def handleInitiateWorkflow (request : InitiateWorkflowApiRequest)
    (idempotencyHeader : Option String) :
    EStateM RouteException Store InitiateWorkflowApiResponse := do
  let validated ← check (validateInitiateBody request)
  -- the key is logged and then forgotten
  let _ ← check (validateIdempotencyHeader idempotencyHeader)
  let result ← engineCall none
    (initiateCall deps.repo deps.env deps.faults (mapToInitiateRequest validated))
  return mapInitiateResult result

/-- `handle_submit_approval`. -/
def handleSubmitApproval (workflowId : String) (request : SubmitApprovalApiRequest)
    (idempotencyHeader : Option String) :
    EStateM RouteException Store SubmitApprovalApiResponse := do
  let wfId ← check (validateWorkflowId workflowId)
  let validated ← check (validateApprovalBody request idempotencyHeader)
  check (startRouteSpan wfId)
  let result ← engineCall (some wfId)
    (approvalCall deps.repo deps.env deps.faults wfId validated.action validated.actor
      validated.idempotencyKey)
  return mapApprovalResult result

/-! ### Routes -/

/-- `_json_body`. -/
def jsonBody {α : Type} : RequestBody α → Except RouteException α
  | .malformed message => .error (.py (.other "JSONDecodeError" message))
  | .nonObject => .error (invalid "request body must be a JSON object")
  | .object fields => .ok fields

/-- `_initiate_call`. -/
def initiateRoute (body : RequestBody InitiateBody) (header : Option String) :
    EStateM RouteException Store InitiateWorkflowApiResponse := do
  let fields ← check (jsonBody body)
  let validated ← check (validateInitiateFields fields)
  deps.handleInitiateWorkflow validated header

/-- `_approval_call`. -/
def approvalRoute (workflowId : String) (body : RequestBody ApprovalBody)
    (header : Option String) : EStateM RouteException Store SubmitApprovalApiResponse := do
  let fields ← check (jsonBody body)
  let validated ← check (validateApprovalFields fields header)
  let wfId ← check (validateWorkflowId workflowId)
  deps.handleSubmitApproval wfId validated header

/-- `_route_wrapper`. -/
def routeWrapper {α : Type} (successStatus : Nat) (content : α → ResponseContent)
    (handlerCall : EStateM RouteException Store α) : EStateM RouteException Store JSONResponse :=
  fun s =>
  match handlerCall s with
  | .ok payload s' => .ok { statusCode := successStatus, content := content payload } s'
  | .error (.http status envelope) s' =>
      .ok { statusCode := status, content := .error envelope } s'
  | .error (.api e) s' => .ok { statusCode := e.cls.httpStatus, content := .error e.toEnvelope } s'
  | .error (.py e) s' => .error (.py e) s'

/-- `wrap_mutating`: the response, or the exception that leaves the route, and the committed
store. -/
def wrapMutating (handler : EStateM RouteException Store JSONResponse) (s : Store) :
    Except RouteException JSONResponse × Store :=
  match handler s with
  | .ok response s' => (.ok response, s')
  | .error e _ => (.error e, s)

end ApiDependencies

/-- The mutating requests, with their `idempotency-key` header. -/
inductive MutatingRequest
  | initiate (body : RequestBody InitiateBody) (idempotencyKey : Option String)
  | approval (workflowId : String) (body : RequestBody ApprovalBody)
      (idempotencyKey : Option String)
  deriving DecidableEq, Repr

open ApiDependencies in
/-- The response to a request and the committed store. -/
def ApiDependencies.serve (deps : ApiDependencies) (request : MutatingRequest) (s : Store) :
    Except RouteException JSONResponse × Store :=
  match request with
  | .initiate body header =>
      wrapMutating (routeWrapper 201 .initiated (deps.initiateRoute body header)) s
  | .approval workflowId body header =>
      wrapMutating (routeWrapper 200 .approval (deps.approvalRoute workflowId body header)) s

/-! ### Layers

Each layer by the outcome of the one inside it.
-/

namespace ApiDependencies

open RequestValidator WorkflowEngine

variable {deps : ApiDependencies} {α : Type} {status : Nat} {content : α → ResponseContent}
  {route : EStateM RouteException Store α} {s s' : Store}

/-- A route that returns commits what it wrote. -/
theorem wrap_of_ok {a : α} (h : route s = .ok a s') :
    wrapMutating (routeWrapper status content route) s =
      (.ok { statusCode := status, content := content a }, s') := by
  simp only [wrapMutating, routeWrapper, h]

/-- A route that raises an `ApiHttpException` commits what it wrote. -/
theorem wrap_of_http {code : Nat} {envelope : ApiErrorEnvelope}
    (h : route s = .error (.http code envelope) s') :
    wrapMutating (routeWrapper status content route) s =
      (.ok { statusCode := code, content := .error envelope }, s') := by
  simp only [wrapMutating, routeWrapper, h]

/-- A route that raises before it has written leaves the store, response or not. -/
theorem wrap_of_untouched {e : RouteException} (h : route s = .error e s) :
    (wrapMutating (routeWrapper status content route) s).2 = s := by
  cases e <;> simp only [wrapMutating, routeWrapper, h]

/-- A validated request is given the identifier it names, or a new one. -/
theorem allocate_of_validated {fields : InitiateBody} {v : InitiateWorkflowApiRequest}
    (env : Env) (hv : validateInitiateFields fields = .ok v) :
    allocate env (mapToInitiateRequest v) = .ok (v.workflowId.getD env.workflowId) := by
  obtain ⟨wfId, hid, hv⟩ := except_bind_ok hv
  obtain ⟨correlationId, -, hv⟩ := except_bind_ok hv
  obtain ⟨actor, -, hv⟩ := except_bind_ok hv
  obtain rfl := Except.ok.inj hv
  have hagain := validateIdField_again hid
  cases wfId with
  | none => rfl
  | some x =>
      obtain ⟨y, hy, hxy⟩ := except_map_ok hagain
      obtain rfl := Option.some.inj hxy
      obtain ⟨hstrip, hne⟩ := strip_of_validateWorkflowId hy
      simp only [allocate, mapToInitiateRequest, hstrip, if_neg hne, Option.getD_some]

/-- The binding of `POST /workflows`, up to the engine call. -/
theorem initiateRoute_of_valid {fields : InitiateBody} {header idem : Option String}
    {v : InitiateWorkflowApiRequest} (hv : validateInitiateFields fields = .ok v)
    (hi : validateIdempotencyHeader header = .ok idem) :
    deps.initiateRoute (.object fields) header s =
      (engineCall none (initiateCall deps.repo deps.env deps.faults (mapToInitiateRequest v)) >>=
        fun result => pure (mapInitiateResult result)) s := by
  unfold initiateRoute handleInitiateWorkflow
  refine (estate_bind_ok (check_ok fields s)).trans ?_
  rw [hv]
  refine (estate_bind_ok (check_ok v s)).trans ?_
  rw [validateInitiateBody_again hv]
  refine (estate_bind_ok (check_ok v s)).trans ?_
  rw [hi]
  exact estate_bind_ok (check_ok idem s)

/-- The binding of the approval route, up to the engine call. -/
theorem approvalRoute_of_valid {fields : ApprovalBody} {raw wfId : String}
    {header : Option String} {v : SubmitApprovalApiRequest}
    (hv : validateApprovalFields fields header = .ok v) (hw : validateWorkflowId raw = .ok wfId)
    (ht : startRouteSpan wfId = .ok ()) :
    deps.approvalRoute raw (.object fields) header s =
      (engineCall (some wfId) (approvalCall deps.repo deps.env deps.faults wfId v.action v.actor
        v.idempotencyKey) >>= fun result => pure (mapApprovalResult result)) s := by
  unfold approvalRoute handleSubmitApproval
  refine (estate_bind_ok (check_ok fields s)).trans ?_
  rw [hv]
  refine (estate_bind_ok (check_ok v s)).trans ?_
  rw [hw]
  refine (estate_bind_ok (check_ok wfId s)).trans ?_
  rw [validateWorkflowId_again hw]
  refine (estate_bind_ok (check_ok wfId s)).trans ?_
  rw [validateApprovalBody_again hv]
  refine (estate_bind_ok (check_ok v s)).trans ?_
  rw [ht]
  exact estate_bind_ok (check_ok () s)

/-- Everything `POST /workflows` checks before it calls the engine. -/
def validatedInitiate (body : RequestBody InitiateBody) (header : Option String) :
    Except RouteException InitiateWorkflowApiRequest := do
  let fields ← jsonBody body
  let validated ← validateInitiateFields fields
  let _ ← validateIdempotencyHeader header
  return validated

/-- Everything the approval route checks before it calls the engine, the span included. -/
def validatedApproval (raw : String) (body : RequestBody ApprovalBody) (header : Option String) :
    Except RouteException (String × SubmitApprovalApiRequest) := do
  let fields ← jsonBody body
  let validated ← validateApprovalFields fields header
  let wfId ← validateWorkflowId raw
  startRouteSpan wfId
  return (wfId, validated)

theorem jsonBody_ok_iff {body : RequestBody α} {fields : α} :
    jsonBody body = .ok fields ↔ body = .object fields := by
  cases body with
  | malformed message => simp [jsonBody]
  | nonObject => simp [jsonBody]
  | object fields' => simp [jsonBody]

theorem validatedInitiate_ok_iff {body : RequestBody InitiateBody} {header : Option String}
    {v : InitiateWorkflowApiRequest} :
    validatedInitiate body header = .ok v ↔
      ∃ fields idem, body = .object fields ∧ validateInitiateFields fields = .ok v ∧
        validateIdempotencyHeader header = .ok idem := by
  refine ⟨fun h => ?_, ?_⟩
  · obtain ⟨fields, hb, h⟩ := except_bind_ok h
    obtain ⟨v', hv, h⟩ := except_bind_ok h
    obtain ⟨idem, hi, h⟩ := except_bind_ok h
    obtain rfl := Except.ok.inj h
    exact ⟨fields, idem, jsonBody_ok_iff.mp hb, hv, hi⟩
  · rintro ⟨fields, idem, rfl, hv, hi⟩
    simp only [validatedInitiate, jsonBody, except_ok_bind, hv, hi]
    rfl

theorem validatedApproval_ok_iff {raw : String} {body : RequestBody ApprovalBody}
    {header : Option String} {checked : String × SubmitApprovalApiRequest} :
    validatedApproval raw body header = .ok checked ↔
      ∃ fields, body = .object fields ∧ validateApprovalFields fields header = .ok checked.2 ∧
        validateWorkflowId raw = .ok checked.1 ∧ startRouteSpan checked.1 = .ok () := by
  refine ⟨fun h => ?_, ?_⟩
  · obtain ⟨fields, hb, h⟩ := except_bind_ok h
    obtain ⟨v, hv, h⟩ := except_bind_ok h
    obtain ⟨wfId, hw, h⟩ := except_bind_ok h
    obtain ⟨_, ht, h⟩ := except_bind_ok h
    obtain rfl := Except.ok.inj h
    exact ⟨fields, jsonBody_ok_iff.mp hb, hv, hw, ht⟩
  · rintro ⟨fields, rfl, hv, hw, ht⟩
    simp only [validatedApproval, jsonBody, except_ok_bind, hv, hw, ht]
    rfl

/-- What the checks raise, the route raises before it has touched the store. -/
theorem initiateRoute_of_error {body : RequestBody InitiateBody} {header : Option String}
    {e : RouteException} (h : validatedInitiate body header = .error e) :
    deps.initiateRoute body header s = .error e s := by
  unfold initiateRoute handleInitiateWorkflow
  obtain hb | ⟨fields, hb, h⟩ := except_bind_error h
  · rw [hb]
    exact estate_bind_error (check_error e s)
  rw [hb]
  refine (estate_bind_ok (check_ok fields s)).trans ?_
  obtain hv | ⟨v, hv, h⟩ := except_bind_error h
  · rw [hv]
    exact estate_bind_error (check_error e s)
  rw [hv]
  refine (estate_bind_ok (check_ok v s)).trans ?_
  -- the handler validates again, and accepts again
  rw [validateInitiateBody_again hv]
  refine (estate_bind_ok (check_ok v s)).trans ?_
  obtain hi | ⟨idem, hi, h⟩ := except_bind_error h
  · rw [hi]
    exact estate_bind_error (check_error e s)
  · exact absurd h (by simp [pure, Except.pure])

/-- What the checks raise, the route raises before it has touched the store. -/
theorem approvalRoute_of_error {raw : String} {body : RequestBody ApprovalBody}
    {header : Option String} {e : RouteException}
    (h : validatedApproval raw body header = .error e) :
    deps.approvalRoute raw body header s = .error e s := by
  unfold approvalRoute handleSubmitApproval
  obtain hb | ⟨fields, hb, h⟩ := except_bind_error h
  · rw [hb]
    exact estate_bind_error (check_error e s)
  rw [hb]
  refine (estate_bind_ok (check_ok fields s)).trans ?_
  obtain hv | ⟨v, hv, h⟩ := except_bind_error h
  · rw [hv]
    exact estate_bind_error (check_error e s)
  rw [hv]
  refine (estate_bind_ok (check_ok v s)).trans ?_
  obtain hw | ⟨wfId, hw, h⟩ := except_bind_error h
  · rw [hw]
    exact estate_bind_error (check_error e s)
  rw [hw]
  refine (estate_bind_ok (check_ok wfId s)).trans ?_
  rw [validateWorkflowId_again hw]
  refine (estate_bind_ok (check_ok wfId s)).trans ?_
  rw [validateApprovalBody_again hv]
  refine (estate_bind_ok (check_ok v s)).trans ?_
  obtain ht | ⟨_, ht, h⟩ := except_bind_error h
  · rw [ht]
    exact estate_bind_error (check_error e s)
  · exact absurd h (by simp [pure, Except.pure])

/-- What an invalid initiate request raises, it raises before the engine is called. -/
theorem initiateRoute_of_invalid {body : RequestBody InitiateBody} {header : Option String}
    (h : ∀ fields v idem, body = .object fields → validateInitiateFields fields = .ok v →
      validateIdempotencyHeader header ≠ .ok idem) :
    ∃ e, deps.initiateRoute body header s = .error e s := by
  cases hchecks : validatedInitiate body header with
  | error e => exact ⟨e, initiateRoute_of_error hchecks⟩
  | ok v =>
      obtain ⟨fields, idem, hb, hv, hi⟩ := validatedInitiate_ok_iff.mp hchecks
      exact absurd hi (h fields v idem hb hv)

/-- What an invalid approval request raises, or one for an id that the tracer refuses, it raises
before the engine is called. -/
theorem approvalRoute_of_invalid {raw : String} {body : RequestBody ApprovalBody}
    {header : Option String}
    (h : ∀ fields v wfId, body = .object fields → validateApprovalFields fields header = .ok v →
      validateWorkflowId raw = .ok wfId → traceable wfId = false) :
    ∃ e, deps.approvalRoute raw body header s = .error e s := by
  cases hchecks : validatedApproval raw body header with
  | error e => exact ⟨e, approvalRoute_of_error hchecks⟩
  | ok checked =>
      obtain ⟨fields, hb, hv, hw, ht⟩ := validatedApproval_ok_iff.mp hchecks
      have hnot := h fields checked.2 checked.1 hb hv hw
      rw [startRouteSpan_ok_iff.mp ht] at hnot
      cases hnot

/-- An engine call that returns lets the handler return. -/
theorem engineCall_ok {workflowId : Option String} {call : EStateM RouteException Store α}
    {β : Type} {f : α → β} {a : α} (h : call s = .ok a s') :
    (engineCall workflowId call >>= fun r => pure (f r)) s = .ok (f a) s' := by
  have hcall : engineCall workflowId call s = .ok a s' := by simp only [engineCall, h]
  rw [estate_bind_ok hcall]
  rfl

/-- An engine call that raises makes the handler raise an `ApiHttpException` with an error
status, over the store that the call reached. -/
theorem engineCall_error {workflowId : Option String} {call : EStateM RouteException Store α}
    {β : Type} {f : α → β} {e : RouteException} (h : call s = .error e s') :
    ∃ code envelope, 400 ≤ code ∧
      (engineCall workflowId call >>= fun r => pure (f r)) s =
        .error (.http code envelope) s' := by
  obtain ⟨code, envelope, hmap, hcode⟩ := engineErrorToHttp_http workflowId e
  have hcall : engineCall workflowId call s = .error (.http code envelope) s' := by
    simp only [engineCall, h, hmap]
  exact ⟨code, envelope, hcode, estate_bind_error hcall⟩

end ApiDependencies

end CartoonDemo
