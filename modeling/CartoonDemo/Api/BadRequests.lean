import CartoonDemo.Api.Routes

/-!
# CartoonDemo.Api.BadRequests

**Bad requests and client errors.** `RequestValidator` refuses with an `ApiValidationError`,
which `_route_wrapper` turns into a 400. The wrapper knows two classes of exceptions and no
more: what `request.json()` raises on a body that is not JSON, what `value.strip()` raises on a
field that is neither a string nor null, and what the tracer raises on a workflow id that looks
like a secret, leave it as they are.

`handled_iff_readable` says for which requests that never happens. Everything a route does
before it calls the engine is one pure computation (`validatedInitiate`, `validatedApproval`);
what that computation raises decides the request, whatever the store and the engine.
-/

namespace CartoonDemo

open RequestValidator ApiDependencies WorkflowEngine

/-! ### Validation errors and others

A check of a request raises validation errors only, unless a text that it is given has no UTF-8
form or a value has no `strip`.
-/

/-- An `ApiValidationError`. -/
def RouteException.IsRefusal (e : RouteException) : Prop := ∃ message, e = invalid message

/-- The exception of a value without `strip`. -/
def noStrip (className : String) : RouteException :=
  .py (.other "AttributeError" ("'" ++ className ++ "' object has no attribute 'strip'"))

/-- A string or null. -/
def JsonField.Readable (field : JsonField) : Prop := ∀ className, field ≠ .other className

theorem not_isRefusal_py (e : PyException) : ¬ (RouteException.py e).IsRefusal := by
  rintro ⟨message, h⟩
  exact absurd h (by simp [invalid])

namespace RequestValidator

section Raises

variable {P : RouteException → Prop}

theorem raises_sanitizeText (hP : ∀ message, P (invalid message)) (field : String) (maxLen : Nat)
    (value : String) : Raises P (sanitizeText field maxLen value) := by
  unfold sanitizeText
  dsimp only
  split
  · exact raises_error.mpr (hP _)
  · split
    · exact raises_error.mpr (hP _)
    · split
      · exact raises_ok P _
      · exact raises_error.mpr (hP _)

theorem raises_validateIdempotencyHeader (hP : ∀ message, P (invalid message))
    (raw : Option String) : Raises P (validateIdempotencyHeader raw) := by
  cases raw with
  | none => exact raises_ok P none
  | some value => exact raises_map_iff.mpr (raises_sanitizeText hP _ _ value)

theorem raises_validateWorkflowId (hP : ∀ message, P (invalid message)) (raw : String) :
    Raises P (validateWorkflowId raw) := by
  refine (raises_sanitizeText hP _ _ raw).bind fun sanitized _ => ?_
  split
  · exact raises_ok P sanitized
  · exact raises_error.mpr (hP _)

theorem raises_parseAction (hP : ∀ message, P (invalid message)) (action : String) :
    Raises P (parseAction action) := by
  unfold parseAction
  dsimp only
  split
  · exact raises_ok P _
  · split
    · exact raises_ok P _
    · split
      · exact raises_ok P _
      · exact raises_error.mpr (hP _)

/-- A field is refused, or asked for a `strip` it does not have. -/
theorem raises_sanitizeField (hP : ∀ message, P (invalid message)) (field : String)
    (maxLen : Nat) (value : JsonField) :
    Raises P (sanitizeField field maxLen value) ↔ ∀ c, value = .other c → P (noStrip c) := by
  cases value with
  | null => exact iff_of_true (raises_ok P none) (by simp)
  | text t =>
      exact iff_of_true (raises_map_iff.mpr (raises_sanitizeText hP field maxLen t)) (by simp)
  | other className =>
      refine raises_error.trans ⟨fun h c hc => ?_, fun h => h className rfl⟩
      obtain rfl := JsonField.other.inj hc
      exact h

theorem raises_validateIdField (hP : ∀ message, P (invalid message)) (value : JsonField) :
    Raises P (validateIdField value) ↔ ∀ c, value = .other c → P (noStrip c) := by
  cases value with
  | null => exact iff_of_true (raises_ok P none) (by simp)
  | text t => exact iff_of_true (raises_map_iff.mpr (raises_validateWorkflowId hP t)) (by simp)
  | other className => exact raises_sanitizeField hP "workflow_id" maxWorkflowIdLen (.other className)

end Raises

end RequestValidator

/-! ### What can be read

The condition, field by field.
-/

/-- A field of `POST /workflows` is read once those before it are accepted; each one that is
read is `readable`. -/
def InitiateBody.Reads (readable : JsonField → Prop) (fields : InitiateBody) : Prop :=
  readable fields.workflowId ∧
    ((validateIdField fields.workflowId).isOk → readable fields.correlationId ∧
      ((sanitizeField "correlation_id" maxCorrelationIdLen fields.correlationId).isOk →
        readable fields.actor))

/-- The same of an approval, whose action is read first and made a string by the route. -/
def ApprovalBody.Reads (readable : JsonField → Prop) (fields : ApprovalBody) : Prop :=
  (parseAction fields.action).isOk → readable fields.actor ∧
    ((sanitizeField "actor" maxActorLen fields.actor).isOk → readable fields.idempotencyKey)

/-- The body is JSON, and if it is an object its fields satisfy `p`. -/
def RequestBody.Parses {α : Type} (p : α → Prop) : RequestBody α → Prop
  | .malformed _ => False
  | .nonObject => True
  | .object fields => p fields

namespace MutatingRequest

/-- The body is JSON, and every field that is read is a string or null; the id of an approval
that is accepted so far is not a secret as a whole. -/
def Readable : MutatingRequest → Prop
  | .initiate body _ => body.Parses (InitiateBody.Reads JsonField.Readable)
  | .approval raw body header => body.Parses fun fields =>
      fields.Reads JsonField.Readable ∧
        ((validateApprovalFields fields header).isOk → ∀ wfId, validateWorkflowId raw = .ok wfId →
          Observability.isEntirelySecret wfId (some "workflow_id") = false)

/-- The rules of `RequestValidator`: it accepts the fields, the header and the path. -/
def Valid : MutatingRequest → Prop
  | .initiate body header => ∃ fields, body = .object fields ∧
      (validateInitiateFields fields).isOk ∧ (validateIdempotencyHeader header).isOk
  | .approval raw body header => ∃ fields, body = .object fields ∧
      (validateApprovalFields fields header).isOk ∧ (validateWorkflowId raw).isOk

/-- Everything that is checked before the engine is called. -/
def checks : MutatingRequest → Except RouteException Unit
  | .initiate body header => (validatedInitiate body header).map fun _ => ()
  | .approval raw body header => (validatedApproval raw body header).map fun _ => ()

/-! ### What the checks raise -/

/-- What passes the checks obeys the rules. -/
theorem valid_of_checks {request : MutatingRequest} (h : request.checks = .ok ()) :
    request.Valid := by
  cases request with
  | initiate body header =>
      obtain ⟨v, hchecks, -⟩ := except_map_ok h
      obtain ⟨fields, idem, hb, hv, hi⟩ := validatedInitiate_ok_iff.mp hchecks
      exact ⟨fields, hb, except_isOk_iff.mpr ⟨v, hv⟩, except_isOk_iff.mpr ⟨idem, hi⟩⟩
  | approval raw body header =>
      obtain ⟨checked, hchecks, -⟩ := except_map_ok h
      obtain ⟨fields, hb, hv, hw, -⟩ := validatedApproval_ok_iff.mp hchecks
      exact ⟨fields, hb, except_isOk_iff.mpr ⟨checked.2, hv⟩, except_isOk_iff.mpr ⟨checked.1, hw⟩⟩

end MutatingRequest

namespace RequestValidator

variable {P : RouteException → Prop}

/-- What the fields raise is decided by those that are read. -/
theorem raises_validateInitiateFields (hP : ∀ message, P (invalid message))
    (fields : InitiateBody) :
    Raises P (validateInitiateFields fields) ↔
      fields.Reads fun field => ∀ c, field = .other c → P (noStrip c) := by
  have hpure : ∀ v : InitiateWorkflowApiRequest, Raises P (pure v) := raises_ok P
  simp only [validateInitiateFields, InitiateBody.Reads, raises_bind_iff,
    raises_validateIdField hP, raises_sanitizeField hP, forall_except_ok_iff, hpure, implies_true,
    and_true]

theorem raises_validateApprovalFields (hP : ∀ message, P (invalid message))
    (fields : ApprovalBody) (header : Option String) :
    Raises P (validateApprovalFields fields header) ↔
      fields.Reads fun field => ∀ c, field = .other c → P (noStrip c) := by
  have hpure : ∀ v : SubmitApprovalApiRequest, Raises P (pure v) := raises_ok P
  simp only [validateApprovalFields, ApprovalBody.Reads, raises_bind_iff,
    raises_parseAction hP, raises_sanitizeField hP, raises_validateIdempotencyHeader hP,
    forall_except_ok_iff, hpure, implies_true, and_true, true_and]

/-- A body is decoded, or it is refused because it is not an object. -/
theorem raises_jsonBody {α : Type} (hP : ∀ message, P (invalid message)) (body : RequestBody α) :
    Raises P (jsonBody body) ↔
      ∀ m, body = .malformed m → P (.py (.other "JSONDecodeError" m)) := by
  cases body with
  | malformed message =>
      refine raises_error.trans ⟨fun h m hm => ?_, fun h => h message rfl⟩
      obtain rfl := RequestBody.malformed.inj hm
      exact h
  | nonObject => exact iff_of_true (raises_error.mpr (hP _)) (by simp)
  | object fields => exact iff_of_true (raises_ok P fields) (by simp)

theorem raises_validatedInitiate (hP : ∀ message, P (invalid message))
    (body : RequestBody InitiateBody) (header : Option String) :
    Raises P (validatedInitiate body header) ↔
      (∀ m, body = .malformed m → P (.py (.other "JSONDecodeError" m))) ∧
      ∀ fields, body = .object fields →
        fields.Reads fun field => ∀ c, field = .other c → P (noStrip c) := by
  have hpure : ∀ v : InitiateWorkflowApiRequest, Raises P (pure v) := raises_ok P
  simp only [validatedInitiate, raises_bind_iff, raises_jsonBody hP, jsonBody_ok_iff,
    raises_validateInitiateFields hP, raises_validateIdempotencyHeader hP, hpure, implies_true,
    and_true]

/-- The span of the route raises for an id that is a secret as a whole, and for no other. -/
theorem raises_startRouteSpan {raw wfId : String} (hw : validateWorkflowId raw = .ok wfId) :
    Raises P (startRouteSpan wfId) ↔
      (Observability.isEntirelySecret wfId (some "workflow_id") → P (.py unredactable)) := by
  rw [startRouteSpan]
  by_cases hsecret : Observability.isEntirelySecret wfId (some "workflow_id")
  · rw [traceWorkflowId_of_secret hsecret]
    exact raises_error.trans ⟨fun h _ => h, fun h => h hsecret⟩
  · rw [traceWorkflowId_of_validated hw (Bool.eq_false_iff.mpr hsecret)]
    exact iff_of_true (raises_ok P ()) fun h => absurd h hsecret

theorem raises_validatedApproval (hP : ∀ message, P (invalid message)) (raw : String)
    (body : RequestBody ApprovalBody) (header : Option String) :
    Raises P (validatedApproval raw body header) ↔
      (∀ m, body = .malformed m → P (.py (.other "JSONDecodeError" m))) ∧
      ∀ fields, body = .object fields →
        (fields.Reads fun field => ∀ c, field = .other c → P (noStrip c)) ∧
          ((validateApprovalFields fields header).isOk → ∀ wfId, validateWorkflowId raw = .ok wfId →
            Observability.isEntirelySecret wfId (some "workflow_id") → P (.py unredactable)) := by
  have hpure : ∀ v : String × SubmitApprovalApiRequest, Raises P (pure v) := raises_ok P
  have hspan : (∀ wfId, validateWorkflowId raw = .ok wfId → Raises P (startRouteSpan wfId)) ↔
      ∀ wfId, validateWorkflowId raw = .ok wfId →
        Observability.isEntirelySecret wfId (some "workflow_id") → P (.py unredactable) :=
    forall_congr' fun _ => forall_congr' fun hw => raises_startRouteSpan hw
  simp only [validatedApproval, raises_bind_iff, raises_jsonBody hP, jsonBody_ok_iff,
    raises_validateApprovalFields hP, raises_validateWorkflowId hP, hpure, implies_true, and_true,
    true_and, hspan, forall_except_ok_iff]

end RequestValidator

/-- A body whose trouble is excluded parses into fields that satisfy `p`. -/
theorem RequestBody.parses_iff {α : Type} {p : α → Prop} {body : RequestBody α} :
    body.Parses p ↔ (∀ m, body ≠ .malformed m) ∧ ∀ fields, body = .object fields → p fields := by
  cases body with
  | malformed message => simp [Parses]
  | nonObject => simp [Parses]
  | object fields => simp [Parses]

namespace MutatingRequest

/-- The checks raise validation errors only, exactly when the request can be read. -/
theorem raises_checks_iff (request : MutatingRequest) :
    Raises RouteException.IsRefusal request.checks ↔ request.Readable := by
  have hP : ∀ message, (invalid message).IsRefusal := fun message => ⟨message, rfl⟩
  cases request with
  | initiate body header =>
      refine raises_map_iff.trans ((raises_validatedInitiate hP body header).trans ?_)
      simp only [noStrip, not_isRefusal_py, imp_false]
      exact RequestBody.parses_iff.symm
  | approval raw body header =>
      refine raises_map_iff.trans ((raises_validatedApproval hP raw body header).trans ?_)
      simp only [noStrip, not_isRefusal_py, imp_false, Bool.not_eq_true]
      exact RequestBody.parses_iff.symm

/-- Whatever the checks raise is a validation error or no exception of the API at all. -/
theorem raises_checks (request : MutatingRequest) :
    Raises (fun e => e.IsRefusal ∨ ∃ p, e = .py p) request.checks := by
  have hP : ∀ message, (invalid message).IsRefusal ∨ ∃ p, invalid message = .py p :=
    fun message => Or.inl ⟨message, rfl⟩
  cases request with
  | initiate body header =>
      refine raises_map_iff.mpr ((raises_validatedInitiate hP body header).mpr ?_)
      simp [noStrip, InitiateBody.Reads]
  | approval raw body header =>
      refine raises_map_iff.mpr ((raises_validatedApproval hP raw body header).mpr ?_)
      simp [noStrip, ApprovalBody.Reads]

end MutatingRequest

/-! ### Responses

What the wrapper makes of a check that fails, and of an exception that is none of its own.
-/

/-- `_route_wrapper` around the call of a request. -/
def ApiDependencies.respond (deps : ApiDependencies) :
    MutatingRequest → EStateM RouteException Store JSONResponse
  | .initiate body header => routeWrapper 201 .initiated (deps.initiateRoute body header)
  | .approval raw body header => routeWrapper 200 .approval (deps.approvalRoute raw body header)

/-- What is committed around `respond`. -/
theorem ApiDependencies.serve_eq_respond (deps : ApiDependencies) (request : MutatingRequest)
    (s : Store) : deps.serve request s = wrapMutating (deps.respond request) s := by
  cases request <;> rfl

namespace MutatingRequest

variable {request : MutatingRequest} {deps : ApiDependencies} {s : Store}

/-- A refused request is answered with a 400. -/
theorem respond_of_refusal {message : String} (h : request.checks = .error (invalid message)) :
    deps.respond request s =
      .ok { statusCode := 400,
            content := .error { errorClass := "API_VALIDATION", message := message } } s := by
  cases request with
  | initiate body header =>
      have hroute : deps.initiateRoute body header s = _ :=
        initiateRoute_of_error (except_map_error h)
      simp only [respond, routeWrapper, hroute, invalid]
      rfl
  | approval raw body header =>
      have hroute : deps.approvalRoute raw body header s = _ :=
        approvalRoute_of_error (except_map_error h)
      simp only [respond, routeWrapper, hroute, invalid]
      rfl

/-- An exception that is none of the API's leaves the wrapper. -/
theorem respond_of_escape {e : PyException} (h : request.checks = .error (.py e)) :
    deps.respond request s = .error (.py e) s := by
  cases request with
  | initiate body header =>
      have hroute : deps.initiateRoute body header s = _ :=
        initiateRoute_of_error (except_map_error h)
      simp only [respond, routeWrapper, hroute]
  | approval raw body header =>
      have hroute : deps.approvalRoute raw body header s = _ :=
        approvalRoute_of_error (except_map_error h)
      simp only [respond, routeWrapper, hroute]

/-- Once the engine is called an answer is certain: the handler turns whatever it raises into
an `ApiHttpException`. -/
theorem routeWrapper_engineCall {α β : Type} {status : Nat} {content : β → ResponseContent}
    {route : EStateM RouteException Store β} {workflowId : Option String}
    {call : EStateM RouteException Store α} {f : α → β}
    (h : route s = (engineCall workflowId call >>= fun result => pure (f result)) s) :
    ∃ response s', routeWrapper status content route s = .ok response s' := by
  cases hcall : call s with
  | ok a s' =>
      rw [engineCall_ok hcall] at h
      exact ⟨{ statusCode := status, content := content (f a) }, s', by simp only [routeWrapper, h]⟩
  | error e s' =>
      obtain ⟨code, envelope, -, hhttp⟩ := engineCall_error (f := f) hcall
      rw [hhttp] at h
      exact ⟨{ statusCode := code, content := .error envelope }, s',
        by simp only [routeWrapper, h]⟩

/-- A request that passes the checks is answered. -/
theorem respond_of_ok (h : request.checks = .ok ()) :
    ∃ response s', deps.respond request s = .ok response s' := by
  cases request with
  | initiate body header =>
      obtain ⟨v, hchecks, -⟩ := except_map_ok h
      obtain ⟨fields, idem, rfl, hv, hi⟩ := validatedInitiate_ok_iff.mp hchecks
      have hroute : deps.initiateRoute (.object fields) header s = _ :=
        initiateRoute_of_valid hv hi
      exact routeWrapper_engineCall hroute
  | approval raw body header =>
      obtain ⟨⟨wfId, v⟩, hchecks, -⟩ := except_map_ok h
      obtain ⟨fields, rfl, hv, hw, ht⟩ := validatedApproval_ok_iff.mp hchecks
      have hroute : deps.approvalRoute raw (.object fields) header s = _ :=
        approvalRoute_of_valid hv hw ht
      simp only [respond]
      exact routeWrapper_engineCall hroute

/-- Every bad request gets a client error: the wrapper always answers, and a request that
breaks a rule of `RequestValidator` is answered with a 400 that neither the engine nor the
store has any part in. -/
structure Handled (request : MutatingRequest) : Prop where
  answered : ∀ (deps : ApiDependencies) s, ∃ response s', deps.respond request s = .ok response s'
  refused : ¬ request.Valid → ∃ envelope, envelope.errorClass = "API_VALIDATION" ∧
    ∀ (deps : ApiDependencies) s,
      deps.respond request s = .ok { statusCode := 400, content := .error envelope } s

/-- A request is handled exactly when it can be read. -/
theorem handled_iff_readable (request : MutatingRequest) :
    request.Handled ↔ request.Readable := by
  rw [← raises_checks_iff]
  cases hchecks : request.checks with
  | ok u =>
      refine iff_of_true ⟨fun deps s => respond_of_ok hchecks, fun hinvalid => ?_⟩ (raises_ok _ u)
      exact absurd (valid_of_checks hchecks) hinvalid
  | error e =>
      rw [raises_error]
      obtain ⟨message, rfl⟩ | ⟨p, rfl⟩ := (raises_checks request).of_error e hchecks
      · refine iff_of_true ⟨fun deps s => ?_, fun _ => ?_⟩ ⟨message, rfl⟩
        · exact ⟨_, s, respond_of_refusal hchecks⟩
        · exact ⟨_, rfl, fun deps s => respond_of_refusal hchecks⟩
      · -- the wrapper has no clause for it, whatever the engine and the store
        refine iff_of_false (fun handled => ?_) (not_isRefusal_py p)
        obtain ⟨response, s', hanswer⟩ := handled.answered
          { repo := .postgres, env := Env.numbered 0 0, faults := Faults.none } {}
        rw [respond_of_escape hchecks] at hanswer
        exact absurd hanswer (by simp)

/-- An empty body, and `{"actor": 5}`. -/
theorem unreadable_unanswered :
    ¬ (initiate (.malformed "Expecting value: line 1 column 1 (char 0)") none).Handled ∧
    ¬ (initiate (.object { actor := .other "int" }) none).Handled := by
  have hempty : (initiate (.malformed "Expecting value: line 1 column 1 (char 0)") none).checks =
      .error (.py (.other "JSONDecodeError" "Expecting value: line 1 column 1 (char 0)")) := rfl
  have hactor : (initiate (.object { actor := .other "int" }) none).checks =
      .error (noStrip "int") := rfl
  let deps : ApiDependencies :=
    { repo := .postgres, env := Env.numbered 0 0, faults := Faults.none }
  refine ⟨fun handled => ?_, fun handled => ?_⟩
  · obtain ⟨response, s', hanswer⟩ := handled.answered deps {}
    rw [respond_of_escape hempty] at hanswer
    exact absurd hanswer (by simp)
  · obtain ⟨response, s', hanswer⟩ := handled.answered deps {}
    rw [respond_of_escape hactor] at hanswer
    exact absurd hanswer (by simp)

end MutatingRequest

end CartoonDemo
