import CartoonDemo.Api.Routes

/-!
# CartoonDemo.Api.ErrorRollback

**An error response and what it leaves behind.** The transaction of a mutating route is
opened outside `_route_wrapper`, which turns exceptions into responses. An exception of the
engine therefore never reaches the transaction: whatever the engine had written is
committed together with the error response.

`serve_error_leaves_store_iff` says when that does no harm: exactly when nothing comes up
after the first write of an accepted request.
-/

namespace CartoonDemo

open RequestValidator WorkflowEngine

/-- The points a request passes after its first write, or `none` when it is refused before
it writes: a body, header or path that does not validate, an identifier that the tracer refuses
or that is taken, a workflow that does not exist or does not wait for an approval. -/
def MutatingRequest.writePoints (env : Env) (s : Store) :
    MutatingRequest → Option (List EnginePoint)
  | .initiate (.object fields) header =>
      match validateInitiateFields fields, validateIdempotencyHeader header with
      | .ok v, .ok _ =>
          if (getWorkflow s (v.workflowId.getD env.workflowId)).isNone ∧
              traceable (v.workflowId.getD env.workflowId) then some initiatePoints
          else none
      | _, _ => none
  | .approval raw (.object fields) header =>
      match validateApprovalFields fields header, validateWorkflowId raw with
      | .ok v, .ok wfId =>
          if (getWorkflow s wfId).any (fun w => w.state = .awaitingHumanApproval) ∧
              traceable wfId then
            some (approvalPoints v.action)
          else none
      | _, _ => none
  | _ => none

namespace ApiDependencies

variable {deps : ApiDependencies} {s : Store}

/-- Nothing comes up between the first write of a request and its end. -/
def QuietAfterWrite (deps : ApiDependencies) (request : MutatingRequest) (s : Store) : Prop :=
  ∀ points, request.writePoints deps.env s = some points → deps.faults .entered = none →
    ∀ p ∈ points, deps.faults p = none

/-! ### The three ways a route ends

An exception that passes rolls back; an error response commits whatever was written before it.
-/

/-- A route raises before it writes, returns, or raises after it has written; the last
exactly when it is not `quiet`. -/
inductive RouteOutcome {α : Type} (route : EStateM RouteException Store α) (s : Store)
    (quiet : Prop) : Prop
  | refused (e : RouteException) (h : route s = .error e s) (hq : quiet)
  | done (a : α) (s' : Store) (h : route s = .ok a s') (hq : quiet)
  | torn (code : Nat) (envelope : ApiErrorEnvelope) (s' : Store) (hcode : 400 ≤ code)
      (h : route s = .error (.http code envelope) s') (hne : s' ≠ s) (hq : ¬ quiet)

/-- An error response leaves the store exactly when the route is quiet. -/
theorem RouteOutcome.leaves_iff {α : Type} {route : EStateM RouteException Store α}
    {quiet : Prop} {status : Nat} {content : α → ResponseContent} (hstatus : status < 400)
    (h : RouteOutcome route s quiet) :
    (∀ response s', wrapMutating (routeWrapper status content route) s = (.ok response, s') →
      400 ≤ response.statusCode → s' = s) ↔ quiet := by
  cases h with
  | refused e h hq =>
      refine iff_of_true (fun response s' hserve _ => ?_) hq
      rw [← wrap_of_untouched h, hserve]
  | done a s' h hq =>
      refine iff_of_true (fun response s'' hserve herror => ?_) hq
      rw [wrap_of_ok h] at hserve
      obtain ⟨hresponse, -⟩ := Prod.mk.inj hserve
      obtain rfl := Except.ok.inj hresponse
      exact absurd herror (by simpa using hstatus)
  | torn code envelope s' hcode h hne hq =>
      refine iff_of_false (fun hall => ?_) hq
      exact hne (hall _ s' (wrap_of_http h) hcode)

/-- A route that has come as far as the engine ends as the call does. -/
theorem RouteOutcome.of_call {α β : Type} {route : EStateM RouteException Store β}
    {call : EStateM RouteException Store α} {f : α → β} {workflowId : Option String}
    {request : MutatingRequest} {accepted : Prop} [Decidable accepted]
    {points : List EnginePoint}
    (hroute : route s = (engineCall workflowId call >>= fun r => pure (f r)) s)
    (hpoints : request.writePoints deps.env s = if accepted then some points else none)
    (hrefused : deps.faults .entered ≠ none ∨ ¬ accepted → ∃ e, call s = .error e s)
    (hok : deps.faults .entered = none → accepted → (∀ p ∈ points, deps.faults p = none) →
      ∃ r s', call s = .ok r s')
    (herror : deps.faults .entered = none → accepted → ∀ p ∈ points, deps.faults p ≠ none →
      ∃ e s', call s = .error e s' ∧ s' ≠ s) :
    RouteOutcome route s (deps.QuietAfterWrite request s) := by
  by_cases hrun : deps.faults .entered ≠ none ∨ ¬ accepted
  · obtain ⟨e, hcall⟩ := hrefused hrun
    obtain ⟨code, envelope, -, hend⟩ := engineCall_error hcall
    refine .refused _ (hroute.trans hend) ?_
    intro ps hps hentered
    have hnot : ¬ accepted := hrun.resolve_left (not_not.mpr hentered)
    rw [hpoints, if_neg hnot] at hps
    exact absurd hps (by simp)
  · obtain ⟨hentered, haccepted⟩ : deps.faults .entered = none ∧ accepted := by
      simpa only [not_or, not_not] using hrun
    rw [if_pos haccepted] at hpoints
    by_cases hq : ∀ p ∈ points, deps.faults p = none
    · obtain ⟨r, s', hcall⟩ := hok hentered haccepted hq
      refine .done _ _ (hroute.trans (engineCall_ok hcall)) ?_
      intro ps hps _
      obtain rfl := Option.some.inj (hpoints.symm.trans hps)
      exact hq
    · obtain ⟨p, hp, hf⟩ : ∃ p ∈ points, deps.faults p ≠ none := by
        simpa only [not_forall, exists_prop] using hq
      obtain ⟨e, s', hcall, hne⟩ := herror hentered haccepted p hp hf
      obtain ⟨code, envelope, hcode, hend⟩ := engineCall_error hcall
      refine .torn code envelope s' hcode (hroute.trans hend) hne ?_
      intro hquiet
      exact hf (hquiet points hpoints hentered p hp)

/-- How `POST /workflows` ends. -/
theorem initiateRoute_outcome (deps : ApiDependencies) (body : RequestBody InitiateBody)
    (header : Option String) (s : Store) :
    RouteOutcome (deps.initiateRoute body header) s
      (deps.QuietAfterWrite (.initiate body header) s) := by
  by_cases hvalid : ∃ fields v idem, body = .object fields ∧
      validateInitiateFields fields = .ok v ∧ validateIdempotencyHeader header = .ok idem
  · obtain ⟨fields, v, idem, rfl, hv, hi⟩ := hvalid
    let wfId := v.workflowId.getD deps.env.workflowId
    have ha := allocate_of_validated deps.env hv
    have hpoints : (MutatingRequest.initiate (.object fields) header).writePoints deps.env s =
        if s.workflows.get? wfId = none ∧ traceable wfId then some initiatePoints else none := by
      simp only [MutatingRequest.writePoints, hv, hi, Option.isNone_iff_eq_none]
      rfl
    refine .of_call (initiateRoute_of_valid hv hi) hpoints ?_ ?_ ?_
    · intro hrun
      refine initiateCall_refused (hrun.imp_right ?_)
      intro hnot id hid
      obtain rfl := Except.ok.inj (ha.symm.trans hid)
      exact (not_and_or.mp hnot).imp id Bool.eq_false_iff.mpr
    · intro he haccepted hq
      obtain ⟨r, hcall⟩ := initiateCall_ok he ha haccepted.1 haccepted.2 hq
      exact ⟨r, _, hcall⟩
    · intro he haccepted p hp hf
      obtain ⟨e, s', hcall, hget⟩ := initiateCall_error he ha haccepted.1 haccepted.2 hp hf
      refine ⟨e, s', hcall, ?_⟩
      rintro rfl
      exact hget haccepted.1
  · obtain ⟨e, hrun⟩ : ∃ e, deps.initiateRoute body header s = .error e s :=
      initiateRoute_of_invalid
        (fun fields v idem hb hv hi => hvalid ⟨fields, v, idem, hb, hv, hi⟩)
    refine .refused e hrun ?_
    intro points hp _
    cases body with
    | malformed message => exact absurd hp (by simp [MutatingRequest.writePoints])
    | nonObject => exact absurd hp (by simp [MutatingRequest.writePoints])
    | object fields =>
        simp only [MutatingRequest.writePoints] at hp
        split at hp
        · next v idem hv hi => exact absurd ⟨fields, v, idem, rfl, hv, hi⟩ hvalid
        · exact absurd hp (by simp)

/-- How the approval route ends. -/
theorem approvalRoute_outcome (deps : ApiDependencies) (raw : String)
    (body : RequestBody ApprovalBody) (header : Option String) (s : Store) :
    RouteOutcome (deps.approvalRoute raw body header) s
      (deps.QuietAfterWrite (.approval raw body header) s) := by
  by_cases hvalid : ∃ fields v wfId, body = .object fields ∧
      validateApprovalFields fields header = .ok v ∧ validateWorkflowId raw = .ok wfId ∧
      traceable wfId
  · obtain ⟨fields, v, wfId, rfl, hv, hw, ht⟩ := hvalid
    have hpoints : (MutatingRequest.approval raw (.object fields) header).writePoints deps.env s =
        if (s.workflows.get? wfId).any (fun w => w.state = .awaitingHumanApproval) then
          some (approvalPoints v.action) else none := by
      simp only [MutatingRequest.writePoints, hv, hw, ht, and_true]
      rfl
    refine .of_call (approvalRoute_of_valid hv hw (startRouteSpan_ok_iff.mpr ht)) hpoints ?_ ?_ ?_
    · intro hrun
      refine approvalCall_refused (hrun.imp_right ?_)
      intro hnot w hg hs
      exact hnot (by simp [hg, hs])
    · intro he hwaits hq
      obtain ⟨w, hg, hs⟩ := Option.any_eq_true _ _ |>.mp hwaits
      exact approvalCall_ok he hg (by simpa using hs) hq
    · intro he hwaits p hp hf
      obtain ⟨w, hg, hs⟩ := Option.any_eq_true _ _ |>.mp hwaits
      obtain ⟨e, s', hcall, hget⟩ := approvalCall_error he hg (by simpa using hs) hp hf
      refine ⟨e, s', hcall, ?_⟩
      rintro rfl
      -- the row has a new version
      have hrow := congrArg WorkflowRecord.stateVersion (Option.some.inj (hg.symm.trans hget))
      simp [updatedRow] at hrow
  · obtain ⟨e, hrun⟩ : ∃ e, deps.approvalRoute raw body header s = .error e s :=
      approvalRoute_of_invalid
        (fun fields v wfId hb hv hw => Bool.eq_false_iff.mpr fun ht =>
          hvalid ⟨fields, v, wfId, hb, hv, hw, ht⟩)
    refine .refused e hrun ?_
    intro points hp _
    cases body with
    | malformed message => exact absurd hp (by simp [MutatingRequest.writePoints])
    | nonObject => exact absurd hp (by simp [MutatingRequest.writePoints])
    | object fields =>
        simp only [MutatingRequest.writePoints] at hp
        split at hp
        · next v wfId hv hw =>
          split at hp
          · next haccepted => exact absurd ⟨fields, v, wfId, rfl, hv, hw, haccepted.2⟩ hvalid
          · exact absurd hp (by simp)
        · exact absurd hp (by simp)

/-! ### Error responses -/

/-- **An error response leaves the committed store as it was, for every request and every
point at which the engine call may raise, exactly when nothing comes up after the first
write of an accepted request.** -/
theorem serve_error_leaves_store_iff (deps : ApiDependencies) (request : MutatingRequest)
    (s : Store) :
    (∀ response s', deps.serve request s = (.ok response, s') → 400 ≤ response.statusCode →
      s' = s) ↔ deps.QuietAfterWrite request s := by
  cases request with
  | initiate body header =>
      exact (initiateRoute_outcome deps body header s).leaves_iff (by decide)
  | approval raw body header =>
      exact (approvalRoute_outcome deps raw body header s).leaves_iff (by decide)

/-- `emit_transition` raises after the last write of `initiate_workflow`. -/
def telemetryDown : ApiDependencies :=
  { repo := .postgres, env := Env.numbered 0 1,
    faults := Faults.only .outboxStored (.py (.other "RuntimeError" "exporter is gone")) }

/-- The client is told of an internal error, and the workflow that it asked for exists and
has been dispatched. -/
theorem telemetryDown_commits :
    ¬ ∀ response s', telemetryDown.serve (.initiate (.object {}) none) {} = (.ok response, s') →
      400 ≤ response.statusCode → s' = {} := by
  intro h
  have hresponse : (telemetryDown.serve (.initiate (.object {}) none) {}).1 =
      .ok { statusCode := 500,
            content := .error
              { errorClass := "API_INTERNAL", message := "An internal error occurred" } } := by
    decide +kernel
  have hstore := h _ _ (Prod.ext hresponse rfl) (by decide)
  exact absurd hstore (by decide +kernel)

end ApiDependencies

end CartoonDemo
