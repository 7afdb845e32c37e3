import CartoonDemo.Api.Routes
import CartoonDemo.Library.Log
import CartoonDemo.System.TerminalStates

/-!
# CartoonDemo.Api.ClientKeys

**Client idempotency keys.** The routes read a key from the `idempotency-key` header (and,
for approvals, from the body), check its form and pass it on. `handle_initiate_workflow`
only logs it, and `apply_approval_action` does not look at it. What keeps a retried request
from acting twice is the state of the workflow alone: an identifier that is taken, or a
workflow that no longer waits.

A run is a sequence of requests and of steps of the rest of the system. The workflows
that the requests with one key create, and the approval transitions they cause, are what
they log; `run_keys_deduplicate_iff` says for which runs each log has at most one entry.
-/

namespace CartoonDemo

open RequestValidator WorkflowEngine TransitionExecutor ApiDependencies

/-! ### Requests without faults

Where no repository and no telemetry raises, a request does to the store what the engine does.
-/

namespace ApiDependencies

/-- The dependencies of a request during which nothing comes up. -/
def quiet (repo : WorkflowRepoKind) (env : Env) : ApiDependencies :=
  { repo := repo, env := env, faults := Faults.none }

/-- A route around an atomic operation commits what the operation does. -/
theorem wrap_store_of_perform {α β : Type} {route : EStateM RouteException Store β}
    {call : EStateM RouteException Store α} {f : α → β} {workflowId : Option String}
    {status : Nat} {content : β → ResponseContent} {op : Store → Except PyException (α × Store)}
    {s : Store} (hroute : route s = (engineCall workflowId call >>= fun r => pure (f r)) s)
    (hcall : call s = perform (fun s => raisingPy (op s)) s) :
    (wrapMutating (routeWrapper status content route) s).2 = commit s (op s) := by
  cases hop : op s with
  | ok p =>
      have hperform : call s = .ok p.1 p.2 :=
        hcall.trans (perform_ok (by rw [hop]; rfl))
      rw [wrap_of_ok (hroute.trans (engineCall_ok hperform))]
      rfl
  | error e =>
      have hperform : call s = .error (.py e) s :=
        hcall.trans (perform_error (by rw [hop]; rfl))
      obtain ⟨code, envelope, -, hend⟩ := engineCall_error hperform
      rw [wrap_of_http (hroute.trans hend)]
      rfl

theorem serve_initiate_store (repo : WorkflowRepoKind) (env : Env) {fields : InitiateBody}
    {header idem : Option String} {v : InitiateWorkflowApiRequest}
    (hv : validateInitiateFields fields = .ok v) (hi : validateIdempotencyHeader header = .ok idem)
    (ht : traceable (v.workflowId.getD env.workflowId)) (s : Store) :
    ((quiet repo env).serve (.initiate (.object fields) header) s).2 =
      commit s (initiateWorkflow repo env (mapToInitiateRequest v) s) := by
  have hroute := @initiateRoute_of_valid (quiet repo env) s fields header idem v hv hi
  have htraceable : ∀ workflowId, allocate env (mapToInitiateRequest v) = .ok workflowId →
      traceable workflowId := by
    intro workflowId ha
    obtain rfl := Except.ok.inj ((allocate_of_validated env hv).symm.trans ha)
    exact ht
  have hcall := initiateCall_quiet repo env (mapToInitiateRequest v) htraceable s
  unfold serve
  dsimp only
  rw [wrap_store_of_perform hroute hcall]

/-- An id that the tracer refuses is refused before anything is written. -/
theorem serve_initiate_untraceable (repo : WorkflowRepoKind) (env : Env) {fields : InitiateBody}
    {header idem : Option String} {v : InitiateWorkflowApiRequest}
    (hv : validateInitiateFields fields = .ok v) (hi : validateIdempotencyHeader header = .ok idem)
    (ht : traceable (v.workflowId.getD env.workflowId) = false) (s : Store) :
    ((quiet repo env).serve (.initiate (.object fields) header) s).2 = s := by
  have hroute := @initiateRoute_of_valid (quiet repo env) s fields header idem v hv hi
  obtain ⟨e, hcall⟩ : ∃ e, initiateCall repo env Faults.none (mapToInitiateRequest v) s =
      .error e s := by
    refine initiateCall_refused (Or.inr fun workflowId ha => Or.inr ?_)
    obtain rfl := Except.ok.inj ((allocate_of_validated env hv).symm.trans ha)
    exact ht
  obtain ⟨code, envelope, -, hend⟩ := engineCall_error hcall
  exact congrArg Prod.snd (wrap_of_http (hroute.trans hend))

theorem serve_approval_store (repo : WorkflowRepoKind) (env : Env) {fields : ApprovalBody}
    {raw wfId : String} {header : Option String} {v : SubmitApprovalApiRequest}
    (hv : validateApprovalFields fields header = .ok v) (hw : validateWorkflowId raw = .ok wfId)
    (ht : traceable wfId) (s : Store) :
    ((quiet repo env).serve (.approval raw (.object fields) header) s).2 =
      commit s (applyApprovalAction repo env wfId v.action v.actor s) := by
  have hroute := @approvalRoute_of_valid (quiet repo env) s fields raw wfId header v hv hw
    (startRouteSpan_ok_iff.mpr ht)
  have hcall := approvalCall_quiet repo env wfId v.action v.actor v.idempotencyKey s
  unfold serve
  dsimp only
  rw [wrap_store_of_perform hroute hcall]

end ApiDependencies

/-! ### Runs with clients

A run of the whole system in which some steps are requests of clients. Each of them is an action of
the system as well.
-/

/-- A request of a client, or a step of the rest of the system. -/
inductive ClientAction
  | request (env : Env) (r : MutatingRequest)
  | system (a : Action)

/-- One step of a system with clients; the identifiers a request draws are fresh. -/
def Sys.clientStep (repo : WorkflowRepoKind) (cfg : AppConfig) (sc : ReconciliationScanner)
    (a : ClientAction) (σ : Sys) : Sys :=
  match a with
  | .request env r =>
      if σ.store.freshDispatch env then
        { σ with store := ((ApiDependencies.quiet repo env).serve r σ.store).2 }
      else σ
  | .system a => Sys.step repo cfg sc a σ

/-- The engine operation that a request comes down to, when it is valid and the tracer accepts
its id. -/
def ClientAction.toAction : ClientAction → Option Action
  | .request env (.initiate (.object fields) header) =>
      match validateInitiateFields fields, validateIdempotencyHeader header with
      | .ok v, .ok _ =>
          if traceable (v.workflowId.getD env.workflowId) then
            some (.initiate env (mapToInitiateRequest v))
          else none
      | _, _ => none
  | .request env (.approval raw (.object fields) header) =>
      match validateApprovalFields fields header, validateWorkflowId raw with
      | .ok v, .ok wfId => if traceable wfId then some (.approve env wfId v.action v.actor) else none
      | _, _ => none
  | .request _ _ => none
  | .system a => some a

/-- **A system with clients is the system of `System.Model`**: a valid request is one of its
engine calls and an invalid one changes nothing. -/
theorem clientStep_eq (repo : WorkflowRepoKind) (cfg : AppConfig) (sc : ReconciliationScanner)
    (a : ClientAction) (σ : Sys) :
    Sys.clientStep repo cfg sc a σ =
      a.toAction.elim σ (fun b => Sys.step repo cfg sc b σ) := by
  have hsame : ∀ {b : Bool} {s : Store}, s = σ.store →
      (if b = true then { σ with store := s } else σ) = σ := by
    intro b s hs
    rw [hs]
    exact ite_self σ
  cases a with
  | system b => rfl
  | request env r =>
      cases r with
      | initiate body header =>
          by_cases hvalid : ∃ fields v idem, body = .object fields ∧
              validateInitiateFields fields = .ok v ∧ validateIdempotencyHeader header = .ok idem
          · obtain ⟨fields, v, idem, rfl, hv, hi⟩ := hvalid
            by_cases ht : traceable (v.workflowId.getD env.workflowId)
            · simp only [Sys.clientStep, serve_initiate_store repo env hv hi ht,
                ClientAction.toAction, hv, hi, if_pos ht]
              rfl
            · simp only [ClientAction.toAction, hv, hi, if_neg ht]
              exact hsame (serve_initiate_untraceable repo env hv hi (Bool.eq_false_iff.mpr ht) _)
          · obtain ⟨e, hrun⟩ : ∃ e, (quiet repo env).initiateRoute body header σ.store =
                .error e σ.store :=
              initiateRoute_of_invalid
                (fun fields v idem hb hv hi => hvalid ⟨fields, v, idem, hb, hv, hi⟩)
            have hnone : (ClientAction.request env (.initiate body header)).toAction = none := by
              cases body with
              | malformed message => rfl
              | nonObject => rfl
              | object fields =>
                  simp only [ClientAction.toAction]
                  split
                  · next v idem hv hi => exact absurd ⟨fields, v, idem, rfl, hv, hi⟩ hvalid
                  · rfl
            rw [hnone]
            exact hsame (wrap_of_untouched hrun)
      | approval raw body header =>
          by_cases hvalid : ∃ fields v wfId, body = .object fields ∧
              validateApprovalFields fields header = .ok v ∧ validateWorkflowId raw = .ok wfId ∧
              traceable wfId
          · obtain ⟨fields, v, wfId, rfl, hv, hw, ht⟩ := hvalid
            simp only [Sys.clientStep, serve_approval_store repo env hv hw ht, ClientAction.toAction,
              hv, hw, if_pos ht]
            rfl
          · obtain ⟨e, hrun⟩ : ∃ e, (quiet repo env).approvalRoute raw body header σ.store =
                .error e σ.store :=
              approvalRoute_of_invalid
                (fun fields v wfId hb hv hw => Bool.eq_false_iff.mpr fun ht =>
                  hvalid ⟨fields, v, wfId, hb, hv, hw, ht⟩)
            have hnone :
                (ClientAction.request env (.approval raw body header)).toAction = none := by
              cases body with
              | malformed message => rfl
              | nonObject => rfl
              | object fields =>
                  simp only [ClientAction.toAction]
                  split
                  · next v wfId hv hw =>
                    exact if_neg fun ht => hvalid ⟨fields, v, wfId, rfl, hv, hw, ht⟩
                  · rfl
            rw [hnone]
            exact hsame (wrap_of_untouched hrun)

/-! ### What requests with a key do

The requests that have written something, and when two of them carry one key.
-/

/-- The workflows of `s'` that `s` does not have. -/
def newWorkflows (s s' : Store) : List String :=
  (s'.workflows.rows.map WorkflowRecord.workflowId).filter
    (fun id => (s.workflows.get? id).isNone)

/-- The history records of a workflow in `s'` beyond those in `s`. -/
def newTransitions (workflowId : String) (s s' : Store) : List WorkflowTransitionRecord :=
  (s'.history workflowId).drop (s.history workflowId).length

section Logs

variable (repo : WorkflowRepoKind) (cfg : AppConfig) (sc : ReconciliationScanner)

/-- The workflows created by a `POST /workflows` that carries the key. -/
def createdBy (k : String) (σ : Sys) (a : ClientAction) : List String :=
  match a with
  | .request _ (.initiate _ header) =>
      if validateIdempotencyHeader header = .ok (some k) then
        newWorkflows σ.store (Sys.clientStep repo cfg sc a σ).store
      else []
  | _ => []

/-- The transitions caused by an approval request on a workflow that carries the key. -/
def approvedBy (k workflowId : String) (σ : Sys) (a : ClientAction) :
    List WorkflowTransitionRecord :=
  match a with
  | .request _ (.approval raw (.object fields) header) =>
      match validateApprovalFields fields header with
      | .ok v =>
          if v.idempotencyKey = some k ∧ validateWorkflowId raw = .ok workflowId then
            newTransitions workflowId σ.store (Sys.clientStep repo cfg sc a σ).store
          else []
      | .error _ => []
  | _ => []

end Logs

/-- The identifier that a valid `POST /workflows` with the key asks for: its own, or the one
drawn for it, if the tracer accepts it. -/
def ClientAction.initiation? (k : String) (s : Store) : ClientAction → Option String
  | .request env (.initiate (.object fields) header) =>
      match validateInitiateFields fields with
      | .ok v =>
          if validateIdempotencyHeader header = .ok (some k) ∧ s.freshDispatch env ∧
              traceable (v.workflowId.getD env.workflowId) then
            some (v.workflowId.getD env.workflowId)
          else none
      | .error _ => none
  | _ => none

/-- The action that a valid approval request with the key asks for. -/
def ClientAction.approval? (k workflowId : String) (s : Store) :
    ClientAction → Option ApprovalAction
  | .request env (.approval raw (.object fields) header) =>
      match validateApprovalFields fields header with
      | .ok v =>
          if v.idempotencyKey = some k ∧ validateWorkflowId raw = .ok workflowId ∧
              s.freshDispatch env ∧ traceable workflowId then
            some v.action
          else none
      | .error _ => none
  | _ => none

/-- The workflow waits for its approval. -/
def Store.awaits (s : Store) (workflowId : String) : Bool :=
  (s.workflows.get? workflowId).any (fun w => w.state = .awaitingHumanApproval)

section Effects

variable {repo : WorkflowRepoKind} {cfg : AppConfig} {sc : ReconciliationScanner} {k : String}
  {workflowId : String} {σ : Sys} {a : ClientAction}

theorem newWorkflows_self (s : Store) : newWorkflows s s = [] := by
  unfold newWorkflows
  rw [List.filter_eq_nil_iff]
  intro id hid
  obtain ⟨w, hw, rfl⟩ := List.mem_map.mp hid
  simp [Table.get?_of_mem hw]

/-- A row under a free identifier is the one new workflow. -/
theorem newWorkflows_upsert {s s' : Store} {row : WorkflowRecord}
    (hfree : s.workflows.get? row.workflowId = none)
    (hwf : s'.workflows = s.workflows.upsert row) : newWorkflows s s' = [row.workflowId] := by
  have hself := newWorkflows_self s
  unfold newWorkflows at hself ⊢
  rw [hwf, Table.rows_upsert_of_get?_none hfree, List.map_append, List.filter_append, hself]
  simp [hfree]

theorem newTransitions_self (workflowId : String) (s : Store) :
    newTransitions workflowId s s = [] := by
  unfold newTransitions
  exact List.drop_length

theorem newTransitions_written (env : Env) (row : WorkflowRecord) (tr : WorkflowTransitionRecord)
    (o : Option OutboxBuildResult) (s : Store) :
    newTransitions tr.workflowId s (written env row tr o s) = [tr] := by
  unfold newTransitions
  rw [written_history, if_pos rfl, List.drop_left]

/-- A valid initiation is a call of `initiate_workflow`. -/
theorem clientStep_of_initiation {id : String} (h : a.initiation? k σ.store = some id) :
    ∃ env request, allocate env request = .ok id ∧
      (Sys.clientStep repo cfg sc a σ).store =
        commit σ.store (initiateWorkflow repo env request σ.store) ∧
      createdBy repo cfg sc k σ a =
        newWorkflows σ.store (Sys.clientStep repo cfg sc a σ).store := by
  unfold ClientAction.initiation? at h
  split at h
  · next env fields header =>
    split at h
    · next v hv =>
      split at h
      · next hif =>
        obtain ⟨hkey, hfresh, ht⟩ := hif
        obtain rfl := Option.some.inj h
        refine ⟨env, mapToInitiateRequest v, allocate_of_validated env hv, ?_, ?_⟩
        · simp only [Sys.clientStep, if_pos hfresh, serve_initiate_store repo env hv hkey ht]
        · simp only [createdBy, if_pos hkey]
      · exact absurd h (by simp)
    · exact absurd h (by simp)
  · exact absurd h (by simp)

/-- A request whose identifier is free creates that workflow. -/
theorem createdBy_of_free {id : String} (h : a.initiation? k σ.store = some id)
    (hfree : σ.store.workflows.get? id = none) :
    createdBy repo cfg sc k σ a = [id] ∧
      (Sys.clientStep repo cfg sc a σ).store.workflows.get? id ≠ none := by
  obtain ⟨env, request, ha, hstep, hlog⟩ := @clientStep_of_initiation repo cfg sc k σ a id h
  obtain ⟨res, hfin⟩ := finishInitiate_of_get_none repo env request.actor hfree
  have hop : initiateWorkflow repo env request σ.store =
      .ok (res, initiatedStore env id request.actor σ.store) := by
    unfold initiateWorkflow
    rw [ha]
    show (validateNoDuplicate id σ.store >>= _) = _
    rw [validateNoDuplicate_of_none hfree]
    exact hfin
  have hwf : (Sys.clientStep repo cfg sc a σ).store.workflows =
      σ.store.workflows.upsert (initiatedRow env id) := by
    rw [hstep, hop]
    simp [initiatedStore]
  have hid : (initiatedRow env id).workflowId = id := rfl
  refine ⟨?_, ?_⟩
  · rw [hlog, @newWorkflows_upsert _ _ (initiatedRow env id) hfree hwf, hid]
  · rw [hwf, Table.get?_upsert, if_pos hid]
    simp

/-- Every other request creates nothing. -/
theorem createdBy_eq_nil
    (h : ∀ id, a.initiation? k σ.store = some id → σ.store.workflows.get? id ≠ none) :
    createdBy repo cfg sc k σ a = [] := by
  cases hi : a.initiation? k σ.store with
  | some id =>
      obtain ⟨env, request, ha, hstep, hlog⟩ := @clientStep_of_initiation repo cfg sc k σ a id hi
      rw [hlog, hstep]
      rcases commit_cases σ.store (initiateWorkflow repo env request σ.store) with he | ⟨res, he⟩
      · rw [he, newWorkflows_self]
      · -- it would have found the identifier free
        obtain ⟨id', ha', hfree, -⟩ := initiateWorkflow_ok he
        obtain rfl := Except.ok.inj (ha.symm.trans ha')
        exact absurd hfree (h id hi)
  | none =>
      unfold createdBy
      split
      · next env body header =>
        split
        · next hkey =>
          have hsame : (Sys.clientStep repo cfg sc (.request env (.initiate body header)) σ).store
              = σ.store := by
            by_cases hfresh : σ.store.freshDispatch env = true
            · -- the body is invalid, or the tracer refuses the id
              rw [clientStep_eq]
              cases body with
              | malformed message => rfl
              | nonObject => rfl
              | object fields =>
                  cases hv : validateInitiateFields fields with
                  | error e => simp only [ClientAction.toAction, hv]; rfl
                  | ok v =>
                      have ht : ¬ traceable (v.workflowId.getD env.workflowId) := by
                        intro ht
                        simp [ClientAction.initiation?, hv, hkey, hfresh, ht] at hi
                      simp only [ClientAction.toAction, hv, hkey, if_neg ht]
                      rfl
            · rw [Sys.clientStep, if_neg hfresh]
          rw [hsame, newWorkflows_self]
        · rfl
      · rfl

/-- A valid approval request is a call of `apply_approval_action`. -/
theorem clientStep_of_approval {action : ApprovalAction}
    (h : a.approval? k workflowId σ.store = some action) :
    ∃ env actor, (Sys.clientStep repo cfg sc a σ).store =
        commit σ.store (applyApprovalAction repo env workflowId action actor σ.store) ∧
      approvedBy repo cfg sc k workflowId σ a =
        newTransitions workflowId σ.store (Sys.clientStep repo cfg sc a σ).store := by
  unfold ClientAction.approval? at h
  split at h
  · next env raw fields header =>
    split at h
    · next v hv =>
      split at h
      · next hif =>
        obtain ⟨hkey, hid, hfresh, ht⟩ := hif
        obtain rfl := Option.some.inj h
        refine ⟨env, v.actor, ?_, ?_⟩
        · simp only [Sys.clientStep, if_pos hfresh, serve_approval_store repo env hv hid ht]
        · simp only [approvedBy, hv, if_pos (And.intro hkey hid)]
      · exact absurd h (by simp)
    · exact absurd h (by simp)
  · exact absurd h (by simp)

/-- An approval of a workflow that waits for one is applied. -/
theorem applyApprovalAction_of_awaits {env : Env} {action : ApprovalAction}
    {actor : Option String} {s : Store} (hawaits : s.awaits workflowId = true) :
    ∃ res s', applyApprovalAction repo env workflowId action actor s = .ok (res, s') := by
  obtain ⟨w, hg, hs⟩ := Option.any_eq_true _ _ |>.mp hawaits
  obtain ⟨r, s', hcall⟩ : ∃ r s', approvalCall repo env Faults.none workflowId action actor none s
      = .ok r s' := approvalCall_ok rfl hg (by simpa using hs) (fun _ _ => rfl)
  rw [approvalCall_quiet] at hcall
  cases hop : applyApprovalAction repo env workflowId action actor s with
  | ok p => exact ⟨p.1, p.2, rfl⟩
  | error e =>
      rw [perform_error (by rw [hop]; rfl)] at hcall
      exact absurd hcall (by simp)

/-- A request on a workflow that waits causes one transition and moves the workflow. -/
theorem approvedBy_of_awaits {action : ApprovalAction}
    (h : a.approval? k workflowId σ.store = some action)
    (hawaits : σ.store.awaits workflowId = true) :
    (∃ tr, approvedBy repo cfg sc k workflowId σ a = [tr]) ∧
      ∃ row, (Sys.clientStep repo cfg sc a σ).store.workflows.get? workflowId = some row ∧
        row.state = (approvalMatrix action).toState := by
  obtain ⟨env, actor, hstep, hlog⟩ :=
    @clientStep_of_approval repo cfg sc k workflowId σ a action h
  obtain ⟨res, s', hop⟩ := @applyApprovalAction_of_awaits repo workflowId env action actor σ.store
    hawaits
  obtain ⟨w, hg, -, rfl⟩ := applyApprovalAction_ok hop
  have hid : w.workflowId = workflowId := Table.key_of_get? hg
  rw [hop, commit_ok] at hstep
  let tr := buildTransition env workflowId w.state (approvalMatrix action).toState
    ("approval_" ++ action.value) actor
  refine ⟨⟨tr, ?_⟩, updatedRow w env.updatedAt (approvalMatrix action).toState none none, ?_, rfl⟩
  · rw [hlog, hstep]
    exact newTransitions_written env _ tr _ σ.store
  · rw [hstep, written_workflows, Table.get?_upsert]
    exact if_pos hid

/-- Every other request causes nothing. -/
theorem approvedBy_eq_nil
    (h : ∀ action, a.approval? k workflowId σ.store = some action →
      σ.store.awaits workflowId = false) :
    approvedBy repo cfg sc k workflowId σ a = [] := by
  cases ha : a.approval? k workflowId σ.store with
  | some action =>
      obtain ⟨env, actor, hstep, hlog⟩ :=
        @clientStep_of_approval repo cfg sc k workflowId σ a action ha
      rw [hlog, hstep]
      rcases commit_cases σ.store
        (applyApprovalAction repo env workflowId action actor σ.store) with he | ⟨res, he⟩
      · rw [he, newTransitions_self]
      · obtain ⟨w, hg, hs, -⟩ := applyApprovalAction_ok he
        have hawaits : σ.store.awaits workflowId = true := by
          unfold Store.awaits
          rw [hg]
          simp [hs]
        exact absurd (h action ha) (by simp [hawaits])
  | none =>
      unfold approvedBy
      split
      · next env raw fields header =>
        split
        · next v hv =>
          split
          · next hcarries =>
            have hsame : (Sys.clientStep repo cfg sc
                (.request env (.approval raw (.object fields) header)) σ).store = σ.store := by
              by_cases hfresh : σ.store.freshDispatch env = true
              · -- the tracer refuses the id
                have ht : ¬ traceable workflowId := by
                  intro ht
                  simp [ClientAction.approval?, hv, hcarries.1, hcarries.2, hfresh, ht] at ha
                rw [clientStep_eq]
                simp only [ClientAction.toAction, hv, hcarries.2, if_neg ht]
                rfl
              · rw [Sys.clientStep, if_neg hfresh]
            rw [hsame, newTransitions_self]
          · rfl
        · rfl
      · rfl

theorem createdBy_length (repo : WorkflowRepoKind) (cfg : AppConfig) (sc : ReconciliationScanner)
    (k : String) (σ : Sys) (a : ClientAction) : (createdBy repo cfg sc k σ a).length ≤ 1 := by
  by_cases h : ∃ id, a.initiation? k σ.store = some id ∧ σ.store.workflows.get? id = none
  · obtain ⟨id, hi, hfree⟩ := h
    rw [(createdBy_of_free hi hfree).1]
    rfl
  · rw [createdBy_eq_nil (fun id hi hfree => h ⟨id, hi, hfree⟩)]
    exact Nat.zero_le 1

theorem approvedBy_length (repo : WorkflowRepoKind) (cfg : AppConfig)
    (sc : ReconciliationScanner) (k workflowId : String) (σ : Sys) (a : ClientAction) :
    (approvedBy repo cfg sc k workflowId σ a).length ≤ 1 := by
  by_cases h : ∃ action, a.approval? k workflowId σ.store = some action ∧
      σ.store.awaits workflowId = true
  · obtain ⟨action, ha, hawaits⟩ := h
    obtain ⟨⟨tr, htr⟩, -⟩ := @approvedBy_of_awaits repo cfg sc _ _ _ _ _ ha hawaits
    rw [htr]
    rfl
  · have hnil : approvedBy repo cfg sc k workflowId σ a = [] := by
      refine approvedBy_eq_nil (fun action ha => ?_)
      rw [Bool.eq_false_iff]
      exact fun hawaits => h ⟨action, ha, hawaits⟩
    rw [hnil]
    exact Nat.zero_le 1

end Effects

/-! ### Every run -/

section Runs

variable {repo : WorkflowRepoKind} {cfg : AppConfig} {sc : ReconciliationScanner} {σ : Sys}

theorem SysSound.clientStep (h : SysSound σ) (a : ClientAction) :
    SysSound (Sys.clientStep repo cfg sc a σ) := by
  rw [clientStep_eq]
  cases a.toAction with
  | none => exact h
  | some b => exact h.step b

/-- A workflow row stays, and one that has ended stays as it is. -/
theorem row_steps {origin : Origin} {s s' : Store} {id : String} {w : WorkflowRecord}
    (hsteps : Relation.ReflTransGen (StoreStep cfg origin) s s')
    (hw : s.workflows.get? id = some w) :
    ∃ w', s'.workflows.get? id = some w' ∧ (w.state.isTerminal = true → w' = w) := by
  induction hsteps with
  | refl => exact ⟨w, hw, fun _ => rfl⟩
  | tail _ hstep ih =>
      obtain ⟨w₁, hw₁, hsame⟩ := ih
      rcases hstep.row hw₁ with ⟨hkept, -⟩ | ⟨hlive, row, hrow, -⟩
      · exact ⟨w₁, hkept, hsame⟩
      · refine ⟨row, hrow, fun ht => ?_⟩
        obtain rfl := hsame ht
        exact absurd (hlive.symm.trans ht) (by simp)

theorem clientStep_row (h : SysSound σ) (a : ClientAction) {id : String} {w : WorkflowRecord}
    (hw : σ.store.workflows.get? id = some w) :
    ∃ w', (Sys.clientStep repo cfg sc a σ).store.workflows.get? id = some w' ∧
      (w.state.isTerminal = true → w' = w) := by
  rw [clientStep_eq]
  cases a.toAction with
  | none => exact ⟨w, hw, fun _ => rfl⟩
  | some b => exact row_steps (step_store repo cfg sc h b) hw

/-- Two requests with the key create two workflows: the first found its identifier free, and
the second names another one that is free. -/
def InitiateRetry (k : String) (σ : Sys) (a : ClientAction) (σ' : Sys) (b : ClientAction) :
    Prop :=
  ∃ id id', a.initiation? k σ.store = some id ∧ σ.store.workflows.get? id = none ∧
    b.initiation? k σ'.store = some id' ∧ id' ≠ id ∧ σ'.store.workflows.get? id' = none

/-- Two requests with the key approve twice: the first asked a waiting workflow to be
regenerated, and the second finds it waiting again. -/
def RegenerationRetry (k workflowId : String) (σ : Sys) (a : ClientAction) (σ' : Sys)
    (b : ClientAction) : Prop :=
  a.approval? k workflowId σ.store = some .requestRegeneration ∧
    σ.store.awaits workflowId = true ∧ (b.approval? k workflowId σ'.store).isSome = true ∧
    σ'.store.awaits workflowId = true

theorem created_pairs_iff (k : String) {as : List ClientAction} (hs : SysSound σ) :
    PairsAlong (Sys.clientStep repo cfg sc)
      (fun σ a σ' b => createdBy repo cfg sc k σ a = [] ∨ createdBy repo cfg sc k σ' b = []) σ as ↔
    PairsAlong (Sys.clientStep repo cfg sc)
      (fun σ a σ' b => ¬ InitiateRetry k σ a σ' b) σ as := by
  refine pairsAlong_congr (motive := SysSound)
    (fun σ a σ' => ∀ id, a.initiation? k σ.store = some id →
      σ.store.workflows.get? id = none → σ'.store.workflows.get? id ≠ none)
    (fun _ a h => h.clientStep a) ?_ ?_ ?_ hs
  · intro σ a _ id hi hfree
    exact (createdBy_of_free hi hfree).2
  · intro σ a σ' b hs' hlater id hi hfree
    obtain ⟨w, hw⟩ := Option.ne_none_iff_exists'.mp (hlater id hi hfree)
    obtain ⟨w', hw', -⟩ := clientStep_row hs' b hw
    rw [hw']
    simp
  · intro σ a σ' b _ hlater
    constructor
    · rintro hlog ⟨id, id', hi, hfree, hi', -, hfree'⟩
      rcases hlog with hlog | hlog
      · rw [(createdBy_of_free hi hfree).1] at hlog
        exact absurd hlog (by simp)
      · rw [(createdBy_of_free hi' hfree').1] at hlog
        exact absurd hlog (by simp)
    · intro hno
      by_cases hfirst : ∃ id, a.initiation? k σ.store = some id ∧
          σ.store.workflows.get? id = none
      · obtain ⟨id, hi, hfree⟩ := hfirst
        refine Or.inr (createdBy_eq_nil (fun id' hi' hfree' => ?_))
        refine hno ⟨id, id', hi, hfree, hi', ?_, hfree'⟩
        -- the first workflow is still there
        rintro rfl
        exact hlater id' hi hfree hfree'
      · exact Or.inl (createdBy_eq_nil (fun id hi hfree => hfirst ⟨id, hi, hfree⟩))

theorem approved_pairs_iff (k workflowId : String) {as : List ClientAction} (hs : SysSound σ) :
    PairsAlong (Sys.clientStep repo cfg sc)
      (fun σ a σ' b => approvedBy repo cfg sc k workflowId σ a = [] ∨
        approvedBy repo cfg sc k workflowId σ' b = []) σ as ↔
    PairsAlong (Sys.clientStep repo cfg sc)
      (fun σ a σ' b => ¬ RegenerationRetry k workflowId σ a σ' b) σ as := by
  -- an approval or a rejection has ended the workflow
  refine pairsAlong_congr (motive := SysSound)
    (fun σ a σ' => ∀ action, a.approval? k workflowId σ.store = some action →
      σ.store.awaits workflowId = true → action ≠ .requestRegeneration →
      ∃ row, σ'.store.workflows.get? workflowId = some row ∧ row.state.isTerminal = true)
    (fun _ a h => h.clientStep a) ?_ ?_ ?_ hs
  · intro σ a _ action ha hawaits hne
    obtain ⟨-, row, hrow, hstate⟩ := @approvedBy_of_awaits repo cfg sc _ _ _ _ _ ha hawaits
    refine ⟨row, hrow, ?_⟩
    rw [hstate]
    cases action with
    | approve => rfl
    | reject => rfl
    | requestRegeneration => exact absurd rfl hne
  · intro σ a σ' b hs' hlater action ha hawaits hne
    obtain ⟨row, hrow, hterminal⟩ := hlater action ha hawaits hne
    obtain ⟨row', hrow', hsame⟩ := clientStep_row hs' b hrow
    exact ⟨row', hrow', by rw [hsame hterminal]; exact hterminal⟩
  · intro σ a σ' b _ hlater
    constructor
    · rintro hlog ⟨ha, hawaits, hb, hawaits'⟩
      obtain ⟨action, hb⟩ := Option.isSome_iff_exists.mp hb
      obtain ⟨⟨tr, htr⟩, -⟩ := @approvedBy_of_awaits repo cfg sc _ _ _ _ _ ha hawaits
      obtain ⟨⟨tr', htr'⟩, -⟩ := @approvedBy_of_awaits repo cfg sc _ _ _ _ _ hb hawaits'
      rw [htr, htr'] at hlog
      exact absurd hlog (by simp)
    · intro hno
      by_cases hfirst : ∃ action, a.approval? k workflowId σ.store = some action ∧
          σ.store.awaits workflowId = true
      · obtain ⟨action, ha, hawaits⟩ := hfirst
        refine Or.inr (approvedBy_eq_nil (fun action' hb => ?_))
        rw [Bool.eq_false_iff]
        intro hawaits'
        by_cases hregen : action = .requestRegeneration
        · rw [hregen] at ha
          exact hno ⟨ha, hawaits, by rw [hb]; rfl, hawaits'⟩
        · obtain ⟨row, hrow, hterminal⟩ := hlater action ha hawaits hregen
          unfold Store.awaits at hawaits'
          rw [hrow] at hawaits'
          have hstate : row.state = .awaitingHumanApproval := by simpa using hawaits'
          rw [hstate] at hterminal
          exact absurd hterminal (by decide)
      · refine Or.inl (approvedBy_eq_nil (fun action ha => ?_))
        rw [Bool.eq_false_iff]
        exact fun hawaits => hfirst ⟨action, ha, hawaits⟩

end Runs

/-- **When client keys deduplicate.** In a run of requests and system steps, the requests
with key `k` create at most one workflow and cause at most one approval transition of each
workflow exactly when no request with the key creates under a new identifier after another
has created, and none finds a workflow waiting again after another has had it
regenerated. -/
theorem run_keys_deduplicate_iff (repo : WorkflowRepoKind) (cfg : AppConfig)
    (sc : ReconciliationScanner) (as : List ClientAction) (k : String) :
    ((logged (Sys.clientStep repo cfg sc) (createdBy repo cfg sc k) {} as).length ≤ 1 ∧
      ∀ workflowId,
        (logged (Sys.clientStep repo cfg sc) (approvedBy repo cfg sc k workflowId) {} as).length
          ≤ 1) ↔
    (PairsAlong (Sys.clientStep repo cfg sc) (fun σ a σ' b => ¬ InitiateRetry k σ a σ' b) {} as ∧
      ∀ workflowId, PairsAlong (Sys.clientStep repo cfg sc)
        (fun σ a σ' b => ¬ RegenerationRetry k workflowId σ a σ' b) {} as) := by
  rw [logged_length_le_one_iff (createdBy_length repo cfg sc k), created_pairs_iff k sysSound_empty]
  have happroved : ∀ workflowId,
      (logged (Sys.clientStep repo cfg sc) (approvedBy repo cfg sc k workflowId) {} as).length ≤ 1
        ↔ PairsAlong (Sys.clientStep repo cfg sc)
          (fun σ a σ' b => ¬ RegenerationRetry k workflowId σ a σ' b) {} as := by
    intro workflowId
    rw [logged_length_le_one_iff (approvedBy_length repo cfg sc k workflowId),
      approved_pairs_iff k workflowId sysSound_empty]
  simp only [happroved]

/-- A client posts, misses the response and posts again with the same key. -/
def retriedPost : List ClientAction :=
  [.request (Env.numbered 0 1) (.initiate (.object {}) (some "retry-1")),
   .request (Env.numbered 1 2) (.initiate (.object {}) (some "retry-1"))]

theorem retriedPost_creates_two :
    ¬ ((logged (Sys.clientStep .postgres .prod {}) (createdBy .postgres .prod {} "retry-1") {}
        retriedPost).length ≤ 1 ∧
      ∀ workflowId, (logged (Sys.clientStep .postgres .prod {})
        (approvedBy .postgres .prod {} "retry-1" workflowId) {} retriedPost).length ≤ 1) := by
  intro h
  exact absurd h.1 (by decide +kernel)

end CartoonDemo
