import CartoonDemo.Api.Telemetry
import CartoonDemo.Library.Interrupt
import CartoonDemo.Workflow.EngineSpec

/-!
# CartoonDemo.Api.EngineCall

`initiate_workflow` and `apply_approval_action` **write by write**. The engine modules treat
an operation as one step because its transaction is rolled back when it raises; a caller
that catches the exception inside the transaction sees the writes that came before. Here
the same operations are sequences of repository calls, with a point after each at which an
exception can come up.

Without such an exception they are the operations of `Workflow.Engine`
(`initiateCall_quiet`, `approvalCall_quiet`), for an id that the tracer accepts.
-/

namespace CartoonDemo

/-- The points of an engine call, named after what has been written. -/
inductive EnginePoint
  /-- Nothing yet. -/
  | entered
  /-- `create_workflow`. -/
  | created
  /-- `update_workflow_state`. -/
  | updated
  /-- `append_transition`. -/
  | appended
  /-- The first statement of `create_task`. -/
  | payloadStored
  /-- All of `create_task`. -/
  | taskStored
  /-- `OutboxRepo.insert`, the last write. -/
  | outboxStored
  deriving DecidableEq, Repr

/-- The exception raised at each point, if any. -/
abbrev Faults := EnginePoint → Option RouteException

/-- No exception anywhere. -/
def Faults.none : Faults := fun _ => Option.none

/-- One exception, at one point. -/
def Faults.only (p : EnginePoint) (e : RouteException) : Faults :=
  fun q => if q = p then some e else Option.none

namespace WorkflowEngine

open TransitionExecutor

/-- An operation of the other packages, with its exceptions as a route sees them. -/
def raisingPy {α : Type} (x : Except PyException α) : Except RouteException α :=
  x.mapError .py

/-! ### The executor

The calls of the repositories in their order, so that a fault leaves what was written before it.
-/

/-- The first statement of `create_task`. -/
def storePayload (o : OutboxBuildResult) (s : Store) : Store :=
  { s with
    payloads := s.payloads.upsert
      { refId := o.taskRecord.payloadReference.refId, payload := o.payload } }

/-- The second statement of `create_task`. -/
def storeTask (o : OutboxBuildResult) (s : Store) : Store :=
  { s with tasks := s.tasks.upsert o.taskRecord }

/-- The writes of a dispatch. -/
def dispatchWrites (env : Env) : Option OutboxBuildResult → List (EnginePoint × (Store → Store))
  | none => []
  | some o =>
      [(.payloadStored, storePayload o), (.taskStored, storeTask o),
       (.outboxStored, insertOutbox env.insertedAt env.outboxId o.outboxInsert)]

/-- The writes of an executor method after `update_workflow_state`. -/
def laterWrites (env : Env) (transition : WorkflowTransitionRecord)
    (outbox : Option OutboxBuildResult) : List (EnginePoint × (Store → Store)) :=
  (.appended, appendTransition transition) :: dispatchWrites env outbox

/-- `execute_initiate` and `execute_approval`, write by write. -/
def executorCall (repo : WorkflowRepoKind) (env : Env) (faults : Faults)
    (workflow : WorkflowRecord) (newState : WorkflowState)
    (transition : WorkflowTransitionRecord) (outbox : Option OutboxBuildResult) :
    EStateM RouteException Store WorkflowRecord := do
  let updated ← perform fun s =>
    raisingPy ((updateWorkflowState repo env.updatedAt workflow.workflowId
      workflow.stateVersion newState none none s).mapError (translate workflow.workflowId))
  point faults .updated
  writeAll faults (laterWrites env transition outbox)
  return updated

/-! ### The engine -/

/-- `initiate_workflow`, write by write. -/
def initiateCall (repo : WorkflowRepoKind) (env : Env) (faults : Faults)
    (request : InitiateWorkflowRequest) :
    EStateM RouteException Store InitiateWorkflowResult := do
  point faults .entered
  let workflowId ← check (raisingPy (allocate env request))
  let s ← get
  check (raisingPy (validateNoDuplicate workflowId s))
  check (raisingPy (emitInitiated workflowId))
  let workflow ← perform fun s => raisingPy (createWorkflow repo env.createdAt workflowId s)
  point faults .created
  let outbox := OutboxSpecBuilder.build env workflow .collect 1 1
  let transition :=
    buildTransition env workflowId .created .collecting "workflow_initiated" request.actor
  let updated ← executorCall repo env faults workflow .collecting transition (some outbox)
  return { workflowId := workflow.workflowId, state := .collecting,
           stateVersion := updated.stateVersion, transition := transition,
           enqueuedTask := outbox.taskSpec }

/-- `apply_approval_action`, write by write. The body of the method does not mention its
`idempotency_key`. -/
def approvalCall (repo : WorkflowRepoKind) (env : Env) (faults : Faults) (workflowId : String)
    (action : ApprovalAction) (actor _idempotencyKey : Option String) :
    EStateM RouteException Store ApprovalActionResult := do
  point faults .entered
  let s ← get
  match getWorkflow s workflowId with
  | none =>
      throw (.py (.workflowNotFound (workflowNotFoundMessage workflowId) workflowId))
  | some workflow =>
      let p ← check (raisingPy (prepareApproval env action actor workflow s))
      let updated ← executorCall repo env faults p.workflow p.decision.toState p.transition
        p.outbox
      return { workflowId := p.workflow.workflowId, action := p.decision.action,
               fromState := p.decision.fromState, toState := p.decision.toState,
               stateVersion := updated.stateVersion, transition := p.transition,
               enqueuedTask := p.outbox.map OutboxBuildResult.taskSpec }

/-! ### What the executor leaves

Without a fault it leaves what the operation of the store does, and with one a part of it.
-/

/-- The points an executor call passes. -/
def executorPoints (dispatches : Bool) : List EnginePoint :=
  .updated :: .appended :: if dispatches then [.payloadStored, .taskStored, .outboxStored] else []

theorem laterWrites_points (env : Env) (tr : WorkflowTransitionRecord)
    (o : Option OutboxBuildResult) :
    .updated :: (laterWrites env tr o).map Prod.fst = executorPoints o.isSome := by
  cases o <;> rfl

theorem afterWrites_laterWrites (env : Env) (tr : WorkflowTransitionRecord)
    (o : Option OutboxBuildResult) (s : Store) :
    afterWrites (laterWrites env tr o) s = dispatch env o (appendTransition tr s) := by
  cases o <;> rfl

/-- The later writes leave the workflow rows alone. -/
theorem laterWrites_workflows {env : Env} {tr : WorkflowTransitionRecord}
    {o : Option OutboxBuildResult} {w : EnginePoint × (Store → Store)}
    (hw : w ∈ laterWrites env tr o) (s : Store) : (w.2 s).workflows = s.workflows := by
  cases o with
  | none =>
      simp only [laterWrites, dispatchWrites, List.mem_singleton] at hw
      rw [hw]
      rfl
  | some o =>
      simp only [laterWrites, dispatchWrites, List.mem_cons, List.not_mem_nil, or_false] at hw
      rcases hw with rfl | rfl | rfl | rfl <;> rfl

section Executor

variable {repo : WorkflowRepoKind} {env : Env} {faults : Faults} {w : WorkflowRecord}
  {st : WorkflowState} {tr : WorkflowTransitionRecord} {o : Option OutboxBuildResult} {s : Store}

/-- The executor call after an update that was accepted. -/
theorem executorCall_of_get (hg : s.workflows.get? w.workflowId = some w) :
    executorCall repo env faults w st tr o s =
      (point faults .updated >>= fun _ => writeAll faults (laterWrites env tr o) >>= fun _ =>
        pure (updatedRow w env.updatedAt st none none))
        { s with workflows := s.workflows.upsert (updatedRow w env.updatedAt st none none) } := by
  unfold executorCall
  refine estate_bind_ok (perform_ok ?_)
  have hacc : Accepts repo none := fun _ => rfl
  rw [updateWorkflowState_of_get env.updatedAt st none hg hacc]
  rfl

/-- Nothing comes up: the call writes what `write` does. -/
theorem executorCall_ok (hg : s.workflows.get? w.workflowId = some w)
    (hq : ∀ p ∈ executorPoints o.isSome, faults p = none) :
    executorCall repo env faults w st tr o s =
      .ok (updatedRow w env.updatedAt st none none)
        (written env (updatedRow w env.updatedAt st none none) tr o s) := by
  rw [← laterWrites_points env tr o] at hq
  have hupdated : faults .updated = none := hq .updated (by simp)
  have hlater : ∀ p ∈ (laterWrites env tr o).map Prod.fst, faults p = none :=
    fun p hp => hq p (List.mem_cons_of_mem _ hp)
  rw [executorCall_of_get hg, estate_bind_ok (point_none hupdated _),
    estate_bind_ok (writeAll_ok hlater _), afterWrites_laterWrites]
  rfl

/-- Something comes up after the update: the call raises and the updated row stays. -/
theorem executorCall_error (hg : s.workflows.get? w.workflowId = some w) {p : EnginePoint}
    (hp : p ∈ executorPoints o.isSome) (hf : faults p ≠ none) :
    ∃ e s', executorCall repo env faults w st tr o s = .error e s' ∧
      s'.workflows = s.workflows.upsert (updatedRow w env.updatedAt st none none) := by
  rw [executorCall_of_get hg]
  cases hu : faults .updated with
  | some e =>
      rw [estate_bind_error (point_some hu _)]
      exact ⟨e, _, rfl, rfl⟩
  | none =>
      rw [estate_bind_ok (point_none hu _)]
      rw [← laterWrites_points env tr o] at hp
      have hlater : p ∈ (laterWrites env tr o).map Prod.fst := by
        rcases List.mem_cons.mp hp with rfl | hp'
        · exact absurd hu hf
        · exact hp'
      let s₁ : Store :=
        { s with workflows := s.workflows.upsert (updatedRow w env.updatedAt st none none) }
      obtain ⟨e, s', hrun⟩ := writeAll_error hlater hf s₁
      have hkeeps : (finalState (writeAll faults (laterWrites env tr o) s₁)).workflows =
          s₁.workflows :=
        writeAll_keeps (fun v hv s hs => (laterWrites_workflows hv s).trans hs) rfl
      rw [hrun] at hkeeps
      exact ⟨e, s', estate_bind_error hrun, hkeeps⟩

end Executor

/-! ### How the calls end -/

section Initiate

variable {repo : WorkflowRepoKind} {env : Env} {faults : Faults}
  {request : InitiateWorkflowRequest} {workflowId : String} {s : Store}

/-- The points `initiate_workflow` passes once it has written something. -/
def initiatePoints : List EnginePoint := .created :: executorPoints true

theorem validateNoDuplicate_of_none (h : s.workflows.get? workflowId = none) :
    validateNoDuplicate workflowId s = .ok () := by
  unfold validateNoDuplicate getWorkflow
  rw [h]

theorem validateNoDuplicate_of_some {w : WorkflowRecord}
    (h : s.workflows.get? workflowId = some w) :
    ∃ e, validateNoDuplicate workflowId s = .error e := by
  unfold validateNoDuplicate getWorkflow
  rw [h]
  exact ⟨_, rfl⟩

/-- What the first dispatch of a workflow writes. -/
def firstOutbox (env : Env) (workflowId : String) : OutboxBuildResult :=
  OutboxSpecBuilder.build env (newWorkflow env.createdAt workflowId) .collect 1 1

/-- The store after `create_workflow`. -/
def createdStore (env : Env) (workflowId : String) (s : Store) : Store :=
  { s with workflows := s.workflows.upsert (newWorkflow env.createdAt workflowId) }

theorem emitInitiated_of_traceable (h : traceable workflowId) : emitInitiated workflowId = .ok () :=
  traceable_iff.mp h

theorem emitInitiated_of_not_traceable (h : traceable workflowId = false) :
    ∃ e, emitInitiated workflowId = .error e := by
  cases htrace : emitInitiated workflowId with
  | error e => exact ⟨e, rfl⟩
  | ok _ =>
      rw [traceable_iff.mpr htrace] at h
      cases h

/-- The call up to its first write. -/
theorem initiateCall_of_accepted (he : faults .entered = none)
    (ha : allocate env request = .ok workflowId) (hg : s.workflows.get? workflowId = none)
    (ht : traceable workflowId) :
    initiateCall repo env faults request s =
      (point faults .created >>= fun _ =>
        executorCall repo env faults (newWorkflow env.createdAt workflowId) .collecting
          (buildTransition env workflowId .created .collecting "workflow_initiated" request.actor)
          (some (firstOutbox env workflowId)) >>= fun updated =>
        pure { workflowId := workflowId, state := .collecting,
               stateVersion := updated.stateVersion,
               transition := buildTransition env workflowId .created .collecting
                 "workflow_initiated" request.actor,
               enqueuedTask := (firstOutbox env workflowId).taskSpec })
        (createdStore env workflowId s) := by
  unfold initiateCall
  rw [estate_bind_ok (point_none he s), ha]
  refine (estate_bind_ok (check_ok workflowId s)).trans ?_
  refine (estate_bind_ok (rfl : (get : EStateM RouteException Store Store) s = .ok s s)).trans ?_
  rw [validateNoDuplicate_of_none hg]
  refine (estate_bind_ok (check_ok () s)).trans ?_
  rw [emitInitiated_of_traceable ht]
  refine (estate_bind_ok (check_ok () s)).trans ?_
  refine estate_bind_ok (perform_ok ?_)
  rw [createWorkflow_of_get_none hg]
  rfl

/-- The allocator raises. -/
theorem initiateCall_unallocated {e : PyException} (he : faults .entered = none)
    (ha : allocate env request = .error e) :
    initiateCall repo env faults request s = .error (.py e) s := by
  unfold initiateCall
  rw [estate_bind_ok (point_none he s), ha]
  rfl

/-- The identifier is taken. -/
theorem initiateCall_duplicate {e : PyException} (he : faults .entered = none)
    (ha : allocate env request = .ok workflowId)
    (hv : validateNoDuplicate workflowId s = .error e) :
    initiateCall repo env faults request s = .error (.py e) s := by
  unfold initiateCall
  rw [estate_bind_ok (point_none he s), ha]
  refine (estate_bind_ok (check_ok workflowId s)).trans ?_
  refine (estate_bind_ok (rfl : (get : EStateM RouteException Store Store) s = .ok s s)).trans ?_
  rw [hv]
  rfl

/-- The tracer refuses the identifier. -/
theorem initiateCall_untraceable {e : PyException} (he : faults .entered = none)
    (ha : allocate env request = .ok workflowId) (hg : s.workflows.get? workflowId = none)
    (hv : emitInitiated workflowId = .error e) :
    initiateCall repo env faults request s = .error (.py e) s := by
  unfold initiateCall
  rw [estate_bind_ok (point_none he s), ha]
  refine (estate_bind_ok (check_ok workflowId s)).trans ?_
  refine (estate_bind_ok (rfl : (get : EStateM RouteException Store Store) s = .ok s s)).trans ?_
  rw [validateNoDuplicate_of_none hg]
  refine (estate_bind_ok (check_ok () s)).trans ?_
  rw [hv]
  rfl

/-- A call that does not get as far as a write raises over the store it was given. -/
theorem initiateCall_refused
    (h : faults .entered ≠ none ∨
      ∀ workflowId, allocate env request = .ok workflowId →
        s.workflows.get? workflowId ≠ none ∨ traceable workflowId = false) :
    ∃ e, initiateCall repo env faults request s = .error e s := by
  cases he : faults .entered with
  | some e =>
      refine ⟨e, ?_⟩
      unfold initiateCall
      exact estate_bind_error (point_some he s)
  | none =>
      have hdup := h.resolve_left (not_not.mpr he)
      cases ha : allocate env request with
      | error e => exact ⟨.py e, initiateCall_unallocated he ha⟩
      | ok workflowId =>
          cases hg : s.workflows.get? workflowId with
          | some w =>
              obtain ⟨e, hv⟩ := validateNoDuplicate_of_some hg
              exact ⟨.py e, initiateCall_duplicate he ha hv⟩
          | none =>
              have hnot : traceable workflowId = false :=
                (hdup workflowId ha).resolve_left (not_not.mpr hg)
              obtain ⟨e, hv⟩ := emitInitiated_of_not_traceable hnot
              exact ⟨.py e, initiateCall_untraceable he ha hg hv⟩

/-- The row that `create_workflow` has just written is the stored one. -/
theorem createdStore_get (env : Env) (workflowId : String) (s : Store) :
    (createdStore env workflowId s).workflows.get?
      (newWorkflow env.createdAt workflowId).workflowId =
      some (newWorkflow env.createdAt workflowId) := by
  simp [createdStore]

/-- The first transition overwrites the created row. -/
theorem written_createdStore (env : Env) (workflowId : String) (actor : Option String)
    (s : Store) :
    written env (initiatedRow env workflowId)
      (buildTransition env workflowId .created .collecting "workflow_initiated" actor)
      (some (firstOutbox env workflowId)) (createdStore env workflowId s) =
      initiatedStore env workflowId actor s := by
  have hupsert : (s.workflows.upsert (newWorkflow env.createdAt workflowId)).upsert
      (initiatedRow env workflowId) = s.workflows.upsert (initiatedRow env workflowId) :=
    Table.upsert_upsert s.workflows rfl
  unfold initiatedStore written
  rw [← hupsert]
  rfl

/-- An accepted call during which nothing comes up returns. -/
theorem initiateCall_ok (he : faults .entered = none)
    (ha : allocate env request = .ok workflowId) (hg : s.workflows.get? workflowId = none)
    (ht : traceable workflowId) (hq : ∀ p ∈ initiatePoints, faults p = none) :
    ∃ r, initiateCall repo env faults request s =
      .ok r (initiatedStore env workflowId request.actor s) := by
  have hcreated : faults .created = none := hq .created (by simp [initiatePoints])
  have hexec : ∀ p ∈ executorPoints (some (firstOutbox env workflowId)).isSome,
      faults p = none :=
    fun p hp => hq p (List.mem_cons_of_mem _ hp)
  rw [initiateCall_of_accepted he ha hg ht, estate_bind_ok (point_none hcreated _),
    estate_bind_ok (executorCall_ok (createdStore_get env workflowId s) hexec)]
  exact ⟨_, congrArg (EStateM.Result.ok _) (written_createdStore env workflowId request.actor s)⟩

/-- An accepted call during which something comes up raises, and the workflow stays. -/
theorem initiateCall_error (he : faults .entered = none)
    (ha : allocate env request = .ok workflowId) (hg : s.workflows.get? workflowId = none)
    (ht : traceable workflowId) {p : EnginePoint} (hp : p ∈ initiatePoints) (hf : faults p ≠ none) :
    ∃ e s', initiateCall repo env faults request s = .error e s' ∧
      s'.workflows.get? workflowId ≠ none := by
  rw [initiateCall_of_accepted he ha hg ht]
  cases hc : faults .created with
  | some e =>
      refine ⟨e, _, estate_bind_error (point_some hc _), ?_⟩
      simp [createdStore, newWorkflow]
  | none =>
      rw [estate_bind_ok (point_none hc _)]
      have hexec : p ∈ executorPoints (some (firstOutbox env workflowId)).isSome := by
        rcases List.mem_cons.mp hp with rfl | hp'
        · exact absurd hc hf
        · exact hp'
      obtain ⟨e, s', hrun, hwf⟩ := executorCall_error (createdStore_get env workflowId s) hexec hf
      refine ⟨e, s', estate_bind_error hrun, ?_⟩
      rw [hwf]
      simp [updatedRow, newWorkflow]

/-- **Nothing comes up**, and the tracer accepts the identifier: the call is the atomic
operation. -/
theorem initiateCall_quiet (repo : WorkflowRepoKind) (env : Env)
    (request : InitiateWorkflowRequest)
    (ht : ∀ workflowId, allocate env request = .ok workflowId → traceable workflowId) (s : Store) :
    initiateCall repo env Faults.none request s =
      perform (fun s => raisingPy (initiateWorkflow repo env request s)) s := by
  cases ha : allocate env request with
  | error e =>
      have hop : initiateWorkflow repo env request s = .error e := by
        unfold initiateWorkflow
        rw [ha]
        rfl
      rw [initiateCall_unallocated rfl ha, perform_error (by rw [hop]; rfl)]
  | ok workflowId =>
      cases hg : s.workflows.get? workflowId with
      | some w =>
          obtain ⟨e, hv⟩ := validateNoDuplicate_of_some hg
          have hop : initiateWorkflow repo env request s = .error e := by
            unfold initiateWorkflow
            rw [ha]
            show (validateNoDuplicate workflowId s >>= _) = _
            rw [hv]
            rfl
          rw [initiateCall_duplicate rfl ha hv, perform_error (by rw [hop]; rfl)]
      | none =>
          have hexec : ∀ p ∈ executorPoints (some (firstOutbox env workflowId)).isSome,
              Faults.none p = none := fun p _ => rfl
          rw [initiateCall_of_accepted rfl ha hg (ht workflowId ha), estate_bind_ok (point_none rfl _),
            estate_bind_ok (executorCall_ok (createdStore_get env workflowId s) hexec)]
          have hacc : Accepts repo none := fun _ => rfl
          have hwrite := write_of_get env .collecting none
            (buildTransition env workflowId .created .collecting "workflow_initiated"
              request.actor) (some (firstOutbox env workflowId))
            (createdStore_get env workflowId s) hacc
          refine (perform_ok ?_).symm
          unfold initiateWorkflow finishInitiate
          rw [ha]
          show raisingPy (validateNoDuplicate workflowId s >>= _) = _
          rw [validateNoDuplicate_of_none hg]
          show raisingPy (createWorkflow repo env.createdAt workflowId s >>= _) = _
          rw [createWorkflow_of_get_none hg]
          show raisingPy (executeInitiate repo env (newWorkflow env.createdAt workflowId) _
            (firstOutbox env workflowId) (createdStore env workflowId s)) = _
          unfold executeInitiate
          rw [hwrite]
          rfl

end Initiate

section Approval

variable {repo : WorkflowRepoKind} {env : Env} {faults : Faults} {workflowId : String}
  {action : ApprovalAction} {actor key : Option String} {w : WorkflowRecord} {s : Store}

/-- The points `apply_approval_action` passes once it has written something. -/
def approvalPoints (action : ApprovalAction) : List EnginePoint :=
  executorPoints (approvalMatrix action).outboxTaskType.isSome

/-- What `apply_approval_action` hands to the executor for a workflow that waits. -/
def preparedApproval (env : Env) (action : ApprovalAction) (actor : Option String)
    (w : WorkflowRecord) (s : Store) : PreparedApproval :=
  { workflow := w, decision := TransitionTable.lookupApproval action
    transition := buildTransition env w.workflowId w.state
      (TransitionTable.lookupApproval action).toState ("approval_" ++ action.value) actor
    outbox := OutboxSpecBuilder.buildForDecision env w
      (TransitionTable.lookupApproval action).outboxTaskType
      (TransitionTable.lookupApproval action).incrementLogicalVersion s }

theorem preparedApproval_points (env : Env) (action : ApprovalAction) (actor : Option String)
    (w : WorkflowRecord) (s : Store) :
    executorPoints (preparedApproval env action actor w s).outbox.isSome =
      approvalPoints action := by
  cases action <;> rfl

/-- The call up to the executor. -/
theorem approvalCall_of_accepted (he : faults .entered = none)
    (hg : s.workflows.get? workflowId = some w) (hs : w.state = .awaitingHumanApproval) :
    approvalCall repo env faults workflowId action actor key s =
      (executorCall repo env faults w (TransitionTable.lookupApproval action).toState
        (preparedApproval env action actor w s).transition
        (preparedApproval env action actor w s).outbox >>= fun updated =>
        pure { workflowId := w.workflowId, action := (TransitionTable.lookupApproval action).action,
               fromState := (TransitionTable.lookupApproval action).fromState,
               toState := (TransitionTable.lookupApproval action).toState,
               stateVersion := updated.stateVersion,
               transition := (preparedApproval env action actor w s).transition,
               enqueuedTask := (preparedApproval env action actor w s).outbox.map
                 OutboxBuildResult.taskSpec }) s := by
  have hp : prepareApproval env action actor w s = .ok (preparedApproval env action actor w s) :=
    prepareApproval_ok_iff.mpr ⟨hs, rfl⟩
  unfold approvalCall
  rw [estate_bind_ok (point_none he s)]
  refine (estate_bind_ok (rfl : (get : EStateM RouteException Store Store) s = .ok s s)).trans ?_
  unfold getWorkflow
  rw [hg]
  dsimp only
  rw [hp]
  exact estate_bind_ok (check_ok _ s)

/-- There is no such workflow. -/
theorem approvalCall_missing (he : faults .entered = none)
    (hg : s.workflows.get? workflowId = none) :
    approvalCall repo env faults workflowId action actor key s =
      .error (.py (.workflowNotFound (workflowNotFoundMessage workflowId) workflowId)) s := by
  unfold approvalCall
  rw [estate_bind_ok (point_none he s)]
  refine (estate_bind_ok (rfl : (get : EStateM RouteException Store Store) s = .ok s s)).trans ?_
  unfold getWorkflow
  rw [hg]
  rfl

/-- The workflow does not wait for an approval. -/
theorem approvalCall_unprepared {e : PyException} (he : faults .entered = none)
    (hg : s.workflows.get? workflowId = some w)
    (hp : prepareApproval env action actor w s = .error e) :
    approvalCall repo env faults workflowId action actor key s = .error (.py e) s := by
  unfold approvalCall
  rw [estate_bind_ok (point_none he s)]
  refine (estate_bind_ok (rfl : (get : EStateM RouteException Store Store) s = .ok s s)).trans ?_
  unfold getWorkflow
  rw [hg]
  dsimp only
  rw [hp]
  rfl

theorem approvalCall_refused
    (h : faults .entered ≠ none ∨
      ∀ w, s.workflows.get? workflowId = some w → w.state ≠ .awaitingHumanApproval) :
    ∃ e, approvalCall repo env faults workflowId action actor key s = .error e s := by
  cases he : faults .entered with
  | some e =>
      refine ⟨e, ?_⟩
      unfold approvalCall
      exact estate_bind_error (point_some he s)
  | none =>
      have hstate := h.resolve_left (not_not.mpr he)
      cases hg : s.workflows.get? workflowId with
      | none => exact ⟨_, approvalCall_missing he hg⟩
      | some w =>
          cases hp : prepareApproval env action actor w s with
          | ok p => exact absurd (prepareApproval_ok_iff.mp hp).1 (hstate w hg)
          | error e => exact ⟨.py e, approvalCall_unprepared he hg hp⟩

theorem approvalCall_ok (he : faults .entered = none)
    (hg : s.workflows.get? workflowId = some w) (hs : w.state = .awaitingHumanApproval)
    (hq : ∀ p ∈ approvalPoints action, faults p = none) :
    ∃ r s', approvalCall repo env faults workflowId action actor key s = .ok r s' := by
  obtain rfl : w.workflowId = workflowId := Table.key_of_get? hg
  rw [← preparedApproval_points env action actor w s] at hq
  rw [approvalCall_of_accepted he hg hs, estate_bind_ok (executorCall_ok hg hq)]
  exact ⟨_, _, rfl⟩

/-- An accepted call during which something comes up raises, and the workflow has moved. -/
theorem approvalCall_error (he : faults .entered = none)
    (hg : s.workflows.get? workflowId = some w) (hs : w.state = .awaitingHumanApproval)
    {p : EnginePoint} (hp : p ∈ approvalPoints action) (hf : faults p ≠ none) :
    ∃ e s', approvalCall repo env faults workflowId action actor key s = .error e s' ∧
      s'.workflows.get? workflowId =
        some (updatedRow w env.updatedAt (TransitionTable.lookupApproval action).toState none
          none) := by
  obtain rfl : w.workflowId = workflowId := Table.key_of_get? hg
  rw [← preparedApproval_points env action actor w s] at hp
  rw [approvalCall_of_accepted he hg hs]
  obtain ⟨e, s', hrun, hwf⟩ := executorCall_error hg hp hf
  refine ⟨e, s', estate_bind_error hrun, ?_⟩
  rw [hwf]
  simp [updatedRow]

/-- **Nothing comes up**: the call is the atomic operation. -/
theorem approvalCall_quiet (repo : WorkflowRepoKind) (env : Env) (workflowId : String)
    (action : ApprovalAction) (actor key : Option String) (s : Store) :
    approvalCall repo env Faults.none workflowId action actor key s =
      perform (fun s => raisingPy (applyApprovalAction repo env workflowId action actor s)) s := by
  cases hg : s.workflows.get? workflowId with
  | none =>
      have hop : applyApprovalAction repo env workflowId action actor s =
          .error (.workflowNotFound (workflowNotFoundMessage workflowId) workflowId) := by
        unfold applyApprovalAction getWorkflow
        rw [hg]
      rw [approvalCall_missing rfl hg, perform_error (by rw [hop]; rfl)]
  | some w =>
      obtain rfl : w.workflowId = workflowId := Table.key_of_get? hg
      cases hp : prepareApproval env action actor w s with
      | error e =>
          have hop : applyApprovalAction repo env w.workflowId action actor s = .error e := by
            unfold applyApprovalAction getWorkflow
            rw [hg]
            show (prepareApproval env action actor w s >>= _) = _
            rw [hp]
            rfl
          rw [approvalCall_unprepared rfl hg hp, perform_error (by rw [hop]; rfl)]
      | ok p =>
          obtain ⟨hs, rfl⟩ := prepareApproval_ok_iff.mp hp
          have hquiet : ∀ p ∈ executorPoints (preparedApproval env action actor w s).outbox.isSome,
              Faults.none p = none := fun p _ => rfl
          have hacc : Accepts repo none := fun _ => rfl
          have hwrite := write_of_get env (TransitionTable.lookupApproval action).toState none
            (preparedApproval env action actor w s).transition
            (preparedApproval env action actor w s).outbox hg hacc
          rw [approvalCall_of_accepted rfl hg hs, estate_bind_ok (executorCall_ok hg hquiet)]
          refine (perform_ok ?_).symm
          unfold applyApprovalAction getWorkflow
          rw [hg]
          show raisingPy (prepareApproval env action actor w s >>= _) = _
          rw [hp]
          show raisingPy (executeApproval repo env w (TransitionTable.lookupApproval action)
            (preparedApproval env action actor w s).transition
            (preparedApproval env action actor w s).outbox s) = _
          unfold executeApproval
          rw [hwrite]
          rfl

end Approval

end WorkflowEngine

end CartoonDemo
