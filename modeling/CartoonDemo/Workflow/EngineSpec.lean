import CartoonDemo.Library.Transaction
import CartoonDemo.Persistence.Artifacts
import CartoonDemo.Workflow.Engine

/-!
# CartoonDemo.Workflow.EngineSpec

What the engine operations do when they return: **one write** of the workflow row, one
history record, and at most one task with its outbox row and payload.

`TransitionExecutor.written` is that write; `prepareTransition_ok` and `prepareApproval_ok`
say which decision it comes from, and `applyTransition_ok`, `applyApprovalAction_ok` and
`initiateWorkflow_ok` put the two together for operations that run without interleaving.
Later modules use these and never unfold an operation.
-/

namespace CartoonDemo

namespace TransitionExecutor

/-! ### The written store

The tables after a write, one by one.
-/

/-- The store after a successful write sequence. -/
def written (env : Env) (row : WorkflowRecord) (transition : WorkflowTransitionRecord)
    (outbox : Option OutboxBuildResult) (s : Store) : Store :=
  dispatch env outbox (appendTransition transition { s with workflows := s.workflows.upsert row })

section Dispatch

variable (env : Env) (o : Option OutboxBuildResult) (s : Store)

@[simp] theorem dispatch_none : dispatch env none s = s := rfl

@[simp] theorem dispatch_workflows : (dispatch env o s).workflows = s.workflows := by
  cases o <;> rfl

@[simp] theorem dispatch_transitions : (dispatch env o s).transitions = s.transitions := by
  cases o <;> rfl

@[simp] theorem dispatch_artifacts : (dispatch env o s).artifacts = s.artifacts := by
  cases o <;> rfl

@[simp] theorem dispatch_contents : (dispatch env o s).contents = s.contents := by
  cases o <;> rfl

@[simp] theorem dispatch_idempotency : (dispatch env o s).idempotency = s.idempotency := by
  cases o <;> rfl

@[simp] theorem dispatch_leases : (dispatch env o s).leases = s.leases := by
  cases o <;> rfl

@[simp] theorem dispatch_aiInvocations : (dispatch env o s).aiInvocations = s.aiInvocations := by
  cases o <;> rfl

@[simp] theorem dispatch_tasks_some (o : OutboxBuildResult) :
    (dispatch env (some o) s).tasks = s.tasks.upsert o.taskRecord := rfl

@[simp] theorem dispatch_outbox_some (o : OutboxBuildResult) :
    (dispatch env (some o) s).outbox =
      s.outbox.upsert (newOutboxEntry env.insertedAt env.outboxId o.outboxInsert) := rfl

@[simp] theorem dispatch_payloads_some (o : OutboxBuildResult) :
    (dispatch env (some o) s).payloads =
      s.payloads.upsert { refId := o.taskRecord.payloadReference.refId, payload := o.payload } :=
  rfl

end Dispatch

section Written

variable (env : Env) (row : WorkflowRecord) (tr : WorkflowTransitionRecord)
  (o : Option OutboxBuildResult) (s : Store)

@[simp] theorem written_workflows :
    (written env row tr o s).workflows = s.workflows.upsert row := by
  simp [written, appendTransition]

@[simp] theorem written_transitions :
    (written env row tr o s).transitions = s.transitions ++ [tr] := by
  simp [written, appendTransition]

@[simp] theorem written_artifacts : (written env row tr o s).artifacts = s.artifacts := by
  simp [written, appendTransition]

@[simp] theorem written_contents : (written env row tr o s).contents = s.contents := by
  simp [written, appendTransition]

@[simp] theorem written_idempotency :
    (written env row tr o s).idempotency = s.idempotency := by
  simp [written, appendTransition]

@[simp] theorem written_leases : (written env row tr o s).leases = s.leases := by
  simp [written, appendTransition]

@[simp] theorem written_aiInvocations :
    (written env row tr o s).aiInvocations = s.aiInvocations := by
  simp [written, appendTransition]

@[simp] theorem written_tasks :
    (written env row tr o s).tasks = (dispatch env o s).tasks := by
  cases o <;> rfl

@[simp] theorem written_payloads :
    (written env row tr o s).payloads = (dispatch env o s).payloads := by
  cases o <;> rfl

@[simp] theorem written_outbox :
    (written env row tr o s).outbox = (dispatch env o s).outbox := by
  cases o <;> rfl

/-- The history of a workflow grows by the record when the record is its own. -/
theorem written_history (workflowId : String) :
    (written env row tr o s).history workflowId =
      s.history workflowId ++ (if tr.workflowId = workflowId then [tr] else []) := by
  unfold Store.history
  rw [written_transitions, List.filter_append]
  by_cases h : tr.workflowId = workflowId <;> simp [h]

end Written

/-- A write that returned found the row at the version it was given. -/
theorem write_ok {repo : WorkflowRepoKind} {env : Env} {w r : WorkflowRecord}
    {st : WorkflowState} {fr : Option String} {rc : Option Nat} {tr : WorkflowTransitionRecord}
    {o : Option OutboxBuildResult} {s s' : Store}
    (h : write repo env w st fr rc tr o s = .ok (r, s')) :
    ∃ existing, s.workflows.get? w.workflowId = some existing ∧
      existing.stateVersion = w.stateVersion ∧
      r = updatedRow existing env.updatedAt st fr rc ∧ s' = written env r tr o s := by
  unfold write at h
  cases hu : updateWorkflowState repo env.updatedAt w.workflowId w.stateVersion st fr rc s with
  | error e => rw [hu] at h; exact absurd h (by simp)
  | ok p =>
      obtain ⟨r', s₁⟩ := p
      rw [hu] at h
      cases h
      obtain ⟨existing, hg, hv, hr, rfl⟩ := updateWorkflowState_ok hu
      exact ⟨existing, hg, hv, hr, rfl⟩

/-- The repository has the keyword arguments of the call: the PostgreSQL repository knows
no `revision_count`. -/
def Accepts (repo : WorkflowRepoKind) (revisionCount : Option Nat) : Prop :=
  repo = .postgres → revisionCount = none

instance (repo : WorkflowRepoKind) (rc : Option Nat) : Decidable (Accepts repo rc) :=
  inferInstanceAs (Decidable (_ → _))

/-- The update of the row that is stored is accepted. -/
theorem updateWorkflowState_of_get {repo : WorkflowRepoKind} (now : Time) {w : WorkflowRecord}
    (st : WorkflowState) (fr : Option String) {rc : Option Nat} {s : Store}
    (hg : s.workflows.get? w.workflowId = some w) (ha : Accepts repo rc) :
    updateWorkflowState repo now w.workflowId w.stateVersion st fr rc s =
      .ok (updatedRow w now st fr rc,
        { s with workflows := s.workflows.upsert (updatedRow w now st fr rc) }) := by
  cases repo with
  | fakes =>
      simp only [updateWorkflowState, Fakes.updateWorkflowState, hg, ne_eq, not_true_eq_false,
        if_false]
      rfl
  | postgres =>
      obtain rfl := ha rfl
      simp only [updateWorkflowState, Postgres.updateWorkflowState, find_matchesVersion, hg]
      rw [Option.filter_some_pos (by simp)]
      rfl

/-- A write of the row that is stored is accepted. -/
theorem write_of_get {repo : WorkflowRepoKind} (env : Env) {w : WorkflowRecord}
    (st : WorkflowState) (fr : Option String) {rc : Option Nat} (tr : WorkflowTransitionRecord)
    (o : Option OutboxBuildResult) {s : Store} (hg : s.workflows.get? w.workflowId = some w)
    (ha : Accepts repo rc) :
    write repo env w st fr rc tr o s =
      .ok (updatedRow w env.updatedAt st fr rc,
        written env (updatedRow w env.updatedAt st fr rc) tr o s) := by
  unfold write
  rw [updateWorkflowState_of_get env.updatedAt st fr hg ha]
  rfl

theorem executeTransition_ok {repo : WorkflowRepoKind} {env : Env} {w : WorkflowRecord}
    {d : TransitionDecision} {tr : WorkflowTransitionRecord} {o : Option OutboxBuildResult}
    {rc : Option Nat} {s s' : Store} {res : TransitionResult}
    (h : executeTransition repo env w d tr o rc s = .ok (res, s')) :
    ∃ r, write repo env w d.toState d.setFailureReason rc tr o s = .ok (r, s') ∧
      res.fromState = d.fromState ∧ res.toState = d.toState ∧
      res.enqueuedTask.isSome = o.isSome := by
  obtain ⟨⟨r, s₁⟩, hw, hr⟩ := except_bind_ok h
  cases hr
  exact ⟨r, hw, rfl, rfl, by cases o <;> rfl⟩

theorem executeTransition_of_write {repo : WorkflowRepoKind} {env : Env} {w r : WorkflowRecord}
    {d : TransitionDecision} {tr : WorkflowTransitionRecord} {o : Option OutboxBuildResult}
    {rc : Option Nat} {s s' : Store}
    (h : write repo env w d.toState d.setFailureReason rc tr o s = .ok (r, s')) :
    ∃ res, executeTransition repo env w d tr o rc s = .ok (res, s') := by
  unfold executeTransition
  rw [h]
  exact ⟨_, rfl⟩

theorem executeApproval_ok {repo : WorkflowRepoKind} {env : Env} {w : WorkflowRecord}
    {d : ApprovalDecision} {tr : WorkflowTransitionRecord} {o : Option OutboxBuildResult}
    {s s' : Store} {res : ApprovalActionResult}
    (h : executeApproval repo env w d tr o s = .ok (res, s')) :
    ∃ r, write repo env w d.toState none none tr o s = .ok (r, s') := by
  obtain ⟨⟨r, s₁⟩, hw, hr⟩ := except_bind_ok h
  cases hr
  exact ⟨r, hw⟩

theorem executeInitiate_of_write {repo : WorkflowRepoKind} {env : Env} {w r : WorkflowRecord}
    {tr : WorkflowTransitionRecord} {o : OutboxBuildResult} {s s' : Store}
    (h : write repo env w .collecting none none tr (some o) s = .ok (r, s')) :
    ∃ res, executeInitiate repo env w tr o s = .ok (res, s') := by
  unfold executeInitiate
  rw [h]
  exact ⟨_, rfl⟩

end TransitionExecutor

namespace WorkflowEngine

open TransitionExecutor

/-! ### Decisions -/

@[simp] theorem withFailureReason_toState (req : TransitionRequest) (d : TransitionDecision) :
    (withFailureReason req d).toState = d.toState := by
  unfold withFailureReason; split <;> rfl

@[simp] theorem withFailureReason_fromState (req : TransitionRequest) (d : TransitionDecision) :
    (withFailureReason req d).fromState = d.fromState := by
  unfold withFailureReason; split <;> rfl

@[simp] theorem withFailureReason_outboxTaskType (req : TransitionRequest)
    (d : TransitionDecision) : (withFailureReason req d).outboxTaskType = d.outboxTaskType := by
  unfold withFailureReason; split <;> rfl

@[simp] theorem withFailureReason_incrementRevisionCount (req : TransitionRequest)
    (d : TransitionDecision) :
    (withFailureReason req d).incrementRevisionCount = d.incrementRevisionCount := by
  unfold withFailureReason; split <;> rfl

@[simp] theorem withFailureReason_incrementLogicalVersion (req : TransitionRequest)
    (d : TransitionDecision) :
    (withFailureReason req d).incrementLogicalVersion = d.incrementLogicalVersion := by
  unfold withFailureReason; split <;> rfl

/-- What `apply_transition` prepares for a decision `d` about the row `w`. -/
def preparedFor (env : Env) (req : TransitionRequest) (w : WorkflowRecord)
    (d : TransitionDecision) (s : Store) : PreparedTransition :=
  { workflow := w, decision := withFailureReason req d
    transition := buildTransition env req.workflowId w.state d.toState req.reason req.actor
    outbox := OutboxSpecBuilder.buildForDecision env w d.outboxTaskType
      d.incrementLogicalVersion s
    newRevision := if d.incrementRevisionCount then some (w.revisionCount + 1) else none }

/-- `apply_transition` goes as far as the executor exactly when the row is in the expected
state and the table has a decision for it. -/
theorem prepareTransition_ok_iff {cfg : AppConfig} {env : Env} {req : TransitionRequest}
    {w : WorkflowRecord} {s : Store} {p : PreparedTransition} :
    prepareTransition cfg env req w s = .ok p ↔
      w.state = req.expectedState ∧
      ∃ d, TransitionTable.lookup w.state req.signal w.revisionCount cfg.maxScenarioRevisions
          = .ok d ∧ p = preparedFor env req w d s := by
  unfold prepareTransition
  by_cases he : w.state = req.expectedState
  · rw [if_neg (not_not.mpr he)]
    by_cases ht : w.state.isTerminal
    · rw [if_pos ht]
      constructor
      · intro h; exact absurd h (by simp)
      · rintro ⟨-, d, hd, -⟩
        have := TransitionTable.lookup_transient hd
        simp [WorkflowState.isTransient, ht] at this
    · rw [if_neg ht]
      unfold decideTransition
      cases hl : TransitionTable.lookup w.state req.signal w.revisionCount
          cfg.maxScenarioRevisions with
      | error e =>
          constructor
          · intro h
            split at h
            · exact absurd h (by simp)
            · next heq => revert heq; cases e <;> simp
          · rintro ⟨-, d, hd, -⟩
            exact absurd hd (by simp)
      | ok d =>
          simp only [withFailureReason_toState, withFailureReason_outboxTaskType,
            withFailureReason_incrementLogicalVersion, withFailureReason_incrementRevisionCount,
            Except.ok.injEq]
          constructor
          · rintro rfl
            exact ⟨he, d, rfl, rfl⟩
          · rintro ⟨-, d', rfl, rfl⟩
            rfl
  · rw [if_pos he]
    constructor
    · intro h; exact absurd h (by simp)
    · rintro ⟨hs, -⟩; exact absurd hs he

/-- What `apply_approval_action` prepares. -/
theorem prepareApproval_ok_iff {env : Env} {action : ApprovalAction} {actor : Option String}
    {w : WorkflowRecord} {s : Store} {p : PreparedApproval} :
    prepareApproval env action actor w s = .ok p ↔
      w.state = .awaitingHumanApproval ∧
      p = { workflow := w, decision := TransitionTable.lookupApproval action
            transition := buildTransition env w.workflowId w.state
              (TransitionTable.lookupApproval action).toState ("approval_" ++ action.value) actor
            outbox := OutboxSpecBuilder.buildForDecision env w
              (TransitionTable.lookupApproval action).outboxTaskType
              (TransitionTable.lookupApproval action).incrementLogicalVersion s } := by
  unfold prepareApproval
  by_cases hs : w.state = .awaitingHumanApproval
  · rw [if_neg (not_not.mpr hs)]
    simp only [Except.ok.injEq]
    constructor
    · rintro rfl; exact ⟨hs, rfl⟩
    · rintro ⟨-, rfl⟩; rfl
  · rw [if_pos hs]
    constructor
    · intro h; split at h <;> exact absurd h (by simp)
    · rintro ⟨h, -⟩; exact absurd h hs

/-! ### Operations without interleaving

When an operation succeeds, and what it leaves.
-/

/-- The row that `apply_transition` writes over `w` for the decision `d`. -/
def transitionRow (env : Env) (req : TransitionRequest) (w : WorkflowRecord)
    (d : TransitionDecision) : WorkflowRecord :=
  updatedRow w env.updatedAt d.toState (withFailureReason req d).setFailureReason
    (if d.incrementRevisionCount then some (w.revisionCount + 1) else none)

/-- The store that `apply_transition` leaves for the row `w` and the decision `d`. -/
def transitionStore (env : Env) (req : TransitionRequest) (w : WorkflowRecord)
    (d : TransitionDecision) (s : Store) : Store :=
  written env (transitionRow env req w d)
    (buildTransition env req.workflowId w.state d.toState req.reason req.actor)
    (OutboxSpecBuilder.buildForDecision env w d.outboxTaskType d.incrementLogicalVersion s) s

/-- **`apply_transition` returned**: the row was in the expected state, the table had a
decision, and the store is the one written for it. -/
theorem applyTransition_ok {repo : WorkflowRepoKind} {cfg : AppConfig} {env : Env}
    {req : TransitionRequest} {s s' : Store} {res : TransitionResult}
    (h : applyTransition repo cfg env req s = .ok (res, s')) :
    ∃ w d, s.workflows.get? req.workflowId = some w ∧ w.state = req.expectedState ∧
      TransitionTable.lookup w.state req.signal w.revisionCount cfg.maxScenarioRevisions
        = .ok d ∧
      s' = transitionStore env req w d s ∧ res.fromState = w.state ∧ res.toState = d.toState ∧
      res.enqueuedTask.isSome = d.outboxTaskType.isSome := by
  unfold applyTransition getWorkflow at h
  cases hg : s.workflows.get? req.workflowId with
  | none => rw [hg] at h; exact absurd h (by simp)
  | some w =>
      rw [hg] at h
      obtain ⟨p, hp, hx⟩ := except_bind_ok h
      obtain ⟨he, d, hd, rfl⟩ := prepareTransition_ok_iff.mp hp
      obtain ⟨r, hw, hfrom, hto, henq⟩ := executeTransition_ok hx
      obtain ⟨existing, hg', -, rfl, rfl⟩ := write_ok hw
      have hid : w.workflowId = req.workflowId := Table.key_of_get? hg
      obtain rfl : w = existing := by
        have : s.workflows.get? w.workflowId = some w := by rw [hid]; exact hg
        exact Option.some.inj (this.symm.trans hg')
      refine ⟨w, d, rfl, he, hd, ?_, ?_, ?_, ?_⟩
      · simp [preparedFor, transitionStore, transitionRow]
      · rw [hfrom]; simp [preparedFor, (TransitionTable.lookup_from hd).1]
      · rw [hto]; simp [preparedFor]
      · rw [henq]; simp [preparedFor, OutboxSpecBuilder.buildForDecision]

/-- A transition that returned was accepted by the repository. -/
theorem applyTransition_accepted {cfg : AppConfig} {env : Env} {req : TransitionRequest}
    {s s' : Store} {res : TransitionResult} {w : WorkflowRecord} {d : TransitionDecision}
    (h : applyTransition .postgres cfg env req s = .ok (res, s'))
    (hg : s.workflows.get? req.workflowId = some w)
    (hd : TransitionTable.lookup w.state req.signal w.revisionCount cfg.maxScenarioRevisions
      = .ok d) : d.incrementRevisionCount = false := by
  unfold applyTransition getWorkflow at h
  rw [hg] at h
  obtain ⟨p, hp, hx⟩ := except_bind_ok h
  obtain ⟨-, d', hd', rfl⟩ := prepareTransition_ok_iff.mp hp
  obtain rfl : d = d' := Except.ok.inj (hd.symm.trans hd')
  obtain ⟨r, hw, -, -, -⟩ := executeTransition_ok hx
  by_contra hinc
  have hrc : (preparedFor env req w d s).newRevision = some (w.revisionCount + 1) := if_pos (by
    simpa using hinc)
  unfold write updateWorkflowState at hw
  rw [hrc] at hw
  exact absurd hw (by simp)

/-- `apply_transition` returns when the row is in the expected state, the table has a
decision and the repository accepts the call. -/
theorem applyTransition_of_lookup {repo : WorkflowRepoKind} {cfg : AppConfig} (env : Env)
    {req : TransitionRequest} {s : Store} {w : WorkflowRecord} {d : TransitionDecision}
    (hg : s.workflows.get? req.workflowId = some w) (he : w.state = req.expectedState)
    (hd : TransitionTable.lookup w.state req.signal w.revisionCount cfg.maxScenarioRevisions
      = .ok d)
    (ha : repo = .postgres → d.incrementRevisionCount = false) :
    ∃ res, applyTransition repo cfg env req s = .ok (res, transitionStore env req w d s) := by
  have hid : w.workflowId = req.workflowId := Table.key_of_get? hg
  have hp : prepareTransition cfg env req w s = .ok (preparedFor env req w d s) :=
    prepareTransition_ok_iff.mpr ⟨he, d, hd, rfl⟩
  have hacc : Accepts repo (preparedFor env req w d s).newRevision := by
    intro hrepo
    simp [preparedFor, ha hrepo]
  have hw := write_of_get env (withFailureReason req d).toState
    (withFailureReason req d).setFailureReason (preparedFor env req w d s).transition
    (preparedFor env req w d s).outbox
    (show s.workflows.get? w.workflowId = some w by rw [hid]; exact hg) hacc
  obtain ⟨res, hx⟩ := executeTransition_of_write hw
  refine ⟨res, ?_⟩
  unfold applyTransition getWorkflow
  rw [hg]
  change (prepareTransition cfg env req w s >>= fun p => p.execute repo env s) = _
  rw [hp]
  refine hx.trans ?_
  simp only [withFailureReason_toState]
  rfl

/-- **`apply_approval_action` returned.** -/
theorem applyApprovalAction_ok {repo : WorkflowRepoKind} {env : Env} {workflowId : String}
    {action : ApprovalAction} {actor : Option String} {s s' : Store}
    {res : ApprovalActionResult}
    (h : applyApprovalAction repo env workflowId action actor s = .ok (res, s')) :
    ∃ w, s.workflows.get? workflowId = some w ∧ w.state = .awaitingHumanApproval ∧
      s' = written env
        (updatedRow w env.updatedAt (approvalMatrix action).toState none none)
        (buildTransition env workflowId w.state (approvalMatrix action).toState
          ("approval_" ++ action.value) actor)
        (OutboxSpecBuilder.buildForDecision env w (approvalMatrix action).outboxTaskType
          (approvalMatrix action).incrementLogicalVersion s) s := by
  unfold applyApprovalAction getWorkflow at h
  cases hg : s.workflows.get? workflowId with
  | none => rw [hg] at h; exact absurd h (by simp)
  | some w =>
      rw [hg] at h
      obtain ⟨p, hp, hx⟩ := except_bind_ok h
      obtain ⟨hs, rfl⟩ := prepareApproval_ok_iff.mp hp
      obtain ⟨r, hw⟩ := executeApproval_ok hx
      obtain ⟨existing, hg', -, rfl, rfl⟩ := write_ok hw
      obtain rfl : w.workflowId = workflowId := Table.key_of_get? hg
      obtain rfl : w = existing := Option.some.inj (hg.symm.trans hg')
      exact ⟨w, rfl, hs, rfl⟩

/-- The row of a workflow that has just been initiated. -/
def initiatedRow (env : Env) (workflowId : String) : WorkflowRecord :=
  updatedRow (newWorkflow env.createdAt workflowId) env.updatedAt .collecting none none

/-- The store after `initiate_workflow`. -/
def initiatedStore (env : Env) (workflowId : String) (actor : Option String) (s : Store) :
    Store :=
  written env (initiatedRow env workflowId)
    (buildTransition env workflowId .created .collecting "workflow_initiated" actor)
    (some (OutboxSpecBuilder.build env (newWorkflow env.createdAt workflowId) .collect 1 1)) s

theorem createWorkflow_of_get_none {repo : WorkflowRepoKind} {now : Time} {workflowId : String}
    {s : Store} (h : s.workflows.get? workflowId = none) :
    createWorkflow repo now workflowId s =
      .ok (newWorkflow now workflowId,
        { s with workflows := s.workflows.upsert (newWorkflow now workflowId) }) := by
  cases repo with
  | fakes => rfl
  | postgres =>
      simp only [createWorkflow, Postgres.createWorkflow]
      rw [Table.insert?_of_get?_none (by exact h)]

/-- `initiate_workflow` past the duplicate check, on a free identifier. -/
theorem finishInitiate_of_get_none (repo : WorkflowRepoKind) (env : Env) {workflowId : String}
    (actor : Option String) {s : Store} (h : s.workflows.get? workflowId = none) :
    ∃ res, finishInitiate repo env workflowId actor s =
      .ok (res, initiatedStore env workflowId actor s) := by
  unfold finishInitiate
  rw [createWorkflow_of_get_none h]
  have hnew : ({ s with workflows := s.workflows.upsert (newWorkflow env.createdAt workflowId) }
      : Store).workflows.get? (newWorkflow env.createdAt workflowId).workflowId
      = some (newWorkflow env.createdAt workflowId) := by simp
  have hacc : Accepts repo none := fun _ => rfl
  have hw := write_of_get env .collecting none
    (buildTransition env workflowId .created .collecting "workflow_initiated" actor)
    (some (OutboxSpecBuilder.build env (newWorkflow env.createdAt workflowId) .collect 1 1))
    hnew hacc
  obtain ⟨res, hx⟩ := executeInitiate_of_write hw
  refine ⟨res, hx.trans ?_⟩
  have hrow : (s.workflows.upsert (newWorkflow env.createdAt workflowId)).upsert
      (initiatedRow env workflowId) = s.workflows.upsert (initiatedRow env workflowId) :=
    Table.upsert_upsert _ rfl
  unfold initiatedStore written
  rw [← hrow]
  rfl

/-- **`initiate_workflow` returned**: the identifier was free, and the new workflow is in
`COLLECTING` with its first task dispatched. -/
theorem initiateWorkflow_ok {repo : WorkflowRepoKind} {env : Env}
    {req : InitiateWorkflowRequest} {s s' : Store} {res : InitiateWorkflowResult}
    (h : initiateWorkflow repo env req s = .ok (res, s')) :
    ∃ workflowId, allocate env req = .ok workflowId ∧ s.workflows.get? workflowId = none ∧
      s' = initiatedStore env workflowId req.actor s := by
  obtain ⟨workflowId, ha, h₁⟩ := except_bind_ok h
  obtain ⟨u, hv, h₂⟩ := except_bind_ok h₁
  have hnone : s.workflows.get? workflowId = none := by
    unfold validateNoDuplicate getWorkflow at hv
    cases hg : s.workflows.get? workflowId with
    | none => rfl
    | some w => rw [hg] at hv; exact absurd hv (by simp)
  obtain ⟨res', hfin⟩ := finishInitiate_of_get_none repo env req.actor hnone
  rw [hfin] at h₂
  cases h₂
  exact ⟨workflowId, ha, hnone, rfl⟩

/-! ### The tables after a move -/

theorem activeScenarioVersion_congr {s s' : Store} (h : s'.artifacts = s.artifacts)
    (workflowId : String) :
    activeScenarioVersion s' workflowId = activeScenarioVersion s workflowId := by
  unfold activeScenarioVersion
  rw [getActiveArtifact_congr h]

section TransitionStore

variable (env : Env) (req : TransitionRequest) (w : WorkflowRecord) (d : TransitionDecision)
  (s : Store)

@[simp] theorem transitionStore_workflows :
    (transitionStore env req w d s).workflows = s.workflows.upsert (transitionRow env req w d) := by
  simp [transitionStore]

@[simp] theorem transitionStore_artifacts :
    (transitionStore env req w d s).artifacts = s.artifacts := by
  simp [transitionStore]

@[simp] theorem transitionStore_idempotency :
    (transitionStore env req w d s).idempotency = s.idempotency := by
  simp [transitionStore]

@[simp] theorem transitionStore_leases :
    (transitionStore env req w d s).leases = s.leases := by
  simp [transitionStore]

@[simp] theorem transitionStore_aiInvocations :
    (transitionStore env req w d s).aiInvocations = s.aiInvocations := by
  simp [transitionStore]

@[simp] theorem transitionRow_workflowId :
    (transitionRow env req w d).workflowId = w.workflowId := rfl

@[simp] theorem transitionRow_state : (transitionRow env req w d).state = d.toState := rfl

@[simp] theorem transitionRow_stateVersion :
    (transitionRow env req w d).stateVersion = w.stateVersion + 1 := rfl

end TransitionStore

/-- The task, payload and outbox row of a dispatch in the workflow `w`. -/
def nextBuild (env : Env) (w : WorkflowRecord) (attempt : Nat)
    (next : Option (TaskType × Int)) : Option OutboxBuildResult :=
  next.map fun p => OutboxSpecBuilder.build env w p.1 p.2 attempt

theorem dispatch_tasks_congr (env : Env) (o : Option OutboxBuildResult) {s s' : Store}
    (h : s'.tasks = s.tasks) : (dispatch env o s').tasks = (dispatch env o s).tasks := by
  cases o with
  | none => exact h
  | some o => rw [dispatch_tasks_some, dispatch_tasks_some, h]

theorem dispatch_payloads_congr (env : Env) (o : Option OutboxBuildResult) {s s' : Store}
    (h : s'.payloads = s.payloads) :
    (dispatch env o s').payloads = (dispatch env o s).payloads := by
  cases o with
  | none => exact h
  | some o => rw [dispatch_payloads_some, dispatch_payloads_some, h]

theorem dispatch_outbox_congr (env : Env) (o : Option OutboxBuildResult) {s s' : Store}
    (h : s'.outbox = s.outbox) : (dispatch env o s').outbox = (dispatch env o s).outbox := by
  cases o with
  | none => exact h
  | some o => rw [dispatch_outbox_some, dispatch_outbox_some, h]

/-- What is dispatched depends on the workflow's identifier and the artifacts only. -/
theorem buildForDecision_congr (env : Env) {w w' : WorkflowRecord} {s s' : Store}
    (hw : w'.workflowId = w.workflowId) (hs : s'.artifacts = s.artifacts)
    (t : Option TaskType) (increment : Bool) :
    OutboxSpecBuilder.buildForDecision env w' t increment s' =
      OutboxSpecBuilder.buildForDecision env w t increment s := by
  unfold OutboxSpecBuilder.buildForDecision resolveForTask OutboxSpecBuilder.build
  rw [hw, activeScenarioVersion_congr hs]

/-- The dispatch of a decision as a task type with its logical version. -/
def decisionNext (s : Store) (workflowId : String) (t : Option TaskType) (increment : Bool) :
    Option (TaskType × Int) :=
  t.map fun tt => (tt, resolveForTask s workflowId tt increment)

theorem buildForDecision_eq_nextBuild (env : Env) (w : WorkflowRecord) (t : Option TaskType)
    (increment : Bool) (s : Store) :
    OutboxSpecBuilder.buildForDecision env w t increment s =
      nextBuild env w 1 (decisionNext s w.workflowId t increment) := by
  cases t <;> rfl

/-- Collection and topic selection resolve to version `1`. -/
theorem resolveForTask_fixed {s : Store} {workflowId : String} {tt : TaskType}
    {increment : Bool} (h : tt = .collect ∨ tt = .selectTopic) :
    resolveForTask s workflowId tt increment = 1 := by
  rcases h with rfl | rfl <;> rfl

theorem decisionNext_fixed {s : Store} {workflowId : String} {t : Option TaskType}
    {increment : Bool} :
    ∀ p ∈ decisionNext s workflowId t increment, p.1 = .collect ∨ p.1 = .selectTopic → p.2 = 1 := by
  intro p hp
  obtain ⟨tt, -, rfl⟩ := Option.map_eq_some_iff.mp hp
  exact resolveForTask_fixed

/-- **One move of a workflow**: its row `w` is replaced by the newer `row`, `next` is
dispatched, and nothing else changes but the history. -/
structure Moved (env : Env) (workflowId : String) (s s' : Store) (w row : WorkflowRecord)
    (next : Option (TaskType × Int)) : Prop where
  read : s.workflows.get? workflowId = some w
  rowId : row.workflowId = workflowId
  version : w.stateVersion < row.stateVersion
  /-- A reason is stored exactly with the failure states. -/
  reason : row.failureReason.isSome = row.state.carriesReason
  /-- The history of the other workflows stays. -/
  others : ∀ id, id ≠ workflowId → s'.history id = s.history id
  workflows : s'.workflows = s.workflows.upsert row
  tasks : s'.tasks = (dispatch env (nextBuild env w 1 next) s).tasks
  payloads : s'.payloads = (dispatch env (nextBuild env w 1 next) s).payloads
  outbox : s'.outbox = (dispatch env (nextBuild env w 1 next) s).outbox
  artifacts : s'.artifacts = s.artifacts
  idempotency : s'.idempotency = s.idempotency
  leases : s'.leases = s.leases

/-- The write of a row over the one that is stored is a move. -/
theorem Moved.of_written (env : Env) {workflowId : String} {s : Store} {w row : WorkflowRecord}
    (tr : WorkflowTransitionRecord) (next : Option (TaskType × Int))
    (hg : s.workflows.get? workflowId = some w) (hid : row.workflowId = w.workflowId)
    (hv : w.stateVersion < row.stateVersion) (htr : tr.workflowId = workflowId)
    (hreason : row.failureReason.isSome = row.state.carriesReason) :
    Moved env workflowId s (written env row tr (nextBuild env w 1 next) s) w row next where
  read := hg
  rowId := hid.trans (Table.key_of_get? hg)
  version := hv
  reason := hreason
  others := by
    intro id hne
    rw [written_history, if_neg (by rw [htr]; exact hne.symm), List.append_nil]
  workflows := by simp
  tasks := by simp
  payloads := by simp
  outbox := by simp
  artifacts := by simp
  idempotency := by simp
  leases := by simp

/-- A task row is still there after a move. -/
theorem Moved.task_ne_none {env : Env} {workflowId : String} {s s' : Store}
    {w row : WorkflowRecord} {next : Option (TaskType × Int)}
    (h : Moved env workflowId s s' w row next) {id : String} (ht : s.tasks.get? id ≠ none) :
    s'.tasks.get? id ≠ none := by
  rw [h.tasks]
  cases next with
  | none => exact ht
  | some p =>
      change (s.tasks.upsert _).get? id ≠ none
      rw [Table.get?_upsert]
      split
      · simp
      · exact ht

/-- A transition stores a reason exactly in the failure states: the table's own, or that of the
request for the two signals of the worker. -/
theorem transitionRow_reason (env : Env) {req : TransitionRequest} {w : WorkflowRecord}
    {d : TransitionDecision} {mx : Nat}
    (hd : TransitionTable.lookup w.state req.signal w.revisionCount mx = .ok d) :
    (transitionRow env req w d).failureReason.isSome = d.toState.carriesReason := by
  change (withFailureReason req d).setFailureReason.isSome = _
  unfold withFailureReason
  rcases (TransitionTable.lookup_cases hd).2 with
    ⟨-, -, -, rfl⟩ | ⟨-, hsig, -, rfl⟩ | ⟨row, hrow, rfl⟩ | hf
  · rfl
  · rw [hsig]
    rfl
  · cases hst : w.state <;> cases hsig : req.signal <;> rw [hst, hsig] at hrow <;> first
      | (cases hrow; rfl)
      | exact absurd hrow (by simp [primaryMatrix])
  · cases hsig : req.signal <;> rw [hsig] at hf <;> cases hf <;> rfl

theorem Moved.of_transition (env : Env) {req : TransitionRequest} {s : Store}
    {w : WorkflowRecord} (d : TransitionDecision)
    (hg : s.workflows.get? req.workflowId = some w)
    (hreason : (transitionRow env req w d).failureReason.isSome = d.toState.carriesReason) :
    Moved env req.workflowId s (transitionStore env req w d s) w (transitionRow env req w d)
      (decisionNext s req.workflowId d.outboxTaskType d.incrementLogicalVersion) := by
  have hid : w.workflowId = req.workflowId := Table.key_of_get? hg
  unfold transitionStore
  rw [buildForDecision_eq_nextBuild, hid]
  exact Moved.of_written env _ _ hg rfl (Nat.lt_succ_self _) rfl hreason

end WorkflowEngine

open WorkflowEngine TransitionExecutor

/-! ### Fresh dispatches -/

/-- The identifiers of a dispatch are not in use. -/
def Store.freshDispatch (s : Store) (env : Env) : Bool :=
  env.taskId ≠ "" && (s.tasks.get? env.taskId).isNone && (s.payloads.get? env.taskId).isNone &&
    (s.outbox.get? env.outboxId).isNone

/-- The task rows of a dispatch. -/
def newTasks (o : Option OutboxBuildResult) : List TaskRecord :=
  o.toList.map OutboxBuildResult.taskRecord

/-- The outbox rows of a dispatch. -/
def newOutboxRows (env : Env) (o : Option OutboxBuildResult) : List OutboxEntry :=
  o.toList.map fun o => newOutboxEntry env.insertedAt env.outboxId o.outboxInsert

theorem Store.freshDispatch_iff {s : Store} {env : Env} :
    s.freshDispatch env = true ↔ env.taskId ≠ "" ∧ s.tasks.get? env.taskId = none ∧
      s.payloads.get? env.taskId = none ∧ s.outbox.get? env.outboxId = none := by
  simp [Store.freshDispatch, and_assoc]

section Dispatch

variable {env : Env} {w : WorkflowRecord} {attempt : Nat} {next : Option (TaskType × Int)}
  {s : Store}

theorem dispatch_tasks_rows (hf : s.freshDispatch env = true) :
    (dispatch env (nextBuild env w attempt next) s).tasks.rows =
      s.tasks.rows ++ newTasks (nextBuild env w attempt next) := by
  cases next with
  | none => simp [nextBuild, newTasks]
  | some p =>
      change (s.tasks.upsert _).rows = _
      rw [Table.rows_upsert_of_get?_none (Store.freshDispatch_iff.mp hf).2.1]
      rfl

theorem dispatch_outbox_rows (hf : s.freshDispatch env = true) :
    (dispatch env (nextBuild env w attempt next) s).outbox.rows =
      s.outbox.rows ++ newOutboxRows env (nextBuild env w attempt next) := by
  cases next with
  | none => simp [nextBuild, newOutboxRows]
  | some p =>
      change (s.outbox.upsert _).rows = _
      rw [Table.rows_upsert_of_get?_none (Store.freshDispatch_iff.mp hf).2.2.2]
      rfl

/-- A dispatch keeps the stored payloads. -/
theorem dispatch_payloads_get (hf : s.freshDispatch env = true) {ref : String}
    {row : TaskPayloadRow} (h : s.payloads.get? ref = some row) :
    (dispatch env (nextBuild env w attempt next) s).payloads.get? ref = some row := by
  cases next with
  | none => simpa [nextBuild] using h
  | some p =>
      have hne : env.taskId ≠ ref := by
        intro he
        rw [← he, (Store.freshDispatch_iff.mp hf).2.2.1] at h
        exact absurd h (by simp)
      change (s.payloads.upsert _).get? ref = _
      rw [Table.get?_upsert]
      exact (if_neg hne).trans h

end Dispatch

end CartoonDemo
