import CartoonDemo.Library.Run
import CartoonDemo.Workflow.EngineSpec

/-!
# CartoonDemo.Workflow.RepoRefinement

**Two workflow repositories under one engine.** The engine is tested over the in-memory
repository of `workflow.fakes` and runs in production over `PostgresWorkflowRepo`. Here
both run the same sequence of engine operations, and what a caller sees is compared step by
step: the result or error, and the state, version, failure reason and revision count of
every row.

They agree on every call the executor makes without `revision_count`
(`updateWorkflowState_repo_eq`). The one decision that passes it is the critic's revise
below the revision cap, and there they part.
-/

namespace CartoonDemo

namespace RepoRefinement

open WorkflowEngine TransitionExecutor

/-! ### Operations and what is seen of them

What is seen is the result of an operation, and the rows without their times.
-/

inductive EngineOp
  | initiate (env : Env) (request : InitiateWorkflowRequest)
  | transition (env : Env) (request : TransitionRequest)
  | approval (env : Env) (workflowId : String) (action : ApprovalAction) (actor : Option String)
  deriving DecidableEq, Repr

inductive OpResult
  | initiated (result : InitiateWorkflowResult)
  | transitioned (result : TransitionResult)
  | approved (result : ApprovalActionResult)
  deriving DecidableEq, Repr

/-- The operation over one of the repositories. -/
def EngineOp.exec (repo : WorkflowRepoKind) (cfg : AppConfig) (s : Store) :
    EngineOp → Except PyException (OpResult × Store)
  | .initiate env request =>
      (initiateWorkflow repo env request s).map fun r => (.initiated r.1, r.2)
  | .transition env request =>
      (applyTransition repo cfg env request s).map fun r => (.transitioned r.1, r.2)
  | .approval env workflowId action actor =>
      (applyApprovalAction repo env workflowId action actor s).map fun r => (.approved r.1, r.2)

/-- The columns of a workflow row that are compared. -/
structure RowView where
  workflowId : String
  state : WorkflowState
  stateVersion : Nat
  failureReason : Option String
  revisionCount : Nat
  deriving DecidableEq, Repr

def rowView (w : WorkflowRecord) : RowView :=
  { workflowId := w.workflowId, state := w.state, stateVersion := w.stateVersion,
    failureReason := w.failureReason, revisionCount := w.revisionCount }

/-- What is seen of one step: its result or error, and the rows after it. -/
structure Observation where
  outcome : Except PyException OpResult
  rows : List RowView

/-- The committed store after an operation. -/
def next (repo : WorkflowRepoKind) (cfg : AppConfig) (op : EngineOp) (s : Store) : Store :=
  commit s (op.exec repo cfg s)

def observe (repo : WorkflowRepoKind) (cfg : AppConfig) (op : EngineOp) (s : Store) :
    Observation :=
  { outcome := (op.exec repo cfg s).map Prod.fst
    rows := (next repo cfg op s).workflows.rows.map rowView }

/-- The observations of a whole sequence of operations. -/
def trace (repo : WorkflowRepoKind) (cfg : AppConfig) : Store → List EngineOp → List Observation
  | _, [] => []
  | s, op :: ops => observe repo cfg op s :: trace repo cfg (next repo cfg op s) ops

/-- The operation is `apply_transition` with the critic's revise, expecting `REVIEWING`, on a
workflow in `REVIEWING` that has revisions left. -/
def EngineOp.revisesBelowCap (cfg : AppConfig) (s : Store) : EngineOp → Bool
  | .transition _ request =>
      request.expectedState = .reviewing && request.signal = .criticRevise &&
        (getWorkflow s request.workflowId).any (fun w =>
          w.state = .reviewing && w.revisionCount < cfg.maxScenarioRevisions)
  | _ => false

/-! ### What one operation does -/

/-- The store after an operation: it is left alone, or the operation has written. -/
inductive Executed (repo : WorkflowRepoKind) (cfg : AppConfig) (s : Store) :
    EngineOp → Store → Prop
  | refused (op : EngineOp) (h : (op.exec repo cfg s).toOption = none) : Executed repo cfg s op s
  | initiated (env : Env) (request : InitiateWorkflowRequest) (workflowId : String)
      (ha : allocate env request = .ok workflowId) (h : s.workflows.get? workflowId = none) :
      Executed repo cfg s (.initiate env request) (initiatedStore env workflowId request.actor s)
  | transitioned (env : Env) (request : TransitionRequest) (w : WorkflowRecord)
      (d : TransitionDecision) (h : s.workflows.get? request.workflowId = some w)
      (hst : w.state = request.expectedState)
      (hd : TransitionTable.lookup w.state request.signal w.revisionCount
        cfg.maxScenarioRevisions = .ok d)
      (hx : ((EngineOp.transition env request).exec repo cfg s).toOption ≠ none) :
      Executed repo cfg s (.transition env request) (transitionStore env request w d s)
  | approved (env : Env) (workflowId : String) (action : ApprovalAction) (actor : Option String)
      (w : WorkflowRecord) (h : s.workflows.get? workflowId = some w)
      (hst : w.state = .awaitingHumanApproval)
      (hx : ((EngineOp.approval env workflowId action actor).exec repo cfg s).toOption ≠ none) :
      Executed repo cfg s (.approval env workflowId action actor)
        (written env (updatedRow w env.updatedAt (approvalMatrix action).toState none none)
          (buildTransition env workflowId w.state (approvalMatrix action).toState
            ("approval_" ++ action.value) actor)
          (OutboxSpecBuilder.buildForDecision env w (approvalMatrix action).outboxTaskType
            (approvalMatrix action).incrementLogicalVersion s) s)

theorem next_executed (repo : WorkflowRepoKind) (cfg : AppConfig) (op : EngineOp) (s : Store) :
    Executed repo cfg s op (next repo cfg op s) := by
  unfold next
  cases hx : op.exec repo cfg s with
  | error e => exact .refused op (by rw [hx]; rfl)
  | ok r =>
      have hsome : (op.exec repo cfg s).toOption ≠ none := by rw [hx]; simp [Except.toOption]
      rw [commit_ok]
      cases op with
      | initiate env request =>
          obtain ⟨⟨res, s'⟩, hi, rfl⟩ := except_map_ok hx
          obtain ⟨id, ha, hnone, rfl⟩ := initiateWorkflow_ok hi
          exact .initiated env request id ha hnone
      | transition env request =>
          obtain ⟨⟨res, s'⟩, hi, rfl⟩ := except_map_ok hx
          obtain ⟨w, d, hg, hst, hd, rfl, -, -, -⟩ := applyTransition_ok hi
          exact .transitioned env request w d hg hst hd hsome
      | approval env workflowId action actor =>
          obtain ⟨⟨res, s'⟩, hi, rfl⟩ := except_map_ok hx
          obtain ⟨w, hg, hst, rfl⟩ := applyApprovalAction_ok hi
          exact .approved env workflowId action actor w hg hst hsome

/-! ### One call

The repositories differ in `update_workflow_state` alone.
-/

/-- Without `revision_count` the two updates are the same function. -/
theorem updateWorkflowState_repo_eq (now : Time) (workflowId : String) (v : Nat)
    (st : WorkflowState) (fr : Option String) (s : Store) :
    updateWorkflowState .postgres now workflowId v st fr none s =
      updateWorkflowState .fakes now workflowId v st fr none s := by
  simp only [updateWorkflowState, Postgres.updateWorkflowState, Fakes.updateWorkflowState,
    find_matchesVersion]
  cases hg : s.workflows.get? workflowId with
  | none =>
      have hany : ¬ s.workflows.rows.any (fun r => r.workflowId = workflowId) = true := by
        intro hany
        obtain ⟨r, hr, hrk⟩ := List.any_eq_true.mp hany
        exact Table.get?_eq_none_iff.mp hg r hr (by simpa using hrk)
      rw [Option.filter_none]
      simp only [if_neg hany]
  | some existing =>
      obtain ⟨hr, hrk⟩ := Table.get?_eq_some_iff.mp hg
      by_cases hv : existing.stateVersion = v
      · rw [Option.filter_some_pos (by simpa using hv)]
        simp only [ne_eq, hv, not_true_eq_false, if_false]
        rfl
      · have hany : s.workflows.rows.any (fun r => r.workflowId = workflowId) = true :=
          List.any_eq_true.mpr ⟨existing, hr, by simpa using hrk⟩
        rw [Option.filter_some_neg (by simpa using hv)]
        simp only [if_pos hany, ne_eq, hv, not_false_eq_true, if_true]

theorem write_repo_eq (env : Env) (w : WorkflowRecord) (st : WorkflowState)
    (fr : Option String) (tr : WorkflowTransitionRecord) (o : Option OutboxBuildResult)
    (s : Store) : write .postgres env w st fr none tr o s = write .fakes env w st fr none tr o s := by
  unfold write
  rw [updateWorkflowState_repo_eq]

theorem createWorkflow_repo_eq {now : Time} {workflowId : String} {s : Store}
    (h : s.workflows.get? workflowId = none) :
    createWorkflow .postgres now workflowId s = createWorkflow .fakes now workflowId s := by
  rw [createWorkflow_of_get_none h, createWorkflow_of_get_none h]

theorem initiateWorkflow_repo_eq (env : Env) (req : InitiateWorkflowRequest) (s : Store) :
    initiateWorkflow .postgres env req s = initiateWorkflow .fakes env req s := by
  unfold initiateWorkflow
  cases ha : allocate env req with
  | error e => rfl
  | ok workflowId =>
      change (validateNoDuplicate workflowId s >>= fun _ => _) =
        (validateNoDuplicate workflowId s >>= fun _ => _)
      unfold validateNoDuplicate getWorkflow
      cases hg : s.workflows.get? workflowId with
      | some w => rfl
      | none =>
          change finishInitiate .postgres env workflowId req.actor s =
            finishInitiate .fakes env workflowId req.actor s
          unfold finishInitiate executeInitiate
          rw [createWorkflow_repo_eq hg]
          simp only [write_repo_eq]

theorem applyApprovalAction_repo_eq (env : Env) (workflowId : String) (action : ApprovalAction)
    (actor : Option String) (s : Store) :
    applyApprovalAction .postgres env workflowId action actor s =
      applyApprovalAction .fakes env workflowId action actor s := by
  unfold applyApprovalAction PreparedApproval.execute executeApproval
  simp only [write_repo_eq]

/-- The repositories agree on a transition whose decision leaves the revision count
alone. -/
theorem applyTransition_repo_eq {cfg : AppConfig} (env : Env) {req : TransitionRequest}
    {s : Store} (h : ¬ (EngineOp.transition env req).revisesBelowCap cfg s) :
    applyTransition .postgres cfg env req s = applyTransition .fakes cfg env req s := by
  unfold applyTransition
  cases hg : getWorkflow s req.workflowId with
  | none => rfl
  | some w =>
      change (prepareTransition cfg env req w s >>= fun p => p.execute .postgres env s) =
        (prepareTransition cfg env req w s >>= fun p => p.execute .fakes env s)
      cases hp : prepareTransition cfg env req w s with
      | error e => rfl
      | ok p =>
          obtain ⟨he, d, hd, rfl⟩ := prepareTransition_ok_iff.mp hp
          have hrev : d.incrementRevisionCount = false := by
            rw [← Bool.not_eq_true, TransitionTable.lookup_incrementRevisionCount hd]
            intro hcap
            obtain ⟨hst, hsig, hlt⟩ := hcap
            exact h (by simp [EngineOp.revisesBelowCap, hg, hst, hsig, hlt, ← he])
          change executeTransition .postgres env w _ _ _ _ s = executeTransition .fakes env w _ _ _ _ s
          unfold executeTransition
          simp only [preparedFor, hrev, Bool.false_eq_true, if_false, write_repo_eq]

/-- The repositories agree on every operation but the critic's revise below the cap. -/
theorem exec_repo_eq {cfg : AppConfig} {op : EngineOp} {s : Store}
    (h : ¬ op.revisesBelowCap cfg s) : op.exec .postgres cfg s = op.exec .fakes cfg s := by
  cases op with
  | initiate env request => simp only [EngineOp.exec, initiateWorkflow_repo_eq]
  | transition env request => simp only [EngineOp.exec, applyTransition_repo_eq env h]
  | approval env workflowId action actor =>
      simp only [EngineOp.exec, applyApprovalAction_repo_eq]

/-- On the critic's revise below the cap the in-memory repository stores the new count and
the PostgreSQL repository raises `TypeError`. -/
theorem exec_diverges {cfg : AppConfig} {op : EngineOp} {s : Store}
    (h : op.revisesBelowCap cfg s) :
    op.exec .postgres cfg s = .error Postgres.unexpectedKeyword ∧
      ∃ r, op.exec .fakes cfg s = .ok r := by
  cases op with
  | initiate env request => exact absurd h (by simp [EngineOp.revisesBelowCap])
  | approval env workflowId action actor => exact absurd h (by simp [EngineOp.revisesBelowCap])
  | transition env req =>
      simp only [EngineOp.revisesBelowCap, Bool.and_eq_true, decide_eq_true_eq,
        Option.any_eq_true] at h
      obtain ⟨⟨he, hsig⟩, w, hg, hst, hlt⟩ := h
      -- the decision of the table in this case
      have hd : TransitionTable.lookup w.state req.signal w.revisionCount
          cfg.maxScenarioRevisions =
          .ok { fromState := w.state, toState := .revisionRequired, signal := req.signal,
                incrementRevisionCount := true } := by
        rw [hst, hsig]
        simp [TransitionTable.lookup, WorkflowState.isTerminal, WorkflowState.isPause,
          Nat.not_le.mpr hlt]
      have hp : prepareTransition cfg env req w s = .ok (preparedFor env req w _ s) :=
        prepareTransition_ok_iff.mpr ⟨hst.trans he.symm, _, hd, rfl⟩
      constructor
      · simp only [EngineOp.exec, applyTransition, hg]
        rw [hp]
        rfl
      · have hrepo : WorkflowRepoKind.fakes = .postgres → true = false := fun h => nomatch h
        obtain ⟨res, hok⟩ := applyTransition_of_lookup env hg (hst.trans he.symm) hd hrepo
        rw [EngineOp.exec, hok]
        exact ⟨_, rfl⟩

/-! ### Every sequence of operations -/

theorem observe_eq_iff {cfg : AppConfig} {op : EngineOp} {s : Store} :
    observe .postgres cfg op s = observe .fakes cfg op s ↔ ¬ op.revisesBelowCap cfg s := by
  constructor
  · intro heq hrev
    obtain ⟨hpg, r, hfk⟩ := exec_diverges hrev
    have hout := congrArg Observation.outcome heq
    rw [observe, observe, hpg, hfk] at hout
    exact absurd hout (by simp [Except.map])
  · intro h
    unfold observe next
    rw [exec_repo_eq h]

/-- **The repositories refine each other up to the revision branch.** From any tables, a
sequence of engine operations is observed alike over both repositories exactly when none of
its steps is the critic's revise on a workflow in `REVIEWING` with revisions left. -/
theorem trace_repo_eq_iff (cfg : AppConfig) (ops : List EngineOp) (s : Store) :
    trace .postgres cfg s ops = trace .fakes cfg s ops ↔
      Along (next .fakes cfg) (fun s op => ¬ op.revisesBelowCap cfg s) s ops := by
  induction ops generalizing s with
  | nil => simp [trace]
  | cons op ops ih =>
      rw [trace, trace, List.cons.injEq, along_cons, observe_eq_iff]
      constructor
      · intro h
        obtain ⟨hop, hrest⟩ := h
        refine ⟨hop, (ih _).mp ?_⟩
        unfold next at hrest ⊢
        rw [exec_repo_eq hop] at hrest
        exact hrest
      · intro h
        obtain ⟨hop, hrest⟩ := h
        refine ⟨hop, ?_⟩
        have hrest' := (ih _).mpr hrest
        unfold next at hrest' ⊢
        rw [exec_repo_eq hop]
        exact hrest'

/-! ### The revision branch is reached -/

/-- A transition of the sample workflow, with the identifiers numbered `n`. -/
def sampleTransition (n : Nat) (expected : WorkflowState) (signal : TransitionSignal) :
    EngineOp :=
  .transition (Env.numbered 0 n)
    { workflowId := "wf-0", expectedState := expected, signal := signal, reason := "worker" }

/-- A workflow is initiated, goes through its stages to `REVIEWING`, and the critic asks for
a revision. -/
def revisionRun : List EngineOp :=
  [.initiate (Env.numbered 0 0) {}, sampleTransition 1 .collecting .stageCompleted,
   sampleTransition 2 .collected .stageCompleted,
   sampleTransition 3 .selectingTopic .stageCompleted,
   sampleTransition 4 .topicSelected .stageCompleted,
   sampleTransition 5 .generatingScenario .stageCompleted,
   sampleTransition 6 .scenarioGenerated .stageCompleted,
   sampleTransition 7 .reviewing .criticRevise]

/-- From empty tables, with three revisions allowed, the critic's first revise is stored by
the in-memory repository and raises `TypeError` over PostgreSQL. -/
theorem trace_repo_ne_revisionRun :
    trace .postgres .prod {} revisionRun ≠
      trace .fakes .prod {} revisionRun := by
  intro heq
  have hlast := congrArg (fun t => (t.getLast?).map (fun o => o.outcome.toBool)) heq
  exact absurd hlast (by decide)

end RepoRefinement

end CartoonDemo
