import CartoonDemo.Workflow.Reconcile
import CartoonDemo.Workflow.RepoRefinement

/-!
# CartoonDemo.Workflow.OutboxAgreement

**Outbox, task, payload and history agree.** Four operations dispatch tasks: initiation,
transitions, approvals and the reconciler's repairs. Each builds its records with
`OutboxSpecBuilder.build` and writes them with `create_task` and the outbox insert, so what
one dispatch keeps (`OutboxSound.dispatch`) is kept by all of them.

The count ties the outbox to the whole history: as long as nothing is repaired, a workflow
has one outbox row from its initiation and one more for each recorded transition whose row
of the table names a task (`Counted`).

Artifacts are written by the workers in between and decide the logical versions, so runs
contain such writes too.
-/

namespace CartoonDemo

namespace RepoRefinement

open WorkflowEngine TransitionExecutor

/-! ### Operations -/

def EngineOp.env : EngineOp → Env
  | .initiate env _ | .transition env _ | .approval env _ _ _ => env

/-- The operations that write tasks, and the artifact writes between them. -/
inductive StoreOp
  | engine (op : EngineOp)
  | repair (env : Env) (plan : ReconciliationScanner.RepairPlan)
  | artifact (now : Time) (artifactId : String) (spec : ArtifactCreateSpec)

/-- The committed store after an operation; the identifiers it draws are fresh. -/
def StoreOp.apply (repo : WorkflowRepoKind) (cfg : AppConfig) (op : StoreOp) (s : Store) : Store :=
  match op with
  | .engine op => if s.freshDispatch op.env then next repo cfg op s else s
  | .repair env plan =>
      if s.freshDispatch env then
        match ReconciliationScanner.performRepair repo cfg env plan s with
        | .ok s' => s'
        | .error _ => s
      else s
  | .artifact now artifactId spec => commit s (createArtifact now artifactId spec s)

def StoreOp.isRepair : StoreOp → Bool
  | .repair _ _ => true
  | _ => false

/-! ### Agreement of the records -/

/-- The task row of an outbox row. -/
structure SameDispatch (e : OutboxEntry) (t : TaskRecord) : Prop where
  taskId : t.taskId = e.taskId
  workflowId : t.workflowId = e.workflowId
  taskType : t.taskType = e.taskType
  payloadReference : t.payloadReference = e.payloadReference
  idempotencyKey : t.idempotencyKey = e.idempotencyKey

/-- The logical version a stored payload stands for: `1` for the task types whose payload is
empty. -/
def payloadVersion (taskType : TaskType) (payload : TaskPayload) : Option Int :=
  match taskType with
  | .collect | .selectTopic => some 1
  | .generateScenario | .reviewScenario => payload.logicalVersion

/-- An outbox row with its task row and a stored payload of the version in its key. -/
structure OutboxSound (s : Store) (e : OutboxEntry) : Prop where
  task : ∃ t, s.tasks.get? e.taskId = some t ∧ SameDispatch e t
  payload : ∃ row n, s.payloads.get? e.payloadReference.refId = some row ∧
    payloadVersion e.taskType row.payload = some n ∧
    e.idempotencyKey = formatIdempotencyKey e.workflowId e.taskType n

/-- Every outbox row agrees with its task and payload. -/
def AllSound (s : Store) : Prop := ∀ e ∈ s.outbox.rows, OutboxSound s e

theorem AllSound.congr {s s' : Store} (h : AllSound s) (ht : s'.tasks = s.tasks)
    (hp : s'.payloads = s.payloads) (ho : s'.outbox = s.outbox) : AllSound s' := by
  intro e he
  rw [ho] at he
  obtain ⟨htask, hpayload⟩ := h e he
  exact ⟨by rw [ht]; exact htask, by rw [hp]; exact hpayload⟩

section Dispatch

variable {env : Env} {w : WorkflowRecord} {attempt : Nat} {next : Option (TaskType × Int)}
  {s s' : Store}

/-- The payload that is built for a version stands for that version. -/
theorem payloadVersion_build {tt : TaskType} {n : Int}
    (hfixed : tt = .collect ∨ tt = .selectTopic → n = 1) :
    payloadVersion tt (payloadForTaskType tt n) = some n := by
  cases tt with
  | collect => rw [hfixed (Or.inl rfl)]; rfl
  | selectTopic => rw [hfixed (Or.inr rfl)]; rfl
  | generateScenario => rfl
  | reviewScenario => rfl

/-- **One dispatch**: the rows that were there keep their task and payload, and the new outbox
row comes with its own. -/
theorem AllSound.dispatch (h : AllSound s) (hf : s.freshDispatch env = true)
    (hfixed : ∀ p ∈ next, p.1 = .collect ∨ p.1 = .selectTopic → p.2 = 1) :
    AllSound (dispatch env (nextBuild env w attempt next) s) := by
  intro e he
  rw [dispatch_outbox_rows hf] at he
  rcases List.mem_append.mp he with hold | hnew
  · obtain ⟨⟨t, ht, hsame⟩, row, n, hrow, hversion, hkey⟩ := h e hold
    refine ⟨⟨t, ?_, hsame⟩, row, n, dispatch_payloads_get hf hrow, hversion, hkey⟩
    -- a stored task keeps its row, since the new one has a fresh identifier
    refine Table.get?_eq_some_iff.mpr ⟨?_, Table.key_of_get? ht⟩
    rw [dispatch_tasks_rows hf]
    exact List.mem_append_left _ (Table.mem_of_get? ht)
  · cases next with
    | none => exact absurd hnew (by simp [nextBuild, newOutboxRows])
    | some p =>
        obtain rfl : e = newOutboxEntry env.insertedAt env.outboxId
            (OutboxSpecBuilder.build env w p.1 p.2 attempt).outboxInsert := by
          simpa [nextBuild, newOutboxRows] using hnew
        refine ⟨⟨(OutboxSpecBuilder.build env w p.1 p.2 attempt).taskRecord, ?_, ?_⟩, ?_⟩
        · refine Table.get?_eq_some_iff.mpr ⟨?_, rfl⟩
          rw [dispatch_tasks_rows hf]
          exact List.mem_append_right _ (by simp [nextBuild, newTasks])
        · exact ⟨rfl, rfl, rfl, rfl, rfl⟩
        · refine ⟨{ refId := env.taskId, payload := payloadForTaskType p.1 p.2 }, p.2, ?_,
            payloadVersion_build (hfixed p rfl), rfl⟩
          show (s.payloads.upsert _).get? env.taskId = _
          rw [Table.get?_upsert]
          exact if_pos rfl

/-- The write sequence of the executor. -/
theorem AllSound.written (h : AllSound s) (hf : s.freshDispatch env = true)
    (hfixed : ∀ p ∈ next, p.1 = .collect ∨ p.1 = .selectTopic → p.2 = 1) (row : WorkflowRecord)
    (tr : WorkflowTransitionRecord) :
    AllSound (written env row tr (nextBuild env w attempt next) s) :=
  (h.dispatch hf hfixed).congr (written_tasks ..) (written_payloads ..) (written_outbox ..)

end Dispatch

/-- An artifact write leaves workflows, history, tasks and outbox alone. -/
theorem createArtifact_frame (now : Time) (artifactId : String) (spec : ArtifactCreateSpec)
    (s : Store) :
    (commit s (createArtifact now artifactId spec s)).workflows = s.workflows ∧
      (commit s (createArtifact now artifactId spec s)).transitions = s.transitions ∧
      (commit s (createArtifact now artifactId spec s)).tasks = s.tasks ∧
      (commit s (createArtifact now artifactId spec s)).payloads = s.payloads ∧
      (commit s (createArtifact now artifactId spec s)).outbox = s.outbox := by
  unfold createArtifact
  split <;> exact ⟨rfl, rfl, rfl, rfl, rfl⟩

section Step

variable {repo : WorkflowRepoKind} {cfg : AppConfig} {s s' : Store}

theorem AllSound.executed {op : EngineOp} (h : AllSound s) (hf : s.freshDispatch op.env = true)
    (hx : Executed repo cfg s op s') : AllSound s' := by
  cases hx with
  | refused op _ => exact h
  | initiated env request workflowId ha hg =>
      have hfixed : ∀ p ∈ some (TaskType.collect, (1 : Int)),
          p.1 = .collect ∨ p.1 = .selectTopic → p.2 = 1 := by
        intro p hp _
        rw [← Option.some.inj hp]
      exact h.written hf hfixed _ _
  | transitioned env request w d hg hst hd hx =>
      unfold transitionStore
      rw [buildForDecision_eq_nextBuild]
      exact h.written hf decisionNext_fixed _ _
  | approved env workflowId action actor w hg hst hx =>
      rw [buildForDecision_eq_nextBuild]
      exact h.written hf decisionNext_fixed _ _

/-- **Every operation keeps the agreement.** -/
theorem AllSound.apply (h : AllSound s) (op : StoreOp) : AllSound (op.apply repo cfg s) := by
  cases op with
  | engine op =>
      unfold StoreOp.apply
      dsimp only
      split
      · next hf => exact h.executed hf (next_executed repo cfg op s)
      · exact h
  | repair env plan =>
      unfold StoreOp.apply
      dsimp only
      split
      · next hf =>
        cases plan with
        | recreate w tt attempt =>
            have hfixed : ∀ p ∈ some (tt, resolveForTask s w.workflowId tt
                (decide (tt = .generateScenario))),
                p.1 = .collect ∨ p.1 = .selectTopic → p.2 = 1 := by
              intro p hp
              rw [← Option.some.inj hp]
              exact resolveForTask_fixed
            exact h.dispatch hf hfixed
        | fail w =>
            split
            · next s' hr =>
              obtain ⟨⟨res, s''⟩, ha, rfl⟩ := except_map_ok hr
              obtain ⟨w', d, -, -, -, rfl, -, -, -⟩ := applyTransition_ok ha
              unfold transitionStore
              rw [buildForDecision_eq_nextBuild]
              exact h.written hf decisionNext_fixed _ _
            · exact h
      · exact h
  | artifact now artifactId spec =>
      unfold StoreOp.apply
      dsimp only
      obtain ⟨-, -, ht, hp, ho⟩ := createArtifact_frame now artifactId spec s
      exact h.congr ht hp ho

end Step

/-! ### The count

Each transition that names a task has one outbox row.
-/

def TransitionSignal.all : List TransitionSignal :=
  [.stageCompleted, .noSuitableTopic, .criticRevise, .criticPass, .unrecoverableError,
   .retriesExhausted, .reconciliationRepair]

def ApprovalAction.all : List ApprovalAction := [.approve, .reject, .requestRegeneration]

/-- The edge is a row of `_PRIMARY_MATRIX`, or of `_APPROVAL_MATRIX` out of the approval
state, that names an outbox task. -/
def namesTask (fromState toState : WorkflowState) : Bool :=
  TransitionSignal.all.any (fun signal => (primaryMatrix fromState signal).any
    (fun row => row.toState = toState && row.outboxTaskType.isSome)) ||
  (fromState = .awaitingHumanApproval && ApprovalAction.all.any
    (fun action => (approvalMatrix action).toState = toState &&
      (approvalMatrix action).outboxTaskType.isSome))

/-- The edge of a decision names a task exactly when the decision does. -/
theorem lookup_namesTask {st : WorkflowState} {sig : TransitionSignal} {rc mx : Nat}
    {d : TransitionDecision} (h : TransitionTable.lookup st sig rc mx = .ok d) :
    namesTask st d.toState = d.outboxTaskType.isSome := by
  rcases (TransitionTable.lookup_cases h).2 with ⟨rfl, -, -, rfl⟩ | ⟨rfl, -, -, rfl⟩ | ⟨row, hrow, rfl⟩ | hf
  · exact (by decide : namesTask .reviewing .reviewFailed = false)
  · exact (by decide : namesTask .reviewing .revisionRequired = false)
  · cases st <;> cases sig <;> first | (cases hrow; decide) | exact absurd hrow (by simp [primaryMatrix])
  · cases sig <;> cases hf <;> cases st <;> decide

theorem approval_namesTask (action : ApprovalAction) :
    namesTask .awaitingHumanApproval (approvalMatrix action).toState =
      (approvalMatrix action).outboxTaskType.isSome := by
  cases action <;> decide

/-- The outbox rows of a workflow. -/
def outboxOf (s : Store) (workflowId : String) : List OutboxEntry :=
  s.outbox.rows.filter (fun e => e.workflowId = workflowId)

/-- The number of its transitions whose row of the table names a task. -/
def dispatchingTransitions (s : Store) (workflowId : String) : Nat :=
  (s.history workflowId).countP (fun t => namesTask t.fromState t.toState)

/-- A workflow has one outbox row from its initiation and one for each such transition. -/
def Counted (s : Store) : Prop :=
  ∀ workflowId, (outboxOf s workflowId).length =
    (if (s.workflows.get? workflowId).isSome then 1 else 0) + dispatchingTransitions s workflowId

theorem Counted.congr {s s' : Store} (h : Counted s) (hw : s'.workflows = s.workflows)
    (ht : s'.transitions = s.transitions) (ho : s'.outbox = s.outbox) : Counted s' := by
  intro workflowId
  have := h workflowId
  unfold outboxOf dispatchingTransitions Store.history at this ⊢
  rw [hw, ht, ho]
  exact this

/-- The outbox rows of a workflow after a dispatch. -/
theorem outboxOf_dispatch {env : Env} {w : WorkflowRecord} {attempt : Nat}
    {next : Option (TaskType × Int)} {s : Store} (hf : s.freshDispatch env = true)
    (workflowId : String) :
    (outboxOf (dispatch env (nextBuild env w attempt next) s) workflowId).length =
      (outboxOf s workflowId).length +
        if w.workflowId = workflowId ∧ next.isSome then 1 else 0 := by
  unfold outboxOf
  rw [dispatch_outbox_rows hf, List.filter_append, List.length_append]
  cases next with
  | none => simp [nextBuild, newOutboxRows]
  | some p =>
      by_cases hid : w.workflowId = workflowId
      · simp [nextBuild, newOutboxRows, newOutboxEntry, OutboxSpecBuilder.build, hid]
      · simp [nextBuild, newOutboxRows, newOutboxEntry, OutboxSpecBuilder.build, hid]

/-- The dispatching transitions of a workflow after one more record. -/
theorem dispatchingTransitions_written (env : Env) (row : WorkflowRecord)
    (tr : WorkflowTransitionRecord) (o : Option OutboxBuildResult) (s : Store)
    (workflowId : String) :
    dispatchingTransitions (written env row tr o s) workflowId =
      dispatchingTransitions s workflowId +
        if tr.workflowId = workflowId ∧ namesTask tr.fromState tr.toState then 1 else 0 := by
  unfold dispatchingTransitions
  rw [written_history, List.countP_append]
  by_cases hid : tr.workflowId = workflowId
  · by_cases hn : namesTask tr.fromState tr.toState
    · simp [hid, hn]
    · simp [hid, hn]
  · simp [hid]

/-- **One move** of a stored workflow keeps the count. -/
theorem Counted.moved {env : Env} {w row : WorkflowRecord} {tr : WorkflowTransitionRecord}
    {next : Option (TaskType × Int)} {s : Store} {id : String} (h : Counted s)
    (hf : s.freshDispatch env = true) (hg : s.workflows.get? id = some w)
    (hrow : row.workflowId = id) (htr : tr.workflowId = id)
    (hedge : namesTask tr.fromState tr.toState = next.isSome) :
    Counted (written env row tr (nextBuild env w 1 next) s) := by
  have hw : w.workflowId = id := Table.key_of_get? hg
  intro workflowId
  have hcount := h workflowId
  have hstored : ((written env row tr (nextBuild env w 1 next) s).workflows.get? workflowId).isSome
      = (s.workflows.get? workflowId).isSome := by
    rw [written_workflows, Table.get?_upsert]
    by_cases hid : row.workflowId = workflowId
    · rw [if_pos hid, ← hid, hrow, hg]
      rfl
    · rw [if_neg hid]
  have hlen : (outboxOf (written env row tr (nextBuild env w 1 next) s) workflowId).length =
      (outboxOf (dispatch env (nextBuild env w 1 next) s) workflowId).length := by
    unfold outboxOf
    rw [written_outbox]
  rw [hlen, outboxOf_dispatch hf, dispatchingTransitions_written, hstored, hcount, hw, htr, hedge]
  omega

/-- **Initiation** adds the workflow and its first outbox row. -/
theorem Counted.initiated {env : Env} {id : String} {actor : Option String} {s : Store}
    (h : Counted s) (hf : s.freshDispatch env = true) (hg : s.workflows.get? id = none) :
    Counted (initiatedStore env id actor s) := by
  intro workflowId
  have hcount := h workflowId
  have hlen : (outboxOf (initiatedStore env id actor s) workflowId).length =
      (outboxOf (dispatch env (nextBuild env (newWorkflow env.createdAt id) 1
        (some (.collect, 1))) s) workflowId).length := by
    unfold outboxOf initiatedStore
    rw [written_outbox]
    rfl
  have hnone : namesTask .created .collecting = false := by decide
  have htrans : dispatchingTransitions (initiatedStore env id actor s) workflowId =
      dispatchingTransitions s workflowId := by
    unfold initiatedStore
    rw [dispatchingTransitions_written]
    simp [buildTransition, hnone]
  rw [hlen, outboxOf_dispatch hf, htrans, hcount]
  unfold initiatedStore
  rw [written_workflows, Table.get?_upsert]
  by_cases hid : id = workflowId
  · subst hid
    have hrow : (initiatedRow env id).workflowId = id := rfl
    have hnew : (newWorkflow env.createdAt id).workflowId = id := rfl
    rw [if_pos hrow, hg, hnew]
    simp
    omega
  · have hrow : ¬ (initiatedRow env id).workflowId = workflowId := hid
    have hnew : ¬ (newWorkflow env.createdAt id).workflowId = workflowId := hid
    rw [if_neg hrow]
    simp [hnew]

theorem Counted.executed {repo : WorkflowRepoKind} {cfg : AppConfig} {s s' : Store}
    {op : EngineOp} (h : Counted s) (hf : s.freshDispatch op.env = true)
    (hx : Executed repo cfg s op s') : Counted s' := by
  cases hx with
  | refused op _ => exact h
  | initiated env request workflowId ha hg => exact h.initiated hf hg
  | transitioned env request w d hg hst hd hx =>
      have hid : w.workflowId = request.workflowId := Table.key_of_get? hg
      unfold transitionStore
      rw [buildForDecision_eq_nextBuild]
      refine h.moved hf hg hid rfl ?_
      rw [decisionNext, Option.isSome_map]
      exact lookup_namesTask hd
  | approved env workflowId action actor w hg hst hx =>
      have hid : w.workflowId = workflowId := Table.key_of_get? hg
      rw [buildForDecision_eq_nextBuild]
      refine h.moved hf hg hid rfl ?_
      rw [decisionNext, Option.isSome_map]
      show namesTask w.state _ = _
      rw [hst]
      exact approval_namesTask action

/-- Every operation but a repair keeps the count. -/
theorem Counted.apply {repo : WorkflowRepoKind} {cfg : AppConfig} {s : Store} (h : Counted s)
    {op : StoreOp} (hop : op.isRepair = false) : Counted (op.apply repo cfg s) := by
  cases op with
  | engine op =>
      unfold StoreOp.apply
      dsimp only
      split
      · next hf => exact h.executed hf (next_executed repo cfg op s)
      · exact h
  | repair env plan => exact absurd hop (by simp [StoreOp.isRepair])
  | artifact now artifactId spec =>
      obtain ⟨hw, ht, -, -, ho⟩ := createArtifact_frame now artifactId spec s
      exact h.congr hw ht ho

/-! ### Every run -/

/-- **State, task, payload and outbox agree.** After every run of initiations, transitions,
approvals and repairs, each outbox row has exactly one task row with its identifiers, type,
payload reference and key, and a stored payload of the version in that key; and after every
run without repairs the outbox rows of a workflow are one more than its transitions that
name a task. -/
theorem run_outbox_agrees (repo : WorkflowRepoKind) (cfg : AppConfig) :
    (∀ (ops : List StoreOp), ∀ e ∈ (run (StoreOp.apply repo cfg) {} ops).outbox.rows,
      (∃! t, t ∈ (run (StoreOp.apply repo cfg) {} ops).tasks.rows ∧ SameDispatch e t) ∧
      ∃ row n, (run (StoreOp.apply repo cfg) {} ops).payloads.get? e.payloadReference.refId =
          some row ∧ payloadVersion e.taskType row.payload = some n ∧
        e.idempotencyKey = formatIdempotencyKey e.workflowId e.taskType n) ∧
    ∀ (ops : List StoreOp), (∀ op ∈ ops, op.isRepair = false) →
      ∀ workflowId, (run (StoreOp.apply repo cfg) {} ops).workflows.get? workflowId ≠ none →
        (outboxOf (run (StoreOp.apply repo cfg) {} ops) workflowId).length =
          1 + dispatchingTransitions (run (StoreOp.apply repo cfg) {} ops) workflowId := by
  refine ⟨?_, ?_⟩
  · intro ops e he
    have hsound : AllSound (run (StoreOp.apply repo cfg) {} ops) :=
      run_induction (motive := AllSound) (fun _ => True) (fun _ op _ h => h.apply op)
        (by intro e he; exact absurd he (by simp)) (fun _ _ => trivial)
    obtain ⟨⟨t, ht, hsame⟩, hpayload⟩ := hsound e he
    refine ⟨⟨t, ⟨Table.mem_of_get? ht, hsame⟩, ?_⟩, hpayload⟩
    -- another row with this identifier would be the same row
    intro t' ht'
    exact Table.eq_of_key_eq _ ht'.1 (Table.mem_of_get? ht)
      (ht'.2.taskId.trans hsame.taskId.symm)
  · intro ops hops workflowId hstored
    have hcounted : Counted (run (StoreOp.apply repo cfg) {} ops) :=
      run_induction (motive := Counted) (fun op => op.isRepair = false)
        (fun _ op hop h => h.apply hop)
        (by intro id; rfl) hops
    have hsome := Option.isSome_iff_ne_none.mpr hstored
    rw [hcounted workflowId, if_pos hsome]

/-- The sample run has outbox rows, and as many as its history says. -/
theorem revisionRun_outbox_agrees :
    (∃ e ∈ (run (StoreOp.apply .fakes .prod) {} (revisionRun.map .engine)).outbox.rows,
      ∃! t, t ∈ (run (StoreOp.apply .fakes .prod) {} (revisionRun.map .engine)).tasks.rows ∧
        SameDispatch e t) ∧
    (outboxOf (run (StoreOp.apply .fakes .prod) {} (revisionRun.map .engine)) "wf-0").length =
      1 + dispatchingTransitions (run (StoreOp.apply .fakes .prod) {} (revisionRun.map .engine))
        "wf-0" := by
  refine ⟨?_, ?_⟩
  · have hrows : (run (StoreOp.apply .fakes .prod) {} (revisionRun.map .engine)).outbox.rows ≠ [] := by
      decide +kernel
    obtain ⟨e, he⟩ := List.exists_mem_of_ne_nil _ hrows
    exact ⟨e, he, ((run_outbox_agrees .fakes .prod).1 _ e he).1⟩
  · exact (run_outbox_agrees .fakes .prod).2 (revisionRun.map .engine) (by decide +kernel) "wf-0"
      (by decide +kernel)

end RepoRefinement

end CartoonDemo
