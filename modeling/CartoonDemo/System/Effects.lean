import CartoonDemo.System.Model
import CartoonDemo.Worker.LoopSpec

/-!
# CartoonDemo.System.Effects

What a step of the system can do to the **database**. `StoreStep` lists it once: a quiet
change of statuses and leases, a published mark, a new workflow, a move of a workflow, a
recreated task, a committed stage. The invariants of the later modules are proved against
these six and never against the actions.

What the six have in common is `Grows`: task and outbox rows are never removed and keep
their identifying columns, at most one task is dispatched, and completions stay recorded.
-/

namespace CartoonDemo

open WorkflowEngine TransitionExecutor WorkerLoop

/-! ### Rows that only grow -/

/-- The columns of a task row that never change. -/
structure TaskRecord.SameTask (t t' : TaskRecord) : Prop where
  taskId : t'.taskId = t.taskId
  workflowId : t'.workflowId = t.workflowId
  taskType : t'.taskType = t.taskType
  payloadReference : t'.payloadReference = t.payloadReference
  idempotencyKey : t'.idempotencyKey = t.idempotencyKey

theorem TaskRecord.SameTask.refl (t : TaskRecord) : t.SameTask t := ⟨rfl, rfl, rfl, rfl, rfl⟩

theorem TaskRecord.SameTask.trans {t t' t'' : TaskRecord} (h : t.SameTask t')
    (h' : t'.SameTask t'') : t.SameTask t'' :=
  ⟨h'.taskId.trans h.taskId, h'.workflowId.trans h.workflowId, h'.taskType.trans h.taskType,
    h'.payloadReference.trans h.payloadReference, h'.idempotencyKey.trans h.idempotencyKey⟩

theorem updatedTask_same (t : TaskRecord) (now : Time) (status : TaskStatus)
    (attempt : Option Nat) (failureReason : Option String) (completedAt : Option Time) :
    t.SameTask (updatedTask t now status attempt failureReason completedAt) :=
  ⟨rfl, rfl, rfl, rfl, rfl⟩

/-- What all steps have in common: rows stay, at most one task comes in, completions are
kept. -/
structure Grows (env : Env) (w : WorkflowRecord) (attempt : Nat)
    (next : Option (TaskType × Int)) (s s' : Store) : Prop where
  tasks : ∃ f : TaskRecord → TaskRecord, (∀ t, TaskRecord.SameTask t (f t)) ∧
    s'.tasks.rows = s.tasks.rows.map f ++ newTasks (nextBuild env w attempt next)
  /-- A completed row was completed before, or its completion is recorded. -/
  status : ∀ t' ∈ s'.tasks.rows, t'.status = .completed →
    (∃ t ∈ s.tasks.rows, t.SameTask t' ∧ t.status = .completed) ∨
      s'.completed t'.idempotencyKey = true
  outbox : s'.outbox.rows = s.outbox.rows ++ newOutboxRows env (nextBuild env w attempt next)
  payloads : ∀ ref row, s.payloads.get? ref = some row → s'.payloads.get? ref = some row
  newPayload : ∀ p ∈ next, s'.payloads.get? env.taskId =
    some { refId := env.taskId, payload := payloadForTaskType p.1 p.2 }
  /-- Collection and topic selection have the one version `1`. -/
  fixed : ∀ p ∈ next, p.1 = .collect ∨ p.1 = .selectTopic → p.2 = 1
  fresh : next ≠ none → s.freshDispatch env = true
  workflows : ∀ id, s.workflows.get? id ≠ none → s'.workflows.get? id ≠ none
  target : next ≠ none → s'.workflows.get? w.workflowId ≠ none
  completed : ∀ key, s.completed key = true → s'.completed key = true

/-! ### Quiet changes

Changes that no other party of the system acts on.
-/

/-- Statuses of tasks other than completion, and leases. -/
structure Quiet (s s' : Store) : Prop where
  workflows : s'.workflows = s.workflows
  transitions : s'.transitions = s.transitions
  tasks : ∃ f : TaskRecord → TaskRecord, (∀ t, TaskRecord.SameTask t (f t)) ∧
    (∀ t, (f t).status = .completed → t.status = .completed) ∧
    s'.tasks.rows = s.tasks.rows.map f
  payloads : s'.payloads = s.payloads
  outbox : s'.outbox = s.outbox
  artifacts : s'.artifacts = s.artifacts
  idempotency : s'.idempotency = s.idempotency

theorem Quiet.refl (s : Store) : Quiet s s where
  workflows := rfl
  transitions := rfl
  tasks := ⟨id, TaskRecord.SameTask.refl, fun _ h => h, by simp⟩
  payloads := rfl
  outbox := rfl
  artifacts := rfl
  idempotency := rfl

/-- A change of the lease table only. -/
theorem Quiet.of_leases (s : Store) (leases : Table TaskLease.taskId) :
    Quiet s { s with leases := leases } where
  workflows := rfl
  transitions := rfl
  tasks := ⟨id, TaskRecord.SameTask.refl, fun _ h => h, by simp⟩
  payloads := rfl
  outbox := rfl
  artifacts := rfl
  idempotency := rfl

theorem Quiet.of_releaseLease (s : Store) (leaseId : String) :
    Quiet s (releaseLease leaseId s) := by
  unfold releaseLease
  cases s.leases.rows.find? (fun l => l.leaseId = leaseId) with
  | none => exact Quiet.refl s
  | some l => exact Quiet.of_leases s _

theorem Quiet.of_tryAcquireLease {s s' : Store} {leaseId taskId workerId : String}
    (h : tryAcquireLease leaseId taskId workerId s = some s') : Quiet s s' := by
  obtain ⟨t, -, rfl⟩ := Option.map_eq_some_iff.mp h
  exact Quiet.of_leases s t

/-- The rows after an update in place, as a map over the rows. -/
theorem upsert_updatedTask_rows {tasks : Table TaskRecord.taskId} {id : String}
    {existing : TaskRecord} (hg : tasks.get? id = some existing) (now : Time)
    (status : TaskStatus) (attempt : Option Nat) (failureReason : Option String)
    (completedAt : Option Time) :
    (tasks.upsert (updatedTask existing now status attempt failureReason completedAt)).rows =
      tasks.rows.map (fun t => if t.taskId = id then
        updatedTask t now status attempt failureReason completedAt else t) := by
  obtain ⟨hmem, hid⟩ := Table.get?_eq_some_iff.mp hg
  have hkey : (updatedTask existing now status attempt failureReason completedAt).taskId = id :=
    hid
  rw [Table.rows_upsert_of_get?_some (by rw [hkey]; exact hg), hkey]
  refine List.map_congr_left fun t ht => ?_
  by_cases hk : t.taskId = id
  · rw [if_pos hk, if_pos hk, tasks.eq_of_key_eq ht hmem (hk.trans hid.symm)]
  · rw [if_neg hk, if_neg hk]

/-- `update_task` to any status but completion is quiet. -/
theorem Quiet.of_updateTask {now : Time} {taskId : String} {status : TaskStatus}
    {attempt : Option Nat} {failureReason : Option String} {completedAt : Option Time}
    {s s' : Store} (hst : status ≠ .completed)
    (h : updateTask now taskId status attempt failureReason completedAt s = .ok s') :
    Quiet s s' := by
  obtain ⟨existing, hg, rfl⟩ := updateTask_ok h
  exact {
    workflows := rfl
    transitions := rfl
    tasks := by
      refine ⟨_, fun t => ?_, fun t ht => ?_, upsert_updatedTask_rows hg _ _ _ _ _⟩
      · split
        · exact updatedTask_same t _ _ _ _ _
        · exact TaskRecord.SameTask.refl t
      · split at ht
        · exact absurd ht hst
        · exact ht
    payloads := rfl
    outbox := rfl
    artifacts := rfl
    idempotency := rfl }

/-- A quiet change grows nothing. -/
theorem Quiet.grows {s s' : Store} (h : Quiet s s') (env : Env) (w : WorkflowRecord) :
    Grows env w 1 none s s' where
  tasks := by
    obtain ⟨f, hf, -, hrows⟩ := h.tasks
    exact ⟨f, hf, by simpa [nextBuild, newTasks] using hrows⟩
  status := by
    intro t' ht' hst
    obtain ⟨f, hf, hc, hrows⟩ := h.tasks
    rw [hrows] at ht'
    obtain ⟨t, ht, rfl⟩ := List.mem_map.mp ht'
    exact Or.inl ⟨t, ht, hf t, hc t hst⟩
  outbox := by rw [h.outbox]; simp [nextBuild, newOutboxRows]
  payloads := by rw [h.payloads]; exact fun _ _ hr => hr
  newPayload := fun p hp => absurd hp (by simp)
  fixed := fun p hp => absurd hp (by simp)
  fresh := fun hn => absurd rfl hn
  workflows := by rw [h.workflows]; exact fun _ hw => hw
  target := fun hn => absurd rfl hn
  completed := by
    intro key hk
    unfold Store.completed at hk ⊢
    rw [h.idempotency]
    exact hk

/-! ### Dispatches -/

/-- A step whose task, outbox and payload tables are those of a dispatch. -/
theorem Grows.of_dispatch {env : Env} {w : WorkflowRecord} {attempt : Nat}
    {next : Option (TaskType × Int)} {s s' : Store}
    (hf : next ≠ none → s.freshDispatch env = true)
    (hfixed : ∀ p ∈ next, p.1 = .collect ∨ p.1 = .selectTopic → p.2 = 1)
    (htasks : s'.tasks = (dispatch env (nextBuild env w attempt next) s).tasks)
    (hpayloads : s'.payloads = (dispatch env (nextBuild env w attempt next) s).payloads)
    (houtbox : s'.outbox = (dispatch env (nextBuild env w attempt next) s).outbox)
    (hidem : s'.idempotency = s.idempotency)
    (hwf : ∀ id, s.workflows.get? id ≠ none → s'.workflows.get? id ≠ none)
    (htarget : next ≠ none → s'.workflows.get? w.workflowId ≠ none) :
    Grows env w attempt next s s' := by
  have hcompleted : ∀ key, s.completed key = true → s'.completed key = true := by
    intro key hk
    unfold Store.completed at hk ⊢
    rw [hidem]
    exact hk
  have hrows : s'.tasks.rows = s.tasks.rows.map id ++ newTasks (nextBuild env w attempt next) ∧
      s'.outbox.rows = s.outbox.rows ++ newOutboxRows env (nextBuild env w attempt next) := by
    rw [htasks, houtbox, List.map_id]
    cases next with
    | none => simp [nextBuild, newTasks, newOutboxRows]
    | some p => exact ⟨dispatch_tasks_rows (hf (by simp)), dispatch_outbox_rows (hf (by simp))⟩
  exact {
    tasks := ⟨id, TaskRecord.SameTask.refl, hrows.1⟩
    status := by
      intro t' ht' hst
      rw [hrows.1, List.map_id] at ht'
      rcases List.mem_append.mp ht' with ht | ht
      · exact Or.inl ⟨t', ht, TaskRecord.SameTask.refl t', hst⟩
      · -- a dispatched task is pending
        cases next with
        | none => exact absurd ht (by simp [nextBuild, newTasks])
        | some p =>
            obtain rfl : t' = (OutboxSpecBuilder.build env w p.1 p.2 attempt).taskRecord := by
              simpa [nextBuild, newTasks] using ht
            exact absurd hst (by simp [OutboxSpecBuilder.build])
    outbox := hrows.2
    payloads := by
      intro ref row hr
      rw [hpayloads]
      cases next with
      | none => simpa [nextBuild] using hr
      | some p => exact dispatch_payloads_get (hf (by simp)) hr
    newPayload := by
      intro p hp
      obtain rfl : next = some p := hp
      rw [hpayloads]
      change (s.payloads.upsert _).get? env.taskId = _
      rw [Table.get?_upsert]
      exact if_pos rfl
    fixed := hfixed
    fresh := hf
    workflows := hwf
    target := htarget
    completed := hcompleted }

/-- Writing a row keeps every workflow and adds the row's own. -/
theorem upsert_get?_ne_none {workflows : Table WorkflowRecord.workflowId} {row : WorkflowRecord}
    {id : String} (h : workflows.get? id ≠ none ∨ row.workflowId = id) :
    (workflows.upsert row).get? id ≠ none := by
  rw [Table.get?_upsert]
  by_cases hid : row.workflowId = id
  · rw [if_pos hid]; simp
  · rw [if_neg hid]
    exact h.resolve_right hid

theorem moved_grows {env : Env} {workflowId : String} {s s' : Store} {w row : WorkflowRecord}
    {next : Option (TaskType × Int)} (h : Moved env workflowId s s' w row next)
    (hf : next ≠ none → s.freshDispatch env = true)
    (hfixed : ∀ p ∈ next, p.1 = .collect ∨ p.1 = .selectTopic → p.2 = 1) :
    Grows env w 1 next s s' := by
  have hid : w.workflowId = workflowId := Table.key_of_get? h.read
  refine Grows.of_dispatch hf hfixed h.tasks h.payloads h.outbox h.idempotency ?_ ?_
  · intro id hw
    rw [h.workflows]
    exact upsert_get?_ne_none (Or.inl hw)
  · intro _
    rw [h.workflows]
    exact upsert_get?_ne_none (Or.inr (h.rowId.trans hid.symm))

/-- A new workflow in `COLLECTING` with its first task. -/
structure Created (env : Env) (workflowId : String) (s s' : Store) (w row : WorkflowRecord) :
    Prop where
  absent : s.workflows.get? workflowId = none
  newId : w.workflowId = workflowId
  rowId : row.workflowId = workflowId
  rowState : row.state = .collecting
  reason : row.failureReason = none
  others : ∀ id, id ≠ workflowId → s'.history id = s.history id
  workflows : s'.workflows = s.workflows.upsert row
  tasks : s'.tasks = (dispatch env (nextBuild env w 1 (some (.collect, 1))) s).tasks
  payloads : s'.payloads = (dispatch env (nextBuild env w 1 (some (.collect, 1))) s).payloads
  outbox : s'.outbox = (dispatch env (nextBuild env w 1 (some (.collect, 1))) s).outbox
  artifacts : s'.artifacts = s.artifacts
  idempotency : s'.idempotency = s.idempotency

theorem Created.of_initiate {repo : WorkflowRepoKind} {env : Env}
    {req : InitiateWorkflowRequest} {s s' : Store} {res : InitiateWorkflowResult}
    (h : initiateWorkflow repo env req s = .ok (res, s')) :
    ∃ workflowId w row, Created env workflowId s s' w row := by
  obtain ⟨workflowId, -, hnone, rfl⟩ := initiateWorkflow_ok h
  refine ⟨workflowId, newWorkflow env.createdAt workflowId, initiatedRow env workflowId, ?_⟩
  exact {
    absent := hnone
    newId := rfl
    rowId := rfl
    rowState := rfl
    reason := rfl
    others := by
      intro id hne
      unfold initiatedStore
      rw [written_history, if_neg, List.append_nil]
      exact hne.symm
    workflows := by simp [initiatedStore]
    tasks := by simp [initiatedStore, nextBuild]
    payloads := by simp [initiatedStore, nextBuild]
    outbox := by simp [initiatedStore, nextBuild]
    artifacts := by simp [initiatedStore]
    idempotency := by simp [initiatedStore] }

theorem Created.grows {env : Env} {workflowId : String} {s s' : Store} {w row : WorkflowRecord}
    (h : Created env workflowId s s' w row) (hf : s.freshDispatch env = true) :
    Grows env w 1 (some (.collect, 1)) s s' := by
  refine Grows.of_dispatch (fun _ => hf) ?_ h.tasks h.payloads h.outbox h.idempotency ?_ ?_
  · intro p hp _
    obtain rfl := Option.some.inj hp
    rfl
  · intro id hw
    rw [h.workflows]
    exact upsert_get?_ne_none (Or.inl hw)
  · intro _
    rw [h.workflows]
    exact upsert_get?_ne_none (Or.inr (h.rowId.trans h.newId.symm))

/-- The recreated dispatch of a stored workflow. -/
structure Recreated (env : Env) (w : WorkflowRecord) (taskType : TaskType) (attempt : Nat)
    (s s' : Store) : Prop where
  stored : s.workflows.get? w.workflowId ≠ none
  store : s' = dispatch env (nextBuild env w attempt (some (taskType,
    resolveForTask s w.workflowId taskType (taskType = .generateScenario)))) s

theorem Recreated.grows {env : Env} {w : WorkflowRecord} {tt : TaskType} {attempt : Nat}
    {s s' : Store} (h : Recreated env w tt attempt s s') (hf : s.freshDispatch env = true) :
    Grows env w attempt
      (some (tt, resolveForTask s w.workflowId tt (tt = .generateScenario))) s s' := by
  obtain ⟨hst, rfl⟩ := h
  refine Grows.of_dispatch (fun _ => hf) ?_ rfl rfl rfl (by simp) ?_ ?_
  · intro p hp
    obtain rfl := Option.some.inj hp
    exact resolveForTask_fixed
  · intro id hw
    rw [dispatch_workflows]
    exact hw
  · intro _
    rw [dispatch_workflows]
    exact hst

/-! ### Committed stages -/

/-- A committed stage transaction of a delivery whose task `task` is stored. -/
structure Staged (cfg : AppConfig) (env : StageEnv) (ctx : DeliveryContext) (n : Int)
    (s s' : Store) (w row : WorkflowRecord) (next : Option (TaskType × Int)) (denv : Env)
    (task : TaskRecord) : Prop extends StageCommitted cfg env ctx n s s' w row next denv task where
  stored : s.tasks.get? ctx.message.taskId = some task
  same : ctx.task.SameTask task
  workflowId : ctx.message.workflowId = task.workflowId
  key : ctx.idempotencyKey = task.idempotencyKey
  keyForm : task.idempotencyKey = formatIdempotencyKey task.workflowId task.taskType n
  open_ : s.completed task.idempotencyKey = false
  fresh : s.freshStage env = true

section Staged

variable {cfg : AppConfig} {env : StageEnv} {ctx : DeliveryContext} {n : Int} {s s' : Store}
  {w row : WorkflowRecord} {next : Option (TaskType × Int)} {denv : Env} {task : TaskRecord}

theorem Staged.freshDispatch (h : Staged cfg env ctx n s s' w row next denv task) :
    s.freshDispatch denv = true := by
  have hf := h.fresh
  simp only [Store.freshStage, Bool.and_eq_true] at hf
  rcases h.drawn with rfl | rfl
  · exact hf.1.2
  · exact hf.2

theorem Staged.freshArtifact (h : Staged cfg env ctx n s s' w row next denv task) :
    s.artifacts.get? env.artifactId = none := by
  have hf := h.fresh
  simp only [Store.freshStage, Bool.and_eq_true] at hf
  simpa using hf.1.1

theorem Staged.completed_iff (h : Staged cfg env ctx n s s' w row next denv task)
    (key : String) :
    s'.completed key = true ↔ s.completed key = true ∨ key = task.idempotencyKey := by
  obtain ⟨record, hrec, hid⟩ := h.idempotency
  unfold Store.completed
  rw [hid, Table.get?_upsert, hrec, h.key]
  by_cases hk : task.idempotencyKey = key
  · rw [if_pos hk]
    exact ⟨fun _ => Or.inr hk.symm, fun _ => rfl⟩
  · rw [if_neg hk]
    exact ⟨Or.inl, fun hor => hor.resolve_right (fun he => hk he.symm)⟩

theorem Staged.task_workflow (h : Staged cfg env ctx n s s' w row next denv task) :
    w.workflowId = task.workflowId :=
  (Table.key_of_get? h.read).trans h.workflowId

/-- The task rows of a committed stage: the executed task completed, the next one
appended. -/
theorem Staged.task_rows (h : Staged cfg env ctx n s s' w row next denv task) :
    s'.tasks.rows = s.tasks.rows.map (fun t => if t.taskId = task.taskId then
      updatedTask t env.taskUpdatedAt .completed none none (some env.completedAt) else t) ++
      newTasks (nextBuild denv w 1 next) := by
  have hid : task.taskId = ctx.message.taskId := Table.key_of_get? h.stored
  have hrows : (dispatch denv (nextBuild denv w 1 next) s).tasks.rows =
      s.tasks.rows ++ newTasks (nextBuild denv w 1 next) := dispatch_tasks_rows h.freshDispatch
  -- the dispatched task has a fresh identifier, so the update leaves it alone
  have hnew : (newTasks (nextBuild denv w 1 next)).map (fun t => if t.taskId = task.taskId then
      updatedTask t env.taskUpdatedAt .completed none none (some env.completedAt) else t) =
      newTasks (nextBuild denv w 1 next) := by
    cases next with
    | none => rfl
    | some p =>
        have hne : ¬ denv.taskId = task.taskId := by
          intro he
          have hnone := (Store.freshDispatch_iff.mp h.freshDispatch).2.1
          rw [he, hid, h.stored] at hnone
          exact absurd hnone (by simp)
        simp [nextBuild, newTasks, OutboxSpecBuilder.build, hne]
  rw [h.tasks, upsert_updatedTask_rows h.found, hrows, List.map_append, ← hid, hnew]

theorem Staged.grows (h : Staged cfg env ctx n s s' w row next denv task) :
    Grows denv w 1 next s s' := by
  have hid : w.workflowId = ctx.message.workflowId := Table.key_of_get? h.read
  have hf := h.freshDispatch
  have hcompleted : ∀ key, s.completed key = true → s'.completed key = true := fun key hk =>
    (h.completed_iff key).mpr (Or.inl hk)
  exact {
    tasks := by
      refine ⟨_, fun t => ?_, h.task_rows⟩
      split
      · exact updatedTask_same t _ _ _ _ _
      · exact TaskRecord.SameTask.refl t
    status := by
      intro t' ht' hst
      rw [h.task_rows] at ht'
      rcases List.mem_append.mp ht' with ht | ht
      · obtain ⟨t, htm, rfl⟩ := List.mem_map.mp ht
        by_cases hk : t.taskId = task.taskId
        · -- the executed task: its completion is recorded in the same transaction
          obtain rfl : t = task := s.tasks.eq_of_key_eq htm (Table.mem_of_get? h.stored) hk
          rw [if_pos rfl]
          exact Or.inr ((h.completed_iff _).mpr (Or.inr rfl))
        · rw [if_neg hk] at hst ⊢
          exact Or.inl ⟨t, htm, TaskRecord.SameTask.refl t, hst⟩
      · cases next with
        | none => exact absurd ht (by simp [nextBuild, newTasks])
        | some p =>
            obtain rfl : t' = (OutboxSpecBuilder.build denv w p.1 p.2 1).taskRecord := by
              simpa [nextBuild, newTasks] using ht
            exact absurd hst (by simp [OutboxSpecBuilder.build])
    outbox := by rw [h.outbox]; exact dispatch_outbox_rows hf
    payloads := by
      intro ref r hr
      rw [h.payloads]
      exact dispatch_payloads_get hf hr
    newPayload := by
      intro p hp
      obtain rfl : next = some p := hp
      rw [h.payloads]
      change (s.payloads.upsert _).get? denv.taskId = _
      rw [Table.get?_upsert]
      exact if_pos rfl
    fixed := h.move.fixed
    fresh := fun _ => hf
    workflows := by
      intro id hw
      rw [h.workflows]
      exact upsert_get?_ne_none (Or.inl hw)
    target := by
      intro _
      rw [h.workflows]
      exact upsert_get?_ne_none (Or.inr (h.rowId.trans hid.symm))
    completed := hcompleted }

end Staged

/-! ### Published marks -/

/-- The outbox row `outboxId` is marked as published. -/
structure Marked (outboxId : String) (s s' : Store) : Prop where
  outbox : ∃ (e : OutboxEntry) (now : Time), s.outbox.get? outboxId = some e ∧
    s'.outbox = s.outbox.upsert { e with status := .published, publishedAt := some now }
  same : s' = { s with outbox := s'.outbox }

theorem markedStore_cases (now : Time) (outboxId : String) (s : Store) :
    markedStore now outboxId s = s ∨ Marked outboxId s (markedStore now outboxId s) := by
  unfold markedStore markPublished
  cases hg : s.outbox.get? outboxId with
  | none => exact Or.inl rfl
  | some e =>
      by_cases hp : e.status = .published
      · exact Or.inl (by simp [hp])
      · refine Or.inr ?_
        dsimp only
        rw [if_neg hp]
        exact ⟨⟨e, now, hg, rfl⟩, rfl⟩

/-- A published mark leaves the rows that are not its own alone. -/
theorem Marked.row_cases {outboxId : String} {s s' : Store} (h : Marked outboxId s s')
    {e' : OutboxEntry} (he' : e' ∈ s'.outbox.rows) :
    e' ∈ s.outbox.rows ∨ ∃ e ∈ s.outbox.rows, e.outboxId = outboxId ∧
      e'.outboxId = outboxId ∧ e'.taskId = e.taskId ∧ e'.workflowId = e.workflowId := by
  obtain ⟨e, now, hg, hout⟩ := h.outbox
  obtain ⟨hmem, hid⟩ := Table.get?_eq_some_iff.mp hg
  rw [hout] at he'
  rcases Table.mem_upsert.mp he' with rfl | ⟨hold, -⟩
  · exact Or.inr ⟨e, hmem, hid, hid, rfl, rfl⟩
  · exact Or.inl hold

/-! ### The steps of the store

Whatever an action does to the store is a sequence of these.
-/

/-- How the engine moves a row `w` outside of a stage transaction; the pipeline sends no
signals there. -/
inductive EngineMove (cfg : AppConfig) (origin : Origin) (s : Store) (w : WorkflowRecord) :
    WorkflowState → Option (TaskType × Int) → Prop
  | approval (action : ApprovalAction) (h : w.state = .awaitingHumanApproval) :
      EngineMove cfg origin s w (approvalMatrix action).toState
        (decisionNext s w.workflowId (approvalMatrix action).outboxTaskType
          (approvalMatrix action).incrementLogicalVersion)
  | failure (st : WorkflowState) (h : w.state.isTransient = true)
      (hst : st = .failed ∨ st = .failedPermanently) : EngineMove cfg origin s w st none
  | signal (sig : TransitionSignal) (d : TransitionDecision) (ho : origin ≠ .pipeline)
      (h : TransitionTable.lookup w.state sig w.revisionCount cfg.maxScenarioRevisions = .ok d) :
      EngineMove cfg origin s w d.toState
        (decisionNext s w.workflowId d.outboxTaskType d.incrementLogicalVersion)

theorem EngineMove.fixed {cfg : AppConfig} {origin : Origin} {s : Store} {w : WorkflowRecord}
    {st : WorkflowState} {next : Option (TaskType × Int)}
    (h : EngineMove cfg origin s w st next) :
    ∀ p ∈ next, p.1 = .collect ∨ p.1 = .selectTopic → p.2 = 1 := by
  cases h with
  | approval action h => exact decisionNext_fixed
  | failure st h hst => intro p hp; exact absurd hp (by simp)
  | signal sig d ho h => exact decisionNext_fixed

/-- The engine moves no workflow that has ended. -/
theorem EngineMove.live {cfg : AppConfig} {origin : Origin} {s : Store} {w : WorkflowRecord}
    {st : WorkflowState} {next : Option (TaskType × Int)}
    (h : EngineMove cfg origin s w st next) : w.state.isTerminal = false := by
  have htransient : w.state.isTransient = true → w.state.isTerminal = false := by
    cases w.state <;> decide
  cases h with
  | approval action h => rw [h]; rfl
  | failure st h hst => exact htransient h
  | signal sig d ho h => exact htransient (TransitionTable.lookup_transient h)

/-- **Everything a step can do to the database.** -/
inductive StoreStep (cfg : AppConfig) (origin : Origin) (s s' : Store) : Prop
  | quiet (h : Quiet s s')
  | marked (outboxId : String) (h : Marked outboxId s s')
  | created (env : Env) (workflowId : String) (w row : WorkflowRecord)
      (h : Created env workflowId s s' w row) (hf : s.freshDispatch env = true)
  | moved (env : Env) (workflowId : String) (w row : WorkflowRecord)
      (next : Option (TaskType × Int)) (h : Moved env workflowId s s' w row next)
      (hm : EngineMove cfg origin s w row.state next)
      (hf : next ≠ none → s.freshDispatch env = true)
  | recreated (env : Env) (w : WorkflowRecord) (taskType : TaskType) (attempt : Nat)
      (ho : origin = .reconciler) (h : Recreated env w taskType attempt s s')
      (hf : s.freshDispatch env = true)
  | staged (env : StageEnv) (ctx : DeliveryContext) (n : Int) (w row : WorkflowRecord)
      (next : Option (TaskType × Int)) (denv : Env) (task : TaskRecord)
      (h : Staged cfg env ctx n s s' w row next denv task)

/-- Apart from a published mark, every step grows the store. -/
theorem StoreStep.grows {cfg : AppConfig} {origin : Origin} {s s' : Store}
    (h : StoreStep cfg origin s s') :
    (∃ outboxId, Marked outboxId s s') ∨ ∃ env w attempt next, Grows env w attempt next s s' := by
  cases h with
  | quiet h =>
      -- the environment and the row of an absent dispatch are arbitrary
      exact Or.inr ⟨Env.numbered 0 0, newWorkflow 0 "", 1, none, h.grows _ _⟩
  | marked outboxId h => exact Or.inl ⟨outboxId, h⟩
  | created env workflowId w row h hf => exact Or.inr ⟨_, _, _, _, h.grows hf⟩
  | moved env workflowId w row next h hm hf => exact Or.inr ⟨_, _, _, _, moved_grows h hf hm.fixed⟩
  | recreated env w taskType attempt ho h hf => exact Or.inr ⟨_, _, _, _, h.grows hf⟩
  | staged env ctx n w row next denv task h => exact Or.inr ⟨_, _, _, _, h.grows⟩

/-! ### What every step keeps

No row goes away, and what identifies a row stays.
-/

/-- The columns of an outbox row that never change. -/
structure OutboxEntry.SameRow (e e' : OutboxEntry) : Prop where
  taskId : e'.taskId = e.taskId
  workflowId : e'.workflowId = e.workflowId

/-- Nothing that refers to rows of `s` loses them in `s'`. -/
structure Extends (s s' : Store) : Prop where
  workflows : ∀ id, s.workflows.get? id ≠ none → s'.workflows.get? id ≠ none
  tasks : ∀ id t, s.tasks.get? id = some t → ∃ t', s'.tasks.get? id = some t' ∧ t.SameTask t'
  payloads : ∀ ref row, s.payloads.get? ref = some row → s'.payloads.get? ref = some row
  outbox : ∀ id e, s.outbox.get? id = some e →
    ∃ e', s'.outbox.get? id = some e' ∧ e.SameRow e'
  completed : ∀ key, s.completed key = true → s'.completed key = true

theorem Extends.refl (s : Store) : Extends s s where
  workflows := fun _ h => h
  tasks := fun _ t h => ⟨t, h, TaskRecord.SameTask.refl t⟩
  payloads := fun _ _ h => h
  outbox := fun _ e h => ⟨e, h, rfl, rfl⟩
  completed := fun _ h => h

theorem Extends.trans {s s' s'' : Store} (h : Extends s s') (h' : Extends s' s'') :
    Extends s s'' where
  workflows := fun id hw => h'.workflows id (h.workflows id hw)
  tasks := by
    intro id t ht
    obtain ⟨t', ht', hsame⟩ := h.tasks id t ht
    obtain ⟨t'', ht'', hsame'⟩ := h'.tasks id t' ht'
    exact ⟨t'', ht'', hsame.trans hsame'⟩
  payloads := fun ref row hr => h'.payloads ref row (h.payloads ref row hr)
  outbox := by
    intro id e he
    obtain ⟨e', he', hsame⟩ := h.outbox id e he
    obtain ⟨e'', he'', hsame'⟩ := h'.outbox id e' he'
    exact ⟨e'', he'', hsame'.taskId.trans hsame.taskId, hsame'.workflowId.trans hsame.workflowId⟩
  completed := fun key hk => h'.completed key (h.completed key hk)

theorem Grows.extends {env : Env} {w : WorkflowRecord} {attempt : Nat}
    {next : Option (TaskType × Int)} {s s' : Store} (h : Grows env w attempt next s s') :
    Extends s s' where
  workflows := h.workflows
  tasks := by
    intro id t ht
    obtain ⟨f, hf, hrows⟩ := h.tasks
    obtain ⟨hmem, hid⟩ := Table.get?_eq_some_iff.mp ht
    refine ⟨f t, Table.get?_eq_some_iff.mpr ⟨?_, (hf t).taskId.trans hid⟩, hf t⟩
    rw [hrows]
    exact List.mem_append_left _ (List.mem_map_of_mem hmem)
  payloads := h.payloads
  outbox := by
    intro id e he
    obtain ⟨hmem, hid⟩ := Table.get?_eq_some_iff.mp he
    refine ⟨e, Table.get?_eq_some_iff.mpr ⟨?_, hid⟩, rfl, rfl⟩
    rw [h.outbox]
    exact List.mem_append_left _ hmem
  completed := h.completed

theorem Marked.extends {outboxId : String} {s s' : Store} (h : Marked outboxId s s') :
    Extends s s' := by
  obtain ⟨e, now, hg, hout⟩ := h.outbox
  rw [h.same]
  exact {
    workflows := fun _ hw => hw
    tasks := fun _ t ht => ⟨t, ht, TaskRecord.SameTask.refl t⟩
    payloads := fun _ _ hr => hr
    outbox := by
      intro id e₀ he₀
      change ∃ e', s'.outbox.get? id = some e' ∧ _
      rw [hout, Table.get?_upsert]
      by_cases hid : e.outboxId = id
      · rw [if_pos hid]
        obtain rfl : e = e₀ := by
          rw [← hid, Table.key_of_get? hg] at he₀
          exact Option.some.inj (hg.symm.trans he₀)
        exact ⟨_, rfl, rfl, rfl⟩
      · rw [if_neg hid]
        exact ⟨e₀, he₀, rfl, rfl⟩
    completed := fun _ hk => hk }

theorem StoreStep.extends {cfg : AppConfig} {origin : Origin} {s s' : Store}
    (h : StoreStep cfg origin s s') : Extends s s' := by
  rcases h.grows with ⟨id, hm⟩ | ⟨env, w, attempt, next, hg⟩
  · exact hm.extends
  · exact hg.extends

end CartoonDemo
