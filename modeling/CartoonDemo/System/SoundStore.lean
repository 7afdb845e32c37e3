import CartoonDemo.System.DeliverySpec

/-!
# CartoonDemo.System.SoundStore

**A sound store.** Every task row carries the key of its logical operation and a payload from which
a worker reads the same version back, and completion records and stored artifacts go together
(`StoreSound`). A write of the engine keeps this if it only adds rows (`StoreSound.of_grows`).

That the two go together is what makes a stage happen once: the handler stores its artifact before
the completion is claimed, so a second execution of a completed operation runs into the `UNIQUE`
constraint (`stageTransaction_open`).
-/

namespace CartoonDemo

open WorkflowEngine TransitionExecutor WorkerLoop WorkflowStateGuard

/-! ### Sound rows -/

/-- A task row that stands for the logical operation of version `n`. -/
structure TaskSound (s : Store) (t : TaskRecord) (n : Int) : Prop where
  id : t.taskId ≠ ""
  ref : t.payloadReference.refId = t.taskId
  workflow : s.workflows.get? t.workflowId ≠ none
  key : t.idempotencyKey = formatIdempotencyKey t.workflowId t.taskType n
  payload : s.payloads.get? t.taskId =
    some { refId := t.taskId, payload := payloadForTaskType t.taskType n }
  fixed : t.taskType = .collect ∨ t.taskType = .selectTopic → n = 1

theorem TaskSound.extends {s s' : Store} {t t' : TaskRecord} {n : Int} (h : TaskSound s t n)
    (he : Extends s s') (hsame : t.SameTask t') : TaskSound s' t' n where
  id := by rw [hsame.taskId]; exact h.id
  ref := by rw [hsame.payloadReference, hsame.taskId]; exact h.ref
  workflow := by rw [hsame.workflowId]; exact he.workflows _ h.workflow
  key := by rw [hsame.idempotencyKey, hsame.workflowId, hsame.taskType]; exact h.key
  payload := by rw [hsame.taskId, hsame.taskType]; exact he.payloads _ _ h.payload
  fixed := by rw [hsame.taskType]; exact h.fixed

theorem TaskRecord.SameTask.symm {t t' : TaskRecord} (h : t.SameTask t') : t'.SameTask t :=
  ⟨h.taskId.symm, h.workflowId.symm, h.taskType.symm, h.payloadReference.symm,
    h.idempotencyKey.symm⟩

theorem TaskSound.payloadVersion {s : Store} {t : TaskRecord} {n : Int} (h : TaskSound s t n) :
    payloadLogicalVersion s t = (payloadForTaskType t.taskType n).logicalVersion := by
  unfold payloadLogicalVersion getTaskPayload
  rw [h.ref, h.payload]

/-- **The worker reads the task's version back**, from the payload or by the fixed rule. -/
theorem TaskSound.resolveLogicalVersion {s : Store} {t : TaskRecord} {n : Int}
    (h : TaskSound s t n) (m : TaskMessage) : resolveLogicalVersion s t m = .ok n := by
  have hfixed := h.fixed
  unfold CartoonDemo.resolveLogicalVersion
  rw [h.payloadVersion]
  cases htt : t.taskType with
  | collect => simp [hfixed (Or.inl htt)]
  | selectTopic => simp [hfixed (Or.inr htt)]
  | generateScenario => simp [payloadForTaskType]
  | reviewScenario => simp [payloadForTaskType]

/-- The key a worker computes for a delivery is the one on the task row. -/
theorem TaskSound.deliveryKey {s : Store} {t : TaskRecord} {n : Int} (h : TaskSound s t n)
    {m : TaskMessage} (hm : m.workflowId = t.workflowId) :
    deliveryKey s t m = .ok t.idempotencyKey := by
  unfold CartoonDemo.deliveryKey
  rw [h.resolveLogicalVersion m, h.key, hm]
  rfl

/-! ### The store

The tables together, and which writes keep them sound.
-/

structure StoreSound (s : Store) : Prop where
  task : ∀ t ∈ s.tasks.rows, ∃ n, TaskSound s t n
  outbox : ∀ e ∈ s.outbox.rows, ∃ t, s.tasks.get? e.taskId = some t ∧ e.workflowId = t.workflowId
  /-- A recorded completion has stored its artifact. -/
  stored : ∀ w tt n, s.completed (formatIdempotencyKey w tt n) = true →
    s.hasArtifact w (stageArtifact tt) (stageArtifactVersion tt n) = true
  /-- A stored artifact comes from a recorded completion. -/
  recorded : ∀ w tt v, s.hasArtifact w (stageArtifact tt) v = true →
    ∃ n, stageArtifactVersion tt n = v ∧ (tt = .collect ∨ tt = .selectTopic → n = 1) ∧
      s.completed (formatIdempotencyKey w tt n) = true
  /-- Completions are recorded for workflows that exist. -/
  owner : ∀ w tt n, s.completed (formatIdempotencyKey w tt n) = true → s.workflows.get? w ≠ none

theorem storeSound_empty : StoreSound {} where
  task := by intro t ht; exact absurd ht (by simp)
  outbox := by intro e he; exact absurd he (by simp)
  stored := by intro w tt n h; exact absurd h (by simp [Store.completed])
  recorded := by intro w tt v h; exact absurd h (by simp [Store.hasArtifact])
  owner := by intro w tt n h; exact absurd h (by simp [Store.completed])

/-- The rows after a step are old ones or the dispatched one. -/
theorem Grows.task_cases {env : Env} {w : WorkflowRecord} {attempt : Nat}
    {next : Option (TaskType × Int)} {s s' : Store} (h : Grows env w attempt next s s')
    {t' : TaskRecord} (ht' : t' ∈ s'.tasks.rows) :
    (∃ t ∈ s.tasks.rows, t.SameTask t') ∨
      ∃ p ∈ next, t' = (OutboxSpecBuilder.build env w p.1 p.2 attempt).taskRecord := by
  obtain ⟨f, hf, hrows⟩ := h.tasks
  rw [hrows] at ht'
  rcases List.mem_append.mp ht' with hold | hnew
  · obtain ⟨t, ht, rfl⟩ := List.mem_map.mp hold
    exact Or.inl ⟨t, ht, hf t⟩
  · cases next with
    | none => exact absurd hnew (by simp [nextBuild, newTasks])
    | some p =>
        refine Or.inr ⟨p, rfl, ?_⟩
        simpa [nextBuild, newTasks] using hnew

/-- A dispatched task is sound. -/
theorem Grows.newTask_sound {env : Env} {w : WorkflowRecord} {attempt : Nat}
    {next : Option (TaskType × Int)} {s s' : Store} (h : Grows env w attempt next s s')
    {p : TaskType × Int} (hp : p ∈ next) :
    TaskSound s' (OutboxSpecBuilder.build env w p.1 p.2 attempt).taskRecord p.2 := by
  have hne : next ≠ none := by
    intro hn
    exact absurd hp (by simp [hn])
  exact {
    id := (Store.freshDispatch_iff.mp (h.fresh hne)).1
    ref := rfl
    workflow := h.target hne
    key := rfl
    payload := h.newPayload p hp
    fixed := h.fixed p hp }

theorem Grows.newTask_get {env : Env} {w : WorkflowRecord} {attempt : Nat}
    {next : Option (TaskType × Int)} {s s' : Store} (h : Grows env w attempt next s s')
    {p : TaskType × Int} (hp : p ∈ next) :
    s'.tasks.get? env.taskId =
      some (OutboxSpecBuilder.build env w p.1 p.2 attempt).taskRecord := by
  obtain ⟨f, -, hrows⟩ := h.tasks
  refine Table.get?_eq_some_iff.mpr ⟨?_, rfl⟩
  obtain rfl : next = some p := hp
  rw [hrows]
  exact List.mem_append_right _ (by simp [nextBuild, newTasks])

/-- The task and outbox parts of the invariant, for a growing step. -/
theorem StoreSound.rows_of_grows {env : Env} {w : WorkflowRecord} {attempt : Nat}
    {next : Option (TaskType × Int)} {s s' : Store} (hs : StoreSound s)
    (h : Grows env w attempt next s s') :
    (∀ t ∈ s'.tasks.rows, ∃ n, TaskSound s' t n) ∧
      ∀ e ∈ s'.outbox.rows, ∃ t, s'.tasks.get? e.taskId = some t ∧
        e.workflowId = t.workflowId := by
  refine ⟨?_, ?_⟩
  · intro t' ht'
    rcases h.task_cases ht' with ⟨t, ht, hsame⟩ | ⟨p, hp, rfl⟩
    · obtain ⟨n, hn⟩ := hs.task t ht
      exact ⟨n, hn.extends h.extends hsame⟩
    · exact ⟨p.2, h.newTask_sound hp⟩
  · intro e he
    rw [h.outbox] at he
    rcases List.mem_append.mp he with hold | hnew
    · obtain ⟨t, ht, hw⟩ := hs.outbox e hold
      obtain ⟨t', ht', hsame⟩ := h.extends.tasks _ t ht
      exact ⟨t', ht', hw.trans hsame.workflowId.symm⟩
    · cases hnext : next with
      | none => exact absurd hnew (by simp [nextBuild, newOutboxRows, hnext])
      | some p =>
          obtain rfl : e = newOutboxEntry env.insertedAt env.outboxId
              (OutboxSpecBuilder.build env w p.1 p.2 attempt).outboxInsert := by
            simpa [nextBuild, newOutboxRows, hnext] using hnew
          exact ⟨_, h.newTask_get (by rw [hnext]; rfl), rfl⟩

/-- A step that records nothing keeps the invariant. -/
theorem StoreSound.of_grows {env : Env} {w : WorkflowRecord} {attempt : Nat}
    {next : Option (TaskType × Int)} {s s' : Store} (hs : StoreSound s)
    (h : Grows env w attempt next s s') (ha : s'.artifacts = s.artifacts)
    (hi : s'.idempotency = s.idempotency) : StoreSound s' := by
  obtain ⟨htask, houtbox⟩ := hs.rows_of_grows h
  have hc : ∀ key, s'.completed key = s.completed key := by
    intro key
    unfold Store.completed
    rw [hi]
  exact {
    task := htask
    outbox := houtbox
    stored := by
      intro w tt n hk
      rw [hasArtifact_congr ha]
      exact hs.stored w tt n (by rw [← hc]; exact hk)
    recorded := by
      intro w tt v hv
      rw [hasArtifact_congr ha] at hv
      obtain ⟨n, hn, hfix, hk⟩ := hs.recorded w tt v hv
      exact ⟨n, hn, hfix, by rw [hc]; exact hk⟩
    owner := by
      intro w tt n hk
      rw [hc] at hk
      exact h.workflows _ (hs.owner w tt n hk) }

theorem StoreSound.of_marked {outboxId : String} {s s' : Store} (hs : StoreSound s)
    (h : Marked outboxId s s') : StoreSound s' := by
  have htasks : s'.tasks = s.tasks := by rw [h.same]
  have hart : s'.artifacts = s.artifacts := by rw [h.same]
  have hidem : s'.idempotency = s.idempotency := by rw [h.same]
  have hc : ∀ key, s'.completed key = s.completed key := by
    intro key
    unfold Store.completed
    rw [hidem]
  exact {
    task := by
      intro t ht
      rw [htasks] at ht
      obtain ⟨n, hn⟩ := hs.task t ht
      exact ⟨n, hn.extends h.extends (TaskRecord.SameTask.refl t)⟩
    outbox := by
      intro e' he'
      rw [htasks]
      rcases h.row_cases he' with hold | ⟨e, he, -, -, htask, hw⟩
      · exact hs.outbox e' hold
      · rw [htask, hw]
        exact hs.outbox e he
    stored := by
      intro w tt n hk
      rw [hasArtifact_congr hart]
      exact hs.stored w tt n (by rw [← hc]; exact hk)
    recorded := by
      intro w tt v hv
      rw [hasArtifact_congr hart] at hv
      obtain ⟨n, hn, hfix, hk⟩ := hs.recorded w tt v hv
      exact ⟨n, hn, hfix, by rw [hc]; exact hk⟩
    owner := by
      intro w tt n hk
      rw [hc] at hk
      exact h.extends.workflows _ (hs.owner w tt n hk) }

/-- A committed stage records its completion together with its artifact. -/
theorem StoreSound.of_staged {cfg : AppConfig} {env : StageEnv} {ctx : DeliveryContext} {n : Int}
    {s s' : Store} {w row : WorkflowRecord} {next : Option (TaskType × Int)} {denv : Env}
    {task : TaskRecord} (hs : StoreSound s) (h : Staged cfg env ctx n s s' w row next denv task) :
    StoreSound s' := by
  obtain ⟨htask, houtbox⟩ := hs.rows_of_grows h.grows
  have hart := hasArtifact_withArtifact h.artifacts h.freshArtifact
  obtain ⟨m, hm⟩ := hs.task task (Table.mem_of_get? h.stored)
  obtain rfl : m = n := (formatIdempotencyKey_inj (hm.key.symm.trans h.keyForm)).2.2
  have htype : task.taskType = ctx.task.taskType := h.same.taskType
  exact {
    task := htask
    outbox := houtbox
    stored := by
      intro w tt k hk
      rw [hart]
      rcases (h.completed_iff _).mp hk with hold | hnew
      · exact Or.inl (hs.stored w tt k hold)
      · rw [h.keyForm] at hnew
        obtain ⟨rfl, rfl, rfl⟩ := formatIdempotencyKey_inj hnew
        rw [htype]
        exact Or.inr ⟨h.workflowId, rfl, rfl⟩
    recorded := by
      intro w tt v hv
      rcases (hart w (stageArtifact tt) v).mp hv with hold | ⟨hw, ht, hver⟩
      · obtain ⟨k, hk, hfix, hdone⟩ := hs.recorded w tt v hold
        exact ⟨k, hk, hfix, (h.completed_iff _).mpr (Or.inl hdone)⟩
      · obtain rfl : ctx.task.taskType = tt := stageArtifact_inj ht
        refine ⟨m, hver, by rw [← htype]; exact hm.fixed, (h.completed_iff _).mpr (Or.inr ?_)⟩
        rw [h.keyForm, ← h.workflowId, htype]
        exact congrArg (fun id => formatIdempotencyKey id _ _) hw.symm
    owner := by
      intro w tt k hk
      rcases (h.completed_iff _).mp hk with hold | hnew
      · exact h.grows.workflows _ (hs.owner w tt k hold)
      · rw [h.keyForm] at hnew
        obtain ⟨rfl, -, -⟩ := formatIdempotencyKey_inj hnew
        exact h.grows.workflows _ hm.workflow }

theorem StoreSound.step {cfg : AppConfig} {origin : Origin} {s s' : Store} (hs : StoreSound s)
    (h : StoreStep cfg origin s s') : StoreSound s' := by
  cases h with
  | quiet h => exact hs.of_grows (h.grows (Env.numbered 0 0) (newWorkflow 0 "")) h.artifacts h.idempotency
  | marked outboxId h => exact hs.of_marked h
  | created env workflowId w row h hf => exact hs.of_grows (h.grows hf) h.artifacts h.idempotency
  | moved env workflowId w row next h hm hf =>
      exact hs.of_grows (moved_grows h hf hm.fixed) h.artifacts h.idempotency
  | recreated env w taskType attempt ho h hf =>
      refine hs.of_grows (h.grows hf) ?_ ?_
      · rw [h.store, dispatch_artifacts]
      · rw [h.store, dispatch_idempotency]
  | staged env ctx n w row next denv task h => exact hs.of_staged h

/-! ### Executions

A worker that has gone through its checks knows enough of the task to commit its stage.
-/

/-- A stored task that a delivery of `m` has read as `t`. -/
def TaskKnown (s : Store) (m : TaskMessage) (t : TaskRecord) : Prop :=
  ∃ t₀, s.tasks.get? m.taskId = some t₀ ∧ m.workflowId = t₀.workflowId ∧ t.SameTask t₀

theorem TaskKnown.extends {s s' : Store} {m : TaskMessage} {t : TaskRecord}
    (h : TaskKnown s m t) (he : Extends s s') : TaskKnown s' m t := by
  obtain ⟨t₀, hg, hw, hsame⟩ := h
  obtain ⟨t₁, hg', hsame'⟩ := he.tasks _ t₀ hg
  exact ⟨t₁, hg', hw.trans hsame'.workflowId.symm, hsame.trans hsame'⟩

/-- What a delivery has read stands for the same operation as the stored row. -/
theorem TaskKnown.sound {s : Store} {m : TaskMessage} {t : TaskRecord} (h : TaskKnown s m t)
    (hs : StoreSound s) :
    ∃ n, TaskSound s t n ∧ m.workflowId = t.workflowId ∧ m.taskId = t.taskId := by
  obtain ⟨t₀, hg, hw, hsame⟩ := h
  obtain ⟨n, hn⟩ := hs.task t₀ (Table.mem_of_get? hg)
  refine ⟨n, hn.extends (Extends.refl s) hsame.symm, hw.trans hsame.workflowId, ?_⟩
  exact (Table.key_of_get? hg).symm.trans hsame.taskId

/-- **A completed operation is not executed again**: the handler runs into the artifact that
was stored with the completion. -/
theorem stageTransaction_open {repo : WorkflowRepoKind} {cfg : AppConfig} {env : StageEnv}
    {m : TaskMessage} {t : TaskRecord} {reply : AgentReply} {s s' : Store} (hs : StoreSound s)
    (ht : TaskKnown s m t)
    (h : stageTransaction repo cfg env
      { message := m, task := t, idempotencyKey := t.idempotencyKey } reply s = .ok s') :
    s.completed t.idempotencyKey = false := by
  obtain ⟨n, hn, hw, -⟩ := ht.sound hs
  obtain ⟨⟨result, s₁⟩, hhandle, -⟩ := except_bind_ok h
  obtain ⟨-, hfree, -⟩ := handleTask_ok (hn.resolveLogicalVersion m) hhandle
  by_contra hc
  have hstored := hs.stored t.workflowId t.taskType n (by rw [← hn.key]; simpa using hc)
  change s.hasArtifact m.workflowId _ _ = false at hfree
  rw [hw, hstored] at hfree
  exact absurd hfree (by simp)

/-- A committed stage transaction of a delivery is a `Staged` step. -/
theorem staged_of_ok {repo : WorkflowRepoKind} {cfg : AppConfig} {env : StageEnv}
    {m : TaskMessage} {t : TaskRecord} {reply : AgentReply} {s s' : Store} (hs : StoreSound s)
    (ht : TaskKnown s m t) (hf : s.freshStage env = true)
    (h : stageTransaction repo cfg env
      { message := m, task := t, idempotencyKey := t.idempotencyKey } reply s = .ok s') :
    ∃ n w row next denv task, Staged cfg env
      { message := m, task := t, idempotencyKey := t.idempotencyKey } n s s' w row next denv task := by
  have hopen := stageTransaction_open hs ht h
  obtain ⟨n, hn, hw, hid⟩ := ht.sound hs
  obtain ⟨t₀, hg, -, hsame⟩ := ht
  have hfresh := hf
  simp only [Store.freshStage, Bool.and_eq_true] at hfresh
  have hart : s.artifacts.get? env.artifactId = none := by simpa using hfresh.1.1
  have hne : m.taskId ≠ "" := by
    rw [hid]
    exact hn.id
  obtain ⟨w, row, next, denv, taskRow, hc⟩ :=
    stageTransaction_ok (hn.resolveLogicalVersion m) hopen hne hart h
  have hfd : s.freshDispatch denv = true := by
    rcases hc.drawn with rfl | rfl
    · exact hfresh.1.2
    · exact hfresh.2
  -- the row that is updated at the end is the stored one: the dispatched task is another
  have hrow : taskRow = t₀ := by
    have hmem : t₀ ∈ (dispatch denv (nextBuild denv w 1 next) s).tasks.rows := by
      rw [dispatch_tasks_rows hfd]
      exact List.mem_append_left _ (Table.mem_of_get? hg)
    have hget := Table.get?_of_mem hmem
    rw [Table.key_of_get? hg] at hget
    exact Option.some.inj (hc.found.symm.trans hget)
  subst hrow
  exact ⟨n, w, row, next, denv, taskRow, {
    toStageCommitted := hc
    stored := hg
    same := hsame
    workflowId := hw.trans hsame.workflowId.symm
    key := hsame.idempotencyKey.symm
    keyForm := by
      rw [hsame.idempotencyKey, hsame.workflowId, hsame.taskType]
      exact hn.key
    open_ := by rw [hsame.idempotencyKey]; exact hopen
    fresh := hf }⟩

end CartoonDemo
