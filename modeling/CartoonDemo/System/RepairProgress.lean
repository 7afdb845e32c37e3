import CartoonDemo.System.LeaseSpec
import CartoonDemo.System.Schedule
import CartoonDemo.Workflow.ReconcileQuiet

/-!
# CartoonDemo.System.RepairProgress

**What becomes of a recreated task.** Its outbox row is published and its message delivered,
with nothing in between and a handler that succeeds. The task type that the scanner expects
for a state and the state in which the worker accepts a task type come from two tables; they
agree in `COLLECTING` and in `GENERATING_SCENARIO` and nowhere else. There the stage commits;
in the bridge states the message is acked as stale.
-/

namespace CartoonDemo

open WorkflowEngine TransitionExecutor WorkerLoop WorkflowStateGuard ReconciliationScanner

/-! ### The schedule

The repaired task is published and processed, and nobody else acts.
-/

/-- A worker's whole call for one stream entry, as delivery `i`, when no ack and no hook
raises. The steps that the call's phase does not ask for do nothing. -/
def processEntry (entry i : Nat) (worker leaseId : String) (now : Time) (env : StageEnv)
    (reply : AgentReply) : List Action :=
  [.deliver entry worker, .delivery i .readTask, .delivery i .readWorkflow,
    .delivery i (.ackStale .ok), .delivery i (.takeLease leaseId now), .delivery i .precheck,
    .delivery i (.ackDuplicate .ok), .delivery i (.execute env reply), .delivery i .release,
    .delivery i (.ackCommitted .ok), .delivery i .close]

/-- The outbox row is published and its message processed, right after one another. -/
def publishAndProcess (σ : Sys) (outboxId worker leaseId : String) (now : Time) (env : StageEnv)
    (reply : AgentReply) : List Action :=
  publishRow outboxId σ.frames.length now ++
    processEntry σ.stream.length σ.deliveries.length worker leaseId now env reply

section Schedule

variable {repo : WorkflowRepoKind} {cfg : AppConfig} {sc : ReconciliationScanner} {σ : Sys}

/-- The system after the publisher's pass over a pending row. -/
theorem run_publishRow {e : OutboxEntry} {m : TaskMessage} (now : Time)
    (hget : σ.store.outbox.get? e.outboxId = some e) (hpending : e.status = .pending)
    (hm : buildMessage σ.store e = some m) :
    run (Sys.step repo cfg sc) σ (publishRow e.outboxId σ.frames.length now) =
      { σ with store := markedStore now e.outboxId σ.store,
               stream := σ.stream ++ [{ message := m }] } := by
  have hfetch : Sys.step repo cfg sc (.fetchRow e.outboxId) σ =
      { σ with frames := σ.frames ++ [{ entry := e }] } := by
    simp [Sys.step, hget, hpending]
  have henqueue : Sys.step repo cfg sc (.publish σ.frames.length .enqueue)
      { σ with frames := σ.frames ++ [{ entry := e }] } =
      { σ with stream := σ.stream ++ [{ message := m }],
               frames := σ.frames ++ [{ entry := e, enqueued := true }] } := by
    simp [Sys.step, Sys.stepPublish, Sys.setFrame, hm]
  have hmark : Sys.step repo cfg sc (.publish σ.frames.length (.mark now))
      { σ with stream := σ.stream ++ [{ message := m }],
               frames := σ.frames ++ [{ entry := e, enqueued := true }] } =
      { σ with store := markedStore now e.outboxId σ.store,
               stream := σ.stream ++ [{ message := m }] } := by
    simp [Sys.step, Sys.stepPublish, Sys.setFrame, List.eraseIdx_append_of_length_le]
  rw [publishRow, run_cons, run_cons, run_cons, run_nil, hfetch, henqueue, hmark]

/-- The last delivery is `d`, the others are `ds`. -/
structure LastCall (σ : Sys) (ds : List Delivery) (d : Delivery) (s : Store)
    (backoff : Table BackoffEntry.key) : Prop where
  deliveries : σ.deliveries = ds ++ [d]
  store : σ.store = s
  backoff : σ.backoff = backoff

/-- A step of the last delivery that goes on. -/
theorem LastCall.step {ds : List Delivery} {d d' : Delivery} {s s' : Store}
    {backoff : Table BackoffEntry.key} {a : DeliveryAction} (h : LastCall σ ds d s backoff)
    (acks : Bool)
    (he : d.step repo cfg backoff s a = { store := s', acks := acks, next := some d' }) :
    LastCall (Sys.step repo cfg sc (.delivery ds.length a) σ) ds d' s' backoff := by
  obtain ⟨hds, rfl, rfl⟩ := h
  have hget : σ.deliveries[ds.length]? = some d := by simp [hds]
  simp only [Sys.step, hget, he, Sys.applyEffect]
  exact ⟨by simp [hds], rfl, rfl⟩

/-- A step with which it returns. -/
theorem LastCall.return {ds : List Delivery} {d : Delivery} {s s' : Store}
    {backoff : Table BackoffEntry.key} {a : DeliveryAction} (h : LastCall σ ds d s backoff)
    (acks : Bool)
    (he : d.step repo cfg backoff s a = { store := s', acks := acks, next := none }) :
    (Sys.step repo cfg sc (.delivery ds.length a) σ).deliveries = ds ∧
      (Sys.step repo cfg sc (.delivery ds.length a) σ).store = s' := by
  obtain ⟨hds, rfl, rfl⟩ := h
  have hget : σ.deliveries[ds.length]? = some d := by simp [hds]
  simp only [Sys.step, hget, he, Sys.applyEffect]
  exact ⟨by simp [hds, List.eraseIdx_append_of_length_le], trivial⟩

/-- A delivery that has returned takes no more steps. -/
theorem run_gone {ds : List Delivery} (hds : σ.deliveries = ds) (bs : List DeliveryAction) :
    run (Sys.step repo cfg sc) σ (bs.map (.delivery ds.length)) = σ := by
  have hget : σ.deliveries[ds.length]? = none := by simp [hds]
  induction bs with
  | nil => rfl
  | cons b bs ih =>
      rw [List.map_cons, run_cons]
      simpa only [Sys.step, hget] using ih

/-- The worker's call up to its guard. -/
theorem run_guarded {m : TaskMessage} {t : TaskRecord} {w : WorkflowRecord} {entry : Nat}
    (worker : String) (hentry : σ.stream[entry]? = some { message := m })
    (ht : σ.store.tasks.get? m.taskId = some t)
    (hw : σ.store.workflows.get? m.workflowId = some w) :
    LastCall (run (Sys.step repo cfg sc) σ [.deliver entry worker,
        .delivery σ.deliveries.length .readTask, .delivery σ.deliveries.length .readWorkflow])
      σ.deliveries
      { worker := worker, entry := entry, message := m,
        phase := if w.state = expectedStateForTask t.taskType then .accepted t else .stale }
      σ.store σ.backoff := by
  have h₀ : LastCall (Sys.step repo cfg sc (.deliver entry worker) σ) σ.deliveries
      { worker := worker, entry := entry, message := m } σ.store σ.backoff := by
    simp only [Sys.step, hentry]
    exact ⟨rfl, rfl, rfl⟩
  rw [run_cons, run_cons, run_cons, run_nil]
  generalize Sys.step repo cfg sc (.deliver entry worker) σ = σ₁ at h₀ ⊢
  have h₁ : LastCall (Sys.step repo cfg sc (.delivery σ.deliveries.length .readTask) σ₁)
      σ.deliveries { worker := worker, entry := entry, message := m, phase := .taskRead t }
      σ.store σ.backoff := h₀.step false (by simp [Delivery.step, ht, Delivery.goto])
  generalize Sys.step repo cfg sc (.delivery σ.deliveries.length .readTask) σ₁ = σ₂ at h₁ ⊢
  refine h₁.step false ?_
  by_cases hst : w.state = expectedStateForTask t.taskType
  · simp [Delivery.step, getWorkflow, hw, classifyStaleTask_proceed, hst, Delivery.goto]
  · simp [Delivery.step, getWorkflow, hw, classifyStaleTask_proceed, hst, Delivery.goto]

/-- The rest of a call whose guard has refused: the entry is acked. -/
theorem run_refused {ds : List Delivery} {d : Delivery} {s : Store}
    {backoff : Table BackoffEntry.key} (h : LastCall σ ds d s backoff) (hp : d.phase = .stale)
    (bs : List DeliveryAction) :
    (run (Sys.step repo cfg sc) σ ((.ackStale .ok :: bs).map (.delivery ds.length))).store = s := by
  have hreturn : (Sys.step repo cfg sc (.delivery ds.length (.ackStale .ok)) σ).deliveries = ds ∧
      (Sys.step repo cfg sc (.delivery ds.length (.ackStale .ok)) σ).store = s :=
    h.return true (by simp [Delivery.step, hp, Delivery.return_, AckOutcome.applied])
  rw [List.map_cons, run_cons, run_gone hreturn.1]
  exact hreturn.2

/-- The rest of a call that its guard has accepted, when its stage commits. -/
theorem run_accepted {ds : List Delivery} {worker leaseId key : String} {entry : Nat}
    {m : TaskMessage} {t : TaskRecord} {s s' : Store} {backoff : Table BackoffEntry.key}
    {now : Time} {env : StageEnv} {reply : AgentReply} {leases : Table TaskLease.taskId}
    (h : LastCall σ ds { worker := worker, entry := entry, message := m, phase := .accepted t }
      s backoff)
    (hdefer : backoff.get? (worker, m.taskId) = none)
    (hlease : tryAcquireLease leaseId m.taskId worker s = some { s with leases := leases })
    (hkey : deliveryKey s t m = .ok key) (hopen : s.completed key = false)
    (hfresh : s.freshStage env = true)
    (htx : stageTransaction repo cfg env { message := m, task := t, idempotencyKey := key } reply
      { s with leases := leases } = .ok s') :
    (run (Sys.step repo cfg sc) σ ([.ackStale .ok, .takeLease leaseId now, .precheck,
      .ackDuplicate .ok, .execute env reply, .release, .ackCommitted .ok, .close].map
        (.delivery ds.length))).store.workflows = s'.workflows := by
  simp only [List.map_cons, List.map_nil, run_cons, run_nil]
  have h₁ : LastCall (Sys.step repo cfg sc (.delivery ds.length (.ackStale .ok)) σ) ds
      { worker := worker, entry := entry, message := m, phase := .accepted t } s backoff :=
    h.step false (by simp [Delivery.step])
  generalize Sys.step repo cfg sc (.delivery ds.length (.ackStale .ok)) σ = σ₁ at h₁ ⊢
  have h₂ : LastCall (Sys.step repo cfg sc (.delivery ds.length (.takeLease leaseId now)) σ₁) ds
      { worker := worker, entry := entry, message := m, lease := some leaseId,
        phase := .leased t } { s with leases := leases } backoff :=
    h₁.step false (by simp [Delivery.step, shouldDefer, hdefer, hlease, Delivery.goto])
  generalize Sys.step repo cfg sc (.delivery ds.length (.takeLease leaseId now)) σ₁ = σ₂ at h₂ ⊢
  have h₃ : LastCall (Sys.step repo cfg sc (.delivery ds.length .precheck) σ₂) ds
      { worker := worker, entry := entry, message := m, lease := some leaseId,
        phase := .executing t key } { s with leases := leases } backoff := by
    have hkey' : deliveryKey { s with leases := leases } t m = .ok key := hkey
    have hopen' : Store.completed { s with leases := leases } key = false := hopen
    exact h₂.step false (by simp [Delivery.step, hkey', hopen', Delivery.goto])
  generalize Sys.step repo cfg sc (.delivery ds.length .precheck) σ₂ = σ₃ at h₃ ⊢
  have h₄ : LastCall (Sys.step repo cfg sc (.delivery ds.length (.ackDuplicate .ok)) σ₃) ds
      { worker := worker, entry := entry, message := m, lease := some leaseId,
        phase := .executing t key } { s with leases := leases } backoff :=
    h₃.step false (by simp [Delivery.step])
  generalize Sys.step repo cfg sc (.delivery ds.length (.ackDuplicate .ok)) σ₃ = σ₄ at h₄ ⊢
  have h₅ : LastCall (Sys.step repo cfg sc (.delivery ds.length (.execute env reply)) σ₄) ds
      { worker := worker, entry := entry, message := m, lease := some leaseId,
        phase := .committed t key } s' backoff := by
    have hfresh' : Store.freshStage { s with leases := leases } env = true := hfresh
    exact h₄.step false (by simp [Delivery.step, hfresh', htx, Delivery.goto])
  generalize Sys.step repo cfg sc (.delivery ds.length (.execute env reply)) σ₄ = σ₅ at h₅ ⊢
  have h₆ : LastCall (Sys.step repo cfg sc (.delivery ds.length .release) σ₅) ds
      { worker := worker, entry := entry, message := m, phase := .released t key }
      (releaseLease leaseId s') backoff := h₅.step false (by simp [Delivery.step, Delivery.goto])
  generalize Sys.step repo cfg sc (.delivery ds.length .release) σ₅ = σ₆ at h₆ ⊢
  have h₇ : LastCall (Sys.step repo cfg sc (.delivery ds.length (.ackCommitted .ok)) σ₆) ds
      { worker := worker, entry := entry, message := m, phase := .closing }
      (releaseLease leaseId s') backoff := h₆.step true (by simp [Delivery.step, Delivery.ackInTry])
  generalize Sys.step repo cfg sc (.delivery ds.length (.ackCommitted .ok)) σ₆ = σ₇ at h₇ ⊢
  have h₈ : (Sys.step repo cfg sc (.delivery ds.length .close) σ₇).deliveries = ds ∧
      (Sys.step repo cfg sc (.delivery ds.length .close) σ₇).store =
      releaseLease leaseId s' := h₇.return false (by simp [Delivery.step, Delivery.return_])
  rw [h₈.2]
  exact (Quiet.of_releaseLease s' leaseId).workflows

end Schedule

/-! ### The recreated task -/

theorem repairAll_leases (sc : ReconciliationScanner) (repo : WorkflowRepoKind)
    (cfg : AppConfig) (env : ScanEnv) (cs : List ReconciliationCandidate) (s : Store) :
    (sc.repairAll repo cfg env cs s).2.leases = s.leases := by
  induction cs generalizing s with
  | nil => rfl
  | cons c rest ih =>
      rw [repairAll]
      split
      · exact ih s
      · split
        · rfl
        · next s' hr => exact (ih s').trans (performRepair_leases hr)

/-- What a scan has left of a task that it recreated. -/
structure RecreatedTask (env : ScanEnv) (s s₁ : Store) (t : TaskRecord) (w : WorkflowRecord) :
    Prop where
  expected : rowExpected s w = some t.taskType
  row : s₁.workflows.get? t.workflowId = some w
  named : t.taskId ≠ ""
  fresh : s.tasks.get? t.taskId = none
  leases : s₁.leases = s.leases
  artifacts : s₁.artifacts = s.artifacts
  idempotency : s₁.idempotency = s.idempotency
  outbox : ∀ e ∈ s₁.outbox.rows, e.taskId = t.taskId →
    e.workflowId = t.workflowId ∧ e.status = .pending

/-- A row that a scan has added belongs to a recreated task. -/
theorem new_row_built {sc : ReconciliationScanner} {repo : WorkflowRepoKind} {cfg : AppConfig}
    {env : ScanEnv} {batchSize : Nat} {s : Store} (hfresh : FreshScan env s) {e : OutboxEntry}
    (he : e ∈ (sc.scanAndRepair repo cfg env batchSize s).2.outbox.rows)
    (hnew : e ∉ s.outbox.rows) :
    e.taskId = (env.repair e.workflowId).taskId ∧ e.status = .pending ∧
      e.workflowId ∈ s.workflows.rows.map WorkflowRecord.workflowId := by
  have hmem : e ∈ (sc.scanAndRepair repo cfg env batchSize s).2.outbox.rows.filter
      (fun e' => e'.workflowId = e.workflowId) := List.mem_filter.mpr ⟨he, by simp⟩
  rcases scanAndRepair_view sc repo cfg batchSize hfresh e.workflowId with
    ⟨-, hsame⟩ | ⟨c, hc, hid, hview⟩
  · rw [hsame.outbox] at hmem
    exact absurd (List.mem_of_mem_filter hmem) hnew
  · generalize hp : sc.planOf repo cfg (env.inspected e.workflowId) s c = plan at hview
    cases hview with
    | untouched h =>
        rw [h.outbox] at hmem
        exact absurd (List.mem_of_mem_filter hmem) hnew
    | recreated w tt attempt hwid h =>
        rw [← hid] at hp
        obtain ⟨-, -, hw, -, -⟩ := recreate_cases hc hp
        rw [← hwid, h.outbox] at hmem
        rcases List.mem_append.mp hmem with hold | hlast
        · exact absurd (List.mem_of_mem_filter hold) hnew
        · have hbuilt := List.mem_singleton.mp hlast
          refine ⟨congrArg OutboxEntry.taskId hbuilt, congrArg OutboxEntry.status hbuilt, ?_⟩
          rw [← hwid]
          exact List.mem_map.mpr ⟨w, hw, rfl⟩
    | failed w hwid h =>
        rw [← hwid, h.outbox] at hmem
        exact absurd (List.mem_of_mem_filter hmem) hnew

theorem recreatedTask_of_scan {sc : ReconciliationScanner} {repo : WorkflowRepoKind}
    {cfg : AppConfig} {env : ScanEnv} {batchSize : Nat} {s : Store} (hs : StoreSound s)
    (hfresh : FreshScan env s) {t : TaskRecord} {w : WorkflowRecord}
    (ht : t ∈ (sc.scanAndRepair repo cfg env batchSize s).2.tasks.rows)
    (hnew : t ∉ s.tasks.rows) (hw : s.workflows.get? t.workflowId = some w) :
    RecreatedTask env s (sc.scanAndRepair repo cfg env batchSize s).2 t w := by
  obtain ⟨-, w', hw', attempt, hwid, hexp, hbuilt⟩ := new_task_built hfresh ht hnew
  obtain rfl : w' = w := by
    have hget := Table.get?_of_mem hw'
    rw [hwid] at hget
    exact Option.some.inj (hget.symm.trans hw)
  have hmem' : w'.workflowId ∈ s.workflows.rows.map WorkflowRecord.workflowId :=
    List.mem_map.mpr ⟨w', hw', rfl⟩
  have htid : t.taskId = (env.repair w'.workflowId).taskId := by
    rw [hbuilt]
    rfl
  have hfree : s.tasks.get? t.taskId = none := by
    rw [htid]
    exact (Store.freshDispatch_iff.mp (hfresh.fresh _ hmem')).2.1
  have hleases : (sc.scanAndRepair repo cfg env batchSize s).2.leases = s.leases :=
    repairAll_leases ..
  have hview : (sc.scanAndRepair repo cfg env batchSize s).2.workflows.get? t.workflowId = some w' ∧
      (sc.scanAndRepair repo cfg env batchSize s).2.artifacts = s.artifacts ∧
      (sc.scanAndRepair repo cfg env batchSize s).2.idempotency = s.idempotency := by
    rcases scanAndRepair_view sc repo cfg batchSize hfresh t.workflowId with
      ⟨-, hsame⟩ | ⟨c, hc, hid, hview⟩
    · exact ⟨hsame.row.trans hw, hsame.artifacts, hsame.idempotency⟩
    · have hmem : t ∈ (sc.scanAndRepair repo cfg env batchSize s).2.tasks.rows.filter
          (fun t' => t'.workflowId = t.workflowId) := List.mem_filter.mpr ⟨ht, by simp⟩
      generalize sc.planOf repo cfg (env.inspected t.workflowId) s c = plan at hview
      cases hview with
      | untouched h => exact ⟨h.row.trans hw, h.artifacts, h.idempotency⟩
      | recreated w₁ tt attempt₁ hwid₁ h =>
          have hrow := h.row
          rw [hwid₁] at hrow
          exact ⟨hrow.trans hw, h.artifacts, h.idempotency⟩
      | failed w₁ hwid₁ h =>
          rw [← hwid₁, h.tasks] at hmem
          exact absurd (List.mem_of_mem_filter hmem) hnew
  exact {
    expected := hexp
    row := hview.1
    named := by
      rw [htid]
      exact (Store.freshDispatch_iff.mp (hfresh.fresh _ hmem')).1
    fresh := hfree
    leases := hleases
    artifacts := hview.2.1
    idempotency := hview.2.2
    outbox := by
      intro e he hid
      have hold : e ∉ s.outbox.rows := by
        intro hold
        obtain ⟨t₀, ht₀, -⟩ := hs.outbox e hold
        rw [hid, hfree] at ht₀
        exact absurd ht₀ (by simp)
      obtain ⟨heid, hpending, hemem⟩ := new_row_built hfresh he hold
      refine ⟨?_, hpending⟩
      have hinj := hfresh.tasks _ hemem _ hmem' (heid.symm.trans (hid.trans htid))
      exact hinj.trans hwid }

/-- The scanner's table and the worker's guard agree in two states. -/
theorem RecreatedTask.accepted_iff {env : ScanEnv} {s s₁ : Store} {t : TaskRecord}
    {w : WorkflowRecord} (h : RecreatedTask env s s₁ t w) :
    w.state = expectedStateForTask t.taskType ↔
      w.state = .collecting ∨ w.state = .generatingScenario := by
  rcases rowExpected_cases h.expected with ⟨hst, htt⟩ | ⟨hne, hexp⟩
  · rw [hst, htt]
    simp [expectedStateForTask]
  · revert hne hexp
    cases w.state <;> cases t.taskType <;> simp [expectedOutboxTask, expectedStateForTask]

/-! ### Publishing changes the outbox only

So what was true of the tables when the task was recreated is true when it is processed.
-/

theorem markedStore_eq (now : Time) (outboxId : String) (s : Store) :
    markedStore now outboxId s = { s with outbox := (markedStore now outboxId s).outbox } := by
  rcases markedStore_cases now outboxId s with he | hm
  · rw [he]
  · exact hm.same

theorem markedStore_freshStage {now : Time} {outboxId : String} {s : Store} {env : StageEnv}
    (h : s.freshStage env = true) : (markedStore now outboxId s).freshStage env = true := by
  have houtbox : ∀ id, (s.outbox.get? id).isNone = true →
      ((markedStore now outboxId s).outbox.get? id).isNone = true := by
    intro id hid
    rcases markedStore_cases now outboxId s with he | hm
    · rw [he]
      exact hid
    · obtain ⟨e, at', hg, hout⟩ := hm.outbox
      rw [hout, Table.get?_upsert]
      have hne : ¬ e.outboxId = id := by
        intro heq
        rw [← heq, Table.key_of_get? hg, hg] at hid
        exact absurd hid (by simp)
      rw [if_neg hne]
      exact hid
  have htables := markedStore_eq now outboxId s
  unfold Store.freshStage Store.freshDispatch at h ⊢
  simp only [Bool.and_eq_true] at h ⊢
  obtain ⟨⟨hart, ⟨⟨hid, htask⟩, hpayload⟩, hout⟩, ⟨⟨hid', htask'⟩, hpayload'⟩, hout'⟩ := h
  rw [htables]
  exact ⟨⟨hart, ⟨⟨hid, htask⟩, hpayload⟩, houtbox _ hout⟩, ⟨⟨hid', htask'⟩, hpayload'⟩,
    houtbox _ hout'⟩

/-! ### The recreated task is processed -/

/-- The workflow of the row `w` has a stored row in another state. -/
def LeavesState (s : Store) (w : WorkflowRecord) : Prop :=
  ∃ w', s.workflows.get? w.workflowId = some w' ∧ w'.state ≠ w.state

/-- The key of an accepted recreated task is open: a completed one would have stored the
artifact that the handler is about to store. -/
theorem RecreatedTask.open_key {env : ScanEnv} {s s₁ : Store} {t : TaskRecord}
    {w : WorkflowRecord} {m : TaskMessage} {senv : StageEnv} {reply : AgentReply}
    {ctx : DeliveryContext} {p : TaskHandlerResult × Store} {n : Int}
    (h : RecreatedTask env s s₁ t w) (hs : StoreSound s) (htask : ctx.task = t)
    (hmsg : ctx.message = m) (hn : resolveLogicalVersion s₁ t m = .ok n)
    (hhandler : handleTask t.taskType (handlerContext senv ctx) reply s₁ = .ok p) :
    s₁.completed (formatIdempotencyKey m.workflowId t.taskType n) = false := by
  subst htask hmsg
  obtain ⟨call, hcall, hfree, -⟩ := createArtifactCall_of_handled hhandler
  obtain rfl := createArtifactCall_ok hn hcall
  by_contra hc
  have hdone : s.completed (formatIdempotencyKey ctx.message.workflowId ctx.task.taskType n)
      = true := by
    rw [Bool.not_eq_false] at hc
    unfold Store.completed at hc ⊢
    rw [h.idempotency] at hc
    exact hc
  have hstored := hs.stored _ _ _ hdone
  rw [hasArtifact_congr h.artifacts] at hfree
  exact absurd (hfree.symm.trans hstored) (by simp)

/-- The stage of an accepted recreated task commits, and the workflow leaves its state. -/
theorem RecreatedTask.commits {repo : WorkflowRepoKind} {cfg : AppConfig} {env : ScanEnv}
    {s s₁ s₂ : Store} {t : TaskRecord} {w : WorkflowRecord} {senv : StageEnv}
    {reply : AgentReply} {ctx : DeliveryContext} {p : TaskHandlerResult × Store} {n : Int}
    (h : RecreatedTask env s s₁ t w) (hs : StoreSound s) (htask : ctx.task = t)
    (hid : ctx.message.taskId = t.taskId) (hwid : ctx.message.workflowId = t.workflowId)
    (hst : w.state = expectedStateForTask t.taskType) (ht : t ∈ s₁.tasks.rows)
    (hstage : s₁.freshStage senv = true) (hn : resolveLogicalVersion s₁ t ctx.message = .ok n)
    (hhandler : handleTask t.taskType (handlerContext senv ctx) reply s₁ = .ok p)
    (hkey : ctx.idempotencyKey = formatIdempotencyKey ctx.message.workflowId t.taskType n)
    (hs₂ : s₂ = { s₁ with outbox := s₂.outbox, leases := s₂.leases }) :
    ∃ s', stageTransaction repo cfg senv ctx reply s₂ = .ok s' ∧ LeavesState s' w := by
  subst htask
  have hopen := h.open_key hs rfl rfl hn hhandler
  obtain ⟨call, hcall, hfree, hrefused⟩ := createArtifactCall_of_handled hhandler
  -- the handler looks at nothing that publishing and leasing change
  have hcall₂ : createArtifactCall ctx.task.taskType (handlerContext senv ctx) reply s₂ =
      .ok call := by
    rw [← hcall]
    exact createArtifactCall_congr (by rw [hs₂]) (by rw [hs₂]) (by rw [hs₂]) _ _ _
  have hn₂ : resolveLogicalVersion s₂ ctx.task ctx.message = .ok n := by
    rw [hs₂]
    exact hn
  have hopen₂ : s₂.completed ctx.idempotencyKey = false := by
    rw [hs₂, hkey]
    exact hopen
  have hrow : s₂.workflows.get? ctx.message.workflowId = some w := by
    rw [hs₂, hwid]
    exact h.row
  have htask₂ : s₂.tasks.get? ctx.message.taskId ≠ none := by
    rw [hs₂, hid]
    change s₁.tasks.get? ctx.task.taskId ≠ none
    rw [Table.get?_of_mem ht]
    simp
  obtain ⟨result, s₃, hhandle₂⟩ := handleTask_of_free hcall₂ (by rw [hs₂]; exact hfree) hrefused
  have hsignal : result.transitionSignal.getD .stageCompleted ≠ .criticRevise := by
    obtain ⟨⟨signal, hsig, rfl⟩, -, -⟩ := handleTask_ok hn₂ hhandle₂
    intro hrev
    change signal = .criticRevise at hrev
    subst hrev
    rcases h.accepted_iff.mp hst with hst' | hst' <;> rw [hst'] at hst <;>
      cases htt : ctx.task.taskType <;> rw [htt] at hst hsig <;>
      first | exact absurd hst (by decide) | exact absurd hsig (by decide)
  obtain ⟨s', htx⟩ : ∃ s', stageTransaction repo cfg senv ctx reply s₂ = .ok s' :=
    stageTransaction_of_handled hn₂ hhandle₂ hopen₂ hrow hst htask₂
      (fun _ hrev => absurd hrev hsignal)
  have hartifact : s₂.artifacts.get? senv.artifactId = none := by
    simp only [Store.freshStage, Bool.and_eq_true] at hstage
    rw [hs₂]
    simpa using hstage.1.1
  obtain ⟨w', row, next, denv, taskRow, hc⟩ :=
    stageTransaction_ok hn₂ hopen₂ (by rw [hid]; exact h.named) hartifact htx
  refine ⟨s', htx, row, ?_, ?_⟩
  · rw [hc.workflows, Table.get?_upsert, if_pos]
    exact hc.rowId.trans (hwid.trans (Table.key_of_get? h.row).symm)
  · rw [hst]
    exact hc.move.leaves

/-- **The way of a recreated task**: its workflow leaves its state exactly when the worker's
guard accepts the task there. -/
theorem RecreatedTask.processed_iff {repo : WorkflowRepoKind} {cfg : AppConfig}
    {sc : ReconciliationScanner} {env : ScanEnv} {σ : Sys} {s : Store} {t : TaskRecord}
    {w : WorkflowRecord} {e : OutboxEntry} {m : TaskMessage} {senv : StageEnv}
    {reply : AgentReply} {ctx : DeliveryContext} {p : TaskHandlerResult × Store} {worker : String}
    (h : RecreatedTask env s σ.store t w) (hs : StoreSound s)
    (hlease : σ.store.leases.get? t.taskId = none)
    (hbackoff : σ.backoff.get? (worker, t.taskId) = none)
    (ht : t ∈ σ.store.tasks.rows) (he : e ∈ σ.store.outbox.rows)
    (het : e.taskId = t.taskId) (hm : buildMessage σ.store e = some m)
    (hstage : σ.store.freshStage senv = true) (htask : ctx.task = t) (hmsg : ctx.message = m)
    (hhandler : handleTask t.taskType (handlerContext senv ctx) reply σ.store = .ok p)
    (leaseId : String) (now : Time) :
    LeavesState (run (Sys.step repo cfg sc) σ
        (publishAndProcess σ e.outboxId worker leaseId now senv reply)).store w ↔
      w.state = expectedStateForTask t.taskType := by
  obtain ⟨hew, hpending⟩ := h.outbox e he het
  obtain ⟨t₀, ht₀, hmeq⟩ := Option.map_eq_some_iff.mp hm
  have hmid : m.taskId = t.taskId := by rw [← hmeq]; exact het
  have hmw : m.workflowId = t.workflowId := by rw [← hmeq]; exact hew
  have hwid : w.workflowId = t.workflowId := Table.key_of_get? h.row
  -- the publisher's pass leaves everything but the outbox and the stream alone
  have hpub : run (Sys.step repo cfg sc) σ (publishRow e.outboxId σ.frames.length now) =
      { σ with store := markedStore now e.outboxId σ.store,
               stream := σ.stream ++ [{ message := m }] } :=
    run_publishRow now (Table.get?_of_mem he) hpending hm
  have htables := markedStore_eq now e.outboxId σ.store
  have hfresh : (markedStore now e.outboxId σ.store).freshStage senv = true :=
    markedStore_freshStage hstage
  unfold publishAndProcess
  rw [run_append, hpub]
  generalize (markedStore now e.outboxId σ.store).outbox = outbox at htables
  rw [htables] at hfresh ⊢
  -- the worker's guard
  have hguard : LastCall (run (Sys.step repo cfg sc)
      { σ with store := { σ.store with outbox := outbox }, stream := σ.stream ++ [{ message := m }] }
      [.deliver σ.stream.length worker, .delivery σ.deliveries.length .readTask,
        .delivery σ.deliveries.length .readWorkflow]) σ.deliveries
      { worker := worker, entry := σ.stream.length, message := m,
        phase := if w.state = expectedStateForTask t.taskType then .accepted t else .stale }
      { σ.store with outbox := outbox } σ.backoff :=
    run_guarded worker (by simp) (by rw [hmid]; exact Table.get?_of_mem ht) (by rw [hmw]; exact h.row)
  have hsplit : processEntry σ.stream.length σ.deliveries.length worker leaseId now senv reply =
      [.deliver σ.stream.length worker, .delivery σ.deliveries.length .readTask,
        .delivery σ.deliveries.length .readWorkflow] ++
      [.ackStale .ok, .takeLease leaseId now, .precheck, .ackDuplicate .ok, .execute senv reply,
        .release, .ackCommitted .ok, .close].map (.delivery σ.deliveries.length) := rfl
  rw [hsplit, run_append]
  generalize run (Sys.step repo cfg sc) _ _ = σ' at hguard ⊢
  by_cases hst : w.state = expectedStateForTask t.taskType
  · refine iff_of_true ?_ hst
    rw [if_pos hst] at hguard
    subst htask hmsg
    obtain ⟨n, hn⟩ : ∃ n, resolveLogicalVersion σ.store ctx.task ctx.message = .ok n := by
      unfold resolveLogicalVersion
      rcases h.accepted_iff.mp hst with hst' | hst' <;> rw [hst'] at hst <;>
        cases htt : ctx.task.taskType <;> rw [htt] at hst <;>
        first | exact ⟨_, rfl⟩ | exact absurd hst (by decide)
    obtain ⟨leases, hlease'⟩ : ∃ leases, tryAcquireLease leaseId ctx.message.taskId worker
        { σ.store with outbox := outbox } =
        some { σ.store with outbox := outbox, leases := leases } := by
      unfold tryAcquireLease
      rw [Table.insert?_of_get?_none (by rw [hmid]; exact hlease)]
      exact ⟨_, rfl⟩
    obtain ⟨s', htx, w', hw', hne⟩ : ∃ s', stageTransaction repo cfg senv
        { message := ctx.message, task := ctx.task, idempotencyKey :=
          formatIdempotencyKey ctx.message.workflowId ctx.task.taskType n } reply
        { σ.store with outbox := outbox, leases := leases } = .ok s' ∧ LeavesState s' w :=
      h.commits hs rfl hmid hmw hst ht hstage hn hhandler rfl rfl
    have hkey : deliveryKey { σ.store with outbox := outbox } ctx.task ctx.message =
        .ok (formatIdempotencyKey ctx.message.workflowId ctx.task.taskType n) := by
      unfold deliveryKey
      change (resolveLogicalVersion σ.store ctx.task ctx.message).map _ = _
      rw [hn]
      rfl
    refine ⟨w', ?_, hne⟩
    rw [run_accepted hguard (by rw [hmid]; exact hbackoff) hlease' hkey
      (h.open_key hs rfl rfl hn hhandler) hfresh htx]
    exact hw'
  · refine iff_of_false ?_ hst
    rw [if_neg hst] at hguard
    rw [run_refused hguard rfl]
    intro hleaves
    obtain ⟨w', hw', hne⟩ := hleaves
    rw [hwid] at hw'
    obtain rfl : w = w' := Option.some.inj (h.row.symm.trans hw')
    exact hne rfl

/-- **A recreated task makes its workflow progress exactly in `COLLECTING` and
`GENERATING_SCENARIO`**, in every state that the system can reach: after the scan its outbox row
is published and its message processed, and its handler succeeds. -/
theorem run_repair_progress_iff (repo : WorkflowRepoKind) (cfg : AppConfig)
    (sc : ReconciliationScanner) (as : List Action) (σ : Sys)
    (hreach : run (Sys.step repo cfg sc) {} as = σ) (env : ScanEnv) (batchSize : Nat)
    (hfresh : FreshScan env σ.store) (s : Store)
    (hscan : (sc.scanAndRepair repo cfg env batchSize σ.store).2 = s) (t : TaskRecord)
    (ht : t ∈ s.tasks.rows) (hnew : t ∉ σ.store.tasks.rows) (w : WorkflowRecord)
    (hw : σ.store.workflows.get? t.workflowId = some w) (e : OutboxEntry) (he : e ∈ s.outbox.rows)
    (het : e.taskId = t.taskId) (m : TaskMessage) (hm : buildMessage s e = some m)
    (senv : StageEnv) (hstage : s.freshStage senv = true) (reply : AgentReply)
    (p : TaskHandlerResult × Store)
    (hhandler : handleTask t.taskType (handlerContext senv
      { message := m, task := t, idempotencyKey := t.idempotencyKey }) reply s = .ok p)
    (worker leaseId : String) (now : Time) :
    LeavesState (run (Sys.step repo cfg sc) { σ with store := s }
        (publishAndProcess { σ with store := s } e.outboxId worker leaseId now senv reply)).store w ↔
      w.state = .collecting ∨ w.state = .generatingScenario := by
  obtain ⟨hsound, hknown⟩ := run_leasesKnown repo cfg sc as
  rw [hreach] at hsound hknown
  have hrec : RecreatedTask env σ.store ({ σ with store := s } : Sys).store t w := by
    subst hscan
    exact recreatedTask_of_scan hsound.store hfresh ht hnew hw
  -- nothing leases or defers a task that was not there before the scan
  have hlease : s.leases.get? t.taskId = none := by
    rw [hrec.leases]
    by_contra hne
    obtain ⟨l, hl⟩ := Option.ne_none_iff_exists'.mp hne
    refine hknown.leases l (Table.mem_of_get? hl) ?_
    rw [Table.key_of_get? hl]
    exact hrec.fresh
  have hbackoff : σ.backoff.get? (worker, t.taskId) = none := by
    by_contra hne
    obtain ⟨b, hb⟩ := Option.ne_none_iff_exists'.mp hne
    refine hknown.backoff b (Table.mem_of_get? hb) ?_
    rw [show b.taskId = t.taskId from congrArg Prod.snd (Table.key_of_get? hb)]
    exact hrec.fresh
  rw [← hrec.accepted_iff]
  exact hrec.processed_iff hsound.store hlease hbackoff ht he het hm hstage rfl rfl hhandler
    leaseId now

/-! ### A collection and a review

The recreated collection moves its workflow on; the recreated review is skipped.
-/

/-- The system after a run over the in-memory repository, before and after a scan. -/
def reachedSys (as : List Action) : Sys := run (Sys.step .fakes .prod {}) {} as

def scannedStore (as : List Action) : Store :=
  (scanAndRepair {} .fakes .prod (ScanEnv.numbered 4 99) 100 (reachedSys as).store).2

/-- The system after a recreated task's row is published and its message processed. -/
def processed (as : List Action) (e : OutboxEntry) : Sys :=
  run (Sys.step .fakes .prod {}) { reachedSys as with store := scannedStore as }
    (publishAndProcess { reachedSys as with store := scannedStore as } e.outboxId "worker" "lease"
      5 (StageEnv.numbered 5 200) (.ok {}))

/-- A recreated task of a scan with its outbox row and its workflow, such that its handler
succeeds. -/
def RecreatedBy (as : List Action) (t : TaskRecord) (e : OutboxEntry) : Prop :=
  t ∈ (scannedStore as).tasks.rows ∧ t ∉ (reachedSys as).store.tasks.rows ∧
    e ∈ (scannedStore as).outbox.rows ∧ e.taskId = t.taskId ∧
    (buildMessage (scannedStore as) e).any (fun m =>
      (handleTask t.taskType (handlerContext (StageEnv.numbered 5 200)
        { message := m, task := t, idempotencyKey := t.idempotencyKey }) (.ok {})
        (scannedStore as)).toOption.isSome) = true

instance (as : List Action) (t : TaskRecord) (e : OutboxEntry) : Decidable (RecreatedBy as t e) :=
  inferInstanceAs (Decidable (_ ∧ _ ∧ _ ∧ _ ∧ _))

/-- A workflow is initiated and its first row is published. -/
def collectingRun : List Action :=
  .initiate (Env.numbered 0 0) { workflowId := some "wf" } :: publishRow "outbox-0" 0 1

/-- An engine call on the workflow. -/
def engineCall (n : Nat) (expected : WorkflowState) (signal : TransitionSignal) : Action :=
  .transition (Env.numbered 3 n)
    { workflowId := "wf", expectedState := expected, signal := signal, reason := "call" }

/-- A scenario is generated; engine calls send it back and report the next one as generated,
and all rows are published. -/
def scenarioGeneratedRun : List Action :=
  topicRun ++ processRow 3 4 2 0 3 (.ok {}) ++
    [engineCall 20 .reviewing .criticRevise, engineCall 21 .revisionRequired .stageCompleted,
      engineCall 22 .generatingScenario .stageCompleted] ++
    publishRow "outbox-6" 0 3 ++ publishRow "outbox-21" 0 3 ++ publishRow "outbox-22" 0 3

/-- The recreated collection moves its workflow on. -/
theorem collectingRun_progress :
    ∃ t e, RecreatedBy collectingRun t e ∧
      ∃ w, (reachedSys collectingRun).store.workflows.get? t.workflowId = some w ∧
        LeavesState (processed collectingRun e).store w := by
  have hex : ∃ t ∈ (scannedStore collectingRun).tasks.rows,
      ∃ e ∈ (scannedStore collectingRun).outbox.rows, RecreatedBy collectingRun t e ∧
        ((reachedSys collectingRun).store.workflows.get? t.workflowId).any
          (fun w => w.state = .collecting) = true := by decide +kernel
  have hfresh : FreshScan (ScanEnv.numbered 4 99) (reachedSys collectingRun).store := by
    decide +kernel
  have hstage : (scannedStore collectingRun).freshStage (StageEnv.numbered 5 200) = true := by
    decide +kernel
  obtain ⟨t, -, e, -, hrec, hcollecting⟩ := hex
  obtain ⟨w, hw, hst⟩ := (Option.any_eq_true _ _).mp hcollecting
  obtain ⟨ht, hnew, he, het, hany⟩ := hrec
  obtain ⟨m, hm, hok⟩ := (Option.any_eq_true _ _).mp hany
  refine ⟨t, e, ⟨ht, hnew, he, het, hany⟩, w, hw, ?_⟩
  cases hhandler : handleTask t.taskType (handlerContext (StageEnv.numbered 5 200)
      { message := m, task := t, idempotencyKey := t.idempotencyKey }) (.ok {})
      (scannedStore collectingRun) with
  | error err =>
      rw [hhandler] at hok
      exact absurd hok (by simp [Except.toOption])
  | ok p =>
      unfold processed
      exact (run_repair_progress_iff .fakes .prod {} collectingRun (reachedSys collectingRun) rfl
        (ScanEnv.numbered 4 99) 100 hfresh (scannedStore collectingRun) rfl t ht hnew w hw e he het m
        hm (StageEnv.numbered 5 200) hstage (.ok {}) p hhandler "worker" "lease" 5).mpr
        (Or.inl (by simpa using hst))

/-- The message of the recreated review is acked and skipped, and the workflow stays in
`SCENARIO_GENERATED`. -/
theorem scenarioGeneratedRun_stuck :
    ∃ t ∈ (scannedStore scenarioGeneratedRun).tasks.rows,
      ∃ e ∈ (scannedStore scenarioGeneratedRun).outbox.rows,
        RecreatedBy scenarioGeneratedRun t e ∧
          ((reachedSys scenarioGeneratedRun).store.workflows.get? t.workflowId).map
              WorkflowRecord.state = some .scenarioGenerated ∧
          ((processed scenarioGeneratedRun e).store.workflows.get? t.workflowId).map
              WorkflowRecord.state = some .scenarioGenerated ∧
          (processed scenarioGeneratedRun e).stream.getLast?.map StreamEntry.acked = some true := by
  decide +kernel

end CartoonDemo
