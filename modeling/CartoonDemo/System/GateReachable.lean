import CartoonDemo.System.FirstDraft
import CartoonDemo.System.Lineage
import CartoonDemo.System.RepairProgress

/-!
# CartoonDemo.System.GateReachable

**The way to the human gate.** In every state that the pipeline reaches, a workflow that waits in
a stage can still be brought to `AWAITING_HUMAN_APPROVAL` exactly when no review of it has
completed. One way there: a new worker takes the task that the stage waits for, from the outbox or
from the stream, after its lease has run out, and the stage succeeds (`stage_possible`); no more
than four stages are left. After a review there is no way (`FirstDraft`).
-/

namespace CartoonDemo

open WorkflowEngine TransitionExecutor WorkerLoop WorkflowStateGuard HandlerSupport

/-! ### What can be drawn

There is always an identifier that no row has.
-/

theorem exists_unused (ids : List String) : ∃ x, x ∉ ids := by
  obtain ⟨x, hx⟩ := Infinite.exists_notMem_finset ids.toFinset
  exact ⟨x, fun hmem => hx (List.mem_toFinset.mpr hmem)⟩

/-- A transaction whose identifiers are all `x`. -/
def Env.drawn (x : String) : Env :=
  { Env.numbered 0 0 with taskId := x, outboxId := x }

def WorkerLoop.StageEnv.drawn (x : String) : StageEnv :=
  { StageEnv.numbered 0 0 with artifactId := x, transition := Env.drawn x, bridge := Env.drawn x }

theorem exists_freshStage (s : Store) :
    ∃ env : StageEnv, s.freshStage env = true ∧ env.refused = none := by
  obtain ⟨x, hx⟩ := exists_unused ("" :: (s.artifacts.rows.map ArtifactRecord.artifactId ++
    s.tasks.rows.map TaskRecord.taskId ++ s.payloads.rows.map TaskPayloadRow.refId ++
    s.outbox.rows.map OutboxEntry.outboxId))
  simp only [List.mem_cons, List.mem_append, List.mem_map, not_or, not_exists, not_and] at hx
  obtain ⟨hne, ⟨⟨hart, htask⟩, hpayload⟩, hout⟩ := hx
  have hdispatch : s.freshDispatch (Env.drawn x) = true := by
    refine Store.freshDispatch_iff.mpr ⟨hne, ?_, ?_, ?_⟩
    · exact Table.get?_eq_none_iff.mpr htask
    · exact Table.get?_eq_none_iff.mpr hpayload
    · exact Table.get?_eq_none_iff.mpr hout
  refine ⟨StageEnv.drawn x, ?_, rfl⟩
  have hfree : s.artifacts.get? x = none := Table.get?_eq_none_iff.mpr hart
  simp only [Store.freshStage, StageEnv.drawn, hfree, hdispatch, Option.isNone_none, Bool.and_self]

/-- A worker that has not put this task off. -/
theorem exists_worker (backoff : Table BackoffEntry.key) (taskId : String) :
    ∃ worker, backoff.get? (worker, taskId) = none := by
  obtain ⟨x, hx⟩ := exists_unused (backoff.rows.map BackoffEntry.worker)
  refine ⟨x, ?_⟩
  cases hb : backoff.get? (x, taskId) with
  | none => rfl
  | some b =>
      refine absurd (List.mem_map.mpr ⟨b, Table.mem_of_get? hb, ?_⟩) hx
      exact congrArg Prod.fst (Table.key_of_get? hb)

/-! ### What the pipeline keeps -/

structure Piped (σ : Sys) : Prop where
  delivered : Delivered σ
  lineaged : Lineaged σ
  drafts : Tracked Progress.FirstDraft σ.store

theorem piped_empty : Piped {} := ⟨delivered_empty, lineaged_empty, tracked_empty _⟩

theorem Piped.step {repo : WorkflowRepoKind} {cfg : AppConfig} {sc : ReconciliationScanner}
    {σ : Sys} (h : Piped σ) {a : Action} (ha : a.origin = .pipeline) :
    Piped (Sys.step repo cfg sc a σ) := by
  have hsteps := step_store repo cfg sc h.lineaged.sound a
  rw [ha] at hsteps
  exact ⟨h.delivered.step ha, h.lineaged.step (by rw [ha]; decide),
    h.drafts.firstDraft_steps h.lineaged.sound.store hsteps⟩

theorem Piped.run {repo : WorkflowRepoKind} {cfg : AppConfig} {sc : ReconciliationScanner}
    {σ : Sys} (h : Piped σ) {bs : List Action} (hbs : ∀ a ∈ bs, a.origin = .pipeline) :
    Piped (run (Sys.step repo cfg sc) σ bs) :=
  run_induction (fun a => a.origin = .pipeline) (fun _ _ ha hσ => hσ.step ha) h hbs

/-! ### The task that a stage waits for -/

/-- The open operation of a stage, as a task that waits. -/
theorem Delivered.open_waiting {σ : Sys} (h : Delivered σ) {id : String} {w : WorkflowRecord}
    {tt : TaskType} (hw : σ.store.workflows.get? id = some w)
    (hst : w.state = expectedStateForTask tt) :
    ∃ t ∈ σ.store.tasks.rows, t.workflowId = id ∧ t.taskType = tt ∧
      σ.store.completed t.idempotencyKey = false ∧ Waiting σ t.taskId := by
  obtain ⟨p, hp, hl⟩ := h.live id (by rw [hw]; simp)
  have hstate := hp.state_eq hw
  obtain ⟨n, hone⟩ := hl.waits (hstate.symm.trans hst)
  obtain ⟨t, ht, hid, htype, hkey⟩ := hp.task_of_mem hone.dispatched
  have hopen : σ.store.completed t.idempotencyKey = false := by
    rw [hkey, ← Bool.not_eq_true]
    exact fun hc => hone.open_ ((hp.done_iff tt n).mpr hc)
  refine ⟨t, ht, hid, htype, hopen, h.waiting ht ?_⟩
  rintro ⟨t₀, hg, hor⟩
  obtain rfl : t₀ = t := Option.some.inj (hg.symm.trans (Table.get?_of_mem ht))
  rcases hor with hc | ⟨w', hw', hend⟩
  · exact absurd (hc.symm.trans hopen) (by simp)
  · rw [hid, hw] at hw'
    obtain rfl := Option.some.inj hw'
    rw [hst] at hend
    cases tt <;> exact absurd hend (by decide)

/-- The database apart from outbox rows and leases. -/
def Store.SameCore (s s' : Store) : Prop :=
  s' = { s with outbox := s'.outbox, leases := s'.leases }

theorem Store.SameCore.withLeases {s s' : Store} (h : s.SameCore s')
    (leases : Table TaskLease.taskId) : s.SameCore { s' with leases := leases } := by
  unfold Store.SameCore at h ⊢
  exact congrArg (fun s₁ : Store => ({ s₁ with leases := leases } : Store)) h

theorem markedStore_core (now : Time) (outboxId : String) (s : Store) :
    s.SameCore (markedStore now outboxId s) := by
  have heq := markedStore_eq now outboxId s
  unfold Store.SameCore
  generalize markedStore now outboxId s = s' at heq ⊢
  generalize s'.outbox = outbox at heq ⊢
  rw [heq]

/-- **A waiting task comes to the stream**, and nothing but its outbox row changes. -/
theorem entry_possible (repo : WorkflowRepoKind) (cfg : AppConfig) (sc : ReconciliationScanner)
    {σ : Sys} {t : TaskRecord} (ht : t ∈ σ.store.tasks.rows)
    (hwait : Waiting σ t.taskId) :
    ∃ (bs : List Action) (σ₁ : Sys) (n : Nat) (m : TaskMessage), (∀ a ∈ bs, a.origin = .pipeline) ∧
      run (Sys.step repo cfg sc) σ bs = σ₁ ∧ σ₁.stream[n]? = some { message := m } ∧
      m.taskId = t.taskId ∧ σ.store.SameCore σ₁.store := by
  rcases hwait with ⟨e, he, hid, hpending⟩ | ⟨entry, hentry, hid, hack⟩
  · obtain ⟨m, hm, hmid⟩ : ∃ m, buildMessage σ.store e = some m ∧ m.taskId = e.taskId := by
      unfold buildMessage
      rw [hid, Table.get?_of_mem ht]
      exact ⟨_, rfl, rfl⟩
    refine ⟨publishRow e.outboxId σ.frames.length 0, _, σ.stream.length, _, ?_,
      run_publishRow 0 (Table.get?_of_mem he) hpending hm, ?_, hmid.trans hid, ?_⟩
    · simp [publishRow, Action.origin]
    · simp
    · exact markedStore_core 0 e.outboxId σ.store
  · obtain ⟨n, hn⟩ := List.mem_iff_getElem?.mp hentry
    refine ⟨[], σ, n, entry.message, by simp, rfl, ?_, hid, rfl⟩
    rw [hn, ← hack]

/-! ### A stage

From any reached state the open task of a workflow can be delivered, executed and completed.
-/

/-- **A new worker gets to the handler** of a waiting task whose operation is open. -/
theorem executing_possible (repo : WorkflowRepoKind) (cfg : AppConfig)
    (sc : ReconciliationScanner) {σ : Sys} (h : Piped σ) {t : TaskRecord} {w : WorkflowRecord}
    (ht : t ∈ σ.store.tasks.rows) (hopen : σ.store.completed t.idempotencyKey = false)
    (hw : σ.store.workflows.get? t.workflowId = some w)
    (hst : w.state = expectedStateForTask t.taskType) (hwait : Waiting σ t.taskId) :
    ∃ (bs : List Action) (ds : List Delivery) (d : Delivery) (s : Store)
      (backoff : Table BackoffEntry.key), (∀ a ∈ bs, a.origin = .pipeline) ∧
      LastCall (run (Sys.step repo cfg sc) σ bs) ds d s backoff ∧
      d.phase = .executing t t.idempotencyKey ∧ d.message.workflowId = t.workflowId ∧
      d.message.taskId = t.taskId ∧ σ.store.SameCore s := by
  obtain ⟨bs, σ₁, k, m, hbs, hrun, hentry, hid, hcore⟩ :=
    entry_possible repo cfg sc ht hwait
  obtain ⟨worker, hworker⟩ := exists_worker σ₁.backoff m.taskId
  have hsound : SysSound σ₁ := by
    rw [← hrun]
    exact (h.run hbs).lineaged.sound
  have ht₁ : σ₁.store.tasks.get? m.taskId = some t := by
    rw [hcore, hid]
    exact Table.get?_of_mem ht
  have hmsg : m.workflowId = t.workflowId := by
    obtain ⟨t', ht', hmw⟩ := hsound.stream _ (List.mem_of_getElem? hentry)
    obtain rfl : t' = t := Option.some.inj (ht'.symm.trans ht₁)
    exact hmw
  have hw₁ : σ₁.store.workflows.get? m.workflowId = some w := by
    rw [hcore, hmsg]
    exact hw
  -- the lease of a former worker runs out
  obtain ⟨σ₂, hσ₂⟩ : ∃ σ₂, σ₂ = Sys.step repo cfg sc (.expireLease m.taskId) σ₁ := ⟨_, rfl⟩
  have hguard : LastCall (run (Sys.step repo cfg sc) σ₂ [.deliver k worker,
      .delivery σ₂.deliveries.length .readTask, .delivery σ₂.deliveries.length .readWorkflow])
      σ₂.deliveries { worker := worker, entry := k, message := m, phase := .accepted t }
      σ₂.store σ₂.backoff := by
    have hentry₂ : σ₂.stream[k]? = some { message := m } := by rw [hσ₂]; exact hentry
    have ht₂ : σ₂.store.tasks.get? m.taskId = some t := by rw [hσ₂]; exact ht₁
    have hw₂ : σ₂.store.workflows.get? m.workflowId = some w := by rw [hσ₂]; exact hw₁
    have hg := @run_guarded repo cfg sc σ₂ m t w k worker hentry₂ ht₂ hw₂
    rw [if_pos hst] at hg
    exact hg
  obtain ⟨leases, hleases⟩ : ∃ leases, tryAcquireLease "lease" m.taskId worker σ₂.store =
      some { σ₂.store with leases := leases } := by
    unfold tryAcquireLease
    have hnone : σ₂.store.leases.get? m.taskId = none := by
      rw [hσ₂]
      change (σ₁.store.leases.erase m.taskId).get? m.taskId = none
      simp
    rw [Table.insert?_of_get?_none hnone]
    exact ⟨_, rfl⟩
  have hcore₂ : σ.store.SameCore { σ₂.store with leases := leases } := by
    rw [hσ₂]
    exact hcore.withLeases leases
  have hsoundness : StoreSound { σ₂.store with leases := leases } := by
    have hquiet : StoreStep cfg .pipeline σ₂.store { σ₂.store with leases := leases } :=
      .quiet (Quiet.of_leases _ _)
    refine StoreSound.step ?_ hquiet
    rw [hσ₂]
    exact (hsound.step (.expireLease m.taskId)).store
  generalize ({ σ₂.store with leases := leases } : Store) = s at hleases hcore₂ hsoundness
  have hdelivery : deliveryKey s t m = .ok t.idempotencyKey := by
    obtain ⟨n, hn⟩ := hsoundness.task t (by rw [hcore₂]; exact ht)
    exact hn.deliveryKey hmsg
  generalize hσ₃ : run (Sys.step repo cfg sc) σ₂ _ = σ₃ at hguard
  have hleased : LastCall (Sys.step repo cfg sc (.delivery σ₂.deliveries.length
      (.takeLease "lease" 0)) σ₃) σ₂.deliveries
      { worker := worker, entry := k, message := m, lease := some "lease", phase := .leased t }
      s σ₂.backoff :=
    hguard.step false (by
      have hdefer : σ₂.backoff.get? (worker, m.taskId) = none := by
        rw [hσ₂]
        exact hworker
      simp [Delivery.step, shouldDefer, hdefer, hleases, Delivery.goto])
  have hexecuting : LastCall (Sys.step repo cfg sc (.delivery σ₂.deliveries.length .precheck)
      (Sys.step repo cfg sc (.delivery σ₂.deliveries.length (.takeLease "lease" 0)) σ₃))
      σ₂.deliveries
      { worker := worker, entry := k, message := m, lease := some "lease",
        phase := .executing t t.idempotencyKey } s σ₂.backoff :=
    hleased.step false (by
      have hopen' : s.completed t.idempotencyKey = false := by
        rw [hcore₂]
        exact hopen
      simp [Delivery.step, hdelivery, hopen', Delivery.goto])
  refine ⟨bs ++ .expireLease m.taskId :: ([.deliver k worker,
      .delivery σ₂.deliveries.length .readTask, .delivery σ₂.deliveries.length .readWorkflow] ++
      [.delivery σ₂.deliveries.length (.takeLease "lease" 0),
        .delivery σ₂.deliveries.length .precheck]), σ₂.deliveries,
    { worker := worker, entry := k, message := m, lease := some "lease",
      phase := .executing t t.idempotencyKey }, s, σ₂.backoff, ?_, ?_, rfl, hmsg, hid, hcore₂⟩
  · intro a ha
    rcases List.mem_append.mp ha with hold | hnew
    · exact hbs a hold
    · clear ha
      revert a
      simp [Action.origin]
  · rw [run_append, hrun, run_cons, ← hσ₂, run_append, hσ₃, run_cons, run_cons, run_nil]
    exact hexecuting

/-- Where a stage goes when its agent returns, selects a topic and passes the scenario. -/
def stageGoal : TaskType → WorkflowState
  | .collect => .selectingTopic
  | .selectTopic => .generatingScenario
  | .generateScenario => .reviewing
  | .reviewScenario => .awaitingHumanApproval

/-- The signal of a stage that goes well. -/
def goodSignal : TaskType → TransitionSignal
  | .reviewScenario => .criticPass
  | .collect | .selectTopic | .generateScenario => .stageCompleted

theorem handleTask_good {tt : TaskType} {ctx : HandlerContext} {s s' : Store}
    {res : TaskHandlerResult} (h : handleTask tt ctx (.ok {}) s = .ok (res, s')) :
    res.transitionSignal = some (goodSignal tt) := by
  cases tt with
  | collect =>
      obtain ⟨_, -, h⟩ := except_bind_ok h
      obtain ⟨s₁, -, h⟩ := except_bind_ok h
      cases h
      rfl
  | selectTopic =>
      obtain ⟨_, -, h⟩ := except_bind_ok h
      obtain ⟨out, hout, h⟩ := except_bind_ok h
      obtain rfl := Except.ok.inj hout
      obtain ⟨s₁, -, h⟩ := except_bind_ok h
      cases h
      rfl
  | generateScenario =>
      obtain ⟨_, -, h⟩ := except_bind_ok h
      obtain ⟨_, -, h⟩ := except_bind_ok h
      obtain ⟨_, -, h⟩ := except_bind_ok h
      obtain ⟨m, -, h⟩ := except_bind_ok h
      obtain ⟨s₁, -, h⟩ := except_bind_ok h
      cases h
      rfl
  | reviewScenario =>
      obtain ⟨_, -, h⟩ := except_bind_ok h
      obtain ⟨out, hout, h⟩ := except_bind_ok h
      obtain rfl := Except.ok.inj hout
      obtain ⟨s₁, -, h⟩ := except_bind_ok h
      cases h
      rfl

/-- The two decisions on the way of a stage that goes well: its own and the bridge's. -/
theorem goodSignal_goal {cfg : AppConfig} {w : WorkflowRecord} {n a : Int} {tt : TaskType}
    {st : WorkflowState} {next : Option Op} {d : TransitionDecision} {rc : Nat}
    (hm : StageMove cfg w n a tt st next)
    (hd : TransitionTable.lookup (expectedStateForTask tt) (goodSignal tt) rc
      cfg.maxScenarioRevisions = .ok d)
    (hto : st = d.toState ∨ ∃ rc' d₁, TransitionTable.lookup d.toState .stageCompleted rc'
      cfg.maxScenarioRevisions = .ok d₁ ∧ st = d₁.toState) : st = stageGoal tt := by
  cases hm with
  | collected => rfl
  | topicSelected => rfl
  | generated => rfl
  | reviewPassed => rfl
  | noSuitableTopic =>
      obtain rfl := Except.ok.inj hd
      rcases hto with hto | ⟨rc', d₁, hd₁, hto⟩
      · exact absurd hto (by decide)
      · obtain rfl := Except.ok.inj hd₁
        exact absurd hto (by decide)
  | revisionCap hcap =>
      obtain rfl := Except.ok.inj hd
      rcases hto with hto | ⟨rc', d₁, hd₁, hto⟩
      · exact absurd hto (by decide)
      · obtain rfl := Except.ok.inj hd₁
        exact absurd hto (by decide)
  | revised hcap =>
      obtain rfl := Except.ok.inj hd
      rcases hto with hto | ⟨rc', d₁, hd₁, hto⟩
      · exact absurd hto (by decide)
      · obtain rfl := Except.ok.inj hd₁
        exact absurd hto (by decide)

/-- **A stage that goes well commits and reaches its goal.** -/
theorem stageTransaction_good (repo : WorkflowRepoKind) (cfg : AppConfig) {env : StageEnv}
    {m : TaskMessage} {t : TaskRecord} {s : Store} {w : WorkflowRecord} (hs : StoreSound s)
    (hl : Lineage s) (ht : TaskKnown s m t) (hf : s.freshStage env = true)
    (hrefused : env.refused = none)
    (hw : s.workflows.get? m.workflowId = some w) (hst : w.state = expectedStateForTask t.taskType)
    (hb : Backed s m.workflowId (expectedStateForTask t.taskType))
    (hopen : s.completed t.idempotencyKey = false)
    (hreview : t.taskType = .reviewScenario →
      ∀ n, s.completed (formatIdempotencyKey m.workflowId .reviewScenario n) = false) :
    ∃ s' n row next denv task, stageTransaction repo cfg env
        { message := m, task := t, idempotencyKey := t.idempotencyKey } (.ok {}) s = .ok s' ∧
      Staged cfg env { message := m, task := t, idempotencyKey := t.idempotencyKey } n s s' w row
        next denv task ∧ row.state = stageGoal t.taskType := by
  obtain ⟨n, hn, hwid, hid⟩ := ht.sound hs
  have hversion := hn.resolveLogicalVersion m
  -- the version is free: a stored one would come from a completion
  have hfree : s.hasArtifact m.workflowId (stageArtifact t.taskType)
      (stageArtifactVersion t.taskType n) = false := by
    rw [← Bool.not_eq_true]
    intro hstored
    obtain ⟨k, hk, hfixed, hdone⟩ := hs.recorded _ _ _ hstored
    rw [hwid] at hdone hreview
    have hsame : t.taskType ≠ .reviewScenario → k = n := by
      intro hne
      cases htt : t.taskType with
      | collect => rw [hfixed (Or.inl htt), hn.fixed (Or.inl htt)]
      | selectTopic => rw [hfixed (Or.inr htt), hn.fixed (Or.inr htt)]
      | generateScenario => rw [htt] at hk; exact hk
      | reviewScenario => exact absurd htt hne
    by_cases htt : t.taskType = .reviewScenario
    · rw [htt, hreview htt k] at hdone
      exact absurd hdone (by simp)
    · rw [hsame htt, ← hn.key, hopen] at hdone
      exact absurd hdone (by simp)
  have hctx : createArtifactCall t.taskType (handlerContext env
      { message := m, task := t, idempotencyKey := t.idempotencyKey }) (.ok {}) s =
      .ok (m.workflowId, stageArtifact t.taskType, stageArtifactVersion t.taskType n) :=
    createArtifactCall_of_backed hl hversion hb (.ok {})
  obtain ⟨res, s₁, hhandle⟩ := handleTask_of_free hctx hfree hrefused
  have hsignal := handleTask_good hhandle
  have htask : s.tasks.get? m.taskId ≠ none := by
    obtain ⟨t₀, hg, -⟩ := ht
    rw [hg]
    simp
  obtain ⟨s', htx⟩ : ∃ s', stageTransaction repo cfg env
      { message := m, task := t, idempotencyKey := t.idempotencyKey } (.ok {}) s = .ok s' := by
    refine stageTransaction_of_handled hversion hhandle hopen hw hst htask ?_
    intro _ hrev
    rw [hsignal] at hrev
    cases htt : t.taskType <;> rw [htt] at hrev <;> exact absurd hrev (by decide)
  obtain ⟨n', w', row, next, denv, task, hstaged⟩ := staged_of_ok hs ht hf htx
  obtain rfl : w' = w := Option.some.inj (hstaged.read.symm.trans hw)
  refine ⟨s', n', row, next, denv, task, htx, hstaged, ?_⟩
  have h := htx
  obtain ⟨⟨res', s₁'⟩, hhandle', h⟩ := except_bind_ok h
  obtain ⟨rfl, rfl⟩ : res' = res ∧ s₁' = s₁ := by
    have heq := Except.ok.inj (hhandle'.symm.trans hhandle)
    exact Prod.mk.inj heq
  obtain ⟨⟨signal, -, hresult⟩, -, _, _, hs₁⟩ := handleTask_ok hversion hhandle
  have hopen₁ : s₁'.completed t.idempotencyKey = false := by
    rw [hs₁]
    exact hopen
  dsimp only at h
  rw [commitSuccessPath_open (by rw [hresult]; rfl) hopen₁] at h
  obtain ⟨-, w₁, d, row', -, hst₁, hd, hrow, hto⟩ := completeStage_state h
  have hget : s'.workflows.get? m.workflowId = some row := by
    rw [hstaged.workflows, Table.get?_upsert]
    exact if_pos hstaged.rowId
  obtain rfl : row' = row := Option.some.inj (hrow.symm.trans hget)
  rw [hst₁, hsignal] at hd
  exact goodSignal_goal hstaged.move hd hto

/-- **A waiting stage can succeed.** -/
theorem stage_possible (repo : WorkflowRepoKind) (cfg : AppConfig) (sc : ReconciliationScanner)
    {σ : Sys} (h : Piped σ) {id : String} {w : WorkflowRecord} {tt : TaskType}
    (hw : σ.store.workflows.get? id = some w) (hst : w.state = expectedStateForTask tt)
    (hreview : ∀ n, σ.store.completed (formatIdempotencyKey id .reviewScenario n) = false) :
    ∃ (bs : List Action) (w' : WorkflowRecord), (∀ a ∈ bs, a.origin = .pipeline) ∧
      (run (Sys.step repo cfg sc) σ bs).store.workflows.get? id = some w' ∧
      w'.state = stageGoal tt ∧ (tt ≠ .reviewScenario →
        ∀ n, (run (Sys.step repo cfg sc) σ bs).store.completed
          (formatIdempotencyKey id .reviewScenario n) = false) := by
  obtain ⟨t, ht, rfl, rfl, hopen, hwait⟩ := h.delivered.open_waiting hw hst
  obtain ⟨bs, ds, d, s, backoff, hbs, hlast, hphase, hwid, hid, hcore⟩ :=
    executing_possible repo cfg sc h ht hopen hw hst hwait
  have hpiped := (h.run hbs : Piped (run (Sys.step repo cfg sc) σ bs))
  have hmem : d ∈ (run (Sys.step repo cfg sc) σ bs).deliveries := by
    rw [hlast.deliveries]
    simp
  have hsound := hpiped.lineaged.sound
  have hbacked := hpiped.lineaged.admitted d hmem t (by rw [hphase]; rfl)
  have hknown := (hsound.deliveries d hmem).task t (by rw [hphase]; rfl)
  have hstore := hsound.store
  have hlineage := hpiped.lineaged.lineage
  rw [hlast.store] at hbacked hknown hstore hlineage
  have hrow : s.workflows.get? d.message.workflowId = some w := by
    rw [hcore, hwid]
    exact hw
  have hopen' : s.completed t.idempotencyKey = false := by
    rw [hcore]
    exact hopen
  have hreview' : ∀ n, s.completed
      (formatIdempotencyKey d.message.workflowId .reviewScenario n) = false := by
    intro n
    rw [hcore, hwid]
    exact hreview n
  obtain ⟨env, hfresh, hrefused⟩ := exists_freshStage s
  obtain ⟨s', n, row, next, denv, task, htx, hstaged, hgoal⟩ :=
    stageTransaction_good repo cfg hstore hlineage hknown hfresh hrefused hrow hst
      hbacked hopen' (fun _ => hreview')
  have hdone : LastCall (Sys.step repo cfg sc (.delivery ds.length (.execute env (.ok {})))
      (run (Sys.step repo cfg sc) σ bs)) ds { d with phase := .committed t t.idempotencyKey }
      s' backoff :=
    hlast.step false (by simp [Delivery.step, hphase, hfresh, htx, Delivery.goto])
  refine ⟨bs ++ [.delivery ds.length (.execute env (.ok {}))], row, ?_, ?_, hgoal, ?_⟩
  · intro a ha
    rcases List.mem_append.mp ha with hold | hnew
    · exact hbs a hold
    · obtain rfl := List.mem_singleton.mp hnew
      rfl
  · rw [run_append, run_cons, run_nil, hdone.store, hstaged.workflows, Table.get?_upsert]
    exact if_pos (hstaged.rowId.trans hwid)
  · intro hne k
    rw [run_append, run_cons, run_nil, hdone.store, ← Bool.not_eq_true, hstaged.completed_iff]
    rintro (hold | hnew)
    · have hno := hreview' k
      rw [hwid, hold] at hno
      exact absurd hno (by simp)
    · rw [hstaged.keyForm] at hnew
      have htype := (formatIdempotencyKey_inj hnew).2.1
      exact hne (hstaged.same.taskType.symm.trans htype.symm)

/-! ### To the gate

The stages that are left, one after the other.
-/

/-- Some schedule of the pipeline brings the workflow to the human gate. -/
def GateOpen (repo : WorkflowRepoKind) (cfg : AppConfig) (sc : ReconciliationScanner) (σ : Sys)
    (id : String) : Prop :=
  ∃ bs w, (∀ a ∈ bs, a.origin = .pipeline) ∧
    (run (Sys.step repo cfg sc) σ bs).store.workflows.get? id = some w ∧
    w.state = .awaitingHumanApproval

theorem GateOpen.of_run {repo : WorkflowRepoKind} {cfg : AppConfig} {sc : ReconciliationScanner}
    {σ : Sys} {id : String} {bs : List Action} (hbs : ∀ a ∈ bs, a.origin = .pipeline)
    (h : GateOpen repo cfg sc (run (Sys.step repo cfg sc) σ bs) id) : GateOpen repo cfg sc σ id := by
  obtain ⟨cs, w, hcs, hw, hst⟩ := h
  refine ⟨bs ++ cs, w, ?_, by rw [run_append]; exact hw, hst⟩
  intro a ha
  exact (List.mem_append.mp ha).elim (hbs a) (hcs a)

/-- The stages after this one. -/
def stagesLeft : TaskType → Nat
  | .collect => 3
  | .selectTopic => 2
  | .generateScenario => 1
  | .reviewScenario => 0

theorem stageGoal_next {tt : TaskType} {k : Nat} (h : stagesLeft tt = k + 1) :
    tt ≠ .reviewScenario ∧
      ∃ tt', stageGoal tt = expectedStateForTask tt' ∧ stagesLeft tt' = k := by
  cases tt with
  | collect => exact ⟨by decide, .selectTopic, rfl, Nat.succ.inj h⟩
  | selectTopic => exact ⟨by decide, .generateScenario, rfl, Nat.succ.inj h⟩
  | generateScenario => exact ⟨by decide, .reviewScenario, rfl, Nat.succ.inj h⟩
  | reviewScenario => exact absurd h (by simp [stagesLeft])

/-- **Before its review a workflow can come to the gate**, stage by stage. -/
theorem gateOpen_of_stage (repo : WorkflowRepoKind) (cfg : AppConfig) (sc : ReconciliationScanner)
    {id : String} (k : Nat) {σ : Sys} (h : Piped σ) {w : WorkflowRecord} {tt : TaskType}
    (hk : stagesLeft tt = k) (hw : σ.store.workflows.get? id = some w)
    (hst : w.state = expectedStateForTask tt)
    (hreview : ∀ n, σ.store.completed (formatIdempotencyKey id .reviewScenario n) = false) :
    GateOpen repo cfg sc σ id := by
  obtain ⟨bs, w', hbs, hw', hgoal, hnext⟩ := stage_possible repo cfg sc h hw hst hreview
  induction k generalizing σ w w' tt bs with
  | zero =>
      obtain rfl : tt = .reviewScenario := by
        revert hk
        cases tt <;> simp [stagesLeft]
      exact ⟨bs, w', hbs, hw', hgoal⟩
  | succ k ih =>
      obtain ⟨hne, tt', heq, hk'⟩ := stageGoal_next hk
      have hpiped := (h.run hbs : Piped (run (Sys.step repo cfg sc) σ bs))
      have hst' := hgoal.trans heq
      obtain ⟨cs, w₂, hcs, hw₂, hgoal₂, hnext₂⟩ :=
        stage_possible repo cfg sc hpiped hw' hst' (hnext hne)
      exact GateOpen.of_run hbs (ih hpiped hk' hw' hst' (hnext hne) cs w₂ hcs hw₂ hgoal₂ hnext₂)

/-- **After a review there is a second draft** in every state that waits for a stage. -/
theorem Progress.FirstDraft.second_draft {p : Progress} (h : p.FirstDraft) {tt : TaskType}
    (hst : p.state = expectedStateForTask tt) (hr : p.reviewed) : ¬ p.firstOnly := by
  obtain ⟨n, hn⟩ := hr
  obtain rfl := h.first n hn
  have hknown := h.live.known _ hn
  have hrests := h.live.rests
  rw [hst] at hrests
  intro honly
  cases tt with
  | collect =>
      rw [hrests.2.2] at hknown
      exact absurd hknown (by simp)
  | selectTopic =>
      rw [hrests.2.2] at hknown
      exact absurd hknown (by simp)
  | generateScenario =>
      obtain ⟨m, hone, -, hlt, -, hrev⟩ := hrests
      have hm := honly m hone.dispatched
      have hle := hrev 1 hknown
      omega
  | reviewScenario =>
      obtain ⟨hpos, hone, -⟩ := hrests
      rcases h.active with h0 | hmem
      · omega
      · rw [honly _ hmem] at hone
        exact hone.open_ hn

/-- A run of the pipeline as steps of the store. -/
theorem run_steps (repo : WorkflowRepoKind) (cfg : AppConfig) (sc : ReconciliationScanner)
    {σ : Sys} (h : SysSound σ) {bs : List Action} (hbs : ∀ a ∈ bs, a.origin = .pipeline) :
    Relation.ReflTransGen (StoreStep cfg .pipeline) σ.store
      (run (Sys.step repo cfg sc) σ bs).store := by
  induction bs generalizing σ with
  | nil => exact .refl
  | cons a bs ih =>
      have hsteps := step_store repo cfg sc h a
      rw [hbs a (by simp)] at hsteps
      exact hsteps.trans (ih (h.step a) fun b hb => hbs b (by simp [hb]))

theorem steps_terminal {cfg : AppConfig} {origin : Origin} {s s' : Store} {id : String}
    {w : WorkflowRecord} (h : Relation.ReflTransGen (StoreStep cfg origin) s s')
    (hw : s.workflows.get? id = some w) (ht : w.state.isTerminal = true) :
    s'.workflows.get? id = some w := by
  induction h with
  | refl => exact hw
  | tail _ hstep ih => exact hstep.terminal ih ht

/-- **A second draft keeps a workflow from the gate.** -/
theorem not_gateOpen_of_second {repo : WorkflowRepoKind} {cfg : AppConfig}
    {sc : ReconciliationScanner} {σ : Sys} (h : Piped σ) {id : String} {p : Progress}
    (hp : Represents σ.store id p) (hsecond : ¬ p.firstOnly) : ¬ GateOpen repo cfg sc σ id := by
  rintro ⟨bs, w', hbs, hw', hgate⟩
  have hpiped := (h.run hbs : Piped (run (Sys.step repo cfg sc) σ bs))
  have hsteps := run_steps repo cfg sc h.lineaged.sound hbs
  generalize run (Sys.step repo cfg sc) σ bs = σ' at hw' hpiped hsteps
  obtain ⟨p', hp', hd'⟩ := hpiped.drafts id (by rw [hw']; simp)
  have honly : p'.firstOnly := by
    refine hd'.lost.resolve_right ?_
    rw [← hp'.state_eq hw', hgate]
    decide
  -- its task is still there
  refine hsecond fun m hm => ?_
  obtain ⟨t, ht, hid, htype, hkey⟩ := hp.task_of_mem hm
  obtain ⟨t', ht', hsame⟩ := (steps_extends hsteps).tasks _ t (Table.get?_of_mem ht)
  have htype' : t'.taskType = .generateScenario := hsame.taskType.trans htype
  have hmem := hp'.mem_dispatched (Table.mem_of_get? ht') (hsame.workflowId.trans hid) (n := m)
    (by rw [hsame.idempotencyKey, htype']; exact hkey)
  rw [htype'] at hmem
  exact honly m hmem

/-- **When a workflow can still come to the human gate.** In every state that the pipeline
reaches, some further schedule brings the workflow to its approval exactly when it is there or
waits in a stage and no review of it has completed. -/
theorem run_gate_reachable_iff (repo : WorkflowRepoKind) (cfg : AppConfig)
    (sc : ReconciliationScanner) (as : List Action) (hpipe : ∀ a ∈ as, a.origin = .pipeline)
    (id : String) (w : WorkflowRecord)
    (hw : (run (Sys.step repo cfg sc) {} as).store.workflows.get? id = some w) :
    GateOpen repo cfg sc (run (Sys.step repo cfg sc) {} as) id ↔
      w.state = .awaitingHumanApproval ∨
        (∃ tt, w.state = expectedStateForTask tt) ∧
          ∀ n, (run (Sys.step repo cfg sc) {} as).store.completed
            (formatIdempotencyKey id .reviewScenario n) = false := by
  have hpiped : Piped (run (Sys.step repo cfg sc) {} as) := piped_empty.run hpipe
  generalize run (Sys.step repo cfg sc) {} as = σ at hw hpiped
  obtain ⟨p, hp, hd⟩ := hpiped.drafts id (by rw [hw]; simp)
  have hstate := hp.state_eq hw
  constructor
  · intro hopen
    have hrest := hd.live.resting
    rw [← hstate] at hrest
    by_cases hend : w.state.isTerminal = true
    · obtain ⟨bs, w', hbs, hw', hgate⟩ := hopen
      have hkept := steps_terminal (run_steps repo cfg sc hpiped.lineaged.sound hbs) hw hend
      obtain rfl : w' = w := Option.some.inj (hw'.symm.trans hkept)
      rw [hgate] at hend
      exact absurd hend (by decide)
    · by_cases hgate : w.state = .awaitingHumanApproval
      · exact Or.inl hgate
      · obtain ⟨tt, htt⟩ : ∃ tt, w.state = expectedStateForTask tt := by
          revert hrest hend hgate
          cases w.state <;> simp [Progress.restingState, WorkflowState.isTerminal] <;>
            first
            | exact ⟨.collect, rfl⟩
            | exact ⟨.selectTopic, rfl⟩
            | exact ⟨.generateScenario, rfl⟩
            | exact ⟨.reviewScenario, rfl⟩
        refine Or.inr ⟨⟨tt, htt⟩, fun n => ?_⟩
        rw [← Bool.not_eq_true]
        intro hdone
        have hr : p.reviewed := ⟨n, (hp.done_iff _ n).mpr hdone⟩
        exact not_gateOpen_of_second hpiped hp
          (hd.second_draft (hstate.symm.trans htt) hr) hopen
  · rintro (hgate | ⟨⟨tt, hst⟩, hreview⟩)
    · exact ⟨[], w, by simp, hw, hgate⟩
    · exact gateOpen_of_stage repo cfg sc (stagesLeft tt) hpiped rfl hw hst hreview

/-- After its topic is selected a workflow can come to the gate, after a revision it cannot. -/
theorem draftRun_gate_reachable :
    GateOpen .fakes .prod {} (run (Sys.step .fakes .prod {}) {} topicRun) "wf" ∧
      ¬ GateOpen .fakes .prod {} (run (Sys.step .fakes .prod {}) {} (draftRun .revise)) "wf" := by
  have hstate : ((run (Sys.step .fakes .prod {}) {} topicRun).store.workflows.get? "wf").any
      (fun w => w.state = expectedStateForTask .generateScenario) = true := by decide +kernel
  have hfree : (run (Sys.step .fakes .prod {}) {} topicRun).store.hasArtifact "wf"
      (stageArtifact .reviewScenario) 1 = false := by decide +kernel
  have hback : ((run (Sys.step .fakes .prod {}) {} (draftRun .revise)).store.workflows.get?
      "wf").any (fun w => w.state ≠ .awaitingHumanApproval) = true := by decide +kernel
  have hreviewed : (run (Sys.step .fakes .prod {}) {} (draftRun .revise)).store.completed
      (formatIdempotencyKey "wf" .reviewScenario 1) = true := by decide +kernel
  obtain ⟨w, hw, hst⟩ := (Option.any_eq_true _ _).mp hstate
  obtain ⟨w', hw', hne⟩ := (Option.any_eq_true _ _).mp hback
  have htopic : ∀ a ∈ topicRun, a.origin = .pipeline := by
    simp [topicRun, processRow, publishRow, executeEntry, finishDelivery, Action.origin]
  have hsound : SysSound (run (Sys.step .fakes .prod {}) {} topicRun) :=
    (piped_empty.run htopic).lineaged.sound
  constructor
  · refine (run_gate_reachable_iff .fakes .prod {} topicRun htopic "wf" w hw).mpr
      (Or.inr ⟨⟨.generateScenario, by simpa using hst⟩, fun n => ?_⟩)
    -- a completed review would have stored its artifact
    rw [← Bool.not_eq_true]
    intro hdone
    have hstored := hsound.store.stored "wf" .reviewScenario n hdone
    exact absurd (hstored.symm.trans hfree) (by decide)
  · intro hopen
    rcases (run_gate_reachable_iff .fakes .prod {} (draftRun .revise)
      (draftRun_pipeline .revise) "wf" w' hw').mp hopen with hgate | ⟨-, hno⟩
    · exact absurd hgate (by simpa using hne)
    · exact absurd (hreviewed.symm.trans (hno 1)) (by decide)

end CartoonDemo
