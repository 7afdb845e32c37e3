import CartoonDemo.System.Schedule

/-!
# CartoonDemo.System.CompletedOnce

When a **completed operation stays completed**: once the completion of a delivery's key is
recorded, which of its later steps can still move the workflow.

The stage transaction cannot, since a second execution finds the artifact of the first
(`stageTransaction_open`), and neither can the losing branch, which lies behind the same
handler. The failure handler can: it compares the workflow's state with the stage of the task
and nothing else, and after a revision or a regeneration the workflow is in that state again.
-/

namespace CartoonDemo

open WorkflowEngine TransitionExecutor WorkerLoop WorkflowStateGuard

/-- The key of the operation that a delivery stands for, as the worker computes it. -/
def Delivery.key? (s : Store) (d : Delivery) : Option String :=
  (s.tasks.get? d.message.taskId).bind fun t => (deliveryKey s t d.message).toOption

/-- State, version and transition history of a workflow. -/
def Store.progress (s : Store) (workflowId : String) :
    Option (WorkflowState × Nat) × List WorkflowTransitionRecord :=
  ((s.workflows.get? workflowId).map fun w => (w.state, w.stateVersion), s.history workflowId)

/-- The step leaves the workflow of a delivery alone whose operation is completed. -/
def InertWhenCompleted (repo : WorkflowRepoKind) (cfg : AppConfig) (sc : ReconciliationScanner)
    (σ : Sys) (a : Action) : Prop :=
  ∀ i b d key, a = .delivery i b → σ.deliveries[i]? = some d → d.key? σ.store = some key →
    σ.store.completed key = true →
    (Sys.step repo cfg sc a σ).store.progress d.message.workflowId =
      σ.store.progress d.message.workflowId

/-- The failure handler of a delivery whose operation is completed decides for a permanent
failure while the workflow is in the state of the stage. -/
def FailsCompleted (cfg : AppConfig) (σ : Sys) (a : Action) : Prop :=
  ∃ i env readyAt d t e tt exhausted errorClass w key,
    a = .delivery i (.handleFailure env readyAt) ∧ σ.deliveries[i]? = some d ∧
    d.phase = .raised t e ∧ d.key? σ.store = some key ∧ σ.store.completed key = true ∧
    failureDecision cfg t d.message e = .permanent tt exhausted errorClass ∧
    σ.store.workflows.get? d.message.workflowId = some w ∧ w.state = expectedStateForTask tt

theorem Quiet.progress {s s' : Store} (h : Quiet s s') (workflowId : String) :
    s'.progress workflowId = s.progress workflowId := by
  unfold Store.progress Store.history
  rw [h.workflows, h.transitions]

/-- The key of a delivery is the key on its task row. -/
theorem Delivery.key?_eq {s : Store} {d : Delivery} (hs : StoreSound s) {t : TaskRecord}
    (ht : TaskKnown s d.message t) : d.key? s = some t.idempotencyKey := by
  obtain ⟨t₀, hg, hw, hsame⟩ := ht
  obtain ⟨n, hn⟩ := hs.task t₀ (Table.mem_of_get? hg)
  unfold Delivery.key?
  rw [hg, Option.bind_some, hn.deliveryKey hw, hsame.idempotencyKey]
  rfl

/-- A committed permanent failure shows in the workflow's version. -/
theorem permanentFailure_progress {repo : WorkflowRepoKind} {cfg : AppConfig} {env : Env}
    {m : TaskMessage} {tt : TaskType} {task : TaskRecord} {exhausted : Bool}
    {errorClass : String} {s s' : Store}
    (h : permanentFailure repo cfg env m tt task exhausted errorClass s = .ok s') :
    s'.progress m.workflowId ≠ s.progress m.workflowId := by
  obtain ⟨w, row, s₁, hm, -, -, hq⟩ := permanentFailure_ok h
  intro heq
  have hget : s'.workflows.get? m.workflowId = some row := by
    rw [hq.workflows, hm.workflows, Table.get?_upsert, if_pos hm.rowId]
  have hrow := congrArg Prod.fst heq
  simp only [Store.progress, hget, hm.read, Option.map_some, Option.some.injEq,
    Prod.mk.injEq] at hrow
  exact absurd hrow.2 (Nat.ne_of_gt hm.version)

/-- **One step**: it is inert exactly when it is not a failure of a completed operation. -/
theorem inertWhenCompleted_iff (repo : WorkflowRepoKind) (cfg : AppConfig)
    (sc : ReconciliationScanner) {σ : Sys} (h : SysSound σ) (a : Action) :
    InertWhenCompleted repo cfg sc σ a ↔ ¬ FailsCompleted cfg σ a := by
  constructor
  · intro hinert hfails
    obtain ⟨i, env, readyAt, d, t, e, tt, exhausted, errorClass, w, key, rfl, hd, hp, hk, hc, hdec,
      hg, hst⟩ := hfails
    have hsame := hinert i _ d key rfl hd hk hc
    have ht : TaskKnown σ.store d.message t :=
      (h.deliveries d (List.mem_of_getElem? hd)).task t (by rw [hp]; rfl)
    obtain ⟨n, hn, hw, hid⟩ := ht.sound h.store
    obtain ⟨t₀, ht₀, -, -⟩ := ht
    rw [hid] at ht₀
    obtain ⟨s', hs'⟩ := permanentFailure_of_state repo cfg env exhausted errorClass hg hst ht₀
    have hstore : (Sys.step repo cfg sc (.delivery i (.handleFailure env readyAt)) σ).store = s' := by
      simp only [Sys.step, hd, Sys.applyEffect, Delivery.step, hp, Delivery.handleException, hdec,
        hs']
      rfl
    rw [hstore] at hsame
    exact permanentFailure_progress hs' hsame
  · intro hno i b d key ha hd hk hc
    subst ha
    have hds := h.deliveries d (List.mem_of_getElem? hd)
    have hstore : (Sys.step repo cfg sc (.delivery i b) σ).store =
        (d.step repo cfg σ.backoff σ.store b).store := by
      simp only [Sys.step, hd]
      rfl
    rw [hstore]
    have hstep := deliveryStep repo cfg σ.backoff σ.store d b
    generalize d.step repo cfg σ.backoff σ.store b = e at hstep
    cases hstep with
    | stay => rfl
    | leave s' hq => exact hq.progress _
    | phase s' hq lease p backoff hps => exact hq.progress _
    | ack applied next hack hafter => rfl
    | commit env reply t key' s' ha hp hf htx =>
        -- the operation is open: otherwise the handler would have raised
        obtain rfl : key' = t.idempotencyKey := hds.key t key' (by rw [hp]; rfl)
        have ht : TaskKnown σ.store d.message t := hds.task t (by rw [hp]; rfl)
        have hopen := stageTransaction_open h.store ht htx
        obtain rfl : t.idempotencyKey = key :=
          Option.some.inj ((Delivery.key?_eq h.store ht).symm.trans hk)
        rw [hopen] at hc
        exact absurd hc (by simp)
    | fail env readyAt t e tt exhausted errorClass s' ha hp hdec htx =>
        obtain ⟨w, row, s₁, hm, hst, -, -⟩ := permanentFailure_ok htx
        exact absurd ⟨i, env, readyAt, d, t, e, tt, exhausted, errorClass, w, key, by rw [ha], hd,
          hp, hk, hc, hdec, hm.read, hst⟩ hno

/-- **A completed operation never moves the workflow again, in exactly the runs** in which no
failure handler meets a completed operation in the state of its stage. -/
theorem run_inertWhenCompleted_iff (repo : WorkflowRepoKind) (cfg : AppConfig)
    (sc : ReconciliationScanner) (as : List Action) :
    Along (Sys.step repo cfg sc) (InertWhenCompleted repo cfg sc) {} as ↔
      Along (Sys.step repo cfg sc) (fun σ a => ¬ FailsCompleted cfg σ a) {} as := by
  have hstep : ∀ (σ : Sys) a, SysSound σ → SysSound (Sys.step repo cfg sc a σ) :=
    fun _ a h => h.step a
  exact along_congr hstep (fun _ a h => inertWhenCompleted_iff repo cfg sc h a) sysSound_empty

/-! ### The failure of a completed generation

A worker that was slow to acknowledge fails the task that another one has completed.
-/

/-- The scenario is generated, but the delivery has not acked yet; the scenario passes its
review, a human asks for another one, and then the ack raises. -/
def lateAckRun : List Action :=
  topicRun ++ publishRow "outbox-4" 0 3 ++
    executeEntry 2 0 "worker" "lease-3" 3 (StageEnv.numbered 3 3) (.ok {}) ++
    processRow 4 6 3 1 4 (.ok {}) ++
    [.approve (Env.numbered 5 10) "wf" .requestRegeneration none, .delivery 0 .release,
      .delivery 0 (.ackCommitted (.raised false (.other "ConnectionError" "queue unavailable")))]

/-- The failure handler of the generation whose ack raised. -/
def lateFailure : Action := .delivery 0 (.handleFailure (Env.numbered 6 11) 6)

/-- A step that visibly moves the workflow of a completed delivery. -/
theorem not_inert_of_moves {repo : WorkflowRepoKind} {cfg : AppConfig}
    {sc : ReconciliationScanner} {σ : Sys} {i : Nat} {b : DeliveryAction}
    (h : (σ.deliveries[i]?).any (fun d => (d.key? σ.store).any (fun key =>
      σ.store.completed key && decide ((Sys.step repo cfg sc (.delivery i b) σ).store.progress
        d.message.workflowId ≠ σ.store.progress d.message.workflowId))) = true) :
    ¬ InertWhenCompleted repo cfg sc σ (.delivery i b) := by
  intro hinert
  cases hd : σ.deliveries[i]? with
  | none => rw [hd] at h; exact absurd h (by simp)
  | some d =>
      rw [hd, Option.any_some] at h
      cases hk : d.key? σ.store with
      | none => rw [hk] at h; exact absurd h (by simp)
      | some key =>
          rw [hk, Option.any_some, Bool.and_eq_true, decide_eq_true_eq] at h
          exact h.2 (hinert i b d key rfl hd hk h.1)

/-- The completed first generation fails the workflow while the second one is under way. -/
theorem lateAckRun_moves_completed :
    ¬ Along (Sys.step .postgres .prod {}) (InertWhenCompleted .postgres .prod {}) {}
      (lateAckRun ++ [lateFailure]) := by
  intro h
  have hinert := along_iff_forall_split.mp h lateAckRun lateFailure [] rfl
  exact not_inert_of_moves (by decide +kernel) hinert

end CartoonDemo
