import CartoonDemo.System.LeaseSpec
import CartoonDemo.System.Schedule

/-!
# CartoonDemo.System.PayloadReads

Which **idempotency key** a delivery is checked under, when the read of its payload may raise.

`resolve_logical_version` reads the version of a generation or a review from the payload of
the task. `_payload_logical_version` swallows whatever `get_task_payload` raises there, and
the resolution goes on with the version of the active scenario, or with `1`. The engine has
put its own version into the key of the task row, so such a delivery is checked under the key
of its task only if the two versions happen to be equal.

`Sys.readStep` is `Sys.step` with one more action: a pre-check whose payload read raises. The
handlers read the payload inside the stage transaction, which an error aborts; that is
`DeliveryAction.raise`.
-/

namespace CartoonDemo

open WorkerLoop

/-! ### The version and the key

A worker that cannot read the payload takes the version of the active scenario, or 1.
-/

/-- `resolve_logical_version`, given what `_payload_logical_version` returned. -/
def resolveLogicalVersionFrom (payloadVersion : Option Int) (s : Store) (task : TaskRecord)
    (message : TaskMessage) : Except PyException Int :=
  match task.taskType with
  | .collect | .selectTopic => .ok 1
  | .generateScenario => .ok (payloadVersion.getD 1)
  | .reviewScenario =>
      match payloadVersion with
      | some n => .ok n
      | none =>
          match getActiveArtifact s message.workflowId .scenario with
          | none => .ok 1
          | some active =>
              match getArtifactContent s active.artifactId with
              | .error e => .error e
              | .ok (.scenario n) => .ok n
              | .ok _ => .ok 1

theorem resolveLogicalVersionFrom_payload (s : Store) (t : TaskRecord) (m : TaskMessage) :
    resolveLogicalVersionFrom (payloadLogicalVersion s t) s t m = resolveLogicalVersion s t m :=
  rfl

/-- How the call of `get_task_payload` ends; `_payload_logical_version` does not look at the
exception. -/
inductive PayloadRead
  | returns | raises
  deriving DecidableEq, Repr

/-- `_payload_logical_version`. -/
def PayloadRead.version (read : PayloadRead) (s : Store) (task : TaskRecord) : Option Int :=
  match read with
  | .returns => payloadLogicalVersion s task
  | .raises => none

/-- The key of a delivery, as `_process_delivery` computes it. -/
def readKey (read : PayloadRead) (s : Store) (task : TaskRecord) (message : TaskMessage) :
    Except PyException String :=
  (resolveLogicalVersionFrom (read.version s task) s task message).map
    (formatIdempotencyKey message.workflowId task.taskType)

theorem readKey_returns (s : Store) (t : TaskRecord) (m : TaskMessage) :
    readKey .returns s t m = deliveryKey s t m := rfl

/-! ### Steps -/

/-- The pre-check of a leased call whose payload read raises. -/
def Delivery.precheckUnread (s : Store) (d : Delivery) : DeliveryEffect :=
  match d.phase with
  | .leased task =>
      match readKey .raises s task d.message with
      | .error e => d.goto s (.raised task e)
      | .ok key =>
          if s.completed key then d.goto s (.duplicate task key)
          else d.goto s (.executing task key)
  | _ => { store := s, next := some d }

inductive ReadAction
  | plain (a : Action)
  | precheckUnread (i : Nat)

/-- The system with payload reads that may raise. -/
def Sys.readStep (repo : WorkflowRepoKind) (cfg : AppConfig) (sc : ReconciliationScanner)
    (a : ReadAction) (σ : Sys) : Sys :=
  match a with
  | .plain a => Sys.step repo cfg sc a σ
  | .precheckUnread i =>
      match σ.deliveries[i]? with
      | none => σ
      | some d => σ.applyEffect i d (d.precheckUnread σ.store)

/-- The delivery that a pre-check is about, and how its payload read ends. -/
def ReadAction.precheck? : ReadAction → Option (Nat × PayloadRead)
  | .plain (.delivery i .precheck) => some (i, .returns)
  | .plain _ => none
  | .precheckUnread i => some (i, .raises)

/-- Publisher and worker agree at a step: a pre-check uses the key of the task row, and a call
acks as a duplicate only when that key is completed. -/
structure KeyAgrees (σ : Sys) (a : ReadAction) : Prop where
  key : ∀ i read d t key, a.precheck? = some (i, read) → σ.deliveries[i]? = some d →
    d.phase = .leased t → readKey read σ.store t d.message = .ok key → key = t.idempotencyKey
  acked : ∀ i outcome d t key, a = .plain (.delivery i (.ackDuplicate outcome)) →
    σ.deliveries[i]? = some d → d.phase = .duplicate t key →
    σ.store.completed t.idempotencyKey = true

/-- The payload carries the version that the resolution falls back to. -/
def UnreadHarmless (s : Store) (t : TaskRecord) (m : TaskMessage) : Prop :=
  match t.taskType with
  | .collect | .selectTopic => True
  | .generateScenario => payloadLogicalVersion s t = some 1
  | .reviewScenario =>
      match getActiveArtifact s m.workflowId .scenario with
      | none => payloadLogicalVersion s t = some 1
      | some active =>
          match getArtifactContent s active.artifactId with
          | .error _ => True
          | .ok (.scenario n) => payloadLogicalVersion s t = some n
          | .ok _ => payloadLogicalVersion s t = some 1

/-- A step at which the payload read returns, or raises without harm. -/
def HarmlessStep (σ : Sys) (a : ReadAction) : Prop :=
  ∀ i d t, a = .precheckUnread i → σ.deliveries[i]? = some d → d.phase = .leased t →
    UnreadHarmless σ.store t d.message

/-! ### One delivery -/

/-- A version gives the key of the task exactly if it is the task's own. -/
theorem TaskSound.format_eq_iff {s : Store} {t : TaskRecord} {n k : Int} {m : TaskMessage}
    (h : TaskSound s t n) (hw : m.workflowId = t.workflowId) :
    formatIdempotencyKey m.workflowId t.taskType k = t.idempotencyKey ↔ n = k := by
  rw [h.key, hw]
  constructor
  · intro heq
    exact (formatIdempotencyKey_inj heq).2.2.symm
  · intro hnk
    rw [hnk]

/-- **A pre-check without its payload uses the task's key exactly if the payload carries the
fallback version.** -/
theorem TaskSound.readKey_raises_iff {s : Store} {t : TaskRecord} {n : Int} {m : TaskMessage}
    (h : TaskSound s t n) (hw : m.workflowId = t.workflowId) :
    (∀ key, readKey .raises s t m = .ok key → key = t.idempotencyKey) ↔ UnreadHarmless s t m := by
  have hformat : ∀ k, formatIdempotencyKey m.workflowId t.taskType k = t.idempotencyKey ↔ n = k :=
    fun k => h.format_eq_iff hw
  have hpayload := h.payloadVersion
  have hfixed := h.fixed
  unfold readKey resolveLogicalVersionFrom UnreadHarmless PayloadRead.version
  rw [hpayload]
  -- one case for each way through the cascade; each ends in one version or raises
  cases htt : t.taskType with
  | collect =>
      rw [htt] at hformat
      simpa [Except.map, hformat] using hfixed (Or.inl htt)
  | selectTopic =>
      rw [htt] at hformat
      simpa [Except.map, hformat] using hfixed (Or.inr htt)
  | generateScenario =>
      rw [htt] at hformat
      simp [Except.map, hformat, payloadForTaskType]
  | reviewScenario =>
      rw [htt] at hformat
      dsimp only
      cases getActiveArtifact s m.workflowId .scenario with
      | none => simp [Except.map, hformat, payloadForTaskType]
      | some active =>
          dsimp only
          cases getArtifactContent s active.artifactId with
          | error e => simp [Except.map]
          | ok content => cases content <;> simp [Except.map, hformat, payloadForTaskType]

/-- The same for a delivery of a sound system. -/
theorem SysSound.readKey_raises_iff {σ : Sys} (hs : SysSound σ) {d : Delivery} {t : TaskRecord}
    (hd : d ∈ σ.deliveries) (hp : d.phase = .leased t) :
    (∀ key, readKey .raises σ.store t d.message = .ok key → key = t.idempotencyKey) ↔
      UnreadHarmless σ.store t d.message := by
  obtain ⟨n, hn, hw, -⟩ := ((hs.deliveries d hd).task t (by rw [hp]; rfl)).sound hs.store
  exact hn.readKey_raises_iff hw

theorem SysSound.readKey_returns {σ : Sys} (hs : SysSound σ) {d : Delivery} {t : TaskRecord}
    (hd : d ∈ σ.deliveries) (hp : d.phase = .leased t) :
    readKey .returns σ.store t d.message = .ok t.idempotencyKey := by
  obtain ⟨n, hn, hw, -⟩ := ((hs.deliveries d hd).task t (by rw [hp]; rfl)).sound hs.store
  exact hn.deliveryKey hw

/-- A harmless pre-check without its payload is a pre-check with it, or raises. -/
theorem precheckUnread_eq (repo : WorkflowRepoKind) (cfg : AppConfig) {σ : Sys}
    (hs : SysSound σ) {i : Nat} {d : Delivery} (hd : σ.deliveries[i]? = some d)
    (hh : HarmlessStep σ (.precheckUnread i)) :
    ∃ a, d.precheckUnread σ.store = d.step repo cfg σ.backoff σ.store a := by
  have hmem := List.mem_of_getElem? hd
  unfold Delivery.precheckUnread
  cases hp : d.phase with
  | leased t =>
      have hkey := (hs.readKey_raises_iff hmem hp).mpr (hh i d t rfl hd hp)
      have hown := hs.readKey_returns hmem hp
      dsimp only
      cases hr : readKey .raises σ.store t d.message with
      | error e =>
          refine ⟨.raise e, ?_⟩
          simp [Delivery.step, hp, Phase.mayRaise]
      | ok key =>
          refine ⟨.precheck, ?_⟩
          rw [hkey key hr]
          rw [readKey_returns] at hown
          simp [Delivery.step, hp, hown]
  | received | taskRead | stale | accepted | duplicate | executing | committed | released | raised
  | failed | closing => exact ⟨.precheck, by simp [Delivery.step, hp]⟩

/-- **A harmless step is a step of the system whose reads succeed.** -/
theorem readStep_eq_step (repo : WorkflowRepoKind) (cfg : AppConfig) (sc : ReconciliationScanner)
    {σ : Sys} (hs : SysSound σ) {a : ReadAction} (hh : HarmlessStep σ a) :
    ∃ b, Sys.readStep repo cfg sc a σ = Sys.step repo cfg sc b σ := by
  cases a with
  | plain a => exact ⟨a, rfl⟩
  | precheckUnread i =>
      cases hd : σ.deliveries[i]? with
      | none => exact ⟨.delivery i .precheck, by simp [Sys.readStep, Sys.step, hd]⟩
      | some d =>
          obtain ⟨a, ha⟩ := precheckUnread_eq repo cfg hs hd hh
          exact ⟨.delivery i a, by simp [Sys.readStep, Sys.step, hd, ha]⟩

/-! ### Duplicates

A delivery that takes the path of a duplicate has read a completion record.
-/

/-- A call that is about to ack as a duplicate has found its key completed. -/
def DuplicatesCompleted (σ : Sys) : Prop :=
  ∀ d ∈ σ.deliveries, ∀ t key, d.phase = .duplicate t key → σ.store.completed key = true

/-- The step of a call into the duplicate phase. -/
theorem DeliveryStep.duplicate {repo : WorkflowRepoKind} {cfg : AppConfig} {s : Store}
    {d d' : Delivery} {a : DeliveryAction} {e : DeliveryEffect} {t : TaskRecord} {key : String}
    (h : DeliveryStep repo cfg s d a e) (hn : e.next = some d') (hp : d'.phase = .duplicate t key) :
    d.phase = .duplicate t key ∨ s.completed key = true := by
  cases h with
  | stay =>
      obtain rfl := Option.some.inj hn
      exact Or.inl hp
  | leave s' hq => exact absurd hn (by simp)
  | phase s' hq lease p backoff hps =>
      obtain rfl := Option.some.inj hn
      obtain rfl : p = .duplicate t key := hp
      generalize d.phase = q at hps
      cases hps with
      | duplicate t key hk hc => exact Or.inr hc
  | ack applied next hack hafter =>
      obtain rfl : next = some d' := hn
      cases hafter with
      | closing => exact absurd hp (by simp)
      | raised t e hr => exact absurd hp (by simp)
  | commit env reply t key s' ha hph hf htx =>
      obtain rfl := Option.some.inj hn
      exact absurd hp (by simp)
  | fail env readyAt t e tt exhausted errorClass s' ha hph hdec htx =>
      obtain rfl := Option.some.inj hn
      exact absurd hp (by simp)

/-- The deliveries after a step: the old ones, the one that moved, or a new one. -/
theorem step_delivery_cases (repo : WorkflowRepoKind) (cfg : AppConfig)
    (sc : ReconciliationScanner) {σ : Sys} {a : Action} {d' : Delivery}
    (h : d' ∈ (Sys.step repo cfg sc a σ).deliveries) :
    d' ∈ σ.deliveries ∨ d'.phase = .received ∨
      ∃ i b d, a = .delivery i b ∧ σ.deliveries[i]? = some d ∧
        (d.step repo cfg σ.backoff σ.store b).next = some d' := by
  by_cases hdel : ∃ i b, a = .delivery i b
  · obtain ⟨i, b, rfl⟩ := hdel
    unfold Sys.step at h
    dsimp only at h
    cases hd : σ.deliveries[i]? with
    | none =>
        rw [hd] at h
        exact Or.inl h
    | some d =>
        rw [hd] at h
        rcases applyEffect_mem hd h with hn | ⟨j, -, hold⟩
        · exact Or.inr (Or.inr ⟨i, b, d, rfl, hd, hn⟩)
        · exact Or.inl (List.mem_of_getElem? hold)
  have hno : ∀ i b, a ≠ .delivery i b := fun i b hab => hdel ⟨i, b, hab⟩
  by_cases hcalm : a.calm = true
  · rcases step_deliveries repo cfg sc σ a hno hcalm with hsame | ⟨n, worker, e, -, -, hnew⟩
    · rw [hsame] at h
      exact Or.inl h
    · rw [hnew] at h
      rcases List.mem_append.mp h with hold | hnew
      · exact Or.inl hold
      · obtain rfl := List.mem_singleton.mp hnew
        exact Or.inr (Or.inl rfl)
  · -- only a crash and an expired lease are left
    cases a with
    | crashWorker worker => exact Or.inl (List.mem_of_mem_filter h)
    | expireLease taskId => exact Or.inl h
    | delivery i b => exact absurd rfl (hno i b)
    | _ => exact absurd rfl hcalm

theorem DuplicatesCompleted.step {repo : WorkflowRepoKind} {cfg : AppConfig}
    {sc : ReconciliationScanner} {σ : Sys} (h : DuplicatesCompleted σ) (hs : SysSound σ)
    (a : Action) : DuplicatesCompleted (Sys.step repo cfg sc a σ) := by
  have hext := steps_extends (step_store repo cfg sc hs a)
  intro d' hd' t key hp
  rcases step_delivery_cases repo cfg sc hd' with hold | hnew | ⟨i, b, d, -, hd, hn⟩
  · exact hext.completed key (h d' hold t key hp)
  · rw [hnew] at hp
    exact absurd hp (by simp)
  · rcases (deliveryStep repo cfg σ.backoff σ.store d b).duplicate hn hp with hdup | hc
    · exact hext.completed key (h d (List.mem_of_getElem? hd) t key hdup)
    · exact hext.completed key hc

/-! ### Runs -/

/-- What harmless steps keep. -/
structure ReadSound (σ : Sys) : Prop where
  sound : SysSound σ
  duplicates : DuplicatesCompleted σ

theorem ReadSound.step {repo : WorkflowRepoKind} {cfg : AppConfig} {sc : ReconciliationScanner}
    {σ : Sys} (h : ReadSound σ) {a : ReadAction} (hh : HarmlessStep σ a) :
    ReadSound (Sys.readStep repo cfg sc a σ) := by
  obtain ⟨b, hb⟩ := readStep_eq_step repo cfg sc h.sound hh
  rw [hb]
  exact ⟨h.sound.step b, h.duplicates.step h.sound b⟩

theorem ReadSound.keyAgrees_iff {σ : Sys} (h : ReadSound σ) (a : ReadAction) :
    KeyAgrees σ a ↔ HarmlessStep σ a := by
  constructor
  · intro hk i d t ha hd hp
    subst ha
    exact (h.sound.readKey_raises_iff (List.mem_of_getElem? hd) hp).mp
      (fun key hr => hk.key i .raises d t key rfl hd hp hr)
  · intro hh
    refine { key := ?_, acked := ?_ }
    · intro i read d t key ha hd hp hr
      have hmem := List.mem_of_getElem? hd
      cases read with
      | returns =>
          rw [h.sound.readKey_returns hmem hp] at hr
          exact (Except.ok.inj hr).symm
      | raises =>
          have hraises : a = .precheckUnread i := by
            revert ha
            cases a with
            | precheckUnread j => simp [ReadAction.precheck?]
            | plain a => unfold ReadAction.precheck?; split <;> simp_all
          exact (h.sound.readKey_raises_iff hmem hp).mpr (hh i d t hraises hd hp) key hr
    · intro i outcome d t key _ hd hp
      have hmem := List.mem_of_getElem? hd
      rw [← (h.sound.deliveries d hmem).key t key (by rw [hp]; rfl)]
      exact h.duplicates d hmem t key hp

/-- **Publisher and worker agree on the key along a run exactly if no payload read of it raises
with harm.** -/
theorem run_keys_agree_iff (repo : WorkflowRepoKind) (cfg : AppConfig)
    (sc : ReconciliationScanner) (as : List ReadAction) :
    Along (Sys.readStep repo cfg sc) KeyAgrees {} as ↔
      Along (Sys.readStep repo cfg sc) HarmlessStep {} as := by
  have hempty : ReadSound {} := ⟨sysSound_empty, fun d hd => absurd hd (by simp)⟩
  constructor
  · exact along_imp (fun σ a h hk => h.step ((h.keyAgrees_iff a).mp hk))
      (fun σ a h hk => (h.keyAgrees_iff a).mp hk) hempty
  · exact along_imp (fun σ a h hh => h.step hh)
      (fun σ a h hh => (h.keyAgrees_iff a).mpr hh) hempty

/-- A scenario is generated and passes its review, a human asks for another one, and a worker
holds the lease of the second generation. -/
def regenerationRun : List Action :=
  topicRun ++ processRow 3 4 2 0 3 (.ok {}) ++ processRow 4 6 3 0 4 (.ok {}) ++
    .approve (Env.numbered 5 10) "wf" .requestRegeneration none :: publishRow "outbox-10" 0 6 ++
    [.deliver 4 "worker", .delivery 0 .readTask, .delivery 0 .readWorkflow,
      .delivery 0 (.takeLease "lease-6" 6)]

/-- Without its payload the second generation is checked under the key of the first one, and
is acked as a duplicate of it while its own key is open. -/
theorem regeneration_acked_unread :
    ¬ Along (Sys.readStep .postgres .prod {}) KeyAgrees {}
        (regenerationRun.map .plain ++
          [.precheckUnread 0, .plain (.delivery 0 (.ackDuplicate .ok))]) := by
  intro h
  have hpre := along_iff_forall_split.mp h (regenerationRun.map .plain ++ [.precheckUnread 0])
    (.plain (.delivery 0 (.ackDuplicate .ok))) [] (by simp)
  generalize hσ : run (Sys.readStep .postgres .prod {}) {}
    (regenerationRun.map .plain ++ [.precheckUnread 0]) = σ at hpre
  have hd : (σ.deliveries[0]?).any (fun d => match d.phase with
      | .duplicate t _ => !σ.store.completed t.idempotencyKey
      | _ => false) = true := by
    rw [← hσ]
    decide +kernel
  obtain ⟨d, hget, hdup⟩ := (Option.any_eq_true _ _).mp hd
  cases hp : d.phase with
  | duplicate t key =>
      have hc := hpre.acked 0 .ok d t key rfl hget hp
      rw [hp] at hdup
      simp [hc] at hdup
  | _ => rw [hp] at hdup; exact absurd hdup (by simp)

end CartoonDemo
