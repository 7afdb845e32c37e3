import CartoonDemo.System.Consistent

/-!
# CartoonDemo.System.LeaseSpec

**Leases.** Two facts about them. In every run, leases and backoffs are about stored tasks
(`LeasesKnown`). And as long as no worker dies and no lease expires, at most one call at a
time holds the lease of a task, and it holds it from its admission to the end of its stage
transaction (`Held`). Both are case analyses over `LoopStep`.
-/

namespace CartoonDemo

open WorkflowEngine TransitionExecutor WorkerLoop WorkflowStateGuard

/-! ### The lease table

What each step does to it.
-/

theorem updateTask_leases {now : Time} {taskId : String} {status : TaskStatus}
    {attempt : Option Nat} {failureReason : Option String} {completedAt : Option Time}
    {s s' : Store} (h : updateTask now taskId status attempt failureReason completedAt s = .ok s') :
    s'.leases = s.leases := by
  obtain ⟨existing, -, rfl⟩ := updateTask_ok h
  rfl

theorem permanentFailure_leases {repo : WorkflowRepoKind} {cfg : AppConfig} {env : Env}
    {m : TaskMessage} {tt : TaskType} {task : TaskRecord} {exhausted : Bool}
    {errorClass : String} {s s' : Store}
    (h : permanentFailure repo cfg env m tt task exhausted errorClass s = .ok s') :
    s'.leases = s.leases := by
  obtain ⟨⟨res, s₁⟩, ha, hu⟩ := except_bind_ok h
  obtain ⟨w, d, -, -, -, rfl, -, -, -⟩ := applyTransition_ok ha
  exact (updateTask_leases hu).trans (transitionStore_leases ..)

theorem releaseLease_rows {leaseId : String} {s : Store} {l : TaskLease}
    (h : l ∈ (releaseLease leaseId s).leases.rows) : l ∈ s.leases.rows := by
  unfold releaseLease at h
  split at h
  · exact h
  · exact (Table.mem_erase.mp h).1

theorem Delivery.releaseStore_rows {d : Delivery} {s : Store} {l : TaskLease}
    (h : l ∈ (d.releaseStore s).leases.rows) : l ∈ s.leases.rows := by
  unfold Delivery.releaseStore at h
  cases hl : d.lease with
  | none => rw [hl] at h; exact h
  | some leaseId => rw [hl] at h; exact releaseLease_rows h

/-- A step of a delivery adds no lease but its own. -/
theorem LoopStep.lease_rows {repo : WorkflowRepoKind} {cfg : AppConfig} {s : Store}
    {stream : List StreamEntry} {d : Delivery} {a : DeliveryAction} {e : DeliveryEffect}
    (hs : StoreSound s) (hd : DeliverySound s stream d) (h : LoopStep repo cfg s d a e)
    {l : TaskLease} (hl : l ∈ e.store.leases.rows) :
    l ∈ s.leases.rows ∨ l.taskId = d.message.taskId := by
  cases h with
  | acquire leaseId now t hp s' h =>
      obtain ⟨table, hins, rfl⟩ := Option.map_eq_some_iff.mp h
      obtain ⟨-, rfl⟩ := Table.insert?_eq_some hins
      rcases Table.mem_upsert.mp hl with rfl | ⟨hold, -⟩
      · exact Or.inr rfl
      · exact Or.inl hold
  | commit env reply t key hp hf s' h =>
      obtain rfl : key = t.idempotencyKey := hd.key t key (by rw [hp]; rfl)
      have ht : TaskKnown s d.message t := hd.task t (by rw [hp]; rfl)
      obtain ⟨n, w, row, next, denv, task, hstaged⟩ := staged_of_ok hs ht hf h
      exact Or.inl (by rw [← hstaged.leases]; exact hl)
  | release t key hp => exact Or.inl (Delivery.releaseStore_rows hl)
  | retry env readyAt t e hp attempt hdec s' h =>
      exact Or.inl (by rw [← updateTask_leases h]; exact hl)
  | fail env readyAt t e hp tt exhausted errorClass hdec s' h =>
      exact Or.inl (by rw [← permanentFailure_leases h]; exact hl)
  | close hp => exact Or.inl (Delivery.releaseStore_rows hl)
  | stay | leave | crash | phase | execute | ack | unhandled | failureRaised => exact Or.inl hl

theorem performRepair_leases {repo : WorkflowRepoKind} {cfg : AppConfig} {env : Env}
    {plan : ReconciliationScanner.RepairPlan} {s s' : Store}
    (h : ReconciliationScanner.performRepair repo cfg env plan s = .ok s') :
    s'.leases = s.leases := by
  cases plan with
  | recreate w tt attempt =>
      rw [← Except.ok.inj h]
      exact dispatch_leases ..
  | fail w =>
      obtain ⟨res, ha⟩ := performRepair_fail_ok h
      obtain ⟨w', d, -, -, -, rfl, -, -, -⟩ := applyTransition_ok ha
      exact transitionStore_leases ..

/-- Only deliveries and expiry change the lease table. -/
theorem step_leases (repo : WorkflowRepoKind) (cfg : AppConfig) (sc : ReconciliationScanner)
    (σ : Sys) (a : Action) (hd : ∀ i b, a ≠ .delivery i b) (hl : ∀ id, a ≠ .expireLease id) :
    (Sys.step repo cfg sc a σ).store.leases = σ.store.leases := by
  have hstep := stepStore repo cfg sc σ a
  generalize (Sys.step repo cfg sc a σ).store = s' at hstep
  cases hstep with
  | same a => rfl
  | initiate env request res s' hf he =>
      obtain ⟨id, -, -, rfl⟩ := initiateWorkflow_ok he
      simp [initiatedStore]
  | approve env workflowId action actor res s' hf he =>
      obtain ⟨w, -, -, rfl⟩ := applyApprovalAction_ok he
      simp
  | transition env request res s' hf he =>
      obtain ⟨w, d, -, -, -, rfl, -, -, -⟩ := applyTransition_ok he
      simp
  | mark i a outboxId s' hm => rw [hm.same]
  | delivery i b d hget => exact absurd rfl (hd i b)
  | expire taskId => exact absurd rfl (hl taskId)
  | repair k env scan plan report s' hscan hp hf hr => exact performRepair_leases hr

/-! ### Leases of stored tasks -/

/-- Leases and backoffs are about stored tasks. -/
structure LeasesKnown (σ : Sys) : Prop where
  leases : ∀ l ∈ σ.store.leases.rows, σ.store.tasks.get? l.taskId ≠ none
  backoff : ∀ b ∈ σ.backoff.rows, σ.store.tasks.get? b.taskId ≠ none

theorem leasesKnown_empty : LeasesKnown {} where
  leases := by intro l hl; exact absurd hl (by simp)
  backoff := by intro b hb; exact absurd hb (by simp)

theorem Extends.task_ne_none {s s' : Store} (h : Extends s s') {id : String}
    (ht : s.tasks.get? id ≠ none) : s'.tasks.get? id ≠ none := by
  obtain ⟨t, ht⟩ := Option.ne_none_iff_exists'.mp ht
  obtain ⟨t', ht', -⟩ := h.tasks id t ht
  rw [ht']
  simp

/-- The backoffs of a worker that dies are forgotten, and no others appear. -/
theorem mem_forgotten {worker : String} (bs : List BackoffEntry) {b : BackoffEntry} :
    ∀ {table : Table BackoffEntry.key}, b ∈ (bs.foldl (fun t b =>
      if b.worker = worker then t.erase b.key else t) table).rows → b ∈ table.rows := by
  induction bs with
  | nil => exact fun h => h
  | cons b' bs ih =>
      intro table h
      rw [List.foldl_cons] at h
      have hmem := ih h
      split at hmem
      · exact (Table.mem_erase.mp hmem).1
      · exact hmem

/-- Publishers leave backoffs and deliveries alone. -/
theorem stepPublish_untouched (σ : Sys) (i : Nat) (f : PublishFrame) (a : PublishAction) :
    (σ.stepPublish i f a).backoff = σ.backoff ∧
      (σ.stepPublish i f a).deliveries = σ.deliveries := by
  cases a <;> unfold Sys.stepPublish <;> dsimp only
  case enqueue =>
    split
    · exact ⟨rfl, rfl⟩
    · split <;> exact ⟨rfl, rfl⟩
  case enqueueRaises applied =>
    split
    · exact ⟨rfl, rfl⟩
    · split
      · exact ⟨rfl, rfl⟩
      · split <;> exact ⟨rfl, rfl⟩
  case mark now => split <;> exact ⟨rfl, rfl⟩
  case markRaises now applied => split <;> exact ⟨rfl, rfl⟩
  case drop => exact ⟨rfl, rfl⟩

/-- And so do scans. -/
theorem stepScan_untouched (repo : WorkflowRepoKind) (cfg : AppConfig)
    (sc : ReconciliationScanner) (σ : Sys) (k : Nat) (scan : Scan) (a : ScanAction) :
    (σ.stepScan repo cfg sc k scan a).backoff = σ.backoff ∧
      (σ.stepScan repo cfg sc k scan a).deliveries = σ.deliveries := by
  cases a <;> unfold Sys.stepScan <;> dsimp only
  case inspect now =>
    split
    · split <;> exact ⟨rfl, rfl⟩
    · exact ⟨rfl, rfl⟩
  case repair env =>
    split
    · split
      · split <;> exact ⟨rfl, rfl⟩
      · exact ⟨rfl, rfl⟩
    · exact ⟨rfl, rfl⟩
  case readRaises e => split <;> exact ⟨rfl, rfl⟩
  case repairRaises e => split <;> exact ⟨rfl, rfl⟩

/-- The backoffs after a step. -/
theorem step_backoff (repo : WorkflowRepoKind) (cfg : AppConfig) (sc : ReconciliationScanner)
    {σ : Sys} (h : SysSound σ) (a : Action) {b : BackoffEntry}
    (hb : b ∈ (Sys.step repo cfg sc a σ).backoff.rows) :
    b ∈ σ.backoff.rows ∨ σ.store.tasks.get? b.taskId ≠ none := by
  cases a with
  | delivery i c =>
      unfold Sys.step at hb
      dsimp only at hb
      split at hb
      · exact Or.inl hb
      · next d hd =>
        have hds := h.deliveries d (List.mem_of_getElem? hd)
        have hstep := loopStep repo cfg σ.backoff σ.store d c
        generalize d.step repo cfg σ.backoff σ.store c = e at hstep hb
        cases hstep with
        | retry env readyAt t e hp attempt hdec s' hr =>
            rcases Table.mem_upsert.mp hb with rfl | ⟨hold, -⟩
            · obtain ⟨n, -, -, hid⟩ := (hds.task t (by rw [hp]; rfl)).sound h.store
              obtain ⟨t₀, ht₀, -⟩ := hds.message
              refine Or.inr ?_
              change σ.store.tasks.get? t.taskId ≠ none
              rw [← hid, ht₀]
              simp
            · exact Or.inl hold
        | stay | leave | crash | phase | acquire | execute | commit | release | ack | fail
        | unhandled | failureRaised | close => exact Or.inl hb
  | crashWorker worker => exact Or.inl (mem_forgotten _ hb)
  | initiate env request =>
      unfold Sys.step at hb
      dsimp only at hb
      split at hb <;> exact Or.inl hb
  | approve env workflowId action actor =>
      unfold Sys.step at hb
      dsimp only at hb
      split at hb <;> exact Or.inl hb
  | transition env request =>
      unfold Sys.step at hb
      dsimp only at hb
      split at hb <;> exact Or.inl hb
  | fetchRow outboxId =>
      unfold Sys.step at hb
      dsimp only at hb
      split at hb
      · exact Or.inl hb
      · split at hb <;> exact Or.inl hb
  | publish i a =>
      unfold Sys.step at hb
      dsimp only at hb
      split at hb
      · exact Or.inl hb
      · exact Or.inl (by rw [← (stepPublish_untouched ..).1]; exact hb)
  | deliver n worker =>
      unfold Sys.step at hb
      dsimp only at hb
      split at hb
      · exact Or.inl hb
      · split at hb <;> exact Or.inl hb
  | expireLease taskId => exact Or.inl hb
  | scanCollect | scanCollectRaises => exact Or.inl hb
  | scan k a =>
      unfold Sys.step at hb
      dsimp only at hb
      split at hb
      · exact Or.inl hb
      · exact Or.inl (by rw [← (stepScan_untouched ..).1]; exact hb)

theorem LeasesKnown.step {repo : WorkflowRepoKind} {cfg : AppConfig}
    {sc : ReconciliationScanner} {σ : Sys} (h : LeasesKnown σ) (hs : SysSound σ) (a : Action) :
    LeasesKnown (Sys.step repo cfg sc a σ) := by
  have hext := steps_extends (step_store repo cfg sc hs a)
  refine ⟨?_, ?_⟩
  · intro l hl
    by_cases hdel : ∃ i b, a = .delivery i b
    · obtain ⟨i, b, rfl⟩ := hdel
      have hold : l ∈ σ.store.leases.rows ∨ ∃ d ∈ σ.deliveries, l.taskId = d.message.taskId := by
        unfold Sys.step at hl
        dsimp only at hl
        split at hl
        · exact Or.inl hl
        · next d hd =>
          have hmem := List.mem_of_getElem? hd
          exact ((loopStep repo cfg σ.backoff σ.store d b).lease_rows hs.store
            (hs.deliveries d hmem) hl).imp id (fun he => ⟨d, hmem, he⟩)
      rcases hold with hold | ⟨d, hd, hid⟩
      · exact hext.task_ne_none (h.leases l hold)
      · obtain ⟨t, ht, -⟩ := (hs.deliveries d hd).message
        refine hext.task_ne_none ?_
        rw [hid, ht]
        simp
    · refine hext.task_ne_none (h.leases l ?_)
      by_cases hexp : ∃ id, a = .expireLease id
      · obtain ⟨id, rfl⟩ := hexp
        exact (Table.mem_erase.mp hl).1
      · rw [← step_leases repo cfg sc σ a (fun i b hab => hdel ⟨i, b, hab⟩)
          (fun id hid => hexp ⟨id, hid⟩)]
        exact hl
  · intro b hb
    rcases step_backoff repo cfg sc hs a hb with hold | hnew
    · exact hext.task_ne_none (h.backoff b hold)
    · exact hext.task_ne_none hnew

/-- **In every run leases and backoffs are about stored tasks.** -/
theorem run_leasesKnown (repo : WorkflowRepoKind) (cfg : AppConfig) (sc : ReconciliationScanner)
    (as : List Action) :
    SysSound (run (Sys.step repo cfg sc) {} as) ∧ LeasesKnown (run (Sys.step repo cfg sc) {} as) :=
  run_induction (motive := fun σ => SysSound σ ∧ LeasesKnown σ) (fun _ => True)
    (fun _ a _ h => ⟨h.1.step a, h.2.step h.1 a⟩) ⟨sysSound_empty, leasesKnown_empty⟩
    (fun _ _ => trivial)

/-! ### Exclusive leases

Two deliveries never hold a lease on the same task, as long as no worker dies and no lease expires.
-/

/-- No worker dies and no lease expires. -/
def Action.calm : Action → Bool
  | .delivery _ .crash | .crashWorker _ | .expireLease _ => false
  | _ => true

/-- The identifier of a new lease is not in use. -/
def Sys.freshLease (σ : Sys) : Action → Bool
  | .delivery _ (.takeLease leaseId _) => σ.store.leases.rows.all (fun l => l.leaseId ≠ leaseId)
  | _ => true

/-- The row of the lease `id` on the task is stored. -/
def LeaseStored (s : Store) (taskId id : String) : Prop :=
  ∃ l, s.leases.get? taskId = some l ∧ l.leaseId = id

/-- **At most one call at a time holds the lease of a task.** -/
structure Held (σ : Sys) : Prop where
  unique : ∀ l ∈ σ.store.leases.rows, ∀ l' ∈ σ.store.leases.rows, l.leaseId = l'.leaseId → l = l'
  holder : ∀ d ∈ σ.deliveries, ∀ id, d.lease = some id → LeaseStored σ.store d.message.taskId id
  exclusive : ∀ (i j : Nat) (d d' : Delivery), σ.deliveries[i]? = some d →
    σ.deliveries[j]? = some d' → d.lease ≠ none → d'.lease ≠ none →
    d.message.taskId = d'.message.taskId → i = j
  holds : ∀ d ∈ σ.deliveries, d.phase.holds = true → d.lease ≠ none

theorem held_empty : Held {} where
  unique := by intro l hl; exact absurd hl (by simp)
  holder := by intro d hd; exact absurd hd (by simp)
  exclusive := by intro i j d d' hd; exact absurd hd (by simp)
  holds := by intro d hd; exact absurd hd (by simp)

/-- The old position of the delivery at `j`, after a step of the one at `i`. -/
def oldPosition (gone : Bool) (i j : Nat) : Nat := if gone && i ≤ j then j + 1 else j

theorem oldPosition_inj {gone : Bool} {i j k : Nat}
    (h : oldPosition gone i j = oldPosition gone i k) : j = k := by
  unfold oldPosition at h
  cases gone with
  | false => simpa using h
  | true =>
      simp only [Bool.true_and, decide_eq_true_eq] at h
      split at h <;> split at h <;> omega

/-- Where the deliveries after a step come from. -/
theorem applyEffect_getElem? {σ : Sys} {i j : Nat} {d d' : Delivery} {e : DeliveryEffect}
    (hd : σ.deliveries[i]? = some d) (h : (σ.applyEffect i d e).deliveries[j]? = some d') :
    (oldPosition e.next.isNone i j = i ∧ e.next = some d') ∨
      (oldPosition e.next.isNone i j ≠ i ∧
        σ.deliveries[oldPosition e.next.isNone i j]? = some d') := by
  have hlt : i < σ.deliveries.length := (List.getElem?_eq_some_iff.mp hd).1
  unfold Sys.applyEffect at h
  dsimp only at h
  unfold oldPosition
  cases hn : e.next with
  | none =>
      rw [hn] at h
      dsimp only at h
      rw [List.getElem?_eraseIdx] at h
      simp only [Option.isNone_none, Bool.true_and, decide_eq_true_eq]
      refine Or.inr ?_
      by_cases hij : i ≤ j
      · rw [if_pos hij]
        rw [if_neg (by omega)] at h
        exact ⟨by omega, h⟩
      · rw [if_neg hij]
        rw [if_pos (by omega)] at h
        exact ⟨by omega, h⟩
  | some d₁ =>
      rw [hn] at h
      dsimp only at h
      rw [List.getElem?_set] at h
      simp only [Option.isNone_some, Bool.false_and, Bool.false_eq_true, if_false]
      by_cases hij : i = j
      · rw [if_pos hij, if_pos hlt] at h
        exact Or.inl ⟨hij.symm, h⟩
      · rw [if_neg hij] at h
        exact Or.inr ⟨fun hji => hij hji.symm, h⟩

theorem applyEffect_mem {σ : Sys} {i : Nat} {d d' : Delivery} {e : DeliveryEffect}
    (hd : σ.deliveries[i]? = some d) (h : d' ∈ (σ.applyEffect i d e).deliveries) :
    e.next = some d' ∨ ∃ j, j ≠ i ∧ σ.deliveries[j]? = some d' := by
  obtain ⟨j, hj⟩ := List.mem_iff_getElem?.mp h
  rcases applyEffect_getElem? hd hj with ⟨-, hn⟩ | ⟨hne, hold⟩
  · exact Or.inl hn
  · exact Or.inr ⟨_, hne, hold⟩

/-- A step of one call, from what it does to the lease table and to its own lease. -/
theorem Held.applyEffect {σ : Sys} {i : Nat} {d : Delivery} {e : DeliveryEffect} (h : Held σ)
    (hd : σ.deliveries[i]? = some d)
    (hunique : ∀ l ∈ e.store.leases.rows, ∀ l' ∈ e.store.leases.rows,
      l.leaseId = l'.leaseId → l = l')
    (hother : ∀ j d', j ≠ i → σ.deliveries[j]? = some d' → ∀ id, d'.lease = some id →
      LeaseStored e.store d'.message.taskId id)
    (hmessage : ∀ d' ∈ e.next, d'.message = d.message)
    (hholder : ∀ d' ∈ e.next, ∀ id, d'.lease = some id → LeaseStored e.store d.message.taskId id)
    (hholds : ∀ d' ∈ e.next, d'.phase.holds = true → d'.lease ≠ none)
    (hexclusive : ∀ d' ∈ e.next, d'.lease ≠ none → ∀ j d'', j ≠ i →
      σ.deliveries[j]? = some d'' → d''.lease ≠ none → d''.message.taskId ≠ d.message.taskId) :
    Held (σ.applyEffect i d e) where
  unique := hunique
  holder := by
    intro d' hd' id hid
    rcases applyEffect_mem hd hd' with hn | ⟨j, hne, hold⟩
    · rw [hmessage d' hn]
      exact hholder d' hn id hid
    · exact hother j d' hne hold id hid
  exclusive := by
    intro j k d₁ d₂ hj hk hl₁ hl₂ hsame
    rcases applyEffect_getElem? hd hj with ⟨hj, hn₁⟩ | ⟨hj, hold₁⟩
    · rcases applyEffect_getElem? hd hk with ⟨hk, hn₂⟩ | ⟨hk, hold₂⟩
      · exact oldPosition_inj (hj.trans hk.symm)
      · rw [hmessage d₁ hn₁] at hsame
        exact absurd hsame.symm (hexclusive d₁ hn₁ hl₁ _ d₂ hk hold₂ hl₂)
    · rcases applyEffect_getElem? hd hk with ⟨hk, hn₂⟩ | ⟨hk, hold₂⟩
      · rw [hmessage d₂ hn₂] at hsame
        exact absurd hsame (hexclusive d₂ hn₂ hl₂ _ d₁ hj hold₁ hl₁)
      · exact oldPosition_inj (h.exclusive _ _ d₁ d₂ hold₁ hold₂ hl₁ hl₂ hsame)
  holds := by
    intro d' hd' hp
    rcases applyEffect_mem hd hd' with hn | ⟨j, -, hold⟩
    · exact hholds d' hn hp
    · exact h.holds d' (List.mem_of_getElem? hold) hp

/-- A step that keeps the lease table and the lease of the call. -/
theorem Held.keep {σ : Sys} {i : Nat} {d : Delivery} {e : DeliveryEffect} (h : Held σ)
    (hd : σ.deliveries[i]? = some d) (hleases : e.store.leases = σ.store.leases)
    (hmessage : ∀ d' ∈ e.next, d'.message = d.message) (hlease : ∀ d' ∈ e.next, d'.lease = d.lease)
    (hholds : ∀ d' ∈ e.next, d'.phase.holds = true → d.phase.holds = true) :
    Held (σ.applyEffect i d e) := by
  have hstored : ∀ taskId id, LeaseStored σ.store taskId id → LeaseStored e.store taskId id := by
    intro taskId id hl
    unfold LeaseStored
    rw [hleases]
    exact hl
  have hmem := List.mem_of_getElem? hd
  refine h.applyEffect hd ?_ ?_ hmessage ?_ ?_ ?_
  · rw [hleases]
    exact h.unique
  · intro j d' _ hj id hid
    exact hstored _ _ (h.holder d' (List.mem_of_getElem? hj) id hid)
  · intro d' hn id hid
    rw [hlease d' hn] at hid
    exact hstored _ _ (h.holder d hmem id hid)
  · intro d' hn hp
    rw [hlease d' hn]
    exact h.holds d hmem (hholds d' hn hp)
  · intro d' hn hl j d'' hne hj hl'' hsame
    rw [hlease d' hn] at hl
    exact hne (h.exclusive _ _ d'' d hj hd hl'' hl hsame)

/-- A step that gives the lease of the call back. -/
theorem Held.release {σ : Sys} {i : Nat} {d : Delivery} {e : DeliveryEffect} (h : Held σ)
    (hd : σ.deliveries[i]? = some d) (hstore : e.store = d.releaseStore σ.store)
    (hmessage : ∀ d' ∈ e.next, d'.message = d.message) (hlease : ∀ d' ∈ e.next, d'.lease = none)
    (hholds : ∀ d' ∈ e.next, d'.phase.holds = false) : Held (σ.applyEffect i d e) := by
  refine h.applyEffect hd ?_ ?_ hmessage ?_ ?_ ?_
  · intro l hl l' hl'
    rw [hstore] at hl hl'
    exact h.unique l (Delivery.releaseStore_rows hl) l' (Delivery.releaseStore_rows hl')
  · intro j d' hne hj id hid
    obtain ⟨l, hl, hlid⟩ := h.holder d' (List.mem_of_getElem? hj) id hid
    refine ⟨l, ?_, hlid⟩
    rw [hstore]
    unfold Delivery.releaseStore
    cases hown : d.lease with
    | none => exact hl
    | some own =>
        -- the row that is deleted is the one of the call's own task
        obtain ⟨l₀, hl₀, hid₀⟩ := h.holder d (List.mem_of_getElem? hd) own hown
        have htask : d'.message.taskId ≠ d.message.taskId := by
          intro hsame
          exact hne (h.exclusive _ _ d' d hj hd (by rw [hid]; simp) (by rw [hown]; simp) hsame)
        simp only [Option.elim_some, releaseLease]
        cases hf : σ.store.leases.rows.find? (fun l => l.leaseId = own) with
        | none => exact hl
        | some l₁ =>
            have hl₁ : l₁.leaseId = own := by simpa using List.find?_some hf
            obtain rfl : l₁ = l₀ := h.unique l₁ (List.mem_of_find?_eq_some hf) l₀
              (Table.mem_of_get? hl₀) (hl₁.trans hid₀.symm)
            change (σ.store.leases.erase l₁.taskId).get? d'.message.taskId = some l
            rw [Table.get?_erase, if_neg]
            · exact hl
            · rw [Table.key_of_get? hl₀]
              exact htask
  · intro d' hn id hid
    rw [hlease d' hn] at hid
    exact absurd hid (by simp)
  · intro d' hn hp
    rw [hholds d' hn] at hp
    exact absurd hp (by simp)
  · intro d' hn hl
    exact absurd (hlease d' hn) hl

/-- An admitted call. -/
theorem Held.acquire {σ : Sys} {i : Nat} {d d' : Delivery} {e : DeliveryEffect}
    {leaseId : String} (h : Held σ) (hd : σ.deliveries[i]? = some d)
    (hfresh : ∀ l ∈ σ.store.leases.rows, l.leaseId ≠ leaseId)
    (hacquire : tryAcquireLease leaseId d.message.taskId d.worker σ.store = some e.store)
    (hn : e.next = some d') (hmessage : d'.message = d.message)
    (hlease : d'.lease = some leaseId) : Held (σ.applyEffect i d e) := by
  obtain ⟨table, hins, hstore⟩ := Option.map_eq_some_iff.mp hacquire
  obtain ⟨hnone, rfl⟩ := Table.insert?_eq_some hins
  have hleases : e.store.leases = σ.store.leases.upsert
      { leaseId := leaseId, taskId := d.message.taskId, workerId := d.worker } := by
    rw [← hstore]
  -- nobody else holds a lease of the task, since its row would be there
  have hfree : ∀ d₁ ∈ σ.deliveries, d₁.lease ≠ none → d₁.message.taskId ≠ d.message.taskId := by
    intro d₁ hmem hl hsame
    obtain ⟨id, hid⟩ := Option.ne_none_iff_exists'.mp hl
    obtain ⟨l, hget, -⟩ := h.holder d₁ hmem id hid
    rw [hsame, hnone] at hget
    exact absurd hget (by simp)
  refine h.applyEffect hd ?_ ?_ ?_ ?_ ?_ ?_
  · intro l hl l' hl' hsame
    rw [hleases] at hl hl'
    rcases Table.mem_upsert.mp hl with rfl | ⟨hold, -⟩
    · rcases Table.mem_upsert.mp hl' with rfl | ⟨hold', -⟩
      · rfl
      · exact absurd hsame.symm (hfresh l' hold')
    · rcases Table.mem_upsert.mp hl' with rfl | ⟨hold', -⟩
      · exact absurd hsame (hfresh l hold)
      · exact h.unique l hold l' hold' hsame
  · intro j d₁ _ hj id hid
    have hmem := List.mem_of_getElem? hj
    obtain ⟨l, hget, hlid⟩ := h.holder d₁ hmem id hid
    refine ⟨l, ?_, hlid⟩
    rw [hleases, Table.get?_upsert, if_neg]
    · exact hget
    · intro hsame
      exact hfree d₁ hmem (by rw [hid]; simp) hsame.symm
  · intro d₁ hn₁
    obtain rfl := Option.some.inj (hn.symm.trans hn₁)
    exact hmessage
  · intro d₁ hn₁ id hid
    obtain rfl := Option.some.inj (hn.symm.trans hn₁)
    obtain rfl : leaseId = id := Option.some.inj (hlease.symm.trans hid)
    exact ⟨_, by rw [hleases, Table.get?_upsert, if_pos rfl], rfl⟩
  · intro d₁ hn₁ _
    obtain rfl := Option.some.inj (hn.symm.trans hn₁)
    rw [hlease]
    simp
  · intro d₁ _ _ j d₂ _ hj hl₂
    exact hfree d₂ (List.mem_of_getElem? hj) hl₂

/-- The phases that a step between two phases leads to. -/
theorem PhaseStep.holds {s : Store} {m : TaskMessage} {p q : Phase} (h : PhaseStep s m p q)
    (hk : q.plain = true) (hq : q.holds = true) : p.holds = true := by
  cases h with
  | duplicate t key hk hc => rfl
  | execute t key hk hc => rfl
  | lease t => exact absurd hk (by simp [Phase.plain])
  | read | accept | skip | release | raise | handled => exact absurd hq (by simp [Phase.holds])

theorem Held.delivery {repo : WorkflowRepoKind} {cfg : AppConfig} {σ : Sys} {i : Nat}
    {d : Delivery} {a : DeliveryAction} {e : DeliveryEffect} (h : Held σ) (hs : SysSound σ)
    (hd : σ.deliveries[i]? = some d) (hstep : LoopStep repo cfg σ.store d a e)
    (hcalm : a ≠ .crash) (hfresh : σ.freshLease (.delivery i a) = true) :
    Held (σ.applyEffect i d e) := by
  have hds := hs.deliveries d (List.mem_of_getElem? hd)
  -- what `keep` asks about a call that goes on in another phase
  have hphase : ∀ {s' : Store} {acks : Bool} {backoff : Option BackoffEntry} {p : Phase},
      s'.leases = σ.store.leases → (p.holds = true → d.phase.holds = true) →
      Held (σ.applyEffect i d
        { store := s', acks := acks, next := some { d with phase := p }, backoff := backoff }) := by
    intro s' acks backoff p hl hp
    refine h.keep hd hl ?_ ?_ ?_ <;> intro d' hn <;> obtain rfl := Option.some.inj hn
    · rfl
    · rfl
    · exact hp
  cases hstep with
  | stay a =>
      refine h.keep hd rfl ?_ ?_ ?_ <;> intro d' hn <;> obtain rfl := Option.some.inj hn
      · rfl
      · rfl
      · exact id
  | leave a hp acks hacks =>
      exact h.keep hd rfl (by simp) (by simp) (by simp)
  | crash => exact absurd rfl hcalm
  | phase a p hps hk => exact hphase rfl (hps.holds hk)
  | acquire leaseId now t hp s' hl =>
      exact h.acquire hd (by simpa [Sys.freshLease] using hfresh) hl rfl rfl rfl
  | execute env reply t key hp hf e htx => exact hphase rfl (by simp [Phase.holds])
  | commit env reply t key hp hf s' htx =>
      obtain rfl : key = t.idempotencyKey := hds.key t key (by rw [hp]; rfl)
      have ht : TaskKnown σ.store d.message t := hds.task t (by rw [hp]; rfl)
      obtain ⟨n, w, row, next, denv, task, hstaged⟩ := staged_of_ok hs.store ht hf htx
      exact hphase hstaged.leases (fun _ => by rw [hp]; rfl)
  | release t key hp =>
      refine h.release hd rfl ?_ ?_ ?_ <;> intro d' hn <;> obtain rfl := Option.some.inj hn <;> rfl
  | ack a acks hack p hp =>
      refine hphase rfl ?_
      rcases hp with rfl | ⟨t, e, -, rfl⟩ <;> simp [Phase.holds]
  | retry env readyAt t e hp attempt hdec s' hr =>
      exact hphase (updateTask_leases hr) (by simp [Phase.holds])
  | fail env readyAt t e hp tt exhausted errorClass hdec s' hf =>
      exact hphase (permanentFailure_leases hf) (by simp [Phase.holds])
  | unhandled env readyAt t e hp hdec hr => exact hphase rfl (by simp [Phase.holds])
  | failureRaised x t e hp => exact hphase rfl (by simp [Phase.holds])
  | close hp => exact h.release hd rfl (by simp) (by simp) (by simp)

/-- The deliveries after a step that is not a delivery's. -/
theorem step_deliveries (repo : WorkflowRepoKind) (cfg : AppConfig) (sc : ReconciliationScanner)
    (σ : Sys) (a : Action) (hd : ∀ i b, a ≠ .delivery i b) (hcalm : a.calm = true) :
    (Sys.step repo cfg sc a σ).deliveries = σ.deliveries ∨
      ∃ n worker e, a = .deliver n worker ∧ σ.stream[n]? = some e ∧
        (Sys.step repo cfg sc a σ).deliveries =
          σ.deliveries ++ [{ worker := worker, entry := n, message := e.message }] := by
  cases a with
  | initiate env request =>
      refine Or.inl ?_
      unfold Sys.step
      dsimp only
      split <;> rfl
  | approve env workflowId action actor =>
      refine Or.inl ?_
      unfold Sys.step
      dsimp only
      split <;> rfl
  | transition env request =>
      refine Or.inl ?_
      unfold Sys.step
      dsimp only
      split <;> rfl
  | fetchRow outboxId =>
      refine Or.inl ?_
      unfold Sys.step
      dsimp only
      split
      · rfl
      · split <;> rfl
  | publish i a =>
      refine Or.inl ?_
      unfold Sys.step
      dsimp only
      split
      · rfl
      · exact (stepPublish_untouched ..).2
  | deliver n worker =>
      unfold Sys.step
      dsimp only
      split
      · exact Or.inl rfl
      · next e he =>
        split
        · exact Or.inl rfl
        · exact Or.inr ⟨n, worker, e, rfl, he, rfl⟩
  | delivery i b => exact absurd rfl (hd i b)
  | crashWorker worker => exact absurd hcalm (by simp [Action.calm])
  | expireLease taskId => exact Or.inl rfl
  | scanCollect | scanCollectRaises => exact Or.inl rfl
  | scan k a =>
      refine Or.inl ?_
      unfold Sys.step
      dsimp only
      split
      · rfl
      · exact (stepScan_untouched ..).2

/-- **Every calm step keeps the leases exclusive.** -/
theorem Held.step {repo : WorkflowRepoKind} {cfg : AppConfig} {sc : ReconciliationScanner}
    {σ : Sys} (h : Held σ) (hs : SysSound σ) {a : Action} (hcalm : a.calm = true)
    (hfresh : σ.freshLease a = true) : Held (Sys.step repo cfg sc a σ) := by
  by_cases hdel : ∃ i b, a = .delivery i b
  · obtain ⟨i, b, rfl⟩ := hdel
    unfold Sys.step
    dsimp only
    split
    · exact h
    · next d hd =>
      refine h.delivery hs hd (loopStep repo cfg σ.backoff σ.store d b) ?_ hfresh
      intro hb
      rw [hb] at hcalm
      exact absurd hcalm (by simp [Action.calm])
  have hno : ∀ i b, a ≠ .delivery i b := fun i b hab => hdel ⟨i, b, hab⟩
  have hleases := step_leases repo cfg sc σ a hno (by
    intro id hid
    rw [hid] at hcalm
    exact absurd hcalm (by simp [Action.calm]))
  have hstored : ∀ taskId id, LeaseStored σ.store taskId id →
      LeaseStored (Sys.step repo cfg sc a σ).store taskId id := by
    intro taskId id hl
    unfold LeaseStored
    rw [hleases]
    exact hl
  rcases step_deliveries repo cfg sc σ a hno hcalm with hsame | ⟨n, worker, e, -, -, hnew⟩
  · exact {
      unique := by rw [hleases]; exact h.unique
      holder := by
        rw [hsame]
        exact fun d hd id hid => hstored _ _ (h.holder d hd id hid)
      exclusive := by rw [hsame]; exact h.exclusive
      holds := by rw [hsame]; exact h.holds }
  · have hold : ∀ (i : Nat) (d : Delivery), (Sys.step repo cfg sc a σ).deliveries[i]? = some d →
        d.lease ≠ none → σ.deliveries[i]? = some d := by
      intro i d hd hl
      rw [hnew, List.getElem?_append] at hd
      split at hd
      · exact hd
      · obtain rfl := List.mem_singleton.mp (List.mem_of_getElem? hd)
        exact absurd rfl hl
    exact {
      unique := by rw [hleases]; exact h.unique
      holder := by
        intro d hd id hid
        obtain ⟨i, hi⟩ := List.mem_iff_getElem?.mp hd
        exact hstored _ _ (h.holder d
          (List.mem_of_getElem? (hold i d hi (by rw [hid]; simp))) id hid)
      exclusive := by
        intro i j d d' hi hj hl hl'
        exact h.exclusive i j d d' (hold i d hi hl) (hold j d' hj hl') hl hl'
      holds := by
        intro d hd hp
        rw [hnew] at hd
        rcases List.mem_append.mp hd with hold | hlast
        · exact h.holds d hold hp
        · obtain rfl := List.mem_singleton.mp hlast
          exact absurd hp (by simp [Phase.holds]) }

end CartoonDemo
