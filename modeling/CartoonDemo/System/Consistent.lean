import CartoonDemo.System.SoundSystem

/-!
# CartoonDemo.System.Consistent

The **consistency invariant** of the running system, for all actions: every one of them keeps
`SysSound`. The parties are looked at one by one, each with what it adds to the store and to what is
on its way.
-/

namespace CartoonDemo

open WorkflowEngine TransitionExecutor WorkerLoop WorkflowStateGuard

/-! ### Steps of the system

Deliveries, publishers and scans.
-/

theorem Phase.task?_of_mayRaise {p : Phase} {t : TaskRecord} (h : p.mayRaise = some t) :
    p.task? = some t := by
  cases p <;> first | exact h | exact absurd h (by simp [Phase.mayRaise])

/-- The next phase of a sound delivery carries a known task and its key. -/
theorem PhaseStep.sound {s : Store} {st : List StreamEntry} {d : Delivery} {p : Phase}
    (hs : StoreSound s) (hd : DeliverySound s st d) (h : PhaseStep s d.message d.phase p) :
    (∀ t, p.task? = some t → TaskKnown s d.message t) ∧
      ∀ t key, p.keyed? = some (t, key) → key = t.idempotencyKey := by
  have htask := hd.task
  have hkey := hd.key
  -- the key of a delivery that passes the pre-check is the key of its task
  have hdelivery : ∀ t key, d.phase = .leased t → deliveryKey s t d.message = .ok key →
      key = t.idempotencyKey := by
    intro t key hp hk
    obtain ⟨n, hn, hw, -⟩ := (htask t (by rw [hp]; rfl)).sound hs
    exact Except.ok.inj (hk.symm.trans (hn.deliveryKey hw))
  generalize hphase : d.phase = q at h htask hkey
  cases h with
  | read t hg =>
      obtain ⟨t₀, hg₀, hw₀⟩ := hd.message
      refine ⟨?_, by simp [Phase.keyed?]⟩
      intro t' ht'
      obtain rfl : t = t' := by simpa [Phase.task?] using ht'
      obtain rfl : t = t₀ := Option.some.inj (hg.symm.trans hg₀)
      exact ⟨t, hg, hw₀, TaskRecord.SameTask.refl t⟩
  | accept t w hg hst => exact ⟨htask, by simp [Phase.keyed?]⟩
  | skip t w hg hst => exact ⟨by simp [Phase.task?], by simp [Phase.keyed?]⟩
  | lease t => exact ⟨htask, by simp [Phase.keyed?]⟩
  | duplicate t key hk hc =>
      refine ⟨htask, ?_⟩
      intro t' key' heq
      obtain ⟨rfl, rfl⟩ : t = t' ∧ key = key' := by simpa [Phase.keyed?] using heq
      exact hdelivery t key hphase hk
  | execute t key hk hc =>
      refine ⟨htask, ?_⟩
      intro t' key' heq
      obtain ⟨rfl, rfl⟩ : t = t' ∧ key = key' := by simpa [Phase.keyed?] using heq
      exact hdelivery t key hphase hk
  | release t key => exact ⟨htask, hkey⟩
  | raise q t e hr =>
      refine ⟨?_, by simp [Phase.keyed?]⟩
      intro t' ht'
      obtain rfl : t = t' := by simpa [Phase.task?] using ht'
      exact htask t (Phase.task?_of_mayRaise hr)
  | handled t e => exact ⟨by simp [Phase.task?], by simp [Phase.keyed?]⟩

/-- A step keeps a delivery sound, as far as the old store can say. -/
theorem DeliveryStep.sound {repo : WorkflowRepoKind} {cfg : AppConfig} {s : Store}
    {st : List StreamEntry} {d d' : Delivery} {a : DeliveryAction} {e : DeliveryEffect} (hs : StoreSound s)
    (hd : DeliverySound s st d) (h : DeliveryStep repo cfg s d a e) (hn : e.next = some d') :
    DeliverySound s st d' := by
  cases h with
  | stay =>
      obtain rfl := Option.some.inj hn
      exact hd
  | leave s' hq => exact absurd hn (by simp)
  | phase s' hq lease p backoff h =>
      obtain rfl := Option.some.inj hn
      obtain ⟨htask, hkey⟩ := h.sound hs hd
      exact ⟨hd.entry, hd.message, htask, hkey⟩
  | ack applied next h hafter =>
      obtain rfl : next = some d' := hn
      cases hafter with
      | closing =>
          exact ⟨hd.entry, hd.message, by simp [Phase.task?], by simp [Phase.keyed?]⟩
      | raised t e hr =>
          refine ⟨hd.entry, hd.message, ?_, by simp [Phase.keyed?]⟩
          intro t' ht'
          obtain rfl : t = t' := by simpa [Phase.task?] using ht'
          exact hd.task t (Phase.task?_of_mayRaise hr)
  | commit env reply t key s' ha hp hf h =>
      obtain rfl := Option.some.inj hn
      refine ⟨hd.entry, hd.message, ?_, ?_⟩
      · intro t' ht'
        exact hd.task t' (by rw [hp]; exact ht')
      · intro t' key' hk
        exact hd.key t' key' (by rw [hp]; exact hk)
  | fail env readyAt t e tt exhausted errorClass s' ha hp hdec h =>
      obtain rfl := Option.some.inj hn
      refine ⟨hd.entry, hd.message, ?_, by simp [Phase.keyed?]⟩
      intro t' ht'
      exact hd.task t' (by rw [hp]; exact ht')

/-- The message of a publisher's row is about a stored task. -/
theorem FrameSound.message {s : Store} {f : PublishFrame} {m : TaskMessage} (h : FrameSound s f)
    (hs : StoreSound s) (hm : buildMessage s f.entry = some m) :
    MessageSound s m ∧ m.taskId = f.entry.taskId := by
  obtain ⟨e, hg, hsame⟩ := h
  obtain ⟨t, ht, hw⟩ := hs.outbox e (Table.mem_of_get? hg)
  obtain ⟨t', ht', rfl⟩ := Option.map_eq_some_iff.mp hm
  rw [hsame.taskId] at ht
  exact ⟨⟨t, ht, hsame.workflowId.symm.trans hw⟩, rfl⟩

/-- Appending messages about stored tasks. -/
theorem SysSound.enqueue {σ : Sys} {m : TaskMessage} (h : SysSound σ)
    (hm : MessageSound σ.store m) :
    SysSound { σ with stream := σ.stream ++ [{ message := m }] } where
  store := h.store
  stream := by
    intro e he
    rcases List.mem_append.mp he with hold | hnew
    · exact h.stream e hold
    · obtain rfl := List.mem_singleton.mp hnew
      exact hm
  frames := h.frames
  deliveries := fun d hd =>
    (h.deliveries d hd).extends (Extends.refl _) (streamExtends_append _ _)
  scans := h.scans

/-- A publisher moves on with its row or forgets it. -/
theorem SysSound.setFrame {σ : Sys} {i : Nat} {f : Option PublishFrame} (h : SysSound σ)
    (hf : ∀ f' ∈ f, FrameSound σ.store f') : SysSound (σ.setFrame i f) := by
  cases f with
  | none =>
      exact { h with frames := fun f' hf' => h.frames f' (List.mem_of_mem_eraseIdx hf') }
  | some f₀ =>
      refine { h with frames := ?_ }
      intro f' hf'
      rcases List.mem_or_eq_of_mem_set hf' with hold | rfl
      · exact h.frames f' hold
      · exact hf f' rfl

theorem SysSound.stepPublish {σ : Sys} {i : Nat} {f : PublishFrame} (h : SysSound σ)
    (hf : FrameSound σ.store f) (a : PublishAction) : SysSound (σ.stepPublish i f a) := by
  have hmarked : ∀ now, SysSound { σ with store := markedStore now f.entry.outboxId σ.store } := by
    intro now
    rcases markedStore_cases now f.entry.outboxId σ.store with he | hm
    · rw [he]
      exact h
    · exact h.of_store (h.store.of_marked hm) hm.extends
  cases a with
  | enqueue =>
      unfold Sys.stepPublish
      dsimp only
      split
      · exact h
      · cases hm : buildMessage σ.store f.entry with
        | none => exact h.setFrame (by simp)
        | some m =>
            refine (h.enqueue (hf.message h.store hm).1).setFrame ?_
            intro f' hf'
            obtain rfl := Option.some.inj hf'
            exact hf
  | enqueueRaises applied =>
      unfold Sys.stepPublish
      dsimp only
      split
      · exact h
      · cases hm : buildMessage σ.store f.entry with
        | none => exact h
        | some m =>
            cases applied with
            | false => exact h
            | true => exact h.enqueue (hf.message h.store hm).1
  | mark now =>
      unfold Sys.stepPublish
      dsimp only
      split
      · exact (hmarked now).setFrame (by simp)
      · exact h
  | markRaises now applied =>
      unfold Sys.stepPublish
      dsimp only
      split
      · exact hmarked now
      · exact h
  | drop =>
      change SysSound (σ.setFrame i none)
      exact h.setFrame (by simp)

/-- The plan of a candidate is about a workflow that the scanner has just read. -/
theorem inspectCandidate_stored {sc : ReconciliationScanner} {repo : WorkflowRepoKind}
    {cfg : AppConfig} {now : Time} {c : ReconciliationCandidate} {s : Store}
    {plan : ReconciliationScanner.RepairPlan} {report : ReconciliationReport}
    (h : sc.inspectCandidate repo cfg now c s = .repair plan report) :
    ∃ fresh, s.workflows.get? c.workflowId = some fresh ∧ plan.workflow = fresh ∧
      fresh.stateVersion = c.workflow.stateVersion := by
  unfold ReconciliationScanner.inspectCandidate getWorkflow at h
  cases hg : s.workflows.get? c.workflowId with
  | none => rw [hg] at h; exact absurd h (by simp)
  | some fresh =>
      rw [hg] at h
      dsimp only at h
      by_cases hv : fresh.stateVersion = c.workflow.stateVersion
      · rw [if_neg (not_not.mpr hv)] at h
        refine ⟨fresh, rfl, ?_, hv⟩
        cases c with
        | rp001 w tt =>
            obtain ⟨rfl, -⟩ : _ = plan ∧ _ = report := by simpa using h
            rfl
        | rp002 w => exact absurd h (by simp)
        | rp003 w tt =>
            dsimp only at h
            split at h
            · exact absurd h (by simp)
            · split at h
              · split at h <;>
                · obtain ⟨rfl, -⟩ : _ = plan ∧ _ = report := by simpa using h
                  rfl
              · obtain ⟨rfl, -⟩ : _ = plan ∧ _ = report := by simpa using h
                rfl
        | rp004 w => exact absurd h (by simp)
      · rw [if_pos hv] at h
        exact absurd h (by simp)

theorem SysSound.setScan {σ : Sys} {k : Nat} {scan : Scan} (h : SysSound σ)
    (hscan : ScanSound σ.store scan) : SysSound (σ.setScan k scan) := by
  refine { h with scans := ?_ }
  intro scan' hmem
  rcases List.mem_or_eq_of_mem_set hmem with hold | rfl
  · exact h.scans scan' hold
  · exact hscan

theorem SysSound.stepScan {repo : WorkflowRepoKind} {cfg : AppConfig}
    {sc : ReconciliationScanner} {σ : Sys} {k : Nat} {scan : Scan} (h : SysSound σ)
    (hscan : ScanSound σ.store scan) (a : ScanAction) :
    SysSound (σ.stepScan repo cfg sc k scan a) := by
  have hnone : ∀ s (scan' : Scan), scan'.pending = none → ScanSound s scan' := by
    intro s scan' hp plan report hpend
    rw [hp] at hpend
    exact absurd hpend (by simp)
  cases a with
  | inspect now =>
      unfold Sys.stepScan
      dsimp only
      split
      · next c rest _ hp _ =>
        cases hi : sc.inspectCandidate repo cfg now c σ.store with
        | skip report => exact h.setScan (hnone _ _ hp)
        | repair plan report =>
            refine h.setScan ?_
            intro plan' report' hpend
            obtain ⟨rfl, rfl⟩ : plan = plan' ∧ report = report' := by simpa using hpend
            obtain ⟨fresh, hg, hw, -⟩ := inspectCandidate_stored hi
            rw [hw, Table.key_of_get? hg, hg]
            simp
      · exact h
  | readRaises e =>
      unfold Sys.stepScan
      dsimp only
      split
      · next hp _ => exact h.setScan (hnone _ _ hp)
      · exact h
  | repair env =>
      unfold Sys.stepScan
      dsimp only
      split
      · next plan report _ hp =>
        by_cases hf : σ.store.freshDispatch env = true
        · rw [if_pos hf]
          cases hr : ReconciliationScanner.performRepair repo cfg env plan σ.store with
          | error e => exact h.setScan (hnone _ _ rfl)
          | ok s' =>
              have hstep := repair_step hf (hscan plan report hp) hr
              have hσ := h.of_store (h.store.step hstep) hstep.extends
              exact hσ.setScan (hnone _ _ rfl)
        · rw [if_neg hf]
          exact h
      · exact h
  | repairRaises e =>
      unfold Sys.stepScan
      dsimp only
      split
      · exact h.setScan (hnone _ _ rfl)
      · exact h

/-- A delivery that is there after a step was there or is the next state of the stepping one. -/
theorem mem_of_applyEffect {σ : Sys} {i : Nat} {d d' : Delivery} {e : DeliveryEffect}
    (h : d' ∈ (σ.applyEffect i d e).deliveries) : d' ∈ σ.deliveries ∨ e.next = some d' := by
  cases hn : e.next with
  | none =>
      simp only [Sys.applyEffect, hn] at h
      exact Or.inl (List.mem_of_mem_eraseIdx h)
  | some d₁ =>
      simp only [Sys.applyEffect, hn] at h
      rcases List.mem_or_eq_of_mem_set h with hold | rfl
      · exact Or.inl hold
      · exact Or.inr rfl

theorem SysSound.applyEffect {repo : WorkflowRepoKind} {cfg : AppConfig} {σ : Sys} {i : Nat}
    {d : Delivery} {a : DeliveryAction} {e : DeliveryEffect} (h : SysSound σ)
    (hd : d ∈ σ.deliveries) (hstep : DeliveryStep repo cfg σ.store d a e) : SysSound (σ.applyEffect i d e) := by
  have hds := h.deliveries d hd
  have hsteps := delivery_steps .pipeline h.store hds hstep
  have hσ := h.of_store (h.store.steps hsteps) (steps_extends hsteps)
  have hstream : StreamExtends σ.stream
      (if e.acks then Sys.ackEntry σ.stream d.entry else σ.stream) := by
    split
    · exact streamExtends_ackEntry _ _
    · exact StreamExtends.refl _
  have hdel : ∀ d' ∈ (σ.applyEffect i d e).deliveries, DeliverySound σ.store σ.stream d' := by
    intro d' hd'
    rcases mem_of_applyEffect hd' with hold | hnext
    · exact h.deliveries d' hold
    · exact hstep.sound h.store hds hnext
  exact {
    store := hσ.store
    stream := by
      intro e' he'
      change e' ∈ (if e.acks then Sys.ackEntry σ.stream d.entry else σ.stream) at he'
      split at he'
      · obtain ⟨e₀, he₀, hm⟩ := ackEntry_mem he'
        rw [hm]
        exact hσ.stream e₀ he₀
      · exact hσ.stream e' he'
    frames := hσ.frames
    deliveries := fun d' hd' => (hdel d' hd').extends (steps_extends hsteps) hstream
    scans := hσ.scans }

/-- **Every action keeps the system consistent.** -/
theorem SysSound.step {repo : WorkflowRepoKind} {cfg : AppConfig} {sc : ReconciliationScanner}
    {σ : Sys} (h : SysSound σ) (a : Action) : SysSound (Sys.step repo cfg sc a σ) := by
  have hsteps := step_store repo cfg sc h a
  have hσ := h.of_store (h.store.steps hsteps) (steps_extends hsteps)
  cases a with
  | initiate env request =>
      revert hσ
      unfold Sys.step
      dsimp only
      split
      · exact id
      · exact id
  | approve env workflowId action actor =>
      revert hσ
      unfold Sys.step
      dsimp only
      split
      · exact id
      · exact id
  | transition env request =>
      revert hσ
      unfold Sys.step
      dsimp only
      split
      · exact id
      · exact id
  | fetchRow outboxId =>
      unfold Sys.step
      dsimp only
      cases hg : σ.store.outbox.get? outboxId with
      | none => exact h
      | some entry =>
          dsimp only
          split
          · refine { h with frames := ?_ }
            intro f hf
            rcases List.mem_append.mp hf with hold | hnew
            · exact h.frames f hold
            · obtain rfl := List.mem_singleton.mp hnew
              refine ⟨entry, ?_, rfl, rfl⟩
              rw [show entry.outboxId = outboxId from Table.key_of_get? hg]
              exact hg
          · exact h
  | publish i a =>
      unfold Sys.step
      dsimp only
      split
      · exact h
      · next f hf => exact h.stepPublish (h.frames f (List.mem_of_getElem? hf)) a
  | deliver n worker =>
      unfold Sys.step
      dsimp only
      split
      · exact h
      · next e he =>
        split
        · exact h
        · refine { h with deliveries := ?_ }
          intro d hd
          rcases List.mem_append.mp hd with hold | hnew
          · exact h.deliveries d hold
          · obtain rfl := List.mem_singleton.mp hnew
            exact {
              entry := ⟨e, he, rfl⟩
              message := h.stream e (List.mem_of_getElem? he)
              task := by simp [Phase.task?]
              key := by simp [Phase.keyed?] }
  | delivery i a =>
      unfold Sys.step
      dsimp only
      split
      · exact h
      · next d hd =>
        exact h.applyEffect (List.mem_of_getElem? hd) (deliveryStep repo cfg σ.backoff σ.store d a)
  | crashWorker worker =>
      exact { h with deliveries := fun d hd => h.deliveries d (List.mem_of_mem_filter hd) }
  | expireLease taskId => exact hσ
  | scanCollect batchSize clock =>
      refine { h with scans := ?_ }
      intro scan hscan
      rcases List.mem_append.mp hscan with hold | hnew
      · exact h.scans scan hold
      · obtain rfl := List.mem_singleton.mp hnew
        intro plan report hp
        exact absurd hp (by simp)
  | scanCollectRaises e =>
      refine { h with scans := ?_ }
      intro scan hscan
      rcases List.mem_append.mp hscan with hold | hnew
      · exact h.scans scan hold
      · obtain rfl := List.mem_singleton.mp hnew
        intro plan report hp
        exact absurd hp (by simp)
  | scan k a =>
      unfold Sys.step
      dsimp only
      split
      · exact h
      · next scan hscan => exact h.stepScan (h.scans scan (List.mem_of_getElem? hscan)) a

end CartoonDemo
