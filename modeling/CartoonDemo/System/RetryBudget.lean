import CartoonDemo.System.Budget

/-!
# CartoonDemo.System.RetryBudget

**How often the handler of a task is started.** The attempt counter of a task row is meant to
bound it: a call that fails writes the counter back one higher, or fails the workflow when the
counter has reached the maximum.

A call that acts on an outdated read of the counter, or that cannot write it, breaks this. In the runs
without such calls the handler is started no more often than the maximum (`run_retry_budget`).
-/

namespace CartoonDemo

open WorkflowEngine TransitionExecutor WorkerLoop WorkflowStateGuard

/-! ### Runs -/

/-- The starts so far, with those of the next step. -/
def Sys.charge (σ : Sys) (a : Action) (n : String → Nat) : String → Nat :=
  fun id => n id + if σ.startedTask a = some id then 1 else 0

theorem Budget.step {repo : WorkflowRepoKind} {cfg : AppConfig} {sc : ReconciliationScanner}
    {n : String → Nat} {σ : Sys} (h : Budget cfg n σ) (hmax : ∀ tt, 1 ≤ cfg.maxAttempts tt)
    {a : Action} (ha : Steady σ a) (hcur : σ.currentReads cfg a = true) :
    Budget cfg (σ.charge a n) (Sys.step repo cfg sc a σ) := by
  obtain ⟨hpipe, hcalm, hfresh, hreply⟩ := ha
  have hsteps := step_store repo cfg sc h.delivered.sound a
  have hext := steps_extends hsteps
  have hdelivered : Delivered (Sys.step repo cfg sc a σ) := h.delivered.step hpipe
  have hheld : Held (Sys.step repo cfg sc a σ) := h.held.step h.delivered.sound hcalm hfresh
  by_cases hdel : ∃ i b, a = .delivery i b
  · obtain ⟨i, b, rfl⟩ := hdel
    cases hd : σ.deliveries[i]? with
    | none =>
        have hstep : Sys.step repo cfg sc (.delivery i b) σ = σ := by
          unfold Sys.step
          dsimp only
          rw [hd]
        have hn : σ.charge (.delivery i b) n = n := by
          funext id
          simp [Sys.charge, Sys.startedTask, hd]
        rw [hstep, hn]
        exact h
    | some d =>
        have hstep : Sys.step repo cfg sc (.delivery i b) σ =
            σ.applyEffect i d (d.step repo cfg σ.backoff σ.store b) := by
          unfold Sys.step
          dsimp only
          rw [hd]
        rw [hstep] at hdelivered hheld hext ⊢
        have hloop := loopStep repo cfg σ.backoff σ.store d b
        have hcrash : b ≠ .crash := by
          intro hb
          rw [hb] at hcalm
          exact absurd hcalm (by simp [Action.calm])
        have hspend := fun id k => h.spend hd hloop hcrash hcur hdelivered id k
        refine h.advance hmax hdelivered hheld hext ?_ ?_ (h.keepsOpen hd hloop)
        · intro id
          unfold Sys.charge
          by_cases hs : σ.startedTask (.delivery i b) = some id
          · rw [if_pos hs]
            obtain ⟨i', d', t, key, hd', hp, rfl, hor⟩ := startedTask_some hs
            have hb : (∃ env reply, b = .execute env reply ∧ σ.store.freshStage env = true) ∨
                ∃ x, b = .raise x ∧ x.ofStage := by
              rcases hor with ⟨env, reply, hab, hf⟩ | ⟨x, hab, hx⟩
              · obtain ⟨-, rfl⟩ := Action.delivery.inj hab
                exact Or.inl ⟨env, reply, rfl, hf⟩
              · obtain ⟨-, rfl⟩ := Action.delivery.inj hab
                exact Or.inr ⟨x, rfl, hx⟩
            obtain rfl : i = i' := by
              rcases hor with ⟨env, reply, hab, -⟩ | ⟨x, hab, -⟩ <;>
                exact (Action.delivery.inj hab).1
            obtain rfl := Option.some.inj (hd.symm.trans hd')
            have hstarts : (∃ env reply, b = .execute env reply) ∨ ∃ x, b = .raise x := by
              rcases hb with ⟨env, reply, hb, -⟩ | ⟨x, hb, -⟩
              · exact Or.inl ⟨env, reply, hb⟩
              · exact Or.inr ⟨x, hb⟩
            have hreads := currentReads_start hd hp hstarts hcur
            obtain ⟨t₀, w, hget, hlt, -, -⟩ := h.start hd hp hreads.2
            obtain ⟨t₁, hget₁, hsame⟩ := hext.tasks _ t₀ hget
            have hkept := hloop.attemptsKept h.delivered.sound.store
              (h.delivered.sound.deliveries d (List.mem_of_getElem? hd)) (by rw [hp]; simp)
            rcases hkept _ t₁ hget₁ with ⟨t₂, hget₂, -, hatt⟩ | ⟨hnone, -⟩
            · obtain rfl := Option.some.inj (hget₂.symm.trans hget)
              exact .start t₂ t₁ hget hget₁ hsame.taskType hatt hlt
                (h.closed_of_start hd hp hb hreply hdelivered)
            · rw [hnone] at hget
              exact absurd hget (by simp)
          · rw [if_neg hs]
            exact hspend id _
        · intro m hm
          change m ∈ (if _ then Sys.ackEntry σ.stream d.entry else σ.stream) at hm
          split at hm
          · exact Or.inl (ackEntry_mem hm)
          · exact Or.inl ⟨m, hm, rfl⟩
  · have hno : ∀ i b, a ≠ .delivery i b := fun i b hab => hdel ⟨i, b, hab⟩
    have hn : σ.charge a n = n := by
      funext id
      have hnone : σ.startedTask a = none := by
        unfold Sys.startedTask
        split
        · next i b => exact absurd rfl (hno i b)
        · rfl
      simp [Sys.charge, hnone]
    obtain ⟨hkept, hidem⟩ := step_attempts repo cfg sc σ hpipe hno
    have hdeliveries : ∀ d ∈ (Sys.step repo cfg sc a σ).deliveries,
        d ∈ σ.deliveries ∨ d.phase = .received := by
      intro d hd
      rcases step_deliveries repo cfg sc σ a hno hcalm with hsame | ⟨k, worker, m, -, -, hnew⟩
      · exact Or.inl (hsame ▸ hd)
      · rw [hnew] at hd
        refine (List.mem_append.mp hd).imp id ?_
        intro hlast
        obtain rfl := List.mem_singleton.mp hlast
        rfl
    have hmem : ∀ d ∈ σ.deliveries, d ∈ (Sys.step repo cfg sc a σ).deliveries := by
      intro d hd
      rcases step_deliveries repo cfg sc σ a hno hcalm with hsame | ⟨k, worker, m, -, -, hnew⟩
      · rw [hsame]
        exact hd
      · rw [hnew]
        exact List.mem_append_left _ hd
    rw [hn]
    refine h.advance hmax hdelivered hheld hext ?_ ?_ ?_
    · intro id
      refine .keep (hkept id) ?_
      intro hc
      rcases hc with hs | ⟨d, hd, hrest⟩
      · exact Or.inl (settled_steps hs hsteps)
      · exact Or.inr ⟨d, hmem d hd, hrest⟩
    · intro m hm
      exact (step_stream repo cfg sc σ hpipe hno hm).imp (fun hold => ⟨m, hold, rfl⟩) id
    · intro d hd t key hp
      rw [Represents.completed_congr hidem]
      rcases hdeliveries d hd with hold | hnew
      · exact h.open_ d hold t key hp
      · rw [hnew] at hp
        exact absurd hp (by simp)

/-- The handlers of the tasks have been started `n` times and more along a run. -/
theorem Budget.run {repo : WorkflowRepoKind} {cfg : AppConfig} {sc : ReconciliationScanner}
    (hmax : ∀ tt, 1 ≤ cfg.maxAttempts tt) {n : String → Nat} {σ : Sys} (h : Budget cfg n σ)
    {as : List Action}
    (hrun : Along (Sys.step repo cfg sc) (fun σ a => Steady σ a ∧ σ.currentReads cfg a = true)
      σ as) :
    Budget cfg (fun id => n id + starts (Sys.step repo cfg sc) id σ as)
      (run (Sys.step repo cfg sc) σ as) := by
  induction as generalizing n σ with
  | nil => exact h
  | cons a as ih =>
      have hstep : Budget cfg (σ.charge a n) (Sys.step repo cfg sc a σ) :=
        h.step hmax hrun.1.1 hrun.1.2
      have hrest := ih hstep hrun.2
      have hn : (fun id => n id + starts (Sys.step repo cfg sc) id σ (a :: as)) =
          fun id => σ.charge a n id + starts (Sys.step repo cfg sc) id (Sys.step repo cfg sc a σ) as := by
        funext id
        simp only [starts, Sys.charge]
        omega
      rw [hn]
      exact hrest

/-- The handler is started while the workflow of the task has not ended. -/
def StartsLive (σ : Sys) (a : Action) : Prop :=
  ∀ id, σ.startedTask a = some id → ∃ t w, σ.store.tasks.get? id = some t ∧
    σ.store.workflows.get? t.workflowId = some w ∧ w.state.isTerminal = false

theorem Budget.startsLive {cfg : AppConfig} {n : String → Nat} {σ : Sys} (h : Budget cfg n σ)
    {a : Action} (hcur : σ.currentReads cfg a = true) : StartsLive σ a := by
  intro id hs
  obtain ⟨i, d, t, key, hd, hp, rfl, hor⟩ := startedTask_some hs
  have hreads : d.currentState σ.store t = true := by
    rcases hor with ⟨env, reply, rfl, -⟩ | ⟨x, rfl, -⟩
    · exact (currentReads_start hd hp (Or.inl ⟨env, reply, rfl⟩) hcur).2
    · exact (currentReads_start hd hp (Or.inr ⟨x, rfl⟩) hcur).2
  obtain ⟨t₀, w, hget, -, hw, hlive⟩ := h.start hd hp hreads
  exact ⟨t₀, w, hget, hw, hlive⟩

/-- **The retry budget.** In every run of publishers, workers and users in which no worker
dies, no lease expires, no call acts on an outdated read and no failure transaction raises, the
handler of a task is started at most as often as its retry policy allows, and never after its
workflow has ended. -/
theorem run_retry_budget (repo : WorkflowRepoKind) (cfg : AppConfig) (sc : ReconciliationScanner)
    (hmax : ∀ tt, 1 ≤ cfg.maxAttempts tt) (as : List Action)
    (hrun : Along (Sys.step repo cfg sc) (fun σ a => Steady σ a ∧ σ.currentReads cfg a = true)
      {} as) :
    (∀ t ∈ (run (Sys.step repo cfg sc) {} as).store.tasks.rows,
      starts (Sys.step repo cfg sc) t.taskId {} as ≤ cfg.maxAttempts t.taskType) ∧
      Along (Sys.step repo cfg sc) StartsLive {} as := by
  refine ⟨?_, ?_⟩
  · intro t ht
    have h := (budget_empty cfg).run hmax hrun
    have hspent := h.spent t.taskId t (Table.get?_of_mem ht)
    have hbound := h.bounded t ht
    simp only [Nat.zero_add] at hspent
    omega
  · refine along_imp (motive := fun σ => ∃ n, Budget cfg n σ) ?_ ?_ ⟨_, budget_empty cfg⟩ hrun
    · intro σ a h ha
      obtain ⟨n, hn⟩ := h
      exact ⟨_, hn.step hmax ha.1 ha.2⟩
    · intro σ a h ha
      obtain ⟨n, hn⟩ := h
      exact hn.startsLive ha.2

/-- `CollectorFetchError`, a failure that is worth another attempt. -/
def collectorFetchError : PyException := .collector true "COL_FETCH" "fetch failed"

/-- A failed attempt of the first stream entry, as delivery `i`, up to the write of its
failure. -/
def failEntry (i k : Nat) (now : Time) : List Action :=
  executeEntry 0 i "worker" ("lease-" ++ toString k) now (StageEnv.numbered now k)
      (.error collectorFetchError) ++
    [.delivery i (.handleFailure (Env.numbered now (2 * k)) now)]

/-- The first attempt of a collection fails and the second one succeeds. -/
def retriedRun : List Action :=
  .initiate (Env.numbered 0 0) { workflowId := some "wf" } ::
    (publishRow "outbox-0" 0 1 ++ failEntry 0 1 2 ++ [.delivery 0 .close] ++
      executeEntry 0 0 "worker" "lease-2" 3 (StageEnv.numbered 3 2) (.ok {}) ++ finishDelivery 0)

theorem retriedRun_budget :
    starts (Sys.step .postgres .prod {}) "task-0" {} retriedRun = 2 ∧
      (∀ t ∈ (run (Sys.step .postgres .prod {}) {} retriedRun).store.tasks.rows,
        starts (Sys.step .postgres .prod {}) t.taskId {} retriedRun ≤
          AppConfig.prod.maxAttempts t.taskType) ∧
      Along (Sys.step .postgres .prod {}) StartsLive {} retriedRun := by
  refine ⟨by decide +kernel, ?_⟩
  exact run_retry_budget .postgres .prod {} (fun tt => by cases tt <;> decide) retriedRun
    (by decide +kernel)

/-- A second worker reads the task before its first attempt and is admitted after its last
one. -/
def staleReadRun : List Action :=
  .initiate (Env.numbered 0 0) { workflowId := some "wf" } ::
    (publishRow "outbox-0" 0 1 ++
      [.deliver 0 "second", .delivery 0 .readTask, .delivery 0 .readWorkflow] ++
      failEntry 1 1 2 ++ [.delivery 1 .close] ++ failEntry 1 2 3 ++ [.delivery 1 .close] ++
      failEntry 1 3 4 ++ [.delivery 1 (.ackFailed .ok), .delivery 1 .close] ++
      [.delivery 0 (.takeLease "lease-4" 5), .delivery 0 .precheck])

/-- The last step of `staleReadRun`. -/
def staleStart : Action :=
  .delivery 0 (.execute (StageEnv.numbered 5 4) (.ok {}))

/-- **Without current reads the budget does not hold.** The second worker starts the handler a
fourth time, with a policy of three attempts and after the workflow has failed for good. -/
theorem staleReadRun_exceeds_budget :
    Along (Sys.step .postgres .prod {}) Steady {} (staleReadRun ++ [staleStart]) ∧
      (∃ t ∈ (run (Sys.step .postgres .prod {}) {}
          (staleReadRun ++ [staleStart])).store.tasks.rows,
        AppConfig.prod.maxAttempts t.taskType <
          starts (Sys.step .postgres .prod {}) t.taskId {} (staleReadRun ++ [staleStart])) ∧
      ((run (Sys.step .postgres .prod {}) {} staleReadRun).startedTask staleStart = some "task-0" ∧
        ∃ w ∈ (run (Sys.step .postgres .prod {}) {} staleReadRun).store.workflows.rows,
          w.state.isTerminal = true) := by
  decide +kernel

end CartoonDemo
