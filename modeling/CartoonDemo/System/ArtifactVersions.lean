import CartoonDemo.System.Schedule

/-!
# CartoonDemo.System.ArtifactVersions

Which `create_artifact` calls of the stage handlers meet a **free version**. Collection and
topic selection run once and a generated scenario is stored under its task's own version, so
an operation that is not completed finds its version free. A review is always stored as
version `1`: the first one of a workflow finds it free, and every later one does not.
-/

namespace CartoonDemo

open WorkerLoop

/-- The handler call of an executing delivery `i`, for an operation that is not completed
yet. -/
structure FirstExecution (σ : Sys) (a : Action) (t : TaskRecord)
    (call : String × ArtifactType × Int) : Prop where
  executes : ∃ i env reply d key, a = .delivery i (.execute env reply) ∧
    σ.deliveries[i]? = some d ∧ d.phase = .executing t key ∧
    σ.store.completed key = false ∧
    createArtifactCall t.taskType (handlerContext env
      { message := d.message, task := t, idempotencyKey := key }) reply σ.store = .ok call

/-- Its version is not stored yet. -/
def FreshVersion (σ : Sys) (a : Action) : Prop :=
  ∀ t call, FirstExecution σ a t call → σ.store.hasArtifact call.1 call.2.1 call.2.2 = false

/-- A review of a workflow that has a completed review already. -/
def RepeatsReview (σ : Sys) (a : Action) : Prop :=
  ∃ t call, FirstExecution σ a t call ∧ t.taskType = .reviewScenario ∧
    ∃ n, σ.store.completed (formatIdempotencyKey t.workflowId .reviewScenario n) = true

/-- What a handler call of the system is about. -/
theorem FirstExecution.call_eq {σ : Sys} {a : Action} {t : TaskRecord}
    {call : String × ArtifactType × Int} (h : FirstExecution σ a t call) (hσ : SysSound σ) :
    ∃ n, call = (t.workflowId, stageArtifact t.taskType, stageArtifactVersion t.taskType n) ∧
      TaskSound σ.store t n ∧ σ.store.completed t.idempotencyKey = false := by
  obtain ⟨i, env, reply, d, key, -, hd, hp, hopen, hcall⟩ := h.executes
  have hds := hσ.deliveries d (List.mem_of_getElem? hd)
  obtain rfl : key = t.idempotencyKey := hds.key t key (by rw [hp]; rfl)
  obtain ⟨n, hn, hw, -⟩ := (hds.task t (by rw [hp]; rfl)).sound hσ.store
  refine ⟨n, ?_, hn, hopen⟩
  rw [createArtifactCall_ok (hn.resolveLogicalVersion d.message) hcall, ← hw]
  rfl

/-- A stored version of another stage than the review belongs to the same operation. -/
theorem completed_of_stored {s : Store} {t : TaskRecord} {n : Int} (hs : StoreSound s)
    (hn : TaskSound s t n) (hrev : t.taskType ≠ .reviewScenario)
    (h : s.hasArtifact t.workflowId (stageArtifact t.taskType)
      (stageArtifactVersion t.taskType n) = true) : s.completed t.idempotencyKey = true := by
  obtain ⟨k, hk, hfix, hdone⟩ := hs.recorded _ _ _ h
  have hkn : k = n := by
    have hnfix := hn.fixed
    cases htt : t.taskType with
    | collect => rw [hfix (Or.inl htt), hnfix (Or.inl htt)]
    | selectTopic => rw [hfix (Or.inr htt), hnfix (Or.inr htt)]
    | generateScenario =>
        rw [htt] at hk
        exact hk
    | reviewScenario => exact absurd htt hrev
  rw [hn.key, ← hkn]
  exact hdone

/-- **One step**: it stores a free version exactly when it is not a repeated review. -/
theorem freshVersion_iff {σ : Sys} (h : SysSound σ) (a : Action) :
    FreshVersion σ a ↔ ¬ RepeatsReview σ a := by
  constructor
  · intro hfresh hrep
    obtain ⟨t, call, hx, htt, n, hdone⟩ := hrep
    obtain ⟨k, rfl, -, -⟩ := hx.call_eq h
    have hstored := h.store.stored _ _ n hdone
    have hfree := hfresh t _ hx
    rw [htt] at hfree
    exact absurd (hstored.symm.trans hfree) (by simp)
  · intro hno t call hx
    obtain ⟨n, rfl, hn, hopen⟩ := hx.call_eq h
    by_contra hstored
    have hstored' : σ.store.hasArtifact t.workflowId (stageArtifact t.taskType)
        (stageArtifactVersion t.taskType n) = true := by simpa using hstored
    by_cases hrev : t.taskType = .reviewScenario
    · obtain ⟨k, -, -, hdone⟩ := h.store.recorded _ _ _ hstored'
      rw [hrev] at hdone
      exact hno ⟨t, _, hx, hrev, k, hdone⟩
    · have hdone := completed_of_stored h.store hn hrev hstored'
      exact absurd (hopen.symm.trans hdone) (by simp)

/-- **Artifact versions never collide in exactly the runs** without a second review of a
workflow. -/
theorem run_freshVersion_iff (repo : WorkflowRepoKind) (cfg : AppConfig)
    (sc : ReconciliationScanner) (as : List Action) :
    Along (Sys.step repo cfg sc) FreshVersion {} as ↔
      Along (Sys.step repo cfg sc) (fun σ a => ¬ RepeatsReview σ a) {} as := by
  have hstep : ∀ (σ : Sys) a, SysSound σ → SysSound (Sys.step repo cfg sc a σ) :=
    fun _ a h => h.step a
  exact along_congr hstep (fun _ a h => freshVersion_iff h a) sysSound_empty

/-! ### The second review

A review is stored as version 1 whichever scenario it is about, so the review of a revision
collides.
-/

/-- A scenario is generated and passes its review, a human asks for another one, and that one
is on its way to its review. -/
def secondReviewRun : List Action :=
  topicRun ++ processRow 3 4 2 0 3 (.ok {}) ++ processRow 4 6 3 0 4 (.ok {}) ++
    [.approve (Env.numbered 5 10) "wf" .requestRegeneration none] ++
    processRow 6 10 4 0 6 (.ok {}) ++ publishRow "outbox-12" 0 7 ++
    [.deliver 5 "worker", .delivery 0 .readTask, .delivery 0 .readWorkflow,
      .delivery 0 (.takeLease "lease-7" 7), .delivery 0 .precheck]

/-- The critic's call for the second scenario. -/
def secondReview : Action := .delivery 0 (.execute (StageEnv.numbered 7 7) (.ok {}))

/-- Delivery `i` executes an operation that is not completed, and its version is taken. -/
def collides (σ : Sys) (i : Nat) (env : StageEnv) (reply : AgentReply) : Bool :=
  (σ.deliveries[i]?).any fun d =>
    match d.phase with
    | .executing t key =>
        match createArtifactCall t.taskType (handlerContext env
            { message := d.message, task := t, idempotencyKey := key }) reply σ.store with
        | .ok call => !σ.store.completed key && σ.store.hasArtifact call.1 call.2.1 call.2.2
        | .error _ => false
    | _ => false

theorem not_freshVersion_of_collides {σ : Sys} {i : Nat} {env : StageEnv} {reply : AgentReply}
    (h : collides σ i env reply = true) : ¬ FreshVersion σ (.delivery i (.execute env reply)) := by
  intro hfresh
  unfold collides at h
  cases hd : σ.deliveries[i]? with
  | none => rw [hd] at h; exact absurd h (by simp)
  | some d =>
      rw [hd, Option.any_some] at h
      split at h
      · next t key hp =>
        split at h
        · next call hcall =>
          rw [Bool.and_eq_true, Bool.not_eq_true'] at h
          have hx : FirstExecution σ (.delivery i (.execute env reply)) t call :=
            ⟨⟨i, env, reply, d, key, rfl, hd, hp, h.1, hcall⟩⟩
          exact absurd (h.2.symm.trans (hfresh t call hx)) (by simp)
        · exact absurd h (by simp)
      · exact absurd h (by simp)

/-- The review of the second scenario is stored as version `1` again. -/
theorem secondReview_collides :
    ¬ Along (Sys.step .postgres .prod {}) FreshVersion {}
      (secondReviewRun ++ [secondReview]) := by
  intro h
  have hfresh := along_iff_forall_split.mp h secondReviewRun secondReview [] rfl
  exact not_freshVersion_of_collides (by decide +kernel) hfresh

end CartoonDemo
