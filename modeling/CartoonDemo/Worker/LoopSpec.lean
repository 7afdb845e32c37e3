import CartoonDemo.Workflow.EngineSpec
import CartoonDemo.Worker.Loop

/-!
# CartoonDemo.Worker.LoopSpec

What the **stage transaction** does when it commits. `StageMove` lists the seven ways a
stage can end: the state in which the workflow comes to rest and the task that is
dispatched for it. `stageTransaction_ok` says that a committed stage transaction is one of
them, and gives every table of the new store.

The transition of the stage and the bridge step after it happen in one transaction; seen
from outside the workflow goes straight to the resting state.
-/

namespace CartoonDemo

namespace WorkerLoop

open WorkflowEngine TransitionExecutor WorkflowStateGuard

/-! ### The bridge -/

/-- A bridge step leads to an active state. -/
theorem lookup_bridge_active {st : WorkflowState} {rc mx : Nat} {d : TransitionDecision}
    (hst : pauseAfterEnqueue st = true ∨ postStageBridge st = true)
    (h : TransitionTable.lookup st .stageCompleted rc mx = .ok d) :
    activeExecutionState d.toState = true := by
  cases st <;> first
    | (have hd := Except.ok.inj h; subst hd; rfl)
    | (exact absurd hst (by decide))

theorem needsBridge_state {current : TransitionResult} (h : needsBridge current = true) :
    pauseAfterEnqueue current.toState = true ∨ postStageBridge current.toState = true := by
  unfold needsBridge at h
  rw [Bool.or_eq_true, Bool.and_eq_true] at h
  exact h.imp And.right id

/-- **The bridge loop runs its body at most once**, so its result does not depend on the
fuel. -/
theorem bridgeLoop_succ_eq (repo : WorkflowRepoKind) (cfg : AppConfig) (env : Env)
    (workflowId : String) (fuel : Nat) (current : TransitionResult) (s : Store) :
    bridgeLoop repo cfg env workflowId (fuel + 1) current s =
      if needsBridge current then
        (applyTransition repo cfg env (bridgeRequest workflowId current.toState) s).map Prod.snd
      else .ok s := by
  unfold bridgeLoop
  by_cases hn : needsBridge current = true
  · rw [if_pos hn, if_pos hn]
    cases ha : applyTransition repo cfg env (bridgeRequest workflowId current.toState) s with
    | error e => rfl
    | ok p =>
        obtain ⟨next, s₁⟩ := p
        obtain ⟨w, d, -, hst, hd, -, -, hto, -⟩ := applyTransition_ok ha
        have hact : activeExecutionState next.toState = true := by
          rw [hto]
          rw [hst] at hd
          exact lookup_bridge_active (needsBridge_state hn) hd
        simp only [hact, if_true]
        rfl
  · rw [if_neg hn, if_neg hn]

theorem bridgeLoop_ok {repo : WorkflowRepoKind} {cfg : AppConfig} {env : Env}
    {workflowId : String} {current : TransitionResult} {s s' : Store}
    (h : bridgeLoop repo cfg env workflowId bridgeFuel current s = .ok s') :
    (needsBridge current = false ∧ s' = s) ∨
      (needsBridge current = true ∧ ∃ next,
        applyTransition repo cfg env (bridgeRequest workflowId current.toState) s
          = .ok (next, s')) := by
  rw [bridgeFuel, bridgeLoop_succ_eq] at h
  by_cases hn : needsBridge current = true
  · rw [if_pos hn] at h
    refine Or.inr ⟨hn, ?_⟩
    cases ha : applyTransition repo cfg env (bridgeRequest workflowId current.toState) s with
    | error e => rw [ha] at h; exact absurd h (by simp [Except.map])
    | ok p =>
        rw [ha] at h
        obtain rfl : p.2 = s' := by simpa [Except.map] using h
        exact ⟨p.1, rfl⟩
  · rw [if_neg hn] at h
    exact Or.inl ⟨by simpa using hn, (Except.ok.inj h).symm⟩

/-! ### How a stage can end

The moves of a workflow that a stage makes, with the bridge.
-/

/-- The resting state and the dispatch of a completed stage, for a task of logical version
`n` on the row `w` while the active scenario has version `a`. -/
inductive StageMove (cfg : AppConfig) (w : WorkflowRecord) (n a : Int) :
    TaskType → WorkflowState → Option (TaskType × Int) → Prop
  | collected : StageMove cfg w n a .collect .selectingTopic (some (.selectTopic, 1))
  | topicSelected :
      StageMove cfg w n a .selectTopic .generatingScenario (some (.generateScenario, max a 1))
  | noSuitableTopic : StageMove cfg w n a .selectTopic .noSuitableTopic none
  | generated :
      StageMove cfg w n a .generateScenario .reviewing (some (.reviewScenario, max n 1))
  | reviewPassed : StageMove cfg w n a .reviewScenario .awaitingHumanApproval none
  | revisionCap (h : cfg.maxScenarioRevisions ≤ w.revisionCount) :
      StageMove cfg w n a .reviewScenario .reviewFailed none
  | revised (h : w.revisionCount < cfg.maxScenarioRevisions) :
      StageMove cfg w n a .reviewScenario .generatingScenario
        (some (.generateScenario, max a 1 + 1))

/-- Of the two versions only one matters: a generated scenario is the active one by the
time the review is dispatched. -/
theorem StageMove.of_active {cfg : AppConfig} {w : WorkflowRecord} {n a c : Int} {tt : TaskType}
    {st : WorkflowState} {next : Option (TaskType × Int)} (h : StageMove cfg w c c tt st next)
    (hgen : tt = .generateScenario → c = n) (hother : tt ≠ .generateScenario → c = a) :
    StageMove cfg w n a tt st next := by
  cases h with
  | collected => exact .collected
  | topicSelected => rw [hother (by decide)]; exact .topicSelected
  | noSuitableTopic => exact .noSuitableTopic
  | generated => rw [hgen rfl]; exact .generated
  | reviewPassed => exact .reviewPassed
  | revisionCap h => exact .revisionCap h
  | revised h => rw [hother (by decide)]; exact .revised h

/-- Collection and topic selection are dispatched with version `1`. -/
theorem StageMove.fixed {cfg : AppConfig} {w : WorkflowRecord} {n a : Int} {tt : TaskType}
    {st : WorkflowState} {next : Option (TaskType × Int)} (h : StageMove cfg w n a tt st next) :
    ∀ p ∈ next, p.1 = .collect ∨ p.1 = .selectTopic → p.2 = 1 := by
  cases h <;> simp

/-- Every stage that ends leaves its state. -/
theorem StageMove.leaves {cfg : AppConfig} {w : WorkflowRecord} {n a : Int} {tt : TaskType}
    {st : WorkflowState} {next : Option (TaskType × Int)} (h : StageMove cfg w n a tt st next) :
    st ≠ expectedStateForTask tt := by
  cases h <;> decide

/-! ### Engine steps of a stage -/

/-- The tables after the engine steps of a stage, from the row `w` to the row `row`. -/
structure EngineMoved (cfg : AppConfig) (tt : TaskType) (workflowId : String) (env₁ env₂ : Env)
    (s s' : Store) (w row : WorkflowRecord) (next : Option (TaskType × Int)) (denv : Env) : Prop
    extends Moved denv workflowId s s' w row next where
  stage : w.state = expectedStateForTask tt
  move : StageMove cfg w (activeScenarioVersion s workflowId)
    (activeScenarioVersion s workflowId) tt row.state next
  drawn : denv = env₁ ∨ denv = env₂

/-- A stage that ends with its first transition. -/
theorem EngineMoved.single {cfg : AppConfig} {tt : TaskType} {env₁ env₂ : Env}
    {req : TransitionRequest} {s : Store} {w : WorkflowRecord} {d : TransitionDecision}
    (hg : s.workflows.get? req.workflowId = some w) (hst : w.state = expectedStateForTask tt)
    (hreason : (transitionRow env₁ req w d).failureReason.isSome = d.toState.carriesReason)
    (hnone : d.outboxTaskType = none)
    (hmove : StageMove cfg w (activeScenarioVersion s req.workflowId)
      (activeScenarioVersion s req.workflowId) tt d.toState none) :
    EngineMoved cfg tt req.workflowId env₁ env₂ s (transitionStore env₁ req w d s) w
      (transitionRow env₁ req w d) none env₁ where
  toMoved := by
    have hm := Moved.of_transition env₁ d hg hreason
    rw [hnone] at hm
    exact hm
  stage := hst
  move := hmove
  drawn := Or.inl rfl

/-- A stage of two engine steps, of which at most one dispatches a task. -/
theorem EngineMoved.two {cfg : AppConfig} {tt : TaskType} {env₁ env₂ denv : Env}
    {req breq : TransitionRequest} {s : Store} {w : WorkflowRecord} {d d₁ : TransitionDecision}
    {next : Option (TaskType × Int)} (hg : s.workflows.get? req.workflowId = some w)
    (hst : w.state = expectedStateForTask tt)
    (hreason : (transitionRow env₂ breq (transitionRow env₁ req w d) d₁).failureReason.isSome =
      d₁.toState.carriesReason)
    (hbreq : breq.workflowId = req.workflowId) (hdrawn : denv = env₁ ∨ denv = env₂)
    (hdisp : dispatch env₂ (OutboxSpecBuilder.buildForDecision env₂ w d₁.outboxTaskType
        d₁.incrementLogicalVersion s)
      (dispatch env₁ (OutboxSpecBuilder.buildForDecision env₁ w d.outboxTaskType
        d.incrementLogicalVersion s) s) = dispatch denv (nextBuild denv w 1 next) s)
    (hmove : StageMove cfg w (activeScenarioVersion s req.workflowId)
      (activeScenarioVersion s req.workflowId) tt d₁.toState next) :
    EngineMoved cfg tt req.workflowId env₁ env₂ s
      (transitionStore env₂ breq (transitionRow env₁ req w d) d₁ (transitionStore env₁ req w d s))
      w (transitionRow env₂ breq (transitionRow env₁ req w d) d₁) next denv := by
  have hid : w.workflowId = req.workflowId := Table.key_of_get? hg
  have hbuild := buildForDecision_congr env₂ (transitionRow_workflowId env₁ req w d)
    (transitionStore_artifacts env₁ req w d s) d₁.outboxTaskType d₁.incrementLogicalVersion
  exact {
    read := hg
    rowId := hid
    version := Nat.lt_trans (Nat.lt_succ_self _) (Nat.lt_succ_self _)
    reason := hreason
    others := by
      intro id hne
      unfold transitionStore
      rw [written_history, if_neg, List.append_nil, written_history, if_neg, List.append_nil]
      · exact hne.symm
      · change breq.workflowId ≠ id
        rw [hbreq]
        exact hne.symm
    workflows := by
      rw [transitionStore_workflows, transitionStore_workflows]
      exact Table.upsert_upsert _ rfl
    tasks := by
      rw [transitionStore, written_tasks, hbuild, ← hdisp]
      exact dispatch_tasks_congr env₂ _ (by rw [transitionStore, written_tasks])
    payloads := by
      rw [transitionStore, written_payloads, hbuild, ← hdisp]
      exact dispatch_payloads_congr env₂ _ (by rw [transitionStore, written_payloads])
    outbox := by
      rw [transitionStore, written_outbox, hbuild, ← hdisp]
      exact dispatch_outbox_congr env₂ _ (by rw [transitionStore, written_outbox])
    artifacts := by simp
    idempotency := by simp
    leases := by simp
    stage := hst
    move := hmove
    drawn := hdrawn }

/-- The bridge step after a transition to `st`, if there is one. -/
theorem bridge_cases {repo : WorkflowRepoKind} {cfg : AppConfig} {env₂ : Env}
    {workflowId : String} {current : TransitionResult} {s₁ s₂ : Store} {w₁ : WorkflowRecord}
    (hg : s₁.workflows.get? workflowId = some w₁)
    (h : bridgeLoop repo cfg env₂ workflowId bridgeFuel current s₁ = .ok s₂) :
    (needsBridge current = false ∧ s₂ = s₁) ∨
      (needsBridge current = true ∧ ∃ d₁,
        TransitionTable.lookup w₁.state .stageCompleted w₁.revisionCount
          cfg.maxScenarioRevisions = .ok d₁ ∧
        (transitionRow env₂ (bridgeRequest workflowId current.toState) w₁ d₁).failureReason.isSome =
          d₁.toState.carriesReason ∧
        s₂ = transitionStore env₂ (bridgeRequest workflowId current.toState) w₁ d₁ s₁) := by
  rcases bridgeLoop_ok h with ⟨hn, rfl⟩ | ⟨hn, next, ha⟩
  · exact Or.inl ⟨hn, rfl⟩
  · obtain ⟨w, d₁, hw, -, hd₁, hs₂, -, -, -⟩ := applyTransition_ok ha
    obtain rfl : w₁ = w := Option.some.inj (hg.symm.trans hw)
    exact Or.inr ⟨hn, d₁, hd₁, transitionRow_reason env₂ hd₁, hs₂⟩

/-- The two branches of the critic's revise. -/
theorem lookup_reviewing_revise {rc mx : Nat} {d : TransitionDecision}
    (h : TransitionTable.lookup .reviewing .criticRevise rc mx = .ok d) :
    (d = { fromState := .reviewing, toState := .reviewFailed, signal := .criticRevise,
           setFailureReason := some "max_scenario_revisions_exceeded" } ∧ mx ≤ rc) ∨
      (d = { fromState := .reviewing, toState := .revisionRequired, signal := .criticRevise,
             incrementRevisionCount := true } ∧ rc < mx) := by
  rcases (TransitionTable.lookup_cases h).2 with ⟨-, -, hle, rfl⟩ | ⟨-, -, hlt, rfl⟩ | ⟨row, hr, -⟩ | hf
  · exact Or.inl ⟨rfl, hle⟩
  · exact Or.inr ⟨rfl, hlt⟩
  · exact absurd hr (by simp [primaryMatrix])
  · exact absurd hf (by simp [TransitionTable.failureDecision])

/-- **The engine steps of a stage** that reported one of its signals: one of the moves. -/
theorem engineMoved_of_ok {repo : WorkflowRepoKind} {cfg : AppConfig} (tt : TaskType)
    {env₁ env₂ : Env} {req : TransitionRequest} {current : TransitionResult} {s s₁ s₂ : Store}
    (hexp : req.expectedState = expectedStateForTask tt) (hsig : req.signal ∈ stageSignals tt)
    (h₁ : applyTransition repo cfg env₁ req s = .ok (current, s₁))
    (h₂ : bridgeLoop repo cfg env₂ req.workflowId bridgeFuel current s₁ = .ok s₂) :
    ∃ w row next denv, EngineMoved cfg tt req.workflowId env₁ env₂ s s₂ w row next denv := by
  obtain ⟨w, d, hg, hst, hd, rfl, -, hto, henq⟩ := applyTransition_ok h₁
  rw [hexp] at hst
  have hid : w.workflowId = req.workflowId := Table.key_of_get? hg
  have hg₁ : (transitionStore env₁ req w d s).workflows.get? req.workflowId =
      some (transitionRow env₁ req w d) := by simp [hid]
  have hbr := bridge_cases hg₁ h₂
  have hreason := transitionRow_reason env₁ hd
  -- the first decision is fixed by the stage and its signal, the second by the first
  rw [hst] at hd
  cases tt with
  | collect =>
      obtain hs : req.signal = .stageCompleted := by simpa [stageSignals] using hsig
      rw [hs] at hd
      obtain rfl := Except.ok.inj hd
      rcases hbr with ⟨hn, -⟩ | ⟨-, d₁, hd₁, hr₁, rfl⟩
      · exact absurd hn (by simp [needsBridge, hto, henq, pauseAfterEnqueue])
      · obtain rfl := Except.ok.inj hd₁
        exact ⟨_, _, _, _, EngineMoved.two hg hst hr₁ rfl (Or.inl rfl) rfl .collected⟩
  | selectTopic =>
      have hs : req.signal = .stageCompleted ∨ req.signal = .noSuitableTopic := by
        simpa [stageSignals] using hsig
      rcases hs with hs | hs
      · rw [hs] at hd
        obtain rfl := Except.ok.inj hd
        rcases hbr with ⟨hn, -⟩ | ⟨-, d₁, hd₁, hr₁, rfl⟩
        · exact absurd hn (by simp [needsBridge, hto, henq, pauseAfterEnqueue])
        · obtain rfl := Except.ok.inj hd₁
          exact ⟨_, _, _, _, EngineMoved.two hg hst hr₁ rfl (Or.inl rfl) (by rw [← hid]; rfl) .topicSelected⟩
      · rw [hs] at hd
        obtain rfl := Except.ok.inj hd
        rcases hbr with ⟨-, rfl⟩ | ⟨hn, -⟩
        · exact ⟨_, _, _, _, EngineMoved.single hg hst hreason rfl .noSuitableTopic⟩
        · exact absurd hn (by simp [needsBridge, hto, pauseAfterEnqueue, postStageBridge])
  | generateScenario =>
      obtain hs : req.signal = .stageCompleted := by simpa [stageSignals] using hsig
      rw [hs] at hd
      obtain rfl := Except.ok.inj hd
      rcases hbr with ⟨hn, -⟩ | ⟨-, d₁, hd₁, hr₁, rfl⟩
      · exact absurd hn (by simp [needsBridge, hto, henq, pauseAfterEnqueue])
      · obtain rfl := Except.ok.inj hd₁
        exact ⟨_, _, _, _, EngineMoved.two hg hst hr₁ rfl (Or.inl rfl) (by rw [← hid]; rfl) .generated⟩
  | reviewScenario =>
      have hs : req.signal = .criticPass ∨ req.signal = .criticRevise := by
        simpa [stageSignals] using hsig
      rcases hs with hs | hs
      · rw [hs] at hd
        obtain rfl := Except.ok.inj hd
        rcases hbr with ⟨hn, -⟩ | ⟨-, d₁, hd₁, hr₁, rfl⟩
        · exact absurd hn (by simp [needsBridge, hto, postStageBridge])
        · obtain rfl := Except.ok.inj hd₁
          exact ⟨_, _, none, _, EngineMoved.two hg hst hr₁ rfl (Or.inl rfl) rfl .reviewPassed⟩
      · rw [hs] at hd
        obtain ⟨rfl, hle⟩ | ⟨rfl, hlt⟩ := lookup_reviewing_revise hd
        · rcases hbr with ⟨-, rfl⟩ | ⟨hn, -⟩
          · exact ⟨_, _, _, _, EngineMoved.single hg hst hreason rfl (.revisionCap hle)⟩
          · exact absurd hn (by simp [needsBridge, hto, pauseAfterEnqueue, postStageBridge])
        · rcases hbr with ⟨hn, -⟩ | ⟨-, d₁, hd₁, hr₁, rfl⟩
          · exact absurd hn (by simp [needsBridge, hto, postStageBridge])
          · obtain rfl := Except.ok.inj hd₁
            exact ⟨_, _, _, _, EngineMoved.two hg hst hr₁ rfl (Or.inr rfl) (by rw [← hid]; rfl)
              (.revised hlt)⟩

/-! ### The stage transaction -/

/-- Every table after a committed stage transaction. -/
structure StageCommitted (cfg : AppConfig) (env : StageEnv) (ctx : DeliveryContext) (n : Int)
    (s s' : Store) (w row : WorkflowRecord) (next : Option (TaskType × Int)) (denv : Env)
    (taskRow : TaskRecord) : Prop where
  read : s.workflows.get? ctx.message.workflowId = some w
  stage : w.state = expectedStateForTask ctx.task.taskType
  free : s.hasArtifact ctx.message.workflowId (stageArtifact ctx.task.taskType)
    (stageArtifactVersion ctx.task.taskType n) = false
  move : StageMove cfg w n (activeScenarioVersion s ctx.message.workflowId) ctx.task.taskType
    row.state next
  rowId : row.workflowId = ctx.message.workflowId
  version : w.stateVersion < row.stateVersion
  reason : row.failureReason.isSome = row.state.carriesReason
  others : ∀ id, id ≠ ctx.message.workflowId → s'.history id = s.history id
  workflows : s'.workflows = s.workflows.upsert row
  artifacts : s'.artifacts = withArtifact (stageRecord (handlerContext env ctx)
    (stageArtifact ctx.task.taskType) (stageArtifactVersion ctx.task.taskType n)) s.artifacts
  idempotency : ∃ record : IdempotencyRecord, record.idempotencyKey = ctx.idempotencyKey ∧
    s'.idempotency = s.idempotency.upsert record
  drawn : denv = env.transition ∨ denv = env.bridge
  payloads : s'.payloads = (dispatch denv (nextBuild denv w 1 next) s).payloads
  outbox : s'.outbox = (dispatch denv (nextBuild denv w 1 next) s).outbox
  found : (dispatch denv (nextBuild denv w 1 next) s).tasks.get? ctx.message.taskId = some taskRow
  tasks : s'.tasks = (dispatch denv (nextBuild denv w 1 next) s).tasks.upsert
    (updatedTask taskRow env.taskUpdatedAt .completed none none (some env.completedAt))
  leases : s'.leases = s.leases

/-- The scenario version that the engine finds after the handler's write: the new one for a
generated scenario, else the one before. -/
theorem activeScenarioVersion_stage {ctx : HandlerContext} {tt : TaskType} {n : Int}
    {s : Store} (s₁ : Store) (hfresh : s.artifacts.get? ctx.artifactId = none)
    (hs₁ : s₁.artifacts = withArtifact
      (stageRecord ctx (stageArtifact tt) (stageArtifactVersion tt n)) s.artifacts) :
    (tt = .generateScenario → activeScenarioVersion s₁ ctx.message.workflowId = n) ∧
      (tt ≠ .generateScenario → activeScenarioVersion s₁ ctx.message.workflowId =
        activeScenarioVersion s ctx.message.workflowId) := by
  constructor
  · intro htt
    subst htt
    have hact := getActiveArtifact_withArtifact hs₁ hfresh rfl
    change getActiveArtifact s₁ ctx.message.workflowId .scenario = _ at hact
    unfold activeScenarioVersion
    rw [hact]
    rfl
  · intro htt
    have hne : ¬ ((stageRecord ctx (stageArtifact tt) (stageArtifactVersion tt n)).workflowId
        = ctx.message.workflowId ∧ (stageRecord ctx (stageArtifact tt)
        (stageArtifactVersion tt n)).artifactType = .scenario) := by
      intro hc
      exact htt (stageArtifact_inj (hc.2 : stageArtifact tt = stageArtifact .generateScenario))
    unfold activeScenarioVersion
    rw [getActiveArtifact_withArtifact_of_ne hs₁ hfresh hne]

/-- The success path when no completion is recorded under the key: the claim goes through. -/
theorem commitSuccessPath_open {repo : WorkflowRepoKind} {cfg : AppConfig} {env : StageEnv}
    {ctx : DeliveryContext} {result : TaskHandlerResult} {s : Store}
    (hdone : result.outcome = .completed) (hkey : s.completed ctx.idempotencyKey = false) :
    commitSuccessPath repo cfg env ctx result s =
      completeStage repo cfg env ctx result
        { s with idempotency := s.idempotency.upsert (completionRecord env ctx result) } := by
  have hclaim : s.idempotency.get? ctx.idempotencyKey = none := by
    simpa [Store.completed] using hkey
  unfold commitSuccessPath
  rw [if_neg (by simp [hdone]), tryInsertIdempotency, Table.insert?_of_get?_none (by exact hclaim)]
  rfl

/-- **A committed stage transaction**, of a task whose completion was not recorded before. -/
theorem stageTransaction_ok {repo : WorkflowRepoKind} {cfg : AppConfig} {env : StageEnv}
    {ctx : DeliveryContext} {reply : AgentReply} {s s' : Store} {n : Int}
    (hn : resolveLogicalVersion s ctx.task ctx.message = .ok n)
    (hkey : s.completed ctx.idempotencyKey = false) (htask : ctx.message.taskId ≠ "")
    (hfresh : s.artifacts.get? env.artifactId = none)
    (h : stageTransaction repo cfg env ctx reply s = .ok s') :
    ∃ w row next denv taskRow, StageCommitted cfg env ctx n s s' w row next denv taskRow := by
  obtain ⟨⟨result, s₁⟩, hhandle, h⟩ := except_bind_ok h
  obtain ⟨⟨signal, hsig, rfl⟩, hfree, content, audit, hs₁⟩ := handleTask_ok hn hhandle
  have hart : s₁.artifacts = withArtifact (stageRecord (handlerContext env ctx)
      (stageArtifact ctx.task.taskType) (stageArtifactVersion ctx.task.taskType n))
      s.artifacts := by rw [hs₁]
  obtain ⟨hgen, hother⟩ := activeScenarioVersion_stage s₁ hfresh hart
  subst hs₁
  dsimp only at h
  rw [commitSuccessPath_open rfl (by exact hkey)] at h
  obtain ⟨⟨current, s₂⟩, happly, h⟩ := except_bind_ok h
  obtain ⟨s₃, hbridge, h⟩ := except_bind_ok h
  rw [if_neg htask] at h
  obtain ⟨taskRow, htaskRow, rfl⟩ := updateTask_ok h
  obtain ⟨w, row, next, denv, hm⟩ := engineMoved_of_ok ctx.task.taskType rfl hsig happly hbridge
  have htasks : s₃.tasks = (dispatch denv (nextBuild denv w 1 next) s).tasks :=
    hm.tasks.trans (dispatch_tasks_congr denv _ rfl)
  refine ⟨w, row, next, denv, taskRow, ?_⟩
  exact {
    read := hm.read
    stage := hm.stage
    free := hfree
    move := hm.move.of_active hgen hother
    rowId := hm.rowId
    version := hm.version
    reason := hm.reason
    others := hm.others
    workflows := hm.workflows
    artifacts := hm.artifacts
    idempotency := ⟨_, rfl, hm.idempotency⟩
    drawn := hm.drawn
    payloads := hm.payloads.trans (dispatch_payloads_congr denv _ rfl)
    outbox := hm.outbox.trans (dispatch_outbox_congr denv _ rfl)
    found := by rw [← htasks]; exact htaskRow
    tasks := by rw [← htasks]
    leases := hm.leases }

/-! ### When it commits

From the handler's result to the committed store.
-/

/-- The decision of a stage that reports one of its signals. -/
theorem lookup_stage {tt : TaskType} {sig : TransitionSignal} (hsig : sig ∈ stageSignals tt)
    (rc mx : Nat) :
    ∃ d, TransitionTable.lookup (expectedStateForTask tt) sig rc mx = .ok d ∧
      (d.incrementRevisionCount = true → sig = .criticRevise ∧ rc < mx) := by
  by_cases hrev : sig = .criticRevise
  · subst hrev
    obtain rfl : tt = .reviewScenario := by
      cases tt <;> first | rfl | exact absurd hsig (by simp [stageSignals])
    by_cases hle : mx ≤ rc
    · exact ⟨_, (TransitionTable.lookup_revise rc mx).trans (if_pos hle), by simp⟩
    · exact ⟨_, (TransitionTable.lookup_revise rc mx).trans (if_neg hle),
        fun _ => ⟨rfl, Nat.lt_of_not_le hle⟩⟩
  · cases tt <;> simp [stageSignals] at hsig
    case collect => subst hsig; exact ⟨_, rfl, by simp⟩
    case selectTopic => rcases hsig with rfl | rfl <;> exact ⟨_, rfl, by simp⟩
    case generateScenario => subst hsig; exact ⟨_, rfl, by simp⟩
    case reviewScenario =>
      rcases hsig with rfl | rfl
      · exact ⟨_, rfl, by simp⟩
      · exact absurd rfl hrev

theorem lookup_bridge {st : WorkflowState}
    (hst : pauseAfterEnqueue st = true ∨ postStageBridge st = true) (rc mx : Nat) :
    ∃ d, TransitionTable.lookup st .stageCompleted rc mx = .ok d ∧
      d.incrementRevisionCount = false := by
  cases st <;> first
    | exact ⟨_, rfl, rfl⟩
    | exact absurd hst (by decide)

/-- The repository accepts the transition of a stage: PostgreSQL refuses a revision count. -/
def acceptsSignal (repo : WorkflowRepoKind) (cfg : AppConfig) (w : WorkflowRecord)
    (sig : TransitionSignal) : Prop :=
  repo = .postgres → sig = .criticRevise → cfg.maxScenarioRevisions ≤ w.revisionCount

/-- **The engine steps of a stage go through** in the state of the stage. -/
theorem engineSteps_of_state {repo : WorkflowRepoKind} {cfg : AppConfig} (tt : TaskType)
    (env₁ env₂ : Env) {req : TransitionRequest} {s : Store} {w : WorkflowRecord}
    (hexp : req.expectedState = expectedStateForTask tt) (hsig : req.signal ∈ stageSignals tt)
    (hg : s.workflows.get? req.workflowId = some w) (hst : w.state = expectedStateForTask tt)
    (hacc : acceptsSignal repo cfg w req.signal) :
    ∃ current s₁ s₂, applyTransition repo cfg env₁ req s = .ok (current, s₁) ∧
      bridgeLoop repo cfg env₂ req.workflowId bridgeFuel current s₁ = .ok s₂ := by
  have hid : w.workflowId = req.workflowId := Table.key_of_get? hg
  obtain ⟨d, hd, hinc⟩ := lookup_stage hsig w.revisionCount cfg.maxScenarioRevisions
  rw [← hst] at hd
  have haccepts : repo = .postgres → d.incrementRevisionCount = false := by
    intro hrepo
    by_contra hne
    obtain ⟨hrev, hlt⟩ := hinc (by simpa using hne)
    exact absurd (hacc hrepo hrev) (Nat.not_le.mpr hlt)
  obtain ⟨current, ha⟩ :=
    applyTransition_of_lookup env₁ hg (hst.trans hexp.symm) hd haccepts
  obtain ⟨w', d', hg', -, hd', -, -, hto, -⟩ := applyTransition_ok ha
  obtain rfl : w = w' := Option.some.inj (hg.symm.trans hg')
  obtain rfl : d = d' := Except.ok.inj (hd.symm.trans hd')
  refine ⟨current, transitionStore env₁ req w d s, ?_⟩
  by_cases hn : needsBridge current = true
  · -- the bridge step leaves the state in which the first step ended
    have hbridge := needsBridge_state hn
    obtain ⟨d₁, hd₁, hinc₁⟩ := lookup_bridge hbridge
      (transitionRow env₁ req w d).revisionCount cfg.maxScenarioRevisions
    have hg₁ : (transitionStore env₁ req w d s).workflows.get?
        (bridgeRequest req.workflowId current.toState).workflowId =
        some (transitionRow env₁ req w d) := by simp [bridgeRequest, hid]
    rw [hto] at hd₁
    obtain ⟨res, ha₁⟩ : ∃ res, applyTransition repo cfg env₂
        (bridgeRequest req.workflowId current.toState) (transitionStore env₁ req w d s) =
          .ok (res, _) := applyTransition_of_lookup env₂ hg₁ hto.symm hd₁ (fun _ => hinc₁)
    rw [bridgeFuel, bridgeLoop_succ_eq, if_pos hn, ha₁]
    exact ⟨_, ha, rfl⟩
  · rw [bridgeFuel, bridgeLoop_succ_eq, if_neg hn]
    exact ⟨_, ha, rfl⟩

/-- The success path after the claim goes through in the state of the stage. -/
theorem completeStage_of_state {repo : WorkflowRepoKind} {cfg : AppConfig} {env : StageEnv}
    {ctx : DeliveryContext} {result : TaskHandlerResult} {s : Store} {w : WorkflowRecord}
    (hsig : result.transitionSignal.getD .stageCompleted ∈ stageSignals ctx.task.taskType)
    (hg : s.workflows.get? ctx.message.workflowId = some w)
    (hst : w.state = expectedStateForTask ctx.task.taskType)
    (htask : s.tasks.get? ctx.message.taskId ≠ none)
    (hacc : acceptsSignal repo cfg w (result.transitionSignal.getD .stageCompleted)) :
    ∃ s', completeStage repo cfg env ctx result s = .ok s' := by
  have hg' : s.workflows.get? (stageRequest ctx result
      (textOr result.reason "stage completed")).workflowId = some w := hg
  obtain ⟨current, s₁, s₂, ha, hb⟩ :=
    engineSteps_of_state ctx.task.taskType env.transition env.bridge rfl hsig hg' hst hacc
  obtain ⟨w', row, next, denv, hm⟩ := engineMoved_of_ok ctx.task.taskType rfl hsig ha hb
  obtain ⟨t, ht⟩ := Option.ne_none_iff_exists'.mp (hm.toMoved.task_ne_none htask)
  unfold completeStage
  rw [ha]
  dsimp only [bind, Except.bind]
  change bridgeLoop repo cfg env.bridge ctx.message.workflowId bridgeFuel current s₁ = .ok s₂ at hb
  rw [hb]
  dsimp only
  by_cases hid : ctx.message.taskId = ""
  · rw [if_pos hid]
    exact ⟨s₂, rfl⟩
  · rw [if_neg hid]
    unfold updateTask
    rw [ht]
    exact ⟨_, rfl⟩

/-- **The stage transaction commits** after a handler that returned, in the state of the stage,
when no completion is recorded under its key. -/
theorem stageTransaction_of_handled {repo : WorkflowRepoKind} {cfg : AppConfig} {env : StageEnv}
    {ctx : DeliveryContext} {reply : AgentReply} {s s₁ : Store} {n : Int} {w : WorkflowRecord}
    {result : TaskHandlerResult} (hn : resolveLogicalVersion s ctx.task ctx.message = .ok n)
    (hhandle : handleTask ctx.task.taskType (handlerContext env ctx) reply s = .ok (result, s₁))
    (hkey : s.completed ctx.idempotencyKey = false)
    (hg : s.workflows.get? ctx.message.workflowId = some w)
    (hst : w.state = expectedStateForTask ctx.task.taskType)
    (htask : s.tasks.get? ctx.message.taskId ≠ none)
    (hacc : acceptsSignal repo cfg w (result.transitionSignal.getD .stageCompleted)) :
    ∃ s', stageTransaction repo cfg env ctx reply s = .ok s' := by
  obtain ⟨⟨signal, hsig, rfl⟩, -, content, audit, rfl⟩ := handleTask_ok hn hhandle
  unfold stageTransaction
  rw [hhandle, except_ok_bind]
  dsimp only
  rw [commitSuccessPath_open rfl (by exact hkey)]
  exact completeStage_of_state hsig hg hst htask hacc

end WorkerLoop

end CartoonDemo
