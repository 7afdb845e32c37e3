import CartoonDemo.System.LeaseSpec
import CartoonDemo.System.Schedule

/-!
# CartoonDemo.System.Lineage

**What a workflow has behind it.** A stage reads the artifact of the stage before it, and the
human reads what all of them have stored. In a system that only publishers, workers, users and the
reconciler move, a workflow has an active artifact of every stage that its state lies behind: the
topic behind a generation is a selected one, and the review behind an approval is a pass. A handler
that runs therefore fails only because its agent does, or because its own version is stored already.

`Touch` lists what a step does to the rows, the artifacts and their contents; `Lineage` is kept by
each of its cases.
-/

namespace CartoonDemo

open WorkflowEngine TransitionExecutor WorkerLoop WorkflowStateGuard HandlerSupport

/-! ### The stages behind a state

What a workflow in this state must have stored.
-/

/-- The stages that a workflow in this state has behind it; a failed workflow may have none. -/
def WorkflowState.behind : WorkflowState → List TaskType
  | .created | .collecting | .failed | .failedPermanently => []
  | .collected | .selectingTopic => [.collect]
  | .noSuitableTopic | .topicSelected | .generatingScenario => [.collect, .selectTopic]
  | .scenarioGenerated | .reviewing => [.collect, .selectTopic, .generateScenario]
  | .revisionRequired | .reviewPassed | .awaitingHumanApproval | .approved | .rejected
  | .reviewFailed => [.collect, .selectTopic, .generateScenario, .reviewScenario]

/-- The states behind a selected topic. -/
def WorkflowState.hasTopic (st : WorkflowState) : Bool :=
  st.behind.contains .selectTopic && st ≠ .noSuitableTopic

/-- The states behind a passed review. -/
def WorkflowState.hasPassed : WorkflowState → Bool
  | .reviewPassed | .awaitingHumanApproval | .approved | .rejected => true
  | _ => false

/-- The content of the active artifact. -/
def activeContent (s : Store) (workflowId : String) (artifactType : ArtifactType) :
    Option ArtifactContent :=
  (getActiveArtifact s workflowId artifactType).bind fun r =>
    (s.contents.get? r.artifactId).map ArtifactContentRow.content

/-- Every stored artifact has its content. -/
def Store.contentsStored (s : Store) : Prop :=
  ∀ r ∈ s.artifacts.rows, s.contents.get? r.artifactId ≠ none

/-- An active artifact of this stage. -/
def Store.produced (s : Store) (workflowId : String) (tt : TaskType) : Prop :=
  getActiveArtifact s workflowId (stageArtifact tt) ≠ none

/-- What a workflow in this state must have stored. -/
structure Backed (s : Store) (id : String) (st : WorkflowState) : Prop where
  behind : ∀ tt ∈ st.behind, s.produced id tt
  topic : st.hasTopic = true →
    activeContent s id .topicSelection = some (.topicSelection .topicSelected)
  review : st.hasPassed = true → activeContent s id .criticReview = some (.criticReview .pass)

structure Lineage (s : Store) : Prop where
  contents : s.contentsStored
  backed : ∀ id w, s.workflows.get? id = some w → Backed s id w.state

theorem lineage_empty : Lineage {} where
  contents := by intro r hr; exact absurd hr (by simp)
  backed := by intro id w hw; exact absurd hw (by simp)

theorem WorkflowState.topic_behind {st : WorkflowState} (h : st.hasTopic = true) :
    .selectTopic ∈ st.behind := by
  revert h
  cases st <;> decide

theorem WorkflowState.review_behind {st : WorkflowState} (h : st.hasPassed = true) :
    .reviewScenario ∈ st.behind := by
  revert h
  cases st <;> decide

/-- A state with nothing behind it asks for nothing. -/
theorem Backed.of_nothing {s : Store} {id : String} {st : WorkflowState} (h : st.behind = []) :
    Backed s id st where
  behind := by intro tt htt; rw [h] at htt; exact absurd htt (by simp)
  topic := by
    intro ht
    have hmem := WorkflowState.topic_behind ht
    rw [h] at hmem
    exact absurd hmem (by simp)
  review := by
    intro ht
    have hmem := WorkflowState.review_behind ht
    rw [h] at hmem
    exact absurd hmem (by simp)

/-! ### What a stage stores -/

/-- The content that a stage ends with in this state. -/
def ContentFits : TaskType → WorkflowState → ArtifactContent → Prop
  | .selectTopic, st, content => st.hasTopic = true → content = .topicSelection .topicSelected
  | .reviewScenario, st, content => st.hasPassed = true → content = .criticReview .pass
  | .collect, _, _ | .generateScenario, _, _ => True

/-- The signal follows the content. -/
theorem handleTask_content {tt : TaskType} {ctx : HandlerContext} {reply : AgentReply}
    {s s' : Store} {res : TaskHandlerResult} (h : handleTask tt ctx reply s = .ok (res, s')) :
    ∃ content,
      s'.contents = s.contents.upsert { artifactId := ctx.artifactId, content := content } ∧
      (tt = .selectTopic → content = .topicSelection .topicSelected ∨
        res.transitionSignal = some .noSuitableTopic) ∧
      (tt = .reviewScenario → content = .criticReview .pass ∨
        res.transitionSignal = some .criticRevise) := by
  cases tt with
  | collect =>
      obtain ⟨_, -, h⟩ := except_bind_ok h
      obtain ⟨s₁, hc, h⟩ := except_bind_ok h
      obtain ⟨-, -, rfl⟩ := createStageArtifact_ok hc
      cases h
      exact ⟨_, rfl, by simp, by simp⟩
  | selectTopic =>
      obtain ⟨⟨rec, _⟩, -, h⟩ := except_bind_ok h
      obtain ⟨out, -, h⟩ := except_bind_ok h
      obtain ⟨s₁, hc, h⟩ := except_bind_ok h
      obtain ⟨-, -, rfl⟩ := createStageArtifact_ok hc
      cases h
      refine ⟨_, rfl, fun _ => ?_, by simp⟩
      cases out.topicOutcome with
      | topicSelected => exact Or.inl rfl
      | noSuitableTopic => exact Or.inr rfl
  | generateScenario =>
      obtain ⟨⟨rec, content⟩, -, h⟩ := except_bind_ok h
      obtain ⟨_, -, h⟩ := except_bind_ok h
      obtain ⟨_, -, h⟩ := except_bind_ok h
      obtain ⟨m, -, h⟩ := except_bind_ok h
      obtain ⟨s₁, hc, h⟩ := except_bind_ok h
      obtain ⟨-, -, rfl⟩ := createStageArtifact_ok hc
      cases h
      exact ⟨_, rfl, by simp, by simp⟩
  | reviewScenario =>
      obtain ⟨⟨rec, _⟩, -, h⟩ := except_bind_ok h
      obtain ⟨out, -, h⟩ := except_bind_ok h
      obtain ⟨s₁, hc, h⟩ := except_bind_ok h
      obtain ⟨-, -, rfl⟩ := createStageArtifact_ok hc
      cases h
      refine ⟨_, rfl, by simp, fun _ => ?_⟩
      cases out.criticStatus with
      | pass => exact Or.inl rfl
      | revise => exact Or.inr rfl

/-- The state in which a stage rests: that of its decision, or one bridge step further. -/
theorem completeStage_state {repo : WorkflowRepoKind} {cfg : AppConfig} {env : StageEnv}
    {ctx : DeliveryContext} {result : TaskHandlerResult} {s s' : Store}
    (h : completeStage repo cfg env ctx result s = .ok s') :
    s'.contents = s.contents ∧ ∃ w d row, s.workflows.get? ctx.message.workflowId = some w ∧
      w.state = expectedStateForTask ctx.task.taskType ∧
      TransitionTable.lookup w.state (result.transitionSignal.getD .stageCompleted)
        w.revisionCount cfg.maxScenarioRevisions = .ok d ∧
      s'.workflows.get? ctx.message.workflowId = some row ∧
      (row.state = d.toState ∨ ∃ rc d₁, TransitionTable.lookup d.toState .stageCompleted rc
        cfg.maxScenarioRevisions = .ok d₁ ∧ row.state = d₁.toState) := by
  obtain ⟨⟨current, s₁⟩, happly, h₁⟩ := except_bind_ok h
  obtain ⟨s₂, hbridge, h₂⟩ := except_bind_ok h₁
  obtain ⟨w, d, hg, hst, hd, rfl, -, -, -⟩ := applyTransition_ok happly
  have hid : w.workflowId = ctx.message.workflowId := Table.key_of_get? hg
  have hg₁ : (transitionStore env.transition
      (stageRequest ctx result (textOr result.reason "stage completed")) w d s).workflows.get?
        ctx.message.workflowId = some (transitionRow env.transition
          (stageRequest ctx result (textOr result.reason "stage completed")) w d) := by
    simp [hid]
  have hupdate : s'.contents = s₂.contents ∧ s'.workflows = s₂.workflows := by
    by_cases ht : ctx.message.taskId = ""
    · rw [if_pos ht] at h₂
      obtain rfl := Except.ok.inj h₂
      exact ⟨rfl, rfl⟩
    · rw [if_neg ht] at h₂
      obtain ⟨_, -, rfl⟩ := updateTask_ok h₂
      exact ⟨rfl, rfl⟩
  rw [hupdate.1, hupdate.2]
  rcases bridge_cases hg₁ hbridge with ⟨-, rfl⟩ | ⟨-, d₁, hd₁, -, rfl⟩
  · exact ⟨by simp [transitionStore], w, d, _, hg, hst, hd, hg₁, Or.inl rfl⟩
  · refine ⟨by simp [transitionStore], w, d, transitionRow env.bridge
      (bridgeRequest ctx.message.workflowId current.toState) (transitionRow env.transition
        (stageRequest ctx result (textOr result.reason "stage completed")) w d) d₁,
      hg, hst, hd, ?_, Or.inr ⟨_, d₁, hd₁, rfl⟩⟩
    simp [hid]

/-- **The content of a committed stage fits** the state in which the workflow rests. -/
theorem stageTransaction_content {repo : WorkflowRepoKind} {cfg : AppConfig} {env : StageEnv}
    {ctx : DeliveryContext} {reply : AgentReply} {s s' : Store} {n : Int}
    (hn : resolveLogicalVersion s ctx.task ctx.message = .ok n)
    (hkey : s.completed ctx.idempotencyKey = false)
    (h : stageTransaction repo cfg env ctx reply s = .ok s') :
    ∃ content row,
      s'.contents = s.contents.upsert { artifactId := env.artifactId, content := content } ∧
      s'.workflows.get? ctx.message.workflowId = some row ∧
      ContentFits ctx.task.taskType row.state content := by
  obtain ⟨⟨result, s₁⟩, hhandle, h⟩ := except_bind_ok h
  obtain ⟨⟨signal, -, hresult⟩, -, _, _, hs₁⟩ := handleTask_ok hn hhandle
  obtain ⟨content, hcontents, htopic, hreview⟩ := handleTask_content hhandle
  have hopen : s₁.completed ctx.idempotencyKey = false := by
    rw [hs₁]
    exact hkey
  dsimp only at h
  rw [commitSuccessPath_open (by rw [hresult]; rfl) hopen] at h
  obtain ⟨hc, w, d, row, -, hst, hd, hrow, hto⟩ := completeStage_state h
  refine ⟨content, row, hc.trans hcontents, hrow, ?_⟩
  rw [hst] at hd
  cases htt : ctx.task.taskType with
  | collect => trivial
  | generateScenario => trivial
  | selectTopic =>
      intro hhas
      refine (htopic htt).resolve_right fun hsignal => ?_
      rw [htt, hsignal] at hd
      obtain rfl := Except.ok.inj hd
      rcases hto with hto | ⟨rc, d₁, hd₁, -⟩
      · rw [hto] at hhas
        exact absurd hhas (by decide)
      · exact absurd hd₁ (by simp [TransitionTable.lookup, WorkflowState.isTerminal])
  | reviewScenario =>
      intro hhas
      refine (hreview htt).resolve_right fun hsignal => ?_
      rw [htt, hsignal] at hd
      obtain ⟨rfl, -⟩ | ⟨rfl, -⟩ := lookup_reviewing_revise hd
      · rcases hto with hto | ⟨rc, d₁, hd₁, -⟩
        · rw [hto] at hhas
          exact absurd hhas (by decide)
        · exact absurd hd₁ (by simp [TransitionTable.lookup, WorkflowState.isTerminal])
      · rcases hto with hto | ⟨rc, d₁, hd₁, hto⟩
        · rw [hto] at hhas
          exact absurd hhas (by decide)
        · obtain rfl := Except.ok.inj hd₁
          rw [hto] at hhas
          exact absurd hhas (by decide)

/-! ### What a step touches

The rows of one workflow at most, and of these the ones that its action is about.
-/

/-- How a row is moved outside of a stage. -/
inductive RowMove (s : Store) (row : WorkflowRecord) : Prop
  | created (h : s.workflows.get? row.workflowId = none) (hst : row.state = .collecting)
  | approval (w : WorkflowRecord) (action : ApprovalAction)
      (h : s.workflows.get? row.workflowId = some w) (hw : w.state = .awaitingHumanApproval)
      (hst : row.state = (approvalMatrix action).toState)
  | failed (hst : row.state = .failed ∨ row.state = .failedPermanently)

/-- **What a step does to the rows, the artifacts and their contents.** -/
inductive Touch (cfg : AppConfig) (s s' : Store) : Prop
  | nothing (hw : s'.workflows = s.workflows) (ha : s'.artifacts = s.artifacts)
      (hc : s'.contents = s.contents)
  | row (row : WorkflowRecord) (hw : s'.workflows = s.workflows.upsert row)
      (ha : s'.artifacts = s.artifacts) (hc : s'.contents = s.contents) (h : RowMove s row)
  | stage (env : StageEnv) (ctx : DeliveryContext) (n : Int) (w row : WorkflowRecord)
      (next : Option (TaskType × Int)) (denv : Env) (task : TaskRecord)
      (content : ArtifactContent) (h : Staged cfg env ctx n s s' w row next denv task)
      (hc : s'.contents = s.contents.upsert { artifactId := env.artifactId, content := content })
      (hfits : ContentFits ctx.task.taskType row.state content)

theorem Touch.refl (cfg : AppConfig) (s : Store) : Touch cfg s s := .nothing rfl rfl rfl

/-- A transition by a failure signal moves its row to a failure state. -/
theorem failure_row {repo : WorkflowRepoKind} {cfg : AppConfig} {env : Env}
    {req : TransitionRequest} {s s' : Store} {res : TransitionResult}
    (hsig : ∀ st, ∃ d, TransitionTable.failureDecision st req.signal = some d ∧
      (d.toState = .failed ∨ d.toState = .failedPermanently))
    (h : applyTransition repo cfg env req s = .ok (res, s')) :
    ∃ row, s'.workflows = s.workflows.upsert row ∧ s'.artifacts = s.artifacts ∧
      s'.contents = s.contents ∧ RowMove s row := by
  obtain ⟨w, d, -, -, hd, rfl, -, -, -⟩ := applyTransition_ok h
  obtain ⟨d', hd', hto⟩ := hsig w.state
  have hd₁ := TransitionTable.lookup_failure w.revisionCount cfg.maxScenarioRevisions
    (TransitionTable.lookup_transient hd) hd'
  obtain rfl : d' = d := Except.ok.inj (hd₁.symm.trans hd)
  exact ⟨transitionRow env req w d', by simp [transitionStore], by simp [transitionStore],
    by simp [transitionStore], .failed hto⟩

theorem Delivery.releaseStore_touch (cfg : AppConfig) (d : Delivery) (s : Store) :
    Touch cfg s (d.releaseStore s) := by
  unfold Delivery.releaseStore
  cases d.lease with
  | none => exact .refl cfg s
  | some leaseId =>
      change Touch cfg s (releaseLease leaseId s)
      unfold releaseLease
      split
      · exact .refl cfg s
      · exact .nothing rfl rfl rfl

/-- What a step of a sound delivery touches. -/
theorem delivery_touch {repo : WorkflowRepoKind} {cfg : AppConfig} {s : Store}
    {stream : List StreamEntry} {d : Delivery} {a : DeliveryAction} {e : DeliveryEffect}
    (hs : StoreSound s) (hd : DeliverySound s stream d) (h : LoopStep repo cfg s d a e) :
    Touch cfg s e.store := by
  cases h with
  | stay a => exact .refl cfg s
  | leave a hp acks hacks => exact .refl cfg s
  | crash => exact .refl cfg s
  | phase a p h hk => exact .refl cfg s
  | acquire leaseId now t hp s' h =>
      obtain ⟨leases, -, rfl⟩ := Option.map_eq_some_iff.mp h
      exact .nothing rfl rfl rfl
  | execute env reply t key hp hf err h => exact .refl cfg s
  | commit env reply t key hp hf s' h =>
      obtain rfl : key = t.idempotencyKey := hd.key t key (by rw [hp]; rfl)
      have ht : TaskKnown s d.message t := hd.task t (by rw [hp]; rfl)
      obtain ⟨n, w, row, next, denv, task, hstaged⟩ := staged_of_ok hs ht hf h
      obtain ⟨m, hm, -, -⟩ := ht.sound hs
      obtain ⟨content, row', hcontents, hrow, hfits⟩ := stageTransaction_content
        (hm.resolveLogicalVersion d.message) (stageTransaction_open hs ht h) h
      have hget : s'.workflows.get? d.message.workflowId = some row := by
        rw [hstaged.workflows, Table.get?_upsert]
        exact if_pos hstaged.rowId
      obtain rfl : row' = row := Option.some.inj (hrow.symm.trans hget)
      exact .stage env _ n w row' next denv task content hstaged hcontents hfits
  | release t key hp => exact d.releaseStore_touch cfg s
  | ack a acks h p hp => exact .refl cfg s
  | retry env readyAt t e hp attempt hdec s' h =>
      obtain ⟨existing, -, rfl⟩ := updateTask_ok h
      exact .nothing rfl rfl rfl
  | fail env readyAt t e hp tt exhausted errorClass hdec s' h =>
      obtain ⟨⟨res, s₁⟩, ha, hu⟩ := except_bind_ok h
      obtain ⟨existing, -, rfl⟩ := updateTask_ok hu
      obtain ⟨row, hw, ha, hc, hm⟩ := failure_row (fun st => by
        cases exhausted with
        | false => exact ⟨_, rfl, Or.inl rfl⟩
        | true => exact ⟨_, rfl, Or.inr rfl⟩) ha
      exact .row row hw ha hc hm
  | unhandled env readyAt t e hp hdec hr => exact .refl cfg s
  | failureRaised x t e hp => exact .refl cfg s
  | close hp => exact d.releaseStore_touch cfg s

/-- **What a step of the system touches**, engine calls from outside apart. -/
theorem step_touch (repo : WorkflowRepoKind) (cfg : AppConfig) (sc : ReconciliationScanner)
    {σ : Sys} (h : SysSound σ) {a : Action} (ho : a.origin ≠ .engine) :
    Touch cfg σ.store (Sys.step repo cfg sc a σ).store := by
  have hstep := stepStore repo cfg sc σ a
  generalize (Sys.step repo cfg sc a σ).store = s' at hstep
  cases hstep with
  | same a => exact .refl cfg σ.store
  | initiate env request res s' hf he =>
      obtain ⟨workflowId, -, hnone, rfl⟩ := initiateWorkflow_ok he
      exact .row (initiatedRow env workflowId) (by simp [initiatedStore]) (by simp [initiatedStore])
        (by simp [initiatedStore]) (.created hnone rfl)
  | approve env workflowId action actor res s' hf he =>
      obtain ⟨w, hg, hst, rfl⟩ := applyApprovalAction_ok he
      refine .row _ (by rw [written_workflows]) (by simp) (by simp) (.approval w action ?_ hst rfl)
      change σ.store.workflows.get? w.workflowId = some w
      rw [show w.workflowId = workflowId from Table.key_of_get? hg]
      exact hg
  | transition env request res s' hf he => exact absurd rfl ho
  | mark i a outboxId s' hm =>
      rw [hm.same]
      exact .nothing rfl rfl rfl
  | delivery i b d hd =>
      exact delivery_touch h.store (h.deliveries d (List.mem_of_getElem? hd))
        (loopStep repo cfg σ.backoff σ.store d b)
  | expire taskId => exact .nothing rfl rfl rfl
  | repair k env scan plan report s' hscan hp hf hr =>
      cases plan with
      | recreate w tt attempt =>
          obtain rfl := Except.ok.inj hr
          exact .nothing (dispatch_workflows ..) (dispatch_artifacts ..) (dispatch_contents ..)
      | fail w =>
          obtain ⟨res, ha⟩ := performRepair_fail_ok hr
          obtain ⟨row, hw, hart, hc, hm⟩ := failure_row (fun st => ⟨_, rfl, Or.inl rfl⟩) ha
          exact .row row hw hart hc hm

/-! ### The active artifacts after a stage -/

theorem getActiveArtifact_stored {s : Store} {id : String} {t : ArtifactType} {r : ArtifactRecord}
    (h : getActiveArtifact s id t = some r) : s.artifacts.get? r.artifactId = some r := by
  have hmem : r ∈ listActiveArtifacts s id t := List.mem_of_mem_head? h
  unfold listActiveArtifacts at hmem
  rw [List.mem_insertionSort, List.mem_filter] at hmem
  exact Table.get?_of_mem hmem.1

section Staged

variable {cfg : AppConfig} {env : StageEnv} {ctx : DeliveryContext} {n : Int} {s s' : Store}
  {w row : WorkflowRecord} {next : Option (TaskType × Int)} {denv : Env} {task : TaskRecord}
  {content : ArtifactContent}

theorem Staged.active_self (h : Staged cfg env ctx n s s' w row next denv task) :
    getActiveArtifact s' ctx.message.workflowId (stageArtifact ctx.task.taskType) =
      some (stageRecord (handlerContext env ctx) (stageArtifact ctx.task.taskType)
        (stageArtifactVersion ctx.task.taskType n)) :=
  getActiveArtifact_withArtifact h.artifacts h.freshArtifact rfl

theorem Staged.active_other (h : Staged cfg env ctx n s s' w row next denv task) {id : String}
    {tt : TaskType} (hne : ¬ (ctx.message.workflowId = id ∧ ctx.task.taskType = tt)) :
    getActiveArtifact s' id (stageArtifact tt) = getActiveArtifact s id (stageArtifact tt) :=
  getActiveArtifact_withArtifact_of_ne h.artifacts h.freshArtifact
    fun hc => hne ⟨hc.1, stageArtifact_inj hc.2⟩

/-- The stage's own content is the active one. -/
theorem Staged.content_self (h : Staged cfg env ctx n s s' w row next denv task)
    (hc : s'.contents = s.contents.upsert { artifactId := env.artifactId, content := content }) :
    activeContent s' ctx.message.workflowId (stageArtifact ctx.task.taskType) = some content := by
  unfold activeContent
  rw [h.active_self]
  change ((s'.contents.get? env.artifactId).map ArtifactContentRow.content) = some content
  rw [hc, Table.get?_upsert, if_pos rfl]
  rfl

theorem Staged.content_other (h : Staged cfg env ctx n s s' w row next denv task)
    (hc : s'.contents = s.contents.upsert { artifactId := env.artifactId, content := content })
    {id : String} {tt : TaskType}
    (hne : ¬ (ctx.message.workflowId = id ∧ ctx.task.taskType = tt)) :
    activeContent s' id (stageArtifact tt) = activeContent s id (stageArtifact tt) := by
  unfold activeContent
  rw [h.active_other hne]
  cases hact : getActiveArtifact s id (stageArtifact tt) with
  | none => rfl
  | some r =>
      -- an artifact that was active before has another identifier than the new one
      have hid : env.artifactId ≠ r.artifactId := by
        intro he
        have hfree := h.freshArtifact
        rw [he, getActiveArtifact_stored hact] at hfree
        exact absurd hfree (by simp)
      change (s'.contents.get? r.artifactId).map _ = (s.contents.get? r.artifactId).map _
      rw [hc, Table.get?_upsert, if_neg hid]

/-- **Collection, topic and review are stored once**: their version is always the first. -/
theorem Staged.once (h : Staged cfg env ctx n s s' w row next denv task) (hs : StoreSound s)
    (htt : ctx.task.taskType ≠ .generateScenario) :
    ¬ s.produced ctx.message.workflowId ctx.task.taskType := by
  intro hp
  obtain ⟨r, hr⟩ := Option.ne_none_iff_exists'.mp hp
  have hstored := hasArtifact_of_getActiveArtifact hr
  obtain ⟨m, hm, -, -⟩ := hs.recorded _ _ _ hstored
  have hfixed : ∀ k, stageArtifactVersion ctx.task.taskType k = 1 := by
    intro k
    revert htt
    cases ctx.task.taskType <;> simp [stageArtifactVersion]
  have hfree := h.free
  rw [hfixed] at hfree hm
  rw [← hm, hfree] at hstored
  exact absurd hstored (by simp)

/-- A stage takes nothing from any workflow. -/
theorem Backed.staged (h : Staged cfg env ctx n s s' w row next denv task) (hs : StoreSound s)
    (hc : s'.contents = s.contents.upsert { artifactId := env.artifactId, content := content })
    {id : String} {st : WorkflowState} (hb : Backed s id st) : Backed s' id st := by
  have hkept : ∀ tt, tt ≠ .generateScenario → tt ∈ st.behind →
      activeContent s' id (stageArtifact tt) = activeContent s id (stageArtifact tt) := by
    intro tt hne htt
    refine h.content_other hc ?_
    rintro ⟨rfl, rfl⟩
    exact h.once hs hne (hb.behind _ htt)
  refine ⟨fun tt htt => ?_, fun ht => ?_, fun ht => ?_⟩
  · unfold Store.produced
    by_cases hself : ctx.message.workflowId = id ∧ ctx.task.taskType = tt
    · obtain ⟨rfl, rfl⟩ := hself
      rw [h.active_self]
      simp
    · rw [h.active_other hself]
      exact hb.behind tt htt
  · exact (hkept .selectTopic (by decide) (WorkflowState.topic_behind ht)).trans (hb.topic ht)
  · exact (hkept .reviewScenario (by decide) (WorkflowState.review_behind ht)).trans
      (hb.review ht)

/-- A stage adds its own artifact to what the state before had behind it. -/
theorem WorkerLoop.StageMove.behind {a : Int} {tt : TaskType} {st : WorkflowState}
    (h : StageMove cfg w n a tt st next) :
    (∀ x ∈ st.behind, x = tt ∨ x ∈ (expectedStateForTask tt).behind) ∧
      (st.hasTopic = true → tt = .selectTopic ∨ (expectedStateForTask tt).hasTopic = true) ∧
      (st.hasPassed = true → tt = .reviewScenario) := by
  cases h <;> decide

/-- **The state in which a stage rests is backed.** -/
theorem Backed.of_stage (h : Staged cfg env ctx n s s' w row next denv task) (hs : StoreSound s)
    (hc : s'.contents = s.contents.upsert { artifactId := env.artifactId, content := content })
    (hfits : ContentFits ctx.task.taskType row.state content)
    (hb : Backed s ctx.message.workflowId w.state) :
    Backed s' ctx.message.workflowId row.state := by
  obtain ⟨hbehind, htopic, hpassed⟩ := h.move.behind
  have hold := hb.staged h hs hc
  rw [h.stage] at hold
  have hself := h.content_self hc
  refine ⟨fun tt htt => ?_, fun ht => ?_, fun ht => ?_⟩
  · rcases hbehind tt htt with rfl | hmem
    · unfold Store.produced
      rw [h.active_self]
      simp
    · exact hold.behind tt hmem
  · rcases htopic ht with htt | hhas
    · rw [htt] at hself hfits
      rw [show content = .topicSelection .topicSelected from hfits ht] at hself
      exact hself
    · exact hold.topic hhas
  · have htt := hpassed ht
    rw [htt] at hself hfits
    rw [show content = .criticReview .pass from hfits ht] at hself
    exact hself

end Staged

/-! ### Every step keeps the lineage -/

theorem Backed.congr {s s' : Store} (ha : s'.artifacts = s.artifacts)
    (hc : s'.contents = s.contents) {id : String} {st : WorkflowState} (h : Backed s id st) :
    Backed s' id st := by
  have hactive : ∀ t, activeContent s' id t = activeContent s id t := by
    intro t
    unfold activeContent
    rw [getActiveArtifact_congr ha, hc]
  refine ⟨fun tt htt => ?_, fun ht => ?_, fun ht => ?_⟩
  · unfold Store.produced
    rw [getActiveArtifact_congr ha]
    exact h.behind tt htt
  · exact (hactive _).trans (h.topic ht)
  · exact (hactive _).trans (h.review ht)

/-- What a workflow has behind it stays behind it. -/
theorem Backed.touch {cfg : AppConfig} {s s' : Store} (hs : StoreSound s) (ht : Touch cfg s s')
    {id : String} {st : WorkflowState} (h : Backed s id st) : Backed s' id st := by
  cases ht with
  | nothing hw ha hc => exact h.congr ha hc
  | row row hw ha hc hm => exact h.congr ha hc
  | stage env ctx n w row next denv task content hst hc hfits => exact h.staged hst hs hc

/-- An approval action moves between states that are backed alike. -/
theorem Backed.approval {s : Store} {id : String} (action : ApprovalAction)
    (h : Backed s id .awaitingHumanApproval) : Backed s id (approvalMatrix action).toState := by
  have hbehind : ∀ x ∈ (approvalMatrix action).toState.behind,
      x ∈ WorkflowState.behind .awaitingHumanApproval := by
    cases action <;> decide
  exact ⟨fun tt htt => h.behind tt (hbehind tt htt), fun _ => h.topic (by decide),
    fun _ => h.review rfl⟩

theorem RowMove.backed {s : Store} {row : WorkflowRecord} (hm : RowMove s row) (h : Lineage s) :
    Backed s row.workflowId row.state := by
  cases hm with
  | created hnone hst => exact Backed.of_nothing (by rw [hst]; rfl)
  | approval w action hg hw hst =>
      rw [hst]
      refine Backed.approval action ?_
      rw [← hw]
      exact h.backed _ w hg
  | failed hst =>
      refine Backed.of_nothing ?_
      rcases hst with hst | hst <;> rw [hst] <;> rfl

theorem Lineage.touch {cfg : AppConfig} {s s' : Store} (hs : StoreSound s) (h : Lineage s)
    (ht : Touch cfg s s') : Lineage s' := by
  have hrows : ∀ row, s'.workflows = s.workflows.upsert row →
      Backed s' row.workflowId row.state →
      ∀ id w, s'.workflows.get? id = some w → Backed s' id w.state := by
    intro row hw hrow id w hg
    rw [hw, Table.get?_upsert] at hg
    by_cases hid : row.workflowId = id
    · rw [if_pos hid] at hg
      obtain rfl := Option.some.inj hg
      rw [← hid]
      exact hrow
    · rw [if_neg hid] at hg
      exact (h.backed id w hg).touch hs ht
  cases ht with
  | nothing hw ha hc =>
      refine ⟨?_, fun id w hg => ?_⟩
      · unfold Store.contentsStored
        rw [ha, hc]
        exact h.contents
      · rw [hw] at hg
        exact (h.backed id w hg).congr ha hc
  | row row hw ha hc hm =>
      refine ⟨?_, hrows row hw ((hm.backed h).congr ha hc)⟩
      unfold Store.contentsStored
      rw [ha, hc]
      exact h.contents
  | stage env ctx n w row next denv task content hst hc hfits =>
      refine ⟨?_, hrows row hst.workflows ?_⟩
      · intro r hr
        rw [hst.artifacts, withArtifact_rows hst.freshArtifact] at hr
        rw [hc, Table.get?_upsert]
        split
        · simp
        · next hne =>
          rcases List.mem_append.mp hr with hold | hnew
          · obtain ⟨r₀, hr₀, rfl⟩ := List.mem_map.mp hold
            rw [deactivate_artifactId]
            exact h.contents r₀ hr₀
          · obtain rfl := List.mem_singleton.mp hnew
            exact absurd rfl hne
      · rw [hst.rowId]
        exact Backed.of_stage hst hs hc hfits (h.backed _ w hst.read)

/-! ### What a handler finds

The artifact that it loads is the one that the stage before has produced.
-/

/-- The artifact of a stage behind the workflow can be loaded. -/
theorem loadActiveArtifactJson_of_produced {s : Store} (h : Lineage s) (ctx : HandlerContext)
    {tt : TaskType} (hp : s.produced ctx.message.workflowId tt) :
    ∃ r content, loadActiveArtifactJson ctx (stageArtifact tt) s = .ok (r, content) ∧
      activeContent s ctx.message.workflowId (stageArtifact tt) = some content := by
  obtain ⟨r, hr⟩ := Option.ne_none_iff_exists'.mp hp
  obtain ⟨row, hrow⟩ := Option.ne_none_iff_exists'.mp
    (h.contents r (Table.mem_of_get? (getActiveArtifact_stored hr)))
  refine ⟨r, row.content, ?_, ?_⟩
  · unfold loadActiveArtifactJson getArtifactContent
    rw [hr]
    dsimp only
    rw [hrow]
  · unfold activeContent
    rw [hr]
    change (s.contents.get? r.artifactId).map _ = _
    rw [hrow]
    rfl

/-- **A backed stage gets to its agent**, and past it to `create_artifact`. -/
theorem createArtifactCall_of_backed {s : Store} (h : Lineage s) {ctx : HandlerContext}
    {tt : TaskType} {n : Int} (hn : resolveLogicalVersion s ctx.task ctx.message = .ok n)
    (hb : Backed s ctx.message.workflowId (expectedStateForTask tt)) (reply : AgentReply) :
    createArtifactCall tt ctx reply s = reply.map fun _ =>
      (ctx.message.workflowId, stageArtifact tt, stageArtifactVersion tt n) := by
  cases tt with
  | collect => cases reply <;> rfl
  | selectTopic =>
      obtain ⟨r, content, hload, -⟩ := loadActiveArtifactJson_of_produced h ctx
        (hb.behind .collect (by decide))
      unfold createArtifactCall
      dsimp only
      rw [show ArtifactType.collectedStories = stageArtifact .collect from rfl, hload]
      cases reply <;> rfl
  | generateScenario =>
      obtain ⟨r, content, hload, hcontent⟩ := loadActiveArtifactJson_of_produced h ctx
        (hb.behind .selectTopic (by decide))
      obtain rfl : content = .topicSelection .topicSelected :=
        Option.some.inj (hcontent.symm.trans (hb.topic (by decide)))
      unfold createArtifactCall
      dsimp only
      rw [show ArtifactType.topicSelection = stageArtifact .selectTopic from rfl, hload, hn]
      cases reply <;> rfl
  | reviewScenario =>
      obtain ⟨r, content, hload, -⟩ := loadActiveArtifactJson_of_produced h ctx
        (hb.behind .generateScenario (by decide))
      unfold createArtifactCall
      dsimp only
      rw [show ArtifactType.scenario = stageArtifact .generateScenario from rfl, hload]
      cases reply <;> rfl

/-- The workflow of a delivery that has passed its state check is backed for its stage. -/
structure Lineaged (σ : Sys) : Prop where
  sound : SysSound σ
  lineage : Lineage σ.store
  admitted : ∀ d ∈ σ.deliveries, ∀ t, d.phase.mayRaise = some t →
    Backed σ.store d.message.workflowId (expectedStateForTask t.taskType)

theorem lineaged_empty : Lineaged {} where
  sound := sysSound_empty
  lineage := lineage_empty
  admitted := by intro d hd; exact absurd hd (by simp)

/-- The deliveries after a step: old ones, the one that has moved, and new ones. -/
theorem mem_step_deliveries (repo : WorkflowRepoKind) (cfg : AppConfig)
    (sc : ReconciliationScanner) (σ : Sys) (a : Action) {d' : Delivery}
    (h : d' ∈ (Sys.step repo cfg sc a σ).deliveries) :
    d' ∈ σ.deliveries ∨ d'.phase = .received ∨
      ∃ d ∈ σ.deliveries, ∃ b, (d.step repo cfg σ.backoff σ.store b).next = some d' := by
  by_cases hdel : ∃ i b, a = .delivery i b
  · obtain ⟨i, b, rfl⟩ := hdel
    unfold Sys.step at h
    dsimp only at h
    split at h
    · exact Or.inl h
    · next d hd =>
      rcases mem_of_applyEffect h with hold | hnext
      · exact Or.inl hold
      · exact Or.inr (Or.inr ⟨d, List.mem_of_getElem? hd, b, hnext⟩)
  have hno : ∀ i b, a ≠ .delivery i b := fun i b hab => hdel ⟨i, b, hab⟩
  by_cases hcrash : ∃ worker, a = .crashWorker worker
  · obtain ⟨worker, rfl⟩ := hcrash
    exact Or.inl (List.mem_of_mem_filter h)
  by_cases hexpire : ∃ taskId, a = .expireLease taskId
  · obtain ⟨taskId, rfl⟩ := hexpire
    exact Or.inl h
  have hcalm : a.calm = true := by
    cases a with
    | delivery i b => exact absurd rfl (hno i b)
    | crashWorker worker => exact absurd ⟨worker, rfl⟩ hcrash
    | expireLease taskId => exact absurd ⟨taskId, rfl⟩ hexpire
    | _ => rfl
  rcases step_deliveries repo cfg sc σ a hno hcalm with hsame | ⟨n, worker, e, -, -, hnew⟩
  · rw [hsame] at h
    exact Or.inl h
  · rw [hnew] at h
    rcases List.mem_append.mp h with hold | hlast
    · exact Or.inl hold
    · obtain rfl := List.mem_singleton.mp hlast
      exact Or.inr (Or.inl rfl)

/-- A delivery passes its state check in a backed state, and its stage stays the same. -/
theorem LoopStep.admitted {repo : WorkflowRepoKind} {cfg : AppConfig} {s : Store}
    {d d' : Delivery} {b : DeliveryAction} {e : DeliveryEffect} (hl : Lineage s)
    (h : LoopStep repo cfg s d b e) (hn : e.next = some d')
    (hd : ∀ t, d.phase.mayRaise = some t →
      Backed s d.message.workflowId (expectedStateForTask t.taskType)) :
    ∀ t, d'.phase.mayRaise = some t →
      Backed s d'.message.workflowId (expectedStateForTask t.taskType) := by
  cases h with
  | leave b hp acks hacks => exact absurd hn (by simp)
  | crash => exact absurd hn (by simp)
  | close hp => exact absurd hn (by simp)
  | stay b =>
      obtain rfl := Option.some.inj hn
      exact hd
  | phase b p h hk =>
      obtain rfl := Option.some.inj hn
      generalize d.phase = q at h hd
      cases h with
      | accept t w hg hst =>
          intro t' ht'
          obtain rfl : t = t' := by simpa [Phase.mayRaise] using ht'
          rw [← hst]
          exact hl.backed _ w hg
      | read t hg => exact fun t' ht' => absurd ht' (by simp [Phase.mayRaise])
      | skip t w hg hst => exact fun t' ht' => absurd ht' (by simp [Phase.mayRaise])
      | lease t => exact hd
      | duplicate t key hk hc => exact hd
      | execute t key hk hc => exact hd
      | release t key => exact hd
      | raise q t e hr => exact fun t' ht' => absurd ht' (by simp [Phase.mayRaise])
      | handled t e => exact fun t' ht' => absurd ht' (by simp [Phase.mayRaise])
  | acquire leaseId now t hp s' h =>
      obtain rfl := Option.some.inj hn
      rw [hp] at hd
      exact hd
  | execute env reply t key hp hf err h =>
      obtain rfl := Option.some.inj hn
      exact fun t' ht' => absurd ht' (by simp [Phase.mayRaise])
  | commit env reply t key hp hf s' h =>
      obtain rfl := Option.some.inj hn
      rw [hp] at hd
      exact hd
  | release t key hp =>
      obtain rfl := Option.some.inj hn
      rw [hp] at hd
      exact hd
  | ack b acks h p hp =>
      obtain rfl := Option.some.inj hn
      rcases hp with rfl | ⟨t, err, -, rfl⟩ <;>
        exact fun t' ht' => absurd ht' (by simp [Phase.mayRaise])
  | retry env readyAt t err hp attempt hdec s' h =>
      obtain rfl := Option.some.inj hn
      exact fun t' ht' => absurd ht' (by simp [Phase.mayRaise])
  | fail env readyAt t err hp tt exhausted errorClass hdec s' h =>
      obtain rfl := Option.some.inj hn
      exact fun t' ht' => absurd ht' (by simp [Phase.mayRaise])
  | unhandled env readyAt t err hp hdec hr =>
      obtain rfl := Option.some.inj hn
      exact fun t' ht' => absurd ht' (by simp [Phase.mayRaise])
  | failureRaised x t err hp =>
      obtain rfl := Option.some.inj hn
      exact fun t' ht' => absurd ht' (by simp [Phase.mayRaise])

/-- **Every step keeps the lineage**, engine calls from outside apart. -/
theorem Lineaged.step {repo : WorkflowRepoKind} {cfg : AppConfig} {sc : ReconciliationScanner}
    {σ : Sys} (h : Lineaged σ) {a : Action} (ho : a.origin ≠ .engine) :
    Lineaged (Sys.step repo cfg sc a σ) := by
  have htouch := step_touch repo cfg sc h.sound ho
  refine ⟨h.sound.step a, h.lineage.touch h.sound.store htouch, ?_⟩
  intro d' hd' t ht
  refine Backed.touch h.sound.store htouch ?_
  rcases mem_step_deliveries repo cfg sc σ a hd' with hold | hnew | ⟨d, hd, b, hnext⟩
  · exact h.admitted d' hold t ht
  · rw [hnew] at ht
    exact absurd ht (by simp [Phase.mayRaise])
  · exact (loopStep repo cfg σ.backoff σ.store d b).admitted h.lineage hnext (h.admitted d hd) t ht

end CartoonDemo
