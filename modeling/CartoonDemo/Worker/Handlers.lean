import CartoonDemo.Library.Transaction
import CartoonDemo.Persistence.Artifacts
import CartoonDemo.Worker.Guards

/-!
# CartoonDemo.Worker.Handlers

The four **stage handlers** (`worker/handlers`). Each loads the active artifact of the
previous stage, calls the collector or its agent, stores an artifact and reports the signal
for the transition.

What the collector or agent returns is an input of the model (`AgentReply`): an exception,
or the part of the output that a handler looks at. The audit row of a failed agent call is
written in the transaction that the re-raised exception rolls back, so it leaves no trace
here. The versions given to `create_artifact` are the handlers' own.
-/

namespace CartoonDemo

/-- What an agent's output decides. Each handler reads its own part. -/
structure AgentOutput where
  topicOutcome : TopicSelectionOutcome := .topicSelected
  criticStatus : CriticStatus := .pass
  deriving DecidableEq, Repr

/-- The outcome of the collector or agent call inside a handler. -/
abbrev AgentReply := Except PyException AgentOutput

inductive TaskHandlerOutcome
  | completed | retryableFailure | permanentFailure | duplicateReused
  deriving DecidableEq, Repr

structure TaskHandlerResult where
  outcome : TaskHandlerOutcome
  transitionSignal : Option TransitionSignal := none
  reason : Option String := none
  resultArtifactId : Option String := none
  deriving DecidableEq, Repr

/-- What a handler takes from its surroundings: the delivery, the clock of
`create_artifact`, the identifier it draws and what the store answers it: `refused` is the
exception with which it turns down the rows of a free version (PostgreSQL: a content that
`JSONB` cannot hold, such as a text with a null character). -/
structure HandlerContext where
  message : TaskMessage
  task : TaskRecord
  now : Time
  artifactId : String
  refused : Option PyException := none
  deriving DecidableEq, Repr

namespace HandlerSupport

/-- `HandlerSupport.load_active_artifact_json`. -/
def loadActiveArtifactJson (ctx : HandlerContext) (artifactType : ArtifactType) (s : Store) :
    Except PyException (ArtifactRecord × ArtifactContent) :=
  match getActiveArtifact s ctx.message.workflowId artifactType with
  | none =>
      .error (.taskExecution false (executionErrorMessage ctx.message.workflowId
        ctx.message.taskId ctx.message.taskType
        ("Missing prerequisite artifact " ++ artifactType.value)))
  | some record =>
      match getArtifactContent s record.artifactId with
      | .error e => .error e
      | .ok content => .ok (record, content)

/-- The spec `HandlerSupport.create_artifact` builds. -/
def artifactSpec (ctx : HandlerContext) (artifactType : ArtifactType) (content : ArtifactContent)
    (logicalVersion : Int) : ArtifactCreateSpec :=
  { workflowId := ctx.message.workflowId, artifactType := artifactType,
    name := artifactType.value, version := logicalVersion, logicalVersion := logicalVersion,
    content := content, isActive := true }

/-- `HandlerSupport.create_artifact`. -/
def createStageArtifact (ctx : HandlerContext) (artifactType : ArtifactType)
    (content : ArtifactContent) (logicalVersion : Int) (s : Store) :
    Except PyException Store :=
  match createArtifact ctx.now ctx.artifactId
      (artifactSpec ctx artifactType content logicalVersion) s with
  | .error e => .error e
  | .ok (_, s) =>
      match ctx.refused with
      | some e => .error e
      | none => .ok s

/-- `HandlerSupport.append_ai_invocation` of a successful call. -/
def appendSuccess (ctx : HandlerContext) (agentName inputArtifactId : String) (s : Store) :
    Store :=
  appendAiInvocation
    { workflowId := ctx.message.workflowId, taskId := ctx.message.taskId,
      agentName := agentName, inputArtifactId := some inputArtifactId,
      outputArtifactId := some ctx.artifactId, attempt := ctx.message.attempt,
      status := .success } s

end HandlerSupport

open HandlerSupport

/-- The result of a handler that ran to its end. -/
def handlerCompleted (ctx : HandlerContext) (signal : TransitionSignal) : TaskHandlerResult :=
  { outcome := .completed, transitionSignal := some signal,
    resultArtifactId := some ctx.artifactId }

/-- `CollectTaskHandler.handle`. -/
def CollectTaskHandler.handle (ctx : HandlerContext) (reply : AgentReply) (s : Store) :
    Except PyException (TaskHandlerResult × Store) := do
  let _ ← reply
  let s ← createStageArtifact ctx .collectedStories .collectedStories 1 s
  return (handlerCompleted ctx .stageCompleted, s)

/-- `SelectTopicTaskHandler.handle`. -/
def SelectTopicTaskHandler.handle (ctx : HandlerContext) (reply : AgentReply) (s : Store) :
    Except PyException (TaskHandlerResult × Store) := do
  let (collected, _) ← loadActiveArtifactJson ctx .collectedStories s
  let output ← reply
  let s ← createStageArtifact ctx .topicSelection (.topicSelection output.topicOutcome) 1 s
  let s := appendSuccess ctx "topic_selector" collected.artifactId s
  let signal :=
    if output.topicOutcome = .topicSelected then .stageCompleted else .noSuitableTopic
  return (handlerCompleted ctx signal, s)

/-- The check of the topic's outcome in `GenerateScenarioTaskHandler.handle`. -/
def requireTopicSelected (ctx : HandlerContext) (content : ArtifactContent) :
    Except PyException Unit :=
  if content = .topicSelection .topicSelected then .ok ()
  else
    .error (.taskExecution false (executionErrorMessage ctx.message.workflowId ctx.message.taskId
      .generateScenario "TOPIC_SELECTION prerequisite not satisfied"))

/-- `GenerateScenarioTaskHandler.handle`. -/
def GenerateScenarioTaskHandler.handle (ctx : HandlerContext) (reply : AgentReply) (s : Store) :
    Except PyException (TaskHandlerResult × Store) := do
  let (topic, content) ← loadActiveArtifactJson ctx .topicSelection s
  requireTopicSelected ctx content
  let _ ← reply
  let logicalVersion ← resolveLogicalVersion s ctx.task ctx.message
  let s ← createStageArtifact ctx .scenario (.scenario logicalVersion) logicalVersion s
  let s := appendSuccess ctx "scenario_generator" topic.artifactId s
  return (handlerCompleted ctx .stageCompleted, s)

/-- `ReviewScenarioTaskHandler.handle`: the review is stored as version `1`, whichever
scenario version it is about. -/
def ReviewScenarioTaskHandler.handle (ctx : HandlerContext) (reply : AgentReply) (s : Store) :
    Except PyException (TaskHandlerResult × Store) := do
  let (scenario, _) ← loadActiveArtifactJson ctx .scenario s
  let output ← reply
  let s ← createStageArtifact ctx .criticReview (.criticReview output.criticStatus) 1 s
  let s := appendSuccess ctx "critic" scenario.artifactId s
  let signal := if output.criticStatus = .pass then .criticPass else .criticRevise
  return (handlerCompleted ctx signal, s)

/-- `registry.get_handler(task_type).handle`, with the repository's four handlers
registered. -/
def handleTask (taskType : TaskType) : HandlerContext → AgentReply → Store →
    Except PyException (TaskHandlerResult × Store) :=
  match taskType with
  | .collect => CollectTaskHandler.handle
  | .selectTopic => SelectTopicTaskHandler.handle
  | .generateScenario => GenerateScenarioTaskHandler.handle
  | .reviewScenario => ReviewScenarioTaskHandler.handle

/-! ### What a handler writes

One artifact, at the version of the stage.
-/

/-- The type of the artifact a stage stores. -/
def stageArtifact : TaskType → ArtifactType
  | .collect => .collectedStories
  | .selectTopic => .topicSelection
  | .generateScenario => .scenario
  | .reviewScenario => .criticReview

theorem stageArtifact_inj {tt tt' : TaskType} (h : stageArtifact tt = stageArtifact tt') :
    tt = tt' := by
  cases tt <;> cases tt' <;> first | rfl | exact absurd h (by decide)

/-- The version a stage stores its artifact under, for a task of logical version `n`. -/
def stageArtifactVersion (tt : TaskType) (n : Int) : Int :=
  match tt with
  | .generateScenario => n
  | .collect | .selectTopic | .reviewScenario => 1

/-- The signals a stage can report. -/
def stageSignals : TaskType → List TransitionSignal
  | .collect => [.stageCompleted]
  | .selectTopic => [.stageCompleted, .noSuitableTopic]
  | .generateScenario => [.stageCompleted]
  | .reviewScenario => [.criticPass, .criticRevise]

/-- The record a handler stores. -/
def stageRecord (ctx : HandlerContext) (artifactType : ArtifactType) (version : Int) :
    ArtifactRecord :=
  { artifactId := ctx.artifactId, workflowId := ctx.message.workflowId,
    artifactType := artifactType, name := artifactType.value, version := version,
    logicalVersion := version, isActive := true, createdAt := ctx.now }

theorem createStageArtifact_ok {ctx : HandlerContext} {at' : ArtifactType}
    {content : ArtifactContent} {n : Int} {s s' : Store}
    (h : createStageArtifact ctx at' content n s = .ok s') :
    s.hasArtifact ctx.message.workflowId at' n = false ∧ ctx.refused = none ∧
      s' = { s with artifacts := withArtifact (stageRecord ctx at' n) s.artifacts,
                    contents := s.contents.upsert { artifactId := ctx.artifactId,
                                                    content := content } } := by
  unfold createStageArtifact createArtifact artifactSpec at h
  dsimp only at h
  cases hdup : s.hasArtifact ctx.message.workflowId at' n with
  | true => rw [hdup] at h; exact absurd h (by simp)
  | false =>
      rw [hdup] at h
      cases hrefused : ctx.refused with
      | some e => rw [hrefused] at h; exact absurd h (by simp)
      | none =>
          rw [hrefused] at h
          cases h
          exact ⟨rfl, rfl, rfl⟩

/-- A free version is stored, unless the store refuses its rows. -/
theorem createStageArtifact_free {ctx : HandlerContext} {at' : ArtifactType}
    {content : ArtifactContent} {n : Int} {s : Store}
    (hfree : s.hasArtifact ctx.message.workflowId at' n = false) (h : ctx.refused = none) :
    ∃ s', createStageArtifact ctx at' content n s = .ok s' := by
  unfold createStageArtifact createArtifact artifactSpec
  dsimp only
  rw [hfree, h]
  exact ⟨_, rfl⟩

/-- **A handler returned**: it completed with one of its stage's signals, the version was
free, and the store has gained the stage's artifact and perhaps an audit row. -/
theorem handleTask_ok {tt : TaskType} {ctx : HandlerContext} {reply : AgentReply} {s s' : Store}
    {res : TaskHandlerResult} {n : Int} (hn : resolveLogicalVersion s ctx.task ctx.message = .ok n)
    (h : handleTask tt ctx reply s = .ok (res, s')) :
    (∃ signal ∈ stageSignals tt, res = handlerCompleted ctx signal) ∧
      s.hasArtifact ctx.message.workflowId (stageArtifact tt) (stageArtifactVersion tt n) = false ∧
      ∃ content audit, s' = { s with
        artifacts := withArtifact
          (stageRecord ctx (stageArtifact tt) (stageArtifactVersion tt n)) s.artifacts
        contents := s.contents.upsert { artifactId := ctx.artifactId, content := content }
        aiInvocations := audit } := by
  cases tt with
  | collect =>
      obtain ⟨_, -, h⟩ := except_bind_ok h
      obtain ⟨s₁, hc, h⟩ := except_bind_ok h
      obtain ⟨hfree, -, rfl⟩ := createStageArtifact_ok hc
      cases h
      exact ⟨⟨_, by simp [stageSignals], rfl⟩, hfree, _, _, rfl⟩
  | selectTopic =>
      obtain ⟨⟨rec, _⟩, -, h⟩ := except_bind_ok h
      obtain ⟨out, -, h⟩ := except_bind_ok h
      obtain ⟨s₁, hc, h⟩ := except_bind_ok h
      obtain ⟨hfree, -, rfl⟩ := createStageArtifact_ok hc
      cases h
      refine ⟨⟨_, ?_, rfl⟩, hfree, _, _, rfl⟩
      cases out.topicOutcome <;> simp [stageSignals]
  | generateScenario =>
      obtain ⟨⟨rec, content⟩, -, h⟩ := except_bind_ok h
      obtain ⟨_, -, h⟩ := except_bind_ok h
      obtain ⟨_, -, h⟩ := except_bind_ok h
      obtain ⟨m, hm, h⟩ := except_bind_ok h
      obtain rfl : m = n := Except.ok.inj (hm.symm.trans hn)
      obtain ⟨s₁, hc, h⟩ := except_bind_ok h
      obtain ⟨hfree, -, rfl⟩ := createStageArtifact_ok hc
      cases h
      exact ⟨⟨_, by simp [stageSignals], rfl⟩, hfree, _, _, rfl⟩
  | reviewScenario =>
      obtain ⟨⟨rec, _⟩, -, h⟩ := except_bind_ok h
      obtain ⟨out, -, h⟩ := except_bind_ok h
      obtain ⟨s₁, hc, h⟩ := except_bind_ok h
      obtain ⟨hfree, -, rfl⟩ := createStageArtifact_ok hc
      cases h
      refine ⟨⟨_, ?_, rfl⟩, hfree, _, _, rfl⟩
      cases out.criticStatus <;> simp [stageSignals]

/-! ### The call of `create_artifact`

It raises for a version that is taken, and for a content that the store refuses.
-/

/-- The `workflow_id`, `artifact_type` and `version` that a handler gives to
`create_artifact`; the error is what it raises when it does not get that far. -/
def createArtifactCall (taskType : TaskType) (ctx : HandlerContext) (reply : AgentReply)
    (s : Store) : Except PyException (String × ArtifactType × Int) :=
  match taskType with
  | .collect => do
      let _ ← reply
      return (ctx.message.workflowId, .collectedStories, 1)
  | .selectTopic => do
      let _ ← loadActiveArtifactJson ctx .collectedStories s
      let _ ← reply
      return (ctx.message.workflowId, .topicSelection, 1)
  | .generateScenario => do
      let (_, content) ← loadActiveArtifactJson ctx .topicSelection s
      requireTopicSelected ctx content
      let _ ← reply
      let logicalVersion ← resolveLogicalVersion s ctx.task ctx.message
      return (ctx.message.workflowId, .scenario, logicalVersion)
  | .reviewScenario => do
      let _ ← loadActiveArtifactJson ctx .scenario s
      let _ ← reply
      return (ctx.message.workflowId, .criticReview, 1)

/-- The call names the artifact of the stage. -/
theorem createArtifactCall_ok {tt : TaskType} {ctx : HandlerContext} {reply : AgentReply}
    {s : Store} {n : Int} {call : String × ArtifactType × Int}
    (hn : resolveLogicalVersion s ctx.task ctx.message = .ok n)
    (h : createArtifactCall tt ctx reply s = .ok call) :
    call = (ctx.message.workflowId, stageArtifact tt, stageArtifactVersion tt n) := by
  cases tt with
  | collect =>
      obtain ⟨_, -, h⟩ := except_bind_ok h
      exact (Except.ok.inj h).symm
  | selectTopic =>
      obtain ⟨_, -, h⟩ := except_bind_ok h
      obtain ⟨_, -, h⟩ := except_bind_ok h
      exact (Except.ok.inj h).symm
  | generateScenario =>
      obtain ⟨_, -, h⟩ := except_bind_ok h
      obtain ⟨_, -, h⟩ := except_bind_ok h
      obtain ⟨_, -, h⟩ := except_bind_ok h
      obtain ⟨m, hm, h⟩ := except_bind_ok h
      obtain rfl : m = n := Except.ok.inj (hm.symm.trans hn)
      exact (Except.ok.inj h).symm
  | reviewScenario =>
      obtain ⟨_, -, h⟩ := except_bind_ok h
      obtain ⟨_, -, h⟩ := except_bind_ok h
      exact (Except.ok.inj h).symm

/-- After its call a handler only assembles its result. -/
theorem handleTask_of_call {tt : TaskType} {ctx : HandlerContext} {reply : AgentReply}
    {s : Store} {call : String × ArtifactType × Int}
    (h : createArtifactCall tt ctx reply s = .ok call) :
    call.1 = ctx.message.workflowId ∧
      ∃ (content : ArtifactContent) (rest : Store → TaskHandlerResult × Store),
        handleTask tt ctx reply s =
          createStageArtifact ctx call.2.1 content call.2.2 s >>= fun s => .ok (rest s) := by
  cases tt with
  | collect =>
      obtain ⟨out, hr, h⟩ := except_bind_ok h
      obtain rfl := Except.ok.inj h
      unfold handleTask CollectTaskHandler.handle
      rw [hr]
      exact ⟨rfl, _, _, rfl⟩
  | selectTopic =>
      obtain ⟨loaded, hl, h⟩ := except_bind_ok h
      obtain ⟨out, hr, h⟩ := except_bind_ok h
      obtain rfl := Except.ok.inj h
      unfold handleTask SelectTopicTaskHandler.handle
      dsimp only
      rw [hl, hr]
      exact ⟨rfl, _, _, rfl⟩
  | generateScenario =>
      obtain ⟨⟨rec, content⟩, hl, h⟩ := except_bind_ok h
      obtain ⟨u, hq, h⟩ := except_bind_ok h
      obtain ⟨out, hr, h⟩ := except_bind_ok h
      obtain ⟨n, hn, h⟩ := except_bind_ok h
      obtain rfl := Except.ok.inj h
      unfold handleTask GenerateScenarioTaskHandler.handle
      dsimp only
      rw [hl, hr, hn]
      dsimp only [bind, Except.bind]
      rw [hq]
      exact ⟨rfl, _, _, rfl⟩
  | reviewScenario =>
      obtain ⟨loaded, hl, h⟩ := except_bind_ok h
      obtain ⟨out, hr, h⟩ := except_bind_ok h
      obtain rfl := Except.ok.inj h
      unfold handleTask ReviewScenarioTaskHandler.handle
      dsimp only
      rw [hl, hr]
      exact ⟨rfl, _, _, rfl⟩

/-- **A handler stands or falls with its call**: a free version that is not refused lets it
return. -/
theorem handleTask_of_free {tt : TaskType} {ctx : HandlerContext} {reply : AgentReply}
    {s : Store} {call : String × ArtifactType × Int}
    (h : createArtifactCall tt ctx reply s = .ok call)
    (hfree : s.hasArtifact call.1 call.2.1 call.2.2 = false) (hrefused : ctx.refused = none) :
    ∃ res s', handleTask tt ctx reply s = .ok (res, s') := by
  obtain ⟨hw, content, rest, heq⟩ := handleTask_of_call h
  rw [hw] at hfree
  obtain ⟨s₁, hs₁⟩ : ∃ s₁, createStageArtifact ctx call.2.1 content call.2.2 s = .ok s₁ :=
    createStageArtifact_free hfree hrefused
  rw [heq, hs₁]
  exact ⟨_, _, rfl⟩

/-- A handler that returned has made its call, with a free version that was not refused. -/
theorem createArtifactCall_of_handled {tt : TaskType} {ctx : HandlerContext} {reply : AgentReply}
    {s : Store} {p : TaskHandlerResult × Store} (h : handleTask tt ctx reply s = .ok p) :
    ∃ call, createArtifactCall tt ctx reply s = .ok call ∧
      s.hasArtifact call.1 call.2.1 call.2.2 = false ∧ ctx.refused = none := by
  cases tt with
  | collect =>
      obtain ⟨_, hr, h⟩ := except_bind_ok h
      obtain ⟨s₁, hc, -⟩ := except_bind_ok h
      obtain ⟨hfree, hrefused, -⟩ := createStageArtifact_ok hc
      refine ⟨(ctx.message.workflowId, .collectedStories, 1), ?_, hfree, hrefused⟩
      unfold createArtifactCall
      dsimp only
      rw [hr]
      rfl
  | selectTopic =>
      obtain ⟨_, hl, h⟩ := except_bind_ok h
      obtain ⟨_, hr, h⟩ := except_bind_ok h
      obtain ⟨s₁, hc, -⟩ := except_bind_ok h
      obtain ⟨hfree, hrefused, -⟩ := createStageArtifact_ok hc
      refine ⟨(ctx.message.workflowId, .topicSelection, 1), ?_, hfree, hrefused⟩
      unfold createArtifactCall
      dsimp only
      rw [hl, hr]
      rfl
  | generateScenario =>
      obtain ⟨⟨rec, content⟩, hl, h⟩ := except_bind_ok h
      obtain ⟨_, hq, h⟩ := except_bind_ok h
      obtain ⟨_, hr, h⟩ := except_bind_ok h
      obtain ⟨n, hn, h⟩ := except_bind_ok h
      obtain ⟨s₁, hc, -⟩ := except_bind_ok h
      obtain ⟨hfree, hrefused, -⟩ := createStageArtifact_ok hc
      refine ⟨(ctx.message.workflowId, .scenario, n), ?_, hfree, hrefused⟩
      unfold createArtifactCall
      dsimp only
      rw [hl, hr, hn]
      dsimp only [bind, Except.bind]
      rw [hq]
      rfl
  | reviewScenario =>
      obtain ⟨_, hl, h⟩ := except_bind_ok h
      obtain ⟨_, hr, h⟩ := except_bind_ok h
      obtain ⟨s₁, hc, -⟩ := except_bind_ok h
      obtain ⟨hfree, hrefused, -⟩ := createStageArtifact_ok hc
      refine ⟨(ctx.message.workflowId, .criticReview, 1), ?_, hfree, hrefused⟩
      unfold createArtifactCall
      dsimp only
      rw [hl, hr]
      rfl

/-- What a handler does before its call depends on artifacts and payloads only. -/
theorem createArtifactCall_congr {s s' : Store} (ha : s'.artifacts = s.artifacts)
    (hc : s'.contents = s.contents) (hp : s'.payloads = s.payloads) (tt : TaskType)
    (ctx : HandlerContext) (reply : AgentReply) :
    createArtifactCall tt ctx reply s' = createArtifactCall tt ctx reply s := by
  have hload : ∀ at', loadActiveArtifactJson ctx at' s' = loadActiveArtifactJson ctx at' s := by
    intro at'
    unfold loadActiveArtifactJson getArtifactContent
    rw [getActiveArtifact_congr ha, hc]
  have hversion : resolveLogicalVersion s' ctx.task ctx.message =
      resolveLogicalVersion s ctx.task ctx.message := by
    unfold resolveLogicalVersion payloadLogicalVersion getTaskPayload getArtifactContent
    rw [hp, hc, getActiveArtifact_congr ha]
  unfold createArtifactCall
  simp only [hload, hversion]

end CartoonDemo
