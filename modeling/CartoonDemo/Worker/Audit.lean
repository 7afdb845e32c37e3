import CartoonDemo.Library.Interrupt
import CartoonDemo.Worker.LoopSpec

/-!
# CartoonDemo.Worker.Audit

**Agent calls and their audit rows** (`worker/handlers/base.py`). `run_agent_stage` calls the
agent and, when the call raises, writes an audit row and re-raises; the row of a call that
returned is written by the handler, after its artifact. Both go to the store of the stage
transaction, which an exception rolls back.

The handlers are written here once more, in `StageM`: a handler that raises keeps what it had
written, and the calls it has made are remembered apart from the store, since no rollback
undoes a call. `stageCalls_eq` says that the stage transaction of `Worker.Loop` is what is
left of this one when the calls are forgotten.
-/

namespace CartoonDemo

/-- One call of an agent, with the exception it raised. -/
structure AgentCall where
  workflowId : String
  taskId : String
  agentName : String
  inputArtifactId : String
  attempt : Nat
  error : Option PyException
  deriving DecidableEq, Repr

/-- What a stage raises by itself after its agent call: the hook `FINJ_WKR_POST_AGENT`, the
insertion of the audit row, and the success path. What `create_artifact` raises is in
`StageEnv.refused`. -/
structure StageFaults where
  hook : Option PyException := none
  row : Option PyException := none
  commit : Option PyException := none
  deriving DecidableEq, Repr

/-- What a stage works on: the store inside its transaction, and the calls made so far. -/
structure StageState where
  store : Store
  calls : List AgentCall := []

abbrev StageM := EStateM PyException StageState

namespace StageM

/-- A read of the store. -/
def read {α : Type} (x : Store → Except PyException α) : StageM α := fun st =>
  match x st.store with
  | .ok a => .ok a st
  | .error e => .error e st

/-- A write of the store that may be refused. -/
def write (x : Store → Except PyException Store) : StageM Unit := fun st =>
  match x st.store with
  | .ok s => .ok () { st with store := s }
  | .error e => .error e st

/-- A write of the store that is always accepted. -/
def put (f : Store → Store) : StageM Unit := write (fun s => .ok (f s))

/-- A point at which the stage may raise by itself. -/
def mayRaise (fault : Option PyException) : StageM Unit := fun st =>
  match fault with
  | none => .ok () st
  | some e => .error e st

section Lemmas

variable {α : Type} {st : StageState}

theorem read_ok {x : Store → Except PyException α} {a : α} (h : x st.store = .ok a) :
    read x st = .ok a st := by
  simp only [read, h]

theorem read_error {x : Store → Except PyException α} {e : PyException}
    (h : x st.store = .error e) : read x st = .error e st := by
  simp only [read, h]

theorem write_ok {x : Store → Except PyException Store} {s : Store} (h : x st.store = .ok s) :
    write x st = .ok () { st with store := s } := by
  simp only [write, h]

theorem write_error {x : Store → Except PyException Store} {e : PyException}
    (h : x st.store = .error e) : write x st = .error e st := by
  simp only [write, h]

theorem mayRaise_none : mayRaise none st = .ok () st :=
  rfl

theorem mayRaise_some (e : PyException) : mayRaise (some e) st = .error e st :=
  rfl

end Lemmas

end StageM

namespace HandlerSupport

/-- `map_agent_error_to_invocation_status`. -/
def mapAgentErrorToInvocationStatus : Option PyException → InvocationStatus
  | none => .success
  | some (.agentValidation _ _) => .validationFailed
  | some (.provider _ timeout _ _) => if timeout then .timeout else .providerError
  | some _ => .providerError

/-- The exceptions that the `except` clause of `run_agent_stage` catches. -/
def catches : PyException → Bool
  | .provider _ _ _ _ | .agentValidation _ _ => true
  | _ => false

/-- The call that a handler makes. -/
def agentCall (ctx : HandlerContext) (agentName inputArtifactId : String) (reply : AgentReply) :
    AgentCall :=
  { workflowId := ctx.message.workflowId, taskId := ctx.message.taskId, agentName := agentName,
    inputArtifactId := inputArtifactId, attempt := ctx.message.attempt,
    error := match reply with
      | .ok _ => none
      | .error e => some e }

/-- The draft of a call that raised. -/
def failureRow (ctx : HandlerContext) (agentName inputArtifactId : String) (e : PyException) :
    AiInvocationRecord :=
  { workflowId := ctx.message.workflowId, taskId := ctx.message.taskId,
    agentName := agentName, inputArtifactId := some inputArtifactId,
    outputArtifactId := none, attempt := ctx.message.attempt,
    status := mapAgentErrorToInvocationStatus (some e) }

/-- `HandlerSupport.append_ai_invocation` of a call that raised. -/
def appendFailure (ctx : HandlerContext) (agentName inputArtifactId : String) (e : PyException)
    (s : Store) : Store :=
  appendAiInvocation (failureRow ctx agentName inputArtifactId e) s

/-- `HandlerSupport.run_agent_stage`. -/
def runAgentStage (ctx : HandlerContext) (agentName inputArtifactId : String)
    (reply : AgentReply) (faults : StageFaults) : StageM AgentOutput := do
  modify fun st => { st with calls := st.calls ++ [agentCall ctx agentName inputArtifactId reply] }
  match reply with
  | .ok output =>
      StageM.mayRaise faults.hook
      return output
  | .error e =>
      if catches e then
        StageM.mayRaise faults.row
        StageM.put (appendFailure ctx agentName inputArtifactId e)
        StageM.mayRaise faults.hook
      throw e

end HandlerSupport

open HandlerSupport

/-! ### The handlers

Each handler with the call that it makes of its agent, and the rows that it appends for it.
-/

/-- `CollectTaskHandler.handle`; it calls no agent. -/
def CollectTaskHandler.handleCalls (ctx : HandlerContext) (reply : AgentReply) :
    StageM TaskHandlerResult := do
  let _ ← StageM.read (fun _ => reply)
  StageM.write (createStageArtifact ctx .collectedStories .collectedStories 1)
  return handlerCompleted ctx .stageCompleted

/-- `SelectTopicTaskHandler.handle`. -/
def SelectTopicTaskHandler.handleCalls (ctx : HandlerContext) (reply : AgentReply)
    (faults : StageFaults) : StageM TaskHandlerResult := do
  let (collected, _) ← StageM.read (loadActiveArtifactJson ctx .collectedStories)
  let output ← runAgentStage ctx "topic_selector" collected.artifactId reply faults
  StageM.write (createStageArtifact ctx .topicSelection (.topicSelection output.topicOutcome) 1)
  StageM.mayRaise faults.row
  StageM.put (appendSuccess ctx "topic_selector" collected.artifactId)
  return handlerCompleted ctx
    (if output.topicOutcome = .topicSelected then .stageCompleted else .noSuitableTopic)

/-- `GenerateScenarioTaskHandler.handle`. -/
def GenerateScenarioTaskHandler.handleCalls (ctx : HandlerContext) (reply : AgentReply)
    (faults : StageFaults) : StageM TaskHandlerResult := do
  let (topic, content) ← StageM.read (loadActiveArtifactJson ctx .topicSelection)
  StageM.read (fun _ => requireTopicSelected ctx content)
  let _ ← runAgentStage ctx "scenario_generator" topic.artifactId reply faults
  let logicalVersion ← StageM.read (fun s => resolveLogicalVersion s ctx.task ctx.message)
  StageM.write (createStageArtifact ctx .scenario (.scenario logicalVersion) logicalVersion)
  StageM.mayRaise faults.row
  StageM.put (appendSuccess ctx "scenario_generator" topic.artifactId)
  return handlerCompleted ctx .stageCompleted

/-- `ReviewScenarioTaskHandler.handle`. -/
def ReviewScenarioTaskHandler.handleCalls (ctx : HandlerContext) (reply : AgentReply)
    (faults : StageFaults) : StageM TaskHandlerResult := do
  let (scenario, _) ← StageM.read (loadActiveArtifactJson ctx .scenario)
  let output ← runAgentStage ctx "critic" scenario.artifactId reply faults
  StageM.write (createStageArtifact ctx .criticReview (.criticReview output.criticStatus) 1)
  StageM.mayRaise faults.row
  StageM.put (appendSuccess ctx "critic" scenario.artifactId)
  return handlerCompleted ctx (if output.criticStatus = .pass then .criticPass else .criticRevise)

def handleTaskCalls (taskType : TaskType) (ctx : HandlerContext) (reply : AgentReply)
    (faults : StageFaults) : StageM TaskHandlerResult :=
  match taskType with
  | .collect => CollectTaskHandler.handleCalls ctx reply
  | .selectTopic => SelectTopicTaskHandler.handleCalls ctx reply faults
  | .generateScenario => GenerateScenarioTaskHandler.handleCalls ctx reply faults
  | .reviewScenario => ReviewScenarioTaskHandler.handleCalls ctx reply faults

/-! ### The call of a stage

What may raise between the call and its row.
-/

/-- The call that a handler makes; none if what it loads before is missing. -/
def madeCall (taskType : TaskType) (ctx : HandlerContext) (reply : AgentReply) (s : Store) :
    Option AgentCall :=
  match taskType with
  | .collect => none
  | .selectTopic =>
      match loadActiveArtifactJson ctx .collectedStories s with
      | .ok (collected, _) => some (agentCall ctx "topic_selector" collected.artifactId reply)
      | .error _ => none
  | .generateScenario =>
      match loadActiveArtifactJson ctx .topicSelection s with
      | .ok (topic, content) =>
          if content = .topicSelection .topicSelected then
            some (agentCall ctx "scenario_generator" topic.artifactId reply)
          else none
      | .error _ => none
  | .reviewScenario =>
      match loadActiveArtifactJson ctx .scenario s with
      | .ok (scenario, _) => some (agentCall ctx "critic" scenario.artifactId reply)
      | .error _ => none

/-- The calls that are to be audited: those that return or raise what `run_agent_stage`
catches. -/
def AgentCall.audited (c : AgentCall) : Bool :=
  match c.error with
  | none => true
  | some e => catches e

/-- The audit row of a call, but for the artifact that comes out of it. -/
def AgentCall.row (c : AgentCall) : AiInvocationRecord :=
  { workflowId := c.workflowId, taskId := c.taskId, agentName := c.agentName,
    inputArtifactId := some c.inputArtifactId, outputArtifactId := none, attempt := c.attempt,
    status := mapAgentErrorToInvocationStatus c.error }

/-- A call carries the reply it was answered with. -/
theorem madeCall_eq {tt : TaskType} {ctx : HandlerContext} {reply : AgentReply} {s : Store}
    {call : AgentCall} (h : madeCall tt ctx reply s = some call) :
    ∃ agentName input, call = agentCall ctx agentName input reply := by
  unfold madeCall at h
  cases tt with
  | collect => exact absurd h (by simp)
  | selectTopic =>
      dsimp only at h
      split at h
      · exact ⟨_, _, (Option.some.inj h).symm⟩
      · exact absurd h (by simp)
  | generateScenario =>
      dsimp only at h
      split at h
      · split at h
        · exact ⟨_, _, (Option.some.inj h).symm⟩
        · exact absurd h (by simp)
      · exact absurd h (by simp)
  | reviewScenario =>
      dsimp only at h
      split at h
      · exact ⟨_, _, (Option.some.inj h).symm⟩
      · exact absurd h (by simp)

theorem madeCall_returned {tt : TaskType} {ctx : HandlerContext} {output : AgentOutput}
    {s : Store} {call : AgentCall} (h : madeCall tt ctx (.ok output) s = some call) :
    call.error = none := by
  obtain ⟨agentName, input, rfl⟩ := madeCall_eq h
  rfl

/-- A call of an agent that returns is audited. -/
theorem madeCall_audited {tt : TaskType} {ctx : HandlerContext} {output : AgentOutput} {s : Store}
    {call : AgentCall} (h : madeCall tt ctx (.ok output) s = some call) : call.audited = true := by
  simp only [AgentCall.audited, madeCall_returned h]

/-- What `run_agent_stage` raises by itself: around a call that raised, the insertion of the row
comes before the hook. -/
def callRaised (faults : StageFaults) (call : Option AgentCall) : Option PyException :=
  match call with
  | none => none
  | some call =>
      match call.error with
      | none => faults.hook
      | some e => if catches e then faults.row.or faults.hook else none

theorem callRaised_quiet (call : Option AgentCall) : callRaised {} call = none := by
  unfold callRaised
  split
  · rfl
  · split
    · rfl
    · exact ite_self _

/-- What a handler raises by itself when its agent's call has returned. -/
def rowRaised (faults : StageFaults) (call : Option AgentCall) : Option PyException :=
  if call.isSome then faults.row else none

/-- A call that returned meets every fault. -/
theorem faults_quiet {faults : StageFaults} {call : AgentCall} (hcall : call.error = none)
    (hcommit : faults.commit = none) (hraised : callRaised faults (some call) = none)
    (hrow : rowRaised faults (some call) = none) : faults = {} := by
  have hhook : faults.hook = none := by
    simpa only [callRaised, hcall] using hraised
  have hnorow : faults.row = none := hrow
  cases faults with
  | mk hook row commit =>
      obtain rfl : hook = none := hhook
      obtain rfl : row = none := hnorow
      obtain rfl : commit = none := hcommit
      rfl

/-- `x`, unless the fault comes first. -/
def unlessRaised {α : Type} (fault : Option PyException) (x : Except PyException α) :
    Except PyException α :=
  match fault with
  | some e => .error e
  | none => x

theorem unlessRaised_ok {α : Type} {fault : Option PyException} {x : Except PyException α} {a : α}
    (h : unlessRaised fault x = .ok a) : fault = none ∧ x = .ok a := by
  cases fault with
  | none => exact ⟨rfl, h⟩
  | some e => exact absurd h (by simp [unlessRaised])

/-- The result of a handler, with what it raises by itself. -/
def handleTaskFaulty (taskType : TaskType) (ctx : HandlerContext) (reply : AgentReply)
    (faults : StageFaults) (s : Store) : Except PyException (TaskHandlerResult × Store) :=
  unlessRaised (callRaised faults (madeCall taskType ctx reply s)) <|
    handleTask taskType ctx reply s >>= fun p =>
      unlessRaised (rowRaised faults (madeCall taskType ctx reply s)) (.ok p)

/-- A handler with calls ends as one without, and has made the calls. -/
def Follows (calls : List AgentCall) :
    EStateM.Result PyException StageState TaskHandlerResult →
      Except PyException (TaskHandlerResult × Store) → Prop
  | .ok r st, .ok (r', s') => r = r' ∧ st = { store := s', calls := calls }
  | .error e st, .error e' => e = e' ∧ st.calls = calls
  | _, _ => False

section Calls

variable {ctx : HandlerContext} {agentName input : String} {st : StageState}
  {faults : StageFaults}

theorem runAgentStage_ok {output : AgentOutput} (h : faults.hook = none) :
    runAgentStage ctx agentName input (.ok output) faults st =
      .ok output { st with calls := st.calls ++ [agentCall ctx agentName input (.ok output)] } := by
  simp only [runAgentStage, h]
  rfl

/-- A call that `run_agent_stage` ends with an exception of its own. -/
theorem runAgentStage_faulty {reply : AgentReply} {e : PyException}
    (h : callRaised faults (some (agentCall ctx agentName input reply)) = some e) :
    ∃ s', runAgentStage ctx agentName input reply faults st =
      .error e { store := s', calls := st.calls ++ [agentCall ctx agentName input reply] } := by
  cases reply with
  | ok output =>
      have hhook : faults.hook = some e := h
      refine ⟨st.store, ?_⟩
      simp only [runAgentStage, hhook]
      rfl
  | error e₀ =>
      have h' : (if catches e₀ then faults.row.or faults.hook else none) = some e := h
      cases hc : catches e₀ with
      | false => simp [hc] at h'
      | true =>
          rw [hc, if_pos rfl] at h'
          cases hrow : faults.row with
          | some e' =>
              obtain rfl : e' = e := by simpa [hrow] using h'
              refine ⟨st.store, ?_⟩
              simp only [runAgentStage, hc, hrow, if_true]
              rfl
          | none =>
              have hhook : faults.hook = some e := by simpa [hrow] using h'
              refine ⟨appendFailure ctx agentName input e₀ st.store, ?_⟩
              simp only [runAgentStage, hc, hrow, hhook, if_true]
              rfl

/-- A call that raises: its audit row is in the store that the exception leaves. -/
theorem runAgentStage_raises {e : PyException}
    (h : callRaised faults (some (agentCall ctx agentName input (.error e))) = none) :
    runAgentStage ctx agentName input (.error e) faults st =
      .error e
        { store := if catches e then appendFailure ctx agentName input e st.store else st.store,
          calls := st.calls ++ [agentCall ctx agentName input (.error e)] } := by
  have h' : (if catches e then faults.row.or faults.hook else none) = none := h
  cases hc : catches e with
  | false =>
      simp only [runAgentStage, hc]
      rfl
  | true =>
      rw [hc, if_pos rfl, Option.or_eq_none_iff] at h'
      simp only [runAgentStage, hc, h'.1, h'.2, if_true]
      rfl

/-- The rest of a handler after its agent call. -/
theorem follows_agent {reply : AgentReply} {rest : AgentOutput → StageM TaskHandlerResult}
    {rest' : AgentOutput → Except PyException (TaskHandlerResult × Store)}
    (h : ∀ output, reply = .ok output →
      Follows (st.calls ++ [agentCall ctx agentName input reply])
        (rest output { st with calls := st.calls ++ [agentCall ctx agentName input reply] })
        (rest' output >>= fun p => unlessRaised faults.row (.ok p))) :
    Follows (st.calls ++ [agentCall ctx agentName input reply])
      ((runAgentStage ctx agentName input reply faults >>= rest) st)
      (unlessRaised (callRaised faults (some (agentCall ctx agentName input reply)))
        ((reply >>= rest') >>= fun p =>
          unlessRaised (rowRaised faults (some (agentCall ctx agentName input reply))) (.ok p))) := by
  cases hr : callRaised faults (some (agentCall ctx agentName input reply)) with
  | some e =>
      obtain ⟨s', hs'⟩ : ∃ s', runAgentStage ctx agentName input reply faults st = .error e _ :=
        runAgentStage_faulty hr
      rw [estate_bind_error hs']
      exact ⟨rfl, rfl⟩
  | none =>
      cases reply with
      | error e =>
          rw [estate_bind_error (runAgentStage_raises hr)]
          exact ⟨rfl, rfl⟩
      | ok output =>
          have hhook : faults.hook = none := hr
          rw [estate_bind_ok (runAgentStage_ok hhook)]
          exact h output rfl

/-- The end of a handler: its artifact, its audit row and its result. -/
theorem follows_finish {artifactType : ArtifactType} {content : ArtifactContent} {n : Int}
    {result : TaskHandlerResult} :
    Follows st.calls
      ((do
        StageM.write (createStageArtifact ctx artifactType content n)
        StageM.mayRaise faults.row
        StageM.put (appendSuccess ctx agentName input)
        return result : StageM TaskHandlerResult) st)
      ((do
        let s ← createStageArtifact ctx artifactType content n st.store
        let s := appendSuccess ctx agentName input s
        return (result, s)) >>= fun p => unlessRaised faults.row (.ok p)) := by
  cases hc : createStageArtifact ctx artifactType content n st.store with
  | error e =>
      rw [estate_bind_error (StageM.write_error hc)]
      exact ⟨rfl, rfl⟩
  | ok s =>
      rw [estate_bind_ok (StageM.write_ok hc)]
      cases hrow : faults.row with
      | none => exact ⟨rfl, rfl⟩
      | some e => exact ⟨rfl, rfl⟩

/-- A handler that does not find what it loads makes no call. -/
theorem follows_unloaded {α : Type} {e : PyException} {load : Store → Except PyException α}
    {rest : α → StageM TaskHandlerResult} (h : load st.store = .error e) :
    Follows st.calls ((StageM.read load >>= rest) st) (.error e) := by
  rw [estate_bind_error (StageM.read_error h)]
  exact ⟨rfl, rfl⟩

theorem CollectTaskHandler.handleCalls_follows (reply : AgentReply) :
    Follows st.calls (CollectTaskHandler.handleCalls ctx reply st)
      (CollectTaskHandler.handle ctx reply st.store) := by
  unfold CollectTaskHandler.handleCalls CollectTaskHandler.handle
  cases reply with
  | error e => exact ⟨rfl, rfl⟩
  | ok output =>
      have hread : StageM.read (fun _ => (.ok output : AgentReply)) st = .ok output st := rfl
      rw [estate_bind_ok hread]
      cases hc : createStageArtifact ctx .collectedStories .collectedStories 1 st.store with
      | error e =>
          rw [estate_bind_error (StageM.write_error hc)]
          exact ⟨rfl, rfl⟩
      | ok s =>
          rw [estate_bind_ok (StageM.write_ok hc)]
          exact ⟨rfl, rfl⟩

/-- **A handler with its calls ends as the handler without them.** -/
theorem handleTaskCalls_follows (tt : TaskType) (ctx : HandlerContext) (reply : AgentReply)
    (faults : StageFaults) (st : StageState) :
    Follows (st.calls ++ (madeCall tt ctx reply st.store).toList)
      (handleTaskCalls tt ctx reply faults st) (handleTaskFaulty tt ctx reply faults st.store) := by
  unfold handleTaskCalls handleTaskFaulty handleTask
  cases tt with
  | collect =>
      simp only [madeCall, Option.toList_none, List.append_nil]
      have hcollect : (CollectTaskHandler.handle ctx reply st.store >>= fun p =>
          unlessRaised (rowRaised faults none) (.ok p)) =
          CollectTaskHandler.handle ctx reply st.store := by
        cases CollectTaskHandler.handle ctx reply st.store <;> rfl
      change Follows _ _ (CollectTaskHandler.handle ctx reply st.store >>= fun p =>
        unlessRaised (rowRaised faults none) (.ok p))
      rw [hcollect]
      exact CollectTaskHandler.handleCalls_follows reply
  | selectTopic =>
      simp only [madeCall]
      unfold SelectTopicTaskHandler.handleCalls SelectTopicTaskHandler.handle
      cases hl : loadActiveArtifactJson ctx .collectedStories st.store with
      | error e =>
          rw [Option.toList_none, List.append_nil]
          exact follows_unloaded hl
      | ok loaded =>
          rw [estate_bind_ok (StageM.read_ok hl)]
          exact follows_agent (fun output _ => follows_finish)
  | generateScenario =>
      simp only [madeCall]
      unfold GenerateScenarioTaskHandler.handleCalls GenerateScenarioTaskHandler.handle
      cases hl : loadActiveArtifactJson ctx .topicSelection st.store with
      | error e =>
          rw [Option.toList_none, List.append_nil]
          exact follows_unloaded hl
      | ok loaded =>
          obtain ⟨topic, content⟩ := loaded
          rw [estate_bind_ok (StageM.read_ok hl)]
          dsimp only
          by_cases hcontent : content = .topicSelection .topicSelected
          · have hreq : requireTopicSelected ctx content = .ok () := if_pos hcontent
            have hread : StageM.read (fun _ => requireTopicSelected ctx content) st = .ok () st :=
              StageM.read_ok hreq
            rw [if_pos hcontent, estate_bind_ok hread, except_ok_bind, hreq, except_ok_bind]
            refine follows_agent (fun output _ => ?_)
            cases hv : resolveLogicalVersion st.store ctx.task ctx.message with
            | error e =>
                rw [estate_bind_error (StageM.read_error hv)]
                exact ⟨rfl, rfl⟩
            | ok n =>
                rw [estate_bind_ok (StageM.read_ok hv)]
                exact follows_finish
          · have hreq : requireTopicSelected ctx content = .error _ := if_neg hcontent
            rw [if_neg hcontent, Option.toList_none, List.append_nil, except_ok_bind, hreq]
            exact follows_unloaded rfl
  | reviewScenario =>
      simp only [madeCall]
      unfold ReviewScenarioTaskHandler.handleCalls ReviewScenarioTaskHandler.handle
      cases hl : loadActiveArtifactJson ctx .scenario st.store with
      | error e =>
          rw [Option.toList_none, List.append_nil]
          exact follows_unloaded hl
      | ok loaded =>
          rw [estate_bind_ok (StageM.read_ok hl)]
          exact follows_agent (fun output _ => follows_finish)

end Calls

/-! ### Results -/

/-- The signal that a stage reports for an output of its agent. -/
def stageSignal (taskType : TaskType) (output : AgentOutput) : TransitionSignal :=
  match taskType with
  | .collect | .generateScenario => .stageCompleted
  | .selectTopic =>
      if output.topicOutcome = .topicSelected then .stageCompleted else .noSuitableTopic
  | .reviewScenario => if output.criticStatus = .pass then .criticPass else .criticRevise

theorem handleTask_signal {tt : TaskType} {ctx : HandlerContext} {output : AgentOutput}
    {s s' : Store} {res : TaskHandlerResult}
    (h : handleTask tt ctx (.ok output) s = .ok (res, s')) :
    res = handlerCompleted ctx (stageSignal tt output) := by
  cases tt with
  | collect =>
      obtain ⟨out, hr, h⟩ := except_bind_ok h
      obtain ⟨s₁, -, h⟩ := except_bind_ok h
      cases h
      rfl
  | selectTopic =>
      obtain ⟨loaded, -, h⟩ := except_bind_ok h
      obtain ⟨out, hr, h⟩ := except_bind_ok h
      obtain ⟨s₁, -, h⟩ := except_bind_ok h
      obtain rfl := Except.ok.inj hr
      cases h
      rfl
  | generateScenario =>
      obtain ⟨loaded, -, h⟩ := except_bind_ok h
      obtain ⟨_, -, h⟩ := except_bind_ok h
      obtain ⟨out, -, h⟩ := except_bind_ok h
      obtain ⟨n, -, h⟩ := except_bind_ok h
      obtain ⟨s₁, -, h⟩ := except_bind_ok h
      cases h
      rfl
  | reviewScenario =>
      obtain ⟨loaded, -, h⟩ := except_bind_ok h
      obtain ⟨out, hr, h⟩ := except_bind_ok h
      obtain ⟨s₁, -, h⟩ := except_bind_ok h
      obtain rfl := Except.ok.inj hr
      cases h
      rfl

/-- A handler whose call returned goes on to `create_artifact`. -/
theorem createArtifactCall_of_made {tt : TaskType} {ctx : HandlerContext} {output : AgentOutput}
    {s : Store} {n : Int} {call : AgentCall}
    (hn : resolveLogicalVersion s ctx.task ctx.message = .ok n)
    (h : madeCall tt ctx (.ok output) s = some call) :
    createArtifactCall tt ctx (.ok output) s =
      .ok (ctx.message.workflowId, stageArtifact tt, stageArtifactVersion tt n) := by
  unfold madeCall at h
  unfold createArtifactCall
  cases tt with
  | collect => exact absurd h (by simp)
  | selectTopic =>
      cases hl : loadActiveArtifactJson ctx .collectedStories s with
      | error e => rw [hl] at h; exact absurd h (by simp)
      | ok loaded => rfl
  | generateScenario =>
      cases hl : loadActiveArtifactJson ctx .topicSelection s with
      | error e => rw [hl] at h; exact absurd h (by simp)
      | ok loaded =>
          rw [hl] at h
          dsimp only at h
          have hcontent : loaded.2 = .topicSelection .topicSelected := by
            by_contra hne
            rw [if_neg hne] at h
            exact absurd h (by simp)
          have hreq : requireTopicSelected ctx loaded.2 = .ok () := if_pos hcontent
          change (requireTopicSelected ctx loaded.2 >>= fun _ =>
            resolveLogicalVersion s ctx.task ctx.message >>= fun logicalVersion =>
              .ok (ctx.message.workflowId, ArtifactType.scenario, logicalVersion)) = _
          rw [hreq, except_ok_bind, hn]
          rfl
  | reviewScenario =>
      cases hl : loadActiveArtifactJson ctx .scenario s with
      | error e => rw [hl] at h; exact absurd h (by simp)
      | ok loaded => rfl

/-- **A handler whose call returned completes**, if its artifact is not stored yet and the store
takes it. -/
theorem handleTask_of_made {tt : TaskType} {ctx : HandlerContext} {output : AgentOutput}
    {s : Store} {n : Int} {call : AgentCall}
    (hn : resolveLogicalVersion s ctx.task ctx.message = .ok n)
    (h : madeCall tt ctx (.ok output) s = some call)
    (hfree : s.hasArtifact ctx.message.workflowId (stageArtifact tt) (stageArtifactVersion tt n)
      = false) (hrefused : ctx.refused = none) :
    ∃ s', handleTask tt ctx (.ok output) s =
      .ok (handlerCompleted ctx (stageSignal tt output), s') := by
  obtain ⟨res, s', hok⟩ := handleTask_of_free (createArtifactCall_of_made hn h) hfree hrefused
  refine ⟨s', ?_⟩
  rw [hok, ← handleTask_signal hok]

/-! ### Audit rows

Rows are compared without the artifact that they name.
-/

/-- The part of an audit row that is about the call. -/
def AiInvocationRecord.ofCall (r : AiInvocationRecord) : AiInvocationRecord :=
  { r with outputArtifactId := none }

/-- The audit rows of a store, as far as they are about calls. -/
def Store.auditRows (s : Store) : List AiInvocationRecord :=
  s.aiInvocations.map AiInvocationRecord.ofCall

theorem auditRows_congr {s s' : Store} (h : s'.aiInvocations = s.aiInvocations) :
    s'.auditRows = s.auditRows := by
  unfold Store.auditRows
  rw [h]

theorem createStageArtifact_aiInvocations {ctx : HandlerContext} {at' : ArtifactType}
    {content : ArtifactContent} {n : Int} {s s' : Store}
    (h : createStageArtifact ctx at' content n s = .ok s') :
    s'.aiInvocations = s.aiInvocations := by
  obtain ⟨-, -, rfl⟩ := createStageArtifact_ok h
  rfl

/-- The row that a handler writes at its end is the row of its call. -/
theorem auditRows_appendSuccess (ctx : HandlerContext) (agentName input : String)
    (output : AgentOutput) (s : Store) :
    (appendSuccess ctx agentName input s).auditRows =
      s.auditRows ++ [(agentCall ctx agentName input (.ok output)).row] := by
  unfold Store.auditRows appendSuccess appendAiInvocation
  rw [List.map_append]
  rfl

/-- **A handler that returned has called its agent, if it has one, without an exception, and has
written the row of the call.** -/
theorem handleTask_audit {tt : TaskType} {ctx : HandlerContext} {reply : AgentReply}
    {s s' : Store} {res : TaskHandlerResult} (h : handleTask tt ctx reply s = .ok (res, s')) :
    s'.auditRows = s.auditRows ++ ((madeCall tt ctx reply s).map AgentCall.row).toList ∧
      ∃ output, reply = .ok output := by
  cases tt with
  | collect =>
      obtain ⟨output, hr, h⟩ := except_bind_ok h
      obtain ⟨s₁, hc, h⟩ := except_bind_ok h
      cases h
      refine ⟨?_, output, hr⟩
      rw [auditRows_congr (createStageArtifact_aiInvocations hc)]
      exact (List.append_nil _).symm
  | selectTopic =>
      obtain ⟨⟨collected, _⟩, hl, h⟩ := except_bind_ok h
      obtain ⟨output, hr, h⟩ := except_bind_ok h
      obtain ⟨s₁, hc, h⟩ := except_bind_ok h
      cases h
      refine ⟨?_, output, hr⟩
      rw [auditRows_appendSuccess ctx _ _ output,
        auditRows_congr (createStageArtifact_aiInvocations hc)]
      simp only [madeCall, hl, hr]
      rfl
  | generateScenario =>
      obtain ⟨⟨topic, content⟩, hl, h⟩ := except_bind_ok h
      obtain ⟨_, hreq, h⟩ := except_bind_ok h
      obtain ⟨output, hr, h⟩ := except_bind_ok h
      obtain ⟨n, -, h⟩ := except_bind_ok h
      obtain ⟨s₁, hc, h⟩ := except_bind_ok h
      cases h
      refine ⟨?_, output, hr⟩
      have hcontent : content = .topicSelection .topicSelected := by
        by_contra hne
        rw [requireTopicSelected, if_neg hne] at hreq
        exact absurd hreq (by simp)
      rw [auditRows_appendSuccess ctx _ _ output,
        auditRows_congr (createStageArtifact_aiInvocations hc)]
      simp only [madeCall, hl, hr, if_pos hcontent]
      rfl
  | reviewScenario =>
      obtain ⟨⟨scenario, _⟩, hl, h⟩ := except_bind_ok h
      obtain ⟨output, hr, h⟩ := except_bind_ok h
      obtain ⟨s₁, hc, h⟩ := except_bind_ok h
      cases h
      refine ⟨?_, output, hr⟩
      rw [auditRows_appendSuccess ctx _ _ output,
        auditRows_congr (createStageArtifact_aiInvocations hc)]
      simp only [madeCall, hl, hr]
      rfl

namespace WorkerLoop

open WorkflowEngine

/-- What a rolled-back stage leaves: its calls. -/
def keepCalls (before reached : StageState) : StageState := { reached with store := before.store }

/-- The transaction of `_process_delivery`, with the calls it makes. -/
def stageCalls (repo : WorkflowRepoKind) (cfg : AppConfig) (env : StageEnv)
    (ctx : DeliveryContext) (reply : AgentReply) (faults : StageFaults) : StageM Unit :=
  rollback keepCalls do
    let result ← handleTaskCalls ctx.task.taskType (handlerContext env ctx) reply faults
    StageM.mayRaise faults.commit
    StageM.write (commitSuccessPath repo cfg env ctx result)

/-- The call that a stage makes. -/
def stageCall (env : StageEnv) (ctx : DeliveryContext) (reply : AgentReply) (s : Store) :
    Option AgentCall :=
  madeCall ctx.task.taskType (handlerContext env ctx) reply s

/-- How a stage ends, with what it raises by itself. -/
def stageOutcome (repo : WorkflowRepoKind) (cfg : AppConfig) (env : StageEnv)
    (ctx : DeliveryContext) (reply : AgentReply) (faults : StageFaults) (s : Store) :
    Except PyException Store :=
  handleTaskFaulty ctx.task.taskType (handlerContext env ctx) reply faults s >>= fun p =>
    unlessRaised faults.commit (commitSuccessPath repo cfg env ctx p.1 p.2)

/-- A stage that commits does what it does without faults. -/
theorem stageOutcome_ok {repo : WorkflowRepoKind} {cfg : AppConfig} {env : StageEnv}
    {ctx : DeliveryContext} {reply : AgentReply} {faults : StageFaults} {s s' : Store}
    (h : stageOutcome repo cfg env ctx reply faults s = .ok s') :
    stageTransaction repo cfg env ctx reply s = .ok s' ∧ faults.commit = none ∧
      callRaised faults (stageCall env ctx reply s) = none ∧
      rowRaised faults (stageCall env ctx reply s) = none := by
  obtain ⟨p, hhandle, h⟩ := except_bind_ok h
  obtain ⟨hcommit, h⟩ := unlessRaised_ok h
  obtain ⟨hcall, hhandle⟩ := unlessRaised_ok hhandle
  obtain ⟨q, hq, hrow⟩ := except_bind_ok hhandle
  obtain ⟨hnorow, hpq⟩ := unlessRaised_ok hrow
  obtain rfl : q = p := Except.ok.inj hpq
  refine ⟨?_, hcommit, hcall, hnorow⟩
  unfold stageTransaction
  rw [hq]
  exact h

/-- A stage without faults. -/
theorem stageOutcome_quiet (repo : WorkflowRepoKind) (cfg : AppConfig) (env : StageEnv)
    (ctx : DeliveryContext) (reply : AgentReply) (s : Store) :
    stageOutcome repo cfg env ctx reply {} s = stageTransaction repo cfg env ctx reply s := by
  have hcall : callRaised {} (stageCall env ctx reply s) = none := callRaised_quiet _
  have hrow : rowRaised {} (stageCall env ctx reply s) = none := ite_self _
  unfold stageOutcome handleTaskFaulty stageTransaction
  unfold stageCall at hcall hrow
  rw [hcall, hrow]
  change ((handleTask ctx.task.taskType (handlerContext env ctx) reply s >>= fun p => .ok p) >>=
    fun p => commitSuccessPath repo cfg env ctx p.1 p.2) = _
  cases handleTask ctx.task.taskType (handlerContext env ctx) reply s <;> rfl

/-- **The stage transaction with its calls**: it commits or rolls back as the one without them,
and the calls stay. -/
theorem stageCalls_eq (repo : WorkflowRepoKind) (cfg : AppConfig) (env : StageEnv)
    (ctx : DeliveryContext) (reply : AgentReply) (faults : StageFaults) (st : StageState) :
    stageCalls repo cfg env ctx reply faults st =
      match stageOutcome repo cfg env ctx reply faults st.store with
      | .ok s => .ok () { store := s, calls := st.calls ++ (stageCall env ctx reply st.store).toList }
      | .error e =>
          .error e { store := st.store,
                     calls := st.calls ++ (stageCall env ctx reply st.store).toList } := by
  have hfollows :=
    handleTaskCalls_follows ctx.task.taskType (handlerContext env ctx) reply faults st
  unfold stageCalls stageOutcome stageCall
  revert hfollows
  cases handleTaskFaulty ctx.task.taskType (handlerContext env ctx) reply faults st.store with
  | error e =>
      cases hh : handleTaskCalls ctx.task.taskType (handlerContext env ctx) reply faults st with
      | ok r st' => exact fun h => h.elim
      | error e' st' =>
          intro h
          obtain ⟨rfl, hcalls⟩ := h
          rw [rollback_error (estate_bind_error hh), except_error_bind, ← hcalls]
          rfl
  | ok p =>
      cases hh : handleTaskCalls ctx.task.taskType (handlerContext env ctx) reply faults st with
      | error e' st' => exact fun h => h.elim
      | ok r st' =>
          intro h
          obtain ⟨rfl, rfl⟩ := h
          rw [except_ok_bind]
          cases hf : faults.commit with
          | some e =>
              rw [rollback_error ((estate_bind_ok hh).trans
                (estate_bind_error (StageM.mayRaise_some e)))]
              rfl
          | none =>
              cases hc : commitSuccessPath repo cfg env ctx p.1 p.2 with
              | error e =>
                  rw [rollback_error ((estate_bind_ok hh).trans
                    ((estate_bind_ok StageM.mayRaise_none).trans (StageM.write_error hc)))]
                  simp only [unlessRaised]
                  rfl
              | ok s =>
                  rw [rollback_ok ((estate_bind_ok hh).trans
                    ((estate_bind_ok StageM.mayRaise_none).trans (StageM.write_ok hc)))]
                  simp only [unlessRaised]

/-! ### What a committed stage adds -/

theorem bridgeLoop_aiInvocations {repo : WorkflowRepoKind} {cfg : AppConfig} {env : Env}
    {workflowId : String} {current : TransitionResult} {s s' : Store}
    (h : bridgeLoop repo cfg env workflowId bridgeFuel current s = .ok s') :
    s'.aiInvocations = s.aiInvocations := by
  rcases bridgeLoop_ok h with ⟨-, rfl⟩ | ⟨-, next, ha⟩
  · rfl
  · obtain ⟨w, d, -, -, -, rfl, -, -, -⟩ := applyTransition_ok ha
    simp

theorem completeStage_aiInvocations {repo : WorkflowRepoKind} {cfg : AppConfig} {env : StageEnv}
    {ctx : DeliveryContext} {result : TaskHandlerResult} {s s' : Store}
    (h : completeStage repo cfg env ctx result s = .ok s') :
    s'.aiInvocations = s.aiInvocations := by
  obtain ⟨⟨current, s₁⟩, ha, h⟩ := except_bind_ok h
  obtain ⟨s₂, hb, h⟩ := except_bind_ok h
  obtain ⟨w, d, -, -, -, hs₁, -, -, -⟩ := applyTransition_ok ha
  have hbridge : s₂.aiInvocations = s.aiInvocations := by
    rw [bridgeLoop_aiInvocations hb, hs₁]
    exact transitionStore_aiInvocations ..
  by_cases hid : ctx.message.taskId = ""
  · rw [if_pos hid] at h
    obtain rfl := Except.ok.inj h
    exact hbridge
  · rw [if_neg hid] at h
    obtain ⟨task, -, rfl⟩ := updateTask_ok h
    exact hbridge

theorem scenarioCLoserPath_aiInvocations {repo : WorkflowRepoKind} {cfg : AppConfig}
    {env : StageEnv} {ctx : DeliveryContext} {result : TaskHandlerResult} {s s' : Store}
    (h : scenarioCLoserPath repo cfg env ctx result s = .ok s') :
    s'.aiInvocations = s.aiInvocations := by
  unfold scenarioCLoserPath at h
  split at h
  · obtain rfl := Except.ok.inj h
    rfl
  · split at h
    · exact absurd h (by simp)
    · split at h
      · obtain rfl := Except.ok.inj h
        rfl
      · cases ha : applyTransition repo cfg env.transition
            (stageRequest ctx result "scenario_c_loser") s with
        | error e =>
            rw [ha] at h
            cases e with
            | workflowConflict m w =>
                dsimp only at h
                split at h
                · split at h
                  · obtain rfl := Except.ok.inj h
                    rfl
                  · exact absurd h (by simp)
                · exact absurd h (by simp)
            | _ => exact absurd h (by simp)
        | ok p =>
            obtain ⟨w, d, -, -, -, hs₁, -, -, -⟩ := applyTransition_ok ha
            have hmoved : p.2.aiInvocations = s.aiInvocations := by
              rw [hs₁]
              exact transitionStore_aiInvocations ..
            rw [ha] at h
            dsimp only at h
            split at h
            · obtain rfl := Except.ok.inj h
              exact hmoved
            · split at h
              · obtain ⟨task, -, rfl⟩ := updateTask_ok h
                exact hmoved
              · obtain rfl := Except.ok.inj h
                exact hmoved

/-- The success path writes no audit row. -/
theorem commitSuccessPath_aiInvocations {repo : WorkflowRepoKind} {cfg : AppConfig}
    {env : StageEnv} {ctx : DeliveryContext} {result : TaskHandlerResult} {s s' : Store}
    (h : commitSuccessPath repo cfg env ctx result s = .ok s') :
    s'.aiInvocations = s.aiInvocations := by
  unfold commitSuccessPath at h
  split at h
  · exact absurd h (by simp)
  · cases ht : tryInsertIdempotency (completionRecord env ctx result) s with
    | none =>
        rw [ht] at h
        exact scenarioCLoserPath_aiInvocations h
    | some s₁ =>
        rw [ht] at h
        obtain ⟨table, -, rfl⟩ := Option.map_eq_some_iff.mp ht
        have hc : completeStage repo cfg env ctx result { s with idempotency := table } = .ok s' := h
        have hsame := completeStage_aiInvocations hc
        exact hsame

/-- **A committed stage has written the row of its call**, which returned. -/
theorem stageTransaction_audit {repo : WorkflowRepoKind} {cfg : AppConfig} {env : StageEnv}
    {ctx : DeliveryContext} {reply : AgentReply} {s s' : Store}
    (h : stageTransaction repo cfg env ctx reply s = .ok s') :
    s'.auditRows = s.auditRows ++ ((stageCall env ctx reply s).map AgentCall.row).toList ∧
      ∃ output, reply = .ok output := by
  obtain ⟨⟨result, s₁⟩, hh, hc⟩ := except_bind_ok h
  obtain ⟨hrows, hreply⟩ := handleTask_audit hh
  refine ⟨?_, hreply⟩
  rw [auditRows_congr (commitSuccessPath_aiInvocations hc)]
  exact hrows

/-- A stage whose agent raised does not commit. -/
theorem stageOutcome_raised (repo : WorkflowRepoKind) (cfg : AppConfig) (env : StageEnv)
    (ctx : DeliveryContext) (e : PyException) (faults : StageFaults) (s : Store) :
    ∃ e', stageOutcome repo cfg env ctx (.error e) faults s = .error e' := by
  cases hout : stageOutcome repo cfg env ctx (.error e) faults s with
  | error e' => exact ⟨e', rfl⟩
  | ok s' =>
      obtain ⟨-, output, hreply⟩ := stageTransaction_audit (stageOutcome_ok hout).1
      exact absurd hreply (by simp)

end WorkerLoop

end CartoonDemo
