import CartoonDemo.Worker.Loop

/-!
# CartoonDemo.Worker.Exceptions

**Which exceptions leave the stage transaction.** The loop treats two classes of its own in
separate `except` clauses: `LeaseConflictError`, raised by the lease coordinator, and
`HandlerNotFoundError`, raised by the registry. Neither comes out of the transaction of a
stage unless the collector or agent raises it.
-/

namespace CartoonDemo

open WorkflowEngine TransitionExecutor WorkerLoop HandlerSupport

/-- The classes that the loop raises itself. -/
def PyException.ofLoop : PyException → Bool
  | .leaseConflict _ _ | .handlerNotFound _ => true
  | _ => false

/-- The exception is not one of the loop's own. -/
def PyException.ofStage (e : PyException) : Prop := e.ofLoop = false

/-! ### The engine -/

theorem translate_ofStage {workflowId : String} {e : PyException} (h : e.ofStage) :
    (TransitionExecutor.translate workflowId e).ofStage := by
  unfold TransitionExecutor.translate
  split
  · rfl
  · rfl
  · exact h

theorem updateWorkflowState_raises (repo : WorkflowRepoKind) (now : Time) (workflowId : String)
    (v : Nat) (st : WorkflowState) (fr : Option String) (rc : Option Nat) (s : Store) :
    Raises PyException.ofStage (updateWorkflowState repo now workflowId v st fr rc s) := by
  unfold updateWorkflowState
  split
  · unfold Fakes.updateWorkflowState
    split
    · exact raises_error.mpr rfl
    · split
      · exact raises_error.mpr rfl
      · exact raises_ok ..
  · unfold Postgres.updateWorkflowState
    split
    · exact raises_ok ..
    · split
      · exact raises_error.mpr rfl
      · exact raises_error.mpr rfl
  · exact raises_error.mpr rfl

theorem executeTransition_raises (repo : WorkflowRepoKind) (env : Env) (w : WorkflowRecord)
    (d : TransitionDecision) (tr : WorkflowTransitionRecord) (o : Option OutboxBuildResult)
    (rc : Option Nat) (s : Store) :
    Raises PyException.ofStage (executeTransition repo env w d tr o rc s) := by
  refine Raises.bind ?_ (fun _ _ => raises_ok ..)
  have hupdate := updateWorkflowState_raises repo env.updatedAt w.workflowId w.stateVersion d.toState
    d.setFailureReason rc s
  unfold write
  cases hu : updateWorkflowState repo env.updatedAt w.workflowId w.stateVersion d.toState
      d.setFailureReason rc s with
  | error e => exact raises_error.mpr (translate_ofStage (hupdate.of_error e hu))
  | ok p => exact raises_ok ..

theorem lookup_raises (st : WorkflowState) (sig : TransitionSignal) (rc mx : Nat) :
    Raises PyException.ofStage (TransitionTable.lookup st sig rc mx) := by
  unfold TransitionTable.lookup
  repeat' split
  all_goals first
    | exact raises_ok ..
    | exact raises_error.mpr rfl

theorem prepareTransition_raises (cfg : AppConfig) (env : Env) (req : TransitionRequest)
    (w : WorkflowRecord) (s : Store) :
    Raises PyException.ofStage (prepareTransition cfg env req w s) := by
  have hlookup := lookup_raises w.state req.signal w.revisionCount cfg.maxScenarioRevisions
  unfold prepareTransition
  split
  · exact raises_error.mpr rfl
  · split
    · exact raises_error.mpr rfl
    · unfold decideTransition
      cases hl : TransitionTable.lookup w.state req.signal w.revisionCount
          cfg.maxScenarioRevisions with
      | ok d => exact raises_ok ..
      | error e =>
          have he := hlookup.of_error e hl
          cases e <;> first
            | exact raises_error.mpr rfl
            | exact raises_error.mpr he

theorem applyTransition_raises (repo : WorkflowRepoKind) (cfg : AppConfig) (env : Env)
    (req : TransitionRequest) (s : Store) :
    Raises PyException.ofStage (applyTransition repo cfg env req s) := by
  unfold applyTransition
  split
  · exact raises_error.mpr rfl
  · exact (prepareTransition_raises ..).bind (fun _ _ => executeTransition_raises ..)

/-! ### The handlers

A handler raises exceptions of its stage only.
-/

theorem getArtifactContent_raises (s : Store) (id : String) :
    Raises PyException.ofStage (getArtifactContent s id) := by
  unfold getArtifactContent
  split
  · exact raises_error.mpr rfl
  · exact raises_ok ..

theorem loadActiveArtifactJson_raises (ctx : HandlerContext) (at' : ArtifactType) (s : Store) :
    Raises PyException.ofStage (loadActiveArtifactJson ctx at' s) := by
  unfold loadActiveArtifactJson
  split
  · exact raises_error.mpr rfl
  · next record _ =>
    have hcontent := getArtifactContent_raises s record.artifactId
    split
    · next e he => exact raises_error.mpr (hcontent.of_error e he)
    · exact raises_ok ..

theorem resolveLogicalVersion_raises (s : Store) (t : TaskRecord) (m : TaskMessage) :
    Raises PyException.ofStage (resolveLogicalVersion s t m) := by
  unfold resolveLogicalVersion
  split
  · exact raises_ok ..
  · exact raises_ok ..
  · exact raises_ok ..
  · split
    · exact raises_ok ..
    · split
      · exact raises_ok ..
      · next active _ =>
        have hcontent := getArtifactContent_raises s active.artifactId
        split
        · next e he => exact raises_error.mpr (hcontent.of_error e he)
        · exact raises_ok ..
        · exact raises_ok ..

theorem createStageArtifact_raises (ctx : HandlerContext) (at' : ArtifactType)
    (content : ArtifactContent) (n : Int) (s : Store) (h : ∀ e, ctx.refused = some e → e.ofStage) :
    Raises PyException.ofStage (createStageArtifact ctx at' content n s) := by
  unfold createStageArtifact createArtifact
  dsimp only
  split
  · next e he =>
    split at he
    · obtain rfl := Except.error.inj he
      exact raises_error.mpr rfl
    · exact absurd he (by simp)
  · split
    · next e he => exact raises_error.mpr (h e he)
    · exact raises_ok ..

theorem handleTask_raises (tt : TaskType) (ctx : HandlerContext) {reply : AgentReply} (s : Store)
    (hreply : Raises PyException.ofStage reply) (h : ∀ e, ctx.refused = some e → e.ofStage) :
    Raises PyException.ofStage (handleTask tt ctx reply s) := by
  cases tt with
  | collect =>
      exact hreply.bind fun _ _ =>
        (createStageArtifact_raises _ _ _ _ _ h).bind fun _ _ => raises_ok ..
  | selectTopic =>
      exact (loadActiveArtifactJson_raises ..).bind fun _ _ => hreply.bind fun _ _ =>
        (createStageArtifact_raises _ _ _ _ _ h).bind fun _ _ => raises_ok ..
  | generateScenario =>
      refine (loadActiveArtifactJson_raises ..).bind fun p _ => Raises.bind ?_ fun _ _ =>
        hreply.bind fun _ _ => (resolveLogicalVersion_raises ..).bind fun _ _ =>
          (createStageArtifact_raises _ _ _ _ _ h).bind fun _ _ => raises_ok ..
      unfold requireTopicSelected
      split
      · exact raises_ok ..
      · exact raises_error.mpr rfl
  | reviewScenario =>
      exact (loadActiveArtifactJson_raises ..).bind fun _ _ => hreply.bind fun _ _ =>
        (createStageArtifact_raises _ _ _ _ _ h).bind fun _ _ => raises_ok ..

/-! ### The stage transaction -/

theorem updateTask_raises (now : Time) (taskId : String) (status : TaskStatus)
    (attempt : Option Nat) (fr : Option String) (completedAt : Option Time) (s : Store) :
    Raises PyException.ofStage (updateTask now taskId status attempt fr completedAt s) := by
  unfold updateTask
  split
  · exact raises_error.mpr rfl
  · exact raises_ok ..

theorem bridgeLoop_raises (repo : WorkflowRepoKind) (cfg : AppConfig) (env : Env)
    (workflowId : String) (fuel : Nat) (current : TransitionResult) (s : Store) :
    Raises PyException.ofStage (bridgeLoop repo cfg env workflowId fuel current s) := by
  induction fuel generalizing current s with
  | zero => exact raises_error.mpr rfl
  | succ fuel ih =>
      unfold bridgeLoop
      split
      · have happly := applyTransition_raises repo cfg env
          (bridgeRequest workflowId current.toState) s
        split
        · next e he => exact raises_error.mpr (happly.of_error e he)
        · split
          · exact raises_ok ..
          · exact ih _ _
      · exact raises_ok ..

theorem scenarioCLoserPath_raises (repo : WorkflowRepoKind) (cfg : AppConfig) (env : StageEnv)
    (ctx : DeliveryContext) (result : TaskHandlerResult) (s : Store) :
    Raises PyException.ofStage (scenarioCLoserPath repo cfg env ctx result s) := by
  have happly := applyTransition_raises repo cfg env.transition
    (stageRequest ctx result "scenario_c_loser") s
  unfold scenarioCLoserPath
  split
  · exact raises_ok ..
  · split
    · next e he =>
      unfold WorkflowStateGuard.postTransitionState at he
      split at he
      · exact absurd he (by simp)
      · split at he
        · exact absurd he (by simp)
        · split at he
          · exact absurd he (by simp)
          · obtain rfl := Except.error.inj he
            exact raises_error.mpr rfl
    · split
      · exact raises_ok ..
      · split
        · split
          · split
            · exact raises_ok ..
            · exact raises_error.mpr rfl
          · exact raises_error.mpr rfl
        · next e _ he => exact raises_error.mpr (happly.of_error e he)
        · split
          · exact raises_ok ..
          · split
            · exact updateTask_raises ..
            · exact raises_ok ..

/-- **Only the collector or agent, or the store, can make the transaction of a stage raise one of
the loop's own classes.** -/
theorem stageTransaction_raises (repo : WorkflowRepoKind) (cfg : AppConfig) (env : StageEnv)
    (ctx : DeliveryContext) {reply : AgentReply} (s : Store)
    (hreply : Raises PyException.ofStage reply) (h : ∀ e, env.refused = some e → e.ofStage) :
    Raises PyException.ofStage (stageTransaction repo cfg env ctx reply s) := by
  refine (handleTask_raises _ (handlerContext env ctx) s hreply h).bind fun p _ => ?_
  show Raises PyException.ofStage (commitSuccessPath repo cfg env ctx p.1 p.2)
  unfold commitSuccessPath
  split
  · exact raises_error.mpr rfl
  · split
    · exact scenarioCLoserPath_raises ..
    · refine (applyTransition_raises ..).bind fun q _ => (bridgeLoop_raises ..).bind fun _ _ => ?_
      show Raises PyException.ofStage (if _ then _ else _)
      split
      · exact raises_ok ..
      · exact updateTask_raises ..

/-! ### What the loop makes of them

Which of these exceptions are tried again.
-/

/-- What the `except` clauses of the loop decide about an exception of the stage. -/
theorem failureDecision_eq (cfg : AppConfig) (t : TaskRecord) (m : TaskMessage) {e : PyException}
    (he : e.ofStage) : failureDecision cfg t m e =
      if (RetryClassifier.classifyException e).1 &&
          !RetryClassifier.isExhausted cfg (RetryClassifier.effectiveAttempt t m) t.taskType then
        .retry (RetryClassifier.effectiveAttempt t m)
      else .permanent t.taskType
        (RetryClassifier.isExhausted cfg (RetryClassifier.effectiveAttempt t m) t.taskType)
        (RetryClassifier.classifyException e).2 := by
  cases e <;> first | rfl | exact absurd he (by simp [PyException.ofStage, PyException.ofLoop])

/-- **It is retried** exactly if its class says so and the attempts are not used up. -/
theorem failureDecision_retry_iff {cfg : AppConfig} {t : TaskRecord} {m : TaskMessage}
    {e : PyException} (he : e.ofStage) {attempt : Nat} :
    failureDecision cfg t m e = .retry attempt ↔
      attempt = RetryClassifier.effectiveAttempt t m ∧
        RetryClassifier.isExhausted cfg attempt t.taskType = false ∧
        (RetryClassifier.classifyException e).1 = true := by
  rw [failureDecision_eq cfg t m he]
  split
  · next hcond =>
    simp only [Bool.and_eq_true, Bool.not_eq_true'] at hcond
    constructor
    · intro h
      obtain rfl := FailureDecision.retry.inj h
      exact ⟨rfl, hcond.2, hcond.1⟩
    · rintro ⟨rfl, -, -⟩
      rfl
  · next hcond =>
    refine iff_of_false (by simp) ?_
    rintro ⟨rfl, hex, hretry⟩
    exact hcond (by simp [hretry, hex])

end CartoonDemo
