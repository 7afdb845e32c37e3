import CartoonDemo.System.Consistent
import CartoonDemo.System.Schedule

/-!
# CartoonDemo.System.LosingCommit

**A completion that is refused at commit.** Two deliveries of one operation execute at the
same time; the first to commit records the completion, and `claim_completion` refuses the
other, which goes through `_scenario_c_loser_path`.

That path compares the state of the workflow with the state that the transition of the stage
alone leads to. The winner has already gone on: its transaction also takes the bridge step, so
that the state in between is never seen. Only a topic selection without a suitable topic ends
where its transition ends. In any other state the loser applies the transition again, which
raises, or moves the workflow a second time, and nothing is recorded.

Which handlers a loop runs is up to its registry. `Sys.loopStep` is the system with the
handlers as a parameter of the step: any handler that returns one of the results of its stage
and writes artifacts and audit rows only. `loopStep_handleTask` says that the handlers of the
repository are among them.
-/

namespace CartoonDemo

namespace WorkerLoop

open WorkflowEngine WorkflowStateGuard

/-! ### Recorded resolutions -/

inductive DuplicateResolution
  | reusedCommittedResult | ignoredBeforeExecution | detectedDuringExecution
  | rejectedDuringCommit
  deriving DecidableEq, Repr

/-- `_scenario_c_loser_path` with what it appends to `_recorded_resolutions`. -/
def scenarioCLoserRecord (repo : WorkflowRepoKind) (cfg : AppConfig) (env : StageEnv)
    (ctx : DeliveryContext) (result : TaskHandlerResult) (s : Store) :
    Except PyException (List DuplicateResolution × Store) :=
  match getWorkflow s ctx.message.workflowId with
  | none => .ok ([], s)
  | some workflow =>
      match postTransitionState ctx.task.taskType
          (result.transitionSignal.getD .stageCompleted) with
      | .error e => .error e
      | .ok expectedPost =>
          if workflow.state = expectedPost then .ok ([.rejectedDuringCommit], s)
          else
            match applyTransition repo cfg env.transition
                (stageRequest ctx result "scenario_c_loser") s with
            | .error (.workflowConflict m w) =>
                match getWorkflow s ctx.message.workflowId with
                | some reloaded =>
                    if reloaded.state = expectedPost then .ok ([.rejectedDuringCommit], s)
                    else .error (.workflowConflict m w)
                | none => .error (.workflowConflict m w)
            | .error e => .error e
            | .ok (_, s) =>
                match s.tasks.get? ctx.message.taskId with
                | none => .ok ([], s)
                | some task =>
                    if task.status ≠ .completed then
                      (updateTask env.taskUpdatedAt ctx.message.taskId .completed none none
                        (some env.completedAt) s).map ([], ·)
                    else .ok ([], s)

/-- `_commit_success_path` with what it appends to `_recorded_resolutions`. -/
def commitSuccessRecord (repo : WorkflowRepoKind) (cfg : AppConfig) (env : StageEnv)
    (ctx : DeliveryContext) (result : TaskHandlerResult) (s : Store) :
    Except PyException (List DuplicateResolution × Store) :=
  if result.outcome ≠ .completed ∧ result.outcome ≠ .duplicateReused then
    .error (.taskExecution (handlerFailureRetryable result)
      (executionErrorMessage "" "" ctx.task.taskType (textOr result.reason "handler failure")))
  else
    match tryInsertIdempotency (completionRecord env ctx result) s with
    | none => scenarioCLoserRecord repo cfg env ctx result s
    | some s => (completeStage repo cfg env ctx result s).map ([], ·)

section Record

variable (repo : WorkflowRepoKind) (cfg : AppConfig) (env : StageEnv) (ctx : DeliveryContext)
  (result : TaskHandlerResult) (s : Store)

/-- The path with its record is the path. -/
theorem scenarioCLoserRecord_path :
    (scenarioCLoserRecord repo cfg env ctx result s).map Prod.snd =
      scenarioCLoserPath repo cfg env ctx result s := by
  unfold scenarioCLoserRecord scenarioCLoserPath
  cases getWorkflow s ctx.message.workflowId with
  | none => rfl
  | some w =>
      dsimp only
      cases postTransitionState ctx.task.taskType
          (result.transitionSignal.getD .stageCompleted) with
      | error e => rfl
      | ok post =>
          dsimp only
          by_cases hpost : w.state = post
          · rw [if_pos hpost, if_pos hpost]
            rfl
          · rw [if_neg hpost, if_neg hpost]
            cases applyTransition repo cfg env.transition
                (stageRequest ctx result "scenario_c_loser") s with
            | error e => cases e <;> simp [Except.map, hpost]
            | ok p =>
                dsimp only
                cases p.2.tasks.get? ctx.message.taskId with
                | none => rfl
                | some task =>
                    dsimp only
                    by_cases hdone : task.status ≠ .completed
                    · rw [if_pos hdone, if_pos hdone]
                      cases updateTask env.taskUpdatedAt ctx.message.taskId .completed none none
                        (some env.completedAt) p.2 <;> rfl
                    · rw [if_neg hdone, if_neg hdone]
                      rfl

theorem commitSuccessRecord_path :
    (commitSuccessRecord repo cfg env ctx result s).map Prod.snd =
      commitSuccessPath repo cfg env ctx result s := by
  unfold commitSuccessRecord commitSuccessPath
  split
  · rfl
  · cases tryInsertIdempotency (completionRecord env ctx result) s with
    | none => exact scenarioCLoserRecord_path repo cfg env ctx result s
    | some s₁ =>
        dsimp only
        cases completeStage repo cfg env ctx result s₁ <;> rfl

/-- A refused claim leads to the losing path. -/
theorem commitSuccessRecord_refused {signal : TransitionSignal} {hctx : HandlerContext}
    (hkey : s.completed ctx.idempotencyKey = true) :
    commitSuccessRecord repo cfg env ctx (handlerCompleted hctx signal) s =
      scenarioCLoserRecord repo cfg env ctx (handlerCompleted hctx signal) s := by
  have hinsert : tryInsertIdempotency
      (completionRecord env ctx (handlerCompleted hctx signal)) s = none := by
    obtain ⟨record, hr⟩ := Option.isSome_iff_exists.mp hkey
    unfold tryInsertIdempotency
    rw [Table.insert?_of_get?_some (by exact hr)]
    rfl
  unfold commitSuccessRecord
  rw [if_neg (by simp [handlerCompleted]), hinsert]

/-- A claim that goes through leads to the completion of the stage. -/
theorem commitSuccessRecord_claimed {signal : TransitionSignal} {hctx : HandlerContext}
    (hkey : s.completed ctx.idempotencyKey = false) :
    ∃ table, commitSuccessRecord repo cfg env ctx (handlerCompleted hctx signal) s =
      (completeStage repo cfg env ctx (handlerCompleted hctx signal)
        { s with idempotency := table }).map ([], ·) := by
  have hnone : s.idempotency.get? ctx.idempotencyKey = none := by
    simpa [Store.completed] using hkey
  unfold commitSuccessRecord
  rw [if_neg (by simp [handlerCompleted]), tryInsertIdempotency,
    Table.insert?_of_get?_none (by exact hnone)]
  exact ⟨_, rfl⟩

/-- The workflow stands where the transition of the stage alone leads to. -/
def AtPostState (s : Store) (workflowId : String) (tt : TaskType) (signal : TransitionSignal) :
    Prop :=
  ∃ w, getWorkflow s workflowId = some w ∧ postTransitionState tt signal = .ok w.state

/-- There the losing path leaves everything alone. -/
theorem scenarioCLoserRecord_of_post
    (h : AtPostState s ctx.message.workflowId ctx.task.taskType
      (result.transitionSignal.getD .stageCompleted)) :
    scenarioCLoserRecord repo cfg env ctx result s = .ok ([.rejectedDuringCommit], s) := by
  obtain ⟨w, hg, hpost⟩ := h
  unfold scenarioCLoserRecord
  rw [hg]
  dsimp only
  rw [hpost]
  exact if_pos rfl

/-- **The losing path records its resolution exactly in the state after the stage's own
transition.** -/
theorem scenarioCLoserRecord_iff :
    (∃ s', scenarioCLoserRecord repo cfg env ctx result s = .ok ([.rejectedDuringCommit], s')) ↔
      AtPostState s ctx.message.workflowId ctx.task.taskType
        (result.transitionSignal.getD .stageCompleted) := by
  refine ⟨?_, fun h => ⟨s, scenarioCLoserRecord_of_post repo cfg env ctx result s h⟩⟩
  intro h
  obtain ⟨s', h⟩ := h
  unfold scenarioCLoserRecord at h
  cases hg : getWorkflow s ctx.message.workflowId with
  | none =>
      rw [hg] at h
      simp at h
  | some w =>
      rw [hg] at h
      dsimp only at h
      cases hpost : postTransitionState ctx.task.taskType
          (result.transitionSignal.getD .stageCompleted) with
      | error e =>
          rw [hpost] at h
          simp at h
      | ok post =>
          rw [hpost] at h
          dsimp only at h
          by_cases hst : w.state = post
          · exact ⟨w, hg, by rw [hpost, hst]⟩
          · -- a transition that goes through records nothing, one that fails is raised
            rw [if_neg hst] at h
            cases hap : applyTransition repo cfg env.transition
                (stageRequest ctx result "scenario_c_loser") s with
            | error e =>
                rw [hap] at h
                cases e <;> simp [hst] at h
            | ok p =>
                rw [hap] at h
                dsimp only at h
                cases hget : p.2.tasks.get? ctx.message.taskId with
                | none =>
                    rw [hget] at h
                    simp at h
                | some task =>
                    rw [hget] at h
                    dsimp only at h
                    by_cases hdone : task.status ≠ .completed
                    · rw [if_pos hdone] at h
                      cases hu : updateTask env.taskUpdatedAt ctx.message.taskId .completed none
                          none (some env.completedAt) p.2 with
                      | error e => rw [hu] at h; simp [Except.map] at h
                      | ok s₁ => rw [hu] at h; simp [Except.map] at h
                    · rw [if_neg hdone] at h
                      simp at h

end Record

end WorkerLoop

open WorkerLoop WorkflowEngine WorkflowStateGuard

/-! ### Handlers as a parameter

A handler is any code that writes its own tables. Those of the repository are an instance
(`loopStep_handleTask`).
-/

/-- The tables that a handler writes, as it leaves them. -/
structure HandlerWrites where
  artifacts : Table ArtifactRecord.artifactId
  contents : Table ArtifactContentRow.artifactId
  aiInvocations : List AiInvocationRecord

def HandlerWrites.apply (writes : HandlerWrites) (s : Store) : Store :=
  { s with artifacts := writes.artifacts, contents := writes.contents,
           aiInvocations := writes.aiInvocations }

/-- The tables of handlers in a store. -/
def Store.handlerTables (s : Store) : HandlerWrites :=
  { artifacts := s.artifacts, contents := s.contents, aiInvocations := s.aiInvocations }

/-- What a handler does: it raises, or completes with a signal. -/
abbrev Handled := Except PyException (TransitionSignal × HandlerWrites)

inductive LoopAction
  | other (a : Action)
  | execute (i : Nat) (env : StageEnv) (handled : Handled)

/-- A call of `apply_transition` that neither the worker loop nor the reconciler makes. -/
def LoopAction.outside : LoopAction → Bool
  | .other a => a.origin = .engine
  | .execute _ _ _ => false

/-- The signal is one that the stage reports. -/
def Handled.allowed (handled : Handled) (tt : TaskType) : Bool :=
  match handled with
  | .error _ => true
  | .ok (signal, _) => signal ∈ stageSignals tt

/-- The success path of a delivery whose handler completed. -/
def Delivery.commitHandled (repo : WorkflowRepoKind) (cfg : AppConfig) (env : StageEnv)
    (d : Delivery) (t : TaskRecord) (key : String) (signal : TransitionSignal)
    (writes : HandlerWrites) (s : Store) :
    Except PyException (List DuplicateResolution × Store) :=
  commitSuccessRecord repo cfg env (d.context t key)
    (handlerCompleted (handlerContext env (d.context t key)) signal) (writes.apply s)

/-- The stage transaction of a delivery, with its handler as a parameter. -/
def Delivery.executeHandled (repo : WorkflowRepoKind) (cfg : AppConfig) (env : StageEnv)
    (s : Store) (d : Delivery) (handled : Handled) : DeliveryEffect :=
  match d.phase with
  | .executing t key =>
      if s.freshStage env && handled.allowed t.taskType then
        match handled with
        | .error e => d.goto s (.raised t e)
        | .ok (signal, writes) =>
            match d.commitHandled repo cfg env t key signal writes s with
            | .error e => d.goto s (.raised t e)
            | .ok (_, s) => d.goto s (.committed t key)
      else { store := s, next := some d }
  | _ => { store := s, next := some d }

/-- The system with handlers as a parameter; executions are only those. -/
def Sys.loopStep (repo : WorkflowRepoKind) (cfg : AppConfig) (sc : ReconciliationScanner)
    (a : LoopAction) (σ : Sys) : Sys :=
  match a with
  | .other a => if a.executes then σ else Sys.step repo cfg sc a σ
  | .execute i env handled =>
      match σ.deliveries[i]? with
      | none => σ
      | some d => σ.applyEffect i d (d.executeHandled repo cfg env σ.store handled)

/-- What the handlers of the repository do. -/
def handledBy (env : StageEnv) (ctx : DeliveryContext) (reply : AgentReply) (s : Store) :
    Handled :=
  (handleTask ctx.task.taskType (handlerContext env ctx) reply s).map fun p =>
    (p.1.transitionSignal.getD .stageCompleted, p.2.handlerTables)

/-- The transaction of a handler that returned. -/
theorem stageTransaction_handled (repo : WorkflowRepoKind) (cfg : AppConfig) {env : StageEnv}
    {d : Delivery} {t : TaskRecord} {key : String} {reply : AgentReply} {s s₁ : Store} {n : Int}
    {result : TaskHandlerResult} (hn : resolveLogicalVersion s t d.message = .ok n)
    (hh : handleTask t.taskType (handlerContext env (d.context t key)) reply s
      = .ok (result, s₁)) :
    ∃ signal ∈ stageSignals t.taskType,
      handledBy env (d.context t key) reply s = .ok (signal, s₁.handlerTables) ∧
      stageTransaction repo cfg env (d.context t key) reply s =
        (d.commitHandled repo cfg env t key signal s₁.handlerTables s).map Prod.snd := by
  obtain ⟨⟨signal, hsig, rfl⟩, -, content, audit, hs₁⟩ := handleTask_ok hn hh
  have hsame : s₁.handlerTables.apply s = s₁ := by rw [hs₁]; rfl
  refine ⟨signal, hsig, ?_, ?_⟩
  · unfold handledBy
    dsimp only [Delivery.context] at hh ⊢
    rw [hh]
    rfl
  · unfold stageTransaction Delivery.commitHandled
    rw [commitSuccessRecord_path, hsame]
    dsimp only [Delivery.context] at hh ⊢
    rw [hh]
    rfl

/-- **The handlers of the repository are among the handlers of the parametrised system.** -/
theorem loopStep_handleTask (repo : WorkflowRepoKind) (cfg : AppConfig)
    (sc : ReconciliationScanner) {σ : Sys} (hs : SysSound σ) {i : Nat} {d : Delivery}
    {t : TaskRecord} {key : String} (hd : σ.deliveries[i]? = some d)
    (hp : d.phase = .executing t key) (env : StageEnv) (reply : AgentReply) :
    Sys.loopStep repo cfg sc
        (.execute i env (handledBy env (d.context t key) reply σ.store)) σ =
      Sys.step repo cfg sc (.delivery i (.execute env reply)) σ := by
  obtain ⟨n, hn, -, -⟩ := ((hs.deliveries d (List.mem_of_getElem? hd)).task t
    (by rw [hp]; rfl)).sound hs.store
  simp only [Sys.loopStep, Sys.step, hd]
  congr 1
  simp only [Delivery.executeHandled, Delivery.step, hp]
  by_cases hf : σ.store.freshStage env = true
  · rw [hf]
    cases hh : handleTask t.taskType (handlerContext env (d.context t key)) reply σ.store with
    | error e =>
        have hhandled : handledBy env (d.context t key) reply σ.store = .error e := by
          unfold handledBy
          dsimp only [Delivery.context] at hh ⊢
          rw [hh]
          rfl
        have htx : stageTransaction repo cfg env (d.context t key) reply σ.store = .error e := by
          unfold stageTransaction
          dsimp only [Delivery.context] at hh ⊢
          rw [hh]
          rfl
        rw [hhandled]
        unfold Delivery.context at htx
        rw [htx]
        rfl
    | ok p =>
        obtain ⟨signal, hsig, hhandled, htx⟩ :=
          stageTransaction_handled repo cfg (hn.resolveLogicalVersion d.message) hh
        rw [hhandled]
        unfold Delivery.context at htx
        rw [htx]
        simp only [Handled.allowed, hsig, decide_true, Bool.and_self, if_true]
        cases d.commitHandled repo cfg env t key signal p.2.handlerTables σ.store <;> rfl
  · simp [hf]

/-! ### What a refused completion should come to

The row is left as it is, and the message is acknowledged.
-/

/-- A delivery whose transaction has committed acks and returns. -/
theorem finishDelivery_of_committed (repo : WorkflowRepoKind) (cfg : AppConfig)
    (sc : ReconciliationScanner) {σ : Sys} {i : Nat} {d : Delivery} {t : TaskRecord}
    {key : String} (hd : σ.deliveries[i]? = some d) (hp : d.phase = .committed t key) :
    (run (Sys.step repo cfg sc) σ (finishDelivery i)).stream = Sys.ackEntry σ.stream d.entry ∧
      (run (Sys.step repo cfg sc) σ (finishDelivery i)).deliveries = σ.deliveries.eraseIdx i := by
  have hlt : i < σ.deliveries.length := (List.getElem?_eq_some_iff.mp hd).1
  have hset : ∀ d' : Delivery, (σ.deliveries.set i d')[i]? = some d' :=
    fun d' => List.getElem?_set_self hlt
  simp only [finishDelivery, run_cons, run_nil, Sys.step, hd, Sys.applyEffect, Delivery.step, hp,
    Delivery.goto, Delivery.ackInTry, Delivery.return_, hset, List.set_set, if_true,
    Bool.false_eq_true, if_false, List.eraseIdx_set_eq, and_self]

/-- The claim of a delivery is refused at a step: its handler completed, and the completion of
its operation is recorded already. -/
structure Refused (σ : Sys) (a : LoopAction) (i : Nat) (d : Delivery) (env : StageEnv)
    (t : TaskRecord) (key : String) (signal : TransitionSignal) (writes : HandlerWrites) :
    Prop where
  action : a = .execute i env (.ok (signal, writes))
  delivery : σ.deliveries[i]? = some d
  phase : d.phase = .executing t key
  fresh : σ.store.freshStage env = true
  signal : signal ∈ stageSignals t.taskType
  completed : σ.store.completed key = true

/-- A refused claim is resolved cleanly: the transaction ends without an exception and records
`REJECTED_DURING_COMMIT`, and the rest of the call acks its message. -/
structure ResolvedCleanly (repo : WorkflowRepoKind) (cfg : AppConfig) (sc : ReconciliationScanner)
    (σ : Sys) (a : LoopAction) (i : Nat) (d : Delivery) (env : StageEnv) (t : TaskRecord)
    (key : String) (signal : TransitionSignal) (writes : HandlerWrites) : Prop where
  recorded : ∃ s', d.commitHandled repo cfg env t key signal writes σ.store =
    .ok ([.rejectedDuringCommit], s')
  acked : (run (Sys.step repo cfg sc) (Sys.loopStep repo cfg sc a σ) (finishDelivery i)).stream =
    Sys.ackEntry σ.stream d.entry
  returned : (run (Sys.step repo cfg sc) (Sys.loopStep repo cfg sc a σ)
    (finishDelivery i)).deliveries = σ.deliveries.eraseIdx i

section Refused

variable {repo : WorkflowRepoKind} {cfg : AppConfig} {sc : ReconciliationScanner} {σ : Sys}
  {a : LoopAction} {i : Nat} {d : Delivery} {env : StageEnv} {t : TaskRecord} {key : String}
  {signal : TransitionSignal} {writes : HandlerWrites}

/-- The transaction of a refused claim is the losing path. -/
theorem Refused.commitHandled_eq (h : Refused σ a i d env t key signal writes) :
    d.commitHandled repo cfg env t key signal writes σ.store =
      scenarioCLoserRecord repo cfg env (d.context t key)
        (handlerCompleted (handlerContext env (d.context t key)) signal)
        (writes.apply σ.store) :=
  commitSuccessRecord_refused repo cfg env (d.context t key) _ h.completed

/-- In the state after the stage's own transition, only the handler's writes are left. -/
theorem Refused.commitHandled_of_post (h : Refused σ a i d env t key signal writes)
    (hpost : AtPostState σ.store d.message.workflowId t.taskType signal) :
    d.commitHandled repo cfg env t key signal writes σ.store =
      .ok ([.rejectedDuringCommit], writes.apply σ.store) := by
  rw [h.commitHandled_eq]
  exact scenarioCLoserRecord_of_post repo cfg env (d.context t key)
    (handlerCompleted (handlerContext env (d.context t key)) signal) (writes.apply σ.store) hpost

/-- A refused claim whose transaction returns goes on to the ack. -/
theorem Refused.finish (h : Refused σ a i d env t key signal writes)
    {recorded : List DuplicateResolution} {s' : Store}
    (hc : d.commitHandled repo cfg env t key signal writes σ.store = .ok (recorded, s')) :
    (run (Sys.step repo cfg sc) (Sys.loopStep repo cfg sc a σ) (finishDelivery i)).stream =
        Sys.ackEntry σ.stream d.entry ∧
      (run (Sys.step repo cfg sc) (Sys.loopStep repo cfg sc a σ) (finishDelivery i)).deliveries =
        σ.deliveries.eraseIdx i := by
  have hlt : i < σ.deliveries.length := (List.getElem?_eq_some_iff.mp h.delivery).1
  have hstep : Sys.loopStep repo cfg sc a σ =
      { σ with store := s', deliveries := σ.deliveries.set i { d with phase := .committed t key } } := by
    rw [h.action]
    simp only [Sys.loopStep, h.delivery, Delivery.executeHandled, h.phase, h.fresh,
      Handled.allowed, h.signal, decide_true, Bool.and_self, if_true, hc]
    rfl
  have hget : (Sys.loopStep repo cfg sc a σ).deliveries[i]? =
      some { d with phase := .committed t key } := by
    rw [hstep]
    exact List.getElem?_set_self hlt
  obtain ⟨hstream, hdel⟩ := finishDelivery_of_committed repo cfg sc hget rfl
  rw [hstream, hdel, hstep]
  exact ⟨rfl, List.eraseIdx_set_eq⟩

/-- **A refused claim is resolved cleanly exactly in the state after the stage's own
transition.** -/
theorem Refused.resolvedCleanly_iff (h : Refused σ a i d env t key signal writes) :
    ResolvedCleanly repo cfg sc σ a i d env t key signal writes ↔
      AtPostState σ.store d.message.workflowId t.taskType signal := by
  have hiff := scenarioCLoserRecord_iff repo cfg env (d.context t key)
    (handlerCompleted (handlerContext env (d.context t key)) signal) (writes.apply σ.store)
  rw [← h.commitHandled_eq] at hiff
  constructor
  · intro hclean
    exact hiff.mp hclean.recorded
  · intro hpost
    have hc : d.commitHandled repo cfg env t key signal writes σ.store = _ :=
      h.commitHandled_of_post hpost
    obtain ⟨hacked, hreturned⟩ := h.finish hc
    exact ⟨⟨_, hc⟩, hacked, hreturned⟩

end Refused

/-! ### States at rest

A state that a workflow only passes through within a step is never seen in the store.
-/

/-- The states that a bridge step leaves in the transaction that has reached them. -/
def WorkflowState.isBridged (st : WorkflowState) : Bool := pauseAfterEnqueue st || postStageBridge st

/-- A stage comes to rest in a state that no bridge step leaves. -/
theorem WorkerLoop.StageMove.not_bridged {cfg : AppConfig} {w : WorkflowRecord} {n v : Int}
    {tt : TaskType} {st : WorkflowState} {next : Option (TaskType × Int)}
    (h : StageMove cfg w n v tt st next) : st.isBridged = false := by
  cases h <;> rfl

/-- No workflow stands in a state that a bridge step leaves. -/
def Resting (s : Store) : Prop := ∀ w ∈ s.workflows.rows, w.state.isBridged = false

theorem Resting.congr {s s' : Store} (h : Resting s) (hw : s'.workflows = s.workflows) :
    Resting s' := by
  unfold Resting
  rw [hw]
  exact h

theorem Resting.upsert {s s' : Store} {row : WorkflowRecord} (h : Resting s)
    (hw : s'.workflows = s.workflows.upsert row) (hrow : row.state.isBridged = false) :
    Resting s' := by
  intro w hmem
  rw [hw] at hmem
  rcases Table.mem_upsert.mp hmem with rfl | ⟨hold, -⟩
  · exact hrow
  · exact h w hold

theorem Resting.permanentFailure {repo : WorkflowRepoKind} {cfg : AppConfig} {env : Env}
    {m : TaskMessage} {tt : TaskType} {task : TaskRecord} {exhausted : Bool}
    {errorClass : String} {s s' : Store} (h : Resting s)
    (hf : permanentFailure repo cfg env m tt task exhausted errorClass s = .ok s') :
    Resting s' := by
  obtain ⟨w, row, s₁, hm, -, hrow, hq⟩ := permanentFailure_ok hf
  refine (h.upsert hm.workflows ?_).congr hq.workflows
  rcases hrow with hst | hst <;> rw [hst] <;> rfl

theorem Resting.repair {repo : WorkflowRepoKind} {cfg : AppConfig} {env : Env}
    {plan : ReconciliationScanner.RepairPlan} {s s' : Store} (h : Resting s)
    (hr : ReconciliationScanner.performRepair repo cfg env plan s = .ok s') : Resting s' := by
  cases plan with
  | recreate w tt attempt =>
      obtain rfl := Except.ok.inj hr
      exact h.congr (TransitionExecutor.dispatch_workflows ..)
  | fail w =>
      obtain ⟨res, ha⟩ := performRepair_fail_ok hr
      obtain ⟨w₀, d, -, -, hd, hs', -, -, -⟩ := applyTransition_ok ha
      have hfail := TransitionTable.lookup_failure w₀.revisionCount cfg.maxScenarioRevisions
        (TransitionTable.lookup_transient hd)
        (show TransitionTable.failureDecision w₀.state .reconciliationRepair = some _ from rfl)
      obtain rfl := Except.ok.inj (hfail.symm.trans hd)
      exact h.upsert (by rw [hs']; exact transitionStore_workflows ..) rfl

/-- The engine steps of a stage end at rest. -/
theorem Resting.completeStage {repo : WorkflowRepoKind} {cfg : AppConfig} {env : StageEnv}
    {ctx : DeliveryContext} {result : TaskHandlerResult} {s s' : Store} (h : Resting s)
    (hsig : result.transitionSignal.getD .stageCompleted ∈ stageSignals ctx.task.taskType)
    (hc : completeStage repo cfg env ctx result s = .ok s') : Resting s' := by
  obtain ⟨⟨current, s₁⟩, happly, hc⟩ := except_bind_ok hc
  obtain ⟨s₂, hbridge, hc⟩ := except_bind_ok hc
  obtain ⟨w, row, next, denv, hm⟩ := engineMoved_of_ok ctx.task.taskType rfl hsig happly hbridge
  have hrest : Resting s₂ := h.upsert hm.workflows hm.move.not_bridged
  by_cases hid : ctx.message.taskId = ""
  · rw [if_pos hid] at hc
    obtain rfl := Except.ok.inj hc
    exact hrest
  · rw [if_neg hid] at hc
    obtain ⟨task, -, rfl⟩ := updateTask_ok hc
    exact hrest

/-- The transaction of a claim that goes through ends at rest. -/
theorem Resting.commitHandled {repo : WorkflowRepoKind} {cfg : AppConfig} {env : StageEnv}
    {d : Delivery} {t : TaskRecord} {key : String} {signal : TransitionSignal}
    {writes : HandlerWrites} {s : Store} {r : List DuplicateResolution × Store} (h : Resting s)
    (hsig : signal ∈ stageSignals t.taskType) (hopen : s.completed key = false)
    (hc : d.commitHandled repo cfg env t key signal writes s = .ok r) : Resting r.2 := by
  have hopen' : (writes.apply s).completed (d.context t key).idempotencyKey = false := hopen
  obtain ⟨table, hclaim⟩ := commitSuccessRecord_claimed repo cfg env (d.context t key)
    (writes.apply s) hopen'
  unfold Delivery.commitHandled at hc
  rw [hclaim] at hc
  obtain ⟨s', hs', rfl⟩ := except_map_ok hc
  have hclaimed : Resting { writes.apply s with idempotency := table } := h.congr rfl
  exact hclaimed.completeStage hsig hs'

/-- Every step but an execution and an engine call from outside leaves workflows at rest. -/
theorem Resting.step {repo : WorkflowRepoKind} {cfg : AppConfig} {sc : ReconciliationScanner}
    {σ : Sys} (h : Resting σ.store) {a : Action} (hexec : a.executes = false)
    (hout : a.origin ≠ .engine) : Resting (Sys.step repo cfg sc a σ).store := by
  have hstep := stepStore repo cfg sc σ a
  generalize (Sys.step repo cfg sc a σ).store = s' at hstep
  cases hstep with
  | same a => exact h
  | initiate env request res s' hf he =>
      obtain ⟨id, w, row, hc⟩ := Created.of_initiate he
      exact h.upsert hc.workflows (by rw [hc.rowState]; rfl)
  | approve env workflowId action actor res s' hf he =>
      obtain ⟨w, -, -, rfl⟩ := applyApprovalAction_ok he
      refine h.upsert (TransitionExecutor.written_workflows ..) ?_
      cases action <;> rfl
  | transition env request => exact absurd rfl hout
  | mark i a outboxId s' hm => exact h.congr (by rw [hm.same])
  | delivery i b d hd =>
      have hloop := deliveryStep repo cfg σ.backoff σ.store d b
      generalize d.step repo cfg σ.backoff σ.store b = e at hloop
      cases hloop with
      | stay => exact h
      | leave s' hq => exact h.congr hq.workflows
      | phase s' hq lease p backoff hps => exact h.congr hq.workflows
      | ack applied next hack hn => exact h
      | commit env reply t key s' ha hp hf htx =>
          rw [ha] at hexec
          exact absurd hexec (by simp [Action.executes])
      | fail env readyAt t e tt exhausted errorClass s' ha hp hdec htx =>
          exact h.permanentFailure htx
  | expire taskId => exact h
  | repair k env scan plan report s' hscan hp hf hr => exact h.repair hr

/-! ### Runs -/

/-- Every claim that the step refuses is resolved cleanly. -/
def CleanStep (repo : WorkflowRepoKind) (cfg : AppConfig) (sc : ReconciliationScanner) (σ : Sys)
    (a : LoopAction) : Prop :=
  ∀ i d env t key signal writes, Refused σ a i d env t key signal writes →
    ResolvedCleanly repo cfg sc σ a i d env t key signal writes

/-- A claim is refused only in the state after the transition of its stage. -/
def PostStateStep (σ : Sys) (a : LoopAction) : Prop :=
  ∀ i d env t key signal writes, Refused σ a i d env t key signal writes →
    AtPostState σ.store d.message.workflowId t.taskType signal

/-- A claim is refused only to a topic selection that has found no topic, when the workflow has
ended for that reason. -/
def NoTopicStep (σ : Sys) (a : LoopAction) : Prop :=
  ∀ i d env t key signal writes, Refused σ a i d env t key signal writes →
    signal = .noSuitableTopic ∧
      ∃ w, getWorkflow σ.store d.message.workflowId = some w ∧ w.state = .noSuitableTopic

theorem cleanStep_iff {repo : WorkflowRepoKind} {cfg : AppConfig} {sc : ReconciliationScanner}
    {σ : Sys} {a : LoopAction} : CleanStep repo cfg sc σ a ↔ PostStateStep σ a := by
  constructor
  · intro h i d env t key signal writes hr
    exact hr.resolvedCleanly_iff.mp (h i d env t key signal writes hr)
  · intro h i d env t key signal writes hr
    exact hr.resolvedCleanly_iff.mpr (h i d env t key signal writes hr)

/-- The post-state of a stage signal is left by a bridge step, but for the missing topic. -/
theorem postTransitionState_rests {tt : TaskType} {signal : TransitionSignal} {st : WorkflowState}
    (hsig : signal ∈ stageSignals tt) (h : postTransitionState tt signal = .ok st)
    (hst : st.isBridged = false) : signal = .noSuitableTopic ∧ st = .noSuitableTopic := by
  cases tt with
  | collect =>
      obtain rfl : signal = .stageCompleted := by simpa [stageSignals] using hsig
      obtain rfl := Except.ok.inj h
      exact absurd hst (by decide)
  | selectTopic =>
      have hs : signal = .stageCompleted ∨ signal = .noSuitableTopic := by
        simpa [stageSignals] using hsig
      rcases hs with rfl | rfl
      · obtain rfl := Except.ok.inj h
        exact absurd hst (by decide)
      · exact ⟨rfl, (Except.ok.inj h).symm⟩
  | generateScenario =>
      obtain rfl : signal = .stageCompleted := by simpa [stageSignals] using hsig
      obtain rfl := Except.ok.inj h
      exact absurd hst (by decide)
  | reviewScenario =>
      have hs : signal = .criticPass ∨ signal = .criticRevise := by
        simpa [stageSignals] using hsig
      rcases hs with rfl | rfl <;> obtain rfl := Except.ok.inj h <;> exact absurd hst (by decide)

theorem NoTopicStep.atPostState {σ : Sys} {a : LoopAction} {i : Nat} {d : Delivery}
    {env : StageEnv} {t : TaskRecord} {key : String} {signal : TransitionSignal}
    {writes : HandlerWrites} (h : NoTopicStep σ a)
    (hr : Refused σ a i d env t key signal writes) :
    AtPostState σ.store d.message.workflowId t.taskType signal := by
  obtain ⟨hsig, w, hg, hst⟩ := h i d env t key signal writes hr
  subst hsig
  have htt : t.taskType = .selectTopic := by
    have hmem := hr.signal
    cases htt : t.taskType <;> first | rfl | (rw [htt] at hmem; simp [stageSignals] at hmem)
  exact ⟨w, hg, by rw [htt, hst]; rfl⟩

/-- At rest, only a missing topic is resolved cleanly. -/
theorem Resting.cleanStep_iff {repo : WorkflowRepoKind} {cfg : AppConfig}
    {sc : ReconciliationScanner} {σ : Sys} (h : Resting σ.store) (a : LoopAction) :
    CleanStep repo cfg sc σ a ↔ NoTopicStep σ a := by
  rw [CartoonDemo.cleanStep_iff]
  constructor
  · intro hpost i d env t key signal writes hr
    obtain ⟨w, hg, hw⟩ := hpost i d env t key signal writes hr
    obtain ⟨hsig, hst⟩ := postTransitionState_rests hr.signal hw (h w (Table.mem_of_get? hg))
    exact ⟨hsig, w, hg, hst⟩
  · intro htopic i d env t key signal writes hr
    exact htopic.atPostState hr

/-- What an execution leaves, when a refused claim finds the workflow without a topic. -/
theorem Resting.executeHandled {repo : WorkflowRepoKind} {cfg : AppConfig} {σ : Sys} {i : Nat}
    {d : Delivery} {env : StageEnv} {handled : Handled} (h : Resting σ.store)
    (hd : σ.deliveries[i]? = some d) (htopic : NoTopicStep σ (.execute i env handled)) :
    Resting (d.executeHandled repo cfg env σ.store handled).store := by
  unfold Delivery.executeHandled
  split
  · next t key hp =>
    split
    · next hen =>
      rw [Bool.and_eq_true] at hen
      cases handled with
      | error e => exact h
      | ok r =>
          obtain ⟨signal, writes⟩ := r
          have hsig : signal ∈ stageSignals t.taskType := by
            simpa [Handled.allowed] using hen.2
          dsimp only
          cases hc : d.commitHandled repo cfg env t key signal writes σ.store with
          | error e => exact h
          | ok r =>
              by_cases hdone : σ.store.completed key = true
              · -- a refused claim: the workflow has ended, and nothing is written to it
                have hr : Refused σ (.execute i env (.ok (signal, writes))) i d env t key signal
                    writes := ⟨rfl, hd, hp, hen.1, hsig, hdone⟩
                rw [hr.commitHandled_of_post (htopic.atPostState hr)] at hc
                obtain rfl := Except.ok.inj hc
                exact h
              · exact h.commitHandled hsig (by simpa using hdone) hc
    · exact h
  · exact h

theorem Resting.loopStep {repo : WorkflowRepoKind} {cfg : AppConfig} {sc : ReconciliationScanner}
    {σ : Sys} (h : Resting σ.store) {a : LoopAction} (hout : a.outside = false)
    (htopic : NoTopicStep σ a) : Resting (Sys.loopStep repo cfg sc a σ).store := by
  cases a with
  | other a =>
      unfold Sys.loopStep
      dsimp only
      split
      · exact h
      · next hexec =>
        exact h.step (by simpa using hexec) (by simpa [LoopAction.outside] using hout)
  | execute i env handled =>
      unfold Sys.loopStep
      dsimp only
      split
      · exact h
      · next d hd => exact h.executeHandled hd htopic

/-- **When refused completions are resolved cleanly along a run**: exactly if each is refused in
the state after the transition of its stage. As long as only the repository calls the engine,
that is exactly if each belongs to a topic selection without a suitable topic. -/
theorem run_refusals_resolved_iff (repo : WorkflowRepoKind) (cfg : AppConfig)
    (sc : ReconciliationScanner) (as : List LoopAction) :
    (Along (Sys.loopStep repo cfg sc) (CleanStep repo cfg sc) {} as ↔
        Along (Sys.loopStep repo cfg sc) PostStateStep {} as) ∧
      ((∀ a ∈ as, a.outside = false) →
        (Along (Sys.loopStep repo cfg sc) (CleanStep repo cfg sc) {} as ↔
          Along (Sys.loopStep repo cfg sc) NoTopicStep {} as)) := by
  constructor
  · exact along_congr (motive := fun _ => True) (fun _ _ _ => trivial)
      (fun _ _ _ => cleanStep_iff) trivial
  · intro hout
    have hempty : Resting ({} : Sys).store := fun w hw => absurd hw (by simp [Table.empty])
    constructor
    · intro h
      refine along_imp_of (motive := fun σ : Sys => Resting σ.store) ?_ ?_ hempty h
      · intro σ a ha hσ hc
        exact hσ.loopStep (hout a ha) ((hσ.cleanStep_iff a).mp hc)
      · intro σ a _ hσ hc
        exact (hσ.cleanStep_iff a).mp hc
    · intro h
      refine along_imp_of (motive := fun σ : Sys => Resting σ.store) ?_ ?_ hempty h
      · intro σ a ha hσ hc
        exact hσ.loopStep (hout a ha) hc
      · intro σ a _ hσ hc
        exact (hσ.cleanStep_iff a).mpr hc

/-- Two workers execute the collection, after the lease of the first has expired. -/
def racedCollection : List Action :=
  .initiate (Env.numbered 0 0) { workflowId := some "wf" } :: publishRow "outbox-0" 0 1 ++
    [.deliver 0 "worker-1", .delivery 0 .readTask, .delivery 0 .readWorkflow,
      .delivery 0 (.takeLease "lease-1" 1), .delivery 0 .precheck, .expireLease "task-0",
      .deliver 0 "worker-2", .delivery 1 .readTask, .delivery 1 .readWorkflow,
      .delivery 1 (.takeLease "lease-2" 1), .delivery 1 .precheck]

/-- A collection that completes and stores nothing, as delivery `i`. -/
def completeCollection (i k : Nat) : LoopAction :=
  .execute i (StageEnv.numbered 2 k) (.ok (.stageCompleted, ({} : Store).handlerTables))

/-- The second worker commits and takes the workflow on to the topic selection; the claim of
the first is then refused, and its transition conflicts. -/
theorem racedCollection_not_clean :
    ¬ Along (Sys.loopStep .postgres .prod {}) (CleanStep .postgres .prod {}) {}
      (racedCollection.map .other ++ [completeCollection 1 1, completeCollection 0 2]) := by
  intro h
  have hclean := along_iff_forall_split.mp h
    (racedCollection.map .other ++ [completeCollection 1 1]) (completeCollection 0 2) []
    (by simp)
  generalize hσ : run (Sys.loopStep .postgres .prod {}) {}
    (racedCollection.map .other ++ [completeCollection 1 1]) = σ at hclean
  have hd : (σ.deliveries[0]?).any (fun d => match d.phase with
      | .executing t key => t.taskType = .collect && σ.store.completed key &&
          (getWorkflow σ.store d.message.workflowId).any (fun w => w.state = .selectingTopic)
      | _ => false) = true := by
    rw [← hσ]
    decide +kernel
  have hfresh : σ.store.freshStage (StageEnv.numbered 2 2) = true := by
    rw [← hσ]
    decide +kernel
  obtain ⟨d, hget, hexec⟩ := (Option.any_eq_true _ _).mp hd
  cases hp : d.phase with
  | executing t key =>
      rw [hp] at hexec
      simp only [Bool.and_eq_true, decide_eq_true_eq] at hexec
      obtain ⟨⟨htt, hkey⟩, hstate⟩ := hexec
      obtain ⟨w, hg, hst⟩ := cleanStep_iff.mp hclean 0 d _ t key .stageCompleted _
        ⟨rfl, hget, hp, hfresh, by rw [htt]; decide, hkey⟩
      rw [hg] at hstate
      rw [htt] at hst
      have hcollected : WorkflowState.collected = w.state := Except.ok.inj hst
      simp [← hcollected] at hstate
  | _ => rw [hp] at hexec; exact absurd hexec (by simp)

end CartoonDemo
