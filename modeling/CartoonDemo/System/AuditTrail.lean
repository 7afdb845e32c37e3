import Mathlib.Data.List.Perm.Subperm
import CartoonDemo.System.LeaseSpec
import CartoonDemo.System.Schedule
import CartoonDemo.Worker.Audit

/-!
# CartoonDemo.System.AuditTrail

**Which agent calls are in the audit trail.** A call costs money whatever becomes of its stage,
but its audit row is written in the stage transaction. The row of a call that raised is always
lost, since the exception that `run_agent_stage` re-raises rolls it back. The row of a call that
returned is lost when the stage fails afterwards: on the hook after the call, on the artifact
(its version is taken, or the store refuses its content), on the row itself, or on the
transition.

`CallSys` is the running system together with the calls made so far. `run_calls_audited_iff`
says exactly which runs have a row for each of their calls.
-/

namespace CartoonDemo

open WorkerLoop WorkflowEngine WorkflowStateGuard TransitionExecutor

/-! ### The system with its calls

The state is the system with a record of the agents' calls that the workers have made.
-/

structure CallSys where
  sys : Sys := {}
  calls : List AgentCall := []

/-- Executions are told apart, since they name what the stage raises by itself. -/
inductive CallAction
  | other (a : Action)
  | execute (i : Nat) (env : StageEnv) (reply : AgentReply) (faults : StageFaults)

namespace CallSys

/-- The stage transaction of delivery `i`. -/
def execute (repo : WorkflowRepoKind) (cfg : AppConfig) (c : CallSys) (i : Nat) (d : Delivery)
    (t : TaskRecord) (key : String) (env : StageEnv) (reply : AgentReply)
    (faults : StageFaults) : CallSys :=
  match stageCalls repo cfg env (d.context t key) reply faults
      { store := c.sys.store, calls := c.calls } with
  | .ok _ st =>
      { sys := c.sys.applyEffect i d (d.goto st.store (.committed t key)), calls := st.calls }
  | .error e st =>
      { sys := c.sys.applyEffect i d (d.goto st.store (.raised t e)), calls := st.calls }

def step (repo : WorkflowRepoKind) (cfg : AppConfig) (sc : ReconciliationScanner)
    (a : CallAction) (c : CallSys) : CallSys :=
  match a with
  | .other a => if a.executes then c else { c with sys := Sys.step repo cfg sc a c.sys }
  | .execute i env reply faults =>
      match c.sys.deliveries[i]? with
      | none => c
      | some d =>
          match d.phase with
          | .executing t key =>
              if c.sys.store.freshStage env then c.execute repo cfg i d t key env reply faults else c
          | _ => c

/-- The audit rows that the calls should have. -/
def callRows (c : CallSys) : List AiInvocationRecord :=
  (c.calls.filter AgentCall.audited).map AgentCall.row

end CallSys

/-- Every call that returned, or raised what `run_agent_stage` catches, has a row of its own. -/
def CallsAudited (c : CallSys) : Prop := c.callRows.Subperm c.sys.store.auditRows

/-- The step runs a stage that makes the call. -/
structure CallMade (c : CallSys) (a : CallAction) (i : Nat) (d : Delivery) (env : StageEnv)
    (t : TaskRecord) (key : String) (reply : AgentReply) (faults : StageFaults)
    (call : AgentCall) : Prop where
  action : a = .execute i env reply faults
  delivery : c.sys.deliveries[i]? = some d
  phase : d.phase = .executing t key
  fresh : c.sys.store.freshStage env = true
  call : stageCall env (d.context t key) reply c.sys.store = some call

/-- The version under which a stage stores its artifact. -/
def storedVersion (s : Store) (t : TaskRecord) : Int :=
  match t.taskType with
  | .generateScenario => (payloadLogicalVersion s t).getD 1
  | .collect | .selectTopic | .reviewScenario => 1

/-- What keeps the row of a call: the call returns and nothing raises by itself after it, the
artifact of the stage is not stored yet and the store takes it, and the workflow is in the state
of the stage and accepts its signal. -/
structure RowKept (repo : WorkflowRepoKind) (cfg : AppConfig) (s : Store) (env : StageEnv)
    (d : Delivery) (t : TaskRecord) (reply : AgentReply) (faults : StageFaults) : Prop where
  quiet : faults = {}
  refused : env.refused = none
  artifact : s.hasArtifact d.message.workflowId (stageArtifact t.taskType) (storedVersion s t) = false
  stage : ∃ output w, reply = .ok output ∧ s.workflows.get? d.message.workflowId = some w ∧
    w.state = expectedStateForTask t.taskType ∧
    acceptsSignal repo cfg w (stageSignal t.taskType output)

/-- The row of every call of the step is kept. -/
def KeepsRows (repo : WorkflowRepoKind) (cfg : AppConfig) (c : CallSys) (a : CallAction) : Prop :=
  ∀ i d env t key reply faults call, CallMade c a i d env t key reply faults call →
    call.audited = true → RowKept repo cfg c.sys.store env d t reply faults

/-! ### The stage transaction -/

/-- The stage of a task of version `n` stores its artifact under `storedVersion`. -/
theorem TaskSound.storedVersion {s : Store} {t : TaskRecord} {n : Int} (h : TaskSound s t n) :
    storedVersion s t = stageArtifactVersion t.taskType n := by
  have hpayload := h.payloadVersion
  unfold CartoonDemo.storedVersion
  rw [hpayload]
  cases t.taskType <;> rfl

/-- What the transition of a committed stage says about the workflow. -/
theorem completeStage_accepted {repo : WorkflowRepoKind} {cfg : AppConfig} {env : StageEnv}
    {ctx : DeliveryContext} {result : TaskHandlerResult} {s s' : Store} {w : WorkflowRecord}
    (hsig : result.transitionSignal.getD .stageCompleted ∈ stageSignals ctx.task.taskType)
    (hg : s.workflows.get? ctx.message.workflowId = some w)
    (h : completeStage repo cfg env ctx result s = .ok s') :
    w.state = expectedStateForTask ctx.task.taskType ∧
      acceptsSignal repo cfg w (result.transitionSignal.getD .stageCompleted) := by
  obtain ⟨⟨current, s₁⟩, ha, -⟩ := except_bind_ok h
  obtain ⟨w', d, hg', hst, hd, -, -, -, -⟩ := applyTransition_ok ha
  obtain rfl : w = w' := Option.some.inj (hg.symm.trans hg')
  refine ⟨hst, ?_⟩
  intro hrepo hrev
  subst hrepo
  have hinc := applyTransition_accepted ha hg' hd
  -- below the cap the decision raises the revision count, which PostgreSQL refuses
  by_contra hlt
  have hraise := (TransitionTable.lookup_incrementRevisionCount hd).mpr
    ⟨?_, hrev, Nat.lt_of_not_le hlt⟩
  · rw [hinc] at hraise
    exact absurd hraise (by simp)
  · rw [hst]
    change expectedStateForTask ctx.task.taskType = .reviewing
    rw [hrev] at hsig
    cases htt : ctx.task.taskType <;>
      first | rfl | (rw [htt] at hsig; simp [stageSignals] at hsig)

/-- **The stage of a call commits exactly if its row is kept.** -/
theorem stageOutcome_ok_iff {repo : WorkflowRepoKind} {cfg : AppConfig} {env : StageEnv}
    {d : Delivery} {t : TaskRecord} {reply : AgentReply} {faults : StageFaults} {s : Store}
    {call : AgentCall} (hs : StoreSound s) (ht : TaskKnown s d.message t)
    (hcall : stageCall env (d.context t t.idempotencyKey) reply s = some call) :
    (∃ s', stageOutcome repo cfg env (d.context t t.idempotencyKey) reply faults s = .ok s') ↔
      RowKept repo cfg s env d t reply faults := by
  obtain ⟨n, hn, hw, hid⟩ := ht.sound hs
  have hversion := hn.storedVersion
  have hresolve := hn.resolveLogicalVersion d.message
  constructor
  · intro h
    obtain ⟨s', hout⟩ := h
    obtain ⟨htx, hcommit, hraised, hrow⟩ := stageOutcome_ok hout
    have hopen := stageTransaction_open hs ht htx
    obtain ⟨-, output, rfl⟩ := stageTransaction_audit htx
    have hquiet : faults = {} :=
      faults_quiet (madeCall_returned hcall) hcommit (by rwa [hcall] at hraised)
        (by rwa [hcall] at hrow)
    obtain ⟨⟨result, s₁⟩, hhandle, hcommit⟩ := except_bind_ok htx
    obtain ⟨-, -, -, hrefused⟩ := createArtifactCall_of_handled hhandle
    have hres := handleTask_signal hhandle
    obtain ⟨⟨signal, hsig, hres'⟩, hfree, content, audit, rfl⟩ := handleTask_ok hresolve hhandle
    have hsig' : stageSignal t.taskType output ∈ stageSignals t.taskType := by
      have heq : some signal = some (stageSignal t.taskType output) :=
        congrArg TaskHandlerResult.transitionSignal (hres'.symm.trans hres)
      rw [← Option.some.inj heq]
      exact hsig
    subst hres
    obtain ⟨w, hg⟩ : ∃ w, s.workflows.get? d.message.workflowId = some w := by
      rw [hw]
      exact Option.ne_none_iff_exists'.mp hn.workflow
    -- the claim goes through, and the transition after it says where the workflow is
    dsimp only at hcommit
    rw [commitSuccessPath_open rfl (by exact hopen)] at hcommit
    obtain ⟨hst, hacc⟩ := completeStage_accepted hsig' hg hcommit
    exact ⟨hquiet, hrefused, by rw [hversion]; exact hfree, output, w, rfl, hg, hst, hacc⟩
  · intro h
    obtain ⟨rfl, hrefused, hfree, output, w, rfl, hg, hst, hacc⟩ := h
    rw [hversion] at hfree
    obtain ⟨s₁, hhandle⟩ := handleTask_of_made hresolve hcall hfree hrefused
    -- a recorded completion would have stored the artifact
    have hopen : s.completed t.idempotencyKey = false := by
      by_contra hc
      have hstored := hs.stored t.workflowId t.taskType n (by rw [← hn.key]; simpa using hc)
      rw [← hw, hfree] at hstored
      exact absurd hstored (by simp)
    have htask : s.tasks.get? d.message.taskId ≠ none := by
      obtain ⟨t₀, hget, -⟩ := ht
      rw [hget]
      simp
    rw [stageOutcome_quiet]
    exact stageTransaction_of_handled hresolve hhandle hopen hg hst htask hacc

/-! ### Steps that write no row

Only a committed stage adds rows of invocations.
-/

theorem Delivery.releaseStore_aiInvocations (d : Delivery) (s : Store) :
    (d.releaseStore s).aiInvocations = s.aiInvocations := by
  unfold Delivery.releaseStore
  cases d.lease with
  | none => rfl
  | some leaseId =>
      change (releaseLease leaseId s).aiInvocations = s.aiInvocations
      unfold releaseLease
      split <;> rfl

theorem updateTask_aiInvocations {now : Time} {taskId : String} {status : TaskStatus}
    {attempt : Option Nat} {failureReason : Option String} {completedAt : Option Time}
    {s s' : Store} (h : updateTask now taskId status attempt failureReason completedAt s = .ok s') :
    s'.aiInvocations = s.aiInvocations := by
  obtain ⟨existing, -, rfl⟩ := updateTask_ok h
  rfl

theorem LoopStep.aiInvocations {repo : WorkflowRepoKind} {cfg : AppConfig} {s : Store}
    {d : Delivery} {a : DeliveryAction} {e : DeliveryEffect} (h : LoopStep repo cfg s d a e)
    (ha : ∀ env reply, a ≠ .execute env reply) : e.store.aiInvocations = s.aiInvocations := by
  cases h with
  | acquire leaseId now t hp s' h =>
      obtain ⟨table, -, rfl⟩ := Option.map_eq_some_iff.mp h
      rfl
  | execute env reply | commit env reply => exact absurd rfl (ha env reply)
  | release t key hp => exact d.releaseStore_aiInvocations s
  | retry env readyAt t e hp attempt hdec s' h => exact updateTask_aiInvocations h
  | fail env readyAt t e hp tt exhausted errorClass hdec s' h =>
      obtain ⟨⟨res, s₁⟩, ha, hu⟩ := except_bind_ok h
      obtain ⟨w, d, -, -, -, rfl, -, -, -⟩ := applyTransition_ok ha
      exact (updateTask_aiInvocations hu).trans (transitionStore_aiInvocations ..)
  | close hp => exact d.releaseStore_aiInvocations s
  | stay | leave | crash | phase | ack | unhandled | failureRaised => rfl

theorem performRepair_aiInvocations {repo : WorkflowRepoKind} {cfg : AppConfig} {env : Env}
    {plan : ReconciliationScanner.RepairPlan} {s s' : Store}
    (h : ReconciliationScanner.performRepair repo cfg env plan s = .ok s') :
    s'.aiInvocations = s.aiInvocations := by
  cases plan with
  | recreate w tt attempt =>
      rw [← Except.ok.inj h]
      exact dispatch_aiInvocations ..
  | fail w =>
      obtain ⟨res, ha⟩ := performRepair_fail_ok h
      obtain ⟨w', d, -, -, -, rfl, -, -, -⟩ := applyTransition_ok ha
      exact transitionStore_aiInvocations ..

/-- **Only executions write audit rows.** -/
theorem step_aiInvocations (repo : WorkflowRepoKind) (cfg : AppConfig)
    (sc : ReconciliationScanner) (σ : Sys) {a : Action} (ha : a.executes = false) :
    (Sys.step repo cfg sc a σ).store.aiInvocations = σ.store.aiInvocations := by
  have hstep := stepStore repo cfg sc σ a
  generalize (Sys.step repo cfg sc a σ).store = s' at hstep
  cases hstep with
  | same a => rfl
  | initiate env request res s' hf he =>
      obtain ⟨id, -, -, rfl⟩ := initiateWorkflow_ok he
      simp [initiatedStore]
  | approve env workflowId action actor res s' hf he =>
      obtain ⟨w, -, -, rfl⟩ := applyApprovalAction_ok he
      simp
  | transition env request res s' hf he =>
      obtain ⟨w, d, -, -, -, rfl, -, -, -⟩ := applyTransition_ok he
      simp
  | mark i a outboxId s' hm => rw [hm.same]
  | delivery i b d hget =>
      refine (loopStep repo cfg σ.backoff σ.store d b).aiInvocations ?_
      intro env reply hb
      subst hb
      exact absurd ha (by simp [Action.executes])
  | expire taskId => rfl
  | repair k env scan plan report s' hscan hp hf hr => exact performRepair_aiInvocations hr

/-! ### Steps -/

namespace CallSys

variable {repo : WorkflowRepoKind} {cfg : AppConfig} {sc : ReconciliationScanner} {c : CallSys}

/-- Where an execution goes on. -/
def outcomeEffect (s : Store) (d : Delivery) (t : TaskRecord) (key : String) :
    Except PyException Store → DeliveryEffect
  | .ok s' => d.goto s' (.committed t key)
  | .error e => d.goto s (.raised t e)

theorem execute_eq (i : Nat) (d : Delivery) (t : TaskRecord) (key : String) (env : StageEnv)
    (reply : AgentReply) (faults : StageFaults) :
    c.execute repo cfg i d t key env reply faults =
      { sys := c.sys.applyEffect i d (outcomeEffect c.sys.store d t key
          (stageOutcome repo cfg env (d.context t key) reply faults c.sys.store)),
        calls := c.calls ++ (stageCall env (d.context t key) reply c.sys.store).toList } := by
  unfold execute
  rw [stageCalls_eq]
  cases stageOutcome repo cfg env (d.context t key) reply faults c.sys.store <;> rfl

/-- **An execution with its calls is a step of the system**: the stage transaction, or an
exception. -/
theorem execute_sys {i : Nat} {d : Delivery} {t : TaskRecord} {key : String} {env : StageEnv}
    {reply : AgentReply} {faults : StageFaults} (hd : c.sys.deliveries[i]? = some d)
    (hp : d.phase = .executing t key) (hf : c.sys.store.freshStage env = true) :
    ∃ a, (c.execute repo cfg i d t key env reply faults).sys = Sys.step repo cfg sc a c.sys := by
  rw [execute_eq]
  cases hout : stageOutcome repo cfg env (d.context t key) reply faults c.sys.store with
  | error e =>
      refine ⟨.delivery i (.raise e), ?_⟩
      unfold Sys.step
      simp only [hd, Delivery.step, hp]
      rfl
  | ok s =>
      have htx : stageTransaction repo cfg env (d.context t key) reply c.sys.store = .ok s :=
        (stageOutcome_ok hout).1
      refine ⟨.delivery i (.execute env reply), ?_⟩
      unfold Sys.step
      simp only [hd]
      rw [Delivery.step_execute_ok hp hf htx]
      rfl

/-- A step that makes no call. -/
def NoCall (c : CallSys) (a : CallAction) : Prop :=
  ∀ i d env t key reply faults call, ¬ CallMade c a i d env t key reply faults call

/-- **Everything that a step can do.** -/
inductive CallStep (repo : WorkflowRepoKind) (cfg : AppConfig) (sc : ReconciliationScanner)
    (c : CallSys) : CallAction → CallSys → Prop
  | idle (a : CallAction) (h : c.NoCall a) : CallStep repo cfg sc c a c
  | other (a : Action) (ha : a.executes = false) :
      CallStep repo cfg sc c (.other a) { c with sys := Sys.step repo cfg sc a c.sys }
  | execute (i : Nat) (d : Delivery) (env : StageEnv) (t : TaskRecord) (key : String)
      (reply : AgentReply) (faults : StageFaults) (hd : c.sys.deliveries[i]? = some d)
      (hp : d.phase = .executing t key) (hf : c.sys.store.freshStage env = true) :
      CallStep repo cfg sc c (.execute i env reply faults)
        (c.execute repo cfg i d t key env reply faults)

theorem NoCall.keepsRows {a : CallAction} (h : c.NoCall a) : KeepsRows repo cfg c a :=
  fun i d env t key reply faults call hm => absurd hm (h i d env t key reply faults call)

theorem noCall_other (c : CallSys) (a : Action) : c.NoCall (.other a) :=
  fun _ _ _ _ _ _ _ _ h => CallAction.noConfusion h.action

theorem callStep (repo : WorkflowRepoKind) (cfg : AppConfig) (sc : ReconciliationScanner)
    (c : CallSys) (a : CallAction) : CallStep repo cfg sc c a (step repo cfg sc a c) := by
  cases a with
  | other a =>
      unfold step
      dsimp only
      split
      · exact .idle _ (noCall_other c a)
      · next ha => exact .other a (by simpa using ha)
  | execute i env reply faults =>
      by_cases hex : ∃ d t key, c.sys.deliveries[i]? = some d ∧ d.phase = .executing t key ∧
          c.sys.store.freshStage env = true
      · obtain ⟨d, t, key, hd, hp, hf⟩ := hex
        have hstep : step repo cfg sc (.execute i env reply faults) c =
            c.execute repo cfg i d t key env reply faults := by
          simp only [step, hd, hp, hf, if_true]
        rw [hstep]
        exact .execute i d env t key reply faults hd hp hf
      · have hstay : step repo cfg sc (.execute i env reply faults) c = c := by
          unfold step
          dsimp only
          split
          · rfl
          · next d hd =>
            split
            · next t key hp => exact if_neg (fun hf => hex ⟨d, t, key, hd, hp, hf⟩)
            · rfl
        rw [hstay]
        refine .idle _ ?_
        intro i' d env' t key reply' faults' call h
        obtain ⟨rfl, rfl, rfl, rfl⟩ :
            i = i' ∧ env = env' ∧ reply = reply' ∧ faults = faults' := by
          simpa using h.action
        exact hex ⟨d, t, key, h.delivery, h.phase, h.fresh⟩

end CallSys

/-- What holds in every run: the system is sound, and there is no row without a call. -/
structure TrailSound (c : CallSys) : Prop where
  sound : SysSound c.sys
  rows : c.sys.store.auditRows.Subperm c.callRows

theorem trailSound_empty : TrailSound {} where
  sound := sysSound_empty
  rows := List.nil_subperm

namespace CallSys

variable {repo : WorkflowRepoKind} {cfg : AppConfig} {sc : ReconciliationScanner} {c : CallSys}

theorem step_sound (h : TrailSound c) (a : CallAction) :
    SysSound (step repo cfg sc a c).sys := by
  have hstep := callStep repo cfg sc c a
  generalize step repo cfg sc a c = c' at hstep
  cases hstep with
  | idle a hn => exact h.sound
  | other a ha => exact h.sound.step a
  | execute i d env t key reply faults hd hp hf =>
      obtain ⟨a, hsys⟩ : ∃ a, (c.execute repo cfg i d t key env reply faults).sys =
        Sys.step repo cfg sc a c.sys := execute_sys hd hp hf
      rw [hsys]
      exact h.sound.step a

/-- The rows that an execution should write. -/
def stageRows (c : CallSys) (d : Delivery) (t : TaskRecord) (key : String) (env : StageEnv)
    (reply : AgentReply) : List AiInvocationRecord :=
  ((stageCall env (d.context t key) reply c.sys.store).toList.filter AgentCall.audited).map
    AgentCall.row

theorem execute_callRows (i : Nat) (d : Delivery) (t : TaskRecord) (key : String)
    (env : StageEnv) (reply : AgentReply) (faults : StageFaults) :
    (c.execute repo cfg i d t key env reply faults).callRows =
      c.callRows ++ c.stageRows d t key env reply := by
  rw [execute_eq]
  unfold callRows stageRows
  rw [List.filter_append, List.map_append]

/-- A committed execution writes the rows it should write. -/
theorem execute_auditRows_ok {i : Nat} {d : Delivery} {t : TaskRecord} {key : String}
    {env : StageEnv} {reply : AgentReply} {faults : StageFaults} {s' : Store}
    (h : stageOutcome repo cfg env (d.context t key) reply faults c.sys.store = .ok s') :
    (c.execute repo cfg i d t key env reply faults).sys.store.auditRows =
      c.sys.store.auditRows ++ c.stageRows d t key env reply := by
  rw [execute_eq, h, outcomeEffect]
  obtain ⟨hrows, output, rfl⟩ := stageTransaction_audit (stageOutcome_ok h).1
  change s'.auditRows = _
  rw [hrows]
  unfold stageRows
  cases hcall : stageCall env (d.context t key) (.ok output) c.sys.store with
  | none => rfl
  | some call =>
      have haudited : call.audited = true := madeCall_audited hcall
      simp [haudited]

theorem execute_auditRows_error {i : Nat} {d : Delivery} {t : TaskRecord} {key : String}
    {env : StageEnv} {reply : AgentReply} {faults : StageFaults} {e : PyException}
    (h : stageOutcome repo cfg env (d.context t key) reply faults c.sys.store = .error e) :
    (c.execute repo cfg i d t key env reply faults).sys.store.auditRows =
      c.sys.store.auditRows := by
  rw [execute_eq, h]
  rfl

/-- **What a step adds.** It adds the same rows to the calls and to the trail, or it adds to the
calls alone and the row of a call is not kept. -/
theorem step_rows (h : TrailSound c) (a : CallAction) :
    ∃ added, (step repo cfg sc a c).callRows = c.callRows ++ added ∧
      ((KeepsRows repo cfg c a ∧
          (step repo cfg sc a c).sys.store.auditRows = c.sys.store.auditRows ++ added) ∨
        (¬ KeepsRows repo cfg c a ∧ added ≠ [] ∧
          (step repo cfg sc a c).sys.store.auditRows = c.sys.store.auditRows)) := by
  have hstep := callStep repo cfg sc c a
  generalize step repo cfg sc a c = c' at hstep
  cases hstep with
  | idle a hn =>
      exact ⟨[], (List.append_nil _).symm, Or.inl ⟨hn.keepsRows, (List.append_nil _).symm⟩⟩
  | other a ha =>
      refine ⟨[], (List.append_nil _).symm, Or.inl ⟨(noCall_other c a).keepsRows, ?_⟩⟩
      rw [List.append_nil]
      exact auditRows_congr (step_aiInvocations repo cfg sc c.sys ha)
  | execute i d env t key reply faults hd hp hf =>
      have hsound := h.sound.deliveries d (List.mem_of_getElem? hd)
      obtain rfl : key = t.idempotencyKey := hsound.key t key (by rw [hp]; rfl)
      have ht : TaskKnown c.sys.store d.message t := hsound.task t (by rw [hp]; rfl)
      refine ⟨c.stageRows d t t.idempotencyKey env reply, execute_callRows .., ?_⟩
      by_cases hcall : ∃ call, stageCall env (d.context t t.idempotencyKey) reply c.sys.store =
          some call ∧ call.audited = true
      · -- a call that is audited: its row is written exactly if the stage commits
        obtain ⟨call, hcall, haudited⟩ := hcall
        have hiff : _ ↔ RowKept repo cfg c.sys.store env d t reply faults :=
          stageOutcome_ok_iff h.sound.store ht hcall
        have hmade : CallMade c (.execute i env reply faults) i d env t t.idempotencyKey reply faults
            call := ⟨rfl, hd, hp, hf, hcall⟩
        cases hout : stageOutcome repo cfg env (d.context t t.idempotencyKey) reply faults
            c.sys.store with
        | ok s' =>
            refine Or.inl ⟨?_, execute_auditRows_ok hout⟩
            intro i' d' env' t' key' reply' faults' call' hm _
            obtain ⟨rfl, rfl, rfl, rfl⟩ :
                i = i' ∧ env = env' ∧ reply = reply' ∧ faults = faults' := by
              simpa using hm.action
            obtain rfl : d = d' := Option.some.inj (hd.symm.trans hm.delivery)
            obtain ⟨rfl, -⟩ : t = t' ∧ _ := by simpa using hp.symm.trans hm.phase
            exact hiff.mp ⟨s', hout⟩
        | error e =>
            refine Or.inr ⟨?_, ?_, execute_auditRows_error hout⟩
            · intro hkeeps
              obtain ⟨s', hok⟩ := hiff.mpr (hkeeps _ _ _ _ _ _ _ _ hmade haudited)
              exact absurd (hout.symm.trans hok) (by simp)
            · unfold stageRows
              rw [hcall]
              simp [haudited]
      · -- no call, or one whose exception is not caught: there is no row to write
        have hnil : c.stageRows d t t.idempotencyKey env reply = [] := by
          unfold stageRows
          cases hc : stageCall env (d.context t t.idempotencyKey) reply c.sys.store with
          | none => rfl
          | some call =>
              have hna : ¬ call.audited = true := fun ha => hcall ⟨call, hc, ha⟩
              simp [hna]
        refine Or.inl ⟨?_, ?_⟩
        · intro i' d' env' t' key' reply' faults' call' hm haudited
          obtain ⟨rfl, rfl, rfl, rfl⟩ :
              i = i' ∧ env = env' ∧ reply = reply' ∧ faults = faults' := by
            simpa using hm.action
          obtain rfl : d = d' := Option.some.inj (hd.symm.trans hm.delivery)
          obtain ⟨rfl, rfl⟩ : t = t' ∧ t.idempotencyKey = key' := by
            simpa using hp.symm.trans hm.phase
          exact absurd ⟨call', hm.call, haudited⟩ hcall
        · cases hout : stageOutcome repo cfg env (d.context t t.idempotencyKey) reply faults
              c.sys.store with
          | ok s' => exact execute_auditRows_ok hout
          | error e => rw [hnil, List.append_nil]; exact execute_auditRows_error hout

theorem TrailSound.step (h : TrailSound c) (a : CallAction) :
    TrailSound (step repo cfg sc a c) where
  sound := step_sound h a
  rows := by
    obtain ⟨added, hcalls, ⟨-, hrows⟩ | ⟨-, -, hrows⟩⟩ := step_rows h a
    · rw [hcalls, hrows]
      exact (List.subperm_append_right added).mpr h.rows
    · rw [hcalls, hrows]
      exact h.rows.trans (List.sublist_append_left ..).subperm

/-- **A step keeps the trail complete exactly if it keeps its row.** A row that is missing stays
missing. -/
theorem callsAudited_step (h : TrailSound c) (a : CallAction) :
    CallsAudited (step repo cfg sc a c) ↔ CallsAudited c ∧ KeepsRows repo cfg c a := by
  unfold CallsAudited
  obtain ⟨added, hcalls, ⟨hkeeps, hrows⟩ | ⟨hlost, hne, hrows⟩⟩ := step_rows h a
  · rw [hcalls, hrows, List.subperm_append_right]
    exact ⟨fun hsub => ⟨hsub, hkeeps⟩, fun hsub => hsub.1⟩
  · refine ⟨fun hsub => ?_, fun hsub => absurd hsub.2 hlost⟩
    -- there would be more rows than calls
    have hle := hsub.length_le
    rw [hcalls, hrows, List.length_append] at hle
    have hpos : 0 < added.length := List.length_pos_of_ne_nil hne
    have hbound := h.rows.length_le
    omega

end CallSys

/-! ### Runs -/

/-- **Which runs have a row for each of their calls**: those whose steps all keep theirs. -/
theorem run_calls_audited_iff (repo : WorkflowRepoKind) (cfg : AppConfig)
    (sc : ReconciliationScanner) (as : List CallAction) :
    CallsAudited (run (CallSys.step repo cfg sc) {} as) ↔
      Along (CallSys.step repo cfg sc) (KeepsRows repo cfg) {} as := by
  have hiff : CallsAudited (run (CallSys.step repo cfg sc) {} as) ↔
      CallsAudited {} ∧ Along (CallSys.step repo cfg sc) (KeepsRows repo cfg) {} as :=
    run_iff_along (fun c a h => CallSys.TrailSound.step h a)
      (fun c a h => CallSys.callsAudited_step h a) trailSound_empty
  have hempty : CallsAudited {} := List.nil_subperm
  rw [hiff]
  exact ⟨fun h => h.2, fun h => ⟨hempty, h⟩⟩

/-! ### A call that times out

The row that the handler adds for it is rolled back with the stage.
-/

/-- An action that raises nothing by itself. -/
def CallAction.ofAction : Action → CallAction
  | .delivery i (.execute env reply) => .execute i env reply {}
  | a => .other a

/-- The collection is processed, the agent of the topic selection times out, and the delivery
ends as a retryable failure. -/
def timeoutRun : List Action :=
  .initiate (Env.numbered 0 0) { workflowId := some "wf" } ::
    (processRow 1 0 0 0 1 (.ok {}) ++ publishRow "outbox-2" 0 2 ++
      executeEntry 1 0 "worker" "lease-2" 2 (StageEnv.numbered 2 2)
        (.error (.provider true true "timeout" "request timed out")) ++
      [.delivery 0 (.handleFailure (Env.numbered 3 4) 4), .delivery 0 .close])

/-- The call is made and its delivery has ended, but there is no row. -/
theorem timeoutRun_not_audited :
    ¬ CallsAudited (run (CallSys.step .postgres .prod {}) {}
      (timeoutRun.map CallAction.ofAction)) := by
  intro h
  have hcalls : (run (CallSys.step .postgres .prod {}) {}
      (timeoutRun.map CallAction.ofAction)).callRows.length = 1 := by decide +kernel
  have hrows : (run (CallSys.step .postgres .prod {}) {}
      (timeoutRun.map CallAction.ofAction)).sys.store.auditRows.length = 0 := by decide +kernel
  have hle := h.length_le
  omega

end CartoonDemo
