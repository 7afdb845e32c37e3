import CartoonDemo.System.Effects

/-!
# CartoonDemo.System.DeliverySpec

What one step of `_process_delivery` can do, read off `Delivery.step` once. `DeliveryStep`
lists it: most steps change the phase of the call and are quiet for the database; four phases
ack; two transactions move the workflow, the stage transaction and the permanent failure.

The invariants of the later modules are case analyses over `DeliveryStep` and `PhaseStep`.
-/

namespace CartoonDemo

open WorkflowEngine TransitionExecutor WorkerLoop WorkflowStateGuard

/-! ### The failure transactions -/

/-- The decision behind a permanent failure. -/
theorem failure_decision {st : WorkflowState} (hst : st.isTransient = true) (rc mx : Nat)
    (exhausted : Bool) :
    ∃ d, TransitionTable.lookup st
        (if exhausted then .retriesExhausted else .unrecoverableError) rc mx = .ok d ∧
      (d.toState = .failed ∨ d.toState = .failedPermanently) ∧ d.outboxTaskType = none ∧
      d.incrementRevisionCount = false := by
  cases exhausted with
  | false => exact ⟨_, TransitionTable.lookup_failure rc mx hst rfl, Or.inl rfl, rfl, rfl⟩
  | true => exact ⟨_, TransitionTable.lookup_failure rc mx hst rfl, Or.inr rfl, rfl, rfl⟩

/-- **A committed permanent failure**: the workflow was in the state of the stage and has
moved to a failure state; the task's status follows. -/
theorem permanentFailure_ok {repo : WorkflowRepoKind} {cfg : AppConfig} {env : Env}
    {m : TaskMessage} {tt : TaskType} {task : TaskRecord} {exhausted : Bool}
    {errorClass : String} {s s' : Store}
    (h : permanentFailure repo cfg env m tt task exhausted errorClass s = .ok s') :
    ∃ w row s₁, Moved env m.workflowId s s₁ w row none ∧ w.state = expectedStateForTask tt ∧
      (row.state = .failed ∨ row.state = .failedPermanently) ∧ Quiet s₁ s' := by
  obtain ⟨⟨res, s₁⟩, ha, hu⟩ := except_bind_ok h
  obtain ⟨w, d, hg, hst, hd, rfl, -, -, -⟩ := applyTransition_ok ha
  have htrans : w.state.isTransient = true := TransitionTable.lookup_transient hd
  obtain ⟨d', hd', hto, hnone, -⟩ :=
    failure_decision htrans w.revisionCount cfg.maxScenarioRevisions exhausted
  obtain rfl : d' = d := Except.ok.inj (hd'.symm.trans hd)
  have hm := Moved.of_transition env d' hg (transitionRow_reason env hd)
  rw [hnone] at hm
  refine ⟨w, _, _, hm, hst, hto, ?_⟩
  refine Quiet.of_updateTask ?_ hu
  cases exhausted <;> simp

/-- In the state of the stage the permanent failure goes through. -/
theorem permanentFailure_of_state (repo : WorkflowRepoKind) (cfg : AppConfig) (env : Env)
    {m : TaskMessage} {tt : TaskType} {task existing : TaskRecord} (exhausted : Bool)
    (errorClass : String) {s : Store} {w : WorkflowRecord}
    (hg : s.workflows.get? m.workflowId = some w) (hst : w.state = expectedStateForTask tt)
    (htask : s.tasks.get? task.taskId = some existing) :
    ∃ s', permanentFailure repo cfg env m tt task exhausted errorClass s = .ok s' := by
  have htrans : w.state.isTransient = true := by
    rw [hst]
    exact expectedStateForTask_transient tt
  obtain ⟨d, hd, -, hnone, hrc⟩ :=
    failure_decision htrans w.revisionCount cfg.maxScenarioRevisions exhausted
  have hg' : s.workflows.get? (failureRequest m tt exhausted errorClass).workflowId = some w := hg
  obtain ⟨res, ha⟩ := applyTransition_of_lookup env hg' hst hd (fun _ => hrc)
  unfold permanentFailure
  rw [ha]
  have hget : (transitionStore env (failureRequest m tt exhausted errorClass) w d s).tasks.get?
      task.taskId = some existing := by
    rw [transitionStore, written_tasks, hnone]
    exact htask
  dsimp only [bind, Except.bind, updateTask]
  rw [hget]
  exact ⟨_, rfl⟩

theorem retryableFailure_quiet {now : Time} {task : TaskRecord} {attempt : Nat} {reason : String}
    {s s' : Store} (h : retryableFailure now task attempt reason s = .ok s') : Quiet s s' :=
  Quiet.of_updateTask (by simp) h

/-! ### Steps of a delivery

Everything that a call may do, with its guard; later modules look at these cases and not at the
code.
-/

def Action.executes : Action → Bool
  | .delivery _ (.execute _ _) => true
  | _ => false

/-- The context of a delivery that executes. -/
def Delivery.context (d : Delivery) (t : TaskRecord) (key : String) : DeliveryContext :=
  { message := d.message, task := t, idempotencyKey := key }

/-- The steps between the phases of a call that neither ack nor move the workflow. -/
inductive PhaseStep (s : Store) (m : TaskMessage) : Phase → Phase → Prop
  | read (t : TaskRecord) (h : s.tasks.get? m.taskId = some t) :
      PhaseStep s m .received (.taskRead t)
  | accept (t : TaskRecord) (w : WorkflowRecord) (h : s.workflows.get? m.workflowId = some w)
      (hst : w.state = expectedStateForTask t.taskType) :
      PhaseStep s m (.taskRead t) (.accepted t)
  | skip (t : TaskRecord) (w : WorkflowRecord) (h : s.workflows.get? m.workflowId = some w)
      (hst : w.state ≠ expectedStateForTask t.taskType) : PhaseStep s m (.taskRead t) .stale
  | lease (t : TaskRecord) : PhaseStep s m (.accepted t) (.leased t)
  | duplicate (t : TaskRecord) (key : String) (h : deliveryKey s t m = .ok key)
      (hc : s.completed key = true) : PhaseStep s m (.leased t) (.duplicate t key)
  | execute (t : TaskRecord) (key : String) (h : deliveryKey s t m = .ok key)
      (hc : s.completed key = false) : PhaseStep s m (.leased t) (.executing t key)
  | release (t : TaskRecord) (key : String) : PhaseStep s m (.committed t key) (.released t key)
  | raise (p : Phase) (t : TaskRecord) (e : PyException) (h : p.mayRaise = some t) :
      PhaseStep s m p (.raised t e)
  | handled (t : TaskRecord) (e : PyException) : PhaseStep s m (.raised t e) .closing

/-- The phases in which the call acks its entry. -/
inductive AckPhase : Phase → Prop
  | stale : AckPhase .stale
  | duplicate (t : TaskRecord) (key : String) : AckPhase (.duplicate t key)
  | released (t : TaskRecord) (key : String) : AckPhase (.released t key)
  | failed (t : TaskRecord) : AckPhase (.failed t)

/-- What follows an ack: an ack inside the `try` block that raises enters the `except`
clauses. -/
inductive AfterAck (d : Delivery) : Option Delivery → Prop
  | done : AfterAck d none
  | closing : AfterAck d (some { d with phase := .closing })
  | raised (t : TaskRecord) (e : PyException) (h : d.phase.mayRaise = some t) :
      AfterAck d (some { d with phase := .raised t e })

/-- **Everything a step of a delivery can do.** -/
inductive DeliveryStep (repo : WorkflowRepoKind) (cfg : AppConfig) (s : Store) (d : Delivery)
    (a : DeliveryAction) : DeliveryEffect → Prop
  | stay : DeliveryStep repo cfg s d a { store := s, next := some d }
  | leave (s' : Store) (hq : Quiet s s') : DeliveryStep repo cfg s d a { store := s', next := none }
  | phase (s' : Store) (hq : Quiet s s') (lease : Option String) (p : Phase)
      (backoff : Option BackoffEntry) (h : PhaseStep s d.message d.phase p) :
      DeliveryStep repo cfg s d a
        { store := s', next := some { d with lease := lease, phase := p }, backoff := backoff }
  | ack (applied : Bool) (next : Option Delivery) (h : AckPhase d.phase) (hn : AfterAck d next) :
      DeliveryStep repo cfg s d a { store := s, acks := applied, next := next }
  | commit (env : StageEnv) (reply : AgentReply) (t : TaskRecord) (key : String) (s' : Store)
      (ha : a = .execute env reply) (hp : d.phase = .executing t key) (hf : s.freshStage env = true)
      (h : stageTransaction repo cfg env
        { message := d.message, task := t, idempotencyKey := key } reply s = .ok s') :
      DeliveryStep repo cfg s d a { store := s', next := some { d with phase := .committed t key } }
  | fail (env : Env) (readyAt : Time) (t : TaskRecord) (e : PyException) (tt : TaskType)
      (exhausted : Bool) (errorClass : String) (s' : Store)
      (ha : a = .handleFailure env readyAt) (hp : d.phase = .raised t e)
      (hd : failureDecision cfg t d.message e = .permanent tt exhausted errorClass)
      (h : permanentFailure repo cfg env d.message tt t exhausted errorClass s = .ok s') :
      DeliveryStep repo cfg s d a { store := s', next := some { d with phase := .failed t } }

theorem Quiet.of_closing (d : Delivery) (s : Store) :
    Quiet s (d.lease.elim s (releaseLease · s)) := by
  cases d.lease with
  | none => exact Quiet.refl s
  | some leaseId => exact Quiet.of_releaseLease s leaseId

/-! ### Steps with leases and attempts

The same cases with what happens to the lease and to the attempt.
-/

/-- The phases before the admission. -/
def Phase.waits : Phase → Bool
  | .received | .taskRead _ | .stale | .accepted _ => true
  | _ => false

/-- The phases in which the call must hold its lease. -/
def Phase.holds : Phase → Bool
  | .leased _ | .duplicate _ _ | .executing _ _ | .committed _ _ => true
  | _ => false

/-- The phases that a step enters without a change of leases and outside of the `except`
clauses. -/
def Phase.plain : Phase → Bool
  | .leased _ | .released _ _ | .closing => false
  | _ => true

/-- The store after the lease of the call is given back. -/
def Delivery.releaseStore (d : Delivery) (s : Store) : Store :=
  d.lease.elim s (releaseLease · s)

/-- The same, with what happens to the lease of the call, to the lease table and to the attempt
counter of the task. -/
inductive LoopStep (repo : WorkflowRepoKind) (cfg : AppConfig) (s : Store) (d : Delivery) :
    DeliveryAction → DeliveryEffect → Prop
  | stay (a : DeliveryAction) : LoopStep repo cfg s d a { store := s, next := some d }
  | leave (a : DeliveryAction) (hp : d.phase.waits = true) (acks : Bool)
      (hacks : acks = true → AckPhase d.phase) :
      LoopStep repo cfg s d a { store := s, acks := acks, next := none }
  | crash : LoopStep repo cfg s d .crash { store := s, next := none }
  | phase (a : DeliveryAction) (p : Phase) (h : PhaseStep s d.message d.phase p)
      (hk : p.plain = true) :
      LoopStep repo cfg s d a { store := s, next := some { d with phase := p } }
  | acquire (leaseId : String) (now : Time) (t : TaskRecord) (hp : d.phase = .accepted t)
      (s' : Store) (h : tryAcquireLease leaseId d.message.taskId d.worker s = some s') :
      LoopStep repo cfg s d (.takeLease leaseId now)
        { store := s', next := some { d with lease := some leaseId, phase := .leased t } }
  | execute (env : StageEnv) (reply : AgentReply) (t : TaskRecord) (key : String)
      (hp : d.phase = .executing t key) (hf : s.freshStage env = true) (e : PyException)
      (h : stageTransaction repo cfg env
        { message := d.message, task := t, idempotencyKey := key } reply s = .error e) :
      LoopStep repo cfg s d (.execute env reply)
        { store := s, next := some { d with phase := .raised t e } }
  | commit (env : StageEnv) (reply : AgentReply) (t : TaskRecord) (key : String)
      (hp : d.phase = .executing t key) (hf : s.freshStage env = true) (s' : Store)
      (h : stageTransaction repo cfg env
        { message := d.message, task := t, idempotencyKey := key } reply s = .ok s') :
      LoopStep repo cfg s d (.execute env reply)
        { store := s', next := some { d with phase := .committed t key } }
  | release (t : TaskRecord) (key : String) (hp : d.phase = .committed t key) :
      LoopStep repo cfg s d .release
        { store := d.releaseStore s, next := some { d with lease := none, phase := .released t key } }
  | ack (a : DeliveryAction) (acks : Bool) (h : AckPhase d.phase) (p : Phase)
      (hp : p = .closing ∨ ∃ t e, d.phase.mayRaise = some t ∧ p = .raised t e) :
      LoopStep repo cfg s d a { store := s, acks := acks, next := some { d with phase := p } }
  | retry (env : Env) (readyAt : Time) (t : TaskRecord) (e : PyException)
      (hp : d.phase = .raised t e) (attempt : Nat)
      (hd : failureDecision cfg t d.message e = .retry attempt) (s' : Store)
      (h : retryableFailure env.updatedAt t attempt e.str s = .ok s') :
      LoopStep repo cfg s d (.handleFailure env readyAt)
        { store := s', next := some { d with phase := .closing },
          backoff := some { worker := d.worker, taskId := t.taskId, readyAt := readyAt } }
  | fail (env : Env) (readyAt : Time) (t : TaskRecord) (e : PyException)
      (hp : d.phase = .raised t e) (tt : TaskType) (exhausted : Bool) (errorClass : String)
      (hd : failureDecision cfg t d.message e = .permanent tt exhausted errorClass) (s' : Store)
      (h : permanentFailure repo cfg env d.message tt t exhausted errorClass s = .ok s') :
      LoopStep repo cfg s d (.handleFailure env readyAt)
        { store := s', next := some { d with phase := .failed t } }
  | unhandled (env : Env) (readyAt : Time) (t : TaskRecord) (e : PyException)
      (hp : d.phase = .raised t e)
      (hd : ∀ tt exhausted errorClass,
        failureDecision cfg t d.message e = .permanent tt exhausted errorClass →
          ∃ err, permanentFailure repo cfg env d.message tt t exhausted errorClass s = .error err)
      (hr : ∀ attempt, failureDecision cfg t d.message e = .retry attempt →
        ∃ err, retryableFailure env.updatedAt t attempt e.str s = .error err) :
      LoopStep repo cfg s d (.handleFailure env readyAt)
        { store := s, next := some { d with phase := .closing } }
  | failureRaised (x : PyException) (t : TaskRecord) (e : PyException)
      (hp : d.phase = .raised t e) :
      LoopStep repo cfg s d (.failureRaises x)
        { store := s, next := some { d with phase := .closing } }
  | close (hp : d.phase = .closing) :
      LoopStep repo cfg s d .close { store := d.releaseStore s, next := none }

section LoopStep

variable {repo : WorkflowRepoKind} {cfg : AppConfig} {s : Store} {d : Delivery}
  {a : DeliveryAction}

theorem LoopStep.ackInTry {t : TaskRecord} (h : AckPhase d.phase)
    (ht : d.phase.mayRaise = some t) (outcome : AckOutcome) :
    LoopStep repo cfg s d a (d.ackInTry s t outcome) := by
  cases outcome with
  | ok => exact .ack a true h .closing (Or.inl rfl)
  | raised applied e => exact .ack a applied h _ (Or.inr ⟨t, e, ht, rfl⟩)

theorem LoopStep.handleException (env : Env) (readyAt : Time) {t : TaskRecord}
    {e : PyException} (hp : d.phase = .raised t e) :
    LoopStep repo cfg s d (.handleFailure env readyAt)
      (d.handleException repo cfg env readyAt s t e) := by
  unfold Delivery.handleException
  cases hd : failureDecision cfg t d.message e with
  | ignore =>
      refine .unhandled env readyAt t e hp ?_ ?_
      · intro tt exhausted errorClass h
        exact absurd (hd.symm.trans h) (by simp)
      · intro attempt h
        exact absurd (hd.symm.trans h) (by simp)
  | retry attempt =>
      dsimp only
      cases hr : retryableFailure env.updatedAt t attempt e.str s with
      | error err =>
          refine .unhandled env readyAt t e hp ?_ ?_
          · intro tt exhausted errorClass h
            exact absurd (hd.symm.trans h) (by simp)
          · intro attempt' h
            obtain rfl : attempt = attempt' := by simpa using hd.symm.trans h
            exact ⟨err, hr⟩
      | ok s' => exact .retry env readyAt t e hp attempt hd s' hr
  | permanent tt exhausted errorClass =>
      dsimp only
      cases hf : permanentFailure repo cfg env d.message tt t exhausted errorClass s with
      | error err =>
          refine .unhandled env readyAt t e hp ?_ ?_
          · intro tt' exhausted' errorClass' h
            obtain ⟨rfl, rfl, rfl⟩ :
                tt = tt' ∧ exhausted = exhausted' ∧ errorClass = errorClass' := by
              simpa using hd.symm.trans h
            exact ⟨err, hf⟩
          · intro attempt h
            exact absurd (hd.symm.trans h) (by simp)
      | ok s' => exact .fail env readyAt t e hp tt exhausted errorClass hd s' hf

/-- **Inversion of `Delivery.step`**, with leases and attempts. -/
theorem loopStep (repo : WorkflowRepoKind) (cfg : AppConfig) (backoff : Table BackoffEntry.key)
    (s : Store) (d : Delivery) (a : DeliveryAction) :
    LoopStep repo cfg s d a (d.step repo cfg backoff s a) := by
  unfold Delivery.step
  split
  · next hp => -- received, readTask
    cases ht : s.tasks.get? d.message.taskId with
    | none => exact .leave _ (by rw [hp]; rfl) false (by simp)
    | some t =>
        refine .phase _ _ ?_ rfl
        rw [hp]
        exact .read t ht
  · next t hp => -- taskRead, readWorkflow
    unfold getWorkflow
    cases hw : s.workflows.get? d.message.workflowId with
    | none => exact .leave _ (by rw [hp]; rfl) false (by simp)
    | some w =>
        dsimp only
        by_cases hst : classifyStaleTask w.state t.taskType = .proceed
        · rw [if_pos hst]
          refine .phase _ _ ?_ rfl
          rw [hp]
          exact .accept t w hw (classifyStaleTask_proceed.mp hst)
        · rw [if_neg hst]
          refine .phase _ _ ?_ rfl
          rw [hp]
          exact .skip t w hw (fun he => hst (classifyStaleTask_proceed.mpr he))
  · next hp => exact .leave _ (by rw [hp]; rfl) false (by simp) -- received, readRaises
  · next t hp => exact .leave _ (by rw [hp]; rfl) false (by simp) -- taskRead, readRaises
  · next outcome hp => exact .leave _ (by rw [hp]; rfl) outcome.applied (fun _ => by rw [hp]; exact .stale) -- stale
  · next t leaseId now hp => -- accepted, takeLease
    by_cases hdefer : shouldDefer backoff d.worker d.message.taskId now = true
    · rw [if_pos hdefer]
      exact .leave _ (by rw [hp]; rfl) false (by simp)
    · rw [if_neg hdefer]
      cases hl : tryAcquireLease leaseId d.message.taskId d.worker s with
      | none =>
          refine .phase _ _ ?_ rfl
          rw [hp]
          exact .raise _ t _ rfl
      | some s' => exact .acquire leaseId now t hp s' hl
  · next t hp => -- leased, precheck
    cases hk : deliveryKey s t d.message with
    | error e =>
        refine .phase _ _ ?_ rfl
        rw [hp]
        exact .raise _ t _ rfl
    | ok key =>
        dsimp only
        by_cases hc : s.completed key = true
        · rw [if_pos hc]
          refine .phase _ _ ?_ rfl
          rw [hp]
          exact .duplicate t key hk hc
        · rw [if_neg hc]
          refine .phase _ _ ?_ rfl
          rw [hp]
          exact .execute t key hk (by simpa using hc)
  · next t key outcome hp => -- duplicate
    refine .ackInTry ?_ (by rw [hp]; rfl) outcome
    rw [hp]
    exact .duplicate t key
  · next t key env reply hp => -- executing
    by_cases hf : s.freshStage env = true
    · rw [if_pos hf]
      cases htx : stageTransaction repo cfg env
          { message := d.message, task := t, idempotencyKey := key } reply s with
      | error e => exact .execute env reply t key hp hf e htx
      | ok s' => exact .commit env reply t key hp hf s' htx
    · rw [if_neg hf]
      exact .stay _
  · next t key hp => exact .release t key hp -- committed
  · next t key outcome hp => -- released
    refine .ackInTry ?_ (by rw [hp]; rfl) outcome
    rw [hp]
    exact .released t key
  · next t e env readyAt hp => exact .handleException env readyAt hp -- raised
  · next t e x hp => exact .failureRaised x t e hp -- raised, failureRaises
  · next t outcome hp => -- failed
    refine .ack _ outcome.applied ?_ .closing (Or.inl rfl)
    rw [hp]
    exact .failed t
  · next hp => exact .close hp -- closing
  · next e => -- raise
    cases hr : d.phase.mayRaise with
    | none => exact .stay _
    | some t => exact .phase _ _ (.raise _ t e hr) rfl
  · exact .crash
  · exact .stay _

/-- What `LoopStep` says, without leases and attempts. -/
theorem LoopStep.deliveryStep {e : DeliveryEffect} (h : LoopStep repo cfg s d a e) :
    DeliveryStep repo cfg s d a e := by
  have hgoto : ∀ {p : Phase}, PhaseStep s d.message d.phase p →
      DeliveryStep repo cfg s d a { store := s, next := some { d with phase := p } } :=
    fun h => .phase s (Quiet.refl s) d.lease _ none h
  cases h with
  | stay a => exact .stay
  | leave a hp acks hacks =>
      cases acks with
      | false => exact .leave s (Quiet.refl s)
      | true => exact .ack true none (hacks rfl) .done
  | crash => exact .leave s (Quiet.refl s)
  | phase a p h hk => exact hgoto h
  | acquire leaseId now t hp s' h =>
      refine .phase s' (Quiet.of_tryAcquireLease h) (some leaseId) (.leased t) none ?_
      rw [hp]
      exact .lease t
  | execute env reply t key hp hf e h =>
      refine hgoto ?_
      rw [hp]
      exact .raise _ t _ rfl
  | commit env reply t key hp hf s' h => exact .commit env reply t key s' rfl hp hf h
  | release t key hp =>
      refine .phase _ (Quiet.of_closing d s) none (.released t key) none ?_
      rw [hp]
      exact .release t key
  | ack a acks h p hp =>
      rcases hp with rfl | ⟨t, e, ht, rfl⟩
      · exact .ack acks _ h .closing
      · exact .ack acks _ h (.raised t e ht)
  | retry env readyAt t e hp attempt hd s' h =>
      refine .phase s' (retryableFailure_quiet h) d.lease .closing _ ?_
      rw [hp]
      exact .handled t e
  | fail env readyAt t e hp tt exhausted errorClass hd s' h =>
      exact .fail env readyAt t e tt exhausted errorClass s' rfl hp hd h
  | unhandled env readyAt t e hp hd hr =>
      refine hgoto ?_
      rw [hp]
      exact .handled t e
  | failureRaised x t e hp =>
      refine hgoto ?_
      rw [hp]
      exact .handled t e
  | close hp => exact .leave _ (Quiet.of_closing d s)

/-- **Inversion of `Delivery.step`.** -/
theorem deliveryStep (repo : WorkflowRepoKind) (cfg : AppConfig)
    (backoff : Table BackoffEntry.key) (s : Store) (d : Delivery) (a : DeliveryAction) :
    DeliveryStep repo cfg s d a (d.step repo cfg backoff s a) :=
  (loopStep repo cfg backoff s d a).deliveryStep

end LoopStep

/-! ### The stage transaction -/

section Execute

variable {repo : WorkflowRepoKind} {cfg : AppConfig} {backoff : Table BackoffEntry.key} {s : Store}
  {d : Delivery} {t : TaskRecord} {key : String} {env : StageEnv} {reply : AgentReply}

theorem Delivery.step_execute_error {e : PyException} (hp : d.phase = .executing t key)
    (hf : s.freshStage env = true) (h : stageTransaction repo cfg env
      { message := d.message, task := t, idempotencyKey := key } reply s = .error e) :
    d.step repo cfg backoff s (.execute env reply) = d.goto s (.raised t e) := by
  simp only [Delivery.step, hp, hf, if_true, h]

theorem Delivery.step_execute_ok {s' : Store} (hp : d.phase = .executing t key)
    (hf : s.freshStage env = true) (h : stageTransaction repo cfg env
      { message := d.message, task := t, idempotencyKey := key } reply s = .ok s') :
    d.step repo cfg backoff s (.execute env reply) = d.goto s' (.committed t key) := by
  simp only [Delivery.step, hp, hf, if_true, h]

end Execute

end CartoonDemo
