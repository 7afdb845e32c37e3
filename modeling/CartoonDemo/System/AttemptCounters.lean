import CartoonDemo.System.LeaseSpec
import CartoonDemo.System.NoLostWork
import CartoonDemo.Worker.Exceptions

/-!
# CartoonDemo.System.AttemptCounters

**The attempt counters of the task rows**, what an action does to them, and which actions start the
handler of a task (`Sys.startedTask`).

A worker reads the counter before it has the lease and writes it after the stage has failed, so two
workers that have read the same row can both write the same successor. `Sys.currentReads` says that
no call acts on such an outdated read.
-/

namespace CartoonDemo

open WorkflowEngine TransitionExecutor WorkerLoop WorkflowStateGuard

/-! ### Attempt counters

A row keeps its counter in every step but the two that write a failure.
-/

/-- Attempt counters keep their value, and that of a new task is `1`. -/
def AttemptsKept (tasks tasks' : Table TaskRecord.taskId) : Prop :=
  ∀ id t', tasks'.get? id = some t' →
    (∃ t, tasks.get? id = some t ∧ t'.taskType = t.taskType ∧ t'.attempt = t.attempt) ∨
      (tasks.get? id = none ∧ t'.attempt = 1)

theorem AttemptsKept.refl (tasks : Table TaskRecord.taskId) : AttemptsKept tasks tasks :=
  fun _ t ht => Or.inl ⟨t, ht, rfl, rfl⟩

theorem attemptsKept_dispatch {env : Env} {w : WorkflowRecord} {next : Option (TaskType × Int)}
    {s : Store} (hf : next ≠ none → s.freshDispatch env = true) :
    AttemptsKept s.tasks (dispatch env (nextBuild env w 1 next) s).tasks := by
  cases next with
  | none => exact AttemptsKept.refl _
  | some p =>
      have hnone := (Store.freshDispatch_iff.mp (hf (by simp))).2.1
      intro id t' ht'
      change (s.tasks.upsert _).get? id = some t' at ht'
      rw [Table.get?_upsert] at ht'
      split at ht'
      · next hid =>
        obtain rfl := Option.some.inj ht'
        exact Or.inr ⟨by rw [← hid]; exact hnone, rfl⟩
      · exact Or.inl ⟨t', ht', rfl, rfl⟩

/-- `update_task` without an attempt. -/
theorem AttemptsKept.updated {tasks tasks' : Table TaskRecord.taskId} (h : AttemptsKept tasks tasks')
    {id : String} {row : TaskRecord} (hrow : tasks'.get? id = some row) (now : Time)
    (status : TaskStatus) (failureReason : Option String) (completedAt : Option Time) :
    AttemptsKept tasks
      (tasks'.upsert (updatedTask row now status none failureReason completedAt)) := by
  intro id' t' ht'
  rw [Table.get?_upsert] at ht'
  split at ht'
  · next hid =>
    obtain rfl := Option.some.inj ht'
    have hkey : row.taskId = id := Table.key_of_get? hrow
    have hid' : id = id' := hkey.symm.trans hid
    rw [hid'] at hrow
    exact h id' row hrow
  · exact h id' t' ht'

theorem Staged.attemptsKept {cfg : AppConfig} {env : StageEnv} {ctx : DeliveryContext} {n : Int}
    {s s' : Store} {w row : WorkflowRecord} {next : Option (TaskType × Int)} {denv : Env}
    {task : TaskRecord} (h : Staged cfg env ctx n s s' w row next denv task) :
    AttemptsKept s.tasks s'.tasks := by
  rw [h.tasks]
  exact (attemptsKept_dispatch (fun _ => h.freshDispatch)).updated h.found _ _ _ _

theorem permanentFailure_attempts {repo : WorkflowRepoKind} {cfg : AppConfig} {env : Env}
    {m : TaskMessage} {tt : TaskType} {task : TaskRecord} {exhausted : Bool}
    {errorClass : String} {s s' : Store}
    (h : permanentFailure repo cfg env m tt task exhausted errorClass s = .ok s') :
    AttemptsKept s.tasks s'.tasks := by
  obtain ⟨⟨res, s₁⟩, ha, hu⟩ := except_bind_ok h
  obtain ⟨w, d, hg, -, hd, rfl, -, -, -⟩ := applyTransition_ok ha
  obtain ⟨d', hd', -, hnone, -⟩ := failure_decision (TransitionTable.lookup_transient hd)
    w.revisionCount cfg.maxScenarioRevisions exhausted
  obtain rfl : d' = d := Except.ok.inj (hd'.symm.trans hd)
  have hkept : AttemptsKept s.tasks
      (transitionStore env (failureRequest m tt exhausted errorClass) w d' s).tasks := by
    rw [transitionStore, written_tasks, hnone]
    exact AttemptsKept.refl _
  obtain ⟨existing, hex, rfl⟩ := updateTask_ok hu
  exact hkept.updated hex _ _ _ _

/-- No step but that of a delivery changes an attempt counter or records a completion. -/
theorem step_attempts (repo : WorkflowRepoKind) (cfg : AppConfig) (sc : ReconciliationScanner)
    (σ : Sys) {a : Action} (ha : a.origin = .pipeline) (hd : ∀ i b, a ≠ .delivery i b) :
    AttemptsKept σ.store.tasks (Sys.step repo cfg sc a σ).store.tasks ∧
      (Sys.step repo cfg sc a σ).store.idempotency = σ.store.idempotency := by
  have hstep := stepStore repo cfg sc σ a
  generalize (Sys.step repo cfg sc a σ).store = s' at hstep
  cases hstep with
  | same a => exact ⟨AttemptsKept.refl _, rfl⟩
  | initiate env request res s' hf he =>
      obtain ⟨id, w, row, hc⟩ := Created.of_initiate he
      rw [hc.tasks]
      exact ⟨attemptsKept_dispatch (fun _ => hf), hc.idempotency⟩
  | approve env workflowId action actor res s' hf he =>
      obtain ⟨w, row, next, hm, -⟩ := @approval_moved _ cfg _ _ _ _ _ _ _ he
      rw [hm.tasks]
      exact ⟨attemptsKept_dispatch (fun _ => hf), hm.idempotency⟩
  | transition env request => exact absurd ha (by simp [Action.origin])
  | mark i a outboxId s' hm =>
      rw [hm.same]
      exact ⟨AttemptsKept.refl _, rfl⟩
  | delivery i b d hget => exact absurd rfl (hd i b)
  | expire taskId => exact ⟨AttemptsKept.refl _, rfl⟩
  | repair k env => exact absurd ha (by simp [Action.origin])

/-- A message carries the attempt counter of its task at the time it is enqueued. -/
theorem step_stream (repo : WorkflowRepoKind) (cfg : AppConfig) (sc : ReconciliationScanner)
    (σ : Sys) {a : Action} (ha : a.origin = .pipeline) (hd : ∀ i b, a ≠ .delivery i b)
    {m : StreamEntry} (hm : m ∈ (Sys.step repo cfg sc a σ).stream) :
    m ∈ σ.stream ∨ ∃ t, σ.store.tasks.get? m.message.taskId = some t ∧
      m.message.attempt = t.attempt := by
  have hnew : ∀ {e : OutboxEntry} {message : TaskMessage}, buildMessage σ.store e = some message →
      m ∈ σ.stream ++ [{ message := message }] → m ∈ σ.stream ∨
        ∃ t, σ.store.tasks.get? m.message.taskId = some t ∧ m.message.attempt = t.attempt := by
    intro e message hb hmem
    rcases List.mem_append.mp hmem with hold | hlast
    · exact Or.inl hold
    · obtain rfl := List.mem_singleton.mp hlast
      obtain ⟨t, ht, rfl⟩ := Option.map_eq_some_iff.mp hb
      exact Or.inr ⟨t, ht, rfl⟩
  cases a with
  | publish i a =>
      unfold Sys.step at hm
      dsimp only at hm
      split at hm
      · exact Or.inl hm
      · next f _ =>
        cases a with
        | enqueue =>
            unfold Sys.stepPublish at hm
            dsimp only at hm
            split at hm
            · exact Or.inl hm
            · split at hm
              · exact Or.inl hm
              · next hb => exact hnew hb hm
        | enqueueRaises applied =>
            unfold Sys.stepPublish at hm
            dsimp only at hm
            split at hm
            · exact Or.inl hm
            · split at hm
              · exact Or.inl hm
              · next hb =>
                split at hm
                · exact hnew hb hm
                · exact Or.inl hm
        | mark now =>
            unfold Sys.stepPublish at hm
            dsimp only at hm
            split at hm <;> exact Or.inl hm
        | markRaises now applied =>
            unfold Sys.stepPublish at hm
            dsimp only at hm
            split at hm <;> exact Or.inl hm
        | drop => exact Or.inl hm
  | delivery i b => exact absurd rfl (hd i b)
  | scan | scanCollect | scanCollectRaises | transition => exact absurd ha (by simp [Action.origin])
  | initiate | approve | fetchRow | deliver =>
      unfold Sys.step at hm
      dsimp only at hm
      repeat' split at hm
      all_goals exact Or.inl hm
  | crashWorker | expireLease => exact Or.inl hm

/-! ### Starts -/

/-- The task whose handler a step starts. An exception in this phase that is none of the loop's
own may come from the commit of the transaction, after the handler has run. -/
def Sys.startedTask (σ : Sys) : Action → Option String
  | .delivery i b =>
      (σ.deliveries[i]?).bind fun d =>
        match d.phase, b with
        | .executing _ _, .execute env _ =>
            if σ.store.freshStage env then some d.message.taskId else none
        | .executing _ _, .raise e => if e.ofLoop then none else some d.message.taskId
        | _, _ => none
  | _ => none

/-- How often the handler of the task is started in a run. -/
def starts (step : Action → Sys → Sys) (taskId : String) : Sys → List Action → Nat
  | _, [] => 0
  | σ, a :: as =>
      (if σ.startedTask a = some taskId then 1 else 0) + starts step taskId (step a σ) as

theorem startedTask_some {σ : Sys} {a : Action} {taskId : String}
    (h : σ.startedTask a = some taskId) :
    ∃ i d t key, σ.deliveries[i]? = some d ∧ d.phase = .executing t key ∧
      d.message.taskId = taskId ∧
      ((∃ env reply, a = .delivery i (.execute env reply) ∧ σ.store.freshStage env = true) ∨
        ∃ e, a = .delivery i (.raise e) ∧ e.ofStage) := by
  unfold Sys.startedTask at h
  split at h
  · next i b =>
    obtain ⟨d, hd, h⟩ := Option.bind_eq_some_iff.mp h
    split at h
    · next t key env reply hp _ =>
      split at h
      · next hf =>
        exact ⟨i, d, t, key, hd, hp, Option.some.inj h, Or.inl ⟨env, reply, rfl, hf⟩⟩
      · exact absurd h (by simp)
    · next t key e hp _ =>
      split at h
      · exact absurd h (by simp)
      · next hloop =>
        exact ⟨i, d, t, key, hd, hp, Option.some.inj h,
          Or.inr ⟨e, rfl, by simpa [PyException.ofStage] using hloop⟩⟩
    · exact absurd h (by simp)
  · exact absurd h (by simp)

/-- The collector or agent of a step, and the store that takes its artifact, raise none of the
loop's own exceptions. -/
def Action.stageReply : Action → Bool
  | .delivery _ (.execute env reply) =>
      !env.refused.any PyException.ofLoop &&
        match reply with
        | .error e => !e.ofLoop
        | .ok _ => true
  | _ => true

theorem stageReply_execute {i : Nat} {env : StageEnv} {reply : AgentReply}
    (h : (Action.delivery i (.execute env reply)).stageReply = true) :
    (∀ e, env.refused = some e → e.ofStage) ∧ Raises PyException.ofStage reply := by
  simp only [Action.stageReply, Bool.and_eq_true, Bool.not_eq_true'] at h
  constructor
  · intro e he
    have hloop : e.ofLoop = false := by simpa [he] using h.1
    exact hloop
  · cases reply with
    | ok r => exact raises_ok ..
    | error e =>
        have hloop : e.ofLoop = false := by simpa using h.2
        exact raises_error.mpr hloop

/-- The steps among which the budget is to be respected: publishers, workers and users, no
worker dies, no lease expires, no reconciler. -/
def Steady (σ : Sys) (a : Action) : Prop :=
  a.origin = .pipeline ∧ a.calm = true ∧ σ.freshLease a = true ∧ a.stageReply = true

instance (σ : Sys) (a : Action) : Decidable (Steady σ a) :=
  inferInstanceAs (Decidable (_ ∧ _))

/-! ### Current reads

What the call has read of the row is still what the row holds.
-/

/-- The counter that the call has read is the stored one. -/
def Delivery.currentAttempt (s : Store) (d : Delivery) (t : TaskRecord) : Bool :=
  (s.tasks.get? d.message.taskId).any (fun t' => t'.attempt = t.attempt)

/-- The delivery would not be classified as stale now. -/
def Delivery.currentState (s : Store) (d : Delivery) (t : TaskRecord) : Bool :=
  (getWorkflow s d.message.workflowId).any
    (fun w => classifyStaleTask w.state t.taskType = .proceed)

/-- **No call acts on an outdated read**: when a handler starts, the counter and the state that
the call has read are the stored ones, and so is the counter when it is written back. And no
write of a failure raises. -/
def Sys.currentReads (cfg : AppConfig) (σ : Sys) : Action → Bool
  | .delivery i b =>
      (σ.deliveries[i]?).all fun d =>
        match d.phase, b with
        | .executing t _, .execute _ _ | .executing t _, .raise _ =>
            d.currentAttempt σ.store t && d.currentState σ.store t
        | .raised t e, .handleFailure _ _ =>
            match failureDecision cfg t d.message e with
            | .retry _ => d.currentAttempt σ.store t
            | _ => true
        | .raised _ _, .failureRaises _ => false
        | _, _ => true
  | _ => true

theorem currentReads_start {cfg : AppConfig} {σ : Sys} {i : Nat} {d : Delivery} {t : TaskRecord}
    {key : String} {b : DeliveryAction} (hd : σ.deliveries[i]? = some d)
    (hp : d.phase = .executing t key)
    (hb : (∃ env reply, b = .execute env reply) ∨ ∃ e, b = .raise e)
    (h : σ.currentReads cfg (.delivery i b) = true) :
    d.currentAttempt σ.store t = true ∧ d.currentState σ.store t = true := by
  unfold Sys.currentReads at h
  dsimp only at h
  rw [hd, Option.all_some, hp] at h
  rcases hb with ⟨env, reply, rfl⟩ | ⟨e, rfl⟩
  · simpa using h
  · simpa using h

theorem currentReads_failureRaises {cfg : AppConfig} {σ : Sys} {i : Nat} {d : Delivery}
    {t : TaskRecord} {e x : PyException} (hd : σ.deliveries[i]? = some d)
    (hp : d.phase = .raised t e) : σ.currentReads cfg (.delivery i (.failureRaises x)) = false := by
  unfold Sys.currentReads
  dsimp only
  rw [hd, Option.all_some, hp]

theorem currentReads_retry {cfg : AppConfig} {σ : Sys} {i : Nat} {d : Delivery} {t : TaskRecord}
    {e : PyException} {env : Env} {readyAt : Time} {attempt : Nat}
    (hd : σ.deliveries[i]? = some d) (hp : d.phase = .raised t e)
    (hdec : failureDecision cfg t d.message e = .retry attempt)
    (h : σ.currentReads cfg (.delivery i (.handleFailure env readyAt)) = true) :
    d.currentAttempt σ.store t = true := by
  unfold Sys.currentReads at h
  dsimp only at h
  rw [hd, Option.all_some, hp] at h
  dsimp only at h
  rw [hdec] at h
  exact h

end CartoonDemo
