import CartoonDemo.System.AttemptCounters

/-!
# CartoonDemo.System.Budget

**Every start is paid for.** The handler of a task has been started less often than its counter
says, or as often and the task is closed, because it is settled or because a call still has to write
its failure (`Budget`). The calls of a delivery keep this: the one that starts a handler finds the
task open, and the one that ends it closes the task or writes the counter one higher.
-/

namespace CartoonDemo

open WorkflowEngine TransitionExecutor WorkerLoop WorkflowStateGuard

/-! ### The invariant -/

/-- No further start is due: the task is settled, or a call that holds its lease is about to
write its failure. -/
def Closed (σ : Sys) (taskId : String) : Prop :=
  Settled σ.store taskId ∨ ∃ d ∈ σ.deliveries, d.message.taskId = taskId ∧ d.lease ≠ none ∧
    ∃ t e, d.phase = .raised t e ∧ e.ofStage

/-- The handler of the task `id` has been started `n id` times. -/
structure Budget (cfg : AppConfig) (n : String → Nat) (σ : Sys) : Prop where
  delivered : Delivered σ
  held : Held σ
  bounded : ∀ t ∈ σ.store.tasks.rows, t.attempt ≤ cfg.maxAttempts t.taskType
  enqueued : ∀ m ∈ σ.stream, ∀ t, σ.store.tasks.get? m.message.taskId = some t →
    m.message.attempt ≤ t.attempt
  unknown : ∀ id, σ.store.tasks.get? id = none → n id = 0
  /-- What the pre-check has seen lasts until the end of the stage. -/
  open_ : ∀ d ∈ σ.deliveries, ∀ t key, d.phase = .executing t key →
    σ.store.completed key = false
  spent : ∀ id t, σ.store.tasks.get? id = some t →
    n id < t.attempt ∨ n id ≤ t.attempt ∧ Closed σ id

theorem budget_empty (cfg : AppConfig) : Budget cfg (fun _ => 0) {} where
  delivered := delivered_empty
  held := held_empty
  bounded := by intro t ht; exact absurd ht (by simp)
  enqueued := by intro m hm; exact absurd hm (by simp)
  unknown := fun _ _ => rfl
  open_ := by intro d hd; exact absurd hd (by simp)
  spent := by intro id t ht; exact absurd ht (by simp)

/-- What a step does to the budget of one task. -/
inductive Spend (cfg : AppConfig) (σ σ' : Sys) (id : String) (k : Nat) : Nat → Prop
  | keep (h : ∀ t', σ'.store.tasks.get? id = some t' →
        (∃ t, σ.store.tasks.get? id = some t ∧ t'.taskType = t.taskType ∧ t'.attempt = t.attempt) ∨
          (σ.store.tasks.get? id = none ∧ t'.attempt = 1))
      (hc : Closed σ id → Closed σ' id) : Spend cfg σ σ' id k k
  | start (t t' : TaskRecord) (ht : σ.store.tasks.get? id = some t)
      (ht' : σ'.store.tasks.get? id = some t') (htype : t'.taskType = t.taskType)
      (hatt : t'.attempt = t.attempt) (hk : k < t.attempt) (hc : Closed σ' id) :
      Spend cfg σ σ' id k (k + 1)
  | retry (t t' : TaskRecord) (ht : σ.store.tasks.get? id = some t)
      (ht' : σ'.store.tasks.get? id = some t') (htype : t'.taskType = t.taskType)
      (hatt : t'.attempt = t.attempt + 1) (hmax : t.attempt < cfg.maxAttempts t.taskType) :
      Spend cfg σ σ' id k k

/-- A counter never decreases. -/
theorem Spend.mono {cfg : AppConfig} {σ σ' : Sys} {id : String} {k k' : Nat} {t t' : TaskRecord}
    (h : Spend cfg σ σ' id k k') (ht : σ.store.tasks.get? id = some t)
    (ht' : σ'.store.tasks.get? id = some t') : t.attempt ≤ t'.attempt := by
  cases h with
  | keep h hc =>
      rcases h t' ht' with ⟨t₀, ht₀, -, hatt⟩ | ⟨hnone, -⟩
      · obtain rfl := Option.some.inj (ht₀.symm.trans ht)
        omega
      · rw [hnone] at ht
        exact absurd ht (by simp)
  | start t₀ t₁ ht₀ ht₁ htype hatt hk hc =>
      obtain rfl := Option.some.inj (ht₀.symm.trans ht)
      obtain rfl := Option.some.inj (ht₁.symm.trans ht')
      omega
  | retry t₀ t₁ ht₀ ht₁ htype hatt hmax =>
      obtain rfl := Option.some.inj (ht₀.symm.trans ht)
      obtain rfl := Option.some.inj (ht₁.symm.trans ht')
      omega

/-- The counters after a step, from what the step does to each task. -/
theorem Budget.advance {cfg : AppConfig} {n n' : String → Nat} {σ σ' : Sys} (h : Budget cfg n σ)
    (hmax : ∀ tt, 1 ≤ cfg.maxAttempts tt) (hdelivered : Delivered σ') (hheld : Held σ')
    (hext : Extends σ.store σ'.store) (hspend : ∀ id, Spend cfg σ σ' id (n id) (n' id))
    (hstream : ∀ m ∈ σ'.stream, (∃ m₀ ∈ σ.stream, m.message = m₀.message) ∨
      ∃ t, σ.store.tasks.get? m.message.taskId = some t ∧ m.message.attempt = t.attempt)
    (hopen : ∀ d ∈ σ'.deliveries, ∀ t key, d.phase = .executing t key →
      σ'.store.completed key = false) : Budget cfg n' σ' where
  delivered := hdelivered
  held := hheld
  bounded := by
    intro t' ht'
    have hget := Table.get?_of_mem ht'
    have hs := hspend t'.taskId
    generalize n' t'.taskId = k' at hs
    cases hs with
    | keep hk hc =>
        rcases hk t' hget with ⟨t, ht, htype, hatt⟩ | ⟨-, hone⟩
        · rw [htype, hatt]
          exact h.bounded t (Table.mem_of_get? ht)
        · rw [hone]
          exact hmax _
    | start t t₁ ht ht₁ htype hatt hk hc =>
        obtain rfl := Option.some.inj (ht₁.symm.trans hget)
        rw [htype, hatt]
        exact h.bounded t (Table.mem_of_get? ht)
    | retry t t₁ ht ht₁ htype hatt hlt =>
        obtain rfl := Option.some.inj (ht₁.symm.trans hget)
        rw [htype, hatt]
        exact hlt
  enqueued := by
    intro m hm t' ht'
    have hold : ∃ t, σ.store.tasks.get? m.message.taskId = some t ∧
        m.message.attempt ≤ t.attempt := by
      rcases hstream m hm with ⟨m₀, hm₀, heq⟩ | ⟨t, ht, hatt⟩
      · obtain ⟨t, ht, -⟩ := h.delivered.sound.stream m₀ hm₀
        rw [heq]
        exact ⟨t, ht, h.enqueued m₀ hm₀ t ht⟩
      · exact ⟨t, ht, hatt.le⟩
    obtain ⟨t, ht, hle⟩ := hold
    exact hle.trans ((hspend _).mono ht ht')
  unknown := by
    intro id hnone'
    have hnone : σ.store.tasks.get? id = none := by
      by_contra hsome
      exact hext.task_ne_none hsome hnone'
    cases hn : n' id with
    | zero => rfl
    | succ k =>
        have hs := hspend id
        rw [hn, h.unknown id hnone] at hs
        cases hs with
        | start t t' ht => rw [hnone] at ht; exact absurd ht (by simp)
  open_ := hopen
  spent := by
    intro id t' ht'
    have hs := hspend id
    generalize n' id = k' at hs ⊢
    cases hs with
    | keep hk hc =>
        rcases hk t' ht' with ⟨t, ht, -, hatt⟩ | ⟨hnone, hone⟩
        · rw [hatt]
          exact (h.spent id t ht).imp (fun hlt => hlt) (fun hle => ⟨hle.1, hc hle.2⟩)
        · rw [h.unknown id hnone, hone]
          exact Or.inl (by omega)
    | start t t₁ ht ht₁ htype hatt hk hc =>
        obtain rfl := Option.some.inj (ht₁.symm.trans ht')
        exact Or.inr ⟨by omega, hc⟩
    | retry t t₁ ht ht₁ htype hatt hlt =>
        obtain rfl := Option.some.inj (ht₁.symm.trans ht')
        have hle := h.spent id t ht
        exact Or.inl (by omega)

/-! ### One task for each key

Two deliveries that execute have different tasks, so a start is one for its own task only.
-/

/-- Two tasks with one key are the same task. -/
theorem Delivered.task_unique {σ : Sys} (h : Delivered σ) {t t' : TaskRecord}
    (ht : t ∈ σ.store.tasks.rows) (ht' : t' ∈ σ.store.tasks.rows)
    (hkey : t.idempotencyKey = t'.idempotencyKey) : t = t' := by
  obtain ⟨n, hn⟩ := h.sound.store.task t ht
  obtain ⟨n', hn'⟩ := h.sound.store.task t' ht'
  have hform := hkey
  rw [hn.key, hn'.key] at hform
  obtain ⟨hwf, htype, -⟩ := formatIdempotencyKey_inj hform
  obtain ⟨p, hp, hl⟩ := h.live t.workflowId hn.workflow
  -- the operations of the workflow are listed without repetition
  have hnodup : (σ.store.operations t.workflowId).Nodup := by
    rw [hp.dispatched]
    exact hl.once.map (fun o o' heq => opKey_inj heq)
  unfold Store.operations at hnodup
  refine List.inj_on_of_nodup_map hnodup ?_ ?_ ?_
  · exact List.mem_filter.mpr ⟨ht, by simp⟩
  · exact List.mem_filter.mpr ⟨ht', by simp [hwf]⟩
  · exact Prod.ext htype hkey

/-- The task whose handler runs in the call is stored under the call's key. -/
theorem Delivered.executing {σ : Sys} (h : Delivered σ) {d : Delivery} (hd : d ∈ σ.deliveries)
    {t : TaskRecord} {key : String} (hp : d.phase = .executing t key) :
    ∃ t₀, σ.store.tasks.get? d.message.taskId = some t₀ ∧ t.SameTask t₀ ∧
      d.message.workflowId = t₀.workflowId ∧ t₀.idempotencyKey = key := by
  have hds := h.sound.deliveries d hd
  obtain ⟨t₀, hget, hwf, hsame⟩ := hds.task t (by rw [hp]; rfl)
  have hkey : key = t.idempotencyKey := hds.key t key (by rw [hp]; rfl)
  exact ⟨t₀, hget, hsame, hwf, hsame.idempotencyKey.trans hkey.symm⟩

/-- A key is being executed by one call only. -/
theorem Budget.exclusive {cfg : AppConfig} {n : String → Nat} {σ : Sys} (h : Budget cfg n σ)
    {i j : Nat} {d d' : Delivery} (hd : σ.deliveries[i]? = some d)
    (hd' : σ.deliveries[j]? = some d') {t t' : TaskRecord} {key : String}
    (hp : d.phase = .executing t key) (hp' : d'.phase = .executing t' key) : i = j := by
  have hmem := List.mem_of_getElem? hd
  have hmem' := List.mem_of_getElem? hd'
  obtain ⟨t₀, hget, -, -, hkey⟩ := h.delivered.executing hmem hp
  obtain ⟨t₁, hget', -, -, hkey'⟩ := h.delivered.executing hmem' hp'
  have heq : t₀ = t₁ := h.delivered.task_unique (Table.mem_of_get? hget)
    (Table.mem_of_get? hget') (hkey.trans hkey'.symm)
  have hid : d.message.taskId = d'.message.taskId := by
    rw [← Table.key_of_get? hget, ← Table.key_of_get? hget', heq]
  exact h.held.exclusive i j d d' hd hd' (h.held.holds d hmem (by rw [hp]; rfl))
    (h.held.holds d' hmem' (by rw [hp']; rfl)) hid

/-- **A handler starts only below the counter**, when the reads of its call are current. -/
theorem Budget.start {cfg : AppConfig} {n : String → Nat} {σ : Sys} (h : Budget cfg n σ)
    {i : Nat} {d : Delivery} (hd : σ.deliveries[i]? = some d) {t : TaskRecord} {key : String}
    (hp : d.phase = .executing t key) (hstate : d.currentState σ.store t = true) :
    ∃ t₀ w, σ.store.tasks.get? d.message.taskId = some t₀ ∧ n d.message.taskId < t₀.attempt ∧
      σ.store.workflows.get? t₀.workflowId = some w ∧ w.state.isTerminal = false := by
  have hmem := List.mem_of_getElem? hd
  obtain ⟨t₀, hget, hsame, hwf, hkey⟩ := h.delivered.executing hmem hp
  obtain ⟨w, hw, hst⟩ := (Option.any_eq_true _ _).mp hstate
  have hw : σ.store.workflows.get? t₀.workflowId = some w := by rw [← hwf]; exact hw
  have hlive : w.state.isTerminal = false := by
    have hst := classifyStaleTask_proceed.mp (of_decide_eq_true hst)
    rw [hst]
    cases t.taskType <;> rfl
  refine ⟨t₀, w, hget, ?_, hw, hlive⟩
  refine (h.spent _ t₀ hget).resolve_right ?_
  intro hclosed
  rcases hclosed.2 with ⟨t₁, hget₁, hor⟩ | ⟨d', hd', hid, hlease, t', e, hp', -⟩
  · -- the key is open and the workflow has not ended
    obtain rfl := Option.some.inj (hget₁.symm.trans hget)
    rcases hor with hc | ⟨w', hw', hend⟩
    · rw [hkey, h.open_ d hmem t key hp] at hc
      exact absurd hc (by simp)
    · obtain rfl := Option.some.inj (hw'.symm.trans hw)
      rw [hlive] at hend
      exact absurd hend (by simp)
  · -- the call itself holds the lease
    obtain ⟨j, hj⟩ := List.mem_iff_getElem?.mp hd'
    have hij := h.held.exclusive i j d d' hd hj (h.held.holds d hmem (by rw [hp]; rfl)) hlease
      hid.symm
    rw [← hij, hd] at hj
    obtain rfl := Option.some.inj hj
    rw [hp] at hp'
    exact absurd hp' (by simp)

/-! ### Deliveries

How each call of a delivery pays.
-/

theorem mem_applyEffect {σ : Sys} {i j : Nat} {d d' : Delivery} (e : DeliveryEffect)
    (hj : σ.deliveries[j]? = some d') (hne : j ≠ i) :
    d' ∈ (σ.applyEffect i d e).deliveries := by
  unfold Sys.applyEffect
  dsimp only
  cases e.next with
  | none => exact List.mem_eraseIdx_iff_getElem?.mpr ⟨j, hne, hj⟩
  | some d₁ =>
      refine List.mem_iff_getElem?.mpr ⟨j, ?_⟩
      rw [List.getElem?_set_ne hne.symm]
      exact hj

theorem mem_applyEffect_next {σ : Sys} {i : Nat} {d d' : Delivery} {e : DeliveryEffect}
    (hd : σ.deliveries[i]? = some d) (hn : e.next = some d') :
    d' ∈ (σ.applyEffect i d e).deliveries := by
  unfold Sys.applyEffect
  dsimp only
  rw [hn]
  exact List.mem_set (List.getElem?_eq_some_iff.mp hd).1 d'

/-- A task that is closed by another call than the stepping one stays closed. -/
theorem Closed.applyEffect {σ : Sys} {i : Nat} {d : Delivery} {e : DeliveryEffect} {id : String}
    (h : Closed σ id) (hset : Settled σ.store id → Settled e.store id)
    (hd : σ.deliveries[i]? = some d)
    (hself : d.message.taskId = id → d.lease ≠ none → ∀ t x, d.phase = .raised t x → x.ofStage →
      Closed (σ.applyEffect i d e) id) : Closed (σ.applyEffect i d e) id := by
  rcases h with hs | ⟨d', hd', hid, hlease, t, x, hp, hx⟩
  · exact Or.inl (hset hs)
  · obtain ⟨j, hj⟩ := List.mem_iff_getElem?.mp hd'
    by_cases hij : j = i
    · rw [hij, hd] at hj
      obtain rfl := Option.some.inj hj
      exact hself hid hlease t x hp hx
    · exact Or.inr ⟨d', mem_applyEffect e hj hij, hid, hlease, t, x, hp, hx⟩

theorem settled_steps {cfg : AppConfig} {origin : Origin} {s s' : Store} {taskId : String}
    (h : Settled s taskId) (hsteps : Relation.ReflTransGen (StoreStep cfg origin) s s') :
    Settled s' taskId := by
  induction hsteps with
  | refl => exact h
  | tail _ hstep ih => exact ih.step hstep

/-- What the `except` clauses decide about an exception of the stage. -/
theorem failureDecision_ofStage (cfg : AppConfig) (t : TaskRecord) (m : TaskMessage)
    {e : PyException} (he : e.ofStage) :
    (failureDecision cfg t m e = .retry (RetryClassifier.effectiveAttempt t m) ∧
        RetryClassifier.isExhausted cfg (RetryClassifier.effectiveAttempt t m) t.taskType = false) ∨
      ∃ exhausted errorClass, failureDecision cfg t m e = .permanent t.taskType exhausted errorClass := by
  rw [failureDecision_eq cfg t m he]
  split
  · next hcond =>
    refine Or.inl ⟨rfl, ?_⟩
    simp only [Bool.and_eq_true, Bool.not_eq_true'] at hcond
    exact hcond.2
  · exact Or.inr ⟨_, _, rfl⟩

theorem failureDecision_retry {cfg : AppConfig} {t : TaskRecord} {m : TaskMessage}
    {e : PyException} {attempt : Nat} (h : failureDecision cfg t m e = .retry attempt) :
    attempt = max t.attempt m.attempt ∧ attempt < cfg.maxAttempts t.taskType := by
  have he : e.ofStage := by
    cases e <;> first | rfl | exact absurd h (by simp [failureDecision])
  rcases failureDecision_ofStage cfg t m he with ⟨hr, hex⟩ | ⟨exhausted, errorClass, hp⟩
  · obtain rfl : RetryClassifier.effectiveAttempt t m = attempt := by simpa using hr.symm.trans h
    refine ⟨rfl, ?_⟩
    unfold RetryClassifier.isExhausted at hex
    simpa using hex
  · exact absurd (hp.symm.trans h) (by simp)

theorem Delivery.releaseStore_same (d : Delivery) (s : Store) :
    (d.releaseStore s).tasks = s.tasks ∧ (d.releaseStore s).idempotency = s.idempotency := by
  unfold Delivery.releaseStore
  cases d.lease with
  | none => exact ⟨rfl, rfl⟩
  | some id =>
      simp only [Option.elim_some, releaseLease]
      split <;> exact ⟨rfl, rfl⟩

/-- Only a committed stage records a completion, that of its own key. -/
theorem LoopStep.completions {repo : WorkflowRepoKind} {cfg : AppConfig} {s : Store}
    {stream : List StreamEntry} {d : Delivery} {b : DeliveryAction} {e : DeliveryEffect}
    (hs : StoreSound s) (hd : DeliverySound s stream d) (h : LoopStep repo cfg s d b e) :
    e.store.idempotency = s.idempotency ∨ ∃ t, d.phase = .executing t t.idempotencyKey ∧
      ∀ key, e.store.completed key = true → s.completed key = true ∨ key = t.idempotencyKey := by
  cases h with
  | acquire leaseId now t hp s' hl =>
      obtain ⟨table, -, rfl⟩ := Option.map_eq_some_iff.mp hl
      exact Or.inl rfl
  | commit env reply t key hp hf s' htx =>
      obtain rfl : key = t.idempotencyKey := hd.key t key (by rw [hp]; rfl)
      have ht : TaskKnown s d.message t := hd.task t (by rw [hp]; rfl)
      obtain ⟨n, w, row, next, denv, task, hstaged⟩ := staged_of_ok hs ht hf htx
      refine Or.inr ⟨t, hp, ?_⟩
      intro key hk
      rw [← hstaged.same.idempotencyKey]
      exact (hstaged.completed_iff key).mp hk
  | release t key hp => exact Or.inl (d.releaseStore_same s).2
  | close hp => exact Or.inl (d.releaseStore_same s).2
  | retry env readyAt t x hp attempt hdec s' hr =>
      obtain ⟨existing, -, rfl⟩ := updateTask_ok hr
      exact Or.inl rfl
  | fail env readyAt t x hp tt exhausted errorClass hdec s' hf =>
      obtain ⟨w, row, s₁, hm, -, -, hq⟩ := permanentFailure_ok hf
      exact Or.inl (hq.idempotency.trans hm.idempotency)
  | stay | leave | crash | phase | execute | ack | unhandled | failureRaised => exact Or.inl rfl

/-- Outside of the `except` clauses a step keeps the counters. -/
theorem LoopStep.attemptsKept {repo : WorkflowRepoKind} {cfg : AppConfig} {s : Store}
    {stream : List StreamEntry} {d : Delivery} {b : DeliveryAction} {e : DeliveryEffect}
    (hs : StoreSound s) (hd : DeliverySound s stream d) (h : LoopStep repo cfg s d b e)
    (hraised : ∀ t x, d.phase ≠ .raised t x) : AttemptsKept s.tasks e.store.tasks := by
  have hsame : ∀ {s' : Store}, s'.tasks = s.tasks → AttemptsKept s.tasks s'.tasks := by
    intro s' heq
    rw [heq]
    exact AttemptsKept.refl _
  cases h with
  | acquire leaseId now t hp s' hl =>
      obtain ⟨table, -, rfl⟩ := Option.map_eq_some_iff.mp hl
      exact AttemptsKept.refl _
  | commit env reply t key hp hf s' htx =>
      obtain rfl : key = t.idempotencyKey := hd.key t key (by rw [hp]; rfl)
      have ht : TaskKnown s d.message t := hd.task t (by rw [hp]; rfl)
      obtain ⟨m, w, row, next, denv, task, hstaged⟩ := staged_of_ok hs ht hf htx
      exact hstaged.attemptsKept
  | release t key hp => exact hsame (d.releaseStore_same s).1
  | close hp => exact hsame (d.releaseStore_same s).1
  | retry env readyAt t x hp attempt hdec s' hr => exact absurd hp (hraised t x)
  | fail env readyAt t x hp tt exhausted errorClass hdec s' hf => exact absurd hp (hraised t x)
  | stay | leave | crash | phase | execute | ack | unhandled | failureRaised =>
      exact AttemptsKept.refl _

section Deliveries

variable {repo : WorkflowRepoKind} {cfg : AppConfig} {n : String → Nat} {σ : Sys} {i : Nat}
  {d : Delivery} {b : DeliveryAction} {e : DeliveryEffect}

/-- A failure that no clause could write leaves a settled task. -/
theorem Budget.unhandled (h : Budget cfg n σ) (hd : d ∈ σ.deliveries) {env : Env}
    {t : TaskRecord} {x : PyException} (hp : d.phase = .raised t x) (hx : x.ofStage)
    (hperm : ∀ tt exhausted errorClass,
      failureDecision cfg t d.message x = .permanent tt exhausted errorClass →
        ∃ err, permanentFailure repo cfg env d.message tt t exhausted errorClass σ.store = .error err)
    (hretry : ∀ attempt, failureDecision cfg t d.message x = .retry attempt →
      ∃ err, retryableFailure env.updatedAt t attempt x.str σ.store = .error err) :
    Settled σ.store d.message.taskId := by
  have hknown := (h.delivered.sound.deliveries d hd).task t (by rw [hp]; rfl)
  obtain ⟨m, -, hwf, hid⟩ := hknown.sound h.delivered.sound.store
  obtain ⟨t₀, hget, hwf₀, -⟩ := hknown
  rw [hid] at hget
  rcases failureDecision_ofStage cfg t d.message hx with ⟨hr, -⟩ | ⟨exhausted, errorClass, hdec⟩
  · obtain ⟨err, herr⟩ := hretry _ hr
    unfold retryableFailure updateTask at herr
    rw [hget] at herr
    exact absurd herr (by simp)
  · obtain ⟨err, herr⟩ := hperm _ _ _ hdec
    obtain ⟨k, hk⟩ := h.delivered.sound.store.task t₀ (Table.mem_of_get? hget)
    obtain ⟨w, hw⟩ := Option.ne_none_iff_exists'.mp hk.workflow
    rw [← hwf₀] at hw
    refine settled_of_stale h.delivered.sound.store h.delivered.live
      ((h.delivered.sound.deliveries d hd).task t (by rw [hp]; rfl)) hw ?_
    intro hst
    obtain ⟨s', hok⟩ := permanentFailure_of_state repo cfg env exhausted errorClass hw hst hget
    exact absurd (hok.symm.trans herr) (by simp)

/-- The write-back of a call whose read is current raises the counter by one. -/
theorem Budget.retry (h : Budget cfg n σ) (hd : σ.deliveries[i]? = some d) {env : Env}
    {readyAt : Time} {t : TaskRecord} {x : PyException} (hp : d.phase = .raised t x)
    {attempt : Nat} (hdec : failureDecision cfg t d.message x = .retry attempt)
    (hr : retryableFailure env.updatedAt t attempt x.str σ.store = .ok e.store)
    (hcur : σ.currentReads cfg (.delivery i (.handleFailure env readyAt)) = true)
    (hset : ∀ id, Settled σ.store id → Settled e.store id) (id : String) (k : Nat) :
    Spend cfg σ (σ.applyEffect i d e) id k k := by
  have hds := h.delivered.sound.deliveries d (List.mem_of_getElem? hd)
  have hknown := hds.task t (by rw [hp]; rfl)
  obtain ⟨m, -, -, hid⟩ := hknown.sound h.delivered.sound.store
  obtain ⟨t₀, hget, -, hsame⟩ := hknown
  obtain ⟨existing, hex, heq⟩ := updateTask_ok hr
  rw [← hid, hget] at hex
  obtain rfl := Option.some.inj hex
  have htasks : e.store.tasks = σ.store.tasks.upsert
      (updatedTask t₀ env.updatedAt .dispatched (some (attempt + 1)) (some x.str) none) := by
    rw [heq]
  have hkey : t₀.taskId = d.message.taskId := Table.key_of_get? hget
  by_cases hown : d.message.taskId = id
  · -- the message carries no more than the stored counter, which the call has read
    obtain ⟨t₁, hget₁, hcur₁⟩ := (Option.any_eq_true _ _).mp (currentReads_retry hd hp hdec hcur)
    obtain rfl := Option.some.inj (hget₁.symm.trans hget)
    have hread : t₁.attempt = t.attempt := of_decide_eq_true hcur₁
    obtain ⟨entry, hentry, hmsg⟩ := hds.entry
    have hle : d.message.attempt ≤ t₁.attempt := by
      have hle := h.enqueued entry (List.mem_of_getElem? hentry) t₁ (by rw [hmsg]; exact hget)
      rw [hmsg] at hle
      exact hle
    obtain ⟨hatt, hlt⟩ := failureDecision_retry hdec
    have hvalue : attempt = t₁.attempt := by omega
    subst hown
    refine .retry t₁ (updatedTask t₁ env.updatedAt .dispatched (some (attempt + 1)) (some x.str)
      none) hget ?_ rfl ?_ ?_
    · change e.store.tasks.get? d.message.taskId = _
      rw [htasks, Table.get?_upsert]
      exact if_pos hkey
    · change attempt + 1 = t₁.attempt + 1
      rw [hvalue]
    · rw [← hvalue, hsame.taskType]
      exact hlt
  · refine .keep ?_ ?_
    · intro t' ht'
      refine Or.inl ⟨t', ?_, rfl, rfl⟩
      change e.store.tasks.get? id = some t' at ht'
      rw [htasks, Table.get?_upsert, if_neg] at ht'
      · exact ht'
      · intro hkey'
        exact hown (hkey.symm.trans hkey')
    · intro hc
      exact hc.applyEffect (hset id) hd (fun hid => absurd hid hown)

/-- What a step of a call does to the budgets, apart from a start. -/
theorem Budget.spend (h : Budget cfg n σ) (hd : σ.deliveries[i]? = some d)
    (hstep : LoopStep repo cfg σ.store d b e) (hcalm : b ≠ .crash)
    (hcur : σ.currentReads cfg (.delivery i b) = true)
    (hdelivered : Delivered (σ.applyEffect i d e)) (id : String) (k : Nat) :
    Spend cfg σ (σ.applyEffect i d e) id k k := by
  have hmem := List.mem_of_getElem? hd
  have hds := h.delivered.sound.deliveries d hmem
  have hset : ∀ id, Settled σ.store id → Settled e.store id := fun id hs =>
    settled_steps hs (delivery_steps .pipeline h.delivered.sound.store hds hstep.deliveryStep)
  by_cases hraised : ∃ t x, d.phase = .raised t x
  · obtain ⟨t, x, hp⟩ := hraised
    cases hstep with
    | stay a =>
        refine .keep (AttemptsKept.refl _ id) (fun hc => hc.applyEffect (hset id) hd ?_)
        intro hid hlease t x hp hx
        exact Or.inr ⟨d, mem_applyEffect_next hd rfl, hid, hlease, t, x, hp, hx⟩
    | retry env readyAt t x hp attempt hdec s' hr => exact h.retry hd hp hdec hr hcur hset id k
    | fail env readyAt t x hp tt exhausted errorClass hdec s' hf =>
        refine .keep (permanentFailure_attempts hf id) (fun hc => hc.applyEffect (hset id) hd ?_)
        intro hid _ _ _ _ _
        refine Or.inl ?_
        have hfailed := hdelivered.phases _ (mem_applyEffect_next hd rfl) rfl
        rw [← hid]
        exact hfailed
    | unhandled env readyAt t x hp hperm hretry =>
        refine .keep (AttemptsKept.refl _ id) (fun hc => hc.applyEffect (hset id) hd ?_)
        intro hid _ t' x' hp' hx'
        obtain ⟨rfl, rfl⟩ : t = t' ∧ x = x' := by simpa using hp.symm.trans hp'
        refine Or.inl ?_
        rw [← hid]
        exact h.unhandled hmem hp hx' hperm hretry
    | failureRaised x t e hp' =>
        rw [currentReads_failureRaises hd hp] at hcur
        exact absurd hcur (by simp)
    | crash => exact absurd rfl hcalm
    | leave a hw acks hacks =>
        rw [hp] at hw
        exact absurd hw (by simp [Phase.waits])
    | phase a p hps hplain =>
        rw [hp] at hps
        cases hps with
        | raise p t' e' hr => exact absurd hr (by simp [Phase.mayRaise])
        | handled t e' => exact absurd hplain (by simp [Phase.plain])
    | ack a acks hack p hp' =>
        rw [hp] at hack
        cases hack
    | acquire leaseId now t' hp' => exact absurd (hp.symm.trans hp') (by simp)
    | execute env reply t' key hp' => exact absurd (hp.symm.trans hp') (by simp)
    | commit env reply t' key hp' => exact absurd (hp.symm.trans hp') (by simp)
    | release t' key hp' => exact absurd (hp.symm.trans hp') (by simp)
    | close hp' => exact absurd (hp.symm.trans hp') (by simp)
  · -- a call that has no failure to write
    have hraised : ∀ t x, d.phase ≠ .raised t x := fun t x hp => hraised ⟨t, x, hp⟩
    refine .keep (hstep.attemptsKept h.delivered.sound.store hds hraised id) ?_
    exact fun hc => hc.applyEffect (hset id) hd (fun _ _ t x hp => absurd hp (hraised t x))

/-- The keys that are being executed stay open. -/
theorem Budget.keepsOpen (h : Budget cfg n σ) (hd : σ.deliveries[i]? = some d)
    (hstep : LoopStep repo cfg σ.store d b e) :
    ∀ d' ∈ (σ.applyEffect i d e).deliveries, ∀ t key, d'.phase = .executing t key →
      e.store.completed key = false := by
  have hmem := List.mem_of_getElem? hd
  have hds := h.delivered.sound.deliveries d hmem
  have hcompletions := hstep.completions h.delivered.sound.store hds
  intro d' hd' t key hp
  rcases applyEffect_mem hd hd' with hn | ⟨j, hne, hj⟩
  · -- the call itself: it has just passed the pre-check, or nothing has happened
    cases hstep with
    | stay a =>
        obtain rfl := Option.some.inj hn
        exact h.open_ d hmem t key hp
    | phase a p hps hplain =>
        obtain rfl := Option.some.inj hn
        obtain rfl : p = .executing t key := hp
        generalize d.phase = q at hps
        cases hps with
        | execute t key hk hc => exact hc
    | ack a acks hack p hp' =>
        obtain rfl := Option.some.inj hn
        obtain rfl : p = .executing t key := hp
        rcases hp' with hp' | ⟨t', x, -, hp'⟩ <;> exact absurd hp' (by simp)
    | leave | crash | close => exact absurd hn (by simp)
    | acquire | execute | commit | release | retry | fail | unhandled | failureRaised =>
        obtain rfl := Option.some.inj hn
        exact absurd hp (by simp)
  · have hold := h.open_ d' (List.mem_of_getElem? hj) t key hp
    rcases hcompletions with hsame | ⟨t₁, hp₁, hnew⟩
    · rw [← hold]
      exact Represents.completed_congr hsame key
    · by_contra hc
      rcases hnew key (by simpa using hc) with hk | rfl
      · exact absurd (hold.symm.trans hk) (by simp)
      · exact hne (h.exclusive hj hd hp hp₁)

/-- **A start leaves the task closed**: its stage has committed, or its call goes on with a
failure to write. -/
theorem Budget.closed_of_start (h : Budget cfg n σ) (hd : σ.deliveries[i]? = some d)
    {t : TaskRecord} {key : String} (hp : d.phase = .executing t key)
    (hb : (∃ env reply, b = .execute env reply ∧ σ.store.freshStage env = true) ∨
      ∃ x, b = .raise x ∧ x.ofStage)
    (hreply : (Action.delivery i b).stageReply = true)
    (hdelivered : Delivered (σ.applyEffect i d (d.step repo cfg σ.backoff σ.store b))) :
    Closed (σ.applyEffect i d (d.step repo cfg σ.backoff σ.store b)) d.message.taskId := by
  have hlease : d.lease ≠ none := h.held.holds d (List.mem_of_getElem? hd) (by rw [hp]; rfl)
  have hraised : ∀ {x : PyException},
      (d.step repo cfg σ.backoff σ.store b).next = some { d with phase := .raised t x } →
      x.ofStage →
      Closed (σ.applyEffect i d (d.step repo cfg σ.backoff σ.store b)) d.message.taskId :=
    fun hn hx => Or.inr ⟨_, mem_applyEffect_next hd hn, rfl, hlease, t, _, rfl, hx⟩
  rcases hb with ⟨env, reply, rfl, hf⟩ | ⟨x, rfl, hx⟩
  · obtain ⟨hrefused, hstage⟩ := stageReply_execute hreply
    have hraises := stageTransaction_raises repo cfg env
      { message := d.message, task := t, idempotencyKey := key } σ.store hstage hrefused
    cases htx : stageTransaction repo cfg env
        { message := d.message, task := t, idempotencyKey := key } reply σ.store with
    | error x =>
        have hstep : d.step repo cfg σ.backoff σ.store (.execute env reply) =
            d.goto σ.store (.raised t x) := Delivery.step_execute_error hp hf htx
        exact hraised (by rw [hstep]; rfl) (hraises.of_error x htx)
    | ok s' =>
        have hstep : d.step repo cfg σ.backoff σ.store (.execute env reply) =
            d.goto s' (.committed t key) := Delivery.step_execute_ok hp hf htx
        refine Or.inl ?_
        exact hdelivered.phases { d with phase := .committed t key }
          (mem_applyEffect_next hd (by rw [hstep]; rfl)) rfl
  · refine hraised ?_ hx
    unfold Delivery.step
    rw [hp]
    rfl

end Deliveries

end CartoonDemo
