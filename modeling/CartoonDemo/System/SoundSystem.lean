import CartoonDemo.System.SoundStore
import Mathlib.Logic.Relation

/-!
# CartoonDemo.System.SoundSystem

**What an action does to the store.** The consistency invariant of the running system (`SysSound`)
adds to a sound store that whatever is on its way refers to rows that exist. From a state with it,
every action of every party changes the store by a sequence of the steps of `StoreStep`
(`step_store`), each of which keeps the store sound and no row of which goes away
(`steps_extends`).
-/

namespace CartoonDemo

open WorkflowEngine TransitionExecutor WorkerLoop WorkflowStateGuard

/-! ### The system

What is on its way refers to rows of the store.
-/

/-- The task and key that a phase carries. -/
def Phase.keyed? : Phase → Option (TaskRecord × String)
  | .duplicate t key | .executing t key | .committed t key | .released t key => some (t, key)
  | _ => none

/-- A message about a stored task. -/
def MessageSound (s : Store) (m : TaskMessage) : Prop :=
  ∃ t, s.tasks.get? m.taskId = some t ∧ m.workflowId = t.workflowId

theorem MessageSound.extends {s s' : Store} {m : TaskMessage} (h : MessageSound s m)
    (he : Extends s s') : MessageSound s' m := by
  obtain ⟨t, hg, hw⟩ := h
  obtain ⟨t', hg', hsame⟩ := he.tasks _ t hg
  exact ⟨t', hg', hw.trans hsame.workflowId.symm⟩

structure DeliverySound (s : Store) (stream : List StreamEntry) (d : Delivery) : Prop where
  entry : ∃ e, stream[d.entry]? = some e ∧ e.message = d.message
  message : MessageSound s d.message
  task : ∀ t, d.phase.task? = some t → TaskKnown s d.message t
  key : ∀ t key, d.phase.keyed? = some (t, key) → key = t.idempotencyKey

/-- The row that a publisher has fetched is still there. -/
def FrameSound (s : Store) (f : PublishFrame) : Prop :=
  ∃ e, s.outbox.get? f.entry.outboxId = some e ∧ f.entry.SameRow e

/-- The workflow of a pending repair exists. -/
def ScanSound (s : Store) (scan : Scan) : Prop :=
  ∀ plan report, scan.pending = some (plan, report) →
    s.workflows.get? plan.workflow.workflowId ≠ none

structure SysSound (σ : Sys) : Prop where
  store : StoreSound σ.store
  stream : ∀ e ∈ σ.stream, MessageSound σ.store e.message
  frames : ∀ f ∈ σ.frames, FrameSound σ.store f
  deliveries : ∀ d ∈ σ.deliveries, DeliverySound σ.store σ.stream d
  scans : ∀ scan ∈ σ.scans, ScanSound σ.store scan

theorem sysSound_empty : SysSound {} where
  store := storeSound_empty
  stream := by intro e he; exact absurd he (by simp)
  frames := by intro f hf; exact absurd hf (by simp)
  deliveries := by intro d hd; exact absurd hd (by simp)
  scans := by intro scan hscan; exact absurd hscan (by simp)

/-- Entries of the stream keep their place and their message. -/
def StreamExtends (st st' : List StreamEntry) : Prop :=
  ∀ (n : Nat) (e : StreamEntry), st[n]? = some e → ∃ e', st'[n]? = some e' ∧ e'.message = e.message

theorem StreamExtends.refl (st : List StreamEntry) : StreamExtends st st := fun _ e h =>
  ⟨e, h, rfl⟩

theorem streamExtends_append (st st' : List StreamEntry) : StreamExtends st (st ++ st') := by
  intro n e hn
  exact ⟨e, by rw [List.getElem?_append_left (List.getElem?_eq_some_iff.mp hn).1]; exact hn, rfl⟩

theorem ackEntry_getElem? (st : List StreamEntry) (k n : Nat) :
    (Sys.ackEntry st k)[n]? =
      (st[n]?).map (fun e => if k = n then { e with acked := true } else e) := by
  unfold Sys.ackEntry
  rw [List.getElem?_modify]
  rfl

theorem streamExtends_ackEntry (st : List StreamEntry) (k : Nat) :
    StreamExtends st (Sys.ackEntry st k) := by
  intro n e hn
  refine ⟨_, by rw [ackEntry_getElem?, hn]; rfl, ?_⟩
  split <;> rfl

theorem ackEntry_mem {st : List StreamEntry} {k : Nat} {e' : StreamEntry}
    (h : e' ∈ Sys.ackEntry st k) : ∃ e ∈ st, e'.message = e.message := by
  obtain ⟨n, hn⟩ := List.mem_iff_getElem?.mp h
  rw [ackEntry_getElem?] at hn
  obtain ⟨e, he, rfl⟩ := Option.map_eq_some_iff.mp hn
  refine ⟨e, List.mem_of_getElem? he, ?_⟩
  split <;> rfl

theorem DeliverySound.extends {s s' : Store} {st st' : List StreamEntry} {d : Delivery}
    (h : DeliverySound s st d) (he : Extends s s') (hst : StreamExtends st st') :
    DeliverySound s' st' d where
  entry := by
    obtain ⟨e, hn, hm⟩ := h.entry
    obtain ⟨e', hn', hm'⟩ := hst _ e hn
    exact ⟨e', hn', hm'.trans hm⟩
  message := h.message.extends he
  task := fun t ht => (h.task t ht).extends he
  key := h.key

theorem FrameSound.extends {s s' : Store} {f : PublishFrame} (h : FrameSound s f)
    (he : Extends s s') : FrameSound s' f := by
  obtain ⟨e, hg, hsame⟩ := h
  obtain ⟨e', hg', hsame'⟩ := he.outbox _ e hg
  exact ⟨e', hg', hsame'.taskId.trans hsame.taskId, hsame'.workflowId.trans hsame.workflowId⟩

/-- A change of the store alone. -/
theorem SysSound.of_store {σ : Sys} {s' : Store} (h : SysSound σ) (hs : StoreSound s')
    (he : Extends σ.store s') : SysSound { σ with store := s' } where
  store := hs
  stream := fun e hmem => (h.stream e hmem).extends he
  frames := fun f hmem => (h.frames f hmem).extends he
  deliveries := fun d hmem => (h.deliveries d hmem).extends he (StreamExtends.refl _)
  scans := fun scan hmem plan report hp => he.workflows _ (h.scans scan hmem plan report hp)

/-! ### Steps of the store

From an action of a party to the steps of `StoreStep` that it consists of.
-/

/-- An approval action moves its workflow. -/
theorem approval_moved {repo : WorkflowRepoKind} {cfg : AppConfig} {env : Env}
    {workflowId : String} {action : ApprovalAction} {actor : Option String} {s s' : Store}
    {res : ApprovalActionResult}
    (h : applyApprovalAction repo env workflowId action actor s = .ok (res, s')) :
    ∃ w row next, Moved env workflowId s s' w row next ∧
      EngineMove cfg .pipeline s w row.state next := by
  obtain ⟨w, hg, hst, rfl⟩ := applyApprovalAction_ok h
  rw [buildForDecision_eq_nextBuild]
  exact ⟨w, _, _, Moved.of_written env _ _ hg rfl (Nat.lt_succ_self _) rfl (by cases action <;> rfl), .approval action hst⟩

theorem approval_step {repo : WorkflowRepoKind} {cfg : AppConfig} {env : Env}
    {workflowId : String} {action : ApprovalAction} {actor : Option String} {s s' : Store}
    {res : ApprovalActionResult} (hf : s.freshDispatch env = true)
    (h : applyApprovalAction repo env workflowId action actor s = .ok (res, s')) :
    StoreStep cfg .pipeline s s' := by
  obtain ⟨w, row, next, hm, hmove⟩ := approval_moved h
  exact .moved env workflowId w row next hm hmove (fun _ => hf)

theorem transition_step {repo : WorkflowRepoKind} {cfg : AppConfig} {env : Env}
    {origin : Origin} {req : TransitionRequest} {s s' : Store} {res : TransitionResult}
    (ho : origin ≠ .pipeline) (hf : s.freshDispatch env = true)
    (h : applyTransition repo cfg env req s = .ok (res, s')) : StoreStep cfg origin s s' := by
  obtain ⟨w, d, hg, -, hd, rfl, -, -, -⟩ := applyTransition_ok h
  have hid : w.workflowId = req.workflowId := Table.key_of_get? hg
  refine .moved env req.workflowId w _ _ (Moved.of_transition env d hg (transitionRow_reason env hd)) ?_ (fun _ => hf)
  rw [← hid]
  exact .signal req.signal d ho hd

/-- A repair that marks a workflow as failed is a transition. -/
theorem performRepair_fail_ok {repo : WorkflowRepoKind} {cfg : AppConfig} {env : Env}
    {w : WorkflowRecord} {s s' : Store}
    (h : ReconciliationScanner.performRepair repo cfg env (.fail w) s = .ok s') :
    ∃ res, applyTransition repo cfg env (ReconciliationScanner.repairRequest w) s =
      .ok (res, s') := by
  unfold ReconciliationScanner.performRepair at h
  dsimp only at h
  cases ha : applyTransition repo cfg env (ReconciliationScanner.repairRequest w) s with
  | error e => rw [ha] at h; exact absurd h (by simp [Except.map])
  | ok p =>
      rw [ha] at h
      obtain rfl : p.2 = s' := by simpa [Except.map] using h
      exact ⟨p.1, rfl⟩

theorem repair_step {repo : WorkflowRepoKind} {cfg : AppConfig} {env : Env}
    {plan : ReconciliationScanner.RepairPlan} {s s' : Store} (hf : s.freshDispatch env = true)
    (hw : s.workflows.get? plan.workflow.workflowId ≠ none)
    (h : ReconciliationScanner.performRepair repo cfg env plan s = .ok s') :
    StoreStep cfg .reconciler s s' := by
  cases plan with
  | recreate w tt attempt =>
      obtain rfl := Except.ok.inj h
      exact .recreated env w tt attempt rfl ⟨hw, rfl⟩ hf
  | fail w =>
      obtain ⟨res, ha⟩ := performRepair_fail_ok h
      exact transition_step (by decide) hf ha

/-- The store after a step of a sound delivery. -/
theorem delivery_steps {repo : WorkflowRepoKind} {cfg : AppConfig} {s : Store}
    {stream : List StreamEntry} {d : Delivery} {a : DeliveryAction} {e : DeliveryEffect}
    (origin : Origin) (hs : StoreSound s) (hd : DeliverySound s stream d)
    (h : DeliveryStep repo cfg s d a e) :
    Relation.ReflTransGen (StoreStep cfg origin) s e.store := by
  cases h with
  | stay => exact .refl
  | leave s' hq => exact .single (.quiet hq)
  | phase s' hq lease p backoff h => exact .single (.quiet hq)
  | ack applied next h hn => exact .refl
  | commit env reply t key s' ha hp hf h =>
      obtain rfl : key = t.idempotencyKey := hd.key t key (by rw [hp]; rfl)
      have ht : TaskKnown s d.message t := hd.task t (by rw [hp]; rfl)
      obtain ⟨n, w, row, next, denv, task, hstaged⟩ := staged_of_ok hs ht hf h
      exact .single (.staged env _ n w row next denv task hstaged)
  | fail env readyAt t e tt exhausted errorClass s' ha hp hdec h =>
      obtain ⟨w, row, s₁, hm, hst, hrow, hq⟩ := permanentFailure_ok h
      have htrans : w.state.isTransient = true := by
        rw [hst]
        exact expectedStateForTask_transient tt
      have hmove : StoreStep cfg origin s s₁ :=
        .moved env _ w row none hm (.failure row.state htrans hrow)
          (fun hn => absurd rfl hn)
      exact .head hmove (.single (.quiet hq))

/-- The store after one step of a publisher. -/
theorem stepPublish_store (σ : Sys) (i : Nat) (f : PublishFrame) (a : PublishAction) :
    (σ.stepPublish i f a).store = σ.store ∨
      ∃ now, (σ.stepPublish i f a).store = markedStore now f.entry.outboxId σ.store := by
  cases a with
  | enqueue =>
      refine Or.inl ?_
      unfold Sys.stepPublish
      dsimp only
      split
      · rfl
      · split <;> rfl
  | enqueueRaises applied =>
      refine Or.inl ?_
      unfold Sys.stepPublish
      dsimp only
      split
      · rfl
      · split
        · rfl
        · split <;> rfl
  | mark now =>
      unfold Sys.stepPublish
      dsimp only
      split
      · exact Or.inr ⟨now, rfl⟩
      · exact Or.inl rfl
  | markRaises now applied =>
      unfold Sys.stepPublish
      dsimp only
      split
      · exact Or.inr ⟨now, rfl⟩
      · exact Or.inl rfl
  | drop => exact Or.inl rfl

/-- The store after one step of a scan. -/
theorem stepScan_store {repo : WorkflowRepoKind} {cfg : AppConfig} {sc : ReconciliationScanner}
    (σ : Sys) (k : Nat) (scan : Scan) (a : ScanAction) :
    (σ.stepScan repo cfg sc k scan a).store = σ.store ∨
      ∃ env plan report, a = .repair env ∧ scan.pending = some (plan, report) ∧
        σ.store.freshDispatch env = true ∧
        ReconciliationScanner.performRepair repo cfg env plan σ.store =
          .ok (σ.stepScan repo cfg sc k scan a).store := by
  cases a with
  | inspect now =>
      refine Or.inl ?_
      unfold Sys.stepScan
      dsimp only
      split
      · split <;> rfl
      · rfl
  | readRaises e =>
      refine Or.inl ?_
      unfold Sys.stepScan
      dsimp only
      split <;> rfl
  | repair env =>
      unfold Sys.stepScan
      dsimp only
      split
      · next plan report ha hp =>
        by_cases hf : σ.store.freshDispatch env = true
        · rw [if_pos hf]
          cases hr : ReconciliationScanner.performRepair repo cfg env plan σ.store with
          | error e => exact Or.inl rfl
          | ok s' => exact Or.inr ⟨env, plan, report, rfl, hp, hf, hr⟩
        · rw [if_neg hf]
          exact Or.inl rfl
      · exact Or.inl rfl
  | repairRaises e =>
      refine Or.inl ?_
      unfold Sys.stepScan
      dsimp only
      split <;> rfl

/-- **Everything that a step of the system can do to the store**, whoever takes it. -/
inductive StepStore (repo : WorkflowRepoKind) (cfg : AppConfig) (σ : Sys) : Action → Store → Prop
  | same (a : Action) : StepStore repo cfg σ a σ.store
  | initiate (env : Env) (request : InitiateWorkflowRequest) (res : InitiateWorkflowResult)
      (s' : Store) (hf : σ.store.freshDispatch env = true)
      (h : initiateWorkflow repo env request σ.store = .ok (res, s')) :
      StepStore repo cfg σ (.initiate env request) s'
  | approve (env : Env) (workflowId : String) (action : ApprovalAction) (actor : Option String)
      (res : ApprovalActionResult) (s' : Store) (hf : σ.store.freshDispatch env = true)
      (h : applyApprovalAction repo env workflowId action actor σ.store = .ok (res, s')) :
      StepStore repo cfg σ (.approve env workflowId action actor) s'
  | transition (env : Env) (request : TransitionRequest) (res : TransitionResult) (s' : Store)
      (hf : σ.store.freshDispatch env = true)
      (h : applyTransition repo cfg env request σ.store = .ok (res, s')) :
      StepStore repo cfg σ (.transition env request) s'
  | mark (i : Nat) (a : PublishAction) (outboxId : String) (s' : Store)
      (h : Marked outboxId σ.store s') : StepStore repo cfg σ (.publish i a) s'
  | delivery (i : Nat) (b : DeliveryAction) (d : Delivery) (hd : σ.deliveries[i]? = some d) :
      StepStore repo cfg σ (.delivery i b) (d.step repo cfg σ.backoff σ.store b).store
  | expire (taskId : String) : StepStore repo cfg σ (.expireLease taskId)
      { σ.store with leases := σ.store.leases.erase taskId }
  | repair (k : Nat) (env : Env) (scan : Scan) (plan : ReconciliationScanner.RepairPlan)
      (report : ReconciliationReport) (s' : Store) (hscan : σ.scans[k]? = some scan)
      (hp : scan.pending = some (plan, report)) (hf : σ.store.freshDispatch env = true)
      (h : ReconciliationScanner.performRepair repo cfg env plan σ.store = .ok s') :
      StepStore repo cfg σ (.scan k (.repair env)) s'

theorem stepStore (repo : WorkflowRepoKind) (cfg : AppConfig) (sc : ReconciliationScanner)
    (σ : Sys) (a : Action) : StepStore repo cfg σ a (Sys.step repo cfg sc a σ).store := by
  cases a with
  | initiate env request =>
      unfold Sys.step
      dsimp only
      by_cases hf : σ.store.freshDispatch env = true
      · rw [if_pos hf]
        rcases commit_cases σ.store (initiateWorkflow repo env request σ.store) with he | ⟨res, he⟩
        · dsimp only; rw [he]; exact .same _
        · exact .initiate env request res _ hf he
      · rw [if_neg hf]
        exact .same _
  | approve env workflowId action actor =>
      unfold Sys.step
      dsimp only
      by_cases hf : σ.store.freshDispatch env = true
      · rw [if_pos hf]
        rcases commit_cases σ.store
          (applyApprovalAction repo env workflowId action actor σ.store) with he | ⟨res, he⟩
        · dsimp only; rw [he]; exact .same _
        · exact .approve env workflowId action actor res _ hf he
      · rw [if_neg hf]
        exact .same _
  | transition env request =>
      unfold Sys.step
      dsimp only
      by_cases hf : σ.store.freshDispatch env = true
      · rw [if_pos hf]
        rcases commit_cases σ.store (applyTransition repo cfg env request σ.store)
          with he | ⟨res, he⟩
        · dsimp only; rw [he]; exact .same _
        · exact .transition env request res _ hf he
      · rw [if_neg hf]
        exact .same _
  | fetchRow outboxId =>
      unfold Sys.step
      dsimp only
      split
      · exact .same _
      · split <;> exact .same _
  | publish i a =>
      unfold Sys.step
      dsimp only
      split
      · exact .same _
      · next f _ =>
        rcases stepPublish_store σ i f a with he | ⟨now, he⟩
        · rw [he]
          exact .same _
        · rw [he]
          rcases markedStore_cases now f.entry.outboxId σ.store with he | hm
          · rw [he]
            exact .same _
          · exact .mark i a f.entry.outboxId _ hm
  | deliver n worker =>
      unfold Sys.step
      dsimp only
      split
      · exact .same _
      · split <;> exact .same _
  | delivery i a =>
      unfold Sys.step
      dsimp only
      split
      · exact .same _
      · next d hd => exact .delivery i a d hd
  | crashWorker worker => exact .same _
  | expireLease taskId => exact .expire taskId
  | scanCollect | scanCollectRaises => exact .same _
  | scan k a =>
      unfold Sys.step
      dsimp only
      split
      · exact .same _
      · next scan hscan =>
        rcases stepScan_store σ k scan a with he | ⟨env, plan, report, rfl, hp, hf, hr⟩
        · rw [he]
          exact .same _
        · exact .repair k env scan plan report _ hscan hp hf hr

/-- **Every step of the system is at most two steps of the store.** -/
theorem step_store (repo : WorkflowRepoKind) (cfg : AppConfig) (sc : ReconciliationScanner)
    {σ : Sys} (h : SysSound σ) (a : Action) :
    Relation.ReflTransGen (StoreStep cfg a.origin) σ.store
      (Sys.step repo cfg sc a σ).store := by
  have hstep := stepStore repo cfg sc σ a
  generalize (Sys.step repo cfg sc a σ).store = s' at hstep
  cases hstep with
  | same a => exact .refl
  | initiate env request res s' hf he =>
      obtain ⟨id, w, row, hc⟩ := Created.of_initiate he
      exact .single (.created env id w row hc hf)
  | approve env workflowId action actor res s' hf he => exact .single (approval_step hf he)
  | transition env request res s' hf he =>
      exact .single (transition_step (by simp [Action.origin]) hf he)
  | mark i a outboxId s' hm => exact .single (.marked outboxId hm)
  | delivery i b d hd =>
      exact delivery_steps _ h.store (h.deliveries d (List.mem_of_getElem? hd))
        (deliveryStep repo cfg σ.backoff σ.store d b)
  | expire taskId => exact .single (.quiet (Quiet.of_leases _ _))
  | repair k env scan plan report s' hscan hp hf hr =>
      exact .single (repair_step hf (h.scans scan (List.mem_of_getElem? hscan) plan report hp) hr)

/-- What every step of the store keeps is kept by a sequence of them. -/
theorem steps_extends {cfg : AppConfig} {origin : Origin} {s s' : Store}
    (h : Relation.ReflTransGen (StoreStep cfg origin) s s') : Extends s s' := by
  induction h with
  | refl => exact Extends.refl s
  | tail _ hstep ih => exact ih.trans hstep.extends

theorem StoreSound.steps {cfg : AppConfig} {origin : Origin} {s s' : Store} (hs : StoreSound s)
    (h : Relation.ReflTransGen (StoreStep cfg origin) s s') : StoreSound s' := by
  induction h with
  | refl => exact hs
  | tail _ hstep ih => exact ih.step hstep

end CartoonDemo
