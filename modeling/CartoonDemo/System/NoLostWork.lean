import CartoonDemo.System.Progress
import CartoonDemo.System.Schedule

/-!
# CartoonDemo.System.NoLostWork

**No work is lost between the database and the queue**, as long as only the pipeline runs.

`Progress.Live` says what a workflow waits for: it rests in an active stage, before its
approval or at its end; in an active stage exactly one operation is open, and it is one of that
stage. So an operation whose workflow is elsewhere is completed, and no ack drops the message
that a stage waits for: an entry is acked only after its operation is completed or its workflow
has ended (`Settled`), and both last.
-/

namespace CartoonDemo

open WorkflowEngine TransitionExecutor WorkerLoop WorkflowStateGuard

namespace Progress

/-! ### One open operation

What the machine of one workflow says of its dispatched operations.
-/

/-- `o` is dispatched and open, and everything else is done. -/
structure OpenOnly (p : Progress) (o : Op) : Prop where
  dispatched : o ∈ p.dispatched
  open_ : ¬ p.done o
  rest : ∀ o' ∈ p.dispatched, p.done o' ∨ o' = o

/-- No scenario or review above version `k` has been dispatched. -/
structure Below (p : Progress) (k : Int) : Prop where
  generations : ∀ m, (TaskType.generateScenario, m) ∈ p.dispatched → m ≤ k
  reviews : ∀ m, (TaskType.reviewScenario, m) ∈ p.dispatched → m ≤ k

/-- What is done and what is open in each state in which a workflow rests. -/
def LiveIn (p : Progress) : WorkflowState → Prop
  | .collecting => p.OpenOnly (.collect, 1) ∧ p.active = 0 ∧ p.dispatched = [(.collect, 1)]
  | .selectingTopic =>
      p.OpenOnly (.selectTopic, 1) ∧ p.active = 0 ∧
        p.dispatched = [(.collect, 1), (.selectTopic, 1)]
  | .generatingScenario =>
      ∃ n, p.OpenOnly (.generateScenario, n) ∧ 0 ≤ p.active ∧ p.active < n ∧
        (∀ m, (TaskType.generateScenario, m) ∈ p.dispatched → m ≤ n) ∧
        ∀ m, (TaskType.reviewScenario, m) ∈ p.dispatched → m ≤ p.active
  | .reviewing => 1 ≤ p.active ∧ p.OpenOnly (.reviewScenario, p.active) ∧ p.Below p.active
  | .awaitingHumanApproval =>
      1 ≤ p.active ∧ (∀ o ∈ p.dispatched, p.done o) ∧ p.Below p.active
  | st => st.isTerminal = true

/-- The invariant of a workflow that only the pipeline moves. -/
structure Live (p : Progress) : Prop where
  known : ∀ o, p.done o → o ∈ p.dispatched
  /-- Every operation is dispatched once. -/
  once : p.dispatched.Nodup
  rests : p.LiveIn p.state

theorem live_initial : initial.Live where
  known := fun _ h => absurd h id
  once := by simp [initial]
  rests := by
    refine ⟨⟨by simp [initial], id, ?_⟩, rfl, rfl⟩
    intro o ho
    exact Or.inr (by simpa [initial] using ho)

/-- After the open operation completes, a new one is the open one. -/
theorem OpenOnly.commit {p : Progress} {o next : Op} (h : p.OpenOnly o)
    (hknown : ∀ o, p.done o → o ∈ p.dispatched) (st : WorkflowState)
    (hnew : next ∉ p.dispatched) : (p.commit o st (some next)).OpenOnly next where
  dispatched := List.mem_append_right _ (by simp)
  open_ := by
    intro hd
    rcases hd with hd | rfl
    · exact hnew (hknown _ hd)
    · exact hnew h.dispatched
  rest := by
    intro o' ho'
    rcases List.mem_append.mp ho' with hold | hlast
    · rcases h.rest o' hold with hd | rfl
      · exact Or.inl (Or.inl hd)
      · exact Or.inl (Or.inr rfl)
    · exact Or.inr (by simpa using hlast)

/-- After the open operation completes, nothing is open. -/
theorem OpenOnly.finish {p : Progress} {o : Op} (h : p.OpenOnly o) (st : WorkflowState) :
    ∀ o' ∈ (p.commit o st none).dispatched, (p.commit o st none).done o' := by
  intro o' ho'
  have hold : o' ∈ p.dispatched := by simpa [Progress.commit] using ho'
  exact h.rest o' hold

/-- The open operation is the one that a stage completes. -/
theorem OpenOnly.eq {p : Progress} {o o' : Op} (h : p.OpenOnly o) (ho' : o' ∈ p.dispatched)
    (hopen : ¬ p.done o') : o' = o :=
  (h.rest o' ho').resolve_left hopen

theorem Live.known_commit {p : Progress} (h : p.Live) {o : Op} (ho : o ∈ p.dispatched)
    (st : WorkflowState) (next : Option Op) :
    ∀ o', (p.commit o st next).done o' → o' ∈ (p.commit o st next).dispatched := by
  intro o' hd
  rcases hd with hd | rfl
  · exact List.mem_append_left _ (h.known o' hd)
  · exact List.mem_append_left _ ho

/-- The next generation has not been dispatched yet. -/
theorem Below.not_next {p : Progress} (h : p.Below p.active) (hpos : 1 ≤ p.active) :
    (TaskType.generateScenario, max p.active 1 + 1) ∉ p.dispatched := by
  intro hmem
  have hle := h.generations _ hmem
  omega

/-- The workflow goes back to generating with the next version. -/
theorem liveIn_regenerating {p p' : Progress} (hpos : 1 ≤ p.active) (hbelow : p.Below p.active)
    (hactive : p'.active = p.active)
    (hdisp : p'.dispatched = p.dispatched ++ [(.generateScenario, max p.active 1 + 1)])
    (hopen : p'.OpenOnly (.generateScenario, max p.active 1 + 1)) :
    p'.LiveIn .generatingScenario := by
  refine ⟨_, hopen, by omega, by omega, ?_, ?_⟩
  · intro m hm
    rw [hdisp] at hm
    rcases List.mem_append.mp hm with hold | hnew
    · have hle := hbelow.generations m hold
      omega
    · have heq : m = max p.active 1 + 1 := by simpa using hnew
      omega
  · intro m hm
    rw [hdisp] at hm
    rcases List.mem_append.mp hm with hold | hnew
    · rw [hactive]
      exact hbelow.reviews m hold
    · exact absurd hnew (by simp)

/-- What a stage dispatches has not been dispatched before. -/
theorem Live.next_fresh {cfg : AppConfig} {p : Progress} {w : WorkflowRecord} {tt : TaskType}
    {n : Int} {st : WorkflowState} {next : Option Op} (h : p.Live)
    (hst : p.state = expectedStateForTask tt) (hd : (tt, n) ∈ p.dispatched)
    (ho : ¬ p.done (tt, n)) (hm : StageMove cfg w n p.active tt st next) :
    ∀ o ∈ next, o ∉ p.dispatched := by
  have hrests := h.rests
  rw [hst] at hrests
  intro o hnext
  cases hm with
  | collected =>
      obtain rfl := Option.some.inj hnext
      rw [hrests.2.2]
      simp
  | topicSelected =>
      obtain rfl := Option.some.inj hnext
      rw [hrests.2.2]
      simp
  | generated =>
      obtain rfl := Option.some.inj hnext
      obtain ⟨k, hone, hpos, hlt, hgen, hrev⟩ := hrests
      obtain ⟨-, rfl⟩ := Prod.mk.inj (hone.eq hd ho)
      intro hmem
      have := hrev _ hmem
      omega
  | revised hcap =>
      obtain rfl := Option.some.inj hnext
      exact hrests.2.2.not_next hrests.1
  | noSuitableTopic | reviewPassed | revisionCap => exact absurd hnext (by simp)

/-- An operation that has not been dispatched is added. -/
theorem Live.once_append {p : Progress} (h : p.Live) {next : Option Op}
    (hnext : ∀ o ∈ next, o ∉ p.dispatched) : (p.dispatched ++ next.toList).Nodup := by
  cases next with
  | none => simpa using h.once
  | some o =>
      rw [Option.toList_some, List.nodup_append]
      refine ⟨h.once, List.nodup_singleton o, ?_⟩
      intro a ha b hb heq
      rw [List.mem_singleton] at hb
      exact hnext o rfl (by rw [← hb, ← heq]; exact ha)

/-- A committed stage. -/
theorem Live.stage {cfg : AppConfig} {p : Progress} {w : WorkflowRecord} {tt : TaskType} {n : Int}
    {st : WorkflowState} {next : Option Op} (h : p.Live) (hst : p.state = expectedStateForTask tt)
    (hd : (tt, n) ∈ p.dispatched) (ho : ¬ p.done (tt, n))
    (hm : StageMove cfg w n p.active tt st next) : (p.commit (tt, n) st next).Live := by
  have hnew := h.next_fresh hst hd ho hm
  refine ⟨h.known_commit hd st next, h.once_append hnew, ?_⟩
  have hrests := h.rests
  rw [hst] at hrests
  change (p.commit (tt, n) st next).LiveIn st
  cases hm with
  | collected =>
      obtain ⟨hone, hactive, hdisp⟩ := hrests
      obtain ⟨-, rfl⟩ := Prod.mk.inj (hone.eq hd ho)
      refine ⟨hone.commit h.known _ (hnew _ rfl), hactive, ?_⟩
      simp [commit, hdisp]
  | topicSelected =>
      obtain ⟨hone, hactive, hdisp⟩ := hrests
      obtain ⟨-, rfl⟩ := Prod.mk.inj (hone.eq hd ho)
      have hopen := hone.commit h.known .generatingScenario (hnew _ rfl)
      rw [hactive] at hopen ⊢
      refine ⟨1, hopen, ?_⟩
      simp [commit, hdisp, hactive]
  | noSuitableTopic => rfl
  | generated =>
      obtain ⟨k, hone, hpos, hlt, hgen, hrev⟩ := hrests
      obtain ⟨-, rfl⟩ := Prod.mk.inj (hone.eq hd ho)
      have hmax : max n 1 = n := by omega
      rw [hmax] at hnew ⊢
      have hopen := hone.commit h.known .reviewing (hnew _ rfl)
      refine ⟨?_, hopen, ?_, ?_⟩
      · simp only [commit, if_true]
        omega
      · simpa [commit] using hgen
      · intro m hm
        simp only [commit, if_true, Option.toList_some, List.mem_append, List.mem_singleton,
          Prod.mk.injEq, true_and] at hm ⊢
        rcases hm with hm | rfl
        · have := hrev m hm
          omega
        · exact le_refl _
  | reviewPassed =>
      obtain ⟨hpos, hone, hbelow⟩ := hrests
      obtain ⟨-, rfl⟩ := Prod.mk.inj (hone.eq hd ho)
      exact ⟨hpos, hone.finish _, by simpa [commit] using hbelow.generations,
        by simpa [commit] using hbelow.reviews⟩
  | revisionCap hcap => rfl
  | revised hcap =>
      obtain ⟨hpos, hone, hbelow⟩ := hrests
      obtain ⟨-, rfl⟩ := Prod.mk.inj (hone.eq hd ho)
      exact liveIn_regenerating hpos hbelow rfl rfl
        (hone.commit h.known .generatingScenario (hnew _ rfl))

theorem Live.step {cfg : AppConfig} {p p' : Progress} (h : p.Live)
    (hs : p.Step cfg .pipeline p') : p'.Live := by
  have hnone : ∀ o ∈ (none : Option Op), o ∉ p.dispatched := by simp
  cases hs with
  | stage w op st next hst hd ho hm => exact h.stage hst hd ho hm
  | approval action hst =>
      have hrests := h.rests
      rw [hst] at hrests
      obtain ⟨hpos, hall, hbelow⟩ := hrests
      refine ⟨fun o hd => List.mem_append_left _ (h.known o hd), ?_, ?_⟩
      · cases action with
        | approve => exact h.once_append hnone
        | reject => exact h.once_append hnone
        | requestRegeneration =>
            refine h.once_append ?_
            intro o ho
            obtain rfl := Option.some.inj ho
            exact hbelow.not_next hpos
      · cases action with
        | approve => rfl
        | reject => rfl
        | requestRegeneration =>
            refine liveIn_regenerating hpos hbelow rfl rfl
              ⟨List.mem_append_right _ (List.mem_singleton.mpr rfl), ?_, ?_⟩
            · intro hd
              exact hbelow.not_next hpos (h.known _ hd)
            · intro o ho
              rcases List.mem_append.mp ho with hold | hnew
              · exact Or.inl (hall o hold)
              · exact Or.inr (List.mem_singleton.mp hnew)
  | failure st ht hst =>
      refine ⟨fun o hd => List.mem_append_left _ (h.known o hd), h.once_append hnone, ?_⟩
      rcases hst with rfl | rfl
      · rfl
      · rfl
  | signal w sig d ho hl => exact absurd rfl ho

/-- The states in which a workflow rests. -/
def restingState (st : WorkflowState) : Bool :=
  st = .collecting || st = .selectingTopic || st = .generatingScenario || st = .reviewing ||
    st = .awaitingHumanApproval || st.isTerminal

theorem Live.resting {p : Progress} (h : p.Live) : restingState p.state = true := by
  have hrests := h.rests
  generalize p.state = st at hrests
  cases st <;> first | rfl | exact absurd hrests (by simp [LiveIn, WorkflowState.isTerminal])

/-- An active stage waits for an open operation of its own. -/
theorem Live.waits {p : Progress} (h : p.Live) {tt : TaskType}
    (hst : p.state = expectedStateForTask tt) : ∃ n, p.OpenOnly (tt, n) := by
  have hrests := h.rests
  rw [hst] at hrests
  cases tt with
  | collect => exact ⟨1, hrests.1⟩
  | selectTopic => exact ⟨1, hrests.1⟩
  | generateScenario =>
      obtain ⟨n, hn, -⟩ := hrests
      exact ⟨n, hn⟩
  | reviewScenario => exact ⟨_, hrests.2.1⟩

/-- An operation of another stage than the current one is completed. -/
theorem Live.settled {p : Progress} (h : p.Live) {o : Op} (ho : o ∈ p.dispatched)
    (hst : p.state ≠ expectedStateForTask o.1) (hend : p.state.isTerminal = false) : p.done o := by
  have hstage : ∀ tt, p.state = expectedStateForTask tt → p.done o := by
    intro tt htt
    obtain ⟨n, hone⟩ := h.waits htt
    rcases hone.rest o ho with hd | rfl
    · exact hd
    · exact absurd htt hst
  have hrests := h.rests
  cases hp : p.state with
  | collecting => exact hstage .collect hp
  | selectingTopic => exact hstage .selectTopic hp
  | generatingScenario => exact hstage .generateScenario hp
  | reviewing => exact hstage .reviewScenario hp
  | awaitingHumanApproval =>
      rw [hp] at hrests
      exact hrests.2.1 o ho
  | _ =>
      rw [hp] at hrests hend
      exact absurd (hrests.symm.trans hend) (by simp)

end Progress

/-! ### Settled tasks

A task that is settled is never needed again, and stays settled.
-/

/-- The operation of the task is completed, or its workflow has ended. -/
def Settled (s : Store) (taskId : String) : Prop :=
  ∃ t, s.tasks.get? taskId = some t ∧
    (s.completed t.idempotencyKey = true ∨
      ∃ w, s.workflows.get? t.workflowId = some w ∧ w.state.isTerminal = true)

/-- A workflow that has ended is never written again. -/
theorem StoreStep.terminal {cfg : AppConfig} {origin : Origin} {s s' : Store} {id : String}
    {w : WorkflowRecord} (h : StoreStep cfg origin s s') (hw : s.workflows.get? id = some w)
    (ht : w.state.isTerminal = true) : s'.workflows.get? id = some w := by
  have hsame : s'.workflows = s.workflows → s'.workflows.get? id = some w := by
    intro heq
    rw [heq]
    exact hw
  have hwrite : ∀ {row : WorkflowRecord}, row.workflowId ≠ id →
      s'.workflows = s.workflows.upsert row → s'.workflows.get? id = some w := by
    intro row hne heq
    rw [heq, Table.get?_upsert, if_neg hne]
    exact hw
  cases h with
  | quiet h => exact hsame h.workflows
  | marked outboxId h => exact hsame (by rw [h.same])
  | created env workflowId w' row h hf =>
      refine hwrite ?_ h.workflows
      intro hid
      rw [← hid, h.rowId, h.absent] at hw
      exact absurd hw (by simp)
  | moved env workflowId w' row next h hm hf =>
      refine hwrite ?_ h.workflows
      intro hid
      have hread := h.read
      rw [← h.rowId, hid] at hread
      obtain rfl : w' = w := Option.some.inj (hread.symm.trans hw)
      exact absurd (hm.live.symm.trans ht) (by simp)
  | recreated env w' tt attempt ho h hf => exact hsame (by rw [h.store, dispatch_workflows])
  | staged env ctx n w' row next denv task h =>
      refine hwrite ?_ h.workflows
      intro hid
      have hread := h.read
      rw [← h.rowId, hid] at hread
      obtain rfl : w' = w := Option.some.inj (hread.symm.trans hw)
      rw [h.stage] at ht
      cases hk : ctx.task.taskType <;> rw [hk] at ht <;> exact absurd ht (by decide)

theorem Settled.step {cfg : AppConfig} {origin : Origin} {s s' : Store} {taskId : String}
    (h : Settled s taskId) (hstep : StoreStep cfg origin s s') : Settled s' taskId := by
  obtain ⟨t, ht, hor⟩ := h
  obtain ⟨t', ht', hsame⟩ := hstep.extends.tasks _ t ht
  refine ⟨t', ht', ?_⟩
  rw [hsame.idempotencyKey, hsame.workflowId]
  refine hor.imp (hstep.extends.completed _) ?_
  intro hend
  obtain ⟨w, hw, hterm⟩ := hend
  exact ⟨w, hstep.terminal hw hterm, hterm⟩

/-- A task whose workflow is not in the task's stage is settled. -/
theorem settled_of_stale {s : Store} {m : TaskMessage} {t : TaskRecord} {w : WorkflowRecord}
    (hs : StoreSound s) (hlive : Tracked Progress.Live s) (ht : TaskKnown s m t)
    (hw : s.workflows.get? m.workflowId = some w) (hst : w.state ≠ expectedStateForTask t.taskType) :
    Settled s m.taskId := by
  obtain ⟨t₀, hg, hwid, hsame⟩ := ht
  obtain ⟨n, hn⟩ := hs.task t₀ (Table.mem_of_get? hg)
  rw [hwid] at hw
  refine ⟨t₀, hg, ?_⟩
  by_cases hend : w.state.isTerminal = true
  · exact Or.inr ⟨w, hw, hend⟩
  · obtain ⟨p, hp, hl⟩ := hlive t₀.workflowId (by rw [hw]; simp)
    have hstate := hp.state_eq hw
    have hmem := hp.mem_dispatched (Table.mem_of_get? hg) rfl hn.key
    have hdone := hl.settled hmem (by rw [← hstate, hsame.taskType]; exact hst)
      (by rw [← hstate]; simpa using hend)
    rw [hn.key]
    exact Or.inl ((hp.done (t₀.taskType, n)).mp hdone)

/-! ### The invariant

The message of an open task is somewhere on its way.
-/

/-- The phases after the operation of the delivery is settled. -/
def Phase.settles : Phase → Bool
  | .stale | .duplicate _ _ | .committed _ _ | .released _ _ | .failed _ => true
  | _ => false

/-- The task has a message in the stream. -/
def Enqueued (stream : List StreamEntry) (taskId : String) : Prop :=
  ∃ m ∈ stream, m.message.taskId = taskId

theorem Enqueued.extends {st st' : List StreamEntry} {taskId : String} (h : Enqueued st taskId)
    (he : StreamExtends st st') : Enqueued st' taskId := by
  obtain ⟨m, hm, hid⟩ := h
  obtain ⟨n, hn⟩ := List.mem_iff_getElem?.mp hm
  obtain ⟨m', hm', hmsg⟩ := he n m hn
  exact ⟨m', List.mem_of_getElem? hm', by rw [hmsg]; exact hid⟩

structure Delivered (σ : Sys) : Prop where
  sound : SysSound σ
  live : Tracked Progress.Live σ.store
  /-- Only completed operations have completed tasks. -/
  status : ∀ t ∈ σ.store.tasks.rows, t.status = .completed →
    σ.store.completed t.idempotencyKey = true
  /-- Every task has an outbox row. -/
  row : ∀ t ∈ σ.store.tasks.rows, ∃ e ∈ σ.store.outbox.rows, e.taskId = t.taskId
  published : ∀ e ∈ σ.store.outbox.rows, e.status ≠ .pending → Enqueued σ.stream e.taskId
  enqueued : ∀ f ∈ σ.frames, f.enqueued = true → Enqueued σ.stream f.entry.taskId
  acked : ∀ m ∈ σ.stream, m.acked = true → Settled σ.store m.message.taskId
  phases : ∀ d ∈ σ.deliveries, d.phase.settles = true → Settled σ.store d.message.taskId

theorem delivered_empty : Delivered {} where
  sound := sysSound_empty
  live := tracked_empty _
  status := by intro t ht; exact absurd ht (by simp)
  row := by intro t ht; exact absurd ht (by simp)
  published := by intro e he; exact absurd he (by simp)
  enqueued := by intro f hf; exact absurd hf (by simp)
  acked := by intro m hm; exact absurd hm (by simp)
  phases := by intro d hd; exact absurd hd (by simp)

/-- A growing step of the store. -/
theorem Delivered.grows {cfg : AppConfig} {σ : Sys} {s' : Store} {env : Env} {w : WorkflowRecord}
    {attempt : Nat} {next : Option Op} (h : Delivered σ) (hstep : StoreStep cfg .pipeline σ.store s')
    (hg : Grows env w attempt next σ.store s') : Delivered { σ with store := s' } where
  sound := h.sound.of_store (h.sound.store.step hstep) hstep.extends
  live := h.live.step h.sound.store hstep (by decide) Progress.live_initial (fun _ _ hl => hl.step)
  status := by
    intro t' ht' hst
    rcases hg.status t' ht' hst with ⟨t, ht, hsame, hdone⟩ | hdone
    · rw [hsame.idempotencyKey]
      exact hg.completed _ (h.status t ht hdone)
    · exact hdone
  row := by
    intro t' ht'
    change ∃ e ∈ s'.outbox.rows, _
    rw [hg.outbox]
    rcases hg.task_cases ht' with ⟨t, ht, hsame⟩ | ⟨p, hp, rfl⟩
    · obtain ⟨e, he, hid⟩ := h.row t ht
      exact ⟨e, List.mem_append_left _ he, hid.trans hsame.taskId.symm⟩
    · obtain rfl : next = some p := hp
      exact ⟨_, List.mem_append_right _ (List.mem_singleton.mpr rfl), rfl⟩
  published := by
    intro e he hst
    change e ∈ s'.outbox.rows at he
    rw [hg.outbox] at he
    rcases List.mem_append.mp he with hold | hnew
    · exact h.published e hold hst
    · cases next with
      | none => exact absurd hnew (by simp [nextBuild, newOutboxRows])
      | some p =>
          obtain rfl := List.mem_singleton.mp hnew
          exact absurd rfl hst
  enqueued := h.enqueued
  acked := fun m hm hack => (h.acked m hm hack).step hstep
  phases := fun d hd hp => (h.phases d hd hp).step hstep

theorem Delivered.quiet {σ : Sys} {s' : Store} (h : Delivered σ) (hq : Quiet σ.store s') :
    Delivered { σ with store := s' } :=
  h.grows (.quiet hq : StoreStep .prod .pipeline _ _) (hq.grows (Env.numbered 0 0) (newWorkflow 0 ""))

/-! ### Publishers -/

/-- A published mark, of a row whose message is in the stream. -/
theorem Delivered.marked {σ : Sys} {f : PublishFrame} (h : Delivered σ) (hf : f ∈ σ.frames)
    (henq : f.enqueued = true) (now : Time) :
    Delivered { σ with store := markedStore now f.entry.outboxId σ.store } := by
  rcases markedStore_cases now f.entry.outboxId σ.store with he | hm
  · rw [he]
    exact h
  have hstep : StoreStep .prod .pipeline σ.store (markedStore now f.entry.outboxId σ.store) :=
    .marked _ hm
  generalize markedStore now f.entry.outboxId σ.store = s' at hm hstep
  have htasks : s'.tasks = σ.store.tasks := by rw [hm.same]
  have hfound := h.sound.frames f hf
  exact {
    sound := h.sound.of_store (h.sound.store.step hstep) hstep.extends
    live := h.live.step h.sound.store hstep (by decide) Progress.live_initial
      (fun _ _ hl => hl.step)
    status := by
      intro t ht hst
      change t ∈ s'.tasks.rows at ht
      rw [htasks] at ht
      exact hstep.extends.completed _ (h.status t ht hst)
    row := by
      intro t ht
      change t ∈ s'.tasks.rows at ht
      rw [htasks] at ht
      obtain ⟨e, he, hid⟩ := h.row t ht
      obtain ⟨e', he', hsame⟩ := hstep.extends.outbox _ e (Table.get?_of_mem he)
      exact ⟨e', Table.mem_of_get? he', hsame.taskId.trans hid⟩
    published := by
      intro e' he' hst
      rcases hm.row_cases he' with hold | ⟨e, he, hid, -, htask, -⟩
      · exact h.published e' hold hst
      · -- the marked row is the one that the publisher has enqueued
        obtain ⟨e₀, he₀, hsame⟩ := hfound
        have hrow : e = e₀ := by
          have hget := Table.get?_of_mem he
          rw [hid] at hget
          exact Option.some.inj (hget.symm.trans he₀)
        rw [htask, hrow, hsame.taskId]
        exact h.enqueued f hf henq
    enqueued := h.enqueued
    acked := fun m hmem hack => (h.acked m hmem hack).step hstep
    phases := fun d hd hp => (h.phases d hd hp).step hstep }

theorem Delivered.enqueue {σ : Sys} {m : TaskMessage} (h : Delivered σ)
    (hm : MessageSound σ.store m) :
    Delivered { σ with stream := σ.stream ++ [{ message := m }] } where
  sound := h.sound.enqueue hm
  live := h.live
  status := h.status
  row := h.row
  published := fun e he hst => (h.published e he hst).extends (streamExtends_append _ _)
  enqueued := fun f hf henq => (h.enqueued f hf henq).extends (streamExtends_append _ _)
  acked := by
    intro m' hm' hack
    rcases List.mem_append.mp hm' with hold | hnew
    · exact h.acked m' hold hack
    · obtain rfl := List.mem_singleton.mp hnew
      exact absurd hack (by simp)
  phases := h.phases

theorem Delivered.setFrame {σ : Sys} {i : Nat} {f : Option PublishFrame} (h : Delivered σ)
    (hf : ∀ f' ∈ f, FrameSound σ.store f' ∧
      (f'.enqueued = true → Enqueued σ.stream f'.entry.taskId)) :
    Delivered (σ.setFrame i f) := by
  have hsound : SysSound (σ.setFrame i f) := h.sound.setFrame (fun f' hf' => (hf f' hf').1)
  cases f with
  | none =>
      exact { h with
        sound := hsound
        enqueued := fun f' hf' => h.enqueued f' (List.mem_of_mem_eraseIdx hf') }
  | some f₀ =>
      refine { h with sound := hsound, enqueued := ?_ }
      intro f' hf' henq
      rcases List.mem_or_eq_of_mem_set hf' with hold | rfl
      · exact h.enqueued f' hold henq
      · exact (hf f' rfl).2 henq

theorem Delivered.stepPublish {σ : Sys} {i : Nat} {f : PublishFrame} (h : Delivered σ)
    (hf : f ∈ σ.frames) (a : PublishAction) : Delivered (σ.stepPublish i f a) := by
  have hfs := h.sound.frames f hf
  cases a with
  | enqueue =>
      unfold Sys.stepPublish
      dsimp only
      split
      · exact h
      · cases hm : buildMessage σ.store f.entry with
        | none => exact h.setFrame (by simp)
        | some m =>
            obtain ⟨hmsg, hid⟩ := hfs.message h.sound.store hm
            refine (h.enqueue hmsg).setFrame ?_
            intro f' hf'
            obtain rfl := Option.some.inj hf'
            refine ⟨hfs, fun _ => ⟨_, List.mem_append_right _ (List.mem_singleton.mpr rfl), hid⟩⟩
  | enqueueRaises applied =>
      unfold Sys.stepPublish
      dsimp only
      split
      · exact h
      · cases hm : buildMessage σ.store f.entry with
        | none => exact h
        | some m =>
            cases applied with
            | false => exact h
            | true => exact h.enqueue (hfs.message h.sound.store hm).1
  | mark now =>
      unfold Sys.stepPublish
      dsimp only
      split
      · next henq => exact (h.marked hf henq now).setFrame (by simp)
      · exact h
  | markRaises now applied =>
      unfold Sys.stepPublish
      dsimp only
      split
      · next hand =>
        rw [Bool.and_eq_true] at hand
        exact h.marked hf hand.1 now
      · exact h
  | drop =>
      change Delivered (σ.setFrame i none)
      exact h.setFrame (by simp)

/-! ### Deliveries -/

/-- A step of a delivery that acks only a settled task. -/
theorem Delivered.advance {σ : Sys} {i : Nat} {d : Delivery} {e : DeliveryEffect}
    (h : Delivered { σ with store := e.store }) (hd : d ∈ σ.deliveries)
    (hsound : SysSound (σ.applyEffect i d e))
    (hack : e.acks = true → Settled e.store d.message.taskId)
    (hnext : ∀ d', e.next = some d' → d'.phase.settles = true →
      Settled e.store d'.message.taskId) : Delivered (σ.applyEffect i d e) := by
  have hstream : StreamExtends σ.stream
      (if e.acks then Sys.ackEntry σ.stream d.entry else σ.stream) := by
    split
    · exact streamExtends_ackEntry _ _
    · exact StreamExtends.refl _
  exact {
    sound := hsound
    live := h.live
    status := h.status
    row := h.row
    published := fun r hr hst => (h.published r hr hst).extends hstream
    enqueued := fun f hf henq => (h.enqueued f hf henq).extends hstream
    acked := by
      intro m hm hacked
      change m ∈ (if e.acks then Sys.ackEntry σ.stream d.entry else σ.stream) at hm
      split at hm
      · next hacks =>
        obtain ⟨n, hn⟩ := List.mem_iff_getElem?.mp hm
        rw [ackEntry_getElem?] at hn
        obtain ⟨m₀, hm₀, rfl⟩ := Option.map_eq_some_iff.mp hn
        by_cases hentry : d.entry = n
        · obtain ⟨m₁, hm₁, hmsg⟩ := (h.sound.deliveries d hd).entry
          change σ.stream[d.entry]? = some m₁ at hm₁
          rw [hentry] at hm₁
          obtain rfl : m₁ = m₀ := Option.some.inj (hm₁.symm.trans hm₀)
          rw [if_pos hentry]
          change Settled e.store m₁.message.taskId
          rw [hmsg]
          exact hack hacks
        · rw [if_neg hentry] at hacked ⊢
          exact h.acked m₀ (List.mem_of_getElem? hm₀) hacked
      · exact h.acked m hm hacked
    phases := by
      intro d' hd' hp
      rcases mem_of_applyEffect hd' with hold | hn
      · exact h.phases d' hold hp
      · exact hnext d' hn hp }

/-- An ack comes in a phase after the operation is settled. -/
theorem AckPhase.settles {p : Phase} (h : AckPhase p) : p.settles = true := by
  cases h <;> rfl

/-- A step between the phases enters a settled one only with a settled task. -/
theorem PhaseStep.settled {σ : Sys} {d : Delivery} {p : Phase} (h : Delivered σ)
    (hd : d ∈ σ.deliveries) (hstep : PhaseStep σ.store d.message d.phase p)
    (hp : p.settles = true) : Settled σ.store d.message.taskId := by
  have hds := h.sound.deliveries d hd
  have hphases := h.phases d hd
  have htask := hds.task
  generalize d.phase = q at hstep hphases htask
  cases hstep with
  | skip t w hw hst =>
      exact settled_of_stale h.sound.store h.live (htask t rfl) hw hst
  | duplicate t key hk hc =>
      obtain ⟨t₀, hg, hw, hsame⟩ := htask t rfl
      obtain ⟨n, hn, hw', -⟩ := (htask t rfl).sound h.sound.store
      obtain rfl : key = t.idempotencyKey := Except.ok.inj (hk.symm.trans (hn.deliveryKey hw'))
      refine ⟨t₀, hg, Or.inl ?_⟩
      rw [hsame.idempotencyKey]
      exact hc
  | release t key => exact hphases rfl
  | read | accept | lease | execute | raise | handled => exact absurd hp (by simp [Phase.settles])

/-- A committed stage has completed the operation of its task. -/
theorem Staged.settled {cfg : AppConfig} {env : StageEnv} {ctx : DeliveryContext} {n : Int}
    {s s' : Store} {w row : WorkflowRecord} {next : Option (TaskType × Int)} {denv : Env}
    {task : TaskRecord} (h : Staged cfg env ctx n s s' w row next denv task) :
    Settled s' ctx.message.taskId := by
  obtain ⟨t', ht', hsame⟩ := h.grows.extends.tasks _ task h.stored
  refine ⟨t', ht', Or.inl ?_⟩
  rw [hsame.idempotencyKey]
  exact (h.completed_iff _).mpr (Or.inr rfl)

theorem Delivered.applyEffect {repo : WorkflowRepoKind} {cfg : AppConfig} {σ : Sys} {i : Nat}
    {d : Delivery} {a : DeliveryAction} {e : DeliveryEffect} (h : Delivered σ)
    (hd : d ∈ σ.deliveries) (hstep : DeliveryStep repo cfg σ.store d a e) :
    Delivered (σ.applyEffect i d e) := by
  have hsound : SysSound (σ.applyEffect i d e) := h.sound.applyEffect hd hstep
  have hds := h.sound.deliveries d hd
  cases hstep with
  | stay =>
      refine Delivered.advance h hd hsound (by simp) ?_
      intro d' hd'
      obtain rfl := Option.some.inj hd'
      exact h.phases _ hd
  | leave s' hq => exact (h.quiet hq).advance hd hsound (by simp) (by simp)
  | phase s' hq lease p backoff hps =>
      refine (h.quiet hq).advance hd hsound (by simp) ?_
      intro d' hd' hp
      obtain rfl := Option.some.inj hd'
      exact (hps.settled h hd hp).step (.quiet hq : StoreStep cfg .pipeline _ _)
  | ack applied next hack hafter =>
      have hsettled := h.phases d hd hack.settles
      refine Delivered.advance h hd hsound (fun _ => hsettled) ?_
      intro d' hd' hp
      obtain rfl : next = some d' := hd'
      cases hafter with
      | closing => exact absurd hp (by simp [Phase.settles])
      | raised t e hr => exact absurd hp (by simp [Phase.settles])
  | commit env reply t key s' ha hp hf htx =>
      obtain rfl : key = t.idempotencyKey := hds.key t key (by rw [hp]; rfl)
      have ht : TaskKnown σ.store d.message t := hds.task t (by rw [hp]; rfl)
      obtain ⟨n, w, row, next, denv, task, hstaged⟩ := staged_of_ok h.sound.store ht hf htx
      have hmove : StoreStep cfg .pipeline σ.store s' :=
        .staged env _ n w row next denv task hstaged
      refine (h.grows hmove hstaged.grows).advance hd hsound (by simp) ?_
      intro d' hd' _
      obtain rfl := Option.some.inj hd'
      exact hstaged.settled
  | fail env readyAt t e tt exhausted errorClass s' ha hp hdec htx =>
      obtain ⟨w, row, s₁, hm, hst, hrow, hq⟩ := permanentFailure_ok htx
      have htrans : w.state.isTransient = true := by
        rw [hst]
        exact expectedStateForTask_transient tt
      have hmove : StoreStep cfg .pipeline σ.store s₁ :=
        .moved env _ w row none hm (.failure row.state htrans hrow) (fun hn => absurd rfl hn)
      have hgrow := h.grows hmove (moved_grows hm (fun hn => absurd rfl hn) (by simp))
      refine (hgrow.quiet hq).advance hd hsound (by simp) ?_
      intro d' hd' _
      obtain rfl := Option.some.inj hd'
      -- the workflow has ended
      obtain ⟨t₀, hg, hw, -⟩ := hds.task t (by rw [hp]; rfl)
      obtain ⟨t₁, hg₁, hsame⟩ := hmove.extends.tasks _ t₀ hg
      have hend : Settled s₁ d.message.taskId := by
        refine ⟨t₁, hg₁, Or.inr ⟨row, ?_, ?_⟩⟩
        · rw [hsame.workflowId, ← hw, hm.workflows, Table.get?_upsert, if_pos hm.rowId]
        · rcases hrow with hrow | hrow <;> rw [hrow] <;> rfl
      exact hend.step (.quiet hq : StoreStep cfg .pipeline _ _)

/-! ### Runs -/

/-- **Every step of the pipeline keeps the invariant.** -/
theorem Delivered.step {repo : WorkflowRepoKind} {cfg : AppConfig} {sc : ReconciliationScanner}
    {σ : Sys} (h : Delivered σ) {a : Action} (ha : a.origin = .pipeline) :
    Delivered (Sys.step repo cfg sc a σ) := by
  have hsound : SysSound (Sys.step repo cfg sc a σ) := h.sound.step a
  cases a with
  | initiate env request =>
      unfold Sys.step
      dsimp only
      by_cases hf : σ.store.freshDispatch env = true
      · rw [if_pos hf]
        rcases commit_cases σ.store (initiateWorkflow repo env request σ.store) with he | ⟨res, he⟩
        · rw [he]
          exact h
        · obtain ⟨id, w, row, hc⟩ := Created.of_initiate he
          exact h.grows (.created env id w row hc hf : StoreStep cfg .pipeline _ _) (hc.grows hf)
      · rw [if_neg hf]
        exact h
  | approve env workflowId action actor =>
      unfold Sys.step
      dsimp only
      by_cases hf : σ.store.freshDispatch env = true
      · rw [if_pos hf]
        rcases commit_cases σ.store
          (applyApprovalAction repo env workflowId action actor σ.store) with he | ⟨res, he⟩
        · rw [he]
          exact h
        · obtain ⟨w, row, next, hm, hmove⟩ := approval_moved he
          have hstep : StoreStep cfg .pipeline σ.store _ :=
            .moved env workflowId w row next hm hmove (fun _ => hf)
          exact h.grows hstep (moved_grows hm (fun _ => hf) hmove.fixed)
      · rw [if_neg hf]
        exact h
  | transition env request => exact absurd ha (by simp [Action.origin])
  | fetchRow outboxId =>
      revert hsound
      unfold Sys.step
      dsimp only
      split
      · exact fun _ => h
      · split
        · intro hsound
          refine { h with sound := hsound, enqueued := ?_ }
          intro f hf henq
          rcases List.mem_append.mp hf with hold | hnew
          · exact h.enqueued f hold henq
          · obtain rfl := List.mem_singleton.mp hnew
            exact absurd henq (by simp)
        · exact fun _ => h
  | publish i a =>
      unfold Sys.step
      dsimp only
      split
      · exact h
      · next f hf => exact h.stepPublish (List.mem_of_getElem? hf) a
  | deliver n worker =>
      revert hsound
      unfold Sys.step
      dsimp only
      split
      · exact fun _ => h
      · split
        · exact fun _ => h
        · intro hsound
          refine { h with sound := hsound, phases := ?_ }
          intro d hd hp
          rcases List.mem_append.mp hd with hold | hnew
          · exact h.phases d hold hp
          · obtain rfl := List.mem_singleton.mp hnew
            exact absurd hp (by simp [Phase.settles])
  | delivery i a =>
      unfold Sys.step
      dsimp only
      split
      · exact h
      · next d hd =>
        exact h.applyEffect (List.mem_of_getElem? hd) (deliveryStep repo cfg σ.backoff σ.store d a)
  | crashWorker worker =>
      exact { h with
        sound := hsound
        phases := fun d hd => h.phases d (List.mem_of_mem_filter hd) }
  | expireLease taskId => exact h.quiet (Quiet.of_leases _ _)
  | scanCollect | scanCollectRaises | scan => exact absurd ha (by simp [Action.origin])

/-- The task waits in the outbox or in the stream. -/
def Waiting (σ : Sys) (taskId : String) : Prop :=
  (∃ e ∈ σ.store.outbox.rows, e.taskId = taskId ∧ e.status = .pending) ∨
    ∃ m ∈ σ.stream, m.message.taskId = taskId ∧ m.acked = false

/-- A task that is not settled waits. -/
theorem Delivered.waiting {σ : Sys} (h : Delivered σ) {t : TaskRecord}
    (ht : t ∈ σ.store.tasks.rows) (hopen : ¬ Settled σ.store t.taskId) : Waiting σ t.taskId := by
  obtain ⟨e, he, hid⟩ := h.row t ht
  by_cases hst : e.status = .pending
  · exact Or.inl ⟨e, he, hid, hst⟩
  · obtain ⟨m, hm, hmid⟩ := h.published e he hst
    rw [hid] at hmid
    refine Or.inr ⟨m, hm, hmid, ?_⟩
    by_contra hack
    have hsettled := h.acked m hm (by simpa using hack)
    rw [hmid] at hsettled
    exact hopen hsettled

/-- An active stage has a task that waits. -/
theorem Delivered.stage_waiting {σ : Sys} (h : Delivered σ) {id : String} {w : WorkflowRecord}
    {tt : TaskType} (hw : σ.store.workflows.get? id = some w)
    (hst : w.state = expectedStateForTask tt) :
    ∃ t ∈ σ.store.tasks.rows, t.workflowId = id ∧ t.taskType = tt ∧ t.status ≠ .completed ∧
      Waiting σ t.taskId := by
  obtain ⟨p, hp, hl⟩ := h.live id (by rw [hw]; simp)
  have hstate := hp.state_eq hw
  obtain ⟨n, hone⟩ := hl.waits (hstate.symm.trans hst)
  obtain ⟨t, ht, hid, htype, hkey⟩ := hp.task_of_mem hone.dispatched
  have hopen : σ.store.completed t.idempotencyKey = false := by
    by_contra hc
    have hdone : σ.store.completed (formatIdempotencyKey id tt n) = true := by
      rw [hkey] at hc
      simpa using hc
    exact hone.open_ ((hp.done (tt, n)).mpr hdone)
  refine ⟨t, ht, hid, htype, ?_, h.waiting ht ?_⟩
  · intro hdone
    rw [h.status t ht hdone] at hopen
    exact absurd hopen (by simp)
  · intro hsettled
    obtain ⟨t₀, hg, hor⟩ := hsettled
    obtain rfl : t₀ = t := Option.some.inj (hg.symm.trans (Table.get?_of_mem ht))
    rcases hor with hc | ⟨w', hw', hend⟩
    · rw [hopen] at hc
      exact absurd hc (by simp)
    · rw [hid, hw] at hw'
      obtain rfl := Option.some.inj hw'
      rw [hst] at hend
      cases tt <;> exact absurd hend (by decide)

/-- **No work is lost.** In every run of the pipeline every workflow rests in an active stage,
before its approval or at its end, and in an active stage a task of that stage that is not
completed waits in the outbox or in the stream. -/
theorem run_no_lost_work (repo : WorkflowRepoKind) (cfg : AppConfig) (sc : ReconciliationScanner)
    (as : List Action) (hpipe : ∀ a ∈ as, a.origin = .pipeline) (id : String)
    (w : WorkflowRecord)
    (hw : (run (Sys.step repo cfg sc) {} as).store.workflows.get? id = some w) :
    Progress.restingState w.state = true ∧
      ∀ tt, w.state = expectedStateForTask tt →
        ∃ t ∈ (run (Sys.step repo cfg sc) {} as).store.tasks.rows, t.workflowId = id ∧
          t.taskType = tt ∧ t.status ≠ .completed ∧
          Waiting (run (Sys.step repo cfg sc) {} as) t.taskId := by
  have h : Delivered (run (Sys.step repo cfg sc) {} as) :=
    run_induction (fun a => a.origin = .pipeline) (fun _ _ ha hσ => hσ.step ha) delivered_empty
      hpipe
  refine ⟨?_, fun tt hst => h.stage_waiting hw hst⟩
  obtain ⟨p, hp, hl⟩ := h.live id (by rw [hw]; simp)
  rw [hp.state_eq hw]
  exact hl.resting

/-- After the topic is selected, the generation waits in the outbox. -/
theorem topicRun_no_lost_work :
    ∃ w, (run (Sys.step .postgres .prod {}) {} topicRun).store.workflows.get? "wf" = some w ∧
      ∃ t ∈ (run (Sys.step .postgres .prod {}) {} topicRun).store.tasks.rows,
        t.workflowId = "wf" ∧ t.taskType = .generateScenario ∧ t.status ≠ .completed ∧
        Waiting (run (Sys.step .postgres .prod {}) {} topicRun) t.taskId := by
  have hstate : ((run (Sys.step .postgres .prod {}) {} topicRun).store.workflows.get? "wf").any
      (fun w => w.state = expectedStateForTask .generateScenario) = true := by decide +kernel
  obtain ⟨w, hw, hst⟩ := (Option.any_eq_true _ _).mp hstate
  refine ⟨w, hw, ?_⟩
  exact (run_no_lost_work .postgres .prod {} topicRun
    (by simp [topicRun, processRow, publishRow, executeEntry, finishDelivery, Action.origin])
    "wf" w hw).2 .generateScenario (by simpa using hst)

end CartoonDemo
