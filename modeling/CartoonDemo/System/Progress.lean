import CartoonDemo.System.Consistent

/-!
# CartoonDemo.System.Progress

A workflow **as a machine of its own**. `Progress` is what the tables say about one workflow:
its state, the version of its active scenario, the operations that have been dispatched and
those whose completion is recorded. Rows, keys, identifiers and payloads are gone.

`Represents` ties a progress to the store, and `represents_step` is the simulation: a step of
the store is, for each workflow, a step of its progress or none at all; the reconciler only
repeats a dispatch. An invariant of one workflow is proved about `Progress` and carried over
by `Tracked.step`.
-/

namespace CartoonDemo

open WorkflowEngine TransitionExecutor WorkerLoop WorkflowStateGuard

/-- A logical operation: a stage and its version. -/
abbrev Op := TaskType × Int

structure Progress where
  state : WorkflowState
  active : Int
  /-- In the order of their dispatch. -/
  dispatched : List Op
  done : Op → Prop

namespace Progress

/-! ### The machine

One workflow by itself: its state, and the operations that it has dispatched and completed.
-/

/-- A workflow that has just been initiated. -/
def initial : Progress :=
  { state := .collecting, active := 0, dispatched := [(.collect, 1)], done := fun _ => False }

/-- The version that a dispatch resolves to. -/
def resolve (p : Progress) (tt : TaskType) (increment : Bool) : Int :=
  match tt with
  | .collect | .selectTopic => 1
  | .generateScenario | .reviewScenario =>
      if increment then max p.active 1 + 1 else max p.active 1

/-- The operation of a decision. -/
def decided (p : Progress) (tt : Option TaskType) (increment : Bool) : Option Op :=
  tt.map fun tt => (tt, p.resolve tt increment)

/-- The workflow goes to `st` and `next` is dispatched. -/
def goto (p : Progress) (st : WorkflowState) (next : Option Op) : Progress :=
  { p with state := st, dispatched := p.dispatched ++ next.toList }

/-- The operation `op` completes, the workflow goes to `st` and `next` is dispatched. -/
def commit (p : Progress) (op : Op) (st : WorkflowState) (next : Option Op) : Progress :=
  { state := st, active := if op.1 = .generateScenario then op.2 else p.active,
    dispatched := p.dispatched ++ next.toList, done := fun o => p.done o ∨ o = op }

/-- The reconciler dispatches an operation of type `tt`. -/
def recreate (p : Progress) (tt : TaskType) : Progress :=
  p.goto p.state (some (tt, p.resolve tt (tt = .generateScenario)))

/-- The steps that move a workflow. -/
inductive Step (cfg : AppConfig) (origin : Origin) (p : Progress) : Progress → Prop
  | stage (w : WorkflowRecord) (op : Op) (st : WorkflowState) (next : Option Op)
      (hst : p.state = expectedStateForTask op.1) (hd : op ∈ p.dispatched) (ho : ¬ p.done op)
      (hm : StageMove cfg w op.2 p.active op.1 st next) : Step cfg origin p (p.commit op st next)
  | approval (action : ApprovalAction) (h : p.state = .awaitingHumanApproval) :
      Step cfg origin p (p.goto (approvalMatrix action).toState
        (p.decided (approvalMatrix action).outboxTaskType
          (approvalMatrix action).incrementLogicalVersion))
  | failure (st : WorkflowState) (h : p.state.isTransient = true)
      (hst : st = .failed ∨ st = .failedPermanently) : Step cfg origin p (p.goto st none)
  | signal (w : WorkflowRecord) (sig : TransitionSignal) (d : TransitionDecision)
      (ho : origin ≠ .pipeline)
      (h : TransitionTable.lookup p.state sig w.revisionCount cfg.maxScenarioRevisions = .ok d) :
      Step cfg origin p (p.goto d.toState (p.decided d.outboxTaskType d.incrementLogicalVersion))

/-- The versions of the dispatched operations of one type. -/
def versions (p : Progress) (tt : TaskType) : List Int :=
  (p.dispatched.filter (fun o => o.1 = tt)).map Prod.snd

end Progress

/-! ### Dispatched operations in the store -/

/-- The task rows of one type of a workflow, in the order of their creation. -/
def Store.tasksOf (s : Store) (workflowId : String) (tt : TaskType) : List TaskRecord :=
  s.tasks.rows.filter (fun t => t.workflowId = workflowId && t.taskType = tt)

/-- Type and key of the task rows of a workflow. -/
def Store.operations (s : Store) (workflowId : String) : List (TaskType × String) :=
  (s.tasks.rows.filter (fun t => t.workflowId = workflowId)).map
    (fun t => (t.taskType, t.idempotencyKey))

/-- Type and key of an operation. -/
def opKey (workflowId : String) (o : Op) : TaskType × String :=
  (o.1, formatIdempotencyKey workflowId o.1 o.2)

theorem opKey_inj {workflowId : String} {o o' : Op} (h : opKey workflowId o = opKey workflowId o') :
    o = o' := by
  obtain ⟨-, htt, hn⟩ := formatIdempotencyKey_inj (congrArg Prod.snd h)
  exact Prod.ext htt hn

/-- A growing step appends the dispatched operation to its workflow's. -/
theorem Grows.operations {env : Env} {w : WorkflowRecord} {attempt : Nat} {next : Option Op}
    {s s' : Store} (h : Grows env w attempt next s s') (id : String) :
    s'.operations id =
      s.operations id ++ if w.workflowId = id then next.toList.map (opKey id) else [] := by
  obtain ⟨f, hf, hrows⟩ := h.tasks
  have hold : (s.tasks.rows.map f).filter (fun t => t.workflowId = id) =
      (s.tasks.rows.filter (fun t => t.workflowId = id)).map f := by
    rw [List.filter_map]
    refine congrArg (List.map f) (List.filter_congr fun t _ => ?_)
    simp [(hf t).workflowId]
  have hop : ∀ t, ((f t).taskType, (f t).idempotencyKey) = (t.taskType, t.idempotencyKey) :=
    fun t => by rw [(hf t).taskType, (hf t).idempotencyKey]
  unfold Store.operations
  rw [hrows, List.filter_append, List.map_append, hold, List.map_map]
  refine congr (congrArg _ (List.map_congr_left fun t _ => hop t)) ?_
  by_cases hid : w.workflowId = id
  · rw [if_pos hid]
    cases next with
    | none => rfl
    | some o =>
        simp [nextBuild, newTasks, OutboxSpecBuilder.build, hid, opKey]
  · rw [if_neg hid]
    cases next with
    | none => rfl
    | some o => simp [nextBuild, newTasks, OutboxSpecBuilder.build, hid]

/-! ### Representation

A workflow of the store and a state of the machine.
-/

/-- What the tables say about the workflow `id`. -/
structure Represents (s : Store) (id : String) (p : Progress) : Prop where
  row : (s.workflows.get? id).map WorkflowRecord.state = some p.state
  active : activeScenarioVersion s id = p.active
  dispatched : s.operations id = p.dispatched.map (opKey id)
  done : ∀ o, p.done o ↔ s.completed (opKey id o).2 = true

namespace Represents

variable {s s' : Store} {id : String} {p : Progress}

theorem stored (h : Represents s id p) : ∃ w, s.workflows.get? id = some w ∧ w.state = p.state :=
  Option.map_eq_some_iff.mp h.row

theorem state_eq (h : Represents s id p) {w : WorkflowRecord}
    (hw : s.workflows.get? id = some w) : w.state = p.state := by
  have hrow := h.row
  rw [hw] at hrow
  exact Option.some.inj hrow

theorem resolveForTask_eq (h : Represents s id p) (tt : TaskType) (increment : Bool) :
    resolveForTask s id tt increment = p.resolve tt increment := by
  cases tt <;> simp only [resolveForTask, Progress.resolve, h.active]

theorem decisionNext_eq (h : Represents s id p) (tt : Option TaskType) (increment : Bool) :
    decisionNext s id tt increment = p.decided tt increment := by
  cases tt with
  | none => rfl
  | some tt =>
      unfold decisionNext Progress.decided
      rw [Option.map_some, Option.map_some, h.resolveForTask_eq]

/-- A stored task is a dispatched operation. -/
theorem mem_dispatched (h : Represents s id p) {t : TaskRecord} (ht : t ∈ s.tasks.rows)
    (hid : t.workflowId = id) {n : Int}
    (hkey : t.idempotencyKey = formatIdempotencyKey id t.taskType n) :
    (t.taskType, n) ∈ p.dispatched := by
  have hmem : (t.taskType, t.idempotencyKey) ∈ s.operations id :=
    List.mem_map.mpr ⟨t, List.mem_filter.mpr ⟨ht, by simpa using hid⟩, rfl⟩
  rw [h.dispatched, hkey] at hmem
  obtain ⟨o, ho, heq⟩ := List.mem_map.mp hmem
  obtain rfl : o = (t.taskType, n) := opKey_inj heq
  exact ho

/-- A dispatched operation has a stored task. -/
theorem task_of_mem (h : Represents s id p) {o : Op} (ho : o ∈ p.dispatched) :
    ∃ t ∈ s.tasks.rows, t.workflowId = id ∧ t.taskType = o.1 ∧
      t.idempotencyKey = formatIdempotencyKey id o.1 o.2 := by
  have hmem : opKey id o ∈ s.operations id := by
    rw [h.dispatched]
    exact List.mem_map_of_mem ho
  obtain ⟨t, ht, heq⟩ := List.mem_map.mp hmem
  obtain ⟨ht, hid⟩ := List.mem_filter.mp ht
  obtain ⟨htype, hkey⟩ := Prod.mk.inj heq
  exact ⟨t, ht, by simpa using hid, htype, hkey⟩

/-- The progress after a growing step, from its parts. -/
theorem of_grows {env : Env} {w : WorkflowRecord} {attempt : Nat} {next : Option Op}
    {p' : Progress} (h : Represents s id p) (hg : Grows env w attempt next s s')
    (hrow : (s'.workflows.get? id).map WorkflowRecord.state = some p'.state)
    (hactive : activeScenarioVersion s' id = p'.active)
    (hdisp : p'.dispatched = p.dispatched ++ if w.workflowId = id then next.toList else [])
    (hdone : ∀ o, p'.done o ↔ s'.completed (opKey id o).2 = true) : Represents s' id p' where
  row := hrow
  active := hactive
  dispatched := by
    rw [hg.operations, h.dispatched, hdisp, List.map_append]
    by_cases hid : w.workflowId = id
    · rw [if_pos hid, if_pos hid]
    · rw [if_neg hid, if_neg hid]
      rfl
  done := hdone

theorem completed_congr {s s' : Store} (h : s'.idempotency = s.idempotency) (key : String) :
    s'.completed key = s.completed key := by
  unfold Store.completed
  rw [h]

/-- A step that does not touch the row, the artifacts and the completions. -/
theorem of_untouched {env : Env} {w : WorkflowRecord} {attempt : Nat} {next : Option Op}
    (h : Represents s id p) (hg : Grows env w attempt next s s')
    (hrow : s'.workflows.get? id = s.workflows.get? id)
    (hnext : w.workflowId = id → next = none)
    (ha : activeScenarioVersion s' id = activeScenarioVersion s id)
    (hc : ∀ o, s'.completed (opKey id o).2 = s.completed (opKey id o).2) : Represents s' id p := by
  refine h.of_grows hg (by rw [hrow]; exact h.row) (ha.trans h.active) ?_ ?_
  · by_cases hid : w.workflowId = id
    · rw [if_pos hid, hnext hid]
      simp
    · rw [if_neg hid]
      simp
  · intro o
    rw [hc]
    exact h.done o

end Represents

/-- A workflow that does not exist has no tasks, no scenario and no completions. -/
theorem represents_absent {s : Store} {id : String} (hs : StoreSound s)
    (h : s.workflows.get? id = none) :
    s.operations id = [] ∧ activeScenarioVersion s id = 0 ∧
      ∀ o, s.completed (opKey id o).2 = false := by
  have hdone : ∀ o, s.completed (opKey id o).2 = false := by
    intro o
    by_contra hc
    rw [Bool.not_eq_false] at hc
    exact hs.owner id o.1 o.2 hc h
  refine ⟨?_, ?_, hdone⟩
  · unfold Store.operations
    rw [List.map_eq_nil_iff, List.filter_eq_nil_iff]
    intro t ht hid
    obtain ⟨n, hn⟩ := hs.task t ht
    have hex := hn.workflow
    rw [of_decide_eq_true hid] at hex
    exact hex h
  · unfold activeScenarioVersion
    cases hact : getActiveArtifact s id .scenario with
    | none => rfl
    | some r =>
        -- an artifact of the workflow comes with a completion
        obtain ⟨n, -, -, hc⟩ := hs.recorded id .generateScenario r.version
          (hasArtifact_of_getActiveArtifact hact)
        exact absurd h (hs.owner id .generateScenario n hc)

/-! ### Simulation

Every step of the store is one of the machine, or leaves it alone.
-/

section Simulation

variable {cfg : AppConfig} {origin : Origin} {s s' : Store} {id : String} {p : Progress}

theorem Represents.quiet (h : Represents s id p) (hq : Quiet s s') : Represents s' id p :=
  h.of_untouched (hq.grows (Env.numbered 0 0) (newWorkflow 0 "")) (by rw [hq.workflows])
    (fun _ => rfl) (activeScenarioVersion_congr hq.artifacts id)
    (fun _ => Represents.completed_congr hq.idempotency _)

theorem Represents.marked {outboxId : String} (h : Represents s id p)
    (hm : Marked outboxId s s') : Represents s' id p := by
  rw [hm.same]
  exact ⟨h.row, h.active, h.dispatched, h.done⟩

/-- A new workflow is at its beginning. -/
theorem represents_initial {env : Env} {workflowId : String} {w row : WorkflowRecord}
    (hs : StoreSound s) (h : Created env workflowId s s' w row) (hf : s.freshDispatch env = true) :
    Represents s' workflowId Progress.initial := by
  obtain ⟨hops, hactive, hdone⟩ := represents_absent hs h.absent
  exact {
    row := by
      rw [h.workflows, Table.get?_upsert, if_pos h.rowId, Option.map_some, h.rowState]
      rfl
    active := (activeScenarioVersion_congr h.artifacts workflowId).trans hactive
    dispatched := by
      rw [(h.grows hf).operations, hops, if_pos h.newId]
      rfl
    done := by
      intro o
      rw [Represents.completed_congr h.idempotency, hdone]
      simp [Progress.initial] }

theorem Represents.created {env : Env} {workflowId : String} {w row : WorkflowRecord}
    (hp : Represents s id p) (h : Created env workflowId s s' w row)
    (hf : s.freshDispatch env = true) : Represents s' id p := by
  have hne : workflowId ≠ id := by
    intro heq
    obtain ⟨w', hw', -⟩ := hp.stored
    rw [← heq, h.absent] at hw'
    exact absurd hw' (by simp)
  refine hp.of_untouched (h.grows hf) ?_ ?_ (activeScenarioVersion_congr h.artifacts id)
    (fun _ => Represents.completed_congr h.idempotency _)
  · rw [h.workflows, Table.get?_upsert, if_neg (by rw [h.rowId]; exact hne)]
  · intro hid
    exact absurd (h.newId.symm.trans hid) hne

/-- A move of the workflow's own row. -/
theorem Represents.moved {env : Env} {w row : WorkflowRecord} {next : Option Op}
    (hp : Represents s id p) (h : Moved env id s s' w row next)
    (hf : next ≠ none → s.freshDispatch env = true)
    (hfixed : ∀ o ∈ next, o.1 = .collect ∨ o.1 = .selectTopic → o.2 = 1) :
    Represents s' id (p.goto row.state next) := by
  refine hp.of_grows (moved_grows h hf hfixed) ?_
    ((activeScenarioVersion_congr h.artifacts id).trans hp.active) ?_ ?_
  · rw [h.workflows, Table.get?_upsert, if_pos h.rowId]
    rfl
  · rw [if_pos (Table.key_of_get? h.read)]
    rfl
  · intro o
    rw [Represents.completed_congr h.idempotency]
    exact hp.done o

theorem Represents.moved_other {env : Env} {workflowId : String} {w row : WorkflowRecord}
    {next : Option Op} (hp : Represents s id p) (h : Moved env workflowId s s' w row next)
    (hf : next ≠ none → s.freshDispatch env = true)
    (hfixed : ∀ o ∈ next, o.1 = .collect ∨ o.1 = .selectTopic → o.2 = 1) (hne : workflowId ≠ id) :
    Represents s' id p := by
  refine hp.of_untouched (moved_grows h hf hfixed) ?_ ?_
    (activeScenarioVersion_congr h.artifacts id) (fun _ => Represents.completed_congr h.idempotency _)
  · rw [h.workflows, Table.get?_upsert, if_neg (by rw [h.rowId]; exact hne)]
  · intro hid
    exact absurd ((Table.key_of_get? h.read).symm.trans hid) hne

/-- The engine's moves are steps of the machine. -/
theorem EngineMove.step {w : WorkflowRecord} {st : WorkflowState} {next : Option Op}
    (hm : EngineMove cfg origin s w st next) (hp : Represents s w.workflowId p)
    (hw : w.state = p.state) : p.Step cfg origin (p.goto st next) := by
  cases hm with
  | approval action h =>
      rw [hp.decisionNext_eq]
      exact .approval action (hw.symm.trans h)
  | failure st h hst =>
      rw [hw] at h
      exact .failure st h hst
  | signal sig d ho h =>
      rw [hw] at h
      rw [hp.decisionNext_eq]
      exact .signal w sig d ho h

theorem Represents.recreated {env : Env} {w : WorkflowRecord} {tt : TaskType} {attempt : Nat}
    (hp : Represents s id p) (h : Recreated env w tt attempt s s')
    (hf : s.freshDispatch env = true) :
    Represents s' id (if w.workflowId = id then p.recreate tt else p) := by
  have hg := h.grows hf
  have hrow : s'.workflows = s.workflows := by rw [h.store, dispatch_workflows]
  have hart : s'.artifacts = s.artifacts := by rw [h.store, dispatch_artifacts]
  have hidem : s'.idempotency = s.idempotency := by rw [h.store, dispatch_idempotency]
  by_cases hid : w.workflowId = id
  · rw [if_pos hid]
    rw [hid, hp.resolveForTask_eq] at hg
    refine hp.of_grows hg (by rw [hrow]; exact hp.row)
      ((activeScenarioVersion_congr hart id).trans hp.active) ?_ ?_
    · rw [if_pos hid]
      rfl
    · intro o
      rw [Represents.completed_congr hidem]
      exact hp.done o
  · rw [if_neg hid]
    exact hp.of_untouched hg (by rw [hrow]) (fun h => absurd h hid)
      (activeScenarioVersion_congr hart id) (fun _ => Represents.completed_congr hidem _)

section Staged

variable {env : StageEnv} {ctx : DeliveryContext} {n : Int} {w row : WorkflowRecord}
  {next : Option Op} {denv : Env} {task : TaskRecord}

/-- A committed stage of the workflow itself. -/
theorem Represents.staged (origin : Origin) (hp : Represents s id p)
    (h : Staged cfg env ctx n s s' w row next denv task) (hid : task.workflowId = id) :
    Represents s' id (p.commit (task.taskType, n) row.state next) ∧
      p.Step cfg origin (p.commit (task.taskType, n) row.state next) := by
  have hmsg : ctx.message.workflowId = id := h.workflowId.trans hid
  have htype : task.taskType = ctx.task.taskType := h.same.taskType
  have hread := h.read
  rw [hmsg] at hread
  have hkey := h.keyForm
  rw [hid] at hkey
  refine ⟨?_, ?_⟩
  · refine hp.of_grows h.grows ?_ ?_ ?_ ?_
    · rw [h.workflows, Table.get?_upsert, if_pos (h.rowId.trans hmsg)]
      rfl
    · obtain ⟨hgen, hother⟩ :=
        activeScenarioVersion_stage s' h.freshArtifact h.artifacts
      have hact : (handlerContext env ctx).message.workflowId = id := hmsg
      rw [hact] at hgen hother
      change _ = if task.taskType = .generateScenario then n else p.active
      rw [htype]
      by_cases hg : ctx.task.taskType = .generateScenario
      · rw [if_pos hg]
        exact hgen hg
      · rw [if_neg hg]
        exact (hother hg).trans hp.active
    · rw [if_pos (h.task_workflow.trans hid)]
      rfl
    · intro o
      rw [h.completed_iff, ← hp.done o, hkey]
      refine or_congr Iff.rfl ⟨?_, ?_⟩
      · intro ho
        rw [ho]
        rfl
      · intro ho
        exact opKey_inj (Prod.ext (formatIdempotencyKey_inj ho).2.1 ho)
  · have hstate : p.state = expectedStateForTask task.taskType := by
      rw [← hp.state_eq hread, htype]
      exact h.stage
    refine .stage w _ _ _ hstate ?_ ?_ ?_
    · exact hp.mem_dispatched (Table.mem_of_get? h.stored) hid hkey
    · rw [hp.done]
      have hopen := h.open_
      rw [hkey] at hopen
      simp [opKey, hopen]
    · have hmove := h.move
      rw [hmsg, hp.active, ← htype] at hmove
      exact hmove

theorem Represents.staged_other (hp : Represents s id p)
    (h : Staged cfg env ctx n s s' w row next denv task) (hid : task.workflowId ≠ id) :
    Represents s' id p := by
  have hmsg : ctx.message.workflowId ≠ id := by
    rw [h.workflowId]
    exact hid
  refine hp.of_untouched h.grows ?_ ?_ ?_ ?_
  · rw [h.workflows, Table.get?_upsert, if_neg (by rw [h.rowId]; exact hmsg)]
  · intro hw
    exact absurd (h.task_workflow.symm.trans hw) hid
  · unfold activeScenarioVersion
    rw [getActiveArtifact_withArtifact_of_ne h.artifacts h.freshArtifact
      (fun hc => hmsg hc.1)]
  · intro o
    rw [Bool.eq_iff_iff, h.completed_iff]
    refine or_iff_left ?_
    intro ho
    rw [h.keyForm] at ho
    exact hid (formatIdempotencyKey_inj ho).1.symm

end Staged

/-- **Simulation.** For each workflow, a step of the store that is not the reconciler's is a
step of its progress or nothing. -/
theorem represents_step (ho : origin ≠ .reconciler) (h : StoreStep cfg origin s s')
    (hp : Represents s id p) :
    ∃ p', Represents s' id p' ∧ (p' = p ∨ p.Step cfg origin p') := by
  cases h with
  | quiet h => exact ⟨p, hp.quiet h, Or.inl rfl⟩
  | marked outboxId h => exact ⟨p, hp.marked h, Or.inl rfl⟩
  | created env workflowId w row h hf => exact ⟨p, hp.created h hf, Or.inl rfl⟩
  | moved env workflowId w row next h hm hf =>
      by_cases hid : workflowId = id
      · subst hid
        have hwid : w.workflowId = workflowId := Table.key_of_get? h.read
        refine ⟨_, hp.moved h hf hm.fixed, Or.inr (hm.step ?_ (hp.state_eq h.read))⟩
        rw [hwid]
        exact hp
      · exact ⟨p, hp.moved_other h hf hm.fixed hid, Or.inl rfl⟩
  | recreated env w tt attempt hrec h hf => exact absurd hrec ho
  | staged env ctx n w row next denv task h =>
      by_cases hid : task.workflowId = id
      · obtain ⟨hrep, hstep⟩ := hp.staged origin h hid
        exact ⟨_, hrep, Or.inr hstep⟩
      · exact ⟨p, hp.staged_other h hid, Or.inl rfl⟩

/-- Workflows come in at the beginning. -/
theorem represents_new (hs : StoreSound s) (h : StoreStep cfg origin s s')
    (hold : s.workflows.get? id = none) (hnew : s'.workflows.get? id ≠ none) :
    Represents s' id Progress.initial := by
  have hsame : s'.workflows.get? id = s.workflows.get? id → False := fun he => hnew (he.trans hold)
  have hwrite : ∀ {row w : WorkflowRecord}, s'.workflows = s.workflows.upsert row →
      s.workflows.get? row.workflowId = some w → False := by
    intro row w hw hread
    refine hsame ?_
    rw [hw, Table.get?_upsert]
    refine if_neg (fun hid => ?_)
    rw [hid, hold] at hread
    exact absurd hread (by simp)
  cases h with
  | quiet h => exact absurd (by rw [h.workflows]) hsame
  | marked outboxId h => exact absurd (by rw [h.same]) hsame
  | created env workflowId w row h hf =>
      by_cases hid : workflowId = id
      · subst hid
        exact represents_initial hs h hf
      · refine absurd ?_ hsame
        rw [h.workflows, Table.get?_upsert, if_neg (by rw [h.rowId]; exact hid)]
  | moved env workflowId w row next h hm hf =>
      exact (hwrite h.workflows (by rw [h.rowId]; exact h.read)).elim
  | recreated env w tt attempt ho h hf =>
      exact absurd (by rw [h.store, dispatch_workflows]) hsame
  | staged env ctx n w row next denv task h =>
      exact (hwrite h.workflows (by rw [h.rowId]; exact h.read)).elim

end Simulation

/-! ### Invariants of single workflows -/

/-- Every workflow of the store is represented by a progress with the property `I`. -/
def Tracked (I : Progress → Prop) (s : Store) : Prop :=
  ∀ id, s.workflows.get? id ≠ none → ∃ p, Represents s id p ∧ I p

theorem tracked_empty (I : Progress → Prop) : Tracked I {} := fun _ h => absurd rfl h

/-- **Invariant rule.** What holds at the beginning and is kept by every step of the machine
holds of every workflow. -/
theorem Tracked.step {I : Progress → Prop} {cfg : AppConfig} {origin : Origin} {s s' : Store}
    (ht : Tracked I s) (hs : StoreSound s) (h : StoreStep cfg origin s s')
    (ho : origin ≠ .reconciler) (hinit : I Progress.initial)
    (hstep : ∀ p p', I p → p.Step cfg origin p' → I p') : Tracked I s' := by
  intro id hid
  by_cases hold : s.workflows.get? id = none
  · exact ⟨_, represents_new hs h hold hid, hinit⟩
  · obtain ⟨p, hp, hI⟩ := ht id hold
    obtain ⟨p', hp', rfl | hmove⟩ := represents_step ho h hp
    · exact ⟨p', hp', hI⟩
    · exact ⟨p', hp', hstep p p' hI hmove⟩

theorem Tracked.steps {I : Progress → Prop} {cfg : AppConfig} {origin : Origin} {s s' : Store}
    (ht : Tracked I s) (hs : StoreSound s) (h : Relation.ReflTransGen (StoreStep cfg origin) s s')
    (ho : origin ≠ .reconciler) (hinit : I Progress.initial)
    (hstep : ∀ p p', I p → p.Step cfg origin p' → I p') : Tracked I s' := by
  induction h with
  | refl => exact ht
  | tail hsteps hlast ih => exact ih.step (hs.steps hsteps) hlast ho hinit hstep

/-- The reconciler's recreation of a task. -/
theorem Tracked.recreated {I : Progress → Prop} {s s' : Store} {env : Env} {w : WorkflowRecord}
    {tt : TaskType} {attempt : Nat} (ht : Tracked I s) (h : Recreated env w tt attempt s s')
    (hf : s.freshDispatch env = true)
    (hI : ∀ p, Represents s w.workflowId p → I p → I (p.recreate tt)) : Tracked I s' := by
  intro id hid
  have hrow : s'.workflows = s.workflows := by rw [h.store, dispatch_workflows]
  rw [hrow] at hid
  obtain ⟨p, hp, hp'⟩ := ht id hid
  refine ⟨_, hp.recreated h hf, ?_⟩
  by_cases hw : w.workflowId = id
  · subst hw
    rw [if_pos rfl]
    exact hI p hp hp'
  · rw [if_neg hw]
    exact hp'

end CartoonDemo
