import CartoonDemo.Workflow.ReconcileSpec

/-!
# CartoonDemo.Workflow.ReconcileScan

The loop of `scan_and_repair`, **workflow by workflow**. `planOf` is what the loop body
decides about a candidate whose row is still the stored one; `SameView` is everything that a
scan reads about one workflow. A repair changes the view of its own workflow only, so a whole
scan does to each workflow what its own candidate asks for, and it never raises when nothing
interleaves: `repairAll_spec`.
-/

namespace CartoonDemo

open WorkflowEngine TransitionExecutor

namespace ReconciliationScanner

/-! ### Plans -/

/-- The plan for a stuck workflow. -/
def stuckPlan (cfg : AppConfig) (w : WorkflowRecord) (expected : Option TaskType)
    (latest : Option TaskRecord) : RepairPlan :=
  match expected with
  | some tt =>
      if isStuckRetriable latest (cfg.maxAttempts tt) then
        .recreate w tt (latest.elim 0 TaskRecord.attempt + 1)
      else .fail w
  | none => .fail w

/-- What the loop body decides about a candidate with the stored row. -/
def planOf (sc : ReconciliationScanner) (repo : WorkflowRepoKind) (cfg : AppConfig) (now : Time)
    (s : Store) : ReconciliationCandidate → Option RepairPlan
  | .rp001 w tt => some (.recreate w tt 1)
  | .rp003 w expected =>
      if sc.isStuck now w (latestExpected (listTasks repo s w.workflowId) expected) then
        some (stuckPlan cfg w expected (latestExpected (listTasks repo s w.workflowId) expected))
      else none
  | .rp002 _ | .rp004 _ => none

theorem stuckPlan_workflow (cfg : AppConfig) (w : WorkflowRecord) (expected : Option TaskType)
    (latest : Option TaskRecord) : (stuckPlan cfg w expected latest).workflow = w := by
  unfold stuckPlan
  split
  · split <;> rfl
  · rfl

theorem planOf_workflow {sc : ReconciliationScanner} {repo : WorkflowRepoKind} {cfg : AppConfig}
    {now : Time} {s : Store} {c : ReconciliationCandidate} {plan : RepairPlan}
    (h : sc.planOf repo cfg now s c = some plan) : plan.workflow = c.workflow := by
  cases c with
  | rp001 w tt => obtain rfl := Option.some.inj h; rfl
  | rp002 w => exact absurd h (by simp [planOf])
  | rp003 w expected =>
      unfold planOf at h
      dsimp only at h
      split at h
      · obtain rfl := Option.some.inj h
        exact stuckPlan_workflow ..
      · exact absurd h (by simp)
  | rp004 w => exact absurd h (by simp [planOf])

/-- A workflow is failed by an `RP-003` candidate only. -/
theorem planOf_fail {sc : ReconciliationScanner} {repo : WorkflowRepoKind} {cfg : AppConfig}
    {now : Time} {s : Store} {c : ReconciliationCandidate} {w : WorkflowRecord}
    (h : sc.planOf repo cfg now s c = some (.fail w)) : c.patternId = .rp003 := by
  cases c with
  | rp001 w tt => exact absurd (Option.some.inj h) (by simp)
  | rp002 w => exact absurd h (by simp [planOf])
  | rp003 w expected => rfl
  | rp004 w => exact absurd h (by simp [planOf])

/-- The loop body on a candidate whose row is the stored one. -/
theorem inspectCandidate_current (sc : ReconciliationScanner) (repo : WorkflowRepoKind)
    (cfg : AppConfig) (now : Time) {s : Store} {c : ReconciliationCandidate}
    (h : s.workflows.get? c.workflowId = some c.workflow) :
    ∃ report, sc.inspectCandidate repo cfg now c s =
      match sc.planOf repo cfg now s c with
      | some plan => .repair plan report
      | none => .skip report := by
  generalize hw : c.workflow = fresh at h
  unfold inspectCandidate getWorkflow
  rw [h]
  dsimp only
  rw [if_neg (by simp [hw])]
  cases c with
  | rp001 w tt =>
      obtain rfl : w = fresh := hw
      exact ⟨_, rfl⟩
  | rp002 w => exact ⟨_, rfl⟩
  | rp003 w expected =>
      obtain rfl : w = fresh := hw
      unfold planOf
      dsimp only
      by_cases hst : sc.isStuck now w
          (latestExpected (listTasks repo s w.workflowId) expected) = true
      · rw [if_pos hst, if_neg (by simp [hst])]
        unfold stuckPlan
        cases expected with
        | none => exact ⟨_, rfl⟩
        | some tt =>
            dsimp only
            split
            · exact ⟨_, rfl⟩
            · exact ⟨_, rfl⟩
      · rw [if_neg hst, if_pos (by simpa using hst)]
        exact ⟨_, rfl⟩
  | rp004 w => exact ⟨_, rfl⟩

/-! ### Views

The rows of one workflow.
-/

/-- Everything that a scan reads about the workflow `id` is the same in both stores. -/
structure SameView (id : String) (s s' : Store) : Prop where
  row : s'.workflows.get? id = s.workflows.get? id
  history : s'.history id = s.history id
  tasks : s'.tasks.rows.filter (fun t => t.workflowId = id) =
    s.tasks.rows.filter (fun t => t.workflowId = id)
  outbox : s'.outbox.rows.filter (fun e => e.workflowId = id) =
    s.outbox.rows.filter (fun e => e.workflowId = id)
  artifacts : s'.artifacts = s.artifacts
  idempotency : s'.idempotency = s.idempotency

theorem SameView.refl (id : String) (s : Store) : SameView id s s := ⟨rfl, rfl, rfl, rfl, rfl, rfl⟩

theorem SameView.trans {id : String} {s s' s'' : Store} (h : SameView id s s')
    (h' : SameView id s' s'') : SameView id s s'' :=
  ⟨h'.row.trans h.row, h'.history.trans h.history, h'.tasks.trans h.tasks,
    h'.outbox.trans h.outbox, h'.artifacts.trans h.artifacts, h'.idempotency.trans h.idempotency⟩

section SameView

variable {id : String} {s s' : Store}

theorem SameView.listTasks (h : SameView id s s') (repo : WorkflowRepoKind) :
    listTasks repo s' id = ReconciliationScanner.listTasks repo s id := by
  cases repo with
  | fakes =>
      unfold ReconciliationScanner.listTasks listTasksForWorkflow
      rw [h.tasks]
  | postgres => rfl

theorem SameView.listUnpublished (h : SameView id s s') (repo : WorkflowRepoKind) :
    listUnpublished repo s' id = ReconciliationScanner.listUnpublished repo s id := by
  have hsplit : ∀ rows : List OutboxEntry,
      rows.filter (fun e => e.workflowId = id && e.status = .pending) =
        (rows.filter (fun e => e.workflowId = id)).filter (fun e => e.status = .pending) := by
    intro rows
    rw [List.filter_filter]
    exact List.filter_congr fun e _ => Bool.and_comm _ _
  cases repo with
  | fakes =>
      unfold ReconciliationScanner.listUnpublished listUnpublishedOutboxForWorkflow
      rw [hsplit, hsplit, h.outbox]
  | postgres => rfl

theorem SameView.resolveForTask (h : SameView id s s') (tt : TaskType) (increment : Bool) :
    resolveForTask s' id tt increment = CartoonDemo.resolveForTask s id tt increment := by
  unfold CartoonDemo.resolveForTask
  rw [activeScenarioVersion_congr h.artifacts]

theorem SameView.planOf (sc : ReconciliationScanner) (repo : WorkflowRepoKind) (cfg : AppConfig)
    (now : Time) {c : ReconciliationCandidate} (h : SameView c.workflowId s s') :
    sc.planOf repo cfg now s' c = ReconciliationScanner.planOf sc repo cfg now s c := by
  cases c with
  | rp001 w tt => rfl
  | rp002 w => rfl
  | rp003 w expected =>
      have hlist : ReconciliationScanner.listTasks repo s' w.workflowId =
          ReconciliationScanner.listTasks repo s w.workflowId := h.listTasks repo
      unfold ReconciliationScanner.planOf
      dsimp only
      rw [hlist]
  | rp004 w => rfl

end SameView

/-! ### Effects on the own workflow

What a carried out plan leaves of a view.
-/

/-- The view after the recreation of a task: one more task row and one more outbox row. -/
structure RecreatedView (env : Env) (w : WorkflowRecord) (tt : TaskType) (attempt : Nat)
    (s s' : Store) : Prop where
  row : s'.workflows.get? w.workflowId = s.workflows.get? w.workflowId
  history : s'.history w.workflowId = s.history w.workflowId
  tasks : s'.tasks.rows.filter (fun t => t.workflowId = w.workflowId) =
    s.tasks.rows.filter (fun t => t.workflowId = w.workflowId) ++
      [(OutboxSpecBuilder.build env w tt
        (resolveForTask s w.workflowId tt (tt = .generateScenario)) attempt).taskRecord]
  outbox : s'.outbox.rows.filter (fun e => e.workflowId = w.workflowId) =
    s.outbox.rows.filter (fun e => e.workflowId = w.workflowId) ++
      [newOutboxEntry env.insertedAt env.outboxId (OutboxSpecBuilder.build env w tt
        (resolveForTask s w.workflowId tt (tt = .generateScenario)) attempt).outboxInsert]
  artifacts : s'.artifacts = s.artifacts
  idempotency : s'.idempotency = s.idempotency

/-- The view after a workflow has been failed. -/
structure FailedView (w : WorkflowRecord) (s s' : Store) : Prop where
  row : ∃ row, s'.workflows.get? w.workflowId = some row ∧ row.state = .failed ∧
    w.stateVersion < row.stateVersion
  tasks : s'.tasks.rows.filter (fun t => t.workflowId = w.workflowId) =
    s.tasks.rows.filter (fun t => t.workflowId = w.workflowId)
  outbox : s'.outbox.rows.filter (fun e => e.workflowId = w.workflowId) =
    s.outbox.rows.filter (fun e => e.workflowId = w.workflowId)
  artifacts : s'.artifacts = s.artifacts
  idempotency : s'.idempotency = s.idempotency

/-- What a plan does to the workflow `id`. -/
inductive ScanView (env : Env) (id : String) (s s' : Store) : Option RepairPlan → Prop
  | untouched (h : SameView id s s') : ScanView env id s s' none
  | recreated (w : WorkflowRecord) (tt : TaskType) (attempt : Nat) (hid : w.workflowId = id)
      (h : RecreatedView env w tt attempt s s') :
      ScanView env id s s' (some (.recreate w tt attempt))
  | failed (w : WorkflowRecord) (hid : w.workflowId = id) (h : FailedView w s s') :
      ScanView env id s s' (some (.fail w))

/-- The draws of a scan are fresh in the store and differ between workflows. -/
structure FreshDraws (env : ScanEnv) (ids : List String) (s : Store) : Prop where
  fresh : ∀ id ∈ ids, s.freshDispatch (env.repair id) = true
  tasks : ∀ id ∈ ids, ∀ id' ∈ ids, (env.repair id).taskId = (env.repair id').taskId → id = id'
  outbox : ∀ id ∈ ids, ∀ id' ∈ ids,
    (env.repair id).outboxId = (env.repair id').outboxId → id = id'

instance (env : ScanEnv) (ids : List String) (s : Store) : Decidable (FreshDraws env ids s) :=
  decidable_of_iff
    ((∀ id ∈ ids, s.freshDispatch (env.repair id) = true) ∧
      (∀ id ∈ ids, ∀ id' ∈ ids, (env.repair id).taskId = (env.repair id').taskId → id = id') ∧
      ∀ id ∈ ids, ∀ id' ∈ ids, (env.repair id).outboxId = (env.repair id').outboxId → id = id')
    ⟨fun h => ⟨h.1, h.2.1, h.2.2⟩, fun h => ⟨h.fresh, h.tasks, h.outbox⟩⟩

/-- Later changes that leave the view alone do not matter, nor do earlier ones. -/
theorem ScanView.of_sameView {env : Env} {id : String} {s s₁ s₂ s' : Store}
    {plan : Option RepairPlan} (h : ScanView env id s₁ s₂ plan) (hs : SameView id s s₁)
    (hs' : SameView id s₂ s') : ScanView env id s s' plan := by
  cases h with
  | untouched h => exact .untouched ((hs.trans h).trans hs')
  | recreated w tt attempt hid h =>
      subst hid
      refine .recreated w tt attempt rfl ?_
      have hn := hs.resolveForTask tt (tt = .generateScenario)
      exact {
        row := (hs'.row.trans h.row).trans hs.row
        history := (hs'.history.trans h.history).trans hs.history
        tasks := by rw [hs'.tasks, h.tasks, hs.tasks, hn]
        outbox := by rw [hs'.outbox, h.outbox, hs.outbox, hn]
        artifacts := (hs'.artifacts.trans h.artifacts).trans hs.artifacts
        idempotency := (hs'.idempotency.trans h.idempotency).trans hs.idempotency }
  | failed w hid h =>
      subst hid
      refine .failed w rfl ?_
      exact {
        row := by rw [hs'.row]; exact h.row
        tasks := (hs'.tasks.trans h.tasks).trans hs.tasks
        outbox := (hs'.outbox.trans h.outbox).trans hs.outbox
        artifacts := (hs'.artifacts.trans h.artifacts).trans hs.artifacts
        idempotency := (hs'.idempotency.trans h.idempotency).trans hs.idempotency }

/-! ### Performing a repair -/

/-- The decision behind `RECONCILIATION_REPAIR`. -/
def repairDecision (st : WorkflowState) : TransitionDecision :=
  { fromState := st, toState := .failed, signal := .reconciliationRepair,
    setFailureReason := some "stuck_state_timeout" }

/-- The failing repair of a stored transient row goes through. -/
theorem performRepair_fail {repo : WorkflowRepoKind} {cfg : AppConfig} (env : Env) {s : Store}
    {w : WorkflowRecord} (hg : s.workflows.get? w.workflowId = some w)
    (ht : w.state.isTransient = true) :
    performRepair repo cfg env (.fail w) s =
      .ok (transitionStore env (repairRequest w) w (repairDecision w.state) s) := by
  have hg' : s.workflows.get? (repairRequest w).workflowId = some w := hg
  have hd : TransitionTable.lookup w.state (repairRequest w).signal w.revisionCount
      cfg.maxScenarioRevisions = .ok (repairDecision w.state) :=
    TransitionTable.lookup_failure _ _ ht rfl
  obtain ⟨res, ha⟩ := applyTransition_of_lookup env hg' rfl hd (fun _ => rfl)
  unfold performRepair
  dsimp only
  rw [ha]
  rfl

/-- The store after the recreation of a task. -/
theorem performRepair_recreate (repo : WorkflowRepoKind) (cfg : AppConfig) (env : Env)
    (w : WorkflowRecord) (tt : TaskType) (attempt : Nat) (s : Store) :
    performRepair repo cfg env (.recreate w tt attempt) s =
      .ok (dispatch env (nextBuild env w attempt (some (tt,
        resolveForTask s w.workflowId tt (tt = .generateScenario)))) s) := rfl

/-- A plan about a stored row, and a failing one about a transient row. -/
structure PlanSound (s : Store) (plan : RepairPlan) : Prop where
  stored : s.workflows.get? plan.workflow.workflowId = some plan.workflow
  transient : ∀ w, plan = .fail w → w.state.isTransient = true

theorem PlanSound.performRepair_fail {s : Store} {w : WorkflowRecord}
    (h : PlanSound s (.fail w)) (repo : WorkflowRepoKind) (cfg : AppConfig) (env : Env) :
    performRepair repo cfg env (.fail w) s =
      .ok (transitionStore env (repairRequest w) w (repairDecision w.state) s) :=
  ReconciliationScanner.performRepair_fail env h.stored (h.transient w rfl)

theorem history_append_of_ne {s s' : Store} {tr : WorkflowTransitionRecord} {id : String}
    (h : s'.transitions = s.transitions ++ [tr]) (hne : tr.workflowId ≠ id) :
    s'.history id = s.history id := by
  unfold Store.history
  rw [h, List.filter_append]
  simp [hne]

/-- A repair leaves the view of other workflows alone. -/
theorem performRepair_sameView {repo : WorkflowRepoKind} {cfg : AppConfig} {env : Env}
    {plan : RepairPlan} {s s' : Store} {id : String} (hf : s.freshDispatch env = true)
    (hp : PlanSound s plan) (hne : plan.workflow.workflowId ≠ id)
    (h : performRepair repo cfg env plan s = .ok s') : SameView id s s' := by
  cases plan with
  | recreate w tt attempt =>
      rw [performRepair_recreate] at h
      obtain rfl := Except.ok.inj h
      have hne' : ¬ w.workflowId = id := hne
      exact {
        row := by rw [dispatch_workflows]
        history := by unfold Store.history; rw [dispatch_transitions]
        tasks := by
          rw [dispatch_tasks_rows hf, List.filter_append]
          simp [nextBuild, newTasks, OutboxSpecBuilder.build, hne']
        outbox := by
          rw [dispatch_outbox_rows hf, List.filter_append]
          simp [nextBuild, newOutboxRows, OutboxSpecBuilder.build, newOutboxEntry, hne']
        artifacts := by simp
        idempotency := by simp }
  | fail w =>
      rw [hp.performRepair_fail] at h
      obtain rfl := Except.ok.inj h
      have hne' : ¬ w.workflowId = id := hne
      exact {
        row := by simp [hne']
        history := history_append_of_ne (by rw [transitionStore, written_transitions]) hne
        tasks := by rw [transitionStore, written_tasks]; rfl
        outbox := by rw [transitionStore, written_outbox]; rfl
        artifacts := by simp
        idempotency := by simp }

/-- A repair of a stored workflow goes through and does what it says. -/
theorem performRepair_scanView (repo : WorkflowRepoKind) (cfg : AppConfig) {env : Env}
    {plan : RepairPlan} {s : Store} (hf : s.freshDispatch env = true) (hp : PlanSound s plan) :
    ∃ s', performRepair repo cfg env plan s = .ok s' ∧
      ScanView env plan.workflow.workflowId s s' (some plan) := by
  cases plan with
  | recreate w tt attempt =>
      rw [performRepair_recreate]
      refine ⟨_, rfl, .recreated w tt attempt rfl ?_⟩
      exact {
        row := by rw [dispatch_workflows]
        history := by unfold Store.history; rw [dispatch_transitions]
        tasks := by
          rw [dispatch_tasks_rows hf, List.filter_append]
          simp [nextBuild, newTasks, OutboxSpecBuilder.build]
        outbox := by
          rw [dispatch_outbox_rows hf, List.filter_append]
          simp [nextBuild, newOutboxRows, OutboxSpecBuilder.build, newOutboxEntry]
        artifacts := by simp
        idempotency := by simp }
  | fail w =>
      rw [hp.performRepair_fail]
      refine ⟨_, rfl, .failed w rfl ?_⟩
      exact {
        row := ⟨transitionRow env (repairRequest w) w (repairDecision w.state), by simp, rfl,
          Nat.lt_succ_self _⟩
        tasks := by rw [transitionStore, written_tasks]; rfl
        outbox := by rw [transitionStore, written_outbox]; rfl
        artifacts := by simp
        idempotency := by simp }

/-- The draws of another workflow stay fresh. -/
theorem performRepair_freshDispatch {repo : WorkflowRepoKind} {cfg : AppConfig} {env env' : Env}
    {plan : RepairPlan} {s s' : Store} (hp : PlanSound s plan)
    (htask : env.taskId ≠ env'.taskId) (hout : env.outboxId ≠ env'.outboxId)
    (hf' : s.freshDispatch env' = true) (h : performRepair repo cfg env plan s = .ok s') :
    s'.freshDispatch env' = true := by
  obtain ⟨hne, htasks, hpayloads, houtbox⟩ := Store.freshDispatch_iff.mp hf'
  rw [Store.freshDispatch_iff]
  cases plan with
  | recreate w tt attempt =>
      rw [performRepair_recreate] at h
      obtain rfl := Except.ok.inj h
      refine ⟨hne, ?_, ?_, ?_⟩
      · simp [nextBuild, OutboxSpecBuilder.build, htask, htasks]
      · simp [nextBuild, OutboxSpecBuilder.build, htask, hpayloads]
      · simp [nextBuild, OutboxSpecBuilder.build, newOutboxEntry, hout, houtbox]
  | fail w =>
      rw [hp.performRepair_fail] at h
      obtain rfl := Except.ok.inj h
      refine ⟨hne, ?_, ?_, ?_⟩
      · rw [transitionStore, written_tasks]; exact htasks
      · rw [transitionStore, written_payloads]; exact hpayloads
      · rw [transitionStore, written_outbox]; exact houtbox

/-! ### The loop -/

/-- The plan for a sound candidate is sound. -/
theorem CandidateSound.planSound {sc : ReconciliationScanner} {repo : WorkflowRepoKind}
    {cfg : AppConfig} {now : Time} {s : Store} {c : ReconciliationCandidate} {plan : RepairPlan}
    (h : CandidateSound s c) (hp : sc.planOf repo cfg now s c = some plan) :
    PlanSound s plan := by
  have hw := planOf_workflow hp
  refine ⟨by rw [hw]; exact h.current, ?_⟩
  intro w heq
  subst heq
  have htrans := h.transient (planOf_fail hp)
  rw [← hw] at htrans
  exact htrans

/-- **The loop of a scan**, when nothing interleaves: it reports every candidate, leaves the
other workflows alone and does to each candidate's workflow what its plan says. -/
theorem repairAll_spec (sc : ReconciliationScanner) (repo : WorkflowRepoKind) (cfg : AppConfig)
    (env : ScanEnv) (cs : List ReconciliationCandidate) (s : Store)
    (hnodup : (cs.map ReconciliationCandidate.workflowId).Nodup)
    (hsound : ∀ c ∈ cs, CandidateSound s c)
    (hfresh : FreshDraws env (cs.map ReconciliationCandidate.workflowId) s) :
    (∃ reports, (sc.repairAll repo cfg env cs s).1 = .ok reports ∧ reports.length = cs.length) ∧
      (∀ id, id ∉ cs.map ReconciliationCandidate.workflowId →
        SameView id s (sc.repairAll repo cfg env cs s).2) ∧
      ∀ c ∈ cs, ScanView (env.repair c.workflowId) c.workflowId s
        (sc.repairAll repo cfg env cs s).2
        (sc.planOf repo cfg (env.inspected c.workflowId) s c) := by
  induction cs generalizing s with
  | nil => exact ⟨⟨[], rfl, rfl⟩, fun id _ => SameView.refl id s, by simp⟩
  | cons c rest ih =>
      rw [List.map_cons, List.nodup_cons] at hnodup
      have hc := hsound c (by simp)
      have hne : ∀ c' ∈ rest, c.workflowId ≠ c'.workflowId := by
        intro c' hc' heq
        exact hnodup.1 (List.mem_map.mpr ⟨c', hc', heq.symm⟩)
      obtain ⟨report, hinspect⟩ :=
        inspectCandidate_current sc repo cfg (env.inspected c.workflowId) hc.current
      cases hp : sc.planOf repo cfg (env.inspected c.workflowId) s c with
      | none =>
          rw [hp] at hinspect
          obtain ⟨⟨reports, hok, hlen⟩, hother, hown⟩ := ih s hnodup.2
            (fun c' hc' => hsound c' (by simp [hc']))
            ⟨fun id hid => hfresh.fresh id (by simp [hid]),
              fun id hid id' hid' => hfresh.tasks id (by simp [hid]) id' (by simp [hid']),
              fun id hid id' hid' => hfresh.outbox id (by simp [hid]) id' (by simp [hid'])⟩
          have hstep : sc.repairAll repo cfg env (c :: rest) s =
              ((sc.repairAll repo cfg env rest s).1.map (report :: ·),
                (sc.repairAll repo cfg env rest s).2) := by
            rw [repairAll, hinspect]
          rw [hstep]
          refine ⟨⟨report :: reports, by rw [hok]; rfl, by simp [hlen]⟩, ?_, ?_⟩
          · intro id hid
            exact hother id (fun h => hid (by simp [h]))
          · intro c' hc'
            rcases List.mem_cons.mp hc' with rfl | hc'
            · rw [hp]
              exact .untouched (hother _ hnodup.1)
            · exact hown c' hc'
      | some plan =>
          rw [hp] at hinspect
          have hplan := hc.planSound hp
          have hid : plan.workflow.workflowId = c.workflowId :=
            congrArg WorkflowRecord.workflowId (planOf_workflow hp)
          have hf := hfresh.fresh c.workflowId (by simp)
          obtain ⟨s₁, hperf, hview⟩ := performRepair_scanView repo cfg hf hplan
          rw [hid] at hview
          have hsame : ∀ id, c.workflowId ≠ id → SameView id s s₁ := fun id hneid =>
            performRepair_sameView hf hplan (by rw [hid]; exact hneid) hperf
          obtain ⟨⟨reports, hok, hlen⟩, hother, hown⟩ := ih s₁ hnodup.2
            (by
              intro c' hc'
              have hc'' := hsound c' (by simp [hc'])
              exact ⟨by rw [(hsame _ (hne c' hc')).row]; exact hc''.current, hc''.transient⟩)
            ⟨by
              intro id hidm
              have hidne : c.workflowId ≠ id := by
                intro heq
                exact hnodup.1 (by rw [heq]; exact hidm)
              refine performRepair_freshDispatch hplan ?_ ?_ (hfresh.fresh id (by simp [hidm])) hperf
              · intro heq
                exact hidne (hfresh.tasks _ (by simp) id (by simp [hidm]) heq)
              · intro heq
                exact hidne (hfresh.outbox _ (by simp) id (by simp [hidm]) heq),
              fun id hid id' hid' => hfresh.tasks id (by simp [hid]) id' (by simp [hid']),
              fun id hid id' hid' => hfresh.outbox id (by simp [hid]) id' (by simp [hid'])⟩
          have hstep : sc.repairAll repo cfg env (c :: rest) s =
              ((sc.repairAll repo cfg env rest s₁).1.map (report :: ·),
                (sc.repairAll repo cfg env rest s₁).2) := by
            rw [repairAll, hinspect]
            dsimp only
            rw [hperf]
          rw [hstep]
          refine ⟨⟨report :: reports, by rw [hok]; rfl, by simp [hlen]⟩, ?_, ?_⟩
          · intro id hidn
            have hidne : c.workflowId ≠ id := fun heq => hidn (by simp [heq])
            exact (hsame id hidne).trans (hother id (fun h => hidn (by simp [h])))
          · intro c' hc'
            rcases List.mem_cons.mp hc' with rfl | hc'
            · rw [hp]
              exact hview.of_sameView (SameView.refl _ s) (hother _ hnodup.1)
            · have hs := hsame _ (hne c' hc')
              have hv := hown c' hc'
              rw [hs.planOf] at hv
              exact hv.of_sameView hs (SameView.refl _ _)

/-! ### The scan -/

/-- The draws of a scan are fresh for all workflows. -/
def FreshScan (env : ScanEnv) (s : Store) : Prop :=
  FreshDraws env (s.workflows.rows.map WorkflowRecord.workflowId) s

instance (env : ScanEnv) (s : Store) : Decidable (FreshScan env s) :=
  inferInstanceAs (Decidable (FreshDraws ..))

theorem FreshScan.candidates {env : ScanEnv} {s : Store} {sc : ReconciliationScanner}
    {repo : WorkflowRepoKind} {clock : CollectClock} {batchSize : Nat} (h : FreshScan env s) :
    FreshDraws env ((sc.collectCandidates repo clock batchSize s).map
      ReconciliationCandidate.workflowId) s := by
  have hsub : ∀ id ∈ (sc.collectCandidates repo clock batchSize s).map
      ReconciliationCandidate.workflowId,
      id ∈ s.workflows.rows.map WorkflowRecord.workflowId := by
    intro id hid
    obtain ⟨c, hc, rfl⟩ := List.mem_map.mp hid
    exact List.mem_map.mpr
      ⟨c.workflow, Table.mem_of_get? (collectCandidates_sound hc).current, rfl⟩
  exact ⟨fun id hid => h.fresh id (hsub id hid),
    fun id hid id' hid' => h.tasks id (hsub id hid) id' (hsub id' hid'),
    fun id hid id' hid' => h.outbox id (hsub id hid) id' (hsub id' hid')⟩

/-- **A whole scan, for one workflow**: its view is changed by the plan of its own candidate,
if it has one. -/
theorem scanAndRepair_view (sc : ReconciliationScanner) (repo : WorkflowRepoKind)
    (cfg : AppConfig) {env : ScanEnv} (batchSize : Nat) {s : Store} (hfresh : FreshScan env s)
    (id : String) :
    ((∀ c ∈ sc.collectCandidates repo env.collect batchSize s, c.workflowId ≠ id) ∧
        SameView id s (sc.scanAndRepair repo cfg env batchSize s).2) ∨
      ∃ c ∈ sc.collectCandidates repo env.collect batchSize s, c.workflowId = id ∧
        ScanView (env.repair id) id s (sc.scanAndRepair repo cfg env batchSize s).2
          (sc.planOf repo cfg (env.inspected id) s c) := by
  obtain ⟨-, hother, hown⟩ := sc.repairAll_spec repo cfg env
    (sc.collectCandidates repo env.collect batchSize s) s (collectCandidates_nodup ..)
    (fun c hc => collectCandidates_sound hc) hfresh.candidates
  by_cases hex : ∃ c ∈ sc.collectCandidates repo env.collect batchSize s, c.workflowId = id
  · obtain ⟨c, hc, rfl⟩ := hex
    exact Or.inr ⟨c, hc, rfl, hown c hc⟩
  · have hno : ∀ c ∈ sc.collectCandidates repo env.collect batchSize s, c.workflowId ≠ id :=
      fun c hc hid => hex ⟨c, hc, hid⟩
    refine Or.inl ⟨hno, hother id ?_⟩
    intro hmem
    obtain ⟨c, hc, hid⟩ := List.mem_map.mp hmem
    exact hno c hc hid

end ReconciliationScanner

end CartoonDemo
