import CartoonDemo.Worker.Guards
import CartoonDemo.Workflow.ReconcileScan
import CartoonDemo.Workflow.RepoRefinement

/-!
# CartoonDemo.Workflow.ReconcileLive

The reconciler and **live work**: which workflows a scan fails although a task of their stage
is in flight (`KillsLive`), and for which it creates a task although one of that type is in
flight (`DuplicatesLive`).

Both are read off `rowPlan`, what a scan does to one row. Its in-flight test looks at the task
type that the outbox table expects for the state: for two of the four active stages the table
expects none, and `RP-001` makes no such test at all except in `GENERATING_SCENARIO`.
-/

namespace CartoonDemo

open WorkflowStateGuard

namespace ReconciliationScanner

/-! ### What a scan does to one row

The plan of a row, without the batch.
-/

/-- The task type that the scan looks at for the row `w`. -/
def rowExpected (s : Store) (w : WorkflowRecord) : Option TaskType :=
  rp001ExpectedTask w (listTasks .fakes s w.workflowId) (listUnpublished .fakes s w.workflowId)

/-- The task that the scan looks at for the row `w`. -/
def rowLatest (s : Store) (w : WorkflowRecord) : Option TaskRecord :=
  latestExpected (listTasks .fakes s w.workflowId) (rowExpected s w)

/-- The row is overdue when it is listed and when it is evaluated. -/
def overdueCollected (sc : ReconciliationScanner) (env : ScanEnv) (w : WorkflowRecord) : Bool :=
  sc.overdue env.collect.listed w && sc.overdue (env.collect.evaluated w.workflowId) w

/-- The row is overdue at every look of the scan. -/
def overdueThroughout (sc : ReconciliationScanner) (env : ScanEnv) (w : WorkflowRecord) : Bool :=
  sc.overdueCollected env w && sc.overdue (env.inspected w.workflowId) w

/-- What a scan with a large enough batch does to the row `w`. -/
def rowPlan (sc : ReconciliationScanner) (cfg : AppConfig) (env : ScanEnv) (s : Store)
    (w : WorkflowRecord) : Option RepairPlan :=
  (candidateOf sc .fakes env.collect s w).bind
    (sc.planOf .fakes cfg (env.inspected w.workflowId) s)

/-- The candidate of a row: `RP-003` when it is stuck, else what its outbox rows say. -/
theorem candidateOf_fakes (sc : ReconciliationScanner) (env : ScanEnv) (s : Store)
    (w : WorkflowRecord) :
    candidateOf sc .fakes env.collect s w =
      if w.state.isTransient && sc.overdueCollected env w && !latestInFlight (rowLatest s w) then
        some (.rp003 w (rowExpected s w))
      else if w.state ∈ scanStates then outboxCandidate .fakes s w else none := by
  have hrp : sc.rp003Candidate .fakes env.collect s w =
      if sc.overdue (env.collect.evaluated w.workflowId) w && !latestInFlight (rowLatest s w) then
        some (.rp003 w (rowExpected s w)) else none := rfl
  unfold candidateOf overdueCollected
  rw [hrp]
  cases w.state.isTransient <;> cases sc.overdue env.collect.listed w <;>
    cases sc.overdue (env.collect.evaluated w.workflowId) w <;>
    cases latestInFlight (rowLatest s w) <;> simp

/-- The outbox candidate of a row in one of the scanned states. -/
theorem outboxCandidate_fakes {s : Store} {w : WorkflowRecord} (hst : w.state ∈ scanStates) :
    outboxCandidate .fakes s w =
      if (listUnpublished .fakes s w.workflowId).isEmpty then (rowExpected s w).map (.rp001 w)
      else some (.rp002 w) := by
  have hlive : w.state.isTerminal = false := by
    revert hst
    cases w.state <;> simp [scanStates, WorkflowState.isTerminal]
  unfold outboxCandidate rowExpected
  rw [if_neg (by simp [hlive])]
  dsimp only
  cases hu : (listUnpublished .fakes s w.workflowId).isEmpty with
  | true => rfl
  | false => rfl

/-- Every state with an expected task is scanned. -/
theorem mem_scanStates_of_expected {s : Store} {w : WorkflowRecord} {tt : TaskType}
    (h : rowExpected s w = some tt) : w.state ∈ scanStates ∧ w.state.isTransient = true := by
  unfold rowExpected rp001ExpectedTask at h
  cases hst : w.state <;> simp [hst, expectedOutboxTask] at h <;>
    simp [scanStates, WorkflowState.isTransient, WorkflowState.isTerminal, WorkflowState.isPause]

theorem live_of_expected {s : Store} {w : WorkflowRecord} {tt : TaskType}
    (h : rowExpected s w = some tt) : w.state.isTerminal = false := by
  have htrans := (mem_scanStates_of_expected h).2
  revert htrans
  cases w.state <;> decide

/-- **The scan of one row**, in terms of what it reads. -/
theorem rowPlan_eq (sc : ReconciliationScanner) (cfg : AppConfig) (env : ScanEnv) (s : Store)
    (w : WorkflowRecord) :
    rowPlan sc cfg env s w =
      if w.state.isTransient && sc.overdueCollected env w && !latestInFlight (rowLatest s w) then
        if sc.overdue (env.inspected w.workflowId) w then
          some (stuckPlan cfg w (rowExpected s w) (rowLatest s w))
        else none
      else if (listUnpublished .fakes s w.workflowId).isEmpty then
        (rowExpected s w).map (fun tt => .recreate w tt 1)
      else none := by
  unfold rowPlan
  rw [candidateOf_fakes]
  by_cases hstuck : (w.state.isTransient && sc.overdueCollected env w &&
      !latestInFlight (rowLatest s w)) = true
  · rw [if_pos hstuck, if_pos hstuck, Option.bind_some]
    rw [Bool.and_eq_true] at hstuck
    have hplan : sc.planOf .fakes cfg (env.inspected w.workflowId) s (.rp003 w (rowExpected s w)) =
        if sc.overdue (env.inspected w.workflowId) w && !latestInFlight (rowLatest s w) then
          some (stuckPlan cfg w (rowExpected s w) (rowLatest s w)) else none := rfl
    rw [hplan, hstuck.2, Bool.and_true]
  · rw [if_neg hstuck, if_neg hstuck]
    by_cases hst : w.state ∈ scanStates
    · rw [if_pos hst, outboxCandidate_fakes hst]
      by_cases hu : (listUnpublished .fakes s w.workflowId).isEmpty = true
      · rw [if_pos hu, if_pos hu]
        cases rowExpected s w <;> rfl
      · rw [if_neg hu, if_neg hu]
        rfl
    · have hnone : rowExpected s w = none := by
        by_contra hne
        obtain ⟨tt, htt⟩ := Option.ne_none_iff_exists'.mp hne
        exact hst (mem_scanStates_of_expected htt).1
      rw [if_neg hst, hnone]
      split <;> rfl

theorem rowPlan_workflow {sc : ReconciliationScanner} {cfg : AppConfig} {env : ScanEnv}
    {s : Store} {w : WorkflowRecord} {plan : RepairPlan}
    (h : rowPlan sc cfg env s w = some plan) : plan.workflow = w := by
  rw [rowPlan_eq] at h
  split at h
  · split at h
    · obtain rfl := Option.some.inj h
      exact stuckPlan_workflow ..
    · exact absurd h (by simp)
  · split at h
    · obtain ⟨tt, -, rfl⟩ := Option.map_eq_some_iff.mp h
      rfl
    · exact absurd h (by simp)

/-- A scan, of any batch, leaves a live row's view or carries the plan of the row out. -/
theorem scanAndRepair_rowView (sc : ReconciliationScanner) (cfg : AppConfig) {env : ScanEnv}
    (batchSize : Nat) {s : Store} (hfresh : FreshScan env s) {w : WorkflowRecord}
    (hw : w ∈ s.workflows.rows) (hlive : w.state.isTerminal = false) :
    SameView w.workflowId s (sc.scanAndRepair .fakes cfg env batchSize s).2 ∨
      ScanView (env.repair w.workflowId) w.workflowId s
        (sc.scanAndRepair .fakes cfg env batchSize s).2 (rowPlan sc cfg env s w) := by
  rcases scanAndRepair_view sc .fakes cfg batchSize hfresh w.workflowId with
    ⟨-, hsame⟩ | ⟨c, hc, hid, hview⟩
  · exact Or.inl hsame
  · right
    unfold rowPlan
    rw [candidateOf_of_mem hc hw hlive hid]
    exact hview

/-- The plan of a live row is carried out. -/
theorem scanAndRepair_rowPlan (sc : ReconciliationScanner) (cfg : AppConfig) {env : ScanEnv}
    {batchSize : Nat} {s : Store} (hb : liveCount s ≤ batchSize) (hfresh : FreshScan env s)
    {w : WorkflowRecord} (hw : w ∈ s.workflows.rows) (hlive : w.state.isTerminal = false) :
    ScanView (env.repair w.workflowId) w.workflowId s
      (sc.scanAndRepair .fakes cfg env batchSize s).2 (rowPlan sc cfg env s w) := by
  unfold rowPlan
  rcases scanAndRepair_view sc .fakes cfg batchSize hfresh w.workflowId with
    ⟨hno, hsame⟩ | ⟨c, hc, hid, hview⟩
  · have hnone : candidateOf sc .fakes env.collect s w = none := by
      by_contra hne
      obtain ⟨c, hc⟩ := Option.ne_none_iff_exists'.mp hne
      obtain ⟨hmem, hid⟩ := (mem_collectCandidates_iff hb hw hlive).mpr hc
      exact hno c hmem hid
    rw [hnone]
    exact .untouched hsame
  · rw [(mem_collectCandidates_iff hb hw hlive).mp ⟨hc, hid⟩]
    exact hview

/-! ### Failing live work

The rows that the plan fails, state by state.
-/

/-- A task of type `tt` of the workflow is in flight. -/
def hasInFlight (s : Store) (workflowId : String) (tt : TaskType) : Bool :=
  s.tasks.rows.any (fun t => t.workflowId = workflowId && t.taskType = tt && t.status.inFlight)

/-- The newest task of type `tt` has used up its attempts. -/
def exhausted (cfg : AppConfig) (s : Store) (workflowId : String) (tt : TaskType) : Bool :=
  !isStuckRetriable (latestTaskOfType (listTasks .fakes s workflowId) tt) (cfg.maxAttempts tt)

/-- A scan leaves a workflow alone while a task of its active stage is in flight: it writes a
workflow row by `RECONCILIATION_REPAIR` only. -/
def SparesLive (sc : ReconciliationScanner) (repo : WorkflowRepoKind) (cfg : AppConfig)
    (env : ScanEnv) (batchSize : Nat) (s : Store) : Prop :=
  ∀ w ∈ s.workflows.rows, ∀ tt, w.state = expectedStateForTask tt →
    hasInFlight s w.workflowId tt = true →
    (sc.scanAndRepair repo cfg env batchSize s).2.workflows.get? w.workflowId = some w

/-- An overdue workflow with a task of its stage in flight that the scan does not see. -/
def KillsLive (sc : ReconciliationScanner) (cfg : AppConfig) (env : ScanEnv) (s : Store)
    (w : WorkflowRecord) : Prop :=
  sc.overdueThroughout env w = true ∧
    match w.state with
    | .selectingTopic => hasInFlight s w.workflowId .selectTopic = true
    | .reviewing => hasInFlight s w.workflowId .reviewScenario = true
    | .collecting =>
        hasInFlight s w.workflowId .collect = true ∧
          latestInFlight (latestTaskOfType (listTasks .fakes s w.workflowId) .collect) = false ∧
          exhausted cfg s w.workflowId .collect = true
    | .generatingScenario =>
        hasInFlight s w.workflowId .generateScenario = true ∧
          (latestInFlight (latestTaskOfType (listTasks .fakes s w.workflowId) .generateScenario)
              = true ∨
            hasUnpublished (listUnpublished .fakes s w.workflowId) .generateScenario = true ∨
            exhausted cfg s w.workflowId .generateScenario = true)
    | _ => False

/-- When the scan fails a row. -/
theorem rowPlan_eq_fail_iff {sc : ReconciliationScanner} {cfg : AppConfig} {env : ScanEnv}
    {s : Store} {w : WorkflowRecord} :
    rowPlan sc cfg env s w = some (.fail w) ↔
      w.state.isTransient = true ∧ sc.overdueThroughout env w = true ∧
        latestInFlight (rowLatest s w) = false ∧
        ∀ tt, rowExpected s w = some tt →
          isStuckRetriable (rowLatest s w) (cfg.maxAttempts tt) = false := by
  have hplan : stuckPlan cfg w (rowExpected s w) (rowLatest s w) = .fail w ↔
      ∀ tt, rowExpected s w = some tt →
        isStuckRetriable (rowLatest s w) (cfg.maxAttempts tt) = false := by
    unfold stuckPlan
    cases rowExpected s w with
    | none => simp
    | some tt => cases hr : isStuckRetriable (rowLatest s w) (cfg.maxAttempts tt) <;> simp [hr]
  rw [rowPlan_eq, ← hplan]
  unfold overdueThroughout
  by_cases hstuck : (w.state.isTransient && sc.overdueCollected env w &&
      !latestInFlight (rowLatest s w)) = true
  · rw [if_pos hstuck]
    rw [Bool.and_eq_true, Bool.and_eq_true, Bool.not_eq_true'] at hstuck
    cases ho : sc.overdue (env.inspected w.workflowId) w <;> simp [hstuck.1.1, hstuck.1.2, hstuck.2]
  · rw [if_neg hstuck]
    constructor
    · intro h
      split at h
      · obtain ⟨tt, -, heq⟩ := Option.map_eq_some_iff.mp h
        exact absurd heq (by simp)
      · exact absurd h (by simp)
    · intro h
      obtain ⟨ht, ho, hl, -⟩ := h
      rw [Bool.and_eq_true] at ho
      exact absurd (by simp [ht, ho.1, hl]) hstuck

/-- A workflow with tasks of a type has a newest one. -/
theorem latestTaskOfType_ne_none {s : Store} {workflowId : String} {tt : TaskType}
    (h : hasInFlight s workflowId tt = true) :
    latestTaskOfType (listTasks .fakes s workflowId) tt ≠ none := by
  obtain ⟨t, ht, hp⟩ := List.any_eq_true.mp h
  simp only [Bool.and_eq_true, decide_eq_true_eq] at hp
  have hmem : t ∈ (listTasks .fakes s workflowId).filter (fun t => t.taskType = tt) := by
    unfold listTasks listTasksForWorkflow
    rw [List.mem_filter, List.mem_insertionSort, List.mem_filter]
    exact ⟨⟨ht, by simp [hp.1.1]⟩, by simp [hp.1.2]⟩
  unfold latestTaskOfType newest
  cases hl : (listTasks .fakes s workflowId).filter (fun t => t.taskType = tt) with
  | nil => rw [hl] at hmem; exact absurd hmem (by simp)
  | cons t' ts => simp

/-- Each state is expected for one type of task at most. -/
theorem exists_expected_iff {p : TaskType → Prop} (st : WorkflowState) (t : TaskType)
    (h : st = expectedStateForTask t) : (∃ tt, st = expectedStateForTask tt ∧ p tt) ↔ p t := by
  constructor
  · rintro ⟨tt, hst, hp⟩
    have hsame : expectedStateForTask t = expectedStateForTask tt := h.symm.trans hst
    obtain rfl : t = tt := by
      cases t <;> cases tt <;> first | rfl | exact absurd hsame (by decide)
    exact hp
  · exact fun hp => ⟨t, h, hp⟩

/-- **The scan fails live work exactly as `KillsLive` says.** -/
theorem killsLive_iff {sc : ReconciliationScanner} {cfg : AppConfig} {env : ScanEnv}
    {s : Store} {w : WorkflowRecord} :
    KillsLive sc cfg env s w ↔
      ∃ tt, w.state = expectedStateForTask tt ∧ hasInFlight s w.workflowId tt = true ∧
        rowPlan sc cfg env s w = some (.fail w) := by
  rw [rowPlan_eq_fail_iff]
  unfold KillsLive rowLatest rowExpected rp001ExpectedTask latestExpected exhausted
  cases hst : w.state with
  | collecting =>
      rw [exists_expected_iff .collecting .collect rfl]
      simp [expectedOutboxTask, WorkflowState.isTransient, WorkflowState.isTerminal,
        WorkflowState.isPause]
      tauto
  | selectingTopic =>
      rw [exists_expected_iff .selectingTopic .selectTopic rfl]
      simp [expectedOutboxTask, WorkflowState.isTransient, WorkflowState.isTerminal,
        WorkflowState.isPause, latestInFlight]
      tauto
  | reviewing =>
      rw [exists_expected_iff .reviewing .reviewScenario rfl]
      simp [expectedOutboxTask, WorkflowState.isTransient, WorkflowState.isTerminal,
        WorkflowState.isPause, latestInFlight]
      tauto
  | generatingScenario =>
      rw [exists_expected_iff .generatingScenario .generateScenario rfl]
      simp only [ne_eq, not_true_eq_false, if_false]
      cases hl : latestTaskOfType (listTasks .fakes s w.workflowId) .generateScenario with
      | none =>
          have hno : hasInFlight s w.workflowId .generateScenario = false := by
            by_contra hne
            exact latestTaskOfType_ne_none (by simpa using hne) hl
          simp [hno]
      | some latest =>
          cases hf : latest.status.inFlight <;>
            cases hasUnpublished (listUnpublished .fakes s w.workflowId) .generateScenario <;>
            simp [hf, hl, latestInFlight, WorkflowState.isTransient, WorkflowState.isTerminal,
              WorkflowState.isPause] <;> tauto
  | _ =>
      refine iff_of_false (by simp) ?_
      rintro ⟨tt, hexpected, -⟩
      cases tt <;> cases hexpected

/-- A workflow that a scan of any batch fails is one that the large batch fails. -/
theorem rowPlan_of_fail {sc : ReconciliationScanner} {repo : WorkflowRepoKind} {cfg : AppConfig}
    {env : ScanEnv} {batchSize : Nat} {s : Store} {c : ReconciliationCandidate}
    {w : WorkflowRecord} (hc : c ∈ sc.collectCandidates repo env.collect batchSize s)
    (hp : sc.planOf repo cfg (env.inspected c.workflowId) s c = some (.fail w)) :
    repo = .fakes ∧ c.workflow = w ∧ rowPlan sc cfg env s w = some (.fail w) := by
  have hw : w = c.workflow := planOf_workflow hp
  obtain ⟨row, -, hcol⟩ := collectCandidates_collected hc
  have hpattern := planOf_fail hp
  cases hcol with
  | stuck c hrepo ht ho hcand =>
      subst hrepo
      have hceq := rp003Candidate_eq_some hcand
      subst hceq
      obtain rfl : w = row := hw
      unfold rp003Candidate at hcand
      dsimp only at hcand
      split at hcand
      · next hev =>
        refine ⟨rfl, rfl, ?_⟩
        have hcandidate : candidateOf sc .fakes env.collect s w =
            some (.rp003 w (rowExpected s w)) := by
          rw [candidateOf_fakes]
          unfold isStuck at hev
          rw [Bool.and_eq_true] at hev
          have hstuck : (w.state.isTransient && sc.overdueCollected env w &&
              !latestInFlight (rowLatest s w)) = true := by
            unfold overdueCollected
            rw [ht, ho, hev.1]
            exact hev.2
          rw [if_pos hstuck]
        unfold rowPlan
        rw [hcandidate]
        exact hp
      · exact absurd hcand (by simp)
  | outbox c hrepo hs hcand =>
      rcases outboxCandidate_eq_some hcand with rfl | ⟨tt, rfl⟩
      · exact absurd hpattern (by simp [ReconciliationCandidate.patternId])
      · exact absurd hpattern (by simp [ReconciliationCandidate.patternId])
  | terminal ht => exact absurd hpattern (by simp [ReconciliationCandidate.patternId])

/-- A scan that writes a workflow row has failed it. -/
theorem rowPlan_of_row_ne {sc : ReconciliationScanner} {repo : WorkflowRepoKind}
    {cfg : AppConfig} {env : ScanEnv} {batchSize : Nat} {s : Store} (hfresh : FreshScan env s)
    {w : WorkflowRecord} (hw : w ∈ s.workflows.rows)
    (hne : (sc.scanAndRepair repo cfg env batchSize s).2.workflows.get? w.workflowId ≠ some w) :
    repo = .fakes ∧ rowPlan sc cfg env s w = some (.fail w) := by
  have hget : s.workflows.get? w.workflowId = some w := Table.get?_of_mem hw
  rcases scanAndRepair_view sc repo cfg batchSize hfresh w.workflowId with
    ⟨-, hsame⟩ | ⟨c, hc, hid, hview⟩
  · exact absurd (hsame.row.trans hget) hne
  · generalize hp : sc.planOf repo cfg (env.inspected w.workflowId) s c = plan at hview
    cases hview with
    | untouched h => exact absurd (h.row.trans hget) hne
    | recreated w' tt attempt hid' h =>
        rw [← hid', h.row, hid'] at hne
        exact absurd hget hne
    | failed w' hid' h =>
        rw [← hid] at hp
        obtain ⟨hrepo, hwf, hplan⟩ := rowPlan_of_fail hc hp
        have hcur := (collectCandidates_sound hc).current
        rw [hid, hwf] at hcur
        obtain rfl : w = w' := Option.some.inj (hget.symm.trans hcur)
        exact ⟨hrepo, hplan⟩

/-- **The reconciler fails no live work**, unless an overdue workflow has a task of its stage
in flight that the scan does not look at; and it does fail every such workflow that the batch
holds. -/
theorem scan_sparesLive_iff (sc : ReconciliationScanner) (cfg : AppConfig) (env : ScanEnv)
    (batchSize : Nat) (s : Store) (hfresh : FreshScan env s) :
    (∀ repo, (repo = .fakes → ∀ w ∈ s.workflows.rows, ¬ KillsLive sc cfg env s w) →
        SparesLive sc repo cfg env batchSize s) ∧
      (liveCount s ≤ batchSize → SparesLive sc .fakes cfg env batchSize s →
        ∀ w ∈ s.workflows.rows, ¬ KillsLive sc cfg env s w) := by
  refine ⟨?_, ?_⟩
  · intro repo hno w hw tt hst hin
    by_contra hne
    obtain ⟨hrepo, hplan⟩ := rowPlan_of_row_ne hfresh hw hne
    exact hno hrepo w hw (killsLive_iff.mpr ⟨tt, hst, hin, hplan⟩)
  · intro hb hspares w hw hkills
    obtain ⟨tt, hst, hin, hplan⟩ := killsLive_iff.mp hkills
    have hlive : w.state.isTerminal = false := by
      rw [hst]
      cases tt <;> rfl
    have hview := scanAndRepair_rowPlan sc cfg hb hfresh hw hlive
    rw [hplan] at hview
    cases hview with
    | failed w' hid h =>
        obtain ⟨row, hrow, -, hlt⟩ := h.row
        have hrow' := hspares w hw tt hst hin
        rw [hrow'] at hrow
        obtain rfl := Option.some.inj hrow
        exact absurd hlt (Nat.lt_irrefl _)

/-! ### An overdue topic selection -/

/-- A workflow has been initiated and collected; its topic selection is dispatched. -/
def selectingStore : Store :=
  run (RepoRefinement.next .fakes .prod) {}
    [.initiate (Env.numbered 0 0) {}, RepoRefinement.sampleTransition 1 .collecting .stageCompleted,
      RepoRefinement.sampleTransition 2 .collected .stageCompleted]

/-- Before the threshold of half an hour the scan leaves the topic selection alone. -/
theorem selectingStore_spared :
    FreshScan (ScanEnv.numbered (seconds (29 * 60)) 9) selectingStore ∧
      SparesLive {} .fakes .prod
        (ScanEnv.numbered (seconds (29 * 60)) 9) 100 selectingStore := by
  have hfresh : FreshScan (ScanEnv.numbered (seconds (29 * 60)) 9) selectingStore := by
    decide +kernel
  refine ⟨hfresh, (scan_sparesLive_iff {} _ _ 100 selectingStore hfresh).1 .fakes ?_⟩
  intro _ w hw hkills
  have hnot : ∀ w ∈ selectingStore.workflows.rows, overdueThroughout {}
      (ScanEnv.numbered (seconds (29 * 60)) 9) w = false := by decide +kernel
  exact absurd (hkills.1.symm.trans (hnot w hw)) (by simp)

/-- After the threshold it fails the workflow, whose topic selection is pending. -/
theorem selectingStore_killed :
    ¬ SparesLive {} .fakes .prod
      (ScanEnv.numbered (seconds (31 * 60)) 9) 100 selectingStore := by
  intro h
  have hstage : ∃ w ∈ selectingStore.workflows.rows, w.state = expectedStateForTask .selectTopic ∧
      hasInFlight selectingStore w.workflowId .selectTopic = true ∧
      (scanAndRepair {} .fakes .prod
        (ScanEnv.numbered (seconds (31 * 60)) 9) 100 selectingStore).2.workflows.get? w.workflowId
        ≠ some w := by decide +kernel
  obtain ⟨w, hw, hst, hin, hne⟩ := hstage
  exact hne (h w hw .selectTopic hst hin)

end ReconciliationScanner

end CartoonDemo
