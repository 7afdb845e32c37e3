import CartoonDemo.Workflow.ReconcileLive

/-!
# CartoonDemo.Workflow.ReconcileQuiet

When the reconciler **creates tasks**: for which workflows it duplicates work in flight
(`duplicatesLive`), and when a second scan right after the first creates nothing.

A scan that has created a task leaves an unpublished outbox row, so that `RP-001` does not
apply again, and a task in flight, so that `RP-003` does not, provided the new task is the
newest of its type. A workflow that the first scan left alone is left alone by the second one
as long as it does not cross its threshold in between.
-/

namespace CartoonDemo

open WorkflowStateGuard TransitionExecutor

namespace ReconciliationScanner

/-! ### Creating a task for one row -/

/-- The scan creates a task of type `tt` for the row: a stuck one with attempts left, or one
without unpublished outbox rows. -/
def createsTask (sc : ReconciliationScanner) (cfg : AppConfig) (env : ScanEnv) (s : Store)
    (w : WorkflowRecord) (tt : TaskType) : Bool :=
  if sc.overdueCollected env w && !latestInFlight (rowLatest s w) then
    sc.overdue (env.inspected w.workflowId) w &&
      isStuckRetriable (rowLatest s w) (cfg.maxAttempts tt)
  else (listUnpublished .fakes s w.workflowId).isEmpty

theorem rowPlan_eq_recreate_iff {sc : ReconciliationScanner} {cfg : AppConfig} {env : ScanEnv}
    {s : Store} {w : WorkflowRecord} {tt : TaskType} :
    (∃ attempt, rowPlan sc cfg env s w = some (.recreate w tt attempt)) ↔
      rowExpected s w = some tt ∧ createsTask sc cfg env s w tt = true := by
  rw [rowPlan_eq]
  unfold createsTask
  cases hexp : rowExpected s w with
  | none =>
      have hplan : stuckPlan cfg w none (rowLatest s w) = .fail w := rfl
      rw [hplan]
      constructor
      · intro h
        obtain ⟨attempt, h⟩ := h
        split at h
        · split at h
          · exact absurd (Option.some.inj h) (by simp)
          · exact absurd h (by simp)
        · split at h
          · exact absurd h (by simp)
          · exact absurd h (by simp)
      · intro h
        exact absurd h.1 (by simp)
  | some tt' =>
      rw [(mem_scanStates_of_expected hexp).2, Bool.true_and]
      unfold stuckPlan
      by_cases hst : (sc.overdueCollected env w && !latestInFlight (rowLatest s w)) = true
      · rw [if_pos hst, if_pos hst]
        cases ho : sc.overdue (env.inspected w.workflowId) w with
        | false => simp
        | true =>
            dsimp only
            by_cases hr : isStuckRetriable (rowLatest s w) (cfg.maxAttempts tt') = true
            · rw [if_pos rfl, if_pos hr]
              constructor
              · intro h
                obtain ⟨attempt, h⟩ := h
                obtain ⟨-, rfl, -⟩ := RepairPlan.recreate.inj (Option.some.inj h)
                exact ⟨rfl, by rw [hr]; rfl⟩
              · intro h
                obtain rfl := Option.some.inj h.1
                exact ⟨_, rfl⟩
            · rw [if_pos rfl, if_neg hr]
              constructor
              · intro h
                obtain ⟨attempt, h⟩ := h
                exact absurd (Option.some.inj h) (by simp)
              · intro h
                obtain rfl := Option.some.inj h.1
                exact absurd h.2 (by simp [hr])
      · rw [if_neg hst, if_neg hst]
        cases hu : (listUnpublished .fakes s w.workflowId).isEmpty with
        | false => simp
        | true =>
            simp only [if_true, Option.map_some, Option.some.injEq, RepairPlan.recreate.injEq,
              and_true, true_and]
            constructor
            · intro h
              obtain ⟨attempt, rfl, -⟩ := h
              rfl
            · intro h
              exact ⟨1, h, rfl⟩

/-- The scan creates a task although one of its type is in flight. -/
def duplicatesLive (sc : ReconciliationScanner) (cfg : AppConfig) (env : ScanEnv) (s : Store)
    (w : WorkflowRecord) : Bool :=
  (rowExpected s w).any fun tt =>
    hasInFlight s w.workflowId tt && createsTask sc cfg env s w tt

/-- Every task that a scan creates is the only one of its type in flight. -/
def NoDuplicates (sc : ReconciliationScanner) (repo : WorkflowRepoKind) (cfg : AppConfig)
    (env : ScanEnv) (batchSize : Nat) (s : Store) : Prop :=
  ∀ t ∈ (sc.scanAndRepair repo cfg env batchSize s).2.tasks.rows, t ∉ s.tasks.rows →
    hasInFlight s t.workflowId t.taskType = false

instance (sc : ReconciliationScanner) (repo : WorkflowRepoKind) (cfg : AppConfig)
    (env : ScanEnv) (batchSize : Nat) (s : Store) :
    Decidable (NoDuplicates sc repo cfg env batchSize s) :=
  inferInstanceAs (Decidable (∀ t ∈ (sc.scanAndRepair repo cfg env batchSize s).2.tasks.rows,
    t ∉ s.tasks.rows → hasInFlight s t.workflowId t.taskType = false))

/-- A scan creates neither a task nor an outbox row. -/
def CreatesNothing (sc : ReconciliationScanner) (repo : WorkflowRepoKind) (cfg : AppConfig)
    (env : ScanEnv) (batchSize : Nat) (s : Store) : Prop :=
  (∀ t ∈ (sc.scanAndRepair repo cfg env batchSize s).2.tasks.rows, t ∈ s.tasks.rows) ∧
    ∀ e ∈ (sc.scanAndRepair repo cfg env batchSize s).2.outbox.rows, e ∈ s.outbox.rows

/-! ### Recreated views -/

theorem ScanView.tasks_of_not_recreate {env : Env} {id : String} {s s' : Store}
    {plan : Option RepairPlan} (h : ScanView env id s s' plan)
    (hno : ∀ w tt attempt, plan ≠ some (.recreate w tt attempt)) :
    s'.tasks.rows.filter (fun t => t.workflowId = id) =
        s.tasks.rows.filter (fun t => t.workflowId = id) ∧
      s'.outbox.rows.filter (fun e => e.workflowId = id) =
        s.outbox.rows.filter (fun e => e.workflowId = id) := by
  cases h with
  | untouched h => exact ⟨h.tasks, h.outbox⟩
  | recreated w tt attempt hid h => exact absurd rfl (hno w tt attempt)
  | failed w hid h =>
      subst hid
      exact ⟨h.tasks, h.outbox⟩

/-- The task type that a repair of the candidate would recreate. -/
def expected : ReconciliationCandidate → Option TaskType
  | .rp001 _ tt => some tt
  | .rp003 _ tt => tt
  | .rp002 _ | .rp004 _ => none

/-- A candidate with an expected task: its row expects that task, and it is stuck or has no
unpublished rows. -/
theorem collected_expected {sc : ReconciliationScanner} {repo : WorkflowRepoKind}
    {clock : CollectClock} {batchSize : Nat} {s : Store} {c : ReconciliationCandidate}
    {tt : TaskType} (hc : c ∈ sc.collectCandidates repo clock batchSize s)
    (hexp : expected c = some tt) :
    repo = .fakes ∧ c.workflow ∈ s.workflows.rows ∧ rowExpected s c.workflow = some tt ∧
      ((listUnpublished .fakes s c.workflowId).isEmpty = true ∨
        (sc.overdue clock.listed c.workflow = true ∧
          sc.overdue (clock.evaluated c.workflowId) c.workflow = true ∧
          latestInFlight (rowLatest s c.workflow) = false)) := by
  obtain ⟨row, hrow, hcol⟩ := collectCandidates_collected hc
  cases hcol with
  | stuck c hrepo ht ho hcand =>
      subst hrepo
      have hceq := rp003Candidate_eq_some hcand
      subst hceq
      unfold rp003Candidate isStuck at hcand
      dsimp only at hcand
      split at hcand
      · next hev =>
        rw [Bool.and_eq_true, Bool.not_eq_true'] at hev
        exact ⟨rfl, hrow, hexp, Or.inr ⟨ho, hev.1, hev.2⟩⟩
      · exact absurd hcand (by simp)
  | outbox c hrepo hs hcand =>
      subst hrepo
      rw [outboxCandidate_fakes hs] at hcand
      split at hcand
      · next hu =>
        obtain ⟨tt', hrowexp, rfl⟩ := Option.map_eq_some_iff.mp hcand
        obtain rfl := Option.some.inj hexp
        exact ⟨rfl, hrow, hrowexp, Or.inl hu⟩
      · obtain rfl := Option.some.inj hcand
        exact absurd hexp (by simp [expected])
  | terminal ht => exact absurd hexp (by simp [expected])

theorem planOf_expected {sc : ReconciliationScanner} {repo : WorkflowRepoKind} {cfg : AppConfig}
    {now : Time} {s : Store} {c : ReconciliationCandidate} {w : WorkflowRecord} {tt : TaskType}
    {attempt : Nat} (h : sc.planOf repo cfg now s c = some (.recreate w tt attempt)) :
    expected c = some tt := by
  cases c with
  | rp001 w' tt' =>
      obtain ⟨-, rfl, -⟩ := RepairPlan.recreate.inj (Option.some.inj h)
      rfl
  | rp002 w' => exact absurd h (by simp [planOf])
  | rp003 w' tt' =>
      unfold planOf stuckPlan at h
      dsimp only at h
      split at h
      · split at h
        · split at h
          · obtain ⟨-, rfl, -⟩ := RepairPlan.recreate.inj (Option.some.inj h)
            rfl
          · exact absurd (Option.some.inj h) (by simp)
        · exact absurd (Option.some.inj h) (by simp)
      · exact absurd h (by simp)
  | rp004 w' => exact absurd h (by simp [planOf])

/-- A candidate whose repair recreates a task. -/
theorem recreate_cases {sc : ReconciliationScanner} {repo : WorkflowRepoKind} {cfg : AppConfig}
    {env : ScanEnv} {batchSize : Nat} {s : Store} {c : ReconciliationCandidate}
    {w : WorkflowRecord} {tt : TaskType} {attempt : Nat}
    (hc : c ∈ sc.collectCandidates repo env.collect batchSize s)
    (hp : sc.planOf repo cfg (env.inspected c.workflowId) s c = some (.recreate w tt attempt)) :
    repo = .fakes ∧ c.workflow = w ∧ w ∈ s.workflows.rows ∧ rowExpected s w = some tt ∧
      ((listUnpublished .fakes s w.workflowId).isEmpty = true ∨
        (sc.overdueCollected env w = true ∧ latestInFlight (rowLatest s w) = false)) := by
  obtain rfl : w = c.workflow := planOf_workflow hp
  obtain ⟨hrepo, hrow, hexp, hwhy⟩ := collected_expected hc (planOf_expected hp)
  refine ⟨hrepo, rfl, hrow, hexp, hwhy.imp id ?_⟩
  intro h
  refine ⟨?_, h.2.2⟩
  unfold overdueCollected
  rw [h.1]
  exact h.2.1

/-! ### The newest task -/

theorem foldl_newest (ts : List TaskRecord) (t : TaskRecord) :
    let best := ts.foldl (fun best t => if best.createdAt < t.createdAt then t else best) t
    best ∈ t :: ts ∧ ∀ t' ∈ t :: ts, t'.createdAt ≤ best.createdAt := by
  induction ts generalizing t with
  | nil => exact ⟨by simp, by simp⟩
  | cons t₁ ts ih =>
      dsimp only
      rw [List.foldl_cons]
      split
      · next hlt =>
        obtain ⟨hmem, hmax⟩ := ih t₁
        refine ⟨List.mem_cons_of_mem _ hmem, ?_⟩
        intro t' ht'
        rcases List.mem_cons.mp ht' with rfl | ht'
        · exact le_trans (le_of_lt hlt) (hmax t₁ (by simp))
        · exact hmax t' ht'
      · next hge =>
        obtain ⟨hmem, hmax⟩ := ih t
        refine ⟨?_, ?_⟩
        · rcases List.mem_cons.mp hmem with h | h
          · rw [h]
            simp
          · exact List.mem_cons_of_mem _ (List.mem_cons_of_mem _ h)
        · intro t' ht'
          rcases List.mem_cons.mp ht' with rfl | ht'
          · exact hmax _ (by simp)
          · rcases List.mem_cons.mp ht' with rfl | ht'
            · exact le_trans (not_lt.mp hge) (hmax t (by simp))
            · exact hmax t' (List.mem_cons_of_mem _ ht')

/-- A task later than all others of a list is its newest one. -/
theorem newest_eq_of_later {l : List TaskRecord} {t : TaskRecord} (ht : t ∈ l)
    (hlater : ∀ t' ∈ l, t' = t ∨ t'.createdAt < t.createdAt) : newest l = some t := by
  cases l with
  | nil => exact absurd ht (by simp)
  | cons t₀ ts =>
      obtain ⟨hmem, hmax⟩ := foldl_newest ts t₀
      rcases hlater _ hmem with heq | hlt
      · exact congrArg some heq
      · exact absurd (lt_of_lt_of_le hlt (hmax t ht)) (lt_irrefl _)

/-! ### The second scan

What the first scan has created keeps the second one from creating.
-/

/-- No clock reading of two scans in a row separates them: a repair of the first one is later
than the tasks there are, and no workflow crosses its threshold from the first look of the
first scan on. -/
structure SteadyClock (sc : ReconciliationScanner) (env₁ env₂ : ScanEnv) (s : Store) : Prop where
  later : ∀ t ∈ s.tasks.rows, t.createdAt < (env₁.repair t.workflowId).builtAt
  steady : ∀ w ∈ s.workflows.rows,
    sc.overdueCollected env₁ w = true ∨ sc.overdueCollected env₂ w = true →
      sc.overdueThroughout env₁ w = true

instance (sc : ReconciliationScanner) (env₁ env₂ : ScanEnv) (s : Store) :
    Decidable (SteadyClock sc env₁ env₂ s) :=
  decidable_of_iff
    ((∀ t ∈ s.tasks.rows, t.createdAt < (env₁.repair t.workflowId).builtAt) ∧
      ∀ w ∈ s.workflows.rows,
        sc.overdueCollected env₁ w = true ∨ sc.overdueCollected env₂ w = true →
          sc.overdueThroughout env₁ w = true)
    ⟨fun h => ⟨h.1, h.2⟩, fun h => ⟨h.later, h.steady⟩⟩

/-- Where an expected task comes from: the outbox table, or a generation that is not under
way. -/
theorem rowExpected_cases {s : Store} {w : WorkflowRecord} {tt : TaskType}
    (h : rowExpected s w = some tt) :
    w.state = .generatingScenario ∧ tt = .generateScenario ∨
      w.state ≠ .generatingScenario ∧ expectedOutboxTask w.state = some tt := by
  unfold rowExpected rp001ExpectedTask at h
  split at h
  · next hne => exact Or.inr ⟨hne, h⟩
  · next heq =>
    refine Or.inl ⟨not_not.mp heq, ?_⟩
    split at h
    · exact absurd h (by simp)
    · split at h
      · exact absurd h (by simp)
      · split at h
        · exact absurd h (by simp)
        · exact (Option.some.inj h).symm

/-- The expected task type depends on the state only. -/
theorem rowExpected_unique {s s' : Store} {w : WorkflowRecord} {tt tt' : TaskType}
    (h : rowExpected s w = some tt) (h' : rowExpected s' w = some tt') : tt = tt' := by
  rcases rowExpected_cases h with ⟨hst, rfl⟩ | ⟨hst, h⟩
  · rcases rowExpected_cases h' with ⟨-, rfl⟩ | ⟨hst', -⟩
    · rfl
    · exact absurd hst hst'
  · rcases rowExpected_cases h' with ⟨hst', -⟩ | ⟨-, h'⟩
    · exact absurd hst' hst
    · exact Option.some.inj (h.symm.trans h')

/-- A recreated task is in flight and the newest of its type, and its outbox row is
unpublished. -/
theorem RecreatedView.in_flight {env : Env} {w : WorkflowRecord} {tt : TaskType} {attempt : Nat}
    {s s' : Store} (h : RecreatedView env w tt attempt s s')
    (hlater : ∀ t ∈ s.tasks.rows, t.workflowId = w.workflowId → t.createdAt < env.builtAt) :
    latestInFlight (latestTaskOfType (listTasks .fakes s' w.workflowId) tt) = true ∧
      (listUnpublished .fakes s' w.workflowId).isEmpty = false := by
  constructor
  · have hnewest : latestTaskOfType (listTasks .fakes s' w.workflowId) tt =
        some (OutboxSpecBuilder.build env w tt
          (resolveForTask s w.workflowId tt (tt = .generateScenario)) attempt).taskRecord := by
      unfold latestTaskOfType
      refine newest_eq_of_later ?_ ?_
      · unfold listTasks listTasksForWorkflow
        rw [List.mem_filter, List.mem_insertionSort, h.tasks]
        exact ⟨by simp, by simp [OutboxSpecBuilder.build]⟩
      · intro t ht
        unfold listTasks listTasksForWorkflow at ht
        rw [List.mem_filter, List.mem_insertionSort, h.tasks, List.mem_append] at ht
        rcases ht.1 with hold | hnew
        · right
          have hold' := List.mem_filter.mp hold
          exact hlater t hold'.1 (by simpa using hold'.2)
        · exact Or.inl (List.mem_singleton.mp hnew)
    rw [hnewest]
    rfl
  · have hrow : ∃ e ∈ s'.outbox.rows.filter (fun e => e.workflowId = w.workflowId),
        e.status = .pending := by
      rw [h.outbox]
      exact ⟨_, List.mem_append_right _ (List.mem_singleton.mpr rfl), rfl⟩
    obtain ⟨e, he, hpending⟩ := hrow
    have hmem := List.mem_filter.mp he
    have hin : e ∈ listUnpublished .fakes s' w.workflowId := by
      unfold listUnpublished listUnpublishedOutboxForWorkflow
      rw [List.mem_filter]
      exact ⟨hmem.1, by rw [hpending]; simpa using hmem.2⟩
    cases hl : listUnpublished .fakes s' w.workflowId with
    | nil => rw [hl] at hin; exact absurd hin (by simp)
    | cons e es => rfl

/-- A row that a scan leaves in a state with an expected task is the row it met. -/
theorem ScanView.row_of_expected {env : Env} {s s' s'' : Store} {plan : Option RepairPlan}
    {w : WorkflowRecord} {tt : TaskType} (h : ScanView env w.workflowId s s' plan)
    (hw : w ∈ s'.workflows.rows) (hexp : rowExpected s'' w = some tt) :
    w ∈ s.workflows.rows := by
  have hget := Table.get?_of_mem hw
  cases h with
  | untouched h =>
      rw [h.row] at hget
      exact Table.mem_of_get? hget
  | recreated w' tt' attempt hid h =>
      rw [← hid, h.row, hid] at hget
      exact Table.mem_of_get? hget
  | failed w' hid h =>
      obtain ⟨row, hrow, hst, -⟩ := h.row
      rw [hid, hget] at hrow
      obtain rfl := Option.some.inj hrow
      have htrans := (mem_scanStates_of_expected hexp).2
      rw [hst] at htrans
      exact absurd htrans (by decide)

/-- **A workflow that the first scan has dealt with gives the second one nothing to create.** -/
theorem quiet_row {sc : ReconciliationScanner} {cfg : AppConfig} {env₁ env₂ : ScanEnv}
    {s s₁ : Store} {w : WorkflowRecord} {tt : TaskType} (hclock : SteadyClock sc env₁ env₂ s)
    (hview : ScanView (env₁.repair w.workflowId) w.workflowId s s₁ (rowPlan sc cfg env₁ s w))
    (hw : w ∈ s₁.workflows.rows) (hexp : rowExpected s₁ w = some tt) :
    (listUnpublished .fakes s₁ w.workflowId).isEmpty = false ∧
      (sc.overdueCollected env₂ w = true → latestInFlight (rowLatest s₁ w) = true) := by
  have hrow := hview.row_of_expected hw hexp
  have htrans := (mem_scanStates_of_expected hexp).2
  cases hplan : rowPlan sc cfg env₁ s w with
  | none =>
      rw [hplan] at hview
      cases hview with
      | untouched h =>
          -- The second scan reads what the first one read, and the first one did nothing.
          have hexp' : rowExpected s w = some tt := by
            unfold rowExpected at hexp ⊢
            rwa [h.listTasks .fakes, h.listUnpublished .fakes] at hexp
          have hlatest : rowLatest s₁ w = rowLatest s w := by
            unfold rowLatest
            rw [hexp, hexp', h.listTasks .fakes]
          rw [h.listUnpublished .fakes, hlatest]
          rw [rowPlan_eq, htrans, Bool.true_and] at hplan
          have hcalm : sc.overdueCollected env₁ w = true → latestInFlight (rowLatest s w) = true := by
            intro ho
            by_contra hl
            have hthrough := hclock.steady w hrow (Or.inl ho)
            unfold overdueThroughout at hthrough
            rw [Bool.and_eq_true] at hthrough
            rw [if_pos (by simp [ho, hl]), if_pos hthrough.2] at hplan
            exact absurd hplan (by simp)
          constructor
          · by_contra hu
            rw [if_neg, if_pos (by simpa using hu), hexp'] at hplan
            · exact absurd hplan (by simp)
            · intro hst
              rw [Bool.and_eq_true, Bool.not_eq_true'] at hst
              exact absurd (hst.2.symm.trans (hcalm hst.1)) (by simp)
          · intro ho
            have hthrough := hclock.steady w hrow (Or.inr ho)
            unfold overdueThroughout at hthrough
            rw [Bool.and_eq_true] at hthrough
            exact hcalm hthrough.1
  | some plan =>
      rw [hplan] at hview
      cases hview with
      | recreated w' tt' attempt hid h =>
          obtain rfl : w' = w := rowPlan_workflow hplan
          have htt : tt' = tt :=
            rowExpected_unique (rowPlan_eq_recreate_iff.mp ⟨attempt, hplan⟩).1 hexp
          subst htt
          have hlater : ∀ t ∈ s.tasks.rows, t.workflowId = w'.workflowId →
              t.createdAt < (env₁.repair w'.workflowId).builtAt := by
            intro t ht hid
            rw [← hid]
            exact hclock.later t ht
          obtain ⟨hnew, hu⟩ := h.in_flight hlater
          refine ⟨hu, fun _ => ?_⟩
          unfold rowLatest
          rw [hexp]
          exact hnew
      | failed w' hid h =>
          obtain ⟨row, hrow', hst, -⟩ := h.row
          rw [hid, Table.get?_of_mem hw] at hrow'
          obtain rfl := Option.some.inj hrow'
          rw [hst] at htrans
          exact absurd htrans (by decide)

/-- A scan creates nothing when no candidate's plan recreates a task. -/
theorem createsNothing_of_no_recreate {sc : ReconciliationScanner} {repo : WorkflowRepoKind}
    {cfg : AppConfig} {env : ScanEnv} {batchSize : Nat} {s : Store} (hfresh : FreshScan env s)
    (hno : ∀ c ∈ sc.collectCandidates repo env.collect batchSize s, ∀ w tt attempt,
      sc.planOf repo cfg (env.inspected c.workflowId) s c ≠ some (.recreate w tt attempt)) :
    CreatesNothing sc repo cfg env batchSize s := by
  have hsame : ∀ id,
      (sc.scanAndRepair repo cfg env batchSize s).2.tasks.rows.filter (fun t => t.workflowId = id) =
          s.tasks.rows.filter (fun t => t.workflowId = id) ∧
        (sc.scanAndRepair repo cfg env batchSize s).2.outbox.rows.filter
            (fun e => e.workflowId = id) =
          s.outbox.rows.filter (fun e => e.workflowId = id) := by
    intro id
    rcases scanAndRepair_view sc repo cfg batchSize hfresh id with
      ⟨-, hsame⟩ | ⟨c, hc, rfl, hview⟩
    · exact ⟨hsame.tasks, hsame.outbox⟩
    · exact hview.tasks_of_not_recreate (hno c hc)
  constructor
  · intro t ht
    have hmem : t ∈ (sc.scanAndRepair repo cfg env batchSize s).2.tasks.rows.filter
        (fun t' => t'.workflowId = t.workflowId) := List.mem_filter.mpr ⟨ht, by simp⟩
    rw [(hsame t.workflowId).1] at hmem
    exact List.mem_of_mem_filter hmem
  · intro e he
    have hmem : e ∈ (sc.scanAndRepair repo cfg env batchSize s).2.outbox.rows.filter
        (fun e' => e'.workflowId = e.workflowId) := List.mem_filter.mpr ⟨he, by simp⟩
    rw [(hsame e.workflowId).2] at hmem
    exact List.mem_of_mem_filter hmem

/-- The second scan creates nothing. -/
theorem secondScan_createsNothing {sc : ReconciliationScanner} {repo : WorkflowRepoKind}
    {cfg : AppConfig} {env₁ env₂ : ScanEnv} {batch₁ batch₂ : Nat} {s : Store}
    (hb : liveCount s ≤ batch₁) (hclock : SteadyClock sc env₁ env₂ s) (hfresh₁ : FreshScan env₁ s)
    (hfresh₂ : FreshScan env₂ (sc.scanAndRepair repo cfg env₁ batch₁ s).2) :
    CreatesNothing sc repo cfg env₂ batch₂ (sc.scanAndRepair repo cfg env₁ batch₁ s).2 := by
  refine createsNothing_of_no_recreate hfresh₂ ?_
  intro c hc w tt attempt hp
  obtain ⟨rfl, hcw, hw, hexp, hwhy⟩ := recreate_cases hc hp
  have hrow : w ∈ s.workflows.rows := by
    rcases scanAndRepair_view sc .fakes cfg batch₁ hfresh₁ w.workflowId with
      ⟨-, hsame⟩ | ⟨c', -, -, hview⟩
    · exact ScanView.row_of_expected (.untouched hsame : ScanView (env₁.repair w.workflowId) _ _ _ _)
        hw hexp
    · exact hview.row_of_expected hw hexp
  have hview := scanAndRepair_rowPlan sc cfg hb hfresh₁ hrow (live_of_expected hexp)
  obtain ⟨hunpublished, hlatest⟩ := quiet_row hclock hview hw hexp
  rcases hwhy with hu | ⟨ho, hl⟩
  · exact absurd (hunpublished.symm.trans hu) (by simp)
  · exact absurd (hl.symm.trans (hlatest ho)) (by simp)

/-! ### Duplicates

Every created task was asked for by a row.
-/

/-- A task that a scan has created is built for the type that its row expects. -/
theorem new_task_built {sc : ReconciliationScanner} {repo : WorkflowRepoKind} {cfg : AppConfig}
    {env : ScanEnv} {batchSize : Nat} {s : Store} (hfresh : FreshScan env s) {t : TaskRecord}
    (ht : t ∈ (sc.scanAndRepair repo cfg env batchSize s).2.tasks.rows) (hnew : t ∉ s.tasks.rows) :
    repo = .fakes ∧ ∃ w ∈ s.workflows.rows, ∃ attempt, w.workflowId = t.workflowId ∧
      rowExpected s w = some t.taskType ∧
      t = (OutboxSpecBuilder.build (env.repair w.workflowId) w t.taskType
        (resolveForTask s w.workflowId t.taskType (t.taskType = .generateScenario))
        attempt).taskRecord := by
  have hmem : t ∈ (sc.scanAndRepair repo cfg env batchSize s).2.tasks.rows.filter
      (fun t' => t'.workflowId = t.workflowId) := List.mem_filter.mpr ⟨ht, by simp⟩
  rcases scanAndRepair_view sc repo cfg batchSize hfresh t.workflowId with
    ⟨-, hsame⟩ | ⟨c, hc, hid, hview⟩
  · rw [hsame.tasks] at hmem
    exact absurd (List.mem_of_mem_filter hmem) hnew
  · generalize hp : sc.planOf repo cfg (env.inspected t.workflowId) s c = plan at hview
    cases hview with
    | untouched h =>
        rw [h.tasks] at hmem
        exact absurd (List.mem_of_mem_filter hmem) hnew
    | recreated w tt attempt hwid h =>
        rw [← hid] at hp
        obtain ⟨hrepo, -, hw, hexp, -⟩ := recreate_cases hc hp
        rw [← hwid, h.tasks] at hmem
        rcases List.mem_append.mp hmem with hold | hlast
        · exact absurd (List.mem_of_mem_filter hold) hnew
        · have hbuilt := List.mem_singleton.mp hlast
          obtain rfl : t.taskType = tt := congrArg TaskRecord.taskType hbuilt
          rw [← hwid] at hbuilt
          exact ⟨hrepo, w, hw, attempt, hwid, hexp, hbuilt⟩
    | failed w hwid h =>
        rw [← hwid, h.tasks] at hmem
        exact absurd (List.mem_of_mem_filter hmem) hnew

/-- The row asks for it. -/
theorem new_task_cases {sc : ReconciliationScanner} {repo : WorkflowRepoKind} {cfg : AppConfig}
    {env : ScanEnv} {batchSize : Nat} {s : Store} (hfresh : FreshScan env s) {t : TaskRecord}
    (ht : t ∈ (sc.scanAndRepair repo cfg env batchSize s).2.tasks.rows) (hnew : t ∉ s.tasks.rows) :
    repo = .fakes ∧ ∃ w ∈ s.workflows.rows, w.workflowId = t.workflowId ∧
      rowExpected s w = some t.taskType ∧ createsTask sc cfg env s w t.taskType = true := by
  obtain ⟨rfl, w, hw, -, hwid, hexp, -⟩ := new_task_built hfresh ht hnew
  have hmem : t ∈ (sc.scanAndRepair .fakes cfg env batchSize s).2.tasks.rows.filter
      (fun t' => t'.workflowId = t.workflowId) := List.mem_filter.mpr ⟨ht, by simp⟩
  rcases scanAndRepair_rowView sc cfg batchSize hfresh hw (live_of_expected hexp) with hsame | hrow
  · rw [← hwid, hsame.tasks] at hmem
    exact absurd (List.mem_of_mem_filter hmem) hnew
  · generalize hplan : rowPlan sc cfg env s w = plan at hrow
    cases hrow with
    | untouched h =>
        rw [← hwid, h.tasks] at hmem
        exact absurd (List.mem_of_mem_filter hmem) hnew
    | recreated w' tt attempt hid h =>
        obtain rfl : w' = w := rowPlan_workflow hplan
        obtain ⟨hexp', hcreates⟩ := rowPlan_eq_recreate_iff.mp ⟨attempt, hplan⟩
        obtain rfl := Option.some.inj (hexp.symm.trans hexp')
        exact ⟨rfl, w', hw, hwid, hexp, hcreates⟩
    | failed w' hid h =>
        rw [← hwid, ← hid, h.tasks] at hmem
        exact absurd (List.mem_of_mem_filter hmem) hnew

/-- The task that a row asks for is created. -/
theorem exists_new_task {sc : ReconciliationScanner} {cfg : AppConfig} {env : ScanEnv}
    {batchSize : Nat} {s : Store} (hb : liveCount s ≤ batchSize) (hfresh : FreshScan env s)
    {w : WorkflowRecord} {tt : TaskType} (hw : w ∈ s.workflows.rows)
    (hexp : rowExpected s w = some tt) (hcreates : createsTask sc cfg env s w tt = true) :
    ∃ t ∈ (sc.scanAndRepair .fakes cfg env batchSize s).2.tasks.rows, t ∉ s.tasks.rows ∧
      t.workflowId = w.workflowId ∧ t.taskType = tt := by
  have hrecreate := (@rowPlan_eq_recreate_iff sc cfg env s w tt).mpr ⟨hexp, hcreates⟩
  obtain ⟨attempt, hplan⟩ := hrecreate
  have hview := scanAndRepair_rowPlan sc cfg hb hfresh hw (live_of_expected hexp)
  rw [hplan] at hview
  cases hview with
  | recreated w' tt' attempt' hid h =>
      have hmem : (OutboxSpecBuilder.build (env.repair w.workflowId) w tt
          (resolveForTask s w.workflowId tt (tt = .generateScenario)) attempt).taskRecord ∈
          (sc.scanAndRepair .fakes cfg env batchSize s).2.tasks.rows := by
        refine List.mem_of_mem_filter (p := fun t => t.workflowId = w.workflowId) ?_
        rw [h.tasks]
        simp
      refine ⟨_, hmem, ?_, rfl, rfl⟩
      intro hold
      have hfree := (Store.freshDispatch_iff.mp
        (hfresh.fresh w.workflowId (List.mem_map.mpr ⟨w, hw, rfl⟩))).2.1
      exact absurd ((Table.get?_of_mem hold).symm.trans hfree) (by simp)

/-- A scan of any batch duplicates no live work when no row asks for it. -/
theorem noDuplicates_of_rows {sc : ReconciliationScanner} {repo : WorkflowRepoKind} {cfg : AppConfig}
    {env : ScanEnv} {batchSize : Nat} {s : Store} (hfresh : FreshScan env s)
    (hno : repo = .fakes → ∀ w ∈ s.workflows.rows, duplicatesLive sc cfg env s w = false) :
    NoDuplicates sc repo cfg env batchSize s := by
  intro t ht hnew
  obtain ⟨hrepo, w, hw, hid, hexp, hcreates⟩ := new_task_cases hfresh ht hnew
  have hquiet := hno hrepo w hw
  unfold duplicatesLive at hquiet
  rw [hexp, Option.any_some, hid, hcreates, Bool.and_true] at hquiet
  exact hquiet

/-- **The reconciler duplicates no live work**, whatever its batch, when no row makes it recreate a
task of a type that is in flight; with a batch that holds the live workflows and a steady clock it
**duplicates no live work and is quiescent** exactly then. -/
theorem scan_quiescent_iff (sc : ReconciliationScanner) (repo : WorkflowRepoKind)
    (cfg : AppConfig) (env₁ env₂ : ScanEnv) (batch₁ batch₂ : Nat) (s : Store)
    (hfresh₁ : FreshScan env₁ s) :
    ((repo = .fakes → ∀ w ∈ s.workflows.rows, duplicatesLive sc cfg env₁ s w = false) →
        NoDuplicates sc repo cfg env₁ batch₁ s) ∧
      (liveCount s ≤ batch₁ → SteadyClock sc env₁ env₂ s →
        FreshScan env₂ (sc.scanAndRepair repo cfg env₁ batch₁ s).2 →
        ((NoDuplicates sc repo cfg env₁ batch₁ s ∧
            CreatesNothing sc repo cfg env₂ batch₂ (sc.scanAndRepair repo cfg env₁ batch₁ s).2) ↔
          (repo = .fakes → ∀ w ∈ s.workflows.rows, duplicatesLive sc cfg env₁ s w = false))) := by
  refine ⟨noDuplicates_of_rows hfresh₁, fun hb hclock hfresh₂ => ?_⟩
  constructor
  · intro h hrepo w hw
    subst hrepo
    by_contra hdup
    rw [Bool.not_eq_false] at hdup
    unfold duplicatesLive at hdup
    cases hexp : rowExpected s w with
    | none => rw [hexp] at hdup; exact absurd hdup (by simp)
    | some tt =>
        rw [hexp, Option.any_some, Bool.and_eq_true] at hdup
        obtain ⟨t, ht, hnew, hid, htt⟩ := exists_new_task hb hfresh₁ hw hexp hdup.2
        have hnone := h.1 t ht hnew
        rw [hid, htt] at hnone
        exact absurd (hnone.symm.trans hdup.1) (by simp)
  · intro hno
    exact ⟨noDuplicates_of_rows hfresh₁ hno, secondScan_createsNothing hb hclock hfresh₁ hfresh₂⟩

/-! ### A published collection -/

/-- An initiated workflow whose `COLLECT` message has been published. -/
def publishedStore : Store :=
  (markPublished 0 "outbox-0"
    (run (RepoRefinement.next .fakes .prod) {} [.initiate (Env.numbered 0 0) {}])).toOption.getD {}

/-- Its `COLLECT` task has failed. -/
def failedCollectStore : Store :=
  (updateTask 0 "task-0" .failed none none none publishedStore).toOption.getD {}

/-- The scan creates a task in place of the failed one, and the next scan creates nothing. -/
theorem failedCollectStore_quiescent :
    (liveCount failedCollectStore ≤ 100 ∧
        SteadyClock {} (ScanEnv.numbered 1 8) (ScanEnv.numbered 2 9) failedCollectStore ∧
        FreshScan (ScanEnv.numbered 1 8) failedCollectStore ∧
        FreshScan (ScanEnv.numbered 2 9)
          (scanAndRepair {} .fakes .prod (ScanEnv.numbered 1 8) 100 failedCollectStore).2) ∧
      NoDuplicates {} .fakes .prod (ScanEnv.numbered 1 8) 100 failedCollectStore ∧
      CreatesNothing {} .fakes .prod (ScanEnv.numbered 2 9) 100
        (scanAndRepair {} .fakes .prod (ScanEnv.numbered 1 8) 100 failedCollectStore).2 := by
  have hb : liveCount failedCollectStore ≤ 100 := by decide +kernel
  have hclock : SteadyClock {} (ScanEnv.numbered 1 8) (ScanEnv.numbered 2 9)
      failedCollectStore := by decide +kernel
  have hfresh₁ : FreshScan (ScanEnv.numbered 1 8) failedCollectStore := by decide +kernel
  have hfresh₂ : FreshScan (ScanEnv.numbered 2 9)
      (scanAndRepair {} .fakes .prod (ScanEnv.numbered 1 8) 100 failedCollectStore).2 := by
    decide +kernel
  refine ⟨⟨hb, hclock, hfresh₁, hfresh₂⟩, ?_⟩
  refine ((scan_quiescent_iff {} .fakes .prod _ _ 100 100 failedCollectStore hfresh₁).2 hb hclock
    hfresh₂).mpr ?_
  intro _
  decide +kernel

/-- The scan creates a second task beside the pending one, whose message is published. -/
theorem publishedStore_duplicated :
    ¬ NoDuplicates {} .fakes .prod (ScanEnv.numbered 1 8) 100 publishedStore := by
  decide +kernel

end ReconciliationScanner

end CartoonDemo
