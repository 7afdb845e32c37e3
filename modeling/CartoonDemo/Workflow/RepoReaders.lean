import Mathlib.Data.Prod.Lex
import Mathlib.Data.String.Basic
import CartoonDemo.Workflow.ReconcileLive

/-!
# CartoonDemo.Workflow.RepoReaders

**Two readers over two repositories.** `collect_candidates` of the scanner and
`assemble_timeline` of the read model (`workflow/read_models.py`) ask their repositories for
listing methods with `getattr` and go on without those that are missing. The repositories of
`workflow.fakes` have all of them, those of `persistence.repos` only some.

Row order is part of a `Store`, so one store fixes the order in which either repository
returns rows of equal sort keys. What PostgreSQL does not see is exactly what the listings of
the in-memory repositories would have shown: every candidate except `RP-004`, and every task.
-/

namespace CartoonDemo

/-! ### The timeline

The same read model over both repositories; they may return rows of one time in different orders.
-/

def InvocationStatus.value : InvocationStatus → String
  | success => "SUCCESS"
  | validationFailed => "VALIDATION_FAILED"
  | providerError => "PROVIDER_ERROR"
  | timeout => "TIMEOUT"

/-- A row of `ai_invocations`, with the two columns that only the timeline reads. -/
structure AiInvocationRow extends AiInvocationRecord where
  invocationId : String
  startedAt : Time
  deriving DecidableEq, Repr

/-- The tables that the timeline reads. -/
structure TimelineTables where
  store : Store := {}
  invocations : List AiInvocationRow := []

/-- `event_type`. -/
inductive TimelineEventType
  | transition | taskEnqueued | aiInvocation
  deriving DecidableEq, Repr

/-- `_EVENT_TYPE_RANK`. -/
def TimelineEventType.rank : TimelineEventType → Nat
  | .transition => 0
  | .taskEnqueued => 1
  | .aiInvocation => 2

/-- `TimelineEvent`; its `state` and `task_type` stay `None`. -/
structure TimelineEvent where
  occurredAt : Time
  eventType : TimelineEventType
  summary : String
  /-- `attributes["stable_id"]`. -/
  stableId : String
  deriving DecidableEq, Repr

/-- `list_transitions`: the in-memory repository breaks ties by `transition_id`, PostgreSQL by
the serial `id`. -/
def listTransitions (repo : WorkflowRepoKind) (s : Store) (workflowId : String) :
    List WorkflowTransitionRecord :=
  match repo with
  | .fakes =>
      (s.history workflowId).insertionSort
        (fun a b => toLex (a.occurredAt, a.transitionId) ≤ toLex (b.occurredAt, b.transitionId))
  | .postgres => (s.history workflowId).insertionSort (fun a b => a.occurredAt ≤ b.occurredAt)

/-- `list_ai_invocations`. -/
def listAiInvocations (repo : WorkflowRepoKind) (rows : List AiInvocationRow)
    (workflowId : String) : List AiInvocationRow :=
  let rows := rows.filter (fun inv => inv.workflowId = workflowId)
  match repo with
  | .fakes => rows
  | .postgres => rows.insertionSort (fun a b => a.startedAt ≤ b.startedAt)

namespace ReadModelAssembler

def transitionEvent (row : WorkflowTransitionRecord) : TimelineEvent :=
  { occurredAt := row.occurredAt, eventType := .transition,
    summary := row.fromState.value ++ " → " ++ row.toState.value ++ ": " ++ row.reason,
    stableId := row.transitionId }

def taskEvent (row : TaskRecord) : TimelineEvent :=
  { occurredAt := row.createdAt, eventType := .taskEnqueued,
    summary := row.taskType.value ++ " attempt " ++ toString row.attempt,
    stableId := row.taskId }

def invocationEvent (row : AiInvocationRow) : TimelineEvent :=
  { occurredAt := row.startedAt, eventType := .aiInvocation,
    summary := row.agentName ++ " " ++ row.status.value,
    stableId := row.invocationId }

/-- `sort_key`. -/
def sortKey (event : TimelineEvent) : Lex (Time × Lex (Nat × String)) :=
  toLex (event.occurredAt, toLex (event.eventType.rank, event.stableId))

/-- The events before they are sorted. `list_tasks_for_workflow` is asked for with `getattr`,
as the scanner does. -/
def timelineEvents (repo : WorkflowRepoKind) (tables : TimelineTables) (workflowId : String) :
    List TimelineEvent :=
  (listTransitions repo tables.store workflowId).map transitionEvent ++
    (ReconciliationScanner.listTasks repo tables.store workflowId).map taskEvent ++
    (listAiInvocations repo tables.invocations workflowId).map invocationEvent

/-- `assemble_timeline`. -/
def assembleTimeline (repo : WorkflowRepoKind) (tables : TimelineTables) (workflowId : String) :
    List TimelineEvent :=
  (timelineEvents repo tables workflowId).insertionSort (fun a b => sortKey a ≤ sortKey b)

/-- The same events in the same order, except among events of equal sort keys. -/
def SameUpToTies (events events' : List TimelineEvent) : Prop :=
  events.Perm events' ∧ events.map sortKey = events'.map sortKey

theorem assembleTimeline_perm (repo : WorkflowRepoKind) (tables : TimelineTables)
    (workflowId : String) :
    (assembleTimeline repo tables workflowId).Perm (timelineEvents repo tables workflowId) :=
  List.perm_insertionSort _ _

/-- A timeline is sorted by its keys. -/
theorem assembleTimeline_keys_sorted (repo : WorkflowRepoKind) (tables : TimelineTables)
    (workflowId : String) :
    ((assembleTimeline repo tables workflowId).map sortKey).Pairwise (· ≤ ·) := by
  have hsorted := List.pairwise_insertionSort (fun a b => sortKey a ≤ sortKey b)
    (timelineEvents repo tables workflowId)
  exact List.pairwise_map.mpr hsorted

/-- So timelines with the same events are the same up to ties. -/
theorem sameUpToTies_of_perm {repo repo' : WorkflowRepoKind} {tables : TimelineTables}
    {workflowId : String}
    (h : (timelineEvents repo tables workflowId).Perm (timelineEvents repo' tables workflowId)) :
    SameUpToTies (assembleTimeline repo tables workflowId)
      (assembleTimeline repo' tables workflowId) := by
  have hperm : (assembleTimeline repo tables workflowId).Perm
      (assembleTimeline repo' tables workflowId) :=
    (assembleTimeline_perm ..).trans (h.trans (assembleTimeline_perm ..).symm)
  refine ⟨hperm, ?_⟩
  exact (hperm.map sortKey).eq_of_pairwise' (assembleTimeline_keys_sorted ..)
    (assembleTimeline_keys_sorted ..)

theorem listTransitions_perm (repo : WorkflowRepoKind) (s : Store) (workflowId : String) :
    (listTransitions repo s workflowId).Perm (s.history workflowId) := by
  cases repo with
  | fakes => exact List.perm_insertionSort _ _
  | postgres => exact List.perm_insertionSort _ _

theorem listAiInvocations_perm (repo : WorkflowRepoKind) (rows : List AiInvocationRow)
    (workflowId : String) :
    (listAiInvocations repo rows workflowId).Perm
      (rows.filter (fun inv => inv.workflowId = workflowId)) := by
  cases repo with
  | fakes => exact List.Perm.refl _
  | postgres => exact List.perm_insertionSort _ _

/-- No row of `tasks` belongs to the workflow. -/
def NoTasks (s : Store) (workflowId : String) : Prop :=
  ∀ t ∈ s.tasks.rows, t.workflowId ≠ workflowId

theorem listTasks_fakes_eq_nil_iff {s : Store} {workflowId : String} :
    ReconciliationScanner.listTasks .fakes s workflowId = [] ↔ NoTasks s workflowId := by
  show listTasksForWorkflow s workflowId = [] ↔ NoTasks s workflowId
  unfold listTasksForWorkflow NoTasks
  rw [← List.length_eq_zero_iff, List.length_insertionSort, List.length_eq_zero_iff,
    List.filter_eq_nil_iff]
  simp

/-- **The timelines agree on a workflow that has no tasks**, and on no other. -/
theorem timeline_perm_iff (tables : TimelineTables) (workflowId : String) :
    (assembleTimeline .postgres tables workflowId).Perm
        (assembleTimeline .fakes tables workflowId) ↔
      NoTasks tables.store workflowId := by
  rw [← listTasks_fakes_eq_nil_iff]
  have htr := (listTransitions_perm .postgres tables.store workflowId).trans
    (listTransitions_perm .fakes tables.store workflowId).symm
  have hinv := (listAiInvocations_perm .postgres tables.invocations workflowId).trans
    (listAiInvocations_perm .fakes tables.invocations workflowId).symm
  constructor
  · intro hperm
    -- every task of the in-memory timeline is an event too many
    have hevents := ((assembleTimeline_perm ..).symm.trans hperm).trans
      (assembleTimeline_perm .fakes tables workflowId)
    have hlen := hevents.length_eq
    simp only [timelineEvents, List.length_append, List.length_map, htr.length_eq,
      hinv.length_eq, ReconciliationScanner.listTasks, List.length_nil] at hlen
    rw [← List.length_eq_zero_iff]
    show (listTasksForWorkflow tables.store workflowId).length = 0
    omega
  · intro hnil
    refine (sameUpToTies_of_perm ?_).1
    unfold timelineEvents
    rw [hnil]
    exact ((htr.map _).append_right _).append (hinv.map _)

theorem timeline_sameUpToTies {tables : TimelineTables} {workflowId : String}
    (h : NoTasks tables.store workflowId) :
    SameUpToTies (assembleTimeline .postgres tables workflowId)
      (assembleTimeline .fakes tables workflowId) := by
  have hperm := (timeline_perm_iff tables workflowId).mpr h
  exact sameUpToTies_of_perm (((assembleTimeline_perm ..).symm.trans hperm).trans
    (assembleTimeline_perm ..))

end ReadModelAssembler

/-! ### The candidates

The repository without the listings has no candidates but those of terminal workflows.
-/

namespace ReconciliationScanner

open ReadModelAssembler

variable {sc : ReconciliationScanner} {clock : CollectClock} {batchSize : Nat} {s : Store}

/-- Over PostgreSQL only the loop over the unpublished entries finds anything. -/
theorem collectCandidates_postgres :
    sc.collectCandidates .postgres clock batchSize s =
      (dedupeCandidates ((fetchUnpublished s batchSize).foldl (terminalStep s) [])).take
        batchSize := by
  have hstuck : sc.stuckCandidates .postgres clock batchSize s = [] := by
    refine List.flatMap_eq_nil_iff.mpr fun state _ => ?_
    cases sc.thresholdFor state with
    | none => rfl
    | some threshold => rfl
  unfold collectCandidates
  rw [hstuck]
  rfl

/-- The candidates that the two listing loops find. -/
def listedCandidates (sc : ReconciliationScanner) (clock : CollectClock) (batchSize : Nat)
    (s : Store) : List ReconciliationCandidate :=
  sc.stuckCandidates .fakes clock batchSize s ++ outboxCandidates .fakes batchSize s

/-- A candidate from the listings has a row that is not terminal. -/
theorem listedCandidates_live {c : ReconciliationCandidate}
    (h : c ∈ sc.listedCandidates clock batchSize s) :
    s.workflows.get? c.workflowId = some c.workflow ∧ c.workflow.state.isTerminal = false := by
  have hcollected : ∃ row ∈ s.workflows.rows, row.state.isTerminal = false ∧
      c.workflow = row := by
    rcases List.mem_append.mp h with hc | hc
    · obtain ⟨state, -, hc⟩ := List.mem_flatMap.mp hc
      cases hth : sc.thresholdFor state with
      | none => rw [hth] at hc; exact absurd hc (by simp)
      | some threshold =>
          rw [hth] at hc
          obtain ⟨row, hrow, hcand⟩ := List.mem_filterMap.mp hc
          obtain ⟨-, hmem, -, hlive, -⟩ := mem_listWorkflows hrow
          exact ⟨row, hmem, hlive, by rw [rp003Candidate_eq_some hcand]; rfl⟩
    · obtain ⟨row, hrow, hcand⟩ := List.mem_filterMap.mp hc
      obtain ⟨-, hmem, -, hlive, -⟩ := mem_listWorkflows hrow
      refine ⟨row, hmem, hlive, ?_⟩
      rcases outboxCandidate_eq_some hcand with rfl | ⟨tt, rfl⟩
      · rfl
      · rfl
  obtain ⟨row, hrow, hlive, hw⟩ := hcollected
  unfold ReconciliationCandidate.workflowId
  rw [hw]
  exact ⟨Table.get?_of_mem hrow, hlive⟩

theorem listedCandidates_zero : sc.listedCandidates clock 0 s = [] := by
  have hlist : ∀ states before, listWorkflows .fakes s states before 0 = [] := by
    intro states before
    simp [listWorkflows, listWorkflowsForReconciliation]
  unfold listedCandidates outboxCandidates stuckCandidates
  rw [hlist]
  refine List.append_eq_nil_iff.mpr ⟨List.flatMap_eq_nil_iff.mpr fun state _ => ?_, rfl⟩
  cases sc.thresholdFor state with
  | none => rfl
  | some threshold => dsimp only; rw [hlist]; rfl

/-- The first candidate of the listings survives deduplication and the cut, in some form. -/
theorem exists_mem_collectCandidates {a : ReconciliationCandidate}
    {rest : List ReconciliationCandidate}
    (h : sc.listedCandidates clock batchSize s = a :: rest) :
    ∃ c ∈ sc.collectCandidates .fakes clock batchSize s, c.workflowId = a.workflowId := by
  have hpos : 0 < batchSize := by
    rcases Nat.eq_zero_or_pos batchSize with rfl | hpos
    · rw [listedCandidates_zero] at h
      exact absurd h (by simp)
    · exact hpos
  obtain ⟨extra, hextra, -⟩ := foldl_terminalStep s (fetchUnpublished s batchSize)
    (sc.listedCandidates clock batchSize s)
  have hcollect : sc.collectCandidates .fakes clock batchSize s =
      (dedupeCandidates (a :: (rest ++ extra))).take batchSize := by
    show (dedupeCandidates ((fetchUnpublished s batchSize).foldl (terminalStep s)
      (sc.listedCandidates clock batchSize s))).take batchSize = _
    rw [hextra, h, List.cons_append]
  -- the dictionary starts with the first candidate, and known workflows keep their place
  have hids : [a.workflowId] <+: (dedupeCandidates (a :: (rest ++ extra))).map
      ReconciliationCandidate.workflowId :=
    foldl_dedupeStep_ids (dedupeStep Table.empty a) (rest ++ extra)
  rw [hcollect]
  cases hd : dedupeCandidates (a :: (rest ++ extra)) with
  | nil => rw [hd] at hids; exact absurd hids (by simp)
  | cons c cs =>
      rw [hd, List.map_cons, List.cons_prefix_cons] at hids
      refine ⟨c, ?_, hids.1.symm⟩
      obtain ⟨n, rfl⟩ : ∃ n, batchSize = n + 1 := ⟨batchSize - 1, by omega⟩
      rw [List.take_succ_cons]
      exact List.mem_cons_self

theorem collectCandidates_eq_of_listed (h : sc.listedCandidates clock batchSize s = []) :
    sc.collectCandidates .postgres clock batchSize s =
      sc.collectCandidates .fakes clock batchSize s := by
  have heq : sc.collectCandidates .fakes clock batchSize s =
      (dedupeCandidates ((fetchUnpublished s batchSize).foldl (terminalStep s)
        (sc.listedCandidates clock batchSize s))).take batchSize := rfl
  rw [collectCandidates_postgres, heq, h]

/-- **PostgreSQL sees the candidates if the listings have none to show**, and otherwise not. -/
theorem collectCandidates_perm_iff :
    (sc.collectCandidates .postgres clock batchSize s).Perm
        (sc.collectCandidates .fakes clock batchSize s) ↔
      sc.listedCandidates clock batchSize s = [] := by
  constructor
  · intro hperm
    cases hl : sc.listedCandidates clock batchSize s with
    | nil => rfl
    | cons a rest =>
        exfalso
        obtain ⟨c, hc, hid⟩ := exists_mem_collectCandidates hl
        obtain ⟨hstored, hlive⟩ := listedCandidates_live (hl ▸ List.mem_cons_self)
        have hc' := hperm.mem_iff.mpr hc
        have hsound := (collectCandidates_sound hc').current
        rw [hid, hstored] at hsound
        obtain ⟨row, -, hcoll⟩ := collectCandidates_collected hc'
        -- what PostgreSQL collects is terminal, what the listings show is not
        cases hcoll with
        | stuck c hrepo => exact absurd hrepo (by simp)
        | outbox c hrepo => exact absurd hrepo (by simp)
        | terminal ht =>
            rw [Option.some.inj hsound] at hlive
            have hlive : row.state.isTerminal = false := hlive
            rw [ht] at hlive
            exact absurd hlive (by simp)
  · intro hl
    rw [collectCandidates_eq_of_listed hl]

/-! ### When both readers agree -/

/-- What neither reader misses over PostgreSQL: among the rows that the listings of the
in-memory repository return for this batch, none is stuck, and every row in a scanned state is
in `GENERATING_SCENARIO` with nothing to publish and no idle generation task; and the workflow
of the timeline has no tasks. -/
structure NothingUnseen (sc : ReconciliationScanner) (clock : CollectClock) (batchSize : Nat)
    (s : Store) (workflowId : String) : Prop where
  stuck : ∀ state ∈ transientStates, ∀ threshold ∈ sc.thresholdFor state,
    ∀ w ∈ listWorkflowsForReconciliation s [state] (some (clock.listed - threshold)) batchSize,
      sc.isStuck (clock.evaluated w.workflowId) w (rowLatest s w) = false
  scanned : ∀ w ∈ listWorkflowsForReconciliation s scanStates none batchSize,
    w.state = .generatingScenario ∧ listUnpublishedOutboxForWorkflow s w.workflowId = [] ∧
      (latestTaskOfType (listTasksForWorkflow s w.workflowId) .generateScenario).all
        (fun t => t.status.inFlight) = true
  tasks : NoTasks s workflowId

theorem stuckCandidates_eq_nil_iff :
    sc.stuckCandidates .fakes clock batchSize s = [] ↔
      ∀ state ∈ transientStates, ∀ threshold ∈ sc.thresholdFor state,
        ∀ w ∈ listWorkflowsForReconciliation s [state] (some (clock.listed - threshold))
          batchSize, sc.isStuck (clock.evaluated w.workflowId) w (rowLatest s w) = false := by
  have hrow : ∀ w, sc.rp003Candidate .fakes clock s w = none ↔
      sc.isStuck (clock.evaluated w.workflowId) w (rowLatest s w) = false := by
    intro w
    have hdef : sc.rp003Candidate .fakes clock s w =
        if sc.isStuck (clock.evaluated w.workflowId) w (rowLatest s w) then
          some (.rp003 w (rowExpected s w)) else none := rfl
    rw [hdef]
    cases sc.isStuck (clock.evaluated w.workflowId) w (rowLatest s w) <;> simp
  unfold stuckCandidates
  rw [List.flatMap_eq_nil_iff]
  constructor
  · intro h state hstate threshold hth w hw
    have hnil := h state (sc.isOrder.mem_iff.mpr hstate)
    rw [Option.mem_def.mp hth] at hnil
    exact (hrow w).mp (List.filterMap_eq_nil_iff.mp hnil w hw)
  · intro h state hstate
    cases hth : sc.thresholdFor state with
    | none => rfl
    | some threshold =>
        refine List.filterMap_eq_nil_iff.mpr fun w hw => ?_
        exact (hrow w).mpr (h state (sc.isOrder.mem_iff.mp hstate) threshold hth w hw)

/-- A row in a scanned state yields no candidate: it waits for a generation in flight. -/
theorem outboxCandidate_eq_none_iff {w : WorkflowRecord} (hst : w.state ∈ scanStates) :
    outboxCandidate .fakes s w = none ↔
      w.state = .generatingScenario ∧ listUnpublishedOutboxForWorkflow s w.workflowId = [] ∧
        (latestTaskOfType (listTasksForWorkflow s w.workflowId) .generateScenario).all
          (fun t => t.status.inFlight) = true := by
  rw [outboxCandidate_fakes hst]
  have hun : listUnpublished .fakes s w.workflowId =
      listUnpublishedOutboxForWorkflow s w.workflowId := rfl
  rw [hun]
  cases hl : listUnpublishedOutboxForWorkflow s w.workflowId with
  | cons e es => simp
  | nil =>
      have hexp : rowExpected s w = rp001ExpectedTask w
          (listTasksForWorkflow s w.workflowId) [] := by
        unfold rowExpected
        rw [hun, hl]
        rfl
      rw [hexp]
      unfold rp001ExpectedTask
      by_cases hgen : w.state = .generatingScenario
      · rw [if_neg (not_not.mpr hgen)]
        cases latestTaskOfType (listTasksForWorkflow s w.workflowId) .generateScenario with
        | none => simp [hgen]
        | some t => cases ht : t.status.inFlight <;> simp [hgen, ht, hasUnpublished]
      · rw [if_pos hgen]
        revert hst hgen
        cases w.state <;> simp [scanStates, expectedOutboxTask]

theorem outboxCandidates_eq_nil_iff :
    outboxCandidates .fakes batchSize s = [] ↔
      ∀ w ∈ listWorkflowsForReconciliation s scanStates none batchSize,
        w.state = .generatingScenario ∧ listUnpublishedOutboxForWorkflow s w.workflowId = [] ∧
          (latestTaskOfType (listTasksForWorkflow s w.workflowId) .generateScenario).all
            (fun t => t.status.inFlight) = true := by
  unfold outboxCandidates
  rw [List.filterMap_eq_nil_iff]
  refine forall₂_congr fun w hw => ?_
  exact outboxCandidate_eq_none_iff (mem_listWorkflowsForReconciliation hw).2.1

theorem nothingUnseen_iff {workflowId : String} :
    NothingUnseen sc clock batchSize s workflowId ↔
      sc.listedCandidates clock batchSize s = [] ∧ NoTasks s workflowId := by
  unfold listedCandidates
  rw [List.append_eq_nil_iff, stuckCandidates_eq_nil_iff, outboxCandidates_eq_nil_iff]
  constructor
  · intro h
    exact ⟨⟨h.stuck, h.scanned⟩, h.tasks⟩
  · intro h
    exact ⟨h.1.1, h.1.2, h.2⟩

/-- Both readers return the same over either kind of repository. -/
structure ReadersAgree (sc : ReconciliationScanner) (clock : CollectClock) (batchSize : Nat)
    (tables : TimelineTables) (workflowId : String) : Prop where
  candidates : sc.collectCandidates .postgres clock batchSize tables.store =
    sc.collectCandidates .fakes clock batchSize tables.store
  timeline : SameUpToTies (assembleTimeline .postgres tables workflowId)
    (assembleTimeline .fakes tables workflowId)

/-- Both readers return the same candidates and events, in whatever order. -/
structure ReadersAgreeUpToOrder (sc : ReconciliationScanner) (clock : CollectClock)
    (batchSize : Nat) (tables : TimelineTables) (workflowId : String) : Prop where
  candidates : (sc.collectCandidates .postgres clock batchSize tables.store).Perm
    (sc.collectCandidates .fakes clock batchSize tables.store)
  timeline : (assembleTimeline .postgres tables workflowId).Perm
    (assembleTimeline .fakes tables workflowId)

/-- **Production sees the world of the tests exactly when there is nothing it misses**: no
candidate that needs a listing, and no task. Leaving the order open does not help. -/
theorem readers_agree_iff (sc : ReconciliationScanner) (clock : CollectClock) (batchSize : Nat)
    (tables : TimelineTables) (workflowId : String) :
    (ReadersAgree sc clock batchSize tables workflowId ↔
        NothingUnseen sc clock batchSize tables.store workflowId) ∧
      (ReadersAgreeUpToOrder sc clock batchSize tables workflowId ↔
        NothingUnseen sc clock batchSize tables.store workflowId) := by
  rw [nothingUnseen_iff]
  refine ⟨⟨fun h => ?_, fun h => ?_⟩, ⟨fun h => ?_, fun h => ?_⟩⟩
  · have hperm := List.Perm.of_eq h.candidates
    exact ⟨collectCandidates_perm_iff.mp hperm, (timeline_perm_iff ..).mp h.timeline.1⟩
  · exact ⟨collectCandidates_eq_of_listed h.1, timeline_sameUpToTies h.2⟩
  · exact ⟨collectCandidates_perm_iff.mp h.candidates, (timeline_perm_iff ..).mp h.timeline⟩
  · exact ⟨collectCandidates_perm_iff.mpr h.1, (timeline_perm_iff ..).mpr h.2⟩

/-- A workflow that has been collecting for a day, with its one task. -/
def strandedTables : TimelineTables where
  store :=
    { workflows := Table.empty.upsert
        { workflowId := "wf", state := .collecting, stateVersion := 2, createdAt := 0,
          updatedAt := 0 }
      tasks := Table.empty.upsert
        { taskId := "task", workflowId := "wf", taskType := .collect, attempt := 1,
          status := .failed, payloadReference := { refId := "task", refKind := taskPayloadRefKind },
          idempotencyKey := "wf:COLLECT:1", createdAt := 0, updatedAt := 0 } }

/-- The in-memory readers report the stuck workflow and its task; PostgreSQL neither. -/
theorem stranded_unseen :
    let clock : CollectClock :=
      { listed := seconds 86400, evaluated := fun _ => seconds 86400 }
    let sc : ReconciliationScanner := {}
    (sc.collectCandidates .fakes clock 10 strandedTables.store).map
        ReconciliationCandidate.patternId = [.rp003] ∧
      sc.collectCandidates .postgres clock 10 strandedTables.store = [] ∧
      (assembleTimeline .fakes strandedTables "wf").length = 1 ∧
      assembleTimeline .postgres strandedTables "wf" = [] ∧
      ¬ ReadersAgreeUpToOrder sc clock 10 strandedTables "wf" := by
  refine ⟨by decide +kernel, by decide +kernel, by decide +kernel, by decide +kernel, ?_⟩
  intro h
  exact absurd h.timeline.length_eq (by decide +kernel)

end ReconciliationScanner

end CartoonDemo
