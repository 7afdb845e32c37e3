import CartoonDemo.Api.Responses
import CartoonDemo.Library.SortBy
import CartoonDemo.Workflow.RepoReaders

/-!
# CartoonDemo.Api.Timeline

The **timeline of a workflow** as the API shows it: `assemble_timeline` merges three tables and
sorts the events by time, kind and identifier, and `map_workflow_timeline` (`api/mappers.py`) sorts
them again, by time alone. The first sort makes the order of the rows irrelevant, because no two
events have one key (`distinctKeys_timelineRows`); the second is stable and finds the events sorted.
-/

namespace CartoonDemo

open ApiTypes

/-- The text of the enum member. -/
def TimelineEventType.value : TimelineEventType → String
  | .transition => "transition"
  | .taskEnqueued => "task_enqueued"
  | .aiInvocation => "ai_invocation"

namespace ReadModelAssembler

/-- `map_timeline_event`. -/
def mapTimelineEvent (event : TimelineEvent) :
    TimelineEventResponse Time (Option TaskType) (List (String × String)) :=
  { occurredAt := event.occurredAt, eventType := event.eventType.value,
    summary := event.summary, state := none, taskType := none,
    attributes := [("stable_id", event.stableId)] }

/-- `map_workflow_timeline`. -/
def mapWorkflowTimeline (workflowId : String) (events : List TimelineEvent) :
    WorkflowTimelineResponse Time (Option TaskType) (List (String × String)) :=
  { workflowId, events := (insertBy TimelineEvent.occurredAt events).map mapTimelineEvent }

/-- The events of the rows that the repositories return. -/
def timelineRows (transitions : List WorkflowTransitionRecord) (tasks : List TaskRecord)
    (invocations : List AiInvocationRow) : List TimelineEvent :=
  transitions.map transitionEvent ++ tasks.map taskEvent ++ invocations.map invocationEvent

/-- `assemble_timeline` from the rows on. -/
def timelineOf (transitions : List WorkflowTransitionRecord) (tasks : List TaskRecord)
    (invocations : List AiInvocationRow) : List TimelineEvent :=
  insertBy sortKey (timelineRows transitions tasks invocations)

theorem assembleTimeline_eq (repo : WorkflowRepoKind) (tables : TimelineTables)
    (workflowId : String) :
    assembleTimeline repo tables workflowId =
      timelineOf (listTransitions repo tables.store workflowId)
        (ReconciliationScanner.listTasks repo tables.store workflowId)
        (listAiInvocations repo tables.invocations workflowId) := rfl

/-! ### The keys

The rows are sorted by a key that no two of them share, as long as the identifiers of each table
are distinct.
-/

section Rows

variable {transitions transitions' : List WorkflowTransitionRecord} {tasks tasks' : List TaskRecord}
  {invocations invocations' : List AiInvocationRow}

/-- The rows of each table have identifiers of their own. -/
structure DistinctIds (transitions : List WorkflowTransitionRecord) (tasks : List TaskRecord)
    (invocations : List AiInvocationRow) : Prop where
  transitions : (transitions.map WorkflowTransitionRecord.transitionId).Nodup
  tasks : (tasks.map TaskRecord.taskId).Nodup
  invocations : (invocations.map AiInvocationRow.invocationId).Nodup

theorem timelineRows_perm (htransitions : transitions.Perm transitions') (htasks : tasks.Perm tasks')
    (hinvocations : invocations.Perm invocations') :
    (timelineRows transitions tasks invocations).Perm
      (timelineRows transitions' tasks' invocations') :=
  ((htransitions.map _).append (htasks.map _)).append (hinvocations.map _)

/-- A kind and an identifier name an event. -/
def eventName (event : TimelineEvent) : TimelineEventType × String := (event.eventType, event.stableId)

theorem rank_inj {a b : TimelineEventType} (h : a.rank = b.rank) : a = b := by
  cases a <;> cases b <;> first | rfl | exact absurd h (by decide)

/-- So does its key. -/
theorem eventName_of_sortKey {a b : TimelineEvent} (h : sortKey a = sortKey b) :
    eventName a = eventName b := by
  have hkey : (a.occurredAt, toLex (a.eventType.rank, a.stableId)) =
      (b.occurredAt, toLex (b.eventType.rank, b.stableId)) := toLex.injective h
  have hname : (a.eventType.rank, a.stableId) = (b.eventType.rank, b.stableId) :=
    toLex.injective (Prod.mk.inj hkey).2
  obtain ⟨hrank, hid⟩ := Prod.mk.inj hname
  rw [eventName, eventName, rank_inj hrank, hid]

/-- The events of one table have names of their own. -/
theorem nodup_names {α : Type} {rows : List α} {event : α → TimelineEvent}
    {type : TimelineEventType} {id : α → String} (hname : ∀ row, eventName (event row) = (type, id row))
    (h : (rows.map id).Nodup) : ((rows.map event).map eventName).Nodup := by
  have heq : (rows.map event).map eventName = (rows.map id).map fun id => (type, id) := by
    simp [List.map_map, Function.comp_def, hname]
  rw [heq]
  exact h.map fun a b hab => (Prod.mk.inj hab).2

theorem nodup_eventNames (h : DistinctIds transitions tasks invocations) :
    ((timelineRows transitions tasks invocations).map eventName).Nodup := by
  rw [timelineRows, List.map_append, List.map_append]
  refine List.Nodup.append (List.Nodup.append ?_ ?_ ?_) ?_ ?_
  · exact nodup_names (fun _ => rfl) h.transitions
  · exact nodup_names (fun _ => rfl) h.tasks
  · -- a transition is no task
    intro name htransition htask
    simp only [List.mem_map] at htransition htask
    obtain ⟨-, ⟨t, -, rfl⟩, rfl⟩ := htransition
    obtain ⟨-, ⟨t', -, rfl⟩, heq⟩ := htask
    cases congrArg Prod.fst heq
  · exact nodup_names (fun _ => rfl) h.invocations
  · intro name hrow hinvocation
    simp only [List.mem_append, List.mem_map] at hrow hinvocation
    obtain ⟨-, ⟨i, -, rfl⟩, rfl⟩ := hinvocation
    rcases hrow with ⟨-, ⟨t, -, rfl⟩, heq⟩ | ⟨-, ⟨t, -, rfl⟩, heq⟩ <;> cases congrArg Prod.fst heq

/-- **No two events have one key.** -/
theorem distinctKeys_timelineRows (h : DistinctIds transitions tasks invocations) :
    DistinctKeys sortKey (timelineRows transitions tasks invocations) := by
  have hnames := List.pairwise_map.mp (nodup_eventNames h)
  exact List.pairwise_map.mpr (hnames.imp fun hne hkey => hne (eventName_of_sortKey hkey))

/-! ### The timeline -/

theorem timelineOf_perm (transitions : List WorkflowTransitionRecord) (tasks : List TaskRecord)
    (invocations : List AiInvocationRow) :
    (timelineOf transitions tasks invocations).Perm (timelineRows transitions tasks invocations) :=
  List.perm_insertionSort _ _

theorem timelineOf_pairwise (transitions : List WorkflowTransitionRecord) (tasks : List TaskRecord)
    (invocations : List AiInvocationRow) :
    (timelineOf transitions tasks invocations).Pairwise fun a b => sortKey a ≤ sortKey b :=
  insertBy_pairwise sortKey _

/-- The order of the rows makes no difference. -/
theorem timelineOf_eq_of_perm (h : DistinctIds transitions tasks invocations)
    (htransitions : transitions.Perm transitions') (htasks : tasks.Perm tasks')
    (hinvocations : invocations.Perm invocations') :
    timelineOf transitions tasks invocations = timelineOf transitions' tasks' invocations' :=
  insertBy_eq_of_perm (distinctKeys_timelineRows h)
    (timelineRows_perm htransitions htasks hinvocations)

/-- Every event of the timeline is there once. -/
theorem nodup_timelineOf (h : DistinctIds transitions tasks invocations) :
    (timelineOf transitions tasks invocations).Nodup :=
  (timelineOf_perm transitions tasks invocations).nodup_iff.mpr
    (List.Nodup.of_map _ (nodup_eventNames h))

theorem occurredAt_le_of_sortKey {a b : TimelineEvent} (h : sortKey a ≤ sortKey b) :
    a.occurredAt ≤ b.occurredAt := Prod.Lex.monotone_fst _ _ h

/-- Sorting by time finds the events of a sorted timeline in order. -/
theorem mapWorkflowTimeline_of_pairwise {workflowId : String} {events : List TimelineEvent}
    (h : events.Pairwise fun a b => sortKey a ≤ sortKey b) :
    mapWorkflowTimeline workflowId events = { workflowId, events := events.map mapTimelineEvent } := by
  have hsorted : insertBy TimelineEvent.occurredAt events = events :=
    insertBy_eq_self_iff.mpr (h.imp occurredAt_le_of_sortKey)
  rw [mapWorkflowTimeline, hsorted]

/-- Each event of a table's rows is in the timeline once. -/
theorem count_timelineOf (h : DistinctIds transitions tasks invocations) {event : TimelineEvent}
    (hmem : event ∈ timelineRows transitions tasks invocations) :
    (timelineOf transitions tasks invocations).count event = 1 :=
  List.count_eq_one_of_mem (nodup_timelineOf h) ((timelineOf_perm ..).mem_iff.mpr hmem)

/-- In a sorted timeline without repetitions the keys rise. -/
theorem timelineOf_keys_lt (h : DistinctIds transitions tasks invocations) :
    (timelineOf transitions tasks invocations).Pairwise fun a b => sortKey a < sortKey b := by
  have hkeys : DistinctKeys sortKey (timelineOf transitions tasks invocations) :=
    (distinctKeys_timelineRows h).perm (timelineOf_perm transitions tasks invocations).symm
  have hboth := (timelineOf_pairwise transitions tasks invocations).and (List.pairwise_map.mp hkeys)
  exact hboth.imp fun hab => lt_of_le_of_ne hab.1 hab.2

end Rows

/-! ### The stored rows -/

/-- The tasks of a workflow, as they are stored. -/
def storedTasks (s : Store) (workflowId : String) : List TaskRecord :=
  s.tasks.rows.filter fun t => t.workflowId = workflowId

/-- The invocations of one workflow. -/
def storedInvocations (tables : TimelineTables) (workflowId : String) : List AiInvocationRow :=
  tables.invocations.filter fun inv => inv.workflowId = workflowId

/-- Over a repository that lists tasks, a timeline is made of the stored rows, in any order. -/
theorem assembleTimeline_of_perm {tables : TimelineTables} {workflowId : String}
    (h : DistinctIds (tables.store.history workflowId) (storedTasks tables.store workflowId)
      (storedInvocations tables workflowId))
    {transitions : List WorkflowTransitionRecord} {tasks : List TaskRecord}
    {invocations : List AiInvocationRow}
    (htransitions : transitions.Perm (tables.store.history workflowId))
    (htasks : tasks.Perm (storedTasks tables.store workflowId))
    (hinvocations : invocations.Perm (storedInvocations tables workflowId)) :
    assembleTimeline .fakes tables workflowId = timelineOf transitions tasks invocations := by
  have hlisted : assembleTimeline .fakes tables workflowId =
      timelineOf (tables.store.history workflowId) (storedTasks tables.store workflowId)
        (storedInvocations tables workflowId) := by
    rw [assembleTimeline_eq]
    refine (timelineOf_eq_of_perm h ?_ ?_ ?_).symm
    · exact (listTransitions_perm .fakes tables.store workflowId).symm
    · exact (List.perm_insertionSort _ _).symm
    · exact (listAiInvocations_perm .fakes tables.invocations workflowId).symm
  rw [hlisted]
  exact timelineOf_eq_of_perm h htransitions.symm htasks.symm hinvocations.symm

/-- **The timeline is complete and stable.** Where the rows of each table have identifiers of their
own, the timeline has one event for each row and no other, its keys rise, it is the same whatever
order the repositories return the rows in, and the API shows it in its order. -/
theorem timeline_complete_and_stable (tables : TimelineTables) (workflowId : String)
    (h : DistinctIds (tables.store.history workflowId) (storedTasks tables.store workflowId)
      (storedInvocations tables workflowId)) :
    -- complete
    (∀ row ∈ tables.store.history workflowId,
      (assembleTimeline .fakes tables workflowId).count (transitionEvent row) = 1) ∧
    (∀ row ∈ storedTasks tables.store workflowId,
      (assembleTimeline .fakes tables workflowId).count (taskEvent row) = 1) ∧
    (∀ row ∈ storedInvocations tables workflowId,
      (assembleTimeline .fakes tables workflowId).count (invocationEvent row) = 1) ∧
    (assembleTimeline .fakes tables workflowId).length =
      (tables.store.history workflowId).length + (storedTasks tables.store workflowId).length +
        (storedInvocations tables workflowId).length ∧
    -- sorted
    (assembleTimeline .fakes tables workflowId).Pairwise (fun a b => sortKey a < sortKey b) ∧
    -- stable
    (∀ (transitions : List WorkflowTransitionRecord) (tasks : List TaskRecord)
        (invocations : List AiInvocationRow),
      transitions.Perm (tables.store.history workflowId) →
      tasks.Perm (storedTasks tables.store workflowId) →
      invocations.Perm (storedInvocations tables workflowId) →
        timelineOf transitions tasks invocations = assembleTimeline .fakes tables workflowId) ∧
    -- shown in order
    (mapWorkflowTimeline workflowId (assembleTimeline .fakes tables workflowId)).events =
      (assembleTimeline .fakes tables workflowId).map mapTimelineEvent := by
  have hlisted := assembleTimeline_of_perm h (List.Perm.refl _) (List.Perm.refl _) (List.Perm.refl _)
  refine ⟨?_, ?_, ?_, ?_, ?_, ?_, ?_⟩
  · intro row hrow
    rw [hlisted]
    refine count_timelineOf h ?_
    simp only [timelineRows, List.mem_append]
    exact Or.inl (Or.inl (List.mem_map_of_mem hrow))
  · intro row hrow
    rw [hlisted]
    refine count_timelineOf h ?_
    simp only [timelineRows, List.mem_append]
    exact Or.inl (Or.inr (List.mem_map_of_mem hrow))
  · intro row hrow
    rw [hlisted]
    refine count_timelineOf h ?_
    simp only [timelineRows, List.mem_append]
    exact Or.inr (List.mem_map_of_mem hrow)
  · rw [hlisted, (timelineOf_perm ..).length_eq]
    simp only [timelineRows, List.length_append, List.length_map]
  · rw [hlisted]
    exact timelineOf_keys_lt h
  · intro transitions tasks invocations htransitions htasks hinvocations
    exact (assembleTimeline_of_perm h htransitions htasks hinvocations).symm
  · rw [mapWorkflowTimeline_of_pairwise (assembleTimeline_eq .. ▸ timelineOf_pairwise ..)]

/-- Two transitions of one clock reading, appended out of the order of their identifiers. -/
def tiedTables : TimelineTables where
  store :=
    { transitions :=
        [{ transitionId := "t-2", workflowId := "wf", fromState := .created, toState := .collecting,
           reason := "workflow_initiated", occurredAt := 0 },
         { transitionId := "t-1", workflowId := "wf", fromState := .collecting,
           toState := .collected, reason := "stage_completed", occurredAt := 0 }] }

theorem timeline_complete_and_stable_tied :
    timelineOf (tiedTables.store.history "wf").reverse [] [] =
        assembleTimeline .fakes tiedTables "wf" ∧
      (mapWorkflowTimeline "wf" (assembleTimeline .fakes tiedTables "wf")).events =
        (assembleTimeline .fakes tiedTables "wf").map mapTimelineEvent := by
  have h := timeline_complete_and_stable tiedTables "wf"
    ⟨by decide +kernel, by decide +kernel, by decide +kernel⟩
  obtain ⟨-, -, -, -, -, hstable, hshown⟩ := h
  exact ⟨hstable _ _ _ (List.reverse_perm _) (List.Perm.refl []) (List.Perm.refl []), hshown⟩

end ReadModelAssembler

end CartoonDemo
