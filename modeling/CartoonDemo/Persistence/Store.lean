import CartoonDemo.Types
import Mathlib.Data.List.Sort

/-!
# CartoonDemo.Persistence.Store

The **database** and the repository operations on it (`persistence/repos`,
`workflow/fakes`, `migrations/persistence/001_initial.sql`).

A `Store` is the content of the tables. An operation that can raise returns `Except`, and
an error carries no store: operations run inside `transaction_manager.transaction()`,
whose rollback discards every write made before the exception.

The two workflow repositories differ in how they update and create workflow rows and in
which listing methods they have, so those operations exist once per repository
(`Fakes.…`, `Postgres.…`) and the code that is handed a repository by dependency injection
takes a `WorkflowRepoKind`. Identifiers drawn from `uuid4` are arguments; collisions
between them are not modelled.
-/

namespace CartoonDemo

/-- The content of the tables. -/
structure Store where
  workflows : Table WorkflowRecord.workflowId := Table.empty
  /-- `workflow_transitions`, in `id` order. -/
  transitions : List WorkflowTransitionRecord := []
  tasks : Table TaskRecord.taskId := Table.empty
  payloads : Table TaskPayloadRow.refId := Table.empty
  outbox : Table OutboxEntry.outboxId := Table.empty
  artifacts : Table ArtifactRecord.artifactId := Table.empty
  contents : Table ArtifactContentRow.artifactId := Table.empty
  idempotency : Table IdempotencyRecord.idempotencyKey := Table.empty
  /-- `task_leases`, keyed by the unique index on `task_id`. -/
  leases : Table TaskLease.taskId := Table.empty
  aiInvocations : List AiInvocationRecord := []
  deriving DecidableEq

/-- Which workflow repository the engine was given. -/
inductive WorkflowRepoKind
  /-- `workflow.fakes.InMemoryWorkflowRepo`. -/
  | fakes
  /-- `persistence.repos.PostgresWorkflowRepo`. -/
  | postgres
  deriving DecidableEq, Repr

/-- The message both repositories raise on a version mismatch. -/
def updateConflictMessage (workflowId : String) : String :=
  "Persistence conflict error during update_workflow_state for entity " ++ workflowId

/-- The message of a missing workflow row. -/
def workflowNotFoundMessage (workflowId : String) : String :=
  "Workflow " ++ workflowId ++ " not found"

/-! ### Workflow rows

The repository in memory writes a new row over an old one, where an `INSERT` fails; and it alone takes
a `revision_count`.
-/

/-- `get_workflow`. -/
def getWorkflow (s : Store) (workflowId : String) : Option WorkflowRecord :=
  s.workflows.get? workflowId

/-- The row both repositories build for a new workflow. -/
def newWorkflow (now : Time) (workflowId : String) : WorkflowRecord :=
  { workflowId := workflowId, state := .created, stateVersion := 1,
    createdAt := now, updatedAt := now, revisionCount := 0, failureReason := none }

namespace Fakes

/-- `InMemoryWorkflowRepo.create_workflow`: a dictionary write. -/
def createWorkflow (now : Time) (workflowId : String) (s : Store) :
    Except PyException (WorkflowRecord × Store) :=
  let record := newWorkflow now workflowId
  .ok (record, { s with workflows := s.workflows.upsert record })

/-- `InMemoryWorkflowRepo.update_workflow_state`. -/
def updateWorkflowState (now : Time) (workflowId : String) (expectedVersion : Nat)
    (newState : WorkflowState) (failureReason : Option String) (revisionCount : Option Nat)
    (s : Store) : Except PyException (WorkflowRecord × Store) :=
  match s.workflows.get? workflowId with
  | none => .error (.persistenceNotFound (workflowNotFoundMessage workflowId))
  | some existing =>
      if existing.stateVersion ≠ expectedVersion then
        .error (.persistenceConflict (updateConflictMessage workflowId))
      else
        let updated : WorkflowRecord :=
          { workflowId := existing.workflowId, state := newState,
            stateVersion := existing.stateVersion + 1, createdAt := existing.createdAt,
            updatedAt := now,
            revisionCount := revisionCount.getD existing.revisionCount,
            failureReason := failureReason }
        .ok (updated, { s with workflows := s.workflows.upsert updated })

end Fakes

namespace Postgres

/-- `PostgresWorkflowRepo.create_workflow`: an `INSERT` under the primary key, whose
violation the error translator reports as a connection error. -/
def createWorkflow (now : Time) (workflowId : String) (s : Store) :
    Except PyException (WorkflowRecord × Store) :=
  let record := newWorkflow now workflowId
  match s.workflows.insert? record with
  | none => .error (.persistenceConnection "Persistence connection error during create_workflow")
  | some workflows => .ok (record, { s with workflows := workflows })

/-- The `WHERE workflow_id = … AND state_version = …` of the update. -/
def matchesVersion (workflowId : String) (expectedVersion : Nat) (r : WorkflowRecord) : Bool :=
  r.workflowId = workflowId && r.stateVersion = expectedVersion

/-- `PostgresWorkflowRepo.update_workflow_state`. The statement leaves `revision_count`
and `created_at` of the row alone; no updated row means a version conflict when the
workflow exists. The method has no `revision_count` parameter. -/
def updateWorkflowState (now : Time) (workflowId : String) (expectedVersion : Nat)
    (newState : WorkflowState) (failureReason : Option String) (s : Store) :
    Except PyException (WorkflowRecord × Store) :=
  match s.workflows.rows.find? (matchesVersion workflowId expectedVersion) with
  | some row =>
      let updated : WorkflowRecord :=
        { row with state := newState, stateVersion := row.stateVersion + 1,
                   updatedAt := now, failureReason := failureReason }
      .ok (updated, { s with workflows := s.workflows.upsert updated })
  | none =>
      if s.workflows.rows.any (fun r => r.workflowId = workflowId) then
        .error (.persistenceConflict (updateConflictMessage workflowId))
      else
        .error (.persistenceNotFound (workflowNotFoundMessage workflowId))

/-- What Python raises for a keyword the method does not have. -/
def unexpectedKeyword : PyException :=
  .typeError
    "PostgresWorkflowRepo.update_workflow_state() got an unexpected keyword argument 'revision_count'"

end Postgres

/-- `create_workflow` on the injected repository. -/
def createWorkflow : WorkflowRepoKind → Time → String → Store →
    Except PyException (WorkflowRecord × Store)
  | .fakes => Fakes.createWorkflow
  | .postgres => Postgres.createWorkflow

/-- `update_workflow_state(workflow_id, **update_kwargs)` on the injected repository;
`revisionCount = none` stands for a call without that keyword. -/
def updateWorkflowState (repo : WorkflowRepoKind) (now : Time) (workflowId : String)
    (expectedVersion : Nat) (newState : WorkflowState) (failureReason : Option String)
    (revisionCount : Option Nat) (s : Store) : Except PyException (WorkflowRecord × Store) :=
  match repo, revisionCount with
  | .fakes, _ =>
      Fakes.updateWorkflowState now workflowId expectedVersion newState failureReason
        revisionCount s
  | .postgres, none =>
      Postgres.updateWorkflowState now workflowId expectedVersion newState failureReason s
  | .postgres, some _ => .error Postgres.unexpectedKeyword

/-- The row an accepted update writes over `existing`. -/
def updatedRow (existing : WorkflowRecord) (now : Time) (newState : WorkflowState)
    (failureReason : Option String) (revisionCount : Option Nat) : WorkflowRecord :=
  { existing with state := newState, stateVersion := existing.stateVersion + 1,
                  updatedAt := now,
                  revisionCount := revisionCount.getD existing.revisionCount,
                  failureReason := failureReason }

/-- The row the update's `WHERE` clause finds is the stored row, if its version fits. -/
theorem find_matchesVersion (s : Store) (workflowId : String) (v : Nat) :
    s.workflows.rows.find? (Postgres.matchesVersion workflowId v) =
      (s.workflows.get? workflowId).filter (fun r => r.stateVersion = v) := by
  cases hg : s.workflows.get? workflowId with
  | none =>
      rw [Option.filter_none, List.find?_eq_none]
      intro r hr
      simp [Postgres.matchesVersion, Table.get?_eq_none_iff.mp hg r hr]
  | some r =>
      obtain ⟨hr, hrk⟩ := Table.get?_eq_some_iff.mp hg
      by_cases hv : r.stateVersion = v
      · rw [Option.filter_some_pos (by simpa using hv)]
        cases hf : s.workflows.rows.find? (Postgres.matchesVersion workflowId v) with
        | none =>
            have := List.find?_eq_none.mp hf r hr
            simp [Postgres.matchesVersion, hrk, hv] at this
        | some q =>
            have hq := List.find?_some hf
            simp only [Postgres.matchesVersion, Bool.and_eq_true, decide_eq_true_eq] at hq
            rw [s.workflows.eq_of_key_eq (List.mem_of_find?_eq_some hf) hr (hq.1.trans hrk.symm)]
      · rw [Option.filter_some_neg (by simpa using hv), List.find?_eq_none]
        intro q hq hm
        simp only [Postgres.matchesVersion, Bool.and_eq_true, decide_eq_true_eq] at hm
        exact hv (s.workflows.eq_of_key_eq hq hr (hm.1.trans hrk.symm) ▸ hm.2)

/-- **The compare-and-set.** An accepted update found the row at the expected version and
replaced it by `updatedRow`, whichever repository ran it. -/
theorem updateWorkflowState_ok {repo : WorkflowRepoKind} {now : Time} {workflowId : String}
    {v : Nat} {st : WorkflowState} {fr : Option String} {rc : Option Nat} {s s' : Store}
    {r : WorkflowRecord} (h : updateWorkflowState repo now workflowId v st fr rc s = .ok (r, s')) :
    ∃ existing, s.workflows.get? workflowId = some existing ∧ existing.stateVersion = v ∧
      r = updatedRow existing now st fr rc ∧
      s' = { s with workflows := s.workflows.upsert r } := by
  cases repo with
  | fakes =>
      simp only [updateWorkflowState, Fakes.updateWorkflowState] at h
      cases hg : s.workflows.get? workflowId with
      | none => rw [hg] at h; exact absurd h (by simp)
      | some existing =>
          rw [hg] at h
          dsimp only at h
          split at h
          · exact absurd h (by simp)
          · next hv =>
            cases h
            exact ⟨existing, rfl, not_not.mp hv, rfl, rfl⟩
  | postgres =>
      cases rc with
      | some n => exact absurd h (by simp [updateWorkflowState])
      | none =>
          simp only [updateWorkflowState, Postgres.updateWorkflowState, find_matchesVersion] at h
          cases hf : (s.workflows.get? workflowId).filter (fun r => r.stateVersion = v) with
          | none =>
              rw [hf] at h
              dsimp only at h
              split at h <;> exact absurd h (by simp)
          | some existing =>
              rw [hf] at h
              obtain ⟨hg, hv⟩ := Option.filter_eq_some_iff.mp hf
              cases h
              exact ⟨existing, hg, by simpa using hv, rfl, rfl⟩

/-! ### Transitions, tasks and the outbox -/

/-- `append_transition`. -/
def appendTransition (t : WorkflowTransitionRecord) (s : Store) : Store :=
  { s with transitions := s.transitions ++ [t] }

/-- The recorded transitions of one workflow, in the order they were appended. -/
def Store.history (s : Store) (workflowId : String) : List WorkflowTransitionRecord :=
  s.transitions.filter (fun t => t.workflowId = workflowId)

/-- `create_task`: the payload row and the task row. -/
def createTask (task : TaskRecord) (payload : TaskPayload) (s : Store) : Store :=
  { s with
    payloads := s.payloads.upsert { refId := task.payloadReference.refId, payload := payload }
    tasks := s.tasks.upsert task }

/-- The row `update_task` writes over `existing`; `none` arguments leave their column
alone. -/
def updatedTask (existing : TaskRecord) (now : Time) (status : TaskStatus)
    (attempt : Option Nat) (failureReason : Option String) (completedAt : Option Time) :
    TaskRecord :=
  { existing with status := status, updatedAt := now,
                  attempt := attempt.getD existing.attempt,
                  completedAt := completedAt <|> existing.completedAt,
                  failureReason := failureReason <|> existing.failureReason }

/-- `update_task`. -/
def updateTask (now : Time) (taskId : String) (status : TaskStatus) (attempt : Option Nat)
    (failureReason : Option String) (completedAt : Option Time) (s : Store) :
    Except PyException Store :=
  match s.tasks.get? taskId with
  | none => .error (.persistenceNotFound ("Task " ++ taskId ++ " not found"))
  | some existing =>
      .ok { s with
        tasks := s.tasks.upsert
          (updatedTask existing now status attempt failureReason completedAt) }

/-- `update_task` returned: the task existed and its row was replaced. -/
theorem updateTask_ok {now : Time} {taskId : String} {status : TaskStatus} {attempt : Option Nat}
    {failureReason : Option String} {completedAt : Option Time} {s s' : Store}
    (h : updateTask now taskId status attempt failureReason completedAt s = .ok s') :
    ∃ existing, s.tasks.get? taskId = some existing ∧
      s' = { s with
        tasks := s.tasks.upsert
          (updatedTask existing now status attempt failureReason completedAt) } := by
  unfold updateTask at h
  cases hg : s.tasks.get? taskId with
  | none => rw [hg] at h; exact absurd h (by simp)
  | some existing => rw [hg] at h; exact ⟨existing, rfl, (Except.ok.inj h).symm⟩

/-- `get_task_payload`. -/
def getTaskPayload (s : Store) (ref : PayloadReference) : Except PyException TaskPayload :=
  match s.payloads.get? ref.refId with
  | none => .error (.persistenceNotFound ("Task payload " ++ ref.refId ++ " not found"))
  | some row => .ok row.payload

/-- `list_tasks_for_workflow`, which only the in-memory repository has: by `created_at`,
stably. -/
def listTasksForWorkflow (s : Store) (workflowId : String) : List TaskRecord :=
  (s.tasks.rows.filter (fun t => t.workflowId = workflowId)).insertionSort
    (fun a b => a.createdAt ≤ b.createdAt)

/-- `list_workflows_for_reconciliation`, which only the in-memory repository has. -/
def listWorkflowsForReconciliation (s : Store) (states : List WorkflowState)
    (updatedBefore : Option Time) (limit : Nat) : List WorkflowRecord :=
  ((s.workflows.rows.filter (fun w =>
      states.contains w.state && !w.state.isTerminal &&
        updatedBefore.all (fun t => w.updatedAt < t))).insertionSort
    (fun a b => a.updatedAt ≤ b.updatedAt)).take limit

/-- The row `OutboxRepo.insert` writes. -/
def newOutboxEntry (now : Time) (outboxId : String) (spec : OutboxInsertSpec) : OutboxEntry :=
  { outboxId := outboxId, workflowId := spec.workflowId, taskId := spec.taskId,
    taskType := spec.taskType, payloadReference := spec.payloadReference,
    idempotencyKey := spec.idempotencyKey, status := .pending, createdAt := now,
    publishedAt := none }

/-- `OutboxRepo.insert`. -/
def insertOutbox (now : Time) (outboxId : String) (spec : OutboxInsertSpec) (s : Store) : Store :=
  { s with outbox := s.outbox.upsert (newOutboxEntry now outboxId spec) }

/-- `fetch_unpublished`: the oldest pending rows. -/
def fetchUnpublished (s : Store) (limit : Nat) : List OutboxEntry :=
  ((s.outbox.rows.filter (fun e => e.status = .pending)).insertionSort
    (fun a b => a.createdAt ≤ b.createdAt)).take limit

/-- `list_unpublished_outbox_for_workflow`, which only the in-memory repository has. -/
def listUnpublishedOutboxForWorkflow (s : Store) (workflowId : String) : List OutboxEntry :=
  s.outbox.rows.filter (fun e => e.workflowId = workflowId && e.status = .pending)

/-- `mark_published`: a published row is returned as it is. -/
def markPublished (now : Time) (outboxId : String) (s : Store) : Except PyException Store :=
  match s.outbox.get? outboxId with
  | none => .error (.persistenceNotFound ("Outbox entry " ++ outboxId ++ " not found"))
  | some existing =>
      let updated : OutboxEntry := { existing with status := .published, publishedAt := some now }
      if existing.status = .published then .ok s
      else .ok { s with outbox := s.outbox.upsert updated }

/-! ### Artifacts and completion records -/

/-- The statement that deactivates the active artifacts of a workflow and type. -/
def deactivate (workflowId : String) (artifactType : ArtifactType) (r : ArtifactRecord) :
    ArtifactRecord :=
  if r.workflowId = workflowId ∧ r.artifactType = artifactType ∧ r.isActive then
    { r with isActive := false }
  else r

@[simp] theorem deactivate_artifactId (w : String) (t : ArtifactType) (r : ArtifactRecord) :
    (deactivate w t r).artifactId = r.artifactId := by
  unfold deactivate; split <;> rfl

/-- `UNIQUE (workflow_id, artifact_type, version)` is already taken. -/
def Store.hasArtifact (s : Store) (workflowId : String) (artifactType : ArtifactType)
    (version : Int) : Bool :=
  s.artifacts.rows.any (fun r =>
    r.workflowId = workflowId && r.artifactType = artifactType && r.version = version)

/-- `create_artifact` of the persistence package: the `UNIQUE` constraint, deactivation of
the active version, then the metadata and content rows. -/
def createArtifact (now : Time) (artifactId : String) (spec : ArtifactCreateSpec) (s : Store) :
    Except PyException (ArtifactRecord × Store) :=
  if s.hasArtifact spec.workflowId spec.artifactType spec.version then
    .error (.persistenceDuplicate
      ("Duplicate artifact version for workflow " ++ spec.workflowId))
  else
    let record : ArtifactRecord :=
      { artifactId := artifactId, workflowId := spec.workflowId,
        artifactType := spec.artifactType, name := spec.name, version := spec.version,
        logicalVersion := spec.logicalVersion, isActive := spec.isActive, createdAt := now }
    let artifacts :=
      if spec.isActive then
        s.artifacts.mapRows (deactivate spec.workflowId spec.artifactType)
          (deactivate_artifactId _ _)
      else s.artifacts
    .ok (record, { s with
      artifacts := artifacts.upsert record
      contents := s.contents.upsert { artifactId := artifactId, content := spec.content } })

/-- `list_artifacts(workflow_id, artifact_type=…, active_only=True)`. -/
def listActiveArtifacts (s : Store) (workflowId : String) (artifactType : ArtifactType) :
    List ArtifactRecord :=
  (s.artifacts.rows.filter (fun r =>
    r.workflowId = workflowId && r.artifactType = artifactType && r.isActive)).insertionSort
    (fun a b => a.version ≤ b.version)

/-- `get_active_artifact`. -/
def getActiveArtifact (s : Store) (workflowId : String) (artifactType : ArtifactType) :
    Option ArtifactRecord :=
  (listActiveArtifacts s workflowId artifactType).head?

/-- `get_artifact_content`. -/
def getArtifactContent (s : Store) (artifactId : String) : Except PyException ArtifactContent :=
  match s.contents.get? artifactId with
  | none => .error (.persistenceNotFound ("Artifact content " ++ artifactId ++ " not found"))
  | some row => .ok row.content

/-- `append_ai_invocation`. -/
def appendAiInvocation (r : AiInvocationRecord) (s : Store) : Store :=
  { s with aiInvocations := s.aiInvocations ++ [r] }

/-- `try_insert`: `INSERT … ON CONFLICT DO NOTHING`; `none` is the `DUPLICATE` outcome. -/
def tryInsertIdempotency (record : IdempotencyRecord) (s : Store) : Option Store :=
  (s.idempotency.insert? record).map (fun t => { s with idempotency := t })

/-- `try_acquire`: `INSERT` under the unique task index; `none` when another lease stands. The
deletion of an expired lease is a step of its own in `System.Model`. -/
def tryAcquireLease (leaseId taskId workerId : String) (s : Store) : Option Store :=
  (s.leases.insert? { leaseId := leaseId, taskId := taskId, workerId := workerId }).map
    (fun t => { s with leases := t })

/-- `release`: deletes the row of the lease, if it is still there. -/
def releaseLease (leaseId : String) (s : Store) : Store :=
  match s.leases.rows.find? (fun l => l.leaseId = leaseId) with
  | none => s
  | some l => { s with leases := s.leases.erase l.taskId }

/-- A completion is recorded under `key`. -/
def Store.completed (s : Store) (key : String) : Bool := (s.idempotency.get? key).isSome

end CartoonDemo
