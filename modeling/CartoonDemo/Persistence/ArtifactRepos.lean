import CartoonDemo.Library.Run
import CartoonDemo.Library.Transaction
import CartoonDemo.Persistence.Artifacts

/-!
# CartoonDemo.Persistence.ArtifactRepos

The **two artifact repositories** (`persistence/fakes/artifact.py`, `persistence/repos/artifact.py`)
under transactions. The in-memory repository looks for a used version before it deactivates the
active artifact; PostgreSQL deactivates first and leaves the rest to its indexes, so what a failed
call has done goes away with the transaction.

A session remembers what the successful calls returned (`created`). That list says everything about
the artifacts: `RepresentsArtifacts` is kept by each call of either repository.
-/

namespace CartoonDemo

/-! ### The repositories -/

/-- Which artifact repository is used. -/
inductive ArtifactRepoKind
  /-- `persistence.fakes.InMemoryArtifactRepo`. -/
  | fakes
  /-- `persistence.repos.PostgresArtifactRepo`. -/
  | postgres
  deriving DecidableEq, Repr

/-- What the database has of its own: the error of a value that a column of `artifacts` or of
`artifact_content` cannot hold, and that of a workflow without a row, as `ErrorTranslator` passes
them on. -/
structure ArtifactDatabase where
  rowError : ArtifactCreateSpec → Option PyException
  contentError : ArtifactCreateSpec → Option PyException
  foreignKeyError : ArtifactCreateSpec → PyException

/-- The record of a successful call. -/
def newArtifact (now : Time) (artifactId : String) (spec : ArtifactCreateSpec) : ArtifactRecord :=
  { artifactId, workflowId := spec.workflowId, artifactType := spec.artifactType, name := spec.name,
    version := spec.version, logicalVersion := spec.logicalVersion, isActive := spec.isActive,
    createdAt := now }

def duplicateArtifact (spec : ArtifactCreateSpec) : PyException :=
  .persistenceDuplicate ("Duplicate artifact version for workflow " ++ spec.workflowId)

namespace PostgresArtifactRepo

theorem deactivate_keepsId (spec : ArtifactCreateSpec) (r : ArtifactRecord) :
    (deactivate spec.workflowId spec.artifactType r).artifactId = r.artifactId :=
  deactivate_artifactId spec.workflowId spec.artifactType r

/-- The `UPDATE` of `_insert_artifact_rows`. -/
def deactivateActive (spec : ArtifactCreateSpec) (s : Store) : Store :=
  if spec.isActive then
    { s with
      artifacts := s.artifacts.mapRows (deactivate spec.workflowId spec.artifactType)
        (deactivate_keepsId spec) }
  else s

/-- The primary key, `UNIQUE (workflow_id, artifact_type, version)` and
`idx_artifacts_one_active`. -/
def violatesUnique (record : ArtifactRecord) (s : Store) : Bool :=
  s.artifacts.rows.any fun r =>
    r.artifactId = record.artifactId ||
    (r.workflowId = record.workflowId && r.artifactType = record.artifactType &&
      (r.version = record.version || (r.isActive && record.isActive)))

/-- The `INSERT` into `artifacts`: the foreign key is checked when the row is in place. -/
def insertRow (db : ArtifactDatabase) (spec : ArtifactCreateSpec) (record : ArtifactRecord)
    (s : Store) : Except PyException Store :=
  match db.rowError spec with
  | some e => .error e
  | none =>
      if violatesUnique record s then .error (duplicateArtifact spec)
      else if (s.workflows.get? spec.workflowId).isNone then .error (db.foreignKeyError spec)
      else .ok { s with artifacts := s.artifacts.upsert record }

/-- The `INSERT` into `artifact_content`. -/
def insertContent (db : ArtifactDatabase) (spec : ArtifactCreateSpec) (record : ArtifactRecord)
    (s : Store) : Except PyException Store :=
  match db.contentError spec with
  | some e => .error e
  | none =>
      if (s.contents.get? record.artifactId).isSome then .error (duplicateArtifact spec)
      else .ok { s with
        contents := s.contents.upsert { artifactId := record.artifactId, content := spec.content } }

/-- `create_artifact` within its transaction. -/
def createArtifact (db : ArtifactDatabase) (now : Time) (artifactId : String)
    (spec : ArtifactCreateSpec) (s : Store) : Except PyException (ArtifactRecord × Store) := do
  let record := newArtifact now artifactId spec
  let s ← insertRow db spec record (deactivateActive spec s)
  let s ← insertContent db spec record s
  return (record, s)

end PostgresArtifactRepo

namespace ArtifactRepoKind

/-- `create_artifact` within its transaction. -/
def createArtifact (kind : ArtifactRepoKind) (db : ArtifactDatabase) (now : Time)
    (artifactId : String) (spec : ArtifactCreateSpec) (s : Store) :
    Except PyException (ArtifactRecord × Store) :=
  match kind with
  | .fakes => CartoonDemo.createArtifact now artifactId spec s
  | .postgres => PostgresArtifactRepo.createArtifact db now artifactId spec s

end ArtifactRepoKind

/-! ### Sessions

A session of calls, some of them in a transaction that is committed or rolled back as a whole.
-/

/-- The tables, and what the successful calls returned, in order. No call reads the list. -/
structure ArtifactView where
  store : Store
  created : List ArtifactRecord := []

/-- What is committed, and what an open transaction sees. -/
structure ArtifactSession where
  committed : ArtifactView
  working : Option ArtifactView := none

namespace ArtifactSession

inductive Action
  /-- Entering `transaction()`. -/
  | begin
  | create (now : Time) (artifactId : String) (spec : ArtifactCreateSpec)
  /-- Leaving the block, or leaving it by an exception of other code. -/
  | commit
  | rollback
  deriving DecidableEq, Repr

variable (kind : ArtifactRepoKind) (db : ArtifactDatabase)

/-- What a reader sees. -/
def view (σ : ArtifactSession) : ArtifactView := σ.working.getD σ.committed

def noTransaction : PyException :=
  .other "PersistenceTransactionError" "Operation create_artifact requires an active transaction"

/-- The answer to `create_artifact`, with the view after it. -/
def answer (σ : ArtifactSession) (now : Time) (artifactId : String) (spec : ArtifactCreateSpec) :
    Except PyException (ArtifactRecord × ArtifactView) :=
  if spec.isActive ∧ σ.working.isNone then .error noTransaction
  else
    (kind.createArtifact db now artifactId spec σ.view.store).map fun (record, s) =>
      (record, { store := s, created := σ.view.created ++ [record] })

/-- One step. An exception leaves the block, and the block is rolled back; a second `transaction()`
inside of one raises. -/
def step (a : Action) (σ : ArtifactSession) : ArtifactSession :=
  match a with
  | .begin =>
      match σ.working with
      | none => { σ with working := some σ.committed }
      | some _ => { σ with working := none }
  | .create now artifactId spec =>
      match σ.answer kind db now artifactId spec, σ.working with
      | .error _, _ => { σ with working := none }
      | .ok (_, v), none => { committed := v }
      | .ok (_, v), some _ => { σ with working := some v }
  | .commit => { committed := σ.view }
  | .rollback => { σ with working := none }

/-- The answers to the calls of a run. -/
def answers (σ : ArtifactSession) : List Action → List (Except PyException ArtifactRecord)
  | [] => []
  | a :: as =>
      match a with
      | .create now artifactId spec =>
          (σ.answer kind db now artifactId spec).map Prod.fst :: answers (step kind db a σ) as
      | _ => answers (step kind db a σ) as

end ArtifactSession

/-! ### What a call stores -/

/-- The artifacts after a successful call. -/
def artifactsAfter (record : ArtifactRecord) (artifacts : Table ArtifactRecord.artifactId) :
    Table ArtifactRecord.artifactId :=
  if record.isActive then withArtifact record artifacts else artifacts.upsert record

/-- The store after a successful call. -/
def storedArtifact (record : ArtifactRecord) (content : ArtifactContent) (s : Store) : Store :=
  { s with
    artifacts := artifactsAfter record s.artifacts
    contents := s.contents.upsert { artifactId := record.artifactId, content } }

/-- The in-memory repository refuses a used version and nothing else. -/
theorem createArtifact_fakes (now : Time) (artifactId : String) (spec : ArtifactCreateSpec)
    (s : Store) :
    createArtifact now artifactId spec s =
      if s.hasArtifact spec.workflowId spec.artifactType spec.version then
        .error (duplicateArtifact spec)
      else
        .ok (newArtifact now artifactId spec,
          storedArtifact (newArtifact now artifactId spec) spec.content s) := by
  rw [createArtifact]
  by_cases hused : s.hasArtifact spec.workflowId spec.artifactType spec.version
  · rw [if_pos hused, if_pos hused]
    rfl
  · rw [if_neg hused, if_neg hused]
    cases hactive : spec.isActive with
    | true => simp [newArtifact, storedArtifact, artifactsAfter, withArtifact, hactive]
    | false => simp [newArtifact, storedArtifact, artifactsAfter, hactive]

namespace PostgresArtifactRepo

variable {db : ArtifactDatabase} {now : Time} {artifactId : String} {spec : ArtifactCreateSpec}
  {s s' : Store}

/-- Of a fresh identifier, the indexes refuse a used version and nothing else: the artifact that was
active is not active any more. -/
theorem violatesUnique_eq (hfresh : s.artifacts.get? artifactId = none) :
    violatesUnique (newArtifact now artifactId spec) (deactivateActive spec s) =
      s.hasArtifact spec.workflowId spec.artifactType spec.version := by
  have hid : ∀ r ∈ s.artifacts.rows, r.artifactId ≠ artifactId :=
    fun r hr => Table.get?_eq_none_iff.mp hfresh r hr
  rw [violatesUnique, Store.hasArtifact, deactivateActive, Bool.eq_iff_iff, List.any_eq_true,
    List.any_eq_true]
  cases hactive : spec.isActive with
  | false =>
      refine exists_congr fun r => and_congr_right fun hr => ?_
      simp [newArtifact, hactive, hid r hr, and_assoc]
  | true =>
      simp only [if_true, Table.mapRows, List.mem_map]
      constructor
      · rintro ⟨-, ⟨r, hr, rfl⟩, hconflict⟩
        refine ⟨r, hr, ?_⟩
        simp only [newArtifact, deactivate_artifactId, deactivate_workflowId, deactivate_artifactType,
          deactivate_version, hactive, Bool.and_true, Bool.or_eq_true, Bool.and_eq_true,
          decide_eq_true_eq, hid r hr, false_or] at hconflict ⊢
        obtain ⟨hpair, hversion | hstill⟩ := hconflict
        · exact ⟨hpair, hversion⟩
        · rw [deactivate_inactive _ _ r hpair.1 hpair.2] at hstill
          cases hstill
      · rintro ⟨r, hr, hused⟩
        refine ⟨_, ⟨r, hr, rfl⟩, ?_⟩
        simp only [Bool.and_eq_true, decide_eq_true_eq] at hused
        simp [newArtifact, hused]

/-- The tables after both statements. -/
theorem stored_eq (hactive : spec.isActive = (newArtifact now artifactId spec).isActive) :
    ({ deactivateActive spec s with
        artifacts := (deactivateActive spec s).artifacts.upsert (newArtifact now artifactId spec)
        contents := (deactivateActive spec s).contents.upsert
          { artifactId := artifactId, content := spec.content } } : Store) =
      storedArtifact (newArtifact now artifactId spec) spec.content s := by
  rw [storedArtifact, artifactsAfter, deactivateActive, ← hactive]
  cases spec.isActive <;> rfl

/-- A call that returned stored the artifact, and its version was not used. -/
theorem createArtifact_ok {record : ArtifactRecord} (hfresh : s.artifacts.get? artifactId = none)
    (h : createArtifact db now artifactId spec s = .ok (record, s')) :
    ¬ s.hasArtifact spec.workflowId spec.artifactType spec.version ∧
      record = newArtifact now artifactId spec ∧
      s' = storedArtifact (newArtifact now artifactId spec) spec.content s := by
  obtain ⟨inserted, hrow, h⟩ := except_bind_ok h
  obtain ⟨stored, hcontent, h⟩ := except_bind_ok h
  obtain ⟨rfl, rfl⟩ := Prod.mk.inj (Except.ok.inj h)
  rw [insertRow] at hrow
  split at hrow
  · cases hrow
  · split at hrow
    · cases hrow
    · next hunique =>
      split at hrow
      · cases hrow
      · obtain rfl := Except.ok.inj hrow
        rw [insertContent] at hcontent
        split at hcontent
        · cases hcontent
        · split at hcontent
          · cases hcontent
          · obtain rfl := Except.ok.inj hcontent
            rw [violatesUnique_eq hfresh] at hunique
            exact ⟨hunique, rfl, stored_eq rfl⟩

/-- **The two repositories answer alike**, where the database can hold the row and the workflow has
one. -/
theorem createArtifact_eq (hfresh : s.artifacts.get? artifactId = none)
    (hcontents : s.contents.get? artifactId = none) (hrow : db.rowError spec = none)
    (hcontent : db.contentError spec = none) (hworkflow : (s.workflows.get? spec.workflowId).isSome) :
    createArtifact db now artifactId spec s = CartoonDemo.createArtifact now artifactId spec s := by
  have hworkflows : (deactivateActive spec s).workflows = s.workflows := by
    rw [deactivateActive]
    split <;> rfl
  have hcontents' : (deactivateActive spec s).contents = s.contents := by
    rw [deactivateActive]
    split <;> rfl
  rw [createArtifact_fakes, createArtifact, insertRow, hrow, violatesUnique_eq hfresh]
  by_cases hused : s.hasArtifact spec.workflowId spec.artifactType spec.version
  · rw [if_pos hused]
    dsimp only
    rw [if_pos hused]
    rfl
  · have hknown : ¬ ((deactivateActive spec s).workflows.get? spec.workflowId).isNone := by
      rw [hworkflows, Option.isNone_iff_eq_none]
      exact Option.isSome_iff_ne_none.mp hworkflow
    rw [if_neg hused]
    dsimp only
    rw [if_neg hused, if_neg hknown, except_ok_bind, insertContent, hcontent]
    have hnew : ¬ ((deactivateActive spec s).contents.get? artifactId).isSome := by
      rw [hcontents', hcontents]
      simp
    show (if ((deactivateActive spec s).contents.get? artifactId).isSome then _ else _) >>= _ = _
    rw [if_neg hnew, ← @stored_eq now artifactId spec s rfl]
    rfl

end PostgresArtifactRepo

/-! ### What a session represents

The tables of both repositories, in terms of the calls that have succeeded.
-/

/-- The last active artifact of a workflow and type among those that were created. -/
def lastActive (created : List ArtifactRecord) (w : String) (t : ArtifactType) :
    Option ArtifactRecord := (activeRows w t created).getLast?

/-- What a deactivation leaves of a row. -/
def artifactName (r : ArtifactRecord) : String × String × ArtifactType × Int :=
  (r.artifactId, r.workflowId, r.artifactType, r.version)

def versionKey (r : ArtifactRecord) : String × ArtifactType × Int :=
  (r.workflowId, r.artifactType, r.version)

/-- The tables hold what was created, the last active artifact of each workflow and type active. -/
structure RepresentsArtifacts (v : ArtifactView) : Prop where
  names : v.store.artifacts.rows.map artifactName = v.created.map artifactName
  versions : (v.store.artifacts.rows.map versionKey).Nodup
  active : ∀ w t, activeRows w t v.store.artifacts.rows = (lastActive v.created w t).toList
  contents : ∀ row ∈ v.store.contents.rows, row.artifactId ∈ v.created.map ArtifactRecord.artifactId

theorem representsArtifacts_empty {s : Store} (hartifacts : s.artifacts = Table.empty)
    (hcontents : s.contents = Table.empty) : RepresentsArtifacts { store := s } where
  names := by rw [hartifacts]; rfl
  versions := by rw [hartifacts]; exact List.nodup_nil
  active _ _ := by rw [hartifacts]; rfl
  contents row hrow := by rw [hcontents] at hrow; cases hrow

variable {v : ArtifactView} {record : ArtifactRecord} {content : ArtifactContent}

theorem RepresentsArtifacts.artifactIds (h : RepresentsArtifacts v) :
    v.store.artifacts.rows.map ArtifactRecord.artifactId =
      v.created.map ArtifactRecord.artifactId := by
  have hnames := congrArg (List.map Prod.fst) h.names
  rwa [List.map_map, List.map_map] at hnames

/-- An identifier that no call was given is in neither table. -/
theorem RepresentsArtifacts.fresh (h : RepresentsArtifacts v) {id : String}
    (hid : id ∉ v.created.map ArtifactRecord.artifactId) :
    v.store.artifacts.get? id = none ∧ v.store.contents.get? id = none := by
  constructor
  · refine Table.get?_eq_none_iff.mpr fun r hr heq => hid ?_
    rw [← h.artifactIds, ← heq]
    exact List.mem_map_of_mem hr
  · refine Table.get?_eq_none_iff.mpr fun row hrow heq => hid ?_
    rw [← heq]
    exact h.contents row hrow

/-- The rows after a call: those before it, as the deactivation leaves them, and the new one. -/
theorem artifactsAfter_rows {artifacts : Table ArtifactRecord.artifactId}
    (hfresh : artifacts.get? record.artifactId = none) :
    (artifactsAfter record artifacts).rows =
      (if record.isActive then
          artifacts.rows.map (deactivate record.workflowId record.artifactType)
        else artifacts.rows) ++ [record] := by
  rw [artifactsAfter]
  split
  · exact withArtifact_rows hfresh
  · exact Table.rows_upsert_of_get?_none hfresh

theorem map_deactivate {β : Type} {f : ArtifactRecord → β}
    (hf : ∀ w t r, f (deactivate w t r) = f r) (w : String) (t : ArtifactType)
    (rows : List ArtifactRecord) : (rows.map (deactivate w t)).map f = rows.map f := by
  rw [List.map_map]
  exact List.map_congr_left fun r _ => hf w t r

/-- A field that the deactivation keeps, over the rows after a call. -/
theorem map_artifactsAfter {β : Type} {f : ArtifactRecord → β}
    (hf : ∀ w t r, f (deactivate w t r) = f r) {artifacts : Table ArtifactRecord.artifactId}
    (hfresh : artifacts.get? record.artifactId = none) :
    (artifactsAfter record artifacts).rows.map f = artifacts.rows.map f ++ [f record] := by
  rw [artifactsAfter_rows hfresh, List.map_append]
  split
  · rw [map_deactivate hf]
    rfl
  · rfl

theorem lastActive_append (created : List ArtifactRecord) (w : String) (t : ArtifactType) :
    lastActive (created ++ [record]) w t =
      if record.workflowId = w ∧ record.artifactType = t ∧ record.isActive then some record
      else lastActive created w t := by
  rw [lastActive, activeRows, List.filter_append]
  by_cases h : record.workflowId = w ∧ record.artifactType = t ∧ record.isActive
  · rw [if_pos h]
    simp [h]
  · rw [if_neg h]
    have hnone : [record].filter (fun r => r.workflowId = w && r.artifactType = t && r.isActive) =
        [] := by
      simpa [and_assoc] using h
    rw [hnone, List.append_nil]
    rfl

/-- **Each successful call is represented**, whatever repository made it. -/
theorem RepresentsArtifacts.create (h : RepresentsArtifacts v)
    (hid : record.artifactId ∉ v.created.map ArtifactRecord.artifactId)
    (hunused : ¬ v.store.hasArtifact record.workflowId record.artifactType record.version) :
    RepresentsArtifacts { store := storedArtifact record content v.store, created := v.created ++ [record] } where
  names := by
    show (artifactsAfter record v.store.artifacts).rows.map artifactName = _
    rw [map_artifactsAfter (fun w t r => by simp [artifactName]) (h.fresh hid).1, h.names,
      List.map_append]
    rfl
  versions := by
    show ((artifactsAfter record v.store.artifacts).rows.map versionKey).Nodup
    rw [map_artifactsAfter (fun w t r => by simp [versionKey]) (h.fresh hid).1]
    refine List.Nodup.append h.versions (List.nodup_singleton _) ?_
    -- the version was not used
    intro key hkey hrecord
    obtain rfl := List.mem_singleton.mp hrecord
    obtain ⟨r, hr, heq⟩ := List.mem_map.mp hkey
    simp only [versionKey, Prod.mk.injEq] at heq
    exact hunused (List.any_eq_true.mpr ⟨r, hr, by simp [heq]⟩)
  active w t := by
    show activeRows w t (artifactsAfter record v.store.artifacts).rows = _
    rw [artifactsAfter_rows (h.fresh hid).1, lastActive_append, activeRows, List.filter_append]
    by_cases hpair : record.workflowId = w ∧ record.artifactType = t
    · obtain ⟨rfl, rfl⟩ := hpair
      cases hactive : record.isActive with
      | true =>
          have hnone := activeRows_deactivate record.workflowId record.artifactType
            v.store.artifacts.rows
          rw [activeRows] at hnone
          rw [if_pos rfl, hnone, if_pos ⟨rfl, rfl, rfl⟩]
          simp [hactive]
      | false =>
          have hold := h.active record.workflowId record.artifactType
          rw [activeRows] at hold
          rw [if_neg (by simp), hold, if_neg (by simp)]
          simp [hactive]
    · have hrecord := activeRows_of_ne hpair
      have hold : activeRows w t (if record.isActive then
            v.store.artifacts.rows.map (deactivate record.workflowId record.artifactType)
          else v.store.artifacts.rows) = activeRows w t v.store.artifacts.rows := by
        split
        · exact activeRows_deactivate_of_ne hpair _
        · rfl
      rw [h.active, activeRows] at hold
      rw [activeRows] at hrecord
      rw [hold, hrecord, List.append_nil, if_neg fun hc => hpair ⟨hc.1, hc.2.1⟩]
  contents row hrow := by
    rw [List.map_append]
    rcases Table.mem_upsert.mp hrow with rfl | ⟨hrow, -⟩
    · exact List.mem_append_right _ List.mem_cons_self
    · exact List.mem_append_left _ (h.contents row hrow)

/-- At most one artifact of a workflow and type is active. -/
theorem RepresentsArtifacts.length_active (h : RepresentsArtifacts v) (w : String) (t : ArtifactType) :
    (activeRows w t v.store.artifacts.rows).length ≤ 1 := by
  rw [h.active]
  cases lastActive v.created w t <;> simp

/-- `get_active_artifact` returns the last active artifact that was created. -/
theorem RepresentsArtifacts.getActiveArtifact_eq (h : RepresentsArtifacts v) (w : String) (t : ArtifactType) :
    getActiveArtifact v.store w t = lastActive v.created w t := by
  have hactive := h.active w t
  rw [activeRows] at hactive
  rw [getActiveArtifact, listActiveArtifacts, hactive]
  cases lastActive v.created w t <;> rfl

/-! ### Runs -/

namespace ArtifactSession

/-- The identifier that a step makes up. -/
def Action.artifactId? : Action → Option String
  | .create _ artifactId _ => some artifactId
  | _ => none

/-- What holds of each view: it is represented, with the workflows of the start and identifiers that
were made up. -/
structure Holds (workflows : Table WorkflowRecord.workflowId) (used : List String)
    (v : ArtifactView) : Prop where
  represents : RepresentsArtifacts v
  workflows_eq : v.store.workflows = workflows
  identifiers : ∀ r ∈ v.created, r.artifactId ∈ used

/-- **Invariant**: what is committed holds, and what an open transaction sees. -/
structure Inv (workflows : Table WorkflowRecord.workflowId) (used : List String)
    (σ : ArtifactSession) : Prop where
  committed : Holds workflows used σ.committed
  working : ∀ v ∈ σ.working, Holds workflows used v

variable {kind : ArtifactRepoKind} {db : ArtifactDatabase} {σ : ArtifactSession}
  {workflows : Table WorkflowRecord.workflowId} {used : List String} {now : Time}
  {artifactId : String} {spec : ArtifactCreateSpec} {record : ArtifactRecord} {v : ArtifactView}

theorem Holds.mono (h : Holds workflows used v) (a : Option String) :
    Holds workflows (used ++ a.toList) v where
  represents := h.represents
  workflows_eq := h.workflows_eq
  identifiers r hr := List.mem_append_left _ (h.identifiers r hr)

theorem Inv.view (h : Inv workflows used σ) : Holds workflows used σ.view := by
  cases hw : σ.working with
  | none => rw [ArtifactSession.view, hw]; exact h.committed
  | some v => rw [ArtifactSession.view, hw]; exact h.working v hw

/-- An identifier that was not made up yet is in neither table. -/
theorem Holds.fresh (h : Holds workflows used v) (hid : artifactId ∉ used) :
    artifactId ∉ v.created.map ArtifactRecord.artifactId := by
  intro hmem
  obtain ⟨r, hr, rfl⟩ := List.mem_map.mp hmem
  exact hid (h.identifiers r hr)

/-- **A call that succeeded**, of either repository: its version was not used, and it stored the
artifact that it returned. -/
theorem answer_ok (hfresh : σ.view.store.artifacts.get? artifactId = none)
    (h : σ.answer kind db now artifactId spec = .ok (record, v)) :
    ¬ σ.view.store.hasArtifact spec.workflowId spec.artifactType spec.version ∧
      record = newArtifact now artifactId spec ∧
      v = { store := storedArtifact record spec.content σ.view.store,
            created := σ.view.created ++ [record] } := by
  rw [answer] at h
  by_cases htransaction : spec.isActive ∧ σ.working.isNone
  · rw [if_pos htransaction] at h
    cases h
  · rw [if_neg htransaction] at h
    obtain ⟨⟨r, s⟩, hcall, heq⟩ := except_map_ok h
    obtain ⟨rfl, rfl⟩ := Prod.mk.inj heq
    cases kind with
    | postgres =>
        obtain ⟨hunused, rfl, rfl⟩ := PostgresArtifactRepo.createArtifact_ok hfresh hcall
        exact ⟨hunused, rfl, rfl⟩
    | fakes =>
        rw [ArtifactRepoKind.createArtifact, createArtifact_fakes] at hcall
        split at hcall
        · cases hcall
        · next hunused =>
          obtain ⟨rfl, rfl⟩ := Prod.mk.inj (Except.ok.inj hcall)
          exact ⟨hunused, rfl, rfl⟩

/-- What a successful call sees holds again. -/
theorem Holds.answer (h : Inv workflows used σ) (hid : artifactId ∉ used)
    (hanswer : σ.answer kind db now artifactId spec = .ok (record, v)) :
    Holds workflows (used ++ [artifactId]) v := by
  have hview := h.view
  obtain ⟨hunused, rfl, rfl⟩ :=
    answer_ok (hview.represents.fresh (hview.fresh hid)).1 hanswer
  refine ⟨hview.represents.create (hview.fresh hid) hunused, hview.workflows_eq, ?_⟩
  intro r hr
  rcases List.mem_append.mp hr with hr | hr
  · exact List.mem_append_left _ (hview.identifiers r hr)
  · obtain rfl := List.mem_singleton.mp hr
    exact List.mem_append_right _ (List.mem_singleton.mpr rfl)

/-- **One step keeps the invariant**, if its identifier is new. -/
theorem Inv.step (kind : ArtifactRepoKind) (db : ArtifactDatabase) (h : Inv workflows used σ)
    (a : Action) (ha : ∀ id ∈ a.artifactId?, id ∉ used) :
    Inv workflows (used ++ a.artifactId?.toList) (ArtifactSession.step kind db a σ) := by
  have hcommitted := h.committed.mono a.artifactId?
  have hclosed : Inv workflows (used ++ a.artifactId?.toList) { σ with working := none } :=
    ⟨hcommitted, fun v hv => by cases hv⟩
  cases a with
  | begin =>
      cases hw : σ.working with
      | none =>
          simp only [ArtifactSession.step, hw]
          refine ⟨hcommitted, fun v hv => ?_⟩
          obtain rfl := Option.some.inj hv
          exact hcommitted
      | some v =>
          simp only [ArtifactSession.step, hw]
          exact hclosed
  | commit => exact ⟨h.view.mono _, fun v hv => by cases hv⟩
  | rollback => exact hclosed
  | create now artifactId spec =>
      cases hanswer : σ.answer kind db now artifactId spec with
      | error e =>
          simp only [ArtifactSession.step, hanswer]
          exact hclosed
      | ok p =>
          obtain ⟨record, v⟩ := p
          have hv := Holds.answer h (ha artifactId rfl) hanswer
          cases hw : σ.working with
          | none =>
              simp only [ArtifactSession.step, hanswer, hw]
              exact ⟨hv, fun v hv => by cases hv⟩
          | some old =>
              simp only [ArtifactSession.step, hanswer, hw]
              refine ⟨hcommitted, fun v' hv' => ?_⟩
              obtain rfl := Option.some.inj hv'
              exact hv

/-- The identifiers of a run, the first step's first. -/
theorem split_identifiers (used : List String) (a : Action) (actions : List Action) :
    used ++ (a :: actions).filterMap Action.artifactId? =
      (used ++ a.artifactId?.toList) ++ actions.filterMap Action.artifactId? := by
  rw [List.filterMap_cons, List.append_assoc]
  cases a.artifactId? <;> rfl

theorem new_identifier {a : Action} {rest : List String}
    (hfresh : ((used ++ a.artifactId?.toList) ++ rest).Nodup) : ∀ id ∈ a.artifactId?, id ∉ used := by
  intro id hid hused
  have hdisjoint := (List.nodup_append.mp (List.nodup_append.mp hfresh).1).2.2
  exact hdisjoint id hused id (Option.mem_toList.mpr hid) rfl

/-- **So does every run** whose identifiers are pairwise different. -/
theorem Inv.run (kind : ArtifactRepoKind) (db : ArtifactDatabase) (h : Inv workflows used σ)
    {actions : List Action}
    (hfresh : (used ++ actions.filterMap Action.artifactId?).Nodup) :
    Inv workflows (used ++ actions.filterMap Action.artifactId?)
      (CartoonDemo.run (ArtifactSession.step kind db) σ actions) := by
  induction actions generalizing used σ with
  | nil => rwa [List.filterMap_nil, List.append_nil]
  | cons a actions ih =>
      rw [split_identifiers] at hfresh ⊢
      exact ih (Inv.step kind db h a (new_identifier hfresh)) hfresh

/-! ### Used versions -/

/-- The call is made where `create_artifact` may be called: of an active artifact in a transaction. -/
def Permitted (σ : ArtifactSession) (spec : ArtifactCreateSpec) : Prop :=
  spec.isActive → σ.working.isSome

/-- **A used version is refused** by either repository. -/
theorem answer_used (now : Time) (h : Inv workflows used σ) (hid : artifactId ∉ used)
    (hpermitted : σ.Permitted spec) (hrow : kind = .postgres → db.rowError spec = none)
    (hused : σ.view.store.hasArtifact spec.workflowId spec.artifactType spec.version) :
    σ.answer kind db now artifactId spec = .error (duplicateArtifact spec) := by
  have hfresh := (h.view.represents.fresh (h.view.fresh hid)).1
  have hopen : ¬ (spec.isActive ∧ σ.working.isNone) := by
    rintro ⟨hactive, hnone⟩
    have hsome := hpermitted hactive
    rw [Option.isNone_iff_eq_none] at hnone
    rw [hnone] at hsome
    cases hsome
  rw [answer, if_neg hopen]
  cases kind with
  | fakes =>
      rw [ArtifactRepoKind.createArtifact, createArtifact_fakes, if_pos hused]
      rfl
  | postgres =>
      rw [ArtifactRepoKind.createArtifact, PostgresArtifactRepo.createArtifact,
        PostgresArtifactRepo.insertRow, hrow rfl, PostgresArtifactRepo.violatesUnique_eq hfresh]
      dsimp only
      rw [if_pos hused]
      rfl

/-- What a failed call leaves is what was committed. -/
theorem step_error {e : PyException} (h : σ.answer kind db now artifactId spec = .error e) :
    ArtifactSession.step kind db (.create now artifactId spec) σ = { σ with working := none } := by
  simp only [ArtifactSession.step, h]

/-! ### Agreement

Where both repositories accept the values, they give the same answers.
-/

/-- The database can hold what the call stores, and its workflow has a row. -/
def Storable (db : ArtifactDatabase) (workflows : Table WorkflowRecord.workflowId) : Action → Prop
  | .create _ _ spec =>
      db.rowError spec = none ∧ db.contentError spec = none ∧
        (workflows.get? spec.workflowId).isSome
  | _ => True

/-- The repositories answer such a call alike. -/
theorem answer_agree (h : Inv workflows used σ) (hid : artifactId ∉ used)
    (hstorable : Storable db workflows (.create now artifactId spec)) :
    σ.answer .fakes db now artifactId spec = σ.answer .postgres db now artifactId spec := by
  obtain ⟨hrow, hcontent, hworkflow⟩ := hstorable
  obtain ⟨hfresh, hcontents⟩ := h.view.represents.fresh (h.view.fresh hid)
  rw [← h.view.workflows_eq] at hworkflow
  rw [answer, answer, ArtifactRepoKind.createArtifact, ArtifactRepoKind.createArtifact,
    PostgresArtifactRepo.createArtifact_eq hfresh hcontents hrow hcontent hworkflow]

theorem step_agree (h : Inv workflows used σ) (a : Action) (ha : ∀ id ∈ a.artifactId?, id ∉ used)
    (hstorable : Storable db workflows a) :
    ArtifactSession.step .fakes db a σ = ArtifactSession.step .postgres db a σ := by
  cases a with
  | begin => rfl
  | commit => rfl
  | rollback => rfl
  | create now artifactId spec =>
      rw [ArtifactSession.step, ArtifactSession.step, answer_agree h (ha artifactId rfl) hstorable]

/-- **The repositories agree over a run**: on the session they leave and on each answer. -/
theorem run_agree (h : Inv workflows used σ) {actions : List Action}
    (hfresh : (used ++ actions.filterMap Action.artifactId?).Nodup)
    (hstorable : ∀ a ∈ actions, Storable db workflows a) :
    CartoonDemo.run (ArtifactSession.step .fakes db) σ actions =
        CartoonDemo.run (ArtifactSession.step .postgres db) σ actions ∧
      answers .fakes db σ actions = answers .postgres db σ actions := by
  induction actions generalizing used σ with
  | nil => exact ⟨rfl, rfl⟩
  | cons a actions ih =>
      rw [split_identifiers] at hfresh
      have ha := new_identifier hfresh
      obtain ⟨hrun, hanswers⟩ :=
        ih (Inv.step .postgres db h a ha) hfresh fun b hb => hstorable b (List.mem_cons_of_mem a hb)
      have hstep := step_agree h a ha (hstorable a List.mem_cons_self)
      rw [run_cons, run_cons, hstep]
      refine ⟨hrun, ?_⟩
      cases a with
      | create now artifactId spec =>
          rw [answers, answers, hstep, hanswers,
            answer_agree h (ha artifactId rfl) (hstorable _ List.mem_cons_self)]
      | begin => rw [answers, answers, hstep, hanswers] <;> exact fun _ _ _ h => by cases h
      | commit => rw [answers, answers, hstep, hanswers] <;> exact fun _ _ _ h => by cases h
      | rollback => rw [answers, answers, hstep, hanswers] <;> exact fun _ _ _ h => by cases h

/-! ### One active version -/

/-- **The artifact stores keep one active version.** After every run of either repository at most one
artifact of a workflow and type is active, the last active one that was created; versions are
distinct; a used version is refused, and what was committed stays. The repositories agree on runs
whose calls name a workflow with a row and values that the columns hold. -/
theorem one_active_version (db : ArtifactDatabase) (start : Store)
    (hartifacts : start.artifacts = Table.empty) (hcontents : start.contents = Table.empty)
    (actions : List Action) (hfresh : (actions.filterMap Action.artifactId?).Nodup) :
    (∀ kind σ, σ = CartoonDemo.run (ArtifactSession.step kind db)
        { committed := { store := start } } actions →
      (∀ w t, (activeRows w t σ.view.store.artifacts.rows).length ≤ 1) ∧
      (∀ w t, getActiveArtifact σ.view.store w t = lastActive σ.view.created w t) ∧
      (σ.view.store.artifacts.rows.map versionKey).Nodup ∧
      ∀ now artifactId spec, artifactId ∉ actions.filterMap Action.artifactId? →
        σ.Permitted spec → (kind = .postgres → db.rowError spec = none) →
        σ.view.store.hasArtifact spec.workflowId spec.artifactType spec.version →
          σ.answer kind db now artifactId spec = .error (duplicateArtifact spec) ∧
          ArtifactSession.step kind db (.create now artifactId spec) σ =
            { σ with working := none }) ∧
    ((∀ a ∈ actions, Storable db start.workflows a) →
      CartoonDemo.run (ArtifactSession.step .fakes db) { committed := { store := start } } actions =
          CartoonDemo.run (ArtifactSession.step .postgres db) { committed := { store := start } }
            actions ∧
        answers .fakes db { committed := { store := start } } actions =
          answers .postgres db { committed := { store := start } } actions) := by
  have hstart : Inv start.workflows [] { committed := { store := start } } := {
    committed := {
      represents := representsArtifacts_empty hartifacts hcontents
      workflows_eq := rfl
      identifiers := fun r hr => by cases hr }
    working := fun v hv => by cases hv }
  have hnodup : ([] ++ actions.filterMap Action.artifactId?).Nodup := hfresh
  refine ⟨?_, fun hstorable => run_agree hstart hnodup hstorable⟩
  rintro kind σ rfl
  have hinv := Inv.run kind db hstart hnodup
  have hview := hinv.view
  refine ⟨hview.represents.length_active, hview.represents.getActiveArtifact_eq,
    hview.represents.versions, fun now artifactId spec hid hpermitted hrow hused => ?_⟩
  have hrefused := answer_used now hinv hid hpermitted hrow hused
  exact ⟨hrefused, step_error hrefused⟩

/-- A database that can hold every value. -/
def roomyDatabase : ArtifactDatabase where
  rowError _ := none
  contentError _ := none
  foreignKeyError _ := .persistenceConnection "Persistence connection error during create_artifact"

def scenarioVersion (n : Int) : ArtifactCreateSpec :=
  { workflowId := "wf", artifactType := .scenario, name := "scenario", version := n,
    logicalVersion := n, content := .scenario n }

def storedWorkflow : WorkflowRecord :=
  { workflowId := "wf", state := .scenarioGenerated, stateVersion := 1, createdAt := 0,
    updatedAt := 0 }

/-- A transaction that activates a version, and another that replaces it. -/
def replacingRun : List Action :=
  [.begin, .create 0 "a1" (scenarioVersion 1), .commit,
   .begin, .create 1 "a2" (scenarioVersion 2), .commit, .begin]

/-- Of a workflow without a row the in-memory repository stores an artifact, and PostgreSQL does
not. -/
theorem artifact_of_unknown_workflow :
    let spec := { scenarioVersion 1 with isActive := false }
    answers .fakes roomyDatabase { committed := { store := {} } } [.create 0 "a1" spec] =
        [.ok (newArtifact 0 "a1" spec)] ∧
      answers .postgres roomyDatabase { committed := { store := {} } } [.create 0 "a1" spec] =
        [.error (roomyDatabase.foreignKeyError spec)] := ⟨rfl, rfl⟩

/-- A replaced version is refused afterwards by both repositories, which agree on the run. -/
theorem one_active_version_replaced :
    let start : Store := { workflows := Table.empty.upsert storedWorkflow }
    let σ := CartoonDemo.run (ArtifactSession.step .postgres roomyDatabase)
      { committed := { store := start } } replacingRun
    getActiveArtifact σ.view.store "wf" .scenario = some (newArtifact 1 "a2" (scenarioVersion 2)) ∧
      σ.answer .postgres roomyDatabase 2 "a3" (scenarioVersion 1) =
        .error (duplicateArtifact (scenarioVersion 1)) ∧
      CartoonDemo.run (ArtifactSession.step .fakes roomyDatabase)
        { committed := { store := start } } replacingRun = σ := by
  intro start σ
  obtain ⟨hkinds, hagree⟩ := one_active_version roomyDatabase start rfl rfl replacingRun (by decide)
  obtain ⟨-, hactive, -, hused⟩ := hkinds .postgres σ rfl
  refine ⟨(hactive "wf" .scenario).trans rfl, ?_, ?_⟩
  · exact (hused 2 "a3" (scenarioVersion 1) (by decide) (fun _ => rfl) (fun _ => rfl) rfl).1
  · refine (hagree fun a ha => ?_).1
    simp only [replacingRun, List.mem_cons, List.not_mem_nil, or_false] at ha
    rcases ha with rfl | rfl | rfl | rfl | rfl | rfl | rfl
    all_goals first | exact trivial | exact ⟨rfl, rfl, rfl⟩

end ArtifactSession

end CartoonDemo
