import CartoonDemo.Persistence.Store

/-!
# CartoonDemo.Persistence.Artifacts

What storing an **active artifact** does to the questions asked about artifacts: which
versions exist (`Store.hasArtifact`, the `UNIQUE` constraint) and which artifact of a type is
the active one (`getActiveArtifact`).
-/

namespace CartoonDemo

/-- The artifact table after an active artifact has been stored. -/
def withArtifact (record : ArtifactRecord) (artifacts : Table ArtifactRecord.artifactId) :
    Table ArtifactRecord.artifactId :=
  (artifacts.mapRows (deactivate record.workflowId record.artifactType)
    (deactivate_artifactId _ _)).upsert record

section Deactivate

variable (w : String) (t : ArtifactType) (r : ArtifactRecord)

@[simp] theorem deactivate_workflowId : (deactivate w t r).workflowId = r.workflowId := by
  unfold deactivate; split <;> rfl

@[simp] theorem deactivate_artifactType : (deactivate w t r).artifactType = r.artifactType := by
  unfold deactivate; split <;> rfl

@[simp] theorem deactivate_version : (deactivate w t r).version = r.version := by
  unfold deactivate; split <;> rfl

/-- Nothing of the deactivated type stays active. -/
theorem deactivate_inactive (hw : r.workflowId = w) (ht : r.artifactType = t) :
    (deactivate w t r).isActive = false := by
  unfold deactivate
  by_cases ha : r.isActive = true
  · rw [if_pos ⟨hw, ht, ha⟩]
  · rw [if_neg (fun h => ha h.2.2)]
    simpa using ha

theorem deactivate_of_ne (h : ¬ (r.workflowId = w ∧ r.artifactType = t)) :
    deactivate w t r = r := by
  unfold deactivate
  exact if_neg (fun hc => h ⟨hc.1, hc.2.1⟩)

end Deactivate

/-- The active artifacts of a workflow and type. -/
abbrev activeRows (w : String) (t : ArtifactType) (rows : List ArtifactRecord) :
    List ArtifactRecord :=
  rows.filter fun r => r.workflowId = w && r.artifactType = t && r.isActive

/-- None is left after the deactivation. -/
theorem activeRows_deactivate (w : String) (t : ArtifactType) (rows : List ArtifactRecord) :
    activeRows w t (rows.map (deactivate w t)) = [] := by
  rw [activeRows, List.filter_eq_nil_iff]
  intro r hr
  obtain ⟨q, -, rfl⟩ := List.mem_map.mp hr
  intro hc
  simp only [deactivate_workflowId, deactivate_artifactType, Bool.and_eq_true,
    decide_eq_true_eq] at hc
  rw [deactivate_inactive _ _ q hc.1.1 hc.1.2] at hc
  exact absurd hc.2 (by simp)

/-- Those of other workflows and types stay. -/
theorem activeRows_deactivate_of_ne {w w' : String} {t t' : ArtifactType}
    (hne : ¬ (w' = w ∧ t' = t)) (rows : List ArtifactRecord) :
    activeRows w t (rows.map (deactivate w' t')) = activeRows w t rows := by
  induction rows with
  | nil => rfl
  | cons r rows ih =>
      rw [activeRows, activeRows] at ih ⊢
      rw [List.map_cons, List.filter_cons, List.filter_cons, ih]
      by_cases hr : r.workflowId = w' ∧ r.artifactType = t'
      · have hno : ¬ (r.workflowId = w ∧ r.artifactType = t) := fun hc =>
          hne ⟨hr.1.symm.trans hc.1, hr.2.symm.trans hc.2⟩
        simp only [deactivate_workflowId, deactivate_artifactType]
        by_cases h1 : r.workflowId = w
        · have h2 : ¬ r.artifactType = t := fun h2 => hno ⟨h1, h2⟩
          simp [h2]
        · simp [h1]
      · rw [deactivate_of_ne _ _ r hr]

theorem activeRows_of_ne {w : String} {t : ArtifactType} {record : ArtifactRecord}
    (hne : ¬ (record.workflowId = w ∧ record.artifactType = t)) : activeRows w t [record] = [] := by
  rw [activeRows, List.filter_eq_nil_iff]
  intro r hr
  obtain rfl := List.mem_singleton.mp hr
  intro hc
  simp only [Bool.and_eq_true, decide_eq_true_eq] at hc
  exact hne hc.1

theorem withArtifact_rows {record : ArtifactRecord} {artifacts : Table ArtifactRecord.artifactId}
    (hfresh : artifacts.get? record.artifactId = none) :
    (withArtifact record artifacts).rows =
      artifacts.rows.map (deactivate record.workflowId record.artifactType) ++ [record] := by
  unfold withArtifact
  rw [Table.rows_upsert_of_get?_none (by rw [Table.get?_mapRows, hfresh]; rfl)]
  rfl

/-- Storing an artifact adds its version and no other. -/
theorem hasArtifact_withArtifact {record : ArtifactRecord} {s s' : Store}
    (hs' : s'.artifacts = withArtifact record s.artifacts)
    (hfresh : s.artifacts.get? record.artifactId = none) (w : String) (t : ArtifactType)
    (v : Int) :
    s'.hasArtifact w t v = true ↔
      s.hasArtifact w t v = true ∨
        (record.workflowId = w ∧ record.artifactType = t ∧ record.version = v) := by
  unfold Store.hasArtifact
  rw [hs', withArtifact_rows hfresh, List.any_append, Bool.or_eq_true, List.any_map]
  simp [Function.comp_def, and_assoc]

/-- The stored artifact is the active one of its type. -/
theorem getActiveArtifact_withArtifact {record : ArtifactRecord} {s s' : Store}
    (hs' : s'.artifacts = withArtifact record s.artifacts)
    (hfresh : s.artifacts.get? record.artifactId = none) (hact : record.isActive = true) :
    getActiveArtifact s' record.workflowId record.artifactType = some record := by
  have hold := activeRows_deactivate record.workflowId record.artifactType s.artifacts.rows
  rw [activeRows] at hold
  unfold getActiveArtifact listActiveArtifacts
  rw [hs', withArtifact_rows hfresh, List.filter_append, hold]
  simp [hact]

/-- The active artifacts of other types and workflows stay. -/
theorem getActiveArtifact_withArtifact_of_ne {record : ArtifactRecord} {s s' : Store}
    (hs' : s'.artifacts = withArtifact record s.artifacts)
    (hfresh : s.artifacts.get? record.artifactId = none) {w : String} {t : ArtifactType}
    (hne : ¬ (record.workflowId = w ∧ record.artifactType = t)) :
    getActiveArtifact s' w t = getActiveArtifact s w t := by
  have hold := activeRows_deactivate_of_ne hne s.artifacts.rows
  have hrecord := activeRows_of_ne hne
  rw [activeRows] at hold hrecord
  unfold getActiveArtifact listActiveArtifacts
  rw [hs', withArtifact_rows hfresh, List.filter_append, hold, hrecord, List.append_nil]

theorem getActiveArtifact_congr {s s' : Store} (h : s'.artifacts = s.artifacts) (w : String)
    (t : ArtifactType) : getActiveArtifact s' w t = getActiveArtifact s w t := by
  unfold getActiveArtifact listActiveArtifacts
  rw [h]

theorem hasArtifact_congr {s s' : Store} (h : s'.artifacts = s.artifacts) (w : String)
    (t : ArtifactType) (v : Int) : s'.hasArtifact w t v = s.hasArtifact w t v := by
  unfold Store.hasArtifact
  rw [h]

/-- An active artifact is stored. -/
theorem hasArtifact_of_getActiveArtifact {s : Store} {w : String} {t : ArtifactType}
    {r : ArtifactRecord} (h : getActiveArtifact s w t = some r) :
    s.hasArtifact w t r.version = true := by
  have hmem : r ∈ listActiveArtifacts s w t := List.mem_of_mem_head? h
  unfold listActiveArtifacts at hmem
  rw [List.mem_insertionSort, List.mem_filter] at hmem
  obtain ⟨hrow, hr⟩ := hmem
  simp only [Bool.and_eq_true] at hr
  exact List.any_eq_true.mpr ⟨r, hrow, by simp [hr.1]⟩

end CartoonDemo
