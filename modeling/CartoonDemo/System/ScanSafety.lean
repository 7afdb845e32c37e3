import CartoonDemo.Library.Snapshot
import CartoonDemo.System.RepairKeys

/-!
# CartoonDemo.System.ScanSafety

Scans that **interleave** with the other processes. The loop of `scan_and_repair` compares the
version of a row before it opens the repair transaction, and nothing compares it again before a
task is recreated; and an exception of one repair ends the whole scan.

Both go well as long as no repair and no read of a scan raises and nobody writes the row of a
workflow between its inspection and its repair. Under that condition the inspected row is the stored one
(`Observed.eq_of_version`), the repair goes through and every candidate is reported.
-/

namespace CartoonDemo

open WorkflowEngine TransitionExecutor WorkerLoop ReconciliationScanner

/-! ### Versions only advance -/

/-- The stored row of each workflow. -/
abbrev Store.row (s : Store) : String → Option WorkflowRecord := s.workflows.get?

/-- A row that has been read is still stored or has a higher version by now. -/
abbrev RowObserved (s : Store) (w : WorkflowRecord) : Prop :=
  Observed WorkflowRecord.stateVersion s.row w.workflowId w

theorem advances_upsert {s s' : Store} {id : String} {w row : WorkflowRecord}
    (hread : s.workflows.get? id = some w) (hid : row.workflowId = id)
    (hv : w.stateVersion < row.stateVersion) (h : s'.workflows = s.workflows.upsert row) :
    Advances WorkflowRecord.stateVersion s.row s'.row := by
  have hget : ∀ k, s'.row k = if row.workflowId = k then some row else s.row k := by
    intro k
    unfold Store.row
    rw [h, Table.get?_upsert]
  refine Advances.of_write (k := id) (v := row) ?_ ?_ ?_
  · intro r hr
    obtain rfl : w = r := Option.some.inj (hread.symm.trans hr)
    exact hv
  · rw [hget, if_pos hid]
  · intro k hk
    rw [hget, if_neg (fun hid' => hk (hid'.symm.trans hid))]

theorem StoreStep.advances {cfg : AppConfig} {origin : Origin} {s s' : Store}
    (h : StoreStep cfg origin s s') : Advances WorkflowRecord.stateVersion s.row s'.row := by
  have hsame : s'.workflows = s.workflows →
      Advances WorkflowRecord.stateVersion s.row s'.row := by
    intro heq
    unfold Store.row
    rw [heq]
    exact Advances.refl
  cases h with
  | quiet h => exact hsame h.workflows
  | marked outboxId h => exact hsame (by rw [h.same])
  | created env workflowId w row h hf =>
      intro k r hr
      refine ⟨r, ?_, Or.inl rfl⟩
      unfold Store.row at hr ⊢
      rw [h.workflows, Table.get?_upsert, if_neg ?_]
      · exact hr
      · intro hk
        rw [← hk, h.rowId, h.absent] at hr
        exact absurd hr (by simp)
  | moved env workflowId w row next h hm hf => exact advances_upsert h.read h.rowId h.version h.workflows
  | recreated env w tt attempt ho h hf => exact hsame (by rw [h.store, dispatch_workflows])
  | staged env ctx n w row next denv task h =>
      exact advances_upsert h.read h.rowId h.version h.workflows

theorem RowObserved.steps {cfg : AppConfig} {origin : Origin} {s s' : Store} {w : WorkflowRecord}
    (hw : RowObserved s w) (h : Relation.ReflTransGen (StoreStep cfg origin) s s') :
    RowObserved s' w := by
  induction h with
  | refl => exact hw
  | tail _ hstep ih => exact ih.advance hstep.advances

/-! ### What a scan promises

A repair that is committed is one of the row as the scan has seen it.
-/

/-- A recreated task commits at the version that the scan has observed. -/
def commitsCurrent (σ : Sys) : Action → Bool
  | .scan k (.repair _) =>
      (σ.scans[k]?).all fun scan => scan.pending.all fun p =>
        match p.1 with
        | .recreate w _ _ =>
            (σ.store.workflows.get? w.workflowId).any (fun row => row.stateVersion = w.stateVersion)
        | .fail _ => true
  | _ => true

/-- The scan has not been ended by an exception, and when it is over it has reported every
candidate. -/
def Scan.reportsAll (scan : Scan) : Bool :=
  scan.aborted.isNone &&
    (!scan.remaining.isEmpty || scan.pending.isSome || scan.reports.length = scan.scanned)

/-- The step commits repairs at the observed version and leaves every scan complete. -/
def RepairsSafely (repo : WorkflowRepoKind) (cfg : AppConfig) (sc : ReconciliationScanner)
    (σ : Sys) (a : Action) : Prop :=
  commitsCurrent σ a = true ∧ (Sys.step repo cfg sc a σ).scans.all Scan.reportsAll = true

/-- A repair transaction raises by itself, or a read of a scan does. -/
def raisesInScan (σ : Sys) : Action → Bool
  | .scan k (.repairRaises _) => (σ.scans[k]?).any (fun scan => scan.pending.isSome)
  | .scan k (.readRaises _) =>
      (σ.scans[k]?).any (fun scan => scan.pending.isNone && !scan.remaining.isEmpty)
  | .scanCollectRaises _ => true
  | _ => false

/-- The repair transaction of scan `k`. -/
def isRepairOf (k : Nat) : Action → Bool
  | .scan j (.repair _) => j = k
  | _ => false

/-- The step writes the row of a workflow between its inspection and its repair. -/
def disturbs (repo : WorkflowRepoKind) (cfg : AppConfig) (sc : ReconciliationScanner) (σ : Sys)
    (a : Action) : Bool :=
  (List.range σ.scans.length).any fun k =>
    !isRepairOf k a && (σ.scans[k]?).any fun scan => scan.pending.any fun p =>
      (Sys.step repo cfg sc a σ).store.workflows.get? p.1.workflow.workflowId ≠
        σ.store.workflows.get? p.1.workflow.workflowId

/-- Nothing gets in the way of a repair. -/
def Undisturbed (repo : WorkflowRepoKind) (cfg : AppConfig) (sc : ReconciliationScanner) (σ : Sys)
    (a : Action) : Prop :=
  raisesInScan σ a = false ∧ disturbs repo cfg sc σ a = false

instance (repo : WorkflowRepoKind) (cfg : AppConfig) (sc : ReconciliationScanner) (σ : Sys)
    (a : Action) : Decidable (RepairsSafely repo cfg sc σ a) :=
  inferInstanceAs (Decidable (_ ∧ _))

instance (repo : WorkflowRepoKind) (cfg : AppConfig) (sc : ReconciliationScanner) (σ : Sys)
    (a : Action) : Decidable (Undisturbed repo cfg sc σ a) :=
  inferInstanceAs (Decidable (_ ∧ _))

/-! ### The invariant -/

structure ScanSafe (s : Store) (scan : Scan) : Prop where
  running : scan.aborted = none
  count : scan.reports.length + scan.pending.toList.length + scan.remaining.length = scan.scanned
  pending : ∀ plan report, scan.pending = some (plan, report) → PlanSound s plan
  observed : ∀ c ∈ scan.remaining, RowObserved s c.workflow
  transient : ∀ c ∈ scan.remaining, c.patternId = .rp003 → c.workflow.state.isTransient = true

structure SysSafe (σ : Sys) : Prop where
  sound : SysSound σ
  scans : ∀ scan ∈ σ.scans, ScanSafe σ.store scan

theorem sysSafe_empty : SysSafe {} where
  sound := sysSound_empty
  scans := by intro scan h; exact absurd h (by simp)

theorem ScanSafe.reportsAll {s : Store} {scan : Scan} (h : ScanSafe s scan) :
    scan.reportsAll = true := by
  have hcount := h.count
  unfold Scan.reportsAll
  rw [h.running]
  cases hp : scan.pending with
  | some p => simp
  | none =>
      cases hr : scan.remaining with
      | cons c rest => simp
      | nil =>
          rw [hp, hr] at hcount
          simpa using hcount

/-- What an undisturbed step leaves alone. -/
theorem undisturbed_row {repo : WorkflowRepoKind} {cfg : AppConfig} {sc : ReconciliationScanner}
    {σ : Sys} {a : Action} {k : Nat} {scan : Scan} {plan : RepairPlan}
    {report : ReconciliationReport} (hd : disturbs repo cfg sc σ a = false)
    (hk : σ.scans[k]? = some scan) (hp : scan.pending = some (plan, report))
    (hown : isRepairOf k a = false) :
    (Sys.step repo cfg sc a σ).store.workflows.get? plan.workflow.workflowId =
      σ.store.workflows.get? plan.workflow.workflowId := by
  have hlt : k < σ.scans.length := (List.getElem?_eq_some_iff.mp hk).1
  unfold disturbs at hd
  rw [List.any_eq_false] at hd
  have hno := hd k (List.mem_range.mpr hlt)
  rw [hk, hown, Option.any_some, hp, Option.any_some] at hno
  by_contra hne
  exact hno (by simp [hne])

/-- A scan that the step does not belong to. -/
theorem ScanSafe.other {repo : WorkflowRepoKind} {cfg : AppConfig} {sc : ReconciliationScanner}
    {σ : Sys} {a : Action} {k : Nat} {scan : Scan} (h : ScanSafe σ.store scan)
    (hσ : SysSound σ) (hd : disturbs repo cfg sc σ a = false) (hk : σ.scans[k]? = some scan)
    (hown : isRepairOf k a = false) : ScanSafe (Sys.step repo cfg sc a σ).store scan where
  running := h.running
  count := h.count
  pending := by
    intro plan report hp
    obtain ⟨hstored, htrans⟩ := h.pending plan report hp
    refine ⟨?_, htrans⟩
    rw [undisturbed_row hd hk hp hown]
    exact hstored
  observed := fun c hc => RowObserved.steps (h.observed c hc) (step_store repo cfg sc hσ a)
  transient := h.transient

/-- The inspected row of a remaining candidate is the one that the scan collected. -/
theorem ScanSafe.planSound {repo : WorkflowRepoKind} {cfg : AppConfig}
    {sc : ReconciliationScanner} {s : Store} {scan : Scan} {now : Time}
    {c : ReconciliationCandidate} {plan : RepairPlan} {report : ReconciliationReport}
    (h : ScanSafe s scan) (hc : c ∈ scan.remaining)
    (hi : sc.inspectCandidate repo cfg now c s = .repair plan report) : PlanSound s plan := by
  obtain ⟨fresh, hg, hw, hv⟩ := inspectCandidate_stored hi
  obtain rfl : fresh = c.workflow := (h.observed c hc).eq_of_version hg hv
  have hsound : CandidateSound s c := ⟨hg, h.transient c hc⟩
  obtain ⟨report', hcur⟩ := inspectCandidate_current sc repo cfg now hg
  rw [hi] at hcur
  cases hp : sc.planOf repo cfg now s c with
  | none => rw [hp] at hcur; exact absurd hcur (by simp)
  | some plan' =>
      rw [hp] at hcur
      obtain ⟨rfl, -⟩ : plan = plan' ∧ report = report' := by simpa using hcur
      exact hsound.planSound hp

/-- A sound plan goes through. -/
theorem ReconciliationScanner.PlanSound.repairs {repo : WorkflowRepoKind} {cfg : AppConfig} {s : Store}
    {plan : RepairPlan} (h : PlanSound s plan) (env : Env) (e : PyException) :
    performRepair repo cfg env plan s ≠ .error e := by
  cases plan with
  | recreate w tt attempt =>
      rw [performRepair_recreate]
      simp
  | fail w =>
      rw [h.performRepair_fail]
      simp

/-- An undisturbed step of a scan keeps it safe. -/
theorem ScanSafe.move {repo : WorkflowRepoKind} {cfg : AppConfig} {sc : ReconciliationScanner}
    {s s' : Store} {scan scan' : Scan} {b : ScanAction} (h : ScanSafe s scan)
    (hm : ScanMove repo cfg sc s scan b scan' s')
    (hraise : ∀ e, b = .repairRaises e → scan.pending.isSome = false)
    (hread : ∀ e, b = .readRaises e → (scan.pending.isNone && !scan.remaining.isEmpty) = false)
    (hobs : ∀ w, RowObserved s w → RowObserved s' w) : ScanSafe s' scan' := by
  have hcount := h.count
  cases hm with
  | stay b => exact h
  | skip now c rest report ha hp hr hi =>
      have hrest : ∀ c' ∈ rest, c' ∈ scan.remaining := by
        intro c' hc'
        rw [hr]
        exact List.mem_cons_of_mem _ hc'
      exact {
        running := ha
        count := by
          rw [hr, hp] at hcount
          simp only [List.length_append, List.length_cons, List.length_nil, hp] at hcount ⊢
          omega
        pending := fun plan report hpend => h.pending plan report hpend
        observed := fun c' hc' => h.observed c' (hrest c' hc')
        transient := fun c' hc' => h.transient c' (hrest c' hc') }
  | plan now c rest plan report ha hp hr hi =>
      have hrest : ∀ c' ∈ rest, c' ∈ scan.remaining := by
        intro c' hc'
        rw [hr]
        exact List.mem_cons_of_mem _ hc'
      exact {
        running := ha
        count := by
          rw [hr, hp] at hcount
          simp only [Option.toList_none, Option.toList_some, List.length_cons,
            List.length_nil] at hcount ⊢
          omega
        pending := by
          intro plan' report' hpend
          obtain ⟨rfl, rfl⟩ : plan = plan' ∧ report = report' := by simpa using hpend
          exact h.planSound (by rw [hr]; simp) hi
        observed := fun c' hc' => h.observed c' (hrest c' hc')
        transient := fun c' hc' => h.transient c' (hrest c' hc') }
  | repair env plan report s' ha hp hf hr =>
      exact {
        running := ha
        count := by
          rw [hp] at hcount
          simp only [Option.toList_some, Option.toList_none, List.length_append, List.length_cons,
            List.length_nil] at hcount ⊢
          omega
        pending := fun plan report hpend => absurd hpend (by simp)
        observed := fun c hc => hobs _ (h.observed c hc)
        transient := h.transient }
  | conflict env plan report e ha hp hr =>
      exact absurd hr ((h.pending plan report hp).repairs env e)
  | unread e c rest ha hp hr =>
      have hnone := hread e rfl
      rw [hp, hr] at hnone
      exact absurd hnone (by simp)
  | raised e plan report ha hp =>
      have hnone := hraise e rfl
      rw [hp] at hnone
      exact absurd hnone (by simp)

theorem isRepairOf_of_origin {a : Action} (h : a.origin ≠ .reconciler) (k : Nat) :
    isRepairOf k a = false := by
  cases a with
  | scan j b => exact absurd rfl h
  | _ => rfl

/-- **An undisturbed step keeps every scan safe.** -/
theorem SysSafe.step {repo : WorkflowRepoKind} {cfg : AppConfig} {sc : ReconciliationScanner}
    {σ : Sys} {a : Action} (h : SysSafe σ) (hu : Undisturbed repo cfg sc σ a) :
    SysSafe (Sys.step repo cfg sc a σ) := by
  have hsound : SysSound (Sys.step repo cfg sc a σ) := h.sound.step a
  refine ⟨hsound, ?_⟩
  obtain ⟨hraise, hd⟩ := hu
  by_cases ho : a.origin = .reconciler
  · cases a with
    | scanCollect batchSize clock =>
        intro scan hscan
        rcases List.mem_append.mp hscan with hold | hnew
        · exact h.scans scan hold
        · obtain rfl := List.mem_singleton.mp hnew
          exact {
            running := rfl
            count := by simp
            pending := fun plan report hp => absurd hp (by simp)
            observed := fun c hc => Observed.of_get (collectCandidates_sound hc).current
            transient := fun c hc => (collectCandidates_sound hc).transient }
    | scanCollectRaises e => exact absurd hraise (by simp [raisesInScan])
    | scan k b =>
        cases hk : σ.scans[k]? with
        | none =>
            have hstay : Sys.step repo cfg sc (.scan k b) σ = σ := by simp only [Sys.step, hk]
            rw [hstay]
            exact h.scans
        | some scan =>
            obtain ⟨scan', s', hmove, heq⟩ := stepScan_move repo cfg sc hk b
            have hstep : Sys.step repo cfg sc (.scan k b) σ =
                { σ with store := s', scans := σ.scans.set k scan' } := by
              simp only [Sys.step, hk]
              exact heq
            have hsteps := step_store repo cfg sc h.sound (.scan k b)
            intro scan₁ hmem
            obtain ⟨j, hj⟩ := List.mem_iff_getElem?.mp hmem
            rw [hstep] at hj hsteps
            by_cases hjk : k = j
            · subst hjk
              obtain rfl : scan' = scan₁ := by
                rw [List.getElem?_set_self (List.getElem?_eq_some_iff.mp hk).1] at hj
                exact Option.some.inj hj
              rw [hstep]
              refine (h.scans scan (List.mem_of_getElem? hk)).move hmove ?_ ?_
                (fun w hw => hw.steps hsteps)
              · intro e hb
                subst hb
                simpa [raisesInScan, hk] using hraise
              · intro e hb
                subst hb
                simpa [raisesInScan, hk] using hraise
            · rw [List.getElem?_set_ne hjk] at hj
              refine (h.scans scan₁ (List.mem_of_getElem? hj)).other h.sound hd hj ?_
              cases b with
              | repair env => simp [isRepairOf, hjk]
              | inspect | readRaises | repairRaises => rfl
    | _ => exact absurd ho (by simp [Action.origin])
  · intro scan hscan
    rw [step_scans repo cfg sc σ ho] at hscan
    obtain ⟨k, hk⟩ := List.mem_iff_getElem?.mp hscan
    exact (h.scans scan hscan).other h.sound hd hk (isRepairOf_of_origin ho k)

/-- In a safe system a repair commits at the observed version. -/
theorem SysSafe.commitsCurrent {σ : Sys} (h : SysSafe σ) (a : Action) :
    commitsCurrent σ a = true := by
  cases a with
  | scan k b =>
      cases b with
      | repair env =>
          unfold CartoonDemo.commitsCurrent
          dsimp only
          cases hk : σ.scans[k]? with
          | none => rfl
          | some scan =>
              rw [Option.all_some]
              cases hp : scan.pending with
              | none => rfl
              | some p =>
                  obtain ⟨plan, report⟩ := p
                  rw [Option.all_some]
                  have hplan := (h.scans scan (List.mem_of_getElem? hk)).pending plan report hp
                  cases plan with
                  | recreate w tt attempt =>
                      have hstored : σ.store.workflows.get? w.workflowId = some w := hplan.stored
                      simp [hstored]
                  | fail w => rfl
      | inspect | readRaises | repairRaises => rfl
  | _ => rfl

/-- **Scans interleave safely with everything else**, in every run in which no repair and no
read of a scan raises by itself and no row is written between its inspection and its repair: a task is recreated
only at the version that the scan has observed, and every scan reports all its candidates. -/
theorem run_repairsSafely (repo : WorkflowRepoKind) (cfg : AppConfig)
    (sc : ReconciliationScanner) (as : List Action)
    (h : Along (Sys.step repo cfg sc) (Undisturbed repo cfg sc) {} as) :
    Along (Sys.step repo cfg sc) (RepairsSafely repo cfg sc) {} as := by
  refine along_imp (fun _ _ hσ hu => hσ.step hu) (fun σ a hσ hu => ?_) sysSafe_empty h
  refine ⟨hσ.commitsCurrent a, ?_⟩
  rw [List.all_eq_true]
  intro scan hscan
  exact ((hσ.step hu).scans scan hscan).reportsAll

/-! ### Interleaved scans

A second scan in between makes the first one act on an old row; a read that raises ends a scan
early.
-/

/-- A scan collects its candidates, all clocks standing at `now`. -/
def collectAt (now : Time) : Action := .scanCollect 100 { listed := now, evaluated := fun _ => now }

/-- The reconciler inspects a published collection and recreates its task. -/
def repairRun : List Action :=
  publishedRun ++ [collectAt 2, .scan 0 (.inspect 2), .scan 0 (.repair (Env.numbered 2 9))]

/-- The same, but a worker commits the collection between the inspection and the repair. -/
def staleRepairRun : List Action :=
  publishedRun ++ [collectAt 2, .scan 0 (.inspect 2)] ++
    executeEntry 0 0 "worker" "lease-1" 2 (StageEnv.numbered 2 1) (.ok {}) ++
    [.scan 0 (.repair (Env.numbered 2 9))]

/-- A worker commits an overdue topic selection between its inspection and its repair, while
another workflow waits for its turn in the same scan. -/
def abortedScanRun : List Action :=
  .initiate (Env.numbered 0 0) { workflowId := some "wf" } :: processRow 1 0 0 0 1 (.ok {}) ++
    [.initiate (Env.numbered 2 7) { workflowId := some "other" }, collectAt (seconds (31 * 60)),
      .scan 0 (.inspect (seconds (31 * 60)))] ++
    processRow (seconds (31 * 60)) 2 1 0 2 (.ok {}) ++
    [.scan 0 (.repair (Env.numbered (seconds (31 * 60)) 9))]

/-- The undisturbed repair is safe. -/
theorem repairRun_safe :
    Along (Sys.step .fakes .prod {}) (Undisturbed .fakes .prod {}) {} repairRun ∧
      Along (Sys.step .fakes .prod {}) (RepairsSafely .fakes .prod {}) {} repairRun := by
  have hu : Along (Sys.step .fakes .prod {}) (Undisturbed .fakes .prod {}) {} repairRun := by
    decide +kernel
  exact ⟨hu, run_repairsSafely .fakes .prod {} repairRun hu⟩

/-- In the first run a task is recreated at an outdated version, in the second one a conflict
ends the scan before the other workflow is reported. -/
theorem interleaved_scans_unsafe :
    ¬ Along (Sys.step .fakes .prod {}) (RepairsSafely .fakes .prod {}) {} staleRepairRun ∧
      ¬ Along (Sys.step .fakes .prod {}) (RepairsSafely .fakes .prod {}) {} abortedScanRun := by
  decide +kernel

end CartoonDemo
