import CartoonDemo.System.Consistent

/-!
# CartoonDemo.System.ScanSpec

One step of `scan_and_repair` inside the system, as an **inversion lemma**: `ScanMove` lists
what a step of a scan can do, with everything it has checked, and `stepScan_move` says that a
step of the system does one of these to its scan and to the store. No other action touches a
scan (`step_scans`).
-/

namespace CartoonDemo

open ReconciliationScanner

/-- What a step of a scan over the store `s` can do. -/
inductive ScanMove (repo : WorkflowRepoKind) (cfg : AppConfig) (sc : ReconciliationScanner)
    (s : Store) (scan : Scan) : ScanAction → Scan → Store → Prop
  | stay (a : ScanAction) : ScanMove repo cfg sc s scan a scan s
  | skip (now : Time) (c : ReconciliationCandidate) (rest : List ReconciliationCandidate)
      (report : ReconciliationReport) (ha : scan.aborted = none) (hp : scan.pending = none)
      (hr : scan.remaining = c :: rest)
      (hi : sc.inspectCandidate repo cfg now c s = .skip report) :
      ScanMove repo cfg sc s scan (.inspect now)
        { scan with remaining := rest, reports := scan.reports ++ [report] } s
  | plan (now : Time) (c : ReconciliationCandidate) (rest : List ReconciliationCandidate)
      (plan : RepairPlan) (report : ReconciliationReport) (ha : scan.aborted = none)
      (hp : scan.pending = none) (hr : scan.remaining = c :: rest)
      (hi : sc.inspectCandidate repo cfg now c s = .repair plan report) :
      ScanMove repo cfg sc s scan (.inspect now)
        { scan with remaining := rest, pending := some (plan, report) } s
  | unread (e : PyException) (c : ReconciliationCandidate) (rest : List ReconciliationCandidate)
      (ha : scan.aborted = none) (hp : scan.pending = none) (hr : scan.remaining = c :: rest) :
      ScanMove repo cfg sc s scan (.readRaises e) { scan with aborted := some e } s
  | repair (env : Env) (plan : RepairPlan) (report : ReconciliationReport) (s' : Store)
      (ha : scan.aborted = none) (hp : scan.pending = some (plan, report))
      (hf : s.freshDispatch env = true) (hr : performRepair repo cfg env plan s = .ok s') :
      ScanMove repo cfg sc s scan (.repair env)
        { scan with pending := none, reports := scan.reports ++ [report] } s'
  | conflict (env : Env) (plan : RepairPlan) (report : ReconciliationReport) (e : PyException)
      (ha : scan.aborted = none) (hp : scan.pending = some (plan, report))
      (hr : performRepair repo cfg env plan s = .error e) :
      ScanMove repo cfg sc s scan (.repair env)
        { scan with pending := none, aborted := some e } s
  | raised (e : PyException) (plan : RepairPlan) (report : ReconciliationReport)
      (ha : scan.aborted = none) (hp : scan.pending = some (plan, report)) :
      ScanMove repo cfg sc s scan (.repairRaises e)
        { scan with pending := none, aborted := some e } s

/-- **One step of a scan.** -/
theorem stepScan_move (repo : WorkflowRepoKind) (cfg : AppConfig) (sc : ReconciliationScanner)
    {σ : Sys} {k : Nat} {scan : Scan} (hk : σ.scans[k]? = some scan) (a : ScanAction) :
    ∃ scan' s', ScanMove repo cfg sc σ.store scan a scan' s' ∧
      σ.stepScan repo cfg sc k scan a = { σ with store := s', scans := σ.scans.set k scan' } := by
  have hstay : σ.stepScan repo cfg sc k scan a = σ → ∃ scan' s',
      ScanMove repo cfg sc σ.store scan a scan' s' ∧
      σ.stepScan repo cfg sc k scan a = { σ with store := s', scans := σ.scans.set k scan' } := by
    intro heq
    refine ⟨scan, σ.store, .stay a, heq.trans ?_⟩
    have hset : σ.scans.set k scan = σ.scans := by
      obtain ⟨hlt, hget⟩ := List.getElem?_eq_some_iff.mp hk
      rw [← hget]
      exact List.set_getElem_self hlt
    rw [hset]
  cases a with
  | inspect now =>
      by_cases hgo : ∃ c rest, scan.aborted = none ∧ scan.pending = none ∧ scan.remaining = c :: rest
      · obtain ⟨c, rest, ha, hp, hr⟩ := hgo
        cases hi : sc.inspectCandidate repo cfg now c σ.store with
        | skip report =>
            refine ⟨_, _, .skip now c rest report ha hp hr hi, ?_⟩
            simp only [Sys.stepScan, ha, hp, hr, hi]
            rfl
        | repair plan report =>
            refine ⟨_, _, .plan now c rest plan report ha hp hr hi, ?_⟩
            simp only [Sys.stepScan, ha, hp, hr, hi]
            rfl
      · refine hstay ?_
        unfold Sys.stepScan
        dsimp only
        split
        · next c rest ha hp hr => exact absurd ⟨c, rest, ha, hp, hr⟩ hgo
        · rfl
  | readRaises e =>
      by_cases hgo : ∃ c rest, scan.aborted = none ∧ scan.pending = none ∧ scan.remaining = c :: rest
      · obtain ⟨c, rest, ha, hp, hr⟩ := hgo
        refine ⟨_, _, .unread e c rest ha hp hr, ?_⟩
        simp only [Sys.stepScan, ha, hp, hr]
        rfl
      · refine hstay ?_
        unfold Sys.stepScan
        dsimp only
        split
        · next c rest ha hp hr => exact absurd ⟨c, rest, ha, hp, hr⟩ hgo
        · rfl
  | repair env =>
      by_cases hgo : ∃ plan report, scan.aborted = none ∧ scan.pending = some (plan, report)
      · obtain ⟨plan, report, ha, hp⟩ := hgo
        by_cases hf : σ.store.freshDispatch env = true
        · cases hr : performRepair repo cfg env plan σ.store with
          | error e =>
              refine ⟨_, _, .conflict env plan report e ha hp hr, ?_⟩
              simp only [Sys.stepScan, ha, hp, hf, hr, if_true]
              rfl
          | ok s' =>
              refine ⟨_, _, .repair env plan report s' ha hp hf hr, ?_⟩
              simp only [Sys.stepScan, ha, hp, hf, hr, if_true]
              rfl
        · refine hstay ?_
          simp only [Sys.stepScan, ha, hp]
          exact if_neg hf
      · refine hstay ?_
        unfold Sys.stepScan
        dsimp only
        split
        · next plan report ha hp => exact absurd ⟨plan, report, ha, hp⟩ hgo
        · rfl
  | repairRaises e =>
      by_cases hgo : ∃ plan report, scan.aborted = none ∧ scan.pending = some (plan, report)
      · obtain ⟨plan, report, ha, hp⟩ := hgo
        refine ⟨_, _, .raised e plan report ha hp, ?_⟩
        simp only [Sys.stepScan, ha, hp]
        rfl
      · refine hstay ?_
        unfold Sys.stepScan
        dsimp only
        split
        · next p ha hp => exact absurd ⟨p.1, p.2, ha, hp⟩ hgo
        · rfl

/-- Only the reconciler's actions touch the scans. -/
theorem step_scans (repo : WorkflowRepoKind) (cfg : AppConfig) (sc : ReconciliationScanner)
    (σ : Sys) {a : Action} (ha : a.origin ≠ .reconciler) :
    (Sys.step repo cfg sc a σ).scans = σ.scans := by
  cases a with
  | scanCollect batchSize clock => exact absurd rfl ha
  | scanCollectRaises e => exact absurd rfl ha
  | scan k b => exact absurd rfl ha
  | publish i b =>
      unfold Sys.step
      dsimp only
      split
      · rfl
      · cases b <;> unfold Sys.stepPublish Sys.setFrame <;> dsimp only <;> repeat' split
        all_goals rfl
  | crashWorker worker => rfl
  | expireLease taskId => rfl
  | _ =>
      unfold Sys.step
      dsimp only
      repeat' split
      all_goals rfl

end CartoonDemo
