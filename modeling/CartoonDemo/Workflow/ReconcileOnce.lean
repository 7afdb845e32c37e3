import CartoonDemo.Workflow.ReconcileQuiet

/-!
# CartoonDemo.Workflow.ReconcileOnce

A scan **handles each workflow once**. Three passes detect candidates; what is left of a workflow is
its candidate of the most urgent pattern. The loop over the candidates has two accumulators, the
reports and the number of repairs (`repairLoop`), and seven ways to its next round: each appends one
report, and those that repair count one.
-/

namespace CartoonDemo

namespace ReconciliationScanner

/-! ### The most urgent pattern -/

/-- The candidates that `collect_candidates` has found before it merges them. -/
def detected (sc : ReconciliationScanner) (repo : WorkflowRepoKind) (clock : CollectClock)
    (batchSize : Nat) (s : Store) : List ReconciliationCandidate :=
  (fetchUnpublished s batchSize).foldl (terminalStep s)
    (sc.stuckCandidates repo clock batchSize s ++ outboxCandidates repo batchSize s)

section Collect

variable {sc : ReconciliationScanner} {repo : WorkflowRepoKind} {clock : CollectClock}
  {batchSize : Nat} {s : Store}

theorem length_collectCandidates : (sc.collectCandidates repo clock batchSize s).length ≤ batchSize :=
  List.length_take_le _ _

/-- **What is left of a workflow** was detected, and nothing more urgent was. -/
theorem dedupeCandidates_urgent {candidates : List ReconciliationCandidate}
    {c : ReconciliationCandidate} (hc : c ∈ dedupeCandidates candidates) :
    c ∈ candidates ∧ ∀ d ∈ candidates, d.workflowId = c.workflowId →
      c.patternId.priority ≤ d.patternId.priority := by
  obtain ⟨hsub, hcovers⟩ := foldl_dedupeStep Table.empty candidates
  refine ⟨(hsub c hc).resolve_left (by simp), fun d hd hid => ?_⟩
  obtain ⟨r, hr, hrid, hle⟩ := hcovers d (Or.inr hd)
  -- one candidate is left of a workflow
  have hrc : r = c := Table.eq_of_key_eq _ hr hc (hrid.trans hid)
  rwa [hrc] at hle

theorem collectCandidates_urgent {c : ReconciliationCandidate}
    (hc : c ∈ sc.collectCandidates repo clock batchSize s) :
    c ∈ sc.detected repo clock batchSize s ∧
      ∀ d ∈ sc.detected repo clock batchSize s, d.workflowId = c.workflowId →
        c.patternId.priority ≤ d.patternId.priority :=
  dedupeCandidates_urgent (List.mem_of_mem_take hc)

end Collect

/-! ### The loop and its accumulators

The reports are one for each candidate, and the counters count them.
-/

/-- The loop of `scan_and_repair`: `reports` and `repaired_count` are its accumulators. -/
def repairLoop (sc : ReconciliationScanner) (repo : WorkflowRepoKind) (cfg : AppConfig)
    (env : ScanEnv) : List ReconciliationCandidate → List ReconciliationReport → Nat → Store →
    Except PyException (List ReconciliationReport × Nat) × Store
  | [], reports, repairedCount, s => (.ok (reports, repairedCount), s)
  | candidate :: rest, reports, repairedCount, s =>
      match sc.inspectCandidate repo cfg (env.inspected candidate.workflowId) candidate s with
      | .skip report => repairLoop sc repo cfg env rest (reports ++ [report]) repairedCount s
      | .repair plan report =>
          match performRepair repo cfg (env.repair candidate.workflowId) plan s with
          | .error e => (.error e, s)
          | .ok s => repairLoop sc repo cfg env rest (reports ++ [report]) (repairedCount + 1) s

/-- `scan_and_repair`, with the accumulators of its loop. -/
def scanLoop (sc : ReconciliationScanner) (repo : WorkflowRepoKind) (cfg : AppConfig)
    (env : ScanEnv) (batchSize : Nat) (s : Store) :
    Except PyException ReconciliationResult × Store :=
  let candidates := sc.collectCandidates repo env.collect batchSize s
  let (outcome, s) := sc.repairLoop repo cfg env candidates [] 0 s
  (outcome.map fun (reports, repairedCount) =>
    { scannedCount := candidates.length, repairedCount, reports }, s)

/-- What a report is about. -/
def reportKey (r : ReconciliationReport) : String × PatternId := (r.workflowId, r.repairAction)

def candidateKey (c : ReconciliationCandidate) : String × PatternId := (c.workflowId, c.patternId)

/-- The reports of an inspection. -/
structure Reports (candidate : ReconciliationCandidate) (report : ReconciliationReport)
    (repaired : Bool) : Prop where
  key : reportKey report = candidateKey candidate
  repaired_eq : report.repaired = repaired

/-- **Each way out of an inspection** reports on its candidate: as repaired exactly if there is
something to repair. -/
theorem inspectCandidate_reports (sc : ReconciliationScanner) (repo : WorkflowRepoKind)
    (cfg : AppConfig) (now : Time) (candidate : ReconciliationCandidate) (s : Store) :
    match sc.inspectCandidate repo cfg now candidate s with
    | .skip report => Reports candidate report false
    | .repair _ report => Reports candidate report true := by
  rw [inspectCandidate]
  cases getWorkflow s candidate.workflowId with
  | none => exact ⟨rfl, rfl⟩
  | some fresh =>
      dsimp only
      by_cases hversion : fresh.stateVersion ≠ candidate.workflow.stateVersion
      · rw [if_pos hversion]
        exact ⟨rfl, rfl⟩
      · rw [if_neg hversion]
        cases candidate with
        | rp001 w expected => exact ⟨rfl, rfl⟩
        | rp002 w => exact ⟨rfl, rfl⟩
        | rp004 w => exact ⟨rfl, rfl⟩
        | rp003 w expected =>
            dsimp only
            by_cases hstuck : (!sc.isStuck now fresh
                (latestExpected (listTasks repo s fresh.workflowId) expected)) = true
            · rw [if_pos hstuck]
              exact ⟨rfl, rfl⟩
            · rw [if_neg hstuck]
              cases expected with
              | none => exact ⟨rfl, rfl⟩
              | some taskType =>
                  dsimp only
                  by_cases hretry : isStuckRetriable
                      (latestExpected (listTasks repo s fresh.workflowId) (some taskType))
                      (cfg.maxAttempts taskType) = true
                  · rw [if_pos hretry]
                    exact ⟨rfl, rfl⟩
                  · rw [if_neg hretry]
                    exact ⟨rfl, rfl⟩

section Loop

variable {sc : ReconciliationScanner} {repo : WorkflowRepoKind} {cfg : AppConfig} {env : ScanEnv}

/-- **One report for each candidate**, in their order, and one repair for each that says so. -/
theorem repairLoop_ok {candidates : List ReconciliationCandidate}
    {reports reports' : List ReconciliationReport} {n n' : Nat} {s s' : Store}
    (h : sc.repairLoop repo cfg env candidates reports n s = (.ok (reports', n'), s')) :
    ∃ new, reports' = reports ++ new ∧ new.map reportKey = candidates.map candidateKey ∧
      n' = n + (new.filter ReconciliationReport.repaired).length := by
  induction candidates generalizing reports n s with
  | nil =>
      obtain ⟨hok, -⟩ := Prod.mk.inj h
      obtain ⟨rfl, rfl⟩ := Prod.mk.inj (Except.ok.inj hok)
      exact ⟨[], (List.append_nil _).symm, rfl, rfl⟩
  | cons candidate rest ih =>
      have hreports := inspectCandidate_reports sc repo cfg (env.inspected candidate.workflowId)
        candidate s
      rw [repairLoop] at h
      cases hinspect : sc.inspectCandidate repo cfg (env.inspected candidate.workflowId) candidate s
        with
      | skip report =>
          rw [hinspect] at h hreports
          obtain ⟨new, rfl, hkeys, rfl⟩ := ih h
          refine ⟨report :: new, by rw [List.append_assoc]; rfl, ?_, ?_⟩
          · rw [List.map_cons, List.map_cons, hkeys, hreports.key]
          · rw [List.filter_cons_of_neg (by simp [hreports.repaired_eq])]
      | repair plan report =>
          rw [hinspect] at h hreports
          dsimp only at h
          cases hperform : performRepair repo cfg (env.repair candidate.workflowId) plan s with
          | error e =>
              rw [hperform] at h
              cases (Prod.mk.inj h).1
          | ok s₁ =>
              rw [hperform] at h
              obtain ⟨new, rfl, hkeys, rfl⟩ := ih h
              refine ⟨report :: new, by rw [List.append_assoc]; rfl, ?_, ?_⟩
              · rw [List.map_cons, List.map_cons, hkeys, hreports.key]
              · rw [List.filter_cons_of_pos (by simp [hreports.repaired_eq]), List.length_cons]
                omega

/-- The loop that returns its reports does what the loop with accumulators does. -/
theorem repairLoop_eq (candidates : List ReconciliationCandidate)
    (reports : List ReconciliationReport) (n : Nat) (s : Store) :
    sc.repairLoop repo cfg env candidates reports n s =
      ((sc.repairAll repo cfg env candidates s).1.map fun new =>
          (reports ++ new, n + (new.filter ReconciliationReport.repaired).length),
        (sc.repairAll repo cfg env candidates s).2) := by
  induction candidates generalizing reports n s with
  | nil => simp [repairLoop, repairAll, Except.map]
  | cons candidate rest ih =>
      have hreports := inspectCandidate_reports sc repo cfg (env.inspected candidate.workflowId)
        candidate s
      rw [repairLoop, repairAll]
      cases hinspect : sc.inspectCandidate repo cfg (env.inspected candidate.workflowId) candidate s
        with
      | skip report =>
          rw [hinspect] at hreports
          dsimp only
          rw [ih]
          cases (sc.repairAll repo cfg env rest s).1 with
          | error e => rfl
          | ok new => simp [Except.map, hreports.repaired_eq]
      | repair plan report =>
          rw [hinspect] at hreports
          dsimp only
          cases performRepair repo cfg (env.repair candidate.workflowId) plan s with
          | error e => rfl
          | ok s₁ =>
              dsimp only
              rw [ih]
              cases (sc.repairAll repo cfg env rest s₁).1 with
              | error e => rfl
              | ok new =>
                  simp only [Except.map, List.append_assoc, List.singleton_append,
                    List.filter_cons_of_pos hreports.repaired_eq, List.length_cons]
                  rw [Nat.add_assoc, Nat.add_comm 1]

theorem scanLoop_eq (batchSize : Nat) (s : Store) :
    sc.scanLoop repo cfg env batchSize s = sc.scanAndRepair repo cfg env batchSize s := by
  rw [scanLoop, scanAndRepair]
  dsimp only
  rw [repairLoop_eq]
  cases (sc.repairAll repo cfg env (sc.collectCandidates repo env.collect batchSize s) s).1 with
  | error e => rfl
  | ok reports => simp [Except.map]

end Loop

/-! ### A scan -/

/-- **A scan handles each workflow once.** Its candidates are at most as many as the batch, of
distinct workflows, and each has the most urgent of the patterns that were detected for its
workflow; when the scan returns, it has one report for each candidate, in their order, and counts
the repairs that the reports name. -/
theorem scan_handles_once (sc : ReconciliationScanner) (repo : WorkflowRepoKind) (cfg : AppConfig)
    (env : ScanEnv) (batchSize : Nat) (s : Store) :
    (sc.collectCandidates repo env.collect batchSize s).length ≤ batchSize ∧
    ((sc.collectCandidates repo env.collect batchSize s).map
      ReconciliationCandidate.workflowId).Nodup ∧
    (∀ c ∈ sc.collectCandidates repo env.collect batchSize s,
      c ∈ sc.detected repo env.collect batchSize s ∧
        ∀ d ∈ sc.detected repo env.collect batchSize s, d.workflowId = c.workflowId →
          c.patternId.priority ≤ d.patternId.priority) ∧
    ∀ result s', sc.scanLoop repo cfg env batchSize s = (.ok result, s') →
      result.reports.map reportKey =
          (sc.collectCandidates repo env.collect batchSize s).map candidateKey ∧
        result.scannedCount = (sc.collectCandidates repo env.collect batchSize s).length ∧
        result.repairedCount = (result.reports.filter ReconciliationReport.repaired).length := by
  refine ⟨length_collectCandidates, collectCandidates_nodup sc repo env.collect batchSize s,
    fun c hc => collectCandidates_urgent hc, fun result s' h => ?_⟩
  rw [scanLoop] at h
  obtain ⟨hok, -⟩ := Prod.mk.inj h
  obtain ⟨⟨reports, repairedCount⟩, hloop, rfl⟩ := except_map_ok hok
  obtain ⟨new, hnew, hkeys, hcount⟩ := repairLoop_ok (Prod.ext hloop rfl)
  obtain rfl : reports = new := hnew
  exact ⟨hkeys, rfl, hcount.trans (Nat.zero_add _)⟩

/-- A failed collection that is overdue has two candidates, and the scan repairs the more urgent. -/
theorem scan_handles_once_failedCollect :
    let env := ScanEnv.numbered (seconds (60 * 60)) 9
    (detected {} .fakes env.collect 100 failedCollectStore).map candidateKey =
        [("wf-0", .rp003), ("wf-0", .rp001)] ∧
      ∃ result, (scanLoop {} .fakes .prod env 100 failedCollectStore).1 = .ok result ∧
        result.reports.map reportKey = [("wf-0", .rp003)] ∧
        result.repairedCount = (result.reports.filter ReconciliationReport.repaired).length := by
  intro env
  have hreturns : (scanLoop {} .fakes .prod env 100 failedCollectStore).1.toOption.isSome := by
    decide +kernel
  have hcandidates : (collectCandidates {} .fakes env.collect 100 failedCollectStore).map
      candidateKey = [("wf-0", .rp003)] := by decide +kernel
  refine ⟨by decide +kernel, ?_⟩
  cases hok : (scanLoop {} .fakes .prod env 100 failedCollectStore).1 with
  | error e =>
      rw [hok] at hreturns
      cases hreturns
  | ok result =>
      obtain ⟨hkeys, -, hcount⟩ :=
        (scan_handles_once {} .fakes .prod env 100 failedCollectStore).2.2.2 result _
          (Prod.ext hok rfl)
      exact ⟨result, rfl, hkeys.trans hcandidates, hcount⟩

end ReconciliationScanner

end CartoonDemo
