import CartoonDemo.System.Progress
import CartoonDemo.System.ScanSpec
import CartoonDemo.System.Schedule
import CartoonDemo.Workflow.ReconcileQuiet

/-!
# CartoonDemo.System.RepairKeys

Under which **key** the reconciler dispatches a task again. The first generation of a workflow
is dispatched with the version of the active scenario, every later one with the next version
(`Keyed`). The reconciler always takes the next version for a generation, so it repeats the
latest operation except for the first generation.
-/

namespace CartoonDemo

open WorkflowEngine TransitionExecutor WorkerLoop WorkflowStateGuard

namespace Progress

/-! ### Versions of the latest operations

The newest operation of each type, in a reached state of the machine.
-/

/-- Which generations and reviews have been dispatched in each state, and whether a generation
has been completed: no generation before the topic is selected; then one of the active
version, or several of which the last has the next version; and at last a review of the active
version. -/
def KeyedIn (active : Int) (generations reviews : List Int) (completed : Prop) :
    WorkflowState → Prop
  | .created | .collecting | .collected | .selectingTopic => generations = [] ∧ ¬ completed
  | .topicSelected | .generatingScenario =>
      generations.getLast? =
          some (if generations.length = 1 then max active 1 else max active 1 + 1) ∧
        (generations.length = 1 → ¬ completed)
  | .scenarioGenerated => generations ≠ [] ∧ reviews.getLast? = some (max active 1)
  | .reviewing | .revisionRequired | .reviewPassed | .awaitingHumanApproval => generations ≠ []
  | _ => True

def Keyed (p : Progress) : Prop :=
  KeyedIn p.active (p.versions .generateScenario) (p.versions .reviewScenario)
    (∃ n, p.done (.generateScenario, n)) p.state

theorem keyed_initial : initial.Keyed := ⟨rfl, fun h => h.choose_spec⟩

theorem versions_goto (p : Progress) (st : WorkflowState) (next : Option Op) (tt : TaskType) :
    (p.goto st next).versions tt =
      p.versions tt ++ (next.toList.filter (fun o => o.1 = tt)).map Prod.snd := by
  unfold versions goto
  rw [List.filter_append, List.map_append]

theorem versions_commit (p : Progress) (op : Op) (st : WorkflowState) (next : Option Op)
    (tt : TaskType) :
    (p.commit op st next).versions tt =
      p.versions tt ++ (next.toList.filter (fun o => o.1 = tt)).map Prod.snd := by
  unfold versions commit
  rw [List.filter_append, List.map_append]

/-- Where a generation is under way, one has been dispatched. -/
theorem Keyed.generated {p : Progress} (h : p.Keyed)
    (hst : p.state = .topicSelected ∨ p.state = .generatingScenario) :
    p.versions .generateScenario ≠ [] := by
  intro hnil
  unfold Keyed at h
  rcases hst with hst | hst
  · rw [hst, hnil] at h
    exact absurd h (by simp [KeyedIn])
  · rw [hst, hnil] at h
    exact absurd h (by simp [KeyedIn])

/-- A committed stage. -/
theorem Keyed.stage {cfg : AppConfig} {p : Progress} {w : WorkflowRecord} {tt : TaskType} {n : Int}
    {st : WorkflowState} {next : Option Op} (h : p.Keyed) (hst : p.state = expectedStateForTask tt)
    (hm : StageMove cfg w n p.active tt st next) : (p.commit (tt, n) st next).Keyed := by
  unfold Keyed at h ⊢
  rw [hst] at h
  rw [versions_commit, versions_commit]
  cases hm with
  | collected => simpa [commit, KeyedIn, expectedStateForTask] using h
  | topicSelected =>
      obtain ⟨hnil, hno⟩ : p.versions .generateScenario = [] ∧ _ := h
      simpa [commit, KeyedIn, hnil] using hno
  | noSuitableTopic => trivial
  | generated =>
      have hne : p.versions .generateScenario ≠ [] := Keyed.generated (p := p)
        (by unfold Keyed; rw [hst]; exact h) (Or.inr hst)
      simpa [commit, KeyedIn] using hne
  | reviewPassed => simpa [commit, KeyedIn, expectedStateForTask] using h
  | revisionCap hcap => trivial
  | revised hcap =>
      have hne : p.versions .generateScenario ≠ [] := h
      simp [commit, KeyedIn, hne]

/-- A row of the transition matrix. -/
theorem Keyed.row {p : Progress} {sig : TransitionSignal} {row : RowSpec} (h : p.Keyed)
    (hrow : primaryMatrix p.state sig = some row) :
    (p.goto row.toState (p.decided row.outboxTaskType row.incrementLogicalVersion)).Keyed := by
  have hne := h.generated
  unfold Keyed at h ⊢
  rw [versions_goto, versions_goto]
  generalize hst : p.state = st at h hrow hne
  -- the pairs without a row go away, the others name the states of the two sides
  cases st <;> cases sig <;> cases hrow <;> simp_all [goto, KeyedIn, decided, resolve]

theorem Keyed.step {cfg : AppConfig} {origin : Origin} {p p' : Progress} (h : p.Keyed)
    (hs : p.Step cfg origin p') : p'.Keyed := by
  cases hs with
  | stage w op st next hst hd ho hm => exact h.stage hst hm
  | approval action hst =>
      unfold Keyed at h ⊢
      rw [hst] at h
      have hne : p.versions .generateScenario ≠ [] := h
      rw [versions_goto, versions_goto]
      cases action with
      | approve => trivial
      | reject => trivial
      | requestRegeneration =>
          simp [goto, KeyedIn, approvalMatrix, decided, resolve, hne]
  | failure st ht hst =>
      unfold Keyed
      rcases hst with rfl | rfl
      · trivial
      · trivial
  | signal w sig d ho hl =>
      obtain ⟨-, ⟨hst, -, -, rfl⟩ | ⟨hst, -, -, rfl⟩ | ⟨row, hrow, rfl⟩ | hfail⟩ :=
        TransitionTable.lookup_cases hl
      · trivial
      · unfold Keyed at h ⊢
        rw [hst] at h
        rw [versions_goto]
        simpa [goto, KeyedIn, decided] using h
      · exact h.row hrow
      · cases sig <;> cases hfail <;> trivial

/-- A recreated task, of a generation only where one has been dispatched before. -/
theorem Keyed.recreate {p : Progress} {tt : TaskType} (h : p.Keyed)
    (hgen : tt = .generateScenario → p.versions .generateScenario ≠ []) : (p.recreate tt).Keyed := by
  unfold Keyed Progress.recreate at *
  rw [versions_goto, versions_goto]
  change KeyedIn p.active _ _ (∃ n, p.done (.generateScenario, n)) p.state
  cases tt with
  | collect => simpa using h
  | selectTopic => simpa using h
  | generateScenario =>
      have hne := hgen rfl
      generalize p.state = st at h
      cases st <;> simp_all [KeyedIn, resolve]
  | reviewScenario =>
      generalize p.state = st at h
      cases st <;> simp_all [KeyedIn, resolve]

end Progress

/-! ### The invariant of the system -/

open ReconciliationScanner

/-- A generation of the workflow has been dispatched. -/
def Store.Generated (s : Store) (id : String) : Prop :=
  ∃ t ∈ s.tasks.rows, t.workflowId = id ∧ t.taskType = .generateScenario

theorem Store.Generated.extends {s s' : Store} {id : String} (h : s.Generated id)
    (he : Extends s s') : s'.Generated id := by
  obtain ⟨t, ht, hid, htt⟩ := h
  obtain ⟨t', ht', hsame⟩ := he.tasks _ t (Table.get?_of_mem ht)
  exact ⟨t', Table.mem_of_get? ht', hsame.workflowId.trans hid, hsame.taskType.trans htt⟩

/-- The keys of a workflow's tasks of one type are those of the dispatched versions. -/
theorem Represents.tasksOf_keys {s : Store} {id : String} {p : Progress} (h : Represents s id p)
    (tt : TaskType) :
    (s.tasksOf id tt).map TaskRecord.idempotencyKey =
      (p.versions tt).map (formatIdempotencyKey id tt) := by
  have hops : (s.tasksOf id tt).map TaskRecord.idempotencyKey =
      ((s.operations id).filter (fun o => o.1 = tt)).map Prod.snd := by
    unfold Store.tasksOf Store.operations
    rw [List.filter_map, List.map_map, List.filter_filter]
    refine congrArg (List.map _) (List.filter_congr fun t _ => ?_)
    exact Bool.and_comm _ _
  have hkeys : ((p.dispatched.map (opKey id)).filter (fun o => o.1 = tt)).map Prod.snd =
      (p.versions tt).map (formatIdempotencyKey id tt) := by
    unfold Progress.versions
    rw [List.filter_map, List.map_map, List.map_map]
    refine List.map_congr_left fun o ho => ?_
    have htt : o.1 = tt := of_decide_eq_true (List.mem_filter.mp ho).2
    simp [opKey, htt]
  rw [hops, h.dispatched, hkeys]

theorem Represents.generated_iff {s : Store} {id : String} {p : Progress} (h : Represents s id p) :
    s.Generated id ↔ p.versions .generateScenario ≠ [] := by
  have hmap := h.tasksOf_keys .generateScenario
  constructor
  · intro hg hnil
    obtain ⟨t, ht, hid, htt⟩ := hg
    rw [hnil, List.map_nil, List.map_eq_nil_iff] at hmap
    have hmem : t ∈ s.tasksOf id .generateScenario := List.mem_filter.mpr ⟨ht, by simp [hid, htt]⟩
    rw [hmap] at hmem
    exact absurd hmem (by simp)
  · intro hne
    cases hl : s.tasksOf id .generateScenario with
    | nil =>
        rw [hl] at hmap
        exact absurd (List.map_eq_nil_iff.mp hmap.symm) hne
    | cons t ts =>
        have hmem : t ∈ s.tasksOf id .generateScenario := by rw [hl]; simp
        obtain ⟨ht, hp⟩ := List.mem_filter.mp hmem
        simp only [Bool.and_eq_true, decide_eq_true_eq] at hp
        exact ⟨t, ht, hp⟩

/-- A scan looks for a generation only where one has been dispatched. -/
structure ScanKeyed (s : Store) (scan : Scan) : Prop where
  remaining : ∀ c ∈ scan.remaining, expected c = some .generateScenario → s.Generated c.workflowId
  pending : ∀ w attempt report,
    scan.pending = some (.recreate w .generateScenario attempt, report) → s.Generated w.workflowId

theorem ScanKeyed.extends {s s' : Store} {scan : Scan} (h : ScanKeyed s scan) (he : Extends s s') :
    ScanKeyed s' scan :=
  ⟨fun c hc hexp => (h.remaining c hc hexp).extends he,
    fun w attempt report hp => (h.pending w attempt report hp).extends he⟩

/-- A planned recreation is the one that the candidate asks for. -/
theorem inspectCandidate_expected {sc : ReconciliationScanner} {repo : WorkflowRepoKind}
    {cfg : AppConfig} {now : Time} {c : ReconciliationCandidate} {s : Store} {w : WorkflowRecord}
    {tt : TaskType} {attempt : Nat} {report : ReconciliationReport}
    (h : sc.inspectCandidate repo cfg now c s = .repair (.recreate w tt attempt) report) :
    expected c = some tt ∧ w.workflowId = c.workflowId := by
  obtain ⟨fresh, hg, hw, -⟩ := inspectCandidate_stored h
  refine ⟨?_, by rw [← hw] at hg; exact Table.key_of_get? hg⟩
  unfold inspectCandidate getWorkflow at h
  rw [hg] at h
  dsimp only at h
  split at h
  · exact absurd h (by simp)
  · cases c with
    | rp001 w' tt' =>
        obtain ⟨⟨-, rfl, -⟩, -⟩ := by simpa using h
        rfl
    | rp002 w' => exact absurd h (by simp)
    | rp003 w' tt' =>
        dsimp only at h
        split at h
        · exact absurd h (by simp)
        · split at h
          · split at h
            · obtain ⟨⟨-, rfl, -⟩, -⟩ := by simpa using h
              rfl
            · exact absurd h (by simp)
          · exact absurd h (by simp)
    | rp004 w' => exact absurd h (by simp)

structure SysKeyed (σ : Sys) : Prop where
  sound : SysSound σ
  rows : Tracked Progress.Keyed σ.store
  scans : ∀ scan ∈ σ.scans, ScanKeyed σ.store scan

theorem sysKeyed_empty : SysKeyed {} where
  sound := sysSound_empty
  rows := tracked_empty _
  scans := by intro scan h; exact absurd h (by simp)

theorem generation_states {s : Store} {w : WorkflowRecord}
    (h : rowExpected s w = some .generateScenario) :
    w.state = .topicSelected ∨ w.state = .generatingScenario := by
  rcases rowExpected_cases h with ⟨hst, -⟩ | ⟨-, htable⟩
  · exact Or.inr hst
  · left
    revert htable
    cases w.state <;> simp [expectedOutboxTask]

theorem review_state {s : Store} {w : WorkflowRecord}
    (h : rowExpected s w = some .reviewScenario) : w.state = .scenarioGenerated := by
  rcases rowExpected_cases h with ⟨-, htt⟩ | ⟨-, htable⟩
  · exact absurd htt (by simp)
  · revert htable
    cases w.state <;> simp [expectedOutboxTask]

/-- A row that expects a generation has one dispatched already. -/
theorem generated_of_expected {s : Store} {w : WorkflowRecord} (ht : Tracked Progress.Keyed s)
    (hw : w ∈ s.workflows.rows) (h : rowExpected s w = some .generateScenario) :
    s.Generated w.workflowId := by
  have hget := Table.get?_of_mem hw
  obtain ⟨p, hp, hkeyed⟩ := ht w.workflowId (by rw [hget]; simp)
  refine hp.generated_iff.mpr (hkeyed.generated ?_)
  rw [← hp.state_eq hget]
  exact generation_states h

/-- The repair transaction of a scan. -/
theorem Tracked.repaired {repo : WorkflowRepoKind} {cfg : AppConfig} {env : Env}
    {plan : RepairPlan} {s s' : Store} (ht : Tracked Progress.Keyed s) (hs : StoreSound s)
    (hw : s.workflows.get? plan.workflow.workflowId ≠ none) (hf : s.freshDispatch env = true)
    (hgen : ∀ w attempt, plan = .recreate w .generateScenario attempt → s.Generated w.workflowId)
    (h : performRepair repo cfg env plan s = .ok s') : Tracked Progress.Keyed s' := by
  cases plan with
  | recreate w tt attempt =>
      rw [performRepair_recreate] at h
      obtain rfl := Except.ok.inj h
      refine ht.recreated ⟨hw, rfl⟩ hf ?_
      intro p hp hkeyed
      refine hkeyed.recreate ?_
      intro htt
      subst htt
      exact hp.generated_iff.mp (hgen w attempt rfl)
  | fail w =>
      obtain ⟨res, ha⟩ := performRepair_fail_ok h
      have hstep : StoreStep cfg .engine s s' := transition_step (by decide) hf ha
      exact ht.step hs hstep (by decide) Progress.keyed_initial (fun _ _ hk => hk.step)

/-- **Every action keeps the keys in order.** -/
theorem SysKeyed.step {repo : WorkflowRepoKind} {cfg : AppConfig} {sc : ReconciliationScanner}
    {σ : Sys} (h : SysKeyed σ) (a : Action) : SysKeyed (Sys.step repo cfg sc a σ) := by
  have hsound : SysSound (Sys.step repo cfg sc a σ) := h.sound.step a
  have hsteps := step_store repo cfg sc h.sound a
  have hext := steps_extends hsteps
  by_cases ho : a.origin = .reconciler
  · cases a with
    | scanCollect batchSize clock =>
        refine ⟨hsound, h.rows, ?_⟩
        intro scan hscan
        rcases List.mem_append.mp hscan with hold | hnew
        · exact h.scans scan hold
        · obtain rfl := List.mem_singleton.mp hnew
          refine ⟨?_, fun w attempt report hp => absurd hp (by simp)⟩
          intro c hc hexp
          obtain ⟨-, hrow, hrowexp, -⟩ := collected_expected hc hexp
          exact generated_of_expected h.rows hrow hrowexp
    | scanCollectRaises e =>
        refine ⟨hsound, h.rows, ?_⟩
        intro scan hscan
        rcases List.mem_append.mp hscan with hold | hnew
        · exact h.scans scan hold
        · obtain rfl := List.mem_singleton.mp hnew
          exact ⟨fun c hc => absurd hc (by simp), fun w attempt report hp => absurd hp (by simp)⟩
    | scan k b =>
        cases hk : σ.scans[k]? with
        | none =>
            have hstay : Sys.step repo cfg sc (.scan k b) σ = σ := by simp only [Sys.step, hk]
            rw [hstay]
            exact h
        | some scan =>
            have hscan := h.scans scan (List.mem_of_getElem? hk)
            obtain ⟨scan', s', hmove, heq⟩ := stepScan_move repo cfg sc hk b
            have hstep : Sys.step repo cfg sc (.scan k b) σ =
                { σ with store := s', scans := σ.scans.set k scan' } := by
              simp only [Sys.step, hk]
              exact heq
            rw [hstep] at hext hsound ⊢
            have hboth : Tracked Progress.Keyed s' ∧ ScanKeyed s' scan' := by
              cases hmove with
              | stay => exact ⟨h.rows, hscan⟩
              | skip now c rest report ha hp hr hi =>
                  refine ⟨h.rows, fun c' hc' => hscan.remaining c' ?_, hscan.pending⟩
                  rw [hr]
                  exact List.mem_cons_of_mem _ hc'
              | plan now c rest plan report ha hp hr hi =>
                  refine ⟨h.rows, fun c' hc' => hscan.remaining c' ?_, ?_⟩
                  · rw [hr]
                    exact List.mem_cons_of_mem _ hc'
                  · intro w attempt report' hpend
                    obtain ⟨rfl, rfl⟩ : plan = .recreate w .generateScenario attempt ∧
                      report = report' := by simpa using hpend
                    obtain ⟨hexp, hid⟩ := inspectCandidate_expected hi
                    rw [hid]
                    exact hscan.remaining c (by rw [hr]; simp) hexp
              | unread e c rest ha hp hr => exact ⟨h.rows, hscan.remaining, hscan.pending⟩
              | repair env plan report s' ha hp hf hr =>
                  refine ⟨?_, fun c' hc' hexp => (hscan.remaining c' hc' hexp).extends hext,
                    fun w attempt report hpend => absurd hpend (by simp)⟩
                  refine h.rows.repaired h.sound.store
                    (h.sound.scans scan (List.mem_of_getElem? hk) plan report hp) hf ?_ hr
                  intro w attempt hplan
                  subst hplan
                  exact hscan.pending w attempt report hp
              | conflict env plan report e ha hp hr =>
                  exact ⟨h.rows, hscan.remaining, fun w attempt report hpend => absurd hpend (by simp)⟩
              | raised e plan report ha hp =>
                  exact ⟨h.rows, hscan.remaining, fun w attempt report hpend => absurd hpend (by simp)⟩
            refine ⟨hsound, hboth.1, ?_⟩
            intro scan₁ hmem
            rcases List.mem_or_eq_of_mem_set hmem with hold | rfl
            · exact (h.scans scan₁ hold).extends hext
            · exact hboth.2
    | _ => exact absurd ho (by simp [Action.origin])
  · refine ⟨hsound, ?_, ?_⟩
    · exact h.rows.steps h.sound.store hsteps ho Progress.keyed_initial (fun _ _ hk => hk.step)
    · intro scan hscan
      rw [step_scans repo cfg sc σ ho] at hscan
      exact (h.scans scan hscan).extends hext

/-! ### Recreated keys

The key of a recreated task, compared with the key of the task in whose place it stands.
-/

/-- The task of one type that was created last. -/
def Store.lastTask (s : Store) (id : String) (tt : TaskType) : Option TaskRecord :=
  (s.tasksOf id tt).getLast?

theorem Represents.lastTask_key {s : Store} {id : String} {p : Progress} {tt : TaskType}
    {t : TaskRecord} (h : Represents s id p) (hl : s.lastTask id tt = some t) :
    ∃ n, (p.versions tt).getLast? = some n ∧ t.idempotencyKey = formatIdempotencyKey id tt n := by
  have hkey : ((s.tasksOf id tt).map TaskRecord.idempotencyKey).getLast? =
      some t.idempotencyKey := by
    rw [List.getLast?_map]
    exact congrArg (Option.map _) hl
  rw [h.tasksOf_keys, List.getLast?_map] at hkey
  obtain ⟨n, hn, heq⟩ := Option.map_eq_some_iff.mp hkey
  exact ⟨n, hn, heq.symm⟩

/-- **A recreated task repeats the latest open operation of its type**, unless it is a
generation and the first one is the only one. -/
theorem recreated_key_iff {sc : ReconciliationScanner} {repo : WorkflowRepoKind}
    {cfg : AppConfig} {env : ScanEnv} {batchSize : Nat} {s : Store} (hs : StoreSound s)
    (hkeyed : Tracked Progress.Keyed s) (hfresh : FreshScan env s) {t t' : TaskRecord}
    (ht' : t' ∈ (sc.scanAndRepair repo cfg env batchSize s).2.tasks.rows)
    (hnew : t' ∉ s.tasks.rows) (hlast : s.lastTask t'.workflowId t'.taskType = some t) :
    (s.completed t.idempotencyKey = false → t'.idempotencyKey = t.idempotencyKey) ↔
      (t'.taskType ≠ .generateScenario ∨
        2 ≤ (s.tasksOf t'.workflowId .generateScenario).length) := by
  obtain ⟨-, w, hw, attempt, hwid, hexp, hbuilt⟩ := new_task_built hfresh ht' hnew
  have hget := Table.get?_of_mem hw
  obtain ⟨p, hp, hk⟩ := hkeyed w.workflowId (by rw [hget]; simp)
  have hstate := hp.state_eq hget
  rw [← hwid] at hlast ⊢
  obtain ⟨n, hn, hkey⟩ := hp.lastTask_key hlast
  have hkey' : t'.idempotencyKey = formatIdempotencyKey w.workflowId t'.taskType
      (p.resolve t'.taskType (t'.taskType = .generateScenario)) := by
    rw [← hp.resolveForTask_eq]
    exact congrArg TaskRecord.idempotencyKey hbuilt
  have hmem : t ∈ s.tasksOf w.workflowId t'.taskType := List.mem_of_getLast? hlast
  obtain ⟨htrow, htp⟩ := List.mem_filter.mp hmem
  simp only [Bool.and_eq_true, decide_eq_true_eq] at htp
  -- collection and topic selection have one version only
  have hfixed : t'.taskType = .collect ∨ t'.taskType = .selectTopic → n = 1 := by
    intro hkind
    obtain ⟨m, hm⟩ := hs.task t htrow
    have hmn := (formatIdempotencyKey_inj (hm.key.symm.trans hkey)).2.2
    rw [← hmn]
    refine hm.fixed ?_
    rw [htp.2]
    exact hkind
  have hlen : (s.tasksOf w.workflowId .generateScenario).length =
      (p.versions .generateScenario).length := by
    have hmap := congrArg List.length (hp.tasksOf_keys .generateScenario)
    rwa [List.length_map, List.length_map] at hmap
  unfold Progress.Keyed at hk
  rw [← hstate] at hk
  by_cases hgen : t'.taskType = .generateScenario
  · rw [hgen] at hn hkey hkey' hexp
    have hk' : (p.versions .generateScenario).getLast? =
          some (if (p.versions .generateScenario).length = 1 then max p.active 1
            else max p.active 1 + 1) ∧
        ((p.versions .generateScenario).length = 1 → ¬ ∃ n, p.done (.generateScenario, n)) := by
      rcases generation_states hexp with hst | hst <;> rw [hst] at hk <;> exact hk
    have hpos : (p.versions .generateScenario).length ≠ 0 := by
      intro hzero
      rw [List.length_eq_zero_iff.mp hzero] at hn
      exact absurd hn (by simp)
    have hnv : n = if (p.versions .generateScenario).length = 1 then max p.active 1
        else max p.active 1 + 1 := Option.some.inj (hn.symm.trans hk'.1)
    rw [hlen]
    constructor
    · intro hrep
      right
      by_contra hlt
      have hone : (p.versions .generateScenario).length = 1 := by omega
      -- the only generation is open, so its key would have to be the recreated one
      have hopen : s.completed t.idempotencyKey = false := by
        rw [hkey]
        by_contra hc
        rw [Bool.not_eq_false] at hc
        exact hk'.2 hone ⟨n, (hp.done _).mpr hc⟩
      have heq := (formatIdempotencyKey_inj (hkey'.symm.trans ((hrep hopen).trans hkey))).2.2
      rw [hnv, if_pos hone] at heq
      simp only [Progress.resolve, decide_true, if_true] at heq
      omega
    · intro hcond _
      have htwo : 2 ≤ (p.versions .generateScenario).length :=
        hcond.resolve_left (fun hne => hne hgen)
      rw [hkey', hkey, hnv, if_neg (by omega)]
      rfl
  · refine iff_of_true (fun _ => ?_) (Or.inl hgen)
    rw [hkey', hkey]
    refine congrArg _ ?_
    cases htt : t'.taskType with
    | collect => exact (hfixed (Or.inl htt)).symm
    | selectTopic => exact (hfixed (Or.inr htt)).symm
    | reviewScenario =>
        rw [htt] at hexp hn
        rw [review_state hexp] at hk
        exact Option.some.inj (hk.2.symm.trans hn)
    | generateScenario => exact absurd htt hgen

/-- **In every reachable state**, a recreated task repeats the latest open operation of its
type exactly when it is not the second generation of the workflow. -/
theorem run_recreated_key_iff (repo : WorkflowRepoKind) (cfg : AppConfig)
    (sc : ReconciliationScanner) (as : List Action) (env : ScanEnv) (batchSize : Nat)
    (s : Store) (hreach : s = (run (Sys.step repo cfg sc) {} as).store) (hfresh : FreshScan env s)
    (t t' : TaskRecord) (ht' : t' ∈ (sc.scanAndRepair repo cfg env batchSize s).2.tasks.rows)
    (hnew : t' ∉ s.tasks.rows) (hlast : s.lastTask t'.workflowId t'.taskType = some t) :
    (s.completed t.idempotencyKey = false → t'.idempotencyKey = t.idempotencyKey) ↔
      (t'.taskType ≠ .generateScenario ∨
        2 ≤ (s.tasksOf t'.workflowId .generateScenario).length) := by
  have hkeyed : SysKeyed (run (Sys.step repo cfg sc) {} as) :=
    run_induction (fun _ => True) (fun _ a _ h => h.step a) sysKeyed_empty (fun _ _ => trivial)
  subst hreach
  exact recreated_key_iff hkeyed.sound.store hkeyed.rows hfresh ht' hnew hlast

/-! ### A selected topic -/

/-- A workflow is initiated and its first row is published. -/
def publishedRun : List Action :=
  .initiate (Env.numbered 0 0) { workflowId := some "wf" } :: publishRow "outbox-0" 0 1

/-- A stage of the workflow is completed by an engine call. -/
def stageCall (n : Nat) (expected : WorkflowState) : Action :=
  .transition (Env.numbered 1 n)
    { workflowId := "wf", expectedState := expected, signal := .stageCompleted, reason := "call" }

/-- Three engine calls select a topic, and the rows of the next two tasks are published. -/
def topicSelectedRun : List Action :=
  publishedRun ++ [stageCall 1 .collecting, stageCall 2 .collected, stageCall 3 .selectingTopic] ++
    publishRow "outbox-1" 0 1 ++ publishRow "outbox-3" 0 1

/-- The store after a run over the in-memory repository. -/
def reached (as : List Action) : Store := (run (Sys.step .fakes .prod {}) {} as).store

/-- The tables after a scan of it. -/
def scanned (as : List Action) : Store :=
  (scanAndRepair {} .fakes .prod (ScanEnv.numbered 2 9) 100 (reached as)).2

/-- The collection is dispatched again under its own key. -/
theorem publishedRun_same_key :
    FreshScan (ScanEnv.numbered 2 9) (reached publishedRun) ∧
      ∃ t' ∈ (scanned publishedRun).tasks.rows, t' ∉ (reached publishedRun).tasks.rows ∧
        ∃ t, (reached publishedRun).lastTask t'.workflowId t'.taskType = some t ∧
          ((reached publishedRun).completed t.idempotencyKey = false →
            t'.idempotencyKey = t.idempotencyKey) := by
  have hfresh : FreshScan (ScanEnv.numbered 2 9) (reached publishedRun) := by decide +kernel
  have hex : ∃ t' ∈ (scanned publishedRun).tasks.rows,
      t' ∉ (reached publishedRun).tasks.rows ∧ t'.taskType ≠ .generateScenario ∧
        ((reached publishedRun).lastTask t'.workflowId t'.taskType).isSome = true := by
    decide +kernel
  obtain ⟨t', ht', hnew, htt, hsome⟩ := hex
  obtain ⟨t, hlast⟩ := Option.isSome_iff_exists.mp hsome
  exact ⟨hfresh, t', ht', hnew, t, hlast, (run_recreated_key_iff .fakes .prod {} publishedRun _ 100
    (reached publishedRun) rfl hfresh t t' ht' hnew hlast).mpr (Or.inl htt)⟩

/-- The first generation is dispatched again under another key, while it is pending. -/
theorem topicSelectedRun_other_key :
    ∃ t' ∈ (scanned topicSelectedRun).tasks.rows, t' ∉ (reached topicSelectedRun).tasks.rows ∧
      ∃ t ∈ (reached topicSelectedRun).lastTask t'.workflowId t'.taskType,
        ¬ ((reached topicSelectedRun).completed t.idempotencyKey = false →
          t'.idempotencyKey = t.idempotencyKey) := by
  decide +kernel

end CartoonDemo
