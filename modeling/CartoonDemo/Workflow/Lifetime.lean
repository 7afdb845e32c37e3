import CartoonDemo.Workflow.RepoRefinement

/-!
# CartoonDemo.Workflow.Lifetime

**How many transitions a workflow can record.** The state graph has two cycles through
`GENERATING_SCENARIO`, one by the critic's revise and one by a human's regeneration. `rank` is
the longest way from a state to the end without them; a step along any other edge lowers it, a
revision raises it by three and a regeneration by four. So each revision pays for four recorded
transitions and each regeneration for five, and the revisions are capped.
-/

namespace CartoonDemo

namespace RepoRefinement

open WorkflowEngine TransitionExecutor

/-! ### Ranks

Every transition lowers the rank, but for a revision and a regeneration.
-/

/-- The number of transitions from a state to the end, without revisions and regenerations. -/
def rank : WorkflowState → Nat
  | .created => 10
  | .collecting => 9
  | .collected => 8
  | .selectingTopic => 7
  | .topicSelected | .revisionRequired => 6
  | .generatingScenario => 5
  | .scenarioGenerated => 4
  | .reviewing => 3
  | .reviewPassed => 2
  | .awaitingHumanApproval => 1
  | _ => 0

/-- Every edge of the table lowers the rank, but for a revision. -/
theorem lookup_rank {st : WorkflowState} {sig : TransitionSignal} {rc mx : Nat}
    {d : TransitionDecision} (h : TransitionTable.lookup st sig rc mx = .ok d) :
    rank d.toState + 1 ≤ rank st + if d.incrementRevisionCount then 4 else 0 := by
  have hpos : st.isTransient = true → 1 ≤ rank st := by
    cases st <;> decide
  obtain ⟨htransient, hcases⟩ := TransitionTable.lookup_cases h
  rcases hcases with ⟨rfl, -, -, rfl⟩ | ⟨rfl, -, -, rfl⟩ | ⟨row, hrow, rfl⟩ | hf
  · simp [rank]
  · simp [rank]
  · cases st <;> cases sig <;> first
      | (cases hrow; decide)
      | exact absurd hrow (by simp [primaryMatrix])
  · have hst := hpos htransient
    cases sig <;> cases hf <;> simpa [rank] using hst

/-- So does an approval action, but for a regeneration. -/
theorem approval_rank (action : ApprovalAction) :
    rank (approvalMatrix action).toState + 1 ≤
      rank .awaitingHumanApproval + if action = .requestRegeneration then 5 else 0 := by
  cases action <;> decide

/-! ### Regenerations -/

/-- The operation is a successful `REQUEST_REGENERATION` of the workflow. -/
def EngineOp.regenerates (cfg : AppConfig) (workflowId : String) (s : Store) (op : EngineOp) : Bool :=
  match op with
  | .approval _ id .requestRegeneration _ => id = workflowId && (op.exec .fakes cfg s).toOption.isSome
  | _ => false

/-- The number of successful regenerations of a workflow in a run. -/
def regenerations (cfg : AppConfig) (workflowId : String) : Store → List EngineOp → Nat
  | _, [] => 0
  | s, op :: ops =>
      (if op.regenerates cfg workflowId s then 1 else 0) +
        regenerations cfg workflowId (next .fakes cfg op s) ops

/-! ### The bound

The length of a history, in terms of the revisions and regenerations that were made.
-/

/-- The recorded transitions of a workflow after `r` regenerations. -/
structure Bounded (cfg : AppConfig) (workflowId : String) (r : Nat) (s : Store) : Prop where
  absent : s.workflows.get? workflowId = none → s.history workflowId = []
  spent : ∀ w, s.workflows.get? workflowId = some w →
    (s.history workflowId).length + rank w.state ≤ 10 + 4 * w.revisionCount + 5 * r
  capped : ∀ w, s.workflows.get? workflowId = some w → w.revisionCount ≤ cfg.maxScenarioRevisions

theorem bounded_empty (cfg : AppConfig) (workflowId : String) : Bounded cfg workflowId 0 {} where
  absent := fun _ => rfl
  spent := by intro w hw; exact absurd hw (by simp)
  capped := by intro w hw; exact absurd hw (by simp)

theorem Bounded.length_le {cfg : AppConfig} {workflowId : String} {r : Nat} {s : Store}
    (h : Bounded cfg workflowId r s) :
    (s.history workflowId).length ≤ 10 + 4 * cfg.maxScenarioRevisions + 5 * r := by
  cases hw : s.workflows.get? workflowId with
  | none =>
      rw [h.absent hw]
      simp
  | some w =>
      have hspent := h.spent w hw
      have hcap := h.capped w hw
      omega

/-- A row written with its transition. -/
theorem Bounded.written {cfg : AppConfig} {workflowId : String} {r r' : Nat} {s : Store}
    {env : Env} {row : WorkflowRecord} {tr : WorkflowTransitionRecord}
    {o : Option OutboxBuildResult} (h : Bounded cfg workflowId r s) (hr : r ≤ r')
    (htr : tr.workflowId = row.workflowId)
    (hspent : row.workflowId = workflowId → (s.history workflowId).length + 1 + rank row.state ≤
      10 + 4 * row.revisionCount + 5 * r')
    (hcap : row.workflowId = workflowId → row.revisionCount ≤ cfg.maxScenarioRevisions) :
    Bounded cfg workflowId r' (written env row tr o s) := by
  by_cases hid : row.workflowId = workflowId
  · have hget : (TransitionExecutor.written env row tr o s).workflows.get? workflowId = some row := by
      rw [written_workflows, Table.get?_upsert, if_pos hid]
    refine ⟨fun hn => absurd (hget.symm.trans hn) (by simp), ?_, ?_⟩
    · intro w hw
      obtain rfl := Option.some.inj (hget.symm.trans hw)
      rw [written_history, if_pos (htr.trans hid), List.length_append]
      exact hspent hid
    · intro w hw
      obtain rfl := Option.some.inj (hget.symm.trans hw)
      exact hcap hid
  · have hget : (TransitionExecutor.written env row tr o s).workflows.get? workflowId =
        s.workflows.get? workflowId := by
      rw [written_workflows, Table.get?_upsert, if_neg hid]
    have hhist : (TransitionExecutor.written env row tr o s).history workflowId =
        s.history workflowId := by
      rw [written_history, if_neg (by rw [htr]; exact hid), List.append_nil]
    refine ⟨?_, ?_, ?_⟩
    · rw [hget, hhist]
      exact h.absent
    · intro w hw
      rw [hget] at hw
      have hold := h.spent w hw
      rw [hhist]
      omega
    · rw [hget]
      exact h.capped

/-- **One operation keeps the bound.** -/
theorem Bounded.next {cfg : AppConfig} {workflowId : String} {r : Nat} {s s' : Store}
    {op : EngineOp} (h : Bounded cfg workflowId r s) (hx : Executed .fakes cfg s op s') :
    Bounded cfg workflowId (r + if op.regenerates cfg workflowId s then 1 else 0) s' := by
  have hle : r ≤ r + if op.regenerates cfg workflowId s then 1 else 0 := Nat.le_add_right _ _
  cases hx with
  | refused op hn =>
      refine ⟨h.absent, ?_, h.capped⟩
      intro w hw
      have hspent := h.spent w hw
      omega
  | initiated env req id ha hnone =>
      refine h.written hle rfl ?_ (fun _ => Nat.zero_le _)
      intro hid
      have hid : id = workflowId := hid
      rw [hid] at hnone
      rw [h.absent hnone]
      change 0 + 1 + 9 ≤ 10 + 4 * 0 + 5 * _
      omega
  | transitioned env req w d hg hst hd hok =>
      have hkey : w.workflowId = req.workflowId := Table.key_of_get? hg
      have hrank := lookup_rank hd
      refine h.written hle hkey.symm ?_ ?_
      · intro hid
        have hid : w.workflowId = workflowId := hid
        rw [← hkey, hid] at hg
        have hspent := h.spent w hg
        change _ + 1 + rank d.toState ≤ 10 + 4 * ((if d.incrementRevisionCount then
          some (w.revisionCount + 1) else none).getD w.revisionCount) + _
        cases hinc : d.incrementRevisionCount with
        | false =>
            rw [hinc] at hrank
            simp only [Bool.false_eq_true, if_false, Option.getD_none] at hrank ⊢
            omega
        | true =>
            rw [hinc] at hrank
            simp only [if_true, Option.getD_some] at hrank ⊢
            omega
      · intro hid
        have hid : w.workflowId = workflowId := hid
        rw [← hkey, hid] at hg
        have hcap := h.capped w hg
        change ((if d.incrementRevisionCount then some (w.revisionCount + 1) else none).getD
          w.revisionCount) ≤ _
        cases hinc : d.incrementRevisionCount with
        | false => simpa using hcap
        | true =>
            have hlt := ((TransitionTable.lookup_incrementRevisionCount hd).mp hinc).2.2
            simpa using Nat.succ_le_of_lt hlt
  | approved env id action actor w hg hst hok =>
      have hkey : w.workflowId = id := Table.key_of_get? hg
      have hrank := approval_rank action
      refine h.written hle hkey.symm ?_ ?_
      · intro hid
        have hid : w.workflowId = workflowId := hid
        have hidw : id = workflowId := hkey.symm.trans hid
        rw [hidw] at hg
        have hspent := h.spent w hg
        rw [hst] at hspent
        change _ + 1 + rank (approvalMatrix action).toState ≤ 10 + 4 * w.revisionCount + _
        cases action with
        | approve => simp only [rank, approvalMatrix] at hrank hspent ⊢; omega
        | reject => simp only [rank, approvalMatrix] at hrank hspent ⊢; omega
        | requestRegeneration =>
            have hreg : (EngineOp.approval env id .requestRegeneration actor).regenerates cfg
                workflowId s = true := by
              simp only [EngineOp.regenerates, hidw, decide_true, Bool.true_and]
              exact Option.isSome_iff_ne_none.mpr (by rw [← hidw]; exact hok)
            rw [hreg]
            simp only [rank, approvalMatrix, if_true] at hspent ⊢
            omega
      · intro hid
        have hid : w.workflowId = workflowId := hid
        rw [← hkey, hid] at hg
        exact h.capped w hg

theorem Bounded.run {cfg : AppConfig} {workflowId : String} {r : Nat} {s : Store}
    (h : Bounded cfg workflowId r s) (ops : List EngineOp) :
    Bounded cfg workflowId (r + regenerations cfg workflowId s ops)
      (run (RepoRefinement.next .fakes cfg) s ops) := by
  induction ops generalizing r s with
  | nil => exact h
  | cons op ops ih =>
      have hnext := ih (h.next (next_executed .fakes cfg op s))
      rw [Nat.add_assoc] at hnext
      exact hnext

/-! ### Infinite runs -/

/-- The store after the first `n` operations of an infinite sequence. -/
def storeAt (cfg : AppConfig) (ops : Nat → EngineOp) : Nat → Store
  | 0 => {}
  | n + 1 => next .fakes cfg (ops n) (storeAt cfg ops n)

/-- Histories only grow. -/
theorem Executed.history {repo : WorkflowRepoKind} {cfg : AppConfig} {s s' : Store}
    {op : EngineOp} (h : Executed repo cfg s op s') (workflowId : String) :
    s.history workflowId <+: s'.history workflowId := by
  cases h with
  | refused => exact List.prefix_refl _
  | initiated env request id ha hnone =>
      unfold initiatedStore
      rw [written_history]
      exact List.prefix_append _ _
  | transitioned env request w d hg hst hd hx =>
      unfold transitionStore
      rw [written_history]
      exact List.prefix_append _ _
  | approved env id action actor w hg hst hx =>
      rw [written_history]
      exact List.prefix_append _ _

theorem storeAt_bounded {cfg : AppConfig} {ops : Nat → EngineOp} {workflowId : String}
    (h : ∀ n, (ops n).regenerates cfg workflowId (storeAt cfg ops n) = false) (n : Nat) :
    Bounded cfg workflowId 0 (storeAt cfg ops n) := by
  induction n with
  | zero => exact bounded_empty cfg workflowId
  | succ n ih =>
      have hnext := ih.next (next_executed .fakes cfg (ops n) (storeAt cfg ops n))
      rw [h n] at hnext
      exact hnext

theorem storeAt_history_prefix (cfg : AppConfig) (ops : Nat → EngineOp) (workflowId : String)
    {m n : Nat} (h : m ≤ n) :
    (storeAt cfg ops m).history workflowId <+: (storeAt cfg ops n).history workflowId := by
  induction h with
  | refl => exact List.prefix_refl _
  | step _ ih => exact ih.trans ((next_executed .fakes cfg (ops _) _).history workflowId)

/-- **Every workflow's life is bounded.** Over the repository of the fakes, a run with `r`
successful regenerations of a workflow records at most `10 + 4 * max_scenario_revisions + 5 * r`
transitions of it, and in an infinite run without regenerations its history becomes constant. -/
theorem run_transitions_bounded (cfg : AppConfig) (workflowId : String) :
    (∀ ops : List EngineOp,
      ((run (next .fakes cfg) {} ops).history workflowId).length ≤
        10 + 4 * cfg.maxScenarioRevisions + 5 * regenerations cfg workflowId {} ops) ∧
      ∀ ops : Nat → EngineOp,
        (∀ n, (ops n).regenerates cfg workflowId (storeAt cfg ops n) = false) →
          ∃ n, ∀ m, n ≤ m →
            (storeAt cfg ops m).history workflowId = (storeAt cfg ops n).history workflowId := by
  refine ⟨?_, ?_⟩
  · intro ops
    have h := (bounded_empty cfg workflowId).run ops
    rw [Nat.zero_add] at h
    exact h.length_le
  · intro ops hops
    exact exists_stable_of_prefix (fun m n => storeAt_history_prefix cfg ops workflowId)
      (fun n => (storeAt_bounded hops n).length_le)

theorem revisionRun_transitions_bounded :
    ((run (next .fakes .prod) {} revisionRun).history "wf-0").length = 8 ∧
      ((run (next .fakes .prod) {} revisionRun).history "wf-0").length ≤
        10 + 4 * AppConfig.prod.maxScenarioRevisions +
          5 * regenerations .prod "wf-0" {} revisionRun :=
  ⟨by decide +kernel, (run_transitions_bounded .prod "wf-0").1 revisionRun⟩

end RepoRefinement

end CartoonDemo
