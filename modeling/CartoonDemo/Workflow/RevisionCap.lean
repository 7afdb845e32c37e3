import CartoonDemo.Workflow.Interleaving

/-!
# CartoonDemo.Workflow.RevisionCap

**The revision counter**, over the repository of `workflow.fakes` and under the interleavings
of `Workflow.Interleaving`. The counter is raised on one branch of the table, and every other
update carries it over by leaving the argument out; the row that is compared with the cap may
be outdated by the time it is written, but then the version no longer matches.

The `create_workflow` of that repository is a dictionary write. An `initiate_workflow` whose
duplicate check is outdated resets the row of a workflow that has been created in between, and
with it the counter, while the history stays. `NoOverwrite` excludes this one write; in all
other runs the counter is the number of recorded revisions and never exceeds the cap.
-/

namespace CartoonDemo

namespace TransitionTable

/-- The critic's revise below the cap is the edge from `REVIEWING` to `REVISION_REQUIRED`. -/
theorem lookup_revisionRequired {st : WorkflowState} {sig : TransitionSignal} {rc mx : Nat}
    {d : TransitionDecision} (h : lookup st sig rc mx = .ok d) :
    st = .reviewing ∧ d.toState = .revisionRequired ↔ d.incrementRevisionCount = true := by
  have hmatrix : ∀ row, primaryMatrix st sig = some row → row.toState ≠ .revisionRequired := by
    intro row hrow
    cases st <;> cases sig <;> first
      | (cases hrow; decide)
      | exact absurd hrow (by simp [primaryMatrix])
  rw [lookup_incrementRevisionCount h]
  rcases (lookup_cases h).2 with ⟨rfl, rfl, hle, rfl⟩ | ⟨rfl, rfl, hlt, rfl⟩ | ⟨row, hrow, rfl⟩ | hf
  · simp [Nat.not_lt.mpr hle]
  · simp [hlt]
  · refine ⟨fun hto => absurd hto.2 (hmatrix row hrow), ?_⟩
    intro hrev
    obtain ⟨rfl, rfl, -⟩ := hrev
    exact absurd hrow (by simp [primaryMatrix])
  · cases sig <;> cases hf <;> simp

end TransitionTable

namespace Interleaving

open WorkflowEngine TransitionExecutor

/-! ### The repository of the fakes

It writes a new workflow over a stored one.
-/

/-- The write transaction of a pending operation over the dictionary. -/
def PendingOp.commitToFakes (env : Env) (s : Store) : PendingOp → Store
  | .initiate workflowId actor => commit s (finishInitiate .fakes env workflowId actor s)
  | op => op.commitTo .fakes env s

def stepFakes (cfg : AppConfig) (a : Action) (σ : Sys) : Sys :=
  match a with
  | .write i env =>
      match σ.pending[i]? with
      | none => σ
      | some op => { store := op.commitToFakes env σ.store, pending := σ.pending.eraseIdx i }
  | a => step .fakes cfg a σ

/-- The step does not create a workflow over a stored one. -/
def NoOverwrite (σ : Sys) : Action → Bool
  | .write i _ =>
      match σ.pending[i]? with
      | some (.initiate workflowId _) => (σ.store.workflows.get? workflowId).isNone
      | _ => true
  | _ => true

/-- Such a step is one under the primary key. -/
theorem stepFakes_eq {cfg : AppConfig} {σ : Sys} {a : Action} (h : NoOverwrite σ a = true) :
    stepFakes cfg a σ = step .fakes cfg a σ := by
  cases a with
  | write i env =>
      unfold stepFakes step
      dsimp only
      cases hi : σ.pending[i]? with
      | none => rfl
      | some op =>
          cases op with
          | initiate workflowId actor =>
              have hnone : σ.store.workflows.get? workflowId = none := by
                simpa [NoOverwrite, hi] using h
              have hnew : σ.store.workflows.get? (newWorkflow env.createdAt workflowId).workflowId =
                  none := hnone
              dsimp only [PendingOp.commitToFakes, PendingOp.commitTo]
              rw [Table.insert?_of_get?_none hnew, Option.isSome_some, if_pos rfl]
          | transition | preparedTransition | approval | preparedApproval => rfl
  | beginInitiate | beginTransition | beginApproval | prepare | abort => rfl

/-! ### One write -/

/-- What a pending transition has decided about the row that it has read. -/
structure Decided (cfg : AppConfig) (p : PreparedTransition) (sig : TransitionSignal)
    (d : TransitionDecision) : Prop where
  lookup : TransitionTable.lookup p.workflow.state sig p.workflow.revisionCount
    cfg.maxScenarioRevisions = .ok d
  toState : p.decision.toState = d.toState
  signal : p.decision.signal = sig
  newRevision : p.newRevision =
    if d.incrementRevisionCount then some (p.workflow.revisionCount + 1) else none

/-- What is known about a pending operation besides its read. -/
def PendingOp.Decided (cfg : AppConfig) : PendingOp → Prop
  | .preparedTransition p => ∃ sig d, Interleaving.Decided cfg p sig d
  | .preparedApproval p => p.workflow.state = .awaitingHumanApproval
  | _ => True

theorem prepared_decided {cfg : AppConfig} {env : Env} {s : Store} {op op' : PendingOp}
    (hop : op.Decided cfg) (h : op.prepared cfg env s = some op') : op'.Decided cfg := by
  cases op with
  | initiate workflowId actor => cases h; exact hop
  | preparedTransition p => cases h; exact hop
  | preparedApproval p => cases h; exact hop
  | transition request w =>
      obtain ⟨p, hp, rfl⟩ := Option.map_eq_some_iff.mp h
      cases hprep : prepareTransition cfg env request w s with
      | error e => rw [hprep] at hp; exact absurd hp (by simp [Except.toOption])
      | ok q =>
          rw [hprep] at hp
          obtain rfl : q = p := by simpa [Except.toOption] using hp
          obtain ⟨-, d, hd, rfl⟩ := prepareTransition_ok_iff.mp hprep
          have hsignal : (withFailureReason request d).signal = d.signal := by
            unfold withFailureReason
            split <;> rfl
          exact ⟨request.signal, d, {
            lookup := hd
            toState := withFailureReason_toState request d
            signal := hsignal.trans (TransitionTable.lookup_from hd).2
            newRevision := rfl }⟩
  | approval action actor w =>
      obtain ⟨p, hp, rfl⟩ := Option.map_eq_some_iff.mp h
      cases hprep : prepareApproval env action actor w s with
      | error e => rw [hprep] at hp; exact absurd hp (by simp [Except.toOption])
      | ok q =>
          rw [hprep] at hp
          obtain rfl : q = p := by simpa [Except.toOption] using hp
          obtain ⟨hst, rfl⟩ := prepareApproval_ok_iff.mp hprep
          exact hst

/-- **What a write transaction does**: nothing, or the write of the operation over the row that
it has read. -/
inductive Written (env : Env) (s : Store) : PendingOp → Store → Prop
  | refused (op : PendingOp)
      (h : ∀ p, op = .preparedTransition p → (p.execute .fakes env s).toOption = none) :
      Written env s op s
  | initiated (workflowId : String) (actor : Option String)
      (h : s.workflows.get? workflowId = none) :
      Written env s (.initiate workflowId actor) (initiatedStore env workflowId actor s)
  | transitioned (p : PreparedTransition)
      (h : s.workflows.get? p.workflow.workflowId = some p.workflow)
      (hx : (p.execute .fakes env s).toOption ≠ none) :
      Written env s (.preparedTransition p)
        (written env (updatedRow p.workflow env.updatedAt p.decision.toState
          p.decision.setFailureReason p.newRevision) p.transition p.outbox s)
  | approved (p : PreparedApproval)
      (h : s.workflows.get? p.workflow.workflowId = some p.workflow) :
      Written env s (.preparedApproval p)
        (written env (updatedRow p.workflow env.updatedAt p.decision.toState none none)
          p.transition p.outbox s)

theorem commitTo_written {cfg : AppConfig} {env : Env} {s : Store} {op : PendingOp}
    (hop : op.Sound cfg s) : Written env s op (op.commitTo .fakes env s) := by
  -- the version still matches, so the row that was read is the stored one
  have hstored : ∀ {w r : WorkflowRecord}, Read s w → s.workflows.get? w.workflowId = some r →
      r.stateVersion = w.stateVersion → r = w := fun hread hg hv => hread.eq_of_version hg hv
  cases op with
  | transition request w => exact .refused _ (by simp)
  | approval action actor w => exact .refused _ (by simp)
  | initiate workflowId actor =>
      simp only [PendingOp.commitTo]
      split
      · next hins =>
        obtain ⟨t, ht⟩ := Option.isSome_iff_exists.mp hins
        have hnone : s.workflows.get? workflowId = none := (Table.insert?_eq_some ht).1
        obtain ⟨res, hfin⟩ := finishInitiate_of_get_none .fakes env actor hnone
        rw [hfin, commit_ok]
        exact .initiated workflowId actor hnone
      · exact .refused _ (by simp)
  | preparedTransition p =>
      simp only [PendingOp.commitTo]
      cases hx : p.execute .fakes env s with
      | error e =>
          refine .refused _ ?_
          intro q hq
          obtain rfl := PendingOp.preparedTransition.inj hq
          rw [hx]
          rfl
      | ok r =>
          obtain ⟨row, hw, -, -, -⟩ := executeTransition_ok hx
          obtain ⟨existing, hg, hv, rfl, heq⟩ := write_ok hw
          obtain rfl := hstored hop.1 hg hv
          rw [commit_ok, heq]
          exact .transitioned p hg (by rw [hx]; simp [Except.toOption])
  | preparedApproval p =>
      simp only [PendingOp.commitTo]
      cases hx : p.execute .fakes env s with
      | error e => exact .refused _ (by simp)
      | ok r =>
          obtain ⟨row, hw⟩ := executeApproval_ok hx
          obtain ⟨existing, hg, hv, rfl, heq⟩ := write_ok hw
          obtain rfl := hstored hop.1 hg hv
          rw [commit_ok, heq]
          exact .approved p hg

/-! ### The invariant

The counter is the number of revisions in the history, and at most the cap.
-/

/-- The recorded revisions of a history. -/
def revisions (history : List WorkflowTransitionRecord) : Nat :=
  history.countP (fun t => t.fromState = .reviewing && t.toState = .revisionRequired)

/-- The counter of a row is the number of its revisions and within the cap. -/
def CapExact (cfg : AppConfig) (s : Store) : Prop :=
  ∀ workflowId w, s.workflows.get? workflowId = some w →
    w.revisionCount = revisions (s.history workflowId) ∧
      w.revisionCount ≤ cfg.maxScenarioRevisions

structure CapInv (cfg : AppConfig) (σ : Sys) : Prop where
  inv : Inv cfg σ
  decided : ∀ op ∈ σ.pending, op.Decided cfg
  exact_ : CapExact cfg σ.store

theorem capInv_init (cfg : AppConfig) : CapInv cfg {} where
  inv := inv_init cfg
  decided := by intro op hop; exact absurd hop (by simp)
  exact_ := by intro id w hw; exact absurd hw (by simp)

theorem revisions_append (history : List WorkflowTransitionRecord) (t : WorkflowTransitionRecord) :
    revisions (history ++ [t]) = revisions history +
      if t.fromState = .reviewing ∧ t.toState = .revisionRequired then 1 else 0 := by
  unfold revisions
  rw [List.countP_append, List.countP_singleton]
  simp

/-- A row written over the one that is stored. -/
theorem CapExact.written {cfg : AppConfig} {env : Env} {s : Store} {w row : WorkflowRecord}
    {tr : WorkflowTransitionRecord} {o : Option OutboxBuildResult} (h : CapExact cfg s)
    (hrow : row.workflowId = w.workflowId) (htr : tr.workflowId = w.workflowId)
    (hcount : row.revisionCount = revisions (s.history w.workflowId ++ [tr]))
    (hcap : row.revisionCount ≤ cfg.maxScenarioRevisions) :
    CapExact cfg (written env row tr o s) := by
  intro id w' hw'
  rw [written_workflows, Table.get?_upsert, hrow] at hw'
  rw [written_history, htr]
  by_cases hid : w.workflowId = id
  · rw [if_pos hid] at hw' ⊢
    obtain rfl := Option.some.inj hw'
    exact ⟨by rw [hcount, hid], hcap⟩
  · rw [if_neg hid] at hw' ⊢
    rw [List.append_nil]
    exact h id w' hw'

/-- The counter after a decision. -/
theorem Decided.count {cfg : AppConfig} {p : PreparedTransition} {sig : TransitionSignal}
    {d : TransitionDecision} (h : Interleaving.Decided cfg p sig d) :
    (p.newRevision.getD p.workflow.revisionCount) = p.workflow.revisionCount +
      if p.workflow.state = .reviewing ∧ p.decision.toState = .revisionRequired then 1 else 0 := by
  have hiff := TransitionTable.lookup_revisionRequired h.lookup
  rw [h.newRevision, h.toState]
  by_cases hinc : d.incrementRevisionCount = true
  · rw [if_pos hinc, if_pos (hiff.mpr hinc)]
    rfl
  · rw [if_neg hinc, if_neg (fun hto => hinc (hiff.mp hto))]
    rfl

/-- A raised counter was below the cap. -/
theorem Decided.below {cfg : AppConfig} {p : PreparedTransition} {sig : TransitionSignal}
    {d : TransitionDecision} (h : Interleaving.Decided cfg p sig d)
    (hto : p.workflow.state = .reviewing ∧ p.decision.toState = .revisionRequired) :
    p.workflow.revisionCount < cfg.maxScenarioRevisions := by
  rw [h.toState] at hto
  have hinc := (TransitionTable.lookup_revisionRequired h.lookup).mp hto
  exact ((TransitionTable.lookup_incrementRevisionCount h.lookup).mp hinc).2.2

/-- **Every write transaction keeps the counters exact.** -/
theorem CapExact.write {cfg : AppConfig} {env : Env} {s s' : Store} {op : PendingOp}
    (h : CapExact cfg s) (hs : HistoriesFaithful cfg s) (hop : op.Sound cfg s)
    (hdec : op.Decided cfg) (hw : Written env s op s') : CapExact cfg s' := by
  cases hw with
  | refused => exact h
  | initiated workflowId actor hnone =>
      refine CapExact.written (w := newWorkflow env.createdAt workflowId) h rfl rfl ?_ (Nat.zero_le _)
      change 0 = revisions (s.history workflowId ++ [_])
      rw [(hs workflowId).2 hnone]
      rfl
  | transitioned p hg hx =>
      obtain ⟨sig, d, hd⟩ := hdec
      obtain ⟨-, hid, hfrom, hto, -⟩ := hop
      obtain ⟨hcount, hcap⟩ := h _ _ hg
      refine h.written (w := p.workflow) rfl hid ?_ ?_
      · change p.newRevision.getD p.workflow.revisionCount = _
        rw [hd.count, revisions_append, hfrom, hto, ← hcount]
      · change p.newRevision.getD p.workflow.revisionCount ≤ _
        rw [hd.count]
        split
        · next hedge => exact hd.below hedge
        · exact hcap
  | approved p hg =>
      obtain ⟨-, hid, hfrom, -, -⟩ := hop
      obtain ⟨hcount, hcap⟩ := h _ _ hg
      have hstate : p.workflow.state = .awaitingHumanApproval := hdec
      refine h.written (w := p.workflow) rfl hid ?_ hcap
      change p.workflow.revisionCount = _
      rw [revisions_append, hfrom, hstate, if_neg (by simp)]
      exact hcount

theorem CapInv.step {cfg : AppConfig} {σ : Sys} {a : Action} (h : CapInv cfg σ)
    (ha : NoOverwrite σ a = true) : CapInv cfg (stepFakes cfg a σ) := by
  rw [stepFakes_eq ha]
  have hinv : Inv cfg (Interleaving.step .fakes cfg a σ) := inv_step σ a h.inv
  have hbegin : ∀ op ∈ σ.pending ++ (beginOp σ.store a).toList, op.Decided cfg := by
    intro op hop
    rcases List.mem_append.mp hop with hold | hnew
    · exact h.decided op hold
    · have hb : beginOp σ.store a = some op := by simpa using hnew
      cases op with
      | initiate | transition | approval => trivial
      | preparedTransition p =>
          exfalso
          cases a <;> simp only [beginOp] at hb <;> repeat' split at hb
          all_goals simp at hb
      | preparedApproval p =>
          exfalso
          cases a <;> simp only [beginOp] at hb <;> repeat' split at hb
          all_goals simp at hb
  cases a with
  | beginInitiate | beginTransition | beginApproval => exact ⟨hinv, hbegin, h.exact_⟩
  | abort i => exact ⟨hinv, fun op hop => h.decided op (List.mem_of_mem_eraseIdx hop), h.exact_⟩
  | prepare i env =>
      revert hinv
      unfold Interleaving.step
      dsimp only
      cases hi : σ.pending[i]? with
      | none => exact fun _ => h
      | some op =>
          dsimp only
          cases hp : op.prepared cfg env σ.store with
          | none =>
              exact fun hinv =>
                ⟨hinv, fun q hq => h.decided q (List.mem_of_mem_eraseIdx hq), h.exact_⟩
          | some op' =>
              refine fun hinv => ⟨hinv, ?_, h.exact_⟩
              intro q hq
              rcases List.mem_or_eq_of_mem_set hq with hold | rfl
              · exact h.decided q hold
              · exact prepared_decided (h.decided op (List.mem_of_getElem? hi)) hp
  | write i env =>
      revert hinv
      unfold Interleaving.step
      dsimp only
      cases hi : σ.pending[i]? with
      | none => exact fun _ => h
      | some op =>
          have hmem := List.mem_of_getElem? hi
          refine fun hinv => ⟨hinv, fun q hq => h.decided q (List.mem_of_mem_eraseIdx hq), ?_⟩
          exact h.exact_.write h.inv.histories (h.inv.pending op hmem) (h.decided op hmem)
            (commitTo_written (h.inv.pending op hmem))

/-! ### Every run -/

/-- The step is a successful `apply_transition` of the workflow with `CRITIC_REVISE`. -/
def Revises (σ : Sys) (workflowId : String) : Action → Prop
  | .write i env => ∃ p, σ.pending[i]? = some (.preparedTransition p) ∧
      p.workflow.workflowId = workflowId ∧ p.decision.signal = .criticRevise ∧
      (p.execute .fakes env σ.store).toOption ≠ none
  | _ => False

/-- A revision of the row `w`, whose result is `w'`, or any other step. -/
structure RevisionStep (cfg : AppConfig) (revises : Prop) (w w' : WorkflowRecord) : Prop where
  state : revises → w.state = .reviewing
  capped : revises → (w'.state = .reviewFailed ↔ w.revisionCount = cfg.maxScenarioRevisions)
  counted : revises → w.revisionCount ≠ cfg.maxScenarioRevisions →
    w'.revisionCount = w.revisionCount + 1
  other : ¬ revises → w'.revisionCount = w.revisionCount

/-- What a step does to the counters of the stored workflows. -/
def CapStep (cfg : AppConfig) (σ : Sys) (a : Action) : Prop :=
  ∀ workflowId w, σ.store.workflows.get? workflowId = some w →
    ∃ w', (stepFakes cfg a σ).store.workflows.get? workflowId = some w' ∧
      RevisionStep cfg (Revises σ workflowId a) w w'

theorem RevisionStep.same {cfg : AppConfig} {revises : Prop} {w w' : WorkflowRecord}
    (h : ¬ revises) (hw : w'.revisionCount = w.revisionCount) : RevisionStep cfg revises w w' where
  state := fun hr => absurd hr h
  capped := fun hr => absurd hr h
  counted := fun hr => absurd hr h
  other := fun _ => hw

/-- The critic's revise at the cap and below it. -/
theorem Decided.revises {cfg : AppConfig} {p : PreparedTransition} {d : TransitionDecision}
    (h : Interleaving.Decided cfg p .criticRevise d)
    (hcap : p.workflow.revisionCount ≤ cfg.maxScenarioRevisions) :
    p.workflow.state = .reviewing ∧
      (p.decision.toState = .reviewFailed ↔
        p.workflow.revisionCount = cfg.maxScenarioRevisions) ∧
      (p.workflow.revisionCount ≠ cfg.maxScenarioRevisions →
        p.newRevision = some (p.workflow.revisionCount + 1)) := by
  rw [h.toState, h.newRevision]
  rcases (TransitionTable.lookup_cases h.lookup).2 with
    ⟨hst, -, hle, rfl⟩ | ⟨hst, -, hlt, rfl⟩ | ⟨row, hrow, -⟩ | hf
  · exact ⟨hst, ⟨fun _ => by omega, fun _ => rfl⟩, fun hne => by omega⟩
  · exact ⟨hst, ⟨fun hto => absurd hto (by simp), fun heq => by omega⟩, fun _ => rfl⟩
  · cases hst : p.workflow.state <;> rw [hst] at hrow <;> exact absurd hrow (by simp [primaryMatrix])
  · exact absurd hf (by simp [TransitionTable.failureDecision])

theorem CapInv.capStep {cfg : AppConfig} {σ : Sys} {a : Action} (h : CapInv cfg σ)
    (ha : NoOverwrite σ a = true) : CapStep cfg σ a := by
  intro id w hw
  rw [stepFakes_eq ha]
  cases a with
  | beginInitiate | beginTransition | beginApproval | abort =>
      exact ⟨w, hw, RevisionStep.same (fun hr => hr) rfl⟩
  | prepare i env =>
      refine ⟨w, ?_, RevisionStep.same (fun hr => hr) rfl⟩
      unfold Interleaving.step
      dsimp only
      split
      · exact hw
      · split <;> exact hw
  | write i env =>
      unfold Interleaving.step
      dsimp only
      cases hi : σ.pending[i]? with
      | none =>
          refine ⟨w, hw, RevisionStep.same ?_ rfl⟩
          intro hr
          obtain ⟨p, hp, -⟩ := hr
          rw [hi] at hp
          exact absurd hp (by simp)
      | some op =>
          have hmem := List.mem_of_getElem? hi
          have hwritten : Written env σ.store op (op.commitTo .fakes env σ.store) :=
            commitTo_written (h.inv.pending op hmem)
          have hdec := h.decided op hmem
          dsimp only
          generalize op.commitTo .fakes env σ.store = s' at hwritten
          -- another operation than a transition revises nothing
          have hno : (∀ p, op ≠ .preparedTransition p) → ¬ Revises σ id (.write i env) := by
            intro hne hr
            obtain ⟨p, hp, -⟩ := hr
            exact hne p (Option.some.inj (hi.symm.trans hp))
          cases hwritten with
          | refused op hx =>
              refine ⟨w, hw, RevisionStep.same ?_ rfl⟩
              intro hr
              obtain ⟨p, hp, -, -, hok⟩ := hr
              exact hok (hx p (Option.some.inj (hi.symm.trans hp)))
          | initiated workflowId actor hnone =>
              refine ⟨w, ?_, RevisionStep.same (hno (by simp)) rfl⟩
              unfold initiatedStore
              rw [written_workflows, Table.get?_upsert, if_neg]
              · exact hw
              · intro hid
                have hid : workflowId = id := hid
                rw [hid, hw] at hnone
                exact absurd hnone (by simp)
          | transitioned p hg hx =>
              rw [written_workflows, Table.get?_upsert]
              by_cases hid : p.workflow.workflowId = id
              · rw [hid, hw] at hg
                obtain rfl := Option.some.inj hg
                refine ⟨_, if_pos hid, ?_⟩
                obtain ⟨sig, d, hd⟩ := hdec
                by_cases hsig : sig = .criticRevise
                · subst hsig
                  have hrev : Revises σ id (.write i env) := ⟨p, hi, hid, hd.signal, hx⟩
                  obtain ⟨hst, hcapped, hcounted⟩ := hd.revises (h.exact_ id _ hw).2
                  refine ⟨fun _ => hst, fun _ => hcapped, ?_, fun hr => absurd hrev hr⟩
                  intro _ hne
                  change p.newRevision.getD _ = _
                  rw [hcounted hne]
                  rfl
                · refine RevisionStep.same ?_ ?_
                  · intro hr
                    obtain ⟨q, hq, -, hq', -⟩ := hr
                    obtain rfl : p = q := by simpa using hi.symm.trans hq
                    exact hsig (hd.signal.symm.trans hq')
                  · change p.newRevision.getD p.workflow.revisionCount = _
                    have hinc : ¬ d.incrementRevisionCount = true := fun hinc =>
                      hsig ((TransitionTable.lookup_incrementRevisionCount hd.lookup).mp hinc).2.1
                    rw [hd.newRevision, if_neg hinc]
                    rfl
              · refine ⟨w, by rw [if_neg]; exacts [hw, hid], RevisionStep.same ?_ rfl⟩
                intro hr
                obtain ⟨q, hq, hqid, -, -⟩ := hr
                obtain rfl : p = q := by simpa using hi.symm.trans hq
                exact hid hqid
          | approved p hg =>
              rw [written_workflows, Table.get?_upsert]
              by_cases hid : p.workflow.workflowId = id
              · rw [hid, hw] at hg
                obtain rfl := Option.some.inj hg
                exact ⟨_, if_pos hid, RevisionStep.same (hno (by simp)) rfl⟩
              · exact ⟨w, by rw [if_neg]; exacts [hw, hid], RevisionStep.same (hno (by simp)) rfl⟩

/-- **The revision cap.** In every run of interleaved engine operations over the repository of
the fakes in which no workflow is created over a stored one, each counter is the number of
recorded revisions and within the cap; a revise leads to `REVIEW_FAILED` exactly at the cap and
raises the counter by one below it; and nothing else changes a counter. -/
theorem run_revision_cap (cfg : AppConfig) (as : List Action)
    (h : Along (stepFakes cfg) (fun σ a => NoOverwrite σ a = true) {} as) :
    (∀ workflowId w, (run (stepFakes cfg) {} as).store.workflows.get? workflowId = some w →
      w.revisionCount = revisions ((run (stepFakes cfg) {} as).store.history workflowId) ∧
        w.revisionCount ≤ cfg.maxScenarioRevisions) ∧
      Along (stepFakes cfg) (CapStep cfg) {} as := by
  refine ⟨?_, ?_⟩
  · have hinv : CapInv cfg (run (stepFakes cfg) {} as) :=
      run_along (fun σ a hσ ha => hσ.step ha) (capInv_init cfg) h
    exact hinv.exact_
  · exact along_imp (fun σ a hσ ha => hσ.step ha) (fun σ a hσ ha => hσ.capStep ha)
      (capInv_init cfg) h

/-- Expected states and signals up to the first revision. -/
def revisePath : List (WorkflowState × TransitionSignal) :=
  [(.collecting, .stageCompleted), (.collected, .stageCompleted),
    (.selectingTopic, .stageCompleted), (.topicSelected, .stageCompleted),
    (.generatingScenario, .stageCompleted), (.scenarioGenerated, .stageCompleted),
    (.reviewing, .criticRevise)]

/-- The transitions of `revisePath`, one after the other, each as operation `i`. -/
def reviseOps (i : Nat) : List Action :=
  revisePath.zipIdx.flatMap fun p =>
    [.beginTransition
        { workflowId := "wf", expectedState := p.1.1, signal := p.1.2, reason := "completed" },
      .prepare i (Env.numbered 1 (p.2 + 1)), .write i (Env.numbered 1 (p.2 + 1))]

def revisedRun : List Action :=
  [.beginInitiate (Env.numbered 0 0) { workflowId := some "wf" }, .write 0 (Env.numbered 0 0)] ++
    reviseOps 0

theorem revisedRun_cap :
    (run (stepFakes .prod) {} revisedRun).store.workflows.rows.map WorkflowRecord.revisionCount
        = [1] ∧
      (∀ workflowId w,
        (run (stepFakes .prod) {} revisedRun).store.workflows.get? workflowId = some w →
          w.revisionCount =
              revisions ((run (stepFakes .prod) {} revisedRun).store.history workflowId) ∧
            w.revisionCount ≤ AppConfig.prod.maxScenarioRevisions) ∧
      Along (stepFakes .prod) (CapStep .prod) {} revisedRun := by
  refine ⟨by decide +kernel, ?_⟩
  exact run_revision_cap .prod revisedRun (by decide +kernel)

/-- Two initiations of one workflow pass their duplicate check; the second one writes after the
first revision. -/
def overwriteRun : List Action :=
  [.beginInitiate (Env.numbered 0 0) { workflowId := some "wf" },
    .beginInitiate (Env.numbered 0 9) { workflowId := some "wf" }, .write 0 (Env.numbered 0 0)] ++
    reviseOps 1 ++ [.write 0 (Env.numbered 2 9)]

/-- **The counter is not exact in every run**: the history has a revision that the counter has
lost. -/
theorem overwriteRun_loses_revision :
    ∃ w ∈ (run (stepFakes .prod) {} overwriteRun).store.workflows.rows, w.workflowId = "wf" ∧
      w.revisionCount ≠
        revisions ((run (stepFakes .prod) {} overwriteRun).store.history w.workflowId) := by
  decide +kernel

end Interleaving

end CartoonDemo
