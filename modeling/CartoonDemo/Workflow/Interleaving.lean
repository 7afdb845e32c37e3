import CartoonDemo.Library.Run
import CartoonDemo.Library.Snapshot
import CartoonDemo.Workflow.EngineSpec
import Mathlib.Data.List.Chain

/-!
# CartoonDemo.Workflow.Interleaving

**Concurrent engine operations.** Any number of `initiate_workflow`, `apply_transition`
(by a worker, or by the reconciler with its repair signal) and `apply_approval_action`
calls are in progress at once. Each one reads, prepares and writes in separate steps, and
the steps of different operations come in any order; the writes of one operation commit
together or not at all.

A pending operation remembers the row it read. What survives of that knowledge while other
operations commit is `Observed` of `Library.Snapshot`, and the version handed to
`update_workflow_state` turns it back into a fact about the stored row at the moment of the
write. From this the recorded history of each workflow is always a path that starts with
the initiating step and ends in the stored state (`FaithfulHistory`).
-/

namespace CartoonDemo

namespace Interleaving

open WorkflowEngine TransitionExecutor

/-! ### The system

An operation is read, prepared and written in steps of its own.
-/

/-- An operation in progress, with what it has read or prepared so far. -/
inductive PendingOp
  /-- `initiate_workflow` after the duplicate check. -/
  | initiate (workflowId : String) (actor : Option String)
  /-- `apply_transition` after the read of the row. -/
  | transition (request : TransitionRequest) (workflow : WorkflowRecord)
  | preparedTransition (p : PreparedTransition)
  /-- `apply_approval_action` after the read of the row. -/
  | approval (action : ApprovalAction) (actor : Option String) (workflow : WorkflowRecord)
  | preparedApproval (p : PreparedApproval)
  deriving DecidableEq, Repr

/-- The committed store and the operations in progress. -/
structure Sys where
  store : Store := {}
  pending : List PendingOp := []
  deriving DecidableEq

inductive Action
  | beginInitiate (env : Env) (request : InitiateWorkflowRequest)
  | beginTransition (request : TransitionRequest)
  | beginApproval (workflowId : String) (action : ApprovalAction) (actor : Option String)
  /-- Operation `i` reads the artifacts and decides what to write. -/
  | prepare (i : Nat) (env : Env)
  /-- The write transaction of operation `i`. -/
  | write (i : Nat) (env : Env)
  /-- Operation `i` dies before its commit. -/
  | abort (i : Nat)
  deriving DecidableEq, Repr

/-- The write transaction of a pending operation. `create_workflow` is the `INSERT` under
the primary key, whatever repository runs the rest. -/
def PendingOp.commitTo (repo : WorkflowRepoKind) (env : Env) (s : Store) : PendingOp → Store
  | .initiate workflowId actor =>
      if (s.workflows.insert? (newWorkflow env.createdAt workflowId)).isSome then
        commit s (finishInitiate repo env workflowId actor s)
      else s
  | .preparedTransition p => commit s (p.execute repo env s)
  | .preparedApproval p => commit s (p.execute repo env s)
  | .transition _ _ | .approval _ _ _ => s

/-- The next form of a pending operation; `none` when it raises. -/
def PendingOp.prepared (cfg : AppConfig) (env : Env) (s : Store) : PendingOp → Option PendingOp
  | .transition request workflow =>
      (prepareTransition cfg env request workflow s).toOption.map .preparedTransition
  | .approval action actor workflow =>
      (prepareApproval env action actor workflow s).toOption.map .preparedApproval
  | op => some op

/-- The operation that a begin action starts from a read of the store; `none` when the
read already raises. -/
def beginOp (s : Store) : Action → Option PendingOp
  | .beginInitiate env request =>
      match allocate env request with
      | .error _ => none
      | .ok workflowId =>
          if (getWorkflow s workflowId).isSome then none
          else some (.initiate workflowId request.actor)
  | .beginTransition request => (getWorkflow s request.workflowId).map (.transition request)
  | .beginApproval workflowId action actor =>
      (getWorkflow s workflowId).map (.approval action actor)
  | _ => none

def step (repo : WorkflowRepoKind) (cfg : AppConfig) (a : Action) (σ : Sys) : Sys :=
  match a with
  | .beginInitiate _ _ | .beginTransition _ | .beginApproval _ _ _ =>
      { σ with pending := σ.pending ++ (beginOp σ.store a).toList }
  | .prepare i env =>
      match σ.pending[i]? with
      | none => σ
      | some op =>
          match op.prepared cfg env σ.store with
          | none => { σ with pending := σ.pending.eraseIdx i }
          | some op' => { σ with pending := σ.pending.set i op' }
  | .write i env =>
      match σ.pending[i]? with
      | none => σ
      | some op =>
          { store := op.commitTo repo env σ.store, pending := σ.pending.eraseIdx i }
  | .abort i => { σ with pending := σ.pending.eraseIdx i }

/-! ### Faithful histories

A chain of allowed transitions that ends in the stored state.
-/

/-- The steps the transition table, the approval table and `initiate_workflow` know. -/
inductive AllowedEdge (cfg : AppConfig) : WorkflowState → WorkflowState → Prop
  | initiate : AllowedEdge cfg .created .collecting
  | lookup {st : WorkflowState} {sig : TransitionSignal} {rc : Nat} {d : TransitionDecision}
      (h : TransitionTable.lookup st sig rc cfg.maxScenarioRevisions = .ok d) :
      AllowedEdge cfg st d.toState
  | approval (action : ApprovalAction) :
      AllowedEdge cfg .awaitingHumanApproval (TransitionTable.lookupApproval action).toState

/-- The history of a workflow is a gap-free path from the initiating step to the stored
state, one version per step. -/
structure FaithfulHistory (cfg : AppConfig) (w : WorkflowRecord)
    (history : List WorkflowTransitionRecord) : Prop where
  /-- One version per recorded step, counted from the version `create_workflow` gives. -/
  count : w.stateVersion = (newWorkflow w.createdAt w.workflowId).stateVersion + history.length
  /-- The first step is the initiating one. -/
  first : ∃ t rest, history = t :: rest ∧ t.fromState = .created ∧ t.toState = .collecting
  /-- Each step starts where the previous one ended. -/
  chain : history.IsChain (fun a b => a.toState = b.fromState)
  /-- The last step ends in the stored state. -/
  last : ∃ init t, history = init ++ [t] ∧ t.toState = w.state
  /-- Each step is an edge of the tables. -/
  edges : ∀ t ∈ history, AllowedEdge cfg t.fromState t.toState

/-- The first step makes a history. -/
theorem FaithfulHistory.initiated (cfg : AppConfig) (env : Env) (workflowId : String)
    (actor : Option String) :
    FaithfulHistory cfg (initiatedRow env workflowId)
      [buildTransition env workflowId .created .collecting "workflow_initiated" actor] where
  count := rfl
  first := ⟨_, [], rfl, rfl, rfl⟩
  chain := List.isChain_singleton _
  last := ⟨[], _, rfl, rfl⟩
  edges := by
    intro t ht
    obtain rfl := List.mem_singleton.mp ht
    exact AllowedEdge.initiate

/-- Writing the next row and appending the step that leads to it. -/
theorem FaithfulHistory.append {cfg : AppConfig} {w : WorkflowRecord}
    {history : List WorkflowTransitionRecord} (h : FaithfulHistory cfg w history)
    {now : Time} {st : WorkflowState} {fr : Option String} {rc : Option Nat}
    {t : WorkflowTransitionRecord} (hfrom : t.fromState = w.state) (hto : t.toState = st)
    (hedge : AllowedEdge cfg w.state st) :
    FaithfulHistory cfg (updatedRow w now st fr rc) (history ++ [t]) where
  count := by
    have hc := h.count
    simp only [updatedRow, newWorkflow, List.length_append, List.length_singleton] at hc ⊢
    omega
  first := by
    obtain ⟨t₀, rest, rfl, h₁, h₂⟩ := h.first
    exact ⟨t₀, rest ++ [t], rfl, h₁, h₂⟩
  chain := by
    obtain ⟨init, last, rfl, hlast⟩ := h.last
    refine List.isChain_append.mpr ⟨h.chain, List.isChain_singleton _, ?_⟩
    intro a ha b hb
    simp only [List.getLast?_append, List.getLast?_singleton, Option.some_or,
      Option.mem_def, Option.some.injEq, List.head?_cons] at ha hb
    rw [← ha, ← hb, hlast, hfrom]
  last := ⟨history, t, rfl, by rw [hto]; rfl⟩
  edges := by
    intro q hq
    rcases List.mem_append.mp hq with hq | hq
    · exact h.edges q hq
    · obtain rfl := List.mem_singleton.mp hq
      rw [hfrom, hto]
      exact hedge

/-! ### The invariant -/

/-- Every stored workflow has a faithful history, and nothing else has one. -/
def HistoriesFaithful (cfg : AppConfig) (s : Store) : Prop :=
  ∀ workflowId,
    (∀ w, s.workflows.get? workflowId = some w →
      FaithfulHistory cfg w (s.history workflowId)) ∧
    (s.workflows.get? workflowId = none → s.history workflowId = [])

/-- The row `w` was read from the store at some time. -/
abbrev Read (s : Store) (w : WorkflowRecord) : Prop :=
  Observed WorkflowRecord.stateVersion s.workflows.get? w.workflowId w

/-- What is known about a pending operation. -/
def PendingOp.Sound (cfg : AppConfig) (s : Store) : PendingOp → Prop
  | .initiate _ _ => True
  | .transition request w => w.workflowId = request.workflowId ∧ Read s w
  | .preparedTransition p =>
      Read s p.workflow ∧ p.transition.workflowId = p.workflow.workflowId ∧
      p.transition.fromState = p.workflow.state ∧ p.transition.toState = p.decision.toState ∧
      AllowedEdge cfg p.workflow.state p.decision.toState
  | .approval _ _ w => Read s w
  | .preparedApproval p =>
      Read s p.workflow ∧ p.transition.workflowId = p.workflow.workflowId ∧
      p.transition.fromState = p.workflow.state ∧ p.transition.toState = p.decision.toState ∧
      AllowedEdge cfg p.workflow.state p.decision.toState

structure Inv (cfg : AppConfig) (σ : Sys) : Prop where
  histories : HistoriesFaithful cfg σ.store
  pending : ∀ op ∈ σ.pending, op.Sound cfg σ.store

/-- Pending operations stay sound while the workflow rows advance. -/
theorem PendingOp.Sound.advance {cfg : AppConfig} {s s' : Store} {op : PendingOp}
    (h : op.Sound cfg s)
    (ha : Advances WorkflowRecord.stateVersion s.workflows.get? s'.workflows.get?) :
    op.Sound cfg s' := by
  cases op with
  | initiate workflowId actor => trivial
  | transition request w => exact ⟨h.1, h.2.advance ha⟩
  | preparedTransition p => exact ⟨h.1.advance ha, h.2⟩
  | approval action actor w => exact Observed.advance h ha
  | preparedApproval p => exact ⟨h.1.advance ha, h.2⟩

/-! ### One write

The version that was read is still the one that is stored, or the write fails.
-/

/-- A write keeps the invariant of the store and advances the rows: the row `w` it was
prepared from must have been read, and the step must be an edge. -/
theorem write_faithful {cfg : AppConfig} {repo : WorkflowRepoKind} {env : Env}
    {w r : WorkflowRecord} {st : WorkflowState} {fr : Option String} {rc : Option Nat}
    {tr : WorkflowTransitionRecord} {o : Option OutboxBuildResult} {s s' : Store}
    (hs : HistoriesFaithful cfg s) (hread : Read s w)
    (hid : tr.workflowId = w.workflowId) (hfrom : tr.fromState = w.state)
    (hto : tr.toState = st) (hedge : AllowedEdge cfg w.state st)
    (h : write repo env w st fr rc tr o s = .ok (r, s')) :
    HistoriesFaithful cfg s' ∧
      Advances WorkflowRecord.stateVersion s.workflows.get? s'.workflows.get? := by
  obtain ⟨existing, hg, hv, rfl, rfl⟩ := write_ok h
  -- the version still matches, so the row that was read is the stored one
  obtain rfl : existing = w := hread.eq_of_version hg hv
  have hkey : (updatedRow existing env.updatedAt st fr rc).workflowId = existing.workflowId := rfl
  constructor
  · intro k
    rw [written_history, written_workflows, Table.get?_upsert, hkey, hid]
    by_cases hk : existing.workflowId = k
    · subst hk
      rw [if_pos rfl, if_pos rfl]
      refine ⟨fun w' hw' => ?_, fun hn => absurd hn (by simp)⟩
      obtain rfl := Option.some.inj hw'
      exact ((hs existing.workflowId).1 existing hg).append hfrom hto hedge
    · rw [if_neg hk, if_neg hk, List.append_nil]
      exact hs k
  · refine Advances.of_write (k := existing.workflowId)
      (v := updatedRow existing env.updatedAt st fr rc) ?_ ?_ ?_
    · intro q hq
      obtain rfl := Option.some.inj (hq.symm.trans hg)
      exact Nat.lt_succ_self _
    · rw [written_workflows, Table.get?_upsert, if_pos hkey]
    · intro k hk
      rw [written_workflows, Table.get?_upsert, if_neg (fun he => hk (he.symm.trans hkey))]

/-- Initiating a workflow keeps the invariant of the store and advances the rows. -/
theorem initiated_faithful {cfg : AppConfig} {env : Env} {workflowId : String}
    {actor : Option String} {s : Store} (hs : HistoriesFaithful cfg s)
    (hnone : s.workflows.get? workflowId = none) :
    HistoriesFaithful cfg (initiatedStore env workflowId actor s) ∧
      Advances WorkflowRecord.stateVersion s.workflows.get?
        (initiatedStore env workflowId actor s).workflows.get? := by
  have hkey : (initiatedRow env workflowId).workflowId = workflowId := rfl
  constructor
  · intro k
    have htr : (buildTransition env workflowId .created .collecting "workflow_initiated"
        actor).workflowId = workflowId := rfl
    unfold initiatedStore
    rw [written_history, written_workflows, Table.get?_upsert, hkey, htr]
    by_cases hk : workflowId = k
    · subst hk
      rw [if_pos rfl]
      refine ⟨fun w hw => ?_, fun hn => absurd hn (by simp)⟩
      obtain rfl := Option.some.inj hw
      rw [(hs workflowId).2 hnone, List.nil_append, if_pos rfl]
      exact FaithfulHistory.initiated cfg env workflowId actor
    · rw [if_neg hk, if_neg hk, List.append_nil]
      exact hs k
  · refine Advances.of_write (k := workflowId) (v := initiatedRow env workflowId) ?_ ?_ ?_
    · intro q hq
      exact absurd hq (by simp [hnone])
    · simp [initiatedStore, hkey]
    · intro k hk
      unfold initiatedStore
      rw [written_workflows, Table.get?_upsert, if_neg (fun he => hk (he.symm.trans hkey))]

/-- The write transaction of any sound pending operation. -/
theorem commitTo_faithful {cfg : AppConfig} (repo : WorkflowRepoKind) (env : Env) {s : Store}
    (hs : HistoriesFaithful cfg s) {op : PendingOp} (hop : op.Sound cfg s) :
    HistoriesFaithful cfg (op.commitTo repo env s) ∧
      Advances WorkflowRecord.stateVersion s.workflows.get?
        (op.commitTo repo env s).workflows.get? := by
  cases op with
  | transition request w => exact ⟨hs, Advances.refl⟩
  | approval action actor w => exact ⟨hs, Advances.refl⟩
  | initiate workflowId actor =>
      simp only [PendingOp.commitTo]
      split
      · next hins =>
        obtain ⟨t, ht⟩ := Option.isSome_iff_exists.mp hins
        have hnone : s.workflows.get? workflowId = none := (Table.insert?_eq_some ht).1
        obtain ⟨res, hfin⟩ := finishInitiate_of_get_none repo env actor hnone
        rw [hfin, commit_ok]
        exact initiated_faithful hs hnone
      · exact ⟨hs, Advances.refl⟩
  | preparedTransition p =>
      obtain ⟨hread, hid, hfrom, hto, hedge⟩ := hop
      rcases commit_cases s (p.execute repo env s) with heq | ⟨res, hok⟩
      · rw [PendingOp.commitTo, heq]
        exact ⟨hs, Advances.refl⟩
      · obtain ⟨r, hw, -, -, -⟩ := executeTransition_ok hok
        exact write_faithful hs hread hid hfrom hto hedge hw
  | preparedApproval p =>
      obtain ⟨hread, hid, hfrom, hto, hedge⟩ := hop
      rcases commit_cases s (p.execute repo env s) with heq | ⟨res, hok⟩
      · rw [PendingOp.commitTo, heq]
        exact ⟨hs, Advances.refl⟩
      · obtain ⟨r, hw⟩ := executeApproval_ok hok
        exact write_faithful hs hread hid hfrom hto hedge hw

/-! ### One step -/

/-- A new operation is sound: what it remembers it has just read. -/
theorem beginOp_sound {cfg : AppConfig} {s : Store} {a : Action} {op : PendingOp}
    (h : beginOp s a = some op) : op.Sound cfg s := by
  cases a with
  | beginInitiate env request =>
      unfold beginOp at h
      dsimp only at h
      cases ha : allocate env request with
      | error e => rw [ha] at h; exact absurd h (by simp)
      | ok workflowId =>
          rw [ha] at h
          dsimp only at h
          split at h
          · exact absurd h (by simp)
          · cases h; trivial
  | beginTransition request =>
      obtain ⟨w, hw, rfl⟩ := Option.map_eq_some_iff.mp h
      have hid : w.workflowId = request.workflowId := Table.key_of_get? hw
      exact ⟨hid, Observed.of_get (by rw [hid]; exact hw)⟩
  | beginApproval workflowId action actor =>
      obtain ⟨w, hw, rfl⟩ := Option.map_eq_some_iff.mp h
      have hid : w.workflowId = workflowId := Table.key_of_get? hw
      exact Observed.of_get (by rw [hid]; exact hw)
  | prepare i env => exact absurd h (by simp [beginOp])
  | write i env => exact absurd h (by simp [beginOp])
  | abort i => exact absurd h (by simp [beginOp])

/-- Preparing keeps an operation sound: its step is an edge of the tables. -/
theorem prepared_sound {cfg : AppConfig} {env : Env} {s : Store} {op op' : PendingOp}
    (hop : op.Sound cfg s) (h : op.prepared cfg env s = some op') : op'.Sound cfg s := by
  cases op with
  | initiate workflowId actor => cases h; exact hop
  | preparedTransition p => cases h; exact hop
  | preparedApproval p => cases h; exact hop
  | transition request w =>
      obtain ⟨p, hp, rfl⟩ := Option.map_eq_some_iff.mp h
      cases hprep : prepareTransition cfg env request w s with
      | error e => rw [hprep] at hp; exact absurd hp (by simp [Except.toOption])
      | ok q =>
          rw [hprep] at hp
          obtain rfl : q = p := by simpa [Except.toOption] using hp
          obtain ⟨-, d, hd, rfl⟩ := prepareTransition_ok_iff.mp hprep
          have hto : (withFailureReason request d).toState = d.toState :=
            withFailureReason_toState request d
          exact ⟨hop.2, hop.1.symm, rfl, hto.symm, by
            simpa [preparedFor] using AllowedEdge.lookup hd⟩
  | approval action actor w =>
      obtain ⟨p, hp, rfl⟩ := Option.map_eq_some_iff.mp h
      cases hprep : prepareApproval env action actor w s with
      | error e => rw [hprep] at hp; exact absurd hp (by simp [Except.toOption])
      | ok q =>
          rw [hprep] at hp
          obtain rfl : q = p := by simpa [Except.toOption] using hp
          obtain ⟨hst, rfl⟩ := prepareApproval_ok_iff.mp hprep
          refine ⟨hop, rfl, rfl, rfl, ?_⟩
          change AllowedEdge cfg w.state _
          rw [hst]
          exact AllowedEdge.approval action

theorem inv_step {repo : WorkflowRepoKind} {cfg : AppConfig} (σ : Sys) (a : Action)
    (h : Inv cfg σ) : Inv cfg (step repo cfg a σ) := by
  have hbegin : Inv cfg { σ with pending := σ.pending ++ (beginOp σ.store a).toList } := by
    refine ⟨h.histories, fun op hop => ?_⟩
    rcases List.mem_append.mp hop with hop | hop
    · exact h.pending op hop
    · exact beginOp_sound (by simpa using hop)
  cases a with
  | beginInitiate env request => exact hbegin
  | beginTransition request => exact hbegin
  | beginApproval workflowId action actor => exact hbegin
  | abort i => exact ⟨h.histories, fun op hop => h.pending op (List.mem_of_mem_eraseIdx hop)⟩
  | prepare i env =>
      simp only [step]
      cases hi : σ.pending[i]? with
      | none => exact h
      | some op =>
          have hop : op.Sound cfg σ.store := h.pending op (List.mem_of_getElem? hi)
          dsimp only
          cases hp : op.prepared cfg env σ.store with
          | none => exact ⟨h.histories, fun q hq => h.pending q (List.mem_of_mem_eraseIdx hq)⟩
          | some op' =>
              refine ⟨h.histories, fun q hq => ?_⟩
              rcases List.mem_or_eq_of_mem_set hq with hq | rfl
              · exact h.pending q hq
              · exact prepared_sound hop hp
  | write i env =>
      simp only [step]
      cases hi : σ.pending[i]? with
      | none => exact h
      | some op =>
          obtain ⟨hfaith, hadv⟩ := commitTo_faithful repo env h.histories
            (h.pending op (List.mem_of_getElem? hi))
          exact ⟨hfaith, fun q hq => (h.pending q (List.mem_of_mem_eraseIdx hq)).advance hadv⟩

/-! ### Every run -/

theorem inv_init (cfg : AppConfig) : Inv cfg {} where
  histories := fun _ => ⟨fun w hw => absurd hw (by simp), fun _ => rfl⟩
  pending := fun op hop => absurd hop (by simp)

/-- **History is a faithful, gap-free path.** In every store that interleaved engine
operations can commit, each workflow's version counts its recorded transitions, and these
form a path of table edges from `CREATED → COLLECTING` to the stored state. -/
theorem history_faithful_of_run (repo : WorkflowRepoKind) (cfg : AppConfig)
    (actions : List Action) (workflowId : String) :
    (∀ w, (run (step repo cfg) {} actions).store.workflows.get? workflowId = some w →
      FaithfulHistory cfg w ((run (step repo cfg) {} actions).store.history workflowId)) ∧
    ((run (step repo cfg) {} actions).store.workflows.get? workflowId = none →
      (run (step repo cfg) {} actions).store.history workflowId = []) := by
  have hinv : Inv cfg (run (step repo cfg) {} actions) :=
    run_induction (fun _ => True) (fun σ a _ => inv_step σ a) (inv_init cfg)
      (fun _ _ => trivial)
  exact hinv.histories workflowId

end Interleaving

end CartoonDemo
