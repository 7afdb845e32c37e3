import CartoonDemo.Api.Timeline
import CartoonDemo.Workflow.Interleaving

/-!
# CartoonDemo.Workflow.HistoryOrder

**The order of history and timeline.** Both are sorted by the time of a transition, which the
engine reads while it prepares the step, and not by the order of the commits. Over a clock that
never goes back the times rise with the commits all the same (`InOrder`): a step is prepared after
its workflow row is read, and it is written only if no other step of the workflow was committed in
between.

What remains are transitions of one clock reading. PostgreSQL keeps them in the order of the serial
`id`; the in-memory repository sorts them by `transition_id` and the timeline by `stable_id`, which
are random.
-/

namespace CartoonDemo

open WorkflowEngine TransitionExecutor

namespace Interleaving

/-! ### Times along a run

The clock is read before the write, and the writes of one workflow are in the order of their
versions.
-/

/-- The reading that an action may put into a transition. -/
def Action.reading : Action → Option Time
  | .prepare _ env | .write _ env => some env.occurredAt
  | _ => none

/-- The clock never goes back. -/
def NondecreasingClock (actions : List Action) : Prop :=
  (actions.filterMap Action.reading).Pairwise (· ≤ ·)

/-- The row that a prepared operation was decided on, and the transition it will append. -/
def PendingOp.prepared? : PendingOp → Option (WorkflowRecord × WorkflowTransitionRecord)
  | .preparedTransition p => some (p.workflow, p.transition)
  | .preparedApproval p => some (p.workflow, p.transition)
  | _ => none

/-- The stored row of the workflow is still at the version that was read. -/
def Current (s : Store) (w : WorkflowRecord) : Prop :=
  ∃ existing, s.workflows.get? w.workflowId = some existing ∧
    existing.stateVersion = w.stateVersion

/-- The times of the histories rise, up to now, and a prepared transition is not older than the
history it is about to continue. -/
structure InOrder (now : Time) (σ : Sys) : Prop where
  history : ∀ workflowId, (σ.store.history workflowId).Pairwise fun a b => a.occurredAt ≤ b.occurredAt
  past : ∀ t ∈ σ.store.transitions, t.occurredAt ≤ now
  prepared : ∀ op ∈ σ.pending, ∀ w tr, op.prepared? = some (w, tr) → tr.occurredAt ≤ now ∧
    (Current σ.store w → ∀ t ∈ σ.store.history w.workflowId, t.occurredAt ≤ tr.occurredAt)

theorem InOrder.mono {now now' : Time} {σ : Sys} (h : InOrder now σ) (hle : now ≤ now') :
    InOrder now' σ where
  history := h.history
  past t ht := le_trans (h.past t ht) hle
  prepared op hop w tr hp := ⟨le_trans (h.prepared op hop w tr hp).1 hle, (h.prepared op hop w tr hp).2⟩

theorem inOrder_init (now : Time) : InOrder now {} where
  history _ := List.Pairwise.nil
  past _ ht := absurd ht (by simp)
  prepared _ hop := absurd hop (by simp)

theorem mem_transitions_of_mem_history {s : Store} {workflowId : String}
    {t : WorkflowTransitionRecord} (h : t ∈ s.history workflowId) : t ∈ s.transitions :=
  List.mem_of_mem_filter h

/-- What a write transaction does to the store: nothing, or it appends the step of a free
identifier or of a row that is still current. -/
inductive Committed (env : Env) (s : Store) : PendingOp → Store → Prop
  | unchanged {op : PendingOp} : Committed env s op s
  | initiated {workflowId : String} {actor : Option String}
      (hfree : s.workflows.get? workflowId = none) :
      Committed env s (.initiate workflowId actor) (initiatedStore env workflowId actor s)
  | moved {op : PendingOp} {w existing row : WorkflowRecord} {tr : WorkflowTransitionRecord}
      {o : Option OutboxBuildResult} (hop : op.prepared? = some (w, tr))
      (hid : tr.workflowId = w.workflowId) (hget : s.workflows.get? w.workflowId = some existing)
      (hversion : existing.stateVersion = w.stateVersion)
      (hrow : row.workflowId = w.workflowId ∧ row.stateVersion = existing.stateVersion + 1) :
      Committed env s op (written env row tr o s)

theorem committed_of_write {repo : WorkflowRepoKind} {env : Env} {op : PendingOp}
    {w r : WorkflowRecord} {st : WorkflowState} {fr : Option String} {rc : Option Nat}
    {tr : WorkflowTransitionRecord} {o : Option OutboxBuildResult} {s s' : Store}
    (hop : op.prepared? = some (w, tr)) (hid : tr.workflowId = w.workflowId)
    (h : write repo env w st fr rc tr o s = .ok (r, s')) : Committed env s op s' := by
  obtain ⟨existing, hget, hversion, rfl, rfl⟩ := write_ok h
  have hkey : existing.workflowId = w.workflowId := Table.key_of_get? hget
  exact .moved hop hid hget hversion ⟨hkey, rfl⟩

theorem commitTo_committed {cfg : AppConfig} (repo : WorkflowRepoKind) (env : Env) {s : Store}
    {op : PendingOp} (hop : op.Sound cfg s) : Committed env s op (op.commitTo repo env s) := by
  cases op with
  | transition request w => exact .unchanged
  | approval action actor w => exact .unchanged
  | initiate workflowId actor =>
      rw [PendingOp.commitTo]
      split
      · next hins =>
        obtain ⟨t, ht⟩ := Option.isSome_iff_exists.mp hins
        have hfree : s.workflows.get? workflowId = none := (Table.insert?_eq_some ht).1
        obtain ⟨res, hfin⟩ := finishInitiate_of_get_none repo env actor hfree
        rw [hfin, commit_ok]
        exact .initiated hfree
      · exact .unchanged
  | preparedTransition p =>
      rcases commit_cases s (p.execute repo env s) with heq | ⟨res, hok⟩
      · rw [PendingOp.commitTo, heq]
        exact .unchanged
      · obtain ⟨r, hw, -, -, -⟩ := executeTransition_ok hok
        exact committed_of_write rfl hop.2.1 hw
  | preparedApproval p =>
      rcases commit_cases s (p.execute repo env s) with heq | ⟨res, hok⟩
      · rw [PendingOp.commitTo, heq]
        exact .unchanged
      · obtain ⟨r, hw⟩ := executeApproval_ok hok
        exact committed_of_write rfl hop.2.1 hw

/-- A row that was read is not newer than the stored one. -/
theorem Read.version_le {s : Store} {w existing : WorkflowRecord} (h : Read s w)
    (hget : s.workflows.get? w.workflowId = some existing) :
    w.stateVersion ≤ existing.stateVersion := by
  obtain ⟨stored, hstored, hle⟩ := h
  obtain rfl := Option.some.inj (hget.symm.trans hstored)
  rcases hle with rfl | hlt
  · exact Nat.le_refl _
  · exact Nat.le_of_lt hlt

theorem PendingOp.Sound.read {cfg : AppConfig} {s : Store} {op : PendingOp} {w : WorkflowRecord}
    {tr : WorkflowTransitionRecord} (h : op.Sound cfg s) (hp : op.prepared? = some (w, tr)) :
    Read s w := by
  cases op with
  | initiate workflowId actor => cases hp
  | transition request row => cases hp
  | approval action actor row => cases hp
  | preparedTransition p =>
      obtain ⟨rfl, rfl⟩ := Prod.mk.inj (Option.some.inj hp)
      exact h.1
  | preparedApproval p =>
      obtain ⟨rfl, rfl⟩ := Prod.mk.inj (Option.some.inj hp)
      exact h.1

/-! ### One step -/

/-- Appending the step of workflow `k` keeps the order, if it is not older than the history of `k`
and pending operations on `k` are out of date from then on. -/
theorem InOrder.append {now : Time} {σ : Sys} (h : InOrder now σ) {env : Env} {k : String}
    {row : WorkflowRecord} {tr : WorkflowTransitionRecord} {o : Option OutboxBuildResult}
    {rest : List PendingOp} (hrest : ∀ op ∈ rest, op ∈ σ.pending) (hid : tr.workflowId = k)
    (hkey : row.workflowId = k) (hnow : tr.occurredAt ≤ now)
    (hlast : ∀ t ∈ σ.store.history k, t.occurredAt ≤ tr.occurredAt)
    (hstale : ∀ op ∈ rest, ∀ w t, op.prepared? = some (w, t) → w.workflowId = k →
      row.stateVersion ≠ w.stateVersion) :
    InOrder now { store := written env row tr o σ.store, pending := rest } where
  history workflowId := by
    rw [written_history]
    by_cases hk : tr.workflowId = workflowId
    · rw [if_pos hk]
      refine List.pairwise_append.mpr ⟨h.history workflowId, List.pairwise_singleton _ _, ?_⟩
      intro t ht t' ht'
      obtain rfl := List.mem_singleton.mp ht'
      exact hlast t (by rw [← hid, hk]; exact ht)
    · rw [if_neg hk, List.append_nil]
      exact h.history workflowId
  past t ht := by
    rw [written_transitions] at ht
    rcases List.mem_append.mp ht with ht | ht
    · exact h.past t ht
    · obtain rfl := List.mem_singleton.mp ht
      exact hnow
  prepared op hop w t hp := by
    obtain ⟨hold, hcurrent⟩ := h.prepared op (hrest op hop) w t hp
    refine ⟨hold, ?_⟩
    rintro ⟨existing, hget, hversion⟩ q hq
    rw [written_workflows, Table.get?_upsert, hkey] at hget
    rw [written_history, hid] at hq
    by_cases hk : k = w.workflowId
    · -- the row that was just written is newer than the one that was read
      rw [if_pos hk] at hget
      obtain rfl := Option.some.inj hget
      exact absurd hversion (hstale op hop w t hp hk.symm)
    · rw [if_neg hk] at hget
      rw [if_neg hk, List.append_nil] at hq
      exact hcurrent ⟨existing, hget, hversion⟩ q hq

theorem InOrder.write {cfg : AppConfig} {now : Time} {σ : Sys} {env : Env} {op : PendingOp}
    {s' : Store} {rest : List PendingOp} (h : InOrder now σ) (hinv : Inv cfg σ) (hop : op ∈ σ.pending)
    (hrest : ∀ op ∈ rest, op ∈ σ.pending) (hnow : now = env.occurredAt)
    (hc : Committed env σ.store op s') : InOrder now { store := s', pending := rest } := by
  cases hc with
  | unchanged =>
      exact ⟨h.history, h.past, fun q hq => h.prepared q (hrest q hq)⟩
  | @initiated workflowId actor hfree =>
      refine InOrder.append (k := workflowId) h hrest rfl rfl (le_of_eq hnow.symm) ?_ ?_
      · -- a free identifier has no history
        rw [(hinv.histories workflowId).2 hfree]
        exact fun t ht => absurd ht (by simp)
      · intro q hq w t hp hk
        obtain ⟨stored, hstored, -⟩ := (hinv.pending q (hrest q hq)).read hp
        rw [hk, hfree] at hstored
        cases hstored
  | moved hprepared hid hget hversion hrow =>
      obtain ⟨hold, hcurrent⟩ := h.prepared op hop _ _ hprepared
      refine h.append hrest hid hrow.1 hold (hcurrent ⟨_, hget, hversion⟩) ?_
      intro q hq w t hp hk
      have hle := ((hinv.pending q (hrest q hq)).read hp).version_le (hk ▸ hget)
      rw [hrow.2]
      exact Nat.ne_of_gt (Nat.lt_succ_of_le hle)

/-- A begun operation has prepared nothing. -/
theorem prepared?_of_beginOp {s : Store} {a : Action} {op : PendingOp} (h : beginOp s a = some op) :
    op.prepared? = none := by
  cases a with
  | beginInitiate env request =>
      rw [beginOp] at h
      split at h
      · cases h
      · split at h
        · cases h
        · cases h
          rfl
  | beginTransition request =>
      obtain ⟨w, -, rfl⟩ := Option.map_eq_some_iff.mp h
      rfl
  | beginApproval workflowId action actor =>
      obtain ⟨w, -, rfl⟩ := Option.map_eq_some_iff.mp h
      rfl
  | prepare i env => cases h
  | write i env => cases h
  | abort i => cases h

/-- What is prepared was prepared before, or is given the time of the reading. -/
theorem prepared?_of_prepared {cfg : AppConfig} {env : Env} {s : Store} {op op' : PendingOp}
    {w : WorkflowRecord} {tr : WorkflowTransitionRecord} (h : op.prepared cfg env s = some op')
    (hp : op'.prepared? = some (w, tr)) :
    op.prepared? = some (w, tr) ∨ tr.occurredAt = env.occurredAt := by
  cases op with
  | initiate workflowId actor => cases h; exact Or.inl hp
  | preparedTransition p => cases h; exact Or.inl hp
  | preparedApproval p => cases h; exact Or.inl hp
  | transition request row =>
      obtain ⟨p, hprep, rfl⟩ := Option.map_eq_some_iff.mp h
      cases hres : prepareTransition cfg env request row s with
      | error e => rw [hres] at hprep; cases hprep
      | ok q =>
          rw [hres] at hprep
          obtain rfl : q = p := by simpa [Except.toOption] using hprep
          obtain ⟨-, d, -, rfl⟩ := prepareTransition_ok_iff.mp hres
          obtain ⟨rfl, rfl⟩ := Prod.mk.inj (Option.some.inj hp)
          exact Or.inr rfl
  | approval action actor row =>
      obtain ⟨p, hprep, rfl⟩ := Option.map_eq_some_iff.mp h
      cases hres : prepareApproval env action actor row s with
      | error e => rw [hres] at hprep; cases hprep
      | ok q =>
          rw [hres] at hprep
          obtain rfl : q = p := by simpa [Except.toOption] using hprep
          obtain ⟨-, rfl⟩ := prepareApproval_ok_iff.mp hres
          obtain ⟨rfl, rfl⟩ := Prod.mk.inj (Option.some.inj hp)
          exact Or.inr rfl

theorem InOrder.prepare {cfg : AppConfig} {now : Time} {σ : Sys} {env : Env} {i : Nat}
    {op op' : PendingOp} (h : InOrder now σ) (hop : op ∈ σ.pending) (hnow : now = env.occurredAt)
    (hp : op.prepared cfg env σ.store = some op') :
    InOrder now { σ with pending := σ.pending.set i op' } where
  history := h.history
  past := h.past
  prepared q hq w tr hprepared := by
    rcases List.mem_or_eq_of_mem_set hq with hq | rfl
    · exact h.prepared q hq w tr hprepared
    · rcases prepared?_of_prepared hp hprepared with hbefore | htime
      · exact h.prepared op hop w tr hbefore
      · refine ⟨le_of_eq (htime.trans hnow.symm), fun _ t ht => ?_⟩
        rw [htime, ← hnow]
        exact h.past t (mem_transitions_of_mem_history ht)

/-- **One step keeps the order**, read at a time that is not before now. -/
theorem inOrder_step (repo : WorkflowRepoKind) {cfg : AppConfig} {now : Time} {σ : Sys} (a : Action)
    (h : InOrder now σ) (hinv : Inv cfg σ) (hread : ∀ t ∈ a.reading, now ≤ t) :
    InOrder (a.reading.getD now) (step repo cfg a σ) := by
  have hbegin : InOrder now { σ with pending := σ.pending ++ (beginOp σ.store a).toList } := by
    refine ⟨h.history, h.past, fun op hop w tr hp => ?_⟩
    rcases List.mem_append.mp hop with hop | hop
    · exact h.prepared op hop w tr hp
    · rw [prepared?_of_beginOp (by simpa using hop)] at hp
      cases hp
  cases a with
  | beginInitiate env request => exact hbegin
  | beginTransition request => exact hbegin
  | beginApproval workflowId action actor => exact hbegin
  | abort i =>
      exact ⟨h.history, h.past, fun op hop => h.prepared op (List.mem_of_mem_eraseIdx hop)⟩
  | prepare i env =>
      have h' : InOrder env.occurredAt σ := h.mono (hread _ rfl)
      show InOrder env.occurredAt _
      simp only [step]
      cases hi : σ.pending[i]? with
      | none => exact h'
      | some op =>
          dsimp only
          cases hp : op.prepared cfg env σ.store with
          | none =>
              exact ⟨h'.history, h'.past,
                fun q hq => h'.prepared q (List.mem_of_mem_eraseIdx hq)⟩
          | some op' => exact h'.prepare (List.mem_of_getElem? hi) rfl hp
  | write i env =>
      have h' : InOrder env.occurredAt σ := h.mono (hread _ rfl)
      show InOrder env.occurredAt _
      simp only [step]
      cases hi : σ.pending[i]? with
      | none => exact h'
      | some op =>
          have hop := List.mem_of_getElem? hi
          exact h'.write hinv hop (fun q hq => List.mem_of_mem_eraseIdx hq) rfl
            (commitTo_committed repo env (hinv.pending op hop))

/-! ### Every run -/

theorem inOrder_run (repo : WorkflowRepoKind) {cfg : AppConfig} {actions : List Action} {now : Time}
    {σ : Sys} (h : InOrder now σ) (hinv : Inv cfg σ)
    (hlater : ∀ t ∈ actions.filterMap Action.reading, now ≤ t) (hclock : NondecreasingClock actions) :
    ∃ now', InOrder now' (run (step repo cfg) σ actions) := by
  induction actions generalizing now σ with
  | nil => exact ⟨now, h⟩
  | cons a actions ih =>
      have hstep := inOrder_step repo a h hinv fun t ht =>
        hlater t (List.mem_filterMap.mpr ⟨a, List.mem_cons_self, ht⟩)
      rw [run_cons]
      refine ih hstep (inv_step σ a hinv) ?_ ?_
      · intro t ht
        cases hr : a.reading with
        | none =>
            refine hlater t ?_
            rw [List.filterMap_cons, hr]
            exact ht
        | some r =>
            rw [NondecreasingClock, List.filterMap_cons, hr] at hclock
            exact (List.pairwise_cons.mp hclock).1 t ht
      · cases hr : a.reading with
        | none =>
            rw [NondecreasingClock, List.filterMap_cons, hr] at hclock
            exact hclock
        | some r =>
            rw [NondecreasingClock, List.filterMap_cons, hr] at hclock
            exact (List.pairwise_cons.mp hclock).2

/-- Over a clock that never goes back, the times of a history rise with the commits. -/
theorem history_times_rise (repo : WorkflowRepoKind) (cfg : AppConfig) {actions : List Action}
    (hclock : NondecreasingClock actions) (workflowId : String) :
    ((run (step repo cfg) {} actions).store.history workflowId).Pairwise
      fun a b => a.occurredAt ≤ b.occurredAt := by
  -- the first reading is the earliest
  have hstart : ∃ now, ∀ t ∈ actions.filterMap Action.reading, now ≤ t := by
    rw [NondecreasingClock] at hclock
    cases hreadings : actions.filterMap Action.reading with
    | nil => exact ⟨0, fun t ht => absurd ht (by simp)⟩
    | cons first rest =>
        rw [hreadings] at hclock
        refine ⟨first, fun t ht => ?_⟩
        rcases List.mem_cons.mp ht with rfl | ht
        · exact le_refl _
        · exact (List.pairwise_cons.mp hclock).1 t ht
  obtain ⟨now, hnow⟩ := hstart
  obtain ⟨now', h⟩ := inOrder_run repo (inOrder_init now) (inv_init cfg) hnow hclock
  exact h.history workflowId

end Interleaving

/-! ### What the readers show

The readers sort by time, and break ties by an identifier.
-/

namespace ReadModelAssembler

/-- `assemble_history`: `to_domain_transition` changes no field. -/
def assembleHistory (repo : WorkflowRepoKind) (s : Store) (workflowId : String) :
    List WorkflowTransitionRecord := listTransitions repo s workflowId

/-- The transition events of a timeline. -/
def transitionEvents (events : List TimelineEvent) : List TimelineEvent :=
  events.filter fun event => event.eventType = .transition

/-- History and timeline show the transitions of a workflow in the order of their commits. -/
structure InCommitOrder (repo : WorkflowRepoKind) (s : Store) (workflowId : String) : Prop where
  history : assembleHistory repo s workflowId = s.history workflowId
  timeline : ∀ invocations : List AiInvocationRow,
    transitionEvents (assembleTimeline repo { store := s, invocations } workflowId) =
      (s.history workflowId).map transitionEvent

/-- Transitions of one time were committed in the order of their identifiers. -/
def TiesRise (history : List WorkflowTransitionRecord) : Prop :=
  history.Pairwise fun a b => a.occurredAt = b.occurredAt → a.transitionId ≤ b.transitionId

instance (history : List WorkflowTransitionRecord) : Decidable (TiesRise history) :=
  inferInstanceAs (Decidable (history.Pairwise _))

/-- The key of a transition in a timeline. -/
def transitionKey (t : WorkflowTransitionRecord) : Lex (Time × Lex (Nat × String)) :=
  sortKey (transitionEvent t)

theorem transitionKey_le_iff {a b : WorkflowTransitionRecord} :
    transitionKey a ≤ transitionKey b ↔
      a.occurredAt < b.occurredAt ∨ (a.occurredAt = b.occurredAt ∧ a.transitionId ≤ b.transitionId) := by
  rw [transitionKey, transitionKey, sortKey, sortKey, Prod.Lex.toLex_le_toLex, Prod.Lex.toLex_le_toLex]
  simp [transitionEvent]

/-- Among rising times, the keys rise where the identifiers of ties do. -/
theorem pairwise_transitionKey_iff {history : List WorkflowTransitionRecord}
    (h : history.Pairwise fun a b => a.occurredAt ≤ b.occurredAt) :
    (history.Pairwise fun a b => transitionKey a ≤ transitionKey b) ↔ TiesRise history := by
  constructor
  · intro hkeys
    refine hkeys.imp fun hkey heq => ?_
    rcases transitionKey_le_iff.mp hkey with hlt | ⟨-, hle⟩
    · exact absurd heq (ne_of_lt hlt)
    · exact hle
  · intro hties
    refine (h.and hties).imp fun hab => transitionKey_le_iff.mpr ?_
    rcases lt_or_eq_of_le hab.1 with hlt | heq
    · exact Or.inl hlt
    · exact Or.inr ⟨heq, hab.2 heq⟩

theorem listTransitions_fakes (s : Store) (workflowId : String) :
    listTransitions .fakes s workflowId = insertBy transitionKey (s.history workflowId) := by
  have hsame : ∀ a b : WorkflowTransitionRecord,
      toLex (a.occurredAt, a.transitionId) ≤ toLex (b.occurredAt, b.transitionId) ↔
        transitionKey a ≤ transitionKey b := by
    intro a b
    rw [transitionKey_le_iff, Prod.Lex.toLex_le_toLex]
  have hmap := List.map_insertionSort
    (fun a b => toLex (a.occurredAt, a.transitionId) ≤ toLex (b.occurredAt, b.transitionId))
    (fun a b => transitionKey a ≤ transitionKey b) id (s.history workflowId)
    fun a _ b _ => hsame a b
  rwa [List.map_id, List.map_id] at hmap

/-- PostgreSQL leaves transitions in the order of the serial `id`. -/
theorem listTransitions_postgres {s : Store} {workflowId : String}
    (h : (s.history workflowId).Pairwise fun a b => a.occurredAt ≤ b.occurredAt) :
    listTransitions .postgres s workflowId = s.history workflowId :=
  h.insertionSort_eq

/-- The transition events of a timeline are the listed transitions, sorted. -/
theorem transitionEvents_timeline (repo : WorkflowRepoKind) (s : Store)
    (invocations : List AiInvocationRow) (workflowId : String) :
    transitionEvents (assembleTimeline repo { store := s, invocations } workflowId) =
      (insertBy transitionKey (listTransitions repo s workflowId)).map transitionEvent := by
  rw [transitionEvents, assembleTimeline_eq, timelineOf, filter_insertBy]
  have hrows : ∀ (transitions : List WorkflowTransitionRecord) (tasks : List TaskRecord)
      (rows : List AiInvocationRow),
      (timelineRows transitions tasks rows).filter (fun event => event.eventType = .transition) =
        transitions.map transitionEvent := by
    intro transitions tasks rows
    rw [timelineRows, List.filter_append, List.filter_append, List.filter_map, List.filter_map,
      List.filter_map]
    simp [Function.comp_def, transitionEvent, taskEvent, invocationEvent]
  rw [hrows]
  exact map_insertBy (fun _ => rfl) _

/-- **The readers show the commit order where ties were committed in the order of their
identifiers**, and nowhere else. -/
theorem inCommitOrder_iff (repo : WorkflowRepoKind) {s : Store} {workflowId : String}
    (h : (s.history workflowId).Pairwise fun a b => a.occurredAt ≤ b.occurredAt) :
    InCommitOrder repo s workflowId ↔ TiesRise (s.history workflowId) := by
  rw [← pairwise_transitionKey_iff h]
  constructor
  · intro horder
    have hevents := horder.timeline []
    rw [transitionEvents_timeline] at hevents
    -- the events are sorted, so the history is
    have hsorted : ((s.history workflowId).map transitionEvent).Pairwise
        fun a b => sortKey a ≤ sortKey b := by
      rw [← hevents]
      exact List.pairwise_map.mpr (insertBy_pairwise transitionKey _)
    have hpairs := List.pairwise_map.mp hsorted
    exact hpairs
  · intro hkeys
    have hlisted : listTransitions repo s workflowId = s.history workflowId := by
      cases repo with
      | fakes => rw [listTransitions_fakes, insertBy_eq_self_iff.mpr hkeys]
      | postgres => exact listTransitions_postgres h
    refine ⟨hlisted, fun invocations => ?_⟩
    rw [transitionEvents_timeline, hlisted, insertBy_eq_self_iff.mpr hkeys]

end ReadModelAssembler

namespace Interleaving

open ReadModelAssembler

/-- **History and timeline in commit order.** In every state that interleaved operations reach over
a clock that never goes back, and over both repositories, history and timeline of a workflow are in
the order of the commits exactly where transitions of one reading were committed in the order of
their identifiers; then each starts where the one before it ended. The history of PostgreSQL alone
is in that order without a condition. -/
theorem commit_order_of_run (repo : WorkflowRepoKind) (cfg : AppConfig) (actions : List Action)
    (hclock : NondecreasingClock actions) (workflowId : String) :
    (InCommitOrder repo (run (step repo cfg) {} actions).store workflowId ↔
      TiesRise ((run (step repo cfg) {} actions).store.history workflowId)) ∧
    (InCommitOrder repo (run (step repo cfg) {} actions).store workflowId →
      (assembleHistory repo (run (step repo cfg) {} actions).store workflowId).IsChain
        fun a b => a.toState = b.fromState) ∧
    assembleHistory .postgres (run (step repo cfg) {} actions).store workflowId =
      (run (step repo cfg) {} actions).store.history workflowId := by
  have hrise := history_times_rise repo cfg hclock workflowId
  refine ⟨inCommitOrder_iff repo hrise, fun horder => ?_, listTransitions_postgres hrise⟩
  rw [horder.history]
  obtain ⟨hstored, hfree⟩ := history_faithful_of_run repo cfg actions workflowId
  cases hget : (run (step repo cfg) {} actions).store.workflows.get? workflowId with
  | none =>
      rw [hfree hget]
      exact List.isChain_nil
  | some w => exact (hstored w hget).chain

/-- Two steps of one clock reading, with numbered identifiers. -/
def tiedRun (first second : Nat) : List Action :=
  [.beginInitiate (Env.numbered 0 first) { workflowId := some "wf" },
   .write 0 (Env.numbered 0 first),
   .beginTransition
     { workflowId := "wf", expectedState := .collecting, signal := .stageCompleted,
       reason := "stage_completed" },
   .prepare 0 (Env.numbered 0 second), .write 0 (Env.numbered 0 second)]

/-- The in-memory repository turns them around, in the history and in the timeline. -/
theorem commit_order_lost :
    NondecreasingClock (tiedRun 2 1) ∧
    ((run (step .fakes .prod) {} (tiedRun 2 1)).store.history "wf").map
        WorkflowTransitionRecord.toState = [.collecting, .collected] ∧
    (assembleHistory .fakes (run (step .fakes .prod) {} (tiedRun 2 1)).store "wf").map
        WorkflowTransitionRecord.toState = [.collected, .collecting] ∧
    ¬ InCommitOrder .fakes (run (step .fakes .prod) {} (tiedRun 2 1)).store "wf" ∧
    ¬ InCommitOrder .postgres (run (step .postgres .prod) {} (tiedRun 2 1)).store "wf" := by
  refine ⟨by unfold NondecreasingClock; decide +kernel, by decide +kernel, by decide +kernel, ?_, ?_⟩
  · intro h
    exact absurd h.history (by decide +kernel)
  · intro h
    exact absurd (h.timeline []) (by decide +kernel)

/-- Where the identifiers rise, the order is kept. -/
theorem commit_order_of_run_rising :
    InCommitOrder .fakes (run (step .fakes .prod) {} (tiedRun 1 2)).store "wf" ∧
    (assembleHistory .fakes (run (step .fakes .prod) {} (tiedRun 1 2)).store "wf").IsChain
      fun a b => a.toState = b.fromState := by
  obtain ⟨horder, hchain, -⟩ := commit_order_of_run .fakes .prod (tiedRun 1 2)
    (by unfold NondecreasingClock; decide +kernel) "wf"
  have hties : InCommitOrder .fakes (run (step .fakes .prod) {} (tiedRun 1 2)).store "wf" :=
    horder.mpr (by decide +kernel)
  exact ⟨hties, hchain hties⟩

end Interleaving

end CartoonDemo
