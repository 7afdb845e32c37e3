import CartoonDemo.System.Consistent

/-!
# CartoonDemo.System.TerminalStates

**Where a workflow's life ends and where it waits for a human.** Engine calls, worker
deliveries and reconciler scans all move workflows, and each of them checks the state in a
place of its own. What they have in common is in `StoreStep`: whatever moves a row finds it in
a state that has not ended. So a row in a terminal state is never written again and its history
never grows, and the row that a move writes has a failure reason exactly in the failure states.

`AWAITING_HUMAN_APPROVAL` is the one state that is neither terminal nor transient; only
`apply_approval_action` accepts it.
-/

namespace CartoonDemo

open WorkflowEngine TransitionExecutor WorkerLoop WorkflowStateGuard

/-! ### One step of the store -/

section StoreStep

variable {cfg : AppConfig} {origin : Origin} {s s' : Store} {id : String} {w : WorkflowRecord}

/-- **A step leaves a row and its history alone, or moves it** out of a state that has not
ended. -/
theorem StoreStep.row (h : StoreStep cfg origin s s') (hw : s.workflows.get? id = some w) :
    (s'.workflows.get? id = some w ∧ s'.history id = s.history id) ∨
      (w.state.isTerminal = false ∧ ∃ row, s'.workflows.get? id = some row ∧
        row.failureReason.isSome = row.state.carriesReason) := by
  have hsame : s'.workflows = s.workflows → s'.transitions = s.transitions →
      s'.workflows.get? id = some w ∧ s'.history id = s.history id := by
    intro hwf htr
    unfold Store.history
    rw [hwf, htr]
    exact ⟨hw, rfl⟩
  have hother : ∀ {row : WorkflowRecord} {k : String}, row.workflowId = k →
      s'.workflows = s.workflows.upsert row → k ≠ id →
      s'.workflows.get? id = some w := by
    intro row k hrow hwf hne
    rw [hwf, Table.get?_upsert, if_neg (by rw [hrow]; exact hne)]
    exact hw
  cases h with
  | quiet h => exact Or.inl (hsame h.workflows h.transitions)
  | marked outboxId h => exact Or.inl (hsame (by rw [h.same]) (by rw [h.same]))
  | created env k w' row h hf =>
      have hne : k ≠ id := by
        intro hid
        rw [← hid, h.absent] at hw
        exact absurd hw (by simp)
      exact Or.inl ⟨hother h.rowId h.workflows hne, h.others id hne.symm⟩
  | moved env k w' row next h hm hf =>
      by_cases hid : k = id
      · have hread := h.read
        rw [hid] at hread
        obtain rfl : w' = w := Option.some.inj (hread.symm.trans hw)
        refine Or.inr ⟨hm.live, row, ?_, h.reason⟩
        rw [h.workflows, Table.get?_upsert, if_pos (h.rowId.trans hid)]
      · exact Or.inl ⟨hother h.rowId h.workflows hid, h.others id (fun he => hid he.symm)⟩
  | recreated env w' tt attempt ho h hf =>
      refine Or.inl (hsame ?_ ?_)
      · rw [h.store, dispatch_workflows]
      · rw [h.store, dispatch_transitions]
  | staged env ctx n w' row next denv task h =>
      by_cases hid : ctx.message.workflowId = id
      · have hread := h.read
        rw [hid] at hread
        obtain rfl : w' = w := Option.some.inj (hread.symm.trans hw)
        refine Or.inr ⟨?_, row, ?_, h.reason⟩
        · rw [h.stage]
          cases ctx.task.taskType <;> rfl
        · rw [h.workflows, Table.get?_upsert, if_pos (h.rowId.trans hid)]
      · exact Or.inl ⟨hother h.rowId h.workflows hid, h.others id (fun he => hid he.symm)⟩

/-- A row that has ended, and its history, are kept. -/
theorem StoreStep.absorbed (h : StoreStep cfg origin s s') (hw : s.workflows.get? id = some w)
    (ht : w.state.isTerminal = true) :
    s'.workflows.get? id = some w ∧ s'.history id = s.history id := by
  rcases h.row hw with hsame | ⟨hlive, -⟩
  · exact hsame
  · exact absurd (hlive.symm.trans ht) (by simp)

/-- A row that appears is one that has just been initiated. -/
theorem StoreStep.newRow (h : StoreStep cfg origin s s') (hnone : s.workflows.get? id = none)
    (hw : s'.workflows.get? id = some w) : w.failureReason.isSome = w.state.carriesReason := by
  have hwrite : ∀ {row : WorkflowRecord}, s'.workflows = s.workflows.upsert row → row = w := by
    intro row hwf
    rw [hwf, Table.get?_upsert] at hw
    split at hw
    · exact Option.some.inj hw
    · rw [hnone] at hw
      exact absurd hw (by simp)
  have hsame : s'.workflows = s.workflows → w.failureReason.isSome = w.state.carriesReason := by
    intro hwf
    rw [hwf, hnone] at hw
    exact absurd hw (by simp)
  cases h with
  | quiet h => exact hsame h.workflows
  | marked outboxId h => exact hsame (by rw [h.same])
  | created env k w' row h hf =>
      obtain rfl := hwrite h.workflows
      rw [h.reason, h.rowState]
      rfl
  | moved env k w' row next h hm hf =>
      obtain rfl := hwrite h.workflows
      exact h.reason
  | recreated env w' tt attempt ho h hf => exact hsame (by rw [h.store, dispatch_workflows])
  | staged env ctx n w' row next denv task h =>
      obtain rfl := hwrite h.workflows
      exact h.reason

end StoreStep

/-- Failure reasons are stored exactly with the failure states. -/
def ReasonsExact (s : Store) : Prop :=
  ∀ id w, s.workflows.get? id = some w → w.failureReason.isSome = w.state.carriesReason

theorem ReasonsExact.step {cfg : AppConfig} {origin : Origin} {s s' : Store} (h : ReasonsExact s)
    (hstep : StoreStep cfg origin s s') : ReasonsExact s' := by
  intro id w' hw'
  cases hw : s.workflows.get? id with
  | none => exact hstep.newRow hw hw'
  | some w =>
      rcases hstep.row hw with ⟨hsame, -⟩ | ⟨-, row, hrow, hreason⟩
      · obtain rfl := Option.some.inj (hsame.symm.trans hw')
        exact h id w hw
      · obtain rfl := Option.some.inj (hrow.symm.trans hw')
        exact hreason

theorem ReasonsExact.steps {cfg : AppConfig} {origin : Origin} {s s' : Store}
    (h : ReasonsExact s) (hsteps : Relation.ReflTransGen (StoreStep cfg origin) s s') :
    ReasonsExact s' := by
  induction hsteps with
  | refl => exact h
  | tail _ hstep ih => exact ih.step hstep

theorem absorbed_steps {cfg : AppConfig} {origin : Origin} {s s' : Store} {id : String}
    {w : WorkflowRecord} (hsteps : Relation.ReflTransGen (StoreStep cfg origin) s s')
    (hw : s.workflows.get? id = some w) (ht : w.state.isTerminal = true) :
    s'.workflows.get? id = some w ∧ s'.history id = s.history id := by
  induction hsteps with
  | refl => exact ⟨hw, rfl⟩
  | tail _ hstep ih =>
      obtain ⟨hrow, hhist⟩ := hstep.absorbed ih.1 ht
      exact ⟨hrow, hhist.trans ih.2⟩

/-! ### The human gate

While a workflow awaits approval no task of it is open, so that only an approval moves it.
-/

/-- A workflow in `AWAITING_HUMAN_APPROVAL` stays there, or the step is a successful
`apply_approval_action` of it. -/
def GateClosed (repo : WorkflowRepoKind) (cfg : AppConfig) (sc : ReconciliationScanner) (σ : Sys)
    (a : Action) : Prop :=
  ∀ id w, σ.store.workflows.get? id = some w → w.state = .awaitingHumanApproval →
    (Sys.step repo cfg sc a σ).store.workflows.get? id = some w ∨
      ∃ env action actor result, a = .approve env id action actor ∧
        applyApprovalAction repo env id action actor σ.store = .ok result

section Gate

variable {repo : WorkflowRepoKind} {cfg : AppConfig} {env : Env} {s s' : Store} {id : String}
  {w : WorkflowRecord}

theorem awaiting_not_transient (h : w.state = .awaitingHumanApproval) :
    w.state.isTransient = false := by
  rw [h]
  rfl

/-- A signal does not move a workflow that waits for its approval. -/
theorem applyTransition_awaiting {req : TransitionRequest} {res : TransitionResult}
    (h : applyTransition repo cfg env req s = .ok (res, s'))
    (hw : s.workflows.get? id = some w) (hst : w.state = .awaitingHumanApproval) :
    s'.workflows.get? id = some w := by
  obtain ⟨w', d, hg, -, hd, rfl, -, -, -⟩ := applyTransition_ok h
  have hkey : w'.workflowId = req.workflowId := Table.key_of_get? hg
  have hne : (transitionRow env req w' d).workflowId ≠ id := by
    intro hid
    have hid : w'.workflowId = id := hid
    rw [← hkey, hid, hw] at hg
    obtain rfl := Option.some.inj hg
    exact absurd ((TransitionTable.lookup_transient hd).symm.trans (awaiting_not_transient hst))
      (by simp)
  rw [transitionStore_workflows, Table.get?_upsert, if_neg hne]
  exact hw

/-- Nor does a step of a delivery. -/
theorem LoopStep.awaiting {stream : List StreamEntry} {d : Delivery} {b : DeliveryAction}
    {e : DeliveryEffect} (hs : StoreSound s) (hd : DeliverySound s stream d)
    (h : LoopStep repo cfg s d b e) (hw : s.workflows.get? id = some w)
    (hst : w.state = .awaitingHumanApproval) : e.store.workflows.get? id = some w := by
  have hquiet : ∀ {s' : Store}, Quiet s s' → s'.workflows.get? id = some w := by
    intro s' hq
    rw [hq.workflows]
    exact hw
  -- a row in the state of a stage is another row
  have hother : ∀ {row w' : WorkflowRecord} {k : String} {tt : TaskType},
      s.workflows.get? k = some w' → w'.state = expectedStateForTask tt → row.workflowId = k →
      (s.workflows.upsert row).get? id = some w := by
    intro row w' k tt hread hstage hrow
    rw [Table.get?_upsert, if_neg]
    · exact hw
    · intro hid
      rw [← hrow, hid, hw] at hread
      obtain rfl := Option.some.inj hread
      rw [hst] at hstage
      cases tt <;> exact absurd hstage (by decide)
  cases h with
  | acquire leaseId now t hp s' hl => exact hquiet (Quiet.of_tryAcquireLease hl)
  | commit env reply t key hp hf s' htx =>
      obtain rfl : key = t.idempotencyKey := hd.key t key (by rw [hp]; rfl)
      have ht : TaskKnown s d.message t := hd.task t (by rw [hp]; rfl)
      obtain ⟨n, w', row, next, denv, task, hstaged⟩ := staged_of_ok hs ht hf htx
      dsimp only
      rw [hstaged.workflows]
      exact hother hstaged.read hstaged.stage hstaged.rowId
  | release t key hp => exact hquiet (Quiet.of_closing d s)
  | close hp => exact hquiet (Quiet.of_closing d s)
  | retry env readyAt t x hp attempt hdec s' hr => exact hquiet (retryableFailure_quiet hr)
  | fail env readyAt t x hp tt exhausted errorClass hdec s' hf =>
      obtain ⟨w', row, s₁, hm, hstage, -, hq⟩ := permanentFailure_ok hf
      dsimp only
      rw [hq.workflows, hm.workflows]
      exact hother hm.read hstage hm.rowId
  | stay | leave | crash | phase | execute | ack | unhandled | failureRaised => exact hw

end Gate

theorem gateClosed (repo : WorkflowRepoKind) (cfg : AppConfig) (sc : ReconciliationScanner)
    {σ : Sys} (hs : SysSound σ) (a : Action) : GateClosed repo cfg sc σ a := by
  intro id w hw hst
  have hstep := stepStore repo cfg sc σ a
  generalize (Sys.step repo cfg sc a σ).store = s' at hstep ⊢
  cases hstep with
  | same a => exact Or.inl hw
  | approve env workflowId action actor res s' hf he =>
      by_cases hid : workflowId = id
      · rw [hid] at he
        exact Or.inr ⟨env, action, actor, _, by rw [hid], he⟩
      · obtain ⟨w', hg, -, heq⟩ := applyApprovalAction_ok he
        have hkey : w'.workflowId = workflowId := Table.key_of_get? hg
        refine Or.inl ?_
        rw [heq, written_workflows, Table.get?_upsert, if_neg]
        · exact hw
        · intro hid'
          exact hid (hkey.symm.trans hid')
  | initiate env request res s' hf he =>
      obtain ⟨k, w', row, hc⟩ := Created.of_initiate he
      refine Or.inl ?_
      rw [hc.workflows, Table.get?_upsert, if_neg]
      · exact hw
      · intro hid
        have habsent := hc.absent
        rw [← hc.rowId, hid, hw] at habsent
        exact absurd habsent (by simp)
  | transition env request res s' hf he => exact Or.inl (applyTransition_awaiting he hw hst)
  | mark i b outboxId s' hm =>
      refine Or.inl ?_
      rw [hm.same]
      exact hw
  | delivery i b d hd =>
      exact Or.inl ((loopStep repo cfg σ.backoff σ.store d b).awaiting hs.store
        (hs.deliveries d (List.mem_of_getElem? hd)) hw hst)
  | expire taskId => exact Or.inl hw
  | repair k env scan plan report s' hscan hp hf hr =>
      refine Or.inl ?_
      cases plan with
      | recreate w' tt attempt =>
          rw [← Except.ok.inj hr]
          change (dispatch env _ σ.store).workflows.get? id = some w
          rw [dispatch_workflows]
          exact hw
      | fail w' =>
          obtain ⟨⟨res, s'⟩, ha, heq⟩ := except_map_ok hr
          rw [← heq]
          exact applyTransition_awaiting ha hw hst

/-! ### Every run -/

/-- **Terminal states are absorbing and the human gate is closed.** In every run of engine
calls, deliveries and scans: a workflow that has ended keeps its row and its history in every
continuation; a workflow in `AWAITING_HUMAN_APPROVAL` leaves it only by a successful
`apply_approval_action`; and a failure reason is stored exactly in `REVIEW_FAILED`, `FAILED` and
`FAILED_PERMANENTLY`. -/
theorem run_terminal_absorbing (repo : WorkflowRepoKind) (cfg : AppConfig)
    (sc : ReconciliationScanner) (as : List Action) :
    (∀ id w, (run (Sys.step repo cfg sc) {} as).store.workflows.get? id = some w →
      w.state.isTerminal = true → ∀ bs,
        (run (Sys.step repo cfg sc) {} (as ++ bs)).store.workflows.get? id = some w ∧
          (run (Sys.step repo cfg sc) {} (as ++ bs)).store.history id =
            (run (Sys.step repo cfg sc) {} as).store.history id) ∧
      Along (Sys.step repo cfg sc) (GateClosed repo cfg sc) {} as ∧
      ∀ id w, (run (Sys.step repo cfg sc) {} as).store.workflows.get? id = some w →
        (w.failureReason ≠ none ↔
          w.state = .reviewFailed ∨ w.state = .failed ∨ w.state = .failedPermanently) := by
  have hsound : ∀ as, SysSound (run (Sys.step repo cfg sc) {} as) := fun as =>
    run_induction (fun _ => True) (fun _ a _ h => h.step a) sysSound_empty (fun _ _ => trivial)
  refine ⟨?_, ?_, ?_⟩
  · intro id w hw ht bs
    rw [run_append]
    -- by induction on the continuation, from every sound system
    have hkeep : ∀ (σ : Sys), SysSound σ → σ.store.workflows.get? id = some w →
        (run (Sys.step repo cfg sc) σ bs).store.workflows.get? id = some w ∧
          (run (Sys.step repo cfg sc) σ bs).store.history id = σ.store.history id := by
      induction bs with
      | nil => exact fun σ _ hσ => ⟨hσ, rfl⟩
      | cons b bs ih =>
          intro σ hs hσ
          obtain ⟨hrow, hhist⟩ := absorbed_steps (step_store repo cfg sc hs b) hσ ht
          obtain ⟨hrow', hhist'⟩ := ih _ (hs.step b) hrow
          exact ⟨hrow', hhist'.trans hhist⟩
    exact hkeep _ (hsound as) hw
  · exact along_of_invariant (motive := SysSound) (fun _ => True) (fun _ a _ h => h.step a)
      (fun _ a _ h => gateClosed repo cfg sc h a) sysSound_empty (fun _ _ => trivial)
  · intro id w hw
    have hreasons : SysSound (run (Sys.step repo cfg sc) {} as) ∧
        ReasonsExact (run (Sys.step repo cfg sc) {} as).store :=
      run_induction (motive := fun σ => SysSound σ ∧ ReasonsExact σ.store) (fun _ => True)
        (fun _ a _ h => ⟨h.1.step a, h.2.steps (step_store repo cfg sc h.1 a)⟩)
        ⟨sysSound_empty, by intro id w hw; exact absurd hw (by simp)⟩ (fun _ _ => trivial)
    have hexact := hreasons.2 id w hw
    rw [Option.ne_none_iff_isSome, hexact]
    cases w.state <;> decide

end CartoonDemo
