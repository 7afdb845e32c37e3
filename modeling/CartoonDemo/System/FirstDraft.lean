import CartoonDemo.System.NoLostWork

/-!
# CartoonDemo.System.FirstDraft

**What a human approves is the first draft.** Every review is stored as version `1`, whichever
scenario it is about, so a workflow gets one verdict in its life. A workflow that goes back to the
generator, by a revision or at the request of the human, has had it: its next review cannot be
stored, and it never comes to the gate again, nor to the cap on revisions.

`Progress.FirstDraft` is the invariant. It needs one fact that the progress alone does not have,
that a review which completes finds no completed review (`represents_reviewed`).
-/

namespace CartoonDemo

open WorkflowEngine TransitionExecutor WorkerLoop WorkflowStateGuard

/-- The states behind a verdict: the gate, its two ends, and the cap on revisions. -/
def WorkflowState.judged : WorkflowState → Bool
  | .awaitingHumanApproval | .approved | .rejected | .reviewFailed => true
  | _ => false

/-- The states of a workflow that has been sent back. -/
def WorkflowState.sentBack : WorkflowState → Bool
  | .generatingScenario | .reviewing | .failed | .failedPermanently => true
  | _ => false

namespace Progress

/-- A review has completed. -/
def reviewed (p : Progress) : Prop := ∃ n, p.done (.reviewScenario, n)

/-- Every generation that has been dispatched is of version `1`. -/
def firstOnly (p : Progress) : Prop := ∀ m, (TaskType.generateScenario, m) ∈ p.dispatched → m = 1

structure FirstDraft (p : Progress) : Prop where
  live : p.Live
  active : p.active = 0 ∨ (TaskType.generateScenario, p.active) ∈ p.dispatched
  /-- A second draft is asked for after a verdict. -/
  unreviewed : ¬ p.reviewed → p.firstOnly
  /-- The verdict is about the first draft. -/
  first : ∀ n, p.done (.reviewScenario, n) → n = 1
  verdict : p.state.judged = true → p.done (.reviewScenario, 1) ∧ p.active = 1
  /-- With a second draft the workflow has been sent back. -/
  lost : p.firstOnly ∨ p.state.sentBack = true

theorem firstDraft_initial : initial.FirstDraft where
  live := live_initial
  active := Or.inl rfl
  unreviewed := by intro _ m hm; exact absurd hm (by simp [initial])
  first := by intro n hn; exact absurd hn id
  verdict := by intro h; exact absurd h (by decide)
  lost := Or.inl (by intro m hm; exact absurd hm (by simp [initial]))

/-- A completed operation and a dispatch that is no generation. -/
theorem firstOnly_commit {p : Progress} {o : Op} {st : WorkflowState} {next : Option Op}
    (hnext : ∀ q ∈ next, q.1 = .generateScenario → q.2 = 1) (h : p.firstOnly) :
    (p.commit o st next).firstOnly := by
  intro m hm
  rcases List.mem_append.mp hm with hold | hnew
  · exact h m hold
  · exact hnext _ (Option.mem_toList.mp hnew) rfl

/-- **A completed stage.** A review completes only where none has. -/
theorem FirstDraft.stage {cfg : AppConfig} {p : Progress} {w : WorkflowRecord} {tt : TaskType}
    {n : Int} {st : WorkflowState} {next : Option Op} (h : p.FirstDraft)
    (hst : p.state = expectedStateForTask tt) (hd : (tt, n) ∈ p.dispatched)
    (ho : ¬ p.done (tt, n)) (hm : StageMove cfg w n p.active tt st next)
    (hreview : tt = .reviewScenario → ¬ p.reviewed) :
    (p.commit (tt, n) st next).FirstDraft := by
  have hlive := h.live.stage hst hd ho hm
  have hrests := h.live.rests
  rw [hst] at hrests
  -- outside of a review the verdicts are those before
  have hfirst : tt ≠ .reviewScenario → ∀ k, (p.commit (tt, n) st next).done
      (.reviewScenario, k) → k = 1 := by
    intro hne k hk
    rcases hk with hk | he
    · exact h.first k hk
    · exact absurd (congrArg Prod.fst he).symm hne
  -- a review is of the active version, which is the first
  have hversion : tt = .reviewScenario → n = 1 ∧ p.active = 1 := by
    rintro rfl
    obtain ⟨hpos, hone, -⟩ := hrests
    obtain ⟨-, rfl⟩ := Prod.mk.inj (hone.eq hd ho)
    rcases h.active with h0 | hmem
    · omega
    · have h1 := h.unreviewed (hreview rfl) _ hmem
      exact ⟨h1, h1⟩
  cases hm with
  | collected =>
      have hnext : ∀ q ∈ some (TaskType.selectTopic, (1 : Int)),
          q.1 = .generateScenario → q.2 = 1 := by simp
      have honly : p.firstOnly := h.lost.resolve_right (by rw [hst]; decide)
      exact ⟨hlive, h.active.imp id (List.mem_append_left _),
        fun _ => firstOnly_commit hnext honly, hfirst (by decide),
        fun hj => absurd hj (by simp [commit, WorkflowState.judged]),
        Or.inl (firstOnly_commit hnext honly)⟩
  | topicSelected =>
      have hnext : ∀ q ∈ some (TaskType.generateScenario, max p.active 1),
          q.1 = .generateScenario → q.2 = 1 := by
        intro q hq _
        obtain rfl := Option.some.inj hq
        have hzero : p.active = 0 := hrests.2.1
        simp [hzero]
      have honly : p.firstOnly := h.lost.resolve_right (by rw [hst]; decide)
      exact ⟨hlive, h.active.imp id (List.mem_append_left _),
        fun _ => firstOnly_commit hnext honly, hfirst (by decide),
        fun hj => absurd hj (by simp [commit, WorkflowState.judged]),
        Or.inl (firstOnly_commit hnext honly)⟩
  | noSuitableTopic =>
      have hnext : ∀ q ∈ (none : Option Op), q.1 = .generateScenario → q.2 = 1 := by simp
      have honly : p.firstOnly := h.lost.resolve_right (by rw [hst]; decide)
      exact ⟨hlive, h.active.imp id (List.mem_append_left _),
        fun _ => firstOnly_commit hnext honly, hfirst (by decide),
        fun hj => absurd hj (by simp [commit, WorkflowState.judged]),
        Or.inl (firstOnly_commit hnext honly)⟩
  | generated =>
      have hnext : ∀ q ∈ some (TaskType.reviewScenario, max n 1),
          q.1 = .generateScenario → q.2 = 1 := by simp
      exact ⟨hlive, Or.inr (List.mem_append_left _ hd),
        fun hno => firstOnly_commit hnext
          (h.unreviewed fun hyes => hno (hyes.imp fun _ => Or.inl)),
        hfirst (by decide), fun hj => absurd hj (by simp [commit, WorkflowState.judged]),
        Or.inr rfl⟩
  | reviewPassed =>
      obtain ⟨rfl, hactive⟩ := hversion rfl
      have hnext : ∀ q ∈ (none : Option Op), q.1 = .generateScenario → q.2 = 1 := by simp
      have honly : (p.commit (.reviewScenario, 1) .awaitingHumanApproval none).firstOnly :=
        firstOnly_commit hnext (h.unreviewed (hreview rfl))
      refine ⟨hlive, h.active.imp id (List.mem_append_left _), fun _ => honly, ?_,
        fun _ => ⟨Or.inr rfl, hactive⟩, Or.inl honly⟩
      intro k hk
      exact hk.elim (h.first k) fun he => congrArg Prod.snd he
  | revisionCap hcap =>
      obtain ⟨rfl, hactive⟩ := hversion rfl
      have hnext : ∀ q ∈ (none : Option Op), q.1 = .generateScenario → q.2 = 1 := by simp
      have honly : (p.commit (.reviewScenario, 1) .reviewFailed none).firstOnly :=
        firstOnly_commit hnext (h.unreviewed (hreview rfl))
      refine ⟨hlive, h.active.imp id (List.mem_append_left _), fun _ => honly, ?_,
        fun _ => ⟨Or.inr rfl, hactive⟩, Or.inl honly⟩
      intro k hk
      exact hk.elim (h.first k) fun he => congrArg Prod.snd he
  | revised hcap =>
      obtain ⟨rfl, -⟩ := hversion rfl
      refine ⟨hlive, h.active.imp id (List.mem_append_left _),
        fun hno => absurd ⟨1, Or.inr rfl⟩ hno, ?_,
        fun hj => absurd hj (by simp [commit, WorkflowState.judged]), Or.inr rfl⟩
      intro k hk
      exact hk.elim (h.first k) fun he => congrArg Prod.snd he

/-- The workflow is moved and no stage completes. -/
theorem FirstDraft.goto {p : Progress} (h : p.FirstDraft) {st : WorkflowState} {next : Option Op}
    (hlive : (p.goto st next).Live) (hreviewed : next ≠ none → p.reviewed)
    (hjudged : st.judged = true → p.state.judged = true)
    (hlost : next = none ∧ (p.firstOnly ∨ st.sentBack = true) ∨ st.sentBack = true) :
    (p.goto st next).FirstDraft where
  live := hlive
  active := h.active.imp id (List.mem_append_left _)
  unreviewed := by
    intro hno m hm
    cases next with
    | none =>
        refine h.unreviewed hno m ?_
        simpa [Progress.goto] using hm
    | some o => exact absurd (hreviewed (by simp)) hno
  first := h.first
  verdict := fun hj => h.verdict (hjudged hj)
  lost := by
    rcases hlost with ⟨rfl, honly | hback⟩ | hback
    · refine Or.inl fun m hm => honly m ?_
      simpa [Progress.goto] using hm
    · exact Or.inr hback
    · exact Or.inr hback

/-- **Every step keeps the invariant**, when a review completes only where none has. -/
theorem FirstDraft.step {cfg : AppConfig} {p p' : Progress} (h : p.FirstDraft)
    (hs : p.Step cfg .pipeline p')
    (hreview : p.state = .reviewing →
      p'.state = .failed ∨ p'.state = .failedPermanently ∨ ¬ p.reviewed) : p'.FirstDraft := by
  have hlive := h.live.step hs
  cases hs with
  | stage w op st next hst hd ho hm =>
      refine h.stage hst hd ho hm ?_
      intro htt
      rw [htt] at hst hm
      rcases hreview hst with hfail | hfail | hno
      · exact absurd hfail (by cases hm <;> simp [commit])
      · exact absurd hfail (by cases hm <;> simp [commit])
      · exact hno
  | approval action hst =>
      have honly : p.firstOnly := h.lost.resolve_right (by rw [hst]; decide)
      have hverdict := h.verdict (by rw [hst]; rfl)
      refine h.goto hlive (fun _ => ⟨1, hverdict.1⟩) (fun _ => by rw [hst]; rfl) ?_
      cases action with
      | approve => exact Or.inl ⟨rfl, Or.inl honly⟩
      | reject => exact Or.inl ⟨rfl, Or.inl honly⟩
      | requestRegeneration => exact Or.inr rfl
  | failure st ht hst =>
      refine h.goto hlive (fun hn => absurd rfl hn) ?_ ?_
      · rcases hst with rfl | rfl <;> intro hj <;> exact absurd hj (by decide)
      · rcases hst with rfl | rfl <;> exact Or.inr rfl
  | signal w sig d ho hl => exact absurd rfl ho

end Progress

/-! ### The store

A step of the store moves the progress of a workflow, and a review that it completes finds none before it.
-/

/-- The completion of an operation, by its key. -/
theorem Represents.done_iff {s : Store} {id : String} {p : Progress} (hp : Represents s id p)
    (tt : TaskType) (n : Int) :
    p.done (tt, n) ↔ s.completed (formatIdempotencyKey id tt n) = true := by
  have h := hp.done (tt, n)
  simpa only [opKey] using h

/-- Outside of its stage a review in progress can only be failed. -/
theorem EngineMove.of_reviewing {cfg : AppConfig} {s : Store} {w : WorkflowRecord}
    {st : WorkflowState} {next : Option Op} (h : EngineMove cfg .pipeline s w st next)
    (hst : w.state = .reviewing) : st = .failed ∨ st = .failedPermanently := by
  cases h with
  | approval action hw => exact absurd (hst.symm.trans hw) (by decide)
  | failure st ht hto => exact hto
  | signal sig d ho hl => exact absurd rfl ho

/-- **A review completes only where none has**: the first has stored version `1`. -/
theorem represents_reviewed {cfg : AppConfig} {s s' : Store} {id : String} {p : Progress}
    (hs : StoreSound s) (h : StoreStep cfg .pipeline s s') (hp : Represents s id p) :
    ∃ p', Represents s' id p' ∧ (p' = p ∨ p.Step cfg .pipeline p' ∧ (p.state = .reviewing →
      p'.state = .failed ∨ p'.state = .failedPermanently ∨ ¬ p.reviewed)) := by
  cases h with
  | quiet h => exact ⟨p, hp.quiet h, Or.inl rfl⟩
  | marked outboxId h => exact ⟨p, hp.marked h, Or.inl rfl⟩
  | created env workflowId w row h hf => exact ⟨p, hp.created h hf, Or.inl rfl⟩
  | moved env workflowId w row next h hm hf =>
      by_cases hid : workflowId = id
      · subst hid
        have hwid : w.workflowId = workflowId := Table.key_of_get? h.read
        refine ⟨_, hp.moved h hf hm.fixed, Or.inr ⟨hm.step ?_ (hp.state_eq h.read), ?_⟩⟩
        · rw [hwid]
          exact hp
        · intro hst
          rw [← hp.state_eq h.read] at hst
          exact (hm.of_reviewing hst).imp id Or.inl
      · exact ⟨p, hp.moved_other h hf hm.fixed hid, Or.inl rfl⟩
  | recreated env w tt attempt hrec h hf => exact absurd hrec (by decide)
  | staged env ctx n w row next denv task h =>
      by_cases hid : task.workflowId = id
      · obtain ⟨hrep, hstep⟩ := hp.staged .pipeline h hid
        refine ⟨_, hrep, Or.inr ⟨hstep, fun hst => Or.inr (Or.inr ?_)⟩⟩
        have hmsg : ctx.message.workflowId = id := h.workflowId.trans hid
        have hread := h.read
        rw [hmsg] at hread
        have htype : ctx.task.taskType = .reviewScenario := by
          refine expectedStateForTask_inj ?_
          rw [← h.stage, hp.state_eq hread, hst]
          rfl
        rintro ⟨m, hm⟩
        have hstored := hs.stored id .reviewScenario m ((hp.done_iff _ m).mp hm)
        have hfree := h.free
        rw [htype, hmsg] at hfree
        change s.hasArtifact id .criticReview 1 = true at hstored
        change s.hasArtifact id .criticReview 1 = false at hfree
        rw [hstored] at hfree
        exact absurd hfree (by simp)
      · exact ⟨p, hp.staged_other h hid, Or.inl rfl⟩

theorem Tracked.firstDraft_step {cfg : AppConfig} {s s' : Store}
    (ht : Tracked Progress.FirstDraft s) (hs : StoreSound s)
    (h : StoreStep cfg .pipeline s s') : Tracked Progress.FirstDraft s' := by
  intro id hid
  by_cases hold : s.workflows.get? id = none
  · exact ⟨_, represents_new hs h hold hid, Progress.firstDraft_initial⟩
  · obtain ⟨p, hp, hI⟩ := ht id hold
    obtain ⟨p', hp', rfl | ⟨hmove, hreview⟩⟩ := represents_reviewed hs h hp
    · exact ⟨p', hp', hI⟩
    · exact ⟨p', hp', hI.step hmove hreview⟩

theorem Tracked.firstDraft_steps {cfg : AppConfig} {s s' : Store}
    (ht : Tracked Progress.FirstDraft s) (hs : StoreSound s)
    (h : Relation.ReflTransGen (StoreStep cfg .pipeline) s s') :
    Tracked Progress.FirstDraft s' := by
  induction h with
  | refl => exact ht
  | tail hsteps hlast ih => exact ih.firstDraft_step (hs.steps hsteps) hlast

/-! ### Whole lives -/

/-- The generations of a workflow with one draft. -/
theorem Represents.firstOnly {s : Store} {id : String} {p : Progress} (hp : Represents s id p)
    (hs : StoreSound s) (h : p.firstOnly) {t : TaskRecord} (ht : t ∈ s.tasksOf id .generateScenario) :
    t.idempotencyKey = formatIdempotencyKey id .generateScenario 1 := by
  unfold Store.tasksOf at ht
  rw [List.mem_filter] at ht
  obtain ⟨hmem, hcond⟩ := ht
  simp only [Bool.and_eq_true, decide_eq_true_eq] at hcond
  obtain ⟨n, hn⟩ := hs.task t hmem
  have hkey := hn.key
  rw [hcond.1] at hkey
  have hdisp := hp.mem_dispatched hmem hcond.1 hkey
  rw [hcond.2] at hkey hdisp
  rw [hkey, h n hdisp]

/-- **What a human approves is the first draft.** In every run of the pipeline a completed review
is that of version `1`; a workflow at the gate, approved, rejected or stopped by the cap on
revisions has generated one scenario, which is its active one; and a workflow with a later
generation is being generated, reviewed or has failed. -/
theorem run_first_draft (repo : WorkflowRepoKind) (cfg : AppConfig) (sc : ReconciliationScanner)
    (as : List Action) (hpipe : ∀ a ∈ as, a.origin = .pipeline) (id : String)
    (w : WorkflowRecord)
    (hw : (run (Sys.step repo cfg sc) {} as).store.workflows.get? id = some w) :
    (∀ n, (run (Sys.step repo cfg sc) {} as).store.completed
        (formatIdempotencyKey id .reviewScenario n) = true → n = 1) ∧
      (w.state.judged = true →
        activeScenarioVersion (run (Sys.step repo cfg sc) {} as).store id = 1 ∧
        ∀ t ∈ (run (Sys.step repo cfg sc) {} as).store.tasksOf id .generateScenario,
          t.idempotencyKey = formatIdempotencyKey id .generateScenario 1) ∧
      ∀ t ∈ (run (Sys.step repo cfg sc) {} as).store.tasksOf id .generateScenario,
        t.idempotencyKey ≠ formatIdempotencyKey id .generateScenario 1 →
          w.state.sentBack = true := by
  have h : SysSound (run (Sys.step repo cfg sc) {} as) ∧
      Tracked Progress.FirstDraft (run (Sys.step repo cfg sc) {} as).store := by
    refine run_induction (motive := fun σ => SysSound σ ∧ Tracked Progress.FirstDraft σ.store)
      (fun a => a.origin = .pipeline) ?_ ⟨sysSound_empty, tracked_empty _⟩ hpipe
    intro σ a ha hσ
    have hsteps := step_store repo cfg sc hσ.1 a
    rw [ha] at hsteps
    exact ⟨hσ.1.step a, hσ.2.firstDraft_steps hσ.1.store hsteps⟩
  obtain ⟨hsound, htracked⟩ := h
  obtain ⟨p, hp, hd⟩ := htracked id (by rw [hw]; simp)
  have hstate := hp.state_eq hw
  refine ⟨fun n hn => hd.first n ((hp.done_iff _ n).mpr hn), fun hj => ?_, fun t ht hne => ?_⟩
  · rw [hstate] at hj
    refine ⟨hp.active.trans (hd.verdict hj).2, fun t ht => ?_⟩
    refine hp.firstOnly hsound.store (hd.lost.resolve_right ?_) ht
    revert hj
    cases p.state <;> decide
  · rw [hstate]
    exact hd.lost.resolve_left fun honly => hne (hp.firstOnly hsound.store honly ht)

/-- A scenario is generated and the critic gives its verdict. -/
def draftRun (verdict : CriticStatus) : List Action :=
  topicRun ++ processRow 3 4 2 0 3 (.ok {}) ++ processRow 4 6 3 0 4 (.ok { criticStatus := verdict })

theorem draftRun_pipeline (verdict : CriticStatus) : ∀ a ∈ draftRun verdict, a.origin = .pipeline := by
  simp [draftRun, topicRun, processRow, publishRow, executeEntry, finishDelivery, Action.origin]

/-- A pass brings the first draft to the gate; a revision sends the workflow back. -/
theorem draftRun_first_draft :
    (∃ w, (run (Sys.step .fakes .prod {}) {} (draftRun .pass)).store.workflows.get? "wf" =
        some w ∧ w.state = .awaitingHumanApproval ∧
      activeScenarioVersion (run (Sys.step .fakes .prod {}) {} (draftRun .pass)).store "wf" = 1) ∧
    ∃ w, (run (Sys.step .fakes .prod {}) {} (draftRun .revise)).store.workflows.get? "wf" =
        some w ∧ w.state.sentBack = true := by
  have hgate : ((run (Sys.step .fakes .prod {}) {} (draftRun .pass)).store.workflows.get?
      "wf").any (fun w => w.state = .awaitingHumanApproval) = true := by decide +kernel
  have hback : ((run (Sys.step .fakes .prod {}) {} (draftRun .revise)).store.workflows.get?
      "wf").isSome = true := by decide +kernel
  have hsecond : ((run (Sys.step .fakes .prod {}) {} (draftRun .revise)).store.tasksOf "wf"
      .generateScenario).any (fun t => t.idempotencyKey ≠
        formatIdempotencyKey "wf" .generateScenario 1) = true := by decide +kernel
  obtain ⟨w, hw, hst⟩ := (Option.any_eq_true _ _).mp hgate
  obtain ⟨w', hw'⟩ := Option.isSome_iff_exists.mp hback
  obtain ⟨t, ht, hne⟩ := List.any_eq_true.mp hsecond
  have hstate : w.state = .awaitingHumanApproval := by simpa using hst
  have hpass := run_first_draft .fakes .prod {} (draftRun .pass) (draftRun_pipeline .pass)
    "wf" w hw
  have hrevise := run_first_draft .fakes .prod {} (draftRun .revise)
    (draftRun_pipeline .revise) "wf" w' hw'
  exact ⟨⟨w, hw, hstate, (hpass.2.1 (by rw [hstate]; rfl)).1⟩, w', hw',
    hrevise.2.2 t ht (by simpa using hne)⟩

end CartoonDemo
