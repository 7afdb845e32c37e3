import CartoonDemo.Types

/-!
# CartoonDemo.Workflow.TransitionTable

The **pure transition matrix** of the workflow engine (`workflow/transition_table.py`,
`workflow/constants.py`): which state a signal leads to, which task the step dispatches,
and what the reconciler expects to have been dispatched in a state.

`TransitionTable.lookup` is the only place where a signal is turned into a target state.
Its results are described once by `lookup_cases`; every later fact about edges (terminal
states have none, a failure signal is accepted in every transient state, which edges
dispatch a task) is read off from it.
-/

namespace CartoonDemo

/-! ### State classes -/

/-- `PAUSE_STATES`. -/
def WorkflowState.isPause : WorkflowState → Bool
  | .awaitingHumanApproval => true
  | _ => false

/-- `TRANSIENT_STATES`: neither terminal nor paused. -/
def WorkflowState.isTransient (s : WorkflowState) : Bool := !s.isTerminal && !s.isPause

/-- The states in which a workflow row carries a failure reason. -/
def WorkflowState.carriesReason : WorkflowState → Bool
  | .reviewFailed | .failed | .failedPermanently => true
  | _ => false

/-- The members of `TRANSIENT_STATES`. -/
def transientStates : List WorkflowState := WorkflowState.all.filter WorkflowState.isTransient

theorem mem_transientStates {s : WorkflowState} : s ∈ transientStates ↔ s.isTransient := by
  cases s <;> decide

/-- `STUCK_THRESHOLD_SHORT_STATES`. -/
def WorkflowState.isShortThreshold : WorkflowState → Bool
  | .collecting | .selectingTopic | .generatingScenario | .reviewing => true
  | _ => false

/-- `stuck_threshold_seconds`; `none` is the source's infinite threshold. -/
def stuckThresholdSeconds (s : WorkflowState) : Option Time :=
  if s.isShortThreshold then some (seconds (30 * 60))
  else if s.isTransient then some (seconds (60 * 60))
  else none

/-! ### The matrix

The rows of the tables in the source, in their order.
-/

/-- One row of the matrix. -/
structure RowSpec where
  toState : WorkflowState
  outboxTaskType : Option TaskType := none
  incrementRevisionCount : Bool := false
  incrementLogicalVersion : Bool := false
  setFailureReason : Option String := none
  deriving DecidableEq, Repr

/-- `_PRIMARY_MATRIX`. -/
def primaryMatrix : WorkflowState → TransitionSignal → Option RowSpec
  | .collecting, .stageCompleted =>
      some { toState := .collected, outboxTaskType := some .selectTopic }
  | .collected, .stageCompleted => some { toState := .selectingTopic }
  | .selectingTopic, .stageCompleted =>
      some { toState := .topicSelected, outboxTaskType := some .generateScenario }
  | .selectingTopic, .noSuitableTopic => some { toState := .noSuitableTopic }
  | .topicSelected, .stageCompleted => some { toState := .generatingScenario }
  | .generatingScenario, .stageCompleted =>
      some { toState := .scenarioGenerated, outboxTaskType := some .reviewScenario }
  | .scenarioGenerated, .stageCompleted => some { toState := .reviewing }
  | .reviewing, .criticPass => some { toState := .reviewPassed }
  | .revisionRequired, .stageCompleted =>
      some { toState := .generatingScenario, outboxTaskType := some .generateScenario,
             incrementLogicalVersion := true }
  | .reviewPassed, .stageCompleted => some { toState := .awaitingHumanApproval }
  | _, _ => none

/-- `_EXPECTED_OUTBOX_BY_STATE`, through `expected_outbox_task` (absent keys give `none`). -/
def expectedOutboxTask : WorkflowState → Option TaskType
  | .collecting => some .collect
  | .collected => some .selectTopic
  | .topicSelected => some .generateScenario
  | .scenarioGenerated => some .reviewScenario
  | _ => none

/-- `_APPROVAL_MATRIX`. -/
def approvalMatrix : ApprovalAction → RowSpec
  | .approve => { toState := .approved }
  | .reject => { toState := .rejected }
  | .requestRegeneration =>
      { toState := .generatingScenario, outboxTaskType := some .generateScenario,
        incrementLogicalVersion := true }

/-! ### Lookups -/

/-- Outcome of a signal lookup. -/
structure TransitionDecision where
  fromState : WorkflowState
  toState : WorkflowState
  signal : TransitionSignal
  outboxTaskType : Option TaskType := none
  incrementRevisionCount : Bool := false
  incrementLogicalVersion : Bool := false
  setFailureReason : Option String := none
  deriving DecidableEq, Repr

/-- Outcome of an approval lookup. -/
structure ApprovalDecision where
  action : ApprovalAction
  fromState : WorkflowState
  toState : WorkflowState
  outboxTaskType : Option TaskType := none
  incrementLogicalVersion : Bool := false
  deriving DecidableEq, Repr

namespace TransitionTable

/-- `TransitionTable.lookup`: terminal and paused states refuse every signal, the critic's
revise branches on the revision cap, then the matrix, then the failure signals. -/
def lookup (currentState : WorkflowState) (signal : TransitionSignal) (revisionCount : Nat)
    (maxScenarioRevisions : Nat) : Except PyException TransitionDecision :=
  if currentState.isTerminal then
    .error (.invalidTransition
      ("Cannot transition from terminal state " ++ currentState.value) "" currentState signal)
  else if currentState.isPause then
    .error (.invalidTransition
      ("Cannot apply transition signal in pause state " ++ currentState.value) ""
      currentState signal)
  else if currentState = .reviewing ∧ signal = .criticRevise then
    if revisionCount ≥ maxScenarioRevisions then
      .ok { fromState := currentState, toState := .reviewFailed, signal := signal,
            setFailureReason := some "max_scenario_revisions_exceeded" }
    else
      .ok { fromState := currentState, toState := .revisionRequired, signal := signal,
            incrementRevisionCount := true }
  else match primaryMatrix currentState signal with
    | some row =>
        .ok { fromState := currentState, toState := row.toState, signal := signal,
              outboxTaskType := row.outboxTaskType,
              incrementRevisionCount := row.incrementRevisionCount,
              incrementLogicalVersion := row.incrementLogicalVersion,
              setFailureReason := row.setFailureReason }
    | none =>
        if signal = .unrecoverableError ∧ currentState.isTransient then
          .ok { fromState := currentState, toState := .failed, signal := signal }
        else if signal = .retriesExhausted ∧ currentState.isTransient then
          .ok { fromState := currentState, toState := .failedPermanently, signal := signal }
        else if signal = .reconciliationRepair ∧ currentState.isTransient then
          .ok { fromState := currentState, toState := .failed, signal := signal,
                setFailureReason := some "stuck_state_timeout" }
        else
          .error (.invalidTransition
            ("Invalid transition " ++ currentState.value ++ " + " ++ signal.value) ""
            currentState signal)

/-- `TransitionTable.lookup_approval`. -/
def lookupApproval (action : ApprovalAction) : ApprovalDecision :=
  let row := approvalMatrix action
  { action := action, fromState := .awaitingHumanApproval, toState := row.toState,
    outboxTaskType := row.outboxTaskType,
    incrementLogicalVersion := row.incrementLogicalVersion }

/-- The failure branch of `lookup`: the target state and stored reason of each failure
signal. -/
def failureDecision (st : WorkflowState) : TransitionSignal → Option TransitionDecision
  | .unrecoverableError =>
      some { fromState := st, toState := .failed, signal := .unrecoverableError }
  | .retriesExhausted =>
      some { fromState := st, toState := .failedPermanently, signal := .retriesExhausted }
  | .reconciliationRepair =>
      some { fromState := st, toState := .failed, signal := .reconciliationRepair,
             setFailureReason := some "stuck_state_timeout" }
  | _ => none

/-- The decision a matrix row stands for. -/
def rowDecision (st : WorkflowState) (sig : TransitionSignal) (row : RowSpec) :
    TransitionDecision :=
  { fromState := st, toState := row.toState, signal := sig,
    outboxTaskType := row.outboxTaskType,
    incrementRevisionCount := row.incrementRevisionCount,
    incrementLogicalVersion := row.incrementLogicalVersion,
    setFailureReason := row.setFailureReason }

/-- Everything a successful lookup can be: the two branches of the critic's revise, a
matrix row, or a failure signal. -/
theorem lookup_cases {st : WorkflowState} {sig : TransitionSignal} {rc mx : Nat}
    {d : TransitionDecision} (h : lookup st sig rc mx = .ok d) :
    st.isTransient ∧
    ((st = .reviewing ∧ sig = .criticRevise ∧ mx ≤ rc ∧
        d = { fromState := st, toState := .reviewFailed, signal := sig,
              setFailureReason := some "max_scenario_revisions_exceeded" }) ∨
      (st = .reviewing ∧ sig = .criticRevise ∧ rc < mx ∧
        d = { fromState := st, toState := .revisionRequired, signal := sig,
              incrementRevisionCount := true }) ∨
      (∃ row, primaryMatrix st sig = some row ∧ d = rowDecision st sig row) ∨
      failureDecision st sig = some d) := by
  unfold lookup at h
  by_cases h1 : st.isTerminal
  · rw [if_pos h1] at h; exact absurd h (by simp)
  rw [if_neg h1] at h
  by_cases h2 : st.isPause
  · rw [if_pos h2] at h; exact absurd h (by simp)
  rw [if_neg h2] at h
  refine ⟨by simp [WorkflowState.isTransient, h1, h2], ?_⟩
  by_cases h3 : st = .reviewing ∧ sig = .criticRevise
  · rw [if_pos h3] at h
    obtain ⟨rfl, rfl⟩ := h3
    by_cases h4 : rc ≥ mx
    · rw [if_pos h4] at h; cases h
      exact Or.inl ⟨rfl, rfl, h4, rfl⟩
    · rw [if_neg h4] at h; cases h
      exact Or.inr (Or.inl ⟨rfl, rfl, Nat.lt_of_not_le h4, rfl⟩)
  rw [if_neg h3] at h
  cases hrow : primaryMatrix st sig with
  | some row =>
      rw [hrow] at h; cases h
      exact Or.inr (Or.inr (Or.inl ⟨row, rfl, rfl⟩))
  | none =>
      rw [hrow] at h
      dsimp only at h
      refine Or.inr (Or.inr (Or.inr ?_))
      split_ifs at h with h5 h6 h7
      · cases h; rw [h5.1]; rfl
      · cases h; rw [h6.1]; rfl
      · cases h; rw [h7.1]; rfl

/-- A successful lookup keeps the state and signal it was asked about. -/
theorem lookup_from {st : WorkflowState} {sig : TransitionSignal} {rc mx : Nat}
    {d : TransitionDecision} (h : lookup st sig rc mx = .ok d) :
    d.fromState = st ∧ d.signal = sig := by
  rcases (lookup_cases h).2 with ⟨-, -, -, rfl⟩ | ⟨-, -, -, rfl⟩ | ⟨row, -, rfl⟩ | hf
  · exact ⟨rfl, rfl⟩
  · exact ⟨rfl, rfl⟩
  · exact ⟨rfl, rfl⟩
  · cases sig <;> cases hf <;> exact ⟨rfl, rfl⟩

/-- A successful lookup starts in a transient state. -/
theorem lookup_transient {st : WorkflowState} {sig : TransitionSignal} {rc mx : Nat}
    {d : TransitionDecision} (h : lookup st sig rc mx = .ok d) : st.isTransient :=
  (lookup_cases h).1

/-- The revision count is raised by the critic's revise below the cap and by nothing
else. -/
theorem lookup_incrementRevisionCount {st : WorkflowState} {sig : TransitionSignal}
    {rc mx : Nat} {d : TransitionDecision} (h : lookup st sig rc mx = .ok d) :
    d.incrementRevisionCount = true ↔ st = .reviewing ∧ sig = .criticRevise ∧ rc < mx := by
  have hrow : ∀ st sig row, primaryMatrix st sig = some row →
      row.incrementRevisionCount = false := by
    intro st sig row hrow
    cases st <;> cases sig <;> first | (cases hrow; rfl) | exact absurd hrow (by simp [primaryMatrix])
  have hcase := (lookup_cases h).2
  obtain ⟨rfl, rfl, hle, rfl⟩ | ⟨rfl, rfl, hlt, rfl⟩ | ⟨row, hr, rfl⟩ | hf := hcase
  · simp [Nat.not_lt.mpr hle]
  · simp [hlt]
  · have hfalse := hrow st sig row hr
    constructor
    · intro hi
      exact absurd (hfalse.symm.trans hi) (by simp)
    · intro hi
      obtain ⟨rfl, rfl, -⟩ := hi
      exact absurd hr (by simp [primaryMatrix])
  · cases sig <;> cases hf <;> simp

/-- Every failure signal is accepted in every transient state. -/
theorem lookup_failure {st : WorkflowState} {sig : TransitionSignal} (rc mx : Nat)
    {d : TransitionDecision} (ht : st.isTransient) (hd : failureDecision st sig = some d) :
    lookup st sig rc mx = .ok d := by
  cases sig <;> cases hd <;> cases st <;> first | rfl | exact absurd ht (by decide)

/-- The critic's revise, below the cap and at it. -/
theorem lookup_revise (rc mx : Nat) :
    lookup .reviewing .criticRevise rc mx =
      if mx ≤ rc then
        .ok { fromState := .reviewing, toState := .reviewFailed, signal := .criticRevise,
              setFailureReason := some "max_scenario_revisions_exceeded" }
      else
        .ok { fromState := .reviewing, toState := .revisionRequired, signal := .criticRevise,
              incrementRevisionCount := true } := by
  rfl

end TransitionTable

end CartoonDemo
