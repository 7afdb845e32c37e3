import CartoonDemo.Library.Run
import CartoonDemo.Worker.Guards

/-!
# CartoonDemo.Worker.Pool

The **consume loop of a worker** (`DefaultWorkerLoop.run`) against the consumer group of its
stream and its own `ConcurrencyPool`. The loop reads new entries with `XREADGROUP`; when there
are none it claims one with `XAUTOCLAIM`, minimum idle time `0`; what it gets it submits to the
pool, where threads call `_process_delivery`.

Each of these is a step, and between any two of them the pool's threads, the publisher and the
other consumers of the group run. Of a call of `_process_delivery` the steps are its start on a
thread, its wait for a slot, its ack and its end; everything else it does is somewhere between
these, for as long as it takes. Entries are numbered in stream order.

An entry stays pending until it is acked, so an entry whose handler is running is pending, and
a claim may return it: `claim_pending_piles_up`.
-/

namespace CartoonDemo

/-- Where a call of `_process_delivery` stands, as the pool sees it. -/
inductive JobPhase
  /-- In the executor's queue. -/
  | queued
  /-- On a thread, before it asks for a slot. -/
  | started
  /-- Blocked in `acquire_blocking`. -/
  | waiting (taskType : TaskType)
  | holding (taskType : TaskType)
  deriving DecidableEq, Repr

/-- A delivery that is submitted and not finished. -/
structure PoolJob where
  entry : Nat
  phase : JobPhase := .queued
  deriving DecidableEq, Repr

/-- Where `run` stands. -/
inductive LoopPhase
  /-- At the head of the `while` loop. -/
  | looping
  /-- `XREADGROUP` has returned nothing. -/
  | claiming
  /-- An entry is there, not decoded yet. -/
  | received (entry : Nat)
  /-- Left, by `stop` or by an exception. -/
  | ended
  deriving DecidableEq, Repr

structure PoolState where
  /-- The entries of the stream; `none` if the fields do not decode. -/
  stream : List (Option TaskMessage) := []
  /-- `last-delivered-id`: the entries below have been delivered to some consumer. -/
  delivered : Nat := 0
  /-- The entries pending in the group, whoever owns them. -/
  pending : List Nat := []
  shutdown : Bool := false
  loop : LoopPhase := .looping
  jobs : List PoolJob := []
  /-- The slots of calls that ended without giving them back. -/
  leaked : List TaskType := []
  deriving DecidableEq, Repr

inductive PoolAction
  | xadd (fields : Option TaskMessage)
  | otherRead
  | otherAck (entry : Nat)
  | stop
  | read
  /-- `XAUTOCLAIM`, with the entry that Redis returns. -/
  | claim (entry : Nat)
  | submit
  /-- A call of the loop raises. -/
  | raise
  | start
  | wantSlot (job : Nat) (taskType : TaskType)
  | acquire (job : Nat)
  | ack (job : Nat)
  | finish (job : Nat) (released : Bool)
  deriving DecidableEq, Repr

/-- The call of `XAUTOCLAIM`. -/
def PoolAction.claims : PoolAction → Bool
  | .claim _ => true
  | _ => false

namespace PoolState

/-- The threads that are taken. -/
def threads (σ : PoolState) : Nat := (σ.jobs.filter (fun j => j.phase ≠ .queued)).length

/-- The slots of a task type that are taken. -/
def slots (σ : PoolState) (taskType : TaskType) : Nat :=
  (σ.jobs.filter (fun j => j.phase = .holding taskType)).length + σ.leaked.count taskType

/-- `max_workers` of the executor. -/
def maxWorkers (limits : TaskType → Nat) : Nat :=
  limits .collect + limits .selectTopic + limits .generateScenario + limits .reviewScenario

/-- The entry is acked: it is pending no longer. -/
def acked (σ : PoolState) (entry : Nat) : List Nat := σ.pending.filter (fun e => e ≠ entry)

def setPhase (σ : PoolState) (i : Nat) (phase : JobPhase) : PoolState :=
  { σ with jobs := σ.jobs.modify i (fun j => { j with phase := phase }) }

/-- The steps of `run`. -/
def stepLoop (σ : PoolState) : PoolAction → PoolState
  | .read =>
      match σ.loop with
      | .looping =>
          if σ.shutdown then { σ with loop := .ended }
          else if σ.delivered < σ.stream.length then
            { σ with
              delivered := σ.delivered + 1
              pending := σ.pending ++ [σ.delivered]
              loop := .received σ.delivered }
          else { σ with loop := .claiming }
      | _ => σ
  | .claim entry =>
      match σ.loop with
      | .claiming =>
          if entry ∈ σ.pending then { σ with loop := .received entry }
          else { σ with loop := .looping }
      | _ => σ
  | .submit =>
      match σ.loop with
      | .received entry =>
          match σ.stream[entry]? with
          | some (some _) =>
              { σ with loop := .looping, jobs := σ.jobs ++ [{ entry := entry }] }
          -- a message that does not decode is acked, and the error leaves the loop
          | _ => { σ with loop := .ended, pending := σ.acked entry }
      | _ => σ
  | _ => σ

/-- The steps of the calls of `_process_delivery`. -/
def stepJob (limits : TaskType → Nat) (σ : PoolState) : PoolAction → PoolState
  | .start =>
      if σ.threads < maxWorkers limits then
        σ.setPhase (σ.jobs.findIdx (fun j => j.phase = .queued)) .started
      else σ
  | .wantSlot i taskType =>
      match σ.jobs[i]? with
      | some { phase := .started, .. } => σ.setPhase i (.waiting taskType)
      | _ => σ
  | .acquire i =>
      match σ.jobs[i]? with
      | some { phase := .waiting taskType, .. } =>
          if σ.slots taskType < limits taskType then σ.setPhase i (.holding taskType) else σ
      | _ => σ
  | .ack i =>
      match σ.jobs[i]? with
      | some { entry := entry, phase := .started } => { σ with pending := σ.acked entry }
      | some { entry := entry, phase := .holding _ } => { σ with pending := σ.acked entry }
      | _ => σ
  | .finish i released =>
      match σ.jobs[i]? with
      | some { phase := .started, .. } => { σ with jobs := σ.jobs.eraseIdx i }
      | some { phase := .holding taskType, .. } =>
          { σ with
            jobs := σ.jobs.eraseIdx i
            leaked := if released then σ.leaked else σ.leaked ++ [taskType] }
      | _ => σ
  | _ => σ

def step (limits : TaskType → Nat) (a : PoolAction) (σ : PoolState) : PoolState :=
  match a with
  | .xadd fields => { σ with stream := σ.stream ++ [fields] }
  | .otherRead =>
      if σ.delivered < σ.stream.length then
        { σ with delivered := σ.delivered + 1, pending := σ.pending ++ [σ.delivered] }
      else σ
  | .otherAck entry => { σ with pending := σ.acked entry }
  | .stop => { σ with shutdown := true }
  | .raise => { σ with loop := .ended }
  | .read | .claim _ | .submit => σ.stepLoop a
  | .start | .wantSlot _ _ | .acquire _ | .ack _ | .finish _ _ => σ.stepJob limits a

/-! ### Copies of an entry

An entry that is claimed while it is still being worked on runs twice.
-/

/-- The unfinished deliveries of one entry. -/
def unfinished (σ : PoolState) (entry : Nat) : List PoolJob :=
  σ.jobs.filter (fun j => j.entry = entry)

/-- Those of them that take up a thread. -/
def running (σ : PoolState) (entry : Nat) : List PoolJob :=
  (σ.unfinished entry).filter (fun j => j.phase ≠ .queued)

/-- No entry has two unfinished deliveries, nor two threads. -/
structure NoPileUp (σ : PoolState) : Prop where
  unfinished_le : ∀ entry, (σ.unfinished entry).length ≤ 1
  running_le : ∀ entry, (σ.running entry).length ≤ 1

/-- The loop claims only while every unfinished delivery of the pool has been acked. -/
def ClaimsWhenAcked (σ : PoolState) (a : PoolAction) : Prop :=
  a.claims = true → σ.loop = .claiming → ∀ j ∈ σ.jobs, j.entry ∉ σ.pending

instance (σ : PoolState) (a : PoolAction) : Decidable (ClaimsWhenAcked σ a) :=
  inferInstanceAs (Decidable (a.claims = true → σ.loop = .claiming → ∀ j ∈ σ.jobs, j.entry ∉ σ.pending))

/-! ### What a step does

But for receiving and submitting, a step ends deliveries and acknowledges entries only.
-/

/-- Nothing is received and nothing is submitted; deliveries may end and entries be acked. -/
structure Settled (σ σ' : PoolState) : Prop where
  delivered : σ'.delivered = σ.delivered
  pending : ∀ e ∈ σ'.pending, e ∈ σ.pending
  jobs : (σ'.jobs.map PoolJob.entry).Sublist (σ.jobs.map PoolJob.entry)
  loop : σ'.loop = σ.loop ∨ ∀ e, σ'.loop ≠ .received e

theorem map_entry_modify (jobs : List PoolJob) (i : Nat) (phase : JobPhase) :
    (jobs.modify i (fun j => { j with phase := phase })).map PoolJob.entry =
      jobs.map PoolJob.entry := by
  refine List.ext_getElem? fun k => ?_
  rw [List.getElem?_map, List.getElem?_map, List.getElem?_modify]
  cases jobs[k]? with
  | none => rfl
  | some j => by_cases hk : i = k <;> simp [hk]

theorem settled_refl (σ : PoolState) : Settled σ σ :=
  ⟨rfl, fun _ h => h, List.Sublist.refl _, Or.inl rfl⟩

theorem settled_setPhase (σ : PoolState) (i : Nat) (phase : JobPhase) :
    Settled σ (σ.setPhase i phase) := by
  refine ⟨rfl, fun _ h => h, ?_, Or.inl rfl⟩
  unfold setPhase
  rw [map_entry_modify]

theorem settled_acked (σ : PoolState) (entry : Nat) :
    Settled σ { σ with pending := σ.acked entry } :=
  ⟨rfl, fun _ h => List.mem_of_mem_filter h, List.Sublist.refl _, Or.inl rfl⟩

/-- The calls of `_process_delivery` receive and submit nothing. -/
theorem stepJob_settled (limits : TaskType → Nat) (σ : PoolState) (a : PoolAction) :
    Settled σ (σ.stepJob limits a) := by
  unfold stepJob
  split
  · split
    · exact settled_setPhase ..
    · exact settled_refl σ
  · split
    · exact settled_setPhase ..
    · exact settled_refl σ
  · split
    · split
      · exact settled_setPhase ..
      · exact settled_refl σ
    · exact settled_refl σ
  · split
    · exact settled_acked ..
    · exact settled_acked ..
    · exact settled_refl σ
  · have herase : ∀ i leaked,
        Settled σ { σ with jobs := σ.jobs.eraseIdx i, leaked := leaked } := fun i leaked =>
      ⟨rfl, fun _ h => h, (List.eraseIdx_sublist ..).map _, Or.inl rfl⟩
    split
    · exact herase _ _
    · exact herase _ _
    · exact settled_refl σ
  · exact settled_refl σ

/-- Everything a step can do. -/
inductive Stepped (σ : PoolState) (a : PoolAction) : PoolState → Prop
  | settled (σ' : PoolState) (h : Settled σ σ') : Stepped σ a σ'
  /-- Another consumer, or this one, reads the next entry. -/
  | read (loop : LoopPhase) (h : loop = σ.loop ∨ loop = .received σ.delivered) :
      Stepped σ a { σ with
        delivered := σ.delivered + 1, pending := σ.pending ++ [σ.delivered], loop := loop }
  | claimed (entry : Nat) (ha : a.claims = true) (hloop : σ.loop = .claiming)
      (h : entry ∈ σ.pending) : Stepped σ a { σ with loop := .received entry }
  | submitted (entry : Nat) (h : σ.loop = .received entry) :
      Stepped σ a { σ with loop := .looping, jobs := σ.jobs ++ [{ entry := entry }] }

theorem step_stepped (limits : TaskType → Nat) (a : PoolAction) (σ : PoolState) :
    Stepped σ a (step limits a σ) := by
  cases a with
  | xadd fields =>
      exact .settled _ ⟨rfl, fun _ h => h, List.Sublist.refl _, Or.inl rfl⟩
  | otherRead =>
      unfold step
      dsimp only
      split
      · exact .read σ.loop (Or.inl rfl)
      · exact .settled _ (settled_refl σ)
  | otherAck entry => exact .settled _ (settled_acked σ entry)
  | stop =>
      exact .settled _ ⟨rfl, fun _ h => h, List.Sublist.refl _, Or.inl rfl⟩
  | raise =>
      exact .settled _
        ⟨rfl, fun _ h => h, List.Sublist.refl _, Or.inr (by simp [step])⟩
  | read =>
      show Stepped σ _ (σ.stepLoop .read)
      unfold stepLoop
      dsimp only
      split
      · split
        · exact .settled _
            ⟨rfl, fun _ h => h, List.Sublist.refl _, Or.inr (by simp)⟩
        · split
          · exact .read _ (Or.inr rfl)
          · exact .settled _
              ⟨rfl, fun _ h => h, List.Sublist.refl _, Or.inr (by simp)⟩
      · exact .settled _ (settled_refl σ)
  | claim entry =>
      show Stepped σ _ (σ.stepLoop (.claim entry))
      unfold stepLoop
      dsimp only
      split
      · next hloop =>
        split
        · next hmem => exact .claimed entry rfl hloop hmem
        · exact .settled _
            ⟨rfl, fun _ h => h, List.Sublist.refl _, Or.inr (by simp)⟩
      · exact .settled _ (settled_refl σ)
  | submit =>
      show Stepped σ _ (σ.stepLoop .submit)
      unfold stepLoop
      dsimp only
      split
      · next entry hloop =>
        split
        · exact .submitted entry hloop
        · exact .settled _ ⟨rfl, fun _ h => List.mem_of_mem_filter h,
            List.Sublist.refl _, Or.inr (by simp)⟩
      · exact .settled _ (settled_refl σ)
  | start => exact .settled _ (stepJob_settled limits σ .start)
  | wantSlot i taskType => exact .settled _ (stepJob_settled limits σ (.wantSlot i taskType))
  | acquire i => exact .settled _ (stepJob_settled limits σ (.acquire i))
  | ack i => exact .settled _ (stepJob_settled limits σ (.ack i))
  | finish i released => exact .settled _ (stepJob_settled limits σ (.finish i released))

/-! ### The invariant -/

/-- The pool has no copies, and what the loop has received is not in the pool. -/
structure Distinct (σ : PoolState) : Prop where
  pending_lt : ∀ e ∈ σ.pending, e < σ.delivered
  jobs_lt : ∀ e ∈ σ.jobs.map PoolJob.entry, e < σ.delivered
  received : ∀ e, σ.loop = .received e → e < σ.delivered ∧ e ∉ σ.jobs.map PoolJob.entry
  nodup : (σ.jobs.map PoolJob.entry).Nodup

theorem Distinct.noPileUp {σ : PoolState} (h : Distinct σ) : NoPileUp σ := by
  have hle : ∀ entry, (σ.unfinished entry).length ≤ 1 := by
    intro entry
    have hcount := List.nodup_iff_count_le_one.mp h.nodup entry
    unfold unfinished
    rw [List.count, List.countP_map, List.countP_eq_length_filter] at hcount
    exact hcount
  exact ⟨hle, fun entry => (List.length_filter_le _ _).trans (hle entry)⟩

/-- **One step**: what is claimed while everything in the pool is acked is not in the pool, and
what is new has never been there. -/
theorem Distinct.step {σ : PoolState} {a : PoolAction} (h : Distinct σ)
    (hok : ClaimsWhenAcked σ a) (limits : TaskType → Nat) : Distinct (step limits a σ) := by
  have hstep := step_stepped limits a σ
  generalize PoolState.step limits a σ = σ' at hstep ⊢
  cases hstep with
  | settled σ' hset =>
      refine ⟨?_, ?_, ?_, h.nodup.sublist hset.jobs⟩
      · intro e he
        rw [hset.delivered]
        exact h.pending_lt e (hset.pending e he)
      · intro e he
        rw [hset.delivered]
        exact h.jobs_lt e (hset.jobs.subset he)
      · intro e he
        rcases hset.loop with hloop | hloop
        · obtain ⟨hlt, hnot⟩ := h.received e (hloop ▸ he)
          rw [hset.delivered]
          exact ⟨hlt, fun hmem => hnot (hset.jobs.subset hmem)⟩
        · exact absurd he (hloop e)
  | read loop hloop =>
      refine ⟨?_, ?_, ?_, h.nodup⟩
      · intro e he
        rcases List.mem_append.mp he with he | he
        · exact Nat.lt_succ_of_lt (h.pending_lt e he)
        · rw [List.mem_singleton.mp he]
          exact Nat.lt_succ_self _
      · intro e he
        exact Nat.lt_succ_of_lt (h.jobs_lt e he)
      · intro e he
        rcases hloop with rfl | rfl
        · obtain ⟨hlt, hnot⟩ := h.received e he
          exact ⟨Nat.lt_succ_of_lt hlt, hnot⟩
        · obtain rfl : σ.delivered = e := by simpa using he
          exact ⟨Nat.lt_succ_self _, fun hmem => Nat.lt_irrefl _ (h.jobs_lt _ hmem)⟩
  | claimed entry ha hloop hmem =>
      refine ⟨h.pending_lt, h.jobs_lt, ?_, h.nodup⟩
      intro e he
      obtain rfl : entry = e := by simpa using he
      refine ⟨h.pending_lt _ hmem, fun hjob => ?_⟩
      obtain ⟨j, hj, rfl⟩ := List.mem_map.mp hjob
      exact hok ha hloop j hj hmem
  | submitted entry hloop =>
      obtain ⟨hlt, hnot⟩ := h.received entry hloop
      refine ⟨h.pending_lt, ?_, by simp, ?_⟩
      · intro e he
        rw [List.map_append, List.mem_append] at he
        rcases he with he | he
        · exact h.jobs_lt e he
        · rw [List.mem_singleton.mp he]
          exact hlt
      · rw [List.map_append, List.map_singleton, List.nodup_append]
        refine ⟨h.nodup, by simp, ?_⟩
        intro x hx y hy hxy
        have hye : y = entry := List.mem_singleton.mp hy
        rw [hxy, hye] at hx
        exact hnot hx

/-- **No copies pile up** in a run in which the loop claims only while the entries of all
unfinished deliveries are acked: this holds at every moment of it. -/
theorem run_no_pile_up (limits : TaskType → Nat) {actions : List PoolAction}
    (h : Along (step limits) ClaimsWhenAcked {} actions) :
    ∀ moment, moment <+: actions → NoPileUp (run (step limits) {} moment) := by
  intro moment hmoment
  obtain ⟨later, rfl⟩ := hmoment
  have hempty : Distinct ({} : PoolState) :=
    ⟨by simp, by simp, fun e he => absurd he (by simp), by simp⟩
  have hpre : Along (step limits) ClaimsWhenAcked {} moment := by
    refine along_iff_forall_split.mpr fun pre a post heq => ?_
    exact along_iff_forall_split.mp h pre a (post ++ later) (by rw [heq]; simp)
  exact (run_along (fun σ a hσ ha => hσ.step ha limits) hempty hpre).noPileUp

/-- A message for the runs below. -/
def sampleMessage : TaskMessage :=
  { taskId := "task", workflowId := "wf", taskType := .collect, attempt := 1, createdAt := 0,
    payloadReference := "task" }

/-- A delivery that is acked before the loop looks again. -/
theorem ackedRun_no_pile_up :
    let actions : List PoolAction :=
      [.xadd (some sampleMessage), .read, .submit, .start, .wantSlot 0 .collect, .acquire 0,
       .ack 0, .read, .claim 0, .finish 0 true]
    (∃ moment, moment <+: actions ∧
      ((run (step (fun _ => 1)) {} moment).unfinished 0).length = 1) ∧
    ∀ moment, moment <+: actions → NoPileUp (run (step (fun _ => 1)) {} moment) :=
  ⟨⟨[.xadd (some sampleMessage), .read, .submit], by decide, by decide⟩,
    run_no_pile_up (fun _ => 1) (by decide)⟩

/-- **The condition is needed.** If an unfinished delivery is still pending when the loop claims,
Redis may return its entry, and the loop submits it again. -/
theorem claim_pending_piles_up (limits : TaskType → Nat) {σ : PoolState}
    (hloop : σ.loop = .claiming) {j : PoolJob} (hj : j ∈ σ.jobs) (hpending : j.entry ∈ σ.pending)
    {message : TaskMessage} (hmessage : σ.stream[j.entry]? = some (some message)) :
    1 < ((run (step limits) σ [.claim j.entry, .submit]).unfinished j.entry).length := by
  have hclaim : step limits (.claim j.entry) σ = { σ with loop := .received j.entry } := by
    show σ.stepLoop (.claim j.entry) = _
    unfold stepLoop
    simp only [hloop, if_pos hpending]
  have hsubmit : step limits .submit { σ with loop := .received j.entry } =
      { σ with loop := .looping, jobs := σ.jobs ++ [{ entry := j.entry }] } := by
    show stepLoop { σ with loop := .received j.entry } .submit = _
    unfold stepLoop
    simp only [hmessage]
  have hold : 0 < (σ.unfinished j.entry).length :=
    List.length_pos_of_mem (List.mem_filter.mpr ⟨hj, by simp⟩)
  have hnew : ((run (step limits) σ [.claim j.entry, .submit]).unfinished j.entry) =
      σ.unfinished j.entry ++ [{ entry := j.entry }] := by
    rw [run_cons, hclaim, run_cons, hsubmit]
    unfold unfinished
    rw [run_nil, List.filter_append]
    simp
  rw [hnew, List.length_append, List.length_singleton]
  omega

/-- One entry whose handler takes its time: the loop finds nothing new and submits it again and
again, until its copies have all the threads. -/
theorem slowHandler_piles_up :
    ¬ NoPileUp (run (step (fun _ => 1)) {}
      [.xadd (some sampleMessage), .read, .submit, .start, .wantSlot 0 .collect, .acquire 0,
       .read, .claim 0, .submit, .start, .read, .claim 0, .submit, .start, .read, .claim 0,
       .submit, .start]) := by
  intro h
  exact absurd (h.running_le 0) (by decide)

end PoolState

end CartoonDemo
