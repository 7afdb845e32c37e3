import CartoonDemo.TaskQueue.RedisQueue

/-!
# CartoonDemo.TaskQueue.Redelivery

The **redelivery of pending entries**. When nothing is undelivered, `dequeue` claims from the
pending list, always from `0-0`: the `next_start` of the last claim is dropped. A claim leaves the
order of the list alone, so every `dequeue` returns its first entry, as long as nobody
acknowledges it (`dequeueAll_eq`), and what stands behind it is not redelivered.
-/

namespace CartoonDemo

namespace TaskQueue

open MessageSerializer RedisTaskQueue

/-- Successive calls of `dequeue` by one consumer, at the given times. -/
def dequeueAll (q : RedisTaskQueue) (consumer : String) :
    List Time → RedisStream → List (Except QueueException (Option PendingDelivery))
  | [], _ => []
  | now :: times, s =>
      let r := q.dequeue {} now q.stream q.group consumer s
      r.2 :: dequeueAll q consumer times r.1

/-- The calls return deliveries of distinct entries. -/
def DistinctDeliveries (q : RedisTaskQueue) (consumer : String) (times : List Time)
    (s : RedisStream) : Prop :=
  ∃ ds : List PendingDelivery, dequeueAll q consumer times s = ds.map (fun d => .ok (some d)) ∧
    (ds.map PendingDelivery.deliveryId).Nodup

/-- The entry of a pending id is in the stream and well formed. -/
def Redeliverable (s : RedisStream) (id : StreamId) : Prop :=
  ∃ F m, s.entry id = some (id, F) ∧ decode F = .ok m

theorem claimStart_le (id : StreamId) : claimStart ≤ id := by
  rw [Prod.Lex.le_iff]
  rcases Nat.eq_zero_or_pos (ofLex id).1 with h | h
  · exact Or.inr ⟨h.symm, Nat.zero_le _⟩
  · exact Or.inl h

/-- A claim from `0-0` returns the first pending entry. -/
theorem claim_head {s : RedisStream} {consumer : String} {id : StreamId} {rest : List StreamId}
    {e : StreamId × FieldMap} (h : s.pending.map Prod.fst = id :: rest) (he : s.entry id = some e) :
    s.claim consumer claimStart = (s.reassign id consumer, rest.head?, some e) := by
  have hall : (s.pending.map Prod.fst).filter (fun id => claimStart ≤ id) = id :: rest := by
    rw [h]
    exact List.filter_eq_self.mpr fun a _ => decide_eq_true (claimStart_le a)
  rw [ConsumerGroup.claim]
  simp only [hall, he]

section

variable {q : RedisTaskQueue} {consumer : String}

/-- The delivery of an entry. -/
def redelivery (q : RedisTaskQueue) (id : StreamId) (m : TaskMessage) (now : Time) :
    PendingDelivery :=
  { message := m, stream := q.stream, consumerGroup := q.group, deliveryId := id, dequeuedAt := now }

/-- **Step lemma.** One `dequeue` delivers the first pending entry and only changes its owner. -/
theorem dequeue_head (hnames : validateStreamForDequeue q.stream q.group consumer = .ok ())
    {s : RedisStream} (hall : s.undelivered = []) {id : StreamId} {rest : List StreamId}
    (h : s.pending.map Prod.fst = id :: rest) {F : FieldMap} {m : TaskMessage}
    (he : s.entry id = some (id, F)) (hm : decode F = .ok m) (now : Time) :
    q.dequeue {} now q.stream q.group consumer s =
      (s.reassign id consumer, .ok (some (redelivery q id m now))) := by
  have hread : s.read consumer = (s, none) := ConsumerGroup.read_none hall
  have hgroup : q.groupExists none q.stream q.group = .ok true := by
    show Except.ok (decide (q.stream = q.stream) && decide (q.group = q.group)) = _
    rw [decide_eq_true rfl, decide_eq_true rfl]
    rfl
  have hobtain : q.obtain {} q.stream q.group consumer s =
      (s.reassign id consumer, .ok (some (id, F))) := by
    rw [obtain, hnames, hgroup]
    simp only [perform, hread, claimPendingDelivery, claim_head h he]
  rw [dequeue, hobtain]
  simp only [deliver, hm]
  rfl

/-- **Run lemma.** Every call returns the first pending entry. -/
theorem dequeueAll_eq (hnames : validateStreamForDequeue q.stream q.group consumer = .ok ())
    {s : RedisStream} (hall : s.undelivered = []) {id : StreamId} {rest : List StreamId}
    (h : s.pending.map Prod.fst = id :: rest) {F : FieldMap} {m : TaskMessage}
    (he : s.entry id = some (id, F)) (hm : decode F = .ok m) (times : List Time) :
    dequeueAll q consumer times s =
      (times.map (redelivery q id m)).map fun d => .ok (some d) := by
  induction times generalizing s with
  | nil => rfl
  | cons now times ih =>
      rw [dequeueAll, dequeue_head hnames hall h he hm, List.map_cons, List.map_cons]
      congr 1
      exact ih hall ((ConsumerGroup.pending_reassign id consumer).trans h) he

/-- The calls return one entry, again and again. -/
theorem distinctDeliveries_iff
    (hnames : validateStreamForDequeue q.stream q.group consumer = .ok ())
    {s : RedisStream} (hall : s.undelivered = []) {id : StreamId} {rest : List StreamId}
    (h : s.pending.map Prod.fst = id :: rest) {F : FieldMap} {m : TaskMessage}
    (he : s.entry id = some (id, F)) (hm : decode F = .ok m) (times : List Time) :
    DistinctDeliveries q consumer times s ↔ times.length ≤ 1 := by
  have hids : (times.map (redelivery q id m)).map PendingDelivery.deliveryId =
      List.replicate times.length id := by
    rw [List.map_map]
    exact List.map_const'
  have hinj : Function.Injective
      fun d : PendingDelivery => (.ok (some d) : Except QueueException (Option PendingDelivery)) :=
    fun d d' hd => Option.some.inj (Except.ok.inj hd)
  rw [← List.nodup_replicate (a := id), ← hids]
  constructor
  · rintro ⟨ds, hds, hnodup⟩
    rw [dequeueAll_eq hnames hall h he hm] at hds
    rwa [List.map_injective_iff.mpr hinj hds]
  · intro hnodup
    exact ⟨_, dequeueAll_eq hnames hall h he hm times, hnodup⟩

/-- **Pending entries are redelivered in turn only when there is no more than one.** -/
theorem redelivery_fair_iff (hnames : validateStreamForDequeue q.stream q.group consumer = .ok ())
    {s : RedisStream} (hall : s.undelivered = [])
    (hwf : ∀ id ∈ s.pending.map Prod.fst, Redeliverable s id) {times : List Time}
    (hn : times.length = s.pending.length) :
    DistinctDeliveries q consumer times s ↔ s.pending.length ≤ 1 := by
  rw [← hn]
  cases h : s.pending.map Prod.fst with
  | nil =>
      have htimes : times = [] := by
        rw [← List.length_eq_zero_iff, hn, ← List.length_map (f := Prod.fst), h]
        rfl
      subst htimes
      exact ⟨fun _ => Nat.zero_le 1, fun _ => ⟨[], rfl, List.nodup_nil⟩⟩
  | cons id rest =>
      obtain ⟨F, m, he, hm⟩ := hwf id (by rw [h]; exact List.mem_cons_self ..)
      exact distinctDeliveries_iff hnames hall h he hm times

end

/-! ### Two entries

The claim starts at the beginning of the stream each time, so the first entry is claimed over and
over.
-/

/-- The fields of a task. -/
def taskFields (taskId : String) : FieldMap :=
  [(.str "task_id", .str taskId), (.str "workflow_id", .str "w"), (.str "task_type", .str "COLLECT"),
   (.str "attempt", .str "1"), (.str "created_at", .str "2026-08-31T10:00:00.500000Z"),
   (.str "payload_reference", .str "ref")]

/-- Two delivered entries; neither is acknowledged. -/
def twoPending : RedisStream where
  entries := [(toLex (1, 0), taskFields "t1"), (toLex (2, 0), taskFields "t2")]
  lastId := toLex (2, 0)
  lastDelivered := toLex (2, 0)
  pending := [(toLex (1, 0), "worker-1"), (toLex (2, 0), "worker-1")]
  entries_sorted := by decide
  entries_le := by decide
  pending_sorted := by decide
  pending_le := by decide

theorem redeliverable_twoPending :
    ∀ id ∈ twoPending.pending.map Prod.fst, Redeliverable twoPending id := by
  have hdecode : ∀ taskId ∈ ["t1", "t2"], (decode (taskFields taskId)).isOk := by decide +kernel
  have hok : ∀ {F : FieldMap}, (decode F).isOk → ∃ m, decode F = .ok m := by
    intro F h
    cases hF : decode F with
    | error e => rw [hF] at h; exact absurd h (by simp [Except.isOk, Except.toBool])
    | ok m => exact ⟨m, rfl⟩
  intro id hid
  rcases List.mem_cons.mp hid with rfl | hid
  · obtain ⟨m, hm⟩ := hok (hdecode "t1" (by decide))
    exact ⟨_, m, rfl, hm⟩
  · rw [List.mem_singleton.mp hid]
    obtain ⟨m, hm⟩ := hok (hdecode "t2" (by decide))
    exact ⟨_, m, rfl, hm⟩

/-- Two calls return the first entry twice. -/
theorem second_starves : twoPending.undelivered = [] ∧
    (∀ id ∈ twoPending.pending.map Prod.fst, Redeliverable twoPending id) ∧
    ¬ DistinctDeliveries collectQueue "worker-1" [0, 1] twoPending := by
  refine ⟨by decide, redeliverable_twoPending, ?_⟩
  obtain ⟨F, m, he, hm⟩ := redeliverable_twoPending (toLex (1, 0)) (by decide)
  rw [distinctDeliveries_iff (by decide) (by decide) rfl he hm]
  decide

theorem redelivery_fair_iff_two :
    DistinctDeliveries collectQueue "worker-1" [0, 1] twoPending ↔ twoPending.pending.length ≤ 1 :=
  redelivery_fair_iff (by decide) (by decide) redeliverable_twoPending rfl

end TaskQueue

end CartoonDemo
