import CartoonDemo.Runtime.PublishRow

/-!
# CartoonDemo.Runtime.PublishBatch

**One batch, row by row**, from the outcomes of the calls (`BatchRun`), and when a row that fails
leaves the others alone.

The two retry loops translate queue errors and `RuntimeError` only. What `mark_published` raises
is a persistence error, and the dispatch hook is called outside of the loops: both leave
`_publish_batch` and take the rest of the batch with them (`batch_isolated_iff`).
-/

namespace CartoonDemo

open OutboxCall DefaultOutboxPublisherLoop

/-! ### The batch

The rows one after the other, each with its own outcomes.
-/

theorem filter_pending_map {outboxId : String} {v : OutboxEntry} (hv : v.status = .published)
    (rows : List OutboxEntry) :
    (rows.map (fun r => if r.outboxId = outboxId then v else r)).filter
        (fun e => e.status = .pending) =
      (rows.filter (fun e => e.status = .pending)).filter (fun x => x.outboxId ≠ outboxId) := by
  induction rows with
  | nil => rfl
  | cons r rest ih =>
      rw [List.map_cons]
      by_cases hid : r.outboxId = outboxId
      · rw [if_pos hid, List.filter_cons_of_neg (by simp [hv]), ih]
        by_cases hp : r.status = .pending
        · rw [List.filter_cons_of_pos (by simpa using hp), List.filter_cons_of_neg (by simpa using hid)]
        · rw [List.filter_cons_of_neg (by simpa using hp)]
      · rw [if_neg hid]
        by_cases hp : r.status = .pending
        · rw [List.filter_cons_of_pos (by simpa using hp), List.filter_cons_of_pos (by simpa using hp),
            List.filter_cons_of_pos (by simpa using hid), ih]
        · rw [List.filter_cons_of_neg (by simpa using hp), List.filter_cons_of_neg (by simpa using hp),
            ih]

/-- A marking takes its row from the unpublished ones. -/
theorem unpublished_markedStore (now : Time) (outboxId : String) (s : Store) :
    (markedStore now outboxId s).unpublished =
      s.unpublished.filter (fun x => x.outboxId ≠ outboxId) := by
  have hsame : (∀ e ∈ s.unpublished, e.outboxId ≠ outboxId) →
      s.unpublished = s.unpublished.filter (fun x => x.outboxId ≠ outboxId) := by
    intro h
    rw [List.filter_eq_self.mpr]
    intro e he
    simpa using h e he
  unfold markedStore markPublished
  cases hg : s.outbox.get? outboxId with
  | none =>
      refine hsame fun e he => ?_
      exact Table.get?_eq_none_iff.mp hg e (mem_unpublished.mp he).1
  | some row =>
      dsimp only
      by_cases hp : row.status = .published
      · rw [if_pos hp]
        refine hsame fun e he hid => ?_
        obtain ⟨hmem, hst⟩ := mem_unpublished.mp he
        have hget := Table.get?_of_mem hmem
        rw [show OutboxEntry.outboxId e = outboxId from hid, hg] at hget
        obtain rfl := Option.some.inj hget
        exact absurd (hp.symm.trans hst) (by simp)
      · rw [if_neg hp]
        have hany : s.outbox.rows.any (fun r => r.outboxId = row.outboxId) = true :=
          List.any_eq_true.mpr ⟨row, Table.mem_of_get? hg, by simp⟩
        unfold Store.unpublished Table.upsert Table.putRows
        dsimp only
        rw [if_pos hany, Table.key_of_get? hg]
        exact filter_pending_map rfl s.outbox.rows

section Batch

variable (outside : Outside) (tasks : Table TaskRecord.taskId)

/-- The rows that a batch gets to: up to the first one whose exception escapes. -/
def attempted : List OutboxEntry → List OutboxEntry
  | [] => []
  | e :: rest =>
      e :: if rowEnd outside tasks e = .escaped then [] else attempted rest

/-- The rows that a batch takes from the unpublished ones. -/
def landedIds (rows : List OutboxEntry) : List String :=
  ((attempted outside tasks rows).filter (rowLands outside tasks)).map OutboxEntry.outboxId

/-- The counts of a batch in which nothing escapes. -/
def countRows (result : OutboxPublishBatchResult) (rows : List OutboxEntry) :
    OutboxPublishBatchResult :=
  { result with
    publishedCount := result.publishedCount +
      rows.countP (fun e => rowEnd outside tasks e = .published)
    failedCount := result.failedCount + rows.countP (fun e => rowEnd outside tasks e = .failed) }

end Batch

/-- What a batch of rows comes to. -/
structure BatchRun (outside : Outside) (w : OutboxWorld) (result : OutboxPublishBatchResult)
    (rows : List OutboxEntry)
    (o : Proc.Outcome OutboxCall PublishException OutboxPublishBatchResult OutboxWorld) :
    Prop where
  tasks : o.world.store.tasks = w.store.tasks
  present : ∀ id, w.store.outbox.get? id ≠ none → o.world.store.outbox.get? id ≠ none
  unpublished : o.world.store.unpublished =
    w.store.unpublished.filter (fun x => x.outboxId ∉ landedIds outside w.store.tasks rows)
  called : ∀ e ∈ attempted outside w.store.tasks rows, .getTask e ∈ o.calls
  returned : (∀ e ∈ rows, rowEnd outside w.store.tasks e ≠ .escaped) →
    o.result = .ok (countRows outside w.store.tasks result rows)
  raised : ∀ e ∈ rows, rowEnd outside w.store.tasks e = .escaped → ∃ ex, o.result = .error ex

/-- The store after a row. -/
structure RowStore (outside : Outside) (e : OutboxEntry) (s s' : Store) : Prop where
  tasks : s'.tasks = s.tasks
  present : ∀ id, s.outbox.get? id ≠ none → s'.outbox.get? id ≠ none
  unpublished : s'.unpublished =
    s.unpublished.filter (fun x => !(rowLands outside s.tasks e && x.outboxId = e.outboxId))

theorem RowRun.rowStore {outside : Outside} {w : OutboxWorld} {e : OutboxEntry}
    {o : Proc.Outcome OutboxCall PublishException Unit OutboxWorld} (h : RowRun outside w e o) :
    RowStore outside e w.store o.world.store := by
  rw [h.store]
  cases hl : rowLands outside w.store.tasks e with
  | false =>
      refine ⟨rfl, fun _ h => h, ?_⟩
      rw [if_neg (by simp), hl]
      simp
  | true =>
      rw [if_pos rfl]
      refine ⟨?_, fun _ => markedStore_present, ?_⟩
      · rcases markedStore_cases (outside.markTime e) e.outboxId w.store with heq | hm
        · rw [heq]
        · rw [hm.same]
      · rw [unpublished_markedStore, hl]
        simp

theorem mem_landedIds_cons {outside : Outside} {tasks : Table TaskRecord.taskId}
    {e : OutboxEntry} {rest : List OutboxEntry} {id : String} :
    id ∈ landedIds outside tasks (e :: rest) ↔
      (rowLands outside tasks e = true ∧ id = e.outboxId) ∨
        (rowEnd outside tasks e ≠ .escaped ∧ id ∈ landedIds outside tasks rest) := by
  unfold landedIds
  rw [attempted]
  cases hl : rowLands outside tasks e <;> by_cases he : rowEnd outside tasks e = .escaped <;>
    simp [hl, he]

section Counts

variable (outside : Outside) (tasks : Table TaskRecord.taskId) (result : OutboxPublishBatchResult)

theorem countRows_cons (e : OutboxEntry) (rest : List OutboxEntry) :
    countRows outside tasks (countRows outside tasks result [e]) rest =
      countRows outside tasks result (e :: rest) := by
  have hsplit : ∀ p : OutboxEntry → Bool, ([e] ++ rest).countP p =
      [e].countP p + rest.countP p := fun p => List.countP_append
  simp only [List.singleton_append] at hsplit
  simp only [countRows, hsplit, Nat.add_assoc]

theorem countRows_published {e : OutboxEntry} (h : rowEnd outside tasks e = .published) :
    countRows outside tasks result [e] =
      { result with publishedCount := result.publishedCount + 1 } := by
  simp [countRows, h]

theorem countRows_failed {e : OutboxEntry} (h : rowEnd outside tasks e = .failed) :
    countRows outside tasks result [e] =
      { result with failedCount := result.failedCount + 1 } := by
  simp [countRows, h]

end Counts

section Cons

variable {outside : Outside} {w : OutboxWorld} {e : OutboxEntry} {rest : List OutboxEntry}
  {o₁ : Proc.Outcome OutboxCall PublishException Unit OutboxWorld}
  {o₂ : Proc.Outcome OutboxCall PublishException OutboxPublishBatchResult OutboxWorld}
  {result : OutboxPublishBatchResult}

/-- A row that does not escape, and the rest of the batch. -/
theorem BatchRun.cons (hrow : RowRun outside w e o₁)
    (hne : rowEnd outside w.store.tasks e ≠ .escaped)
    (hrest : BatchRun outside o₁.world (countRows outside w.store.tasks result [e]) rest o₂) :
    BatchRun outside w result (e :: rest) (o₂.after o₁.calls) := by
  have hstore := hrow.rowStore
  have htasks := hstore.tasks
  have hattempted : attempted outside w.store.tasks (e :: rest) =
      e :: attempted outside w.store.tasks rest := by rw [attempted, if_neg hne]
  refine ⟨hrest.tasks.trans htasks, fun id h => hrest.present id (hstore.present id h), ?_, ?_, ?_,
    ?_⟩
  · rw [Proc.Outcome.after_world, hrest.unpublished, hstore.unpublished, htasks, List.filter_filter]
    refine List.filter_congr fun x _ => ?_
    cases hl : rowLands outside w.store.tasks e <;> simp [mem_landedIds_cons, hl, hne, Bool.and_comm]
  · intro e' he'
    rw [hattempted] at he'
    rw [Proc.Outcome.after_calls]
    rcases List.mem_cons.mp he' with rfl | hmem
    · exact List.mem_append_left _ hrow.called
    · refine List.mem_append_right _ (hrest.called e' ?_)
      rw [htasks]
      exact hmem
  · intro hall
    rw [Proc.Outcome.after_result, hrest.returned ?_]
    · rw [htasks, countRows_cons]
    · intro e' he'
      rw [htasks]
      exact hall e' (by simp [he'])
  · intro e' he' hesc
    rw [Proc.Outcome.after_result]
    rcases List.mem_cons.mp he' with rfl | hmem
    · exact absurd hesc hne
    · refine hrest.raised e' hmem ?_
      rw [htasks]
      exact hesc

/-- A row whose exception escapes. -/
theorem BatchRun.escaped (hrow : RowRun outside w e o₁) {ex : PublishException}
    (hesc : rowEnd outside w.store.tasks e = .escaped) :
    BatchRun outside w result (e :: rest)
      { result := .error ex, world := o₁.world, calls := o₁.calls } := by
  have hstore := hrow.rowStore
  have hattempted : attempted outside w.store.tasks (e :: rest) = [e] := by
    rw [attempted, if_pos hesc]
  refine ⟨hstore.tasks, hstore.present, ?_, ?_, ?_, fun _ _ _ => ⟨ex, rfl⟩⟩
  · rw [hstore.unpublished]
    refine List.filter_congr fun x _ => ?_
    cases hl : rowLands outside w.store.tasks e <;> simp [mem_landedIds_cons, hl, hesc]
  · intro e' he'
    rw [hattempted, List.mem_singleton] at he'
    rw [he']
    exact hrow.called
  · intro hall
    exact absurd hesc (hall e (by simp))

end Cons

/-- **One batch.** -/
theorem publishRows_exec (outside : Outside) (result : OutboxPublishBatchResult)
    (rows : List OutboxEntry) {w : OutboxWorld}
    (hrows : ∀ e ∈ rows, w.store.outbox.get? e.outboxId ≠ none) :
    BatchRun outside w result rows ((publishRows result rows).exec outside.answer w) := by
  induction rows generalizing result w with
  | nil =>
      refine ⟨rfl, fun _ h => h, ?_, by simp [attempted], fun _ => rfl, by simp⟩
      simp [landedIds, attempted, publishRows]
  | cons e rest ih =>
      have hrow := publishRow_exec outside e (hrows e (by simp))
      have hattempt : (publishRow e).attempt.exec outside.answer w = _ :=
        Proc.exec_attempt (publishRow e) w
      rw [publishRows, Proc.exec_bind_ok (congrArg Proc.Outcome.result hattempt), hattempt]
      generalize (publishRow e).exec outside.answer w = o₁ at hrow
      have hpresent : ∀ e' ∈ rest, o₁.world.store.outbox.get? e'.outboxId ≠ none :=
        fun e' he' => hrow.rowStore.present _ (hrows e' (by simp [he']))
      dsimp only
      have hended := hrow.ended
      cases hres : o₁.result with
      | ok u =>
          rw [hres] at hended
          have hpublished : rowEnd outside w.store.tasks e = .published := hended.symm
          refine BatchRun.cons hrow (by simp [hpublished]) ?_
          rw [countRows_published _ _ _ hpublished]
          exact ih _ hpresent
      | error ex =>
          rw [hres] at hended
          change (if ex.counted then RowEnd.failed else .escaped) = _ at hended
          dsimp only
          cases hc : ex.counted with
          | true =>
              rw [hc] at hended
              have hfailed : rowEnd outside w.store.tasks e = .failed := hended.symm
              rw [if_pos rfl]
              refine BatchRun.cons hrow (by simp [hfailed]) ?_
              rw [countRows_failed _ _ _ hfailed]
              exact ih _ hpresent
          | false =>
              rw [hc] at hended
              have hescaped : BatchRun outside w result (e :: rest)
                  { result := .error ex, world := o₁.world, calls := o₁.calls } :=
                BatchRun.escaped hrow hended.symm
              rw [if_neg (by simp), Proc.exec_raise]
              simpa [Proc.Outcome.after] using hescaped

theorem fetched_present {tie : OutboxEntry → Nat} {limit : Nat} {s : Store} {e : OutboxEntry}
    (h : e ∈ fetchOldest tie limit s) : s.outbox.get? e.outboxId ≠ none := by
  rw [Table.get?_of_mem (mem_unpublished.mp (mem_fetchOldest h)).1]
  simp

section Fetching

variable (outside : Outside) (tie : OutboxEntry → Nat) (tasks : Table TaskRecord.taskId)

/-! The replies to the calls of a row do not depend on the order of the rows. -/

theorem fetching_row {c : OutboxCall} (h : ∀ n, c ≠ .fetchUnpublished n) :
    outside.fetching tie c = outside c := by
  cases c with
  | fetchUnpublished n => exact absurd rfl (h n)
  | _ => rfl

theorem enqueueFault_fetching :
    (outside.fetching tie).enqueueFault = outside.enqueueFault := by
  funext e m k
  unfold Outside.enqueueFault
  rw [fetching_row _ _ (by simp)]

theorem markTime_fetching : (outside.fetching tie).markTime = outside.markTime := by
  funext e
  unfold Outside.markTime
  rw [fetching_row _ _ (by simp)]

theorem markFault_fetching : (outside.fetching tie).markFault = outside.markFault := by
  funext e k
  unfold Outside.markFault
  rw [markTime_fetching, fetching_row _ _ (by simp)]

theorem markApplies_fetching : (outside.fetching tie).markApplies = outside.markApplies := by
  funext e k
  unfold Outside.markApplies
  rw [markTime_fetching, fetching_row _ _ (by simp)]

theorem rowEnd_fetching : rowEnd (outside.fetching tie) tasks = rowEnd outside tasks := by
  funext e
  unfold rowEnd sendEnd markEnd
  rw [fetching_row _ _ (by simp), fetching_row _ _ (by simp), enqueueFault_fetching,
    markFault_fetching]

theorem rowLands_fetching : rowLands (outside.fetching tie) tasks = rowLands outside tasks := by
  funext e
  unfold rowLands rowEnqueued
  rw [fetching_row _ _ (by simp), fetching_row _ _ (by simp), enqueueFault_fetching,
    markFault_fetching, markApplies_fetching]

theorem attempted_fetching (rows : List OutboxEntry) :
    attempted (outside.fetching tie) tasks rows = attempted outside tasks rows := by
  induction rows with
  | nil => rfl
  | cons e rest ih => rw [attempted, attempted, ih, rowEnd_fetching]

theorem landedIds_fetching (rows : List OutboxEntry) :
    landedIds (outside.fetching tie) tasks rows = landedIds outside tasks rows := by
  unfold landedIds
  rw [attempted_fetching, rowLands_fetching]

end Fetching

theorem countRows_fetching (outside : Outside) (tie : OutboxEntry → Nat)
    (tasks : Table TaskRecord.taskId) (result : OutboxPublishBatchResult)
    (rows : List OutboxEntry) :
    countRows (outside.fetching tie) tasks result rows = countRows outside tasks result rows := by
  unfold countRows
  rw [rowEnd_fetching]

/-- **A batch over the fetched rows.** -/
theorem runBatch_run (tie : OutboxEntry → Nat) (outside : Outside) (batchSize : Nat)
    (w : OutboxWorld) :
    BatchRun outside w { fetchedCount := (fetchOldest tie batchSize w.store).length }
      (fetchOldest tie batchSize w.store) (runBatch tie outside batchSize w) := by
  have hfetch := exec_request (outside.fetching tie) (.fetchUnpublished batchSize) w
  have hrun := publishRows_exec (outside.fetching tie)
    { fetchedCount := (fetchOldest tie batchSize w.store).length }
    (fetchOldest tie batchSize w.store) (fun e he => fetched_present he)
  rw [show (outside.fetching tie).answer (.fetchUnpublished batchSize) w =
    (.ok (fetchOldest tie batchSize w.store), w) from rfl] at hfetch
  unfold runBatch publishBatch
  rw [Proc.bind_eq, Proc.exec_bind_ok (congrArg Proc.Outcome.result hfetch), hfetch]
  obtain ⟨htasks, hpresent, hunpublished, hcalled, hreturned, hraised⟩ := hrun
  simp only [rowEnd_fetching, attempted_fetching, landedIds_fetching, countRows_fetching]
    at hunpublished hcalled hreturned hraised
  exact ⟨htasks, hpresent, hunpublished, fun e he => List.mem_append_right _ (hcalled e he),
    hreturned, hraised⟩

/-! ### Isolation -/

section Isolation

variable (tie : OutboxEntry → Nat) (outside : Outside) (batchSize : Nat) (w : OutboxWorld)

/-- A row that is published after the batch. -/
def PublishedAfter (e : OutboxEntry) : Prop :=
  ∃ row ∈ (runBatch tie outside batchSize w).world.store.outbox.rows,
    row.outboxId = e.outboxId ∧ row.status = .published

/-- One bad row does not stop the others. -/
structure Isolated : Prop where
  returns : ∃ result, (runBatch tie outside batchSize w).result = .ok result ∧
    result.fetchedCount = (fetchOldest tie batchSize w.store).length ∧
    result.publishedCount + result.failedCount + result.skippedCount = result.fetchedCount
  attempts : ∀ e ∈ fetchOldest tie batchSize w.store,
    .getTask e ∈ (runBatch tie outside batchSize w).calls
  /-- Exactly the fetched rows whose `enqueue` and `mark_published` succeed within the retry
  schedule are published. -/
  publishes : ∀ e ∈ w.store.unpublished, PublishedAfter tie outside batchSize w e ↔
    e ∈ fetchOldest tie batchSize w.store ∧ rowLands outside w.store.tasks e = true

/-- The message of the row is built. -/
def Built (tasks : Table TaskRecord.taskId) (e : OutboxEntry) (m : TaskMessage) : Prop :=
  (outside (.getTask e)).fault = none ∧
    ∃ task, tasks.get? e.taskId = some task ∧ m = OutboxMessageBuilder.message e task

/-- No exception of the row leaves the batch. What the outside raises is counted only if it is
one of the publisher's own two classes, which nothing outside raises. -/
structure Contained (tasks : Table TaskRecord.taskId) (e : OutboxEntry) : Prop where
  task : ∀ b ex, (outside (.getTask e)).fault = some (b, ex) → ex.counted = true
  hook : ∀ m, Built outside tasks e m → ∀ b ex,
    (outside (.invokeIfActive e)).fault = some (b, ex) → ex.counted = true
  /-- The first attempt to enqueue that does not end in a retried error. -/
  enqueue : ∀ m, Built outside tasks e m → (outside (.invokeIfActive e)).fault = none → ∀ ex,
    settled (outside.enqueueFault e m) retrySchedule = some (some ex) →
      ex.counted = true ∨ ∃ msg, ex = .invalidTaskMessage msg
  /-- The first attempt to mark that does not end in a retried error. -/
  mark : ∀ m, Built outside tasks e m → (outside (.invokeIfActive e)).fault = none →
    settled (outside.enqueueFault e m) retrySchedule = some none → ∀ ex,
      settled (outside.markFault e) retrySchedule = some (some ex) → ex.counted = true

end Isolation

theorem RowEnd.ofException_ne_escaped {ex : PublishException} :
    RowEnd.ofException ex ≠ .escaped ↔ ex.counted = true := by
  unfold RowEnd.ofException
  cases ex.counted <;> simp

theorem RowEnd.ofEnqueue_ne_escaped {ex : PublishException} :
    RowEnd.ofEnqueue ex ≠ .escaped ↔ ex.counted = true ∨ ∃ msg, ex = .invalidTaskMessage msg := by
  cases ex <;> simp [RowEnd.ofEnqueue, RowEnd.ofException, PublishException.counted]

/-- What follows the message of the row is contained. -/
theorem sendEnd_ne_escaped {outside : Outside} {e : OutboxEntry} {m : TaskMessage} :
    sendEnd outside e m ≠ .escaped ↔
      (∀ b ex, (outside (.invokeIfActive e)).fault = some (b, ex) → ex.counted = true) ∧
      ((outside (.invokeIfActive e)).fault = none →
        (∀ ex, settled (outside.enqueueFault e m) retrySchedule = some (some ex) →
          ex.counted = true ∨ ∃ msg, ex = .invalidTaskMessage msg) ∧
        (settled (outside.enqueueFault e m) retrySchedule = some none → ∀ ex,
          settled (outside.markFault e) retrySchedule = some (some ex) → ex.counted = true)) := by
  unfold sendEnd markEnd
  cases (outside (.invokeIfActive e)).fault with
  | some fault =>
      obtain ⟨b, ex⟩ := fault
      simp [RowEnd.ofException_ne_escaped]
  | none =>
      cases settled (outside.enqueueFault e m) retrySchedule with
      | none => simp
      | some enqueued =>
          cases enqueued with
          | some ex => simp [RowEnd.ofEnqueue_ne_escaped]
          | none =>
              cases settled (outside.markFault e) retrySchedule with
              | none => simp
              | some marked =>
                  cases marked with
                  | none => simp
                  | some ex => simp [RowEnd.ofException_ne_escaped]

theorem contained_iff {outside : Outside} {tasks : Table TaskRecord.taskId} {e : OutboxEntry} :
    Contained outside tasks e ↔
      (∀ b ex, (outside (.getTask e)).fault = some (b, ex) → ex.counted = true) ∧
      ∀ m, Built outside tasks e m → sendEnd outside e m ≠ .escaped := by
  constructor
  · intro h
    refine ⟨h.task, fun m hm => sendEnd_ne_escaped.mpr ⟨h.hook m hm, fun hhook => ?_⟩⟩
    exact ⟨h.enqueue m hm hhook, h.mark m hm hhook⟩
  · intro h
    have hsend := fun m hm => sendEnd_ne_escaped.mp (h.2 m hm)
    exact ⟨h.1, fun m hm => (hsend m hm).1, fun m hm hhook => ((hsend m hm).2 hhook).1,
      fun m hm hhook => ((hsend m hm).2 hhook).2⟩

/-- **A row is contained exactly if its exception, if any, is counted.** -/
theorem rowEnd_ne_escaped {outside : Outside} {tasks : Table TaskRecord.taskId}
    {e : OutboxEntry} : rowEnd outside tasks e ≠ .escaped ↔ Contained outside tasks e := by
  rw [contained_iff]
  unfold rowEnd Built
  cases (outside (.getTask e)).fault with
  | some fault =>
      obtain ⟨b, ex⟩ := fault
      simp [RowEnd.ofException_ne_escaped]
  | none =>
      cases tasks.get? e.taskId with
      | none => simp
      | some task => simp

theorem outbox_status_cases (st : OutboxStatus) : st = .pending ∨ st = .published := by
  cases st
  · exact Or.inl rfl
  · exact Or.inr rfl

/-- A row that was in the table is published after the batch exactly if it is not among the
unpublished ones. -/
theorem publishedAfter_iff {tie : OutboxEntry → Nat} {outside : Outside} {batchSize : Nat}
    {w : OutboxWorld} {e : OutboxEntry} (he : e ∈ w.store.unpublished) :
    PublishedAfter tie outside batchSize w e ↔
      e.outboxId ∈ landedIds outside w.store.tasks (fetchOldest tie batchSize w.store) := by
  have hrun := runBatch_run tie outside batchSize w
  obtain ⟨hmem, -⟩ := mem_unpublished.mp he
  constructor
  · intro h
    obtain ⟨row, hrow, hid, hst⟩ := h
    by_contra hnot
    -- the row would still be unpublished, under the same key
    have hkept : e ∈ (runBatch tie outside batchSize w).world.store.unpublished := by
      rw [hrun.unpublished]
      exact List.mem_filter.mpr ⟨he, by simpa using hnot⟩
    obtain ⟨hmem', hst'⟩ := mem_unpublished.mp hkept
    obtain rfl := Table.eq_of_key_eq _ hrow hmem' hid
    exact absurd (hst.symm.trans hst') (by simp)
  · intro hlanded
    have hget := hrun.present e.outboxId (by rw [Table.get?_of_mem hmem]; simp)
    obtain ⟨row, hrow⟩ := Option.ne_none_iff_exists'.mp hget
    obtain ⟨hrowmem, hid⟩ := Table.get?_eq_some_iff.mp hrow
    refine ⟨row, hrowmem, hid, ?_⟩
    rcases outbox_status_cases row.status with hp | hp
    · have hin : row ∈ (runBatch tie outside batchSize w).world.store.unpublished :=
        mem_unpublished.mpr ⟨hrowmem, hp⟩
      rw [hrun.unpublished] at hin
      have hnot := (List.mem_filter.mp hin).2
      rw [show row.outboxId = e.outboxId from hid] at hnot
      exact absurd hlanded (by simpa using hnot)
    · exact hp

/-- Without escapes the batch gets to every row. -/
theorem attempted_eq_self {outside : Outside} {tasks : Table TaskRecord.taskId}
    {rows : List OutboxEntry} (h : ∀ e ∈ rows, rowEnd outside tasks e ≠ .escaped) :
    attempted outside tasks rows = rows := by
  induction rows with
  | nil => rfl
  | cons e rest ih =>
      rw [attempted, if_neg (h e (by simp)), ih (fun e' he' => h e' (by simp [he']))]

theorem countP_ends {outside : Outside} {tasks : Table TaskRecord.taskId}
    {rows : List OutboxEntry} (h : ∀ e ∈ rows, rowEnd outside tasks e ≠ .escaped) :
    rows.countP (fun e => rowEnd outside tasks e = .published) +
      rows.countP (fun e => rowEnd outside tasks e = .failed) = rows.length := by
  induction rows with
  | nil => rfl
  | cons e rest ih =>
      have hrest := ih (fun e' he' => h e' (by simp [he']))
      have he := h e (by simp)
      rw [List.countP_cons, List.countP_cons, List.length_cons]
      cases hend : rowEnd outside tasks e with
      | published => simp only [decide_true, reduceCtorEq, decide_false]; simp; omega
      | failed => simp only [decide_true, reduceCtorEq, decide_false]; simp; omega
      | escaped => exact absurd hend he

/-- **One bad row does not stop the others exactly if no exception escapes.** -/
theorem batch_isolated_iff (tie : OutboxEntry → Nat) (outside : Outside) (batchSize : Nat)
    (w : OutboxWorld) :
    Isolated tie outside batchSize w ↔
      ∀ e ∈ fetchOldest tie batchSize w.store, Contained outside w.store.tasks e := by
  have hrun := runBatch_run tie outside batchSize w
  constructor
  · intro h e he
    refine rowEnd_ne_escaped.mp fun hesc => ?_
    obtain ⟨result, hok, -⟩ := h.returns
    obtain ⟨ex, hex⟩ := hrun.raised e he hesc
    exact absurd (hok.symm.trans hex) (by simp)
  · intro h
    have hends : ∀ e ∈ fetchOldest tie batchSize w.store,
        rowEnd outside w.store.tasks e ≠ .escaped := fun e he => rowEnd_ne_escaped.mpr (h e he)
    have hall := attempted_eq_self hends
    refine ⟨⟨_, hrun.returned hends, rfl, ?_⟩, ?_, ?_⟩
    · simpa [countRows] using countP_ends hends
    · intro e he
      exact hrun.called e (by rw [hall]; exact he)
    · intro e he
      rw [publishedAfter_iff he]
      unfold landedIds
      rw [hall, List.mem_map]
      constructor
      · intro hlanded
        obtain ⟨row, hrow, hid⟩ := hlanded
        obtain ⟨hfetched, hlands⟩ := List.mem_filter.mp hrow
        -- the fetched row under this key is the row itself
        have hmem := (mem_unpublished.mp (mem_fetchOldest hfetched)).1
        obtain rfl := Table.eq_of_key_eq _ hmem (mem_unpublished.mp he).1 hid
        exact ⟨hfetched, hlands⟩
      · intro hlanded
        exact ⟨e, List.mem_filter.mpr hlanded, rfl⟩

/-! ### A persistence error -/

def sampleTask (taskId : String) : TaskRecord :=
  { taskId := taskId, workflowId := "wf", taskType := .collect, status := .pending, attempt := 1,
    payloadReference := { refId := taskId, refKind := taskPayloadRefKind }, idempotencyKey := taskId,
    createdAt := 0, updatedAt := 0 }

def sampleRow (taskId : String) : OutboxInsertSpec :=
  { workflowId := "wf", taskId := taskId, taskType := .collect,
    payloadReference := { refId := taskId, refKind := taskPayloadRefKind }, idempotencyKey := taskId }

/-- Two unpublished rows. -/
def twoRows : OutboxWorld :=
  { store := insertOutbox 1 "row-2" (sampleRow "task-2") (insertOutbox 0 "row-1" (sampleRow "task-1")
      { tasks := (Table.empty.upsert (sampleTask "task-1")).upsert (sampleTask "task-2") }) }

/-- The database is not reached when the first row is marked. -/
def markRefused : Outside
  | .markPublished e _ _ =>
      if e.outboxId = "row-1" then
        { fault := some (false, .other "PersistenceConnectionError"
            "Persistence connection error during mark_published") }
      else {}
  | _ => {}

/-- The second row is not even attempted. -/
theorem markRefused_not_isolated : ¬ Isolated (fun _ => 0) markRefused 10 twoRows := by
  intro h
  have hraised : (runBatch (fun _ => 0) markRefused 10 twoRows).result.isOk = false := by
    decide +kernel
  obtain ⟨result, hok, -⟩ := h.returns
  rw [hok] at hraised
  exact absurd hraised (by simp [Except.isOk, Except.toBool])

end CartoonDemo
