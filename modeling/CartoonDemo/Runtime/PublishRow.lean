import CartoonDemo.Runtime.PublishSafety

/-!
# CartoonDemo.Runtime.PublishRow

**One row of a batch.** A publisher runs alone and the outcome of each of its calls is given in
advance (`Outside`). `rowEnd` computes from these outcomes how the `try` block of a row ends, and
`rowLands` whether the row gets its mark; the code does this (`publishRow_exec`).
-/

namespace CartoonDemo

open OutboxCall DefaultOutboxPublisherLoop

/-! ### Outcomes given in advance -/

/-- The reply to every call. -/
abbrev Outside := OutboxCall → Reply

/-- What a call does with its reply. -/
def Outside.answer (outside : Outside) (c : OutboxCall) (w : OutboxWorld) :
    Except PublishException c.Answer × OutboxWorld :=
  OutboxCall.answer c (outside c) w

/-- The rows are fetched, in the order `tie` among those of the same time. -/
def Outside.fetching (outside : Outside) (tie : OutboxEntry → Nat) : Outside
  | .fetchUnpublished _ => { tie := tie }
  | c => outside c

/-- A batch that runs alone. -/
def runBatch (tie : OutboxEntry → Nat) (outside : Outside) (batchSize : Nat) (w : OutboxWorld) :
    Proc.Outcome OutboxCall PublishException OutboxPublishBatchResult OutboxWorld :=
  (publishBatch batchSize).exec (outside.fetching tie).answer w

namespace Outside

variable (outside : Outside)

/-- What an attempt to enqueue raises. -/
def enqueueFault (e : OutboxEntry) (m : TaskMessage) (k : Nat) : Option PublishException :=
  match missingFields m with
  | [] => (outside (.enqueue e (resolveOutboxStream e) m k)).fault.map Prod.snd
  | missing => some (invalidFields missing)

/-- The time that a row is marked with. -/
def markTime (e : OutboxEntry) : Time := (outside (.clock e)).now

/-- What an attempt to mark raises. -/
def markFault (e : OutboxEntry) (k : Nat) : Option PublishException :=
  (outside (.markPublished e (outside.markTime e) k)).fault.map Prod.snd

/-- Whether an attempt to mark takes effect. -/
def markApplies (e : OutboxEntry) (k : Nat) : Bool :=
  match (outside (.markPublished e (outside.markTime e) k)).fault with
  | none => true
  | some (applied, _) => applied

end Outside

/-- The first attempt that does not end in an error that is retried: `none` if there is none,
`some none` if it returns. -/
def settled (fault : Nat → Option PublishException) : List Nat → Option (Option PublishException)
  | [] => none
  | k :: rest =>
      match fault k with
      | none => some none
      | some e => if e.retried then settled fault rest else some (some e)

/-- One of the attempts that are made takes effect. -/
def lands (fault : Nat → Option PublishException) (applies : Nat → Bool) : List Nat → Bool
  | [] => false
  | k :: rest =>
      applies k ||
        match fault k with
        | none => false
        | some e => e.retried && lands fault applies rest

/-- How the `try` block of a row ends. -/
inductive RowEnd
  | published
  /-- Counted in `failed_count`. -/
  | failed
  /-- The exception leaves `_publish_batch`. -/
  | escaped
  deriving DecidableEq, Repr

/-- How the `except` clauses of `_publish_batch` take an exception. -/
def RowEnd.ofException (e : PublishException) : RowEnd := if e.counted then .failed else .escaped

def RowEnd.ofResult {α : Type} : Except PublishException α → RowEnd
  | .ok _ => .published
  | .error e => .ofException e

/-- The end of the row when the loop of `_enqueue_with_retry` ends with an exception. -/
def RowEnd.ofEnqueue : PublishException → RowEnd
  | .invalidTaskMessage _ => .failed
  | e => .ofException e

section Row

variable (outside : Outside) (tasks : Table TaskRecord.taskId) (e : OutboxEntry)

/-- How the row ends after its `enqueue` has returned. -/
def markEnd : RowEnd :=
  match settled (outside.markFault e) retrySchedule with
  | none => .failed
  | some none => .published
  | some (some ex) => .ofException ex

/-- How the row ends once its message is built. -/
def sendEnd (m : TaskMessage) : RowEnd :=
  match (outside (.invokeIfActive e)).fault with
  | some (_, ex) => .ofException ex
  | none =>
      match settled (outside.enqueueFault e m) retrySchedule with
      | none => .failed
      | some none => markEnd outside e
      | some (some ex) => .ofEnqueue ex

/-- How the row ends. -/
def rowEnd : RowEnd :=
  match (outside (.getTask e)).fault with
  | some (_, ex) => .ofException ex
  | none =>
      match tasks.get? e.taskId with
      | none => .failed
      | some task => sendEnd outside e (OutboxMessageBuilder.message e task)

/-- The message of the row is enqueued. -/
def rowEnqueued : Bool :=
  (outside (.getTask e)).fault.isNone && (outside (.invokeIfActive e)).fault.isNone &&
    (tasks.get? e.taskId).any fun task =>
      settled (outside.enqueueFault e (OutboxMessageBuilder.message e task)) retrySchedule =
        some none

/-- The row is marked as published: its `enqueue` returns, and one of the attempts to mark it
takes effect. -/
def rowLands : Bool :=
  rowEnqueued outside tasks e && lands (outside.markFault e) (outside.markApplies e) retrySchedule

end Row

/-! ### The retry loops

A loop ends with its first success or with its last failure, or with an exception that it does not
translate.
-/

/-- A result that is an exception or nothing. -/
def raised : Option PublishException → Except PublishException Unit
  | none => .ok ()
  | some ex => .error ex

theorem answer_enqueue (outside : Outside) (e : OutboxEntry) (m : TaskMessage) (k : Nat)
    (w : OutboxWorld) :
    ∃ w', outside.answer (.enqueue e (resolveOutboxStream e) m k) w =
      (raised (outside.enqueueFault e m k), w') ∧ w'.store = w.store := by
  unfold Outside.answer answer answerEnqueue Outside.enqueueFault
  dsimp only
  cases missingFields m with
  | nil =>
      cases (outside (.enqueue e (resolveOutboxStream e) m k)).fault with
      | none => exact ⟨_, rfl, rfl⟩
      | some fault =>
          obtain ⟨applied, ex⟩ := fault
          refine ⟨_, rfl, ?_⟩
          cases applied <;> rfl
  | cons field rest => exact ⟨_, rfl, rfl⟩

/-- How the loop of `_enqueue_with_retry` ends, by its first settled attempt. -/
def EnqueueEnds (e : OutboxEntry) (settled : Option (Option PublishException))
    (result : Except PublishException OutboxPublishFrame) : Prop :=
  match settled with
  | none => ∃ msg, result = .error (.transient msg)
  | some none => ∃ f, result = .ok f ∧ f.entry = e
  | some (some ex) => ∃ ex', result = .error ex' ∧ RowEnd.ofException ex' = RowEnd.ofEnqueue ex

theorem enqueueLoop_exec (outside : Outside) (m : TaskMessage) (attempts : List Nat)
    {frame : OutboxPublishFrame} {e : OutboxEntry} (w : OutboxWorld) (hentry : frame.entry = e)
    (hstream : frame.stream = resolveOutboxStream e) :
    ((enqueueLoop m frame attempts).exec outside.answer w).world.store = w.store ∧
      EnqueueEnds e (settled (outside.enqueueFault e m) attempts)
        ((enqueueLoop m frame attempts).exec outside.answer w).result := by
  induction attempts generalizing frame w with
  | nil => exact ⟨rfl, _, rfl⟩
  | cons k rest ih =>
      obtain ⟨_, _, message, n, n', last⟩ := frame
      obtain rfl : e = _ := hentry.symm
      obtain rfl : resolveOutboxStream e = _ := hstream.symm
      obtain ⟨w', hanswer, hstore⟩ := answer_enqueue outside e m k w
      rw [enqueueLoop, Proc.exec_call, Proc.Outcome.after_world, Proc.Outcome.after_result, settled]
      dsimp only
      rw [hanswer]
      cases hf : outside.enqueueFault e m k with
      | none => exact ⟨hstore, _, rfl, rfl⟩
      | some ex =>
          cases ex with
          | invalidTaskMessage msg => exact ⟨hstore, _, rfl, rfl⟩
          | taskQueueConnection msg | taskQueueUnavailable msg | runtime c msg =>
              rw [← hstore]
              exact ih w' rfl rfl
          | permanent msg | transient msg | other c msg => exact ⟨hstore, _, rfl, rfl⟩

theorem markedStore_idem (now : Time) (outboxId : String) (s : Store) :
    markedStore now outboxId (markedStore now outboxId s) = markedStore now outboxId s := by
  rcases markedStore_cases now outboxId s with heq | hm
  · rw [heq, heq]
  · obtain ⟨e, now', hg, hout⟩ := hm.outbox
    -- the second marking finds the row published
    have hmem : { e with status := .published, publishedAt := some now' } ∈
        (markedStore now outboxId s).outbox.rows := by
      rw [hout]
      exact Table.mem_upsert.mpr (Or.inl rfl)
    have hagain := markPublished_published hmem rfl now
    change markPublished now e.outboxId _ = _ at hagain
    rw [Table.key_of_get? hg] at hagain
    conv_lhs => rw [markedStore, hagain]

/-- A row that is in the table stays there. -/
theorem markedStore_present {now : Time} {outboxId id : String} {s : Store}
    (h : s.outbox.get? id ≠ none) : (markedStore now outboxId s).outbox.get? id ≠ none := by
  obtain ⟨e, he⟩ := Option.ne_none_iff_exists'.mp h
  obtain ⟨hmem, rfl⟩ := Table.get?_eq_some_iff.mp he
  rcases markedStore_keeps hmem with hkept | ⟨-, e', hkept, heq⟩
  · rw [Table.get?_of_mem hkept]
    simp
  · have hsame : e'.identity.outboxId = e.identity.outboxId := by rw [heq]
    have hget := Table.get?_of_mem hkept
    change (markedStore now outboxId s).outbox.get? e.identity.outboxId ≠ none
    rw [← hsame]
    change (markedStore now outboxId s).outbox.get? e'.outboxId ≠ none
    rw [hget]
    simp

theorem answer_mark (outside : Outside) (e : OutboxEntry) (k : Nat) {w : OutboxWorld}
    (hrow : w.store.outbox.get? e.outboxId ≠ none) :
    outside.answer (.markPublished e (outside.markTime e) k) w =
      (raised (outside.markFault e k),
        if outside.markApplies e k then
          { w with store := markedStore (outside.markTime e) e.outboxId w.store }
        else w) := by
  unfold Outside.answer answer answerMark Outside.markFault Outside.markApplies
  dsimp only
  cases (outside (.markPublished e (outside.markTime e) k)).fault with
  | some fault => rfl
  | none =>
      obtain ⟨row, hget⟩ := Option.ne_none_iff_exists'.mp hrow
      have hok : ∃ s', markPublished (outside.markTime e) e.outboxId w.store = .ok s' := by
        unfold markPublished
        rw [hget]
        dsimp only
        split <;> exact ⟨_, rfl⟩
      obtain ⟨s', hs'⟩ := hok
      have hmarked : markedStore (outside.markTime e) e.outboxId w.store = s' := by
        unfold markedStore
        rw [hs']
      rw [hs', hmarked]
      rfl

/-- How the loop of `_mark_published_with_retry` ends, by its first settled attempt. -/
def MarkEnds (settled : Option (Option PublishException))
    (result : Except PublishException Unit) : Prop :=
  match settled with
  | none => ∃ msg, result = .error (.transient msg)
  | some ex => result = raised ex

/-- The store after the attempts to mark a row. -/
def marksStore (outside : Outside) (e : OutboxEntry) (attempts : List Nat) (s : Store) : Store :=
  if lands (outside.markFault e) (outside.markApplies e) attempts then
    markedStore (outside.markTime e) e.outboxId s
  else s

/-- Marks that follow a mark change nothing. -/
theorem marksStore_marked (outside : Outside) (e : OutboxEntry) (attempts : List Nat)
    (s : Store) :
    marksStore outside e attempts (markedStore (outside.markTime e) e.outboxId s) =
      markedStore (outside.markTime e) e.outboxId s := by
  unfold marksStore
  split
  · exact markedStore_idem ..
  · rfl

theorem markLoop_exec (outside : Outside) (attempts : List Nat) {frame : OutboxPublishFrame}
    {e : OutboxEntry} {w : OutboxWorld} (hentry : frame.entry = e)
    (hrow : w.store.outbox.get? e.outboxId ≠ none) :
    ((markLoop (outside.markTime e) frame attempts).exec outside.answer w).world.store =
        marksStore outside e attempts w.store ∧
      MarkEnds (settled (outside.markFault e) attempts)
        ((markLoop (outside.markTime e) frame attempts).exec outside.answer w).result := by
  induction attempts generalizing frame w with
  | nil => exact ⟨rfl, _, rfl⟩
  | cons k rest ih =>
      obtain ⟨_, stream, message, n, n', last⟩ := frame
      obtain rfl : e = _ := hentry.symm
      rw [markLoop, Proc.exec_call, Proc.Outcome.after_world, Proc.Outcome.after_result, settled]
      dsimp only
      rw [answer_mark outside e k hrow]
      unfold marksStore
      rw [lands]
      cases hf : outside.markFault e k with
      | none =>
          cases outside.markApplies e k <;> exact ⟨rfl, rfl⟩
      | some ex =>
          cases hretried : ex.retried with
          | false =>
              simp only [raised, hretried, Bool.false_eq_true, if_false, Bool.false_and]
              cases outside.markApplies e k <;> exact ⟨rfl, rfl⟩
          | true =>
              simp only [raised, hretried, if_true, Bool.true_and]
              cases outside.markApplies e k with
              | false => exact ih rfl hrow
              | true =>
                  -- the attempts that follow find the row published
                  let w' : OutboxWorld :=
                    { w with store := markedStore (outside.markTime e) e.outboxId w.store }
                  have hpresent : w'.store.outbox.get? e.outboxId ≠ none :=
                    markedStore_present hrow
                  have hrest := fun (f : OutboxPublishFrame) (hf : f.entry = e) => ih hf hpresent
                  refine ⟨(hrest _ rfl).1.trans ?_, (hrest _ rfl).2⟩
                  exact marksStore_marked outside e rest w.store

/-! ### One row

The calls of a row, and what is left of it.
-/

theorem exec_request (outside : Outside) (c : OutboxCall) (w : OutboxWorld) :
    (PublishProc.request c).exec outside.answer w =
      { result := (outside.answer c w).1, world := (outside.answer c w).2, calls := [c] } := by
  unfold PublishProc.request Proc.request
  rw [Proc.exec_call]
  cases (outside.answer c w).1 <;> rfl

theorem read_none {α : Type} {r : Reply} (h : r.fault = none) (a : α) (w : OutboxWorld) :
    r.read a w = (.ok a, w) := by
  unfold OutboxCall.Reply.read
  rw [h]

theorem read_some {α : Type} {r : Reply} {b : Bool} {ex : PublishException}
    (h : r.fault = some (b, ex)) (a : α) (w : OutboxWorld) : r.read a w = (.error ex, w) := by
  unfold OutboxCall.Reply.read
  rw [h]

/-- `_mark_published_with_retry`. -/
theorem markPublishedWithRetry_exec (outside : Outside) {frame : OutboxPublishFrame}
    {e : OutboxEntry} {w : OutboxWorld} (hentry : frame.entry = e)
    (hrow : w.store.outbox.get? e.outboxId ≠ none) :
    ((markPublishedWithRetry frame).exec outside.answer w).world.store =
        marksStore outside e retrySchedule w.store ∧
      RowEnd.ofResult ((markPublishedWithRetry frame).exec outside.answer w).result =
        markEnd outside e := by
  have hclock : ((PublishProc.request (.clock frame.entry)).exec outside.answer w) =
      { result := .ok (outside.markTime e), world := w, calls := [.clock frame.entry] } := by
    rw [exec_request, hentry]
    rfl
  unfold markPublishedWithRetry
  rw [Proc.bind_eq, Proc.exec_bind_ok (congrArg Proc.Outcome.result hclock), hclock]
  obtain ⟨hstore, hend⟩ := markLoop_exec outside retrySchedule hentry hrow
  refine ⟨hstore, ?_⟩
  rw [Proc.Outcome.after_result]
  unfold markEnd
  revert hend
  cases settled (outside.markFault e) retrySchedule with
  | none =>
      intro hend
      obtain ⟨msg, hres⟩ := hend
      rw [hres]
      rfl
  | some ex =>
      intro hend
      rw [show _ = raised ex from hend]
      cases ex <;> rfl

/-- The `try` block after the message is built. -/
def sendRow (e : OutboxEntry) (m : TaskMessage) : PublishProc Unit :=
  (PublishProc.request (.invokeIfActive e)).bind fun _ =>
    (enqueueWithRetry { entry := e, stream := resolveOutboxStream e, message := some m }).bind
      markPublishedWithRetry

/-- The message is enqueued, if it is built. -/
def sendEnqueued (outside : Outside) (e : OutboxEntry) (m : TaskMessage) : Bool :=
  (outside (.invokeIfActive e)).fault.isNone &&
    settled (outside.enqueueFault e m) retrySchedule = some none

theorem sendRow_exec (outside : Outside) (e : OutboxEntry) (m : TaskMessage) {w : OutboxWorld}
    (hrow : w.store.outbox.get? e.outboxId ≠ none) :
    RowEnd.ofResult ((sendRow e m).exec outside.answer w).result = sendEnd outside e m ∧
      ((sendRow e m).exec outside.answer w).world.store =
        if sendEnqueued outside e m then marksStore outside e retrySchedule w.store
        else w.store := by
  have hhook := exec_request outside (.invokeIfActive e) w
  unfold sendRow sendEnd sendEnqueued
  cases hf : (outside (.invokeIfActive e)).fault with
  | some fault =>
      obtain ⟨b, ex⟩ := fault
      rw [show outside.answer (.invokeIfActive e) w = (.error ex, w) from read_some hf () w] at hhook
      rw [Proc.exec_bind_error (congrArg Proc.Outcome.result hhook), hhook]
      exact ⟨rfl, rfl⟩
  | none =>
      rw [show outside.answer (.invokeIfActive e) w = (.ok (), w) from read_none hf () w] at hhook
      rw [Proc.exec_bind_ok (congrArg Proc.Outcome.result hhook), hhook,
        Proc.Outcome.after_result, Proc.Outcome.after_world]
      dsimp only
      let frame : OutboxPublishFrame :=
        { entry := e, stream := resolveOutboxStream e, message := some m }
      obtain ⟨hstore, hend⟩ := enqueueLoop_exec outside m retrySchedule w
        (show frame.entry = e from rfl) rfl
      rw [show enqueueWithRetry { entry := e, stream := resolveOutboxStream e, message := some m } =
        enqueueLoop m frame retrySchedule from rfl]
      revert hend
      cases settled (outside.enqueueFault e m) retrySchedule with
      | none =>
          intro hend
          obtain ⟨msg, hres⟩ := hend
          rw [Proc.exec_bind_error hres, if_neg (by simp)]
          dsimp only
          exact ⟨rfl, hstore⟩
      | some settledEx =>
          cases settledEx with
          | some ex =>
              intro hend
              obtain ⟨ex', hres, hex⟩ := hend
              rw [Proc.exec_bind_error hres, if_neg (by simp)]
              dsimp only [RowEnd.ofResult]
              exact ⟨hex, hstore⟩
          | none =>
              intro hend
              obtain ⟨f, hres, hentry⟩ := hend
              rw [Proc.exec_bind_ok hres, Proc.Outcome.after_result, Proc.Outcome.after_world,
                if_pos (by simp)]
              rw [← hstore] at hrow
              obtain ⟨hmark, hmarkEnd⟩ := markPublishedWithRetry_exec outside hentry hrow
              refine ⟨hmarkEnd, ?_⟩
              rw [hstore] at hmark
              exact hmark

/-- What a row comes to: how it ends, and what is left in the store. -/
structure RowRun (outside : Outside) (w : OutboxWorld) (e : OutboxEntry)
    (o : Proc.Outcome OutboxCall PublishException Unit OutboxWorld) : Prop where
  ended : RowEnd.ofResult o.result = rowEnd outside w.store.tasks e
  store : o.world.store =
    if rowLands outside w.store.tasks e then
      markedStore (outside.markTime e) e.outboxId w.store
    else w.store
  called : .getTask e ∈ o.calls

theorem publishRow_eq (e : OutboxEntry) :
    publishRow e = (OutboxMessageBuilder.build e).bind (sendRow e) := rfl

/-- What `OutboxMessageBuilder.build` returns. -/
def buildResult (outside : Outside) (tasks : Table TaskRecord.taskId) (e : OutboxEntry) :
    Except PublishException TaskMessage :=
  match (outside (.getTask e)).fault with
  | some (_, ex) => .error ex
  | none =>
      match tasks.get? e.taskId with
      | none => .error (.permanent ("task not found: " ++ e.taskId))
      | some task => .ok (OutboxMessageBuilder.message e task)

theorem build_exec (outside : Outside) (e : OutboxEntry) (w : OutboxWorld) :
    (OutboxMessageBuilder.build e).exec outside.answer w =
      { result := buildResult outside w.store.tasks e, world := w, calls := [.getTask e] } := by
  have htask := exec_request outside (.getTask e) w
  unfold OutboxMessageBuilder.build buildResult
  rw [Proc.bind_eq]
  cases hf : (outside (.getTask e)).fault with
  | some fault =>
      rw [show outside.answer (.getTask e) w = (.error fault.2, w) from read_some hf _ w] at htask
      rw [Proc.exec_bind_error (congrArg Proc.Outcome.result htask), htask]
  | none =>
      rw [show outside.answer (.getTask e) w = (.ok (w.store.tasks.get? e.taskId), w) from
        read_none hf _ w] at htask
      rw [Proc.exec_bind_ok (congrArg Proc.Outcome.result htask), htask]
      dsimp only
      cases w.store.tasks.get? e.taskId <;> rfl

/-- **One row.** -/
theorem publishRow_exec (outside : Outside) (e : OutboxEntry) {w : OutboxWorld}
    (hrow : w.store.outbox.get? e.outboxId ≠ none) :
    RowRun outside w e ((publishRow e).exec outside.answer w) := by
  have hbuild := build_exec outside e w
  rw [publishRow_eq]
  unfold buildResult at hbuild
  cases hf : (outside (.getTask e)).fault with
  | some fault =>
      rw [hf] at hbuild
      rw [Proc.exec_bind_error (congrArg Proc.Outcome.result hbuild), hbuild]
      refine ⟨?_, ?_, by simp⟩
      · unfold rowEnd
        rw [hf]
        rfl
      · rw [if_neg (by simp [rowLands, rowEnqueued, hf])]
  | none =>
      rw [hf] at hbuild
      dsimp only at hbuild
      cases ht : w.store.tasks.get? e.taskId with
      | none =>
          rw [ht] at hbuild
          rw [Proc.exec_bind_error (congrArg Proc.Outcome.result hbuild), hbuild]
          refine ⟨?_, ?_, by simp⟩
          · unfold rowEnd
            rw [hf, ht]
            rfl
          · rw [if_neg (by simp [rowLands, rowEnqueued, ht])]
      | some task =>
          rw [ht] at hbuild
          rw [Proc.exec_bind_ok (congrArg Proc.Outcome.result hbuild), hbuild]
          obtain ⟨hend, hstore⟩ :=
            sendRow_exec outside e (OutboxMessageBuilder.message e task) hrow
          refine ⟨?_, ?_, by simp⟩
          · rw [Proc.Outcome.after_result, hend, rowEnd, hf, ht]
          · rw [Proc.Outcome.after_world, hstore]
            unfold rowLands rowEnqueued sendEnqueued marksStore
            rw [hf, ht]
            simp only [Option.isNone_none, Bool.true_and, Option.any_some]
            cases (outside (.invokeIfActive e)).fault.isNone <;>
              cases decide (settled (outside.enqueueFault e (OutboxMessageBuilder.message e task))
                retrySchedule = some none) <;> rfl

end CartoonDemo
