import CartoonDemo.Library.Run
import CartoonDemo.Runtime.Outbox
import CartoonDemo.System.Effects

/-!
# CartoonDemo.Runtime.PublishSafety

**Publishing is at-least-once and never early.** Any number of publishers run `publishBatch` over
one database and one queue; between any two of their calls rows are inserted, tasks change, the
other publishers proceed, and a publisher may die. Calls fail as `Reply` says.

A publisher is safe (`Proc.Safe`): it asks for a row to be marked only after an `enqueue` for
this row has returned. What the others do never takes a stream entry away and never changes what
a row is about (`Rely`), so this still holds when the call is made.
-/

namespace CartoonDemo

open OutboxCall DefaultOutboxPublisherLoop

/-! ### Publishers over one database -/

abbrev OutboxPool :=
  Pool OutboxCall OutboxCall.Answer PublishException OutboxPublishBatchResult OutboxWorld

inductive OutboxAction
  /-- A publisher starts a batch. -/
  | start (batchSize : Nat)
  | proceed (i : Nat) (r : Reply)
  | crash (i : Nat)
  /-- `OutboxRepo.insert`. -/
  | insert (now : Time) (outboxId : String) (spec : OutboxInsertSpec)
  /-- Any change of the task table. -/
  | tasks (tasks : Table TaskRecord.taskId)

namespace OutboxPool

/-- An inserted row draws an identifier that is not in use. -/
def insert (now : Time) (outboxId : String) (spec : OutboxInsertSpec) (w : OutboxWorld) :
    OutboxWorld :=
  if (w.store.outbox.get? outboxId).isNone then
    { w with store := insertOutbox now outboxId spec w.store }
  else w

def step (a : OutboxAction) (s : OutboxPool) : OutboxPool :=
  match a with
  | .start batchSize => { s with procs := s.procs ++ [publishBatch batchSize] }
  | .proceed i r => s.proceed answer i r
  | .crash i => s.crash i
  | .insert now outboxId spec => { s with world := insert now outboxId spec s.world }
  | .tasks tasks => { s with world := { s.world with store := { s.world.store with tasks := tasks } } }

end OutboxPool

/-! ### What a row is about

A published row has been enqueued: there is a message in the stream of its task type for it.
-/

/-- A row without its publishing status. -/
def OutboxEntry.identity (e : OutboxEntry) : OutboxEntry :=
  { e with status := .pending, publishedAt := none }

/-- The row that a publisher has fetched is in the table. -/
def Stored (w : OutboxWorld) (e : OutboxEntry) : Prop :=
  ∃ row ∈ w.store.outbox.rows, row.identity = e.identity

/-- An `enqueue` for the row has returned: its message is in the stream of its task type. -/
def Confirmed (w : OutboxWorld) (e : OutboxEntry) : Prop :=
  ∃ m ∈ w.streams, m.confirmed = true ∧ m.outboxId = e.outboxId ∧
    m.stream = workerStream e.taskType ∧ m.message.taskId = e.taskId ∧
    m.message.workflowId = e.workflowId ∧ m.message.taskType = e.taskType ∧
    m.message.payloadReference = e.payloadReference.refId

/-- A step that applies the marking of a row. -/
def Marks (s : OutboxPool) (a : OutboxAction) (outboxId : String) : Prop :=
  ∃ i r entry now k next, a = .proceed i r ∧
    s.procs[i]? = some (.call (.markPublished entry now k) next) ∧ entry.outboxId = outboxId ∧
    ∀ applied e, r.fault = some (applied, e) → applied = true

/-- What holds of every step. -/
structure PublishSafe (s : OutboxPool) (a : OutboxAction) : Prop where
  /-- A row that is published after the step was enqueued before it. -/
  early : ∀ e ∈ (OutboxPool.step a s).world.store.outbox.rows, e.status = .published →
    Confirmed s.world e
  /-- An unpublished row stays in the set that `fetch_unpublished` draws from, until its marking
  is applied after an `enqueue` for it has returned. -/
  stays : ∀ e ∈ s.world.store.unpublished, e ∈ (OutboxPool.step a s).world.store.unpublished ∨
    (Marks s a e.outboxId ∧ Confirmed s.world e)
  /-- Marking a published row changes nothing. -/
  again : ∀ e ∈ s.world.store.outbox.rows, e.status = .published → ∀ now,
    markPublished now e.outboxId s.world.store = .ok s.world.store

/-! ### What the others may do

The other publishers add to the stream and mark rows.
-/

structure Rely (w w' : OutboxWorld) : Prop where
  streams : ∀ m ∈ w.streams, m ∈ w'.streams
  rows : ∀ e ∈ w.store.outbox.rows, ∃ e' ∈ w'.store.outbox.rows, e'.identity = e.identity

theorem Rely.refl (w : OutboxWorld) : Rely w w :=
  ⟨fun _ h => h, fun e he => ⟨e, he, rfl⟩⟩

theorem Rely.trans (a b c : OutboxWorld) (h : Rely a b) (h' : Rely b c) : Rely a c where
  streams := fun m hm => h'.streams m (h.streams m hm)
  rows := by
    intro e he
    obtain ⟨e₁, he₁, heq₁⟩ := h.rows e he
    obtain ⟨e₂, he₂, heq₂⟩ := h'.rows e₁ he₁
    exact ⟨e₂, he₂, heq₂.trans heq₁⟩

theorem Stored.rely {w w' : OutboxWorld} {e : OutboxEntry} (h : Stored w e) (hr : Rely w w') :
    Stored w' e := by
  obtain ⟨row, hrow, heq⟩ := h
  obtain ⟨row', hrow', heq'⟩ := hr.rows row hrow
  exact ⟨row', hrow', heq'.trans heq⟩

theorem Confirmed.mono {w w' : OutboxWorld} {e : OutboxEntry} (h : Confirmed w e)
    (hs : ∀ m ∈ w.streams, m ∈ w'.streams) : Confirmed w' e := by
  obtain ⟨m, hm, hrest⟩ := h
  exact ⟨m, hs m hm, hrest⟩

theorem Confirmed.rely {w w' : OutboxWorld} {e : OutboxEntry} (h : Confirmed w e)
    (hr : Rely w w') : Confirmed w' e :=
  h.mono hr.streams

/-- `Confirmed` is about what the row is about. -/
theorem Confirmed.of_identity {w : OutboxWorld} {e e' : OutboxEntry} (h : Confirmed w e)
    (heq : e'.identity = e.identity) : Confirmed w e' := by
  have hconf : Confirmed w e.identity := h
  rw [← heq] at hconf
  exact hconf

/-- A row is marked only after it was enqueued. -/
def markGuard (c : OutboxCall) (w : OutboxWorld) : Prop :=
  match c with
  | .markPublished entry _ _ => Stored w entry ∧ Confirmed w entry
  | _ => True

theorem markGuard_rely (c : OutboxCall) (a b : OutboxWorld) (hr : Rely a b)
    (h : markGuard c a) : markGuard c b := by
  cases c with
  | markPublished entry now k => exact ⟨h.1.rely hr, h.2.rely hr⟩
  | _ => trivial

/-! ### Calls -/

/-- A reply whose call takes effect. -/
def OutboxCall.Reply.Applies (r : Reply) : Prop :=
  ∀ applied e, r.fault = some (applied, e) → applied = true

/-- **Everything that a call can do to the world.** -/
inductive CallEffect (r : Reply) (w : OutboxWorld) : OutboxCall → OutboxWorld → Prop
  | none (c : OutboxCall) : CallEffect r w c w
  | sent (c : OutboxCall) (m : StreamMessage) :
      CallEffect r w c { w with streams := w.streams ++ [m] }
  | marked (entry : OutboxEntry) (now : Time) (k : Nat) (h : r.Applies) :
      CallEffect r w (.markPublished entry now k)
        { w with store := markedStore now entry.outboxId w.store }

theorem Reply.read_world {α : Type} (r : Reply) (a : α) (w : OutboxWorld) :
    (r.read a w).2 = w := by
  unfold OutboxCall.Reply.read
  split <;> rfl

theorem answer_effect (c : OutboxCall) (r : Reply) (w : OutboxWorld) :
    CallEffect r w c (answer c r w).2 := by
  cases c with
  | fetchUnpublished limit | getTask entry | invokeIfActive entry =>
      unfold answer
      rw [Reply.read_world]
      exact .none _
  | clock entry => exact .none _
  | enqueue entry stream message k =>
      unfold answer answerEnqueue
      dsimp only
      split
      · exact .sent _ _
      · split
        · exact .sent _ _
        · exact .none _
      · exact .none _
  | markPublished entry now k =>
      unfold answer answerMark
      dsimp only
      split
      · next applied e hr =>
        cases applied with
        | false => exact .none _
        | true =>
            refine .marked entry now k ?_
            intro applied' e' hr'
            exact (Prod.mk.inj (Option.some.inj (hr'.symm.trans hr))).1
      · next hr =>
        cases hm : markPublished now entry.outboxId w.store with
        | error e => exact .none _
        | ok s =>
            have hs : s = markedStore now entry.outboxId w.store := by
              unfold markedStore
              rw [hm]
            rw [hs]
            refine .marked entry now k ?_
            intro applied e hr'
            exact absurd (hr.symm.trans hr') (by simp)

/-- Marking a published row changes nothing. -/
theorem markPublished_published {s : Store} {e : OutboxEntry} (he : e ∈ s.outbox.rows)
    (hp : e.status = .published) (now : Time) : markPublished now e.outboxId s = .ok s := by
  unfold markPublished
  rw [Table.get?_of_mem he]
  exact if_pos hp

/-- The rows after a marking. -/
theorem mem_markedStore {now : Time} {outboxId : String} {s : Store} {e' : OutboxEntry}
    (h : e' ∈ (markedStore now outboxId s).outbox.rows) :
    e' ∈ s.outbox.rows ∨
      ∃ e ∈ s.outbox.rows, e.outboxId = outboxId ∧ e'.identity = e.identity := by
  rcases markedStore_cases now outboxId s with heq | hm
  · rw [heq] at h
    exact Or.inl h
  · obtain ⟨e, now', hg, hout⟩ := hm.outbox
    obtain ⟨hmem, hid⟩ := Table.get?_eq_some_iff.mp hg
    rw [hout] at h
    rcases Table.mem_upsert.mp h with rfl | ⟨hold, -⟩
    · exact Or.inr ⟨e, hmem, hid, rfl⟩
    · exact Or.inl hold

/-- A marking keeps every row, and changes none but its own. -/
theorem markedStore_keeps {now : Time} {outboxId : String} {s : Store} {e : OutboxEntry}
    (h : e ∈ s.outbox.rows) :
    e ∈ (markedStore now outboxId s).outbox.rows ∨
      (e.outboxId = outboxId ∧
        ∃ e' ∈ (markedStore now outboxId s).outbox.rows, e'.identity = e.identity) := by
  rcases markedStore_cases now outboxId s with heq | hm
  · rw [heq]
    exact Or.inl h
  · obtain ⟨e₀, now', hg, hout⟩ := hm.outbox
    rw [hout]
    by_cases hid : e.outboxId = outboxId
    · have hget : s.outbox.get? e.outboxId = some e := Table.get?_of_mem h
      rw [hid] at hget
      obtain rfl : e = e₀ := Option.some.inj (hget.symm.trans hg)
      exact Or.inr ⟨hid, _, Table.mem_upsert.mpr (Or.inl rfl), rfl⟩
    · have hne : e.outboxId ≠ e₀.outboxId := by
        rw [(Table.get?_eq_some_iff.mp hg).2]
        exact hid
      exact Or.inl (Table.mem_upsert.mpr (Or.inr ⟨h, hne⟩))

theorem answer_rely (c : OutboxCall) (r : Reply) (w : OutboxWorld) :
    Rely w (answer c r w).2 := by
  have heffect := answer_effect c r w
  generalize (answer c r w).2 = w' at heffect
  cases heffect with
  | none => exact Rely.refl w
  | sent c m => exact ⟨fun _ hm => List.mem_append_left _ hm, fun e he => ⟨e, he, rfl⟩⟩
  | marked entry now k h =>
      refine ⟨fun _ hm => hm, fun e he => ?_⟩
      rcases markedStore_keeps he with hmem | ⟨-, hmem⟩
      · exact ⟨e, hmem, rfl⟩
      · exact hmem

/-! ### A publisher is safe

Along the code, with what the others may do in between.
-/

/-- An `enqueue` that returns confirms its message. -/
theorem answer_enqueue_ok {entry : OutboxEntry} {stream : String} {message : TaskMessage}
    {k : Nat} {r : Reply} {w : OutboxWorld}
    (h : (answer (.enqueue entry stream message k) r w).1 = .ok ()) :
    ⟨entry.outboxId, stream, message, true⟩ ∈
      (answer (.enqueue entry stream message k) r w).2.streams := by
  unfold answer answerEnqueue at h ⊢
  dsimp only at h ⊢
  split
  · simp
  · next hr => simp [*] at h
  · next hr => simp [*] at h

/-- `Confirmed`, from the message of the row. -/
theorem Confirmed.of_mem {w : OutboxWorld} {entry : OutboxEntry} {task : TaskRecord}
    (h : ⟨entry.outboxId, resolveOutboxStream entry, OutboxMessageBuilder.message entry task,
      true⟩ ∈ w.streams) : Confirmed w entry :=
  ⟨_, h, rfl, rfl, rfl, rfl, rfl, rfl, rfl⟩

/-- The loop of `_enqueue_with_retry` returns only after an `enqueue` has. -/
theorem enqueueLoop_safe {entry : OutboxEntry} {task : TaskRecord} (attempts : List Nat)
    {frame : OutboxPublishFrame} {w : OutboxWorld} (hentry : frame.entry = entry)
    (hstream : frame.stream = resolveOutboxStream entry) (hst : Stored w entry) :
    (enqueueLoop (OutboxMessageBuilder.message entry task) frame attempts).Safe answer Rely
      markGuard (fun r w' => ∀ f, r = .ok f → f.entry = entry ∧ Stored w' entry ∧
        Confirmed w' entry) w := by
  induction attempts generalizing frame w with
  | nil =>
      intro f hf
      exact absurd hf (by simp)
  | cons k rest ih =>
      obtain ⟨_, _, message, n, m, last⟩ := frame
      obtain rfl : entry = _ := hentry.symm
      obtain rfl : resolveOutboxStream entry = _ := hstream.symm
      refine ⟨trivial, fun w' hw' r => ?_⟩
      have hst' := (hst.rely hw').rely (answer_rely (.enqueue entry (resolveOutboxStream entry)
        (OutboxMessageBuilder.message entry task) k) r w')
      dsimp only
      cases hres : (answer (.enqueue entry (resolveOutboxStream entry)
          (OutboxMessageBuilder.message entry task) k) r w').1 with
      | ok u =>
          intro f hf
          obtain rfl := Except.ok.inj hf
          exact ⟨rfl, hst', Confirmed.of_mem (answer_enqueue_ok hres)⟩
      | error e =>
          cases e with
          | invalidTaskMessage m => exact fun f hf => absurd hf (by simp)
          | taskQueueConnection m | taskQueueUnavailable m | runtime c m =>
              exact ih rfl rfl hst'
          | permanent m | transient m | other c m => exact fun f hf => absurd hf (by simp)

/-- The loop of `_mark_published_with_retry`, after an `enqueue` for the row has returned. -/
theorem markLoop_safe {now : Time} (attempts : List Nat) {frame : OutboxPublishFrame}
    {w : OutboxWorld} (hst : Stored w frame.entry) (hconf : Confirmed w frame.entry) :
    (markLoop now frame attempts).Safe answer Rely markGuard (fun _ _ => True) w := by
  induction attempts generalizing frame w with
  | nil => trivial
  | cons k rest ih =>
      refine ⟨⟨hst, hconf⟩, fun w' hw' r => ?_⟩
      have hrely := answer_rely (.markPublished frame.entry now k) r w'
      cases (answer (.markPublished frame.entry now k) r w').1 with
      | ok u => trivial
      | error e =>
          dsimp only
          split
          · exact ih ((hst.rely hw').rely hrely) ((hconf.rely hw').rely hrely)
          · trivial

/-- One call whose answer is not needed. -/
theorem request_safe {c : OutboxCall} {w : OutboxWorld}
    {post : Except PublishException c.Answer → OutboxWorld → Prop} (hg : markGuard c w)
    (h : ∀ w' r, Rely w w' → post (answer c r w').1 (answer c r w').2) :
    (PublishProc.request c).Safe answer Rely markGuard post w := by
  refine ⟨hg, fun w' hw' r => ?_⟩
  have hpost := h w' r hw'
  cases hres : (answer c r w').1 with
  | ok a => rw [hres] at hpost; exact hpost
  | error e => rw [hres] at hpost; exact hpost

theorem build_safe {entry : OutboxEntry} {w : OutboxWorld} (hst : Stored w entry) :
    (OutboxMessageBuilder.build entry).Safe answer Rely markGuard
      (fun r w' => ∀ m, r = .ok m →
        (∃ task, m = OutboxMessageBuilder.message entry task) ∧ Stored w' entry) w := by
  refine Proc.Safe.bind (fun _ w' => Stored w' entry) (request_safe trivial ?_) ?_ ?_
  · intro w' r hw'
    exact (hst.rely hw').rely (answer_rely _ r w')
  · intro task w' hst'
    cases task with
    | none => exact fun m hm => absurd hm (by simp)
    | some task =>
        intro m hm
        obtain rfl := Except.ok.inj hm
        exact ⟨⟨task, rfl⟩, hst'⟩
  · exact fun e w' _ m hm => absurd hm (by simp)

/-- **A publisher marks a row only after an `enqueue` for it has returned.** -/
theorem publishRow_safe {entry : OutboxEntry} {w : OutboxWorld} (hst : Stored w entry) :
    (publishRow entry).Safe answer Rely markGuard (fun _ _ => True) w := by
  refine Proc.Safe.bind _ (build_safe hst) ?_ (fun _ _ _ => trivial)
  intro m w₁ hm
  obtain ⟨⟨task, rfl⟩, hst₁⟩ := hm m rfl
  refine Proc.Safe.bind (fun _ w' => Stored w' entry) (request_safe trivial ?_) ?_
    (fun _ _ _ => trivial)
  · exact fun w' r hw' => (hst₁.rely hw').rely (answer_rely _ r w')
  · intro _ w₂ hst₂
    refine Proc.Safe.bind _ (enqueueLoop_safe retrySchedule rfl rfl hst₂) ?_ (fun _ _ _ => trivial)
    intro frame w₃ hframe
    obtain ⟨hentry, hst₃, hconf⟩ := hframe frame rfl
    refine Proc.Safe.bind (fun _ w' => Stored w' entry ∧ Confirmed w' entry)
      (request_safe trivial ?_) ?_ (fun _ _ _ => trivial)
    · intro w' r hw'
      have hrely := answer_rely (.clock frame.entry) r w'
      exact ⟨(hst₃.rely hw').rely hrely, (hconf.rely hw').rely hrely⟩
    · intro now w₄ h
      rw [← hentry] at h
      exact markLoop_safe retrySchedule h.1 h.2

theorem publishRows_safe {rows : List OutboxEntry} {result : OutboxPublishBatchResult}
    {w : OutboxWorld} (hst : ∀ e ∈ rows, Stored w e) :
    (publishRows result rows).Safe answer Rely markGuard (fun _ _ => True) w := by
  induction rows generalizing result w with
  | nil => trivial
  | cons entry rest ih =>
      have hrest : ∀ a b, Rely a b → (∀ e ∈ rest, Stored a e) → ∀ e ∈ rest, Stored b e :=
        fun a b hr h e he => (h e he).rely hr
      have hrow := (publishRow_safe (hst entry (by simp))).frame hrest answer_rely
        (fun e he => hst e (by simp [he]))
      refine Proc.Safe.bind _ hrow.attempt ?_ (fun _ _ _ => trivial)
      intro r w' hr
      have hst' := (hr r rfl).2
      cases r with
      | ok u => exact ih hst'
      | error e =>
          dsimp only
          split
          · exact ih hst'
          · trivial

/-- The fetched rows are in the table. -/
theorem mem_fetchOldest {tie : OutboxEntry → Nat} {limit : Nat} {s : Store} {e : OutboxEntry}
    (h : e ∈ fetchOldest tie limit s) : e ∈ s.unpublished := by
  have hmem := List.mem_of_mem_take h
  exact (List.mem_insertionSort _).mp hmem

/-- **`_publish_batch` is safe** among others. -/
theorem publishBatch_safe (batchSize : Nat) (w : OutboxWorld) :
    (publishBatch batchSize).Safe answer Rely markGuard (fun _ _ => True) w := by
  refine Proc.Safe.bind (fun r w' => ∀ rows, r = .ok rows → ∀ e ∈ rows, Stored w' e)
    (request_safe trivial ?_) ?_ (fun _ _ _ => trivial)
  · intro w' r _ rows hrows e he
    unfold answer OutboxCall.Reply.read at hrows ⊢
    dsimp only at hrows ⊢
    split at hrows
    · obtain rfl := Except.ok.inj hrows
      have hmem := mem_fetchOldest he
      exact ⟨e, (List.mem_filter.mp hmem).1, rfl⟩
    · exact absurd hrows (by simp)
  · intro rows w' hst
    exact publishRows_safe (hst rows rfl)

/-! ### Every run -/

/-- What holds in every run: the publishers are safe, and what is published was enqueued. -/
structure PublishersSound (s : OutboxPool) : Prop where
  safe : s.AllSafe answer Rely markGuard
  published : ∀ e ∈ s.world.store.outbox.rows, e.status = .published → Confirmed s.world e

theorem publishersSound_empty : PublishersSound { world := {} } where
  safe := by intro p hp; exact absurd hp (by simp)
  published := by intro e he; exact absurd he (by simp)

/-- The row of a marking that is applied. -/
theorem marked_confirmed {s : OutboxPool} (h : PublishersSound s) {entry : OutboxEntry}
    {now : Time} {k : Nat} {e : OutboxEntry} (hguard : markGuard (.markPublished entry now k) s.world)
    (he : e ∈ (markedStore now entry.outboxId s.world.store).outbox.rows)
    (hp : e.status = .published) : Confirmed s.world e := by
  rcases mem_markedStore he with hold | ⟨row, hrow, hid, heq⟩
  · exact h.published e hold hp
  · -- the row of the table is the one that was fetched
    obtain ⟨⟨row', hrow', heq'⟩, hconf⟩ := hguard
    have hrow_eq : row' = row := by
      refine s.world.store.outbox.eq_of_key_eq hrow' hrow ?_
      have hsame : row'.identity.outboxId = entry.identity.outboxId := by rw [heq']
      rw [hid]
      exact hsame
    rw [hrow_eq] at heq'
    exact hconf.of_identity (heq.trans heq')

theorem insert_rows {now : Time} {outboxId : String} {spec : OutboxInsertSpec} {w : OutboxWorld}
    {e : OutboxEntry} (h : e ∈ (OutboxPool.insert now outboxId spec w).store.outbox.rows) :
    e ∈ w.store.outbox.rows ∨ e.status = .pending := by
  unfold OutboxPool.insert at h
  split at h
  · rcases Table.mem_upsert.mp h with rfl | ⟨hold, -⟩
    · exact Or.inr rfl
    · exact Or.inl hold
  · exact Or.inl h

theorem insert_keeps {now : Time} {outboxId : String} {spec : OutboxInsertSpec} {w : OutboxWorld}
    {e : OutboxEntry} (h : e ∈ w.store.outbox.rows) :
    e ∈ (OutboxPool.insert now outboxId spec w).store.outbox.rows := by
  unfold OutboxPool.insert
  split
  · next hnew =>
    have hfree : w.store.outbox.get? outboxId = none := by simpa using hnew
    exact Table.mem_upsert.mpr (Or.inr ⟨h, Table.get?_eq_none_iff.mp hfree e h⟩)
  · exact h

theorem insert_rely (now : Time) (outboxId : String) (spec : OutboxInsertSpec)
    (w : OutboxWorld) : Rely w (OutboxPool.insert now outboxId spec w) where
  streams := by
    intro m hm
    unfold OutboxPool.insert
    split <;> exact hm
  rows := fun e he => ⟨e, insert_keeps he, rfl⟩

/-- **Everything that a step can do to the world.** -/
inductive PoolEffect (s : OutboxPool) : OutboxAction → OutboxWorld → Prop
  | none (a : OutboxAction) : PoolEffect s a s.world
  | sent (a : OutboxAction) (m : StreamMessage) :
      PoolEffect s a { s.world with streams := s.world.streams ++ [m] }
  | marked (i : Nat) (r : Reply) (entry : OutboxEntry) (now : Time) (k : Nat)
      (next : Except PublishException Unit → PublishProc OutboxPublishBatchResult)
      (hi : s.procs[i]? = some (.call (.markPublished entry now k) next)) (h : r.Applies) :
      PoolEffect s (.proceed i r)
        { s.world with store := markedStore now entry.outboxId s.world.store }
  | inserted (now : Time) (outboxId : String) (spec : OutboxInsertSpec) :
      PoolEffect s (.insert now outboxId spec) (OutboxPool.insert now outboxId spec s.world)
  | tasks (tasks : Table TaskRecord.taskId) :
      PoolEffect s (.tasks tasks)
        { s.world with store := { s.world.store with tasks := tasks } }

theorem poolEffect (s : OutboxPool) (a : OutboxAction) :
    PoolEffect s a (OutboxPool.step a s).world := by
  cases a with
  | start batchSize => exact .none _
  | crash i => exact .none _
  | insert now outboxId spec => exact .inserted now outboxId spec
  | tasks tasks => exact .tasks tasks
  | proceed i r =>
      unfold OutboxPool.step Pool.proceed
      dsimp only
      split
      · next c next hi =>
        have heffect := answer_effect c r s.world
        generalize (answer c r s.world).2 = w' at heffect
        cases heffect with
        | none => exact .none _
        | sent c m => exact .sent _ m
        | marked entry now k h => exact .marked i r entry now k next hi h
      · exact .none _

theorem PoolEffect.streams {s : OutboxPool} {a : OutboxAction} {w' : OutboxWorld}
    (h : PoolEffect s a w') : ∀ m ∈ s.world.streams, m ∈ w'.streams := by
  intro m hm
  cases h with
  | none a => exact hm
  | sent a m' => exact List.mem_append_left _ hm
  | marked i r entry now k next hi h => exact hm
  | inserted now outboxId spec => exact (insert_rely now outboxId spec s.world).streams m hm
  | tasks tasks => exact hm

theorem mem_unpublished {s : Store} {e : OutboxEntry} :
    e ∈ s.unpublished ↔ e ∈ s.outbox.rows ∧ e.status = .pending := by
  simp [Store.unpublished]

/-- **A sound step publishes nothing early and loses no row.** -/
theorem PublishersSound.publishSafe {s : OutboxPool} (h : PublishersSound s) (a : OutboxAction) :
    PublishSafe s a where
  early := by
    intro e he hp
    have heffect := poolEffect s a
    generalize (OutboxPool.step a s).world = w' at heffect he
    cases heffect with
    | none a => exact h.published e he hp
    | sent a m => exact h.published e he hp
    | marked i r entry now k next hi ha => exact marked_confirmed h (h.safe.callGuard hi) he hp
    | inserted now outboxId spec =>
        rcases insert_rows he with hold | hnew
        · exact h.published e hold hp
        · exact absurd (hp.symm.trans hnew) (by simp)
    | tasks tasks => exact h.published e he hp
  stays := by
    intro e he
    obtain ⟨hmem, hst⟩ := mem_unpublished.mp he
    have heffect := poolEffect s a
    generalize (OutboxPool.step a s).world = w' at heffect
    cases heffect with
    | none a => exact Or.inl he
    | sent a m => exact Or.inl he
    | marked i r entry now k next hi ha =>
        rcases markedStore_keeps hmem with hkept | ⟨hid, -⟩
        · exact Or.inl (mem_unpublished.mpr ⟨hkept, hst⟩)
        · -- its own row: the guard says that it was enqueued
          obtain ⟨⟨row, hrow, heq⟩, hconf⟩ := h.safe.callGuard hi
          have hsame : row.identity.outboxId = entry.identity.outboxId := by rw [heq]
          obtain rfl : row = e :=
            s.world.store.outbox.eq_of_key_eq hrow hmem (hsame.trans hid.symm)
          exact Or.inr ⟨⟨i, r, entry, now, k, next, rfl, hi, hid.symm, ha⟩, hconf.of_identity heq⟩
    | inserted now outboxId spec =>
        exact Or.inl (mem_unpublished.mpr ⟨insert_keeps hmem, hst⟩)
    | tasks tasks => exact Or.inl he
  again := by
    intro e he hp now
    exact markPublished_published he hp now

theorem PublishersSound.step {s : OutboxPool} (h : PublishersSound s) (a : OutboxAction) :
    PublishersSound (OutboxPool.step a s) where
  safe := by
    cases a with
    | start batchSize =>
        intro p hp
        rcases List.mem_append.mp hp with hold | hnew
        · exact h.safe p hold
        · obtain rfl := List.mem_singleton.mp hnew
          exact publishBatch_safe batchSize s.world
    | proceed i r =>
        exact h.safe.proceed Rely.refl Rely.trans markGuard_rely
          (fun c r w _ => answer_rely c r w) i r
    | crash i => exact h.safe.crash i
    | insert now outboxId spec =>
        exact h.safe.change Rely.trans markGuard_rely (insert_rely now outboxId spec s.world)
    | tasks tasks =>
        exact h.safe.change Rely.trans markGuard_rely
          ⟨fun _ hm => hm, fun e he => ⟨e, he, rfl⟩⟩
  published := fun e he hp =>
    ((h.publishSafe a).early e he hp).mono (poolEffect s a).streams

/-- **Publishing is at-least-once and never early**, at every step of every run. -/
theorem run_publish_safe (as : List OutboxAction) :
    Along OutboxPool.step PublishSafe { world := {} } as :=
  along_of_invariant (fun _ => True) (fun _ a _ h => h.step a) (fun _ a _ h => h.publishSafe a)
    publishersSound_empty (fun _ _ => trivial)

end CartoonDemo
