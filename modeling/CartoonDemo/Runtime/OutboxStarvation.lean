import Mathlib.Data.List.Perm.Subperm
import CartoonDemo.Runtime.PublishBatch

/-!
# CartoonDemo.Runtime.OutboxStarvation

**Successive batches.** Every batch fetches the oldest unpublished rows again, whatever became of
them before. A row that never gets its mark keeps its place in front of all younger rows. So a
row that would be published is reached exactly if fewer than `batch_size` such rows are as old as
it is, and none of them ends the batch with an exception (`all_published_iff`).

The order of the database among rows of the same time is open, and may change from batch to batch.
-/

namespace CartoonDemo

open OutboxCall DefaultOutboxPublisherLoop

section Batches

variable (ties : Nat → OutboxEntry → Nat) (outside : Outside) (batchSize : Nat)

/-- The world after `n` batches, whose outcomes for each row are always the same. -/
def afterBatches (w : OutboxWorld) : Nat → OutboxWorld
  | 0 => w
  | n + 1 => (runBatch (ties n) outside batchSize (afterBatches w n)).world

/-- Every row that would succeed is published after as many batches as there are rows. -/
def AllPublished (w : OutboxWorld) : Prop :=
  ∀ e ∈ w.store.unpublished, rowLands outside w.store.tasks e = true →
    ∃ row ∈ (afterBatches ties outside batchSize w w.store.unpublished.length).store.outbox.rows,
      row.outboxId = e.outboxId ∧ row.status = .published

end Batches

/-- A row that never gets its mark, as old as `e`. -/
def blocks (outside : Outside) (tasks : Table TaskRecord.taskId) (e x : OutboxEntry) : Bool :=
  !rowLands outside tasks x && decide (x.createdAt ≤ e.createdAt)

/-- The rows in front of `e` leave it a place in the batch, and none of them ends the batch. -/
structure Reachable (outside : Outside) (batchSize : Nat) (s : Store) (e : OutboxEntry) :
    Prop where
  room : (s.unpublished.filter (blocks outside s.tasks e)).length < batchSize
  contained : ∀ x ∈ s.unpublished, blocks outside s.tasks e x = true →
    Contained outside s.tasks x

/-! ### What batches keep -/

section Keeps

variable {ties : Nat → OutboxEntry → Nat} {outside : Outside} {batchSize : Nat} {w : OutboxWorld}

theorem afterBatches_tasks (n : Nat) :
    (afterBatches ties outside batchSize w n).store.tasks = w.store.tasks := by
  induction n with
  | zero => rfl
  | succ n ih => exact (runBatch_run _ _ _ _).tasks.trans ih

/-- The rows that the `n`-th batch marks. -/
def batchIds (ties : Nat → OutboxEntry → Nat) (outside : Outside) (batchSize : Nat)
    (w : OutboxWorld) (n : Nat) : List String :=
  landedIds outside w.store.tasks
    (fetchOldest (ties n) batchSize (afterBatches ties outside batchSize w n).store)

theorem afterBatches_unpublished (n : Nat) :
    (afterBatches ties outside batchSize w (n + 1)).store.unpublished =
      (afterBatches ties outside batchSize w n).store.unpublished.filter
        (fun x => x.outboxId ∉ batchIds ties outside batchSize w n) := by
  have hrun := (runBatch_run (ties n) outside batchSize
    (afterBatches ties outside batchSize w n)).unpublished
  rw [afterBatches_tasks] at hrun
  exact hrun

/-- Rows stay in the table. -/
theorem afterBatches_present (n : Nat) {id : String} (h : w.store.outbox.get? id ≠ none) :
    (afterBatches ties outside batchSize w n).store.outbox.get? id ≠ none := by
  induction n with
  | zero => exact h
  | succ n ih => exact (runBatch_run _ _ _ _).present id ih

/-- Batches only take rows away. -/
theorem afterBatches_sublist (n : Nat) :
    (afterBatches ties outside batchSize w n).store.unpublished.Sublist w.store.unpublished := by
  induction n with
  | zero => exact List.Sublist.refl _
  | succ n ih =>
      rw [afterBatches_unpublished]
      exact List.filter_sublist.trans ih

theorem attempted_subset {tasks : Table TaskRecord.taskId} {rows : List OutboxEntry}
    {e : OutboxEntry} (h : e ∈ attempted outside tasks rows) : e ∈ rows := by
  induction rows with
  | nil => exact h
  | cons x rest ih =>
      rw [attempted] at h
      rcases List.mem_cons.mp h with rfl | hrest
      · exact List.mem_cons_self
      · split at hrest
        · exact absurd hrest (by simp)
        · exact List.mem_cons_of_mem _ (ih hrest)

/-- A row with the identifier of a landed row is that row. -/
theorem mem_landedIds {tasks : Table TaskRecord.taskId} {s : Store} {rows : List OutboxEntry}
    (hrows : ∀ e ∈ rows, e ∈ s.unpublished) {x : OutboxEntry} (hx : x ∈ s.unpublished) :
    x.outboxId ∈ landedIds outside tasks rows ↔
      x ∈ attempted outside tasks rows ∧ rowLands outside tasks x = true := by
  unfold landedIds
  rw [List.mem_map]
  constructor
  · intro h
    obtain ⟨y, hy, hid⟩ := h
    obtain ⟨hmem, hlands⟩ := List.mem_filter.mp hy
    have hstored := (mem_unpublished.mp (hrows y (attempted_subset hmem))).1
    obtain rfl := Table.eq_of_key_eq _ hstored (mem_unpublished.mp hx).1 hid
    exact ⟨hmem, hlands⟩
  · intro h
    exact ⟨x, List.mem_filter.mpr h, rfl⟩

/-- **What a batch leaves**: the rows that it does not get to, and those that do not land. -/
theorem mem_afterBatches_succ {n : Nat} {x : OutboxEntry} :
    x ∈ (afterBatches ties outside batchSize w (n + 1)).store.unpublished ↔
      x ∈ (afterBatches ties outside batchSize w n).store.unpublished ∧
        ¬ (x ∈ attempted outside w.store.tasks
            (fetchOldest (ties n) batchSize (afterBatches ties outside batchSize w n).store) ∧
          rowLands outside w.store.tasks x = true) := by
  rw [afterBatches_unpublished, List.mem_filter]
  unfold batchIds
  constructor
  · intro h
    refine ⟨h.1, fun hl => ?_⟩
    have hid := (mem_landedIds (fun e he => mem_fetchOldest he) h.1).mpr hl
    exact absurd hid (by simpa using h.2)
  · intro h
    refine ⟨h.1, ?_⟩
    have hid := fun hid => h.2 ((mem_landedIds (fun e he => mem_fetchOldest he) h.1).mp hid)
    simpa using hid

/-- A row of the table is published exactly if it is not among the unpublished ones. -/
theorem published_iff_not_mem {n : Nat} {e : OutboxEntry} (he : e ∈ w.store.unpublished) :
    (∃ row ∈ (afterBatches ties outside batchSize w n).store.outbox.rows,
        row.outboxId = e.outboxId ∧ row.status = .published) ↔
      e ∉ (afterBatches ties outside batchSize w n).store.unpublished := by
  obtain ⟨hmem, -⟩ := mem_unpublished.mp he
  constructor
  · intro h hin
    obtain ⟨row, hrow, hid, hst⟩ := h
    obtain ⟨hmem', hst'⟩ := mem_unpublished.mp hin
    obtain rfl := Table.eq_of_key_eq _ hrow hmem' hid
    exact absurd (hst.symm.trans hst') (by simp)
  · intro hnot
    have hget : (afterBatches ties outside batchSize w n).store.outbox.get? e.outboxId ≠ none :=
      afterBatches_present n (by rw [Table.get?_of_mem hmem]; simp)
    obtain ⟨row, hrow⟩ := Option.ne_none_iff_exists'.mp hget
    obtain ⟨hrowmem, hid⟩ := Table.get?_eq_some_iff.mp hrow
    refine ⟨row, hrowmem, hid, ?_⟩
    rcases outbox_status_cases row.status with hp | hp
    · -- it would be the row that was there at the start
      have hin : row ∈ (afterBatches ties outside batchSize w n).store.unpublished :=
        mem_unpublished.mpr ⟨hrowmem, hp⟩
      have hold := (mem_unpublished.mp ((afterBatches_sublist n).subset hin)).1
      obtain rfl := Table.eq_of_key_eq _ hold hmem hid
      exact absurd hin hnot
    · exact hp

end Keeps

/-! ### The fetch window

A batch fetches the oldest rows, so what stays unpublished stays in front.
-/

section Window

variable {tie : OutboxEntry → Nat} {s : Store}

/-- The unpublished rows in the order in which they are fetched. -/
def fetchOrder (tie : OutboxEntry → Nat) (s : Store) : List OutboxEntry :=
  s.unpublished.insertionSort (fun a b => fetchKey tie a ≤ fetchKey tie b)

theorem fetchOldest_eq (limit : Nat) : fetchOldest tie limit s = (fetchOrder tie s).take limit :=
  rfl

theorem mem_fetchOrder {e : OutboxEntry} : e ∈ fetchOrder tie s ↔ e ∈ s.unpublished :=
  List.mem_insertionSort _

theorem fetchOrder_nodup : (fetchOrder tie s).Nodup := by
  have hrows : s.unpublished.Nodup := (List.Nodup.of_map _ s.outbox.nodup).filter _
  exact (List.perm_insertionSort _ _).nodup_iff.mpr hrows

theorem fetchOrder_sorted :
    (fetchOrder tie s).Pairwise (fun a b => fetchKey tie a ≤ fetchKey tie b) := by
  have htotal : Std.Total (fun a b : OutboxEntry => fetchKey tie a ≤ fetchKey tie b) :=
    ⟨fun a b => le_total _ _⟩
  have htrans : IsTrans OutboxEntry (fun a b => fetchKey tie a ≤ fetchKey tie b) :=
    ⟨fun a b c => le_trans⟩
  exact List.pairwise_insertionSort _ _

theorem createdAt_le_of_fetchKey_le {a b : OutboxEntry} (h : fetchKey tie a ≤ fetchKey tie b) :
    a.createdAt ≤ b.createdAt :=
  Prod.Lex.monotone_fst _ _ h

/-- The rows in front of a row are as old as it is. -/
theorem createdAt_le_of_split {pre post : List OutboxEntry} {e x : OutboxEntry}
    (hsplit : fetchOrder tie s = pre ++ e :: post) (hx : x ∈ pre) :
    x.createdAt ≤ e.createdAt := by
  have hsorted : (fetchOrder tie s).Pairwise _ := fetchOrder_sorted
  rw [hsplit] at hsorted
  have hle := (List.pairwise_append.mp hsorted).2.2 x hx e (by simp)
  exact createdAt_le_of_fetchKey_le hle

/-- A row with a smaller key is in front. -/
theorem mem_pre_of_fetchKey_lt {pre post : List OutboxEntry} {e x : OutboxEntry}
    (hsplit : fetchOrder tie s = pre ++ e :: post) (hx : x ∈ s.unpublished)
    (hlt : fetchKey tie x < fetchKey tie e) : x ∈ pre := by
  have hsorted : (fetchOrder tie s).Pairwise _ := fetchOrder_sorted
  have hmem : x ∈ fetchOrder tie s := mem_fetchOrder.mpr hx
  rw [hsplit] at hsorted hmem
  rcases List.mem_append.mp hmem with hpre | hpost
  · exact hpre
  · rcases List.mem_cons.mp hpost with rfl | hpost
    · exact absurd hlt (lt_irrefl _)
    · have hle := (List.pairwise_cons.mp (List.pairwise_append.mp hsorted).2.1).1 x hpost
      exact absurd hlt (not_lt_of_ge hle)

end Window

/-! ### The rows that a batch gets to -/

section Attempted

variable {outside : Outside} {tasks : Table TaskRecord.taskId}

theorem attempted_append {pre rest : List OutboxEntry}
    (h : ∀ x ∈ pre, rowEnd outside tasks x ≠ .escaped) :
    attempted outside tasks (pre ++ rest) = pre ++ attempted outside tasks rest := by
  induction pre with
  | nil => rfl
  | cons x pre ih =>
      rw [List.cons_append, attempted, if_neg (h x (by simp)), ih (fun y hy => h y (by simp [hy]))]
      rfl

/-- Nothing behind a row whose exception escapes is attempted. -/
theorem mem_attempted_of_escaped {pre rest : List OutboxEntry} {x y : OutboxEntry} {limit : Nat}
    (hx : rowEnd outside tasks x = .escaped)
    (h : y ∈ attempted outside tasks ((pre ++ x :: rest).take limit)) : y ∈ pre ∨ y = x := by
  induction pre generalizing limit with
  | nil =>
      cases limit with
      | zero => exact absurd h (by simp [attempted])
      | succ limit =>
          rw [List.nil_append, List.take_succ_cons, attempted, if_pos hx] at h
          exact Or.inr (List.mem_singleton.mp h)
  | cons a pre ih =>
      cases limit with
      | zero => exact absurd h (by simp [attempted])
      | succ limit =>
          rw [List.cons_append, List.take_succ_cons, attempted] at h
          rcases List.mem_cons.mp h with rfl | hrest
          · exact Or.inl List.mem_cons_self
          · split at hrest
            · exact absurd hrest (by simp)
            · rcases ih hrest with hpre | heq
              · exact Or.inl (List.mem_cons_of_mem _ hpre)
              · exact Or.inr heq

end Attempted

/-! ### Progress

A row that a batch gets to, and that can be published, makes the number of unpublished rows
smaller.
-/

section Progress

variable {outside : Outside} {batchSize : Nat}

/-- **A batch gets to a row that lands**, if a reachable one is waiting: the rows in front of the
first one that lands all block it. -/
theorem exists_attempted_lands {tie : OutboxEntry → Nat} {s : Store} {e : OutboxEntry}
    (he : e ∈ s.unpublished) (hlands : rowLands outside s.tasks e = true)
    (hreach : Reachable outside batchSize s e) :
    ∃ x ∈ s.unpublished, rowLands outside s.tasks x = true ∧
      x ∈ attempted outside s.tasks (fetchOldest tie batchSize s) := by
  have hmem : e ∈ fetchOrder tie s := mem_fetchOrder.mpr he
  obtain ⟨x, hx⟩ : ∃ x, (fetchOrder tie s).find? (rowLands outside s.tasks) = some x := by
    cases hfind : (fetchOrder tie s).find? (rowLands outside s.tasks) with
    | some x => exact ⟨x, rfl⟩
    | none => exact absurd hlands (by simpa using List.find?_eq_none.mp hfind e hmem)
  obtain ⟨hxlands, pre, post, hsplit, hpre⟩ := List.find?_eq_some_iff_append.mp hx
  have hblocks : ∀ y ∈ pre, y ∈ s.unpublished ∧ blocks outside s.tasks e y = true := by
    intro y hy
    have hymem : y ∈ fetchOrder tie s := by
      rw [hsplit]
      exact List.mem_append_left _ hy
    have hyx := createdAt_le_of_split hsplit hy
    -- `e` is the first row that lands, or behind it
    have hye : y.createdAt ≤ e.createdAt := by
      rw [hsplit] at hmem
      rcases List.mem_append.mp hmem with hin | hin
      · exact absurd hlands (by simpa using hpre e hin)
      · rcases List.mem_cons.mp hin with rfl | hin
        · exact hyx
        · have hsorted : (fetchOrder tie s).Pairwise _ := fetchOrder_sorted
          rw [hsplit] at hsorted
          have hle := (List.pairwise_cons.mp (List.pairwise_append.mp hsorted).2.1).1 e hin
          exact hyx.trans (createdAt_le_of_fetchKey_le hle)
    refine ⟨mem_fetchOrder.mp hymem, ?_⟩
    have hnot := hpre y hy
    simp only [blocks, hnot, hye, decide_true, Bool.and_self]
  have hlen : pre.length < batchSize := by
    have hnodup : (fetchOrder tie s).Nodup := fetchOrder_nodup
    rw [hsplit] at hnodup
    have hsub : pre ⊆ s.unpublished.filter (blocks outside s.tasks e) :=
      fun y hy => List.mem_filter.mpr (hblocks y hy)
    have hle := (List.Nodup.subperm (List.nodup_append.mp hnodup).1 hsub).length_le
    exact lt_of_le_of_lt hle hreach.room
  refine ⟨x, ?_, hxlands, ?_⟩
  · have hxmem : x ∈ fetchOrder tie s := by
      rw [hsplit]
      simp
    exact mem_fetchOrder.mp hxmem
  · have htake : fetchOldest tie batchSize s =
        pre ++ x :: post.take (batchSize - pre.length - 1) := by
      rw [fetchOldest_eq, hsplit, List.take_append, List.take_of_length_le hlen.le]
      obtain ⟨k, hk⟩ : ∃ k, batchSize - pre.length = k + 1 := ⟨batchSize - pre.length - 1, by omega⟩
      rw [hk]
      rfl
    have hcontained : ∀ y ∈ pre, rowEnd outside s.tasks y ≠ .escaped := fun y hy =>
      rowEnd_ne_escaped.mpr (hreach.contained y (hblocks y hy).1 (hblocks y hy).2)
    rw [htake, attempted_append hcontained, attempted]
    simp

variable {ties : Nat → OutboxEntry → Nat} {w : OutboxWorld}

theorem Reachable.afterBatches {e : OutboxEntry} (h : Reachable outside batchSize w.store e)
    (n : Nat) :
    Reachable outside batchSize (CartoonDemo.afterBatches ties outside batchSize w n).store e where
  room := by
    rw [afterBatches_tasks]
    exact lt_of_le_of_lt ((afterBatches_sublist n).filter _).length_le h.room
  contained := by
    intro x hx hb
    rw [afterBatches_tasks] at hb ⊢
    exact h.contained x ((afterBatches_sublist n).subset hx) hb

/-- The unpublished rows that will land. -/
def landing (outside : Outside) (tasks : Table TaskRecord.taskId) (s : Store) :
    List OutboxEntry :=
  s.unpublished.filter (rowLands outside tasks)

/-- While a reachable row waits, every batch takes a row that lands. -/
theorem landing_decreases {e : OutboxEntry} (hlands : rowLands outside w.store.tasks e = true)
    (hreach : Reachable outside batchSize w.store e) {n : Nat}
    (he : e ∈ (afterBatches ties outside batchSize w n).store.unpublished) :
    (landing outside w.store.tasks (afterBatches ties outside batchSize w (n + 1)).store).length <
      (landing outside w.store.tasks (afterBatches ties outside batchSize w n).store).length := by
  have htasks := @afterBatches_tasks ties outside batchSize w n
  obtain ⟨x, hx, hxlands, hxatt⟩ : ∃ x ∈ _, _ ∧ x ∈ attempted outside _
      (fetchOldest (ties n) batchSize (afterBatches ties outside batchSize w n).store) :=
    exists_attempted_lands he (by rw [htasks]; exact hlands) (hreach.afterBatches n)
  rw [htasks] at hxlands hxatt
  unfold landing
  rw [afterBatches_unpublished, List.filter_comm]
  refine List.length_filter_lt_length_iff_exists.mpr ⟨x, List.mem_filter.mpr ⟨hx, hxlands⟩, ?_⟩
  have hid : x.outboxId ∈ batchIds ties outside batchSize w n :=
    (mem_landedIds (fun e he => mem_fetchOldest he) hx).mpr ⟨hxatt, hxlands⟩
  simp [hid]

/-- **A reachable row is published in time.** -/
theorem published_of_reachable {e : OutboxEntry}
    (hlands : rowLands outside w.store.tasks e = true)
    (hreach : Reachable outside batchSize w.store e) :
    e ∉ (afterBatches ties outside batchSize w w.store.unpublished.length).store.unpublished := by
  -- as long as the row waits, each batch has taken one of those that land
  have hcount : ∀ n, e ∈ (afterBatches ties outside batchSize w n).store.unpublished →
      (landing outside w.store.tasks (afterBatches ties outside batchSize w n).store).length + n ≤
        w.store.unpublished.length := by
    intro n
    induction n with
    | zero =>
        intro _
        exact List.length_filter_le _ _
    | succ n ih =>
        intro hin
        have hprev := (mem_afterBatches_succ.mp hin).1
        have hlt := landing_decreases hlands hreach hprev
        have hle := ih hprev
        omega
  intro hin
  have hpos : 0 < (landing outside w.store.tasks
      (afterBatches ties outside batchSize w w.store.unpublished.length).store).length :=
    List.length_pos_of_mem (List.mem_filter.mpr ⟨hin, hlands⟩)
  have hle := hcount _ hin
  omega

end Progress

/-! ### Starvation

Enough rows in front that cannot be published keep a row out of every batch.
-/

section Starvation

variable {outside : Outside} {batchSize : Nat} {w : OutboxWorld}

/-- An order of the database that puts the rows which never land first. -/
def landLast (outside : Outside) (tasks : Table TaskRecord.taskId) (e : OutboxEntry) : Nat :=
  if rowLands outside tasks e then 1 else 0

theorem fetchKey_lt_of_blocks {tasks : Table TaskRecord.taskId} {e x : OutboxEntry}
    (he : rowLands outside tasks e = true) (hx : blocks outside tasks e x = true) :
    fetchKey (landLast outside tasks) x < fetchKey (landLast outside tasks) e := by
  obtain ⟨hnot, hle⟩ : rowLands outside tasks x = false ∧ x.createdAt ≤ e.createdAt := by
    simpa [blocks] using hx
  refine Prod.Lex.toLex_lt_toLex.mpr ?_
  rcases lt_or_eq_of_le hle with hlt | heq
  · exact Or.inl hlt
  · refine Or.inr ⟨heq, ?_⟩
    simp [landLast, he, hnot]

/-- A row that blocks stays. -/
theorem blocks_stays {ties : Nat → OutboxEntry → Nat} {e x : OutboxEntry}
    (hb : blocks outside w.store.tasks e x = true) (hx : x ∈ w.store.unpublished) (n : Nat) :
    x ∈ (afterBatches ties outside batchSize w n).store.unpublished := by
  have hnot : rowLands outside w.store.tasks x = false := by
    have hb' := hb
    simp only [blocks, Bool.and_eq_true, Bool.not_eq_true'] at hb'
    exact hb'.1
  induction n with
  | zero => exact hx
  | succ n ih => exact mem_afterBatches_succ.mpr ⟨ih, fun h => by simp [hnot] at h⟩

/-- **A row that is not reachable is starved**, in the order that puts it last. -/
theorem starved_of_not_reachable {e : OutboxEntry} (he : e ∈ w.store.unpublished)
    (hlands : rowLands outside w.store.tasks e = true)
    (hreach : ¬ Reachable outside batchSize w.store e) (n : Nat) :
    e ∈ (afterBatches (fun _ => landLast outside w.store.tasks) outside batchSize w
      n).store.unpublished := by
  induction n with
  | zero => exact he
  | succ n ih =>
      refine mem_afterBatches_succ.mpr ⟨ih, fun hatt => hreach ?_⟩
      obtain ⟨pre, post, hsplit⟩ :=
        List.append_of_mem (mem_fetchOrder.mpr ih : e ∈ fetchOrder (landLast outside w.store.tasks) _)
      have hnodup := @fetchOrder_nodup (landLast outside w.store.tasks)
        (afterBatches (fun _ => landLast outside w.store.tasks) outside batchSize w n).store
      rw [hsplit] at hnodup
      have hepre : e ∉ pre := fun hin =>
        (List.nodup_append.mp hnodup).2.2 e hin e List.mem_cons_self rfl
      have hpre : ∀ x ∈ w.store.unpublished, blocks outside w.store.tasks e x = true → x ∈ pre :=
        fun x hx hb => mem_pre_of_fetchKey_lt hsplit (blocks_stays hb hx n)
          (fetchKey_lt_of_blocks hlands hb)
      rw [fetchOldest_eq, hsplit] at hatt
      refine ⟨?_, ?_⟩
      · -- were there no room, the window would end before the row
        by_contra hroom
        have hfull : (w.store.unpublished.filter (blocks outside w.store.tasks e)).Nodup :=
          ((List.Nodup.of_map _ w.store.outbox.nodup).filter _).filter _
        have hsub : w.store.unpublished.filter (blocks outside w.store.tasks e) ⊆ pre := by
          intro x hx
          obtain ⟨hmem, hb⟩ := List.mem_filter.mp hx
          exact hpre x hmem hb
        have hlen := (List.Nodup.subperm hfull hsub).length_le
        have hin := attempted_subset hatt.1
        rw [List.take_append_of_le_length (by omega)] at hin
        exact hepre (List.mem_of_mem_take hin)
      · -- were one of them to escape, the batch would end before the row
        intro x hx hb
        refine rowEnd_ne_escaped.mp fun hesc => ?_
        obtain ⟨p, q, hpq⟩ := List.append_of_mem (hpre x hx hb)
        have hin := hatt.1
        rw [hpq, List.append_assoc, List.cons_append] at hin
        rcases mem_attempted_of_escaped hesc hin with hp | rfl
        · exact hepre (by rw [hpq]; exact List.mem_append_left _ hp)
        · exact hepre (hpre _ hx hb)

end Starvation

/-- **Rows that never land do not starve the rest exactly if every row that lands is reachable.** -/
theorem all_published_iff (outside : Outside) (batchSize : Nat) (w : OutboxWorld) :
    (∀ ties, AllPublished ties outside batchSize w) ↔
      ∀ e ∈ w.store.unpublished, rowLands outside w.store.tasks e = true →
        Reachable outside batchSize w.store e := by
  constructor
  · intro h e he hlands
    by_contra hreach
    have hpublished := h (fun _ => landLast outside w.store.tasks) e he hlands
    exact (published_iff_not_mem he).mp hpublished (starved_of_not_reachable he hlands hreach _)
  · intro h ties e he hlands
    exact (published_iff_not_mem he).mpr (published_of_reachable hlands (h e he hlands))

/-! ### One row in front -/

/-- Enqueuing the first row always fails. -/
def enqueueRefused : Outside
  | .enqueue e _ _ _ =>
      if e.outboxId = "row-1" then { fault := some (false, .taskQueueUnavailable "enqueue timed out") }
      else {}
  | _ => {}

/-- With batches of one row the second row is never published. -/
theorem enqueueRefused_starves :
    ¬ ∀ ties, AllPublished ties enqueueRefused 1 twoRows := by
  intro h
  have hrow : newOutboxEntry 1 "row-2" (sampleRow "task-2") ∈ twoRows.store.unpublished := by
    decide +kernel
  obtain ⟨row, hmem, -, hst⟩ := h (fun _ _ => 0) _ hrow (by decide +kernel)
  have hpending : ∀ row ∈ (afterBatches (fun _ _ => 0) enqueueRefused 1 twoRows
      twoRows.store.unpublished.length).store.outbox.rows, row.status = .pending := by
    decide +kernel
  exact absurd ((hpending row hmem).symm.trans hst) (by simp)

end CartoonDemo
