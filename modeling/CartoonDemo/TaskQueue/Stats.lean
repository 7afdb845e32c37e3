import Mathlib.Order.MinMax
import CartoonDemo.TaskQueue.Untrusted

/-!
# CartoonDemo.TaskQueue.Stats

The **depth and the age of a queue** (`stats.py`). The age is taken from the undelivered entries
and from the pending ones, of which `XPENDING` is asked for a thousand. The ids are in the order
of publication, not of `created_at`, so an entry behind the first thousand can be the oldest; and
a time stamp that `_parse_created_at` raises on ends the whole report.

`collect_exact_iff` says when the report is exact: no listed entry raises, and every entry that
the limit hides is no older than a listed one, or not older than the clock.
-/

namespace CartoonDemo

namespace TaskQueue

open MessageValidator

/-- `QueueStats`; the age in microseconds, which `total_seconds` divides. -/
structure QueueStats where
  depth : Nat
  oldestMessageAge : Int
  deriving DecidableEq, Repr

/-- `STREAM_CONVENTIONS`: the streams and their consumer groups. -/
def streamConventions : List (String × String) :=
  [("cartoon:tasks:collect", "cartoon:workers:collect"),
   ("cartoon:tasks:select_topic", "cartoon:workers:select_topic"),
   ("cartoon:tasks:generate_scenario", "cartoon:workers:generate_scenario"),
   ("cartoon:tasks:review_scenario", "cartoon:workers:review_scenario")]

/-- `resolve_consumer_group`. -/
def resolveConsumerGroup (stream : String) : Except QueueException String :=
  match streamConventions.lookup stream with
  | none => .error (.streamNotFound (streamNotFoundMessage stream) stream)
  | some group => .ok group

namespace QueueStatsCollector

/-- The count of `xpending_range`. -/
def pendingLimit : Nat := 1000

/-- `_find_group_row`, among the groups of a stream that exists. -/
def findGroupRow (q : RedisTaskQueue) (stream group : String) : Except QueueException Unit :=
  if stream ≠ q.stream then .error (.redis "no such key")
  else if group = q.group then .ok ()
  else .error (RedisTaskQueue.groupError stream group "consumer group not found")

/-- `fields.get("created_at")`. -/
def createdAtRaw (fields : FieldMap) : Option PyText := fields.reverse.lookup (.str "created_at")

/-- `_created_at_for_entry`. -/
def createdAtForEntry (s : RedisStream) (id : StreamId) :
    Except QueueException (Option PyDatetime) :=
  match (s.entry id).bind fun e => createdAtRaw e.2 with
  | none => .ok none
  | some raw =>
      match raw.decode with
      | none => .error .unicodeDecode
      | some text => parseCreatedAt text

/-- `_pending_entries`. -/
def pendingEntries (s : RedisStream) : List StreamId :=
  (s.pending.map Prod.fst).take pendingLimit

/-- `_lag_entry_ids`. -/
def lagEntryIds (s : RedisStream) : List StreamId := s.undelivered.map Prod.fst

/-- The age of the oldest of some instants. -/
def ageOf (now : Int) (instants : List Int) : Int :=
  match instants.min? with
  | none => 0
  | some oldest => max 0 (now - oldest)

/-- `collect`, at an instant of the clock. -/
def collect (q : RedisTaskQueue) (now : Int) (stream : String) (s : RedisStream) :
    Except QueueException QueueStats := do
  let group ← resolveConsumerGroup stream
  findGroupRow q stream group
  let depth := s.undelivered.length + s.pending.length
  if depth = 0 then .ok { depth := 0, oldestMessageAge := 0 }
  else
    let pending ← (pendingEntries s).mapM (createdAtForEntry s)
    let lag ← (lagEntryIds s).mapM (createdAtForEntry s)
    let createdAtValues := (pending ++ lag).filterMap fun d => d.map PyDatetime.instant
    .ok { depth, oldestMessageAge := ageOf now createdAtValues }

/-! ### What the report is about

The messages that have not been acknowledged, and the ones among them that the two commands list.
-/

/-- The parseable `created_at` of an entry, as an instant. -/
def created (s : RedisStream) (id : StreamId) : Option Int :=
  match createdAtForEntry s id with
  | .ok d => d.map PyDatetime.instant
  | .error _ => none

/-- All undelivered and pending entries. -/
def waiting (s : RedisStream) : List StreamId := s.pending.map Prod.fst ++ lagEntryIds s

/-- The report that is asked for. -/
def ExactStats (q : RedisTaskQueue) (now : Int) (s : RedisStream) : Prop :=
  collect q now q.stream s = .ok
    { depth := s.undelivered.length + s.pending.length
      oldestMessageAge := ageOf now ((waiting s).filterMap (created s)) }

/-- The entries that are looked at. -/
def listed (s : RedisStream) : List StreamId := pendingEntries s ++ lagEntryIds s

/-- The pending entries behind the limit. -/
def hidden (s : RedisStream) : List StreamId := (s.pending.map Prod.fst).drop pendingLimit

/-- The time stamp of the entry is bytes that are not UTF-8, or a datetime with an offset that has
no UTC equivalent. -/
def Raises (s : RedisStream) (id : StreamId) : Prop :=
  ∃ e raw, s.entry id = some e ∧ createdAtRaw e.2 = some raw ∧
    (¬ raw.Decodes ∨ ∃ text d, raw.decode = some text ∧
      PyDatetime.fromisoformat (isoOf text) = some d ∧ d.offset.isSome ∧ d.astimezoneUtc = none)

/-- No listed entry raises, and a hidden one does not change the age. -/
def ListedSuffice (now : Int) (s : RedisStream) : Prop :=
  (∀ id ∈ listed s, ¬ Raises s id) ∧
  ∀ t ∈ (hidden s).filterMap (created s),
    now ≤ t ∨ ∃ t' ∈ (listed s).filterMap (created s), t' ≤ t

/-! ### Time stamps -/

theorem parseCreatedAt_cases (text : String) :
    (∃ d, parseCreatedAt text = .ok d ∧ ∀ d', PyDatetime.fromisoformat (isoOf text) = some d' →
        d'.offset.isSome → d'.astimezoneUtc ≠ none) ∨
    ∃ d, PyDatetime.fromisoformat (isoOf text) = some d ∧ d.offset.isSome ∧
        d.astimezoneUtc = none ∧ parseCreatedAt text = .error .overflow := by
  rw [parseCreatedAt, ← isoOf]
  cases hd : PyDatetime.fromisoformat (isoOf text) with
  | none => exact Or.inl ⟨none, rfl, fun d' hd' => absurd hd' (by simp)⟩
  | some d =>
      cases hoffset : d.offset with
      | none =>
          refine Or.inl ⟨none, by simp [hoffset], fun d' hd' ho => ?_⟩
          obtain rfl := Option.some.inj hd'
          rw [hoffset] at ho
          exact absurd ho (by simp)
      | some o =>
          cases hutc : d.astimezoneUtc with
          | some utc =>
              refine Or.inl ⟨some utc, by simp [hoffset, hutc], fun d' hd' _ => ?_⟩
              obtain rfl := Option.some.inj hd'
              rw [hutc]
              simp
          | none =>
              exact Or.inr ⟨d, rfl, by simp [hoffset], hutc, by simp [hoffset, hutc]⟩

/-- An entry raises, or its time stamp is known. -/
theorem createdAtForEntry_cases (s : RedisStream) (id : StreamId) :
    (¬ Raises s id ∧ ∃ d, createdAtForEntry s id = .ok d) ∨
      (Raises s id ∧ ∃ e, createdAtForEntry s id = .error e) := by
  rw [createdAtForEntry]
  cases he : s.entry id with
  | none => exact Or.inl ⟨fun ⟨e, _, hentry, _⟩ => absurd (he.symm.trans hentry) (by simp), none, rfl⟩
  | some e =>
      rw [Option.bind_some]
      cases hraw : createdAtRaw e.2 with
      | none =>
          refine Or.inl ⟨fun ⟨e', raw, hentry, hraw', _⟩ => ?_, none, rfl⟩
          obtain rfl := Option.some.inj (he.symm.trans hentry)
          exact absurd (hraw.symm.trans hraw') (by simp)
      | some raw =>
          have hsame : ∀ e' raw', s.entry id = some e' → createdAtRaw e'.2 = some raw' → raw' = raw := by
            intro e' raw' hentry hraw'
            obtain rfl := Option.some.inj (he.symm.trans hentry)
            exact Option.some.inj (hraw'.symm.trans hraw)
          cases htext : raw.decode with
          | none =>
              have hnot : ¬ raw.Decodes := by
                rw [← PyText.decode_isSome_iff, htext]
                simp
              simp only [htext]
              exact Or.inr ⟨⟨e, raw, he, hraw, Or.inl hnot⟩, _, rfl⟩
          | some text =>
              have hdecodes : raw.Decodes := PyText.decode_isSome_iff.mp (by rw [htext]; rfl)
              simp only [htext]
              rcases parseCreatedAt_cases text with ⟨d, hd, hfine⟩ | ⟨d, hd, ho, hutc, herror⟩
              · refine Or.inl ⟨fun ⟨e', raw', hentry, hraw', hbad⟩ => ?_, d, hd⟩
                obtain rfl := hsame e' raw' hentry hraw'
                rcases hbad with hbad | ⟨text', d', htext', hd', ho, hutc⟩
                · exact hbad hdecodes
                · obtain rfl := Option.some.inj (htext.symm.trans htext')
                  exact hfine d' hd' ho hutc
              · exact Or.inr ⟨⟨e, raw, he, hraw, Or.inr ⟨text, d, htext, hd, ho, hutc⟩⟩, _, herror⟩

/-- The time stamps of entries that do not raise. -/
theorem mapM_createdAt {s : RedisStream} {ids : List StreamId} (h : ∀ id ∈ ids, ¬ Raises s id) :
    ∃ ds, ids.mapM (createdAtForEntry s) = .ok ds ∧
      ds.filterMap (fun d => d.map PyDatetime.instant) = ids.filterMap (created s) := by
  induction ids with
  | nil => exact ⟨[], rfl, rfl⟩
  | cons id ids ih =>
      obtain ⟨ds, hds, htimes⟩ := ih fun a ha => h a (List.mem_cons_of_mem _ ha)
      rcases createdAtForEntry_cases s id with ⟨-, d, hd⟩ | ⟨hraises, -⟩
      · refine ⟨d :: ds, by rw [List.mapM_cons, hd, hds]; rfl, ?_⟩
        have hcreated : created s id = d.map PyDatetime.instant := by rw [created, hd]
        rw [List.filterMap_cons, List.filterMap_cons, hcreated, htimes]
      · exact absurd hraises (h id (List.mem_cons_self ..))

/-- One entry that raises ends the report. -/
theorem mapM_createdAt_error {s : RedisStream} {ids : List StreamId}
    (h : ∃ id ∈ ids, Raises s id) : ∃ e, ids.mapM (createdAtForEntry s) = .error e := by
  induction ids with
  | nil => obtain ⟨id, hid, -⟩ := h; exact absurd hid (by simp)
  | cons a ids ih =>
      rw [List.mapM_cons]
      rcases createdAtForEntry_cases s a with ⟨hno, d, hd⟩ | ⟨-, e, he⟩
      · have hrest : ∃ id ∈ ids, Raises s id := by
          obtain ⟨id, hid, hraises⟩ := h
          rcases List.mem_cons.mp hid with rfl | hid
          · exact absurd hraises hno
          · exact ⟨id, hid, hraises⟩
        obtain ⟨e, he⟩ := ih hrest
        exact ⟨e, by rw [hd, he]; rfl⟩
      · exact ⟨e, by rw [he]; rfl⟩

/-! ### Ages -/

/-- The age is the least bound, from zero on, of what has passed since each instant. -/
theorem ageOf_le_iff {now : Int} {ts : List Int} {a : Int} (ha : 0 ≤ a) :
    ageOf now ts ≤ a ↔ ∀ t ∈ ts, now - t ≤ a := by
  rw [ageOf.eq_def]
  cases h : ts.min? with
  | none =>
      rw [List.min?_eq_none_iff.mp h]
      exact ⟨fun _ t ht => absurd ht (by simp), fun _ => ha⟩
  | some oldest =>
      obtain ⟨hmem, hle⟩ := List.min?_eq_some_iff.mp h
      constructor
      · intro hmax t ht
        have := hle t ht
        have := le_trans (le_max_right _ _) hmax
        omega
      · intro hall
        exact max_le ha (hall oldest hmem)

theorem ageOf_nonneg (now : Int) (ts : List Int) : 0 ≤ ageOf now ts := by
  rw [ageOf.eq_def]
  cases ts.min? with
  | none => exact le_refl 0
  | some oldest => exact le_max_left _ _

/-- What has passed since an instant is within the age. -/
theorem le_ageOf {now t : Int} {ts : List Int} (h : t ∈ ts) : now - t ≤ ageOf now ts :=
  (ageOf_le_iff (ageOf_nonneg now ts)).mp (le_refl _) t h

/-- An age of more than zero is that of one of the instants. -/
theorem exists_ageOf {now a : Int} {ts : List Int} (ha : 0 < a) (h : a ≤ ageOf now ts) :
    ∃ t ∈ ts, a ≤ now - t := by
  by_contra hnone
  have hall : ∀ t ∈ ts, now - t ≤ a - 1 := by
    intro t ht
    by_contra hlt
    exact hnone ⟨t, ht, by omega⟩
  have := (ageOf_le_iff (show 0 ≤ a - 1 by omega)).mpr hall
  omega

/-- More instants leave the age as it is, when none of them counts. -/
theorem ageOf_eq_iff {now : Int} {some' all hid : List Int}
    (hall : ∀ t, t ∈ all ↔ t ∈ some' ∨ t ∈ hid) :
    ageOf now some' = ageOf now all ↔ ∀ t ∈ hid, now ≤ t ∨ ∃ t' ∈ some', t' ≤ t := by
  have hle : ageOf now some' ≤ ageOf now all :=
    (ageOf_le_iff (ageOf_nonneg _ _)).mpr fun t ht => le_ageOf ((hall t).mpr (Or.inl ht))
  constructor
  · intro heq t ht
    by_cases hnow : now ≤ t
    · exact Or.inl hnow
    · have hage : now - t ≤ ageOf now some' := heq ▸ le_ageOf ((hall t).mpr (Or.inr ht))
      obtain ⟨t', ht', hle'⟩ := exists_ageOf (by omega) hage
      exact Or.inr ⟨t', ht', by omega⟩
  · intro h
    refine le_antisymm hle ((ageOf_le_iff (ageOf_nonneg _ _)).mpr fun t ht => ?_)
    rcases (hall t).mp ht with ht | ht
    · exact le_ageOf ht
    · rcases h t ht with hnow | ⟨t', ht', hle'⟩
      · have := ageOf_nonneg now some'
        omega
      · have hage : now - t' ≤ ageOf now some' := le_ageOf ht'
        omega

/-! ### The report -/

/-- What `collect` reports, when nothing that it lists raises. -/
theorem collect_eq {q : RedisTaskQueue} {now : Int} {s : RedisStream}
    (hgroup : resolveConsumerGroup q.stream = .ok q.group) (h : ∀ id ∈ listed s, ¬ Raises s id) :
    collect q now q.stream s = .ok
      { depth := s.undelivered.length + s.pending.length
        oldestMessageAge := ageOf now ((listed s).filterMap (created s)) } := by
  have hrow : findGroupRow q q.stream q.group = .ok () := by
    rw [findGroupRow, if_neg (by simp), if_pos rfl]
  obtain ⟨pending, hpending, htimes⟩ := mapM_createdAt fun id hid => h id (List.mem_append_left _ hid)
  obtain ⟨lag, hlag, htimes'⟩ := mapM_createdAt fun id hid => h id (List.mem_append_right _ hid)
  rw [collect, hgroup]
  simp only [bind, Except.bind, hrow]
  split
  · next hdepth =>
    have hnone : listed s = [] := by
      have hundelivered : s.undelivered = [] := List.length_eq_zero_iff.mp (by omega)
      have hpending : s.pending = [] := List.length_eq_zero_iff.mp (by omega)
      rw [listed, pendingEntries, lagEntryIds, hundelivered, hpending]
      rfl
    rw [hnone, hdepth]
    rfl
  · simp only [hpending, hlag, List.filterMap_append, htimes, htimes', listed]

theorem collect_error {q : RedisTaskQueue} {now : Int} {s : RedisStream}
    (hgroup : resolveConsumerGroup q.stream = .ok q.group) (h : ∃ id ∈ listed s, Raises s id) :
    ∃ e, collect q now q.stream s = .error e := by
  have hrow : findGroupRow q q.stream q.group = .ok () := by
    rw [findGroupRow, if_neg (by simp), if_pos rfl]
  obtain ⟨id, hid, hraises⟩ := h
  have hdepth : ¬ s.undelivered.length + s.pending.length = 0 := by
    intro hdepth
    have hundelivered : s.undelivered = [] := List.length_eq_zero_iff.mp (by omega)
    have hpending : s.pending = [] := List.length_eq_zero_iff.mp (by omega)
    rw [listed, pendingEntries, lagEntryIds, hundelivered, hpending] at hid
    exact absurd hid (by simp)
  rw [collect, hgroup]
  simp only [bind, Except.bind, hrow, hdepth, if_false]
  by_cases hpending : ∃ id ∈ pendingEntries s, Raises s id
  · obtain ⟨e, he⟩ := mapM_createdAt_error hpending
    exact ⟨e, by rw [he]⟩
  · have hfine : ∀ id ∈ pendingEntries s, ¬ Raises s id := fun id hid hr => hpending ⟨id, hid, hr⟩
    have hlag : id ∈ lagEntryIds s :=
      (List.mem_append.mp hid).resolve_left fun hmem => hfine id hmem hraises
    obtain ⟨ds, hds, -⟩ := mapM_createdAt hfine
    obtain ⟨e, he⟩ := mapM_createdAt_error ⟨id, hlag, hraises⟩
    exact ⟨e, by rw [hds]; simp only [he]⟩

/-- What is waiting is listed or hidden. -/
theorem mem_waiting_times {s : RedisStream} {t : Int} :
    t ∈ (waiting s).filterMap (created s) ↔
      t ∈ (listed s).filterMap (created s) ∨ t ∈ (hidden s).filterMap (created s) := by
  have hsplit : s.pending.map Prod.fst = pendingEntries s ++ hidden s :=
    (List.take_append_drop _ _).symm
  rw [waiting, listed, hsplit]
  simp only [List.filterMap_append, List.mem_append]
  tauto

theorem exactStats_iff {q : RedisTaskQueue} (now : Int) (s : RedisStream)
    (hgroup : resolveConsumerGroup q.stream = .ok q.group) :
    ExactStats q now s ↔ ListedSuffice now s := by
  by_cases hraises : ∃ id ∈ listed s, Raises s id
  · obtain ⟨e, he⟩ : ∃ e, collect q now q.stream s = .error e := collect_error hgroup hraises
    rw [ExactStats, he]
    refine ⟨fun h => absurd h (by simp), fun h => ?_⟩
    obtain ⟨id, hid, hr⟩ := hraises
    exact absurd hr (h.1 id hid)
  · have hfine : ∀ id ∈ listed s, ¬ Raises s id := fun id hid hr => hraises ⟨id, hid, hr⟩
    rw [ExactStats, collect_eq hgroup hfine, Except.ok.injEq, QueueStats.mk.injEq,
      ageOf_eq_iff fun t => mem_waiting_times]
    exact ⟨fun h => ⟨hfine, h.2⟩, fun h => ⟨rfl, h.2⟩⟩

/-- **The report is exact** when the listed entries suffice for it, and only then. -/
theorem collect_exact_iff (q : RedisTaskQueue) (now : Int) (s : RedisStream)
    (hgroup : resolveConsumerGroup q.stream = .ok q.group) :
    ExactStats q now s ↔ ListedSuffice now s :=
  exactStats_iff now s hgroup

/-! ### A backlog of more than a thousand

The oldest message that waits is not among those that are listed.
-/

/-- The fields of a task that was created at some time. -/
def createdFields (createdAt : String) : FieldMap :=
  [(.str "task_id", .str "t"), (.str "workflow_id", .str "w"), (.str "task_type", .str "COLLECT"),
   (.str "attempt", .str "1"), (.str "created_at", .str createdAt),
   (.str "payload_reference", .str "ref")]

/-- A thousand tasks of one evening, and behind them one that was created in the morning. -/
def backlogEntry (i : Nat) : StreamId × FieldMap :=
  (toLex (i, 0), createdFields (if i < 1000 then "2026-08-31T20:00:00Z" else "2026-08-31T08:00:00Z"))

theorem backlog_sorted (n : Nat) :
    ((List.range n).map fun i => (toLex (i, 0) : StreamId)).Pairwise (· < ·) := by
  rw [List.pairwise_map]
  refine List.pairwise_lt_range.imp fun {i j} hij => ?_
  exact Prod.Lex.toLex_lt_toLex.mpr (Or.inl hij)

theorem backlog_le (n : Nat) : ∀ id ∈ (List.range n).map fun i => (toLex (i, 0) : StreamId),
    id ≤ toLex (n, 0) := by
  intro id hid
  obtain ⟨i, hi, rfl⟩ := List.mem_map.mp hid
  exact le_of_lt (Prod.Lex.toLex_lt_toLex.mpr (Or.inl (List.mem_range.mp hi)))

/-- The first `n` of them, delivered and not acknowledged. -/
def backlog (n : Nat) : RedisStream where
  entries := (List.range n).map backlogEntry
  lastId := toLex (n, 0)
  lastDelivered := toLex (n, 0)
  pending := (List.range n).map fun i => (toLex (i, 0), "worker-1")
  entries_sorted := by rw [List.map_map]; exact backlog_sorted n
  entries_le := by rw [List.map_map]; exact backlog_le n
  pending_sorted := by rw [List.map_map]; exact backlog_sorted n
  pending_le := by rw [List.map_map]; exact backlog_le n

theorem pending_backlog (n : Nat) : (backlog n).pending.map Prod.fst =
    (List.range n).map fun i => (toLex (i, 0) : StreamId) := by
  show ((List.range n).map fun i => ((toLex (i, 0) : StreamId), "worker-1")).map Prod.fst = _
  rw [List.map_map]
  rfl

theorem undelivered_backlog (n : Nat) : (backlog n).undelivered = [] := by
  rw [ConsumerGroup.undelivered, List.filter_eq_nil_iff]
  intro e he
  have hle : e.1 ≤ (backlog n).lastDelivered := (backlog n).entries_le e.1 (List.mem_map_of_mem he)
  rw [decide_eq_true_eq]
  exact not_lt_of_ge hle

theorem created_backlog {n i : Nat} (hi : i < n) : created (backlog n) (toLex (i, 0)) =
    some (if i < 1000 then 63923803200000000 else 63923760000000000) := by
  have hmem : backlogEntry i ∈ (backlog n).entries := by
    show backlogEntry i ∈ (List.range n).map backlogEntry
    exact List.mem_map_of_mem (List.mem_range.mpr hi)
  have hentry : (backlog n).entry (toLex (i, 0)) = some (backlogEntry i) :=
    ConsumerGroup.entry_of_mem hmem
  rw [created, createdAtForEntry, hentry]
  by_cases hlate : i < 1000
  · rw [backlogEntry, if_pos hlate, if_pos hlate]
    simp only [Option.bind_some]
    decide +kernel
  · rw [backlogEntry, if_neg hlate, if_neg hlate]
    simp only [Option.bind_some]
    decide +kernel

/-- At midnight the report is twelve hours short, as soon as the old task is behind the limit. -/
theorem backlog_understated : ¬ ExactStats collectQueue 63923817600000000 (backlog 1001) := by
  rw [exactStats_iff _ _ rfl]
  rintro ⟨-, h⟩
  have hhidden : (63923760000000000 : Int) ∈ (hidden (backlog 1001)).filterMap
      (created (backlog 1001)) := by
    rw [List.mem_filterMap]
    refine ⟨toLex (1000, 0), ?_, created_backlog (by omega)⟩
    rw [hidden, pending_backlog, ← List.map_drop, List.mem_map]
    exact ⟨1000, List.mem_drop_iff_getElem.mpr ⟨0, by simp [pendingLimit], by simp [pendingLimit]⟩, rfl⟩
  rcases h _ hhidden with hnow | ⟨t, ht, hle⟩
  · exact absurd hnow (by decide)
  · obtain ⟨id, hid, hcreated⟩ := List.mem_filterMap.mp ht
    rw [listed, lagEntryIds, undelivered_backlog, List.map_nil, List.append_nil, pendingEntries,
      pending_backlog, ← List.map_take, List.take_range, List.mem_map] at hid
    obtain ⟨i, hi, rfl⟩ := hid
    have hlt : i < 1000 := by
      simp only [List.mem_range, pendingLimit] at hi
      omega
    rw [created_backlog (by omega), if_pos hlt] at hcreated
    have := Option.some.inj hcreated
    omega

theorem collect_exact_iff_short : ExactStats collectQueue 63923817600000000 (backlog 2) ↔
    ListedSuffice 63923817600000000 (backlog 2) :=
  collect_exact_iff collectQueue 63923817600000000 (backlog 2) rfl

end QueueStatsCollector

end TaskQueue

end CartoonDemo
