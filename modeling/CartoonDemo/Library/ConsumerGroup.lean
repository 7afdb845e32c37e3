import Mathlib.Data.List.Pairwise
import Mathlib.Order.Lattice

/-!
# CartoonDemo.Library.ConsumerGroup

A **log with a consumer group**, as Redis streams have it: entries in the order of their ids, the
id up to which the group has been served, and the pending list of what was served and not
acknowledged. Any value of the type is a well-formed stream: its lists are sorted, and nothing is
pending beyond the position of the group.

An entry that was acknowledged is `Settled`: no read and no claim returns it again
(`Settled.read_ne`, `Settled.claim_ne`), and every operation keeps it so.
-/

namespace CartoonDemo

universe u v w

/-- A stream of entries `φ` under ids `ι`, with one group of consumers `κ`. -/
structure ConsumerGroup (ι : Type u) (φ : Type v) (κ : Type w) [LinearOrder ι] where
  entries : List (ι × φ)
  /-- The last id that was given out. -/
  lastId : ι
  /-- The position of the group. -/
  lastDelivered : ι
  /-- What was delivered and not acknowledged, and to whom. -/
  pending : List (ι × κ)
  entries_sorted : (entries.map Prod.fst).Pairwise (· < ·)
  entries_le : ∀ id ∈ entries.map Prod.fst, id ≤ lastId
  pending_sorted : (pending.map Prod.fst).Pairwise (· < ·)
  pending_le : ∀ id ∈ pending.map Prod.fst, id ≤ lastDelivered

namespace ConsumerGroup

variable {ι : Type u} {φ : Type v} {κ : Type w} [LinearOrder ι]

/-- The entries after the position of the group. -/
def undelivered (s : ConsumerGroup ι φ κ) : List (ι × φ) :=
  s.entries.filter fun e => s.lastDelivered < e.1

/-- `XRANGE` of a single id. -/
def entry (s : ConsumerGroup ι φ κ) (id : ι) : Option (ι × φ) :=
  s.entries.find? fun e => e.1 = id

/-- `XADD`; an id that is not beyond the last one is refused. -/
def add (s : ConsumerGroup ι φ κ) (id : ι) (fields : φ) : ConsumerGroup ι φ κ :=
  if h : s.lastId < id then
    { s with
      entries := s.entries ++ [(id, fields)]
      lastId := id
      entries_sorted := by
        rw [List.map_append, List.pairwise_append]
        refine ⟨s.entries_sorted, List.pairwise_singleton _ _, fun a ha b hb => ?_⟩
        rw [List.mem_singleton.mp hb]
        exact lt_of_le_of_lt (s.entries_le a ha) h
      entries_le := by
        intro a ha
        rw [List.map_append, List.mem_append] at ha
        rcases ha with ha | ha
        · exact le_of_lt (lt_of_le_of_lt (s.entries_le a ha) h)
        · exact le_of_eq (List.mem_singleton.mp ha) }
  else s

/-- `XREADGROUP … COUNT 1 STREAMS s >`: the next undelivered entry becomes pending. -/
def read (s : ConsumerGroup ι φ κ) (consumer : κ) : ConsumerGroup ι φ κ × Option (ι × φ) :=
  match h : s.entries.find? fun e => s.lastDelivered < e.1 with
  | none => (s, none)
  | some e =>
      have hlt : s.lastDelivered < e.1 := by simpa using List.find?_some h
      ({ s with
          lastDelivered := e.1
          pending := s.pending ++ [(e.1, consumer)]
          pending_sorted := by
            rw [List.map_append, List.pairwise_append]
            refine ⟨s.pending_sorted, List.pairwise_singleton _ _, fun a ha b hb => ?_⟩
            rw [List.mem_singleton.mp hb]
            exact lt_of_le_of_lt (s.pending_le a ha) hlt
          pending_le := by
            intro a ha
            rw [List.map_append, List.mem_append] at ha
            rcases ha with ha | ha
            · exact le_of_lt (lt_of_le_of_lt (s.pending_le a ha) hlt)
            · exact le_of_eq (List.mem_singleton.mp ha) }, some e)

/-- The pending list without an id. -/
def drop (s : ConsumerGroup ι φ κ) (id : ι) : ConsumerGroup ι φ κ :=
  have hsub : ((s.pending.filter fun p => p.1 ≠ id).map Prod.fst).Sublist (s.pending.map Prod.fst) :=
    List.filter_sublist.map _
  { s with
    pending := s.pending.filter fun p => p.1 ≠ id
    pending_sorted := s.pending_sorted.sublist hsub
    pending_le := fun a ha => s.pending_le a (hsub.subset ha) }

/-- `XACK` of one id, and how many it removed. -/
def ack (s : ConsumerGroup ι φ κ) (id : ι) : ConsumerGroup ι φ κ × Nat :=
  (s.drop id, if id ∈ s.pending.map Prod.fst then 1 else 0)

/-- A pending id goes to another consumer. -/
def reassign (s : ConsumerGroup ι φ κ) (id : ι) (consumer : κ) : ConsumerGroup ι φ κ :=
  have hfst : (s.pending.map fun p => if p.1 = id then (p.1, consumer) else p).map Prod.fst =
      s.pending.map Prod.fst := by
    rw [List.map_map]
    refine List.map_congr_left fun p _ => ?_
    show (if p.1 = id then (p.1, consumer) else p).1 = p.1
    split <;> rfl
  { s with
    pending := s.pending.map fun p => if p.1 = id then (p.1, consumer) else p
    pending_sorted := hfst ▸ s.pending_sorted
    pending_le := hfst ▸ s.pending_le }

/-- `XAUTOCLAIM … 0 start COUNT 1`: the first pending entry from `start` on, and the id where the
next scan would go on (`none` stands for `0-0`). An entry that is no longer in the stream is
removed from the pending list instead. -/
def claim (s : ConsumerGroup ι φ κ) (consumer : κ) (start : ι) :
    ConsumerGroup ι φ κ × Option ι × Option (ι × φ) :=
  match (s.pending.map Prod.fst).filter fun id => start ≤ id with
  | [] => (s, none, none)
  | id :: rest =>
      match s.entry id with
      | none => (s.drop id, rest.head?, none)
      | some e => (s.reassign id consumer, rest.head?, some e)

/-! ### What the operations do -/

variable {s : ConsumerGroup ι φ κ}

theorem read_none {consumer : κ} (h : s.undelivered = []) : s.read consumer = (s, none) := by
  have hnone : s.entries.find? (fun e => s.lastDelivered < e.1) = none := by
    rw [List.find?_eq_none]
    exact List.filter_eq_nil_iff.mp h
  rw [read]
  split
  · rfl
  · next e he => rw [hnone] at he; exact absurd he (by simp)

/-- An entry that is read lies beyond the position, which moves to it. -/
theorem read_some {consumer : κ} {e : ι × φ} (h : (s.read consumer).2 = some e) :
    e ∈ s.entries ∧ s.lastDelivered < e.1 ∧ (s.read consumer).1.lastDelivered = e.1 ∧
      (s.read consumer).1.pending = s.pending ++ [(e.1, consumer)] ∧
      (s.read consumer).1.entries = s.entries := by
  rw [read] at h ⊢
  split at h
  · exact absurd h (by simp)
  · next e' he =>
    obtain rfl := Option.some.inj h
    exact ⟨List.mem_of_find?_eq_some he, by simpa using List.find?_some he, rfl, rfl, rfl⟩

/-- A read that returns nothing changes nothing. -/
theorem read_eq_self {consumer : κ} (h : (s.read consumer).2 = none) : (s.read consumer).1 = s := by
  rw [read] at h ⊢
  split at h
  · rfl
  · exact absurd h (by simp)

theorem entry_fst {id : ι} {e : ι × φ} (h : s.entry id = some e) : e.1 = id := by
  simpa using List.find?_some h

/-- An id has one entry. -/
theorem entry_of_mem {e : ι × φ} (h : e ∈ s.entries) : s.entry e.1 = some e := by
  have hsorted := List.pairwise_map.mp s.entries_sorted
  rw [entry]
  generalize s.entries = entries at h hsorted
  induction entries with
  | nil => exact absurd h (by simp)
  | cons e' entries ih =>
      obtain ⟨hhead, htail⟩ := List.pairwise_cons.mp hsorted
      rcases List.mem_cons.mp h with rfl | h
      · exact List.find?_cons_of_pos (by simp)
      · rw [List.find?_cons_of_neg (by simpa using ne_of_lt (hhead e h))]
        exact ih h htail

theorem mem_pending_drop {id a : ι} :
    a ∈ (s.drop id).pending.map Prod.fst ↔ a ∈ s.pending.map Prod.fst ∧ a ≠ id := by
  show a ∈ (s.pending.filter fun p => p.1 ≠ id).map Prod.fst ↔ _
  simp only [List.mem_map, List.mem_filter, decide_eq_true_eq]
  constructor
  · rintro ⟨p, ⟨hp, hne⟩, rfl⟩
    exact ⟨⟨p, hp, rfl⟩, hne⟩
  · rintro ⟨⟨p, hp, rfl⟩, hne⟩
    exact ⟨p, ⟨hp, hne⟩, rfl⟩

theorem pending_reassign (id : ι) (consumer : κ) :
    (s.reassign id consumer).pending.map Prod.fst = s.pending.map Prod.fst := by
  show (s.pending.map fun p => if p.1 = id then (p.1, consumer) else p).map Prod.fst = _
  rw [List.map_map]
  refine List.map_congr_left fun p _ => ?_
  show (if p.1 = id then (p.1, consumer) else p).1 = p.1
  split <;> rfl

/-- A claimed entry was pending and stays so. -/
theorem claim_some {consumer : κ} {start : ι} {e : ι × φ}
    (h : (s.claim consumer start).2.2 = some e) :
    s.entry e.1 = some e ∧ e.1 ∈ s.pending.map Prod.fst ∧
      (s.claim consumer start).1 = s.reassign e.1 consumer := by
  rw [claim] at h ⊢
  split at h
  · exact absurd h (by simp)
  · next id rest hids =>
    have hmem : id ∈ s.pending.map Prod.fst :=
      (List.mem_filter.mp (hids ▸ List.mem_cons_self ..)).1
    split at h
    · exact absurd h (by simp)
    · next e' he =>
      obtain rfl := Option.some.inj h
      obtain rfl := entry_fst he
      simp only [he]
      exact ⟨trivial, hmem, trivial⟩

/-- What a claim leaves pending was pending. -/
theorem claim_subset {consumer : κ} {start a : ι}
    (h : a ∈ (s.claim consumer start).1.pending.map Prod.fst) : a ∈ s.pending.map Prod.fst := by
  rw [claim] at h
  split at h
  · exact h
  · split at h
    · exact (mem_pending_drop.mp h).1
    · rwa [pending_reassign] at h

theorem claim_lastDelivered {consumer : κ} {start : ι} :
    (s.claim consumer start).1.lastDelivered = s.lastDelivered := by
  rw [claim]
  split
  · rfl
  · split <;> rfl

/-! ### Settled entries

An acknowledged entry is behind the position of the group and not pending: nothing returns it again.
-/

/-- The id was delivered, and it is not pending any more. -/
def Settled (s : ConsumerGroup ι φ κ) (id : ι) : Prop :=
  id ∉ s.pending.map Prod.fst ∧ id ≤ s.lastDelivered

theorem Settled.add {id : ι} (h : s.Settled id) (id' : ι) (fields : φ) :
    (s.add id' fields).Settled id := by
  rw [ConsumerGroup.add]
  split <;> exact h

theorem Settled.ack {id : ι} (h : s.Settled id) (id' : ι) : (s.ack id').1.Settled id :=
  ⟨fun hmem => h.1 (mem_pending_drop.mp hmem).1, h.2⟩

theorem Settled.claim {id : ι} (h : s.Settled id) (consumer : κ) (start : ι) :
    (s.claim consumer start).1.Settled id :=
  ⟨fun hmem => h.1 (claim_subset hmem), by rw [claim_lastDelivered]; exact h.2⟩

theorem Settled.claim_ne {id start : ι} {consumer : κ} {e : ι × φ} (h : s.Settled id)
    (he : (s.claim consumer start).2.2 = some e) : e.1 ≠ id := by
  rintro rfl
  exact h.1 (claim_some he).2.1

theorem Settled.read {id : ι} (h : s.Settled id) (consumer : κ) :
    (s.read consumer).1.Settled id := by
  cases hr : (s.read consumer).2 with
  | none => rwa [read_eq_self hr]
  | some e =>
      obtain ⟨-, hlt, hlast, hpending, -⟩ := read_some hr
      refine ⟨?_, ?_⟩
      · rw [hpending, List.map_append, List.mem_append, not_or]
        refine ⟨h.1, fun hmem => ?_⟩
        rw [List.mem_singleton.mp hmem] at h
        exact absurd hlt (not_lt_of_ge h.2)
      · rw [hlast]
        exact le_of_lt (lt_of_le_of_lt h.2 hlt)

theorem Settled.read_ne {id : ι} {consumer : κ} {e : ι × φ} (h : s.Settled id)
    (he : (s.read consumer).2 = some e) : e.1 ≠ id := by
  rintro rfl
  exact absurd (read_some he).2.1 (not_lt_of_ge h.2)

/-- An acknowledged id is settled. -/
theorem settled_ack {id : ι} (h : id ≤ s.lastDelivered) : (s.ack id).1.Settled id :=
  ⟨fun hmem => (mem_pending_drop.mp hmem).2 rfl, h⟩

/-- What is read or claimed lies within the position afterwards. -/
theorem read_le {consumer : κ} {e : ι × φ} (h : (s.read consumer).2 = some e) :
    e.1 ≤ (s.read consumer).1.lastDelivered := le_of_eq (read_some h).2.2.1.symm

theorem claim_le {consumer : κ} {start : ι} {e : ι × φ}
    (h : (s.claim consumer start).2.2 = some e) :
    e.1 ≤ (s.claim consumer start).1.lastDelivered := by
  rw [claim_lastDelivered]
  exact s.pending_le _ (claim_some h).2.1

end ConsumerGroup

end CartoonDemo
