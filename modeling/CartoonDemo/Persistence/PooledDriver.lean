import CartoonDemo.Persistence.UnitOfWork
import Mathlib.Data.Finset.Dedup
import Mathlib.Logic.Function.Basic

/-!
# CartoonDemo.Persistence.PooledDriver

A **driver that can be run**: what goes wrong is decided by `faults`, call by call. It behaves as
psycopg and its pool are documented to (`pooledDriver_documented`).
-/

namespace CartoonDemo

namespace Persistence

/-- What goes wrong in a call of the driver. -/
inductive Fault
  /-- The driver refuses, and sends nothing. -/
  | client (e : Raised)
  /-- The server refuses. -/
  | server (e : Raised)
  /-- The connection breaks. A COMMIT may have been `applied` by then. -/
  | lost (e : Raised) (applied : Bool)

def Fault.raised : Fault → Raised
  | .client e | .server e | .lost e _ => e

/-- The state of the server, of the connections and of the pool. -/
structure Pooled (σ : Type) where
  store : σ
  connections : ℕ → ConnectionStatus σ := fun _ => .idle
  pool : List ℕ
  faults : List (Option Fault) := []

namespace Pooled

variable {σ α : Type}

/-- A connection in the pool is idle. -/
def status (d : Pooled σ) (c : ℕ) : ConnectionStatus σ :=
  if c ∈ d.pool then .idle else d.connections c

def setStatus (d : Pooled σ) (c : ℕ) (status : ConnectionStatus σ) : Pooled σ :=
  { d with connections := Function.update d.connections c status }

/-- What happens to the next call is used up. -/
def next (d : Pooled σ) : Pooled σ := { d with faults := d.faults.tail }

/-- `OperationalError`, of a call on a closed connection. -/
def closedError : Raised :=
  ⟨"OperationalError", [.exception, .operationalError], "the connection is closed"⟩

/-- `PoolTimeout`, an `OperationalError`. -/
def poolTimeoutError : Raised :=
  ⟨"PoolTimeout", [.exception, .operationalError, .poolTimeout],
    "couldn't get a connection within the timeout"⟩

/-- A statement that gets to the server. -/
def send (c : ℕ) (view : σ) (sql : σ → Except Raised (α × σ)) : EStateM Raised (Pooled σ) α := fun d =>
  match d.faults.head?.join with
  | some (.client e) => .error e d.next
  | some (.server e) => .error e (d.next.setStatus c .inError)
  | some (.lost e _) => .error e (d.next.setStatus c .closed)
  | none =>
      match sql view with
      | .ok (a, view') => .ok a (d.next.setStatus c (.inTransaction view'))
      | .error e => .error e (d.next.setStatus c .inError)

def execute (c : ℕ) (sql : σ → Except Raised (α × σ)) : EStateM Raised (Pooled σ) α := fun d =>
  match d.connections c with
  | .closed => .error closedError d
  | .inError => .error inFailedSqlTransaction d
  | .idle => send c d.store sql d
  | .inTransaction view => send c view sql d

/-- The end of a transaction, which may make its view the store. -/
def endTransaction (c : ℕ) (store' : σ) : EStateM Raised (Pooled σ) Unit := fun d =>
  match d.faults.head?.join with
  | some (.client e) => .error e d.next
  | some (.server e) => .error e (d.next.setStatus c .idle)
  | some (.lost e applied) =>
      .error e { d.next.setStatus c .closed with store := if applied then store' else d.store }
  | none => .ok () { d.next.setStatus c .idle with store := store' }

def commit (c : ℕ) : EStateM Raised (Pooled σ) Unit := fun d =>
  match d.connections c with
  | .closed => .error closedError d
  | .idle => .ok () d
  | .inError => endTransaction c d.store d
  | .inTransaction view => endTransaction c view d

def rollback (c : ℕ) : EStateM Raised (Pooled σ) Unit := fun d =>
  match d.connections c with
  | .closed => .error closedError d
  | .idle => .ok () d
  | .inError | .inTransaction _ => endTransaction c d.store d

def getconn : EStateM Raised (Pooled σ) ℕ := fun d =>
  match d.faults.head?.join with
  | some f => .error f.raised d.next
  | none =>
      match d.pool with
      | [] => .error poolTimeoutError d.next
      | c :: rest => .ok c { d.next.setStatus c .idle with pool := rest.filter (· ≠ c) }

/-- The connection, or a new one in its place, is in the pool. -/
def putconn (c : ℕ) (d : Pooled σ) : Pooled σ := { d with pool := c :: d.pool }

/-- The end of a `with` over the connection. What the rollback raises is logged. -/
def leave (c : ℕ) (exc : Option Raised) : EStateM Raised (Pooled σ) Unit := fun d =>
  match d.connections c with
  | .closed => .ok () d
  | _ =>
      match exc with
      | none => commit c d
      | some _ => exceptClause (fun _ => true) (rollback c) (fun _ => pure ()) d

def release (c : ℕ) (exc : Option Raised) : EStateM Raised (Pooled σ) Unit :=
  finallyClause (leave c exc) fun d => .ok () (d.putconn c)

end Pooled

/-- The driver, without faults quiet. -/
def pooledDriver (σ : Type) : Driver σ where
  State := Pooled σ
  store := Pooled.store
  status := Pooled.status
  free d := d.pool.toFinset
  quiet d := d.faults = []
  execute := Pooled.execute
  commit := Pooled.commit
  rollback := Pooled.rollback
  getconn := Pooled.getconn
  release := Pooled.release

/-! ### The driver behaves as documented

One lemma for each call; a fault is looked at by its kind.
-/

namespace Pooled

variable {σ α : Type} {c : ℕ} {d : Pooled σ}

theorem status_of_notMem (h : c ∉ d.pool) : d.status c = d.connections c := if_neg h

theorem status_next (h : c ∉ d.pool) : d.next.status c = d.status c := by
  rw [status_of_notMem h]
  exact if_neg h

theorem status_setStatus (h : c ∉ d.pool) (status : ConnectionStatus σ) :
    (d.setStatus c status).status c = status :=
  (if_neg h).trans (Function.update_self ..)

theorem frame_refl : (pooledDriver σ).Frame c d d := ⟨rfl, fun _ _ => rfl⟩

theorem frame_next : (pooledDriver σ).Frame c d d.next := ⟨rfl, fun _ _ => rfl⟩

theorem frame_setStatus (status : ConnectionStatus σ) :
    (pooledDriver σ).Frame c d (d.next.setStatus c status) := by
  refine ⟨rfl, fun c' hne => ?_⟩
  have hother : (d.next.setStatus c status).connections c' = d.connections c' :=
    Function.update_of_ne hne ..
  exact if_congr Iff.rfl rfl hother

/-- A statement that gets to the server changes its connection only. -/
theorem send_ends (sql : σ → Except Raised (α × σ)) (view : σ) (h : c ∉ d.pool) :
    Ends (send c view sql) d fun r d' => (pooledDriver σ).Frame c d d' ∧ d'.store = d.store ∧
      Sent sql view (d.status c) r (d'.status c) := by
  unfold Ends send
  cases d.faults.head?.join with
  | some fault =>
      cases fault with
      | client e => exact ⟨frame_next, rfl, Or.inl (status_next h)⟩
      | server e => exact ⟨frame_setStatus _, rfl, Or.inr (Or.inl (status_setStatus h _))⟩
      | lost e applied => exact ⟨frame_setStatus _, rfl, Or.inr (Or.inr (status_setStatus h _))⟩
  | none =>
      cases hsql : sql view with
      | ok p => exact ⟨frame_setStatus _, rfl, p.2, hsql, status_setStatus h _⟩
      | error e => exact ⟨frame_setStatus _, rfl, Or.inr (Or.inl (status_setStatus h _))⟩

theorem execute_ends (sql : σ → Except Raised (α × σ)) (h : c ∉ d.pool) :
    Ends (execute c sql) d fun r d' => (pooledDriver σ).Frame c d d' ∧ d'.store = d.store ∧
      Executed sql d.store (d.status c) r (d'.status c) := by
  have hstatus := status_of_notMem h
  cases hc : d.connections c with
  | idle =>
      rw [hstatus, hc]
      refine .congr (by rw [execute, hc]) ((send_ends sql d.store h).imp fun r d' hsent => ?_)
      rw [hstatus, hc] at hsent
      exact hsent
  | inTransaction view =>
      rw [hstatus, hc]
      refine .congr (by rw [execute, hc]) ((send_ends sql view h).imp fun r d' hsent => ?_)
      rw [hstatus, hc] at hsent
      exact hsent
  | inError =>
      rw [hstatus, hc]
      exact .of_error (by rw [execute, hc]) ⟨frame_refl, rfl, Or.inl (hstatus.trans hc)⟩
  | closed =>
      rw [hstatus, hc]
      exact .of_error (by rw [execute, hc]) ⟨frame_refl, rfl, hstatus.trans hc⟩

/-- The end of a transaction: the connection is idle, or an exception says otherwise. -/
theorem endTransaction_ends (store' : σ) (h : c ∉ d.pool) :
    Ends (endTransaction c store') d fun r d' => (pooledDriver σ).Frame c d d' ∧
      (d'.store = d.store ∨ d'.store = store') ∧
        ∀ u, r = .ok u → d'.status c = .idle ∧ d'.store = store' := by
  unfold Ends endTransaction
  cases d.faults.head?.join with
  | some fault =>
      cases fault with
      | client e => exact ⟨frame_next, Or.inl rfl, fun u hu => by cases hu⟩
      | server e => exact ⟨frame_setStatus _, Or.inl rfl, fun u hu => by cases hu⟩
      | lost e applied =>
          refine ⟨frame_setStatus _, ?_, fun u hu => by cases hu⟩
          cases applied
          · exact Or.inl rfl
          · exact Or.inr rfl
  | none => exact ⟨frame_setStatus _, Or.inr rfl, fun u _ => ⟨status_setStatus h _, rfl⟩⟩

theorem commit_ends (h : c ∉ d.pool) :
    Ends (commit c) d fun r d' => (pooledDriver σ).Frame c d d' ∧
      Committed d.store (d.status c) r (d'.status c) d'.store := by
  have hstatus := status_of_notMem h
  have hend : ∀ before : ConnectionStatus σ, before ≠ .closed →
      Ends (endTransaction c (before.published d.store)) d fun r d' =>
        (pooledDriver σ).Frame c d d' ∧ Committed d.store before r (d'.status c) d'.store := by
    intro before hopen
    refine (endTransaction_ends (before.published d.store) h).imp fun r d' hdone => ?_
    obtain ⟨hframe, hstore, hok⟩ := hdone
    refine ⟨hframe, ?_⟩
    cases r with
    | ok u => exact ⟨hopen, hok u rfl⟩
    | error e => exact hstore
  cases hc : d.connections c with
  | idle =>
      rw [hstatus, hc]
      exact .of_ok (by rw [commit, hc]) ⟨frame_refl, by simp, hstatus.trans hc, rfl⟩
  | inTransaction view =>
      rw [hstatus, hc]
      exact .congr (by rw [commit, hc]; rfl) (hend (.inTransaction view) (by simp))
  | inError =>
      rw [hstatus, hc]
      exact .congr (by rw [commit, hc]; rfl) (hend .inError (by simp))
  | closed =>
      rw [hstatus, hc]
      exact .of_error (by rw [commit, hc]) ⟨frame_refl, Or.inl rfl⟩

theorem rollback_ends (h : c ∉ d.pool) :
    Ends (rollback c) d fun _ d' => (pooledDriver σ).Frame c d d' ∧ d'.store = d.store := by
  have hend : Ends (endTransaction c d.store) d fun _ d' =>
      (pooledDriver σ).Frame c d d' ∧ d'.store = d.store :=
    (endTransaction_ends d.store h).imp fun _ _ hdone => ⟨hdone.1, hdone.2.1.elim id id⟩
  cases hc : d.connections c with
  | idle => exact .of_ok (by rw [rollback, hc]) ⟨frame_refl, rfl⟩
  | inTransaction view => exact .congr (by rw [rollback, hc]) hend
  | inError => exact .congr (by rw [rollback, hc]) hend
  | closed => exact .of_error (by rw [rollback, hc]) ⟨frame_refl, rfl⟩

theorem getconn_ends (d : Pooled σ) : Ends getconn d fun r d' => d'.store = d.store ∧
    (∀ c, d'.status c = d.status c) ∧ (pooledDriver σ).Taken d d' r := by
  unfold Ends getconn
  cases d.faults.head?.join with
  | some fault => exact ⟨rfl, fun _ => rfl, rfl⟩
  | none =>
      cases hpool : d.pool with
      | nil => exact ⟨rfl, fun _ => rfl, rfl⟩
      | cons c rest =>
          have hmem : c ∈ d.pool := hpool ▸ List.mem_cons_self
          refine ⟨rfl, fun c' => ?_, ?_, if_pos hmem, ?_⟩
          · by_cases hc : c' = c
            · rw [hc]
              exact (ite_eq_left_iff.mpr fun _ => Function.update_self ..).trans (if_pos hmem).symm
            · refine if_congr ?_ rfl (Function.update_of_ne hc ..)
              simp [hpool, hc]
          · exact List.mem_toFinset.mpr hmem
          · ext c'
            show c' ∈ (rest.filter (· ≠ c)).toFinset ↔ c' ∈ d.pool.toFinset.erase c
            simp only [hpool, List.mem_toFinset, Finset.mem_erase, List.mem_filter, List.mem_cons,
              decide_eq_true_eq, ne_eq]
            tauto

/-- The connection, used up to `d'`, is put back. -/
theorem putconn_back {d' : Pooled σ} (hframe : (pooledDriver σ).Frame c d d') :
    (d'.putconn c).pool.toFinset = insert c d.pool.toFinset ∧ (d'.putconn c).status c = .idle ∧
      ∀ c', c' ≠ c → (d'.putconn c).status c' = d.status c' := by
  refine ⟨?_, if_pos List.mem_cons_self, fun c' hne => ?_⟩
  · exact List.toFinset_cons.trans (congrArg (insert c) hframe.1)
  · refine Eq.trans (if_congr ?_ rfl rfl) (hframe.2 c' hne)
    exact List.mem_cons.trans (or_iff_right hne)

theorem commit_idle (h : d.connections c = .idle) : commit c d = .ok () d := by
  rw [commit, h]

theorem leave_closed (exc : Option Raised) (h : d.connections c = .closed) :
    leave c exc d = .ok () d := by
  simp only [leave, h]

theorem leave_none (h : d.connections c ≠ .closed) : leave c none d = commit c d := by
  unfold leave
  cases hc : d.connections c <;> first | rfl | exact absurd hc h

theorem leave_some (e : Raised) (h : d.connections c ≠ .closed) :
    leave c (some e) d = exceptClause (fun _ => true) (rollback c) (fun _ => pure ()) d := by
  unfold leave
  cases hc : d.connections c <;> first | rfl | exact absurd hc h

theorem leave_ends (exc : Option Raised) (h : c ∉ d.pool) :
    Ends (leave c exc) d fun r d' => (pooledDriver σ).Frame c d d' ∧
      Released d.store (d.status c) exc r d'.store := by
  have hstatus := status_of_notMem h
  by_cases hclosed : d.connections c = .closed
  · refine .of_ok (leave_closed exc hclosed) ⟨frame_refl, ?_⟩
    rw [hstatus, hclosed]
    cases exc <;> rfl
  · cases exc with
    | none =>
        by_cases hidle : d.connections c = .idle
        · refine .of_ok ((leave_none hclosed).trans (commit_idle hidle)) ⟨frame_refl, ?_⟩
          rw [hstatus, hidle]
          rfl
        · refine .congr (leave_none hclosed) ((commit_ends h).imp fun r d' hcommit => ?_)
          obtain ⟨hframe, hcommitted⟩ := hcommit
          refine ⟨hframe, ?_⟩
          cases r with
          | ok u => exact hcommitted.2.2
          | error e => exact ⟨rfl, hstatus ▸ hidle, hstatus ▸ hclosed, hcommitted⟩
    | some e =>
        exact .congr (leave_some e hclosed) (.exceptClause (rollback_ends h) (fun _ _ hdone => hdone)
          (fun _ _ _ hdone => .pure hdone) fun _ _ hpassed _ => by cases hpassed)

theorem release_ends (exc : Option Raised) (h : c ∉ d.pool) :
    Ends (release c exc) d fun r d' => d'.pool.toFinset = insert c d.pool.toFinset ∧
      d'.status c = .idle ∧ (∀ c', c' ≠ c → d'.status c' = d.status c') ∧
        Released d.store (d.status c) exc r d'.store := by
  refine .finallyClause (fun _ => rfl) ((leave_ends exc h).imp fun r d' hleft => ?_)
  obtain ⟨hpool, hidle, hothers⟩ := putconn_back hleft.1
  exact ⟨hpool, hidle, hothers, hleft.2⟩

/-! ### Without faults

The same calls where the list of faults is empty.
-/

section Quiet

variable (hquiet : d.faults = [])

include hquiet

theorem next_quiet : d.next.faults = [] := by
  rw [next, hquiet, List.tail_nil]

theorem send_quiet (sql : σ → Except Raised (α × σ)) (view : σ) (h : c ∉ d.pool) :
    Ends (send c view sql) d fun r d' => d'.faults = [] ∧
      Performed sql d.store (.inTransaction view) r (d'.status c) := by
  have hnone : d.faults.head?.join = none := by rw [hquiet]; rfl
  unfold Ends send
  rw [hnone]
  cases hsql : sql view with
  | ok p =>
      refine ⟨next_quiet hquiet, ?_⟩
      simp only [Performed, hsql]
      exact ⟨trivial, status_setStatus h _⟩
  | error e =>
      refine ⟨next_quiet hquiet, ?_⟩
      simp only [Performed, hsql]
      exact ⟨trivial, status_setStatus h _⟩

theorem execute_quietly (sql : σ → Except Raised (α × σ)) (h : c ∉ d.pool) :
    Ends (execute c sql) d fun r d' => d'.faults = [] ∧
      Performed sql d.store (d.status c) r (d'.status c) := by
  have hstatus := status_of_notMem h
  cases hc : d.connections c with
  | idle =>
      rw [hstatus, hc]
      exact .congr (by rw [execute, hc]) (send_quiet hquiet sql d.store h)
  | inTransaction view =>
      rw [hstatus, hc]
      exact .congr (by rw [execute, hc]) (send_quiet hquiet sql view h)
  | inError =>
      rw [hstatus, hc]
      exact .of_error (by rw [execute, hc]) ⟨hquiet, rfl, hstatus.trans hc⟩
  | closed =>
      rw [hstatus, hc]
      exact .of_error (by rw [execute, hc]) ⟨hquiet, hstatus.trans hc⟩

theorem endTransaction_quiet (store' : σ) :
    Ends (endTransaction c store') d fun r d' => d'.faults = [] ∧ r = .ok () := by
  have hnone : d.faults.head?.join = none := by rw [hquiet]; rfl
  unfold Ends endTransaction
  rw [hnone]
  exact ⟨next_quiet hquiet, rfl⟩

theorem commit_quietly (hopen : d.connections c ≠ .closed) :
    Ends (commit c) d fun r d' => d'.faults = [] ∧ r = .ok () := by
  cases hc : d.connections c with
  | idle => exact .of_ok (commit_idle hc) ⟨hquiet, rfl⟩
  | inTransaction view => exact .congr (by rw [commit, hc]) (endTransaction_quiet hquiet view)
  | inError => exact .congr (by rw [commit, hc]) (endTransaction_quiet hquiet d.store)
  | closed => exact absurd hc hopen

theorem rollback_quietly (hopen : d.connections c ≠ .closed) :
    Ends (rollback c) d fun r d' => d'.faults = [] ∧ r = .ok () := by
  cases hc : d.connections c with
  | idle => exact .of_ok (by rw [rollback, hc]) ⟨hquiet, rfl⟩
  | inTransaction view => exact .congr (by rw [rollback, hc]) (endTransaction_quiet hquiet d.store)
  | inError => exact .congr (by rw [rollback, hc]) (endTransaction_quiet hquiet d.store)
  | closed => exact absurd hc hopen

theorem getconn_quietly (hfree : d.pool.toFinset.Nonempty) :
    Ends getconn d fun r d' => d'.faults = [] ∧ ∃ c, r = .ok c := by
  have hnone : d.faults.head?.join = none := by rw [hquiet]; rfl
  unfold Ends getconn
  rw [hnone]
  cases hpool : d.pool with
  | nil =>
      rw [hpool] at hfree
      exact absurd hfree Finset.not_nonempty_empty
  | cons c rest => exact ⟨next_quiet hquiet, c, rfl⟩

theorem release_quietly (exc : Option Raised) :
    Ends (release c exc) d fun r d' => d'.faults = [] ∧ r = .ok () := by
  refine .finallyClause (fun _ => rfl) (Ends.imp ?_ fun r d' hleft => hleft)
  by_cases hclosed : d.connections c = .closed
  · exact .of_ok (leave_closed exc hclosed) ⟨hquiet, rfl⟩
  · cases exc with
    | none => exact .congr (leave_none hclosed) (commit_quietly hquiet hclosed)
    | some e =>
        exact .congr (leave_some e hclosed) (.exceptClause (rollback_quietly hquiet hclosed)
          (fun _ _ hdone => hdone) (fun _ _ _ hdone => .pure ⟨hdone.1, rfl⟩)
          fun _ _ hpassed _ => by cases hpassed)

end Quiet

end Pooled

theorem pooledDriver_documented (σ : Type) : (pooledDriver σ).Documented where
  execute c sql d h := Pooled.execute_ends sql fun hmem => h (List.mem_toFinset.mpr hmem)
  commit c d h := Pooled.commit_ends fun hmem => h (List.mem_toFinset.mpr hmem)
  rollback c d h := Pooled.rollback_ends fun hmem => h (List.mem_toFinset.mpr hmem)
  getconn d := Pooled.getconn_ends d
  release c exc d h := Pooled.release_ends exc fun hmem => h (List.mem_toFinset.mpr hmem)
  quiet_execute c sql d h hquiet :=
    Pooled.execute_quietly hquiet sql fun hmem => h (List.mem_toFinset.mpr hmem)
  quiet_commit c d h hquiet hopen := by
    have hmem : c ∉ d.pool := fun hmem => h (List.mem_toFinset.mpr hmem)
    exact Pooled.commit_quietly hquiet fun hc => hopen ((Pooled.status_of_notMem hmem).trans hc)
  quiet_rollback c d h hquiet hopen := by
    have hmem : c ∉ d.pool := fun hmem => h (List.mem_toFinset.mpr hmem)
    exact Pooled.rollback_quietly hquiet fun hc => hopen ((Pooled.status_of_notMem hmem).trans hc)
  quiet_getconn d hquiet hfree := Pooled.getconn_quietly hquiet hfree
  quiet_release c exc d h hquiet := Pooled.release_quietly hquiet exc

end Persistence

end CartoonDemo
