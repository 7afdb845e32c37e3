import CartoonDemo.Library.Transaction
import CartoonDemo.Persistence.UnitOfWork
import Mathlib.Logic.Relation

/-!
# CartoonDemo.Persistence.Atomicity

**What a unit of work does to the store**, over every driver that behaves as documented. Inside a
transaction a program works on a private copy, which a statement that fails may spoil for good
(`Prog.inUnit`); neither the store nor the pool changes before the block ends (`exec_inside`).

A block that ends normally makes its copy the store, unless a statement has failed in it: then nothing
is stored, although no exception says so. A block that raises leaves the store, unless the connection
breaks during the COMMIT. So whatever a program does, its thread ends without a session and with every
connection in the pool, and has changed the store only by whole blocks and by single statements
(`exec_outside`).
-/

namespace CartoonDemo

namespace Persistence

variable {σ α β : Type}

/-! ### The private copy

What a transaction may do to the view that it works on.
-/

inductive Copy (σ : Type)
  | live (view : σ)
  /-- A statement has failed. -/
  | failed
  /-- The connection is closed. -/
  | lost

def Copy.status : Copy σ → ConnectionStatus σ
  | .live view => .inTransaction view
  | .failed => .inError
  | .lost => .closed

/-- How a statement on the copy may end. -/
def Statement (sql : σ → Except Raised (α × σ)) : Copy σ → Except Raised α → Copy σ → Prop
  | .live view, .ok a, k => ∃ view', sql view = .ok (a, view') ∧ k = .live view'
  | .live view, .error _, k => k = .live view ∨ k = .failed ∨ k = .lost
  | .failed, .error _, k => k = .failed ∨ k = .lost
  | .lost, .error _, k => k = .lost
  | _, .ok _, _ => False

/-- How a program inside a unit of work may end, and in which state it may leave the copy. -/
def Prog.inUnit {σ α : Type} : Prog σ α → Copy σ → Except Raised α → Copy σ → Prop
  | .ret a, k, r, k' => r = .ok a ∧ k' = k
  | .raise e, k, r, k' => r = .error e ∧ k' = k
  | .bind x f, k, r, k' =>
      (∃ a k₁, x.inUnit k (.ok a) k₁ ∧ (f a).inUnit k₁ r k') ∨
        ∃ e, x.inUnit k (.error e) k' ∧ r = .error e
  | .tryExcept catches x handler, k, r, k' =>
      (∃ a, x.inUnit k (.ok a) k' ∧ r = .ok a) ∨
        (∃ e k₁, x.inUnit k (.error e) k₁ ∧ catches e = true ∧ (handler e).inUnit k₁ r k') ∨
        ∃ e, x.inUnit k (.error e) k' ∧ catches e = false ∧ r = .error e
  | .isInTransaction, k, r, k' => r = .ok true ∧ k' = k
  | .requireTransaction _, k, r, k' => r = .ok () ∧ k' = k
  | .active sql, k, r, k' => Statement sql k r k'
  | .borrowed sql, k, r, k' => Statement sql k r k'
  | .transaction _, k, r, k' => r = .error PostgresTransactionManager.nestedError ∧ k' = k

/-! ### Holding a connection -/

/-- The thread has taken connection `c` from the pool of `d`, and changed nothing else. -/
structure Holds (D : Driver σ) (d : D.State) (c : ℕ) (session : Option SessionScope) (store : σ)
    (status : ConnectionStatus σ) (w : PgWorld D) : Prop where
  session_eq : w.session = session
  store_eq : D.store w.driver = store
  status_eq : D.status w.driver c = status
  free_eq : D.free w.driver = (D.free d).erase c
  others : ∀ c', c' ≠ c → D.status w.driver c' = D.status d c'

/-- The thread is in a transaction on connection `c`, with a copy of its own. -/
def Inside (D : Driver σ) (d : D.State) (c : ℕ) (store : σ) (k : Copy σ) (w : PgWorld D) : Prop :=
  Holds D d c (some { connection := c, inTransaction := true }) store k.status w

/-- The thread holds no connection, and has changed nothing but the store. -/
structure Outside (D : Driver σ) (d : D.State) (store : σ) (w : PgWorld D) : Prop where
  session_eq : w.session = none
  store_eq : D.store w.driver = store
  free_eq : D.free w.driver = D.free d
  status_eq : ∀ c, D.status w.driver c = D.status d c

section Calls

variable {D : Driver σ} {d : D.State} {c : ℕ} {session : Option SessionScope} {store : σ}
  {status : ConnectionStatus σ} {w : PgWorld D} {k : Copy σ}

theorem onDriver_ends {x : EStateM Raised D.State α} {post : Except Raised α → PgWorld D → Prop}
    (h : Ends x w.driver fun r d' => post r { w with driver := d' }) : Ends (onDriver x) w post := by
  cases hx : x w.driver with
  | ok a d' => exact .of_ok (by rw [onDriver, hx]) (h.ok hx)
  | error e d' => exact .of_error (by rw [onDriver, hx]) (h.error hx)

/-- A call that changes nothing but the connection that is held. -/
theorem Holds.frame (h : Holds D d c session store status w) {d' : D.State}
    (hframe : D.Frame c w.driver d') :
    Holds D d c session (D.store d') (D.status d' c) { w with driver := d' } :=
  ⟨h.session_eq, rfl, rfl, hframe.1.trans h.free_eq,
    fun c' hne => (hframe.2 c' hne).trans (h.others c' hne)⟩

theorem Holds.notMem (h : Holds D d c session store status w) : c ∉ D.free w.driver := by
  rw [h.free_eq]
  exact Finset.notMem_erase c _

/-- A statement changes the copy and nothing else. -/
theorem execute_inside (hD : D.Documented) (sql : σ → Except Raised (α × σ))
    (h : Inside D d c store k w) :
    Ends (onDriver (D.execute c sql)) w fun r w' => ∃ k', Statement sql k r k' ∧
      Inside D d c store k' w' := by
  refine onDriver_ends ((hD.execute c sql w.driver h.notMem).imp fun r d' hcall => ?_)
  obtain ⟨hframe, hstore, hexec⟩ := hcall
  have hheld := h.frame hframe
  rw [hstore, h.store_eq] at hheld
  rw [h.status_eq] at hexec
  -- what the connection has become stands for a copy
  have hcopy : ∀ k', D.status d' c = k'.status → Statement sql k r k' →
      ∃ k', Statement sql k r k' ∧ Inside D d c store k' { w with driver := d' } := by
    intro k' hstatus hstatement
    rw [hstatus] at hheld
    exact ⟨k', hstatement, hheld⟩
  cases k with
  | live view =>
      cases r with
      | ok a =>
          obtain ⟨view', hsql, hafter⟩ := hexec
          exact hcopy (.live view') hafter ⟨view', hsql, rfl⟩
      | error e =>
          rcases hexec with hafter | hafter | hafter
          · exact hcopy (.live view) hafter (Or.inl rfl)
          · exact hcopy .failed hafter (Or.inr (Or.inl rfl))
          · exact hcopy .lost hafter (Or.inr (Or.inr rfl))
  | failed =>
      cases r with
      | ok a => exact hexec.elim
      | error e =>
          rcases hexec with hafter | hafter
          · exact hcopy .failed hafter (Or.inl rfl)
          · exact hcopy .lost hafter (Or.inr rfl)
  | lost =>
      cases r with
      | ok a => exact hexec.elim
      | error e => exact hcopy .lost hexec rfl

section Helpers

variable (h : Inside D d c store k w)

include h

theorem getActiveSession_inside : getActiveSession w = .ok (some ⟨c, true⟩) w := by
  rw [← h.session_eq]
  rfl

theorem isInTransaction_inside : PostgresTransactionManager.isInTransaction w = .ok true w :=
  estate_bind_ok (getActiveSession_inside h)

theorem requireActiveTransaction_inside (operation : String) :
    PostgresRepoBase.requireActiveTransaction operation w = .ok () w :=
  estate_bind_ok (isInTransaction_inside h)

theorem executeActive_inside (sql : σ → Except Raised (α × σ)) :
    PostgresRepoBase.executeActive sql w = onDriver (D.execute c sql) w :=
  estate_bind_ok (estate_bind_ok (getActiveSession_inside h))

theorem executeBorrowed_inside (sql : σ → Except Raised (α × σ)) :
    PostgresRepoBase.executeBorrowed sql w = onDriver (D.execute c sql) w :=
  estate_bind_ok (getActiveSession_inside h)

theorem transaction_inside (body : Session D α) : PostgresTransactionManager.transaction body w =
    .error PostgresTransactionManager.nestedError w :=
  estate_bind_ok (isInTransaction_inside h)

end Helpers

/-- **Until its block ends a unit of work changes its copy and nothing else.** -/
theorem exec_inside (hD : D.Documented) (p : Prog σ α) (h : Inside D d c store k w) :
    Ends p.exec w fun r w' => ∃ k', p.inUnit k r k' ∧ Inside D d c store k' w' := by
  induction p generalizing k w with
  | ret a => exact .pure ⟨k, ⟨rfl, rfl⟩, h⟩
  | raise e => exact .throw ⟨k, ⟨rfl, rfl⟩, h⟩
  | bind x f ihx ihf =>
      refine .bind (ihx h) (fun a w' hx => ?_) fun e w' hx => ?_
      · obtain ⟨k₁, hx, h₁⟩ := hx
        refine (ihf a h₁).imp fun r w'' hf => ?_
        obtain ⟨k', hf, h'⟩ := hf
        exact ⟨k', Or.inl ⟨a, k₁, hx, hf⟩, h'⟩
      · obtain ⟨k', hx, h'⟩ := hx
        exact ⟨k', Or.inr ⟨e, hx, rfl⟩, h'⟩
  | tryExcept catches x handler ihx ihh =>
      refine .exceptClause (ihx h) (fun a w' hx => ?_) (fun e w' hc hx => ?_) fun e w' hc hx => ?_
      · obtain ⟨k', hx, h'⟩ := hx
        exact ⟨k', Or.inl ⟨a, hx, rfl⟩, h'⟩
      · obtain ⟨k₁, hx, h₁⟩ := hx
        refine (ihh e h₁).imp fun r w'' hh => ?_
        obtain ⟨k', hh, h'⟩ := hh
        exact ⟨k', Or.inr (Or.inl ⟨e, k₁, hx, hc, hh⟩), h'⟩
      · obtain ⟨k', hx, h'⟩ := hx
        exact ⟨k', Or.inr (Or.inr ⟨e, hx, hc, rfl⟩), h'⟩
  | isInTransaction => exact .of_ok (isInTransaction_inside h) ⟨k, ⟨rfl, rfl⟩, h⟩
  | requireTransaction operation =>
      exact .of_ok (requireActiveTransaction_inside h operation) ⟨k, ⟨rfl, rfl⟩, h⟩
  | active sql => exact .congr (executeActive_inside h sql) (execute_inside hD sql h)
  | borrowed sql => exact .congr (executeBorrowed_inside h sql) (execute_inside hD sql h)
  | transaction body ih => exact .of_error (transaction_inside h _) ⟨k, ⟨rfl, rfl⟩, h⟩

/-! ### The end of a connection's work -/

/-- A COMMIT that has raised may have been applied: it found `store` and has left `store'`. -/
def CutCommit (D : Driver σ) (store store' : σ) : Prop :=
  ∃ c d d' e, D.commit c d = .error e d' ∧ D.store d = store ∧ D.store d' = store'

/-- How a COMMIT ends. -/
def CommitEnds (D : Driver σ) (d : D.State) (c : ℕ) (session : Option SessionScope) (store : σ)
    (status : ConnectionStatus σ) : Except Raised Unit → PgWorld D → Prop
  | .ok _, w => status ≠ .closed ∧ Holds D d c session (status.published store) .idle w
  | .error _, w => ∃ store' status', Holds D d c session store' status' w ∧
      (store' = store ∨ store' = status.published store ∧ CutCommit D store store')

theorem commit_holds (hD : D.Documented) (h : Holds D d c session store status w) :
    Ends (PostgresTransactionManager.commit c) w (CommitEnds D d c session store status) := by
  have hcall : Ends (onDriver (D.commit c)) w (CommitEnds D d c session store status) := by
    have hdoc := hD.commit c w.driver h.notMem
    rw [h.store_eq, h.status_eq] at hdoc
    cases hrun : D.commit c w.driver with
    | ok u d' =>
        obtain ⟨hframe, hopen, hidle, hstore⟩ := hdoc.ok hrun
        have hheld := h.frame hframe
        rw [hidle, hstore] at hheld
        exact .of_ok (by rw [onDriver, hrun]) ⟨hopen, hheld⟩
    | error e d' =>
        obtain ⟨hframe, hstore⟩ := hdoc.error hrun
        refine .of_error (by rw [onDriver, hrun]) ⟨_, _, h.frame hframe, ?_⟩
        exact hstore.imp id fun happlied => ⟨happlied, c, w.driver, d', e, hrun, h.store_eq, rfl⟩
  exact .exceptClause hcall (fun _ _ h => h) (fun _ _ _ h => .throw h) fun _ _ _ h => h

/-- A ROLLBACK leaves the store. -/
theorem rollback_holds (hD : D.Documented) (h : Holds D d c session store status w) :
    Ends (PostgresTransactionManager.rollback c) w fun _ w' =>
      ∃ status', Holds D d c session store status' w' := by
  have hcall : Ends (onDriver (D.rollback c)) w fun _ w' =>
      ∃ status', Holds D d c session store status' w' := by
    refine onDriver_ends ((hD.rollback c w.driver h.notMem).imp fun r d' hdoc => ?_)
    have hheld := h.frame hdoc.1
    rw [hdoc.2, h.store_eq] at hheld
    exact ⟨_, hheld⟩
  exact .exceptClause hcall (fun _ _ h => h) (fun _ _ _ h => .throw h) fun _ _ _ h => h

/-! ### A block

The three ways that a block may leave the store.
-/

/-- How a block may end, run on the store `store`. -/
def BlockEnds {σ α : Type} (D : Driver σ) (body : Prog σ α) (store : σ) : Option α → σ → Prop
  | some a, store' => ∃ k, body.inUnit (.live store) (.ok a) k ∧
      (k = .live store' ∨ k = .failed ∧ store' = store)
  | none, store' => store' = store ∨
      CutCommit D store store' ∧ ∃ a, body.inUnit (.live store) (.ok a) (.live store')

/-- The store is as it was, or as the body has left its copy. -/
theorem BlockEnds.cases {body : Prog σ α} {store store' : σ} {r : Option α}
    (h : BlockEnds D body store r store') :
    store' = store ∨ ∃ a, body.inUnit (.live store) (.ok a) (.live store') := by
  cases r with
  | none => exact h.imp id And.right
  | some a =>
      obtain ⟨k, hrun, rfl | ⟨-, rfl⟩⟩ := h
      · exact Or.inr ⟨a, hrun⟩
      · exact Or.inl rfl

/-- The block commits what its body leaves, or rolls back. -/
theorem runBlock_inside (hD : D.Documented) (body : Prog σ α)
    (h : Inside D d c store (.live store) w) :
    Ends (PostgresTransactionManager.runBlock c body.exec) w fun r w' => ∃ store' status,
      Holds D d c (some ⟨c, true⟩) store' status w' ∧ (r.toOption.isSome = true → status = .idle) ∧
        BlockEnds D body store r.toOption store' := by
  -- the body and, if it raises, the rollback
  have hbody : Ends (exceptClause Raised.isException body.exec fun e => do
      PostgresTransactionManager.rollback c
      throw e) w fun r w' => (∀ a, r = .ok a → ∃ k, body.inUnit (.live store) (.ok a) k ∧
        Inside D d c store k w') ∧ ∃ status, Holds D d c (some ⟨c, true⟩) store status w' := by
    refine .exceptClause (exec_inside hD body h) (fun a w' hx => ?_) (fun e w' _ hx => ?_)
      fun e w' _ hx => ?_
    · obtain ⟨k, hrun, hinside⟩ := hx
      refine ⟨fun a' ha => ?_, _, hinside⟩
      obtain rfl := Except.ok.inj ha
      exact ⟨k, hrun, hinside⟩
    · obtain ⟨k, -, hinside⟩ := hx
      refine .bind (rollback_holds hD hinside) (fun u w'' hback => .throw ?_) fun e' w'' hback => ?_
      · exact ⟨(fun a ha => by cases ha), hback⟩
      · exact ⟨(fun a ha => by cases ha), hback⟩
    · obtain ⟨k, -, hinside⟩ := hx
      exact ⟨(fun a ha => by cases ha), _, hinside⟩
  refine .bind hbody (fun a w' hx => ?_) fun e w' hx => ?_
  · obtain ⟨k, hrun, hinside⟩ := hx.1 a rfl
    refine .bind (commit_holds hD hinside) (fun u w'' hcommit => .pure ?_) fun e w'' hcommit => ?_
    · obtain ⟨hopen, hheld⟩ := hcommit
      cases k with
      | live view => exact ⟨_, _, hheld, fun _ => rfl, _, hrun, Or.inl rfl⟩
      | failed => exact ⟨_, _, hheld, fun _ => rfl, _, hrun, Or.inr ⟨rfl, rfl⟩⟩
      | lost => exact absurd rfl hopen
    · obtain ⟨store', status, hheld, hstore⟩ := hcommit
      refine ⟨store', status, hheld, (fun hsome => by cases hsome), ?_⟩
      rcases hstore with hkept | ⟨happlied, hcut⟩
      · exact Or.inl hkept
      · cases k with
        | live view =>
            obtain rfl : store' = view := happlied
            exact Or.inr ⟨hcut, a, hrun⟩
        | failed => exact Or.inl happlied
        | lost => exact Or.inl happlied
  · obtain ⟨status, hheld⟩ := hx.2
    exact ⟨store, status, hheld, (fun hsome => by cases hsome), Or.inl rfl⟩

/-! ### Outside a unit of work -/

/-- What work on a connection has to leave, so that `post` holds of its result and of the store once
the connection is back in the pool. -/
def Closable {σ α : Type} (post : Option α → σ → Prop) (store : σ) :
    ConnectionStatus σ → Except Raised α → Prop
  | _, .error _ => post none store
  | .inTransaction view, .ok a => post (some a) view ∧ post none store ∧ post none view
  | .inError, .ok a => post (some a) store ∧ post none store
  | _, .ok a => post (some a) store

/-- The connection goes back to the pool. -/
theorem release_holds (hD : D.Documented) {post : Option α → σ → Prop} (hfree : c ∈ D.free d)
    (hidle : D.status d c = .idle) (h : Holds D d c none store status w) (r : Except Raised α)
    (hpost : Closable post store status r) (exc : Option Raised)
    (hexc : exc = none ↔ r.toOption.isSome = true) :
    Ends (onDriver (D.release c exc)) w fun r' w' => ∃ store', Outside D d store' w' ∧
      post ((r' >>= fun _ => r).toOption) store' := by
  refine onDriver_ends ((hD.release c exc w.driver h.notMem).imp fun r' d' hdoc => ?_)
  obtain ⟨hback, hnow, hothers, hreleased⟩ := hdoc
  rw [h.store_eq, h.status_eq] at hreleased
  refine ⟨D.store d', ⟨h.session_eq, rfl, ?_, fun c' => ?_⟩, ?_⟩
  · rw [hback, h.free_eq, Finset.insert_erase hfree]
  · by_cases hc : c' = c
    · rw [hc, hnow, hidle]
    · exact (hothers c' hc).trans (h.others c' hc)
  · cases r with
    | error e =>
        have hnone : post none store := by cases status <;> exact hpost
        have hsome : exc.isNone = false := by
          cases exc with
          | none => exact absurd (hexc.mp rfl) Bool.false_ne_true
          | some e => rfl
        cases r' with
        | error e' =>
            rw [hreleased.1] at hsome
            cases hsome
        | ok u =>
            have hstore : D.store d' = if exc.isNone then status.published store else store :=
              hreleased
            rw [hsome] at hstore
            rw [hstore]
            exact hnone
    | ok a =>
        have hnone : exc = none := hexc.mpr rfl
        cases r' with
        | ok u =>
            have hstore : D.store d' = if exc.isNone then status.published store else store :=
              hreleased
            rw [hstore, hnone]
            cases status with
            | idle => exact hpost
            | closed => exact hpost
            | inError => exact hpost.1
            | inTransaction view => exact hpost.1
        | error e' =>
            obtain ⟨-, hopen, hclosed, hstore⟩ := hreleased
            cases status with
            | idle => exact absurd rfl hopen
            | closed => exact absurd rfl hclosed
            | inError =>
                have hsame : D.store d' = store := hstore.elim id id
                rw [hsame]
                exact hpost.2
            | inTransaction view =>
                rcases hstore with hstore | hstore
                · rw [hstore]
                  exact hpost.2.1
                · rw [hstore]
                  exact hpost.2.2

/-- Work on a connection ends with the connection in the pool. -/
theorem poolConnection_outside (hD : D.Documented) {post : Option α → σ → Prop}
    {body : ℕ → Session D α} (hstore : post none store) (h : Outside D d store w)
    (hbody : ∀ c w', c ∈ D.free d → Holds D d c none store .idle w' →
      Ends (body c) w' fun r w'' => ∃ store' status, Holds D d c none store' status w'' ∧
        Closable post store' status r) :
    Ends (poolConnection body) w fun r w' => ∃ store', Outside D d store' w' ∧
      post r.toOption store' := by
  have hget : Ends (onDriver D.getconn) w fun r w' =>
      (∀ c, r = .ok c → c ∈ D.free d ∧ D.status d c = .idle ∧ Holds D d c none store .idle w') ∧
        ∀ e, r = .error e → Outside D d store w' := by
    refine onDriver_ends ((hD.getconn w.driver).imp fun r d' hdoc => ?_)
    obtain ⟨hsame, hstatus, hresult⟩ := hdoc
    cases r with
    | ok c =>
        refine ⟨fun c' hc => ?_, fun e he => by cases he⟩
        obtain rfl := Except.ok.inj hc
        obtain ⟨hfree, hidle, herased⟩ := hresult
        rw [h.free_eq] at hfree herased
        exact ⟨hfree, (h.status_eq c).symm.trans hidle, h.session_eq, hsame.trans h.store_eq,
          (hstatus c).trans hidle, herased, fun c' _ => (hstatus c').trans (h.status_eq c')⟩
    | error e =>
        refine ⟨(fun c hc => by cases hc), fun e he => ?_⟩
        exact ⟨h.session_eq, hsame.trans h.store_eq, hresult.trans h.free_eq,
          fun c => (hstatus c).trans (h.status_eq c)⟩
  refine .bind hget (fun c w' hc => ?_) fun e w' he => ⟨store, he.2 e rfl, hstore⟩
  obtain ⟨hfree, hidle, hheld⟩ := hc.1 c rfl
  refine .withClause (hbody c w' hfree hheld) (fun a w'' hx => ?_) fun e w'' hx => ?_
  · obtain ⟨store', status, hheld', hpost⟩ := hx
    exact (release_holds hD hfree hidle hheld' (.ok a) hpost none (by simp [Except.toOption])).imp
      fun r w h => h
  · obtain ⟨store', status, hheld', hpost⟩ := hx
    exact release_holds hD hfree hidle hheld' (.error e) hpost (some e) (by simp [Except.toOption])

theorem getActiveSession_outside (h : Outside D d store w) : getActiveSession w = .ok none w := by
  rw [← h.session_eq]
  rfl

theorem isInTransaction_outside (h : Outside D d store w) :
    PostgresTransactionManager.isInTransaction w = .ok false w :=
  estate_bind_ok (getActiveSession_outside h)

theorem acquire_outside (hD : D.Documented) {post : Option α → σ → Prop} {body : ℕ → Session D α}
    (hstore : post none store) (h : Outside D d store w)
    (hbody : ∀ c w', c ∈ D.free d → Holds D d c none store .idle w' →
      Ends (body c) w' fun r w'' => ∃ store' status, Holds D d c none store' status w'' ∧
        Closable post store' status r) :
    Ends (acquire body) w fun r w' => ∃ store', Outside D d store' w' ∧ post r.toOption store' :=
  .exceptClause (poolConnection_outside hD hstore h hbody) (fun _ _ h => h) (fun _ _ _ h => .throw h)
    fun _ _ _ h => h

/-- A timeout that a body raises is reported as one of the pool. -/
theorem acquire_not_timeout (body : ℕ → Session D α) (w : PgWorld D) :
    Ends (acquire body) w fun r _ => ∀ e, r = .error e → e.isTimeout = false := by
  have hbody : Ends (poolConnection body) w fun _ _ => True := by
    cases hrun : poolConnection body w with
    | ok a w' => exact .of_ok hrun trivial
    | error e w' => exact .of_error hrun trivial
  refine .exceptClause hbody (fun a _ _ e he => by cases he) (fun _ _ _ _ => .throw fun e he => ?_)
    fun e' _ hpassed _ e he => ?_
  · obtain rfl := Except.error.inj he
    rfl
  · obtain rfl := Except.error.inj he
    exact hpassed

/-- A borrowed connection commits its statement. -/
theorem executeBorrowed_outside (hD : D.Documented) (sql : σ → Except Raised (α × σ))
    (h : Outside D d store w) : Ends (PostgresRepoBase.executeBorrowed sql) w fun _ w' =>
      ∃ store', Outside D d store' w' ∧ (store' = store ∨ ∃ a, sql store = .ok (a, store')) := by
  have hborrow : PostgresRepoBase.executeBorrowed sql w =
      (acquire fun c => onDriver (D.execute c sql) : Session D α) w :=
    estate_bind_ok (getActiveSession_outside h)
  let post : Option α → σ → Prop := fun _ store' => store' = store ∨ ∃ a, sql store = .ok (a, store')
  have hstays : post none store := Or.inl rfl
  refine .congr hborrow (acquire_outside hD hstays h fun c w' _ hheld => ?_)
  refine onDriver_ends ((hD.execute c sql w'.driver hheld.notMem).imp fun r d' hcall => ?_)
  obtain ⟨hframe, hstore, hexec⟩ := hcall
  have hheld' := hheld.frame hframe
  rw [hstore, hheld.store_eq] at hheld'
  rw [hheld.status_eq, hheld.store_eq] at hexec
  refine ⟨store, _, hheld', ?_⟩
  cases r with
  | error e => cases D.status d' c <;> exact Or.inl rfl
  | ok a =>
      obtain ⟨view, hsql, hview⟩ := hexec
      rw [hview]
      exact ⟨Or.inr ⟨a, hsql⟩, Or.inl rfl, Or.inr ⟨a, hsql⟩⟩

/-- BEGIN starts the transaction on a copy of the store. -/
theorem begin_holds (hD : D.Documented) (h : Holds D d c none store .idle w) :
    Ends (PostgresTransactionManager.begin c) w fun r w' =>
      ∃ status, Holds D d c none store status w' ∧ ∀ u, r = .ok u → status = .inTransaction store := by
  refine onDriver_ends ((hD.execute c (fun view => .ok ((), view)) w.driver h.notMem).imp
    fun r d' hcall => ?_)
  obtain ⟨hframe, hstore, hexec⟩ := hcall
  have hheld := h.frame hframe
  rw [hstore, h.store_eq] at hheld
  rw [h.status_eq, h.store_eq] at hexec
  refine ⟨_, hheld, fun u hu => ?_⟩
  rw [hu] at hexec
  obtain ⟨view, hsql, hview⟩ := hexec
  rw [hview, ← (Prod.mk.inj (Except.ok.inj hsql)).2]

/-- The session is set for the block. -/
theorem setActiveSession_holds (h : Holds D d c none store (.inTransaction store) w) :
    setActiveSession (some ⟨c, true⟩) w = .ok none { w with session := some ⟨c, true⟩ } ∧
      Inside D d c store (.live store) { w with session := some ⟨c, true⟩ } :=
  ⟨by rw [setActiveSession, h.session_eq],
    rfl, h.store_eq, h.status_eq, h.free_eq, h.others⟩

/-- It is reset after the block. -/
theorem Holds.reset (h : Holds D d c session store status w) :
    Holds D d c none store status { w with session := none } :=
  ⟨rfl, h.store_eq, h.status_eq, h.free_eq, h.others⟩

/-- A transaction outside a unit of work runs its block on a connection of the pool. -/
theorem transaction_outside (hD : D.Documented) (body : Prog σ α) (h : Outside D d store w) :
    Ends (PostgresTransactionManager.transaction body.exec) w fun r w' => ∃ store',
      Outside D d store' w' ∧ BlockEnds D body store r.toOption store' := by
  have hcall : PostgresTransactionManager.transaction body.exec w =
      acquire (PostgresTransactionManager.runOn body.exec) w :=
    estate_bind_ok (isInTransaction_outside h)
  refine .congr hcall (acquire_outside hD (Or.inl rfl) h fun c w₁ _ hheld => ?_)
  refine .bind (begin_holds hD hheld) (fun u w₂ hbegun => ?_) fun e w₂ hbegun => ?_
  · obtain ⟨status, hheld', hstatus⟩ := hbegun
    rw [hstatus u rfl] at hheld'
    obtain ⟨hset, hinside⟩ := setActiveSession_holds hheld'
    refine .after hset (.finallyClause (fun _ => rfl) ((runBlock_inside hD body hinside).imp
      fun r w₃ hblock => ?_))
    obtain ⟨store', status', hheld'', hidle, hends⟩ := hblock
    refine ⟨store', status', hheld''.reset, ?_⟩
    cases r with
    | error e => cases status' <;> exact hends
    | ok a =>
        rw [hidle rfl]
        exact hends
  · obtain ⟨status, hheld', -⟩ := hbegun
    refine ⟨store, status, hheld', ?_⟩
    cases status <;> exact Or.inl rfl

/-! ### Programs

The changes of a program are those of its blocks and of its single statements.
-/

/-- The changes of the store that a program may make: single statements, and whole blocks. -/
def Prog.Publishes {σ α : Type} : Prog σ α → σ → σ → Prop
  | .bind x f, store, store' => x.Publishes store store' ∨ ∃ a, (f a).Publishes store store'
  | .tryExcept _ x handler, store, store' =>
      x.Publishes store store' ∨ ∃ e, (handler e).Publishes store store'
  | .borrowed sql, store, store' => ∃ a, sql store = .ok (a, store')
  | .transaction body, store, store' => ∃ a, body.inUnit (.live store) (.ok a) (.live store')
  | _, _, _ => False

/-- A program ends outside, and has changed the store by what it publishes. -/
theorem exec_outside (hD : D.Documented) (p : Prog σ α) (h : Outside D d store w) :
    Ends p.exec w fun _ w' => ∃ store', Outside D d store' w' ∧
      Relation.ReflTransGen p.Publishes store store' := by
  induction p generalizing store w with
  | ret a => exact .pure ⟨store, h, .refl⟩
  | raise e => exact .throw ⟨store, h, .refl⟩
  | bind x f ihx ihf =>
      have hx : ∀ {s s'}, Relation.ReflTransGen x.Publishes s s' →
          Relation.ReflTransGen (Prog.bind x f).Publishes s s' :=
        Relation.ReflTransGen.mono (fun _ _ h => Or.inl h) _ _
      refine .bind (ihx h) (fun a w' hend => ?_) fun e w' hend => ?_
      · obtain ⟨store', h', hsteps⟩ := hend
        refine (ihf a h').imp fun r w'' hend' => ?_
        obtain ⟨store'', h'', hsteps'⟩ := hend'
        exact ⟨store'', h'', (hx hsteps).trans
          (Relation.ReflTransGen.mono (fun _ _ hf => Or.inr ⟨a, hf⟩) _ _ hsteps')⟩
      · obtain ⟨store', h', hsteps⟩ := hend
        exact ⟨store', h', hx hsteps⟩
  | tryExcept catches x handler ihx ihh =>
      have hx : ∀ {s s'}, Relation.ReflTransGen x.Publishes s s' →
          Relation.ReflTransGen (Prog.tryExcept catches x handler).Publishes s s' :=
        Relation.ReflTransGen.mono (fun _ _ h => Or.inl h) _ _
      have hend : ∀ w', (∃ store', Outside D d store' w' ∧
          Relation.ReflTransGen x.Publishes store store') → ∃ store', Outside D d store' w' ∧
            Relation.ReflTransGen (Prog.tryExcept catches x handler).Publishes store store' := by
        rintro w' ⟨store', h', hsteps⟩
        exact ⟨store', h', hx hsteps⟩
      refine .exceptClause (ihx h) (fun _ w' => hend w') (fun e w' _ hraised => ?_)
        fun _ w' _ => hend w'
      obtain ⟨store', h', hsteps⟩ := hraised
      refine (ihh e h').imp fun r w'' hend' => ?_
      obtain ⟨store'', h'', hsteps'⟩ := hend'
      exact ⟨store'', h'', (hx hsteps).trans
        (Relation.ReflTransGen.mono (fun _ _ hf => Or.inr ⟨e, hf⟩) _ _ hsteps')⟩
  | isInTransaction => exact .of_ok (isInTransaction_outside h) ⟨store, h, .refl⟩
  | requireTransaction operation =>
      exact .of_error (estate_bind_ok (isInTransaction_outside h)) ⟨store, h, .refl⟩
  | active sql =>
      exact .of_error (estate_bind_error (estate_bind_ok (getActiveSession_outside h)))
        ⟨store, h, .refl⟩
  | borrowed sql =>
      refine (executeBorrowed_outside hD sql h).imp fun r w' hend => ?_
      obtain ⟨store', h', rfl | hsql⟩ := hend
      · exact ⟨_, h', .refl⟩
      · exact ⟨_, h', .single hsql⟩
  | transaction body ih =>
      refine (transaction_outside hD body h).imp fun r w' hend => ?_
      obtain ⟨store', h', hends⟩ := hend
      rcases hends.cases with rfl | hlive
      · exact ⟨_, h', .refl⟩
      · exact ⟨store', h', .single hlive⟩

end Calls

end Persistence

end CartoonDemo
