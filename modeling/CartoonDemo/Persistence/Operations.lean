import CartoonDemo.Persistence.Atomicity
import CartoonDemo.Persistence.PooledDriver

/-!
# CartoonDemo.Persistence.Operations

**A block performs one operation.** Where no call of the driver fails of itself, a program in a block
does what its statements say, one after the other, and after a statement that the server has refused
every other one is refused as well (`Prog.quietly`). What the block makes of the store is then one
operation (`Prog.operation`): it is committed as a whole if the body returns, and leaves the store if
the body raises (`transaction_quiet`).
-/

namespace CartoonDemo

namespace Persistence

variable {σ α : Type}

/-! ### What a program computes

A program in a block as a function of the view.
-/

/-- A statement on the view of a transaction; there is none once a statement has failed. -/
def statementQuietly (sql : σ → Except Raised (α × σ)) : Option σ → Except Raised α × Option σ
  | some view =>
      match sql view with
      | .ok (a, view') => (.ok a, some view')
      | .error e => (.error e, none)
  | none => (.error inFailedSqlTransaction, none)

/-- A program in a block in which no call fails of itself. -/
def Prog.quietly {σ α : Type} : Prog σ α → Option σ → Except Raised α × Option σ
  | .ret a, view => (.ok a, view)
  | .raise e, view => (.error e, view)
  | .bind x f, view =>
      match x.quietly view with
      | (.ok a, view') => (f a).quietly view'
      | (.error e, view') => (.error e, view')
  | .tryExcept catches x handler, view =>
      match x.quietly view with
      | (.ok a, view') => (.ok a, view')
      | (.error e, view') => if catches e then (handler e).quietly view' else (.error e, view')
  | .isInTransaction, view => (.ok true, view)
  | .requireTransaction _, view => (.ok (), view)
  | .active sql, view => statementQuietly sql view
  | .borrowed sql, view => statementQuietly sql view
  | .transaction _, view => (.error PostgresTransactionManager.nestedError, view)

/-- The operation that a block performs. A block in which a failed statement was caught stores
nothing. -/
def Prog.operation (body : Prog σ α) (store : σ) : Except Raised (α × σ) :=
  match body.quietly (some store) with
  | (.ok a, view) => .ok (a, view.getD store)
  | (.error e, _) => .error e

/-- What `acquire` makes of an exception that passes. -/
def overPool (e : Raised) : Raised :=
  if e.isTimeout then
    persistenceError "PersistenceConnectionError" (ErrorTranslator.connectionMessage "acquire")
  else e

/-- The copy with this view. -/
def Copy.ofView : Option σ → Copy σ
  | some view => .live view
  | none => .failed

/-! ### Calls that do not fail of themselves -/

section Quiet

variable {D : Driver σ} {d : D.State} {c : ℕ} {session : Option SessionScope} {store : σ}
  {status : ConnectionStatus σ} {w : PgWorld D} {view : Option σ}

theorem performed_quietly {sql : σ → Except Raised (α × σ)} {r : Except Raised α}
    {after : ConnectionStatus σ} (h : Performed sql store (Copy.ofView view).status r after) :
    r = (statementQuietly sql view).1 ∧ after = (Copy.ofView (statementQuietly sql view).2).status := by
  cases view with
  | none => exact h
  | some view =>
      simp only [Copy.ofView, Copy.status, Performed] at h
      rw [statementQuietly]
      cases hsql : sql view with
      | ok p =>
          rw [hsql] at h
          exact h
      | error e =>
          rw [hsql] at h
          exact h

theorem execute_quiet (hD : D.Documented) (sql : σ → Except Raised (α × σ))
    (h : Inside D d c store (.ofView view) w) (hquiet : D.quiet w.driver) :
    Ends (onDriver (D.execute c sql)) w fun r w' => r = (statementQuietly sql view).1 ∧
      Inside D d c store (.ofView (statementQuietly sql view).2) w' ∧ D.quiet w'.driver := by
  refine onDriver_ends (((hD.execute c sql w.driver h.notMem).and
    (hD.quiet_execute c sql w.driver h.notMem hquiet)).imp fun r d' hcall => ?_)
  obtain ⟨⟨hframe, hstore, -⟩, hquiet', hperformed⟩ := hcall
  have hheld := h.frame hframe
  rw [h.status_eq] at hperformed
  obtain ⟨hr, hafter⟩ := performed_quietly hperformed
  rw [hstore, h.store_eq, hafter] at hheld
  exact ⟨hr, hheld, hquiet'⟩

/-- **A program in a block does what its statements say.** -/
theorem exec_quiet (hD : D.Documented) (p : Prog σ α) (h : Inside D d c store (.ofView view) w)
    (hquiet : D.quiet w.driver) :
    Ends p.exec w fun r w' => r = (p.quietly view).1 ∧
      Inside D d c store (.ofView (p.quietly view).2) w' ∧ D.quiet w'.driver := by
  induction p generalizing view w with
  | ret a => exact .pure ⟨rfl, h, hquiet⟩
  | raise e => exact .throw ⟨rfl, h, hquiet⟩
  | bind x f ihx ihf =>
      have hx := ihx h hquiet
      rw [Prog.quietly]
      cases hrun : x.quietly view with
      | mk r view' =>
          rw [hrun] at hx
          refine .bind hx (fun a w' hend => ?_) fun e w' hend => ?_
          · obtain ⟨hr, h', hquiet'⟩ := hend
            obtain rfl : .ok a = r := hr
            exact ihf a h' hquiet'
          · obtain ⟨hr, h', hquiet'⟩ := hend
            obtain rfl : .error e = r := hr
            exact ⟨rfl, h', hquiet'⟩
  | tryExcept catches x handler ihx ihh =>
      have hx := ihx h hquiet
      rw [Prog.quietly]
      cases hrun : x.quietly view with
      | mk r view' =>
          rw [hrun] at hx
          refine .exceptClause hx (fun a w' hend => ?_) (fun e w' hc hend => ?_)
            fun e w' hc hend => ?_
          · obtain ⟨hr, h', hquiet'⟩ := hend
            obtain rfl : .ok a = r := hr
            exact ⟨rfl, h', hquiet'⟩
          · obtain ⟨hr, h', hquiet'⟩ := hend
            obtain rfl : .error e = r := hr
            simp only [hc, if_true]
            exact ihh e h' hquiet'
          · obtain ⟨hr, h', hquiet'⟩ := hend
            obtain rfl : .error e = r := hr
            simp only [hc, Bool.false_eq_true, if_false]
            exact ⟨trivial, h', hquiet'⟩
  | isInTransaction => exact .of_ok (isInTransaction_inside h) ⟨rfl, h, hquiet⟩
  | requireTransaction operation =>
      exact .of_ok (requireActiveTransaction_inside h operation) ⟨rfl, h, hquiet⟩
  | active sql => exact .congr (executeActive_inside h sql) (execute_quiet hD sql h hquiet)
  | borrowed sql => exact .congr (executeBorrowed_inside h sql) (execute_quiet hD sql h hquiet)
  | transaction body ih => exact .of_error (transaction_inside h _) ⟨rfl, h, hquiet⟩

theorem commit_quiet (hD : D.Documented) (h : Holds D d c session store status w)
    (hopen : status ≠ .closed) (hquiet : D.quiet w.driver) :
    Ends (PostgresTransactionManager.commit c) w fun r w' => r = .ok () ∧
      Holds D d c session (status.published store) .idle w' ∧ D.quiet w'.driver := by
  have hcall : Ends (onDriver (D.commit c)) w fun r w' => r = .ok () ∧
      Holds D d c session (status.published store) .idle w' ∧ D.quiet w'.driver := by
    have hstatus : D.status w.driver c ≠ .closed := by rwa [h.status_eq]
    refine onDriver_ends (((hD.commit c w.driver h.notMem).and
      (hD.quiet_commit c w.driver h.notMem hquiet hstatus)).imp fun r d' hdoc => ?_)
    obtain ⟨⟨hframe, hcommitted⟩, hquiet', rfl⟩ := hdoc
    obtain ⟨-, hidle, hstore⟩ := hcommitted
    have hheld := h.frame hframe
    rw [hidle, hstore, h.store_eq, h.status_eq] at hheld
    exact ⟨rfl, hheld, hquiet'⟩
  exact .exceptClause hcall (fun _ _ h => h) (fun _ _ _ h => by cases h.1) fun _ _ _ h => h

theorem rollback_quiet (hD : D.Documented) (h : Holds D d c session store status w)
    (hopen : status ≠ .closed) (hquiet : D.quiet w.driver) :
    Ends (PostgresTransactionManager.rollback c) w fun r w' => r = .ok () ∧
      (∃ status', Holds D d c session store status' w') ∧ D.quiet w'.driver := by
  have hcall : Ends (onDriver (D.rollback c)) w fun r w' => r = .ok () ∧
      (∃ status', Holds D d c session store status' w') ∧ D.quiet w'.driver := by
    have hstatus : D.status w.driver c ≠ .closed := by rwa [h.status_eq]
    refine onDriver_ends (((hD.rollback c w.driver h.notMem).and
      (hD.quiet_rollback c w.driver h.notMem hquiet hstatus)).imp fun r d' hdoc => ?_)
    obtain ⟨⟨hframe, hstore⟩, hquiet', hr⟩ := hdoc
    have hheld := h.frame hframe
    rw [hstore, h.store_eq] at hheld
    exact ⟨hr, ⟨_, hheld⟩, hquiet'⟩
  exact .exceptClause hcall (fun _ _ h => h) (fun _ _ _ h => by cases h.1) fun _ _ _ h => h

theorem ofView_open : (Copy.ofView view).status ≠ .closed := by
  cases view <;> simp [Copy.ofView, Copy.status]

/-- The block commits its operation, or rolls back. -/
theorem runBlock_quiet (hD : D.Documented) (body : Prog σ α)
    (h : Inside D d c store (.live store) w) (hquiet : D.quiet w.driver) :
    Ends (PostgresTransactionManager.runBlock c body.exec) w fun r w' =>
      r = (body.operation store).map Prod.fst ∧
        (∃ status, Holds D d c (some ⟨c, true⟩) (CartoonDemo.commit store (body.operation store)) status w' ∧
          (r.toOption.isSome = true → status = .idle)) ∧ D.quiet w'.driver := by
  have hview : Inside D d c store (.ofView (some store)) w := h
  have hexec := exec_quiet hD body hview hquiet
  rw [Prog.operation]
  cases hrun : body.quietly (some store) with
  | mk r view =>
      rw [hrun] at hexec
      cases r with
      | ok a =>
          have hbody : Ends (exceptClause Raised.isException body.exec fun e => do
              PostgresTransactionManager.rollback c
              throw e) w fun r w' => r = .ok a ∧ Inside D d c store (.ofView view) w' ∧
                D.quiet w'.driver :=
            .exceptClause hexec (fun _ _ h => h) (fun _ _ _ h => by cases h.1) fun _ _ _ h => h
          refine .bind hbody (fun a' w' hend => ?_) fun e w' hend => by cases hend.1
          obtain ⟨ha, hinside, hquiet'⟩ := hend
          obtain rfl := Except.ok.inj ha
          refine .bind (commit_quiet hD hinside ofView_open hquiet') (fun u w'' hend => .pure ?_)
            fun e w'' hend => by cases hend.1
          obtain ⟨-, hheld, hquiet''⟩ := hend
          refine ⟨rfl, ⟨_, ?_, fun _ => rfl⟩, hquiet''⟩
          cases view <;> exact hheld
      | error e =>
          have hbody : Ends (exceptClause Raised.isException body.exec fun e => do
              PostgresTransactionManager.rollback c
              throw e) w fun r w' => r = .error e ∧
                (∃ status, Holds D d c (some ⟨c, true⟩) store status w') ∧ D.quiet w'.driver := by
            refine .exceptClause hexec (fun _ _ h => by cases h.1) (fun e' w' _ hend => ?_)
              fun e' w' _ hend => ⟨hend.1, ⟨_, hend.2.1⟩, hend.2.2⟩
            obtain ⟨he, hinside, hquiet'⟩ := hend
            refine .bind (rollback_quiet hD hinside ofView_open hquiet')
              (fun u w'' hback => .throw ⟨he, hback.2⟩) fun e'' w'' hback => by cases hback.1
          refine .bind hbody (fun a w' hend => by cases hend.1) fun e' w' hend => ?_
          obtain ⟨he, ⟨status, hheld⟩, hquiet'⟩ := hend
          exact ⟨by rw [Except.error.inj he]; rfl, ⟨status, hheld, fun hsome => by cases hsome⟩, hquiet'⟩

/-- Work on a connection, from the pool and back. -/
theorem acquire_quiet (hD : D.Documented) {body : ℕ → Session D α} {r₀ : Except Raised α} {store' : σ}
    (h : Outside D d store w) (hquiet : D.quiet w.driver) (hfree : (D.free d).Nonempty)
    (hbody : ∀ c w', Holds D d c none store .idle w' → D.quiet w'.driver →
      Ends (body c) w' fun r w'' => r = r₀ ∧ (∃ status, Holds D d c none store' status w'' ∧
        (r.toOption.isSome = true → status = .idle)) ∧ D.quiet w''.driver) :
    Ends (acquire body) w fun r w' => r = r₀.mapError overPool ∧ D.store w'.driver = store' := by
  have hget : Ends (onDriver D.getconn) w fun r w' =>
      ∃ c, r = .ok c ∧ Holds D d c none store .idle w' ∧ D.quiet w'.driver := by
    have hnonempty : (D.free w.driver).Nonempty := by rwa [h.free_eq]
    refine onDriver_ends (((hD.getconn w.driver).and
      (hD.quiet_getconn w.driver hquiet hnonempty)).imp fun r d' hdoc => ?_)
    obtain ⟨⟨hsame, hstatus, hresult⟩, hquiet', c, rfl⟩ := hdoc
    obtain ⟨-, hidle, herased⟩ := hresult
    rw [h.free_eq] at herased
    exact ⟨c, rfl, ⟨h.session_eq, hsame.trans h.store_eq, (hstatus c).trans hidle, herased,
      fun c' _ => (hstatus c').trans (h.status_eq c')⟩, hquiet'⟩
  have hpool : Ends (poolConnection body) w fun r w' => r = r₀ ∧ D.store w'.driver = store' := by
    refine .bind hget (fun c w' hend => ?_) fun e w' hend => ?_
    · obtain ⟨c', hc, hheld, hquiet'⟩ := hend
      obtain rfl := Except.ok.inj hc
      refine .withClause (hbody c w' hheld hquiet') (fun a w'' hend => ?_) fun e w'' hend => ?_
      · obtain ⟨hr, ⟨status, hheld', hidle⟩, hquiet''⟩ := hend
        refine onDriver_ends (((hD.release c none w''.driver hheld'.notMem).and
          (hD.quiet_release c none w''.driver hheld'.notMem hquiet'')).imp fun r d' hdoc => ?_)
        obtain ⟨⟨-, -, -, hreleased⟩, -, rfl⟩ := hdoc
        rw [hheld'.store_eq, hheld'.status_eq, hidle rfl] at hreleased
        exact ⟨hr, hreleased⟩
      · obtain ⟨hr, ⟨status, hheld', -⟩, hquiet''⟩ := hend
        refine onDriver_ends (((hD.release c (some e) w''.driver hheld'.notMem).and
          (hD.quiet_release c (some e) w''.driver hheld'.notMem hquiet'')).imp fun r d' hdoc => ?_)
        obtain ⟨⟨-, -, -, hreleased⟩, -, rfl⟩ := hdoc
        rw [hheld'.store_eq] at hreleased
        exact ⟨hr, hreleased⟩
    · obtain ⟨c, hc, -⟩ := hend
      cases hc
  refine .exceptClause hpool (fun a w' hend => ?_) (fun e w' hc hend => .throw ?_)
    fun e w' hc hend => ?_
  · exact ⟨by rw [← hend.1]; rfl, hend.2⟩
  · refine ⟨?_, hend.2⟩
    rw [← hend.1]
    exact congrArg Except.error (if_pos hc).symm
  · refine ⟨?_, hend.2⟩
    rw [← hend.1]
    exact congrArg Except.error (if_neg (by simp [hc])).symm

/-- **A block performs its operation in one step.** -/
theorem transaction_quiet (hD : D.Documented) (body : Prog σ α) (h : Outside D d store w)
    (hquiet : D.quiet w.driver) (hfree : (D.free d).Nonempty) :
    Ends (Prog.transaction body).exec w fun r w' =>
      r = ((body.operation store).map Prod.fst).mapError overPool ∧
        D.store w'.driver = CartoonDemo.commit store (body.operation store) := by
  have hcall : PostgresTransactionManager.transaction body.exec w =
      acquire (PostgresTransactionManager.runOn body.exec) w :=
    estate_bind_ok (isInTransaction_outside h)
  refine .congr hcall (acquire_quiet hD h hquiet hfree fun c w₁ hheld hquiet₁ => ?_)
  have hbegin : Ends (PostgresTransactionManager.begin c) w₁ fun r w' => r = .ok () ∧
      Holds D d c none store (.inTransaction store) w' ∧ D.quiet w'.driver := by
    refine onDriver_ends (((hD.execute c (fun view => .ok ((), view)) w₁.driver hheld.notMem).and
      (hD.quiet_execute c (fun view => .ok ((), view)) w₁.driver hheld.notMem hquiet₁)).imp fun r d' hcall => ?_)
    obtain ⟨⟨hframe, hstore, -⟩, hquiet', hperformed⟩ := hcall
    have hheld' := hheld.frame hframe
    rw [hheld.status_eq, hheld.store_eq] at hperformed
    rw [hstore, hheld.store_eq, hperformed.2] at hheld'
    exact ⟨hperformed.1, hheld', hquiet'⟩
  refine .bind hbegin (fun u w₂ hbegun => ?_) fun e w₂ hbegun => by cases hbegun.1
  obtain ⟨-, hheld', hquiet₂⟩ := hbegun
  obtain ⟨hset, hinside⟩ := setActiveSession_holds hheld'
  refine .after hset (.finallyClause (fun _ => rfl) ((runBlock_quiet hD body hinside hquiet₂).imp
    fun r w₃ hblock => ?_))
  obtain ⟨hr, ⟨status, hheld'', hidle⟩, hquiet₃⟩ := hblock
  exact ⟨hr, ⟨status, hheld''.reset, hidle⟩, hquiet₃⟩

end Quiet

/-! ### The unit of work

The results about the parts, put together for a thread outside of a transaction.
-/

/-- **The unit of work**, over every driver that behaves as documented, for a thread without a
session. -/
theorem unit_of_work (D : Driver σ) (hD : D.Documented) (w : PgWorld D) (hw : w.session = none) :
    (∀ {α : Type} (p : Prog σ α), Ends p.exec w fun _ w' => ∃ store', Outside D w.driver store' w' ∧
      Relation.ReflTransGen p.Publishes (D.store w.driver) store') ∧
    (∀ {α : Type} (body : Prog σ α), Ends (Prog.transaction body).exec w fun r w' =>
      BlockEnds D body (D.store w.driver) r.toOption (D.store w'.driver) ∧
        ∀ e, r = .error e → e.isTimeout = false) ∧
    (∀ {α : Type} (p : Prog σ α) (d : D.State) (c : ℕ) (store : σ) (k : Copy σ) (w₁ : PgWorld D),
      Inside D d c store k w₁ →
        Ends p.exec w₁ fun r w' => ∃ k', p.inUnit k r k' ∧ Inside D d c store k' w') ∧
    ∀ {α : Type} (body : Prog σ α), D.quiet w.driver → (D.free w.driver).Nonempty →
      Ends (Prog.transaction body).exec w fun r w' =>
        r = ((body.operation (D.store w.driver)).map Prod.fst).mapError overPool ∧
          D.store w'.driver =
            CartoonDemo.commit (D.store w.driver) (body.operation (D.store w.driver)) := by
  have houtside : Outside D w.driver (D.store w.driver) w := ⟨hw, rfl, rfl, fun _ => rfl⟩
  refine ⟨fun p => exec_outside hD p houtside, fun body => ?_,
    fun p d c store k w₁ hinside => exec_inside hD p hinside,
    fun body hquiet hfree => transaction_quiet hD body houtside hquiet hfree⟩
  have hcall : (Prog.transaction body).exec w =
      acquire (PostgresTransactionManager.runOn body.exec) w :=
    estate_bind_ok (isInTransaction_outside houtside)
  refine ((transaction_outside hD body houtside).imp fun r w' hends => ?_).and
    (.congr hcall (acquire_not_timeout _ w))
  obtain ⟨store', houtside', hblock⟩ := hends
  rw [houtside'.store_eq]
  exact hblock

/-- Two rows; what the second statement raises is caught. -/
def twoRows (second : List ℕ → Except Raised (Unit × List ℕ)) : Prog (List ℕ) Unit :=
  .bind (.active fun rows => .ok ((), rows ++ [1])) fun _ =>
    .tryExcept Raised.isException (.active second) fun _ => .ret ()

/-- A driver with one connection and no rows. -/
def emptyTable : PgWorld (pooledDriver (List ℕ)) := { driver := { store := [], pool := [0] } }

/-- Both rows are committed; and neither is, where the server has refused the second. -/
theorem twoRows_committed :
    (Ends (Prog.transaction (twoRows fun rows => .ok ((), rows ++ [2]))).exec emptyTable
      fun r w' => r = .ok () ∧ w'.driver.store = [1, 2]) ∧
    Ends (Prog.transaction (twoRows fun _ => .error inFailedSqlTransaction)).exec emptyTable
      fun r w' => r = .ok () ∧ w'.driver.store = [] :=
  ⟨(unit_of_work (pooledDriver (List ℕ)) (pooledDriver_documented _) emptyTable rfl).2.2.2 _ rfl
      ⟨0, List.mem_toFinset.mpr List.mem_cons_self⟩,
    (unit_of_work (pooledDriver (List ℕ)) (pooledDriver_documented _) emptyTable rfl).2.2.2 _ rfl
      ⟨0, List.mem_toFinset.mpr List.mem_cons_self⟩⟩

end Persistence

end CartoonDemo
