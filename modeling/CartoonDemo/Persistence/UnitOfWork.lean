import CartoonDemo.Library.Clauses
import CartoonDemo.Library.PyWord
import Mathlib.Data.Finset.Basic
import Mathlib.Data.List.Infix

/-!
# CartoonDemo.Persistence.UnitOfWork

The **unit of work** (`persistence/transaction.py`, `session.py`, `pool.py`, `errors_internal.py` and
the connection helpers of `repos/_base.py`), for one thread.

psycopg and its pool are a `Driver`, and what their documentation says of them is `Driver.Documented`.
A connection belongs to the thread from `getconn` to `release`; while it is in a transaction its
statements work on a view of the store that nobody else sees, and only a COMMIT makes that the store.
The first statement begins a transaction. Every call may fail: a statement that the server refuses
fails the transaction, which then answers every further statement with an error and the COMMIT with a
rollback, without an exception.
-/

namespace CartoonDemo

namespace Persistence

/-! ### Exceptions

What an `except` clause can ask of an exception, and what `translate` makes of one.
-/

/-- The classes that `except` clauses and `isinstance` ask for. -/
inductive ExceptionClass
  | exception | timeoutError | poolTimeout | operationalError | serializationFailure | internalError
  deriving DecidableEq, Repr

/-- An exception: the name of its class, the classes that it is an instance of, and its text. -/
structure Raised where
  className : String
  bases : List ExceptionClass
  message : String
  deriving DecidableEq, Repr

def Raised.isInstance (e : Raised) (cls : ExceptionClass) : Bool := e.bases.contains cls

/-- `except Exception`. -/
def Raised.isException (e : Raised) : Bool := e.isInstance .exception

/-- `except (TimeoutError, PoolTimeout)`. -/
def Raised.isTimeout (e : Raised) : Bool := e.isInstance .timeoutError || e.isInstance .poolTimeout

/-- A `PersistenceError`. -/
def persistenceError (className message : String) : Raised := ⟨className, [.exception], message⟩

namespace ErrorTranslator

/-- `_CONNECTION_CLASS_NAMES`. -/
def connectionClassNames : List String :=
  ["OperationalError", "InterfaceError", "ConnectionException", "ConnectionDoesNotExist",
    "ConnectionFailure", "ConnectionTimeout", "CannotConnectNow"]

/-- `_TRANSACTION_CLASS_NAMES`. -/
def transactionClassNames : List String := ["InternalError", "InFailedSqlTransaction"]

def mentions (text : List Char) (word : String) : Bool := decide (word.toList <:+: text)

/-- `_is_transaction_failure`. -/
def isTransactionFailure (exc : Raised) (operation className : String) : Bool :=
  let message := PyWord.lowered exc.message.toList
  if mentions message "commit" || mentions message "rollback" then true
  else if mentions operation.toList "commit" || mentions operation.toList "rollback" then
    exc.isInstance .internalError || transactionClassNames.contains className
  else false

/-- `_connection_message`. -/
def connectionMessage (operation : String) : String :=
  "Persistence connection error during " ++ operation

/-- `_conflict_message`. -/
def conflictMessage (operation : String) (entityId : Option String) : String :=
  match entityId with
  | some entityId => "Persistence conflict error during " ++ operation ++ " for entity " ++ entityId
  | none => "Persistence conflict error during " ++ operation

/-- `_transaction_message`. -/
def transactionMessage (operation : String) : String :=
  "Persistence transaction error during " ++ operation

/-- `translate`. -/
def translate (exc : Raised) (operation : String) (entityId : Option String) : Raised :=
  if exc.isInstance .serializationFailure || exc.className = "SerializationFailure" then
    persistenceError "PersistenceConflictError" (conflictMessage operation entityId)
  else if exc.isInstance .operationalError || connectionClassNames.contains exc.className then
    persistenceError "PersistenceConnectionError" (connectionMessage operation)
  else if isTransactionFailure exc operation exc.className then
    persistenceError "PersistenceTransactionError" (transactionMessage operation)
  else persistenceError "PersistenceConnectionError" (connectionMessage operation)

end ErrorTranslator

/-! ### Connections

psycopg is not part of the repository: it is a parameter, with what its documentation says of each
call.
-/

/-- The state of a connection. -/
inductive ConnectionStatus (σ : Type)
  | idle
  | inTransaction (view : σ)
  /-- A statement has failed. -/
  | inError
  | closed

/-- psycopg, its pool and the server, with what can be observed of them. -/
structure Driver (σ : Type) where
  State : Type
  /-- What is committed. -/
  store : State → σ
  status : State → ℕ → ConnectionStatus σ
  /-- The connections in the pool. -/
  free : State → Finset ℕ
  /-- No call is going to fail of itself. -/
  quiet : State → Prop
  /-- `connection.execute`. -/
  execute {α : Type} : ℕ → (σ → Except Raised (α × σ)) → EStateM Raised State α
  /-- `connection.commit`. -/
  commit : ℕ → EStateM Raised State Unit
  /-- `connection.rollback`. -/
  rollback : ℕ → EStateM Raised State Unit
  /-- The beginning of `with pool.connection(...) as connection`. -/
  getconn : EStateM Raised State ℕ
  /-- The end of it, told what the block has raised. -/
  release : ℕ → Option Raised → EStateM Raised State Unit

/-- `InFailedSqlTransaction`, an `InternalError`. -/
def inFailedSqlTransaction : Raised :=
  ⟨"InFailedSqlTransaction", [.exception, .internalError],
    "current transaction is aborted, commands ignored until end of transaction block"⟩

section Documented

variable {σ α : Type}

/-- What a statement that is sent may do: what it says, or fail, when the server has refused it or
the connection is closed or nothing was sent. -/
def Sent (sql : σ → Except Raised (α × σ)) (view : σ) (before : ConnectionStatus σ) :
    Except Raised α → ConnectionStatus σ → Prop
  | .ok a, after => ∃ view', sql view = .ok (a, view') ∧ after = .inTransaction view'
  | .error _, after => after = before ∨ after = .inError ∨ after = .closed

/-- What `execute` may do; `store` is what the first statement of a transaction sees. -/
def Executed (sql : σ → Except Raised (α × σ)) (store : σ) :
    ConnectionStatus σ → Except Raised α → ConnectionStatus σ → Prop
  | .idle, r, after => Sent sql store .idle r after
  | .inTransaction view, r, after => Sent sql view (.inTransaction view) r after
  | .inError, .error _, after => after = .inError ∨ after = .closed
  | .closed, .error _, after => after = .closed
  | _, .ok _, _ => False

/-- What a COMMIT makes the store. -/
def ConnectionStatus.published (status : ConnectionStatus σ) (store : σ) : σ :=
  match status with
  | .inTransaction view => view
  | _ => store

/-- What `commit` may do. A COMMIT that raises may have been applied. -/
def Committed (store : σ) (before : ConnectionStatus σ) :
    Except Raised Unit → ConnectionStatus σ → σ → Prop
  | .ok _, after, store' => before ≠ .closed ∧ after = .idle ∧ store' = before.published store
  | .error _, _, store' => store' = store ∨ store' = before.published store

/-- What the end of a `with` over a connection may do: it commits what is open, or rolls it back if
an exception passes. -/
def Released (store : σ) (before : ConnectionStatus σ) (exc : Option Raised) :
    Except Raised Unit → σ → Prop
  | .ok _, store' => store' = if exc.isNone then before.published store else store
  | .error _, store' => exc = none ∧ before ≠ .idle ∧ before ≠ .closed ∧
      (store' = store ∨ store' = before.published store)

variable (D : Driver σ)

/-- Nothing but connection `c` has changed. -/
def Driver.Frame (c : ℕ) (d d' : D.State) : Prop :=
  D.free d' = D.free d ∧ ∀ c', c' ≠ c → D.status d' c' = D.status d c'

/-- What `getconn` takes from the pool. -/
def Driver.Taken (d d' : D.State) : Except Raised ℕ → Prop
  | .ok c => c ∈ D.free d ∧ D.status d c = .idle ∧ D.free d' = (D.free d).erase c
  | .error _ => D.free d' = D.free d

/-- What a statement does where no call fails of itself. -/
def Performed (sql : σ → Except Raised (α × σ)) (store : σ) :
    ConnectionStatus σ → Except Raised α → ConnectionStatus σ → Prop
  | .idle, r, after | .inTransaction store, r, after =>
      match sql store with
      | .ok (a, view) => r = .ok a ∧ after = .inTransaction view
      | .error e => r = .error e ∧ after = .inError
  | .inError, r, after => r = .error inFailedSqlTransaction ∧ after = .inError
  | .closed, _, after => after = .closed

/-- The documented behaviour of psycopg and its pool. -/
structure Driver.Documented : Prop where
  /-- A statement changes its connection only. -/
  execute : ∀ {α : Type} (c : ℕ) (sql : σ → Except Raised (α × σ)) (d : D.State),
    c ∉ D.free d → Ends (D.execute c sql) d fun r d' => D.Frame c d d' ∧ D.store d' = D.store d ∧
      Executed sql (D.store d) (D.status d c) r (D.status d' c)
  commit : ∀ (c : ℕ) (d : D.State), c ∉ D.free d → Ends (D.commit c) d fun r d' => D.Frame c d d' ∧
    Committed (D.store d) (D.status d c) r (D.status d' c) (D.store d')
  /-- A ROLLBACK leaves the store. -/
  rollback : ∀ (c : ℕ) (d : D.State), c ∉ D.free d → Ends (D.rollback c) d fun _ d' =>
    D.Frame c d d' ∧ D.store d' = D.store d
  /-- The pool gives a connection away that is idle. -/
  getconn : ∀ d : D.State, Ends D.getconn d fun r d' =>
    D.store d' = D.store d ∧ (∀ c, D.status d' c = D.status d c) ∧ D.Taken d d' r
  /-- However its block ends, the connection is idle in the pool, or a new one in its place. -/
  release : ∀ (c : ℕ) (exc : Option Raised) (d : D.State), c ∉ D.free d →
    Ends (D.release c exc) d fun r d' => D.free d' = insert c (D.free d) ∧ D.status d' c = .idle ∧
      (∀ c', c' ≠ c → D.status d' c' = D.status d c') ∧
      Released (D.store d) (D.status d c) exc r (D.store d')
  quiet_execute : ∀ {α : Type} (c : ℕ) (sql : σ → Except Raised (α × σ)) (d : D.State),
    c ∉ D.free d → D.quiet d → Ends (D.execute c sql) d fun r d' => D.quiet d' ∧
      Performed sql (D.store d) (D.status d c) r (D.status d' c)
  quiet_commit : ∀ (c : ℕ) (d : D.State), c ∉ D.free d → D.quiet d → D.status d c ≠ .closed →
    Ends (D.commit c) d fun r d' => D.quiet d' ∧ r = .ok ()
  quiet_rollback : ∀ (c : ℕ) (d : D.State), c ∉ D.free d → D.quiet d → D.status d c ≠ .closed →
    Ends (D.rollback c) d fun r d' => D.quiet d' ∧ r = .ok ()
  quiet_getconn : ∀ d : D.State, D.quiet d → (D.free d).Nonempty →
    Ends D.getconn d fun r d' => D.quiet d' ∧ ∃ c, r = .ok c
  quiet_release : ∀ (c : ℕ) (exc : Option Raised) (d : D.State), c ∉ D.free d → D.quiet d →
    Ends (D.release c exc) d fun r d' => D.quiet d' ∧ r = .ok ()

end Documented

/-! ### Code of a thread -/

/-- One borrowed connection; optionally inside an open transaction. -/
structure SessionScope where
  connection : ℕ
  inTransaction : Bool := false
  deriving DecidableEq, Repr

/-- What a thread sees. -/
structure PgWorld {σ : Type} (D : Driver σ) where
  driver : D.State
  /-- `_active_session`. -/
  session : Option SessionScope := none

/-- Code that runs in the thread. -/
abbrev Session {σ : Type} (D : Driver σ) := EStateM Raised (PgWorld D)

section Threads

variable {σ α : Type} {D : Driver σ}

/-- A call of the driver. -/
def onDriver (x : EStateM Raised D.State α) : Session D α := fun w =>
  match x w.driver with
  | .ok a d => .ok a { w with driver := d }
  | .error e d => .error e { w with driver := d }

/-- `with pool.connection(...) as connection`. -/
def poolConnection (body : ℕ → Session D α) : Session D α := do
  let c ← onDriver D.getconn
  withClause (body c) fun exc => onDriver (D.release c exc)

/-- `ConnectionPoolManager.acquire`. The clause covers what runs with the connection. -/
def acquire (body : ℕ → Session D α) : Session D α :=
  exceptClause Raised.isTimeout (poolConnection body) fun _ =>
    throw (persistenceError "PersistenceConnectionError"
      (ErrorTranslator.connectionMessage "acquire"))

/-! ### The session -/

/-- `get_active_session`. -/
def getActiveSession : Session D (Option SessionScope) := fun w => .ok w.session w

/-- `set_active_session`. The token is the value that it replaces. -/
def setActiveSession (scope : Option SessionScope) : Session D (Option SessionScope) := fun w =>
  .ok w.session { w with session := scope }

/-- `_active_session.reset`. -/
def resetActiveSession (token : Option SessionScope) : Session D Unit := fun w =>
  .ok () { w with session := token }

/-! ### Transactions -/

namespace PostgresTransactionManager

/-- `is_in_transaction`. -/
def isInTransaction : Session D Bool := do
  let active ← getActiveSession
  return active.any SessionScope.inTransaction

/-- `_commit`. -/
def commit (c : ℕ) : Session D Unit :=
  exceptClause Raised.isException (onDriver (D.commit c)) fun exc =>
    throw (ErrorTranslator.translate exc "commit" none)

/-- `_rollback`. -/
def rollback (c : ℕ) : Session D Unit :=
  exceptClause Raised.isException (onDriver (D.rollback c)) fun exc =>
    throw (ErrorTranslator.translate exc "rollback" none)

def nestedError : Raised :=
  persistenceError "PersistenceTransactionError" "Nested transaction not supported"

/-- `connection.execute("BEGIN")`. -/
def begin (c : ℕ) : Session D Unit := onDriver (D.execute c fun view => .ok ((), view))

/-- The block of a transaction on its connection. -/
def runBlock (c : ℕ) (body : Session D α) : Session D α := do
  let a ← exceptClause Raised.isException body fun e => do
    rollback c
    throw e
  commit c
  return a

/-- What a transaction does with its connection. -/
def runOn (body : Session D α) (c : ℕ) : Session D α := do
  begin c
  let token ← setActiveSession (some { connection := c, inTransaction := true })
  finallyClause (runBlock c body) (resetActiveSession token)

/-- `with transaction(): body`. -/
def transaction (body : Session D α) : Session D α := do
  if ← isInTransaction then throw nestedError
  acquire (runOn body)

end PostgresTransactionManager

/-! ### Repositories

The helpers of `_base.py` that every repository uses.
-/

namespace PostgresRepoBase

def requiresTransactionError (operation : String) : Raised :=
  persistenceError "PersistenceTransactionError"
    ("Operation " ++ operation ++ " requires an active transaction")

/-- `_require_active_transaction`. -/
def requireActiveTransaction (operation : String) : Session D Unit := do
  if ← PostgresTransactionManager.isInTransaction then return ()
  throw (requiresTransactionError operation)

/-- `_connection`. -/
def connection : Session D ℕ := do
  match ← getActiveSession with
  | some session =>
      if session.inTransaction then return session.connection
      throw (persistenceError "PersistenceTransactionError" "No active transactional connection")
  | none =>
      throw (persistenceError "PersistenceTransactionError" "No active transactional connection")

/-- `_borrow_connection`, of a repository with a pool manager. -/
def borrowConnection (body : ℕ → Session D α) : Session D α := do
  match ← getActiveSession with
  | some session => if session.inTransaction then body session.connection else acquire body
  | none => acquire body

/-- `self._connection().execute`. -/
def executeActive (sql : σ → Except Raised (α × σ)) : Session D α := do
  let c ← connection
  onDriver (D.execute c sql)

/-- `with self._borrow_connection() as conn: conn.execute`. -/
def executeBorrowed (sql : σ → Except Raised (α × σ)) : Session D α :=
  borrowConnection fun c => onDriver (D.execute c sql)

/-- `_raise_mapped`. -/
def raiseMapped (operation : String) (entityId : Option String) (exc : Raised) : Raised :=
  ErrorTranslator.translate exc operation entityId

end PostgresRepoBase

end Threads

/-! ### Code over the repositories -/

/-- What code does with the repositories and the transaction manager. -/
inductive Prog (σ : Type) : Type → Type 1
  | ret {α : Type} (a : α) : Prog σ α
  | raise {α : Type} (e : Raised) : Prog σ α
  | bind {α β : Type} (x : Prog σ α) (f : α → Prog σ β) : Prog σ β
  /-- `try: x` with an `except` clause. -/
  | tryExcept {α : Type} (catches : Raised → Bool) (x : Prog σ α) (handler : Raised → Prog σ α) :
      Prog σ α
  | isInTransaction : Prog σ Bool
  | requireTransaction (operation : String) : Prog σ Unit
  /-- A statement on the connection of the transaction. -/
  | active {α : Type} (sql : σ → Except Raised (α × σ)) : Prog σ α
  /-- A statement on a borrowed connection. -/
  | borrowed {α : Type} (sql : σ → Except Raised (α × σ)) : Prog σ α
  /-- `with transaction_manager.transaction(): body`. -/
  | transaction {α : Type} (body : Prog σ α) : Prog σ α

/-- Running the code. -/
def Prog.exec {σ α : Type} {D : Driver σ} : Prog σ α → Session D α
  | .ret a => pure a
  | .raise e => throw e
  | .bind x f => x.exec >>= fun a => (f a).exec
  | .tryExcept catches x handler => exceptClause catches x.exec fun e => (handler e).exec
  | .isInTransaction => PostgresTransactionManager.isInTransaction
  | .requireTransaction operation => PostgresRepoBase.requireActiveTransaction operation
  | .active sql => PostgresRepoBase.executeActive sql
  | .borrowed sql => PostgresRepoBase.executeBorrowed sql
  | .transaction body => PostgresTransactionManager.transaction body.exec

end Persistence

end CartoonDemo
