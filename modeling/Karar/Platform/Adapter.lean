import Karar.Foundation.Leases
import Karar.Platform.Migrations

/-!
# The persistence adapter

`withTransaction` runs a callback between BEGIN and COMMIT on one connection of a pool, and sends
ROLLBACK where anything throws. It reads whether a statement threw; the command tag that COMMIT
answers is not read.

A session of Postgres keeps the state of its transaction itself. After a failed statement the
transaction is aborted: every statement fails until it ends, and COMMIT rolls it back and answers
the tag ROLLBACK. What a statement does is that it takes effect with the others of its transaction,
and the principal settings it binds for the transaction (`binds`); a setting that is bound so holds
until the transaction ends.
-/

namespace Karar.Platform.Adapter

open Foundation

/-! ### Sessions -/

/-- The settings `app.tenant_id`, `app.user_id`, `app.session_id` and `app.request_id`. -/
structure PrincipalSettings where
  tenantId : String
  userId : String
  sessionId : String
  requestId : String
deriving DecidableEq

inductive TransactionState (Statement : Type)
  | idle
  /-- The statements executed in the transaction, oldest first, and the settings bound in it. -/
  | active (executed : List Statement) (bound : Option PrincipalSettings)
  | aborted (bound : Option PrincipalSettings)
  /-- The connection broke, perhaps in a COMMIT. -/
  | lost (committing : Bool)
deriving DecidableEq

structure Session (Statement : Type) where
  /-- The settings of the session, outside any transaction. -/
  settings : PrincipalSettings
  transaction : TransactionState Statement
deriving DecidableEq

/-- The values of the settings that a statement runs under. -/
def Session.current {Statement : Type} (session : Session Statement) : PrincipalSettings :=
  match session.transaction with
  | .active _ (some bound) => bound
  | .aborted (some bound) => bound
  | _ => session.settings

inductive Command (Statement : Type)
  | begin
  | commit
  | rollback
  | query (statement : Statement)
deriving DecidableEq

inductive CommandTag
  | begin
  | commit
  | rollback
deriving DecidableEq

def Command.Reply {Statement : Type} (Rows : Type) : Command Statement → Type
  | .query _ => Except PgError Rows
  | _ => Except PgError CommandTag

/-- What becomes of a command, so far as the state of the transaction leaves it open. -/
inductive Fate (Rows : Type)
  | done (rows : Rows)
  | refused (error : PgError)
  /-- The connection breaks; the command may have been executed before. -/
  | lost (executed : Bool) (error : PgError)

/-- `current transaction is aborted`, mapped by `mapPgError`. -/
def inFailedTransaction : PgError where
  code := .unknown
  message := "current transaction is aborted, commands ignored until end of transaction block"
  sqlState := some "25P02"

/-- What a command gets on a connection that is gone. -/
def connectionTerminated : PgError where
  code := .connectionFailure
  message := "Connection terminated unexpectedly"
  sqlState := none

section Serve

variable {Statement Rows : Type} (binds : Statement → Option PrincipalSettings)

/-- The settings bound in a transaction after a statement. -/
def rebound (bound : Option PrincipalSettings) (statement : Statement) :
    Option PrincipalSettings :=
  (binds statement).or bound

/-- BEGIN. Inside a transaction it only warns. -/
def serveBegin : TransactionState Statement → Fate Rows →
    TransactionState Statement × Except PgError CommandTag
  | .lost committing, _ => (.lost committing, .error connectionTerminated)
  | _, .lost _ error => (.lost false, .error error)
  | .aborted bound, _ => (.aborted bound, .error inFailedTransaction)
  | .idle, .done _ => (.active [] none, .ok .begin)
  | .idle, .refused error => (.idle, .error error)
  | .active executed bound, .done _ => (.active executed bound, .ok .begin)
  | .active _ bound, .refused error => (.aborted bound, .error error)

/-- A statement. Outside a transaction it is one by itself. -/
def serveQuery (committed : List Statement) (statement : Statement) :
    TransactionState Statement → Fate Rows →
      (TransactionState Statement × List Statement) × Except PgError Rows
  | .lost committing, _ => ((.lost committing, committed), .error connectionTerminated)
  | .idle, .lost executed error =>
    ((.lost false, if executed then committed ++ [statement] else committed), .error error)
  | _, .lost _ error => ((.lost false, committed), .error error)
  | .aborted bound, _ => ((.aborted bound, committed), .error inFailedTransaction)
  | .idle, .done rows => ((.idle, committed ++ [statement]), .ok rows)
  | .idle, .refused error => ((.idle, committed), .error error)
  | .active executed bound, .done rows =>
    ((.active (executed ++ [statement]) (rebound binds bound statement), committed), .ok rows)
  | .active _ bound, .refused error => ((.aborted bound, committed), .error error)

/-- COMMIT. It ends the transaction, also where it is refused. -/
def serveCommit (committed : List Statement) : TransactionState Statement → Fate Rows →
    (TransactionState Statement × List Statement) × Except PgError CommandTag
  | .lost committing, _ => ((.lost committing, committed), .error connectionTerminated)
  | .active executed _, .lost took error =>
    ((.lost true, if took then committed ++ executed else committed), .error error)
  | _, .lost _ error => ((.lost false, committed), .error error)
  | .idle, .done _ => ((.idle, committed), .ok .commit)
  | .active executed _, .done _ => ((.idle, committed ++ executed), .ok .commit)
  | .aborted _, .done _ => ((.idle, committed), .ok .rollback)
  | _, .refused error => ((.idle, committed), .error error)

/-- ROLLBACK. -/
def serveRollback : TransactionState Statement → Fate Rows →
    TransactionState Statement × Except PgError CommandTag
  | .lost committing, _ => (.lost committing, .error connectionTerminated)
  | _, .lost _ error => (.lost false, .error error)
  | _, .done _ => (.idle, .ok .rollback)
  | state, .refused error => (state, .error error)

/-- A session with a command; `committed` is what all transactions have committed, oldest first. -/
def serve (session : Session Statement) (committed : List Statement) :
    (command : Command Statement) → Fate Rows →
      (Session Statement × List Statement) × command.Reply Rows
  | .begin, fate =>
    let (transaction, reply) := serveBegin session.transaction fate
    (({ session with transaction := transaction }, committed), reply)
  | .commit, fate =>
    let ((transaction, committed), reply) := serveCommit committed session.transaction fate
    (({ session with transaction := transaction }, committed), reply)
  | .rollback, fate =>
    let (transaction, reply) := serveRollback session.transaction fate
    (({ session with transaction := transaction }, committed), reply)
  | .query statement, fate =>
    let ((transaction, committed), reply) :=
      serveQuery binds committed statement session.transaction fate
    (({ session with transaction := transaction }, committed), reply)

/-- A new connection has the settings it starts with. -/
def sessions : Resource (Session Statement) (List Statement) PrincipalSettings (Command Statement)
    (Fate Rows) (Command.Reply Rows) where
  create settings := ⟨settings, .idle⟩
  serve := serve binds

end Serve

/-! ### Transactions -/

section Transactions

variable {Statement Rows Thrown Result : Type}

/-- The operations of the adapter on its pool. -/
abbrev AdapterOp (Statement : Type) := PoolOp (Command Statement) PgError

abbrev AdapterAnswer (Statement Rows : Type) : AdapterOp Statement → Type :=
  PoolOp.Answer (Command.Reply Rows) PgError

abbrev AdapterProgram (Statement Rows Result : Type) :=
  Program (AdapterOp Statement) (AdapterAnswer Statement Rows) Result

/-- What a transaction rejects with. -/
inductive Rejection (Thrown : Type)
  | pg (error : PgError)
  /-- An error of the callback's own. -/
  | own (error : Thrown)
deriving DecidableEq

/-- A callback: it sees of the transaction what its statements answer, and can catch what they
throw. -/
abbrev Callback (Statement Rows Thrown Result : Type) :=
  Program Statement (fun _ ↦ Except PgError Rows) (Except (Rejection Thrown) Result)

/-- `tx.query`, for a connection. -/
def onConnection (id : ℕ) :
    Callback Statement Rows Thrown Result →
      AdapterProgram Statement Rows (Except (Rejection Thrown) Result)
  | .pure outcome => .pure outcome
  | .call statement next => .call (.send id (.query statement)) fun reply ↦
      onConnection id (next reply)

def connect : AdapterProgram Statement Rows (Except PgError ℕ) :=
  Program.perform PoolOp.connect

def sendBegin (id : ℕ) : AdapterProgram Statement Rows (Except PgError CommandTag) :=
  Program.perform (PoolOp.send id Command.begin)

def sendCommit (id : ℕ) : AdapterProgram Statement Rows (Except PgError CommandTag) :=
  Program.perform (PoolOp.send id Command.commit)

def sendRollback (id : ℕ) : AdapterProgram Statement Rows (Except PgError CommandTag) :=
  Program.perform (PoolOp.send id Command.rollback)

def release (id : ℕ) (failure : Option PgError) : AdapterProgram Statement Rows Unit :=
  Program.perform (PoolOp.release id failure)

/-- The end of the `try` block, with the end of the callback. The tag of COMMIT is not read. -/
def commit (id : ℕ) (outcome : Except (Rejection Thrown) Result) :
    AdapterProgram Statement Rows (Except (Rejection Thrown) Result) := do
  match outcome with
  | .error rejection => return .error rejection
  | .ok result =>
    match ← sendCommit id with
    | .error error => return .error (.pg error)
    | .ok _ => return .ok result

/-- The `try` block. -/
def attempt (id : ℕ) (fn : Callback Statement Rows Thrown Result) :
    AdapterProgram Statement Rows (Except (Rejection Thrown) Result) := do
  match ← sendBegin id with
  | .error error => return .error (.pg error)
  | .ok _ =>
    let outcome ← onConnection id fn
    commit id outcome

/-- The `catch` and `finally` blocks. -/
def conclude (id : ℕ) (outcome : Except (Rejection Thrown) Result) :
    AdapterProgram Statement Rows (Except (Rejection Thrown) Result) := do
  match outcome with
  | .ok result =>
    release id none
    return .ok result
  | .error rejection =>
    match ← sendRollback id with
    | .ok _ =>
      release id none
      return .error rejection
    | .error rollbackError =>
      release id (some rollbackError)
      return .error rejection

def withTransaction (fn : Callback Statement Rows Thrown Result) :
    AdapterProgram Statement Rows (Except (Rejection Thrown) Result) := do
  match ← connect with
  | .error error => return .error (.pg error)
  | .ok id =>
    let outcome ← attempt id fn
    conclude id outcome

end Transactions

end Karar.Platform.Adapter
