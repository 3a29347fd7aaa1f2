import Karar.Foundation.Transactions
import Karar.Platform.Adapter

/-!
# Consumer receipts

A consumer handles an event inside a transaction of its own: `withIdempotency` inserts the receipt of the
event and runs the handler only where the receipt is new. Receipt and effects are committed together, or
rolled back together. Any number of deliveries run at the same time, of one event or of many, and each can
end at any point; a transaction whose connection is lost is rolled back by the server.
-/

namespace Karar.Outbox

open Foundation
open Platform (PgError)
open Platform.Adapter (Callback Rejection connectionTerminated inFailedTransaction)

/-- The primary key of `platform.event_consumer_receipts`. -/
structure ReceiptKey where
  consumerName : String
  eventId : String
deriving DecidableEq

/-! ### Operations -/

inductive ConsumerOp (Effect : Type)
  /-- A connection is checked out, and BEGIN sent. -/
  | begin
  | insertReceipt (transaction : ℕ) (key : ReceiptKey)
  /-- A statement of the handler. -/
  | query (transaction : ℕ) (effect : Effect)
  | commit (transaction : ℕ)
  | rollback (transaction : ℕ)
deriving DecidableEq

/-- An insert answers the number of its rows. -/
abbrev ConsumerOp.Value {Effect : Type} (Rows : Type) : ConsumerOp Effect → Type
  | .begin => ℕ
  | .insertReceipt _ _ => ℕ
  | .query _ _ => Rows
  | .commit _ => Unit
  | .rollback _ => Unit

abbrev ConsumerAnswer (Effect Rows : Type) (op : ConsumerOp Effect) : Type :=
  Except PgError (op.Value Rows)

abbrev ConsumerStep (Effect Rows Result : Type) :=
  Program (ConsumerOp Effect) (ConsumerAnswer Effect Rows) Result

variable {Effect Rows Thrown Result : Type}

def consumerStatement (op : ConsumerOp Effect) :
    ConsumerStep Effect Rows (ConsumerAnswer Effect Rows op) :=
  Program.perform op

/-! ### A consumer -/

inductive IdempotentOutcome (Result : Type)
  | executed (result : Result)
  | skipped
deriving DecidableEq

/-- The handler, with the statements of its transaction. -/
def onTransaction (transaction : ℕ) :
    Callback Effect Rows Thrown Result →
      ConsumerStep Effect Rows (Except (Rejection Thrown) Result)
  | .pure outcome => .pure outcome
  | .call effect next => .call (.query transaction effect) fun reply ↦
      onTransaction transaction (next reply)

def withIdempotency (transaction : ℕ) (key : ReceiptKey) (fn : Callback Effect Rows Thrown Result) :
    ConsumerStep Effect Rows (Except (Rejection Thrown) (IdempotentOutcome Result)) := do
  match ← consumerStatement (.insertReceipt transaction key) with
  | .error error => return .error (.pg error)
  | .ok 0 => return .ok .skipped
  | .ok (_ + 1) =>
    match ← onTransaction transaction fn with
    | .error rejection => return .error rejection
    | .ok result => return .ok (.executed result)

/-- COMMIT, or ROLLBACK where anything has thrown. The tag of COMMIT is not read. -/
def endTransaction (transaction : ℕ) :
    Except (Rejection Thrown) Result → ConsumerStep Effect Rows (Except (Rejection Thrown) Result)
  | .error rejection => do
    let _ ← consumerStatement (.rollback transaction)
    return .error rejection
  | .ok result => do
    match ← consumerStatement (.commit transaction) with
    | .ok () => return .ok result
    | .error error =>
      let _ ← consumerStatement (.rollback transaction)
      return .error (.pg error)

def inTransaction (body : ℕ → ConsumerStep Effect Rows (Except (Rejection Thrown) Result)) :
    ConsumerStep Effect Rows (Except (Rejection Thrown) Result) := do
  match ← consumerStatement .begin with
  | .error error => return .error (.pg error)
  | .ok transaction =>
    let outcome ← body transaction
    endTransaction transaction outcome

/-- The delivery of an event to a consumer. -/
structure ConsumerDelivery (Effect Rows Thrown Result : Type) where
  key : ReceiptKey
  fn : Callback Effect Rows Thrown Result

def ConsumerDelivery.consume (delivery : ConsumerDelivery Effect Rows Thrown Result) :
    ConsumerStep Effect Rows (Except (Rejection Thrown) (IdempotentOutcome Result)) :=
  inTransaction fun transaction ↦ withIdempotency transaction delivery.key delivery.fn

/-! ### The database -/

abbrev ConsumerJournal (Effect : Type) := Journal ReceiptKey Effect

/-- What the surroundings decide about an operation. -/
structure ConsumerOracle (Rows : Type) where
  /-- The statement fails. -/
  refused : Option PgError := none
  /-- A COMMIT whose answer is lost has taken effect. -/
  took : Bool := false
  rows : Rows

/-- The answer to a statement without rows. -/
def ConsumerOracle.answer (oracle : ConsumerOracle Rows) : Except PgError Unit :=
  match oracle.refused with
  | some error => .error error
  | none => .ok ()

/-- How a wait for another transaction fails. -/
def deadlockDetected : PgError := ⟨.unknown, "deadlock detected", some "40P01"⟩

section Perform

variable (journal : ConsumerJournal Effect) (number : ℕ)

/-- A statement inside a transaction. One that fails aborts it. -/
def execute {Value : Type} (oracle : ConsumerOracle Rows)
    (run : Transaction ReceiptKey Effect →
      Except PgError (Transaction ReceiptKey Effect × Value)) :
    ConsumerJournal Effect × Except PgError Value :=
  match journal[number]? with
  | none => (journal, .error connectionTerminated)
  | some transaction =>
    match transaction.status with
    | .aborted => (journal, .error inFailedTransaction)
    | .committed => (journal, .error connectionTerminated)
    | .rolledBack => (journal, .error connectionTerminated)
    | .open_ =>
      match oracle.answer.bind fun _ ↦ run transaction with
      | .error error => (journal.set number { transaction with status := .aborted }, .error error)
      | .ok (next, value) => (journal.set number next, .ok value)

/-- `ON CONFLICT DO NOTHING`. A wait that ends well is an insert at a later time; here it fails. -/
def insertReceipt (key : ReceiptKey) (transaction : Transaction ReceiptKey Effect) :
    Except PgError (Transaction ReceiptKey Effect × ℕ) :=
  match journal.tryInsert transaction key with
  | .duplicate => .ok (transaction, 0)
  | .waits => .error deadlockDetected
  | .inserted => .ok ({ transaction with inserted := key :: transaction.inserted }, 1)

/-- A COMMIT that fails may have taken effect. An aborted transaction is rolled back by it. -/
def commitTransaction (oracle : ConsumerOracle Rows) :
    ConsumerJournal Effect × Except PgError Unit :=
  match journal[number]? with
  | none => (journal, .error connectionTerminated)
  | some transaction =>
    match transaction.status with
    | .committed => (journal, .error connectionTerminated)
    | .rolledBack => (journal, .error connectionTerminated)
    | .aborted => (journal.set number { transaction with status := .rolledBack }, oracle.answer)
    | .open_ =>
      let status := if oracle.refused.isSome && !oracle.took then .rolledBack else .committed
      (journal.set number { transaction with status }, oracle.answer)

/-- The transaction is over, whether the ROLLBACK arrives or the connection is lost. -/
def rollbackTransaction : ConsumerJournal Effect :=
  match journal[number]? with
  | none => journal
  | some transaction =>
    match transaction.status with
    | .committed => journal
    | _ => journal.set number { transaction with status := .rolledBack }

def performConsumer (journal : ConsumerJournal Effect) :
    (op : ConsumerOp Effect) → ConsumerOracle Rows →
      ConsumerJournal Effect × ConsumerAnswer Effect Rows op
  | .begin, oracle =>
    match oracle.answer with
    | .error error => (journal, .error error)
    | .ok () => (journal.begin.1, .ok journal.begin.2)
  | .insertReceipt transaction key, oracle =>
    execute journal transaction oracle (insertReceipt journal key)
  | .query transaction effect, oracle =>
    execute journal transaction oracle fun current ↦
      .ok ({ current with effects := current.effects ++ [effect] }, oracle.rows)
  | .commit transaction, oracle => commitTransaction journal transaction oracle
  | .rollback transaction, oracle =>
    (rollbackTransaction journal transaction, oracle.answer)

end Perform

/-! ### The machine -/

def consumerMachine (Effect Rows Thrown Result : Type) :
    Machine (ConsumerOp Effect) (ConsumerAnswer Effect Rows) (ConsumerJournal Effect)
      (ConsumerOracle Rows) (ConsumerDelivery Effect Rows Thrown Result)
      (Except (Rejection Thrown) (IdempotentOutcome Result)) ℕ where
  handler journal op oracle := some (performConsumer journal op oracle)
  program := ConsumerDelivery.consume
  -- The connection of a transaction is lost.
  turn := rollbackTransaction

abbrev ConsumerConfiguration (Effect Rows Thrown Result : Type) :=
  Configuration (ConsumerOp Effect) (ConsumerAnswer Effect Rows) (ConsumerJournal Effect)
    (ConsumerDelivery Effect Rows Thrown Result)
    (Except (Rejection Thrown) (IdempotentOutcome Result))

abbrev ConsumerPerformed (Effect Rows : Type) :=
  Performed (ConsumerOp Effect) (ConsumerAnswer Effect Rows)

end Karar.Outbox
