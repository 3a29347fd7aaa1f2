import Karar.Foundation.Interleaving
import Karar.Jobs.Table
import Mathlib.Algebra.Group.Int.Defs

/-!
# The job queue

`PostgresJobQueue`: each of its functions is one statement, except `enqueue`, which reads the job of a
taken idempotency key with a second one. Calls run at the same time in any order. A call that reports on a
claimed job carries the number of the call that claimed it (`ticket`); no function reads that number.
-/

namespace Karar.Jobs

open Foundation SharedKernel

/-! ### Records -/

structure EnqueueJobInput where
  jobType : String
  payload : String
  classification : Option String := none
  idempotencyKey : Option String := none
  priority : Option Int := none
  delayMs : Option Int := none
  maxAttempts : Option Int := none
  correlationId : Option String := none
  causationId : Option String := none
deriving DecidableEq

structure JobRecord where
  id : String
  jobType : String
  payload : String
  classification : String
  idempotencyKey : Option String
  status : JobStatus
  priority : Int
  attempts : Int
  maxAttempts : Int
  correlationId : Option String
  causationId : Option String
deriving DecidableEq

structure EnqueueResult where
  job : JobRecord
  created : Bool
deriving DecidableEq

structure ClaimedJob where
  id : String
  jobType : String
  payload : String
  classification : String
  priority : Int
  attempts : Int
  maxAttempts : Int
  leaseOwner : String
  correlationId : Option String
  causationId : Option String
deriving DecidableEq

def JobRow.toRecord (row : JobRow) : JobRecord :=
  ⟨row.id, row.jobType, row.payload, row.classification, row.idempotencyKey, row.status, row.priority,
    row.attempts, row.maxAttempts, row.correlationId, row.causationId⟩

/-- The row of a claim has an owner. -/
def JobRow.toClaimed (row : JobRow) : ClaimedJob :=
  ⟨row.id, row.jobType, row.payload, row.classification, row.priority, row.attempts, row.maxAttempts,
    row.leaseOwner.getD "", row.correlationId, row.causationId⟩

structure ClaimOptions where
  workerId : String
  batchSize : Option Int := none
  leaseTtlMs : Option Int := none
deriving DecidableEq

inductive CompleteOutcome
  | completed
  | lostLease
deriving DecidableEq

inductive FailOutcome
  | scheduledRetry
  | deadLettered
  | lostLease
deriving DecidableEq

inductive HeartbeatOutcome
  | extended
  | lostLease
deriving DecidableEq

inductive ReleaseOutcome
  | released
  | lostLease
deriving DecidableEq

structure StaleRecoveryReport where
  recovered : ℕ
  deadLettered : ℕ
deriving DecidableEq

/-- What a function of the queue throws before its statement. -/
inductive QueueRefusal
  | emptyJobType
  | payloadTooLarge (jobType : String) (bytes maxBytes : ℕ)
  | emptyWorkerId
  | enqueueRace (jobType : String)
deriving DecidableEq

/-- What a handler throws: an `Error`, or any other value as text. -/
inductive JobError
  | error (name message : String)
  | other (text : String)
deriving DecidableEq

def JobError.text : JobError → String
  | .error name message => s!"{name}: {message}"
  | .other text => text

def MAX_LAST_ERROR_LENGTH : ℕ := 2000

def STALE_LEASE_ERROR : String := "lease expired before the worker reported an outcome"

def describeError (error : JobError) : String :=
  if MAX_LAST_ERROR_LENGTH < error.text.length then
    (error.text.take MAX_LAST_ERROR_LENGTH).toString ++ "…"
  else error.text

/-! ### Operations -/

/-- The id of a new job is drawn with its INSERT. -/
inductive QueueOp
  | insertJob (job : NewJob)
  | selectJob (jobType : String) (idempotencyKey : Option String)
  | claimBatch (workerId : String) (leaseTtlMs : Int) (batch : Int)
  | complete (id leaseOwner : String)
  | failRetryable (id leaseOwner lastError : String) (backoffMs : Int)
  | deadLetter (id leaseOwner lastError : String)
  | heartbeat (id leaseOwner : String) (extendMs : Int)
  | release (id leaseOwner : String)
  | recoverStaleLeases (lastError : String)
deriving DecidableEq

/-- A statement that returns rows is answered with all their columns; an outcome with `rowCount`. -/
abbrev QueueOp.Answer : QueueOp → Type
  | .insertJob _ => Option JobRow
  | .selectJob _ _ => Option JobRow
  | .claimBatch _ _ _ => List JobRow
  | .complete _ _ => ℕ
  | .failRetryable _ _ _ _ => ℕ
  | .deadLetter _ _ _ => ℕ
  | .heartbeat _ _ _ => ℕ
  | .release _ _ => ℕ
  | .recoverStaleLeases _ => List JobRow

abbrev QueueStep := Program QueueOp QueueOp.Answer

def statement (op : QueueOp) : QueueStep op.Answer :=
  Program.perform op

/-! ### Functions -/

structure PostgresJobQueue where
  maxPayloadBytes : ℕ := 256 * 1024
  maxClaimBatch : Int := 25
  backoffBaseMs : Int := 1000
  backoffCapMs : Int := 5 * 60000
  defaultLeaseTtlMs : Int := 30000
deriving DecidableEq

namespace PostgresJobQueue

variable (queue : PostgresJobQueue)

def enqueue (uuid : String) (input : EnqueueJobInput) :
    QueueStep (Except QueueRefusal EnqueueResult) := do
  if isBlank input.jobType then return .error .emptyJobType
  else if queue.maxPayloadBytes < input.payload.utf8ByteSize then
    return .error (.payloadTooLarge input.jobType input.payload.utf8ByteSize queue.maxPayloadBytes)
  else
    let inserted ← statement <| .insertJob
      { id := uuid
        jobType := input.jobType
        payload := input.payload
        classification := input.classification.getD "INTERNAL"
        idempotencyKey := input.idempotencyKey
        priority := input.priority.getD 0
        delayMs := input.delayMs.getD 0
        maxAttempts := input.maxAttempts.getD 5
        correlationId := input.correlationId
        causationId := input.causationId }
    match inserted with
    | some row => return .ok ⟨row.toRecord, true⟩
    | none =>
      match ← statement (.selectJob input.jobType input.idempotencyKey) with
      | none => return .error (.enqueueRace input.jobType)
      | some row => return .ok ⟨row.toRecord, false⟩

def claim (options : ClaimOptions) : QueueStep (Except QueueRefusal (List ClaimedJob)) := do
  if isBlank options.workerId then return .error .emptyWorkerId
  else
    let batch := min (max 1 (options.batchSize.getD queue.maxClaimBatch)) queue.maxClaimBatch
    let rows ← statement
      (.claimBatch options.workerId (options.leaseTtlMs.getD queue.defaultLeaseTtlMs) batch)
    return .ok (rows.map JobRow.toClaimed)

def complete (job : ClaimedJob) : QueueStep CompleteOutcome := do
  let rowCount ← statement (.complete job.id job.leaseOwner)
  return if rowCount = 1 then .completed else .lostLease

def deadLetter (job : ClaimedJob) (error : JobError) : QueueStep FailOutcome := do
  let rowCount ← statement (.deadLetter job.id job.leaseOwner (describeError error))
  return if rowCount = 1 then .deadLettered else .lostLease

def backoffMs (job : ClaimedJob) : Int :=
  min queue.backoffCapMs (queue.backoffBaseMs * 2 ^ (job.attempts - 1).toNat)

def failRetryable (job : ClaimedJob) (error : JobError) : QueueStep FailOutcome := do
  if job.maxAttempts ≤ job.attempts then deadLetter job error
  else
    let rowCount ← statement
      (.failRetryable job.id job.leaseOwner (describeError error) (queue.backoffMs job))
    return if rowCount = 1 then .scheduledRetry else .lostLease

def heartbeat (job : ClaimedJob) (extendMs : Option Int) : QueueStep HeartbeatOutcome := do
  let rowCount ← statement
    (.heartbeat job.id job.leaseOwner (extendMs.getD queue.defaultLeaseTtlMs))
  return if rowCount = 1 then .extended else .lostLease

def release (job : ClaimedJob) : QueueStep ReleaseOutcome := do
  let rowCount ← statement (.release job.id job.leaseOwner)
  return if rowCount = 1 then .released else .lostLease

def recoverStaleLeases : QueueStep StaleRecoveryReport := do
  let rows ← statement (.recoverStaleLeases STALE_LEASE_ERROR)
  let dead := rows.countP (·.status = .dead)
  return ⟨rows.length - dead, dead⟩

end PostgresJobQueue

/-! ### The database -/

structure JobStore where
  table : JobTable
  now : Instant

/-- What the surroundings decide about an operation. -/
structure QueueOracle where
  /-- The statement fails and is rolled back. -/
  fails : Bool := false
  /-- The rows that other statements have locked. -/
  locked : List String := []
  /-- The order in which a claim returns its rows. -/
  returning : List JobRow → List JobRow := id

/-- `RETURNING` promises the rows, and no order of them. -/
def QueueOracle.returned (oracle : QueueOracle) (rows : List JobRow) : List JobRow :=
  if (oracle.returning rows).Perm rows then oracle.returning rows else rows

theorem QueueOracle.returned_perm (oracle : QueueOracle) (rows : List JobRow) :
    (oracle.returned rows).Perm rows := by
  unfold QueueOracle.returned
  split_ifs with hperm
  · exact hperm
  · exact .refl rows

def JobStore.perform (store : JobStore) :
    (op : QueueOp) → QueueOracle → Option (JobStore × op.Answer)
  | .insertJob job, _ =>
    (store.table.insertJob store.now job).map fun (table, row) ↦ ({ store with table }, row)
  | .selectJob jobType idempotencyKey, _ => some (store, store.table.withKey jobType idempotencyKey)
  | .claimBatch workerId leaseTtlMs batch, oracle =>
    let (table, rows) := store.table.claimBatch store.now workerId leaseTtlMs oracle.locked batch.toNat
    some ({ store with table }, oracle.returned rows)
  | .complete id leaseOwner, _ =>
    let (table, rowCount) := store.table.complete id leaseOwner
    some ({ store with table }, rowCount)
  | .failRetryable id leaseOwner lastError backoffMs, _ =>
    let (table, rowCount) := store.table.failRetryable store.now id leaseOwner lastError backoffMs
    some ({ store with table }, rowCount)
  | .deadLetter id leaseOwner lastError, _ =>
    let (table, rowCount) := store.table.deadLetter id leaseOwner lastError
    some ({ store with table }, rowCount)
  | .heartbeat id leaseOwner extendMs, _ =>
    let (table, rowCount) := store.table.heartbeat store.now id leaseOwner extendMs
    some ({ store with table }, rowCount)
  | .release id leaseOwner, _ =>
    let (table, rowCount) := store.table.release id leaseOwner
    some ({ store with table }, rowCount)
  | .recoverStaleLeases lastError, _ =>
    let (table, rows) := store.table.recoverStaleLeases store.now lastError
    some ({ store with table }, rows)

/-- A statement that fails ends its call. -/
def JobStore.performOrFail (store : JobStore) (op : QueueOp) (oracle : QueueOracle) :
    Option (JobStore × op.Answer) :=
  if oracle.fails then none else store.perform op oracle

/-- A store without jobs. -/
def emptyJobs (now : Instant) : JobStore := ⟨KeyedTable.empty, now⟩

/-! ### Calls -/

/-- What is reported on a claimed job. -/
inductive Report
  | complete
  | failRetryable (error : JobError)
  | deadLetter (error : JobError)
  | heartbeat (extendMs : Option Int)
  | release
deriving DecidableEq

inductive QueueCall
  | enqueue (uuid : String) (input : EnqueueJobInput)
  | claim (options : ClaimOptions)
  /-- A report on a job that the call `ticket` has claimed. -/
  | report (ticket : ℕ) (job : ClaimedJob) (report : Report)
  | recoverStaleLeases
deriving DecidableEq

inductive QueueOutcome
  | enqueued (result : Except QueueRefusal EnqueueResult)
  | claimed (result : Except QueueRefusal (List ClaimedJob))
  | completed (outcome : CompleteOutcome)
  | failed (outcome : FailOutcome)
  | heartbeat (outcome : HeartbeatOutcome)
  | released (outcome : ReleaseOutcome)
  | recovered (report : StaleRecoveryReport)

def PostgresJobQueue.report (queue : PostgresJobQueue) (job : ClaimedJob) :
    Report → QueueStep QueueOutcome
  | .complete => return .completed (← PostgresJobQueue.complete job)
  | .failRetryable error => return .failed (← queue.failRetryable job error)
  | .deadLetter error => return .failed (← PostgresJobQueue.deadLetter job error)
  | .heartbeat extendMs => return .heartbeat (← queue.heartbeat job extendMs)
  | .release => return .released (← PostgresJobQueue.release job)

def PostgresJobQueue.call (queue : PostgresJobQueue) : QueueCall → QueueStep QueueOutcome
  | .enqueue uuid input => return .enqueued (← queue.enqueue uuid input)
  | .claim options => return .claimed (← queue.claim options)
  | .report _ job report => queue.report job report
  | .recoverStaleLeases => return .recovered (← PostgresJobQueue.recoverStaleLeases)

/-- The clock of the database is set. -/
def queueMachine (queue : PostgresJobQueue) :
    Machine QueueOp QueueOp.Answer JobStore QueueOracle QueueCall QueueOutcome Instant where
  handler := JobStore.performOrFail
  program := queue.call
  turn store now := { store with now }

abbrev QueueConfiguration := Configuration QueueOp QueueOp.Answer JobStore QueueCall QueueOutcome

abbrev QueuePerformed := Performed QueueOp QueueOp.Answer

abbrev QueueOccurrence := Occurrence QueueOp QueueOp.Answer

end Karar.Jobs
