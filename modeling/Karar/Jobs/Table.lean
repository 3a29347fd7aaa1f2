import Karar.Foundation.KeyedTable
import Karar.SharedKernel.Basic
import Mathlib.Data.List.Sort
import Mathlib.Order.Lattice

/-!
# The job table

`platform.jobs` and the statements of the queue. The checks of the table are part of the type of a row, so
a statement that would break one fails. The outcomes of a job are one statement with different columns:
each names the job by its id and its worker, and finds it only where it is leased to that worker
(`updateLeased`). The claim takes what is due, in its order, and the recovery what has expired.
-/

namespace Karar.Jobs

open Foundation KeyedTable SharedKernel

inductive JobStatus
  | queued
  | leased
  | succeeded
  | failedRetryable
  | dead
deriving DecidableEq

def CLASSIFICATIONS : List String :=
  ["PUBLIC", "INTERNAL", "CONFIDENTIAL", "HIGHLY_SENSITIVE_FINANCIAL", "SECRET", "SEALED"]

/-- The payload is its JSON. -/
structure JobRow where
  id : String
  jobType : String
  payload : String
  classification : String
  idempotencyKey : Option String
  status : JobStatus
  priority : Int
  availableAt : Instant
  leaseOwner : Option String
  leaseExpiresAt : Option Instant
  attempts : Int
  maxAttempts : Int
  lastError : Option String
  correlationId : Option String
  causationId : Option String
  createdAt : Instant
  classified : classification ∈ CLASSIFICATIONS
  /-- `CHECK (attempts >= 0)`. -/
  counted : 0 ≤ attempts
  /-- `CHECK (max_attempts >= 1)`. -/
  bounded : 1 ≤ maxAttempts
  /-- `jobs_lease_shape`. -/
  shape : status = .leased ↔ leaseOwner ≠ none ∧ leaseExpiresAt ≠ none
deriving DecidableEq

namespace JobRow

/-- `jobs_idempotency_key_idx` looks at the rows that have a key. -/
def uniqueIndex (row : JobRow) : (String × String) ⊕ String :=
  match row.idempotencyKey with
  | some key => .inl (row.jobType, key)
  | none => .inr row.id

/-- `status IN ('queued', 'failed_retryable')`. -/
def Claimable (row : JobRow) : Prop :=
  row.status = .queued ∨ row.status = .failedRetryable

instance (row : JobRow) : Decidable row.Claimable :=
  inferInstanceAs (Decidable (_ ∨ _))

/-- The lease of the row is the worker's. -/
def LeasedTo (row : JobRow) (leaseOwner : String) : Prop :=
  row.leaseOwner = some leaseOwner ∧ row.status = .leased

instance (row : JobRow) (leaseOwner : String) : Decidable (row.LeasedTo leaseOwner) :=
  inferInstanceAs (Decidable (_ ∧ _))

/-- `lease_expires_at < now()`. -/
def Expired (row : JobRow) (now : Instant) : Prop :=
  row.status = .leased ∧ ∃ expiresAt ∈ row.leaseExpiresAt, expiresAt < now

instance (row : JobRow) (now : Instant) : Decidable (row.Expired now) :=
  inferInstanceAs (Decidable (_ ∧ ∃ expiresAt ∈ row.leaseExpiresAt, expiresAt < now))

/-! ### Changes of a row -/

def lease (row : JobRow) (workerId : String) (expiresAt : Instant) : JobRow :=
  { row with
    status := .leased
    leaseOwner := some workerId
    leaseExpiresAt := some expiresAt
    attempts := row.attempts + 1
    counted := by have := row.counted; omega
    shape := by simp }

/-- A row that gives up its lease. -/
def unlease (row : JobRow) (status : JobStatus) (hstatus : status ≠ .leased) : JobRow :=
  { row with
    status := status
    leaseOwner := none
    leaseExpiresAt := none
    shape := by simp [hstatus] }

def succeed (row : JobRow) : JobRow :=
  row.unlease .succeeded (by decide)

def retryAt (row : JobRow) (lastError : String) (availableAt : Instant) : JobRow :=
  { row.unlease .failedRetryable (by decide) with lastError := some lastError, availableAt := availableAt }

def die (row : JobRow) (lastError : String) : JobRow :=
  { row.unlease .dead (by decide) with lastError := some lastError }

/-- A row without a lease is left alone. -/
def extend (row : JobRow) (expiresAt : Instant) : JobRow :=
  if hleased : row.status = .leased then
    { row with leaseExpiresAt := some expiresAt, shape := by simp [hleased, (row.shape.mp hleased).1] }
  else row

/-- The attempt of the claim is not counted. -/
def giveBack (row : JobRow) : JobRow :=
  { row.unlease .queued (by decide) with
    attempts := max (row.attempts - 1) 0
    counted := le_max_right _ _ }

def recover (row : JobRow) (lastError : String) (now : Instant) : JobRow :=
  if row.maxAttempts ≤ row.attempts then
    { row.unlease .dead (by decide) with lastError := some lastError, availableAt := now }
  else row.retryAt lastError now

/-- The columns that no statement changes after the insert. -/
structure SameJob (row later : JobRow) : Prop where
  id : later.id = row.id
  jobType : later.jobType = row.jobType
  payload : later.payload = row.payload
  idempotencyKey : later.idempotencyKey = row.idempotencyKey
  priority : later.priority = row.priority
  maxAttempts : later.maxAttempts = row.maxAttempts

theorem SameJob.refl (row : JobRow) : SameJob row row := ⟨rfl, rfl, rfl, rfl, rfl, rfl⟩

theorem SameJob.uniqueIndex {row later : JobRow} (hsame : SameJob row later) :
    later.uniqueIndex = row.uniqueIndex := by
  unfold JobRow.uniqueIndex
  rw [hsame.idempotencyKey, hsame.jobType, hsame.id]

section Changes

variable (row : JobRow) (workerId lastError : String) (at_ : Instant)

@[simp] theorem status_succeed : row.succeed.status = .succeeded := rfl

@[simp] theorem status_retryAt : (row.retryAt lastError at_).status = .failedRetryable := rfl

@[simp] theorem status_die : (row.die lastError).status = .dead := rfl

@[simp] theorem status_giveBack : row.giveBack.status = .queued := rfl

theorem sameJob_lease : SameJob row (row.lease workerId at_) := ⟨rfl, rfl, rfl, rfl, rfl, rfl⟩

theorem sameJob_succeed : SameJob row row.succeed := ⟨rfl, rfl, rfl, rfl, rfl, rfl⟩

theorem sameJob_retryAt : SameJob row (row.retryAt lastError at_) := ⟨rfl, rfl, rfl, rfl, rfl, rfl⟩

theorem sameJob_die : SameJob row (row.die lastError) := ⟨rfl, rfl, rfl, rfl, rfl, rfl⟩

theorem sameJob_giveBack : SameJob row row.giveBack := ⟨rfl, rfl, rfl, rfl, rfl, rfl⟩

theorem sameJob_extend : SameJob row (row.extend at_) := by
  unfold extend
  split_ifs
  · exact ⟨rfl, rfl, rfl, rfl, rfl, rfl⟩
  · exact .refl row

theorem sameJob_recover : SameJob row (row.recover lastError at_) := by
  unfold recover
  split_ifs
  · exact ⟨rfl, rfl, rfl, rfl, rfl, rfl⟩
  · exact sameJob_retryAt row lastError at_

end Changes

end JobRow

abbrev JobTable := KeyedTable JobRow.id JobRow.uniqueIndex

/-- A change of rows that keeps their jobs. -/
def rewriting (change : JobRow → JobRow) (hsame : ∀ row, JobRow.SameJob row (change row)) :
    Rewrite JobRow.id JobRow.uniqueIndex :=
  ⟨change, fun row ↦ (hsame row).id, fun row ↦ (hsame row).uniqueIndex⟩

/-! ### Statements -/

/-- What an INSERT gives; the other columns have their defaults. -/
structure NewJob where
  id : String
  jobType : String
  payload : String
  classification : String
  idempotencyKey : Option String
  priority : Int
  delayMs : Int
  maxAttempts : Int
  correlationId : Option String
  causationId : Option String
deriving DecidableEq

/-- The row, unless it breaks a check. -/
def NewJob.row (job : NewJob) (now : Instant) : Option JobRow :=
  if hchecks : job.classification ∈ CLASSIFICATIONS ∧ 1 ≤ job.maxAttempts then
    some
      { id := job.id
        jobType := job.jobType
        payload := job.payload
        classification := job.classification
        idempotencyKey := job.idempotencyKey
        status := .queued
        priority := job.priority
        availableAt := now + job.delayMs
        leaseOwner := none
        leaseExpiresAt := none
        attempts := 0
        maxAttempts := job.maxAttempts
        lastError := none
        correlationId := job.correlationId
        causationId := job.causationId
        createdAt := now
        classified := hchecks.1
        counted := le_refl _
        bounded := hchecks.2
        shape := by simp }
  else none

namespace JobTable

variable (table : JobTable)

/-- `job_type = $1 AND idempotency_key = $2`: a key that is NULL equals none. -/
def withKey (jobType : String) (idempotencyKey : Option String) : Option JobRow :=
  idempotencyKey.bind fun key ↦
    table.rows.find? fun row ↦ row.jobType = jobType ∧ row.idempotencyKey = some key

/-- `ON CONFLICT DO NOTHING` on the idempotency key. A taken id is an error. -/
def insertJob (now : Instant) (job : NewJob) : Option (JobTable × Option JobRow) :=
  (job.row now).bind fun row ↦
    match withKey table job.jobType job.idempotencyKey with
    | some _ => some (table, none)
    | none => (KeyedTable.insert table row).map fun later ↦ (later, some row)

/-- `ORDER BY priority DESC, available_at, created_at, id`. -/
def comesBefore (first second : JobRow) : Prop :=
  second.priority < first.priority ∨ (first.priority = second.priority ∧
    (first.availableAt < second.availableAt ∨ (first.availableAt = second.availableAt ∧
      (first.createdAt < second.createdAt ∨
        (first.createdAt = second.createdAt ∧ first.id ≤ second.id)))))

instance : DecidableRel comesBefore :=
  fun _ _ ↦ inferInstanceAs (Decidable (_ ∨ _))

/-- The first rows that are due and that no other statement has locked. -/
def pick (now : Instant) (locked : List String) (limit : ℕ) : List JobRow :=
  ((table.rows.filter fun row ↦ row.Claimable ∧ row.availableAt ≤ now ∧ row.id ∉ locked).insertionSort
    comesBefore).take limit

/-- The rows are answered as the statement leaves them. -/
def claimBatch (now : Instant) (workerId : String) (leaseTtlMs : Int) (locked : List String)
    (limit : ℕ) : JobTable × List JobRow :=
  let picked := pick table now locked limit
  (KeyedTable.update table (· ∈ picked)
      (rewriting (fun row ↦ row.lease workerId (now + leaseTtlMs)) fun row ↦ row.sameJob_lease _ _),
    picked.map fun row ↦ row.lease workerId (now + leaseTtlMs))

/-- `WHERE id = $1 AND lease_owner = $2 AND status = 'leased'`, with the number of rows. -/
def updateLeased (id leaseOwner : String) (change : JobRow → JobRow)
    (hsame : ∀ row, JobRow.SameJob row (change row)) : JobTable × ℕ :=
  (KeyedTable.update table (fun row ↦ row.id = id ∧ row.LeasedTo leaseOwner) (rewriting change hsame),
    table.count fun row ↦ row.id = id ∧ row.LeasedTo leaseOwner)

def complete (id leaseOwner : String) : JobTable × ℕ :=
  updateLeased table id leaseOwner JobRow.succeed JobRow.sameJob_succeed

def failRetryable (now : Instant) (id leaseOwner lastError : String) (backoffMs : Int) : JobTable × ℕ :=
  updateLeased table id leaseOwner (fun row ↦ row.retryAt lastError (now + backoffMs))
    fun row ↦ row.sameJob_retryAt _ _

def deadLetter (id leaseOwner lastError : String) : JobTable × ℕ :=
  updateLeased table id leaseOwner (fun row ↦ row.die lastError) fun row ↦ row.sameJob_die _

def heartbeat (now : Instant) (id leaseOwner : String) (extendMs : Int) : JobTable × ℕ :=
  updateLeased table id leaseOwner (fun row ↦ row.extend (now + extendMs)) fun row ↦ row.sameJob_extend _

def release (id leaseOwner : String) : JobTable × ℕ :=
  updateLeased table id leaseOwner JobRow.giveBack JobRow.sameJob_giveBack

/-- The rows are answered as the statement leaves them. -/
def recoverStaleLeases (now : Instant) (lastError : String) : JobTable × List JobRow :=
  (KeyedTable.update table (fun row ↦ row.Expired now)
      (rewriting (fun row ↦ row.recover lastError now) fun row ↦ row.sameJob_recover _ _),
    (table.rows.filter fun row ↦ row.Expired now).map fun row ↦ row.recover lastError now)

end JobTable

end Karar.Jobs
