import Karar.Foundation.KeyedTable
import Karar.SharedKernel.Basic
import Mathlib.Data.List.Sort

/-!
# The outbox table

`platform.outbox_events` and the statements of the relay. A row has at most one terminal state and a
claim has an expiry, both by the type of a row; a statement that would break the first fails. The claim of
a batch looks at the claims it overwrites, the release at its owner, and the marks at the id alone.
-/

namespace Karar.Outbox

open Foundation KeyedTable SharedKernel

/-- `claimed_by` and `claim_expires_at`, both set or both null. -/
structure OutboxClaim where
  claimedBy : String
  claimExpiresAt : Instant
deriving DecidableEq

/-- The envelope is the JSON of the event. -/
structure OutboxRow where
  id : String
  envelope : String
  createdAt : Instant
  availableAt : Instant
  claim : Option OutboxClaim
  attempts : ℕ
  maxAttempts : ℕ
  publishedAt : Option Instant
  deadLetteredAt : Option Instant
  lastError : Option String
  /-- `CHECK (max_attempts >= 1)`. -/
  bounded : 1 ≤ maxAttempts
  /-- `outbox_events_one_terminal_state`. -/
  terminal : publishedAt = none ∨ deadLetteredAt = none
deriving DecidableEq

/-- Neither published nor dead-lettered. -/
def OutboxRow.Pending (row : OutboxRow) : Prop :=
  row.publishedAt = none ∧ row.deadLetteredAt = none

instance (row : OutboxRow) : Decidable row.Pending :=
  inferInstanceAs (Decidable (_ ∧ _))

/-- The claim has not expired. -/
def OutboxClaim.Live (claim : OutboxClaim) (now : Instant) : Prop :=
  now ≤ claim.claimExpiresAt

instance (claim : OutboxClaim) (now : Instant) : Decidable (claim.Live now) :=
  inferInstanceAs (Decidable (_ ≤ _))

/-- What a relay may claim. -/
def OutboxRow.Claimable (row : OutboxRow) (now : Instant) : Prop :=
  row.Pending ∧ row.availableAt ≤ now ∧ ∀ claim ∈ row.claim, ¬ claim.Live now

instance (row : OutboxRow) (now : Instant) : Decidable (row.Claimable now) :=
  inferInstanceAs (Decidable (_ ∧ _ ∧ ∀ claim ∈ row.claim, ¬ claim.Live now))

abbrev OutboxTable := KeyedTable OutboxRow.id OutboxRow.id

theorem attempts_default : 1 ≤ 8 := by decide

/-- What `enqueueInTransaction` inserts; the other columns have their defaults. -/
structure NewOutboxRow where
  id : String
  envelope : String
  maxAttempts : ℕ := 8
  bounded : 1 ≤ maxAttempts := by exact attempts_default
deriving DecidableEq

def NewOutboxRow.row (values : NewOutboxRow) (now : Instant) : OutboxRow where
  id := values.id
  envelope := values.envelope
  createdAt := now
  availableAt := now
  claim := none
  attempts := 0
  maxAttempts := values.maxAttempts
  publishedAt := none
  deadLetteredAt := none
  lastError := none
  bounded := values.bounded
  terminal := .inl rfl

/-- What a claim returns of a row. -/
structure ClaimedRow where
  id : String
  envelope : String
  attempts : ℕ
  maxAttempts : ℕ
deriving DecidableEq

def OutboxRow.claimedRow (row : OutboxRow) : ClaimedRow :=
  ⟨row.id, row.envelope, row.attempts, row.maxAttempts⟩

/-! ### Changes of a row -/

namespace OutboxRow

def claimFor (row : OutboxRow) (claim : OutboxClaim) : OutboxRow :=
  { row with claim := some claim }

def release (row : OutboxRow) : OutboxRow :=
  { row with claim := none }

/-- A row with another terminal state is left alone. -/
def publish (row : OutboxRow) (now : Instant) : OutboxRow :=
  if hpending : row.deadLetteredAt = none then
    { row with publishedAt := some now, claim := none, terminal := .inr hpending }
  else row

/-- A row with another terminal state is left alone. -/
def deadLetter (row : OutboxRow) (now : Instant) (attempts : ℕ) (lastError : String) : OutboxRow :=
  if hpending : row.publishedAt = none then
    { row with
      attempts := attempts
      lastError := some lastError
      deadLetteredAt := some now
      claim := none
      terminal := .inl hpending }
  else row

def retry (row : OutboxRow) (availableAt : Instant) (attempts : ℕ) (lastError : String) : OutboxRow :=
  { row with
    attempts := attempts
    lastError := some lastError
    availableAt := availableAt
    claim := none }

variable (row : OutboxRow) (now : Instant) (attempts : ℕ) (lastError : String)

@[simp] theorem id_publish : (row.publish now).id = row.id := by
  unfold publish
  split_ifs <;> rfl

@[simp] theorem id_deadLetter : (row.deadLetter now attempts lastError).id = row.id := by
  unfold deadLetter
  split_ifs <;> rfl

end OutboxRow

/-! ### Statements -/

namespace OutboxTable

variable (table : OutboxTable)

def insert (values : NewOutboxRow) (now : Instant) : Option OutboxTable :=
  KeyedTable.insert table (values.row now)

/-- In the order of arrival. -/
def arrivedBefore (first second : OutboxRow) : Prop :=
  first.createdAt < second.createdAt ∨ (first.createdAt = second.createdAt ∧ first.id ≤ second.id)

instance : DecidableRel arrivedBefore :=
  fun _ _ ↦ inferInstanceAs (Decidable (_ ∨ _))

/-- The first rows in the order of arrival that are claimable and that no other statement has locked. -/
def pick (now : Instant) (locked : List String) (limit : ℕ) : List OutboxRow :=
  ((table.rows.filter fun row ↦ row.Claimable now ∧ row.id ∉ locked).insertionSort arrivedBefore).take
    limit

def claimBatch (now : Instant) (claim : OutboxClaim) (locked : List String) (limit : ℕ) :
    OutboxTable × List ClaimedRow :=
  let picked := table.pick now locked limit
  (KeyedTable.update table (· ∈ picked)
      ⟨fun row ↦ row.claimFor claim, fun _ ↦ rfl, fun _ ↦ rfl⟩,
    picked.map (·.claimedRow))

/-- A row that is dead-lettered breaks the constraint. -/
def markPublished (now : Instant) (id : String) : Option OutboxTable :=
  if table.rows.any fun row ↦ row.id = id ∧ row.publishedAt = none ∧ row.deadLetteredAt ≠ none then
    none
  else
    some
      (KeyedTable.update table (fun row ↦ row.id = id ∧ row.publishedAt = none)
        ⟨fun row ↦ row.publish now, fun _ ↦ by simp, fun _ ↦ by simp⟩)

/-- A row that is published breaks the constraint. -/
def markDeadLettered (now : Instant) (id : String) (attempts : ℕ) (lastError : String) :
    Option OutboxTable :=
  if table.rows.any fun row ↦ row.id = id ∧ row.publishedAt ≠ none then none
  else
    some
      (KeyedTable.update table (fun row ↦ row.id = id)
        ⟨fun row ↦ row.deadLetter now attempts lastError, fun _ ↦ by simp, fun _ ↦ by simp⟩)

def scheduleRetry (availableAt : Instant) (id : String) (attempts : ℕ) (lastError : String) :
    OutboxTable :=
  KeyedTable.update table (fun row ↦ row.id = id)
    ⟨fun row ↦ row.retry availableAt attempts lastError, fun _ ↦ rfl, fun _ ↦ rfl⟩

def releaseOwnClaims (relayId : String) : OutboxTable :=
  KeyedTable.update table
    (fun row ↦ row.claim.any (·.claimedBy = relayId) ∧ row.Pending)
    ⟨OutboxRow.release, fun _ ↦ rfl, fun _ ↦ rfl⟩

/-- `min(created_at)` of the pending rows. -/
def oldestPending : Option Instant :=
  ((table.rows.filter (·.Pending)).map (·.createdAt)).min?

end OutboxTable

end Karar.Outbox
