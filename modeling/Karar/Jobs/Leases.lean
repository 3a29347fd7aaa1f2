import Karar.Jobs.RowChanges

/-!
# The leases in a history

The leases in the table are the claims that are in force in the history: a row is leased exactly where the
last claim of its job has not been ended, and to the worker of that claim (`Ledger`).
-/

namespace Karar.Jobs

open Foundation KeyedTable SharedKernel

/-- The worker that claims. -/
def workerOf : QueuePerformed → Option String
  | ⟨.claimBatch workerId _ _, _⟩ => some workerId
  | _ => none

/-- The claim of a job that is in force. -/
abbrev leaseOf (history : List QueueOccurrence) (id : String) : Option QueueOccurrence :=
  holding claimedIds endedIds history id

/-- The call has the lease of the job. -/
abbrev HoldsLease (history : List QueueOccurrence) (caller : ℕ) (id : String) : Prop :=
  Holder claimedIds endedIds history caller id

theorem recoveredIds_subset (performed : QueuePerformed) : recoveredIds performed ⊆ endedIds performed := by
  obtain ⟨op, answer⟩ := performed
  cases op with
  | recoverStaleLeases lastError => exact List.Subset.refl _
  | _ => exact List.nil_subset _

section RowChange

variable {now : Instant} {performed : QueuePerformed} {row later : JobRow}

/-- A row after an operation that claims its job, that ends its lease, or that does neither. -/
inductive LeaseChange (performed : QueuePerformed) (row later : JobRow) : Prop
  | claimed {workerId : String} (hclaimed : row.id ∈ claimedIds performed)
      (hworker : workerOf performed = some workerId) (hstatus : later.status = .leased)
      (howner : later.leaseOwner = some workerId)
  | ended (hunclaimed : row.id ∉ claimedIds performed) (hended : row.id ∈ endedIds performed)
      (hstatus : later.status ≠ .leased) (howner : later.leaseOwner = none)
  | kept (hunclaimed : row.id ∉ claimedIds performed) (hunended : row.id ∉ endedIds performed)
      (hstatus : later.status = row.status) (howner : later.leaseOwner = row.leaseOwner)

theorem RowChange.lease (hchange : RowChange now performed row later) :
    LeaseChange performed row later := by
  cases hchange with
  | kept hunclaimed hunended => exact .kept hunclaimed hunended rfl rfl
  | @leased workerId leaseTtlMs batch rows row _ hrow =>
    have hclaimed : (row.lease workerId (now + leaseTtlMs)).id ∈ rows.map (·.id) :=
      List.mem_map_of_mem hrow
    exact .claimed hclaimed rfl rfl rfl
  | completed _ => exact .ended List.not_mem_nil (by simp [endedIds]) (by simp) rfl
  | retried _ => exact .ended List.not_mem_nil (by simp [endedIds]) (by simp) rfl
  | died _ => exact .ended List.not_mem_nil (by simp [endedIds]) (by simp) rfl
  | released _ => exact .ended List.not_mem_nil (by simp [endedIds]) (by simp) rfl
  | extended hleased =>
    refine .kept List.not_mem_nil List.not_mem_nil ?_ ?_ <;> simp [JobRow.extend, hleased.2]
  | @recovered lastError rows row _ hrow =>
    have hended : row.id ∈ rows.map (·.id) :=
      ((row.sameJob_recover lastError now).id) ▸ List.mem_map_of_mem hrow
    refine .ended List.not_mem_nil hended ?_ ?_ <;> unfold JobRow.recover <;> split_ifs <;> first
      | rfl
      | simp [JobRow.unlease, JobRow.retryAt]

theorem RowChange.sameJob (hchange : RowChange now performed row later) : JobRow.SameJob row later := by
  cases hchange with
  | kept _ _ => exact .refl row
  | leased _ _ => exact row.sameJob_lease _ _
  | completed _ => exact row.sameJob_succeed
  | retried _ => exact row.sameJob_retryAt _ _
  | died _ => exact row.sameJob_die _
  | extended _ => exact row.sameJob_extend _
  | released _ => exact row.sameJob_giveBack
  | recovered _ _ => exact row.sameJob_recover _ _

end RowChange

/-! ### Rows before and after -/

section Rows

variable {now : Instant} {performed : QueuePerformed} {table laterTable : JobTable} {row later : JobRow}

/-- A row was there before, or is new. -/
theorem TableChanges.exists_origin (hchanges : TableChanges now performed table laterTable)
    (hlater : later ∈ laterTable.rows) :
    (∃ row ∈ table.rows, RowChange now performed row later) ∨ Enqueued table later := by
  obtain ⟨change, added, hrows, hchange, hadded⟩ := hchanges.changes
  rw [hrows] at hlater
  rcases List.mem_append.mp hlater with hold | hnew
  · obtain ⟨row, hrow, rfl⟩ := List.mem_map.mp hold
    exact .inl ⟨row, hrow, hchange row hrow⟩
  · exact .inr (hadded later hnew)

/-- A row is still there. -/
theorem TableChanges.exists_successor (hchanges : TableChanges now performed table laterTable)
    (hrow : row ∈ table.rows) : ∃ later ∈ laterTable.rows, RowChange now performed row later := by
  obtain ⟨change, added, hrows, hchange, -⟩ := hchanges.changes
  exact ⟨change row, hrows ▸ List.mem_append_left _ (List.mem_map_of_mem hrow), hchange row hrow⟩

/-- The rows of one id are one row, before and after. -/
theorem TableChanges.of_id_eq (hchanges : TableChanges now performed table laterTable)
    (hrow : row ∈ table.rows) (hlater : later ∈ laterTable.rows) (hid : later.id = row.id) :
    RowChange now performed row later := by
  obtain ⟨successor, hsuccessor, hchange⟩ := hchanges.exists_successor hrow
  obtain rfl := laterTable.eq_of_key hsuccessor hlater (hchange.sameJob.id.trans hid.symm)
  exact hchange

end Rows

/-! ### The ledger -/

/-- The leases of the table are the claims in force. -/
structure Ledger (table : JobTable) (history : List QueueOccurrence) : Prop where
  leased : ∀ row ∈ table.rows, ∀ grant, leaseOf history row.id = some grant → row.status = .leased ∧
    ∃ workerId, workerOf grant.performed = some workerId ∧ row.leaseOwner = some workerId
  free : ∀ row ∈ table.rows, leaseOf history row.id = none → row.status ≠ .leased ∧ row.leaseOwner = none
  known : ∀ id grant, leaseOf history id = some grant → ∃ row ∈ table.rows, row.id = id

section Ledger

variable {now : Instant} {performed : QueuePerformed} {table later : JobTable} {row : JobRow}
  {history : List QueueOccurrence} {caller : ℕ} {id : String}

/-- A job that no statement has named has no lease. -/
theorem Ledger.fresh (hledger : Ledger table history) (henqueued : Enqueued table row) :
    leaseOf history row.id = none := by
  cases hlease : leaseOf history row.id with
  | none => rfl
  | some grant =>
    obtain ⟨other, hother, hid⟩ := hledger.known row.id grant hlease
    exact absurd hid (henqueued.fresh other hother)

/-- A new row is not named by the operation that adds it. -/
theorem leaseOf_enqueued (hchanges : TableChanges now performed table later)
    (henqueued : Enqueued table row) :
    leaseOf (⟨caller, performed⟩ :: history) row.id = leaseOf history row.id := by
  have hunnamed : ∀ id ∈ claimedIds performed ++ endedIds performed, id ≠ row.id := by
    rintro id hid rfl
    obtain ⟨other, hother, hsame⟩ := hchanges.named _ hid
    exact henqueued.fresh other hother hsame
  refine holding_cons_of_not (fun hclaimed ↦ ?_) fun hended ↦ ?_
  · exact hunnamed row.id (List.mem_append_left _ hclaimed) rfl
  · exact hunnamed row.id (List.mem_append_right _ hended) rfl

theorem Ledger.perform (hledger : Ledger table history)
    (hchanges : TableChanges now performed table later) :
    Ledger later (⟨caller, performed⟩ :: history) := by
  refine ⟨fun successor hsuccessor grant hlease ↦ ?_, fun successor hsuccessor hlease ↦ ?_,
    fun id grant hlease ↦ ?_⟩
  · rcases hchanges.exists_origin hsuccessor with ⟨row, hrow, hchange⟩ | henqueued
    · rw [hchange.sameJob.id] at hlease
      cases hchange.lease with
      | claimed hclaimed hworker hstatus howner =>
        rw [leaseOf, holding_cons_of_granted hclaimed] at hlease
        obtain rfl := Option.some.inj hlease
        exact ⟨hstatus, _, hworker, howner⟩
      | ended hunclaimed hended _ _ =>
        rw [leaseOf, holding_cons_of_ended hunclaimed hended] at hlease
        cases hlease
      | kept hunclaimed hunended hstatus howner =>
        rw [leaseOf, holding_cons_of_not hunclaimed hunended] at hlease
        rw [hstatus, howner]
        exact hledger.leased row hrow grant hlease
    · rw [leaseOf_enqueued hchanges henqueued, hledger.fresh henqueued] at hlease
      cases hlease
  · rcases hchanges.exists_origin hsuccessor with ⟨row, hrow, hchange⟩ | henqueued
    · rw [hchange.sameJob.id] at hlease
      cases hchange.lease with
      | claimed hclaimed _ _ _ =>
        rw [leaseOf, holding_cons_of_granted hclaimed] at hlease
        cases hlease
      | ended _ _ hstatus howner => exact ⟨hstatus, howner⟩
      | kept hunclaimed hunended hstatus howner =>
        rw [leaseOf, holding_cons_of_not hunclaimed hunended] at hlease
        rw [hstatus, howner]
        exact hledger.free row hrow hlease
    · exact ⟨by simp [henqueued.status], henqueued.leaseOwner⟩
  · have hthere : ∃ row ∈ table.rows, row.id = id := by
      by_cases hclaimed : id ∈ claimedIds performed
      · exact hchanges.named id (List.mem_append_left _ hclaimed)
      · by_cases hended : id ∈ endedIds performed
        · exact hchanges.named id (List.mem_append_right _ hended)
        · rw [leaseOf, holding_cons_of_not hclaimed hended] at hlease
          exact hledger.known id grant hlease
    obtain ⟨row, hrow, rfl⟩ := hthere
    obtain ⟨successor, hsuccessor, hchange⟩ := hchanges.exists_successor hrow
    exact ⟨successor, hsuccessor, hchange.sameJob.id⟩

/-- Only the claims in force count. -/
theorem Ledger.of_leaseOf_eq {other : List QueueOccurrence} (hledger : Ledger table history)
    (hsame : ∀ id, leaseOf other id = leaseOf history id) : Ledger table other := by
  refine ⟨fun row hrow grant hlease ↦ ?_, fun row hrow hlease ↦ ?_, fun id grant hlease ↦ ?_⟩
  · exact hledger.leased row hrow grant (hsame row.id ▸ hlease)
  · exact hledger.free row hrow (hsame row.id ▸ hlease)
  · exact hledger.known id grant (hsame id ▸ hlease)

theorem ledger_empty : Ledger KeyedTable.empty [] := by
  refine ⟨?_, ?_, ?_⟩
  · rintro row ⟨⟩
  · rintro row ⟨⟩
  · rintro id grant ⟨⟩

/-- A row is leased to a worker by a claim in force of that worker. -/
theorem Ledger.exists_lease (hledger : Ledger table history) (hrow : row ∈ table.rows)
    {leaseOwner : String} (hleased : row.LeasedTo leaseOwner) :
    ∃ grant, leaseOf history row.id = some grant ∧ workerOf grant.performed = some leaseOwner := by
  cases hlease : leaseOf history row.id with
  | none => exact absurd hleased.2 (hledger.free row hrow hlease).1
  | some grant =>
    obtain ⟨-, workerId, hworker, howner⟩ := hledger.leased row hrow grant hlease
    obtain rfl := Option.some.inj (howner.symm.trans hleased.1)
    exact ⟨grant, rfl, hworker⟩

/-- A claim in force has leased its row. -/
theorem Ledger.leasedTo (hledger : Ledger table history) {grant : QueueOccurrence}
    (hlease : leaseOf history id = some grant) {leaseOwner : String}
    (hworker : workerOf grant.performed = some leaseOwner) :
    ∃ row ∈ table.rows, row.id = id ∧ row.LeasedTo leaseOwner := by
  obtain ⟨row, hrow, rfl⟩ := hledger.known id grant hlease
  obtain ⟨hstatus, workerId, hgrant, howner⟩ := hledger.leased row hrow grant hlease
  obtain rfl := Option.some.inj (hgrant.symm.trans hworker)
  exact ⟨row, hrow, rfl, howner, hstatus⟩

end Ledger

end Karar.Jobs
