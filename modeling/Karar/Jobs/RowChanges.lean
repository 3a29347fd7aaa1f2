import Karar.Foundation.Tenure
import Karar.Jobs.Queue

/-!
# What a statement does to a job

Every statement of the queue changes the rows one by one, and `RowChange` is all that it can do to one; the
INSERT adds one. A claim and a recovery answer the rows that they change. An outcome changes the row that
is leased to its worker, whichever claim the lease is of, and answers the number of rows.
-/

namespace Karar.Jobs

open Foundation KeyedTable SharedKernel

/-- The rows that a claim returned. -/
def claimedRows : QueuePerformed → List JobRow
  | ⟨.claimBatch _ _ _, rows⟩ => rows
  | _ => []

def claimedIds (performed : QueuePerformed) : List String :=
  (claimedRows performed).map (·.id)

/-- The jobs whose leases a recovery has ended. -/
def recoveredIds : QueuePerformed → List String
  | ⟨.recoverStaleLeases _, rows⟩ => rows.map (·.id)
  | _ => []

/-- The jobs whose leases an operation has ended. -/
def endedIds : QueuePerformed → List String
  | ⟨.complete id _, rowCount⟩ => if rowCount = 1 then [id] else []
  | ⟨.failRetryable id _ _ _, rowCount⟩ => if rowCount = 1 then [id] else []
  | ⟨.deadLetter id _ _, rowCount⟩ => if rowCount = 1 then [id] else []
  | ⟨.release id _, rowCount⟩ => if rowCount = 1 then [id] else []
  | ⟨.recoverStaleLeases _, rows⟩ => rows.map (·.id)
  | _ => []

/-- A row before and after an operation at a time of the clock. -/
inductive RowChange (now : Instant) : QueuePerformed → JobRow → JobRow → Prop
  | kept {performed : QueuePerformed} {row : JobRow} (hunclaimed : row.id ∉ claimedIds performed)
      (hunended : row.id ∉ endedIds performed) : RowChange now performed row row
  | leased {workerId : String} {leaseTtlMs batch : Int} {rows : List JobRow} {row : JobRow}
      (hclaimable : row.Claimable) (hrow : row.lease workerId (now + leaseTtlMs) ∈ rows) :
    RowChange now ⟨.claimBatch workerId leaseTtlMs batch, rows⟩ row
      (row.lease workerId (now + leaseTtlMs))
  | completed {leaseOwner : String} {row : JobRow} (hleased : row.LeasedTo leaseOwner) :
    RowChange now ⟨.complete row.id leaseOwner, 1⟩ row row.succeed
  | retried {leaseOwner lastError : String} {backoffMs : Int} {row : JobRow}
      (hleased : row.LeasedTo leaseOwner) :
    RowChange now ⟨.failRetryable row.id leaseOwner lastError backoffMs, 1⟩ row
      (row.retryAt lastError (now + backoffMs))
  | died {leaseOwner lastError : String} {row : JobRow} (hleased : row.LeasedTo leaseOwner) :
    RowChange now ⟨.deadLetter row.id leaseOwner lastError, 1⟩ row (row.die lastError)
  | extended {leaseOwner : String} {extendMs : Int} {row : JobRow} (hleased : row.LeasedTo leaseOwner) :
    RowChange now ⟨.heartbeat row.id leaseOwner extendMs, 1⟩ row (row.extend (now + extendMs))
  | released {leaseOwner : String} {row : JobRow} (hleased : row.LeasedTo leaseOwner) :
    RowChange now ⟨.release row.id leaseOwner, 1⟩ row row.giveBack
  | recovered {lastError : String} {rows : List JobRow} {row : JobRow} (hexpired : row.Expired now)
      (hrow : row.recover lastError now ∈ rows) :
    RowChange now ⟨.recoverStaleLeases lastError, rows⟩ row (row.recover lastError now)

/-- A new row, under an id that no other has. -/
structure Enqueued (table : JobTable) (row : JobRow) : Prop where
  status : row.status = .queued
  attempts : row.attempts = 0
  leaseOwner : row.leaseOwner = none
  fresh : ∀ other ∈ table.rows, other.id ≠ row.id

/-- The rows are changed one by one, and new ones are added. -/
structure TableChanges (now : Instant) (performed : QueuePerformed) (table later : JobTable) : Prop where
  changes : ∃ change added, later.rows = table.rows.map change ++ added ∧
    (∀ row ∈ table.rows, RowChange now performed row (change row)) ∧
      ∀ row ∈ added, Enqueued table row
  /-- What a claim returns is in the table. -/
  claimed : ∀ row ∈ claimedRows performed, row ∈ later.rows
  /-- What a claim returns or a recovery ends was there. -/
  named : ∀ id ∈ claimedIds performed ++ endedIds performed, ∃ row ∈ table.rows, row.id = id

section Changes

variable {now : Instant} {performed : QueuePerformed} {table later : JobTable} {row : JobRow}

/-- An update that claims nothing. -/
theorem tableChanges_update {condition : JobRow → Bool} {change : JobRow → JobRow}
    {hsame : ∀ row, JobRow.SameJob row (change row)} (hnone : claimedRows performed = [])
    (hchanged : ∀ row ∈ table.rows, condition row = true → RowChange now performed row (change row))
    (hkept : ∀ row ∈ table.rows, ¬ condition row = true → row.id ∉ endedIds performed)
    (hnamed : ∀ id ∈ endedIds performed, ∃ row ∈ table.rows, row.id = id) :
    TableChanges now performed table (KeyedTable.update table condition (rewriting change hsame)) := by
  have hids : claimedIds performed = [] := by simp [claimedIds, hnone]
  refine ⟨⟨fun row ↦ if condition row then change row else row, [], ?_, fun row hrow ↦ ?_, by simp⟩,
    by simp [hnone], by simpa [hids] using hnamed⟩
  · rw [rows_update, List.append_nil]
    rfl
  · show RowChange now performed row (if condition row then change row else row)
    by_cases hcondition : condition row = true
    · rw [if_pos hcondition]
      exact hchanged row hrow hcondition
    · rw [if_neg hcondition]
      exact .kept (by simp [hids]) (hkept row hrow hcondition)

/-- An operation that leaves the table. -/
theorem tableChanges_refl (hnone : claimedRows performed = []) (hunended : endedIds performed = []) :
    TableChanges now performed table table := by
  have hids : claimedIds performed = [] := by simp [claimedIds, hnone]
  refine ⟨⟨id, [], by simp, fun row _ ↦ .kept (by simp [hids]) (by simp [hunended]), by simp⟩,
    by simp [hnone], by simp [hids, hunended]⟩

/-- The row of a worker's lease is counted once. -/
theorem rowCount_of_leased {id leaseOwner : String} (hrow : row ∈ table.rows) (hid : row.id = id)
    (hleased : row.LeasedTo leaseOwner) :
    (table.count fun row ↦ row.id = id ∧ row.LeasedTo leaseOwner) = 1 := by
  refine count_of_key hrow (by simp [hid, hleased]) fun other _ hcondition ↦ ?_
  exact (of_decide_eq_true hcondition).1.trans hid.symm

/-- An outcome. Assumes: it changes a leased row as `change`, and ends the lease or keeps it. -/
theorem tableChanges_updateLeased {id leaseOwner : String} {change : JobRow → JobRow}
    {hsame : ∀ row, JobRow.SameJob row (change row)} (performed : ℕ → QueuePerformed)
    (hnone : ∀ rowCount, claimedRows (performed rowCount) = [])
    (hended : ∀ rowCount, endedIds (performed rowCount) = [] ∨
      endedIds (performed rowCount) = if rowCount = 1 then [id] else [])
    (hchanged : ∀ row : JobRow, row.id = id → row.LeasedTo leaseOwner →
      RowChange now (performed 1) row (change row)) :
    TableChanges now (performed (JobTable.updateLeased table id leaseOwner change hsame).2) table
      (JobTable.updateLeased table id leaseOwner change hsame).1 := by
  have hmem : ∀ other rowCount, other ∈ endedIds (performed rowCount) → other = id ∧ rowCount = 1 := by
    intro other rowCount hother
    rcases hended rowCount with hempty | hone
    · simp [hempty] at hother
    · rw [hone] at hother
      split_ifs at hother with hrowCount
      · exact ⟨List.mem_singleton.mp hother, hrowCount⟩
      · cases hother
  refine tableChanges_update (hnone _) (fun row hrow hcondition ↦ ?_) (fun row hrow hcondition hmember ↦ ?_)
    fun other hother ↦ ?_
  · obtain ⟨hid, hleased⟩ := of_decide_eq_true hcondition
    have hcount : (JobTable.updateLeased table id leaseOwner change hsame).2 = 1 :=
      rowCount_of_leased hrow hid hleased
    rw [hcount]
    exact hchanged row hid hleased
  · -- Another row of the same id would be the row itself.
    obtain ⟨hid, hcount⟩ := hmem _ _ hmember
    obtain ⟨found, hfound, hmeets⟩ := exists_of_count_ne_zero (hcount.trans_ne Nat.one_ne_zero)
    obtain rfl := table.eq_of_key hfound hrow ((of_decide_eq_true hmeets).1.trans hid.symm)
    exact hcondition hmeets
  · obtain ⟨rfl, hcount⟩ := hmem _ _ hother
    obtain ⟨found, hfound, hmeets⟩ := exists_of_count_ne_zero (hcount.trans_ne Nat.one_ne_zero)
    exact ⟨found, hfound, (of_decide_eq_true hmeets).1⟩

theorem mem_pick {locked : List String} {limit : ℕ}
    (hpicked : row ∈ JobTable.pick table now locked limit) : row ∈ table.rows ∧ row.Claimable := by
  have hsorted := List.mem_of_mem_take hpicked
  rw [List.mem_insertionSort, List.mem_filter] at hsorted
  exact ⟨hsorted.1, (of_decide_eq_true hsorted.2).1⟩

/-- The rows may be returned in any order. -/
theorem tableChanges_claimBatch {workerId : String} {leaseTtlMs batch : Int} {locked : List String}
    {limit : ℕ} {rows : List JobRow}
    (hrows : rows.Perm (JobTable.claimBatch table now workerId leaseTtlMs locked limit).2) :
    TableChanges now ⟨.claimBatch workerId leaseTtlMs batch, rows⟩ table
      (JobTable.claimBatch table now workerId leaseTtlMs locked limit).1 := by
  have hreturned : ∀ returned ∈ rows, ∃ row ∈ JobTable.pick table now locked limit,
      row.lease workerId (now + leaseTtlMs) = returned := fun returned hreturned ↦
    List.mem_map.mp (hrows.mem_iff.mp hreturned)
  refine ⟨⟨fun row ↦ if row ∈ JobTable.pick table now locked limit then
    row.lease workerId (now + leaseTtlMs) else row, [], ?_, fun row hrow ↦ ?_, by simp⟩,
    fun returned hreturn ↦ ?_, fun id hid ↦ ?_⟩
  · unfold JobTable.claimBatch
    rw [rows_update, List.append_nil]
    simp only [decide_eq_true_eq]
    rfl
  · show RowChange now _ row (if row ∈ JobTable.pick table now locked limit then
      row.lease workerId (now + leaseTtlMs) else row)
    by_cases hpicked : row ∈ JobTable.pick table now locked limit
    · rw [if_pos hpicked]
      exact .leased (mem_pick hpicked).2 (hrows.mem_iff.mpr (List.mem_map_of_mem hpicked))
    · rw [if_neg hpicked]
      refine .kept (fun hclaimed ↦ ?_) List.not_mem_nil
      obtain ⟨returned, hreturn, hid⟩ := List.mem_map.mp hclaimed
      obtain ⟨picked, hpick, rfl⟩ := hreturned returned hreturn
      exact hpicked (table.eq_of_key (mem_pick hpick).1 hrow hid ▸ hpick)
  · obtain ⟨picked, hpick, rfl⟩ := hreturned returned hreturn
    exact mem_update_iff.mpr ⟨picked, (mem_pick hpick).1, by simp [hpick, rewriting]⟩
  · rw [show endedIds ⟨.claimBatch workerId leaseTtlMs batch, rows⟩ = [] from rfl, List.append_nil] at hid
    obtain ⟨returned, hreturn, rfl⟩ := List.mem_map.mp hid
    obtain ⟨picked, hpick, rfl⟩ := hreturned returned hreturn
    exact ⟨picked, (mem_pick hpick).1, rfl⟩

theorem tableChanges_recover {lastError : String} :
    TableChanges now
      ⟨.recoverStaleLeases lastError, (JobTable.recoverStaleLeases table now lastError).2⟩ table
      (JobTable.recoverStaleLeases table now lastError).1 := by
  refine tableChanges_update rfl (fun row hrow hcondition ↦ ?_) (fun row hrow hcondition hended ↦ ?_)
    fun id hid ↦ ?_
  · exact .recovered (of_decide_eq_true hcondition)
      (List.mem_map_of_mem (List.mem_filter.mpr ⟨hrow, hcondition⟩))
  · obtain ⟨recovered, hrecovered, hid⟩ := List.mem_map.mp hended
    obtain ⟨found, hfound, rfl⟩ := List.mem_map.mp hrecovered
    obtain ⟨hthere, hmeets⟩ := List.mem_filter.mp hfound
    have hsame : found.id = row.id := ((found.sameJob_recover _ _).id).symm.trans hid
    exact hcondition (table.eq_of_key hthere hrow hsame ▸ hmeets)
  · obtain ⟨recovered, hrecovered, rfl⟩ := List.mem_map.mp hid
    obtain ⟨found, hfound, rfl⟩ := List.mem_map.mp hrecovered
    exact ⟨found, (List.mem_filter.mp hfound).1, ((found.sameJob_recover _ _).id).symm⟩

theorem tableChanges_insert {job : NewJob} {answer : Option JobRow}
    (hinsert : table.insertJob now job = some (later, answer)) :
    TableChanges now ⟨.insertJob job, answer⟩ table later := by
  obtain ⟨row, hrow, hinserted⟩ := Option.bind_eq_some_iff.mp hinsert
  cases hkey : JobTable.withKey table job.jobType job.idempotencyKey with
  | some taken =>
    simp only [hkey, Option.some.injEq, Prod.mk.injEq] at hinserted
    obtain ⟨rfl, rfl⟩ := hinserted
    exact tableChanges_refl rfl rfl
  | none =>
    simp only [hkey] at hinserted
    obtain ⟨added, hadded, heq⟩ := Option.map_eq_some_iff.mp hinserted
    obtain ⟨rfl, rfl⟩ := Prod.mk.inj heq
    unfold NewJob.row at hrow
    split_ifs at hrow with hchecks
    obtain rfl := Option.some.inj hrow
    refine ⟨⟨id, [_], by rw [rows_of_insert hadded, List.map_id], fun row _ ↦
      .kept List.not_mem_nil List.not_mem_nil, fun row hnew ↦ ?_⟩, by simp [claimedRows],
      by simp [claimedIds, claimedRows, endedIds]⟩
    obtain rfl := List.mem_singleton.mp hnew
    exact ⟨rfl, rfl, rfl, key_ne_of_insert hadded⟩

end Changes

/-! ### Operations -/

section Performed

variable {store later : JobStore} {op : QueueOp} {oracle : QueueOracle} {answer : op.Answer}

/-- An operation leaves the clock, and changes the rows one by one. -/
theorem tableChanges_of_performed (hanswer : store.performOrFail op oracle = some (later, answer)) :
    later.now = store.now ∧ TableChanges store.now ⟨op, answer⟩ store.table later.table := by
  have hperform : store.perform op oracle = some (later, answer) := by
    unfold JobStore.performOrFail at hanswer
    split_ifs at hanswer
    exact hanswer
  cases op with
  | insertJob job =>
    obtain ⟨⟨table, row⟩, hinsert, heq⟩ := Option.map_eq_some_iff.mp hperform
    obtain ⟨rfl, rfl⟩ := Prod.mk.inj heq
    exact ⟨rfl, tableChanges_insert hinsert⟩
  | selectJob jobType idempotencyKey =>
    obtain ⟨rfl, rfl⟩ := Prod.mk.inj (Option.some.inj hperform)
    exact ⟨rfl, tableChanges_refl rfl rfl⟩
  | claimBatch workerId leaseTtlMs batch =>
    obtain ⟨rfl, rfl⟩ := Prod.mk.inj (Option.some.inj hperform)
    exact ⟨rfl, tableChanges_claimBatch (oracle.returned_perm _)⟩
  | complete id leaseOwner =>
    obtain ⟨rfl, rfl⟩ := Prod.mk.inj (Option.some.inj hperform)
    refine ⟨rfl, tableChanges_updateLeased (fun rowCount ↦ ⟨.complete id leaseOwner, rowCount⟩)
      (fun _ ↦ rfl) (fun _ ↦ .inr rfl) ?_⟩
    rintro row rfl hleased
    exact .completed hleased
  | failRetryable id leaseOwner lastError backoffMs =>
    obtain ⟨rfl, rfl⟩ := Prod.mk.inj (Option.some.inj hperform)
    refine ⟨rfl, tableChanges_updateLeased
      (fun rowCount ↦ ⟨.failRetryable id leaseOwner lastError backoffMs, rowCount⟩)
      (fun _ ↦ rfl) (fun _ ↦ .inr rfl) ?_⟩
    rintro row rfl hleased
    exact .retried hleased
  | deadLetter id leaseOwner lastError =>
    obtain ⟨rfl, rfl⟩ := Prod.mk.inj (Option.some.inj hperform)
    refine ⟨rfl, tableChanges_updateLeased
      (fun rowCount ↦ ⟨.deadLetter id leaseOwner lastError, rowCount⟩)
      (fun _ ↦ rfl) (fun _ ↦ .inr rfl) ?_⟩
    rintro row rfl hleased
    exact .died hleased
  | heartbeat id leaseOwner extendMs =>
    obtain ⟨rfl, rfl⟩ := Prod.mk.inj (Option.some.inj hperform)
    refine ⟨rfl, tableChanges_updateLeased
      (fun rowCount ↦ ⟨.heartbeat id leaseOwner extendMs, rowCount⟩)
      (fun _ ↦ rfl) (fun _ ↦ .inl rfl) ?_⟩
    rintro row rfl hleased
    exact .extended hleased
  | release id leaseOwner =>
    obtain ⟨rfl, rfl⟩ := Prod.mk.inj (Option.some.inj hperform)
    refine ⟨rfl, tableChanges_updateLeased (fun rowCount ↦ ⟨.release id leaseOwner, rowCount⟩)
      (fun _ ↦ rfl) (fun _ ↦ .inr rfl) ?_⟩
    rintro row rfl hleased
    exact .released hleased
  | recoverStaleLeases lastError =>
    obtain ⟨rfl, rfl⟩ := Prod.mk.inj (Option.some.inj hperform)
    exact ⟨rfl, tableChanges_recover⟩

end Performed

end Karar.Jobs
