import Karar.Outbox.Relay

/-!
# What a statement does to a row

Every statement of a relay changes the rows of the table one by one, and `RowChange` is all that it can do
to one: the claim reaches claimable rows, the release the claims of its relay, and the marks the row of
their id, whoever has claimed it. Nothing else changes, and no row is removed.
-/

namespace Karar.Outbox

open Foundation KeyedTable SharedKernel

/-- A row before and after an operation at a time of the clock. -/
inductive RowChange (now : Instant) : RelayPerformed → OutboxRow → OutboxRow → Prop
  | kept {performed : RelayPerformed} {row : OutboxRow} (hunclaimed : row.id ∉ claimedIds performed) :
    RowChange now performed row row
  | claimed {relayId : String} {claimTtlMs batchSize : Int} {rows : List ClaimedRow} {row : OutboxRow}
      (hclaimable : row.Claimable now) (hrow : row.claimedRow ∈ rows) :
    RowChange now ⟨.claimBatch relayId claimTtlMs batchSize, rows⟩ row
      (row.claimFor ⟨relayId, now + claimTtlMs⟩)
  | published {row : OutboxRow} (hpending : row.Pending) :
    RowChange now ⟨.markPublished row.id, ()⟩ row (row.publish now)
  | deadLettered {attempts : ℕ} {lastError : String} {row : OutboxRow}
      (hunpublished : row.publishedAt = none) :
    RowChange now ⟨.deadLetter row.id attempts lastError, ()⟩ row
      (row.deadLetter now attempts lastError)
  | retried {attempts : ℕ} {lastError : String} {backoffMs : Int} {row : OutboxRow} :
    RowChange now ⟨.scheduleRetry row.id attempts lastError backoffMs, ()⟩ row
      (row.retry (now + backoffMs) attempts lastError)
  | released {claim : OutboxClaim} {row : OutboxRow} (hclaim : row.claim = some claim)
      (hpending : row.Pending) :
    RowChange now ⟨.releaseOwnClaims claim.claimedBy, ()⟩ row row.release

/-- The rows are changed one by one. -/
def TableChanges (now : Instant) (performed : RelayPerformed) (table later : OutboxTable) : Prop :=
  ∃ change : OutboxRow → OutboxRow, later.rows = table.rows.map change ∧
    ∀ row ∈ table.rows, RowChange now performed row (change row)

section Changes

variable {now : Instant} {performed : RelayPerformed} {table later : OutboxTable} {row : OutboxRow}

/-- An operation that is no claim leaves the rows that it does not update. -/
theorem tableChanges_update {condition : OutboxRow → Bool} {change : Rewrite OutboxRow.id OutboxRow.id}
    (hchanged : ∀ row ∈ table.rows, condition row = true → RowChange now performed row (change.run row))
    (hkept : ∀ row ∈ table.rows, ¬ condition row = true → row.id ∉ claimedIds performed) :
    TableChanges now performed table (table.update condition change) := by
  refine ⟨fun row ↦ if condition row then change.run row else row, rows_update, fun row hrow ↦ ?_⟩
  show RowChange now performed row (if condition row then change.run row else row)
  by_cases hcondition : condition row = true
  · rw [if_pos hcondition]
    exact hchanged row hrow hcondition
  · rw [if_neg hcondition]
    exact .kept (hkept row hrow hcondition)

theorem tableChanges_refl (hunclaimed : ∀ row ∈ table.rows, row.id ∉ claimedIds performed) :
    TableChanges now performed table table :=
  ⟨id, (List.map_id _).symm, fun row hrow ↦ .kept (hunclaimed row hrow)⟩

theorem mem_pick {locked : List String} {limit : ℕ} (hpicked : row ∈ table.pick now locked limit) :
    row ∈ table.rows ∧ row.Claimable now := by
  have hsorted := List.mem_of_mem_take hpicked
  rw [List.mem_insertionSort, List.mem_filter] at hsorted
  exact ⟨hsorted.1, (of_decide_eq_true hsorted.2).1⟩

/-- The rows may be returned in any order. -/
theorem tableChanges_claimBatch {relayId : String} {claimTtlMs batchSize : Int} {locked : List String}
    {limit : ℕ} {rows : List ClaimedRow}
    (hrows : rows.Perm (table.claimBatch now ⟨relayId, now + claimTtlMs⟩ locked limit).2) :
    TableChanges now ⟨.claimBatch relayId claimTtlMs batchSize, rows⟩ table
      (table.claimBatch now ⟨relayId, now + claimTtlMs⟩ locked limit).1 := by
  refine tableChanges_update (fun row _ hpicked ↦ ?_) fun row hrow hunpicked hclaimed ↦ ?_
  · have hpick := of_decide_eq_true hpicked
    exact .claimed (mem_pick hpick).2 (hrows.mem_iff.mpr (List.mem_map_of_mem hpick))
  · -- Another row of the same id would be the row itself.
    obtain ⟨claimed, hreturned, hid⟩ := List.mem_map.mp hclaimed
    obtain ⟨picked, hpicked, rfl⟩ := List.mem_map.mp (hrows.mem_iff.mp hreturned)
    have hsame : picked = row := table.eq_of_key (mem_pick hpicked).1 hrow hid
    exact hunpicked (by simpa using hsame ▸ hpicked)

theorem not_mem_claimedIds {op : RelayOp} {answer : op.Answer}
    (hnone : claimedRows ⟨op, answer⟩ = []) : row.id ∉ claimedIds ⟨op, answer⟩ := by
  simp [claimedIds, hnone]

end Changes

/-! ### Operations -/

section Performed

variable {store later : OutboxStore} {op : RelayOp} {oracle : RelayOracle} {answer : op.Answer}

theorem perform_of_performOrFail
    (hanswer : store.performOrFail op oracle = some (later, answer)) :
    store.perform op oracle = some (later, answer) := by
  unfold OutboxStore.performOrFail at hanswer
  split_ifs at hanswer
  exact hanswer

/-- An operation leaves the clock, and changes the rows one by one. -/
theorem tableChanges_of_performed
    (hanswer : store.performOrFail op oracle = some (later, answer)) :
    later.now = store.now ∧ TableChanges store.now ⟨op, answer⟩ store.table later.table := by
  have hperform := perform_of_performOrFail hanswer
  cases op with
  | claimBatch relayId claimTtlMs batchSize =>
    obtain ⟨rfl, rfl⟩ := Prod.mk.inj (Option.some.inj hperform)
    exact ⟨rfl, tableChanges_claimBatch (oracle.returned_perm _)⟩
  | publish id envelope =>
    obtain ⟨rfl, -⟩ := Prod.mk.inj (Option.some.inj hperform)
    exact ⟨rfl, tableChanges_refl fun _ _ ↦ not_mem_claimedIds rfl⟩
  | stopping =>
    obtain ⟨rfl, -⟩ := Prod.mk.inj (Option.some.inj hperform)
    exact ⟨rfl, tableChanges_refl fun _ _ ↦ not_mem_claimedIds rfl⟩
  | lag =>
    obtain ⟨rfl, -⟩ := Prod.mk.inj (Option.some.inj hperform)
    exact ⟨rfl, tableChanges_refl fun _ _ ↦ not_mem_claimedIds rfl⟩
  | markPublished id =>
    obtain ⟨table, hmarked, heq⟩ := Option.map_eq_some_iff.mp hperform
    obtain ⟨rfl, -⟩ := Prod.mk.inj heq
    unfold OutboxTable.markPublished at hmarked
    split_ifs at hmarked with hbroken
    obtain rfl := Option.some.inj hmarked
    refine ⟨rfl, tableChanges_update (fun row hrow hcondition ↦ ?_) fun _ _ _ ↦ not_mem_claimedIds rfl⟩
    obtain ⟨rfl, hunpublished⟩ := of_decide_eq_true hcondition
    refine .published ⟨hunpublished, ?_⟩
    by_contra hdead
    exact hbroken (List.any_eq_true.mpr ⟨row, hrow, by simp [hunpublished, hdead]⟩)
  | deadLetter id attempts lastError =>
    obtain ⟨table, hmarked, heq⟩ := Option.map_eq_some_iff.mp hperform
    obtain ⟨rfl, -⟩ := Prod.mk.inj heq
    unfold OutboxTable.markDeadLettered at hmarked
    split_ifs at hmarked with hbroken
    obtain rfl := Option.some.inj hmarked
    refine ⟨rfl, tableChanges_update (fun row hrow hcondition ↦ ?_) fun _ _ _ ↦ not_mem_claimedIds rfl⟩
    obtain rfl := of_decide_eq_true hcondition
    refine .deadLettered ?_
    by_contra hpublished
    exact hbroken (List.any_eq_true.mpr ⟨row, hrow, by simp [hpublished]⟩)
  | scheduleRetry id attempts lastError backoffMs =>
    obtain ⟨rfl, -⟩ := Prod.mk.inj (Option.some.inj hperform)
    refine ⟨rfl, tableChanges_update (fun row hrow hcondition ↦ ?_) fun _ _ _ ↦ not_mem_claimedIds rfl⟩
    obtain rfl := of_decide_eq_true hcondition
    exact .retried
  | releaseOwnClaims relayId =>
    obtain ⟨rfl, -⟩ := Prod.mk.inj (Option.some.inj hperform)
    refine ⟨rfl, tableChanges_update (fun row hrow hcondition ↦ ?_) fun _ _ _ ↦ not_mem_claimedIds rfl⟩
    obtain ⟨howner, hpending⟩ := of_decide_eq_true hcondition
    obtain ⟨claim, hclaim, hrelay⟩ := (Option.any_eq_true _ _).mp howner
    obtain rfl := of_decide_eq_true hrelay
    exact .released hclaim hpending

/-- What a claim returns of a row is what the row has. -/
theorem exists_row_of_claimed (hanswer : store.performOrFail op oracle = some (later, answer))
    {claimed : ClaimedRow} (hclaimed : claimed ∈ claimedRows ⟨op, answer⟩) :
    ∃ row ∈ store.table.rows, row.claimedRow = claimed := by
  cases op with
  | claimBatch relayId claimTtlMs batchSize =>
    obtain ⟨rfl, rfl⟩ := Prod.mk.inj (Option.some.inj (perform_of_performOrFail hanswer))
    obtain ⟨row, hpicked, rfl⟩ := List.mem_map.mp ((oracle.returned_perm _).mem_iff.mp hclaimed)
    exact ⟨row, (mem_pick hpicked).1, rfl⟩
  | _ => cases hclaimed

end Performed

/-! ### Turns -/

section Turns

variable {store : OutboxStore} {tick : OutboxTick} {row : OutboxRow}

theorem table_turn_enqueue (values : NewOutboxRow) :
    (store.turn (.enqueue values)).table =
      (store.table.insert values store.now).getD store.table :=
  rfl

/-- A row after a turn was there before, or was enqueued by it. -/
theorem mem_turn (hrow : row ∈ (store.turn tick).table.rows) :
    row ∈ store.table.rows ∨ ∃ values : NewOutboxRow, row = values.row store.now ∧
      ∀ other ∈ store.table.rows, other.id ≠ row.id := by
  cases tick with
  | clock now => exact .inl hrow
  | enqueue values =>
    rw [table_turn_enqueue] at hrow
    cases hinsert : store.table.insert values store.now with
    | none =>
      rw [hinsert] at hrow
      exact .inl hrow
    | some table =>
      rw [hinsert] at hrow
      rcases (mem_insert_iff hinsert).mp hrow with hold | rfl
      · exact .inl hold
      · exact .inr ⟨values, rfl, key_ne_of_insert hinsert⟩

theorem mem_turn_of_mem (hrow : row ∈ store.table.rows) : row ∈ (store.turn tick).table.rows := by
  cases tick with
  | clock now => exact hrow
  | enqueue values =>
    rw [table_turn_enqueue]
    cases hinsert : store.table.insert values store.now with
    | none => exact hrow
    | some table => exact (mem_insert_iff hinsert).mpr (.inl hrow)

end Turns

/-! ### What never changes -/

section Identity

variable {now : Instant} {performed : RelayPerformed} {row later : OutboxRow}

/-- The event of a row and how often it may be attempted. -/
structure SameEvent (row later : OutboxRow) : Prop where
  id : later.id = row.id
  envelope : later.envelope = row.envelope
  maxAttempts : later.maxAttempts = row.maxAttempts

theorem SameEvent.refl (row : OutboxRow) : SameEvent row row := ⟨rfl, rfl, rfl⟩

theorem SameEvent.trans {middle : OutboxRow} (hfirst : SameEvent row middle)
    (hsecond : SameEvent middle later) : SameEvent row later :=
  ⟨hsecond.id.trans hfirst.id, hsecond.envelope.trans hfirst.envelope,
    hsecond.maxAttempts.trans hfirst.maxAttempts⟩

theorem RowChange.sameEvent (hchange : RowChange now performed row later) : SameEvent row later := by
  cases hchange with
  | kept _ => exact .refl row
  | claimed _ _ => exact ⟨rfl, rfl, rfl⟩
  | published hpending => simp [OutboxRow.publish, hpending.2, SameEvent.mk]
  | deadLettered hunpublished => simp [OutboxRow.deadLetter, hunpublished, SameEvent.mk]
  | retried => exact ⟨rfl, rfl, rfl⟩
  | released _ _ => exact ⟨rfl, rfl, rfl⟩

/-- A mark of a failure of a row, and the attempts it writes. -/
def MarksFailure (op : RelayOp) (id : String) (attempts : ℕ) : Prop :=
  (∃ lastError, op = .deadLetter id attempts lastError) ∨
    ∃ lastError backoffMs, op = .scheduleRetry id attempts lastError backoffMs

theorem RowChange.attempts (hchange : RowChange now performed row later) :
    later.attempts = row.attempts ∨ MarksFailure performed.1 row.id later.attempts := by
  cases hchange with
  | kept _ => exact .inl rfl
  | claimed _ _ => exact .inl rfl
  | published hpending => exact .inl (by simp [OutboxRow.publish, hpending.2])
  | @deadLettered attempts lastError row hunpublished =>
    exact .inr (.inl ⟨lastError, by simp [OutboxRow.deadLetter, hunpublished]⟩)
  | retried => exact .inr (.inr ⟨_, _, rfl⟩)
  | released _ _ => exact .inl rfl

theorem RowChange.publishedAt (hchange : RowChange now performed row later) :
    later.publishedAt = row.publishedAt ∨ performed.1 = .markPublished row.id := by
  cases hchange with
  | published hpending => exact .inr rfl
  | deadLettered hunpublished => exact .inl (by simp [OutboxRow.deadLetter, hunpublished])
  | _ => exact .inl rfl

theorem RowChange.deadLetteredAt (hchange : RowChange now performed row later) :
    later.deadLetteredAt = row.deadLetteredAt ∨
      ∃ attempts lastError, performed.1 = .deadLetter row.id attempts lastError := by
  cases hchange with
  | published hpending => exact .inl (by simp [OutboxRow.publish, hpending.2])
  | deadLettered hunpublished => exact .inr ⟨_, _, rfl⟩
  | _ => exact .inl rfl

/-! ### Rows before and after -/

variable {table laterTable : OutboxTable}

/-- A row was there before. -/
theorem TableChanges.exists_origin (hchanges : TableChanges now performed table laterTable)
    (hlater : later ∈ laterTable.rows) : ∃ row ∈ table.rows, RowChange now performed row later := by
  obtain ⟨change, hrows, hchange⟩ := hchanges
  rw [hrows, List.mem_map] at hlater
  obtain ⟨row, hrow, rfl⟩ := hlater
  exact ⟨row, hrow, hchange row hrow⟩

/-- A row is still there. -/
theorem TableChanges.exists_successor (hchanges : TableChanges now performed table laterTable)
    (hrow : row ∈ table.rows) : ∃ later ∈ laterTable.rows, SameEvent row later := by
  obtain ⟨change, hrows, hchange⟩ := hchanges
  refine ⟨change row, ?_, (hchange row hrow).sameEvent⟩
  rw [hrows]
  exact List.mem_map_of_mem hrow

/-- The rows of one id are one row, before and after. -/
theorem TableChanges.of_id_eq (hchanges : TableChanges now performed table laterTable)
    (hrow : row ∈ table.rows) (hlater : later ∈ laterTable.rows) (hid : later.id = row.id) :
    RowChange now performed row later := by
  obtain ⟨origin, horigin, hchange⟩ := hchanges.exists_origin hlater
  obtain rfl : origin = row := table.eq_of_key horigin hrow (hchange.sameEvent.id.symm.trans hid)
  exact hchange

end Identity

end Karar.Outbox
