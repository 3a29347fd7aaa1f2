import Karar.OperatingEntity.UseCases

/-!
# What an operation does to the tables

Every answered operation leaves both tables alone or changes one of them by its one statement. The
two relations say all that such a statement can do, with what its guard and its checks have let pass.
-/

namespace Karar.OperatingEntity

open Foundation SharedKernel

/-- What the migrations can become by an operation. -/
inductive MigrationChanges (table : MigrationTable) :
    (op : EntityOp) → Except String op.Value → MigrationTable → Prop
  | kept {op : EntityOp} (answer : Except String op.Value) : MigrationChanges table op answer table
  | inserted {migration : EntityMigration} {row : MigrationRow} {later : MigrationTable}
      (hinsert : KeyedTable.insert table row = some later) :
    MigrationChanges table (.insertMigration migration) (.ok ()) later
  | advanced {id : String} {to_ : EntityMigrationStatus} {fields : AdvanceFields}
      {row written : MigrationRow} (hfind : table.find id = some row)
      (hopen : isTerminalMigrationStatus row.1.status = false)
      (hlink : row.1.reconsentEvaluationId ≠ none →
        (row.1.advanced to_ fields).reconsentEvaluationId = row.1.reconsentEvaluationId)
      (hwritten : written.1 = row.1.advanced to_ fields) :
    MigrationChanges table (.advance id to_ fields) (.ok ()) (table.put written)

/-- What the bindings can become by an operation. -/
inductive BindingChanges (table : BindingTable) :
    (op : EntityOp) → Except String op.Value → BindingTable → Prop
  | kept {op : EntityOp} (answer : Except String op.Value) : BindingChanges table op answer table
  | inserted {row : BindingRow} {later : BindingTable}
      (hinsert : KeyedTable.insert table row = some later) :
    BindingChanges table (.insertAssignment row.1) (.ok ()) later
  | ended {id : String} {effectiveTo : Instant} {row written : BindingRow}
      (hfind : table.find id = some row) (hopen : row.1.effectiveTo = none)
      (hwritten : written.1 = { row.1 with effectiveTo := some effectiveTo }) :
    BindingChanges table (.endAssignment id effectiveTo) (.ok ()) (table.put written)

theorem BindingTable.insert_eq_ok {table later : BindingTable} {entities : List OperatingEntityId}
    {assignment : OperatingEntityAssignment}
    (hinsert : BindingTable.insert table entities assignment = .ok later) :
    ∃ row : BindingRow, row.1 = assignment ∧ KeyedTable.insert table row = some later := by
  unfold BindingTable.insert at hinsert
  split_ifs at hinsert with hadmissible
  split at hinsert
  · rename_i rows hrows
    obtain rfl := Except.ok.inj hinsert
    exact ⟨⟨assignment, hadmissible⟩, rfl, hrows⟩
  · cases hinsert

theorem BindingTable.end_eq_ok {table later : BindingTable} {id : String} {effectiveTo : Instant}
    (hend : BindingTable.end_ table id effectiveTo = .ok later) :
    ∃ row written : BindingRow, table.find id = some row ∧ row.1.effectiveTo = none ∧
      written.1 = { row.1 with effectiveTo := some effectiveTo } ∧ later = table.put written := by
  unfold BindingTable.end_ at hend
  split at hend
  · cases hend
  · rename_i row hfind
    split_ifs at hend with hended hadmissible
    exact ⟨row, ⟨_, hadmissible⟩, hfind, not_not.mp hended, rfl, (Except.ok.inj hend).symm⟩

theorem MigrationTable.insert_eq_ok {table later : MigrationTable}
    {entities : List OperatingEntityId} {migration : EntityMigration}
    (hinsert : MigrationTable.insert table entities migration = .ok later) :
    ∃ row : MigrationRow, KeyedTable.insert table row = some later := by
  unfold MigrationTable.insert at hinsert
  split_ifs at hinsert
  split at hinsert
  · rename_i rows hrows
    obtain rfl := Except.ok.inj hinsert
    exact ⟨_, hrows⟩
  · cases hinsert

theorem MigrationTable.advance_eq_ok {table later : MigrationTable} {id : String}
    {to_ : EntityMigrationStatus} {fields : AdvanceFields}
    (hadvance : MigrationTable.advance table id to_ fields = .ok later) :
    ∃ row written : MigrationRow, table.find id = some row ∧
      isTerminalMigrationStatus row.1.status = false ∧
      (row.1.reconsentEvaluationId ≠ none →
        (row.1.advanced to_ fields).reconsentEvaluationId = row.1.reconsentEvaluationId) ∧
      written.1 = row.1.advanced to_ fields ∧ later = table.put written := by
  unfold MigrationTable.advance at hadvance
  split at hadvance
  · cases hadvance
  · rename_i row hfind
    split_ifs at hadvance with hterminal hlink hadmissible
    refine ⟨row, ⟨_, hadmissible⟩, hfind, by simpa using hterminal, fun hlinked ↦ ?_, rfl,
      (Except.ok.inj hadvance).symm⟩
    by_contra hchanged
    exact hlink ⟨hlinked, hchanged⟩

section Answered

variable {store later : EntityStore} {op : EntityOp} {oracle : EntityOracle}

theorem perform_of_performOrFail {value : op.Value}
    (hperform : store.performOrFail op oracle = .ok (later, value)) :
    store.perform op oracle = .ok (later, value) := by
  unfold EntityStore.performOrFail at hperform
  split at hperform
  · cases hperform
  · exact hperform

/-- An answered operation changes the tables as its statement does, if at all. -/
theorem changes_of_answered {answer : Except String op.Value}
    (hanswer : entityMachine.handler store op oracle = some (later, answer)) :
    MigrationChanges store.migrations op answer later.migrations ∧
      BindingChanges store.bindings op answer later.bindings := by
  cases answer with
  | error message =>
    have hsame : later = store := eq_of_thrown hanswer
    exact hsame ▸ ⟨.kept _, .kept _⟩
  | ok value =>
    have hperform := perform_of_performOrFail (perform_of_answered hanswer)
    cases op with
    | insertMigration migration =>
      obtain ⟨migrations, hinsert, heq⟩ := bind_eq_ok hperform
      obtain ⟨rfl, -⟩ := Prod.mk.inj (Except.ok.inj heq)
      obtain ⟨row, hrow⟩ := MigrationTable.insert_eq_ok hinsert
      exact ⟨.inserted hrow, .kept _⟩
    | advance id to_ fields =>
      obtain ⟨migrations, hadvance, heq⟩ := bind_eq_ok hperform
      obtain ⟨rfl, -⟩ := Prod.mk.inj (Except.ok.inj heq)
      obtain ⟨row, written, hfind, hopen, hlink, hwritten, rfl⟩ :=
        MigrationTable.advance_eq_ok hadvance
      exact ⟨.advanced hfind hopen hlink hwritten, .kept _⟩
    | endAssignment id effectiveTo =>
      obtain ⟨bindings, hend, heq⟩ := bind_eq_ok hperform
      obtain ⟨rfl, -⟩ := Prod.mk.inj (Except.ok.inj heq)
      obtain ⟨row, written, hfind, hopen, hwritten, rfl⟩ := BindingTable.end_eq_ok hend
      exact ⟨.kept _, .ended hfind hopen hwritten⟩
    | insertAssignment assignment =>
      obtain ⟨bindings, hinsert, heq⟩ := bind_eq_ok hperform
      obtain ⟨rfl, -⟩ := Prod.mk.inj (Except.ok.inj heq)
      obtain ⟨row, rfl, hrow⟩ := BindingTable.insert_eq_ok hinsert
      exact ⟨.kept _, .inserted hrow⟩
    | authorize _ _ => exact (Prod.mk.inj (Except.ok.inj hperform)).1 ▸ ⟨.kept _, .kept _⟩
    | findEntity _ => exact (Prod.mk.inj (Except.ok.inj hperform)).1 ▸ ⟨.kept _, .kept _⟩
    | findMigration _ => exact (Prod.mk.inj (Except.ok.inj hperform)).1 ▸ ⟨.kept _, .kept _⟩
    | findOpen _ _ => exact (Prod.mk.inj (Except.ok.inj hperform)).1 ▸ ⟨.kept _, .kept _⟩
    | findActiveAt _ _ _ => exact (Prod.mk.inj (Except.ok.inj hperform)).1 ▸ ⟨.kept _, .kept _⟩
    | nextId => exact (Prod.mk.inj (Except.ok.inj hperform)).1 ▸ ⟨.kept _, .kept _⟩
    | record _ => exact (Prod.mk.inj (Except.ok.inj hperform)).1 ▸ ⟨.kept _, .kept _⟩

end Answered

end Karar.OperatingEntity
