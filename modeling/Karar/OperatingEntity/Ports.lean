import Karar.Foundation.Interleaving
import Karar.Foundation.KeyedTable
import Karar.Foundation.Throwing
import Karar.OperatingEntity.Domain

/-!
# The ports of the binding use cases

What the use cases can ask for: a policy decision, the register of entities, the bindings, the
migrations, an id, and the audit trail. Each statement of the repositories is one operation. A port
that fails throws and has changed nothing.

The rows carry the constraints of their migration: a binding has the ids of its scope and a window
that is not empty, a migration has a completion instant where it is terminal and an evaluation where
it is past its proposal. The triggers are the guards of the updates.
-/

namespace Karar.OperatingEntity

open Foundation SharedKernel

/-! ### Bindings -/

/-- The `CHECK` constraints of `operating_entity_assignments`. -/
def OperatingEntityAssignment.Admissible (row : OperatingEntityAssignment) : Prop :=
  row.window.Nonempty ∧ row.createdBy ≠ "" ∧
    match row.scope with
    | .tenantDefault => row.tenantId ≠ none ∧ row.userId = none
    | .userContracting => row.userId ≠ none

instance (row : OperatingEntityAssignment) : Decidable row.Admissible := by
  unfold OperatingEntityAssignment.Admissible
  cases row.scope <;> infer_instance

abbrev BindingRow := {row : OperatingEntityAssignment // row.Admissible}

abbrev BindingRow.id (row : BindingRow) : String := row.1.id

abbrev BindingTable := KeyedTable BindingRow.id BindingRow.id

/-- The part of a subject that a query names. -/
structure SubjectFilter where
  tenantId : Option TenantId := none
  userId : Option UserId := none
deriving DecidableEq

def SubjectFilter.admits (subject : SubjectFilter) (row : OperatingEntityAssignment) : Bool :=
  subject.tenantId.all (row.tenantId = some ·) && subject.userId.all (row.userId = some ·)

def checkViolation (table : String) : String :=
  s!"new row for relation \"{table}\" violates check constraint"

namespace BindingTable

def findOpen (table : BindingTable) (scope : AssignmentScope) (subject : SubjectFilter) :
    List OperatingEntityAssignment :=
  (table.rows.map (·.1)).filter fun row ↦
    row.scope = scope && row.effectiveTo = none && subject.admits row

def findActiveAt (table : BindingTable) (scope : AssignmentScope) (subject : SubjectFilter)
    (at_ : Instant) : List OperatingEntityAssignment :=
  (table.rows.map (·.1)).filter fun row ↦
    row.scope = scope && decide (row.window.Covers at_) && subject.admits row

def insert (table : BindingTable) (entities : List OperatingEntityId)
    (assignment : OperatingEntityAssignment) : Except String BindingTable :=
  if hadmissible : assignment.Admissible then
    if !entities.contains assignment.entityId then .error "Foreign key constraint violated"
    else
      match KeyedTable.insert table ⟨assignment, hadmissible⟩ with
      | some later => .ok later
      | none => .error "Unique constraint failed on the fields: (id)"
  else .error (checkViolation "operating_entity_assignments")

/-- The guard lets an open row be ended, once. -/
def end_ (table : BindingTable) (id : String) (effectiveTo : Instant) :
    Except String BindingTable :=
  match table.find id with
  | none => .error "No record was found for an update"
  | some row =>
    if row.1.effectiveTo ≠ none then
      .error (s!"operating_entity_assignment {id} is ended and immutable; " ++
        "insert a successor assignment instead (ADR-0024)")
    else if hadmissible :
        { row.1 with effectiveTo := some effectiveTo : OperatingEntityAssignment }.Admissible then
      .ok (table.put ⟨_, hadmissible⟩)
    else .error (checkViolation "operating_entity_assignments")

end BindingTable

/-! ### Migrations -/

/-- The `CHECK` constraints of `entity_migrations`. -/
def EntityMigration.Admissible (row : EntityMigration) : Prop :=
  row.subjectRef ≠ "" ∧ row.reason ≠ "" ∧ row.proposedBy ≠ "" ∧ row.fromEntity ≠ row.toEntity ∧
    isTerminalMigrationStatus row.status = row.completedAt.isSome ∧
    (row.status = .proposed ∨ row.reconsentEvaluationId ≠ none)

instance (row : EntityMigration) : Decidable row.Admissible :=
  inferInstanceAs (Decidable (_ ∧ _ ∧ _ ∧ _ ∧ _ ∧ _))

abbrev MigrationRow := {row : EntityMigration // row.Admissible}

abbrev MigrationRow.id (row : MigrationRow) : String := row.1.id

abbrev MigrationTable := KeyedTable MigrationRow.id MigrationRow.id

/-- What an advance writes beside the status. -/
structure AdvanceFields where
  reconsentEvaluationId : Option String := none
  completedAt : Option Instant := none
deriving DecidableEq

/-- A field that is not given keeps its value. -/
def EntityMigration.advanced (row : EntityMigration) (to_ : EntityMigrationStatus)
    (fields : AdvanceFields) : EntityMigration :=
  { row with
    status := to_
    reconsentEvaluationId := fields.reconsentEvaluationId.or row.reconsentEvaluationId
    completedAt := fields.completedAt.or row.completedAt }

namespace MigrationTable

def insert (table : MigrationTable) (entities : List OperatingEntityId)
    (migration : EntityMigration) : Except String MigrationTable :=
  if hadmissible : migration.Admissible then
    if !entities.contains migration.fromEntity || !entities.contains migration.toEntity then
      .error "Foreign key constraint violated"
    else
      match KeyedTable.insert table ⟨migration, hadmissible⟩ with
      | some later => .ok later
      | none => .error "Unique constraint failed on the fields: (id)"
  else .error (checkViolation "entity_migrations")

/-- The guard keeps terminal rows, and the link to an evaluation. It does not look at the status. -/
def advance (table : MigrationTable) (id : String) (to_ : EntityMigrationStatus)
    (fields : AdvanceFields) : Except String MigrationTable :=
  match table.find id with
  | none => .error "No record was found for an update"
  | some row =>
    if isTerminalMigrationStatus row.1.status then
      .error (s!"entity_migration {id} is {row.1.status.name} and immutable " ++
        "(ADR-0024: history is never rewritten)")
    else if row.1.reconsentEvaluationId ≠ none ∧
        (row.1.advanced to_ fields).reconsentEvaluationId ≠ row.1.reconsentEvaluationId then
      .error (s!"entity_migration {id} re-consent evaluation link is immutable once recorded " ++
        "(ADR-0024)")
    else if hadmissible : (row.1.advanced to_ fields).Admissible then
      .ok (table.put ⟨_, hadmissible⟩)
    else .error (checkViolation "entity_migrations")

end MigrationTable

/-! ### Operations -/

structure PolicyPrincipal where
  principalRef : String
  tenantRef : Option String
deriving DecidableEq

structure AuthorizationDenied where
  permission : String
  message : String
deriving DecidableEq

structure AuditAppendFailed where
  message : String
deriving DecidableEq

inductive MetadataValue
  | text (value : String)
  | instant (value : Instant)
  | null
deriving DecidableEq

structure AuditEntry where
  occurredAt : Instant
  actorRef : String
  tenantRef : Option String := none
  action : String
  resourceType : String
  resourceId : String
  reason : Option String := none
  beforeMetadata : List (String × MetadataValue) := []
  afterMetadata : List (String × MetadataValue) := []
deriving DecidableEq

inductive EntityOp
  | authorize (principal : PolicyPrincipal) (permission : String)
  /-- Whether the register has the entity. -/
  | findEntity (id : OperatingEntityId)
  | findMigration (id : String)
  | insertMigration (migration : EntityMigration)
  | advance (id : String) (to_ : EntityMigrationStatus) (fields : AdvanceFields)
  | findOpen (scope : AssignmentScope) (subject : SubjectFilter)
  | endAssignment (id : String) (effectiveTo : Instant)
  | insertAssignment (assignment : OperatingEntityAssignment)
  | findActiveAt (scope : AssignmentScope) (subject : SubjectFilter) (at_ : Instant)
  | nextId
  | record (entry : AuditEntry)
deriving DecidableEq

abbrev EntityOp.Value : EntityOp → Type
  | .authorize _ _ => Except AuthorizationDenied Unit
  | .findEntity _ => Bool
  | .findMigration _ => Option EntityMigration
  | .insertMigration _ => Unit
  | .advance _ _ _ => Unit
  | .findOpen _ _ => List OperatingEntityAssignment
  | .endAssignment _ _ => Unit
  | .insertAssignment _ => Unit
  | .findActiveAt _ _ _ => List OperatingEntityAssignment
  | .nextId => String
  | .record _ => Except AuditAppendFailed Unit

/-- What the code does not decide: whether a port throws, the decision of the policy service, the
next id, and whether the audit trail can be written. -/
structure EntityOracle where
  failure : Option String := none
  denied : Option AuthorizationDenied := none
  id : String := ""
  auditFailure : Option AuditAppendFailed := none

structure EntityStore where
  entities : List OperatingEntityId
  bindings : BindingTable
  migrations : MigrationTable

namespace EntityStore

def exceptOf {Failure : Type} : Option Failure → Except Failure Unit
  | none => .ok ()
  | some failure => .error failure

def perform (store : EntityStore) :
    (op : EntityOp) → EntityOracle → Except String (EntityStore × op.Value)
  | .authorize _ _, oracle => .ok (store, exceptOf oracle.denied)
  | .findEntity id, _ => .ok (store, store.entities.contains id)
  | .findMigration id, _ => .ok (store, (store.migrations.find id).map (·.1))
  | .insertMigration migration, _ => do
    let migrations ← MigrationTable.insert store.migrations store.entities migration
    return ({ store with migrations }, ())
  | .advance id to_ fields, _ => do
    let migrations ← MigrationTable.advance store.migrations id to_ fields
    return ({ store with migrations }, ())
  | .findOpen scope subject, _ => .ok (store, BindingTable.findOpen store.bindings scope subject)
  | .endAssignment id effectiveTo, _ => do
    let bindings ← BindingTable.end_ store.bindings id effectiveTo
    return ({ store with bindings }, ())
  | .insertAssignment assignment, _ => do
    let bindings ← BindingTable.insert store.bindings store.entities assignment
    return ({ store with bindings }, ())
  | .findActiveAt scope subject at_, _ =>
    .ok (store, BindingTable.findActiveAt store.bindings scope subject at_)
  | .nextId, oracle => .ok (store, oracle.id)
  | .record _, oracle => .ok (store, exceptOf oracle.auditFailure)

/-- An operation, where its port does not fail by itself. -/
def performOrFail (store : EntityStore) (op : EntityOp) (oracle : EntityOracle) :
    Except String (EntityStore × op.Value) :=
  match oracle.failure with
  | some message => .error message
  | none => store.perform op oracle

end EntityStore

/-- A part of a use case that throws what is not in a `try` block. -/
abbrev EntityStep := Throwing EntityOp EntityOp.Value

def port (op : EntityOp) : EntityStep op.Value :=
  ask op

end Karar.OperatingEntity
