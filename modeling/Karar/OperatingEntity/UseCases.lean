import Karar.OperatingEntity.Ports

/-!
# Binding and migrating

The use cases that propose, evaluate and advance a migration, that set a binding, and that resolve the
entity in effect; and the machine that serves any number of them at the same time. Every status an
advance writes is checked against the status that was read, in a statement of its own before.
-/

namespace Karar.OperatingEntity

open Foundation SharedKernel

/-- The expected failures of the use cases. -/
inductive EntityError
  | authorizationDenied (denied : AuthorizationDenied)
  | notFound (resource id : String)
  | invalidTransition (from_ to_ : EntityMigrationStatus) (message : String)
  | storeFailure (message : String)
  | auditAppendFailed (failure : AuditAppendFailed)
deriving DecidableEq

/-- `ENTITY_PERMISSIONS`. -/
def manageEntity : String := "entity.entity.manage"

def approveMigration : String := "entity.migration.approve"

/-- A blank value throws. -/
def requireNonEmpty (field value : String) : EntityStep String :=
  if isBlank value then throw s!"'{field}' requires a non-empty value" else return value

/-- A `try` block whose `catch` returns a `STORE_FAILURE`. -/
def tried {Result : Type} (body : EntityStep Result) : EntityStep (Except EntityError Result) :=
  trying .storeFailure body

/-- Appends the entry, and returns the result where that goes well. -/
def audited {Result : Type} (entry : AuditEntry) (result : Result) :
    EntityStep (Except EntityError Result) := do
  match ← port (.record entry) with
  | .ok () => return .ok result
  | .error failure => return .error (.auditAppendFailed failure)

/-! ### Propose -/

namespace ProposeEntityMigration

structure Input where
  principal : PolicyPrincipal
  scope : AssignmentScope
  subjectRef : String
  fromEntity : OperatingEntityId
  toEntity : OperatingEntityId
  reason : String
  now : Instant
deriving DecidableEq

def Input.migration (input : Input) (id subjectRef reason : String) : EntityMigration where
  id := id
  scope := input.scope
  subjectRef := subjectRef
  fromEntity := input.fromEntity
  toEntity := input.toEntity
  status := .proposed
  reason := reason
  reconsentEvaluationId := none
  proposedBy := input.principal.principalRef
  proposedAt := input.now
  completedAt := none

def entry (input : Input) (migration : EntityMigration) : AuditEntry where
  occurredAt := input.now
  actorRef := input.principal.principalRef
  action := "entity.migration.proposed"
  resourceType := "entity_migration"
  resourceId := migration.id
  reason := some migration.reason
  afterMetadata :=
    [("scope", .text migration.scope.name), ("subjectRef", .text migration.subjectRef),
      ("fromEntity", .text migration.fromEntity), ("toEntity", .text migration.toEntity),
      ("status", .text migration.status.name)]

/-- The first of the entities that the register does not have. -/
def firstUnknown : List OperatingEntityId → EntityStep (Option OperatingEntityId)
  | [] => return none
  | entityId :: rest => do
    if ← port (.findEntity entityId) then firstUnknown rest else return some entityId

def execute (input : Input) : EntityStep (Except EntityError EntityMigration) := do
  if input.fromEntity = input.toEntity then
    throw "an entity migration requires two distinct entities"
  else
    match ← port (.authorize input.principal approveMigration) with
    | .error denied => return .error (.authorizationDenied denied)
    | .ok () =>
      match ← tried (firstUnknown [input.fromEntity, input.toEntity]) with
      | .error failure => return .error failure
      | .ok (some entityId) => return .error (.notFound "operating_entity" entityId)
      | .ok none =>
        let id ← port .nextId
        let subjectRef ← requireNonEmpty "subjectRef" input.subjectRef
        let reason ← requireNonEmpty "reason" input.reason
        let migration := input.migration id subjectRef reason
        match ← tried (port (.insertMigration migration)) with
        | .error failure => return .error failure
        | .ok () => audited (entry input migration) migration

end ProposeEntityMigration

/-! ### Record an evaluation -/

namespace RecordMigrationReconsentEvaluation

structure Input where
  principal : PolicyPrincipal
  migrationId : String
  reconsentEvaluationId : String
  now : Instant
deriving DecidableEq

def entry (input : Input) (status : EntityMigrationStatus) : AuditEntry where
  occurredAt := input.now
  actorRef := input.principal.principalRef
  action := "entity.migration.reconsent_evaluated"
  resourceType := "entity_migration"
  resourceId := input.migrationId
  beforeMetadata := [("status", .text status.name)]
  afterMetadata :=
    [("status", .text "RECONSENT_EVALUATED"),
      ("reconsentEvaluationId", .text input.reconsentEvaluationId)]

def refusal (migration : EntityMigration) : EntityError :=
  .invalidTransition migration.status .reconsentEvaluated
    (s!"entity migration {migration.id} cannot record an evaluation from status " ++
      migration.status.name)

/-- From the migration as read on. -/
def recordOn (input : Input) (migration : EntityMigration) :
    EntityStep (Except EntityError Unit) := do
  if !migrationTransitionAllowed migration.status .reconsentEvaluated then
    return .error (refusal migration)
  else
    match ← tried (port (.advance input.migrationId .reconsentEvaluated
      { reconsentEvaluationId := some input.reconsentEvaluationId })) with
    | .error failure => return .error failure
    | .ok () => audited (entry input migration.status) ()

def execute (input : Input) : EntityStep (Except EntityError Unit) := do
  let _ ← requireNonEmpty "reconsentEvaluationId" input.reconsentEvaluationId
  match ← port (.authorize input.principal approveMigration) with
  | .error denied => return .error (.authorizationDenied denied)
  | .ok () =>
    match ← tried (port (.findMigration input.migrationId)) with
    | .error failure => return .error failure
    | .ok none => return .error (.notFound "entity_migration" input.migrationId)
    | .ok (some migration) => recordOn input migration

end RecordMigrationReconsentEvaluation

/-! ### Advance -/

namespace AdvanceEntityMigration

/-- `'AWAITING_ACCEPTANCE' | 'MIGRATED' | 'BLOCKED'`. -/
inductive Target
  | awaitingAcceptance
  | migrated
  | blocked
deriving DecidableEq

def Target.status : Target → EntityMigrationStatus
  | .awaitingAcceptance => .awaitingAcceptance
  | .migrated => .migrated
  | .blocked => .blocked

def Target.action : Target → String
  | .migrated => "entity.migration.completed"
  | .blocked => "entity.migration.blocked"
  | .awaitingAcceptance => "entity.migration.awaiting_acceptance"

structure Input where
  principal : PolicyPrincipal
  migrationId : String
  to_ : Target
  reason : String
  now : Instant
deriving DecidableEq

def entry (input : Input) (status : EntityMigrationStatus) : AuditEntry where
  occurredAt := input.now
  actorRef := input.principal.principalRef
  action := input.to_.action
  resourceType := "entity_migration"
  resourceId := input.migrationId
  reason := some input.reason
  beforeMetadata := [("status", .text status.name)]
  afterMetadata := [("status", .text input.to_.status.name)]

def refusal (input : Input) (migration : EntityMigration) : EntityError :=
  .invalidTransition migration.status input.to_.status
    (s!"entity migration {migration.id} cannot move {migration.status.name} -> " ++
      input.to_.status.name)

/-- A terminal status takes the completion instant with it. -/
def fields (input : Input) : AdvanceFields :=
  if input.to_ = .migrated || input.to_ = .blocked then { completedAt := some input.now } else {}

/-- From the migration as read on. -/
def advanceFrom (input : Input) (migration : EntityMigration) :
    EntityStep (Except EntityError Unit) := do
  if !migrationTransitionAllowed migration.status input.to_.status then
    return .error (refusal input migration)
  else
    match ← tried (port (.advance input.migrationId input.to_.status (fields input))) with
    | .error failure => return .error failure
    | .ok () => audited (entry input migration.status) ()

def execute (input : Input) : EntityStep (Except EntityError Unit) := do
  let _ ← requireNonEmpty "reason" input.reason
  match ← port (.authorize input.principal approveMigration) with
  | .error denied => return .error (.authorizationDenied denied)
  | .ok () =>
    match ← tried (port (.findMigration input.migrationId)) with
    | .error failure => return .error failure
    | .ok none => return .error (.notFound "entity_migration" input.migrationId)
    | .ok (some migration) => advanceFrom input migration

end AdvanceEntityMigration

/-! ### Set a binding -/

namespace SetAssignmentBase

structure SetAssignmentParams where
  principal : PolicyPrincipal
  scope : AssignmentScope
  tenantId : Option TenantId
  userId : Option UserId
  entityId : OperatingEntityId
  effectiveFrom : Instant
  now : Instant
deriving DecidableEq

/-- A `null` id is not part of the query. -/
def SetAssignmentParams.subject (params : SetAssignmentParams) : SubjectFilter :=
  ⟨params.tenantId, params.userId⟩

def SetAssignmentParams.assignment (params : SetAssignmentParams) (id : String) :
    OperatingEntityAssignment where
  id := id
  scope := params.scope
  tenantId := params.tenantId
  userId := params.userId
  entityId := params.entityId
  effectiveFrom := params.effectiveFrom
  effectiveTo := none
  createdBy := params.principal.principalRef
  createdAt := params.now

def endedAssignments (endedIds : List String) : MetadataValue :=
  if ",".intercalate endedIds = "" then .null else .text (",".intercalate endedIds)

def entry (params : SetAssignmentParams) (assignmentId : String) (endedIds : List String) :
    AuditEntry where
  occurredAt := params.now
  actorRef := params.principal.principalRef
  tenantRef := params.tenantId.map (·.value)
  action := "entity.assignment.set"
  resourceType := "operating_entity_assignment"
  resourceId := assignmentId
  beforeMetadata := [("endedAssignments", endedAssignments endedIds)]
  afterMetadata :=
    [("scope", .text params.scope.name), ("entityId", .text params.entityId),
      ("userId", params.userId.elim .null (.text ·.value)),
      ("effectiveFrom", .instant params.effectiveFrom)]

/-- Ends assignments one after another. -/
def endAll (effectiveTo : Instant) : List String → EntityStep Unit
  | [] => return ()
  | id :: rest => do
    port (.endAssignment id effectiveTo)
    endAll effectiveTo rest

/-- Ends the open assignments, and inserts the successor. -/
def supersede (params : SetAssignmentParams) (assignment : OperatingEntityAssignment) :
    EntityStep (List String) := do
  let open_ ← port (.findOpen params.scope params.subject)
  endAll params.effectiveFrom (open_.map (·.id))
  port (.insertAssignment assignment)
  return open_.map (·.id)

def set (params : SetAssignmentParams) :
    EntityStep (Except EntityError OperatingEntityAssignment) := do
  match ← port (.authorize params.principal manageEntity) with
  | .error denied => return .error (.authorizationDenied denied)
  | .ok () =>
    match ← tried (port (.findEntity params.entityId)) with
    | .error failure => return .error failure
    | .ok false => return .error (.notFound "operating_entity" params.entityId)
    | .ok true =>
      let id ← port .nextId
      let assignment := params.assignment id
      match ← tried (supersede params assignment) with
      | .error failure => return .error failure
      | .ok endedIds => audited (entry params assignment.id endedIds) assignment

end SetAssignmentBase

structure SetTenantDefaultEntity.Input where
  principal : PolicyPrincipal
  tenantId : TenantId
  entityId : OperatingEntityId
  effectiveFrom : Instant
  now : Instant
deriving DecidableEq

def SetTenantDefaultEntity.execute (input : SetTenantDefaultEntity.Input) :
    EntityStep (Except EntityError OperatingEntityAssignment) :=
  SetAssignmentBase.set
    { principal := input.principal
      scope := .tenantDefault
      tenantId := some input.tenantId
      userId := none
      entityId := input.entityId
      effectiveFrom := input.effectiveFrom
      now := input.now }

structure SetUserContractingEntity.Input where
  principal : PolicyPrincipal
  userId : UserId
  tenantId : Option TenantId
  entityId : OperatingEntityId
  effectiveFrom : Instant
  now : Instant
deriving DecidableEq

def SetUserContractingEntity.execute (input : SetUserContractingEntity.Input) :
    EntityStep (Except EntityError OperatingEntityAssignment) :=
  SetAssignmentBase.set
    { principal := input.principal
      scope := .userContracting
      tenantId := input.tenantId
      userId := some input.userId
      entityId := input.entityId
      effectiveFrom := input.effectiveFrom
      now := input.now }

/-! ### Resolve -/

namespace ResolveEffectiveOperatingEntity

structure Input where
  tenantId : TenantId
  userId : Option UserId
  at_ : Instant
deriving DecidableEq

structure EffectiveOperatingEntity where
  entityId : OperatingEntityId
  /-- Which binding produced the resolution. -/
  scope : AssignmentScope
  assignmentId : String
deriving DecidableEq

inductive ResolveEffectiveEntityError
  | noEffectiveEntity (message : String)
  | storeFailure (message : String)
deriving DecidableEq

def effective (scope : AssignmentScope) (latest : OperatingEntityAssignment) :
    EffectiveOperatingEntity :=
  ⟨latest.entityId, scope, latest.id⟩

def noEffectiveEntity : ResolveEffectiveEntityError :=
  .noEffectiveEntity
    "no operating entity is bound for this principal; consent and contracting fail closed"

/-- The tenant's default. -/
def tenantDefault (input : Input) :
    EntityStep (Except ResolveEffectiveEntityError EffectiveOperatingEntity) := do
  let defaults ←
    port (.findActiveAt .tenantDefault { tenantId := some input.tenantId } input.at_)
  match newest defaults with
  | some latest => return .ok (effective .tenantDefault latest)
  | none => return .error noEffectiveEntity

def resolve (input : Input) :
    EntityStep (Except ResolveEffectiveEntityError EffectiveOperatingEntity) := do
  match input.userId with
  | none => tenantDefault input
  | some userId =>
    let contracting ← port (.findActiveAt .userContracting { userId := some userId } input.at_)
    match newest contracting with
    | some latest => return .ok (effective .userContracting latest)
    | none => tenantDefault input

def execute (input : Input) :
    EntityStep (Except ResolveEffectiveEntityError EffectiveOperatingEntity) := do
  match ← trying ResolveEffectiveEntityError.storeFailure (resolve input) with
  | .ok result => return result
  | .error failure => return .error failure

end ResolveEffectiveOperatingEntity

/-! ### The machine -/

inductive EntityRequest
  | propose (input : ProposeEntityMigration.Input)
  | recordEvaluation (input : RecordMigrationReconsentEvaluation.Input)
  | advance (input : AdvanceEntityMigration.Input)
  | setTenantDefault (input : SetTenantDefaultEntity.Input)
  | setUserContracting (input : SetUserContractingEntity.Input)
  | resolve (input : ResolveEffectiveOperatingEntity.Input)
deriving DecidableEq

inductive EntityOutcome
  | propose (result : Except EntityError EntityMigration)
  | recordEvaluation (result : Except EntityError Unit)
  | advance (result : Except EntityError Unit)
  | set (result : Except EntityError OperatingEntityAssignment)
  | resolve (result : Except ResolveEffectiveOperatingEntity.ResolveEffectiveEntityError
      ResolveEffectiveOperatingEntity.EffectiveOperatingEntity)
deriving DecidableEq

def EntityRequest.execute : EntityRequest → EntityStep EntityOutcome
  | .propose input => return .propose (← ProposeEntityMigration.execute input)
  | .recordEvaluation input =>
    return .recordEvaluation (← RecordMigrationReconsentEvaluation.execute input)
  | .advance input => return .advance (← AdvanceEntityMigration.execute input)
  | .setTenantDefault input => return .set (← SetTenantDefaultEntity.execute input)
  | .setUserContracting input => return .set (← SetUserContractingEntity.execute input)
  | .resolve input => return .resolve (← ResolveEffectiveOperatingEntity.execute input)

/-- Entities are registered by use cases that are not modelled, and never removed. -/
def entityMachine :
    Machine EntityOp (fun op ↦ Except String op.Value) EntityStore EntityOracle EntityRequest
      (Except String EntityOutcome) OperatingEntityId where
  handler := throwingHandler EntityStore.performOrFail
  program request := request.execute.run
  turn store entityId := { store with entities := entityId :: store.entities }

abbrev EntityConfiguration :=
  Configuration EntityOp (fun op ↦ Except String op.Value) EntityStore EntityRequest
    (Except String EntityOutcome)

abbrev EntityEvent := Event EntityOracle EntityRequest OperatingEntityId

abbrev EntityPerformed := Performed EntityOp fun op ↦ Except String op.Value

end Karar.OperatingEntity
