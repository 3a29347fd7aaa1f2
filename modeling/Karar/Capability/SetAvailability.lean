import Karar.Capability.AvailabilityTable
import Karar.Foundation.Interleaving
import Karar.Foundation.Throwing

/-!
# `SetCapabilityAvailability`

The one writer of the availability rows, and the machine that serves any number of its calls at the same
time over the table.
-/

namespace Karar.Capability

open Foundation SharedKernel

/-! ### Ports -/

structure PolicyPrincipal where
  principalRef : String
  tenantRef : Option String
deriving DecidableEq

structure AuthorizationDenied where
  permission : String
  message : String
deriving DecidableEq

inductive SetOp
  | authorize (principal : PolicyPrincipal) (permission : String)
  | findExact (environment : String) (scopeRef : Option String) (capabilityId : String)
  | nextId
  | insert (record : CapabilityAvailabilityRecord) (at_ : Instant)
  | updateState (id : String) (expectedVersion : Int) (change : StateChange)
  | record (entry : AuditEntry)
deriving DecidableEq

abbrev SetOp.Value : SetOp → Type
  | .authorize _ _ => Except AuthorizationDenied Unit
  | .findExact _ _ _ => Option CapabilityAvailabilityRecord
  | .nextId => String
  | .insert _ _ => Unit
  | .updateState _ _ _ => UpdateResult
  | .record _ => Except AuditAppendFailed Unit

/-- What the code does not decide: whether a port throws, the decision of the policy service, the next id,
the clock of the database, and whether the audit trail can be written. -/
structure SetOracle where
  failure : Option String := none
  denied : Option AuthorizationDenied := none
  id : String := ""
  clock : Instant := 0
  auditFailure : Option AuditAppendFailed := none

namespace AvailabilityTable

def exceptOf {Failure : Type} : Option Failure → Except Failure Unit
  | none => .ok ()
  | some failure => .error failure

def perform (table : AvailabilityTable) :
    (op : SetOp) → SetOracle → Except String (AvailabilityTable × op.Value)
  | .authorize _ _, oracle => .ok (table, exceptOf oracle.denied)
  | .findExact environment scopeRef capabilityId, _ =>
    .ok (table, (findExact table.entries environment scopeRef capabilityId).map (·.1))
  | .nextId, oracle => .ok (table, oracle.id)
  | .insert record at_, _ => do return (← table.insert record at_, ())
  | .updateState id expectedVersion change, oracle =>
    table.updateState id expectedVersion change oracle.clock
  | .record _, oracle => .ok (table, exceptOf oracle.auditFailure)

/-- An operation, where its port does not fail by itself. -/
def performOrFail (table : AvailabilityTable) (op : SetOp) (oracle : SetOracle) :
    Except String (AvailabilityTable × op.Value) :=
  match oracle.failure with
  | some message => .error message
  | none => table.perform op oracle

end AvailabilityTable

abbrev SetStep := Throwing SetOp SetOp.Value

def setPort (op : SetOp) : SetStep op.Value :=
  ask op

/-! ### The use case -/

structure SetInput where
  principal : PolicyPrincipal
  environment : String
  jurisdictionRef : Option String
  capabilityId : String
  state : AvailabilityState
  reason : String
  expectedVersion : Option Int
  now : Instant
deriving DecidableEq

/-- The expected failures. -/
inductive SetError
  | authorizationDenied (denied : AuthorizationDenied)
  | unknownCapability (capabilityId : String)
  | aboveCeiling (capabilityId message : String)
  | alreadyExists (id message : String)
  | versionConflict (id : String) (expectedVersion : Int)
  | storeFailure (message : String)
  | auditAppendFailed (failure : AuditAppendFailed)
deriving DecidableEq

namespace SetCapabilityAvailability

/-- `CAPABILITY_PERMISSIONS.manageAvailability`. -/
def manageAvailability : String := "capability.availability.manage"

/-- A blank value throws. -/
def requireNonEmpty (field value : String) : SetStep Unit :=
  if isBlank value then throw s!"{field} must be a non-empty string" else return ()

def requireEnvironment (environment : String) : SetStep Unit :=
  if isKararEnvironment environment then return ()
  else throw s!"'{environment}' is not a known environment"

def requireScope : Option String → SetStep Unit
  | none => return ()
  | some scopeRef => requireNonEmpty "jurisdictionRef" scopeRef

/-- `descriptorFor`: only the ids of the view count. -/
def descriptorFor (registry : CapabilityRegistryView) (capabilityId : String) :
    Option CapabilityDescriptor :=
  if registry.ids.contains capabilityId then registry.descriptor capabilityId else none

/-- Why an allowing state would exceed what the code can do. -/
def ceilingBreachFor (descriptor : CapabilityDescriptor) (environment : String)
    (scopeRef : Option String) : Option String :=
  if descriptor.implementation ≠ .implemented then
    some (s!"capability '{descriptor.id}' is NOT_IMPLEMENTED — an allowing availability state " ++
      "cannot be configured for missing code")
  else if descriptor.deployment.lookup environment ≠ some .deployed then
    some (s!"capability '{descriptor.id}' is not DEPLOYED in '{environment}' — an allowing " ++
      "availability state cannot precede deployment")
  else
    match scopeRef with
    | none => none
    | some scopeRef =>
      if descriptor.declaredJurisdictions.contains scopeRef then none
      else
        some (s!"capability '{descriptor.id}' does not declare '{scopeRef}' — an allowing " ++
          "availability state cannot exceed the declared jurisdictions")

/-- The breach of a request: a restrictive state needs no clearance. -/
def breachOf (input : SetInput) (descriptor : CapabilityDescriptor) : Option String :=
  if isAllowingState input.state then
    ceilingBreachFor descriptor input.environment input.jurisdictionRef
  else none

def scopeName (scopeRef : Option String) : String :=
  scopeRef.getD "*"

def deniedEntry (input : SetInput) (breach : String) : AuditEntry where
  occurredAt := input.now
  actorRef := input.principal.principalRef
  tenantRef := input.principal.tenantRef
  action := "capability.availability.set"
  resourceType := "capability_availability"
  resourceId := s!"{input.environment}:{scopeName input.jurisdictionRef}:{input.capabilityId}"
  outcome := .denied
  reason := breach
  afterMetadata :=
    [("requestedState", .text input.state.name), ("capabilityId", .text input.capabilityId)]

def changeEntry (input : SetInput) (before : Option CapabilityAvailabilityRecord)
    (after : CapabilityAvailabilityRecord) : AuditEntry where
  occurredAt := input.now
  actorRef := input.principal.principalRef
  tenantRef := input.principal.tenantRef
  action := "capability.availability.set"
  resourceType := "capability_availability"
  resourceId := after.id
  outcome := .success
  reason := input.reason
  beforeMetadata :=
    match before with
    | none => []
    | some before => [("state", .text before.state.name), ("version", .number before.version)]
  afterMetadata :=
    [("capabilityId", .text after.capabilityId), ("environment", .text after.environment),
      ("state", .text after.state.name), ("version", .number after.version)]

/-- `recordChange`, and the answer after it. -/
def recordChange (input : SetInput) (before : Option CapabilityAvailabilityRecord)
    (after : CapabilityAvailabilityRecord) :
    SetStep (Except SetError CapabilityAvailabilityRecord) := do
  match ← setPort (.record (changeEntry input before after)) with
  | .ok () => return .ok after
  | .error failure => return .error (.auditAppendFailed failure)

def tried {Result : Type} (body : SetStep Result) : SetStep (Except SetError Result) :=
  trying .storeFailure body

def newRecord (input : SetInput) (id : String) : CapabilityAvailabilityRecord where
  id := id
  environment := input.environment
  jurisdictionRef := input.jurisdictionRef
  capabilityId := input.capabilityId
  state := input.state
  reason := input.reason
  actorRef := input.principal.principalRef
  version := 1

/-- There is no row for the triple. -/
def create (input : SetInput) : SetStep (Except SetError CapabilityAvailabilityRecord) := do
  let id ← setPort .nextId
  match ← tried (setPort (.insert (newRecord input id) input.now)) with
  | .error failure => return .error failure
  | .ok () => recordChange input none (newRecord input id)

def changeOf (input : SetInput) : StateChange :=
  ⟨input.state, input.reason, input.principal.principalRef⟩

def changedRecord (input : SetInput) (existing : CapabilityAvailabilityRecord)
    (expectedVersion : Int) : CapabilityAvailabilityRecord :=
  { existing with
    state := input.state
    reason := input.reason
    actorRef := input.principal.principalRef
    version := expectedVersion + 1 }

def alreadyExists (input : SetInput) (existing : CapabilityAvailabilityRecord) : SetError :=
  .alreadyExists existing.id
    (s!"a row for ({input.environment}, {scopeName input.jurisdictionRef}, {input.capabilityId}) " ++
      s!"already exists at version {existing.version}; pass expectedVersion to change it")

/-- There is a row for the triple. -/
def change (input : SetInput) (existing : CapabilityAvailabilityRecord) :
    SetStep (Except SetError CapabilityAvailabilityRecord) := do
  match input.expectedVersion with
  | none => return .error (alreadyExists input existing)
  | some expectedVersion =>
    match ← tried (setPort (.updateState existing.id expectedVersion (changeOf input))) with
    | .error failure => return .error failure
    | .ok .versionConflict => return .error (.versionConflict existing.id expectedVersion)
    | .ok .updated =>
      recordChange input (some existing) (changedRecord input existing expectedVersion)

/-- From the ceiling on. -/
def write (input : SetInput) : SetStep (Except SetError CapabilityAvailabilityRecord) := do
  match ← tried (setPort (.findExact input.environment input.jurisdictionRef input.capabilityId)) with
  | .error failure => return .error failure
  | .ok none => create input
  | .ok (some existing) => change input existing

/-- A refusal at the ceiling is audited itself. -/
def refuse (input : SetInput) (breach : String) :
    SetStep (Except SetError CapabilityAvailabilityRecord) := do
  match ← setPort (.record (deniedEntry input breach)) with
  | .error failure => return .error (.auditAppendFailed failure)
  | .ok () => return .error (.aboveCeiling input.capabilityId breach)

def execute (registry : CapabilityRegistryView) (input : SetInput) :
    SetStep (Except SetError CapabilityAvailabilityRecord) := do
  match ← setPort (.authorize input.principal manageAvailability) with
  | .error denied => return .error (.authorizationDenied denied)
  | .ok () =>
    requireNonEmpty "reason" input.reason
    requireEnvironment input.environment
    requireScope input.jurisdictionRef
    match descriptorFor registry input.capabilityId with
    | none => return .error (.unknownCapability input.capabilityId)
    | some descriptor =>
      match breachOf input descriptor with
      | some breach => refuse input breach
      | none => write input

end SetCapabilityAvailability

/-! ### The machine -/

/-- Nothing else writes the table. -/
def availabilityMachine (registry : CapabilityRegistryView) :
    Machine SetOp (fun op ↦ Except String op.Value) AvailabilityTable SetOracle SetInput
      (Except String (Except SetError CapabilityAvailabilityRecord)) Empty where
  handler := throwingHandler AvailabilityTable.performOrFail
  program input := (SetCapabilityAvailability.execute registry input).run
  turn table _ := table

abbrev SetEvent := Event SetOracle SetInput Empty

abbrev SetPerformed := Performed SetOp fun op ↦ Except String op.Value

end Karar.Capability
