import Karar.Jurisdiction.Ports

/-!
# Assigning, ending and declaring

The use cases `AssignUserJurisdiction`, `EndUserJurisdictionAssignment` and
`DeclareOwnJurisdiction`, and the machine that serves any number of them at the same time. Assigning
supersedes: the open rows are ended at the start of the new one, which is then inserted, in two
transactions.
-/

namespace Karar.Jurisdiction

open Foundation SharedKernel

inductive DeclarationRefusalReason
  | jurisdictionNotDeclarable
  | verifiedAssignmentExists
deriving DecidableEq

/-- The expected failures of the use cases. -/
inductive AssignmentError
  | authorizationDenied (denied : AuthorizationDenied)
  | unknownJurisdiction (code : String)
  | verificationSourceMismatch (source : AssignmentSource)
      (verificationStatus : VerificationStatus) (message : String)
  | declarationNotPermitted (reason : DeclarationRefusalReason) (message : String)
  | notFound (resource id : String)
  | storeFailure (message : String)
  | auditAppendFailed (failure : AuditAppendFailed)
deriving DecidableEq

/-- `JURISDICTION_PERMISSIONS.manageAssignment`. -/
def manageAssignment : String := "jurisdiction.assignment.manage"

/-- A blank value throws. -/
def requireNonEmpty (field value : String) : AssignmentStep String :=
  if isBlank value then throw s!"'{field}' requires a non-empty value" else return value

/-- A `try` block whose `catch` returns a `STORE_FAILURE`. -/
def tried {Result : Type} (body : AssignmentStep Result) :
    AssignmentStep (Except AssignmentError Result) :=
  trying .storeFailure body

/-- Ends the open rows of the principal. -/
def endOpen (principal : UserAssignmentPrincipal) (endsAt : Instant) :
    AssignmentStep (List String) := do
  let ids ← port (.findOpen principal)
  if ids ≠ [] then port (.endRows principal ids endsAt)
  return ids

/-- Ends the open rows at the start of a new one, and inserts it. -/
def supersede (principal : UserAssignmentPrincipal) (assignment : UserJurisdictionAssignment) :
    AssignmentStep (List String) := do
  let endedIds ← endOpen principal assignment.effectiveFrom
  port (.insert principal assignment)
  return endedIds

/-- `endedIds.join(',')`, or `none` in words. -/
def supersededIds (endedIds : List String) : String :=
  if ",".intercalate endedIds = "" then "none" else ",".intercalate endedIds

/-! ### Assign -/

namespace AssignUserJurisdiction

structure Input where
  principal : PolicyPrincipal
  userId : UserId
  tenantId : TenantId
  jurisdictionCode : String
  source : AssignmentSource
  verificationStatus : VerificationStatus
  effectiveFrom : Instant
  reason : String
  now : Instant
deriving DecidableEq

def Input.target (input : Input) : UserAssignmentPrincipal := ⟨input.tenantId, input.userId⟩

def Input.assignment (input : Input) (code id reason : String) : UserJurisdictionAssignment where
  id := id
  userId := input.userId
  tenantId := input.tenantId
  jurisdictionCode := code
  source := input.source
  verificationStatus := input.verificationStatus
  effectiveFrom := input.effectiveFrom
  effectiveTo := none
  reason := reason
  assignedBy := input.principal.principalRef
  createdAt := input.now

def mismatch (input : Input) : AssignmentError :=
  .verificationSourceMismatch input.source input.verificationStatus
    (s!"source {input.source.name} cannot carry verification status " ++
      s!"{input.verificationStatus.name} — a self-declaration is never verified by itself, " ++
      "and a provider verification is what VERIFIED means")

def entry (input : Input) (assignment : UserJurisdictionAssignment) (endedIds : List String) :
    AuditEntry where
  occurredAt := input.now
  actorRef := input.principal.principalRef
  tenantRef := some input.tenantId.value
  action := "jurisdiction.user_assignment.recorded"
  resourceType := "user_jurisdiction_assignment"
  resourceId := assignment.id
  reason := some assignment.reason
  afterMetadata :=
    [("userId", .text input.userId.value),
      ("jurisdictionCode", .text assignment.jurisdictionCode),
      ("source", .text assignment.source.name),
      ("verificationStatus", .text assignment.verificationStatus.name),
      ("supersededAssignmentIds", .text (supersededIds endedIds))]

/-- From a register entry on. -/
def commit (input : Input) (register : JurisdictionRecord) :
    AssignmentStep (Except AssignmentError UserJurisdictionAssignment) := do
  let id ← port .nextId
  let reason ← requireNonEmpty "reason" input.reason
  let assignment := input.assignment register.code id reason
  match ← tried (supersede input.target assignment) with
  | .error failure => return .error failure
  | .ok endedIds =>
    match ← port (.record (entry input assignment endedIds)) with
    | .ok () => return .ok assignment
    | .error failure => return .error (.auditAppendFailed failure)

def execute (input : Input) :
    AssignmentStep (Except AssignmentError UserJurisdictionAssignment) := do
  match ← port (.authorize input.principal manageAssignment) with
  | .error denied => return .error (.authorizationDenied denied)
  | .ok () =>
    if !verificationPermittedForSource input.source input.verificationStatus then
      return .error (mismatch input)
    else
      match ← tried (port (.findJurisdiction input.jurisdictionCode)) with
      | .error failure => return .error failure
      | .ok none => return .error (.unknownJurisdiction input.jurisdictionCode)
      | .ok (some register) => commit input register

end AssignUserJurisdiction

/-! ### End -/

namespace EndUserJurisdictionAssignment

structure Input where
  principal : PolicyPrincipal
  userId : UserId
  tenantId : TenantId
  endsAt : Instant
  reason : String
  now : Instant
deriving DecidableEq

def Input.target (input : Input) : UserAssignmentPrincipal := ⟨input.tenantId, input.userId⟩

def entry (input : Input) (endedIds : List String) : AuditEntry where
  occurredAt := input.now
  actorRef := input.principal.principalRef
  tenantRef := some input.tenantId.value
  action := "jurisdiction.user_assignment.ended"
  resourceType := "user_jurisdiction_assignment"
  resourceId := ",".intercalate endedIds
  reason := some input.reason
  afterMetadata := [("userId", .text input.userId.value), ("endsAt", .instant input.endsAt)]

def execute (input : Input) : AssignmentStep (Except AssignmentError (List String)) := do
  match ← port (.authorize input.principal manageAssignment) with
  | .error denied => return .error (.authorizationDenied denied)
  | .ok () =>
    let _ ← requireNonEmpty "reason" input.reason
    match ← tried (endOpen input.target input.endsAt) with
    | .error failure => return .error failure
    | .ok endedIds =>
      if endedIds = [] then
        return .error (.notFound "user_jurisdiction_assignment"
          s!"open assignment for user {input.userId.value}")
      else
        match ← port (.record (entry input endedIds)) with
        | .ok () => return .ok endedIds
        | .error failure => return .error (.auditAppendFailed failure)

end EndUserJurisdictionAssignment

/-! ### Declare -/

namespace DeclareOwnJurisdiction

structure Input where
  /-- The authenticated caller, and the target. -/
  principal : UserAssignmentPrincipal
  jurisdictionCode : String
  now : Instant
deriving DecidableEq

structure DeclaredJurisdiction where
  assignment : UserJurisdictionAssignment
  /-- False where the caller declared again what was already in effect. -/
  recorded : Bool
deriving DecidableEq

def DECLARED_REASON : String :=
  "subject self-declaration during onboarding; unverified by construction — verification is a separate provider-sourced assignment"

def Input.assignment (input : Input) (code id : String) : UserJurisdictionAssignment where
  id := id
  userId := input.principal.userId
  tenantId := input.principal.tenantId
  jurisdictionCode := code
  source := .userDeclared
  verificationStatus := .unverified
  effectiveFrom := input.now
  effectiveTo := none
  reason := DECLARED_REASON
  assignedBy := s!"user:{input.principal.userId.value}"
  createdAt := input.now

def verifiedExists : AssignmentError :=
  .declarationNotPermitted .verifiedAssignmentExists
    "a verified jurisdiction assignment is in effect; a self-declaration never supersedes one — changing it is a provider or operator action"

def entry (input : Input) (assignment : UserJurisdictionAssignment) (endedIds : List String) :
    AuditEntry where
  occurredAt := input.now
  actorRef := assignment.assignedBy
  tenantRef := some input.principal.tenantId.value
  action := "jurisdiction.user_assignment.self_declared"
  resourceType := "user_jurisdiction_assignment"
  resourceId := assignment.id
  reason := some assignment.reason
  afterMetadata :=
    [("jurisdictionCode", .text assignment.jurisdictionCode),
      ("source", .text assignment.source.name),
      ("verificationStatus", .text assignment.verificationStatus.name),
      ("supersededAssignmentIds", .text (supersededIds endedIds))]

/-- From the state in effect on, where it is not a verified one. -/
def commit (input : Input) (register : JurisdictionRecord) :
    AssignmentStep (Except AssignmentError DeclaredJurisdiction) := do
  let id ← port .nextId
  let assignment := input.assignment register.code id
  match ← tried (supersede input.principal assignment) with
  | .error failure => return .error failure
  | .ok endedIds =>
    match ← port (.record (entry input assignment endedIds)) with
    | .ok () => return .ok ⟨assignment, true⟩
    | .error failure => return .error (.auditAppendFailed failure)

/-- What the state in effect decides. -/
def decideOn (input : Input) (register : JurisdictionRecord) :
    EffectiveJurisdictionState → AssignmentStep (Except AssignmentError DeclaredJurisdiction)
  | .verified _ => return .error verifiedExists
  | .unverified assignment =>
    if assignment.jurisdictionCode = register.code then return .ok ⟨assignment, false⟩
    else commit input register
  | .none => commit input register

def execute (input : Input) : AssignmentStep (Except AssignmentError DeclaredJurisdiction) := do
  match ← tried (port (.findJurisdiction input.jurisdictionCode)) with
  | .error failure => return .error failure
  | .ok none => return .error (.unknownJurisdiction input.jurisdictionCode)
  | .ok (some register) =>
    match declarabilityRefusalAt register input.now with
    | some refusal =>
      return .error (.declarationNotPermitted .jurisdictionNotDeclarable refusal.message)
    | none =>
      match ← tried (port (.listForPrincipal input.principal)) with
      | .error failure => return .error failure
      | .ok existing =>
        decideOn input register (effectiveJurisdictionState existing input.now)

end DeclareOwnJurisdiction

/-! ### The machine -/

inductive AssignmentRequest
  | assign (input : AssignUserJurisdiction.Input)
  | endAssignment (input : EndUserJurisdictionAssignment.Input)
  | declare (input : DeclareOwnJurisdiction.Input)
deriving DecidableEq

inductive AssignmentOutcome
  | assign (result : Except AssignmentError UserJurisdictionAssignment)
  | endAssignment (result : Except AssignmentError (List String))
  | declare (result : Except AssignmentError DeclareOwnJurisdiction.DeclaredJurisdiction)
deriving DecidableEq

def AssignmentRequest.execute : AssignmentRequest → AssignmentStep AssignmentOutcome
  | .assign input => return .assign (← AssignUserJurisdiction.execute input)
  | .endAssignment input => return .endAssignment (← EndUserJurisdictionAssignment.execute input)
  | .declare input => return .declare (← DeclareOwnJurisdiction.execute input)

/-- The register changes by migrations only. -/
def assignmentMachine :
    Machine AssignmentOp (fun op ↦ Except String op.Value) AssignmentStore AssignmentOracle
      AssignmentRequest (Except String AssignmentOutcome) (List JurisdictionRecord) where
  handler := throwingHandler AssignmentStore.performOrFail
  program request := request.execute.run
  turn store register := { store with register }

abbrev AssignmentConfiguration :=
  Configuration AssignmentOp (fun op ↦ Except String op.Value) AssignmentStore AssignmentRequest
    (Except String AssignmentOutcome)

abbrev AssignmentEvent := Event AssignmentOracle AssignmentRequest (List JurisdictionRecord)

abbrev AssignmentPerformed := Performed AssignmentOp fun op ↦ Except String op.Value

end Karar.Jurisdiction
