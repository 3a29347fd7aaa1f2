import Karar.Tenancy.Ports

/-!
# Redeeming and revoking an invitation

The use cases `RedeemInvitation` and `RevokeInvitation`, and the machine that serves any number of
them at the same time. A redeemer is logged in and not yet a member of the inviting tenant: the
tenant comes from the invitation's row, the address from identity. Both use cases turn what a port
throws into a `store_failure`.
-/

namespace Karar.Tenancy

open Foundation SharedKernel

/-! ### Principals -/

/-- Authenticated and bound to a tenant; validated again by every use case. -/
structure PrincipalActor where
  tenantId : String
  userId : String
  requestId : Option String
deriving DecidableEq

/-- Authenticated, not necessarily bound to a tenant. -/
structure RedeemerActor where
  userId : String
  requestId : Option String
deriving DecidableEq

structure Principal where
  tenantId : TenantId
  userId : UserId
  requestId : Option String
deriving DecidableEq

structure Redeemer where
  userId : UserId
  requestId : Option String
deriving DecidableEq

/-- The expected failure shapes, with their messages. -/
inductive InvitationError
  | missingPrincipalContext (message : String)
  | membershipNotFound (message : String)
  | notAuthorized (permission message : String)
  | invitationNotFound (message : String)
  | invitationNotRedeemable (reason : RedemptionDenialReason) (message : String)
  | alreadyMember (message : String)
  | storeFailure (message : String)
deriving DecidableEq

def requirePrincipal (actor : Option PrincipalActor) : Except InvitationError Principal :=
  let denied := .error (.missingPrincipalContext
    "operation requires an authenticated, tenant-bound principal — denied (fail closed, no default principal exists)")
  match actor with
  | none => denied
  | some actor =>
    match TenantId.parse actor.tenantId, UserId.parse actor.userId with
    | some tenantId, some userId => .ok ⟨tenantId, userId, actor.requestId⟩
    | _, _ => denied

def requireRedeemer (actor : Option RedeemerActor) : Except InvitationError Redeemer :=
  let denied := .error (.missingPrincipalContext
    "invitation redemption requires an authenticated principal — denied (the redeemer must be logged in; there is no anonymous redemption)")
  match actor with
  | none => denied
  | some actor =>
    match UserId.parse actor.userId with
    | some userId => .ok ⟨userId, actor.requestId⟩
    | none => denied

/-! ### Redeem -/

/-- The transaction's own settings and role, verified before it writes anything. -/
structure RedemptionPrivilegeEvidence where
  tenantGuc : String
  userGuc : String
  roleName : String
  bypassRls : Bool
  superuser : Bool
deriving DecidableEq

inductive RedemptionOutcome
  | redeemed (membership : TenantMembership) (privilegeEvidence : RedemptionPrivilegeEvidence)
  | alreadyMember
  /-- The one-time update matched nothing. -/
  | lostRace
deriving DecidableEq

structure InvitationRedeemed where
  tenantId : TenantId
  membership : TenantMembership
  privilegeEvidence : RedemptionPrivilegeEvidence
  auditFailure : Option AuditTrailFailure
deriving DecidableEq

namespace InvitationRepository

/-- Fails closed on anything but the narrow redemption context. -/
def verifyNarrowPrivilege (expectedTenant : TenantId) (expectedUser : UserId) :
    Attempt RedemptionPrivilegeEvidence := do
  match ← port .privilegeEvidence with
  | none => throw "privilege evidence probe returned no row"
  | some row =>
    let evidence : RedemptionPrivilegeEvidence :=
      { tenantGuc := row.tenantGuc.getD ""
        userGuc := row.userGuc.getD ""
        roleName := row.roleName
        bypassRls := row.bypassRls
        superuser := row.superuser }
    if evidence.tenantGuc ≠ expectedTenant.value ∨ evidence.userGuc ≠ expectedUser.value ∨
        evidence.bypassRls ∨ evidence.superuser then
      throw s!"redemption must run in the redeemer's own principal context as a restricted role — got tenant='{evidence.tenantGuc}', user='{evidence.userGuc}', role='{evidence.roleName}', bypassrls={evidence.bypassRls}, superuser={evidence.superuser} (legacy RLS-04 guard)"
    else return evidence

def redeem (redeemer : Redeemer) (invitation : TenantInvitation) (occurredAt : Instant) :
    Attempt RedemptionOutcome := do
  let evidence ← verifyNarrowPrivilege invitation.tenantId redeemer.userId
  match ← port (.findMember invitation.tenantId redeemer.userId) with
  | some _ => return .alreadyMember
  | none =>
    match ← port (.commitRedemption invitation redeemer.userId occurredAt) with
    | none => return .lostRace
    | some membership => return .redeemed membership evidence

end InvitationRepository

def isTokenChar (c : Char) : Bool :=
  decide ('A' ≤ c ∧ c ≤ 'Z') || decide ('a' ≤ c ∧ c ≤ 'z') || decide ('0' ≤ c ∧ c ≤ '9') ||
    c = '_' || c = '-'

/-- `TOKEN_SHAPE`. -/
def isTokenShape (token : String) : Bool :=
  decide (20 ≤ token.toList.length ∧ token.toList.length ≤ 128) && token.toList.all isTokenChar

namespace RedeemInvitation

/-- Unknown and malformed tokens answer alike. -/
def notFound : InvitationError :=
  .invitationNotFound "the presented token does not identify an invitation"

def entry (redeemer : Redeemer) (invitation : TenantInvitation) (occurredAt : Instant) :
    AuditTrailEntry where
  occurredAt := occurredAt
  actorRef := "user:" ++ redeemer.userId.value
  tenantRef := "tenant:" ++ invitation.tenantId.value
  action := "tenancy.invitation.redeem"
  resourceType := "tenant_invitation"
  resourceId := invitation.id
  requestId := redeemer.requestId
  outcome := .success

/-- Only a mismatch of the addresses counts as a failed attempt. -/
def countMismatch (tokenHash : String) (occurredAt : Instant) :
    RedemptionDenialReason → Attempt Unit
  | .emailMismatch => do
    let _ ← port (.recordFailedAttempt tokenHash occurredAt)
    return ()
  | _ => return ()

def refuse (redeemer : Redeemer) (tokenHash : String) (invitation : TenantInvitation)
    (occurredAt : Instant) (reason : RedemptionDenialReason) :
    Attempt (Except InvitationError InvitationRedeemed) := do
  countMismatch tokenHash occurredAt reason
  let _ ← port (.record
    { entry redeemer invitation occurredAt with
      reason := reason.text
      outcome := .denied })
  return .error (.invitationNotRedeemable reason
    s!"the invitation cannot be redeemed ({reason.text})")

def commit (redeemer : Redeemer) (invitation : TenantInvitation) (occurredAt : Instant) :
    Attempt (Except InvitationError InvitationRedeemed) := do
  match ← InvitationRepository.redeem redeemer invitation occurredAt with
  | .alreadyMember =>
    return .error (.alreadyMember
      "the authenticated principal is already a member of this tenant")
  | .lostRace =>
    return .error (.invitationNotRedeemable .alreadyRedeemed
      "the invitation was redeemed or closed concurrently")
  | .redeemed membership privilegeEvidence =>
    let audit ← port (.record
      { entry redeemer invitation occurredAt with
        afterMetadata := some [("membershipId", membership.id)] })
    return .ok
      { tenantId := invitation.tenantId
        membership
        privilegeEvidence
        auditFailure := match audit with
          | .ok () => none
          | .error failure => some failure }

def attempt (libraries : TenancyLibraries) (redeemer : Redeemer) (token : String) :
    Attempt (Except InvitationError InvitationRedeemed) := do
  match ← port (.findByTokenHash (libraries.hashOf token)) with
  | none => return .error notFound
  | some invitation =>
    let occurredAt ← port .now
    let email ← port (.verifiedEmailOf redeemer.userId)
    match evaluateRedeemability libraries invitation occurredAt email with
    | .error reason => refuse redeemer (libraries.hashOf token) invitation occurredAt reason
    | .ok () => commit redeemer invitation occurredAt

/-- What the `catch` answers. -/
def thrown (message : String) : Except InvitationError InvitationRedeemed :=
  .error (.storeFailure s!"invitation redemption failed: {message}")

def execute (libraries : TenancyLibraries) (token : String) (actor : Option RedeemerActor) :
    UseCase (Except InvitationError InvitationRedeemed) :=
  match requireRedeemer actor with
  | .error denied => return .error denied
  | .ok redeemer =>
    if isTokenShape token = false then return .error notFound
    else catching (attempt libraries redeemer token) thrown

end RedeemInvitation

/-! ### Revoke -/

structure InvitationRevoked where
  invitation : TenantInvitation
  auditFailure : Option AuditTrailFailure
deriving DecidableEq

namespace RevokeInvitation

def attempt (principal : Principal) (invitationId : String) :
    Attempt (Except InvitationError InvitationRevoked) := do
  match ← port (.findMember principal.tenantId principal.userId) with
  | none => return .error notMember
  | some own =>
    if own.state ≠ .active then return .error notMember
    else do
      let decision ← port (.authorize principal.tenantId principal.userId
        "tenancy.invitation.revoke" invitationId)
      if decision.allowed = false then
        return .error (.notAuthorized "tenancy.invitation.revoke" decision.reason)
      else do
        let occurredAt ← port .now
        match ← port (.revoke principal.tenantId invitationId occurredAt) with
        | none =>
          return .error (.invitationNotFound
            "no open invitation with that id exists in the bound tenant")
        | some revoked =>
          let audit ← port (.record
            { occurredAt
              actorRef := "user:" ++ principal.userId.value
              tenantRef := "tenant:" ++ principal.tenantId.value
              action := "tenancy.invitation.revoked"
              resourceType := "tenant_invitation"
              resourceId := revoked.id
              requestId := principal.requestId
              outcome := .success })
          return .ok
            { invitation := revoked
              auditFailure := match audit with
                | .ok () => none
                | .error failure => some failure }
where
  notMember : InvitationError :=
    .membershipNotFound
      "revoking an invitation requires an active membership in the bound tenant"

/-- What the `catch` answers. -/
def thrown (message : String) : Except InvitationError InvitationRevoked :=
  .error (.storeFailure s!"invitation revocation failed: {message}")

def execute (invitationId : String) (actor : Option PrincipalActor) :
    UseCase (Except InvitationError InvitationRevoked) :=
  match requirePrincipal actor with
  | .error denied => return .error denied
  | .ok principal =>
    catching (attempt principal invitationId) thrown

end RevokeInvitation

/-! ### The machine -/

inductive TenancyRequest
  | redeemInvitation (token : String) (actor : Option RedeemerActor)
  | revokeInvitation (invitationId : String) (actor : Option PrincipalActor)
deriving DecidableEq

inductive TenancyOutcome
  | redeemInvitation (result : Except InvitationError InvitationRedeemed)
  | revokeInvitation (result : Except InvitationError InvitationRevoked)
deriving DecidableEq

def TenancyRequest.program (libraries : TenancyLibraries) :
    TenancyRequest → UseCase TenancyOutcome
  | .redeemInvitation token actor =>
    return .redeemInvitation (← RedeemInvitation.execute libraries token actor)
  | .revokeInvitation invitationId actor =>
    return .revokeInvitation (← RevokeInvitation.execute invitationId actor)

/-- What changes around the calls: the clock, the accounts of identity, and new invitations. -/
inductive TenancyTurn
  | clock (now : Instant)
  | accounts (accounts : Identity.AccountStore)
  | invite (row : InvitationRow)

/-- A new invitation is open and has no failed attempts; one with a taken key is refused. -/
def TenancyStore.turn (store : TenancyStore) : TenancyTurn → TenancyStore
  | .clock clock => { store with clock }
  | .accounts accounts => { store with accounts }
  | .invite row =>
    let fresh : InvitationRow :=
      { row with redeemedAt := none, redeemedBy := none, revokedAt := none, attempts := 0 }
    match store.invitations.insert fresh with
    | some invitations => { store with invitations }
    | none => store

def tenancyMachine (libraries : TenancyLibraries) :
    Machine TenancyOp (fun op ↦ Except String op.Value) TenancyStore TenancyOracle TenancyRequest
      TenancyOutcome TenancyTurn where
  handler := TenancyStore.handle
  program := TenancyRequest.program libraries
  turn := TenancyStore.turn

abbrev TenancyConfiguration :=
  Configuration TenancyOp (fun op ↦ Except String op.Value) TenancyStore TenancyRequest
    TenancyOutcome

abbrev TenancyEvent := Event TenancyOracle TenancyRequest TenancyTurn

abbrev TenancyPerformed := Performed TenancyOp fun op ↦ Except String op.Value

abbrev TenancyOccurrence := Occurrence TenancyOp fun op ↦ Except String op.Value

abbrev TenancyLog := List TenancyPerformed

end Karar.Tenancy
