import Karar.Foundation.Interleaving
import Karar.Foundation.Throwing
import Karar.Identity.Stores
import Karar.Tenancy.Domain

/-!
# The ports of the invitation use cases

What redeeming and revoking an invitation can ask for: the clock, the invitations, the memberships,
the verified address of an account, a policy decision, and the audit trail. A statement of the
repositories is one operation. The redeeming update and the insertion of the membership commit
together. A port that fails throws and has changed nothing; the audit trail alone answers with its
failure.
-/

namespace Karar.Tenancy

open Foundation SharedKernel

/-! ### Rows -/

/-- A row of `tenant_invitations`. -/
structure InvitationRow extends TenantInvitation where
  tokenHash : String
deriving DecidableEq

abbrev InvitationTable :=
  KeyedTable (fun row : InvitationRow ↦ row.id) fun row : InvitationRow ↦ row.tokenHash

/-- A row of `tenant_members` is unique for its tenant and user. -/
abbrev MemberTable :=
  KeyedTable TenantMembership.id fun row : TenantMembership ↦ (row.tenantId, row.userId)

def MemberTable.findMember (table : MemberTable) (tenantId : TenantId) (userId : UserId) :
    Option TenantMembership :=
  table.findAlt (tenantId, userId)

namespace InvitationTable

/-- The row that a token identifies. The policies of the table show nothing for an empty hash. -/
def IsIdentifiedBy (tokenHash : String) (row : InvitationRow) : Bool :=
  decide (tokenHash ≠ "") && decide (row.tokenHash = tokenHash)

def findByTokenHash (table : InvitationTable) (tokenHash : String) : Option TenantInvitation :=
  (table.rows.find? (IsIdentifiedBy tokenHash)).map (·.toTenantInvitation)

/-- Count a failed attempt, whatever state the row is in. -/
def recordFailedAttempt (table : InvitationTable) (tokenHash : String) (now : Instant) :
    InvitationTable :=
  table.update (IsIdentifiedBy tokenHash)
    ⟨fun row ↦ { row with attempts := row.attempts + 1, updatedAt := now },
      fun _ ↦ rfl, fun _ ↦ rfl⟩

/-- The `where` of the redeeming update. -/
def IsRedeemable (invitation : TenantInvitation) (occurredAt : Instant) (row : InvitationRow) :
    Bool :=
  row.id = invitation.id && row.tenantId = invitation.tenantId && row.redeemedAt = none &&
    row.revokedAt = none && decide (occurredAt < row.expiresAt)

def markRedeemed (table : InvitationTable) (invitation : TenantInvitation) (userId : UserId)
    (occurredAt : Instant) : InvitationTable :=
  table.update (IsRedeemable invitation occurredAt)
    ⟨fun row ↦
      { row with
        redeemedAt := some occurredAt
        redeemedBy := some userId
        updatedAt := occurredAt },
      fun _ ↦ rfl, fun _ ↦ rfl⟩

/-- The `where` of the revoking update. -/
def IsOpen (tenantId : TenantId) (invitationId : String) (row : InvitationRow) : Bool :=
  row.id = invitationId && row.tenantId = tenantId && row.revokedAt = none && row.redeemedAt = none

def markRevoked (table : InvitationTable) (tenantId : TenantId) (invitationId : String)
    (now : Instant) : InvitationTable :=
  table.update (IsOpen tenantId invitationId)
    ⟨fun row ↦ { row with revokedAt := some now, updatedAt := now }, fun _ ↦ rfl, fun _ ↦ rfl⟩

def findOwn (table : InvitationTable) (tenantId : TenantId) (invitationId : String) :
    Option TenantInvitation :=
  (table.rows.find? fun row ↦ row.id = invitationId && row.tenantId = tenantId).map
    (·.toTenantInvitation)

end InvitationTable

/-! ### Operations -/

/-- What the redemption transaction runs as, read back from the database. -/
structure EvidenceRow where
  tenantGuc : Option String
  userGuc : Option String
  roleName : String
  bypassRls : Bool
  superuser : Bool
deriving DecidableEq

structure PolicyDecision where
  allowed : Bool
  reason : String
deriving DecidableEq

inductive AuditOutcome
  | success
  | denied
deriving DecidableEq

structure AuditTrailEntry where
  occurredAt : Instant
  actorRef : String
  tenantRef : String
  action : String
  resourceType : String
  resourceId : String
  reason : Option String := none
  requestId : Option String
  beforeMetadata : Option (List (String × String)) := none
  afterMetadata : Option (List (String × String)) := none
  outcome : AuditOutcome
deriving DecidableEq

structure AuditTrailFailure where
  kind : String
  message : String
deriving DecidableEq

inductive TenancyOp
  | now
  | findByTokenHash (tokenHash : String)
  | verifiedEmailOf (userId : UserId)
  | recordFailedAttempt (tokenHash : String) (now : Instant)
  | privilegeEvidence
  | findMember (tenantId : TenantId) (userId : UserId)
  /-- The one-time update and the insertion of the membership. -/
  | commitRedemption (invitation : TenantInvitation) (userId : UserId) (occurredAt : Instant)
  | authorize (tenantId : TenantId) (userId : UserId) (permission invitationId : String)
  | revoke (tenantId : TenantId) (invitationId : String) (now : Instant)
  | record (entry : AuditTrailEntry)
deriving DecidableEq

abbrev TenancyOp.Value : TenancyOp → Type
  | .now => Instant
  | .findByTokenHash _ => Option TenantInvitation
  | .verifiedEmailOf _ => Option String
  | .recordFailedAttempt _ _ => Bool
  | .privilegeEvidence => Option EvidenceRow
  | .findMember _ _ => Option TenantMembership
  | .commitRedemption _ _ _ => Option TenantMembership
  | .authorize _ _ _ _ => PolicyDecision
  | .revoke _ _ _ => Option TenantInvitation
  | .record _ => Except AuditTrailFailure Unit

/-- What the code does not decide: whether a port throws, the id of a new row, the role that the
transaction runs as, the decision of the policy service, and whether the audit trail can be
written. -/
structure TenancyOracle where
  failure : Option String := none
  id : String := ""
  evidence : Option EvidenceRow := none
  decision : PolicyDecision := ⟨true, ""⟩
  auditFailure : Option AuditTrailFailure := none

structure TenancyStore where
  invitations : InvitationTable
  members : MemberTable
  accounts : Identity.AccountStore
  clock : Instant

namespace TenancyStore

/-- `verifiedEmailOf`, as the composition root answers it from the accounts. -/
def verifiedEmailOf (store : TenancyStore) (userId : UserId) : Option String :=
  (store.accounts.findById userId).bind fun account ↦
    if account.emailVerifiedAt.isSome then some account.email else none

/-- The row that a redemption inserts. -/
def newMembership (id : String) (invitation : TenantInvitation) (userId : UserId)
    (occurredAt : Instant) : TenantMembership where
  id := id
  tenantId := invitation.tenantId
  userId := userId
  roleHint := invitation.roleHint
  state := .active
  effectiveFrom := occurredAt
  effectiveTo := none
  createdAt := occurredAt
  updatedAt := occurredAt

/-- The update that matches nothing commits nothing; a refused insertion rolls the update back. -/
def commitRedemption (store : TenancyStore) (invitation : TenantInvitation) (userId : UserId)
    (occurredAt : Instant) (id : String) :
    Except String (TenancyStore × Option TenantMembership) :=
  if store.invitations.count (InvitationTable.IsRedeemable invitation occurredAt) = 0 then
    .ok (store, none)
  else
    match store.members.insert (newMembership id invitation userId occurredAt) with
    | none => .error "Unique constraint failed"
    | some members =>
      .ok
        ({ store with
            invitations := InvitationTable.markRedeemed store.invitations invitation userId
              occurredAt
            members },
          some (newMembership id invitation userId occurredAt))

def revoke (store : TenancyStore) (tenantId : TenantId) (invitationId : String) (now : Instant) :
    TenancyStore × Option TenantInvitation :=
  if store.invitations.count (InvitationTable.IsOpen tenantId invitationId) = 0 then (store, none)
  else
    let invitations := InvitationTable.markRevoked store.invitations tenantId invitationId now
    ({ store with invitations }, InvitationTable.findOwn invitations tenantId invitationId)

def recordFailedAttempt (store : TenancyStore) (tokenHash : String) (now : Instant) :
    TenancyStore × Bool :=
  ({ store with
      invitations := InvitationTable.recordFailedAttempt store.invitations tokenHash now },
    decide (0 < store.invitations.count (InvitationTable.IsIdentifiedBy tokenHash)))

/-- An operation of a port that answers. -/
def answer (store : TenancyStore) : (op : TenancyOp) → TenancyOracle →
    Except String (TenancyStore × op.Value)
  | .now, _ => .ok (store, store.clock)
  | .findByTokenHash tokenHash, _ =>
    .ok (store, InvitationTable.findByTokenHash store.invitations tokenHash)
  | .verifiedEmailOf userId, _ => .ok (store, store.verifiedEmailOf userId)
  | .recordFailedAttempt tokenHash now, _ => .ok (store.recordFailedAttempt tokenHash now)
  | .privilegeEvidence, oracle => .ok (store, oracle.evidence)
  | .findMember tenantId userId, _ =>
    .ok (store, MemberTable.findMember store.members tenantId userId)
  | .commitRedemption invitation userId occurredAt, oracle =>
    store.commitRedemption invitation userId occurredAt oracle.id
  | .authorize _ _ _ _, oracle => .ok (store, oracle.decision)
  | .revoke tenantId invitationId now, _ => .ok (store.revoke tenantId invitationId now)
  | .record _, oracle =>
    .ok (store, match oracle.auditFailure with
      | some failure => .error failure
      | none => .ok ())

/-- Neither the clock nor the audit trail throws. -/
def canThrow : TenancyOp → Bool
  | .now => false
  | .record _ => false
  | _ => true

/-- An operation throws where its port fails. -/
def perform (store : TenancyStore) (op : TenancyOp) (oracle : TenancyOracle) :
    Except String (TenancyStore × op.Value) :=
  match oracle.failure with
  | none => store.answer op oracle
  | some message => if canThrow op then .error message else store.answer op oracle

def handle : Handler TenancyOp (fun op ↦ Except String op.Value) TenancyStore TenancyOracle :=
  throwingHandler perform

end TenancyStore

/-- A use case, as the program of its port calls. -/
abbrev UseCase := Program TenancyOp fun op ↦ Except String op.Value

/-- The part of a use case inside its `try`. -/
abbrev Attempt := Throwing TenancyOp TenancyOp.Value

/-- A call of a port. -/
abbrev port (op : TenancyOp) : Attempt op.Value := ask op

end Karar.Tenancy
