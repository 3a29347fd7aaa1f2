import Karar.Authorization.PolicyService
import Karar.Foundation.FieldList

/-!
# Granting and revoking roles

The use cases `AssignRole` and `RevokeRole` over the table of assignments. Each takes the actor's
decision from the policy service and then writes one row for the target principal; the table's unique
index and its checks may refuse the write. The calls take from their surroundings what the code does
not decide: the readings of the clock, the new row's id, and which of the ports fail.
-/

namespace Karar.Authorization

open Karar.SharedKernel Karar.Foundation

/-! ### Outcomes -/

/-- The expected failure shapes, with their messages. -/
inductive AuthorizationError
  | invalidActor (message : String)
  | invalidAssignmentInput (message : String)
  | roleNotFound (message : String)
  | roleScopeMismatch (message : String)
  | notAuthorized (permission reason message : String)
  | delegationDenied (message : String)
  | alreadyAssigned (message : String)
  | assignmentNotFound (message : String)
  | storeFailure (message : String)
deriving DecidableEq

/-- `AuditTrailFailure`. -/
structure AuditTrailFailure where
  kind : String
  message : String
deriving DecidableEq

/-- The entries of the audit trail that the use cases write. -/
structure AuditTrailEntry where
  occurredAt : Instant
  actorRef : String
  tenantRef : Option String
  action : String
  resourceId : String
  reason : String
  requestId : Option String
  roleId : String
  scope : String
  outcome : String
deriving DecidableEq

/-- What a use case leaves behind: the table, the audit entries it handed over, and its result. -/
structure RoleOutcome (Value : Type) where
  rows : List RoleAssignment
  entries : List AuditTrailEntry
  result : Except AuthorizationError Value

/-- The surroundings of a call. A failing port gives its message; the audit trail throws, reports a
failure, or writes the entry. -/
structure Surroundings where
  /-- The clock when the policy service decides. -/
  decidedAt : Instant
  /-- The clock when the actor's roles are read for the delegation rule. -/
  rolesReadAt : Instant
  /-- The clock when the row is written. -/
  occurredAt : Instant
  /-- The clock when the audit entry is written. -/
  auditedAt : Instant
  /-- The database's clock. -/
  createdAt : Instant
  newId : String
  decisionStoreFails : Bool
  rolesStoreFailure : Option String
  writeFailure : Option String
  /-- What the database says when a check refuses a row. -/
  checkViolation : String
  audit : Except String (Option AuditTrailFailure)

/-- The assignments the policy service resolves for its decision. -/
def Surroundings.resolve (surroundings : Surroundings) (rows : List RoleAssignment)
    (principal : PolicyActor) : Option (List RoleAssignment) :=
  if surroundings.decisionStoreFails then none
  else some (listOwnActive rows principal surroundings.decidedAt)

/-- The assignments it resolves for the delegation rule. -/
def Surroundings.resolveRoles (surroundings : Surroundings) (rows : List RoleAssignment)
    (principal : PolicyActor) : Except String (List RoleAssignment) :=
  match surroundings.rolesStoreFailure with
  | some message => .error message
  | none => .ok (listOwnActive rows principal surroundings.rolesReadAt)

/-! ### Input -/

/-- `AssignRoleInput`, and `RevokeRoleInput`. -/
structure RoleInput where
  userId : String
  roleId : String
  tenantId : Option String
  reason : String

/-- An input that names a target principal, a catalogue role and a scope, with a reason. -/
structure RoleTarget where
  userId : UserId
  roleId : RoleId
  tenantId : Option TenantId
  reason : String
deriving DecidableEq

/-- `reason.trim()`. -/
def trimmed (reason : String) : String := String.ofList (trim isTrimmed reason.toList)

/-- The validation that both use cases begin with; `what` names the use case in a message. -/
def RoleInput.validate (what : String) (input : RoleInput) : Except AuthorizationError RoleTarget :=
  match UserId.parse input.userId with
  | none => .error (.invalidAssignmentInput "a valid target user id is required")
  | some userId =>
    if isBlank input.reason then
      .error (.invalidAssignmentInput s!"a {what} requires a non-empty reason")
    else
      match RoleId.parse input.roleId with
      | none => .error (.roleNotFound s!"'{input.roleId}' is not a catalogue role")
      | some roleId =>
        match input.tenantId with
        | none => .ok ⟨userId, roleId, none, trimmed input.reason⟩
        | some tenantId =>
          match TenantId.parse tenantId with
          | none =>
            .error (.invalidAssignmentInput "tenantId, when given, must be a valid tenant id")
          | some tenantId => .ok ⟨userId, roleId, some tenantId, trimmed input.reason⟩

/-- The scope as the audit trail records it. -/
def RoleTarget.scope (target : RoleTarget) : String :=
  match target.tenantId with
  | none => "PLATFORM"
  | some tenantId => tenantId.value

/-- The audit entry of a use case. -/
def auditEntry (surroundings : Surroundings) (actor : PolicyActor) (target : RoleTarget)
    (action resourceId reason outcome : String) : AuditTrailEntry where
  occurredAt := surroundings.auditedAt
  actorRef := s!"user:{actor.userId.value}"
  tenantRef := actor.tenantId.map fun tenantId ↦ s!"tenant:{tenantId.value}"
  action := action
  resourceId := resourceId
  reason := reason
  requestId := actor.requestId
  roleId := target.roleId.text
  scope := target.scope
  outcome := outcome

/-! ### Writing the table -/

/-- The target's active row, as the unique index over active rows identifies it. -/
def RoleTarget.activeIn (target : RoleTarget) (row : RoleAssignment) : Bool :=
  row.userId == target.userId && row.roleId == target.roleId && row.tenantId == target.tenantId &&
    row.status == .active

/-- The row that a grant writes. -/
def grantedRow (surroundings : Surroundings) (actor : PolicyActor) (target : RoleTarget) :
    RoleAssignment where
  id := surroundings.newId
  userId := target.userId
  roleId := target.roleId
  tenantId := target.tenantId
  status := .active
  grantedBy := actor.userId
  reason := target.reason
  effectiveFrom := surroundings.occurredAt
  effectiveTo := none
  revokedAt := none
  revokedBy := none
  createdAt := surroundings.createdAt

/-- The row after its revocation. -/
def revokedRow (surroundings : Surroundings) (actor : PolicyActor) (row : RoleAssignment) :
    RoleAssignment :=
  { row with
    status := .revoked
    revokedAt := some surroundings.occurredAt
    revokedBy := some actor.userId
    effectiveTo := some surroundings.occurredAt }

/-- `RevokeRole`'s write: the active row becomes a revoked one, unless the check on its window refuses
that. -/
def revokeActive (surroundings : Surroundings) (rows : List RoleAssignment) (actor : PolicyActor)
    (target : RoleTarget) : Except String (Option RoleAssignment × List RoleAssignment) :=
  match surroundings.writeFailure with
  | some message => .error message
  | none =>
    match rows.find? target.activeIn with
    | none => .ok (none, rows)
    | some row =>
      if row.effectiveFrom < surroundings.occurredAt then
        .ok (some (revokedRow surroundings actor row),
          rows.map fun other ↦
            if other.id = row.id ∧ other.status = .active then revokedRow surroundings actor other
            else other)
      else
        .error surroundings.checkViolation

/-- The grant's write: a failure of the store, the conflict that the unique index reports, or the row
to append. -/
def createAssignment (surroundings : Surroundings) (rows : List RoleAssignment) (actor : PolicyActor)
    (target : RoleTarget) : Except AuthorizationError RoleAssignment :=
  match surroundings.writeFailure with
  | some message => .error (.storeFailure s!"role grant failed: {message}")
  | none =>
    if rows.any target.activeIn then
      .error (.alreadyAssigned "an ACTIVE assignment for this (user, role, scope) already exists")
    else
      .ok (grantedRow surroundings actor target)

/-! ### The use cases -/

/-- The delegation rule: PLATFORM_ADMIN is grantable only by a PLATFORM_ADMIN peer. The error is the
message of a store that fails. -/
def mayDelegate (surroundings : Surroundings) (rows : List RoleAssignment) (actor : PolicyActor)
    (role : RoleId) : Except String Bool :=
  if role = .platformAdmin then
    (applicableRoles (surroundings.resolveRoles rows) surroundings.rolesReadAt (some actor)).map
      fun actorRoles ↦ decide (RoleId.platformAdmin ∈ actorRoles)
  else
    .ok true

/-- `AssignRole.execute`. -/
def assignRole (surroundings : Surroundings) (rows : List RoleAssignment) (input : RoleInput)
    (actor : Option PolicyActor) : RoleOutcome (RoleAssignment × Option AuditTrailFailure) :=
  match requirePolicyActor actor with
  | none =>
    ⟨rows, [], .error (.invalidActor
      "authorization requires an authenticated principal — denied (fail closed, no default principal exists)")⟩
  | some principal =>
    match input.validate "grant" with
    | .error error => ⟨rows, [], .error error⟩
    | .ok target =>
      if roleScopeAdmitsBinding target.roleId.scope target.tenantId.isSome = false then
        ⟨rows, [], .error (.roleScopeMismatch
          (if target.roleId.scope = .tenant then
            s!"role '{target.roleId.text}' is tenant-scoped and requires a tenantId"
          else
            s!"role '{target.roleId.text}' is platform-scoped and must not carry a tenantId"))⟩
      else
        let deniedEntry (reason : String) := auditEntry surroundings principal target
          "authorization.role.grant" s!"{target.userId.value}:{target.roleId.text}" reason "DENIED"
        let failed (message : String) : AuthorizationError :=
          .storeFailure s!"role grant failed: {message}"
        let decision := authorize (surroundings.resolve rows) surroundings.decidedAt (some principal)
          "authorization.role.assign"
        if decision.allowed = false then
          ⟨rows, [deniedEntry decision.reason],
            match surroundings.audit with
            | .error message => .error (failed message)
            | .ok _ =>
              .error (.notAuthorized "authorization.role.assign" decision.reason
                s!"'authorization.role.assign' denied: {decision.reason}")⟩
        else
          match mayDelegate surroundings rows principal target.roleId with
          | .error message => ⟨rows, [], .error (failed message)⟩
          | .ok false =>
            ⟨rows, [deniedEntry "delegation_denied"],
              match surroundings.audit with
              | .error message => .error (failed message)
              | .ok _ =>
                .error (.delegationDenied
                  "PLATFORM_ADMIN is grantable only by a PLATFORM_ADMIN peer — an actor cannot grant authority they do not hold")⟩
          | .ok true =>
            match createAssignment surroundings rows principal target with
            | .error error => ⟨rows, [], .error error⟩
            | .ok row =>
              ⟨rows ++ [row],
                [auditEntry surroundings principal target "authorization.role.granted" row.id
                  target.reason "SUCCESS"],
                match surroundings.audit with
                | .error message => .error (failed message)
                | .ok failure => .ok (row, failure)⟩

/-- `RevokeRole.execute`. -/
def revokeRole (surroundings : Surroundings) (rows : List RoleAssignment) (input : RoleInput)
    (actor : Option PolicyActor) : RoleOutcome (RoleAssignment × Option AuditTrailFailure) :=
  match requirePolicyActor actor with
  | none =>
    ⟨rows, [], .error (.invalidActor
      "authorization requires an authenticated principal — denied (fail closed, no default principal exists)")⟩
  | some principal =>
    match input.validate "revocation" with
    | .error error => ⟨rows, [], .error error⟩
    | .ok target =>
      let failed (message : String) : AuthorizationError :=
        .storeFailure s!"role revocation failed: {message}"
      let decision := authorize (surroundings.resolve rows) surroundings.decidedAt (some principal)
        "authorization.role.revoke"
      if decision.allowed = false then
        ⟨rows, [auditEntry surroundings principal target "authorization.role.revoke"
          s!"{target.userId.value}:{target.roleId.text}" decision.reason "DENIED"],
          match surroundings.audit with
          | .error message => .error (failed message)
          | .ok _ =>
            .error (.notAuthorized "authorization.role.revoke" decision.reason
              s!"'authorization.role.revoke' denied: {decision.reason}")⟩
      else
        match revokeActive surroundings rows principal target with
        | .error message => ⟨rows, [], .error (failed message)⟩
        | .ok (none, rows) =>
          ⟨rows, [], .error (.assignmentNotFound
            "no ACTIVE assignment for that (user, role, scope) exists")⟩
        | .ok (some row, rows) =>
          ⟨rows, [auditEntry surroundings principal target "authorization.role.revoked" row.id
            target.reason "SUCCESS"],
            match surroundings.audit with
            | .error message => .error (failed message)
            | .ok failure => .ok (row, failure)⟩

end Karar.Authorization
