import Karar.TenantBinding.Ports

/-!
# Resolving and switching the tenant of a session

The use cases of tenancy. `ResolveTenantContext` goes from the caller's own active memberships to a
binding decision. `SwitchTenant` moves a bound session: it verifies the target, has identity replace
the session, verifies again, and revokes the replacement if the membership is gone or the switch
cannot be recorded. Both turn what a port throws into a `store_failure`.
-/

namespace Karar.TenantBinding

open Foundation SharedKernel Tenancy

/-! ### Principals and errors -/

/-- Authenticated, not necessarily bound; validated again by every use case. -/
structure AuthenticatedActor where
  userId : String
  sessionId : Option String
  requestId : Option String
deriving DecidableEq

structure Authenticated where
  userId : UserId
  sessionId : Option String
  requestId : Option String
deriving DecidableEq

structure SessionActor where
  userId : UserId
  sessionId : String
  requestId : Option String
deriving DecidableEq

/-- The expected failure shapes, with their messages. -/
inductive TenantContextError
  | missingPrincipalContext (message : String)
  | membershipNotFound (message : String)
  | bindingFailed (message : String)
  | membershipRevokedConcurrently (message : String)
  | storeFailure (message : String)
deriving DecidableEq

def requireAuthenticated (actor : Option AuthenticatedActor) :
    Except TenantContextError Authenticated :=
  let denied := .error (.missingPrincipalContext
    "operation requires an authenticated principal — denied (fail closed, no default principal exists)")
  match actor with
  | none => denied
  | some actor =>
    match UserId.parse actor.userId with
    | some userId => .ok ⟨userId, actor.sessionId, actor.requestId⟩
    | none => denied

def requireSessionActor (actor : Option AuthenticatedActor) :
    Except TenantContextError SessionActor := do
  let authenticated ← requireAuthenticated actor
  match authenticated.sessionId with
  | some sessionId =>
    if sessionId = "" then .error noSession
    else .ok ⟨authenticated.userId, sessionId, authenticated.requestId⟩
  | none => .error noSession
where
  noSession : TenantContextError := .missingPrincipalContext
    "session-binding operations require the authenticated session identity — denied (fail closed)"

/-! ### Resolve -/

/-- A selectable tenant, safe fields only. -/
structure TenantChoice where
  tenantId : String
  name : String
  roleHint : String
deriving DecidableEq

inductive TenantContextResolution
  | unbound
  | autoBind (tenantId : TenantId) (choice : TenantChoice)
  | tenantSelectionRequired (choices : List TenantChoice)
deriving DecidableEq

namespace ResolveTenantContext

/-- The memberships whose tenant can be resolved and is active, with what is shown of them. -/
def choices (userId : UserId) : List TenantMembership → Attempt (List (TenantId × TenantChoice))
  | [] => return []
  | membership :: rest => do
    match ← port (.findForMember userId membership.tenantId) with
    | none => choices userId rest
    | some tenant =>
      if tenant.status ≠ .active then choices userId rest
      else do
        let others ← choices userId rest
        return (membership.tenantId,
          ⟨membership.tenantId.value, tenant.name, membership.roleHint⟩) :: others

def resolutionOf : List (TenantId × TenantChoice) → TenantContextResolution
  | [] => .unbound
  | [(tenantId, choice)] => .autoBind tenantId choice
  | choices => .tenantSelectionRequired (choices.map Prod.snd)

def attempt (actor : Authenticated) :
    Attempt (Except TenantContextError TenantContextResolution) := do
  let now ← port .now
  let own ← port (.listOwnAcrossTenants actor.userId)
  let found ← choices actor.userId (own.filter fun membership ↦ membershipActiveAt membership now)
  return .ok (resolutionOf found)

/-- What the `catch` answers. -/
def thrown (message : String) : Except TenantContextError TenantContextResolution :=
  .error (.storeFailure s!"tenant-context resolution failed: {message}")

def execute (actor : Option AuthenticatedActor) :
    UseCase (Except TenantContextError TenantContextResolution) :=
  match requireAuthenticated actor with
  | .error denied => return .error denied
  | .ok authenticated => catching (attempt authenticated) thrown

end ResolveTenantContext

/-! ### Switch -/

structure SwitchTenantInput where
  /-- Verified against the caller's own memberships. -/
  targetTenantId : String
  client : Identity.ClientContext
deriving DecidableEq

structure TenantSwitched where
  session : Identity.IssuedSession
  previousTenantId : Option String
  tenantId : String
deriving DecidableEq

/-- The name of a refusal of identity. -/
def rebindErrorKind : Identity.RebindSessionTenantError → String
  | .sessionNotFound => "session_not_found"
  | .notBound => "not_bound"
  | .accountNotActive => "account_not_active"
  | .rebindConflict => "rebind_conflict"

namespace SwitchTenant

variable (deps : Identity.IdentityDependencies)

/-- The caller's own active membership, and the tenant's active row. -/
def verifyTarget (userId : UserId) (target : TenantId) : Attempt Bool := do
  match ← port (.findOwnInTenant userId target) with
  | none => return false
  | some membership =>
    let now ← port .now
    if membershipActiveAt membership now = false then return false
    else do
      match ← port (.findForMember userId target) with
      | none => return false
      | some tenant => return decide (tenant.status = .active)

def entry (caller : SessionActor) (target : TenantId) (occurredAt : Instant) : AuditTrailEntry where
  occurredAt := occurredAt
  actorRef := "user:" ++ caller.userId.value
  tenantRef := "tenant:" ++ target.value
  action := "tenancy.tenant.switch"
  resourceType := "tenant_membership"
  resourceId := target.value
  requestId := caller.requestId
  outcome := .success

def revoke (caller : SessionActor) (sessionId : String) (client : Identity.ClientContext) :
    Attempt (Except Identity.RevokeSessionError Unit) :=
  identity (Identity.RevokeSession.execute deps ⟨caller.userId, sessionId, client⟩)

/-- The membership is gone: revoke the replacement, and record the denial. -/
def compensate (caller : SessionActor) (target : TenantId) (client : Identity.ClientContext)
    (session : Identity.IssuedSession) : Attempt (Except TenantContextError TenantSwitched) := do
  let _ ← revoke deps caller session.sessionId client
  let occurredAt ← port .now
  match ← port (.record
    { entry caller target occurredAt with
      reason := some "membership_revoked_concurrently"
      outcome := .denied }) with
  | .error failure =>
    return .error (.storeFailure
      s!"the switch was denied and the replacement session revoked, but the accountability record could not be written ({failure.kind})")
  | .ok () =>
    return .error (.membershipRevokedConcurrently
      "the target membership was revoked while the switch was in flight; the replacement session was revoked — sign in again")

/-- Record the switch, and undo it if it cannot be recorded. -/
def settle (caller : SessionActor) (target : TenantId) (client : Identity.ClientContext)
    (rebound : Identity.SessionTenantRebound) :
    Attempt (Except TenantContextError TenantSwitched) := do
  let occurredAt ← port .now
  match ← port (.record
    { entry caller target occurredAt with
      beforeMetadata := some [("tenantId", rebound.previousBinding)]
      afterMetadata := some [("tenantId", target.value)] }) with
  | .error failure =>
    let _ ← revoke deps caller rebound.session.sessionId client
    return .error (.storeFailure
      s!"the switch could not be recorded ({failure.kind}); the replacement session was revoked — sign in again")
  | .ok () =>
    return .ok
      { session := rebound.session
        previousTenantId := some rebound.previousBinding
        tenantId := target.value }

def attempt (caller : SessionActor) (target : TenantId) (client : Identity.ClientContext) :
    Attempt (Except TenantContextError TenantSwitched) := do
  let verified ← verifyTarget caller.userId target
  if verified = false then return .error notAMember
  else do
    match ← identity (Identity.RebindSessionTenant.execute deps
      ⟨caller.userId, caller.sessionId, some target.value, client⟩) with
    | .error refusal =>
      return .error (.bindingFailed s!"the session could not be rebound ({rebindErrorKind refusal})")
    | .ok rebound =>
      let stillMember ← verifyTarget caller.userId target
      if stillMember = false then compensate deps caller target client rebound.session
      else settle deps caller target client rebound
where
  notAMember : TenantContextError := .membershipNotFound
    "the principal holds no active membership in the requested tenant"

/-- What the `catch` answers. -/
def thrown (message : String) : Except TenantContextError TenantSwitched :=
  .error (.storeFailure s!"tenant switch failed: {message}")

def execute (input : SwitchTenantInput) (actor : Option AuthenticatedActor) :
    UseCase (Except TenantContextError TenantSwitched) :=
  match requireSessionActor actor with
  | .error denied => return .error denied
  | .ok caller =>
    match TenantId.parse input.targetTenantId with
    -- Malformed ids answer like unknown tenants.
    | none => return .error attempt.notAMember
    | some target => catching (attempt deps caller target input.client) thrown

end SwitchTenant

end Karar.TenantBinding
