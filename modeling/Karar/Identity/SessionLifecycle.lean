import Karar.Identity.PasswordRecovery

/-!
# Session lifecycle

List, revoke and log out; bind a session to a tenant, or replace it by a session bound elsewhere;
disable and enable an account. Binding keeps the tokens of a session. Rebinding revokes the session
and issues another one in a single transaction. Disabling revokes everything, enabling revives
nothing.
-/

namespace Karar.Identity

open SharedKernel

structure SessionInput where
  accountId : UserId
  /-- The session acted on, or the current session of the caller. -/
  sessionId : String
  client : ClientContext
deriving DecidableEq

/-! ### List, revoke, log out -/

structure SessionView where
  sessionId : String
  createdAt : Instant
  lastSeenAt : Instant
  absoluteExpiresAt : Instant
  current : Bool
  userAgentSummary : Option String
  ipDigest : Option String
deriving DecidableEq

namespace ListSessions

/-- Live sessions only, newest first, the caller's own marked `current`. -/
def execute (accountId : UserId) (currentSessionId : String) : UseCase (List SessionView) := do
  let now ← clockNow
  let rows ← sessions (.listSessions accountId)
  return (rows.filter fun session ↦ isSessionLive session now).map fun session ↦
    { sessionId := session.id
      createdAt := session.createdAt
      lastSeenAt := session.lastSeenAt
      absoluteExpiresAt := session.absoluteExpiresAt
      current := session.id == currentSessionId
      userAgentSummary := session.userAgentSummary
      ipDigest := session.ipDigest }

end ListSessions

inductive RevokeSessionError
  | notFound
deriving DecidableEq

namespace RevokeSession

variable (deps : IdentityDependencies)

def execute (input : SessionInput) : UseCase (Except RevokeSessionError Unit) := do
  let now ← clockNow
  let revoked ← sessions (.revokeSession input.accountId input.sessionId .revokedByOwner now)
  if revoked = false then return .error .notFound
  else do
    recordSecurity (some input.accountId) .sessionRevoked input.client.ipDigest
      (some [("sessionId", .text input.sessionId), ("reason", .text "revoked_by_owner")])
    auditOrFail deps
      { action := "identity.session.revoked"
        accountId := input.accountId
        resourceType := "identity_session"
        resourceId := input.sessionId
        outcome := .success }
    return .ok ()

end RevokeSession

namespace RevokeOtherSessions

variable (deps : IdentityDependencies)

def execute (input : SessionInput) : UseCase ℕ := do
  let now ← clockNow
  let revokedCount ← revokeAllSessions input.accountId .revokedOtherSessions now
    (some input.sessionId)
  recordSecurity (some input.accountId) .sessionsRevokedBulk input.client.ipDigest
    (some [("reason", .text "revoked_other_sessions"), ("revokedCount", .number revokedCount)])
  auditOrFail deps
    { action := "identity.sessions.revoked_others"
      accountId := input.accountId
      resourceType := "identity_account"
      resourceId := input.accountId.value
      outcome := .success
      metadata := some [("revokedCount", .number revokedCount)] }
  return revokedCount

end RevokeOtherSessions

namespace Logout

/-- Idempotent: logging out a dead session is still a logout. -/
def execute (input : SessionInput) : UseCase Unit := do
  let now ← clockNow
  let revoked ← sessions (.revokeSession input.accountId input.sessionId .logout now)
  if revoked then
    recordSecurity (some input.accountId) .sessionRevoked input.client.ipDigest
      (some [("sessionId", .text input.sessionId), ("reason", .text "logout")])
  else return ()

end Logout

/-! ### Tenant binding -/

structure BindSessionTenantInput where
  accountId : UserId
  sessionId : String
  tenantId : String
  client : ClientContext
deriving DecidableEq

inductive BindSessionTenantError
  | sessionNotFound
  | alreadyBound (currentBinding : String)
  | bindConflict
deriving DecidableEq

namespace BindSessionTenant

variable (deps : IdentityDependencies)

/-- The claim of an unbound session, and its records. -/
def claim (input : BindSessionTenantInput) (now : Instant) :
    UseCase (Except BindSessionTenantError Unit) := do
  let claimed ← sessions (.setTenantBinding input.accountId input.sessionId input.tenantId now)
  if claimed = false then
    -- The race was lost: bound or revoked between the read and the claim.
    return .error .bindConflict
  else do
    recordSecurity (some input.accountId) .sessionTenantBound input.client.ipDigest
      (some [("sessionId", .text input.sessionId), ("tenantId", .text input.tenantId)])
    auditOrFail deps
      { action := "identity.session.tenant_bound"
        accountId := input.accountId
        resourceType := "identity_session"
        resourceId := input.sessionId
        outcome := .success
        metadata := some [("tenantId", .text input.tenantId)] }
    return .ok ()

def execute (input : BindSessionTenantInput) :
    UseCase (Except BindSessionTenantError Unit) := do
  let now ← clockNow
  match ← sessions (.findSession input.accountId input.sessionId) with
  | none => return .error .sessionNotFound
  | some session =>
    if isSessionLive session now = false then return .error .sessionNotFound
    else
      match session.tenantBinding with
      | some currentBinding => return .error (.alreadyBound currentBinding)
      | none => claim deps input now

end BindSessionTenant

structure RebindSessionTenantInput where
  accountId : UserId
  sessionId : String
  /-- The new binding, or `none` to switch back to an unbound session. -/
  newTenantId : Option String
  client : ClientContext
deriving DecidableEq

inductive RebindSessionTenantError
  | sessionNotFound
  | notBound
  | accountNotActive
  | rebindConflict
deriving DecidableEq

structure SessionTenantRebound where
  session : IssuedSession
  previousBinding : String
  newBinding : Option String
deriving DecidableEq

namespace RebindSessionTenant

variable (deps : IdentityDependencies)

/-- Replace the session by one with the new binding, and record it. -/
def replace (account : IdentityAccount) (previousBinding : String)
    (input : RebindSessionTenantInput) (now : Instant) :
    UseCase (Except RebindSessionTenantError SessionTenantRebound) := do
  let minted ← SessionIssuer.mint deps account input.client input.newTenantId
  let rebound ← sessions (.rebindSession input.accountId input.sessionId .tenantSwitch
    minted.toNewSessionBundle now)
  if rebound = false then
    -- The old session died concurrently: nothing was written.
    return .error .rebindConflict
  else do
    recordSecurity (some input.accountId) .sessionTenantRebound input.client.ipDigest
      (some [("oldSessionId", .text input.sessionId), ("newSessionId", .text minted.session.id),
        ("oldTenantId", .text previousBinding), ("newTenantId", .ofOption input.newTenantId)])
    auditOrFail deps
      { action := "identity.session.tenant_rebound"
        accountId := input.accountId
        resourceType := "identity_session"
        resourceId := minted.session.id
        outcome := .success
        metadata := some [("oldSessionId", .text input.sessionId),
          ("oldTenantId", .text previousBinding), ("newTenantId", .ofOption input.newTenantId)] }
    let issued ← SessionIssuer.issuedFrom deps minted account.tokenVersion
    return .ok
      { session := issued
        previousBinding
        newBinding := input.newTenantId }

def execute (input : RebindSessionTenantInput) :
    UseCase (Except RebindSessionTenantError SessionTenantRebound) := do
  let now ← clockNow
  match ← accounts (.findById input.accountId) with
  | none => return .error .accountNotActive
  | some account =>
    if account.status ≠ .active then return .error .accountNotActive
    else do
      match ← sessions (.findSession input.accountId input.sessionId) with
      | none => return .error .sessionNotFound
      | some session =>
        if isSessionLive session now = false then return .error .sessionNotFound
        else
          match session.tenantBinding with
          | none => return .error .notBound
          | some previousBinding => replace deps account previousBinding input now

end RebindSessionTenant

/-! ### Account administration -/

inductive AccountAdministrationError
  | accountNotFound
deriving DecidableEq

structure DisableAccountInput where
  accountId : UserId
  reason : String
  /-- The acting principal, for the audit row. -/
  actorAccountId : Option UserId
  client : ClientContext
deriving DecidableEq

namespace DisableAccount

variable (deps : IdentityDependencies)

/-- The number of revoked sessions. -/
def execute (input : DisableAccountInput) : UseCase (Except AccountAdministrationError ℕ) := do
  match ← accounts (.findById input.accountId) with
  | none => return .error .accountNotFound
  | some account =>
    let now ← clockNow
    accounts (.setStatus input.accountId .disabled (some input.reason) true now)
    let revokedSessions ← revokeAllSessions input.accountId .accountDisabled now none
    recordSecurity (some input.accountId) .accountDisabled input.client.ipDigest
      (some [("revokedSessions", .number revokedSessions)])
    auditOrFail deps
      { action := "identity.account.disabled"
        accountId := input.actorAccountId
        resourceType := "identity_account"
        resourceId := input.accountId.value
        outcome := .success
        metadata := some [("reason", .text input.reason),
          ("revokedSessions", .number revokedSessions)] }
    surroundings (.notify (.securityNotice account.email .accountDisabled))
    return .ok revokedSessions

end DisableAccount

structure EnableAccountInput where
  accountId : UserId
  actorAccountId : Option UserId
  client : ClientContext
deriving DecidableEq

namespace EnableAccount

variable (deps : IdentityDependencies)

/-- Re-enables login, and revives nothing that was revoked. -/
def execute (input : EnableAccountInput) : UseCase (Except AccountAdministrationError Unit) := do
  match ← accounts (.findById input.accountId) with
  | none => return .error .accountNotFound
  | some _ =>
    let now ← clockNow
    accounts (.setStatus input.accountId .active none true now)
    recordSecurity (some input.accountId) .accountEnabled input.client.ipDigest none
    auditOrFail deps
      { action := "identity.account.enabled"
        accountId := input.actorAccountId
        resourceType := "identity_account"
        resourceId := input.accountId.value
        outcome := .success }
    return .ok ()

end EnableAccount

end Karar.Identity
