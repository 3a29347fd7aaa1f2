import Karar.Identity.Mfa

/-!
# Refreshing and authenticating

`RefreshSession` rotates a refresh token once; a token presented again is taken as evidence of theft
and ends its family and its session. `AuthenticateRequest` re-reads the account and the session for
every request.
-/

namespace Karar.Identity

open SharedKernel

/-! ### Refresh -/

structure RefreshSessionInput where
  refreshToken : String
  client : ClientContext
deriving DecidableEq

structure RefreshedSession where
  accessToken : String
  accessTokenExpiresAt : Instant
  /-- The successor token. -/
  refreshToken : String
  refreshTokenExpiresAt : Instant
  sessionId : String
deriving DecidableEq

inductive RefreshSessionError
  | invalidToken
  | reuseDetected
deriving DecidableEq

structure PresentedRefreshToken where
  token : RefreshTokenRecord
  family : RefreshTokenFamily
  session : Session
deriving DecidableEq

/-- `findByTokenHash`: the session is read under the account that the family names. -/
def findByTokenHash (tokenHash : String) : UseCase (Option PresentedRefreshToken) := do
  match ← sessions (.findTokenAndFamily tokenHash) with
  | none => return none
  | some (token, family) =>
    match ← sessions (.findSession family.accountId family.sessionId) with
    | none => return none
    | some session => return some { token, family, session }

namespace RefreshSession

variable (deps : IdentityDependencies)

/-- End the family and the session of a token that was presented again. -/
def onReuseDetected (accountId : UserId) (familyId sessionId : String) (client : ClientContext) :
    UseCase (Except RefreshSessionError RefreshedSession) := do
  let now ← clockNow
  sessions (.revokeFamilyAndSession accountId familyId sessionId .refreshReuseDetected now)
  recordSecurity (some accountId) .refreshReuseDetected client.ipDigest
    (some [("familyId", .text familyId), ("sessionId", .text sessionId)])
  noticeOwner accountId .refreshReuseDetected
  return .error .reuseDetected

/-- Mint the successor, claim the presented token, and sign an access token. -/
def rotate (presented : PresentedRefreshToken) (account : IdentityAccount) (now : Instant)
    (client : ClientContext) : UseCase (Except RefreshSessionError RefreshedSession) := do
  let accountId := presented.family.accountId
  let rawSuccessor ← random .refreshToken
  let successorId ← random .id
  let successor : RefreshTokenRecord := {
    id := successorId
    familyId := presented.family.id
    tokenHash := deps.refreshTokenDigest rawSuccessor
    createdAt := now
    expiresAt := SessionIssuer.refreshExpiry deps now presented.session.absoluteExpiresAt
    usedAt := none
    supersededBy := none }
  let claimed ← sessions (.rotateToken accountId presented.token.id successor now)
  if claimed = false then
    -- The race was lost to a concurrent presentation of the same token.
    onReuseDetected accountId presented.family.id presented.session.id client
  else do
    sessions (.touchSession accountId presented.session.id now (SessionIssuer.idleExpiry deps now))
    let access ← SessionIssuer.accessTokenFor deps accountId presented.session.id
      account.tokenVersion
    return .ok
      { accessToken := access.token
        accessTokenExpiresAt := access.expiresAt
        refreshToken := rawSuccessor
        refreshTokenExpiresAt := successor.expiresAt
        sessionId := presented.session.id }

/-- The checks of a presented token, in the order of the source: reuse before any liveness. -/
def judge (presented : PresentedRefreshToken) (now : Instant) (client : ClientContext) :
    UseCase (Except RefreshSessionError RefreshedSession) := do
  if presented.token.usedAt.isSome || presented.token.supersededBy.isSome then
    onReuseDetected presented.family.accountId presented.family.id presented.session.id client
  else if presented.family.revokedAt.isSome then return .error .invalidToken
  else if presented.token.expiresAt ≤ now then return .error .invalidToken
  else if isSessionLive presented.session now = false then return .error .invalidToken
  else do
    match ← accounts (.findById presented.family.accountId) with
    | none => return .error .invalidToken
    | some account =>
      if account.status ≠ .active then return .error .invalidToken
      else rotate deps presented account now client

def execute (input : RefreshSessionInput) :
    UseCase (Except RefreshSessionError RefreshedSession) := do
  let tokenHash := deps.refreshTokenDigest input.refreshToken
  assertWithinLimit .refresh (deps.idKey tokenHash)
  match ← findByTokenHash tokenHash with
  | none => return .error .invalidToken
  | some presented =>
    let now ← clockNow
    judge deps presented now input.client

end RefreshSession

/-! ### Authenticate -/

structure AuthenticatedPrincipal where
  accountId : UserId
  sessionId : String
  tenantBinding : Option String
  email : String
  emailVerified : Bool
  mfaRequired : Bool
deriving DecidableEq

inductive AuthenticateRequestError
  | unauthenticated
deriving DecidableEq

namespace AuthenticateRequest

variable (deps : IdentityDependencies)

/-- The account and the session as the database has them now. -/
def authenticate (claims : AccessTokenClaims) (now : Instant) :
    UseCase (Except AuthenticateRequestError AuthenticatedPrincipal) := do
  match ← accounts (.findById claims.accountId) with
  | none => return .error .unauthenticated
  | some account =>
    if account.status ≠ .active then return .error .unauthenticated
    -- A bumped version makes every earlier access token stale.
    else if account.tokenVersion ≠ claims.tokenVersion then return .error .unauthenticated
    else do
      match ← sessions (.findSession claims.accountId claims.sessionId) with
      | none => return .error .unauthenticated
      | some session =>
        if isSessionLive session now = false then return .error .unauthenticated
        else do
          sessions (.touchSession claims.accountId session.id now
            (SessionIssuer.idleExpiry deps now))
          return .ok
            { accountId := claims.accountId
              sessionId := session.id
              tenantBinding := session.tenantBinding
              email := account.email
              emailVerified := account.emailVerifiedAt.isSome
              mfaRequired := account.mfaRequired }

def execute (accessToken : String) :
    UseCase (Except AuthenticateRequestError AuthenticatedPrincipal) := do
  let now ← clockNow
  match deps.verifyAccessToken accessToken now with
  | .error _ => return .error .unauthenticated
  | .ok claims => authenticate deps claims now

end AuthenticateRequest

end Karar.Identity
