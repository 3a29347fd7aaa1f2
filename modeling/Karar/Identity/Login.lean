import Karar.Identity.Steps

/-!
# Login

Password authentication, lockout, and the fork to the MFA challenge. Every failure the caller sees
is `invalidCredentials`. A hash under an older parameter set is replaced while the password is in
hand; the account that the session is issued for is the one read at the start.
-/

namespace Karar.Identity

open SharedKernel

/-- One request against a rate-limit budget. -/
def assertWithinLimit (policy : RateLimitPolicy) (key : String) : UseCase Unit := do
  let now ← clockNow
  surroundings (.assertWithinLimit policy key now)

structure LoginInput where
  email : String
  password : String
  client : ClientContext
deriving DecidableEq

inductive LoginSuccess
  | session (session : IssuedSession)
  | mfaRequired (challengeToken : String) (challengeExpiresAt : Instant)
deriving DecidableEq

inductive LoginError
  | invalidCredentials
deriving DecidableEq

namespace Login

variable (deps : IdentityDependencies)

/-- The budget of the address, and that of the client where its address is known. -/
def assertLimits (email : String) : Option String → UseCase Unit
  | none => assertWithinLimit .loginPerAccount (deps.emailKey email)
  | some ipDigest => do
    assertWithinLimit .loginPerAccount (deps.emailKey email)
    assertWithinLimit .loginPerIp (deps.idKey ipDigest)

def isLockedOut (accountId : UserId) (ipDigest : Option String) : UseCase Bool := do
  let now ← clockNow
  let failures ← securityEvents (.countSince
    { accountId
      eventTypes := [.loginFailed]
      ipDigest
      since := now - deps.policy.lockoutWindowMs })
  return decide (deps.policy.lockoutThreshold ≤ failures)

def recordFailure (accountId : UserId) (ipDigest : Option String) (reason : String) :
    UseCase Unit :=
  recordSecurity (some accountId) .loginFailed ipDigest (some [("reason", .text reason)])

/-- Upgrade-on-login: a hash under an older parameter set is replaced now. -/
def upgradePassword (accountId : UserId) (credential : CredentialView) (password : String) :
    UseCase Unit :=
  if deps.needsRehash credential.paramsVersion then do
    let upgraded ← deps.hash password
    let now ← clockNow
    accounts (.replacePassword accountId upgraded.passwordHash upgraded.paramsVersion now)
  else return ()

/-- The MFA fork: an active enrolment gets a challenge, otherwise the session is issued. -/
def complete (account : IdentityAccount) (client : ClientContext) :
    UseCase (Except LoginError LoginSuccess) := do
  let enrolment ← mfa (.getEnrolment account.id)
  if isMfaActive enrolment then do
    let now ← clockNow
    let challenge ← deps.signChallengeToken account.id now
    recordSecurity (some account.id) .mfaChallengeIssued client.ipDigest none
    return .ok (.mfaRequired challenge.token challenge.expiresAt)
  else do
    let session ← SessionIssuer.issue deps account client
    recordSecurity (some account.id) .loginSucceeded client.ipDigest
      (some [("sessionId", .text session.sessionId)])
    auditOrFail deps
      { action := "identity.login.succeeded"
        accountId := account.id
        resourceType := "identity_session"
        resourceId := session.sessionId
        outcome := .success }
    return .ok (.session session)

/-- The password check, the check of the account's status, and what follows a login that passes. -/
def verifyPassword (account : IdentityAccount) (input : LoginInput) :
    UseCase (Except LoginError LoginSuccess) := do
  match ← accounts (.getCredential account.id) with
  | none =>
    IdentityDependencies.dummyVerify
    recordFailure account.id input.client.ipDigest "no_credential"
    return .error .invalidCredentials
  | some credential =>
    if deps.argon2Verify credential.passwordHash input.password = false then do
      recordFailure account.id input.client.ipDigest "wrong_password"
      return .error .invalidCredentials
    -- Disabled is checked after the verification, so that both take the same time.
    else if account.status ≠ .active then do
      recordSecurity (some account.id) .accountDisabledLoginAttempt input.client.ipDigest none
      return .error .invalidCredentials
    else do
      upgradePassword deps account.id credential input.password
      complete deps account input.client

def execute (input : LoginInput) : UseCase (Except LoginError LoginSuccess) := do
  let email := deps.normalizeEmail input.email
  assertLimits deps email input.client.ipDigest
  match ← accounts (.findByEmail email) with
  | none =>
    IdentityDependencies.dummyVerify
    recordSecurity none .loginFailed input.client.ipDigest
      (some [("reason", .text "unknown_account")])
    return .error .invalidCredentials
  | some account =>
    let lockedOut ← isLockedOut deps account.id input.client.ipDigest
    if lockedOut then do
      recordSecurity (some account.id) .loginLocked input.client.ipDigest none
      return .error .invalidCredentials
    else verifyPassword deps account input

end Login

end Karar.Identity
