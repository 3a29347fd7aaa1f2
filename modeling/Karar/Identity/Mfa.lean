import Karar.Identity.Login

/-!
# Multi-factor authentication

Enrol, confirm, complete a login by a challenge, disable. Each of the use cases reads the enrolment,
decides, and writes later; the writes themselves are not conditional on what was read. The challenge
token is the only state between a password check and the session it leads to.
-/

namespace Karar.Identity

open SharedKernel

structure AccountInput where
  accountId : UserId
  client : ClientContext
deriving DecidableEq

structure MfaCodeInput where
  accountId : UserId
  code : String
  client : ClientContext
deriving DecidableEq

/-- Notify the owner of an account, where the account is still there. -/
def noticeOwner (accountId : UserId) (kind : SecurityNoticeKind) : UseCase Unit := do
  match ← accounts (.findById accountId) with
  | some account => surroundings (.notify (.securityNotice account.email kind))
  | none => return ()

/-! ### Enrol -/

inductive EnrollMfaError
  | alreadyEnrolled
deriving DecidableEq

structure MfaEnrolmentStarted where
  /-- Rendered once for the authenticator. -/
  secret : String
  otpauthUrl : String
deriving DecidableEq

namespace EnrollMfa

variable (deps : IdentityDependencies)

def execute (input : AccountInput) : UseCase (Except EnrollMfaError MfaEnrolmentStarted) := do
  let existing ← mfa (.getEnrolment input.accountId)
  if isMfaActive existing then return .error .alreadyEnrolled
  else do
    let account ← accounts (.findById input.accountId)
    let label := (account.map (·.email)).getD input.accountId.value
    let secret ← random .totpSecret
    let encrypted ← deps.encryptSecret secret
    let createdAt ← clockNow
    mfa (.saveEnrolment
      { accountId := input.accountId
        secretCiphertext := encrypted.ciphertext
        keyVersion := encrypted.keyVersion
        createdAt
        confirmedAt := none
        disabledAt := none })
    recordSecurity (some input.accountId) .mfaEnrolled input.client.ipDigest none
    auditOrFail deps
      { action := "identity.mfa.enrolled"
        accountId := input.accountId
        resourceType := "identity_account"
        resourceId := input.accountId.value
        outcome := .success }
    return .ok ⟨secret, deps.totpUri secret label⟩

end EnrollMfa

/-! ### Confirm -/

inductive ConfirmMfaError
  | noPendingEnrolment
  | invalidCode
deriving DecidableEq

structure MfaConfirmed where
  /-- Rendered once; stored as digests only. -/
  recoveryCodes : List String
deriving DecidableEq

namespace ConfirmMfa

variable (deps : IdentityDependencies)

def isPending (enrolment : MfaEnrolment) : Bool :=
  enrolment.confirmedAt.isNone && enrolment.disabledAt.isNone

def drawRecoveryCodes : ℕ → UseCase (List String)
  | 0 => return []
  | count + 1 => do
    let code ← random .recoveryCode
    let codes ← drawRecoveryCodes count
    return code :: codes

def newRecoveryCodes (createdAt : Instant) : List String → UseCase (List NewRecoveryCode)
  | [] => return []
  | code :: codes => do
    let id ← random .id
    let rest ← newRecoveryCodes createdAt codes
    return ⟨id, deps.recoveryCodeDigest code, createdAt⟩ :: rest

/-- What follows a valid code: the confirmation, fresh recovery codes, and the records of it. -/
def confirm (input : MfaCodeInput) : UseCase MfaConfirmed := do
  let now ← clockNow
  mfa (.confirmEnrolment input.accountId now)
  let recoveryCodes ← drawRecoveryCodes recoveryCodeCount
  let stored ← newRecoveryCodes deps now recoveryCodes
  mfa (.replaceRecoveryCodes input.accountId stored)
  recordSecurity (some input.accountId) .mfaConfirmed input.client.ipDigest none
  auditOrFail deps
    { action := "identity.mfa.confirmed"
      accountId := input.accountId
      resourceType := "identity_account"
      resourceId := input.accountId.value
      outcome := .success }
  noticeOwner input.accountId .mfaEnrolled
  return ⟨recoveryCodes⟩

def execute (input : MfaCodeInput) : UseCase (Except ConfirmMfaError MfaConfirmed) := do
  match ← mfa (.getEnrolment input.accountId) with
  | none => return .error .noPendingEnrolment
  | some enrolment =>
    if isPending enrolment = false then return .error .noPendingEnrolment
    else do
      let secret ← deps.decryptSecret enrolment.secret
      let now ← clockNow
      if deps.verifyTotp input.code secret now = false then do
        recordSecurity (some input.accountId) .mfaChallengeFailed input.client.ipDigest
          (some [("phase", .text "confirm")])
        return .error .invalidCode
      else do
        let confirmed ← confirm deps input
        return .ok confirmed

end ConfirmMfa

/-! ### Challenge -/

inductive MfaChallengeError
  | invalidChallenge
  | invalidCode
deriving DecidableEq

structure TotpChallengeInput where
  challengeToken : String
  code : String
  client : ClientContext
deriving DecidableEq

structure RecoveryChallengeInput where
  challengeToken : String
  recoveryCode : String
  client : ClientContext
deriving DecidableEq

namespace VerifyMfaChallenge

variable (deps : IdentityDependencies)

/-- The account a challenge token opens: `none` for `'invalid_challenge'`. -/
def openChallenge (challengeToken : String) : UseCase (Option IdentityAccount) := do
  let now ← clockNow
  match deps.verifyChallengeToken challengeToken now with
  | .error _ => return none
  | .ok accountId =>
    -- Every challenge presentation spends from the MFA budget.
    assertWithinLimit .mfaVerify (deps.idKey accountId.value)
    match ← accounts (.findById accountId) with
    | some account => return if account.status = .active then some account else none
    | none => return none

def completeLogin (accountId : UserId) (client : ClientContext) (method : String) :
    UseCase IssuedSession := do
  match ← accounts (.findById accountId) with
  | none => raise "account vanished between challenge verification and session issue"
  | some account =>
    let session ← SessionIssuer.issue deps account client
    recordSecurity (some accountId) .mfaCompleted client.ipDigest
      (some [("method", .text method), ("sessionId", .text session.sessionId)])
    recordSecurity (some accountId) .loginSucceeded client.ipDigest
      (some [("sessionId", .text session.sessionId), ("mfa", .flag true)])
    auditOrFail deps
      { action := "identity.login.succeeded"
        accountId := accountId
        resourceType := "identity_session"
        resourceId := session.sessionId
        outcome := .success
        metadata := some [("mfa", .flag true)] }
    return session

/-- Challenge token and authenticator code. -/
def withTotp (input : TotpChallengeInput) :
    UseCase (Except MfaChallengeError IssuedSession) := do
  match ← openChallenge deps input.challengeToken with
  | none => return .error .invalidChallenge
  | some account =>
    match ← mfa (.getEnrolment account.id) with
    | none => return .error .invalidChallenge
    | some enrolment =>
      if isMfaActive (some enrolment) = false then return .error .invalidChallenge
      else do
        let secret ← deps.decryptSecret enrolment.secret
        let now ← clockNow
        if deps.verifyTotp input.code secret now = false then do
          recordSecurity (some account.id) .mfaChallengeFailed input.client.ipDigest
            (some [("phase", .text "challenge")])
          return .error .invalidCode
        else do
          let session ← completeLogin deps account.id input.client "totp"
          return .ok session

/-- Too many failed recovery codes within the window. -/
def isRecoveryLocked (accountId : UserId) : UseCase Bool := do
  let now ← clockNow
  let failures ← securityEvents (.countSince
    { accountId
      eventTypes := [.recoveryCodeFailed]
      ipDigest := none
      since := now - deps.policy.recoveryLockWindowMs })
  return decide (deps.policy.recoveryLockThreshold ≤ failures)

/-- The digest a recovery code is stored under. -/
def recoveryDigest (recoveryCode : String) : String :=
  deps.recoveryCodeDigest (deps.toUpperCase (trim recoveryCode))

/-- Challenge token and one-time recovery code. -/
def withRecoveryCode (input : RecoveryChallengeInput) :
    UseCase (Except MfaChallengeError IssuedSession) := do
  match ← openChallenge deps input.challengeToken with
  | none => return .error .invalidChallenge
  | some account =>
    let locked ← isRecoveryLocked deps account.id
    if locked then do
      recordSecurity (some account.id) .recoveryLocked input.client.ipDigest none
      return .error .invalidCode
    else do
      let now ← clockNow
      let consumed ← mfa (.consumeRecoveryCode account.id
        (recoveryDigest deps input.recoveryCode) now)
      if consumed = false then do
        recordSecurity (some account.id) .recoveryCodeFailed input.client.ipDigest none
        return .error .invalidCode
      else do
        let remaining ← mfa (.countUnusedRecoveryCodes account.id)
        recordSecurity (some account.id) .recoveryCodeUsed input.client.ipDigest
          (some [("remaining", .number remaining)])
        let session ← completeLogin deps account.id input.client "recovery_code"
        return .ok session

end VerifyMfaChallenge

/-! ### Disable -/

inductive DisableMfaError
  | notEnrolled
  | invalidCode
deriving DecidableEq

namespace DisableMfa

variable (deps : IdentityDependencies)

/-- Proof of possession: a current code of the authenticator, or else an unused recovery code. -/
def isProven (input : MfaCodeInput) (secret : String) : UseCase Bool := do
  let now ← clockNow
  if deps.verifyTotp input.code secret now then return true
  else do
    let usedAt ← clockNow
    mfa (.consumeRecoveryCode input.accountId
      (VerifyMfaChallenge.recoveryDigest deps input.code) usedAt)

def disable (input : MfaCodeInput) : UseCase Unit := do
  let now ← clockNow
  mfa (.disableEnrolment input.accountId now)
  recordSecurity (some input.accountId) .mfaDisabled input.client.ipDigest none
  auditOrFail deps
    { action := "identity.mfa.disabled"
      accountId := input.accountId
      resourceType := "identity_account"
      resourceId := input.accountId.value
      outcome := .success }
  noticeOwner input.accountId .mfaDisabled

def execute (input : MfaCodeInput) : UseCase (Except DisableMfaError Unit) := do
  match ← mfa (.getEnrolment input.accountId) with
  | none => return .error .notEnrolled
  | some enrolment =>
    if isMfaActive (some enrolment) = false then return .error .notEnrolled
    else do
      assertWithinLimit .mfaVerify (deps.idKey input.accountId.value)
      let secret ← deps.decryptSecret enrolment.secret
      let proven ← isProven deps input secret
      if proven = false then do
        recordSecurity (some input.accountId) .mfaChallengeFailed input.client.ipDigest
          (some [("phase", .text "disable")])
        return .error .invalidCode
      else do
        disable deps input
        return .ok ()

end DisableMfa

end Karar.Identity
