import Karar.SharedKernel.Basic

/-!
# The identity domain

Accounts, sessions and refresh tokens, MFA enrolments, one-time codes, the security ledger's
vocabulary, and the policy with its defaults.
-/

namespace Karar.Identity

open SharedKernel

/-! ### Accounts -/

/-- `ACCOUNT_STATUSES`. -/
inductive AccountStatus
  | active
  | disabled
deriving DecidableEq

structure IdentityAccount where
  id : UserId
  email : String
  emailVerifiedAt : Option Instant
  status : AccountStatus
  disabledReason : Option String
  mfaRequired : Bool
  /-- Carried in access tokens as `tv`; bumping it makes every outstanding access token stale. -/
  tokenVersion : ℕ
  createdAt : Instant
  updatedAt : Instant
deriving DecidableEq

structure PasswordCredential where
  accountId : UserId
  passwordHash : String
  paramsVersion : ℕ
  updatedAt : Instant
deriving DecidableEq

/-! ### Sessions and refresh tokens -/

/-- `REVOCATION_REASONS`. -/
inductive RevocationReason
  | logout
  | revokedByOwner
  | revokedOtherSessions
  | passwordChanged
  | passwordReset
  | refreshReuseDetected
  | accountDisabled
  | globalRevocation
  | tenantSwitch
deriving DecidableEq

structure Session where
  id : String
  accountId : UserId
  createdAt : Instant
  lastSeenAt : Instant
  absoluteExpiresAt : Instant
  /-- `none` disables the idle expiry. -/
  idleExpiresAt : Option Instant
  revokedAt : Option Instant
  revokedReason : Option RevocationReason
  ipDigest : Option String
  userAgentSummary : Option String
  tenantBinding : Option String
deriving DecidableEq

structure RefreshTokenFamily where
  id : String
  sessionId : String
  accountId : UserId
  createdAt : Instant
  revokedAt : Option Instant
  revokedReason : Option RevocationReason
deriving DecidableEq

structure RefreshTokenRecord where
  id : String
  familyId : String
  /-- Digest of the presented token; the raw token never persists. -/
  tokenHash : String
  createdAt : Instant
  expiresAt : Instant
  usedAt : Option Instant
  supersededBy : Option String
deriving DecidableEq

def isSessionLive (session : Session) (now : Instant) : Bool :=
  if session.revokedAt.isSome then false
  else if session.absoluteExpiresAt ≤ now then false
  else if session.idleExpiresAt.any (· ≤ now) then false
  else true

/-! ### MFA -/

structure EncryptedSecret where
  ciphertext : List UInt8
  keyVersion : String
deriving DecidableEq

/-- An enrolment; its `type` is always `'totp'`. -/
structure MfaEnrolment where
  accountId : UserId
  secretCiphertext : List UInt8
  keyVersion : String
  createdAt : Instant
  confirmedAt : Option Instant
  disabledAt : Option Instant
deriving DecidableEq

/-- The encrypted secret an enrolment stores. -/
def MfaEnrolment.secret (enrolment : MfaEnrolment) : EncryptedSecret :=
  ⟨enrolment.secretCiphertext, enrolment.keyVersion⟩

/-- Enrolled, proven, and not turned off. -/
def isMfaActive : Option MfaEnrolment → Bool
  | some enrolment => enrolment.confirmedAt.isSome && enrolment.disabledAt.isNone
  | none => false

/-- `RECOVERY_CODE_COUNT`. -/
def recoveryCodeCount : ℕ := 10

structure MfaRecoveryCode where
  id : String
  accountId : UserId
  codeHash : String
  usedAt : Option Instant
  createdAt : Instant
deriving DecidableEq

/-! ### One-time codes -/

structure OneTimeCodeRecord where
  id : String
  accountId : UserId
  codeHash : String
  expiresAt : Instant
  attempts : ℕ
  maxAttempts : ℕ
  consumedAt : Option Instant
  createdAt : Instant
deriving DecidableEq

/-! ### The security ledger -/

/-- `SECURITY_EVENT_TYPES`. -/
inductive SecurityEventType
  | registrationDuplicate
  | verificationEmailSent
  | verificationFailed
  | emailVerified
  | loginSucceeded
  | loginFailed
  | loginLocked
  | accountDisabledLoginAttempt
  | mfaChallengeIssued
  | mfaChallengeFailed
  | mfaCompleted
  | mfaEnrolled
  | mfaConfirmed
  | mfaDisabled
  | recoveryCodeUsed
  | recoveryCodeFailed
  | recoveryLocked
  | refreshReuseDetected
  | sessionRevoked
  | sessionsRevokedBulk
  | sessionTenantBound
  | sessionTenantRebound
  | passwordResetRequested
  | passwordResetFailed
  | passwordResetCompleted
  | passwordChanged
  | accountDisabled
  | accountEnabled
deriving DecidableEq

/-- A scalar of the ledger's or the audit trail's metadata. -/
inductive MetadataValue
  | text (value : String)
  | number (value : ℕ)
  | flag (value : Bool)
  | null
deriving DecidableEq

abbrev Metadata := List (String × MetadataValue)

def MetadataValue.ofOption : Option String → MetadataValue
  | some value => .text value
  | none => .null

structure SecurityEvent where
  accountId : Option UserId
  eventType : SecurityEventType
  occurredAt : Instant
  ipDigest : Option String
  metadata : Option Metadata
deriving DecidableEq

/-! ### Policy -/

structure IdentityPolicy where
  accessTokenTtlMs : ℕ
  challengeTokenTtlMs : ℕ
  refreshTokenTtlMs : ℕ
  sessionAbsoluteTtlMs : ℕ
  sessionIdleTtlMs : Option ℕ
  verificationCodeTtlMs : ℕ
  verificationMaxAttempts : ℕ
  verificationResendCooldownMs : ℕ
  resetTokenTtlMs : ℕ
  resetMaxAttempts : ℕ
  resetRequestCooldownMs : ℕ
  lockoutThreshold : ℕ
  lockoutWindowMs : ℕ
  recoveryLockThreshold : ℕ
  recoveryLockWindowMs : ℕ
  passwordMinLength : ℕ
  passwordMaxLength : ℕ
deriving DecidableEq

/-- `DEFAULT_IDENTITY_POLICY`. -/
def defaultIdentityPolicy : IdentityPolicy where
  accessTokenTtlMs := 10 * 60000
  challengeTokenTtlMs := 5 * 60000
  refreshTokenTtlMs := 14 * 24 * 60 * 60000
  sessionAbsoluteTtlMs := 90 * 24 * 60 * 60000
  sessionIdleTtlMs := none
  verificationCodeTtlMs := 30 * 60000
  verificationMaxAttempts := 5
  verificationResendCooldownMs := 60 * 1000
  resetTokenTtlMs := 30 * 60000
  resetMaxAttempts := 5
  resetRequestCooldownMs := 60 * 1000
  lockoutThreshold := 10
  lockoutWindowMs := 15 * 60000
  recoveryLockThreshold := 5
  recoveryLockWindowMs := 15 * 60000
  passwordMinLength := 8
  passwordMaxLength := 512

/-- The client facts a use case may see: digested and summarized only. -/
structure ClientContext where
  ipDigest : Option String
  userAgentSummary : Option String
deriving DecidableEq

end Karar.Identity
