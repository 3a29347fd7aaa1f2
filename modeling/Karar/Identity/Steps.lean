import Karar.Identity.Ports

/-!
# Steps the use cases share

Hashing, encrypting and signing as steps of a use case, and the two write-through helpers:
`recordSecurity` appends to the security ledger and `auditOrFail` records an audit event. The ledger
refuses metadata that names a credential or carries a payload.

The one construction path for session state. A bundle of a session, its refresh-token family and the
first refresh token is minted, stored, and answered with an access token for it.
-/

namespace Karar.Identity

open SharedKernel

/-! ## Steps -/

namespace IdentityDependencies

variable (deps : IdentityDependencies)

def hash (password : String) : UseCase CredentialView := do
  let salt ← random .salt
  return ⟨deps.argon2Hash salt password, deps.paramsVersion⟩

/-- A verification against a fixed hash, for its cost only. -/
def dummyVerify : UseCase Unit := return ()

def encryptSecret (secret : String) : UseCase EncryptedSecret := do
  let nonce ← random .nonce
  return deps.encrypt nonce secret

def decryptSecret (secret : EncryptedSecret) : UseCase String :=
  match deps.decrypt secret with
  | some plaintext => return plaintext
  | none => raise "the secret does not decrypt"

def signAccessToken (claims : AccessTokenClaims) (now : Instant) : UseCase SignedToken := do
  let token ← surroundings (.sign (deps.accessTokenPayload claims now))
  return ⟨token, deps.accessTokenExpiresAt now⟩

def signChallengeToken (accountId : UserId) (now : Instant) : UseCase SignedToken := do
  let token ← surroundings (.sign (deps.challengeTokenPayload accountId now))
  return ⟨token, deps.challengeTokenExpiresAt now⟩

end IdentityDependencies

/-! ### The security ledger and the audit trail -/

/-- `FORBIDDEN_EXACT_KEYS`. -/
def forbiddenExactKeys : List String := ["code", "token", "hash", "secret", "password", "email"]

/-- The alternatives of `FORBIDDEN_KEY_PATTERN`. -/
def forbiddenKeyParts : List String :=
  ["password", "passphrase", "secret", "authorization", "apikey", "api_key", "email"]

def maxMetadataValueLength : ℕ := 200

/-- A key that names a credential. -/
def isCredentialShaped (key : String) : Bool :=
  let lower := key.toList.map Char.toLower
  forbiddenExactKeys.any (fun exact ↦ exact.toList == lower) ||
    forbiddenKeyParts.any fun part ↦ lower.tails.any fun rest ↦ part.toList.isPrefixOf rest

def isTooLong : MetadataValue → Bool
  | .text value => maxMetadataValueLength < utf16Length value
  | _ => false

/-- The message of the first `SecurityMetadataViolation`, if any. -/
def securityMetadataViolation : Metadata → Option String
  | [] => none
  | (key, value) :: rest =>
    if isCredentialShaped key then
      some s!"security-event metadata key '{key}' is credential-shaped — the ledger records facts about credentials, never credentials"
    else if isTooLong value then
      some s!"security-event metadata value for '{key}' exceeds {maxMetadataValueLength} chars — a payload is not metadata"
    else securityMetadataViolation rest

def guardSecurityMetadata : Option Metadata → UseCase (Option Metadata)
  | none => return none
  | some metadata =>
    match securityMetadataViolation metadata with
    | some message => raise message
    | none => return some metadata

/-- Append to the security ledger; a ledger that cannot be written fails the use case. -/
def recordSecurity (accountId : Option UserId) (eventType : SecurityEventType)
    (ipDigest : Option String) (metadata : Option Metadata) : UseCase Unit := do
  let occurredAt ← clockNow
  let metadata ← guardSecurityMetadata metadata
  securityEvents (.record { accountId, eventType, occurredAt, ipDigest, metadata })

structure AuditInput where
  action : String
  accountId : Option UserId
  resourceType : String
  resourceId : String
  outcome : AuditOutcome
  metadata : Option Metadata := none

/-- Record an audit event; an audit trail that cannot be written fails the use case. -/
def auditOrFail (deps : IdentityDependencies) (input : AuditInput) : UseCase Unit := do
  let occurredAt ← clockNow
  surroundings (.recordAudit
    { occurredAt
      environment := deps.environment
      actorRef := input.accountId.map fun accountId ↦ "user:" ++ accountId.value
      tenantRef := none
      action := input.action
      resourceType := input.resourceType
      resourceId := input.resourceId
      afterMetadata := input.metadata
      outcome := input.outcome })

/-! ## The session issuer -/

structure IssuedSession where
  sessionId : String
  accessToken : String
  accessTokenExpiresAt : Instant
  /-- The raw refresh token, returned once and stored as a digest only. -/
  refreshToken : String
  refreshTokenExpiresAt : Instant
  absoluteExpiresAt : Instant
deriving DecidableEq

/-- A minted bundle, not yet stored, with its raw token. -/
structure MintedSessionBundle extends NewSessionBundle where
  rawRefreshToken : String

namespace SessionIssuer

variable (deps : IdentityDependencies)

/-- A refresh token never outlives its session's absolute ceiling. -/
def refreshExpiry (now absoluteExpiresAt : Instant) : Instant :=
  min (now + deps.policy.refreshTokenTtlMs) absoluteExpiresAt

def idleExpiry (now : Instant) : Option Instant :=
  deps.policy.sessionIdleTtlMs.map fun idleTtl ↦ now + idleTtl

def mint (account : IdentityAccount) (client : ClientContext) (tenantBinding : Option String) :
    UseCase MintedSessionBundle := do
  let now ← clockNow
  let sessionId ← random .id
  let absoluteExpiresAt := now + deps.policy.sessionAbsoluteTtlMs
  let familyId ← random .id
  let rawRefreshToken ← random .refreshToken
  let tokenId ← random .id
  return {
    session := {
      id := sessionId
      accountId := account.id
      createdAt := now
      lastSeenAt := now
      absoluteExpiresAt := absoluteExpiresAt
      idleExpiresAt := idleExpiry deps now
      revokedAt := none
      revokedReason := none
      ipDigest := client.ipDigest
      userAgentSummary := client.userAgentSummary
      tenantBinding := tenantBinding }
    family := {
      id := familyId
      sessionId := sessionId
      accountId := account.id
      createdAt := now
      revokedAt := none
      revokedReason := none }
    firstToken := {
      id := tokenId
      familyId := familyId
      tokenHash := deps.refreshTokenDigest rawRefreshToken
      createdAt := now
      expiresAt := refreshExpiry deps now absoluteExpiresAt
      usedAt := none
      supersededBy := none }
    rawRefreshToken := rawRefreshToken }

/-- Sign the access token for a minted bundle and assemble the result. -/
def issuedFrom (minted : MintedSessionBundle) (tokenVersion : ℕ) : UseCase IssuedSession := do
  let now ← clockNow
  let access ← deps.signAccessToken
    ⟨minted.session.accountId, minted.session.id, tokenVersion⟩ now
  return {
    sessionId := minted.session.id
    accessToken := access.token
    accessTokenExpiresAt := access.expiresAt
    refreshToken := minted.rawRefreshToken
    refreshTokenExpiresAt := minted.firstToken.expiresAt
    absoluteExpiresAt := minted.session.absoluteExpiresAt }

def issue (account : IdentityAccount) (client : ClientContext) : UseCase IssuedSession := do
  let minted ← mint deps account client none
  sessions (.createSession minted.toNewSessionBundle)
  issuedFrom deps minted account.tokenVersion

/-- Access token for an existing session. -/
def accessTokenFor (accountId : UserId) (sessionId : String) (tokenVersion : ℕ) :
    UseCase SignedToken := do
  let now ← clockNow
  deps.signAccessToken ⟨accountId, sessionId, tokenVersion⟩ now

end SessionIssuer

end Karar.Identity
