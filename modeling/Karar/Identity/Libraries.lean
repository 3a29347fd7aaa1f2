import Karar.Identity.Domain
import Mathlib.Algebra.GroupWithZero.Nat

/-!
# The libraries of the identity module

What the adapters call outside this repository is a parameter: argon2, the hash functions of the
platform, the one-time passwords, the secret cipher, the signature of a JSON web token, and the
Unicode mappings of strings. Over them stand the adapters themselves: digests by purpose, the check
of a one-time password, the payloads of access and challenge tokens and their verification.
-/

namespace Karar.Identity

open SharedKernel

/-! ### Strings -/

/-- `String.prototype.trim`. -/
def trim (value : String) : String :=
  String.ofList ((value.toList.dropWhile isTrimmed).reverse.dropWhile isTrimmed).reverse

/-- `String.prototype.length`, in UTF-16 code units. -/
def utf16Length (value : String) : ℕ :=
  (value.toList.map fun c ↦ if c.val < 0x10000 then 1 else 2).sum

/-! ### Dependencies -/

/-- The claims of a token, where present and of the expected type. -/
structure JwtPayload where
  sub : Option String
  iss : Option String
  aud : Option String
  iat : Option Int
  exp : Option Int
  sid : Option String := none
  tv : Option ℕ := none
  purpose : Option String := none
deriving DecidableEq

structure IdentityDependencies where
  toLowerCase : String → String
  toUpperCase : String → String
  normalizeNfc : String → String
  /-- argon2id of a salt and a password under the current parameter set. -/
  argon2Hash : String → String → String
  argon2Verify : String → String → Bool
  /-- The version of the current parameter set. -/
  paramsVersion : ℕ
  /-- HMAC-SHA256 of a pepper and some material, in hexadecimal. -/
  hmacSha256 : String → String → String
  sha256 : String → String
  verificationPepper : String
  digestPepper : String
  /-- Whether a code of six digits is valid for a secret at a second, within one step. -/
  totpValid : String → String → Int → Bool
  totpUri : String → String → String
  /-- The envelope of a plaintext under a nonce. -/
  encrypt : String → String → EncryptedSecret
  decrypt : EncryptedSecret → Option String
  /-- The compact token of a payload, with the randomness of its signature. -/
  signJwt : String → JwtPayload → String
  /-- The payload of a token whose signature verifies. -/
  openJwt : String → Option JwtPayload
  policy : IdentityPolicy
  environment : String

namespace IdentityDependencies

variable (deps : IdentityDependencies)

def normalizeEmail (raw : String) : String := deps.normalizeNfc (deps.toLowerCase (trim raw))

/-! ### Digests -/

def verificationCodeDigest (code : String) : String :=
  deps.hmacSha256 deps.verificationPepper ("verification:" ++ code)

def resetTokenDigest (token : String) : String :=
  deps.hmacSha256 deps.verificationPepper ("reset:" ++ token)

def refreshTokenDigest (token : String) : String := deps.sha256 ("refresh:" ++ token)

def recoveryCodeDigest (code : String) : String := deps.sha256 ("recovery:" ++ code)

/-- A constant-time comparison of the bytes. -/
def digestsEqual (a b : String) : Bool := a == b

/-- `RateLimitKeyHasher.digest`. -/
def rateLimitKey (material : String) : String :=
  String.ofList ((deps.hmacSha256 deps.digestPepper material).toList.take 32)

def emailKey (normalizedEmail : String) : String := deps.rateLimitKey ("email:" ++ normalizedEmail)

def idKey (id : String) : String := deps.rateLimitKey ("id:" ++ id)

/-! ### Passwords and MFA secrets -/

def needsRehash (paramsVersion : ℕ) : Bool := paramsVersion < deps.paramsVersion

/-- `Math.floor(now.getTime() / 1000)`. -/
def epochSeconds (now : Instant) : Int := now / 1000

/-- `/^\d{6}$/`. -/
def isSixDigits (code : String) : Bool := code.toList.length == 6 && code.toList.all Char.isDigit

/-- `TotpService.verify`. -/
@[irreducible] def verifyTotp (code secret : String) (now : Instant) : Bool :=
  isSixDigits (trim code) && deps.totpValid (trim code) secret (epochSeconds now)

end IdentityDependencies

/-! ### Tokens -/

def tokenIssuer : String := "karar"

def accessTokenAudience : String := "karar-api"

def challengeTokenAudience : String := "karar-mfa-challenge"

structure AccessTokenClaims where
  accountId : UserId
  sessionId : String
  tokenVersion : ℕ
deriving DecidableEq

structure SignedToken where
  token : String
  expiresAt : Instant
deriving DecidableEq

inductive TokenVerificationError
  | invalid
  | expired
deriving DecidableEq

namespace IdentityDependencies

variable (deps : IdentityDependencies)

def accessTokenExpiresAt (now : Instant) : Instant := now + deps.policy.accessTokenTtlMs

def challengeTokenExpiresAt (now : Instant) : Instant := now + deps.policy.challengeTokenTtlMs

def accessTokenPayload (claims : AccessTokenClaims) (now : Instant) : JwtPayload where
  sub := some claims.accountId.value
  iss := some tokenIssuer
  aud := some accessTokenAudience
  iat := some (epochSeconds now)
  exp := some (epochSeconds (deps.accessTokenExpiresAt now))
  sid := some claims.sessionId
  tv := some claims.tokenVersion

def challengeTokenPayload (accountId : UserId) (now : Instant) : JwtPayload where
  sub := some accountId.value
  iss := some tokenIssuer
  aud := some challengeTokenAudience
  iat := some (epochSeconds now)
  exp := some (epochSeconds (deps.challengeTokenExpiresAt now))
  purpose := some "mfa_challenge"

/-- Signature, issuer, audience and expiry of a token. -/
def verifyToken (token audience : String) (now : Instant) :
    Except TokenVerificationError JwtPayload :=
  match deps.openJwt token with
  | none => .error .invalid
  | some payload =>
    if payload.iss ≠ some tokenIssuer ∨ payload.aud ≠ some audience then .error .invalid
    else if payload.exp.any (· ≤ epochSeconds now) then .error .expired
    else .ok payload

def verifyAccessToken (token : String) (now : Instant) :
    Except TokenVerificationError AccessTokenClaims := do
  let payload ← deps.verifyToken token accessTokenAudience now
  match payload.sub.bind UserId.parse, payload.sid, payload.tv with
  | some accountId, some sessionId, some tokenVersion =>
    .ok ⟨accountId, sessionId, tokenVersion⟩
  | _, _, _ => .error .invalid

def verifyChallengeToken (token : String) (now : Instant) :
    Except TokenVerificationError UserId := do
  let payload ← deps.verifyToken token challengeTokenAudience now
  match payload.sub.bind UserId.parse with
  | some accountId =>
    if payload.purpose = some "mfa_challenge" then .ok accountId else .error .invalid
  | none => .error .invalid

end IdentityDependencies

end Karar.Identity
