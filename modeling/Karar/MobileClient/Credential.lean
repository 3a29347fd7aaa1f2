import Karar.Foundation.Fallible
import Karar.SharedKernel.Basic

/-!
# Session credentials of the mobile client

The tokens of a session, the failures of the client as far as a component tells them apart, and the
codec of the identity module's session payload. An instant is compared after `toUtc`, so a `DateTime`
is its number of milliseconds. Of a payload the codec reads five values.
-/

namespace Karar.MobileClient

open Foundation SharedKernel

inductive SessionEndReason
  | expired
  | refreshRejected
  | refreshTokenReuseDetected
  | revoked
  | signedOut
deriving DecidableEq

inductive SecureStorageOperation
  | read
  | write
  | delete
deriving DecidableEq

inductive LocalSecurityStateOperation
  | opening
  | read
  | write
  | remove
deriving DecidableEq

/-- The sealed family `Failure`. -/
inductive Failure
  | authenticationRequired
  | notAuthorized
  | operationRestricted
  | consentRequired
  | reConsentRequired
  | tenantSelectionRequired
  | bootstrapUnavailable
  | capabilityResolutionUnavailable
  | sessionExpired (reason : SessionEndReason)
  | rateLimited
  | dependencyUnavailable
  | invalidRequest
  | notFound
  | conflict
  | offline
  | timeout
  | requestCancelled
  | unsafeRequestNotReplayed
  | secureStorageUnavailable (operation : SecureStorageOperation)
  | localStorageUnavailable
  | localSecurityStateUnavailable (operation : LocalSecurityStateOperation)
  | localSecurityStateCorrupt
  | configurationInvalid
  | contractViolation (location : String)
  | unexpected
deriving DecidableEq

/-- `Result<T>`. -/
abbrev Result := Except Failure

instance {T : Type} [DecidableEq T] : DecidableEq (Result T)
  | .ok first, .ok second => decidable_of_iff (first = second) (by simp)
  | .error first, .error second => decidable_of_iff (first = second) (by simp)
  | .ok _, .error _ => isFalse (by simp)
  | .error _, .ok _ => isFalse (by simp)

structure SessionTokens where
  accessToken : String
  accessTokenExpiresAt : Instant
  refreshToken : String
  refreshTokenExpiresAt : Instant
  sessionId : String
deriving DecidableEq

namespace SessionTokens

/-- The default `leeway`, thirty seconds. -/
def expiryLeeway : ℤ := 30000

def IsAccessTokenExpired (tokens : SessionTokens) (now : Instant) : Prop :=
  ¬ now + expiryLeeway < tokens.accessTokenExpiresAt

def IsRefreshTokenExpired (tokens : SessionTokens) (now : Instant) : Prop :=
  ¬ now < tokens.refreshTokenExpiresAt

instance (tokens : SessionTokens) (now : Instant) : Decidable (tokens.IsAccessTokenExpired now) :=
  inferInstanceAs (Decidable (¬ _))

instance (tokens : SessionTokens) (now : Instant) : Decidable (tokens.IsRefreshTokenExpired now) :=
  inferInstanceAs (Decidable (¬ _))

end SessionTokens

/-! ### The codec -/

/-- A value of a JSON map, as the codec tells it apart. -/
inductive WireValue
  | null
  | text (text : String)
  | other
deriving DecidableEq

/-- What the codec reads of a payload. An expiry is what `_parseInstant` makes of it. -/
structure SessionPayload where
  accessToken : WireValue
  refreshToken : WireValue
  sessionId : WireValue
  accessTokenExpiresAt : Option Instant
  refreshTokenExpiresAt : Option Instant
deriving DecidableEq

/-- `value is! String || value.isEmpty`, with the location of the failure. -/
def requireText (location : String) : WireValue → Result String
  | .text text => if text.isEmpty then .error (.contractViolation location) else .ok text
  | .null | .other => .error (.contractViolation location)

def requireInstant (location : String) : Option Instant → Result Instant
  | some instant => .ok instant
  | none => .error (.contractViolation location)

/-- `payload['sessionId'] ?? fallbackSessionId`. -/
def WireValue.orElse (value : WireValue) (fallback : Option String) : WireValue :=
  match value, fallback with
  | .null, some sessionId => .text sessionId
  | value, _ => value

/-- `SessionTokenCodec.decode`. -/
def SessionPayload.decode (payload : SessionPayload) (fallbackSessionId : Option String) :
    Result SessionTokens := do
  let accessToken ← requireText "accessToken" payload.accessToken
  let refreshToken ← requireText "refreshToken" payload.refreshToken
  let sessionId ← requireText "sessionId" (payload.sessionId.orElse fallbackSessionId)
  let accessTokenExpiresAt ← requireInstant "accessTokenExpiresAt" payload.accessTokenExpiresAt
  let refreshTokenExpiresAt ← requireInstant "refreshTokenExpiresAt" payload.refreshTokenExpiresAt
  return { accessToken, accessTokenExpiresAt, refreshToken, refreshTokenExpiresAt, sessionId }

theorem requireText_eq_ok {location : String} {value : WireValue} {text : String}
    (hvalue : requireText location value = .ok text) : value = .text text := by
  unfold requireText at hvalue
  split at hvalue
  · split_ifs at hvalue
    rw [Except.ok.inj hvalue]
  · cases hvalue
  · cases hvalue

/-- What decodes has the refresh token of the payload. -/
theorem SessionPayload.refreshToken_of_decode {payload : SessionPayload}
    {fallbackSessionId : Option String} {tokens : SessionTokens}
    (hdecode : payload.decode fallbackSessionId = .ok tokens) :
    payload.refreshToken = .text tokens.refreshToken := by
  unfold SessionPayload.decode at hdecode
  obtain ⟨accessToken, -, hdecode⟩ := bind_eq_ok hdecode
  obtain ⟨refreshToken, hrefresh, hdecode⟩ := bind_eq_ok hdecode
  obtain ⟨sessionId, -, hdecode⟩ := bind_eq_ok hdecode
  obtain ⟨accessExpiry, -, hdecode⟩ := bind_eq_ok hdecode
  obtain ⟨refreshExpiry, -, hdecode⟩ := bind_eq_ok hdecode
  rw [requireText_eq_ok hrefresh, ← Except.ok.inj hdecode]

theorem requireText_error (location : String) (value : WireValue) :
    ∀ failure, requireText location value = .error failure →
      failure = .contractViolation location := by
  intro failure hvalue
  unfold requireText at hvalue
  split at hvalue
  · split_ifs at hvalue
    exact (Except.error.inj hvalue).symm
  · exact (Except.error.inj hvalue).symm
  · exact (Except.error.inj hvalue).symm

theorem requireInstant_error (location : String) (value : Option Instant) :
    ∀ failure, requireInstant location value = .error failure →
      failure = .contractViolation location := by
  intro failure hvalue
  cases value with
  | some instant => cases hvalue
  | none => exact (Except.error.inj hvalue).symm

/-- What the codec refuses violates the contract. -/
theorem SessionPayload.decode_error (payload : SessionPayload) (fallbackSessionId : Option String) :
    ∀ failure, payload.decode fallbackSessionId = .error failure →
      ∃ location, failure = .contractViolation location := by
  have htext (location : String) (value : WireValue) (failure : Failure)
      (hvalue : requireText location value = .error failure) :
      ∃ location, failure = .contractViolation location :=
    ⟨location, requireText_error location value failure hvalue⟩
  have hinstant (location : String) (value : Option Instant) (failure : Failure)
      (hvalue : requireInstant location value = .error failure) :
      ∃ location, failure = .contractViolation location :=
    ⟨location, requireInstant_error location value failure hvalue⟩
  unfold SessionPayload.decode
  refine error_of_bind (htext _ _) fun _ ↦ error_of_bind (htext _ _) fun _ ↦
    error_of_bind (htext _ _) fun _ ↦ error_of_bind (hinstant _ _) fun _ ↦
      error_of_bind (hinstant _ _) fun _ failure hpure ↦ ?_
  cases hpure

end Karar.MobileClient
