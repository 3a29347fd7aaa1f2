import Karar.MobileClient.Process

/-!
# The token store and the refresh coordinator

`SecureTokenStore` over the secure store, with the invalidation marker that production supplies. Each
method is a task; an await of another method of the client ends in a microtask.

`TokenRefreshCoordinator`, with the refresh call that the composition gives it. The future of a
refresh is named by the number of the call that started it; a caller that finds one in flight joins
it.
-/

namespace Karar.MobileClient

open Foundation

/-! ## The token store -/

/-- The await of a function of the client. -/
def awaited {T : Type} (task : ClientTask T) : ClientTask T := do
  let result ← task
  await .microtask
  return result

/-! ### `PersistedSessionInvalidation` -/

/-- The outcome of standing the invalidation marker down. -/
inductive MarkerClearance
  | markerRemoved
  | markerStoodDown
  | markerClearanceFailed (failure : Failure)
deriving DecidableEq

/-- The failure of a removal, by `failureOrNull`. -/
def SecurityStateRemoval.failure : SecurityStateRemoval → Failure
  | removed | removeFailed => .localSecurityStateUnavailable .remove
  | unavailable => .localSecurityStateUnavailable .opening

def PersistedSessionInvalidation.state : ClientTask SecurityStateRead :=
  await .readMarker

def PersistedSessionInvalidation.raise : ClientTask SecurityStateWrite :=
  await (.writeMarker true)

def PersistedSessionInvalidation.clear : ClientTask MarkerClearance := do
  let removal : SecurityStateRemoval ← await .removeMarker
  if removal = .removed then
    return .markerRemoved
  else
    let standDown : SecurityStateWrite ← await (.writeMarker false)
    if standDown = .written then
      return .markerStoodDown
    else
      return .markerClearanceFailed removal.failure

/-! ### `SecureTokenStore` -/

namespace SecureTokenStore

/-- What `_decode` makes of what is stored. -/
def decode : Option StoredEntry → Result (Option SessionTokens)
  | none => .ok none
  | some (.tokens tokens) => .ok (some tokens)
  | some .undecodable => .error (.contractViolation "session_tokens")

def readStored : ClientTask (Result (Option SessionTokens)) := do
  let stored : Result (Option StoredEntry) ← await .readSecure
  return stored >>= decode

/-- The end of `read`, where the erase is tried again and nothing is handed back. -/
def retryErase : ClientTask (Result (Option SessionTokens)) := do
  let erased : Result Unit ← await .deleteSecure
  match erased with
  | .error failure => return .error failure
  | .ok () =>
    act (.abandonedThisProcess false)
    let _ ← awaited PersistedSessionInvalidation.clear
    return .ok none

/-- The two marker reads that hand a credential back, unless the process has given it up. -/
def readUnlessAbandoned : ClientTask (Result (Option SessionTokens)) := do
  let m ← look
  if m.abandonedThisProcess then retryErase else awaited readStored

def read : ClientTask (Result (Option SessionTokens)) := do
  let marker : SecurityStateRead ← PersistedSessionInvalidation.state
  match marker with
  | .unavailable => return .error (.localSecurityStateUnavailable .read)
  | .corrupt => return .error .localSecurityStateCorrupt
  | .value true => retryErase
  | .value false | .absent => readUnlessAbandoned

/-- The end of `write`, once the replacement is confirmed. -/
def standDown : ClientTask (Result Unit) := do
  act (.abandonedThisProcess false)
  let cleared ← awaited PersistedSessionInvalidation.clear
  match cleared with
  | .markerRemoved | .markerStoodDown => return .ok ()
  | .markerClearanceFailed failure => return .error failure

def write (tokens : SessionTokens) : ClientTask (Result Unit) := do
  let written : Result Unit ← await (.writeSecure tokens)
  match written with
  | .error failure => return .error failure
  | .ok () => standDown

def clear : ClientTask SessionAbandonmentOutcome := do
  act (.abandonedThisProcess true)
  -- The marker is raised before the erase is tried, and the erase is tried either way.
  let raised : SecurityStateWrite ← PersistedSessionInvalidation.raise
  let erased : Result Unit ← await .deleteSecure
  match erased with
  | .ok () =>
    act (.abandonedThisProcess false)
    let cleared ← awaited PersistedSessionInvalidation.clear
    match cleared with
    | .markerRemoved | .markerStoodDown => return .credentialErased
    | .markerClearanceFailed _ => return .credentialErasedMarkerRetained
  | .error _ =>
    match raised with
    | .written => return .credentialPersistedButDurablyInvalidated
    | .writeFailed => return .abandonmentNotDurable
    | .unavailable => return .abandonmentSecurityStateUnavailable

end SecureTokenStore

/-- `FlutterSecureStore.deleteAll`, of the entry of the session tokens. -/
def SecureStore.deleteAll : ClientTask (Result Unit) := do
  let listed : Result Bool ← await .listSecure
  match listed with
  | .error failure => return .error failure
  | .ok false => return .ok ()
  | .ok true => await .deleteSecure

/-! ### `SessionManager` -/

namespace SessionManager

/-- The state that a restore leaves, by what the store answered. -/
def restoredState : Result (Option SessionTokens) → SessionState
  | .ok (some tokens) => .activeSession tokens
  | .ok none | .error _ => .noSession

def restore : ClientTask (Result (Option SessionTokens)) := do
  let stored ← SecureTokenStore.read
  await (.readCredential stored)
  act (.restored (restoredState stored))
  return stored

def adopt (tokens : SessionTokens) : ClientTask (Result Unit) := do
  act (.adopted tokens)
  awaited (SecureTokenStore.write tokens)

/-- What `end` does when a session is held. -/
def endActive (reason : SessionEndReason) : ClientTask SessionAbandonmentOutcome := do
  act .ended
  let cleared ← awaited SecureTokenStore.clear
  act (.emitted ⟨reason, cleared⟩)
  return cleared

/-- `end`. -/
def endSession (reason : SessionEndReason) : ClientTask SessionAbandonmentOutcome := do
  let m ← look
  if m.session = .noSession then return .credentialErased else endActive reason

def abandonPersistedSession : ClientTask SessionAbandonmentOutcome := do
  act .abandoned
  awaited SecureTokenStore.clear

end SessionManager

/-! ## The token refresh coordinator -/

/-- What a caller of the coordinator gets. -/
inductive RefreshReply
  | result (result : Result SessionTokens)
  /-- The future of the refresh that another call started. -/
  | joined (flight : ℕ)
  | thrown
deriving DecidableEq

namespace TokenRefreshCoordinator

def reset : ClientTask Unit := do
  act (.terminated false)
  act (.inFlight none)

/-- The `RefreshTokenCall` of the composition. The answer is labelled with the session that is held
when it arrives. -/
def refresh (refreshToken : String) : ClientTask RefreshOutcome := do
  let response : RefreshResponse ← await (.identityRefresh refreshToken)
  match response with
  | .payload payload =>
    let m ← look
    return .result (payload.decode (m.session.tokens.map (·.sessionId)))
  | .apiException failure => return .result (.error failure)
  | .thrown => return .thrown

/-- The server rejected the chain. -/
def isTerminal : Failure → Bool
  | .authenticationRequired => true
  | .sessionExpired _ => true
  | .notAuthorized => true
  | .contractViolation _ => true
  | _ => false

def terminate (reason : SessionEndReason) : ClientTask (Result SessionTokens) := do
  act (.terminated true)
  let _ ← awaited (SessionManager.endSession reason)
  return .error (.sessionExpired reason)

/-- The `try` block of `_performRefresh`, from the outcome of the refresh call on. -/
def settle : RefreshOutcome → ClientTask RefreshReply
  | .result (.ok value) => do
    let _ ← awaited (SessionManager.adopt value)
    return .result (.ok value)
  | .result (.error failure) =>
    if isTerminal failure then do
      let terminated ← awaited (terminate .refreshTokenReuseDetected)
      return .result terminated
    else
      return .result (.error failure)
  | .thrown => return .thrown

/-- The caller assigns `_inFlight` in the segment in which the refresh call starts. -/
def performRefresh (caller : ℕ) (refreshToken : String) : ClientTask RefreshReply := do
  act .refreshCallCount
  act (.inFlight (some caller))
  let outcome ← refresh refreshToken
  await (.refreshed outcome)
  let reply ← settle outcome
  act (.inFlight none)
  return reply

/-- Joins the refresh in flight, or starts one. -/
def joinOrRefresh (caller : ℕ) (current : SessionTokens) (m : Memory) : ClientTask RefreshReply :=
  match m.inFlight with
  | some flight => return .joined flight
  | none => performRefresh caller current.refreshToken

/-- The credential is the one the caller observed when the access tokens agree; that covers the
identical credential. -/
def ensureUsable (caller : ℕ) (observed : SessionTokens) : ClientTask RefreshReply := do
  let m ← look
  if m.terminated then
    return .result (.error (.sessionExpired .refreshRejected))
  else
    match m.session with
    | .noSession => return .result (.error .authenticationRequired)
    | .activeSession current =>
      if current.accessToken ≠ observed.accessToken then
        return .result (.ok current)
      else if ¬ current.IsAccessTokenExpired m.now then
        return .result (.ok current)
      else if current.IsRefreshTokenExpired m.now then do
        let terminated ← terminate .expired
        return .result terminated
      else
        joinOrRefresh caller current m

def refreshAfterRejection (caller : ℕ) (observed : SessionTokens) : ClientTask RefreshReply := do
  let m ← look
  if m.terminated then
    return .result (.error (.sessionExpired .refreshRejected))
  else
    match m.session with
    | .noSession => return .result (.error .authenticationRequired)
    | .activeSession current =>
      if current.accessToken ≠ observed.accessToken then
        return .result (.ok current)
      else
        joinOrRefresh caller current m

end TokenRefreshCoordinator

end Karar.MobileClient
