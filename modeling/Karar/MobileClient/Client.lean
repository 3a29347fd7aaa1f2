import Karar.MobileClient.TokenStore

/-!
# The calls of the mobile client

The calls that reach the session credential: the refreshes, the adoption of a sign-in, the wipe of
the local credentials, the tenant switch, and the runs of the startup coordinator as far as they
restore or end the session. Together they are the process whose runs the theorems are about.
-/

namespace Karar.MobileClient

open Foundation.EventLoop

/-! ### Sign-in, sign-out, tenant switch -/

/-- `SessionAdoption.adopt`: the identifier of the session that was established. -/
def SessionAdoption.adopt (payload : SessionPayload) : ClientTask (Result String) :=
  match payload.decode none with
  | .error failure => return .error failure
  | .ok value => do
    TokenRefreshCoordinator.reset
    let adopted ← awaited (SessionManager.adopt value)
    match adopted with
    | .error _ =>
      let _ ← awaited (SessionManager.endSession .signedOut)
      return .error (.secureStorageUnavailable .write)
    | .ok () => return .ok value.sessionId

def SessionAdoption.clearLocalCredentials : ClientTask Unit := do
  let _ ← awaited SessionManager.abandonPersistedSession
  let _ ← awaited SecureStore.deleteAll

/-- `ApiTenantBindingRepository._adopt`. A credential that cannot be persisted is kept in memory. -/
def ApiTenantBindingRepository.adopt (tokens : SessionTokens) : ClientTask Unit := do
  let _ ← awaited (SessionManager.endSession .revoked)
  let _ ← awaited (SessionManager.adopt tokens)

/-! ### The startup coordinator -/

namespace StartupCoordinator

/-- `++_generation`. -/
def nextGeneration : ClientTask ℕ := do
  act .generation
  let m ← look
  return m.generation

/-- After the restore: a chain that has aged out ends the session. -/
def endExpired : ClientTask Unit := do
  let m ← look
  match m.session with
  | .noSession => return ()
  | .activeSession tokens =>
    if tokens.IsRefreshTokenExpired m.now then
      let _ ← awaited (SessionManager.endSession .expired)
    else
      return ()

/-- `_restoreAndBootstrap`, up to the load of the bootstrap context. -/
def restoreAndBootstrap (generation : ℕ) : ClientTask Unit := do
  let restored ← awaited SessionManager.restore
  let m ← look
  if m.generation ≠ generation then
    return ()
  else
    match restored with
    | .error _ | .ok none => return ()
    | .ok (some _) => endExpired

/-- With a valid configuration. -/
def start : ClientTask Unit := do
  let generation ← nextGeneration
  let isOpen : Bool ← await .loadLock
  let m ← look
  if m.generation ≠ generation then
    return ()
  else if isOpen then
    restoreAndBootstrap generation
  else
    return ()

/-- `onAuthenticated`, `onEmailVerified`, `onTenantSelected` and `retryBootstrap`, and `unlock` once
the configuration and the lock choice are known. -/
def restart : ClientTask Unit := do
  let generation ← nextGeneration
  restoreAndBootstrap generation

def abandonLockedSession : ClientTask Unit := do
  let _ ← nextGeneration
  let _ ← awaited SessionManager.abandonPersistedSession

/-- The listener of the session ends, with the earliest event that has not reached it. -/
def onSessionEnded : ClientTask Unit := do
  let m ← look
  match m.ended with
  | [] => return ()
  | _ :: _ =>
    act .delivered
    act .generation

end StartupCoordinator

/-! ### The process -/

inductive Request
  | ensureUsable (observed : SessionTokens)
  | refreshAfterRejection (observed : SessionTokens)
  | adoptSession (payload : SessionPayload)
  | clearLocalCredentials
  | endSession (reason : SessionEndReason)
  | abandonPersistedSession
  | switchTenant (tokens : SessionTokens)
  | start
  | restart
  | abandonLockedSession
  /-- `onMfaChallengeRequired` and `onMfaChallengeAbandoned`. -/
  | onMfaChallenge
  | onSessionEnded
deriving DecidableEq

inductive Reply
  | refresh (reply : RefreshReply)
  | established (result : Result String)
  | abandoned (outcome : SessionAbandonmentOutcome)
  | completed
deriving DecidableEq

/-- The task of a call, with the number of the call. -/
def Request.task : Request → ℕ → ClientTask Reply
  | ensureUsable observed, caller => do
    return .refresh (← TokenRefreshCoordinator.ensureUsable caller observed)
  | refreshAfterRejection observed, caller => do
    return .refresh (← TokenRefreshCoordinator.refreshAfterRejection caller observed)
  | adoptSession payload, _ => do
    return .established (← SessionAdoption.adopt payload)
  | clearLocalCredentials, _ => do
    SessionAdoption.clearLocalCredentials
    return .completed
  | endSession reason, _ => do
    return .abandoned (← SessionManager.endSession reason)
  | abandonPersistedSession, _ => do
    return .abandoned (← SessionManager.abandonPersistedSession)
  | switchTenant tokens, _ => do
    ApiTenantBindingRepository.adopt tokens
    return .completed
  | start, _ => do
    StartupCoordinator.start
    return .completed
  | restart, _ => do
    StartupCoordinator.restart
    return .completed
  | abandonLockedSession, _ => do
    StartupCoordinator.abandonLockedSession
    return .completed
  | onMfaChallenge, _ => do
    let _ ← StartupCoordinator.nextGeneration
    return .completed
  | onSessionEnded, _ => do
    StartupCoordinator.onSessionEnded
    return .completed

/-- The process of the client. Its clock moves by itself. -/
def client : Loop Memory World Assignment Operation.Answer Oracle Request Reply SharedKernel.Instant
    where
  perform := Assignment.perform
  handler := World.answer
  task := Request.task
  tick m now := { m with now := now }

abbrev ClientScene := Scene Memory World Assignment Operation.Answer Request

abbrev ClientHappening := Happening Memory Assignment Operation.Answer Request

abbrev ClientRecord := Record Memory Assignment Operation.Answer Request

abbrev ClientHistory := List ClientRecord

abbrev ClientEvent := Event Oracle Request SharedKernel.Instant

abbrev ClientProcess := Process Memory World Assignment Operation.Answer Request Reply

/-- A process that has just started, on a device with stores of its own. -/
def launch (now : SharedKernel.Instant) (world : World) : ClientProcess :=
  .initial (.launched now) world

end Karar.MobileClient
