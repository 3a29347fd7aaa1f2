import Karar.MobileClient.TokenStore
import Karar.MobileConfiguration.ConfigurationLoader

/-!
# The startup coordinator

The startup states, and `StartupCoordinator`, the one component that assigns the state. Each of its
runs takes a generation, and checks after every await that the generation is still the newest one
before it goes on.

The coordinator shares the process with the session manager, whose ends reach it as events, and with
the gate of the application lock. The token store, the security state store and the bootstrap endpoint
are the world outside and may answer anything. An await at the end of a function is left out, since
nothing is done after it; every task notes its completion.
-/

namespace Karar.MobileClient.Startup

open Foundation SharedKernel
open Foundation.EventLoop (Task Loop)
open MobileConfiguration (AppConfiguration)

/-! ## The bootstrap context -/

structure TenantOption where
  tenantId : String
  name : String
  roleHint : String
deriving DecidableEq

inductive TenantBinding
  | tenantUnbound
  | tenantBound (tenant : TenantOption)
  | tenantSelectionRequired (choices : List TenantOption)
deriving DecidableEq

inductive OperatingEntityState
  | assigned
  | unassigned
  | unavailable
  | unknown
deriving DecidableEq

inductive CapabilityResolutionState
  | resolved
  | unknown
deriving DecidableEq

/-- What the coordinator reads of a bootstrap context. -/
structure BootstrapSnapshot where
  emailVerified : Bool
  binding : TenantBinding
  operatingEntityState : OperatingEntityState
  capabilityState : CapabilityResolutionState
deriving DecidableEq

/-! ## The states -/

inductive StartupState
  | configLoading
  | configInvalid (violations : List (List Char))
  | localSecurityStateUnavailable (failure : Failure)
  | securityRecoveryBlocked (outcome : SessionAbandonmentOutcome)
  | appLocked
  | sessionRestoring
  | unauthenticated (secureStorageUnavailable : Bool)
  | sessionExpired (reason : SessionEndReason)
  | mfaChallengeRequired
  | emailVerificationRequired
  | bootstrapLoading
  | bootstrapUnavailable (failure : Failure)
  | tenantSelectionPending (choices : List TenantOption)
  | ready (bootstrap : BootstrapSnapshot)
deriving DecidableEq

namespace StartupState

def isReady : StartupState → Bool
  | ready _ => true
  | _ => false

/-- The coordinator is working. -/
def isTransient : StartupState → Bool
  | configLoading | sessionRestoring | bootstrapLoading => true
  | _ => false

end StartupState

/-! ## The process -/

inductive AppLockChoice
  | known (enabled : Bool)
  | unavailable (failure : Failure)
  | notLoaded
deriving DecidableEq

/-- The mutable fields of `StartupCoordinator`, `AppLockGate` and `SessionManager`, and the clock. -/
structure Memory where
  now : Instant
  configuration : Option AppConfiguration
  choice : AppLockChoice
  unlockedThisLaunch : Bool
  session : SessionState
  /-- The coordinator listens to the session ends. -/
  subscribed : Bool
  /-- The session ends that were emitted and have not reached the listener. -/
  ended : List SessionEnded
  generation : ℕ
  state : StartupState

/-- The memory of a process that has just started. -/
def Memory.launched (now : Instant) : Memory where
  now := now
  configuration := none
  choice := .notLoaded
  unlockedThisLaunch := false
  session := .noSession
  subscribed := false
  ended := []
  generation := 0
  state := .configLoading

namespace AppLockGate

/-- The store gave a definite no. -/
def isDurablyDisabled (m : Memory) : Bool := m.choice = .known false

def isChoiceKnown (m : Memory) : Bool := m.choice = .known true ∨ m.choice = .known false

def isLocked (m : Memory) : Bool := !m.unlockedThisLaunch && !isDurablyDisabled m

end AppLockGate

/-- An assignment of the source. -/
inductive Assignment
  | configuration (configuration : Option AppConfiguration)
  | choice (choice : AppLockChoice)
  | unlockedThisLaunch (isUnlocked : Bool)
  | session (session : SessionState)
  | subscribed
  | emitted (event : SessionEnded)
  | delivered
  | generation
  | state (next : StartupState)
  /-- The future of the call completes. -/
  | completed

def Assignment.perform : Assignment → Memory → Memory
  | configuration loaded, m => { m with configuration := loaded }
  | choice known, m => { m with choice := known }
  | unlockedThisLaunch isUnlocked, m => { m with unlockedThisLaunch := isUnlocked }
  | session held, m => { m with session := held }
  | subscribed, m => { m with subscribed := true }
  | emitted event, m => { m with ended := if m.subscribed then m.ended ++ [event] else m.ended }
  | delivered, m => { m with ended := m.ended.tail }
  | generation, m => { m with generation := m.generation + 1 }
  | state next, m => { m with state := next }
  | completed, m => m

inductive Operation
  | readSecurityState
  | writeSecurityState (enabled : Bool)
  /-- `TokenStore.read`. -/
  | readTokens
  | writeTokens (tokens : SessionTokens)
  | clearTokens
  /-- `BootstrapGateway.load`. -/
  | loadBootstrap
  | microtask
deriving DecidableEq

abbrev Operation.Answer : Operation → Type
  | readSecurityState => SecurityStateRead
  | writeSecurityState _ => SecurityStateWrite
  | readTokens => Result (Option SessionTokens)
  | writeTokens _ => Result Unit
  | clearTokens => SessionAbandonmentOutcome
  | loadBootstrap => Except Failure BootstrapSnapshot
  | microtask => Unit

/-- What the world says to an operation. -/
inductive Oracle
  | completes
  | securityState (read : SecurityStateRead)
  | securityStateWritten (outcome : SecurityStateWrite)
  | tokens (stored : Result (Option SessionTokens))
  | tokensWritten (outcome : Result Unit)
  | cleared (outcome : SessionAbandonmentOutcome)
  | bootstrap (loaded : Except Failure BootstrapSnapshot)

/-- Any answer of the type of the operation. -/
def answer (world : Unit) : (op : Operation) → Oracle → Option (Unit × op.Answer)
  | .readSecurityState, .securityState read => some (world, read)
  | .writeSecurityState _, .securityStateWritten outcome => some (world, outcome)
  | .readTokens, .tokens stored => some (world, stored)
  | .writeTokens _, .tokensWritten outcome => some (world, outcome)
  | .clearTokens, .cleared outcome => some (world, outcome)
  | .loadBootstrap, .bootstrap loaded => some (world, loaded)
  | .microtask, .completes => some (world, ())
  | _, _ => none

abbrev ShellTask := Task Memory Assignment Operation.Answer

abbrev await (op : Operation) : ShellTask op.Answer := EventLoop.await op

abbrev act (assignment : Assignment) : ShellTask Unit := EventLoop.act assignment

abbrev look : ShellTask Memory := EventLoop.look

/-- The await of a function of the client, from which the function goes on. -/
def awaited {T : Type} (task : ShellTask T) : ShellTask T := do
  let result ← task
  await .microtask
  return result

/-! ### The gate of the application lock -/

namespace AppLockGate

/-- What a read of the lock choice says. -/
def choiceOf : SecurityStateRead → AppLockChoice
  | .value enabled => .known enabled
  | .absent => .known false
  | .unavailable => .unavailable (.localSecurityStateUnavailable .read)
  | .corrupt => .unavailable .localSecurityStateCorrupt

def load : ShellTask AppLockChoice := do
  let read : SecurityStateRead ← await .readSecurityState
  act (.choice (choiceOf read))
  return choiceOf read

/-- Persists the choice. The memory moves on a confirmed write only. -/
def setEnabled (enabled : Bool) : ShellTask Unit := do
  let outcome : SecurityStateWrite ← await (.writeSecurityState enabled)
  if outcome = .written then
    act (.choice (.known enabled))
    if enabled then act (.unlockedThisLaunch false) else return ()
  else return ()

end AppLockGate

/-! ### The session manager -/

namespace Sessions

def restore : ShellTask (Result (Option SessionTokens)) := do
  let stored : Result (Option SessionTokens) ← await .readTokens
  act (.session (SessionManager.restoredState stored))
  return stored

def adopt (tokens : SessionTokens) : ShellTask (Result Unit) := do
  act (.session (.activeSession tokens))
  await (.writeTokens tokens)

/-- `end`. -/
def endSession (reason : SessionEndReason) : ShellTask SessionAbandonmentOutcome := do
  let m ← look
  if m.session = .noSession then return .credentialErased
  else
    act (.session .noSession)
    let cleared : SessionAbandonmentOutcome ← await .clearTokens
    act (.emitted ⟨reason, cleared⟩)
    return cleared

def abandonPersistedSession : ShellTask SessionAbandonmentOutcome := do
  act (.session .noSession)
  await .clearTokens

end Sessions

/-! ### The coordinator -/

namespace StartupCoordinator

/-- `_emit`. -/
def emit (next : StartupState) (generation : ℕ) : ShellTask Unit := do
  let m ← look
  if generation ≠ m.generation then return () else act (.state next)

/-- `++_generation`. -/
def nextGeneration : ShellTask ℕ := do
  act .generation
  let m ← look
  return m.generation

/-- `if (generation != _generation) return;`, and then the rest. -/
def unlessSuperseded (generation : ℕ) (rest : ShellTask Unit) : ShellTask Unit := do
  let m ← look
  if generation ≠ m.generation then return () else rest

def stateForAbandonment : SessionAbandonmentOutcome → StartupState
  | .credentialErased => .unauthenticated false
  | .credentialErasedMarkerRetained => .unauthenticated false
  | .credentialPersistedButDurablyInvalidated => .unauthenticated true
  | .abandonmentNotDurable => .securityRecoveryBlocked .abandonmentNotDurable
  | .abandonmentSecurityStateUnavailable =>
    .securityRecoveryBlocked .abandonmentSecurityStateUnavailable

def stateForBootstrapFailure : Failure → StartupState
  | .sessionExpired reason => .sessionExpired reason
  | .authenticationRequired => .sessionExpired .expired
  | .tenantSelectionRequired => .tenantSelectionPending []
  | failure => .bootstrapUnavailable failure

/-- Once a tenant is bound. -/
def stateForBound (snapshot : BootstrapSnapshot) : StartupState :=
  if snapshot.capabilityState ≠ .resolved then .bootstrapUnavailable .capabilityResolutionUnavailable
  else if snapshot.operatingEntityState = .unavailable ∨ snapshot.operatingEntityState = .unknown then
    .bootstrapUnavailable .dependencyUnavailable
  else .ready snapshot

def stateForSnapshot (snapshot : BootstrapSnapshot) : StartupState :=
  if !snapshot.emailVerified then .emailVerificationRequired
  else
    match snapshot.binding with
    | .tenantSelectionRequired choices => .tenantSelectionPending choices
    | .tenantUnbound => .tenantSelectionPending []
    | .tenantBound _ => stateForBound snapshot

def stateForBootstrap : Except Failure BootstrapSnapshot → StartupState
  | .error failure => stateForBootstrapFailure failure
  | .ok snapshot => stateForSnapshot snapshot

/-- The chain has aged out, and no request could succeed. -/
def endAgedOut (generation : ℕ) : ShellTask Unit := do
  let _ ← awaited (Sessions.endSession .expired)
  unlessSuperseded generation (emit (.sessionExpired .expired) generation)

def bootstrap (generation : ℕ) : ShellTask Unit := do
  emit .bootstrapLoading generation
  let loaded : Except Failure BootstrapSnapshot ← await .loadBootstrap
  unlessSuperseded generation (emit (stateForBootstrap loaded) generation)

/-- With a credential that was restored. -/
def continueWithSession (generation : ℕ) : ShellTask Unit := do
  let m ← look
  match m.session with
  | .noSession => emit (.unauthenticated false) generation
  | .activeSession tokens =>
    if tokens.IsRefreshTokenExpired m.now then endAgedOut generation else bootstrap generation

/-- What a restore that is not superseded leads to. -/
def afterRestore (generation : ℕ) : Result (Option SessionTokens) → ShellTask Unit
  | .error _ => emit (.unauthenticated true) generation
  | .ok none => emit (.unauthenticated false) generation
  | .ok (some _) => continueWithSession generation

/-- `_restoreAndBootstrap`. -/
def restoreAndBootstrap (generation : ℕ) : ShellTask Unit := do
  emit .sessionRestoring generation
  let restored ← awaited Sessions.restore
  unlessSuperseded generation (afterRestore generation restored)

/-- Steps 3 to 5, with a lock choice that was loaded. -/
def afterLoad (generation : ℕ) : AppLockChoice → ShellTask Unit
  | .unavailable failure => emit (.localSecurityStateUnavailable failure) generation
  | .notLoaded =>
    emit (.localSecurityStateUnavailable (.localSecurityStateUnavailable .read)) generation
  | .known _ => do
    let m ← look
    if AppLockGate.isLocked m then emit .appLocked generation else restoreAndBootstrap generation

/-- Runs the whole sequence. -/
def start (loaded : Except (List (List Char)) AppConfiguration) : ShellTask Unit := do
  let generation ← nextGeneration
  act .subscribed
  emit .configLoading generation
  match loaded with
  | .error violations =>
    act (.configuration none)
    emit (.configInvalid violations) generation
  | .ok value =>
    act (.configuration (some value))
    let choice ← awaited AppLockGate.load
    unlessSuperseded generation (afterLoad generation choice)

/-- `onAuthenticated`, `onEmailVerified`, `onTenantSelected` and `retryBootstrap`. -/
def restart : ShellTask Unit := do
  let generation ← nextGeneration
  restoreAndBootstrap generation

/-- The platform authenticated the user against the application lock. -/
def unlock (loaded : Except (List (List Char)) AppConfiguration) : ShellTask Unit := do
  act (.unlockedThisLaunch true)
  let m ← look
  if m.configuration = none ∨ AppLockGate.isChoiceKnown m = false then start loaded else restart

/-- An event that is emitted at once. -/
def emitNext (next : StartupState) : ShellTask Unit := do
  let generation ← nextGeneration
  emit next generation

/-- `abandonLockedSession` and `retrySecurityRecovery`. -/
def abandonLockedSession : ShellTask Unit := do
  let generation ← nextGeneration
  let abandoned ← awaited Sessions.abandonPersistedSession
  unlessSuperseded generation (emit (stateForAbandonment abandoned) generation)

def stateForEnd (event : SessionEnded) : StartupState :=
  if event.reason ≠ .signedOut then .sessionExpired event.reason
  else stateForAbandonment event.outcome

/-- The listener of the session ends, with the earliest event that has not reached it. -/
def onSessionEnded : ShellTask Unit := do
  let m ← look
  match m.ended with
  | [] => return ()
  | event :: _ =>
    act .delivered
    emitNext (stateForEnd event)

end StartupCoordinator

/-! ### The calls -/

inductive Request
  | start
  | unlock
  | onAuthenticated
  | onMfaChallengeRequired
  | onMfaChallengeAbandoned
  | onEmailVerified
  | onTenantSelected
  | retryBootstrap
  | signOut
  | abandonLockedSession
  | retrySecurityRecovery
  /-- The listener is called with an event. -/
  | onSessionEnded
  /-- What the rest of the client does to the session and to the gate. -/
  | adopt (tokens : SessionTokens)
  | endSession (reason : SessionEndReason)
  | abandonPersistedSession
  | relock
  | setLockEnabled (enabled : Bool)
deriving DecidableEq

/-- The body of a call. -/
def Request.body (loaded : Except (List (List Char)) AppConfiguration) : Request → ShellTask Unit
  | start => StartupCoordinator.start loaded
  | unlock => StartupCoordinator.unlock loaded
  | onAuthenticated => StartupCoordinator.restart
  | onMfaChallengeRequired => StartupCoordinator.emitNext .mfaChallengeRequired
  | onMfaChallengeAbandoned => StartupCoordinator.emitNext (.unauthenticated false)
  | onEmailVerified => StartupCoordinator.restart
  | onTenantSelected => StartupCoordinator.restart
  | retryBootstrap => StartupCoordinator.restart
  | signOut => do let _ ← Sessions.endSession .signedOut
  | abandonLockedSession => StartupCoordinator.abandonLockedSession
  | retrySecurityRecovery => StartupCoordinator.abandonLockedSession
  | onSessionEnded => StartupCoordinator.onSessionEnded
  | adopt tokens => do let _ ← Sessions.adopt tokens
  | endSession reason => do let _ ← Sessions.endSession reason
  | abandonPersistedSession => do let _ ← Sessions.abandonPersistedSession
  | relock => act (.unlockedThisLaunch false)
  | setLockEnabled enabled => AppLockGate.setEnabled enabled

/-- The process, with the configuration that the build carries. Its clock moves by itself. -/
def shell (loaded : Except (List (List Char)) AppConfiguration) :
    Loop Memory Unit Assignment Operation.Answer Oracle Request Unit Instant where
  perform := Assignment.perform
  handler := answer
  task request _ := do
    request.body loaded
    act .completed
  tick m now := { m with now := now }

end Karar.MobileClient.Startup
