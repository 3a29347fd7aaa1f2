import Karar.Foundation.EventLoop
import Karar.MobileClient.Credential

/-!
# The process of the mobile client

What the objects of the client share: the memory of the process with its assignments, and the world
outside, that is the platform's stores and the network, with the operations that are awaited. A
storage operation succeeds or reports a failure; one that fails leaves the stored value as it was.

An await of a function of the client itself is a `microtask`: the awaited future is complete, and
other tasks may still run before the await goes on. The futures of a refresh and of a read of the
credential are awaited under their own names, with what they complete with.
-/

namespace Karar.MobileClient

open Foundation SharedKernel

/-! ### Memory -/

/-- What the client knows about the current session. -/
inductive SessionState
  | noSession
  | activeSession (tokens : SessionTokens)
deriving DecidableEq

/-- The current credential, or null. -/
def SessionState.tokens : SessionState → Option SessionTokens
  | noSession => none
  | activeSession tokens => some tokens

/-- What became of a credential the caller asked to destroy. -/
inductive SessionAbandonmentOutcome
  | credentialErased
  | credentialErasedMarkerRetained
  | credentialPersistedButDurablyInvalidated
  | abandonmentNotDurable
  | abandonmentSecurityStateUnavailable
deriving DecidableEq

structure SessionEnded where
  reason : SessionEndReason
  outcome : SessionAbandonmentOutcome
deriving DecidableEq

/-- The mutable fields of `SessionManager`, `TokenRefreshCoordinator`, `SecureTokenStore` and
`StartupCoordinator`, and the clock. -/
structure Memory where
  now : Instant
  session : SessionState
  /-- The refresh in flight, by the number of the call that started it. -/
  inFlight : Option ℕ
  terminated : Bool
  refreshCallCount : ℕ
  abandonedThisProcess : Bool
  generation : ℕ
  /-- The session ends that were emitted and have not reached their listener. -/
  ended : List SessionEnded
deriving DecidableEq

/-- The memory of a process that has just started. -/
def Memory.launched (now : Instant) : Memory where
  now := now
  session := .noSession
  inFlight := none
  terminated := false
  refreshCallCount := 0
  abandonedThisProcess := false
  generation := 0
  ended := []

/-- An assignment of the source. The session is assigned in four places. -/
inductive Assignment
  | restored (state : SessionState)
  | adopted (tokens : SessionTokens)
  | ended
  | abandoned
  | inFlight (flight : Option ℕ)
  | terminated (isTerminated : Bool)
  | refreshCallCount
  | abandonedThisProcess (isAbandoned : Bool)
  | generation
  | emitted (event : SessionEnded)
  | delivered
deriving DecidableEq

def Assignment.perform : Assignment → Memory → Memory
  | restored state, m => { m with session := state }
  | adopted tokens, m => { m with session := .activeSession tokens }
  | ended, m => { m with session := .noSession }
  | abandoned, m => { m with session := .noSession }
  | inFlight flight, m => { m with inFlight := flight }
  | terminated isTerminated, m => { m with terminated := isTerminated }
  | refreshCallCount, m => { m with refreshCallCount := m.refreshCallCount + 1 }
  | abandonedThisProcess isAbandoned, m => { m with abandonedThisProcess := isAbandoned }
  | generation, m => { m with generation := m.generation + 1 }
  | emitted event, m => { m with ended := m.ended ++ [event] }
  | delivered, m => { m with ended := m.ended.tail }

/-! ### World -/

/-- What is stored under the key of the session tokens, as `_decode` reads it. -/
inductive StoredEntry
  | tokens (tokens : SessionTokens)
  | undecodable
deriving DecidableEq

/-- What is stored under a local security flag. -/
inductive StoredFlag
  | value (value : Bool)
  | damaged
deriving DecidableEq

structure World where
  entry : Option StoredEntry
  /-- The abandonment marker. -/
  marker : Option StoredFlag
deriving DecidableEq

inductive SecurityStateRead
  | value (value : Bool)
  | absent
  | unavailable
  | corrupt
deriving DecidableEq

inductive SecurityStateWrite
  | written
  | writeFailed
  | unavailable
deriving DecidableEq

inductive SecurityStateRemoval
  | removed
  | removeFailed
  | unavailable
deriving DecidableEq

/-- How `rawClient.identityRefresh` ends: an `ApiException` carries its failure. -/
inductive RefreshResponse
  | payload (payload : SessionPayload)
  | apiException (failure : Failure)
  | thrown
deriving DecidableEq

/-- How a `RefreshTokenCall` ends. -/
inductive RefreshOutcome
  | result (result : Result SessionTokens)
  | thrown
deriving DecidableEq

inductive Operation
  | identityRefresh (refreshToken : String)
  | refreshed (outcome : RefreshOutcome)
  | readSecure
  | writeSecure (tokens : SessionTokens)
  | deleteSecure
  /-- Is the key among those of the secure store? -/
  | listSecure
  | readMarker
  | writeMarker (value : Bool)
  | removeMarker
  | readCredential (stored : Result (Option SessionTokens))
  /-- Is the lock choice known, and the lock open? -/
  | loadLock
  | microtask
deriving DecidableEq

abbrev Operation.Answer : Operation → Type
  | identityRefresh _ => RefreshResponse
  | refreshed _ => Unit
  | readSecure => Result (Option StoredEntry)
  | writeSecure _ => Result Unit
  | deleteSecure => Result Unit
  | listSecure => Result Bool
  | readMarker => SecurityStateRead
  | writeMarker _ => SecurityStateWrite
  | removeMarker => SecurityStateRemoval
  | readCredential _ => Unit
  | loadLock => Bool
  | microtask => Unit

inductive Oracle
  | succeeds
  | refuses
  | unavailable
  | responds (response : RefreshResponse)
  | lock (isOpen : Bool)
deriving DecidableEq

/-- The answer of a flag that could be consulted. -/
def World.markerRead (w : World) : SecurityStateRead :=
  match w.marker with
  | none => .absent
  | some (.value value) => .value value
  | some .damaged => .corrupt

/-- How the world answers. `none` means that it does not answer so. -/
def World.answer (w : World) : (op : Operation) → Oracle → Option (World × op.Answer)
  | .identityRefresh _, .responds response => some (w, response)
  | .refreshed _, .succeeds => some (w, ())
  | .readSecure, .succeeds => some (w, .ok w.entry)
  | .readSecure, .refuses => some (w, .error (.secureStorageUnavailable .read))
  | .writeSecure tokens, .succeeds => some ({ w with entry := some (.tokens tokens) }, .ok ())
  | .writeSecure _, .refuses => some (w, .error (.secureStorageUnavailable .write))
  | .deleteSecure, .succeeds => some ({ w with entry := none }, .ok ())
  | .deleteSecure, .refuses => some (w, .error (.secureStorageUnavailable .delete))
  | .listSecure, .succeeds => some (w, .ok w.entry.isSome)
  | .listSecure, .refuses => some (w, .error (.secureStorageUnavailable .delete))
  | .readMarker, .succeeds => some (w, w.markerRead)
  | .readMarker, .unavailable => some (w, .unavailable)
  | .writeMarker value, .succeeds => some ({ w with marker := some (.value value) }, .written)
  | .writeMarker _, .refuses => some (w, .writeFailed)
  | .writeMarker _, .unavailable => some (w, .unavailable)
  | .removeMarker, .succeeds => some ({ w with marker := none }, .removed)
  | .removeMarker, .refuses => some (w, .removeFailed)
  | .removeMarker, .unavailable => some (w, .unavailable)
  | .readCredential _, .succeeds => some (w, ())
  | .loadLock, .lock isOpen => some (w, isOpen)
  | .microtask, .succeeds => some (w, ())
  | _, _ => none

/-- A task of the client. -/
abbrev ClientTask := EventLoop.Task Memory Assignment Operation.Answer

abbrev await (op : Operation) : ClientTask op.Answer := EventLoop.await op

abbrev act (assignment : Assignment) : ClientTask Unit := EventLoop.act assignment

abbrev look : ClientTask Memory := EventLoop.look

/-- An operation that can change what is stored under the key of the session tokens. -/
def Operation.WritesEntry : Operation → Prop
  | writeSecure _ | deleteSecure => True
  | _ => False

/-- Every other operation leaves the stored credential alone. -/
theorem World.entry_of_answer {w later : World} {op : Operation} {oracle : Oracle}
    {answer : op.Answer} (hanswer : w.answer op oracle = some (later, answer)) :
    later.entry = w.entry ∨ oracle = .succeeds ∧ op.WritesEntry := by
  cases op <;> cases oracle <;>
    simp only [World.answer, Option.some.injEq, Prod.mk.injEq, reduceCtorEq] at hanswer <;>
    simp [← hanswer.1, Operation.WritesEntry]

end Karar.MobileClient
