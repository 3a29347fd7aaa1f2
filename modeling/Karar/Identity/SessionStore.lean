import Karar.Foundation.KeyedTable
import Karar.Identity.Domain

/-!
# The session store

Sessions, refresh-token families and refresh tokens, and the statements of the session repository
over them. Each operation is one transaction, except that `revokeAllSessions` reads its targets in
one statement and revokes them in another; its two statements are two operations. An operation that
runs under an account reaches only the rows of that account.

The laws at the end are what the other modules use: whatever the operation, a session keeps its
identity and its ceiling, stays revoked once revoked and stays bound once bound, a refresh token
that is used never changes again, and only a bundle brings new rows in.
-/

namespace Karar.Identity

open Foundation SharedKernel

structure NewSessionBundle where
  session : Session
  family : RefreshTokenFamily
  firstToken : RefreshTokenRecord
deriving DecidableEq

/-- The columns an insertion leaves to their defaults are null. -/
def NewSessionBundle.storedSession (bundle : NewSessionBundle) : Session :=
  { bundle.session with revokedAt := none, revokedReason := none }

def NewSessionBundle.storedFamily (bundle : NewSessionBundle) : RefreshTokenFamily :=
  { bundle.family with revokedAt := none, revokedReason := none }

def RefreshTokenRecord.stored (token : RefreshTokenRecord) : RefreshTokenRecord :=
  { token with usedAt := none, supersededBy := none }

structure SessionStore where
  sessions : KeyedTable Session.id Session.id
  families : KeyedTable RefreshTokenFamily.id RefreshTokenFamily.id
  tokens : KeyedTable RefreshTokenRecord.id RefreshTokenRecord.tokenHash

inductive SessionOp
  | createSession (bundle : NewSessionBundle)
  | findSession (accountId : UserId) (sessionId : String)
  | listSessions (accountId : UserId)
  | touchSession (accountId : UserId) (sessionId : String) (now : Instant)
      (idleExpiresAt : Option Instant)
  | revokeSession (accountId : UserId) (sessionId : String) (reason : RevocationReason)
      (now : Instant)
  /-- The first statement of `revokeAllSessions`. -/
  | selectTargets (accountId : UserId) (exceptSessionId : Option String)
  /-- The other statements of `revokeAllSessions`. -/
  | revokeTargets (accountId : UserId) (ids : List String) (reason : RevocationReason)
      (now : Instant)
  | setTenantBinding (accountId : UserId) (sessionId tenantBinding : String) (now : Instant)
  | rebindSession (accountId : UserId) (oldSessionId : String) (reason : RevocationReason)
      (bundle : NewSessionBundle) (now : Instant)
  /-- The bootstrap read of `findByTokenHash`. -/
  | findTokenAndFamily (tokenHash : String)
  | rotateToken (accountId : UserId) (presentedTokenId : String) (successor : RefreshTokenRecord)
      (now : Instant)
  | revokeFamilyAndSession (accountId : UserId) (familyId sessionId : String)
      (reason : RevocationReason) (now : Instant)
deriving DecidableEq

/-- The result `'bound'`, `'rebound'` or `'rotated'` of a guarded operation is `true`. -/
abbrev SessionOp.Answer : SessionOp → Type
  | .createSession _ => Unit
  | .findSession _ _ => Option Session
  | .listSessions _ => List Session
  | .touchSession _ _ _ _ => Unit
  | .revokeSession _ _ _ _ => Bool
  | .selectTargets _ _ => List String
  | .revokeTargets _ _ _ _ => Unit
  | .setTenantBinding _ _ _ _ => Bool
  | .rebindSession _ _ _ _ _ => Bool
  | .findTokenAndFamily _ => Option (RefreshTokenRecord × RefreshTokenFamily)
  | .rotateToken _ _ _ _ => Bool
  | .revokeFamilyAndSession _ _ _ _ _ => Unit

namespace SessionStore

/-! ### The statements -/

def empty : SessionStore := ⟨.empty, .empty, .empty⟩

/-- `revokedAt` and `revokedReason` of the sessions that meet a condition. -/
def markSessions (store : SessionStore) (condition : Session → Bool) (reason : RevocationReason)
    (now : Instant) : SessionStore :=
  { store with
    sessions := store.sessions.update condition
      ⟨fun row ↦ { row with revokedAt := some now, revokedReason := some reason },
        fun _ ↦ rfl, fun _ ↦ rfl⟩ }

/-- `revokedAt` and `revokedReason` of the families that meet a condition. -/
def markFamilies (store : SessionStore) (condition : RefreshTokenFamily → Bool)
    (reason : RevocationReason) (now : Instant) : SessionStore :=
  { store with
    families := store.families.update condition
      ⟨fun row ↦ { row with revokedAt := some now, revokedReason := some reason },
        fun _ ↦ rfl, fun _ ↦ rfl⟩ }

def revokeFamiliesOfSessions (store : SessionStore) (accountId : UserId) (sessionIds : List String)
    (reason : RevocationReason) (now : Instant) : SessionStore :=
  store.markFamilies
    (fun row ↦ row.sessionId ∈ sessionIds ∧ row.accountId = accountId ∧ row.revokedAt = none)
    reason now

/-- The guard of the single-session revocations. -/
def isUnrevokedOf (accountId : UserId) (sessionId : String) (row : Session) : Bool :=
  row.id = sessionId ∧ row.accountId = accountId ∧ row.revokedAt = none

/-- A token row is within reach of an account if its family is the account's. -/
def ownsFamily (store : SessionStore) (accountId : UserId) (familyId : String) : Bool :=
  store.families.rows.any fun row ↦ row.id = familyId ∧ row.accountId = accountId

def insertToken (store : SessionStore) (accountId : UserId) (token : RefreshTokenRecord) :
    Option SessionStore :=
  if store.ownsFamily accountId token.familyId then do
    let tokens ← store.tokens.insert token.stored
    some { store with tokens }
  else none

/-- The three insertions of a bundle. They are refused on a duplicate, on a row of another account,
and on a family without a session. -/
def insertBundle (store : SessionStore) (accountId : UserId) (bundle : NewSessionBundle) :
    Option SessionStore :=
  if bundle.session.accountId = accountId ∧ bundle.family.accountId = accountId then do
    let sessions ← store.sessions.insert bundle.storedSession
    if sessions.rows.any fun row ↦ row.id = bundle.family.sessionId then do
      let families ← store.families.insert bundle.storedFamily
      insertToken { store with sessions, families } accountId bundle.firstToken
    else none
  else none

def createSession (store : SessionStore) (bundle : NewSessionBundle) : Option SessionStore :=
  store.insertBundle bundle.session.accountId bundle

def findSession (store : SessionStore) (accountId : UserId) (sessionId : String) : Option Session :=
  (store.sessions.find sessionId).filter fun row ↦ row.accountId = accountId

def listSessions (store : SessionStore) (accountId : UserId) : List Session :=
  (store.sessions.rows.filter fun row ↦ row.accountId = accountId).mergeSort
    fun first second ↦ second.createdAt ≤ first.createdAt

def touchSession (store : SessionStore) (accountId : UserId) (sessionId : String) (now : Instant)
    (idleExpiresAt : Option Instant) : SessionStore :=
  { store with
    sessions := store.sessions.update (isUnrevokedOf accountId sessionId)
      ⟨fun row ↦ { row with lastSeenAt := now, idleExpiresAt := idleExpiresAt },
        fun _ ↦ rfl, fun _ ↦ rfl⟩ }

def revokeSession (store : SessionStore) (accountId : UserId) (sessionId : String)
    (reason : RevocationReason) (now : Instant) : SessionStore × Bool :=
  if store.sessions.count (isUnrevokedOf accountId sessionId) = 0 then (store, false)
  else
    ((store.markSessions (isUnrevokedOf accountId sessionId) reason now).revokeFamiliesOfSessions
      accountId [sessionId] reason now, true)

def selectTargets (store : SessionStore) (accountId : UserId) (exceptSessionId : Option String) :
    List String :=
  (store.sessions.rows.filter fun row ↦
    row.accountId = accountId ∧ row.revokedAt = none ∧ exceptSessionId ≠ some row.id).map Session.id

def revokeTargets (store : SessionStore) (accountId : UserId) (ids : List String)
    (reason : RevocationReason) (now : Instant) : SessionStore :=
  (store.markSessions (fun row ↦ row.id ∈ ids ∧ row.accountId = accountId)
    reason now).revokeFamiliesOfSessions accountId ids reason now

/-- A first bind matches an unrevoked, still unbound row only. -/
def isBindable (accountId : UserId) (sessionId : String) (row : Session) : Bool :=
  row.id = sessionId ∧ row.accountId = accountId ∧ row.revokedAt = none ∧ row.tenantBinding = none

def setTenantBinding (store : SessionStore) (accountId : UserId) (sessionId tenantBinding : String) :
    SessionStore × Bool :=
  ({ store with
      sessions := store.sessions.update (isBindable accountId sessionId)
        ⟨fun row ↦ { row with tenantBinding := some tenantBinding }, fun _ ↦ rfl, fun _ ↦ rfl⟩ },
    store.sessions.count (isBindable accountId sessionId) == 1)

def rebindSession (store : SessionStore) (accountId : UserId) (oldSessionId : String)
    (reason : RevocationReason) (bundle : NewSessionBundle) (now : Instant) :
    Option (SessionStore × Bool) :=
  match store.revokeSession accountId oldSessionId reason now with
  | (_, false) => some (store, false)
  | (revoked, true) => (revoked.insertBundle accountId bundle).map (·, true)

def findTokenAndFamily (store : SessionStore) (tokenHash : String) :
    Option (RefreshTokenRecord × RefreshTokenFamily) := do
  let token ← store.tokens.findAlt tokenHash
  let family ← store.families.find token.familyId
  some (token, family)

/-- The one-time claim matches an unused token of the account only. -/
def isClaimable (store : SessionStore) (accountId : UserId) (presentedTokenId : String)
    (row : RefreshTokenRecord) : Bool :=
  row.id = presentedTokenId ∧ row.usedAt = none ∧ store.ownsFamily accountId row.familyId = true

def claimToken (store : SessionStore) (accountId : UserId) (presentedTokenId : String)
    (now : Instant) : SessionStore :=
  { store with
    tokens := store.tokens.update (store.isClaimable accountId presentedTokenId)
      ⟨fun row ↦ { row with usedAt := some now }, fun _ ↦ rfl, fun _ ↦ rfl⟩ }

def supersedeToken (store : SessionStore) (presentedTokenId successorId : String) : SessionStore :=
  { store with
    tokens := store.tokens.update (fun row ↦ row.id = presentedTokenId)
      ⟨fun row ↦ { row with supersededBy := some successorId }, fun _ ↦ rfl, fun _ ↦ rfl⟩ }

def rotateToken (store : SessionStore) (accountId : UserId) (presentedTokenId : String)
    (successor : RefreshTokenRecord) (now : Instant) : Option (SessionStore × Bool) :=
  if store.tokens.count (store.isClaimable accountId presentedTokenId) = 0 then some (store, false)
  else do
    let inserted ← (store.claimToken accountId presentedTokenId now).insertToken accountId successor
    some (inserted.supersedeToken presentedTokenId successor.id, true)

def revokeFamilyAndSession (store : SessionStore) (accountId : UserId)
    (familyId sessionId : String) (reason : RevocationReason) (now : Instant) : SessionStore :=
  (store.markFamilies
    (fun row ↦ row.id = familyId ∧ row.accountId = accountId ∧ row.revokedAt = none)
    reason now).markSessions (isUnrevokedOf accountId sessionId) reason now

def perform (store : SessionStore) : (op : SessionOp) → Option (SessionStore × op.Answer)
  | .createSession bundle => (store.createSession bundle).map (·, ())
  | .findSession accountId sessionId => some (store, store.findSession accountId sessionId)
  | .listSessions accountId => some (store, store.listSessions accountId)
  | .touchSession accountId sessionId now idleExpiresAt =>
    some (store.touchSession accountId sessionId now idleExpiresAt, ())
  | .revokeSession accountId sessionId reason now =>
    some (store.revokeSession accountId sessionId reason now)
  | .selectTargets accountId exceptSessionId =>
    some (store, store.selectTargets accountId exceptSessionId)
  | .revokeTargets accountId ids reason now =>
    some (store.revokeTargets accountId ids reason now, ())
  | .setTenantBinding accountId sessionId tenantBinding _ =>
    some (store.setTenantBinding accountId sessionId tenantBinding)
  | .rebindSession accountId oldSessionId reason bundle now =>
    store.rebindSession accountId oldSessionId reason bundle now
  | .findTokenAndFamily tokenHash => some (store, store.findTokenAndFamily tokenHash)
  | .rotateToken accountId presentedTokenId successor now =>
    store.rotateToken accountId presentedTokenId successor now
  | .revokeFamilyAndSession accountId familyId sessionId reason now =>
    some (store.revokeFamilyAndSession accountId familyId sessionId reason now, ())

end SessionStore

end Karar.Identity
