import Karar.Foundation.Interleaving
import Karar.Identity.Stores
import Karar.Identity.Libraries
import Karar.Identity.MfaStore
import Karar.Identity.SessionStore

/-!
# The ports of the identity use cases

What a use case can ask for: the repositories, the security ledger, and its surroundings, which are
the clock, the sources of randomness, the rate limiter, the audit trail and the notification
channel. An operation of a repository works on that repository's tables alone. The surroundings
change nothing of the store; a draw of randomness is whatever the oracle supplies. Any operation can
also fail, which the machine of interleaved calls allows at every point.
-/

namespace Karar.Identity

open Foundation SharedKernel

/-! ### The security ledger -/

structure SecurityEventCountQuery where
  accountId : UserId
  eventTypes : List SecurityEventType
  /-- When present, count only rows carrying exactly this digest. -/
  ipDigest : Option String
  since : Instant
deriving DecidableEq

inductive LedgerOp
  | record (event : SecurityEvent)
  | countSince (query : SecurityEventCountQuery)
deriving DecidableEq

abbrev LedgerOp.Answer : LedgerOp → Type
  | .record _ => Unit
  | .countSince _ => ℕ

def SecurityEventCountQuery.matches (query : SecurityEventCountQuery) (event : SecurityEvent) :
    Bool :=
  event.accountId = some query.accountId ∧ event.eventType ∈ query.eventTypes ∧
    query.since < event.occurredAt ∧
    (query.ipDigest = none ∨ event.ipDigest = query.ipDigest)

def performLedger (events : List SecurityEvent) : (op : LedgerOp) →
    List SecurityEvent × op.Answer
  | .record event => (events ++ [event], ())
  | .countSince query => (events, events.countP query.matches)

/-! ### The surroundings -/

/-- What is drawn at random: the material of the secret source, and the salts and nonces that the
hashing and encrypting libraries draw for themselves. -/
inductive SecretKind
  | id
  | refreshToken
  | resetToken
  | verificationCode
  | recoveryCode
  | totpSecret
  | salt
  | nonce
deriving DecidableEq

/-- The policies of `RATE_LIMIT_POLICIES` that the identity use cases name. -/
inductive RateLimitPolicy
  | loginPerAccount
  | loginPerIp
  | verificationSend
  | resetSend
  | mfaVerify
  | refresh
deriving DecidableEq

inductive AuditOutcome
  | success
  | denied
  | failure
deriving DecidableEq

structure AuditEvent where
  occurredAt : Instant
  environment : String
  actorRef : Option String
  tenantRef : Option String
  action : String
  resourceType : String
  resourceId : String
  afterMetadata : Option Metadata
  outcome : AuditOutcome
deriving DecidableEq

/-- `SECURITY_NOTICE_KINDS`. -/
inductive SecurityNoticeKind
  | passwordChanged
  | passwordResetCompleted
  | refreshReuseDetected
  | mfaEnrolled
  | mfaDisabled
  | accountDisabled
deriving DecidableEq

inductive Notification
  | verificationCode (recipient code : String) (expiresAt : Instant)
  | passwordReset (recipient token : String) (expiresAt : Instant)
  | securityNotice (recipient : String) (kind : SecurityNoticeKind)
deriving DecidableEq

inductive SurroundingsOp
  | now
  | random (kind : SecretKind)
  /-- Sign a token; its signature is randomized. -/
  | sign (payload : JwtPayload)
  | assertWithinLimit (policy : RateLimitPolicy) (key : String) (now : Instant)
  | recordAudit (event : AuditEvent)
  | notify (notification : Notification)
  /-- A `throw`, with the message of its error. -/
  | raise (message : String)
deriving DecidableEq

abbrev SurroundingsOp.Answer : SurroundingsOp → Type
  | .now => Instant
  | .random _ => String
  | .sign _ => String
  | .assertWithinLimit _ _ _ => Unit
  | .recordAudit _ => Unit
  | .notify _ => Unit
  | .raise _ => Empty

def performSurroundings (deps : IdentityDependencies) (clock : Instant) (oracle : String) : (op : SurroundingsOp) →
    Option op.Answer
  | .now => some clock
  | .random _ => some oracle
  | .sign payload => some (deps.signJwt oracle payload)
  | .assertWithinLimit _ _ _ => some ()
  | .recordAudit _ => some ()
  | .notify _ => some ()
  | .raise _ => none

/-! ### All ports -/

structure IdentityStore where
  accounts : AccountStore
  verifications : VerificationTable
  resets : ResetTable
  sessions : SessionStore
  mfa : MfaStore
  events : List SecurityEvent
  clock : Instant

def IdentityStore.empty : IdentityStore where
  accounts := .empty
  verifications := .empty
  resets := .empty
  sessions := .empty
  mfa := .empty
  events := []
  clock := 0

inductive IdentityOp
  | accounts (op : AccountOp)
  | verifications (op : VerificationOp)
  | resets (op : ResetOp)
  | sessions (op : SessionOp)
  | mfa (op : MfaOp)
  | ledger (op : LedgerOp)
  | surroundings (op : SurroundingsOp)
deriving DecidableEq

abbrev IdentityOp.Answer : IdentityOp → Type
  | .accounts op => op.Answer
  | .verifications op => op.Answer
  | .resets op => op.Answer
  | .sessions op => op.Answer
  | .mfa op => op.Answer
  | .ledger op => op.Answer
  | .surroundings op => op.Answer

def IdentityStore.handle (deps : IdentityDependencies) :
    Handler IdentityOp IdentityOp.Answer IdentityStore String
  | store, .accounts op, _ =>
    (store.accounts.perform op).map fun (accounts, answer) ↦ ({ store with accounts }, answer)
  | store, .verifications op, _ =>
    (VerificationTable.perform store.verifications op).map fun (verifications, answer) ↦
      ({ store with verifications }, answer)
  | store, .resets op, _ =>
    (ResetTable.perform store.resets op).map fun (resets, answer) ↦ ({ store with resets }, answer)
  | store, .sessions op, _ =>
    (store.sessions.perform op).map fun (sessions, answer) ↦ ({ store with sessions }, answer)
  | store, .mfa op, _ =>
    (store.mfa.perform op).map fun (mfa, answer) ↦ ({ store with mfa }, answer)
  | store, .ledger op, _ =>
    some ({ store with events := (performLedger store.events op).1 },
      (performLedger store.events op).2)
  | store, .surroundings op, oracle =>
    (performSurroundings deps store.clock oracle op).map (store, ·)

/-! ### What an answered operation says of each part of the store -/

section Handle

variable {deps : IdentityDependencies} {store later : IdentityStore} {oracle : String}

theorem handle_accounts {op : AccountOp} {answer : op.Answer}
    (hanswer : store.handle deps (.accounts op) oracle = some (later, answer)) :
    ∃ accounts, store.accounts.perform op = some (accounts, answer) ∧
      later = { store with accounts } := by
  obtain ⟨⟨accounts, given⟩, hperform, heq⟩ := Option.map_eq_some_iff.mp hanswer
  obtain ⟨rfl, rfl⟩ := Prod.mk.inj heq
  exact ⟨accounts, hperform, rfl⟩

theorem handle_verifications {op : VerificationOp} {answer : op.Answer}
    (hanswer : store.handle deps (.verifications op) oracle = some (later, answer)) :
    ∃ verifications, VerificationTable.perform store.verifications op =
      some (verifications, answer) ∧ later = { store with verifications } := by
  obtain ⟨⟨verifications, given⟩, hperform, heq⟩ := Option.map_eq_some_iff.mp hanswer
  obtain ⟨rfl, rfl⟩ := Prod.mk.inj heq
  exact ⟨verifications, hperform, rfl⟩

theorem handle_resets {op : ResetOp} {answer : op.Answer}
    (hanswer : store.handle deps (.resets op) oracle = some (later, answer)) :
    ∃ resets, ResetTable.perform store.resets op = some (resets, answer) ∧
      later = { store with resets } := by
  obtain ⟨⟨resets, given⟩, hperform, heq⟩ := Option.map_eq_some_iff.mp hanswer
  obtain ⟨rfl, rfl⟩ := Prod.mk.inj heq
  exact ⟨resets, hperform, rfl⟩

theorem handle_sessions {op : SessionOp} {answer : op.Answer}
    (hanswer : store.handle deps (.sessions op) oracle = some (later, answer)) :
    ∃ sessions, store.sessions.perform op = some (sessions, answer) ∧
      later = { store with sessions } := by
  obtain ⟨⟨sessions, given⟩, hperform, heq⟩ := Option.map_eq_some_iff.mp hanswer
  obtain ⟨rfl, rfl⟩ := Prod.mk.inj heq
  exact ⟨sessions, hperform, rfl⟩

theorem handle_mfa {op : MfaOp} {answer : op.Answer}
    (hanswer : store.handle deps (.mfa op) oracle = some (later, answer)) :
    ∃ mfa, store.mfa.perform op = some (mfa, answer) ∧ later = { store with mfa } := by
  obtain ⟨⟨mfa, given⟩, hperform, heq⟩ := Option.map_eq_some_iff.mp hanswer
  obtain ⟨rfl, rfl⟩ := Prod.mk.inj heq
  exact ⟨mfa, hperform, rfl⟩

theorem handle_ledger {op : LedgerOp} {answer : op.Answer}
    (hanswer : store.handle deps (.ledger op) oracle = some (later, answer)) :
    later = { store with events := (performLedger store.events op).1 } :=
  (congrArg Prod.fst (Option.some.inj hanswer)).symm

theorem handle_surroundings {op : SurroundingsOp} {answer : op.Answer}
    (hanswer : store.handle deps (.surroundings op) oracle = some (later, answer)) :
    performSurroundings deps store.clock oracle op = some answer ∧ later = store := by
  obtain ⟨given, hgiven, heq⟩ := Option.map_eq_some_iff.mp hanswer
  obtain ⟨rfl, rfl⟩ := Prod.mk.inj heq
  exact ⟨hgiven, rfl⟩

/-- What an answered operation does: the tables of one repository change, or the ledger, or nothing. -/
inductive Handled (deps : IdentityDependencies) (store : IdentityStore) (oracle : String) :
    (op : IdentityOp) → op.Answer → IdentityStore → Prop
  | accounts {op : AccountOp} {answer : op.Answer} {accounts : AccountStore}
    (hperform : store.accounts.perform op = some (accounts, answer)) :
    Handled deps store oracle (.accounts op) answer { store with accounts }
  | verifications {op : VerificationOp} {answer : op.Answer} {verifications : VerificationTable}
    (hperform : VerificationTable.perform store.verifications op = some (verifications, answer)) :
    Handled deps store oracle (.verifications op) answer { store with verifications }
  | resets {op : ResetOp} {answer : op.Answer} {resets : ResetTable}
    (hperform : ResetTable.perform store.resets op = some (resets, answer)) :
    Handled deps store oracle (.resets op) answer { store with resets }
  | sessions {op : SessionOp} {answer : op.Answer} {sessions : SessionStore}
    (hperform : store.sessions.perform op = some (sessions, answer)) :
    Handled deps store oracle (.sessions op) answer { store with sessions }
  | mfa {op : MfaOp} {answer : op.Answer} {mfa : MfaStore}
    (hperform : store.mfa.perform op = some (mfa, answer)) :
    Handled deps store oracle (.mfa op) answer { store with mfa }
  | ledger {op : LedgerOp} {answer : op.Answer} :
    Handled deps store oracle (.ledger op) answer
      { store with events := (performLedger store.events op).1 }
  | surroundings {op : SurroundingsOp} {answer : op.Answer}
    (hperform : performSurroundings deps store.clock oracle op = some answer) :
    Handled deps store oracle (.surroundings op) answer store

theorem handled_of_handle {op : IdentityOp} {answer : op.Answer}
    (hanswer : store.handle deps op oracle = some (later, answer)) :
    Handled deps store oracle op answer later := by
  cases op with
  | accounts op =>
    obtain ⟨accounts, hperform, rfl⟩ := handle_accounts hanswer
    exact .accounts hperform
  | verifications op =>
    obtain ⟨verifications, hperform, rfl⟩ := handle_verifications hanswer
    exact .verifications hperform
  | resets op =>
    obtain ⟨resets, hperform, rfl⟩ := handle_resets hanswer
    exact .resets hperform
  | sessions op =>
    obtain ⟨sessions, hperform, rfl⟩ := handle_sessions hanswer
    exact .sessions hperform
  | mfa op =>
    obtain ⟨mfa, hperform, rfl⟩ := handle_mfa hanswer
    exact .mfa hperform
  | ledger op =>
    rw [handle_ledger hanswer]
    exact .ledger
  | surroundings op =>
    obtain ⟨hperform, rfl⟩ := handle_surroundings hanswer
    exact .surroundings hperform

end Handle

/-! ### Use cases as programs -/

/-- A use case, as the program of its port calls. -/
abbrev UseCase := Program IdentityOp IdentityOp.Answer

def accounts (op : AccountOp) : UseCase op.Answer := Program.perform (IdentityOp.accounts op)
def verifications (op : VerificationOp) : UseCase op.Answer := Program.perform (IdentityOp.verifications op)
def resets (op : ResetOp) : UseCase op.Answer := Program.perform (IdentityOp.resets op)
def sessions (op : SessionOp) : UseCase op.Answer := Program.perform (IdentityOp.sessions op)
def mfa (op : MfaOp) : UseCase op.Answer := Program.perform (IdentityOp.mfa op)
def securityEvents (op : LedgerOp) : UseCase op.Answer := Program.perform (IdentityOp.ledger op)
def surroundings (op : SurroundingsOp) : UseCase op.Answer := Program.perform (IdentityOp.surroundings op)

/-- `deps.clock.now()`. -/
def clockNow : UseCase Instant := surroundings .now

def random (kind : SecretKind) : UseCase String := surroundings (.random kind)

/-- A `throw`. -/
def raise {Result : Type} (message : String) : UseCase Result := do
  let never ← surroundings (.raise message)
  return never.elim

end Karar.Identity
