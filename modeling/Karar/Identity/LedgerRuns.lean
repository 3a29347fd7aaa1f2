import Karar.Foundation.SoleRun
import Karar.Foundation.SlidingLock
import Karar.Identity.Requests
import Mathlib.Algebra.Order.Ring.Int

/-!
# Runs over the security ledger

A use case served on its own while the clock goes on: before every operation it may move forward. Of
the ledger, the lock of a login counts the rows `login_failed` of an account from one client address.
A part of a use case that neither records such a row, nor counts rows, nor reads a credential leaves
these failures alone; `recordSecurity` adds at most one, at an instant of the call.
-/

namespace Karar.Identity

open Foundation Program SlidingLock SharedKernel

/-! ### The clock -/

/-- The clock moves forward, by any number of milliseconds. -/
def IdentityStore.tick (store : IdentityStore) (elapsed : ℕ) : IdentityStore :=
  { store with clock := store.clock + elapsed }

/-- The ports of a process whose clock goes on. -/
def IdentityStore.handleInTime (deps : IdentityDependencies) :
    Handler IdentityOp IdentityOp.Answer IdentityStore (ℕ × String)
  | store, op, oracle => (store.tick oracle.1).handle deps op oracle.2

abbrev IdentityTrail := Trail IdentityOp IdentityOp.Answer IdentityStore

/-! ### Recorded failures -/

/-- A row that the lock counts for an account and the digest of a client's address. For a client
whose address is not known it counts the failures from everywhere. -/
def IsFailureOf (accountId : UserId) (ipDigest : Option String) (event : SecurityEvent) : Prop :=
  event.accountId = some accountId ∧ event.eventType = .loginFailed ∧
    (ipDigest = none ∨ event.ipDigest = ipDigest)

instance (accountId : UserId) (ipDigest : Option String) (event : SecurityEvent) :
    Decidable (IsFailureOf accountId ipDigest event) :=
  inferInstanceAs (Decidable (_ ∧ _ ∧ _))

/-- The instants of the failures recorded for an account from a client's address. -/
def recordedFailures (accountId : UserId) (ipDigest : Option String) (events : List SecurityEvent) :
    List Instant :=
  (events.filter fun event ↦ IsFailureOf accountId ipDigest event).map SecurityEvent.occurredAt

/-- The failures of accounts, from wherever they came. -/
def failureRows (events : List SecurityEvent) : List SecurityEvent :=
  events.filter fun event ↦ event.eventType = .loginFailed ∧ event.accountId.isSome

/-- No row of the ledger is in the future. -/
def RecordedPast (store : IdentityStore) : Prop :=
  ∀ event ∈ failureRows store.events, event.occurredAt ≤ store.clock

/-- What the lock of a login asks the ledger. -/
def lockQuery (deps : IdentityDependencies) (accountId : UserId) (ipDigest : Option String)
    (now : Instant) : SecurityEventCountQuery :=
  { accountId
    eventTypes := [.loginFailed]
    ipDigest
    since := now - deps.policy.lockoutWindowMs }

section Ledger

variable {deps : IdentityDependencies} {accountId : UserId} {ipDigest : Option String}
  {events : List SecurityEvent} {event : SecurityEvent}

theorem recordedFailures_failureRows (events : List SecurityEvent) :
    recordedFailures accountId ipDigest (failureRows events) =
      recordedFailures accountId ipDigest events := by
  unfold recordedFailures failureRows
  rw [List.filter_filter]
  congr 1
  apply List.filter_congr
  intro event _
  by_cases hfailure : IsFailureOf accountId ipDigest event
  · simp [hfailure, hfailure.1, hfailure.2.1]
  · simp [hfailure]

theorem recordedFailures_append (events more : List SecurityEvent) :
    recordedFailures accountId ipDigest (events ++ more) =
      recordedFailures accountId ipDigest events ++ recordedFailures accountId ipDigest more := by
  simp [recordedFailures]

theorem recordedFailures_of_failure (hfailure : IsFailureOf accountId ipDigest event) :
    recordedFailures accountId ipDigest [event] = [event.occurredAt] := by
  simp [recordedFailures, hfailure]

theorem recordedFailures_of_not_failure (hnot : ¬ IsFailureOf accountId ipDigest event) :
    recordedFailures accountId ipDigest [event] = [] := by
  simp [recordedFailures, hnot]

/-- The ledger's count is that of the failures recorded after the start of the window. -/
theorem countP_lockQuery (now : Instant) :
    events.countP (lockQuery deps accountId ipDigest now).matches =
      failuresAfter (recordedFailures accountId ipDigest events)
        (now - deps.policy.lockoutWindowMs) := by
  unfold failuresAfter recordedFailures
  rw [List.countP_map, List.countP_filter]
  apply List.countP_congr
  intro event _
  simp only [lockQuery, SecurityEventCountQuery.matches, Function.comp_apply, List.mem_singleton,
    decide_eq_true_eq, Bool.and_eq_true]
  constructor
  · rintro ⟨haccount, htype, hsince, hdigest⟩
    exact ⟨hsince, haccount, htype, hdigest⟩
  · rintro ⟨hsince, haccount, htype, hdigest⟩
    exact ⟨haccount, htype, hsince, hdigest⟩

end Ledger

/-! ### Steps aside of the lock -/

/-- An operation that the lock does not depend on and that does not add to it. -/
def IsAside : IdentityOp → Prop
  | .ledger (.record event) => event.eventType = .loginFailed → event.accountId = none
  | .ledger (.countSince _) => False
  | .accounts (.getCredential _) => False
  | _ => True

section Aside

variable {deps : IdentityDependencies}

theorem aside_clockNow : clockNow.Uses IsAside :=
  uses_perform trivial

theorem aside_random (kind : SecretKind) : (random kind).Uses IsAside :=
  uses_perform trivial

theorem aside_raise {Result : Type} (message : String) :
    (raise message : UseCase Result).Uses IsAside :=
  ⟨trivial, fun never ↦ never.elim⟩

/-- An operation of the surroundings. -/
def IsOutside : IdentityOp → Prop
  | .surroundings _ => True
  | _ => False

theorem isAside_of_isOutside (op : IdentityOp) (houtside : IsOutside op) : IsAside op := by
  cases op with
  | surroundings op => trivial
  | _ => exact houtside.elim

theorem outside_assertWithinLimit (policy : RateLimitPolicy) (key : String) :
    (assertWithinLimit policy key).Uses IsOutside :=
  uses_bind (uses_perform trivial) fun _ ↦ uses_perform trivial

theorem outside_assertLimits (email : String) (ipDigest : Option String) :
    (Login.assertLimits deps email ipDigest).Uses IsOutside := by
  match ipDigest with
  | none => exact outside_assertWithinLimit _ _
  | some ipDigest =>
    exact uses_bind (outside_assertWithinLimit _ _) fun _ ↦ outside_assertWithinLimit _ _

theorem aside_assertLimits (email : String) (ipDigest : Option String) :
    (Login.assertLimits deps email ipDigest).Uses IsAside :=
  (outside_assertLimits email ipDigest).mono isAside_of_isOutside

theorem aside_guardSecurityMetadata (metadata : Option Metadata) :
    (guardSecurityMetadata metadata).Uses IsAside := by
  unfold guardSecurityMetadata
  split
  · exact uses_pure none
  · split
    · exact aside_raise _
    · exact uses_pure _

theorem aside_recordSecurity {accountId : Option UserId} {eventType : SecurityEventType}
    (haside : eventType = .loginFailed → accountId = none) (ipDigest : Option String)
    (metadata : Option Metadata) :
    (recordSecurity accountId eventType ipDigest metadata).Uses IsAside := by
  refine uses_bind aside_clockNow fun occurredAt ↦ ?_
  exact uses_bind (aside_guardSecurityMetadata metadata) fun _ ↦ uses_perform haside

theorem aside_auditOrFail (input : AuditInput) : (auditOrFail deps input).Uses IsAside :=
  uses_bind aside_clockNow fun _ ↦ uses_perform trivial

theorem aside_hash (password : String) : (deps.hash password).Uses IsAside :=
  uses_bind (aside_random .salt) fun _ ↦ uses_pure _

theorem aside_issue (account : IdentityAccount) (client : ClientContext) :
    (SessionIssuer.issue deps account client).Uses IsAside := by
  have hmint : (SessionIssuer.mint deps account client none).Uses IsAside := by
    refine uses_bind aside_clockNow fun now ↦ ?_
    refine uses_bind (aside_random .id) fun sessionId ↦ ?_
    refine uses_bind (aside_random .id) fun familyId ↦ ?_
    refine uses_bind (aside_random .refreshToken) fun rawRefreshToken ↦ ?_
    exact uses_bind (aside_random .id) fun tokenId ↦ uses_pure _
  refine uses_bind hmint fun minted ↦ ?_
  refine uses_bind (uses_perform trivial) fun _ ↦ ?_
  refine uses_bind aside_clockNow fun now ↦ ?_
  refine uses_bind ?_ fun _ ↦ uses_pure _
  exact uses_bind (uses_perform trivial) fun _ ↦ uses_pure _

theorem aside_complete (account : IdentityAccount) (client : ClientContext) :
    (Login.complete deps account client).Uses IsAside := by
  refine uses_bind (uses_perform trivial) fun enrolment ↦ uses_ite ?_ ?_
  · refine uses_bind aside_clockNow fun now ↦ ?_
    refine uses_bind ?_ fun challenge ↦ ?_
    · exact uses_bind (uses_perform trivial) fun _ ↦ uses_pure _
    · exact uses_bind (aside_recordSecurity (by simp) _ _) fun _ ↦ uses_pure _
  · refine uses_bind (aside_issue account client) fun session ↦ ?_
    refine uses_bind (aside_recordSecurity (by simp) _ _) fun _ ↦ ?_
    exact uses_bind (aside_auditOrFail _) fun _ ↦ uses_pure _

theorem aside_upgradePassword (accountId : UserId) (credential : CredentialView)
    (password : String) : (Login.upgradePassword deps accountId credential password).Uses IsAside := by
  refine uses_ite ?_ (uses_pure _)
  refine uses_bind (aside_hash password) fun upgraded ↦ ?_
  exact uses_bind aside_clockNow fun now ↦ uses_perform trivial

theorem aside_noticeOwner (accountId : UserId) (kind : SecurityNoticeKind) :
    (noticeOwner accountId kind).Uses IsAside := by
  refine uses_bind (uses_perform trivial) fun account ↦ ?_
  match account with
  | some account => exact uses_perform trivial
  | none => exact uses_pure ()

theorem aside_changePassword (input : ChangePasswordInput) :
    (ChangePassword.complete deps input).Uses IsAside := by
  refine uses_bind aside_clockNow fun now ↦ ?_
  refine uses_bind (aside_hash _) fun next ↦ ?_
  refine uses_bind (uses_perform trivial) fun _ ↦ ?_
  refine uses_bind ?_ fun revokedCount ↦ ?_
  · refine uses_bind (uses_perform trivial) fun ids ↦ uses_ite (uses_pure _) ?_
    exact uses_bind (uses_perform trivial) fun _ ↦ uses_pure _
  · refine uses_bind (aside_recordSecurity (by simp) _ _) fun _ ↦ ?_
    exact uses_bind (aside_auditOrFail _) fun _ ↦ aside_noticeOwner _ _

end Aside

/-! ### What a served part leaves -/

/-- The clock has not gone back and the recorded failures are the same. -/
def Aside (store later : IdentityStore) : Prop :=
  store.clock ≤ later.clock ∧ failureRows later.events = failureRows store.events

/-- One failure has been recorded, at an instant between the two. -/
def AddsFailure (event : SecurityEvent) (store later : IdentityStore) : Prop :=
  store.clock ≤ event.occurredAt ∧ event.occurredAt ≤ later.clock ∧
    failureRows later.events = failureRows store.events ++ [event]

section Stores

variable {store middle later : IdentityStore} {event : SecurityEvent}

theorem Aside.refl (store : IdentityStore) : Aside store store :=
  ⟨le_refl _, rfl⟩

theorem Aside.trans (hfirst : Aside store middle) (hsecond : Aside middle later) :
    Aside store later :=
  ⟨le_trans hfirst.1 hsecond.1, hsecond.2.trans hfirst.2⟩

theorem Aside.addsFailure (hfirst : Aside store middle) (hsecond : AddsFailure event middle later) :
    AddsFailure event store later :=
  ⟨le_trans hfirst.1 hsecond.1, hsecond.2.1, hfirst.2 ▸ hsecond.2.2⟩

theorem Aside.recordedPast (haside : Aside store later) (hpast : RecordedPast store) :
    RecordedPast later := by
  intro event hevent
  rw [haside.2] at hevent
  exact le_trans (hpast event hevent) haside.1

theorem AddsFailure.recordedPast (hadds : AddsFailure event store later)
    (hpast : RecordedPast store) : RecordedPast later := by
  intro other hother
  rw [hadds.2.2] at hother
  rcases List.mem_append.mp hother with hother | hother
  · exact le_trans (hpast other hother) (le_trans hadds.1 hadds.2.1)
  · rw [List.mem_singleton.mp hother]
    exact hadds.2.1

theorem Aside.recordedFailures (haside : Aside store later) (accountId : UserId)
    (ipDigest : Option String) :
    recordedFailures accountId ipDigest later.events =
      recordedFailures accountId ipDigest store.events := by
  rw [← recordedFailures_failureRows later.events, haside.2, recordedFailures_failureRows]

theorem AddsFailure.recordedFailures (hadds : AddsFailure event store later) (accountId : UserId)
    (ipDigest : Option String) :
    recordedFailures accountId ipDigest later.events =
      recordedFailures accountId ipDigest store.events ++
        Karar.Identity.recordedFailures accountId ipDigest [event] := by
  rw [← recordedFailures_failureRows later.events, hadds.2.2, recordedFailures_append,
    recordedFailures_failureRows]

theorem RecordedPast.recordedFailures (hpast : RecordedPast store) {accountId : UserId}
    {ipDigest : Option String} :
    ∀ recorded ∈ recordedFailures accountId ipDigest store.events, recorded ≤ store.clock := by
  intro recorded hrecorded
  rw [← recordedFailures_failureRows] at hrecorded
  obtain ⟨event, hevent, rfl⟩ := List.mem_map.mp hrecorded
  exact hpast event (List.mem_filter.mp hevent).1

end Stores

section Served

variable {deps : IdentityDependencies} {store later final : IdentityStore} {Result : Type}
  {result : Option Result} {trail : IdentityTrail}

theorem clock_le_tick (store : IdentityStore) (elapsed : ℕ) :
    store.clock ≤ (store.tick elapsed).clock :=
  Int.le_add_of_nonneg_right (Int.natCast_nonneg elapsed)

/-- No operation sets the clock back, and only the ledger changes what is recorded. -/
theorem events_of_handleInTime {op : IdentityOp} {oracle : ℕ × String} {answer : op.Answer}
    (hanswer : store.handleInTime deps op oracle = some (later, answer)) :
    store.clock ≤ later.clock ∧
      ((∃ event, op = .ledger (.record event) ∧ later.events = store.events ++ [event]) ∨
        later.events = store.events) := by
  have hclock := clock_le_tick store oracle.1
  have hhandled := handled_of_handle hanswer
  cases hhandled with
  | accounts => exact ⟨hclock, .inr rfl⟩
  | verifications => exact ⟨hclock, .inr rfl⟩
  | resets => exact ⟨hclock, .inr rfl⟩
  | sessions => exact ⟨hclock, .inr rfl⟩
  | mfa => exact ⟨hclock, .inr rfl⟩
  | @ledger op =>
    cases op with
    | record event => exact ⟨hclock, .inl ⟨event, rfl, rfl⟩⟩
    | countSince query => exact ⟨hclock, .inr rfl⟩
  | surroundings => exact ⟨hclock, .inr rfl⟩

theorem failureRows_append_of_not_failure {events : List SecurityEvent} {event : SecurityEvent}
    (hnot : event.eventType = .loginFailed → event.accountId = none) :
    failureRows (events ++ [event]) = failureRows events := by
  unfold failureRows
  rw [List.filter_append]
  by_cases htype : event.eventType = .loginFailed
  · simp [hnot htype]
  · simp [htype]

/-- An operation that records no failure of an account leaves the failures alone. -/
theorem aside_of_handleInTime {op : IdentityOp} {oracle : ℕ × String} {answer : op.Answer}
    (hrecords : ∀ event, op = .ledger (.record event) →
      event.eventType = .loginFailed → event.accountId = none)
    (hanswer : store.handleInTime deps op oracle = some (later, answer)) : Aside store later := by
  obtain ⟨hclock, ⟨event, rfl, hevents⟩ | hevents⟩ := events_of_handleInTime hanswer
  · refine ⟨hclock, ?_⟩
    rw [hevents]
    exact failureRows_append_of_not_failure (hrecords event rfl)
  · exact ⟨hclock, by rw [hevents]⟩

/-- A part of a use case aside of the lock leaves the failures alone. -/
theorem aside_of_serves {program : UseCase Result}
    (hserves : Serves (IdentityStore.handleInTime deps) store program trail final result)
    (huses : program.Uses IsAside) : Aside store final := by
  refine hserves.related Aside Aside.refl (fun _ _ _ ↦ Aside.trans) ?_ huses
  intro store op oracle later answer haside hanswer
  refine aside_of_handleInTime (fun event hop ↦ ?_) hanswer
  subst hop
  exact haside

/-- The answered recording of a failure, after steps aside of the lock since its instant. -/
theorem Aside.addsFailure_of_record {guarded : IdentityStore} {event : SecurityEvent}
    {oracle : ℕ × String} {answer : Unit} (haside : Aside store guarded)
    (hat : event.occurredAt = store.clock)
    (hfailure : event.eventType = .loginFailed ∧ event.accountId.isSome)
    (hanswer : guarded.handleInTime deps (.ledger (.record event)) oracle = some (later, answer)) :
    AddsFailure event store later := by
  change (guarded.tick oracle.1).handle deps (.ledger (.record event)) oracle.2 =
    some (later, answer) at hanswer
  obtain rfl := handle_ledger hanswer
  refine ⟨le_of_eq hat.symm, ?_, ?_⟩
  · rw [hat]
    exact le_trans haside.1 (clock_le_tick guarded oracle.1)
  · rw [← haside.2]
    unfold failureRows
    simp [performLedger, IdentityStore.tick, hfailure.1, hfailure.2]

/-- A reading of the clock, and the rest. -/
theorem serves_clockNow_bind {rest : Instant → UseCase Result}
    (hserves : Serves (IdentityStore.handleInTime deps) store (clockNow >>= rest) trail final
      result) :
    (trail = [] ∧ final = store ∧ result = none) ∨
      ∃ timed remaining, Aside store timed ∧
        trail = (timed, ⟨.surroundings .now, timed.clock⟩) :: remaining ∧
        Serves (IdentityStore.handleInTime deps) timed (rest timed.clock) remaining final result := by
  rcases serves_perform_bind_iff.mp hserves with hthrown |
    ⟨oracle, timed, now, remaining, hnow, rfl, hrest⟩
  · exact .inl hthrown
  have htimed : Aside store timed := aside_of_handleInTime (by simp) hnow
  obtain ⟨hperform, rfl⟩ :
      performSurroundings deps (store.tick oracle.1).clock oracle.2 .now = some now ∧
        timed = store.tick oracle.1 := handle_surroundings hnow
  obtain rfl : (store.tick oracle.1).clock = now := Option.some.inj hperform
  exact .inr ⟨_, remaining, htimed, rfl, hrest⟩

/-- Recording a failure of an account fails, or records it at an instant of the call. -/
theorem recordSecurity_serves {accountId : UserId} {ipDigest : Option String}
    {metadata : Option Metadata} {result : Option Unit}
    (hserves : Serves (IdentityStore.handleInTime deps) store
      (recordSecurity (some accountId) .loginFailed ipDigest metadata) trail final result) :
    (result = none ∧ Aside store final) ∨
      ∃ event, event.accountId = some accountId ∧ event.eventType = .loginFailed ∧
        event.ipDigest = ipDigest ∧ AddsFailure event store final ∧ result = some () := by
  rcases serves_clockNow_bind hserves with ⟨_, rfl, rfl⟩ | ⟨timed, remaining, htimed, rfl, hrest⟩
  · exact .inl ⟨rfl, Aside.refl _⟩
  have hguards := aside_guardSecurityMetadata metadata
  rcases serves_bind_iff.mp hrest with ⟨hguard, rfl⟩ |
    ⟨early, guarded, stored, late, hguard, hrecord, rfl⟩
  · exact .inl ⟨rfl, htimed.trans (aside_of_serves hguard hguards)⟩
  have hguarded := aside_of_serves hguard hguards
  cases hrecord with
  | thrown => exact .inl ⟨rfl, htimed.trans hguarded⟩
  | performed hanswer hreturn =>
    cases hreturn with
    | returned =>
      refine .inr ⟨⟨some accountId, .loginFailed, timed.clock, ipDigest, stored⟩, rfl, rfl, rfl, ?_, rfl⟩
      exact htimed.addsFailure (hguarded.addsFailure_of_record rfl ⟨rfl, rfl⟩ hanswer)

end Served

end Karar.Identity
