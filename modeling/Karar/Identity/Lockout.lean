import Karar.Identity.LedgerRuns
import Karar.Identity.ReferenceLibraries

/-!
# The lockout of a login

A login counts the failures recorded for the account from the client's address in the window before
it, and refuses without a look at the password once they reach the threshold. Wrong passwords are
recorded by logins and by changes of the password; a refused attempt is not.

So, in every sequence of such calls, whatever the clock does between their operations as long as it
does not go back: in every window at most as many wrong passwords of one address reach the verifier
as the threshold says, no login succeeds while the window holds as many failures, and the lock ends
when they have left it.
-/

namespace Karar.Identity

open Foundation Program SlidingLock SharedKernel

/-! ### Calls -/

inductive PasswordRequest
  | login (input : LoginInput)
  | changePassword (input : ChangePasswordInput)
deriving DecidableEq

inductive PasswordOutcome
  | login (result : Except LoginError LoginSuccess)
  | changePassword (result : Except ChangePasswordError Unit)
deriving DecidableEq

def PasswordRequest.program (deps : IdentityDependencies) :
    PasswordRequest → UseCase PasswordOutcome
  | .login input => return .login (← Login.execute deps input)
  | .changePassword input => return .changePassword (← ChangePassword.execute deps input)

abbrev PasswordCall :=
  ServedCall IdentityOp IdentityOp.Answer IdentityStore PasswordRequest PasswordOutcome

/-- A sequence of calls in a process whose clock goes on. -/
abbrev PasswordRun (deps : IdentityDependencies) : IdentityStore → List PasswordCall →
    IdentityStore → Prop :=
  Sequence (IdentityStore.handleInTime deps) (PasswordRequest.program deps)

section Calls

variable (deps : IdentityDependencies) (accountId : UserId) (ipDigest : Option String)

/-- The call is a login to the account from the address. -/
def LoginOn (call : PasswordCall) : Prop :=
  ∃ input account, call.request = .login input ∧ input.client.ipDigest = ipDigest ∧
    call.before.accounts.findByEmail (deps.normalizeEmail input.email) = some account ∧
    account.id = accountId

/-- The credential of the account is read, for the verifier. -/
def ReachesVerifier (trail : IdentityTrail) : Prop :=
  ∃ read credential, (read, ⟨.accounts (.getCredential accountId), credential⟩) ∈ trail

/-- The lock is checked for the window that ends at an instant. -/
def ChecksLock (trail : IdentityTrail) (checked : Instant) : Prop :=
  ∃ counted failures,
    (counted, ⟨.ledger (.countSince (lockQuery deps accountId ipDigest checked)), failures⟩) ∈ trail

/-- The instant at which a credential of the account is read that the verifier finds not to belong to
the password. -/
def rejectedAt (password : String) (entry : IdentityStore × Performed IdentityOp IdentityOp.Answer) :
    Option Instant :=
  match entry with
  | (read, ⟨.accounts (.getCredential id), some credential⟩) =>
    if id = accountId ∧ deps.argon2Verify credential.passwordHash password = false then
      some read.clock
    else none
  | _ => none

/-- The instant at which a wrong password for the account, presented to a login from the address,
reaches the verifier. The login has answered. -/
def wrongPasswordAt (call : PasswordCall) : Option Instant :=
  match call.request with
  | .login input =>
    if input.client.ipDigest = ipDigest ∧ call.outcome.isSome then
      call.trail.findSome? (rejectedAt deps accountId input.password)
    else none
  | .changePassword _ => none

/-- What the lock does to one login, that checks it at an instant. -/
structure LockHeld (call : PasswordCall) (checked : Instant) : Prop where
  during : call.before.clock ≤ checked ∧ checked ≤ call.after.clock
  checks : call.outcome.isSome → ChecksLock deps accountId ipDigest call.trail checked
  /-- A password is verified only while the window holds fewer failures than the threshold. -/
  locks : ReachesVerifier accountId call.trail →
    failuresWithin (deps.policy.lockoutWindowMs : Instant)
      (recordedFailures accountId ipDigest call.before.events) checked < deps.policy.lockoutThreshold
  /-- And then it is verified. -/
  unlocks : call.outcome.isSome →
    failuresWithin (deps.policy.lockoutWindowMs : Instant)
      (recordedFailures accountId ipDigest call.before.events) checked <
        deps.policy.lockoutThreshold →
      ReachesVerifier accountId call.trail
  /-- An attempt made while locked does not extend the lock. -/
  keeps : deps.policy.lockoutThreshold ≤
      failuresWithin (deps.policy.lockoutWindowMs : Instant)
        (recordedFailures accountId ipDigest call.before.events) checked →
    failureRows call.after.events = failureRows call.before.events
  /-- At no instant from the check on does the window of a login that succeeds hold as many failures
  as the threshold says. -/
  succeeds : (∃ success, call.outcome = some (.login (.ok success))) → ∀ instant, checked ≤ instant →
    failuresWithin (deps.policy.lockoutWindowMs : Instant)
      (recordedFailures accountId ipDigest call.after.events) instant < deps.policy.lockoutThreshold

end Calls

/-! ### Steps that do not ask -/

/-- An operation that neither counts rows of the ledger nor reads a credential. -/
def IsUnasked : IdentityOp → Prop
  | .ledger (.countSince _) => False
  | .accounts (.getCredential _) => False
  | _ => True

def Unasked (trail : IdentityTrail) : Prop := ∀ entry ∈ trail, IsUnasked entry.2.1

section Unasked

variable {deps : IdentityDependencies} {accountId : UserId} {ipDigest : Option String}
  {trail early late : IdentityTrail}

theorem isUnasked_of_isAside : ∀ op, IsAside op → IsUnasked op := by
  intro op haside
  unfold IsAside at haside
  split at haside
  · trivial
  · exact haside
  · exact haside
  · rename_i hcount hread
    unfold IsUnasked
    split
    · exact hcount _ rfl
    · exact hread _ rfl
    · trivial

theorem unasked_recordSecurity (accountId : Option UserId) (eventType : SecurityEventType)
    (ipDigest : Option String) (metadata : Option Metadata) :
    (recordSecurity accountId eventType ipDigest metadata).Uses IsUnasked := by
  refine uses_bind (uses_perform trivial) fun occurredAt ↦ ?_
  refine uses_bind ((aside_guardSecurityMetadata metadata).mono isUnasked_of_isAside) fun _ ↦ ?_
  exact uses_perform trivial

theorem Unasked.append (hearly : Unasked early) (hlate : Unasked late) : Unasked (early ++ late) := by
  intro entry hentry
  rcases List.mem_append.mp hentry with hentry | hentry
  · exact hearly entry hentry
  · exact hlate entry hentry

theorem Unasked.concat (hearly : Unasked early)
    {entry : IdentityStore × Performed IdentityOp IdentityOp.Answer} (hentry : IsUnasked entry.2.1) :
    Unasked (early ++ [entry]) :=
  hearly.append fun _ hmem ↦ List.mem_singleton.mp hmem ▸ hentry

theorem Unasked.not_reachesVerifier (hunasked : Unasked trail) :
    ¬ ReachesVerifier accountId trail :=
  fun ⟨_, _, hmem⟩ ↦ hunasked _ hmem

theorem Unasked.findSome?_eq_none (hunasked : Unasked trail) (password : String) :
    trail.findSome? (rejectedAt deps accountId password) = none := by
  rw [List.findSome?_eq_none_iff]
  intro entry hentry
  have hkind := hunasked entry hentry
  unfold rejectedAt
  split
  · exact absurd hkind id
  · rfl

end Unasked

/-! ### What a served login does -/

/-- The password check, from the reading of the credential on. -/
inductive VerifyCourse (deps : IdentityDependencies) (account : IdentityAccount)
    (input : LoginInput) (store : IdentityStore) :
    IdentityTrail → IdentityStore → Option (Except LoginError LoginSuccess) → Prop
  | thrown : VerifyCourse deps account input store [] store none
  /-- The account has no credential, or it is not that of the password. -/
  | rejected {read final : IdentityStore} {credential : Option CredentialView}
    {rest : IdentityTrail} {result : Option (Except LoginError LoginSuccess)}
    (hread : Aside store read)
    (hcredential : ∀ found, credential = some found →
      deps.argon2Verify found.passwordHash input.password = false)
    (hrest : Unasked rest)
    (hends : (result = none ∧ Aside read final) ∨
      ∃ event, event.accountId = some account.id ∧ event.eventType = .loginFailed ∧
        event.ipDigest = input.client.ipDigest ∧ AddsFailure event read final ∧
        result = some (.error .invalidCredentials)) :
    VerifyCourse deps account input store
      ((read, ⟨.accounts (.getCredential account.id), credential⟩) :: rest) final result
  | accepted {read final : IdentityStore} {credential : CredentialView} {rest : IdentityTrail}
    {result : Option (Except LoginError LoginSuccess)} (hread : Aside store read)
    (hcredential : deps.argon2Verify credential.passwordHash input.password = true)
    (hrest : Unasked rest) (haside : Aside read final) :
    VerifyCourse deps account input store
      ((read, ⟨.accounts (.getCredential account.id), some credential⟩) :: rest) final result

/-- A login, up to the check of the lock and after it. -/
inductive LoginCourse (deps : IdentityDependencies) (input : LoginInput)
    (store : IdentityStore) :
    IdentityTrail → IdentityStore → Option (Except LoginError LoginSuccess) → Prop
  /-- The lock is not checked: an operation threw, or there is no account. -/
  | unasked {trail : IdentityTrail} {final : IdentityStore}
    {result : Option (Except LoginError LoginSuccess)} (htrail : Unasked trail)
    (haside : Aside store final)
    (hresult : result = none ∨ result = some (.error .invalidCredentials) ∧
      store.accounts.findByEmail (deps.normalizeEmail input.email) = none) :
    LoginCourse deps input store trail final result
  /-- The failures are counted in the window before `now`. -/
  | asked {early late : IdentityTrail} {counted final : IdentityStore} {account : IdentityAccount}
    {now : Instant} {failures : ℕ} {result : Option (Except LoginError LoginSuccess)}
    (haccount : store.accounts.findByEmail (deps.normalizeEmail input.email) = some account)
    (hearly : Unasked early) (haside : Aside store counted)
    (hnow : store.clock ≤ now ∧ now ≤ counted.clock)
    (hfailures : failures =
      failuresAfter (recordedFailures account.id input.client.ipDigest counted.events)
        (now - deps.policy.lockoutWindowMs))
    (hlate : (deps.policy.lockoutThreshold ≤ failures ∧ Unasked late ∧ Aside counted final ∧
        ∀ success, result ≠ some (.ok success)) ∨
      (failures < deps.policy.lockoutThreshold ∧
        VerifyCourse deps account input counted late final result)) :
    LoginCourse deps input store
      (early ++ (counted,
        ⟨.ledger (.countSince (lockQuery deps account.id input.client.ipDigest now)), failures⟩) ::
          late)
      final result

section Course

variable {deps : IdentityDependencies} {input : LoginInput} {ipDigest : Option String}
  {store middle later final : IdentityStore} {trail : IdentityTrail}

theorem unasked_of_serves {Result : Type} {program : UseCase Result} {result : Option Result}
    (hserves : Serves (IdentityStore.handleInTime deps) store program trail final result)
    (huses : program.Uses IsAside) : Unasked trail :=
  hserves.kind_of_mem (huses.mono isUnasked_of_isAside)

/-- The reading of the credential leaves the failures alone. -/
theorem aside_of_getCredential {accountId : UserId} {oracle : ℕ × String}
    {credential : Option CredentialView}
    (hanswer : store.handleInTime deps (.accounts (.getCredential accountId)) oracle =
      some (later, credential)) : Aside store later :=
  aside_of_handleInTime (by simp) hanswer

theorem recordFailure_serves {accountId : UserId} {reason : String}
    {result : Option (Except LoginError LoginSuccess)}
    (hserves : Serves (IdentityStore.handleInTime deps) store
      (do
        Login.recordFailure accountId input.client.ipDigest reason
        return .error .invalidCredentials) trail final result) :
    Unasked trail ∧ ((result = none ∧ Aside store final) ∨
      ∃ event, event.accountId = some accountId ∧ event.eventType = .loginFailed ∧
        event.ipDigest = input.client.ipDigest ∧ AddsFailure event store final ∧
        result = some (.error .invalidCredentials)) := by
  refine ⟨hserves.kind_of_mem (uses_bind (unasked_recordSecurity _ _ _ _) fun _ ↦ uses_pure _), ?_⟩
  obtain ⟨returned, hrecord, rfl⟩ := serves_bind_pure_iff.mp hserves
  rcases recordSecurity_serves hrecord with ⟨rfl, haside⟩ |
    ⟨event, haccount, htype, hdigest, hadds, rfl⟩
  · exact .inl ⟨rfl, haside⟩
  · exact .inr ⟨event, haccount, htype, hdigest, hadds, rfl⟩

theorem verifyPassword_serves {account : IdentityAccount}
    {result : Option (Except LoginError LoginSuccess)}
    (hserves : Serves (IdentityStore.handleInTime deps) store
      (Login.verifyPassword deps account input) trail final result) :
    VerifyCourse deps account input store trail final result := by
  rcases serves_perform_bind_iff.mp hserves with ⟨rfl, rfl, rfl⟩ |
    ⟨oracle, read, credential, rest, hanswer, rfl, hrest⟩
  · exact .thrown
  have hread := aside_of_getCredential hanswer
  match credential, hrest with
  | none, hrest =>
    obtain ⟨hunasked, hends⟩ := recordFailure_serves hrest
    exact .rejected hread (by simp) hunasked hends
  | some credential, hrest =>
    by_cases hverify : deps.argon2Verify credential.passwordHash input.password = false
    · simp only [hverify, if_true] at hrest
      obtain ⟨hunasked, hends⟩ := recordFailure_serves hrest
      refine .rejected hread (fun found hfound ↦ ?_) hunasked hends
      rw [← Option.some.inj hfound]
      exact hverify
    · simp only [hverify] at hrest
      have huses : (if account.status ≠ .active then do
            recordSecurity (some account.id) .accountDisabledLoginAttempt input.client.ipDigest none
            return .error .invalidCredentials
          else do
            Login.upgradePassword deps account.id credential input.password
            Login.complete deps account input.client :
          UseCase (Except LoginError LoginSuccess)).Uses IsAside := by
        refine uses_ite ?_ ?_
        · exact uses_bind (aside_recordSecurity (by simp) _ _) fun _ ↦ uses_pure _
        · exact uses_bind (aside_upgradePassword _ _ _) fun _ ↦ aside_complete _ _
      exact .accepted hread (by simpa using hverify) (unasked_of_serves hrest huses)
        (aside_of_serves hrest huses)

theorem isLockedOut_serves {accountId : UserId} {result : Option Bool}
    (hserves : Serves (IdentityStore.handleInTime deps) store
      (Login.isLockedOut deps accountId ipDigest) trail final result) :
    (result = none ∧ Unasked trail ∧ Aside store final) ∨
      ∃ timed now failures, trail = [(timed, ⟨.surroundings .now, now⟩),
          (final, ⟨.ledger (.countSince (lockQuery deps accountId ipDigest now)), failures⟩)] ∧
        Aside store final ∧ store.clock ≤ now ∧ now ≤ final.clock ∧
        failures = failuresAfter (recordedFailures accountId ipDigest final.events)
          (now - deps.policy.lockoutWindowMs) ∧
        result = some (decide (deps.policy.lockoutThreshold ≤ failures)) := by
  rcases serves_clockNow_bind hserves with ⟨rfl, rfl, rfl⟩ | ⟨timed, remaining, htimed, rfl, hrest⟩
  · exact .inl ⟨rfl, by simp [Unasked], Aside.refl _⟩
  rcases serves_perform_bind_iff.mp hrest with ⟨rfl, rfl, rfl⟩ |
    ⟨oracle, counted, failures, late, hanswer, rfl, hreturn⟩
  · exact .inl ⟨rfl, by simp [Unasked, IsUnasked], htimed⟩
  obtain ⟨rfl, rfl, rfl⟩ := serves_pure_iff.mp hreturn
  have hcounted : Aside timed final := aside_of_handleInTime (by simp) hanswer
  refine .inr ⟨timed, timed.clock, failures, rfl, htimed.trans hcounted, htimed.1, hcounted.1, ?_, rfl⟩
  rw [← countP_lockQuery]
  obtain ⟨rfl, rfl⟩ := Prod.mk.inj (Option.some.inj hanswer)
  rfl

/-- The limits leave the accounts alone. -/
theorem accounts_of_assertLimits {email : String} {digest : Option String} {result : Option Unit}
    (hserves : Serves (IdentityStore.handleInTime deps) store
      (Login.assertLimits deps email digest) trail final result) :
    final.accounts = store.accounts := by
  have hkept : ∀ (store : IdentityStore) (op : IdentityOp) (oracle : ℕ × String) (later : IdentityStore)
      (answer : op.Answer), IsOutside op → store.handleInTime deps op oracle = some (later, answer) →
        later.accounts = store.accounts := by
    intro store op oracle later answer hop hanswer
    cases op with
    | surroundings op =>
      rw [(handle_surroundings hanswer).2]
      rfl
    | _ => exact hop.elim
  exact hserves.related (fun store later ↦ later.accounts = store.accounts) (fun _ ↦ rfl)
    (fun _ _ _ hfirst hsecond ↦ hsecond.trans hfirst) hkept (outside_assertLimits email digest)

theorem execute_serves {result : Option (Except LoginError LoginSuccess)}
    (hserves : Serves (IdentityStore.handleInTime deps) store (Login.execute deps input) trail final
      result) :
    LoginCourse deps input store trail final result := by
  have hlimits : (Login.assertLimits deps (deps.normalizeEmail input.email)
      input.client.ipDigest).Uses IsAside :=
    aside_assertLimits _ _
  rcases serves_bind_iff.mp hserves with ⟨hlimit, rfl⟩ |
    ⟨limited, allowed, _, rest, hlimit, hrest, rfl⟩
  · exact .unasked (unasked_of_serves hlimit hlimits) (aside_of_serves hlimit hlimits) (.inl rfl)
  have hallowed := aside_of_serves hlimit hlimits
  have hlimited := unasked_of_serves hlimit hlimits
  rcases serves_perform_bind_iff.mp hrest with ⟨rfl, rfl, rfl⟩ |
    ⟨oracle, found, account, late, hanswer, rfl, hlate⟩
  · rw [List.append_nil]
    exact .unasked hlimited hallowed (.inl rfl)
  have hfound : Aside store found := hallowed.trans (aside_of_handleInTime (by simp) hanswer)
  have hearly : Unasked (limited ++ [(found,
      ⟨.accounts (.findByEmail (deps.normalizeEmail input.email)), account⟩)]) :=
    hlimited.concat trivial
  have haccount : store.accounts.findByEmail (deps.normalizeEmail input.email) = account := by
    obtain ⟨rfl, rfl⟩ := Prod.mk.inj (Option.some.inj hanswer)
    rw [← accounts_of_assertLimits hlimit]
    rfl
  match account, hearly, haccount, hlate with
  | none, hearly, haccount, hlate =>
    have huses : (do
          IdentityDependencies.dummyVerify
          recordSecurity none .loginFailed input.client.ipDigest
            (some [("reason", .text "unknown_account")])
          return .error .invalidCredentials :
        UseCase (Except LoginError LoginSuccess)).Uses IsAside := by
      refine uses_bind (uses_pure ()) fun _ ↦ ?_
      exact uses_bind (aside_recordSecurity (fun _ ↦ rfl) _ _) fun _ ↦ uses_pure _
    rw [List.append_cons]
    refine .unasked (hearly.append (unasked_of_serves hlate huses))
      (hfound.trans (aside_of_serves hlate huses)) ?_
    have hrecord : Serves (IdentityStore.handleInTime deps) found (do
          recordSecurity none .loginFailed input.client.ipDigest
            (some [("reason", .text "unknown_account")])
          return (.error .invalidCredentials : Except LoginError LoginSuccess)) late final result :=
      hlate
    obtain ⟨returned, _, rfl⟩ := serves_bind_pure_iff.mp hrecord
    cases returned with
    | none => exact .inl rfl
    | some _ => exact .inr ⟨rfl, haccount⟩
  | some account, hearly, haccount, hlate =>
    rw [List.append_cons]
    rcases serves_bind_iff.mp hlate with ⟨hlock, rfl⟩ |
      ⟨checking, counted, lockedOut, rest, hlock, hrest, rfl⟩
    · rcases isLockedOut_serves hlock with ⟨_, hunasked, haside⟩ | ⟨_, _, _, _, _, _, _, _, hresult⟩
      · exact .unasked (hearly.append hunasked) (hfound.trans haside) (.inl rfl)
      · exact absurd hresult (by simp)
    · rcases isLockedOut_serves hlock with ⟨hnone, _, _⟩ |
        ⟨timed, now, failures, rfl, hcounted, hstart, hend, hfailures, hresult⟩
      · exact absurd hnone (by simp)
      have hbefore : Unasked (limited ++ [(found,
          ⟨.accounts (.findByEmail (deps.normalizeEmail input.email)), some account⟩)] ++
          [(timed, ⟨.surroundings .now, now⟩)]) := hearly.concat trivial
      have hafter : (deps.policy.lockoutThreshold ≤ failures ∧ Unasked rest ∧ Aside counted final ∧
            ∀ success, result ≠ some (.ok success)) ∨
          (failures < deps.policy.lockoutThreshold ∧
            VerifyCourse deps account input counted rest final result) := by
        obtain rfl := Option.some.inj hresult
        by_cases hreached : deps.policy.lockoutThreshold ≤ failures
        · rw [decide_eq_true hreached, if_pos rfl] at hrest
          have huses : (do
                recordSecurity (some account.id) .loginLocked input.client.ipDigest none
                return .error .invalidCredentials :
              UseCase (Except LoginError LoginSuccess)).Uses IsAside :=
            uses_bind (aside_recordSecurity (by simp) _ _) fun _ ↦ uses_pure _
          refine .inl ⟨hreached, unasked_of_serves hrest huses, aside_of_serves hrest huses, ?_⟩
          obtain ⟨returned, _, rfl⟩ := serves_bind_pure_iff.mp hrest
          simp
        · rw [decide_eq_false hreached, if_neg (by simp)] at hrest
          exact .inr ⟨Nat.lt_of_not_le hreached, verifyPassword_serves hrest⟩
      have hcourse := LoginCourse.asked haccount hbefore (hfound.trans hcounted)
        ⟨le_trans hfound.1 hstart, hend⟩ hfailures hafter
      simpa using hcourse

theorem VerifyCourse.leaves {account : IdentityAccount}
    {result : Option (Except LoginError LoginSuccess)}
    (hcourse : VerifyCourse deps account input store trail final result) :
    Aside store final ∨ ∃ event, AddsFailure event store final := by
  cases hcourse with
  | thrown => exact .inl (Aside.refl store)
  | accepted hread _ _ haside => exact .inl (hread.trans haside)
  | rejected hread _ _ hends =>
    rcases hends with ⟨_, haside⟩ | ⟨event, _, _, _, hadds, _⟩
    · exact .inl (hread.trans haside)
    · exact .inr ⟨event, hread.addsFailure hadds⟩

theorem LoginCourse.leaves {result : Option (Except LoginError LoginSuccess)}
    (hcourse : LoginCourse deps input store trail final result) :
    Aside store final ∨ ∃ event, AddsFailure event store final := by
  cases hcourse with
  | unasked _ haside _ => exact .inl haside
  | asked _ _ haside _ _ hlate =>
    rcases hlate with ⟨_, _, hrefused, _⟩ | ⟨_, hverify⟩
    · exact .inl (haside.trans hrefused)
    · rcases hverify.leaves with hafter | ⟨event, hadds⟩
      · exact .inl (haside.trans hafter)
      · exact .inr ⟨event, haside.addsFailure hadds⟩

theorem changePassword_serves {input : ChangePasswordInput}
    {result : Option (Except ChangePasswordError Unit)}
    (hserves : Serves (IdentityStore.handleInTime deps) store (ChangePassword.execute deps input)
      trail final result) :
    Aside store final ∨ ∃ event, AddsFailure event store final := by
  unfold ChangePassword.execute at hserves
  split at hserves
  · obtain ⟨_, rfl, _⟩ := serves_pure_iff.mp hserves
    exact .inl (Aside.refl _)
  rcases serves_perform_bind_iff.mp hserves with ⟨_, rfl, _⟩ |
    ⟨oracle, read, credential, rest, hanswer, rfl, hrest⟩
  · exact .inl (Aside.refl _)
  have hread := aside_of_getCredential hanswer
  match credential, hrest with
  | none, hrest =>
    obtain ⟨_, rfl, _⟩ := serves_pure_iff.mp hrest
    exact .inl hread
  | some credential, hrest =>
    by_cases hverify : deps.argon2Verify credential.passwordHash input.currentPassword = false
    · simp only [hverify, if_true] at hrest
      obtain ⟨returned, hrecord, rfl⟩ := serves_bind_pure_iff.mp hrest
      rcases recordSecurity_serves hrecord with ⟨_, haside⟩ | ⟨event, _, _, _, hadds, _⟩
      · exact .inl (hread.trans haside)
      · exact .inr ⟨event, hread.addsFailure hadds⟩
    · simp only [hverify] at hrest
      have huses : (do
            ChangePassword.complete deps input
            return .ok () : UseCase (Except ChangePasswordError Unit)).Uses IsAside :=
        uses_bind (aside_changePassword input) fun _ ↦ uses_pure _
      exact .inl (hread.trans (aside_of_serves hrest huses))

end Course

/-! ### One call -/

section Call

variable {deps : IdentityDependencies} {accountId : UserId} {ipDigest : Option String}
  {call : PasswordCall} {store final : IdentityStore} {input : LoginInput}
  {trail : IdentityTrail} {result : Option (Except LoginError LoginSuccess)}

/-- The lock, as the abstract one over the failures of an account from an address. -/
abbrev LockStep (deps : IdentityDependencies) (accountId : UserId) (ipDigest : Option String)
    (store : IdentityStore) (label : Option Instant) (later : IdentityStore) : Prop :=
  Step (deps.policy.lockoutWindowMs : Instant) deps.policy.lockoutThreshold
    (recordedFailures accountId ipDigest store.events) label
    (recordedFailures accountId ipDigest later.events)

theorem Aside.lockStep (haside : Aside store final) :
    LockStep deps accountId ipDigest store none final := by
  unfold LockStep
  rw [haside.recordedFailures]
  exact .idle

theorem AddsFailure.lockStep {event : SecurityEvent} (hadds : AddsFailure event store final) :
    LockStep deps accountId ipDigest store none final := by
  unfold LockStep
  rw [hadds.recordedFailures]
  by_cases hfailure : IsFailureOf accountId ipDigest event
  · rw [recordedFailures_of_failure hfailure]
    exact .other _
  · rw [recordedFailures_of_not_failure hfailure, List.append_nil]
    exact .idle

theorem rejectedAt_eq_some {read : IdentityStore} {credential : CredentialView} {password : String}
    (hverify : deps.argon2Verify credential.passwordHash password = false) :
    rejectedAt deps accountId password
      (read, ⟨.accounts (.getCredential accountId), some credential⟩) = some read.clock := by
  simp [rejectedAt, hverify]

theorem rejectedAt_eq_none {read : IdentityStore} {id : UserId} {credential : Option CredentialView}
    {password : String}
    (hnot : ∀ found, credential = some found → id = accountId →
      deps.argon2Verify found.passwordHash password = true) :
    rejectedAt deps accountId password (read, ⟨.accounts (.getCredential id), credential⟩) = none := by
  cases credential with
  | none => rfl
  | some found =>
    have hverify : ¬ (id = accountId ∧ deps.argon2Verify found.passwordHash password = false) := by
      rintro ⟨hid, hfalse⟩
      exact absurd ((hnot found rfl hid).symm.trans hfalse) (by simp)
    simp only [rejectedAt, if_neg hverify]

/-- The password check is a step of the lock, labelled with the rejected password. Assumes: the lock
was open at an instant before it. -/
theorem VerifyCourse.lockStep {account : IdentityAccount} {now : Instant}
    (hcourse : VerifyCourse deps account input store trail final result) (hnow : now ≤ store.clock)
    (hopen : failuresAfter (recordedFailures account.id input.client.ipDigest store.events)
      (now - deps.policy.lockoutWindowMs) < deps.policy.lockoutThreshold) :
    LockStep deps accountId input.client.ipDigest store
      (if result.isSome then trail.findSome? (rejectedAt deps accountId input.password) else none)
      final := by
  cases hcourse with
  | thrown => exact (Aside.refl store).lockStep
  | @accepted read _ credential rest _ hread hcredential hrest haside =>
    rw [List.findSome?_cons, rejectedAt_eq_none, hrest.findSome?_eq_none]
    · simpa using (hread.trans haside).lockStep
    · intro found hfound _
      rw [← Option.some.inj hfound]
      exact hcredential
  | @rejected read _ credential rest _ hread hcredential hrest hends =>
    rcases hends with ⟨rfl, haside⟩ | ⟨event, haccount, htype, hdigest, hadds, rfl⟩
    · exact (hread.trans haside).lockStep
    rw [Option.isSome_some, if_pos rfl, List.findSome?_cons]
    by_cases hid : account.id = accountId
    · subst hid
      cases credential with
      | none =>
        rw [rejectedAt_eq_none (by simp), hrest.findSome?_eq_none]
        exact (hread.addsFailure hadds).lockStep
      | some credential =>
        rw [rejectedAt_eq_some (hcredential credential rfl)]
        have hfailure : IsFailureOf account.id input.client.ipDigest event :=
          ⟨haccount, htype, .inr hdigest⟩
        unfold LockStep
        rw [(hread.addsFailure hadds).recordedFailures, recordedFailures_of_failure hfailure]
        exact .attempt hopen (le_trans hnow hread.1) hadds.1
    · rw [rejectedAt_eq_none (fun _ _ hsame ↦ absurd hsame hid), hrest.findSome?_eq_none]
      exact (hread.addsFailure hadds).lockStep

/-- A login from the address is a step of the lock, labelled with the rejected password. -/
theorem LoginCourse.lockStep (hcourse : LoginCourse deps input store trail final result) :
    LockStep deps accountId input.client.ipDigest store
      (if result.isSome then trail.findSome? (rejectedAt deps accountId input.password) else none)
      final := by
  cases hcourse with
  | unasked htrail haside _ =>
    rw [htrail.findSome?_eq_none]
    simpa using haside.lockStep
  | @asked early late counted _ account now failures _ haccount hearly haside hnow hfailures hlate =>
    have hskip : (early ++ (counted, ⟨.ledger (.countSince
          (lockQuery deps account.id input.client.ipDigest now)), failures⟩) :: late).findSome?
        (rejectedAt deps accountId input.password) =
          late.findSome? (rejectedAt deps accountId input.password) := by
      rw [List.findSome?_append, hearly.findSome?_eq_none, Option.none_or, List.findSome?_cons]
      rfl
    rw [hskip]
    rcases hlate with ⟨_, hunasked, hrefused, _⟩ | ⟨hopen, hverify⟩
    · rw [hunasked.findSome?_eq_none]
      simpa using (haside.trans hrefused).lockStep
    · have hstep : LockStep deps accountId input.client.ipDigest counted _ final :=
        hverify.lockStep hnow.2 (hfailures ▸ hopen)
      unfold LockStep at hstep ⊢
      rwa [haside.recordedFailures] at hstep

/-- Every call is a step of the lock, labelled with the wrong password it presented. -/
theorem lockStep_of_served
    (hserved : call.Served (IdentityStore.handleInTime deps) (PasswordRequest.program deps)) :
    LockStep deps accountId ipDigest call.before (wrongPasswordAt deps accountId ipDigest call)
      call.after := by
  obtain ⟨request, before, trail, after, outcome⟩ := call
  match request, hserved with
  | .changePassword input, hserved =>
    obtain ⟨result, hexecute, rfl⟩ := serves_bind_pure_iff.mp hserved
    rcases changePassword_serves hexecute with haside | ⟨event, hadds⟩
    · exact haside.lockStep
    · exact hadds.lockStep
  | .login input, hserved =>
    obtain ⟨result, hexecute, rfl⟩ := serves_bind_pure_iff.mp hserved
    have hcourse := execute_serves hexecute
    by_cases hdigest : input.client.ipDigest = ipDigest
    · subst hdigest
      simpa [wrongPasswordAt] using hcourse.lockStep
    · have hlabel : wrongPasswordAt deps accountId ipDigest
          ⟨.login input, before, trail, after, result.map .login⟩ = none := by
        simp [wrongPasswordAt, hdigest]
      rw [hlabel]
      rcases hcourse.leaves with haside | ⟨event, hadds⟩
      · exact haside.lockStep
      · exact hadds.lockStep

theorem recordedPast_of_served
    (hserved : call.Served (IdentityStore.handleInTime deps) (PasswordRequest.program deps))
    (hpast : RecordedPast call.before) : RecordedPast call.after := by
  have hleaves : Aside call.before call.after ∨ ∃ event, AddsFailure event call.before call.after := by
    obtain ⟨request, before, trail, after, outcome⟩ := call
    match request, hserved with
    | .login input, hserved =>
      obtain ⟨result, hexecute, rfl⟩ := serves_bind_pure_iff.mp hserved
      exact (execute_serves hexecute).leaves
    | .changePassword input, hserved =>
      obtain ⟨result, hexecute, rfl⟩ := serves_bind_pure_iff.mp hserved
      exact changePassword_serves hexecute
  rcases hleaves with haside | ⟨event, hadds⟩
  · exact haside.recordedPast hpast
  · exact hadds.recordedPast hpast

theorem VerifyCourse.reachesVerifier {account : IdentityAccount}
    (hcourse : VerifyCourse deps account input store trail final result)
    (hanswered : result.isSome) : ReachesVerifier account.id trail := by
  cases hcourse with
  | thrown => exact absurd hanswered (by simp)
  | @accepted read _ credential => exact ⟨read, some credential, List.mem_cons_self⟩
  | @rejected read _ credential => exact ⟨read, credential, List.mem_cons_self⟩

/-- A login that succeeds records no failure. -/
theorem VerifyCourse.aside_of_ok {account : IdentityAccount} {success : LoginSuccess}
    (hcourse : VerifyCourse deps account input store trail final (some (.ok success))) :
    Aside store final := by
  cases hcourse with
  | accepted hread _ _ haside => exact hread.trans haside
  | rejected _ _ _ hends =>
    rcases hends with ⟨hnone, _⟩ | ⟨_, _, _, _, _, herror⟩
    · exact absurd hnone (by simp)
    · exact absurd herror (by simp)

/-- The lock is held against every login to an account from an address. -/
theorem lockHeld_of_served
    (hserved : call.Served (IdentityStore.handleInTime deps) (PasswordRequest.program deps))
    (hpast : RecordedPast call.before) (hlogin : LoginOn deps accountId ipDigest call) :
    ∃ checked, LockHeld deps accountId ipDigest call checked := by
  obtain ⟨request, before, trail, after, outcome⟩ := call
  obtain ⟨input, account, hrequest, hdigest, haccount, hid⟩ := hlogin
  obtain rfl : request = .login input := hrequest
  subst hdigest hid
  obtain ⟨result, hexecute, rfl⟩ := serves_bind_pure_iff.mp hserved
  have hcourse := execute_serves hexecute
  cases hcourse with
  | unasked htrail haside hresult =>
    have hthrown : result = none := by
      rcases hresult with hnone | ⟨_, hfound⟩
      · exact hnone
      · exact absurd (haccount.symm.trans hfound) (by simp)
    subst hthrown
    refine ⟨before.clock, ⟨le_refl _, haside.1⟩, by simp, ?_, by simp, fun _ ↦ haside.2, by simp⟩
    exact fun hreached ↦ absurd hreached htrail.not_reachesVerifier
  | @asked early late counted _ found now failures _ hfound hearly haside hnow hfailures hlate =>
    obtain rfl : found = account := Option.some.inj (hfound.symm.trans haccount)
    have hcount : failures = failuresWithin (deps.policy.lockoutWindowMs : Instant)
        (recordedFailures found.id input.client.ipDigest before.events) now := by
      rw [hfailures, haside.recordedFailures]
      apply failuresAfter_eq_failuresWithin
      intro recorded hrecorded
      exact le_trans (hpast.recordedFailures recorded hrecorded) hnow.1
    have hchecks : ChecksLock deps found.id input.client.ipDigest (early ++ (counted,
        ⟨.ledger (.countSince (lockQuery deps found.id input.client.ipDigest now)), failures⟩) ::
          late) now := ⟨counted, failures, by simp⟩
    rcases hlate with ⟨hreached, hunasked, hrefused, hnot⟩ | ⟨hopen, hverify⟩
    · refine ⟨now, ⟨hnow.1, le_trans hnow.2 hrefused.1⟩, fun _ ↦ hchecks, ?_, ?_,
        fun _ ↦ (haside.trans hrefused).2, ?_⟩
      · rintro ⟨read, credential, hmem⟩
        rcases List.mem_append.mp hmem with hmem | hmem
        · exact (hearly _ hmem).elim
        · rcases List.mem_cons.mp hmem with heq | hmem
          · exact absurd heq (by simp)
          · exact (hunasked _ hmem).elim
      · exact fun _ hfewer ↦ absurd (hcount ▸ hfewer) (Nat.not_lt_of_le hreached)
      · rintro ⟨success, hsuccess⟩
        obtain ⟨returned, hreturned, houtcome⟩ := Option.map_eq_some_iff.mp hsuccess
        exact absurd (hreturned.trans (congrArg some (PasswordOutcome.login.inj houtcome)))
          (hnot success)
    · have hafter : counted.clock ≤ after.clock := by
        rcases hverify.leaves with hleaves | ⟨event, hadds⟩
        · exact hleaves.1
        · exact le_trans hadds.1 hadds.2.1
      refine ⟨now, ⟨hnow.1, le_trans hnow.2 hafter⟩, fun _ ↦ hchecks, fun _ ↦ hcount ▸ hopen, ?_, ?_, ?_⟩
      · intro hanswered _
        obtain ⟨read, credential, hmem⟩ := hverify.reachesVerifier (by simpa using hanswered)
        exact ⟨read, credential, by simp [hmem]⟩
      · exact fun hreached ↦ absurd (hcount ▸ hopen) (Nat.not_lt_of_le hreached)
      · rintro ⟨success, hsuccess⟩ instant hinstant
        obtain ⟨returned, hreturned, houtcome⟩ := Option.map_eq_some_iff.mp hsuccess
        obtain rfl := PasswordOutcome.login.inj houtcome
        subst hreturned
        have hkept := haside.trans hverify.aside_of_ok
        show failuresWithin _ (recordedFailures _ _ after.events) instant < _
        rw [hkept.recordedFailures]
        refine lt_of_le_of_lt (failuresWithin_le_of_le hinstant) ?_
        rwa [← haside.recordedFailures, ← hfailures]

end Call

/-! ### Runs -/

section Law

variable {deps : IdentityDependencies} {start final : IdentityStore} {calls : List PasswordCall}

/-- A sequence of calls is a run of the lock, labelled with the wrong passwords presented. -/
theorem lockRun_of_passwordRun (hrun : PasswordRun deps start calls final) (accountId : UserId)
    (ipDigest : Option String) :
    Run (deps.policy.lockoutWindowMs : Instant) deps.policy.lockoutThreshold
      (recordedFailures accountId ipDigest start.events)
      (calls.map (wrongPasswordAt deps accountId ipDigest))
      (recordedFailures accountId ipDigest final.events) := by
  induction hrun with
  | nil => exact .nil
  | cons hserved _ ih => exact .cons (lockStep_of_served hserved) ih

/-- In every window at most as many wrong passwords of one address reach the verifier as the
threshold says, and the lock is held against every login. Assumes: the ledger starts without rows in
the future. -/
theorem lockout_holds (hrun : PasswordRun deps start calls final) (hpast : RecordedPast start)
    (accountId : UserId) (ipDigest : Option String) :
    (∀ opening, triedWithin (deps.policy.lockoutWindowMs : Instant) opening
      (calls.map (wrongPasswordAt deps accountId ipDigest)) ≤ deps.policy.lockoutThreshold) ∧
    ∀ call ∈ calls, LoginOn deps accountId ipDigest call →
      ∃ checked, LockHeld deps accountId ipDigest call checked := by
  refine ⟨(lockRun_of_passwordRun hrun accountId ipDigest).tried_le_threshold, ?_⟩
  intro call hcall hlogin
  obtain ⟨hserved, hbefore⟩ :=
    hrun.served_of_mem (fun _ ↦ recordedPast_of_served) hpast call hcall
  exact lockHeld_of_served hserved hbefore hlogin

end Law

/-! ### A wrong password and the right one -/

namespace Lockout

open ReferenceLibraries

def deps : IdentityDependencies :=
  dependencies { defaultIdentityPolicy with lockoutThreshold := 1, lockoutWindowMs := 60 }

/-- A login to the owner's account from one address, some time after the call before it. Every
operation takes one millisecond. -/
def serveFrom (store : IdentityStore) (elapsed : ℕ) (password : String) : PasswordCall :=
  .of (IdentityStore.handleInTime deps) (PasswordRequest.program deps)
    (.login ⟨ownerAccount.email, password, ⟨some "address", none⟩⟩) store
    ((elapsed, "drawn") :: List.replicate 24 (1, "drawn"))

def wrong : PasswordCall := serveFrom ownerStore 1 "battery staple"

/-- The right password while the failure is in the window. -/
def early : PasswordCall := serveFrom wrong.after 1 "correct horse"

/-- The right password once it has left. -/
def late : PasswordCall := serveFrom early.after 60 "correct horse"

theorem served_serveFrom (store : IdentityStore) (elapsed : ℕ) (password : String) :
    (serveFrom store elapsed password).Served (IdentityStore.handleInTime deps)
      (PasswordRequest.program deps) :=
  ServedCall.served_of ..

theorem run : PasswordRun deps ownerStore [wrong, early, late] late.after := by
  have hlate : PasswordRun deps late.before [late] late.after := .cons (served_serveFrom ..) .nil
  have hearly : PasswordRun deps early.before [early, late] late.after :=
    .cons (served_serveFrom ..) hlate
  exact .cons (served_serveFrom ..) hearly

end Lockout

open Lockout ReferenceLibraries in
theorem lockout_holds_three :
    wrongPasswordAt deps owner (some "address") wrong = some 8 ∧
      early.outcome = some (.login (.error .invalidCredentials)) ∧
      late.outcome ≠ some (.login (.error .invalidCredentials)) ∧
      triedWithin 60 0 ([wrong, early, late].map (wrongPasswordAt deps owner (some "address"))) ≤ 1 ∧
      ∃ checked, LockHeld deps owner (some "address") early checked := by
  have hheld := lockout_holds run (by simp [RecordedPast, failureRows, ownerStore, IdentityStore.empty]) owner (some "address")
  refine ⟨by decide, by decide, by decide, hheld.1 0, ?_⟩
  exact hheld.2 early (by simp) ⟨_, ownerAccount, rfl, rfl, by decide, rfl⟩

end Karar.Identity
