import Karar.Identity.RefreshSession
import Karar.Identity.SessionLifecycle

/-!
# The identity machine

Every use case of the identity module as a request, and the machine that serves any number of such
requests at the same time over one store. The clock of the store is set from outside to any instant.

The steps of a use case that touch neither a credential, a code, an enrolment nor a session: the
ledger, the audit trail, the limits, the notifications, the clock and the randomness, and the reads
of an account. What a use case is held to never depends on them, so its proof passes over them.
-/

namespace Karar.Identity

/-! ## Requests -/

section Requests

open Foundation SharedKernel

inductive IdentityRequest
  | registerAccount (input : RegisterAccountInput)
  | verifyEmail (input : VerifyEmailInput)
  | resendVerification (input : EmailInput)
  | login (input : LoginInput)
  | refreshSession (input : RefreshSessionInput)
  | authenticateRequest (accessToken : String)
  | listSessions (accountId : UserId) (currentSessionId : String)
  | revokeSession (input : SessionInput)
  | revokeOtherSessions (input : SessionInput)
  | logout (input : SessionInput)
  | bindSessionTenant (input : BindSessionTenantInput)
  | rebindSessionTenant (input : RebindSessionTenantInput)
  | forgotPassword (input : EmailInput)
  | resetPassword (input : ResetPasswordInput)
  | changePassword (input : ChangePasswordInput)
  | enrollMfa (input : AccountInput)
  | confirmMfa (input : MfaCodeInput)
  | verifyMfaWithTotp (input : TotpChallengeInput)
  | verifyMfaWithRecoveryCode (input : RecoveryChallengeInput)
  | disableMfa (input : MfaCodeInput)
  | disableAccount (input : DisableAccountInput)
  | enableAccount (input : EnableAccountInput)
deriving DecidableEq

inductive IdentityOutcome
  /-- A use case whose answer is the same for everyone. -/
  | accepted
  | registerAccount (result : Except RegisterAccountError Unit)
  | verifyEmail (result : Except VerifyEmailError Unit)
  | login (result : Except LoginError LoginSuccess)
  | refreshSession (result : Except RefreshSessionError RefreshedSession)
  | authenticateRequest (result : Except AuthenticateRequestError AuthenticatedPrincipal)
  | listSessions (views : List SessionView)
  | revokeSession (result : Except RevokeSessionError Unit)
  | revokeOtherSessions (revokedCount : ℕ)
  | bindSessionTenant (result : Except BindSessionTenantError Unit)
  | rebindSessionTenant (result : Except RebindSessionTenantError SessionTenantRebound)
  | resetPassword (result : Except ResetPasswordError Unit)
  | changePassword (result : Except ChangePasswordError Unit)
  | enrollMfa (result : Except EnrollMfaError MfaEnrolmentStarted)
  | confirmMfa (result : Except ConfirmMfaError MfaConfirmed)
  | verifyMfaChallenge (result : Except MfaChallengeError IssuedSession)
  | disableMfa (result : Except DisableMfaError Unit)
  | disableAccount (result : Except AccountAdministrationError ℕ)
  | enableAccount (result : Except AccountAdministrationError Unit)
deriving DecidableEq

/-- The use case that serves a request. -/
def IdentityRequest.program (deps : IdentityDependencies) :
    IdentityRequest → UseCase IdentityOutcome
  | .registerAccount input => return .registerAccount (← RegisterAccount.execute deps input)
  | .verifyEmail input => return .verifyEmail (← VerifyEmail.execute deps input)
  | .resendVerification input => do
    ResendVerification.execute deps input
    return .accepted
  | .login input => return .login (← Login.execute deps input)
  | .refreshSession input => return .refreshSession (← RefreshSession.execute deps input)
  | .authenticateRequest accessToken =>
    return .authenticateRequest (← AuthenticateRequest.execute deps accessToken)
  | .listSessions accountId currentSessionId =>
    return .listSessions (← ListSessions.execute accountId currentSessionId)
  | .revokeSession input => return .revokeSession (← RevokeSession.execute deps input)
  | .revokeOtherSessions input =>
    return .revokeOtherSessions (← RevokeOtherSessions.execute deps input)
  | .logout input => do
    Logout.execute input
    return .accepted
  | .bindSessionTenant input => return .bindSessionTenant (← BindSessionTenant.execute deps input)
  | .rebindSessionTenant input =>
    return .rebindSessionTenant (← RebindSessionTenant.execute deps input)
  | .forgotPassword input => do
    ForgotPassword.execute deps input
    return .accepted
  | .resetPassword input => return .resetPassword (← ResetPassword.execute deps input)
  | .changePassword input => return .changePassword (← ChangePassword.execute deps input)
  | .enrollMfa input => return .enrollMfa (← EnrollMfa.execute deps input)
  | .confirmMfa input => return .confirmMfa (← ConfirmMfa.execute deps input)
  | .verifyMfaWithTotp input =>
    return .verifyMfaChallenge (← VerifyMfaChallenge.withTotp deps input)
  | .verifyMfaWithRecoveryCode input =>
    return .verifyMfaChallenge (← VerifyMfaChallenge.withRecoveryCode deps input)
  | .disableMfa input => return .disableMfa (← DisableMfa.execute deps input)
  | .disableAccount input => return .disableAccount (← DisableAccount.execute deps input)
  | .enableAccount input => return .enableAccount (← EnableAccount.execute deps input)

abbrev IdentityMachine :=
  Machine IdentityOp IdentityOp.Answer IdentityStore String IdentityRequest IdentityOutcome Instant

abbrev IdentityConfiguration :=
  Configuration IdentityOp IdentityOp.Answer IdentityStore IdentityRequest IdentityOutcome

abbrev IdentityEvent := Event String IdentityRequest Instant

abbrev IdentityLog := List (Performed IdentityOp IdentityOp.Answer)

def identityMachine (deps : IdentityDependencies) : IdentityMachine where
  handler := IdentityStore.handle deps
  program := IdentityRequest.program deps
  turn store clock := { store with clock }

/-! ### What a call has performed -/

/-- An operation was performed and got an answer. -/
def Answered (log : IdentityLog) (op : IdentityOp) (answer : op.Answer) : Prop :=
  ⟨op, answer⟩ ∈ log

theorem Answered.cons {log : IdentityLog} {op : IdentityOp} {answer : op.Answer}
    (h : Answered log op answer) (performed : Performed IdentityOp IdentityOp.Answer) :
    Answered (performed :: log) op answer :=
  List.mem_cons_of_mem _ h

theorem Answered.append {log : IdentityLog} {op : IdentityOp} {answer : op.Answer}
    (h : Answered log op answer) (extra : IdentityLog) : Answered (extra ++ log) op answer :=
  List.mem_append_right _ h

theorem answered_head {log : IdentityLog} {op : IdentityOp} {answer : op.Answer} :
    Answered (⟨op, answer⟩ :: log) op answer :=
  List.mem_cons_self

end Requests

/-! ## Ancillary steps -/

section Ancillary

open Foundation Program SharedKernel

def IsAncillary : IdentityOp → Prop
  | .ledger _ => True
  | .surroundings (.sign _) => False
  | .surroundings _ => True
  | .accounts (.findByEmail _) => True
  | .accounts (.findById _) => True
  | _ => False

section Steps

variable {deps : IdentityDependencies}

theorem ancillary_clockNow : clockNow.Uses IsAncillary :=
  uses_perform trivial

theorem ancillary_random (kind : SecretKind) : (random kind).Uses IsAncillary :=
  uses_perform trivial

theorem ancillary_raise {Result : Type} (message : String) :
    (raise message : UseCase Result).Uses IsAncillary :=
  ⟨trivial, fun never ↦ never.elim⟩

theorem ancillary_findById (accountId : UserId) :
    (accounts (.findById accountId)).Uses IsAncillary :=
  uses_perform trivial

theorem ancillary_assertWithinLimit (policy : RateLimitPolicy) (key : String) :
    (assertWithinLimit policy key).Uses IsAncillary :=
  uses_bind ancillary_clockNow fun _ ↦ uses_perform trivial

theorem ancillary_guardSecurityMetadata (metadata : Option Metadata) :
    (guardSecurityMetadata metadata).Uses IsAncillary := by
  unfold guardSecurityMetadata
  split
  · exact uses_pure none
  · split
    · exact ancillary_raise _
    · exact uses_pure _

theorem ancillary_recordSecurity (accountId : Option UserId) (eventType : SecurityEventType)
    (ipDigest : Option String) (metadata : Option Metadata) :
    (recordSecurity accountId eventType ipDigest metadata).Uses IsAncillary := by
  refine uses_bind ancillary_clockNow fun occurredAt ↦ ?_
  exact uses_bind (ancillary_guardSecurityMetadata metadata) fun _ ↦ uses_perform trivial

theorem ancillary_auditOrFail (input : AuditInput) : (auditOrFail deps input).Uses IsAncillary :=
  uses_bind ancillary_clockNow fun _ ↦ uses_perform trivial

theorem ancillary_noticeOwner (accountId : UserId) (kind : SecurityNoticeKind) :
    (noticeOwner accountId kind).Uses IsAncillary := by
  refine uses_bind (ancillary_findById accountId) fun account ↦ ?_
  match account with
  | some account => exact uses_perform trivial
  | none => exact uses_pure ()

theorem ancillary_hash (password : String) : (deps.hash password).Uses IsAncillary :=
  uses_bind (ancillary_random .salt) fun _ ↦ uses_pure _

theorem ancillary_dummyVerify : IdentityDependencies.dummyVerify.Uses IsAncillary :=
  uses_pure ()

theorem ancillary_encryptSecret (secret : String) :
    (deps.encryptSecret secret).Uses IsAncillary :=
  uses_bind (ancillary_random .nonce) fun _ ↦ uses_pure _

theorem ancillary_decryptSecret (secret : EncryptedSecret) :
    (deps.decryptSecret secret).Uses IsAncillary := by
  unfold IdentityDependencies.decryptSecret
  split
  · exact uses_pure _
  · exact ancillary_raise _

theorem ancillary_mint (account : IdentityAccount) (client : ClientContext)
    (tenantBinding : Option String) :
    (SessionIssuer.mint deps account client tenantBinding).Uses IsAncillary := by
  refine uses_bind ancillary_clockNow fun now ↦ ?_
  refine uses_bind (ancillary_random .id) fun sessionId ↦ ?_
  refine uses_bind (ancillary_random .id) fun familyId ↦ ?_
  refine uses_bind (ancillary_random .refreshToken) fun rawRefreshToken ↦ ?_
  exact uses_bind (ancillary_random .id) fun tokenId ↦ uses_pure _

theorem ancillary_assertLimits (email : String) (ipDigest : Option String) :
    (Login.assertLimits deps email ipDigest).Uses IsAncillary := by
  match ipDigest with
  | none => exact ancillary_assertWithinLimit _ _
  | some ipDigest =>
    exact uses_bind (ancillary_assertWithinLimit _ _) fun _ ↦ ancillary_assertWithinLimit _ _

theorem ancillary_isLockedOut (accountId : UserId) (ipDigest : Option String) :
    (Login.isLockedOut deps accountId ipDigest).Uses IsAncillary := by
  refine uses_bind ancillary_clockNow fun now ↦ ?_
  exact uses_bind (uses_perform trivial) fun _ ↦ uses_pure _

theorem ancillary_recordFailure (accountId : UserId) (ipDigest : Option String) (reason : String) :
    (Login.recordFailure accountId ipDigest reason).Uses IsAncillary :=
  ancillary_recordSecurity _ _ _ _

theorem ancillary_isRecoveryLocked (accountId : UserId) :
    (VerifyMfaChallenge.isRecoveryLocked deps accountId).Uses IsAncillary := by
  refine uses_bind ancillary_clockNow fun now ↦ ?_
  exact uses_bind (uses_perform trivial) fun _ ↦ uses_pure _

theorem ancillary_drawRecoveryCodes (count : ℕ) :
    (ConfirmMfa.drawRecoveryCodes count).Uses IsAncillary := by
  induction count with
  | zero => exact uses_pure []
  | succ count ih =>
    exact uses_bind (ancillary_random .recoveryCode) fun _ ↦ uses_bind ih fun _ ↦ uses_pure _

theorem ancillary_newRecoveryCodes (createdAt : Instant) (codes : List String) :
    (ConfirmMfa.newRecoveryCodes deps createdAt codes).Uses IsAncillary := by
  induction codes with
  | nil => exact uses_pure []
  | cons code codes ih =>
    exact uses_bind (ancillary_random .id) fun _ ↦ uses_bind ih fun _ ↦ uses_pure _

end Steps

end Ancillary

end Karar.Identity
