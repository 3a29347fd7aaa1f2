import Karar.Identity.Requests

/-!
# What each use case touches

`Touches request op` lists, beside the ancillary steps, the operations that the use case of a
request can perform at all. A use case that does not touch a table leaves it alone in every
interleaving, so later modules pass over whole use cases by this list.
-/

namespace Karar.Identity

open Foundation Program SharedKernel

/-- The operations of a use case other than the ancillary ones. -/
def Touches : IdentityRequest → IdentityOp → Prop
  | .registerAccount _, .accounts (.createWithCredential _) => True
  | .registerAccount _, .verifications (.create _) => True
  | .verifyEmail _, .verifications (.latestActive _ _) => True
  | .verifyEmail _, .verifications (.recordFailedAttempt _) => True
  | .verifyEmail _, .verifications (.consume _ _) => True
  | .verifyEmail _, .accounts (.markEmailVerified _ _) => True
  | .resendVerification _, .verifications (.latestCreatedAt _) => True
  | .resendVerification _, .verifications (.create _) => True
  | .login _, .accounts (.getCredential _) => True
  | .login _, .accounts (.replacePassword _ _ _ _) => True
  | .login _, .mfa (.getEnrolment _) => True
  | .login _, .sessions (.createSession _) => True
  | .login _, .surroundings (.sign _) => True
  | .refreshSession _, .sessions (.findTokenAndFamily _) => True
  | .refreshSession _, .sessions (.findSession _ _) => True
  | .refreshSession _, .sessions (.rotateToken _ _ _ _) => True
  | .refreshSession _, .sessions (.touchSession _ _ _ _) => True
  | .refreshSession _, .sessions (.revokeFamilyAndSession _ _ _ _ _) => True
  | .refreshSession _, .surroundings (.sign _) => True
  | .authenticateRequest _, .sessions (.findSession _ _) => True
  | .authenticateRequest _, .sessions (.touchSession _ _ _ _) => True
  | .listSessions _ _, .sessions (.listSessions _) => True
  | .revokeSession _, .sessions (.revokeSession _ _ _ _) => True
  | .revokeOtherSessions _, .sessions (.selectTargets _ _) => True
  | .revokeOtherSessions _, .sessions (.revokeTargets _ _ _ _) => True
  | .logout _, .sessions (.revokeSession _ _ _ _) => True
  | .bindSessionTenant _, .sessions (.findSession _ _) => True
  | .bindSessionTenant _, .sessions (.setTenantBinding _ _ _ _) => True
  | .rebindSessionTenant _, .sessions (.findSession _ _) => True
  | .rebindSessionTenant _, .sessions (.rebindSession _ _ _ _ _) => True
  | .rebindSessionTenant _, .surroundings (.sign _) => True
  | .forgotPassword _, .resets (.latestCreatedAt _) => True
  | .forgotPassword _, .resets (.create _ _) => True
  | .resetPassword _, .resets (.findByCodeHash _) => True
  | .resetPassword _, .resets (.recordFailedAttempt _) => True
  | .resetPassword _, .resets (.consume _ _ _) => True
  | .resetPassword _, .accounts (.replacePassword _ _ _ _) => True
  | .resetPassword _, .sessions (.selectTargets _ _) => True
  | .resetPassword _, .sessions (.revokeTargets _ _ _ _) => True
  | .changePassword _, .accounts (.getCredential _) => True
  | .changePassword _, .accounts (.replacePassword _ _ _ _) => True
  | .changePassword _, .sessions (.selectTargets _ _) => True
  | .changePassword _, .sessions (.revokeTargets _ _ _ _) => True
  | .enrollMfa _, .mfa (.getEnrolment _) => True
  | .enrollMfa _, .mfa (.saveEnrolment _) => True
  | .confirmMfa _, .mfa (.getEnrolment _) => True
  | .confirmMfa _, .mfa (.confirmEnrolment _ _) => True
  | .confirmMfa _, .mfa (.replaceRecoveryCodes _ _) => True
  | .verifyMfaWithTotp _, .mfa (.getEnrolment _) => True
  | .verifyMfaWithTotp _, .sessions (.createSession _) => True
  | .verifyMfaWithTotp _, .surroundings (.sign _) => True
  | .verifyMfaWithRecoveryCode _, .mfa (.consumeRecoveryCode _ _ _) => True
  | .verifyMfaWithRecoveryCode _, .mfa (.countUnusedRecoveryCodes _) => True
  | .verifyMfaWithRecoveryCode _, .sessions (.createSession _) => True
  | .verifyMfaWithRecoveryCode _, .surroundings (.sign _) => True
  | .disableMfa _, .mfa (.getEnrolment _) => True
  | .disableMfa _, .mfa (.consumeRecoveryCode _ _ _) => True
  | .disableMfa _, .mfa (.disableEnrolment _ _) => True
  | .disableAccount _, .accounts (.setStatus _ _ _ _ _) => True
  | .disableAccount _, .sessions (.selectTargets _ _) => True
  | .disableAccount _, .sessions (.revokeTargets _ _ _ _) => True
  | .enableAccount _, .accounts (.setStatus _ _ _ _ _) => True
  | _, op => IsAncillary op

theorem touches_of_isAncillary (request : IdentityRequest) (op : IdentityOp)
    (hancillary : IsAncillary op) : Touches request op := by
  unfold Touches
  split <;> trivial

/-! ### The use cases -/

section UseCases

variable {deps : IdentityDependencies} {Result : Type}

theorem uses_ancillary {request : IdentityRequest} {part : UseCase Result}
    (huses : part.Uses IsAncillary) : part.Uses (Touches request) :=
  huses.mono (touches_of_isAncillary request)

/-- Ancillary steps, then the rest of a use case. -/
theorem uses_pass {request : IdentityRequest} {Other : Type} {first : UseCase Result}
    {rest : Result → UseCase Other} (huses : first.Uses IsAncillary)
    (hrest : ∀ result, (rest result).Uses (Touches request)) :
    (first >>= rest).Uses (Touches request) :=
  uses_bind (uses_ancillary huses) hrest

theorem issuedFrom_touches (request : IdentityRequest)
    (hsign : ∀ payload, Touches request (.surroundings (.sign payload)))
    (minted : MintedSessionBundle) (tokenVersion : ℕ) :
    (SessionIssuer.issuedFrom deps minted tokenVersion).Uses (Touches request) := by
  refine uses_pass ancillary_clockNow fun now ↦ uses_bind ?_ fun access ↦ uses_pure _
  exact uses_bind (uses_perform (hsign _)) fun token ↦ uses_pure _

theorem issue_touches (request : IdentityRequest)
    (hsign : ∀ payload, Touches request (.surroundings (.sign payload)))
    (hcreate : ∀ bundle, Touches request (.sessions (.createSession bundle)))
    (account : IdentityAccount) (client : ClientContext) :
    (SessionIssuer.issue deps account client).Uses (Touches request) := by
  refine uses_pass (ancillary_mint account client none) fun minted ↦ ?_
  exact uses_bind (uses_perform (hcreate _)) fun _ ↦ issuedFrom_touches request hsign _ _

theorem revokeAllSessions_touches (request : IdentityRequest)
    (hselect : ∀ accountId except, Touches request (.sessions (.selectTargets accountId except)))
    (hrevoke : ∀ accountId ids reason now,
      Touches request (.sessions (.revokeTargets accountId ids reason now)))
    (accountId : UserId) (reason : RevocationReason) (now : Instant) (except : Option String) :
    (revokeAllSessions accountId reason now except).Uses (Touches request) := by
  refine uses_bind (uses_perform (hselect _ _)) fun ids ↦ ?_
  by_cases hempty : List.isEmpty ids = true
  · rw [if_pos hempty]
    exact uses_pure 0
  · rw [if_neg hempty]
    exact uses_bind (uses_perform (hrevoke _ _ _ _)) fun _ ↦ uses_pure _

theorem issueVerification_touches (request : IdentityRequest)
    (hcreate : ∀ record, Touches request (.verifications (.create record)))
    (accountId : UserId) (email : String) (client : ClientContext) :
    (RegisterAccount.issueVerification deps accountId email client).Uses (Touches request) := by
  refine uses_pass ancillary_clockNow fun now ↦ ?_
  refine uses_pass (ancillary_random .verificationCode) fun code ↦ ?_
  refine uses_pass (ancillary_random .id) fun id ↦ uses_bind (uses_perform (hcreate _)) fun _ ↦ ?_
  refine uses_bind (uses_perform ?_) fun _ ↦ ?_
  · exact touches_of_isAncillary request _ trivial
  · exact uses_ancillary (ancillary_recordSecurity _ _ _ _)

theorem login_touches (input : LoginInput) :
    (Login.execute deps input).Uses (Touches (.login input)) := by
  refine uses_pass (ancillary_assertLimits _ _) fun _ ↦ ?_
  refine uses_bind (uses_perform trivial) fun account ↦ ?_
  match account with
  | none =>
    refine uses_pass ancillary_dummyVerify fun _ ↦ ?_
    exact uses_pass (ancillary_recordSecurity _ _ _ _) fun _ ↦ uses_pure _
  | some account =>
    refine uses_pass (ancillary_isLockedOut _ _) fun lockedOut ↦ ?_
    by_cases hlocked : lockedOut = true
    · rw [if_pos hlocked]
      exact uses_pass (ancillary_recordSecurity _ _ _ _) fun _ ↦ uses_pure _
    rw [if_neg hlocked]
    refine uses_bind (uses_perform trivial) fun credential ↦ ?_
    match credential with
    | none =>
      refine uses_pass ancillary_dummyVerify fun _ ↦ ?_
      exact uses_pass (ancillary_recordFailure _ _ _) fun _ ↦ uses_pure _
    | some credential =>
      show Uses _ (ite _ _ _)
      split
      · exact uses_pass (ancillary_recordFailure _ _ _) fun _ ↦ uses_pure _
      split
      · exact uses_pass (ancillary_recordSecurity _ _ _ _) fun _ ↦ uses_pure _
      refine uses_bind ?_ fun _ ↦ uses_bind (uses_perform trivial) fun enrolment ↦ ?_
      · unfold Login.upgradePassword
        split
        · refine uses_pass (ancillary_hash _) fun upgraded ↦ ?_
          exact uses_pass ancillary_clockNow fun now ↦ uses_perform trivial
        · exact uses_pure ()
      split
      · refine uses_pass ancillary_clockNow fun now ↦ uses_bind ?_ fun challenge ↦ ?_
        · exact uses_bind (uses_perform trivial) fun _ ↦ uses_pure _
        · exact uses_pass (ancillary_recordSecurity _ _ _ _) fun _ ↦ uses_pure _
      · refine uses_bind (issue_touches (.login input) (fun _ ↦ trivial) (fun _ ↦ trivial) _ _) fun session ↦ ?_
        refine uses_pass (ancillary_recordSecurity _ _ _ _) fun _ ↦ ?_
        exact uses_pass (ancillary_auditOrFail _) fun _ ↦ uses_pure _

theorem openChallenge_uses (challengeToken : String) :
    (VerifyMfaChallenge.openChallenge deps challengeToken).Uses IsAncillary := by
  refine uses_bind ancillary_clockNow fun now ↦ ?_
  match deps.verifyChallengeToken challengeToken now with
  | .error _ => exact uses_pure none
  | .ok accountId =>
    refine uses_bind (ancillary_assertWithinLimit _ _) fun _ ↦ ?_
    refine uses_bind (ancillary_findById accountId) fun account ↦ ?_
    match account with
    | some account => exact uses_pure _
    | none => exact uses_pure none

theorem completeLogin_touches (request : IdentityRequest)
    (hsign : ∀ payload, Touches request (.surroundings (.sign payload)))
    (hcreate : ∀ bundle, Touches request (.sessions (.createSession bundle)))
    (accountId : UserId) (client : ClientContext) (method : String) :
    (VerifyMfaChallenge.completeLogin deps accountId client method).Uses (Touches request) := by
  refine uses_pass (ancillary_findById accountId) fun account ↦ ?_
  match account with
  | none => exact uses_ancillary (ancillary_raise _)
  | some account =>
    refine uses_bind (issue_touches request hsign hcreate _ _) fun session ↦ ?_
    refine uses_pass (ancillary_recordSecurity _ _ _ _) fun _ ↦ ?_
    refine uses_pass (ancillary_recordSecurity _ _ _ _) fun _ ↦ ?_
    exact uses_pass (ancillary_auditOrFail _) fun _ ↦ uses_pure _

theorem withTotp_touches (input : TotpChallengeInput) :
    (VerifyMfaChallenge.withTotp deps input).Uses (Touches (.verifyMfaWithTotp input)) := by
  refine uses_pass (openChallenge_uses _) fun opened ↦ ?_
  match opened with
  | none => exact uses_pure _
  | some account =>
    refine uses_bind (uses_perform trivial) fun enrolment ↦ ?_
    match enrolment with
    | none => exact uses_pure _
    | some enrolment =>
      show Uses _ (ite _ _ _)
      split
      · exact uses_pure _
      refine uses_pass (ancillary_decryptSecret _) fun secret ↦ ?_
      refine uses_pass ancillary_clockNow fun now ↦ ?_
      refine uses_ite ?_ ?_
      · exact uses_pass (ancillary_recordSecurity _ _ _ _) fun _ ↦ uses_pure _
      · exact uses_bind (completeLogin_touches (.verifyMfaWithTotp input) (fun _ ↦ trivial)
          (fun _ ↦ trivial) _ _ _) fun session ↦ uses_pure _

theorem withRecoveryCode_touches (input : RecoveryChallengeInput) :
    (VerifyMfaChallenge.withRecoveryCode deps input).Uses
      (Touches (.verifyMfaWithRecoveryCode input)) := by
  refine uses_pass (openChallenge_uses _) fun opened ↦ ?_
  match opened with
  | none => exact uses_pure _
  | some account =>
    refine uses_pass (ancillary_isRecoveryLocked _) fun locked ↦ ?_
    split
    · exact uses_pass (ancillary_recordSecurity _ _ _ _) fun _ ↦ uses_pure _
    refine uses_pass ancillary_clockNow fun now ↦ ?_
    refine uses_bind (uses_perform trivial) fun consumed ↦ ?_
    split
    · exact uses_pass (ancillary_recordSecurity _ _ _ _) fun _ ↦ uses_pure _
    refine uses_bind (uses_perform trivial) fun remaining ↦ ?_
    refine uses_pass (ancillary_recordSecurity _ _ _ _) fun _ ↦ ?_
    exact uses_bind (completeLogin_touches (.verifyMfaWithRecoveryCode input) (fun _ ↦ trivial)
      (fun _ ↦ trivial) _ _ _) fun session ↦ uses_pure _

theorem onReuseDetected_touches (input : RefreshSessionInput) (accountId : UserId)
    (familyId sessionId : String) (client : ClientContext) :
    (RefreshSession.onReuseDetected accountId familyId sessionId client).Uses
      (Touches (.refreshSession input)) := by
  refine uses_pass ancillary_clockNow fun now ↦ uses_bind (uses_perform trivial) fun _ ↦ ?_
  refine uses_pass (ancillary_recordSecurity _ _ _ _) fun _ ↦ ?_
  exact uses_pass (ancillary_noticeOwner _ _) fun _ ↦ uses_pure _

theorem rotate_touches (input : RefreshSessionInput) (presented : PresentedRefreshToken)
    (account : IdentityAccount) (now : Instant) (client : ClientContext) :
    (RefreshSession.rotate deps presented account now client).Uses
      (Touches (.refreshSession input)) := by
  refine uses_pass (ancillary_random .refreshToken) fun rawSuccessor ↦ ?_
  refine uses_pass (ancillary_random .id) fun successorId ↦ ?_
  refine uses_bind (uses_perform trivial) fun claimed ↦ ?_
  split
  · exact onReuseDetected_touches input _ _ _ _
  refine uses_bind (uses_perform trivial) fun _ ↦ uses_bind ?_ fun access ↦ uses_pure _
  refine uses_pass ancillary_clockNow fun now ↦ ?_
  exact uses_bind (uses_perform trivial) fun _ ↦ uses_pure _

theorem refreshSession_touches (input : RefreshSessionInput) :
    (RefreshSession.execute deps input).Uses (Touches (.refreshSession input)) := by
  refine uses_pass (ancillary_assertWithinLimit _ _) fun _ ↦ uses_bind ?_ fun presented ↦ ?_
  · refine uses_bind (uses_perform trivial) fun found ↦ ?_
    match found with
    | none => exact uses_pure none
    | some (token, family) =>
      refine uses_bind (uses_perform trivial) fun session ↦ ?_
      match session with
      | none => exact uses_pure none
      | some session => exact uses_pure _
  match presented with
  | none => exact uses_pure _
  | some presented =>
    refine uses_pass ancillary_clockNow fun now ↦ ?_
    unfold RefreshSession.judge
    split
    · exact onReuseDetected_touches input _ _ _ _
    split
    · exact uses_pure _
    split
    · exact uses_pure _
    split
    · exact uses_pure _
    refine uses_pass (ancillary_findById _) fun account ↦ ?_
    match account with
    | none => exact uses_pure _
    | some account =>
      show Uses _ (ite _ _ _)
      split
      · exact uses_pure _
      · exact rotate_touches input _ _ _ _

theorem authenticateRequest_touches (accessToken : String) :
    (AuthenticateRequest.execute deps accessToken).Uses
      (Touches (.authenticateRequest accessToken)) := by
  refine uses_pass ancillary_clockNow fun now ↦ ?_
  match deps.verifyAccessToken accessToken now with
  | .error _ => exact uses_pure _
  | .ok claims =>
    refine uses_pass (ancillary_findById _) fun account ↦ ?_
    match account with
    | none => exact uses_pure _
    | some account =>
      show Uses _ (ite _ _ _)
      split
      · exact uses_pure _
      split
      · exact uses_pure _
      refine uses_bind (uses_perform trivial) fun session ↦ ?_
      match session with
      | none => exact uses_pure _
      | some session =>
        show Uses _ (ite _ _ _)
        split
        · exact uses_pure _
        · exact uses_bind (uses_perform trivial) fun _ ↦ uses_pure _

theorem listSessions_touches (accountId : UserId) (currentSessionId : String) :
    (ListSessions.execute accountId currentSessionId).Uses
      (Touches (.listSessions accountId currentSessionId)) :=
  uses_pass ancillary_clockNow fun _ ↦ uses_bind (uses_perform trivial) fun _ ↦ uses_pure _

theorem revokeSession_touches (input : SessionInput) :
    (RevokeSession.execute deps input).Uses (Touches (.revokeSession input)) := by
  refine uses_pass ancillary_clockNow fun now ↦ uses_bind (uses_perform trivial) fun revoked ↦ ?_
  split
  · exact uses_pure _
  refine uses_pass (ancillary_recordSecurity _ _ _ _) fun _ ↦ ?_
  exact uses_pass (ancillary_auditOrFail _) fun _ ↦ uses_pure _

theorem revokeOtherSessions_touches (input : SessionInput) :
    (RevokeOtherSessions.execute deps input).Uses (Touches (.revokeOtherSessions input)) := by
  refine uses_pass ancillary_clockNow fun now ↦ ?_
  refine uses_bind (revokeAllSessions_touches (.revokeOtherSessions input) (fun _ _ ↦ trivial)
    (fun _ _ _ _ ↦ trivial) _ _ _ _) fun revokedCount ↦ ?_
  refine uses_pass (ancillary_recordSecurity _ _ _ _) fun _ ↦ ?_
  exact uses_pass (ancillary_auditOrFail _) fun _ ↦ uses_pure _

theorem logout_touches (input : SessionInput) :
    (Logout.execute input).Uses (Touches (.logout input)) := by
  refine uses_pass ancillary_clockNow fun now ↦ uses_bind (uses_perform trivial) fun revoked ↦ ?_
  split
  · exact uses_ancillary (ancillary_recordSecurity _ _ _ _)
  · exact uses_pure ()

theorem bindSessionTenant_touches (input : BindSessionTenantInput) :
    (BindSessionTenant.execute deps input).Uses (Touches (.bindSessionTenant input)) := by
  refine uses_pass ancillary_clockNow fun now ↦ uses_bind (uses_perform trivial) fun session ↦ ?_
  match session with
  | none => exact uses_pure _
  | some session =>
    show Uses _ (ite _ _ _)
    split
    · exact uses_pure _
    split
    · exact uses_pure _
    refine uses_bind (uses_perform trivial) fun claimed ↦ ?_
    split
    · exact uses_pure _
    refine uses_pass (ancillary_recordSecurity _ _ _ _) fun _ ↦ ?_
    exact uses_pass (ancillary_auditOrFail _) fun _ ↦ uses_pure _

theorem rebindSessionTenant_touches (input : RebindSessionTenantInput) :
    (RebindSessionTenant.execute deps input).Uses (Touches (.rebindSessionTenant input)) := by
  refine uses_pass ancillary_clockNow fun now ↦ uses_pass (ancillary_findById _) fun account ↦ ?_
  match account with
  | none => exact uses_pure _
  | some account =>
    show Uses _ (ite _ _ _)
    split
    · exact uses_pure _
    refine uses_bind (uses_perform trivial) fun session ↦ ?_
    match session with
    | none => exact uses_pure _
    | some session =>
      show Uses _ (ite _ _ _)
      split
      · exact uses_pure _
      split
      · exact uses_pure _
      refine uses_pass (ancillary_mint _ _ _) fun minted ↦ ?_
      refine uses_bind (uses_perform trivial) fun rebound ↦ ?_
      split
      · exact uses_pure _
      refine uses_pass (ancillary_recordSecurity _ _ _ _) fun _ ↦ ?_
      refine uses_pass (ancillary_auditOrFail _) fun _ ↦ ?_
      exact uses_bind (issuedFrom_touches (.rebindSessionTenant input) (fun _ ↦ trivial) _ _)
        fun issued ↦ uses_pure _

theorem registerAccount_touches (input : RegisterAccountInput) :
    (RegisterAccount.execute deps input).Uses (Touches (.registerAccount input)) := by
  unfold RegisterAccount.execute
  split
  · exact uses_pure _
  split
  · exact uses_pure _
  refine uses_pass (ancillary_assertWithinLimit _ _) fun _ ↦ uses_bind ?_ fun _ ↦ uses_pure _
  refine uses_pass (ancillary_hash _) fun credential ↦ uses_pass ?_ fun accountId ↦ ?_
  · refine uses_bind (ancillary_random .id) fun id ↦ ?_
    split
    · exact uses_pure _
    · exact ancillary_raise _
  refine uses_pass ancillary_clockNow fun now ↦ uses_bind (uses_perform trivial) fun created ↦ ?_
  split
  · exact uses_ancillary (ancillary_recordSecurity _ _ _ _)
  refine uses_bind (issueVerification_touches (.registerAccount input) (fun _ ↦ trivial) _ _ _)
    fun _ ↦ ?_
  exact uses_ancillary (ancillary_auditOrFail _)

theorem verifyEmail_touches (input : VerifyEmailInput) :
    (VerifyEmail.execute deps input).Uses (Touches (.verifyEmail input)) := by
  refine uses_bind (uses_perform trivial) fun account ↦ ?_
  match account with
  | none => exact uses_pure _
  | some account =>
    show Uses _ (ite _ _ _)
    split
    · exact uses_pure _
    refine uses_pass ancillary_clockNow fun now ↦ uses_bind (uses_perform trivial) fun active ↦ ?_
    match active with
    | none => exact uses_pure _
    | some active =>
      show Uses _ (ite _ _ _)
      split
      · exact uses_pass (ancillary_recordSecurity _ _ _ _) fun _ ↦ uses_pure _
      unfold VerifyEmail.compare
      split
      · refine uses_bind (uses_perform trivial) fun _ ↦ ?_
        exact uses_pass (ancillary_recordSecurity _ _ _ _) fun _ ↦ uses_pure _
      refine uses_bind (uses_bind (uses_perform trivial) fun _ ↦ ?_) fun _ ↦ uses_pure _
      refine uses_bind (uses_perform trivial) fun _ ↦ ?_
      refine uses_pass (ancillary_recordSecurity _ _ _ _) fun _ ↦ ?_
      exact uses_ancillary (ancillary_auditOrFail _)

theorem resendVerification_touches (input : EmailInput) :
    (ResendVerification.execute deps input).Uses (Touches (.resendVerification input)) := by
  refine uses_pass (ancillary_assertWithinLimit _ _) fun _ ↦ ?_
  refine uses_bind (uses_perform trivial) fun account ↦ ?_
  match account with
  | none => exact uses_pure ()
  | some account =>
    show Uses _ (ite _ _ _)
    split
    · exact uses_pure ()
    refine uses_bind (uses_perform trivial) fun latest ↦ uses_pass ancillary_clockNow fun now ↦ ?_
    split
    · exact uses_pure ()
    · exact issueVerification_touches (.resendVerification input) (fun _ ↦ trivial) _ _ _

theorem forgotPassword_touches (input : EmailInput) :
    (ForgotPassword.execute deps input).Uses (Touches (.forgotPassword input)) := by
  refine uses_pass (ancillary_assertWithinLimit _ _) fun _ ↦ ?_
  refine uses_bind (uses_perform trivial) fun account ↦ ?_
  match account with
  | none => exact uses_pure ()
  | some account =>
    show Uses _ (ite _ _ _)
    split
    · exact uses_pure ()
    refine uses_pass ancillary_clockNow fun now ↦ uses_bind (uses_perform trivial) fun latest ↦ ?_
    split
    · exact uses_pure ()
    refine uses_pass (ancillary_random .resetToken) fun token ↦ ?_
    refine uses_pass (ancillary_random .id) fun id ↦ uses_bind (uses_perform trivial) fun _ ↦ ?_
    refine uses_bind (uses_perform trivial) fun _ ↦ ?_
    exact uses_ancillary (ancillary_recordSecurity _ _ _ _)

theorem resetPassword_touches (input : ResetPasswordInput) :
    (ResetPassword.execute deps input).Uses (Touches (.resetPassword input)) := by
  unfold ResetPassword.execute
  split
  · exact uses_pure _
  refine uses_bind (uses_perform trivial) fun request ↦ ?_
  match request with
  | none => exact uses_pass (ancillary_recordSecurity _ _ _ _) fun _ ↦ uses_pure _
  | some request =>
    refine uses_pass ancillary_clockNow fun now ↦ ?_
    split
    · refine uses_bind (uses_perform trivial) fun _ ↦ ?_
      exact uses_pass (ancillary_recordSecurity _ _ _ _) fun _ ↦ uses_pure _
    refine uses_bind ?_ fun _ ↦ uses_pure _
    refine uses_pass (ancillary_hash _) fun credential ↦ uses_bind (uses_perform trivial) fun _ ↦ ?_
    refine uses_bind (uses_perform trivial) fun _ ↦ ?_
    refine uses_bind (revokeAllSessions_touches (.resetPassword input) (fun _ _ ↦ trivial)
      (fun _ _ _ _ ↦ trivial) _ _ _ _) fun revokedCount ↦ ?_
    refine uses_pass (ancillary_recordSecurity _ _ _ _) fun _ ↦ ?_
    refine uses_pass (ancillary_auditOrFail _) fun _ ↦ ?_
    exact uses_ancillary (ancillary_noticeOwner _ _)

theorem changePassword_touches (input : ChangePasswordInput) :
    (ChangePassword.execute deps input).Uses (Touches (.changePassword input)) := by
  unfold ChangePassword.execute
  split
  · exact uses_pure _
  refine uses_bind (uses_perform trivial) fun credential ↦ ?_
  match credential with
  | none => exact uses_pure _
  | some credential =>
    show Uses _ (ite _ _ _)
    split
    · exact uses_pass (ancillary_recordSecurity _ _ _ _) fun _ ↦ uses_pure _
    refine uses_bind ?_ fun _ ↦ uses_pure _
    refine uses_pass ancillary_clockNow fun now ↦ uses_pass (ancillary_hash _) fun next ↦ ?_
    refine uses_bind (uses_perform trivial) fun _ ↦ ?_
    refine uses_bind (revokeAllSessions_touches (.changePassword input) (fun _ _ ↦ trivial)
      (fun _ _ _ _ ↦ trivial) _ _ _ _) fun revokedCount ↦ ?_
    refine uses_pass (ancillary_recordSecurity _ _ _ _) fun _ ↦ ?_
    refine uses_pass (ancillary_auditOrFail _) fun _ ↦ ?_
    exact uses_ancillary (ancillary_noticeOwner _ _)

theorem enrollMfa_touches (input : AccountInput) :
    (EnrollMfa.execute deps input).Uses (Touches (.enrollMfa input)) := by
  refine uses_bind (uses_perform trivial) fun existing ↦ ?_
  split
  · exact uses_pure _
  refine uses_pass (ancillary_findById _) fun account ↦ ?_
  refine uses_pass (ancillary_random .totpSecret) fun secret ↦ ?_
  refine uses_pass (ancillary_encryptSecret _) fun encrypted ↦ ?_
  refine uses_pass ancillary_clockNow fun createdAt ↦ uses_bind (uses_perform trivial) fun _ ↦ ?_
  refine uses_pass (ancillary_recordSecurity _ _ _ _) fun _ ↦ ?_
  exact uses_pass (ancillary_auditOrFail _) fun _ ↦ uses_pure _

theorem confirmMfa_touches (input : MfaCodeInput) :
    (ConfirmMfa.execute deps input).Uses (Touches (.confirmMfa input)) := by
  refine uses_bind (uses_perform trivial) fun enrolment ↦ ?_
  match enrolment with
  | none => exact uses_pure _
  | some enrolment =>
    show Uses _ (ite _ _ _)
    split
    · exact uses_pure _
    refine uses_pass (ancillary_decryptSecret _) fun secret ↦ ?_
    refine uses_pass ancillary_clockNow fun now ↦ ?_
    refine uses_ite ?_ ?_
    · exact uses_pass (ancillary_recordSecurity _ _ _ _) fun _ ↦ uses_pure _
    refine uses_bind ?_ fun confirmed ↦ uses_pure _
    refine uses_pass ancillary_clockNow fun now ↦ uses_bind (uses_perform trivial) fun _ ↦ ?_
    refine uses_pass (ancillary_drawRecoveryCodes _) fun recoveryCodes ↦ ?_
    refine uses_pass (ancillary_newRecoveryCodes _ _) fun stored ↦ ?_
    refine uses_bind (uses_perform trivial) fun _ ↦ ?_
    refine uses_pass (ancillary_recordSecurity _ _ _ _) fun _ ↦ ?_
    refine uses_pass (ancillary_auditOrFail _) fun _ ↦ ?_
    exact uses_pass (ancillary_noticeOwner _ _) fun _ ↦ uses_pure _

theorem disableMfa_touches (input : MfaCodeInput) :
    (DisableMfa.execute deps input).Uses (Touches (.disableMfa input)) := by
  refine uses_bind (uses_perform trivial) fun enrolment ↦ ?_
  match enrolment with
  | none => exact uses_pure _
  | some enrolment =>
    show Uses _ (ite _ _ _)
    split
    · exact uses_pure _
    refine uses_pass (ancillary_assertWithinLimit _ _) fun _ ↦ ?_
    refine uses_pass (ancillary_decryptSecret _) fun secret ↦ uses_bind ?_ fun proven ↦ ?_
    · refine uses_pass ancillary_clockNow fun now ↦ ?_
      refine uses_ite ?_ ?_
      · exact uses_pure true
      · exact uses_pass ancillary_clockNow fun usedAt ↦ uses_perform trivial
    split
    · exact uses_pass (ancillary_recordSecurity _ _ _ _) fun _ ↦ uses_pure _
    refine uses_bind ?_ fun _ ↦ uses_pure _
    refine uses_pass ancillary_clockNow fun now ↦ uses_bind (uses_perform trivial) fun _ ↦ ?_
    refine uses_pass (ancillary_recordSecurity _ _ _ _) fun _ ↦ ?_
    refine uses_pass (ancillary_auditOrFail _) fun _ ↦ ?_
    exact uses_ancillary (ancillary_noticeOwner _ _)

theorem disableAccount_touches (input : DisableAccountInput) :
    (DisableAccount.execute deps input).Uses (Touches (.disableAccount input)) := by
  refine uses_pass (ancillary_findById _) fun account ↦ ?_
  match account with
  | none => exact uses_pure _
  | some account =>
    refine uses_pass ancillary_clockNow fun now ↦ uses_bind (uses_perform trivial) fun _ ↦ ?_
    refine uses_bind (revokeAllSessions_touches (.disableAccount input) (fun _ _ ↦ trivial)
      (fun _ _ _ _ ↦ trivial) _ _ _ _) fun revokedSessions ↦ ?_
    refine uses_pass (ancillary_recordSecurity _ _ _ _) fun _ ↦ ?_
    refine uses_pass (ancillary_auditOrFail _) fun _ ↦ ?_
    exact uses_bind (uses_perform trivial) fun _ ↦ uses_pure _

theorem enableAccount_touches (input : EnableAccountInput) :
    (EnableAccount.execute deps input).Uses (Touches (.enableAccount input)) := by
  refine uses_pass (ancillary_findById _) fun account ↦ ?_
  match account with
  | none => exact uses_pure _
  | some _ =>
    refine uses_pass ancillary_clockNow fun now ↦ uses_bind (uses_perform trivial) fun _ ↦ ?_
    refine uses_pass (ancillary_recordSecurity _ _ _ _) fun _ ↦ ?_
    exact uses_pass (ancillary_auditOrFail _) fun _ ↦ uses_pure _

/-- A use case performs nothing but what its request touches. -/
theorem program_touches (request : IdentityRequest) :
    (request.program deps).Uses (Touches request) := by
  cases request with
  | registerAccount input => exact uses_bind (registerAccount_touches input) fun _ ↦ uses_pure _
  | verifyEmail input => exact uses_bind (verifyEmail_touches input) fun _ ↦ uses_pure _
  | resendVerification input =>
    exact uses_bind (resendVerification_touches input) fun _ ↦ uses_pure _
  | login input => exact uses_bind (login_touches input) fun _ ↦ uses_pure _
  | refreshSession input => exact uses_bind (refreshSession_touches input) fun _ ↦ uses_pure _
  | authenticateRequest accessToken =>
    exact uses_bind (authenticateRequest_touches accessToken) fun _ ↦ uses_pure _
  | listSessions accountId currentSessionId =>
    exact uses_bind (listSessions_touches accountId currentSessionId) fun _ ↦ uses_pure _
  | revokeSession input => exact uses_bind (revokeSession_touches input) fun _ ↦ uses_pure _
  | revokeOtherSessions input =>
    exact uses_bind (revokeOtherSessions_touches input) fun _ ↦ uses_pure _
  | logout input => exact uses_bind (logout_touches input) fun _ ↦ uses_pure _
  | bindSessionTenant input =>
    exact uses_bind (bindSessionTenant_touches input) fun _ ↦ uses_pure _
  | rebindSessionTenant input =>
    exact uses_bind (rebindSessionTenant_touches input) fun _ ↦ uses_pure _
  | forgotPassword input => exact uses_bind (forgotPassword_touches input) fun _ ↦ uses_pure _
  | resetPassword input => exact uses_bind (resetPassword_touches input) fun _ ↦ uses_pure _
  | changePassword input => exact uses_bind (changePassword_touches input) fun _ ↦ uses_pure _
  | enrollMfa input => exact uses_bind (enrollMfa_touches input) fun _ ↦ uses_pure _
  | confirmMfa input => exact uses_bind (confirmMfa_touches input) fun _ ↦ uses_pure _
  | verifyMfaWithTotp input => exact uses_bind (withTotp_touches input) fun _ ↦ uses_pure _
  | verifyMfaWithRecoveryCode input =>
    exact uses_bind (withRecoveryCode_touches input) fun _ ↦ uses_pure _
  | disableMfa input => exact uses_bind (disableMfa_touches input) fun _ ↦ uses_pure _
  | disableAccount input => exact uses_bind (disableAccount_touches input) fun _ ↦ uses_pure _
  | enableAccount input => exact uses_bind (enableAccount_touches input) fun _ ↦ uses_pure _

end UseCases

end Karar.Identity
