import Karar.Tenancy.InvitationLaws

/-!
# The conduct of redeeming and revoking calls

The contract of the two use cases says what a call has read before it writes: a redeeming call commits
only what the gate admits for its own principal, and counts only a mismatch of its own token. A call
that answers with an error has redeemed nothing (`tenancy_honours`).
-/

namespace Karar.Tenancy

open Foundation KeyedTable Machine SharedKernel

/-! ### Redemptions -/

/-- A redemption that has committed. -/
structure Redemption where
  invitation : TenantInvitation
  userId : UserId
  occurredAt : Instant
  membership : TenantMembership
deriving DecidableEq

/-- The redemption that an operation has committed. -/
def redemption : TenancyPerformed → Option Redemption
  | ⟨.commitRedemption invitation userId occurredAt, .ok (some membership)⟩ =>
    some ⟨invitation, userId, occurredAt, membership⟩
  | _ => none

theorem redemption_eq_some {performed : TenancyPerformed}
    {done : Redemption} (hdone : redemption performed = some done) :
    performed = ⟨.commitRedemption done.invitation done.userId done.occurredAt,
      .ok (some done.membership)⟩ := by
  unfold redemption at hdone
  split at hdone
  · obtain rfl := Option.some.inj hdone
    rfl
  · cases hdone

/-! ### The contract -/

/-- The first three operations of a redeeming call, latest first: it reads the invitation of its
token, the clock, and the verified address of the redeemer. -/
def readings (libraries : TenancyLibraries) (token : String) (userId : UserId)
    (invitation : TenantInvitation) (now : Instant) (email : Option String) : TenancyLog :=
  [⟨.verifiedEmailOf userId, .ok email⟩, ⟨.now, .ok now⟩,
    ⟨.findByTokenHash (libraries.hashOf token), .ok (some invitation)⟩]

/-- A redeeming call commits for its own principal what the gate admits. -/
def MayRedeem (libraries : TenancyLibraries) (log : TenancyLog) (request : TenancyRequest)
    (invitation : TenantInvitation) (userId : UserId) (occurredAt : Instant) : Prop :=
  ∃ token actor redeemer email, request = .redeemInvitation token actor ∧
    requireRedeemer actor = .ok redeemer ∧ redeemer.userId = userId ∧
    readings libraries token userId invitation occurredAt email <:+ log ∧
    evaluateRedeemability libraries invitation occurredAt email = .ok ()

/-- A redeeming call counts a mismatch against the token it presented. -/
def MayCount (libraries : TenancyLibraries) (log : TenancyLog) (request : TenancyRequest)
    (tokenHash : String) : Prop :=
  ∃ token actor userId invitation now email, request = .redeemInvitation token actor ∧
    libraries.hashOf token = tokenHash ∧
    log = readings libraries token userId invitation now email ∧
    evaluateRedeemability libraries invitation now email = .error .emailMismatch

/-- A call that answers with a success has redeemed what it says, and one that answers with an error
has redeemed nothing. -/
def EndsWell (log : TenancyLog) : Except InvitationError InvitationRedeemed → Prop
  | .ok redeemed => ∃ performed ∈ log, ∃ done ∈ redemption performed,
      done.membership = redeemed.membership ∧ done.invitation.tenantId = redeemed.tenantId
  | .error _ => ∀ performed ∈ log, redemption performed = none

def tenancyContract (libraries : TenancyLibraries) :
    Contract TenancyOp (fun op ↦ Except String op.Value) TenancyStore TenancyRequest
      TenancyOutcome where
  invariant _ := True
  allowed request log op :=
    match op with
    | .findByTokenHash tokenHash =>
      log = [] ∧ ∃ token actor, request = .redeemInvitation token actor ∧
        libraries.hashOf token = tokenHash
    | .commitRedemption invitation userId occurredAt =>
      MayRedeem libraries log request invitation userId occurredAt
    | .recordFailedAttempt tokenHash _ => MayCount libraries log request tokenHash
    | .revoke _ _ _ => ∃ invitationId actor, request = .revokeInvitation invitationId actor
    | _ => True
  post _ log outcome :=
    match outcome with
    | .redeemInvitation result => EndsWell log result
    | .revokeInvitation _ => True

section Honours

variable {libraries : TenancyLibraries} {token : String} {actor : Option RedeemerActor}
  {redeemer : Redeemer} {invitation : TenantInvitation} {now : Instant} {email : Option String}
  {log : TenancyLog}

theorem record_answers {store later : TenancyStore} {entry : AuditTrailEntry}
    {oracle : TenancyOracle} {message : String} :
    TenancyStore.handle store (.record entry) oracle ≠ some (later, .error message) := by
  cases hfailure : oracle.failure <;>
    simp [TenancyStore.handle, throwingHandler, TenancyStore.perform, TenancyStore.canThrow,
      TenancyStore.answer, hfailure]

/-- A part of a redeeming call inside its `try`. -/
abbrev KeepsContract (libraries : TenancyLibraries) (token : String) (actor : Option RedeemerActor)
    (log : TenancyLog) (body : Attempt (Except InvitationError InvitationRedeemed)) : Prop :=
  Safe TenancyStore.handle (fun _ ↦ True)
    ((tenancyContract libraries).allowed (.redeemInvitation token actor))
    (fun log result ↦ EndsWell log (caught RedeemInvitation.thrown result)) log body.run

theorem keepsContract_error (hnone : ∀ performed ∈ log, redemption performed = none)
    (error : InvitationError) : KeepsContract libraries token actor log (return .error error) :=
  safe_return hnone

/-- The record of a denial, and the denial. -/
theorem keepsContract_denied (hnone : ∀ performed ∈ log, redemption performed = none)
    (entry : AuditTrailEntry) (error : InvitationError) :
    KeepsContract libraries token actor log (do
      let _ ← port (.record entry)
      return .error error) := by
  refine safe_ask_bind trivial (fun _ _ _ message _ hthrown ↦ absurd hthrown record_answers)
    fun _ _ _ value _ _ ↦ keepsContract_error ?_ error
  simpa [redemption] using hnone

theorem redemption_readings {userId : UserId} :
    ∀ performed ∈ readings libraries token userId invitation now email,
      redemption performed = none := by
  simp [readings, redemption]

/-- Counting a mismatch redeems nothing. -/
theorem countMismatch_safe {reason : RedemptionDenialReason}
    (hgate : evaluateRedeemability libraries invitation now email = .error reason) :
    Safe TenancyStore.handle (fun _ ↦ True)
      ((tenancyContract libraries).allowed (.redeemInvitation token actor))
      (fun log _ ↦ ∀ performed ∈ log, redemption performed = none)
      (readings libraries token redeemer.userId invitation now email)
      (RedeemInvitation.countMismatch (libraries.hashOf token) now reason).run := by
  cases reason with
  | emailMismatch =>
    have hcount : MayCount libraries
        (readings libraries token redeemer.userId invitation now email)
        (.redeemInvitation token actor) (libraries.hashOf token) :=
      ⟨token, actor, redeemer.userId, invitation, now, email, rfl, rfl, rfl, hgate⟩
    have hone : ∀ answer : Except String Bool,
        ∀ performed ∈ (⟨.recordFailedAttempt (libraries.hashOf token) now, answer⟩ ::
          readings libraries token redeemer.userId invitation now email : TenancyLog),
          redemption performed = none := by
      simp [readings, redemption]
    exact safe_ask_bind hcount (fun _ _ _ message _ _ ↦ hone _) fun _ _ _ value _ _ ↦
      safe_return (hone _)
  | _ => exact safe_return redemption_readings

theorem refuse_keepsContract {reason : RedemptionDenialReason}
    (hgate : evaluateRedeemability libraries invitation now email = .error reason) :
    KeepsContract libraries token actor
      (readings libraries token redeemer.userId invitation now email)
      (RedeemInvitation.refuse redeemer (libraries.hashOf token) invitation now reason) :=
  safe_throwing_bind (countMismatch_safe hgate) (fun _ _ hnone ↦ hnone)
    fun _ _ hnone ↦ keepsContract_denied hnone _ _

/-- The privilege check only reads. -/
theorem verifyNarrowPrivilege_safe (hnone : ∀ performed ∈ log, redemption performed = none)
    (expectedTenant : TenantId) (expectedUser : UserId) :
    Safe TenancyStore.handle (fun _ ↦ True)
      ((tenancyContract libraries).allowed (.redeemInvitation token actor))
      (fun later _ ↦ log <:+ later ∧ ∀ performed ∈ later, redemption performed = none) log
      (InvitationRepository.verifyNarrowPrivilege expectedTenant expectedUser).run := by
  have hone : ∀ answer : Except String (Option EvidenceRow),
      log <:+ ⟨.privilegeEvidence, answer⟩ :: log ∧
        ∀ performed ∈ (⟨.privilegeEvidence, answer⟩ :: log : TenancyLog),
          redemption performed = none := by
    intro answer
    refine ⟨List.suffix_cons _ _, ?_⟩
    simpa [redemption] using hnone
  refine safe_ask_bind trivial (fun _ _ _ message _ _ ↦ hone _) fun _ _ _ value _ _ ↦ ?_
  cases value with
  | none => exact hone _
  | some row =>
    simp only
    split
    · exact hone _
    · exact safe_return (hone _)

/-- The repository's redemption: it ends with nothing redeemed, or with what it says it redeemed. -/
theorem redeem_safe (hnone : ∀ performed ∈ log, redemption performed = none)
    (hactor : requireRedeemer actor = .ok redeemer)
    (hread : readings libraries token redeemer.userId invitation now email <:+ log)
    (hgate : evaluateRedeemability libraries invitation now email = .ok ()) :
    Safe TenancyStore.handle (fun _ ↦ True)
      ((tenancyContract libraries).allowed (.redeemInvitation token actor))
      (fun later result ↦
        match result with
        | .ok (.redeemed membership _) => ∃ performed ∈ later,
            redemption performed = some ⟨invitation, redeemer.userId, now, membership⟩
        | _ => ∀ performed ∈ later, redemption performed = none) log
      (InvitationRepository.redeem redeemer invitation now).run := by
  refine safe_throwing_bind (verifyNarrowPrivilege_safe hnone _ _) (fun _ _ h ↦ h.2)
    fun verified evidence hverified ↦ ?_
  obtain ⟨hsuffix, hnone⟩ := hverified
  have hfound : ∀ answer : Except String (Option TenantMembership), ∀ performed ∈
      (⟨.findMember invitation.tenantId redeemer.userId, answer⟩ :: verified : TenancyLog),
        redemption performed = none := by
    intro answer
    simpa [redemption] using hnone
  refine safe_ask_bind trivial (fun _ _ _ message _ _ ↦ hfound _) fun _ _ _ existing _ _ ↦ ?_
  cases existing with
  | some existing => exact safe_return (hfound _)
  | none =>
    have hmay : MayRedeem libraries
        (⟨.findMember invitation.tenantId redeemer.userId, .ok none⟩ :: verified)
        (.redeemInvitation token actor) invitation redeemer.userId now :=
      ⟨token, actor, redeemer, email, rfl, hactor, rfl,
        (hread.trans hsuffix).trans (List.suffix_cons _ _), hgate⟩
    have hthrown : ∀ message, ∀ performed ∈
        (⟨.commitRedemption invitation redeemer.userId now, .error message⟩ ::
          ⟨.findMember invitation.tenantId redeemer.userId, .ok none⟩ :: verified : TenancyLog),
          redemption performed = none := by
      intro message
      simpa [redemption] using hnone
    have hlost : ∀ performed ∈ (⟨.commitRedemption invitation redeemer.userId now, .ok none⟩ ::
        ⟨.findMember invitation.tenantId redeemer.userId, .ok none⟩ :: verified : TenancyLog),
        redemption performed = none := by
      simpa [redemption] using hnone
    refine safe_ask_bind hmay (fun _ _ _ message _ _ ↦ hthrown _) fun _ _ _ committed _ _ ↦ ?_
    cases committed with
    | none => exact safe_return hlost
    | some membership => exact safe_return ⟨_, List.mem_cons_self, rfl⟩

theorem commit_keepsContract (hactor : requireRedeemer actor = .ok redeemer)
    (hgate : evaluateRedeemability libraries invitation now email = .ok ()) :
    KeepsContract libraries token actor
      (readings libraries token redeemer.userId invitation now email)
      (RedeemInvitation.commit redeemer invitation now) := by
  refine safe_throwing_bind (redeem_safe redemption_readings hactor (List.suffix_refl _) hgate)
    (fun _ _ hnone ↦ hnone) fun later outcome hlater ↦ ?_
  cases outcome with
  | alreadyMember => exact keepsContract_error hlater _
  | lostRace => exact keepsContract_error hlater _
  | redeemed membership privilegeEvidence =>
    obtain ⟨performed, hperformed, hdone⟩ := hlater
    refine safe_ask_bind trivial (fun _ _ _ message _ hthrown ↦ absurd hthrown record_answers)
      fun _ _ _ value _ _ ↦ ?_
    exact safe_return ⟨performed, List.mem_cons_of_mem _ hperformed, _, hdone, rfl, rfl⟩

theorem attempt_keepsContract (hactor : requireRedeemer actor = .ok redeemer) :
    KeepsContract libraries token actor []
      (RedeemInvitation.attempt libraries redeemer token) := by
  have hnone : ∀ log : TenancyLog, log.all (fun performed ↦ (redemption performed).isNone) →
      ∀ error, EndsWell log (caught RedeemInvitation.thrown (.error error)) := by
    intro log hlog error
    show ∀ performed ∈ log, redemption performed = none
    simpa using hlog
  refine safe_ask_bind ⟨rfl, token, actor, rfl, rfl⟩ (fun _ _ _ message _ _ ↦ hnone _ rfl _)
    fun _ _ _ found _ _ ↦ ?_
  cases found with
  | none => exact keepsContract_error (by simp [redemption]) _
  | some invitation =>
    refine safe_ask_bind trivial (fun _ _ _ message _ _ ↦ hnone _ rfl _) fun _ _ _ now _ _ ↦ ?_
    refine safe_ask_bind trivial (fun _ _ _ message _ _ ↦ hnone _ rfl _) fun _ _ _ email _ _ ↦ ?_
    cases hgate : evaluateRedeemability libraries invitation now email with
    | error reason => exact refuse_keepsContract hgate
    | ok _ => exact commit_keepsContract hactor hgate

theorem endsWell_nil (error : InvitationError) : EndsWell [] (.error error) :=
  fun _ hperformed ↦ absurd hperformed List.not_mem_nil

theorem redeemInvitation_safe :
    Safe TenancyStore.handle (fun _ ↦ True)
      ((tenancyContract libraries).allowed (.redeemInvitation token actor)) EndsWell []
      (RedeemInvitation.execute libraries token actor) := by
  unfold RedeemInvitation.execute
  split
  · exact safe_pure (endsWell_nil _)
  · rename_i redeemer hactor
    refine safe_ite (fun _ ↦ safe_pure (endsWell_nil _)) fun _ ↦ ?_
    exact safe_catching (attempt_keepsContract hactor)

/-- What a revoking call never performs. -/
def IsRedeeming : TenancyOp → Prop
  | .findByTokenHash _ => True
  | .commitRedemption _ _ _ => True
  | .recordFailedAttempt _ _ => True
  | _ => False

theorem revokeInvitation_uses (invitationId : String) (actor : Option PrincipalActor) :
    (RevokeInvitation.execute invitationId actor).Uses fun op ↦ ¬ IsRedeeming op := by
  unfold RevokeInvitation.execute
  split
  · exact Program.uses_pure _
  · refine uses_catching (uses_throwing_bind (uses_ask not_false) fun own ↦ ?_)
    cases own with
    | none => exact uses_return _
    | some own =>
      refine Program.uses_ite (uses_return _) ?_
      refine uses_throwing_bind (uses_ask not_false) fun decision ↦ ?_
      refine Program.uses_ite (uses_return _) ?_
      refine uses_throwing_bind (uses_ask not_false) fun occurredAt ↦ ?_
      refine uses_throwing_bind (uses_ask not_false) fun revoked ↦ ?_
      cases revoked with
      | none => exact uses_return _
      | some revoked =>
        exact uses_throwing_bind (uses_ask not_false) fun audit ↦ uses_return _

theorem tenancy_honours (libraries : TenancyLibraries) (request : TenancyRequest) :
    Honours (tenancyMachine libraries) (tenancyContract libraries) request := by
  cases request with
  | redeemInvitation token actor =>
    exact safe_bind_of redeemInvitation_safe fun _ _ hends ↦ safe_pure hends
  | revokeInvitation invitationId actor =>
    have hallowed : ∀ log op, ¬ IsRedeeming op →
        (tenancyContract libraries).allowed (.revokeInvitation invitationId actor) log op := by
      intro log op hop
      cases op with
      | findByTokenHash => exact absurd trivial hop
      | commitRedemption => exact absurd trivial hop
      | recordFailedAttempt => exact absurd trivial hop
      | revoke => exact ⟨invitationId, actor, rfl⟩
      | _ => trivial
    exact safe_bind_of_uses hallowed (revokeInvitation_uses invitationId actor)
      fun _ _ _ ↦ safe_pure trivial

end Honours

end Karar.Tenancy
