import Karar.Foundation.FieldList
import Karar.SharedKernel.Basic

/-!
# Tenants, memberships and invitations

Tenant statuses, membership states, and the gate that an invitation passes to be redeemed. The token
of an invitation does not appear here: the domain reasons about the invitation's lifecycle only.
-/

namespace Karar.Tenancy

open Foundation SharedKernel

/-- What the module takes from the libraries of its runtime: lower case, and the digest of a token. -/
structure TenancyLibraries where
  toLowerCase : String → String
  hashOf : String → String

/-- `TENANT_STATUSES`. -/
inductive TenantStatus
  | active
  | suspended
  | closed
deriving DecidableEq

/-- `MEMBERSHIP_STATES`. -/
inductive MembershipState
  | invited
  | active
  | suspended
  | removed
deriving DecidableEq

structure Tenant where
  id : TenantId
  name : String
  status : TenantStatus
deriving DecidableEq

structure TenantMembership where
  id : String
  tenantId : TenantId
  userId : UserId
  /-- Informational only: the authorization module holds the roles. -/
  roleHint : String
  state : MembershipState
  effectiveFrom : Instant
  effectiveTo : Option Instant
  createdAt : Instant
  updatedAt : Instant
deriving DecidableEq

/-- In state `ACTIVE`, and inside the effective window. -/
def membershipActiveAt (membership : TenantMembership) (now : Instant) : Bool :=
  membership.state = .active && decide (membership.effectiveFrom ≤ now) &&
    membership.effectiveTo.all fun effectiveTo ↦ decide (now < effectiveTo)

/-- An invitation as the domain sees it, without the hash of its token. -/
structure TenantInvitation where
  id : String
  tenantId : TenantId
  email : String
  roleHint : String
  expiresAt : Instant
  redeemedAt : Option Instant
  redeemedBy : Option UserId
  revokedAt : Option Instant
  attempts : ℕ
  maxAttempts : ℕ
  createdBy : UserId
  createdAt : Instant
  updatedAt : Instant
deriving DecidableEq

/-- Invitations match on the normalized form; storage holds the same. -/
def normalizeInvitationEmail (libraries : TenancyLibraries) (raw : String) : String :=
  libraries.toLowerCase (String.ofList (trim isTrimmed raw.toList))

inductive RedemptionDenialReason
  | revoked
  | alreadyRedeemed
  | expired
  | attemptsExhausted
  | emailMismatch
deriving DecidableEq

def RedemptionDenialReason.text : RedemptionDenialReason → String
  | .revoked => "revoked"
  | .alreadyRedeemed => "already_redeemed"
  | .expired => "expired"
  | .attemptsExhausted => "attempts_exhausted"
  | .emailMismatch => "email_mismatch"

/-- The verified address of a redeemer is the invited one. No verified address matches nothing. -/
def EmailMatches (libraries : TenancyLibraries) (invitation : TenantInvitation)
    (redeemerEmail : Option String) : Prop :=
  ∃ email ∈ redeemerEmail, normalizeInvitationEmail libraries email = invitation.email

instance (libraries : TenancyLibraries) (invitation : TenantInvitation)
    (redeemerEmail : Option String) :
    Decidable (EmailMatches libraries invitation redeemerEmail) :=
  inferInstanceAs (Decidable (∃ email ∈ redeemerEmail, _))

/-- The redemption gate, in the order of its denials. -/
def evaluateRedeemability (libraries : TenancyLibraries) (invitation : TenantInvitation)
    (now : Instant) (redeemerEmail : Option String) : Except RedemptionDenialReason Unit :=
  if invitation.revokedAt ≠ none then .error .revoked
  else if invitation.redeemedAt ≠ none then .error .alreadyRedeemed
  else if invitation.expiresAt ≤ now then .error .expired
  else if invitation.maxAttempts ≤ invitation.attempts then .error .attemptsExhausted
  else if ¬ EmailMatches libraries invitation redeemerEmail then .error .emailMismatch
  else .ok ()

section Gate

variable {libraries : TenancyLibraries} {invitation : TenantInvitation} {now : Instant}
  {redeemerEmail : Option String}

theorem evaluateRedeemability_eq_ok
    (hgate : evaluateRedeemability libraries invitation now redeemerEmail = .ok ()) :
    now < invitation.expiresAt ∧ invitation.attempts < invitation.maxAttempts ∧
      EmailMatches libraries invitation redeemerEmail := by
  unfold evaluateRedeemability at hgate
  split_ifs at hgate with hrevoked hredeemed hexpired hattempts hemail
  exact ⟨Int.not_le.mp hexpired, Nat.not_le.mp hattempts, hemail⟩

end Gate

end Karar.Tenancy
