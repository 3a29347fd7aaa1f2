import Karar.Foundation.Windows
import Karar.SharedKernel.Basic

/-!
# Jurisdiction assignments

Which legal regime governs a user, as rows with an effective window. A window is half-open, and open
at its end until the row is ended. The row in effect at an instant is the one with the latest start
among the rows whose windows cover it.
-/

namespace Karar.Jurisdiction

open Foundation SharedKernel

inductive AssignmentSource
  | userDeclared
  | providerVerified
  | operatorAssigned
  | contractDerived
deriving DecidableEq

def AssignmentSource.name : AssignmentSource → String
  | .userDeclared => "USER_DECLARED"
  | .providerVerified => "PROVIDER_VERIFIED"
  | .operatorAssigned => "OPERATOR_ASSIGNED"
  | .contractDerived => "CONTRACT_DERIVED"

inductive VerificationStatus
  | unverified
  | verified
deriving DecidableEq

def VerificationStatus.name : VerificationStatus → String
  | .unverified => "UNVERIFIED"
  | .verified => "VERIFIED"

structure UserJurisdictionAssignment where
  id : String
  userId : UserId
  tenantId : TenantId
  jurisdictionCode : String
  source : AssignmentSource
  verificationStatus : VerificationStatus
  effectiveFrom : Instant
  effectiveTo : Option Instant
  reason : String
  assignedBy : String
  createdAt : Instant
deriving DecidableEq

/-- From `effectiveFrom` to `effectiveTo`, half-open. -/
def UserJurisdictionAssignment.window (assignment : UserJurisdictionAssignment) : Window Instant :=
  ⟨assignment.effectiveFrom, assignment.effectiveTo⟩

/-- The pairs of a source and a verification that an assignment may carry. -/
def verificationPermittedForSource (source : AssignmentSource)
    (verificationStatus : VerificationStatus) : Bool :=
  match source with
  | .userDeclared => verificationStatus = .unverified
  | .providerVerified => verificationStatus = .verified
  | _ => true

/-- The effective window of the assignment covers the instant. -/
def assignmentActiveAt (assignment : UserJurisdictionAssignment) (instant : Instant) : Bool :=
  decide (assignment.effectiveFrom ≤ instant) &&
    assignment.effectiveTo.all (instant < ·)

/-- The later start of two, the first one where they are the same. -/
def laterStart (latest candidate : UserJurisdictionAssignment) : UserJurisdictionAssignment :=
  if latest.effectiveFrom < candidate.effectiveFrom then candidate else latest

def pickEffectiveAssignment (assignments : List UserJurisdictionAssignment) (instant : Instant) :
    Option UserJurisdictionAssignment :=
  match assignments.filter (assignmentActiveAt · instant) with
  | [] => none
  | first :: rest => some (rest.foldl laterStart first)

inductive EffectiveJurisdictionState
  | none
  | unverified (assignment : UserJurisdictionAssignment)
  | verified (assignment : UserJurisdictionAssignment)
deriving DecidableEq

def effectiveJurisdictionState (assignments : List UserJurisdictionAssignment)
    (instant : Instant) : EffectiveJurisdictionState :=
  match pickEffectiveAssignment assignments instant with
  | Option.none => .none
  | some assignment =>
    if assignment.verificationStatus = .verified then .verified assignment
    else .unverified assignment

/-! ### The register -/

inductive JurisdictionLifecycle
  | draft
  | pendingLegalReview
  | approved
  | retired
deriving DecidableEq

/-- A row of the jurisdiction register, as far as a declaration reads it. -/
structure JurisdictionRecord where
  code : String
  status : JurisdictionLifecycle
  effectiveFrom : Option Instant
  effectiveTo : Option Instant
deriving DecidableEq

inductive DeclarabilityReason
  | retired
  | outsideEffectiveWindow
deriving DecidableEq

structure DeclarabilityRefusal where
  reason : DeclarabilityReason
  message : String
deriving DecidableEq

def declarabilityRefusalAt (record : JurisdictionRecord) (instant : Instant) :
    Option DeclarabilityRefusal :=
  if record.status = .retired then
    some
      { reason := .retired
        message :=
          s!"jurisdiction {record.code} is retired; no new assignment may be made into it" }
  else if record.effectiveFrom.any (instant < ·) then
    some
      { reason := .outsideEffectiveWindow
        message := s!"jurisdiction {record.code} has no effect yet at the evaluation instant" }
  else if record.effectiveTo.any (· ≤ instant) then
    some
      { reason := .outsideEffectiveWindow
        message :=
          s!"jurisdiction {record.code} ceased to have effect at the evaluation instant" }
  else none

/-! ### What is in effect -/

theorem assignmentActiveAt_iff {assignment : UserJurisdictionAssignment} {instant : Instant} :
    assignmentActiveAt assignment instant = true ↔ assignment.window.Covers instant := by
  unfold assignmentActiveAt UserJurisdictionAssignment.window Window.Covers
  cases assignment.effectiveTo <;> simp

theorem laterStart_mem (latest candidate : UserJurisdictionAssignment) :
    laterStart latest candidate = latest ∨ laterStart latest candidate = candidate := by
  unfold laterStart
  split_ifs
  · exact .inr rfl
  · exact .inl rfl

theorem foldl_laterStart_mem (rest : List UserJurisdictionAssignment)
    (first : UserJurisdictionAssignment) : rest.foldl laterStart first ∈ first :: rest := by
  induction rest generalizing first with
  | nil => exact List.mem_singleton_self first
  | cons candidate rest ih =>
    have hmem := ih (laterStart first candidate)
    rw [List.foldl_cons]
    rcases List.mem_cons.mp hmem with hlater | hrest
    · rw [hlater]
      rcases laterStart_mem first candidate with h | h <;> simp [h]
    · exact List.mem_cons_of_mem _ (List.mem_cons_of_mem _ hrest)

/-- What is in effect is one of the rows that cover the instant. -/
theorem mem_of_pickEffectiveAssignment {assignments : List UserJurisdictionAssignment}
    {instant : Instant} {picked : UserJurisdictionAssignment}
    (hpicked : pickEffectiveAssignment assignments instant = some picked) :
    picked ∈ assignments ∧ assignmentActiveAt picked instant = true := by
  unfold pickEffectiveAssignment at hpicked
  split at hpicked
  · cases hpicked
  · rename_i first rest hcovering
    obtain rfl := Option.some.inj hpicked
    have hmem := foldl_laterStart_mem rest first
    rw [← hcovering] at hmem
    exact List.mem_filter.mp hmem

end Karar.Jurisdiction
