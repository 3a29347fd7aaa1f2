import Karar.Capability.Resolution
import Karar.Foundation.Fallible
import Karar.Foundation.Windows

/-!
# What the gates ask for

Each gate has a condition on its own facts (`Satisfied`), and a verdict that is empty exactly where the
condition holds (`verdict_eq_none_iff`). The resolution is the meet of the verdicts: it denies with the
first of them that is not empty (`denialOf_runGates`), so that a capability is allowed exactly if every
gate is satisfied (`resolveCapabilityGates_exact`).
-/

namespace Karar.Capability

open Foundation SharedKernel

/-! ### The conditions -/

def DescriptorFacts.Deployed (descriptor : DescriptorFacts) : Prop :=
  descriptor.implemented = true ∧ descriptor.deployedInEnvironment = true

/-- The ceiling and the descriptor clear the capability, for an assignment that is verified enough. -/
def CeilingFacts.Clears (ceiling : CeilingFacts) (declaredScopeRefs : List String)
    (capabilityId : String) (cleared : ClearedCapabilityFacts) : Prop :=
  ∃ resolved, ceiling = .resolved resolved ∧ resolved.clearanceOf capabilityId = some cleared ∧
    resolved.scopeRef ∈ declaredScopeRefs ∧
    (cleared.requiresVerifiedAssignment = true → resolved.assignmentVerified = true)

def AvailabilityFacts.Allows (availability : AvailabilityFacts) (state : AllowingState) : Prop :=
  ∃ row, availability = .row row ∧ row.state = state.1

def EntitlementRow.window (row : EntitlementRow) : Window Instant :=
  ⟨row.effectiveFrom, row.effectiveTo⟩

def EntitlementFacts.Grants (entitlement : EntitlementFacts) (at_ : Instant) : Prop :=
  ∃ row, entitlement = .row row ∧ row.status = .active ∧ row.window.Covers at_

/-- Consent is not the basis, or is given to a document that there is. -/
def ConsentFacts.Suffices (consent : ConsentFacts) : ProcessingBasisFacts → Prop
  | .declaredBasis _ => True
  | .unresolved => False
  | .consent _ => consent = .status .active true

def LicenceFacts.InForce (licence : LicenceFacts) (at_ : Instant) : Prop :=
  licence.status = .evidenced ∧
    ∃ start ∈ licence.effectiveDate, Window.Covers ⟨start, licence.expiryDate⟩ at_

/-- The entity may operate in the scope, and has a licence of the type in force. -/
def LicensingFacts.Licensed (licensing : LicensingFacts) (typeRef : String) (at_ : Instant) : Prop :=
  ∃ entity, licensing = .entity entity ∧ entity.permittedInScope = true ∧
    ∃ licence ∈ entity.licences, licence.licenceTypeRef = typeRef ∧ licence.InForce at_

/-- The first entry of the kind is a connected one. -/
def ProviderFacts.Connected (providers : ProviderFacts) (kind : String) : Prop :=
  ∃ statuses entry, providers = .statuses statuses ∧
    statuses.find? (·.providerKind = kind) = some entry ∧ entry.status = .connected

/-- The entry of the effective policy for the capability. -/
def GateInputs.clearance (inputs : GateInputs) : Option ClearedCapabilityFacts :=
  match inputs.ceiling with
  | .resolved ceiling => ceiling.clearanceOf inputs.capabilityId
  | _ => none

/-- The gate is satisfied by its own facts. What a clearance requires, only an entry of the effective
policy can require. -/
def Satisfied (inputs : GateInputs) (at_ : Instant) : GateName → Prop
  | .descriptor => inputs.descriptor.Deployed
  | .environment => inputs.availability ≠ .noRow true
  | .jurisdiction =>
    ∃ cleared, inputs.ceiling.Clears inputs.descriptor.declaredScopeRefs inputs.capabilityId cleared
  | .availability => ∃ state, inputs.availability.Allows state
  | .entitlement => inputs.entitlement.Grants at_
  | .consent => ∀ cleared ∈ inputs.clearance, inputs.consent.Suffices cleared.processingBasis
  | .licence =>
    ∀ cleared ∈ inputs.clearance, ∀ typeRef ∈ cleared.requiredLicenceTypeRefs,
      inputs.licensing.Licensed typeRef at_
  | .provider =>
    ∀ cleared ∈ inputs.clearance, ∀ kind ∈ cleared.requiredProviderKinds,
      inputs.providers.Connected kind

/-! ### Each gate and its condition -/

section Gate

variable {capabilityId : String} {declaredScopeRefs : List String} {ceiling : CeilingFacts}
  {cleared : ClearedCapabilityFacts} {at_ : Instant}

theorem descriptorGate_eq_none_iff {descriptor : DescriptorFacts} :
    descriptorGate descriptor = none ↔ descriptor.Deployed := by
  unfold descriptorGate DescriptorFacts.Deployed
  cases descriptor.implemented <;> cases descriptor.deployedInEnvironment <;> simp

theorem environmentGate_eq_none_iff {availability : AvailabilityFacts} :
    environmentGate availability = none ↔ availability ≠ .noRow true := by
  unfold environmentGate
  split <;> simp_all

theorem jurisdictionGate_eq_ok_iff :
    jurisdictionGate capabilityId declaredScopeRefs ceiling = .ok cleared ↔
      ceiling.Clears declaredScopeRefs capabilityId cleared := by
  unfold CeilingFacts.Clears
  cases ceiling with
  | resolved resolved =>
    have hany : declaredScopeRefs.any (· = resolved.scopeRef) =
        decide (resolved.scopeRef ∈ declaredScopeRefs) := by
      rw [Bool.eq_iff_iff]
      simp
    simp only [jurisdictionGate, hany]
    cases hclearance : resolved.clearanceOf capabilityId with
    | none => simp [hclearance]
    | some entry =>
      by_cases hdeclared : resolved.scopeRef ∈ declaredScopeRefs
      · cases hrequires : entry.requiresVerifiedAssignment <;>
          cases hverified : resolved.assignmentVerified <;>
          simp [hclearance, hdeclared, hrequires, hverified]
        · rintro rfl
          exact hrequires
        · rintro rfl
          exact hrequires
      · simp [hclearance, hdeclared]
  | _ => simp [jurisdictionGate]

theorem availabilityGate_eq_ok_iff {availability : AvailabilityFacts} {state : AllowingState} :
    availabilityGate availability = .ok state ↔ availability.Allows state := by
  unfold AvailabilityFacts.Allows
  cases availability with
  | noRow exists_ => simp [availabilityGate]
  | row row =>
    simp only [availabilityGate, AvailabilityFacts.row.injEq, exists_eq_left']
    split
    · rw [Except.ok.injEq, Subtype.ext_iff]
    · rename_i hstate
      have hne : row.state ≠ state.1 := fun heq ↦ by simp [heq, state.2] at hstate
      simp [hne]

/-- The stored status and the window decide. -/
theorem entitlementSatisfiesAt_iff {row : EntitlementRow} :
    entitlementSatisfiesAt row at_ = true ↔ row.status = .active ∧ row.window.Covers at_ := by
  unfold entitlementSatisfiesAt EntitlementRow.window Window.Covers
  simp [and_assoc, Option.all_eq_true]

theorem entitlementGate_eq_none_iff {entitlement : EntitlementFacts} :
    entitlementGate entitlement at_ = none ↔ entitlement.Grants at_ := by
  unfold EntitlementFacts.Grants
  cases entitlement with
  | none => simp [entitlementGate]
  | row row =>
    simp only [entitlementGate, EntitlementFacts.row.injEq, exists_eq_left',
      ← entitlementSatisfiesAt_iff]
    cases entitlementSatisfiesAt row at_ <;> simp

theorem consentGate_eq_none_iff {basis : ProcessingBasisFacts} {consent : ConsentFacts} :
    consentGate basis consent = none ↔ consent.Suffices basis := by
  unfold ConsentFacts.Suffices
  cases basis with
  | declaredBasis basisRef => simp [consentGate]
  | unresolved => simp [consentGate]
  | consent purposeRef =>
    cases consent with
    | notEvaluated => simp [consentGate]
    | status state documentAvailable => cases documentAvailable <;> cases state <;> simp [consentGate]

theorem licenceSatisfies_iff {licence : LicenceFacts} :
    licenceSatisfies at_ licence = true ↔ licence.InForce at_ := by
  unfold licenceSatisfies LicenceFacts.InForce Window.Covers
  cases licence.effectiveDate <;> simp [and_assoc, Option.all_eq_true]

/-- Every required type has a licence in force. -/
theorem licenceTypes_eq_none_iff {licences : List LicenceFacts} {typeRefs : List String} :
    licenceTypes licences at_ typeRefs = none ↔ ∀ typeRef ∈ typeRefs,
      ∃ licence ∈ licences, licence.licenceTypeRef = typeRef ∧ licence.InForce at_ := by
  induction typeRefs with
  | nil => simp [licenceTypes]
  | cons typeRef rest ih =>
    have hany : (licences.filter (·.licenceTypeRef = typeRef)).any (licenceSatisfies at_) = true ↔
        ∃ licence ∈ licences, licence.licenceTypeRef = typeRef ∧ licence.InForce at_ := by
      simp [List.any_eq_true, licenceSatisfies_iff]
    simp only [licenceTypes, List.forall_mem_cons, ← hany, ← ih]
    split_ifs with hsatisfied <;> simp [hsatisfied]

theorem licenceGate_eq_none_iff {typeRefs : List String} {licensing : LicensingFacts} :
    licenceGate typeRefs licensing at_ = none ↔
      ∀ typeRef ∈ typeRefs, licensing.Licensed typeRef at_ := by
  unfold LicensingFacts.Licensed
  by_cases hnone : typeRefs = []
  · simp [licenceGate, hnone]
  · obtain ⟨typeRef, hrequired⟩ := List.exists_mem_of_ne_nil _ hnone
    cases licensing with
    | entity entity =>
      cases hpermitted : entity.permittedInScope with
      | false => simpa [licenceGate, hnone, hpermitted] using ⟨typeRef, hrequired⟩
      | true => simp [licenceGate, hnone, hpermitted, licenceTypes_eq_none_iff]
    | _ => simpa [licenceGate, hnone] using ⟨typeRef, hrequired⟩

/-- The first entry of every required kind is connected. -/
theorem providerKinds_eq_none_iff {statuses : List ProviderStatus} {kinds : List String} :
    providerKinds statuses kinds = none ↔ ∀ kind ∈ kinds,
      ∃ entry, statuses.find? (·.providerKind = kind) = some entry ∧ entry.status = .connected := by
  induction kinds with
  | nil => simp [providerKinds]
  | cons kind rest ih =>
    rw [List.forall_mem_cons, ← ih]
    cases hfind : statuses.find? (·.providerKind = kind) with
    | none => simp [providerKinds, hfind]
    | some entry => cases hstatus : entry.status <;> simp [providerKinds, hfind, hstatus]

theorem providerGate_eq_none_iff {kinds : List String} {providers : ProviderFacts} :
    providerGate kinds providers = none ↔ ∀ kind ∈ kinds, providers.Connected kind := by
  unfold ProviderFacts.Connected
  by_cases hnone : kinds = []
  · simp [providerGate, hnone]
  · obtain ⟨kind, hrequired⟩ := List.exists_mem_of_ne_nil _ hnone
    cases providers with
    | notEvaluated => simpa [providerGate, hnone] using ⟨kind, hrequired⟩
    | statuses statuses => simp [providerGate, hnone, providerKinds_eq_none_iff]

end Gate

/-! ### The meet of the verdicts -/

def denialOf {Failure Passed : Type} : Except Failure Passed → Option Failure
  | .ok _ => none
  | .error failure => some failure

/-- What a gate says of its own facts. -/
def verdict (inputs : GateInputs) (at_ : Instant) : GateName → Option DenialReason
  | .descriptor => descriptorGate inputs.descriptor
  | .environment => environmentGate inputs.availability
  | .jurisdiction =>
    denialOf (jurisdictionGate inputs.capabilityId inputs.descriptor.declaredScopeRefs inputs.ceiling)
  | .availability => denialOf (availabilityGate inputs.availability)
  | .entitlement => entitlementGate inputs.entitlement at_
  | .consent =>
    inputs.clearance.bind fun cleared ↦ consentGate cleared.processingBasis inputs.consent
  | .licence =>
    inputs.clearance.bind fun cleared ↦
      licenceGate cleared.requiredLicenceTypeRefs inputs.licensing at_
  | .provider =>
    inputs.clearance.bind fun cleared ↦
      providerGate cleared.requiredProviderKinds inputs.providers

section Meet

variable {inputs : GateInputs} {at_ : Instant}

theorem denialOf_eq_none_iff {Failure Passed : Type} {result : Except Failure Passed} :
    denialOf result = none ↔ ∃ value, result = .ok value := by
  cases result <;> simp [denialOf]

theorem verdict_eq_none_iff (gate : GateName) :
    verdict inputs at_ gate = none ↔ Satisfied inputs at_ gate := by
  cases gate with
  | descriptor => exact descriptorGate_eq_none_iff
  | environment => exact environmentGate_eq_none_iff
  | jurisdiction =>
    exact denialOf_eq_none_iff.trans (exists_congr fun cleared ↦ jurisdictionGate_eq_ok_iff)
  | availability =>
    exact denialOf_eq_none_iff.trans (exists_congr fun state ↦ availabilityGate_eq_ok_iff)
  | entitlement => exact entitlementGate_eq_none_iff
  | consent => simp [verdict, Satisfied, consentGate_eq_none_iff]
  | licence => simp [verdict, Satisfied, licenceGate_eq_none_iff]
  | provider => simp [verdict, Satisfied, providerGate_eq_none_iff]

theorem mem_GATES (gate : GateName) : gate ∈ GATES := by
  cases gate <;> decide

theorem denialOf_require_bind {Passed : Type} (gate : GateName) (reason : Option DenialReason)
    (rest : Unit → Except Denial Passed) :
    denialOf (require gate reason >>= rest) =
      (reason.map (gate, ·)).or (denialOf (rest ())) := by
  cases reason <;> rfl

/-- What passes the third gate is the clearance. -/
theorem clearance_of_clears {cleared : ClearedCapabilityFacts}
    (hclears : inputs.ceiling.Clears inputs.descriptor.declaredScopeRefs inputs.capabilityId cleared) :
    inputs.clearance = some cleared := by
  obtain ⟨resolved, hresolved, hclearance, -⟩ := hclears
  unfold GateInputs.clearance
  rw [hresolved]
  exact hclearance

theorem denialOf_judged_bind {Middle Passed : Type} (gate : GateName)
    (result : Except DenialReason Middle) (rest : Middle → Except Denial Passed) :
    denialOf (judged gate result >>= rest) =
      match result with
      | .ok value => denialOf (rest value)
      | .error reason => some (gate, reason) := by
  cases result <;> rfl

theorem denialOf_pure {Passed : Type} (passed : Passed) :
    denialOf (pure passed : Except Denial Passed) = none :=
  rfl

/-- The resolution denies with the first verdict that is not empty. -/
theorem denialOf_runGates (inputs : GateInputs) (at_ : Instant) :
    denialOf (runGates inputs at_) = firstFailure GATES (verdict inputs at_) := by
  unfold runGates GATES
  simp only [firstFailure_cons, firstFailure_nil, denialOf_require_bind, denialOf_judged_bind,
    denialOf_pure, verdict]
  cases hjurisdiction : jurisdictionGate inputs.capabilityId inputs.descriptor.declaredScopeRefs
      inputs.ceiling with
  | error reason => simp [denialOf]
  | ok cleared =>
    -- The later gates judge by the clearance that has passed.
    rw [clearance_of_clears (jurisdictionGate_eq_ok_iff.mp hjurisdiction)]
    cases availabilityGate inputs.availability <;> simp [denialOf]

/-! ### The resolution -/

theorem allowed_iff {state : AllowingState} :
    (resolveCapabilityGates inputs at_).outcome = .allowed state ↔ runGates inputs at_ = .ok state := by
  show outcomeOf (runGates inputs at_) = _ ↔ _
  cases runGates inputs at_ <;> simp [outcomeOf]

theorem denied_iff {gate : GateName} {reason : DenialReason} :
    (resolveCapabilityGates inputs at_).outcome = .denied gate reason ↔
      firstFailure GATES (verdict inputs at_) = some (gate, reason) := by
  rw [← denialOf_runGates]
  show outcomeOf (runGates inputs at_) = _ ↔ _
  cases hrun : runGates inputs at_ <;> simp [outcomeOf, denialOf, Prod.ext_iff]

end Meet

theorem allowed_iff_satisfied (inputs : GateInputs) (at_ : Instant) :
    (∃ state, (resolveCapabilityGates inputs at_).outcome = .allowed state) ↔
      ∀ gate, Satisfied inputs at_ gate := by
  have hnone : (∃ state, (resolveCapabilityGates inputs at_).outcome = .allowed state) ↔
      firstFailure GATES (verdict inputs at_) = none := by
    rw [← denialOf_runGates, denialOf_eq_none_iff]
    exact exists_congr fun state ↦ allowed_iff
  rw [hnone, firstFailure_eq_none_iff]
  refine forall_congr' fun gate ↦ ?_
  rw [verdict_eq_none_iff]
  exact forall_prop_of_true (mem_GATES gate)

/-- The gate is the first in the declared order that is not satisfied. -/
def FirstUnsatisfied (inputs : GateInputs) (at_ : Instant) (gate : GateName) : Prop :=
  ∃ earlier later, GATES = earlier ++ gate :: later ∧ ¬ Satisfied inputs at_ gate ∧
    ∀ before ∈ earlier, Satisfied inputs at_ before

/-- A capability is allowed exactly if every gate is satisfied by its own facts, and denied at a gate
exactly if that is the first one that is not. -/
theorem resolveCapabilityGates_exact (inputs : GateInputs) (at_ : Instant) :
    ((∃ state, (resolveCapabilityGates inputs at_).outcome = .allowed state) ↔
        ∀ gate, Satisfied inputs at_ gate) ∧
      ∀ gate, (∃ reason, (resolveCapabilityGates inputs at_).outcome = .denied gate reason) ↔
        FirstUnsatisfied inputs at_ gate := by
  refine ⟨allowed_iff_satisfied inputs at_, fun gate ↦ ?_⟩
  have hunsatisfied : (∃ reason, verdict inputs at_ gate = some reason) ↔
      ¬ Satisfied inputs at_ gate := by
    rw [← verdict_eq_none_iff, ← ne_eq, Option.ne_none_iff_exists']
  simp only [denied_iff, firstFailure_eq_some_iff, verdict_eq_none_iff, FirstUnsatisfied]
  constructor
  · rintro ⟨reason, earlier, later, hgates, hverdict, hearlier⟩
    exact ⟨earlier, later, hgates, hunsatisfied.mp ⟨reason, hverdict⟩, hearlier⟩
  · rintro ⟨earlier, later, hgates, hfails, hearlier⟩
    obtain ⟨reason, hverdict⟩ := hunsatisfied.mpr hfails
    exact ⟨reason, earlier, later, hgates, hverdict, hearlier⟩

end Karar.Capability
