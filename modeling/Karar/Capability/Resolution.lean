import Karar.SharedKernel.Basic

/-!
# Resolving a capability

Eight gates over a snapshot of facts, in a fixed order; the first one that fails names the denial. The
gates 6 to 8 ask for what the clearance of gate 3 requires.
-/

namespace Karar.Capability

open SharedKernel

/-! ### Vocabulary -/

inductive AvailabilityState
  | available
  | beta
  | internalOnly
  | partnerOnly
  | disabled
  | pendingProvider
  | pendingLegalReview
  | pendingRegulatoryReview
deriving DecidableEq

def ALLOWING_STATES : List AvailabilityState := [.available, .beta]

def isAllowingState (state : AvailabilityState) : Bool :=
  ALLOWING_STATES.contains state

abbrev AllowingState := {state : AvailabilityState // isAllowingState state = true}

inductive DenialReason
  | notImplemented
  | notDeployed
  | wrongEnvironment
  | jurisdictionAbsent
  | jurisdictionUnverified
  | jurisdictionNotCleared
  | policyPackNotApproved
  | disabled
  | internalOnly
  | partnerOnly
  | pendingProvider
  | pendingLegalReview
  | pendingRegulatoryReview
  | entitlementMissing
  | entitlementExpired
  | consentRequired
  | reconsentRequired
  | processingBasisUnresolved
  | licenceMissing
  | licenceExpired
  | providerUnavailable
deriving DecidableEq

/-- A state that does not allow is its own reason. -/
def AvailabilityState.reason :
    (state : AvailabilityState) → isAllowingState state = false → DenialReason
  | .internalOnly, _ => .internalOnly
  | .partnerOnly, _ => .partnerOnly
  | .disabled, _ => .disabled
  | .pendingProvider, _ => .pendingProvider
  | .pendingLegalReview, _ => .pendingLegalReview
  | .pendingRegulatoryReview, _ => .pendingRegulatoryReview

/-! ### Facts -/

/-- What the descriptor of the capability says. -/
structure DescriptorFacts where
  implemented : Bool
  deployedInEnvironment : Bool
  declaredScopeRefs : List String
deriving DecidableEq

inductive ProcessingBasisFacts
  | consent (purposeRef : String)
  | declaredBasis (basisRef : String)
  | unresolved
deriving DecidableEq

/-- What the effective policy clears, and what it requires for it. -/
structure ClearedCapabilityFacts where
  capabilityId : String
  resolutionStrategyRef : String
  requiresVerifiedAssignment : Bool
  processingBasis : ProcessingBasisFacts
  requiredLicenceTypeRefs : List String
  requiredProviderKinds : List String
deriving DecidableEq

structure ResolvedCeiling where
  scopeRef : String
  assignmentVerified : Bool
  packVersionRef : String
  cleared : List ClearedCapabilityFacts
deriving DecidableEq

inductive CeilingFacts
  | noAssignment
  | unverifiedAssignment (scopeRef : String)
  | packNotApproved (scopeRef : String) (packVersionRef : Option String)
  | resolved (ceiling : ResolvedCeiling)
deriving DecidableEq

structure AvailabilityRow where
  rowId : String
  state : AvailabilityState
  version : Int
deriving DecidableEq

inductive AvailabilityFacts
  | noRow (existsForOtherEnvironment : Bool)
  | row (row : AvailabilityRow)
deriving DecidableEq

inductive EntitlementStatus
  | active
  | revoked
  | expired
deriving DecidableEq

structure EntitlementRow where
  rowId : String
  status : EntitlementStatus
  effectiveFrom : Instant
  effectiveTo : Option Instant
  version : Int
deriving DecidableEq

inductive EntitlementFacts
  | none
  | row (row : EntitlementRow)
deriving DecidableEq

inductive ConsentState
  | active
  | withdrawn
  | reconsentRequired
  | noGrant
deriving DecidableEq

inductive ConsentFacts
  | notEvaluated
  | status (state : ConsentState) (documentAvailable : Bool)
deriving DecidableEq

inductive LicenceStatus
  | claimedUnverified
  | evidenced
  | expired
  | revoked
deriving DecidableEq

structure LicenceFacts where
  licenceTypeRef : String
  status : LicenceStatus
  effectiveDate : Option Instant
  expiryDate : Option Instant
deriving DecidableEq

structure LicensedEntity where
  entityRef : String
  permittedInScope : Bool
  licences : List LicenceFacts
deriving DecidableEq

inductive LicensingFacts
  | notEvaluated
  | noEffectiveEntity
  | entity (entity : LicensedEntity)
deriving DecidableEq

inductive ConnectionStatus
  | connected
  | notConfigured
  | unavailable
deriving DecidableEq

structure ProviderStatus where
  providerKind : String
  status : ConnectionStatus
deriving DecidableEq

inductive ProviderFacts
  | notEvaluated
  | statuses (statuses : List ProviderStatus)
deriving DecidableEq

structure GateInputs where
  capabilityId : String
  environment : String
  descriptor : DescriptorFacts
  ceiling : CeilingFacts
  availability : AvailabilityFacts
  entitlement : EntitlementFacts
  consent : ConsentFacts
  licensing : LicensingFacts
  providers : ProviderFacts
deriving DecidableEq

/-! ### Output -/

inductive GateName
  | descriptor
  | environment
  | jurisdiction
  | availability
  | entitlement
  | consent
  | licence
  | provider
deriving DecidableEq

/-- The declared order. -/
def GATES : List GateName :=
  [.descriptor, .environment, .jurisdiction, .availability, .entitlement, .consent, .licence,
    .provider]

/-- The gates that read the code and the ceiling only. -/
def CEILING_GATES : List GateName := [.descriptor, .environment, .jurisdiction, .availability]

/-- The versions that a resolution has read, and what it ran under. -/
structure ResolutionProvenance where
  packVersionRef : Option String
  availabilityRowId : Option String
  availabilityRowVersion : Option Int
  entitlementId : Option String
  entitlementVersion : Option Int
  environment : String
  jurisdictionRef : Option String
  resolvedAt : Instant
deriving DecidableEq

inductive Outcome
  | allowed (state : AllowingState)
  | denied (gate : GateName) (reason : DenialReason)
deriving DecidableEq

structure CapabilityResolution where
  capabilityId : String
  outcome : Outcome
  provenance : ResolutionProvenance
deriving DecidableEq

def CeilingFacts.packVersionRef : CeilingFacts → Option String
  | .resolved ceiling => some ceiling.packVersionRef
  | .packNotApproved _ packVersionRef => packVersionRef
  | _ => none

def scopeRefOf : CeilingFacts → Option String
  | .noAssignment => none
  | .unverifiedAssignment scopeRef => some scopeRef
  | .packNotApproved scopeRef _ => some scopeRef
  | .resolved ceiling => some ceiling.scopeRef

def AvailabilityFacts.row? : AvailabilityFacts → Option AvailabilityRow
  | .noRow _ => none
  | .row found => some found

def EntitlementFacts.row? : EntitlementFacts → Option EntitlementRow
  | .none => Option.none
  | .row found => some found

def provenanceOf (inputs : GateInputs) (at_ : Instant) : ResolutionProvenance where
  packVersionRef := inputs.ceiling.packVersionRef
  availabilityRowId := inputs.availability.row?.map (·.rowId)
  availabilityRowVersion := inputs.availability.row?.map (·.version)
  entitlementId := inputs.entitlement.row?.map (·.rowId)
  entitlementVersion := inputs.entitlement.row?.map (·.version)
  environment := inputs.environment
  jurisdictionRef := scopeRefOf inputs.ceiling
  resolvedAt := at_

/-! ### The gates -/

/-- No configuration can override missing code. -/
def descriptorGate (descriptor : DescriptorFacts) : Option DenialReason :=
  if !descriptor.implemented then some .notImplemented
  else if !descriptor.deployedInEnvironment then some .notDeployed
  else none

/-- A row for another environment only is not one here. -/
def environmentGate : AvailabilityFacts → Option DenialReason
  | .noRow true => some .wrongEnvironment
  | _ => none

/-- The entry of the ceiling for the capability: the first one. -/
def ResolvedCeiling.clearanceOf (ceiling : ResolvedCeiling) (capabilityId : String) :
    Option ClearedCapabilityFacts :=
  ceiling.cleared.find? (·.capabilityId = capabilityId)

/-- Both the ceiling and the descriptor clear the capability. -/
def jurisdictionGate (capabilityId : String) (declaredScopeRefs : List String) :
    CeilingFacts → Except DenialReason ClearedCapabilityFacts
  | .noAssignment => .error .jurisdictionAbsent
  | .unverifiedAssignment _ => .error .jurisdictionUnverified
  | .packNotApproved _ _ => .error .policyPackNotApproved
  | .resolved ceiling =>
    match ceiling.clearanceOf capabilityId with
    | none => .error .jurisdictionNotCleared
    | some cleared =>
      if !declaredScopeRefs.any (· = ceiling.scopeRef) then .error .jurisdictionNotCleared
      else if cleared.requiresVerifiedAssignment && !ceiling.assignmentVerified then
        .error .jurisdictionUnverified
      else .ok cleared

/-- A missing row is a disabled one. -/
def availabilityGate : AvailabilityFacts → Except DenialReason AllowingState
  | .noRow _ => .error .disabled
  | .row row =>
    match hstate : isAllowingState row.state with
    | true => .ok ⟨row.state, hstate⟩
    | false => .error (row.state.reason hstate)

def entitlementSatisfiesAt (entitlement : EntitlementRow) (at_ : Instant) : Bool :=
  entitlement.status = .active && decide (entitlement.effectiveFrom ≤ at_) &&
    entitlement.effectiveTo.all (at_ < ·)

def entitlementGate (entitlement : EntitlementFacts) (at_ : Instant) : Option DenialReason :=
  match entitlement with
  | .none => some .entitlementMissing
  | .row row =>
    if !entitlementSatisfiesAt row at_ then
      some (if row.status = .revoked then .entitlementMissing else .entitlementExpired)
    else Option.none

def consentGate (basis : ProcessingBasisFacts) (consent : ConsentFacts) : Option DenialReason :=
  match basis with
  | .declaredBasis _ => none
  | .unresolved => some .processingBasisUnresolved
  | .consent _ =>
    match consent with
    | .notEvaluated => some .consentRequired
    | .status state documentAvailable =>
      if !documentAvailable then some .consentRequired
      else
        match state with
        | .active => none
        | .reconsentRequired => some .reconsentRequired
        | .withdrawn => some .consentRequired
        | .noGrant => some .consentRequired

/-- Evidenced, effective and not expired. -/
def licenceSatisfies (at_ : Instant) (licence : LicenceFacts) : Bool :=
  licence.status = .evidenced && licence.effectiveDate.any (· ≤ at_) &&
    licence.expiryDate.all (at_ < ·)

def licenceLapsed (at_ : Instant) (licence : LicenceFacts) : Bool :=
  licence.status = .expired || licence.expiryDate.any (· ≤ at_)

/-- The required types one after another. -/
def licenceTypes (licences : List LicenceFacts) (at_ : Instant) : List String → Option DenialReason
  | [] => none
  | typeRef :: rest =>
    let candidates := licences.filter (·.licenceTypeRef = typeRef)
    if candidates.any (licenceSatisfies at_) then licenceTypes licences at_ rest
    else some (if candidates.any (licenceLapsed at_) then .licenceExpired else .licenceMissing)

def licenceGate (requiredTypeRefs : List String) (licensing : LicensingFacts) (at_ : Instant) :
    Option DenialReason :=
  if requiredTypeRefs = [] then none
  else
    match licensing with
    | .notEvaluated => some .licenceMissing
    | .noEffectiveEntity => some .licenceMissing
    | .entity entity =>
      if !entity.permittedInScope then some .licenceMissing
      else licenceTypes entity.licences at_ requiredTypeRefs

/-- The required kinds one after another; the first entry of a kind is the one that is read. -/
def providerKinds (statuses : List ProviderStatus) : List String → Option DenialReason
  | [] => none
  | kind :: rest =>
    match statuses.find? (·.providerKind = kind) with
    | none => some .pendingProvider
    | some entry =>
      match entry.status with
      | .notConfigured => some .pendingProvider
      | .unavailable => some .providerUnavailable
      | .connected => providerKinds statuses rest

def providerGate (requiredKinds : List String) (providers : ProviderFacts) : Option DenialReason :=
  if requiredKinds = [] then none
  else
    match providers with
    | .notEvaluated => some .pendingProvider
    | .statuses statuses => providerKinds statuses requiredKinds

/-! ### The engine -/

abbrev Denial := GateName × DenialReason

/-- A gate that only denies. -/
def require (gate : GateName) : Option DenialReason → Except Denial Unit
  | none => .ok ()
  | some reason => .error (gate, reason)

/-- A gate that lets a value pass. -/
def judged {Passed : Type} (gate : GateName) (result : Except DenialReason Passed) :
    Except Denial Passed :=
  result.mapError (gate, ·)

/-- The gates in their order; the first that fails ends the resolution. -/
def runGates (inputs : GateInputs) (at_ : Instant) : Except Denial AllowingState := do
  require .descriptor (descriptorGate inputs.descriptor)
  require .environment (environmentGate inputs.availability)
  let cleared ← judged .jurisdiction
    (jurisdictionGate inputs.capabilityId inputs.descriptor.declaredScopeRefs inputs.ceiling)
  let state ← judged .availability (availabilityGate inputs.availability)
  require .entitlement (entitlementGate inputs.entitlement at_)
  require .consent (consentGate cleared.processingBasis inputs.consent)
  require .licence (licenceGate cleared.requiredLicenceTypeRefs inputs.licensing at_)
  require .provider (providerGate cleared.requiredProviderKinds inputs.providers)
  return state

def outcomeOf : Except Denial AllowingState → Outcome
  | .ok state => .allowed state
  | .error (gate, reason) => .denied gate reason

def resolveCapabilityGates (inputs : GateInputs) (at_ : Instant) : CapabilityResolution where
  capabilityId := inputs.capabilityId
  outcome := outcomeOf (runGates inputs at_)
  provenance := provenanceOf inputs at_

end Karar.Capability
