import Karar.Capability.Registry
import Karar.Foundation.Throwing

/-!
# `ResolveCapabilityAvailability`

The resolver asks its ports for one snapshot of facts per capability and hands it to the gates. It asks
for consent, licences and providers only where the clearance of the capability requires them, and for
what belongs to a user only where there is one. A port that fails ends the resolution.
-/

namespace Karar.Capability

open Foundation SharedKernel

/-! ### Ports -/

structure PolicyCeilingQuery where
  tenantId : String
  userId : Option String
  environment : String
  at_ : Instant
deriving DecidableEq

/-- `null` for a context without a principal. -/
structure ResolutionSubject where
  tenantId : String
  userId : Option String
deriving DecidableEq

structure EntitlementPrincipal where
  tenantId : String
  userId : String
deriving DecidableEq

inductive ResolveOp
  | effectivePolicyFor (query : PolicyCeilingQuery)
  | availabilityFor (environment : String) (scopeRef : Option String) (capabilityId : String)
  | entitlementFor (principal : EntitlementPrincipal) (capabilityId : String)
  | consentStatusFor (principal : EntitlementPrincipal) (purposeRef scopeRef : String) (at_ : Instant)
  | licensingContextFor (subject : ResolutionSubject) (scopeRef : String) (at_ : Instant)
  | providerStatusFor (providerKind environment : String)
  | record (entry : AuditEntry)
deriving DecidableEq

abbrev ResolveOp.Value : ResolveOp → Type
  | .effectivePolicyFor _ => CeilingFacts
  | .availabilityFor _ _ _ => AvailabilityFacts
  | .entitlementFor _ _ => EntitlementFacts
  | .consentStatusFor _ _ _ _ => ConsentFacts
  | .licensingContextFor _ _ _ => LicensingFacts
  | .providerStatusFor _ _ => ConnectionStatus
  | .record _ => Except AuditAppendFailed Unit

abbrev ResolveStep := Throwing ResolveOp ResolveOp.Value

def resolvePort (op : ResolveOp) : ResolveStep op.Value :=
  ask op

/-! ### Input and output -/

structure ResolveInput where
  subject : ResolutionSubject
  now : Instant
  /-- All ids of the registry by default. -/
  capabilityIds : Option (List String)
deriving DecidableEq

def ResolveInput.ids (input : ResolveInput) (registry : CapabilityRegistryView) : List String :=
  input.capabilityIds.getD registry.ids

structure CapabilityResolutionSet where
  environment : String
  resolvedAt : Instant
  resolutions : List CapabilityResolution
deriving DecidableEq

inductive ResolveError
  | unknownCapability (capabilityId message : String)
  | resolutionFailed (message : String)
  | auditAppendFailed (failure : AuditAppendFailed)
deriving DecidableEq

/-! ### The snapshot -/

/-- The scope of a resolved ceiling. -/
def CeilingFacts.resolvedScope : CeilingFacts → Option String
  | .resolved ceiling => some ceiling.scopeRef
  | _ => none

/-- The entry of a resolved ceiling for a capability. -/
def CeilingFacts.clearedFor (ceiling : CeilingFacts) (capabilityId : String) :
    Option ClearedCapabilityFacts :=
  match ceiling with
  | .resolved found => found.clearanceOf capabilityId
  | _ => none

section Fetch

variable (input : ResolveInput)

/-- Without a user there is no principal context to read an entitlement in. -/
def fetchEntitlement (id : String) : ResolveStep EntitlementFacts :=
  match input.subject.userId with
  | none => return .none
  | some userId => resolvePort (.entitlementFor ⟨input.subject.tenantId, userId⟩ id)

/-- The purpose for which a clearance needs a consent. -/
def ClearedCapabilityFacts.consentPurpose (cleared : ClearedCapabilityFacts) : Option String :=
  match cleared.processingBasis with
  | .consent purposeRef => some purposeRef
  | _ => none

def fetchConsent (cleared : Option ClearedCapabilityFacts) (scopeRef : Option String) :
    ResolveStep ConsentFacts :=
  match cleared.bind (·.consentPurpose), scopeRef, input.subject.userId with
  | some purposeRef, some scopeRef, some userId =>
    resolvePort
      (.consentStatusFor ⟨input.subject.tenantId, userId⟩ purposeRef scopeRef input.now)
  | _, _, _ => return .notEvaluated

def requiresLicence (cleared : Option ClearedCapabilityFacts) : Bool :=
  cleared.any (·.requiredLicenceTypeRefs ≠ [])

def fetchLicensing (cleared : Option ClearedCapabilityFacts) (scopeRef : Option String) :
    ResolveStep LicensingFacts :=
  match requiresLicence cleared, scopeRef with
  | true, some scopeRef => resolvePort (.licensingContextFor input.subject scopeRef input.now)
  | _, _ => return .notEvaluated

def fetchStatuses (environment : String) : List String → ResolveStep (List ProviderStatus)
  | [] => return []
  | providerKind :: rest => do
    let status ← resolvePort (.providerStatusFor providerKind environment)
    return ⟨providerKind, status⟩ :: (← fetchStatuses environment rest)

def fetchProviders (environment : String) (cleared : Option ClearedCapabilityFacts) :
    ResolveStep ProviderFacts :=
  match (cleared.map (·.requiredProviderKinds)).getD [] with
  | [] => return .notEvaluated
  | kinds => return .statuses (← fetchStatuses environment kinds)

def snapshotFor (environment id : String) (descriptor : CapabilityDescriptor)
    (ceiling : CeilingFacts) : ResolveStep GateInputs := do
  let scopeRef := ceiling.resolvedScope
  let availability ← resolvePort (.availabilityFor environment scopeRef id)
  let entitlement ← fetchEntitlement input id
  let cleared := ceiling.clearedFor id
  let consent ← fetchConsent input cleared scopeRef
  let licensing ← fetchLicensing input cleared scopeRef
  let providers ← fetchProviders environment cleared
  return ⟨id, environment, descriptorFactsFor descriptor environment, ceiling, availability,
    entitlement, consent, licensing, providers⟩

end Fetch

/-! ### The audit of a refused expansion -/

def aboveCeilingEntry (input : ResolveInput) (inputs : GateInputs) (gate : GateName)
    (reason : DenialReason) : AuditEntry where
  occurredAt := input.now
  actorRef := input.subject.userId.getD "system:resolver"
  tenantRef := some input.subject.tenantId
  action := "capability.resolution.denied_above_ceiling"
  resourceType := "capability"
  resourceId := inputs.capabilityId
  outcome := .denied
  reason := s!"{gate.name} gate denied with {reason.name} while a grant-like row exists"
  afterMetadata :=
    [("gate", .text gate.name), ("denialReason", .text reason.name),
      ("availabilityState",
        (inputs.availability.row?.map fun row ↦ MetadataValue.text row.state.name).getD .null),
      ("entitlementStatus",
        (inputs.entitlement.row?.map fun row ↦ MetadataValue.text row.status.name).getD .null)]

/-- A row grants what the ceiling has refused. -/
def grantsAboveCeiling (gate : GateName) (inputs : GateInputs) (now : Instant) : Bool :=
  let allowingRow := inputs.availability.row?.any fun row ↦ isAllowingState row.state
  let satisfiedEntitlement := inputs.entitlement.row?.any (entitlementSatisfiesAt · now)
  allowingRow && gate ≠ .availability && gate ≠ .environment || satisfiedEntitlement

def auditAboveCeilingDenial (resolution : CapabilityResolution) (inputs : GateInputs)
    (input : ResolveInput) : ResolveStep (Except AuditAppendFailed Unit) :=
  match resolution.outcome with
  | .allowed _ => return .ok ()
  | .denied gate reason =>
    if gate ∈ CEILING_GATES ∧ grantsAboveCeiling gate inputs input.now = true then
      resolvePort (.record (aboveCeilingEntry input inputs gate reason))
    else return .ok ()

/-! ### The use case -/

namespace ResolveCapabilityAvailability

def unknownCapability (id : String) : ResolveError :=
  .unknownCapability id
    s!"capability '{id}' is not in the registry this resolver was constructed with"

def noDescriptor (id : String) : ResolveError :=
  .unknownCapability id s!"capability '{id}' has no descriptor in the registry view"

section Execute

variable (registry : CapabilityRegistryView) (environment : String) (input : ResolveInput)

/-- The capabilities one after another; the first failure ends the resolution. -/
def resolveEach (ceiling : CeilingFacts) :
    List String → ResolveStep (Except ResolveError (List CapabilityResolution))
  | [] => return .ok []
  | id :: rest => do
    match registry.descriptor id with
    | none => return .error (noDescriptor id)
    | some descriptor =>
      match ← trying .resolutionFailed (snapshotFor input environment id descriptor ceiling) with
      | .error failure => return .error failure
      | .ok inputs =>
        let resolution := resolveCapabilityGates inputs input.now
        match ← auditAboveCeilingDenial resolution inputs input with
        | .error failure => return .error (.auditAppendFailed failure)
        | .ok () => return (← resolveEach ceiling rest).map (resolution :: ·)

def ceilingQuery : PolicyCeilingQuery where
  tenantId := input.subject.tenantId
  userId := input.subject.userId
  environment := environment
  at_ := input.now

def execute : ResolveStep (Except ResolveError CapabilityResolutionSet) := do
  match (input.ids registry).find? (· ∉ registry.ids) with
  | some id => return .error (unknownCapability id)
  | none =>
    match ← trying .resolutionFailed
        (resolvePort (.effectivePolicyFor (ceilingQuery environment input))) with
    | .error failure => return .error failure
    | .ok ceiling =>
      let resolutions ← resolveEach registry environment input ceiling (input.ids registry)
      return resolutions.map (⟨environment, input.now, ·⟩)

end Execute

end ResolveCapabilityAvailability

end Karar.Capability
