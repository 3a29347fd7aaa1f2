import Karar.Capability.Resolution

/-!
# The registry of capabilities

The descriptors as the capability module reads them, over any set of ids, and the audit trail of the
module.
-/

namespace Karar.Capability

open SharedKernel

/-! ### Descriptors -/

def KARAR_ENVIRONMENTS : List String := ["local", "dev", "staging", "production"]

def isKararEnvironment (value : String) : Bool :=
  KARAR_ENVIRONMENTS.contains value

def CAPABILITY_IDS : List String :=
  ["TRANSACTIONS", "BUDGETS", "GOALS", "INSIGHTS", "AI_ADVISOR", "ZAKAT", "AMANAT"]

inductive CapabilityImplementation
  | notImplemented
  | implemented
deriving DecidableEq

inductive CapabilityDeployment
  | notDeployed
  | deployed
deriving DecidableEq

inductive ClientExposure
  | actionable
  | hidden
deriving DecidableEq

structure CapabilityDescriptor where
  id : String
  implementation : CapabilityImplementation
  /-- By environment. An absent key is not deployed. -/
  deployment : List (String × CapabilityDeployment)
  declaredJurisdictions : List String
  clientExposure : ClientExposure
  providerPendingExplainable : Option Bool
deriving DecidableEq

structure CapabilityRegistryView where
  ids : List String
  descriptors : List (String × CapabilityDescriptor)
deriving DecidableEq

/-- `registry.descriptors[id]`. -/
def CapabilityRegistryView.descriptor (registry : CapabilityRegistryView) (id : String) :
    Option CapabilityDescriptor :=
  registry.descriptors.lookup id

def descriptorFactsFor (descriptor : CapabilityDescriptor) (environment : String) :
    DescriptorFacts where
  implemented := descriptor.implementation = .implemented
  deployedInEnvironment := descriptor.deployment.lookup environment = some .deployed
  declaredScopeRefs := descriptor.declaredJurisdictions

/-! ### The audit trail -/

structure AuditAppendFailed where
  message : String
deriving DecidableEq

inductive AuditOutcome
  | success
  | denied
deriving DecidableEq

inductive MetadataValue
  | text (value : String)
  | number (value : Int)
  | null
deriving DecidableEq

/-- `CapabilityAuditEntry`. -/
structure AuditEntry where
  occurredAt : Instant
  actorRef : String
  tenantRef : Option String
  action : String
  resourceType : String
  resourceId : String
  outcome : AuditOutcome
  reason : String
  beforeMetadata : List (String × MetadataValue) := []
  afterMetadata : List (String × MetadataValue)
deriving DecidableEq

/-! ### Names -/

def AvailabilityState.name : AvailabilityState → String
  | .available => "AVAILABLE"
  | .beta => "BETA"
  | .internalOnly => "INTERNAL_ONLY"
  | .partnerOnly => "PARTNER_ONLY"
  | .disabled => "DISABLED"
  | .pendingProvider => "PENDING_PROVIDER"
  | .pendingLegalReview => "PENDING_LEGAL_REVIEW"
  | .pendingRegulatoryReview => "PENDING_REGULATORY_REVIEW"

def EntitlementStatus.name : EntitlementStatus → String
  | .active => "ACTIVE"
  | .revoked => "REVOKED"
  | .expired => "EXPIRED"

def GateName.name : GateName → String
  | .descriptor => "DESCRIPTOR"
  | .environment => "ENVIRONMENT"
  | .jurisdiction => "JURISDICTION"
  | .availability => "AVAILABILITY"
  | .entitlement => "ENTITLEMENT"
  | .consent => "CONSENT"
  | .licence => "LICENCE"
  | .provider => "PROVIDER"

def DenialReason.name : DenialReason → String
  | .notImplemented => "NOT_IMPLEMENTED"
  | .notDeployed => "NOT_DEPLOYED"
  | .wrongEnvironment => "WRONG_ENVIRONMENT"
  | .jurisdictionAbsent => "JURISDICTION_ABSENT"
  | .jurisdictionUnverified => "JURISDICTION_UNVERIFIED"
  | .jurisdictionNotCleared => "JURISDICTION_NOT_CLEARED"
  | .policyPackNotApproved => "POLICY_PACK_NOT_APPROVED"
  | .disabled => "DISABLED"
  | .internalOnly => "INTERNAL_ONLY"
  | .partnerOnly => "PARTNER_ONLY"
  | .pendingProvider => "PENDING_PROVIDER"
  | .pendingLegalReview => "PENDING_LEGAL_REVIEW"
  | .pendingRegulatoryReview => "PENDING_REGULATORY_REVIEW"
  | .entitlementMissing => "ENTITLEMENT_MISSING"
  | .entitlementExpired => "ENTITLEMENT_EXPIRED"
  | .consentRequired => "CONSENT_REQUIRED"
  | .reconsentRequired => "RECONSENT_REQUIRED"
  | .processingBasisUnresolved => "PROCESSING_BASIS_UNRESOLVED"
  | .licenceMissing => "LICENCE_MISSING"
  | .licenceExpired => "LICENCE_EXPIRED"
  | .providerUnavailable => "PROVIDER_UNAVAILABLE"

end Karar.Capability
