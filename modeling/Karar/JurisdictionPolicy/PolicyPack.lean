import Karar.Foundation.Windows
import Karar.Jurisdiction.Packs

/-!
# Policy packs with their decisions

A pack as the resolver hands it on, with the value of every decision. The activation of packs reads an
outline of it (`PolicyPack.outline`); the lifecycle predicates and the validation are those of the outline,
with a registry of strategies in the place of the launch strategies (`validatePack_default`).
-/

namespace Karar.JurisdictionPolicy

open Foundation SharedKernel
open Jurisdiction (PackLifecycle PolicyEnvironment PackValidationFinding ActivationDenialReason)

/-! ### Decisions -/

inductive PolicyDecision (Value : Type)
  | decided (value : Value) (basis : String)
  | pendingLegalReview (reason : String)
  | unresolved (reason : String)
deriving DecidableEq

/-- The decision without its value. -/
def PolicyDecision.outline {Value : Type} : PolicyDecision Value → Jurisdiction.PolicyDecision
  | .decided _ basis => .decided basis
  | .pendingLegalReview _ => .pendingLegalReview
  | .unresolved _ => .unresolved

structure RulesetReference where
  rulesetId : String
  rulesetVersion : String
deriving DecidableEq

structure ConsentRequirement where
  purposeRef : String
  documentKind : String
deriving DecidableEq

/-- An ISO-8601 duration. -/
structure RetentionPeriod where
  duration : String
deriving DecidableEq

structure IdentityRequirement where
  kind : String
  description : String
deriving DecidableEq

structure DisclosurePolicy where
  requiredDocumentKinds : List String
deriving DecidableEq

structure ApprovalPolicy where
  workflow : String
  approverRole : String
deriving DecidableEq

structure CurrencyPolicy where
  baseCurrency : String
  permittedCurrencies : List String
deriving DecidableEq

structure AiProcessingPolicy where
  permitted : Bool
  crossBorderTransferPermitted : Bool
  conditions : List String
deriving DecidableEq

structure SubjectPolicyOptionSet where
  optionSetId : String
  version : String
  permittedOptionIds : List String
deriving DecidableEq

inductive ReviewStatus
  | notSubmitted
  | pendingLegalReview
  | reviewComplete
deriving DecidableEq

/-! ### Packs -/

structure PolicyPack where
  jurisdiction : String
  version : String
  lifecycle : PackLifecycle
  reviewStatus : ReviewStatus
  effectiveFrom : Instant
  effectiveTo : Option Instant
  financialRulesets : List (String × PolicyDecision RulesetReference)
  consentRequirements : PolicyDecision (List ConsentRequirement)
  declaredPurposes : List String
  processingBases : List (String × PolicyDecision String)
  retention : List (String × PolicyDecision RetentionPeriod)
  identityRequirements : PolicyDecision (List IdentityRequirement)
  disclosurePolicy : PolicyDecision DisclosurePolicy
  approvalPolicies : List (String × PolicyDecision ApprovalPolicy)
  currencyPolicy : PolicyDecision CurrencyPolicy
  aiProcessingPolicy : PolicyDecision AiProcessingPolicy
  clearedCapabilities : List String
  resolutionStrategies : List (String × String)
  subjectPolicyOptions : List (String × SubjectPolicyOptionSet)
  approvalReference : Option String
deriving DecidableEq

namespace PolicyPack

def window (pack : PolicyPack) : Window Instant :=
  ⟨pack.effectiveFrom, pack.effectiveTo⟩

def outlines {Value : Type} (decisions : List (String × PolicyDecision Value)) :
    List (String × Jurisdiction.PolicyDecision) :=
  decisions.map fun (key, decision) ↦ (key, decision.outline)

/-- What the activation reads of a pack. -/
def outline (pack : PolicyPack) : Jurisdiction.PolicyPack where
  jurisdiction := pack.jurisdiction
  version := pack.version
  lifecycle := pack.lifecycle
  effectiveFrom := pack.effectiveFrom
  effectiveTo := pack.effectiveTo
  financialRulesets := outlines pack.financialRulesets
  consentRequirements := pack.consentRequirements.outline
  declaredPurposes := pack.declaredPurposes
  processingBases := outlines pack.processingBases
  retention := outlines pack.retention
  identityRequirements := pack.identityRequirements.outline
  disclosurePolicy := pack.disclosurePolicy.outline
  approvalPolicies := outlines pack.approvalPolicies
  currencyPolicy := pack.currencyPolicy.outline
  aiProcessingPolicy := pack.aiProcessingPolicy.outline
  clearedCapabilities := pack.clearedCapabilities
  resolutionStrategies := pack.resolutionStrategies
  approvalReference := pack.approvalReference

end PolicyPack

/-! ### Lifecycle -/

/-- The reasons against an activation. -/
def canActivate (pack : PolicyPack) (environment : PolicyEnvironment) : List ActivationDenialReason :=
  Jurisdiction.canActivate pack.outline environment

/-- The reasons against a historical resolution, for which a retired pack is permitted too. -/
def canResolveExplicitVersion (pack : PolicyPack) (environment : PolicyEnvironment) :
    List ActivationDenialReason :=
  if pack.lifecycle ≠ .retired then canActivate pack environment
  else if environment = .local_ then []
  else if Jurisdiction.lacksEvidence pack.outline then
    [.approvalEvidenceMissing
      (s!"retired pack {pack.version} carries no approvalReference — a version that was " ++
        "never approved cannot govern historical records outside local environments")]
  else []

/-! ### Strategies -/

/-- The ids of the registered strategies, each once. -/
structure ResolutionStrategyRegistry where
  ids : List String
  nodup : ids.Nodup

namespace ResolutionStrategyRegistry

def empty : ResolutionStrategyRegistry := ⟨[], List.nodup_nil⟩

def has (registry : ResolutionStrategyRegistry) (id : String) : Bool :=
  registry.ids.contains id

/-- A duplicate id is a defect. -/
def register (registry : ResolutionStrategyRegistry) (id : String) :
    Except String ResolutionStrategyRegistry :=
  if hregistered : id ∈ registry.ids then
    .error s!"resolution strategy '{id}' is registered twice"
  else
    .ok
      { ids := registry.ids ++ [id]
        nodup := List.concat_eq_append ▸ registry.nodup.concat hregistered }

end ResolutionStrategyRegistry

def createResolutionStrategyRegistry (ids : List String) : Except String ResolutionStrategyRegistry :=
  ids.foldlM ResolutionStrategyRegistry.register .empty

def DEFAULT_RESOLUTION_STRATEGIES : ResolutionStrategyRegistry :=
  ⟨Jurisdiction.DEFAULT_RESOLUTION_STRATEGIES, by decide⟩

theorem createResolutionStrategyRegistry_default :
    createResolutionStrategyRegistry Jurisdiction.DEFAULT_RESOLUTION_STRATEGIES =
      .ok DEFAULT_RESOLUTION_STRATEGIES := rfl

/-! ### Validation -/

/-- Absent ids are an empty list. -/
structure PackValidationContext where
  strategies : ResolutionStrategyRegistry := DEFAULT_RESOLUTION_STRATEGIES
  disclosureBearingCapabilityIds : List String := []

def strategyFindings (strategies : ResolutionStrategyRegistry) (pack : PolicyPack)
    (capabilityId : String) : List PackValidationFinding :=
  match pack.resolutionStrategies.lookup capabilityId with
  | none => [Jurisdiction.strategyFindings.missing capabilityId]
  | some strategyId =>
    if isBlank strategyId then [Jurisdiction.strategyFindings.missing capabilityId]
    else if !strategies.has strategyId then
      [.unknownResolutionStrategy capabilityId strategyId
        s!"cleared capability '{capabilityId}' names unregistered strategy '{strategyId}'"]
    else []

def validatePack (context : PackValidationContext) (pack : PolicyPack) :
    List PackValidationFinding :=
  Jurisdiction.headerFindings pack.outline ++
    pack.clearedCapabilities.flatMap (fun capabilityId ↦
      strategyFindings context.strategies pack capabilityId ++
        Jurisdiction.approvalFindings pack.outline context.disclosureBearingCapabilityIds
          capabilityId) ++
    pack.declaredPurposes.flatMap (Jurisdiction.basisFindings pack.outline) ++
    (Jurisdiction.decisionEntries pack.outline).flatMap Jurisdiction.decisionFindings

/-- Under the launch strategies, the validation is the one of the outline. -/
theorem validatePack_default (pack : PolicyPack) (disclosureBearing : List String) :
    validatePack { disclosureBearingCapabilityIds := disclosureBearing } pack =
      Jurisdiction.validatePack pack.outline disclosureBearing := by
  have hstrategies : ∀ capabilityId, strategyFindings DEFAULT_RESOLUTION_STRATEGIES pack capabilityId =
      Jurisdiction.strategyFindings pack.outline capabilityId := fun _ ↦ rfl
  simp only [validatePack, Jurisdiction.validatePack, hstrategies, PolicyPack.outline]

/-! ### The packs of the build -/

/-- 2026-08-16T00:00:00.000Z. -/
def DECLARED_AT : Instant := 1786838400000

def QA_V1 : PolicyPack where
  jurisdiction := "QA"
  version := "qa/v1"
  lifecycle := .draft
  reviewStatus := .pendingLegalReview
  effectiveFrom := DECLARED_AT
  effectiveTo := none
  financialRulesets := []
  consentRequirements :=
    .pendingLegalReview
      ("Which purposes require consent in Qatar, and against which document kinds, is with legal " ++
        "review. Until decided, consent-gated purposes fail closed in the consent module (ADR-0024).")
  declaredPurposes := ["purpose:ai-processing"]
  processingBases :=
    [("purpose:ai-processing",
      .pendingLegalReview
        ("The lawful basis for AI processing under Qatari data-protection law has not been " ++
          "determined. No basis means the purpose fails closed (ADR-0024)."))]
  retention :=
    [("audit-events",
      .pendingLegalReview
        ("The audit-record retention period for Qatar is undecided; the local development " ++
          "placeholder (13 months) lives in policy configuration, never here as a decision.")),
      ("consent-evidence",
        .pendingLegalReview
          "How long consent evidence must outlive the consent under Qatari law is undecided."),
      ("user-profile",
        .pendingLegalReview "Post-closure retention of profile data for Qatar is undecided.")]
  identityRequirements :=
    .pendingLegalReview
      ("Which identity-verification level Qatar requires per capability is undecided; capabilities " ++
        "requiring verified jurisdiction fail closed on UNVERIFIED assignments regardless.")
  disclosurePolicy :=
    .pendingLegalReview
      ("Disclosure obligations and required document kinds for Qatar are undecided. No " ++
        "disclosure-bearing capability is cleared by this pack.")
  approvalPolicies := []
  currencyPolicy :=
    .pendingLegalReview
      ("Which currencies the platform may transact or hold for Qatari subjects is undecided. QAR as " ++
        "the QA country formatting default is reference data, not this decision.")
  aiProcessingPolicy :=
    .pendingLegalReview
      ("Whether and under what conditions AI processing (including any cross-border transfer) is " ++
        "permitted for Qatar is undecided. Pending means denied.")
  clearedCapabilities := []
  resolutionStrategies := []
  subjectPolicyOptions := []
  approvalReference := none

def POLICY_PACKS : List PolicyPack := [QA_V1]

end Karar.JurisdictionPolicy
