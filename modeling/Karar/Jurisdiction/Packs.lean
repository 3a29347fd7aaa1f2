import Karar.Foundation.KeyedTable
import Karar.SharedKernel.Basic
import Mathlib.Data.List.MinMax

/-!
# Policy packs and their activation ledger

A pack is a value of the build, of which the activation reads the parts that its validation and its
lifecycle predicate check. The ledger has one event for each activation and retirement of a version;
which version is active is derived from the latest one.
-/

namespace Karar.Jurisdiction

open Foundation SharedKernel

inductive PolicyEnvironment
  | local_
  | dev
  | staging
  | production
deriving DecidableEq

def PolicyEnvironment.name : PolicyEnvironment → String
  | .local_ => "local"
  | .dev => "dev"
  | .staging => "staging"
  | .production => "production"

inductive PackLifecycle
  | draft
  | pendingLegalReview
  | approved
  | retired
deriving DecidableEq

def PackLifecycle.name : PackLifecycle → String
  | .draft => "DRAFT"
  | .pendingLegalReview => "PENDING_LEGAL_REVIEW"
  | .approved => "APPROVED"
  | .retired => "RETIRED"

/-- A decision slot, without the decided value. -/
inductive PolicyDecision
  | decided (basis : String)
  | pendingLegalReview
  | unresolved
deriving DecidableEq

structure PolicyPack where
  jurisdiction : String
  version : String
  lifecycle : PackLifecycle
  effectiveFrom : Instant
  effectiveTo : Option Instant
  financialRulesets : List (String × PolicyDecision)
  consentRequirements : PolicyDecision
  declaredPurposes : List String
  processingBases : List (String × PolicyDecision)
  retention : List (String × PolicyDecision)
  identityRequirements : PolicyDecision
  disclosurePolicy : PolicyDecision
  approvalPolicies : List (String × PolicyDecision)
  currencyPolicy : PolicyDecision
  aiProcessingPolicy : PolicyDecision
  clearedCapabilities : List String
  resolutionStrategies : List (String × String)
  /-- `none` is not approved, whatever the lifecycle says. -/
  approvalReference : Option String
deriving DecidableEq

/-- There is no reference, or a blank one. -/
def lacksEvidence (pack : PolicyPack) : Bool :=
  pack.approvalReference.all isBlank

def evidenceMissing (pack : PolicyPack) : String :=
  s!"pack {pack.version} declares lifecycle APPROVED with no approvalReference — " ++
    "absence of evidence means not approved"

/-! ### The lifecycle predicate -/

inductive ActivationDenialReason
  | lifecycleNotActivatable (lifecycle : PackLifecycle) (environment : PolicyEnvironment)
      (message : String)
  | approvalEvidenceMissing (message : String)
deriving DecidableEq

/-- The reasons against an activation; it is allowed where there is none. -/
def canActivate (pack : PolicyPack) (environment : PolicyEnvironment) :
    List ActivationDenialReason :=
  match pack.lifecycle with
  | .retired =>
    [.lifecycleNotActivatable pack.lifecycle environment
      (s!"pack {pack.version} is RETIRED; retired versions resolve historically but are " ++
        "never re-activated")]
  | .approved => if lacksEvidence pack then [.approvalEvidenceMissing (evidenceMissing pack)] else []
  | _ =>
    if environment = .local_ then []
    else
      [.lifecycleNotActivatable pack.lifecycle environment
        (s!"pack {pack.version} is {pack.lifecycle.name} and '{environment.name}' is not a local " ++
          "environment — unapproved packs never activate outside local development and tests")]

/-! ### Validation -/

/-- Each finding has its message, and the kinds with further fields have those. -/
inductive PackValidationFinding
  | missingVersion (message : String)
  | missingJurisdiction (message : String)
  | invalidEffectivePeriod (message : String)
  | approvalEvidenceMissing (message : String)
  | missingResolutionStrategy (capabilityId message : String)
  | unknownResolutionStrategy (capabilityId strategyId message : String)
  | missingApprovalPolicy (capabilityId message : String)
  | missingProcessingBasis (purposeRef message : String)
  | decisionWithoutBasis (where_ message : String)
deriving DecidableEq

/-- The strategies registered at launch. -/
def DEFAULT_RESOLUTION_STRATEGIES : List String :=
  ["AT_CREATION", "AT_EVALUATION", "MOST_RESTRICTIVE"]

def keyed (slot : String) (decisions : List (String × PolicyDecision)) :
    List (String × PolicyDecision) :=
  decisions.map fun (key, decision) ↦ (s!"{slot}['{key}']", decision)

/-- The decision slots, and where they are. -/
def decisionEntries (pack : PolicyPack) : List (String × PolicyDecision) :=
  keyed "financialRulesets" pack.financialRulesets ++
    [("consentRequirements", pack.consentRequirements)] ++
    keyed "processingBases" pack.processingBases ++ keyed "retention" pack.retention ++
    [("identityRequirements", pack.identityRequirements),
      ("disclosurePolicy", pack.disclosurePolicy)] ++
    keyed "approvalPolicies" pack.approvalPolicies ++
    [("currencyPolicy", pack.currencyPolicy), ("aiProcessingPolicy", pack.aiProcessingPolicy)]

def headerFindings (pack : PolicyPack) : List PackValidationFinding :=
  (if isBlank pack.version then [.missingVersion "pack declares no version"] else []) ++
    (if isBlank pack.jurisdiction then [.missingJurisdiction "pack declares no jurisdiction"]
      else []) ++
    (if pack.effectiveTo.any (· ≤ pack.effectiveFrom) then
      [.invalidEffectivePeriod s!"pack {pack.version} effectiveTo is not after effectiveFrom"]
      else []) ++
    (if pack.lifecycle = .approved && lacksEvidence pack then
      [.approvalEvidenceMissing (evidenceMissing pack)] else [])

def strategyFindings (pack : PolicyPack) (capabilityId : String) : List PackValidationFinding :=
  match pack.resolutionStrategies.lookup capabilityId with
  | none => [missing]
  | some strategyId =>
    if isBlank strategyId then [missing]
    else if !DEFAULT_RESOLUTION_STRATEGIES.contains strategyId then
      [.unknownResolutionStrategy capabilityId strategyId
        s!"cleared capability '{capabilityId}' names unregistered strategy '{strategyId}'"]
    else []
where
  missing : PackValidationFinding :=
    .missingResolutionStrategy capabilityId
      (s!"cleared capability '{capabilityId}' names no resolution strategy — no default exists " ++
        "(jurisdiction-policy.md §5)")

def isDecided : PolicyDecision → Bool
  | .decided _ => true
  | _ => false

def approvalFindings (pack : PolicyPack) (disclosureBearing : List String)
    (capabilityId : String) : List PackValidationFinding :=
  if disclosureBearing.contains capabilityId &&
      !(pack.approvalPolicies.lookup capabilityId).any isDecided then
    [.missingApprovalPolicy capabilityId
      (s!"cleared capability '{capabilityId}' is disclosure-bearing and has no DECIDED " ++
        "approval policy — no capability that discharges data exists without an approval workflow")]
  else []

def basisFindings (pack : PolicyPack) (purposeRef : String) : List PackValidationFinding :=
  if (pack.processingBases.lookup purposeRef).isNone then
    [.missingProcessingBasis purposeRef
      (s!"declared purpose '{purposeRef}' has no processing-basis entry — an absent basis fails " ++
        "closed (ADR-0024)")]
  else []

def decisionFindings : String × PolicyDecision → List PackValidationFinding
  | (where_, .decided basis) =>
    if isBlank basis then
      [.decisionWithoutBasis where_
        (s!"{where_} is DECIDED with no basis — a decision without its instrument is an " ++
          "assertion")]
    else []
  | _ => []

def validatePack (pack : PolicyPack) (disclosureBearingCapabilityIds : List String) :
    List PackValidationFinding :=
  headerFindings pack ++
    pack.clearedCapabilities.flatMap (fun capabilityId ↦
      strategyFindings pack capabilityId ++
        approvalFindings pack disclosureBearingCapabilityIds capabilityId) ++
    pack.declaredPurposes.flatMap (basisFindings pack) ++
    (decisionEntries pack).flatMap decisionFindings

/-! ### The ledger -/

inductive ActivationAction
  | activated
  | retired
deriving DecidableEq

structure PackActivationRecord where
  id : String
  jurisdictionCode : String
  packVersion : String
  packLifecycleAtActivation : PackLifecycle
  environment : PolicyEnvironment
  action : ActivationAction
  occurredAt : Instant
  actor : String
  reason : String
  createdAt : Instant
deriving DecidableEq

inductive ActivePackState
  | inactive
  | active (packVersion : String) (packLifecycleAtActivation : PackLifecycle)
      (activatedAt : Instant)
deriving DecidableEq

def ActivePackState.version : ActivePackState → Option String
  | .inactive => none
  | .active packVersion _ _ => some packVersion

/-- The latest event, the first one of those at its instant. -/
def latest (events : List PackActivationRecord) : Option PackActivationRecord :=
  letI : Preorder Instant := Int.instLinearOrder.toPreorder
  events.argmax (·.occurredAt)

def deriveActivePack (events : List PackActivationRecord) : ActivePackState :=
  match latest events with
  | none => .inactive
  | some event =>
    if event.action ≠ .activated then .inactive
    else .active event.packVersion event.packLifecycleAtActivation event.occurredAt

/-- The version that the events make the active one. -/
def activeVersion (events : List PackActivationRecord) : Option String :=
  (deriveActivePack events).version

section Latest

variable {events listed : List PackActivationRecord} {event other record : PackActivationRecord}
  {version : String}

theorem mem_of_latest (hlatest : event ∈ latest events) : event ∈ events :=
  List.argmax_mem hlatest

theorem le_of_latest (hlatest : event ∈ latest events) (hother : other ∈ events) :
    other.occurredAt ≤ event.occurredAt :=
  List.le_of_mem_argmax hother hlatest

theorem latest_eq_none_iff : latest events = none ↔ events = [] :=
  List.argmax_eq_none

theorem activeVersion_eq_some_iff : activeVersion events = some version ↔
    ∃ event ∈ latest events, event.action = .activated ∧ event.packVersion = version := by
  unfold activeVersion deriveActivePack
  cases latest events with
  | none => simp [ActivePackState.version]
  | some event =>
    by_cases haction : event.action = .activated <;> simp [ActivePackState.version, haction]

/-- An event after all the others decides. -/
theorem activeVersion_concat (hlater : ∀ other ∈ events, other.occurredAt < record.occurredAt) :
    activeVersion (events ++ [record]) =
      if record.action = .activated then some record.packVersion else none := by
  have hlatest : latest (events ++ [record]) = some record := by
    unfold latest
    rw [List.argmax_concat]
    cases hbefore : events.argmax (·.occurredAt) with
    | none => rfl
    | some event =>
      have hlt := hlater event (List.argmax_mem hbefore)
      simp [hlt]
  unfold activeVersion deriveActivePack
  rw [hlatest]
  by_cases haction : record.action = .activated <;> simp [ActivePackState.version, haction]

/-- An event before another one changes nothing. -/
theorem activeVersion_concat_of_le (hother : other ∈ events)
    (hle : record.occurredAt ≤ other.occurredAt) :
    activeVersion (events ++ [record]) = activeVersion events := by
  have hlatest : latest (events ++ [record]) = latest events := by
    unfold latest
    rw [List.argmax_concat]
    cases hbefore : events.argmax (·.occurredAt) with
    | none =>
      rw [List.argmax_eq_none.mp hbefore] at hother
      exact absurd hother List.not_mem_nil
    | some event =>
      have hnot := not_lt.mpr (hle.trans (List.le_of_mem_argmax hother hbefore))
      simp [hnot]
  unfold activeVersion deriveActivePack
  rw [hlatest]

end Latest

end Karar.Jurisdiction
