import Karar.Foundation.Fallible
import Karar.JurisdictionPolicy.PolicyPack

/-!
# Effective policies

A resolution selects a pack, refuses it where its validation finds a defect, and hands on its decisions
with the runtime settings of the jurisdiction, which remove capabilities from the ceiling and suspend the
processing by AI.
-/

namespace Karar.JurisdictionPolicy

open Foundation SharedKernel
open Jurisdiction (PackLifecycle PolicyEnvironment PackValidationFinding ActivationDenialReason)

inductive PackSelection
  | inForce
  | explicitVersion (version : String)
deriving DecidableEq

inductive PackSelection.Kind
  | inForce
  | explicitVersion
deriving DecidableEq

def PackSelection.kind : PackSelection → Kind
  | .inForce => .inForce
  | .explicitVersion _ => .explicitVersion

/-- Settings that are absent disable nothing, suspend nothing and have no version. -/
structure JurisdictionRuntimeSettings where
  disabledCapabilityIds : List String := []
  aiProcessingSuspended : Bool := false
  settingsVersion : Option Nat := none
deriving DecidableEq

structure ResolveEffectivePolicyInput where
  jurisdiction : String
  requestedAt : Instant
  packs : List PolicyPack
  selection : PackSelection
  environment : PolicyEnvironment
  settings : JurisdictionRuntimeSettings := {}
  strategies : ResolutionStrategyRegistry := DEFAULT_RESOLUTION_STRATEGIES
  disclosureBearingCapabilityIds : List String := []

def ResolveEffectivePolicyInput.context (input : ResolveEffectivePolicyInput) : PackValidationContext where
  strategies := input.strategies
  disclosureBearingCapabilityIds := input.disclosureBearingCapabilityIds

/-! ### The answer -/

inductive EffectiveDecision (Value : Type)
  | ofPack (decision : PolicyDecision Value)
  | restrictedBySettings (reason : String)
deriving DecidableEq

structure CapabilityCeilingEntry where
  capabilityId : String
  strategyId : String
deriving DecidableEq

inductive UndecidedState
  | pendingLegalReview
  | unresolved
deriving DecidableEq

structure UnresolvedPolicyReason where
  where_ : String
  state : UndecidedState
  reason : String
deriving DecidableEq

structure EffectivePolicyProvenance where
  jurisdiction : String
  packVersion : String
  packLifecycle : PackLifecycle
  selection : PackSelection.Kind
  environment : PolicyEnvironment
  requestedAt : Instant
  strategyByCapability : List (String × String)
  settingsVersion : Option Nat
deriving DecidableEq

structure EffectivePolicy where
  jurisdiction : String
  packVersion : String
  packLifecycle : PackLifecycle
  packReviewStatus : ReviewStatus
  effectiveFrom : Instant
  effectiveTo : Option Instant
  environment : PolicyEnvironment
  financialRulesets : List (String × PolicyDecision RulesetReference)
  consentRequirements : PolicyDecision (List ConsentRequirement)
  processingBases : List (String × PolicyDecision String)
  retention : List (String × PolicyDecision RetentionPeriod)
  identityRequirements : PolicyDecision (List IdentityRequirement)
  disclosurePolicy : PolicyDecision DisclosurePolicy
  approvalPolicies : List (String × PolicyDecision ApprovalPolicy)
  currencyPolicy : PolicyDecision CurrencyPolicy
  aiProcessing : EffectiveDecision AiProcessingPolicy
  capabilityCeiling : List CapabilityCeilingEntry
  subjectPolicyOptions : List (String × SubjectPolicyOptionSet)
  subjectPolicySelectionVersion : Option String
  unresolved : List UnresolvedPolicyReason
  provenance : EffectivePolicyProvenance
deriving DecidableEq

inductive ResolvePolicyError
  | noPackForJurisdiction (jurisdiction : String)
  | packVersionNotFound (version : String)
  | noPackInForce (requestedAt : Instant)
  | overlappingPacksInForce (versions : List String) (requestedAt : Instant)
  | packNotResolvable (version : String) (environment : PolicyEnvironment)
      (reasons : List ActivationDenialReason)
  | packInvalid (version : String) (findings : List PackValidationFinding)
deriving DecidableEq

/-! ### Decisions that are not made -/

def unresolvedAt {Value : Type} (where_ : String) :
    PolicyDecision Value → List UnresolvedPolicyReason
  | .decided _ _ => []
  | .pendingLegalReview reason => [⟨where_, .pendingLegalReview, reason⟩]
  | .unresolved reason => [⟨where_, .unresolved, reason⟩]

def unresolvedIn {Value : Type} (slot : String) (decisions : List (String × PolicyDecision Value)) :
    List UnresolvedPolicyReason :=
  decisions.flatMap fun (key, decision) ↦ unresolvedAt s!"{slot}['{key}']" decision

def collectUnresolved (pack : PolicyPack) : List UnresolvedPolicyReason :=
  unresolvedIn "financialRulesets" pack.financialRulesets ++
    unresolvedAt "consentRequirements" pack.consentRequirements ++
    unresolvedIn "processingBases" pack.processingBases ++
    unresolvedIn "retention" pack.retention ++
    unresolvedAt "identityRequirements" pack.identityRequirements ++
    unresolvedAt "disclosurePolicy" pack.disclosurePolicy ++
    unresolvedIn "approvalPolicies" pack.approvalPolicies ++
    unresolvedAt "currencyPolicy" pack.currencyPolicy ++
    unresolvedAt "aiProcessingPolicy" pack.aiProcessingPolicy

/-! ### Selection -/

def packsFor (packs : List PolicyPack) (jurisdiction : String) : List PolicyPack :=
  packs.filter (·.jurisdiction = jurisdiction)

def packInForce (packs : List PolicyPack) (at_ : Instant) : List PolicyPack :=
  packs.filter (·.window.Covers at_)

def explicitPack (packs : List PolicyPack) (version : String) (environment : PolicyEnvironment) :
    Except ResolvePolicyError PolicyPack :=
  match packs.find? (·.version = version) with
  | none => .error (.packVersionNotFound version)
  | some found =>
    match canResolveExplicitVersion found environment with
    | [] => .ok found
    | reasons => .error (.packNotResolvable found.version environment reasons)

/-- Overlapping packs are a defect, and none of them is picked. -/
def governingPack (packs : List PolicyPack) (at_ : Instant) (environment : PolicyEnvironment) :
    Except ResolvePolicyError PolicyPack :=
  let covering := packInForce packs at_
  match covering.filter fun candidate ↦ canActivate candidate environment = [] with
  | [] =>
    match covering.find? fun candidate ↦ canActivate candidate environment ≠ [] with
    | some blocked =>
      .error (.packNotResolvable blocked.version environment (canActivate blocked environment))
    | none => .error (.noPackInForce at_)
  | [pack] => .ok pack
  | eligible => .error (.overlappingPacksInForce (eligible.map (·.version)) at_)

def selectPack (input : ResolveEffectivePolicyInput) : Except ResolvePolicyError PolicyPack :=
  let forJurisdiction := packsFor input.packs input.jurisdiction
  if forJurisdiction = [] then .error (.noPackForJurisdiction input.jurisdiction)
  else
    match input.selection with
    | .explicitVersion version => explicitPack forJurisdiction version input.environment
    | .inForce => governingPack forJurisdiction input.requestedAt input.environment

/-! ### The settings -/

/-- A pack that is valid names a strategy for each of its cleared capabilities. -/
def strategyOf (pack : PolicyPack) (capabilityId : String) : String :=
  (pack.resolutionStrategies.lookup capabilityId).getD ""

/-- The ceiling of the pack without the disabled capabilities, in the order of the pack. -/
def capabilityCeiling (pack : PolicyPack) (disabled : List String) : List CapabilityCeilingEntry :=
  (pack.clearedCapabilities.filter (!disabled.contains ·)).map fun capabilityId ↦
    ⟨capabilityId, strategyOf pack capabilityId⟩

def strategyByCapability (pack : PolicyPack) : List (String × String) :=
  pack.clearedCapabilities.eraseDups.map fun capabilityId ↦
    (capabilityId, strategyOf pack capabilityId)

/-- Only a decision is suspended. -/
def aiProcessing (pack : PolicyPack) (aiSuspended : Bool) : EffectiveDecision AiProcessingPolicy :=
  match aiSuspended, pack.aiProcessingPolicy with
  | true, .decided _ _ =>
    .restrictedBySettings
      "AI processing suspended by jurisdiction runtime settings (restrict-only)"
  | _, decision => .ofPack decision

/-! ### The resolution -/

def effectivePolicy (input : ResolveEffectivePolicyInput) (pack : PolicyPack) : EffectivePolicy where
  jurisdiction := pack.jurisdiction
  packVersion := pack.version
  packLifecycle := pack.lifecycle
  packReviewStatus := pack.reviewStatus
  effectiveFrom := pack.effectiveFrom
  effectiveTo := pack.effectiveTo
  environment := input.environment
  financialRulesets := pack.financialRulesets
  consentRequirements := pack.consentRequirements
  processingBases := pack.processingBases
  retention := pack.retention
  identityRequirements := pack.identityRequirements
  disclosurePolicy := pack.disclosurePolicy
  approvalPolicies := pack.approvalPolicies
  currencyPolicy := pack.currencyPolicy
  aiProcessing := aiProcessing pack input.settings.aiProcessingSuspended
  capabilityCeiling := capabilityCeiling pack input.settings.disabledCapabilityIds
  subjectPolicyOptions := pack.subjectPolicyOptions
  subjectPolicySelectionVersion := none
  unresolved := collectUnresolved pack
  provenance :=
    { jurisdiction := pack.jurisdiction
      packVersion := pack.version
      packLifecycle := pack.lifecycle
      selection := input.selection.kind
      environment := input.environment
      requestedAt := input.requestedAt
      strategyByCapability := strategyByCapability pack
      settingsVersion := input.settings.settingsVersion }

def resolveEffectivePolicy (input : ResolveEffectivePolicyInput) :
    Except ResolvePolicyError EffectivePolicy := do
  let pack ← selectPack input
  match validatePack input.context pack with
  | [] => return effectivePolicy input pack
  | findings => throw (.packInvalid pack.version findings)

/-! ### What a selection has found -/

section Selected

variable {packs : List PolicyPack} {pack : PolicyPack} {version : String} {at_ : Instant}
  {environment : PolicyEnvironment} {input : ResolveEffectivePolicyInput} {policy : EffectivePolicy}

theorem mem_packsFor {jurisdiction : String} :
    pack ∈ packsFor packs jurisdiction ↔ pack ∈ packs ∧ pack.jurisdiction = jurisdiction := by
  simp [packsFor]

theorem mem_packInForce : pack ∈ packInForce packs at_ ↔ pack ∈ packs ∧ pack.window.Covers at_ := by
  simp [packInForce]

/-- An explicit selection is the first pack of the version, where it resolves historically. -/
theorem explicitPack_eq_ok : explicitPack packs version environment = .ok pack ↔
    packs.find? (·.version = version) = some pack ∧
      canResolveExplicitVersion pack environment = [] := by
  unfold explicitPack
  cases packs.find? (·.version = version) with
  | none => simp
  | some found =>
    simp only [Option.some.injEq]
    constructor
    · intro hselected
      split at hselected
      case h_1 hresolves => exact Except.ok.inj hselected ▸ ⟨rfl, hresolves⟩
      case h_2 => cases hselected
    · rintro ⟨rfl, hresolves⟩
      simp [hresolves]

theorem selectPack_explicit (hselection : input.selection = .explicitVersion version) :
    selectPack input = .ok pack ↔
      explicitPack (packsFor input.packs input.jurisdiction) version input.environment = .ok pack := by
  by_cases hnone : packsFor input.packs input.jurisdiction = []
  · simp [selectPack, explicitPack, hnone]
  · simp [selectPack, hselection, hnone]

/-- The selection in force is the only pack that covers the time and may be activated. -/
theorem governingPack_eq_ok : governingPack packs at_ environment = .ok pack ↔
    (packInForce packs at_).filter (fun candidate ↦ canActivate candidate environment = []) =
      [pack] := by
  unfold governingPack
  constructor
  · intro hselected
    dsimp only at hselected
    split at hselected
    case h_1 => split at hselected <;> cases hselected
    case h_2 heligible => rw [heligible, Except.ok.inj hselected]
    case h_3 => cases hselected
  · intro heligible
    simp only [heligible]

theorem mem_of_selectPack (hselected : selectPack input = .ok pack) : pack ∈ input.packs := by
  unfold selectPack at hselected
  dsimp only at hselected
  split_ifs at hselected
  split at hselected
  case h_1 version hselection =>
    have hfound := (explicitPack_eq_ok.mp hselected).1
    exact (mem_packsFor.mp (List.mem_of_find?_eq_some hfound)).1
  case h_2 hselection =>
    have hlisted : pack ∈ [pack] := List.mem_singleton_self pack
    rw [← governingPack_eq_ok.mp hselected] at hlisted
    exact (mem_packsFor.mp (mem_packInForce.mp (List.mem_of_mem_filter hlisted)).1).1

/-- A resolution goes through with a pack that is selected and valid. -/
theorem resolveEffectivePolicy_eq_ok : resolveEffectivePolicy input = .ok policy ↔
    ∃ pack, selectPack input = .ok pack ∧ validatePack input.context pack = [] ∧
      policy = effectivePolicy input pack := by
  unfold resolveEffectivePolicy
  constructor
  · intro hresolved
    obtain ⟨pack, hselected, hrest⟩ := bind_eq_ok hresolved
    refine ⟨pack, hselected, ?_⟩
    split at hrest
    case h_1 hvalid => exact ⟨hvalid, (Except.ok.inj hrest).symm⟩
    case h_2 => cases hrest
  · rintro ⟨pack, hselected, hvalid, rfl⟩
    simp only [hselected, hvalid, bind, Except.bind, pure, Except.pure]

theorem resolveEffectivePolicy_invalid (hselected : selectPack input = .ok pack)
    (hinvalid : validatePack input.context pack ≠ []) :
    resolveEffectivePolicy input =
      .error (.packInvalid pack.version (validatePack input.context pack)) := by
  unfold resolveEffectivePolicy
  simp only [hselected, bind, Except.bind]
  rfl

/-- The packs are read by the selection only. -/
theorem resolveEffectivePolicy_packs {other : List PolicyPack}
    (hselected : selectPack { input with packs := other } = selectPack input) :
    resolveEffectivePolicy { input with packs := other } = resolveEffectivePolicy input := by
  unfold resolveEffectivePolicy
  rw [hselected]
  rfl

end Selected

end Karar.JurisdictionPolicy
