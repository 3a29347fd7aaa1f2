import Karar.JurisdictionPolicy.Resolution

/-!
# Settings only restrict

Two resolutions of one question under two settings, of which one restricts at least as much as the other.
Both go through with the same pack or fail alike (`resolveEffectivePolicy_settings`), the ceiling of the one
is a sublist of that of the other, and an AI mode that the one is left with is the other's. What is neither
ceiling nor AI processing is the pack's own.
-/

namespace Karar.JurisdictionPolicy

open SharedKernel

/-- The settings disable what the others disable, and suspend what the others suspend. -/
structure JurisdictionRuntimeSettings.Restricts (narrower wider : JurisdictionRuntimeSettings) :
    Prop where
  disabled : ∀ capabilityId ∈ wider.disabledCapabilityIds,
    capabilityId ∈ narrower.disabledCapabilityIds
  suspended : wider.aiProcessingSuspended = true → narrower.aiProcessingSuspended = true

/-- The value decided on, where there is one and the settings leave it. -/
def EffectiveDecision.mode {Value : Type} : EffectiveDecision Value → Option Value
  | .ofPack (.decided value _) => some value
  | _ => none

/-- The ceiling of the pack itself, in its order. -/
def clearedCeiling (pack : PolicyPack) : List CapabilityCeilingEntry :=
  pack.clearedCapabilities.map fun capabilityId ↦ ⟨capabilityId, strategyOf pack capabilityId⟩

/-- The fields that the settings do not restrict are the pack's own. -/
structure EffectivePolicy.CarriesOver (policy : EffectivePolicy) (pack : PolicyPack) : Prop where
  jurisdiction : policy.jurisdiction = pack.jurisdiction
  packVersion : policy.packVersion = pack.version
  packLifecycle : policy.packLifecycle = pack.lifecycle
  packReviewStatus : policy.packReviewStatus = pack.reviewStatus
  effectiveFrom : policy.effectiveFrom = pack.effectiveFrom
  effectiveTo : policy.effectiveTo = pack.effectiveTo
  financialRulesets : policy.financialRulesets = pack.financialRulesets
  consentRequirements : policy.consentRequirements = pack.consentRequirements
  processingBases : policy.processingBases = pack.processingBases
  retention : policy.retention = pack.retention
  identityRequirements : policy.identityRequirements = pack.identityRequirements
  disclosurePolicy : policy.disclosurePolicy = pack.disclosurePolicy
  approvalPolicies : policy.approvalPolicies = pack.approvalPolicies
  currencyPolicy : policy.currencyPolicy = pack.currencyPolicy
  subjectPolicyOptions : policy.subjectPolicyOptions = pack.subjectPolicyOptions
  subjectPolicySelectionVersion : policy.subjectPolicySelectionVersion = none
  unresolved : policy.unresolved = collectUnresolved pack
  strategyByCapability : policy.provenance.strategyByCapability = strategyByCapability pack

section Restricted

variable {input : ResolveEffectivePolicyInput} {pack : PolicyPack}
  {narrower wider settings : JurisdictionRuntimeSettings} {policy first second : EffectivePolicy}
  {error : ResolvePolicyError}

theorem carriesOver_effectivePolicy : (effectivePolicy input pack).CarriesOver pack := by
  constructor <;> rfl

theorem capabilityCeiling_sublist (hrestricts : narrower.Restricts wider) :
    (capabilityCeiling pack narrower.disabledCapabilityIds).Sublist
      (capabilityCeiling pack wider.disabledCapabilityIds) := by
  refine List.Sublist.map _ (List.monotone_filter_right _ fun capabilityId henabled ↦ ?_)
  simp only [Bool.not_eq_true', List.contains_eq_mem, decide_eq_false_iff_not] at henabled ⊢
  exact fun hdisabled ↦ henabled (hrestricts.disabled capabilityId hdisabled)

theorem capabilityCeiling_sublist_cleared (disabled : List String) :
    (capabilityCeiling pack disabled).Sublist (clearedCeiling pack) :=
  List.Sublist.map _ List.filter_sublist

theorem mode_aiProcessing {suspended : Bool} {mode : AiProcessingPolicy} :
    (aiProcessing pack suspended).mode = some mode ↔
      suspended = false ∧ ∃ basis, pack.aiProcessingPolicy = .decided mode basis := by
  unfold aiProcessing
  cases suspended <;> cases pack.aiProcessingPolicy <;> simp [EffectiveDecision.mode]

/-- An AI mode that the narrower settings leave is left by the wider ones. -/
theorem mode_of_restricts (hrestricts : narrower.Restricts wider) {mode : AiProcessingPolicy}
    (hmode : (aiProcessing pack narrower.aiProcessingSuspended).mode = some mode) :
    (aiProcessing pack wider.aiProcessingSuspended).mode = some mode := by
  rw [mode_aiProcessing] at hmode ⊢
  refine ⟨?_, hmode.2⟩
  by_contra hsuspended
  rw [Bool.not_eq_false] at hsuspended
  simp [hrestricts.suspended hsuspended] at hmode

/-- Whatever the settings are, the resolution fails alike or goes through with one pack. -/
theorem resolveEffectivePolicy_settings (input : ResolveEffectivePolicyInput) :
    (∃ error, ∀ settings,
        resolveEffectivePolicy { input with settings := settings } = .error error) ∨
      ∃ pack ∈ input.packs, ∀ settings,
        resolveEffectivePolicy { input with settings := settings } =
          .ok (effectivePolicy { input with settings := settings } pack) := by
  have hselect : ∀ settings, selectPack { input with settings := settings } = selectPack input :=
    fun _ ↦ rfl
  cases hselected : selectPack input with
  | error failure =>
    refine Or.inl ⟨failure, fun settings ↦ ?_⟩
    simp only [resolveEffectivePolicy, hselect, hselected, bind, Except.bind]
  | ok pack =>
    by_cases hvalid : validatePack input.context pack = []
    · refine Or.inr ⟨pack, mem_of_selectPack hselected, fun settings ↦ ?_⟩
      exact resolveEffectivePolicy_eq_ok.mpr ⟨pack, (hselect settings).trans hselected, hvalid, rfl⟩
    · refine Or.inl ⟨.packInvalid pack.version (validatePack input.context pack), fun settings ↦ ?_⟩
      exact resolveEffectivePolicy_invalid ((hselect settings).trans hselected) hvalid

/-- The settings are restrict-only. The policy under settings that restrict at least as much as others has
a ceiling that is a sublist of theirs and no AI mode that they do not have, and both have what they have from
one pack. -/
theorem settings_only_restrict (input : ResolveEffectivePolicyInput)
    (wider narrower : JurisdictionRuntimeSettings) (hrestricts : narrower.Restricts wider) :
    (∀ error, resolveEffectivePolicy { input with settings := wider } = .error error ↔
      resolveEffectivePolicy { input with settings := narrower } = .error error) ∧
    ∀ first second, resolveEffectivePolicy { input with settings := wider } = .ok first →
      resolveEffectivePolicy { input with settings := narrower } = .ok second →
      second.capabilityCeiling.Sublist first.capabilityCeiling ∧
        (∀ mode, second.aiProcessing.mode = some mode → first.aiProcessing.mode = some mode) ∧
        ∃ pack ∈ input.packs, first.CarriesOver pack ∧ second.CarriesOver pack ∧
          first.capabilityCeiling.Sublist (clearedCeiling pack) ∧
          ∀ mode, first.aiProcessing.mode = some mode →
            ∃ basis, pack.aiProcessingPolicy = .decided mode basis := by
  rcases resolveEffectivePolicy_settings input with ⟨failure, hfails⟩ | ⟨pack, hpack, hresolves⟩
  · rw [hfails wider, hfails narrower]
    exact ⟨fun error ↦ Iff.rfl, fun first second hfirst ↦ nomatch hfirst⟩
  · rw [hresolves wider, hresolves narrower]
    refine ⟨fun error ↦ ⟨fun hfailed ↦ (nomatch hfailed), fun hfailed ↦ (nomatch hfailed)⟩, ?_⟩
    intro first second hfirst hsecond
    rw [← Except.ok.inj hfirst, ← Except.ok.inj hsecond]
    refine ⟨capabilityCeiling_sublist hrestricts, fun mode ↦ mode_of_restricts hrestricts, pack, hpack,
      carriesOver_effectivePolicy, carriesOver_effectivePolicy,
      capabilityCeiling_sublist_cleared wider.disabledCapabilityIds, fun mode hmode ↦ ?_⟩
    exact (mode_aiProcessing.mp hmode).2

/-- The draft of the build with a cleared capability and a decided AI mode, first without settings, then with
the AI suspended and a capability disabled that it does not clear. -/
theorem settings_only_restrict_suspended :
    let pack : PolicyPack :=
      { QA_V1 with
        clearedCapabilities := ["wallet"]
        resolutionStrategies := [("wallet", "AT_CREATION")]
        aiProcessingPolicy := .decided ⟨true, false, []⟩ "opinion" }
    let input : ResolveEffectivePolicyInput :=
      { jurisdiction := "QA", requestedAt := DECLARED_AT, packs := [pack], selection := .inForce
        environment := .local_ }
    let narrower : JurisdictionRuntimeSettings :=
      { disabledCapabilityIds := ["brokerage"], aiProcessingSuspended := true }
    ∃ first second, resolveEffectivePolicy input = .ok first ∧
      resolveEffectivePolicy { input with settings := narrower } = .ok second ∧
      second.capabilityCeiling.Sublist first.capabilityCeiling ∧
      first.aiProcessing.mode = some ⟨true, false, []⟩ ∧ second.aiProcessing.mode = none := by
  intro pack input narrower
  have hrestricts : narrower.Restricts {} := ⟨by simp, by simp⟩
  have hselected : selectPack input = .ok pack := rfl
  have hvalid : validatePack input.context pack = [] := by decide
  have hfirst : resolveEffectivePolicy input = .ok (effectivePolicy input pack) :=
    resolveEffectivePolicy_eq_ok.mpr ⟨pack, hselected, hvalid, rfl⟩
  have hsecond : resolveEffectivePolicy { input with settings := narrower } =
      .ok (effectivePolicy { input with settings := narrower } pack) :=
    resolveEffectivePolicy_eq_ok.mpr ⟨pack, hselected, hvalid, rfl⟩
  have hlaw := (settings_only_restrict input {} narrower hrestricts).2 _ _ hfirst hsecond
  exact ⟨_, _, hfirst, hsecond, hlaw.1, rfl, rfl⟩

end Restricted

end Karar.JurisdictionPolicy
