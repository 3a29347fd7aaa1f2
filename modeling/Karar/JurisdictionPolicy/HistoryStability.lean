import Karar.JurisdictionPolicy.Resolution

/-!
# Stability of past resolutions

A resolution against a longer list of packs. An explicit version that resolved before resolves to the same
policy, its pack being the first of the version still. A resolution in force at a time is the same where no
added pack covers the time, but for the failure: a jurisdiction that had no pack and now has some has none
in force. A registry with further strategies finds no defect that the first did not find.
-/

namespace Karar.JurisdictionPolicy

open Foundation SharedKernel
open Jurisdiction (PolicyEnvironment)

/-! ### Longer lists of packs -/

section Appended

variable {packs added : List PolicyPack} {pack : PolicyPack} {jurisdiction version : String}
  {at_ : Instant} {environment : PolicyEnvironment} {input : ResolveEffectivePolicyInput}

theorem packsFor_append :
    packsFor (packs ++ added) jurisdiction = packsFor packs jurisdiction ++ packsFor added jurisdiction :=
  List.filter_append ..

theorem explicitPack_append (hselected : explicitPack packs version environment = .ok pack) :
    explicitPack (packs ++ added) version environment = .ok pack := by
  obtain ⟨hfound, hresolves⟩ := explicitPack_eq_ok.mp hselected
  refine explicitPack_eq_ok.mpr ⟨?_, hresolves⟩
  rw [List.find?_append, hfound, Option.some_or]

theorem packInForce_append (houtside : ∀ pack ∈ added, ¬ pack.window.Covers at_) :
    packInForce (packs ++ added) at_ = packInForce packs at_ := by
  have hnone : packInForce added at_ = [] := by
    simpa [packInForce] using houtside
  unfold packInForce at hnone ⊢
  rw [List.filter_append, hnone, List.append_nil]

theorem governingPack_append (houtside : ∀ pack ∈ added, ¬ pack.window.Covers at_) :
    governingPack (packs ++ added) at_ environment = governingPack packs at_ environment := by
  rw [governingPack, governingPack, packInForce_append houtside]

/-- An explicit selection that is found is found in the longer list. -/
theorem selectPack_append_explicit (hselection : input.selection = .explicitVersion version)
    (hselected : selectPack input = .ok pack) :
    selectPack { input with packs := input.packs ++ added } = .ok pack := by
  rw [selectPack_explicit hselection] at hselected
  have hselects : explicitPack (packsFor (input.packs ++ added) input.jurisdiction) version
      input.environment = .ok pack := by
    rw [packsFor_append]
    exact explicitPack_append hselected
  have hlonger : ({ input with packs := input.packs ++ added } : ResolveEffectivePolicyInput).selection =
      .explicitVersion version := hselection
  exact (selectPack_explicit hlonger).mpr hselects

/-- A selection in force is the same where no added pack covers the time, and the jurisdiction had packs. -/
theorem selectPack_append_inForce (hselection : input.selection = .inForce)
    (houtside : ∀ pack ∈ added, ¬ pack.window.Covers input.requestedAt)
    (hlisted : packsFor input.packs input.jurisdiction ≠ []) :
    selectPack { input with packs := input.packs ++ added } = selectPack input := by
  have houtsideFor : ∀ pack ∈ packsFor added input.jurisdiction,
      ¬ pack.window.Covers input.requestedAt :=
    fun pack hpack ↦ houtside pack (mem_packsFor.mp hpack).1
  simp only [selectPack, hselection, packsFor_append, List.append_eq_nil_iff, hlisted, false_and,
    if_false, governingPack_append houtsideFor]

/-- The first packs of a jurisdiction, none of which covers the time. -/
theorem selectPack_append_first (hselection : input.selection = .inForce)
    (houtside : ∀ pack ∈ added, ¬ pack.window.Covers input.requestedAt)
    (hnone : packsFor input.packs input.jurisdiction = [])
    (hadded : packsFor added input.jurisdiction ≠ []) :
    selectPack { input with packs := input.packs ++ added } = .error (.noPackInForce input.requestedAt) := by
  have houtsideFor : ∀ pack ∈ packsFor added input.jurisdiction,
      ¬ pack.window.Covers input.requestedAt :=
    fun pack hpack ↦ houtside pack (mem_packsFor.mp hpack).1
  have hgoverning : governingPack (packsFor added input.jurisdiction) input.requestedAt
      input.environment = .error (.noPackInForce input.requestedAt) := by
    rw [← List.nil_append (packsFor added input.jurisdiction), governingPack_append houtsideFor]
    rfl
  simp only [selectPack, hselection, packsFor_append, hnone, List.nil_append, hadded, if_false,
    hgoverning]

end Appended

/-! ### Further strategies -/

/-- Every strategy of another registry is registered. -/
def ResolutionStrategyRegistry.Extends (extended registry : ResolutionStrategyRegistry) : Prop :=
  ∀ id, registry.has id → extended.has id

section Strategies

variable {registry extended : ResolutionStrategyRegistry} {pack : PolicyPack}

theorem register_extends {id : String} (hregistered : registry.register id = .ok extended) :
    extended.Extends registry := by
  unfold ResolutionStrategyRegistry.register at hregistered
  split_ifs at hregistered
  intro other hother
  rw [← Except.ok.inj hregistered]
  simp only [ResolutionStrategyRegistry.has, List.contains_iff_mem] at hother ⊢
  exact List.mem_append_left _ hother

/-- A registry built from further ids extends the one without them. -/
theorem createResolutionStrategyRegistry_extends {ids further : List String}
    (hregistry : createResolutionStrategyRegistry ids = .ok registry)
    (hextended : createResolutionStrategyRegistry (ids ++ further) = .ok extended) :
    extended.Extends registry := by
  have hrest : further.foldlM ResolutionStrategyRegistry.register registry = .ok extended := by
    unfold createResolutionStrategyRegistry at hregistry hextended
    rw [List.foldlM_append, hregistry] at hextended
    exact hextended
  clear hextended hregistry
  induction further generalizing registry with
  | nil => exact (Except.ok.inj hrest) ▸ fun _ ↦ id
  | cons id further ih =>
    obtain ⟨next, hnext, hlater⟩ := bind_eq_ok hrest
    exact fun other hother ↦ ih hlater other (register_extends hnext other hother)

theorem strategyFindings_extends (hextends : extended.Extends registry) {capabilityId : String}
    (hvalid : strategyFindings registry pack capabilityId = []) :
    strategyFindings extended pack capabilityId = [] := by
  unfold strategyFindings at hvalid ⊢
  split
  case h_1 hmissing => simp [hmissing] at hvalid
  case h_2 strategyId hnamed =>
    simp only [hnamed] at hvalid
    split_ifs at hvalid with hblank hknown
    rw [Bool.not_eq_true, Bool.not_eq_false'] at hknown
    simp [hblank, hextends strategyId hknown]

/-- What is valid under a registry is valid under one that extends it. -/
theorem validatePack_extends (hextends : extended.Extends registry) {disclosureBearing : List String}
    (hvalid : validatePack ⟨registry, disclosureBearing⟩ pack = []) :
    validatePack ⟨extended, disclosureBearing⟩ pack = [] := by
  simp only [validatePack, List.append_eq_nil_iff, List.flatMap_eq_nil_iff] at hvalid ⊢
  obtain ⟨⟨⟨hheader, hcleared⟩, hpurposes⟩, hdecisions⟩ := hvalid
  refine ⟨⟨⟨hheader, fun capabilityId hcapability ↦ ?_⟩, hpurposes⟩, hdecisions⟩
  obtain ⟨hstrategy, happroval⟩ := hcleared capabilityId hcapability
  exact ⟨strategyFindings_extends hextends hstrategy, happroval⟩

end Strategies

/-! ### The law -/

theorem resolveEffectivePolicy_append_explicit {input : ResolveEffectivePolicyInput} {version : String}
    {policy : EffectivePolicy} (added : List PolicyPack)
    (hselection : input.selection = .explicitVersion version)
    (hresolved : resolveEffectivePolicy input = .ok policy) :
    resolveEffectivePolicy { input with packs := input.packs ++ added } = .ok policy := by
  obtain ⟨pack, hselected, -, -⟩ := resolveEffectivePolicy_eq_ok.mp hresolved
  rw [resolveEffectivePolicy_packs, hresolved]
  rw [selectPack_append_explicit hselection hselected, hselected]

theorem resolveEffectivePolicy_strategies {input : ResolveEffectivePolicyInput}
    {extended : ResolutionStrategyRegistry} {policy : EffectivePolicy}
    (hextends : extended.Extends input.strategies)
    (hresolved : resolveEffectivePolicy input = .ok policy) :
    resolveEffectivePolicy { input with strategies := extended } = .ok policy := by
  obtain ⟨pack, hselected, hvalid, rfl⟩ := resolveEffectivePolicy_eq_ok.mp hresolved
  exact resolveEffectivePolicy_eq_ok.mpr ⟨pack, hselected, validatePack_extends hextends hvalid, rfl⟩

/-- What longer lists and longer registries leave as it was. Only the failure of a jurisdiction without a
pack changes, to that of one without a pack in force. -/
theorem history_stable (input : ResolveEffectivePolicyInput) (added : List PolicyPack)
    (extended : ResolutionStrategyRegistry) :
    (∀ version policy, input.selection = .explicitVersion version →
      resolveEffectivePolicy input = .ok policy →
      resolveEffectivePolicy { input with packs := input.packs ++ added } = .ok policy) ∧
    (input.selection = .inForce → (∀ pack ∈ added, ¬ pack.window.Covers input.requestedAt) →
      resolveEffectivePolicy { input with packs := input.packs ++ added } =
        if packsFor input.packs input.jurisdiction = [] ∧ packsFor added input.jurisdiction ≠ [] then
          .error (.noPackInForce input.requestedAt)
        else resolveEffectivePolicy input) ∧
    (extended.Extends input.strategies → ∀ policy, resolveEffectivePolicy input = .ok policy →
      resolveEffectivePolicy { input with strategies := extended } = .ok policy) := by
  refine ⟨fun version policy ↦ resolveEffectivePolicy_append_explicit added, ?_,
    fun hextends policy ↦ resolveEffectivePolicy_strategies hextends⟩
  intro hselection houtside
  split_ifs with hfirst
  · unfold resolveEffectivePolicy
    rw [selectPack_append_first hselection houtside hfirst.1 hfirst.2]
    rfl
  · refine resolveEffectivePolicy_packs ?_
    by_cases hlisted : packsFor input.packs input.jurisdiction = []
    · have hadded : packsFor added input.jurisdiction = [] := by
        by_contra hadded
        exact hfirst ⟨hlisted, hadded⟩
      simp [selectPack, packsFor_append, hlisted, hadded]
    · exact selectPack_append_inForce hselection houtside hlisted

/-- The draft of the build, with a second version that ends before the time asked for, and the launch
strategies with one more. -/
theorem history_stable_draft :
    let input : ResolveEffectivePolicyInput :=
      { jurisdiction := "QA", requestedAt := DECLARED_AT, packs := POLICY_PACKS
        selection := .inForce, environment := .local_ }
    let earlier : PolicyPack :=
      { QA_V1 with version := "qa/v0", effectiveFrom := 0, effectiveTo := some DECLARED_AT }
    let wider : ResolutionStrategyRegistry :=
      ⟨["AT_CREATION", "AT_EVALUATION", "MOST_RESTRICTIVE", "AT_CLOSURE"], by decide⟩
    ∃ policy, resolveEffectivePolicy input = .ok policy ∧
      resolveEffectivePolicy { input with packs := [QA_V1, earlier] } = .ok policy ∧
      resolveEffectivePolicy { input with strategies := wider } = .ok policy ∧
      resolveEffectivePolicy
          { input with packs := [QA_V1, earlier], selection := .explicitVersion "qa/v1" } =
        resolveEffectivePolicy { input with selection := .explicitVersion "qa/v1" } := by
  intro input earlier wider
  have hlisted : packsFor POLICY_PACKS "QA" ≠ [] := by decide
  have hvalid : validatePack {} QA_V1 = [] := by decide
  have hresolved : resolveEffectivePolicy input = .ok (effectivePolicy input QA_V1) :=
    resolveEffectivePolicy_eq_ok.mpr ⟨QA_V1, rfl, hvalid, rfl⟩
  have hexplicit : resolveEffectivePolicy { input with selection := .explicitVersion "qa/v1" } =
      .ok (effectivePolicy { input with selection := .explicitVersion "qa/v1" } QA_V1) :=
    resolveEffectivePolicy_eq_ok.mpr ⟨QA_V1, rfl, hvalid, rfl⟩
  have houtside : ∀ pack ∈ [earlier], ¬ pack.window.Covers DECLARED_AT := by decide
  have hwider : createResolutionStrategyRegistry
      (Jurisdiction.DEFAULT_RESOLUTION_STRATEGIES ++ ["AT_CLOSURE"]) = .ok wider := rfl
  have hextends : wider.Extends DEFAULT_RESOLUTION_STRATEGIES :=
    createResolutionStrategyRegistry_extends createResolutionStrategyRegistry_default hwider
  refine ⟨_, hresolved, ?_, (history_stable input [earlier] wider).2.2 hextends _ hresolved, ?_⟩
  · have hsame := (history_stable input [earlier] wider).2.1 rfl houtside
    rw [if_neg (fun hfirst ↦ hlisted hfirst.1), hresolved] at hsame
    exact hsame
  · rw [hexplicit]
    exact (history_stable { input with selection := .explicitVersion "qa/v1" } [earlier] wider).1
      "qa/v1" _ rfl hexplicit

/-- A jurisdiction that has no pack yet is told of a later one, though it is not in force. -/
theorem inForce_failure_changes :
    let input : ResolveEffectivePolicyInput :=
      { jurisdiction := "QA", requestedAt := 0, packs := [], selection := .inForce
        environment := .local_ }
    (∀ pack ∈ POLICY_PACKS, ¬ pack.window.Covers input.requestedAt) ∧
      resolveEffectivePolicy input = .error (.noPackForJurisdiction "QA") ∧
      resolveEffectivePolicy { input with packs := input.packs ++ POLICY_PACKS } =
        .error (.noPackInForce 0) ∧
      resolveEffectivePolicy { input with packs := input.packs ++ POLICY_PACKS } ≠
        resolveEffectivePolicy input := by
  decide

end Karar.JurisdictionPolicy
