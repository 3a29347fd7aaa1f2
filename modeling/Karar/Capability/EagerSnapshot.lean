import Karar.Capability.ResolutionRuns

/-!
# What the resolver does not ask for does not matter

The resolver leaves a dimension of its snapshot unread where it judges that no gate needs it. A snapshot
for which every port was asked (`eagerSnapshot`), with anything at all where a port fails or cannot be
asked, is resolved in the same way: the gates that read the two differently are not reached or ask for
nothing (`resolution_eq_eager`).
-/

namespace Karar.Capability

open Foundation SharedKernel

/-! ### The eager snapshot -/

/-- What a snapshot has where a port fails or cannot be asked. -/
structure Guess where
  availability : AvailabilityFacts
  entitlement : EntitlementFacts
  consent : ConsentFacts
  licensing : LicensingFacts
  provider : String → ConnectionStatus

def answerOr {Facts : Type} (answer : Except String Facts) (guess : Facts) : Facts :=
  match answer with
  | .ok facts => facts
  | .error _ => guess

section Eager

variable (answers : (op : ResolveOp) → Except String op.Value) (input : ResolveInput)
  (environment id : String) (ceiling : CeilingFacts) (guess : Guess)

def eagerEntitlement : EntitlementFacts :=
  match input.subject.userId with
  | some userId =>
    answerOr (answers (.entitlementFor ⟨input.subject.tenantId, userId⟩ id)) guess.entitlement
  | none => guess.entitlement

/-- There is a purpose to ask for only where consent is the basis. -/
def eagerConsent : ConsentFacts :=
  match (ceiling.clearedFor id).bind (·.consentPurpose), ceiling.resolvedScope,
      input.subject.userId with
  | some purposeRef, some scopeRef, some userId =>
    answerOr (answers
      (.consentStatusFor ⟨input.subject.tenantId, userId⟩ purposeRef scopeRef input.now)) guess.consent
  | _, _, _ => guess.consent

def eagerLicensing : LicensingFacts :=
  match ceiling.resolvedScope with
  | some scopeRef =>
    answerOr (answers (.licensingContextFor input.subject scopeRef input.now)) guess.licensing
  | none => guess.licensing

def eagerStatuses (kinds : List String) : List ProviderStatus :=
  kinds.map fun kind ↦
    ⟨kind, answerOr (answers (.providerStatusFor kind environment)) (guess.provider kind)⟩

/-- Every port was asked. -/
def eagerSnapshot (descriptor : CapabilityDescriptor) : GateInputs where
  capabilityId := id
  environment := environment
  descriptor := descriptorFactsFor descriptor environment
  ceiling := ceiling
  availability :=
    answerOr (answers (.availabilityFor environment ceiling.resolvedScope id)) guess.availability
  entitlement := eagerEntitlement answers input id guess
  consent := eagerConsent answers input id ceiling guess
  licensing := eagerLicensing answers input ceiling guess
  providers :=
    .statuses (eagerStatuses answers environment guess
      (((ceiling.clearedFor id).map (·.requiredProviderKinds)).getD []))

end Eager

/-! ### What the gates read -/

/-- Snapshots that agree on the first five dimensions, and on the others as far as the clearance asks for
them once the entitlement is there, are resolved alike. -/
theorem runGates_congr {first second : GateInputs} {at_ : Instant}
    (hid : second.capabilityId = first.capabilityId)
    (hdescriptor : second.descriptor = first.descriptor) (hceiling : second.ceiling = first.ceiling)
    (havailability : second.availability = first.availability)
    (hentitlement : second.entitlement = first.entitlement)
    (hlater : ∀ cleared ∈ first.clearance, first.entitlement.Grants at_ →
      consentGate cleared.processingBasis second.consent =
          consentGate cleared.processingBasis first.consent ∧
        licenceGate cleared.requiredLicenceTypeRefs second.licensing at_ =
          licenceGate cleared.requiredLicenceTypeRefs first.licensing at_ ∧
        providerGate cleared.requiredProviderKinds second.providers =
          providerGate cleared.requiredProviderKinds first.providers) :
    runGates second at_ = runGates first at_ := by
  unfold runGates
  rw [hid, hdescriptor, hceiling, havailability, hentitlement]
  cases hjurisdiction : jurisdictionGate first.capabilityId first.descriptor.declaredScopeRefs
      first.ceiling with
  | error reason => rfl
  | ok cleared =>
    have hcleared : first.clearance = some cleared :=
      clearance_of_clears (jurisdictionGate_eq_ok_iff.mp hjurisdiction)
    cases hgranted : entitlementGate first.entitlement at_ with
    | some reason => rfl
    | none =>
      obtain ⟨hconsent, hlicence, hprovider⟩ :=
        hlater cleared hcleared (entitlementGate_eq_none_iff.mp hgranted)
      simp only [judged, Except.mapError, bind, Except.bind, hconsent, hlicence, hprovider]

/-! ### What the resolver fetches -/

section Fetched

variable {answers : (op : ResolveOp) → Except String op.Value} {input : ResolveInput}
  {environment id : String} {descriptor : CapabilityDescriptor} {ceiling : CeilingFacts}
  {inputs : GateInputs} {guess : Guess}

namespace Fetched

theorem eager_entitlement (hfetched : Fetched answers input environment id descriptor ceiling inputs)
    (hguess : input.subject.userId = none → guess.entitlement = .none) :
    eagerEntitlement answers input id guess = inputs.entitlement := by
  unfold eagerEntitlement
  cases huser : input.subject.userId with
  | none => rw [hfetched.entitlement_eq_none huser, ← hguess huser]
  | some userId =>
    have hentitlement := hfetched.entitlement
    unfold fetchEntitlement at hentitlement
    rw [huser] at hentitlement
    have hanswer : answers (.entitlementFor ⟨input.subject.tenantId, userId⟩ id) =
        .ok inputs.entitlement := hentitlement
    simp [hanswer, answerOr]

/-- A consent gate that is reached reads what the resolver has read. -/
theorem eager_consent (hfetched : Fetched answers input environment id descriptor ceiling inputs)
    {cleared : ClearedCapabilityFacts} (hcleared : ceiling.clearedFor id = some cleared)
    (hscope : ceiling.resolvedScope ≠ none) (huser : input.subject.userId ≠ none) :
    consentGate cleared.processingBasis (eagerConsent answers input id ceiling guess) =
      consentGate cleared.processingBasis inputs.consent := by
  cases hbasis : cleared.processingBasis with
  | declaredBasis basisRef => rfl
  | unresolved => rfl
  | consent purposeRef =>
    obtain ⟨scopeRef, hscope⟩ := Option.ne_none_iff_exists'.mp hscope
    obtain ⟨userId, huser⟩ := Option.ne_none_iff_exists'.mp huser
    have hpurpose : (ceiling.clearedFor id).bind (·.consentPurpose) = some purposeRef := by
      simp [hcleared, ClearedCapabilityFacts.consentPurpose, hbasis]
    have hconsent := hfetched.consent
    unfold fetchConsent at hconsent
    rw [hpurpose, hscope, huser] at hconsent
    have hanswer : answers (.consentStatusFor ⟨input.subject.tenantId, userId⟩ purposeRef scopeRef
        input.now) = .ok inputs.consent := hconsent
    unfold eagerConsent
    rw [hpurpose, hscope, huser]
    simp [hanswer, answerOr]

/-- A licence gate that asks for a licence reads what the resolver has read. -/
theorem eager_licensing (hfetched : Fetched answers input environment id descriptor ceiling inputs)
    {cleared : ClearedCapabilityFacts} (hcleared : ceiling.clearedFor id = some cleared)
    (hscope : ceiling.resolvedScope ≠ none) (at_ : Instant) :
    licenceGate cleared.requiredLicenceTypeRefs (eagerLicensing answers input ceiling guess) at_ =
      licenceGate cleared.requiredLicenceTypeRefs inputs.licensing at_ := by
  by_cases hrequired : cleared.requiredLicenceTypeRefs = []
  · simp [licenceGate, hrequired]
  · obtain ⟨scopeRef, hscope⟩ := Option.ne_none_iff_exists'.mp hscope
    have hrequires : requiresLicence (ceiling.clearedFor id) = true := by
      simp [requiresLicence, hcleared, hrequired]
    have hlicensing := hfetched.licensing
    unfold fetchLicensing at hlicensing
    rw [hrequires, hscope] at hlicensing
    have hanswer : answers (.licensingContextFor input.subject scopeRef input.now) =
        .ok inputs.licensing := hlicensing
    unfold eagerLicensing
    rw [hscope]
    simp [hanswer, answerOr]

end Fetched

/-- The kinds are asked one after another. -/
theorem eval_fetchStatuses {kinds : List String} {statuses : List ProviderStatus}
    (heval : (fetchStatuses environment kinds).run.eval answers = .ok statuses) :
    eagerStatuses answers environment guess kinds = statuses := by
  induction kinds generalizing statuses with
  | nil => exact Except.ok.inj heval
  | cons kind rest ih =>
    obtain ⟨status, hstatus, heval⟩ := eval_bind_eq_ok heval
    obtain ⟨later, hlater, heval⟩ := eval_bind_eq_ok heval
    obtain rfl := Except.ok.inj heval
    have hanswer : answers (.providerStatusFor kind environment) = .ok status := hstatus
    have hrest := ih hlater
    unfold eagerStatuses at hrest ⊢
    rw [List.map_cons, hrest]
    simp [hanswer, answerOr]

/-- A provider gate that asks for a provider reads what the resolver has read. -/
theorem Fetched.eager_providers
    (hfetched : Fetched answers input environment id descriptor ceiling inputs)
    {cleared : ClearedCapabilityFacts} (hcleared : ceiling.clearedFor id = some cleared) :
    providerGate cleared.requiredProviderKinds
        (.statuses (eagerStatuses answers environment guess cleared.requiredProviderKinds)) =
      providerGate cleared.requiredProviderKinds inputs.providers := by
  by_cases hrequired : cleared.requiredProviderKinds = []
  · simp [providerGate, hrequired]
  · obtain ⟨kind, kinds, hkinds⟩ := List.exists_cons_of_ne_nil hrequired
    have hproviders := hfetched.providers
    unfold fetchProviders at hproviders
    rw [hcleared, Option.map_some, Option.getD_some, hkinds] at hproviders
    obtain ⟨statuses, hstatuses, hreturned⟩ := eval_bind_eq_ok hproviders
    rw [hkinds, eval_fetchStatuses hstatuses, ← Except.ok.inj hreturned]

/-- The eager snapshot is resolved as the fetched one is. -/
theorem resolution_eq_eager
    (hfetched : Fetched answers input environment id descriptor ceiling inputs)
    (hguess : input.subject.userId = none → guess.entitlement = .none) :
    resolveCapabilityGates
        (eagerSnapshot answers input environment id ceiling guess descriptor) input.now =
      resolveCapabilityGates inputs input.now := by
  have havailability : answerOr (answers (.availabilityFor environment ceiling.resolvedScope id))
      guess.availability = inputs.availability := by
    rw [hfetched.availability]
    rfl
  have hruns : runGates (eagerSnapshot answers input environment id ceiling guess descriptor)
      input.now = runGates inputs input.now := by
    refine runGates_congr hfetched.capabilityId.symm hfetched.descriptor.symm hfetched.ceiling.symm
      havailability (hfetched.eager_entitlement hguess) fun cleared hcleared hgrants ↦ ?_
    have huser : input.subject.userId ≠ none := by
      intro huser
      obtain ⟨row, hrow, -⟩ := hgrants
      rw [hfetched.entitlement_eq_none huser] at hrow
      cases hrow
    obtain ⟨resolved, hresolved, hentry⟩ : ∃ resolved, ceiling = .resolved resolved ∧
        resolved.clearanceOf id = some cleared := by
      unfold GateInputs.clearance at hcleared
      rw [hfetched.ceiling, hfetched.capabilityId] at hcleared
      split at hcleared
      · exact ⟨_, rfl, hcleared⟩
      · cases hcleared
    have hcleared : ceiling.clearedFor id = some cleared := by
      rw [hresolved]
      exact hentry
    have hscope : ceiling.resolvedScope ≠ none := by
      simp [hresolved, CeilingFacts.resolvedScope]
    refine ⟨hfetched.eager_consent hcleared hscope huser,
      hfetched.eager_licensing hcleared hscope input.now, ?_⟩
    simpa [eagerSnapshot, hcleared] using hfetched.eager_providers hcleared
  have hprovenance : provenanceOf
      (eagerSnapshot answers input environment id ceiling guess descriptor) input.now =
      provenanceOf inputs input.now := by
    simp [provenanceOf, eagerSnapshot, havailability, hfetched.eager_entitlement hguess,
      hfetched.environment, hfetched.ceiling]
  unfold resolveCapabilityGates
  rw [hruns, hprovenance]
  simp [eagerSnapshot, hfetched.capabilityId]

/-- A subject without a user is denied, at the entitlement gate if not before. -/
theorem denied_without_user
    (hfetched : Fetched answers input environment id descriptor ceiling inputs)
    (huser : input.subject.userId = none) :
    ∃ gate reason, (resolveCapabilityGates inputs input.now).outcome = .denied gate reason := by
  cases houtcome : (resolveCapabilityGates inputs input.now).outcome with
  | denied gate reason => exact ⟨gate, reason, rfl⟩
  | allowed state =>
    have hsatisfied := (allowed_iff_satisfied inputs input.now).mp ⟨state, houtcome⟩ .entitlement
    obtain ⟨row, hrow, -⟩ := hsatisfied
    rw [hfetched.entitlement_eq_none huser] at hrow
    cases hrow

end Fetched

/-! ### The resolver -/

namespace ResolveCapabilityAvailability

/-- Every resolution of a set is the verdict of the gates on the eager snapshot for its capability, which
has no entitlement where there is no user. Where there is none, the resolution denies whatever the snapshot
has. And where every port answers, the requested capabilities are resolved. -/
theorem resolves_eagerly (registry : CapabilityRegistryView) (environment : String)
    (answers : (op : ResolveOp) → Except String op.Value) (input : ResolveInput) :
    (∀ set, (execute registry environment input).run.eval answers = .ok (.ok set) →
      ∃ ceiling, answers (.effectivePolicyFor (ceilingQuery environment input)) = .ok ceiling ∧
        set.resolutions.map (·.capabilityId) = input.ids registry ∧
        ∀ resolution ∈ set.resolutions, ∃ descriptor,
          registry.descriptor resolution.capabilityId = some descriptor ∧
          (∀ guess : Guess, (input.subject.userId = none → guess.entitlement = .none) →
            resolution = resolveCapabilityGates
              (eagerSnapshot answers input environment resolution.capabilityId ceiling guess descriptor)
              input.now) ∧
          (input.subject.userId = none →
            ∃ gate reason, resolution.outcome = .denied gate reason)) ∧
    (Answering answers →
      (∀ id ∈ input.ids registry, id ∈ registry.ids ∧ (registry.descriptor id).isSome = true) →
      ∃ set, (execute registry environment input).run.eval answers = .ok (.ok set)) := by
  constructor
  · intro set heval
    obtain ⟨ceiling, hceiling, hresolved⟩ := resolved_of_eval heval
    refine ⟨ceiling, hceiling, ids_of_eval heval, fun resolution hresolution ↦ ?_⟩
    obtain ⟨id, -, descriptor, inputs, hdescriptor, hfetched, rfl⟩ :=
      exists_of_forall₂ hresolved hresolution
    have hid : (resolveCapabilityGates inputs input.now).capabilityId = id := hfetched.capabilityId
    rw [hid]
    exact ⟨descriptor, hdescriptor,
      fun guess hguess ↦ (resolution_eq_eager hfetched hguess).symm, denied_without_user hfetched⟩
  · exact fun hanswering hknown ↦ exists_set_of_answering hanswering hknown

namespace EagerScenario

def descriptor : CapabilityDescriptor where
  id := "capability"
  implementation := .implemented
  deployment := [("production", .deployed)]
  declaredJurisdictions := ["scope"]
  clientExposure := .actionable
  providerPendingExplainable := none

def registry : CapabilityRegistryView := ⟨["capability"], [("capability", descriptor)]⟩

/-- The basis is declared, and neither a licence nor a provider is required. -/
def clearance : ClearedCapabilityFacts where
  capabilityId := "capability"
  resolutionStrategyRef := "AT_CREATION"
  requiresVerifiedAssignment := true
  processingBasis := .declaredBasis "basis"
  requiredLicenceTypeRefs := []
  requiredProviderKinds := []

def answers : (op : ResolveOp) → Except String op.Value
  | .effectivePolicyFor _ => .ok (.resolved ⟨"scope", true, "pack", [clearance]⟩)
  | .availabilityFor _ _ _ => .ok (.row ⟨"row", .available, 1⟩)
  | .entitlementFor _ _ => .ok (.row ⟨"entitlement", .active, 0, none, 1⟩)
  | .consentStatusFor _ _ _ _ => .ok (.status .noGrant false)
  | .licensingContextFor _ _ _ => .ok .noEffectiveEntity
  | .providerStatusFor _ _ => .ok .unavailable
  | .record _ => .ok (.ok ())

def input : ResolveInput := ⟨⟨"tenant", some "user"⟩, 10, none⟩

theorem answering : Answering answers where
  works op := by cases op <;> exact ⟨_, rfl⟩
  records _ := rfl

end EagerScenario

open EagerScenario in
theorem resolves_eagerly_scenario :
    ∃ set, (execute registry "production" input).run.eval answers = .ok (.ok set) ∧
      set.resolutions.map (·.capabilityId) = ["capability"] := by
  have hknown : ∀ id ∈ input.ids registry, id ∈ registry.ids ∧ (registry.descriptor id).isSome = true := by
    decide
  obtain ⟨heager, hreturns⟩ := resolves_eagerly registry "production" answers input
  obtain ⟨set, hset⟩ := hreturns answering hknown
  obtain ⟨ceiling, -, hids, -⟩ := heager set hset
  exact ⟨set, hset, hids⟩

end ResolveCapabilityAvailability

end Karar.Capability
