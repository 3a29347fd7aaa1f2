import Karar.Capability.Gates

/-!
# Downstream facts only restrict

The first four gates read the descriptor, the availability row and the ceiling. A denial by one of
them is the same whatever the entitlement, the consent, the licences and the providers are. And where
facts are narrowed, by disabled capabilities, a shorter entitlement, a withdrawn consent, licences that
are gone and so on, what is still allowed was allowed before (`restrict_only`).
-/

namespace Karar.Capability

open Foundation SharedKernel

/-! ### The ceiling -/

def GRANT_GATES : List GateName := [.entitlement, .consent, .licence, .provider]

/-- Two snapshots for one capability that agree on its descriptor, on its availability row and on the
ceiling. -/
structure SharesCeiling (first second : GateInputs) : Prop where
  capabilityId : first.capabilityId = second.capabilityId
  descriptor : first.descriptor = second.descriptor
  availability : first.availability = second.availability
  ceiling : first.ceiling = second.ceiling

theorem verdict_of_sharesCeiling {first second : GateInputs} (hshares : SharesCeiling first second)
    (at_ later : Instant) {gate : GateName} (hgate : gate ∈ CEILING_GATES) :
    verdict second later gate = verdict first at_ gate := by
  cases gate with
  | descriptor => simp [verdict, hshares.descriptor]
  | environment => simp [verdict, hshares.availability]
  | jurisdiction => simp [verdict, hshares.capabilityId, hshares.descriptor, hshares.ceiling]
  | availability => simp [verdict, hshares.availability]
  | _ => simp [CEILING_GATES] at hgate

/-- A denial at the ceiling is the same for every snapshot that shares it, at every time. -/
theorem denied_of_sharesCeiling {first second : GateInputs} {at_ later : Instant}
    {gate : GateName} {reason : DenialReason} (hshares : SharesCeiling first second)
    (hgate : gate ∈ CEILING_GATES)
    (hdenied : (resolveCapabilityGates first at_).outcome = .denied gate reason) :
    (resolveCapabilityGates second later).outcome = .denied gate reason := by
  have hsplit : GATES = CEILING_GATES ++ GRANT_GATES := rfl
  rw [denied_iff, hsplit] at hdenied ⊢
  refine firstFailure_of_agree (by decide) ?_ hgate hdenied
  exact fun check hcheck ↦ verdict_of_sharesCeiling hshares at_ later hcheck

/-! ### Narrower facts -/

/-- The ceiling without the entries of disabled capabilities. -/
def ResolvedCeiling.disable (ceiling : ResolvedCeiling) (disabledCapabilityIds : List String) :
    ResolvedCeiling :=
  { ceiling with
    cleared := ceiling.cleared.filter (!disabledCapabilityIds.contains ·.capabilityId) }

structure DescriptorFacts.NarrowsTo (descriptor narrower : DescriptorFacts) : Prop where
  implemented : narrower.implemented = true → descriptor.implemented = true
  deployed : narrower.deployedInEnvironment = true → descriptor.deployedInEnvironment = true
  declared : narrower.declaredScopeRefs ⊆ descriptor.declaredScopeRefs

/-- Capabilities are disabled, or the assignment, the pack or its approval is lost. -/
inductive CeilingFacts.NarrowsTo : CeilingFacts → CeilingFacts → Prop
  | same (ceiling : CeilingFacts) : NarrowsTo ceiling ceiling
  | disable (resolved : ResolvedCeiling) (disabledCapabilityIds : List String) :
    NarrowsTo (.resolved resolved) (.resolved (resolved.disable disabledCapabilityIds))
  | lose (ceiling : CeilingFacts) {narrower : CeilingFacts}
      (hlost : ∀ resolved, narrower ≠ .resolved resolved) : NarrowsTo ceiling narrower

/-- The row is closed, or gone. -/
inductive AvailabilityFacts.NarrowsTo : AvailabilityFacts → AvailabilityFacts → Prop
  | same (availability : AvailabilityFacts) : NarrowsTo availability availability
  | close (availability : AvailabilityFacts) (row : AvailabilityRow)
      (hclosed : isAllowingState row.state = false) : NarrowsTo availability (.row row)
  | lose (availability : AvailabilityFacts) (existsForOtherEnvironment : Bool) :
    NarrowsTo availability (.noRow existsForOtherEnvironment)

/-- The window is shortened, or the entitlement is ended or gone. -/
inductive EntitlementFacts.NarrowsTo : EntitlementFacts → EntitlementFacts → Prop
  | same (entitlement : EntitlementFacts) : NarrowsTo entitlement entitlement
  | shorten (row : EntitlementRow) {narrower : EntitlementRow} (hstatus : narrower.status = row.status)
      (hwindow : narrower.window.Within row.window) : NarrowsTo (.row row) (.row narrower)
  | end_ (entitlement : EntitlementFacts) (row : EntitlementRow) (hended : row.status ≠ .active) :
    NarrowsTo entitlement (.row row)
  | lose (entitlement : EntitlementFacts) : NarrowsTo entitlement .none

/-- The consent is withdrawn, or has to be given again, or its document is gone. -/
inductive ConsentFacts.NarrowsTo : ConsentFacts → ConsentFacts → Prop
  | same (consent : ConsentFacts) : NarrowsTo consent consent
  | withdraw (consent : ConsentFacts) {narrower : ConsentFacts}
      (hnot : narrower ≠ .status .active true) : NarrowsTo consent narrower

/-- Licences are removed, or the entity or its permission is gone. -/
inductive LicensingFacts.NarrowsTo : LicensingFacts → LicensingFacts → Prop
  | same (licensing : LicensingFacts) : NarrowsTo licensing licensing
  | remove (entity : LicensedEntity) (licences : List LicenceFacts)
      (hsubset : licences ⊆ entity.licences) :
    NarrowsTo (.entity entity) (.entity { entity with licences })
  | lose (licensing : LicensingFacts) {narrower : LicensingFacts}
      (hlost : ∀ entity, narrower = .entity entity → entity.permittedInScope = false) :
    NarrowsTo licensing narrower

/-- Providers are not connected any more. -/
inductive ProviderFacts.NarrowsTo : ProviderFacts → ProviderFacts → Prop
  | same (providers : ProviderFacts) : NarrowsTo providers providers
  | disconnect (providers : ProviderFacts) {narrower : ProviderFacts}
      (hconnected : ∀ kind, narrower.Connected kind → providers.Connected kind) :
    NarrowsTo providers narrower

/-- The second snapshot is the first one with narrower facts, in any number of dimensions. -/
structure GateInputs.NarrowsTo (inputs narrower : GateInputs) : Prop where
  capabilityId : narrower.capabilityId = inputs.capabilityId
  descriptor : inputs.descriptor.NarrowsTo narrower.descriptor
  ceiling : inputs.ceiling.NarrowsTo narrower.ceiling
  availability : inputs.availability.NarrowsTo narrower.availability
  entitlement : inputs.entitlement.NarrowsTo narrower.entitlement
  consent : inputs.consent.NarrowsTo narrower.consent
  licensing : inputs.licensing.NarrowsTo narrower.licensing
  providers : inputs.providers.NarrowsTo narrower.providers

section Dimensions

variable {capabilityId : String} {at_ : Instant}

/-- What is cleared with more capabilities disabled is cleared. -/
theorem clearanceOf_disable {ceiling : ResolvedCeiling} {disabledCapabilityIds : List String}
    {cleared : ClearedCapabilityFacts}
    (hcleared : (ceiling.disable disabledCapabilityIds).clearanceOf capabilityId = some cleared) :
    ceiling.clearanceOf capabilityId = some cleared := by
  unfold ResolvedCeiling.clearanceOf ResolvedCeiling.disable at hcleared
  unfold ResolvedCeiling.clearanceOf
  have hid : cleared.capabilityId = capabilityId := by simpa using List.find?_some hcleared
  have hkept := List.mem_of_find?_eq_some hcleared
  -- All entries of the capability are kept, since this one is.
  have hpermitted : capabilityId ∉ disabledCapabilityIds := by
    rw [← hid]
    simpa using (List.mem_filter.mp hkept).2
  rw [List.find?_filter] at hcleared
  rw [← hcleared]
  congr 1
  funext entry
  by_cases hentry : entry.capabilityId = capabilityId <;> simp [hentry, hpermitted]

theorem CeilingFacts.NarrowsTo.clears {ceiling narrower : CeilingFacts}
    (hnarrows : ceiling.NarrowsTo narrower) {declared wider : List String}
    (hdeclared : declared ⊆ wider) {cleared : ClearedCapabilityFacts}
    (hclears : narrower.Clears declared capabilityId cleared) :
    ceiling.Clears wider capabilityId cleared := by
  obtain ⟨resolved, hresolved, hclearance, hscope, hverified⟩ := hclears
  cases hnarrows with
  | same => exact ⟨resolved, hresolved, hclearance, hdeclared hscope, hverified⟩
  | disable ceiling disabledCapabilityIds =>
    obtain rfl := CeilingFacts.resolved.inj hresolved
    exact ⟨ceiling, rfl, clearanceOf_disable hclearance, hdeclared hscope, hverified⟩
  | lose _ hlost => exact absurd hresolved (hlost resolved)

theorem AvailabilityFacts.NarrowsTo.allows {availability narrower : AvailabilityFacts}
    (hnarrows : availability.NarrowsTo narrower) {state : AllowingState}
    (hallows : narrower.Allows state) : availability = narrower := by
  obtain ⟨row, hrow, hstate⟩ := hallows
  cases hnarrows with
  | same => rfl
  | close row hclosed =>
    obtain rfl := AvailabilityFacts.row.inj hrow
    simp [hstate, state.2] at hclosed
  | lose exists_ => cases hrow

theorem EntitlementFacts.NarrowsTo.grants {entitlement narrower : EntitlementFacts}
    (hnarrows : entitlement.NarrowsTo narrower) (hgrants : narrower.Grants at_) :
    entitlement.Grants at_ := by
  cases hnarrows with
  | same => exact hgrants
  | @shorten row narrower hstatus hwindow =>
    obtain ⟨_, hrow, hactive, hcovers⟩ := hgrants
    obtain rfl := EntitlementFacts.row.inj hrow
    exact ⟨row, rfl, hstatus ▸ hactive, hwindow at_ hcovers⟩
  | end_ _ row hended =>
    obtain ⟨_, hrow, hactive, -⟩ := hgrants
    obtain rfl := EntitlementFacts.row.inj hrow
    exact absurd hactive hended
  | lose =>
    obtain ⟨_, hrow, -⟩ := hgrants
    cases hrow

theorem ConsentFacts.NarrowsTo.suffices {consent narrower : ConsentFacts}
    (hnarrows : consent.NarrowsTo narrower) {basis : ProcessingBasisFacts}
    (hsuffices : narrower.Suffices basis) : consent.Suffices basis := by
  cases hnarrows with
  | same => exact hsuffices
  | withdraw hnot =>
    cases basis with
    | declaredBasis basisRef => trivial
    | unresolved => exact hsuffices
    | consent purposeRef => exact absurd hsuffices hnot

theorem LicensingFacts.NarrowsTo.licensed {licensing narrower : LicensingFacts}
    (hnarrows : licensing.NarrowsTo narrower) {typeRef : String}
    (hlicensed : narrower.Licensed typeRef at_) : licensing.Licensed typeRef at_ := by
  obtain ⟨entity, hentity, hpermitted, licence, hlicence, htype, hinForce⟩ := hlicensed
  cases hnarrows with
  | same => exact ⟨entity, hentity, hpermitted, licence, hlicence, htype, hinForce⟩
  | remove whole licences hsubset =>
    obtain rfl := LicensingFacts.entity.inj hentity
    exact ⟨whole, rfl, hpermitted, licence, hsubset hlicence, htype, hinForce⟩
  | lose _ hlost => simp [hlost entity hentity] at hpermitted

theorem ProviderFacts.NarrowsTo.connected {providers narrower : ProviderFacts}
    (hnarrows : providers.NarrowsTo narrower) {kind : String} (hconnected : narrower.Connected kind) :
    providers.Connected kind := by
  cases hnarrows with
  | same => exact hconnected
  | disconnect hkinds => exact hkinds kind hconnected

end Dimensions

/-- What is satisfied by narrower facts is satisfied. -/
theorem satisfied_of_narrowsTo {inputs narrower : GateInputs} {at_ : Instant}
    (hnarrows : inputs.NarrowsTo narrower) (hall : ∀ gate, Satisfied narrower at_ gate) :
    ∀ gate, Satisfied inputs at_ gate := by
  obtain ⟨cleared, hclears⟩ := hall .jurisdiction
  obtain ⟨state, hallows⟩ := hall .availability
  have hid := hnarrows.capabilityId
  have hclearsBefore : inputs.ceiling.Clears inputs.descriptor.declaredScopeRefs
      inputs.capabilityId cleared := by
    rw [hid] at hclears
    exact hnarrows.ceiling.clears hnarrows.descriptor.declared hclears
  have hsame : inputs.availability = narrower.availability := hnarrows.availability.allows hallows
  -- The later gates judge both by the same clearance.
  have hclearance : inputs.clearance = narrower.clearance :=
    (clearance_of_clears hclearsBefore).trans (clearance_of_clears hclears).symm
  intro gate
  have hgate := hall gate
  cases gate with
  | descriptor =>
    exact ⟨hnarrows.descriptor.implemented hgate.1, hnarrows.descriptor.deployed hgate.2⟩
  | environment =>
    show inputs.availability ≠ _
    rw [hsame]
    exact hgate
  | jurisdiction => exact ⟨cleared, hclearsBefore⟩
  | availability => exact ⟨state, hsame ▸ hallows⟩
  | entitlement => exact hnarrows.entitlement.grants hgate
  | consent =>
    intro entry hentry
    exact hnarrows.consent.suffices (hgate entry (hclearance ▸ hentry))
  | licence =>
    intro entry hentry typeRef htypeRef
    exact hnarrows.licensing.licensed (hgate entry (hclearance ▸ hentry) typeRef htypeRef)
  | provider =>
    intro entry hentry kind hkind
    exact hnarrows.providers.connected (hgate entry (hclearance ▸ hentry) kind hkind)

/-- A denial at the ceiling is the same whatever the other facts are, and what narrower facts allow the
wider ones allow. -/
theorem restrict_only (inputs other : GateInputs) (at_ later : Instant) :
    (SharesCeiling inputs other → ∀ gate ∈ CEILING_GATES, ∀ reason,
        (resolveCapabilityGates inputs at_).outcome = .denied gate reason →
        (resolveCapabilityGates other later).outcome = .denied gate reason) ∧
      (inputs.NarrowsTo other →
        (∃ state, (resolveCapabilityGates other at_).outcome = .allowed state) →
        ∃ state, (resolveCapabilityGates inputs at_).outcome = .allowed state) := by
  constructor
  · intro hshares gate hgate reason hdenied
    exact denied_of_sharesCeiling hshares hgate hdenied
  · intro hnarrows hallowed
    rw [allowed_iff_satisfied] at hallowed ⊢
    exact satisfied_of_narrowsTo hnarrows hallowed

/-! ### Two snapshots -/

namespace SnapshotScenario

def clearance : ClearedCapabilityFacts where
  capabilityId := "capability"
  resolutionStrategyRef := "AT_CREATION"
  requiresVerifiedAssignment := true
  processingBasis := .consent "purpose"
  requiredLicenceTypeRefs := ["licence"]
  requiredProviderKinds := []

def ceiling : ResolvedCeiling where
  scopeRef := "scope"
  assignmentVerified := true
  packVersionRef := "pack"
  cleared := [clearance, { clearance with capabilityId := "other" }]

def licence : LicenceFacts := ⟨"licence", .evidenced, some 0, none⟩

def entitlement (effectiveTo : Option Instant) : EntitlementRow :=
  ⟨"entitlement", .active, 0, effectiveTo, 1⟩

def snapshot : GateInputs where
  capabilityId := "capability"
  environment := "production"
  descriptor := ⟨true, true, ["scope"]⟩
  ceiling := .resolved ceiling
  availability := .row ⟨"row", .available, 1⟩
  entitlement := .row (entitlement none)
  consent := .status .active true
  licensing := .entity ⟨"entity", true, [licence, licence]⟩
  providers := .notEvaluated

/-- Another capability is disabled, the entitlement ends, and one licence is gone. -/
def narrower : GateInputs :=
  { snapshot with
    ceiling := .resolved (ceiling.disable ["other"])
    entitlement := .row (entitlement (some 20))
    licensing := .entity ⟨"entity", true, [licence]⟩ }

theorem entitlement_within (ending : Instant) :
    (entitlement (some ending)).window.Within (entitlement none).window := by
  have hopen : (entitlement none).window.ending = none := rfl
  exact Window.within_of_open hopen (some ending)

theorem narrowsTo : snapshot.NarrowsTo narrower where
  capabilityId := rfl
  descriptor := ⟨id, id, List.Subset.refl _⟩
  ceiling := .disable ceiling ["other"]
  availability := .same _
  entitlement := .shorten (entitlement none) rfl (entitlement_within 20)
  consent := .same _
  licensing := .remove ⟨"entity", true, [licence, licence]⟩ [licence] (by simp)
  providers := .same _

/-- The subject has no assignment. -/
def unassigned (entitlement : EntitlementFacts) : GateInputs :=
  { snapshot with ceiling := .noAssignment, entitlement }

theorem sharesCeiling (first second : EntitlementFacts) :
    SharesCeiling (unassigned first) (unassigned second) :=
  ⟨rfl, rfl, rfl, rfl⟩

end SnapshotScenario

open SnapshotScenario in
theorem restrict_only_snapshots :
    (resolveCapabilityGates (unassigned (.row (entitlement none))) 10).outcome =
        .denied .jurisdiction .jurisdictionAbsent ∧
      ∃ state, (resolveCapabilityGates snapshot 10).outcome = .allowed state := by
  constructor
  · refine (restrict_only (unassigned .none) _ 10 10).1 (sharesCeiling _ _) .jurisdiction ?_ _ ?_
    · decide
    · decide
  · exact (restrict_only snapshot narrower 10 10).2 narrowsTo ⟨⟨.available, rfl⟩, by decide⟩

end Karar.Capability
