import Karar.Capability.Gates
import Karar.Capability.ResolveAvailability

/-!
# What a resolution that ends well has gone through

The resolver returns a set only if every port it has asked has answered. Its resolutions are then those of
the requested capabilities, in their order, and each one is the verdict of the gates on the snapshot that
was fetched for it (`resolved_of_eval`). If every port answers, it returns a set (`exists_set_of_answering`).
-/

namespace Karar.Capability

open Foundation SharedKernel

section Fetched

variable {answers : (op : ResolveOp) → Except String op.Value} {input : ResolveInput}
  {environment id : String} {descriptor : CapabilityDescriptor} {ceiling : CeilingFacts}
  {inputs : GateInputs}

/-- The snapshot as the fetches have put it together. -/
structure Fetched (answers : (op : ResolveOp) → Except String op.Value) (input : ResolveInput)
    (environment id : String) (descriptor : CapabilityDescriptor) (ceiling : CeilingFacts)
    (inputs : GateInputs) : Prop where
  availability :
    answers (.availabilityFor environment ceiling.resolvedScope id) = .ok inputs.availability
  entitlement : (fetchEntitlement input id).run.eval answers = .ok inputs.entitlement
  consent : (fetchConsent input (ceiling.clearedFor id) ceiling.resolvedScope).run.eval answers =
    .ok inputs.consent
  licensing : (fetchLicensing input (ceiling.clearedFor id) ceiling.resolvedScope).run.eval answers =
    .ok inputs.licensing
  providers : (fetchProviders environment (ceiling.clearedFor id)).run.eval answers =
    .ok inputs.providers
  capabilityId : inputs.capabilityId = id
  descriptor : inputs.descriptor = descriptorFactsFor descriptor environment
  environment : inputs.environment = environment
  ceiling : inputs.ceiling = ceiling

theorem fetched_of_eval (heval :
    (snapshotFor input environment id descriptor ceiling).run.eval answers = .ok inputs) :
    Fetched answers input environment id descriptor ceiling inputs := by
  obtain ⟨availability, havailability, heval⟩ := eval_bind_eq_ok heval
  obtain ⟨entitlement, hentitlement, heval⟩ := eval_bind_eq_ok heval
  obtain ⟨consent, hconsent, heval⟩ := eval_bind_eq_ok heval
  obtain ⟨licensing, hlicensing, heval⟩ := eval_bind_eq_ok heval
  obtain ⟨providers, hproviders, heval⟩ := eval_bind_eq_ok heval
  obtain rfl := Except.ok.inj heval
  exact ⟨havailability, hentitlement, hconsent, hlicensing, hproviders, rfl, rfl, rfl, rfl⟩

/-- Without a user there is no entitlement. -/
theorem Fetched.entitlement_eq_none (hfetched : Fetched answers input environment id descriptor ceiling inputs)
    (huser : input.subject.userId = none) : inputs.entitlement = .none := by
  have hentitlement := hfetched.entitlement
  unfold fetchEntitlement at hentitlement
  rw [huser] at hentitlement
  exact (Except.ok.inj hentitlement).symm

end Fetched

/-- Every entry of the second list belongs to one of the first. -/
theorem exists_of_forall₂ {α β : Type} {relation : α → β → Prop} {first : List α} {second : List β}
    (hforall : List.Forall₂ relation first second) {b : β} (hb : b ∈ second) :
    ∃ a ∈ first, relation a b := by
  induction hforall with
  | nil => cases hb
  | cons hhead _ ih =>
    rcases List.mem_cons.mp hb with rfl | hb
    · exact ⟨_, List.mem_cons_self, hhead⟩
    · obtain ⟨a, ha, hrelation⟩ := ih hb
      exact ⟨a, List.mem_cons_of_mem _ ha, hrelation⟩

/-! ### The use case -/

namespace ResolveCapabilityAvailability

section Resolved

variable {answers : (op : ResolveOp) → Except String op.Value} {registry : CapabilityRegistryView}
  {input : ResolveInput} {environment : String} {ceiling : CeilingFacts}

/-- The resolution of a capability, from its snapshot. -/
def ResolvedFrom (answers : (op : ResolveOp) → Except String op.Value)
    (registry : CapabilityRegistryView) (input : ResolveInput) (environment : String)
    (ceiling : CeilingFacts) (id : String) (resolution : CapabilityResolution) : Prop :=
  ∃ descriptor inputs, registry.descriptor id = some descriptor ∧
    Fetched answers input environment id descriptor ceiling inputs ∧
    resolution = resolveCapabilityGates inputs input.now

theorem resolvedFrom_of_resolveEach {ids : List String} {resolutions : List CapabilityResolution}
    (heval : (resolveEach registry environment input ceiling ids).run.eval answers =
      .ok (.ok resolutions)) :
    List.Forall₂ (ResolvedFrom answers registry input environment ceiling) ids resolutions := by
  induction ids generalizing resolutions with
  | nil =>
    obtain rfl := Except.ok.inj (Except.ok.inj heval)
    exact .nil
  | cons id rest ih =>
    unfold resolveEach at heval
    cases hdescriptor : registry.descriptor id with
    | none =>
      rw [hdescriptor] at heval
      cases Except.ok.inj heval
    | some descriptor =>
      rw [hdescriptor] at heval
      obtain ⟨fetched, hfetched, heval⟩ := eval_bind_eq_ok heval
      rw [eval_trying] at hfetched
      cases hsnapshot : (snapshotFor input environment id descriptor ceiling).run.eval answers with
      | error message =>
        rw [hsnapshot] at hfetched
        obtain rfl := Except.ok.inj hfetched
        cases Except.ok.inj heval
      | ok inputs =>
        rw [hsnapshot] at hfetched
        obtain rfl := Except.ok.inj hfetched
        obtain ⟨audited, -, heval⟩ := eval_bind_eq_ok heval
        cases audited with
        | error failure => cases Except.ok.inj heval
        | ok recorded =>
          obtain ⟨later, hlater, heval⟩ := eval_bind_eq_ok heval
          cases later with
          | error failure => cases Except.ok.inj heval
          | ok later =>
            obtain rfl := Except.ok.inj (Except.ok.inj heval)
            exact .cons ⟨descriptor, inputs, hdescriptor, fetched_of_eval hsnapshot, rfl⟩ (ih hlater)

/-- A set that is returned holds the resolutions of the requested capabilities, under the ceiling that was
read. -/
theorem resolved_of_eval {set : CapabilityResolutionSet}
    (heval : (execute registry environment input).run.eval answers = .ok (.ok set)) :
    ∃ ceiling, answers (.effectivePolicyFor (ceilingQuery environment input)) = .ok ceiling ∧
      List.Forall₂ (ResolvedFrom answers registry input environment ceiling) (input.ids registry)
        set.resolutions := by
  unfold execute at heval
  cases hunknown : (input.ids registry).find? (· ∉ registry.ids) with
  | some id =>
    rw [hunknown] at heval
    cases Except.ok.inj heval
  | none =>
    rw [hunknown] at heval
    obtain ⟨fetched, hfetched, heval⟩ := eval_bind_eq_ok heval
    rw [eval_trying] at hfetched
    have hask : (resolvePort (.effectivePolicyFor (ceilingQuery environment input))).run.eval answers =
        answers (.effectivePolicyFor (ceilingQuery environment input)) := rfl
    cases hceiling : answers (.effectivePolicyFor (ceilingQuery environment input)) with
    | error message =>
      rw [hask, hceiling] at hfetched
      obtain rfl := Except.ok.inj hfetched
      cases Except.ok.inj heval
    | ok ceiling =>
      rw [hask, hceiling] at hfetched
      obtain rfl := Except.ok.inj hfetched
      obtain ⟨resolutions, hresolutions, heval⟩ := eval_bind_eq_ok heval
      cases resolutions with
      | error failure => cases Except.ok.inj heval
      | ok resolutions =>
        obtain rfl := Except.ok.inj (Except.ok.inj heval)
        exact ⟨ceiling, rfl, resolvedFrom_of_resolveEach hresolutions⟩

/-- The capabilities of a set are the requested ones. -/
theorem ids_of_eval {set : CapabilityResolutionSet}
    (heval : (execute registry environment input).run.eval answers = .ok (.ok set)) :
    set.resolutions.map (·.capabilityId) = input.ids registry := by
  obtain ⟨ceiling, -, hresolved⟩ := resolved_of_eval heval
  have hids : List.Forall₂ (fun id (resolution : CapabilityResolution) ↦
      id = resolution.capabilityId) (input.ids registry) set.resolutions := by
    refine hresolved.imp fun id resolution hfrom ↦ ?_
    obtain ⟨descriptor, inputs, -, hfetched, rfl⟩ := hfrom
    exact hfetched.capabilityId.symm
  rw [← List.forall₂_map_right_iff (R := Eq), List.forall₂_eq_eq_eq] at hids
  exact hids.symm

end Resolved

/-! ### Ports that answer -/

/-- No port fails, and the trail takes what it is given. -/
structure Answering (answers : (op : ResolveOp) → Except String op.Value) : Prop where
  works : ∀ op, ∃ value, answers op = .ok value
  records : ∀ entry, answers (.record entry) = .ok (.ok ())

section Answering

variable {answers : (op : ResolveOp) → Except String op.Value} {registry : CapabilityRegistryView}
  {input : ResolveInput} {environment : String} {ceiling : CeilingFacts}

theorem exists_statuses (hanswering : Answering answers) (kinds : List String) :
    ∃ statuses, (fetchStatuses environment kinds).run.eval answers = .ok statuses := by
  induction kinds with
  | nil => exact ⟨[], rfl⟩
  | cons kind rest ih =>
    obtain ⟨status, hstatus⟩ := hanswering.works (.providerStatusFor kind environment)
    obtain ⟨later, hlater⟩ := ih
    refine ⟨⟨kind, status⟩ :: later, ?_⟩
    unfold fetchStatuses
    rw [eval_bind_of_ok (show (resolvePort _).run.eval answers = _ from hstatus),
      eval_bind_of_ok hlater]
    rfl

theorem exists_snapshot (hanswering : Answering answers) (input : ResolveInput)
    (environment id : String) (descriptor : CapabilityDescriptor) (ceiling : CeilingFacts) :
    ∃ inputs, (snapshotFor input environment id descriptor ceiling).run.eval answers = .ok inputs := by
  have hport : ∀ op, ∃ value, (resolvePort op).run.eval answers = .ok value := hanswering.works
  obtain ⟨availability, havailability⟩ :=
    hport (.availabilityFor environment ceiling.resolvedScope id)
  have hentitlement : ∃ facts, (fetchEntitlement input id).run.eval answers = .ok facts := by
    unfold fetchEntitlement
    split
    · exact ⟨_, rfl⟩
    · exact hport (.entitlementFor _ _)
  have hconsent : ∃ facts, (fetchConsent input (ceiling.clearedFor id)
      ceiling.resolvedScope).run.eval answers = .ok facts := by
    unfold fetchConsent
    split
    · exact hport (.consentStatusFor _ _ _ _)
    · exact ⟨_, rfl⟩
  have hlicensing : ∃ facts, (fetchLicensing input (ceiling.clearedFor id)
      ceiling.resolvedScope).run.eval answers = .ok facts := by
    unfold fetchLicensing
    split
    · exact hport (.licensingContextFor _ _ _)
    · exact ⟨_, rfl⟩
  have hproviders : ∃ facts, (fetchProviders environment (ceiling.clearedFor id)).run.eval answers =
      .ok facts := by
    unfold fetchProviders
    split
    · exact ⟨_, rfl⟩
    · obtain ⟨statuses, hstatuses⟩ := exists_statuses hanswering _
      exact ⟨.statuses statuses, eval_bind_of_ok hstatuses⟩
  obtain ⟨entitlement, hentitlement⟩ := hentitlement
  obtain ⟨consent, hconsent⟩ := hconsent
  obtain ⟨licensing, hlicensing⟩ := hlicensing
  obtain ⟨providers, hproviders⟩ := hproviders
  unfold snapshotFor
  rw [eval_bind_of_ok havailability, eval_bind_of_ok hentitlement, eval_bind_of_ok hconsent,
    eval_bind_of_ok hlicensing, eval_bind_of_ok hproviders]
  exact ⟨_, rfl⟩

theorem audits (hanswering : Answering answers) (resolution : CapabilityResolution)
    (inputs : GateInputs) :
    (auditAboveCeilingDenial resolution inputs input).run.eval answers = .ok (.ok ()) := by
  unfold auditAboveCeilingDenial
  split
  · rfl
  · split_ifs
    · exact hanswering.records _
    · rfl

theorem exists_resolutions (hanswering : Answering answers) (ceiling : CeilingFacts)
    {ids : List String} (hknown : ∀ id ∈ ids, (registry.descriptor id).isSome = true) :
    ∃ resolutions, (resolveEach registry environment input ceiling ids).run.eval answers =
      .ok (.ok resolutions) := by
  induction ids with
  | nil => exact ⟨[], rfl⟩
  | cons id rest ih =>
    obtain ⟨descriptor, hdescriptor⟩ := Option.isSome_iff_exists.mp (hknown id List.mem_cons_self)
    obtain ⟨later, hlater⟩ := ih fun id hid ↦ hknown id (List.mem_cons_of_mem _ hid)
    obtain ⟨inputs, hinputs⟩ :=
      exists_snapshot hanswering input environment id descriptor ceiling
    refine ⟨resolveCapabilityGates inputs input.now :: later, ?_⟩
    unfold resolveEach
    rw [hdescriptor]
    have hsnapshot : (trying ResolveError.resolutionFailed
        (snapshotFor input environment id descriptor ceiling)).run.eval answers =
          .ok (.ok inputs) := by
      rw [eval_trying, hinputs]
      rfl
    rw [eval_bind_of_ok hsnapshot, eval_bind_of_ok (audits hanswering _ inputs),
      eval_bind_of_ok hlater]
    rfl

/-- Where every port answers, the requested capabilities of the registry are resolved. -/
theorem exists_set_of_answering (hanswering : Answering answers)
    (hknown : ∀ id ∈ input.ids registry,
      id ∈ registry.ids ∧ (registry.descriptor id).isSome = true) :
    ∃ set, (execute registry environment input).run.eval answers = .ok (.ok set) := by
  obtain ⟨ceiling, hceiling⟩ :=
    hanswering.works (.effectivePolicyFor (ceilingQuery environment input))
  obtain ⟨resolutions, hresolutions⟩ :=
    exists_resolutions hanswering ceiling fun id hid ↦ (hknown id hid).2
  have hids : (input.ids registry).find? (· ∉ registry.ids) = none := by
    rw [List.find?_eq_none]
    simpa using fun id hid ↦ (hknown id hid).1
  have hread : (trying ResolveError.resolutionFailed
      (resolvePort (.effectivePolicyFor (ceilingQuery environment input)))).run.eval answers =
        .ok (.ok ceiling) := by
    rw [eval_trying]
    exact congrArg (fun answer : Except String CeilingFacts ↦
      Except.ok (answer.mapError ResolveError.resolutionFailed)) hceiling
  unfold execute
  rw [hids, eval_bind_of_ok hread, eval_bind_of_ok hresolutions]
  exact ⟨_, rfl⟩

end Answering

end ResolveCapabilityAvailability

end Karar.Capability
