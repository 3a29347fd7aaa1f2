import Karar.JurisdictionPolicy.CeilingSource

/-!
# The policy answers about one principal

The composition root answers four questions from the assignments of a principal and the ledger of
activations: the ceiling of its capabilities, the jurisdiction and the pack of its bootstrap, and the
provenance that a consent grant pins. They name one assignment and one version
(`oneJurisdiction`, `pin_iff_bootstrap`, `ceiling_version`). Only the ceiling asks whether the version
resolves, so that a grant can pin one that the ceiling refuses (`policyAnswers_agree_iff`).
-/

namespace Karar.JurisdictionPolicy

open Foundation SharedKernel
open Jurisdiction (PackLifecycle PolicyEnvironment UserAssignmentPrincipal
  UserJurisdictionAssignment JurisdictionRecord EffectiveJurisdictionState effectiveJurisdictionState
  pickEffectiveAssignment mem_of_pickEffectiveAssignment ActivePackState deriveActivePack)
open Jurisdiction.PackActivation (PackOp PackError LedgerTable GetActivePackVersion.execute)
open Capability (CeilingFacts)

/-! ### The bootstrap -/

inductive JurisdictionResolution
  | state (view : GoverningJurisdiction)
  | unavailable (retryable : Bool)
deriving DecidableEq

/-- `jurisdiction.stateFor`. -/
def stateFor (ports : CeilingPorts) (subject : JurisdictionSubject) : JurisdictionResolution :=
  match governingJurisdictionFor ports subject with
  | .ok governing => .state governing
  | .error _ => .unavailable true

inductive PolicyPackResolution
  | active (version : String) (status : PackLifecycle)
  | none
  | unavailable (retryable : Bool)
deriving DecidableEq

/-- `assignment.jurisdictionId`. -/
def GoverningJurisdiction.code : GoverningJurisdiction → Option String
  | .none => Option.none
  | .unverified code => some code
  | .verified code => some code

/-- What a read of the ledger makes of the pack. A fault of the store is worth a retry. -/
def packResolutionOf : Except String (Except PackError ActivePackState) → PolicyPackResolution
  | .error _ => .unavailable true
  | .ok (.error (.storeFailure _)) => .unavailable true
  | .ok (.error _) => .unavailable false
  | .ok (.ok (.active packVersion packLifecycleAtActivation _)) =>
    .active packVersion packLifecycleAtActivation
  | .ok (.ok .inactive) => .none

/-- `policyPack.statusFor`. -/
def statusFor (ports : CeilingPorts) (environment : PolicyEnvironment)
    (jurisdiction : GoverningJurisdiction) : PolicyPackResolution :=
  match jurisdiction.code with
  | none => .none
  | some code =>
    packResolutionOf ((GetActivePackVersion.execute code environment).run.eval ports.pack)

/-- The two sections of the bootstrap. -/
structure PolicySections where
  jurisdiction : GoverningJurisdiction
  policyPack : Option (String × PackLifecycle)
deriving DecidableEq

structure ResolutionUnavailable where
  message : String
  retryable : Bool
deriving DecidableEq

/-- The sections, as `GetBootstrap` assembles them for a subject. -/
def policySections (ports : CeilingPorts) (environment : PolicyEnvironment)
    (subject : JurisdictionSubject) : Except ResolutionUnavailable PolicySections :=
  match stateFor ports subject with
  | .unavailable retryable => .error ⟨"the governing assignment could not be read", retryable⟩
  | .state jurisdiction =>
    match statusFor ports environment jurisdiction with
    | .unavailable retryable => .error ⟨"the active policy pack could not be read", retryable⟩
    | .active version status => .ok ⟨jurisdiction, some (version, status)⟩
    | .none => .ok ⟨jurisdiction, Option.none⟩

/-! ### The pin of a consent -/

structure ConsentPolicyPin where
  policyPackVersion : String
  subjectPolicySelectionVersion : Option String
deriving DecidableEq

/-- The jurisdiction of the assignment in effect. -/
def assignedCode : EffectiveJurisdictionState → Option String
  | .none => Option.none
  | .unverified assignment => some assignment.jurisdictionCode
  | .verified assignment => some assignment.jurisdictionCode

namespace JurisdictionConsentPinSource

/-- The jurisdiction that the source asks the ledger about. -/
def jurisdictionFor (ports : CeilingPorts) (principal : UserAssignmentPrincipal) :
    Except String (Option String) := do
  let rows ← ports.listForPrincipal principal
  return assignedCode (effectiveJurisdictionState rows ports.now)

/-- No option is elective yet, so that no selection is pinned. -/
def resolvePin (ports : CeilingPorts) (environment : PolicyEnvironment)
    (principal : UserAssignmentPrincipal) : Except String (Option ConsentPolicyPin) := do
  match ← jurisdictionFor ports principal with
  | none => return none
  | some code =>
    match ← (GetActivePackVersion.execute code environment).run.eval ports.pack with
    | .ok (.active packVersion _ _) => return some ⟨packVersion, none⟩
    | _ => return none

end JurisdictionConsentPinSource

/-! ### One state, every consumer -/

/-- What the consumers read, and what they are built with. -/
structure PolicyState where
  assignments : List UserJurisdictionAssignment
  register : List JurisdictionRecord
  ledger : LedgerTable
  packs : List PolicyPack
  environment : PolicyEnvironment
  now : Instant

namespace PolicyState

/-- Every read succeeds. The consumers write nothing. -/
def ports (state : PolicyState) : CeilingPorts where
  listForPrincipal _ := .ok state.assignments
  now := state.now
  pack
    | .findJurisdiction code => .ok (state.register.find? (·.code = code))
    | .listFor code environment => .ok (state.ledger.listFor code environment)
    | _ => .error "not a read"

def query (state : PolicyState) (principal : UserAssignmentPrincipal) : PolicyCeilingQuery where
  tenantId := principal.tenantId
  userId := some principal.userId
  environment := state.environment
  at_ := state.now

variable (state : PolicyState) (principal : UserAssignmentPrincipal)

def ceiling : Except String CeilingFacts :=
  effectivePolicyFor state.packs state.ports (state.query principal)

def jurisdictionSection : JurisdictionResolution :=
  stateFor state.ports ⟨principal.userId, some principal.tenantId⟩

def bootstrap : Except ResolutionUnavailable PolicySections :=
  policySections state.ports state.environment ⟨principal.userId, some principal.tenantId⟩

def pin : Except String (Option ConsentPolicyPin) :=
  JurisdictionConsentPinSource.resolvePin state.ports state.environment principal

/-- The assignment in effect now. -/
def assignment : Option UserJurisdictionAssignment :=
  pickEffectiveAssignment state.assignments state.now

/-- The version that the ledger has active for a jurisdiction of the register. -/
def activeIn (code : String) : Option String :=
  if state.register.any (·.code = code) then
    Jurisdiction.activeVersion (state.ledger.listFor code state.environment)
  else none

end PolicyState

/-! ### The law -/

/-- The jurisdiction that a ceiling names. -/
def ceilingJurisdiction : CeilingFacts → Option String
  | .noAssignment => none
  | .unverifiedAssignment scopeRef => some scopeRef
  | .packNotApproved scopeRef _ => some scopeRef
  | .resolved ceiling => some ceiling.scopeRef

/-- The pack version that a ceiling names. -/
def ceilingVersion : CeilingFacts → Option String
  | .noAssignment => none
  | .unverifiedAssignment _ => none
  | .packNotApproved _ packVersionRef => packVersionRef
  | .resolved ceiling => some ceiling.packVersionRef

/-- The view of an assignment. -/
def GoverningJurisdiction.ofAssignment : Option UserJurisdictionAssignment → GoverningJurisdiction
  | Option.none => .none
  | some assignment =>
    if assignment.verificationStatus = .verified then .verified assignment.jurisdictionCode
    else .unverified assignment.jurisdictionCode

/-- The version of the jurisdiction resolves, when it is asked for as the ceiling asks for it. -/
def PolicyState.Accepts (state : PolicyState) (principal : UserAssignmentPrincipal)
    (code version : String) : Prop :=
  ∃ policy, resolveEffectivePolicy
    (ceilingInput state.packs (state.query principal) code version) = .ok policy

/-- The answers about a principal name one assignment, and one version. -/
structure PolicyState.Agree (state : PolicyState) (principal : UserAssignmentPrincipal) : Prop where
  oneJurisdiction : ∃ governing : Option UserJurisdictionAssignment,
    (∀ assignment ∈ governing, assignment ∈ state.assignments) ∧
      state.jurisdictionSection principal = .state (.ofAssignment governing) ∧
      (∀ sections, state.bootstrap principal = .ok sections →
        sections.jurisdiction = .ofAssignment governing) ∧
      (∀ facts, state.ceiling principal = .ok facts →
        ceilingJurisdiction facts = governing.map (·.jurisdictionCode)) ∧
      JurisdictionConsentPinSource.jurisdictionFor state.ports principal =
        .ok (governing.map (·.jurisdictionCode))
  pin_iff_bootstrap : ∀ version, state.pin principal = .ok (some ⟨version, none⟩) ↔
    ∃ sections status, state.bootstrap principal = .ok sections ∧
      sections.policyPack = some (version, status)
  ceiling_version : ∀ facts version, state.ceiling principal = .ok facts →
    ceilingVersion facts = some version → state.pin principal = .ok (some ⟨version, none⟩)
  pin_accepted : ∀ pinned, state.pin principal = .ok (some pinned) →
    ∃ code, JurisdictionConsentPinSource.jurisdictionFor state.ports principal = .ok (some code) ∧
      state.Accepts principal code pinned.policyPackVersion

/-- The active version of the jurisdiction in effect is a valid pack of the build that resolves in the
environment. -/
def PolicyState.ActiveResolvable (state : PolicyState) : Prop :=
  ∀ assignment version, state.assignment = some assignment →
    state.activeIn assignment.jurisdictionCode = some version →
    ∃ pack, (packsFor state.packs assignment.jurisdictionCode).find? (·.version = version) = some pack ∧
      canResolveExplicitVersion pack state.environment = [] ∧
      validatePack { disclosureBearingCapabilityIds := DISCLOSURE_BEARING_IDS } pack = []

/-! ### What each consumer reads -/

section Reads

variable (state : PolicyState) (principal : UserAssignmentPrincipal)

/-- The ledger is read for a jurisdiction of the register. -/
theorem eval_getActive (code : String) :
    (GetActivePackVersion.execute code state.environment).run.eval state.ports.pack =
      .ok (if state.register.any (·.code = code) then
          .ok (deriveActivePack (state.ledger.listFor code state.environment))
        else .error (.unknownJurisdiction code)) := by
  have hregister : (Jurisdiction.PackActivation.tried (Jurisdiction.PackActivation.port
      (.findJurisdiction code))).run.eval state.ports.pack =
        .ok (.ok (state.register.find? (·.code = code))) :=
    eval_trying _
  rw [GetActivePackVersion.execute, eval_bind_of_ok hregister]
  cases hfind : state.register.find? (·.code = code) with
  | none =>
    have hnone : state.register.any (·.code = code) = false := by
      simpa using hfind
    simp [hnone]
  | some register =>
    have hcode : register.code = code := by simpa using List.find?_some hfind
    have hsome : state.register.any (·.code = code) = true :=
      List.any_eq_true.mpr ⟨register, List.mem_of_find?_eq_some hfind, by simpa using hcode⟩
    have hledger : (Jurisdiction.PackActivation.tried (Jurisdiction.PackActivation.port
        (.listFor register.code state.environment))).run.eval state.ports.pack =
          .ok (.ok (state.ledger.listFor register.code state.environment)) :=
      eval_trying _
    dsimp only
    rw [eval_bind_of_ok hledger, if_pos hsome, hcode]
    rfl

theorem governingJurisdictionFor_eq :
    governingJurisdictionFor state.ports ⟨principal.userId, some principal.tenantId⟩ =
      .ok (.ofAssignment state.assignment) := by
  simp only [governingJurisdictionFor, PolicyState.ports, effectiveJurisdictionState,
    PolicyState.assignment, bind, Except.bind]
  cases pickEffectiveAssignment state.assignments state.now with
  | none => rfl
  | some assignment =>
    by_cases hverified : assignment.verificationStatus = .verified <;>
      simp [GoverningJurisdiction.ofAssignment, hverified, pure, Except.pure]

theorem jurisdictionFor_eq :
    JurisdictionConsentPinSource.jurisdictionFor state.ports principal =
      .ok (state.assignment.map (·.jurisdictionCode)) := by
  simp only [JurisdictionConsentPinSource.jurisdictionFor, PolicyState.ports,
    effectiveJurisdictionState, PolicyState.assignment, bind, Except.bind]
  cases pickEffectiveAssignment state.assignments state.now with
  | none => rfl
  | some assignment =>
    by_cases hverified : assignment.verificationStatus = .verified <;>
      simp [assignedCode, hverified, pure, Except.pure]

/-- The version active for the assignment in effect. -/
def PolicyState.activeVersion (state : PolicyState) : Option String :=
  state.assignment.bind fun assignment ↦ state.activeIn assignment.jurisdictionCode

/-- The pin is the active version. -/
theorem pin_eq : state.pin principal = .ok (state.activeVersion.map (⟨·, none⟩)) := by
  simp only [PolicyState.pin, JurisdictionConsentPinSource.resolvePin, jurisdictionFor_eq,
    PolicyState.activeVersion, bind, Except.bind]
  cases state.assignment with
  | none => rfl
  | some assignment =>
    simp only [Option.map_some, eval_getActive, PolicyState.activeIn, Option.bind_some]
    by_cases hregister : state.register.any (·.code = assignment.jurisdictionCode)
    · simp only [if_pos hregister, Jurisdiction.activeVersion]
      cases deriveActivePack (state.ledger.listFor assignment.jurisdictionCode state.environment) with
      | inactive => rfl
      | active packVersion lifecycle activatedAt => rfl
    · simp only [if_neg hregister]
      rfl

theorem code_ofAssignment (governing : Option UserJurisdictionAssignment) :
    (GoverningJurisdiction.ofAssignment governing).code = governing.map (·.jurisdictionCode) := by
  cases governing with
  | none => rfl
  | some assignment =>
    by_cases hverified : assignment.verificationStatus = .verified <;>
      simp [GoverningJurisdiction.ofAssignment, GoverningJurisdiction.code, hverified]

theorem jurisdictionSection_eq :
    state.jurisdictionSection principal = .state (.ofAssignment state.assignment) := by
  rw [PolicyState.jurisdictionSection, stateFor, governingJurisdictionFor_eq]

theorem bootstrap_eq :
    state.bootstrap principal =
      match statusFor state.ports state.environment (.ofAssignment state.assignment) with
      | .unavailable retryable => .error ⟨"the active policy pack could not be read", retryable⟩
      | .active version status => .ok ⟨.ofAssignment state.assignment, some (version, status)⟩
      | .none => .ok ⟨.ofAssignment state.assignment, none⟩ := by
  have hsection := jurisdictionSection_eq state principal
  rw [PolicyState.jurisdictionSection] at hsection
  rw [PolicyState.bootstrap, policySections, hsection]

theorem jurisdiction_of_bootstrap {sections : PolicySections}
    (h : state.bootstrap principal = .ok sections) :
    sections.jurisdiction = .ofAssignment state.assignment := by
  rw [bootstrap_eq] at h
  split at h
  · cases h
  · rw [← Except.ok.inj h]
  · rw [← Except.ok.inj h]

/-- The section of the pack is active with the active version. -/
theorem statusFor_active_iff (version : String) :
    (∃ status, statusFor state.ports state.environment (.ofAssignment state.assignment) =
        .active version status) ↔ state.activeVersion = some version := by
  rw [statusFor, code_ofAssignment, PolicyState.activeVersion]
  cases state.assignment with
  | none => simp
  | some assignment =>
    simp only [Option.map_some, Option.bind_some, eval_getActive, PolicyState.activeIn]
    by_cases hregister : state.register.any (·.code = assignment.jurisdictionCode)
    · simp only [if_pos hregister, Jurisdiction.activeVersion]
      cases deriveActivePack (state.ledger.listFor assignment.jurisdictionCode state.environment) with
      | inactive => simp [packResolutionOf, ActivePackState.version]
      | active packVersion lifecycle activatedAt =>
        simp [packResolutionOf, ActivePackState.version]
    · simp only [if_neg hregister]
      simp [packResolutionOf]

theorem bootstrap_active_iff (version : String) :
    (∃ sections status, state.bootstrap principal = .ok sections ∧
        sections.policyPack = some (version, status)) ↔ state.activeVersion = some version := by
  rw [← statusFor_active_iff, bootstrap_eq]
  cases statusFor state.ports state.environment (.ofAssignment state.assignment) with
  | active packVersion status => simp
  | none => simp
  | unavailable retryable => simp

/-! ### The ceiling -/

variable {state principal} {facts : CeilingFacts} {code version : String}

/-- A ceiling of a version names the jurisdiction and the version. -/
theorem named_of_ceilingOf {packs : List PolicyPack} {query : PolicyCeilingQuery}
    (h : ceilingOf packs query code version = .ok facts) :
    ceilingJurisdiction facts = some code ∧ ceilingVersion facts = some version := by
  have hresolved : ∀ ceiling, facts = .resolved ceiling →
      ceilingJurisdiction facts = some code ∧ ceilingVersion facts = some version := by
    rintro ceiling rfl
    obtain ⟨pack, -, -, rfl⟩ := ceilingOf_eq_resolved.mp h
    exact ⟨rfl, rfl⟩
  unfold ceilingOf at h
  split at h
  · rw [← Except.ok.inj h]
    exact ⟨rfl, rfl⟩
  · split_ifs at h
    exact hresolved _ (Except.ok.inj h).symm

/-- A ceiling names the assignment in effect, and no version but the active one. -/
theorem named_of_ceiling (h : state.ceiling principal = .ok facts) :
    ceilingJurisdiction facts = state.assignment.map (·.jurisdictionCode) ∧
      ∀ version, ceilingVersion facts = some version → state.activeVersion = some version := by
  rw [PolicyState.ceiling, effectivePolicyFor] at h
  simp only [PolicyState.query, governingJurisdictionFor_eq, bind, Except.bind] at h
  cases hassignment : state.assignment with
  | none =>
    simp only [hassignment, GoverningJurisdiction.ofAssignment] at h
    rw [← Except.ok.inj h]
    exact ⟨rfl, nofun⟩
  | some assignment =>
    by_cases hverified : assignment.verificationStatus = .verified
    · simp only [hassignment, GoverningJurisdiction.ofAssignment, if_pos hverified,
        eval_getActive] at h
      rw [PolicyState.activeVersion, hassignment, Option.bind_some, PolicyState.activeIn]
      by_cases hregister : state.register.any (·.code = assignment.jurisdictionCode)
      · simp only [if_pos hregister] at h ⊢
        rw [Jurisdiction.activeVersion]
        cases hactive : deriveActivePack
            (state.ledger.listFor assignment.jurisdictionCode state.environment) with
        | inactive =>
          simp only [hactive] at h
          rw [← Except.ok.inj h]
          exact ⟨rfl, nofun⟩
        | active packVersion lifecycle activatedAt =>
          simp only [hactive] at h
          obtain ⟨hcode, hversion⟩ := named_of_ceilingOf h
          refine ⟨hcode, fun version hnamed ↦ ?_⟩
          rw [← hnamed, hversion]
          rfl
      · simp only [if_neg hregister] at h
        rw [← Except.ok.inj h]
        exact ⟨rfl, nofun⟩
    · simp only [hassignment, GoverningJurisdiction.ofAssignment, if_neg hverified] at h
      rw [← Except.ok.inj h]
      exact ⟨rfl, nofun⟩

end Reads

/-! ### Agreement -/

section Agreement

variable (state : PolicyState) (principal : UserAssignmentPrincipal)

theorem accepts_iff (code version : String) :
    state.Accepts principal code version ↔
      ∃ pack, (packsFor state.packs code).find? (·.version = version) = some pack ∧
        canResolveExplicitVersion pack state.environment = [] ∧
        validatePack { disclosureBearingCapabilityIds := DISCLOSURE_BEARING_IDS } pack = [] := by
  unfold PolicyState.Accepts
  constructor
  · rintro ⟨policy, hpolicy⟩
    obtain ⟨pack, hselected, hvalid, -⟩ := resolveEffectivePolicy_eq_ok.mp hpolicy
    obtain ⟨hfound, hresolves⟩ := explicitPack_eq_ok.mp ((selectPack_explicit rfl).mp hselected)
    exact ⟨pack, hfound, hresolves, hvalid⟩
  · rintro ⟨pack, hfound, hresolves, hvalid⟩
    refine ⟨_, resolveEffectivePolicy_eq_ok.mpr ⟨pack, (selectPack_explicit rfl).mpr ?_, hvalid, rfl⟩⟩
    exact explicitPack_eq_ok.mpr ⟨hfound, hresolves⟩

theorem pin_eq_some_iff (version : String) :
    state.pin principal = .ok (some ⟨version, none⟩) ↔ state.activeVersion = some version := by
  rw [pin_eq]
  cases state.activeVersion <;> simp

/-- The consumers name the assignment in effect. -/
theorem oneJurisdiction : ∃ governing : Option UserJurisdictionAssignment,
    (∀ assignment ∈ governing, assignment ∈ state.assignments) ∧
      state.jurisdictionSection principal = .state (.ofAssignment governing) ∧
      (∀ sections, state.bootstrap principal = .ok sections →
        sections.jurisdiction = .ofAssignment governing) ∧
      (∀ facts, state.ceiling principal = .ok facts →
        ceilingJurisdiction facts = governing.map (·.jurisdictionCode)) ∧
      JurisdictionConsentPinSource.jurisdictionFor state.ports principal =
        .ok (governing.map (·.jurisdictionCode)) := by
  refine ⟨state.assignment, fun assignment hassignment ↦ ?_, jurisdictionSection_eq state principal,
    fun sections ↦ jurisdiction_of_bootstrap state principal, fun facts hfacts ↦ ?_,
    jurisdictionFor_eq state principal⟩
  · exact (mem_of_pickEffectiveAssignment hassignment).1
  · exact (named_of_ceiling hfacts).1

/-- The answers agree exactly when the version that the ledger has active resolves. -/
theorem policyAnswers_agree_iff : state.Agree principal ↔ state.ActiveResolvable := by
  constructor
  · intro hagree assignment version hassignment hactive
    have hversion : state.activeVersion = some version := by
      rw [PolicyState.activeVersion, hassignment, Option.bind_some, hactive]
    obtain ⟨code, hcode, haccepts⟩ :=
      hagree.pin_accepted ⟨version, none⟩ ((pin_eq_some_iff state principal version).mpr hversion)
    rw [jurisdictionFor_eq, hassignment, Option.map_some] at hcode
    obtain rfl : assignment.jurisdictionCode = code := Option.some.inj (Except.ok.inj hcode)
    exact (accepts_iff state principal _ _).mp haccepts
  · intro hresolvable
    refine ⟨oneJurisdiction state principal, fun version ↦ ?_, fun facts version hfacts hnamed ↦ ?_,
      fun pinned hpinned ↦ ?_⟩
    · rw [pin_eq_some_iff, bootstrap_active_iff]
    · exact (pin_eq_some_iff state principal version).mpr ((named_of_ceiling hfacts).2 version hnamed)
    · rw [pin_eq] at hpinned
      obtain ⟨version, hversion, rfl⟩ := Option.map_eq_some_iff.mp (Except.ok.inj hpinned)
      obtain ⟨assignment, hassignment, hactive⟩ := Option.bind_eq_some_iff.mp hversion
      refine ⟨assignment.jurisdictionCode, ?_,
        (accepts_iff state principal _ _).mpr (hresolvable assignment version hassignment hactive)⟩
      rw [jurisdictionFor_eq, hassignment]
      rfl

end Agreement

/-! ### A version that the build has no more -/

namespace RolledBack

def principal : UserAssignmentPrincipal where
  tenantId := ⟨"22222222-2222-4222-8222-222222222222", isUuid_twos⟩
  userId := ⟨"11111111-1111-4111-8111-111111111111", isUuid_ones⟩

def activation : Jurisdiction.PackActivation.LedgerRow :=
  ⟨{ id := "event", jurisdictionCode := "QA", packVersion := "qa/v2"
     packLifecycleAtActivation := .approved, environment := .staging, action := .activated
     occurredAt := 0, actor := "user:operator", reason := "approved", createdAt := 0 },
    by decide⟩

/-- The ledger has `qa/v2` active, and the packs of the build end with `qa/v1`. -/
def state : PolicyState where
  assignments :=
    [{ id := "assignment", userId := principal.userId, tenantId := principal.tenantId
       jurisdictionCode := "QA", source := .operatorAssigned, verificationStatus := .verified
       effectiveFrom := 0, effectiveTo := none, reason := "contract"
       assignedBy := "user:operator", createdAt := 0 }]
  register := [⟨"QA", .approved, none, none⟩]
  ledger := ⟨[activation], List.nodup_singleton _, List.nodup_singleton _⟩
  packs := POLICY_PACKS
  environment := .staging
  now := DECLARED_AT

/-- The grant pins `qa/v2`, and the ceiling refuses it as not approved. -/
theorem not_agree :
    state.pin principal = .ok (some ⟨"qa/v2", none⟩) ∧
      state.ceiling principal = .ok (.packNotApproved "QA" (some "qa/v2")) ∧
      ¬ state.Agree principal := by
  have hpin : state.pin principal = .ok (some ⟨"qa/v2", none⟩) := by decide
  refine ⟨hpin, by decide, fun hagree ↦ ?_⟩
  obtain ⟨code, hcode, policy, hpolicy⟩ := hagree.pin_accepted _ hpin
  have hasked : JurisdictionConsentPinSource.jurisdictionFor state.ports principal =
      .ok (some "QA") := by decide
  obtain rfl : "QA" = code := Option.some.inj (Except.ok.inj (hasked.symm.trans hcode))
  have hrefused : (resolveEffectivePolicy
      (ceilingInput state.packs (state.query principal) "QA" "qa/v2")).isOk = false := by
    decide
  rw [hpolicy] at hrefused
  cases hrefused

end RolledBack

end Karar.JurisdictionPolicy
