import Karar.Capability.Registry
import Karar.Jurisdiction.PackActivation
import Karar.JurisdictionPolicy.Resolution

/-!
# The source of the ceiling

The composition root resolves the ceiling of a subject from its own assignment and from the version that
the ledger has active, which it asks for as an explicit one. An explicit resolution is a historical one: it
permits a retired pack, and it does not read the window of the pack. So the ceiling of a current decision is
that of a pack which governs now, but for these two kinds of packs (`suppliesGoverningPack_iff`).
-/

namespace Karar.JurisdictionPolicy

open Foundation SharedKernel
open Jurisdiction (PolicyEnvironment UserAssignmentPrincipal UserJurisdictionAssignment
  effectiveJurisdictionState)
open Jurisdiction.PackActivation (PackOp GetActivePackVersion.execute)
open Capability (CeilingFacts CAPABILITY_IDS)

/-! ### The governing jurisdiction -/

structure PolicyCeilingQuery where
  tenantId : TenantId
  userId : Option UserId
  environment : PolicyEnvironment
  at_ : Instant
deriving DecidableEq

/-- What the reads of one query answer. A port that fails throws its message. -/
structure CeilingPorts where
  listForPrincipal : UserAssignmentPrincipal → Except String (List UserJurisdictionAssignment)
  now : Instant
  /-- The ports of `GetActivePackVersion`. -/
  pack : (op : PackOp) → Except String op.Value

inductive GoverningJurisdiction
  | none
  | unverified (code : String)
  | verified (code : String)
deriving DecidableEq

structure JurisdictionSubject where
  userId : UserId
  tenantId : Option TenantId
deriving DecidableEq

/-- A subject without a tenant has no governing jurisdiction. -/
def governingJurisdictionFor (ports : CeilingPorts) (subject : JurisdictionSubject) :
    Except String GoverningJurisdiction :=
  match subject.tenantId with
  | Option.none => return .none
  | some tenantId => do
    let rows ← ports.listForPrincipal ⟨tenantId, subject.userId⟩
    match effectiveJurisdictionState rows ports.now with
    | .none => return .none
    | .unverified assignment => return .unverified assignment.jurisdictionCode
    | .verified assignment => return .verified assignment.jurisdictionCode

/-! ### The ceiling -/

def DISCLOSURE_BEARING_IDS : List String :=
  CAPABILITY_IDS.filter (· = "AMANAT")

/-- The question the source asks: what the active version says, as an explicit version. -/
def ceilingInput (packs : List PolicyPack) (query : PolicyCeilingQuery) (scopeRef packVersion : String) :
    ResolveEffectivePolicyInput where
  jurisdiction := scopeRef
  requestedAt := query.at_
  packs := packs
  selection := .explicitVersion packVersion
  environment := query.environment
  disclosureBearingCapabilityIds := DISCLOSURE_BEARING_IDS

def ceilingOf (packs : List PolicyPack) (query : PolicyCeilingQuery) (scopeRef packVersion : String) :
    Except String CeilingFacts :=
  match resolveEffectivePolicy (ceilingInput packs query scopeRef packVersion) with
  | .error _ => return .packNotApproved scopeRef (some packVersion)
  | .ok policy =>
    if policy.capabilityCeiling ≠ [] then
      throw ("the pack clears a capability, but the composition cannot yet derive its full " ++
        "clearance facts; failing closed")
    else return .resolved ⟨scopeRef, true, policy.packVersion, []⟩

def effectivePolicyFor (packs : List PolicyPack) (ports : CeilingPorts) (query : PolicyCeilingQuery) :
    Except String CeilingFacts :=
  match query.userId with
  | none => throw "no principal in context; the governing jurisdiction cannot be resolved"
  | some userId => do
    match ← governingJurisdictionFor ports ⟨userId, some query.tenantId⟩ with
    | .none => return .noAssignment
    | .unverified scopeRef => return .unverifiedAssignment scopeRef
    | .verified scopeRef =>
      match ← (GetActivePackVersion.execute scopeRef query.environment).run.eval ports.pack with
      | .ok (.active packVersion _ _) => ceilingOf packs query scopeRef packVersion
      | _ => return .packNotApproved scopeRef none

/-! ### When a ceiling is resolved -/

/-- The subject has a verified assignment to the jurisdiction now. -/
def GovernedBy (ports : CeilingPorts) (query : PolicyCeilingQuery) (code : String) : Prop :=
  ∃ userId ∈ query.userId, ∃ rows assignment,
    ports.listForPrincipal ⟨query.tenantId, userId⟩ = .ok rows ∧
      effectiveJurisdictionState rows ports.now = .verified assignment ∧
      assignment.jurisdictionCode = code

/-- The ledger has the version active for the jurisdiction in the environment. -/
def HasActive (ports : CeilingPorts) (query : PolicyCeilingQuery) (code version : String) : Prop :=
  ∃ lifecycle activatedAt,
    (GetActivePackVersion.execute code query.environment).run.eval ports.pack =
      .ok (.ok (.active version lifecycle activatedAt))

/-- The pack is the one of the version, is valid, and clears nothing. -/
structure IsVersion (packs : List PolicyPack) (code version : String) (pack : PolicyPack) : Prop where
  found : (packsFor packs code).find? (·.version = version) = some pack
  valid : validatePack { disclosureBearingCapabilityIds := DISCLOSURE_BEARING_IDS } pack = []
  clearsNothing : pack.clearedCapabilities = []

section Resolved

variable {packs : List PolicyPack} {ports : CeilingPorts} {query : PolicyCeilingQuery}
  {code version : String} {ceiling : Capability.ResolvedCeiling} {pack : PolicyPack}

theorem governingJurisdictionFor_eq_verified {userId : UserId} {tenantId : TenantId} :
    governingJurisdictionFor ports ⟨userId, some tenantId⟩ = .ok (.verified code) ↔
      ∃ rows assignment, ports.listForPrincipal ⟨tenantId, userId⟩ = .ok rows ∧
        effectiveJurisdictionState rows ports.now = .verified assignment ∧
        assignment.jurisdictionCode = code := by
  constructor
  · intro hgoverning
    obtain ⟨rows, hrows, hrest⟩ := bind_eq_ok hgoverning
    split at hrest
    case h_1 => cases hrest
    case h_2 => cases hrest
    case h_3 assignment hstate =>
      exact ⟨rows, assignment, hrows, hstate, GoverningJurisdiction.verified.inj (Except.ok.inj hrest)⟩
  · rintro ⟨rows, assignment, hrows, hstate, rfl⟩
    simp only [governingJurisdictionFor, hrows, hstate, bind, Except.bind, pure, Except.pure]

theorem capabilityCeiling_eq_nil_iff :
    capabilityCeiling pack [] = [] ↔ pack.clearedCapabilities = [] := by
  simp [capabilityCeiling]

/-- A ceiling is resolved from a valid pack that resolves historically and clears nothing. -/
theorem ceilingOf_eq_resolved : ceilingOf packs query code version = .ok (.resolved ceiling) ↔
    ∃ pack, IsVersion packs code version pack ∧
      canResolveExplicitVersion pack query.environment = [] ∧
      ceiling = ⟨code, true, version, []⟩ := by
  have hselect : ∀ pack, selectPack (ceilingInput packs query code version) = .ok pack ↔
      explicitPack (packsFor packs code) version query.environment = .ok pack :=
    fun pack ↦ selectPack_explicit rfl
  unfold ceilingOf
  constructor
  · intro hresolved
    cases hpolicy : resolveEffectivePolicy (ceilingInput packs query code version) with
    | error failure => simp [hpolicy, pure, Except.pure] at hresolved
    | ok policy =>
      obtain ⟨pack, hselected, hvalid, rfl⟩ := resolveEffectivePolicy_eq_ok.mp hpolicy
      obtain ⟨hfound, hresolves⟩ := explicitPack_eq_ok.mp ((hselect pack).mp hselected)
      have hversion : pack.version = version := by simpa using List.find?_some hfound
      rw [hpolicy] at hresolved
      dsimp only at hresolved
      split_ifs at hresolved with hclears
      rw [not_not] at hclears
      refine ⟨pack, ⟨hfound, hvalid, capabilityCeiling_eq_nil_iff.mp hclears⟩, hresolves, ?_⟩
      rw [← hversion]
      exact (CeilingFacts.resolved.inj (Except.ok.inj hresolved)).symm
  · rintro ⟨pack, hpack, hresolves, rfl⟩
    have hversion : pack.version = version := by simpa using List.find?_some hpack.found
    have hpolicy : resolveEffectivePolicy (ceilingInput packs query code version) =
        .ok (effectivePolicy (ceilingInput packs query code version) pack) := by
      refine resolveEffectivePolicy_eq_ok.mpr ⟨pack, (hselect pack).mpr ?_, hpack.valid, rfl⟩
      exact explicitPack_eq_ok.mpr ⟨hpack.found, hresolves⟩
    have hclears : (effectivePolicy (ceilingInput packs query code version) pack).capabilityCeiling = [] :=
      capabilityCeiling_eq_nil_iff.mpr hpack.clearsNothing
    rw [hpolicy]
    dsimp only
    rw [if_neg (not_not.mpr hclears), ← hversion]
    rfl

/-- A resolved ceiling is that of the active version of the governing jurisdiction. -/
theorem effectivePolicyFor_eq_resolved :
    effectivePolicyFor packs ports query = .ok (.resolved ceiling) ↔
      ∃ code version, GovernedBy ports query code ∧ HasActive ports query code version ∧
        ceilingOf packs query code version = .ok (.resolved ceiling) := by
  unfold effectivePolicyFor
  constructor
  · intro hresolved
    split at hresolved
    case h_1 => cases hresolved
    case h_2 userId huser =>
      obtain ⟨governing, hgoverning, hrest⟩ := bind_eq_ok hresolved
      split at hrest
      case h_1 => cases hrest
      case h_2 => cases hrest
      case h_3 code =>
        obtain ⟨rows, assignment, hrows, hstate, hcode⟩ :=
          governingJurisdictionFor_eq_verified.mp hgoverning
        obtain ⟨active, hactive, hceiling⟩ := bind_eq_ok hrest
        split at hceiling
        case h_1 version lifecycle activatedAt =>
          exact ⟨code, version, ⟨userId, huser, rows, assignment, hrows, hstate, hcode⟩,
            ⟨lifecycle, activatedAt, hactive⟩, hceiling⟩
        case h_2 => cases hceiling
  · rintro ⟨code, version, ⟨userId, huser, rows, assignment, hrows, hstate, hcode⟩,
      ⟨lifecycle, activatedAt, hactive⟩, hceiling⟩
    have hgoverning : governingJurisdictionFor ports ⟨userId, some query.tenantId⟩ =
        .ok (.verified code) :=
      governingJurisdictionFor_eq_verified.mpr ⟨rows, assignment, hrows, hstate, hcode⟩
    rw [Option.mem_def.mp huser]
    simp only [hgoverning, hactive, bind, Except.bind]
    exact hceiling

end Resolved

/-! ### Whether the pack governs now -/

/-- The lifecycle of the pack may be active in the environment, and its window covers the time. -/
def MayGovern (pack : PolicyPack) (environment : PolicyEnvironment) (at_ : Instant) : Prop :=
  canActivate pack environment = [] ∧ pack.window.Covers at_

/-- A resolved ceiling is supplied by a pack that may govern when it is asked for. -/
def SuppliesGoverningPack (packs : List PolicyPack) (ports : CeilingPorts) (query : PolicyCeilingQuery) :
    Prop :=
  ∀ ceiling, effectivePolicyFor packs ports query = .ok (.resolved ceiling) →
    ∃ pack, (packsFor packs ceiling.scopeRef).find? (·.version = ceiling.packVersionRef) = some pack ∧
      MayGovern pack query.environment query.at_

/-- Of the packs that resolve historically, those that may be activated are the ones not retired. -/
theorem canActivate_iff_of_canResolve {pack : PolicyPack} {environment : PolicyEnvironment}
    (hresolves : canResolveExplicitVersion pack environment = []) :
    canActivate pack environment = [] ↔ pack.lifecycle ≠ .retired := by
  by_cases hretired : pack.lifecycle = .retired
  · simp [canActivate, Jurisdiction.canActivate, PolicyPack.outline, hretired]
  · rw [canResolveExplicitVersion, if_pos hretired] at hresolves
    simp [hresolves, hretired]

/-- A current decision is supplied by a pack that governs, but for an active version of a verified subject
that is retired, with evidence of its approval or locally, or that is asked about outside of its window. -/
theorem suppliesGoverningPack_iff (packs : List PolicyPack) (ports : CeilingPorts)
    (query : PolicyCeilingQuery) :
    SuppliesGoverningPack packs ports query ↔
      ¬ ∃ code version pack, GovernedBy ports query code ∧ HasActive ports query code version ∧
        IsVersion packs code version pack ∧ canResolveExplicitVersion pack query.environment = [] ∧
        (pack.lifecycle = .retired ∨ ¬ pack.window.Covers query.at_) := by
  constructor
  · rintro hsupplies ⟨code, version, pack, hgoverned, hactive, hpack, hresolves, hunfit⟩
    have hresolved := effectivePolicyFor_eq_resolved.mpr ⟨code, version, hgoverned, hactive,
      ceilingOf_eq_resolved.mpr ⟨pack, hpack, hresolves, rfl⟩⟩
    obtain ⟨governing, hfound, hgoverns⟩ := hsupplies _ hresolved
    obtain rfl : pack = governing := Option.some.inj (hpack.found.symm.trans hfound)
    rcases hunfit with hretired | houtside
    · exact (canActivate_iff_of_canResolve hresolves).mp hgoverns.1 hretired
    · exact houtside hgoverns.2
  · intro hfit ceiling hresolved
    obtain ⟨code, version, hgoverned, hactive, hceiling⟩ :=
      effectivePolicyFor_eq_resolved.mp hresolved
    obtain ⟨pack, hpack, hresolves, rfl⟩ := ceilingOf_eq_resolved.mp hceiling
    refine ⟨pack, hpack.found, (canActivate_iff_of_canResolve hresolves).mpr fun hretired ↦ ?_, ?_⟩
    · exact hfit ⟨code, version, pack, hgoverned, hactive, hpack, hresolves, Or.inl hretired⟩
    · by_contra houtside
      exact hfit ⟨code, version, pack, hgoverned, hactive, hpack, hresolves, Or.inr houtside⟩

/-! ### A retired pack -/

namespace StillActive

def query (environment : PolicyEnvironment) (at_ : Instant) : PolicyCeilingQuery where
  tenantId := ⟨"22222222-2222-4222-8222-222222222222", isUuid_twos⟩
  userId := some ⟨"11111111-1111-4111-8111-111111111111", isUuid_ones⟩
  environment := environment
  at_ := at_

/-- The subject is verified for `QA`, where the ledger has `qa/v1` active. -/
def ports (at_ : Instant) : CeilingPorts where
  listForPrincipal principal :=
    .ok
      [{ id := "assignment", userId := principal.userId, tenantId := principal.tenantId
         jurisdictionCode := "QA", source := .operatorAssigned, verificationStatus := .verified
         effectiveFrom := 0, effectiveTo := none, reason := "contract"
         assignedBy := "user:operator", createdAt := 0 }]
  now := at_
  pack
    | .findJurisdiction code => .ok (some ⟨code, .approved, none, none⟩)
    | .listFor code environment =>
      .ok
        [{ id := "event", jurisdictionCode := code, packVersion := "qa/v1"
           packLifecycleAtActivation := .approved, environment := environment, action := .activated
           occurredAt := 0, actor := "user:operator", reason := "approved", createdAt := 0 }]
    | _ => .error "not a read"

def retired : PolicyPack :=
  { QA_V1 with
    lifecycle := .retired
    effectiveTo := some (DECLARED_AT + 1000)
    approvalReference := some "review" }

/-- A pack that has been retired and has ended supplies the ceiling in production. The draft of the build
supplies one locally before its window starts. -/
theorem not_suppliesGoverningPack :
    effectivePolicyFor [retired] (ports (DECLARED_AT + 2000)) (query .production (DECLARED_AT + 2000)) =
        .ok (.resolved ⟨"QA", true, "qa/v1", []⟩) ∧
      ¬ SuppliesGoverningPack [retired] (ports (DECLARED_AT + 2000))
        (query .production (DECLARED_AT + 2000)) ∧
      ¬ SuppliesGoverningPack POLICY_PACKS (ports (DECLARED_AT - 1000))
        (query .local_ (DECLARED_AT - 1000)) := by
  have hretired : effectivePolicyFor [retired] (ports (DECLARED_AT + 2000))
      (query .production (DECLARED_AT + 2000)) = .ok (.resolved ⟨"QA", true, "qa/v1", []⟩) := by
    decide
  have hearly : effectivePolicyFor POLICY_PACKS (ports (DECLARED_AT - 1000))
      (query .local_ (DECLARED_AT - 1000)) = .ok (.resolved ⟨"QA", true, "qa/v1", []⟩) := by
    decide
  refine ⟨hretired, fun hsupplies ↦ ?_, fun hsupplies ↦ ?_⟩
  · obtain ⟨pack, hfound, hgoverns⟩ := hsupplies _ hretired
    obtain rfl : retired = pack := Option.some.inj hfound
    exact absurd hgoverns.1 (by decide)
  · obtain ⟨pack, hfound, hgoverns⟩ := hsupplies _ hearly
    obtain rfl : QA_V1 = pack := Option.some.inj hfound
    exact absurd hgoverns.2 (by decide)

end StillActive

end Karar.JurisdictionPolicy
