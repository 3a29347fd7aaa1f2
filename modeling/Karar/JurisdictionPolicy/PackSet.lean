import Karar.JurisdictionPolicy.Resolution

/-!
# Sets of packs

The validation of a set finds the defects of each pack, the versions that appear twice, and the windows
of one jurisdiction that overlap. In a set without findings the packs of one jurisdiction are separate
(`separate_of_valid`), so that at most one of them has a version and at most one covers a time, and a
resolution against the set depends on neither its order nor on anything but that one pack.
-/

namespace Karar.JurisdictionPolicy

open Foundation SharedKernel
open Jurisdiction (PolicyEnvironment PackValidationFinding)

inductive PackSetFinding
  | ofPack (finding : PackValidationFinding)
  | overlappingEffectivePeriods (versionA versionB message : String)
  | duplicateVersion (version message : String)
deriving DecidableEq

/-! ### Validation -/

def versionKey (pack : PolicyPack) : String :=
  s!"{pack.jurisdiction}#{pack.version}"

def duplicateFindings (seenVersions : List String) : List PolicyPack → List PackSetFinding
  | [] => []
  | pack :: packs =>
    (if seenVersions.contains (versionKey pack) then
      [.duplicateVersion pack.version
        s!"pack version '{pack.version}' appears twice for {pack.jurisdiction}"]
      else []) ++
      duplicateFindings (versionKey pack :: seenVersions) packs

/-- Each of two windows starts before the other ends. -/
def overlaps (a b : PolicyPack) : Bool :=
  b.effectiveTo.all (a.effectiveFrom < ·) && a.effectiveTo.all (b.effectiveFrom < ·)

def overlapFinding (a b : PolicyPack) : List PackSetFinding :=
  if a.jurisdiction ≠ b.jurisdiction then []
  else if overlaps a b && a.version ≠ b.version then
    [.overlappingEffectivePeriods a.version b.version
      (s!"packs '{a.version}' and '{b.version}' for {a.jurisdiction} have " ++
        "overlapping effective periods — one instant, one pack in force")]
  else []

def overlapFindings : List PolicyPack → List PackSetFinding
  | [] => []
  | a :: packs => packs.flatMap (overlapFinding a) ++ overlapFindings packs

def validatePackSet (context : PackValidationContext) (packs : List PolicyPack) :
    List PackSetFinding :=
  packs.flatMap (fun pack ↦ (validatePack context pack).map .ofPack) ++
    duplicateFindings [] packs ++ overlapFindings packs

/-! ### Separate packs -/

/-- Two packs of one jurisdiction have different versions, and no time is covered by both. -/
def Separate (a b : PolicyPack) : Prop :=
  a.jurisdiction = b.jurisdiction → a.version ≠ b.version ∧ a.window.Apart b.window

section Separate

variable {packs : List PolicyPack} {context : PackValidationContext} {a b : PolicyPack}

theorem not_mem_of_duplicateFindings_eq_nil {seenVersions : List String}
    (hnone : duplicateFindings seenVersions packs = []) :
    (∀ pack ∈ packs, versionKey pack ∉ seenVersions) ∧
      packs.Pairwise fun a b ↦ versionKey a ≠ versionKey b := by
  induction packs generalizing seenVersions with
  | nil => simp
  | cons pack packs ih =>
    obtain ⟨hpack, hrest⟩ := List.append_eq_nil_iff.mp hnone
    obtain ⟨hunseen, hdistinct⟩ := ih hrest
    have hfresh : versionKey pack ∉ seenVersions := by
      intro hseen
      simp [hseen] at hpack
    refine ⟨fun other hother ↦ ?_, List.pairwise_cons.mpr ⟨fun other hother heq ↦ ?_, hdistinct⟩⟩
    · rcases List.mem_cons.mp hother with rfl | hlater
      · exact hfresh
      · exact fun hseen ↦ hunseen other hlater (List.mem_cons_of_mem _ hseen)
    · exact hunseen other hother (heq ▸ List.mem_cons_self)

theorem pairwise_of_overlapFindings_eq_nil (hnone : overlapFindings packs = []) :
    packs.Pairwise fun a b ↦ overlapFinding a b = [] := by
  induction packs with
  | nil => exact List.Pairwise.nil
  | cons pack packs ih =>
    obtain ⟨hpack, hrest⟩ := List.append_eq_nil_iff.mp hnone
    exact List.pairwise_cons.mpr ⟨List.flatMap_eq_nil_iff.mp hpack, ih hrest⟩

theorem endsBy_of_all_eq_false (hends : b.effectiveTo.all (a.effectiveFrom < ·) = false) :
    b.window.EndsBy a.window.start := by
  cases hending : b.effectiveTo with
  | none => simp [hending] at hends
  | some ending =>
    have hle : ending ≤ a.effectiveFrom := by
      simpa [hending] using hends
    exact ⟨ending, hending, hle⟩

/-- Windows that do not overlap are apart, one of them having ended when the other starts. -/
theorem apart_of_not_overlaps (hnone : overlaps a b = false) : a.window.Apart b.window := by
  rw [overlaps, Bool.and_eq_false_iff] at hnone
  rcases hnone with hends | hends
  · exact (Window.apart_of_endsBy (endsBy_of_all_eq_false hends)).symm
  · exact Window.apart_of_endsBy (endsBy_of_all_eq_false hends)

theorem separate_of_findings_eq_nil (hkeys : versionKey a ≠ versionKey b)
    (hoverlap : overlapFinding a b = []) : Separate a b := by
  intro hjurisdiction
  have hversions : a.version ≠ b.version := by
    intro hversion
    exact hkeys (by rw [versionKey, versionKey, hjurisdiction, hversion])
  refine ⟨hversions, apart_of_not_overlaps ?_⟩
  by_contra hoverlaps
  rw [Bool.not_eq_false] at hoverlaps
  simp [overlapFinding, hjurisdiction, hoverlaps, hversions] at hoverlap

/-- A set without findings has valid packs that are separate. -/
theorem separate_of_valid (hset : validatePackSet context packs = []) :
    (∀ pack ∈ packs, validatePack context pack = []) ∧ packs.Pairwise Separate := by
  obtain ⟨hfront, hoverlaps⟩ := List.append_eq_nil_iff.mp hset
  obtain ⟨hpacks, hduplicates⟩ := List.append_eq_nil_iff.mp hfront
  refine ⟨fun pack hpack ↦ ?_, ?_⟩
  · exact List.map_eq_nil_iff.mp (List.flatMap_eq_nil_iff.mp hpacks pack hpack)
  · have hkeys := (not_mem_of_duplicateFindings_eq_nil hduplicates).2
    refine (hkeys.and (pairwise_of_overlapFindings_eq_nil hoverlaps)).imp ?_
    exact fun hpair ↦ separate_of_findings_eq_nil hpair.1 hpair.2

end Separate

/-! ### Resolutions against a set -/

section Resolutions

variable {packs other : List PolicyPack} {jurisdiction version : String} {at_ : Instant}
  {environment : PolicyEnvironment}

/-- Within one jurisdiction the versions differ and the windows are apart. -/
theorem pairwise_packsFor (hseparate : packs.Pairwise Separate) (jurisdiction : String) :
    (packsFor packs jurisdiction).Pairwise fun a b ↦
      a.version ≠ b.version ∧ a.window.Apart b.window := by
  rw [packsFor, List.pairwise_filter]
  refine hseparate.imp fun hpair hfirst hsecond ↦ hpair ?_
  rw [of_decide_eq_true hfirst, of_decide_eq_true hsecond]

theorem explicitPack_perm
    (hpairs : packs.Pairwise fun a b ↦ a.version ≠ b.version ∧ a.window.Apart b.window)
    (hperm : other.Perm packs) :
    explicitPack other version environment = explicitPack packs version environment := by
  have hfound : other.find? (·.version = version) = packs.find? (·.version = version) := by
    refine find?_eq_of_perm hpairs (fun a b hfirst hsecond hpair ↦ hpair.1 ?_) hperm
    rw [of_decide_eq_true hfirst, of_decide_eq_true hsecond]
  rw [explicitPack, explicitPack, hfound]

theorem packInForce_length_le
    (hpairs : packs.Pairwise fun a b ↦ a.version ≠ b.version ∧ a.window.Apart b.window) :
    (packInForce packs at_).length ≤ 1 :=
  length_covering_le (hpairs.imp And.right) at_

theorem governingPack_perm
    (hpairs : packs.Pairwise fun a b ↦ a.version ≠ b.version ∧ a.window.Apart b.window)
    (hperm : other.Perm packs) :
    governingPack other at_ environment = governingPack packs at_ environment := by
  have hcovering : packInForce other at_ = packInForce packs at_ :=
    eq_of_perm_of_length_le (hperm.filter _) (packInForce_length_le hpairs)
  rw [governingPack, governingPack, hcovering]

/-- Against separate packs a selection does not depend on their order. -/
theorem selectPack_perm {input : ResolveEffectivePolicyInput}
    (hseparate : input.packs.Pairwise Separate) (hperm : other.Perm input.packs) :
    selectPack { input with packs := other } = selectPack input := by
  have hpairs := pairwise_packsFor hseparate input.jurisdiction
  have hfor : (packsFor other input.jurisdiction).Perm (packsFor input.packs input.jurisdiction) :=
    hperm.filter _
  have hempty : packsFor other input.jurisdiction = [] ↔
      packsFor input.packs input.jurisdiction = [] := by
    rw [← List.length_eq_zero_iff, hfor.length_eq, List.length_eq_zero_iff]
  simp only [selectPack, hempty, explicitPack_perm hpairs hfor, governingPack_perm hpairs hfor]

/-- Where at most one pack covers the time, it is selected where it may be activated. -/
theorem governingPack_of_length_le (hlength : (packInForce packs at_).length ≤ 1) :
    governingPack packs at_ environment =
      match packInForce packs at_ with
      | [] => .error (.noPackInForce at_)
      | pack :: _ =>
        if canActivate pack environment = [] then .ok pack
        else .error (.packNotResolvable pack.version environment (canActivate pack environment)) := by
  cases hcovering : packInForce packs at_ with
  | nil => simp [governingPack, hcovering]
  | cons pack rest =>
    have hrest : rest = [] := by
      simpa [hcovering] using hlength
    subst hrest
    by_cases hactivates : canActivate pack environment = [] <;>
      simp [governingPack, hcovering, hactivates]

end Resolutions

/-! ### Soundness -/

/-- The failures of a resolution that the validation of the set is there to find. -/
def ResolvePolicyError.IsSetDefect : ResolvePolicyError → Prop
  | .overlappingPacksInForce _ _ => True
  | .packInvalid _ _ => True
  | _ => False

section Soundness

variable {input : ResolveEffectivePolicyInput} {context : PackValidationContext}
  {packs : List PolicyPack} {pack : PolicyPack} {error : ResolvePolicyError}

/-- Separate packs give a selection in force no set defect. -/
theorem not_isSetDefect_of_selectPack (hseparate : input.packs.Pairwise Separate)
    (hselection : input.selection = .inForce) (hfailed : selectPack input = .error error) :
    ¬ error.IsSetDefect := by
  have hlength : (packInForce (packsFor input.packs input.jurisdiction) input.requestedAt).length ≤ 1 :=
    packInForce_length_le (pairwise_packsFor hseparate input.jurisdiction)
  simp only [selectPack, hselection, governingPack_of_length_le hlength] at hfailed
  split_ifs at hfailed
  · exact Except.error.inj hfailed ▸ id
  · split at hfailed
    · exact Except.error.inj hfailed ▸ id
    · split_ifs at hfailed
      exact Except.error.inj hfailed ▸ id

/-- A set without findings is resolved in force without a set defect, and whichever way its packs are
listed. -/
theorem validPackSet_resolves (hset : validatePackSet context packs = []) :
    (∀ input : ResolveEffectivePolicyInput, input.packs = packs → input.context = context →
      input.selection = .inForce → ∀ error, resolveEffectivePolicy input = .error error →
        ¬ error.IsSetDefect) ∧
    ∀ input : ResolveEffectivePolicyInput, input.packs = packs → ∀ other : List PolicyPack,
      other.Perm packs →
        resolveEffectivePolicy { input with packs := other } = resolveEffectivePolicy input := by
  obtain ⟨hvalid, hseparate⟩ := separate_of_valid hset
  constructor
  · rintro input rfl rfl hselection error hfailed
    unfold resolveEffectivePolicy at hfailed
    cases hselected : selectPack input with
    | error failure =>
      rw [hselected] at hfailed
      exact Except.error.inj hfailed ▸ not_isSetDefect_of_selectPack hseparate hselection hselected
    | ok pack =>
      have hpack : validatePack input.context pack = [] := hvalid pack (mem_of_selectPack hselected)
      simp [hselected, hpack, bind, Except.bind, pure, Except.pure] at hfailed
  · rintro input rfl other hperm
    exact resolveEffectivePolicy_packs (selectPack_perm hseparate hperm)

/-- The draft of the build, and a pack that follows it without a gap. -/
theorem validPackSet_resolves_successor :
    let ended : PolicyPack := { QA_V1 with effectiveTo := some (DECLARED_AT + 1000) }
    let successor : PolicyPack :=
      { QA_V1 with version := "qa/v2", effectiveFrom := DECLARED_AT + 1000 }
    validatePackSet {} [ended, successor] = [] ∧
      ∀ requestedAt error,
        resolveEffectivePolicy
            { jurisdiction := "QA", requestedAt, packs := [ended, successor], selection := .inForce
              environment := .local_ } =
            .error error →
          ¬ error.IsSetDefect := by
  intro ended successor
  have hset : validatePackSet {} [ended, successor] = [] := by decide
  exact ⟨hset, fun requestedAt ↦ (validPackSet_resolves hset).1 _ rfl rfl rfl⟩

end Soundness

end Karar.JurisdictionPolicy
