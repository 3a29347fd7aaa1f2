import Karar.Capability.Gates

/-!
# Why a licence is wanting

The licence gate denies for the first required type that has no licence in force (`Wanting`), as expired
where a licence of the type has lapsed and as missing otherwise. A revocation is an absence and not an
expiry, and a claim is no evidence, so neither is to make the type expired (`ReasonLaw`).

The test for a lapsed licence reads the status and the dates apart: a revoked or a claimed licence whose
expiry date has passed counts as a lapsed one. `reasonLaw_iff` says when the law holds all the same: where
such a licence stands beside a lapsed one that is neither.
-/

namespace Karar.Capability

open Foundation SharedKernel

/-! ### The law -/

/-- The type is the first of the required ones without a licence in force. -/
def Wanting (typeRefs : List String) (licences : List LicenceFacts) (at_ : Instant)
    (typeRef : String) : Prop :=
  ∃ earlier later, typeRefs = earlier ++ typeRef :: later ∧
    (¬ ∃ licence ∈ licences, licence.licenceTypeRef = typeRef ∧ licence.InForce at_) ∧
    ∀ before ∈ earlier, ∃ licence ∈ licences, licence.licenceTypeRef = before ∧ licence.InForce at_

/-- The licence is an absence, whatever its dates: revoked, or claimed only. -/
def LicenceFacts.Void (licence : LicenceFacts) : Prop :=
  licence.status = .revoked ∨ licence.status = .claimedUnverified

def LicenceFacts.PastExpiry (licence : LicenceFacts) (at_ : Instant) : Prop :=
  ∃ expiry ∈ licence.expiryDate, expiry ≤ at_

/-- Past its expiry date, or recorded as past it. -/
def LicenceFacts.Lapsed (licence : LicenceFacts) (at_ : Instant) : Prop :=
  licence.status = .expired ∨ licence.PastExpiry at_

/-- The gate denies as expired only for a lapsed licence that is not void, and as missing where all of
the licences of the type are void. -/
structure ReasonLaw (lapsed : LicenceFacts → Instant → Prop) (typeRefs : List String)
    (licensing : LicensingFacts) (at_ : Instant) : Prop where
  expired : licenceGate typeRefs licensing at_ = some .licenceExpired →
    ∃ entity typeRef, licensing = .entity entity ∧ Wanting typeRefs entity.licences at_ typeRef ∧
      ∃ licence ∈ entity.licences, licence.licenceTypeRef = typeRef ∧ ¬ licence.Void ∧
        lapsed licence at_
  missing : ∀ entity typeRef, licensing = .entity entity →
    Wanting typeRefs entity.licences at_ typeRef →
    (∀ licence ∈ entity.licences, licence.licenceTypeRef = typeRef → licence.Void) →
    licenceGate typeRefs licensing at_ = some .licenceMissing

/-! ### The verdict of the gate -/

section Verdict

variable {typeRefs : List String} {licences : List LicenceFacts} {at_ : Instant} {typeRef : String}

theorem licenceLapsed_iff {licence : LicenceFacts} :
    licenceLapsed at_ licence = true ↔ licence.Lapsed at_ := by
  simp [licenceLapsed, LicenceFacts.Lapsed, LicenceFacts.PastExpiry, Option.any_eq_true]

theorem wanting_cons_of_inForce {head : String}
    (hinForce : ∃ licence ∈ licences, licence.licenceTypeRef = head ∧ licence.InForce at_) :
    Wanting (head :: typeRefs) licences at_ typeRef ↔ Wanting typeRefs licences at_ typeRef := by
  constructor
  · rintro ⟨earlier, later, htypes, hwanting, hearlier⟩
    cases earlier with
    | nil =>
      obtain ⟨rfl, rfl⟩ := List.cons.inj htypes
      exact absurd hinForce hwanting
    | cons first earlier =>
      obtain ⟨rfl, rfl⟩ := List.cons.inj htypes
      exact ⟨earlier, later, rfl, hwanting, fun before hbefore ↦
        hearlier before (List.mem_cons_of_mem _ hbefore)⟩
  · rintro ⟨earlier, later, rfl, hwanting, hearlier⟩
    exact ⟨head :: earlier, later, rfl, hwanting, List.forall_mem_cons.mpr ⟨hinForce, hearlier⟩⟩

theorem wanting_cons_of_not_inForce {head : String}
    (hwanting : ¬ ∃ licence ∈ licences, licence.licenceTypeRef = head ∧ licence.InForce at_) :
    Wanting (head :: typeRefs) licences at_ typeRef ↔ typeRef = head := by
  constructor
  · rintro ⟨earlier, later, htypes, -, hearlier⟩
    cases earlier with
    | nil => exact (List.cons.inj htypes).1.symm
    | cons first earlier =>
      obtain ⟨rfl, -⟩ := List.cons.inj htypes
      exact absurd (hearlier head List.mem_cons_self) hwanting
  · rintro rfl
    exact ⟨[], typeRefs, rfl, hwanting, by simp⟩

/-- The licences of the wanting type give the reason. -/
theorem licenceTypes_eq_some_iff {reason : DenialReason} :
    licenceTypes licences at_ typeRefs = some reason ↔
      ∃ typeRef, Wanting typeRefs licences at_ typeRef ∧
        reason = if (licences.filter (·.licenceTypeRef = typeRef)).any (licenceLapsed at_) then
          .licenceExpired else .licenceMissing := by
  induction typeRefs with
  | nil => simp [licenceTypes, Wanting]
  | cons head rest ih =>
    have hany : (licences.filter (·.licenceTypeRef = head)).any (licenceSatisfies at_) = true ↔
        ∃ licence ∈ licences, licence.licenceTypeRef = head ∧ licence.InForce at_ := by
      simp [List.any_eq_true, licenceSatisfies_iff]
    unfold licenceTypes
    by_cases hinForce : ∃ licence ∈ licences, licence.licenceTypeRef = head ∧ licence.InForce at_
    · simp only [if_pos (hany.mpr hinForce), wanting_cons_of_inForce hinForce, ih]
    · simp only [if_neg (hany.not.mpr hinForce), wanting_cons_of_not_inForce hinForce,
        exists_eq_left, Option.some_inj]
      exact eq_comm

/-- The gate denies as expired where a licence of the wanting type has lapsed. -/
theorem licenceTypes_eq_expired_iff :
    licenceTypes licences at_ typeRefs = some .licenceExpired ↔
      ∃ typeRef, Wanting typeRefs licences at_ typeRef ∧
        ∃ licence ∈ licences, licence.licenceTypeRef = typeRef ∧ licence.Lapsed at_ := by
  rw [licenceTypes_eq_some_iff]
  refine exists_congr fun typeRef ↦ and_congr_right fun _ ↦ ?_
  have hany : (licences.filter (·.licenceTypeRef = typeRef)).any (licenceLapsed at_) = true ↔
      ∃ licence ∈ licences, licence.licenceTypeRef = typeRef ∧ licence.Lapsed at_ := by
    simp [List.any_eq_true, licenceLapsed_iff]
  rw [← hany]
  split_ifs with hlapsed
  · simp [hlapsed]
  · simp [hlapsed]

/-- At most one type is the first that is wanting. -/
theorem Wanting.unique {other : String} (hfirst : Wanting typeRefs licences at_ typeRef)
    (hsecond : Wanting typeRefs licences at_ other) : typeRef = other := by
  induction typeRefs with
  | nil => simp [Wanting] at hfirst
  | cons head rest ih =>
    by_cases hinForce : ∃ licence ∈ licences, licence.licenceTypeRef = head ∧ licence.InForce at_
    · rw [wanting_cons_of_inForce hinForce] at hfirst hsecond
      exact ih hfirst hsecond
    · rw [wanting_cons_of_not_inForce hinForce] at hfirst hsecond
      exact hfirst.trans hsecond.symm

theorem ne_nil_of_wanting (hwanting : Wanting typeRefs licences at_ typeRef) : typeRefs ≠ [] := by
  obtain ⟨earlier, later, rfl, -, -⟩ := hwanting
  simp

/-- The licences are gone through for an entity that may operate in the scope. -/
theorem licenceGate_entity {entity : LicensedEntity}
    (hwanting : Wanting typeRefs entity.licences at_ typeRef) :
    licenceGate typeRefs (.entity entity) at_ =
      if entity.permittedInScope = true then licenceTypes entity.licences at_ typeRefs
      else some .licenceMissing := by
  unfold licenceGate
  rw [if_neg (ne_nil_of_wanting hwanting)]
  by_cases hpermitted : entity.permittedInScope = true
  · simp [hpermitted]
  · simp [hpermitted]

/-- The gate denies as expired where an entity that may operate in the scope has a lapsed licence of the
wanting type. -/
theorem licenceGate_eq_expired_iff {licensing : LicensingFacts} :
    licenceGate typeRefs licensing at_ = some .licenceExpired ↔
      ∃ entity typeRef, licensing = .entity entity ∧ entity.permittedInScope = true ∧
        Wanting typeRefs entity.licences at_ typeRef ∧
        ∃ licence ∈ entity.licences, licence.licenceTypeRef = typeRef ∧ licence.Lapsed at_ := by
  constructor
  · intro hgate
    have hrequired : typeRefs ≠ [] := by
      rintro rfl
      simp [licenceGate] at hgate
    cases licensing with
    | notEvaluated => simp [licenceGate, hrequired] at hgate
    | noEffectiveEntity => simp [licenceGate, hrequired] at hgate
    | entity entity =>
      cases hpermitted : entity.permittedInScope with
      | false => simp [licenceGate, hrequired, hpermitted] at hgate
      | true =>
        simp only [licenceGate, hrequired, hpermitted, if_false, Bool.not_true, Bool.false_eq_true]
          at hgate
        obtain ⟨typeRef, hwanting, hlapsed⟩ := licenceTypes_eq_expired_iff.mp hgate
        exact ⟨entity, typeRef, rfl, hpermitted, hwanting, hlapsed⟩
  · rintro ⟨entity, typeRef, rfl, hpermitted, hwanting, hlapsed⟩
    rw [licenceGate_entity hwanting, if_pos hpermitted, licenceTypes_eq_expired_iff]
    exact ⟨typeRef, hwanting, hlapsed⟩

/-- A wanting type is denied one way or the other. -/
theorem licenceGate_of_wanting {entity : LicensedEntity}
    (hwanting : Wanting typeRefs entity.licences at_ typeRef) :
    licenceGate typeRefs (.entity entity) at_ = some .licenceExpired ∨
      licenceGate typeRefs (.entity entity) at_ = some .licenceMissing := by
  rw [licenceGate_entity hwanting]
  by_cases hpermitted : entity.permittedInScope = true
  · rw [if_pos hpermitted, licenceTypes_eq_some_iff, licenceTypes_eq_some_iff]
    by_cases hlapsed :
        (entity.licences.filter (·.licenceTypeRef = typeRef)).any (licenceLapsed at_) = true
    · exact .inl ⟨typeRef, hwanting, (if_pos hlapsed).symm⟩
    · exact .inr ⟨typeRef, hwanting, (if_neg hlapsed).symm⟩
  · exact .inr (if_neg hpermitted)

end Verdict

/-! ### When the law holds -/

/-- A void licence that is past its expiry date. -/
def LicenceFacts.VoidPastExpiry (licence : LicenceFacts) (at_ : Instant) : Prop :=
  licence.Void ∧ licence.PastExpiry at_

/-- Where a licence of a kind is among those of the wanting type, so is one that has lapsed and is not
void. -/
def Outweighed (kind lapsed : LicenceFacts → Instant → Prop) (typeRefs : List String)
    (licensing : LicensingFacts) (at_ : Instant) : Prop :=
  ∀ entity typeRef, licensing = .entity entity → entity.permittedInScope = true →
    Wanting typeRefs entity.licences at_ typeRef →
    (∃ licence ∈ entity.licences, licence.licenceTypeRef = typeRef ∧ kind licence at_) →
    ∃ licence ∈ entity.licences, licence.licenceTypeRef = typeRef ∧ ¬ licence.Void ∧ lapsed licence at_

/-- The law fails for the licences that the gate counts as lapsed and the law does not, and for no
others. -/
theorem reasonLaw_iff_outweighed {kind lapsed : LicenceFacts → Instant → Prop}
    {typeRefs : List String} {licensing : LicensingFacts} {at_ : Instant}
    (hcounted : ∀ licence : LicenceFacts, licence.Lapsed at_ ↔
      kind licence at_ ∨ ¬ licence.Void ∧ lapsed licence at_) :
    ReasonLaw lapsed typeRefs licensing at_ ↔ Outweighed kind lapsed typeRefs licensing at_ := by
  constructor
  · rintro hlaw entity typeRef rfl hpermitted hwanting ⟨licence, hlicence, htype, hkind⟩
    have hexpired : licenceGate typeRefs (.entity entity) at_ = some .licenceExpired :=
      licenceGate_eq_expired_iff.mpr ⟨entity, typeRef, rfl, hpermitted, hwanting, licence, hlicence,
        htype, (hcounted licence).mpr (.inl hkind)⟩
    obtain ⟨found, foundRef, hfound, hfoundWanting, hothers⟩ := hlaw.expired hexpired
    obtain rfl : entity = found := LicensingFacts.entity.inj hfound
    rwa [hwanting.unique hfoundWanting]
  · intro houtweighed
    have hlapses : licenceGate typeRefs licensing at_ = some .licenceExpired →
        ∃ entity typeRef, licensing = .entity entity ∧ Wanting typeRefs entity.licences at_ typeRef ∧
          ∃ licence ∈ entity.licences, licence.licenceTypeRef = typeRef ∧ ¬ licence.Void ∧
            lapsed licence at_ := by
      intro hgate
      obtain ⟨entity, typeRef, rfl, hpermitted, hwanting, licence, hlicence, htype, hlapsed⟩ :=
        licenceGate_eq_expired_iff.mp hgate
      refine ⟨entity, typeRef, rfl, hwanting, ?_⟩
      rcases (hcounted licence).mp hlapsed with hkind | hsound
      · exact houtweighed entity typeRef rfl hpermitted hwanting ⟨licence, hlicence, htype, hkind⟩
      · exact ⟨licence, hlicence, htype, hsound⟩
    refine ⟨hlapses, ?_⟩
    rintro entity typeRef rfl hwanting hvoid
    refine (licenceGate_of_wanting hwanting).resolve_left fun hgate ↦ ?_
    obtain ⟨found, foundRef, hfound, hfoundWanting, licence, hlicence, htype, hsound, -⟩ := hlapses hgate
    obtain rfl : entity = found := LicensingFacts.entity.inj hfound
    exact hsound (hvoid licence hlicence (htype.trans (hwanting.unique hfoundWanting).symm))

/-- When the gate gives the right reason. A licence counts as lapsed by its date or by its record, or by
its date alone. -/
theorem reasonLaw_iff (typeRefs : List String) (licensing : LicensingFacts) (at_ : Instant) :
    (ReasonLaw LicenceFacts.Lapsed typeRefs licensing at_ ↔
        Outweighed LicenceFacts.VoidPastExpiry LicenceFacts.Lapsed typeRefs licensing at_) ∧
      (ReasonLaw LicenceFacts.PastExpiry typeRefs licensing at_ ↔
        Outweighed (fun licence at_ ↦ licence.VoidPastExpiry at_ ∨ licence.status = .expired)
          LicenceFacts.PastExpiry typeRefs licensing at_) := by
  constructor
  · apply reasonLaw_iff_outweighed
    intro licence
    unfold LicenceFacts.VoidPastExpiry LicenceFacts.Lapsed LicenceFacts.Void
    cases licence.status <;> simp
  · apply reasonLaw_iff_outweighed
    intro licence
    unfold LicenceFacts.VoidPastExpiry LicenceFacts.Lapsed LicenceFacts.Void
    cases licence.status <;> simp

/-- A licence that was revoked, and whose expiry date has passed since, is denied as expired. -/
theorem reasonLaw_revoked_fails :
    let revoked : LicenceFacts := ⟨"licence:test", .revoked, some 1, some 5⟩
    let licensing : LicensingFacts := .entity ⟨"entity:test", true, [revoked]⟩
    licenceGate ["licence:test"] licensing 9 = some .licenceExpired ∧
      ¬ ReasonLaw LicenceFacts.Lapsed ["licence:test"] licensing 9 ∧
      ¬ ReasonLaw LicenceFacts.PastExpiry ["licence:test"] licensing 9 := by
  intro revoked licensing
  have hgate : licenceGate ["licence:test"] licensing 9 = some .licenceExpired := by
    decide
  have hfails : ∀ lapsed, ¬ ReasonLaw lapsed ["licence:test"] licensing 9 := by
    intro lapsed hlaw
    obtain ⟨entity, _, hentity, -, licence, hlicence, -, hsound, -⟩ := hlaw.expired hgate
    obtain rfl := LicensingFacts.entity.inj hentity
    exact hsound (.inl (by rw [List.mem_singleton.mp hlicence]))
  exact ⟨hgate, hfails _, hfails _⟩

end Karar.Capability
