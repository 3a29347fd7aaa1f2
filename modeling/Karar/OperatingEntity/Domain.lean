import Karar.Foundation.Windows
import Karar.SharedKernel.Basic

/-!
# Entity bindings and entity migrations

Which legal person serves a tenant by default, and which one a user contracted with, as rows with an
effective window; and the migration by which a binding moves from one entity to another, with the
statuses it goes through.
-/

namespace Karar.OperatingEntity

open Foundation SharedKernel

abbrev OperatingEntityId := String

inductive AssignmentScope
  | tenantDefault
  | userContracting
deriving DecidableEq

def AssignmentScope.name : AssignmentScope → String
  | .tenantDefault => "TENANT_DEFAULT"
  | .userContracting => "USER_CONTRACTING"

structure OperatingEntityAssignment where
  id : String
  scope : AssignmentScope
  /-- Required for `TENANT_DEFAULT`; optional context for `USER_CONTRACTING`. -/
  tenantId : Option TenantId
  userId : Option UserId
  entityId : OperatingEntityId
  effectiveFrom : Instant
  effectiveTo : Option Instant
  createdBy : String
  createdAt : Instant
deriving DecidableEq

def OperatingEntityAssignment.window (assignment : OperatingEntityAssignment) : Window Instant :=
  ⟨assignment.effectiveFrom, assignment.effectiveTo⟩

/-- The later start of two, the first one where they are the same. -/
def newer (latest : Option OperatingEntityAssignment) (assignment : OperatingEntityAssignment) :
    Option OperatingEntityAssignment :=
  if latest.all (·.effectiveFrom < assignment.effectiveFrom) then some assignment else latest

def newest (assignments : List OperatingEntityAssignment) : Option OperatingEntityAssignment :=
  assignments.foldl newer none

/-! ### Migrations -/

inductive EntityMigrationStatus
  | proposed
  | reconsentEvaluated
  | awaitingAcceptance
  | migrated
  | blocked
deriving DecidableEq

def EntityMigrationStatus.name : EntityMigrationStatus → String
  | .proposed => "PROPOSED"
  | .reconsentEvaluated => "RECONSENT_EVALUATED"
  | .awaitingAcceptance => "AWAITING_ACCEPTANCE"
  | .migrated => "MIGRATED"
  | .blocked => "BLOCKED"

def TRANSITIONS : EntityMigrationStatus → List EntityMigrationStatus
  | .proposed => [.reconsentEvaluated]
  | .reconsentEvaluated => [.awaitingAcceptance, .migrated]
  | .awaitingAcceptance => [.migrated, .blocked]
  | .migrated => []
  | .blocked => []

def migrationTransitionAllowed (from_ to_ : EntityMigrationStatus) : Bool :=
  decide (to_ ∈ TRANSITIONS from_)

def isTerminalMigrationStatus (status : EntityMigrationStatus) : Bool :=
  status = .migrated || status = .blocked

structure EntityMigration where
  id : String
  scope : AssignmentScope
  /-- The tenant or user whose binding migrates. -/
  subjectRef : String
  fromEntity : OperatingEntityId
  toEntity : OperatingEntityId
  status : EntityMigrationStatus
  reason : String
  /-- The consent module's recorded evaluation. -/
  reconsentEvaluationId : Option String
  proposedBy : String
  proposedAt : Instant
  completedAt : Option Instant
deriving DecidableEq

/-! ### The newest row -/

section Newest

variable {assignments : List OperatingEntityAssignment} {latest row : OperatingEntityAssignment}

theorem newer_eq_some (latest : Option OperatingEntityAssignment)
    (assignment : OperatingEntityAssignment) :
    ∃ picked, newer latest assignment = some picked ∧
      (latest = some picked ∨ picked = assignment) ∧
      assignment.effectiveFrom ≤ picked.effectiveFrom ∧
      ∀ earlier ∈ latest, earlier.effectiveFrom ≤ picked.effectiveFrom := by
  unfold newer
  cases latest with
  | none => exact ⟨assignment, by simp⟩
  | some earlier =>
    by_cases hlater : earlier.effectiveFrom < assignment.effectiveFrom
    · exact ⟨assignment, by simp [hlater, le_of_lt hlater]⟩
    · exact ⟨earlier, by simp [hlater, not_lt.mp hlater]⟩

/-- What is picked is one of the rows, and none of them starts later. -/
theorem foldl_newer_eq_some {start : Option OperatingEntityAssignment}
    (hpicked : assignments.foldl newer start = some latest) :
    (start = some latest ∨ latest ∈ assignments) ∧
      (∀ earlier ∈ start, earlier.effectiveFrom ≤ latest.effectiveFrom) ∧
      ∀ row ∈ assignments, row.effectiveFrom ≤ latest.effectiveFrom := by
  induction assignments generalizing start with
  | nil =>
    obtain rfl : start = some latest := hpicked
    simp
  | cons first rest ih =>
    rw [List.foldl_cons] at hpicked
    obtain ⟨picked, hnewer, hfrom, hfirst, hearlier⟩ := newer_eq_some start first
    rw [hnewer] at hpicked
    obtain ⟨hmem, hstart, hrest⟩ := ih hpicked
    have hle := hstart picked rfl
    refine ⟨?_, fun earlier h ↦ (hearlier earlier h).trans hle, ?_⟩
    · rcases hmem with heq | hmem
      · obtain rfl := Option.some.inj heq
        rcases hfrom with hsame | rfl
        · exact .inl hsame
        · exact .inr (List.mem_cons_self ..)
      · exact .inr (List.mem_cons_of_mem _ hmem)
    · intro row hrow
      rcases List.mem_cons.mp hrow with rfl | hrow
      · exact hfirst.trans hle
      · exact hrest row hrow

theorem newest_spec (hnewest : newest assignments = some latest) :
    latest ∈ assignments ∧ ∀ row ∈ assignments, row.effectiveFrom ≤ latest.effectiveFrom := by
  obtain ⟨hmem, -, hlater⟩ := foldl_newer_eq_some hnewest
  exact ⟨hmem.resolve_left (by simp), hlater⟩

theorem newest_eq_none_iff : newest assignments = none ↔ assignments = [] := by
  constructor
  · intro hnone
    cases assignments with
    | nil => rfl
    | cons first rest =>
      have hsome : ∀ (rows : List OperatingEntityAssignment) (start : OperatingEntityAssignment),
          rows.foldl newer (some start) ≠ none := by
        intro rows
        induction rows with
        | nil => simp
        | cons row rows ih =>
          intro start
          obtain ⟨picked, hnewer, -⟩ := newer_eq_some (some start) row
          rw [List.foldl_cons, hnewer]
          exact ih picked
      obtain ⟨picked, hnewer, -⟩ := newer_eq_some none first
      unfold newest at hnone
      rw [List.foldl_cons, hnewer] at hnone
      exact absurd hnone (hsome rest picked)
  · rintro rfl
    rfl

/-- A row that starts after every other one is the newest, whatever the order. -/
theorem newest_eq_of_latest (hrow : row ∈ assignments)
    (hlatest : ∀ other ∈ assignments, other ≠ row → other.effectiveFrom < row.effectiveFrom) :
    newest assignments = some row := by
  cases hnewest : newest assignments with
  | none =>
    rw [newest_eq_none_iff.mp hnewest] at hrow
    exact absurd hrow List.not_mem_nil
  | some latest =>
    obtain ⟨hmem, hlater⟩ := newest_spec hnewest
    by_cases hsame : latest = row
    · rw [hsame]
    · exact absurd (hlater row hrow) (not_le.mpr (hlatest latest hmem hsame))

/-- A row that no other one starts after is picked where it comes first. -/
theorem newest_cons_eq (hfirst : ∀ other ∈ assignments, other.effectiveFrom ≤ row.effectiveFrom) :
    newest (row :: assignments) = some row := by
  have hstays : ∀ rows : List OperatingEntityAssignment,
      (∀ other ∈ rows, other.effectiveFrom ≤ row.effectiveFrom) →
      rows.foldl newer (some row) = some row := by
    intro rows hrows
    induction rows with
    | nil => rfl
    | cons other rows ih =>
      have hkept : newer (some row) other = some row := by
        simp [newer, hrows other (List.mem_cons_self ..)]
      rw [List.foldl_cons, hkept]
      exact ih fun later hlater ↦ hrows later (List.mem_cons_of_mem _ hlater)
  exact hstays assignments hfirst

end Newest

end Karar.OperatingEntity
