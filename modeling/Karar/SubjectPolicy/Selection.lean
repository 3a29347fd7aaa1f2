import Mathlib
import Karar.SharedKernel.Basic
import Karar.Foundation.Leading

/-!
# Subject policy selections

The domain of the subject-policy module. A selection is the record that a subject elected one
profile option for a capability; its dated columns, not its status marker, say when it is effective.
`resolveSelectionAt` answers which of a subject's selections is effective at an instant: the one
with the latest start among those that bear on the instant (`resolveSelectionAt_eq_effective_iff`).

The source is generic over `Id extends string`, which its compiler erases, so a capability id is a
string here.
-/

namespace Karar.SubjectPolicy

open SharedKernel Foundation

/-- `SELECTION_STATUSES`. -/
inductive SelectionStatus
  | active
  | superseded
  | expired
  | withdrawn
deriving DecidableEq

/-- The status as the column stores it. -/
def SelectionStatus.text : SelectionStatus → String
  | active => "ACTIVE"
  | superseded => "SUPERSEDED"
  | expired => "EXPIRED"
  | withdrawn => "WITHDRAWN"

structure SubjectPolicySelection where
  id : String
  userId : String
  tenantId : String
  capabilityId : String
  /-- Opaque reference into the owning capability's bounded context. -/
  profileRef : String
  profileVersion : String
  jurisdictionRef : String
  policyPackVersion : String
  effectiveFrom : Instant
  effectiveTo : Option Instant
  status : SelectionStatus
  selectionSource : String
  recordedBy : String
  profileSnapshotHash : Option String
  withdrawnAt : Option Instant
deriving DecidableEq

/-- The answer to "which selection was effective at this instant". -/
inductive SelectionAtInstant
  | effective (selection : SubjectPolicySelection)
  /-- A selection existed but its effective window had closed. -/
  | expired (selectionId : String) (expiredAt : Instant)
  | none
deriving DecidableEq

def wasWithdrawnBy (row : SubjectPolicySelection) (at_ : Instant) : Bool :=
  row.withdrawnAt.any (· ≤ at_)

def windowCovers (row : SubjectPolicySelection) (at_ : Instant) : Bool :=
  decide (row.effectiveFrom ≤ at_) && row.effectiveTo.all (at_ < ·)

/-- A row is a candidate when its window covers the instant and it was not withdrawn by then. -/
def bearsOn (at_ : Instant) (row : SubjectPolicySelection) : Bool :=
  windowCovers row at_ && !wasWithdrawnBy row at_

/-- The order of the candidates: the later start, then the larger id. -/
def electedAhead (row winner : SubjectPolicySelection) : Bool :=
  decide (winner.effectiveFrom < row.effectiveFrom) ||
    row.effectiveFrom == winner.effectiveFrom && decide (winner.id < row.id)

/-- The row ran out: it started, its window closed and it was not withdrawn. -/
def ranOut (at_ : Instant) (row : SubjectPolicySelection) : Bool :=
  row.effectiveTo.any (· ≤ at_) && decide (row.effectiveFrom ≤ at_) && !wasWithdrawnBy row at_

/-- The order of the rows that ran out: the later end, then the larger id. -/
def expiredAhead (row expired : SubjectPolicySelection) : Bool :=
  decide (expired.effectiveTo.getD 0 < row.effectiveTo.getD 0) ||
    row.effectiveTo.getD 0 == expired.effectiveTo.getD 0 && decide (expired.id < row.id)

/-- Pure temporal resolution over one subject's rows for one capability. -/
def resolveSelectionAt (rows : List SubjectPolicySelection) (at_ : Instant) : SelectionAtInstant :=
  match leading electedAhead (rows.filter (bearsOn at_)) with
  | some winner => .effective winner
  | none =>
    match leading expiredAhead (rows.filter (ranOut at_)) with
    | some expired => .expired expired.id (expired.effectiveTo.getD 0)
    | none => .none

/-! ### Option sets -/

structure PermittedProfileOption where
  profileRef : String
  profileVersions : List String
deriving DecidableEq

/-- The options the pack permits, by reference. -/
structure SubjectOptionSet where
  capabilityId : String
  jurisdictionRef : String
  /-- The pack version declaring this set, which a selection pins. -/
  policyPackVersion : String
  permittedOptions : List PermittedProfileOption
deriving DecidableEq

def optionPermitted (optionSet : SubjectOptionSet) (profileRef profileVersion : String) : Bool :=
  optionSet.permittedOptions.any fun option ↦
    option.profileRef == profileRef && option.profileVersions.contains profileVersion

/-! ### The effective selection -/

/-- The instant a selection's window closes, and `⊤` for an open one. -/
def windowEnd (row : SubjectPolicySelection) : WithTop Instant :=
  match row.effectiveTo with
  | none => ⊤
  | some effectiveTo => effectiveTo

/-- What the winner among the candidates maximises. -/
def electionKey (row : SubjectPolicySelection) : Instant ×ₗ String :=
  toLex (row.effectiveFrom, row.id)

theorem electedAhead_iff (a b : SubjectPolicySelection) :
    electedAhead a b = true ↔ electionKey b < electionKey a := by
  unfold electedAhead electionKey
  rw [Prod.Lex.toLex_lt_toLex]
  simp only [Bool.or_eq_true, Bool.and_eq_true, decide_eq_true_eq, beq_iff_eq]
  rw [@eq_comm _ a.effectiveFrom b.effectiveFrom]

theorem windowCovers_iff (row : SubjectPolicySelection) (at_ : Instant) :
    windowCovers row at_ = true ↔
      row.effectiveFrom ≤ at_ ∧ (at_ : WithTop Instant) < windowEnd row := by
  unfold windowCovers windowEnd
  cases row.effectiveTo with
  | none => simp [WithTop.coe_lt_top]
  | some effectiveTo => simp [WithTop.coe_lt_coe]

theorem wasWithdrawnBy_eq_false_iff (row : SubjectPolicySelection) (at_ : Instant) :
    wasWithdrawnBy row at_ = false ↔ ∀ instant ∈ row.withdrawnAt, at_ < instant := by
  unfold wasWithdrawnBy
  cases row.withdrawnAt with
  | none => simp
  | some instant => simp

theorem bearsOn_iff (row : SubjectPolicySelection) (at_ : Instant) :
    bearsOn at_ row = true ↔ row.effectiveFrom ≤ at_ ∧ (at_ : WithTop Instant) < windowEnd row ∧
      ∀ instant ∈ row.withdrawnAt, at_ < instant := by
  unfold bearsOn
  rw [Bool.and_eq_true, windowCovers_iff, Bool.not_eq_true', wasWithdrawnBy_eq_false_iff, and_assoc]

/-- Assumes: the rows have distinct ids. A selection is effective at an instant if and only if it
bears on the instant and every other row that does has a smaller election key. -/
theorem resolveSelectionAt_eq_effective_iff {rows : List SubjectPolicySelection} {at_ : Instant}
    (hids : ∀ a ∈ rows, ∀ b ∈ rows, a.id = b.id → a = b) {row : SubjectPolicySelection} :
    resolveSelectionAt rows at_ = .effective row ↔
      row ∈ rows ∧ bearsOn at_ row = true ∧ ∀ other ∈ rows, bearsOn at_ other = true →
        other ≠ row → electionKey other < electionKey row := by
  have heffective : resolveSelectionAt rows at_ = .effective row ↔
      leading electedAhead (rows.filter (bearsOn at_)) = some row := by
    unfold resolveSelectionAt
    cases leading electedAhead (rows.filter (bearsOn at_)) with
    | some winner => simp
    | none => cases leading expiredAhead (rows.filter (ranOut at_)) <;> simp
  rw [heffective]
  constructor
  · intro hleading
    obtain ⟨hrow, hbears⟩ := List.mem_filter.mp (leading_mem hleading)
    refine ⟨hrow, hbears, fun other hother hothers hne ↦ ?_⟩
    have hle := key_le_of_leading electedAhead_iff hleading
      (List.mem_filter.mpr ⟨hother, hothers⟩)
    refine lt_of_le_of_ne hle fun heq ↦ hne (hids other hother row hrow ?_)
    exact (Prod.ext_iff.mp (toLex.injective heq)).2
  · rintro ⟨hrow, hbears, hbelow⟩
    refine leading_eq_some_of_forall_lt electedAhead_iff (List.mem_filter.mpr ⟨hrow, hbears⟩) ?_
    intro other hother hne
    obtain ⟨hmem, hothers⟩ := List.mem_filter.mp hother
    exact hbelow other hmem hothers hne

/-- Some selection is effective at an instant as soon as one row bears on it. -/
theorem exists_effective_of_bearsOn {rows : List SubjectPolicySelection} {at_ : Instant}
    {row : SubjectPolicySelection} (hrow : row ∈ rows) (hbears : bearsOn at_ row = true) :
    ∃ winner, resolveSelectionAt rows at_ = .effective winner := by
  unfold resolveSelectionAt
  cases hleading : leading electedAhead (rows.filter (bearsOn at_)) with
  | some winner => exact ⟨winner, rfl⟩
  | none =>
    have hmem : row ∈ rows.filter (bearsOn at_) := List.mem_filter.mpr ⟨hrow, hbears⟩
    rw [leading_eq_none_iff.mp hleading] at hmem
    simp at hmem

end Karar.SubjectPolicy
