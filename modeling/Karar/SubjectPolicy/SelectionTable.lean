import Karar.Foundation.Fallible
import Karar.SubjectPolicy.Selection
import Mathlib.Data.List.Nodup
import Mathlib.Data.List.Sort

/-!
# The table of selections

The table `subject_policy_selections` of migration 0083 with its constraints and its update guard,
and the statements of `PrismaSubjectPolicySelectionRepository` over it. A table carries its
constraints, so a statement that would break one is refused. Rows are listed in insertion order.

`recordSelection_eq_ok` and `withdraw_eq_ok` say what a committed transaction leaves behind.
-/

namespace Karar.SubjectPolicy

open SharedKernel Foundation

/-- The authenticated subject the rows belong to. -/
structure SubjectPolicyPrincipal where
  userId : String
  tenantId : String
deriving DecidableEq

/-- Why a statement or its transaction throws. -/
inductive DatabaseError
  | uniqueViolation
  | checkViolation
  | recordNotFound
  /-- `RAISE EXCEPTION` of the guard trigger. -/
  | raised (message : String)
  /-- The transaction was lost for a reason outside the table. -/
  | unavailable (message : String)
deriving DecidableEq

/-- A row of `subject_policy_selections`. -/
structure SelectionRow where
  selection : SubjectPolicySelection
  createdAt : Instant
deriving DecidableEq

/-- The `CHECK` constraints of a row. -/
def rowChecks (row : SubjectPolicySelection) : Bool :=
  row.capabilityId != "" && row.profileRef != "" && row.profileVersion != "" &&
    row.jurisdictionRef != "" && row.policyPackVersion != "" && row.selectionSource != "" &&
    row.profileSnapshotHash != some "" &&
    (decide (row.status = .withdrawn) == row.withdrawnAt.isSome) &&
    row.withdrawnAt.all (row.effectiveFrom ≤ ·) && row.effectiveTo.all (row.effectiveFrom < ·)

/-- The stored rows, with the primary key and the `CHECK` constraints. -/
structure SelectionTable where
  rows : List SelectionRow
  ids : (rows.map (·.selection.id)).Nodup
  checks : ∀ row ∈ rows, rowChecks row.selection = true

/-- Rows are stored when they satisfy the constraints. -/
def SelectionTable.commit (rows : List SelectionRow) : Except DatabaseError SelectionTable :=
  if hids : (rows.map (·.selection.id)).Nodup then
    if hchecks : ∀ row ∈ rows, rowChecks row.selection = true then
      .ok ⟨rows, hids, hchecks⟩
    else
      .error .checkViolation
  else
    .error .uniqueViolation

/-! ### The guard trigger -/

/-- A column other than `status` and `withdrawn_at` changes. -/
def contentChanges (old new : SelectionRow) : Bool :=
  { new with selection :=
      { new.selection with
        status := old.selection.status
        withdrawnAt := old.selection.withdrawnAt } } != old

/-- The lawful transitions. -/
def lawfulTransition (old new : SubjectPolicySelection) : Bool :=
  decide (old.status = .active) &&
    (decide (new.status = .withdrawn) && old.withdrawnAt.isNone && new.withdrawnAt.isSome ||
      (decide (new.status = .superseded) || decide (new.status = .expired)) &&
        new.withdrawnAt.isNone)

def selectionsGuard (old new : SelectionRow) : Except DatabaseError SelectionRow :=
  if contentChanges old new then
    .error (.raised s!"subject_policy_selection {old.selection.id} content is immutable; re-election is a new row (jurisdiction-policy.md §7)")
  else if lawfulTransition old.selection new.selection then
    .ok new
  else
    .error (.raised s!"subject_policy_selection {old.selection.id} permits only ACTIVE->SUPERSEDED, ACTIVE->WITHDRAWN (with withdrawn_at), and ACTIVE->EXPIRED; got {old.selection.status.text} -> {new.selection.status.text} (jurisdiction-policy.md §7)")

/-- A row the condition selects is updated through the guard. -/
def updateRow (condition : SelectionRow → Bool) (data : SelectionRow → SelectionRow)
    (row : SelectionRow) : Except DatabaseError SelectionRow :=
  if condition row then selectionsGuard row (data row) else .ok row

def updateMany (condition : SelectionRow → Bool) (data : SelectionRow → SelectionRow) :
    List SelectionRow → Except DatabaseError (List SelectionRow)
  | [] => .ok []
  | row :: rest => do
    let row ← updateRow condition data row
    let rest ← updateMany condition data rest
    return row :: rest

/-! ### The repository -/

/-- Row level security: a principal sees its own rows. -/
def visibleTo (principal : SubjectPolicyPrincipal) (row : SelectionRow) : Bool :=
  row.selection.tenantId == principal.tenantId && row.selection.userId == principal.userId

/-- The `where` that names one row by its id. -/
def named (principal : SubjectPolicyPrincipal) (id : String) (row : SelectionRow) : Bool :=
  visibleTo principal row && row.selection.id == id

/-- The `where` that names one (user, tenant, capability) key. -/
def ofKey (principal : SubjectPolicyPrincipal) (capabilityId : String) (row : SelectionRow) :
    Bool :=
  visibleTo principal row && row.selection.capabilityId == capabilityId

/-- The prior active rows of the key. -/
def priorActive (principal : SubjectPolicyPrincipal) (capabilityId : String) (row : SelectionRow) :
    Bool :=
  ofKey principal capabilityId row && decide (row.selection.status = .active)

def SelectionRow.supersede (row : SelectionRow) : SelectionRow :=
  { row with selection := { row.selection with status := .superseded } }

def SelectionRow.withdraw (at_ : Instant) (row : SelectionRow) : SelectionRow :=
  { row with selection := { row.selection with status := .withdrawn, withdrawnAt := some at_ } }

/-- Supersede the prior active rows of the key, then insert the new row, in one transaction. The
default of `created_at` is the database's clock. -/
def SelectionTable.recordSelection (table : SelectionTable) (principal : SubjectPolicyPrincipal)
    (selection : SubjectPolicySelection) (createdAt : Instant) :
    Except DatabaseError (SelectionTable × List String) := do
  let supersededIds := (table.rows.filter (priorActive principal selection.capabilityId)).map
    (·.selection.id)
  let rows ← updateMany
    (fun row ↦ visibleTo principal row && supersededIds.contains row.selection.id)
    SelectionRow.supersede table.rows
  let table ← SelectionTable.commit (rows ++ [⟨selection, createdAt⟩])
  return (table, supersededIds)

def SelectionTable.findById (table : SelectionTable) (principal : SubjectPolicyPrincipal)
    (id : String) : Option SubjectPolicySelection :=
  (table.rows.find? (named principal id)).map (·.selection)

/-- `orderBy: [{ effectiveFrom: 'asc' }, { createdAt: 'asc' }]`. -/
def listedBefore (a b : SelectionRow) : Prop :=
  a.selection.effectiveFrom < b.selection.effectiveFrom ∨
    a.selection.effectiveFrom = b.selection.effectiveFrom ∧ a.createdAt ≤ b.createdAt

instance : DecidableRel listedBefore := fun _ _ ↦ inferInstanceAs (Decidable (_ ∨ _))

def SelectionTable.listSelections (table : SelectionTable) (principal : SubjectPolicyPrincipal)
    (capabilityId : String) : List SubjectPolicySelection :=
  ((table.rows.filter (ofKey principal capabilityId)).insertionSort listedBefore).map (·.selection)

/-- `update` throws when no visible row has the id. -/
def SelectionTable.withdraw (table : SelectionTable) (principal : SubjectPolicyPrincipal)
    (id : String) (at_ : Instant) : Except DatabaseError SelectionTable := do
  if table.rows.any (named principal id) then
    let rows ← updateMany (named principal id) (SelectionRow.withdraw at_) table.rows
    SelectionTable.commit rows
  else
    throw .recordNotFound

/-! ### What a transaction leaves behind -/

theorem commit_eq_ok {rows : List SelectionRow} {table : SelectionTable}
    (hcommit : SelectionTable.commit rows = .ok table) : table.rows = rows := by
  unfold SelectionTable.commit at hcommit
  split_ifs at hcommit
  rw [← Except.ok.inj hcommit]

theorem selectionsGuard_eq_ok {old new row : SelectionRow}
    (hguard : selectionsGuard old new = .ok row) :
    row = new ∧ lawfulTransition old.selection new.selection = true := by
  unfold selectionsGuard at hguard
  split_ifs at hguard with hcontent hlawful
  exact ⟨(Except.ok.inj hguard).symm, hlawful⟩

/-- An update that goes through maps the selected rows, and each of them made a lawful
transition. -/
theorem updateMany_eq_ok {condition : SelectionRow → Bool} {data : SelectionRow → SelectionRow}
    {rows updated : List SelectionRow} (hupdate : updateMany condition data rows = .ok updated) :
    updated = rows.map (fun row ↦ if condition row then data row else row) ∧
      ∀ row ∈ rows, condition row = true →
        lawfulTransition row.selection (data row).selection = true := by
  induction rows generalizing updated with
  | nil =>
    rw [updateMany, Except.ok.injEq] at hupdate
    exact ⟨hupdate.symm, by simp⟩
  | cons row rest ih =>
    rw [updateMany] at hupdate
    obtain ⟨stored, hstored, hupdate⟩ := bind_eq_ok hupdate
    obtain ⟨updatedRest, hrest, hupdate⟩ := bind_eq_ok hupdate
    obtain ⟨hmap, htransitions⟩ := ih hrest
    have hupdated : updated = stored :: updatedRest := (Except.ok.inj hupdate).symm
    unfold updateRow at hstored
    by_cases hcondition : condition row = true
    · rw [if_pos hcondition] at hstored
      obtain ⟨rfl, hlawful⟩ := selectionsGuard_eq_ok hstored
      refine ⟨by rw [hupdated, List.map_cons, if_pos hcondition, hmap], ?_⟩
      intro other hother hselected
      rcases List.mem_cons.mp hother with rfl | hother
      · exact hlawful
      · exact htransitions other hother hselected
    · rw [if_neg hcondition, Except.ok.injEq] at hstored
      refine ⟨by rw [hupdated, List.map_cons, if_neg hcondition, hmap, hstored], ?_⟩
      intro other hother hselected
      rcases List.mem_cons.mp hother with rfl | hother
      · exact absurd hselected hcondition
      · exact htransitions other hother hselected

theorem id_injective (table : SelectionTable) {a b : SelectionRow} (ha : a ∈ table.rows)
    (hb : b ∈ table.rows) (heq : a.selection.id = b.selection.id) : a = b :=
  List.inj_on_of_nodup_map table.ids ha hb heq

/-- The rows whose ids were listed are the prior active rows: ids are unique. -/
theorem supersededIds_contains (table : SelectionTable) (principal : SubjectPolicyPrincipal)
    (capabilityId : String) {row : SelectionRow} (hrow : row ∈ table.rows) :
    (visibleTo principal row && ((table.rows.filter (priorActive principal capabilityId)).map
      (·.selection.id)).contains row.selection.id) = priorActive principal capabilityId row := by
  rw [Bool.eq_iff_iff, Bool.and_eq_true, List.contains_iff_mem, List.mem_map]
  constructor
  · rintro ⟨-, prior, hprior, heq⟩
    obtain ⟨hmem, hactive⟩ := List.mem_filter.mp hprior
    exact id_injective table hmem hrow heq ▸ hactive
  · intro hactive
    refine ⟨?_, row, List.mem_filter.mpr ⟨hrow, hactive⟩, rfl⟩
    unfold priorActive ofKey at hactive
    simp only [Bool.and_eq_true] at hactive
    exact hactive.1.1

/-- A committed recording superseded the active rows of the key and appended the new row. -/
theorem recordSelection_eq_ok {table recorded : SelectionTable} {principal : SubjectPolicyPrincipal}
    {selection : SubjectPolicySelection} {createdAt : Instant} {supersededIds : List String}
    (hrecord : table.recordSelection principal selection createdAt =
      .ok (recorded, supersededIds)) :
    recorded.rows = table.rows.map (fun row ↦
        if priorActive principal selection.capabilityId row then row.supersede else row) ++
      [⟨selection, createdAt⟩] := by
  unfold SelectionTable.recordSelection at hrecord
  obtain ⟨rows, hupdate, hrecord⟩ := bind_eq_ok hrecord
  obtain ⟨stored, hcommit, hrecord⟩ := bind_eq_ok hrecord
  have hstored : stored = recorded := congrArg Prod.fst (Except.ok.inj hrecord)
  rw [← hstored, commit_eq_ok hcommit, (updateMany_eq_ok hupdate).1]
  congr 1
  refine List.map_congr_left fun row hrow ↦ ?_
  rw [supersededIds_contains table principal selection.capabilityId hrow]

/-- A committed withdrawal changed the visible rows with the id, all of them active. -/
theorem withdraw_eq_ok {table withdrawn : SelectionTable} {principal : SubjectPolicyPrincipal}
    {id : String} {at_ : Instant} (hwithdraw : table.withdraw principal id at_ = .ok withdrawn) :
    withdrawn.rows = table.rows.map (fun row ↦
        if named principal id row then row.withdraw at_ else row) ∧
      ∀ row ∈ table.rows, named principal id row = true → row.selection.status = .active := by
  unfold SelectionTable.withdraw at hwithdraw
  split_ifs at hwithdraw with hany
  obtain ⟨rows, hupdate, hcommit⟩ := bind_eq_ok hwithdraw
  obtain ⟨hmap, htransitions⟩ := updateMany_eq_ok hupdate
  refine ⟨by rw [commit_eq_ok hcommit, hmap], fun row hrow hselected ↦ ?_⟩
  have hlawful := htransitions row hrow hselected
  unfold lawfulTransition at hlawful
  simp only [Bool.and_eq_true, decide_eq_true_eq] at hlawful
  exact hlawful.1

theorem mem_listSelections {table : SelectionTable} {principal : SubjectPolicyPrincipal}
    {capabilityId : String} {selection : SubjectPolicySelection} :
    selection ∈ table.listSelections principal capabilityId ↔
      ∃ row ∈ table.rows, ofKey principal capabilityId row = true ∧ row.selection = selection := by
  unfold SelectionTable.listSelections
  simp only [List.mem_map, List.mem_insertionSort, List.mem_filter, and_assoc]

end Karar.SubjectPolicy
