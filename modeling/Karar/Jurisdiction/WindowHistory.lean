import Karar.Jurisdiction.UserAssignments

/-!
# The history of a principal

The rows of a principal are meant to be a chain of windows rather than an overlap. A chain stays one
where rows are ended, and where a row is inserted it stays one exactly if the others have ended by its
start (`isHistory_append_iff`). The use cases end open rows only, at any instant, and start new ones
at any instant, so a run has to meet this by itself (`isHistory_of_reaches`).
-/

namespace Karar.Jurisdiction

open Foundation SharedKernel

/-- Disjoint windows, one open row at most, one row at most in force at each instant, and no tie to
break. -/
structure IsHistory (rows : List UserJurisdictionAssignment) : Prop where
  apart : rows.Pairwise fun first second ↦ first.window.Apart second.window
  oneOpen : (rows.filter (·.effectiveTo.isNone)).length ≤ 1
  oneInForce : ∀ instant, (rows.filter (assignmentActiveAt · instant)).length ≤ 1
  untied : ∀ instant other, other.Perm rows →
    pickEffectiveAssignment other instant = pickEffectiveAssignment rows instant

/-- Disjoint windows make a history. -/
theorem isHistory_of_apart {rows : List UserJurisdictionAssignment}
    (hapart : rows.Pairwise fun first second ↦ first.window.Apart second.window) :
    IsHistory rows := by
  have hinForce : ∀ instant, (rows.filter (assignmentActiveAt · instant)).length ≤ 1 := by
    intro instant
    have hcovering := length_covering_le hapart instant
    have hsame : (fun row : UserJurisdictionAssignment ↦ decide (row.window.Covers instant)) =
        (assignmentActiveAt · instant) := by
      ext row
      rw [Bool.eq_iff_iff, decide_eq_true_iff, assignmentActiveAt_iff]
    rwa [hsame] at hcovering
  refine ⟨hapart, length_open_le hapart, hinForce, fun instant other hperm ↦ ?_⟩
  unfold pickEffectiveAssignment
  rw [eq_of_perm_of_length_le (hperm.filter _) (hinForce instant)]

section Table

variable {table later : AssignmentTable} {principal : UserAssignmentPrincipal}

theorem isHistory_ended {owner : UserAssignmentPrincipal} {ids : List String} {endsAt : Instant}
    (hopen : ∀ row ∈ table.rows, AssignmentTable.IsSelected owner ids row →
      row.effectiveTo = none)
    (hrows : later.rows = table.rows.map (AssignmentTable.endRow owner ids endsAt))
    (hhistory : IsHistory (table.rowsOf principal)) : IsHistory (later.rowsOf principal) := by
  have hsame : later.rowsOf principal =
      (table.rowsOf principal).map (AssignmentTable.endRow owner ids endsAt) := by
    unfold AssignmentTable.rowsOf
    rw [hrows, List.filter_map]
    congr 1
    refine List.filter_congr fun row _ ↦ ?_
    simp [AssignmentTable.isOf_endRow]
  rw [hsame]
  refine isHistory_of_apart (List.pairwise_map.mpr ?_)
  refine hhistory.apart.imp_of_mem fun {first second} hfirst hsecond hapart ↦ ?_
  -- Ending a row leaves its window within what it was.
  have hwithin : ∀ row ∈ table.rowsOf principal,
      (AssignmentTable.endRow owner ids endsAt row).window.Within row.window := by
    intro row hrow
    exact AssignmentTable.endRow_window owner ids endsAt
      (hopen row (AssignmentTable.mem_rowsOf.mp hrow).1)
  exact hapart.of_within (hwithin first hfirst) (hwithin second hsecond)

/-- Every row of the principal has ended by an instant. -/
def AllEndedBy (table : AssignmentTable) (principal : UserAssignmentPrincipal)
    (instant : Instant) : Prop :=
  ∀ row ∈ table.rowsOf principal, row.window.EndsBy instant

instance (table : AssignmentTable) (principal : UserAssignmentPrincipal) (instant : Instant) :
    Decidable (AllEndedBy table principal instant) :=
  inferInstanceAs (Decidable (∀ row ∈ table.rowsOf principal, _))

/-- A new row continues a history exactly if all the rows have ended by its start. -/
theorem isHistory_inserted_iff {row : UserJurisdictionAssignment} (hof : row.IsOf principal)
    (hopen : row.effectiveTo = none) (hrows : later.rows = table.rows ++ [row])
    (hhistory : IsHistory (table.rowsOf principal)) :
    IsHistory (later.rowsOf principal) ↔ AllEndedBy table principal row.effectiveFrom := by
  have hsame : later.rowsOf principal = table.rowsOf principal ++ [row] := by
    unfold AssignmentTable.rowsOf
    rw [hrows, List.filter_append]
    simp [hof]
  have hends : ∀ earlier ∈ table.rowsOf principal,
      (earlier.window.Apart row.window ↔ earlier.window.EndsBy row.effectiveFrom) := by
    intro earlier hearlier
    have hnonempty := table.windows earlier (AssignmentTable.mem_rowsOf.mp hearlier).1
    exact Window.apart_open_iff hnonempty hopen
  rw [hsame]
  constructor
  · intro hlater earlier hearlier
    have happend := (List.pairwise_append.mp hlater.apart).2.2
    exact (hends earlier hearlier).mp (happend earlier hearlier row (List.mem_singleton_self row))
  · intro hall
    refine isHistory_of_apart (List.pairwise_append.mpr ⟨hhistory.apart, ?_, ?_⟩)
    · exact List.pairwise_singleton _ _
    · intro earlier hearlier other hother
      rw [List.mem_singleton.mp hother]
      exact (hends earlier hearlier).mpr (hall earlier hearlier)

theorem isHistory_inserted_of_ne {row : UserJurisdictionAssignment} (hof : ¬ row.IsOf principal)
    (hrows : later.rows = table.rows ++ [row]) :
    later.rowsOf principal = table.rowsOf principal := by
  unfold AssignmentTable.rowsOf
  rw [hrows, List.filter_append]
  simp [hof]

end Table

/-- What continues the history of a principal: every row has ended by the start of a new one. -/
def Continues (principal : UserAssignmentPrincipal) (c : AssignmentConfiguration) (_ : ℕ)
    (_ : AssignmentRequest) : AssignmentOp → Prop
  | .insert _ row =>
    row.IsOf principal → AllEndedBy c.store.assignments principal row.effectiveFrom
  | _ => True

instance (principal : UserAssignmentPrincipal) (c : AssignmentConfiguration) (caller : ℕ)
    (request : AssignmentRequest) (op : AssignmentOp) :
    Decidable (Continues principal c caller request op) := by
  unfold Continues
  split <;> infer_instance

section Run

variable {principal : UserAssignmentPrincipal} {start c later : AssignmentConfiguration}

theorem isHistory_step {event : AssignmentEvent}
    (hhistory : IsHistory (c.store.assignments.rowsOf principal))
    (hmeets : Meets (Continues principal) c event)
    (hstep : assignmentMachine.step c event = some later) :
    IsHistory (later.store.assignments.rowsOf principal) := by
  cases Machine.steps_of_step_eq_some hstep with
  | start request => exact hhistory
  | end_ hcall => exact hhistory
  | turn register => exact hhistory
  | @perform caller oracle request op next store answer hcall hanswer =>
    have hchanges := AssignmentStore.changes_of_answered hanswer
    have hcontinues := hmeets.performed hcall
    show IsHistory (store.assignments.rowsOf principal)
    generalize store.assignments = after at hchanges
    cases hchanges with
    | kept answer => exact hhistory
    | ended hopen hrows => exact isHistory_ended hopen hrows hhistory
    | @inserted owner row _ hofOwner hopen hrows =>
      by_cases hof : row.IsOf principal
      · exact (isHistory_inserted_iff hof hopen hrows hhistory).mpr (hcontinues hof)
      · rw [isHistory_inserted_of_ne hof hrows]
        exact hhistory

/-- An insertion that goes through continues a history exactly if every row has ended by its start. -/
theorem isHistory_insert_iff {caller : ℕ} {oracle : AssignmentOracle}
    {owner : UserAssignmentPrincipal} {row : UserJurisdictionAssignment}
    (hhistory : IsHistory (c.store.assignments.rowsOf principal))
    (hstep : assignmentMachine.step c (.advance caller oracle) = some later)
    (hinserted : later.history = ⟨caller, .insert owner row, .ok ()⟩ :: c.history) :
    IsHistory (later.store.assignments.rowsOf principal) ↔
      (row.IsOf principal → AllEndedBy c.store.assignments principal row.effectiveFrom) := by
  obtain ⟨_, request, next, -, -, hanswer⟩ :=
    Machine.performed_of_history_eq_cons hstep hinserted
  obtain ⟨hopen, hrows⟩ := AssignmentStore.inserted_of_answered hanswer
  by_cases hof : row.IsOf principal
  · rw [isHistory_inserted_iff hof hopen hrows hhistory]
    simp [hof]
  · rw [isHistory_inserted_of_ne hof hrows]
    simp [hof, hhistory]

/-- In a run whose insertions continue the history of a principal, every state reached has it; and an
insertion keeps it exactly if it continues it. -/
theorem isHistory_of_reaches
    (hreaches : assignmentMachine.Reaches (Meets (Continues principal)) start c)
    (hstart : IsHistory (start.store.assignments.rowsOf principal)) :
    IsHistory (c.store.assignments.rowsOf principal) ∧
      ∀ caller oracle owner row later,
        assignmentMachine.step c (.advance caller oracle) = some later →
        later.history = ⟨caller, .insert owner row, .ok ()⟩ :: c.history →
        (IsHistory (later.store.assignments.rowsOf principal) ↔
          (row.IsOf principal →
            AllEndedBy c.store.assignments principal row.effectiveFrom)) := by
  have hhistory : IsHistory (c.store.assignments.rowsOf principal) := by
    induction hreaches with
    | refl => exact hstart
    | step _ hmeets hstep ih => exact isHistory_step ih hmeets hstep
  exact ⟨hhistory, fun _ _ _ _ _ hstep hinserted ↦ isHistory_insert_iff hhistory hstep hinserted⟩

end Run

/-! ### An end in the future -/

namespace Scenario

def subject : UserAssignmentPrincipal where
  tenantId := ⟨"22222222-2222-4222-8222-222222222222", isUuid_twos⟩
  userId := ⟨"11111111-1111-4111-8111-111111111111", isUuid_ones⟩

def operator : PolicyPrincipal := ⟨"user:operator", none⟩

def register : List JurisdictionRecord :=
  [⟨"SA", .approved, none, none⟩, ⟨"AE", .approved, none, none⟩]

def store : AssignmentStore := ⟨register, ⟨[], by simp, by simp⟩⟩

/-- The operator assigns a jurisdiction from an instant on. -/
def assigning (code : String) (source : AssignmentSource) (status : VerificationStatus)
    (effectiveFrom now : Instant) : AssignmentRequest :=
  .assign ⟨operator, subject.userId, subject.tenantId, code, source, status, effectiveFrom,
    "onboarding", now⟩

/-- A call that makes a number of steps without a failure, with its id for what it inserts. -/
def serving (caller : ℕ) (request : AssignmentRequest) (id : String) (steps : ℕ) :
    List AssignmentEvent :=
  .start request :: List.replicate steps (.advance caller { id := id })

/-- An unverified assignment from 5 on, which is then ended at 100. -/
def ending : List AssignmentEvent :=
  serving 0 (assigning "SA" .operatorAssigned .unverified 5 5) "first" 6 ++
    serving 1 (.endAssignment ⟨operator, subject.userId, subject.tenantId, 100, "moving", 10⟩) "" 4

/-- A verified assignment from 12 on, recorded before the end of the first. -/
def overlapping : List AssignmentEvent :=
  ending ++ serving 2 (assigning "AE" .providerVerified .verified 12 12) "second" 5

/-- A verified assignment from 100 on. -/
def following : List AssignmentEvent :=
  ending ++ serving 2 (assigning "AE" .providerVerified .verified 100 12) "second" 5

def followed : AssignmentConfiguration :=
  assignmentMachine.finish (Meets (Continues subject)) (.initial store) following

theorem isHistory_store : IsHistory (store.assignments.rowsOf subject) :=
  isHistory_of_apart List.Pairwise.nil

end Scenario

open Scenario in
theorem isHistory_of_reaches_followed :
    IsHistory (followed.store.assignments.rowsOf subject) ∧
      (followed.store.assignments.rowsOf subject).length = 2 :=
  ⟨(isHistory_of_reaches (Machine.reaches_finish following) isHistory_store).1,
    by decide⟩

open Scenario in
theorem overlapping_not_isHistory : ¬ ∀ principal store c,
    assignmentMachine.Reaches (fun _ _ ↦ True) (.initial store) c →
      IsHistory (store.assignments.rowsOf principal) →
      IsHistory (c.store.assignments.rowsOf principal) := by
  intro hlaw
  have hlater := hlaw subject store _ (Machine.reaches_finish overlapping) isHistory_store
  have htwo := hlater.oneInForce 50
  exact absurd htwo (by decide)

end Karar.Jurisdiction
