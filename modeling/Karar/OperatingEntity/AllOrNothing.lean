import Karar.Foundation.SoleRun
import Karar.OperatingEntity.TableChanges
import Mathlib.Data.Set.BooleanAlgebra
import Mathlib.Order.CompletePartialOrder

/-!
# A set that stops half-way

`SetAssignmentBase.set` ends the open rows of its subject one after another and then inserts the
successor, each by a statement of its own. A set that returns a failure is to leave the rows as they
were (`AllOrNothing`). It does exactly where no end or insertion fails after a row has been ended, and
the audit trail takes the entry of the change (`allOrNothing_iff`).

A failure needs no outage: a window that would be empty is refused, so a start between those of two open
rows ends the first of them and stops at the second.
-/

namespace Karar.OperatingEntity

open Foundation SharedKernel SetAssignmentBase

/-! ### What a run performs -/

namespace Performance

/-- An open row was ended. -/
def Ended : EntityPerformed → Prop
  | ⟨.endAssignment _ _, .ok _⟩ => True
  | _ => False

def Inserted : EntityPerformed → Prop
  | ⟨.insertAssignment _, .ok _⟩ => True
  | _ => False

/-- An end or an insertion was refused, or its statement failed. -/
def FailedWrite : EntityPerformed → Prop
  | ⟨.endAssignment _ _, .error _⟩ => True
  | ⟨.insertAssignment _, .error _⟩ => True
  | _ => False

/-- The audit trail did not take an entry. -/
def Unrecorded : EntityPerformed → Prop
  | ⟨.record _, .ok (.error _)⟩ => True
  | _ => False

instance (performed : EntityPerformed) : Decidable (Ended performed) := by
  unfold Ended
  split <;> infer_instance

instance (performed : EntityPerformed) : Decidable (FailedWrite performed) := by
  unfold FailedWrite
  split <;> infer_instance

instance (performed : EntityPerformed) : Decidable (Unrecorded performed) := by
  unfold Unrecorded
  split <;> infer_instance

end Performance

open Performance

/-- A row was ended or inserted. -/
def Wrote (log : List EntityPerformed) : Prop :=
  ∃ performed ∈ log, Ended performed ∨ Inserted performed

/-- A statement failed after a row had been ended, or the change was not recorded. -/
def Disturbed (log : List EntityPerformed) : Prop :=
  ((∃ performed ∈ log, Ended performed) ∧ ∃ performed ∈ log, FailedWrite performed) ∨
    ∃ performed ∈ log, Unrecorded performed

instance (log : List EntityPerformed) : Decidable (Disturbed log) :=
  inferInstanceAs (Decidable ((_ ∧ _) ∨ _))

/-! ### What the writes leave in the table -/

/-- What the rows show: that there is a row of an id, and that it has ended. -/
def BindingTable.shows (table : BindingTable) : Set (String × Bool) :=
  {fact | ∃ row ∈ table.rows, row.id = fact.1 ∧ (fact.2 = true → row.1.effectiveTo ≠ none)}

section Shows

variable {table later : BindingTable}

theorem shows_ssubset_of_insert {row : BindingRow}
    (hinsert : KeyedTable.insert table row = some later) : table.shows ⊂ later.shows := by
  have hrows := KeyedTable.rows_of_insert hinsert
  refine (Set.ssubset_iff_of_subset ?_).mpr ⟨(row.id, false), ?_, ?_⟩
  · rintro fact ⟨old, hold, hid, hended⟩
    exact ⟨old, hrows ▸ List.mem_append_left _ hold, hid, hended⟩
  · exact ⟨row, hrows ▸ List.mem_append_right _ (List.mem_singleton_self row), rfl, nofun⟩
  · rintro ⟨old, hold, hid, -⟩
    exact KeyedTable.key_ne_of_insert hinsert old hold hid

theorem shows_ssubset_of_end {id : String} {effectiveTo : Instant} {row written : BindingRow}
    (hfind : table.find id = some row) (hopen : row.1.effectiveTo = none)
    (hwritten : written.1 = { row.1 with effectiveTo := some effectiveTo }) :
    table.shows ⊂ BindingTable.shows (table.put written) := by
  obtain ⟨hrow, hid⟩ := KeyedTable.find_eq_some_iff.mp hfind
  have hwrittenId : written.id = row.id := by
    show written.1.id = row.1.id
    rw [hwritten]
  have hended : written.1.effectiveTo ≠ none := by
    rw [hwritten]
    exact Option.some_ne_none _
  have hmem : written ∈ (table.put written).rows := by
    rw [KeyedTable.rows_put]
    exact List.mem_map.mpr ⟨row, hrow, if_pos hwrittenId.symm⟩
  refine (Set.ssubset_iff_of_subset ?_).mpr ⟨(row.id, true), ?_, ?_⟩
  · rintro fact ⟨old, hold, hsame, hfact⟩
    by_cases hkey : old.id = written.id
    · exact ⟨written, hmem, hkey.symm.trans hsame, fun _ ↦ hended⟩
    · exact ⟨old, KeyedTable.mem_put_of_ne hold hkey, hsame, hfact⟩
  · exact ⟨written, hmem, hwrittenId, fun _ ↦ hended⟩
  · rintro ⟨old, hold, hsame, hfact⟩
    obtain rfl := table.eq_of_key hold hrow hsame
    exact hfact rfl hopen

theorem eq_of_changes {op : EntityOp} {answer : Except String op.Value}
    (hchanges : BindingChanges table op answer later)
    (hends : ∀ id effectiveTo, op ≠ .endAssignment id effectiveTo)
    (hinserts : ∀ assignment, op ≠ .insertAssignment assignment) : later = table := by
  cases hchanges with
  | kept => rfl
  | inserted => exact absurd rfl (hinserts _)
  | ended => exact absurd rfl (hends _ _)

end Shows

section Run

variable {store final later : EntityStore} {log : List EntityPerformed}

/-- A write shows something new, and everything else leaves the rows alone. -/
theorem shows_of_answered {op : EntityOp} {oracle : EntityOracle} {answer : Except String op.Value}
    (hanswer : entityMachine.handler store op oracle = some (later, answer)) :
    ((Ended ⟨op, answer⟩ ∨ Inserted ⟨op, answer⟩) ∧ store.bindings.shows ⊂ later.bindings.shows) ∨
      (¬ (Ended ⟨op, answer⟩ ∨ Inserted ⟨op, answer⟩) ∧ later.bindings = store.bindings) := by
  have hchanges := (changes_of_answered hanswer).2
  cases answer with
  | error message =>
    have hsame : later = store := eq_of_thrown hanswer
    refine .inr ⟨?_, congrArg EntityStore.bindings hsame⟩
    cases op <;> simp [Ended, Inserted]
  | ok value =>
    have hperform := perform_of_performOrFail (perform_of_answered hanswer)
    cases op with
    | endAssignment id effectiveTo =>
      obtain ⟨bindings, hend, heq⟩ := bind_eq_ok hperform
      obtain ⟨rfl, -⟩ := Prod.mk.inj (Except.ok.inj heq)
      obtain ⟨row, written, hfind, hopen, hwritten, rfl⟩ := BindingTable.end_eq_ok hend
      exact .inl ⟨.inl trivial, shows_ssubset_of_end hfind hopen hwritten⟩
    | insertAssignment assignment =>
      obtain ⟨bindings, hinsert, heq⟩ := bind_eq_ok hperform
      obtain ⟨rfl, -⟩ := Prod.mk.inj (Except.ok.inj heq)
      obtain ⟨row, -, hrow⟩ := BindingTable.insert_eq_ok hinsert
      exact .inl ⟨.inr trivial, shows_ssubset_of_insert hrow⟩
    | _ =>
      refine .inr ⟨by simp [Ended, Inserted], eq_of_changes hchanges ?_ ?_⟩
      · exact fun _ _ ↦ nofun
      · exact fun _ ↦ nofun

/-- The rows of a run are those before it if and only if nothing was written. -/
theorem rows_eq_iff {Result : Type}
    {program : Program EntityOp (fun op ↦ Except String op.Value) Result} {result : Result}
    (hruns : RunsAlone entityMachine.handler store program log final result) :
    final.bindings.rows = store.bindings.rows ↔ ¬ Wrote log := by
  have hshows : (Wrote log ∧ store.bindings.shows ⊂ final.bindings.shows) ∨
      (¬ Wrote log ∧ final.bindings = store.bindings) := by
    induction hruns with
    | pure => exact .inr ⟨by simp [Wrote], rfl⟩
    | @call store later final op oracle answer next log result hanswer _ ih =>
      have hcons : Wrote (⟨op, answer⟩ :: log) ↔
          (Ended ⟨op, answer⟩ ∨ Inserted ⟨op, answer⟩) ∨ Wrote log := by
        simp only [Wrote, List.exists_mem_cons_iff]
      rw [hcons]
      rcases shows_of_answered hanswer with ⟨hwrites, hfirst⟩ | ⟨hreads, hfirst⟩
      · refine .inl ⟨.inl hwrites, ?_⟩
        rcases ih with ⟨-, hrest⟩ | ⟨-, hrest⟩
        · exact hfirst.trans hrest
        · rwa [hrest]
      · rw [← hfirst, or_iff_right hreads]
        exact ih
  rcases hshows with ⟨hwrote, hssubset⟩ | ⟨hnot, hsame⟩
  · refine iff_of_false (fun hrows ↦ ?_) (not_not.mpr hwrote)
    have heq : final.bindings.shows = store.bindings.shows := by
      unfold BindingTable.shows
      rw [hrows]
    exact hssubset.ne heq.symm
  · exact iff_of_true (congrArg KeyedTable.rows hsame) hnot

end Run

/-! ### The course of a set -/

section Course

variable {store final : EntityStore} {log : List EntityPerformed} {params : SetAssignmentParams}

/-- The ends go well one after another, or the last one fails. -/
theorem endAll_course {effectiveTo : Instant} {ids : List String} {result : Except String Unit}
    (hruns : RunsAlone entityMachine.handler store (endAll effectiveTo ids).run log final result) :
    (∀ performed ∈ log, ¬ Inserted performed ∧ ¬ Unrecorded performed) ∧
      ((∃ message, result = .error message ∧ ∃ performed ∈ log, FailedWrite performed) ∨
        result = .ok () ∧ ∀ performed ∈ log, ¬ FailedWrite performed) := by
  induction ids generalizing store log with
  | nil =>
    obtain ⟨rfl, rfl, rfl⟩ := runsAlone_return_iff.mp hruns
    simp
  | cons id rest ih =>
    unfold endAll at hruns
    rcases runsAlone_throwing_bind_iff.mp hruns with
      ⟨message, hend, rfl⟩ | ⟨early, middle, value, late, hend, hrest, rfl⟩
    · obtain ⟨rfl, -⟩ := runsAlone_ask_iff.mp hend
      simp [Inserted, Unrecorded, FailedWrite]
    · obtain ⟨rfl, -⟩ := runsAlone_ask_iff.mp hend
      obtain ⟨hkinds, hcourse⟩ := ih hrest
      refine ⟨?_, ?_⟩
      · simpa [Inserted, Unrecorded] using hkinds
      · simpa [FailedWrite] using hcourse

/-- Either everything is written, or nothing is inserted, and a write has failed if any went well. -/
theorem supersede_course {assignment : OperatingEntityAssignment}
    {result : Except String (List String)}
    (hruns : RunsAlone entityMachine.handler store (supersede params assignment).run log final
      result) :
    (∀ performed ∈ log, ¬ Unrecorded performed) ∧
      ((∃ message, result = .error message ∧ (∀ performed ∈ log, ¬ Inserted performed) ∧
          ((∃ performed ∈ log, Ended performed) → ∃ performed ∈ log, FailedWrite performed)) ∨
        ∃ ids, result = .ok ids ∧ (∃ performed ∈ log, Inserted performed) ∧
          ∀ performed ∈ log, ¬ FailedWrite performed) := by
  unfold supersede at hruns
  rcases runsAlone_throwing_bind_iff.mp hruns with
    ⟨message, hfind, rfl⟩ | ⟨finds, found, open_, late, hfind, hrest, rfl⟩
  · -- The open rows could not be read.
    obtain ⟨rfl, -⟩ := runsAlone_ask_iff.mp hfind
    simp [Unrecorded, Inserted, Ended]
  obtain ⟨rfl, -⟩ := runsAlone_ask_iff.mp hfind
  rcases runsAlone_throwing_bind_iff.mp hrest with
    ⟨message, hends, rfl⟩ | ⟨ends, ended, value, late, hends, hlate, rfl⟩
  · obtain ⟨hkinds, hcourse⟩ := endAll_course hends
    have hfailed : ∃ performed ∈ late, FailedWrite performed := by
      simpa using hcourse
    refine ⟨?_, .inl ⟨message, rfl, ?_, fun _ ↦ ?_⟩⟩
    · simpa [Unrecorded] using fun performed hmem ↦ (hkinds performed hmem).2
    · simpa [Inserted] using fun performed hmem ↦ (hkinds performed hmem).1
    · obtain ⟨performed, hmem, hfails⟩ := hfailed
      exact ⟨performed, by simp [hmem], hfails⟩
  obtain ⟨hkinds, hcourse⟩ := endAll_course hends
  have hwell : ∀ performed ∈ ends, ¬ FailedWrite performed := by
    simpa using hcourse
  rcases runsAlone_throwing_bind_iff.mp hlate with
    ⟨message, hinsert, rfl⟩ | ⟨inserts, inserted, value, late, hinsert, hreturn, rfl⟩
  · obtain ⟨rfl, -⟩ := runsAlone_ask_iff.mp hinsert
    refine ⟨?_, .inl ⟨message, rfl, ?_, fun _ ↦ ?_⟩⟩
    · simpa [Unrecorded, or_imp, forall_and] using fun performed hmem ↦ (hkinds performed hmem).2
    · simpa [Inserted, or_imp, forall_and] using fun performed hmem ↦ (hkinds performed hmem).1
    · exact ⟨⟨.insertAssignment assignment, .error message⟩, by simp, trivial⟩
  · obtain ⟨rfl, -⟩ := runsAlone_ask_iff.mp hinsert
    obtain ⟨rfl, rfl, rfl⟩ := runsAlone_return_iff.mp hreturn
    refine ⟨?_, .inr ⟨_, rfl, ?_, ?_⟩⟩
    · simpa [Unrecorded, or_imp, forall_and] using fun performed hmem ↦ (hkinds performed hmem).2
    · exact ⟨⟨.insertAssignment assignment, .ok value⟩, by simp, trivial⟩
    · simpa [FailedWrite, or_imp, forall_and] using hwell

theorem audited_course {entry : AuditEntry} {assignment : OperatingEntityAssignment}
    {result : Except String (Except EntityError OperatingEntityAssignment)}
    (hruns : RunsAlone entityMachine.handler store (audited entry assignment).run log final result) :
    (∀ performed ∈ log, ¬ Ended performed ∧ ¬ Inserted performed ∧ ¬ FailedWrite performed) ∧
      ((∃ failure, result = .ok (.error failure)) ↔ ∃ performed ∈ log, Unrecorded performed) := by
  unfold audited at hruns
  rcases runsAlone_throwing_bind_iff.mp hruns with
    ⟨message, hrecord, rfl⟩ | ⟨records, recorded, answer, rest, hrecord, hreturn, rfl⟩
  · obtain ⟨rfl, -⟩ := runsAlone_ask_iff.mp hrecord
    simp [Ended, Inserted, FailedWrite, Unrecorded]
  obtain ⟨rfl, -⟩ := runsAlone_ask_iff.mp hrecord
  cases answer with
  | error failure =>
    obtain ⟨rfl, -, rfl⟩ := runsAlone_return_iff.mp hreturn
    simp [Ended, Inserted, FailedWrite, Unrecorded]
  | ok =>
    obtain ⟨rfl, -, rfl⟩ := runsAlone_return_iff.mp hreturn
    simp [Ended, Inserted, FailedWrite, Unrecorded]

/-- The part of a set that writes, for an entity that the register has. -/
def change (params : SetAssignmentParams) :
    EntityStep (Except EntityError OperatingEntityAssignment) := do
  let id ← port .nextId
  match ← tried (supersede params (params.assignment id)) with
  | .error failure => return .error failure
  | .ok endedIds => audited (entry params (params.assignment id).id endedIds) (params.assignment id)

theorem change_course {result : Except String (Except EntityError OperatingEntityAssignment)}
    (hruns : RunsAlone entityMachine.handler store (change params).run log final result) :
    ((∃ failure, result = .ok (.error failure)) ∧ Wrote log) ↔ Disturbed log := by
  unfold change at hruns
  rcases runsAlone_throwing_bind_iff.mp hruns with
    ⟨message, hid, rfl⟩ | ⟨ids, named, id, rest, hid, hsupersede, rfl⟩
  · obtain ⟨rfl, -⟩ := runsAlone_ask_iff.mp hid
    simp [Disturbed, Ended, Unrecorded]
  obtain ⟨rfl, -⟩ := runsAlone_ask_iff.mp hid
  rcases runsAlone_throwing_bind_iff.mp hsupersede with
    ⟨message, htried, rfl⟩ | ⟨writes, written, ended, rest, htried, hrest, rfl⟩
  · obtain ⟨ended, -, hended⟩ := runsAlone_trying_iff.mp htried
    cases hended
  obtain ⟨inner, hwrites, hended⟩ := runsAlone_trying_iff.mp htried
  obtain rfl := Except.ok.inj hended
  obtain ⟨hrecords, hcourse⟩ := supersede_course hwrites
  rcases hcourse with ⟨message, rfl, hinserts, hends⟩ | ⟨endedIds, rfl, hinserted, hwell⟩
  · obtain ⟨rfl, -, rfl⟩ := runsAlone_return_iff.mp hrest
    have hwrote : Wrote writes ↔ ∃ performed ∈ writes, Ended performed := by
      refine exists_congr fun performed ↦ and_congr_right fun hmem ↦ ?_
      exact or_iff_left (hinserts performed hmem)
    have hdisturbed : Disturbed writes ↔ ∃ performed ∈ writes, Ended performed := by
      unfold Disturbed
      rw [or_iff_left fun ⟨performed, hmem, hunrecorded⟩ ↦ hrecords performed hmem hunrecorded]
      exact and_iff_left_of_imp hends
    have hiff := hwrote.trans hdisturbed.symm
    simpa [Wrote, Disturbed, Ended, Inserted, FailedWrite, Unrecorded] using hiff
  · obtain ⟨hreads, hfails⟩ := audited_course hrest
    have hwrote : Wrote (writes ++ rest) := by
      obtain ⟨performed, hmem, hinsert⟩ := hinserted
      exact ⟨performed, List.mem_append_left _ hmem, .inr hinsert⟩
    have hnone : ∀ performed ∈ writes ++ rest, ¬ FailedWrite performed :=
      List.forall_mem_append.mpr ⟨hwell, fun performed hmem ↦ (hreads performed hmem).2.2⟩
    have hdisturbed : Disturbed (writes ++ rest) ↔ ∃ performed ∈ rest, Unrecorded performed := by
      unfold Disturbed
      rw [or_iff_right fun ⟨_, performed, hmem, hfailed⟩ ↦ hnone performed hmem hfailed]
      simp only [List.mem_append, or_and_right, exists_or]
      exact or_iff_right fun ⟨performed, hmem, hunrecorded⟩ ↦ hrecords performed hmem hunrecorded
    have hiff := (and_iff_left hwrote).trans (hfails.trans hdisturbed.symm)
    simpa [Wrote, Disturbed, Ended, Inserted, FailedWrite, Unrecorded] using hiff

/-- A set returns a failure after a write if and only if it was disturbed. -/
theorem set_course {result : Except String (Except EntityError OperatingEntityAssignment)}
    (hruns : RunsAlone entityMachine.handler store (SetAssignmentBase.set params).run log final result) :
    ((∃ failure, result = .ok (.error failure)) ∧ Wrote log) ↔ Disturbed log := by
  unfold SetAssignmentBase.set at hruns
  rcases runsAlone_throwing_bind_iff.mp hruns with
    ⟨message, hauthorize, rfl⟩ | ⟨authorizes, authorized, decision, rest, hauthorize, hset, rfl⟩
  · obtain ⟨rfl, -⟩ := runsAlone_ask_iff.mp hauthorize
    simp [Disturbed, Ended, Unrecorded]
  obtain ⟨rfl, -⟩ := runsAlone_ask_iff.mp hauthorize
  cases decision with
  | error denied =>
    obtain ⟨rfl, -, rfl⟩ := runsAlone_return_iff.mp hset
    simp [Wrote, Disturbed, Ended, Inserted, Unrecorded]
  | ok =>
    rcases runsAlone_throwing_bind_iff.mp hset with
      ⟨message, htried, rfl⟩ | ⟨finds, found, entity, rest, htried, hknown, rfl⟩
    · obtain ⟨ended, -, hended⟩ := runsAlone_trying_iff.mp htried
      cases hended
    obtain ⟨ended, hfind, hended⟩ := runsAlone_trying_iff.mp htried
    obtain rfl := Except.ok.inj hended
    obtain ⟨rfl, -⟩ := runsAlone_ask_iff.mp hfind
    cases ended with
    | error message =>
      obtain ⟨rfl, -, rfl⟩ := runsAlone_return_iff.mp hknown
      simp [Wrote, Disturbed, Ended, Inserted, Unrecorded]
    | ok known =>
      cases known with
      | false =>
        obtain ⟨rfl, -, rfl⟩ := runsAlone_return_iff.mp hknown
        simp [Wrote, Disturbed, Ended, Inserted, Unrecorded]
      | true =>
        have hchange := change_course hknown
        simpa [Wrote, Disturbed, Ended, Inserted, FailedWrite, Unrecorded] using hchange

end Course

/-! ### The law -/

/-- A failure that is returned has left the rows as they were. -/
def AllOrNothing (store final : EntityStore)
    (result : Except String (Except EntityError OperatingEntityAssignment)) : Prop :=
  ∀ failure, result = .ok (.error failure) → final.bindings.rows = store.bindings.rows

/-- A set is all or nothing if and only if no end or insertion fails after a row has been ended and
the audit trail takes the entry of the change. -/
theorem allOrNothing_iff {store final : EntityStore} {params : SetAssignmentParams}
    {log : List EntityPerformed}
    {result : Except String (Except EntityError OperatingEntityAssignment)}
    (hruns : RunsAlone entityMachine.handler store (SetAssignmentBase.set params).run log final result) :
    AllOrNothing store final result ↔ ¬ Disturbed log := by
  rw [← set_course hruns]
  unfold AllOrNothing
  simp only [rows_eq_iff hruns]
  constructor
  · rintro hlaw ⟨⟨failure, hfailure⟩, hwrote⟩
    exact hlaw failure hfailure hwrote
  · intro hnot failure hfailure hwrote
    exact hnot ⟨⟨failure, hfailure⟩, hwrote⟩

namespace HalfWay

def operator : PolicyPrincipal := ⟨"user:operator", none⟩

def home : TenantId := ⟨"22222222-2222-4222-8222-222222222222", isUuid_twos⟩

def away : TenantId := ⟨"33333333-3333-4333-8333-333333333333", isUuid_threes⟩

def userId : UserId := ⟨"44444444-4444-4444-8444-444444444444", isUuid_fours⟩

/-- An open row of the user for a tenant. -/
def contract (id : String) (tenantId : TenantId) (effectiveFrom : Instant) : BindingRow :=
  ⟨⟨id, .userContracting, some tenantId, some userId, "first", effectiveFrom, none, "user:operator", 0⟩,
    by simp [OperatingEntityAssignment.Admissible, OperatingEntityAssignment.window, Window.Nonempty]⟩

/-- The user has contracted for one tenant, and later for another. -/
def store : EntityStore where
  entities := ["first", "second"]
  bindings := ⟨[contract "one" home 10, contract "two" away 20], by decide, by decide⟩
  migrations := .empty

/-- A binding of the user for every tenant. -/
def params (effectiveFrom : Instant) : SetAssignmentParams :=
  ⟨operator, .userContracting, none, some userId, "second", effectiveFrom, 30⟩

/-- The run of a set whose ports all work. -/
def run (effectiveFrom : Instant) :
    Option (List EntityPerformed × EntityStore ×
      Except String (Except EntityError OperatingEntityAssignment)) :=
  runAlone entityMachine.handler store (SetAssignmentBase.set (params effectiveFrom)).run
    (List.replicate 8 { id := "three" })

/-- What the rows and the result of such a run are. -/
def ends (effectiveFrom : Instant) :
    Option (List (Option Instant) ×
      Except String (Except EntityError OperatingEntityAssignment)) :=
  (run effectiveFrom).map fun (_, final, result) ↦
    (final.bindings.rows.map fun row ↦ row.1.effectiveTo, result)

end HalfWay

open HalfWay in
/-- A start before those of both open rows is refused at the first of them, and nothing has changed. -/
theorem allOrNothing_iff_early : ∃ log final result,
    RunsAlone entityMachine.handler store (SetAssignmentBase.set (params 5)).run log final result ∧
      result = .ok (.error (.storeFailure (checkViolation "operating_entity_assignments"))) ∧
      AllOrNothing store final result := by
  have hends : ends 5 = some ([none, none],
      .ok (.error (.storeFailure (checkViolation "operating_entity_assignments")))) := by
    decide
  obtain ⟨⟨log, final, result⟩, hrun, heq⟩ := Option.map_eq_some_iff.mp hends
  have hruns := runsAlone_of_runAlone hrun
  refine ⟨log, final, result, hruns, (Prod.mk.inj heq).2, (allOrNothing_iff hruns).mpr ?_⟩
  have hlog : (run 5).map (fun (log, _, _) ↦ decide (Disturbed log)) = some false := by
    decide
  rw [hrun] at hlog
  simpa using hlog

open HalfWay in
/-- A start between those of the open rows ends the first and is refused at the second. -/
theorem not_allOrNothing_between : ¬ ∀ store params log final result,
    RunsAlone entityMachine.handler store (SetAssignmentBase.set params).run log final result →
      AllOrNothing store final result := by
  intro hlaw
  have hends : ends 15 = some ([some 15, none],
      .ok (.error (.storeFailure (checkViolation "operating_entity_assignments")))) := by
    decide
  obtain ⟨⟨log, final, result⟩, hrun, heq⟩ := Option.map_eq_some_iff.mp hends
  obtain ⟨hrows, hresult⟩ := Prod.mk.inj heq
  have hsame := hlaw store (params 15) log final result (runsAlone_of_runAlone hrun) _ hresult
  rw [hsame] at hrows
  exact absurd hrows (by decide)

end Karar.OperatingEntity
