import Karar.OperatingEntity.MigrationConduct
import Karar.OperatingEntity.TableChanges
import Mathlib.Logic.Relation

/-!
# The statuses of a migration under concurrent calls

A call reads the status of a migration, checks the edge and writes later by the id alone. The guard of
the table keeps terminal rows and the link to an evaluation, so a late write does harm in one place
only: an evaluation that is recorded a second time after the migration awaits acceptance
(`NotLate`). `follows_transitions` says that in the runs without it every status change is an edge of
`TRANSITIONS`, and that such a write breaks this.
-/

namespace Karar.OperatingEntity

open Foundation SharedKernel

/-! ### The graph of statuses -/

def rank : EntityMigrationStatus → ℕ
  | .proposed => 0
  | .reconsentEvaluated => 1
  | .awaitingAcceptance => 2
  | .migrated => 3
  | .blocked => 3

theorem rank_lt_of_allowed {from_ to_ : EntityMigrationStatus}
    (hallowed : migrationTransitionAllowed from_ to_ = true) : rank from_ < rank to_ := by
  revert hallowed
  cases from_ <;> cases to_ <;> decide

/-- What follows from a status that was read follows from the one in the store, or is it, unless an
evaluation comes after the migration awaits acceptance. -/
theorem allowed_of_read {read current to_ : EntityMigrationStatus}
    (hallowed : migrationTransitionAllowed read to_ = true) (hrank : rank read ≤ rank current)
    (hopen : isTerminalMigrationStatus current = false)
    (hlate : ¬ (to_ = .reconsentEvaluated ∧ current = .awaitingAcceptance)) :
    to_ = current ∨ migrationTransitionAllowed current to_ = true := by
  revert hallowed hrank hopen hlate
  cases read <;> cases current <;> cases to_ <;> decide

/-! ### Changes of status -/

/-- Every change of a migration's status is an edge. -/
def FollowsTransitions (before after : MigrationTable) : Prop :=
  ∀ old ∈ before.rows, ∀ new ∈ after.rows, new.id = old.id →
    new.1.status = old.1.status ∨ migrationTransitionAllowed old.1.status new.1.status = true

instance (before after : MigrationTable) : Decidable (FollowsTransitions before after) :=
  inferInstanceAs (Decidable (∀ old ∈ before.rows, ∀ new ∈ after.rows, new.id = old.id →
    (_ ∨ _)))

/-- The write records an evaluation that the migration has, and that it awaits acceptance for. -/
def Late (table : MigrationTable) (id : String) (to_ : EntityMigrationStatus)
    (fields : AdvanceFields) : Prop :=
  to_ = .reconsentEvaluated ∧ ∃ row ∈ table.find id,
    row.1.status = .awaitingAcceptance ∧ row.1.reconsentEvaluationId = fields.reconsentEvaluationId

instance (table : MigrationTable) (id : String) (to_ : EntityMigrationStatus)
    (fields : AdvanceFields) : Decidable (Late table id to_ fields) :=
  inferInstanceAs (Decidable (_ ∧ ∃ row ∈ table.find id, _ ∧ _))

def NotLate (c : EntityConfiguration) (_ : ℕ) (_ : EntityRequest) : EntityOp → Prop
  | .advance id to_ fields => ¬ Late c.store.migrations id to_ fields
  | _ => True

instance (c : EntityConfiguration) (caller : ℕ) (request : EntityRequest) (op : EntityOp) :
    Decidable (NotLate c caller request op) := by
  unfold NotLate
  split <;> infer_instance

/-- No status was read that is later than the one in the store. -/
def ReadsBehind (c : EntityConfiguration) : Prop :=
  ∀ occurrence ∈ c.history, ∀ id migration,
    occurrence.performed = ⟨.findMigration id, .ok (some migration)⟩ →
    ∃ row ∈ c.store.migrations.rows, row.id = id ∧ rank migration.status ≤ rank row.1.status

section Table

variable {table later : MigrationTable}

theorem followsTransitions_self (table : MigrationTable) : FollowsTransitions table table := by
  intro old hold new hnew hid
  rw [table.eq_of_key hnew hold hid]
  exact .inl rfl

theorem followsTransitions_inserted {row : MigrationRow}
    (hinsert : KeyedTable.insert table row = some later) : FollowsTransitions table later := by
  intro old hold new hnew hid
  rcases (KeyedTable.mem_insert_iff hinsert).mp hnew with hthere | rfl
  · exact followsTransitions_self table old hold new hthere hid
  · exact absurd hid.symm (KeyedTable.key_ne_of_insert hinsert old hold)

theorem followsTransitions_put {row written : MigrationRow} {id : String}
    (hfind : table.find id = some row) (hid : written.id = row.id)
    (hstatus : written.1.status = row.1.status ∨
      migrationTransitionAllowed row.1.status written.1.status = true) :
    FollowsTransitions table (table.put written) := by
  obtain ⟨hrow, -⟩ := KeyedTable.find_eq_some_iff.mp hfind
  intro old hold new hnew hsame
  rcases KeyedTable.mem_put hnew with ⟨rfl, -⟩ | ⟨hthere, -⟩
  · obtain rfl := table.eq_of_key hold hrow (hsame.symm.trans hid)
    exact hstatus
  · exact followsTransitions_self table old hold new hthere hsame

/-- Rows stay. -/
theorem exists_row_of_changes {op : EntityOp} {answer : Except String op.Value}
    (hchanges : MigrationChanges table op answer later) {old : MigrationRow}
    (hold : old ∈ table.rows) : ∃ new ∈ later.rows, new.id = old.id := by
  cases hchanges with
  | kept answer => exact ⟨old, hold, rfl⟩
  | inserted hinsert => exact ⟨old, (KeyedTable.mem_insert_iff hinsert).mpr (.inl hold), rfl⟩
  | @advanced id to_ fields row written hfind hopen hlink hwritten =>
    by_cases hsame : old.id = written.id
    · refine ⟨written, ?_, hsame.symm⟩
      rw [KeyedTable.rows_put]
      exact List.mem_map.mpr ⟨old, hold, if_pos hsame⟩
    · exact ⟨old, KeyedTable.mem_put_of_ne hold hsame, rfl⟩

theorem FollowsTransitions.rank_le (hfollows : FollowsTransitions table later)
    {old new : MigrationRow} (hold : old ∈ table.rows) (hnew : new ∈ later.rows)
    (hid : new.id = old.id) : rank old.1.status ≤ rank new.1.status := by
  rcases hfollows old hold new hnew hid with hsame | hallowed
  · rw [hsame]
  · exact le_of_lt (rank_lt_of_allowed hallowed)

/-- A late write goes through. -/
theorem advance_of_late {id : String} {fields : AdvanceFields}
    (hlate : Late table id .reconsentEvaluated fields) (hcompleted : fields.completedAt = none) :
    ∃ row written : MigrationRow, row ∈ table.rows ∧ row.1.status = .awaitingAcceptance ∧
      written.id = row.id ∧ written.1.status = .reconsentEvaluated ∧
      MigrationTable.advance table id .reconsentEvaluated fields = .ok (table.put written) := by
  obtain ⟨-, row, hfind, hstatus, hlink⟩ := hlate
  obtain ⟨hrow, -⟩ := KeyedTable.find_eq_some_iff.mp hfind
  have hsame : (row.1.advanced .reconsentEvaluated fields).reconsentEvaluationId =
      row.1.reconsentEvaluationId := by
    simp [EntityMigration.advanced, hlink]
  have hadmissible : (row.1.advanced .reconsentEvaluated fields).Admissible := by
    obtain ⟨hsubject, hreason, hproposer, hentities, hterminal, hevaluation⟩ := row.2
    rw [hstatus] at hterminal hevaluation
    refine ⟨hsubject, hreason, hproposer, hentities, ?_, .inr ?_⟩
    · simpa [EntityMigration.advanced, isTerminalMigrationStatus, hcompleted] using hterminal
    · rw [hsame]
      simpa using hevaluation
  refine ⟨row, ⟨_, hadmissible⟩, hrow, hstatus, rfl, rfl, ?_⟩
  unfold MigrationTable.advance
  rw [hfind]
  simp [hstatus, isTerminalMigrationStatus, hsame, hadmissible]

end Table

section Run

variable {store : EntityStore} {c later : EntityConfiguration} {event : EntityEvent}

theorem exists_row_of_step (hstep : entityMachine.step c event = some later) {old : MigrationRow}
    (hold : old ∈ c.store.migrations.rows) :
    ∃ new ∈ later.store.migrations.rows, new.id = old.id := by
  cases Machine.steps_of_step_eq_some hstep with
  | start request => exact ⟨old, hold, rfl⟩
  | end_ hcall => exact ⟨old, hold, rfl⟩
  | turn entityId => exact ⟨old, hold, rfl⟩
  | perform hcall hanswer => exact exists_row_of_changes (changes_of_answered hanswer).1 hold

/-- A step that is not late changes statuses along the graph. -/
theorem ReadsBehind.follows (hbehind : ReadsBehind c)
    (hkeeps : Machine.Keeps entityMachine entityContract 0 c) (hmeets : Meets NotLate c event)
    (hstep : entityMachine.step c event = some later) :
    FollowsTransitions c.store.migrations later.store.migrations := by
  cases Machine.steps_of_step_eq_some hstep with
  | start request => exact followsTransitions_self _
  | end_ hcall => exact followsTransitions_self _
  | turn entityId => exact followsTransitions_self _
  | @perform caller oracle request op next store answer hcall hanswer =>
    have hconduct := hkeeps.allowed (Nat.zero_le _) hcall
    have hnotLate := hmeets.performed hcall
    have hchanges := (changes_of_answered hanswer).1
    show FollowsTransitions c.store.migrations store.migrations
    generalize store.migrations = after at hchanges
    cases hchanges with
    | kept answer => exact followsTransitions_self _
    | inserted hinsert => exact followsTransitions_inserted hinsert
    | @advanced id to_ fields row written hfind hopen hlink hwritten =>
      obtain ⟨hasks, migration, hread, hallowed⟩ := hconduct
      obtain ⟨hrow, hid⟩ := KeyedTable.find_eq_some_iff.mp hfind
      obtain ⟨found, hfound, hfoundId, hrank⟩ := hbehind _ (mem_logOf.mp hread) id migration rfl
      obtain rfl := c.store.migrations.eq_of_key hfound hrow (hfoundId.trans hid.symm)
      have hwrittenId : written.id = found.id := by
        show written.1.id = _
        rw [hwritten]
        rfl
      refine followsTransitions_put hfind hwrittenId ?_
      have hstatus : written.1.status = to_ := congrArg EntityMigration.status hwritten
      rw [hstatus]
      refine allowed_of_read hallowed hrank hopen fun hboth ↦ ?_
      -- The guard lets the evaluation pass only where it is the one the migration has.
      have hevaluated : found.1.reconsentEvaluationId ≠ none := by
        have hadmissible := found.2.2.2.2.2.2
        rw [hboth.2] at hadmissible
        simpa using hadmissible
      have hsame := hlink hevaluated
      refine hnotLate ⟨hboth.1, found, hfind, hboth.2, ?_⟩
      match request, hasks with
      | .recordEvaluation input, ⟨_, _, hfields⟩ =>
        rw [hfields] at hsame ⊢
        exact hsame.symm
      | .advance input, ⟨_, hto, _⟩ =>
        cases htarget : input.to_ <;> rw [htarget, hboth.1] at hto <;> cases hto

theorem ReadsBehind.step (hbehind : ReadsBehind c)
    (hfollows : FollowsTransitions c.store.migrations later.store.migrations)
    (hstep : entityMachine.step c event = some later) : ReadsBehind later := by
  cases Machine.steps_of_step_eq_some hstep with
  | start request => exact hbehind
  | end_ hcall => exact hbehind
  | turn entityId => exact hbehind
  | @perform caller oracle request op next store answer hcall hanswer =>
    intro occurrence hoccurrence id migration hread
    rcases List.mem_cons.mp hoccurrence with rfl | hearlier
    · cases hread
      have hperform := perform_of_performOrFail (perform_of_answered hanswer)
      obtain ⟨rfl, hfound⟩ := Prod.mk.inj (Except.ok.inj hperform)
      obtain ⟨row, hfind, rfl⟩ := Option.map_eq_some_iff.mp hfound
      obtain ⟨hrow, hid⟩ := KeyedTable.find_eq_some_iff.mp hfind
      exact ⟨row, hrow, hid, le_refl _⟩
    · obtain ⟨old, hold, hid, hrank⟩ := hbehind occurrence hearlier id migration hread
      obtain ⟨new, hnew, hsame⟩ := exists_row_of_step hstep hold
      exact ⟨new, hnew, hsame.trans hid, hrank.trans (hfollows.rank_le hold hnew hsame)⟩

theorem readsBehind_of_reaches
    (hreaches : entityMachine.Reaches (Meets NotLate) (.initial store) c) :
    ReadsBehind c ∧ Machine.Keeps entityMachine entityContract 0 c := by
  refine hreaches.keeps honours (fun _ _ ↦ trivial) ?_ (fun _ h ↦ absurd h List.not_mem_nil)
    (fun _ h ↦ absurd h List.not_mem_nil)
  intro c event later _ hbehind hkeeps hmeets hstep
  exact hbehind.step (hbehind.follows hkeeps hmeets hstep) hstep

/-- A late step that goes through changes a status against the graph. -/
theorem not_follows_of_late {caller : ℕ} {oracle : EntityOracle}
    (hkeeps : Machine.Keeps entityMachine entityContract 0 c)
    (hlate : ¬ Meets NotLate c (.advance caller oracle : EntityEvent))
    (hworks : oracle.failure = none)
    (hstep : entityMachine.step c (.advance caller oracle) = some later) :
    ¬ FollowsTransitions c.store.migrations later.store.migrations := by
  unfold Meets at hlate
  push Not at hlate
  obtain ⟨⟨request, op⟩, hnext, hop⟩ := hlate
  obtain ⟨next, hcall⟩ := exists_call_of_next hnext
  have hconduct := hkeeps.allowed (Nat.zero_le _) hcall
  cases op with
  | advance id to_ fields =>
    have hwrites : Late c.store.migrations id to_ fields := not_not.mp hop
    obtain rfl := hwrites.1
    have hcompleted : fields.completedAt = none := by
      match request, hconduct.1 with
      | .recordEvaluation input, ⟨_, _, hfields⟩ => rw [hfields]
      | .advance input, ⟨_, hto, _⟩ =>
        cases htarget : input.to_ <;> rw [htarget] at hto <;> cases hto
    obtain ⟨row, written, hrow, hawaits, hid, hstatus, hadvance⟩ :=
      advance_of_late hwrites hcompleted
    have hperform : c.store.performOrFail (.advance id .reconsentEvaluated fields) oracle =
        .ok ({ c.store with migrations := c.store.migrations.put written }, ()) := by
      simp only [EntityStore.performOrFail, hworks, EntityStore.perform, hadvance]
      rfl
    obtain rfl := Machine.later_of_answered hcall (answered_of_perform hperform) hstep
    intro hfollows
    have hput : written ∈ (c.store.migrations.put written).rows := by
      rw [KeyedTable.rows_put]
      exact List.mem_map.mpr ⟨row, hrow, if_pos hid.symm⟩
    have hedge := hfollows row hrow written hput hid
    rw [hawaits, hstatus] at hedge
    exact absurd hedge (by decide)
  | _ => exact absurd trivial hop

/-- The statuses of the migrations come along the edges of the graph. -/
def ComesAlong (before after : MigrationTable) : Prop :=
  ∀ old ∈ before.rows, ∃ new ∈ after.rows, new.id = old.id ∧
    Relation.ReflTransGen (fun from_ to_ ↦ migrationTransitionAllowed from_ to_ = true)
      old.1.status new.1.status

theorem comesAlong_of_reaches
    (hreaches : entityMachine.Reaches (Meets NotLate) (.initial store) c) :
    ComesAlong store.migrations c.store.migrations := by
  induction hreaches with
  | refl => exact fun old hold ↦ ⟨old, hold, rfl, .refl⟩
  | @step c later event hreaches hmeets hstep ih =>
    obtain ⟨hbehind, hkeeps⟩ := readsBehind_of_reaches hreaches
    have hfollows := hbehind.follows hkeeps hmeets hstep
    intro old hold
    obtain ⟨row, hrow, hid, hpath⟩ := ih old hold
    obtain ⟨new, hnew, hsame⟩ := exists_row_of_step hstep hrow
    refine ⟨new, hnew, hsame.trans hid, ?_⟩
    rcases hfollows row hrow new hnew hsame with heq | hallowed
    · rw [heq]
      exact hpath
    · exact hpath.tail hallowed

/-- In a run without late evaluations every status change is an edge of the graph, every migration
has come along its edges, and a late evaluation that goes through breaks this. -/
theorem follows_transitions
    (hreaches : entityMachine.Reaches (Meets NotLate) (.initial store) c)
    (hstep : entityMachine.step c event = some later) :
    ComesAlong store.migrations c.store.migrations ∧
      (Meets NotLate c event → FollowsTransitions c.store.migrations later.store.migrations) ∧
      ∀ caller oracle, event = .advance caller oracle → oracle.failure = none →
        ¬ Meets NotLate c event →
        ¬ FollowsTransitions c.store.migrations later.store.migrations := by
  obtain ⟨hbehind, hkeeps⟩ := readsBehind_of_reaches hreaches
  refine ⟨comesAlong_of_reaches hreaches, fun hmeets ↦ hbehind.follows hkeeps hmeets hstep, ?_⟩
  rintro caller oracle rfl hworks hlate
  exact not_follows_of_late hkeeps hlate hworks hstep

end Run

/-! ### An evaluation recorded twice -/

namespace MigrationScenario

def operator : PolicyPrincipal := ⟨"user:operator", none⟩

def proposal : MigrationRow where
  val :=
    { id := "migration"
      scope := .tenantDefault
      subjectRef := "tenant"
      fromEntity := "first"
      toEntity := "second"
      status := .proposed
      reason := "restructuring"
      reconsentEvaluationId := none
      proposedBy := "user:operator"
      proposedAt := 0
      completedAt := none }
  property := by decide

def store : EntityStore :=
  ⟨["first", "second"], .empty, ⟨[proposal], List.nodup_singleton _, List.nodup_singleton _⟩⟩

def evaluating : EntityRequest :=
  .recordEvaluation ⟨operator, "migration", "evaluation", 1⟩

def awaiting : EntityRequest :=
  .advance ⟨operator, "migration", .awaitingAcceptance, "consent is required", 2⟩

def steps (caller count : ℕ) : List EntityEvent :=
  List.replicate count (.advance caller {})

/-- An evaluation, and an advance up to its write. -/
def evaluation : List EntityEvent :=
  [.start evaluating, .start awaiting] ++ steps 0 4 ++ steps 1 2

def evaluated : EntityConfiguration :=
  entityMachine.finish (Meets NotLate) (.initial store) evaluation

/-- Two evaluations that read the proposal; one of them, and an advance, go through before the other
one writes. -/
def doubleEvaluation : List EntityEvent :=
  [.start evaluating, .start evaluating, .start awaiting] ++ steps 0 2 ++ steps 1 2 ++ steps 0 2 ++
    steps 2 4

def doublyEvaluated : EntityConfiguration :=
  entityMachine.finish (fun _ _ ↦ True) (.initial store) doubleEvaluation

end MigrationScenario

open MigrationScenario in
theorem follows_transitions_evaluated : ∃ later,
    entityMachine.step evaluated (.advance 1 {}) = some later ∧
      later.store.migrations.rows.map (·.1.status) = [.awaitingAcceptance] ∧
      FollowsTransitions evaluated.store.migrations later.store.migrations := by
  have hwrites : (entityMachine.step evaluated (.advance 1 {})).map
      (·.store.migrations.rows.map (·.1.status)) = some [.awaitingAcceptance] := by decide
  obtain ⟨later, hstep, hstatus⟩ := Option.map_eq_some_iff.mp hwrites
  have hlaw := follows_transitions (Machine.reaches_finish evaluation) hstep
  exact ⟨later, hstep, hstatus, hlaw.2.1 (by decide)⟩

open MigrationScenario in
theorem doublyEvaluated_moves_back : ¬ ∀ store c later event,
    entityMachine.Reaches (fun _ _ ↦ True) (.initial store) c →
      entityMachine.step c event = some later →
      FollowsTransitions c.store.migrations later.store.migrations := by
  intro hlaw
  have hmoves : ∃ migrations ∈ (entityMachine.step doublyEvaluated (.advance 1 {})).map
      (·.store.migrations),
      ¬ FollowsTransitions doublyEvaluated.store.migrations migrations := by
    decide
  obtain ⟨migrations, hafter, hbreaks⟩ := hmoves
  obtain ⟨later, hstep, rfl⟩ := Option.map_eq_some_iff.mp hafter
  exact hbreaks (hlaw store doublyEvaluated later (.advance 1 {})
    (Machine.reaches_finish doubleEvaluation) hstep)

end Karar.OperatingEntity
