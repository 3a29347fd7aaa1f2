import Karar.OperatingEntity.Bindings

/-!
# Completing a migration

A migration that is completed is meant to rebind its subject from then on. The advance writes the
migration and nothing else (`bindings_of_completion`), so the subject resolves to the new entity
exactly where it was bound to it before (`completion_rebinds_iff`).
-/

namespace Karar.OperatingEntity

open Foundation SharedKernel

/-- The resolution is one for the tenant or the user whose binding migrates. -/
def ForSubject (migration : EntityMigration) (input : ResolveEffectiveOperatingEntity.Input) : Prop :=
  match migration.scope with
  | .tenantDefault => input.userId = none ∧ input.tenantId.value = migration.subjectRef
  | .userContracting => input.userId.map (·.value) = some migration.subjectRef

/-- From an instant on the subject resolves to the entity it migrates to. -/
def RebindsForward (migration : EntityMigration) (instant : Instant) (store : EntityStore) : Prop :=
  ∀ input, ForSubject migration input → instant ≤ input.at_ →
    ∃ effective, resolveIn store input = .ok (.ok effective) ∧
      effective.entityId = migration.toEntity

/-- Before an instant the subject resolves as it did. -/
def KeepsHistory (migration : EntityMigration) (instant : Instant) (before after : EntityStore) :
    Prop :=
  ∀ input, ForSubject migration input → input.at_ < instant →
    resolveIn after input = resolveIn before input

/-- The row in force for a principal: the user's, or the tenant's. -/
def BindingTable.inForce (table : BindingTable) (input : ResolveEffectiveOperatingEntity.Input) :
    Option OperatingEntityAssignment :=
  (table.contracting input.userId input.at_).or
    (newest (table.activeOf (.tenant input.tenantId) input.at_))

/-- From an instant on the row in force for the subject is bound to the entity it migrates to. -/
def AlreadyBound (migration : EntityMigration) (instant : Instant) (table : BindingTable) : Prop :=
  ∀ input, ForSubject migration input → instant ≤ input.at_ →
    ∃ row ∈ table.inForce input, row.entityId = migration.toEntity

/-- No binding is set. -/
def SetsNothing (_ : EntityConfiguration) (_ : ℕ) (_ : EntityRequest) : EntityOp → Prop
  | .insertAssignment _ => False
  | .endAssignment _ _ => False
  | _ => True

instance (c : EntityConfiguration) (caller : ℕ) (request : EntityRequest) (op : EntityOp) :
    Decidable (SetsNothing c caller request op) :=
  match op with
  | .insertAssignment _ | .endAssignment _ _ => isFalse not_false
  | .authorize _ _ | .findEntity _ | .findMigration _ | .insertMigration _ | .advance _ _ _
  | .findOpen _ _ | .findActiveAt _ _ _ | .nextId | .record _ => isTrue trivial

theorem BindingTable.resolution_eq (table : BindingTable)
    (input : ResolveEffectiveOperatingEntity.Input) :
    (∀ row ∈ table.inForce input, ∃ scope,
        table.resolution input = .ok (ResolveEffectiveOperatingEntity.effective scope row)) ∧
      (table.inForce input = none →
        table.resolution input = .error ResolveEffectiveOperatingEntity.noEffectiveEntity) := by
  unfold inForce resolution
  cases table.contracting input.userId input.at_ with
  | some latest =>
    refine ⟨fun row hrow ↦ ?_, by simp⟩
    obtain rfl : latest = row := by simpa using hrow
    exact ⟨_, rfl⟩
  | none =>
    cases newest (table.activeOf (.tenant input.tenantId) input.at_) with
    | some latest =>
      refine ⟨fun row hrow ↦ ?_, by simp⟩
      obtain rfl : latest = row := by simpa using hrow
      exact ⟨_, rfl⟩
    | none => simp

/-- The bindings decide whether the subject resolves to the entity it migrates to. -/
theorem rebindsForward_iff {migration : EntityMigration} {instant : Instant} {store : EntityStore} :
    RebindsForward migration instant store ↔ AlreadyBound migration instant store.bindings := by
  refine forall_congr' fun input ↦ imp_congr_right fun _ ↦ imp_congr_right fun _ ↦ ?_
  rw [resolveIn_eq]
  obtain ⟨hsome, hnone⟩ := store.bindings.resolution_eq input
  constructor
  · rintro ⟨effective, heffective, hentity⟩
    cases hforce : store.bindings.inForce input with
    | none =>
      rw [hnone hforce] at heffective
      cases heffective
    | some row =>
      obtain ⟨scope, hscope⟩ := hsome row hforce
      rw [hscope] at heffective
      obtain rfl := Except.ok.inj (Except.ok.inj heffective)
      exact ⟨row, rfl, hentity⟩
  · rintro ⟨row, hrow, hentity⟩
    obtain ⟨scope, hscope⟩ := hsome row hrow
    rw [hscope]
    exact ⟨_, rfl, hentity⟩

section Run

variable {c later final : EntityConfiguration}

/-- An advance leaves the bindings alone. -/
theorem bindings_of_completion {caller : ℕ} {oracle : EntityOracle} {id : String}
    {to_ : EntityMigrationStatus} {fields : AdvanceFields}
    (hstep : entityMachine.step c (.advance caller oracle) = some later)
    (hcompleted : later.history = ⟨caller, .advance id to_ fields, .ok ()⟩ :: c.history) :
    later.store.bindings = c.store.bindings := by
  obtain ⟨_, request, next, -, -, hanswer⟩ :=
    Machine.performed_of_history_eq_cons hstep hcompleted
  have hchanges := (changes_of_answered hanswer).2
  generalize later.store.bindings = after at hchanges
  cases hchanges with
  | kept answer => rfl

theorem bindings_of_reaches (hreaches : entityMachine.Reaches (Meets SetsNothing) c final) :
    final.store.bindings = c.store.bindings := by
  induction hreaches with
  | refl => rfl
  | @step c later event _ hmeets hstep ih =>
    rw [← ih]
    cases Machine.steps_of_step_eq_some hstep with
    | start request => rfl
    | end_ hcall => rfl
    | turn entityId => rfl
    | @perform caller oracle request op next store answer hcall hanswer =>
      have hsets := hmeets.performed hcall
      have hchanges := (changes_of_answered hanswer).2
      show store.bindings = c.store.bindings
      generalize store.bindings = after at hchanges
      cases hchanges with
      | kept answer => rfl
      | inserted hinsert => exact hsets.elim
      | ended hfind hopen hwritten => exact hsets.elim

/-- After a migration is completed, and until the next binding is set, its subject resolves as it did
before the completion instant; and from it on to the entity it migrates to exactly where it was bound
to that entity already. -/
theorem completion_rebinds_iff {caller : ℕ} {oracle : EntityOracle}
    {input : AdvanceEntityMigration.Input}
    (hstep : entityMachine.step c (.advance caller oracle) = some later)
    (hcompleted : later.history =
      ⟨caller, .advance input.migrationId .migrated (AdvanceEntityMigration.fields input), .ok ()⟩ ::
        c.history)
    (hsince : entityMachine.Reaches (Meets SetsNothing) later final) :
    ∀ migration ∈ c.store.migrations.find input.migrationId,
      (RebindsForward migration.1 input.now final.store ∧
          KeepsHistory migration.1 input.now c.store final.store) ↔
        AlreadyBound migration.1 input.now c.store.bindings := by
  intro migration _
  have hsame : final.store.bindings = c.store.bindings :=
    (bindings_of_reaches hsince).trans (bindings_of_completion hstep hcompleted)
  have hhistory : KeepsHistory migration.1 input.now c.store final.store := by
    intro resolving _ _
    rw [resolveIn_eq, resolveIn_eq, hsame]
  rw [rebindsForward_iff, hsame]
  exact and_iff_left hhistory

end Run

/-! ### A migration of a tenant's default -/

namespace RebindingScenario

def operator : PolicyPrincipal := ⟨"user:operator", none⟩

def tenantId : TenantId := ⟨"22222222-2222-4222-8222-222222222222", isUuid_twos⟩

def store : EntityStore := ⟨["first", "second"], .empty, .empty⟩

def steps (caller count : ℕ) : List EntityEvent :=
  List.replicate count (.advance caller { id := "row" })

/-- The tenant is bound to one entity, and a migration to the other is proposed and evaluated, up to
the write that completes it. -/
def completing : List EntityEvent :=
  [.start (.setTenantDefault ⟨operator, tenantId, "first", 0, 0⟩)] ++ steps 0 6 ++
    [.start (.propose ⟨operator, .tenantDefault, tenantId.value, "first", "second",
      "restructuring", 1⟩)] ++ steps 1 6 ++
    [.start (.recordEvaluation ⟨operator, "row", "evaluation", 2⟩)] ++ steps 2 4 ++
    [.start (.advance ⟨operator, "row", .migrated, "no consent is required", 10⟩)] ++ steps 3 2

def beforeCompletion : EntityConfiguration :=
  entityMachine.finish (fun _ _ ↦ True) (.initial store) completing

def completion : AdvanceEntityMigration.Input :=
  ⟨operator, "row", .migrated, "no consent is required", 10⟩

def completed : EntityConfiguration :=
  entityMachine.finish (fun _ _ ↦ True) beforeCompletion [.advance 3 {}]

/-- The audit entry is written, and the advance returns. -/
def afterCompletion : EntityConfiguration :=
  entityMachine.finish (Meets SetsNothing) completed [.advance 3 {}]

/-- The tenant after the completion. -/
def resolving : ResolveEffectiveOperatingEntity.Input := ⟨tenantId, none, 20⟩

theorem completed_step : entityMachine.step beforeCompletion (.advance 3 {}) = some completed :=
  Machine.step_finish (by decide)

theorem completed_history : completed.history =
    ⟨3, .advance completion.migrationId .migrated (AdvanceEntityMigration.fields completion),
      .ok ()⟩ :: beforeCompletion.history := by
  have hnext : beforeCompletion.next 3 = some (.advance completion,
      .advance "row" .migrated (AdvanceEntityMigration.fields completion)) := by decide
  have hworks : (beforeCompletion.store.performOrFail
      (.advance "row" .migrated (AdvanceEntityMigration.fields completion)) {}).isOk = true := by
    decide
  obtain ⟨store, value, hanswer⟩ := exists_answered hworks
  exact Machine.history_of_answered hnext hanswer completed_step

end RebindingScenario

open RebindingScenario in
theorem completion_rebinds_iff_completed : ∃ migration,
    beforeCompletion.store.migrations.find completion.migrationId = some migration ∧
      ((RebindsForward migration.1 10 afterCompletion.store ∧
          KeepsHistory migration.1 10 beforeCompletion.store afterCompletion.store) ↔
        AlreadyBound migration.1 10 beforeCompletion.store.bindings) := by
  have hexists : (beforeCompletion.store.migrations.find completion.migrationId).isSome = true := by
    decide
  obtain ⟨migration, hfind⟩ := Option.isSome_iff_exists.mp hexists
  exact ⟨migration, hfind, completion_rebinds_iff completed_step completed_history
    (Machine.reaches_finish _) migration hfind⟩

open RebindingScenario in
theorem completed_resolves_to_first : ¬ ∀ store c later final caller oracle input migration,
    entityMachine.Reaches (fun _ _ ↦ True) (.initial store) c →
      c.store.migrations.find input.migrationId = some migration →
      entityMachine.step c (.advance caller oracle) = some later →
      later.history =
        ⟨caller, .advance input.migrationId .migrated (AdvanceEntityMigration.fields input),
          .ok ()⟩ :: c.history →
      entityMachine.Reaches (Meets SetsNothing) later final →
      final.Returned caller (.advance input) (.ok (.advance (.ok ()))) →
      RebindsForward migration.1 input.now final.store ∧
        KeepsHistory migration.1 input.now c.store final.store := by
  intro hlaw
  have hfound : ∃ migration ∈ beforeCompletion.store.migrations.find "row",
      migration.1.scope = .tenantDefault ∧ migration.1.subjectRef = tenantId.value ∧
        migration.1.toEntity = "second" := by decide
  obtain ⟨migration, hfind, hscope, hsubject, htarget⟩ := hfound
  have hreturned : afterCompletion.Returned 3 (.advance completion) (.ok (.advance (.ok ()))) := by
    decide
  have hrebinds := (hlaw store beforeCompletion completed afterCompletion 3 {} completion migration
    (Machine.reaches_finish _) hfind completed_step completed_history (Machine.reaches_finish _)
    hreturned).1
  have hforSubject : ForSubject migration.1 resolving := by
    unfold ForSubject
    rw [hscope]
    exact ⟨rfl, hsubject.symm⟩
  obtain ⟨effective, hresolved, hentity⟩ := hrebinds resolving hforSubject (by decide)
  have hfirst : resolveIn afterCompletion.store resolving =
      .ok (.ok ⟨"first", .tenantDefault, "row"⟩) := by decide
  rw [hfirst] at hresolved
  obtain rfl := Except.ok.inj (Except.ok.inj hresolved)
  exact absurd (hentity.trans htarget) (by decide)

end Karar.OperatingEntity
