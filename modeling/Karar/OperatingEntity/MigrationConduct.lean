import Karar.OperatingEntity.UseCases

/-!
# What the use cases do to migrations

The contract of the use cases: a status is written only by an evaluation or an advance, with the
fields it asks for, and after the migration was read in a status from which the written one follows.
`MigrationChanges` is what a single statement does to the table.
-/

namespace Karar.OperatingEntity

open Foundation SharedKernel

/-- The request asks for the write. -/
def Asks (id : String) (to_ : EntityMigrationStatus) (fields : AdvanceFields) :
    EntityRequest → Prop
  | .recordEvaluation input =>
    id = input.migrationId ∧ to_ = .reconsentEvaluated ∧
      fields = { reconsentEvaluationId := some input.reconsentEvaluationId }
  | .advance input =>
    id = input.migrationId ∧ to_ = input.to_.status ∧ fields = AdvanceEntityMigration.fields input
  | _ => False

/-- The log reads the migration in a status from which another one follows. -/
def ReadBefore (log : List EntityPerformed) (id : String) (to_ : EntityMigrationStatus) : Prop :=
  ∃ migration, ⟨.findMigration id, .ok (some migration)⟩ ∈ log ∧
    migrationTransitionAllowed migration.status to_ = true

/-- What a call may perform, given what it performed before. -/
def Conduct (request : EntityRequest) (log : List EntityPerformed) : EntityOp → Prop
  | .advance id to_ fields => Asks id to_ fields request ∧ ReadBefore log id to_
  | _ => True

def entityContract :
    Machine.Contract EntityOp (fun op ↦ Except String op.Value) EntityStore EntityRequest
      (Except String EntityOutcome) where
  invariant _ := True
  allowed := Conduct
  post _ _ _ := True

/-! ### The other use cases -/

def IsNotAdvance : EntityOp → Prop
  | .advance _ _ _ => False
  | _ => True

theorem uses_requireNonEmpty {kind : EntityOp → Prop} (field value : String) :
    (requireNonEmpty field value).run.Uses kind := by
  unfold requireNonEmpty
  split_ifs
  · trivial
  · trivial

theorem uses_audited {Result : Type} (entry : AuditEntry) (result : Result) :
    (audited entry result).run.Uses IsNotAdvance := by
  unfold audited
  refine uses_throwing_bind (uses_ask trivial) fun recorded ↦ ?_
  cases recorded <;> trivial

theorem firstUnknown_uses (entities : List OperatingEntityId) :
    (ProposeEntityMigration.firstUnknown entities).run.Uses IsNotAdvance := by
  induction entities with
  | nil => trivial
  | cons entityId rest ih =>
    unfold ProposeEntityMigration.firstUnknown
    refine uses_throwing_bind (uses_ask trivial) fun found ↦ ?_
    split_ifs
    · exact ih
    · trivial

theorem propose_uses (input : ProposeEntityMigration.Input) :
    (ProposeEntityMigration.execute input).run.Uses IsNotAdvance := by
  unfold ProposeEntityMigration.execute
  split_ifs
  · trivial
  · refine uses_throwing_bind (uses_ask trivial) fun decision ↦ ?_
    cases decision with
    | error denied => trivial
    | ok _ =>
      refine uses_throwing_bind (uses_trying (firstUnknown_uses _)) fun unknown ↦ ?_
      match unknown with
      | .error failure => trivial
      | .ok (some entityId) => trivial
      | .ok none =>
        refine uses_throwing_bind (uses_ask trivial) fun id ↦ ?_
        refine uses_throwing_bind (uses_requireNonEmpty _ _) fun subjectRef ↦ ?_
        refine uses_throwing_bind (uses_requireNonEmpty _ _) fun reason ↦ ?_
        refine uses_throwing_bind (uses_trying (uses_ask trivial)) fun inserted ↦ ?_
        cases inserted with
        | error failure => trivial
        | ok _ => exact uses_audited _ _

theorem endAll_uses (effectiveTo : Instant) (ids : List String) :
    (SetAssignmentBase.endAll effectiveTo ids).run.Uses IsNotAdvance := by
  induction ids with
  | nil => trivial
  | cons id rest ih => exact uses_throwing_bind (uses_ask trivial) fun _ ↦ ih

theorem set_uses (params : SetAssignmentBase.SetAssignmentParams) :
    (SetAssignmentBase.set params).run.Uses IsNotAdvance := by
  unfold SetAssignmentBase.set
  refine uses_throwing_bind (uses_ask trivial) fun decision ↦ ?_
  cases decision with
  | error denied => trivial
  | ok _ =>
    refine uses_throwing_bind (uses_trying (uses_ask trivial)) fun found ↦ ?_
    match found with
    | .error failure => trivial
    | .ok false => trivial
    | .ok true =>
      have hsupersede : ∀ assignment,
          (SetAssignmentBase.supersede params assignment).run.Uses IsNotAdvance := by
        intro assignment
        refine uses_throwing_bind (uses_ask trivial) fun open_ ↦ ?_
        refine uses_throwing_bind (endAll_uses _ _) fun _ ↦ ?_
        exact uses_throwing_bind (uses_ask trivial) fun _ ↦ trivial
      refine uses_throwing_bind (uses_ask trivial) fun id ↦ ?_
      refine uses_throwing_bind (uses_trying (hsupersede _)) fun ended ↦ ?_
      cases ended with
      | error failure => trivial
      | ok endedIds => exact uses_audited _ _

/-- A resolution only looks for rows in force. -/
theorem resolve_uses {kind : EntityOp → Prop}
    (hkind : ∀ scope subject at_, kind (.findActiveAt scope subject at_))
    (input : ResolveEffectiveOperatingEntity.Input) :
    (ResolveEffectiveOperatingEntity.execute input).run.Uses kind := by
  have hdefault : (ResolveEffectiveOperatingEntity.tenantDefault input).run.Uses kind := by
    refine uses_throwing_bind (uses_ask (hkind ..)) fun defaults ↦ ?_
    cases newest defaults <;> trivial
  have hresolve : (ResolveEffectiveOperatingEntity.resolve input).run.Uses kind := by
    unfold ResolveEffectiveOperatingEntity.resolve
    cases input.userId with
    | none => exact hdefault
    | some userId =>
      refine uses_throwing_bind (uses_ask (hkind ..)) fun contracting ↦ ?_
      cases newest contracting with
      | none => exact hdefault
      | some latest => trivial
  refine uses_throwing_bind (uses_trying hresolve) fun result ↦ ?_
  cases result <;> trivial

/-- A use case that writes no status keeps to the contract. -/
theorem honours_of_uses {request : EntityRequest}
    (huses : request.execute.run.Uses IsNotAdvance) :
    entityMachine.Honours entityContract request := by
  have hallowed : ∀ log op, IsNotAdvance op → entityContract.allowed request log op := by
    intro log op hop
    cases op with
    | advance id to_ fields => exact hop.elim
    | _ => trivial
  exact (safe_of_uses hallowed huses).mono fun _ _ _ ↦ trivial

/-! ### Evaluating and advancing -/

/-- What a request may do. -/
abbrev Behaves (request : EntityRequest) {Result : Type} (log : List EntityPerformed)
    (step : EntityStep Result) : Prop :=
  Safe entityMachine.handler (fun _ ↦ True) (Conduct request) (fun _ _ ↦ True) log step.run

section Behaves

variable {request : EntityRequest} {log : List EntityPerformed}

theorem behaves_audited {Result : Type} (entry : AuditEntry) (result : Result) :
    Behaves request log (audited entry result) := by
  refine safe_ask_then trivial (fun _ ↦ trivial) fun _ _ _ recorded _ ↦ ?_
  cases recorded <;> trivial

theorem readBefore_of_not_refused {id : String} {to_ : EntityMigrationStatus}
    {migration : EntityMigration}
    (hrefused : ¬ (!migrationTransitionAllowed migration.status to_) = true) :
    ReadBefore (⟨.findMigration id, .ok (some migration)⟩ :: log) id to_ :=
  ⟨migration, List.mem_cons_self .., by simpa using hrefused⟩

theorem behaves_requireNonEmpty_bind {Result : Type} {field value : String}
    {rest : String → EntityStep Result} (hrest : ∀ value, Behaves request log (rest value)) :
    Behaves request log (requireNonEmpty field value >>= rest) := by
  unfold requireNonEmpty
  split_ifs
  · trivial
  · exact hrest value

end Behaves

theorem recordEvaluation_honours (input : RecordMigrationReconsentEvaluation.Input) :
    entityMachine.Honours entityContract (.recordEvaluation input) := by
  have hexecute : Behaves (.recordEvaluation input) []
      (RecordMigrationReconsentEvaluation.execute input) := by
    refine behaves_requireNonEmpty_bind fun _ ↦ ?_
    refine safe_ask_then trivial (fun _ ↦ trivial) fun _ _ _ decision _ ↦ ?_
    cases decision with
    | error denied => trivial
    | ok _ =>
      refine safe_trying_bind (safe_ask trivial fun _ _ _ found _ ↦ ?_)
      match found with
      | .error message => trivial
      | .ok none => trivial
      | .ok (some migration) =>
        show Behaves _ _ (RecordMigrationReconsentEvaluation.recordOn input migration)
        unfold RecordMigrationReconsentEvaluation.recordOn
        split_ifs with hrefused
        · trivial
        · have hasks : Asks input.migrationId .reconsentEvaluated
              { reconsentEvaluationId := some input.reconsentEvaluationId } (.recordEvaluation input) := ⟨rfl, rfl, rfl⟩
          refine safe_trying_bind (safe_ask ⟨hasks, readBefore_of_not_refused hrefused⟩ ?_)
          intro _ _ _ answer _
          cases answer with
          | error message => trivial
          | ok _ => exact behaves_audited _ _
  exact safe_throwing_bind hexecute (fun _ _ _ ↦ trivial) fun _ _ _ ↦ trivial

theorem advance_honours (input : AdvanceEntityMigration.Input) :
    entityMachine.Honours entityContract (.advance input) := by
  have hexecute : Behaves (.advance input) [] (AdvanceEntityMigration.execute input) := by
    refine behaves_requireNonEmpty_bind fun _ ↦ ?_
    refine safe_ask_then trivial (fun _ ↦ trivial) fun _ _ _ decision _ ↦ ?_
    cases decision with
    | error denied => trivial
    | ok _ =>
      refine safe_trying_bind (safe_ask trivial fun _ _ _ found _ ↦ ?_)
      match found with
      | .error message => trivial
      | .ok none => trivial
      | .ok (some migration) =>
        show Behaves _ _ (AdvanceEntityMigration.advanceFrom input migration)
        unfold AdvanceEntityMigration.advanceFrom
        split_ifs with hrefused
        · trivial
        · have hasks : Asks input.migrationId input.to_.status
              (AdvanceEntityMigration.fields input) (.advance input) := ⟨rfl, rfl, rfl⟩
          refine safe_trying_bind (safe_ask ⟨hasks, readBefore_of_not_refused hrefused⟩ ?_)
          intro _ _ _ answer _
          cases answer with
          | error message => trivial
          | ok _ => exact behaves_audited _ _
  exact safe_throwing_bind hexecute (fun _ _ _ ↦ trivial) fun _ _ _ ↦ trivial

theorem honours (request : EntityRequest) : entityMachine.Honours entityContract request := by
  cases request with
  | propose input => exact honours_of_uses (uses_throwing_bind (propose_uses input) fun _ ↦ trivial)
  | recordEvaluation input => exact recordEvaluation_honours input
  | advance input => exact advance_honours input
  | setTenantDefault input =>
    exact honours_of_uses (uses_throwing_bind (set_uses _) fun _ ↦ trivial)
  | setUserContracting input =>
    exact honours_of_uses (uses_throwing_bind (set_uses _) fun _ ↦ trivial)
  | resolve input =>
    refine honours_of_uses (uses_throwing_bind (resolve_uses ?_ input) fun _ ↦ trivial)
    exact fun _ _ _ ↦ trivial

end Karar.OperatingEntity
