import Karar.OperatingEntity.MigrationConduct
import Karar.OperatingEntity.TableChanges

/-!
# The bindings of a subject

The rows of a tenant or of a user, and what `ResolveEffectiveOperatingEntity` makes of them: where its
ports work and the bindings stay as they are, it returns the newest row in force of the user, or of
the tenant (`resolveIn_eq`).
-/

namespace Karar.OperatingEntity

open Foundation SharedKernel

/-- Whose bindings a row is one of. -/
inductive BindingSubject
  | tenant (tenantId : TenantId)
  | user (userId : UserId)
deriving DecidableEq

def OperatingEntityAssignment.subject (row : OperatingEntityAssignment) : Option BindingSubject :=
  match row.scope with
  | .tenantDefault => row.tenantId.map .tenant
  | .userContracting => row.userId.map .user

def OperatingEntityAssignment.IsOf (row : OperatingEntityAssignment) (subject : BindingSubject) :
    Prop :=
  row.subject = some subject

instance (row : OperatingEntityAssignment) (subject : BindingSubject) :
    Decidable (row.IsOf subject) :=
  inferInstanceAs (Decidable (_ = _))

theorem isOf_tenant_iff {row : OperatingEntityAssignment} {tenantId : TenantId} :
    row.IsOf (.tenant tenantId) ↔ row.scope = .tenantDefault ∧ row.tenantId = some tenantId := by
  unfold OperatingEntityAssignment.IsOf OperatingEntityAssignment.subject
  cases row.scope <;> simp

theorem isOf_user_iff {row : OperatingEntityAssignment} {userId : UserId} :
    row.IsOf (.user userId) ↔ row.scope = .userContracting ∧ row.userId = some userId := by
  unfold OperatingEntityAssignment.IsOf OperatingEntityAssignment.subject
  cases row.scope <;> simp

namespace BindingTable

/-- In the order of their insertion. -/
def rowsOf (table : BindingTable) (subject : BindingSubject) : List OperatingEntityAssignment :=
  (table.rows.map (·.1)).filter (·.IsOf subject)

def activeOf (table : BindingTable) (subject : BindingSubject) (at_ : Instant) :
    List OperatingEntityAssignment :=
  (table.rowsOf subject).filter (·.window.Covers at_)

/-- The newest row in force of a user, if the user is known. -/
def contracting (table : BindingTable) (userId : Option UserId) (at_ : Instant) :
    Option OperatingEntityAssignment :=
  userId.bind fun userId ↦ newest (table.activeOf (.user userId) at_)

variable {table : BindingTable} {row : OperatingEntityAssignment}

theorem mem_rowsOf {subject : BindingSubject} :
    row ∈ table.rowsOf subject ↔ (∃ stored ∈ table.rows, stored.1 = row) ∧ row.IsOf subject := by
  unfold rowsOf
  simp

theorem mem_activeOf {subject : BindingSubject} {at_ : Instant} :
    row ∈ table.activeOf subject at_ ↔ row ∈ table.rowsOf subject ∧ row.window.Covers at_ := by
  unfold activeOf
  simp

theorem findActiveAt_user (table : BindingTable) (userId : UserId) (at_ : Instant) :
    table.findActiveAt .userContracting { userId := some userId } at_ =
      table.activeOf (.user userId) at_ := by
  unfold findActiveAt activeOf rowsOf
  rw [List.filter_filter]
  refine List.filter_congr fun row _ ↦ ?_
  rw [Bool.eq_iff_iff]
  simp only [SubjectFilter.admits, Bool.and_eq_true, decide_eq_true_eq, Option.all_none,
    Option.all_some, Bool.true_and, isOf_user_iff]
  tauto

theorem findActiveAt_tenant (table : BindingTable) (tenantId : TenantId) (at_ : Instant) :
    table.findActiveAt .tenantDefault { tenantId := some tenantId } at_ =
      table.activeOf (.tenant tenantId) at_ := by
  unfold findActiveAt activeOf rowsOf
  rw [List.filter_filter]
  refine List.filter_congr fun row _ ↦ ?_
  rw [Bool.eq_iff_iff]
  simp only [SubjectFilter.admits, Bool.and_eq_true, decide_eq_true_eq, Option.all_none,
    Option.all_some, Bool.and_true, isOf_tenant_iff]
  tauto

end BindingTable

/-! ### Resolution -/

/-- The answer of an operation in a store, where its port works. -/
def answerIn (store : EntityStore) (op : EntityOp) : Except String op.Value :=
  (store.perform op {}).map (·.2)

/-- What a resolution returns in a store, where its ports work. -/
def resolveIn (store : EntityStore) (input : ResolveEffectiveOperatingEntity.Input) :
    Except String (Except ResolveEffectiveOperatingEntity.ResolveEffectiveEntityError
      ResolveEffectiveOperatingEntity.EffectiveOperatingEntity) :=
  (ResolveEffectiveOperatingEntity.execute input).run.eval (answerIn store)

namespace BindingTable

open ResolveEffectiveOperatingEntity

/-- The user's newest row in force, or the tenant's. -/
def resolution (table : BindingTable) (input : Input) :
    Except ResolveEffectiveEntityError EffectiveOperatingEntity :=
  match table.contracting input.userId input.at_ with
  | some latest => .ok (effective .userContracting latest)
  | none =>
    match newest (table.activeOf (.tenant input.tenantId) input.at_) with
    | some latest => .ok (effective .tenantDefault latest)
    | none => .error noEffectiveEntity

end BindingTable

theorem tenantDefault_eval (store : EntityStore) (input : ResolveEffectiveOperatingEntity.Input) :
    (ResolveEffectiveOperatingEntity.tenantDefault input).run.eval (answerIn store) =
      .ok (match newest (store.bindings.activeOf (.tenant input.tenantId) input.at_) with
        | some latest => .ok (ResolveEffectiveOperatingEntity.effective .tenantDefault latest)
        | none => .error ResolveEffectiveOperatingEntity.noEffectiveEntity) := by
  have hanswer : answerIn store (.findActiveAt .tenantDefault { tenantId := some input.tenantId }
      input.at_) = .ok (store.bindings.activeOf (.tenant input.tenantId) input.at_) :=
    congrArg Except.ok (BindingTable.findActiveAt_tenant ..)
  unfold ResolveEffectiveOperatingEntity.tenantDefault port
  rw [eval_throwing_bind, eval_ask, hanswer]
  show Program.eval (answerIn store) _ = _
  cases newest (store.bindings.activeOf (.tenant input.tenantId) input.at_) <;> rfl

theorem resolveIn_eq (store : EntityStore) (input : ResolveEffectiveOperatingEntity.Input) :
    resolveIn store input = .ok (store.bindings.resolution input) := by
  have hresolve : (ResolveEffectiveOperatingEntity.resolve input).run.eval (answerIn store) =
      .ok (store.bindings.resolution input) := by
    unfold ResolveEffectiveOperatingEntity.resolve BindingTable.resolution BindingTable.contracting
    cases input.userId with
    | none => exact tenantDefault_eval store input
    | some userId =>
      have hanswer : answerIn store (.findActiveAt .userContracting { userId := some userId }
          input.at_) = .ok (store.bindings.activeOf (.user userId) input.at_) :=
        congrArg Except.ok (BindingTable.findActiveAt_user ..)
      simp only [Option.bind_some, port]
      rw [eval_throwing_bind, eval_ask, hanswer]
      show Program.eval (answerIn store) _ = _
      cases newest (store.bindings.activeOf (.user userId) input.at_) with
      | some latest => rfl
      | none => exact tenantDefault_eval store input
  unfold resolveIn ResolveEffectiveOperatingEntity.execute
  rw [eval_throwing_bind, eval_trying, hresolve]
  show Program.eval (answerIn store) _ = _
  cases store.bindings.resolution input <;> rfl

end Karar.OperatingEntity
