import Karar.Foundation.Interleaving
import Karar.Foundation.Throwing
import Karar.Jurisdiction.Assignment
import Mathlib.Data.List.Sort

/-!
# The ports of the assignment use cases

What assigning, ending and declaring a jurisdiction can ask for: a policy decision, the register, the
assignments of a principal, an id, and the audit trail. A statement of the repositories is one
operation: `endOpen` reads the open rows in one and ends them in the next. A port that fails throws
and has changed nothing.

The table has the constraints of its migration: its rows have distinct ids and windows that are not
empty, the only update ends an open row, and nothing is deleted.
-/

namespace Karar.Jurisdiction

open Foundation SharedKernel

/-! ### The table -/

structure UserAssignmentPrincipal where
  tenantId : TenantId
  userId : UserId
deriving DecidableEq

/-- The row is visible to the principal. -/
def UserJurisdictionAssignment.IsOf (row : UserJurisdictionAssignment)
    (principal : UserAssignmentPrincipal) : Prop :=
  row.userId = principal.userId ∧ row.tenantId = principal.tenantId

instance (row : UserJurisdictionAssignment) (principal : UserAssignmentPrincipal) :
    Decidable (row.IsOf principal) :=
  inferInstanceAs (Decidable (_ ∧ _))

/-- `user_jurisdiction_assignments`. -/
structure AssignmentTable where
  rows : List UserJurisdictionAssignment
  distinct : (rows.map (·.id)).Nodup
  /-- `CHECK (effective_to IS NULL OR effective_to > effective_from)`. -/
  windows : ∀ row ∈ rows, row.window.Nonempty

namespace AssignmentTable

def rowsOf (table : AssignmentTable) (principal : UserAssignmentPrincipal) :
    List UserJurisdictionAssignment :=
  table.rows.filter (·.IsOf principal)

/-- The rows of the principal in the order of their starts. -/
def listForPrincipal (table : AssignmentTable) (principal : UserAssignmentPrincipal) :
    List UserJurisdictionAssignment :=
  (table.rowsOf principal).insertionSort fun first second ↦
    first.effectiveFrom ≤ second.effectiveFrom

/-- The ids of the open rows of the principal. -/
def findOpen (table : AssignmentTable) (principal : UserAssignmentPrincipal) : List String :=
  ((table.rowsOf principal).filter (·.effectiveTo = none)).map (·.id)

/-- The row is one that an update ends. -/
def IsSelected (principal : UserAssignmentPrincipal) (ids : List String)
    (row : UserJurisdictionAssignment) : Prop :=
  row.IsOf principal ∧ row.id ∈ ids

instance (principal : UserAssignmentPrincipal) (ids : List String)
    (row : UserJurisdictionAssignment) : Decidable (IsSelected principal ids row) :=
  inferInstanceAs (Decidable (_ ∧ _))

def endRow (principal : UserAssignmentPrincipal) (ids : List String) (endsAt : Instant)
    (row : UserJurisdictionAssignment) : UserJurisdictionAssignment :=
  if IsSelected principal ids row then { row with effectiveTo := some endsAt } else row

theorem endRow_id (principal : UserAssignmentPrincipal) (ids : List String) (endsAt : Instant)
    (row : UserJurisdictionAssignment) : (endRow principal ids endsAt row).id = row.id := by
  unfold endRow
  split_ifs <;> rfl

/-- `updateMany`: the guard refuses to end a row twice, and the check an empty window. -/
def endRows (table : AssignmentTable) (principal : UserAssignmentPrincipal) (ids : List String)
    (endsAt : Instant) : Except String AssignmentTable :=
  match table.rows.find? fun row ↦
      decide (IsSelected principal ids row) && row.effectiveTo.isSome with
  | some row =>
    .error (s!"user_jurisdiction_assignment {row.id} is ended and immutable; " ++
      "insert a successor assignment instead")
  | none =>
    if hwindows : ∀ row ∈ table.rows, IsSelected principal ids row → row.effectiveFrom < endsAt then
      .ok
        { rows := table.rows.map (endRow principal ids endsAt)
          distinct := by
            rw [List.map_map]
            have hid : (UserJurisdictionAssignment.id ∘ endRow principal ids endsAt) =
                UserJurisdictionAssignment.id := funext (endRow_id principal ids endsAt)
            rw [hid]
            exact table.distinct
          windows := by
            intro row hrow ending hending
            obtain ⟨old, hold, rfl⟩ := List.mem_map.mp hrow
            unfold endRow at hending ⊢
            split_ifs at hending ⊢ with hselected
            · obtain rfl := Option.some.inj hending
              exact hwindows old hold hselected
            · exact table.windows old hold ending hending }
    else
      .error "new row for relation \"user_jurisdiction_assignments\" violates check constraint"

/-- The insertion of an open row. -/
def insert (table : AssignmentTable) (register : List JurisdictionRecord)
    (row : UserJurisdictionAssignment) : Except String AssignmentTable :=
  if hwindow : row.effectiveTo ≠ none then
    .error "an inserted assignment is open"
  else if htaken : row.id ∈ table.rows.map (·.id) then
    .error "Unique constraint failed on the fields: (id)"
  else if !verificationPermittedForSource row.source row.verificationStatus ||
      row.reason = "" || row.assignedBy = "" then
    .error "new row for relation \"user_jurisdiction_assignments\" violates check constraint"
  else if !register.any (·.code = row.jurisdictionCode) then
    .error "Foreign key constraint violated"
  else
    .ok
      { rows := table.rows ++ [row]
        distinct := by
          rw [List.map_append, List.map_singleton]
          exact List.nodup_append.mpr ⟨table.distinct, List.nodup_singleton _,
            fun id hid other hother hsame ↦
              htaken ((hsame.trans (List.mem_singleton.mp hother)) ▸ hid)⟩
        windows := by
          intro found hfound ending hending
          rcases List.mem_append.mp hfound with hold | hnew
          · exact table.windows found hold ending hending
          · rw [List.mem_singleton.mp hnew] at hending
            exact absurd (hending.symm.trans (not_not.mp hwindow)) (Option.some_ne_none _) }

/-! What a statement does to the rows. -/

variable {table later : AssignmentTable} {principal : UserAssignmentPrincipal}
  {row : UserJurisdictionAssignment}

theorem mem_rowsOf : row ∈ table.rowsOf principal ↔ row ∈ table.rows ∧ row.IsOf principal := by
  unfold rowsOf
  simp

theorem endRow_window (principal : UserAssignmentPrincipal) (ids : List String) (endsAt : Instant)
    (hopen : IsSelected principal ids row → row.effectiveTo = none) :
    (endRow principal ids endsAt row).window.Within row.window := by
  unfold endRow
  split_ifs with hselected
  · have hnever : row.window.ending = none := hopen hselected
    exact Window.within_of_open hnever (some endsAt)
  · exact Window.Within.refl _

theorem isOf_endRow {owner : UserAssignmentPrincipal} (ids : List String) (endsAt : Instant) :
    (endRow principal ids endsAt row).IsOf owner ↔ row.IsOf owner := by
  unfold endRow
  split_ifs <;> exact Iff.rfl

theorem endRow_verificationStatus (ids : List String) (endsAt : Instant) :
    (endRow principal ids endsAt row).verificationStatus = row.verificationStatus := by
  unfold endRow
  split_ifs <;> rfl

/-- An update that goes through ends open rows, and leaves the others alone. -/
theorem endRows_eq_ok {ids : List String} {endsAt : Instant}
    (hended : table.endRows principal ids endsAt = .ok later) :
    (∀ row ∈ table.rows, IsSelected principal ids row → row.effectiveTo = none) ∧
      later.rows = table.rows.map (endRow principal ids endsAt) := by
  unfold endRows at hended
  split at hended
  · cases hended
  · rename_i hguard
    split_ifs at hended
    refine ⟨fun row hrow hselected ↦ ?_, congrArg rows (Except.ok.inj hended).symm⟩
    have hclear := List.find?_eq_none.mp hguard row hrow
    simpa [hselected] using hclear

/-- An insertion that goes through adds an open row. -/
theorem insert_eq_ok {register : List JurisdictionRecord}
    (hinserted : table.insert register row = .ok later) :
    row.effectiveTo = none ∧ later.rows = table.rows ++ [row] := by
  unfold insert at hinserted
  split_ifs at hinserted with hwindow
  exact ⟨not_not.mp hwindow, congrArg rows (Except.ok.inj hinserted).symm⟩

end AssignmentTable

/-! ### Operations -/

structure PolicyPrincipal where
  principalRef : String
  tenantRef : Option String
deriving DecidableEq

structure AuthorizationDenied where
  permission : String
  message : String
deriving DecidableEq

structure AuditAppendFailed where
  message : String
deriving DecidableEq

inductive MetadataValue
  | text (value : String)
  | instant (value : Instant)
deriving DecidableEq

structure AuditEntry where
  occurredAt : Instant
  actorRef : String
  tenantRef : Option String := none
  action : String
  resourceType : String
  resourceId : String
  reason : Option String
  afterMetadata : List (String × MetadataValue)
deriving DecidableEq

inductive AssignmentOp
  | authorize (principal : PolicyPrincipal) (permission : String)
  | findJurisdiction (code : String)
  | listForPrincipal (principal : UserAssignmentPrincipal)
  /-- The open rows, as `endOpen` reads them. -/
  | findOpen (principal : UserAssignmentPrincipal)
  /-- The update of `endOpen`. -/
  | endRows (principal : UserAssignmentPrincipal) (ids : List String) (endsAt : Instant)
  | insert (principal : UserAssignmentPrincipal) (assignment : UserJurisdictionAssignment)
  | nextId
  | record (entry : AuditEntry)
deriving DecidableEq

abbrev AssignmentOp.Value : AssignmentOp → Type
  | .authorize _ _ => Except AuthorizationDenied Unit
  | .findJurisdiction _ => Option JurisdictionRecord
  | .listForPrincipal _ => List UserJurisdictionAssignment
  | .findOpen _ => List String
  | .endRows _ _ _ => Unit
  | .insert _ _ => Unit
  | .nextId => String
  | .record _ => Except AuditAppendFailed Unit

/-- What the code does not decide: whether a port throws, the decision of the policy service, the
next id, and whether the audit trail can be written. -/
structure AssignmentOracle where
  failure : Option String := none
  denied : Option AuthorizationDenied := none
  id : String := ""
  auditFailure : Option AuditAppendFailed := none

structure AssignmentStore where
  register : List JurisdictionRecord
  assignments : AssignmentTable

namespace AssignmentStore

def exceptOf {Failure : Type} : Option Failure → Except Failure Unit
  | none => .ok ()
  | some failure => .error failure

def perform (store : AssignmentStore) :
    (op : AssignmentOp) → AssignmentOracle → Except String (AssignmentStore × op.Value)
  | .authorize _ _, oracle => .ok (store, exceptOf oracle.denied)
  | .findJurisdiction code, _ => .ok (store, store.register.find? (·.code = code))
  | .listForPrincipal principal, _ => .ok (store, store.assignments.listForPrincipal principal)
  | .findOpen principal, _ => .ok (store, store.assignments.findOpen principal)
  | .endRows principal ids endsAt, _ => do
    let assignments ← store.assignments.endRows principal ids endsAt
    return ({ store with assignments }, ())
  | .insert principal assignment, _ =>
    -- The policy of the table checks the principal of a new row.
    if assignment.IsOf principal then do
      let assignments ← store.assignments.insert store.register assignment
      return ({ store with assignments }, ())
    else .error "new row violates row-level security policy"
  | .nextId, oracle => .ok (store, oracle.id)
  | .record _, oracle => .ok (store, exceptOf oracle.auditFailure)

/-- An operation, where its port does not fail by itself. -/
def performOrFail (store : AssignmentStore) (op : AssignmentOp) (oracle : AssignmentOracle) :
    Except String (AssignmentStore × op.Value) :=
  match oracle.failure with
  | some message => .error message
  | none => store.perform op oracle

/-! ### What an operation does -/

open AssignmentTable

/-- What a table can become by an operation. -/
inductive Changes (table : AssignmentTable) :
    (op : AssignmentOp) → Except String op.Value → AssignmentTable → Prop
  | kept {op : AssignmentOp} (answer : Except String op.Value) : Changes table op answer table
  | ended {principal : UserAssignmentPrincipal} {ids : List String} {endsAt : Instant}
      {later : AssignmentTable}
      (hopen : ∀ row ∈ table.rows, IsSelected principal ids row → row.effectiveTo = none)
      (hrows : later.rows = table.rows.map (endRow principal ids endsAt)) :
    Changes table (.endRows principal ids endsAt) (.ok ()) later
  | inserted {principal : UserAssignmentPrincipal} {row : UserJurisdictionAssignment}
      {later : AssignmentTable} (hof : row.IsOf principal) (hopen : row.effectiveTo = none)
      (hrows : later.rows = table.rows ++ [row]) :
    Changes table (.insert principal row) (.ok ()) later

/-- An answered operation changes the table as its statement does, if at all. -/
theorem changes_of_answered {store later : AssignmentStore} {op : AssignmentOp}
    {oracle : AssignmentOracle} {answer : Except String op.Value}
    (hanswer : throwingHandler performOrFail store op oracle = some (later, answer)) :
    Changes store.assignments op answer later.assignments := by
  cases answer with
  | error message => exact eq_of_thrown hanswer ▸ .kept _
  | ok value =>
    have hperform := perform_of_answered hanswer
    unfold performOrFail at hperform
    split at hperform
    · cases hperform
    · cases op with
      | endRows principal ids endsAt =>
        obtain ⟨assignments, hended, heq⟩ := bind_eq_ok hperform
        obtain ⟨rfl, -⟩ := Prod.mk.inj (Except.ok.inj heq)
        obtain ⟨hopen, hrows⟩ := endRows_eq_ok hended
        exact .ended hopen hrows
      | insert principal row =>
        simp only [perform] at hperform
        split_ifs at hperform with hof
        obtain ⟨assignments, hinserted, heq⟩ := bind_eq_ok hperform
        obtain ⟨rfl, -⟩ := Prod.mk.inj (Except.ok.inj heq)
        obtain ⟨hopen, hrows⟩ := insert_eq_ok hinserted
        exact .inserted hof hopen hrows
      | authorize _ _ => exact (Prod.mk.inj (Except.ok.inj hperform)).1 ▸ .kept _
      | findJurisdiction _ => exact (Prod.mk.inj (Except.ok.inj hperform)).1 ▸ .kept _
      | listForPrincipal _ => exact (Prod.mk.inj (Except.ok.inj hperform)).1 ▸ .kept _
      | findOpen _ => exact (Prod.mk.inj (Except.ok.inj hperform)).1 ▸ .kept _
      | nextId => exact (Prod.mk.inj (Except.ok.inj hperform)).1 ▸ .kept _
      | record _ => exact (Prod.mk.inj (Except.ok.inj hperform)).1 ▸ .kept _

theorem inserted_of_answered {store later : AssignmentStore} {oracle : AssignmentOracle}
    {principal : UserAssignmentPrincipal} {row : UserJurisdictionAssignment} {answer : Unit}
    (hanswer : throwingHandler performOrFail store (.insert principal row) oracle =
      some (later, .ok answer)) :
    row.effectiveTo = none ∧ later.assignments.rows = store.assignments.rows ++ [row] := by
  have hperform := perform_of_answered hanswer
  unfold performOrFail at hperform
  split at hperform
  · cases hperform
  · simp only [perform] at hperform
    split_ifs at hperform
    obtain ⟨assignments, hinserted, heq⟩ := bind_eq_ok hperform
    obtain ⟨rfl, -⟩ := Prod.mk.inj (Except.ok.inj heq)
    exact insert_eq_ok hinserted

theorem existing_of_answered {store later : AssignmentStore} {oracle : AssignmentOracle}
    {principal : UserAssignmentPrincipal} {existing : List UserJurisdictionAssignment}
    (hanswer : throwingHandler performOrFail store (.listForPrincipal principal) oracle =
      some (later, .ok existing)) :
    existing = store.assignments.listForPrincipal principal ∧ later = store := by
  have hperform := perform_of_answered hanswer
  unfold performOrFail at hperform
  split at hperform
  · cases hperform
  · obtain ⟨hlater, hexisting⟩ := Prod.mk.inj (Except.ok.inj hperform)
    exact ⟨hexisting.symm, hlater.symm⟩

theorem code_of_answered {store later : AssignmentStore} {oracle : AssignmentOracle} {code : String}
    {register : JurisdictionRecord}
    (hanswer : throwingHandler performOrFail store (.findJurisdiction code) oracle =
      some (later, .ok (some register))) : register.code = code := by
  have hperform := perform_of_answered hanswer
  unfold performOrFail at hperform
  split at hperform
  · cases hperform
  · have hfound := List.find?_some (Prod.mk.inj (Except.ok.inj hperform)).2
    exact of_decide_eq_true hfound

end AssignmentStore

/-- A part of a use case that throws what is not in a `try` block. -/
abbrev AssignmentStep := Throwing AssignmentOp AssignmentOp.Value

def port (op : AssignmentOp) : AssignmentStep op.Value :=
  ask op

end Karar.Jurisdiction
