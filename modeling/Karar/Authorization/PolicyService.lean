import Karar.Authorization.Catalogue
import Karar.SharedKernel.Basic
import Mathlib.Data.List.Sort

/-!
# The policy service

`authorize` answers whether an actor may perform an operation, from the actor's own assignments: those
in force, those that apply in the actor's tenant context, and what their roles are granted.

The scope model of the assignments is that a tenant-scoped role binds to one tenant and authorizes in
no other, and that a platform-scoped role binds to none. The write path checks that a role's scope
admits the binding. The decision does not: a tenant role that a row binds to no tenant authorizes in
every tenant. `authorize_iff` says when the decision is the one of the scope model all the same.
-/

namespace Karar.Authorization

open Karar.SharedKernel

/-! ### Role assignments -/

/-- `ASSIGNMENT_STATUSES`. -/
inductive AssignmentStatus
  | active
  | revoked
deriving DecidableEq

/-- One grant. A `tenantId` of `none` is a platform-scoped one. -/
structure RoleAssignment where
  id : String
  userId : UserId
  roleId : RoleId
  tenantId : Option TenantId
  status : AssignmentStatus
  grantedBy : UserId
  reason : String
  effectiveFrom : Instant
  effectiveTo : Option Instant
  revokedAt : Option Instant
  revokedBy : Option UserId
  createdAt : Instant
deriving DecidableEq

/-- Is the assignment in force at the instant? -/
def assignmentActiveAt (assignment : RoleAssignment) (at_ : Instant) : Bool :=
  assignment.status == .active && assignment.revokedAt.isNone &&
    decide (assignment.effectiveFrom ≤ at_) && assignment.effectiveTo.all (at_ < ·)

/-- Does the assignment apply to a caller bound to the tenant? -/
def assignmentAppliesTo (assignment : RoleAssignment) (actorTenantId : Option TenantId) : Bool :=
  match assignment.tenantId with
  | none => true
  | some tenantId => actorTenantId == some tenantId

/-- The role's catalogue scope admits the assignment's binding. -/
def RoleAssignment.wellScoped (assignment : RoleAssignment) : Bool :=
  roleScopeAdmitsBinding assignment.roleId.scope assignment.tenantId.isSome

/-! ### The acting principal -/

/-- The acting principal. Without a tenant it acts in the platform context. -/
structure PolicyActor where
  userId : UserId
  tenantId : Option TenantId
  requestId : Option String
deriving DecidableEq

/-- The principal is present and its identifiers have their shape. -/
def requirePolicyActor : Option PolicyActor → Option PolicyActor
  | none => none
  | some actor =>
    if (UserId.parse actor.userId.value).isNone then none
    else if actor.tenantId.any fun tenantId ↦ (TenantId.parse tenantId.value).isNone then none
    else some actor

/-- An actor whose identifiers carry their shape is accepted. -/
@[simp] theorem requirePolicyActor_some (actor : PolicyActor) :
    requirePolicyActor (some actor) = some actor := by
  cases htenant : actor.tenantId <;> simp [requirePolicyActor, htenant]

/-! ### Reading the store -/

/-- The rows that the row-level policy shows in the actor's context: those of the bound tenant, and the
actor's own platform-scoped ones. -/
def visibleTo (actor : PolicyActor) (row : RoleAssignment) : Bool :=
  match row.tenantId with
  | some tenantId => actor.tenantId == some tenantId
  | none => row.userId == actor.userId

/-- The caller's own assignments in force at the instant, the oldest first. -/
def listOwnActive (rows : List RoleAssignment) (actor : PolicyActor) (at_ : Instant) :
    List RoleAssignment :=
  (rows.filter fun row ↦
    visibleTo actor row && row.userId == actor.userId && row.status == .active &&
      row.revokedAt.isNone && decide (row.effectiveFrom ≤ at_) &&
        row.effectiveTo.all (at_ < ·)).insertionSort fun first second ↦
          first.createdAt ≤ second.createdAt

theorem mem_listOwnActive {rows : List RoleAssignment} {actor : PolicyActor} {at_ : Instant}
    {row : RoleAssignment} :
    row ∈ listOwnActive rows actor at_ ↔
      row ∈ rows ∧ row.userId = actor.userId ∧ assignmentActiveAt row at_ = true ∧
        assignmentAppliesTo row actor.tenantId = true := by
  rw [listOwnActive, List.mem_insertionSort, List.mem_filter]
  simp only [assignmentActiveAt, assignmentAppliesTo, visibleTo, Bool.and_eq_true, beq_iff_eq]
  cases row.tenantId <;> simp <;> tauto

/-! ### The decision -/

/-- `PolicyDecision`. -/
structure PolicyDecision where
  allowed : Bool
  reason : String
deriving DecidableEq

/-- `POLICY_DENIAL_REASONS`. -/
inductive PolicyDenialReason
  | invalidActor
  | unknownPermission
  | noApplicableAssignment
  | permissionNotHeld
  | storeUnavailable
deriving DecidableEq

def PolicyDenialReason.text : PolicyDenialReason → String
  | invalidActor => "invalid_actor"
  | unknownPermission => "unknown_permission"
  | noApplicableAssignment => "no_applicable_assignment"
  | permissionNotHeld => "permission_not_held"
  | storeUnavailable => "assignment_store_unavailable"

def deny (reason : PolicyDenialReason) : PolicyDecision := ⟨false, reason.text⟩

/-- The assignments among the resolved ones that are in force and apply in the actor's context. -/
def applicable (resolved : List RoleAssignment) (actor : PolicyActor) (now : Instant) :
    List RoleAssignment :=
  resolved.filter fun assignment ↦
    assignmentActiveAt assignment now && assignmentAppliesTo assignment actor.tenantId

/-- Whether the role of an assignment is granted the permission of this name. -/
def carries (assignment : RoleAssignment) (permission : String) : Bool :=
  (permissionsGrantedTo assignment.roleId).any fun granted ↦ granted.text == permission

/-- `RbacPolicyService.authorize`, given what the store resolves for the actor; `none` is a store that
fails. -/
def authorize (resolve : PolicyActor → Option (List RoleAssignment)) (now : Instant)
    (actor : Option PolicyActor) (permission : String) : PolicyDecision :=
  match requirePolicyActor actor with
  | none => deny .invalidActor
  | some principal =>
    if isPermissionName permission = false then deny .unknownPermission
    else
      match resolve principal with
      | none => deny .storeUnavailable
      | some resolved =>
        match applicable resolved principal now with
        | [] => deny .noApplicableAssignment
        | first :: rest =>
          match (first :: rest).find? fun assignment ↦ carries assignment permission with
          | some assignment => ⟨true, s!"granted:{assignment.roleId.text}"⟩
          | none => deny .permissionNotHeld

/-- `RbacPolicyService.applicableRoles`, with the message of a store that fails. -/
def applicableRoles (resolve : PolicyActor → Except String (List RoleAssignment)) (now : Instant)
    (actor : Option PolicyActor) : Except String (List RoleId) :=
  match requirePolicyActor actor with
  | none => .ok []
  | some principal => do
    let resolved ← resolve principal
    pure ((applicable resolved principal now).map RoleAssignment.roleId)

/-! ### What the decision says -/

section Decision

variable {rows : List RoleAssignment} {actor : PolicyActor} {permission : String} {now : Instant}

/-- Only catalogue permissions are carried. -/
theorem isPermissionName_of_carries {assignment : RoleAssignment}
    (hcarries : carries assignment permission = true) : isPermissionName permission = true := by
  obtain ⟨granted, -, htext⟩ := List.any_eq_true.mp hcarries
  exact List.any_eq_true.mpr ⟨granted, PermissionName.mem_all granted, htext⟩

/-- The decision allows if and only if an applicable assignment carries the permission. -/
theorem authorize_allowed_iff {resolved : List RoleAssignment} :
    (authorize (fun _ ↦ some resolved) now (some actor) permission).allowed = true ↔
      ∃ assignment ∈ applicable resolved actor now, carries assignment permission = true := by
  simp only [authorize, requirePolicyActor_some]
  by_cases hname : isPermissionName permission = false
  · rw [if_pos hname]
    simp only [deny, Bool.false_eq_true, false_iff, not_exists, not_and]
    intro assignment _ hcarries
    rw [isPermissionName_of_carries hcarries] at hname
    exact absurd hname (by decide)
  · rw [if_neg hname]
    cases happlicable : applicable resolved actor now with
    | nil => simp [deny]
    | cons first rest =>
      cases hfind : (first :: rest).find? fun assignment ↦ carries assignment permission with
      | none =>
        have hnone := List.find?_eq_none.mp hfind
        simp only [hfind, deny, Bool.false_eq_true, false_iff, not_exists, not_and]
        exact hnone
      | some assignment =>
        have hcarries := List.find?_some hfind
        simp only [hfind, true_iff]
        exact ⟨assignment, List.mem_of_find?_eq_some hfind, hcarries⟩

/-- The applicable ones of the actor's own assignments. -/
theorem mem_applicable_listOwnActive {assignment : RoleAssignment} :
    assignment ∈ applicable (listOwnActive rows actor now) actor now ↔
      assignment ∈ rows ∧ assignment.userId = actor.userId ∧
        assignmentActiveAt assignment now = true ∧
        assignmentAppliesTo assignment actor.tenantId = true := by
  rw [applicable, List.mem_filter, mem_listOwnActive, Bool.and_eq_true]
  tauto

/-- The decision that the scope model asks for: an own assignment in force, of a role whose scope
admits the binding, platform-wide or bound to the actor's tenant, carries the permission. -/
def ScopedGrant (rows : List RoleAssignment) (actor : PolicyActor) (permission : String)
    (now : Instant) : Prop :=
  ∃ assignment ∈ rows, assignment.userId = actor.userId ∧ assignmentActiveAt assignment now = true ∧
    assignment.wellScoped = true ∧
    (assignment.tenantId = none ∨ assignment.tenantId = actor.tenantId) ∧
    carries assignment permission = true

/-- An allowed decision that names a tenant-scoped role as its ground is made in a tenant that the
actor holds the role in. -/
def TenantRoleConfined (rows : List RoleAssignment) (actor : PolicyActor) (now : Instant)
    (decision : PolicyDecision) : Prop :=
  ∀ role : RoleId, role.scope = .tenant → decision = ⟨true, s!"granted:{role.text}"⟩ →
    ∃ assignment ∈ rows, assignment.userId = actor.userId ∧
      assignmentActiveAt assignment now = true ∧ assignment.roleId = role ∧
      assignment.tenantId.isSome ∧ assignment.tenantId = actor.tenantId

/-- Whenever a mis-scoped assignment would authorize the actor, a well-scoped one does. -/
def ScopesCovered (rows : List RoleAssignment) (actor : PolicyActor) (permission : String)
    (now : Instant) : Prop :=
  ∀ assignment ∈ rows, assignment.userId = actor.userId → assignmentActiveAt assignment now = true →
    assignmentAppliesTo assignment actor.tenantId = true → carries assignment permission = true →
    assignment.wellScoped = false →
    ∃ other ∈ rows, other.userId = actor.userId ∧ assignmentActiveAt other now = true ∧
      assignmentAppliesTo other actor.tenantId = true ∧ carries other permission = true ∧
      other.wellScoped = true

/-- Assignments that apply to the actor are the platform-wide ones and those of the actor's tenant. -/
theorem assignmentAppliesTo_iff {assignment : RoleAssignment} {tenantId : Option TenantId} :
    assignmentAppliesTo assignment tenantId = true ↔
      assignment.tenantId = none ∨ assignment.tenantId.isSome ∧ assignment.tenantId = tenantId := by
  unfold assignmentAppliesTo
  cases assignment.tenantId with
  | none => simp
  | some bound =>
    rw [beq_iff_eq]
    constructor
    · intro hbound
      exact Or.inr ⟨rfl, hbound.symm⟩
    · rintro (hnone | ⟨-, hbound⟩)
      · simp at hnone
      · exact hbound.symm

/-- A well-scoped assignment of a tenant role is bound to a tenant. -/
theorem bound_of_wellScoped {assignment : RoleAssignment} (hscoped : assignment.wellScoped = true)
    (htenant : assignment.roleId.scope = .tenant) : assignment.tenantId.isSome = true := by
  rw [RoleAssignment.wellScoped, htenant] at hscoped
  exact hscoped

/-- An allowed decision that names a role as its ground was reached on an applicable assignment of a
role with that name, which carries the permission. -/
theorem granted_of_authorize {resolved : List RoleAssignment} {role : RoleId}
    (hdecision : authorize (fun _ ↦ some resolved) now (some actor) permission =
      ⟨true, s!"granted:{role.text}"⟩) :
    ∃ assignment ∈ applicable resolved actor now,
      carries assignment permission = true ∧ assignment.roleId = role := by
  simp only [authorize, requirePolicyActor_some] at hdecision
  split_ifs at hdecision
  · simp [deny] at hdecision
  · cases happlicable : applicable resolved actor now with
    | nil => simp [happlicable, deny] at hdecision
    | cons first rest =>
      rw [happlicable] at hdecision
      cases hfind : (first :: rest).find? fun assignment ↦ carries assignment permission with
      | none => simp [hfind, deny] at hdecision
      | some assignment =>
        simp only [hfind, PolicyDecision.mk.injEq, true_and] at hdecision
        have hcarries := List.find?_some hfind
        refine ⟨assignment, List.mem_of_find?_eq_some hfind, hcarries, ?_⟩
        revert hdecision
        cases assignment.roleId <;> cases role <;> decide

/-- The decision allows exactly what the scope model asks for, and a tenant-scoped role authorizes in
the tenant it is bound to only, if and only if a well-scoped assignment authorizes the actor whenever a
mis-scoped one would. -/
theorem authorize_iff (rows : List RoleAssignment) (actor : PolicyActor) (permission : String)
    (now : Instant) :
    (((authorize (fun principal ↦ some (listOwnActive rows principal now)) now (some actor)
          permission).allowed = true ↔ ScopedGrant rows actor permission now) ∧
      TenantRoleConfined rows actor now
        (authorize (fun principal ↦ some (listOwnActive rows principal now)) now (some actor)
          permission)) ↔
    ScopesCovered rows actor permission now := by
  have hresolve : authorize (fun principal ↦ some (listOwnActive rows principal now)) now (some actor)
      permission = authorize (fun _ ↦ some (listOwnActive rows actor now)) now (some actor)
        permission := by
    simp only [authorize, requirePolicyActor_some]
  rw [hresolve]
  constructor
  · rintro ⟨hallowed, -⟩ assignment hrow hown hactive happlies hcarries -
    have hgrant := hallowed.mp (authorize_allowed_iff.mpr
      ⟨assignment, mem_applicable_listOwnActive.mpr ⟨hrow, hown, hactive, happlies⟩, hcarries⟩)
    obtain ⟨other, hother, hotherOwn, hotherActive, hscoped, hbinding, hotherCarries⟩ := hgrant
    refine ⟨other, hother, hotherOwn, hotherActive, ?_, hotherCarries, hscoped⟩
    rw [assignmentAppliesTo_iff]
    cases htenant : other.tenantId with
    | none => exact Or.inl rfl
    | some bound => exact Or.inr ⟨rfl, htenant ▸ hbinding.resolve_left (by simp [htenant])⟩
  · intro hcovered
    -- A carrying applicable assignment can be taken well-scoped.
    have hscopedOf : ∀ assignment ∈ rows, assignment.userId = actor.userId →
        assignmentActiveAt assignment now = true →
        assignmentAppliesTo assignment actor.tenantId = true →
        carries assignment permission = true →
        ∃ other ∈ rows, other.userId = actor.userId ∧ assignmentActiveAt other now = true ∧
          assignmentAppliesTo other actor.tenantId = true ∧ carries other permission = true ∧
          other.wellScoped = true := by
      intro assignment hrow hown hactive happlies hcarries
      by_cases hscoped : assignment.wellScoped = true
      · exact ⟨assignment, hrow, hown, hactive, happlies, hcarries, hscoped⟩
      · exact hcovered assignment hrow hown hactive happlies hcarries (by simpa using hscoped)
    refine ⟨⟨?_, ?_⟩, ?_⟩
    · intro hallowed
      obtain ⟨assignment, happlicable, hcarries⟩ := authorize_allowed_iff.mp hallowed
      obtain ⟨hrow, hown, hactive, happlies⟩ := mem_applicable_listOwnActive.mp happlicable
      obtain ⟨other, hother, hotherOwn, hotherActive, hotherApplies, hotherCarries, hscoped⟩ :=
        hscopedOf assignment hrow hown hactive happlies hcarries
      refine ⟨other, hother, hotherOwn, hotherActive, hscoped, ?_, hotherCarries⟩
      exact (assignmentAppliesTo_iff.mp hotherApplies).imp_right And.right
    · rintro ⟨assignment, hrow, hown, hactive, -, hbinding, hcarries⟩
      have happlies : assignmentAppliesTo assignment actor.tenantId = true := by
        rw [assignmentAppliesTo_iff]
        cases htenant : assignment.tenantId with
        | none => exact Or.inl rfl
        | some bound => exact Or.inr ⟨rfl, htenant ▸ hbinding.resolve_left (by simp [htenant])⟩
      exact authorize_allowed_iff.mpr
        ⟨assignment, mem_applicable_listOwnActive.mpr ⟨hrow, hown, hactive, happlies⟩, hcarries⟩
    · intro role htenant hdecision
      obtain ⟨assignment, happlicable, hcarries, hrole⟩ := granted_of_authorize hdecision
      obtain ⟨hrow, hown, hactive, happlies⟩ := mem_applicable_listOwnActive.mp happlicable
      obtain ⟨other, hother, hotherOwn, hotherActive, hotherApplies, hotherCarries, hscoped⟩ :=
        hscopedOf assignment hrow hown hactive happlies hcarries
      -- The permission has one role, so the well-scoped assignment is of the named role too.
      obtain ⟨granted, hgranted, htext⟩ := List.any_eq_true.mp hcarries
      obtain ⟨otherGranted, hotherGranted, hotherText⟩ := List.any_eq_true.mp hotherCarries
      have hsame : otherGranted = granted :=
        PermissionName.text_injective ((beq_iff_eq.mp hotherText).trans (beq_iff_eq.mp htext).symm)
      have hotherRole : other.roleId = role :=
        (role_unique_of_granted (hsame ▸ hotherGranted) hgranted).trans hrole
      have hbound := bound_of_wellScoped hscoped (hotherRole ▸ htenant)
      refine ⟨other, hother, hotherOwn, hotherActive, hotherRole, hbound, ?_⟩
      rcases assignmentAppliesTo_iff.mp hotherApplies with hplatform | ⟨-, hsame⟩
      · simp [hplatform] at hbound
      · exact hsame

end Decision

/-! ### A tenant role without a tenant -/

/-- A staff member of some tenant. -/
def memberOfTenant : PolicyActor where
  userId := ⟨"11111111-1111-4111-8111-111111111111", isUuid_ones⟩
  tenantId := some ⟨"22222222-2222-4222-8222-222222222222", isUuid_twos⟩
  requestId := none

/-- A TENANT_ADMIN row of the member that carries no tenant. -/
def unboundTenantAdmin : RoleAssignment where
  id := "33333333-3333-4333-8333-333333333333"
  userId := memberOfTenant.userId
  roleId := .tenantAdmin
  tenantId := none
  status := .active
  grantedBy := memberOfTenant.userId
  reason := "seed"
  effectiveFrom := 0
  effectiveTo := none
  revokedAt := none
  revokedBy := none
  createdAt := 0

/-- The row authorizes the member's invitations in the tenant, which the scope model does not. -/
theorem unboundTenantAdmin_authorizes :
    authorize (fun principal ↦ some (listOwnActive [unboundTenantAdmin] principal 1)) 1
        (some memberOfTenant) "tenancy.invitation.create" = ⟨true, "granted:TENANT_ADMIN"⟩ ∧
    ¬ (((authorize (fun principal ↦ some (listOwnActive [unboundTenantAdmin] principal 1)) 1
          (some memberOfTenant) "tenancy.invitation.create").allowed = true ↔
        ScopedGrant [unboundTenantAdmin] memberOfTenant "tenancy.invitation.create" 1) ∧
      TenantRoleConfined [unboundTenantAdmin] memberOfTenant 1
        (authorize (fun principal ↦ some (listOwnActive [unboundTenantAdmin] principal 1)) 1
          (some memberOfTenant) "tenancy.invitation.create")) := by
  refine ⟨by decide, fun hclaim ↦ ?_⟩
  obtain ⟨assignment, hrow, -, -, hscoped, -⟩ := hclaim.1.mp (by decide)
  rw [List.mem_singleton.mp hrow] at hscoped
  exact absurd hscoped (by decide)

end Karar.Authorization
