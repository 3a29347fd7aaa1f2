import Mathlib.Data.List.Basic

/-!
# The permission and role catalogue

The closed universe of permissions and roles, and the reviewed mapping from roles to permissions.
What a role is not granted here is denied. No permission is granted to two roles
(`role_unique_of_granted`).
-/

namespace Karar.Authorization

/-- `PERMISSION_CATALOGUE`. -/
inductive PermissionName
  | identitySessionRevoke
  | identityMfaReset
  | usersProfileRead
  | usersStatusUpdate
  | tenancyMemberRead
  | tenancyInvitationCreate
  | tenancyInvitationRevoke
  | entityEntityManage
  | entityMigrationApprove
  | consentDocumentPublish
  | consentStatusRead
  | controlplaneKillswitchOperate
  | authorizationRoleAssign
  | authorizationRoleRevoke
deriving DecidableEq

namespace PermissionName

/-- The permission's name, `<capability>.<resource>.<action>`. -/
def text : PermissionName → String
  | identitySessionRevoke => "identity.session.revoke"
  | identityMfaReset => "identity.mfa.reset"
  | usersProfileRead => "users.profile.read"
  | usersStatusUpdate => "users.status.update"
  | tenancyMemberRead => "tenancy.member.read"
  | tenancyInvitationCreate => "tenancy.invitation.create"
  | tenancyInvitationRevoke => "tenancy.invitation.revoke"
  | entityEntityManage => "entity.entity.manage"
  | entityMigrationApprove => "entity.migration.approve"
  | consentDocumentPublish => "consent.document.publish"
  | consentStatusRead => "consent.status.read"
  | controlplaneKillswitchOperate => "controlplane.killswitch.operate"
  | authorizationRoleAssign => "authorization.role.assign"
  | authorizationRoleRevoke => "authorization.role.revoke"

/-- The catalogue in its order. -/
def all : List PermissionName :=
  [identitySessionRevoke, identityMfaReset, usersProfileRead, usersStatusUpdate, tenancyMemberRead,
    tenancyInvitationCreate, tenancyInvitationRevoke, entityEntityManage, entityMigrationApprove,
    consentDocumentPublish, consentStatusRead, controlplaneKillswitchOperate, authorizationRoleAssign,
    authorizationRoleRevoke]

theorem mem_all (permission : PermissionName) : permission ∈ all := by
  cases permission <;> decide

end PermissionName

/-- `isPermissionName`. -/
def isPermissionName (value : String) : Bool :=
  PermissionName.all.any fun permission ↦ permission.text == value

/-- Where an assignment of a role may bind. -/
inductive RoleScope
  | platform
  | tenant
  | both
deriving DecidableEq

/-- The roles of `ROLE_CATALOGUE`. -/
inductive RoleId
  | user
  | tenantMember
  | tenantAdmin
  | support
  | operator
  | security
  | platformAdmin
  | disclosureApprover
deriving DecidableEq

namespace RoleId

def text : RoleId → String
  | user => "USER"
  | tenantMember => "TENANT_MEMBER"
  | tenantAdmin => "TENANT_ADMIN"
  | support => "SUPPORT"
  | operator => "OPERATOR"
  | security => "SECURITY"
  | platformAdmin => "PLATFORM_ADMIN"
  | disclosureApprover => "DISCLOSURE_APPROVER"

def scope : RoleId → RoleScope
  | tenantMember | tenantAdmin => .tenant
  | user | support | operator | security | platformAdmin | disclosureApprover => .platform

/-- The catalogue in its order. -/
def all : List RoleId :=
  [user, tenantMember, tenantAdmin, support, operator, security, platformAdmin, disclosureApprover]

theorem mem_all (role : RoleId) : role ∈ all := by
  cases role <;> decide

/-- `isRoleId`, with the role that carries the id. -/
def parse (value : String) : Option RoleId := all.find? fun role ↦ role.text == value

end RoleId

/-- `ROLE_PERMISSION_GRANTS`. -/
def permissionsGrantedTo : RoleId → List PermissionName
  | .user | .tenantMember | .security | .disclosureApprover => []
  | .tenantAdmin => [.tenancyMemberRead, .tenancyInvitationCreate, .tenancyInvitationRevoke]
  | .support => [.usersProfileRead, .consentStatusRead]
  | .operator => [.controlplaneKillswitchOperate]
  | .platformAdmin =>
    [.authorizationRoleAssign, .authorizationRoleRevoke, .entityEntityManage, .entityMigrationApprove,
      .identitySessionRevoke, .identityMfaReset, .usersStatusUpdate, .consentDocumentPublish]

/-- Whether a role of a scope may bind with a tenant, or without one. -/
def roleScopeAdmitsBinding (scope : RoleScope) (tenantBound : Bool) : Bool :=
  match scope with
  | .platform => !tenantBound
  | .tenant => tenantBound
  | .both => true

/-- No permission is granted to two roles. -/
theorem role_unique_of_granted {permission : PermissionName} {first second : RoleId}
    (hfirst : permission ∈ permissionsGrantedTo first)
    (hsecond : permission ∈ permissionsGrantedTo second) : first = second := by
  have hall : ∀ first ∈ RoleId.all, ∀ second ∈ RoleId.all,
      ∀ permission ∈ permissionsGrantedTo first,
        permission ∈ permissionsGrantedTo second → first = second := by decide
  exact hall first (RoleId.mem_all first) second (RoleId.mem_all second) permission hfirst hsecond

/-- Only a PLATFORM_ADMIN may assign roles. -/
theorem granted_roleAssign_iff {role : RoleId} :
    PermissionName.authorizationRoleAssign ∈ permissionsGrantedTo role ↔ role = .platformAdmin := by
  cases role <;> decide

theorem PermissionName.text_injective {first second : PermissionName}
    (htext : first.text = second.text) : first = second := by
  have hall : ∀ first ∈ all, ∀ second ∈ all, first.text = second.text → first = second := by decide
  exact hall first (mem_all first) second (mem_all second) htext

end Karar.Authorization
