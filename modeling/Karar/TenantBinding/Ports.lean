import Karar.Foundation.Substitution
import Karar.Identity.SessionLifecycle
import Karar.Tenancy.Ports

/-!
# The ports of tenant binding

Binding a session to a tenant runs through three modules: bootstrap decides, tenancy verifies the
membership, identity binds, replaces and revokes the session. Here are the operations of all three,
with one store for the sessions, the memberships and the tenants. An operation of identity is the one
of identity's own model; the reads of tenancy see what the row policies show the caller. A port that
fails throws and has changed nothing.
-/

namespace Karar.TenantBinding

open Foundation SharedKernel Tenancy

/-! ### Context enrichment -/

/-- The effective tenant is that of the session after the binding decision. -/
structure BootstrapSubject where
  userId : String
  tenantId : Option String
deriving DecidableEq

inductive JurisdictionState
  | none
  | unverified (jurisdictionId : String)
  | verified (jurisdictionId : String)
deriving DecidableEq

inductive JurisdictionResolution
  | state (state : JurisdictionState)
  | unavailable (retryable : Bool)
deriving DecidableEq

structure OperatingEntitySummary where
  id : String
  name : String
  jurisdictionRef : Option String
  contactReference : Option String
deriving DecidableEq

inductive OperatingEntityState
  | assigned (entity : OperatingEntitySummary)
  | unassigned
  | unavailable
deriving DecidableEq

structure PolicyPackStatus where
  version : String
  status : String
deriving DecidableEq

inductive PolicyPackResolution
  | active (status : PolicyPackStatus)
  | none
  | unavailable (retryable : Bool)
deriving DecidableEq

structure ClientCapabilityRequirement where
  kind : String
  detail : Option String
deriving DecidableEq

structure ClientCapability where
  id : String
  status : String
  requirements : List ClientCapabilityRequirement
deriving DecidableEq

inductive ClientCapabilitiesResolution
  | resolved (capabilities : List ClientCapability)
  | unavailable (retryable : Bool)
deriving DecidableEq

/-! ### Operations -/

abbrev TenantTable := KeyedTable Tenant.id Tenant.id

inductive BindingOp
  | identity (op : Identity.IdentityOp)
  | now
  | listOwnAcrossTenants (userId : UserId)
  | findOwnInTenant (userId : UserId) (tenantId : TenantId)
  | findForMember (userId : UserId) (tenantId : TenantId)
  | record (entry : AuditTrailEntry)
  | jurisdiction (subject : BootstrapSubject)
  | operatingEntity (subject : BootstrapSubject)
  | policyPack (subject : BootstrapSubject) (jurisdiction : JurisdictionState)
  | capabilities (subject : BootstrapSubject) (jurisdiction : JurisdictionState)
deriving DecidableEq

abbrev BindingOp.Value : BindingOp → Type
  | .identity op => op.Answer
  | .now => Instant
  | .listOwnAcrossTenants _ => List TenantMembership
  | .findOwnInTenant _ _ => Option TenantMembership
  | .findForMember _ _ => Option Tenant
  | .record _ => Except AuditTrailFailure Unit
  | .jurisdiction _ => JurisdictionResolution
  | .operatingEntity _ => OperatingEntityState
  | .policyPack _ _ => PolicyPackResolution
  | .capabilities _ _ => ClientCapabilitiesResolution

/-- What the code does not decide: whether a port throws, what identity draws at random, whether the
audit trail can be written, and what the enrichment ports answer. -/
structure BindingOracle where
  failure : Option String := none
  draw : String := ""
  auditFailure : Option AuditTrailFailure := none
  jurisdiction : JurisdictionResolution := .state .none
  operatingEntity : OperatingEntityState := .unassigned
  policyPack : PolicyPackResolution := .none
  capabilities : ClientCapabilitiesResolution := .resolved []

structure BindingStore where
  identity : Identity.IdentityStore
  members : MemberTable
  tenants : TenantTable

namespace BindingStore

/-- The caller's own rows, oldest first. -/
def listOwnAcrossTenants (store : BindingStore) (userId : UserId) : List TenantMembership :=
  (store.members.rows.filter fun row ↦ row.userId = userId).mergeSort
    fun first second ↦ first.createdAt ≤ second.createdAt

/-- An active membership links the caller to the tenant. -/
def isMemberOf (store : BindingStore) (userId : UserId) (tenantId : TenantId) : Bool :=
  store.members.rows.any fun row ↦
    row.tenantId = tenantId && row.userId = userId && row.state = .active

/-- A caller who is not bound to the tenant sees its row through an active membership only. -/
def findForMember (store : BindingStore) (userId : UserId) (tenantId : TenantId) : Option Tenant :=
  (store.tenants.find tenantId).filter fun tenant ↦ store.isMemberOf userId tenant.id

/-- The message of an operation of identity that does not go through. -/
def refusal : Identity.IdentityOp → String
  | .surroundings (.raise message) => message
  | _ => "the statement was refused"

/-- An operation of a port that answers. -/
def answer (deps : Identity.IdentityDependencies) (store : BindingStore) :
    (op : BindingOp) → BindingOracle → Except String (BindingStore × op.Value)
  | .identity op, oracle =>
    match store.identity.handle deps op oracle.draw with
    | some (identity, value) => .ok ({ store with identity }, value)
    | none => .error (refusal op)
  | .now, _ => .ok (store, store.identity.clock)
  | .listOwnAcrossTenants userId, _ => .ok (store, store.listOwnAcrossTenants userId)
  | .findOwnInTenant userId tenantId, _ =>
    .ok (store, MemberTable.findMember store.members tenantId userId)
  | .findForMember userId tenantId, _ => .ok (store, store.findForMember userId tenantId)
  | .record _, oracle =>
    .ok (store, match oracle.auditFailure with
      | some failure => .error failure
      | none => .ok ())
  | .jurisdiction _, oracle => .ok (store, oracle.jurisdiction)
  | .operatingEntity _, oracle => .ok (store, oracle.operatingEntity)
  | .policyPack _ _, oracle => .ok (store, oracle.policyPack)
  | .capabilities _ _, oracle => .ok (store, oracle.capabilities)

/-- The clock alone does not throw. -/
def canThrow : BindingOp → Bool
  | .now => false
  | .identity (.surroundings .now) => false
  | _ => true

/-- An operation throws where its port fails. -/
def perform (deps : Identity.IdentityDependencies) (store : BindingStore) (op : BindingOp)
    (oracle : BindingOracle) : Except String (BindingStore × op.Value) :=
  match oracle.failure with
  | none => store.answer deps op oracle
  | some message => if canThrow op then .error message else store.answer deps op oracle

def handle (deps : Identity.IdentityDependencies) :
    Handler BindingOp (fun op ↦ Except String op.Value) BindingStore BindingOracle :=
  throwingHandler (perform deps)

end BindingStore

/-! ### Use cases as programs -/

/-- A use case, as the program of its port calls. -/
abbrev UseCase := Program BindingOp fun op ↦ Except String op.Value

/-- The part of a use case inside its `try`. -/
abbrev Attempt := Throwing BindingOp BindingOp.Value

/-- A call of a port. -/
abbrev port (op : BindingOp) : Attempt op.Value := ask op

/-- A use case of identity, called through a port. -/
abbrev identity {Result : Type} (program : Identity.UseCase Result) : Attempt Result :=
  embed BindingOp.identity (fun _ value ↦ value) program

/-- A use case that answers with a result and does not throw, called through a port. -/
abbrev answered {Result : Type} (program : UseCase Result) : Attempt Result :=
  ExceptT.lift program

end Karar.TenantBinding
