import Karar.TenantBinding.TenantContext

/-!
# Binding a session

The use cases of bootstrap, and the machine that serves any number of them at the same time.
`GetBootstrap` binds an unbound session whose caller has a single usable membership, and
`SetTenantBinding` binds or switches a session to a tenant of the caller's choice. Both verify again
after they have bound, record what they did, and revoke the session where the membership is gone or
the record cannot be written.
-/

namespace Karar.TenantBinding

open Foundation SharedKernel Tenancy

/-! ### Principals, states and errors -/

structure BootstrapPrincipal where
  userId : UserId
  sessionId : String
  /-- The session's tenant binding, or `none` while unbound. -/
  tenantId : Option TenantId
  emailVerified : Bool
  requestId : Option String
deriving DecidableEq

def BootstrapPrincipal.actor (principal : BootstrapPrincipal) : AuthenticatedActor where
  userId := principal.userId.value
  sessionId := some principal.sessionId
  requestId := principal.requestId

inductive BindingState
  | unbound
  | bound (tenant : TenantChoice)
  | tenantSelectionRequired (choices : List TenantChoice)
deriving DecidableEq

def choicesOf : TenantContextResolution → List TenantChoice
  | .unbound => []
  | .autoBind _ choice => [choice]
  | .tenantSelectionRequired choices => choices

def choiceFor (resolution : TenantContextResolution) (tenantId : String) : Option TenantChoice :=
  (choicesOf resolution).find? fun choice ↦ choice.tenantId = tenantId

def stateForChoices : List TenantChoice → BindingState
  | [] => .unbound
  | choices => .tenantSelectionRequired choices

inductive GetBootstrapError
  | contextUnavailable (message : String)
  | resolutionUnavailable (message : String) (retryable : Bool)
deriving DecidableEq

inductive SetTenantBindingError
  | unauthenticated (message : String)
  | invalidTenantSelection (message : String)
  | membershipRequired (message : String)
  | bindingConflict (message : String)
  | membershipRevokedConcurrently (message : String)
  | contextUnavailable (message : String)
deriving DecidableEq

/-- The answer where a record could not be written. -/
def auditUnavailable : String :=
  "the tenant binding could not be recorded in the audit trail; the request was not completed and any binding it made was reversed"

/-- The name of a refusal of identity. -/
def bindErrorKind : Identity.BindSessionTenantError → String
  | .sessionNotFound => "session_not_found"
  | .alreadyBound _ => "already_bound"
  | .bindConflict => "bind_conflict"

section Ports

variable (deps : Identity.IdentityDependencies)

def bindSession (principal : BootstrapPrincipal) (target : TenantId)
    (client : Identity.ClientContext) : Attempt (Except Identity.BindSessionTenantError Unit) :=
  identity (Identity.BindSessionTenant.execute deps
    ⟨principal.userId, principal.sessionId, target.value, client⟩)

def revokeSession (principal : BootstrapPrincipal) (sessionId : String)
    (client : Identity.ClientContext) : Attempt (Except Identity.RevokeSessionError Unit) :=
  identity (Identity.RevokeSession.execute deps ⟨principal.userId, sessionId, client⟩)

/-- The usable choice that is left for a tenant, or `none` also where resolution fails. -/
def recheck (principal : BootstrapPrincipal) (tenantId : String) : Attempt (Option TenantChoice) := do
  match ← answered (ResolveTenantContext.execute (some principal.actor)) with
  | .error _ => return none
  | .ok resolution => return choiceFor resolution tenantId

/-- `false` where the record could not be written. -/
def audit (entry : Instant → AuditTrailEntry) : Attempt Bool := do
  let occurredAt ← port .now
  match ← port (.record (entry occurredAt)) with
  | .error _ => return false
  | .ok () => return true

end Ports

/-! ### Explicit selection -/

inductive SetTenantBindingResult
  | bound (binding : BindingState)
  | switched (binding : BindingState) (session : Identity.IssuedSession)
deriving DecidableEq

namespace SetTenantBinding

variable (deps : Identity.IdentityDependencies)

def membershipRequired : SetTenantBindingError :=
  .membershipRequired "the principal holds no active membership in the requested tenant"

def entry (principal : BootstrapPrincipal) (tenantId action : String) (occurredAt : Instant) :
    AuditTrailEntry where
  occurredAt := occurredAt
  actorRef := "user:" ++ principal.userId.value
  tenantRef := "tenant:" ++ tenantId
  action := action
  resourceType := "identity_session"
  resourceId := principal.sessionId
  requestId := principal.requestId
  outcome := .success

def auditSuccess (principal : BootstrapPrincipal) (tenantId action : String)
    (previousTenantId : Option String) : Attempt Bool :=
  audit fun occurredAt ↦
    { entry principal tenantId action occurredAt with
      beforeMetadata := some [("tenantId", previousTenantId.getD "")]
      afterMetadata := some [("tenantId", tenantId)] }

def auditDenied (principal : BootstrapPrincipal) (tenantId action reason : String) : Attempt Bool :=
  audit fun occurredAt ↦
    { entry principal tenantId action occurredAt with
      reason := some reason
      outcome := .denied }

/-- The membership is gone: revoke the session, and record the denial. -/
def compensate (principal : BootstrapPrincipal) (target : String)
    (client : Identity.ClientContext) :
    Attempt (Except SetTenantBindingError SetTenantBindingResult) := do
  let _ ← revokeSession deps principal principal.sessionId client
  let denialAudited ← auditDenied principal target "platform.tenant_binding.bound"
    "membership_revoked_concurrently"
  if denialAudited = false then return .error (.contextUnavailable auditUnavailable)
  else
    return .error (.membershipRevokedConcurrently
      "the target membership was revoked while binding was in flight; the session was revoked — sign in again")

/-- Record a binding, and revoke the session that carries it if it cannot be recorded. -/
def settle (principal : BootstrapPrincipal) (target action : String)
    (previousTenantId : Option String) (sessionId : String) (client : Identity.ClientContext)
    (result : SetTenantBindingResult) :
    Attempt (Except SetTenantBindingError SetTenantBindingResult) := do
  let audited ← auditSuccess principal target action previousTenantId
  if audited = false then do
    let _ ← revokeSession deps principal sessionId client
    return .error (.contextUnavailable auditUnavailable)
  else return .ok result

def firstBind (principal : BootstrapPrincipal) (client : Identity.ClientContext) (target : String)
    (targetChoice : TenantChoice) :
    Attempt (Except SetTenantBindingError SetTenantBindingResult) :=
  match TenantId.parse target with
  | none => return .error (.invalidTenantSelection "tenantId must be a UUID")
  | some parsed => do
    match ← bindSession deps principal parsed client with
    | .error refusal =>
      return .error (.bindingConflict
        s!"the session could not be bound ({bindErrorKind refusal}) — retry bootstrap")
    | .ok () =>
      match ← recheck principal target with
      | none => compensate deps principal target client
      | some _ =>
        settle deps principal target "platform.tenant_binding.bound" none principal.sessionId client
          (.bound (.bound targetChoice))

def switchError : TenantContextError → SetTenantBindingError
  | .missingPrincipalContext _ => .unauthenticated "the switch requires an authenticated session"
  | .membershipNotFound _ => membershipRequired
  | .membershipRevokedConcurrently _ =>
    .membershipRevokedConcurrently
      "the target membership was revoked while the switch was in flight; the replacement session was revoked — sign in again"
  | .bindingFailed _ =>
    .bindingConflict "the session could not be switched — retry bootstrap"
  | .storeFailure _ => .contextUnavailable "the tenant switch is unavailable"

def switch (principal : BootstrapPrincipal) (client : Identity.ClientContext) (target : String)
    (targetChoice : TenantChoice) :
    Attempt (Except SetTenantBindingError SetTenantBindingResult) := do
  match ← answered (SwitchTenant.execute deps ⟨target, client⟩ (some principal.actor)) with
  | .error refusal => return .error (switchError refusal)
  | .ok switched =>
    settle deps principal target "platform.tenant_binding.switched" switched.previousTenantId
      switched.session.sessionId client (.switched (.bound targetChoice) switched.session)

/-- The part inside the `try`: the usable choice that the target names. -/
def choose (principal : BootstrapPrincipal) (target : String) :
    Attempt (Except SetTenantBindingError TenantChoice) := do
  match ← answered (ResolveTenantContext.execute (some principal.actor)) with
  | .error _ => return .error (.contextUnavailable "tenant-context resolution is unavailable")
  | .ok resolution =>
    match choiceFor resolution target with
    | none => return .error membershipRequired
    | some choice => return .ok choice

/-- What the `catch` answers. -/
def thrown (message : String) : Except SetTenantBindingError TenantChoice :=
  .error (.contextUnavailable s!"tenant binding failed: {message}")

/-- A call can also be rejected with an exception: the `try` hands the calls of `firstBind` and
`switch` on without awaiting them. -/
def execute (tenantId : Option String) (principal : BootstrapPrincipal)
    (client : Identity.ClientContext) :
    UseCase (Except String (Except SetTenantBindingError SetTenantBindingResult)) :=
  match tenantId.filter fun target ↦ (TenantId.parse target).isSome with
  | none =>
    return .ok (.error (.invalidTenantSelection
      "tenantId must be a UUID naming one of the caller’s own tenants"))
  | some target => do
    match ← catching (choose principal target) thrown with
    | .error refusal => return .ok (.error refusal)
    | .ok targetChoice =>
      if principal.tenantId = none then (firstBind deps principal client target targetChoice).run
      else (switch deps principal client target targetChoice).run

end SetTenantBinding

/-! ### Bootstrap -/

structure BootstrapView where
  userId : String
  emailVerified : Bool
  sessionId : String
  binding : BindingState
  jurisdiction : JurisdictionState
  operatingEntity : OperatingEntityState
  policyPack : Option PolicyPackStatus
  capabilities : List ClientCapability
deriving DecidableEq

namespace GetBootstrap

variable (deps : Identity.IdentityDependencies)

def entry (principal : BootstrapPrincipal) (tenantId : TenantId) (occurredAt : Instant) :
    AuditTrailEntry where
  occurredAt := occurredAt
  actorRef := "user:" ++ principal.userId.value
  tenantRef := "tenant:" ++ tenantId.value
  action := "platform.bootstrap.auto_bind"
  resourceType := "identity_session"
  resourceId := principal.sessionId
  requestId := principal.requestId
  outcome := .success

def auditBound (principal : BootstrapPrincipal) (tenantId : TenantId) : Attempt Bool :=
  audit fun occurredAt ↦
    { entry principal tenantId occurredAt with afterMetadata := some [("tenantId", tenantId.value)] }

def auditDenied (principal : BootstrapPrincipal) (tenantId : TenantId) (reason : String) :
    Attempt Bool :=
  audit fun occurredAt ↦
    { entry principal tenantId occurredAt with
      reason := some reason
      outcome := .denied }

/-- A denial is recorded, and the caller is told that the session is unbound. -/
def deny (principal : BootstrapPrincipal) (tenantId : TenantId) (reason : String) :
    Attempt (Except GetBootstrapError BindingState) := do
  let audited ← auditDenied principal tenantId reason
  if audited = false then return .error (.contextUnavailable auditUnavailable)
  else return .ok .unbound

/-- Record the binding, and revoke the session that carries it if it cannot be recorded. -/
def settle (principal : BootstrapPrincipal) (tenantId : TenantId) (client : Identity.ClientContext)
    (choice : TenantChoice) : Attempt (Except GetBootstrapError BindingState) := do
  let audited ← auditBound principal tenantId
  if audited = false then do
    let _ ← revokeSession deps principal principal.sessionId client
    return .error (.contextUnavailable auditUnavailable)
  else return .ok (.bound choice)

/-- Bind the single usable membership, verify again, and compensate. -/
def autoBind (principal : BootstrapPrincipal) (client : Identity.ClientContext)
    (tenantId : TenantId) : Attempt (Except GetBootstrapError BindingState) := do
  match ← bindSession deps principal tenantId client with
  | .error refusal => deny principal tenantId (bindErrorKind refusal)
  | .ok () =>
    match ← recheck principal tenantId.value with
    | none =>
      let _ ← revokeSession deps principal principal.sessionId client
      deny principal tenantId "membership_revoked_concurrently"
    | some choice => settle deps principal tenantId client choice

/-- The binding decision. -/
def bindingFor (principal : BootstrapPrincipal) (client : Identity.ClientContext)
    (resolution : TenantContextResolution) : Attempt (Except GetBootstrapError BindingState) :=
  match principal.tenantId with
  | some bound =>
    match choiceFor resolution bound.value with
    | some choice => return .ok (.bound choice)
    | none => return .ok (stateForChoices (choicesOf resolution))
  | none =>
    match resolution with
    | .autoBind tenantId _ => autoBind deps principal client tenantId
    | _ => return .ok (stateForChoices (choicesOf resolution))

/-- The tenant whose context the view is enriched with. -/
def effectiveTenantId : BindingState → Option String
  | .bound tenant => some tenant.tenantId
  | _ => none

def policyPackStatus : PolicyPackResolution → Option PolicyPackStatus
  | .active status => some status
  | _ => none

/-- The rest of the view. Of the last three reads, which run at the same time, the operating entity
alone may be unavailable. -/
def enrich (principal : BootstrapPrincipal) (binding : BindingState) :
    Attempt (Except GetBootstrapError BootstrapView) := do
  let subject : BootstrapSubject := ⟨principal.userId.value, effectiveTenantId binding⟩
  match ← port (.jurisdiction subject) with
  | .unavailable retryable =>
    return .error (.resolutionUnavailable "the governing assignment could not be read" retryable)
  | .state jurisdiction =>
    let operatingEntity ← port (.operatingEntity subject)
    let policyPack ← port (.policyPack subject jurisdiction)
    let capabilities ← port (.capabilities subject jurisdiction)
    match policyPack, capabilities with
    | .unavailable retryable, _ =>
      return .error (.resolutionUnavailable "the active policy pack could not be read" retryable)
    | _, .unavailable retryable =>
      return .error (.resolutionUnavailable "capability resolution did not complete" retryable)
    | policyPack, .resolved items =>
      return .ok
        { userId := principal.userId.value
          emailVerified := principal.emailVerified
          sessionId := principal.sessionId
          binding
          jurisdiction
          operatingEntity
          policyPack := policyPackStatus policyPack
          capabilities := items }

def attempt (principal : BootstrapPrincipal) (client : Identity.ClientContext) :
    Attempt (Except GetBootstrapError BootstrapView) := do
  match ← answered (ResolveTenantContext.execute (some principal.actor)) with
  | .error _ => return .error (.contextUnavailable "tenant-context resolution is unavailable")
  | .ok resolution =>
    match ← bindingFor deps principal client resolution with
    | .error refusal => return .error refusal
    | .ok binding => enrich principal binding

/-- What the `catch` answers. -/
def thrown (message : String) : Except GetBootstrapError BootstrapView :=
  .error (.contextUnavailable s!"bootstrap assembly failed: {message}")

def execute (principal : BootstrapPrincipal) (client : Identity.ClientContext) :
    UseCase (Except GetBootstrapError BootstrapView) :=
  catching (attempt deps principal client) thrown

end GetBootstrap

/-! ### The machine -/

inductive BindingRequest
  | getBootstrap (principal : BootstrapPrincipal) (client : Identity.ClientContext)
  /-- A `tenantId` that is not a string is `none`. -/
  | setTenantBinding (tenantId : Option String) (principal : BootstrapPrincipal)
      (client : Identity.ClientContext)
  | switchTenant (input : SwitchTenantInput) (actor : Option AuthenticatedActor)
deriving DecidableEq

inductive BindingOutcome
  | getBootstrap (result : Except GetBootstrapError BootstrapView)
  | setTenantBinding (result : Except String (Except SetTenantBindingError SetTenantBindingResult))
  | switchTenant (result : Except TenantContextError TenantSwitched)
deriving DecidableEq

def BindingRequest.program (deps : Identity.IdentityDependencies) :
    BindingRequest → UseCase BindingOutcome
  | .getBootstrap principal client =>
    return .getBootstrap (← GetBootstrap.execute deps principal client)
  | .setTenantBinding tenantId principal client =>
    return .setTenantBinding (← SetTenantBinding.execute deps tenantId principal client)
  | .switchTenant input actor => return .switchTenant (← SwitchTenant.execute deps input actor)

/-- What changes around the calls: the clock, the memberships, the tenants, and whatever else happens
to the store of identity. -/
inductive BindingTurn
  | clock (now : Instant)
  | members (members : MemberTable)
  | tenants (tenants : TenantTable)
  | identity (op : Identity.IdentityOp) (draw : String)

def BindingStore.turn (deps : Identity.IdentityDependencies) (store : BindingStore) :
    BindingTurn → BindingStore
  | .clock clock => { store with identity := { store.identity with clock } }
  | .members members => { store with members }
  | .tenants tenants => { store with tenants }
  | .identity op draw =>
    match store.identity.handle deps op draw with
    | some (identity, _) => { store with identity }
    | none => store

def bindingMachine (deps : Identity.IdentityDependencies) :
    Machine BindingOp (fun op ↦ Except String op.Value) BindingStore BindingOracle BindingRequest
      BindingOutcome BindingTurn where
  handler := BindingStore.handle deps
  program := BindingRequest.program deps
  turn := BindingStore.turn deps

abbrev BindingConfiguration :=
  Configuration BindingOp (fun op ↦ Except String op.Value) BindingStore BindingRequest
    BindingOutcome

abbrev BindingEvent := Event BindingOracle BindingRequest BindingTurn

abbrev BindingPerformed := Performed BindingOp fun op ↦ Except String op.Value

abbrev BindingLog := List BindingPerformed

end Karar.TenantBinding
