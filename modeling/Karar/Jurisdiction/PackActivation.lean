import Karar.Jurisdiction.Packs
import Karar.Jurisdiction.Ports

/-!
# Activating and retiring packs

The use cases `ActivatePackVersion`, `RetirePackVersion` and `GetActivePackVersion` over the append-only
ledger, and the machine that serves any number of them at the same time. Both writers read the ledger,
decide on the version that it makes active, and append an event in a statement of its own.
-/

namespace Karar.Jurisdiction.PackActivation

open Foundation SharedKernel

/-! ### The ledger's table -/

/-- The `CHECK` constraints of `policy_pack_activations`. -/
def Admissible (event : PackActivationRecord) : Prop :=
  event.packVersion ≠ "" ∧ event.actor ≠ "" ∧ event.reason ≠ ""

instance (event : PackActivationRecord) : Decidable (Admissible event) :=
  inferInstanceAs (Decidable (_ ∧ _ ∧ _))

abbrev LedgerRow := {event : PackActivationRecord // Admissible event}

abbrev LedgerRow.id (row : LedgerRow) : String := row.1.id

/-- `policy_pack_activations_instant_key`. -/
abbrev LedgerRow.instantKey (row : LedgerRow) : String × PolicyEnvironment × Instant :=
  (row.1.jurisdictionCode, row.1.environment, row.1.occurredAt)

abbrev LedgerTable := KeyedTable LedgerRow.id LedgerRow.instantKey

namespace LedgerTable

/-- The ledger of a jurisdiction in an environment, in the order of the appends. -/
def entries (table : LedgerTable) (code : String) (environment : PolicyEnvironment) :
    List PackActivationRecord :=
  (table.rows.map (·.1)).filter fun event ↦
    event.jurisdictionCode = code && event.environment = environment

/-- In the order of the events. -/
def listFor (table : LedgerTable) (code : String) (environment : PolicyEnvironment) :
    List PackActivationRecord :=
  (table.entries code environment).insertionSort fun first second ↦
    first.occurredAt ≤ second.occurredAt

def append (table : LedgerTable) (register : List JurisdictionRecord)
    (event : PackActivationRecord) : Except String LedgerTable :=
  if hadmissible : Admissible event then
    if !register.any (·.code = event.jurisdictionCode) then .error "Foreign key constraint violated"
    else
      match KeyedTable.insert table ⟨event, hadmissible⟩ with
      | some later => .ok later
      | none => .error "Unique constraint failed"
  else .error "new row for relation \"policy_pack_activations\" violates check constraint"

variable {table later : LedgerTable} {code : String} {environment : PolicyEnvironment}
  {event : PackActivationRecord}

theorem mem_entries : event ∈ table.entries code environment ↔
    (∃ row ∈ table.rows, row.1 = event) ∧ event.jurisdictionCode = code ∧
      event.environment = environment := by
  unfold entries
  simp

/-- The events of a ledger are at distinct instants. -/
theorem distinct_entries (table : LedgerTable) (code : String) (environment : PolicyEnvironment) :
    ((table.entries code environment).map (·.occurredAt)).Nodup := by
  have hrows : (table.rows.map (·.1)).Nodup :=
    List.Nodup.of_map PackActivationRecord.id (by simpa using table.keys_nodup)
  refine (hrows.filter _).map_on fun first hfirst second hsecond hsame ↦ ?_
  obtain ⟨⟨row, hrow, rfl⟩, hcode, henvironment⟩ := mem_entries.mp hfirst
  obtain ⟨⟨other, hother, rfl⟩, hcode', henvironment'⟩ := mem_entries.mp hsecond
  have hkey : row.instantKey = other.instantKey :=
    Prod.ext (hcode.trans hcode'.symm) (Prod.ext (henvironment.trans henvironment'.symm) hsame)
  exact congrArg Subtype.val (KeyedTable.eq_of_alt hrow hother hkey)

theorem mem_listFor : event ∈ table.listFor code environment ↔ event ∈ table.entries code environment :=
  List.mem_insertionSort _

/-- An append that goes through adds the event to its ledger, and to no other. -/
theorem append_eq_ok {register : List JurisdictionRecord}
    (happend : table.append register event = .ok later) :
    ∀ code environment, later.entries code environment = table.entries code environment ++
      if event.jurisdictionCode = code ∧ event.environment = environment then [event] else [] := by
  intro code environment
  unfold append at happend
  split_ifs at happend
  split at happend
  · rename_i rows hrows
    obtain rfl := Except.ok.inj happend
    unfold entries
    rw [KeyedTable.rows_of_insert hrows, List.map_append, List.filter_append]
    by_cases hcode : event.jurisdictionCode = code <;>
      by_cases henvironment : event.environment = environment <;> simp [hcode, henvironment]
  · cases happend

end LedgerTable

/-! ### Ports -/

inductive PackOp
  | authorize (principal : PolicyPrincipal) (permission : String)
  | findJurisdiction (code : String)
  | listFor (code : String) (environment : PolicyEnvironment)
  | nextId
  | append (event : PackActivationRecord)
  | record (entry : AuditEntry)
deriving DecidableEq

abbrev PackOp.Value : PackOp → Type
  | .authorize _ _ => Except AuthorizationDenied Unit
  | .findJurisdiction _ => Option JurisdictionRecord
  | .listFor _ _ => List PackActivationRecord
  | .nextId => String
  | .append _ => Unit
  | .record _ => Except AuditAppendFailed Unit

structure PackStore where
  register : List JurisdictionRecord
  ledger : LedgerTable

namespace PackStore

def perform (store : PackStore) :
    (op : PackOp) → AssignmentOracle → Except String (PackStore × op.Value)
  | .authorize _ _, oracle => .ok (store, AssignmentStore.exceptOf oracle.denied)
  | .findJurisdiction code, _ => .ok (store, store.register.find? (·.code = code))
  | .listFor code environment, _ => .ok (store, store.ledger.listFor code environment)
  | .nextId, oracle => .ok (store, oracle.id)
  | .append event, _ => do
    let ledger ← store.ledger.append store.register event
    return ({ store with ledger }, ())
  | .record _, oracle => .ok (store, AssignmentStore.exceptOf oracle.auditFailure)

/-- An operation, where its port does not fail by itself. -/
def performOrFail (store : PackStore) (op : PackOp) (oracle : AssignmentOracle) :
    Except String (PackStore × op.Value) :=
  match oracle.failure with
  | some message => .error message
  | none => store.perform op oracle

end PackStore

abbrev PackStep := Throwing PackOp PackOp.Value

def port (op : PackOp) : PackStep op.Value :=
  ask op

/-! ### The use cases -/

/-- The expected failures. -/
inductive PackError
  | authorizationDenied (denied : AuthorizationDenied)
  | unknownJurisdiction (code : String)
  | packInvalid (packVersion : String) (findings : List PackValidationFinding)
  | activationDenied (packVersion : String) (environment : PolicyEnvironment)
      (reasons : List ActivationDenialReason)
  | alreadyActive (packVersion : String)
  | notActive (packVersion : String) (activeVersion : Option String)
  | storeFailure (message : String)
  | auditAppendFailed (failure : AuditAppendFailed)
deriving DecidableEq

/-- `JURISDICTION_PERMISSIONS.activatePack`. -/
def activatePack : String := "jurisdiction.pack.activate"

/-- A blank value throws. -/
def requireNonEmpty (field value : String) : PackStep String :=
  if isBlank value then throw s!"'{field}' requires a non-empty value" else return value

/-- A `try` block whose `catch` returns a `STORE_FAILURE`. -/
def tried {Result : Type} (body : PackStep Result) : PackStep (Except PackError Result) :=
  trying .storeFailure body

structure PackInput where
  principal : PolicyPrincipal
  pack : PolicyPack
  environment : PolicyEnvironment
  /-- Read by an activation only. -/
  disclosureBearingCapabilityIds : List String := []
  reason : String
  now : Instant
deriving DecidableEq

def PackInput.event (input : PackInput) (action : ActivationAction) (code id reason : String) :
    PackActivationRecord where
  id := id
  jurisdictionCode := code
  packVersion := input.pack.version
  packLifecycleAtActivation := input.pack.lifecycle
  environment := input.environment
  action := action
  occurredAt := input.now
  actor := input.principal.principalRef
  reason := reason
  createdAt := input.now

/-- Appends the event and its audit entry. -/
def commit (event : PackActivationRecord) (entry : AuditEntry) :
    PackStep (Except PackError PackActivationRecord) := do
  match ← tried (port (.append event)) with
  | .error failure => return .error failure
  | .ok () =>
    match ← port (.record entry) with
    | .ok () => return .ok event
    | .error failure => return .error (.auditAppendFailed failure)

namespace ActivatePackVersion

def entry (input : PackInput) (event : PackActivationRecord) (current : ActivePackState) :
    AuditEntry where
  occurredAt := input.now
  actorRef := input.principal.principalRef
  action := "jurisdiction.pack.activated"
  resourceType := "policy_pack_activation"
  resourceId := event.id
  reason := some event.reason
  afterMetadata :=
    [("jurisdictionCode", .text event.jurisdictionCode), ("packVersion", .text event.packVersion),
      ("packLifecycleAtActivation", .text event.packLifecycleAtActivation.name),
      ("environment", .text event.environment.name),
      ("supersededVersion", .text (current.version.getD "none"))]

/-- From the ledger as read on. -/
def decideOn (input : PackInput) (code : String) (current : ActivePackState) :
    PackStep (Except PackError PackActivationRecord) := do
  if current.version = some input.pack.version then
    return .error (.alreadyActive input.pack.version)
  else
    let id ← port .nextId
    let reason ← requireNonEmpty "reason" input.reason
    let event := input.event .activated code id reason
    commit event (entry input event current)

def execute (input : PackInput) : PackStep (Except PackError PackActivationRecord) := do
  match ← port (.authorize input.principal activatePack) with
  | .error denied => return .error (.authorizationDenied denied)
  | .ok () =>
    let findings := validatePack input.pack input.disclosureBearingCapabilityIds
    let reasons := canActivate input.pack input.environment
    if findings ≠ [] then return .error (.packInvalid input.pack.version findings)
    else if reasons ≠ [] then
      return .error (.activationDenied input.pack.version input.environment reasons)
    else
      match ← tried (port (.findJurisdiction input.pack.jurisdiction)) with
      | .error failure => return .error failure
      | .ok none => return .error (.unknownJurisdiction input.pack.jurisdiction)
      | .ok (some register) =>
        match ← tried (port (.listFor register.code input.environment)) with
        | .error failure => return .error failure
        | .ok events => decideOn input register.code (deriveActivePack events)

end ActivatePackVersion

namespace RetirePackVersion

def entry (input : PackInput) (event : PackActivationRecord) : AuditEntry where
  occurredAt := input.now
  actorRef := input.principal.principalRef
  action := "jurisdiction.pack.retired"
  resourceType := "policy_pack_activation"
  resourceId := event.id
  reason := some event.reason
  afterMetadata :=
    [("jurisdictionCode", .text event.jurisdictionCode), ("packVersion", .text event.packVersion),
      ("environment", .text event.environment.name)]

/-- From the ledger as read on. -/
def decideOn (input : PackInput) (code : String) (current : ActivePackState) :
    PackStep (Except PackError PackActivationRecord) := do
  if current.version ≠ some input.pack.version then
    return .error (.notActive input.pack.version current.version)
  else
    let id ← port .nextId
    let reason ← requireNonEmpty "reason" input.reason
    let event := input.event .retired code id reason
    commit event (entry input event)

def execute (input : PackInput) : PackStep (Except PackError PackActivationRecord) := do
  match ← port (.authorize input.principal activatePack) with
  | .error denied => return .error (.authorizationDenied denied)
  | .ok () =>
    match ← tried (port (.findJurisdiction input.pack.jurisdiction)) with
    | .error failure => return .error failure
    | .ok none => return .error (.unknownJurisdiction input.pack.jurisdiction)
    | .ok (some register) =>
      match ← tried (port (.listFor register.code input.environment)) with
      | .error failure => return .error failure
      | .ok events => decideOn input register.code (deriveActivePack events)

end RetirePackVersion

def GetActivePackVersion.execute (jurisdictionCode : String) (environment : PolicyEnvironment) :
    PackStep (Except PackError ActivePackState) := do
  match ← tried (port (.findJurisdiction jurisdictionCode)) with
  | .error failure => return .error failure
  | .ok none => return .error (.unknownJurisdiction jurisdictionCode)
  | .ok (some register) =>
    match ← tried (port (.listFor register.code environment)) with
    | .error failure => return .error failure
    | .ok events => return .ok (deriveActivePack events)

/-! ### The machine -/

inductive PackRequest
  | activate (input : PackInput)
  | retire (input : PackInput)
  | getActive (jurisdictionCode : String) (environment : PolicyEnvironment)
deriving DecidableEq

inductive PackOutcome
  | appended (result : Except PackError PackActivationRecord)
  | state (result : Except PackError ActivePackState)
deriving DecidableEq

def PackRequest.execute : PackRequest → PackStep PackOutcome
  | .activate input => return .appended (← ActivatePackVersion.execute input)
  | .retire input => return .appended (← RetirePackVersion.execute input)
  | .getActive jurisdictionCode environment =>
    return .state (← GetActivePackVersion.execute jurisdictionCode environment)

/-- The register changes by migrations only. -/
def packMachine :
    Machine PackOp (fun op ↦ Except String op.Value) PackStore AssignmentOracle PackRequest
      (Except String PackOutcome) (List JurisdictionRecord) where
  handler := throwingHandler PackStore.performOrFail
  program request := request.execute.run
  turn store register := { store with register }

abbrev PackConfiguration :=
  Configuration PackOp (fun op ↦ Except String op.Value) PackStore PackRequest
    (Except String PackOutcome)

abbrev PackEvent := Event AssignmentOracle PackRequest (List JurisdictionRecord)

abbrev PackPerformed := Performed PackOp fun op ↦ Except String op.Value

end Karar.Jurisdiction.PackActivation
