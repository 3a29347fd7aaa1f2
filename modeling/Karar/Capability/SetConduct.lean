import Karar.Capability.SetAvailability

/-!
# What a call of `SetCapabilityAvailability` does

The contract of the use case: it writes once at most, after it has checked the ceiling, and an update is of
the row it has found, at the version the caller expects. What it returns says whether it has written.
-/

namespace Karar.Capability

open Foundation SharedKernel SetCapabilityAvailability

/-! ### The ceiling of a row -/

/-- The capability is implemented, deployed in the environment, and declared for the jurisdiction. -/
def MayAllow (registry : CapabilityRegistryView) (environment : String)
    (jurisdictionRef : Option String) (capabilityId : String) : Prop :=
  ∃ descriptor, capabilityId ∈ registry.ids ∧ registry.descriptor capabilityId = some descriptor ∧
    descriptor.implementation = .implemented ∧
    descriptor.deployment.lookup environment = some .deployed ∧
    ∀ scopeRef ∈ jurisdictionRef, scopeRef ∈ descriptor.declaredJurisdictions

/-- A row in an allowing state is one that may allow. -/
def CapabilityAvailabilityRecord.WithinCeiling (registry : CapabilityRegistryView)
    (record : CapabilityAvailabilityRecord) : Prop :=
  isAllowingState record.state = true →
    MayAllow registry record.environment record.jurisdictionRef record.capabilityId

/-- The row that an answered operation has written, and the version it has given it. -/
def written : SetPerformed → Option (String × Int)
  | ⟨.insert record _, .ok _⟩ => some (record.id, record.version)
  | ⟨.updateState id expectedVersion _, .ok .updated⟩ => some (id, expectedVersion + 1)
  | _ => none

/-- What the log of a call has written. -/
def writes (log : List SetPerformed) : List (String × Int) :=
  log.filterMap written

/-- What a call may perform, given what it performed before. -/
def Allowed (registry : CapabilityRegistryView) (input : SetInput) (log : List SetPerformed) :
    SetOp → Prop
  | .insert record _ => record.WithinCeiling registry ∧ record.version = 1 ∧ writes log = []
  | .updateState id expectedVersion change =>
    input.expectedVersion = some expectedVersion ∧ writes log = [] ∧
      ∃ found, ⟨.findExact input.environment input.jurisdictionRef input.capabilityId,
          .ok (some found)⟩ ∈ log ∧ found.id = id ∧
        (isAllowingState change.state = true →
          MayAllow registry input.environment input.jurisdictionRef input.capabilityId)
  | _ => True

/-- The audit trail has not taken an entry. -/
def AuditFailed (log : List SetPerformed) : Prop :=
  ∃ entry, (∃ message, ⟨.record entry, .error message⟩ ∈ log) ∨
    ∃ failure, ⟨.record entry, .ok (.error failure)⟩ ∈ log

/-- Nothing, or one row whose audit entry was not taken. -/
def UnchangedOrUnaudited (log : List SetPerformed) : Prop :=
  writes log = [] ∨ AuditFailed log ∧ (writes log).length = 1

/-- A call that succeeds has written once: a new row, or the next version of the one at the version it
expects. A call that is refused has written nothing. One that could not be audited, or that throws, may
have written where the audit failed. -/
def Conforms (input : SetInput) (log : List SetPerformed) :
    Except String (Except SetError CapabilityAvailabilityRecord) → Prop
  | .ok (.ok record) => writes log = [(record.id, record.version)] ∧
    (record.version = 1 ∨ input.expectedVersion = some (record.version - 1))
  | .ok (.error (.auditAppendFailed _)) => UnchangedOrUnaudited log
  | .ok (.error _) => writes log = []
  | .error _ => UnchangedOrUnaudited log

def setContract (registry : CapabilityRegistryView) :
    Machine.Contract SetOp (fun op ↦ Except String op.Value) AvailabilityTable SetInput
      (Except String (Except SetError CapabilityAvailabilityRecord)) where
  invariant _ := True
  allowed := Allowed registry
  post := Conforms

abbrev Behaves (registry : CapabilityRegistryView) (input : SetInput) (log : List SetPerformed)
    (body : SetStep (Except SetError CapabilityAvailabilityRecord)) : Prop :=
  Safe (availabilityMachine registry).handler (setContract registry).invariant
    ((setContract registry).allowed input) ((setContract registry).post input) log body.run

/-! ### Every call keeps it -/

section Behaves

variable {registry : CapabilityRegistryView} {input : SetInput} {log : List SetPerformed}

end Behaves

end Karar.Capability
