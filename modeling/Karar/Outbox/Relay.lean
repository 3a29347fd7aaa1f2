import Karar.Foundation.Interleaving
import Karar.Outbox.Table
import Mathlib.Algebra.Group.Int.Defs

/-!
# `OutboxRelay`

A run of a relay claims a batch, publishes its envelopes one after another, and marks the outcome of each
in a statement of its own. Any number of runs of any relays share the table: between two statements of one
run its claim can expire, another relay can claim the row, and the run can end for good.

The contract of a run: it claims once, before anything else; it publishes what it claimed; it marks a row
as published where the publisher resolved; and it marks a failure where the publisher threw, with one
attempt more than the claim returned.
-/

namespace Karar.Outbox

/-! ## The relay -/

section Relay

open Foundation SharedKernel

/-! ### Options -/

structure OutboxRelayOptions where
  relayId : String
  batchSize : Int := 25
  claimTtlMs : Int := 30000
  backoffBaseMs : Int := 1000
  backoffCapMs : Int := 60000
deriving DecidableEq

def MAX_BATCH_SIZE : Int := 100

def MAX_LAST_ERROR_LENGTH : ℕ := 2000

/-- A relay, as its constructor leaves it. -/
structure OutboxRelay where
  relayId : String
  batchSize : Int
  claimTtlMs : Int
  backoffBaseMs : Int
  backoffCapMs : Int
deriving DecidableEq

def OutboxRelay.new (options : OutboxRelayOptions) : Except String OutboxRelay :=
  if isBlank options.relayId then .error "OutboxRelay requires a non-empty relayId"
  else
    .ok
      { relayId := options.relayId
        batchSize := min (max 1 options.batchSize) MAX_BATCH_SIZE
        claimTtlMs := options.claimTtlMs
        backoffBaseMs := options.backoffBaseMs
        backoffCapMs := options.backoffCapMs }

/-- What a publisher throws: an `Error`, or any other value as text. -/
inductive PublishFailure
  | error (name message : String)
  | other (text : String)
deriving DecidableEq

def PublishFailure.text : PublishFailure → String
  | .error name message => s!"{name}: {message}"
  | .other text => text

def describeError (failure : PublishFailure) : String :=
  if MAX_LAST_ERROR_LENGTH < failure.text.length then
    (failure.text.take MAX_LAST_ERROR_LENGTH).toString ++ "…"
  else failure.text

def OutboxRelay.backoffMs (relay : OutboxRelay) (attemptsAfter : ℕ) : Int :=
  min relay.backoffCapMs (relay.backoffBaseMs * 2 ^ (attemptsAfter - 1))

/-! ### Operations -/

inductive RelayOp
  | claimBatch (relayId : String) (claimTtlMs : Int) (batchSize : Int)
  /-- The publisher is given the envelope of a row. -/
  | publish (id envelope : String)
  | markPublished (id : String)
  | deadLetter (id : String) (attempts : ℕ) (lastError : String)
  | scheduleRetry (id : String) (attempts : ℕ) (lastError : String) (backoffMs : Int)
  /-- `this.stopping`. -/
  | stopping
  | releaseOwnClaims (relayId : String)
  | lag
deriving DecidableEq

abbrev RelayOp.Answer : RelayOp → Type
  | .claimBatch _ _ _ => List ClaimedRow
  | .publish _ _ => Except PublishFailure Unit
  | .markPublished _ => Unit
  | .deadLetter _ _ _ => Unit
  | .scheduleRetry _ _ _ _ => Unit
  | .stopping => Bool
  | .releaseOwnClaims _ => Unit
  | .lag => Option Int

abbrev RelayStep := Program RelayOp RelayOp.Answer

def statement (op : RelayOp) : RelayStep op.Answer :=
  Program.perform op

/-! ### A run -/

inductive PublishOutcome
  | published
  | failed
  | deadLettered
deriving DecidableEq

structure RelayRunReport where
  claimed : ℕ
  published : ℕ
  failed : ℕ
  deadLettered : ℕ
deriving DecidableEq

def RelayRunReport.add (report : RelayRunReport) : PublishOutcome → RelayRunReport
  | .published => { report with published := report.published + 1 }
  | .failed => { report with failed := report.failed + 1 }
  | .deadLettered => { report with deadLettered := report.deadLettered + 1 }

namespace OutboxRelay

variable (relay : OutboxRelay)

def markFailed (row : ClaimedRow) (failure : PublishFailure) : RelayStep PublishOutcome := do
  let attemptsAfter := row.attempts + 1
  let lastError := describeError failure
  if row.maxAttempts ≤ attemptsAfter then
    statement (.deadLetter row.id attemptsAfter lastError)
    return .deadLettered
  else
    statement (.scheduleRetry row.id attemptsAfter lastError (relay.backoffMs attemptsAfter))
    return .failed

/-- Success is marked only after the publisher resolved. -/
def publishOne (row : ClaimedRow) : RelayStep PublishOutcome := do
  match ← statement (.publish row.id row.envelope) with
  | .error failure => relay.markFailed row failure
  | .ok () =>
    statement (.markPublished row.id)
    return .published

/-- A relay that stops finishes the event in flight and releases the rest. -/
def publishEach : List ClaimedRow → RelayRunReport → RelayStep RelayRunReport
  | [], report => return report
  | row :: rest, report => do
    let report := report.add (← relay.publishOne row)
    let stopping ← statement .stopping
    if stopping && !rest.isEmpty then
      statement (.releaseOwnClaims relay.relayId)
      return report
    else publishEach rest report

def runOnce : RelayStep RelayRunReport := do
  let rows ← statement (.claimBatch relay.relayId relay.claimTtlMs relay.batchSize)
  let report ← relay.publishEach rows ⟨rows.length, 0, 0, 0⟩
  let _ ← statement .lag
  return report

end OutboxRelay

/-! ### The machine -/

structure OutboxStore where
  table : OutboxTable
  now : Instant

/-- What the surroundings decide about an operation. -/
structure RelayOracle where
  /-- The statement fails and is rolled back. -/
  fails : Bool := false
  /-- The rows that other statements have locked. -/
  locked : List String := []
  /-- The order in which a claim returns its rows. -/
  returning : List ClaimedRow → List ClaimedRow := id
  published : Except PublishFailure Unit := .ok ()
  stopping : Bool := false

/-- `RETURNING` promises the rows, and no order of them. -/
def RelayOracle.returned (oracle : RelayOracle) (rows : List ClaimedRow) : List ClaimedRow :=
  if (oracle.returning rows).Perm rows then oracle.returning rows else rows

theorem RelayOracle.returned_perm (oracle : RelayOracle) (rows : List ClaimedRow) :
    (oracle.returned rows).Perm rows := by
  unfold RelayOracle.returned
  split_ifs with hperm
  · exact hperm
  · exact .refl rows

def OutboxStore.perform (store : OutboxStore) :
    (op : RelayOp) → RelayOracle → Option (OutboxStore × op.Answer)
  | .claimBatch relayId claimTtlMs batchSize, oracle =>
    let (table, rows) :=
      store.table.claimBatch store.now ⟨relayId, store.now + claimTtlMs⟩ oracle.locked
        batchSize.toNat
    some ({ store with table }, oracle.returned rows)
  | .publish _ _, oracle => some (store, oracle.published)
  | .markPublished id, _ =>
    (store.table.markPublished store.now id).map fun table ↦ ({ store with table }, ())
  | .deadLetter id attempts lastError, _ =>
    (store.table.markDeadLettered store.now id attempts lastError).map fun table ↦
      ({ store with table }, ())
  | .scheduleRetry id attempts lastError backoffMs, _ =>
    some
      ({ store with
          table := store.table.scheduleRetry (store.now + backoffMs) id attempts lastError }, ())
  | .stopping, oracle => some (store, oracle.stopping)
  | .releaseOwnClaims relayId, _ =>
    some ({ store with table := store.table.releaseOwnClaims relayId }, ())
  | .lag, _ => some (store, store.table.oldestPending.map (store.now - ·))

/-- A statement that fails ends the run. -/
def OutboxStore.performOrFail (store : OutboxStore) (op : RelayOp) (oracle : RelayOracle) :
    Option (OutboxStore × op.Answer) :=
  if oracle.fails then none else store.perform op oracle

inductive RelayRequest
  | run (relay : OutboxRelay)
  /-- What `stop` does once the run in flight has ended. -/
  | stop (relay : OutboxRelay)
deriving DecidableEq

def RelayRequest.relay : RelayRequest → OutboxRelay
  | .run relay => relay
  | .stop relay => relay

inductive RelayOutcome
  | ran (report : RelayRunReport)
  | stopped
deriving DecidableEq

def RelayRequest.execute : RelayRequest → RelayStep RelayOutcome
  | .run relay => return .ran (← relay.runOnce)
  | .stop relay => do
    statement (.releaseOwnClaims relay.relayId)
    return .stopped

inductive OutboxTick
  /-- A transaction that enqueued an event commits. -/
  | enqueue (values : NewOutboxRow)
  /-- The clock of the database. -/
  | clock (now : Instant)
deriving DecidableEq

/-- An event that is in the table already is refused. -/
def OutboxStore.turn (store : OutboxStore) : OutboxTick → OutboxStore
  | .enqueue values =>
    { store with table := (store.table.insert values store.now).getD store.table }
  | .clock now => { store with now }

def relayMachine :
    Machine RelayOp RelayOp.Answer OutboxStore RelayOracle RelayRequest RelayOutcome OutboxTick where
  handler := OutboxStore.performOrFail
  program := RelayRequest.execute
  turn := OutboxStore.turn

abbrev RelayConfiguration :=
  Configuration RelayOp RelayOp.Answer OutboxStore RelayRequest RelayOutcome

abbrev RelayPerformed := Performed RelayOp RelayOp.Answer

abbrev RelayOccurrence := Occurrence RelayOp RelayOp.Answer

/-- The rows that an operation claimed. -/
def claimedRows : RelayPerformed → List ClaimedRow
  | ⟨.claimBatch _ _ _, rows⟩ => rows
  | _ => []

def claimedIds (performed : RelayPerformed) : List String :=
  (claimedRows performed).map (·.id)

/-- A table without rows. -/
def emptyOutbox (now : Instant) : OutboxStore := ⟨KeyedTable.empty, now⟩

end Relay

/-! ## The conduct of a run -/

section RelayConduct

open Foundation

/-! ### What a run has claimed -/

/-- A run that has claimed its batch, and nothing since. -/
def Began (relay : OutboxRelay) (rows : List ClaimedRow) (log : List RelayPerformed) : Prop :=
  ∃ extra, log = extra ++ [⟨.claimBatch relay.relayId relay.claimTtlMs relay.batchSize, rows⟩] ∧
    ∀ performed ∈ extra, claimedRows performed = []

/-- The publisher was given the claimed row and answered. -/
def Attempted (relay : OutboxRelay) (log : List RelayPerformed) (row : ClaimedRow)
    (outcome : Except PublishFailure Unit) : Prop :=
  ∃ rows, Began relay rows log ∧ row ∈ rows ∧ ⟨.publish row.id row.envelope, outcome⟩ ∈ log

section Began

variable {relay : OutboxRelay} {rows : List ClaimedRow} {log : List RelayPerformed}

theorem began_claimed (relay : OutboxRelay) (rows : List ClaimedRow) :
    Began relay rows [⟨.claimBatch relay.relayId relay.claimTtlMs relay.batchSize, rows⟩] :=
  ⟨[], rfl, by simp⟩

theorem Began.cons (hbegan : Began relay rows log) {performed : RelayPerformed}
    (hnone : claimedRows performed = []) : Began relay rows (performed :: log) := by
  obtain ⟨extra, rfl, hextra⟩ := hbegan
  refine ⟨performed :: extra, rfl, fun other hother ↦ ?_⟩
  rcases List.mem_cons.mp hother with rfl | hearlier
  · exact hnone
  · exact hextra other hearlier

/-- The only claim of the log is the batch. -/
theorem Began.find? (hbegan : Began relay rows log) {id : String} {performed : RelayPerformed}
    (hfound : log.find? (fun performed ↦ id ∈ claimedIds performed) = some performed) :
    performed = ⟨.claimBatch relay.relayId relay.claimTtlMs relay.batchSize, rows⟩ := by
  obtain ⟨extra, rfl, hextra⟩ := hbegan
  have hclaims : id ∈ claimedIds performed := by simpa using List.find?_some hfound
  rcases List.mem_append.mp (List.mem_of_find?_eq_some hfound) with hearlier | hlast
  · simp [claimedIds, hextra performed hearlier] at hclaims
  · exact List.mem_singleton.mp hlast

end Began

/-! ### The contract -/

def Conduct (relay : OutboxRelay) (log : List RelayPerformed) : RelayOp → Prop
  | .claimBatch relayId _ _ => log = [] ∧ relayId = relay.relayId
  | .publish id envelope => ∃ rows, Began relay rows log ∧ ∃ row ∈ rows, row.id = id ∧
      row.envelope = envelope
  | .markPublished id => ∃ row, row.id = id ∧ Attempted relay log row (.ok ())
  | .deadLetter id attempts _ => ∃ row failure, row.id = id ∧ attempts = row.attempts + 1 ∧
      row.maxAttempts ≤ attempts ∧ Attempted relay log row (.error failure)
  | .scheduleRetry id attempts _ _ => ∃ row failure, row.id = id ∧ attempts = row.attempts + 1 ∧
      Attempted relay log row (.error failure)
  | .releaseOwnClaims relayId => relayId = relay.relayId
  | _ => True

def relayContract :
    Machine.Contract RelayOp RelayOp.Answer OutboxStore RelayRequest RelayOutcome where
  invariant _ := True
  allowed request := Conduct request.relay
  post _ _ _ := True

section Honours

variable {relay : OutboxRelay} {rows rest : List ClaimedRow} {row : ClaimedRow}
  {log : List RelayPerformed}

/-- A part of a run after the claim of its batch. -/
abbrev Behaves (relay : OutboxRelay) (rows : List ClaimedRow) (log : List RelayPerformed)
    {Result : Type} (step : RelayStep Result) : Prop :=
  Safe OutboxStore.performOrFail (fun _ ↦ True) (Conduct relay) (fun later _ ↦ Began relay rows later)
    log step

theorem markFailed_behaves {failure : PublishFailure} (hbegan : Began relay rows log)
    (hrow : row ∈ rows) (hfailed : ⟨.publish row.id row.envelope, .error failure⟩ ∈ log) :
    Behaves relay rows log (relay.markFailed row failure) := by
  have hattempted : Attempted relay log row (.error failure) := ⟨rows, hbegan, hrow, hfailed⟩
  unfold OutboxRelay.markFailed
  refine safe_ite (fun hlast ↦ ?_) fun _ ↦ ?_
  · exact safe_any_bind ⟨row, failure, rfl, rfl, hlast, hattempted⟩ fun _ ↦ hbegan.cons rfl
  · exact safe_any_bind ⟨row, failure, rfl, rfl, hattempted⟩ fun _ ↦ hbegan.cons rfl

theorem publishOne_behaves (hbegan : Began relay rows log) (hrow : row ∈ rows) :
    Behaves relay rows log (relay.publishOne row) := by
  unfold OutboxRelay.publishOne
  refine safe_any_bind ⟨rows, hbegan, row, hrow, rfl, rfl⟩ fun outcome ↦ ?_
  have hpublished : Began relay rows (⟨.publish row.id row.envelope, outcome⟩ :: log) :=
    hbegan.cons rfl
  cases outcome with
  | error failure => exact markFailed_behaves hpublished hrow List.mem_cons_self
  | ok =>
    refine safe_any_bind ⟨row, rfl, rows, hpublished, hrow, List.mem_cons_self⟩ fun _ ↦ ?_
    exact hpublished.cons rfl

theorem publishEach_behaves (hbegan : Began relay rows log) (hrest : ∀ row ∈ rest, row ∈ rows)
    (report : RelayRunReport) : Behaves relay rows log (relay.publishEach rest report) := by
  induction rest generalizing log report with
  | nil => exact hbegan
  | cons row rest ih =>
    unfold OutboxRelay.publishEach
    refine safe_bind_of (publishOne_behaves hbegan (hrest row List.mem_cons_self)) ?_
    intro later outcome hlater
    refine safe_any_bind trivial fun stopping ↦ ?_
    have hstill : Began relay rows (⟨.stopping, stopping⟩ :: later) := hlater.cons rfl
    refine safe_ite (fun _ ↦ ?_) fun _ ↦ ?_
    · exact safe_any_bind rfl fun _ ↦ hstill.cons rfl
    · exact ih hstill (fun row hrow ↦ hrest row (List.mem_cons_of_mem _ hrow)) _

theorem relay_honours (request : RelayRequest) : relayMachine.Honours relayContract request := by
  cases request with
  | stop relay => exact safe_any_bind rfl fun _ ↦ trivial
  | run relay =>
    show Safe _ _ (Conduct relay) _ _ (relay.runOnce >>= fun report ↦ pure (RelayOutcome.ran report))
    refine safe_bind ?_
    unfold OutboxRelay.runOnce
    refine safe_any_bind ⟨rfl, rfl⟩ fun rows ↦ ?_
    refine safe_bind_of (publishEach_behaves (began_claimed relay rows) (fun _ ↦ id) _) ?_
    intro later report _
    exact safe_any_bind trivial fun _ ↦ trivial

end Honours

end RelayConduct

end Karar.Outbox
