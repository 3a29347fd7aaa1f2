import Karar.Outbox.EffectivelyOnce
import Karar.Outbox.Worker

/-!
# What a worker may do next

A worker marks a row as published after it has delivered the envelope of the row to every consumer that is
subscribed to it, one after another, whatever became of the deliveries (`Deliveries`). Each of them keeps
to the transaction that it has begun. `worker_honours` carries it through the program of a run.
-/

namespace Karar.Outbox

open Events Foundation KeyedTable Machine SharedKernel
open Platform (PgError)
open Platform.Adapter (Callback Rejection)

variable {Effect Rows Thrown : Type} {decode : String → EventEnvelope}

/-! ### Deliveries -/

/-- What a delivery has performed: its transaction was not begun, was rolled back, or was committed. -/
inductive Delivery (key : ReceiptKey) (segment : List (WorkerPerformed Effect Rows)) : Prop
  | refused (error : PgError) (hbegin : ⟨.consumer .begin, .error error⟩ ∈ segment)
  | rolledBack (number : ℕ) (count : Except PgError ℕ) (answer : Except PgError Unit)
      (hinsert : ⟨.consumer (.insertReceipt number key), count⟩ ∈ segment)
      (hrollback : ⟨.consumer (.rollback number), answer⟩ ∈ segment)
  | committed (number count : ℕ)
      (hinsert : ⟨.consumer (.insertReceipt number key), .ok count⟩ ∈ segment)
      (hcommit : ⟨.consumer (.commit number), .ok ()⟩ ∈ segment)

/-- One delivery for each key, one after another; what was performed last comes first. -/
inductive Deliveries : List ReceiptKey → List (WorkerPerformed Effect Rows) → Prop
  | none : Deliveries [] []
  | next {key : ReceiptKey} {keys : List ReceiptKey} {segment later : List (WorkerPerformed Effect Rows)}
      (hdelivery : Delivery key segment) (hrest : Deliveries keys later) :
    Deliveries (key :: keys) (later ++ segment)

/-- The receipts of the consumers that a bus gives the envelope to. -/
def InMemoryEventBus.receipts (bus : InMemoryEventBus Effect Rows Thrown) (envelope : EventEnvelope) :
    List ReceiptKey :=
  (bus.subscribed envelope.eventName).map fun subscription ↦ (subscription.delivery envelope).key

/-- The envelope was delivered for all of the keys. -/
def DeliveredIn (log : List (WorkerPerformed Effect Rows)) (keys : List ReceiptKey) : Prop :=
  ∃ later segments earlier, log = later ++ segments ++ earlier ∧ Deliveries keys segments

/-- The rows that an operation of a worker claimed. -/
def workerClaims : WorkerPerformed Effect Rows → List ClaimedRow
  | ⟨.relay op, answer⟩ => claimedRows ⟨op, answer⟩
  | _ => []

/-- The transaction was begun. -/
def Opened (log : List (WorkerPerformed Effect Rows)) (number : ℕ) : Prop :=
  ⟨.consumer .begin, .ok number⟩ ∈ log

/-- A worker marks a row as published after it has claimed it and delivered its envelope. Its consumers
keep to the transactions that it has begun. -/
def WorkerConduct (decode : String → EventEnvelope) (runtime : WorkerRuntime Effect Rows Thrown)
    (log : List (WorkerPerformed Effect Rows)) : WorkerOp Effect → Prop
  | .relay (.markPublished id) => ∃ claimed : ClaimedRow, claimed.id = id ∧
      (∃ performed ∈ log, claimed ∈ workerClaims performed) ∧
        DeliveredIn log (runtime.bus.receipts (decode claimed.envelope))
  | .relay _ => True
  | .consumer op => ∀ number ∈ transactionOf op, Opened log number

def workerContract (decode : String → EventEnvelope) : Machine.Contract (WorkerOp Effect)
    (WorkerAnswer Effect Rows) (WorkerStore Effect) (WorkerRequest Effect Rows Thrown) RelayOutcome where
  invariant _ := True
  allowed request := WorkerConduct decode request.runtime
  post _ _ _ := True

section Honours

variable {runtime : WorkerRuntime Effect Rows Thrown} {log : List (WorkerPerformed Effect Rows)}

/-- A part of a worker's run. -/
abbrev Works (decode : String → EventEnvelope) (runtime : WorkerRuntime Effect Rows Thrown)
    (log : List (WorkerPerformed Effect Rows)) {Result : Type}
    (post : List (WorkerPerformed Effect Rows) → Result → Prop) (step : WorkerStep Effect Rows Result) :
    Prop :=
  Safe (workerMachine Effect Rows Thrown decode).handler (fun _ ↦ True) (WorkerConduct decode runtime)
    post log step

/-- What was performed is only added to. -/
def Extended (log later : List (WorkerPerformed Effect Rows)) : Prop := ∃ extra, later = extra ++ log

theorem Extended.refl (log : List (WorkerPerformed Effect Rows)) : Extended log log := ⟨[], rfl⟩

theorem Extended.cons {later : List (WorkerPerformed Effect Rows)} (hextended : Extended log later)
    (performed : WorkerPerformed Effect Rows) : Extended log (performed :: later) := by
  obtain ⟨extra, rfl⟩ := hextended
  exact ⟨performed :: extra, rfl⟩

theorem Extended.trans {later last : List (WorkerPerformed Effect Rows)}
    (hfirst : Extended log later) (hsecond : Extended later last) : Extended log last := by
  obtain ⟨extra, rfl⟩ := hfirst
  obtain ⟨more, rfl⟩ := hsecond
  exact ⟨more ++ extra, (List.append_assoc _ _ _).symm⟩

theorem Extended.mem {later : List (WorkerPerformed Effect Rows)} (hextended : Extended log later)
    {performed : WorkerPerformed Effect Rows} (hmem : performed ∈ log) : performed ∈ later := by
  obtain ⟨extra, rfl⟩ := hextended
  exact List.mem_append_right _ hmem

variable {Result : Type} {key : ReceiptKey}

/-- The delivery has been made since a log. -/
def DeliveredSince (key : ReceiptKey) (log later : List (WorkerPerformed Effect Rows)) : Prop :=
  ∃ segment, later = segment ++ log ∧ Delivery key segment

/-- An operation on a transaction that was begun. -/
theorem conduct_of_opened {op : ConsumerOp Effect} {number : ℕ} (hopened : Opened log number)
    (hop : transactionOf op = some number) : WorkerConduct decode runtime log (.consumer op) := by
  intro other hother
  obtain rfl := Option.some.inj (hop.symm.trans hother)
  exact hopened

theorem onTransaction_works {number : ℕ} (fn : Callback Effect Rows Thrown Result)
    (hopened : Opened log number) :
    Works decode runtime log (fun later _ ↦ Extended log later)
      ((onTransaction number fn).substitute asWorker) := by
  induction fn generalizing log with
  | pure outcome => exact .refl log
  | call effect next ih =>
    refine ⟨conduct_of_opened hopened rfl, fun store oracle later answer _ _ ↦ ?_⟩
    refine (ih answer (List.mem_cons_of_mem _ hopened)).mono fun longer _ hlonger ↦ ?_
    exact ((Extended.refl log).cons _).trans hlonger

/-- The end of a transaction in which the insert of the receipt was answered. -/
theorem endTransaction_works {number : ℕ} {segment : List (WorkerPerformed Effect Rows)}
    {outcome : Except (Rejection Thrown) Result} {count : Except PgError ℕ}
    (hopened : Opened (segment ++ log) number)
    (hinsert : ⟨.consumer (.insertReceipt number key), count⟩ ∈ segment)
    (hinserted : ∀ result, outcome = .ok result → ∃ rows, count = .ok rows) :
    Works decode runtime (segment ++ log) (fun later _ ↦ DeliveredSince key log later)
      ((endTransaction number outcome).substitute asWorker) := by
  cases outcome with
  | error rejection =>
    refine safe_any_bind (conduct_of_opened hopened rfl) fun answer ↦ ⟨⟨_, answer⟩ :: segment, rfl, ?_⟩
    exact .rolledBack number count answer (List.mem_cons_of_mem _ hinsert) List.mem_cons_self
  | ok result =>
    obtain ⟨rows, rfl⟩ := hinserted result rfl
    refine safe_any_bind (conduct_of_opened hopened rfl) fun committed ↦ ?_
    cases committed with
    | ok =>
      refine ⟨⟨.consumer (.commit number), .ok ()⟩ :: segment, rfl, ?_⟩
      exact .committed number rows (List.mem_cons_of_mem _ hinsert) List.mem_cons_self
    | error error =>
      refine safe_any_bind (conduct_of_opened (List.mem_cons_of_mem _ hopened) rfl) fun answer ↦
        ⟨⟨_, answer⟩ :: ⟨.consumer (.commit number), .error error⟩ :: segment, rfl, ?_⟩
      exact .rolledBack number (.ok rows) answer
        (List.mem_cons_of_mem _ (List.mem_cons_of_mem _ hinsert)) List.mem_cons_self

theorem withIdempotency_works {number : ℕ} (fn : Callback Effect Rows Thrown Result)
    (hopened : Opened log number) :
    Works decode runtime log
      (fun later outcome ↦ ∃ segment count, later = segment ++ log ∧
        ⟨.consumer (.insertReceipt number key), count⟩ ∈ segment ∧
          ∀ result, outcome = .ok result → ∃ rows, count = .ok rows)
      ((withIdempotency number key fn).substitute asWorker) := by
  unfold withIdempotency
  refine safe_any_bind (conduct_of_opened hopened rfl) fun count ↦ ?_
  match count with
  | .error error => exact ⟨[_], .error error, rfl, List.mem_singleton_self _, by simp⟩
  | .ok 0 => exact ⟨[_], .ok 0, rfl, List.mem_singleton_self _, fun _ _ ↦ ⟨0, rfl⟩⟩
  | .ok (rows + 1) =>
    show Works decode runtime _ _ ((onTransaction number fn >>= _).substitute asWorker)
    rw [Program.substitute_bind]
    refine safe_bind_of (onTransaction_works fn (List.mem_cons_of_mem _ hopened)) ?_
    rintro later outcome ⟨extra, rfl⟩
    have hsegment : extra ++ ⟨.consumer (.insertReceipt number key), .ok (rows + 1)⟩ :: log =
        (extra ++ [⟨.consumer (.insertReceipt number key), .ok (rows + 1)⟩]) ++ log := by simp
    cases outcome with
    | error rejection => exact ⟨_, .ok (rows + 1), hsegment, by simp, fun _ _ ↦ ⟨rows + 1, rfl⟩⟩
    | ok result => exact ⟨_, .ok (rows + 1), hsegment, by simp, fun _ _ ↦ ⟨rows + 1, rfl⟩⟩

theorem consume_works (delivery : ConsumerDelivery Effect Rows Thrown Result) :
    Works decode runtime log (fun later _ ↦ DeliveredSince delivery.key log later)
      (delivery.consume.substitute asWorker) := by
  unfold ConsumerDelivery.consume inTransaction
  refine safe_any_bind (by simp [WorkerConduct, transactionOf]) fun begun ↦ ?_
  cases begun with
  | error error => exact ⟨[_], rfl, .refused error (List.mem_singleton_self _)⟩
  | ok number =>
    show Works decode runtime _ _ ((withIdempotency number delivery.key delivery.fn >>= _).substitute
      asWorker)
    rw [Program.substitute_bind]
    have hopened : Opened (⟨.consumer .begin, .ok number⟩ :: log) number := List.mem_cons_self
    refine safe_bind_of (withIdempotency_works delivery.fn hopened) ?_
    rintro later outcome ⟨segment, count, rfl, hinsert, hinserted⟩
    have hsegment : segment ++ ⟨.consumer .begin, .ok number⟩ :: log =
        (segment ++ [⟨.consumer .begin, .ok number⟩]) ++ log := by simp
    rw [hsegment]
    refine endTransaction_works ?_ (List.mem_append_left _ hinsert) hinserted
    exact List.mem_append_left _ (List.mem_append_right _ List.mem_cons_self)

theorem deliverEach_works (envelope : EventEnvelope)
    (subscriptions : List (Subscription Effect Rows Thrown)) :
    Works decode runtime log
      (fun later _ ↦ ∃ segments, later = segments ++ log ∧ Deliveries
        (subscriptions.map fun subscription ↦ (subscription.delivery envelope).key) segments)
      (deliverEach envelope subscriptions) := by
  induction subscriptions generalizing log with
  | nil => exact ⟨[], rfl, .none⟩
  | cons subscription rest ih =>
    unfold deliverEach
    refine safe_bind_of (consume_works (subscription.delivery envelope)) ?_
    rintro later outcome ⟨segment, rfl, hdelivery⟩
    refine ih.mono fun last _ hlast ↦ ?_
    obtain ⟨segments, rfl, hrest⟩ := hlast
    exact ⟨segments ++ segment, (List.append_assoc _ _ _).symm, .next hdelivery hrest⟩

/-- Where `publish` resolves, every consumer that is subscribed was called. -/
theorem publish_works (envelope : EventEnvelope) :
    Works decode runtime log
      (fun later outcome ↦ ∃ segments, later = segments ++ log ∧
        (outcome = .ok () → Deliveries (runtime.bus.receipts envelope) segments))
      (runtime.bus.publish envelope) := by
  unfold InMemoryEventBus.publish
  cases getEventEntry runtime.bus.catalogue envelope.eventName with
  | error error => exact ⟨[], rfl, by simp⟩
  | ok entry =>
    refine safe_bind_of (deliverEach_works envelope _) ?_
    rintro later outcome ⟨segments, rfl, hdeliveries⟩
    exact ⟨segments, rfl, fun _ ↦ hdeliveries⟩

/-- A row is in what a run has claimed. -/
def Took (log : List (WorkerPerformed Effect Rows)) (row : ClaimedRow) : Prop :=
  ∃ performed ∈ log, row ∈ workerClaims performed

theorem Took.extended {later : List (WorkerPerformed Effect Rows)} {row : ClaimedRow}
    (htook : Took log row) (hextended : Extended log later) : Took later row := by
  obtain ⟨performed, hperformed, hrow⟩ := htook
  exact ⟨performed, hextended.mem hperformed, hrow⟩

theorem publishOne_works {row : ClaimedRow} (htook : Took log row) :
    Works decode runtime log (fun later _ ↦ Extended log later)
      ((runtime.relay.publishOne row).substitute (runtime.carryOut decode)) := by
  unfold OutboxRelay.publishOne
  show Works decode runtime _ _ ((Program.perform (RelayOp.publish row.id row.envelope) >>= _).substitute
    (runtime.carryOut decode))
  rw [Program.substitute_perform_bind]
  refine safe_bind_of (publish_works (decode row.envelope)) ?_
  rintro later outcome ⟨segments, rfl, hdeliveries⟩
  cases outcome with
  | ok =>
    refine safe_any_bind ⟨row, rfl, htook.extended ⟨segments, rfl⟩, [], segments, log, rfl,
      hdeliveries rfl⟩ fun _ ↦ ?_
    exact (Extended.cons ⟨segments, rfl⟩ _ : Extended log _)
  | error failure =>
    unfold OutboxRelay.markFailed
    rw [Program.substitute_ite]
    refine safe_ite (fun _ ↦ ?_) fun _ ↦ ?_
    · exact safe_any_bind trivial fun _ ↦ (Extended.cons ⟨segments, rfl⟩ _ : Extended log _)
    · exact safe_any_bind trivial fun _ ↦ (Extended.cons ⟨segments, rfl⟩ _ : Extended log _)

theorem publishEach_works {rows : List ClaimedRow} (htook : ∀ row ∈ rows, Took log row)
    (report : RelayRunReport) :
    Works decode runtime log (fun _ _ ↦ True)
      ((runtime.relay.publishEach rows report).substitute (runtime.carryOut decode)) := by
  induction rows generalizing log report with
  | nil => trivial
  | cons row rest ih =>
    unfold OutboxRelay.publishEach
    rw [Program.substitute_bind]
    refine safe_bind_of (publishOne_works (htook row List.mem_cons_self)) ?_
    intro later outcome hlater
    refine safe_any_bind trivial fun (stopping : Bool) ↦ ?_
    show Works decode runtime _ _ (Program.substitute (runtime.carryOut decode)
      (if (stopping && !rest.isEmpty) = true then _ else runtime.relay.publishEach rest _))
    rw [Program.substitute_ite]
    refine safe_ite (fun _ ↦ ?_) fun _ ↦ ?_
    · exact safe_any_bind trivial fun _ ↦ trivial
    · exact ih (fun other hother ↦
        (htook other (List.mem_cons_of_mem _ hother)).extended (hlater.cons _)) _

theorem worker_honours (request : WorkerRequest Effect Rows Thrown) :
    (workerMachine Effect Rows Thrown decode).Honours (workerContract decode) request := by
  cases request with
  | stop runtime => exact safe_any_bind trivial fun _ ↦ trivial
  | run runtime =>
    show Works decode runtime [] (fun _ _ ↦ True)
      ((runtime.relay.runOnce >>= fun report ↦ pure (RelayOutcome.ran report)).substitute
        (runtime.carryOut decode))
    rw [Program.substitute_bind]
    refine safe_bind ?_
    unfold OutboxRelay.runOnce
    refine safe_any_bind trivial fun rows ↦ ?_
    show Safe _ _ _ _ _ ((runtime.relay.publishEach rows _ >>= _).substitute _)
    rw [Program.substitute_bind]
    refine safe_bind_of (publishEach_works (fun row hrow ↦ ⟨_, List.mem_cons_self, hrow⟩) _) ?_
    intro later report _
    exact safe_any_bind trivial fun _ ↦ trivial

end Honours

end Karar.Outbox
