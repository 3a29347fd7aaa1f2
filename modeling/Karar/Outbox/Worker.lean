import Karar.Events.Envelope
import Karar.Foundation.Substitution
import Karar.Outbox.Receipts
import Karar.Outbox.RowChanges

/-!
# The worker

A worker's relay publishes to a bus in its own process. The bus gives the envelope to the handlers that are
subscribed, one after another, and each handles it in a transaction of its own. What a handler throws is
reported and goes no further: `publish` resolves, and the relay marks the event as published.
-/

namespace Karar.Outbox

open Events Foundation SharedKernel
open Platform (PgError)
open Platform.Adapter (Callback Rejection)

variable {Effect Rows Thrown : Type}

/-! ### The bus -/

/-- A consumer, and what it does with an event under its receipt. -/
structure Subscription (Effect Rows Thrown : Type) where
  consumerName : String
  handler : EventEnvelope → Callback Effect Rows Thrown Unit

/-- The subscriptions by the name of their event, in the order in which they were made. -/
structure InMemoryEventBus (Effect Rows Thrown : Type) where
  catalogue : EventCatalogue
  subscriptions : List (String × Subscription Effect Rows Thrown)
  /-- A consumer is in the allow-list of its event. -/
  allowed : ∀ subscription ∈ subscriptions,
    (assertConsumerAllowed catalogue subscription.1 subscription.2.consumerName).isOk = true

namespace InMemoryEventBus

variable (bus : InMemoryEventBus Effect Rows Thrown)

def new (catalogue : EventCatalogue) : InMemoryEventBus Effect Rows Thrown :=
  ⟨catalogue, [], by simp⟩

def subscribe (consumerName eventName : String)
    (handler : EventEnvelope → Callback Effect Rows Thrown Unit) :
    Except EventCatalogueError (InMemoryEventBus Effect Rows Thrown) :=
  match hallowed : assertConsumerAllowed bus.catalogue eventName consumerName with
  | .error error => .error error
  | .ok _ =>
    .ok
      { catalogue := bus.catalogue
        subscriptions := bus.subscriptions ++ [(eventName, ⟨consumerName, handler⟩)]
        allowed := by
          intro subscription hsubscription
          rcases List.mem_append.mp hsubscription with hold | hnew
          · exact bus.allowed subscription hold
          · obtain rfl := List.mem_singleton.mp hnew
            simp only [hallowed]
            rfl }

/-- The subscriptions to an event. -/
def subscribed (eventName : String) : List (Subscription Effect Rows Thrown) :=
  (bus.subscriptions.filter (·.1 = eventName)).map (·.2)

end InMemoryEventBus

/-! ### Operations -/

inductive WorkerOp (Effect : Type)
  | relay (op : RelayOp)
  | consumer (op : ConsumerOp Effect)
deriving DecidableEq

abbrev WorkerAnswer (Effect Rows : Type) : WorkerOp Effect → Type
  | .relay op => op.Answer
  | .consumer op => ConsumerAnswer Effect Rows op

abbrev WorkerStep (Effect Rows Result : Type) :=
  Program (WorkerOp Effect) (WorkerAnswer Effect Rows) Result

def relayStatement (op : RelayOp) : WorkerStep Effect Rows op.Answer :=
  Program.perform (WorkerOp.relay op : WorkerOp Effect)

/-! ### Publication -/

def Subscription.delivery (subscription : Subscription Effect Rows Thrown) (envelope : EventEnvelope) :
    ConsumerDelivery Effect Rows Thrown Unit where
  key := ⟨subscription.consumerName, envelope.eventId⟩
  fn := subscription.handler envelope

/-- The operations of a consumer, as operations of its worker. -/
def asWorker (op : ConsumerOp Effect) : WorkerStep Effect Rows (ConsumerAnswer Effect Rows op) :=
  Program.perform (WorkerOp.consumer op)

/-- A handler that throws is reported, and the next one is called. -/
def deliverEach (envelope : EventEnvelope) :
    List (Subscription Effect Rows Thrown) → WorkerStep Effect Rows Unit
  | [] => return ()
  | subscription :: rest => do
    let _ ← (subscription.delivery envelope).consume.substitute asWorker
    deliverEach envelope rest

def InMemoryEventBus.publish (bus : InMemoryEventBus Effect Rows Thrown) (envelope : EventEnvelope) :
    WorkerStep Effect Rows (Except PublishFailure Unit) :=
  match getEventEntry bus.catalogue envelope.eventName with
  | .error error => return .error (.error "EventCatalogueError" error.message)
  | .ok _ => do
    deliverEach envelope (bus.subscribed envelope.eventName)
    return .ok ()

/-! ### The machine -/

/-- A process: its relay, and the bus that it publishes to. -/
structure WorkerRuntime (Effect Rows Thrown : Type) where
  relay : OutboxRelay
  bus : InMemoryEventBus Effect Rows Thrown

section Runtime

-- How an envelope is read from the JSON of its row.
variable (decode : String → EventEnvelope)

/-- The publisher of a relay is the bus of its process. -/
def WorkerRuntime.carryOut (runtime : WorkerRuntime Effect Rows Thrown) :
    (op : RelayOp) → WorkerStep Effect Rows op.Answer
  | .publish _ envelope => runtime.bus.publish (decode envelope)
  | .claimBatch relayId claimTtlMs batchSize =>
    relayStatement (.claimBatch relayId claimTtlMs batchSize)
  | .markPublished id => relayStatement (.markPublished id)
  | .deadLetter id attempts lastError => relayStatement (.deadLetter id attempts lastError)
  | .scheduleRetry id attempts lastError backoffMs =>
    relayStatement (.scheduleRetry id attempts lastError backoffMs)
  | .stopping => relayStatement .stopping
  | .releaseOwnClaims relayId => relayStatement (.releaseOwnClaims relayId)
  | .lag => relayStatement .lag

inductive WorkerRequest (Effect Rows Thrown : Type)
  | run (runtime : WorkerRuntime Effect Rows Thrown)
  | stop (runtime : WorkerRuntime Effect Rows Thrown)

def WorkerRequest.runtime : WorkerRequest Effect Rows Thrown → WorkerRuntime Effect Rows Thrown
  | .run runtime => runtime
  | .stop runtime => runtime

def WorkerRequest.execute : WorkerRequest Effect Rows Thrown → WorkerStep Effect Rows RelayOutcome
  | .run runtime => (RelayRequest.run runtime.relay).execute.substitute (runtime.carryOut decode)
  | .stop runtime => (RelayRequest.stop runtime.relay).execute.substitute (runtime.carryOut decode)

end Runtime

structure WorkerStore (Effect : Type) where
  outbox : OutboxStore
  journal : ConsumerJournal Effect

structure WorkerOracle (Rows : Type) where
  relay : RelayOracle
  consumer : ConsumerOracle Rows

def WorkerStore.perform (store : WorkerStore Effect) :
    (op : WorkerOp Effect) → WorkerOracle Rows →
      Option (WorkerStore Effect × WorkerAnswer Effect Rows op)
  | .relay op, oracle =>
    (store.outbox.performOrFail op oracle.relay).map fun answered ↦
      ({ store with outbox := answered.1 }, answered.2)
  | .consumer op, oracle =>
    let answered := performConsumer store.journal op oracle.consumer
    some ({ store with journal := answered.1 }, answered.2)

inductive WorkerTick
  | outbox (tick : OutboxTick)
  /-- The connection of a consumer's transaction is lost. -/
  | lost (transaction : ℕ)
deriving DecidableEq

def WorkerStore.turn (store : WorkerStore Effect) : WorkerTick → WorkerStore Effect
  | .outbox tick => { store with outbox := store.outbox.turn tick }
  | .lost transaction => { store with journal := rollbackTransaction store.journal transaction }

def workerMachine (Effect Rows Thrown : Type) (decode : String → EventEnvelope) :
    Machine (WorkerOp Effect) (WorkerAnswer Effect Rows) (WorkerStore Effect) (WorkerOracle Rows)
      (WorkerRequest Effect Rows Thrown) RelayOutcome WorkerTick where
  handler := WorkerStore.perform
  program := WorkerRequest.execute decode
  turn := WorkerStore.turn

abbrev WorkerConfiguration (Effect Rows Thrown : Type) :=
  Configuration (WorkerOp Effect) (WorkerAnswer Effect Rows) (WorkerStore Effect)
    (WorkerRequest Effect Rows Thrown) RelayOutcome

abbrev WorkerPerformed (Effect Rows : Type) :=
  Performed (WorkerOp Effect) (WorkerAnswer Effect Rows)

end Karar.Outbox
