import Karar.Foundation.Substitution
import Karar.Jobs.Queue

/-!
# The job poller

A run of a poller sweeps stale leases when a sweep is due, claims a batch, and executes its jobs one after
another; a poller that is stopping releases those that are left. A handler runs for as long as it likes,
and may extend the lease of its own job. Nothing looks at a lease between the claim and the start of the
handler.
-/

namespace Karar.Jobs

open Foundation SharedKernel

/-! ### Handlers -/

inductive HandlerOp
  | heartbeat (extendMs : Option Int)
  /-- Anything that the handler does beside the queue. -/
  | work
deriving DecidableEq

abbrev HandlerOp.Answer : HandlerOp → Type
  | .heartbeat _ => Except JobError HeartbeatOutcome
  | .work => Unit

abbrev JobHandler := ClaimedJob → Program HandlerOp HandlerOp.Answer (Except JobError Unit)

/-- The handlers, by the type of their jobs. -/
structure JobHandlerRegistry where
  handlers : List (String × JobHandler)

def JobHandlerRegistry.resolve (registry : JobHandlerRegistry) (jobType : String) : Option JobHandler :=
  (registry.handlers.find? (·.1 = jobType)).map (·.2)

/-! ### Operations -/

inductive PollerOp
  /-- A statement of the queue. One that fails ends the run. -/
  | queue (op : QueueOp)
  /-- A heartbeat of a handler, which sees its failure. -/
  | heartbeat (id leaseOwner : String) (extendMs : Int)
  /-- The interval since the last sweep has passed. -/
  | sweepDue
  /-- `this.stopping`. -/
  | stopping
  /-- The handler of a job is called. -/
  | start (job : ClaimedJob)
  | work
deriving DecidableEq

abbrev PollerOp.Answer : PollerOp → Type
  | .queue op => op.Answer
  | .heartbeat _ _ _ => Except JobError ℕ
  | .sweepDue => Bool
  | .stopping => Bool
  | .start _ => Unit
  | .work => Unit

abbrev PollerStep := Program PollerOp PollerOp.Answer

/-- A statement of the queue, as an operation of the poller. -/
def asPoller (op : QueueOp) : PollerStep op.Answer :=
  Program.perform (PollerOp.queue op)

/-! ### A run -/

/-- A poller, as its constructor leaves it. -/
structure JobPoller where
  queue : PostgresJobQueue
  registry : JobHandlerRegistry
  workerId : String
  batchSize : Int
  leaseTtlMs : Option Int

structure PollerRunReport where
  claimed : ℕ
  completed : ℕ
  retried : ℕ
  deadLettered : ℕ
  released : ℕ
  staleRecovered : ℕ
deriving DecidableEq

inductive ExecuteOutcome
  | completed
  | scheduledRetry
  | deadLettered
  | lostLease
deriving DecidableEq

def FailOutcome.execute : FailOutcome → ExecuteOutcome
  | .scheduledRetry => .scheduledRetry
  | .deadLettered => .deadLettered
  | .lostLease => .lostLease

def CompleteOutcome.execute : CompleteOutcome → ExecuteOutcome
  | .completed => .completed
  | .lostLease => .lostLease

def PollerRunReport.add (report : PollerRunReport) : ExecuteOutcome → PollerRunReport
  | .completed => { report with completed := report.completed + 1 }
  | .scheduledRetry => { report with retried := report.retried + 1 }
  | .deadLettered => { report with deadLettered := report.deadLettered + 1 }
  | .lostLease => report

namespace JobPoller

variable (poller : JobPoller)

/-- The context of a handler: its heartbeats are for its own job. -/
def context (job : ClaimedJob) : (op : HandlerOp) → PollerStep op.Answer
  | .heartbeat extendMs => do
    match ← Program.perform
        (PollerOp.heartbeat job.id job.leaseOwner (extendMs.getD poller.queue.defaultLeaseTtlMs)) with
    | .error error => return .error error
    | .ok rowCount => return .ok (if rowCount = 1 then .extended else .lostLease)
  | .work => Program.perform PollerOp.work

def executeOne (job : ClaimedJob) : PollerStep ExecuteOutcome := do
  match poller.registry.resolve job.jobType with
  | none =>
    let outcome ← (poller.queue.failRetryable job
      (.error "Error" s!"No handler registered for job type '{job.jobType}'")).substitute asPoller
    return outcome.execute
  | some handler =>
    Program.perform (PollerOp.start job)
    match ← (handler job).substitute (poller.context job) with
    | .error error =>
      let outcome ← (poller.queue.failRetryable job error).substitute asPoller
      return outcome.execute
    | .ok () =>
      let outcome ← (PostgresJobQueue.complete job).substitute asPoller
      return outcome.execute

/-- The loop over the claimed jobs. -/
def executeEach : List ClaimedJob → PollerRunReport → PollerStep PollerRunReport
  | [], report => return report
  | job :: rest, report => do
    let stopping ← Program.perform PollerOp.stopping
    if stopping then
      let outcome ← (PostgresJobQueue.release job).substitute asPoller
      executeEach rest
        (if outcome = .released then { report with released := report.released + 1 } else report)
    else
      let outcome ← poller.executeOne job
      executeEach rest (report.add outcome)

def sweep : PollerStep ℕ := do
  let due ← Program.perform PollerOp.sweepDue
  if due then
    let report ← PostgresJobQueue.recoverStaleLeases.substitute asPoller
    return report.recovered
  else return 0

def runOnce : PollerStep (Except QueueRefusal PollerRunReport) := do
  let staleRecovered ← sweep
  let claim := poller.queue.claim
    { workerId := poller.workerId, batchSize := some poller.batchSize, leaseTtlMs := poller.leaseTtlMs }
  match ← claim.substitute asPoller with
  | .error refusal => return .error refusal
  | .ok claimed =>
    let report ← poller.executeEach claimed ⟨claimed.length, 0, 0, 0, 0, staleRecovered⟩
    return .ok report

end JobPoller

/-! ### The machine -/

/-- What the surroundings decide about an operation. -/
structure PollerOracle where
  queue : QueueOracle := {}
  sweepDue : Bool := false
  stopping : Bool := false
  /-- How a heartbeat fails. -/
  failure : JobError := .error "Error" "Connection terminated unexpectedly"

def JobStore.performPoller (store : JobStore) :
    (op : PollerOp) → PollerOracle → Option (JobStore × op.Answer)
  | .queue op, oracle => store.performOrFail op oracle.queue
  | .heartbeat id leaseOwner extendMs, oracle =>
    match store.performOrFail (.heartbeat id leaseOwner extendMs) oracle.queue with
    | some (store, rowCount) => some (store, .ok rowCount)
    | none => some (store, .error oracle.failure)
  | .sweepDue, oracle => some (store, oracle.sweepDue)
  | .stopping, oracle => some (store, oracle.stopping)
  | .start _, _ => some (store, ())
  | .work, _ => some (store, ())

inductive PollerTick
  /-- A job is enqueued. -/
  | enqueue (job : NewJob)
  /-- Time passes on the clock of the database. -/
  | wait (duration : ℕ)
deriving DecidableEq

/-- A job that is not inserted leaves the table. -/
def JobStore.turn (store : JobStore) : PollerTick → JobStore
  | .enqueue job =>
    { store with table := ((store.table.insertJob store.now job).map (·.1)).getD store.table }
  | .wait duration => { store with now := store.now + duration }

/-- Runs of any pollers, also several at a time of one. -/
def pollerMachine : Machine PollerOp PollerOp.Answer JobStore PollerOracle JobPoller
    (Except QueueRefusal PollerRunReport) PollerTick where
  handler := JobStore.performPoller
  program := JobPoller.runOnce
  turn := JobStore.turn

abbrev PollerConfiguration :=
  Configuration PollerOp PollerOp.Answer JobStore JobPoller (Except QueueRefusal PollerRunReport)

abbrev PollerPerformed := Performed PollerOp PollerOp.Answer

abbrev PollerOccurrence := Occurrence PollerOp PollerOp.Answer

end Karar.Jobs
