import Karar.Jobs.QueueConduct

/-!
# Fencing of leases

An outcome names the job by its id and its worker, and not by the claim. A claimed job whose lease was lost
is fenced off as long as its worker has not claimed the job again; a worker that has claimed it again under
the same id changes the row of its later claim (`stale_outcome_changes`). `lost_lease_fenced_iff` is exact.
-/

namespace Karar.Jobs

open Foundation KeyedTable Machine SharedKernel

/-- The lease of a claimed job was lost: after the claim of the call `ticket`, the job was recovered or
claimed again. -/
abbrev LostLease (history : List QueueOccurrence) (ticket : ℕ) (id : String) : Prop :=
  Lost claimedIds recoveredIds history ticket id

/-- The worker of a claimed job has claimed it again with another call, and that lease is in force. -/
def ClaimedAnew (history : List QueueOccurrence) (ticket : ℕ) (job : ClaimedJob) : Prop :=
  ∃ grant ∈ leaseOf history job.id, grant.caller ≠ ticket ∧
    workerOf grant.performed = some job.leaseOwner

instance (history : List QueueOccurrence) (ticket : ℕ) (job : ClaimedJob) :
    Decidable (ClaimedAnew history ticket job) :=
  inferInstanceAs (Decidable (∃ grant ∈ leaseOf history job.id, _))

/-- A report has left the row of its job alone, and what it returns is `lost_lease`. -/
structure FencedOff (c later : QueueConfiguration) (caller : ℕ) (request : QueueCall) (id : String) :
    Prop where
  row : ∀ row : JobRow, row.id = id → (row ∈ later.store.table.rows ↔ row ∈ c.store.table.rows)
  outcome : ∀ outcome, later.Returned caller request outcome → outcome.LostLease

section Fencing

variable {queue : PostgresJobQueue} {c later : QueueConfiguration} {now : Instant}
  {condition : QueueConfiguration → Event QueueOracle QueueCall Instant → Prop} {caller ticket : ℕ}
  {job : ClaimedJob} {report : Report} {op : QueueOp} {oracle : QueueOracle}

/-- A statement that fails changes nothing, and its call returns nothing. -/
theorem fencedOff_of_fails (hnext : c.next caller = some (.report ticket job report, op))
    (hfails : oracle.fails = true)
    (hstep : (queueMachine queue).step c (.advance caller oracle) = some later) :
    FencedOff c later caller (.report ticket job report) job.id := by
  obtain ⟨next, hcall⟩ := exists_call_of_next hnext
  obtain ⟨request, performed, following, hfound, ⟨store, answer, hanswer, -⟩ | ⟨-, rfl⟩⟩ :=
    step_advance_eq_some hstep
  · have hnone : c.store.performOrFail performed oracle = none := if_pos hfails
    cases hnone.symm.trans hanswer
  · refine ⟨fun row _ ↦ Iff.rfl, fun outcome hreturned ↦ ?_⟩
    have hlt := (List.getElem?_eq_some_iff.mp hcall).1
    unfold Configuration.Returned at hreturned
    rw [List.getElem?_set_self hlt] at hreturned
    cases hreturned

/-- What a report that is carried out does, and what it returns. -/
theorem reported_step
    (hreaches : Reaches (queueMachine queue) condition (.initial (emptyJobs now)) c)
    (hnext : c.next caller = some (.report ticket job report, op)) (hfails : oracle.fails = false)
    (hstep : (queueMachine queue).step c (.advance caller oracle) = some later) :
    ∃ change hsame outcome, later.store.table =
        (JobTable.updateLeased c.store.table job.id job.leaseOwner change hsame).1 ∧
      later.Returned caller (.report ticket job report) outcome ∧ (outcome.LostLease ↔
        (JobTable.updateLeased c.store.table job.id job.leaseOwner change hsame).2 ≠ 1) := by
  obtain ⟨next, hcall⟩ := exists_call_of_next hnext
  have hstatement := reportStatement (report_of_next hreaches hcall)
  have hlt := (List.getElem?_eq_some_iff.mp hcall).1
  obtain ⟨store, answer, change, hsame, hperform, htable, hcount⟩ :=
    exists_reported c.store oracle hstatement.reported
  have hanswer : (queueMachine queue).handler c.store op oracle = some (store, answer) :=
    (if_neg (by simp [hfails])).trans hperform
  obtain ⟨outcome, houtcome, hlost⟩ := hstatement.outcome answer
  have hlater := later_of_answered hcall hanswer hstep
  refine ⟨change, hsame, outcome, hlater ▸ htable, ?_, ?_⟩
  · unfold Configuration.Returned
    rw [hlater, List.getElem?_set_self hlt, houtcome]
  · rw [hlost, hcount]
    simp

/-- An outcome on a lost lease is fenced off, unless its worker has claimed the job anew. -/
theorem lost_lease_fenced_iff
    (hreaches : Reaches (queueMachine queue) (fun _ _ ↦ True) (.initial (emptyJobs now)) c)
    (hnext : c.next caller = some (.report ticket job report, op))
    (hlost : LostLease c.history ticket job.id)
    (hstep : (queueMachine queue).step c (.advance caller oracle) = some later) :
    FencedOff c later caller (.report ticket job report) job.id ↔
      (oracle.fails = true ∨ ¬ ClaimedAnew c.history ticket job) := by
  have hledger := ledger_of_reaches hreaches
  cases hfails : oracle.fails with
  | true => simp [fencedOff_of_fails hnext hfails hstep]
  | false =>
    obtain ⟨change, hsame, outcome, htable, hreturned, hcount⟩ :=
      reported_step hreaches hnext hfails hstep
    constructor
    · intro hfenced
      refine .inr fun hanew ↦ ?_
      obtain ⟨grant, hlease, -, hworker⟩ := hanew
      obtain ⟨row, hrow, hid, hleased⟩ := hledger.leasedTo hlease hworker
      exact hcount.mp (hfenced.outcome outcome hreturned) (rowCount_of_leased hrow hid hleased)
    · intro hfree
      have hnone : ∀ row ∈ c.store.table.rows, row.id = job.id → ¬ row.LeasedTo job.leaseOwner := by
        intro row hrow hid hleased
        obtain ⟨grant, hlease, hworker⟩ := hledger.exists_lease hrow hleased
        rw [hid] at hlease
        refine hfree.resolve_left (by simp) ⟨grant, hlease, ?_, hworker⟩
        rintro rfl
        exact not_holdsLease_of_lost hreaches hlost (Option.map_eq_some_iff.mpr ⟨grant, hlease, rfl⟩)
      obtain ⟨hrows, hzero⟩ := updateLeased_of_none change hsame hnone
      refine ⟨fun row _ ↦ ?_, fun other hother ↦ ?_⟩
      · rw [htable, hrows]
      · obtain rfl : outcome = other := by
          have hsome := hreturned.symm.trans hother
          simp only [Option.some.injEq, Call.mk.injEq, Progress.running.injEq, Program.pure.injEq,
            true_and] at hsome
          exact hsome
        exact hcount.mpr (by simp [hzero])

end Fencing

/-! ### A worker that claims again -/

namespace Restarted

def echo : EnqueueJobInput where
  jobType := "platform.diagnostic.echo"
  payload := "payload"

/-- The job as a claim of a worker returns it. -/
def claimedBy (workerId : String) (attempts : Int) : ClaimedJob where
  id := "job"
  jobType := "platform.diagnostic.echo"
  payload := "payload"
  classification := "INTERNAL"
  priority := 0
  attempts := attempts
  maxAttempts := 5
  leaseOwner := workerId
  correlationId := none
  causationId := none

abbrev QueueEvents := List (Event QueueOracle QueueCall Instant)

/-- A job is enqueued and claimed, its lease expires and is recovered, a worker claims it again, and the
first claim is reported as complete. -/
def reclaimedBy (workerId : String) : QueueEvents :=
  [.start (.enqueue "job" echo), .advance 0 {}, .start (.claim { workerId := "karar-worker@host:1" }),
    .advance 1 {}, .turn 60000, .start .recoverStaleLeases, .advance 2 {},
    .start (.claim { workerId := workerId }), .advance 3 {},
    .start (.report 1 (claimedBy "karar-worker@host:1" 1) .complete)]

/-- The configuration in which the outcome is about to be reported. -/
def before (workerId : String) : QueueConfiguration :=
  (queueMachine {}).finish (fun _ _ ↦ True) (.initial (emptyJobs 0)) (reclaimedBy workerId)

/-- The configuration after the report. -/
def after (workerId : String) : QueueConfiguration :=
  (queueMachine {}).finish (fun _ _ ↦ True) (before workerId) [.advance 4 {}]

/-- The report on the first claim. -/
def stale : QueueCall := .report 1 (claimedBy "karar-worker@host:1" 1) .complete

theorem next_before (workerId : String) (hworker : workerId ∈ ["karar-worker@host:1", "karar-worker@host:2"]) :
    (before workerId).next 4 = some (stale, .complete "job" "karar-worker@host:1") ∧
      LostLease (before workerId).history 1 "job" := by
  simp only [List.mem_cons, List.not_mem_nil, or_false] at hworker
  rcases hworker with rfl | rfl <;> decide

/-- Another worker has claimed the job. -/
theorem lost_lease_fenced_reclaimed :
    FencedOff (before "karar-worker@host:2") (after "karar-worker@host:2") 4 stale "job" := by
  obtain ⟨hnext, hlost⟩ := next_before "karar-worker@host:2" (by simp)
  refine (lost_lease_fenced_iff (reaches_finish _) hnext hlost (step_finish ?_)).mpr (.inr ?_)
  · decide
  · decide

/-- The same worker has claimed the job: its second run is marked as succeeded. -/
theorem stale_outcome_changes :
    ∃ c later op, Reaches (queueMachine {}) (fun _ _ ↦ True) (.initial (emptyJobs 0)) c ∧
      c.next 4 = some (stale, op) ∧ LostLease c.history 1 "job" ∧
      (queueMachine {}).step c (.advance 4 {}) = some later ∧ ¬ FencedOff c later 4 stale "job" := by
  obtain ⟨hnext, hlost⟩ := next_before "karar-worker@host:1" (by simp)
  refine ⟨before "karar-worker@host:1", after "karar-worker@host:1", _, reaches_finish _, hnext, hlost,
    step_finish ?_, fun hfenced ↦ ?_⟩
  · decide
  · have hchanged : ∃ row ∈ (before "karar-worker@host:1").store.table.rows, row.id = "job" ∧
        row ∉ (after "karar-worker@host:1").store.table.rows := by
      decide
    obtain ⟨row, hrow, hid, hgone⟩ := hchanged
    exact hgone ((hfenced.row row hid).mpr hrow)

end Restarted

end Karar.Jobs
