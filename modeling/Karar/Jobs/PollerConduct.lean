import Karar.Jobs.Poller
import Karar.Jobs.QueueConduct

/-!
# What a run of a poller may do

A run claims once. It starts a job that it has claimed as long as it has not touched it, and releases a job
only where it has not started it: whatever a handler does, it does for its own job (`Serves`).
-/

namespace Karar.Jobs

open Foundation KeyedTable Machine Program SharedKernel

/-! ### Operations on the queue -/

/-- The statement of the queue that an operation has performed. A heartbeat that fails has performed
none. -/
def asQueue : PollerPerformed → Option QueuePerformed
  | ⟨.queue op, answer⟩ => some ⟨op, answer⟩
  | ⟨.heartbeat id leaseOwner extendMs, .ok rowCount⟩ =>
    some ⟨.heartbeat id leaseOwner extendMs, rowCount⟩
  | _ => none

/-- The rows that an operation of a poller has claimed. -/
def rowsClaimed (performed : PollerPerformed) : List JobRow :=
  (asQueue performed).elim [] claimedRows

/-- The job and the worker that an operation of a poller reports. -/
def reportOf : PollerOp → Option (String × String)
  | .queue op => reported op
  | .heartbeat id leaseOwner _ => some (id, leaseOwner)
  | _ => none

/-- The job that an operation of a poller is about. -/
def touched : PollerOp → Option String
  | .start job => some job.id
  | op => (reportOf op).map (·.1)

/-- Nothing was done about the job. -/
def Untouched (log : List PollerPerformed) (id : String) : Prop :=
  ∀ performed ∈ log, touched performed.1 ≠ some id

theorem Untouched.append {extra log : List PollerPerformed} {id : String} (hextra : Untouched extra id)
    (hlog : Untouched log id) : Untouched (extra ++ log) id := by
  intro performed hperformed
  rcases List.mem_append.mp hperformed with hnew | hold
  · exact hextra performed hnew
  · exact hlog performed hold

/-! ### The contract -/

/-- What a run may do, after what it has done. -/
def PollerConduct (log : List PollerPerformed) : PollerOp → Prop
  | .queue (.claimBatch _ _ _) => ∀ performed ∈ log, rowsClaimed performed = []
  | .queue (.release id _) => Untouched log id
  | .start job =>
    (∃ performed ∈ log, ∃ row ∈ rowsClaimed performed, row.toClaimed = job) ∧ Untouched log job.id
  | _ => True

def pollerContract : Machine.Contract PollerOp PollerOp.Answer JobStore JobPoller
    (Except QueueRefusal PollerRunReport) where
  invariant _ := True
  allowed _ := PollerConduct
  post _ _ _ := True

/-- A part of a run. -/
abbrev Polls (log : List PollerPerformed) {Result : Type}
    (post : List PollerPerformed → Result → Prop) (step : PollerStep Result) : Prop :=
  Safe pollerMachine.handler (fun _ ↦ True) PollerConduct post log step

/-- An operation about the job, or about none, that neither claims nor starts nor releases. -/
def Serves (id : Option String) : PollerOp → Prop
  | .queue (.claimBatch _ _ _) => False
  | .queue (.release _ _) => False
  | .start _ => False
  | op => ∀ other ∈ touched op, id = some other

section Serves

variable {id : Option String} {log : List PollerPerformed} {op : PollerOp}

theorem Serves.allowed (hserves : Serves id op) : PollerConduct log op := by
  cases op with
  | queue op => cases op <;> trivial
  | start job => exact hserves.elim
  | _ => trivial

theorem Serves.touched (hserves : Serves id op) {other : String} (hother : touched op = some other) :
    id = some other := by
  cases op with
  | queue op => cases op <;> first | exact hserves other hother | exact hserves.elim
  | start job => exact hserves.elim
  | _ => exact hserves other hother

theorem Serves.rowsClaimed {performed : PollerPerformed} (hserves : Serves id performed.1) :
    rowsClaimed performed = [] := by
  obtain ⟨op, answer⟩ := performed
  cases op with
  | queue op => cases op <;> first | rfl | exact hserves.elim
  | heartbeat job leaseOwner extendMs => cases answer <;> rfl
  | _ => rfl

/-- What serves another job does not touch the job. -/
theorem untouched_of_serves {extra : List PollerPerformed} {other : String}
    (hextra : ∀ performed ∈ extra, Serves id performed.1) (hother : id ≠ some other) :
    Untouched extra other :=
  fun performed hperformed htouched ↦ hother ((hextra performed hperformed).touched htouched)

end Serves

/-! ### The parts of a run -/

section Parts

variable {poller : JobPoller} {job : ClaimedJob} {log : List PollerPerformed}

theorem sweep_serves : JobPoller.sweep.Uses (Serves none) := by
  refine uses_bind (uses_perform (by simp [Serves, touched, reportOf])) fun due ↦ uses_ite ?_ trivial
  refine uses_bind ?_ fun _ ↦ trivial
  exact ⟨by simp [Serves, touched, reportOf, reported], fun _ ↦ trivial⟩

theorem failRetryable_serves (error : JobError) :
    ((poller.queue.failRetryable job error).substitute asPoller).Uses (Serves (some job.id)) := by
  have hfail : (poller.queue.failRetryable job error).Uses fun op ↦ Serves (some job.id) (.queue op) := by
    unfold PostgresJobQueue.failRetryable
    exact uses_ite ⟨by simp [Serves, touched, reportOf, reported], fun _ ↦ trivial⟩
      ⟨by simp [Serves, touched, reportOf, reported], fun _ ↦ trivial⟩
  exact uses_substitute hfail fun op hop ↦ uses_perform hop

theorem complete_serves :
    ((PostgresJobQueue.complete job).substitute asPoller).Uses (Serves (some job.id)) :=
  ⟨by simp [Serves, touched, reportOf, reported], fun _ ↦ trivial⟩

/-- Whatever a handler does, it serves its own job. -/
theorem handler_serves (handler : JobHandler) :
    ((handler job).substitute (poller.context job)).Uses (Serves (some job.id)) := by
  refine uses_substitute (uses_true _) fun op _ ↦ ?_
  cases op with
  | heartbeat extendMs =>
    refine uses_bind (uses_perform (by simp [Serves, touched, reportOf])) fun answer ↦ ?_
    cases answer <;> trivial
  | work => exact uses_perform (by simp [Serves, touched, reportOf])

/-- What was done since a log is about the job. -/
def ServedSince (id : String) (log later : List PollerPerformed) : Prop :=
  ∃ extra, later = extra ++ log ∧ (∀ other, other ≠ id → Untouched extra other)

theorem executeOne_polls
    (hclaimed : ∃ performed ∈ log, ∃ row ∈ rowsClaimed performed, row.toClaimed = job)
    (huntouched : Untouched log job.id) :
    Polls log (fun later _ ↦ ServedSince job.id log later) (poller.executeOne job) := by
  have hserved : ∀ {step : PollerStep ExecuteOutcome} {before : List PollerPerformed},
      step.Uses (Serves (some job.id)) → Polls before (fun later _ ↦ ServedSince job.id before later) step :=
    fun huses ↦ (safe_of_uses (fun _ _ ↦ Serves.allowed) huses).mono fun later _ ⟨extra, hlater, hextra⟩ ↦
      ⟨extra, hlater, fun other hother ↦ untouched_of_serves hextra (by simpa using hother.symm)⟩
  unfold JobPoller.executeOne
  cases poller.registry.resolve job.jobType with
  | none => exact hserved (uses_bind (failRetryable_serves _) fun _ ↦ trivial)
  | some handler =>
    refine safe_any_bind ⟨hclaimed, huntouched⟩ fun _ ↦ (hserved (uses_bind (handler_serves handler)
      fun result ↦ ?_)).mono fun later _ ⟨extra, hlater, hextra⟩ ↦ ?_
    · cases result with
      | error error => exact uses_bind (failRetryable_serves error) fun _ ↦ trivial
      | ok => exact uses_bind complete_serves fun _ ↦ trivial
    · refine ⟨extra ++ [⟨.start job, ()⟩], by simp [hlater], fun other hother ↦ ?_⟩
      refine (hextra other hother).append fun performed hperformed ↦ ?_
      rw [List.mem_singleton.mp hperformed]
      simpa [touched] using hother.symm

/-- The jobs are claimed, and nothing was done about them. -/
def Ready (log : List PollerPerformed) (jobs : List ClaimedJob) : Prop :=
  ∀ job ∈ jobs, (∃ performed ∈ log, ∃ row ∈ rowsClaimed performed, row.toClaimed = job) ∧
    Untouched log job.id

theorem Ready.extend {jobs : List ClaimedJob} (hready : Ready log jobs) {extra : List PollerPerformed}
    (huntouched : ∀ job ∈ jobs, Untouched extra job.id) : Ready (extra ++ log) jobs := by
  intro job hjob
  obtain ⟨⟨performed, hperformed, hclaimed⟩, hbefore⟩ := hready job hjob
  exact ⟨⟨performed, List.mem_append_right _ hperformed, hclaimed⟩, (huntouched job hjob).append hbefore⟩

/-- Nothing is about another job of the batch. -/
theorem executeEach_polls {jobs : List ClaimedJob} (hready : Ready log jobs)
    (hnodup : (jobs.map (·.id)).Nodup) (report : PollerRunReport) :
    Polls log (fun _ _ ↦ True) (poller.executeEach jobs report) := by
  induction jobs generalizing log report with
  | nil => trivial
  | cons job rest ih =>
    obtain ⟨hfirst, hnodup⟩ := List.nodup_cons.mp hnodup
    have hapart : ∀ other ∈ rest, other.id ≠ job.id := by
      intro other hother hsame
      exact hfirst (List.mem_map.mpr ⟨other, hother, hsame⟩)
    unfold JobPoller.executeEach
    refine safe_any_bind trivial fun stopping ↦ ?_
    have hasked : Ready ([⟨.stopping, stopping⟩] ++ log) (job :: rest) :=
      hready.extend fun _ _ ↦ by simp [Untouched, touched, reportOf]
    obtain ⟨hclaimed, huntouched⟩ := hasked job List.mem_cons_self
    have hrest : Ready ([⟨.stopping, stopping⟩] ++ log) rest :=
      fun other hother ↦ hasked other (List.mem_cons_of_mem _ hother)
    refine safe_ite (fun _ ↦ ?_) fun _ ↦ ?_
    · refine safe_bind (safe_any_bind huntouched fun rowCount ↦ ih ?_ hnodup _)
      show Ready ([⟨.queue (.release job.id job.leaseOwner), rowCount⟩] ++ ([⟨.stopping, stopping⟩] ++ log)) rest
      refine hrest.extend fun other hother ↦ ?_
      simpa [Untouched, touched, reportOf, reported] using (hapart other hother).symm
    · refine safe_bind_of (executeOne_polls hclaimed huntouched) fun later outcome hserved ↦ ?_
      obtain ⟨extra, rfl, hextra⟩ := hserved
      exact ih (hrest.extend fun other hother ↦ hextra other.id (hapart other hother)) hnodup _

end Parts

section Honours

/-- The rows that a claim returns are of different jobs. -/
theorem nodup_of_claimed {store later : JobStore} {workerId : String} {leaseTtlMs batch : Int}
    {oracle : QueueOracle} {rows : List JobRow}
    (hanswer : store.performOrFail (.claimBatch workerId leaseTtlMs batch) oracle = some (later, rows)) :
    (rows.map (·.id)).Nodup := by
  have hperform : store.perform (.claimBatch workerId leaseTtlMs batch) oracle = some (later, rows) := by
    unfold JobStore.performOrFail at hanswer
    split_ifs at hanswer
    exact hanswer
  obtain ⟨-, rfl⟩ := Prod.mk.inj (Option.some.inj hperform)
  refine ((oracle.returned_perm _).map JobRow.id).nodup_iff.mpr ?_
  rw [List.map_map]
  show ((JobTable.pick store.table store.now oracle.locked batch.toNat).map (·.id)).Nodup
  unfold JobTable.pick
  refine ((List.take_sublist _ _).map JobRow.id).nodup ?_
  refine ((List.perm_insertionSort _ _).map JobRow.id).nodup_iff.mpr ?_
  exact (List.filter_sublist.map JobRow.id).nodup store.table.keys_nodup

theorem poller_honours (poller : JobPoller) : pollerMachine.Honours pollerContract poller := by
  show Polls [] (fun _ _ ↦ True) poller.runOnce
  unfold JobPoller.runOnce
  refine safe_bind_of_uses (fun _ _ ↦ Serves.allowed) sweep_serves fun extra staleRecovered hextra ↦ ?_
  rw [List.append_nil]
  refine safe_bind ?_
  unfold PostgresJobQueue.claim
  rw [substitute_ite]
  refine safe_ite (fun _ ↦ trivial) fun _ ↦ ?_
  refine safe_call_bind (fun performed hperformed ↦ (hextra performed hperformed).rowsClaimed) ?_
  intro store oracle later rows _ hanswer
  refine safe_bind (executeEach_polls ?_ ?_ _)
  · intro job hjob
    obtain ⟨row, hrow, rfl⟩ := List.mem_map.mp hjob
    refine ⟨⟨_, List.mem_cons_self, row, hrow, rfl⟩, fun performed hperformed ↦ ?_⟩
    rcases List.mem_cons.mp hperformed with rfl | hbefore
    · simp [touched, reportOf, reported]
    · exact untouched_of_serves hextra (by simp) performed hbefore
  · rw [List.map_map]
    exact nodup_of_claimed hanswer

end Honours

end Karar.Jobs
