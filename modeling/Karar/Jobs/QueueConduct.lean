import Karar.Jobs.Leases

/-!
# What a call of the queue may do

A call claims with its first statement, and a report on a job is one statement about the id and the worker
of the claimed job. The outcome of a report is `lost_lease` where its statement has changed no row.
-/

namespace Karar.Jobs

open Foundation KeyedTable Machine SharedKernel

/-- The job and the worker that an outcome names. -/
def reported : QueueOp → Option (String × String)
  | .complete id leaseOwner => some (id, leaseOwner)
  | .failRetryable id leaseOwner _ _ => some (id, leaseOwner)
  | .deadLetter id leaseOwner _ => some (id, leaseOwner)
  | .heartbeat id leaseOwner _ => some (id, leaseOwner)
  | .release id leaseOwner => some (id, leaseOwner)
  | _ => none

/-- The number of rows that an outcome has changed. -/
def rowCountOf : QueuePerformed → Option ℕ
  | ⟨.complete _ _, rowCount⟩ => some rowCount
  | ⟨.failRetryable _ _ _ _, rowCount⟩ => some rowCount
  | ⟨.deadLetter _ _ _, rowCount⟩ => some rowCount
  | ⟨.heartbeat _ _ _, rowCount⟩ => some rowCount
  | ⟨.release _ _, rowCount⟩ => some rowCount
  | _ => none

/-- `'lost_lease'`. -/
def QueueOutcome.LostLease : QueueOutcome → Prop
  | .completed outcome => outcome = .lostLease
  | .failed outcome => outcome = .lostLease
  | .heartbeat outcome => outcome = .lostLease
  | .released outcome => outcome = .lostLease
  | _ => False

/-- What a call may do, after what it has done. -/
structure QueueConduct (request : QueueCall) (log : List QueuePerformed) (op : QueueOp) : Prop where
  claims : ∀ workerId leaseTtlMs batch, op = .claimBatch workerId leaseTtlMs batch → log = []
  reports : ∀ id leaseOwner, reported op = some (id, leaseOwner) → ∃ ticket job report,
    request = .report ticket job report ∧ id = job.id ∧ leaseOwner = job.leaseOwner
  first : ∀ ticket job report, request = .report ticket job report → log = []
  retries : ∀ id leaseOwner lastError backoffMs, op = .failRetryable id leaseOwner lastError backoffMs →
    ∃ ticket job report, request = .report ticket job report ∧ id = job.id ∧
      job.attempts < job.maxAttempts

def queueContract : Machine.Contract QueueOp QueueOp.Answer JobStore QueueCall QueueOutcome where
  invariant _ := True
  allowed := QueueConduct
  post _ _ _ := True

section Honours

variable {queue : PostgresJobQueue} {request : QueueCall} {log : List QueuePerformed}

/-- A part of a call. -/
abbrev Conducts (queue : PostgresJobQueue) (request : QueueCall) (log : List QueuePerformed)
    {Result : Type} (post : List QueuePerformed → Result → Prop) (step : QueueStep Result) : Prop :=
  Safe (queueMachine queue).handler (fun _ ↦ True) (QueueConduct request) post log step

theorem conduct_other {op : QueueOp} (hclaim : ∀ workerId leaseTtlMs batch,
    op ≠ .claimBatch workerId leaseTtlMs batch) (hreport : reported op = none)
    (hrequest : ∀ ticket job report, request ≠ .report ticket job report) :
    QueueConduct request log op :=
  ⟨fun workerId leaseTtlMs batch hop ↦ absurd hop (hclaim workerId leaseTtlMs batch),
    fun id leaseOwner hop ↦ by simp [hreport] at hop,
    fun ticket job report hasked ↦ absurd hasked (hrequest ticket job report),
    fun id leaseOwner lastError backoffMs hop ↦ by simp [hop, reported] at hreport⟩

/-- A retry is reported while there are attempts left. -/
theorem conduct_report {op : QueueOp} {ticket : ℕ} {job : ClaimedJob} {report : Report}
    (hop : reported op = some (job.id, job.leaseOwner))
    (hretry : ∀ id leaseOwner lastError backoffMs, op = .failRetryable id leaseOwner lastError backoffMs →
      job.attempts < job.maxAttempts) :
    QueueConduct (.report ticket job report) [] op := by
  refine ⟨fun workerId leaseTtlMs batch hclaim ↦ ?_, fun id leaseOwner hreported ↦ ?_, fun _ _ _ _ ↦ rfl,
    fun id leaseOwner lastError backoffMs hfail ↦ ?_⟩
  · subst hclaim
    cases hop
  · obtain ⟨rfl, rfl⟩ := Prod.mk.inj (Option.some.inj (hop.symm.trans hreported))
    exact ⟨ticket, job, report, rfl, rfl, rfl⟩
  · have hleft := hretry id leaseOwner lastError backoffMs hfail
    subst hfail
    obtain ⟨rfl, -⟩ := Prod.mk.inj (Option.some.inj hop)
    exact ⟨ticket, job, report, rfl, rfl, hleft⟩

theorem queue_honours (request : QueueCall) : (queueMachine queue).Honours queueContract request := by
  cases request with
  | enqueue uuid input =>
    show Conducts queue _ [] (fun _ _ ↦ True) (queue.enqueue uuid input >>= _)
    refine safe_bind ?_
    unfold PostgresJobQueue.enqueue
    refine safe_ite (fun _ ↦ trivial) fun _ ↦ safe_ite (fun _ ↦ trivial) fun _ ↦ ?_
    refine safe_any_bind (conduct_other (by simp) rfl (by simp)) fun inserted ↦ ?_
    cases inserted with
    | some row => trivial
    | none =>
      refine safe_any_bind (conduct_other (by simp) rfl (by simp)) fun existing ↦ ?_
      cases existing <;> trivial
  | claim options =>
    show Conducts queue _ [] (fun _ _ ↦ True) (queue.claim options >>= _)
    refine safe_bind ?_
    unfold PostgresJobQueue.claim
    refine safe_ite (fun _ ↦ trivial) fun _ ↦ ?_
    refine safe_any_bind ⟨fun _ _ _ _ ↦ rfl, fun id leaseOwner hop ↦ ?_, fun _ _ _ _ ↦ rfl,
      fun id leaseOwner lastError backoffMs hop ↦ ?_⟩ fun _ ↦ trivial
    · cases hop
    · cases hop
  | recoverStaleLeases => exact safe_any_bind (conduct_other (by simp) rfl (by simp)) fun _ ↦ trivial
  | report ticket job report =>
    cases report with
    | failRetryable error =>
      show Conducts queue _ [] (fun _ _ ↦ True) (queue.failRetryable job error >>= _)
      refine safe_bind ?_
      unfold PostgresJobQueue.failRetryable
      refine safe_ite (fun _ ↦ ?_) fun hleft ↦ ?_
      · exact safe_any_bind (conduct_report rfl (by simp)) fun _ ↦ trivial
      · exact safe_any_bind (conduct_report rfl fun _ _ _ _ _ ↦ not_le.mp hleft) fun _ ↦ trivial
    | _ => exact safe_any_bind (conduct_report rfl (by simp)) fun _ ↦ trivial

end Honours

/-! ### Outcomes -/

section Outcomes

variable {queue : PostgresJobQueue} {table : JobTable} {job : ClaimedJob}
  {id leaseOwner : String}

/-- A report is one statement about its job, and returns what the number of the rows says. -/
structure ReportStatement (job : ClaimedJob) (op : QueueOp)
    (next : op.Answer → QueueStep QueueOutcome) : Prop where
  reported : reported op = some (job.id, job.leaseOwner)
  outcome : ∀ answer, ∃ outcome, next answer = .pure outcome ∧
    (outcome.LostLease ↔ rowCountOf ⟨op, answer⟩ ≠ some 1)

theorem reportStatement {report : Report} {op : QueueOp} {next : op.Answer → QueueStep QueueOutcome}
    (hreport : queue.report job report = .call op next) : ReportStatement job op next := by
  cases report with
  | complete | deadLetter error | heartbeat extendMs | release =>
    cases hreport
    refine ⟨rfl, fun rowCount ↦ ⟨_, rfl, ?_⟩⟩
    by_cases hcount : rowCount = 1 <;> simp [QueueOutcome.LostLease, rowCountOf, hcount]
  | failRetryable error =>
    -- The attempts of the claimed job decide between two statements.
    have hfail : (queue.failRetryable job error >>= fun outcome ↦
        (pure (.failed outcome) : QueueStep QueueOutcome)) = .call op next := hreport
    unfold PostgresJobQueue.failRetryable at hfail
    by_cases hexhausted : job.maxAttempts ≤ job.attempts
    · rw [if_pos hexhausted] at hfail
      cases hfail
      refine ⟨rfl, fun rowCount ↦ ⟨_, rfl, ?_⟩⟩
      by_cases hcount : rowCount = 1 <;> simp [QueueOutcome.LostLease, rowCountOf, hcount]
    · rw [if_neg hexhausted] at hfail
      cases hfail
      refine ⟨rfl, fun rowCount ↦ ⟨_, rfl, ?_⟩⟩
      by_cases hcount : rowCount = 1 <;> simp [QueueOutcome.LostLease, rowCountOf, hcount]

/-- What the statement of an outcome does. -/
theorem exists_reported (store : JobStore) {op : QueueOp} (oracle : QueueOracle)
    (hop : reported op = some (id, leaseOwner)) :
    ∃ later answer change hsame, store.perform op oracle = some (later, answer) ∧
      later.table = (JobTable.updateLeased store.table id leaseOwner change hsame).1 ∧
        rowCountOf ⟨op, answer⟩ =
          some (JobTable.updateLeased store.table id leaseOwner change hsame).2 := by
  cases op with
  | complete _ _ | failRetryable _ _ _ _ | deadLetter _ _ _ | heartbeat _ _ _ | release _ _ =>
    obtain ⟨rfl, rfl⟩ := Prod.mk.inj (Option.some.inj hop)
    exact ⟨_, _, _, _, rfl, rfl, rfl⟩
  | _ => cases hop

/-- Without a lease of the worker nothing is changed. -/
theorem updateLeased_of_none (change : JobRow → JobRow)
    (hsame : ∀ row, JobRow.SameJob row (change row))
    (hnone : ∀ row ∈ table.rows, row.id = id → ¬ row.LeasedTo leaseOwner) :
    (JobTable.updateLeased table id leaseOwner change hsame).1.rows = table.rows ∧
      (JobTable.updateLeased table id leaseOwner change hsame).2 = 0 := by
  have hmeets : ∀ row ∈ table.rows, ¬ (decide (row.id = id ∧ row.LeasedTo leaseOwner)) = true := by
    intro row hrow hmeet
    obtain ⟨hid, hleased⟩ := of_decide_eq_true hmeet
    exact hnone row hrow hid hleased
  constructor
  · unfold JobTable.updateLeased
    rw [rows_update]
    refine (List.map_congr_left fun row hrow ↦ ?_).trans (List.map_id _)
    exact if_neg (hmeets row hrow)
  · exact List.countP_eq_zero.mpr hmeets

end Outcomes

/-! ### Runs -/

section Runs

variable {queue : PostgresJobQueue} {c : QueueConfiguration} {now : Instant}
  {condition : QueueConfiguration → Event QueueOracle QueueCall Instant → Prop}

theorem ledger_of_reaches
    (hreaches : Reaches (queueMachine queue) condition (.initial (emptyJobs now)) c) :
    Ledger c.store.table c.history := by
  induction hreaches with
  | refl => exact ledger_empty
  | step _ _ hstep ih =>
    cases steps_of_step_eq_some hstep with
    | start request => exact ih
    | perform hcall hanswer => exact ih.perform (tableChanges_of_performed hanswer).2
    | end_ hcall => exact ih
    | turn tick => exact ih

/-- A call claims once. -/
theorem claims_once
    (hreaches : Reaches (queueMachine queue) condition (.initial (emptyJobs now)) c)
    {recent earlier : List QueueOccurrence} {claim : QueueOccurrence} {id : String}
    (hhistory : c.history = recent ++ claim :: earlier) (hclaimed : id ∈ claimedIds claim.performed) :
    ∀ occurrence ∈ earlier, occurrence.caller ≠ claim.caller := by
  obtain ⟨request, -, hconduct⟩ :=
    hreaches.allowed queue_honours (fun _ ↦ trivial) recent claim earlier hhistory
  obtain ⟨caller, op, answer⟩ := claim
  cases op with
  | claimBatch workerId leaseTtlMs batch =>
    have hlog : logOf caller earlier = [] := hconduct.claims workerId leaseTtlMs batch rfl
    rintro ⟨other, performed⟩ hoccurrence rfl
    have hmem : performed ∈ logOf other earlier := mem_logOf.mpr hoccurrence
    rw [hlog] at hmem
    cases hmem
  | _ => cases hclaimed

/-- A lease that was lost is not in force. -/
theorem not_holdsLease_of_lost
    (hreaches : Reaches (queueMachine queue) condition (.initial (emptyJobs now)) c) {ticket : ℕ}
    {id : String} (hlost : Lost claimedIds recoveredIds c.history ticket id) :
    ¬ HoldsLease c.history ticket id := by
  refine hlost.not_holder recoveredIds_subset ?_
  rintro recent later earlier hhistory rfl hgranted occurrence hoccurrence hcaller
  exact absurd hcaller (claims_once hreaches hhistory hgranted occurrence hoccurrence)

/-- A call that reports is about to perform its only statement. -/
theorem report_of_next
    (hreaches : Reaches (queueMachine queue) condition (.initial (emptyJobs now)) c) {caller ticket : ℕ}
    {job : ClaimedJob} {report : Report} {op : QueueOp} {next : op.Answer → QueueStep QueueOutcome}
    (hcall : c.calls[caller]? = some ⟨.report ticket job report, .running (.call op next)⟩) :
    queue.report job report = .call op next := by
  have hlog : logOf caller c.history = [] :=
    ((hreaches.bound queue_honours fun _ ↦ trivial).allowed (Nat.zero_le _) hcall).first _ _ _ rfl
  exact (hreaches.unstarted hcall hlog).symm

end Runs

end Karar.Jobs
