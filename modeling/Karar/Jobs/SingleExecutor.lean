import Karar.Jobs.PollerConduct
import Karar.Jobs.QueueInvariant

/-!
# One executor at a time

A run starts the jobs of its batch one after another, and nothing looks at a lease before a start. The lease
of a job that waits is not extended, so it is still the run's at the start exactly where the handlers before
it have left time (`Prompt`); a run that starts a job later does so beside the run that has claimed it
since (`late_start`). An attempt is started once in any case. `Ownership` carries both.
-/

namespace Karar.Jobs

open Foundation KeyedTable Machine SharedKernel

/-! ### Changes of a row -/

section RowChange

variable {now : Instant} {performed : QueuePerformed} {row later : JobRow}

/-- A leased row that no report is about stays as it is, or is recovered when its lease has run out. -/
theorem RowChange.unreported (hchange : RowChange now performed row later) (hstatus : row.status = .leased)
    (hunreported : ∀ leaseOwner, reported performed.1 = some (row.id, leaseOwner) →
      ¬ row.LeasedTo leaseOwner) :
    row.id ∉ claimedIds performed ∧
      ((later = row ∧ row.id ∉ endedIds performed) ∨ (row.Expired now ∧ row.id ∈ endedIds performed)) := by
  cases hchange with
  | kept hunclaimed hunended => exact ⟨hunclaimed, .inl ⟨rfl, hunended⟩⟩
  | leased hclaimable _ => rcases hclaimable with hqueued | hfailed <;> simp_all
  | completed h | retried h | died h | extended h | released h => exact absurd h (hunreported _ rfl)
  | @recovered lastError rows _ hexpired hrow =>
    have hended : row.id ∈ rows.map (·.id) :=
      ((row.sameJob_recover lastError now).id) ▸ List.mem_map_of_mem hrow
    exact ⟨List.not_mem_nil, .inr ⟨hexpired, hended⟩⟩

/-- A claim counts an attempt, a release takes one back, and nothing else changes them. -/
theorem RowChange.counts (hchange : RowChange now performed row later)
    (hunclaimed : row.id ∉ claimedIds performed) :
    later.attempts = row.attempts ∨ (row.id ∈ endedIds performed ∧
      later.attempts = max (row.attempts - 1) 0 ∧ ∃ leaseOwner, row.LeasedTo leaseOwner ∧
        performed.1 = .release row.id leaseOwner) := by
  cases hchange with
  | @leased workerId leaseTtlMs batch rows _ _ hrow =>
    have hclaimed : (row.lease workerId (now + leaseTtlMs)).id ∈ rows.map (·.id) :=
      List.mem_map_of_mem hrow
    exact absurd hclaimed hunclaimed
  | released hleased => exact .inr ⟨by simp [endedIds], rfl, _, hleased, rfl⟩
  | extended hleased => simp [JobRow.extend, hleased.2]
  | recovered _ _ =>
    unfold JobRow.recover
    split_ifs <;> exact .inl rfl
  | _ => exact .inl rfl

theorem JobRow.Expired.mono {earlier : Instant} (hexpired : row.Expired earlier) (hle : earlier ≤ now) :
    row.Expired now := by
  obtain ⟨hstatus, expiresAt, hexpiry, hpast⟩ := hexpired
  exact ⟨hstatus, expiresAt, hexpiry, hpast.trans_le hle⟩

end RowChange

/-! ### The history of the queue -/

/-- The statements of the queue that were performed. -/
def queueHistory (history : List PollerOccurrence) : List QueueOccurrence :=
  history.filterMap fun occurrence ↦ (asQueue occurrence.performed).map fun performed ↦
    ⟨occurrence.caller, performed⟩

/-- The job was released by its run. -/
def Released (log : List PollerPerformed) (id : String) : Prop :=
  ∃ performed ∈ log, ∃ leaseOwner, performed.1 = .queue (.release id leaseOwner)

section History

variable {history : List PollerOccurrence} {caller : ℕ} {performed : PollerPerformed}
  {statement : QueuePerformed} {id : String}

theorem mem_queueHistory :
    (⟨caller, statement⟩ : QueueOccurrence) ∈ queueHistory history ↔
      ∃ performed ∈ logOf caller history, asQueue performed = some statement := by
  unfold queueHistory
  rw [List.mem_filterMap]
  constructor
  · rintro ⟨⟨other, performed⟩, hmem, heq⟩
    obtain ⟨found, hfound, hsame⟩ := Option.map_eq_some_iff.mp heq
    obtain ⟨rfl, rfl⟩ := Occurrence.mk.inj hsame
    exact ⟨performed, mem_logOf.mpr hmem, hfound⟩
  · rintro ⟨performed, hmem, hfound⟩
    exact ⟨⟨caller, performed⟩, mem_logOf.mp hmem, by simp [hfound]⟩

theorem queueHistory_cons_of_some (hstatement : asQueue performed = some statement) :
    queueHistory (⟨caller, performed⟩ :: history) = ⟨caller, statement⟩ :: queueHistory history := by
  unfold queueHistory
  rw [List.filterMap_cons_some]
  simp [hstatement]

theorem queueHistory_cons_of_none (hnone : asQueue performed = none) :
    queueHistory (⟨caller, performed⟩ :: history) = queueHistory history := by
  unfold queueHistory
  rw [List.filterMap_cons_none]
  simp [hnone]

theorem logOf_subset_cons (other : ℕ) :
    logOf other history ⊆ logOf other (⟨caller, performed⟩ :: history) := by
  intro earlier hearlier
  exact mem_logOf.mpr (List.mem_cons_of_mem _ (mem_logOf.mp hearlier))

theorem Untouched.of_subset {log longer : List PollerPerformed} (huntouched : Untouched longer id)
    (hsubset : log ⊆ longer) : Untouched log id :=
  fun earlier hearlier ↦ huntouched earlier (hsubset hearlier)

theorem Released.of_subset {log longer : List PollerPerformed} (hreleased : Released log id)
    (hsubset : log ⊆ longer) : Released longer id := by
  obtain ⟨earlier, hearlier, hrelease⟩ := hreleased
  exact ⟨earlier, hsubset hearlier, hrelease⟩

/-- A report is about the job that it names. -/
theorem reported_of_asQueue (hstatement : asQueue performed = some statement) :
    reported statement.1 = reportOf performed.1 := by
  obtain ⟨op, answer⟩ := performed
  cases op with
  | queue op =>
    obtain rfl := Option.some.inj hstatement
    rfl
  | heartbeat job leaseOwner extendMs =>
    cases answer with
    | error error => cases hstatement
    | ok rowCount =>
      obtain rfl := Option.some.inj hstatement
      rfl
  | _ => cases hstatement

theorem touched_of_report {leaseOwner : String} (hreport : reportOf performed.1 = some (id, leaseOwner)) :
    touched performed.1 = some id := by
  obtain ⟨op, answer⟩ := performed
  cases op with
  | start job => cases hreport
  | _ => simp_all [touched]

theorem rowsClaimed_of_asQueue (hstatement : asQueue performed = some statement) :
    rowsClaimed performed = claimedRows statement := by
  unfold rowsClaimed
  rw [hstatement]
  rfl

/-- What a poller performs is a statement of the queue, or leaves the store. -/
theorem asQueue_of_performed {store later : JobStore} {op : PollerOp} {oracle : PollerOracle}
    {answer : op.Answer} (hanswer : store.performPoller op oracle = some (later, answer)) :
    (∃ statement, asQueue ⟨op, answer⟩ = some statement ∧ later.now = store.now ∧
      TableChanges store.now statement store.table later.table) ∨
        (asQueue ⟨op, answer⟩ = none ∧ later = store) := by
  cases op with
  | queue op => exact .inl ⟨⟨op, answer⟩, rfl, tableChanges_of_performed hanswer⟩
  | heartbeat id leaseOwner extendMs =>
    unfold JobStore.performPoller at hanswer
    cases hperform : store.performOrFail (.heartbeat id leaseOwner extendMs) oracle.queue with
    | none =>
      simp only [hperform, Option.some.injEq, Prod.mk.injEq] at hanswer
      obtain ⟨rfl, rfl⟩ := hanswer
      exact .inr ⟨rfl, rfl⟩
    | some performed =>
      simp only [hperform, Option.some.injEq, Prod.mk.injEq] at hanswer
      obtain ⟨rfl, rfl⟩ := hanswer
      exact .inl ⟨_, rfl, tableChanges_of_performed hperform⟩
  | _ =>
    obtain ⟨rfl, -⟩ := Prod.mk.inj (Option.some.inj hanswer)
    exact .inr ⟨rfl, rfl⟩

end History

/-! ### The invariant -/

/-- What holds of the claims of the runs. -/
structure Ownership (store : JobStore) (history : List PollerOccurrence) : Prop where
  ledger : Ledger store.table (queueHistory history)
  /-- The lease of a job that waits is as its claim has set it, or has run out. -/
  held : ∀ claim ∈ queueHistory history, ∀ row ∈ claimedRows claim.performed,
    Untouched (logOf claim.caller history) row.id →
      leaseOf (queueHistory history) row.id = some claim → row ∈ store.table.rows
  gone : ∀ claim ∈ queueHistory history, ∀ row ∈ claimedRows claim.performed,
    Untouched (logOf claim.caller history) row.id →
      leaseOf (queueHistory history) row.id ≠ some claim → row.Expired store.now
  /-- An attempt that was not given back has been counted. -/
  counted : ∀ claim ∈ queueHistory history, ∀ row ∈ claimedRows claim.performed,
    ¬ Released (logOf claim.caller history) row.id → ∃ current ∈ store.table.rows,
      current.id = row.id ∧ row.attempts ≤ current.attempts ∧
        ∀ grant, leaseOf (queueHistory history) row.id = some grant → grant ≠ claim →
          row.attempts < current.attempts
  /-- Two runs have not claimed the same attempt. -/
  apart : ∀ first ∈ queueHistory history, ∀ second ∈ queueHistory history,
    ∀ row ∈ claimedRows first.performed, ∀ other ∈ claimedRows second.performed,
      ¬ Released (logOf first.caller history) row.id → ¬ Released (logOf second.caller history) other.id →
        row.id = other.id → row.attempts = other.attempts → first.caller = second.caller
  /-- A run claims once. -/
  once : ∀ first ∈ queueHistory history, ∀ second ∈ queueHistory history,
    ∀ row ∈ claimedRows first.performed, ∀ other ∈ claimedRows second.performed,
      first.caller = second.caller → first = second

/-- A report that reaches a lease of its worker is of the run that has the lease. -/
def ReportsOwn (c : PollerConfiguration) (caller : ℕ) (_ : JobPoller) (op : PollerOp) : Prop :=
  ∀ named ∈ reportOf op, ∀ grant ∈ leaseOf (queueHistory c.history) named.1,
    grant.caller = caller ∨ workerOf grant.performed ≠ some named.2

instance (c : PollerConfiguration) (caller : ℕ) (poller : JobPoller) (op : PollerOp) :
    Decidable (ReportsOwn c caller poller op) :=
  inferInstanceAs (Decidable (∀ named ∈ reportOf op, _))

section Ownership

variable {store later : JobStore} {history laterHistory : List PollerOccurrence}

theorem ownership_empty (now : Instant) : Ownership (emptyJobs now) [] := by
  refine ⟨ledger_empty, ?_, ?_, ?_, ?_, ?_⟩ <;> rintro claim ⟨⟩

/-- Time passes, rows are added, and what is not about the queue is performed. -/
theorem Ownership.keep (hownership : Ownership store history)
    (hqueue : queueHistory laterHistory = queueHistory history)
    (hlogs : ∀ caller, logOf caller history ⊆ logOf caller laterHistory)
    (hrows : store.table.rows ⊆ later.table.rows) (hnow : store.now ≤ later.now)
    (hledger : Ledger later.table (queueHistory history)) : Ownership later laterHistory := by
  refine ⟨by rwa [hqueue], fun claim hclaim row hrow huntouched hlease ↦ ?_,
    fun claim hclaim row hrow huntouched hlease ↦ ?_, fun claim hclaim row hrow hkept ↦ ?_,
    fun first hfirst second hsecond row hrow other hother hrowKept hotherKept ↦ ?_, ?_⟩
  · rw [hqueue] at hclaim hlease
    exact hrows (hownership.held claim hclaim row hrow (huntouched.of_subset (hlogs _)) hlease)
  · rw [hqueue] at hclaim hlease
    exact (hownership.gone claim hclaim row hrow (huntouched.of_subset (hlogs _)) hlease).mono hnow
  · rw [hqueue] at hclaim ⊢
    obtain ⟨current, hcurrent, hcounted⟩ := hownership.counted claim hclaim row hrow
      fun hreleased ↦ hkept (hreleased.of_subset (hlogs _))
    exact ⟨current, hrows hcurrent, hcounted⟩
  · rw [hqueue] at hfirst hsecond
    exact hownership.apart first hfirst second hsecond row hrow other hother
      (fun hreleased ↦ hrowKept (hreleased.of_subset (hlogs _)))
      fun hreleased ↦ hotherKept (hreleased.of_subset (hlogs _))
  · rw [hqueue]
    exact hownership.once

section Perform

variable {caller : ℕ} {performed : PollerPerformed} {statement : QueuePerformed}

/-- A claim in the history is the new one, or was there before. -/
theorem mem_cons_claim {claim : QueueOccurrence}
    (hclaim : claim ∈ (⟨caller, statement⟩ : QueueOccurrence) :: queueHistory history) {row : JobRow}
    (hrow : row ∈ claimedRows claim.performed) :
    (claim = ⟨caller, statement⟩ ∧ row ∈ claimedRows statement) ∨ claim ∈ queueHistory history := by
  rcases List.mem_cons.mp hclaim with rfl | hold
  · exact .inl ⟨rfl, hrow⟩
  · exact .inr hold

/-- A run that claims has not claimed before. -/
theorem claim_ne_of_claims (hstatement : asQueue performed = some statement)
    (hconduct : PollerConduct (logOf caller history) performed.1) {claim : QueueOccurrence}
    (hclaim : claim ∈ queueHistory history) {row : JobRow} (hrow : row ∈ claimedRows claim.performed)
    {id : String} (hclaims : id ∈ claimedIds statement) : claim.caller ≠ caller := by
  rintro rfl
  obtain ⟨earlier, hearlier, hfound⟩ := mem_queueHistory.mp hclaim
  have hbefore : rowsClaimed earlier = [] := by
    obtain ⟨op, answer⟩ := performed
    cases op with
    | queue op =>
      obtain rfl := Option.some.inj hstatement
      cases op with
      | claimBatch workerId leaseTtlMs batch => exact hconduct earlier hearlier
      | _ => cases hclaims
    | heartbeat job leaseOwner extendMs =>
      cases answer with
      | error error => cases hstatement
      | ok rowCount =>
        obtain rfl := Option.some.inj hstatement
        cases hclaims
    | _ => cases hstatement
  rw [rowsClaimed_of_asQueue hfound] at hbefore
  rw [hbefore] at hrow
  cases hrow

/-- No report is about the row of a claim whose job waits. -/
theorem Ownership.unreported (hownership : Ownership store history)
    (hstatement : asQueue performed = some statement)
    (hreports : ∀ named ∈ reportOf performed.1, ∀ grant ∈ leaseOf (queueHistory history) named.1,
      grant.caller = caller ∨ workerOf grant.performed ≠ some named.2)
    {claim : QueueOccurrence} {row : JobRow} (hrow : row ∈ store.table.rows)
    (hlease : leaseOf (queueHistory history) row.id = some claim)
    (huntouched : Untouched (logOf claim.caller (⟨caller, performed⟩ :: history)) row.id) :
    ∀ leaseOwner, reported statement.1 = some (row.id, leaseOwner) → ¬ row.LeasedTo leaseOwner := by
  intro leaseOwner hreported hleased
  rw [reported_of_asQueue hstatement] at hreported
  rcases hreports _ hreported claim hlease with rfl | hworker
  · exact huntouched performed (mem_logOf.mpr List.mem_cons_self) (touched_of_report hreported)
  · obtain ⟨grant, hgrant, howner⟩ := hownership.ledger.exists_lease hrow hleased
    obtain rfl := Option.some.inj (hlease.symm.trans hgrant)
    exact hworker howner

/-- A job that waits has kept its row, or its lease has run out. -/
theorem Ownership.waiting (hownership : Ownership store history)
    (hstatement : asQueue performed = some statement)
    (hchanges : TableChanges store.now statement store.table later.table)
    (hconduct : PollerConduct (logOf caller history) performed.1)
    (hreports : ∀ named ∈ reportOf performed.1, ∀ grant ∈ leaseOf (queueHistory history) named.1,
      grant.caller = caller ∨ workerOf grant.performed ≠ some named.2)
    {claim : QueueOccurrence} (hclaim : claim ∈ queueHistory history) {row : JobRow}
    (hrow : row ∈ claimedRows claim.performed)
    (huntouched : Untouched (logOf claim.caller (⟨caller, performed⟩ :: history)) row.id) :
    (leaseOf (⟨caller, statement⟩ :: queueHistory history) row.id = some claim ∧
      row ∈ later.table.rows) ∨
    (leaseOf (⟨caller, statement⟩ :: queueHistory history) row.id ≠ some claim ∧
      row.Expired store.now) := by
  have hbefore : Untouched (logOf claim.caller history) row.id :=
    huntouched.of_subset (logOf_subset_cons claim.caller)
  by_cases hlease : leaseOf (queueHistory history) row.id = some claim
  · have hthere := hownership.held claim hclaim row hrow hbefore hlease
    obtain ⟨successor, hsuccessor, hchange⟩ := hchanges.exists_successor hthere
    obtain ⟨hunclaimed, ⟨rfl, hunended⟩ | ⟨hexpired, hended⟩⟩ :=
      hchange.unreported (hownership.ledger.leased row hthere claim hlease).1
        (hownership.unreported hstatement hreports hthere hlease huntouched)
    · rw [leaseOf, holding_cons_of_not hunclaimed hunended]
      exact .inl ⟨hlease, hsuccessor⟩
    · rw [leaseOf, holding_cons_of_ended hunclaimed hended]
      exact .inr ⟨by simp, hexpired⟩
  · refine .inr ⟨?_, hownership.gone claim hclaim row hrow hbefore hlease⟩
    by_cases hclaimed : row.id ∈ claimedIds statement
    · rw [leaseOf, holding_cons_of_granted hclaimed]
      rintro ⟨⟩
      exact claim_ne_of_claims hstatement hconduct hclaim hrow hclaimed rfl
    · by_cases hended : row.id ∈ endedIds statement
      · rw [leaseOf, holding_cons_of_ended hclaimed hended]
        simp
      · rwa [leaseOf, holding_cons_of_not hclaimed hended]

/-- The attempts of a row fall only where the run with its lease gives its attempt back. -/
theorem Ownership.counts (hownership : Ownership store history)
    (hstatement : asQueue performed = some statement)
    (hchanges : TableChanges store.now statement store.table later.table)
    (hreports : ∀ named ∈ reportOf performed.1, ∀ grant ∈ leaseOf (queueHistory history) named.1,
      grant.caller = caller ∨ workerOf grant.performed ≠ some named.2)
    {claim : QueueOccurrence} (hclaim : claim ∈ queueHistory history) {row : JobRow}
    (hrow : row ∈ claimedRows claim.performed)
    (hkept : ¬ Released (logOf claim.caller (⟨caller, performed⟩ :: history)) row.id) :
    ∃ current ∈ later.table.rows, current.id = row.id ∧ row.attempts ≤ current.attempts ∧
      ∀ grant, leaseOf (⟨caller, statement⟩ :: queueHistory history) row.id = some grant →
        grant ≠ claim → row.attempts < current.attempts := by
  obtain ⟨current, hcurrent, hid, hle, hlt⟩ := hownership.counted claim hclaim row hrow
    fun hreleased ↦ hkept (hreleased.of_subset (logOf_subset_cons claim.caller))
  obtain ⟨successor, hsuccessor, hchange⟩ := hchanges.exists_successor hcurrent
  refine ⟨successor, hsuccessor, hchange.sameJob.id.trans hid, ?_⟩
  rw [← hid] at hlt hkept ⊢
  by_cases hclaimed : current.id ∈ claimedIds statement
  · have hmore := hchange.claimed hclaimed
    exact ⟨by omega, fun _ _ _ ↦ by omega⟩
  rcases hchange.counts hclaimed with hsame | ⟨hended, hless, leaseOwner, hleased, hrelease⟩
  · rw [hsame]
    refine ⟨hle, fun grant hlease hne ↦ ?_⟩
    by_cases hended : current.id ∈ endedIds statement
    · rw [leaseOf, holding_cons_of_ended hclaimed hended] at hlease
      cases hlease
    · rw [leaseOf, holding_cons_of_not hclaimed hended] at hlease
      exact hlt grant hlease hne
  · -- The run that releases has the lease, and the claim is of another run.
    obtain ⟨grant, hlease, hworker⟩ := hownership.ledger.exists_lease hcurrent hleased
    have hreport : reportOf performed.1 = some (current.id, leaseOwner) := by
      rw [← reported_of_asQueue hstatement, hrelease]
      rfl
    have hne : grant ≠ claim := by
      rintro rfl
      rcases hreports _ hreport grant hlease with hcaller | hother
      · refine hkept ⟨performed, mem_logOf.mpr (hcaller ▸ List.mem_cons_self), leaseOwner, ?_⟩
        obtain ⟨op, answer⟩ := performed
        cases op with
        | queue op =>
          obtain rfl := Option.some.inj hstatement
          exact congrArg PollerOp.queue hrelease
        | heartbeat job owner extendMs =>
          cases answer with
          | error error => cases hstatement
          | ok rowCount =>
            obtain rfl := Option.some.inj hstatement
            cases hrelease
        | _ => cases hstatement
      · exact hother hworker
    have hmore := hlt grant hlease hne
    rw [hless, leaseOf, holding_cons_of_ended hclaimed hended]
    exact ⟨by omega, fun _ hnone ↦ by cases hnone⟩

/-- A claim returns an attempt that no other run keeps. -/
theorem Ownership.attempts_lt (hownership : Ownership store history)
    (hchanges : TableChanges store.now statement store.table later.table) {claim : QueueOccurrence}
    (hclaim : claim ∈ queueHistory history) {row other : JobRow}
    (hrow : row ∈ claimedRows claim.performed)
    (hkept : ¬ Released (logOf claim.caller history) row.id) (hother : other ∈ claimedRows statement)
    (hid : row.id = other.id) : row.attempts < other.attempts := by
  obtain ⟨current, hcurrent, hsame, hle, -⟩ := hownership.counted claim hclaim row hrow hkept
  have hchange := hchanges.of_id_eq hcurrent (hchanges.claimed other hother)
    ((hsame.trans hid).symm)
  have hmore := hchange.claimed
    (List.mem_map.mpr ⟨other, hother, (hsame.trans hid).symm⟩)
  omega

theorem Ownership.perform (hownership : Ownership store history)
    (hstatement : asQueue performed = some statement) (hnow : later.now = store.now)
    (hchanges : TableChanges store.now statement store.table later.table)
    (hconduct : PollerConduct (logOf caller history) performed.1)
    (hreports : ∀ named ∈ reportOf performed.1, ∀ grant ∈ leaseOf (queueHistory history) named.1,
      grant.caller = caller ∨ workerOf grant.performed ≠ some named.2) :
    Ownership later (⟨caller, performed⟩ :: history) := by
  have hqueue : queueHistory (⟨caller, performed⟩ :: history) =
      ⟨caller, statement⟩ :: queueHistory history := queueHistory_cons_of_some hstatement
  refine ⟨?_, fun claim hclaim row hrow huntouched hlease ↦ ?_,
    fun claim hclaim row hrow huntouched hlease ↦ ?_, fun claim hclaim row hrow hkept ↦ ?_,
    fun first hfirst second hsecond row hrow other hother hrowKept hotherKept hid hattempts ↦ ?_,
    fun first hfirst second hsecond row hrow other hother hcaller ↦ ?_⟩
  · rw [hqueue]
    exact hownership.ledger.perform hchanges
  · rw [hqueue] at hclaim hlease
    rcases mem_cons_claim hclaim hrow with ⟨rfl, hnew⟩ | hold
    · exact hchanges.claimed row hnew
    · rcases hownership.waiting hstatement hchanges hconduct hreports hold hrow huntouched with
        ⟨-, hthere⟩ | ⟨hne, -⟩
      · exact hthere
      · exact absurd hlease hne
  · rw [hqueue] at hclaim hlease
    rcases mem_cons_claim hclaim hrow with ⟨rfl, hnew⟩ | hold
    · exact absurd (holding_cons_of_granted (List.mem_map_of_mem hnew)) hlease
    · rcases hownership.waiting hstatement hchanges hconduct hreports hold hrow huntouched with
        ⟨hsame, -⟩ | ⟨-, hexpired⟩
      · exact absurd hsame hlease
      · rwa [hnow]
  · rw [hqueue] at hclaim ⊢
    rcases mem_cons_claim hclaim hrow with ⟨rfl, hnew⟩ | hold
    · refine ⟨row, hchanges.claimed row hnew, rfl, le_rfl, fun grant hlease hne ↦ ?_⟩
      rw [leaseOf, holding_cons_of_granted (List.mem_map_of_mem hnew)] at hlease
      exact absurd (Option.some.inj hlease).symm hne
    · exact hownership.counts hstatement hchanges hreports hold hrow hkept
  · rw [hqueue] at hfirst hsecond
    have hearlier : ∀ {claimant : ℕ} {id : String},
        ¬ Released (logOf claimant (⟨caller, performed⟩ :: history)) id →
          ¬ Released (logOf claimant history) id :=
      fun hkept hreleased ↦ hkept (hreleased.of_subset (logOf_subset_cons _))
    rcases mem_cons_claim hfirst hrow with ⟨rfl, hrowNew⟩ | hrowOld
    · rcases mem_cons_claim hsecond hother with ⟨rfl, -⟩ | hotherOld
      · rfl
      · have hlt := hownership.attempts_lt hchanges hotherOld hother (hearlier hotherKept) hrowNew hid.symm
        omega
    · rcases mem_cons_claim hsecond hother with ⟨rfl, hotherNew⟩ | hotherOld
      · have hlt := hownership.attempts_lt hchanges hrowOld hrow (hearlier hrowKept) hotherNew hid
        omega
      · exact hownership.apart first hrowOld second hotherOld row hrow other hother
          (hearlier hrowKept) (hearlier hotherKept) hid hattempts
  · rw [hqueue] at hfirst hsecond
    rcases mem_cons_claim hfirst hrow with ⟨rfl, hrowNew⟩ | hrowOld
    · rcases mem_cons_claim hsecond hother with ⟨rfl, -⟩ | hotherOld
      · rfl
      · exact absurd hcaller.symm
          (claim_ne_of_claims hstatement hconduct hotherOld hother (List.mem_map_of_mem hrowNew))
    · rcases mem_cons_claim hsecond hother with ⟨rfl, hotherNew⟩ | hotherOld
      · exact absurd hcaller
          (claim_ne_of_claims hstatement hconduct hrowOld hrow (List.mem_map_of_mem hotherNew))
      · exact hownership.once first hrowOld second hotherOld row hrow other hother hcaller

end Perform

/-- A new job leaves the rows and the leases. -/
theorem Ownership.turn (hownership : Ownership store history) (tick : PollerTick) :
    Ownership (store.turn tick) history := by
  cases tick with
  | wait duration =>
    exact hownership.keep rfl (fun _ ↦ List.Subset.refl _) (List.Subset.refl _)
      (Int.le_add_of_nonneg_right (Int.natCast_nonneg duration)) hownership.ledger
  | enqueue job =>
    show Ownership { store with table := ((store.table.insertJob store.now job).map (·.1)).getD store.table }
      history
    cases hinsert : store.table.insertJob store.now job with
    | none => exact hownership
    | some inserted =>
      have hchanges : TableChanges store.now ⟨.insertJob job, inserted.2⟩ store.table inserted.1 :=
        tableChanges_insert hinsert
      refine hownership.keep rfl (fun _ ↦ List.Subset.refl _) (fun row hrow ↦ ?_) le_rfl ?_
      · obtain ⟨successor, hsuccessor, hchange⟩ := hchanges.exists_successor hrow
        cases hchange with
        | kept _ _ => exact hsuccessor
      · -- The INSERT is no claim, and ends no lease.
        have hledger : Ledger inserted.1 (⟨0, .insertJob job, inserted.2⟩ :: queueHistory history) :=
          hownership.ledger.perform hchanges
        refine hledger.of_leaseOf_eq fun id ↦ (holding_cons_of_not ?_ ?_).symm
        · exact List.not_mem_nil
        · exact List.not_mem_nil

end Ownership

/-! ### Runs -/

section Runs

variable {c : PollerConfiguration} {now : Instant}

theorem ownership_of_reaches
    (hreaches : Reaches pollerMachine (Meets ReportsOwn) (.initial (emptyJobs now)) c) :
    Ownership c.store c.history := by
  induction hreaches with
  | refl => exact ownership_empty now
  | @step c later event hreaches hreports hstep ih =>
    cases steps_of_step_eq_some hstep with
    | start request => exact ih
    | end_ hcall => exact ih
    | turn tick => exact ih.turn tick
    | perform hcall hanswer =>
      have hconduct := (hreaches.bound poller_honours fun _ ↦ trivial).allowed (Nat.zero_le _) hcall
      rcases asQueue_of_performed hanswer with ⟨statement, hstatement, hnow, hchanges⟩ | ⟨hnone, hsame⟩
      · exact ih.perform hstatement hnow hchanges hconduct (hreports.performed hcall)
      · rw [hsame]
        exact ih.keep (queueHistory_cons_of_none hnone) logOf_subset_cons (List.Subset.refl _) le_rfl
          ih.ledger

/-- A job that was started was claimed, and is not released any more. -/
theorem claimed_of_started {condition : PollerConfiguration → Event PollerOracle JobPoller PollerTick → Prop}
    (hreaches : Reaches pollerMachine condition (.initial (emptyJobs now)) c) {occurrence : PollerOccurrence}
    (hoccurrence : occurrence ∈ c.history) {job : ClaimedJob} (hstart : occurrence.performed.1 = .start job) :
    (∃ performed ∈ logOf occurrence.caller c.history, ∃ row ∈ rowsClaimed performed, row.toClaimed = job) ∧
      ¬ Released (logOf occurrence.caller c.history) job.id := by
  have hallowed := hreaches.allowed poller_honours fun _ ↦ trivial
  have htouched : touched occurrence.performed.1 = some job.id := by rw [hstart]; rfl
  obtain ⟨recent, earlier, hhistory⟩ := List.append_of_mem hoccurrence
  obtain ⟨_, -, hconduct⟩ := hallowed recent occurrence earlier hhistory
  have hstarts : PollerConduct (logOf occurrence.caller earlier) (.start job) := hstart ▸ hconduct
  obtain ⟨⟨performed, hperformed, hclaimed⟩, huntouched⟩ := hstarts
  refine ⟨⟨performed, ?_, hclaimed⟩, ?_⟩
  · rw [hhistory, mem_logOf]
    exact List.mem_append_right _ (List.mem_cons_of_mem _ (mem_logOf.mp hperformed))
  · rintro ⟨release, hrelease, leaseOwner, hop⟩
    have htouches : touched release.1 = some job.id := by rw [hop]; rfl
    rw [mem_logOf, hhistory, List.mem_append, List.mem_cons] at hrelease
    rcases hrelease with hlater | hsame | hbefore
    · -- A release after the start finds the job touched.
      obtain ⟨newer, between, rfl⟩ := List.append_of_mem hlater
      rw [List.append_assoc, List.cons_append] at hhistory
      obtain ⟨_, -, hreleases⟩ := hallowed newer _ _ hhistory
      have hwaits : Untouched (logOf occurrence.caller (between ++ occurrence :: earlier)) job.id := by
        have hconduct : PollerConduct (logOf occurrence.caller (between ++ occurrence :: earlier))
            release.1 := hreleases
        rw [hop] at hconduct
        exact hconduct
      exact hwaits occurrence.performed
        (mem_logOf.mpr (List.mem_append_right _ List.mem_cons_self)) htouched
    · rw [← hsame, hop] at hstart
      cases hstart
    · exact huntouched release (mem_logOf.mpr hbefore) htouches

/-- The claim of a run among the statements of the queue. -/
theorem exists_claim {history : List PollerOccurrence} {caller : ℕ} {performed : PollerPerformed}
    (hperformed : performed ∈ logOf caller history) {row : JobRow} (hrow : row ∈ rowsClaimed performed) :
    ∃ claim ∈ queueHistory history, claim.caller = caller ∧ row ∈ claimedRows claim.performed := by
  cases hstatement : asQueue performed with
  | none =>
    rw [rowsClaimed, hstatement] at hrow
    cases hrow
  | some statement =>
    rw [rowsClaimed_of_asQueue hstatement] at hrow
    exact ⟨⟨caller, statement⟩, mem_queueHistory.mpr ⟨performed, hperformed, hstatement⟩, rfl, hrow⟩

end Runs

/-! ### The start of a handler -/

/-- The run holds the lease of the job, and the lease has not run out. -/
def HoldsUnexpired (c : PollerConfiguration) (caller : ℕ) (job : ClaimedJob) : Prop :=
  HoldsLease (queueHistory c.history) caller job.id ∧ ∃ row ∈ c.store.table.rows, row.id = job.id ∧
    row.LeasedTo job.leaseOwner ∧ ¬ row.Expired c.store.now

instance (c : PollerConfiguration) (caller : ℕ) (job : ClaimedJob) :
    Decidable (HoldsUnexpired c caller job) :=
  inferInstanceAs (Decidable (_ ∧ ∃ row ∈ c.store.table.rows, _))

/-- A start under the unexpired lease of the run, of an attempt that nobody has started. -/
structure StartsAlone (c : PollerConfiguration) (caller : ℕ) (job : ClaimedJob) : Prop where
  lease : HoldsUnexpired c caller job
  attempt : ∀ occurrence ∈ c.history, ∀ other : ClaimedJob, occurrence.performed.1 = .start other →
    other.id = job.id → other.attempts ≠ job.attempts

/-- The lease has not run out that the claim of the run has set. -/
def Prompt (c : PollerConfiguration) (caller : ℕ) (job : ClaimedJob) : Prop :=
  ∃ performed ∈ logOf caller c.history, ∃ row ∈ rowsClaimed performed, row.toClaimed = job ∧
    ¬ row.Expired c.store.now

instance (c : PollerConfiguration) (caller : ℕ) (job : ClaimedJob) : Decidable (Prompt c caller job) :=
  inferInstanceAs (Decidable (∃ performed ∈ logOf caller c.history, _))

section Start

variable {c : PollerConfiguration} {now : Instant} {caller : ℕ} {poller : JobPoller} {job : ClaimedJob}

/-- Nobody has started the attempt, in time or late. -/
theorem attempt_unstarted
    (hreaches : Reaches pollerMachine (Meets ReportsOwn) (.initial (emptyJobs now)) c)
    (hnext : c.next caller = some (poller, .start job)) {occurrence : PollerOccurrence}
    (hoccurrence : occurrence ∈ c.history) {other : ClaimedJob}
    (hstart : occurrence.performed.1 = .start other) (hid : other.id = job.id) :
    other.attempts ≠ job.attempts := by
  intro hattempts
  obtain ⟨next, hcall⟩ := exists_call_of_next hnext
  obtain ⟨⟨performed, hperformed, row, hrow, rfl⟩, huntouched⟩ :=
    (hreaches.bound poller_honours fun _ ↦ trivial).allowed (Nat.zero_le _) hcall
  obtain ⟨claim, hclaim, rfl, hclaimed⟩ := exists_claim hperformed hrow
  obtain ⟨⟨earlier, hearlier, started, hstarted, rfl⟩, hkept⟩ :=
    claimed_of_started hreaches hoccurrence hstart
  obtain ⟨first, hfirst, hstarter, hfirstRow⟩ := exists_claim hearlier hstarted
  have hunreleased : ¬ Released (logOf claim.caller c.history) row.id := by
    rintro ⟨release, hrelease, leaseOwner, hop⟩
    exact huntouched release hrelease (by rw [hop]; rfl)
  have hsame : first.caller = claim.caller :=
    (ownership_of_reaches hreaches).apart first hfirst claim hclaim started hfirstRow row hclaimed
      (hstarter ▸ hkept) hunreleased hid hattempts
  -- A run does not start a job that it has touched.
  refine huntouched occurrence.performed (mem_logOf.mpr ?_) ?_
  · rw [← hsame, hstarter]
    exact hoccurrence
  · rw [hstart]
    exact congrArg some hid

/-- The pollers run in any order, for as long as they like. -/
theorem single_executor_iff
    (hreaches : Reaches pollerMachine (Meets ReportsOwn) (.initial (emptyJobs now)) c)
    (hnext : c.next caller = some (poller, .start job)) :
    StartsAlone c caller job ↔ Prompt c caller job := by
  have hownership := ownership_of_reaches hreaches
  obtain ⟨next, hcall⟩ := exists_call_of_next hnext
  obtain ⟨⟨performed, hperformed, row, hrow, hjob⟩, huntouched⟩ :=
    (hreaches.bound poller_honours fun _ ↦ trivial).allowed (Nat.zero_le _) hcall
  constructor
  · rintro ⟨⟨hholds, current, hcurrent, hid, -, hunexpired⟩, -⟩
    obtain ⟨claim, hclaim, rfl, hclaimed⟩ := exists_claim hperformed hrow
    obtain rfl := hjob
    obtain ⟨grant, hlease, hcaller⟩ := Option.map_eq_some_iff.mp hholds
    obtain ⟨hgrant, hgranted⟩ := mem_of_holding hlease
    obtain ⟨other, hother, -⟩ := List.mem_map.mp hgranted
    obtain rfl := hownership.once grant hgrant claim hclaim other hother row hclaimed hcaller
    have hthere := hownership.held grant hgrant row hclaimed huntouched hlease
    obtain rfl := c.store.table.eq_of_key hcurrent hthere hid
    exact ⟨performed, hperformed, current, hrow, rfl, hunexpired⟩
  · rintro ⟨prompt, hprompt, unexpired, hmem, rfl, hunexpired⟩
    obtain ⟨claim, hclaim, rfl, hclaimed⟩ := exists_claim hprompt hmem
    have hlease : leaseOf (queueHistory c.history) unexpired.id = some claim := by
      by_contra hne
      exact hunexpired (hownership.gone claim hclaim unexpired hclaimed huntouched hne)
    have hthere := hownership.held claim hclaim unexpired hclaimed huntouched hlease
    obtain ⟨hstatus, workerId, -, howner⟩ := hownership.ledger.leased unexpired hthere claim hlease
    have hworker : unexpired.leaseOwner = some unexpired.toClaimed.leaseOwner := by
      rw [howner]
      show some workerId = some (unexpired.leaseOwner.getD "")
      rw [howner, Option.getD_some]
    exact ⟨⟨Option.map_eq_some_iff.mpr ⟨claim, hlease, rfl⟩, unexpired, hthere, rfl,
      ⟨hworker, hstatus⟩, hunexpired⟩, fun occurrence hoccurrence other hstart hid ↦
        attempt_unstarted hreaches hnext hoccurrence hstart hid⟩

end Start

/-! ### A batch of two -/

namespace Late

def newJob (id : String) : NewJob where
  id := id
  jobType := "platform.diagnostic.echo"
  payload := "payload"
  classification := "INTERNAL"
  idempotencyKey := none
  priority := 0
  delayMs := 0
  maxAttempts := 5
  correlationId := none
  causationId := none

/-- A handler that works for some time. -/
def registry : JobHandlerRegistry :=
  ⟨[("platform.diagnostic.echo", fun _ ↦ do
    Program.perform HandlerOp.work
    return .ok ())]⟩

def poller (workerId : String) : JobPoller where
  queue := {}
  registry := registry
  workerId := workerId
  batchSize := 10
  leaseTtlMs := none

/-- The second job of the batch, as the claim of an attempt returns it. -/
def second (workerId : String) (attempts : Int) : ClaimedJob where
  id := "second"
  jobType := "platform.diagnostic.echo"
  payload := "payload"
  classification := "INTERNAL"
  priority := 0
  attempts := attempts
  maxAttempts := 5
  leaseOwner := workerId
  correlationId := none
  causationId := none

abbrev PollerEvents := List (Event PollerOracle JobPoller PollerTick)

/-- A run claims two jobs, and the handler of the first one works for some time. -/
def firstHandled (duration : ℕ) : PollerEvents :=
  [.turn (.enqueue (newJob "first")), .turn (.enqueue (newJob "second")),
    .start (poller "karar-worker@host:1"), .advance 0 {}, .advance 0 {}, .advance 0 {}, .advance 0 {},
    .turn (.wait duration), .advance 0 {}, .advance 0 {}]

/-- Another run recovers the second job, claims it and starts it. -/
def secondTaken : PollerEvents :=
  [.start (poller "karar-worker@host:2"), .advance 1 { sweepDue := true }, .advance 1 {}, .advance 1 {},
    .advance 1 {}, .advance 1 {}]

/-- The first run is about to start the second job. -/
def run (events : PollerEvents) : PollerConfiguration :=
  pollerMachine.finish (Meets ReportsOwn) (.initial (emptyJobs 0)) (events ++ [.advance 0 {}])

/-- The first handler leaves time. -/
theorem single_executor_prompt :
    StartsAlone (run (firstHandled 20000)) 0 (second "karar-worker@host:1" 1) := by
  have hnext : ((run (firstHandled 20000)).next 0).map (·.2) =
      some (.start (second "karar-worker@host:1" 1)) := by
    decide
  obtain ⟨⟨poller, op⟩, hnext, rfl⟩ := Option.map_eq_some_iff.mp hnext
  exact (single_executor_iff (reaches_finish _) hnext).mpr (by decide)

/-- The first handler outlasts the lease, and the second job is started beside the run that has its lease. -/
theorem late_start :
    ∃ c poller, Reaches pollerMachine (Meets ReportsOwn) (.initial (emptyJobs 0)) c ∧
      c.next 0 = some (poller, .start (second "karar-worker@host:1" 1)) ∧
      HoldsUnexpired c 1 (second "karar-worker@host:2" 2) ∧
      (∃ occurrence ∈ c.history, occurrence.caller = 1 ∧
        occurrence.performed.1 = .start (second "karar-worker@host:2" 2)) ∧
      ¬ HoldsUnexpired c 0 (second "karar-worker@host:1" 1) := by
  have hnext : ((run (firstHandled 60000 ++ secondTaken)).next 0).map (·.2) =
      some (.start (second "karar-worker@host:1" 1)) := by
    decide
  obtain ⟨⟨poller, op⟩, hnext, rfl⟩ := Option.map_eq_some_iff.mp hnext
  refine ⟨_, poller, reaches_finish _, hnext, ?_, ?_, ?_⟩ <;> decide

end Late

end Karar.Jobs
