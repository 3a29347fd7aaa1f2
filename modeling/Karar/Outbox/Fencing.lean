import Karar.Foundation.Tenure
import Karar.Outbox.Delivery

/-!
# Fencing of claims

The marks of a run name the row by its id and do not ask who has claimed it. A run whose claim has expired
and has been taken over still writes what it computed from its own claim: it clears the claim of the relay
that has taken the row, moves its schedule, and takes back the attempts counted since
(`stale_failure_unfenced`). `fenced_of_held` is what holds of the runs in which a row is marked by the run
that claimed it last.
-/

namespace Karar.Outbox

open Foundation KeyedTable Machine SharedKernel

/-! ### Takeovers -/

/-- The relay that claims. -/
def claimant : RelayPerformed → Option String
  | ⟨.claimBatch relayId _ _, _⟩ => some relayId
  | _ => none

/-- The run has claimed the row, and another relay has claimed it last. -/
def TakenOver (history : List RelayOccurrence) (caller : ℕ) (relay : OutboxRelay) (id : String) : Prop :=
  (∃ performed ∈ logOf caller history, id ∈ claimedIds performed) ∧
    ∃ last, lastClaim claimedIds history id = some last ∧ claimant last.performed ≠ some relay.relayId

/-- The row, before and after an event. -/
structure Became (c later : RelayConfiguration) (row successor : OutboxRow) : Prop where
  before : row ∈ c.store.table.rows
  after : successor ∈ later.store.table.rows
  id : successor.id = row.id

/-- An event respects the claims: a run that another relay has taken over leaves the row alone, the
attempts do not decrease, and only its owner clears a live claim. -/
structure Fenced (c : RelayConfiguration) (event : Event RelayOracle RelayRequest OutboxTick)
    (later : RelayConfiguration) : Prop where
  takenOver : ∀ row successor, Became c later row successor → ∀ caller oracle request,
    event = .advance caller oracle → c.Asked caller request →
      TakenOver c.history caller request.relay row.id →
        successor.attempts = row.attempts ∧ successor.claim = row.claim ∧
          successor.availableAt = row.availableAt
  attempts : ∀ row successor, Became c later row successor → row.attempts ≤ successor.attempts
  live : ∀ row successor, Became c later row successor → ∀ claim ∈ row.claim,
    claim.Live c.store.now → successor.claim = some claim ∨
      ∃ caller oracle request, event = .advance caller oracle ∧ c.Asked caller request ∧
        request.relay.relayId = claim.claimedBy

/-! ### The condition -/

/-- The row that an operation marks. -/
def marked : RelayOp → Option String
  | .markPublished id => some id
  | .deadLetter id _ _ => some id
  | .scheduleRetry id _ _ _ => some id
  | _ => none

/-- A row is marked by the run that claimed it last. -/
def MarksHeld : RelayConfiguration → Event RelayOracle RelayRequest OutboxTick → Prop :=
  Meets fun c caller _ op ↦ ∀ id ∈ marked op, Holds claimedIds c.history caller id

instance (c : RelayConfiguration) (event : Event RelayOracle RelayRequest OutboxTick) :
    Decidable (MarksHeld c event) :=
  inferInstanceAs (Decidable (Meets _ c event))

/-! ### The invariant -/

/-- A claim in the table is the last one of its row, and the row has at most one attempt more than the last
claim returned. -/
structure Held (table : OutboxTable) (history : List RelayOccurrence) : Prop where
  owner : ∀ row ∈ table.rows, ∀ claim ∈ row.claim, ∃ last,
    lastClaim claimedIds history row.id = some last ∧ claimant last.performed = some claim.claimedBy
  attempts : ∀ row ∈ table.rows, ∀ last, lastClaim claimedIds history row.id = some last →
    ∀ claimed ∈ claimedRows last.performed, claimed.id = row.id → row.attempts ≤ claimed.attempts + 1
  single : ∀ occurrence ∈ history, ∀ first ∈ claimedRows occurrence.performed,
    ∀ second ∈ claimedRows occurrence.performed, first.id = second.id → first = second

section Held

variable {table : OutboxTable} {history : List RelayOccurrence} {caller : ℕ} {relay : OutboxRelay}
  {claimed : ClaimedRow} {id : String}

/-- The last claim of a row that a run holds is its own batch. -/
theorem exists_batch_of_holds {outcome : Except PublishFailure Unit}
    (hholds : Holds claimedIds history caller claimed.id)
    (hattempted : Attempted relay (logOf caller history) claimed outcome) :
    ∃ last, lastClaim claimedIds history claimed.id = some last ∧
      claimant last.performed = some relay.relayId ∧ claimed ∈ claimedRows last.performed := by
  obtain ⟨last, hlast, -, hfound⟩ := hholds.log
  obtain ⟨rows, hbegan, hclaimed, -⟩ := hattempted
  refine ⟨last, hlast, ?_⟩
  rw [hbegan.find? hfound]
  exact ⟨rfl, hclaimed⟩

/-- A mark is made by the relay of the last claim. -/
theorem claimant_of_marked {op : RelayOp} (hconduct : Conduct relay (logOf caller history) op)
    (hmarked : marked op = some id) (hholds : Holds claimedIds history caller id) :
    ∃ last, lastClaim claimedIds history id = some last ∧
      claimant last.performed = some relay.relayId := by
  have hbatch : ∀ claimed : ClaimedRow, ∀ outcome, claimed.id = id →
      Attempted relay (logOf caller history) claimed outcome →
        ∃ last, lastClaim claimedIds history id = some last ∧
          claimant last.performed = some relay.relayId := by
    rintro claimed outcome rfl hattempted
    obtain ⟨last, hlast, hclaimant, -⟩ := exists_batch_of_holds hholds hattempted
    exact ⟨last, hlast, hclaimant⟩
  cases op with
  | markPublished other =>
    obtain rfl := Option.some.inj hmarked
    obtain ⟨claimed, hid, hattempted⟩ := hconduct
    exact hbatch claimed _ hid hattempted
  | deadLetter other attempts lastError =>
    obtain rfl := Option.some.inj hmarked
    obtain ⟨claimed, failure, hid, -, -, hattempted⟩ := hconduct
    exact hbatch claimed _ hid hattempted
  | scheduleRetry other attempts lastError backoffMs =>
    obtain rfl := Option.some.inj hmarked
    obtain ⟨claimed, failure, hid, -, hattempted⟩ := hconduct
    exact hbatch claimed _ hid hattempted
  | _ => cases hmarked

/-- The attempts of a mark by the run that holds the row are one more than its claim returned. -/
theorem exists_claimed_of_marksFailure {op : RelayOp} {attempts : ℕ}
    (hconduct : Conduct relay (logOf caller history) op) (hmarks : MarksFailure op id attempts)
    (hholds : Holds claimedIds history caller id) :
    ∃ last claimed, lastClaim claimedIds history id = some last ∧
      claimed ∈ claimedRows last.performed ∧ claimed.id = id ∧ attempts = claimed.attempts + 1 := by
  rcases hmarks with ⟨lastError, rfl⟩ | ⟨lastError, backoffMs, rfl⟩
  · obtain ⟨claimed, failure, rfl, hattempts, -, hattempted⟩ := hconduct
    obtain ⟨last, hlast, -, hclaimed⟩ := exists_batch_of_holds hholds hattempted
    exact ⟨last, claimed, hlast, hclaimed, rfl, hattempts⟩
  · obtain ⟨claimed, failure, rfl, hattempts, hattempted⟩ := hconduct
    obtain ⟨last, hlast, -, hclaimed⟩ := exists_batch_of_holds hholds hattempted
    exact ⟨last, claimed, hlast, hclaimed, rfl, hattempts⟩

theorem marked_of_marksFailure {op : RelayOp} {attempts : ℕ} (hmarks : MarksFailure op id attempts) :
    marked op = some id := by
  rcases hmarks with ⟨lastError, rfl⟩ | ⟨lastError, backoffMs, rfl⟩ <;> rfl

/-- What can happen to a row: it is left alone, claimed, marked, or released. -/
inductive RowFate (now : Instant) (performed : RelayPerformed) (row later : OutboxRow) : Prop
  | kept (hlater : later = row) (hunclaimed : row.id ∉ claimedIds performed)
  | claimed (relayId : String) (claimTtlMs : Int) (hclaimable : row.Claimable now)
      (hclaimed : row.id ∈ claimedIds performed) (hclaimant : claimant performed = some relayId)
      (hlater : later = row.claimFor ⟨relayId, now + claimTtlMs⟩)
  | marked (hmarked : marked performed.1 = some row.id) (hunclaimed : row.id ∉ claimedIds performed)
      (hreleased : later.claim = none)
  | released (claim : OutboxClaim) (hclaim : row.claim = some claim)
      (hop : performed.1 = .releaseOwnClaims claim.claimedBy)
      (hunclaimed : row.id ∉ claimedIds performed) (hlater : later = row.release)

theorem RowChange.fate {now : Instant} {performed : RelayPerformed} {row later : OutboxRow}
    (hchange : RowChange now performed row later) : RowFate now performed row later := by
  cases hchange with
  | kept hunclaimed => exact .kept rfl hunclaimed
  | claimed hclaimable hrow =>
    exact .claimed _ _ hclaimable (List.mem_map.mpr ⟨row.claimedRow, hrow, rfl⟩) rfl rfl
  | published hpending =>
    exact .marked rfl (not_mem_claimedIds rfl) (by simp [OutboxRow.publish, hpending.2])
  | deadLettered hunpublished =>
    exact .marked rfl (not_mem_claimedIds rfl) (by simp [OutboxRow.deadLetter, hunpublished])
  | retried => exact .marked rfl (not_mem_claimedIds rfl) rfl
  | released hclaim hpending => exact .released _ hclaim rfl (not_mem_claimedIds rfl) rfl

variable {store later : OutboxStore} {op : RelayOp} {oracle : RelayOracle} {answer : op.Answer}
  {row successor : OutboxRow}

/-- The attempts that a row has after an operation of a run that holds what it marks. -/
theorem Held.attempts_le (hheld : Held store.table history)
    (hconduct : Conduct relay (logOf caller history) op)
    (hholds : ∀ id ∈ marked op, Holds claimedIds history caller id) (hrow : row ∈ store.table.rows)
    (hchange : RowChange store.now ⟨op, answer⟩ row successor) : row.attempts ≤ successor.attempts := by
  rcases hchange.attempts with hsame | hmarks
  · exact hsame ▸ le_refl _
  · obtain ⟨last, claimed, hlast, hclaimed, hid, hattempts⟩ := exists_claimed_of_marksFailure hconduct
      hmarks (hholds row.id (marked_of_marksFailure hmarks))
    rw [hattempts]
    exact hheld.attempts row hrow last hlast claimed hclaimed hid

/-- An operation of a run that holds what it marks. -/
theorem Held.perform (hheld : Held store.table history)
    (hconduct : Conduct relay (logOf caller history) op)
    (hholds : ∀ id ∈ marked op, Holds claimedIds history caller id)
    (hanswer : store.performOrFail op oracle = some (later, answer)) :
    Held later.table (⟨caller, op, answer⟩ :: history) := by
  have hchanges := (tableChanges_of_performed hanswer).2
  constructor
  · intro successor hlater claim hclaim
    obtain ⟨row, hrow, hchanged⟩ := hchanges.exists_origin hlater
    rw [hchanged.sameEvent.id]
    cases hchanged.fate with
    | kept hsame hunclaimed =>
      rw [lastClaim_cons_of_not_mem hunclaimed]
      exact hheld.owner row hrow claim (hsame ▸ hclaim)
    | claimed relayId claimTtlMs hclaimable hclaimed hclaimant hsame =>
      subst hsame
      obtain rfl := Option.some.inj hclaim
      exact ⟨_, lastClaim_cons_of_mem hclaimed, hclaimant⟩
    | marked hmarked hunclaimed hreleased => simp [hreleased] at hclaim
    | released own hown hop hunclaimed hsame =>
      subst hsame
      cases hclaim
  · intro successor hlater last hlast claimed hclaimed hid
    obtain ⟨row, hrow, hchanged⟩ := hchanges.exists_origin hlater
    rw [hchanged.sameEvent.id] at hlast hid
    by_cases hclaims : row.id ∈ claimedIds ⟨op, answer⟩
    · rw [lastClaim_cons_of_mem hclaims] at hlast
      obtain rfl := Option.some.inj hlast
      obtain ⟨found, hfound, rfl⟩ := exists_row_of_claimed hanswer hclaimed
      obtain rfl : found = row := store.table.eq_of_key hfound hrow hid
      cases hchanged.fate with
      | claimed relayId claimTtlMs hclaimable _ hclaimant hsame =>
        subst hsame
        exact Nat.le_succ _
      | kept _ hunclaimed => exact absurd hclaims hunclaimed
      | marked _ hunclaimed _ => exact absurd hclaims hunclaimed
      | released _ _ _ hunclaimed _ => exact absurd hclaims hunclaimed
    · rw [lastClaim_cons_of_not_mem hclaims] at hlast
      rcases hchanged.attempts with hsame | hmarks
      · exact hsame ▸ hheld.attempts row hrow last hlast claimed hclaimed hid
      · obtain ⟨held, batch, hheldLast, hbatch, hbatchId, hattempts⟩ :=
          exists_claimed_of_marksFailure hconduct hmarks
            (hholds row.id (marked_of_marksFailure hmarks))
        obtain rfl : last = held := Option.some.inj (hlast.symm.trans hheldLast)
        obtain rfl : batch = claimed := hheld.single last (mem_of_lastClaim hlast).1 batch hbatch
          claimed hclaimed (hbatchId.trans hid.symm)
        exact hattempts.le
  · intro occurrence hoccurrence first hfirst second hsecond hid
    rcases List.mem_cons.mp hoccurrence with rfl | hearlier
    · obtain ⟨row, hrow, rfl⟩ := exists_row_of_claimed hanswer hfirst
      obtain ⟨other, hother, rfl⟩ := exists_row_of_claimed hanswer hsecond
      rw [store.table.eq_of_key hrow hother hid]
    · exact hheld.single occurrence hearlier first hfirst second hsecond hid

/-- An event that is enqueued has no claim and no attempts. -/
theorem Held.turn (hheld : Held store.table history) (tick : OutboxTick) :
    Held (store.turn tick).table history := by
  constructor
  · intro row hrow claim hclaim
    rcases mem_turn hrow with hold | ⟨values, rfl, -⟩
    · exact hheld.owner row hold claim hclaim
    · cases hclaim
  · intro row hrow last hlast claimed hclaimedRow hid
    rcases mem_turn hrow with hold | ⟨values, rfl, hfresh⟩
    · exact hheld.attempts row hold last hlast claimed hclaimedRow hid
    · exact Nat.zero_le _
  · exact hheld.single

end Held

/-! ### Runs -/

section Runs

variable {start : Instant} {c later : RelayConfiguration}
  {event : Event RelayOracle RelayRequest OutboxTick}

/-- The claims of a configuration are those of its history. -/
def HeldBy (c : RelayConfiguration) : Prop :=
  Held c.store.table c.history

theorem heldBy_step (hheld : HeldBy c) (hkeeps : Keeps relayMachine relayContract 0 c)
    (hcondition : MarksHeld c event) (hstep : relayMachine.step c event = some later) :
    HeldBy later := by
  cases hsteps : steps_of_step_eq_some hstep with
  | start request => exact hheld
  | perform hcall hanswer =>
    exact hheld.perform (hkeeps.allowed (Nat.zero_le _) hcall) (hcondition.performed hcall) hanswer
  | end_ hcall => exact hheld
  | turn tick => exact hheld.turn tick

theorem heldBy_of_reaches
    (hreaches : Reaches relayMachine MarksHeld (.initial (emptyOutbox start)) c) :
    HeldBy c ∧ Keeps relayMachine relayContract 0 c := by
  refine hreaches.keeps relay_honours (fun _ _ ↦ trivial) ?_ (fun _ h ↦ absurd h List.not_mem_nil) ?_
  · intro c event later _ hheld hkeeps hcondition hstep
    exact heldBy_step hheld hkeeps hcondition hstep
  · exact ⟨fun _ h ↦ absurd h List.not_mem_nil, fun _ h ↦ absurd h List.not_mem_nil,
      fun _ h ↦ absurd h List.not_mem_nil⟩

/-- A run that has claimed claims no more. -/
theorem not_claims_of_takenOver {caller : ℕ} {relay : OutboxRelay} {op : RelayOp} {id relayId : String}
    {answer : op.Answer} (hconduct : Conduct relay (logOf caller c.history) op)
    (htaken : TakenOver c.history caller relay id) : claimant ⟨op, answer⟩ ≠ some relayId := by
  obtain ⟨⟨performed, hperformed, -⟩, -⟩ := htaken
  cases op with
  | claimBatch other claimTtlMs batchSize =>
    obtain ⟨hempty, -⟩ := hconduct
    rw [hempty] at hperformed
    cases hperformed
  | _ => exact nofun

/-- An operation of a run that holds what it marks respects the claims. -/
theorem HeldBy.fenced_perform (hheld : HeldBy c) {caller : ℕ} {oracle : RelayOracle}
    {request : RelayRequest} {op : RelayOp} {store : OutboxStore} {answer : op.Answer}
    {calls : List (Call RelayOp RelayOp.Answer RelayRequest RelayOutcome)}
    (hasked : c.Asked caller request) (hconduct : Conduct request.relay (logOf caller c.history) op)
    (hholds : ∀ id ∈ marked op, Holds claimedIds c.history caller id)
    (hanswer : c.store.performOrFail op oracle = some (store, answer)) :
    Fenced c (.advance caller oracle) ⟨store, calls, ⟨caller, op, answer⟩ :: c.history⟩ := by
  have hbecame : ∀ row successor, Became c ⟨store, calls, ⟨caller, op, answer⟩ :: c.history⟩ row
      successor → RowChange c.store.now ⟨op, answer⟩ row successor :=
    fun row successor hrow ↦
      (tableChanges_of_performed hanswer).2.of_id_eq hrow.before hrow.after hrow.id
  constructor
  · intro row successor hrow other oracle' asked hevent hother htaken
    obtain ⟨rfl, -⟩ := Event.advance.inj hevent
    obtain rfl := hother.unique hasked
    obtain ⟨-, last, hlast, hclaimant⟩ := id htaken
    cases (hbecame row successor hrow).fate with
    | kept hsame _ => exact hsame ▸ ⟨rfl, rfl, rfl⟩
    | claimed relayId claimTtlMs _ _ hclaims _ =>
      exact absurd hclaims (not_claims_of_takenOver hconduct htaken)
    | marked hmarked _ _ =>
      obtain ⟨own, hown, howner⟩ := claimant_of_marked hconduct hmarked (hholds row.id hmarked)
      obtain rfl : last = own := Option.some.inj (hlast.symm.trans hown)
      exact absurd howner hclaimant
    | released claim hclaim hop _ _ =>
      obtain ⟨own, hown, howner⟩ := hheld.owner row hrow.before claim hclaim
      obtain rfl : last = own := Option.some.inj (hlast.symm.trans hown)
      obtain rfl : op = .releaseOwnClaims claim.claimedBy := hop
      exact absurd (hconduct ▸ howner) hclaimant
  · intro row successor hrow
    exact Held.attempts_le hheld hconduct hholds hrow.before (hbecame row successor hrow)
  · intro row successor hrow claim hclaim hlive
    obtain ⟨own, hown, howner⟩ := hheld.owner row hrow.before claim hclaim
    cases (hbecame row successor hrow).fate with
    | kept hsame _ => exact .inl (hsame ▸ hclaim)
    | claimed relayId claimTtlMs hclaimable _ _ _ =>
      exact absurd hlive (hclaimable.2.2 claim hclaim)
    | marked hmarked _ _ =>
      obtain ⟨last, hlast, hlastOwner⟩ := claimant_of_marked hconduct hmarked (hholds row.id hmarked)
      obtain rfl : own = last := Option.some.inj (hown.symm.trans hlast)
      have hrelay := Option.some.inj (hlastOwner.symm.trans howner)
      exact .inr ⟨caller, oracle, request, rfl, hasked, hrelay⟩
    | released released hreleased hop _ _ =>
      obtain rfl : claim = released := Option.some.inj (hclaim.symm.trans hreleased)
      obtain rfl : op = .releaseOwnClaims claim.claimedBy := hop
      exact .inr ⟨caller, oracle, request, rfl, hasked, hconduct.symm⟩

/-- An event that changes no row respects the claims. -/
theorem fenced_of_kept (hkept : ∀ row successor, Became c later row successor → successor = row) :
    Fenced c event later := by
  constructor
  · intro row successor hrow _ _ _ _ _ _
    exact hkept row successor hrow ▸ ⟨rfl, rfl, rfl⟩
  · intro row successor hrow
    exact hkept row successor hrow ▸ le_refl _
  · intro row successor hrow claim hclaim _
    exact .inl (hkept row successor hrow ▸ hclaim)

/-- In a run in which every row is marked by the run that claimed it last, every event respects the
claims. -/
theorem fenced_of_held
    (hreaches : Reaches relayMachine MarksHeld (.initial (emptyOutbox start)) c)
    (hcondition : MarksHeld c event) (hstep : relayMachine.step c event = some later) :
    Fenced c event later := by
  obtain ⟨hheld, hkeeps⟩ := heldBy_of_reaches hreaches
  have hsame : ∀ row ∈ c.store.table.rows, ∀ successor ∈ c.store.table.rows,
      successor.id = row.id → successor = row :=
    fun row hrow successor hsuccessor hid ↦ c.store.table.eq_of_key hsuccessor hrow hid
  cases hsteps : steps_of_step_eq_some hstep with
  | start request =>
    exact fenced_of_kept fun row successor hrow ↦ hsame row hrow.before successor hrow.after hrow.id
  | perform hcall hanswer =>
    exact hheld.fenced_perform (asked_of_call hcall) (hkeeps.allowed (Nat.zero_le _) hcall)
      (hcondition.performed hcall) hanswer
  | end_ hcall =>
    exact fenced_of_kept fun row successor hrow ↦ hsame row hrow.before successor hrow.after hrow.id
  | turn tick =>
    refine fenced_of_kept fun row successor hrow ↦ ?_
    rcases mem_turn hrow.after with hold | ⟨values, rfl, hfresh⟩
    · exact hsame row hrow.before successor hold hrow.id
    · exact absurd hrow.id.symm (hfresh row hrow.before)

end Runs

/-! ### A claim that is overrun -/

namespace Overrun

open Retry

def other : OutboxRelay := ⟨"worker@host:2", 25, 30000, 1000, 60000⟩

/-- What a publisher that fails answers. -/
def down : RelayOracle := { published := .error (.error "Error" "bus down") }

/-- An event is enqueued and claimed, and its publication fails. -/
def claimed : List (Event RelayOracle RelayRequest OutboxTick) :=
  [.turn (.enqueue event), .start (.run relay), .advance 0 {},
    .advance 0 down]

/-- The relay that claimed it last schedules the retry. -/
theorem fenced_of_held_retry :
    let c := relayMachine.finish MarksHeld (.initial (emptyOutbox 0)) claimed
    Fenced c (.advance 0 {}) (relayMachine.finish (fun _ _ ↦ True) c [.advance 0 {}]) := by
  intro c
  exact fenced_of_held (reaches_finish claimed) (by decide) (step_finish (by decide))

/-- While a relay publishes, its claim expires; another relay takes the row over, fails twice, and claims
it again. Then the first publication fails. -/
def takenOver : List (Event RelayOracle RelayRequest OutboxTick) :=
  [.turn (.enqueue event), .start (.run relay), .advance 0 {},
    .turn (.clock 30001), .start (.run other), .advance 1 {}, .advance 1 down, .advance 1 {},
    .turn (.clock 100000), .start (.run other), .advance 2 {}, .advance 2 down, .advance 2 {},
    .turn (.clock 200000), .start (.run other), .advance 3 {}, .advance 0 down]

/-- The first relay schedules its retry: the attempts go back from two to one, the live claim of the other
relay is cleared, and the row is scheduled anew. -/
theorem stale_failure_unfenced :
    ∃ c event later, Reaches relayMachine (fun _ _ ↦ True) (.initial (emptyOutbox 0)) c ∧
      relayMachine.step c event = some later ∧ ¬ Fenced c event later := by
  refine ⟨relayMachine.finish (fun _ _ ↦ True) (.initial (emptyOutbox 0)) takenOver,
    .advance 0 {}, _, reaches_finish takenOver, step_finish (by decide), fun hfenced ↦ ?_⟩
  have hlost : ∃ row ∈ (relayMachine.finish (fun _ _ ↦ True) (.initial (emptyOutbox 0))
      takenOver).store.table.rows, ∃ successor ∈ (relayMachine.finish (fun _ _ ↦ True)
      (relayMachine.finish (fun _ _ ↦ True) (.initial (emptyOutbox 0)) takenOver)
      [.advance 0 {}]).store.table.rows,
        successor.id = row.id ∧ successor.attempts < row.attempts := by
    decide
  obtain ⟨row, hrow, successor, hsuccessor, hid, hless⟩ := hlost
  exact absurd (hfenced.attempts row successor ⟨hrow, hsuccessor, hid⟩) (not_le.mpr hless)

end Overrun

end Karar.Outbox
