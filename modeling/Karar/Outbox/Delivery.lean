import Karar.Outbox.RowChanges

/-!
# Delivery

What the table says of a row, against what the publisher was given. A row shows at most as many attempts as
have failed, whatever a relay with an old claim has written, because the attempts it writes are those that
its claim returned and the one that it made itself. So no row is dead-lettered early; none is published
before its envelope was; and no row is removed.
-/

namespace Karar.Outbox

open Foundation KeyedTable Machine SharedKernel

/-! ### The publisher's answers -/

/-- The publisher was given the envelope of the row, and threw. -/
def isFailedAttempt (id : String) (occurrence : RelayOccurrence) : Bool :=
  match occurrence.performed with
  | ⟨.publish published _, .error _⟩ => published = id
  | _ => false

def failedAttempts (history : List RelayOccurrence) (id : String) : ℕ :=
  history.countP (isFailedAttempt id)

/-- The publisher was given the envelope, and resolved. -/
def WasPublished (history : List RelayOccurrence) (id envelope : String) : Prop :=
  ∃ occurrence ∈ history, occurrence.performed = ⟨.publish id envelope, .ok ()⟩

/-- The rows account for the answers. -/
structure Accounted (table : OutboxTable) (history : List RelayOccurrence) : Prop where
  attempts : ∀ row ∈ table.rows, row.attempts ≤ failedAttempts history row.id
  published : ∀ row ∈ table.rows, row.publishedAt ≠ none → WasPublished history row.id row.envelope
  deadLettered : ∀ row ∈ table.rows, row.deadLetteredAt ≠ none →
    row.maxAttempts ≤ failedAttempts history row.id
  /-- What a claim has returned was so at the time. -/
  claimed : ∀ newer occurrence older, history = newer ++ occurrence :: older →
    ∀ claimed ∈ claimedRows occurrence.performed, claimed.attempts ≤ failedAttempts older claimed.id ∧
      ∃ row ∈ table.rows, row.id = claimed.id ∧ row.envelope = claimed.envelope ∧
        row.maxAttempts = claimed.maxAttempts

section Accounts

variable {table : OutboxTable} {history : List RelayOccurrence} {id : String} {caller : ℕ}
  {relay : OutboxRelay} {claimed : ClaimedRow}

theorem failedAttempts_cons_le (occurrence : RelayOccurrence) :
    failedAttempts history id ≤ failedAttempts (occurrence :: history) id := by
  unfold failedAttempts
  rw [List.countP_cons]
  exact Nat.le_add_right _ _

theorem WasPublished.cons {envelope : String} (hpublished : WasPublished history id envelope)
    (occurrence : RelayOccurrence) : WasPublished (occurrence :: history) id envelope := by
  obtain ⟨earlier, hearlier, hresolved⟩ := hpublished
  exact ⟨earlier, List.mem_cons_of_mem _ hearlier, hresolved⟩

/-- A claimed row as it was returned, in the table. -/
theorem Accounted.row_of_attempted (haccounted : Accounted table history) {outcome : Except PublishFailure Unit}
    (hattempted : Attempted relay (logOf caller history) claimed outcome) :
    ∃ row ∈ table.rows, row.id = claimed.id ∧ row.envelope = claimed.envelope ∧
      row.maxAttempts = claimed.maxAttempts := by
  obtain ⟨rows, ⟨extra, hlog, -⟩, hclaimed, -⟩ := hattempted
  obtain ⟨newer, older, hhistory, -⟩ := exists_history_of_logOf hlog
  exact (haccounted.claimed newer _ older hhistory claimed hclaimed).2

/-- The attempt of a run failed after its claim, which returned no more attempts than had failed then. -/
theorem Accounted.lt_failedAttempts (haccounted : Accounted table history) {failure : PublishFailure}
    (hattempted : Attempted relay (logOf caller history) claimed (.error failure)) :
    claimed.attempts < failedAttempts history claimed.id := by
  obtain ⟨rows, ⟨extra, hlog, hextra⟩, hclaimed, hfailed⟩ := hattempted
  obtain ⟨newer, older, hhistory, hnothing⟩ := exists_history_of_logOf hlog
  have hnewer : logOf caller newer = extra := by
    rw [hhistory, logOf_append, logOf_cons_self, hnothing] at hlog
    exact List.append_cancel_right hlog
  -- The failure is in the log, and it is not the claim.
  have hafter : ⟨caller, .publish claimed.id claimed.envelope, .error failure⟩ ∈ newer := by
    rw [hlog, List.mem_append, List.mem_singleton] at hfailed
    rcases hfailed with hfailed | hclaim
    · exact mem_logOf.mp (hnewer ▸ hfailed)
    · cases hclaim
  have hone : 0 < newer.countP (isFailedAttempt claimed.id) :=
    List.countP_pos_iff.mpr ⟨_, hafter, by simp [isFailedAttempt]⟩
  have hclaim := (haccounted.claimed newer _ older hhistory claimed hclaimed).1
  have hcons : failedAttempts older claimed.id ≤ failedAttempts (⟨caller,
      .claimBatch relay.relayId relay.claimTtlMs relay.batchSize, rows⟩ :: older) claimed.id :=
    failedAttempts_cons_le _
  rw [hhistory]
  unfold failedAttempts at hclaim hcons ⊢
  rw [List.countP_append]
  omega

/-- A row of the table is the row that a run has attempted under its id. -/
theorem Accounted.eq_of_attempted (haccounted : Accounted table history) {outcome : Except PublishFailure Unit}
    (hattempted : Attempted relay (logOf caller history) claimed outcome) {row : OutboxRow}
    (hrow : row ∈ table.rows) (hid : claimed.id = row.id) :
    row.envelope = claimed.envelope ∧ row.maxAttempts = claimed.maxAttempts := by
  obtain ⟨found, hfound, hfoundId, henvelope, hmax⟩ := haccounted.row_of_attempted hattempted
  obtain rfl : found = row := table.eq_of_key hfound hrow (hfoundId.trans hid)
  exact ⟨henvelope, hmax⟩

/-- The attempts that a mark writes have failed. -/
theorem Accounted.le_failedAttempts (haccounted : Accounted table history) {op : RelayOp} {attempts : ℕ}
    (hconduct : Conduct relay (logOf caller history) op) (hmarks : MarksFailure op id attempts) :
    attempts ≤ failedAttempts history id := by
  rcases hmarks with ⟨lastError, rfl⟩ | ⟨lastError, backoffMs, rfl⟩
  · obtain ⟨claimed, failure, rfl, rfl, -, hattempted⟩ := hconduct
    exact haccounted.lt_failedAttempts hattempted
  · obtain ⟨claimed, failure, rfl, rfl, hattempted⟩ := hconduct
    exact haccounted.lt_failedAttempts hattempted

/-- The invariant passes from one table to the next, whose rows come from old ones. -/
theorem Accounted.mono_table {later : OutboxTable} (haccounted : Accounted table history)
    (horigin : ∀ row ∈ later.rows, row ∈ table.rows ∨ ∃ values : NewOutboxRow, ∃ now,
      row = values.row now)
    (hkept : ∀ row ∈ table.rows, row ∈ later.rows) : Accounted later history := by
  constructor
  · intro row hrow
    rcases horigin row hrow with hold | ⟨values, now, rfl⟩
    · exact haccounted.attempts row hold
    · exact Nat.zero_le _
  · intro row hrow hpublished
    rcases horigin row hrow with hold | ⟨values, now, rfl⟩
    · exact haccounted.published row hold hpublished
    · exact absurd rfl hpublished
  · intro row hrow hdead
    rcases horigin row hrow with hold | ⟨values, now, rfl⟩
    · exact haccounted.deadLettered row hold hdead
    · exact absurd rfl hdead
  · intro newer occurrence older hhistory claimed hclaimed
    obtain ⟨hattempts, row, hrow, hsame⟩ :=
      haccounted.claimed newer occurrence older hhistory claimed hclaimed
    exact ⟨hattempts, row, hkept row hrow, hsame⟩

variable {store later : OutboxStore} {op : RelayOp} {oracle : RelayOracle} {answer : op.Answer}

/-- An operation of a run that keeps the contract. -/
theorem Accounted.perform (haccounted : Accounted store.table history)
    (hconduct : Conduct relay (logOf caller history) op)
    (hanswer : store.performOrFail op oracle = some (later, answer)) :
    Accounted later.table (⟨caller, op, answer⟩ :: history) := by
  have hchanges := (tableChanges_of_performed hanswer).2
  constructor
  · intro successor hlater
    obtain ⟨row, hrow, hchanged⟩ := hchanges.exists_origin hlater
    rw [hchanged.sameEvent.id]
    refine le_trans ?_ (failedAttempts_cons_le _)
    rcases hchanged.attempts with hsame | hmarks
    · exact hsame ▸ haccounted.attempts row hrow
    · exact haccounted.le_failedAttempts hconduct hmarks
  · intro successor hlater hpublished
    obtain ⟨row, hrow, hchanged⟩ := hchanges.exists_origin hlater
    rw [hchanged.sameEvent.id, hchanged.sameEvent.envelope]
    refine WasPublished.cons ?_ _
    rcases hchanged.publishedAt with hsame | rfl
    · exact haccounted.published row hrow (hsame ▸ hpublished)
    · obtain ⟨claimed, hid, hattempted⟩ := hconduct
      have henvelope := (haccounted.eq_of_attempted hattempted hrow hid).1
      obtain ⟨-, -, -, hresolved⟩ := hattempted
      rw [hid, ← henvelope] at hresolved
      exact ⟨_, mem_logOf.mp hresolved, rfl⟩
  · intro successor hlater hdead
    obtain ⟨row, hrow, hchanged⟩ := hchanges.exists_origin hlater
    rw [hchanged.sameEvent.id, hchanged.sameEvent.maxAttempts]
    refine le_trans ?_ (failedAttempts_cons_le _)
    rcases hchanged.deadLetteredAt with hsame | ⟨attempts, lastError, rfl⟩
    · exact haccounted.deadLettered row hrow (hsame ▸ hdead)
    · have hfailed := haccounted.le_failedAttempts hconduct (.inl ⟨lastError, rfl⟩)
      obtain ⟨claimed, failure, hid, -, hexhausted, hattempted⟩ := hconduct
      have hmax := (haccounted.eq_of_attempted hattempted hrow hid).2
      omega
  · intro newer occurrence older hhistory claimed hclaimed
    cases newer with
    | nil =>
      obtain ⟨rfl, rfl⟩ := List.cons.inj hhistory
      obtain ⟨row, hrow, rfl⟩ := exists_row_of_claimed hanswer hclaimed
      refine ⟨haccounted.attempts row hrow, ?_⟩
      obtain ⟨successor, hlater, hsame⟩ := hchanges.exists_successor hrow
      exact ⟨successor, hlater, hsame.id, hsame.envelope, hsame.maxAttempts⟩
    | cons newest newer =>
      obtain ⟨hattempts, row, hrow, hid, henvelope, hmax⟩ :=
        haccounted.claimed newer occurrence older (List.cons.inj hhistory).2 claimed hclaimed
      obtain ⟨successor, hlater, hsame⟩ := hchanges.exists_successor hrow
      exact ⟨hattempts, successor, hlater, hsame.id.trans hid, hsame.envelope.trans henvelope,
        hsame.maxAttempts.trans hmax⟩

end Accounts

/-! ### Runs -/

section Runs

variable {start : Instant} {c later : RelayConfiguration}

/-- The store of a configuration accounts for its history. -/
def AccountedFor (c : RelayConfiguration) : Prop :=
  Accounted c.store.table c.history

theorem accountedFor_step {event : Event RelayOracle RelayRequest OutboxTick}
    (haccounted : AccountedFor c) (hkeeps : Keeps relayMachine relayContract 0 c)
    (hstep : relayMachine.step c event = some later) : AccountedFor later := by
  cases steps_of_step_eq_some hstep with
  | start request => exact haccounted
  | perform hcall hanswer => exact haccounted.perform (hkeeps.allowed (Nat.zero_le _) hcall) hanswer
  | end_ hcall => exact haccounted
  | turn tick =>
    refine haccounted.mono_table (fun row hrow ↦ ?_) fun row ↦ mem_turn_of_mem
    exact (mem_turn hrow).imp_right fun ⟨values, hvalues, _⟩ ↦ ⟨values, c.store.now, hvalues⟩

theorem accountedFor_of_reaches
    (hreaches : Reaches relayMachine (fun _ _ ↦ True) (.initial (emptyOutbox start)) c) :
    AccountedFor c := by
  refine (hreaches.keeps relay_honours (fun _ _ ↦ trivial) ?_ (fun _ h ↦ absurd h List.not_mem_nil)
    ?_).1
  · intro c event later _ haccounted hkeeps _ hstep
    exact accountedFor_step haccounted hkeeps hstep
  · refine ⟨fun _ h ↦ absurd h List.not_mem_nil, fun _ h ↦ absurd h List.not_mem_nil,
      fun _ h ↦ absurd h List.not_mem_nil, ?_⟩
    intro newer occurrence older hhistory
    exact absurd hhistory.symm (List.append_ne_nil_of_right_ne_nil _ (List.cons_ne_nil _ _))

/-- No row is removed, and its event stays what it was. -/
theorem exists_successor
    (hreaches : Reaches relayMachine (fun _ _ ↦ True) c later) {row : OutboxRow}
    (hrow : row ∈ c.store.table.rows) : ∃ successor ∈ later.store.table.rows, SameEvent row successor := by
  induction hreaches with
  | refl => exact ⟨row, hrow, .refl row⟩
  | step _ _ hstep ih =>
    obtain ⟨middle, hmiddle, hsame⟩ := ih
    cases steps_of_step_eq_some hstep with
    | start request => exact ⟨middle, hmiddle, hsame⟩
    | end_ hcall => exact ⟨middle, hmiddle, hsame⟩
    | perform hcall hanswer =>
      obtain ⟨successor, hlater, hnext⟩ :=
        (tableChanges_of_performed hanswer).2.exists_successor hmiddle
      exact ⟨successor, hlater, hsame.trans hnext⟩
    | turn tick => exact ⟨middle, mem_turn_of_mem hmiddle, hsame⟩

/-- A relay has a claim of the row that has not expired. -/
def OutboxRow.Claimed (row : OutboxRow) (now : Instant) : Prop :=
  ∃ claim ∈ row.claim, claim.Live now

instance (row : OutboxRow) (now : Instant) : Decidable (row.Claimed now) :=
  inferInstanceAs (Decidable (∃ claim ∈ row.claim, claim.Live now))

/-- The row is scheduled for later, and nobody has claimed it. -/
def OutboxRow.Waiting (row : OutboxRow) (now : Instant) : Prop :=
  row.Pending ∧ now < row.availableAt ∧ ¬ row.Claimed now

theorem OutboxRow.state (row : OutboxRow) (now : Instant) :
    row.Claimable now ∨ row.Claimed now ∨ row.publishedAt ≠ none ∨ row.deadLetteredAt ≠ none ∨
      row.Waiting now := by
  by_cases hpending : row.Pending
  · by_cases hclaimed : row.Claimed now
    · exact .inr (.inl hclaimed)
    · by_cases havailable : row.availableAt ≤ now
      · exact .inl ⟨hpending, havailable, fun claim hclaim hlive ↦ hclaimed ⟨claim, hclaim, hlive⟩⟩
      · exact .inr (.inr (.inr (.inr ⟨hpending, not_le.mp havailable, hclaimed⟩)))
  · rw [OutboxRow.Pending, not_and_or] at hpending
    exact .inr (.inr (hpending.imp_right .inl))

/-- A pending row becomes claimable once it is available and its claim has expired. -/
theorem OutboxRow.Pending.claimable {row : OutboxRow} (hpending : row.Pending) :
    ∃ instant, ∀ time, instant ≤ time → row.Claimable time := by
  cases hclaim : row.claim with
  | none => exact ⟨row.availableAt, fun time htime ↦ ⟨hpending, htime, by simp [hclaim]⟩⟩
  | some claim =>
    refine ⟨max row.availableAt (claim.claimExpiresAt + 1), fun time htime ↦ ⟨hpending, ?_, ?_⟩⟩
    · exact (le_max_left _ _).trans htime
    · intro held hheld hlive
      obtain rfl : claim = held := Option.some.inj (hclaim.symm.trans (Option.mem_def.mp hheld))
      have hexpired : claim.claimExpiresAt < time :=
        Int.lt_of_add_one_le ((le_max_right _ _).trans htime)
      exact absurd hlive (not_le.mpr hexpired)

/-- Whatever the relays do and whenever they end: a row is published after its envelope was, dead-lettered
after as many failures as it allows, and never both; and it stays in the table, where it is claimable,
claimed, terminal, or waiting for its retry. -/
theorem outbox_safe
    (hreaches : Reaches relayMachine (fun _ _ ↦ True) (.initial (emptyOutbox start)) c) :
    (∀ row ∈ c.store.table.rows,
      (row.publishedAt ≠ none → WasPublished c.history row.id row.envelope) ∧
      (row.deadLetteredAt ≠ none → row.maxAttempts ≤ failedAttempts c.history row.id) ∧
      ¬ (row.publishedAt ≠ none ∧ row.deadLetteredAt ≠ none) ∧
      (row.Claimable c.store.now ∨ row.Claimed c.store.now ∨ row.publishedAt ≠ none ∨
        row.deadLetteredAt ≠ none ∨ row.Waiting c.store.now) ∧
      (row.Pending → ∃ instant, ∀ time, instant ≤ time → row.Claimable time)) ∧
    ∀ later, Reaches relayMachine (fun _ _ ↦ True) c later → ∀ row ∈ c.store.table.rows,
      ∃ successor ∈ later.store.table.rows, SameEvent row successor := by
  have haccounted : Accounted c.store.table c.history := accountedFor_of_reaches hreaches
  refine ⟨fun row hrow ↦ ⟨haccounted.published row hrow, haccounted.deadLettered row hrow, ?_,
    row.state c.store.now, OutboxRow.Pending.claimable⟩, fun later hlater row ↦ exists_successor hlater⟩
  rintro ⟨hpublished, hdead⟩
  exact row.terminal.elim hpublished hdead

end Runs

/-! ### A retry -/

namespace Retry

def relay : OutboxRelay := ⟨"worker@host:1", 25, 30000, 1000, 60000⟩

def event : NewOutboxRow := { id := "event", envelope := "envelope" }

/-- An event is enqueued and claimed, its publication fails, and it is scheduled for a retry. -/
def events : List (Event RelayOracle RelayRequest OutboxTick) :=
  [.turn (.enqueue event), .start (.run relay), .advance 0 {},
    .advance 0 { published := .error (.error "Error" "bus down") }, .advance 0 {}]

theorem outbox_safe_retry :
    let c := relayMachine.finish (fun _ _ ↦ True) (.initial (emptyOutbox 0)) events
    ∀ row ∈ c.store.table.rows, row.Claimable c.store.now ∨ row.Claimed c.store.now ∨
      row.publishedAt ≠ none ∨ row.deadLetteredAt ≠ none ∨ row.Waiting c.store.now := by
  intro c row hrow
  exact ((outbox_safe (reaches_finish events)).1 row hrow).2.2.2.1

/-- The row waits: no relay may claim it, none has, and it is neither published nor dead-lettered. -/
theorem waits_for_retry :
    ∃ c, Reaches relayMachine (fun _ _ ↦ True) (.initial (emptyOutbox 0)) c ∧
      ∃ row ∈ c.store.table.rows, ¬ (row.Claimable c.store.now ∨ row.Claimed c.store.now ∨
        row.publishedAt ≠ none ∨ row.deadLetteredAt ≠ none) := by
  refine ⟨relayMachine.finish (fun _ _ ↦ True) (.initial (emptyOutbox 0)) events,
    reaches_finish events, ?_⟩
  decide

end Retry

end Karar.Outbox
