import Karar.Outbox.Delivery

/-!
# Order within an aggregate

A claim takes the rows that have arrived first, and knows no aggregates. It passes over an event that is
scheduled for a retry or that another relay has claimed, and a batch goes on after an event that has
failed; either way a later event of the same aggregate is published first (`second_overtakes_first`).
`published_inOrder` is what holds of the runs in which neither happens within an aggregate.
-/

namespace Karar.Outbox

open Foundation KeyedTable Machine SharedKernel

/-! ### One before another -/

section Before

variable {ids : List String} {first second : String}

def Before (ids : List String) (first second : String) : Prop :=
  [first, second].Sublist ids

instance (ids : List String) (first second : String) : Decidable (Before ids first second) :=
  inferInstanceAs (Decidable (List.Sublist _ _))

theorem before_of_mem {ahead behind : List String} (hfirst : first ∈ ahead) :
    Before (ahead ++ second :: behind) first second := by
  have hsecond : [second].Sublist (second :: behind) :=
    List.singleton_sublist.mpr List.mem_cons_self
  exact (List.singleton_sublist.mpr hfirst).append hsecond

/-- Assumes: nothing occurs twice. -/
theorem mem_of_before {ahead behind : List String} (hnodup : (ahead ++ second :: behind).Nodup)
    (hbefore : Before (ahead ++ second :: behind) first second) : first ∈ ahead := by
  induction ahead with
  | nil =>
    have hfresh : second ∉ behind := (List.nodup_cons.mp hnodup).1
    cases hbefore with
    | cons _ hbehind => exact absurd (hbehind.subset (by simp)) hfresh
    | cons_cons _ hbehind => exact absurd (hbehind.subset (by simp)) hfresh
  | cons head ahead ih =>
    cases hbefore with
    | cons _ hrest => exact List.mem_cons_of_mem _ (ih (List.nodup_cons.mp hnodup).2 hrest)
    | cons_cons _ _ => exact List.mem_cons_self

/-- What is appended does not come before what was there. -/
theorem before_of_append {extra : List String} (hnodup : (ids ++ extra).Nodup)
    (hsecond : second ∈ ids) (hbefore : Before (ids ++ extra) first second) :
    Before ids first second := by
  obtain ⟨ahead, behind, rfl⟩ := List.append_of_mem hsecond
  rw [List.append_assoc, List.cons_append] at hnodup hbefore
  exact before_of_mem (mem_of_before hnodup hbefore)

end Before

/-! ### The order of events -/

def eventIds (table : OutboxTable) : List String :=
  table.rows.map (·.id)

/-- The first event was enqueued before the second. -/
def EnqueuedBefore (table : OutboxTable) (first second : String) : Prop :=
  Before (eventIds table) first second

instance (table : OutboxTable) (first second : String) :
    Decidable (EnqueuedBefore table first second) :=
  inferInstanceAs (Decidable (Before _ _ _))

/-- The event that an operation published. -/
def publication : RelayPerformed → Option String
  | ⟨.publish id _, .ok _⟩ => some id
  | _ => none

/-- The event that an operation published or dead-lettered. -/
def settled : RelayPerformed → Option String
  | ⟨.publish id _, .ok _⟩ => some id
  | ⟨.deadLetter id _ _, _⟩ => some id
  | _ => none

/-- The event has been published or dead-lettered. -/
def Settled (history : List RelayOccurrence) (id : String) : Prop :=
  ∃ occurrence ∈ history, settled occurrence.performed = some id

instance (history : List RelayOccurrence) (id : String) : Decidable (Settled history id) :=
  inferInstanceAs (Decidable (∃ occurrence ∈ history, settled occurrence.performed = some id))

section Order

variable {Aggregate : Type} (aggregate : String → Aggregate)

/-- No event was published for the first time before every earlier event of its aggregate was published
or dead-lettered. -/
def InOrder (c : RelayConfiguration) : Prop :=
  ∀ recent occurrence past, c.history = recent ++ occurrence :: past →
    ∀ id ∈ publication occurrence.performed,
      (∀ other ∈ past, publication other.performed ≠ some id) →
        ∀ earlier, EnqueuedBefore c.store.table earlier id → aggregate earlier = aggregate id →
          Settled past earlier

/-! ### The condition -/

/-- The events that a run has claimed, in the order in which it publishes them. -/
def batchOf (log : List RelayPerformed) : List String :=
  log.flatMap claimedIds

/-- Ahead of every event of a batch are the earlier events of its aggregate that are not settled. -/
def ClaimsInOrder (table : OutboxTable) (history : List RelayOccurrence) (batch : List String) : Prop :=
  ∀ id ∈ batch, ∀ earlier ∈ eventIds table, EnqueuedBefore table earlier id →
    aggregate earlier = aggregate id → Settled history earlier ∨ Before batch earlier id

/-- An event that is not settled has no later event of its aggregate behind it in its batch. -/
def LeavesNoneBehind (table : OutboxTable) (history : List RelayOccurrence) (batch : List String)
    (id : String) : Prop :=
  ∀ later ∈ batch, EnqueuedBefore table id later → aggregate id = aggregate later →
    Before batch id later → Settled history id

def PerformsInOrder (c : RelayConfiguration) (caller : ℕ) (oracle : RelayOracle) : RelayOp → Prop
  | .claimBatch relayId claimTtlMs batchSize =>
    ∀ answered ∈ c.store.performOrFail (.claimBatch relayId claimTtlMs batchSize) oracle,
      ClaimsInOrder aggregate c.store.table c.history
        (claimedIds ⟨.claimBatch relayId claimTtlMs batchSize, answered.2⟩)
  | .scheduleRetry id _ _ _ =>
    LeavesNoneBehind aggregate c.store.table c.history (batchOf (logOf caller c.history)) id
  | _ => True

/-- A claim passes over no event that a later one of its aggregate has to wait for, and no retry leaves
such an event behind in its batch. -/
def KeepsOrder (c : RelayConfiguration) : Event RelayOracle RelayRequest OutboxTick → Prop
  | .advance caller oracle => ∀ asked ∈ c.next caller,
      PerformsInOrder aggregate c caller oracle asked.2
  | _ => True

instance [DecidableEq Aggregate] (table : OutboxTable) (history : List RelayOccurrence)
    (batch : List String) : Decidable (ClaimsInOrder aggregate table history batch) :=
  inferInstanceAs (Decidable (∀ id ∈ batch, ∀ earlier ∈ eventIds table,
    EnqueuedBefore table earlier id → aggregate earlier = aggregate id →
      Settled history earlier ∨ Before batch earlier id))

instance [DecidableEq Aggregate] (table : OutboxTable) (history : List RelayOccurrence)
    (batch : List String) (id : String) :
    Decidable (LeavesNoneBehind aggregate table history batch id) :=
  inferInstanceAs (Decidable (∀ later ∈ batch, EnqueuedBefore table id later →
    aggregate id = aggregate later → Before batch id later → Settled history id))

instance [DecidableEq Aggregate] (c : RelayConfiguration) (caller : ℕ) (oracle : RelayOracle)
    (op : RelayOp) : Decidable (PerformsInOrder aggregate c caller oracle op) :=
  match op with
  | .claimBatch relayId claimTtlMs batchSize =>
    inferInstanceAs (Decidable (∀ answered ∈
      c.store.performOrFail (.claimBatch relayId claimTtlMs batchSize) oracle,
        ClaimsInOrder aggregate c.store.table c.history
          (claimedIds ⟨.claimBatch relayId claimTtlMs batchSize, answered.2⟩)))
  | .scheduleRetry id _ _ _ =>
    inferInstanceAs (Decidable (LeavesNoneBehind aggregate c.store.table c.history
      (batchOf (logOf caller c.history)) id))
  | .publish _ _ => isTrue trivial
  | .markPublished _ => isTrue trivial
  | .deadLetter _ _ _ => isTrue trivial
  | .stopping => isTrue trivial
  | .releaseOwnClaims _ => isTrue trivial
  | .lag => isTrue trivial

instance [DecidableEq Aggregate] (c : RelayConfiguration)
    (event : Event RelayOracle RelayRequest OutboxTick) : Decidable (KeepsOrder aggregate c event) :=
  match event with
  | .advance caller oracle =>
    inferInstanceAs (Decidable (∀ asked ∈ c.next caller,
      PerformsInOrder aggregate c caller oracle asked.2))
  | .start _ => isTrue trivial
  | .fail _ => isTrue trivial
  | .turn _ => isTrue trivial

end Order

/-! ### The conduct of a run -/

section Conduct

variable {relay : OutboxRelay} {rows : List ClaimedRow} {row : ClaimedRow} {log : List RelayPerformed}

/-- The event that an operation settled or scheduled for a retry. -/
def handled : RelayPerformed → Option String
  | ⟨.scheduleRetry id _ _ _, _⟩ => some id
  | performed => settled performed

/-- The run is done with the event. -/
def Handled (log : List RelayPerformed) (id : String) : Prop :=
  ∃ performed ∈ log, handled performed = some id

theorem Handled.cons {id : String} (hhandled : Handled log id) (performed : RelayPerformed) :
    Handled (performed :: log) id := by
  obtain ⟨earlier, hearlier, hid⟩ := hhandled
  exact ⟨earlier, List.mem_cons_of_mem _ hearlier, hid⟩

theorem Began.batchOf (hbegan : Began relay rows log) : batchOf log = rows.map (·.id) := by
  obtain ⟨extra, rfl, hextra⟩ := hbegan
  have hnone : extra.flatMap claimedIds = [] :=
    List.flatMap_eq_nil_iff.mpr fun performed hperformed ↦ by
      simp [claimedIds, hextra performed hperformed]
  unfold Outbox.batchOf
  rw [List.flatMap_append, hnone]
  simp [claimedIds, claimedRows]

/-- A run publishes its batch in order: it is done with what is ahead. -/
def Proceeds (relay : OutboxRelay) (log : List RelayPerformed) : RelayOp → Prop
  | .publish id _ => ∃ rows ahead behind, Began relay rows log ∧
      rows.map (·.id) = ahead ++ id :: behind ∧ ∀ earlier ∈ ahead, Handled log earlier
  | .scheduleRetry id _ _ _ => ∃ rows, Began relay rows log ∧ id ∈ rows.map (·.id)
  | _ => True

def orderContract :
    Machine.Contract RelayOp RelayOp.Answer OutboxStore RelayRequest RelayOutcome where
  invariant _ := True
  allowed request := Proceeds request.relay
  post _ _ _ := True

/-- A part of a run that ends with events handled. -/
abbrev Handles (relay : OutboxRelay) (rows : List ClaimedRow) (ids : List String)
    (log : List RelayPerformed) {Result : Type} (step : RelayStep Result) : Prop :=
  Safe OutboxStore.performOrFail (fun _ ↦ True) (Proceeds relay)
    (fun later _ ↦ Began relay rows later ∧ ∀ id ∈ ids, Handled later id) log step

variable {ahead : List String}

theorem markFailed_handles {failure : PublishFailure} (hbegan : Began relay rows log)
    (hrow : row ∈ rows) (hahead : ∀ id ∈ ahead, Handled log id) :
    Handles relay rows (ahead ++ [row.id]) log (relay.markFailed row failure) := by
  -- The operation handles the row, and what was handled stays so.
  have hdone : ∀ performed : RelayPerformed, handled performed = some row.id →
      ∀ id ∈ ahead ++ [row.id], Handled (performed :: log) id := by
    intro performed hperformed id hid
    rcases List.mem_append.mp hid with hearlier | hlast
    · exact (hahead id hearlier).cons performed
    · obtain rfl := List.mem_singleton.mp hlast
      exact ⟨performed, List.mem_cons_self, hperformed⟩
  unfold OutboxRelay.markFailed
  refine safe_ite (fun _ ↦ ?_) fun _ ↦ ?_
  · exact safe_any_bind trivial fun _ ↦ ⟨hbegan.cons rfl, hdone _ rfl⟩
  · refine safe_any_bind ⟨rows, hbegan, List.mem_map_of_mem hrow⟩ fun _ ↦ ?_
    exact ⟨hbegan.cons rfl, hdone _ rfl⟩

theorem publishOne_handles {behind : List ClaimedRow} (hbegan : Began relay rows log)
    (hrows : rows.map (·.id) = ahead ++ row.id :: behind.map (·.id)) (hrow : row ∈ rows)
    (hahead : ∀ id ∈ ahead, Handled log id) :
    Handles relay rows (ahead ++ [row.id]) log (relay.publishOne row) := by
  unfold OutboxRelay.publishOne
  refine safe_any_bind ⟨rows, ahead, _, hbegan, hrows, hahead⟩ fun outcome ↦ ?_
  have hpublished : Began relay rows (⟨.publish row.id row.envelope, outcome⟩ :: log) :=
    hbegan.cons rfl
  cases outcome with
  | error failure =>
    exact markFailed_handles hpublished hrow fun id hid ↦ (hahead id hid).cons _
  | ok =>
    refine safe_any_bind trivial fun _ ↦ ⟨hpublished.cons rfl, fun id hid ↦ ?_⟩
    rcases List.mem_append.mp hid with hearlier | hlast
    · exact ((hahead id hearlier).cons _).cons _
    · obtain rfl := List.mem_singleton.mp hlast
      exact Handled.cons ⟨_, List.mem_cons_self, rfl⟩ _

theorem publishEach_handles {rest : List ClaimedRow} (hbegan : Began relay rows log)
    (hrows : rows.map (·.id) = ahead ++ rest.map (·.id)) (hrest : ∀ row ∈ rest, row ∈ rows)
    (hahead : ∀ id ∈ ahead, Handled log id) (report : RelayRunReport) :
    Handles relay rows [] log (relay.publishEach rest report) := by
  induction rest generalizing log ahead report with
  | nil => exact ⟨hbegan, by simp⟩
  | cons row rest ih =>
    unfold OutboxRelay.publishEach
    refine safe_bind_of (publishOne_handles hbegan hrows (hrest row List.mem_cons_self) hahead) ?_
    rintro later outcome ⟨hlater, hdone⟩
    refine safe_any_bind trivial fun stopping ↦ ?_
    have hstill : Began relay rows (⟨.stopping, stopping⟩ :: later) := hlater.cons rfl
    refine safe_ite (fun _ ↦ ?_) fun _ ↦ ?_
    · exact safe_any_bind trivial fun _ ↦ ⟨hstill.cons rfl, by simp⟩
    · have hsplit : rows.map (·.id) = (ahead ++ [row.id]) ++ rest.map (·.id) := by
        rw [hrows, List.map_cons, List.append_assoc, List.singleton_append]
      exact ih hstill hsplit (fun row hrow ↦ hrest row (List.mem_cons_of_mem _ hrow))
        (fun id hid ↦ (hdone id hid).cons _) _

theorem relay_proceeds (request : RelayRequest) : relayMachine.Honours orderContract request := by
  cases request with
  | stop relay => exact safe_any_bind trivial fun _ ↦ trivial
  | run relay =>
    show Safe _ _ (Proceeds relay) _ _ (relay.runOnce >>= fun report ↦ pure (RelayOutcome.ran report))
    refine safe_bind ?_
    unfold OutboxRelay.runOnce
    refine safe_any_bind trivial fun rows ↦ ?_
    have hsplit : rows.map (·.id) = [] ++ rows.map (·.id) := (List.nil_append _).symm
    refine safe_bind_of (publishEach_handles (began_claimed relay rows) hsplit (fun _ ↦ id)
      (by simp) _) ?_
    intro later report _
    exact safe_any_bind trivial fun _ ↦ trivial

end Conduct

/-! ### Runs -/

section Runs

variable {start : Instant} {c later : RelayConfiguration}

/-- A claim returns a row once. -/
theorem nodup_claimedIds {store next : OutboxStore} {op : RelayOp} {oracle : RelayOracle}
    {answer : op.Answer} (hanswer : store.performOrFail op oracle = some (next, answer)) :
    (claimedIds ⟨op, answer⟩).Nodup := by
  cases op with
  | claimBatch relayId claimTtlMs batchSize =>
    obtain ⟨-, rfl⟩ := Prod.mk.inj (Option.some.inj (perform_of_performOrFail hanswer))
    have hpicked : ((store.table.pick store.now oracle.locked batchSize.toNat).map (·.id)).Nodup := by
      refine List.Nodup.sublist ((List.take_sublist _ _).map _) ?_
      refine ((List.perm_insertionSort _ _).map _).nodup_iff.mpr ?_
      exact store.table.keys_nodup.sublist (List.filter_sublist.map _)
    refine ((oracle.returned_perm _).map _).nodup_iff.mpr ?_
    rw [List.map_map]
    exact hpicked
  | _ => exact List.nodup_nil

/-- Events are only added, behind the others. -/
theorem eventIds_of_reaches {condition : RelayConfiguration →
      Event RelayOracle RelayRequest OutboxTick → Prop}
    (hreaches : Reaches relayMachine condition c later) :
    ∃ extra, eventIds later.store.table = eventIds c.store.table ++ extra := by
  induction hreaches with
  | refl => exact ⟨[], (List.append_nil _).symm⟩
  | @step middle next event _ _ hstep ih =>
    obtain ⟨extra, hids⟩ := ih
    cases steps_of_step_eq_some hstep with
    | start request => exact ⟨extra, hids⟩
    | end_ hcall => exact ⟨extra, hids⟩
    | perform hcall hanswer =>
      refine ⟨extra, Eq.trans ?_ hids⟩
      obtain ⟨change, hrows, hchange⟩ := (tableChanges_of_performed hanswer).2
      unfold eventIds
      rw [hrows, List.map_map]
      exact List.map_congr_left fun row hrow ↦ (hchange row hrow).sameEvent.id
    | turn tick =>
      cases tick with
      | clock now => exact ⟨extra, hids⟩
      | enqueue values =>
        cases hinsert : middle.store.table.insert values middle.store.now with
        | none => exact ⟨extra, by simpa [relayMachine, OutboxStore.turn, hinsert] using hids⟩
        | some table =>
          refine ⟨extra ++ [values.id], ?_⟩
          have hrows := rows_of_insert hinsert
          rw [← List.append_assoc, ← hids]
          simp [relayMachine, OutboxStore.turn, hinsert, eventIds, hrows, NewOutboxRow.row]

/-- What was enqueued before an event that a run has claimed was there when it did. -/
theorem EnqueuedBefore.of_reaches {condition : RelayConfiguration →
      Event RelayOracle RelayRequest OutboxTick → Prop} {first second : String}
    (hbefore : EnqueuedBefore later.store.table first second)
    (hreaches : Reaches relayMachine condition c later)
    (hsecond : second ∈ eventIds c.store.table) : EnqueuedBefore c.store.table first second := by
  obtain ⟨extra, hids⟩ := eventIds_of_reaches hreaches
  have hnodup : (eventIds c.store.table ++ extra).Nodup := hids ▸ later.store.table.keys_nodup
  unfold EnqueuedBefore at hbefore
  rw [hids] at hbefore
  exact before_of_append hnodup hsecond hbefore

theorem Settled.append {history : List RelayOccurrence} {id : String}
    (hsettled : Settled history id) (recent : List RelayOccurrence) : Settled (recent ++ history) id := by
  obtain ⟨occurrence, hoccurrence, hid⟩ := hsettled
  exact ⟨occurrence, List.mem_append_right _ hoccurrence, hid⟩

theorem handled_eq_some {performed : RelayPerformed} {id : String}
    (hhandled : handled performed = some id) : settled performed = some id ∨
      ∃ attempts lastError backoffMs, performed = ⟨.scheduleRetry id attempts lastError backoffMs, ()⟩ := by
  unfold handled at hhandled
  split at hhandled
  · obtain rfl := Option.some.inj hhandled
    exact .inr ⟨_, _, _, rfl⟩
  · exact .inl hhandled

/-- A run claims one batch. -/
theorem Began.unique {relay other : OutboxRelay} {rows batch : List ClaimedRow}
    {recent log : List RelayPerformed} (hlater : Began relay rows (recent ++ log))
    (hbegan : Began other batch log) : rows = batch := by
  obtain ⟨extra, hlog, -⟩ := hlater
  obtain ⟨earlier, rfl, -⟩ := hbegan
  have hlast := congrArg List.getLast? hlog
  rw [← List.append_assoc, List.getLast?_concat, List.getLast?_concat, Option.some.injEq] at hlast
  exact (congrArg claimedRows hlast).symm

/-- What a run has claimed is in the table. -/
theorem mem_eventIds_of_began {condition : RelayConfiguration →
      Event RelayOracle RelayRequest OutboxTick → Prop}
    (hreaches : Reaches relayMachine condition (.initial (emptyOutbox start)) c) {caller : ℕ}
    {relay : OutboxRelay} {rows : List ClaimedRow} {id : String}
    (hbegan : Began relay rows (logOf caller c.history)) (hclaimed : id ∈ rows.map (·.id)) :
    id ∈ eventIds c.store.table := by
  obtain ⟨claimed, hrow, rfl⟩ := List.mem_map.mp hclaimed
  have haccounted : Accounted c.store.table c.history :=
    accountedFor_of_reaches (hreaches.mono fun _ _ _ ↦ trivial)
  obtain ⟨extra, hlog, -⟩ := hbegan
  obtain ⟨recent, past, hpast, -⟩ := exists_history_of_logOf hlog
  obtain ⟨-, row, hfound, hid, -⟩ := haccounted.claimed recent _ past hpast claimed hrow
  exact hid ▸ List.mem_map_of_mem hfound

variable {Aggregate : Type} {aggregate : String → Aggregate}

/-- The claim of a batch in a run that keeps the order. -/
theorem claimsInOrder_of_began
    (hreaches : Reaches relayMachine (KeepsOrder aggregate) (.initial (emptyOutbox start)) c)
    {caller : ℕ} {relay : OutboxRelay} {rows : List ClaimedRow} {id earlier : String}
    (hbegan : Began relay rows (logOf caller c.history)) (hclaimed : id ∈ rows.map (·.id))
    (henqueued : EnqueuedBefore c.store.table earlier id) (hsame : aggregate earlier = aggregate id) :
    (rows.map (·.id)).Nodup ∧ (Settled c.history earlier ∨ Before (rows.map (·.id)) earlier id) := by
  obtain ⟨extra, hlog, -⟩ := hbegan
  obtain ⟨newer, older, hhistory, -⟩ := exists_history_of_logOf hlog
  obtain ⟨before, after, oracle, hbefore, rfl, hkeeps, hstep, hafter, hrest⟩ :=
    hreaches.occurred rfl hhistory
  obtain ⟨_, request, next, hevent, hcall, hanswer⟩ := performed_of_history_eq_cons hstep hafter
  obtain ⟨-, rfl⟩ := Event.advance.inj hevent
  obtain ⟨claimed, hrow, rfl⟩ := List.mem_map.mp hclaimed
  obtain ⟨row, hfound, rfl⟩ := exists_row_of_claimed hanswer hrow
  have hthere : EnqueuedBefore before.store.table earlier row.id :=
    henqueued.of_reaches ((Reaches.refl.step hkeeps hstep).trans hrest) (List.mem_map_of_mem hfound)
  have hearlier : earlier ∈ eventIds before.store.table := hthere.subset List.mem_cons_self
  have hclaims : ClaimsInOrder aggregate before.store.table before.history (rows.map (·.id)) :=
    hkeeps (request, _) (next_of_call hcall) (after.store, rows) hanswer
  refine ⟨nodup_claimedIds hanswer, (hclaims row.id hclaimed earlier hearlier hthere hsame).imp_left ?_⟩
  intro hsettled
  rw [hhistory]
  exact (hsettled.append [_]).append newer

/-- A retry in a run that keeps the order. -/
theorem settled_of_retried
    (hreaches : Reaches relayMachine (KeepsOrder aggregate) (.initial (emptyOutbox start)) c)
    {caller attempts : ℕ} {relay : OutboxRelay} {rows : List ClaimedRow} {id earlier lastError : String}
    {backoffMs : Int} (hbegan : Began relay rows (logOf caller c.history))
    (hretried : ⟨.scheduleRetry earlier attempts lastError backoffMs, ()⟩ ∈ logOf caller c.history)
    (hclaimed : id ∈ rows.map (·.id)) (hbehind : Before (rows.map (·.id)) earlier id)
    (henqueued : EnqueuedBefore c.store.table earlier id) (hsame : aggregate earlier = aggregate id) :
    Settled c.history earlier := by
  obtain ⟨newer, older, hhistory⟩ := List.append_of_mem (mem_logOf.mp hretried)
  obtain ⟨before, after, oracle, hbefore, rfl, hkeeps, hstep, hafter, hrest⟩ :=
    hreaches.occurred rfl hhistory
  obtain ⟨_, request, next, -, hcall, -⟩ := performed_of_history_eq_cons hstep hafter
  obtain ⟨batch, hbatch, -⟩ :=
    (hbefore.bound relay_proceeds fun _ ↦ trivial).allowed (Nat.zero_le _) hcall
  obtain rfl : rows = batch := by
    rw [hhistory, ← List.singleton_append, ← List.append_assoc, logOf_append] at hbegan
    exact hbegan.unique hbatch
  have hthere : EnqueuedBefore before.store.table earlier id :=
    henqueued.of_reaches ((Reaches.refl.step hkeeps hstep).trans hrest)
      (mem_eventIds_of_began hbefore hbatch hclaimed)
  have hnone : LeavesNoneBehind aggregate before.store.table before.history
      (batchOf (logOf caller before.history)) earlier :=
    hkeeps (request, _) (next_of_call hcall)
  rw [hbatch.batchOf] at hnone
  have hsettled := hnone id hclaimed hthere hsame hbehind
  rw [hhistory]
  exact (hsettled.append [_]).append newer

/-- What a run is about to publish has only settled events before it. -/
theorem settled_of_publish
    (hreaches : Reaches relayMachine (KeepsOrder aggregate) (.initial (emptyOutbox start)) c)
    {caller : ℕ} {request : RelayRequest} {id envelope earlier : String}
    {next : Except PublishFailure Unit → RelayStep RelayOutcome}
    (hcall : c.calls[caller]? = some ⟨request, .running (.call (.publish id envelope) next)⟩)
    (henqueued : EnqueuedBefore c.store.table earlier id) (hsame : aggregate earlier = aggregate id) :
    Settled c.history earlier := by
  obtain ⟨rows, ahead, behind, hbegan, hrows, hahead⟩ :=
    (hreaches.bound relay_proceeds fun _ ↦ trivial).allowed (Nat.zero_le _) hcall
  have hclaimed : id ∈ rows.map (·.id) := by simp [hrows]
  obtain ⟨hnodup, hclaims⟩ := claimsInOrder_of_began hreaches hbegan hclaimed henqueued hsame
  rcases hclaims with hsettled | hbehind
  · exact hsettled
  have hdone : earlier ∈ ahead := by
    rw [hrows] at hnodup hbehind
    exact mem_of_before hnodup hbehind
  obtain ⟨performed, hperformed, hhandled⟩ := hahead earlier hdone
  rcases handled_eq_some hhandled with hsettled | ⟨attempts, lastError, backoffMs, rfl⟩
  · exact ⟨_, mem_logOf.mp hperformed, hsettled⟩
  · exact settled_of_retried hreaches hbegan hperformed hclaimed hbehind henqueued hsame

theorem publication_eq_some {performed : RelayPerformed} {id : String}
    (hpublication : publication performed = some id) :
    ∃ envelope, performed = ⟨.publish id envelope, .ok ()⟩ := by
  unfold publication at hpublication
  split at hpublication
  · obtain rfl := Option.some.inj hpublication
    exact ⟨_, rfl⟩
  · cases hpublication

/-- In a run that passes over no event of an aggregate and leaves none behind, the events of every
aggregate are published in the order in which they were enqueued. -/
theorem published_inOrder
    (hreaches : Reaches relayMachine (KeepsOrder aggregate) (.initial (emptyOutbox start)) c) :
    InOrder aggregate c := by
  intro recent occurrence past hhistory id hpublication _ earlier henqueued hsame
  obtain ⟨before, after, oracle, hbefore, rfl, hkeeps, hstep, hafter, hrest⟩ :=
    hreaches.occurred rfl hhistory
  obtain ⟨_, request, next, -, hcall, -⟩ := performed_of_history_eq_cons hstep hafter
  obtain ⟨envelope, hperformed⟩ := publication_eq_some hpublication
  obtain ⟨caller, performed⟩ := occurrence
  subst hperformed
  refine settled_of_publish hbefore hcall ?_ hsame
  refine henqueued.of_reaches ((Reaches.refl.step hkeeps hstep).trans hrest) ?_
  obtain ⟨rows, ahead, behind, hbegan, hrows, -⟩ :=
    (hbefore.bound relay_proceeds fun _ ↦ trivial).allowed (Nat.zero_le _) hcall
  exact mem_eventIds_of_began hbefore hbegan (by simp [hrows])

end Runs

/-! ### An event that is overtaken -/

namespace Overtaking

open Retry

def second : NewOutboxRow := { id := "second", envelope := "second envelope" }

/-- Two events of one aggregate are enqueued, claimed together, and published one after the other. -/
def together : List (Event RelayOracle RelayRequest OutboxTick) :=
  [.turn (.enqueue event), .turn (.enqueue second), .start (.run relay), .advance 0 {}, .advance 0 {},
    .advance 0 {}, .advance 0 {}, .advance 0 {}]

theorem published_inOrder_together :
    InOrder (fun _ ↦ ()) (relayMachine.finish (KeepsOrder fun _ ↦ ()) (.initial (emptyOutbox 0))
      together) :=
  published_inOrder (reaches_finish together)

/-- The publication of the first event fails, and that of the second does not. -/
def overtaken : List (Event RelayOracle RelayRequest OutboxTick) :=
  [.turn (.enqueue event), .turn (.enqueue second), .start (.run relay), .advance 0 {},
    .advance 0 { published := .error (.error "Error" "bus down") }, .advance 0 {}, .advance 0 {},
    .advance 0 {}]

/-- The second event is published while the first waits for its retry. -/
theorem second_overtakes_first :
    ∃ c, Reaches relayMachine (fun _ _ ↦ True) (.initial (emptyOutbox 0)) c ∧
      ¬ InOrder (fun _ ↦ ()) c := by
  generalize hc : relayMachine.finish (fun _ _ ↦ True) (.initial (emptyOutbox 0)) overtaken = c
  have hovertaken : c.history.head?.bind (fun last ↦ publication last.performed) = some "second" ∧
      (∀ other ∈ c.history.tail, publication other.performed ≠ some "second") ∧
      EnqueuedBefore c.store.table "event" "second" ∧ ¬ Settled c.history.tail "event" := by
    rw [← hc]
    decide
  refine ⟨c, hc ▸ reaches_finish overtaken, fun horder ↦ ?_⟩
  cases hhistory : c.history with
  | nil => simp [hhistory] at hovertaken
  | cons last past =>
    rw [hhistory] at hovertaken
    obtain ⟨hlast, hfirst, henqueued, hunsettled⟩ := hovertaken
    exact hunsettled (horder [] last past hhistory "second" hlast hfirst "event" henqueued rfl)

end Overtaking

end Karar.Outbox
