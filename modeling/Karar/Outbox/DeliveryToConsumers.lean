import Karar.Outbox.Delivery
import Karar.Outbox.WorkerConduct
import Karar.Outbox.WorkerConsumption

/-!
# Delivery to consumers

An event that is marked as published was given to every consumer subscribed to it in the process that
published it, whatever became of the others. The mark does not ask what became of the deliveries: a
consumer whose transaction is rolled back is not called again, because the event is published
(`failed_consumer_lost`). `published_delivered` is what holds in general, and what holds where a worker
whose consumer has failed crashes before it marks the row.
-/

namespace Karar.Outbox

open Events Foundation KeyedTable Machine SharedKernel
open Platform (PgError)
open Platform.Adapter (Callback Rejection)

variable {Effect Rows Thrown : Type} {decode : String → EventEnvelope}

/-! ### Transactions without a failure -/

/-- A statement of a consumer failed, or its transaction was rolled back. -/
def Troubled : WorkerPerformed Effect Rows → Prop
  | ⟨.consumer (.rollback _), _⟩ => True
  | ⟨.consumer _, answer⟩ => answer.isOk = false
  | _ => False

instance (performed : WorkerPerformed Effect Rows) : Decidable (Troubled performed) :=
  match performed with
  | ⟨.relay _, _⟩ => isFalse id
  | ⟨.consumer (.rollback _), _⟩ => isTrue trivial
  | ⟨.consumer .begin, answer⟩ => inferInstanceAs (Decidable (answer.isOk = false))
  | ⟨.consumer (.insertReceipt _ _), answer⟩ => inferInstanceAs (Decidable (answer.isOk = false))
  | ⟨.consumer (.query _ _), answer⟩ => inferInstanceAs (Decidable (answer.isOk = false))
  | ⟨.consumer (.commit _), answer⟩ => inferInstanceAs (Decidable (answer.isOk = false))

/-- No transaction of a consumer has failed. -/
def Smooth (log : List (WorkerPerformed Effect Rows)) : Prop := ∀ performed ∈ log, ¬ Troubled performed

instance (log : List (WorkerPerformed Effect Rows)) : Decidable (Smooth log) :=
  inferInstanceAs (Decidable (∀ performed ∈ log, ¬ Troubled performed))

section Transacts

variable {journal later : ConsumerJournal Effect} {number : ℕ} {oracle : ConsumerOracle Rows}
  {transaction : Transaction ReceiptKey Effect} {log : List (WorkerPerformed Effect Rows)}

/-- What a log without a failure tells of a transaction that it has begun. -/
structure Carried (journal : ConsumerJournal Effect) (log : List (WorkerPerformed Effect Rows))
    (number : ℕ) (transaction : Transaction ReceiptKey Effect) : Prop where
  unbroken : transaction.status ≠ .aborted
  inserted : ∀ key count, ⟨.consumer (.insertReceipt number key), .ok count⟩ ∈ log →
    key ∈ transaction.inserted ∨ journal.Committed key
  committed : ⟨.consumer (.commit number), .ok ()⟩ ∈ log → transaction.status = .committed

/-- A statement that is carried out found its transaction open. -/
theorem execute_of_ok {Value : Type} {run : Transaction ReceiptKey Effect →
      Except PgError (Transaction ReceiptKey Effect × Value)} {value : Value}
    (hexecute : execute journal number oracle run = (later, .ok value)) :
    ∃ transaction next, journal[number]? = some transaction ∧ transaction.status = .open_ ∧
      run transaction = .ok (next, value) ∧ later = journal.set number next := by
  unfold execute at hexecute
  cases hat : journal[number]? with
  | none => simp [hat] at hexecute
  | some transaction =>
    cases hstatus : transaction.status with
    | open_ =>
      cases hrefused : oracle.answer with
      | error error => simp [hat, hstatus, hrefused, Except.bind] at hexecute
      | ok =>
        cases hrun : run transaction with
        | error error => simp [hat, hstatus, hrefused, hrun, Except.bind] at hexecute
        | ok executed =>
          simp only [hat, hstatus, hrefused, hrun, Except.bind, Prod.mk.injEq, Except.ok.injEq]
            at hexecute
          obtain ⟨rfl, rfl⟩ := hexecute
          exact ⟨transaction, executed.1, rfl, hstatus, hrun, rfl⟩
    | _ => simp [hat, hstatus] at hexecute

/-- A COMMIT that is confirmed commits an open transaction, or ends an aborted one. -/
theorem commit_of_ok (hcommit : commitTransaction journal number oracle = (later, .ok ())) :
    ∃ transaction, journal[number]? = some transaction ∧
      (transaction.status = .aborted ∨ transaction.status = .open_ ∧
        later = journal.set number { transaction with status := .committed }) := by
  unfold commitTransaction at hcommit
  cases hat : journal[number]? with
  | none => simp [hat] at hcommit
  | some transaction =>
    refine ⟨transaction, rfl, ?_⟩
    cases hstatus : transaction.status with
    | aborted => exact .inl rfl
    | open_ =>
      cases hrefused : oracle.refused with
      | some error => simp [hat, hstatus, ConsumerOracle.answer, hrefused] at hcommit
      | none =>
        simp only [hat, hstatus, hrefused, Option.isSome_none, Bool.false_and, Bool.false_eq_true,
          if_false, Prod.mk.injEq] at hcommit
        exact .inr ⟨rfl, hcommit.1.symm⟩
    | _ => simp [hat, hstatus] at hcommit

theorem Carried.extends (hcarried : Carried journal log number transaction)
    (hextends : Journal.Extends journal later) : Carried later log number transaction :=
  ⟨hcarried.unbroken, fun key count hinsert ↦ (hcarried.inserted key count hinsert).imp_right
    hextends.committed, hcarried.committed⟩

/-- The number of the transaction that an operation of a worker is on. -/
def workerTransaction : WorkerPerformed Effect Rows → Option ℕ
  | ⟨.relay _, _⟩ => none
  | ⟨.consumer op, _⟩ => transactionOf op

theorem Carried.cons (hcarried : Carried journal log number transaction)
    {performed : WorkerPerformed Effect Rows} (hother : workerTransaction performed ≠ some number) :
    Carried journal (performed :: log) number transaction := by
  refine ⟨hcarried.unbroken, fun key count hinsert ↦ ?_, fun hcommit ↦ ?_⟩
  · rcases List.mem_cons.mp hinsert with rfl | hearlier
    · exact absurd rfl hother
    · exact hcarried.inserted key count hearlier
  · rcases List.mem_cons.mp hcommit with rfl | hearlier
    · exact absurd rfl hother
    · exact hcarried.committed hearlier

/-- An operation of a worker on a transaction that it has begun. -/
theorem Carried.perform (hcarried : Carried journal log number transaction)
    (hat : journal[number]? = some transaction) {op : ConsumerOp Effect}
    {answer : ConsumerAnswer Effect Rows op}
    (hanswer : performConsumer journal op oracle = (later, answer))
    (hsmooth : ¬ Troubled (⟨.consumer op, answer⟩ : WorkerPerformed Effect Rows))
    (hop : transactionOf op = some number) :
    ∃ next, later[number]? = some next ∧
      Carried later (⟨.consumer op, answer⟩ :: log) number next := by
  have hlt := (List.getElem?_eq_some_iff.mp hat).1
  have hextends : Journal.Extends journal later := by
    have hchange : JournalChange journal ⟨op, (performConsumer journal op oracle).2⟩
        (performConsumer journal op oracle).1 := journalChange_perform op
    rw [hanswer] at hchange
    exact hchange.extends
  cases op with
  | begin => cases hop
  | rollback other => exact absurd trivial hsmooth
  | insertReceipt other key =>
    obtain rfl := Option.some.inj hop
    cases answer with
    | error error => exact absurd rfl hsmooth
    | ok count =>
      obtain ⟨found, next, hfound, hopen, hrun, rfl⟩ := execute_of_ok hanswer
      obtain rfl := Option.some.inj (hat.symm.trans hfound)
      -- The receipt is inserted, or somebody has committed it, or it is in the transaction already.
      have hnext : next.status = .open_ ∧ transaction.inserted ⊆ next.inserted ∧
          (key ∈ next.inserted ∨ journal.Committed key) := by
        unfold insertReceipt at hrun
        cases hinsert : journal.tryInsert transaction key with
        | waits => simp [hinsert] at hrun
        | inserted =>
          simp only [hinsert, Except.ok.injEq, Prod.mk.injEq] at hrun
          obtain ⟨rfl, -⟩ := hrun
          exact ⟨hopen, List.subset_cons_self _ _, .inl List.mem_cons_self⟩
        | duplicate =>
          simp only [hinsert, Except.ok.injEq, Prod.mk.injEq] at hrun
          obtain ⟨rfl, -⟩ := hrun
          refine ⟨hopen, List.Subset.refl _, ?_⟩
          by_cases hown : key ∈ transaction.inserted
          · exact .inl hown
          · exact .inr (Journal.committed_of_tryInsert hinsert hown)
      refine ⟨next, List.getElem?_set_self hlt, by simp [hnext.1], fun other found hinsert ↦ ?_,
        fun hcommit ↦ ?_⟩
      · rcases List.mem_cons.mp hinsert with hsame | hearlier
        · cases hsame
          exact hnext.2.2.imp_right hextends.committed
        · exact (hcarried.inserted other found hearlier).imp (fun h ↦ hnext.2.1 h) hextends.committed
      · rcases List.mem_cons.mp hcommit with hsame | hearlier
        · cases hsame
        · exact absurd (hcarried.committed hearlier) (by simp [hopen])
  | query other effect =>
    obtain rfl := Option.some.inj hop
    cases answer with
    | error error => exact absurd rfl hsmooth
    | ok rows =>
      obtain ⟨found, next, hfound, hopen, hrun, rfl⟩ := execute_of_ok hanswer
      obtain rfl := Option.some.inj (hat.symm.trans hfound)
      obtain ⟨rfl, -⟩ := Prod.mk.inj (Except.ok.inj hrun)
      refine ⟨_, List.getElem?_set_self hlt, by simp [hopen], fun key count hinsert ↦ ?_,
        fun hcommit ↦ ?_⟩
      · rcases List.mem_cons.mp hinsert with hsame | hearlier
        · cases hsame
        · exact (hcarried.inserted key count hearlier).imp_right hextends.committed
      · rcases List.mem_cons.mp hcommit with hsame | hearlier
        · cases hsame
        · exact absurd (hcarried.committed hearlier) (by simp [hopen])
  | commit other =>
    obtain rfl := Option.some.inj hop
    cases answer with
    | error error => exact absurd rfl hsmooth
    | ok =>
      obtain ⟨found, hfound, hstatus⟩ := commit_of_ok hanswer
      obtain rfl := Option.some.inj (hat.symm.trans hfound)
      obtain ⟨-, rfl⟩ := hstatus.resolve_left hcarried.unbroken
      refine ⟨_, List.getElem?_set_self hlt, by simp, fun key count hinsert ↦ ?_, fun _ ↦ rfl⟩
      rcases List.mem_cons.mp hinsert with hsame | hearlier
      · cases hsame
      · exact (hcarried.inserted key count hearlier).imp_right hextends.committed

/-- Every worker keeps to the transactions that it has begun, and no two have one. -/
structure Transacts (c : WorkerConfiguration Effect Rows Thrown) : Prop where
  lt : ∀ caller number, Opened (logOf caller c.history) number → number < c.store.journal.length
  owner : ∀ first second number, Opened (logOf first c.history) number →
    Opened (logOf second c.history) number → first = second
  uses : ∀ caller, ∀ performed ∈ logOf caller c.history, ∀ number ∈ workerTransaction performed,
    Opened (logOf caller c.history) number
  carried : ∀ caller number, Opened (logOf caller c.history) number → Smooth (logOf caller c.history) →
    ∃ transaction, c.store.journal[number]? = some transaction ∧
      Carried c.store.journal (logOf caller c.history) number transaction

variable {c : WorkerConfiguration Effect Rows Thrown} {caller : ℕ}
  {history : List (Occurrence (WorkerOp Effect) (WorkerAnswer Effect Rows))}
  {performed : WorkerPerformed Effect Rows}

/-- A transaction that was begun before, or is begun by the operation. -/
theorem opened_perform {other : ℕ} (hopened : Opened (logOf other (⟨caller, performed⟩ :: history)) number) :
    Opened (logOf other history) number ∨ other = caller ∧ performed = ⟨.consumer .begin, .ok number⟩ := by
  by_cases hsame : caller = other
  · subst hsame
    unfold Opened at hopened
    rw [logOf_cons_self] at hopened
    rcases List.mem_cons.mp hopened with hnew | hearlier
    · exact .inr ⟨rfl, hnew.symm⟩
    · exact .inl hearlier
  · rw [logOf_cons_of_ne hsame] at hopened
    exact .inl hopened

theorem mem_logOf_cons {other : ℕ} {earlier : WorkerPerformed Effect Rows}
    (hmem : earlier ∈ logOf other history) : earlier ∈ logOf other (⟨caller, performed⟩ :: history) :=
  mem_logOf.mpr (List.mem_cons_of_mem _ (mem_logOf.mp hmem))

/-- What an operation of a worker does to the transactions. -/
structure JournalStep (journal : ConsumerJournal Effect) (performed : WorkerPerformed Effect Rows)
    (later : ConsumerJournal Effect) : Prop where
  extends_ : Journal.Extends journal later
  length_le : journal.length ≤ later.length
  begun : ∀ number, performed = ⟨.consumer .begin, .ok number⟩ →
    number = journal.length ∧ later[number]? = some ⟨[], [], .open_⟩
  other : ∀ number, number < journal.length → workerTransaction performed ≠ some number →
    later[number]? = journal[number]?
  carried : ∀ log number transaction, journal[number]? = some transaction →
    Carried journal log number transaction → ¬ Troubled performed →
      workerTransaction performed = some number →
        ∃ next, later[number]? = some next ∧ Carried later (performed :: log) number next

theorem journalStep_perform {store after : WorkerStore Effect} {op : WorkerOp Effect}
    {answer : WorkerAnswer Effect Rows op} {surroundings : WorkerOracle Rows}
    (hanswer : store.perform op surroundings = some (after, answer)) :
    JournalStep store.journal (⟨op, answer⟩ : WorkerPerformed Effect Rows) after.journal := by
  cases op with
  | relay op =>
    obtain ⟨answered, -, hstored⟩ := Option.map_eq_some_iff.mp hanswer
    obtain ⟨rfl, rfl⟩ := Prod.mk.inj hstored
    refine ⟨.refl _, le_refl _, fun number hbegun ↦ ?_, fun _ _ _ ↦ rfl, fun _ _ _ _ _ _ hon ↦ ?_⟩
    · cases hbegun
    · cases hon
  | consumer op =>
    obtain ⟨rfl, rfl⟩ := Prod.mk.inj (Option.some.inj hanswer)
    have hchange : JournalChange store.journal
        ⟨op, (performConsumer store.journal op surroundings.consumer).2⟩
        (performConsumer store.journal op surroundings.consumer).1 := journalChange_perform op
    refine ⟨hchange.extends, hchange.length_le, fun number hbegun ↦ ?_,
      fun number hlt hon ↦ hchange.other hlt hon, fun log number transaction hat hcarried hsmooth hon ↦
        hcarried.perform hat rfl hsmooth hon⟩
    obtain ⟨hop, hvalue⟩ := Sigma.mk.inj hbegun
    obtain rfl := WorkerOp.consumer.inj hop
    have hnumber : begunBy (⟨.begin, (performConsumer store.journal .begin surroundings.consumer).2⟩ :
        ConsumerPerformed Effect Rows) = some number := by
      rw [eq_of_heq hvalue]
      rfl
    obtain ⟨-, rfl, hlater⟩ := hchange.begun hnumber
    refine ⟨rfl, ?_⟩
    rw [hlater]
    exact List.getElem?_concat_length

theorem Transacts.perform (htransacts : Transacts c) {op : WorkerOp Effect}
    {answer : WorkerAnswer Effect Rows op} {store : WorkerStore Effect}
    {calls : List (Call (WorkerOp Effect) (WorkerAnswer Effect Rows) (WorkerRequest Effect Rows Thrown)
      RelayOutcome)}
    (hconduct : ∀ number ∈ workerTransaction (⟨op, answer⟩ : WorkerPerformed Effect Rows),
      Opened (logOf caller c.history) number)
    (hstep : JournalStep c.store.journal (⟨op, answer⟩ : WorkerPerformed Effect Rows) store.journal) :
    Transacts ⟨store, calls, ⟨caller, op, answer⟩ :: c.history⟩ where
  lt := by
    intro other number hopened
    rcases opened_perform hopened with hold | ⟨-, hbegun⟩
    · exact (htransacts.lt other number hold).trans_le hstep.length_le
    · exact (List.getElem?_eq_some_iff.mp (hstep.begun number hbegun).2).1
  owner := by
    have hfresh : ∀ number, (⟨op, answer⟩ : WorkerPerformed Effect Rows) =
        ⟨.consumer .begin, .ok number⟩ → ∀ other, ¬ Opened (logOf other c.history) number := by
      intro number hbegun other hopened
      exact absurd (htransacts.lt other number hopened) (by simp [(hstep.begun number hbegun).1])
    intro first second number hfirst hsecond
    rcases opened_perform hfirst with hold | ⟨rfl, hnew⟩ <;>
      rcases opened_perform hsecond with hold' | ⟨rfl, hnew'⟩
    · exact htransacts.owner first second number hold hold'
    · exact absurd hold (hfresh number hnew' first)
    · exact absurd hold' (hfresh number hnew second)
    · rfl
  uses := by
    intro other performed hperformed number hnumber
    by_cases hsame : caller = other
    · subst hsame
      rw [logOf_cons_self] at hperformed
      rcases List.mem_cons.mp hperformed with rfl | hearlier
      · exact mem_logOf_cons (hconduct number hnumber)
      · exact mem_logOf_cons (htransacts.uses caller performed hearlier number hnumber)
    · rw [logOf_cons_of_ne hsame] at hperformed
      exact mem_logOf_cons (htransacts.uses other performed hperformed number hnumber)
  carried := by
    intro other number hopened hsmooth
    rcases opened_perform hopened with hold | ⟨rfl, hnew⟩
    · have hbefore : Smooth (logOf other c.history) := fun performed hperformed ↦
        hsmooth performed (mem_logOf_cons hperformed)
      obtain ⟨transaction, hat, hcarried⟩ := htransacts.carried other number hold hbefore
      by_cases hsame : caller = other
      · subst hsame
        rw [logOf_cons_self] at hsmooth ⊢
        by_cases hon : workerTransaction (⟨op, answer⟩ : WorkerPerformed Effect Rows) = some number
        · exact hstep.carried _ number transaction hat hcarried
            (hsmooth _ List.mem_cons_self) hon
        · refine ⟨transaction, (hstep.other number (htransacts.lt caller number hold) hon).trans hat, ?_⟩
          exact (hcarried.extends hstep.extends_).cons hon
      · have hon : workerTransaction (⟨op, answer⟩ : WorkerPerformed Effect Rows) ≠ some number :=
          fun hnumber ↦ hsame (htransacts.owner caller other number (hconduct number hnumber) hold)
        rw [logOf_cons_of_ne hsame]
        exact ⟨transaction, (hstep.other number (htransacts.lt other number hold) hon).trans hat,
          hcarried.extends hstep.extends_⟩
    · obtain ⟨rfl, hat⟩ := hstep.begun number hnew
      -- Nothing was done yet on a transaction that is new.
      have hunused : ∀ performed ∈ logOf other (⟨other, op, answer⟩ :: c.history),
          workerTransaction performed ≠ some c.store.journal.length := by
        intro performed hperformed hon
        rw [logOf_cons_self] at hperformed
        rcases List.mem_cons.mp hperformed with rfl | hearlier
        · rw [hnew] at hon
          cases hon
        · exact lt_irrefl _ (htransacts.lt other _ (htransacts.uses other performed hearlier _ hon))
      refine ⟨_, hat, by simp, fun key count hinsert ↦ ?_, fun hcommit ↦ ?_⟩
      · exact absurd rfl (hunused _ hinsert)
      · exact absurd rfl (hunused _ hcommit)

/-- A connection that is lost rolls its transaction back. -/
theorem Transacts.turn (htransacts : Transacts c) (tick : WorkerTick) :
    Transacts { c with store := c.store.turn tick } := by
  cases tick with
  | outbox tick => exact ⟨htransacts.lt, htransacts.owner, htransacts.uses, htransacts.carried⟩
  | lost lost =>
    have hchange : JournalChange c.store.journal (⟨.rollback lost, .ok ()⟩ : ConsumerPerformed Effect Rows)
        (rollbackTransaction c.store.journal lost) := journalChange_rollback
    refine ⟨fun caller number hopened ↦ (htransacts.lt caller number hopened).trans_le hchange.length_le,
      htransacts.owner, htransacts.uses, fun caller number hopened hsmooth ↦ ?_⟩
    obtain ⟨transaction, hat, hcarried⟩ := htransacts.carried caller number hopened hsmooth
    have hlater := hcarried.extends hchange.extends
    have hlt := (List.getElem?_eq_some_iff.mp hat).1
    show ∃ transaction, (rollbackTransaction c.store.journal lost)[number]? = some transaction ∧
      Carried (rollbackTransaction c.store.journal lost) _ number transaction
    by_cases hsame : lost = number
    · subst hsame
      by_cases hcommitted : transaction.status = .committed
      · exact ⟨transaction, hchange.extends lost transaction hat hcommitted, hlater⟩
      · refine ⟨{ transaction with status := .rolledBack }, ?_, by simp, hlater.inserted, fun hcommit ↦
          absurd (hcarried.committed hcommit) hcommitted⟩
        unfold rollbackTransaction
        rw [hat]
        cases hstatus : transaction.status with
        | committed => exact absurd hstatus hcommitted
        | _ => simp [hstatus, List.getElem?_set_self hlt]
    · refine ⟨transaction, ?_, hlater⟩
      exact (hchange.other hlt fun hon ↦ hsame (Option.some.inj hon)).trans hat

end Transacts

/-! ### Runs -/

section Runs

variable {c : WorkerConfiguration Effect Rows Thrown} {now : Instant}
  {condition : WorkerConfiguration Effect Rows Thrown →
    Event (WorkerOracle Rows) (WorkerRequest Effect Rows Thrown) WorkerTick → Prop}

theorem transacts_of_reaches
    (hreaches : Reaches (workerMachine Effect Rows Thrown decode) condition
      (.initial ⟨emptyOutbox now, []⟩) c) : Transacts c := by
  refine (hreaches.keeps worker_honours (fun _ _ ↦ trivial) ?_
    (fun _ h ↦ absurd h List.not_mem_nil) ?_).1
  · intro c event later _ htransacts hkeeps _ hstep
    cases steps_of_step_eq_some hstep with
    | start request => exact ⟨htransacts.lt, htransacts.owner, htransacts.uses, htransacts.carried⟩
    | @perform caller oracle request op next store answer hcall hanswer =>
      refine htransacts.perform (fun number hnumber ↦ ?_) (journalStep_perform hanswer)
      have hconduct := hkeeps.allowed (Nat.zero_le _) hcall
      cases op with
      | relay op => cases hnumber
      | consumer op => exact hconduct number hnumber
    | end_ hcall => exact ⟨htransacts.lt, htransacts.owner, htransacts.uses, htransacts.carried⟩
    | turn tick => exact htransacts.turn tick
  · refine ⟨?_, ?_, ?_, ?_⟩
    · rintro caller number ⟨⟩
    · rintro first second number ⟨⟩
    · rintro caller performed ⟨⟩
    · rintro caller number ⟨⟩

/-- A row that is published was marked by a worker, and a row that is claimed stays in the table. -/
structure Listed (c : WorkerConfiguration Effect Rows Thrown) : Prop where
  marked : ∀ row ∈ c.store.outbox.table.rows, row.publishedAt ≠ none →
    ∃ caller, ⟨caller, .relay (.markPublished row.id), ()⟩ ∈ c.history
  claimed : ∀ occurrence ∈ c.history, ∀ claimed ∈ workerClaims occurrence.performed,
    ∃ row ∈ c.store.outbox.table.rows, row.id = claimed.id ∧ row.envelope = claimed.envelope

theorem Listed.relay (hlisted : Listed c) {caller : ℕ} {op : RelayOp} {oracle : RelayOracle}
    {outbox : OutboxStore} {answer : op.Answer}
    {calls : List (Call (WorkerOp Effect) (WorkerAnswer Effect Rows) (WorkerRequest Effect Rows Thrown)
      RelayOutcome)}
    (hanswer : c.store.outbox.performOrFail op oracle = some (outbox, answer)) :
    Listed ⟨{ c.store with outbox := outbox }, calls, ⟨caller, .relay op, answer⟩ :: c.history⟩ := by
  obtain ⟨-, hchanges⟩ := tableChanges_of_performed hanswer
  have hthere : ∀ row ∈ c.store.outbox.table.rows, ∀ claimed : ClaimedRow, row.id = claimed.id →
      row.envelope = claimed.envelope → ∃ later ∈ outbox.table.rows, later.id = claimed.id ∧
        later.envelope = claimed.envelope := by
    intro row hrow claimed hid henvelope
    obtain ⟨later, hlater, hsame⟩ := hchanges.exists_successor hrow
    exact ⟨later, hlater, hsame.id.trans hid, hsame.envelope.trans henvelope⟩
  constructor
  · intro later hlater hpublished
    obtain ⟨row, hrow, hchange⟩ := hchanges.exists_origin hlater
    have hid := hchange.sameEvent.id
    rcases hchange.publishedAt with hkept | hmarks
    · obtain ⟨other, hother⟩ := hlisted.marked row hrow (hkept ▸ hpublished)
      exact ⟨other, List.mem_cons_of_mem _ (hid ▸ hother)⟩
    · obtain rfl : op = .markPublished row.id := hmarks
      exact ⟨caller, hid ▸ List.mem_cons_self⟩
  · intro occurrence hoccurrence claimed hclaimed
    rcases List.mem_cons.mp hoccurrence with rfl | hearlier
    · obtain ⟨row, hrow, rfl⟩ := exists_row_of_claimed hanswer hclaimed
      exact hthere row hrow _ rfl rfl
    · obtain ⟨row, hrow, hid, henvelope⟩ := hlisted.claimed occurrence hearlier claimed hclaimed
      exact hthere row hrow claimed hid henvelope

theorem listed_of_reaches
    (hreaches : Reaches (workerMachine Effect Rows Thrown decode) condition
      (.initial ⟨emptyOutbox now, []⟩) c) : Listed c := by
  induction hreaches with
  | refl =>
    constructor
    · intro row hrow
      cases hrow
    · intro occurrence hoccurrence
      cases hoccurrence
  | step _ _ hstep ih =>
    cases steps_of_step_eq_some hstep with
    | start request => exact ⟨ih.marked, ih.claimed⟩
    | @perform caller oracle request op next store answer hcall hanswer =>
      cases op with
      | relay op =>
        obtain ⟨answered, hperformed, hstored⟩ := Option.map_eq_some_iff.mp hanswer
        obtain ⟨rfl, rfl⟩ := Prod.mk.inj hstored
        exact ih.relay hperformed
      | consumer op =>
        obtain ⟨rfl, rfl⟩ := Prod.mk.inj (Option.some.inj hanswer)
        refine ⟨fun row hrow hpublished ↦ ?_, fun occurrence hoccurrence claimed hclaimed ↦ ?_⟩
        · obtain ⟨other, hother⟩ := ih.marked row hrow hpublished
          exact ⟨other, List.mem_cons_of_mem _ hother⟩
        · rcases List.mem_cons.mp hoccurrence with rfl | hearlier
          · cases hclaimed
          · exact ih.claimed occurrence hearlier claimed hclaimed
    | end_ hcall => exact ⟨ih.marked, ih.claimed⟩
    | turn tick =>
      cases tick with
      | lost transaction => exact ⟨ih.marked, ih.claimed⟩
      | outbox tick =>
        constructor
        · intro row hrow hpublished
          rcases mem_turn hrow with hold | ⟨values, rfl, -⟩
          · exact ih.marked row hold hpublished
          · exact absurd rfl hpublished
        · intro occurrence hoccurrence claimed hclaimed
          obtain ⟨row, hrow, hsame⟩ := ih.claimed occurrence hoccurrence claimed hclaimed
          exact ⟨row, mem_turn_of_mem hrow, hsame⟩

/-- What is committed stays committed. -/
theorem extends_of_reaches {start : WorkerConfiguration Effect Rows Thrown}
    (hreaches : Reaches (workerMachine Effect Rows Thrown decode) condition start c) :
    Journal.Extends start.store.journal c.store.journal := by
  refine hreaches.store (fun store ↦ Journal.Extends start.store.journal store.journal) ?_ ?_ (.refl _)
  · intro store op oracle later answer hextends hanswer
    exact hextends.trans (journalStep_perform hanswer).extends_
  · intro store tick hextends
    cases tick with
    | outbox tick => exact hextends
    | lost transaction =>
      have hchange : JournalChange store.journal
          (⟨.rollback transaction, .ok ()⟩ : ConsumerPerformed Effect Rows)
          (rollbackTransaction store.journal transaction) := journalChange_rollback
      exact hextends.trans hchange.extends

/-- Where nothing has failed in a worker's run, its deliveries have committed their receipts. -/
theorem committed_of_deliveries (htransacts : Transacts c) {caller : ℕ}
    (hsmooth : Smooth (logOf caller c.history)) {keys : List ReceiptKey}
    {segments : List (WorkerPerformed Effect Rows)} (hdeliveries : Deliveries keys segments)
    (hperformed : segments ⊆ logOf caller c.history) : ∀ key ∈ keys, c.store.journal.Committed key := by
  induction hdeliveries with
  | none =>
    intro key hkey
    cases hkey
  | @next key keys segment later hdelivery _ ih =>
    have hsegment : segment ⊆ logOf caller c.history := fun _ hmem ↦
      hperformed (List.mem_append_right _ hmem)
    intro asked hasked
    rcases List.mem_cons.mp hasked with rfl | hrest
    · cases hdelivery with
      | refused error hbegin => exact absurd rfl (hsmooth _ (hsegment hbegin))
      | rolledBack number count answer _ hrollback => exact absurd trivial (hsmooth _ (hsegment hrollback))
      | committed number count hinsert hcommit =>
        have hopened := htransacts.uses caller _ (hsegment hcommit) number rfl
        obtain ⟨transaction, hat, hcarried⟩ := htransacts.carried caller number hopened hsmooth
        rcases hcarried.inserted asked count (hsegment hinsert) with hkey | hcommitted
        · exact ⟨transaction, List.mem_of_getElem? hat, hkey, hcarried.committed (hsegment hcommit)⟩
        · exact hcommitted
    · exact ih (fun _ hmem ↦ hperformed (List.mem_append_left _ hmem)) asked hrest

end Runs

/-! ### No consumer loses an event -/

/-- A worker has marked the event of a row as published. -/
def MarkedBy (c : WorkerConfiguration Effect Rows Thrown) (caller : ℕ) (id : String) : Prop :=
  ⟨caller, .relay (.markPublished id), ()⟩ ∈ c.history

/-- A published event was marked, and each worker that has marked it had called every consumer that is
subscribed to it, whatever became of the others. -/
structure AllCalled (decode : String → EventEnvelope) (c : WorkerConfiguration Effect Rows Thrown) :
    Prop where
  marked : ∀ row ∈ c.store.outbox.table.rows, row.publishedAt ≠ none → ∃ caller request,
    c.Asked caller request ∧ MarkedBy c caller row.id
  called : ∀ row ∈ c.store.outbox.table.rows, ∀ caller request, c.Asked caller request →
    MarkedBy c caller row.id →
      DeliveredIn (logOf caller c.history) (request.runtime.bus.receipts (decode row.envelope))

/-- A published event was handled by every consumer that is subscribed to it in a process that has marked
it, or is to be published again. -/
def NoneLost (decode : String → EventEnvelope) (c : WorkerConfiguration Effect Rows Thrown) : Prop :=
  ∀ row ∈ c.store.outbox.table.rows, row.publishedAt ≠ none → ∀ caller request,
    c.Asked caller request → MarkedBy c caller row.id →
      ∀ subscription ∈ request.runtime.bus.subscribed (decode row.envelope).eventName,
        Consumed c.store.journal (subscription.delivery (decode row.envelope)) ∨ row.Pending

/-- An operation after what a worker has performed: a mark comes after no failure of a consumer. -/
def MarksSmoothly (log : List (WorkerPerformed Effect Rows)) : WorkerOp Effect → Prop
  | .relay (.markPublished _) => Smooth log
  | _ => True

instance (log : List (WorkerPerformed Effect Rows)) (op : WorkerOp Effect) :
    Decidable (MarksSmoothly log op) :=
  match op with
  | .relay (.markPublished _) => inferInstanceAs (Decidable (Smooth log))
  | .relay (.claimBatch _ _ _) => isTrue trivial
  | .relay (.publish _ _) => isTrue trivial
  | .relay (.deadLetter _ _ _) => isTrue trivial
  | .relay (.scheduleRetry _ _ _ _) => isTrue trivial
  | .relay .stopping => isTrue trivial
  | .relay (.releaseOwnClaims _) => isTrue trivial
  | .relay .lag => isTrue trivial
  | .consumer _ => isTrue trivial

/-- A worker in whose run a transaction of a consumer has failed crashes before it marks a row. -/
def Spares : WorkerConfiguration Effect Rows Thrown →
    Event (WorkerOracle Rows) (WorkerRequest Effect Rows Thrown) WorkerTick → Prop :=
  Meets fun c caller _ op ↦ MarksSmoothly (logOf caller c.history) op

instance (c : WorkerConfiguration Effect Rows Thrown)
    (event : Event (WorkerOracle Rows) (WorkerRequest Effect Rows Thrown) WorkerTick) :
    Decidable (Spares c event) :=
  inferInstanceAs (Decidable (Meets _ c event))

section Theorem

variable {c : WorkerConfiguration Effect Rows Thrown} {now : Instant}
  {condition : WorkerConfiguration Effect Rows Thrown →
    Event (WorkerOracle Rows) (WorkerRequest Effect Rows Thrown) WorkerTick → Prop}

/-- The configuration in which a row was marked: its worker had delivered the envelope. -/
theorem exists_mark
    (hreaches : Reaches (workerMachine Effect Rows Thrown decode) condition
      (.initial ⟨emptyOutbox now, []⟩) c) {row : OutboxRow} (hrow : row ∈ c.store.outbox.table.rows)
    {caller : ℕ} {request : WorkerRequest Effect Rows Thrown} (hasked : c.Asked caller request)
    (hmarked : MarkedBy c caller row.id) :
    ∃ before oracle recent, Reaches (workerMachine Effect Rows Thrown decode) condition
        (.initial ⟨emptyOutbox now, []⟩) before ∧
      condition before (.advance caller oracle) ∧
      before.next caller = some (request, .relay (.markPublished row.id)) ∧
      c.history = recent ++ before.history ∧
      Journal.Extends before.store.journal c.store.journal ∧
      DeliveredIn (logOf caller before.history) (request.runtime.bus.receipts (decode row.envelope)) := by
  obtain ⟨newer, older, hhistory⟩ := List.append_of_mem hmarked
  obtain ⟨before, after, oracle, hbefore, rfl, hcondition, hstep, hafter, hrest⟩ :=
    hreaches.occurred rfl hhistory
  obtain ⟨oracle', served, next, hevent, hcall, hanswer⟩ := performed_of_history_eq_cons hstep hafter
  have hwhole := (Reaches.refl.step hcondition hstep).trans hrest
  obtain rfl := (hwhole.asked (asked_of_call hcall)).unique hasked
  obtain ⟨claimed, hid, ⟨performed, hperformed, hclaims⟩, hdelivered⟩ :=
    (hbefore.bound worker_honours fun _ ↦ trivial).allowed (Nat.zero_le _) hcall
  -- The row of the claim is still in the table, with its envelope.
  have hthere := listed_of_reaches hreaches
  obtain ⟨found, hfound, hsame, henvelope⟩ := hthere.claimed ⟨caller, performed⟩
    (hhistory ▸ List.mem_append_right _ (List.mem_cons_of_mem _ (mem_logOf.mp hperformed))) claimed hclaims
  obtain rfl := c.store.outbox.table.eq_of_key hfound hrow (hsame.trans hid)
  obtain ⟨recent, hrecent⟩ := hwhole.history_suffix
  exact ⟨before, oracle, recent, hbefore, hcondition, next_of_call hcall, hrecent,
    extends_of_reaches hwhole, henvelope ▸ hdelivered⟩

theorem allCalled_of_reaches
    (hreaches : Reaches (workerMachine Effect Rows Thrown decode) condition
      (.initial ⟨emptyOutbox now, []⟩) c) : AllCalled decode c where
  marked := by
    intro row hrow hpublished
    obtain ⟨caller, hmarked⟩ := (listed_of_reaches hreaches).marked row hrow hpublished
    obtain ⟨newer, older, hhistory⟩ := List.append_of_mem hmarked
    obtain ⟨request, hasked, -⟩ :=
      hreaches.allowed worker_honours (fun _ ↦ trivial) newer _ older hhistory
    exact ⟨caller, request, hasked, hmarked⟩
  called := by
    intro row hrow caller request hasked hmarked
    obtain ⟨before, -, recent, -, -, -, hhistory, -, later, segments, earlier, hlog, hdeliveries⟩ :=
      exists_mark hreaches hrow hasked hmarked
    refine ⟨logOf caller recent ++ later, segments, earlier, ?_, hdeliveries⟩
    rw [hhistory, logOf_append, hlog]
    simp

/-- Whatever crashes and fails, every consumer of a published event was called. Where no worker marks a row
after a consumer has failed in its run, every consumer has handled it. -/
theorem published_delivered
    (hreaches : Reaches (workerMachine Effect Rows Thrown decode) (fun _ _ ↦ True)
      (.initial ⟨emptyOutbox now, []⟩) c) :
    AllCalled decode c ∧
      (Reaches (workerMachine Effect Rows Thrown decode) Spares (.initial ⟨emptyOutbox now, []⟩) c →
        NoneLost decode c) := by
  refine ⟨allCalled_of_reaches hreaches, ?_⟩
  intro hspares row hrow _ caller request hasked hmarked subscription hsubscription
  obtain ⟨before, oracle, recent, hbefore, hsmoothly, hnext, -, hextends, later, segments, earlier, hlog,
    hdeliveries⟩ := exists_mark hspares hrow hasked hmarked
  have hsmooth : Smooth (logOf caller before.history) := hsmoothly _ hnext
  have hcommitted := committed_of_deliveries (transacts_of_reaches hbefore) hsmooth hdeliveries
    (fun performed hperformed ↦ by simp [hlog, hperformed])
    (subscription.delivery (decode row.envelope)).key (List.mem_map_of_mem hsubscription)
  exact .inl (consumed_of_committed hreaches (hextends.committed hcommitted))

end Theorem

/-! ### A consumer that fails -/

namespace Failing

open Retry (relay event)

def ping : EventCatalogueEntry where
  name := "platform.diagnostic.ping"
  schemaVersion := 1
  ownerModule := "platform"
  classification := .internal
  piiFlag := false
  allowedConsumers := ["worker-diagnostics", "projection"]
  retention := "P7D"
  payloadRule := .identifierOnly
  payloadExemption := none
  payloadSchema := ⟨⟨[("pingId", .string)], none⟩, ["pingId"]⟩

def readEnvelope (_ : String) : EventEnvelope where
  eventId := "event"
  eventName := "platform.diagnostic.ping"
  schemaVersion := 1
  occurredAt := 0
  correlationId := "correlation"
  causationId := none
  tenantId := none
  producer := "karar-worker"
  classification := .internal
  payload := []
  recordedAt := 0

/-- Both consumers write one row. -/
def subscription (consumerName : String) : String × Subscription String Unit String :=
  ("platform.diagnostic.ping", ⟨consumerName, fun _ ↦ Redelivery.delivery.fn⟩)

def runtime : WorkerRuntime String Unit String where
  relay := relay
  bus :=
    { catalogue := ⟨[ping]⟩
      subscriptions := [subscription "worker-diagnostics", subscription "projection"]
      allowed := by decide }

/-- A statement that is carried out, and one that fails. -/
def carriedOut : WorkerOracle Unit := ⟨{}, none, false, ()⟩

def refused : WorkerOracle Unit := ⟨{}, some deadlockDetected, false, ()⟩

abbrev WorkerEvents := List (Event (WorkerOracle Unit) (WorkerRequest String Unit String) WorkerTick)

/-- Four statements of a consumer that is called a first time. -/
def delivers (caller : ℕ) : WorkerEvents := List.replicate 4 (.advance caller carriedOut)

/-- The first consumer fails, and the worker crashes while it calls the second one. Another worker claims
the event when the claim has expired, and calls both. -/
def crashed : WorkerEvents :=
  [.turn (.outbox (.enqueue event)), .start (.run runtime), .advance 0 carriedOut, .advance 0 carriedOut,
    .advance 0 carriedOut, .advance 0 refused, .advance 0 carriedOut, .advance 0 carriedOut, .fail 0,
    .turn (.lost 1), .turn (.outbox (.clock 60000)), .start (.run runtime), .advance 1 carriedOut] ++
      delivers 1 ++ delivers 1 ++ [.advance 1 carriedOut]

theorem published_delivered_crashed :
    let c := (workerMachine String Unit String readEnvelope).finish Spares
      (.initial ⟨emptyOutbox 0, []⟩) crashed;
    AllCalled readEnvelope c ∧ NoneLost readEnvelope c := by
  intro c
  have hreaches : Reaches (workerMachine String Unit String readEnvelope) Spares
      (.initial ⟨emptyOutbox 0, []⟩) c := reaches_finish crashed
  obtain ⟨hcalled, hnone⟩ := published_delivered (hreaches.mono fun _ _ _ ↦ trivial)
  exact ⟨hcalled, hnone hreaches⟩

/-- The first consumer fails, the second one does not, and the event is marked. -/
def lost : WorkerEvents :=
  [.turn (.outbox (.enqueue event)), .start (.run runtime), .advance 0 carriedOut, .advance 0 carriedOut,
    .advance 0 carriedOut, .advance 0 refused, .advance 0 carriedOut] ++ delivers 0 ++
      [.advance 0 carriedOut]

/-- The event is published, the receipt of the first consumer is not committed, and nothing is due. -/
theorem failed_consumer_lost :
    ∃ c, Reaches (workerMachine String Unit String readEnvelope) (fun _ _ ↦ True)
      (.initial ⟨emptyOutbox 0, []⟩) c ∧ ¬ NoneLost readEnvelope c := by
  generalize hc : (workerMachine String Unit String readEnvelope).finish (fun _ _ ↦ True)
    (.initial ⟨emptyOutbox 0, []⟩) lost = c
  have hlost : (∃ row ∈ c.store.outbox.table.rows, row.publishedAt ≠ none) ∧
      (∀ row ∈ c.store.outbox.table.rows, ∀ call ∈ c.calls, ⟨"worker-diagnostics", "event"⟩ ∈
        call.request.runtime.bus.receipts (readEnvelope row.envelope)) ∧
      ¬ c.store.journal.Committed ⟨"worker-diagnostics", "event"⟩ := by
    rw [← hc]
    decide
  have hreaches : Reaches (workerMachine String Unit String readEnvelope) (fun _ _ ↦ True)
      (.initial ⟨emptyOutbox 0, []⟩) c := hc ▸ reaches_finish lost
  refine ⟨c, hreaches, fun hnone ↦ ?_⟩
  obtain ⟨⟨row, hrow, hpublished⟩, hreceipts, huncommitted⟩ := hlost
  obtain ⟨caller, request, hasked, hmarked⟩ := (allCalled_of_reaches hreaches).marked row hrow hpublished
  obtain ⟨call, hcall, rfl⟩ := Option.map_eq_some_iff.mp hasked
  obtain ⟨subscription, hsubscription, hkey⟩ :=
    List.mem_map.mp (hreceipts row hrow call (List.mem_of_getElem? hcall))
  rcases hnone row hrow hpublished caller _ hasked hmarked subscription hsubscription with
    ⟨transaction, hmem, hcommits, -⟩ | hpending
  · exact huncommitted ⟨transaction, hmem, hkey ▸ hcommits⟩
  · exact hpublished hpending.1

end Failing

end Karar.Outbox
