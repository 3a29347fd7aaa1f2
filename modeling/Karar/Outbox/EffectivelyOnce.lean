import Karar.Outbox.Receipts

/-!
# Effectively-once consumption

The effects of a consumer for an event are committed with its receipt and with no other, after a complete
run of the handler; and the receipt is committed once. A delivery that is rolled back leaves nothing: only
a committed receipt answers a later delivery that there is nothing to do.
-/

namespace Karar.Outbox

open Foundation Journal Machine
open Platform (PgError)
open Platform.Adapter (Callback Rejection connectionTerminated inFailedTransaction)

variable {Effect Rows Thrown Result : Type}

/-! ### What a statement does to a transaction -/

def transactionOf : ConsumerOp Effect → Option ℕ
  | .begin => none
  | .insertReceipt number _ => some number
  | .query number _ => some number
  | .commit number => some number
  | .rollback number => some number

/-- An operation that failed, or that only ends a transaction. -/
def Quiet : ConsumerPerformed Effect Rows → Prop
  | ⟨_, .error _⟩ => True
  | ⟨.commit _, _⟩ => True
  | ⟨.rollback _, _⟩ => True
  | _ => False

theorem quiet_error {op : ConsumerOp Effect} (error : PgError) :
    Quiet (⟨op, .error error⟩ : ConsumerPerformed Effect Rows) := by
  cases op <;> trivial

theorem quiet_commit {number : ℕ} (answer : Except PgError Unit) :
    Quiet (⟨.commit number, answer⟩ : ConsumerPerformed Effect Rows) := by
  cases answer <;> trivial

theorem quiet_rollback {number : ℕ} (answer : Except PgError Unit) :
    Quiet (⟨.rollback number, answer⟩ : ConsumerPerformed Effect Rows) := by
  cases answer <;> trivial

/-- All that an operation can do. -/
inductive JournalChange (journal : ConsumerJournal Effect) :
    ConsumerPerformed Effect Rows → ConsumerJournal Effect → Prop
  /-- There was no open transaction to act on. -/
  | kept {op : ConsumerOp Effect} {answer : ConsumerAnswer Effect Rows op}
      (hover : ∀ number ∈ transactionOf op, ∀ transaction, journal[number]? = some transaction →
        transaction.status ≠ .open_)
      (hquiet : Quiet ⟨op, answer⟩) :
    JournalChange journal ⟨op, answer⟩ journal
  | began : JournalChange journal ⟨.begin, .ok journal.length⟩ journal.begin.1
  /-- The transaction is aborted or rolled back. -/
  | ended {op : ConsumerOp Effect} {answer : ConsumerAnswer Effect Rows op} {number : ℕ}
      {transaction : Transaction ReceiptKey Effect} {status : TransactionStatus}
      (hop : transactionOf op = some number) (hat : journal[number]? = some transaction)
      (hpending : transaction.status ≠ .committed) (hopen : status ≠ .open_)
      (hcommitted : status ≠ .committed) (hquiet : Quiet ⟨op, answer⟩) :
    JournalChange journal ⟨op, answer⟩ (journal.set number { transaction with status })
  | inserted {number : ℕ} {key : ReceiptKey} {transaction : Transaction ReceiptKey Effect}
      (hat : journal[number]? = some transaction) (hopen : transaction.status = .open_)
      (hfree : ∀ other ∈ journal, ¬ other.Has key) :
    JournalChange journal ⟨.insertReceipt number key, .ok 1⟩
      (journal.set number { transaction with inserted := key :: transaction.inserted })
  | duplicate {number : ℕ} {key : ReceiptKey} {transaction : Transaction ReceiptKey Effect}
      (hat : journal[number]? = some transaction) (hopen : transaction.status = .open_)
      (hinsert : journal.tryInsert transaction key = .duplicate) :
    JournalChange journal ⟨.insertReceipt number key, .ok 0⟩ journal
  | queried {number : ℕ} {effect : Effect} {rows : Rows} {transaction : Transaction ReceiptKey Effect}
      (hat : journal[number]? = some transaction) (hopen : transaction.status = .open_) :
    JournalChange journal ⟨.query number effect, .ok rows⟩
      (journal.set number { transaction with effects := transaction.effects ++ [effect] })
  | committed {number : ℕ} {answer : Except PgError Unit} {transaction : Transaction ReceiptKey Effect}
      (hat : journal[number]? = some transaction) (hopen : transaction.status = .open_) :
    JournalChange journal ⟨.commit number, answer⟩
      (journal.set number { transaction with status := .committed })

section Changes

variable {journal : ConsumerJournal Effect} {number : ℕ} {oracle : ConsumerOracle Rows}

/-- A statement that is executed, or fails. -/
theorem journalChange_execute {op : ConsumerOp Effect} (hop : transactionOf op = some number)
    {run : Transaction ReceiptKey Effect →
      Except PgError (Transaction ReceiptKey Effect × op.Value Rows)}
    (hrun : ∀ transaction next value, journal[number]? = some transaction →
      transaction.status = .open_ → run transaction = .ok (next, value) →
        JournalChange journal ⟨op, .ok value⟩ (journal.set number next)) :
    JournalChange journal ⟨op, (execute journal number oracle run).2⟩
      (execute journal number oracle run).1 := by
  unfold execute
  cases hat : journal[number]? with
  | none =>
    refine .kept (fun other hother transaction hfound ↦ ?_) (quiet_error _)
    obtain rfl := Option.some.inj (hop.symm.trans hother)
    simp [hat] at hfound
  | some transaction =>
    have hover : transaction.status ≠ .open_ → ∀ other ∈ transactionOf op, ∀ found,
        journal[other]? = some found → found.status ≠ .open_ := by
      intro hended other hother found hfound
      obtain rfl := Option.some.inj (hop.symm.trans hother)
      obtain rfl := Option.some.inj (hat.symm.trans hfound)
      exact hended
    cases hstatus : transaction.status with
    | aborted =>
      simp only [hstatus]
      exact .kept (hover (by simp [hstatus])) (quiet_error _)
    | committed =>
      simp only [hstatus]
      exact .kept (hover (by simp [hstatus])) (quiet_error _)
    | rolledBack =>
      simp only [hstatus]
      exact .kept (hover (by simp [hstatus])) (quiet_error _)
    | open_ =>
      cases hanswer : oracle.answer.bind fun _ ↦ run transaction with
      | error error =>
        simp only [hstatus, hanswer]
        exact .ended hop hat (by simp [hstatus]) (by simp) (by simp) (quiet_error _)
      | ok executed =>
        obtain ⟨next, value⟩ := executed
        simp only [hstatus, hanswer]
        cases hrefused : oracle.answer with
        | error error => simp [hrefused, Except.bind] at hanswer
        | ok =>
          rw [hrefused] at hanswer
          exact hrun transaction next value hat hstatus hanswer

theorem journalChange_commit :
    JournalChange journal
      (⟨.commit number, (commitTransaction journal number oracle).2⟩ : ConsumerPerformed Effect Rows)
      (commitTransaction journal number oracle).1 := by
  unfold commitTransaction
  cases hat : journal[number]? with
  | none =>
    refine .kept (fun other hother transaction hfound ↦ ?_) (quiet_commit _)
    obtain rfl := Option.some.inj hother
    simp [hat] at hfound
  | some transaction =>
    have hover : transaction.status ≠ .open_ → ∀ other ∈ transactionOf (.commit number : ConsumerOp Effect),
        ∀ found, journal[other]? = some found → found.status ≠ .open_ := by
      intro hended other hother found hfound
      obtain rfl := Option.some.inj hother
      obtain rfl := Option.some.inj (hat.symm.trans hfound)
      exact hended
    cases hstatus : transaction.status with
    | committed =>
      simp only [hstatus]
      exact .kept (hover (by simp [hstatus])) (quiet_commit _)
    | rolledBack =>
      simp only [hstatus]
      exact .kept (hover (by simp [hstatus])) (quiet_commit _)
    | aborted =>
      simp only [hstatus]
      exact .ended rfl hat (by simp [hstatus]) (by simp) (by simp) (quiet_commit _)
    | open_ =>
      simp only [hstatus]
      by_cases htook : oracle.refused.isSome && !oracle.took
      · simp only [htook, if_true]
        exact .ended rfl hat (by simp [hstatus]) (by simp) (by simp) (quiet_commit _)
      · simp only [htook, Bool.false_eq_true, if_false]
        exact .committed hat hstatus

theorem journalChange_rollback {answer : Except PgError Unit} :
    JournalChange journal (⟨.rollback number, answer⟩ : ConsumerPerformed Effect Rows)
      (rollbackTransaction journal number) := by
  unfold rollbackTransaction
  cases hat : journal[number]? with
  | none =>
    refine .kept (fun other hother transaction hfound ↦ ?_) (quiet_rollback _)
    obtain rfl := Option.some.inj hother
    simp [hat] at hfound
  | some transaction =>
    by_cases hcommitted : transaction.status = .committed
    · simp only [hcommitted]
      refine .kept (fun other hother found hfound ↦ ?_) (quiet_rollback _)
      obtain rfl := Option.some.inj hother
      obtain rfl := Option.some.inj (hat.symm.trans hfound)
      simp [hcommitted]
    · have hended : JournalChange journal (⟨.rollback number, answer⟩ : ConsumerPerformed Effect Rows)
          (journal.set number { transaction with status := .rolledBack }) :=
        .ended rfl hat hcommitted (by simp) (by simp) (quiet_rollback _)
      cases hstatus : transaction.status with
      | committed => exact absurd hstatus hcommitted
      | _ =>
        simp only [hstatus]
        exact hended

/-- Every operation is one of the changes. -/
theorem journalChange_perform (op : ConsumerOp Effect) :
    JournalChange journal ⟨op, (performConsumer journal op oracle).2⟩
      (performConsumer journal op oracle).1 := by
  cases op with
  | begin =>
    simp only [performConsumer]
    cases hrefused : oracle.answer with
    | error error => exact .kept (by simp [transactionOf]) (quiet_error _)
    | ok => exact .began
  | commit number => exact journalChange_commit
  | rollback number => exact journalChange_rollback
  | query number effect =>
    refine journalChange_execute rfl fun transaction next rows hat hopen hrun ↦ ?_
    obtain ⟨rfl, rfl⟩ := Prod.mk.inj (Except.ok.inj hrun)
    exact .queried hat hopen
  | insertReceipt number key =>
    refine journalChange_execute rfl fun transaction next count hat hopen hrun ↦ ?_
    unfold insertReceipt at hrun
    cases hinsert : journal.tryInsert transaction key with
    | waits => simp [hinsert] at hrun
    | duplicate =>
      simp only [hinsert] at hrun
      obtain ⟨rfl, rfl⟩ := Prod.mk.inj (Except.ok.inj hrun)
      rw [set_same hat]
      exact .duplicate hat hopen hinsert
    | inserted =>
      simp only [hinsert] at hrun
      obtain ⟨rfl, rfl⟩ := Prod.mk.inj (Except.ok.inj hrun)
      exact .inserted hat hopen (free_of_tryInsert hinsert)

end Changes

/-! ### What a delivery has seen -/

/-- A run of the handler to its end, in which every statement is executed. -/
inductive Completes : Callback Effect Rows Thrown Result → List Effect → Prop
  | done (result : Result) : Completes (.pure (.ok result)) []
  | executed {effect : Effect} {next : Except PgError Rows → Callback Effect Rows Thrown Result}
      {rows : Rows} {effects : List Effect} (hrest : Completes (next (.ok rows)) effects) :
    Completes (.call effect next) (effect :: effects)

/-- The receipt that an operation inserted. -/
def insertedBy : ConsumerPerformed Effect Rows → Option ReceiptKey
  | ⟨.insertReceipt _ key, .ok (_ + 1)⟩ => some key
  | _ => none

/-- The statement of the handler that an operation executed. -/
def executedBy : ConsumerPerformed Effect Rows → Option Effect
  | ⟨.query _ effect, .ok _⟩ => some effect
  | _ => none

/-- The transaction that an operation began. -/
def begunBy : ConsumerPerformed Effect Rows → Option ℕ
  | ⟨.begin, .ok number⟩ => some number
  | _ => none

/-- The receipts inserted, latest first. -/
def insertedIn (log : List (ConsumerPerformed Effect Rows)) : List ReceiptKey :=
  log.filterMap insertedBy

/-- The statements executed, oldest first. -/
def executedIn (log : List (ConsumerPerformed Effect Rows)) : List Effect :=
  (log.filterMap executedBy).reverse

/-- The delivery has begun the transaction. -/
def Begun (log : List (ConsumerPerformed Effect Rows)) (number : ℕ) : Prop :=
  ∃ performed ∈ log, begunBy performed = some number

/-- An operation that was answered without an error. -/
def Succeeded (performed : ConsumerPerformed Effect Rows) : Prop :=
  ∃ value, performed.2 = .ok value

theorem begunBy_quiet {performed : ConsumerPerformed Effect Rows} (hquiet : Quiet performed) :
    begunBy performed = none := by
  obtain ⟨op, answer⟩ := performed
  cases op with
  | begin =>
    cases answer with
    | error error => rfl
    | ok number => cases hquiet
  | _ => cases answer <;> rfl

section Logs

variable {log : List (ConsumerPerformed Effect Rows)} {performed : ConsumerPerformed Effect Rows}

theorem insertedIn_cons_of_none (hnone : insertedBy performed = none) :
    insertedIn (performed :: log) = insertedIn log :=
  List.filterMap_cons_none hnone

theorem executedIn_cons_of_none (hnone : executedBy performed = none) :
    executedIn (performed :: log) = executedIn log :=
  congrArg List.reverse (List.filterMap_cons_none hnone)

theorem executedIn_cons_of_some {effect : Effect} (hsome : executedBy performed = some effect) :
    executedIn (performed :: log) = executedIn log ++ [effect] := by
  unfold executedIn
  rw [List.filterMap_cons_some hsome, List.reverse_cons]

theorem begun_cons_of_none (hnone : begunBy performed = none) {number : ℕ} :
    Begun (performed :: log) number ↔ Begun log number := by
  simp [Begun, hnone]

end Logs

/-! ### The conduct of a delivery -/

/-- What is committed: the receipt with a complete run of the handler, as far as no statement failed, or
nothing where the receipt was there. -/
def Concluded (delivery : ConsumerDelivery Effect Rows Thrown Result)
    (log : List (ConsumerPerformed Effect Rows)) : Prop :=
  (insertedIn log = [delivery.key] ∧
      ((∀ performed ∈ log, Succeeded performed) → Completes delivery.fn (executedIn log))) ∨
    (insertedIn log = [] ∧ executedIn log = [] ∧
      ∃ number, ⟨.insertReceipt number delivery.key, .ok 0⟩ ∈ log)

def ConsumerConduct (delivery : ConsumerDelivery Effect Rows Thrown Result)
    (log : List (ConsumerPerformed Effect Rows)) : ConsumerOp Effect → Prop
  | .begin => log = []
  | .insertReceipt number key => key = delivery.key ∧ log = [⟨.begin, .ok number⟩]
  | .query number _ => Begun log number
  | .commit number => Begun log number ∧ Concluded delivery log
  | .rollback number => Begun log number

def consumerContract : Machine.Contract (ConsumerOp Effect) (ConsumerAnswer Effect Rows)
    (ConsumerJournal Effect) (ConsumerDelivery Effect Rows Thrown Result)
    (Except (Rejection Thrown) (IdempotentOutcome Result)) where
  invariant _ := True
  allowed := ConsumerConduct
  post _ _ _ := True

section Honours

variable {delivery : ConsumerDelivery Effect Rows Thrown Result} {number : ℕ}
  {log : List (ConsumerPerformed Effect Rows)}

/-- A part of a delivery. -/
abbrev Consumes (delivery : ConsumerDelivery Effect Rows Thrown Result)
    (log : List (ConsumerPerformed Effect Rows)) {Outcome : Type}
    (post : List (ConsumerPerformed Effect Rows) → Outcome → Prop)
    (step : ConsumerStep Effect Rows Outcome) : Prop :=
  Safe (consumerMachine Effect Rows Thrown Result).handler (fun _ ↦ True) (ConsumerConduct delivery)
    post log step

/-- What the handler adds: the statements of a complete run, unless one failed or it threw. -/
theorem onTransaction_consumes (fn : Callback Effect Rows Thrown Result) (hbegun : Begun log number) :
    Consumes delivery log
      (fun later outcome ↦ Begun later number ∧ insertedIn later = insertedIn log ∧ log ⊆ later ∧
        ((∀ performed ∈ later, Succeeded performed) → ∃ effects,
          executedIn later = executedIn log ++ effects ∧
            ∀ result, outcome = .ok result → Completes fn effects))
      (onTransaction number fn) := by
  induction fn generalizing log with
  | pure outcome =>
    refine ⟨hbegun, rfl, List.Subset.refl log, fun _ ↦ ⟨[], (List.append_nil _).symm, ?_⟩⟩
    rintro result rfl
    exact .done result
  | call effect next ih =>
    refine ⟨hbegun, fun journal oracle later answer _ _ ↦ ?_⟩
    refine (ih answer ((begun_cons_of_none rfl).mpr hbegun)).mono ?_
    rintro longer outcome ⟨hstill, hinserted, hsubset, hexecuted⟩
    refine ⟨hstill, hinserted, fun performed hperformed ↦ hsubset (List.mem_cons_of_mem _ hperformed),
      fun hsucceeded ↦ ?_⟩
    obtain ⟨effects, hlonger, hcompletes⟩ := hexecuted hsucceeded
    cases answer with
    | error error =>
      obtain ⟨rows, hrows⟩ := hsucceeded _ (hsubset List.mem_cons_self)
      cases hrows
    | ok rows =>
      rw [executedIn_cons_of_some rfl, List.append_assoc, List.singleton_append] at hlonger
      exact ⟨effect :: effects, hlonger, fun result hresult ↦ .executed (hcompletes result hresult)⟩

/-- The end of the transaction, with the receipt and the effects that go with it. -/
theorem endTransaction_consumes {Outcome : Type} {outcome : Except (Rejection Thrown) Outcome}
    (hbegun : Begun log number)
    (hconcluded : ∀ result, outcome = .ok result → Concluded delivery log) :
    Consumes delivery log (fun _ _ ↦ True) (endTransaction number outcome) := by
  cases outcome with
  | error rejection => exact safe_any_bind hbegun fun _ ↦ trivial
  | ok result =>
    refine safe_any_bind ⟨hbegun, hconcluded result rfl⟩ fun answer ↦ ?_
    cases answer with
    | ok => trivial
    | error error => exact safe_any_bind ((begun_cons_of_none rfl).mpr hbegun) fun _ ↦ trivial

theorem consume_honours (delivery : ConsumerDelivery Effect Rows Thrown Result) :
    (consumerMachine Effect Rows Thrown Result).Honours consumerContract delivery := by
  show Consumes delivery [] (fun _ _ ↦ True) delivery.consume
  unfold ConsumerDelivery.consume inTransaction
  refine safe_any_bind rfl fun begun ↦ ?_
  cases begun with
  | error error => trivial
  | ok number =>
    have hbegun : Begun [(⟨.begin, .ok number⟩ : ConsumerPerformed Effect Rows)] number :=
      ⟨_, List.mem_singleton_self _, rfl⟩
    refine safe_bind ?_
    unfold withIdempotency
    refine safe_any_bind ⟨rfl, rfl⟩ fun count ↦ ?_
    match count with
    | .error error => exact endTransaction_consumes ((begun_cons_of_none rfl).mpr hbegun) (by simp)
    | .ok 0 =>
      refine endTransaction_consumes ((begun_cons_of_none rfl).mpr hbegun) fun _ _ ↦ .inr ?_
      exact ⟨rfl, rfl, number, List.mem_cons_self⟩
    | .ok (count + 1) =>
      refine safe_bind_of (onTransaction_consumes delivery.fn ((begun_cons_of_none rfl).mpr hbegun)) ?_
      rintro later outcome ⟨hlater, hinserted, -, hexecuted⟩
      cases outcome with
      | error rejection => exact endTransaction_consumes hlater (by simp)
      | ok result =>
        refine endTransaction_consumes hlater fun _ _ ↦ .inl ⟨hinserted, fun hsucceeded ↦ ?_⟩
        obtain ⟨effects, heffects, hcompletes⟩ := hexecuted hsucceeded
        have hnone : executedIn later = effects := heffects
        exact hnone ▸ hcompletes result rfl

end Honours

/-! ### What a change leaves -/

section Leaves

variable {journal later : ConsumerJournal Effect} {performed : ConsumerPerformed Effect Rows}
  {number : ℕ} {transaction : Transaction ReceiptKey Effect}

theorem JournalChange.exclusive (hchange : JournalChange journal performed later)
    (hexclusive : Exclusive journal) : Exclusive later := by
  cases hchange with
  | kept _ _ => exact hexclusive
  | duplicate _ _ _ => exact hexclusive
  | began => exact hexclusive.begin
  | ended _ hat _ hopen hcommitted _ =>
    exact hexclusive.set hat fun key hhas ↦ absurd hhas.2 (by simp [hopen, hcommitted])
  | inserted hat hstatus hfree =>
    refine hexclusive.set hat fun key hhas ↦ ?_
    rcases List.mem_cons.mp hhas.1 with rfl | hold
    · exact .inr hfree
    · exact .inl ⟨hold, hhas.2⟩
  | queried hat _ => exact hexclusive.set hat fun key hhas ↦ .inl hhas
  | committed hat hopen => exact hexclusive.set hat fun key hhas ↦ .inl ⟨hhas.1, .inl hopen⟩

theorem JournalChange.extends (hchange : JournalChange journal performed later) :
    Extends journal later := by
  cases hchange with
  | kept _ _ => exact .refl journal
  | duplicate _ _ _ => exact .refl journal
  | began => exact extends_begin
  | ended _ hat hpending _ _ _ => exact extends_set hat hpending
  | inserted hat hopen _ => exact extends_set hat (by simp [hopen])
  | queried hat hopen => exact extends_set hat (by simp [hopen])
  | committed hat hopen => exact extends_set hat (by simp [hopen])

theorem JournalChange.length_le (hchange : JournalChange journal performed later) :
    journal.length ≤ later.length := by
  cases hchange with
  | began => simp [Journal.begin]
  | _ => simp

theorem JournalChange.begun (hchange : JournalChange journal performed later)
    (hbegun : begunBy performed = some number) :
    performed.1 = .begin ∧ number = journal.length ∧ later = journal.begin.1 := by
  cases hchange with
  | began => exact ⟨rfl, (Option.some.inj hbegun).symm, rfl⟩
  | kept _ hquiet => simp [begunBy_quiet hquiet] at hbegun
  | ended _ _ _ _ _ hquiet => simp [begunBy_quiet hquiet] at hbegun
  | _ => cases hbegun

/-- A transaction that the operation is not about. -/
theorem JournalChange.other (hchange : JournalChange journal performed later)
    (hlt : number < journal.length) (hne : transactionOf performed.1 ≠ some number) :
    later[number]? = journal[number]? := by
  cases hchange with
  | kept _ _ => rfl
  | duplicate _ _ _ => rfl
  | began => exact List.getElem?_append_left hlt
  | ended hop _ _ _ _ _ => exact List.getElem?_set_ne fun hsame ↦ hne (hop.trans (congrArg some hsame))
  | inserted _ _ _ => exact List.getElem?_set_ne fun hsame ↦ hne (congrArg some hsame)
  | queried _ _ => exact List.getElem?_set_ne fun hsame ↦ hne (congrArg some hsame)
  | committed _ _ => exact List.getElem?_set_ne fun hsame ↦ hne (congrArg some hsame)

/-- A transaction that is committed was so, or was open and is committed by the operation. -/
theorem JournalChange.committed_cases (hchange : JournalChange journal performed later)
    (hat : later[number]? = some transaction) (hcommitted : transaction.status = .committed) :
    journal[number]? = some transaction ∨
      performed.1 = .commit number ∧ ∃ earlier, journal[number]? = some earlier ∧
        earlier.status = .open_ ∧ transaction = { earlier with status := .committed } := by
  cases hchange with
  | kept _ _ => exact .inl hat
  | duplicate _ _ _ => exact .inl hat
  | began =>
    by_cases hlt : number < journal.length
    · exact .inl (by rwa [Journal.begin, List.getElem?_append_left hlt] at hat)
    · rw [Journal.begin, List.getElem?_append_right (not_lt.mp hlt), List.getElem?_singleton] at hat
      split_ifs at hat
      obtain rfl := Option.some.inj hat
      cases hcommitted
  | ended _ _ _ _ hended _ =>
    rcases getElem?_set_cases hat with ⟨rfl, rfl⟩ | ⟨-, hold⟩
    · exact absurd hcommitted hended
    · exact .inl hold
  | inserted _ hopen _ =>
    rcases getElem?_set_cases hat with ⟨rfl, rfl⟩ | ⟨-, hold⟩
    · exact absurd hcommitted (by simp [hopen])
    · exact .inl hold
  | queried _ hopen =>
    rcases getElem?_set_cases hat with ⟨rfl, rfl⟩ | ⟨-, hold⟩
    · exact absurd hcommitted (by simp [hopen])
    · exact .inl hold
  | committed hearlier hopen =>
    rcases getElem?_set_cases hat with ⟨rfl, rfl⟩ | ⟨-, hold⟩
    · exact .inr ⟨rfl, _, hearlier, hopen, rfl⟩
    · exact .inl hold

/-- An open transaction after an operation on it was open before, with what the operation has added. -/
theorem JournalChange.open_cases (hchange : JournalChange journal performed later)
    (hop : transactionOf performed.1 = some number) (hat : later[number]? = some transaction)
    (hopen : transaction.status = .open_) :
    ∃ earlier, journal[number]? = some earlier ∧ earlier.status = .open_ ∧ Succeeded performed ∧
      transaction.inserted = (insertedBy performed).toList ++ earlier.inserted ∧
        transaction.effects = earlier.effects ++ (executedBy performed).toList := by
  cases hchange with
  | kept hover _ => exact absurd hopen (hover number hop transaction hat)
  | began => cases hop
  | duplicate hearlier hstatus _ =>
    obtain rfl := Option.some.inj hop
    obtain rfl := Option.some.inj (hearlier.symm.trans hat)
    exact ⟨_, hearlier, hstatus, ⟨0, rfl⟩, rfl, (List.append_nil _).symm⟩
  | ended hop' _ _ hended _ _ =>
    obtain rfl := Option.some.inj (hop'.symm.trans hop)
    rcases getElem?_set_cases hat with ⟨-, rfl⟩ | ⟨hne, -⟩
    · exact absurd hopen hended
    · exact absurd rfl hne
  | inserted hearlier hstatus _ =>
    obtain rfl := Option.some.inj hop
    rcases getElem?_set_cases hat with ⟨-, rfl⟩ | ⟨hne, -⟩
    · exact ⟨_, hearlier, hstatus, ⟨1, rfl⟩, rfl, (List.append_nil _).symm⟩
    · exact absurd rfl hne
  | queried hearlier hstatus =>
    obtain rfl := Option.some.inj hop
    rcases getElem?_set_cases hat with ⟨-, rfl⟩ | ⟨hne, -⟩
    · exact ⟨_, hearlier, hstatus, ⟨_, rfl⟩, rfl, rfl⟩
    · exact absurd rfl hne
  | committed _ _ =>
    obtain rfl := Option.some.inj hop
    rcases getElem?_set_cases hat with ⟨-, rfl⟩ | ⟨hne, -⟩
    · cases hopen
    · exact absurd rfl hne

end Leaves

/-! ### The invariant -/

section Invariant

variable {c later : ConsumerConfiguration Effect Rows Thrown Result}
  {delivery : ConsumerDelivery Effect Rows Thrown Result} {caller number : ℕ}

/-- The transactions that a delivery has begun. -/
abbrev BegunBy (c : ConsumerConfiguration Effect Rows Thrown Result) (caller number : ℕ) : Prop :=
  Begun (logOf caller c.history) number

/-- What a committed transaction of a delivery is. -/
structure Settles (journal : ConsumerJournal Effect)
    (delivery : ConsumerDelivery Effect Rows Thrown Result)
    (transaction : Transaction ReceiptKey Effect) : Prop where
  receipt : journal.Committed delivery.key
  effects : (transaction.inserted = [delivery.key] ∧ Completes delivery.fn transaction.effects) ∨
    (transaction.inserted = [] ∧ transaction.effects = [])

/-- Every transaction has one delivery, whose log says what an open transaction has done. -/
structure Recorded (c : ConsumerConfiguration Effect Rows Thrown Result) : Prop where
  exclusive : Exclusive c.store
  lt : ∀ caller number, BegunBy c caller number → number < c.store.length
  owner : ∀ first second number, BegunBy c first number → BegunBy c second number → first = second
  single : ∀ caller first second, BegunBy c caller first → BegunBy c caller second → first = second
  pending : ∀ caller number transaction, BegunBy c caller number →
    c.store[number]? = some transaction → transaction.status = .open_ →
      transaction.inserted = insertedIn (logOf caller c.history) ∧
        transaction.effects = executedIn (logOf caller c.history) ∧
          ∀ performed ∈ logOf caller c.history, Succeeded performed
  committed : ∀ number transaction, c.store[number]? = some transaction →
    transaction.status = .committed → ∃ caller delivery, c.Asked caller delivery ∧
      BegunBy c caller number ∧ Settles c.store delivery transaction
  suppressed : ∀ occurrence ∈ c.history, ∀ number key,
    occurrence.performed = ⟨.insertReceipt number key, .ok 0⟩ → c.store.Committed key

theorem insertedIn_cons (performed : ConsumerPerformed Effect Rows)
    (log : List (ConsumerPerformed Effect Rows)) :
    insertedIn (performed :: log) = (insertedBy performed).toList ++ insertedIn log := by
  cases hinserted : insertedBy performed with
  | none => exact insertedIn_cons_of_none hinserted
  | some key => exact List.filterMap_cons_some hinserted

theorem executedIn_cons (performed : ConsumerPerformed Effect Rows)
    (log : List (ConsumerPerformed Effect Rows)) :
    executedIn (performed :: log) = executedIn log ++ (executedBy performed).toList := by
  cases hexecuted : executedBy performed with
  | none => exact (executedIn_cons_of_none hexecuted).trans (List.append_nil _).symm
  | some effect => exact executedIn_cons_of_some hexecuted

/-- An operation on a transaction is one of the delivery that began it. -/
theorem begun_of_conduct {log : List (ConsumerPerformed Effect Rows)} {op : ConsumerOp Effect}
    (hconduct : ConsumerConduct delivery log op) (hop : transactionOf op = some number) :
    Begun log number := by
  cases op with
  | begin => cases hop
  | insertReceipt transaction key =>
    obtain rfl := Option.some.inj hop
    obtain ⟨-, rfl⟩ := hconduct
    exact ⟨_, List.mem_singleton_self _, rfl⟩
  | query transaction effect => exact Option.some.inj hop ▸ hconduct
  | commit transaction => exact Option.some.inj hop ▸ hconduct.1
  | rollback transaction => exact Option.some.inj hop ▸ hconduct

theorem begun_cons {performed : ConsumerPerformed Effect Rows}
    {log : List (ConsumerPerformed Effect Rows)} (hbegun : Begun (performed :: log) number) :
    begunBy performed = some number ∨ Begun log number := by
  obtain ⟨found, hfound, hnumber⟩ := hbegun
  rcases List.mem_cons.mp hfound with rfl | hearlier
  · exact .inl hnumber
  · exact .inr ⟨found, hearlier, hnumber⟩

theorem Settles.extends {journal next : ConsumerJournal Effect}
    {transaction : Transaction ReceiptKey Effect} (hsettles : Settles journal delivery transaction)
    (hextends : Extends journal next) : Settles next delivery transaction :=
  ⟨hextends.committed hsettles.receipt, hsettles.effects⟩

variable {op : ConsumerOp Effect} {answer : ConsumerAnswer Effect Rows op}
  {next : ConsumerJournal Effect}
  {calls : List (Call (ConsumerOp Effect) (ConsumerAnswer Effect Rows)
    (ConsumerDelivery Effect Rows Thrown Result)
    (Except (Rejection Thrown) (IdempotentOutcome Result)))}

/-- What a delivery has begun after an operation of one. -/
theorem begunBy_perform {other : ℕ}
    (hbegun : BegunBy ⟨next, calls, ⟨caller, op, answer⟩ :: c.history⟩ other number) :
    BegunBy c other number ∨
      other = caller ∧ begunBy (⟨op, answer⟩ : ConsumerPerformed Effect Rows) = some number := by
  unfold BegunBy at hbegun
  by_cases hsame : caller = other
  · subst hsame
    rw [logOf_cons_self] at hbegun
    exact (begun_cons hbegun).symm.imp_right fun hnew ↦ ⟨rfl, hnew⟩
  · rw [logOf_cons_of_ne hsame] at hbegun
    exact .inl hbegun

theorem BegunBy.perform {other : ℕ} (hbegun : BegunBy c other number) :
    BegunBy ⟨next, calls, ⟨caller, op, answer⟩ :: c.history⟩ other number := by
  obtain ⟨performed, hperformed, hnumber⟩ := hbegun
  exact ⟨performed, mem_logOf.mpr (List.mem_cons_of_mem _ (mem_logOf.mp hperformed)), hnumber⟩

/-- A transaction that is begun is new. -/
theorem Recorded.fresh (hrecorded : Recorded c)
    (hchange : JournalChange c.store (⟨op, answer⟩ : ConsumerPerformed Effect Rows) next)
    (hbegun : begunBy (⟨op, answer⟩ : ConsumerPerformed Effect Rows) = some number) (other : ℕ) :
    ¬ BegunBy c other number := by
  obtain ⟨-, rfl, -⟩ := hchange.begun hbegun
  exact fun hold ↦ absurd (hrecorded.lt other _ hold) (lt_irrefl _)

/-- What an open transaction has done, after an operation of a delivery. -/
theorem Recorded.pending_perform (hrecorded : Recorded c)
    (hconduct : ConsumerConduct delivery (logOf caller c.history) op)
    (hchange : JournalChange c.store (⟨op, answer⟩ : ConsumerPerformed Effect Rows) next)
    {other : ℕ} {transaction : Transaction ReceiptKey Effect}
    (hbegun : BegunBy ⟨next, calls, ⟨caller, op, answer⟩ :: c.history⟩ other number)
    (hat : next[number]? = some transaction) (hopen : transaction.status = .open_) :
    let log := logOf other (⟨caller, op, answer⟩ :: c.history)
    transaction.inserted = insertedIn log ∧ transaction.effects = executedIn log ∧
      ∀ performed ∈ log, Succeeded performed := by
  intro log
  rcases begunBy_perform hbegun with hold | ⟨rfl, hnew⟩
  · have hlt := hrecorded.lt other number hold
    by_cases hop : transactionOf op = some number
    · -- The operation is one of the delivery that began the transaction.
      obtain rfl := hrecorded.owner other caller number hold (begun_of_conduct hconduct hop)
      obtain ⟨earlier, hearlier, hstatus, hsucceeded, hinserted, heffects⟩ :=
        hchange.open_cases hop hat hopen
      obtain ⟨hbefore, hexecuted, hall⟩ := hrecorded.pending other number earlier hold hearlier hstatus
      have hlog : log = ⟨op, answer⟩ :: logOf other c.history := logOf_cons_self _ _ _
      refine ⟨?_, ?_, fun performed hperformed ↦ ?_⟩
      · rw [hlog, insertedIn_cons, hinserted, hbefore]
      · rw [hlog, executedIn_cons, heffects, hexecuted]
      · rw [hlog] at hperformed
        rcases List.mem_cons.mp hperformed with rfl | hpast
        · exact hsucceeded
        · exact hall performed hpast
    · have hbefore : c.store[number]? = some transaction := by rwa [hchange.other hlt hop] at hat
      by_cases hsame : caller = other
      · -- A delivery has only the transaction that it began, and begins no other.
        subst hsame
        cases hnext : transactionOf op with
        | none =>
          cases op with
          | begin =>
            obtain ⟨performed, hperformed, -⟩ := hold
            rw [hconduct] at hperformed
            cases hperformed
          | _ => cases hnext
        | some found =>
          have hfound := hrecorded.single caller found number (begun_of_conduct hconduct hnext) hold
          exact absurd (hfound ▸ hnext) hop
      · have hlog : log = logOf other c.history := logOf_cons_of_ne hsame _ _
        rw [hlog]
        exact hrecorded.pending other number transaction hold hbefore hopen
  · obtain ⟨rfl, rfl, rfl⟩ := hchange.begun hnew
    have hlog : log = [⟨.begin, answer⟩] := by
      rw [show log = ⟨.begin, answer⟩ :: logOf other c.history from logOf_cons_self _ _ _, hconduct]
    rw [Journal.begin, List.getElem?_append_right (le_refl _), Nat.sub_self] at hat
    obtain rfl := Option.some.inj hat
    rw [hlog]
    cases answer with
    | error error => cases hnew
    | ok begun =>
      refine ⟨rfl, rfl, fun performed hperformed ↦ ?_⟩
      obtain rfl := List.mem_singleton.mp hperformed
      exact ⟨begun, rfl⟩

/-- A committed transaction, after an operation of a delivery. -/
theorem Recorded.committed_perform (hrecorded : Recorded c) (hasked : c.Asked caller delivery)
    (hconduct : ConsumerConduct delivery (logOf caller c.history) op)
    (hchange : JournalChange c.store (⟨op, answer⟩ : ConsumerPerformed Effect Rows) next)
    {transaction : Transaction ReceiptKey Effect} (hat : next[number]? = some transaction)
    (hcommitted : transaction.status = .committed) :
    ∃ other asked, c.Asked other asked ∧ BegunBy c other number ∧ Settles next asked transaction := by
  rcases hchange.committed_cases hat hcommitted with hold | ⟨hop, earlier, hearlier, hopen, rfl⟩
  · obtain ⟨other, asked, hother, hbegun, hsettles⟩ :=
      hrecorded.committed number transaction hold hcommitted
    exact ⟨other, asked, hother, hbegun, hsettles.extends hchange.extends⟩
  obtain rfl : op = .commit number := hop
  obtain ⟨hbegun, hconcluded⟩ := hconduct
  obtain ⟨hinserted, heffects, hall⟩ := hrecorded.pending caller number earlier hbegun hearlier hopen
  refine ⟨caller, delivery, hasked, hbegun, ?_⟩
  rcases hconcluded with ⟨hkey, hcompletes⟩ | ⟨hnone, hnothing, found, hduplicate⟩
  · refine ⟨⟨_, List.mem_of_getElem? hat, ?_, rfl⟩, .inl ⟨hinserted.trans hkey, ?_⟩⟩
    · rw [hinserted, hkey]
      exact List.mem_singleton_self _
    · rw [heffects]
      exact hcompletes hall
  · refine ⟨hchange.extends.committed ?_, .inr ⟨hinserted.trans hnone, heffects.trans hnothing⟩⟩
    exact hrecorded.suppressed _ (mem_logOf.mp hduplicate) found delivery.key rfl

/-- An insert that finds a receipt finds a committed one. -/
theorem Recorded.suppressed_perform (hrecorded : Recorded c)
    (hconduct : ConsumerConduct delivery (logOf caller c.history) op)
    (hchange : JournalChange c.store (⟨op, answer⟩ : ConsumerPerformed Effect Rows) next)
    {key : ReceiptKey} (hperformed : (⟨op, answer⟩ : ConsumerPerformed Effect Rows) =
      ⟨.insertReceipt number key, .ok 0⟩) : c.store.Committed key := by
  rw [hperformed] at hchange
  obtain rfl : op = .insertReceipt number key := congrArg Sigma.fst hperformed
  obtain ⟨-, hlog⟩ := hconduct
  generalize hcount : (0 : ℕ) = count at hchange
  cases hchange with
  | kept _ hquiet => cases hquiet
  | ended _ _ _ _ _ hquiet => cases hquiet
  | inserted _ _ _ => cases hcount
  | @duplicate _ _ transaction hat hopen hinsert =>
    have hbegun : BegunBy c caller number := by
      unfold BegunBy
      rw [hlog]
      exact ⟨_, List.mem_singleton_self _, rfl⟩
    obtain ⟨hinserted, -⟩ := hrecorded.pending caller number transaction hbegun hat hopen
    refine committed_of_tryInsert hinsert ?_
    rw [hinserted, hlog]
    exact List.not_mem_nil

theorem Recorded.perform (hrecorded : Recorded c) (hasked : c.Asked caller delivery)
    (hconduct : ConsumerConduct delivery (logOf caller c.history) op)
    (hchange : JournalChange c.store (⟨op, answer⟩ : ConsumerPerformed Effect Rows) next)
    (hcalls : ∀ other asked, c.Asked other asked →
      (⟨next, calls, ⟨caller, op, answer⟩ :: c.history⟩ :
        ConsumerConfiguration Effect Rows Thrown Result).Asked other asked) :
    Recorded (⟨next, calls, ⟨caller, op, answer⟩ :: c.history⟩ :
      ConsumerConfiguration Effect Rows Thrown Result) where
  exclusive := hchange.exclusive hrecorded.exclusive
  lt := by
    intro other number hbegun
    rcases begunBy_perform hbegun with hold | ⟨-, hnew⟩
    · exact (hrecorded.lt other number hold).trans_le hchange.length_le
    · obtain ⟨-, rfl, rfl⟩ := hchange.begun hnew
      simp [Journal.begin]
  owner := by
    intro first second number hfirst hsecond
    rcases begunBy_perform hfirst with hold | ⟨rfl, hnew⟩ <;>
      rcases begunBy_perform hsecond with hold' | ⟨rfl, hnew'⟩
    · exact hrecorded.owner first second number hold hold'
    · exact absurd hold (hrecorded.fresh hchange hnew' first)
    · exact absurd hold' (hrecorded.fresh hchange hnew second)
    · rfl
  single := by
    -- A delivery that begins a transaction has begun none before.
    have hnone : ∀ number, begunBy (⟨op, answer⟩ : ConsumerPerformed Effect Rows) = some number →
        ∀ other, ¬ BegunBy c caller other := by
      rintro number hnew other ⟨performed, hperformed, -⟩
      obtain ⟨hop, -, -⟩ := hchange.begun hnew
      obtain rfl : op = .begin := hop
      rw [hconduct] at hperformed
      cases hperformed
    intro other first second hfirst hsecond
    rcases begunBy_perform hfirst with hold | ⟨rfl, hnew⟩ <;>
      rcases begunBy_perform hsecond with hold' | ⟨hsame, hnew'⟩
    · exact hrecorded.single other first second hold hold'
    · exact absurd (hsame ▸ hold) (hnone second hnew' first)
    · exact absurd hold' (hnone first hnew second)
    · exact Option.some.inj (hnew.symm.trans hnew')
  pending := fun _ _ _ hbegun hat hopen ↦
    hrecorded.pending_perform hconduct hchange hbegun hat hopen
  committed := by
    intro number transaction hat hcommitted
    obtain ⟨other, asked, hother, hbegun, hsettles⟩ :=
      hrecorded.committed_perform hasked hconduct hchange hat hcommitted
    exact ⟨other, asked, hcalls other asked hother, hbegun.perform, hsettles⟩
  suppressed := by
    intro occurrence hoccurrence number key hperformed
    rcases List.mem_cons.mp hoccurrence with rfl | hearlier
    · exact hchange.extends.committed (hrecorded.suppressed_perform hconduct hchange hperformed)
    · exact hchange.extends.committed (hrecorded.suppressed occurrence hearlier number key hperformed)

/-- A connection that is lost rolls back what is not committed. -/
theorem Recorded.turn (hrecorded : Recorded c) (lost : ℕ) :
    Recorded ({ c with store := rollbackTransaction c.store lost } :
      ConsumerConfiguration Effect Rows Thrown Result) := by
  have hchange : JournalChange c.store (⟨.rollback lost, .ok ()⟩ : ConsumerPerformed Effect Rows)
      (rollbackTransaction c.store lost) := journalChange_rollback
  refine ⟨hchange.exclusive hrecorded.exclusive, ?_, hrecorded.owner, hrecorded.single, ?_, ?_, ?_⟩
  · intro caller number hbegun
    exact (hrecorded.lt caller number hbegun).trans_le hchange.length_le
  · intro caller number transaction hbegun hat hopen
    by_cases hsame : lost = number
    · obtain ⟨earlier, hearlier, hstatus, -, hinserted, heffects⟩ :=
        hchange.open_cases (congrArg some hsame) hat hopen
      obtain ⟨hbefore, hexecuted, hall⟩ :=
        hrecorded.pending caller number earlier hbegun hearlier hstatus
      exact ⟨hinserted.trans hbefore, (heffects.trans (List.append_nil _)).trans hexecuted, hall⟩
    · have hold : c.store[number]? = some transaction := by
        rwa [hchange.other (hrecorded.lt caller number hbegun)
          fun hop ↦ hsame (Option.some.inj hop)] at hat
      exact hrecorded.pending caller number transaction hbegun hold hopen
  · intro number transaction hat hcommitted
    rcases hchange.committed_cases hat hcommitted with hold | ⟨hop, -⟩
    · obtain ⟨caller, delivery, hasked, hbegun, hsettles⟩ :=
        hrecorded.committed number transaction hold hcommitted
      exact ⟨caller, delivery, hasked, hbegun, hsettles.extends hchange.extends⟩
    · cases hop
  · intro occurrence hoccurrence number key hperformed
    exact hchange.extends.committed (hrecorded.suppressed occurrence hoccurrence number key hperformed)

end Invariant

/-! ### Runs -/

section Runs

variable {c : ConsumerConfiguration Effect Rows Thrown Result}

theorem recorded_of_reaches
    (hreaches : Reaches (consumerMachine Effect Rows Thrown Result) (fun _ _ ↦ True) (.initial []) c) :
    Recorded c := by
  refine (hreaches.keeps consume_honours (fun _ _ ↦ trivial) ?_
    (fun _ h ↦ absurd h List.not_mem_nil) ?_).1
  · intro c event later _ hrecorded hkeeps _ hstep
    have hasked : ∀ other asked, c.Asked other asked → later.Asked other asked :=
      fun _ _ ↦ asked_step hstep
    cases steps_of_step_eq_some hstep with
    | start delivery =>
      refine ⟨hrecorded.exclusive, hrecorded.lt, hrecorded.owner, hrecorded.single, hrecorded.pending,
        fun number transaction hat hcommitted ↦ ?_, hrecorded.suppressed⟩
      obtain ⟨other, asked, hother, hrest⟩ := hrecorded.committed number transaction hat hcommitted
      exact ⟨other, asked, hasked other asked hother, hrest⟩
    | perform hcall hanswer =>
      obtain ⟨rfl, rfl⟩ := Prod.mk.inj (Option.some.inj hanswer)
      exact hrecorded.perform (asked_of_call hcall) (hkeeps.allowed (Nat.zero_le _) hcall)
        (journalChange_perform _) hasked
    | end_ hcall =>
      refine ⟨hrecorded.exclusive, hrecorded.lt, hrecorded.owner, hrecorded.single, hrecorded.pending,
        fun number transaction hat hcommitted ↦ ?_, hrecorded.suppressed⟩
      obtain ⟨other, asked, hother, hrest⟩ := hrecorded.committed number transaction hat hcommitted
      exact ⟨other, asked, hasked other asked hother, hrest⟩
    | turn lost => exact hrecorded.turn lost
  · refine ⟨?_, ?_, ?_, ?_, ?_, ?_, ?_⟩
    · intro first second transaction other key hfirst
      simp [Configuration.initial] at hfirst
    · rintro caller number ⟨performed, hperformed, -⟩
      cases hperformed
    · rintro first second number ⟨performed, hperformed, -⟩
      cases hperformed
    · rintro caller first second ⟨performed, hperformed, -⟩
      cases hperformed
    · rintro caller number transaction ⟨performed, hperformed, -⟩
      cases hperformed
    · intro number transaction hat
      simp [Configuration.initial] at hat
    · exact fun _ h ↦ absurd h List.not_mem_nil

/-- The effects of a consumer for an event are committed once, if any of its deliveries is. -/
structure EffectivelyOnce (c : ConsumerConfiguration Effect Rows Thrown Result) : Prop where
  /-- Two committed transactions with one receipt are one. -/
  atMostOnce : ∀ (key : ReceiptKey) (first second : ℕ) (transaction other : Transaction ReceiptKey Effect),
    c.store[first]? = some transaction → c.store[second]? = some other → transaction.Commits key →
      other.Commits key → first = second
  /-- What is committed is the receipt of a delivery with a complete run of its handler, or nothing. -/
  complete : ∀ number transaction, c.store[number]? = some transaction →
    transaction.status = .committed → ∃ caller delivery, c.Asked caller delivery ∧
      BegunBy c caller number ∧
        ((transaction.inserted = [delivery.key] ∧ Completes delivery.fn transaction.effects) ∨
          (transaction.inserted = [] ∧ transaction.effects = []))
  /-- Where the transaction of a delivery is committed, one transaction has committed its receipt. -/
  exactlyOnce : ∀ caller delivery number transaction, c.Asked caller delivery →
    BegunBy c caller number → c.store[number]? = some transaction →
      transaction.status = .committed →
        ∃! committed : ℕ, ∃ executed : Transaction ReceiptKey Effect,
          c.store[committed]? = some executed ∧ executed.Commits delivery.key
  /-- A delivery skips the handler only where the receipt is committed. -/
  suppressed : ∀ occurrence ∈ c.history, ∀ number key,
    occurrence.performed = ⟨.insertReceipt number key, .ok 0⟩ → c.store.Committed key
  /-- A receipt that no open or committed transaction has is inserted. -/
  admitted : ∀ transaction ∈ c.store, transaction.status = .open_ → ∀ key : ReceiptKey,
    (∀ other ∈ c.store, ¬ other.Has key) → c.store.tryInsert transaction key = .inserted

/-- Whatever the deliveries of the events are, in whatever order their transactions take their steps, and
wherever they are rolled back. -/
theorem effectively_once
    (hreaches : Reaches (consumerMachine Effect Rows Thrown Result) (fun _ _ ↦ True) (.initial []) c) :
    EffectivelyOnce c := by
  have hrecorded := recorded_of_reaches hreaches
  have honce : ∀ (key : ReceiptKey) (first second : ℕ)
      (transaction other : Transaction ReceiptKey Effect), c.store[first]? = some transaction →
        c.store[second]? = some other → transaction.Commits key → other.Commits key → first = second :=
    fun key first second transaction other hfirst hsecond hcommits hother ↦
      hrecorded.exclusive first second transaction other key hfirst hsecond hcommits.has hother.has
  refine ⟨honce, ?_, ?_, hrecorded.suppressed, fun transaction htransaction hopen key hfree ↦
    admit_of_free htransaction hopen hfree⟩
  · intro number transaction hat hcommitted
    obtain ⟨caller, delivery, hasked, hbegun, hsettles⟩ :=
      hrecorded.committed number transaction hat hcommitted
    exact ⟨caller, delivery, hasked, hbegun, hsettles.effects⟩
  · intro caller delivery number transaction hasked hbegun hat hcommitted
    obtain ⟨other, asked, hother, hbegunOther, hsettles⟩ :=
      hrecorded.committed number transaction hat hcommitted
    obtain rfl := hrecorded.owner other caller number hbegunOther hbegun
    obtain rfl := hother.unique hasked
    obtain ⟨executed, hmem, hcommits⟩ := hsettles.receipt
    obtain ⟨committed, hfound⟩ := List.mem_iff_getElem?.mp hmem
    refine ⟨committed, ⟨executed, hfound, hcommits⟩, ?_⟩
    rintro second ⟨again, hagain, hcommitsAgain⟩
    exact honce asked.key second committed again executed hagain hfound hcommitsAgain hcommits

end Runs

/-! ### A redelivery -/

namespace Redelivery

/-- A consumer that writes one row. -/
def delivery : ConsumerDelivery String Unit String Unit where
  key := ⟨"projection", "event"⟩
  fn := .call "insert" fun
    | .ok () => .pure (.ok ())
    | .error error => .pure (.error (.pg error))

/-- The event is delivered three times: the statement of the first delivery fails, the second is
committed, and the third finds the receipt. -/
def events : List (Event (ConsumerOracle Unit) (ConsumerDelivery String Unit String Unit) ℕ) :=
  [.start delivery, .start delivery, .advance 0 ⟨none, false, ()⟩, .advance 0 ⟨none, false, ()⟩,
    .advance 0 ⟨some deadlockDetected, false, ()⟩, .advance 0 ⟨none, false, ()⟩,
    .advance 1 ⟨none, false, ()⟩, .advance 1 ⟨none, false, ()⟩, .advance 1 ⟨none, false, ()⟩,
    .start delivery, .advance 2 ⟨none, false, ()⟩, .advance 1 ⟨none, false, ()⟩,
    .advance 2 ⟨none, false, ()⟩, .advance 2 ⟨none, false, ()⟩]

theorem effectively_once_redelivered :
    EffectivelyOnce ((consumerMachine String Unit String Unit).finish (fun _ _ ↦ True) (.initial [])
      events) :=
  effectively_once (reaches_finish events)

end Redelivery

end Karar.Outbox
