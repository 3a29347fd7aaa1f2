import Mathlib.Data.List.Basic

/-!
# Transactions over a unique key

Transactions insert keys into one table and write effects beside them. What a transaction did counts from
its commit on, and never where it was rolled back. The key is unique: an insert is a duplicate of a
committed one, and waits for a transaction that is still open (`Journal.tryInsert`). So at most one open or
committed transaction has a key (`Exclusive`), and a committed one stays what it is (`Journal.Extends`).
-/

namespace Karar.Foundation

inductive TransactionStatus
  | open_
  /-- A statement failed; nothing but the end of the transaction is left. -/
  | aborted
  | committed
  | rolledBack
deriving DecidableEq

structure Transaction (Key Effect : Type) where
  /-- The keys it inserted, latest first. -/
  inserted : List Key
  /-- What it wrote, oldest first. -/
  effects : List Effect
  status : TransactionStatus
deriving DecidableEq

/-- All transactions that were begun, by their number. -/
abbrev Journal (Key Effect : Type) := List (Transaction Key Effect)

variable {Key Effect : Type}

/-- The transaction has the key, and may still commit it or has. -/
def Transaction.Has (transaction : Transaction Key Effect) (key : Key) : Prop :=
  key ∈ transaction.inserted ∧
    (transaction.status = .open_ ∨ transaction.status = .committed)

/-- The key is in the table. -/
def Transaction.Commits (transaction : Transaction Key Effect) (key : Key) : Prop :=
  key ∈ transaction.inserted ∧ transaction.status = .committed

instance [DecidableEq Key] (transaction : Transaction Key Effect) (key : Key) :
    Decidable (transaction.Has key) :=
  inferInstanceAs (Decidable (_ ∧ _))

instance [DecidableEq Key] (transaction : Transaction Key Effect) (key : Key) :
    Decidable (transaction.Commits key) :=
  inferInstanceAs (Decidable (_ ∧ _))

theorem Transaction.Commits.has {transaction : Transaction Key Effect} {key : Key}
    (hcommits : transaction.Commits key) : transaction.Has key :=
  ⟨hcommits.1, .inr hcommits.2⟩

namespace Journal

variable (journal : Journal Key Effect)

def Committed (key : Key) : Prop := ∃ transaction ∈ journal, transaction.Commits key

instance [DecidableEq Key] (key : Key) : Decidable (Committed journal key) :=
  inferInstanceAs (Decidable (∃ transaction ∈ journal, transaction.Commits key))

def begin : Journal Key Effect × ℕ := (journal ++ [⟨[], [], .open_⟩], journal.length)

/-- What becomes of an insert. -/
inductive Admission
  | inserted
  | duplicate
  /-- Another open transaction has the key. -/
  | waits
deriving DecidableEq

def tryInsert [DecidableEq Key] (transaction : Transaction Key Effect) (key : Key) : Admission :=
  if Committed journal key ∨ key ∈ transaction.inserted then .duplicate
  else if ∃ other ∈ journal, other.Has key then .waits
  else .inserted

/-- At most one transaction has a key. -/
def Exclusive : Prop :=
  ∀ (first second : ℕ) (transaction other : Transaction Key Effect) (key : Key),
    journal[first]? = some transaction → journal[second]? = some other → transaction.Has key →
      other.Has key → first = second

/-- What was committed stays. -/
def Extends (journal later : Journal Key Effect) : Prop :=
  ∀ (number : ℕ) (transaction : Transaction Key Effect), journal[number]? = some transaction →
    transaction.status = .committed → later[number]? = some transaction

variable {journal} {later : Journal Key Effect} {number : ℕ} {transaction next : Transaction Key Effect}
  {key : Key}

/-- One transaction has changed. -/
theorem getElem?_set_cases {other : ℕ} {found : Transaction Key Effect}
    (hfound : (journal.set number next)[other]? = some found) :
    (other = number ∧ found = next) ∨ (other ≠ number ∧ journal[other]? = some found) := by
  by_cases hsame : other = number
  · subst hsame
    rw [List.getElem?_set] at hfound
    simp only [if_true] at hfound
    split_ifs at hfound
    exact .inl ⟨rfl, (Option.some.inj hfound).symm⟩
  · rw [List.getElem?_set_ne (Ne.symm hsame)] at hfound
    exact .inr ⟨hsame, hfound⟩

theorem set_same (hat : journal[number]? = some transaction) : journal.set number transaction = journal := by
  obtain ⟨hlt, rfl⟩ := List.getElem?_eq_some_iff.mp hat
  exact List.set_getElem_self hlt

/-- A transaction goes on with the keys it has, or with one that no other has. -/
theorem Exclusive.set (hexclusive : Exclusive journal) (hat : journal[number]? = some transaction)
    (hhas : ∀ key, next.Has key → transaction.Has key ∨ ∀ other ∈ journal, ¬ other.Has key) :
    Exclusive (journal.set number next) := by
  have hother : ∀ (second : ℕ) (other : Transaction Key Effect) (key : Key), next.Has key →
      journal[second]? = some other → other.Has key → number = second := by
    intro second other key hnext hsecond hotherHas
    rcases hhas key hnext with hold | hfree
    · exact hexclusive number second transaction other key hat hsecond hold hotherHas
    · exact absurd hotherHas (hfree other (List.mem_of_getElem? hsecond))
  intro first second one two key hfirst hsecond hone htwo
  rcases getElem?_set_cases hfirst with ⟨rfl, rfl⟩ | ⟨-, hfirstOld⟩ <;>
    rcases getElem?_set_cases hsecond with ⟨rfl, rfl⟩ | ⟨-, hsecondOld⟩
  · rfl
  · exact hother second two key hone hsecondOld htwo
  · exact (hother first one key htwo hfirstOld hone).symm
  · exact hexclusive first second one two key hfirstOld hsecondOld hone htwo

theorem Exclusive.begin (hexclusive : Exclusive journal) : Exclusive (Journal.begin journal).1 := by
  -- The transaction that is begun has nothing.
  have hold : ∀ (number : ℕ) (transaction : Transaction Key Effect) (key : Key),
      (Journal.begin journal).1[number]? = some transaction → transaction.Has key →
        journal[number]? = some transaction := by
    intro number transaction key hat hhas
    by_cases hlt : number < journal.length
    · rwa [Journal.begin, List.getElem?_append_left hlt] at hat
    · rw [Journal.begin, List.getElem?_append_right (Nat.not_lt.mp hlt), List.getElem?_singleton] at hat
      split_ifs at hat
      obtain rfl := Option.some.inj hat
      exact absurd hhas.1 List.not_mem_nil
  intro first second one two key hfirst hsecond hone htwo
  exact hexclusive first second one two key (hold first one key hfirst hone)
    (hold second two key hsecond htwo) hone htwo

theorem free_of_tryInsert [DecidableEq Key] (hinsert : tryInsert journal transaction key = .inserted) :
    ∀ other ∈ journal, ¬ other.Has key := by
  unfold tryInsert at hinsert
  split_ifs at hinsert with hcommitted hwaits
  intro other hother hhas
  exact hwaits ⟨other, hother, hhas⟩

/-- A key that nobody has is inserted. -/
theorem admit_of_free [DecidableEq Key] (hmem : transaction ∈ journal)
    (hopen : transaction.status = .open_) (hfree : ∀ other ∈ journal, ¬ other.Has key) :
    tryInsert journal transaction key = .inserted := by
  have hcommitted : ¬ (Committed journal key ∨ key ∈ transaction.inserted) := by
    rintro (⟨other, hother, hcommits⟩ | hown)
    · exact hfree other hother hcommits.has
    · exact hfree transaction hmem ⟨hown, .inl hopen⟩
  have hwaits : ¬ ∃ other ∈ journal, other.Has key := fun ⟨other, hother, hhas⟩ ↦
    hfree other hother hhas
  unfold tryInsert
  rw [if_neg hcommitted, if_neg hwaits]

/-- A duplicate is one of a committed insert, as far as the transaction has not inserted the key itself. -/
theorem committed_of_tryInsert [DecidableEq Key] (hinsert : tryInsert journal transaction key = .duplicate)
    (hown : key ∉ transaction.inserted) : Committed journal key := by
  unfold tryInsert at hinsert
  split_ifs at hinsert with hcommitted
  exact hcommitted.resolve_right hown

theorem Extends.refl (journal : Journal Key Effect) : Extends journal journal :=
  fun _ _ hat _ ↦ hat

theorem Extends.trans {last : Journal Key Effect} (hfirst : Extends journal later)
    (hsecond : Extends later last) : Extends journal last :=
  fun number transaction hat hcommitted ↦
    hsecond number transaction (hfirst number transaction hat hcommitted) hcommitted

/-- A transaction that is not committed changes. -/
theorem extends_set (hat : journal[number]? = some transaction)
    (hopen : transaction.status ≠ .committed) : Extends journal (journal.set number next) := by
  intro other found hfound hcommitted
  have hne : number ≠ other := by
    rintro rfl
    obtain rfl := Option.some.inj (hat.symm.trans hfound)
    exact hopen hcommitted
  rw [List.getElem?_set_ne hne]
  exact hfound

theorem extends_begin : Extends journal (Journal.begin journal).1 := by
  intro other found hfound _
  have hlt := (List.getElem?_eq_some_iff.mp hfound).1
  rw [Journal.begin, List.getElem?_append_left hlt]
  exact hfound

theorem Extends.committed (hextends : Extends journal later) (hcommitted : Committed journal key) :
    Committed later key := by
  obtain ⟨transaction, hmem, hcommits⟩ := hcommitted
  obtain ⟨number, hat⟩ := List.mem_iff_getElem?.mp hmem
  exact ⟨transaction, List.mem_of_getElem? (hextends number transaction hat hcommits.2), hcommits⟩

end Journal

end Karar.Foundation
