import Mathlib.Data.List.Basic
import Mathlib.Data.List.Nodup

/-!
# Tables with unique columns

A table is the list of its rows, and its primary key makes the key column duplicate-free. A lookup
by key finds the row that carries it (`find?_key_eq_some`), and two rows with one key are one row (`eq_of_key_eq`).

A `KeyedTable` carries the proofs that its primary key and a second column are duplicate-free, so
that a row with a taken key cannot be built in. Its writes are those of a relational store: an
insertion that is refused on a duplicate, an update of the rows that meet a condition, and a
deletion. A table without a second unique column uses its key twice.

`Evolves` says what a write leaves of the rows: every row has a successor, and every row after the
write succeeds one or is new. Facts about single rows are carried along a run by it.
-/

namespace Karar.Foundation

/-! ## Tables with a primary key -/

section Table

variable {Row Key : Type*} {key : Row → Key}

/-- A lookup by primary key finds the row carrying the key. Assumes: the key column is
duplicate-free. -/
theorem find?_key_eq_some [DecidableEq Key] {rows : List Row} (hkeys : (rows.map key).Nodup) {row : Row}
    (hrow : row ∈ rows) : rows.find? (fun other ↦ key other = key row) = some row := by
  induction rows with
  | nil => simp at hrow
  | cons first rest ih =>
    rw [List.map_cons, List.nodup_cons] at hkeys
    rcases List.mem_cons.mp hrow with rfl | hrest
    · simp
    · have hne : key first ≠ key row := fun heq ↦ hkeys.1 (heq ▸ List.mem_map_of_mem hrest)
      rw [List.find?_cons_of_neg (by simpa using hne)]
      exact ih hkeys.2 hrest

/-- Two rows of a table with one key are the same row. Assumes: the key column is
duplicate-free. -/
theorem eq_of_key_eq {rows : List Row} (hkeys : (rows.map key).Nodup) {first second : Row}
    (hfirst : first ∈ rows) (hsecond : second ∈ rows) (heq : key first = key second) :
    first = second :=
  List.inj_on_of_nodup_map hkeys hfirst hsecond heq

end Table

/-! ## Tables with two unique columns -/

structure KeyedTable {Row Key Alt : Type} (key : Row → Key) (alt : Row → Alt) where
  rows : List Row
  keys_nodup : (rows.map key).Nodup
  alts_nodup : (rows.map alt).Nodup

namespace KeyedTable

variable {Row Key Alt : Type} {key : Row → Key} {alt : Row → Alt}

def empty : KeyedTable key alt := ⟨[], List.nodup_nil, List.nodup_nil⟩

/-! ### Reads -/

section Find

variable [DecidableEq Key] {table : KeyedTable key alt} {row : Row}

def find (table : KeyedTable key alt) (wanted : Key) : Option Row :=
  table.rows.find? fun row ↦ key row = wanted

theorem find_eq_some_iff {wanted : Key} :
    table.find wanted = some row ↔ row ∈ table.rows ∧ key row = wanted := by
  constructor
  · intro hfind
    exact ⟨List.mem_of_find?_eq_some hfind, by simpa using List.find?_some hfind⟩
  · rintro ⟨hrow, rfl⟩
    exact find?_key_eq_some table.keys_nodup hrow

theorem find_eq_none_iff {wanted : Key} :
    table.find wanted = none ↔ ∀ row ∈ table.rows, key row ≠ wanted := by
  unfold find
  rw [List.find?_eq_none]
  simp

end Find

section FindAlt

variable [DecidableEq Alt] {table : KeyedTable key alt} {row : Row}

def findAlt (table : KeyedTable key alt) (wanted : Alt) : Option Row :=
  table.rows.find? fun row ↦ alt row = wanted

theorem findAlt_eq_some_iff {wanted : Alt} :
    table.findAlt wanted = some row ↔ row ∈ table.rows ∧ alt row = wanted := by
  constructor
  · intro hfind
    exact ⟨List.mem_of_find?_eq_some hfind, by simpa using List.find?_some hfind⟩
  · rintro ⟨hrow, rfl⟩
    exact find?_key_eq_some table.alts_nodup hrow

end FindAlt

theorem eq_of_key {table : KeyedTable key alt} {first second : Row} (hfirst : first ∈ table.rows)
    (hsecond : second ∈ table.rows) (heq : key first = key second) : first = second :=
  eq_of_key_eq table.keys_nodup hfirst hsecond heq

theorem eq_of_alt {table : KeyedTable key alt} {first second : Row} (hfirst : first ∈ table.rows)
    (hsecond : second ∈ table.rows) (heq : alt first = alt second) : first = second :=
  eq_of_key_eq table.alts_nodup hfirst hsecond heq

/-! ### Insertion -/

section Insert

variable [DecidableEq Key] [DecidableEq Alt] {table later : KeyedTable key alt} {row : Row}

/-- Insert a row, unless its key or its second column is taken. -/
def insert (table : KeyedTable key alt) (row : Row) : Option (KeyedTable key alt) :=
  if hkey : key row ∈ table.rows.map key then none
  else if halt : alt row ∈ table.rows.map alt then none
  else
    some
      { rows := table.rows ++ [row]
        keys_nodup := by
          rw [List.map_append, List.map_singleton]
          exact List.concat_eq_append ▸ table.keys_nodup.concat hkey
        alts_nodup := by
          rw [List.map_append, List.map_singleton]
          exact List.concat_eq_append ▸ table.alts_nodup.concat halt }

theorem rows_of_insert (hinsert : table.insert row = some later) :
    later.rows = table.rows ++ [row] := by
  unfold insert at hinsert
  split_ifs at hinsert with hkey halt
  exact (Option.some.inj hinsert) ▸ rfl

theorem key_ne_of_insert (hinsert : table.insert row = some later) :
    ∀ other ∈ table.rows, key other ≠ key row := by
  unfold insert at hinsert
  split_ifs at hinsert with hkey halt
  intro other hother heq
  exact hkey (heq ▸ List.mem_map_of_mem hother)

theorem mem_insert_iff (hinsert : table.insert row = some later) {other : Row} :
    other ∈ later.rows ↔ other ∈ table.rows ∨ other = row := by
  rw [rows_of_insert hinsert, List.mem_append, List.mem_singleton]

end Insert

/-! ### Update and deletion -/

/-- A change of a row that leaves both unique columns alone. -/
structure Rewrite {Row Key Alt : Type} (key : Row → Key) (alt : Row → Alt) where
  run : Row → Row
  key_run : ∀ row, key (run row) = key row
  alt_run : ∀ row, alt (run row) = alt row

/-- Change the rows that meet a condition. -/
def update (table : KeyedTable key alt) (condition : Row → Bool) (change : Rewrite key alt) :
    KeyedTable key alt where
  rows := table.rows.map fun row ↦ if condition row then change.run row else row
  keys_nodup := by
    have hsame : (key ∘ fun row ↦ if condition row then change.run row else row) = key := by
      funext row
      by_cases hcondition : condition row = true <;> simp [hcondition, change.key_run]
    rw [List.map_map, hsame]
    exact table.keys_nodup
  alts_nodup := by
    have hsame : (alt ∘ fun row ↦ if condition row then change.run row else row) = alt := by
      funext row
      by_cases hcondition : condition row = true <;> simp [hcondition, change.alt_run]
    rw [List.map_map, hsame]
    exact table.alts_nodup

section Update

variable {table : KeyedTable key alt} {condition : Row → Bool} {change : Rewrite key alt} {row : Row}

@[simp] theorem rows_update : (table.update condition change).rows =
    table.rows.map fun row ↦ if condition row then change.run row else row :=
  rfl

theorem mem_update_iff : row ∈ (table.update condition change).rows ↔
    ∃ old ∈ table.rows, row = if condition old then change.run old else old := by
  rw [rows_update, List.mem_map]
  exact exists_congr fun old ↦ and_congr_right fun _ ↦ eq_comm

/-- An update frees no key. -/
theorem key_ne_of_update {wanted : Key}
    (hne : ∀ row ∈ (table.update condition change).rows, key row ≠ wanted) :
    ∀ row ∈ table.rows, key row ≠ wanted := by
  intro row hrow
  have hupdated := hne _ (mem_update_iff.mpr ⟨row, hrow, rfl⟩)
  by_cases hcondition : condition row = true
  · rwa [if_pos hcondition, change.key_run] at hupdated
  · rwa [if_neg hcondition] at hupdated

end Update

/-! ### One row in the place of another -/

section Put

variable [DecidableEq Key] {table : KeyedTable key key} {row other : Row}

/-- Put a row in the place of the one with its key. -/
def put (table : KeyedTable key key) (row : Row) : KeyedTable key key :=
  have hkeys : ∀ old, key (if key old = key row then row else old) = key old := by
    intro old
    by_cases hsame : key old = key row <;> simp [hsame]
  table.update (fun _ ↦ true) ⟨fun old ↦ if key old = key row then row else old, hkeys, hkeys⟩

@[simp] theorem rows_put : (table.put row).rows =
    table.rows.map fun old ↦ if key old = key row then row else old := by
  simp [put]

/-- A row after the write is the written one, in the place of an old one, or was there. -/
theorem mem_put (hother : other ∈ (table.put row).rows) :
    (other = row ∧ ∃ old ∈ table.rows, key old = key row) ∨
      (other ∈ table.rows ∧ key other ≠ key row) := by
  rw [rows_put, List.mem_map] at hother
  obtain ⟨old, hold, rfl⟩ := hother
  by_cases hsame : key old = key row
  · rw [if_pos hsame]
    exact .inl ⟨rfl, old, hold, hsame⟩
  · rw [if_neg hsame]
    exact .inr ⟨hold, hsame⟩

theorem mem_put_of_ne (hother : other ∈ table.rows) (hne : key other ≠ key row) :
    other ∈ (table.put row).rows := by
  rw [rows_put, List.mem_map]
  exact ⟨other, hother, if_neg hne⟩

end Put

/-! ### Reads after writes -/

section FindAfter

variable [DecidableEq Key] {table later : KeyedTable key alt} {row : Row} {wanted : Key}

end FindAfter

/-- How many rows an update changes. -/
def count (table : KeyedTable key alt) (condition : Row → Bool) : ℕ :=
  table.rows.countP condition

theorem exists_of_count_ne_zero {table : KeyedTable key alt} {condition : Row → Bool}
    (hcount : table.count condition ≠ 0) : ∃ row ∈ table.rows, condition row = true := by
  unfold count at hcount
  exact List.countP_pos_iff.mp (Nat.pos_of_ne_zero hcount)

theorem forall_of_count_eq_zero {table : KeyedTable key alt} {condition : Row → Bool}
    (hcount : table.count condition = 0) : ∀ row ∈ table.rows, ¬ condition row = true := by
  unfold count at hcount
  exact List.countP_eq_zero.mp hcount

/-- A condition on the row of a key is met by one row or by none. -/
theorem count_of_key [DecidableEq Key] {table : KeyedTable key alt} {row : Row}
    {condition : Row → Bool} (hrow : row ∈ table.rows) (hcondition : condition row = true)
    (hkey : ∀ other ∈ table.rows, condition other = true → key other = key row) :
    table.count condition = 1 := by
  have hsame : table.rows.countP condition = table.rows.countP fun other ↦ key other == key row := by
    refine List.countP_congr fun other hother ↦ ⟨fun h ↦ beq_iff_eq.mpr (hkey other hother h), ?_⟩
    intro heq
    exact table.eq_of_key hother hrow (beq_iff_eq.mp heq) ▸ hcondition
  have hcount : (table.rows.map key).count (key row) = 1 :=
    List.count_eq_one_of_mem table.keys_nodup (List.mem_map_of_mem hrow)
  rw [List.count, List.countP_map] at hcount
  exact hsame.trans hcount

/-- Delete the rows that meet a condition. -/
def delete (table : KeyedTable key alt) (condition : Row → Bool) : KeyedTable key alt where
  rows := table.rows.filter fun row ↦ !condition row
  keys_nodup := (List.filter_sublist.map key).nodup table.keys_nodup
  alts_nodup := (List.filter_sublist.map alt).nodup table.alts_nodup

/-! ### Evolution -/

/-- Every row has a successor, and every later row succeeds one or is new and meets `fresh`. -/
structure Evolves (follows : Row → Row → Prop) (fresh : Row → Prop)
    (table later : KeyedTable key alt) : Prop where
  kept : ∀ row ∈ table.rows, ∃ successor ∈ later.rows, follows row successor
  origin : ∀ successor ∈ later.rows, (∃ row ∈ table.rows, follows row successor) ∨
    fresh successor ∧ ∀ row ∈ table.rows, key row ≠ key successor

section Evolves

variable {follows : Row → Row → Prop} {fresh wider : Row → Prop}
  {table middle later : KeyedTable key alt}

theorem evolves_refl (hrefl : ∀ row, follows row row) : Evolves follows fresh table table :=
  ⟨fun row hrow ↦ ⟨row, hrow, hrefl row⟩, fun row hrow ↦ .inl ⟨row, hrow, hrefl row⟩⟩

theorem evolves_update {condition : Row → Bool} {change : Rewrite key alt}
    (hrefl : ∀ row, follows row row)
    (hchange : ∀ row ∈ table.rows, condition row = true → follows row (change.run row)) :
    Evolves follows fresh table (table.update condition change) := by
  have hsucceeds : ∀ row ∈ table.rows,
      follows row (if condition row then change.run row else row) := by
    intro row hrow
    by_cases hcondition : condition row = true
    · rw [if_pos hcondition]
      exact hchange row hrow hcondition
    · rw [if_neg hcondition]
      exact hrefl row
  constructor
  · intro row hrow
    exact ⟨_, mem_update_iff.mpr ⟨row, hrow, rfl⟩, hsucceeds row hrow⟩
  · intro successor hsuccessor
    obtain ⟨row, hrow, rfl⟩ := mem_update_iff.mp hsuccessor
    exact .inl ⟨row, hrow, hsucceeds row hrow⟩

theorem evolves_insert [DecidableEq Key] [DecidableEq Alt] {row : Row}
    (hrefl : ∀ row, follows row row) (hfresh : fresh row)
    (hinsert : table.insert row = some later) : Evolves follows fresh table later := by
  constructor
  · intro old hold
    exact ⟨old, (mem_insert_iff hinsert).mpr (.inl hold), hrefl old⟩
  · intro successor hsuccessor
    rcases (mem_insert_iff hinsert).mp hsuccessor with hold | rfl
    · exact .inl ⟨successor, hold, hrefl successor⟩
    · exact .inr ⟨hfresh, key_ne_of_insert hinsert⟩

theorem Evolves.mono (hevolves : Evolves follows fresh table later)
    (hwider : ∀ row, fresh row → wider row) : Evolves follows wider table later :=
  ⟨hevolves.kept, fun successor hsuccessor ↦
    (hevolves.origin successor hsuccessor).imp_right fun h ↦ ⟨hwider successor h.1, h.2⟩⟩

/-- Two writes, the first of which inserts nothing. -/
theorem Evolves.trans (htrans : ∀ first second third, follows first second →
      follows second third → follows first third)
    (hkeys : ∀ first second, follows first second → key second = key first)
    (hfirst : Evolves follows (fun _ ↦ False) table middle)
    (hsecond : Evolves follows fresh middle later) : Evolves follows fresh table later := by
  constructor
  · intro row hrow
    obtain ⟨between, hbetween, hstep⟩ := hfirst.kept row hrow
    obtain ⟨successor, hsuccessor, hnext⟩ := hsecond.kept between hbetween
    exact ⟨successor, hsuccessor, htrans _ _ _ hstep hnext⟩
  · intro successor hsuccessor
    rcases hsecond.origin successor hsuccessor with ⟨between, hbetween, hnext⟩ | ⟨hfresh, hne⟩
    · rcases hfirst.origin between hbetween with ⟨row, hrow, hstep⟩ | ⟨hfalse, _⟩
      · exact .inl ⟨row, hrow, htrans _ _ _ hstep hnext⟩
      · exact hfalse.elim
    · refine .inr ⟨hfresh, fun row hrow ↦ ?_⟩
      obtain ⟨between, hbetween, hstep⟩ := hfirst.kept row hrow
      rw [← hkeys row between hstep]
      exact hne between hbetween

end Evolves

end KeyedTable

end Karar.Foundation
