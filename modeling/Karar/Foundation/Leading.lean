import Mathlib.Data.List.Basic
import Mathlib.Order.Lattice

/-!
# The leading row of a table

A query that orders its rows and keeps the first one, and a loop that walks its rows and keeps the
best one met so far, compute the same thing: the row that no other row precedes, and among rows
that tie the one the table lists first. `leading` is that computation for a comparison `ahead`.
When `ahead` compares a key in a linear order, the leading row exists exactly on the nonempty tables
(`leading_eq_none_iff`), is one of the rows (`leading_mem`) and has the largest key
(`key_le_of_leading`). A row with a key above all others is the leading row
(`leading_eq_some_of_forall_lt`), and a restriction of the table that keeps the leading row does not
change it (`leading_filter`).
-/

namespace Karar.Foundation

variable {Row : Type*}

/-- The row met so far that no later row is ahead of. -/
def leadingFrom (ahead : Row → Row → Bool) : Row → List Row → Row
  | winner, [] => winner
  | winner, row :: rest => leadingFrom ahead (if ahead row winner then row else winner) rest

/-- The first row of a table that no row of the table is ahead of. -/
def leading (ahead : Row → Row → Bool) : List Row → Option Row
  | [] => none
  | row :: rest => some (leadingFrom ahead row rest)

theorem leading_eq_none_iff {ahead : Row → Row → Bool} {rows : List Row} :
    leading ahead rows = none ↔ rows = [] := by
  cases rows <;> simp [leading]

theorem leadingFrom_mem (ahead : Row → Row → Bool) (winner : Row) (rows : List Row) :
    leadingFrom ahead winner rows ∈ winner :: rows := by
  induction rows generalizing winner with
  | nil => simp [leadingFrom]
  | cons row rest ih =>
    have hrest := ih (if ahead row winner then row else winner)
    rw [leadingFrom]
    rcases List.mem_cons.mp hrest with hhead | htail
    · rw [hhead]
      split_ifs <;> simp
    · exact List.mem_cons_of_mem _ (List.mem_cons_of_mem _ htail)

/-- The leading row is a row of the table. -/
theorem leading_mem {ahead : Row → Row → Bool} {rows : List Row} {row : Row}
    (hrow : leading ahead rows = some row) : row ∈ rows := by
  cases rows with
  | nil => simp [leading] at hrow
  | cons first rest =>
    rw [leading, Option.some.injEq] at hrow
    exact hrow ▸ leadingFrom_mem ahead first rest

section Key

variable {Key : Type*} [LinearOrder Key] {key : Row → Key} {ahead : Row → Row → Bool}

theorem key_le_leadingFrom (hahead : ∀ a b, ahead a b = true ↔ key b < key a) (winner : Row)
    (rows : List Row) : ∀ row ∈ winner :: rows, key row ≤ key (leadingFrom ahead winner rows) := by
  induction rows generalizing winner with
  | nil => simp [leadingFrom]
  | cons next rest ih =>
    intro row hrow
    rw [leadingFrom]
    have hkept := ih (if ahead next winner then next else winner)
    have hhead := hkept _ List.mem_cons_self
    rcases List.mem_cons.mp hrow with rfl | hrow
    · refine le_trans ?_ hhead
      split_ifs with hnext
      · exact ((hahead _ _).mp hnext).le
      · exact le_rfl
    · rcases List.mem_cons.mp hrow with rfl | hrow
      · refine le_trans ?_ hhead
        split_ifs with hnext
        · exact le_rfl
        · exact not_lt.mp fun hlt ↦ hnext ((hahead _ _).mpr hlt)
      · exact hkept row (List.mem_cons_of_mem _ hrow)

/-- No row of the table has a larger key than the leading row. Assumes: the comparison is the one
of a key in a linear order. -/
theorem key_le_of_leading (hahead : ∀ a b, ahead a b = true ↔ key b < key a) {rows : List Row}
    {leader : Row} (hleader : leading ahead rows = some leader) {row : Row} (hrow : row ∈ rows) :
    key row ≤ key leader := by
  cases rows with
  | nil => simp at hrow
  | cons first rest =>
    rw [leading, Option.some.injEq] at hleader
    exact hleader ▸ key_le_leadingFrom hahead first rest row hrow

/-- Walking the rows replaces the winner at the first row that nothing later is ahead of, if that row
is ahead of the winner. -/
theorem leadingFrom_eq_self (hahead : ∀ a b, ahead a b = true ↔ key b < key a) {winner : Row}
    {rows : List Row} (hle : ∀ row ∈ rows, key row ≤ key winner) :
    leadingFrom ahead winner rows = winner := by
  induction rows with
  | nil => rfl
  | cons row rest ih =>
    have hbehind : ahead row winner = false :=
      Bool.eq_false_iff.mpr fun htrue ↦
        absurd ((hahead _ _).mp htrue) (not_lt.mpr (hle row List.mem_cons_self))
    rw [leadingFrom, hbehind]
    exact ih fun other hother ↦ hle other (List.mem_cons_of_mem _ hother)

theorem leadingFrom_append (hahead : ∀ a b, ahead a b = true ↔ key b < key a)
    {winner leader : Row} {before after : List Row} (hwinner : key winner < key leader)
    (hbefore : ∀ row ∈ before, key row < key leader)
    (hafter : ∀ row ∈ after, key row ≤ key leader) :
    leadingFrom ahead winner (before ++ leader :: after) = leader := by
  induction before generalizing winner with
  | nil =>
    rw [List.nil_append, leadingFrom, if_pos ((hahead _ _).mpr hwinner)]
    exact leadingFrom_eq_self hahead hafter
  | cons row rest ih =>
    rw [List.cons_append, leadingFrom]
    refine ih ?_ fun other hother ↦ hbefore other (List.mem_cons_of_mem _ hother)
    split_ifs
    · exact hbefore row List.mem_cons_self
    · exact hwinner

/-- The leading row is the first of the rows with the largest key. Assumes: the comparison is the
one of a key in a linear order. -/
theorem leading_eq_some_of_append (hahead : ∀ a b, ahead a b = true ↔ key b < key a)
    {leader : Row} {before after : List Row} (hbefore : ∀ row ∈ before, key row < key leader)
    (hafter : ∀ row ∈ after, key row ≤ key leader) :
    leading ahead (before ++ leader :: after) = some leader := by
  cases before with
  | nil => rw [List.nil_append, leading, leadingFrom_eq_self hahead hafter]
  | cons first rest =>
    rw [List.cons_append, leading, leadingFrom_append hahead (hbefore first List.mem_cons_self)
      (fun row hrow ↦ hbefore row (List.mem_cons_of_mem _ hrow)) hafter]

/-- A row whose key is above that of every other row is the leading row. Assumes: the comparison is
the one of a key in a linear order. -/
theorem leading_eq_some_of_forall_lt (hahead : ∀ a b, ahead a b = true ↔ key b < key a)
    {rows : List Row} {leader : Row} (hleader : leader ∈ rows)
    (hlt : ∀ row ∈ rows, row ≠ leader → key row < key leader) :
    leading ahead rows = some leader := by
  obtain ⟨winner, hwinner⟩ : ∃ winner, leading ahead rows = some winner := by
    cases rows with
    | nil => simp at hleader
    | cons first rest => exact ⟨_, rfl⟩
  by_cases heq : winner = leader
  · rw [hwinner, heq]
  · have hbelow := hlt winner (leading_mem hwinner) heq
    exact absurd (key_le_of_leading hahead hwinner hleader) (not_le.mpr hbelow)

theorem exists_split_of_leadingFrom (hahead : ∀ a b, ahead a b = true ↔ key b < key a)
    (winner : Row) (rows : List Row) :
    ∃ before after, winner :: rows = before ++ leadingFrom ahead winner rows :: after ∧
      (∀ row ∈ before, key row < key (leadingFrom ahead winner rows)) ∧
      ∀ row ∈ after, key row ≤ key (leadingFrom ahead winner rows) := by
  induction rows generalizing winner with
  | nil => exact ⟨[], [], rfl, by simp, by simp⟩
  | cons row rest ih =>
    by_cases hrow : ahead row winner = true
    · obtain ⟨before, after, hsplit, hbefore, hafter⟩ := ih row
      have hleader : leadingFrom ahead winner (row :: rest) = leadingFrom ahead row rest := by
        rw [leadingFrom, if_pos hrow]
      rw [hleader]
      refine ⟨winner :: before, after, by rw [hsplit, List.cons_append], ?_, hafter⟩
      intro other hother
      rcases List.mem_cons.mp hother with rfl | hother
      · exact lt_of_lt_of_le ((hahead _ _).mp hrow)
          (key_le_leadingFrom hahead row rest row List.mem_cons_self)
      · exact hbefore other hother
    · obtain ⟨before, after, hsplit, hbefore, hafter⟩ := ih winner
      have hleader : leadingFrom ahead winner (row :: rest) = leadingFrom ahead winner rest := by
        rw [leadingFrom, if_neg hrow]
      have hle : key row ≤ key winner := not_lt.mp fun hlt ↦ hrow ((hahead _ _).mpr hlt)
      rw [hleader]
      cases before with
      | nil =>
        rw [List.nil_append, List.cons.injEq] at hsplit
        refine ⟨[], row :: after, by rw [← hsplit.1, hsplit.2, List.nil_append], by simp, ?_⟩
        intro other hother
        rcases List.mem_cons.mp hother with rfl | hother
        · exact hsplit.1 ▸ hle
        · exact hafter other hother
      | cons first before =>
        rw [List.cons_append, List.cons.injEq] at hsplit
        obtain ⟨rfl, hrest⟩ := hsplit
        refine ⟨winner :: row :: before, after, congrArg (winner :: row :: ·) hrest, ?_, hafter⟩
        intro other hother
        have hwinner := hbefore winner List.mem_cons_self
        rcases List.mem_cons.mp hother with rfl | hother
        · exact hwinner
        · rcases List.mem_cons.mp hother with rfl | hother
          · exact lt_of_le_of_lt hle hwinner
          · exact hbefore other (List.mem_cons_of_mem _ hother)

/-- Restricting a table to the rows of a predicate keeps its leading row, when that row satisfies the
predicate. Assumes: the comparison is the one of a key in a linear order. -/
theorem leading_filter (hahead : ∀ a b, ahead a b = true ↔ key b < key a) {rows : List Row}
    {leader : Row} (hleader : leading ahead rows = some leader) {keep : Row → Bool}
    (hkeep : keep leader = true) : leading ahead (rows.filter keep) = some leader := by
  cases rows with
  | nil => simp [leading] at hleader
  | cons first rest =>
    rw [leading, Option.some.injEq] at hleader
    obtain ⟨before, after, hsplit, hbefore, hafter⟩ :=
      exists_split_of_leadingFrom hahead first rest
    rw [hleader] at hsplit hbefore hafter
    rw [hsplit, List.filter_append, List.filter_cons_of_pos hkeep]
    exact leading_eq_some_of_append hahead
      (fun row hrow ↦ hbefore row (List.mem_of_mem_filter hrow))
      fun row hrow ↦ hafter row (List.mem_of_mem_filter hrow)

end Key

end Karar.Foundation
