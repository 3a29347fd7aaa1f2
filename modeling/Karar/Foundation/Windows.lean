import Mathlib.Data.List.Perm.Basic
import Mathlib.Order.Lattice
import Mathlib.Tactic.Common

/-!
# Half-open windows

A window of time has a start, which it covers, and may have an end, which it does not cover. Two
windows are apart where no time is covered by both. An end can only be brought forward, from never
or from a later time, and what was apart before stays apart (`Window.Apart.of_within`).

Windows that are not empty are apart where one ends before the other starts (`Window.apart_iff`);
two of them that never end are not (`Window.not_apart_of_open`). In a list of pairwise apart windows
at most one covers a time (`length_covering_le`).
-/

namespace Karar.Foundation

variable {Time : Type*} [LinearOrder Time]

@[ext]
structure Window (Time : Type*) where
  start : Time
  /-- `none` where the window never ends. -/
  ending : Option Time
deriving DecidableEq

namespace Window

/-- From the start on, and before the end. -/
def Covers (window : Window Time) (time : Time) : Prop :=
  window.start ≤ time ∧ ∀ ending ∈ window.ending, time < ending

instance (window : Window Time) (time : Time) : Decidable (window.Covers time) :=
  inferInstanceAs (Decidable (_ ∧ ∀ ending ∈ window.ending, time < ending))

def Nonempty (window : Window Time) : Prop :=
  ∀ ending ∈ window.ending, window.start < ending

instance (window : Window Time) : Decidable window.Nonempty :=
  inferInstanceAs (Decidable (∀ ending ∈ window.ending, window.start < ending))

/-- No time is covered by both. -/
def Apart (first second : Window Time) : Prop :=
  ∀ time, ¬ (first.Covers time ∧ second.Covers time)

/-- The window has ended by a time. -/
def EndsBy (window : Window Time) (time : Time) : Prop :=
  ∃ ending ∈ window.ending, ending ≤ time

instance (window : Window Time) (time : Time) : Decidable (window.EndsBy time) :=
  inferInstanceAs (Decidable (∃ ending ∈ window.ending, ending ≤ time))

/-- Every time of the window is one of another. -/
def Within (inner outer : Window Time) : Prop :=
  ∀ time, inner.Covers time → outer.Covers time

variable {first second inner outer window : Window Time} {time : Time}

theorem covers_start (hnonempty : window.Nonempty) : window.Covers window.start :=
  ⟨le_refl _, hnonempty⟩

theorem not_endsBy_iff : ¬ window.EndsBy time ↔ ∀ ending ∈ window.ending, time < ending := by
  unfold EndsBy
  simp

theorem Apart.symm (hapart : first.Apart second) : second.Apart first :=
  fun time hboth ↦ hapart time hboth.symm

theorem Within.refl (window : Window Time) : window.Within window :=
  fun _ ↦ id

/-- Bringing the end of a window forward. -/
theorem within_of_open (hopen : window.ending = none) (ending : Option Time) :
    Within { window with ending := ending } window := by
  intro time hcovers
  refine ⟨hcovers.1, fun later hlater ↦ ?_⟩
  rw [hopen] at hlater
  cases hlater

/-- Windows within apart windows are apart. -/
theorem Apart.of_within (hapart : first.Apart second) (hinner : inner.Within first)
    (houter : outer.Within second) : inner.Apart outer :=
  fun time hboth ↦ hapart time ⟨hinner time hboth.1, houter time hboth.2⟩

theorem apart_of_endsBy (hends : first.EndsBy second.start) : first.Apart second := by
  intro time hboth
  obtain ⟨ending, hending, hle⟩ := hends
  have hbefore : time < ending := hboth.1.2 ending hending
  exact absurd (hbefore.trans_le hle) (not_lt.mpr hboth.2.1)

/-- Where neither window ends before the other starts, the later start is in both. -/
theorem apart_iff (hfirst : first.Nonempty) (hsecond : second.Nonempty) :
    first.Apart second ↔ first.EndsBy second.start ∨ second.EndsBy first.start := by
  constructor
  · intro hapart
    by_contra hneither
    rw [not_or, not_endsBy_iff, not_endsBy_iff] at hneither
    refine hapart (max first.start second.start) ⟨⟨le_max_left _ _, ?_⟩, ⟨le_max_right _ _, ?_⟩⟩
    · exact fun ending hending ↦ max_lt (hfirst ending hending) (hneither.1 ending hending)
    · exact fun ending hending ↦ max_lt (hneither.2 ending hending) (hsecond ending hending)
  · rintro (hends | hends)
    · exact apart_of_endsBy hends
    · exact (apart_of_endsBy hends).symm

/-- A window that never ends is apart from another where that one ends by its start. -/
theorem apart_open_iff (hfirst : first.Nonempty) (hopen : second.ending = none) :
    first.Apart second ↔ first.EndsBy second.start := by
  have hnonempty : second.Nonempty := by simp [Nonempty, hopen]
  rw [apart_iff hfirst hnonempty]
  simp [EndsBy, hopen]

theorem not_apart_of_open (hfirst : first.ending = none) (hsecond : second.ending = none) :
    ¬ first.Apart second := by
  have hnonempty : first.Nonempty := by simp [Nonempty, hfirst]
  rw [apart_open_iff hnonempty hsecond]
  simp [EndsBy, hfirst]

end Window

section Lists

variable {Row : Type*} {windowOf : Row → Window Time} {rows : List Row}

/-- Where no two rows that meet a condition are related, at most one of pairwise related rows meets
it. -/
theorem length_filter_le_one {related : Row → Row → Prop} {condition : Row → Bool}
    (hpairs : rows.Pairwise related)
    (hunrelated : ∀ first second, condition first → condition second → ¬ related first second) :
    (rows.filter condition).length ≤ 1 := by
  induction rows with
  | nil => simp
  | cons row rows ih =>
    obtain ⟨hrow, hrows⟩ := List.pairwise_cons.mp hpairs
    by_cases hmeets : condition row = true
    · have hnone : rows.filter condition = [] := by
        rw [List.filter_eq_nil_iff]
        intro other hother hmeetsToo
        exact hunrelated row other hmeets hmeetsToo (hrow other hother)
      simp [hmeets, hnone]
    · rw [List.filter_cons_of_neg hmeets]
      exact ih hrows

/-- Of pairwise apart windows at most one covers a time. -/
theorem length_covering_le
    (hapart : rows.Pairwise fun first second ↦ (windowOf first).Apart (windowOf second))
    (time : Time) : (rows.filter fun row ↦ (windowOf row).Covers time).length ≤ 1 := by
  refine length_filter_le_one hapart fun first second hfirst hsecond happart ↦ ?_
  exact happart time ⟨of_decide_eq_true hfirst, of_decide_eq_true hsecond⟩

/-- Of pairwise apart windows at most one never ends. -/
theorem length_open_le
    (hapart : rows.Pairwise fun first second ↦ (windowOf first).Apart (windowOf second)) :
    (rows.filter fun row ↦ (windowOf row).ending.isNone).length ≤ 1 := by
  refine length_filter_le_one hapart fun first second hfirst hsecond happart ↦ ?_
  rw [Option.isNone_iff_eq_none] at hfirst hsecond
  exact Window.not_apart_of_open hfirst hsecond happart

/-- A list of at most one row is the only one of its rows. -/
theorem eq_of_perm_of_length_le {other : List Row} (hperm : other.Perm rows)
    (hlength : rows.length ≤ 1) : other = rows := by
  match rows, hlength with
  | [], _ => exact hperm.eq_nil
  | [row], _ => exact List.perm_singleton.mp hperm

section Selected

variable {related : Row → Row → Prop} {condition : Row → Bool} {other : List Row}

/-- Where at most one of the rows can meet a condition, their order does not matter to it. -/
theorem filter_eq_of_perm (hpairs : rows.Pairwise related)
    (hunrelated : ∀ first second, condition first → condition second → ¬ related first second)
    (hperm : other.Perm rows) : other.filter condition = rows.filter condition :=
  eq_of_perm_of_length_le (hperm.filter condition) (length_filter_le_one hpairs hunrelated)

theorem find?_eq_of_perm (hpairs : rows.Pairwise related)
    (hunrelated : ∀ first second, condition first → condition second → ¬ related first second)
    (hperm : other.Perm rows) : other.find? condition = rows.find? condition := by
  rw [← List.head?_filter, ← List.head?_filter, filter_eq_of_perm hpairs hunrelated hperm]

end Selected

end Lists

end Karar.Foundation
