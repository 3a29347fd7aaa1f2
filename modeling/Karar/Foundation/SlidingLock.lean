import Mathlib.Algebra.Order.Group.Defs
import Mathlib.Algebra.Order.Sub.Basic
import Mathlib.Data.Finset.Card
import Mathlib.Data.List.Count
import Mathlib.Tactic.Common

/-!
# Limits on attempts

A lock counts the failures recorded in the window before an instant, and lets an attempt pass while
they are fewer than a threshold. An attempt that passes and fails is recorded, at the instant at
which it was tried or later. Others may record failures too, at any instant and without asking.

Then in every window of that length at most as many failing attempts are tried as the threshold says
(`Run.tried_le_threshold`): each of them finds the earlier ones of the window recorded. Windows are
half-open, so a failure leaves the window exactly one window's length after it was recorded.

A row shows how many attempts were counted against it and how many it allows. An attempt is judged at
one time and counted at another, by the caller who made it. The `Tally` of a row says that what was
counted since the start shows, and that no more were judged than the row had left at the start. It is
kept by counting, and by judging wherever there is room for what is judged and not counted yet.
-/

namespace Karar.Foundation.SlidingLock

variable {Time : Type*} [LinearOrder Time]

/-- The failures recorded after an instant. -/
def failuresAfter (failures : List Time) (since : Time) : ℕ :=
  failures.countP fun recorded ↦ since < recorded

section Counts

variable {window instant later : Time} {failures more : List Time}

theorem failuresAfter_append (since : Time) :
    failuresAfter (failures ++ more) since =
      failuresAfter failures since + failuresAfter more since := by
  simp [failuresAfter]

theorem failuresAfter_le_of_le {since earlier : Time} (hearlier : earlier ≤ since) :
    failuresAfter failures since ≤ failuresAfter failures earlier := by
  unfold failuresAfter
  apply List.countP_mono_left
  intro recorded _ hafter
  simp only [decide_eq_true_eq] at hafter ⊢
  exact lt_of_le_of_lt hearlier hafter

variable [AddCommGroup Time]

/-- The failures recorded in the window that ends at an instant. -/
def failuresWithin (window : Time) (failures : List Time) (instant : Time) : ℕ :=
  failures.countP fun recorded ↦ instant - window < recorded ∧ recorded ≤ instant

theorem failuresWithin_le_failuresAfter :
    failuresWithin window failures instant ≤ failuresAfter failures (instant - window) := by
  unfold failuresWithin failuresAfter
  apply List.countP_mono_left
  intro recorded _ hwithin
  simp only [decide_eq_true_eq] at hwithin ⊢
  exact hwithin.1

/-- Where no failure is recorded in the future, those after the start of the window are those of the
window. -/
theorem failuresAfter_eq_failuresWithin (hpast : ∀ recorded ∈ failures, recorded ≤ instant) :
    failuresAfter failures (instant - window) = failuresWithin window failures instant := by
  unfold failuresWithin failuresAfter
  apply List.countP_congr
  intro recorded hmem
  simp [hpast recorded hmem]

variable [IsOrderedAddMonoid Time]

/-- As long as no failure is recorded, the window only loses failures. -/
theorem failuresWithin_le_of_le (hlater : instant ≤ later) :
    failuresWithin window failures later ≤ failuresAfter failures (instant - window) := by
  refine le_trans failuresWithin_le_failuresAfter ?_
  exact failuresAfter_le_of_le (sub_le_sub_right hlater window)

end Counts

/-! ### Runs -/

section Bounded

variable {opening : Time} {threshold tried : ℕ} {failures : List Time}

/-- What bounds the attempts of a window: they are recorded after its opening, and there are no more
of them than the threshold. -/
def Bounded (opening : Time) (threshold : ℕ) (failures : List Time) (tried : ℕ) : Prop :=
  tried ≤ failuresAfter failures opening ∧ tried ≤ threshold

theorem bounded_zero : Bounded opening threshold failures 0 :=
  ⟨Nat.zero_le _, Nat.zero_le _⟩

theorem Bounded.append (hbounded : Bounded opening threshold failures tried)
    (more : List Time) : Bounded opening threshold (failures ++ more) tried := by
  refine ⟨?_, hbounded.2⟩
  rw [failuresAfter_append]
  exact le_trans hbounded.1 (Nat.le_add_right _ _)

end Bounded

variable [AddCommGroup Time]

/-- What happens to the recorded failures. The label is the instant at which a failing attempt was
tried, where one was. -/
inductive Step (window : Time) (threshold : ℕ) : List Time → Option Time → List Time → Prop
  /-- An attempt that the lock lets pass and that fails. -/
  | attempt {failures : List Time} {checked tried recorded : Time}
    (hopen : failuresAfter failures (checked - window) < threshold) (hchecked : checked ≤ tried)
    (htried : tried ≤ recorded) :
    Step window threshold failures (some tried) (failures ++ [recorded])
  /-- A failure that somebody else records. -/
  | other {failures : List Time} (recorded : Time) :
    Step window threshold failures none (failures ++ [recorded])
  | idle {failures : List Time} : Step window threshold failures none failures

inductive Run (window : Time) (threshold : ℕ) : List Time → List (Option Time) → List Time → Prop
  | nil {failures : List Time} : Run window threshold failures [] failures
  | cons {failures between final : List Time} {label : Option Time} {labels : List (Option Time)}
    (hstep : Step window threshold failures label between)
    (hrest : Run window threshold between labels final) :
    Run window threshold failures (label :: labels) final

/-- A failing attempt was tried in the window that opens at an instant. -/
def TriedWithin (window opening : Time) (label : Option Time) : Prop :=
  ∃ tried ∈ label, opening < tried ∧ tried ≤ opening + window

instance (window opening : Time) (label : Option Time) :
    Decidable (TriedWithin window opening label) :=
  inferInstanceAs (Decidable (∃ tried ∈ label, opening < tried ∧ tried ≤ opening + window))

def triedWithin (window opening : Time) (labels : List (Option Time)) : ℕ :=
  labels.countP fun label ↦ TriedWithin window opening label

section Bound

variable {window opening : Time} {threshold tried : ℕ} {failures between final : List Time}
  {label : Option Time} {labels : List (Option Time)}

@[simp] theorem triedWithin_some_iff {instant : Time} :
    TriedWithin window opening (some instant) ↔
      opening < instant ∧ instant ≤ opening + window := by
  simp [TriedWithin]

@[simp] theorem not_triedWithin_none : ¬ TriedWithin window opening (none : Option Time) := by
  simp [TriedWithin]

@[simp] theorem triedWithin_cons :
    triedWithin window opening (label :: labels) =
      triedWithin window opening labels + if TriedWithin window opening label then 1 else 0 := by
  simp [triedWithin, List.countP_cons]

variable [IsOrderedAddMonoid Time]

theorem Step.bounded (hstep : Step window threshold failures label between)
    (hbounded : Bounded opening threshold failures tried) :
    Bounded opening threshold between
      (tried + if TriedWithin window opening label then 1 else 0) := by
  cases hstep with
  | idle => simpa using hbounded
  | other recorded => simpa using hbounded.append [recorded]
  | @attempt checked instant recorded hopen hchecked htried =>
    by_cases hwithin : TriedWithin window opening (some instant)
    · rw [if_pos hwithin]
      obtain ⟨hopening, hclosing⟩ := triedWithin_some_iff.mp hwithin
      -- The check looks back at least to the opening, so it finds every earlier attempt recorded.
      have hback : checked - window ≤ opening :=
        sub_le_iff_le_add.mpr (le_trans hchecked hclosing)
      have hfound : tried < threshold :=
        lt_of_le_of_lt (le_trans hbounded.1 (failuresAfter_le_of_le hback)) hopen
      refine ⟨?_, hfound⟩
      have hrecorded : failuresAfter [recorded] opening = 1 := by
        simp [failuresAfter, lt_of_lt_of_le hopening htried]
      rw [failuresAfter_append, hrecorded]
      exact Nat.add_le_add_right hbounded.1 1
    · rw [if_neg hwithin]
      exact hbounded.append [recorded]

theorem Run.bounded (hrun : Run window threshold failures labels final)
    (hbounded : Bounded opening threshold failures tried) :
    Bounded opening threshold final (tried + triedWithin window opening labels) := by
  induction hrun generalizing tried with
  | nil => simpa [triedWithin] using hbounded
  | @cons failures between final label labels hstep _ ih =>
    rw [triedWithin_cons, Nat.add_comm (triedWithin _ _ _), ← Nat.add_assoc]
    exact ih (hstep.bounded hbounded)

/-- In every window at most as many failing attempts are tried as the threshold says. -/
theorem Run.tried_le_threshold (hrun : Run window threshold failures labels final)
    (opening : Time) : triedWithin window opening labels ≤ threshold := by
  have hzero : Bounded opening threshold failures 0 := bounded_zero
  have hbounded := hrun.bounded hzero
  rw [Nat.zero_add] at hbounded
  exact hbounded.2

end Bound

end Karar.Foundation.SlidingLock

/-! ## Attempts that are judged first and counted later -/

namespace Karar.Foundation

/-- `base` attempts were counted at the start, `attempts` show, and `cap` are allowed. -/
structure Tally (base attempts cap : ℕ) (judged counted : Finset ℕ) : Prop where
  shown : base + counted.card ≤ attempts
  capped : judged.card ≤ cap - base

namespace Tally

variable {base attempts later cap caller : ℕ} {judged counted laterJudged laterCounted : Finset ℕ}

/-- Nothing was judged before the start. -/
theorem start (hshown : base ≤ attempts) : Tally base attempts cap ∅ ∅ := by
  constructor
  · rwa [Finset.card_empty, Nat.add_zero]
  · rw [Finset.card_empty]
    exact Nat.zero_le _

theorem mono (htally : Tally base attempts cap judged counted) (hattempts : attempts ≤ later)
    (hjudged : laterJudged ⊆ judged) (hcounted : laterCounted ⊆ counted) :
    Tally base later cap laterJudged laterCounted := by
  have hcountedCard := Finset.card_le_card hcounted
  have hshown := htally.shown
  constructor
  · omega
  · exact (Finset.card_le_card hjudged).trans htally.capped

/-- A caller counts one attempt. -/
theorem count (htally : Tally base attempts cap judged counted) (hjudged : laterJudged ⊆ judged)
    (hcounted : laterCounted ⊆ insert caller counted) :
    Tally base (attempts + 1) cap laterJudged laterCounted := by
  have hcard := Finset.card_le_card hcounted
  have hinsert := Finset.card_insert_le caller counted
  have hshown := htally.shown
  constructor
  · omega
  · exact (Finset.card_le_card hjudged).trans htally.capped

/-- A caller is judged where there is room for all that is not counted yet. -/
theorem judge (htally : Tally base attempts cap judged counted)
    (hroom : attempts + (judged \ counted).card < cap)
    (hjudged : laterJudged ⊆ insert caller judged) (hcounted : laterCounted ⊆ counted) :
    Tally base attempts cap laterJudged laterCounted := by
  have hcountedCard := Finset.card_le_card hcounted
  have hcard := Finset.card_le_card hjudged
  have hinsert := Finset.card_insert_le caller judged
  have hsplit := Finset.card_le_card_sdiff_add_card (s := judged) (t := counted)
  have hshown := htally.shown
  constructor
  · omega
  · omega

end Tally

end Karar.Foundation
