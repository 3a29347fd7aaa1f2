import Mathlib.Data.List.Basic
import Mathlib.Tactic.Common

/-!
# Fallible computations and chains of checks

A computation in `Except` that ends well went through each of its steps: `bind_eq_ok` takes one step
off a chain, so that a caller reads a chain without unfolding it.

A chain of checks is gone through in order, and the first one that fails decides. What is decided is
the meet of the checks: nothing fails exactly if no check does (`firstFailure_eq_none_iff`), and the
check that is named is the first failing one (`firstFailure_eq_some_iff`). A change of the later checks
does not take it away (`firstFailure_of_agree`).
-/

namespace Karar.Foundation

/-! ## Fallible computations -/

/-- A chain that ends well ended well at its first step and from there on. -/
theorem bind_eq_ok {Failure : Type} {α β : Type} {first : Except Failure α}
    {rest : α → Except Failure β} {result : β} (hchain : first >>= rest = .ok result) :
    ∃ value, first = .ok value ∧ rest value = .ok result := by
  cases first with
  | error failure => cases hchain
  | ok value => exact ⟨value, rfl, hchain⟩

theorem bind_of_eq_ok {Failure : Type} {α β : Type} {first : Except Failure α} {value : α}
    (hfirst : first = .ok value) (rest : α → Except Failure β) : first >>= rest = rest value := by
  rw [hfirst]
  rfl

/-- A chain fails as one of its steps does. -/
theorem error_of_bind {Failure : Type} {α β : Type} {first : Except Failure α}
    {rest : α → Except Failure β} {expected : Failure → Prop}
    (hfirst : ∀ failure, first = .error failure → expected failure)
    (hrest : ∀ value failure, rest value = .error failure → expected failure) :
    ∀ failure, first >>= rest = .error failure → expected failure := by
  intro failure hchain
  cases first with
  | error earlier =>
    obtain rfl : earlier = failure := Except.error.inj hchain
    exact hfirst earlier rfl
  | ok value => exact hrest value failure hchain

/-- A computation with two kinds of failure that ends well went through each of its steps. -/
theorem bind_run_eq_ok {Refusal Failure : Type} {α β : Type}
    {first : ExceptT Refusal (Except Failure) α} {rest : α → ExceptT Refusal (Except Failure) β}
    {result : β} (hchain : (first >>= rest).run = .ok (.ok result)) :
    ∃ value, first.run = .ok (.ok value) ∧ (rest value).run = .ok (.ok result) := by
  rw [ExceptT.run_bind] at hchain
  obtain ⟨value, hfirst, hrest⟩ := bind_eq_ok hchain
  cases value with
  | error refusal => cases hrest
  | ok value => exact ⟨value, hfirst, hrest⟩

/-! ## The first check that fails -/

section FirstFailure

variable {Check Failure : Type*} {checks : List Check} {verdict other : Check → Option Failure}
  {check : Check} {failure : Failure}

def firstFailure (checks : List Check) (verdict : Check → Option Failure) :
    Option (Check × Failure) :=
  checks.findSome? fun check ↦ (verdict check).map (check, ·)

@[simp] theorem firstFailure_nil (verdict : Check → Option Failure) : firstFailure [] verdict = none :=
  rfl

/-- The first check decides, or the others do. -/
theorem firstFailure_cons (check : Check) (checks : List Check)
    (verdict : Check → Option Failure) :
    firstFailure (check :: checks) verdict =
      ((verdict check).map (check, ·)).or (firstFailure checks verdict) := by
  unfold firstFailure
  rw [List.findSome?_cons]
  cases verdict check <;> rfl

theorem firstFailure_eq_none_iff :
    firstFailure checks verdict = none ↔ ∀ check ∈ checks, verdict check = none := by
  unfold firstFailure
  simp

theorem firstFailure_eq_some_iff : firstFailure checks verdict = some (check, failure) ↔
    ∃ earlier later, checks = earlier ++ check :: later ∧ verdict check = some failure ∧
      ∀ before ∈ earlier, verdict before = none := by
  unfold firstFailure
  rw [List.findSome?_eq_some_iff]
  constructor
  · rintro ⟨earlier, found, later, rfl, hfound, hearlier⟩
    obtain ⟨_, hverdict, heq⟩ := Option.map_eq_some_iff.mp hfound
    obtain ⟨rfl, rfl⟩ := Prod.mk.inj heq
    exact ⟨earlier, later, rfl, hverdict, fun before hbefore ↦ by simpa using hearlier before hbefore⟩
  · rintro ⟨earlier, later, rfl, hverdict, hearlier⟩
    refine ⟨earlier, check, later, rfl, by simp [hverdict], fun before hbefore ↦ ?_⟩
    simp [hearlier before hbefore]

theorem mem_of_firstFailure (hfails : firstFailure checks verdict = some (check, failure)) :
    check ∈ checks := by
  obtain ⟨earlier, later, rfl, -, -⟩ := firstFailure_eq_some_iff.mp hfails
  simp

theorem firstFailure_append (first second : List Check) (verdict : Check → Option Failure) :
    firstFailure (first ++ second) verdict =
      (firstFailure first verdict).or (firstFailure second verdict) :=
  List.findSome?_append

theorem firstFailure_congr (hagree : ∀ check ∈ checks, other check = verdict check) :
    firstFailure checks other = firstFailure checks verdict := by
  induction checks with
  | nil => rfl
  | cons head tail ih =>
    rw [firstFailure_cons, firstFailure_cons, hagree head List.mem_cons_self,
      ih fun check hcheck ↦ hagree check (List.mem_cons_of_mem _ hcheck)]

/-- Where the first checks agree, a failure of one of them stays the first one. -/
theorem firstFailure_of_agree {first second : List Check}
    (hapart : ∀ check ∈ first, check ∉ second)
    (hagree : ∀ check ∈ first, other check = verdict check) (hcheck : check ∈ first)
    (hfails : firstFailure (first ++ second) verdict = some (check, failure)) :
    firstFailure (first ++ second) other = some (check, failure) := by
  rw [firstFailure_append] at hfails ⊢
  rw [firstFailure_congr hagree]
  cases hfirst : firstFailure first verdict with
  | some found =>
    rw [hfirst, Option.some_or] at hfails
    rw [Option.some_or, hfails]
  | none =>
    rw [hfirst, Option.none_or] at hfails
    exact absurd (mem_of_firstFailure hfails) (hapart check hcheck)

end FirstFailure

end Karar.Foundation
