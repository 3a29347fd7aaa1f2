import Mathlib.Data.List.Basic

/-!
# Projections of lists

What an observer sees of a list is a projection that leaves entries out. Two lists that agree but for
entries the observer is not to see (`AgreeBut`) look alike to him where the projection leaves those entries
out and does not tell related ones apart (`filterMap_eq_of_agreeBut`).
-/

namespace Karar.Foundation

variable {Entry Seen Key : Type*} {hidden : Entry → Prop} {related : Entry → Entry → Prop}
  {observe : Entry → Option Seen}

/-- The lists have related entries at corresponding places, with hidden ones anywhere in between. -/
inductive AgreeBut (hidden : Entry → Prop) (related : Entry → Entry → Prop) :
    List Entry → List Entry → Prop
  | nil : AgreeBut hidden related [] []
  | left {entry : Entry} {first second : List Entry} (hhidden : hidden entry)
      (hagree : AgreeBut hidden related first second) :
    AgreeBut hidden related (entry :: first) second
  | right {entry : Entry} {first second : List Entry} (hhidden : hidden entry)
      (hagree : AgreeBut hidden related first second) :
    AgreeBut hidden related first (entry :: second)
  | both {entry other : Entry} {first second : List Entry} (hrelated : related entry other)
      (hagree : AgreeBut hidden related first second) :
    AgreeBut hidden related (entry :: first) (other :: second)

theorem filterMap_eq_of_agreeBut (hhides : ∀ entry, hidden entry → observe entry = none)
    (hrelates : ∀ entry other, related entry other → observe entry = observe other)
    {first second : List Entry} (hagree : AgreeBut hidden related first second) :
    first.filterMap observe = second.filterMap observe := by
  induction hagree with
  | nil => rfl
  | left hhidden _ ih => rw [List.filterMap_cons, hhides _ hhidden, ih]
  | right hhidden _ ih => rw [List.filterMap_cons, hhides _ hhidden, ih]
  | both hrelated _ ih => rw [List.filterMap_cons, List.filterMap_cons, hrelates _ _ hrelated, ih]

/-- What is seen stands in the order of the list. Assumes: the observer sees the key of an entry. -/
theorem filterMap_keys_sublist {key : Entry → Key} {seenKey : Seen → Key}
    (hkeys : ∀ entry seen, observe entry = some seen → seenKey seen = key entry)
    (entries : List Entry) : ((entries.filterMap observe).map seenKey).Sublist (entries.map key) := by
  induction entries with
  | nil => exact List.Sublist.refl []
  | cons entry entries ih =>
    cases hobserved : observe entry with
    | none =>
      rw [List.filterMap_cons_none hobserved, List.map_cons]
      exact ih.cons _
    | some seen =>
      rw [List.filterMap_cons_some hobserved, List.map_cons, List.map_cons, hkeys entry seen hobserved]
      exact ih.cons_cons _

end Karar.Foundation
