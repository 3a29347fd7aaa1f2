import Mathlib.Data.List.Basic
import Mathlib.Data.List.Infix

/-!
# Words between separators

A text is cut into words at a separator. `Stands` says that a phrase occurs in a text with the
separator or an end of the text on either side; that is the case iff the words of the phrase follow
one another among the words of the text (`stands_iff`).
-/

namespace Karar.Foundation

variable {α : Type*} [BEq α] [LawfulBEq α] {separator : α}

/-- The phrase occurs in the text, delimited on both sides. -/
def Stands (separator : α) (phrase text : List α) : Prop :=
  ∃ front back, text = front ++ phrase ++ back ∧
    (front = [] ∨ ∃ before, front = before ++ [separator]) ∧
    (back = [] ∨ ∃ after, back = separator :: after)

/-- A text cut between two of its words. -/
theorem eq_of_splitOn_eq_append {text : List α} {first second : List (List α)} (hfirst : first ≠ [])
    (hsecond : second ≠ []) (hcut : text.splitOn separator = first ++ second) :
    ∃ before after, text = before ++ separator :: after ∧
      before.splitOn separator = first ∧ after.splitOn separator = second := by
  induction text generalizing first with
  | nil =>
    rw [List.splitOn_nil] at hcut
    have hlength := congrArg List.length hcut
    have hone := List.length_pos_of_ne_nil hfirst
    have htwo := List.length_pos_of_ne_nil hsecond
    rw [List.length_append, List.length_singleton] at hlength
    omega
  | cons c rest ih =>
    obtain ⟨word, others, rfl⟩ := List.exists_cons_of_ne_nil hfirst
    rw [List.splitOn_cons_eq_if_modifyHead] at hcut
    by_cases hc : (c == separator) = true
    · rw [if_pos hc, List.cons_append, List.cons.injEq] at hcut
      obtain ⟨rfl, hcut⟩ := hcut
      obtain rfl := eq_of_beq hc
      by_cases hothers : others = []
      · subst hothers
        exact ⟨[], rest, rfl, List.splitOn_nil _, hcut⟩
      · obtain ⟨before, after, rfl, hbefore, hafter⟩ := ih hothers hcut
        refine ⟨c :: before, after, rfl, ?_, hafter⟩
        rw [List.splitOn_cons_eq_if_modifyHead, if_pos hc, hbefore]
    · rw [if_neg hc] at hcut
      obtain ⟨head, tail, hrest⟩ := List.exists_cons_of_ne_nil (List.splitOn_ne_nil separator rest)
      rw [hrest, List.modifyHead_cons, List.cons_append, List.cons.injEq] at hcut
      obtain ⟨rfl, rfl⟩ := hcut
      obtain ⟨before, after, rfl, hbefore, hafter⟩ := ih (List.cons_ne_nil head others) hrest
      refine ⟨c :: before, after, rfl, ?_, hafter⟩
      rw [List.splitOn_cons_eq_if_modifyHead, if_neg hc, hbefore, List.modifyHead_cons]

theorem splitOn_injective {first second : List α}
    (hsame : first.splitOn separator = second.splitOn separator) : first = second := by
  have hfirst : [separator].intercalate (first.splitOn separator) = first :=
    List.intercalate_splitOn separator
  rw [← hfirst, hsame, List.intercalate_splitOn]

theorem infix_of_stands {phrase text : List α} (hstands : Stands separator phrase text) :
    phrase.splitOn separator <:+: text.splitOn separator := by
  obtain ⟨front, back, rfl, hfront, hback⟩ := hstands
  have hhead : phrase.splitOn separator <:+: (phrase ++ back).splitOn separator := by
    obtain rfl | ⟨after, rfl⟩ := hback
    · rw [List.append_nil]
    · rw [List.splitOn_append_cons_self]
      exact (List.prefix_append _ _).isInfix
  obtain rfl | ⟨before, rfl⟩ := hfront
  · exact hhead
  · rw [List.append_assoc, List.append_assoc, List.singleton_append, List.splitOn_append_cons_self]
    exact hhead.trans (List.suffix_append _ _).isInfix

theorem stands_of_infix {phrase text : List α}
    (hinside : phrase.splitOn separator <:+: text.splitOn separator) :
    Stands separator phrase text := by
  obtain ⟨first, second, hcut⟩ := hinside
  have hphrase := List.splitOn_ne_nil separator phrase
  -- The words before the phrase first, and then those after it.
  obtain ⟨front, rest, rfl, hfront, hrest⟩ : ∃ front rest, text = front ++ rest ∧
      (front = [] ∨ ∃ before, front = before ++ [separator]) ∧
      rest.splitOn separator = phrase.splitOn separator ++ second := by
    by_cases hfirst : first = []
    · subst hfirst
      exact ⟨[], text, rfl, .inl rfl, by rw [← hcut, List.nil_append]⟩
    · rw [List.append_assoc, eq_comm] at hcut
      obtain ⟨before, rest, rfl, -, hrest⟩ :=
        eq_of_splitOn_eq_append hfirst (List.append_ne_nil_of_left_ne_nil hphrase second) hcut
      exact ⟨before ++ [separator], rest, by simp, .inr ⟨before, rfl⟩, hrest⟩
  by_cases hsecond : second = []
  · rw [hsecond, List.append_nil] at hrest
    obtain rfl := splitOn_injective hrest
    exact ⟨front, [], by simp, hfront, .inl rfl⟩
  · obtain ⟨before, after, rfl, hbefore, -⟩ := eq_of_splitOn_eq_append hphrase hsecond hrest
    obtain rfl := splitOn_injective hbefore
    exact ⟨front, separator :: after, by simp, hfront, .inr ⟨after, rfl⟩⟩

/-- A delimited phrase is a run of words of the text. -/
theorem stands_iff {phrase text : List α} : Stands separator phrase text ↔
    phrase.splitOn separator <:+: text.splitOn separator :=
  ⟨infix_of_stands, stands_of_infix⟩

/-- A text that ends in the separator and a word has the word as its last one, after another. -/
theorem suffix_iff_splitOn {word text : List α} (hword : separator ∉ word) :
    separator :: word <:+ text ↔
      ∃ others, others ≠ [] ∧ text.splitOn separator = others ++ [word] := by
  constructor
  · rintro ⟨front, rfl⟩
    refine ⟨front.splitOn separator, List.splitOn_ne_nil separator front, ?_⟩
    rw [List.splitOn_append_cons_self, List.splitOn_eq_singleton hword]
  · rintro ⟨others, hothers, hcut⟩
    obtain ⟨before, after, rfl, -, hafter⟩ :=
      eq_of_splitOn_eq_append hothers (List.cons_ne_nil word []) hcut
    rw [← List.splitOn_eq_singleton hword] at hafter
    obtain rfl := splitOn_injective hafter
    exact ⟨before, rfl⟩

theorem eq_iff_splitOn {word text : List α} (hword : separator ∉ word) :
    text = word ↔ text.splitOn separator = [word] := by
  rw [← List.splitOn_eq_singleton hword]
  exact ⟨fun heq ↦ by rw [heq], splitOn_injective⟩

/-! ### Runs inside of words -/

section Runs

omit [BEq α] [LawfulBEq α]

theorem prefix_append_cons_iff {run before after : List α} (hrun : separator ∉ run) :
    run <+: before ++ separator :: after ↔ run <+: before := by
  constructor
  · intro hbegins
    rcases List.prefix_or_prefix_of_prefix hbegins (List.prefix_append before _) with hle | ⟨rest, rfl⟩
    · exact hle
    · cases rest with
      | nil => simp
      | cons c rest =>
        rw [List.prefix_append_right_inj, List.cons_prefix_cons] at hbegins
        exact absurd (by simp [hbegins.1]) hrun
  · exact fun hbegins ↦ hbegins.trans (List.prefix_append before _)

theorem map_intercalate {β : Type*} (f : α → β) (between : List α) (parts : List (List α)) :
    (between.intercalate parts).map f = (between.map f).intercalate (parts.map (List.map f)) := by
  induction parts with
  | nil => rfl
  | cons part rest ih =>
    cases rest with
    | nil => simp
    | cons next rest =>
      rw [List.map_cons, List.map_cons, List.intercalate_cons_cons, List.intercalate_cons_cons,
        List.map_append, List.map_append, ih, List.map_cons]

/-- What stands between the parts is left out. -/
theorem filter_intercalate {p : α → Bool} {between : List α} (hbetween : ∀ c ∈ between, p c = false)
    (parts : List (List α)) :
    (between.intercalate parts).filter p = parts.flatMap (List.filter p) := by
  have hnone : between.filter p = [] := by simpa using hbetween
  induction parts with
  | nil => rfl
  | cons part rest ih =>
    cases rest with
    | nil => rw [List.intercalate_singleton, List.flatMap_singleton]
    | cons next rest =>
      rw [List.intercalate_cons_cons, List.filter_append, List.filter_append, hnone, ih,
        List.append_nil, List.flatMap_cons (x := part)]

end Runs

end Karar.Foundation
