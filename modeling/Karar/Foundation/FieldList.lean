import Mathlib.Data.List.DropRight
import Mathlib.Data.List.Forall2
import Mathlib.Logic.Relation

/-!
# Lists of fields written on lines

A header that carries a list writes its fields on one or several lines, separated by a separator,
with blank symbols around them. `fields` reads them: it cuts every line at the separators, trims the
blanks and drops what is empty. What it reads does not depend on how the list is spelled: two
spellings that differ in the line breaks and in blank fields give the same fields
(`fields_of_respelled`), and what stands to the left of a cut only adds fields to the left
(`fields_of_extended`).
-/

namespace Karar.Foundation

section Trim

variable {Symbol : Type*} (blank : Symbol → Bool)

/-- The text without the blanks at its ends. -/
def trim (text : List Symbol) : List Symbol := (text.dropWhile blank).rdropWhile blank

/-- A text of blanks trims to nothing. -/
theorem trim_eq_nil {text : List Symbol} (htext : ∀ symbol ∈ text, blank symbol = true) :
    trim blank text = [] := by
  have hdrop : text.dropWhile blank = [] := List.dropWhile_eq_nil_iff.mpr htext
  rw [trim, hdrop, List.rdropWhile_nil]

theorem trim_eq_self {blank : Symbol → Bool} {text : List Symbol}
    (htext : ∀ symbol ∈ text, blank symbol = false) : trim blank text = text := by
  have hstart : text.dropWhile blank = text := by
    rw [List.dropWhile_eq_self_iff]
    intro hpositive
    simpa using htext _ (List.getElem_mem hpositive)
  rw [trim, hstart, List.rdropWhile_eq_self_iff]
  intro hne
  simpa using htext _ (List.getLast_mem hne)

end Trim

section Readings

variable {Text Value : Type*}

/-- The fields of a list are all read exactly when each of them is. -/
theorem mapM_eq_some_iff {read : Text → Option Value} {texts : List Text} {values : List Value} :
    texts.mapM read = some values ↔
      List.Forall₂ (fun text value ↦ read text = some value) texts values := by
  induction texts generalizing values with
  | nil => simp [eq_comm]
  | cons text rest ih =>
    rw [List.mapM_cons, List.forall₂_cons_left_iff]
    simp only [Option.bind_eq_bind, Option.bind_eq_some_iff, Option.pure_def, Option.some.injEq, ih]
    constructor
    · rintro ⟨value, hvalue, others, hothers, rfl⟩
      exact ⟨value, others, hvalue, hothers, rfl⟩
    · rintro ⟨value, others, hvalue, hothers, rfl⟩
      exact ⟨value, hvalue, others, hothers, rfl⟩

/-- Fields that are all read without a fault give the values that each of them is read as. -/
theorem mem_of_mapM_eq_ok {Fault : Type*} {read : Text → Except Fault Value} {texts : List Text}
    {values : List Value} (hread : texts.mapM read = .ok values) (value : Value) :
    value ∈ values ↔ ∃ text ∈ texts, read text = .ok value := by
  induction texts generalizing values with
  | nil =>
    obtain rfl : [] = values := Except.ok.inj hread
    simp
  | cons text rest ih =>
    rw [List.mapM_cons] at hread
    cases hfirst : read text with
    | error fault =>
      rw [hfirst] at hread
      exact absurd hread (by simp [bind, Except.bind])
    | ok first =>
      cases hothers : rest.mapM read with
      | error fault =>
        rw [hfirst, hothers] at hread
        exact absurd hread (by simp [bind, Except.bind])
      | ok others =>
        rw [hfirst, hothers] at hread
        obtain rfl : first :: others = values := Except.ok.inj hread
        simp only [List.mem_cons, exists_eq_or_imp, hfirst, Except.ok.injEq, ih hothers,
          eq_comm (a := value)]

end Readings

section Fields

variable {Symbol : Type*} [DecidableEq Symbol] (separator : Symbol) (blank : Symbol → Bool)

/-- The fields of a list written on `lines`, without blanks around them and without empty ones. -/
def fields (lines : List (List Symbol)) : List (List Symbol) :=
  ((lines.flatMap (List.splitOn separator)).map (trim blank)).filter (fun field ↦ !field.isEmpty)

theorem fields_append (above below : List (List Symbol)) :
    fields separator blank (above ++ below) =
      fields separator blank above ++ fields separator blank below := by
  rw [fields, List.flatMap_append, List.map_append, List.filter_append]
  rfl

/-- A line holds the fields on the two sides of any of its separators. -/
theorem fields_cut (first second : List Symbol) :
    fields separator blank [first ++ separator :: second] =
      fields separator blank [first, second] := by
  simp only [fields, List.flatMap_cons, List.flatMap_nil, List.append_nil,
    List.splitOn_append_cons_self]

/-- What a separator cuts a text into has no other symbols than the text. -/
theorem mem_of_mem_splitOn {text part : List Symbol} (hpart : part ∈ text.splitOn separator)
    {symbol : Symbol} (hsymbol : symbol ∈ part) : symbol ∈ text := by
  induction text generalizing part with
  | nil =>
    rw [List.splitOn_nil, List.mem_singleton] at hpart
    simp [hpart] at hsymbol
  | cons head tail ih =>
    rw [List.splitOn_cons_eq_if_modifyHead] at hpart
    split_ifs at hpart with hhead
    · rcases List.mem_cons.mp hpart with rfl | htail
      · simp at hsymbol
      · exact List.mem_cons_of_mem _ (ih htail hsymbol)
    · obtain ⟨start, others, hsplit⟩ :=
        List.exists_cons_of_ne_nil (List.splitOn_ne_nil separator tail)
      rw [hsplit, List.modifyHead_cons] at hpart
      rw [hsplit] at ih
      rcases List.mem_cons.mp hpart with rfl | hothers
      · rcases List.mem_cons.mp hsymbol with rfl | hstart
        · exact List.mem_cons_self
        · exact List.mem_cons_of_mem _ (ih List.mem_cons_self hstart)
      · exact List.mem_cons_of_mem _ (ih (List.mem_cons_of_mem _ hothers) hsymbol)

/-- A line of blanks holds no field. -/
theorem fields_blank {line : List Symbol} (hline : ∀ symbol ∈ line, blank symbol = true) :
    fields separator blank [line] = [] := by
  rw [fields, List.filter_eq_nil_iff]
  intro field hfield
  obtain ⟨part, hpart, rfl⟩ := List.mem_map.mp hfield
  rw [List.flatMap_cons, List.flatMap_nil, List.append_nil] at hpart
  have hblank : ∀ symbol ∈ part, blank symbol = true :=
    fun symbol hsymbol ↦ hline symbol (mem_of_mem_splitOn separator hpart hsymbol)
  simp [trim_eq_nil blank hblank]

/-- One change of spelling: a line is broken at a separator, or a line of blanks is left out. -/
inductive Respelling : List (List Symbol) → List (List Symbol) → Prop
  | lineBreak (above : List (List Symbol)) (first second : List Symbol)
      (below : List (List Symbol)) :
      Respelling (above ++ (first ++ separator :: second) :: below)
        (above ++ first :: second :: below)
  | blankLine (above : List (List Symbol)) (line : List Symbol) (below : List (List Symbol))
      (hline : ∀ symbol ∈ line, blank symbol = true) :
      Respelling (above ++ line :: below) (above ++ below)

/-- Two spellings of one list: any number of changes, forward and backward, lead from one to the
other. -/
def Respelled : List (List Symbol) → List (List Symbol) → Prop :=
  Relation.EqvGen (Respelling separator blank)

theorem fields_of_respelling {first second : List (List Symbol)}
    (hchange : Respelling separator blank first second) :
    fields separator blank first = fields separator blank second := by
  cases hchange with
  | lineBreak above first second below =>
    have hcut := fields_cut separator blank first second
    have hleft : above ++ (first ++ separator :: second) :: below =
        above ++ ([first ++ separator :: second] ++ below) := rfl
    have hright : above ++ first :: second :: below = above ++ ([first, second] ++ below) := rfl
    rw [hleft, hright]
    simp only [fields_append, hcut]
  | blankLine above line below hline =>
    have hblank := fields_blank separator blank hline
    have hleft : above ++ line :: below = above ++ ([line] ++ below) := rfl
    rw [hleft]
    simp only [fields_append, hblank, List.nil_append]

/-- The fields do not depend on the spelling. -/
theorem fields_of_respelled {first second : List (List Symbol)}
    (hsame : Respelled separator blank first second) :
    fields separator blank first = fields separator blank second := by
  induction hsame with
  | rel _ _ hchange => exact fields_of_respelling separator blank hchange
  | refl _ => rfl
  | symm _ _ _ ih => exact ih.symm
  | trans _ _ _ _ _ ihfirst ihsecond => exact ihfirst.trans ihsecond

/-- `Extended rest lines`: the lines are `rest` with text of any kind written to its left, cut off
from it by a line break or by a separator. -/
inductive Extended : List (List Symbol) → List (List Symbol) → Prop
  | lineBreak (above rest : List (List Symbol)) : Extended rest (above ++ rest)
  | separated (above : List (List Symbol)) (left first : List Symbol)
      (below : List (List Symbol)) :
      Extended (first :: below) (above ++ (left ++ separator :: first) :: below)

/-- What is written to the left only adds fields to the left. -/
theorem fields_of_extended {rest lines : List (List Symbol)}
    (hextended : Extended separator rest lines) :
    ∃ left, fields separator blank lines = left ++ fields separator blank rest := by
  cases hextended with
  | lineBreak above => exact ⟨_, fields_append separator blank above rest⟩
  | separated above left first below =>
    have hbreak : Respelling separator blank (above ++ (left ++ separator :: first) :: below)
        (above ++ left :: first :: below) := .lineBreak above left first below
    have hlines : above ++ left :: first :: below = (above ++ [left]) ++ first :: below := by simp
    refine ⟨fields separator blank (above ++ [left]), ?_⟩
    rw [fields_of_respelling separator blank hbreak, hlines, fields_append]

end Fields

end Karar.Foundation
