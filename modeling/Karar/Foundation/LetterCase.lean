import Mathlib.Data.List.Forall2
import Mathlib.Data.Char

/-!
# Lower case

Lower-casing a text reads the Unicode character database: the lower-case form of every character, and
which characters are letters with case and which are passed over when the letters around a character
are looked for. `CaseData` is that part of the database with the facts about it that are relied on.
`toLowerCase` maps character by character, but for a capital sigma that ends a word. Two characters
are one letter when they have one lower-case form (`CaseData.SameLetter`); a text without a sigma at
the end of a word has the lower-case form of every text of the same letters
(`CaseData.toLowerCase_eq_of_sameLetter`).
-/

namespace Karar.Foundation

/-- What lower-casing reads of the Unicode character database. -/
structure CaseData where
  lowerMapping : Char → List Char
  cased : Char → Bool
  caseIgnorable : Char → Bool
  /-- Below 128 the capital letters from A to Z change, and nothing else does. -/
  ascii (c : Char) : c.toNat < 128 → lowerMapping c = [c.toLower]
  ascii_cased (c : Char) : c.toNat < 128 → cased c = c.isAlpha
  /-- Of the characters from 128 on, the sign for kelvin becomes a `k` and the capital I with a dot an
  `i` and a mark; no other becomes a character below 128. -/
  beyond (c : Char) : 128 ≤ c.toNat →
    lowerMapping c ≠ [] ∧ ∀ d ∈ lowerMapping c, d.toNat < 128 → d = 'i' ∨ d = 'k'
  sigma : lowerMapping 'Σ' = ['σ'] ∧ lowerMapping 'σ' = ['σ']
  /-- The forms of one letter do not differ in the other properties. -/
  forms (c d : Char) : lowerMapping c = lowerMapping d →
    cased c = cased d ∧ caseIgnorable c = caseIgnorable d

namespace CaseData

variable (data : CaseData)

/-- Whether a letter with case comes first, apart from characters that are passed over. -/
def reachesCased : List Char → Bool
  | [] => false
  | c :: rest => data.cased c || data.caseIgnorable c && reachesCased rest

/-- `Final_Sigma`: a letter stands before the character and none after it. The characters before it
are given from the nearest on. -/
def finalSigma (before after : List Char) : Bool :=
  data.reachesCased before && !data.reachesCased after

/-- The lower-case form of a character, given the characters before it, from the nearest on, and those
after it. -/
def lowerForm (before : List Char) (c : Char) (after : List Char) : List Char :=
  if c = 'Σ' ∧ data.finalSigma before after = true then ['ς'] else data.lowerMapping c

/-- The lower-case forms of the characters of a text that stands between two others. -/
def lowerIn : List Char → List Char → List Char → List Char
  | _, [], _ => []
  | before, c :: rest, after =>
    data.lowerForm before c (rest ++ after) ++ lowerIn (c :: before) rest after

/-- `toLowerCase`. -/
def toLowerCase (text : List Char) : List Char := data.lowerIn [] text []

/-- Two characters that are forms of one letter. -/
def SameLetter (c d : Char) : Prop := data.lowerMapping c = data.lowerMapping d

/-- Whether a sigma, of either case, stands at the end of a word. -/
def hasFinalSigma : List Char → List Char → Bool
  | _, [] => false
  | before, c :: after =>
    data.lowerMapping c == ['σ'] && data.finalSigma before after || hasFinalSigma (c :: before) after

variable {data}

theorem sameLetter_refl (c : Char) : data.SameLetter c c := rfl

/-- A text and the text with another form of one of its letters. -/
theorem SameLetter.within {c d : Char} (hsame : data.SameLetter c d) (front back : List Char) :
    List.Forall₂ data.SameLetter (front ++ c :: back) (front ++ d :: back) := by
  have hrefl (text : List Char) : List.Forall₂ data.SameLetter text text :=
    List.forall₂_same.mpr fun e _ ↦ sameLetter_refl e
  exact List.rel_append (hrefl front) (.cons hsame (hrefl back))

theorem reachesCased_congr {text text' : List Char} (hsame : List.Forall₂ data.SameLetter text text') :
    data.reachesCased text = data.reachesCased text' := by
  induction hsame with
  | nil => rfl
  | cons hletter _ ih =>
    obtain ⟨hcased, hignorable⟩ := data.forms _ _ hletter
    rw [reachesCased, reachesCased, hcased, hignorable, ih]

theorem finalSigma_congr {before before' after after' : List Char}
    (hbefore : List.Forall₂ data.SameLetter before before')
    (hafter : List.Forall₂ data.SameLetter after after') :
    data.finalSigma before after = data.finalSigma before' after' := by
  rw [finalSigma, finalSigma, reachesCased_congr hbefore, reachesCased_congr hafter]

theorem hasFinalSigma_congr {before before' text text' : List Char}
    (hbefore : List.Forall₂ data.SameLetter before before')
    (htext : List.Forall₂ data.SameLetter text text') :
    data.hasFinalSigma before text = data.hasFinalSigma before' text' := by
  induction htext generalizing before before' with
  | nil => rfl
  | cons hletter hrest ih =>
    rw [hasFinalSigma, hasFinalSigma, finalSigma_congr hbefore hrest, hletter,
      ih (.cons hletter hbefore)]

/-- Without a sigma at the end of a word, lower-casing maps character by character. -/
theorem lowerIn_eq_flatMap {before text : List Char}
    (hnone : data.hasFinalSigma before text = false) :
    data.lowerIn before text [] = text.flatMap data.lowerMapping := by
  induction text generalizing before with
  | nil => rfl
  | cons c after ih =>
    rw [hasFinalSigma, Bool.or_eq_false_iff] at hnone
    have hplain : ¬(c = 'Σ' ∧ data.finalSigma before after = true) := by
      rintro ⟨rfl, hfinal⟩
      rw [data.sigma.1, hfinal] at hnone
      simp at hnone
    rw [lowerIn, List.append_nil, lowerForm, if_neg hplain, ih hnone.2, List.flatMap_cons]

theorem toLowerCase_eq_of_sameLetter {text text' : List Char}
    (hsame : List.Forall₂ data.SameLetter text text') (hnone : data.hasFinalSigma [] text = false) :
    data.toLowerCase text = data.toLowerCase text' := by
  have hnone' : data.hasFinalSigma [] text' = false := by
    rw [← hasFinalSigma_congr .nil hsame]
    exact hnone
  rw [toLowerCase, toLowerCase, lowerIn_eq_flatMap hnone, lowerIn_eq_flatMap hnone']
  clear hnone hnone'
  induction hsame with
  | nil => rfl
  | cons hletter _ ih => rw [List.flatMap_cons, List.flatMap_cons, hletter, ih]

/-! ### Parts of a text -/

theorem lowerIn_append (before first second after : List Char) :
    data.lowerIn before (first ++ second) after =
      data.lowerIn before first (second ++ after) ++
        data.lowerIn (first.reverse ++ before) second after := by
  induction first generalizing before with
  | nil => rfl
  | cons c rest ih =>
    rw [List.cons_append, lowerIn, lowerIn, ih, List.append_assoc, List.append_assoc]
    simp

/-- What stands around a text matters by its letters with case only. -/
theorem lowerIn_congr {before before' text after after' : List Char}
    (hbefore : data.reachesCased before = data.reachesCased before')
    (hafter : data.reachesCased after = data.reachesCased after') :
    data.lowerIn before text after = data.lowerIn before' text after' := by
  induction text generalizing before before' with
  | nil => rfl
  | cons c rest ih =>
    have hrest : data.reachesCased (rest ++ after) = data.reachesCased (rest ++ after') := by
      clear ih
      induction rest with
      | nil => exact hafter
      | cons d rest ih => rw [List.cons_append, List.cons_append, reachesCased, reachesCased, ih]
    have hnearest : data.reachesCased (c :: before) = data.reachesCased (c :: before') := by
      rw [reachesCased, reachesCased, hbefore]
    rw [lowerIn, lowerIn, ih hnearest, lowerForm, lowerForm, finalSigma, finalSigma, hbefore, hrest]

theorem toLowerCase_append_cons (front : List Char) (c : Char) (back : List Char) :
    data.toLowerCase (front ++ c :: back) =
      data.lowerIn [] front (c :: back) ++ data.lowerForm front.reverse c back ++
        data.lowerIn (c :: front.reverse) back [] := by
  rw [toLowerCase, lowerIn_append, lowerIn]
  simp only [List.append_nil, List.append_assoc]

theorem exists_of_hasFinalSigma {before text : List Char}
    (hfinal : data.hasFinalSigma before text = true) :
    ∃ front c back, text = front ++ c :: back ∧ data.lowerMapping c = ['σ'] ∧
      data.finalSigma (front.reverse ++ before) back = true := by
  induction text generalizing before with
  | nil => simp [hasFinalSigma] at hfinal
  | cons c after ih =>
    rw [hasFinalSigma, Bool.or_eq_true, Bool.and_eq_true, beq_iff_eq] at hfinal
    rcases hfinal with hhere | hlater
    · exact ⟨[], c, after, rfl, hhere⟩
    · obtain ⟨front, d, back, rfl, hd⟩ := ih hlater
      refine ⟨c :: front, d, back, rfl, ?_⟩
      rw [List.reverse_cons, List.append_assoc]
      exact hd

/-- A text with a sigma at the end of a word has another lower-case form than the text with the other
case of that sigma: the two forms differ in this one character. -/
theorem exists_other_form {text : List Char} (hfinal : data.hasFinalSigma [] text = true) :
    ∃ front c d back left right, text = front ++ c :: back ∧ data.lowerMapping c = ['σ'] ∧
      data.SameLetter c d ∧ (data.toLowerCase text = left ++ 'ς' :: right ∧
          data.toLowerCase (front ++ d :: back) = left ++ 'σ' :: right ∨
        data.toLowerCase text = left ++ 'σ' :: right ∧
          data.toLowerCase (front ++ d :: back) = left ++ 'ς' :: right) := by
  obtain ⟨front, c, back, rfl, hc, hplace⟩ := exists_of_hasFinalSigma hfinal
  rw [List.append_nil] at hplace
  obtain ⟨hcapital, hsmall⟩ := data.sigma
  have hcapitalForm : data.lowerForm front.reverse 'Σ' back = ['ς'] := by
    rw [lowerForm, if_pos ⟨rfl, hplace⟩]
  have hsmallForm (d : Char) (hd : d ≠ 'Σ') (hmapping : data.lowerMapping d = ['σ']) :
      data.lowerForm front.reverse d back = ['σ'] := by
    rw [lowerForm, if_neg (by simp [hd]), hmapping]
  have haround (d : Char) (hsame : data.SameLetter c d) :
      data.lowerIn [] front (d :: back) = data.lowerIn [] front (c :: back) ∧
        data.lowerIn (d :: front.reverse) back [] = data.lowerIn (c :: front.reverse) back [] := by
    obtain ⟨hcased, hignorable⟩ := data.forms _ _ hsame
    constructor
    · exact lowerIn_congr rfl (by rw [reachesCased, reachesCased, hcased, hignorable])
    · exact lowerIn_congr (by rw [reachesCased, reachesCased, hcased, hignorable]) rfl
  by_cases hsigma : c = 'Σ'
  · subst hsigma
    have hsame : data.SameLetter 'Σ' 'σ' := hcapital.trans hsmall.symm
    refine ⟨front, 'Σ', 'σ', back, data.lowerIn [] front ('Σ' :: back),
      data.lowerIn ('Σ' :: front.reverse) back [], rfl, hc, hsame, .inl ⟨?_, ?_⟩⟩
    · rw [toLowerCase_append_cons, hcapitalForm, List.append_assoc, List.singleton_append]
    · rw [toLowerCase_append_cons, hsmallForm _ (by decide) hsmall, (haround _ hsame).1,
        (haround _ hsame).2, List.append_assoc, List.singleton_append]
  · have hsame : data.SameLetter c 'Σ' := hc.trans hcapital.symm
    refine ⟨front, c, 'Σ', back, data.lowerIn [] front (c :: back),
      data.lowerIn (c :: front.reverse) back [], rfl, hc, hsame, .inr ⟨?_, ?_⟩⟩
    · rw [toLowerCase_append_cons, hsmallForm _ hsigma hc, List.append_assoc, List.singleton_append]
    · rw [toLowerCase_append_cons, hcapitalForm, (haround _ hsame).1, (haround _ hsame).2,
        List.append_assoc, List.singleton_append]

/-! ### Characters below 128 -/

theorem of_ascii {P : Char → Prop} (hall : ∀ n < 128, P (Char.ofNat n)) {c : Char}
    (hc : c.toNat < 128) : P c := by
  have hp := hall c.toNat hc
  rwa [Char.ofNat_toNat] at hp

theorem toLower_lt {c : Char} (hc : c.toNat < 128) : c.toLower.toNat < 128 :=
  of_ascii (P := fun c ↦ c.toLower.toNat < 128) (by decide) hc

/-- A character below 128 other than the letters I and K shares its letter with no character beyond,
and below 128 the forms of a letter are the two cases. -/
theorem SameLetter.toLower_eq {c d : Char} (hsame : data.SameLetter c d) (hc : c.toNat < 128)
    (hi : c.toLower ≠ 'i') (hk : c.toLower ≠ 'k') : d.toNat < 128 ∧ d.toLower = c.toLower := by
  have hlower : c.toLower.toNat < 128 := toLower_lt hc
  rw [SameLetter, data.ascii c hc] at hsame
  by_cases hd : d.toNat < 128
  · rw [data.ascii d hd, List.cons.injEq] at hsame
    exact ⟨hd, hsame.1.symm⟩
  · have hbeyond := (data.beyond d (by omega)).2 c.toLower (by simp [← hsame]) hlower
    exact absurd hbeyond (by simp [hi, hk])

/-- A character that is no letter, below 128. -/
def isPlainMark (c : Char) : Bool := decide (c.toNat < 128) && !c.isAlpha

theorem toLower_eq_mark_iff {m c : Char} (hm : isPlainMark m = true) (hc : c.toNat < 128) :
    c.toLower = m ↔ c = m := by
  rw [isPlainMark, Bool.and_eq_true, Bool.not_eq_true'] at hm
  have halpha : c.toLower.isAlpha = c.isAlpha :=
    of_ascii (P := fun c ↦ c.toLower.isAlpha = c.isAlpha) (by decide) hc
  have hplain : c.isAlpha = false → c.toLower = c :=
    of_ascii (P := fun c ↦ c.isAlpha = false → c.toLower = c) (by decide) hc
  constructor
  · rintro rfl
    exact (hplain (halpha.symm.trans hm.2)).symm
  · rintro rfl
    exact hplain hm.2

/-- Such a character is in the lower-case form of no other. -/
theorem mem_lowerForm_iff {m : Char} (hm : isPlainMark m = true) (before : List Char) (c : Char)
    (after : List Char) : m ∈ data.lowerForm before c after ↔ c = m := by
  have hm' := hm
  rw [isPlainMark, Bool.and_eq_true, decide_eq_true_eq, Bool.not_eq_true'] at hm'
  unfold lowerForm
  split_ifs with hsigma
  · rw [List.mem_singleton, hsigma.1]
    constructor
    · rintro rfl
      exact absurd hm'.1 (by decide)
    · rintro rfl
      exact absurd hm'.1 (by decide)
  · by_cases hc : c.toNat < 128
    · rw [data.ascii c hc, List.mem_singleton, eq_comm, toLower_eq_mark_iff hm hc]
    · constructor
      · intro hmem
        rcases (data.beyond c (by omega)).2 m hmem hm'.1 with rfl | rfl
        · simp at hm'
        · simp at hm'
      · rintro rfl
        exact absurd hm'.1 hc

theorem lowerForm_mark {m : Char} (hm : isPlainMark m = true) (before after : List Char) :
    data.lowerForm before m after = [m] := by
  have hm' := hm
  rw [isPlainMark, Bool.and_eq_true, decide_eq_true_eq, Bool.not_eq_true'] at hm'
  have hsigma : m ≠ 'Σ' := by
    rintro rfl
    exact absurd hm'.1 (by decide)
  rw [lowerForm, if_neg (by simp [hsigma]), data.ascii m hm'.1,
    (toLower_eq_mark_iff hm hm'.1).mpr rfl]

theorem lowerForm_ne_nil (before : List Char) (c : Char) (after : List Char) :
    data.lowerForm before c after ≠ [] := by
  unfold lowerForm
  split_ifs
  · simp
  · by_cases hc : c.toNat < 128
    · rw [data.ascii c hc]
      simp
    · exact (data.beyond c (by omega)).1

/-- A mark is in the form of no letter. -/
theorem ne_mark {m c d : Char} (hm : isPlainMark m = true) (hd : ¬ d.toNat < 128)
    (hc : data.lowerMapping c = [d]) : c ≠ m := by
  rintro rfl
  rw [isPlainMark, Bool.and_eq_true, decide_eq_true_eq] at hm
  rw [data.ascii c hm.1, List.cons.injEq] at hc
  exact hd (hc.1 ▸ toLower_lt hm.1)

theorem SameLetter.mark_iff {m c d : Char} (hm : isPlainMark m = true) (hsame : data.SameLetter c d) :
    c = m ↔ d = m := by
  have hform (e : Char) : m ∈ data.lowerMapping e ↔ e = m := by
    have hmem : m ∈ data.lowerForm [] e [] ↔ e = m := mem_lowerForm_iff hm [] e []
    rwa [lowerForm, if_neg (by simp [finalSigma, reachesCased])] at hmem
  rw [← hform c, ← hform d, hsame]

/-! ### Marks in a lower-case text -/

theorem mem_lowerIn_iff {m : Char} (hm : isPlainMark m = true) (before text after : List Char) :
    m ∈ data.lowerIn before text after ↔ m ∈ text := by
  induction text generalizing before with
  | nil => simp [lowerIn]
  | cons c rest ih =>
    rw [lowerIn, List.mem_append, mem_lowerForm_iff hm, ih, List.mem_cons, eq_comm]

theorem getLast?_toLowerCase_iff {m : Char} (hm : isPlainMark m = true) (text : List Char) :
    (data.toLowerCase text).getLast? = some m ↔ text.getLast? = some m := by
  rcases List.eq_nil_or_concat text with rfl | ⟨front, c, rfl⟩
  · rfl
  · rw [List.concat_eq_append, toLowerCase_append_cons, lowerIn, List.append_nil,
      List.getLast?_append_of_ne_nil _ (lowerForm_ne_nil _ _ _), List.getLast?_concat,
      Option.some.injEq]
    constructor
    · intro hlast
      exact (mem_lowerForm_iff hm _ _ _).mp (List.mem_of_getLast? hlast)
    · rintro rfl
      rw [lowerForm_mark hm, List.getLast?_singleton]

/-- A mark at the end of a text leaves the rest of its lower-case form as it is. -/
theorem toLowerCase_append_mark {m : Char} (hm : isPlainMark m = true) (text : List Char) :
    data.toLowerCase (text ++ [m]) = data.toLowerCase text ++ [m] := by
  have hm' := hm
  rw [isPlainMark, Bool.and_eq_true, decide_eq_true_eq, Bool.not_eq_true'] at hm'
  have hmark : data.reachesCased [m] = data.reachesCased [] := by
    simp [reachesCased, data.ascii_cased m hm'.1, hm'.2]
  rw [toLowerCase_append_cons, lowerForm_mark hm, lowerIn, List.append_nil, toLowerCase,
    lowerIn_congr rfl hmark]

end CaseData

end Karar.Foundation
