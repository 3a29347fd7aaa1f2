import Karar.Foundation.LetterCase
import Karar.Foundation.PercentEncoding
import Mathlib.Data.List.TakeWhile
import Mathlib.Logic.Relation

/-!
# The path that a rate-limit policy is selected from

`normalizePolicyPath` takes the query and the fragment off a raw URL, decodes the percent escapes of
the path, or keeps the path as it is when they are malformed, and tidies the result: slashes in a row
become one, letters become lower case, the path starts with a slash and does not end with one.

`Respelled` relates raw URLs that differ in the escapes of their path, in letter case, in repeated
slashes, in a slash at the end or in what follows the path. They normalize alike, unless the path has a
sigma at the end of a word, whose two cases have different lower-case forms there
(`agree_of_respelled`).
-/

namespace Karar.Platform

open Karar.Foundation Karar.Foundation.PercentEncoding

/-! ### Normalization -/

/-- `rawUrl.split(/[?#]/, 1)[0]`. -/
def pathOf (rawUrl : List Char) : List Char := rawUrl.takeWhile fun c ↦ c != '?' && c != '#'

/-- `replace(/\/{2,}/g, '/')`. -/
def collapseSlashes : List Char → List Char
  | [] => []
  | c :: rest =>
    if c = '/' ∧ rest.head? = some '/' then collapseSlashes rest else c :: collapseSlashes rest

/-- The path with a slash before it, unless it starts with one. -/
def leadSlash (path : List Char) : List Char := if path.head? = some '/' then path else '/' :: path

/-- The path without the slash at its end, unless there is nothing else. -/
def dropTrailingSlash (path : List Char) : List Char :=
  if 1 < path.length ∧ path.getLast? = some '/' then path.dropLast else path

variable (data : CaseData)

/-- The steps that follow the decoding. -/
def tidy (decoded : List Char) : List Char :=
  dropTrailingSlash (leadSlash (data.toLowerCase (collapseSlashes decoded)))

def normalizePolicyPath (rawUrl : String) : String :=
  let withoutQuery := pathOf rawUrl.toList
  -- A path with malformed escapes keeps its raw form.
  let decoded := (decode withoutQuery).getD withoutQuery
  String.ofList (tidy data decoded)

/-- Every percent sign of the path starts an escape, and the escaped octets are UTF-8. -/
def WellFormed (raw : List Char) : Prop := ∃ text, Spells raw text

/-! ### Spellings of one path -/

/-- No character ends the path. -/
def InPath (path : List Char) : Prop := '?' ∉ path ∧ '#' ∉ path

/-- What follows the path: nothing, a query or a fragment. -/
def AfterPath (rest : List Char) : Prop := pathOf rest = []

/-- One change of how a path is written in a raw URL. -/
inductive Respelling : List Char → List Char → Prop
  | escaped {path path' text rest : List Char} :
      InPath path → InPath path' → AfterPath rest → Spells path text → Spells path' text →
        Respelling (path ++ rest) (path' ++ rest)
  | recased {path path' rest : List Char} :
      InPath path → AfterPath rest → List.Forall₂ data.SameLetter path path' →
        Respelling (path ++ rest) (path' ++ rest)
  | slashRepeated {front back : List Char} :
      InPath front → Respelling (front ++ '/' :: back) (front ++ '/' :: '/' :: back)
  | slashAdded {path rest : List Char} :
      InPath path → AfterPath rest → Respelling (path ++ rest) (path ++ '/' :: rest)
  | followed {path rest rest' : List Char} :
      InPath path → AfterPath rest → AfterPath rest' → Respelling (path ++ rest) (path ++ rest')

/-- Raw URLs that differ in how their path is written. -/
def Respelled : List Char → List Char → Prop := Relation.EqvGen (Respelling data)

theorem pathOf_append {path rest : List Char} (hpath : InPath path) :
    pathOf (path ++ rest) = path ++ pathOf rest := by
  have hall : ∀ c ∈ path, (c != '?' && c != '#') = true := by
    intro c hc
    rw [Bool.and_eq_true, bne_iff_ne, bne_iff_ne]
    constructor
    · rintro rfl
      exact hpath.1 hc
    · rintro rfl
      exact hpath.2 hc
  rw [pathOf, List.takeWhile_append_of_pos hall, pathOf]

theorem inPath_pathOf (rawUrl : List Char) : InPath (pathOf rawUrl) := by
  constructor
  · intro hmem
    simpa using List.mem_takeWhile_imp hmem
  · intro hmem
    simpa using List.mem_takeWhile_imp hmem

/-! ### Slashes -/

theorem collapseSlashes_repeated (front back : List Char) :
    collapseSlashes (front ++ '/' :: '/' :: back) = collapseSlashes (front ++ '/' :: back) := by
  induction front with
  | nil => simp [collapseSlashes]
  | cons c front ih =>
    have hhead : (front ++ '/' :: '/' :: back).head? = (front ++ '/' :: back).head? := by
      cases front with
      | nil => rfl
      | cons => rfl
    rw [List.cons_append, List.cons_append, collapseSlashes, collapseSlashes, hhead, ih]

theorem head?_collapseSlashes (text : List Char) : (collapseSlashes text).head? = text.head? := by
  induction text with
  | nil => rfl
  | cons c rest ih =>
    rw [collapseSlashes]
    split_ifs with hc
    · rw [ih, hc.2, hc.1, List.head?_cons]
    · rfl

theorem collapseSlashes_cons_cons (c d : Char) (others : List Char) :
    collapseSlashes (c :: d :: others) =
      if c = '/' ∧ d = '/' then collapseSlashes (d :: others)
      else c :: collapseSlashes (d :: others) := by
  rw [collapseSlashes, List.head?_cons]
  simp only [Option.some.injEq]

theorem collapseSlashes_append_slash (text : List Char) :
    collapseSlashes (text ++ ['/']) =
      if text.getLast? = some '/' then collapseSlashes text else collapseSlashes text ++ ['/'] := by
  induction text with
  | nil => rfl
  | cons c rest ih =>
    cases rest with
    | nil =>
      by_cases hc : c = '/'
      · simp [collapseSlashes, hc]
      · simp [collapseSlashes, hc]
    | cons d others =>
      rw [List.cons_append] at ih
      rw [List.getLast?_cons_cons, List.cons_append, List.cons_append, collapseSlashes_cons_cons, ih,
        collapseSlashes_cons_cons]
      split_ifs with hc hlast
      · rfl
      · rfl
      · rfl
      · rfl

theorem getLast?_collapseSlashes (text : List Char) :
    (collapseSlashes text).getLast? = text.getLast? := by
  induction text with
  | nil => rfl
  | cons c rest ih =>
    cases rest with
    | nil => simp [collapseSlashes]
    | cons d others =>
      rw [List.getLast?_cons_cons, ← ih, collapseSlashes_cons_cons]
      split_ifs with hc
      · rfl
      · have hne : collapseSlashes (d :: others) ≠ [] := by
          intro hnil
          have hhead := head?_collapseSlashes (d :: others)
          simp [hnil] at hhead
        obtain ⟨e, more, hmore⟩ := List.exists_cons_of_ne_nil hne
        rw [hmore, List.getLast?_cons_cons]

variable {data}

theorem collapseSlashes_sameLetter {text text' : List Char}
    (hsame : List.Forall₂ data.SameLetter text text') :
    List.Forall₂ data.SameLetter (collapseSlashes text) (collapseSlashes text') := by
  induction hsame with
  | nil => exact .nil
  | @cons c c' rest rest' hc hrest ih =>
    have hhead : (c = '/' ∧ rest.head? = some '/') ↔ (c' = '/' ∧ rest'.head? = some '/') := by
      rw [hc.mark_iff (m := '/') rfl]
      cases hrest with
      | nil => rfl
      | cons hd _ => simp [hd.mark_iff (m := '/') rfl]
    rw [collapseSlashes, collapseSlashes]
    by_cases hrun : c = '/' ∧ rest.head? = some '/'
    · rw [if_pos hrun, if_pos (hhead.mp hrun)]
      exact ih
    · rw [if_neg hrun, if_neg (mt hhead.mpr hrun)]
      exact .cons hc ih

/-! ### The slash at the end -/

/-- A slash at the end of a path does not change what the path is tidied to. -/
theorem dropTrailingSlash_leadSlash_append (path : List Char) (hlast : path.getLast? ≠ some '/') :
    dropTrailingSlash (leadSlash (path ++ ['/'])) = dropTrailingSlash (leadSlash path) := by
  by_cases hnil : path = []
  · subst hnil
    rfl
  · have hlead : leadSlash (path ++ ['/']) = leadSlash path ++ ['/'] := by
      rw [leadSlash, leadSlash, List.head?_append_of_ne_nil _ hnil]
      split_ifs
      · rfl
      · rfl
    have hne : leadSlash path ≠ [] := by
      unfold leadSlash
      split_ifs
      · exact hnil
      · simp
    have hlast' : (leadSlash path).getLast? ≠ some '/' := by
      unfold leadSlash
      split_ifs
      · exact hlast
      · obtain ⟨c, rest, rfl⟩ := List.exists_cons_of_ne_nil hnil
        rwa [List.getLast?_cons_cons]
    rw [hlead, dropTrailingSlash, dropTrailingSlash, if_pos, if_neg (by simp [hlast']),
      List.dropLast_concat]
    exact ⟨by simpa [List.length_pos_iff] using hne, List.getLast?_concat⟩

theorem tidy_append_slash (text : List Char) : tidy data (text ++ ['/']) = tidy data text := by
  unfold tidy
  rw [collapseSlashes_append_slash]
  split_ifs with hlast
  · rfl
  · rw [CaseData.toLowerCase_append_mark rfl]
    apply dropTrailingSlash_leadSlash_append
    rwa [ne_eq, CaseData.getLast?_toLowerCase_iff rfl, getLast?_collapseSlashes]

theorem hasFinalSigma_append_slash (before text : List Char) :
    data.hasFinalSigma before (text ++ ['/']) = data.hasFinalSigma before text := by
  have hslash (after : List Char) : data.reachesCased (after ++ ['/']) = data.reachesCased after := by
    have hcased : data.cased '/' = false := data.ascii_cased '/' (by decide)
    induction after with
    | nil => simp [CaseData.reachesCased, hcased]
    | cons c after ih => rw [List.cons_append, CaseData.reachesCased, CaseData.reachesCased, ih]
  have hmapping : data.lowerMapping '/' ≠ ['σ'] := by
    rw [data.ascii '/' (by decide)]
    decide
  induction text generalizing before with
  | nil => simp [CaseData.hasFinalSigma, hmapping]
  | cons c rest ih =>
    rw [List.cons_append, CaseData.hasFinalSigma, CaseData.hasFinalSigma, CaseData.finalSigma, hslash,
      ih, CaseData.finalSigma]

/-! ### Respelled paths -/

/-- A sigma, of either case, ends a word of the path. -/
def endsWithSigma (data : CaseData) (text : List Char) : Bool :=
  data.hasFinalSigma [] (collapseSlashes text)

/-- Decoded paths that are tidied alike, apart from a sigma at the end of a word. -/
structure Alike (data : CaseData) (text text' : List Char) : Prop where
  sigma : endsWithSigma data text = endsWithSigma data text'
  tidied : endsWithSigma data text = false → tidy data text = tidy data text'

theorem Alike.refl (text : List Char) : Alike data text text := ⟨rfl, fun _ ↦ rfl⟩

theorem Alike.symm {text text' : List Char} (halike : Alike data text text') :
    Alike data text' text :=
  ⟨halike.sigma.symm, fun hnone ↦ (halike.tidied (halike.sigma.trans hnone)).symm⟩

theorem Alike.trans {first second third : List Char} (hfirst : Alike data first second)
    (hsecond : Alike data second third) : Alike data first third := by
  refine ⟨hfirst.sigma.trans hsecond.sigma, ?_⟩
  intro hnone
  rw [hfirst.tidied hnone, hsecond.tidied (hfirst.sigma.symm.trans hnone)]

theorem alike_of_sameLetter {text text' : List Char}
    (hsame : List.Forall₂ data.SameLetter text text') : Alike data text text' := by
  have hcollapsed := collapseSlashes_sameLetter hsame
  refine ⟨CaseData.hasFinalSigma_congr .nil hcollapsed, ?_⟩
  intro hnone
  rw [tidy, tidy, CaseData.toLowerCase_eq_of_sameLetter hcollapsed hnone]

theorem alike_of_slashRepeated (front back : List Char) :
    Alike data (front ++ '/' :: back) (front ++ '/' :: '/' :: back) := by
  constructor
  · rw [endsWithSigma, endsWithSigma, collapseSlashes_repeated]
  · intro _
    rw [tidy, tidy, collapseSlashes_repeated]

theorem alike_of_slashAdded (text : List Char) : Alike data text (text ++ ['/']) := by
  constructor
  · rw [endsWithSigma, endsWithSigma, collapseSlashes_append_slash]
    split_ifs
    · rfl
    · rw [hasFinalSigma_append_slash]
  · intro _
    rw [tidy_append_slash]

/-- What a raw URL spells, another spells too, up to what tidying makes alike. -/
def Leads (data : CaseData) (rawUrl other : List Char) : Prop :=
  ∀ text, Spells (pathOf rawUrl) text → ∃ text', Spells (pathOf other) text' ∧ Alike data text text'

theorem spells_append_slash {path text : List Char} :
    Spells (path ++ ['/']) text ↔ ∃ front, text = front ++ ['/'] ∧ Spells path front := by
  rw [spells_append_cons rfl]
  constructor
  · rintro ⟨front, back, rfl, hfront, hback⟩
    rw [hback.unique spells_nil]
    exact ⟨front, rfl, hfront⟩
  · rintro ⟨front, rfl, hfront⟩
    exact ⟨front, [], rfl, hfront, spells_nil⟩

theorem hexValue_toLower {c : Char} (hc : c.toNat < 128) :
    hexValue c.toLower = hexValue c ∧
      (hexValue c ≠ none → c.toLower ≠ 'i' ∧ c.toLower ≠ 'k') :=
  CaseData.of_ascii (P := fun c ↦ hexValue c.toLower = hexValue c ∧
    (hexValue c ≠ none → c.toLower ≠ 'i' ∧ c.toLower ≠ 'k')) (by decide) hc

theorem hexValue_eq_some_of_sameLetter {c d : Char} (hsame : data.SameLetter c d) {value : ℕ}
    (hvalue : hexValue c = some value) : hexValue d = some value := by
  have hc := lt_of_hexValue hvalue
  obtain ⟨hlower, hplain⟩ := hexValue_toLower hc
  obtain ⟨hi, hk⟩ := hplain (by simp [hvalue])
  obtain ⟨hd, hcase⟩ := hsame.toLower_eq hc hi hk
  rw [← (hexValue_toLower hd).1, hcase, hlower, hvalue]

/-- The forms of one letter mean the same in an escape. -/
theorem sameLetter_escape (c d : Char) (hsame : data.SameLetter c d) :
    hexValue c = hexValue d ∧ (c = '%' ↔ d = '%') := by
  refine ⟨?_, hsame.mark_iff rfl⟩
  apply Option.ext
  intro value
  exact ⟨hexValue_eq_some_of_sameLetter hsame, hexValue_eq_some_of_sameLetter hsame.symm⟩

theorem mem_iff_of_sameLetter {m : Char} (hm : CaseData.isPlainMark m = true) {path path' : List Char}
    (hsame : List.Forall₂ data.SameLetter path path') : m ∈ path ↔ m ∈ path' := by
  induction hsame with
  | nil => rfl
  | cons hletter _ ih =>
    rw [List.mem_cons, List.mem_cons, ih, eq_comm, hletter.mark_iff hm, eq_comm]

theorem leads_of_respelling {rawUrl other : List Char} (hstep : Respelling data rawUrl other) :
    Leads data rawUrl other ∧ Leads data other rawUrl := by
  cases hstep with
  | escaped hpath hpath' hrest hspells hspells' =>
    rw [Leads, Leads, pathOf_append hpath, pathOf_append hpath', hrest, List.append_nil,
      List.append_nil]
    constructor
    · intro text htext
      rw [htext.unique hspells]
      exact ⟨_, hspells', .refl _⟩
    · intro text htext
      rw [htext.unique hspells']
      exact ⟨_, hspells, .refl _⟩
  | @recased path path' rest hpath hrest hsame =>
    have hpath' : InPath path' := by
      rwa [InPath, ← mem_iff_of_sameLetter rfl hsame, ← mem_iff_of_sameLetter rfl hsame]
    rw [Leads, Leads, pathOf_append hpath, pathOf_append hpath', hrest, List.append_nil,
      List.append_nil]
    constructor
    · intro text htext
      obtain ⟨text', htext', hletters⟩ :=
        htext.replaced CaseData.sameLetter_refl sameLetter_escape hsame
      exact ⟨text', htext', alike_of_sameLetter hletters⟩
    · intro text htext
      obtain ⟨text', htext', hletters⟩ :=
        htext.replaced CaseData.sameLetter_refl sameLetter_escape
          (hsame.flip.imp fun _ _ hletter ↦ hletter.symm)
      exact ⟨text', htext', alike_of_sameLetter hletters⟩
  | @slashRepeated front back hfront =>
    have hone : pathOf ('/' :: back) = '/' :: pathOf back := rfl
    have htwo : pathOf ('/' :: '/' :: back) = '/' :: '/' :: pathOf back := rfl
    rw [Leads, Leads, pathOf_append hfront, pathOf_append hfront, hone, htwo]
    constructor
    · intro text htext
      obtain ⟨x, y, rfl, hx, hy⟩ := (spells_append_cons rfl).mp htext
      refine ⟨x ++ '/' :: '/' :: y, ?_, alike_of_slashRepeated x y⟩
      exact hx.append ((spells_literal (by decide)).append ((spells_literal (by decide)).append hy))
    · intro text htext
      obtain ⟨x, rest, rfl, hx, hrest⟩ := (spells_append_cons rfl).mp htext
      obtain ⟨y, rfl, hy⟩ := (spells_cons rfl).mp hrest
      exact ⟨x ++ '/' :: y, hx.append ((spells_literal (by decide)).append hy),
        (alike_of_slashRepeated x y).symm⟩
  | @slashAdded path rest hpath hrest =>
    have hslash : pathOf ('/' :: rest) = ['/'] := congrArg ('/' :: ·) hrest
    rw [Leads, Leads, pathOf_append hpath, pathOf_append hpath, hrest, hslash, List.append_nil]
    constructor
    · intro text htext
      exact ⟨text ++ ['/'], spells_append_slash.mpr ⟨text, rfl, htext⟩, alike_of_slashAdded text⟩
    · intro text htext
      obtain ⟨front, rfl, hfront⟩ := spells_append_slash.mp htext
      exact ⟨front, hfront, (alike_of_slashAdded front).symm⟩
  | followed hpath hrest hrest' =>
    rw [Leads, Leads, pathOf_append hpath, pathOf_append hpath, hrest, hrest']
    exact ⟨fun text htext ↦ ⟨text, htext, .refl text⟩, fun text htext ↦ ⟨text, htext, .refl text⟩⟩

theorem leads_of_respelled {rawUrl other : List Char} (hrespelled : Respelled data rawUrl other) :
    Leads data rawUrl other ∧ Leads data other rawUrl := by
  have htrans {a b c : List Char} (hab : Leads data a b) (hbc : Leads data b c) : Leads data a c := by
    intro text htext
    obtain ⟨text', htext', halike⟩ := hab text htext
    obtain ⟨text'', htext'', halike'⟩ := hbc text' htext'
    exact ⟨text'', htext'', halike.trans halike'⟩
  induction hrespelled with
  | rel _ _ hstep => exact leads_of_respelling hstep
  | refl _ => exact ⟨fun text htext ↦ ⟨text, htext, .refl text⟩, fun text htext ↦ ⟨text, htext, .refl text⟩⟩
  | symm _ _ _ ih => exact ih.symm
  | trans _ _ _ _ _ ihfirst ihsecond =>
    exact ⟨htrans ihfirst.1 ihsecond.1, htrans ihsecond.2 ihfirst.2⟩

theorem normalizePolicyPath_of_spells {rawUrl : String} {text : List Char}
    (hspells : Spells (pathOf rawUrl.toList) text) :
    normalizePolicyPath data rawUrl = String.ofList (tidy data text) := by
  rw [normalizePolicyPath, decode_eq_some_iff.mpr hspells]
  rfl

/-- Every spelling of a path without a sigma at the end of a word is normalized alike. -/
theorem normalizePolicyPath_of_respelled {rawUrl other : String}
    (hrespelled : Respelled data rawUrl.toList other.toList) {text : List Char}
    (hspells : Spells (pathOf rawUrl.toList) text) (hnone : endsWithSigma data text = false) :
    normalizePolicyPath data other = normalizePolicyPath data rawUrl := by
  obtain ⟨text', hspells', halike⟩ := (leads_of_respelled hrespelled).1 text hspells
  rw [normalizePolicyPath_of_spells hspells, normalizePolicyPath_of_spells hspells',
    halike.tidied hnone]

end Karar.Platform
