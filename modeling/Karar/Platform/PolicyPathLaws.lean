import Karar.Platform.PolicyPath

/-!
# Which paths are normalized as documented

The path of a policy is documented not to depend on how it is spelled, and never to be one for a path
with malformed escapes and one with well-formed escapes.
-/

namespace Karar.Platform

open Karar.Foundation Karar.Foundation.PercentEncoding

variable {data : CaseData}

/-! ### A sigma at the end of a word -/

theorem collapseSlashes_sublist (text : List Char) : (collapseSlashes text).Sublist text := by
  induction text with
  | nil => exact List.Sublist.refl []
  | cons c rest ih =>
    rw [collapseSlashes]
    split_ifs
    · exact ih.cons c
    · exact ih.cons_cons c

theorem collapseSlashes_collapseSlashes (text : List Char) :
    collapseSlashes (collapseSlashes text) = collapseSlashes text := by
  induction text with
  | nil => rfl
  | cons c rest ih =>
    rw [collapseSlashes]
    split_ifs with hrun
    · exact ih
    · rw [collapseSlashes, head?_collapseSlashes, if_neg hrun, ih]

/-- Other forms of the letters of a path without repeated slashes make another such path. -/
theorem collapseSlashes_eq_self {text text' : List Char} (hsame : List.Forall₂ data.SameLetter text text')
    (htext : collapseSlashes text = text) : collapseSlashes text' = text' := by
  apply (collapseSlashes_sublist text').eq_of_length
  have hcollapsed := (collapseSlashes_sameLetter hsame).length_eq
  rw [htext, hsame.length_eq] at hcollapsed
  exact hcollapsed.symm

/-- The slashes at the ends do not depend on a character that is none. -/
theorem exists_dropTrailingSlash_leadSlash (left right : List Char) :
    ∃ left' right', ∀ c, c ≠ '/' →
      dropTrailingSlash (leadSlash (left ++ c :: right)) = left' ++ c :: right' := by
  refine ⟨leadSlash left, if right.getLast? = some '/' then right.dropLast else right, ?_⟩
  intro c hc
  have hlead : leadSlash (left ++ c :: right) = leadSlash left ++ c :: right := by
    cases left with
    | nil => simp [leadSlash, hc]
    | cons d left =>
      rw [leadSlash, leadSlash, List.cons_append, List.head?_cons, List.head?_cons]
      split_ifs
      · rfl
      · rfl
  have hne : leadSlash left ≠ [] := by
    unfold leadSlash
    split_ifs with hhead
    · rintro rfl
      simp at hhead
    · simp
  rw [hlead, dropTrailingSlash, List.getLast?_append_of_ne_nil _ (List.cons_ne_nil c right)]
  cases right with
  | nil => simp [hc]
  | cons d right =>
    rw [List.getLast?_cons_cons]
    have hlength : 1 < (leadSlash left ++ c :: d :: right).length := by
      rw [List.length_append, List.length_cons, List.length_cons]
      omega
    by_cases hlast : (d :: right).getLast? = some '/'
    · rw [if_pos ⟨hlength, hlast⟩, if_pos hlast, List.dropLast_append_of_ne_nil (List.cons_ne_nil _ _),
        List.dropLast_cons_cons]
    · rw [if_neg (by simp [hlast]), if_neg hlast]

theorem inPath_append {front back : List Char} (hfront : InPath front) (hback : InPath back) :
    InPath (front ++ back) := by
  rw [InPath, List.mem_append, List.mem_append, not_or, not_or]
  exact ⟨⟨hfront.1, hback.1⟩, hfront.2, hback.2⟩

theorem inPath_escapeMarks (text : List Char) : InPath (escapeMarks text) := not_mem_escapeMarks text

/-- The spellings of a path with repeated slashes include the one without them. -/
theorem respelled_collapseSlashes (front text rest : List Char) (hfront : InPath front) :
    Respelled data (front ++ (escapeMarks text ++ rest))
      (front ++ (escapeMarks (collapseSlashes text) ++ rest)) := by
  induction text generalizing front with
  | nil => exact .refl _
  | cons c text ih =>
    rw [collapseSlashes]
    split_ifs with hrun
    · obtain ⟨rfl, hhead⟩ := hrun
      obtain ⟨more, rfl⟩ : ∃ more, text = '/' :: more := by
        cases text with
        | nil => simp at hhead
        | cons d more => exact ⟨more, by rw [List.head?_cons, Option.some.injEq] at hhead; rw [hhead]⟩
      have hstep : Respelling data (front ++ '/' :: (escapeMarks more ++ rest))
          (front ++ '/' :: '/' :: (escapeMarks more ++ rest)) := .slashRepeated hfront
      exact .trans _ _ _ (.symm _ _ (.rel _ _ hstep)) (ih front hfront)
    · have hcons (tail : List Char) : escapeMarks (c :: tail) = escapeMarks [c] ++ escapeMarks tail :=
        escapeMarks_append [c] tail
      have hrest := ih (front ++ escapeMarks [c]) (inPath_append hfront (inPath_escapeMarks [c]))
      rw [hcons text, hcons (collapseSlashes text), List.append_assoc, List.append_assoc]
      rwa [List.append_assoc, List.append_assoc] at hrest

theorem exists_rest (rawUrl : List Char) : ∃ rest, AfterPath rest ∧ rawUrl = pathOf rawUrl ++ rest := by
  refine ⟨rawUrl.dropWhile fun c ↦ c != '?' && c != '#', ?_, List.takeWhile_append_dropWhile.symm⟩
  rw [AfterPath, pathOf, List.takeWhile_eq_nil_iff]
  intro hpositive
  exact List.dropWhile_get_zero_not _ _ hpositive

/-- The path that is escaped in another way, and the one in which a letter has another form. -/
theorem respelled_other_form {rawUrl front back : List Char} {text : List Char} {c d : Char}
    (hspells : Spells (pathOf rawUrl) text) (htext : collapseSlashes text = front ++ c :: back)
    (hc : escapeMarks [c] = [c]) (hd : escapeMarks [d] = [d]) (hsame : data.SameLetter c d) :
    ∃ other, Respelled data rawUrl other ∧ Spells (pathOf other) (front ++ d :: back) := by
  obtain ⟨rest, hafter, hraw⟩ := exists_rest rawUrl
  have hletter (e : Char) (he : escapeMarks [e] = [e]) :
      escapeMarks (front ++ e :: back) = escapeMarks front ++ e :: escapeMarks back := by
    rw [escapeMarks_append, ← List.singleton_append, escapeMarks_append, he]
    rfl
  have hescaped : Respelling data (pathOf rawUrl ++ rest) (escapeMarks text ++ rest) :=
    .escaped (inPath_pathOf rawUrl) (inPath_escapeMarks text) hafter hspells (spells_escapeMarks text)
  have hcollapsed : Respelled data (escapeMarks text ++ rest) (escapeMarks (front ++ c :: back) ++ rest) := by
    rw [← htext]
    exact respelled_collapseSlashes [] text rest ⟨by simp, by simp⟩
  have hletters : List.Forall₂ data.SameLetter (escapeMarks (front ++ c :: back))
      (escapeMarks (front ++ d :: back)) := by
    rw [hletter c hc, hletter d hd]
    exact hsame.within _ _
  have hrecased : Respelling data (escapeMarks (front ++ c :: back) ++ rest)
      (escapeMarks (front ++ d :: back) ++ rest) :=
    .recased (inPath_escapeMarks _) hafter hletters
  refine ⟨escapeMarks (front ++ d :: back) ++ rest, ?_, ?_⟩
  · rw [hraw]
    exact .trans _ _ _ (.rel _ _ hescaped) (.trans _ _ _ hcollapsed (.rel _ _ hrecased))
  · rw [pathOf_append (inPath_escapeMarks _), hafter, List.append_nil]
    exact spells_escapeMarks _

/-- A path with a sigma at the end of a word has a spelling that is normalized differently. -/
theorem exists_respelled_ne {rawUrl : String} {text : List Char}
    (hspells : Spells (pathOf rawUrl.toList) text) (hsigma : endsWithSigma data text = true) :
    ∃ other : String, Respelled data rawUrl.toList other.toList ∧
      normalizePolicyPath data other ≠ normalizePolicyPath data rawUrl := by
  obtain ⟨front, c, d, back, left, right, htext, hc, hsame, hforms⟩ := CaseData.exists_other_form hsigma
  have hd : data.lowerMapping d = ['σ'] := hsame.symm.trans hc
  have hplain (e : Char) (he : data.lowerMapping e = ['σ']) : escapeMarks [e] = [e] :=
    escapeMarks_singleton (CaseData.ne_mark rfl (by decide) he) (CaseData.ne_mark rfl (by decide) he)
      (CaseData.ne_mark rfl (by decide) he)
  obtain ⟨other, hrespelled, hother⟩ :=
    respelled_other_form hspells htext (hplain c hc) (hplain d hd) hsame
  refine ⟨String.ofList other, by rwa [String.toList_ofList], ?_⟩
  have hcollapsed : collapseSlashes (front ++ d :: back) = front ++ d :: back := by
    apply collapseSlashes_eq_self (hsame.within front back)
    rw [← htext, collapseSlashes_collapseSlashes]
  obtain ⟨left', right', hends⟩ := exists_dropTrailingSlash_leadSlash left right
  have hfinal := hends 'ς' (by decide)
  have hplainSigma := hends 'σ' (by decide)
  rw [normalizePolicyPath_of_spells hspells, normalizePolicyPath_of_spells (by rwa [String.toList_ofList]),
    tidy, tidy, hcollapsed]
  intro heq
  have hlists := String.ofList_inj.mp heq
  rcases hforms with ⟨hone, htwo⟩ | ⟨hone, htwo⟩
  · rw [hone, htwo, hfinal, hplainSigma] at hlists
    simp at hlists
  · rw [hone, htwo, hfinal, hplainSigma] at hlists
    simp at hlists

/-! ### Malformed and well-formed escapes -/

/-- A mark does not belong to an escape. -/
theorem wellFormed_append_cons {m : Char} (hm : isMark m = true) (before after : List Char) :
    WellFormed (before ++ m :: after) ↔ WellFormed before ∧ WellFormed after := by
  constructor
  · rintro ⟨text, htext⟩
    obtain ⟨x, y, rfl, hx, hy⟩ := (spells_append_cons hm).mp htext
    exact ⟨⟨x, hx⟩, y, hy⟩
  · rintro ⟨⟨x, hx⟩, y, hy⟩
    exact ⟨x ++ m :: y, (spells_append_cons hm).mpr ⟨x, y, rfl, hx, hy⟩⟩

theorem wellFormed_nil : WellFormed [] := ⟨[], spells_nil⟩

theorem wellFormed_marks {marks : List Char} (hmarks : ∀ m ∈ marks, isMark m = true)
    (hne : marks ≠ []) (before after : List Char) :
    WellFormed (before ++ (marks ++ after)) ↔ WellFormed before ∧ WellFormed after := by
  induction marks generalizing before with
  | nil => exact absurd rfl hne
  | cons m marks ih =>
    rw [List.cons_append, wellFormed_append_cons (hmarks m List.mem_cons_self)]
    by_cases hnil : marks = []
    · rw [hnil, List.nil_append]
    · have hrest := ih (fun m hm ↦ hmarks m (List.mem_cons_of_mem _ hm)) hnil []
      rw [List.nil_append] at hrest
      simp [hrest, wellFormed_nil]

theorem wellFormed_collapseSlashes (before text : List Char) :
    WellFormed (before ++ collapseSlashes text) ↔ WellFormed (before ++ text) := by
  induction text generalizing before with
  | nil => rfl
  | cons c text ih =>
    rw [collapseSlashes]
    split_ifs with hrun
    · obtain ⟨rfl, hhead⟩ := hrun
      obtain ⟨more, rfl⟩ : ∃ more, text = '/' :: more := by
        cases text with
        | nil => simp at hhead
        | cons d more => exact ⟨more, by rw [List.head?_cons, Option.some.injEq] at hhead; rw [hhead]⟩
      rw [ih, wellFormed_append_cons rfl, wellFormed_append_cons rfl]
      have hslash := wellFormed_append_cons (m := '/') rfl [] more
      rw [List.nil_append] at hslash
      simp [hslash, wellFormed_nil]
    · have hrest := ih (before ++ [c])
      simpa only [List.append_assoc, List.singleton_append] using hrest

/-- What a character that escapes are written with is in lower case. -/
theorem lowerForm_of_not_isMark {c : Char} (hc : isMark c = false) (before after : List Char) :
    ∃ d, data.lowerForm before c after = [d] ∧ data.SameLetter c d := by
  have hascii : c.toNat < 128 := by
    by_cases hpercent : c = '%'
    · rw [hpercent]
      decide
    · cases hvalue : hexValue c with
      | none => simp [isMark, hpercent, hvalue] at hc
      | some value => exact lt_of_hexValue hvalue
  have hsigma : c ≠ 'Σ' := by
    rintro rfl
    exact absurd hascii (by decide)
  have hlower : c.toLower.toLower = c.toLower :=
    CaseData.of_ascii (P := fun c ↦ c.toLower.toLower = c.toLower) (by decide) hascii
  refine ⟨c.toLower, ?_, ?_⟩
  · rw [CaseData.lowerForm, if_neg (by simp [hsigma]), data.ascii c hascii]
  · rw [CaseData.SameLetter, data.ascii c hascii, data.ascii _ (CaseData.toLower_lt hascii), hlower]

theorem isMark_of_le {c : Char} (hc : 128 ≤ c.toNat) : isMark c = true := by
  have hpercent : c ≠ '%' := by
    rintro rfl
    exact absurd hc (by decide)
  have hvalue : hexValue c = none := by
    cases hvalue : hexValue c with
    | none => rfl
    | some value => exact absurd (lt_of_hexValue hvalue) (by omega)
  simp [isMark, hpercent, hvalue]

theorem isMark_of_mem_lowerForm {c d : Char} (hc : isMark c = true) {before after : List Char}
    (hd : d ∈ data.lowerForm before c after) : isMark d = true := by
  unfold CaseData.lowerForm at hd
  split_ifs at hd
  · rw [List.mem_singleton.mp hd]
    rfl
  · by_cases hascii : c.toNat < 128
    · rw [data.ascii c hascii, List.mem_singleton] at hd
      rw [hd]
      exact CaseData.of_ascii (P := fun c ↦ isMark c = true → isMark c.toLower = true) (by decide)
        hascii hc
    · by_cases hlow : d.toNat < 128
      · rcases (data.beyond c (by omega)).2 d hd hlow with rfl | rfl
        · rfl
        · rfl
      · exact isMark_of_le (by omega)

theorem wellFormed_of_sameLetter {path path' : List Char}
    (hsame : List.Forall₂ data.SameLetter path path') : WellFormed path' ↔ WellFormed path := by
  constructor
  · rintro ⟨text, htext⟩
    obtain ⟨text', htext', -⟩ := htext.replaced CaseData.sameLetter_refl sameLetter_escape
      (hsame.flip.imp fun _ _ hletter ↦ hletter.symm)
    exact ⟨text', htext'⟩
  · rintro ⟨text, htext⟩
    obtain ⟨text', htext', -⟩ := htext.replaced CaseData.sameLetter_refl sameLetter_escape hsame
    exact ⟨text', htext'⟩

/-- Lower case does not repair an escape or break one. The induction keeps the characters since the
last mark, which may belong to one escape. -/
theorem wellFormed_lowerIn (front front' before text after : List Char)
    (hfront : List.Forall₂ data.SameLetter front front') :
    WellFormed (front' ++ data.lowerIn before text after) ↔ WellFormed (front ++ text) := by
  induction text generalizing front front' before with
  | nil =>
    rw [CaseData.lowerIn, List.append_nil, List.append_nil]
    exact wellFormed_of_sameLetter hfront
  | cons c text ih =>
    rw [CaseData.lowerIn]
    by_cases hc : isMark c = true
    · have hrest := ih [] [] (c :: before) .nil
      rw [List.nil_append, List.nil_append] at hrest
      rw [wellFormed_marks (fun d hd ↦ isMark_of_mem_lowerForm hc hd)
        (CaseData.lowerForm_ne_nil before c _), wellFormed_append_cons hc,
        wellFormed_of_sameLetter hfront, hrest]
    · have hletter : isMark c = false := by simpa using hc
      obtain ⟨d, hform, hsame⟩ : ∃ d, data.lowerForm before c (text ++ after) = [d] ∧
          data.SameLetter c d := lowerForm_of_not_isMark hletter before (text ++ after)
      have hrest := ih (front ++ [c]) (front' ++ [d]) (c :: before)
        (List.rel_append hfront (.cons hsame .nil))
      rw [hform]
      simpa only [List.append_assoc, List.singleton_append, List.nil_append, List.cons_append] using hrest

theorem wellFormed_leadSlash (path : List Char) : WellFormed (leadSlash path) ↔ WellFormed path := by
  unfold leadSlash
  split_ifs
  · rfl
  · have hslash := wellFormed_append_cons (m := '/') rfl [] path
    rw [List.nil_append] at hslash
    simp [hslash, wellFormed_nil]

theorem dropTrailingSlash_eq (path : List Char) :
    dropTrailingSlash path = path ∨ dropTrailingSlash path ++ ['/'] = path := by
  unfold dropTrailingSlash
  split_ifs with hlast
  · exact .inr (List.dropLast_append_getLast? _ hlast.2)
  · exact .inl rfl

theorem wellFormed_tidy (text : List Char) : WellFormed (tidy data text) ↔ WellFormed text := by
  have hlower : WellFormed ([] ++ data.lowerIn [] (collapseSlashes text) []) ↔
      WellFormed ([] ++ collapseSlashes text) := wellFormed_lowerIn [] [] [] _ [] .nil
  have hcollapsed := wellFormed_collapseSlashes [] text
  have hlead := wellFormed_leadSlash (data.toLowerCase (collapseSlashes text))
  rw [List.nil_append, List.nil_append] at hlower hcollapsed
  rw [← hcollapsed, ← hlower, ← CaseData.toLowerCase, ← hlead, tidy]
  rcases dropTrailingSlash_eq (leadSlash (data.toLowerCase (collapseSlashes text))) with hsame | hdropped
  · rw [hsame]
  · conv_rhs => rw [← hdropped]
    rw [wellFormed_append_cons rfl]
    simp [wellFormed_nil]

theorem mem_collapseSlashes_iff {m : Char} (hm : m ≠ '/') (text : List Char) :
    m ∈ collapseSlashes text ↔ m ∈ text := by
  induction text with
  | nil => rfl
  | cons c text ih =>
    rw [collapseSlashes]
    split_ifs with hrun
    · rw [ih, List.mem_cons, hrun.1]
      simp [hm]
    · rw [List.mem_cons, List.mem_cons, ih]

theorem mem_tidy_iff {m : Char} (hm : CaseData.isPlainMark m = true) (hslash : m ≠ '/')
    (text : List Char) : m ∈ tidy data text ↔ m ∈ text := by
  have hlower : m ∈ data.lowerIn [] (collapseSlashes text) [] ↔ m ∈ collapseSlashes text :=
    CaseData.mem_lowerIn_iff hm [] _ []
  rw [mem_collapseSlashes_iff hslash, ← CaseData.toLowerCase] at hlower
  have hlead : m ∈ leadSlash (data.toLowerCase (collapseSlashes text)) ↔ m ∈ text := by
    rw [← hlower, leadSlash]
    split_ifs
    · rfl
    · simp [hslash]
  rw [← hlead, tidy]
  rcases dropTrailingSlash_eq (leadSlash (data.toLowerCase (collapseSlashes text))) with hsame | hdropped
  · rw [hsame]
  · conv_rhs => rw [← hdropped]
    simp [hslash]

theorem inPath_tidy (text : List Char) : InPath (tidy data text) ↔ InPath text := by
  rw [InPath, InPath, mem_tidy_iff rfl (by decide), mem_tidy_iff rfl (by decide)]

/-! ### What the path promises -/

/-- The documented promise for a raw URL: every spelling of a path with well-formed escapes is
normalized alike, and no path is normalized like one with malformed escapes, if its own are
well-formed, nor like one with well-formed escapes, if its own are malformed. -/
structure PolicyBound (data : CaseData) (rawUrl : String) : Prop where
  spelled (other : String) : WellFormed (pathOf rawUrl.toList) →
    Respelled data rawUrl.toList other.toList →
      normalizePolicyPath data other = normalizePolicyPath data rawUrl
  apart (other : String) :
    (WellFormed (pathOf rawUrl.toList) ↔ ¬ WellFormed (pathOf other.toList)) →
      normalizePolicyPath data other ≠ normalizePolicyPath data rawUrl

theorem normalizePolicyPath_of_malformed {rawUrl : String}
    (hmalformed : ¬ WellFormed (pathOf rawUrl.toList)) :
    normalizePolicyPath data rawUrl = String.ofList (tidy data (pathOf rawUrl.toList)) := by
  have hdecode : decode (pathOf rawUrl.toList) = none := by
    rw [Option.eq_none_iff_forall_not_mem]
    intro text htext
    exact hmalformed ⟨text, decode_eq_some_iff.mp htext⟩
  rw [normalizePolicyPath, hdecode]
  rfl

theorem pathOf_eq_self {path : List Char} (hpath : InPath path) : pathOf path = path := by
  have happend : pathOf (path ++ []) = path ++ [] := pathOf_append hpath
  rwa [List.append_nil] at happend

/-- The policy path is as documented for the raw URLs whose escapes are well-formed, whose decoded path
has no sigma at the end of a word and, read as a raw path once more, has a query or a fragment or
well-formed escapes. -/
theorem policyBound_iff (rawUrl : String) : PolicyBound data rawUrl ↔
    ∃ text, Spells (pathOf rawUrl.toList) text ∧ endsWithSigma data text = false ∧
      (InPath text → WellFormed text) := by
  constructor
  · intro hbound
    by_cases hwell : WellFormed (pathOf rawUrl.toList)
    · obtain ⟨text, htext⟩ := hwell
      refine ⟨text, htext, ?_, ?_⟩
      · by_contra hsigma
        obtain ⟨other, hrespelled, hne⟩ := exists_respelled_ne htext (by simpa using hsigma)
        exact hne (hbound.spelled other ⟨text, htext⟩ hrespelled)
      · intro hpath
        by_contra hmalformed
        -- The decoded path is itself a raw path, with malformed escapes.
        have hother : ¬ WellFormed (pathOf (String.ofList text).toList) := by
          rwa [String.toList_ofList, pathOf_eq_self hpath]
        refine hbound.apart (String.ofList text) (iff_of_true ⟨text, htext⟩ hother) ?_
        rw [normalizePolicyPath_of_malformed hother, normalizePolicyPath_of_spells htext,
          String.toList_ofList, pathOf_eq_self hpath]
    · -- The raw path is spelled by a path in which its percent signs are escaped.
      have hspells : Spells (pathOf (String.ofList (escapeMarks (pathOf rawUrl.toList))).toList)
          (pathOf rawUrl.toList) := by
        rw [String.toList_ofList, pathOf_eq_self (inPath_escapeMarks _)]
        exact spells_escapeMarks _
      refine absurd ?_ (hbound.apart (String.ofList (escapeMarks (pathOf rawUrl.toList))) ?_)
      · rw [normalizePolicyPath_of_malformed hwell, normalizePolicyPath_of_spells hspells]
      · exact iff_of_false hwell (not_not.mpr ⟨_, hspells⟩)
  · rintro ⟨text, htext, hsigma, hread⟩
    refine ⟨fun other _ hrespelled ↦ normalizePolicyPath_of_respelled hrespelled htext hsigma, ?_⟩
    intro other hother heq
    have hmalformed := hother.mp ⟨text, htext⟩
    rw [normalizePolicyPath_of_malformed hmalformed, normalizePolicyPath_of_spells htext] at heq
    have htidy := String.ofList_inj.mp heq
    have hpath : InPath text := by
      rw [← @inPath_tidy data, ← htidy, inPath_tidy]
      exact inPath_pathOf _
    have hwell := hread hpath
    rw [← @wellFormed_tidy data, ← htidy, wellFormed_tidy] at hwell
    exact hmalformed hwell

/-! ### The letters below 128, and sigma -/

/-- The lower-case forms of the letters from A to Z and of sigma. -/
def latinMapping (c : Char) : List Char := if c = 'Σ' then ['σ'] else [c.toLower]

def latinCased (c : Char) : Bool := c.isAlpha || c == 'Σ' || c == 'σ'

theorem latinMapping_ascii (c : Char) (hc : c.toNat < 128) : latinMapping c = [c.toLower] := by
  have hsigma : c ≠ 'Σ' := by
    rintro rfl
    exact absurd hc (by decide)
  rw [latinMapping, if_neg hsigma]

theorem latinCased_ascii (c : Char) (hc : c.toNat < 128) : latinCased c = c.isAlpha := by
  have hcapital : c ≠ 'Σ' := by
    rintro rfl
    exact absurd hc (by decide)
  have hsmall : c ≠ 'σ' := by
    rintro rfl
    exact absurd hc (by decide)
  rw [latinCased, beq_false_of_ne hcapital, beq_false_of_ne hsmall, Bool.or_false, Bool.or_false]

theorem toLower_of_le {c : Char} (hc : 128 ≤ c.toNat) : c.toLower = c := by
  apply dif_neg
  rintro ⟨-, hz⟩
  have hle : c.toNat ≤ 'Z'.toNat := hz
  exact absurd (hc.trans hle) (by decide)

theorem latinMapping_beyond (c : Char) (hc : 128 ≤ c.toNat) : latinMapping c ≠ [] ∧
    ∀ d ∈ latinMapping c, d.toNat < 128 → d = 'i' ∨ d = 'k' := by
  unfold latinMapping
  split_ifs with hsigma
  · refine ⟨by simp, ?_⟩
    intro d hd hlow
    rw [List.mem_singleton.mp hd] at hlow
    exact absurd hlow (by decide)
  · refine ⟨by simp, ?_⟩
    intro d hd hlow
    rw [List.mem_singleton.mp hd, toLower_of_le hc] at hlow
    omega

theorem latinCased_eq_of_latinMapping_eq {c d : Char} (hsame : latinMapping c = latinMapping d) :
    latinCased c = latinCased d := by
  have hform (e : Char) : ∃ f, latinMapping e = [f] ∧ latinCased e = latinCased f := by
    by_cases hsigma : e = 'Σ'
    · subst hsigma
      exact ⟨'σ', rfl, rfl⟩
    · refine ⟨e.toLower, by rw [latinMapping, if_neg hsigma], ?_⟩
      by_cases he : e.toNat < 128
      · have halpha : e.toLower.isAlpha = e.isAlpha :=
          CaseData.of_ascii (P := fun e ↦ e.toLower.isAlpha = e.isAlpha) (by decide) he
        rw [latinCased_ascii e he, latinCased_ascii _ (CaseData.toLower_lt he), halpha]
      · rw [toLower_of_le (by omega)]
  obtain ⟨f, hf, hcased⟩ := hform c
  obtain ⟨g, hg, hcased'⟩ := hform d
  rw [hf, hg, List.cons.injEq] at hsame
  rw [hcased, hcased', hsame.1]

/-- A cut of the character database: the letters from A to Z and sigma have case. -/
def latinCase : CaseData where
  lowerMapping := latinMapping
  cased := latinCased
  caseIgnorable _ := false
  ascii := latinMapping_ascii
  ascii_cased := latinCased_ascii
  beyond := latinMapping_beyond
  sigma := ⟨rfl, rfl⟩
  forms _ _ hsame := ⟨latinCased_eq_of_latinMapping_eq hsame, rfl⟩

/-- The escape in `/%zz` is malformed, those in `/%25zz` are not, and both normalize to `/%zz`. -/
theorem malformed_path_shared : ¬ PolicyBound latinCase "/%25zz" := by
  intro hbound
  have hspells : Spells (pathOf "/%25zz".toList) "/%zz".toList := by
    have hpath : pathOf "/%25zz".toList = ['/', '%', '2', '5', 'z', 'z'] := by decide
    have htext : "/%zz".toList = ['/', '%', 'z', 'z'] := by decide
    have hz : Reads ['z', 'z'] [.literal 'z', .literal 'z'] :=
      .literal (by decide) (.literal (by decide) .nil)
    rw [hpath, htext]
    refine ⟨[.literal '/', .octet (16 * 2 + 5), .literal 'z', .literal 'z'], ?_, ?_⟩
    · exact .literal (by decide) (.escape rfl rfl hz)
    · exact .literal (.of_octets (c := '%') rfl (.literal (.literal .nil)))
  have hmalformed : ¬ WellFormed (pathOf "/%zz".toList) := by
    rintro ⟨text, htext⟩
    have hnone : decode (pathOf "/%zz".toList) = none := by decide
    rw [← decode_eq_some_iff, hnone] at htext
    exact absurd htext (by simp)
  have hself : pathOf "/%zz".toList = "/%zz".toList := by decide
  refine hbound.apart "/%zz" (iff_of_true ⟨_, hspells⟩ hmalformed) ?_
  rw [normalizePolicyPath_of_malformed hmalformed, normalizePolicyPath_of_spells hspells, hself]

end Karar.Platform
