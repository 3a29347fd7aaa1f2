import Karar.Audit.MetadataGuard
import Karar.Foundation.DelimitedWords
import Karar.Platform.PolicyPathLaws
import Mathlib.Data.List.Chain
import Mathlib.Data.List.Infix

/-!
# The words of a metadata key

One sequence of words is written as a key in several ways: in snake case, kebab case, camel case or
Pascal case, and any word can be written as an acronym. The guard is documented to read them alike. It
sees the end of a word at a mark, and where a lower-case letter or a digit stands before a capital
(`seenWords`): `APIToken` is one word to it, and `OAUTH2TOKEN` is two.

A key is judged by the words that the guard sees in it. `judgedByWords_iff` says for which spellings
these give the verdict that the words of the key call for, `seenWords_of_marked` names spellings whose
words are all seen.
-/

namespace Karar.Audit

open Karar.Foundation

/-! ### Words and their spellings -/

/-- A word in lower case. -/
structure Word where
  letters : List Char
  nonempty : letters ≠ []
  plain : ∀ c ∈ letters, c.isLower = true ∨ c.isDigit = true

inductive Style
  | snake
  | kebab
  | camel
  | pascal
deriving DecidableEq

def Style.separator : Style → List Char
  | .snake => ['_']
  | .kebab => ['-']
  | .camel | .pascal => []

structure Spelling where
  style : Style
  /-- Whether the word at a place is written as an acronym. -/
  acronym : ℕ → Bool

def capitalize : List Char → List Char
  | [] => []
  | c :: rest => c.toUpper :: rest

def Spelling.write (spelling : Spelling) (place : ℕ) (word : Word) : List Char :=
  if spelling.acronym place then word.letters.map Char.toUpper
  else match spelling.style with
    | .snake | .kebab => word.letters
    | .camel => if place = 0 then word.letters else capitalize word.letters
    | .pascal => capitalize word.letters

/-- The key that spells the words. -/
def Spelling.key (spelling : Spelling) (words : List Word) : List Char :=
  spelling.style.separator.intercalate (words.mapIdx spelling.write)

/-- In snake case, without an acronym. -/
def plainSpelling : Spelling where
  style := .snake
  acronym _ := false

/-! ### The words that are seen -/

/-- The parts of a key between its marks and case boundaries, in lower case. -/
def seenWords : List Char → List (List Char)
  | [] => [[]]
  | c :: rest =>
    if c = '_' ∨ c = '-' then [] :: seenWords rest
    else if rest.head?.any (isCaseBoundary c) then [c.toLower] :: seenWords rest
    else (seenWords rest).modifyHead (c.toLower :: ·)

/-- One of the phrases stands among the words. -/
def HasPhrase (alternatives words : List (List Char)) : Prop :=
  ∃ alternative ∈ alternatives, alternative.splitOn '_' <:+: words

/-- The words of an identifier or a status. -/
def IsIdentifier (words : List (List Char)) : Prop :=
  words = ["id".toList] ∨ words = ["status".toList] ∨ words = ["state".toList] ∨
    ∃ others last, others ≠ [] ∧ words = others ++ [last] ∧
      (last = "id".toList ∨ last = "ref".toList ∨ last = "at".toList)

/-- The two sequences of words are listed alike: both as secret, or else both as an identifier, or else
both as financial or neither. -/
def ListedAlike (first second : List (List Char)) : Prop :=
  (HasPhrase secretAlternatives first ↔ HasPhrase secretAlternatives second) ∧
    (¬ HasPhrase secretAlternatives first →
      (IsIdentifier first ↔ IsIdentifier second) ∧
      (¬ IsIdentifier first →
        (HasPhrase financialAlternatives first ↔ HasPhrase financialAlternatives second)))

/-! ### Letters below 128 -/

def IsAscii (text : List Char) : Prop := ∀ c ∈ text, c.toNat < 128

variable {data : CaseData}

theorem hasFinalSigma_of_isAscii {text : List Char} (before : List Char) (htext : IsAscii text) :
    data.hasFinalSigma before text = false := by
  induction text generalizing before with
  | nil => rfl
  | cons c rest ih =>
    have hc : c.toLower ≠ 'σ' := by
      intro hsigma
      have hlow := CaseData.toLower_lt (htext c List.mem_cons_self)
      rw [hsigma] at hlow
      exact absurd hlow (by decide)
    rw [CaseData.hasFinalSigma, data.ascii c (htext c List.mem_cons_self),
      ih (c :: before) fun d hd ↦ htext d (List.mem_cons_of_mem c hd)]
    simp [hc]

theorem toLowerCase_of_isAscii {text : List Char} (htext : IsAscii text) :
    data.toLowerCase text = text.map Char.toLower := by
  rw [CaseData.toLowerCase, CaseData.lowerIn_eq_flatMap (hasFinalSigma_of_isAscii [] htext)]
  induction text with
  | nil => rfl
  | cons c rest ih =>
    rw [List.flatMap_cons, data.ascii c (htext c List.mem_cons_self),
      ih fun d hd ↦ htext d (List.mem_cons_of_mem c hd)]
    rfl

/-! ### The normalized key -/

theorem isAscii_separateCases {key : List Char} (hkey : IsAscii key) : IsAscii (separateCases key) := by
  induction key with
  | nil => exact hkey
  | cons c rest ih =>
    have hrest : IsAscii rest := fun d hd ↦ hkey d (List.mem_cons_of_mem c hd)
    cases rest with
    | nil => exact hkey
    | cons d rest =>
      intro e he
      rw [separateCases] at he
      split_ifs at he
      · rcases List.mem_cons.mp he with rfl | he
        · exact hkey e List.mem_cons_self
        · rcases List.mem_cons.mp he with rfl | he
          · decide
          · exact ih hrest e he
      · rcases List.mem_cons.mp he with rfl | he
        · exact hkey e List.mem_cons_self
        · exact ih hrest e he

/-- What becomes of a character that is kept. -/
def normalizeCharacter (c : Char) : Char := (if c = '-' then '_' else c).toLower

theorem normalizeKey_of_isAscii {key : List Char} (hkey : IsAscii key) :
    normalizeKey data key = (separateCases key).map normalizeCharacter := by
  rw [normalizeKey, toLowerCase_of_isAscii, List.map_map]
  · rfl
  · intro c hc
    obtain ⟨d, hd, rfl⟩ := List.mem_map.mp hc
    split_ifs
    · decide
    · exact isAscii_separateCases hkey d hd

theorem normalizeCharacter_eq_mark_iff {c : Char} (hc : c.toNat < 128) :
    normalizeCharacter c = '_' ↔ c = '_' ∨ c = '-' := by
  unfold normalizeCharacter
  split_ifs with hdash
  · simp [hdash]
  · rw [CaseData.toLower_eq_mark_iff rfl hc]
    simp [hdash]

/-- The words of the normalized key are those that are seen in the key. -/
theorem splitOn_normalizeKey {key : List Char} (hkey : IsAscii key) :
    (normalizeKey data key).splitOn '_' = seenWords key := by
  rw [normalizeKey_of_isAscii hkey]
  induction key with
  | nil => rfl
  | cons c rest ih =>
    have hc : c.toNat < 128 := hkey c List.mem_cons_self
    have hcut := ih fun d hd ↦ hkey d (List.mem_cons_of_mem c hd)
    -- A boundary after the character adds a mark behind it.
    have hstep : (separateCases (c :: rest)).map normalizeCharacter = normalizeCharacter c ::
        (if rest.head?.any (isCaseBoundary c) then
          '_' :: (separateCases rest).map normalizeCharacter
        else (separateCases rest).map normalizeCharacter) := by
      cases rest with
      | nil => rfl
      | cons d rest =>
        rw [separateCases, List.head?_cons, Option.any_some]
        split_ifs
        · rfl
        · rfl
    rw [hstep, seenWords, List.splitOn_cons_eq_if_modifyHead]
    by_cases hmark : c = '_' ∨ c = '-'
    · have hplain : rest.head?.any (isCaseBoundary c) = false := by
        rcases hmark with rfl | rfl
        · cases rest <;> rfl
        · cases rest <;> rfl
      rw [if_pos hmark, (normalizeCharacter_eq_mark_iff hc).mpr hmark, hplain, beq_self_eq_true,
        if_pos rfl, if_neg (by simp), hcut]
    · have hne := mt (normalizeCharacter_eq_mark_iff hc).mp hmark
      have hlower : normalizeCharacter c = c.toLower := by
        rw [normalizeCharacter, if_neg fun hdash ↦ hmark (.inr hdash)]
      rw [if_neg (by simpa using hne), if_neg hmark, hlower]
      split_ifs
      · rw [List.splitOn_cons_eq_if_modifyHead, beq_self_eq_true, if_pos rfl, hcut,
          List.modifyHead_cons]
      · rw [hcut]

/-! ### The patterns -/

theorem endsWord_iff {text : List Char} :
    endsWord text = true ↔ text = [] ∨ ∃ after, text = '_' :: after := by
  cases text with
  | nil => simp [endsWord]
  | cons c rest => simp [endsWord]

theorem startsWith_iff {alternatives : List (List Char)} {text : List Char} :
    startsWith alternatives text = true ↔ ∃ alternative ∈ alternatives, ∃ back,
      text = alternative ++ back ∧ (back = [] ∨ ∃ after, back = '_' :: after) := by
  rw [startsWith, List.any_eq_true]
  refine exists_congr fun alternative ↦ and_congr_right fun _ ↦ ?_
  rw [Bool.and_eq_true, List.isPrefixOf_iff_prefix, endsWord_iff]
  constructor
  · rintro ⟨⟨back, rfl⟩, hback⟩
    rw [List.drop_left] at hback
    exact ⟨back, rfl, hback⟩
  · rintro ⟨back, rfl, hback⟩
    rw [List.drop_left]
    exact ⟨List.prefix_append _ _, hback⟩

/-- A pattern matches a text iff one of its alternatives is a phrase of the words of the text. -/
theorem testPattern_iff {alternatives : List (List Char)} {text : List Char} :
    testPattern alternatives text = true ↔ HasPhrase alternatives (text.splitOn '_') := by
  simp only [HasPhrase, ← stands_iff, testPattern, Bool.or_eq_true, List.any_eq_true,
    Bool.and_eq_true, beq_iff_eq, startsWith_iff, List.mem_tails]
  constructor
  · rintro (⟨alternative, hlisted, back, rfl, hback⟩ |
      ⟨rest, ⟨front, rfl⟩, hhead, alternative, hlisted, back, htail, hback⟩)
    · exact ⟨alternative, hlisted, [], back, rfl, .inl rfl, hback⟩
    · refine ⟨alternative, hlisted, front ++ ['_'], back, ?_, .inr ⟨front, rfl⟩, hback⟩
      rw [← List.cons_head?_tail hhead, htail]
      simp
  · rintro ⟨alternative, hlisted, front, back, rfl, rfl | ⟨before, rfl⟩, hback⟩
    · exact .inl ⟨alternative, hlisted, back, rfl, hback⟩
    · refine .inr ⟨'_' :: (alternative ++ back), ⟨before, by simp⟩, rfl, alternative, hlisted, back,
        rfl, hback⟩

theorem isIdentifierKey_iff {text : List Char} :
    isIdentifierKey text = true ↔ IsIdentifier (text.splitOn '_') := by
  have hwhole (word : List Char) (hword : '_' ∉ word) :
      (text == word) = true ↔ text.splitOn '_' = [word] := by
    rw [beq_iff_eq, eq_iff_splitOn hword]
  have hlast (word : List Char) (hword : '_' ∉ word) : ('_' :: word).isSuffixOf text = true ↔
      ∃ others, others ≠ [] ∧ text.splitOn '_' = others ++ [word] := by
    rw [List.isSuffixOf_iff_suffix, suffix_iff_splitOn hword]
  rw [isIdentifierKey]
  simp only [Bool.or_eq_true]
  rw [hwhole _ (by decide), hwhole _ (by decide), hwhole _ (by decide)]
  have hid : "_id".toList = '_' :: "id".toList := by decide
  have href : "_ref".toList = '_' :: "ref".toList := by decide
  have hat : "_at".toList = '_' :: "at".toList := by decide
  rw [hid, href, hat, hlast _ (by decide), hlast _ (by decide), hlast _ (by decide), IsIdentifier]
  constructor
  · rintro (((((h | ⟨others, hne, h⟩) | ⟨others, hne, h⟩) | h) | h) | ⟨others, hne, h⟩)
    · exact .inl h
    · exact .inr (.inr (.inr ⟨others, _, hne, h, .inl rfl⟩))
    · exact .inr (.inr (.inr ⟨others, _, hne, h, .inr (.inl rfl)⟩))
    · exact .inr (.inl h)
    · exact .inr (.inr (.inl h))
    · exact .inr (.inr (.inr ⟨others, _, hne, h, .inr (.inr rfl)⟩))
  · rintro (h | h | h | ⟨others, last, hne, h, rfl | rfl | rfl⟩)
    · exact .inl (.inl (.inl (.inl (.inl h))))
    · exact .inl (.inl (.inr h))
    · exact .inl (.inr h)
    · exact .inl (.inl (.inl (.inl (.inr ⟨others, hne, h⟩))))
    · exact .inl (.inl (.inl (.inr ⟨others, hne, h⟩)))
    · exact .inr ⟨others, hne, h⟩

/-! ### Verdicts -/

theorem secret_iff {key : String} (hkey : IsAscii key.toList) :
    testPattern secretAlternatives (normalizeKey data key.toList) = true ↔
      HasPhrase secretAlternatives (seenWords key.toList) := by
  rw [testPattern_iff, splitOn_normalizeKey hkey]

theorem financial_iff {key : String} (hkey : IsAscii key.toList) :
    testPattern financialAlternatives (normalizeKey data key.toList) = true ↔
      HasPhrase financialAlternatives (seenWords key.toList) := by
  rw [testPattern_iff, splitOn_normalizeKey hkey]

theorem identifier_iff {key : String} (hkey : IsAscii key.toList) :
    isIdentifierKey (normalizeKey data key.toList) = true ↔ IsIdentifier (seenWords key.toList) := by
  rw [isIdentifierKey_iff, splitOn_normalizeKey hkey]

/-- The verdict that the three tests of a key give. -/
def verdictFor (secret financial identifier : Bool) (raw : RawValue) : Except Violation Scalar :=
  if secret then .error .secretKey
  else if raw.classification = some .sealed then .error .sealedValue
  else if raw.classification = some .secret then .error .secretValue
  else match raw.value with
    | .nested isArray => .error (.nestedValue isArray)
    | .scalar value =>
      if raw.classification = some .highlySensitiveFinancial then
        if identifier then .ok value else .ok (.string REDACTED_HSF)
      else if financial && !identifier then .error .unclassifiedFinancial
      else .ok value

theorem judge_eq (key : String) (raw : RawValue) : judge data key raw =
    verdictFor (testPattern secretAlternatives (normalizeKey data key.toList))
      (testPattern financialAlternatives (normalizeKey data key.toList))
      (isIdentifierKey (normalizeKey data key.toList)) raw := rfl

/-- What a financial value and an unclassified one tell of the tests. -/
theorem verdictFor_eq_iff {secret financial identifier secret' financial' identifier' : Bool} :
    (∀ raw, verdictFor secret financial identifier raw =
      verdictFor secret' financial' identifier' raw) ↔
      secret = secret' ∧ (secret = false → identifier = identifier' ∧
        (identifier = false → financial = financial')) := by
  constructor
  · intro hsame
    have hnull := hsame (.unclassified (.scalar .null))
    have hfinancial := hsame (.classified .highlySensitiveFinancial (.scalar .null))
    simp only [verdictFor, RawValue.classification, RawValue.value] at hnull hfinancial
    cases secret with
    | true =>
      cases secret' with
      | true => simp
      | false => cases identifier' <;> simp at hfinancial
    | false =>
      cases secret' with
      | true => cases identifier <;> simp at hfinancial
      | false =>
        refine ⟨rfl, fun _ ↦ ⟨?_, ?_⟩⟩
        · cases identifier <;> cases identifier' <;> simp at hfinancial ⊢
        · rintro rfl
          cases identifier' with
          | true => simp at hfinancial
          | false => cases financial <;> cases financial' <;> simp at hnull ⊢
  · rintro ⟨rfl, hrest⟩ raw
    cases secret with
    | true => rfl
    | false =>
      obtain ⟨rfl, hfinancial⟩ := hrest rfl
      cases identifier with
      | true => simp [verdictFor]
      | false => rw [hfinancial rfl]

/-- Two keys get the same verdicts iff their words are listed alike. -/
theorem judge_eq_iff {first second : String} (hfirst : IsAscii first.toList)
    (hsecond : IsAscii second.toList) : (∀ raw, judge data first raw = judge data second raw) ↔
      ListedAlike (seenWords first.toList) (seenWords second.toList) := by
  simp only [judge_eq, verdictFor_eq_iff, ListedAlike, ← @secret_iff data _ hfirst,
    ← @secret_iff data _ hsecond, ← @financial_iff data _ hfirst,
    ← @financial_iff data _ hsecond, ← @identifier_iff data _ hfirst,
    ← @identifier_iff data _ hsecond, Bool.not_eq_true, Bool.coe_iff_coe]

/-! ### What the guard accepts -/

theorem judge_of_sanitize {entries : List (String × RawValue)} {sanitized : AuditMetadata}
    (hsanitize : sanitize data entries = .ok sanitized) :
    (∀ entry ∈ entries, ∃ value, judge data entry.1 entry.2 = .ok value) ∧
      ∀ entry ∈ sanitized, ∃ raw, judge data entry.1 raw = .ok entry.2 := by
  induction entries generalizing sanitized with
  | nil =>
    obtain rfl : [] = sanitized := Except.ok.inj hsanitize
    simp
  | cons entry rest ih =>
    obtain ⟨key, raw⟩ := entry
    rw [sanitize] at hsanitize
    split at hsanitize
    · simp at hsanitize
    · rename_i value hvalue
      split at hsanitize
      · simp at hsanitize
      · rename_i others hothers
        obtain ⟨hentries, hstored⟩ := ih hothers
        refine ⟨?_, ?_⟩
        · intro entry hentry
          rcases List.mem_cons.mp hentry with rfl | hentry
          · exact ⟨value, hvalue⟩
          · exact hentries entry hentry
        · intro entry hentry
          rw [← Except.ok.inj hsanitize] at hentry
          split_ifs at hentry
          · exact hstored entry hentry
          · rcases List.mem_cons.mp hentry with rfl | hentry
            · exact ⟨raw, hvalue⟩
            · exact hstored entry hentry

theorem sanitize_of_apply {metadata : AuditMetadataInput} {stored : AuditMetadata}
    (happly : apply data (some metadata) = .ok (some stored)) :
    sanitize data metadata.entries = .ok stored ∧ serializedSize stored ≤ MAX_METADATA_BYTES := by
  simp only [apply] at happly
  split at happly
  · simp at happly
  · rename_i sanitized hsanitized
    split_ifs at happly with hsize
    obtain rfl : sanitized = stored := by simpa using happly
    exact ⟨hsanitized, not_lt.mp hsize⟩

/-- What is stored under a financial key that is no identifier is the marker. -/
theorem eq_marker_of_verdictFor {secret : Bool} {raw : RawValue} {value : Scalar}
    (hvalue : verdictFor secret true false raw = .ok value) : value = .string REDACTED_HSF := by
  cases secret with
  | true => simp [verdictFor] at hvalue
  | false =>
    by_cases hfinancial : raw.classification = some .highlySensitiveFinancial
    · cases hraw : raw.value with
      | nested isArray => simp [verdictFor, hfinancial, hraw] at hvalue
      | scalar held =>
        simp only [verdictFor, hfinancial, hraw] at hvalue
        exact (Except.ok.inj hvalue).symm
    · cases hraw : raw.value with
      | nested isArray =>
        simp only [verdictFor, hraw] at hvalue
        split_ifs at hvalue
      | scalar held =>
        simp [verdictFor, hfinancial, hraw, ite_eq_iff] at hvalue

theorem eq_marker_of_judge {key : String} {raw : RawValue} {value : Scalar}
    (hkey : IsAscii key.toList) (hvalue : judge data key raw = .ok value)
    (hfinancial : HasPhrase financialAlternatives (seenWords key.toList))
    (hidentifier : ¬ IsIdentifier (seenWords key.toList)) : value = .string REDACTED_HSF := by
  rw [← @financial_iff data _ hkey] at hfinancial
  rw [← @identifier_iff data _ hkey, Bool.not_eq_true] at hidentifier
  rw [judge_eq, hfinancial, hidentifier] at hvalue
  exact eq_marker_of_verdictFor hvalue

theorem not_secret_of_judge {key : String} {raw : RawValue} {value : Scalar}
    (hkey : IsAscii key.toList) (hvalue : judge data key raw = .ok value) :
    ¬ HasPhrase secretAlternatives (seenWords key.toList) := by
  rw [← @secret_iff data _ hkey]
  intro hsecret
  rw [judge, if_pos hsecret] at hvalue
  exact absurd hvalue (by simp)

/-! ### Parts of a key -/

theorem seenWords_ne_nil (key : List Char) : seenWords key ≠ [] := by
  induction key with
  | nil => simp [seenWords]
  | cons c rest ih =>
    rw [seenWords]
    split_ifs
    · simp
    · simp
    · obtain ⟨word, others, hrest⟩ := List.exists_cons_of_ne_nil ih
      rw [hrest]
      simp

theorem seenWords_append_mark {mark : Char} (hmark : mark = '_' ∨ mark = '-')
    (first second : List Char) :
    seenWords (first ++ mark :: second) = seenWords first ++ seenWords second := by
  induction first with
  | nil =>
    have hstep : seenWords (mark :: second) = [] :: seenWords second := by
      rw [seenWords]
      exact if_pos hmark
    exact hstep
  | cons c rest ih =>
    have hhead : (rest ++ mark :: second).head?.any (isCaseBoundary c) =
        rest.head?.any (isCaseBoundary c) := by
      cases rest with
      | nil =>
        rcases hmark with rfl | rfl
        · simp [isCaseBoundary]
        · simp [isCaseBoundary]
      | cons d rest => rfl
    obtain ⟨word, others, hrest⟩ := List.exists_cons_of_ne_nil (seenWords_ne_nil rest)
    rw [List.cons_append, seenWords, seenWords, hhead, ih, hrest]
    split_ifs
    · rfl
    · rfl
    · rfl

/-- A part without a mark and without a case boundary is one word. -/
theorem seenWords_of_isChain {part : List Char} (hmark : ∀ c ∈ part, ¬(c = '_' ∨ c = '-'))
    (hchain : part.IsChain fun c d ↦ isCaseBoundary c d = false) :
    seenWords part = [part.map Char.toLower] := by
  induction part with
  | nil => rfl
  | cons c rest ih =>
    have hrest := ih (fun d hd ↦ hmark d (List.mem_cons_of_mem c hd)) hchain.tail
    have hnone : rest.head?.any (isCaseBoundary c) = false := by
      cases rest with
      | nil => rfl
      | cons d rest => exact (List.isChain_cons_cons.mp hchain).1
    rw [seenWords, if_neg (hmark c List.mem_cons_self), hnone, if_neg (by simp), hrest]
    rfl

theorem seenWords_intercalate {mark : Char} (hmark : mark = '_' ∨ mark = '-')
    {parts : List (List Char)} (hparts : parts ≠ []) :
    seenWords ([mark].intercalate parts) = parts.flatMap seenWords := by
  induction parts with
  | nil => exact absurd rfl hparts
  | cons part rest ih =>
    cases rest with
    | nil => simp
    | cons next rest =>
      rw [List.intercalate_cons_cons, List.append_assoc, List.singleton_append,
        seenWords_append_mark hmark, ih (by simp)]
      rfl

/-! ### The words of a spelled key -/

/-- No digit stands before a letter. -/
def Word.DigitsLast (word : Word) : Prop :=
  word.letters.IsChain fun c d ↦ ¬(c.isDigit = true ∧ d.isLower = true)

/-- The letters of words. -/
def lettersOf (words : List Word) : List (List Char) := words.map (·.letters)

theorem ascii_of_plain {c : Char} (hc : c.isLower = true ∨ c.isDigit = true) : c.toNat < 128 := by
  have hle : c.toNat ≤ 'z'.toNat := by
    rcases hc with hc | hc
    · exact of_decide_eq_true (Bool.and_eq_true_iff.mp hc).2
    · rw [Char.isDigit, Bool.and_eq_true, decide_eq_true_eq, decide_eq_true_eq] at hc
      exact le_trans hc.2 (by decide)
  exact lt_of_le_of_lt hle (by decide)

/-- What is needed of a lower-case letter, a digit and their capitals. -/
theorem plain_spec {c : Char} (hc : c.isLower = true ∨ c.isDigit = true) :
    c.isUpper = false ∧ c.toLower = c ∧ c.toUpper.toLower = c ∧ c.toUpper.toNat < 128 ∧
      c ≠ '_' ∧ c ≠ '-' ∧ c.toUpper ≠ '_' ∧ c.toUpper ≠ '-' ∧ c.toUpper.isLower = false ∧
      c.toUpper.isDigit = c.isDigit ∧ c.toUpper.isUpper = c.isLower :=
  CaseData.of_ascii (P := fun c ↦ c.isLower = true ∨ c.isDigit = true → c.isUpper = false ∧
    c.toLower = c ∧ c.toUpper.toLower = c ∧ c.toUpper.toNat < 128 ∧ c ≠ '_' ∧ c ≠ '-' ∧
    c.toUpper ≠ '_' ∧ c.toUpper ≠ '-' ∧ c.toUpper.isLower = false ∧ c.toUpper.isDigit = c.isDigit ∧
    c.toUpper.isUpper = c.isLower) (by decide) (ascii_of_plain hc) hc

theorem isChain_of_tail {part : List Char} (hplain : ∀ d ∈ part.tail, d.isUpper = false) :
    part.IsChain fun c d ↦ isCaseBoundary c d = false := by
  induction part with
  | nil => exact .nil
  | cons c rest ih =>
    cases rest with
    | nil => exact .singleton c
    | cons d rest =>
      refine .cons_cons ?_ (ih fun e he ↦ hplain e (List.mem_cons_of_mem d he))
      rw [isCaseBoundary, hplain d List.mem_cons_self, Bool.and_false]

/-- A character of a word, or its capital. -/
def IsForm (c d : Char) : Prop := (c.isLower = true ∨ c.isDigit = true) ∧ (d = c ∨ d = c.toUpper)

theorem IsForm.spec {c d : Char} (hform : IsForm c d) :
    d.toLower = c ∧ d.toNat < 128 ∧ ¬(d = '_' ∨ d = '-') := by
  obtain ⟨hplain, hcase⟩ := hform
  obtain ⟨-, hlower, hupper, hascii, hmark, hdash, hmark', hdash', -⟩ := plain_spec hplain
  rcases hcase with rfl | rfl
  · exact ⟨hlower, ascii_of_plain hplain, by simp [hmark, hdash]⟩
  · exact ⟨hupper, hascii, by simp [hmark', hdash']⟩

theorem forms_spec {letters part : List Char} (hforms : List.Forall₂ IsForm letters part) :
    part.map Char.toLower = letters ∧ ∀ d ∈ part, d.toNat < 128 ∧ ¬(d = '_' ∨ d = '-') := by
  induction hforms with
  | nil => simp
  | cons hform _ ih =>
    obtain ⟨hlower, hspec⟩ := hform.spec
    refine ⟨by rw [List.map_cons, hlower, ih.1], ?_⟩
    intro d hd
    rcases List.mem_cons.mp hd with rfl | hd
    · exact hspec
    · exact ih.2 d hd

theorem write_cases (spelling : Spelling) (place : ℕ) (word : Word) :
    (spelling.acronym place = true ∧
      spelling.write place word = word.letters.map Char.toUpper) ∨
    spelling.acronym place = false ∧ (spelling.write place word = word.letters ∨
      spelling.write place word = capitalize word.letters) := by
  unfold Spelling.write
  by_cases hacronym : spelling.acronym place = true
  · exact .inl ⟨hacronym, if_pos hacronym⟩
  · rw [if_neg hacronym]
    refine .inr ⟨by simpa using hacronym, ?_⟩
    cases spelling.style with
    | snake => exact .inl rfl
    | kebab => exact .inl rfl
    | camel =>
      by_cases hplace : place = 0
      · exact .inl (if_pos hplace)
      · exact .inr (if_neg hplace)
    | pascal => exact .inr rfl

/-- The characters of a written word. -/
theorem forms_write (spelling : Spelling) (place : ℕ) (word : Word) :
    List.Forall₂ IsForm word.letters (spelling.write place word) := by
  have hsmall : List.Forall₂ IsForm word.letters word.letters :=
    List.forall₂_same.mpr fun c hc ↦ ⟨word.plain c hc, .inl rfl⟩
  rcases write_cases spelling place word with ⟨-, hwrite⟩ | ⟨-, hwrite | hwrite⟩
  · rw [hwrite, List.forall₂_map_right_iff]
    exact List.forall₂_same.mpr fun c hc ↦ ⟨word.plain c hc, .inr rfl⟩
  · rwa [hwrite]
  · rw [hwrite]
    cases hletters : word.letters with
    | nil => exact .nil
    | cons c rest =>
      rw [hletters, List.forall₂_cons] at hsmall
      exact .cons ⟨hsmall.1.1, .inr rfl⟩ hsmall.2

theorem isChain_write {spelling : Spelling} {place : ℕ} {word : Word}
    (hplain : spelling.acronym place = true → word.DigitsLast) :
    (spelling.write place word).IsChain fun c d ↦ isCaseBoundary c d = false := by
  have hnone : ∀ c ∈ word.letters.tail, c.isUpper = false :=
    fun c hc ↦ (plain_spec (word.plain c (List.mem_of_mem_tail hc))).1
  rcases write_cases spelling place word with ⟨hacronym, hwrite⟩ | ⟨-, hwrite | hwrite⟩
  · rw [hwrite, List.isChain_map]
    have hdigits := hplain hacronym
    rw [Word.DigitsLast, List.IsChain.iff_mem] at hdigits
    refine hdigits.imp ?_
    rintro c d ⟨hc, hd, hnot⟩
    obtain ⟨-, -, -, -, -, -, -, -, hlow, hdigit, -⟩ := plain_spec (word.plain c hc)
    obtain ⟨-, -, -, -, -, -, -, -, -, -, hupper⟩ := plain_spec (word.plain d hd)
    rw [isCaseBoundary, hlow, hdigit, hupper, Bool.false_or, Bool.and_eq_false_iff]
    by_cases hc : c.isDigit = true
    · exact .inr (by simpa [hc] using hnot)
    · exact .inl (by simpa using hc)
  · rw [hwrite]
    exact isChain_of_tail hnone
  · rw [hwrite]
    refine isChain_of_tail ?_
    cases hletters : word.letters with
    | nil => simp [capitalize]
    | cons c rest =>
      rw [hletters] at hnone
      exact hnone

/-- A written word is seen as it is, unless it is an acronym with a digit before a letter. -/
theorem seenWords_write {spelling : Spelling} {place : ℕ} {word : Word}
    (hplain : spelling.acronym place = true → word.DigitsLast) :
    seenWords (spelling.write place word) = [word.letters] := by
  obtain ⟨hlower, hmark⟩ := forms_spec (forms_write spelling place word)
  rw [seenWords_of_isChain (fun d hd ↦ (hmark d hd).2) (isChain_write hplain), hlower]

theorem isAscii_key (spelling : Spelling) (words : List Word) : IsAscii (spelling.key words) := by
  have hparts : ∀ part ∈ words.mapIdx spelling.write, IsAscii part := by
    intro part hpart c hc
    obtain ⟨place, hplace, rfl⟩ := List.mem_mapIdx.mp hpart
    exact ((forms_spec (forms_write spelling place words[place])).2 c hc).1
  have hseparator : IsAscii spelling.style.separator := by
    intro c hc
    cases hstyle : spelling.style <;> simp_all [Style.separator]
  rw [Spelling.key]
  revert hparts
  generalize words.mapIdx spelling.write = parts
  intro hparts
  induction parts with
  | nil => exact fun c hc ↦ absurd hc (by simp)
  | cons part rest ih =>
    have hrest := ih fun other hother ↦ hparts other (List.mem_cons_of_mem part hother)
    cases rest with
    | nil =>
      rw [List.intercalate_singleton]
      exact hparts part List.mem_cons_self
    | cons next rest =>
      intro c hc
      rw [List.intercalate_cons_cons, List.mem_append, List.mem_append] at hc
      rcases hc with (hc | hc) | hc
      · exact hparts part List.mem_cons_self c hc
      · exact hseparator c hc
      · exact hrest c hc

/-- Parts of which each is seen as one word. -/
theorem flatMap_seenWords {write : ℕ → Word → List Char} {words : List Word}
    (hone : ∀ place word, words[place]? = some word → seenWords (write place word) = [word.letters]) :
    (words.mapIdx write).flatMap seenWords = lettersOf words := by
  induction words generalizing write with
  | nil => rfl
  | cons word rest ih =>
    rw [List.mapIdx_cons, List.flatMap_cons, hone 0 word rfl,
      ih fun place other hother ↦ hone (place + 1) other hother]
    rfl

/-- With a mark between the words all of them are seen. -/
theorem seenWords_of_marked {spelling : Spelling} {words : List Word} (hwords : words ≠ [])
    (hstyle : spelling.style = .snake ∨ spelling.style = .kebab)
    (hdigits : ∀ place word, words[place]? = some word → spelling.acronym place = true →
      word.DigitsLast) :
    seenWords (spelling.key words) = lettersOf words := by
  obtain ⟨mark, hmark, hseparator⟩ : ∃ mark, (mark = '_' ∨ mark = '-') ∧
      spelling.style.separator = [mark] := by
    rcases hstyle with hstyle | hstyle
    · exact ⟨'_', .inl rfl, by rw [hstyle]; rfl⟩
    · exact ⟨'-', .inr rfl, by rw [hstyle]; rfl⟩
  rw [Spelling.key, hseparator, seenWords_intercalate hmark (by simpa using hwords)]
  exact flatMap_seenWords fun place word hword ↦ seenWords_write (hdigits place word hword)

/-! ### Keys judged by their words -/

/-- The documented promise for a spelling of words: the key is judged as its plain spelling is, and
accepted metadata with the key bears out what its words call for. -/
structure JudgedByItsWords (data : CaseData) (spelling : Spelling) (words : List Word) : Prop where
  alike (raw : RawValue) : judge data (String.ofList (spelling.key words)) raw =
    judge data (String.ofList (plainSpelling.key words)) raw
  notSecret {metadata : AuditMetadataInput} {stored : AuditMetadata} :
    apply data (some metadata) = .ok (some stored) →
    String.ofList (spelling.key words) ∈ metadata.entries.map (·.1) →
    ¬ HasPhrase secretAlternatives (lettersOf words)
  redacted {metadata : AuditMetadataInput} {stored : AuditMetadata} {value : Scalar} :
    apply data (some metadata) = .ok (some stored) →
    (String.ofList (spelling.key words), value) ∈ stored →
    HasPhrase financialAlternatives (lettersOf words) → ¬ IsIdentifier (lettersOf words) →
    value = .string REDACTED_HSF

theorem not_hasPhrase_nil (alternatives : List (List Char)) : ¬ HasPhrase alternatives [] := by
  rintro ⟨alternative, -, hinfix⟩
  exact List.splitOn_ne_nil '_' alternative (List.infix_nil.mp hinfix)

/-- The empty key has no words that are listed. -/
theorem listedAlike_nil : ListedAlike [[]] [] := by
  have hnone (alternatives : List (List Char)) (hnonempty : [] ∉ alternatives) :
      ¬ HasPhrase alternatives [[]] := by
    rintro ⟨alternative, hlisted, hinfix⟩
    rw [← List.splitOn_nil '_', ← stands_iff] at hinfix
    obtain ⟨front, back, heq, -, -⟩ := hinfix
    have hempty : alternative = [] := by
      rw [eq_comm, List.append_eq_nil_iff, List.append_eq_nil_iff] at heq
      exact heq.1.2
    exact hnonempty (hempty ▸ hlisted)
  have hidentifier : ¬ IsIdentifier [[]] := by
    rintro (h | h | h | ⟨others, last, hothers, h, -⟩)
    · simp at h
    · simp at h
    · simp at h
    · have hlength := congrArg List.length h
      have hpos := List.length_pos_of_ne_nil hothers
      rw [List.length_append, List.length_singleton, List.length_singleton] at hlength
      omega
  have hidentifier' : ¬ IsIdentifier [] := by
    rintro (h | h | h | ⟨others, last, -, h, -⟩)
    · simp at h
    · simp at h
    · simp at h
    · simp at h
  refine ⟨iff_of_false (hnone _ (by decide)) (not_hasPhrase_nil _), fun _ ↦ ?_⟩
  refine ⟨iff_of_false hidentifier hidentifier', fun _ ↦ ?_⟩
  exact iff_of_false (hnone _ (by decide)) (not_hasPhrase_nil _)

theorem listedAlike_iff_plain (spelling : Spelling) (words : List Word) :
    ListedAlike (seenWords (spelling.key words)) (seenWords (plainSpelling.key words)) ↔
      ListedAlike (seenWords (spelling.key words)) (lettersOf words) := by
  by_cases hwords : words = []
  · subst hwords
    exact iff_of_true ⟨Iff.rfl, fun _ ↦ ⟨Iff.rfl, fun _ ↦ Iff.rfl⟩⟩ listedAlike_nil
  · have hplain : seenWords (plainSpelling.key words) = lettersOf words :=
      seenWords_of_marked hwords (.inl rfl) fun _ _ _ hacronym ↦ absurd hacronym Bool.false_ne_true
    rw [hplain]

theorem judgedByItsWords_of_listedAlike {spelling : Spelling} {words : List Word}
    (hlisted : ListedAlike (seenWords (spelling.key words)) (lettersOf words)) :
    JudgedByItsWords data spelling words := by
  have hkey : IsAscii (String.ofList (spelling.key words)).toList := by
    rw [String.toList_ofList]
    exact isAscii_key spelling words
  have hplain : IsAscii (String.ofList (plainSpelling.key words)).toList := by
    rw [String.toList_ofList]
    exact isAscii_key plainSpelling words
  refine ⟨?_, ?_, ?_⟩
  · rw [judge_eq_iff hkey hplain, String.toList_ofList, String.toList_ofList, listedAlike_iff_plain]
    exact hlisted
  · intro metadata stored happly hmem
    obtain ⟨entry, hentry, hname⟩ := List.mem_map.mp hmem
    obtain ⟨value, hvalue⟩ := (judge_of_sanitize (sanitize_of_apply happly).1).1 entry hentry
    rw [hname] at hvalue
    have hnot := not_secret_of_judge hkey hvalue
    rwa [String.toList_ofList, hlisted.1] at hnot
  · intro metadata stored value happly hmem hfinancial hidentifier
    obtain ⟨raw, hvalue⟩ := (judge_of_sanitize (sanitize_of_apply happly).1).2 _ hmem
    have hnot := not_secret_of_judge hkey hvalue
    rw [String.toList_ofList] at hnot
    obtain ⟨hsame, hfinancial'⟩ := hlisted.2 hnot
    have hother := mt hsame.mp hidentifier
    refine eq_marker_of_judge hkey hvalue ?_ ?_
    · rwa [String.toList_ofList, hfinancial' hother]
    · rwa [String.toList_ofList]

/-- Two spellings get one verdict for every value iff the words seen in them are listed alike. A
spelling is judged by its words iff the words seen in it are listed as its words are. -/
theorem judgedByWords_iff (data : CaseData) (words : List Word) (first second : Spelling) :
    ((∀ raw, judge data (String.ofList (first.key words)) raw =
        judge data (String.ofList (second.key words)) raw) ↔
      ListedAlike (seenWords (first.key words)) (seenWords (second.key words))) ∧
    (JudgedByItsWords data first words ↔
      ListedAlike (seenWords (first.key words)) (lettersOf words)) ∧
    ∀ metadata stored, apply data (some metadata) = .ok (some stored) →
      serializedSize stored ≤ MAX_METADATA_BYTES := by
  have hkey (spelling : Spelling) : IsAscii (String.ofList (spelling.key words)).toList := by
    rw [String.toList_ofList]
    exact isAscii_key spelling words
  have hverdicts (other : Spelling) : (∀ raw, judge data (String.ofList (first.key words)) raw =
      judge data (String.ofList (other.key words)) raw) ↔
      ListedAlike (seenWords (first.key words)) (seenWords (other.key words)) := by
    rw [judge_eq_iff (hkey first) (hkey other), String.toList_ofList, String.toList_ofList]
  refine ⟨hverdicts second, ⟨fun hjudged ↦ ?_, judgedByItsWords_of_listedAlike⟩, ?_⟩
  · rw [← listedAlike_iff_plain, ← hverdicts plainSpelling]
    exact hjudged.alike
  · intro metadata stored happly
    exact (sanitize_of_apply happly).2

/-- In Pascal case, with an acronym at the start. -/
def leadingAcronym : Spelling where
  style := .pascal
  acronym place := place == 0

theorem plain_api : ∀ c ∈ ['a', 'p', 'i'], c.isLower = true ∨ c.isDigit = true := by simp

theorem plain_token : ∀ c ∈ ['t', 'o', 'k', 'e', 'n'], c.isLower = true ∨ c.isDigit = true := by simp

/-- The words of `api_token`. -/
def apiToken : List Word :=
  [⟨['a', 'p', 'i'], List.cons_ne_nil _ _, plain_api⟩,
    ⟨['t', 'o', 'k', 'e', 'n'], List.cons_ne_nil _ _, plain_token⟩]

/-- The key `APIToken` is stored, and `api_token` is refused as a secret. -/
theorem apiToken_stored :
    ¬ ∀ raw, judge Platform.latinCase (String.ofList (leadingAcronym.key apiToken)) raw =
      judge Platform.latinCase (String.ofList (plainSpelling.key apiToken)) raw := by
  intro hsame
  have hnull := hsame (.unclassified (.scalar .null))
  revert hnull
  decide

end Karar.Audit
