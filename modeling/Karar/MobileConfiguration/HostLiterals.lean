import Karar.Foundation.DelimitedWords
import Karar.Foundation.LetterCase
import Karar.Platform.AddressGrammar

/-!
# The addresses that host literals spell

The host of a URL may be the literal of an internet address, and an address has many spellings: zeros
in front of a part, groups written out or left to a `::`, letters of either case, and the last two
groups as four decimal parts. `SpellsLiteral` relates a literal to the eight groups of its address,
where an address of the shorter family stands mapped into the longer one. A literal spells one address
(`SpellsLiteral.unique`) in whatever letter case (`SpellsLiteral.map_toLower`).

The digits of a literal that are no zeros tell little of its address: they are a single `1` if it is
the loopback address (`remainingDigits_loopback`), and other addresses leave the same digits.
-/

namespace Karar.MobileConfiguration

open Foundation
open SharedKernel (isHexDigit)
open Platform (SpellsGroup SpellsGroups hexDigitValue not_mem_intercalate expandGroups_eq_some_iff
  lastColon_unique)

/-! ### The grammar -/

/-- Decimal digits and the number up to 255 that they spell. Zeros may stand in front. -/
def SpellsPart (digits : List Char) (part : ℕ) : Prop :=
  digits ≠ [] ∧ (∀ c ∈ digits, c.isDigit = true) ∧ Nat.ofDigitChars 10 digits 0 = part ∧ part < 256

theorem spellsPart_iff {digits : List Char} {part : ℕ} : SpellsPart digits part ↔
    digits ≠ [] ∧ digits.all Char.isDigit = true ∧ Nat.ofDigitChars 10 digits 0 = part ∧ part < 256 := by
  rw [SpellsPart, List.all_eq_true]

instance (digits : List Char) (part : ℕ) : Decidable (SpellsPart digits part) :=
  decidable_of_iff' _ spellsPart_iff

/-- Four decimal parts with dots between them, and the two groups that they are. -/
inductive SpellsQuad : List Char → ℕ → ℕ → Prop
  | quad {first second third fourth : List Char} {a b c d : ℕ} :
      SpellsPart first a → SpellsPart second b → SpellsPart third c → SpellsPart fourth d →
        SpellsQuad (['.'].intercalate [first, second, third, fourth]) (256 * a + b) (256 * c + d)

/-- The address of the longer family that holds two groups of the shorter one. -/
def mapped (high low : ℕ) : List ℕ := [0, 0, 0, 0, 0, 0xffff, high, low]

/-- The eight groups of the address that a literal spells. -/
inductive SpellsLiteral : List Char → List ℕ → Prop
  | quad {text : List Char} {high low : ℕ} :
      SpellsQuad text high low → SpellsLiteral text (mapped high low)
  | groups {text : List Char} {groups : List ℕ} :
      SpellsGroups text groups → SpellsLiteral text groups
  | embedded {front tail : List Char} {groups : List ℕ} {high low : ℕ} :
      SpellsGroups (front ++ [':', '0', ':', '0']) groups → SpellsQuad tail high low →
        SpellsLiteral (front ++ ':' :: tail) (groups.take 6 ++ [high, low])

/-- The unspecified address, `::`. -/
def unspecified : List ℕ := List.replicate 8 0

/-- The loopback address, `::1`. -/
def loopback : List ℕ := List.replicate 7 0 ++ [1]

/-- Two groups of the shorter family that do not leave the machine: 127.0.0.0/8, 0.0.0.0, and the
alias 10.0.2.2 of the emulator. -/
def LocalQuad (high low : ℕ) : Prop :=
  high / 256 = 127 ∨ high = 0 ∧ low = 0 ∨ high = 0x0a00 ∧ low = 0x0202

/-- An address that does not leave the machine. -/
def LocalAddress (address : List ℕ) : Prop :=
  address = unspecified ∨ address = loopback ∨
    ∃ high low, address = mapped high low ∧ LocalQuad high low

/-! ### Four decimal parts -/

theorem isHexDigit_of_isDigit {c : Char} (hc : c.isDigit = true) : isHexDigit c = true := by
  have hrange : '0' ≤ c ∧ c ≤ '9' := by
    rw [Char.isDigit, Bool.and_eq_true, decide_eq_true_eq, decide_eq_true_eq] at hc
    exact hc
  simp [isHexDigit, hrange]

theorem SpellsPart.not_mem {digits : List Char} {part : ℕ} (hspells : SpellsPart digits part)
    {c : Char} (hc : c.isDigit = false) : c ∉ digits := by
  intro hmem
  have hdigit := hspells.2.1 c hmem
  simp [hc] at hdigit

theorem SpellsPart.unique {digits : List Char} {part part' : ℕ} (hspells : SpellsPart digits part)
    (hspells' : SpellsPart digits part') : part = part' :=
  hspells.2.2.1.symm.trans hspells'.2.2.1

/-- The parts are what the dots cut the text into. -/
theorem SpellsQuad.splitOn {text : List Char} {high low : ℕ} (hspells : SpellsQuad text high low) :
    ∃ first second third fourth a b c d, text.splitOn '.' = [first, second, third, fourth] ∧
      (SpellsPart first a ∧ SpellsPart second b ∧ SpellsPart third c ∧ SpellsPart fourth d) ∧
      high = 256 * a + b ∧ low = 256 * c + d := by
  induction hspells with
  | @quad first second third fourth a b c d ha hb hc hd =>
    have hdot : ∀ part ∈ [first, second, third, fourth], '.' ∉ part := by
      simp only [List.mem_cons, List.not_mem_nil, or_false, forall_eq_or_imp, forall_eq]
      exact ⟨ha.not_mem rfl, hb.not_mem rfl, hc.not_mem rfl, hd.not_mem rfl⟩
    exact ⟨first, second, third, fourth, a, b, c, d,
      List.splitOn_intercalate '.' hdot (by simp), ⟨ha, hb, hc, hd⟩, rfl, rfl⟩

theorem SpellsQuad.unique {text : List Char} {high low high' low' : ℕ}
    (hspells : SpellsQuad text high low) (hspells' : SpellsQuad text high' low') :
    high = high' ∧ low = low' := by
  obtain ⟨first, second, third, fourth, a, b, c, d, hcut, ⟨ha, hb, hc, hd⟩, hhigh, hlow⟩ :=
    hspells.splitOn
  obtain ⟨_, _, _, _, a', b', c', d', hcut', ⟨ha', hb', hc', hd'⟩, hhigh', hlow'⟩ := hspells'.splitOn
  rw [hcut] at hcut'
  simp only [List.cons.injEq, and_true] at hcut'
  obtain ⟨rfl, rfl, rfl, rfl⟩ := hcut'
  rw [hhigh, hlow, hhigh', hlow', ha.unique ha', hb.unique hb', hc.unique hc', hd.unique hd']
  exact ⟨rfl, rfl⟩

/-- Four decimal parts are written with digits and dots. -/
theorem SpellsQuad.not_mem {text : List Char} {high low : ℕ} (hspells : SpellsQuad text high low)
    {c : Char} (hdigit : c.isDigit = false) (hdot : c ≠ '.') : c ∉ text := by
  induction hspells with
  | quad ha hb hc hd =>
    simp [ha.not_mem hdigit, hb.not_mem hdigit, hc.not_mem hdigit, hd.not_mem hdigit, hdot]

theorem SpellsQuad.dot_mem {text : List Char} {high low : ℕ} (hspells : SpellsQuad text high low) :
    '.' ∈ text := by
  induction hspells with
  | quad => simp

theorem SpellsQuad.getLast {text : List Char} {high low : ℕ} (hspells : SpellsQuad text high low) :
    ∃ front c, text = front ++ [c] ∧ c ≠ '.' := by
  induction hspells with
  | @quad first second third fourth a b c d _ _ _ hd =>
    obtain ⟨front, last, hfourth⟩ : ∃ front last, fourth = front ++ [last] := by
      rcases List.eq_nil_or_concat fourth with hnil | ⟨front, last, hlast⟩
      · exact absurd hnil hd.1
      · exact ⟨front, last, by rw [hlast, List.concat_eq_append]⟩
    subst hfourth
    refine ⟨first ++ '.' :: (second ++ '.' :: (third ++ '.' :: front)), last, by simp, ?_⟩
    rintro rfl
    exact hd.not_mem (c := '.') rfl (by simp)

/-! ### One address for a literal -/

theorem SpellsLiteral.unique {text : List Char} {address address' : List ℕ}
    (hspells : SpellsLiteral text address) (hspells' : SpellsLiteral text address') :
    address = address' := by
  cases hspells with
  | quad hquad =>
    have hcolon : ':' ∉ text := hquad.not_mem rfl (by decide)
    cases hspells' with
    | quad hquad' =>
      obtain ⟨rfl, rfl⟩ := hquad.unique hquad'
      rfl
    | groups hgroups' => exact absurd hgroups'.colon_mem hcolon
    | embedded => exact absurd (by simp) hcolon
  | groups hgroups =>
    cases hspells' with
    | quad hquad' => exact absurd hgroups.colon_mem (hquad'.not_mem rfl (by decide))
    | groups hgroups' => exact hgroups.unique hgroups'
    | embedded _ hquad' => exact absurd (by simp [hquad'.dot_mem]) hgroups.dot_not_mem
  | @embedded front tail groups high low hgroups hquad =>
    have htail : ':' ∉ tail := hquad.not_mem rfl (by decide)
    generalize htext : front ++ ':' :: tail = text at hspells'
    cases hspells' with
    | quad hquad' =>
      exact absurd (by simp [← htext]) (hquad'.not_mem (c := ':') rfl (by decide))
    | groups hgroups' =>
      exact absurd (by simp [← htext, hquad.dot_mem]) hgroups'.dot_not_mem
    | embedded hgroups' hquad' =>
      obtain ⟨rfl, rfl⟩ := lastColon_unique htail (hquad'.not_mem rfl (by decide)) htext
      obtain ⟨rfl, rfl⟩ := hquad.unique hquad'
      rw [hgroups.unique hgroups']

/-- A literal is written with hexadecimal digits, colons and dots. -/
theorem SpellsLiteral.not_mem {text : List Char} {address : List ℕ}
    (hspells : SpellsLiteral text address) {c : Char} (hhex : isHexDigit c = false)
    (hcolon : c ≠ ':') (hdot : c ≠ '.') : c ∉ text := by
  have hdigit : c.isDigit = false := by
    by_contra hdigit
    rw [Bool.not_eq_false] at hdigit
    simp [isHexDigit_of_isDigit hdigit] at hhex
  cases hspells with
  | quad hquad => exact hquad.not_mem hdigit hdot
  | groups hgroups => exact hgroups.not_mem hhex hcolon
  | embedded hgroups hquad =>
    have hfront := hgroups.not_mem hhex hcolon
    simp only [List.mem_append, not_or] at hfront
    simp [hfront.1, hcolon, hquad.not_mem hdigit hdot]

/-- A literal does not end in a dot. -/
theorem SpellsLiteral.getLast {text : List Char} {address : List ℕ}
    (hspells : SpellsLiteral text address) : ∃ front c, text = front ++ [c] ∧ c ≠ '.' := by
  cases hspells with
  | quad hquad => exact hquad.getLast
  | groups hgroups =>
    rcases List.eq_nil_or_concat text with rfl | ⟨front, c, rfl⟩
    · exact absurd hgroups.colon_mem (by simp)
    · refine ⟨front, c, List.concat_eq_append, ?_⟩
      rintro rfl
      exact hgroups.dot_not_mem (by simp)
  | @embedded front tail _ _ _ _ hquad =>
    obtain ⟨begin, c, rfl, hc⟩ := hquad.getLast
    exact ⟨front ++ ':' :: begin, c, by simp, hc⟩

/-! ### Letter case -/

theorem isHexDigit_lt {c : Char} (hc : isHexDigit c = true) : c.toNat < 128 := by
  have hrange (first last : Char) (hlast : last.toNat < 128) (hle : first ≤ c ∧ c ≤ last) :
      c.toNat < 128 := by
    have hcode : c.toNat ≤ last.toNat := hle.2
    omega
  rw [isHexDigit, Bool.or_eq_true, Bool.or_eq_true, decide_eq_true_eq, decide_eq_true_eq,
    decide_eq_true_eq] at hc
  rcases hc with (hdigit | hsmall) | hcapital
  · exact hrange '0' '9' (by decide) hdigit
  · exact hrange 'a' 'f' (by decide) hsmall
  · exact hrange 'A' 'F' (by decide) hcapital

theorem hexDigit_toLower {c : Char} (hc : isHexDigit c = true) :
    isHexDigit c.toLower = true ∧ hexDigitValue c.toLower = hexDigitValue c :=
  CaseData.of_ascii (P := fun c ↦ isHexDigit c = true →
    isHexDigit c.toLower = true ∧ hexDigitValue c.toLower = hexDigitValue c) (by decide)
    (isHexDigit_lt hc) hc

theorem digit_toLower {c : Char} (hc : c.isDigit = true) : c.toLower = c :=
  CaseData.of_ascii (P := fun c ↦ c.isDigit = true → c.toLower = c) (by decide)
    (isHexDigit_lt (isHexDigit_of_isDigit hc)) hc

theorem SpellsPart.map_toLower {digits : List Char} {part : ℕ} (hspells : SpellsPart digits part) :
    digits.map Char.toLower = digits := by
  rw [List.map_congr_left fun c hc ↦ digit_toLower (hspells.2.1 c hc), List.map_id']

theorem SpellsQuad.map_toLower {text : List Char} {high low : ℕ} (hspells : SpellsQuad text high low) :
    text.map Char.toLower = text := by
  induction hspells with
  | quad ha hb hc hd =>
    simp only [map_intercalate, List.map_cons, List.map_nil, ha.map_toLower, hb.map_toLower,
      hc.map_toLower, hd.map_toLower]
    rfl

theorem spellsGroup_map_toLower {digits : List Char} {group : ℕ} (hspells : SpellsGroup digits group) :
    SpellsGroup (digits.map Char.toLower) group := by
  obtain ⟨hone, hfour, hdigits, hvalue⟩ := hspells
  refine ⟨by simpa using hone, by simpa using hfour, ?_, ?_⟩
  · intro d hd
    obtain ⟨c, hc, rfl⟩ := List.mem_map.mp hd
    exact (hexDigit_toLower (hdigits c hc)).1
  · rw [← hvalue, List.foldl_map]
    refine List.foldl_ext _ _ 0 fun value c hc ↦ ?_
    rw [(hexDigit_toLower (hdigits c hc)).2]

theorem spellsGroups_map_toLower {text : List Char} {groups : List ℕ}
    (hspells : SpellsGroups text groups) : SpellsGroups (text.map Char.toLower) groups := by
  have htexts {texts : List (List Char)} {groups : List ℕ}
      (hgroups : List.Forall₂ SpellsGroup texts groups) :
      List.Forall₂ SpellsGroup (texts.map (List.map Char.toLower)) groups :=
    List.forall₂_map_left_iff.mpr (hgroups.imp fun _ _ ↦ spellsGroup_map_toLower)
  induction hspells with
  | whole hspells height =>
    rw [map_intercalate]
    exact .whole (htexts hspells) height
  | compressed hleft hright hroom =>
    rw [List.map_append, List.map_cons, List.map_cons, map_intercalate, map_intercalate]
    exact .compressed (htexts hleft) (htexts hright) hroom

/-- The letter case of a literal does not matter. -/
theorem SpellsLiteral.map_toLower {text : List Char} {address : List ℕ}
    (hspells : SpellsLiteral text address) : SpellsLiteral (text.map Char.toLower) address := by
  cases hspells with
  | quad hquad =>
    rw [hquad.map_toLower]
    exact .quad hquad
  | groups hgroups => exact .groups (spellsGroups_map_toLower hgroups)
  | embedded hgroups hquad =>
    have hlower := spellsGroups_map_toLower hgroups
    rw [List.map_append] at hlower
    rw [List.map_append, List.map_cons, hquad.map_toLower]
    exact .embedded hlower hquad

/-! ### The digits that are no zeros -/

/-- `host.replaceAll('0', '').replaceAll(':', '')`. -/
def remainingDigits (host : List Char) : List Char := (host.filter (· != '0')).filter (· != ':')

theorem mem_remainingDigits {host : List Char} {c : Char} :
    c ∈ remainingDigits host ↔ c ∈ host ∧ c ≠ '0' ∧ c ≠ ':' := by
  simp only [remainingDigits, List.mem_filter, bne_iff_ne, and_assoc]

theorem remainingDigits_append (first second : List Char) :
    remainingDigits (first ++ second) = remainingDigits first ++ remainingDigits second := by
  rw [remainingDigits, List.filter_append, List.filter_append]
  rfl

theorem remainingDigits_cons_colon (rest : List Char) :
    remainingDigits (':' :: rest) = remainingDigits rest := by
  simp [remainingDigits]

theorem remainingDigits_intercalate (texts : List (List Char)) :
    remainingDigits ([':'].intercalate texts) = texts.flatMap remainingDigits := by
  have hfilter (host : List Char) :
      remainingDigits host = host.filter fun c ↦ c != ':' && c != '0' := by
    rw [remainingDigits, List.filter_filter]
  rw [hfilter, filter_intercalate (by simp)]
  exact List.flatMap_congr fun text _ ↦ (hfilter text).symm

/-- The texts of the groups of an address that are written out. -/
theorem exists_texts_of_spellsGroups {text : List Char} {groups : List ℕ}
    (hspells : SpellsGroups text groups) :
    ∃ texts written, List.Forall₂ SpellsGroup texts written ∧
      remainingDigits text = texts.flatMap remainingDigits ∧
      written.filter (· ≠ 0) = groups.filter (· ≠ 0) := by
  induction hspells with
  | @whole texts groups hspells _ =>
    exact ⟨texts, groups, hspells, remainingDigits_intercalate texts, rfl⟩
  | @compressed left right before after hleft hright _ =>
    refine ⟨left ++ right, before ++ after, List.rel_append hleft hright, ?_, ?_⟩
    · rw [remainingDigits_append, remainingDigits_cons_colon, remainingDigits_cons_colon,
        remainingDigits_intercalate, remainingDigits_intercalate, List.flatMap_append]
    · simp [List.filter_append]

theorem hexDigit_cases {c : Char} (hc : isHexDigit c = true) : hexDigitValue c < 16 ∧
    (hexDigitValue c = 0 ↔ c = '0') ∧ (hexDigitValue c = 1 ↔ c = '1') ∧ c ≠ ':' :=
  CaseData.of_ascii (P := fun c ↦ isHexDigit c = true → hexDigitValue c < 16 ∧
    (hexDigitValue c = 0 ↔ c = '0') ∧ (hexDigitValue c = 1 ↔ c = '1') ∧ c ≠ ':') (by decide)
    (isHexDigit_lt hc) hc

/-- The last digit of a group, and the number that the others spell. -/
theorem spellsGroup_concat {digits : List Char} {group : ℕ} (hspells : SpellsGroup digits group) :
    ∃ front last, digits = front ++ [last] ∧ isHexDigit last = true ∧
      (∀ c ∈ front, isHexDigit c = true) ∧
      16 * front.foldl (fun value c ↦ 16 * value + hexDigitValue c) 0 + hexDigitValue last = group := by
  obtain ⟨hone, -, hdigits, hvalue⟩ := hspells
  rcases List.eq_nil_or_concat digits with rfl | ⟨front, last, rfl⟩
  · simp at hone
  · rw [List.concat_eq_append] at hdigits hvalue ⊢
    rw [List.foldl_append] at hvalue
    exact ⟨front, last, rfl, hdigits last (by simp), fun c hc ↦ hdigits c (by simp [hc]), hvalue⟩

/-- Digits that spell zero are zeros. -/
theorem remainingDigits_of_foldl_eq_zero {digits : List Char} (hdigits : ∀ c ∈ digits, isHexDigit c = true)
    (hzero : digits.foldl (fun value c ↦ 16 * value + hexDigitValue c) 0 = 0) :
    remainingDigits digits = [] := by
  induction digits using List.reverseRecOn with
  | nil => rfl
  | append_singleton front last ih =>
    rw [List.foldl_append, List.foldl_cons, List.foldl_nil] at hzero
    have hfront := ih (fun c hc ↦ hdigits c (by simp [hc])) (by omega)
    have hlast : last = '0' := (hexDigit_cases (hdigits last (by simp))).2.1.mp (by omega)
    rw [remainingDigits_append, hfront, hlast]
    rfl

theorem remainingDigits_of_group {digits : List Char} {group : ℕ} (hspells : SpellsGroup digits group) :
    (group = 0 → remainingDigits digits = []) ∧ (group = 1 → remainingDigits digits = ['1']) ∧
      (group = 0xffff → ∃ c ∈ remainingDigits digits, c ≠ '1') := by
  obtain ⟨front, last, rfl, hlast, hfront, hvalue⟩ := spellsGroup_concat hspells
  obtain ⟨hsmall, hzero, hone, hcolon⟩ := hexDigit_cases hlast
  refine ⟨fun hgroup ↦ ?_, fun hgroup ↦ ?_, fun hgroup ↦ ?_⟩
  · have hlast' : last = '0' := hzero.mp (by omega)
    rw [remainingDigits_append, remainingDigits_of_foldl_eq_zero hfront (by omega), hlast']
    rfl
  · have hlast' : last = '1' := hone.mp (by omega)
    rw [remainingDigits_append, remainingDigits_of_foldl_eq_zero hfront (by omega), hlast']
    rfl
  · have hne : last ≠ '0' := fun h ↦ by
      have hvalue' := hzero.mpr h
      omega
    have hne' : last ≠ '1' := fun h ↦ by
      have hvalue' := hone.mpr h
      omega
    exact ⟨last, mem_remainingDigits.mpr ⟨by simp, hne, hcolon⟩, hne'⟩

/-- Groups that are all zero leave no digit. -/
theorem flatMap_remainingDigits_zeros {texts : List (List Char)} {written : List ℕ}
    (hspells : List.Forall₂ SpellsGroup texts written) (hzeros : written.filter (· ≠ 0) = []) :
    texts.flatMap remainingDigits = [] := by
  induction hspells with
  | nil => rfl
  | @cons text group texts written hgroup _ ih =>
    have hzero : group = 0 := by
      by_contra hne
      simp [hne] at hzeros
    rw [List.filter_cons_of_neg (by simp [hzero])] at hzeros
    rw [List.flatMap_cons, (remainingDigits_of_group hgroup).1 hzero, ih hzeros, List.nil_append]

/-- Groups of which a single one is not zero, and is one, leave a `1`. -/
theorem flatMap_remainingDigits_one {texts : List (List Char)} {written : List ℕ}
    (hspells : List.Forall₂ SpellsGroup texts written) (hone : written.filter (· ≠ 0) = [1]) :
    texts.flatMap remainingDigits = ['1'] := by
  induction hspells with
  | nil => simp at hone
  | @cons text group texts written hgroup hrest ih =>
    by_cases hzero : group = 0
    · rw [List.filter_cons_of_neg (by simp [hzero])] at hone
      rw [List.flatMap_cons, (remainingDigits_of_group hgroup).1 hzero, ih hone, List.nil_append]
    · rw [List.filter_cons_of_pos (by simp [hzero]), List.cons.injEq] at hone
      rw [List.flatMap_cons, (remainingDigits_of_group hgroup).2.1 hone.1,
        flatMap_remainingDigits_zeros hrest hone.2, List.append_nil]

theorem remainingDigits_unspecified {text : List Char} (hspells : SpellsGroups text unspecified) :
    remainingDigits text = [] := by
  obtain ⟨texts, written, hwritten, hdigits, hfilter⟩ := exists_texts_of_spellsGroups hspells
  rw [hdigits, flatMap_remainingDigits_zeros hwritten (hfilter.trans (by decide))]

/-- The loopback address leaves a single `1`, however it is spelled in groups. -/
theorem remainingDigits_loopback {text : List Char} (hspells : SpellsGroups text loopback) :
    remainingDigits text = ['1'] := by
  obtain ⟨texts, written, hwritten, hdigits, hfilter⟩ := exists_texts_of_spellsGroups hspells
  rw [hdigits, flatMap_remainingDigits_one hwritten (hfilter.trans (by decide))]

/-- A mapped address leaves another digit. -/
theorem remainingDigits_mapped {text : List Char} {high low : ℕ}
    (hspells : SpellsGroups text (mapped high low)) : remainingDigits text ≠ ['1'] := by
  obtain ⟨texts, written, hwritten, hdigits, hfilter⟩ := exists_texts_of_spellsGroups hspells
  have hmem : 0xffff ∈ written := by
    have hmem : 0xffff ∈ written.filter (· ≠ 0) := by
      rw [hfilter]
      simp [mapped]
    exact (List.mem_filter.mp hmem).1
  obtain ⟨text', htext', hgroup⟩ : ∃ text' ∈ texts, SpellsGroup text' 0xffff := by
    obtain ⟨place, hplace, hat⟩ := List.mem_iff_getElem.mp hmem
    have hlength := hwritten.length_eq
    refine ⟨texts[place], List.getElem_mem _, ?_⟩
    rw [← hat]
    exact hwritten.get _ _
  obtain ⟨c, hc, hne⟩ := (remainingDigits_of_group hgroup).2.2 rfl
  intro hone
  have hc' : c ∈ remainingDigits text := by
    rw [hdigits]
    exact List.mem_flatMap.mpr ⟨text', htext', hc⟩
  rw [hone, List.mem_singleton] at hc'
  exact hne hc'

theorem remainingDigits_dot {text : List Char} (hdot : '.' ∈ text) : remainingDigits text ≠ ['1'] := by
  intro hone
  have hmem : '.' ∈ remainingDigits text := mem_remainingDigits.mpr ⟨hdot, by decide, by decide⟩
  simp [hone] at hmem

theorem SpellsLiteral.lt {text : List Char} {address : List ℕ} (hspells : SpellsLiteral text address) :
    ∀ c ∈ text, c.toNat < 128 := by
  intro c hc
  by_cases hhex : isHexDigit c = true
  · exact isHexDigit_lt hhex
  · by_contra hlarge
    refine hspells.not_mem (by simpa using hhex) ?_ ?_ hc
    · rintro rfl
      exact hlarge (by decide)
    · rintro rfl
      exact hlarge (by decide)

/-- The letter case does not matter for a single `1`. -/
theorem SpellsLiteral.remainingDigits_map_toLower_iff {text : List Char} {address : List ℕ}
    (hspells : SpellsLiteral text address) :
    remainingDigits (text.map Char.toLower) = ['1'] ↔ remainingDigits text = ['1'] := by
  have hmark {m c : Char} (hm : CaseData.isPlainMark m = true) (hc : c ∈ text) :
      (c.toLower != m) = (c != m) := by
    rw [Bool.eq_iff_iff, bne_iff_ne, bne_iff_ne, ne_eq, ne_eq,
      CaseData.toLower_eq_mark_iff hm (hspells.lt c hc)]
  have hlower : remainingDigits (text.map Char.toLower) = (remainingDigits text).map Char.toLower := by
    rw [remainingDigits, remainingDigits, List.filter_map, List.filter_map]
    have hzeros : text.filter ((· != '0') ∘ Char.toLower) = text.filter (· != '0') :=
      List.filter_congr fun c hc ↦ hmark (by decide) hc
    rw [hzeros]
    refine congrArg _ (List.filter_congr fun c hc ↦ hmark (by decide) ?_)
    exact List.mem_of_mem_filter hc
  rw [hlower]
  constructor
  · intro hone
    obtain ⟨c, hdigits, hc⟩ := List.map_eq_singleton_iff.mp hone
    have hmem : c ∈ remainingDigits text := by simp [hdigits]
    have hascii := hspells.lt c (mem_remainingDigits.mp hmem).1
    rw [hdigits, (CaseData.toLower_eq_mark_iff (by decide) hascii).mp hc]
  · intro hone
    rw [hone]
    rfl

end Karar.MobileConfiguration
