import Karar.MobileConfiguration.HostLiterals
import Karar.MobileLogging.Redactor

/-!
# Hosts that do not leave the machine

`isLocalOnlyHost` judges the text of a host, so that a deployed build is not pointed at the machine it
runs on. In the literal of an address the judge looks for a single `1` besides zeros and colons, for two
texts of the longer family, and for two texts and a beginning of the shorter one. It knows a local host
exactly if its spelling is a listed one (`isLocalOnlyHost_sound_iff`), and it takes literals of other
addresses for local exactly if they leave a single `1` (`isLocalOnlyHost_exact_iff`).
-/

namespace Karar.MobileConfiguration

open Foundation
open MobileLogging (lowerCase lowerCase_of_ascii)
open Platform (SpellsGroups)

/-! ### The judge of hosts -/

/-- `_loopbackHosts`. -/
def loopbackHosts : List (List Char) := ["localhost".toList, "0.0.0.0".toList, "10.0.2.2".toList]

/-- `_localOnlySuffixes`. -/
def localOnlySuffixes : List (List Char) :=
  [".local".toList, ".localhost".toList, ".internal".toList, ".test".toList]

/-- `replaceAll(RegExp(r'\.+$'), '')`. -/
def withoutTrailingDots (host : List Char) : List Char := host.rdropWhile (· == '.')

/-- `_isLocalOnlyHost`. -/
def isLocalOnlyHost (data : CaseData) (rawHost : List Char) : Bool :=
  let host := withoutTrailingDots (lowerCase data rawHost)
  if host.isEmpty then true
  else if loopbackHosts.contains host then true
  -- The whole 127.0.0.0/8 block, not merely 127.0.0.1.
  else if "127.".toList.isPrefixOf host then true
  -- Any spelling of the IPv6 loopback.
  else if host.contains ':' && remainingDigits host == ['1'] then true
  else if host.contains ':' && (host == "::".toList || host == "::ffff:127.0.0.1".toList) then true
  else localOnlySuffixes.any (·.isSuffixOf host)

/-! ### Trailing dots and letter case -/

theorem withoutTrailingDots_append {name dots : List Char}
    (hname : ∃ front c, name = front ++ [c] ∧ c ≠ '.') (hdots : ∀ c ∈ dots, c = '.') :
    withoutTrailingDots (name ++ dots) = name := by
  induction dots using List.reverseRecOn with
  | nil =>
    obtain ⟨front, c, rfl, hc⟩ := hname
    rw [List.append_nil, withoutTrailingDots, List.rdropWhile_concat_neg _ _ _ (by simpa using hc)]
  | append_singleton dots c ih =>
    have hc : c = '.' := hdots c (by simp)
    rw [← List.append_assoc, withoutTrailingDots, List.rdropWhile_concat_pos _ _ _ (by simp [hc])]
    exact ih fun d hd ↦ hdots d (by simp [hd])

variable {data : CaseData}

theorem lowerCase_append_dots (name : List Char) {dots : List Char} (hdots : ∀ c ∈ dots, c = '.') :
    lowerCase data (name ++ dots) = lowerCase data name ++ dots := by
  rw [lowerCase, List.flatMap_append]
  congr 1
  rw [List.flatMap_congr (g := fun c ↦ [c])]
  · simp
  · intro c hc
    rw [hdots c hc, data.ascii '.' (by decide)]
    rfl

/-- The judge reads a host without the dots at its end. -/
theorem isLocalOnlyHost_append {name dots : List Char}
    (hname : ∃ front c, lowerCase data name = front ++ [c] ∧ c ≠ '.') (hdots : ∀ c ∈ dots, c = '.') :
    isLocalOnlyHost data (name ++ dots) = true ↔
      lowerCase data name ∈ loopbackHosts ∨ "127.".toList <+: lowerCase data name ∨
        (':' ∈ lowerCase data name ∧ (remainingDigits (lowerCase data name) = ['1'] ∨
          lowerCase data name = "::".toList ∨ lowerCase data name = "::ffff:127.0.0.1".toList)) ∨
        ∃ suffix ∈ localOnlySuffixes, suffix <:+ lowerCase data name := by
  have hstripped : withoutTrailingDots (lowerCase data (name ++ dots)) = lowerCase data name := by
    rw [lowerCase_append_dots name hdots]
    exact withoutTrailingDots_append hname hdots
  have hne : (lowerCase data name).isEmpty = false := by
    obtain ⟨front, c, hlast, -⟩ := hname
    rw [hlast]
    simp
  unfold isLocalOnlyHost
  simp only [hstripped, hne, Bool.false_eq_true, if_false, Bool.if_true_left, Bool.or_eq_true,
    Bool.and_eq_true, decide_eq_true_eq, List.contains_iff_mem, List.isPrefixOf_iff_prefix,
    beq_iff_eq, List.any_eq_true, List.isSuffixOf_iff_suffix]
  tauto

/-! ### Hosts -/

/-- The host is a literal of the address, possibly with dots at its end. -/
def SpellsHost (host : List Char) (address : List ℕ) : Prop :=
  ∃ literal dots, host = literal ++ dots ∧ (∀ c ∈ dots, c = '.') ∧ SpellsLiteral literal address

/-- The host is `localhost` or a name under a local-only suffix, in any letter case and possibly with
dots at its end. -/
def LocalName (data : CaseData) (host : List Char) : Prop :=
  ∃ name dots, host = name ++ dots ∧ (∀ c ∈ dots, c = '.') ∧
    (lowerCase data name = "localhost".toList ∨
      ∃ suffix ∈ localOnlySuffixes, suffix <:+ lowerCase data name)

theorem localName_localhost : LocalName data "localhost".toList := by
  have hascii : ∀ c ∈ "localhost".toList, c.toNat < 128 := by simp
  refine ⟨"localhost".toList, [], by rw [List.append_nil], by simp, .inl ?_⟩
  rw [lowerCase_of_ascii hascii]
  decide

/-- A host that a deployed build may not be pointed at. -/
def LocalHost (data : CaseData) (host : List Char) : Prop :=
  (∃ address, SpellsHost host address ∧ LocalAddress address) ∨ LocalName data host

/-- The spellings of local addresses that the judge does not list: four decimal parts that begin in
another way than `127.` and are neither `0.0.0.0` nor `10.0.2.2`, the unspecified address in another text
than `::`, the loopback address with decimal parts at its end, and a mapped address in another text than
`::ffff:127.0.0.1`. -/
inductive Unlisted (literal : List Char) : Prop
  | quad {high low : ℕ} : SpellsQuad literal high low → LocalQuad high low →
      ¬ "127.".toList <+: literal → literal ≠ "0.0.0.0".toList → literal ≠ "10.0.2.2".toList →
        Unlisted literal
  | unspecified : SpellsLiteral literal unspecified → literal ≠ "::".toList → Unlisted literal
  | loopback : SpellsLiteral literal loopback → '.' ∈ literal → Unlisted literal
  | mapped {high low : ℕ} : SpellsLiteral literal (mapped high low) → LocalQuad high low →
      ':' ∈ literal → literal.map Char.toLower ≠ "::ffff:127.0.0.1".toList → Unlisted literal

def UnlistedSpelling (host : List Char) : Prop :=
  ∃ literal dots, host = literal ++ dots ∧ (∀ c ∈ dots, c = '.') ∧ Unlisted literal

/-- An address in groups, other than the loopback address, whose text has a single `1` besides zeros
and colons: `1::`, `::10`. -/
def StrayOne (host : List Char) : Prop :=
  ∃ literal dots groups, host = literal ++ dots ∧ (∀ c ∈ dots, c = '.') ∧
    SpellsGroups literal groups ∧ remainingDigits literal = ['1'] ∧ groups ≠ loopback

/-! ### Literals before the judge -/

theorem lowerCase_literal {literal : List Char} {address : List ℕ}
    (hspells : SpellsLiteral literal address) :
    lowerCase data literal = literal.map Char.toLower :=
  lowerCase_of_ascii hspells.lt

/-- No literal has the letter that a local name has. -/
theorem not_name_of_literal {literal : List Char} {address : List ℕ}
    (hspells : SpellsLiteral literal address) :
    literal ≠ "localhost".toList ∧ ∀ suffix ∈ localOnlySuffixes, ¬ suffix <:+ literal := by
  have hl : 'l' ∉ literal := hspells.not_mem (by decide) (by decide) (by decide)
  have ht : 't' ∉ literal := hspells.not_mem (by decide) (by decide) (by decide)
  have hletters : ∀ suffix ∈ localOnlySuffixes, 'l' ∈ suffix ∨ 't' ∈ suffix := by decide
  constructor
  · rintro rfl
    exact hl (by decide)
  · intro suffix hsuffix hend
    rcases hletters suffix hsuffix with hletter | hletter
    · exact hl (hend.subset hletter)
    · exact ht (hend.subset hletter)

theorem isLocalOnlyHost_literal {literal dots : List Char} {address : List ℕ}
    (hspells : SpellsLiteral literal address) (hdots : ∀ c ∈ dots, c = '.') :
    isLocalOnlyHost data (literal ++ dots) = true ↔
      (literal.map Char.toLower = "0.0.0.0".toList ∨ literal.map Char.toLower = "10.0.2.2".toList) ∨
        "127.".toList <+: literal.map Char.toLower ∨
        (':' ∈ literal.map Char.toLower ∧ (remainingDigits literal = ['1'] ∨
          literal.map Char.toLower = "::".toList ∨
          literal.map Char.toLower = "::ffff:127.0.0.1".toList)) := by
  obtain ⟨hname, hsuffixes⟩ := not_name_of_literal hspells.map_toLower
  have hlast : ∃ front c, lowerCase data literal = front ++ [c] ∧ c ≠ '.' := by
    rw [lowerCase_literal hspells]
    exact hspells.map_toLower.getLast
  have hsuffix : ¬ ∃ suffix ∈ localOnlySuffixes, suffix <:+ literal.map Char.toLower := by
    rintro ⟨suffix, hmem, hend⟩
    exact hsuffixes suffix hmem hend
  rw [isLocalOnlyHost_append hlast hdots, lowerCase_literal hspells,
    hspells.remainingDigits_map_toLower_iff, or_iff_left hsuffix]
  simp only [loopbackHosts, List.mem_cons, List.not_mem_nil, or_false, or_iff_right hname]

/-- Four decimal parts are judged by their text. -/
theorem isLocalOnlyHost_quad {literal dots : List Char} {high low : ℕ}
    (hquad : SpellsQuad literal high low) (hdots : ∀ c ∈ dots, c = '.') :
    isLocalOnlyHost data (literal ++ dots) = true ↔
      "127.".toList <+: literal ∨ literal = "0.0.0.0".toList ∨ literal = "10.0.2.2".toList := by
  have hcolon : ':' ∉ literal := hquad.not_mem rfl (by decide)
  rw [isLocalOnlyHost_literal (.quad hquad) hdots, hquad.map_toLower]
  simp only [hcolon, false_and, or_false]
  tauto

theorem colon_mem_map_toLower {literal : List Char} (hcolon : ':' ∈ literal) :
    ':' ∈ literal.map Char.toLower :=
  List.mem_map.mpr ⟨':', hcolon, by decide⟩

/-- A literal with colons does not begin like four decimal parts. -/
theorem not_prefix_of_colon {literal : List Char} {address : List ℕ}
    (hspells : SpellsLiteral literal address) (hcolon : ':' ∈ literal) :
    ¬ "127.".toList <+: literal := by
  have hdot : '.' ∈ "127.".toList := by decide
  intro hbegins
  cases hspells with
  | quad hquad => exact hquad.not_mem (c := ':') rfl (by decide) hcolon
  | groups hgroups => exact hgroups.dot_not_mem (hbegins.subset hdot)
  | embedded hgroups =>
    rw [prefix_append_cons_iff (by decide)] at hbegins
    exact hgroups.dot_not_mem (List.mem_append_left _ (hbegins.subset hdot))

/-- A literal with colons is judged by its digits, apart from two texts. -/
theorem isLocalOnlyHost_colons {literal dots : List Char} {address : List ℕ}
    (hspells : SpellsLiteral literal address) (hcolon : ':' ∈ literal) (hdots : ∀ c ∈ dots, c = '.') :
    isLocalOnlyHost data (literal ++ dots) = true ↔ remainingDigits literal = ['1'] ∨
      literal.map Char.toLower = "::".toList ∨
      literal.map Char.toLower = "::ffff:127.0.0.1".toList := by
  have hlower := colon_mem_map_toLower hcolon
  have hquads : ¬(literal.map Char.toLower = "0.0.0.0".toList ∨
      literal.map Char.toLower = "10.0.2.2".toList) := by
    rintro (htext | htext)
    · rw [htext] at hlower
      exact absurd hlower (by decide)
    · rw [htext] at hlower
      exact absurd hlower (by decide)
  rw [isLocalOnlyHost_literal hspells hdots, or_iff_right hquads,
    or_iff_right (not_prefix_of_colon hspells.map_toLower hlower), and_iff_right hlower]

/-! ### The addresses of the listed texts -/

theorem spellsLiteral_unspecified : SpellsLiteral "::".toList unspecified := by
  refine .groups (Platform.expandGroups_eq_some_iff.mp ?_)
  decide

theorem spellsQuad_listed : SpellsQuad "0.0.0.0".toList 0 0 ∧
    SpellsQuad "10.0.2.2".toList 0x0a00 0x0202 ∧ SpellsQuad "127.0.0.1".toList 0x7f00 1 := by
  have hparts : SpellsPart ['0'] 0 ∧ SpellsPart ['1'] 1 ∧ SpellsPart ['2'] 2 ∧
      SpellsPart ['1', '0'] 10 ∧ SpellsPart ['1', '2', '7'] 127 := by
    decide
  obtain ⟨hzero, hone, htwo, hten, hblock⟩ := hparts
  exact ⟨.quad hzero hzero hzero hzero, .quad hten hzero htwo htwo, .quad hblock hzero hzero hone⟩

theorem spellsLiteral_mapped : SpellsLiteral "::ffff:127.0.0.1".toList (mapped 0x7f00 1) := by
  have hgroups : SpellsGroups ("::ffff".toList ++ [':', '0', ':', '0']) [0, 0, 0, 0, 0, 0xffff, 0, 0] :=
    Platform.expandGroups_eq_some_iff.mp (by decide)
  exact .embedded hgroups spellsQuad_listed.2.2

theorem address_of_text {literal : List Char} {address : List ℕ}
    (hspells : SpellsLiteral literal address) :
    (literal.map Char.toLower = "::".toList → address = unspecified) ∧
      (literal.map Char.toLower = "::ffff:127.0.0.1".toList → address = mapped 0x7f00 1) := by
  have hlower := hspells.map_toLower
  constructor
  · intro htext
    rw [htext] at hlower
    exact hlower.unique spellsLiteral_unspecified
  · intro htext
    rw [htext] at hlower
    exact hlower.unique spellsLiteral_mapped

/-- The listed texts of four decimal parts spell local addresses. -/
theorem localQuad_of_listed {literal : List Char} {high low : ℕ} (hquad : SpellsQuad literal high low)
    (hlisted : "127.".toList <+: literal ∨ literal = "0.0.0.0".toList ∨
      literal = "10.0.2.2".toList) : LocalQuad high low := by
  rcases hlisted with ⟨rest, rfl⟩ | rfl | rfl
  · obtain ⟨first, second, third, fourth, a, b, c, d, hcut, ⟨ha, hb, -, -⟩, rfl, -⟩ := hquad.splitOn
    have htext : "127.".toList ++ rest = "127".toList ++ '.' :: rest := rfl
    have hno : '.' ∉ "127".toList := by decide
    rw [htext, List.splitOn_append_cons_self, List.splitOn_eq_singleton hno, List.singleton_append,
      List.cons.injEq] at hcut
    have hblock : SpellsPart "127".toList 127 := by decide
    rw [← hcut.1] at ha
    have hpart := ha.unique hblock
    have hsmall := hb.2.2.2
    left
    omega
  · obtain ⟨rfl, rfl⟩ := hquad.unique spellsQuad_listed.1
    exact .inr (.inl ⟨rfl, rfl⟩)
  · obtain ⟨rfl, rfl⟩ := hquad.unique spellsQuad_listed.2.1
    exact .inr (.inr ⟨rfl, rfl⟩)

/-! ### What the judge misses and what it takes in -/

theorem mapped_ne {high low : ℕ} : mapped high low ≠ unspecified ∧ mapped high low ≠ loopback := by
  constructor
  · intro hsame
    simp [mapped, unspecified, List.replicate] at hsame
  · intro hsame
    simp [mapped, loopback, List.replicate] at hsame

theorem localQuad_of_local {high low : ℕ} (hlocal : LocalAddress (mapped high low)) :
    LocalQuad high low := by
  rcases hlocal with hsame | hsame | ⟨high', low', hsame, hquad⟩
  · exact absurd hsame mapped_ne.1
  · exact absurd hsame mapped_ne.2
  · obtain ⟨rfl, rfl⟩ : high = high' ∧ low = low' := by simpa [mapped] using hsame
    exact hquad

theorem exists_quad {literal : List Char} {address : List ℕ} (hspells : SpellsLiteral literal address)
    (hcolon : ':' ∉ literal) : ∃ high low, SpellsQuad literal high low ∧ address = mapped high low := by
  cases hspells with
  | quad hquad => exact ⟨_, _, hquad, rfl⟩
  | groups hgroups => exact absurd hgroups.colon_mem hcolon
  | embedded => exact absurd (by simp) hcolon

theorem spellsGroups_of_no_dot {literal : List Char} {address : List ℕ}
    (hspells : SpellsLiteral literal address) (hdot : '.' ∉ literal) : SpellsGroups literal address := by
  cases hspells with
  | quad hquad => exact absurd hquad.dot_mem hdot
  | groups hgroups => exact hgroups
  | embedded _ hquad => exact absurd (by simp [hquad.dot_mem]) hdot

/-- Only an address written in groups leaves a single `1`, and it is not mapped. -/
theorem spellsGroups_of_one {literal : List Char} {address : List ℕ}
    (hspells : SpellsLiteral literal address) (hone : remainingDigits literal = ['1']) :
    SpellsGroups literal address ∧ address ≠ unspecified ∧ ∀ high low, address ≠ mapped high low := by
  have hgroups : SpellsGroups literal address := by
    refine spellsGroups_of_no_dot hspells fun hdot ↦ ?_
    exact remainingDigits_dot hdot hone
  refine ⟨hgroups, ?_, ?_⟩
  · rintro rfl
    rw [remainingDigits_unspecified hgroups] at hone
    exact absurd hone (by decide)
  · rintro high low rfl
    exact remainingDigits_mapped hgroups hone

theorem eq_colons_of_map_toLower {literal : List Char} {address : List ℕ}
    (hspells : SpellsLiteral literal address) (htext : literal.map Char.toLower = "::".toList) :
    literal = "::".toList := by
  have hmark : ∀ c ∈ literal, c = ':' := by
    intro c hc
    have hmem : c.toLower ∈ "::".toList := htext ▸ List.mem_map_of_mem hc
    have hcolon : c.toLower = ':' := by simpa using hmem
    exact (CaseData.toLower_eq_mark_iff (by decide) (hspells.lt c hc)).mp hcolon
  have hlength : literal.length = 2 := by
    have hlength := congrArg List.length htext
    rwa [List.length_map] at hlength
  exact (List.eq_replicate_of_mem hmark).trans (by rw [hlength]; decide)

/-- A local address in a listed spelling is judged to be local. -/
theorem isLocalOnlyHost_of_local {literal dots : List Char} {address : List ℕ}
    (hspells : SpellsLiteral literal address) (hdots : ∀ c ∈ dots, c = '.')
    (hlocal : LocalAddress address) (hlisted : ¬ Unlisted literal) :
    isLocalOnlyHost data (literal ++ dots) = true := by
  by_cases hcolon : ':' ∈ literal
  · rw [isLocalOnlyHost_colons hspells hcolon hdots]
    rcases hlocal with rfl | rfl | ⟨high, low, rfl, hquad⟩
    · by_cases htext : literal = "::".toList
      · right
        left
        rw [htext]
        decide
      · exact absurd (.unspecified hspells htext) hlisted
    · by_cases hdot : '.' ∈ literal
      · exact absurd (.loopback hspells hdot) hlisted
      · exact .inl (remainingDigits_loopback (spellsGroups_of_no_dot hspells hdot))
    · by_cases htext : literal.map Char.toLower = "::ffff:127.0.0.1".toList
      · exact .inr (.inr htext)
      · exact absurd (.mapped hspells hquad hcolon htext) hlisted
  · obtain ⟨high, low, hquad, rfl⟩ := exists_quad hspells hcolon
    rw [isLocalOnlyHost_quad hquad hdots]
    by_contra htexts
    rw [not_or, not_or] at htexts
    exact hlisted (.quad hquad (localQuad_of_local hlocal) htexts.1 htexts.2.1 htexts.2.2)

/-- An unlisted spelling of a local address is not. -/
theorem isLocalOnlyHost_of_unlisted {literal dots : List Char} (hunlisted : Unlisted literal)
    (hdots : ∀ c ∈ dots, c = '.') :
    isLocalOnlyHost data (literal ++ dots) = false ∧
      ∃ address, SpellsLiteral literal address ∧ LocalAddress address := by
  rw [← Bool.not_eq_true]
  cases hunlisted with
  | quad hquad hlocal hblock hzeros halias =>
    refine ⟨?_, _, .quad hquad, .inr (.inr ⟨_, _, rfl, hlocal⟩)⟩
    rw [isLocalOnlyHost_quad hquad hdots]
    exact not_or.mpr ⟨hblock, not_or.mpr ⟨hzeros, halias⟩⟩
  | unspecified hspells htext =>
    refine ⟨?_, _, hspells, .inl rfl⟩
    have hcolon : ':' ∈ literal := by
      by_contra hcolon
      obtain ⟨high, low, -, hsame⟩ := exists_quad hspells hcolon
      exact mapped_ne.1 hsame.symm
    rw [isLocalOnlyHost_colons hspells hcolon hdots]
    rintro (hone | hcolons | hmapped)
    · exact (spellsGroups_of_one hspells hone).2.1 rfl
    · exact htext (eq_colons_of_map_toLower hspells hcolons)
    · exact mapped_ne.1 ((address_of_text hspells).2 hmapped).symm
  | loopback hspells hdot =>
    refine ⟨?_, _, hspells, .inr (.inl rfl)⟩
    have hcolon : ':' ∈ literal := by
      by_contra hcolon
      obtain ⟨high, low, -, hsame⟩ := exists_quad hspells hcolon
      exact mapped_ne.2 hsame.symm
    rw [isLocalOnlyHost_colons hspells hcolon hdots]
    rintro (hone | hcolons | hmapped)
    · exact remainingDigits_dot hdot hone
    · exact absurd ((address_of_text hspells).1 hcolons) (by decide)
    · exact mapped_ne.2 ((address_of_text hspells).2 hmapped).symm
  | mapped hspells hlocal hcolon htext =>
    refine ⟨?_, _, hspells, .inr (.inr ⟨_, _, rfl, hlocal⟩)⟩
    rw [isLocalOnlyHost_colons hspells hcolon hdots]
    rintro (hone | hcolons | hmapped)
    · exact (spellsGroups_of_one hspells hone).2.2 _ _ rfl
    · exact mapped_ne.1 ((address_of_text hspells).1 hcolons)
    · exact htext hmapped

/-- The judge takes in the addresses that leave a single `1` and no other address that is not local. -/
theorem local_of_isLocalOnlyHost {literal dots : List Char} {address : List ℕ}
    (hspells : SpellsLiteral literal address) (hdots : ∀ c ∈ dots, c = '.')
    (hjudged : isLocalOnlyHost data (literal ++ dots) = true) :
    LocalAddress address ∨
      SpellsGroups literal address ∧ remainingDigits literal = ['1'] ∧ address ≠ loopback := by
  by_cases hcolon : ':' ∈ literal
  · rw [isLocalOnlyHost_colons hspells hcolon hdots] at hjudged
    rcases hjudged with hone | hcolons | hmapped
    · by_cases hloopback : address = loopback
      · exact .inl (.inr (.inl hloopback))
      · exact .inr ⟨(spellsGroups_of_one hspells hone).1, hone, hloopback⟩
    · exact .inl (.inl ((address_of_text hspells).1 hcolons))
    · exact .inl (.inr (.inr ⟨_, _, (address_of_text hspells).2 hmapped, .inl (by decide)⟩))
  · obtain ⟨high, low, hquad, rfl⟩ := exists_quad hspells hcolon
    rw [isLocalOnlyHost_quad hquad hdots] at hjudged
    exact .inl (.inr (.inr ⟨_, _, rfl, localQuad_of_listed hquad hjudged⟩))

theorem localName_isLocalOnlyHost {host : List Char} (hname : LocalName data host) :
    isLocalOnlyHost data host = true := by
  obtain ⟨name, dots, rfl, hdots, hlocal⟩ := hname
  have hends : ∀ suffix ∈ localOnlySuffixes, ∃ front c, suffix = front ++ [c] ∧ c ≠ '.' := by
    simp only [localOnlySuffixes, List.forall_mem_cons]
    exact ⟨⟨".loca".toList, 'l', by decide, by decide⟩,
      ⟨".localhos".toList, 't', by decide, by decide⟩,
      ⟨".interna".toList, 'l', by decide, by decide⟩,
      ⟨".tes".toList, 't', by decide, by decide⟩, by simp⟩
  have hlast : ∃ front c, lowerCase data name = front ++ [c] ∧ c ≠ '.' := by
    rcases hlocal with hlocalhost | ⟨suffix, hsuffix, begin, hbegin⟩
    · exact ⟨"localhos".toList, 't', hlocalhost.trans (by decide), by decide⟩
    · obtain ⟨front, c, rfl, hc⟩ := hends suffix hsuffix
      exact ⟨begin ++ front, c, by rw [← hbegin, List.append_assoc], hc⟩
  rw [isLocalOnlyHost_append hlast hdots]
  rcases hlocal with hlocalhost | hsuffix
  · left
    rw [hlocalhost]
    decide
  · exact .inr (.inr (.inr hsuffix))

/-! ### The judge over hosts -/

/-- The judge knows every local host that has no unlisted spelling. -/
theorem isLocalOnlyHost_sound_iff (data : CaseData) (host : List Char) :
    (LocalHost data host → isLocalOnlyHost data host = true) ↔ ¬ UnlistedSpelling host := by
  constructor
  · rintro hsound ⟨literal, dots, rfl, hdots, hunlisted⟩
    have hmissed : isLocalOnlyHost data (literal ++ dots) = false ∧ _ :=
      isLocalOnlyHost_of_unlisted hunlisted hdots
    obtain ⟨hmissed, address, hspells, hlocal⟩ := hmissed
    have hjudged := hsound (.inl ⟨address, ⟨literal, dots, rfl, hdots, hspells⟩, hlocal⟩)
    simp [hmissed] at hjudged
  · rintro hlisted (⟨address, ⟨literal, dots, rfl, hdots, hspells⟩, hlocal⟩ | hname)
    · exact isLocalOnlyHost_of_local hspells hdots hlocal fun hunlisted ↦
        hlisted ⟨literal, dots, rfl, hdots, hunlisted⟩
    · exact localName_isLocalOnlyHost hname

/-- The judge takes no literal of another address for local unless it leaves a single `1`. -/
theorem isLocalOnlyHost_exact_iff (data : CaseData) (host : List Char) :
    (∀ address, SpellsHost host address → isLocalOnlyHost data host = true → LocalAddress address) ↔
      ¬ StrayOne host := by
  constructor
  · rintro hexact ⟨literal, dots, groups, rfl, hdots, hgroups, hone, hother⟩
    have hspells : SpellsLiteral literal groups := .groups hgroups
    have hjudged : isLocalOnlyHost data (literal ++ dots) = true := by
      rw [isLocalOnlyHost_colons hspells hgroups.colon_mem hdots]
      exact .inl hone
    obtain ⟨-, hunspecified, hmapped⟩ := spellsGroups_of_one hspells hone
    rcases hexact groups ⟨literal, dots, rfl, hdots, hspells⟩ hjudged with h | h | ⟨high, low, h, -⟩
    · exact hunspecified h
    · exact hother h
    · exact hmapped high low h
  · rintro hstray address ⟨literal, dots, rfl, hdots, hspells⟩ hjudged
    rcases local_of_isLocalOnlyHost hspells hdots hjudged with hlocal | ⟨hgroups, hone, hother⟩
    · exact hlocal
    · exact absurd ⟨literal, dots, address, rfl, hdots, hgroups, hone, hother⟩ hstray

end Karar.MobileConfiguration
