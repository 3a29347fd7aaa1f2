import Karar.Platform.IpAddress

/-!
# What the text of an address spells

`parseIp` reads an address by cutting its text at dots, colons and `::`. This module says which texts
spell which address without the cutting: an address of the shorter family is four decimal groups with
dots between them (`SpellsDotted`), one of the longer family eight hexadecimal groups with colons
between them, where `::` may stand for some that are zero (`SpellsGroups`) and four decimal groups for
the last two (`SpellsColons`). The parser accepts exactly these texts, and reads each as the address
that it spells (`parseIp_eq_some_iff`). An address of the shorter family and the longer one that wraps
it are one address here: sixteen bytes (`ParsedIp.sixteen`).
-/

namespace Karar.Platform

open Karar.Foundation Karar.SharedKernel

/-! ### The grammar -/

/-- One to three decimal digits and the byte that they spell. -/
def SpellsOctet (digits : List Char) (octet : UInt8) : Prop :=
  1 ≤ digits.length ∧ digits.length ≤ 3 ∧ (∀ c ∈ digits, c.isDigit = true) ∧
    Nat.ofDigitChars 10 digits 0 = octet.toNat

/-- Four decimal groups with dots between them. -/
inductive SpellsDotted : List Char → List UInt8 → Prop
  | dotted {first second third fourth : List Char} {a b c d : UInt8} :
      SpellsOctet first a → SpellsOctet second b → SpellsOctet third c → SpellsOctet fourth d →
        SpellsDotted (['.'].intercalate [first, second, third, fourth]) [a, b, c, d]

/-- One to four hexadecimal digits of either case and the number that they spell. -/
def SpellsGroup (digits : List Char) (group : ℕ) : Prop :=
  1 ≤ digits.length ∧ digits.length ≤ 4 ∧ (∀ c ∈ digits, isHexDigit c = true) ∧
    digits.foldl (fun value c ↦ 16 * value + hexDigitValue c) 0 = group

/-- Eight groups with colons between them. A `::` stands for one or more groups that are zero. -/
inductive SpellsGroups : List Char → List ℕ → Prop
  | whole {texts : List (List Char)} {groups : List ℕ} :
      List.Forall₂ SpellsGroup texts groups → groups.length = 8 →
        SpellsGroups ([':'].intercalate texts) groups
  | compressed {left right : List (List Char)} {before after : List ℕ} :
      List.Forall₂ SpellsGroup left before → List.Forall₂ SpellsGroup right after →
        before.length + after.length < 8 →
        SpellsGroups ([':'].intercalate left ++ ':' :: ':' :: [':'].intercalate right)
          (before ++ List.replicate (8 - before.length - after.length) 0 ++ after)

/-- Eight groups, or six of them and four decimal groups: the address that the text spells with `0:0`
in the place of those, and their four bytes at its end. -/
inductive SpellsColons : List Char → List UInt8 → Prop
  | groups {text : List Char} {groups : List ℕ} :
      SpellsGroups text groups → SpellsColons text (groups.flatMap groupBytes)
  | embedded {front tail : List Char} {groups : List ℕ} {embeddedV4 : List UInt8} :
      SpellsGroups (front ++ [':', '0', ':', '0']) groups → SpellsDotted tail embeddedV4 →
        SpellsColons (front ++ ':' :: tail) ((groups.flatMap groupBytes).take 12 ++ embeddedV4)

/-- The sixteen bytes of the address that a text spells. An address of the longer family may carry a
zone after a percent sign, which is not part of the address. -/
inductive Denotes : List Char → List UInt8 → Prop
  | dotted {text : List Char} {bytes : List UInt8} :
      SpellsDotted text bytes → Denotes text (v4MappedPrefix ++ bytes)
  | colons {text : List Char} {bytes : List UInt8} :
      SpellsColons (text.takeWhile (· != '%')) bytes → Denotes text bytes

/-- The address as sixteen bytes, in which an address of the shorter family stands wrapped. -/
def ParsedIp.sixteen (ip : ParsedIp) : List UInt8 :=
  if ip.bytes.length = 4 then v4MappedPrefix ++ ip.bytes else ip.bytes

/-! ### Decimal groups -/

theorem parseOctet_eq_some_iff {digits : List Char} {octet : UInt8} :
    parseOctet digits = some octet ↔ SpellsOctet digits octet := by
  simp only [parseOctet, SpellsOctet, List.all_eq_true]
  constructor
  · intro hoctet
    split_ifs at hoctet with hdigits hlarge
    have hvalue := Option.some.inj hoctet
    refine ⟨hdigits.1, hdigits.2.1, hdigits.2.2, ?_⟩
    rw [← hvalue, UInt8.toNat_ofNat']
    omega
  · rintro ⟨hone, hthree, hdigits, hvalue⟩
    have hsmall : octet.toNat < 256 := octet.toNat_lt
    rw [if_pos ⟨hone, hthree, hdigits⟩, if_neg (by omega), hvalue, UInt8.ofNat_toNat]

theorem SpellsOctet.not_mem {digits : List Char} {octet : UInt8} (hspells : SpellsOctet digits octet)
    {c : Char} (hc : c.isDigit = false) : c ∉ digits := by
  intro hmem
  have hdigit := hspells.2.2.1 c hmem
  simp [hc] at hdigit

theorem parseIpv4_eq_some_iff {text : List Char} {bytes : List UInt8} :
    parseIpv4 text = some bytes ↔ SpellsDotted text bytes := by
  constructor
  · intro hbytes
    unfold parseIpv4 at hbytes
    split at hbytes
    · rename_i first second third fourth hsplit
      simp only [Option.bind_eq_bind, Option.bind_eq_some_iff, Option.some.injEq,
        parseOctet_eq_some_iff] at hbytes
      obtain ⟨a, ha, b, hb, c, hc, d, hd, rfl⟩ := hbytes
      have hjoin : ['.'].intercalate (text.splitOn '.') = text := List.intercalate_splitOn '.'
      rw [← hjoin, hsplit]
      exact .dotted ha hb hc hd
    · simp at hbytes
  · intro hspells
    induction hspells with
    | @dotted first second third fourth a b c d ha hb hc hd =>
      have hdot : ∀ part ∈ [first, second, third, fourth], '.' ∉ part := by
        simp only [List.mem_cons, List.not_mem_nil, or_false, forall_eq_or_imp, forall_eq]
        exact ⟨ha.not_mem rfl, hb.not_mem rfl, hc.not_mem rfl, hd.not_mem rfl⟩
      rw [parseIpv4, List.splitOn_intercalate '.' hdot (by simp)]
      rw [← parseOctet_eq_some_iff] at ha hb hc hd
      simp [ha, hb, hc, hd]

/-- Four decimal groups are written with digits and dots. -/
theorem SpellsDotted.not_mem {text : List Char} {bytes : List UInt8}
    (hspells : SpellsDotted text bytes) {c : Char} (hdigit : c.isDigit = false) (hdot : c ≠ '.') :
    c ∉ text := by
  induction hspells with
  | dotted ha hb hc hd =>
    simp [ha.not_mem hdigit, hb.not_mem hdigit, hc.not_mem hdigit, hd.not_mem hdigit, hdot]

theorem SpellsDotted.dot_mem {text : List Char} {bytes : List UInt8}
    (hspells : SpellsDotted text bytes) : '.' ∈ text := by
  induction hspells with
  | dotted => simp

/-! ### Hexadecimal groups -/

theorem parseGroup_eq_some_iff {digits : List Char} {group : ℕ} :
    parseGroup digits = some group ↔ SpellsGroup digits group := by
  simp only [parseGroup, SpellsGroup, List.all_eq_true]
  constructor
  · intro hgroup
    split_ifs at hgroup with hdigits
    exact ⟨hdigits.1, hdigits.2.1, hdigits.2.2, Option.some.inj hgroup⟩
  · rintro ⟨hone, hfour, hdigits, hvalue⟩
    rw [if_pos ⟨hone, hfour, hdigits⟩, hvalue]

theorem SpellsGroup.not_mem {digits : List Char} {group : ℕ} (hspells : SpellsGroup digits group)
    {c : Char} (hc : isHexDigit c = false) : c ∉ digits := by
  intro hmem
  have hdigit := hspells.2.2.1 c hmem
  simp [hc] at hdigit

theorem SpellsGroup.ne_nil {digits : List Char} {group : ℕ} (hspells : SpellsGroup digits group) :
    digits ≠ [] :=
  List.ne_nil_of_length_pos hspells.1

/-- Groups are written with hexadecimal digits. -/
theorem not_mem_of_spells {texts : List (List Char)} {groups : List ℕ}
    (hspells : List.Forall₂ SpellsGroup texts groups) {c : Char} (hc : isHexDigit c = false) :
    ∀ text ∈ texts, c ∉ text := by
  induction hspells with
  | nil => simp
  | cons hgroup _ ih =>
    simp only [List.mem_cons, forall_eq_or_imp]
    exact ⟨hgroup.not_mem hc, ih⟩

theorem not_mem_intercalate {texts : List (List Char)} {groups : List ℕ}
    (hspells : List.Forall₂ SpellsGroup texts groups) {c : Char} (hc : isHexDigit c = false)
    (hcolon : c ≠ ':') : c ∉ [':'].intercalate texts := by
  induction hspells with
  | nil => simp
  | @cons text _ rest _ hgroup _ ih =>
    cases rest with
    | nil => simpa using hgroup.not_mem hc
    | cons => simpa [hcolon, hgroup.not_mem hc] using ih

theorem intercalate_ne_nil {texts : List (List Char)} {groups : List ℕ}
    (hspells : List.Forall₂ SpellsGroup texts groups) (htexts : texts ≠ []) :
    [':'].intercalate texts ≠ [] := by
  cases hspells with
  | nil => exact absurd rfl htexts
  | @cons text _ rest _ hgroup =>
    cases rest with
    | nil => simpa using hgroup.ne_nil
    | cons => simp

theorem parseGroups_eq_some_iff {part : List Char} {groups : List ℕ} :
    parseGroups part = some groups ↔
      ∃ texts, List.Forall₂ SpellsGroup texts groups ∧ part = [':'].intercalate texts := by
  constructor
  · intro hgroups
    unfold parseGroups at hgroups
    split_ifs at hgroups with hpart
    · rw [← Option.some.inj hgroups]
      exact ⟨[], .nil, hpart⟩
    · refine ⟨part.splitOn ':', ?_, (List.intercalate_splitOn ':').symm⟩
      refine (mapM_eq_some_iff.mp hgroups).imp fun _ _ hgroup ↦ ?_
      exact parseGroup_eq_some_iff.mp hgroup
  · rintro ⟨texts, hspells, rfl⟩
    by_cases htexts : texts = []
    · subst htexts
      cases hspells
      rfl
    · have hpart : [':'].intercalate texts ≠ [] := intercalate_ne_nil hspells htexts
      have hcolon : ∀ text ∈ texts, ':' ∉ text := not_mem_of_spells hspells rfl
      rw [parseGroups, if_neg hpart, List.splitOn_intercalate ':' hcolon htexts, mapM_eq_some_iff]
      exact hspells.imp fun _ _ hgroup ↦ parseGroup_eq_some_iff.mpr hgroup

/-! ### The place of a `::` -/

theorem splitDoubleColon_ne_nil (text : List Char) : splitDoubleColon text ≠ [] := by
  fun_induction splitDoubleColon text with
  | case1 => simp
  | case2 => simp
  | case3 c rest _ ih => simpa [List.modifyHead_eq_nil_iff] using ih

/-- A `::` between the parts puts the text together again. -/
theorem intercalate_splitDoubleColon (text : List Char) :
    [':', ':'].intercalate (splitDoubleColon text) = text := by
  fun_induction splitDoubleColon text with
  | case1 => rfl
  | case2 rest ih =>
    rw [List.intercalate_cons_of_ne_nil (splitDoubleColon_ne_nil rest), ih]
    rfl
  | case3 c rest _ ih =>
    obtain ⟨first, others, hsplit⟩ := List.exists_cons_of_ne_nil (splitDoubleColon_ne_nil rest)
    rw [hsplit] at ih ⊢
    rw [List.modifyHead_cons, ← ih]
    cases others with
    | nil => simp
    | cons => simp

/-- What has no colon stays in front of the first part. -/
theorem splitDoubleColon_append_of_not_mem {digits : List Char} (hcolon : ':' ∉ digits)
    (tail : List Char) :
    splitDoubleColon (digits ++ tail) = (splitDoubleColon tail).modifyHead (digits ++ ·) := by
  induction digits with
  | nil =>
    show splitDoubleColon tail = (splitDoubleColon tail).modifyHead id
    rw [List.modifyHead_id, id]
  | cons c rest ih =>
    simp only [List.mem_cons, not_or] at hcolon
    rw [List.cons_append, splitDoubleColon, ih hcolon.2, List.modifyHead_modifyHead]
    · rfl
    · intro other hc
      exact absurd hc.symm (by simpa using hcolon.1)

/-- So do groups with single colons between them. -/
theorem splitDoubleColon_append_of_spells {texts : List (List Char)} {groups : List ℕ}
    (hspells : List.Forall₂ SpellsGroup texts groups) (tail : List Char) :
    splitDoubleColon ([':'].intercalate texts ++ tail) =
      (splitDoubleColon tail).modifyHead ([':'].intercalate texts ++ ·) := by
  induction hspells with
  | nil => exact splitDoubleColon_append_of_not_mem (by simp) tail
  | @cons text _ rest _ hgroup hrest ih =>
    have hcolon : ':' ∉ text := hgroup.not_mem rfl
    cases hrest with
    | nil =>
      rw [List.intercalate_singleton]
      exact splitDoubleColon_append_of_not_mem hcolon tail
    | @cons next _ others _ hnext =>
      -- The next group starts with a digit, so the colon before it is a single one.
      obtain ⟨digit, digits, rfl⟩ := List.exists_cons_of_ne_nil hnext.ne_nil
      have hdigit : digit ≠ ':' := by
        rintro rfl
        exact hnext.not_mem (c := ':') rfl List.mem_cons_self
      obtain ⟨more, hmore⟩ : ∃ more, [':'].intercalate ((digit :: digits) :: others) = digit :: more := by
        cases others with
        | nil => exact ⟨digits, List.intercalate_singleton⟩
        | cons => exact ⟨_, List.intercalate_cons_cons⟩
      rw [List.intercalate_cons_cons, hmore, List.append_assoc, List.append_assoc,
        splitDoubleColon_append_of_not_mem hcolon]
      rw [hmore, List.cons_append] at ih
      have hsingle : splitDoubleColon ([':'] ++ (digit :: more ++ tail)) =
          (splitDoubleColon (digit :: (more ++ tail))).modifyHead (':' :: ·) := by
        rw [List.cons_append, List.nil_append, List.cons_append, splitDoubleColon]
        simpa using hdigit
      rw [hsingle, ih, List.modifyHead_modifyHead, List.modifyHead_modifyHead]
      congr 1
      ext part
      simp

/-! ### Eight groups -/

theorem expandGroups_eq_some_iff {text : List Char} {groups : List ℕ} :
    expandGroups text = some groups ↔ SpellsGroups text groups := by
  constructor
  · intro hgroups
    have hjoin := intercalate_splitDoubleColon text
    unfold expandGroups at hgroups
    split at hgroups
    · rename_i whole hsplit
      rw [hsplit, List.intercalate_singleton] at hjoin
      simp only [Option.bind_eq_bind, Option.bind_eq_some_iff, Option.ite_none_right_eq_some,
        Option.some.injEq] at hgroups
      obtain ⟨_, hwhole, height, rfl⟩ := hgroups
      obtain ⟨texts, hspells, rfl⟩ := parseGroups_eq_some_iff.mp hwhole
      rw [← hjoin]
      exact .whole hspells height
    · rename_i left right hsplit
      rw [hsplit, List.intercalate_cons_cons, List.intercalate_singleton] at hjoin
      simp only [Option.bind_eq_bind, Option.bind_eq_some_iff, Option.ite_none_right_eq_some,
        Option.some.injEq] at hgroups
      obtain ⟨before, hleft, after, hright, hroom, rfl⟩ := hgroups
      obtain ⟨leftTexts, hleftSpells, rfl⟩ := parseGroups_eq_some_iff.mp hleft
      obtain ⟨rightTexts, hrightSpells, rfl⟩ := parseGroups_eq_some_iff.mp hright
      rw [← hjoin, List.append_assoc]
      exact .compressed hleftSpells hrightSpells hroom
    · simp at hgroups
  · intro hspells
    induction hspells with
    | @whole texts groups hspells height =>
      have hsplit := splitDoubleColon_append_of_spells hspells []
      rw [List.append_nil] at hsplit
      have hgroups := parseGroups_eq_some_iff.mpr ⟨texts, hspells, rfl⟩
      simp [expandGroups, hsplit, splitDoubleColon, hgroups, height]
    | @compressed left right before after hleft hright hroom =>
      have hright' := splitDoubleColon_append_of_spells hright []
      rw [List.append_nil] at hright'
      have hsplit := splitDoubleColon_append_of_spells hleft (':' :: ':' :: [':'].intercalate right)
      have hbefore := parseGroups_eq_some_iff.mpr ⟨left, hleft, rfl⟩
      have hafter := parseGroups_eq_some_iff.mpr ⟨right, hright, rfl⟩
      simp [expandGroups, hsplit, hright', splitDoubleColon, hbefore, hafter, hroom]

/-- A text spells one list of groups. -/
theorem SpellsGroups.unique {text : List Char} {groups groups' : List ℕ}
    (hspells : SpellsGroups text groups) (hspells' : SpellsGroups text groups') :
    groups = groups' := by
  rw [← expandGroups_eq_some_iff] at hspells hspells'
  exact Option.some.inj (hspells.symm.trans hspells')

theorem SpellsGroups.not_mem {text : List Char} {groups : List ℕ} (hspells : SpellsGroups text groups)
    {c : Char} (hhex : isHexDigit c = false) (hcolon : c ≠ ':') : c ∉ text := by
  induction hspells with
  | whole hspells => exact not_mem_intercalate hspells hhex hcolon
  | compressed hleft hright =>
    simp [not_mem_intercalate hleft hhex hcolon, not_mem_intercalate hright hhex hcolon, hcolon]

theorem SpellsGroups.dot_not_mem {text : List Char} {groups : List ℕ}
    (hspells : SpellsGroups text groups) : '.' ∉ text :=
  hspells.not_mem rfl (by decide)

theorem SpellsGroups.colon_mem {text : List Char} {groups : List ℕ}
    (hspells : SpellsGroups text groups) : ':' ∈ text := by
  induction hspells with
  | whole hspells height =>
    cases hspells with
    | nil => simp at height
    | cons _ hrest =>
      cases hrest with
      | nil => simp at height
      | cons => simp
  | compressed => simp

/-! ### Groups and four decimal groups -/

theorem lastColonSplit_append {front tail : List Char} (htail : ':' ∉ tail) :
    lastColonSplit (front ++ ':' :: tail) = (front ++ [':'], tail) := by
  have hplain : ∀ c ∈ tail.reverse, (c != ':') = true := by
    intro c hc
    rw [bne_iff_ne]
    rintro rfl
    exact htail (List.mem_reverse.mp hc)
  have hreverse : (front ++ ':' :: tail).reverse = tail.reverse ++ ':' :: front.reverse := by simp
  rw [lastColonSplit, List.rdropWhile, List.rtakeWhile, hreverse,
    List.dropWhile_append_of_pos hplain, List.takeWhile_append_of_pos hplain]
  simp

theorem exists_lastColon {text : List Char} (hcolon : ':' ∈ text) :
    ∃ front tail, ':' ∉ tail ∧ text = front ++ ':' :: tail := by
  obtain ⟨tail, front, hreverse, htail⟩ := List.eq_append_cons_of_mem (List.mem_reverse.mpr hcolon)
  refine ⟨front.reverse, tail.reverse, by simpa using htail, ?_⟩
  rw [← List.reverse_reverse text, hreverse]
  simp

theorem lastColon_unique {front front' tail tail' : List Char} (htail : ':' ∉ tail)
    (htail' : ':' ∉ tail') (htext : front ++ ':' :: tail = front' ++ ':' :: tail') :
    front = front' ∧ tail = tail' := by
  have hsplit : lastColonSplit (front ++ ':' :: tail) = (front ++ [':'], tail) :=
    lastColonSplit_append htail
  rw [htext, lastColonSplit_append htail'] at hsplit
  simp only [Prod.mk.injEq, List.append_cancel_right_eq] at hsplit
  exact ⟨hsplit.1.symm, hsplit.2.symm⟩

theorem parseIpv6_eq_some_iff {text : List Char} {bytes : List UInt8} :
    parseIpv6 text = some bytes ↔ SpellsColons (text.takeWhile (· != '%')) bytes := by
  simp only [parseIpv6]
  generalize text.takeWhile (· != '%') = zoneless
  by_cases hcolon : ':' ∈ zoneless
  · obtain ⟨front, tail, htail, rfl⟩ := exists_lastColon hcolon
    rw [if_neg (by simp), lastColonSplit_append htail]
    constructor
    · intro hbytes
      dsimp only at hbytes
      split_ifs at hbytes with hdot
      · simp only [Option.bind_eq_bind, Option.bind_eq_some_iff, Option.some.injEq,
          parseIpv4_eq_some_iff, expandGroups_eq_some_iff] at hbytes
        obtain ⟨embeddedV4, hembedded, groups, hgroups, rfl⟩ := hbytes
        refine .embedded ?_ hembedded
        simpa using hgroups
      · simp only [Option.bind_eq_bind, Option.bind_eq_some_iff, Option.some.injEq,
          expandGroups_eq_some_iff] at hbytes
        obtain ⟨groups, hgroups, rfl⟩ := hbytes
        exact .groups hgroups
    · intro hspells
      generalize htext : front ++ ':' :: tail = text at hspells
      cases hspells with
      | groups hgroups =>
        have hdot : '.' ∉ tail := by
          intro hmem
          refine hgroups.dot_not_mem ?_
          rw [← htext]
          simp [hmem]
        rw [if_neg hdot, expandGroups_eq_some_iff.mpr hgroups]
        rfl
      | @embedded front' tail' groups embeddedV4 hgroups hembedded =>
        have htail' : ':' ∉ tail' := hembedded.not_mem rfl (by decide)
        obtain ⟨rfl, rfl⟩ := lastColon_unique htail htail' htext
        rw [if_pos hembedded.dot_mem, parseIpv4_eq_some_iff.mpr hembedded]
        have hgroups' : SpellsGroups (front ++ [':'] ++ ['0', ':', '0']) groups := by
          simpa using hgroups
        rw [expandGroups_eq_some_iff.mpr hgroups']
        rfl
  · rw [if_pos hcolon]
    constructor
    · simp
    · intro hspells
      cases hspells with
      | groups hgroups => exact absurd hgroups.colon_mem hcolon
      | embedded => simp at hcolon

theorem SpellsColons.colon_mem {text : List Char} {bytes : List UInt8}
    (hspells : SpellsColons text bytes) : ':' ∈ text := by
  cases hspells with
  | groups hgroups => exact hgroups.colon_mem
  | embedded => simp

/-! ### The whole address -/

theorem ParsedIp.sixteen_injective : Function.Injective ParsedIp.sixteen := by
  intro first second hsame
  unfold ParsedIp.sixteen at hsame
  have hwidth : v4MappedPrefix.length = 12 := rfl
  have hwrapped (bytes : List UInt8) (hfour : bytes.length = 4) :
      isV4Mapped (v4MappedPrefix ++ bytes) = true := by
    simp [isV4Mapped, hwidth, hfour]
  have hbytes : first.bytes = second.bytes := by
    split_ifs at hsame with hfirst hsecond hsecond
    · exact List.append_cancel_left hsame
    · have hplain := (second.shaped.resolve_left hsecond).2
      rw [← hsame, hwrapped _ hfirst] at hplain
      simp at hplain
    · have hplain := (first.shaped.resolve_left hfirst).2
      rw [hsame, hwrapped _ hsecond] at hplain
      simp at hplain
    · exact hsame
  cases first
  cases second
  simpa using hbytes

theorem sixteen_ipv4 {bytes : List UInt8} (hlength : bytes.length = 4) :
    (ipv4 bytes hlength).sixteen = v4MappedPrefix ++ bytes := by
  rw [ParsedIp.sixteen, ipv4, if_pos hlength]

theorem sixteen_ipv6 {bytes : List UInt8} (hlength : bytes.length = 16) :
    (ipv6 bytes hlength).sixteen = bytes := by
  unfold ipv6
  split_ifs with hmapped
  · have hdrop : (bytes.drop 12).length = 4 := by rw [List.length_drop, hlength]
    have hprefix : bytes.take 12 = v4MappedPrefix := by
      simpa [isV4Mapped, hlength] using hmapped
    rw [ParsedIp.sixteen, if_pos hdrop, ← hprefix, List.take_append_drop]
  · rw [ParsedIp.sixteen, if_neg (by rw [hlength]; decide)]

/-- What a text spells is an address of one of the two families. -/
theorem Denotes.exists_sixteen {text : List Char} {bytes : List UInt8} (hdenotes : Denotes text bytes) :
    ∃ ip : ParsedIp, ip.sixteen = bytes := by
  cases hdenotes with
  | dotted hspells =>
    exact ⟨_, sixteen_ipv4 (parseIpv4_length (parseIpv4_eq_some_iff.mpr hspells))⟩
  | colons hspells =>
    exact ⟨_, sixteen_ipv6 (parseIpv6_length (parseIpv6_eq_some_iff.mpr hspells))⟩

/-- The characters of an address that are read: without blanks around it, and without brackets. -/
def addressText (raw : String) : List Char := stripBrackets (trim isTrimmed raw.toList)

/-- The parser accepts the texts of the grammar and reads each as the address it spells. -/
theorem parseIp_eq_some_iff {raw : String} {ip : ParsedIp} :
    parseIp raw = some ip ↔ Denotes (addressText raw) ip.sixteen := by
  unfold parseIp addressText
  dsimp only
  generalize stripBrackets (trim isTrimmed raw.toList) = text
  constructor
  · intro hparsed
    split at hparsed
    · rename_i bytes hv4
      rw [← Option.some.inj hparsed, sixteen_ipv4]
      exact .dotted (parseIpv4_eq_some_iff.mp hv4)
    · split at hparsed
      · rename_i bytes hv6
        rw [← Option.some.inj hparsed, sixteen_ipv6]
        exact .colons (parseIpv6_eq_some_iff.mp hv6)
      · simp at hparsed
  · intro hdenotes
    generalize hsixteen : ip.sixteen = bytes at hdenotes
    cases hdenotes with
    | dotted hspells =>
      have hv4 := parseIpv4_eq_some_iff.mpr hspells
      split
      · rename_i bytes' hv4'
        obtain rfl := Option.some.inj (hv4.symm.trans hv4')
        rw [ParsedIp.sixteen_injective (hsixteen.trans (sixteen_ipv4 _).symm)]
      · rename_i hnone
        simp [hv4] at hnone
    | colons hspells =>
      have hv6 := parseIpv6_eq_some_iff.mpr hspells
      split
      · rename_i bytes' hv4
        -- Four decimal groups are written without a colon.
        have hcolon := (parseIpv4_eq_some_iff.mp hv4).not_mem (c := ':') rfl (by decide)
        exact absurd (List.takeWhile_subset _ hspells.colon_mem) hcolon
      · split
        · rename_i bytes' hv6'
          obtain rfl := Option.some.inj (hv6.symm.trans hv6')
          rw [ParsedIp.sixteen_injective (hsixteen.trans (sixteen_ipv6 _).symm)]
        · rename_i hnone
          simp [hv6] at hnone

/-- A text spells one address. -/
theorem parseIp_of_denotes {raw : String} {bytes : List UInt8}
    (hdenotes : Denotes (addressText raw) bytes) :
    ∃ ip, parseIp raw = some ip ∧ ip.sixteen = bytes := by
  obtain ⟨ip, rfl⟩ := hdenotes.exists_sixteen
  exact ⟨ip, parseIp_eq_some_iff.mpr hdenotes, rfl⟩

end Karar.Platform
