import Karar.Platform.AddressGrammar
import Karar.Platform.TrustedProxy

/-!
# One text for each address

Digests and rate-limit keys receive the canonical text of an address. It is a text of the grammar
that spells the address it was made from (`denotes_canonicalIp`), so the parser reads it back, and
two texts have one canonical text exactly when one address is spelled by both. A range contains an
address of its family exactly when the first bits of the two agree (`cidrContains_iff`), which is what
the byte comparisons and the mask of the last byte come to.
-/

namespace Karar.Platform

open Karar.Foundation Karar.SharedKernel

/-! ### Digits of the canonical text -/

theorem spellsOctet_repr (byte : UInt8) : SpellsOctet (Nat.toDigits 10 byte.toNat) byte := by
  have hsmall : byte.toNat < 256 := byte.toNat_lt
  refine ⟨Nat.length_toDigits_pos, ?_, ?_, Nat.ofDigitChars_ten_toDigits⟩
  · rw [Nat.length_toDigits_le_iff (by omega) (by omega)]
    omega
  · intro c hc
    exact Nat.isDigit_of_mem_toDigits (by omega) (by omega) hc

/-- The characters that write the numbers below sixteen. -/
theorem digitChar_lt_sixteen (n : ℕ) (hn : n < 16) :
    isHexDigit n.digitChar = true ∧ hexDigitValue n.digitChar = n := by
  decide +revert

theorem toDigits_sixteen (n : ℕ) :
    (∀ c ∈ Nat.toDigits 16 n, isHexDigit c = true) ∧
      (Nat.toDigits 16 n).foldl (fun value c ↦ 16 * value + hexDigitValue c) 0 = n := by
  induction n using Nat.strong_induction_on with
  | _ n ih =>
    by_cases hsmall : n < 16
    · have hdigit := digitChar_lt_sixteen n hsmall
      rw [Nat.toDigits_of_lt_base hsmall]
      simpa using hdigit
    · have hlast := digitChar_lt_sixteen (n % 16) (by omega)
      have hfront := ih (n / 16) (by omega)
      rw [Nat.toDigits_of_base_le (by omega) (by omega)]
      constructor
      · intro c hc
        rcases List.mem_append.mp hc with hc | hc
        · exact hfront.1 c hc
        · rw [List.mem_singleton.mp hc]
          exact hlast.1
      · rw [List.foldl_append, hfront.2, List.foldl_cons, List.foldl_nil, hlast.2]
        omega

theorem spellsGroup_toDigits {group : ℕ} (hgroup : group < 65536) :
    SpellsGroup (Nat.toDigits 16 group) group := by
  refine ⟨Nat.length_toDigits_pos, ?_, (toDigits_sixteen group).1, (toDigits_sixteen group).2⟩
  rw [Nat.length_toDigits_le_iff (by omega) (by omega)]
  exact hgroup

/-! ### The canonical text spells its address -/

theorem toList_intercalate_dot (bytes : List UInt8) :
    (".".intercalate (bytes.map fun byte ↦ byte.toNat.repr)).toList =
      ['.'].intercalate (bytes.map fun byte ↦ Nat.toDigits 10 byte.toNat) := by
  rw [String.toList_intercalate, List.map_map]
  congr 1
  apply List.map_congr_left
  intro byte _
  exact Nat.toList_repr

theorem toList_intercalate_colon (groups : List ℕ) :
    (":".intercalate (groups.map fun group ↦ String.ofList (Nat.toDigits 16 group))).toList =
      [':'].intercalate (groups.map fun group ↦ Nat.toDigits 16 group) := by
  rw [String.toList_intercalate, List.map_map]
  congr 1
  apply List.map_congr_left
  intro group _
  exact String.toList_ofList

theorem groupBytes_pair (high low : UInt8) :
    groupBytes (high.toNat <<< 8 ||| low.toNat) = [high, low] ∧
      high.toNat <<< 8 ||| low.toNat < 65536 := by
  have hhigh : high.toNat < 256 := high.toNat_lt
  have hlow : low.toNat < 2 ^ 8 := low.toNat_lt
  have hsum : high.toNat <<< 8 ||| low.toNat = 2 ^ 8 * high.toNat + low.toNat := by
    rw [Nat.shiftLeft_eq, Nat.mul_comm, Nat.two_pow_add_eq_or_of_lt hlow]
  have htop : (2 ^ 8 * high.toNat + low.toNat) >>> 8 = high.toNat := by
    rw [Nat.shiftRight_eq_div_pow]
    omega
  have hbottom : (2 ^ 8 * high.toNat + low.toNat) &&& 0xff = low.toNat := by
    rw [Nat.and_two_pow_sub_one_eq_mod _ 8]
    omega
  rw [hsum, groupBytes, htop, hbottom, UInt8.ofNat_toNat, UInt8.ofNat_toNat]
  exact ⟨rfl, by omega⟩

/-- Bytes taken two by two are groups, and the groups give the bytes back. -/
theorem bytePairs_spec (n : ℕ) (bytes : List UInt8) (hlength : bytes.length = 2 * n) :
    (bytePairs bytes).length = n ∧ (bytePairs bytes).flatMap groupBytes = bytes ∧
      ∀ group ∈ bytePairs bytes, group < 65536 := by
  induction n generalizing bytes with
  | zero =>
    rw [List.length_eq_zero_iff.mp hlength]
    simp [bytePairs]
  | succ n ih =>
    match bytes, hlength with
    | high :: low :: rest, hlength =>
      have hrest := ih rest (by simp only [List.length_cons] at hlength; omega)
      have hpair := groupBytes_pair high low
      refine ⟨by rw [bytePairs, List.length_cons, hrest.1], ?_, ?_⟩
      · rw [bytePairs, List.flatMap_cons, hpair.1, hrest.2.1]
        rfl
      · simp only [bytePairs, List.mem_cons, forall_eq_or_imp]
        exact ⟨hpair.2, hrest.2.2⟩

theorem forall₂_toDigits {groups : List ℕ} (hgroups : ∀ group ∈ groups, group < 65536) :
    List.Forall₂ SpellsGroup (groups.map fun group ↦ Nat.toDigits 16 group) groups := by
  rw [List.forall₂_map_left_iff, List.forall₂_same]
  intro group hgroup
  exact spellsGroup_toDigits (hgroups group hgroup)

/-- The canonical text without the marks that the parser takes off an address. -/
theorem denotes_toList_canonicalIp (ip : ParsedIp) : Denotes (canonicalIp ip).toList ip.sixteen := by
  unfold canonicalIp ParsedIp.sixteen
  split_ifs with hfour
  · rw [toList_intercalate_dot]
    match ip.bytes, hfour with
    | [a, b, c, d], _ =>
      exact .dotted (.dotted (spellsOctet_repr a) (spellsOctet_repr b) (spellsOctet_repr c)
        (spellsOctet_repr d))
  · have hsixteen : ip.bytes.length = 2 * 8 := (ip.shaped.resolve_left hfour).1
    obtain ⟨height, hbytes, hgroups⟩ := bytePairs_spec 8 ip.bytes hsixteen
    have hspells : SpellsGroups (([':'].intercalate
        ((bytePairs ip.bytes).map fun group ↦ Nat.toDigits 16 group))) (bytePairs ip.bytes) :=
      .whole (forall₂_toDigits hgroups) height
    rw [toList_intercalate_colon]
    refine .colons ?_
    rw [List.takeWhile_eq_self_iff.mpr]
    · have hcolons := SpellsColons.groups hspells
      rwa [hbytes] at hcolons
    · intro c hc
      rw [bne_iff_ne]
      rintro rfl
      exact not_mem_intercalate (forall₂_toDigits hgroups) (c := '%') rfl (by decide) hc

theorem not_mem_canonicalIp (ip : ParsedIp) {c : Char} (hhex : isHexDigit c = false) (hdot : c ≠ '.')
    (hcolon : c ≠ ':') : c ∉ (canonicalIp ip).toList := by
  unfold canonicalIp
  split_ifs with hfour
  · rw [toList_intercalate_dot]
    match ip.bytes, hfour with
    | [a, b, c', d], _ =>
      have hdigit : c.isDigit = false := by
        rw [Bool.eq_false_iff]
        intro hdigit
        simp [isHexDigit, Char.isDigit, Char.le_def] at hhex hdigit
        exact absurd hdigit.2 (by simpa using hhex.1.1 hdigit.1)
      exact (SpellsDotted.dotted (spellsOctet_repr a) (spellsOctet_repr b) (spellsOctet_repr c')
        (spellsOctet_repr d)).not_mem hdigit hdot
  · have hsixteen : ip.bytes.length = 2 * 8 := (ip.shaped.resolve_left hfour).1
    rw [toList_intercalate_colon]
    exact not_mem_intercalate (forall₂_toDigits (bytePairs_spec 8 ip.bytes hsixteen).2.2) hhex hcolon

theorem not_isTrimmed {c : Char} (hblank : isTrimmed c = true) :
    isHexDigit c = false ∧ c ≠ '.' ∧ c ≠ ':' := by
  have hvalues : ∀ value ∈ ([0x9, 0xA, 0xB, 0xC, 0xD, 0x20, 0xA0, 0x1680, 0x2000, 0x2001, 0x2002,
      0x2003, 0x2004, 0x2005, 0x2006, 0x2007, 0x2008, 0x2009, 0x200A, 0x2028, 0x2029, 0x202F, 0x205F,
      0x3000, 0xFEFF] : List UInt32),
      (value < '0'.val ∨ 'f'.val < value) ∧ value ≠ '.'.val ∧ value ≠ ':'.val := by
    simp
  obtain ⟨hdigit, hdot, hcolon⟩ :=
    hvalues c.val (by simpa only [isTrimmed, decide_eq_true_eq] using hblank)
  refine ⟨?_, ?_, ?_⟩
  · simp only [isHexDigit, Char.le_def, Bool.or_eq_false_iff, decide_eq_false_iff_not,
      UInt32.le_iff_toNat_le, UInt32.lt_iff_toNat_lt, Char.reduceVal, UInt32.reduceToNat] at hdigit ⊢
    omega
  · rintro rfl
    exact hdot rfl
  · rintro rfl
    exact hcolon rfl

/-- The parser takes nothing off a canonical text. -/
theorem addressText_canonicalIp (ip : ParsedIp) :
    addressText (canonicalIp ip) = (canonicalIp ip).toList := by
  have hplain : ∀ c ∈ (canonicalIp ip).toList, isTrimmed c = false := by
    intro c hc
    rw [Bool.eq_false_iff]
    intro hblank
    obtain ⟨hhex, hdot, hcolon⟩ := not_isTrimmed hblank
    exact not_mem_canonicalIp ip hhex hdot hcolon hc
  have htrim : trim isTrimmed (canonicalIp ip).toList = (canonicalIp ip).toList := trim_eq_self hplain
  have hopening : '[' ∉ (canonicalIp ip).toList :=
    not_mem_canonicalIp ip rfl (by decide) (by decide)
  have hclosing : ']' ∉ (canonicalIp ip).toList :=
    not_mem_canonicalIp ip rfl (by decide) (by decide)
  rw [addressText, htrim, stripBrackets]
  have hhead : ((canonicalIp ip).toList.head? = some '[') = False := by
    rw [eq_iff_iff, iff_false]
    exact fun hhead ↦ hopening (List.mem_of_head? hhead)
  have hlast : ((canonicalIp ip).toList.getLast? = some ']') = False := by
    rw [eq_iff_iff, iff_false]
    exact fun hlast ↦ hclosing (List.mem_of_getLast? hlast)
  simp only [hhead, hlast, if_false]

/-- The parser reads a canonical text back. -/
theorem parseIp_canonicalIp (ip : ParsedIp) : parseIp (canonicalIp ip) = some ip := by
  rw [parseIp_eq_some_iff, addressText_canonicalIp]
  exact denotes_toList_canonicalIp ip

theorem canonicalIp_injective : Function.Injective canonicalIp := by
  intro first second hsame
  have hread := parseIp_canonicalIp first
  rw [hsame, parseIp_canonicalIp second] at hread
  exact (Option.some.inj hread).symm

/-- Two texts have one canonical text exactly when both spell one address. -/
theorem canonicalIp_eq_iff {first second : String} {a b : ParsedIp} (ha : parseIp first = some a)
    (hb : parseIp second = some b) : canonicalIp a = canonicalIp b ↔
      ∃ address, Denotes (addressText first) address ∧ Denotes (addressText second) address := by
  have hfirst := parseIp_eq_some_iff.mp ha
  have hsecond := parseIp_eq_some_iff.mp hb
  constructor
  · intro hsame
    obtain rfl := canonicalIp_injective hsame
    exact ⟨_, hfirst, hsecond⟩
  · rintro ⟨address, hdenotes, hdenotes'⟩
    obtain ⟨a', ha', hbytes⟩ := parseIp_of_denotes hdenotes
    obtain ⟨b', hb', hbytes'⟩ := parseIp_of_denotes hdenotes'
    obtain rfl := Option.some.inj (ha.symm.trans ha')
    obtain rfl := Option.some.inj (hb.symm.trans hb')
    rw [ParsedIp.sixteen_injective (hbytes.trans hbytes'.symm)]

/-! ### The first bits of an address -/

/-- The bits of bytes, the highest of each first. -/
def bitsOf (bytes : List UInt8) : List Bool :=
  bytes.flatMap fun byte ↦ (List.range 8).map fun place ↦ byte.toNat.testBit (7 - place)

theorem bitsOf_cons (byte : UInt8) (rest : List UInt8) :
    bitsOf (byte :: rest) = bitsOf [byte] ++ bitsOf rest := by
  simp [bitsOf]

theorem bitsOf_append (first second : List UInt8) :
    bitsOf (first ++ second) = bitsOf first ++ bitsOf second := by
  simp [bitsOf]

theorem length_bitsOf (bytes : List UInt8) : (bitsOf bytes).length = 8 * bytes.length := by
  induction bytes with
  | nil => rfl
  | cons byte rest ih =>
    rw [bitsOf_cons, List.length_append, ih, List.length_cons]
    simp only [bitsOf, List.flatMap_cons, List.flatMap_nil, List.append_nil, List.length_map,
      List.length_range]
    omega

/-- The first bits of two bytes agree exactly when a mask of them does. -/
theorem take_bitsOf_singleton_iff (first second : UInt8) {n : ℕ} (hn : n ≤ 8) :
    (bitsOf [first]).take n = (bitsOf [second]).take n ↔
      first.toNat &&& (0xff <<< (8 - n)) = second.toNat &&& (0xff <<< (8 - n)) := by
  have hbits (byte : UInt8) : (bitsOf [byte]).take n =
      (List.range n).map fun place ↦ byte.toNat.testBit (7 - place) := by
    simp [bitsOf, ← List.map_take, List.take_range, hn]
  rw [hbits, hbits, List.map_inj_left]
  have hmask (byte : UInt8) (place : ℕ) : (byte.toNat &&& (0xff <<< (8 - n))).testBit place =
      (byte.toNat.testBit place && decide (8 - n ≤ place ∧ place < 8)) := by
    have hbyte : byte.toNat < 2 ^ 8 := byte.toNat_lt
    rw [Nat.testBit_and, Nat.testBit_shiftLeft, Nat.testBit_two_pow_sub_one 8]
    by_cases hlarge : 8 ≤ place
    · rw [Nat.testBit_lt_two_pow (hbyte.trans_le (Nat.pow_le_pow_right (by omega) hlarge))]
      simp
    · have hwindow : (8 - n ≤ place ∧ place - (8 - n) < 8) ↔ (8 - n ≤ place ∧ place < 8) := by omega
      simp only [← Bool.decide_and, ge_iff_le, hwindow]
  constructor
  · intro hsame
    apply Nat.eq_of_testBit_eq
    intro place
    rw [hmask, hmask]
    by_cases hplace : 8 - n ≤ place ∧ place < 8
    · have hbit := hsame (7 - place) (List.mem_range.mpr (by omega))
      have hback : 7 - (7 - place) = place := by omega
      rw [hback] at hbit
      rw [hbit]
    · rw [decide_eq_false hplace, Bool.and_false, Bool.and_false]
  · intro hsame place hplace
    rw [List.mem_range] at hplace
    have hbit := congrArg (Nat.testBit · (7 - place)) hsame
    simp only [hmask] at hbit
    have hinside : 8 - n ≤ 7 - place ∧ 7 - place < 8 := by omega
    simpa only [hinside, and_self, decide_true, Bool.and_true] using hbit

theorem bitsOf_inj {first second : List UInt8} (hlength : first.length = second.length) :
    bitsOf first = bitsOf second ↔ first = second := by
  constructor
  · intro hsame
    induction first generalizing second with
    | nil => exact (List.length_eq_zero_iff.mp hlength.symm).symm
    | cons byte rest ih =>
      obtain ⟨byte', rest', rfl⟩ := List.exists_cons_of_length_eq_add_one hlength.symm
      rw [bitsOf_cons byte, bitsOf_cons byte'] at hsame
      obtain ⟨hbyte, hrest⟩ := List.append_inj hsame (by rw [length_bitsOf, length_bitsOf]; rfl)
      have hmasked := (take_bitsOf_singleton_iff byte byte' le_rfl).mp (by rw [hbyte])
      have hunmasked (b : UInt8) : b.toNat &&& (0xff <<< (8 - 8)) = b.toNat := by
        have hb : b.toNat < 2 ^ 8 := b.toNat_lt
        exact Nat.and_two_pow_sub_one_of_lt_two_pow hb
      rw [hunmasked, hunmasked] at hmasked
      rw [UInt8.toNat_inj.mp hmasked, ih (by simpa using hlength) hrest]
  · rintro rfl
    rfl

/-- The first bits of an address are those of its first bytes and the first ones of the next byte. -/
theorem take_bitsOf {bytes : List UInt8} {n : ℕ} (hn : n ≤ 8 * bytes.length) :
    (bitsOf bytes).take n =
      bitsOf (bytes.take (n / 8)) ++ (bitsOf [bytes.getD (n / 8) 0]).take (n % 8) := by
  have hfull : (bitsOf (bytes.take (n / 8))).length = 8 * (n / 8) := by
    rw [length_bitsOf, List.length_take]
    omega
  have hsplit : bitsOf bytes = bitsOf (bytes.take (n / 8)) ++ bitsOf (bytes.drop (n / 8)) := by
    rw [← bitsOf_append, List.take_append_drop]
  have hrest : n - (bitsOf (bytes.take (n / 8))).length = n % 8 := by omega
  rw [hsplit, List.take_append, List.take_of_length_le (by omega), hrest]
  congr 1
  by_cases hremainder : n % 8 = 0
  · rw [hremainder, List.take_zero, List.take_zero]
  · have hinside : n / 8 < bytes.length := by omega
    rw [List.drop_eq_getElem_cons hinside, bitsOf_cons, List.take_append_of_le_length,
      List.getD_eq_getElem _ _ hinside]
    rw [length_bitsOf, List.length_singleton]
    omega

/-- A range contains the addresses of its family that share its first bits. -/
theorem cidrContains_iff (cidr : Cidr) (ip : ParsedIp) : cidrContains cidr ip = true ↔
    cidr.address.bytes.length = ip.bytes.length ∧
      (bitsOf cidr.address.bytes).take cidr.prefixLength =
        (bitsOf ip.bytes).take cidr.prefixLength := by
  by_cases hfamily : cidr.address.bytes.length = ip.bytes.length
  · have hbounded := cidr.bounded
    have hbounded' := cidr.bounded
    rw [hfamily] at hbounded'
    have hwidth : (cidr.address.bytes.take (cidr.prefixLength / 8)).length =
        (ip.bytes.take (cidr.prefixLength / 8)).length := by
      rw [List.length_take, List.length_take, hfamily]
    have hparts : (bitsOf cidr.address.bytes).take cidr.prefixLength =
          (bitsOf ip.bytes).take cidr.prefixLength ↔
        cidr.address.bytes.take (cidr.prefixLength / 8) = ip.bytes.take (cidr.prefixLength / 8) ∧
          (bitsOf [cidr.address.bytes.getD (cidr.prefixLength / 8) 0]).take (cidr.prefixLength % 8) =
            (bitsOf [ip.bytes.getD (cidr.prefixLength / 8) 0]).take (cidr.prefixLength % 8) := by
      rw [take_bitsOf hbounded, take_bitsOf hbounded', ← bitsOf_inj hwidth]
      constructor
      · intro hsame
        exact List.append_inj hsame (by rw [length_bitsOf, length_bitsOf, hwidth])
      · rintro ⟨hfront, hlast⟩
        rw [hfront, hlast]
    rw [hparts]
    simp only [cidrContains, hfamily, ne_eq, not_true_eq_false, if_false, true_and]
    by_cases hfull : cidr.address.bytes.take (cidr.prefixLength / 8) =
        ip.bytes.take (cidr.prefixLength / 8)
    · by_cases hremainder : cidr.prefixLength % 8 = 0
      · simp [hfull, hremainder]
      · rw [take_bitsOf_singleton_iff _ _ (by omega)]
        simp [hfull, hremainder]
    · simp [hfull]
  · simp [cidrContains, hfamily]

/-! ### The list of trusted proxies -/

/-- The policy of a list of entries has the ranges that the entries name. -/
theorem mem_cidrs_iff {entries : List String} {policy : TrustedProxyPolicy}
    (hpolicy : TrustedProxyPolicy.of entries = .ok policy) (cidr : Cidr) :
    cidr ∈ policy.cidrs ↔
      ∃ index entry, entries[index]? = some entry ∧ parseCidr (index + 1) entry = .ok cidr := by
  unfold TrustedProxyPolicy.of at hpolicy
  generalize hcidrs : (entries.zipIdx.mapM _ : Except InvalidTrustedProxySpecError (List Cidr)) =
    parsed at hpolicy
  cases parsed with
  | error fault => exact absurd hpolicy (by simp [bind, Except.bind])
  | ok cidrs =>
    obtain rfl : TrustedProxyPolicy.mk cidrs = policy := Except.ok.inj hpolicy
    rw [mem_of_mapM_eq_ok hcidrs]
    constructor
    · rintro ⟨⟨entry, index⟩, hentry, hcidr⟩
      exact ⟨index, entry, List.mem_zipIdx_iff_getElem?.mp hentry, hcidr⟩
    · rintro ⟨index, entry, hentry, hcidr⟩
      exact ⟨(entry, index), List.mem_zipIdx_iff_getElem?.mpr hentry, hcidr⟩

/-- What an address's canonical text and a list of trusted proxies promise. -/
structure CanonicalAddresses : Prop where
  readBack (raw : String) (ip : ParsedIp) :
    parseIp raw = some ip → parseIp (canonicalIp ip) = some ip
  oneText (first second : String) (a b : ParsedIp) :
    parseIp first = some a → parseIp second = some b →
      (canonicalIp a = canonicalIp b ↔
        ∃ address, Denotes (addressText first) address ∧ Denotes (addressText second) address)
  trusted (entries : List String) (policy : TrustedProxyPolicy) (address : String) :
    TrustedProxyPolicy.of entries = .ok policy →
      (policy.isTrustedProxy address = true ↔
        ∃ ip, parseIp address = some ip ∧
          ∃ index entry cidr, entries[index]? = some entry ∧ parseCidr (index + 1) entry = .ok cidr ∧
            cidr.address.bytes.length = ip.bytes.length ∧
            (bitsOf cidr.address.bytes).take cidr.prefixLength =
              (bitsOf ip.bytes).take cidr.prefixLength)

theorem canonical_addresses : CanonicalAddresses where
  readBack _ ip _ := parseIp_canonicalIp ip
  oneText _ _ _ _ ha hb := canonicalIp_eq_iff ha hb
  trusted entries policy address hpolicy := by
    unfold TrustedProxyPolicy.isTrustedProxy
    cases parseIp address with
    | none => simp
    | some ip =>
      simp only [List.any_eq_true, mem_cidrs_iff hpolicy, cidrContains_iff, Option.some.injEq,
        exists_eq_left']
      constructor
      · rintro ⟨cidr, ⟨index, entry, hentry, hcidr⟩, hshared⟩
        exact ⟨index, entry, cidr, hentry, hcidr, hshared⟩
      · rintro ⟨index, entry, cidr, hentry, hcidr, hshared⟩
        exact ⟨cidr, ⟨index, entry, hentry, hcidr⟩, hshared⟩

end Karar.Platform
