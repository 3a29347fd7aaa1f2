import Karar.SharedKernel.Basic
import Karar.Foundation.FieldList
import Mathlib.Data.Nat.Bitwise

/-!
# Internet addresses and address ranges

The address arithmetic of the trusted-proxy policy. `parseIp` reads the text of an address of either
family into its bytes, four or sixteen of them, and reads an IPv6 address that only wraps an IPv4
one as the IPv4 address. `canonicalIp` writes an address in the one form that digests and logs
receive, and `cidrContains` matches an address against a range. A `ParsedIp` carries the width of its
bytes and a `Cidr` the bound on its prefix, so that neither can be built out of shape.
-/

namespace Karar.Platform

open Karar.Foundation Karar.SharedKernel

/-! ### Bytes of an address -/

/-- `V4_MAPPED_PREFIX`. -/
def v4MappedPrefix : List UInt8 := [0, 0, 0, 0, 0, 0, 0, 0, 0, 0, 0xff, 0xff]

/-- An IPv6 address that wraps an IPv4 one, `::ffff:a.b.c.d`. -/
def isV4Mapped (bytes : List UInt8) : Bool :=
  bytes.length == 16 && bytes.take 12 == v4MappedPrefix

/-- An address as its bytes: four of them, or sixteen that do not wrap four. -/
structure ParsedIp where
  bytes : List UInt8
  shaped : bytes.length = 4 ∨ bytes.length = 16 ∧ isV4Mapped bytes = false
deriving DecidableEq

/-- One decimal group of an IPv4 address: one to three digits that spell at most 255. -/
def parseOctet (digits : List Char) : Option UInt8 :=
  if 1 ≤ digits.length ∧ digits.length ≤ 3 ∧ digits.all Char.isDigit then
    let octet := Nat.ofDigitChars 10 digits 0
    if 255 < octet then none else some (UInt8.ofNat octet)
  else
    none

/-- Four decimal groups with dots between them. -/
def parseIpv4 (raw : List Char) : Option (List UInt8) :=
  match raw.splitOn '.' with
  | [first, second, third, fourth] => do
    let first ← parseOctet first
    let second ← parseOctet second
    let third ← parseOctet third
    let fourth ← parseOctet fourth
    some [first, second, third, fourth]
  | _ => none

/-- The value of a hexadecimal digit of either case. -/
def hexDigitValue (c : Char) : Nat :=
  if c.isDigit then c.toNat - '0'.toNat
  else if 'a' ≤ c then c.toNat - 'a'.toNat + 10
  else c.toNat - 'A'.toNat + 10

/-- One group of an IPv6 address: one to four hexadecimal digits. -/
def parseGroup (digits : List Char) : Option Nat :=
  if 1 ≤ digits.length ∧ digits.length ≤ 4 ∧ digits.all isHexDigit then
    some (digits.foldl (fun value c ↦ 16 * value + hexDigitValue c) 0)
  else
    none

/-- The groups of one side of a `::`, separated by colons; an empty side has none. -/
def parseGroups (part : List Char) : Option (List Nat) :=
  if part = [] then some [] else (part.splitOn ':').mapM parseGroup

/-- `head.split('::')`. -/
def splitDoubleColon : List Char → List (List Char)
  | [] => [[]]
  | ':' :: ':' :: rest => [] :: splitDoubleColon rest
  | c :: rest => (splitDoubleColon rest).modifyHead (c :: ·)

/-- The eight groups of an IPv6 address, the omitted ones filled in with zeros. -/
def expandGroups (head : List Char) : Option (List Nat) :=
  match splitDoubleColon head with
  | [whole] => do
    let groups ← parseGroups whole
    if groups.length = 8 then some groups else none
  | [left, right] => do
    let left ← parseGroups left
    let right ← parseGroups right
    -- A `::` stands for at least one group.
    if left.length + right.length < 8 then
      some (left ++ List.replicate (8 - left.length - right.length) 0 ++ right)
    else
      none
  | _ => none

/-- The two bytes of a group. -/
def groupBytes (group : Nat) : List UInt8 := [UInt8.ofNat (group >>> 8), UInt8.ofNat (group &&& 0xff)]

/-- The text from the last colon on, and the text before it. -/
def lastColonSplit (text : List Char) : List Char × List Char :=
  (text.rdropWhile (· != ':'), text.rtakeWhile (· != ':'))

/-- Eight groups of sixteen bits, the last two of them possibly written as an IPv4 address. -/
def parseIpv6 (raw : List Char) : Option (List UInt8) :=
  -- The zone index of a link-local address is not looked at.
  let zoneless := raw.takeWhile (· != '%')
  if ':' ∉ zoneless then none
  else
    let (upToColon, tail) := lastColonSplit zoneless
    if '.' ∈ tail then do
      let embeddedV4 ← parseIpv4 tail
      -- The embedded address holds the place of two groups.
      let groups ← expandGroups (upToColon ++ ['0', ':', '0'])
      some ((groups.flatMap groupBytes).take 12 ++ embeddedV4)
    else do
      let groups ← expandGroups zoneless
      some (groups.flatMap groupBytes)

/-! ### The shape of what is parsed -/

theorem parseIpv4_length {raw : List Char} {bytes : List UInt8} (hbytes : parseIpv4 raw = some bytes) :
    bytes.length = 4 := by
  unfold parseIpv4 at hbytes
  split at hbytes
  · simp only [Option.bind_eq_bind, Option.bind_eq_some_iff, Option.some.injEq] at hbytes
    obtain ⟨first, -, second, -, third, -, fourth, -, rfl⟩ := hbytes
    rfl
  · exact absurd hbytes (by simp)

theorem expandGroups_length {head : List Char} {groups : List Nat}
    (hgroups : expandGroups head = some groups) : groups.length = 8 := by
  unfold expandGroups at hgroups
  split at hgroups
  · simp only [Option.bind_eq_bind, Option.bind_eq_some_iff] at hgroups
    obtain ⟨whole, -, hwhole⟩ := hgroups
    split_ifs at hwhole with hlength
    rw [← Option.some.inj hwhole]
    exact hlength
  · simp only [Option.bind_eq_bind, Option.bind_eq_some_iff] at hgroups
    obtain ⟨left, -, right, -, hfilled⟩ := hgroups
    split_ifs at hfilled with hroom
    rw [← Option.some.inj hfilled, List.length_append, List.length_append, List.length_replicate]
    omega
  · exact absurd hgroups (by simp)

theorem length_flatMap_groupBytes (groups : List Nat) :
    (groups.flatMap groupBytes).length = 2 * groups.length := by
  induction groups with
  | nil => rfl
  | cons group rest ih =>
    rw [List.flatMap_cons, List.length_append, ih, List.length_cons]
    simp only [groupBytes, List.length_cons, List.length_nil]
    omega

theorem parseIpv6_length {raw : List Char} {bytes : List UInt8} (hbytes : parseIpv6 raw = some bytes) :
    bytes.length = 16 := by
  simp only [parseIpv6] at hbytes
  split_ifs at hbytes with hcolon hdot
  · simp only [Option.bind_eq_bind, Option.bind_eq_some_iff, Option.some.injEq] at hbytes
    obtain ⟨embedded, hembedded, groups, hgroups, rfl⟩ := hbytes
    have hembedded := parseIpv4_length hembedded
    have hgroups := expandGroups_length hgroups
    rw [List.length_append, List.length_take, length_flatMap_groupBytes]
    omega
  · simp only [Option.bind_eq_bind, Option.bind_eq_some_iff, Option.some.injEq] at hbytes
    obtain ⟨groups, hgroups, rfl⟩ := hbytes
    rw [length_flatMap_groupBytes, expandGroups_length hgroups]

/-! ### Addresses -/

/-- The brackets that proxies write around an IPv6 address are left out. -/
def stripBrackets (text : List Char) : List Char :=
  let opened := if text.head? = some '[' then text.tail else text
  if opened.getLast? = some ']' then opened.dropLast else opened

/-- The IPv4 address of four bytes. -/
def ipv4 (bytes : List UInt8) (hlength : bytes.length = 4) : ParsedIp := ⟨bytes, .inl hlength⟩

/-- The address of sixteen bytes: the last four of them when they only wrap an IPv4 address. -/
def ipv6 (bytes : List UInt8) (hlength : bytes.length = 16) : ParsedIp :=
  if hmapped : isV4Mapped bytes = true then
    ⟨bytes.drop 12, .inl (by rw [List.length_drop, hlength])⟩
  else
    ⟨bytes, .inr ⟨hlength, by simpa using hmapped⟩⟩

/-- Parses the text of an address of either family. -/
def parseIp (raw : String) : Option ParsedIp :=
  let trimmed := stripBrackets (trim isTrimmed raw.toList)
  match hv4 : parseIpv4 trimmed with
  | some bytes => some (ipv4 bytes (parseIpv4_length hv4))
  | none =>
    match hv6 : parseIpv6 trimmed with
    | some bytes => some (ipv6 bytes (parseIpv6_length hv6))
    | none => none

/-- Consecutive bytes, two by two. -/
def bytePairs : List UInt8 → List Nat
  | high :: low :: rest => (high.toNat <<< 8 ||| low.toNat) :: bytePairs rest
  | _ => []

/-- The one text of an address that digests, rate-limit keys and logs receive. -/
def canonicalIp (ip : ParsedIp) : String :=
  if ip.bytes.length = 4 then
    ".".intercalate (ip.bytes.map fun byte ↦ byte.toNat.repr)
  else
    ":".intercalate ((bytePairs ip.bytes).map fun group ↦ String.ofList (Nat.toDigits 16 group))

/-! ### Ranges -/

/-- A range of addresses: those that share the first `prefixLength` bits of `bytes`. -/
structure Cidr where
  address : ParsedIp
  prefixLength : Nat
  bounded : prefixLength ≤ 8 * address.bytes.length
deriving DecidableEq

/-- Whether an address lies in a range. The two families never match. -/
def cidrContains (cidr : Cidr) (ip : ParsedIp) : Bool :=
  if cidr.address.bytes.length ≠ ip.bytes.length then false
  else
    let fullBytes := cidr.prefixLength / 8
    if cidr.address.bytes.take fullBytes ≠ ip.bytes.take fullBytes then false
    else
      let remainder := cidr.prefixLength % 8
      if remainder = 0 then true
      else
        let mask := 0xff <<< (8 - remainder)
        ((cidr.address.bytes.getD fullBytes 0).toNat &&& mask) ==
          ((ip.bytes.getD fullBytes 0).toNat &&& mask)

example : (parseIp "::ffff:10.0.0.5").map canonicalIp = some "10.0.0.5" := by decide

example : (parseIp "[2001:DB8::1%eth0]").map canonicalIp = some "2001:db8:0:0:0:0:0:1" := by
  decide

end Karar.Platform
