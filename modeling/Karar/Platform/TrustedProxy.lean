import Karar.Platform.IpAddress

/-!
# The trusted-proxy policy

`TrustedProxyPolicy.resolveClientIp` derives the address of the client from the socket peer and the
`X-Forwarded-For` header. The peer's address is the answer unless the peer is a trusted proxy; then
the header is walked from its right end, past the hops that are trusted proxies themselves, to the
first hop that is not (`walk`).

Everything to the left of that hop may be written by the client. A hop that is not a trusted proxy,
or that is no address at all, stops the walk (`stops`), so the walk sees the hops from the rightmost
stopping one on (`decidingHops`, `walk_eq_of_decidingHops`), and what is written further left does not
reach the answer (`resolveClientIp_noninterference`).
-/

namespace Karar.Platform

open Karar.Foundation Karar.SharedKernel

/-! ### The policy -/

/-- `InvalidTrustedProxySpecError`, with its message. -/
structure InvalidTrustedProxySpecError where
  message : String
deriving DecidableEq

/-- The allow-list of proxies. -/
structure TrustedProxyPolicy where
  cidrs : List Cidr
deriving DecidableEq

/-- `TRUSTED_PROXIES_ENV_VAR`. -/
def trustedProxiesEnvVar : String := "KARAR_TRUSTED_PROXIES"

/-- A prefix length of one to three digits. -/
def parsePrefixLength (digits : List Char) : Option Nat :=
  if 1 ≤ digits.length ∧ digits.length ≤ 3 ∧ digits.all Char.isDigit then
    some (Nat.ofDigitChars 10 digits 0)
  else
    none

/-- The range an entry names, or why it names none. An entry without a prefix length names one
address. -/
def parseCidr (position : Nat) (entry : String) : Except InvalidTrustedProxySpecError Cidr :=
  let label := s!"{trustedProxiesEnvVar} entry #{position}"
  match entry.toList.splitOn '/' with
  | [] | _ :: _ :: _ :: _ => .error ⟨s!"{label} is not a valid CIDR or address"⟩
  | addressPart :: prefixPart =>
    if addressPart = [] then .error ⟨s!"{label} is not a valid CIDR or address"⟩
    else
      match parseIp (String.ofList addressPart) with
      | none => .error ⟨s!"{label} is not a valid CIDR or address"⟩
      | some address =>
        match prefixPart.head? with
        | none => .ok ⟨address, 8 * address.bytes.length, le_refl _⟩
        | some digits =>
          match parsePrefixLength digits with
          | none => .error ⟨s!"{label} has a malformed prefix length"⟩
          | some length =>
            if hbounded : length ≤ 8 * address.bytes.length then
              .ok ⟨address, length, hbounded⟩
            else
              .error ⟨s!"{label} prefix exceeds the address family width"⟩

/-- The constructor of the policy: every entry names a range, and the first that does not is
reported by its position. -/
def TrustedProxyPolicy.of (entries : List String) :
    Except InvalidTrustedProxySpecError TrustedProxyPolicy := do
  let cidrs ← entries.zipIdx.mapM fun (entry, index) ↦ parseCidr (index + 1) entry
  pure ⟨cidrs⟩

namespace TrustedProxyPolicy

variable (policy : TrustedProxyPolicy)

def isTrustedProxy (address : String) : Bool :=
  match parseIp address with
  | none => false
  | some parsed => policy.cidrs.any fun cidr ↦ cidrContains cidr parsed

/-! ### The client address -/

/-- The `X-Forwarded-For` header: absent, one value, or the values of several header lines. -/
inductive ForwardedFor
  | absent
  | value (text : String)
  | values (texts : List String)
deriving DecidableEq

/-- The header's values, one for each of its lines. -/
def ForwardedFor.lines : ForwardedFor → List String
  | absent => []
  | value text => [text]
  | values texts => texts

/-- `ResolveClientIpInput`. -/
structure ResolveClientIpInput where
  socketAddress : Option String
  xForwardedFor : ForwardedFor

/-- `ResolvedClientIp`. -/
structure ResolvedClientIp where
  clientIp : String
  fromTrustedProxy : Bool
deriving DecidableEq

/-- The hops a header names, in the order in which it names them. -/
def hops (header : ForwardedFor) : List String :=
  (fields ',' isTrimmed (header.lines.map String.toList)).map String.ofList

/-- The loop over the hops, the rightmost first. The hop before it, when there is one, was a trusted
proxy. -/
def walk (fallback : ResolvedClientIp) : List String → Option ParsedIp → ResolvedClientIp
  | [], none => fallback
  | [], some leftmostTrusted => ⟨canonicalIp leftmostTrusted, true⟩
  | hop :: left, _ =>
    match parseIp hop with
    | none => fallback
    | some parsed =>
      if policy.isTrustedProxy (canonicalIp parsed) = false then ⟨canonicalIp parsed, true⟩
      else walk fallback left (some parsed)

/-- The peer's address as it is reported when no header is believed. -/
def peerCanonical (socketAddress : Option String) : String :=
  match parseIp (socketAddress.getD "") with
  | none => "unknown"
  | some peer => canonicalIp peer

/-- Whether the socket peer may be believed about the header. -/
def trustsPeer (socketAddress : Option String) : Bool :=
  match parseIp (socketAddress.getD "") with
  | none => false
  | some peer => policy.isTrustedProxy (canonicalIp peer)

def resolveClientIp (input : ResolveClientIpInput) : ResolvedClientIp :=
  let fallback : ResolvedClientIp := ⟨peerCanonical input.socketAddress, false⟩
  if policy.trustsPeer input.socketAddress = false then fallback
  else policy.walk fallback (hops input.xForwardedFor).reverse none

/-! ### What the walk sees -/

/-- A hop that is no address, or not the address of a trusted proxy, ends the walk. -/
def stops (hop : String) : Bool :=
  match parseIp hop with
  | none => true
  | some parsed => !policy.isTrustedProxy (canonicalIp parsed)

/-- The hops from the rightmost one that ends the walk to the right end, or all of them when none
does. -/
def decidingHops : List String → List String
  | [] => []
  | hop :: right => if right.any policy.stops then decidingHops right else hop :: right

variable {policy}

/-- What stands to the left of a stopping hop does not decide. -/
theorem decidingHops_append {left right : List String} (hright : right.any policy.stops = true) :
    policy.decidingHops (left ++ right) = policy.decidingHops right := by
  induction left with
  | nil => rfl
  | cons hop left ih =>
    have hrest : (left ++ right).any policy.stops = true := by
      rw [List.any_append, hright, Bool.or_true]
    rw [List.cons_append, decidingHops, if_pos hrest, ih]

/-- The walk is over once it has met a stopping hop: what it meets afterwards does not change its
answer. -/
theorem walk_append {fallback : ResolvedClientIp} {met : List String}
    (hmet : met.any policy.stops = true) (left : List String) (last : Option ParsedIp) :
    policy.walk fallback (met ++ left) last = policy.walk fallback met last := by
  induction met generalizing last with
  | nil => simp at hmet
  | cons hop met ih =>
    rw [List.any_cons, Bool.or_eq_true] at hmet
    rw [List.cons_append, walk, walk]
    cases hparsed : parseIp hop with
    | none => rfl
    | some parsed =>
      by_cases htrusted : policy.isTrustedProxy (canonicalIp parsed) = false
      · simp only [if_pos htrusted]
      · simp only [if_neg htrusted]
        have hgoes : policy.stops hop = false := by simpa [stops, hparsed] using htrusted
        rw [hgoes] at hmet
        have hlater : met.any policy.stops = true := by simpa using hmet
        exact ih hlater (some parsed)

/-- The walk answers from the deciding hops alone. -/
theorem walk_decidingHops (fallback : ResolvedClientIp) (hops : List String) :
    policy.walk fallback (policy.decidingHops hops).reverse none =
      policy.walk fallback hops.reverse none := by
  induction hops with
  | nil => rfl
  | cons hop right ih =>
    rw [decidingHops]
    split_ifs with hstops
    · have hmet : right.reverse.any policy.stops = true := by rw [List.any_reverse, hstops]
      rw [ih, List.reverse_cons, walk_append hmet]
    · rfl

/-- The client address of a trusted peer's request depends on the deciding hops of its header
alone. -/
theorem resolveClientIp_congr {socketAddress : Option String} {first second : ForwardedFor}
    (hsame : policy.decidingHops (hops first) = policy.decidingHops (hops second)) :
    policy.resolveClientIp ⟨socketAddress, first⟩ = policy.resolveClientIp ⟨socketAddress, second⟩ := by
  simp only [resolveClientIp]
  rw [← walk_decidingHops, hsame, walk_decidingHops]

/-! ### Spellings of a header -/

/-- Two headers that spell one list of hops: lines are broken at commas or joined by them, and hops
without any text are added or left out. -/
def SameList (first second : ForwardedFor) : Prop :=
  Foundation.Respelled ',' isTrimmed (first.lines.map String.toList) (second.lines.map String.toList)

/-- `WrittenLeftOf rest header`: the header is `rest` with text of any kind to its left, cut off from
it by a comma or by the end of a line. -/
def WrittenLeftOf (rest : List String) (header : ForwardedFor) : Prop :=
  Extended ',' (rest.map String.toList) (header.lines.map String.toList)

theorem hops_of_sameList {first second : ForwardedFor} (hsame : SameList first second) :
    hops first = hops second := by
  rw [hops, hops, fields_of_respelled ',' isTrimmed hsame]

theorem hops_of_writtenLeftOf {rest : List String} {header : ForwardedFor}
    (hwritten : WrittenLeftOf rest header) :
    ∃ left, hops header = left ++ hops (.values rest) := by
  obtain ⟨left, hleft⟩ := fields_of_extended ',' isTrimmed hwritten
  refine ⟨left.map String.ofList, ?_⟩
  rw [hops, hops, hleft, List.map_append]
  rfl

/-- An untrusted peer's header does not reach the answer. A trusted peer's header reaches it through
the hops from the rightmost untrusted or malformed one on: with such a hop in `rest`, any two texts to
the left of `rest` give one answer, and so do any two spellings of one list of hops. -/
theorem resolveClientIp_noninterference (policy : TrustedProxyPolicy) (socketAddress : Option String) :
    (policy.trustsPeer socketAddress = false → ∀ first second : ForwardedFor,
      policy.resolveClientIp ⟨socketAddress, first⟩ =
        policy.resolveClientIp ⟨socketAddress, second⟩) ∧
    (∀ first second : ForwardedFor,
      policy.decidingHops (hops first) = policy.decidingHops (hops second) →
      policy.resolveClientIp ⟨socketAddress, first⟩ =
        policy.resolveClientIp ⟨socketAddress, second⟩) ∧
    (∀ (rest : List String) (first second : ForwardedFor),
      (∃ hop ∈ hops (.values rest), policy.stops hop = true) →
      WrittenLeftOf rest first → WrittenLeftOf rest second →
      policy.resolveClientIp ⟨socketAddress, first⟩ =
        policy.resolveClientIp ⟨socketAddress, second⟩) ∧
    (∀ first second : ForwardedFor, SameList first second →
      policy.resolveClientIp ⟨socketAddress, first⟩ =
        policy.resolveClientIp ⟨socketAddress, second⟩) := by
  refine ⟨?_, ?_, ?_, ?_⟩
  · intro huntrusted first second
    simp only [resolveClientIp, if_pos huntrusted]
  · intro first second hsame
    exact resolveClientIp_congr hsame
  · intro rest first second hstops hfirst hsecond
    have hright : (hops (.values rest)).any policy.stops = true := List.any_eq_true.mpr hstops
    obtain ⟨firstLeft, hfirst⟩ := hops_of_writtenLeftOf hfirst
    obtain ⟨secondLeft, hsecond⟩ := hops_of_writtenLeftOf hsecond
    apply resolveClientIp_congr
    rw [hfirst, hsecond, decidingHops_append hright, decidingHops_append hright]
  · intro first second hsame
    apply resolveClientIp_congr
    rw [hops_of_sameList hsame]

/-- Behind the range `10.0.0.0/8` a client that spoofs hops, in one header line or in two, is resolved
to the address that the proxy has appended. -/
theorem resolveClientIp_noninterference_spoofed :
    TrustedProxyPolicy.of ["10.0.0.0/8"] = .ok ⟨[⟨ipv4 [10, 0, 0, 0] rfl, 8, by decide⟩]⟩ ∧
    resolveClientIp ⟨[⟨ipv4 [10, 0, 0, 0] rfl, 8, by decide⟩]⟩
        ⟨some "10.0.0.5", .value "6.6.6.6, 198.51.100.9"⟩ = ⟨"198.51.100.9", true⟩ ∧
    resolveClientIp ⟨[⟨ipv4 [10, 0, 0, 0] rfl, 8, by decide⟩]⟩
        ⟨some "10.0.0.5", .value "6.6.6.6, 198.51.100.9"⟩ =
      resolveClientIp ⟨[⟨ipv4 [10, 0, 0, 0] rfl, 8, by decide⟩]⟩
        ⟨some "10.0.0.5", .values ["10.0.0.99", "spoofed, 198.51.100.9"]⟩ := by
  refine ⟨by decide, by decide, ?_⟩
  apply (resolveClientIp_noninterference _ _).2.2.1 [" 198.51.100.9"]
  · exact ⟨"198.51.100.9", by decide, by decide⟩
  · have hleft : Extended ',' [" 198.51.100.9".toList]
        ["6.6.6.6".toList ++ ',' :: " 198.51.100.9".toList] := .separated [] _ _ []
    simpa [WrittenLeftOf, ForwardedFor.lines] using hleft
  · have hleft : Extended ',' [" 198.51.100.9".toList]
        ["10.0.0.99".toList, "spoofed".toList ++ ',' :: " 198.51.100.9".toList] :=
      .separated ["10.0.0.99".toList] _ _ []
    simpa [WrittenLeftOf, ForwardedFor.lines] using hleft

end TrustedProxyPolicy

end Karar.Platform
