import Mathlib.Data.Int.Order.Basic

/-!
# Shared kernel

The value types every module of the platform shares: instants, and the reference strings that the
modules brand. A `Date` is the number of milliseconds since the epoch that `getTime` reports, and
comparisons of dates are comparisons of these numbers.

A `UserId` is a string of UUID shape, 8-4-4-4-12 hexadecimal digits of either case, and so is a
`TenantId`. The types carry the shape, so that `of` and `parse` are the only ways to them.
-/

namespace Karar.SharedKernel

/-! ## Instants and reference strings -/

/-- A `Date`, as its `getTime` in milliseconds. -/
abbrev Instant := Int

/-- The characters that `String.prototype.trim` removes. -/
def isTrimmed (c : Char) : Bool :=
  c.val ∈ [0x9, 0xA, 0xB, 0xC, 0xD, 0x20, 0xA0, 0x1680, 0x2000, 0x2001, 0x2002, 0x2003, 0x2004,
    0x2005, 0x2006, 0x2007, 0x2008, 0x2009, 0x200A, 0x2028, 0x2029, 0x202F, 0x205F, 0x3000, 0xFEFF]

/-- `value.trim() === ''`. -/
def isBlank (value : String) : Bool := value.toList.all isTrimmed

/-- `InvalidReferenceError`, with its message. -/
structure InvalidReferenceError where
  message : String
deriving DecidableEq

/-- A reference string is accepted unless it is blank. -/
def requireRef (kind value : String) : Except InvalidReferenceError String :=
  if isBlank value then
    .error ⟨s!"{kind} requires a non-empty reference string"⟩
  else
    .ok value

theorem requireRef_eq_ok {kind value ref : String} (href : requireRef kind value = .ok ref) :
    ref = value ∧ isBlank value = false := by
  unfold requireRef at href
  split_ifs at href with hblank
  exact ⟨(Except.ok.inj href).symm, by simpa using hblank⟩

/-! ## User and tenant ids -/

def isHexDigit (c : Char) : Bool :=
  decide ('0' ≤ c ∧ c ≤ '9') || decide ('a' ≤ c ∧ c ≤ 'f') || decide ('A' ≤ c ∧ c ≤ 'F')

/-- Groups of hexadecimal digits of the given lengths, separated by hyphens. -/
def matchesHexGroups : List ℕ → List Char → Bool
  | [], rest => rest.isEmpty
  | [length], rest => rest.length == length && rest.all isHexDigit
  | length :: lengths, rest =>
    (rest.take length).length == length && (rest.take length).all isHexDigit &&
      rest[length]? == some '-' && matchesHexGroups lengths (rest.drop (length + 1))

/-- `UUID_SHAPE`. -/
def isUuid (value : String) : Bool := matchesHexGroups [8, 4, 4, 4, 12] value.toList

structure UserId where
  value : String
  shaped : isUuid value = true
deriving DecidableEq

/-- Validate external input. -/
def UserId.parse (value : String) : Option UserId :=
  if hshaped : isUuid value = true then some ⟨value, hshaped⟩ else none

@[simp] theorem UserId.parse_value (id : UserId) : UserId.parse id.value = some id := by
  unfold UserId.parse
  rw [dif_pos id.shaped]

/-- The tenant boundary as a type. -/
structure TenantId where
  value : String
  shaped : isUuid value = true
deriving DecidableEq

/-- Validate external input. -/
def TenantId.parse (value : String) : Option TenantId :=
  if hshaped : isUuid value = true then some ⟨value, hshaped⟩ else none

@[simp] theorem TenantId.parse_value (id : TenantId) : TenantId.parse id.value = some id := by
  unfold TenantId.parse
  rw [dif_pos id.shaped]

theorem TenantId.value_of_parse {value : String} {id : TenantId}
    (hparse : TenantId.parse value = some id) : id.value = value := by
  unfold TenantId.parse at hparse
  split_ifs at hparse
  exact congrArg TenantId.value (Option.some.inj hparse).symm

/-! ### The ids of scenarios -/

theorem isUuid_ones : isUuid "11111111-1111-4111-8111-111111111111" = true := by decide

theorem isUuid_twos : isUuid "22222222-2222-4222-8222-222222222222" = true := by decide

theorem isUuid_threes : isUuid "33333333-3333-4333-8333-333333333333" = true := by decide

theorem isUuid_fours : isUuid "44444444-4444-4444-8444-444444444444" = true := by decide

end Karar.SharedKernel
