import Mathlib.Data.List.Basic

/-!
# Codecs over characters

A codec writes a value as characters and reads it back off the front of a longer text. The law that
a value survives is a field, so that codecs compose without further proof. Every codec is
computable, and a read only looks at what was written.
-/

namespace Karar.Foundation

structure Codec (α : Type) where
  write : α → List Char
  read : List Char → Option (α × List Char)
  read_write : ∀ value rest, read (write value ++ rest) = some (value, rest)

namespace Codec

variable {α β : Type}

/-! ### Texts -/

/-- Each character is announced, the end as well. -/
def writeText : List Char → List Char
  | [] => ['.']
  | c :: rest => '|' :: c :: writeText rest

def readText : List Char → Option (List Char × List Char)
  | '.' :: rest => some ([], rest)
  | '|' :: c :: rest => (readText rest).map fun (text, rest) ↦ (c :: text, rest)
  | _ => none

theorem readText_writeText (text rest : List Char) :
    readText (writeText text ++ rest) = some (text, rest) := by
  induction text with
  | nil => rfl
  | cons c text ih =>
    show (readText (writeText text ++ rest)).map _ = _
    rw [ih]
    rfl

def text : Codec String where
  write value := writeText value.toList
  read input := (readText input).map fun (text, rest) ↦ (String.ofList text, rest)
  read_write value rest := by
    rw [readText_writeText]
    simp

/-! ### Numbers -/

/-- Binary digits, lowest first. The first argument bounds their number. -/
def writeDigits : ℕ → ℕ → List Char
  | 0, _ => ['.']
  | bound + 1, n =>
    if n = 0 then ['.'] else (if n % 2 = 1 then '1' else '0') :: writeDigits bound (n / 2)

def readDigits : List Char → Option (ℕ × List Char)
  | '.' :: rest => some (0, rest)
  | '1' :: rest => (readDigits rest).map fun (n, rest) ↦ (2 * n + 1, rest)
  | '0' :: rest => (readDigits rest).map fun (n, rest) ↦ (2 * n, rest)
  | _ => none

theorem readDigits_writeDigits (bound n : ℕ) (hbound : n ≤ bound) (rest : List Char) :
    readDigits (writeDigits bound n ++ rest) = some (n, rest) := by
  induction bound generalizing n with
  | zero =>
    have hzero : n = 0 := by omega
    subst hzero
    rfl
  | succ bound ih =>
    unfold writeDigits
    by_cases hzero : n = 0
    · subst hzero
      rfl
    rw [if_neg hzero]
    have hhalf := ih (n / 2) (by omega)
    by_cases hodd : n % 2 = 1
    · rw [if_pos hodd]
      show (readDigits (writeDigits bound (n / 2) ++ rest)).map _ = _
      rw [hhalf]
      simp only [Option.map_some, Option.some.injEq, Prod.mk.injEq, and_true]
      omega
    · rw [if_neg hodd]
      show (readDigits (writeDigits bound (n / 2) ++ rest)).map _ = _
      rw [hhalf]
      simp only [Option.map_some, Option.some.injEq, Prod.mk.injEq, and_true]
      omega

def nat : Codec ℕ where
  write n := writeDigits n n
  read := readDigits
  read_write n := readDigits_writeDigits n n (Nat.le_refl n)

def int : Codec Int where
  write
    | .ofNat n => '+' :: nat.write n
    | .negSucc n => '-' :: nat.write n
  read
    | '+' :: rest => (nat.read rest).map fun (n, rest) ↦ (.ofNat n, rest)
    | '-' :: rest => (nat.read rest).map fun (n, rest) ↦ (.negSucc n, rest)
    | _ => none
  read_write value rest := by
    match value with
    | .ofNat n =>
      show (nat.read (nat.write n ++ rest)).map _ = _
      rw [nat.read_write]
      rfl
    | .negSucc n =>
      show (nat.read (nat.write n ++ rest)).map _ = _
      rw [nat.read_write]
      rfl

/-! ### Composition -/

def option (codec : Codec α) : Codec (Option α) where
  write
    | none => ['-']
    | some value => '+' :: codec.write value
  read
    | '-' :: rest => some (none, rest)
    | '+' :: rest => (codec.read rest).map fun (value, rest) ↦ (some value, rest)
    | _ => none
  read_write value rest := by
    match value with
    | none => rfl
    | some value =>
      show (codec.read (codec.write value ++ rest)).map _ = _
      rw [codec.read_write]
      rfl

def pair (first : Codec α) (second : Codec β) : Codec (α × β) where
  write value := first.write value.1 ++ second.write value.2
  read input := (first.read input).bind fun (value, rest) ↦
    (second.read rest).map fun (other, rest) ↦ ((value, other), rest)
  read_write value rest := by
    rw [List.append_assoc, first.read_write, Option.bind_some]
    show (second.read (second.write value.2 ++ rest)).map _ = _
    rw [second.read_write]
    rfl

/-- Values that are rebuilt from their parts. -/
def iso (codec : Codec β) (parts : α → β) (build : β → α)
    (hbuild : ∀ value, build (parts value) = value) : Codec α where
  write value := codec.write (parts value)
  read input := (codec.read input).map fun (value, rest) ↦ (build value, rest)
  read_write value rest := by
    rw [codec.read_write]
    show some (build (parts value), rest) = _
    rw [hbuild]

end Codec

end Karar.Foundation
