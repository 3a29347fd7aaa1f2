import Mathlib.Data.List.Nodup
import Mathlib.Order.Fin.Basic

/-!
# Redaction of log objects

`redactLogObject` copies a log object before it is written, and puts a marker in the place of every
value under a credential-shaped key. The walk stops at a depth, and at every object it has seen
before. An `Error`, a `Date` and an object with a method `toJSON` are returned as they are.

Objects live in a graph: they can be shared and cyclic. Their properties are data. `render` is the
serialization of the enumerable fields of what is returned as it is; since that can be cyclic, it
goes to a depth.
-/

namespace Karar.Platform.Redaction

/-! ### Log objects -/

/-- A value that is no object. -/
inductive Primitive
  | string (value : String)
  /-- Any other one, by its literal. -/
  | other (literal : String)
deriving DecidableEq

inductive Value (n : ℕ)
  | primitive (primitive : Primitive)
  | object (id : Fin n)
deriving DecidableEq

/-- The kinds of objects with enumerable fields. An array has its items under their indexes. -/
inductive Kind
  | array
  | error
  | instance_
  | plain
deriving DecidableEq

inductive Node (n : ℕ)
  | fields (kind : Kind) (entries : List (String × Value n)) (distinct : (entries.map (·.1)).Nodup)
  /-- A `Date`, or an object with a method `toJSON`: what the method returns. -/
  | carrier (result : Value n)
deriving DecidableEq

/-- The objects of a log statement. -/
abbrev Graph (n : ℕ) := Fin n → Node n

/-! ### The walk -/

def credentialWords : List String :=
  ["password", "secret", "token", "authorization", "apikey", "api_key"]

/-- `REDACT_KEY_PATTERN`. -/
def isCredentialKey (key : String) : Bool :=
  credentialWords.any fun word ↦
    (key.toList.map Char.toLower).tails.any (word.toList.isPrefixOf ·)

def REDACTED : Primitive := .string "[redacted]"

def MAX_REDACTION_DEPTH : ℕ := 8

/-- What the walk returns. -/
inductive Redacted (n : ℕ)
  | primitive (primitive : Primitive)
  /-- An object as it is. -/
  | original (id : Fin n)
  /-- A copy, of an array or of an object with fields. -/
  | copy (isArray : Bool) (entries : List (String × Redacted n))

/-- `out[key] = value`: the key `__proto__` sets the prototype and leaves no field. -/
def assign {n : ℕ} (isArray : Bool) (key : String) (value : Redacted n)
    (out : List (String × Redacted n)) : List (String × Redacted n) :=
  if !isArray && key = "__proto__" then out else (key, value) :: out

/-- The loop over the entries of an object. The objects seen in one entry are seen in the next. -/
def redactEntries {n : ℕ} (walk : Value n → List (Fin n) → Redacted n × List (Fin n))
    (isArray : Bool) :
    List (String × Value n) → List (Fin n) → List (String × Redacted n) × List (Fin n)
  | [], seen => ([], seen)
  | (key, value) :: rest, seen =>
    if !isArray && isCredentialKey key then
      let (out, later) := redactEntries walk isArray rest seen
      (assign isArray key (.primitive REDACTED) out, later)
    else
      let (redacted, seen) := walk value seen
      let (out, later) := redactEntries walk isArray rest seen
      (assign isArray key redacted out, later)

/-- The walk, with the depth that is left to it. -/
def redactTree {n : ℕ} (graph : Graph n) :
    ℕ → Value n → List (Fin n) → Redacted n × List (Fin n)
  | _, .primitive primitive, seen => (.primitive primitive, seen)
  | remaining, .object id, seen =>
    if id ∈ seen then (.primitive (.string "[circular]"), seen)
    else
      match remaining with
      | 0 => (.primitive (.string "[depth-limit]"), seen)
      | remaining + 1 =>
        match graph id with
        | .carrier _ => (.original id, id :: seen)
        | .fields .error _ _ => (.original id, id :: seen)
        | .fields kind entries _ =>
          let (out, later) :=
            redactEntries (redactTree graph remaining) (kind = .array) entries (id :: seen)
          (.copy (kind = .array) out, later)

def redactLogObject {n : ℕ} (graph : Graph n) (object : Fin n) : Redacted n :=
  (redactTree graph MAX_REDACTION_DEPTH (.object object) []).1

/-! ### Serialization -/

/-- What is printed. -/
inductive Printed
  | leaf (primitive : Primitive)
  | node (isArray : Bool) (entries : List (String × Printed))
  /-- Beyond the depth. -/
  | deeper

/-- The serialization of a value as it is, to a depth. -/
def render {n : ℕ} (graph : Graph n) : ℕ → Value n → Printed
  | _, .primitive primitive => .leaf primitive
  | 0, .object _ => .deeper
  | depth + 1, .object id =>
    match graph id with
    | .carrier result => render graph depth result
    | .fields kind entries _ =>
      .node (kind = .array) (entries.map fun entry ↦ (entry.1, render graph depth entry.2))

theorem sizeOf_lt_copy {n : ℕ} {isArray : Bool} {entries : List (String × Redacted n)}
    {entry : String × Redacted n} (hentry : entry ∈ entries) :
    sizeOf entry.2 < sizeOf (Redacted.copy isArray entries) := by
  have hsize := List.sizeOf_lt_of_mem hentry
  obtain ⟨key, value⟩ := entry
  simp only [Prod.mk.sizeOf_spec] at hsize
  simp only [Redacted.copy.sizeOf_spec]
  omega

/-- The serialization of what the walk returns. What it has copied is printed whole. -/
def serialize {n : ℕ} (graph : Graph n) (depth : ℕ) : Redacted n → Printed
  | .primitive primitive => .leaf primitive
  | .original id => render graph depth (.object id)
  | .copy isArray entries =>
    .node isArray (entries.attach.map fun entry ↦ (entry.1.1, serialize graph depth entry.1.2))
termination_by out => sizeOf out
decreasing_by exact sizeOf_lt_copy entry.2

end Karar.Platform.Redaction
