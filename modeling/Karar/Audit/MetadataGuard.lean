import Karar.Foundation.LetterCase
import Karar.Platform.Migrations

/-!
# The guard of audit metadata

Audit rows hold identifiers, statuses and small scalars. `AuditMetadataGuard.apply` takes the metadata
of a caller, key by key: a key that matches a secret pattern, a sealed or secret value and a nested
value are refused, a value classified as financial is replaced by a marker unless its key is shaped like
an identifier, and a financial key must not carry an unclassified value. What remains is refused when
its JSON text is too long.
-/

namespace Karar.Audit

open Karar.Foundation Karar.Platform

/-! ### Classification -/

/-- `DATA_CLASSIFICATIONS`. -/
inductive DataClassification
  | public_
  | internal
  | confidential
  | highlySensitiveFinancial
  | secret
  | sealed
deriving DecidableEq

def REDACTED_SEALED : String := "[sealed]"
def REDACTED_SECRET : String := "[redacted:secret]"
def REDACTED_HSF : String := "[redacted:hsf]"

def redactionFor : DataClassification → Option String
  | .sealed => some REDACTED_SEALED
  | .secret => some REDACTED_SECRET
  | .highlySensitiveFinancial => some REDACTED_HSF
  | .public_ | .internal | .confidential => none

/-! ### Metadata -/

inductive Scalar
  | null
  | boolean (value : Bool)
  /-- A number, by the text that JSON writes for it. -/
  | number (json : String)
  | string (value : String)
deriving DecidableEq

/-- A value without its classification. -/
inductive Unwrapped
  | scalar (value : Scalar)
  | nested (isArray : Bool)
deriving DecidableEq

inductive RawValue
  | unclassified (value : Unwrapped)
  /-- `ClassifiedMetadataValue`. -/
  | classified (classification : DataClassification) (value : Unwrapped)
deriving DecidableEq

def RawValue.classification : RawValue → Option DataClassification
  | .unclassified _ => none
  | .classified classification _ => some classification

def RawValue.value : RawValue → Unwrapped
  | .unclassified value => value
  | .classified _ value => value

/-- The entries of an object: no two have one key. -/
structure AuditMetadataInput where
  entries : List (String × RawValue)
  distinct : (entries.map (·.1)).Nodup

abbrev AuditMetadata := List (String × Scalar)

/-! ### Keys -/

/-- A lower-case letter or a digit, and then a capital. -/
def isCaseBoundary (c d : Char) : Bool := (c.isLower || c.isDigit) && d.isUpper

/-- `replace(/([a-z0-9])([A-Z])/g, '$1_$2')`: the capital of one match begins no other. -/
def separateCases : List Char → List Char
  | c :: d :: rest =>
    if isCaseBoundary c d then c :: '_' :: separateCases (d :: rest) else c :: separateCases (d :: rest)
  | text => text

def normalizeKey (data : CaseData) (key : List Char) : List Char :=
  data.toLowerCase ((separateCases key).map fun c ↦ if c = '-' then '_' else c)

/-- `first_?second`. -/
def withOptionalMark (first second : String) : List (List Char) :=
  [first.toList ++ second.toList, first.toList ++ '_' :: second.toList]

/-- The alternatives of `SECRET_KEY_PATTERN`. -/
def secretAlternatives : List (List Char) :=
  ["password".toList, "passwd".toList, "secret".toList, "token".toList] ++
    withOptionalMark "api" "key" ++ withOptionalMark "private" "key" ++
    ["credential".toList, "credentials".toList, "authorization".toList, "bearer".toList,
      "jwt".toList] ++ withOptionalMark "signing" "key"

/-- The alternatives of `FINANCIAL_KEY_PATTERN`. -/
def financialAlternatives : List (List Char) :=
  ["iban".toList] ++ withOptionalMark "account" "number" ++ withOptionalMark "card" "number" ++
    ["pan".toList, "amount".toList, "amounts".toList, "balance".toList, "balances".toList] ++
    withOptionalMark "minor" "units"

/-- `(?:_|$)`. -/
def endsWord : List Char → Bool
  | [] => true
  | c :: _ => c == '_'

/-- `(?:alternatives)(?:_|$)`, at the start of a text. -/
def startsWith (alternatives : List (List Char)) (text : List Char) : Bool :=
  alternatives.any fun alternative ↦
    alternative.isPrefixOf text && endsWord (text.drop alternative.length)

/-- `/(?:^|_)(?:alternatives)(?:_|$)/.test(text)`. -/
def testPattern (alternatives : List (List Char)) (text : List Char) : Bool :=
  startsWith alternatives text ||
    text.tails.any fun rest ↦ rest.head? == some '_' && startsWith alternatives rest.tail

/-- `IDENTIFIER_KEY_PATTERN.test(text)`. -/
def isIdentifierKey (text : List Char) : Bool :=
  text == "id".toList || "_id".toList.isSuffixOf text || "_ref".toList.isSuffixOf text ||
    text == "status".toList || text == "state".toList || "_at".toList.isSuffixOf text

/-! ### The guard -/

/-- Why a key is refused. -/
inductive Violation
  | secretKey
  | sealedValue
  | secretValue
  | nestedValue (isArray : Bool)
  | unclassifiedFinancial
deriving DecidableEq

def Violation.message (key : String) : Violation → String
  | .secretKey => s!"metadata key '{key}' matches a secret pattern; credentials never enter an audit " ++
      "record, redacted or otherwise"
  | .sealedValue => s!"metadata key '{key}' carries a SEALED value; sealed content never appears in " ++
      "an audit record — record the ref, not the content"
  | .secretValue => s!"metadata key '{key}' carries a SECRET value; secrets never enter an audit record"
  | .nestedValue isArray =>
      s!"metadata key '{key}' carries a nested " ++ (if isArray then "array" else "object") ++ "; " ++
      "audit metadata is identifiers, statuses, and small scalars — full payloads are rejected by " ++
      "design"
  | .unclassifiedFinancial => s!"metadata key '{key}' is financial-shaped but its value is " ++
      "unclassified; pass it as \x7b classification: 'HIGHLY_SENSITIVE_FINANCIAL', value \x7d " ++
      "(stored redacted) or record an identifier instead"

structure AuditMetadataViolation where
  key : Option String
  message : String
deriving DecidableEq

/-- The body of the loop: what is stored under a key, or why the key is refused. -/
def judge (data : CaseData) (key : String) (raw : RawValue) : Except Violation Scalar :=
  if testPattern secretAlternatives (normalizeKey data key.toList) then .error .secretKey
  else if raw.classification = some .sealed then .error .sealedValue
  else if raw.classification = some .secret then .error .secretValue
  else match raw.value with
    | .nested isArray => .error (.nestedValue isArray)
    | .scalar value =>
      if raw.classification = some .highlySensitiveFinancial then
        if isIdentifierKey (normalizeKey data key.toList) then .ok value
        else .ok ((redactionFor .highlySensitiveFinancial).elim .null .string)
      else if testPattern financialAlternatives (normalizeKey data key.toList) &&
          !isIdentifierKey (normalizeKey data key.toList) then .error .unclassifiedFinancial
      else .ok value

/-- The loop. Assigning a scalar to `__proto__` stores nothing. -/
def sanitize (data : CaseData) :
    List (String × RawValue) → Except AuditMetadataViolation AuditMetadata
  | [] => .ok []
  | (key, raw) :: rest =>
    match judge data key raw with
    | .error violation => .error { key := some key, message := violation.message key }
    | .ok value =>
      match sanitize data rest with
      | .error violation => .error violation
      | .ok sanitized => .ok (if key = "__proto__" then sanitized else (key, value) :: sanitized)

def MAX_METADATA_BYTES : ℕ := 4096

/-- `JSON.stringify(value)`. -/
def Scalar.stringify : Scalar → String
  | .null => "null"
  | .boolean value => if value then "true" else "false"
  | .number json => json
  | .string value => jsonStringify value

/-- `JSON.stringify(sanitized)`. -/
def stringifyMetadata (sanitized : AuditMetadata) : String :=
  "\x7b" ++ ",".intercalate (sanitized.map fun (key, value) ↦
    jsonStringify key ++ ":" ++ value.stringify) ++ "\x7d"

/-- `new TextEncoder().encode(JSON.stringify(sanitized)).length`. -/
def serializedSize (sanitized : AuditMetadata) : ℕ := (stringifyMetadata sanitized).utf8ByteSize

def sizeViolation (size : ℕ) : AuditMetadataViolation where
  key := none
  message := s!"metadata serializes to {size} bytes (limit {MAX_METADATA_BYTES}); " ++
    "a payload-sized blob is a payload — record identifiers and fetch state from the owning module"

/-- `AuditMetadataGuard.apply`. -/
def apply (data : CaseData) (metadata : Option AuditMetadataInput) :
    Except AuditMetadataViolation (Option AuditMetadata) :=
  match metadata with
  | none => .ok none
  | some metadata =>
    match sanitize data metadata.entries with
    | .error violation => .error violation
    | .ok sanitized =>
      if MAX_METADATA_BYTES < serializedSize sanitized then
        .error (sizeViolation (serializedSize sanitized))
      else .ok (some sanitized)

end Karar.Audit
