import Karar.Events.Catalogue

/-!
# Event envelopes

`makeEnvelope` builds the envelope of a catalogued event. The payload has to match the closed schema of
the entry (`validatePayloadAgainstSchema`), and the classification of the entry has to allow its
fields (`assertEventPayloadAllowed`). The payload rule of the entry is not read here.
-/

namespace Karar.Events

open SharedKernel

/-- A value a caller can pass. Its properties are data, without accessors. -/
inductive JsValue
  | undefined
  | null
  | boolean (value : Bool)
  | number (value : JsNumber)
  | bigint (value : ℤ)
  | string (value : String)
  | symbol (description : String)
  | function
  | array (items : List JsValue)
  /-- The own enumerable properties, and the other names that `in` finds. -/
  | object (own : List (String × JsValue)) (others : List String)

/-- `typeof value`. -/
def JsValue.typeOf : JsValue → String
  | .undefined => "undefined"
  | .null => "object"
  | .boolean _ => "boolean"
  | .number _ => "number"
  | .bigint _ => "bigint"
  | .string _ => "string"
  | .symbol _ => "symbol"
  | .function => "function"
  | .array _ => "object"
  | .object _ _ => "object"

/-- An object that inherits from `Object.prototype`. -/
def JsValue.plain (own : List (String × JsValue)) : JsValue := .object own objectPrototypeNames

/-! ### The schema -/

/-- The violation of the schema by one field. -/
def fieldViolation (schema : EventPayloadSchema) (field : String) (value : JsValue) :
    Option String :=
  match schema.properties.spec field with
  | .undefined =>
    some s!"unexpected field '{field}' (schema is closed: additionalProperties false)"
  | .inherited => some s!"field '{field}' must be a undefined"
  | .typed type =>
    if value.typeOf ≠ type.label then some s!"field '{field}' must be a {type.label}" else none

/-- Every violation. A payload without violations conforms. -/
def validatePayloadAgainstSchema (schema : EventPayloadSchema) : JsValue → List String
  | .object own others =>
    (schema.required.filter fun field ↦ !(own.map (·.1) ++ others).contains field).map
        (fun field ↦ s!"missing required field '{field}'") ++
      own.filterMap fun (field, value) ↦ fieldViolation schema field value
  | _ => ["payload must be a plain object"]

def assertPayloadMatchesSchema (entry : EventCatalogueEntry) (payload : JsValue) :
    Except EventCatalogueError Unit :=
  match validatePayloadAgainstSchema entry.payloadSchema payload with
  | [] => .ok ()
  | violations =>
    .error
      { kind := .payloadSchemaViolation
        message := s!"Payload for event '{entry.name}' (schemaVersion {entry.schemaVersion}) " ++
          "violates its schema: " ++ "; ".intercalate violations }

/-! ### The classification -/

structure EventPayloadViolation where
  classification : EventClassification
  offendingFields : List String
  message : String
deriving DecidableEq

def isIdField (field : String) : Bool :=
  field = "id" || "Id".toList.isSuffixOf field.toList || "_id".toList.isSuffixOf field.toList

def isOccurredAtField (field : String) : Bool :=
  field = "occurredAt" || field = "occurred_at"

/-- Whether a declared exemption names its owner, reason and reviewer. -/
def isComplete : Option EventPayloadExemption → Bool
  | none => false
  | some exemption =>
    [exemption.owner, exemption.reason, exemption.reviewer].all fun part ↦ !isBlank part

def assertEventPayloadAllowed (classification : EventClassification) (fields : List String)
    (exemption : Option EventPayloadExemption) : Except EventPayloadViolation Unit :=
  match classification with
  | .secret =>
    .error
      { classification := .secret
        offendingFields := fields
        message := "SECRET data never appears in an event; there is no allowed payload shape " ++
          "(data-classification.md §2)" }
  | .sealed =>
    let offending := fields.filter fun field ↦
      !(isIdField field || field = "status" || isOccurredAtField field)
    if 0 < offending.length then
      .error
        { classification := .sealed
          offendingFields := offending
          message := "SEALED events carry identifiers and status only; disallowed field(s): " ++
            ", ".intercalate offending ++ ". No exemption mechanism exists " ++
            "(event-governance.md §3)" }
    else .ok ()
  | .highlySensitiveFinancial =>
    let offending := fields.filter fun field ↦ !(isIdField field || isOccurredAtField field)
    if offending.length = 0 then .ok ()
    else if isComplete exemption then .ok ()
    else
      .error
        { classification := .highlySensitiveFinancial
          offendingFields := offending
          message := "HIGHLY_SENSITIVE_FINANCIAL events are identifier-only by default; " ++
            "field(s) " ++ ", ".intercalate offending ++ " require a declared payloadExemption " ++
            "naming owner, reason, and reviewer (event-governance.md §3)" }
  | .public_ => .ok ()
  | .internal => .ok ()
  | .confidential => .ok ()

/-! ### The envelope -/

structure MakeEnvelopeInput where
  name : String
  payload : JsValue
  correlationId : Option String
  causationId : Option String
  tenantId : Option String
  producer : String

/-- An envelope that has not been persisted yet. -/
structure PendingEventEnvelope where
  eventId : String
  eventName : String
  schemaVersion : ℕ
  occurredAt : Instant
  correlationId : String
  causationId : Option String
  tenantId : Option String
  producer : String
  classification : EventClassification
  payload : List (String × JsValue)

/-- An envelope in the outbox, with the instant at which it was persisted. -/
structure EventEnvelope extends PendingEventEnvelope where
  recordedAt : Instant

/-- What `makeEnvelope` throws. -/
inductive EnvelopeError
  | catalogue (error : EventCatalogueError)
  | payload (violation : EventPayloadViolation)
  | other (message : String)
deriving DecidableEq

/-- The clock and the identifiers that `randomUUID` draws. -/
structure EnvelopeOracle where
  now : Instant
  eventId : String
  correlationId : String

/-- The copy `{ ...payload }`. -/
def JsValue.ownProperties : JsValue → List (String × JsValue)
  | .object own _ => own
  | _ => []

def assertNonEmpty (field value : String) : Except EnvelopeError Unit :=
  if isBlank value then .error (.other s!"makeEnvelope requires a non-empty {field}") else .ok ()

/-- The check of an optional field. -/
def assertNonEmptyIfGiven (field : String) : Option String → Except EnvelopeError Unit
  | none => .ok ()
  | some value => assertNonEmpty field value

def makeEnvelope (catalogue : EventCatalogue) (input : MakeEnvelopeInput)
    (oracle : EnvelopeOracle) : Except EnvelopeError PendingEventEnvelope := do
  let entry ← (getEventEntry catalogue input.name).mapError .catalogue
  (assertPayloadMatchesSchema entry input.payload).mapError .catalogue
  (assertEventPayloadAllowed entry.classification (input.payload.ownProperties.map (·.1))
    entry.payloadExemption).mapError .payload
  assertNonEmpty "producer" input.producer
  assertNonEmptyIfGiven "correlationId" input.correlationId
  assertNonEmptyIfGiven "causationId" input.causationId
  assertNonEmptyIfGiven "tenantId" input.tenantId
  return {
    eventId := oracle.eventId
    eventName := entry.name
    schemaVersion := entry.schemaVersion
    occurredAt := oracle.now
    correlationId := input.correlationId.getD oracle.correlationId
    causationId := input.causationId
    tenantId := input.tenantId
    producer := input.producer
    classification := entry.classification
    payload := input.payload.ownProperties }

end Karar.Events
