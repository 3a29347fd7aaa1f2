import Karar.SharedKernel.Basic
import Mathlib.Data.Rat.Defs
import Mathlib.Algebra.Order.Ring.Unbundled.Rat

/-!
# The event catalogue

`parseEventCatalogue` turns a JSON document into a catalogue of events, or names every problem of the
document at once. An entry declares the classification of its event, the rule that its payload obeys,
the exemption from that rule, and the closed schema of the payload.

The schema keeps its fields in an ordinary object. An ordinary object also answers for the names it
inherits, and the assignment of a field `__proto__` gives it another prototype; `Properties` keeps
both.
-/

namespace Karar.Events

open SharedKernel

/-! ### JSON -/

/-- A number: infinite where a literal is out of range. -/
inductive JsNumber
  | finite (value : ℚ)
  | notFinite
deriving DecidableEq

/-- A document, as `JSON.parse` returns it. -/
inductive Json
  | null
  | boolean (value : Bool)
  | number (value : JsNumber)
  | string (value : String)
  | array (items : List Json)
  | object (fields : List (String × Json))

namespace Json

/-- `isRecord`. -/
def record : Json → Option (List (String × Json))
  | .object fields => some fields
  | _ => none

end Json

/-- `raw[key]`: `none` is `undefined`. -/
def property (raw : List (String × Json)) (key : String) : Option Json :=
  (raw.find? (·.1 = key)).map (·.2)

/-- `nonEmptyString`, with the string. -/
def nonEmptyString : Option Json → Option String
  | some (.string value) => if isBlank value then none else some value
  | _ => none

/-! ### Entries -/

/-- `EVENT_CLASSIFICATIONS`. -/
inductive EventClassification
  | public_
  | internal
  | confidential
  | highlySensitiveFinancial
  | secret
  | sealed
deriving DecidableEq

def EventClassification.label : EventClassification → String
  | .public_ => "PUBLIC"
  | .internal => "INTERNAL"
  | .confidential => "CONFIDENTIAL"
  | .highlySensitiveFinancial => "HIGHLY_SENSITIVE_FINANCIAL"
  | .secret => "SECRET"
  | .sealed => "SEALED"

def EVENT_CLASSIFICATIONS : List EventClassification :=
  [.public_, .internal, .confidential, .highlySensitiveFinancial, .secret, .sealed]

/-- `EVENT_PAYLOAD_RULES`. -/
inductive EventPayloadRule
  | identifierOnly
  | identifiersAndStatus
  | payloadPermitted
deriving DecidableEq

def EventPayloadRule.label : EventPayloadRule → String
  | .identifierOnly => "identifier-only"
  | .identifiersAndStatus => "identifiers-and-status"
  | .payloadPermitted => "payload-permitted"

def EVENT_PAYLOAD_RULES : List EventPayloadRule :=
  [.identifierOnly, .identifiersAndStatus, .payloadPermitted]

structure EventPayloadExemption where
  owner : String
  reason : String
  reviewer : String
deriving DecidableEq

/-- `PAYLOAD_FIELD_TYPES`. -/
inductive PayloadFieldType
  | string
  | number
  | boolean
deriving DecidableEq

def PayloadFieldType.label : PayloadFieldType → String
  | .string => "string"
  | .number => "number"
  | .boolean => "boolean"

def PAYLOAD_FIELD_TYPES : List PayloadFieldType := [.string, .number, .boolean]

/-- The declared fields of a schema: the object's own properties, and the prototype that a field
`__proto__` has given it. -/
structure Properties where
  own : List (String × PayloadFieldType)
  proto : Option PayloadFieldType
deriving DecidableEq

/-- What `properties[field]` is. -/
inductive FieldSpec
  | undefined
  | typed (type : PayloadFieldType)
  /-- Something inherited that has no property `type`. -/
  | inherited
deriving DecidableEq

/-- The names of `Object.prototype`. -/
def objectPrototypeNames : List String :=
  ["constructor", "__defineGetter__", "__defineSetter__", "hasOwnProperty", "__lookupGetter__",
    "__lookupSetter__", "isPrototypeOf", "propertyIsEnumerable", "toString", "valueOf",
    "__proto__", "toLocaleString"]

namespace Properties

def empty : Properties := ⟨[], none⟩

/-- `properties[field] = { type }`. -/
def set (properties : Properties) (field : String) (type : PayloadFieldType) : Properties :=
  if field = "__proto__" then { properties with proto := some type }
  else { properties with own := properties.own.filter (·.1 ≠ field) ++ [(field, type)] }

def spec (properties : Properties) (field : String) : FieldSpec :=
  match properties.own.find? (·.1 = field) with
  | some (_, type) => .typed type
  | none =>
    match properties.proto with
    | some type =>
      if field = "__proto__" then .typed type
      -- The property `type` of the prototype is a string.
      else if field = "type" ∨ field ∈ objectPrototypeNames then .inherited
      else .undefined
    | none => if field ∈ objectPrototypeNames then .inherited else .undefined

/-- `field in properties`. -/
def has (properties : Properties) (field : String) : Bool := properties.spec field ≠ .undefined

end Properties

structure EventPayloadSchema where
  properties : Properties
  required : List String
deriving DecidableEq

structure EventCatalogueEntry where
  name : String
  schemaVersion : ℕ
  ownerModule : String
  classification : EventClassification
  piiFlag : Bool
  allowedConsumers : List String
  retention : String
  payloadRule : EventPayloadRule
  payloadExemption : Option EventPayloadExemption
  payloadSchema : EventPayloadSchema
deriving DecidableEq

structure EventCatalogue where
  events : List EventCatalogueEntry
deriving DecidableEq

inductive EventCatalogueErrorKind
  | invalidCatalogue
  | unknownEvent
  | payloadSchemaViolation
  | consumerNotAllowed
deriving DecidableEq

structure EventCatalogueError where
  kind : EventCatalogueErrorKind
  message : String
deriving DecidableEq

/-! ### Parsing -/

/-- A check that adds a problem where it fails. -/
def require (ok : Prop) [Decidable ok] (problem : String) (problems : List String) :
    List String :=
  if ok then problems else problems ++ [problem]

section Fields

/-- `spec['type']`, where the declaration has nothing else. -/
def fieldType (spec : Json) : Option PayloadFieldType :=
  match spec with
  | .object [("type", .string label)] => PAYLOAD_FIELD_TYPES.find? (·.label = label)
  | _ => none

def parseProperties (at_ : String) :
    List (String × Json) → Properties → List String → Properties × List String
  | [], properties, problems => (properties, problems)
  | (field, spec) :: fields, properties, problems =>
    match fieldType spec with
    | some type => parseProperties at_ fields (properties.set field type) problems
    | none =>
      parseProperties at_ fields properties
        (problems ++ [s!"{at_}: payloadSchema.properties['{field}'] must be exactly " ++
          "\x7b type: string|number|boolean \x7d"])

def parseRequired (at_ : String) (properties : Properties) :
    List Json → List String → List String → List String × List String
  | [], required, problems => (required, problems)
  | entry :: entries, required, problems =>
    match nonEmptyString (some entry) with
    | none =>
      parseRequired at_ properties entries required
        (problems ++ [s!"{at_}: payloadSchema.required entries must be non-empty strings"])
    | some field =>
      if properties.has field then
        parseRequired at_ properties entries (required ++ [field]) problems
      else
        parseRequired at_ properties entries required
          (problems ++ [s!"{at_}: payloadSchema.required names undeclared field '{field}'"])

def parsePayloadSchema (at_ : String) (raw : Option Json) (problems : List String) :
    EventPayloadSchema × List String :=
  match raw with
  | some (.object schema) =>
    let problems := require (property schema "type" matches some (.string "object"))
      s!"{at_}: payloadSchema.type must be 'object'" problems
    let problems := require (property schema "additionalProperties" matches some (.boolean false))
      s!"{at_}: payloadSchema.additionalProperties must be false (closed shape)" problems
    let (properties, problems) :=
      match property schema "properties" with
      | some (.object fields) => parseProperties at_ fields .empty problems
      | _ => (.empty, problems ++ [s!"{at_}: payloadSchema.properties must be an object"])
    let (required, problems) :=
      match property schema "required" with
      | some (.array entries) => parseRequired at_ properties entries [] problems
      | _ => ([], problems ++ [s!"{at_}: payloadSchema.required must be an array"])
    (⟨properties, required⟩, problems)
  | _ => (⟨.empty, []⟩, problems ++ [s!"{at_}: payloadSchema must be an object"])

def parseExemption (at_ : String) (raw : Option Json) (problems : List String) :
    Option EventPayloadExemption × List String :=
  match raw with
  | none => (none, problems)
  | some .null => (none, problems)
  | some raw =>
    let fields := raw.record.getD []
    match nonEmptyString (property fields "owner"), nonEmptyString (property fields "reason"),
        nonEmptyString (property fields "reviewer") with
    | some owner, some reason, some reviewer => (some ⟨owner, reason, reviewer⟩, problems)
    | _, _, _ =>
      (none, problems ++
        [s!"{at_}: payloadExemption must be null or name owner, reason, and reviewer"])

/-- A positive integer. -/
def schemaVersionOf : Option Json → Option ℕ
  | some (.number (.finite value)) =>
    if value.den = 1 ∧ 1 ≤ value then some value.num.toNat else none
  | _ => none

def classificationOf : Option Json → Option EventClassification
  | some (.string label) => EVENT_CLASSIFICATIONS.find? (·.label = label)
  | _ => none

def payloadRuleOf : Option Json → Option EventPayloadRule
  | some (.string label) => EVENT_PAYLOAD_RULES.find? (·.label = label)
  | _ => none

def piiFlagOf : Option Json → Option Bool
  | some (.boolean value) => some value
  | _ => none

/-- A non-empty array of non-empty strings. -/
def consumersOf : Option Json → Option (List String)
  | some (.array []) => none
  | some (.array items) => items.mapM fun item ↦ nonEmptyString (some item)
  | _ => none

/-- A number with its unit, if it is there. -/
def skipComponent (unit : Char) (text : List Char) : List Char :=
  match text.takeWhile Char.isDigit, text.dropWhile Char.isDigit with
  | _ :: _, found :: rest => if found = unit then rest else text
  | _, _ => text

/-- `RETENTION_PATTERN`. -/
def isDuration (text : List Char) : Bool :=
  match text with
  | 'P' :: date =>
    match skipComponent 'D' (skipComponent 'W' (skipComponent 'M' (skipComponent 'Y' date))) with
    | [] => !date.isEmpty
    | 'T' :: time =>
      !time.isEmpty &&
        (skipComponent 'S' (skipComponent 'M' (skipComponent 'H' time))).isEmpty
    | _ => false
  | _ => false

def retentionOf (raw : Option Json) : Option String :=
  (nonEmptyString raw).filter fun value ↦ isDuration value.toList

/-- A non-empty string without white space. -/
def nameOf (raw : Option Json) : Option String :=
  (nonEmptyString raw).filter fun value ↦ !value.toList.any isTrimmed

end Fields

/-- The rules for the payload rule and the exemption that the classification sets. -/
def governanceProblems (at_ : String) (classification : Option EventClassification)
    (payloadRule : Option EventPayloadRule) (exemption : Option EventPayloadExemption)
    (problems : List String) : List String :=
  if classification = some .sealed then
    let problems := require
      (payloadRule = some .identifierOnly ∨ payloadRule = some .identifiersAndStatus)
      s!"{at_}: SEALED events carry identifiers and status only — no exemption exists" problems
    require (exemption = none)
      (s!"{at_}: SEALED events cannot carry a payloadExemption — " ++
        "the mechanism does not exist") problems
  else if classification = some .highlySensitiveFinancial then
    require (payloadRule = some .identifierOnly ∨ exemption ≠ none)
      (s!"{at_}: HIGHLY_SENSITIVE_FINANCIAL payload beyond identifier-only requires a " ++
        "payloadExemption naming owner, reason, and reviewer") problems
  else
    require (exemption = none)
      (s!"{at_}: payloadExemption is only meaningful on " ++
        "HIGHLY_SENSITIVE_FINANCIAL entries") problems

def parseEntry (index : ℕ) (raw : Json) (problems : List String) :
    Option EventCatalogueEntry × List String :=
  match raw with
  | .object fields =>
    match nameOf (property fields "name") with
    | none =>
      (none, problems ++
        [s!"events[{index}]: 'name' must be a non-empty string without whitespace"])
    | some name =>
      let at_ := s!"events[{index}] ({name})"
      let schemaVersion := schemaVersionOf (property fields "schemaVersion")
      let ownerModule := nonEmptyString (property fields "ownerModule")
      let classification := classificationOf (property fields "classification")
      let piiFlag := piiFlagOf (property fields "piiFlag")
      let allowedConsumers := consumersOf (property fields "allowedConsumers")
      let retention := retentionOf (property fields "retention")
      let payloadRule := payloadRuleOf (property fields "payloadRule")
      let problems := require (schemaVersion ≠ none)
        s!"{at_}: 'schemaVersion' must be a positive integer" problems
      let problems := require (ownerModule ≠ none)
        s!"{at_}: 'ownerModule' must be a non-empty string" problems
      let problems := require (classification ≠ none)
        (s!"{at_}: 'classification' must be one of " ++
          "|".intercalate (EVENT_CLASSIFICATIONS.map (·.label))) problems
      let problems := require (piiFlag ≠ none) s!"{at_}: 'piiFlag' must be a boolean" problems
      let problems :=
        match allowedConsumers with
        | none =>
          problems ++
            [s!"{at_}: 'allowedConsumers' must be a non-empty array of non-empty strings"]
        | some consumers =>
          require consumers.Nodup s!"{at_}: 'allowedConsumers' must not repeat a consumer" problems
      let problems := require (retention ≠ none)
        s!"{at_}: 'retention' must be an ISO-8601 duration (e.g. P7D, P7Y)" problems
      let problems := require (payloadRule ≠ none)
        (s!"{at_}: 'payloadRule' must be one of " ++
          "|".intercalate (EVENT_PAYLOAD_RULES.map (·.label))) problems
      let (payloadExemption, problems) :=
        parseExemption at_ (property fields "payloadExemption") problems
      let (payloadSchema, problems) :=
        parsePayloadSchema at_ (property fields "payloadSchema") problems
      let problems := governanceProblems at_ classification payloadRule payloadExemption problems
      -- A problem of an earlier entry drops this one as well.
      match problems, schemaVersion, ownerModule, classification, piiFlag, allowedConsumers,
          retention, payloadRule with
      | [], some schemaVersion, some ownerModule, some classification, some piiFlag,
          some allowedConsumers, some retention, some payloadRule =>
        (some
          { name, schemaVersion, ownerModule, classification, piiFlag, allowedConsumers, retention,
            payloadRule, payloadExemption, payloadSchema },
          [])
      | problems, _, _, _, _, _, _, _ => (none, problems)
  | _ => (none, problems ++ [s!"events[{index}]: entry must be an object"])

/-- The loop over the entries of the document. -/
def parseEntries :
    ℕ → List Json → List EventCatalogueEntry → List String →
      List EventCatalogueEntry × List String
  | _, [], entries, problems => (entries, problems)
  | index, raw :: rest, entries, problems =>
    match parseEntry index raw problems with
    | (none, problems) => parseEntries (index + 1) rest entries problems
    | (some entry, problems) =>
      if entry.name ∈ entries.map (·.name) then
        parseEntries (index + 1) rest entries
          (problems ++ [s!"events[{index}]: duplicate event '{entry.name}'"])
      else parseEntries (index + 1) rest (entries ++ [entry]) problems

def invalidCatalogue (problems : List String) : EventCatalogueError where
  kind := .invalidCatalogue
  message := "Event catalogue is invalid:\n- " ++ "\n- ".intercalate problems

def parseEventCatalogue (raw : Json) : Except EventCatalogueError EventCatalogue :=
  match raw.record.bind fun fields ↦ property fields "events" with
  | some (.array events) =>
    match parseEntries 0 events [] [] with
    | (entries, []) => .ok ⟨entries⟩
    | (_, problems) => .error (invalidCatalogue problems)
  | _ => .error (invalidCatalogue ["catalogue must be an object with an 'events' array"])

def getEventEntry (catalogue : EventCatalogue) (eventName : String) :
    Except EventCatalogueError EventCatalogueEntry :=
  match catalogue.events.find? (·.name = eventName) with
  | some entry => .ok entry
  | none =>
    .error
      { kind := .unknownEvent
        message := s!"Event '{eventName}' is not in the catalogue " ++
          "(packages/api-contracts/events/catalogue.json); catalogue the event before " ++
          "publishing it" }

/-- The entry of an event that the consumer may subscribe to. -/
def assertConsumerAllowed (catalogue : EventCatalogue) (eventName consumerName : String) :
    Except EventCatalogueError EventCatalogueEntry := do
  let entry ← getEventEntry catalogue eventName
  if consumerName ∈ entry.allowedConsumers then return entry
  else
    throw
      { kind := .consumerNotAllowed
        message := s!"Consumer '{consumerName}' is not in allowedConsumers for event " ++
          s!"'{eventName}' (allowed: " ++ ", ".intercalate entry.allowedConsumers ++
          "); add it to the catalogue entry deliberately" }

end Karar.Events
