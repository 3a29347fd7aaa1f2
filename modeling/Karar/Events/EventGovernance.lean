import Karar.Events.Envelope
import Karar.Foundation.Fallible

/-!
# What an envelope may carry

Four checks govern a payload: the parser of the catalogue, the schema of the entry, the rule of the
classification, and the exemption. `Governed` is what they are for. Each of them keeps its part
(`conforms_of_validate`, `allowed_of_assert`, `wellGoverned_of_parse`), but none compares a payload
with the payload rule of its entry. `governed_iff` says when the others make up for it.
-/

namespace Karar.Events

open Foundation SharedKernel

/-! ### Governance -/

/-- An identifier, or the instant of the occurrence. -/
def isIdentifier (field : String) : Bool := isIdField field || isOccurredAtField field

/-- The fields a payload rule permits. -/
def EventPayloadRule.Permits (rule : EventPayloadRule) (field : String) : Prop :=
  match rule with
  | .identifierOnly => isIdentifier field
  | .identifiersAndStatus => isIdentifier field ∨ field = "status"
  | .payloadPermitted => True

instance (rule : EventPayloadRule) (field : String) : Decidable (rule.Permits field) := by
  cases rule <;> unfold EventPayloadRule.Permits <;> infer_instance

/-- A value of a declared primitive type. -/
def Declares (schema : EventPayloadSchema) (field : String) (value : JsValue) : Prop :=
  ∃ type, schema.properties.spec field = .typed type ∧ value.typeOf = type.label

/-- What an envelope carries obeys its entry. -/
structure Governed (entry : EventCatalogueEntry) (envelope : PendingEventEnvelope) : Prop where
  classified : envelope.classification = entry.classification
  flat : ∀ field ∈ envelope.payload, Declares entry.payloadSchema field.1 field.2
  complete : ∀ name ∈ entry.payloadSchema.required, name ∈ envelope.payload.map (·.1)
  permitted : ∀ field ∈ envelope.payload, entry.payloadRule.Permits field.1
  isSealed : entry.classification = .sealed →
    ∀ field ∈ envelope.payload, isIdentifier field.1 ∨ field.1 = "status"
  notSecret : entry.classification ≠ .secret
  financial : entry.classification = .highlySensitiveFinancial →
    ∀ field ∈ envelope.payload, isIdentifier field.1 ∨
      (entry.payloadRule ≠ .identifierOnly ∧ entry.payloadExemption.isSome)

/-- The rule of the classification is as strict as the payload rule of the entry. -/
def StrictlyClassified (entry : EventCatalogueEntry) : Prop :=
  entry.payloadRule = .payloadPermitted ∨
    (entry.classification = .sealed ∧ entry.payloadRule = .identifiersAndStatus) ∨
    (entry.classification = .highlySensitiveFinancial ∧ entry.payloadExemption = none)

/-- The payload inherits no required name that it does not own, and where the classification is less
strict than the payload rule the caller keeps to the rule. -/
def KeptByCaller (entry : EventCatalogueEntry) (payload : JsValue) : Prop :=
  match payload with
  | .object own others =>
    (∀ name ∈ entry.payloadSchema.required, name ∈ others → name ∈ own.map (·.1)) ∧
      (StrictlyClassified entry ∨ ∀ field ∈ own, entry.payloadRule.Permits field.1)
  | _ => False

/-! ### The checks -/

section Checks

variable {entry : EventCatalogueEntry} {catalogue : EventCatalogue} {fields : List String}

/-- What the schema check establishes. -/
theorem conforms_of_validate {schema : EventPayloadSchema} {payload : JsValue}
    (hnone : validatePayloadAgainstSchema schema payload = []) :
    ∃ own others, payload = .object own others ∧
      (∀ name ∈ schema.required, name ∈ own.map (·.1) ∨ name ∈ others) ∧
      ∀ field ∈ own, Declares schema field.1 field.2 := by
  unfold validatePayloadAgainstSchema at hnone
  split at hnone
  · rename_i own others
    obtain ⟨hrequired, hfields⟩ := List.append_eq_nil_iff.mp hnone
    refine ⟨own, others, rfl, fun name hname ↦ ?_, fun ⟨name, value⟩ hfield ↦ ?_⟩
    · have hpresent := List.filter_eq_nil_iff.mp (List.map_eq_nil_iff.mp hrequired) name hname
      rw [Bool.not_eq_true, Bool.not_eq_false', List.contains_iff_mem] at hpresent
      exact List.mem_append.mp hpresent
    · have hviolation : fieldViolation schema name value = none :=
        List.filterMap_eq_nil_iff.mp hfields _ hfield
      unfold fieldViolation at hviolation
      split at hviolation
      · cases hviolation
      · cases hviolation
      · rename_i type hspec
        split_ifs at hviolation with htype
        exact ⟨type, hspec, not_not.mp htype⟩
  · cases hnone

/-- What the rule of the classification establishes. -/
structure Allowed (classification : EventClassification) (fields : List String)
    (exemption : Option EventPayloadExemption) : Prop where
  notSecret : classification ≠ .secret
  isSealed : classification = .sealed → ∀ field ∈ fields, isIdentifier field ∨ field = "status"
  financial : classification = .highlySensitiveFinancial →
    ∀ field ∈ fields, isIdentifier field ∨ exemption.isSome

theorem allowed_of_assert {classification : EventClassification}
    {exemption : Option EventPayloadExemption}
    (hallowed : assertEventPayloadAllowed classification fields exemption = .ok ()) :
    Allowed classification fields exemption := by
  cases classification with
  | secret => cases hallowed
  | public_ => exact ⟨by simp, by simp, by simp⟩
  | internal => exact ⟨by simp, by simp, by simp⟩
  | confidential => exact ⟨by simp, by simp, by simp⟩
  | sealed =>
    refine ⟨by simp, fun _ field hfield ↦ ?_, by simp⟩
    simp only [assertEventPayloadAllowed] at hallowed
    split_ifs at hallowed with hoffending
    have hnone := List.length_eq_zero_iff.mp (Nat.eq_zero_of_not_pos hoffending)
    have hkept := List.filter_eq_nil_iff.mp hnone field hfield
    simp only [Bool.not_eq_true, Bool.not_eq_false', Bool.or_eq_true, decide_eq_true_eq] at hkept
    unfold isIdentifier
    rw [Bool.or_eq_true]
    tauto
  | highlySensitiveFinancial =>
    refine ⟨by simp, by simp, fun _ field hfield ↦ ?_⟩
    simp only [assertEventPayloadAllowed] at hallowed
    split_ifs at hallowed with hoffending hcomplete
    · have hkept :=
        List.filter_eq_nil_iff.mp (List.length_eq_zero_iff.mp hoffending) field hfield
      rw [Bool.not_eq_true, Bool.not_eq_false'] at hkept
      exact .inl hkept
    · right
      cases exemption with
      | none => simp [isComplete] at hcomplete
      | some exemption => rfl

/-- What the parser establishes of an entry. -/
structure WellGoverned (entry : EventCatalogueEntry) : Prop where
  isSealed : entry.classification = .sealed →
    entry.payloadRule ≠ .payloadPermitted ∧ entry.payloadExemption = none
  financial : entry.classification = .highlySensitiveFinancial →
    entry.payloadRule = .identifierOnly ∨ entry.payloadExemption ≠ none
  exempt : entry.payloadExemption ≠ none → entry.classification = .highlySensitiveFinancial

theorem require_eq_nil {ok : Prop} [Decidable ok] {problem : String} {problems : List String}
    (hnone : require ok problem problems = []) : ok ∧ problems = [] := by
  unfold require at hnone
  split_ifs at hnone with hok
  · exact ⟨hok, hnone⟩
  · simp at hnone

theorem wellGoverned_of_governanceProblems {at_ : String} {problems : List String}
    {classification : Option EventClassification} {rule : Option EventPayloadRule}
    {exemption : Option EventPayloadExemption}
    (hclassification : classification = some entry.classification)
    (hrule : rule = some entry.payloadRule) (hexemption : exemption = entry.payloadExemption)
    (hnone : governanceProblems at_ classification rule exemption problems = []) :
    WellGoverned entry := by
  subst hclassification hrule hexemption
  unfold governanceProblems at hnone
  split_ifs at hnone with hsealed hfinancial
  · obtain ⟨hexempt, hinner⟩ := require_eq_nil hnone
    obtain ⟨hpermitted, -⟩ := require_eq_nil hinner
    refine ⟨fun _ ↦ ⟨fun hpayload ↦ ?_, hexempt⟩, fun hclass ↦ ?_,
      fun hsome ↦ absurd hexempt hsome⟩
    · simp [hpayload] at hpermitted
    · simp [hclass] at hsealed
  · obtain ⟨hdeclared, -⟩ := require_eq_nil hnone
    refine ⟨fun hclass ↦ ?_, fun _ ↦ ?_, fun _ ↦ by simpa using hfinancial⟩
    · simp [hclass] at hfinancial
    · simpa using hdeclared
  · obtain ⟨hexempt, -⟩ := require_eq_nil hnone
    refine ⟨fun hclass ↦ ?_, fun hclass ↦ ?_, fun hsome ↦ absurd hexempt hsome⟩
    · simp [hclass] at hsealed
    · simp [hclass] at hfinancial

theorem wellGoverned_of_parseEntry {index : ℕ} {raw : Json} {problems later : List String}
    (hparse : parseEntry index raw problems = (some entry, later)) : WellGoverned entry := by
  unfold parseEntry at hparse
  split at hparse
  · split at hparse
    · cases hparse
    · dsimp only at hparse
      split at hparse
      · rename_i hproblems _ _ hclassification _ _ _ hrule
        obtain rfl := Option.some.inj (Prod.mk.inj hparse).1
        exact wellGoverned_of_governanceProblems hclassification hrule rfl hproblems
      · cases hparse
  · cases hparse

theorem wellGoverned_of_parseEntries {index : ℕ} {events : List Json}
    {entries parsed : List EventCatalogueEntry} {problems later : List String}
    (hparse : parseEntries index events entries problems = (parsed, later))
    (hentries : ∀ entry ∈ entries, WellGoverned entry) : ∀ entry ∈ parsed, WellGoverned entry := by
  induction events generalizing index entries problems with
  | nil =>
    obtain rfl := (Prod.mk.inj hparse).1
    exact hentries
  | cons raw events ih =>
    unfold parseEntries at hparse
    split at hparse
    · exact ih hparse hentries
    · rename_i entry problems hentry
      split_ifs at hparse with hduplicate
      · exact ih hparse hentries
      · refine ih hparse fun other hother ↦ ?_
        rcases List.mem_append.mp hother with hearlier | hnew
        · exact hentries other hearlier
        · obtain rfl := List.mem_singleton.mp hnew
          exact wellGoverned_of_parseEntry hentry

theorem wellGoverned_of_parse {document : Json}
    (hparse : parseEventCatalogue document = .ok catalogue) :
    ∀ entry ∈ catalogue.events, WellGoverned entry := by
  unfold parseEventCatalogue at hparse
  split at hparse
  · split at hparse
    · rename_i hentries
      obtain rfl := Except.ok.inj hparse
      exact wellGoverned_of_parseEntries hentries fun _ hmem ↦ absurd hmem List.not_mem_nil
    · cases hparse
  · cases hparse

theorem mem_of_getEventEntry {name : String} (hentry : getEventEntry catalogue name = .ok entry) :
    entry ∈ catalogue.events := by
  unfold getEventEntry at hentry
  split at hentry
  · rename_i hfind
    exact Except.ok.inj hentry ▸ List.mem_of_find?_eq_some hfind
  · cases hentry

theorem ok_of_mapError {Failure Other : Type} {α : Type} {first : Except Failure α}
    {embed : Failure → Other} {value : α} (hok : first.mapError embed = .ok value) :
    first = .ok value := by
  cases first with
  | error failure => cases hok
  | ok result => exact congrArg Except.ok (Except.ok.inj hok)

/-- What every envelope has passed. -/
theorem passed_of_makeEnvelope {input : MakeEnvelopeInput} {oracle : EnvelopeOracle}
    {envelope : PendingEventEnvelope} (hmade : makeEnvelope catalogue input oracle = .ok envelope) :
    ∃ entry, getEventEntry catalogue input.name = .ok entry ∧
      validatePayloadAgainstSchema entry.payloadSchema input.payload = [] ∧
      assertEventPayloadAllowed entry.classification (input.payload.ownProperties.map (·.1))
        entry.payloadExemption = .ok () ∧
      envelope.classification = entry.classification ∧
      envelope.payload = input.payload.ownProperties := by
  unfold makeEnvelope at hmade
  obtain ⟨entry, hentry, hmade⟩ := bind_eq_ok hmade
  obtain ⟨_, hschema, hmade⟩ := bind_eq_ok hmade
  obtain ⟨_, hallowed, hmade⟩ := bind_eq_ok hmade
  obtain ⟨_, -, hmade⟩ := bind_eq_ok hmade
  obtain ⟨_, -, hmade⟩ := bind_eq_ok hmade
  obtain ⟨_, -, hmade⟩ := bind_eq_ok hmade
  obtain ⟨_, -, hmade⟩ := bind_eq_ok hmade
  obtain rfl := Except.ok.inj hmade
  refine ⟨entry, ok_of_mapError hentry, ?_, ok_of_mapError hallowed, rfl, rfl⟩
  have hconforms := ok_of_mapError hschema
  unfold assertPayloadMatchesSchema at hconforms
  split at hconforms
  · assumption
  · cases hconforms

end Checks

/-! ### Envelopes -/

/-- Where the classification is as strict as the payload rule, an allowed payload keeps to the
rule. -/
theorem permitted_of_strictlyClassified {entry : EventCatalogueEntry} {fields : List String}
    (hgoverned : WellGoverned entry)
    (hallowed : Allowed entry.classification fields entry.payloadExemption)
    (hstrict : StrictlyClassified entry) : ∀ field ∈ fields, entry.payloadRule.Permits field := by
  intro field hfield
  rcases hstrict with hrule | ⟨hclass, hrule⟩ | ⟨hclass, hexempt⟩
  · rw [hrule]
    trivial
  · rw [hrule]
    exact hallowed.isSealed hclass field hfield
  · have hrule : entry.payloadRule = .identifierOnly := by
      rcases hgoverned.financial hclass with hrule | hsome
      · exact hrule
      · exact absurd hexempt hsome
    rw [hrule]
    rcases hallowed.financial hclass field hfield with hidentifier | hsome
    · exact hidentifier
    · simp [hexempt] at hsome

/-- An envelope obeys its entry exactly where the payload owns the required names it has, and either
the classification is as strict as the payload rule or the caller keeps to the rule. -/
theorem governed_iff {document : Json} {catalogue : EventCatalogue}
    (hparse : parseEventCatalogue document = .ok catalogue) {input : MakeEnvelopeInput}
    {oracle : EnvelopeOracle} {envelope : PendingEventEnvelope}
    (hmade : makeEnvelope catalogue input oracle = .ok envelope) :
    ∃ entry, getEventEntry catalogue input.name = .ok entry ∧
      (Governed entry envelope ↔ KeptByCaller entry input.payload) := by
  obtain ⟨entry, hentry, hschema, hassert, hclass, hpayload⟩ := passed_of_makeEnvelope hmade
  have hgoverned := wellGoverned_of_parse hparse entry (mem_of_getEventEntry hentry)
  have hallowed := allowed_of_assert hassert
  obtain ⟨own, others, hobject, hrequired, hdeclared⟩ := conforms_of_validate hschema
  rw [hobject] at hpayload hallowed ⊢
  refine ⟨entry, hentry, fun hobeys ↦ ⟨fun name hname _ ↦ ?_, .inr ?_⟩, ?_⟩
  · have howned := hobeys.complete name hname
    rwa [hpayload] at howned
  · have hpermitted := hobeys.permitted
    rwa [hpayload] at hpermitted
  · rintro ⟨hinherited, hrule⟩
    have hnames : ∀ field ∈ own, field.1 ∈ own.map (·.1) := fun _ ↦ List.mem_map_of_mem
    have hpermitted : ∀ field ∈ own, entry.payloadRule.Permits field.1 := by
      rcases hrule with hstrict | hkept
      · exact fun field hfield ↦
          permitted_of_strictlyClassified hgoverned hallowed hstrict _ (hnames field hfield)
      · exact hkept
    have hown : envelope.payload = own := hpayload
    constructor
    · exact hclass
    · rwa [hown]
    · rw [hown]
      intro name hname
      rcases hrequired name hname with howned | hother
      · exact howned
      · exact hinherited name hname hother
    · rwa [hown]
    · rw [hown]
      exact fun hsealed field hfield ↦ hallowed.isSealed hsealed _ (hnames field hfield)
    · exact hallowed.notSecret
    · rw [hown]
      intro hfinancial field hfield
      rcases hallowed.financial hfinancial _ (hnames field hfield) with hidentifier | hsome
      · exact .inl hidentifier
      · by_cases hrule : entry.payloadRule = .identifierOnly
        · have hidentifier := hpermitted field hfield
          rw [hrule] at hidentifier
          exact .inl hidentifier
        · exact .inr ⟨hrule, hsome⟩

/-- A required name that every object inherits is never missed. -/
example : validatePayloadAgainstSchema ⟨.empty, ["toString"]⟩ (.plain []) = [] := rfl

/-! An internal event whose entry says `identifier-only` and whose schema declares a note. -/

namespace NotedPing

def schema : Json :=
  .object
    [("type", .string "object"),
      ("properties", .object
        [("pingId", .object [("type", .string "string")]),
          ("note", .object [("type", .string "string")])]),
      ("required", .array [.string "pingId"]), ("additionalProperties", .boolean false)]

def document : Json :=
  .object
    [("events", .array
      [.object
        [("name", .string "platform.diagnostic.ping"), ("schemaVersion", .number (.finite 1)),
          ("ownerModule", .string "platform"), ("classification", .string "INTERNAL"),
          ("piiFlag", .boolean false), ("allowedConsumers", .array [.string "worker-diagnostics"]),
          ("retention", .string "P7D"), ("payloadRule", .string "identifier-only"),
          ("payloadExemption", .null), ("payloadSchema", schema)]])]

def entry : EventCatalogueEntry where
  name := "platform.diagnostic.ping"
  schemaVersion := 1
  ownerModule := "platform"
  classification := .internal
  piiFlag := false
  allowedConsumers := ["worker-diagnostics"]
  retention := "P7D"
  payloadRule := .identifierOnly
  payloadExemption := none
  payloadSchema := ⟨⟨[("pingId", .string), ("note", .string)], none⟩, ["pingId"]⟩

def input (own : List (String × JsValue)) : MakeEnvelopeInput where
  name := "platform.diagnostic.ping"
  payload := .plain own
  correlationId := none
  causationId := none
  tenantId := none
  producer := "karar-worker"

def oracle : EnvelopeOracle := ⟨0, "event", "correlation"⟩

def envelope (own : List (String × JsValue)) : PendingEventEnvelope where
  eventId := "event"
  eventName := "platform.diagnostic.ping"
  schemaVersion := 1
  occurredAt := 0
  correlationId := "correlation"
  causationId := none
  tenantId := none
  producer := "karar-worker"
  classification := .internal
  payload := own

theorem parsed : parseEventCatalogue document = .ok ⟨[entry]⟩ := by decide

end NotedPing

/-- The note of a person goes out under `identifier-only`. -/
theorem not_governed_notedPing :
    parseEventCatalogue NotedPing.document = .ok ⟨[NotedPing.entry]⟩ ∧
      makeEnvelope ⟨[NotedPing.entry]⟩
        (NotedPing.input [("pingId", .string "p-1"), ("note", .string "Sara Haddad, 5200 AED")])
        NotedPing.oracle =
          .ok (NotedPing.envelope
            [("pingId", .string "p-1"), ("note", .string "Sara Haddad, 5200 AED")]) ∧
      ¬ Governed NotedPing.entry (NotedPing.envelope
        [("pingId", .string "p-1"), ("note", .string "Sara Haddad, 5200 AED")]) := by
  refine ⟨NotedPing.parsed, rfl, fun hgoverned ↦ ?_⟩
  have hpermitted : NotedPing.entry.payloadRule.Permits "note" :=
    hgoverned.permitted ("note", .string "Sara Haddad, 5200 AED")
      (List.mem_cons_of_mem _ List.mem_cons_self)
  revert hpermitted
  decide

/-- The same event with its identifier alone. -/
theorem governed_iff_notedPing :
    ∃ entry, getEventEntry ⟨[NotedPing.entry]⟩ "platform.diagnostic.ping" = .ok entry ∧
      (Governed entry (NotedPing.envelope [("pingId", .string "p-1")]) ↔
        KeptByCaller entry (.plain [("pingId", .string "p-1")])) :=
  governed_iff NotedPing.parsed
    (show makeEnvelope _ (NotedPing.input [("pingId", .string "p-1")]) NotedPing.oracle = .ok _
      from rfl)

end Karar.Events
