import Mathlib.Data.List.Basic
import Mathlib.Tactic.Common

/-!
# The consent overview of the mobile client

`ResolveConsentOverview` folds the platform's consent status for a purpose, the applicable documents and
the prerequisites into one state. The status and the documents are two separate reads.

The document of an overview is the first one with the identifier that the status names, or where the
list has none, the first one that covers the purpose (`documentFor_eq_some_iff`). `canAccept_iff` says
when an acceptance is offered, and of what: of the version that the list gives for that document. The
version that the status names is not read.
-/

namespace Karar.MobileConsent

/-! ### Documents -/

inductive LegalDocumentAction
  | reacceptanceRequired
  | noticeRequired
  | noUserActionRequired
  | unstated
deriving DecidableEq

structure LegalDocumentVersion where
  versionId : String
  version : String
  action : LegalDocumentAction
  effectiveAt : Option Int
deriving DecidableEq

structure LegalDocument where
  documentId : String
  kind : String
  entityId : String
  jurisdictionRef : String
  purposeRefs : List String
  effectiveVersion : Option LegalDocumentVersion
deriving DecidableEq

def LegalDocument.hasEffectiveVersion (document : LegalDocument) : Bool :=
  document.effectiveVersion.isSome

def LegalDocument.covers (document : LegalDocument) (purposeRef : String) : Bool :=
  document.purposeRefs.contains purposeRef

structure ConsentGrant where
  grantId : String
  purposeRef : String
  acceptedVersion : Option String
  grantedAt : Option Int := none
  operatingEntityId : Option String
  jurisdictionRef : Option String
deriving DecidableEq

/-! ### States -/

inductive ConsentState
  | notRequired
  | consentRequired
  | reconsentRequired
  | active
  | withdrawn
  | unavailable
  | legalDocumentUnavailable
  | policyNotApproved
deriving DecidableEq

def ConsentState.needsAcceptance (state : ConsentState) : Bool :=
  state = .consentRequired || state = .reconsentRequired

/-- The state of `GET /consent/status`. -/
inductive ConsentStatusState
  | active
  | noGrant
  | reconsentRequired
  | withdrawn
  | unrecognised
deriving DecidableEq

inductive ConsentBlocker
  | jurisdictionNotAssigned
  | policyPackNotApproved
  | operatingEntityNotAssigned
deriving DecidableEq

structure ConsentPrerequisites where
  jurisdictionAssigned : Bool
  policyPackApproved : Bool
  operatingEntityAssigned : Bool
deriving DecidableEq

/-- Nothing is known. -/
def ConsentPrerequisites.none : ConsentPrerequisites := ⟨false, false, false⟩

def ConsentPrerequisites.areMet (prerequisites : ConsentPrerequisites) : Bool :=
  prerequisites.jurisdictionAssigned && prerequisites.policyPackApproved &&
    prerequisites.operatingEntityAssigned

def ConsentPrerequisites.blockers (prerequisites : ConsentPrerequisites) : List ConsentBlocker :=
  (if prerequisites.jurisdictionAssigned then [] else [.jurisdictionNotAssigned]) ++
    (if prerequisites.policyPackApproved then [] else [.policyPackNotApproved]) ++
    (if prerequisites.operatingEntityAssigned then [] else [.operatingEntityNotAssigned])

/-! ### Overviews -/

structure ConsentStatusRecord where
  purposeRef : String
  state : ConsentStatusState
  noticeRequired : Bool
  operatingEntityId : String
  documentId : Option String
  effectiveVersion : Option String
  effectiveVersionId : Option String
  grantId : Option String
  grantedVersion : Option String
  jurisdictionRef : Option String
deriving DecidableEq

structure ConsentOverview where
  purposeRef : String
  state : ConsentState
  prerequisites : ConsentPrerequisites
  document : Option LegalDocument := none
  grant : Option ConsentGrant := none
  noticeRequired : Bool := false
  operatingEntityId : Option String := none
  jurisdictionRef : Option String := none
  correlationId : Option String := none
deriving DecidableEq

namespace ConsentOverview

/-- The version an acceptance would be pinned to. -/
def acceptableVersionId (overview : ConsentOverview) : Option String :=
  overview.document.bind fun document ↦ document.effectiveVersion.map (·.versionId)

def canAccept (overview : ConsentOverview) : Bool :=
  overview.state.needsAcceptance && overview.acceptableVersionId.isSome &&
    overview.prerequisites.areMet

def canWithdraw (overview : ConsentOverview) : Bool :=
  overview.state = .active && overview.grant.isSome

def blockers (overview : ConsentOverview) : List ConsentBlocker :=
  if overview.state.needsAcceptance || overview.state = .policyNotApproved then
    overview.prerequisites.blockers
  else []

end ConsentOverview

/-! ### `ResolveConsentOverview` -/

namespace ResolveConsentOverview

/-- The document the platform named, or else the one that covers the purpose. -/
def documentFor (purposeRef : String) (documentId : Option String) (documents : List LegalDocument) :
    Option LegalDocument :=
  (documentId.bind fun documentId ↦ documents.find? (·.documentId = documentId)).or
    (documents.find? (·.covers purposeRef))

def grantOf (purposeRef : String) (status : ConsentStatusRecord) : Option ConsentGrant :=
  status.grantId.map fun grantId ↦
    { grantId, purposeRef
      acceptedVersion := status.grantedVersion
      operatingEntityId := some status.operatingEntityId
      jurisdictionRef := status.jurisdictionRef }

/-- The state, from the status of the platform and the document. -/
def stateOf (status : ConsentStatusState) (document : Option LegalDocument)
    (prerequisites : ConsentPrerequisites) : ConsentState :=
  match status with
  | .unrecognised => .unavailable
  | .active => .active
  | .withdrawn => .withdrawn
  | .noGrant =>
    match document with
    | none => .notRequired
    | some document =>
      if !document.hasEffectiveVersion then .legalDocumentUnavailable
      else if !prerequisites.areMet then .policyNotApproved
      else .consentRequired
  | .reconsentRequired =>
    if !document.any (·.hasEffectiveVersion) then .legalDocumentUnavailable
    else if !prerequisites.areMet then .policyNotApproved
    else .reconsentRequired

def call (purposeRef : String) (status : ConsentStatusRecord) (documents : List LegalDocument)
    (prerequisites : ConsentPrerequisites) : ConsentOverview :=
  let document := documentFor purposeRef status.documentId documents
  { purposeRef, prerequisites, document
    state := stateOf status.state document prerequisites
    grant := grantOf purposeRef status
    noticeRequired := status.noticeRequired
    operatingEntityId := some status.operatingEntityId
    jurisdictionRef := status.jurisdictionRef }

end ResolveConsentOverview

/-! ### The governing document -/

/-- The status names the document. -/
def Named (documentId : Option String) (document : LegalDocument) : Prop :=
  documentId.any (document.documentId = ·) = true

/-- The document is the first of the list that meets the condition. -/
def FirstIn (condition : LegalDocument → Prop) (documents : List LegalDocument)
    (document : LegalDocument) : Prop :=
  condition document ∧ ∃ before after, documents = before ++ document :: after ∧
    ∀ other ∈ before, ¬ condition other

/-- The first document that the status names, or where the list has none of them, the first that covers
the purpose. -/
def Governs (purposeRef : String) (documentId : Option String) (documents : List LegalDocument)
    (document : LegalDocument) : Prop :=
  FirstIn (Named documentId) documents document ∨
    (∀ other ∈ documents, ¬ Named documentId other) ∧
      FirstIn (·.covers purposeRef = true) documents document

section Governs

variable {purposeRef : String} {documentId : Option String} {documents : List LegalDocument}
  {document : LegalDocument}

theorem FirstIn.mem {condition : LegalDocument → Prop} (hfirst : FirstIn condition documents document) :
    document ∈ documents := by
  obtain ⟨-, before, after, rfl, -⟩ := hfirst
  simp

theorem find?_eq_some_iff_firstIn {condition : LegalDocument → Bool} :
    documents.find? condition = some document ↔ FirstIn (condition · = true) documents document := by
  unfold FirstIn
  rw [List.find?_eq_some_iff_append]
  simp

theorem find?_named_eq_some_iff :
    (documentId.bind fun documentId ↦ documents.find? (·.documentId = documentId)) = some document ↔
      FirstIn (Named documentId) documents document := by
  cases documentId with
  | none => simp [FirstIn, Named]
  | some documentId =>
    rw [Option.bind_some, find?_eq_some_iff_firstIn]
    simp [FirstIn, Named]

theorem find?_named_eq_none_iff :
    (documentId.bind fun documentId ↦ documents.find? (·.documentId = documentId)) = none ↔
      ∀ other ∈ documents, ¬ Named documentId other := by
  cases documentId with
  | none => simp [Named]
  | some documentId => simp [Named]

theorem documentFor_eq_some_iff :
    ResolveConsentOverview.documentFor purposeRef documentId documents = some document ↔
      Governs purposeRef documentId documents document := by
  unfold ResolveConsentOverview.documentFor Governs
  rw [Option.or_eq_some_iff, find?_named_eq_some_iff, find?_named_eq_none_iff,
    find?_eq_some_iff_firstIn]

/-- A governing document is of the list, is the one that the status names wherever the list has it, and
covers the purpose unless the status names it. -/
theorem Governs.law (hgoverns : Governs purposeRef documentId documents document) :
    document ∈ documents ∧ ((∃ other ∈ documents, Named documentId other) → Named documentId document) ∧
      (Named documentId document ∨ document.covers purposeRef = true) := by
  rcases hgoverns with hnamed | ⟨hnone, hcovers⟩
  · exact ⟨hnamed.mem, fun _ ↦ hnamed.1, .inl hnamed.1⟩
  · refine ⟨hcovers.mem, ?_, .inr hcovers.1⟩
    rintro ⟨other, hother, hnamed⟩
    exact absurd hnamed (hnone other hother)

end Governs

/-! ### What is offered -/

/-- An acceptance of the version of the document is offered. -/
structure Offers (status : ConsentStatusRecord) (documents : List LegalDocument)
    (overview : ConsentOverview) (document : LegalDocument) (version : LegalDocumentVersion) : Prop where
  pending : status.state = .noGrant ∨ status.state = .reconsentRequired
  met : overview.prerequisites.areMet = true
  shown : overview.document = some document
  governs : Governs overview.purposeRef status.documentId documents document
  effective : document.effectiveVersion = some version
  pinned : overview.acceptableVersionId = some version.versionId

section Offers

variable {purposeRef : String} {status : ConsentStatusRecord} {documents : List LegalDocument}
  {prerequisites : ConsentPrerequisites}

theorem needsAcceptance_stateOf_iff {state : ConsentStatusState} {document : Option LegalDocument} :
    (ResolveConsentOverview.stateOf state document prerequisites).needsAcceptance = true ↔
      (state = .noGrant ∨ state = .reconsentRequired) ∧
        document.any (·.hasEffectiveVersion) = true ∧ prerequisites.areMet = true := by
  cases state with
  | noGrant =>
    cases document with
    | none => simp [ResolveConsentOverview.stateOf, ConsentState.needsAcceptance]
    | some document =>
      by_cases heffective : document.hasEffectiveVersion = true
      · by_cases hmet : prerequisites.areMet = true
        · simp [ResolveConsentOverview.stateOf, ConsentState.needsAcceptance, heffective, hmet]
        · simp [ResolveConsentOverview.stateOf, ConsentState.needsAcceptance, heffective, hmet]
      · simp [ResolveConsentOverview.stateOf, ConsentState.needsAcceptance, heffective]
  | reconsentRequired =>
    by_cases heffective : document.any (·.hasEffectiveVersion) = true
    · by_cases hmet : prerequisites.areMet = true
      · simp [ResolveConsentOverview.stateOf, ConsentState.needsAcceptance, heffective, hmet]
      · simp [ResolveConsentOverview.stateOf, ConsentState.needsAcceptance, heffective, hmet]
    · simp [ResolveConsentOverview.stateOf, ConsentState.needsAcceptance, heffective]
  | active => simp [ResolveConsentOverview.stateOf, ConsentState.needsAcceptance]
  | withdrawn => simp [ResolveConsentOverview.stateOf, ConsentState.needsAcceptance]
  | unrecognised => simp [ResolveConsentOverview.stateOf, ConsentState.needsAcceptance]

/-- An overview can be accepted if and only if it offers the effective version of its governing
document. -/
theorem canAccept_iff :
    (ResolveConsentOverview.call purposeRef status documents prerequisites).canAccept = true ↔
      ∃ document version, Offers status documents
        (ResolveConsentOverview.call purposeRef status documents prerequisites) document version := by
  constructor
  · intro haccept
    unfold ConsentOverview.canAccept at haccept
    simp only [Bool.and_eq_true] at haccept
    obtain ⟨⟨hneeds, hversion⟩, hmet⟩ := haccept
    obtain ⟨hpending, -, -⟩ := needsAcceptance_stateOf_iff.mp hneeds
    obtain ⟨versionId, hversionId⟩ := Option.isSome_iff_exists.mp hversion
    obtain ⟨document, hdocument, hmapped⟩ := Option.bind_eq_some_iff.mp hversionId
    obtain ⟨version, heffective, rfl⟩ := Option.map_eq_some_iff.mp hmapped
    exact ⟨document, version, hpending, hmet, hdocument, documentFor_eq_some_iff.mp hdocument,
      heffective, hversionId⟩
  · rintro ⟨document, version, hpending, hmet, hshown, -, heffective, hpinned⟩
    have hany : (ResolveConsentOverview.documentFor purposeRef status.documentId documents).any
        (·.hasEffectiveVersion) = true := by
      have hfound : ResolveConsentOverview.documentFor purposeRef status.documentId documents =
          some document := hshown
      simp [hfound, LegalDocument.hasEffectiveVersion, heffective]
    unfold ConsentOverview.canAccept
    simp only [Bool.and_eq_true]
    refine ⟨⟨needsAcceptance_stateOf_iff.mpr ⟨hpending, hany, hmet⟩, ?_⟩, hmet⟩
    rw [hpinned]
    rfl

/-- What can be accepted is the version that the list gives for the governing document: of the list, the
one that the status names wherever the list has it, and otherwise one that covers the purpose. -/
theorem offers_governing (purposeRef : String) (status : ConsentStatusRecord)
    (documents : List LegalDocument) (prerequisites : ConsentPrerequisites) :
    ((ResolveConsentOverview.call purposeRef status documents prerequisites).canAccept = true ↔
        ∃ document version, Offers status documents
          (ResolveConsentOverview.call purposeRef status documents prerequisites) document version) ∧
      ∀ document version, Offers status documents
          (ResolveConsentOverview.call purposeRef status documents prerequisites) document version →
        document ∈ documents ∧
          ((∃ other ∈ documents, Named status.documentId other) → Named status.documentId document) ∧
          (Named status.documentId document ∨ document.covers purposeRef = true) :=
  ⟨canAccept_iff, fun _ _ hoffers ↦ hoffers.governs.law⟩

end Offers

/-- Only what the status names is offered: a document that covers the purpose, of the identifier and in
the version that the status names, and nothing where the list has none of these. -/
structure OnlyNamed (purposeRef : String) (status : ConsentStatusRecord)
    (documents : List LegalDocument) (overview : ConsentOverview) : Prop where
  covers : overview.canAccept = true → ∃ document ∈ overview.document, document.covers purposeRef = true
  version : overview.canAccept = true →
    ∀ versionId ∈ status.effectiveVersionId, overview.acceptableVersionId = some versionId
  document : overview.canAccept = true →
    ∀ documentId ∈ status.documentId, ∃ document ∈ overview.document, document.documentId = documentId
  absentDocument : (∃ documentId ∈ status.documentId, ∀ document ∈ documents,
    document.documentId ≠ documentId) → overview.canAccept = false
  absentVersion : (∃ versionId ∈ status.effectiveVersionId, ∀ document ∈ documents,
    ∀ version ∈ document.effectiveVersion, version.versionId ≠ versionId) → overview.canAccept = false

/-- A named document that covers another purpose only, a version that the list has moved on from, and a
document that covers the purpose where the named one is not listed: each is offered. -/
theorem offers_unnamed :
    let met : ConsentPrerequisites := ⟨true, true, true⟩
    let status : ConsentStatusRecord :=
      ⟨"purpose:a", .noGrant, false, "entity", some "doc-a", some "1", some "version-1", none, none,
        none⟩
    let listed (documentId purposeRef versionId : String) : List LegalDocument :=
      [⟨documentId, "TERMS", "entity", "qa", [purposeRef],
        some ⟨versionId, "1", .reacceptanceRequired, none⟩⟩]
    let offer (documents : List LegalDocument) :=
      OnlyNamed "purpose:a" status documents
        (ResolveConsentOverview.call "purpose:a" status documents met)
    ¬ offer (listed "doc-a" "purpose:b" "version-1") ∧ ¬ offer (listed "doc-a" "purpose:a" "version-2") ∧
      ¬ offer (listed "doc-b" "purpose:a" "version-1") := by
  intro met status listed offer
  refine ⟨fun honly ↦ ?_, fun honly ↦ ?_, fun honly ↦ ?_⟩
  · obtain ⟨document, hdocument, hcovers⟩ := honly.covers (by decide)
    obtain rfl := Option.some.inj hdocument
    exact absurd hcovers (by decide)
  · exact absurd (honly.version (by decide) "version-1" rfl) (by decide)
  · obtain ⟨document, hdocument, hnamed⟩ := honly.document (by decide) "doc-a" rfl
    obtain rfl := Option.some.inj hdocument
    exact absurd hnamed (by decide)

end Karar.MobileConsent
