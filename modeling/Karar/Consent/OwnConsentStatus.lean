import Karar.Consent.LegalDocument
import Mathlib.Data.List.Sort

/-!
# Reading one's own consent status

`GetOwnConsentStatus` over the repositories it is constructed with, and the Prisma repositories over
the tables of migrations 0064 and 0065. The use case resolves the effective operating entity, the
one document that covers the purpose, the document's current effective version, the subject's
resolution grant and the version that grant pinned, and hands them to the classification matrix.

A repository answers with a value or throws; the directory of operating entities belongs to another
module and is a port here. The tables are the lists of their rows in insertion order, and
`findFirst` with an `orderBy` is the leading row under that order.
-/

namespace Karar.Consent

open SharedKernel Foundation

structure ConsentPrincipal where
  userId : String
  tenantId : String
deriving DecidableEq

/-! ### Errors -/

inductive GetOwnConsentStatusError
  | noEffectiveEntity (message : String)
  | ambiguousJurisdiction (purposeRef : String) (jurisdictionRefs : List String) (message : String)
  | storeFailure (message : String)
deriving DecidableEq

/-! ### Ports -/

structure ConsentGrantRepository where
  latestResolutionGrant (principal : ConsentPrincipal)
    (entityId purposeRef jurisdictionRef : String) : Except String (Option ConsentGrant)

structure LegalDocumentRepository where
  findDocumentsCoveringPurpose (entityId purposeRef : String) (jurisdictionRef : Option String) :
    Except String (List LegalDocument)
  findVersionById (id : String) : Except String (Option LegalDocumentVersion)
  currentEffectiveVersion (documentId : String) (at_ : Instant) :
    Except String (Option LegalDocumentVersion)

/-- The entity effective for a principal at an instant, or the refusal. -/
structure OperatingEntityDirectory where
  resolveEffectiveEntity (tenantId userId : String) (at_ : Instant) :
    Except GetOwnConsentStatusError String

/-! ### The use case -/

structure GetOwnConsentStatusInput where
  principal : ConsentPrincipal
  purposeRef : String
  /-- Required only when documents for several jurisdictions cover the purpose. -/
  jurisdictionRef : Option String
  now : Instant

structure OwnConsentStatus extends ConsentStatusView where
  purposeRef : String
  jurisdictionRef : Option String
  operatingEntityId : String
  documentId : Option String
deriving DecidableEq

structure GetOwnConsentStatus where
  grants : ConsentGrantRepository
  documents : LegalDocumentRepository
  directory : OperatingEntityDirectory

/-- The documents covering the purpose. A blank jurisdiction reference throws inside the same `try`
block as the read, so it too comes back as the message of a store failure. -/
def GetOwnConsentStatus.candidates (useCase : GetOwnConsentStatus) (entityId purposeRef : String)
    (scopeRef : Option String) : Except String (List LegalDocument) := do
  let scope ←
    match scopeRef with
    | none => pure none
    | some ref => some <$> (requireRef "JurisdictionRef" ref).mapError (·.message)
  useCase.documents.findDocumentsCoveringPurpose entityId purposeRef scope

/-- The status of the one document that covers the purpose; a throwing read ends it. -/
def GetOwnConsentStatus.statusOf (useCase : GetOwnConsentStatus)
    (input : GetOwnConsentStatusInput) (entityId : String) (document : LegalDocument) :
    Except String OwnConsentStatus := do
  let effectiveVersion ← useCase.documents.currentEffectiveVersion document.id input.now
  let grant ← useCase.grants.latestResolutionGrant input.principal entityId input.purposeRef
    document.jurisdictionRef
  let grantedVersion ←
    match grant with
    | none => pure none
    | some grant => useCase.documents.findVersionById grant.legalDocumentVersionId
  let view := resolveConsentStatus
    { grant := grant
      grantedVersionEffectiveAt := grantedVersion.bind (·.effectiveAt)
      effectiveVersion := effectiveVersion }
  return { view with
    purposeRef := input.purposeRef
    jurisdictionRef := some document.jurisdictionRef
    operatingEntityId := entityId
    documentId := some document.id }

/-- A blank purpose reference is a defect at the call site and throws; every expected failure is a
`GetOwnConsentStatusError`. -/
def GetOwnConsentStatus.execute (useCase : GetOwnConsentStatus)
    (input : GetOwnConsentStatusInput) :
    Except InvalidReferenceError (Except GetOwnConsentStatusError OwnConsentStatus) := do
  let purposeRef ← requireRef "PurposeRef" input.purposeRef
  match useCase.directory.resolveEffectiveEntity input.principal.tenantId input.principal.userId
      input.now with
  | .error refusal => return .error refusal
  | .ok entityId =>
    match useCase.candidates entityId purposeRef input.jurisdictionRef with
    | .error message => return .error (.storeFailure message)
    | .ok [] =>
      -- No published disclosure exists for this purpose: fail closed.
      return .ok
        { state := .noGrant
          noticeRequired := false
          grantId := none
          grantedVersion := none
          effectiveVersionId := none
          effectiveVersion := none
          purposeRef := purposeRef
          jurisdictionRef := input.jurisdictionRef
          operatingEntityId := entityId
          documentId := none }
    | .ok [document] =>
      match useCase.statusOf input entityId document with
      | .error message => return .error (.storeFailure message)
      | .ok status => return .ok status
    | .ok (first :: second :: rest) =>
      return .error (.ambiguousJurisdiction purposeRef
        ((first :: second :: rest).map (·.jurisdictionRef))
        s!"purpose '{purposeRef}' is covered by more than one document; name a jurisdiction to disambiguate — resolution refuses to guess (fails closed)")

/-! ### The Prisma repositories -/

/-- A row of `consent_grants`: the grant and the column the schema fills. -/
structure ConsentGrantRow where
  grant : ConsentGrant
  createdAt : Instant
deriving DecidableEq

/-- The tables `legal_documents`, `legal_document_versions` and `consent_grants`, whose primary keys
make the ids of a table distinct. -/
structure ConsentTables where
  documents : List LegalDocument
  versions : List LegalDocumentVersion
  grants : List ConsentGrantRow
  version_ids : (versions.map (·.id)).Nodup

/-- Published and effective at an instant: the `where` of `currentEffectiveVersion`. -/
def inForce (documentId : String) (at_ : Instant) (version : LegalDocumentVersion) : Bool :=
  version.documentId = documentId && isPublished version &&
    match version.effectiveAt with
    | some effectiveAt => decide (effectiveAt ≤ at_)
    | none => false

/-- The order of `currentEffectiveVersion`: later `effectiveAt` first, then later `publishedAt`.
The `where` leaves neither of them null. -/
def publicationKey (version : LegalDocumentVersion) : Instant × Instant :=
  (version.effectiveAt.getD 0, version.publishedAt.getD 0)

def publishedAhead (a b : LegalDocumentVersion) : Bool :=
  decide ((publicationKey b).1 < (publicationKey a).1) ||
    (publicationKey b).1 == (publicationKey a).1 &&
      decide ((publicationKey b).2 < (publicationKey a).2)

/-- The order of `latestResolutionGrant`: later `grantedAt` first, then later `createdAt`. -/
def grantedAhead (a b : ConsentGrantRow) : Bool :=
  decide (b.grant.grantedAt < a.grant.grantedAt) ||
    b.grant.grantedAt == a.grant.grantedAt && decide (b.createdAt < a.createdAt)

def ConsentTables.currentEffectiveVersion (tables : ConsentTables) (documentId : String)
    (at_ : Instant) : Option LegalDocumentVersion :=
  leading publishedAhead (tables.versions.filter (inForce documentId at_))

def ConsentTables.findVersionById (tables : ConsentTables) (id : String) :
    Option LegalDocumentVersion :=
  tables.versions.find? (·.id = id)

/-- Row-level security and the `where` clause both restrict the rows to the principal's own. -/
def ConsentTables.latestResolutionGrant (tables : ConsentTables) (principal : ConsentPrincipal)
    (entityId purposeRef jurisdictionRef : String) : Option ConsentGrant :=
  let candidates := tables.grants.filter fun row ↦
    row.grant.userId = principal.userId && row.grant.tenantId = principal.tenantId &&
      row.grant.operatingEntityId = entityId && row.grant.purposeRef = purposeRef &&
      row.grant.jurisdictionRef = jurisdictionRef &&
      (row.grant.status = .active || row.grant.status = .withdrawn)
  (leading grantedAhead candidates).map (·.grant)

def ConsentTables.findDocumentsCoveringPurpose (tables : ConsentTables)
    (entityId purposeRef : String) (jurisdictionRef : Option String) : List LegalDocument :=
  (tables.documents.filter fun document ↦
      document.entityId = entityId && documentCoversPurpose document purposeRef &&
        (jurisdictionRef.all (document.jurisdictionRef = ·))).insertionSort
    fun a b ↦ a.createdAt ≤ b.createdAt

def PrismaConsentGrantRepository (tables : ConsentTables) : ConsentGrantRepository where
  latestResolutionGrant principal entityId purposeRef jurisdictionRef :=
    .ok (tables.latestResolutionGrant principal entityId purposeRef jurisdictionRef)

def PrismaLegalDocumentRepository (tables : ConsentTables) : LegalDocumentRepository where
  findDocumentsCoveringPurpose entityId purposeRef jurisdictionRef :=
    .ok (tables.findDocumentsCoveringPurpose entityId purposeRef jurisdictionRef)
  findVersionById id := .ok (tables.findVersionById id)
  currentEffectiveVersion documentId at_ := .ok (tables.currentEffectiveVersion documentId at_)

/-- The use case over the database. -/
def GetOwnConsentStatus.overTables (tables : ConsentTables) (directory : OperatingEntityDirectory) :
    GetOwnConsentStatus where
  grants := PrismaConsentGrantRepository tables
  documents := PrismaLegalDocumentRepository tables
  directory := directory

end Karar.Consent
