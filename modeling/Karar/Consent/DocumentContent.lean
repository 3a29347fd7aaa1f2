import Karar.Consent.StatusLaw
import Karar.Errors.ErrorBoundary
import Karar.Platform.PolicyPathLaws

/-!
# The content of a legal document

`GET documents/:documentId/content` through the controller, the use case `GetLegalDocumentContent` and
the error boundary. The use case performs up to four reads: the operating entity of the caller, the
document, its version in force, and the content of that version. Content is served from the version in
force, under the hash it pinned (`served_of_respond`).

A document of another entity is answered as one that does not exist, unless its versions cannot be
read: the third read is performed for a document that exists only, and its failure is answered
differently (`respond_eq_iff`).
-/

namespace Karar.Consent.DocumentContent

open Foundation SharedKernel Errors

/-! ### The catalogue -/

structure LegalDocumentContent where
  language : String
  format : String
  content : String
deriving DecidableEq

/-- The documents, their versions, and what the content source holds for a version. -/
structure Catalogue where
  documents : List LegalDocument
  versions : List LegalDocumentVersion
  contents : LegalDocumentVersion → Option LegalDocumentContent

namespace Catalogue

/-- The column is a UUID, whose text is in lower case. -/
def findDocumentById (catalogue : Catalogue) (id : String) : Option LegalDocument :=
  catalogue.documents.find? (·.id = id.toLower)

/-- The published versions in effect, the latest first. -/
def currentEffectiveVersion (catalogue : Catalogue) (documentId : String) (at_ : Instant) :
    Option LegalDocumentVersion :=
  leading publishedAhead (catalogue.versions.filter (inForce documentId at_))

end Catalogue

/-! ### The use case -/

inductive UnavailableReason
  | noEffectiveVersion
  | notRetrievable
  | languageNotStated
deriving DecidableEq

def UnavailableReason.label : UnavailableReason → String
  | .noEffectiveVersion => "NO_EFFECTIVE_VERSION"
  | .notRetrievable => "NOT_RETRIEVABLE"
  | .languageNotStated => "LANGUAGE_NOT_STATED"

inductive GetLegalDocumentContentError
  | notFound (resource id : String)
  | noEffectiveEntity (message : String)
  | contentUnavailable (documentId : String) (reason : UnavailableReason) (message : String)
  | integrityMismatch (documentId versionId message : String)
  | storeFailure (message : String)
deriving DecidableEq

structure LegalDocumentContentView where
  documentId : String
  versionId : String
  version : String
  contentHash : String
  effectiveAt : Option Instant
  language : String
  format : String
  content : String
deriving DecidableEq

/-- The refusals of the directory of operating entities. -/
inductive DirectoryError
  | noEffectiveEntity (message : String)
  | storeFailure (message : String)
deriving DecidableEq

def DirectoryError.toContentError : DirectoryError → GetLegalDocumentContentError
  | .noEffectiveEntity message => .noEffectiveEntity message
  | .storeFailure message => .storeFailure message

/-- The message with which a read fails at each place, if it is performed. The first read answers by
itself, or throws. -/
structure Reads where
  entity : Except String (Except DirectoryError String)
  document : Option String
  version : Option String
  content : Option String

/-- A read, where it does not fail. -/
def readOrFail {α : Type} (failure : Option String) (value : α) :
    Except GetLegalDocumentContentError α :=
  match failure with
  | some message => .error (.storeFailure message)
  | none => .ok value

/-- What the use case is built with and takes from its environment. -/
structure Deps where
  /-- `digest.sha256Hex`. -/
  sha256Hex : String → String
  caseData : CaseData

/-- `a.toLowerCase() === b.toLowerCase()`. -/
def Deps.sameHash (deps : Deps) (a b : String) : Bool :=
  deps.caseData.toLowerCase a.toList = deps.caseData.toLowerCase b.toList

/-- The document and the version in force. The second read is of an existing document only. -/
def findPublished (catalogue : Catalogue) (reads : Reads) (documentId : String) (now : Instant) :
    Except GetLegalDocumentContentError (Option (LegalDocument × Option LegalDocumentVersion)) := do
  match ← readOrFail reads.document (catalogue.findDocumentById documentId) with
  | none => return none
  | some document =>
    let version ← readOrFail reads.version (catalogue.currentEffectiveVersion document.id now)
    return some (document, version)

/-- The content of a version, verified. -/
def verified (deps : Deps) (document : LegalDocument) (version : LegalDocumentVersion)
    (content : Option LegalDocumentContent) :
    Except GetLegalDocumentContentError LegalDocumentContentView :=
  match content with
  | none =>
    .error (.contentUnavailable document.id .notRetrievable
      (s!"no content for version {version.id} is retrievable in this deployment; " ++
        "nothing is substituted"))
  | some content =>
    if isBlank content.language then
      .error (.contentUnavailable document.id .languageNotStated
        (s!"content for version {version.id} states no language; text whose language cannot be " ++
          "named is not displayed for consent"))
    else if !deps.sameHash (deps.sha256Hex content.content) version.contentHash then
      .error (.integrityMismatch document.id version.id
        (s!"retrieved content does not match the hash published version {version.id} pinned; " ++
          "refused rather than displayed"))
    else
      .ok
        { documentId := document.id
          versionId := version.id
          version := version.version
          contentHash := version.contentHash
          effectiveAt := version.effectiveAt
          language := content.language
          format := content.format
          content := content.content }

/-- `GetLegalDocumentContent.execute`, from the operating entity on. -/
def contentFor (deps : Deps) (catalogue : Catalogue) (reads : Reads) (entityId documentId : String)
    (now : Instant) : Except GetLegalDocumentContentError LegalDocumentContentView := do
  match ← findPublished catalogue reads documentId now with
  | none => throw (.notFound "legal_document" documentId)
  | some (document, version) =>
    if document.entityId ≠ entityId then throw (.notFound "legal_document" documentId)
    else
      match version with
      | none =>
        throw (.contentUnavailable document.id .noEffectiveVersion
          s!"document {document.id} has no version in force; there is nothing published to display")
      | some version =>
        verified deps document version (← readOrFail reads.content (catalogue.contents version))

/-- `GetLegalDocumentContent.execute`. The first read may throw. -/
def execute (deps : Deps) (catalogue : Catalogue) (reads : Reads) (documentId : String)
    (now : Instant) :
    Except String (Except GetLegalDocumentContentError LegalDocumentContentView) :=
  match reads.entity with
  | .error message => .error message
  | .ok (.error refusal) => .ok (.error refusal.toContentError)
  | .ok (.ok entityId) => .ok (contentFor deps catalogue reads entityId documentId now)

/-! ### The controller -/

/-- A problem of the controller, with the members that some problems lack. -/
def problemBody (title : String) (status : ℤ) (code : String) (more : List (String × String)) :
    List (String × Value) :=
  [("type", .string "about:blank"), ("title", .string title), ("status", .number status),
    ("code", .string code)] ++ more.map fun (key, text) ↦ (key, .string text)

/-- `problemFor`. -/
def problemFor : GetLegalDocumentContentError → ℤ × List (String × Value)
  | .notFound _ _ =>
    (404, problemBody "Document not found" 404 "DOCUMENT_NOT_FOUND"
      [("detail", "no legal document with that id applies to this caller")])
  | .noEffectiveEntity message =>
    (409, problemBody "No operating entity" 409 "NO_EFFECTIVE_ENTITY" [("detail", message)])
  | .contentUnavailable _ reason message =>
    (409, problemBody "Document content unavailable" 409 "DOCUMENT_CONTENT_UNAVAILABLE"
      [("detail", message), ("reason", reason.label)])
  | .integrityMismatch _ _ _ =>
    (503, problemBody "Document content unverifiable" 503 "DOCUMENT_CONTENT_UNVERIFIABLE"
      [("detail", "the retrieved content did not match the published version; nothing was served")])
  | .storeFailure _ => (503, problemBody "Consent catalogue unavailable" 503 "STORE_UNAVAILABLE" [])

/-- `new HttpException(problem.body, problem.status)`. -/
def httpException (problem : ℤ × List (String × Value)) : Thrown :=
  .httpException
    { isServiceUnavailable := false
      status := problem.1
      message := "Http Exception"
      response := .object problem.2
      status_of_unavailable := nofun }

/-- An exception class of the framework, with its message. -/
def frameworkException (status : ℤ) (error message : String) : Thrown :=
  .httpException
    { isServiceUnavailable := false
      status := status
      message := message
      response := .object
        [("message", .string message), ("error", .string error), ("statusCode", .number status)]
      status_of_unavailable := nofun }

structure ContentRequest where
  /-- The principal of the request, or why there is none. -/
  principal : Except String ConsentPrincipal
  documentId : String
  now : Instant
  http : Request
  traceId : Option String

/-- `readContent`: what is sent, or thrown. The reads are those of the caller. -/
def readContent (deps : Deps) (catalogue : Catalogue) (reads : ConsentPrincipal → Reads)
    (request : ContentRequest) : Except Thrown LegalDocumentContentView :=
  match request.principal with
  | .error message => .error (frameworkException 401 "Unauthorized" message)
  | .ok principal =>
    if !isUuid request.documentId then
      .error (frameworkException 404 "Not Found" "no legal document with that id applies to this caller")
    else
      match execute deps catalogue (reads principal) request.documentId request.now with
      | .error message =>
        .error (.object
          { isFunction := false
            isError := true
            getStatus := .absent
            getResponse := .absent
            text := some message })
      | .ok (.error error) => .error (httpException (problemFor error))
      | .ok (.ok view) => .ok view

/-! ### The answer -/

inductive ResponseBody
  | content (view : LegalDocumentContentView)
  | problem (body : Body)

/-- A status and a body. -/
structure Response where
  status : ℤ
  body : ResponseBody

/-- The answer of the route, through the error boundary. -/
def respond (deps : Deps) (catalogue : Catalogue) (reads : ConsentPrincipal → Reads)
    (request : ContentRequest) : Except Unit Response :=
  match readContent deps catalogue reads request with
  | .ok view => .ok ⟨200, .content view⟩
  | .error thrown => do
    let handled ← catch_ thrown request.http request.traceId
    return ⟨handled.status, .problem handled.body⟩

/-- The boundary forwards the problems of the controller. -/
theorem catch_problem (error : GetLegalDocumentContentError) (http : Request)
    (traceId : Option String) :
    ∃ handled, catch_ (httpException (problemFor error)) http traceId = .ok handled ∧
      handled.status = (problemFor error).1 ∧ handled.body = .authored (problemFor error).2 := by
  cases error with
  | notFound resource id => exact ⟨_, rfl, rfl, rfl⟩
  | noEffectiveEntity message => exact ⟨_, rfl, rfl, rfl⟩
  | contentUnavailable documentId reason message => exact ⟨_, rfl, rfl, rfl⟩
  | integrityMismatch documentId versionId message => exact ⟨_, rfl, rfl, rfl⟩
  | storeFailure message => exact ⟨_, rfl, rfl, rfl⟩

theorem respond_of_error {deps : Deps} {catalogue : Catalogue} {reads : ConsentPrincipal → Reads}
    {request : ContentRequest} {error : GetLegalDocumentContentError}
    (h : readContent deps catalogue reads request = .error (httpException (problemFor error))) :
    respond deps catalogue reads request =
      .ok ⟨(problemFor error).1, .problem (.authored (problemFor error).2)⟩ := by
  obtain ⟨handled, hcatch, hstatus, hbody⟩ := catch_problem error request.http request.traceId
  rw [respond, h]
  simp only [hcatch, hstatus, hbody, bind, Except.bind, pure, Except.pure]

/-! ### What may not be told apart -/

/-- The catalogues have the same documents of the entity. -/
def Catalogue.AgreeOn (entityId : String) (catalogue other : Catalogue) : Prop :=
  catalogue.documents.filter (·.entityId = entityId) = other.documents.filter (·.entityId = entityId)

/-- No document of the entity has the id. -/
def Catalogue.Foreign (catalogue : Catalogue) (entityId documentId : String) : Prop :=
  ∀ document ∈ catalogue.documents, document.id = documentId.toLower → document.entityId ≠ entityId

/-- The id is the id of a document. -/
def Catalogue.Has (catalogue : Catalogue) (documentId : String) : Prop :=
  (catalogue.findDocumentById documentId).isSome

/-- The catalogues agree on the documents of the entity of the caller, and the id is of none. -/
def ForeignToCaller (catalogue other : Catalogue) (reads : ConsentPrincipal → Reads)
    (request : ContentRequest) : Prop :=
  ∀ principal entityId, request.principal = .ok principal →
    (reads principal).entity = .ok (.ok entityId) →
    catalogue.AgreeOn entityId other ∧ catalogue.Foreign entityId request.documentId

/-- The versions cannot be read after a document was, and one of the catalogues has none to read. -/
def Exposed (catalogue other : Catalogue) (reads : ConsentPrincipal → Reads)
    (request : ContentRequest) : Prop :=
  ∃ principal entityId, request.principal = .ok principal ∧ isUuid request.documentId = true ∧
    (reads principal).entity = .ok (.ok entityId) ∧ (reads principal).document = none ∧
    (reads principal).version ≠ none ∧
    ¬ (catalogue.Has request.documentId ↔ other.Has request.documentId)

section Foreign

variable {deps : Deps} {catalogue other : Catalogue} {entityId documentId : String} {now : Instant}

theorem foreign_of_agreeOn (hagree : catalogue.AgreeOn entityId other)
    (hforeign : catalogue.Foreign entityId documentId) : other.Foreign entityId documentId := by
  intro document hdocument hid hentity
  have hlisted : document ∈ other.documents.filter (·.entityId = entityId) :=
    List.mem_filter.mpr ⟨hdocument, by simpa using hentity⟩
  rw [← hagree] at hlisted
  exact hforeign document (List.mem_filter.mp hlisted).1 hid hentity

/-- The error for a foreign id: the first of the two reads that fails, or the absence. -/
def foreignError (reads : Reads) (has : Bool) (documentId : String) : GetLegalDocumentContentError :=
  match reads.document with
  | some message => .storeFailure message
  | none =>
    match if has then reads.version else none with
    | some message => .storeFailure message
    | none => .notFound "legal_document" documentId

/-- A foreign id is refused, and whether it exists shows in a read of its versions that fails. -/
theorem contentFor_of_foreign (hforeign : catalogue.Foreign entityId documentId) (reads : Reads) :
    contentFor deps catalogue reads entityId documentId now =
      .error (foreignError reads (catalogue.findDocumentById documentId).isSome documentId) := by
  unfold contentFor findPublished foreignError
  cases hread : reads.document with
  | some message => rfl
  | none =>
    cases hfound : catalogue.findDocumentById documentId with
    | none => rfl
    | some document =>
      have hid : document.id = documentId.toLower := by simpa using List.find?_some hfound
      have hentity := hforeign document (List.mem_of_find?_eq_some hfound) hid
      cases hversion : reads.version with
      | some message => rfl
      | none => simp [readOrFail, hentity, bind, Except.bind, pure, Except.pure, throw, throwThe,
          MonadExceptOf.throw]

theorem readContent_of_foreign {reads : ConsentPrincipal → Reads} {request : ContentRequest}
    {principal : ConsentPrincipal} (hprincipal : request.principal = .ok principal)
    (huuid : isUuid request.documentId = true)
    (hentity : (reads principal).entity = .ok (.ok entityId))
    (hforeign : catalogue.Foreign entityId request.documentId) :
    readContent deps catalogue reads request =
      .error (httpException (problemFor (foreignError (reads principal)
        (catalogue.findDocumentById request.documentId).isSome request.documentId))) := by
  simp only [readContent, hprincipal, huuid, execute, hentity, contentFor_of_foreign hforeign]
  rfl

end Foreign

/-! ### The route is no oracle -/

section Oracle

variable {deps : Deps} {catalogue other : Catalogue} {reads : ConsentPrincipal → Reads}
  {request : ContentRequest}

/-- The errors for a foreign id differ where a read of versions fails for one catalogue only. -/
theorem problemFor_foreignError_eq_iff (reads : Reads) (has has' : Bool) (documentId : String) :
    problemFor (foreignError reads has documentId) = problemFor (foreignError reads has' documentId) ↔
      ¬ (reads.document = none ∧ reads.version ≠ none ∧ has ≠ has') := by
  unfold foreignError
  cases hdocument : reads.document with
  | some message => simp
  | none =>
    cases hversion : reads.version with
    | none => simp
    | some message => cases has <;> cases has' <;> simp [problemFor]

theorem readContent_congr (hsame : ∀ principal entityId, request.principal = .ok principal →
      isUuid request.documentId = true → (reads principal).entity ≠ .ok (.ok entityId)) :
    readContent deps catalogue reads request = readContent deps other reads request := by
  unfold readContent
  cases hprincipal : request.principal with
  | error message => rfl
  | ok principal =>
    cases huuid : isUuid request.documentId with
    | false => rfl
    | true =>
      have hnone := fun entityId ↦ hsame principal entityId hprincipal huuid
      cases hentity : (reads principal).entity with
      | error message => simp only [execute, hentity]
      | ok resolved =>
        cases resolved with
        | error refusal => simp only [execute, hentity]
        | ok entityId => exact absurd hentity (hnone entityId)

/-- Two catalogues that agree on the documents of the caller's entity answer a foreign id alike, unless
its versions cannot be read and only one of them has it. -/
theorem respond_eq_iff (hforeign : ForeignToCaller catalogue other reads request) :
    respond deps catalogue reads request = respond deps other reads request ↔
      ¬ Exposed catalogue other reads request := by
  by_cases hreached : ∃ principal entityId, request.principal = .ok principal ∧
      isUuid request.documentId = true ∧ (reads principal).entity = .ok (.ok entityId)
  · obtain ⟨principal, entityId, hprincipal, huuid, hentity⟩ := hreached
    obtain ⟨hagree, hown⟩ := hforeign principal entityId hprincipal hentity
    rw [respond_of_error (readContent_of_foreign hprincipal huuid hentity hown),
      respond_of_error (readContent_of_foreign hprincipal huuid hentity (foreign_of_agreeOn hagree hown))]
    have hproblem := problemFor_foreignError_eq_iff (reads principal)
      (catalogue.findDocumentById request.documentId).isSome
      (other.findDocumentById request.documentId).isSome request.documentId
    have hexposed : Exposed catalogue other reads request ↔ (reads principal).document = none ∧
        (reads principal).version ≠ none ∧
        (catalogue.findDocumentById request.documentId).isSome ≠
          (other.findDocumentById request.documentId).isSome := by
      constructor
      · rintro ⟨principal', entityId', hprincipal', -, -, hdocument, hversion, hhas⟩
        obtain rfl := Except.ok.inj (hprincipal.symm.trans hprincipal')
        exact ⟨hdocument, hversion, fun heq ↦ hhas (Bool.eq_iff_iff.mp heq)⟩
      · rintro ⟨hdocument, hversion, hhas⟩
        exact ⟨principal, entityId, hprincipal, huuid, hentity, hdocument, hversion,
          fun heq ↦ hhas (Bool.eq_iff_iff.mpr heq)⟩
    rw [hexposed, ← hproblem]
    simp only [Except.ok.injEq, Response.mk.injEq, ResponseBody.problem.injEq, Body.authored.injEq,
      Prod.ext_iff]
  · have hsame : readContent deps catalogue reads request = readContent deps other reads request :=
      readContent_congr fun principal entityId hprincipal huuid hentity ↦
        hreached ⟨principal, entityId, hprincipal, huuid, hentity⟩
    have hnot : ¬ Exposed catalogue other reads request := by
      rintro ⟨principal, entityId, hprincipal, huuid, hentity, -⟩
      exact hreached ⟨principal, entityId, hprincipal, huuid, hentity⟩
    simp only [respond, hsame, hnot, not_false_iff]

end Oracle

/-! ### What is served -/

/-- The content is that of the version in force of a document of the entity, under its hash. -/
structure Served (deps : Deps) (catalogue : Catalogue) (entityId : String) (request : ContentRequest)
    (view : LegalDocumentContentView) (document : LegalDocument) (version : LegalDocumentVersion) :
    Prop where
  document_mem : document ∈ catalogue.documents
  document_id : document.id = request.documentId.toLower
  document_entity : document.entityId = entityId
  version_mem : version ∈ catalogue.versions
  version_inForce : inForce document.id request.now version = true
  version_published : isPublished version = true
  version_latest : ∀ later ∈ catalogue.versions, inForce document.id request.now later = true →
    toLex (publicationKey later) ≤ toLex (publicationKey version)
  view_document : view.documentId = document.id
  view_version : view.versionId = version.id
  view_hash : view.contentHash = version.contentHash
  content_hash : deps.sameHash (deps.sha256Hex view.content) version.contentHash = true
  content_held : ∃ content ∈ catalogue.contents version, view.content = content.content ∧
    view.language = content.language ∧ isBlank view.language = false

theorem verified_eq_ok {deps : Deps} {document : LegalDocument} {version : LegalDocumentVersion}
    {content : Option LegalDocumentContent} {view : LegalDocumentContentView}
    (h : verified deps document version content = .ok view) :
    ∃ held, content = some held ∧ isBlank held.language = false ∧
      deps.sameHash (deps.sha256Hex held.content) version.contentHash = true ∧
      view =
        { documentId := document.id
          versionId := version.id
          version := version.version
          contentHash := version.contentHash
          effectiveAt := version.effectiveAt
          language := held.language
          format := held.format
          content := held.content } := by
  unfold verified at h
  split at h
  · cases h
  next held =>
    split_ifs at h with hblank hhash
    refine ⟨held, rfl, by simpa using hblank, by simpa using hhash, (Except.ok.inj h).symm⟩

theorem readOrFail_eq_ok {α : Type} {failure : Option String} {value result : α}
    (h : readOrFail failure value = .ok result) : result = value := by
  unfold readOrFail at h
  split at h
  · cases h
  · exact (Except.ok.inj h).symm

theorem published_of_inForce {documentId : String} {at_ : Instant} {version : LegalDocumentVersion}
    (h : inForce documentId at_ version = true) : isPublished version = true := by
  simp only [inForce, Bool.and_eq_true] at h
  exact h.1.2

/-- A document that is found comes with its version in force. -/
theorem findPublished_eq_some {catalogue : Catalogue} {reads : Reads} {documentId : String}
    {now : Instant} {document : LegalDocument} {version : Option LegalDocumentVersion}
    (h : findPublished catalogue reads documentId now = .ok (some (document, version))) :
    catalogue.findDocumentById documentId = some document ∧
      version = catalogue.currentEffectiveVersion document.id now := by
  obtain ⟨found, hfound, hrest⟩ := bind_eq_ok h
  cases found with
  | none => cases hrest
  | some found =>
    obtain ⟨current, hcurrent, hpair⟩ := bind_eq_ok hrest
    obtain ⟨rfl, rfl⟩ := Prod.mk.inj (Option.some.inj (Except.ok.inj hpair))
    exact ⟨(readOrFail_eq_ok hfound).symm, readOrFail_eq_ok hcurrent⟩

/-- What is served is the published version in force. -/
theorem served_of_contentFor {deps : Deps} {catalogue : Catalogue} {reads : Reads} {entityId : String}
    {request : ContentRequest} {view : LegalDocumentContentView}
    (h : contentFor deps catalogue reads entityId request.documentId request.now = .ok view) :
    ∃ document version, Served deps catalogue entityId request view document version := by
  obtain ⟨found, hfound, hrest⟩ := bind_eq_ok h
  cases found with
  | none => cases hrest
  | some found =>
    obtain ⟨document, version⟩ := found
    obtain ⟨hdocument, hversion⟩ := findPublished_eq_some hfound
    dsimp only at hrest
    split_ifs at hrest with hentity
    cases version with
    | none => cases hrest
    | some version =>
      obtain ⟨content, hcontent, hview⟩ := bind_eq_ok hrest
      obtain ⟨held, rfl, hlanguage, hhash, rfl⟩ := verified_eq_ok hview
      have hlisted := leading_mem hversion.symm
      have hforce := (List.mem_filter.mp hlisted).2
      refine ⟨document, version, ?_⟩
      exact
        { document_mem := List.mem_of_find?_eq_some hdocument
          document_id := by simpa using List.find?_some hdocument
          document_entity := not_not.mp hentity
          version_mem := (List.mem_filter.mp hlisted).1
          version_inForce := hforce
          version_published := published_of_inForce hforce
          version_latest := fun later hlater hinForce ↦
            key_le_of_leading publishedAhead_iff hversion.symm (List.mem_filter.mpr ⟨hlater, hinForce⟩)
          view_document := rfl
          view_version := rfl
          view_hash := rfl
          content_hash := hhash
          content_held := ⟨held, (readOrFail_eq_ok hcontent).symm, rfl, rfl, hlanguage⟩ }

theorem served_of_respond {deps : Deps} {catalogue : Catalogue} {reads : ConsentPrincipal → Reads}
    {request : ContentRequest} {status : ℤ} {view : LegalDocumentContentView}
    (h : respond deps catalogue reads request = .ok ⟨status, .content view⟩) :
    ∃ principal entityId document version, request.principal = .ok principal ∧
      (reads principal).entity = .ok (.ok entityId) ∧
      Served deps catalogue entityId request view document version := by
  unfold respond at h
  split at h
  next sent hsent =>
    obtain ⟨-, hview⟩ := Response.mk.inj (Except.ok.inj h)
    obtain rfl := ResponseBody.content.inj hview
    unfold readContent at hsent
    split at hsent
    · cases hsent
    next principal hprincipal =>
      split_ifs at hsent
      split at hsent
      · cases hsent
      · cases hsent
      next executed hexecuted =>
        obtain rfl := Except.ok.inj hsent
        unfold execute at hexecuted
        split at hexecuted
        · cases hexecuted
        · cases hexecuted
        next entityId hentity =>
          obtain ⟨document, version, hserved⟩ := served_of_contentFor (Except.ok.inj hexecuted)
          exact ⟨principal, entityId, document, version, hprincipal, hentity, hserved⟩
  next thrown =>
    obtain ⟨handled, -, hresponse⟩ := bind_eq_ok h
    exact absurd (Response.mk.inj (Except.ok.inj hresponse)).2 nofun

/-! ### The law of the route -/

/-- Ids that are of no document of the caller's entity are answered alike exactly where they are not
`Exposed`, and content is served from the published version in force, under its hash. -/
theorem content_route (deps : Deps) (catalogue other : Catalogue) (reads : ConsentPrincipal → Reads)
    (request : ContentRequest) :
    (ForeignToCaller catalogue other reads request →
      (respond deps catalogue reads request = respond deps other reads request ↔
        ¬ Exposed catalogue other reads request)) ∧
      ∀ status view, respond deps catalogue reads request = .ok ⟨status, .content view⟩ →
        ∃ principal entityId document version, request.principal = .ok principal ∧
          (reads principal).entity = .ok (.ok entityId) ∧
          Served deps catalogue entityId request view document version :=
  ⟨respond_eq_iff, fun _ _ ↦ served_of_respond⟩

namespace Timeout

def deps : Deps where
  sha256Hex content := content
  caseData := Platform.latinCase

def foreignDocument : LegalDocument where
  id := "44444444-4444-4444-8444-444444444444"
  entityId := "other"
  jurisdictionRef := "jurisdiction:qa"
  purposeRefs := ["purpose"]
  kind := "PRIVACY_NOTICE"
  createdAt := 0

def catalogue : Catalogue := ⟨[foreignDocument], [], fun _ ↦ none⟩

def empty : Catalogue := ⟨[], [], fun _ ↦ none⟩

/-- The read of the versions fails, where it is performed. -/
def reads (_ : ConsentPrincipal) : Reads := ⟨.ok (.ok "own"), none, some "timeout", none⟩

def request : ContentRequest where
  principal := .ok ⟨"user", "tenant"⟩
  documentId := "44444444-4444-4444-8444-444444444444"
  now := 0
  http := ⟨"GET", "/consent/documents/44444444-4444-4444-8444-444444444444/content", none⟩
  traceId := none

/-- The document of the other entity is answered with 503, and the id without a document with 404. -/
theorem answers_differ :
    ForeignToCaller catalogue empty reads request ∧
      respond deps catalogue reads request ≠ respond deps empty reads request := by
  have hforeign : ForeignToCaller catalogue empty reads request := by
    rintro principal entityId - hentity
    obtain rfl : "own" = entityId := Except.ok.inj (Except.ok.inj hentity)
    refine ⟨by rfl, fun document hdocument _ ↦ ?_⟩
    rw [List.mem_singleton.mp hdocument]
    decide
  have hexists : catalogue.Has request.documentId := by
    unfold Catalogue.Has
    decide +kernel
  have hexposed : Exposed catalogue empty reads request :=
    ⟨_, "own", rfl, isUuid_fours, rfl, rfl, by simp [reads], fun hiff ↦ absurd (hiff.mp hexists) nofun⟩
  exact ⟨hforeign, fun hsame ↦ (respond_eq_iff hforeign).mp hsame hexposed⟩

end Timeout

end Karar.Consent.DocumentContent
