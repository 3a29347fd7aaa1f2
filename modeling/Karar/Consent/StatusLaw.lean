import Karar.Consent.OwnConsentStatus
import Karar.Foundation.KeyedTable
import Mathlib.Data.Prod.Lex

/-!
# Consent status over the version history

A subject whose document was republished with a material change has a re-acceptance outstanding, and
processing is not permitted until it is given. The status is computed from the document's current
effective version alone (`resolveConsentStatus_permits_of_newer`), and the versions between the
accepted one and the current one do not enter it. `permitsOnlyWithoutOutstanding_iff` says exactly
when that is enough: when no version of the interval asks for re-acceptance, or the newest version
of the interval does. Otherwise the newest version, which asks nothing of anyone, masks the material
one behind it (`outstanding_masked`).

The interval is that of the versions published with an effective instant after that of the accepted
version and not after the instant asked about (`interveningVersions`). When it is not empty its
newest version is the document's current effective version
(`currentEffectiveVersion_eq_of_intervening`), and that version is not the accepted one.
-/

namespace Karar.Consent

open SharedKernel Foundation

/-! ### What a run of the use case reports -/

/-- A status that names a document is the status of the only candidate document. -/
theorem GetOwnConsentStatus.execute_eq_ok {useCase : GetOwnConsentStatus}
    {input : GetOwnConsentStatusInput} {status : OwnConsentStatus} {documentId : String}
    (hrun : useCase.execute input = .ok (.ok status))
    (hdocument : status.documentId = some documentId) :
    ∃ entityId document,
      useCase.directory.resolveEffectiveEntity input.principal.tenantId input.principal.userId
        input.now = .ok entityId ∧
      useCase.candidates entityId input.purposeRef input.jurisdictionRef = .ok [document] ∧
      useCase.statusOf input entityId document = .ok status := by
  unfold GetOwnConsentStatus.execute at hrun
  cases hpurpose : requireRef "PurposeRef" input.purposeRef with
  | error refusal =>
    rw [hpurpose] at hrun
    cases hrun
  | ok purposeRef =>
    obtain ⟨rfl, -⟩ := requireRef_eq_ok hpurpose
    rw [hpurpose] at hrun
    simp only [bind, Except.bind, pure, Except.pure] at hrun
    cases hentity : useCase.directory.resolveEffectiveEntity input.principal.tenantId
        input.principal.userId input.now with
    | error refusal => simp [hentity] at hrun
    | ok entityId =>
      cases hcandidates : useCase.candidates entityId input.purposeRef input.jurisdictionRef with
      | error message => simp [hentity, hcandidates] at hrun
      | ok documents =>
        match documents, hcandidates with
        | [], hcandidates =>
          simp only [hentity, hcandidates, Except.ok.injEq] at hrun
          subst hrun
          cases hdocument
        | [document], hcandidates =>
          cases hstatus : useCase.statusOf input entityId document with
          | error message => simp [hentity, hcandidates, hstatus] at hrun
          | ok found =>
            simp only [hentity, hcandidates, hstatus, Except.ok.injEq] at hrun
            exact ⟨entityId, document, rfl, hcandidates, hrun ▸ hstatus⟩
        | first :: second :: rest, hcandidates => simp [hentity, hcandidates] at hrun

/-- The status of a document over the tables is the classification matrix on the subject's
resolution grant, the version it pinned and the current effective version. -/
theorem statusOf_overTables (tables : ConsentTables) (directory : OperatingEntityDirectory)
    (input : GetOwnConsentStatusInput) (entityId : String) (document : LegalDocument) :
    (GetOwnConsentStatus.overTables tables directory).statusOf input entityId document = .ok
      { resolveConsentStatus
          { grant := tables.latestResolutionGrant input.principal entityId input.purposeRef
              document.jurisdictionRef
            grantedVersionEffectiveAt :=
              ((tables.latestResolutionGrant input.principal entityId input.purposeRef
                document.jurisdictionRef).bind fun grant ↦
                  tables.findVersionById grant.legalDocumentVersionId).bind (·.effectiveAt)
            effectiveVersion := tables.currentEffectiveVersion document.id input.now } with
        purposeRef := input.purposeRef
        jurisdictionRef := some document.jurisdictionRef
        operatingEntityId := entityId
        documentId := some document.id } := by
  unfold GetOwnConsentStatus.statusOf
  simp only [GetOwnConsentStatus.overTables, PrismaLegalDocumentRepository,
    PrismaConsentGrantRepository, bind, Except.bind, pure, Except.pure]
  cases tables.latestResolutionGrant input.principal entityId input.purposeRef
    document.jurisdictionRef <;> rfl

/-- The grant a reported status was resolved from. -/
def OwnConsentStatus.resolutionGrant (tables : ConsentTables) (principal : ConsentPrincipal)
    (status : OwnConsentStatus) : Option ConsentGrant :=
  status.jurisdictionRef.bind
    (tables.latestResolutionGrant principal status.operatingEntityId status.purposeRef)

/-! ### The versions after the accepted one -/

/-- The publication order compares a key in the lexicographic order. -/
theorem publishedAhead_iff (a b : LegalDocumentVersion) :
    publishedAhead a b = true ↔ toLex (publicationKey b) < toLex (publicationKey a) := by
  rw [Prod.Lex.toLex_lt_toLex]
  simp [publishedAhead]

/-- The version takes effect after an instant. -/
def effectiveAfter (granted : Instant) (version : LegalDocumentVersion) : Bool :=
  version.effectiveAt.any (granted < ·)

/-- The versions of a document published with an effective instant in the interval from the accepted
version's, exclusive, to the instant asked about, inclusive. -/
def interveningVersions (tables : ConsentTables) (documentId : String) (granted now : Instant) :
    List LegalDocumentVersion :=
  (tables.versions.filter (inForce documentId now)).filter (effectiveAfter granted)

theorem mem_interveningVersions {tables : ConsentTables} {documentId : String}
    {granted now : Instant} {version : LegalDocumentVersion} :
    version ∈ interveningVersions tables documentId granted now ↔
      version ∈ tables.versions ∧ inForce documentId now version = true ∧
        effectiveAfter granted version = true := by
  rw [interveningVersions, List.mem_filter, List.mem_filter, and_assoc]

/-- A version in force that does not take effect after an instant is older than one that does. -/
theorem publicationKey_lt_of_not_effectiveAfter {documentId : String} {granted now : Instant}
    {older newer : LegalDocumentVersion} (hforce : inForce documentId now older = true)
    (holder : effectiveAfter granted older = false)
    (hnewer : effectiveAfter granted newer = true) :
    toLex (publicationKey older) < toLex (publicationKey newer) := by
  refine Prod.Lex.toLex_lt_toLex.mpr (Or.inl ?_)
  cases hold : older.effectiveAt with
  | none => simp [inForce, hold] at hforce
  | some oldInstant =>
    cases hnew : newer.effectiveAt with
    | none => simp [effectiveAfter, hnew] at hnewer
    | some newInstant =>
      simp only [effectiveAfter, hold, hnew, Option.any_some, decide_eq_false_iff_not,
        decide_eq_true_eq] at holder hnewer
      rw [publicationKey, publicationKey, hold, hnew]
      exact lt_of_le_of_lt (not_lt.mp holder) hnewer

/-- When some version of the interval is in force, the current effective version is the newest
version of the interval. -/
theorem currentEffectiveVersion_eq_of_intervening {tables : ConsentTables} {documentId : String}
    {granted now : Instant} {version : LegalDocumentVersion}
    (hversion : version ∈ interveningVersions tables documentId granted now) :
    ∃ current, tables.currentEffectiveVersion documentId now = some current ∧
      leading publishedAhead (interveningVersions tables documentId granted now) = some current ∧
      current ∈ interveningVersions tables documentId granted now := by
  obtain ⟨hstored, hforce, hafter⟩ := mem_interveningVersions.mp hversion
  have hmem : version ∈ tables.versions.filter (inForce documentId now) :=
    List.mem_filter.mpr ⟨hstored, hforce⟩
  obtain ⟨current, hcurrent⟩ : ∃ current,
      leading publishedAhead (tables.versions.filter (inForce documentId now)) = some current :=
    Option.ne_none_iff_exists'.mp fun hnone ↦ by
      rw [leading_eq_none_iff.mp hnone] at hmem
      simp at hmem
  have hkept : effectiveAfter granted current = true := by
    by_contra hnot
    have hlt := publicationKey_lt_of_not_effectiveAfter
      (List.mem_filter.mp (leading_mem hcurrent)).2 (Bool.eq_false_iff.mpr hnot) hafter
    exact absurd (key_le_of_leading publishedAhead_iff hcurrent hmem) (not_le.mpr hlt)
  have hleading := leading_filter publishedAhead_iff hcurrent hkept
  exact ⟨current, hcurrent, hleading, leading_mem hleading⟩

/-- The current version is newer than the accepted one when it takes effect after it. -/
theorem effectiveIsNewer_of_effectiveAfter {granted : Instant} {version : LegalDocumentVersion}
    (hafter : effectiveAfter granted version = true) :
    effectiveIsNewer (some granted) version.effectiveAt = true := by
  unfold effectiveAfter at hafter
  cases hinstant : version.effectiveAt with
  | none => rfl
  | some instant =>
    rw [hinstant, Option.any_some] at hafter
    exact hafter

/-! ### The law and its condition -/

/-- The law of re-acceptance: a state that permits processing is reported only when no version of
the interval asks for re-acceptance. -/
def PermitsOnlyWithoutOutstanding (tables : ConsentTables) (documentId : String)
    (granted now : Instant) (state : ConsentStatusState) : Prop :=
  statusPermitsProcessing state = true →
    ∀ version ∈ interveningVersions tables documentId granted now,
      requiresReacceptance version = false

/-- No version of the interval asks for re-acceptance, or the newest one does. -/
def OutstandingIsNewest (tables : ConsentTables) (documentId : String) (granted now : Instant) :
    Prop :=
  (∀ version ∈ interveningVersions tables documentId granted now,
      requiresReacceptance version = false) ∨
    ∃ newest, leading publishedAhead (interveningVersions tables documentId granted now) =
      some newest ∧ requiresReacceptance newest = true

/-- Assumes: a run of the use case over the tables that reports the status of a document, resolved
from an active grant pinned to a stored version with a known effective instant. The reported status
obeys the law of re-acceptance if and only if no version of the interval asks for re-acceptance or
the newest version of the interval does. -/
theorem permitsOnlyWithoutOutstanding_iff {tables : ConsentTables}
    {directory : OperatingEntityDirectory} {input : GetOwnConsentStatusInput}
    {status : OwnConsentStatus} {documentId : String} {grant : ConsentGrant}
    {accepted : LegalDocumentVersion} {granted : Instant}
    (hrun : (GetOwnConsentStatus.overTables tables directory).execute input = .ok (.ok status))
    (hdocument : status.documentId = some documentId)
    (hgrant : status.resolutionGrant tables input.principal = some grant)
    (hactive : grant.status = .active) (hstored : accepted ∈ tables.versions)
    (hpinned : grant.legalDocumentVersionId = accepted.id)
    (hgranted : accepted.effectiveAt = some granted) :
    PermitsOnlyWithoutOutstanding tables documentId granted input.now status.state ↔
      OutstandingIsNewest tables documentId granted input.now := by
  obtain ⟨entityId, document, -, -, hstatus⟩ :=
    GetOwnConsentStatus.execute_eq_ok hrun hdocument
  rw [statusOf_overTables, Except.ok.injEq] at hstatus
  have hid : document.id = documentId := by
    rw [← hstatus] at hdocument
    exact Option.some.inj hdocument
  have hresolved : tables.latestResolutionGrant input.principal entityId input.purposeRef
      document.jurisdictionRef = some grant := by
    rw [← hstatus] at hgrant
    exact hgrant
  have hfound : tables.findVersionById grant.legalDocumentVersionId = some accepted :=
    hpinned ▸ find?_key_eq_some tables.version_ids hstored
  have hstate : status.state = (resolveConsentStatus
      { grant := some grant
        grantedVersionEffectiveAt := some granted
        effectiveVersion := tables.currentEffectiveVersion documentId input.now }).state := by
    rw [← hstatus, hresolved, ← hid, Option.bind_some, hfound, Option.bind_some, hgranted]
  rw [hstate]
  by_cases hempty : interveningVersions tables documentId granted input.now = []
  · simp [PermitsOnlyWithoutOutstanding, OutstandingIsNewest, hempty]
  · obtain ⟨version, hversion⟩ := List.exists_mem_of_ne_nil _ hempty
    obtain ⟨current, hcurrent, hleading, hmem⟩ :=
      currentEffectiveVersion_eq_of_intervening hversion
    have hafter := (mem_interveningVersions.mp hmem).2.2
    have hnewer : effectiveIsNewer (some granted) current.effectiveAt = true :=
      effectiveIsNewer_of_effectiveAfter hafter
    have hother : current.id ≠ grant.legalDocumentVersionId := by
      intro heq
      have hsame : current = accepted := eq_of_key_eq tables.version_ids
        (mem_interveningVersions.mp hmem).1 hstored (heq.trans hpinned)
      rw [hsame, effectiveAfter, hgranted] at hafter
      simp at hafter
    rw [hcurrent, PermitsOnlyWithoutOutstanding,
      resolveConsentStatus_permits_of_newer hactive hother hnewer, OutstandingIsNewest, hleading]
    cases hasks : requiresReacceptance current with
    | true => simp [hasks]
    | false => simp [hasks]

/-! ### A masked material version -/

/-- Three published versions of one document: the accepted one, a material republication and a later
editorial one. -/
def republishedVersion (id : String) (classification : VersionClassification) (instant : Instant) :
    LegalDocumentVersion where
  id := id
  documentId := "privacy-notice"
  version := id
  contentHash := id
  storageRef := id
  classification := some classification
  author := "author"
  reviewer := some "reviewer"
  reason := some "reason"
  effectiveAt := some instant
  publishedAt := some instant
  priorVersionId := none
  createdAt := instant

/-- A subject accepted the first version; the second asks for re-acceptance, the third does not. -/
def maskedTables : ConsentTables where
  documents :=
    [{ id := "privacy-notice", entityId := "entity", jurisdictionRef := "jurisdiction:qa",
       purposeRefs := ["purpose"], kind := "PRIVACY_NOTICE", createdAt := 0 }]
  versions :=
    [republishedVersion "1.0.0" .noUserActionRequired 100,
      republishedVersion "2.0.0" .materialReacceptanceRequired 200,
      republishedVersion "3.0.0" .noUserActionRequired 300]
  grants :=
    [{ grant :=
         { id := "grant", userId := "user", tenantId := "tenant", operatingEntityId := "entity",
           jurisdictionRef := "jurisdiction:qa", purposeRef := "purpose",
           consentVersion := "1.0.0", legalDocumentVersionId := "1.0.0", grantedAt := 150,
           withdrawnAt := none, status := .active, evidenceReference := "request",
           policyPackVersion := some "qa/v1", policyPackPinState := .pinned,
           subjectPolicySelectionVersion := none,
           subjectPolicySelectionPinState := .notApplicable }
       createdAt := 150 }]
  version_ids := by decide

def entityDirectory : OperatingEntityDirectory where
  resolveEffectiveEntity _ _ _ := .ok "entity"

def maskedInput : GetOwnConsentStatusInput where
  principal := ⟨"user", "tenant"⟩
  purposeRef := "purpose"
  jurisdictionRef := none
  now := 400

/-- After the material second version and the editorial third one the use case still reports the
acceptance of the first version as ACTIVE. -/
theorem outstanding_masked :
    ∃ status, (GetOwnConsentStatus.overTables maskedTables entityDirectory).execute maskedInput =
        .ok (.ok status) ∧
      status.documentId = some "privacy-notice" ∧
      (status.resolutionGrant maskedTables maskedInput.principal).map
        (fun grant ↦ (grant.status, grant.legalDocumentVersionId)) = some (.active, "1.0.0") ∧
      (maskedTables.findVersionById "1.0.0").bind (·.effectiveAt) = some 100 ∧
      ¬ PermitsOnlyWithoutOutstanding maskedTables "privacy-notice" 100 maskedInput.now
        status.state := by
  refine ⟨_, rfl, rfl, by decide, by decide, fun hlaw ↦ ?_⟩
  have hmaterial := hlaw (by decide)
    (republishedVersion "2.0.0" .materialReacceptanceRequired 200) (by decide)
  exact absurd hmaterial (by decide)

/-- `permitsOnlyWithoutOutstanding_iff` at the masked history. -/
theorem permitsOnlyWithoutOutstanding_iff_masked :
    ∃ status, (GetOwnConsentStatus.overTables maskedTables entityDirectory).execute maskedInput =
        .ok (.ok status) ∧
      (PermitsOnlyWithoutOutstanding maskedTables "privacy-notice" 100 maskedInput.now
          status.state ↔
        OutstandingIsNewest maskedTables "privacy-notice" 100 maskedInput.now) := by
  refine ⟨_, rfl, ?_⟩
  have hrun : (GetOwnConsentStatus.overTables maskedTables entityDirectory).execute maskedInput =
      .ok (.ok _) := rfl
  have hstored : republishedVersion "1.0.0" .noUserActionRequired 100 ∈ maskedTables.versions := by
    decide
  exact permitsOnlyWithoutOutstanding_iff hrun rfl rfl rfl hstored rfl rfl

end Karar.Consent
