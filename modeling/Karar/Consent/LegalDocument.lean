import Karar.SharedKernel.Basic
import Karar.Foundation.Leading

/-!
# Legal documents, consent grants and the consent status

The domain of the consent module. A legal document belongs to an (entity, jurisdiction) pair and
covers named purposes; its versions carry the reviewed classification that says what a republication
asks of the subjects. A consent grant is one acceptance act, pinned to the version accepted.
`resolveConsentStatus` is the classification matrix that turns the subject's resolution grant and
the document's current effective version into a status.
-/

namespace Karar.Consent

open SharedKernel

/-- `VERSION_CLASSIFICATIONS`. -/
inductive VersionClassification
  /-- Re-acceptance required before the affected purpose may continue. -/
  | materialReacceptanceRequired
  /-- Existing acceptances stand; subjects must be notified. -/
  | noticeRequired
  /-- Editorial change; nothing is asked of anyone. -/
  | noUserActionRequired
deriving DecidableEq

structure LegalDocument where
  id : String
  entityId : String
  jurisdictionRef : String
  purposeRefs : List String
  kind : String
  createdAt : Instant
deriving DecidableEq

structure LegalDocumentVersion where
  id : String
  documentId : String
  version : String
  contentHash : String
  storageRef : String
  /-- `none` until a reviewer classifies. -/
  classification : Option VersionClassification
  author : String
  reviewer : Option String
  reason : Option String
  effectiveAt : Option Instant
  publishedAt : Option Instant
  priorVersionId : Option String
  createdAt : Instant
deriving DecidableEq

def isPublished (version : LegalDocumentVersion) : Bool := version.publishedAt.isSome

def documentCoversPurpose (document : LegalDocument) (purposeRef : String) : Bool :=
  document.purposeRefs.contains purposeRef

/-- `CONSENT_GRANT_STATUSES`. -/
inductive ConsentGrantStatus
  | active
  | withdrawn
  | superseded
deriving DecidableEq

/-- `POLICY_PACK_PIN_STATES`. -/
inductive PolicyPackPinState
  | pinned
  | prePolicyPack
deriving DecidableEq

/-- `SUBJECT_POLICY_SELECTION_PIN_STATES`. -/
inductive SubjectPolicySelectionPinState
  | pinned
  | notApplicable
  | preSubjectPolicySelection
deriving DecidableEq

structure ConsentGrant where
  id : String
  userId : String
  tenantId : String
  operatingEntityId : String
  jurisdictionRef : String
  purposeRef : String
  consentVersion : String
  /-- The exact pin: which version row was accepted. -/
  legalDocumentVersionId : String
  grantedAt : Instant
  withdrawnAt : Option Instant
  status : ConsentGrantStatus
  evidenceReference : String
  policyPackVersion : Option String
  policyPackPinState : PolicyPackPinState
  subjectPolicySelectionVersion : Option String
  subjectPolicySelectionPinState : SubjectPolicySelectionPinState
deriving DecidableEq

inductive ConsentStatusState
  | active
  | withdrawn
  | reconsentRequired
  | noGrant
deriving DecidableEq

structure ConsentStatusView where
  state : ConsentStatusState
  /-- True when a NOTICE_REQUIRED republication postdates the acceptance. -/
  noticeRequired : Bool
  grantId : Option String
  grantedVersion : Option String
  effectiveVersionId : Option String
  effectiveVersion : Option String
deriving DecidableEq

structure ResolveConsentStatusInput where
  /-- Latest non-superseded grant for the (entity, purpose, jurisdiction) triple. -/
  grant : Option ConsentGrant
  /-- `effectiveAt` of the version the grant pinned. -/
  grantedVersionEffectiveAt : Option Instant
  /-- The document's current effective published version. -/
  effectiveVersion : Option LegalDocumentVersion

/-- The current version is newer than the accepted one unless both instants are known and the
current one is not the later. -/
def effectiveIsNewer (grantedVersionEffectiveAt effectiveAt : Option Instant) : Bool :=
  match grantedVersionEffectiveAt, effectiveAt with
  | some granted, some effective => decide (granted < effective)
  | _, _ => true

def resolveConsentStatus (input : ResolveConsentStatusInput) : ConsentStatusView :=
  let base : ConsentStatusView :=
    { state := .noGrant
      noticeRequired := false
      grantId := input.grant.map (·.id)
      grantedVersion := input.grant.map (·.consentVersion)
      effectiveVersionId := input.effectiveVersion.map (·.id)
      effectiveVersion := input.effectiveVersion.map (·.version) }
  match input.grant with
  | none => { base with state := .noGrant }
  | some grant =>
    match grant.status with
    | .withdrawn => { base with state := .withdrawn }
    -- A SUPERSEDED grant should never be the resolution row.
    | .superseded => { base with state := .noGrant }
    | .active =>
      match input.effectiveVersion with
      | none => { base with state := .active }
      | some effective =>
        if effective.id = grant.legalDocumentVersionId then
          { base with state := .active }
        else if effectiveIsNewer input.grantedVersionEffectiveAt effective.effectiveAt then
          match effective.classification with
          | some .noticeRequired => { base with state := .active, noticeRequired := true }
          | some .noUserActionRequired => { base with state := .active }
          | some .materialReacceptanceRequired | none => { base with state := .reconsentRequired }
        else
          { base with state := .active }

/-- ACTIVE (with or without a pending notice) is the only state that permits processing. -/
def statusPermitsProcessing (state : ConsentStatusState) : Bool := state = .active

/-- A version whose publication asks the subjects to accept again: it is classified as material, or
it is not classified at all and the resolution fails closed on it. -/
def requiresReacceptance (version : LegalDocumentVersion) : Bool :=
  match version.classification with
  | some .materialReacceptanceRequired | none => true
  | some .noticeRequired | some .noUserActionRequired => false

/-- An active grant whose pinned version is older than the current one permits processing exactly
when the current version does not ask for re-acceptance. -/
theorem resolveConsentStatus_permits_of_newer {grant : ConsentGrant} {granted : Instant}
    {current : LegalDocumentVersion} (hactive : grant.status = .active)
    (hother : current.id ≠ grant.legalDocumentVersionId)
    (hnewer : effectiveIsNewer (some granted) current.effectiveAt = true) :
    statusPermitsProcessing (resolveConsentStatus
        { grant := some grant
          grantedVersionEffectiveAt := some granted
          effectiveVersion := some current }).state =
      !requiresReacceptance current := by
  simp only [resolveConsentStatus, hactive, hother, hnewer, if_false, if_true, requiresReacceptance]
  rcases current.classification with _ | classification
  · rfl
  · cases classification <;> rfl

end Karar.Consent
