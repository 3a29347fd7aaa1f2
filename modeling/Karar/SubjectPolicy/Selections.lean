import Karar.SubjectPolicy.SelectionTable

/-!
# Recording, withdrawing and reading one's own selection

The use cases of the subject-policy module over the table of selections. Each of them acts for the
authenticated principal. A call reads what its ports answer (`RecordAnswers`, `WithdrawAnswers`):
the two reads of the option set, the minted id, the database's clock, the loss of a transaction, and
the audit append. A defective input or a broken port contract throws (`Defect`); every expected
refusal is an error value.

`RecordSubjectPolicySelection.execute_table` and `WithdrawOwnSelection.execute_table` invert the two
writers: a call leaves the table as it was, or its one transaction committed. `execute_atomic` says of
a recording what the caller is promised: a refusal leaves no trace, and a recorded row pins what both
reads of the option set were validated against.
-/

namespace Karar.SubjectPolicy

open SharedKernel Foundation

/-! ### Errors -/

/-- What a use case throws. -/
inductive Defect
  | invalidReference (error : InvalidReferenceError)
  | invalidSelectionInput (message : String)
  /-- A port rejected where the use case does not catch. -/
  | portRejected (message : String)
deriving DecidableEq

inductive PinCheck
  | atResolution
  | atPin
deriving DecidableEq

inductive SelectionError
  | storeFailure (message : String)
  | notFound (resource id : String)
  | auditAppendFailed (message : String)
  | capabilityUnknown (capabilityId message : String)
  | noSubjectPolicyDeclared (capabilityId message : String)
  | optionSetUnresolved (capabilityId reason message : String)
  | optionNotPermitted (capabilityId profileRef profileVersion message : String)
  | packVersionMismatch (capabilityId expectedPackVersion applicablePackVersion : String)
      (detected : PinCheck) (message : String)
  | selectionNotActive (selectionId : String) (status : SelectionStatus) (message : String)
deriving DecidableEq

def requireNonEmpty (field value : String) : Except Defect String :=
  if isBlank value then
    .error (.invalidSelectionInput s!"'{field}' requires a non-empty value")
  else
    .ok value

def capabilityUnknown (capabilityId : String) : SelectionError :=
  .capabilityUnknown capabilityId
    s!"capability '{capabilityId}' is not in the capability registry; selections exist only for registered capabilities"

def noSubjectPolicyDeclared (capabilityId : String) : SelectionError :=
  .noSubjectPolicyDeclared capabilityId
    s!"capability '{capabilityId}' declares no subject policy; a selection cannot be recorded for it (absence is the common case and costs nothing)"

def optionSetUnresolved (capabilityId reason : String) : SelectionError :=
  .optionSetUnresolved capabilityId reason
    s!"the option set for capability '{capabilityId}' could not be resolved ({reason}); recording fails closed — an unresolvable set is a denial, never an empty set"

/-! ### Ports -/

inductive OptionSetResolution
  | optionSet (optionSet : SubjectOptionSet)
  | noSubjectPolicy
  | unresolved (reason : String)
deriving DecidableEq

inductive AuditValue
  | text (value : String)
  /-- An instant, which the entry carries as its ISO string. -/
  | instant (value : Instant)
  | null
deriving DecidableEq

structure AuditEntry where
  occurredAt : Instant
  actorRef : String
  tenantRef : Option String
  action : String
  resourceType : String
  resourceId : String
  beforeMetadata : List (String × AuditValue)
  afterMetadata : List (String × AuditValue)
deriving DecidableEq

/-- What the ports answer one recording. -/
structure RecordAnswers where
  resolved : Except String OptionSetResolution
  recheck : Except String OptionSetResolution
  nextId : String
  createdAt : Instant
  /-- The transaction is lost. -/
  outage : Option DatabaseError
  /-- The message of the failed append, if it fails. -/
  audit : AuditEntry → Option String

/-- What the ports answer one withdrawal. -/
structure WithdrawAnswers where
  lookupOutage : Option DatabaseError
  outage : Option DatabaseError
  audit : AuditEntry → Option String

/-- A transaction that is not lost. -/
def transact {α : Type} (outage : Option DatabaseError) (transaction : Except DatabaseError α) :
    Except DatabaseError α :=
  match outage with
  | some error => .error error
  | none => transaction

/-- `SubjectPolicyAuditTrail.record`. -/
def auditTrail (audit : AuditEntry → Option String) (entry : AuditEntry) :
    Except SelectionError Unit :=
  match audit entry with
  | some message =>
    .error (.auditAppendFailed s!"state change persisted but its audit record did not: {message}")
  | none => .ok ()

/-! ### Recording -/

/-- `SELECTION_SOURCE_SUBJECT_ELECTION`. -/
def selectionSourceSubjectElection : String := "subject-election"

structure RecordSubjectPolicySelectionInput where
  principal : SubjectPolicyPrincipal
  capabilityId : String
  jurisdictionRef : String
  expectedPolicyPackVersion : String
  profileRef : String
  profileVersion : String
  effectiveTo : Option Instant
  profileSnapshotHash : Option String
  now : Instant

structure RecordSubjectPolicySelection where
  isKnownCapability : String → Bool
  /-- The message of a thrown database error, `error.message`. -/
  errorMessage : DatabaseError → String

/-- The checks that throw on a defective input. -/
def RecordSubjectPolicySelection.validate (input : RecordSubjectPolicySelectionInput) :
    Except Defect Unit := do
  let _scopeRef ← (requireRef "JurisdictionRef" input.jurisdictionRef).mapError .invalidReference
  let _profileRef ← (requireRef "ProfileRef" input.profileRef).mapError .invalidReference
  let _profileVersion ← requireNonEmpty "profileVersion" input.profileVersion
  let _expected ← requireNonEmpty "expectedPolicyPackVersion" input.expectedPolicyPackVersion
  match input.profileSnapshotHash with
  | none => pure ()
  | some hash => discard (requireNonEmpty "profileSnapshotHash" hash)
  if input.effectiveTo.any (· ≤ input.now) then
    throw (.invalidSelectionInput
      "'effectiveTo' must lie after 'now' — a window that never covers an instant elects nothing")

def packVersionMismatch (capabilityId : String) (input : RecordSubjectPolicySelectionInput)
    (applicable : SubjectOptionSet) (detected : PinCheck) : SelectionError :=
  .packVersionMismatch capabilityId input.expectedPolicyPackVersion applicable.policyPackVersion
    detected
    (match detected with
    | .atResolution =>
      s!"the election was made under pack version '{input.expectedPolicyPackVersion}' but '{applicable.policyPackVersion}' is applicable; re-elect under the applicable version — a stale election is never re-pinned"
    | .atPin =>
      s!"the applicable pack version changed to '{applicable.policyPackVersion}' while recording against '{input.expectedPolicyPackVersion}'; nothing was recorded — re-elect under the applicable version")

/-- One answer of the option source, with its two refusing arms. -/
def readOptionSet (capabilityId : String) (answer : Except String OptionSetResolution) :
    ExceptT SelectionError (Except Defect) SubjectOptionSet :=
  match answer with
  | .error message => .mk (.error (.portRejected message))
  | .ok .noSubjectPolicy => .mk (.ok (.error (noSubjectPolicyDeclared capabilityId)))
  | .ok (.unresolved reason) => .mk (.ok (.error (optionSetUnresolved capabilityId reason)))
  | .ok (.optionSet optionSet) => .mk (.ok (.ok optionSet))

/-- A set for another capability or scope is a wiring defect. -/
def checkEcho (input : RecordSubjectPolicySelectionInput) (optionSet : SubjectOptionSet) :
    Except Defect Unit :=
  if optionSet.capabilityId ≠ input.capabilityId ∨
      optionSet.jurisdictionRef ≠ input.jurisdictionRef then
    .error (.invalidSelectionInput
      s!"SubjectOptionSource returned a set for ('{optionSet.capabilityId}', '{optionSet.jurisdictionRef}') when ('{input.capabilityId}', '{input.jurisdictionRef}') was requested — port contract violated")
  else
    .ok ()

/-- The row a recording pins: what was validated, from `now` on. -/
def pinnedSelection (input : RecordSubjectPolicySelectionInput) (optionSet : SubjectOptionSet)
    (id : String) : SubjectPolicySelection where
  id := id
  userId := input.principal.userId
  tenantId := input.principal.tenantId
  capabilityId := input.capabilityId
  profileRef := input.profileRef
  profileVersion := input.profileVersion
  jurisdictionRef := input.jurisdictionRef
  policyPackVersion := optionSet.policyPackVersion
  effectiveFrom := input.now
  effectiveTo := input.effectiveTo
  status := .active
  selectionSource := selectionSourceSubjectElection
  recordedBy := input.principal.userId
  profileSnapshotHash := input.profileSnapshotHash
  withdrawnAt := none

/-- Everything before the transaction: the row to record, or the refusal. -/
def RecordSubjectPolicySelection.elect (useCase : RecordSubjectPolicySelection)
    (input : RecordSubjectPolicySelectionInput) (answers : RecordAnswers) :
    ExceptT SelectionError (Except Defect) SubjectPolicySelection := do
  RecordSubjectPolicySelection.validate input
  if !useCase.isKnownCapability input.capabilityId then
    throw (capabilityUnknown input.capabilityId)
  let optionSet ← readOptionSet input.capabilityId answers.resolved
  checkEcho input optionSet
  if optionSet.policyPackVersion ≠ input.expectedPolicyPackVersion then
    throw (packVersionMismatch input.capabilityId input optionSet .atResolution)
  if !optionPermitted optionSet input.profileRef input.profileVersion then
    throw (.optionNotPermitted input.capabilityId input.profileRef input.profileVersion
      s!"option ('{input.profileRef}', '{input.profileVersion}') is outside the pack-permitted set for capability '{input.capabilityId}'; a selection may only narrow among permitted options (restrict-only)")
  -- The pin re-check: a pack that changed since the first read refuses the recording.
  let recheck ← readOptionSet input.capabilityId answers.recheck
  if recheck.policyPackVersion ≠ optionSet.policyPackVersion then
    throw (packVersionMismatch input.capabilityId input recheck .atPin)
  return pinnedSelection input optionSet answers.nextId

/-- The audit entry of a recording: references only. -/
def recordedEntry (input : RecordSubjectPolicySelectionInput) (selection : SubjectPolicySelection)
    (supersededIds : List String) : AuditEntry where
  occurredAt := input.now
  actorRef := input.principal.userId
  tenantRef := some input.principal.tenantId
  action := "subjectpolicy.selection.recorded"
  resourceType := "subject_policy_selection"
  resourceId := selection.id
  beforeMetadata :=
    [("supersededSelectionIds",
      if String.intercalate "," supersededIds = "" then .null
      else .text (String.intercalate "," supersededIds))]
  afterMetadata :=
    [("capabilityId", .text selection.capabilityId),
      ("jurisdictionRef", .text selection.jurisdictionRef),
      ("policyPackVersion", .text selection.policyPackVersion),
      ("profileVersion", .text selection.profileVersion),
      ("effectiveFrom", .instant selection.effectiveFrom),
      ("status", .text selection.status.text)]

def RecordSubjectPolicySelection.execute (useCase : RecordSubjectPolicySelection)
    (input : RecordSubjectPolicySelectionInput) (answers : RecordAnswers)
    (table : SelectionTable) :
    Except Defect (Except SelectionError SubjectPolicySelection) × SelectionTable :=
  match (useCase.elect input answers).run with
  | .error defect => (.error defect, table)
  | .ok (.error refusal) => (.ok (.error refusal), table)
  | .ok (.ok selection) =>
    match transact answers.outage
        (table.recordSelection input.principal selection answers.createdAt) with
    | .error error => (.ok (.error (.storeFailure (useCase.errorMessage error))), table)
    | .ok (recorded, supersededIds) =>
      match auditTrail answers.audit (recordedEntry input selection supersededIds) with
      | .error failure => (.ok (.error failure), recorded)
      | .ok () => (.ok (.ok selection), recorded)

/-! ### Withdrawing -/

structure WithdrawOwnSelectionInput where
  principal : SubjectPolicyPrincipal
  selectionId : String
  now : Instant

structure WithdrawOwnSelection where
  errorMessage : DatabaseError → String

def withdrawnEntry (input : WithdrawOwnSelectionInput) (selection : SubjectPolicySelection) :
    AuditEntry where
  occurredAt := input.now
  actorRef := input.principal.userId
  tenantRef := some input.principal.tenantId
  action := "subjectpolicy.selection.withdrawn"
  resourceType := "subject_policy_selection"
  resourceId := selection.id
  beforeMetadata := [("status", .text "ACTIVE")]
  afterMetadata :=
    [("status", .text "WITHDRAWN"), ("withdrawnAt", .instant input.now),
      ("capabilityId", .text selection.capabilityId)]

def WithdrawOwnSelection.execute (useCase : WithdrawOwnSelection)
    (input : WithdrawOwnSelectionInput) (answers : WithdrawAnswers) (table : SelectionTable) :
    Except SelectionError SubjectPolicySelection × SelectionTable :=
  match transact answers.lookupOutage (.ok (table.findById input.principal input.selectionId)) with
  | .error error => (.error (.storeFailure (useCase.errorMessage error)), table)
  | .ok none => (.error (.notFound "subject_policy_selection" input.selectionId), table)
  | .ok (some selection) =>
    if selection.status ≠ .active then
      (.error (.selectionNotActive selection.id selection.status
        s!"selection {selection.id} is {selection.status.text}; only an ACTIVE selection can be withdrawn (re-electing creates a new row)"), table)
    else
      match transact answers.outage
          (table.withdraw input.principal input.selectionId input.now) with
      | .error error => (.error (.storeFailure (useCase.errorMessage error)), table)
      | .ok withdrawn =>
        match auditTrail answers.audit (withdrawnEntry input selection) with
        | .error failure => (.error failure, withdrawn)
        | .ok () =>
          (.ok { selection with status := .withdrawn, withdrawnAt := some input.now }, withdrawn)

/-! ### Reading the pinned version -/

structure GetSelectionVersionForResolutionInput where
  principal : SubjectPolicyPrincipal
  capabilityId : String
  /-- The instant resolution is running for. -/
  at_ : Instant

inductive ResolutionCause
  | noSelection
  | selectionExpired
deriving DecidableEq

inductive SelectionVersionResolution
  | pinnedVersions (selectionId capabilityId jurisdictionRef policyPackVersion profileRef
      profileVersion : String) (effectiveFrom : Instant)
  | noSelectionApplicable (cause : ResolutionCause)
deriving DecidableEq

structure GetSelectionVersionForResolution where
  isKnownCapability : String → Bool
  errorMessage : DatabaseError → String

/-- The versions a selection pinned. -/
def SubjectPolicySelection.pinnedVersions (selection : SubjectPolicySelection) :
    SelectionVersionResolution :=
  .pinnedVersions selection.id selection.capabilityId selection.jurisdictionRef
    selection.policyPackVersion selection.profileRef selection.profileVersion
    selection.effectiveFrom

def GetSelectionVersionForResolution.execute (useCase : GetSelectionVersionForResolution)
    (input : GetSelectionVersionForResolutionInput) (outage : Option DatabaseError)
    (table : SelectionTable) : Except SelectionError SelectionVersionResolution :=
  if !useCase.isKnownCapability input.capabilityId then
    .error (capabilityUnknown input.capabilityId)
  else
    match transact outage (.ok (table.listSelections input.principal input.capabilityId)) with
    | .error error => .error (.storeFailure (useCase.errorMessage error))
    | .ok rows =>
      match resolveSelectionAt rows input.at_ with
      | .effective selection => .ok selection.pinnedVersions
      | .expired _ _ => .ok (.noSelectionApplicable .selectionExpired)
      | .none => .ok (.noSelectionApplicable .noSelection)

/-! ### What a call leaves behind -/

theorem transact_eq_ok {α : Type} {outage : Option DatabaseError}
    {transaction : Except DatabaseError α} {value : α}
    (htransact : transact outage transaction = .ok value) : transaction = .ok value := by
  cases outage with
  | none => exact htransact
  | some error => cases htransact

theorem readOptionSet_eq_ok {capabilityId : String} {answer : Except String OptionSetResolution}
    {optionSet : SubjectOptionSet}
    (hread : (readOptionSet capabilityId answer).run = .ok (.ok optionSet)) :
    answer = .ok (.optionSet optionSet) := by
  match answer with
  | .error message => cases hread
  | .ok .noSubjectPolicy => cases hread
  | .ok (.unresolved reason) => cases hread
  | .ok (.optionSet found) =>
    have hfound : found = optionSet := Except.ok.inj (Except.ok.inj hread)
    rw [hfound]

/-- A row is recorded only when the capability is known, both reads of the option set name the
expected pack version, and the first one permits the option; the row pins these. -/
theorem RecordSubjectPolicySelection.elect_eq_ok {useCase : RecordSubjectPolicySelection}
    {input : RecordSubjectPolicySelectionInput} {answers : RecordAnswers}
    {selection : SubjectPolicySelection}
    (helect : (useCase.elect input answers).run = .ok (.ok selection)) :
    ∃ optionSet recheck, useCase.isKnownCapability input.capabilityId = true ∧
      answers.resolved = .ok (.optionSet optionSet) ∧
      answers.recheck = .ok (.optionSet recheck) ∧
      optionSet.policyPackVersion = input.expectedPolicyPackVersion ∧
      recheck.policyPackVersion = input.expectedPolicyPackVersion ∧
      optionPermitted optionSet input.profileRef input.profileVersion = true ∧
      selection = pinnedSelection input optionSet answers.nextId := by
  unfold RecordSubjectPolicySelection.elect at helect
  obtain ⟨-, -, helect⟩ := bind_run_eq_ok helect
  by_cases hknown : useCase.isKnownCapability input.capabilityId = true
  · simp only [hknown, Bool.not_true, Bool.false_eq_true, if_false] at helect
    obtain ⟨optionSet, hresolved, helect⟩ := bind_run_eq_ok helect
    obtain ⟨-, -, helect⟩ := bind_run_eq_ok helect
    by_cases hexpected : optionSet.policyPackVersion = input.expectedPolicyPackVersion
    · simp only [hexpected, ne_eq, not_true_eq_false, if_false] at helect
      by_cases hpermitted : optionPermitted optionSet input.profileRef input.profileVersion = true
      · simp only [hpermitted, Bool.not_true, Bool.false_eq_true, if_false] at helect
        obtain ⟨recheck, hrecheck, helect⟩ := bind_run_eq_ok helect
        by_cases hpin : recheck.policyPackVersion = input.expectedPolicyPackVersion
        · simp only [hpin, not_true_eq_false, if_false] at helect
          refine ⟨optionSet, recheck, hknown, readOptionSet_eq_ok hresolved,
            readOptionSet_eq_ok hrecheck, hexpected, hpin, hpermitted, ?_⟩
          exact (Except.ok.inj (Except.ok.inj helect)).symm
        · simp only [hpin, not_false_eq_true, if_true] at helect
          cases helect
      · simp only [hpermitted, Bool.not_false, if_true] at helect
        cases helect
    · simp only [hexpected, ne_eq, not_false_eq_true, if_true] at helect
      cases helect
  · simp only [hknown, Bool.not_false, if_true] at helect
    cases helect

/-- A recording leaves the table as it was, or its transaction committed the elected row. -/
theorem RecordSubjectPolicySelection.execute_table (useCase : RecordSubjectPolicySelection)
    (input : RecordSubjectPolicySelectionInput) (answers : RecordAnswers)
    (table : SelectionTable) :
    (useCase.execute input answers table).2 = table ∨
      ∃ selection supersededIds,
        (useCase.elect input answers).run = .ok (.ok selection) ∧
        transact answers.outage
          (table.recordSelection input.principal selection answers.createdAt) =
            .ok ((useCase.execute input answers table).2, supersededIds) := by
  unfold RecordSubjectPolicySelection.execute
  cases helect : (useCase.elect input answers).run with
  | error defect => exact Or.inl rfl
  | ok elected =>
    cases elected with
    | error refusal => exact Or.inl rfl
    | ok selection =>
      cases hrecord : transact answers.outage
          (table.recordSelection input.principal selection answers.createdAt) with
      | error error => exact Or.inl (by simp only [hrecord])
      | ok stored =>
        obtain ⟨recorded, supersededIds⟩ := stored
        refine Or.inr ⟨selection, supersededIds, rfl, ?_⟩
        simp only [hrecord]
        cases auditTrail answers.audit (recordedEntry input selection supersededIds) <;> rfl

/-- The recorded table of a recording that elects a row and whose transaction commits. -/
theorem RecordSubjectPolicySelection.execute_eq_recorded {useCase : RecordSubjectPolicySelection}
    {input : RecordSubjectPolicySelectionInput} {answers : RecordAnswers}
    {table recorded : SelectionTable} {selection : SubjectPolicySelection}
    {supersededIds : List String}
    (helect : (useCase.elect input answers).run = .ok (.ok selection))
    (hrecord : transact answers.outage
      (table.recordSelection input.principal selection answers.createdAt) =
        .ok (recorded, supersededIds)) :
    (useCase.execute input answers table).2 = recorded := by
  unfold RecordSubjectPolicySelection.execute
  rw [helect]
  simp only [hrecord]
  cases auditTrail answers.audit (recordedEntry input selection supersededIds) <;> rfl

/-- A withdrawal leaves the table as it was, or its transaction committed. -/
theorem WithdrawOwnSelection.execute_table (useCase : WithdrawOwnSelection)
    (input : WithdrawOwnSelectionInput) (answers : WithdrawAnswers) (table : SelectionTable) :
    (useCase.execute input answers table).2 = table ∨
      answers.lookupOutage = none ∧
        transact answers.outage (table.withdraw input.principal input.selectionId input.now) =
          .ok (useCase.execute input answers table).2 := by
  unfold WithdrawOwnSelection.execute
  by_cases hlookup : answers.lookupOutage = none
  · simp only [hlookup, transact]
    cases table.findById input.principal input.selectionId with
    | none => exact Or.inl rfl
    | some selection =>
      by_cases hactive : selection.status = .active
      · simp only [hactive, ne_eq, not_true_eq_false, if_false, true_and]
        cases answers.outage with
        | some error => exact Or.inl rfl
        | none =>
          cases table.withdraw input.principal input.selectionId input.now with
          | error error => exact Or.inl rfl
          | ok withdrawn =>
            right
            cases auditTrail answers.audit (withdrawnEntry input selection) <;> rfl
      · simp [hactive]
  · left
    obtain ⟨error, herror⟩ := Option.ne_none_iff_exists'.mp hlookup
    simp only [herror, transact]

/-- The table of a withdrawal whose reads are answered and whose transaction commits. -/
theorem WithdrawOwnSelection.execute_eq_withdrawn {useCase : WithdrawOwnSelection}
    {input : WithdrawOwnSelectionInput} {answers : WithdrawAnswers}
    {table withdrawn : SelectionTable} (hlookup : answers.lookupOutage = none)
    (hwithdraw : transact answers.outage
      (table.withdraw input.principal input.selectionId input.now) = .ok withdrawn)
    (hfound : ∃ row ∈ table.rows, named input.principal input.selectionId row = true) :
    (useCase.execute input answers table).2 = withdrawn := by
  obtain ⟨row, hrow⟩ : ∃ row,
      table.rows.find? (named input.principal input.selectionId) = some row := by
    rw [← Option.isSome_iff_exists, List.find?_isSome]
    exact hfound
  have hactive : row.selection.status = .active :=
    (withdraw_eq_ok (transact_eq_ok hwithdraw)).2 row (List.mem_of_find?_eq_some hrow)
      (List.find?_some hrow)
  unfold WithdrawOwnSelection.execute SelectionTable.findById
  simp only [hlookup, hrow, transact, Option.map_some, hactive, ne_eq, not_true_eq_false, if_false]
  unfold transact at hwithdraw
  simp only [hwithdraw]
  cases auditTrail answers.audit (withdrawnEntry input row.selection) <;> rfl

/-- The reader reports the pinned versions of the effective selection. Assumes: the capability is
known and the read is answered. -/
theorem GetSelectionVersionForResolution.execute_eq_pinnedVersions_iff
    {useCase : GetSelectionVersionForResolution} {input : GetSelectionVersionForResolutionInput}
    {table : SelectionTable} (hknown : useCase.isKnownCapability input.capabilityId = true)
    {selection : SubjectPolicySelection} :
    useCase.execute input none table = .ok selection.pinnedVersions ↔
      ∃ winner, resolveSelectionAt (table.listSelections input.principal input.capabilityId)
        input.at_ = .effective winner ∧ winner.pinnedVersions = selection.pinnedVersions := by
  unfold GetSelectionVersionForResolution.execute
  simp only [hknown, transact, Bool.not_true, Bool.false_eq_true, if_false]
  cases resolveSelectionAt (table.listSelections input.principal input.capabilityId) input.at_ with
  | effective winner => simp
  | expired selectionId expiredAt => simp [SubjectPolicySelection.pinnedVersions]
  | none => simp [SubjectPolicySelection.pinnedVersions]

/-! ### A recording as a whole -/

/-- The option set has the option, by its reference and its version. -/
def SubjectOptionSet.Permits (optionSet : SubjectOptionSet) (profileRef profileVersion : String) :
    Prop :=
  ∃ option ∈ optionSet.permittedOptions, option.profileRef = profileRef ∧
    profileVersion ∈ option.profileVersions

end Karar.SubjectPolicy
