import Karar.Identity.Footprint

/-!
# How one-time codes are treated

A code is never deleted, never unconsumed, and never loses an attempt. `CodeSucceeds` says so of one
row; the two stores evolve by it in every operation. An answer about a row is therefore an answer
about every later state of it.

Only `VerifyEmail` counts against a verification code or consumes it, and only `ResetPassword`
consumes a reset request: after it was found by the digest of the presented token and judged live.
What was read may have changed by the time of the write; the facts here are about what was read.
-/

namespace Karar.Identity

/-! ## What the code stores do to a row -/

section CodeLaws

open Foundation KeyedTable SharedKernel

/-- A later state of the same code. -/
structure CodeSucceeds (row later : OneTimeCodeRecord) : Prop where
  id : later.id = row.id
  accountId : later.accountId = row.accountId
  codeHash : later.codeHash = row.codeHash
  expiresAt : later.expiresAt = row.expiresAt
  maxAttempts : later.maxAttempts = row.maxAttempts
  attempts : row.attempts ≤ later.attempts
  consumed : row.consumedAt ≠ none → later.consumedAt ≠ none

theorem codeSucceeds_refl (row : OneTimeCodeRecord) : CodeSucceeds row row :=
  ⟨rfl, rfl, rfl, rfl, rfl, Nat.le_refl _, fun h ↦ h⟩

theorem CodeSucceeds.trans {first second third : OneTimeCodeRecord}
    (hfirst : CodeSucceeds first second) (hsecond : CodeSucceeds second third) :
    CodeSucceeds first third where
  id := hsecond.id.trans hfirst.id
  accountId := hsecond.accountId.trans hfirst.accountId
  codeHash := hsecond.codeHash.trans hfirst.codeHash
  expiresAt := hsecond.expiresAt.trans hfirst.expiresAt
  maxAttempts := hsecond.maxAttempts.trans hfirst.maxAttempts
  attempts := Nat.le_trans hfirst.attempts hsecond.attempts
  consumed h := hsecond.consumed (hfirst.consumed h)

/-! ### One write -/

namespace CodeTable

variable {Alt : Type} {alt : String → String → Alt} {table later : CodeTable alt} {id : String}
  {fresh : OneTimeCodeRecord → Prop}

theorem recordFailedAttempt_eq_some (hrecord : table.recordFailedAttempt id = some later) :
    ∀ row ∈ later.rows, ∃ old ∈ table.rows,
      row = if old.id = id then { old with attempts := old.attempts + 1 } else old := by
  intro row hrow
  obtain ⟨_, rfl⟩ := updateCode_eq_some hrecord
  obtain ⟨old, hold, rfl⟩ := mem_update_iff.mp hrow
  exact ⟨old, hold, by simp⟩

theorem recordFailedAttempt_evolves (hrecord : table.recordFailedAttempt id = some later) :
    Evolves CodeSucceeds fresh table later := by
  obtain ⟨_, rfl⟩ := updateCode_eq_some hrecord
  exact evolves_update codeSucceeds_refl fun row _ _ ↦
    ⟨rfl, rfl, rfl, rfl, rfl, Nat.le_succ _, fun h ↦ h⟩

theorem consume_evolves {now : Instant} (hconsume : table.consume id now = some later) :
    Evolves CodeSucceeds fresh table later := by
  obtain ⟨_, rfl⟩ := updateCode_eq_some hconsume
  exact evolves_update codeSucceeds_refl fun row _ _ ↦
    ⟨rfl, rfl, rfl, rfl, rfl, Nat.le_refl _, fun _ ↦ Option.some_ne_none now⟩

/-- A consumed code is there, and consumed. -/
theorem exists_of_consume {now : Instant} (hconsume : table.consume id now = some later) :
    ∃ row ∈ later.rows, row.id = id ∧ row.consumedAt ≠ none := by
  obtain ⟨⟨row, hrow, hid⟩, rfl⟩ := updateCode_eq_some hconsume
  refine ⟨{ row with consumedAt := some now }, mem_update_iff.mpr ⟨row, hrow, ?_⟩, hid,
    Option.some_ne_none now⟩
  rw [if_pos (decide_eq_true hid)]

theorem exists_of_consume_before {now : Instant} (hconsume : table.consume id now = some later) :
    ∃ row ∈ table.rows, row.id = id :=
  (updateCode_eq_some hconsume).1

end CodeTable

/-! ### Every operation -/

/-- The verification code an operation inserts. -/
def IdentityOp.createdVerification : IdentityOp → Option OneTimeCodeRecord
  | .verifications (.create record) => some record
  | _ => none

/-- The reset request an operation inserts. -/
def IdentityOp.createdReset : IdentityOp → Option OneTimeCodeRecord
  | .resets (.create record _) => some record
  | _ => none

theorem ResetTable.consume_eq_some {table later : ResetTable} {id : String} {accountId : UserId}
    {now : Instant} (hconsume : table.consume id accountId now = some later) :
    CodeTable.consume table id now = some later := by
  unfold ResetTable.consume at hconsume
  split_ifs at hconsume
  exact hconsume

theorem VerificationTable.perform_evolves {table later : VerificationTable} {op : VerificationOp}
    {answer : op.Answer} (hperform : table.perform op = some (later, answer)) :
    Evolves CodeSucceeds (fun row ↦ (IdentityOp.verifications op).createdVerification = some row)
      table later := by
  cases op with
  | create record =>
    obtain ⟨inserted, hinserted, heq⟩ := Option.map_eq_some_iff.mp hperform
    obtain rfl := congrArg Prod.fst heq
    exact evolves_insert codeSucceeds_refl rfl hinserted
  | latestActive accountId now =>
    obtain rfl := congrArg Prod.fst (Option.some.inj hperform)
    exact evolves_refl codeSucceeds_refl
  | latestCreatedAt accountId =>
    obtain rfl := congrArg Prod.fst (Option.some.inj hperform)
    exact evolves_refl codeSucceeds_refl
  | recordFailedAttempt id =>
    obtain ⟨updated, hupdated, heq⟩ := Option.map_eq_some_iff.mp hperform
    obtain rfl := congrArg Prod.fst heq
    exact CodeTable.recordFailedAttempt_evolves hupdated
  | consume id now =>
    obtain ⟨updated, hupdated, heq⟩ := Option.map_eq_some_iff.mp hperform
    obtain rfl := congrArg Prod.fst heq
    exact CodeTable.consume_evolves hupdated

theorem ResetTable.perform_evolves {table later : ResetTable} {op : ResetOp} {answer : op.Answer}
    (hperform : table.perform op = some (later, answer)) :
    Evolves CodeSucceeds (fun row ↦ (IdentityOp.resets op).createdReset = some row) table later := by
  cases op with
  | create record requestedIpDigest =>
    obtain ⟨inserted, hinserted, heq⟩ := Option.map_eq_some_iff.mp hperform
    obtain rfl := congrArg Prod.fst heq
    exact evolves_insert codeSucceeds_refl rfl hinserted
  | findByCodeHash codeHash =>
    obtain rfl := congrArg Prod.fst (Option.some.inj hperform)
    exact evolves_refl codeSucceeds_refl
  | latestCreatedAt accountId =>
    obtain rfl := congrArg Prod.fst (Option.some.inj hperform)
    exact evolves_refl codeSucceeds_refl
  | recordFailedAttempt id =>
    obtain ⟨updated, hupdated, heq⟩ := Option.map_eq_some_iff.mp hperform
    obtain rfl := congrArg Prod.fst heq
    exact CodeTable.recordFailedAttempt_evolves hupdated
  | consume id accountId now =>
    obtain ⟨updated, hupdated, heq⟩ := Option.map_eq_some_iff.mp hperform
    obtain rfl := congrArg Prod.fst heq
    exact CodeTable.consume_evolves (ResetTable.consume_eq_some hupdated)

section Handle

variable {deps : IdentityDependencies} {store later : IdentityStore} {oracle : String}
  {op : IdentityOp} {answer : op.Answer}

theorem handle_verifications_evolves (hanswer : store.handle deps op oracle = some (later, answer)) :
    Evolves CodeSucceeds (fun row ↦ op.createdVerification = some row)
      store.verifications later.verifications := by
  cases handled_of_handle hanswer with
  | verifications hperform => exact VerificationTable.perform_evolves hperform
  | _ => exact evolves_refl codeSucceeds_refl

theorem handle_resets_evolves (hanswer : store.handle deps op oracle = some (later, answer)) :
    Evolves CodeSucceeds (fun row ↦ op.createdReset = some row) store.resets later.resets := by
  cases handled_of_handle hanswer with
  | resets hperform => exact ResetTable.perform_evolves hperform
  | _ => exact evolves_refl codeSucceeds_refl

end Handle

end CodeLaws

/-! ## What the use cases do with the codes -/

section CodeConduct

open Foundation Program SharedKernel

/-! ### The facts -/

/-- The request of the presented token was found, and is live at an instant. -/
structure Judged (deps : IdentityDependencies) (input : ResetPasswordInput) (log : IdentityLog)
    (record : OneTimeCodeRecord) (now : Instant) : Prop where
  found : Answered log (.resets (.findByCodeHash (deps.resetTokenDigest input.token))) (some record)
  live : record.isDead now = false

theorem Judged.append {deps : IdentityDependencies} {input : ResetPasswordInput} {log : IdentityLog}
    {record : OneTimeCodeRecord} {now : Instant} (hjudged : Judged deps input log record now)
    (extra : IdentityLog) : Judged deps input (extra ++ log) record now :=
  ⟨hjudged.found.append extra, hjudged.live⟩

/-- An active code was found below its cap, so the presented code is compared with it. -/
def Compared (log : IdentityLog) (active : OneTimeCodeRecord) : Prop :=
  ∃ accountId now, Answered log (.verifications (.latestActive accountId now)) (some active) ∧
    active.attempts < active.maxAttempts

def MayConsumeReset (deps : IdentityDependencies) (log : IdentityLog) (id : String)
    (accountId : UserId) (now : Instant) : IdentityRequest → Prop
  | .resetPassword input =>
    ∃ record, Judged deps input log record now ∧ id = record.id ∧ accountId = record.accountId
  | _ => False

/-- A reset replaces the password after it consumed the request of its token. -/
def MayReplacePassword (deps : IdentityDependencies) (log : IdentityLog) (accountId : UserId) :
    IdentityRequest → Prop
  | .resetPassword input => ∃ record now, Judged deps input log record now ∧
      accountId = record.accountId ∧ Answered log (.resets (.consume record.id accountId now)) ()
  | _ => True

def MayCount (deps : IdentityDependencies) (log : IdentityLog) (id : String) :
    IdentityRequest → Prop
  | .verifyEmail input => ∃ active, Compared log active ∧ id = active.id ∧
      VerifyEmail.presentedDigest deps input.code ≠ active.codeHash
  | _ => False

def MayConsumeCode (deps : IdentityDependencies) (log : IdentityLog) (id : String) :
    IdentityRequest → Prop
  | .verifyEmail input => ∃ active, Compared log active ∧ id = active.id ∧
      VerifyEmail.presentedDigest deps input.code = active.codeHash
  | _ => False

/-- What a request may do with one-time codes and by them. -/
def CodeAllowed (deps : IdentityDependencies) (request : IdentityRequest) (log : IdentityLog) :
    IdentityOp → Prop
  | .resets (.consume id accountId now) => MayConsumeReset deps log id accountId now request
  | .accounts (.replacePassword accountId _ _ _) => MayReplacePassword deps log accountId request
  | .verifications (.recordFailedAttempt id) => MayCount deps log id request
  | .verifications (.consume id _) => MayConsumeCode deps log id request
  | .accounts (.markEmailVerified _ now) =>
    ∃ id, Answered log (.verifications (.consume id now)) ()
  | _ => True

/-- What a success says of the codes. -/
def CodePost : IdentityRequest → IdentityLog → IdentityOutcome → Prop
  | .resetPassword _, log, .resetPassword (.ok ()) => ∃ accountId passwordHash paramsVersion now,
      Answered log (.accounts (.replacePassword accountId passwordHash paramsVersion now)) ()
  | .verifyEmail _, log, .verifyEmail (.ok ()) =>
    (∃ email account, Answered log (.accounts (.findByEmail email)) (some account) ∧
      account.emailVerifiedAt.isSome = true) ∨
    ∃ id now, Answered log (.verifications (.consume id now)) ()
  | _, _, _ => True

def codeContract (deps : IdentityDependencies) :
    Machine.Contract IdentityOp IdentityOp.Answer IdentityStore IdentityRequest IdentityOutcome where
  invariant _ := True
  allowed := CodeAllowed deps
  post := CodePost

/-! ### The use cases -/

section UseCases

variable {deps : IdentityDependencies} {request : IdentityRequest} {log : IdentityLog}

/-- An operation that no fact about codes restricts. -/
def IsCodeNeutral : IdentityOp → Prop
  | .sessions _ => True
  | op => IsAncillary op

theorem isCodeNeutral_of_isAncillary (op : IdentityOp) (hancillary : IsAncillary op) :
    IsCodeNeutral op := by
  unfold IsCodeNeutral
  split
  · trivial
  · exact hancillary

theorem codeAllowed_of_isCodeNeutral (log : IdentityLog) (op : IdentityOp)
    (hneutral : IsCodeNeutral op) : CodeAllowed deps request log op := by
  unfold CodeAllowed
  split
  · exact hneutral.elim
  · exact hneutral.elim
  · exact hneutral.elim
  · exact hneutral.elim
  · exact hneutral.elim
  · trivial

/-- Steps that no fact about codes restricts are passed over. -/
theorem code_pass {Result Other : Type} {post : IdentityLog → Other → Prop}
    {first : UseCase Result} {rest : Result → UseCase Other} (huses : first.Uses IsCodeNeutral)
    (hrest : ∀ extra result, Safe (IdentityStore.handle deps) (fun _ ↦ True)
      (CodeAllowed deps request) post (extra ++ log) (rest result)) :
    Safe (IdentityStore.handle deps) (fun _ ↦ True) (CodeAllowed deps request) post log
      (first >>= rest) :=
  safe_bind_of_uses codeAllowed_of_isCodeNeutral huses fun extra result _ ↦ hrest extra result

theorem neutral_recordSecurity (accountId : Option UserId) (eventType : SecurityEventType)
    (ipDigest : Option String) (metadata : Option Metadata) :
    (recordSecurity accountId eventType ipDigest metadata).Uses IsCodeNeutral :=
  (ancillary_recordSecurity _ _ _ _).mono isCodeNeutral_of_isAncillary

theorem neutral_auditOrFail (input : AuditInput) : (auditOrFail deps input).Uses IsCodeNeutral :=
  (ancillary_auditOrFail input).mono isCodeNeutral_of_isAncillary

theorem neutral_revokeAllSessions (accountId : UserId) (reason : RevocationReason) (now : Instant)
    (exceptSessionId : Option String) :
    (revokeAllSessions accountId reason now exceptSessionId).Uses IsCodeNeutral := by
  refine uses_bind (uses_perform trivial) fun ids ↦ uses_ite (uses_pure 0) ?_
  exact uses_bind (uses_perform trivial) fun _ ↦ uses_pure _

/-- The rest of a reset after the request was judged live. -/
theorem reset_complete_conducts {input : ResetPasswordInput} {record : OneTimeCodeRecord}
    {now : Instant} (hjudged : Judged deps input log record now) :
    Safe (IdentityStore.handle deps) (fun _ ↦ True) (CodeAllowed deps (.resetPassword input))
      (fun later _ ↦ CodePost (.resetPassword input) later (.resetPassword (.ok ()))) log
      (ResetPassword.complete deps record now input) := by
  refine code_pass ((ancillary_hash _).mono isCodeNeutral_of_isAncillary) fun extra credential ↦ ?_
  refine safe_any_bind ⟨record, hjudged.append extra, rfl, rfl⟩ fun _ ↦ ?_
  refine safe_any_bind ⟨record, now, hjudged.append (_ :: extra), rfl, answered_head⟩ fun _ ↦ ?_
  refine code_pass (neutral_revokeAllSessions _ _ _ _) fun swept revokedCount ↦ ?_
  refine code_pass (neutral_recordSecurity _ _ _ _) fun recorded _ ↦ ?_
  refine code_pass (neutral_auditOrFail _) fun audited _ ↦ ?_
  refine (safe_of_uses codeAllowed_of_isCodeNeutral
    ((ancillary_noticeOwner _ _).mono isCodeNeutral_of_isAncillary)).mono fun later _ hlater ↦ ?_
  obtain ⟨noticed, rfl, _⟩ := hlater
  exact ⟨_, _, _, _, (((answered_head.append swept).append recorded).append audited).append noticed⟩

theorem resetPassword_conducts (input : ResetPasswordInput) :
    Safe (IdentityStore.handle deps) (fun _ ↦ True) (CodeAllowed deps (.resetPassword input))
      (fun later result ↦ CodePost (.resetPassword input) later (.resetPassword result)) log
      (ResetPassword.execute deps input) := by
  refine safe_ite (fun _ ↦ safe_pure trivial) fun _ ↦ safe_any_bind trivial fun found ↦ ?_
  match found with
  | none => exact code_pass (neutral_recordSecurity _ _ _ _) fun _ _ ↦ safe_pure trivial
  | some record =>
    refine code_pass (ancillary_clockNow.mono isCodeNeutral_of_isAncillary) fun extra now ↦ ?_
    refine safe_ite (fun _ ↦ safe_any_bind trivial fun _ ↦ ?_) fun hdead ↦ ?_
    · exact code_pass (neutral_recordSecurity _ _ _ _) fun _ _ ↦ safe_pure trivial
    · refine safe_bind_of (reset_complete_conducts ⟨?_, eq_false_of_ne_true hdead⟩)
        fun _ _ hpost ↦ safe_pure hpost
      exact answered_head.append extra

/-- What follows a match. -/
theorem accept_conducts {input : VerifyEmailInput} {account : IdentityAccount}
    {active : OneTimeCodeRecord} {now : Instant} (hcompared : Compared log active)
    (hmatch : VerifyEmail.presentedDigest deps input.code = active.codeHash) :
    Safe (IdentityStore.handle deps) (fun _ ↦ True) (CodeAllowed deps (.verifyEmail input))
      (fun later _ ↦ CodePost (.verifyEmail input) later (.verifyEmail (.ok ()))) log
      (VerifyEmail.accept deps account active now input) := by
  refine safe_any_bind ⟨active, hcompared, rfl, hmatch⟩ fun _ ↦ ?_
  refine safe_any_bind ⟨active.id, answered_head⟩ fun _ ↦ ?_
  refine code_pass (neutral_recordSecurity _ _ _ _) fun recorded _ ↦ ?_
  refine (safe_of_uses codeAllowed_of_isCodeNeutral (neutral_auditOrFail _)).mono
    fun later _ hlater ↦ ?_
  obtain ⟨audited, rfl, _⟩ := hlater
  exact .inr ⟨_, _, (((answered_head.cons _).append recorded).append audited)⟩

theorem compare_conducts {input : VerifyEmailInput} {account : IdentityAccount}
    {active : OneTimeCodeRecord} {now : Instant} (hcompared : Compared log active) :
    Safe (IdentityStore.handle deps) (fun _ ↦ True) (CodeAllowed deps (.verifyEmail input))
      (fun later result ↦ CodePost (.verifyEmail input) later (.verifyEmail result)) log
      (VerifyEmail.compare deps account active now input) := by
  refine safe_ite (fun hmismatch ↦ ?_) fun hmatch ↦ ?_
  · have hne : VerifyEmail.presentedDigest deps input.code ≠ active.codeHash :=
      beq_eq_false_iff_ne.mp hmismatch
    refine safe_any_bind ⟨active, hcompared, rfl, hne⟩ fun _ ↦ ?_
    exact code_pass (neutral_recordSecurity _ _ _ _) fun _ _ ↦ safe_pure trivial
  · have heq : VerifyEmail.presentedDigest deps input.code = active.codeHash :=
      not_not.mp fun hne ↦ hmatch (beq_eq_false_iff_ne.mpr hne)
    exact safe_bind_of (accept_conducts hcompared heq) fun _ _ hpost ↦ safe_pure hpost

theorem verifyEmail_conducts (input : VerifyEmailInput) :
    Safe (IdentityStore.handle deps) (fun _ ↦ True) (CodeAllowed deps (.verifyEmail input))
      (fun later result ↦ CodePost (.verifyEmail input) later (.verifyEmail result)) log
      (VerifyEmail.execute deps input) := by
  refine safe_any_bind trivial fun found ↦ ?_
  match found with
  | none => exact safe_pure trivial
  | some account =>
    refine safe_ite (fun hverified ↦ ?_) fun _ ↦ ?_
    · exact safe_pure (.inl ⟨_, account, answered_head, hverified⟩)
    refine code_pass (ancillary_clockNow.mono isCodeNeutral_of_isAncillary) fun extra now ↦ ?_
    refine safe_any_bind trivial fun active ↦ ?_
    match active with
    | none => exact safe_pure trivial
    | some active =>
      refine safe_ite (fun _ ↦ ?_) fun hcap ↦ ?_
      · exact code_pass (neutral_recordSecurity _ _ _ _) fun _ _ ↦ safe_pure trivial
      · exact compare_conducts ⟨_, _, answered_head, Nat.lt_of_not_le hcap⟩

/-! ### Every request -/

/-- Every other use case treats no code beyond what it may. -/
theorem codeAllowed_of_touches (hreset : ∀ input, request ≠ .resetPassword input)
    (hverify : ∀ input, request ≠ .verifyEmail input) (log : IdentityLog) (op : IdentityOp)
    (htouches : Touches request op) : CodeAllowed deps request log op := by
  unfold CodeAllowed
  split
  · cases request <;> first | exact absurd rfl (hreset _) | exact htouches.elim
  · cases request <;> first | exact absurd rfl (hreset _) | trivial
  · cases request <;> first | exact absurd rfl (hverify _) | exact htouches.elim
  · cases request <;> first | exact absurd rfl (hverify _) | exact htouches.elim
  · cases request <;> first | exact absurd rfl (hverify _) | exact htouches.elim
  · trivial

/-- Every use case keeps the contract about codes. -/
theorem code_honours (request : IdentityRequest) :
    Machine.Honours (identityMachine deps) (codeContract deps) request := by
  by_cases hreset : ∃ input, request = .resetPassword input
  · obtain ⟨input, rfl⟩ := hreset
    exact safe_bind_of (resetPassword_conducts input) fun _ _ hpost ↦ safe_pure hpost
  by_cases hverify : ∃ input, request = .verifyEmail input
  · obtain ⟨input, rfl⟩ := hverify
    exact safe_bind_of (verifyEmail_conducts input) fun _ _ hpost ↦ safe_pure hpost
  have hother : ∀ input, request ≠ .resetPassword input := fun input h ↦ hreset ⟨input, h⟩
  have hanother : ∀ input, request ≠ .verifyEmail input := fun input h ↦ hverify ⟨input, h⟩
  refine (safe_of_uses (codeAllowed_of_touches hother hanother)
    (program_touches request)).mono fun later outcome _ ↦ ?_
  show CodePost request later outcome
  unfold CodePost
  split
  · exact absurd rfl (hother _)
  · exact absurd rfl (hanother _)
  · trivial

end UseCases

end CodeConduct

end Karar.Identity
