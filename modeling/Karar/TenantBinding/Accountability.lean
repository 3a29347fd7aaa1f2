import Karar.Identity.SessionLaws
import Karar.Tenancy.Redemption
import Karar.TenantBinding.Accounting

/-!
# Bindings are accountable

Identity commits a binding before it appends to its own ledger and audit trail, and the compensation
lives in the callers, which see a failed append as an exception and do not revoke on it.
`bindings_accountable` is what holds of the runs in which nothing fails while a binding of its call
stands: what a call has bound is reported with all its records, or its session is revoked.
`append_leaves_binding` is a run that does not.
-/

namespace Karar.TenantBinding

open Foundation KeyedTable Machine SharedKernel Tenancy

/-! ### Sessions along a run -/

/-- The sessions of a store. -/
abbrev BindingStore.sessions (store : BindingStore) :=
  store.identity.sessions.sessions

/-- A session is there, and is revoked. -/
def SessionRevoked (store : BindingStore) (sessionId : String) : Prop :=
  ∃ row ∈ store.sessions.rows, row.id = sessionId ∧ row.revokedAt ≠ none

section Sessions

variable {deps : Identity.IdentityDependencies} {store later : BindingStore}

theorem sessions_of_identity {identity : Identity.IdentityStore} {op : Identity.IdentityOp}
    {answer : op.Answer} {draw : String}
    (hanswer : store.identity.handle deps op draw = some (identity, answer)) :
    ∃ fresh, Evolves Identity.SessionSucceeds fresh store.sessions identity.sessions.sessions := by
  cases Identity.handled_of_handle hanswer with
  | sessions hperform => exact ⟨_, (Identity.SessionStore.perform_advances hperform).sessions⟩
  | _ => exact ⟨fun _ ↦ False, evolves_refl Identity.sessionSucceeds_refl⟩

theorem answer_of_handle {op : BindingOp} {value : op.Value} {oracle : BindingOracle}
    (hanswer : BindingStore.handle deps store op oracle = some (later, .ok value)) :
    store.answer deps op oracle = .ok (later, value) := by
  have hperform := perform_of_answered hanswer
  unfold BindingStore.perform at hperform
  split at hperform
  · exact hperform
  · split_ifs at hperform
    exact hperform

/-- What an operation of identity was answered by. -/
theorem identity_of_handle {op : Identity.IdentityOp} {value : op.Answer} {oracle : BindingOracle}
    (hanswer : BindingStore.handle deps store (.identity op) oracle = some (later, .ok value)) :
    store.identity.handle deps op oracle.draw = some (later.identity, value) := by
  have hanswered := answer_of_handle hanswer
  simp only [BindingStore.answer] at hanswered
  split at hanswered
  · rename_i identity given hgiven
    obtain ⟨rfl, rfl⟩ := Prod.mk.inj (Except.ok.inj hanswered)
    exact hgiven
  · cases hanswered

theorem sessions_of_handle {op : BindingOp} {answer : Except String op.Value}
    {oracle : BindingOracle}
    (hanswer : BindingStore.handle deps store op oracle = some (later, answer)) :
    ∃ fresh, Evolves Identity.SessionSucceeds fresh store.sessions later.sessions := by
  cases answer with
  | error message =>
    rw [eq_of_thrown hanswer]
    exact ⟨fun _ ↦ False, evolves_refl Identity.sessionSucceeds_refl⟩
  | ok value =>
    cases op with
    | identity op => exact sessions_of_identity (identity_of_handle hanswer)
    | _ =>
      obtain rfl := congrArg Prod.fst (Except.ok.inj (answer_of_handle hanswer))
      exact ⟨fun _ ↦ False, evolves_refl Identity.sessionSucceeds_refl⟩

theorem sessions_of_turn (deps : Identity.IdentityDependencies) (store : BindingStore)
    (turn : BindingTurn) :
    ∃ fresh, Evolves Identity.SessionSucceeds fresh store.sessions (store.turn deps turn).sessions := by
  cases turn with
  | identity op draw =>
    simp only [BindingStore.turn]
    split
    · rename_i hanswer
      exact sessions_of_identity hanswer
    · exact ⟨fun _ ↦ False, evolves_refl Identity.sessionSucceeds_refl⟩
  | _ => exact ⟨fun _ ↦ False, evolves_refl Identity.sessionSucceeds_refl⟩

theorem SessionRevoked.kept {sessionId : String} {fresh : Identity.Session → Prop}
    (hrevoked : SessionRevoked store sessionId)
    (hevolves : Evolves Identity.SessionSucceeds fresh store.sessions later.sessions) :
    SessionRevoked later sessionId := by
  obtain ⟨row, hrow, hid, hrevoked⟩ := hrevoked
  obtain ⟨successor, hsuccessor, hnext⟩ := hevolves.kept row hrow
  exact ⟨successor, hsuccessor, hnext.id.trans hid, hnext.revoked hrevoked⟩

/-- The session of a binding is there, and is the account's. -/
def IsThere (store : BindingStore) (made : MadeBinding) : Prop :=
  ∃ row ∈ store.sessions.rows, row.id = made.sessionId ∧ row.accountId = made.accountId

theorem IsThere.kept {made : MadeBinding} {fresh : Identity.Session → Prop}
    (hthere : IsThere store made)
    (hevolves : Evolves Identity.SessionSucceeds fresh store.sessions later.sessions) :
    IsThere later made := by
  obtain ⟨row, hrow, hid, haccount⟩ := hthere
  obtain ⟨successor, hsuccessor, hnext⟩ := hevolves.kept row hrow
  exact ⟨successor, hsuccessor, hnext.id.trans hid, hnext.accountId.trans haccount⟩

/-- A binding that was made is on a session of the account. -/
theorem isThere_of_made {op : BindingOp} {answer : Except String op.Value} {oracle : BindingOracle}
    {made : MadeBinding} (hmade : madeBinding ⟨op, answer⟩ = some made)
    (hanswer : BindingStore.handle deps store op oracle = some (later, answer)) :
    IsThere later made := by
  unfold madeBinding at hmade
  split at hmade
  · rename_i accountId sessionId tenantId now heq
    obtain ⟨rfl, hvalue⟩ := Sigma.mk.inj heq
    obtain rfl := eq_of_heq hvalue
    obtain rfl := Option.some.inj hmade
    obtain ⟨sessions, hperform, hlater⟩ :=
      Identity.handle_sessions (identity_of_handle hanswer)
    have hclaimed := Option.some.inj hperform
    have hcount : store.sessions.count (Identity.SessionStore.isBindable accountId sessionId) = 1 :=
      beq_iff_eq.mp (congrArg Prod.snd hclaimed)
    obtain ⟨row, hrow, hbindable⟩ := exists_of_count_ne_zero (hcount ▸ Nat.one_ne_zero)
    unfold Identity.SessionStore.isBindable at hbindable
    obtain ⟨hid, haccount, _⟩ := of_decide_eq_true hbindable
    obtain ⟨_, hevolves⟩ := sessions_of_handle hanswer
    exact IsThere.kept ⟨row, hrow, hid, haccount⟩ hevolves
  · rename_i accountId oldSessionId reason bundle now heq
    obtain ⟨rfl, hvalue⟩ := Sigma.mk.inj heq
    obtain rfl := eq_of_heq hvalue
    obtain ⟨tenantId, htenant, rfl⟩ := Option.map_eq_some_iff.mp hmade
    obtain ⟨sessions, hperform, hlater⟩ :=
      Identity.handle_sessions (identity_of_handle hanswer)
    obtain ⟨revoked, _, hinserted⟩ := Identity.SessionStore.rebindSession_eq_true hperform
    obtain ⟨haccount, _, hinsert, _⟩ := Identity.SessionStore.insertBundle_eq_some hinserted
    have hsessions : later.sessions = sessions.sessions := by
      show later.identity.sessions.sessions = _
      rw [hlater]
    refine ⟨bundle.storedSession, ?_, rfl, haccount⟩
    rw [hsessions]
    exact (mem_insert_iff hinsert).mpr (.inr rfl)
  · cases hmade

/-- A revocation that was answered leaves the session of a binding revoked. -/
theorem sessionRevoked_of_revokes {op : BindingOp} {answer : Except String op.Value}
    {oracle : BindingOracle} {made : MadeBinding} (hthere : IsThere store made)
    (hrevokes : revokes made ⟨op, answer⟩ = true)
    (hanswer : BindingStore.handle deps store op oracle = some (later, answer)) :
    SessionRevoked later made.sessionId := by
  unfold revokes at hrevokes
  split at hrevokes
  · rename_i accountId sessionId reason now revoked heq
    obtain ⟨rfl, hvalue⟩ := Sigma.mk.inj heq
    obtain rfl := eq_of_heq hvalue
    obtain ⟨rfl, rfl⟩ : accountId = made.accountId ∧ sessionId = made.sessionId := by
      simpa using hrevokes
    obtain ⟨sessions, hperform, hlater⟩ :=
      Identity.handle_sessions (identity_of_handle hanswer)
    have hsessions : later.sessions = sessions.sessions := by
      show later.identity.sessions.sessions = _
      rw [hlater]
    obtain ⟨row, hrow, hid, haccount⟩ := hthere
    have hevolves : Evolves Identity.SessionSucceeds (fun _ ↦ False) store.sessions
        sessions.sessions := Identity.SessionStore.revokeSession_sessions (Option.some.inj hperform)
    obtain ⟨successor, hsuccessor, hnext⟩ := hevolves.kept row hrow
    refine ⟨successor, hsessions ▸ hsuccessor, hnext.id.trans hid, ?_⟩
    cases revoked with
    | true =>
      obtain ⟨_, rfl⟩ := Identity.SessionStore.revokeSession_eq_true (Option.some.inj hperform)
      by_cases hrevoked : row.revokedAt = none
      · have hunrevoked := Identity.SessionStore.isUnrevokedOf_iff.mpr ⟨hid, haccount, hrevoked⟩
        exact Identity.SessionStore.revokedAt_ne_none_of_mark hrow hunrevoked hsuccessor hnext.id
      · exact hnext.revoked hrevoked
    | false =>
      obtain ⟨_, hnone⟩ := Identity.SessionStore.revokeSession_eq_false (Option.some.inj hperform)
      refine hnext.revoked fun hrevoked ↦ hnone row hrow ?_
      exact Identity.SessionStore.isUnrevokedOf_iff.mpr ⟨hid, haccount, hrevoked⟩
  · cases hrevokes

end Sessions

/-! ### Runs -/

/-- Any interleaving of binding calls. -/
abbrev Reachable (deps : Identity.IdentityDependencies) (store : BindingStore)
    (c : BindingConfiguration) : Prop :=
  Reaches (bindingMachine deps) (fun _ _ ↦ True) (.initial store) c

section Runs

variable {deps : Identity.IdentityDependencies} {store : BindingStore} {c : BindingConfiguration}

theorem isThere_history (hreaches : Reachable deps store c) :
    ∀ occurrence ∈ c.history, ∀ made, madeBinding occurrence.performed = some made →
      IsThere c.store made := by
  refine hreaches.history (fun performed store ↦ ∀ made, madeBinding performed = some made →
      IsThere store made) (fun _ _ _ _ _ hanswer made hmade ↦ isThere_of_made hmade hanswer)
    (fun _ _ _ _ _ _ hfact hanswer made hmade ↦ ?_) (fun _ before turn hfact made hmade ↦ ?_)
    fun _ h ↦ absurd h List.not_mem_nil
  · obtain ⟨_, hevolves⟩ := sessions_of_handle hanswer
    exact (hfact made hmade).kept hevolves
  · obtain ⟨_, hevolves⟩ := sessions_of_turn deps before turn
    exact (hfact made hmade).kept hevolves

/-- The session of a binding that was undone is revoked. -/
theorem sessionRevoked_of_undone (hreaches : Reachable deps store c) {caller : ℕ}
    {made : MadeBinding} (hundone : Undone made (logOf caller c.history)) :
    SessionRevoked c.store made.sessionId := by
  obtain ⟨recent, performed, earlier, hlog, hrevokes, binding, hbinding, hmade⟩ := hundone
  obtain ⟨newer, older, hhistory, rfl⟩ := exists_history_of_logOf hlog
  obtain ⟨before, after, oracle, hbefore, rfl, _, hstep, hafter, hlater⟩ :=
    hreaches.occurred rfl hhistory
  obtain ⟨given, request, next, _, _, hanswer⟩ := performed_of_history_eq_cons hstep hafter
  have hthere : IsThere before.store made :=
    isThere_history hbefore _ (mem_logOf.mp hbinding) made hmade
  have hrevoked : SessionRevoked after.store made.sessionId :=
    sessionRevoked_of_revokes hthere hrevokes hanswer
  refine hlater.store (fun store ↦ SessionRevoked store made.sessionId)
    (fun _ _ _ _ _ hkept hanswer ↦ ?_) (fun store turn hkept ↦ ?_) hrevoked
  · obtain ⟨_, hevolves⟩ := sessions_of_handle hanswer
    exact hkept.kept hevolves
  · obtain ⟨_, hevolves⟩ := sessions_of_turn deps store turn
    exact hkept.kept hevolves

/-! ### The condition -/

/-- The operation that an event has a call perform, if a port fails in it. -/
def failing (deps : Identity.IdentityDependencies) (c : BindingConfiguration) :
    BindingEvent → Option (ℕ × BindingOp)
  | .advance caller oracle => do
    let asked ← c.next caller
    let answered ← BindingStore.handle deps c.store asked.2 oracle
    if fails ⟨asked.2, answered.2⟩ then some (caller, asked.2) else none
  | _ => none

/-- An append to the security ledger or to an audit trail. The ledger throws on metadata that it
refuses. -/
def isAppend : BindingOp → Bool
  | .identity (.ledger (.record _)) => true
  | .identity (.surroundings (.raise _)) => true
  | .identity (.surroundings (.recordAudit _)) => true
  | .record _ => true
  | _ => false

/-- No port but the ledger and the audit trails fails. -/
def OnlyAppendsFail (deps : Identity.IdentityDependencies) (c : BindingConfiguration)
    (event : BindingEvent) : Prop :=
  ∀ failed ∈ failing deps c event, isAppend failed.2 = true

/-- Nothing fails while a binding of its call stands. -/
def Steady (deps : Identity.IdentityDependencies) (c : BindingConfiguration)
    (event : BindingEvent) : Prop :=
  ∀ failed ∈ failing deps c event, standing (logOf failed.1 c.history) = none

instance (deps : Identity.IdentityDependencies) (c : BindingConfiguration) (event : BindingEvent) :
    Decidable (OnlyAppendsFail deps c event) :=
  inferInstanceAs (Decidable (∀ failed ∈ failing deps c event, _))

instance (deps : Identity.IdentityDependencies) (c : BindingConfiguration) (event : BindingEvent) :
    Decidable (Steady deps c event) :=
  inferInstanceAs (Decidable (∀ failed ∈ failing deps c event, _))

theorem failing_of_performed {caller : ℕ} {request : BindingRequest} {op : BindingOp}
    {next : Except String op.Value → UseCase BindingOutcome} {oracle : BindingOracle}
    {later : BindingStore} {answer : Except String op.Value}
    (hcall : c.calls[caller]? = some ⟨request, .running (.call op next)⟩)
    (hanswer : BindingStore.handle deps c.store op oracle = some (later, answer))
    (hfails : fails ⟨op, answer⟩ = true) :
    failing deps c (.advance caller oracle) = some (caller, op) := by
  simp [failing, next_of_call hcall, hanswer, hfails]

theorem undisturbed_of_steady
    (hreaches : Reaches (bindingMachine deps) (Steady deps) (.initial store) c) (caller : ℕ) :
    Undisturbed (logOf caller c.history) := by
  induction hreaches with
  | refl => trivial
  | step _ hsteady hstep ih =>
    cases steps_of_step_eq_some hstep with
    | start request => exact ih
    | @perform performer oracle request op next later answer hcall hanswer =>
      by_cases hcaller : performer = caller
      · subst hcaller
        rw [logOf_cons_self]
        refine ⟨fun hstands ↦ ?_, ih⟩
        by_contra hfails
        have hfailed := failing_of_performed hcall hanswer (by simpa using hfails)
        exact hstands (hsteady (performer, op) hfailed)
      · rw [logOf_cons_of_ne hcaller]
        exact ih
    | end_ hcall => exact ih
    | turn tick => exact ih

/-! ### The law -/

/-- What a call that has ended has bound is reported as bound with every `SUCCESS` record written, or
the session is revoked. -/
def BindingsAccountable (c : BindingConfiguration) : Prop :=
  ∀ caller request outcome, c.Returned caller request outcome →
    ∀ performed ∈ logOf caller c.history, ∀ made ∈ madeBinding performed,
      (reportedTenant outcome = some made.tenantId ∧
        Recorded request.records made (logOf caller c.history)) ∨
      SessionRevoked c.store made.sessionId

/-- Where nothing fails while a binding of its call stands, bindings are accountable. -/
theorem bindings_accountable (deps : Identity.IdentityDependencies) (store : BindingStore)
    (c : BindingConfiguration)
    (hreaches : Reaches (bindingMachine deps) (Steady deps) (.initial store) c) :
    BindingsAccountable c := by
  intro caller request outcome hreturned performed hperformed made hmade
  have hpost := (hreaches.bound (binding_honours deps) fun _ ↦ trivial).post (Nat.zero_le _) hreturned
  have hundisturbed := undisturbed_of_steady hreaches caller
  unfold bindingContract at hpost
  dsimp only at hpost
  cases hreported : reportedTenant outcome with
  | none =>
    rw [hreported] at hpost
    have hundone : Undone made (logOf caller c.history) :=
      hpost hundisturbed performed hperformed made hmade
    exact .inr (sessionRevoked_of_undone (hreaches.mono fun _ _ _ ↦ trivial) hundone)
  | some tenantId =>
    rw [hreported] at hpost
    obtain ⟨userId, _, _, hunbound | ⟨held, htenant, hbound, hrecorded⟩⟩ := hpost
    · rw [hunbound performed hperformed] at hmade
      cases hmade
    · obtain rfl := hbound.only performed hperformed made hmade
      exact .inl ⟨congrArg some htenant.symm, hrecorded⟩

end Runs

/-! ### An append that throws -/

namespace ReferenceBinding

open Identity.ReferenceLibraries Tenancy.ReferenceInvitation

def deps : Identity.IdentityDependencies := dependencies Identity.defaultIdentityPolicy

/-- A session of the owner, bound to no tenant. -/
def session : Identity.Session where
  id := "session"
  accountId := owner
  createdAt := 0
  lastSeenAt := 0
  absoluteExpiresAt := 1000
  idleExpiresAt := none
  revokedAt := none
  revokedReason := none
  ipDigest := none
  userAgentSummary := none
  tenantBinding := none

def membership : TenantMembership where
  id := "membership"
  tenantId := tenant
  userId := owner
  roleHint := "MEMBER"
  state := .active
  effectiveFrom := 0
  effectiveTo := none
  createdAt := 0
  updatedAt := 0

/-- The owner is an active member of one active tenant. -/
def store : BindingStore where
  identity :=
    { ownerStore with
      sessions := { Identity.SessionStore.empty with sessions := single session }
      clock := 10 }
  members := single membership
  tenants := single ⟨tenant, "Tenant", .active⟩

def bootstrap : BindingRequest := .getBootstrap ⟨owner, "session", none, true, none⟩ client

/-- The owner's session is bound, and the call goes on to its end. -/
def completing : List BindingEvent := [.start bootstrap] ++ List.replicate 19 (.advance 0 {})

def completed : BindingConfiguration :=
  (bindingMachine deps).finish (Steady deps) (.initial store) completing

/-- The session is bound, and the security ledger cannot be written. -/
def interrupting : List BindingEvent :=
  [.start bootstrap] ++ List.replicate 7 (.advance 0 {}) ++
    [.advance 0 { failure := some "the security ledger is unavailable" }]

def interrupted : BindingConfiguration :=
  (bindingMachine deps).finish (OnlyAppendsFail deps) (.initial store) interrupting

end ReferenceBinding

open ReferenceBinding in
theorem bindings_accountable_completed : BindingsAccountable completed ∧
    (completed.outcome 0).map (fun ended ↦ reportedTenant ended.2) =
      some (some Tenancy.ReferenceInvitation.tenant.value) ∧
    ((completed.store.sessions.find "session").bind (·.tenantBinding)).isSome = true :=
  ⟨bindings_accountable deps store completed (reaches_finish completing), by decide +kernel,
    by decide +kernel⟩

open ReferenceBinding in
theorem append_leaves_binding : ¬ ∀ deps store c,
    Reaches (bindingMachine deps) (OnlyAppendsFail deps) (.initial store) c →
      BindingsAccountable c := by
  intro hlaw
  have haccountable := hlaw deps store interrupted (reaches_finish interrupting)
  obtain ⟨⟨request, outcome⟩, houtcome⟩ : ∃ ended, interrupted.outcome 0 = some ended :=
    Option.isSome_iff_exists.mp (by decide +kernel)
  have hunreported : ∀ ended ∈ interrupted.outcome 0, reportedTenant ended.2 = none := by
    decide +kernel
  have hbound : ∃ performed ∈ logOf 0 interrupted.history, ∃ made ∈ madeBinding performed,
      made.sessionId = "session" := by
    decide +kernel
  have hlive : ∀ row ∈ interrupted.store.sessions.rows, row.revokedAt = none := by
    decide +kernel
  obtain ⟨performed, hperformed, made, hmade, _⟩ := hbound
  rcases haccountable 0 request outcome (returned_iff.mpr houtcome) performed hperformed made hmade
    with ⟨hreported, _⟩ | ⟨row, hrow, _, hrevoked⟩
  · rw [hunreported _ houtcome] at hreported
    cases hreported
  · exact hrevoked (hlive row hrow)

end Karar.TenantBinding
