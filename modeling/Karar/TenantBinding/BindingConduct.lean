import Karar.Identity.Requests
import Karar.TenantBinding.BindingLog

/-!
# The conduct of binding calls

What the parts of the three use cases do to the binding of their call. A part that only reads and
records says what it read (`Reads`); identity's claim and replacement bind once; a revocation closes
what is bound. `binding_honours` puts the parts together: every call is `Accounted` for at its end.
-/

namespace Karar.TenantBinding

open Foundation SharedKernel Tenancy

variable {deps : Identity.IdentityDependencies} {Result Other : Type}

/-- Whatever a binding call performs and whatever it is answered, its end meets a postcondition. -/
abbrev Conducts (deps : Identity.IdentityDependencies) (post : BindingLog → Result → Prop)
    (log : BindingLog) (program : UseCase Result) : Prop :=
  Safe (BindingStore.handle deps) (fun _ ↦ True) (fun _ _ ↦ True) post log program

/-! ### Parts that neither bind nor revoke -/

/-- A part adds quiet operations to what was performed, and its value goes with what they read. It
throws only where one of them threw. -/
def Reads (gives : Result → BindingLog → Prop) (base later : BindingLog)
    (result : Except String Result) : Prop :=
  ∃ extra, later = extra ++ base ∧ (∀ performed ∈ extra, isQuiet performed.1 = true) ∧
    match result with
    | .ok value => gives value extra
    | .error _ => ∃ performed ∈ extra, threw performed = true

section Reads

variable {gives : Result → BindingLog → Prop} {base log : BindingLog}

theorem quiet_cons {op : BindingOp} {answer : Except String op.Value} {extra : BindingLog}
    (hop : isQuiet op = true) (hquiet : ∀ performed ∈ extra, isQuiet performed.1 = true) :
    ∀ performed ∈ (⟨op, answer⟩ :: extra : BindingLog), isQuiet performed.1 = true := by
  intro performed hperformed
  rcases List.mem_cons.mp hperformed with rfl | hextra
  · exact hop
  · exact hquiet performed hextra

theorem Reads.mono {weaker : Result → BindingLog → Prop} {later : BindingLog}
    {result : Except String Result} (hreads : Reads gives base later result)
    (hweaker : ∀ value extra, gives value extra → weaker value extra) :
    Reads weaker base later result := by
  obtain ⟨extra, rfl, hquiet, hresult⟩ := hreads
  refine ⟨extra, rfl, hquiet, ?_⟩
  cases result with
  | ok value => exact hweaker value extra hresult
  | error message => exact hresult

theorem reads_return (extra : BindingLog)
    (hquiet : ∀ performed ∈ extra, isQuiet performed.1 = true) {value : Result}
    (hgives : gives value extra) :
    Conducts deps (Reads gives base) (extra ++ base) (pure value : Attempt Result).run :=
  safe_return ⟨extra, rfl, hquiet, hgives⟩

theorem reads_port_bind (extra : BindingLog)
    (hquiet : ∀ performed ∈ extra, isQuiet performed.1 = true) {op : BindingOp}
    {rest : op.Value → Attempt Result} (hop : isQuiet op = true)
    (hrest : ∀ value, Conducts deps (Reads gives base) ((⟨op, .ok value⟩ :: extra) ++ base)
      (rest value).run) :
    Conducts deps (Reads gives base) (extra ++ base) (port op >>= rest).run := by
  refine safe_ask_bind trivial (fun _ _ _ message _ _ ↦ ?_) fun _ _ _ value _ _ ↦ hrest value
  exact ⟨⟨op, .error message⟩ :: extra, rfl, quiet_cons hop hquiet, _, List.mem_cons_self, rfl⟩

/-- A quiet part, then the rest of a body. -/
theorem safe_reads_bind {post : BindingLog → Except String Other → Prop} {first : Attempt Result}
    {rest : Result → Attempt Other} (hfirst : Conducts deps (Reads gives log) log first.run)
    (hthrown : ∀ extra message, (∀ performed ∈ extra, isQuiet performed.1 = true) →
      (∃ performed ∈ extra, fails performed = true) → post (extra ++ log) (.error message))
    (hrest : ∀ extra value, (∀ performed ∈ extra, isQuiet performed.1 = true) →
      gives value extra → Conducts deps post (extra ++ log) (rest value).run) :
    Conducts deps post log (first >>= rest).run := by
  refine safe_throwing_bind hfirst (fun later message hread ↦ ?_) fun later value hread ↦ ?_
  · obtain ⟨extra, rfl, hquiet, performed, hperformed, hthrew⟩ := hread
    exact hthrown extra message hquiet ⟨performed, hperformed, fails_of_threw hthrew⟩
  · obtain ⟨extra, rfl, hquiet, hgives⟩ := hread
    exact hrest extra value hquiet hgives

/-- A use case that does not throw, then the rest of a body. -/
theorem safe_answered_bind {middle : BindingLog → Result → Prop}
    {post : BindingLog → Except String Other → Prop} {program : UseCase Result}
    {rest : Result → Attempt Other} (hprogram : Conducts deps middle log program)
    (hrest : ∀ later value, middle later value → Conducts deps post later (rest value).run) :
    Conducts deps post log (answered program >>= rest).run := by
  rw [ExceptT.run_bind]
  have hlifted : Conducts deps (fun later result ↦ ∃ value, result = .ok value ∧ middle later value)
      log (answered program).run :=
    safe_bind_of hprogram fun later value hmiddle ↦ ⟨value, rfl, hmiddle⟩
  refine safe_bind_of hlifted fun later result hresult ↦ ?_
  obtain ⟨value, rfl, hmiddle⟩ := hresult
  exact hrest later value hmiddle

/-! ### Reads of memberships and tenants -/

/-- A usable choice was checked. -/
def IsChecked (userId : UserId) (choice : TenantChoice) (log : BindingLog) : Prop :=
  ∃ target : TenantId, target.value = choice.tenantId ∧ Checks userId target log

/-- Every choice comes from an active membership that was read and an active tenant. -/
theorem choices_reads {userId : UserId} {now : Instant} {own : List TenantMembership}
    (memberships : List TenantMembership) (extra : BindingLog)
    (hquiet : ∀ performed ∈ extra, isQuiet performed.1 = true)
    (hnow : (⟨.now, .ok now⟩ : BindingPerformed) ∈ extra)
    (hown : (⟨.listOwnAcrossTenants userId, .ok own⟩ : BindingPerformed) ∈ extra)
    (hmemberships : ∀ membership ∈ memberships,
      membership ∈ own ∧ membershipActiveAt membership now = true) :
    Conducts deps
      (Reads (fun found later ↦ (∀ performed ∈ extra, performed ∈ later) ∧
        ∀ entry ∈ found, IsChecked userId entry.2 later) base)
      (extra ++ base) (ResolveTenantContext.choices userId memberships).run := by
  induction memberships generalizing extra with
  | nil => exact reads_return extra hquiet (by simp)
  | cons membership memberships ih =>
    have hrest : ∀ other ∈ memberships, other ∈ own ∧ membershipActiveAt other now = true :=
      fun other hother ↦ hmemberships other (List.mem_cons_of_mem _ hother)
    obtain ⟨hmember, hactive⟩ := hmemberships membership List.mem_cons_self
    refine reads_port_bind extra hquiet rfl fun found ↦ ?_
    have hlonger : ∀ performed ∈ (⟨.findForMember userId membership.tenantId, .ok found⟩ :: extra :
        BindingLog), isQuiet performed.1 = true := quiet_cons rfl hquiet
    have hnext := ih _ hlonger (List.mem_cons_of_mem _ hnow) (List.mem_cons_of_mem _ hown) hrest
    have hskip := hnext.mono fun later result hreads ↦ hreads.mono fun value more hgives ↦
      (⟨fun performed hperformed ↦ hgives.1 _ (List.mem_cons_of_mem _ hperformed), hgives.2⟩ :
        (∀ performed ∈ extra, performed ∈ more) ∧ ∀ entry ∈ value, IsChecked userId entry.2 more)
    cases found with
    | none => exact hskip
    | some tenant =>
      dsimp only
      by_cases hstatus : tenant.status = .active
      · rw [if_neg (not_not_intro hstatus)]
        refine safe_throwing_bind hnext (fun later message hreads ↦ hreads) fun later others hreads ↦ ?_
        obtain ⟨more, rfl, hquietMore, hkept, hothers⟩ := hreads
        refine reads_return more hquietMore ⟨fun performed hperformed ↦
          hkept _ (List.mem_cons_of_mem _ hperformed), fun entry hentry ↦ ?_⟩
        rcases List.mem_cons.mp hentry with rfl | hother
        · exact ⟨membership.tenantId, rfl, now, membership, tenant,
            hkept _ (List.mem_cons_of_mem _ hnow),
            ⟨_, hkept _ (List.mem_cons_of_mem _ hown), rfl, hmember, rfl⟩, hactive,
            hkept _ List.mem_cons_self, hstatus⟩
        · exact hothers entry hother
      · rw [if_pos hstatus]
        exact hskip

theorem choicesOf_resolutionOf (found : List (TenantId × TenantChoice)) :
    choicesOf (ResolveTenantContext.resolutionOf found) = found.map Prod.snd := by
  match found with
  | [] => rfl
  | [_] => rfl
  | _ :: _ :: _ => rfl

/-- What a resolution offers was checked. -/
theorem resolve_safe {actor : AuthenticatedActor} {userId : UserId}
    (hparse : UserId.parse actor.userId = some userId) :
    Conducts deps
      (fun later result ↦ ∃ extra, later = extra ++ log ∧
        (∀ performed ∈ extra, isQuiet performed.1 = true) ∧
        ∀ resolution, result = .ok resolution →
          ∀ choice ∈ choicesOf resolution, IsChecked userId choice extra)
      log (ResolveTenantContext.execute (some actor)) := by
  unfold ResolveTenantContext.execute requireAuthenticated
  simp only [hparse]
  have hattempt : Conducts deps
      (Reads (fun result extra ↦ ∀ resolution, result = .ok resolution →
        ∀ choice ∈ choicesOf resolution, IsChecked userId choice extra) log) log
      (ResolveTenantContext.attempt ⟨userId, actor.sessionId, actor.requestId⟩).run := by
    refine reads_port_bind [] (by simp) rfl fun now ↦ ?_
    refine reads_port_bind _ (by simp [isQuiet]) rfl fun own ↦ ?_
    refine safe_throwing_bind (choices_reads _ _ (by simp [isQuiet])
      (List.mem_cons_of_mem _ List.mem_cons_self) List.mem_cons_self fun membership hmembership ↦ ?_) (fun later message hreads ↦ hreads) fun later found hreads ↦ ?_
    · simpa using hmembership
    · obtain ⟨extra, rfl, hquiet, _, hfound⟩ := hreads
      refine reads_return extra hquiet ?_
      rintro resolution hresolution choice hchoice
      obtain rfl := Except.ok.inj hresolution
      rw [choicesOf_resolutionOf] at hchoice
      obtain ⟨entry, hentry, rfl⟩ := List.mem_map.mp hchoice
      exact hfound entry hentry
  refine safe_catching (hattempt.mono fun later result hreads ↦ ?_)
  obtain ⟨extra, rfl, hquiet, hresult⟩ := hreads
  refine ⟨extra, rfl, hquiet, ?_⟩
  cases result with
  | ok result => exact hresult
  | error message => exact fun resolution hresolution ↦ by cases hresolution

theorem mem_of_choiceFor {resolution : TenantContextResolution} {tenantId : String}
    {choice : TenantChoice} (hchoice : choiceFor resolution tenantId = some choice) :
    choice ∈ choicesOf resolution ∧ choice.tenantId = tenantId := by
  have hfound := List.find?_some hchoice
  exact ⟨List.mem_of_find?_eq_some hchoice, of_decide_eq_true hfound⟩

theorem recheck_reads (principal : BootstrapPrincipal) (tenantId : String) :
    Conducts deps
      (Reads (fun found extra ↦ ∀ choice ∈ found,
        choice.tenantId = tenantId ∧ IsChecked principal.userId choice extra) log) log
      (recheck principal tenantId).run := by
  have hparse : UserId.parse principal.actor.userId = some principal.userId :=
    UserId.parse_value principal.userId
  refine safe_answered_bind (resolve_safe hparse) fun later result hresult ↦ ?_
  obtain ⟨extra, rfl, hquiet, hchecked⟩ := hresult
  cases result with
  | error refusal => exact reads_return extra hquiet fun choice hchoice ↦ by cases hchoice
  | ok resolution =>
    refine reads_return extra hquiet fun choice hchoice ↦ ?_
    obtain ⟨hmem, htenant⟩ := mem_of_choiceFor hchoice
    exact ⟨htenant, hchecked resolution rfl choice hmem⟩

theorem verifyTarget_reads (userId : UserId) (target : TenantId) :
    Conducts deps (Reads (fun verified extra ↦ verified = true → Checks userId target extra) log)
      log (SwitchTenant.verifyTarget userId target).run := by
  refine reads_port_bind [] (by simp) rfl fun found ↦ ?_
  cases found with
  | none => exact reads_return _ (by simp [isQuiet]) (by simp)
  | some membership =>
    refine reads_port_bind _ (by simp [isQuiet]) rfl fun now ↦ ?_
    dsimp only
    by_cases hactive : membershipActiveAt membership now = true
    · rw [if_neg (by simp [hactive])]
      refine reads_port_bind _ (by simp [isQuiet]) rfl fun tenant ↦ ?_
      cases tenant with
      | none => exact reads_return _ (by simp [isQuiet]) (by simp)
      | some tenant =>
        refine reads_return _ (by simp [isQuiet]) fun hstatus ↦ ?_
        exact ⟨now, membership, tenant, List.mem_cons_of_mem _ List.mem_cons_self,
          ⟨_, List.mem_cons_of_mem _ (List.mem_cons_of_mem _ List.mem_cons_self), rfl, rfl, rfl⟩,
          hactive, List.mem_cons_self, of_decide_eq_true hstatus⟩
    · rw [if_pos (by simpa using hactive)]
      exact reads_return _ (by simp [isQuiet]) (by simp)

theorem audit_reads (entry : Instant → AuditTrailEntry) :
    Conducts deps
      (Reads (fun written extra ↦ written = true → ∃ occurredAt,
        (⟨.record (entry occurredAt), .ok (.ok ())⟩ : BindingPerformed) ∈ extra) log) log
      (audit entry).run := by
  refine reads_port_bind [] (by simp) rfl fun occurredAt ↦ ?_
  refine reads_port_bind _ (by simp [isQuiet]) rfl fun written ↦ ?_
  cases written with
  | error failure => exact reads_return _ (by simp [isQuiet]) (by simp)
  | ok _ => exact reads_return _ (by simp [isQuiet]) fun _ ↦ ⟨occurredAt, List.mem_cons_self⟩

end Reads

/-! ### Identity's part -/

section IdentityParts

variable {log : BindingLog} {made : MadeBinding}

theorem isQuiet_of_isAncillary (op : Identity.IdentityOp) (hancillary : Identity.IsAncillary op) :
    isQuiet (.identity op) = true := by
  cases op with
  | sessions op => exact hancillary.elim
  | _ => rfl

/-- A part of identity that neither binds nor revokes. -/
theorem identity_returns {good : Result → Prop} {program : Identity.UseCase Result}
    (huses : program.Uses fun op ↦ isQuiet (.identity op) = true)
    (hreturns : program.Returns good) :
    Conducts deps (Reads (fun value _ ↦ good value) log) log (identity program).run := by
  refine (safe_embed_of_uses (fun _ _ _ ↦ trivial) huses hreturns).mono fun later result hpasses ↦ ?_
  obtain ⟨extra, rfl, hextra, hresult⟩ := hpasses
  refine ⟨extra, rfl, fun performed hperformed ↦ ?_, hresult⟩
  obtain ⟨op, hquiet, hop⟩ := hextra performed hperformed
  rwa [hop]

theorem identity_reads {program : Identity.UseCase Result}
    (hancillary : program.Uses Identity.IsAncillary) :
    Conducts deps (Reads (fun _ _ ↦ True) log) log (identity program).run :=
  identity_returns (hancillary.mono isQuiet_of_isAncillary) (Program.returns_true program)

/-- Quiet steps at the end of a use case of identity. -/
theorem identity_end {post : BindingLog → Except String Result → Prop}
    {program : Identity.UseCase Result} (hancillary : program.Uses Identity.IsAncillary)
    (hpost : ∀ extra result, (∀ performed ∈ extra, isQuiet performed.1 = true) →
      post (extra ++ log) result) : Conducts deps post log (identity program).run := by
  refine (identity_reads hancillary).mono fun later result hreads ↦ ?_
  obtain ⟨extra, rfl, hquiet, _⟩ := hreads
  exact hpost extra result hquiet

/-- A quiet part of identity, then the rest of its use case. -/
theorem safe_identity_bind {gives : Result → BindingLog → Prop}
    {post : BindingLog → Except String Other → Prop} {first : Identity.UseCase Result}
    {rest : Result → Identity.UseCase Other}
    (hfirst : Conducts deps (Reads gives log) log (identity first).run)
    (hthrown : ∀ extra message, (∀ performed ∈ extra, isQuiet performed.1 = true) →
      (∃ performed ∈ extra, fails performed = true) → post (extra ++ log) (.error message))
    (hrest : ∀ extra value, (∀ performed ∈ extra, isQuiet performed.1 = true) →
      gives value extra → Conducts deps post (extra ++ log) (identity (rest value)).run) :
    Conducts deps post log (identity (first >>= rest)).run := by
  refine safe_embed_bind hfirst (fun later message hread ↦ ?_) fun later value hread ↦ ?_
  · obtain ⟨extra, rfl, hquiet, performed, hperformed, hthrew⟩ := hread
    exact hthrown extra message hquiet ⟨performed, hperformed, fails_of_threw hthrew⟩
  · obtain ⟨extra, rfl, hquiet, hgives⟩ := hread
    exact hrest extra value hquiet hgives

/-- The record of identity is the one of the binding. -/
theorem auditOrFail_reads {input : Identity.AuditInput} (hsession : input.resourceId = made.sessionId)
    (houtcome : input.outcome = .success) :
    Conducts deps
      (Reads (fun _ extra ↦ ∃ performed ∈ extra, writes made input.action performed = true) log)
      log (identity (Identity.auditOrFail deps input)).run := by
  refine safe_embed_call_bind trivial (fun _ _ _ message _ _ ↦ ?_) fun _ _ _ now _ _ ↦ ?_
  · exact ⟨[_], rfl, by simp [isQuiet], _, List.mem_singleton_self _, rfl⟩
  refine ⟨trivial, fun _ _ _ answer _ _ ↦ ?_⟩
  cases answer with
  | error message => exact ⟨[_, _], rfl, by simp [isQuiet], _, List.mem_cons_self, rfl⟩
  | ok value =>
    refine ⟨[_, _], rfl, by simp [isQuiet], _, List.mem_cons_self, ?_⟩
    simp [writes, hsession, houtcome]

/-- What is done after the binding is done with the binding standing. -/
theorem Bound.revoked (hbound : Bound made log) (input : Identity.SessionInput)
    (haccount : input.accountId = made.accountId) (hsession : input.sessionId = made.sessionId) :
    Conducts deps (fun later _ ↦ Undisturbed later → Closed made later) log
      (identity (Identity.RevokeSession.execute deps input)).run := by
  refine safe_identity_bind (identity_reads Identity.ancillary_clockNow)
    (fun extra message hquiet hfails hundisturbed ↦ ?_) fun extra now hquiet _ ↦ ?_
  · exact absurd hundisturbed (hbound.not_undisturbed hquiet hfails)
  have hstill : Bound made (extra ++ log) := hbound.quiet hquiet
  refine safe_embed_call_bind trivial (fun _ _ _ message _ _ hundisturbed ↦ ?_)
    fun _ _ _ revoked _ _ ↦ ?_
  · have hholds := hundisturbed.1 (hstill.stands ▸ Option.some_ne_none made)
    cases hholds
  have hclosed : Closed made (⟨.identity (.sessions (.revokeSession input.accountId input.sessionId
      .revokedByOwner now)), .ok revoked⟩ :: (extra ++ log)) :=
    hstill.revoke (by simp [revokes, haccount, hsession])
  refine identity_end ?_ fun extra result hquiet _ ↦ hclosed.quiet hquiet
  refine Program.uses_ite (Program.uses_pure _) ?_
  refine Program.uses_bind (Identity.ancillary_recordSecurity _ _ _ _) fun _ ↦ ?_
  exact Program.uses_bind (Identity.ancillary_auditOrFail _) fun _ ↦ Program.uses_pure _

/-- What is done after the binding is done with the binding standing, and records it. -/
theorem Bound.recorded (hbound : Bound made log) {accountId : UserId}
    {eventType : Identity.SecurityEventType} {ipDigest : Option String}
    {metadata : Option Identity.Metadata} {input : Identity.AuditInput}
    {post : BindingLog → Except String Other → Prop} {rest : Identity.UseCase Other}
    (hsession : input.resourceId = made.sessionId) (houtcome : input.outcome = .success)
    (hdisturbed : ∀ later message, ¬ Undisturbed later → post later (.error message))
    (hrest : ∀ later, Bound made later → Recorded [input.action] made later →
      Conducts deps post later (identity rest).run) :
    Conducts deps post log (identity (do
      Identity.recordSecurity (some accountId) eventType ipDigest metadata
      Identity.auditOrFail deps input
      rest)).run := by
  refine safe_identity_bind (identity_reads (Identity.ancillary_recordSecurity _ _ _ _))
    (fun extra message hquiet hfails ↦ ?_) fun extra _ hquiet _ ↦ ?_
  · exact hdisturbed _ _ (hbound.not_undisturbed hquiet hfails)
  have hstill : Bound made (extra ++ log) := hbound.quiet hquiet
  refine safe_identity_bind (auditOrFail_reads hsession houtcome)
    (fun more message hmore hfails ↦ ?_) fun more _ hmore hwrites ↦ ?_
  · exact hdisturbed _ _ (hstill.not_undisturbed hmore hfails)
  · refine hrest _ (hstill.quiet hmore) fun action haction ↦ ?_
    obtain ⟨performed, hperformed, hwrites⟩ := hwrites
    rw [List.mem_singleton.mp haction]
    exact ⟨performed, List.mem_append_left _ hperformed, hwrites⟩

/-- The end of a binding use case of identity: bound and recorded, or nothing bound. -/
def Binds {Refusal : Type} (madeBy : Result → MadeBinding) (action : String) (later : BindingLog) :
    Except String (Except Refusal Result) → Prop
  | .ok (.ok value) => Bound (madeBy value) later ∧ Recorded [action] (madeBy value) later
  | .ok (.error _) => Unbound later
  | .error _ => Undisturbed later → Unbound later

/-- Replacing a session binds the new one. -/
theorem Unbound.replace (hunbound : Unbound log) {account : Identity.IdentityAccount}
    {previousBinding : String} {input : Identity.RebindSessionTenantInput} {now : Instant}
    {tenantId : String} (htenant : input.newTenantId = some tenantId) :
    Conducts deps
      (Binds (fun rebound ↦ ⟨input.accountId, rebound.session.sessionId, tenantId⟩)
        "identity.session.tenant_rebound") log
      (identity (Identity.RebindSessionTenant.replace deps account previousBinding input now)).run := by
  have hmint : (Identity.SessionIssuer.mint deps account input.client input.newTenantId).Returns
      fun minted ↦ minted.session.tenantBinding = some tenantId := by
    intro mintedAt sessionId familyId rawRefreshToken tokenId
    exact htenant
  refine safe_identity_bind
    (identity_returns ((Identity.ancillary_mint _ _ _).mono isQuiet_of_isAncillary) hmint)
    (fun extra message hquiet _ _ ↦ hunbound.quiet hquiet) fun extra minted hquiet hminted ↦ ?_
  have hstill : Unbound (extra ++ log) := hunbound.quiet hquiet
  refine safe_embed_call_bind trivial (fun _ _ _ message _ _ _ ↦ hstill.cons rfl)
    fun _ _ _ rebound _ _ ↦ ?_
  cases rebound with
  | false => exact safe_return (hstill.cons rfl)
  | true =>
    have hmade : madeBinding ⟨.identity (.sessions (.rebindSession input.accountId input.sessionId
        .tenantSwitch minted.toNewSessionBundle now)), .ok true⟩ =
          some ⟨input.accountId, minted.session.id, tenantId⟩ := by
      simp [madeBinding, hminted]
    refine (hstill.bind hmade).recorded rfl rfl (fun later message hdisturbed h ↦
      absurd h hdisturbed) fun later hbound hrecorded ↦ ?_
    have hissued : (Identity.SessionIssuer.issuedFrom deps minted account.tokenVersion).Returns
        fun issued ↦ issued.sessionId = minted.session.id := fun _ _ ↦ rfl
    refine safe_identity_bind (identity_returns ?_ hissued)
      (fun more message hmore hfails h ↦ absurd h (hbound.not_undisturbed hmore hfails))
      fun more issued hmore hid ↦ ?_
    · exact Program.uses_bind (Program.uses_perform rfl) fun _ ↦
        Program.uses_bind (Program.uses_bind (Program.uses_perform rfl) fun _ ↦ Program.uses_pure _)
          fun _ ↦ Program.uses_pure _
    · refine safe_return ?_
      show Bound ⟨input.accountId, issued.sessionId, tenantId⟩ _ ∧
        Recorded ["identity.session.tenant_rebound"] ⟨input.accountId, issued.sessionId, tenantId⟩ _
      rw [hid]
      exact ⟨hbound.quiet hmore, hrecorded.append⟩

theorem Unbound.bindSession (hunbound : Unbound log) (input : Identity.BindSessionTenantInput) :
    Conducts deps (Binds (fun _ ↦ ⟨input.accountId, input.sessionId, input.tenantId⟩)
      "identity.session.tenant_bound") log
      (identity (Identity.BindSessionTenant.execute deps input)).run := by
  refine safe_identity_bind (identity_reads Identity.ancillary_clockNow)
    (fun extra message hquiet _ _ ↦ hunbound.quiet hquiet) fun extra now hquiet _ ↦ ?_
  have hstill : Unbound (extra ++ log) := hunbound.quiet hquiet
  refine safe_identity_bind (identity_returns (Program.uses_perform rfl) (Program.returns_true _))
    (fun more message hmore _ _ ↦ hstill.quiet hmore) fun more found hmore _ ↦ ?_
  replace hstill : Unbound (more ++ (extra ++ log)) := hstill.quiet hmore
  cases found with
  | none => exact safe_return hstill
  | some session =>
    dsimp only
    by_cases hlive : Identity.isSessionLive session now = false
    · rw [if_pos hlive]
      exact safe_return hstill
    rw [if_neg hlive]
    cases hbinding : session.tenantBinding with
    | some currentBinding => exact safe_return hstill
    | none =>
      refine safe_embed_call_bind trivial (fun _ _ _ message _ _ _ ↦ hstill.cons rfl)
        fun _ _ _ claimed _ _ ↦ ?_
      cases claimed with
      | false => exact safe_return (hstill.cons rfl)
      | true =>
        exact (hstill.bind rfl).recorded rfl rfl (fun later message hdisturbed h ↦
          absurd h hdisturbed) fun later hbound hrecorded ↦ safe_return ⟨hbound, hrecorded⟩

theorem Unbound.rebindSession (hunbound : Unbound log) {input : Identity.RebindSessionTenantInput}
    {tenantId : String} (htenant : input.newTenantId = some tenantId) :
    Conducts deps
      (Binds (fun rebound ↦ ⟨input.accountId, rebound.session.sessionId, tenantId⟩)
        "identity.session.tenant_rebound") log
      (identity (Identity.RebindSessionTenant.execute deps input)).run := by
  refine safe_identity_bind (identity_reads Identity.ancillary_clockNow)
    (fun extra message hquiet _ _ ↦ hunbound.quiet hquiet) fun extra now hquiet _ ↦ ?_
  have hstill : Unbound (extra ++ log) := hunbound.quiet hquiet
  refine safe_identity_bind (identity_reads (Identity.ancillary_findById _))
    (fun more message hmore _ _ ↦ hstill.quiet hmore) fun more account hmore _ ↦ ?_
  replace hstill : Unbound (more ++ (extra ++ log)) := hstill.quiet hmore
  cases account with
  | none => exact safe_return hstill
  | some account =>
    dsimp only
    by_cases hactive : account.status ≠ .active
    · rw [if_pos hactive]
      exact safe_return hstill
    rw [if_neg hactive]
    refine safe_identity_bind (identity_returns (Program.uses_perform rfl) (Program.returns_true _))
      (fun most message hmost _ _ ↦ hstill.quiet hmost) fun most found hmost _ ↦ ?_
    replace hstill : Unbound (most ++ (more ++ (extra ++ log))) := hstill.quiet hmost
    cases found with
    | none => exact safe_return hstill
    | some session =>
      dsimp only
      by_cases hlive : Identity.isSessionLive session now = false
      · rw [if_pos hlive]
        exact safe_return hstill
      rw [if_neg hlive]
      cases hbinding : session.tenantBinding with
      | none => exact safe_return hstill
      | some previousBinding => exact hstill.replace htenant

end IdentityParts

end Karar.TenantBinding
