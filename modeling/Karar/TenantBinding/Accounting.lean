import Karar.TenantBinding.BindingConduct

/-!
# Every binding call is accounted for

The three use cases, put together from the parts of `BindingConduct`. At the end of a call that was
not disturbed while its binding stood, the tenant it reports is held, or what it bound is undone
(`binding_honours`).
-/

namespace Karar.TenantBinding

open Foundation Machine SharedKernel Tenancy

variable {deps : Identity.IdentityDependencies} {log : BindingLog} {made : MadeBinding}
  {actions : List String}

/-! ### Compensation and records -/

/-- A revocation clears what was bound. -/
theorem Bound.revoked_cleared {Result : Type} {rest : Except Identity.RevokeSessionError Unit →
      Attempt Result} {post : BindingLog → Except String Result → Prop}
    (hbound : Bound made log) {input : Identity.SessionInput}
    (haccount : input.accountId = made.accountId) (hsession : input.sessionId = made.sessionId)
    (hthrown : ∀ later message, Cleared later → post later (.error message))
    (hrest : ∀ later result, Cleared later → Conducts deps post later (rest result).run) :
    Conducts deps post log
      (identity (Identity.RevokeSession.execute deps input) >>= rest).run := by
  have hcleared : ∀ later, (Undisturbed later → Closed made later) → Cleared later :=
    fun later hclosed hundisturbed ↦ (hclosed hundisturbed).cleared hundisturbed
  exact safe_throwing_bind (hbound.revoked input haccount hsession)
    (fun later message hclosed ↦ hthrown later message (hcleared later hclosed))
    fun later result hclosed ↦ hrest later result (hcleared later hclosed)

/-- An audit record of a binding, as one part of a call. -/
theorem port_reads {op : BindingOp} (hop : isQuiet op = true) :
    Conducts deps (Reads (fun value extra ↦ (⟨op, .ok value⟩ : BindingPerformed) ∈ extra) log) log
      (port op).run := by
  refine ⟨trivial, fun _ _ _ answer _ _ ↦ ?_⟩
  cases answer with
  | ok value => exact ⟨[_], rfl, by simpa using hop, List.mem_singleton_self _⟩
  | error message => exact ⟨[_], rfl, by simpa using hop, _, List.mem_singleton_self _, rfl⟩

/-! ### Switch -/

def switchActions : List String := ["tenancy.tenant.switch", "identity.session.tenant_rebound"]

/-- A switch ends with the replacement bound, verified and recorded, or with nothing bound. -/
def SwitchEnds (userId : UserId) (target : TenantId) (later : BindingLog) :
    Except TenantContextError TenantSwitched → Prop
  | .ok switched => switched.tenantId = target.value ∧ Verified userId target.value later ∧
      Bound ⟨userId, switched.session.sessionId, target.value⟩ later ∧
      Recorded switchActions ⟨userId, switched.session.sessionId, target.value⟩ later
  | .error _ => Cleared later

section Switch

variable {caller : SessionActor} {target : TenantId} {client : Identity.ClientContext}
  {rebound : Identity.SessionTenantRebound}

/-- A part of the body of a switch. -/
abbrev Switches (deps : Identity.IdentityDependencies) (userId : UserId) (target : TenantId)
    (log : BindingLog) (body : Attempt (Except TenantContextError TenantSwitched)) : Prop :=
  Conducts deps (fun later result ↦
    SwitchEnds userId target later (caught SwitchTenant.thrown result)) log body.run

theorem switch_compensates
    (hbound : Bound ⟨caller.userId, rebound.session.sessionId, target.value⟩ log) :
    Switches deps caller.userId target log
      (SwitchTenant.compensate deps caller target client rebound.session) := by
  refine hbound.revoked_cleared rfl rfl (fun later message hcleared ↦ hcleared)
    fun later _ hcleared ↦ ?_
  refine safe_reads_bind (port_reads rfl) (fun extra message hquiet _ ↦ hcleared.quiet hquiet)
    fun extra now hquiet _ ↦ ?_
  replace hcleared : Cleared (extra ++ later) := hcleared.quiet hquiet
  refine safe_reads_bind (port_reads rfl) (fun more message hmore _ ↦ hcleared.quiet hmore)
    fun more written hmore _ ↦ ?_
  cases written with
  | error failure => exact safe_return (hcleared.quiet hmore)
  | ok _ => exact safe_return (hcleared.quiet hmore)

theorem switch_settles
    (hbound : Bound ⟨caller.userId, rebound.session.sessionId, target.value⟩ log)
    (hverified : Verified caller.userId target.value log)
    (hrecorded : Recorded ["identity.session.tenant_rebound"]
      ⟨caller.userId, rebound.session.sessionId, target.value⟩ log) :
    Switches deps caller.userId target log
      (SwitchTenant.settle deps caller target client rebound) := by
  refine safe_reads_bind (port_reads rfl)
    (fun extra message hquiet hfails ↦ cleared_of_disturbed (hbound.not_undisturbed hquiet hfails))
    fun extra now hquiet _ ↦ ?_
  have hstill := hbound.quiet hquiet
  refine safe_reads_bind (port_reads rfl)
    (fun more message hmore hfails ↦ cleared_of_disturbed (hstill.not_undisturbed hmore hfails))
    fun more written hmore hwritten ↦ ?_
  replace hstill := hstill.quiet hmore
  cases written with
  | error failure =>
    exact hstill.revoked_cleared rfl rfl (fun later message hcleared ↦ hcleared)
      fun later _ hcleared ↦ safe_return hcleared
  | ok _ =>
    refine safe_return ⟨rfl, (hverified.quiet hquiet).quiet hmore, hstill, ?_⟩
    exact (hrecorded.append.append).cons
      ⟨_, List.mem_append_left _ hwritten, by simp [writes, SwitchTenant.entry]⟩

theorem switch_attempts (hunbound : Unbound log) :
    Switches deps caller.userId target log (SwitchTenant.attempt deps caller target client) := by
  refine safe_reads_bind (verifyTarget_reads _ _)
    (fun extra message hquiet _ ↦ (hunbound.quiet hquiet).cleared) fun extra verified hquiet _ ↦ ?_
  have hstill := hunbound.quiet hquiet
  by_cases hverified : verified = false
  · rw [if_pos hverified]
    exact safe_return hstill.cleared
  rw [if_neg hverified]
  refine safe_throwing_bind (hstill.rebindSession rfl) (fun later message hlater h ↦
    (hlater h).cleared h) fun later result hlater ↦ ?_
  cases result with
  | error refusal => exact safe_return hlater.cleared
  | ok rebound =>
    obtain ⟨hbound, hrecorded⟩ := hlater
    refine safe_reads_bind (verifyTarget_reads _ _) (fun more message hmore hfails ↦
      cleared_of_disturbed (hbound.not_undisturbed hmore hfails)) fun more stillMember hmore hchecks ↦ ?_
    by_cases hmember : stillMember = false
    · rw [if_pos hmember]
      exact switch_compensates (hbound.quiet hmore)
    · rw [if_neg hmember]
      refine switch_settles (hbound.quiet hmore) ?_ hrecorded.append
      exact ⟨more, later, target, rfl, rfl, fun performed hperformed ↦
        madeBinding_of_isQuiet (hmore performed hperformed), hchecks (by simpa using hmember)⟩

theorem userId_of_requireSessionActor {actor : Option AuthenticatedActor}
    (hactor : requireSessionActor actor = .ok caller) :
    (actor.bind fun actor ↦ UserId.parse actor.userId) = some caller.userId := by
  unfold requireSessionActor at hactor
  obtain ⟨authenticated, hauthenticated, hsession⟩ := bind_eq_ok hactor
  have huser : caller.userId = authenticated.userId := by
    split at hsession
    · split_ifs at hsession
      exact congrArg SessionActor.userId (Except.ok.inj hsession).symm
    · cases hsession
  unfold requireAuthenticated at hauthenticated
  split at hauthenticated
  · cases hauthenticated
  · split at hauthenticated
    · rename_i actor userId hparse
      rw [huser, ← Except.ok.inj hauthenticated]
      exact hparse
    · cases hauthenticated

/-- A call of `SwitchTenant` switches for the caller of the request, to the tenant of its input. -/
theorem switchTenant_safe (hunbound : Unbound log) (input : SwitchTenantInput)
    (actor : Option AuthenticatedActor) :
    Conducts deps (fun later result ↦
      match result with
      | .ok switched => ∃ userId target, (actor.bind fun actor ↦ UserId.parse actor.userId) =
          some userId ∧ target.value = input.targetTenantId ∧
          SwitchEnds userId target later (.ok switched)
      | .error _ => Cleared later) log (SwitchTenant.execute deps input actor) := by
  unfold SwitchTenant.execute
  cases hactor : requireSessionActor actor with
  | error denied => exact safe_pure hunbound.cleared
  | ok caller =>
    cases htarget : TenantId.parse input.targetTenantId with
    | none => exact safe_pure hunbound.cleared
    | some target =>
      refine safe_catching ((switch_attempts hunbound).mono fun later result hends ↦ ?_)
      generalize caught SwitchTenant.thrown result = answer at hends ⊢
      cases answer with
      | error refusal => exact hends
      | ok switched =>
        exact ⟨caller.userId, target, userId_of_requireSessionActor hactor,
          TenantId.value_of_parse htarget, hends⟩

end Switch

/-! ### Explicit selection -/

/-- The tenant that an outcome reports the session bound to. -/
def reportedTenant : BindingOutcome → Option String
  | .getBootstrap (.ok view) =>
    match view.binding with
    | .bound tenant => some tenant.tenantId
    | _ => none
  | .setTenantBinding (.ok (.ok (.bound (.bound tenant)))) => some tenant.tenantId
  | .setTenantBinding (.ok (.ok (.switched (.bound tenant) _))) => some tenant.tenantId
  | .switchTenant (.ok switched) => some switched.tenantId
  | _ => none

section SetTenantBinding

variable {principal : BootstrapPrincipal} {client : Identity.ClientContext} {target : String}
  {targetChoice : TenantChoice}

/-- A part of `SetTenantBinding` that ends the call. -/
abbrev Selects (deps : Identity.IdentityDependencies) (principal : BootstrapPrincipal)
    (actions : List String) (log : BindingLog)
    (body : Attempt (Except SetTenantBindingError SetTenantBindingResult)) : Prop :=
  Conducts deps (fun later result ↦ Accounted principal.userId actions later
    (reportedTenant (.setTenantBinding result))) log body.run

theorem binding_settles {action : String} {previousTenantId : Option String} {sessionId : String}
    {result : SetTenantBindingResult} (hbound : Bound ⟨principal.userId, sessionId, target⟩ log)
    (hverified : Verified principal.userId target log)
    (hrecorded : Recorded actions ⟨principal.userId, sessionId, target⟩ log)
    (hreported : reportedTenant (.setTenantBinding (.ok (.ok result))) = some target) :
    Selects deps principal (action :: actions) log
      (SetTenantBinding.settle deps principal target action previousTenantId sessionId client
        result) := by
  refine safe_reads_bind (audit_reads _)
    (fun extra message hquiet hfails ↦ cleared_of_disturbed (hbound.not_undisturbed hquiet hfails))
    fun extra audited hquiet hwritten ↦ ?_
  have hstill := hbound.quiet hquiet
  by_cases haudited : audited = false
  · rw [if_pos haudited]
    exact hstill.revoked_cleared rfl rfl (fun later message hcleared ↦ hcleared)
      fun later _ hcleared ↦ safe_return hcleared
  · rw [if_neg haudited]
    obtain ⟨occurredAt, hwritten⟩ := hwritten (by simpa using haudited)
    refine safe_return ?_
    rw [hreported]
    refine ⟨hverified.quiet hquiet, .inr ⟨_, rfl, hstill, hrecorded.append.cons ?_⟩⟩
    exact ⟨_, List.mem_append_left _ hwritten, by simp [writes, SetTenantBinding.entry]⟩

theorem binding_compensates (hbound : Bound ⟨principal.userId, principal.sessionId, target⟩ log) :
    Selects deps principal actions log
      (SetTenantBinding.compensate deps principal target client) := by
  refine hbound.revoked_cleared rfl rfl (fun later message hcleared ↦ hcleared)
    fun later _ hcleared ↦ ?_
  refine safe_reads_bind (audit_reads _) (fun extra message hquiet _ ↦ hcleared.quiet hquiet)
    fun extra audited hquiet _ ↦ ?_
  split
  · exact safe_return (hcleared.quiet hquiet)
  · exact safe_return (hcleared.quiet hquiet)

/-- The membership was verified since the binding. -/
theorem verified_of_quiet {extra : BindingLog} {userId : UserId} {choice : TenantChoice}
    (hquiet : ∀ performed ∈ extra, isQuiet performed.1 = true)
    (hchecked : IsChecked userId choice extra) : Verified userId choice.tenantId (extra ++ log) := by
  obtain ⟨target, htarget, hchecks⟩ := hchecked
  exact ⟨extra, log, target, rfl, htarget, fun performed hperformed ↦
    madeBinding_of_isQuiet (hquiet performed hperformed), hchecks⟩

theorem firstBind_safe (hunbound : Unbound log) (hchoice : targetChoice.tenantId = target) :
    Selects deps principal ["platform.tenant_binding.bound", "identity.session.tenant_bound"] log
      (SetTenantBinding.firstBind deps principal client target targetChoice) := by
  unfold SetTenantBinding.firstBind
  cases hparse : TenantId.parse target with
  | none => exact safe_return hunbound.cleared
  | some parsed =>
    obtain rfl := TenantId.value_of_parse hparse
    refine safe_throwing_bind (hunbound.bindSession _) (fun later message hlater h ↦
      (hlater h).cleared h) fun later result hlater ↦ ?_
    cases result with
    | error refusal => exact safe_return hlater.cleared
    | ok _ =>
      obtain ⟨hbound, hrecorded⟩ := hlater
      refine safe_reads_bind (recheck_reads _ _) (fun extra message hquiet hfails ↦
        cleared_of_disturbed (hbound.not_undisturbed hquiet hfails)) fun extra found hquiet hfound ↦ ?_
      cases found with
      | none => exact binding_compensates (hbound.quiet hquiet)
      | some choice =>
        obtain ⟨htenant, hchecked⟩ := hfound choice rfl
        refine binding_settles (hbound.quiet hquiet) ?_ hrecorded.append (congrArg some hchoice)
        rw [← htenant]
        exact verified_of_quiet hquiet hchecked

theorem switch_safe (hunbound : Unbound log) (hchoice : targetChoice.tenantId = target) :
    Selects deps principal ("platform.tenant_binding.switched" :: switchActions) log
      (SetTenantBinding.switch deps principal client target targetChoice) := by
  refine safe_answered_bind (switchTenant_safe hunbound _ _) fun later result hlater ↦ ?_
  cases result with
  | error refusal => exact safe_return hlater
  | ok switched =>
    obtain ⟨userId, parsed, huser, rfl, _, hverified, hbound, hrecorded⟩ := hlater
    obtain rfl : principal.userId = userId := Option.some.inj
      ((UserId.parse_value principal.userId).symm.trans huser)
    exact binding_settles hbound hverified hrecorded (congrArg some hchoice)

/-- The records of a binding by explicit selection. -/
def selectionActions (principal : BootstrapPrincipal) : List String :=
  if principal.tenantId = none then
    ["platform.tenant_binding.bound", "identity.session.tenant_bound"]
  else "platform.tenant_binding.switched" :: switchActions

/-- A call of `SetTenantBinding`. -/
theorem setTenantBinding_safe (tenantId : Option String) (principal : BootstrapPrincipal)
    (client : Identity.ClientContext) :
    Conducts deps (fun later result ↦ Accounted principal.userId (selectionActions principal) later
      (reportedTenant (.setTenantBinding result))) []
      (SetTenantBinding.execute deps tenantId principal client) := by
  have hempty : Unbound [] := by simp [Unbound]
  unfold SetTenantBinding.execute
  match tenantId.filter fun target ↦ (TenantId.parse target).isSome with
  | none => exact safe_pure hempty.cleared
  | some target =>
    have hchoose : Conducts deps
        (Reads (fun result _ ↦ ∀ choice, result = .ok choice → choice.tenantId = target) []) []
        (SetTenantBinding.choose principal target).run := by
      have hparse : UserId.parse principal.actor.userId = some principal.userId :=
        UserId.parse_value principal.userId
      refine safe_answered_bind (resolve_safe hparse) fun later result hresult ↦ ?_
      obtain ⟨extra, rfl, hquiet, _⟩ := hresult
      cases result with
      | error refusal => exact reads_return extra hquiet (by simp)
      | ok resolution =>
        dsimp only
        cases hchoice : choiceFor resolution target with
        | none => exact reads_return extra hquiet (by simp)
        | some choice =>
          refine reads_return extra hquiet fun other hother ↦ ?_
          obtain rfl := Except.ok.inj hother
          exact (mem_of_choiceFor hchoice).2
    have hchosen : Conducts deps (fun later result ↦ Unbound later ∧
        ∀ choice, result = .ok choice → choice.tenantId = target) []
        (catching (SetTenantBinding.choose principal target) SetTenantBinding.thrown) := by
      refine safe_catching (hchoose.mono fun later result hreads ↦ ?_)
      obtain ⟨extra, rfl, hquiet, hresult⟩ := hreads
      refine ⟨hempty.quiet hquiet, fun choice hchoice ↦ ?_⟩
      cases result with
      | ok result => exact hresult choice hchoice
      | error message => cases hchoice
    refine safe_bind_of hchosen fun later result hlater ↦ ?_
    cases result with
    | error refusal => exact safe_pure hlater.1.cleared
    | ok targetChoice =>
      have hchoice : targetChoice.tenantId = target := hlater.2 targetChoice rfl
      dsimp only
      by_cases hbound : principal.tenantId = none
      · rw [if_pos hbound, selectionActions, if_pos hbound]
        exact firstBind_safe hlater.1 hchoice
      · rw [if_neg hbound, selectionActions, if_neg hbound]
        exact switch_safe hlater.1 hchoice

end SetTenantBinding

/-! ### Bootstrap -/

def autoBindActions : List String := ["platform.bootstrap.auto_bind", "identity.session.tenant_bound"]

section GetBootstrap

variable {principal : BootstrapPrincipal} {client : Identity.ClientContext}

/-- A binding decision ends with the tenant of a bound state held, or with nothing bound. -/
def DecisionEnds (userId : UserId) (later : BindingLog) :
    Except String (Except GetBootstrapError BindingState) → Prop
  | .ok (.ok (.bound choice)) => Held userId autoBindActions choice.tenantId later
  | _ => Cleared later

theorem deny_safe (hcleared : Cleared log) (tenantId : TenantId) (reason : String) :
    Conducts deps (DecisionEnds principal.userId) log
      (GetBootstrap.deny principal tenantId reason).run := by
  refine safe_reads_bind (audit_reads _) (fun extra message hquiet _ ↦ hcleared.quiet hquiet)
    fun extra audited hquiet _ ↦ ?_
  split
  · exact safe_return (hcleared.quiet hquiet)
  · exact safe_return (hcleared.quiet hquiet)

theorem autoBind_safe (hunbound : Unbound log) (tenantId : TenantId) :
    Conducts deps (DecisionEnds principal.userId) log
      (GetBootstrap.autoBind deps principal client tenantId).run := by
  refine safe_throwing_bind (hunbound.bindSession _) (fun later message hlater h ↦
    (hlater h).cleared h) fun later result hlater ↦ ?_
  cases result with
  | error refusal => exact deny_safe hlater.cleared _ _
  | ok _ =>
    obtain ⟨hbound, hrecorded⟩ := hlater
    refine safe_reads_bind (recheck_reads _ _) (fun extra message hquiet hfails ↦
      cleared_of_disturbed (hbound.not_undisturbed hquiet hfails)) fun extra found hquiet hfound ↦ ?_
    have hstill := hbound.quiet hquiet
    cases found with
    | none =>
      exact hstill.revoked_cleared rfl rfl (fun later message hcleared ↦ hcleared)
        fun later _ hcleared ↦ deny_safe hcleared _ _
    | some choice =>
      obtain ⟨htenant, hchecked⟩ := hfound choice rfl
      refine safe_reads_bind (audit_reads _) (fun more message hmore hfails ↦
        cleared_of_disturbed (hstill.not_undisturbed hmore hfails)) fun more audited hmore hwritten ↦ ?_
      by_cases haudited : audited = false
      · rw [if_pos haudited]
        exact (hstill.quiet hmore).revoked_cleared rfl rfl (fun later message hcleared ↦ hcleared)
          fun later _ hcleared ↦ safe_return hcleared
      · rw [if_neg haudited]
        obtain ⟨occurredAt, hwritten⟩ := hwritten (by simpa using haudited)
        refine safe_return ⟨(verified_of_quiet hquiet hchecked).quiet hmore,
          .inr ⟨_, htenant.symm, hstill.quiet hmore, hrecorded.append.append.cons ?_⟩⟩
        exact ⟨_, List.mem_append_left _ hwritten, by simp [writes, GetBootstrap.entry]⟩

theorem enrich_reads (binding : BindingState) :
    Conducts deps
      (Reads (fun result extra ↦
        match result with
        | .ok view => view.binding = binding
        | .error _ => ∃ performed ∈ extra, fails performed = true) log) log
      (GetBootstrap.enrich principal binding).run := by
  refine reads_port_bind [] (by simp) rfl fun governing ↦ ?_
  cases governing with
  | unavailable retryable =>
    exact reads_return _ (by simp [isQuiet]) ⟨_, List.mem_cons_self, rfl⟩
  | state jurisdiction =>
    refine reads_port_bind _ (by simp [isQuiet]) rfl fun operatingEntity ↦ ?_
    refine reads_port_bind _ (by simp [isQuiet]) rfl fun policyPack ↦ ?_
    refine reads_port_bind _ (by simp [isQuiet]) rfl fun capabilities ↦ ?_
    cases policyPack with
    | unavailable retryable =>
      exact reads_return _ (by simp [isQuiet])
        ⟨_, List.mem_cons_of_mem _ List.mem_cons_self, rfl⟩
    | active status =>
      cases capabilities with
      | unavailable retryable =>
        exact reads_return _ (by simp [isQuiet]) ⟨_, List.mem_cons_self, rfl⟩
      | resolved items => exact reads_return _ (by simp [isQuiet]) rfl
    | none =>
      cases capabilities with
      | unavailable retryable =>
        exact reads_return _ (by simp [isQuiet]) ⟨_, List.mem_cons_self, rfl⟩
      | resolved items => exact reads_return _ (by simp [isQuiet]) rfl

/-- A view that is bound was decided so, and whatever goes wrong after the decision clears it. -/
theorem enrich_safe {binding : BindingState}
    (hdecision : DecisionEnds principal.userId log (.ok (.ok binding))) :
    Conducts deps (fun later result ↦ Accounted principal.userId autoBindActions later
      (reportedTenant (.getBootstrap (caught GetBootstrap.thrown result)))) log
      (GetBootstrap.enrich principal binding).run := by
  have hcleared : ∀ extra : BindingLog, (∀ performed ∈ extra, isQuiet performed.1 = true) →
      (∃ performed ∈ extra, fails performed = true) → Cleared (extra ++ log) := by
    intro extra hquiet hfails
    cases binding with
    | bound choice => exact Held.failed hdecision hquiet hfails
    | unbound => exact Cleared.quiet hdecision hquiet
    | tenantSelectionRequired choices => exact Cleared.quiet hdecision hquiet
  refine (enrich_reads binding).mono fun later result hreads ↦ ?_
  obtain ⟨extra, rfl, hquiet, hresult⟩ := hreads
  match result with
  | .error message =>
    obtain ⟨performed, hperformed, hthrew⟩ := hresult
    exact hcleared extra hquiet ⟨performed, hperformed, fails_of_threw hthrew⟩
  | .ok (.error refusal) => exact hcleared extra hquiet hresult
  | .ok (.ok view) =>
    have hbinding : view.binding = binding := hresult
    simp only [caught, reportedTenant, hbinding]
    cases binding with
    | bound choice => exact Held.quiet hdecision hquiet
    | unbound => exact Cleared.quiet hdecision hquiet
    | tenantSelectionRequired choices => exact Cleared.quiet hdecision hquiet

theorem bindingFor_safe {resolution : TenantContextResolution} {extra : BindingLog}
    (hquiet : ∀ performed ∈ extra, isQuiet performed.1 = true)
    (hchecked : ∀ choice ∈ choicesOf resolution, IsChecked principal.userId choice extra) :
    Conducts deps (DecisionEnds principal.userId) (extra ++ [])
      (GetBootstrap.bindingFor deps principal client resolution).run := by
  have hunbound : Unbound (extra ++ []) := by
    have hempty : Unbound [] := by simp [Unbound]
    exact hempty.quiet hquiet
  have hoffered : ∀ choices, DecisionEnds principal.userId (extra ++ [])
      (.ok (.ok (stateForChoices choices))) := by
    intro choices
    cases choices with
    | nil => exact hunbound.cleared
    | cons choice choices => exact hunbound.cleared
  unfold GetBootstrap.bindingFor
  cases hbound : principal.tenantId with
  | some bound =>
    dsimp only
    cases hchoice : choiceFor resolution bound.value with
    | none => exact safe_return (hoffered _)
    | some choice =>
      exact safe_return ⟨verified_of_quiet hquiet (hchecked choice (mem_of_choiceFor hchoice).1),
        .inl hunbound⟩
  | none =>
    cases resolution with
    | autoBind tenantId choice => exact autoBind_safe hunbound tenantId
    | unbound => exact safe_return (hoffered _)
    | tenantSelectionRequired choices => exact safe_return (hoffered _)

/-- A call of `GetBootstrap`. -/
theorem getBootstrap_safe (principal : BootstrapPrincipal) (client : Identity.ClientContext) :
    Conducts deps (fun later result ↦ Accounted principal.userId autoBindActions later
      (reportedTenant (.getBootstrap result))) []
      (GetBootstrap.execute deps principal client) := by
  have hparse : UserId.parse principal.actor.userId = some principal.userId :=
    UserId.parse_value principal.userId
  have hempty : Unbound [] := by simp [Unbound]
  refine safe_catching (safe_answered_bind (resolve_safe hparse) fun later result hresult ↦ ?_)
  obtain ⟨extra, rfl, hquiet, hchecked⟩ := hresult
  cases result with
  | error refusal => exact safe_return (hempty.quiet hquiet).cleared
  | ok resolution =>
    refine safe_throwing_bind (bindingFor_safe hquiet (hchecked resolution rfl))
      (fun later message hdecision ↦ hdecision) fun later result hdecision ↦ ?_
    cases result with
    | error refusal => exact safe_return hdecision
    | ok binding => exact enrich_safe hdecision

end GetBootstrap

/-! ### The contract -/

/-- Who makes a request. -/
def BindingRequest.user : BindingRequest → Option UserId
  | .getBootstrap principal _ => some principal.userId
  | .setTenantBinding _ principal _ => some principal.userId
  | .switchTenant _ actor => actor.bind fun actor ↦ UserId.parse actor.userId

/-- The `SUCCESS` records of a binding that a request makes. -/
def BindingRequest.records : BindingRequest → List String
  | .getBootstrap _ _ => autoBindActions
  | .setTenantBinding _ principal _ => selectionActions principal
  | .switchTenant _ _ => switchActions

def bindingContract : Contract BindingOp (fun op ↦ Except String op.Value) BindingStore
    BindingRequest BindingOutcome where
  invariant _ := True
  allowed _ _ _ := True
  post request log outcome :=
    match reportedTenant outcome with
    | some tenantId => ∃ userId ∈ request.user, Held userId request.records tenantId log
    | none => Cleared log

theorem post_of_accounted {request : BindingRequest} {outcome : BindingOutcome} {userId : UserId}
    (huser : request.user = some userId)
    (haccounted : Accounted userId request.records log (reportedTenant outcome)) :
    bindingContract.post request log outcome := by
  unfold bindingContract
  dsimp only
  cases hreported : reportedTenant outcome with
  | none => rwa [hreported] at haccounted
  | some tenantId =>
    rw [hreported] at haccounted
    exact ⟨userId, huser, haccounted⟩

theorem binding_honours (deps : Identity.IdentityDependencies) (request : BindingRequest) :
    Honours (bindingMachine deps) bindingContract request := by
  cases request with
  | getBootstrap principal client =>
    exact safe_bind_of (getBootstrap_safe principal client) fun later result haccounted ↦
      safe_pure (post_of_accounted rfl haccounted)
  | setTenantBinding tenantId principal client =>
    exact safe_bind_of (setTenantBinding_safe tenantId principal client)
      fun later result haccounted ↦ safe_pure (post_of_accounted rfl haccounted)
  | switchTenant input actor =>
    have hempty : Unbound [] := by simp [Unbound]
    refine safe_bind_of (switchTenant_safe hempty input actor) fun later result hends ↦ safe_pure ?_
    cases result with
    | error refusal => exact hends
    | ok switched =>
      obtain ⟨userId, target, huser, _, htenant, hverified, hbound, hrecorded⟩ := hends
      refine ⟨userId, huser, ?_⟩
      rw [htenant]
      exact ⟨hverified, .inr ⟨_, rfl, hbound, hrecorded⟩⟩

end Karar.TenantBinding
