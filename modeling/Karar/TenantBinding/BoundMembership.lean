import Karar.TenantBinding.Accountability

/-!
# Never bound without membership

While the ports answer, a call that reports a tenant has seen, after everything it has bound, an
active membership of its own in a tenant that was active at that moment; and a call that reports none
leaves no live session bound by it (`bound_only_as_member`). Memberships and tenants may change
between any two steps.
-/

namespace Karar.TenantBinding

open Foundation KeyedTable Machine SharedKernel Tenancy

/-! ### What the reads of a store say -/

section Store

variable {deps : Identity.IdentityDependencies} {store later : BindingStore} {userId : UserId}
  {target : TenantId} {membership : TenantMembership}

/-- An active membership of the user in a tenant, and the tenant's active row. -/
def HasActiveMembership (store : BindingStore) (userId : UserId) (target : TenantId) : Prop :=
  (∃ row ∈ store.members.rows, row.userId = userId ∧ row.tenantId = target ∧ row.state = .active) ∧
    ∃ tenant ∈ store.tenants.rows, tenant.id = target ∧ tenant.status = .active

theorem hasActiveMembership_of_findForMember {tenant : Tenant}
    (hfound : store.findForMember userId target = some tenant) (hstatus : tenant.status = .active) :
    HasActiveMembership store userId target := by
  unfold BindingStore.findForMember at hfound
  obtain ⟨hfind, hmember⟩ := Option.filter_eq_some_iff.mp hfound
  obtain ⟨htenant, hid⟩ := find_eq_some_iff.mp hfind
  unfold BindingStore.isMemberOf at hmember
  obtain ⟨row, hrow, hrowMember⟩ := List.any_eq_true.mp hmember
  rw [hid] at hrowMember
  refine ⟨⟨row, hrow, ?_⟩, tenant, htenant, hid, hstatus⟩
  simpa [and_comm, and_assoc, and_left_comm] using hrowMember

theorem mem_of_shows {op : BindingOp} {answer : Except String op.Value} {oracle : BindingOracle}
    (hshows : ShowsMembership userId target membership ⟨op, answer⟩)
    (hanswer : BindingStore.handle deps store op oracle = some (later, answer)) :
    membership ∈ store.members.rows ∧ membership.userId = userId ∧ membership.tenantId = target := by
  unfold ShowsMembership at hshows
  split at hshows
  · rename_i asked own heq
    obtain ⟨rfl, hvalue⟩ := Sigma.mk.inj heq
    obtain rfl := eq_of_heq hvalue
    obtain ⟨rfl, hown, htarget⟩ := hshows
    obtain rfl := congrArg Prod.snd (Except.ok.inj (answer_of_handle hanswer))
    obtain ⟨hrow, huser⟩ := List.mem_filter.mp (List.mem_mergeSort.mp hown)
    exact ⟨hrow, of_decide_eq_true huser, htarget⟩
  · rename_i asked tenantId found heq
    obtain ⟨rfl, hvalue⟩ := Sigma.mk.inj heq
    obtain rfl := eq_of_heq hvalue
    obtain ⟨rfl, rfl, rfl⟩ := hshows
    have hfound : MemberTable.findMember store.members tenantId asked = some found :=
      congrArg Prod.snd (Except.ok.inj (answer_of_handle hanswer))
    obtain ⟨hrow, hkey⟩ := findAlt_eq_some_iff.mp hfound
    exact ⟨hrow, congrArg Prod.snd hkey, congrArg Prod.fst hkey⟩
  · exact hshows.elim

end Store

/-! ### Runs -/

/-- No port fails. -/
def PortsAnswer (deps : Identity.IdentityDependencies) (c : BindingConfiguration)
    (event : BindingEvent) : Prop :=
  failing deps c event = none

instance (deps : Identity.IdentityDependencies) (c : BindingConfiguration) (event : BindingEvent) :
    Decidable (PortsAnswer deps c event) :=
  inferInstanceAs (Decidable (failing deps c event = none))

theorem steady_of_portsAnswer {deps : Identity.IdentityDependencies} {c : BindingConfiguration}
    {event : BindingEvent} (hanswer : PortsAnswer deps c event) : Steady deps c event := by
  intro failed hfailed
  rw [hanswer] at hfailed
  cases hfailed

/-- A moment of a run by which a call has made all its bindings. -/
structure SinceBound (deps : Identity.IdentityDependencies) (store : BindingStore)
    (c : BindingConfiguration) (caller : ℕ) (before : BindingConfiguration) : Prop where
  reachable : Reachable deps store before
  later : Reaches (bindingMachine deps) (fun _ _ ↦ True) before c
  bound : ∀ performed ∈ logOf caller c.history, madeBinding performed ≠ none →
    performed ∈ logOf caller before.history

/-- At a moment since it bound, a call has an active membership in an active tenant; and at moments
since it bound, the membership it read was in effect at the time it read. -/
def VerifiedAsMember (deps : Identity.IdentityDependencies) (store : BindingStore)
    (c : BindingConfiguration) (caller : ℕ) (userId : UserId) (target : TenantId) : Prop :=
  (∃ before, SinceBound deps store c caller before ∧
    HasActiveMembership before.store userId target) ∧
  ∃ membership read clock, SinceBound deps store c caller read ∧
    SinceBound deps store c caller clock ∧ membership ∈ read.store.members.rows ∧
    membership.userId = userId ∧ membership.tenantId = target ∧
    membershipActiveAt membership clock.store.identity.clock = true

section Runs

variable {deps : Identity.IdentityDependencies} {store : BindingStore} {c : BindingConfiguration}
  {caller : ℕ}

/-- What a call has performed since it bound, it performed at a moment since it bound. -/
theorem sinceBound_of_performed (hreaches : Reachable deps store c) {since base : BindingLog}
    (hlog : logOf caller c.history = since ++ base)
    (hsince : ∀ performed ∈ since, madeBinding performed = none) {performed : BindingPerformed}
    (hperformed : performed ∈ since) :
    ∃ before oracle later, SinceBound deps store c caller before ∧
      BindingStore.handle deps before.store performed.1 oracle = some (later, performed.2) := by
  obtain ⟨recent, earlier, rfl⟩ := List.append_of_mem hperformed
  rw [List.append_assoc, List.cons_append] at hlog
  obtain ⟨newer, older, hhistory, holder⟩ := exists_history_of_logOf hlog
  obtain ⟨before, after, oracle, hbefore, hhistoryBefore, _, hstep, hafter, hlater⟩ :=
    hreaches.occurred rfl hhistory
  obtain ⟨given, request, next, _, _, hanswer⟩ :=
    performed_of_history_eq_cons hstep (hafter.trans (by rw [hhistoryBefore]))
  have hreachesAfter : Reaches (bindingMachine deps) (fun _ _ ↦ True) before c :=
    (Reaches.refl.step trivial hstep).trans hlater
  refine ⟨before, given, after.store, ⟨hbefore, hreachesAfter, fun other hother hmade ↦ ?_⟩, hanswer⟩
  rw [hhistoryBefore, holder]
  rw [hlog] at hother
  rcases List.mem_append.mp hother with hrecent | hother
  · exact absurd (hsince other (List.mem_append_left _ hrecent)) hmade
  · rcases List.mem_cons.mp hother with rfl | hother
    · exact absurd (hsince other hperformed) hmade
    · exact hother

/-- What was verified in the log was so in the store. -/
theorem verifiedAsMember (hreaches : Reachable deps store c) {userId : UserId} {tenantId : String}
    (hverified : Verified userId tenantId (logOf caller c.history)) :
    ∃ target : TenantId, target.value = tenantId ∧
      VerifiedAsMember deps store c caller userId target := by
  obtain ⟨since, base, target, hlog, htarget, hsince, now, membership, tenant, hnow,
    ⟨shown, hshown, hshows⟩, hactive, hfound, hstatus⟩ := hverified
  refine ⟨target, htarget, ?_, ?_⟩
  · obtain ⟨before, oracle, later, hmoment, hanswer⟩ :=
      sinceBound_of_performed hreaches hlog hsince hfound
    refine ⟨before, hmoment, hasActiveMembership_of_findForMember ?_ hstatus⟩
    exact congrArg Prod.snd (Except.ok.inj (answer_of_handle hanswer))
  · obtain ⟨read, oracle, later, hread, hanswer⟩ :=
      sinceBound_of_performed hreaches hlog hsince hshown
    obtain ⟨clock, _, _, hclock, hclockAnswer⟩ :=
      sinceBound_of_performed hreaches hlog hsince hnow
    obtain ⟨hrow, huser, htenant⟩ := mem_of_shows hshows hanswer
    have htime : clock.store.identity.clock = now :=
      congrArg Prod.snd (Except.ok.inj (answer_of_handle hclockAnswer))
    exact ⟨membership, read, clock, hread, hclock, hrow, huser, htenant, htime ▸ hactive⟩

/-! ### The law -/

/-- A call that reports a tenant was verified as a member of it and has bound nothing else; and what
a call has bound that reports none is revoked. -/
def BoundOnlyAsMember (deps : Identity.IdentityDependencies) (store : BindingStore)
    (c : BindingConfiguration) : Prop :=
  ∀ caller request outcome, c.Returned caller request outcome →
    match reportedTenant outcome with
    | some tenantId =>
      (∃ userId target, request.user = some userId ∧ target.value = tenantId ∧
        VerifiedAsMember deps store c caller userId target) ∧
      ∀ performed ∈ logOf caller c.history, ∀ made ∈ madeBinding performed, made.tenantId = tenantId
    | none =>
      ∀ performed ∈ logOf caller c.history, ∀ made ∈ madeBinding performed,
        SessionRevoked c.store made.sessionId

theorem bound_only_as_member (deps : Identity.IdentityDependencies) (store : BindingStore)
    (c : BindingConfiguration)
    (hreaches : Reaches (bindingMachine deps) (PortsAnswer deps) (.initial store) c) :
    BoundOnlyAsMember deps store c := by
  intro caller request outcome hreturned
  have hreachable : Reachable deps store c := hreaches.mono fun _ _ _ ↦ trivial
  have hpost := (hreaches.bound (binding_honours deps) fun _ ↦ trivial).post (Nat.zero_le _) hreturned
  have hundisturbed := undisturbed_of_steady
    (hreaches.mono fun _ _ hanswer ↦ steady_of_portsAnswer hanswer) caller
  unfold bindingContract at hpost
  dsimp only at hpost
  cases hreported : reportedTenant outcome with
  | none =>
    rw [hreported] at hpost
    intro performed hperformed made hmade
    exact sessionRevoked_of_undone hreachable (hpost hundisturbed performed hperformed made hmade)
  | some tenantId =>
    rw [hreported] at hpost
    obtain ⟨userId, huser, hverified, hheld⟩ := hpost
    obtain ⟨target, htarget, hmember⟩ := verifiedAsMember hreachable hverified
    refine ⟨⟨userId, target, huser, htarget, hmember⟩, fun performed hperformed made hmade ↦ ?_⟩
    rcases hheld with hunbound | ⟨held, htenant, hbound, _⟩
    · rw [hunbound performed hperformed] at hmade
      cases hmade
    · rw [hbound.only performed hperformed made hmade]
      exact htenant

end Runs

/-! ### A membership that vanishes -/

namespace ReferenceBinding

/-- The membership is removed after the session was bound, and before it is verified again. -/
def removing : List BindingEvent :=
  [.start bootstrap] ++ List.replicate 10 (.advance 0 {}) ++ [.turn (.members .empty)] ++
    List.replicate 14 (.advance 0 {})

def removed : BindingConfiguration :=
  (bindingMachine deps).finish (PortsAnswer deps) (.initial store) removing

end ReferenceBinding

open ReferenceBinding in
theorem bound_only_as_member_removed : BoundOnlyAsMember deps store removed ∧
    (removed.outcome 0).map (fun ended ↦ reportedTenant ended.2) = some none ∧
    (∃ performed ∈ logOf 0 removed.history, ∃ made ∈ madeBinding performed,
      made.sessionId = "session") ∧
    ∀ row ∈ removed.store.sessions.rows, row.revokedAt ≠ none :=
  ⟨bound_only_as_member deps store removed (reaches_finish removing), by decide +kernel,
    by decide +kernel, by decide +kernel⟩

end Karar.TenantBinding
