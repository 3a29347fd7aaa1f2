import Karar.TenantBinding.Bootstrap

/-!
# What a call has bound

A call binds a session when identity's claim or replacement goes through, and undoes it by revoking
that session. A binding stands in between. Where nothing fails while a binding stands, what a call
has performed shows at its end either a report with its records or the revocation; `Accounted` says
which.
-/

namespace Karar.TenantBinding

open Foundation SharedKernel Tenancy

/-! ### Bindings and revocations -/

/-- A session and the tenant it was bound to. -/
structure MadeBinding where
  accountId : UserId
  sessionId : String
  tenantId : String
deriving DecidableEq

/-- The binding that an operation has made. -/
def madeBinding : BindingPerformed → Option MadeBinding
  | ⟨.identity (.sessions (.setTenantBinding accountId sessionId tenantId _)), .ok true⟩ =>
    some ⟨accountId, sessionId, tenantId⟩
  | ⟨.identity (.sessions (.rebindSession accountId _ _ bundle _)), .ok true⟩ =>
    bundle.session.tenantBinding.map fun tenantId ↦ ⟨accountId, bundle.session.id, tenantId⟩
  | _ => none

/-- The operation has revoked the session of a binding, or found it revoked. -/
def revokes (made : MadeBinding) : BindingPerformed → Bool
  | ⟨.identity (.sessions (.revokeSession accountId sessionId _ _)), .ok _⟩ =>
    accountId = made.accountId && sessionId = made.sessionId
  | _ => false

/-- An operation that neither binds nor revokes. -/
def isQuiet : BindingOp → Bool
  | .identity (.sessions (.setTenantBinding _ _ _ _)) => false
  | .identity (.sessions (.rebindSession _ _ _ _ _)) => false
  | .identity (.sessions (.revokeSession _ _ _ _)) => false
  | _ => true

/-- The binding a call has made and not revoked. -/
def standing : BindingLog → Option MadeBinding
  | [] => none
  | performed :: earlier =>
    match madeBinding performed with
    | some made => some made
    | none => (standing earlier).filter fun made ↦ !revokes made performed

/-- A port failed: it threw, or an enrichment is unavailable. -/
def fails : BindingPerformed → Bool
  | ⟨.jurisdiction _, .ok (.unavailable _)⟩ => true
  | ⟨.policyPack _ _, .ok (.unavailable _)⟩ => true
  | ⟨.capabilities _ _, .ok (.unavailable _)⟩ => true
  | performed => threw performed

/-- Nothing failed while a binding stood. -/
def Undisturbed : BindingLog → Prop
  | [] => True
  | performed :: earlier =>
    (standing earlier ≠ none → fails performed = false) ∧ Undisturbed earlier

/-- The `SUCCESS` record of a binding was written. -/
def writes (made : MadeBinding) (action : String) : BindingPerformed → Bool
  | ⟨.identity (.surroundings (.recordAudit event)), .ok _⟩ =>
    event.action = action && event.resourceId = made.sessionId && event.outcome = .success
  | ⟨.record entry, .ok (.ok ())⟩ =>
    entry.action = action && entry.tenantRef = "tenant:" ++ made.tenantId && entry.outcome = .success
  | _ => false

section Log

variable {log extra : BindingLog} {performed : BindingPerformed} {made : MadeBinding}

theorem madeBinding_of_isQuiet (hquiet : isQuiet performed.1 = true) :
    madeBinding performed = none := by
  unfold madeBinding
  split
  · cases hquiet
  · cases hquiet
  · rfl

theorem revokes_of_isQuiet (hquiet : isQuiet performed.1 = true) :
    revokes made performed = false := by
  unfold revokes
  split
  · cases hquiet
  · rfl

theorem fails_of_threw (hthrew : threw performed = true) : fails performed = true := by
  unfold fails
  split <;> first | rfl | exact hthrew

theorem standing_cons_of_made (hmade : madeBinding performed = some made) :
    standing (performed :: log) = some made := by
  simp only [standing, hmade]

theorem standing_append (hquiet : ∀ performed ∈ extra, isQuiet performed.1 = true) :
    standing (extra ++ log) = standing log := by
  induction extra with
  | nil => rfl
  | cons performed extra ih =>
    have hfirst : isQuiet performed.1 = true := hquiet performed List.mem_cons_self
    have hnone : madeBinding performed = none := madeBinding_of_isQuiet hfirst
    have hrest := ih fun other hother ↦ hquiet other (List.mem_cons_of_mem _ hother)
    rw [List.cons_append]
    simp only [standing, hnone, hrest, revokes_of_isQuiet hfirst, Bool.not_false]
    cases standing log <;> rfl

theorem undisturbed_of_append (hundisturbed : Undisturbed (extra ++ log)) : Undisturbed log := by
  induction extra with
  | nil => exact hundisturbed
  | cons performed extra ih => exact ih hundisturbed.2

/-! ### The states of a call -/

/-- The call has bound nothing. -/
def Unbound (log : BindingLog) : Prop := ∀ performed ∈ log, madeBinding performed = none

/-- The call has made one binding, and it stands. -/
structure Bound (made : MadeBinding) (log : BindingLog) : Prop where
  only : ∀ performed ∈ log, ∀ other ∈ madeBinding performed, other = made
  stands : standing log = some made

/-- A binding was revoked after it was made. -/
def Undone (made : MadeBinding) (log : BindingLog) : Prop :=
  ∃ recent performed earlier, log = recent ++ performed :: earlier ∧
    revokes made performed = true ∧ ∃ binding ∈ earlier, madeBinding binding = some made

/-- The call has made one binding, and it is undone. -/
structure Closed (made : MadeBinding) (log : BindingLog) : Prop where
  only : ∀ performed ∈ log, ∀ other ∈ madeBinding performed, other = made
  undone : Undone made log

theorem Unbound.quiet (hunbound : Unbound log)
    (hquiet : ∀ performed ∈ extra, isQuiet performed.1 = true) : Unbound (extra ++ log) := by
  intro performed hperformed
  rcases List.mem_append.mp hperformed with hextra | hlog
  · exact madeBinding_of_isQuiet (hquiet performed hextra)
  · exact hunbound performed hlog

theorem Unbound.cons (hunbound : Unbound log) (hnone : madeBinding performed = none) :
    Unbound (performed :: log) := by
  intro other hother
  rcases List.mem_cons.mp hother with rfl | hlog
  · exact hnone
  · exact hunbound other hlog

theorem Unbound.bind (hunbound : Unbound log) (hmade : madeBinding performed = some made) :
    Bound made (performed :: log) := by
  refine ⟨fun other hother binding hbinding ↦ ?_, standing_cons_of_made hmade⟩
  rcases List.mem_cons.mp hother with rfl | hlog
  · exact Option.some.inj (hbinding.symm.trans hmade)
  · rw [hunbound other hlog] at hbinding
    cases hbinding

theorem only_append (hquiet : ∀ performed ∈ extra, isQuiet performed.1 = true)
    (honly : ∀ performed ∈ log, ∀ other ∈ madeBinding performed, other = made) :
    ∀ performed ∈ extra ++ log, ∀ other ∈ madeBinding performed, other = made := by
  intro performed hperformed other hother
  rcases List.mem_append.mp hperformed with hextra | hlog
  · rw [madeBinding_of_isQuiet (hquiet performed hextra)] at hother
    cases hother
  · exact honly performed hlog other hother

theorem Bound.quiet (hbound : Bound made log)
    (hquiet : ∀ performed ∈ extra, isQuiet performed.1 = true) : Bound made (extra ++ log) where
  only := only_append hquiet hbound.only
  stands := (standing_append hquiet).trans hbound.stands

/-- Nothing fails while the binding stands. -/
theorem Bound.undisturbed (hbound : Bound made log)
    (hquiet : ∀ performed ∈ extra, isQuiet performed.1 = true)
    (hundisturbed : Undisturbed (extra ++ log)) : ∀ performed ∈ extra, fails performed = false := by
  induction extra with
  | nil => simp
  | cons performed extra ih =>
    have hrest : ∀ other ∈ extra, isQuiet other.1 = true := fun other hother ↦
      hquiet other (List.mem_cons_of_mem _ hother)
    intro other hother
    rcases List.mem_cons.mp hother with rfl | hearlier
    · refine hundisturbed.1 ?_
      show standing (extra ++ log) ≠ none
      rw [(hbound.quiet hrest).stands]
      exact Option.some_ne_none made
    · exact ih hrest hundisturbed.2 other hearlier

theorem Bound.not_undisturbed (hbound : Bound made log)
    (hquiet : ∀ performed ∈ extra, isQuiet performed.1 = true)
    (hfails : ∃ performed ∈ extra, fails performed = true) : ¬ Undisturbed (extra ++ log) := by
  rintro hundisturbed
  obtain ⟨performed, hperformed, hfailed⟩ := hfails
  rw [hbound.undisturbed hquiet hundisturbed performed hperformed] at hfailed
  cases hfailed

theorem madeBinding_of_revokes (hrevokes : revokes made performed = true) :
    madeBinding performed = none := by
  unfold revokes at hrevokes
  split at hrevokes
  · rfl
  · cases hrevokes

theorem exists_of_standing (hstands : standing log = some made) :
    ∃ performed ∈ log, madeBinding performed = some made := by
  induction log with
  | nil => cases hstands
  | cons performed log ih =>
    cases hmade : madeBinding performed with
    | some other =>
      rw [standing_cons_of_made hmade] at hstands
      exact ⟨performed, List.mem_cons_self, hmade.trans hstands⟩
    | none =>
      simp only [standing, hmade] at hstands
      obtain ⟨binding, hbinding, hmade⟩ := ih (Option.filter_eq_some_iff.mp hstands).1
      exact ⟨binding, List.mem_cons_of_mem _ hbinding, hmade⟩

theorem Bound.revoke (hbound : Bound made log) (hrevokes : revokes made performed = true) :
    Closed made (performed :: log) := by
  refine ⟨fun other hother binding hbinding ↦ ?_, [], performed, log, rfl, hrevokes,
    exists_of_standing hbound.stands⟩
  rcases List.mem_cons.mp hother with rfl | hlog
  · rw [madeBinding_of_revokes hrevokes] at hbinding
    cases hbinding
  · exact hbound.only other hlog binding hbinding

theorem Undone.append (hundone : Undone made log) : Undone made (extra ++ log) := by
  obtain ⟨recent, performed, earlier, rfl, hrevokes, hmade⟩ := hundone
  exact ⟨extra ++ recent, performed, earlier, by rw [List.append_assoc], hrevokes, hmade⟩

theorem Closed.quiet (hclosed : Closed made log)
    (hquiet : ∀ performed ∈ extra, isQuiet performed.1 = true) : Closed made (extra ++ log) := by
  exact ⟨only_append hquiet hclosed.only, hclosed.undone.append⟩

/-! ### Verification -/

/-- An operation has read a membership of the user in a tenant. -/
def ShowsMembership (userId : UserId) (target : TenantId) (membership : TenantMembership) :
    BindingPerformed → Prop
  | ⟨.listOwnAcrossTenants asked, .ok own⟩ =>
    asked = userId ∧ membership ∈ own ∧ membership.tenantId = target
  | ⟨.findOwnInTenant asked tenantId, .ok (some found)⟩ =>
    asked = userId ∧ tenantId = target ∧ found = membership
  | _ => False

/-- The clock, an own membership active at that time, and the active tenant were read. -/
def Checks (userId : UserId) (target : TenantId) (log : BindingLog) : Prop :=
  ∃ now membership tenant, (⟨.now, .ok now⟩ : BindingPerformed) ∈ log ∧
    (∃ performed ∈ log, ShowsMembership userId target membership performed) ∧
    membershipActiveAt membership now = true ∧
    (⟨.findForMember userId target, .ok (some tenant)⟩ : BindingPerformed) ∈ log ∧
    tenant.status = .active

/-- The checks were made after everything the call has bound. -/
def Verified (userId : UserId) (tenantId : String) (log : BindingLog) : Prop :=
  ∃ since base target, log = since ++ base ∧ target.value = tenantId ∧
    (∀ performed ∈ since, madeBinding performed = none) ∧ Checks userId target since

theorem Checks.mono {userId : UserId} {target : TenantId} {later : BindingLog}
    (hchecks : Checks userId target log) (hsubset : ∀ performed ∈ log, performed ∈ later) :
    Checks userId target later := by
  obtain ⟨now, membership, tenant, hnow, ⟨shown, hshown, hshows⟩, hactive, hfound, hstatus⟩ := hchecks
  exact ⟨now, membership, tenant, hsubset _ hnow, ⟨shown, hsubset _ hshown, hshows⟩, hactive,
    hsubset _ hfound, hstatus⟩

theorem Verified.quiet {userId : UserId} {tenantId : String} (hverified : Verified userId tenantId log)
    (hquiet : ∀ performed ∈ extra, isQuiet performed.1 = true) :
    Verified userId tenantId (extra ++ log) := by
  obtain ⟨since, base, target, rfl, htarget, hnone, hchecks⟩ := hverified
  refine ⟨extra ++ since, base, target, by rw [List.append_assoc], htarget, ?_, ?_⟩
  · intro performed hperformed
    rcases List.mem_append.mp hperformed with hextra | hsince
    · exact madeBinding_of_isQuiet (hquiet performed hextra)
    · exact hnone performed hsince
  · exact hchecks.mono fun performed hperformed ↦ List.mem_append_right _ hperformed

/-! ### The end of a call -/

/-- All records of a binding were written. -/
def Recorded (actions : List String) (made : MadeBinding) (log : BindingLog) : Prop :=
  ∀ action ∈ actions, ∃ performed ∈ log, writes made action performed = true

/-- Where a call was not disturbed, it has undone what it bound. -/
def Cleared (log : BindingLog) : Prop :=
  Undisturbed log → ∀ performed ∈ log, ∀ made ∈ madeBinding performed, Undone made log

/-- The tenant was verified after anything the call has bound; and the call has bound nothing, or a
session to that tenant with its records. -/
def Held (userId : UserId) (actions : List String) (tenantId : String) (log : BindingLog) : Prop :=
  Verified userId tenantId log ∧ (Unbound log ∨
    ∃ made, made.tenantId = tenantId ∧ Bound made log ∧ Recorded actions made log)

/-- A call that reports a tenant holds it, and one that reports none has undone what it bound. -/
def Accounted (userId : UserId) (actions : List String) (log : BindingLog) :
    Option String → Prop
  | some tenantId => Held userId actions tenantId log
  | none => Cleared log

variable {userId : UserId} {actions : List String} {tenantId : String}

theorem Recorded.append (hrecorded : Recorded actions made log) :
    Recorded actions made (extra ++ log) := by
  intro action haction
  obtain ⟨performed, hperformed, hwrites⟩ := hrecorded action haction
  exact ⟨performed, List.mem_append_right _ hperformed, hwrites⟩

theorem Recorded.cons {action : String} (hrecorded : Recorded actions made log)
    (hwrites : ∃ performed ∈ log, writes made action performed = true) :
    Recorded (action :: actions) made log := by
  intro other hother
  rcases List.mem_cons.mp hother with rfl | hactions
  · exact hwrites
  · exact hrecorded other hactions

theorem cleared_of_disturbed (hdisturbed : ¬ Undisturbed log) : Cleared log :=
  fun h ↦ absurd h hdisturbed

theorem Unbound.cleared (hunbound : Unbound log) : Cleared log := by
  intro _ performed hperformed made hmade
  rw [hunbound performed hperformed] at hmade
  cases hmade

theorem Closed.cleared (hclosed : Closed made log) : Cleared log := by
  intro _ performed hperformed other hother
  rw [hclosed.only performed hperformed other hother]
  exact hclosed.undone

theorem Cleared.quiet (hcleared : Cleared log)
    (hquiet : ∀ performed ∈ extra, isQuiet performed.1 = true) : Cleared (extra ++ log) := by
  intro hundisturbed performed hperformed other hother
  rcases List.mem_append.mp hperformed with hextra | hlog
  · rw [madeBinding_of_isQuiet (hquiet performed hextra)] at hother
    cases hother
  · exact (hcleared (undisturbed_of_append hundisturbed) performed hlog other hother).append

theorem Held.quiet (hheld : Held userId actions tenantId log)
    (hquiet : ∀ performed ∈ extra, isQuiet performed.1 = true) :
    Held userId actions tenantId (extra ++ log) := by
  refine ⟨hheld.1.quiet hquiet, hheld.2.imp (fun hunbound ↦ hunbound.quiet hquiet) ?_⟩
  rintro ⟨made, htenant, hbound, hrecorded⟩
  exact ⟨made, htenant, hbound.quiet hquiet, hrecorded.append⟩

/-- Where a port fails, nothing is held that stands undisturbed. -/
theorem Held.failed (hheld : Held userId actions tenantId log)
    (hquiet : ∀ performed ∈ extra, isQuiet performed.1 = true)
    (hfails : ∃ performed ∈ extra, fails performed = true) : Cleared (extra ++ log) := by
  rcases hheld.2 with hunbound | ⟨made, _, hbound, _⟩
  · exact (hunbound.quiet hquiet).cleared
  · exact cleared_of_disturbed (hbound.not_undisturbed hquiet hfails)

end Log

end Karar.TenantBinding
