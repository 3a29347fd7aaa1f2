import Karar.Authorization.Delegation

/-!
# Revoking a role

`RevokeRole` turns the active row of a role assignment into a revoked one and ends its window at the
instant of the revocation. The table's check wants the end of a window after its start, so the
revocation of an assignment at the very instant at which it was granted is refused by the store.

Everything else of a revocation holds in every run: a revoked row never changes again, no decision
is made on its account, and the other assignments stay as they are. `revocationLaw_iff` says that an
authorized revocation of an active assignment always succeeds if and only if it comes later than the
grant.
-/

namespace Karar.Authorization

open Karar.SharedKernel Karar.Foundation

/-! ### The constraints of the table -/

/-- The primary key, the unique index over active rows, and the checks of `role_assignments`. -/
structure Constrained (rows : List RoleAssignment) : Prop where
  ids : (rows.map RoleAssignment.id).Nodup
  activeUnique : ∀ first ∈ rows, ∀ second ∈ rows, first.status = .active → second.status = .active →
    first.userId = second.userId → first.roleId = second.roleId →
    first.tenantId = second.tenantId → first = second
  window : ∀ row ∈ rows, ∀ ending ∈ row.effectiveTo, row.effectiveFrom < ending
  revocation : ∀ row ∈ rows, row.status = .revoked ↔ row.revokedAt.isSome
  revoker : ∀ row ∈ rows, row.revokedAt.isNone = row.revokedBy.isNone

/-- The id of a new row is not taken. -/
def RoleCall.FreshId (rows : List RoleAssignment) : RoleCall → Prop
  | assign surroundings _ _ => ∀ row ∈ rows, row.id ≠ surroundings.newId
  | revoke _ _ _ => True

/-- The table meets its constraints, and the run gives every new row an id of its own. -/
def Sound (rows : List RoleAssignment) (calls : List RoleCall) : Prop :=
  Constrained rows ∧ EveryStep RoleCall.perform (fun rows call ↦ call.FreshId rows) rows calls

/-- The other assignments. -/
def without (id : String) (rows : List RoleAssignment) : List RoleAssignment :=
  rows.filter fun row ↦ row.id ≠ id

/-- The table after the revocation of a row. -/
def revokeIn (surroundings : Surroundings) (actor : PolicyActor) (row : RoleAssignment)
    (rows : List RoleAssignment) : List RoleAssignment :=
  rows.map fun other ↦
    if other.id = row.id ∧ other.status = .active then revokedRow surroundings actor other else other

section Rows

variable {surroundings : Surroundings} {actor : PolicyActor} {target : RoleTarget}
  {rows : List RoleAssignment} {row other : RoleAssignment}

theorem activeIn_iff :
    target.activeIn row = true ↔ row.userId = target.userId ∧ row.roleId = target.roleId ∧
      row.tenantId = target.tenantId ∧ row.status = .active := by
  simp [RoleTarget.activeIn, and_assoc]

theorem status_of_activeIn (hactive : target.activeIn row = true) : row.status = .active :=
  (activeIn_iff.mp hactive).2.2.2

/-- The ids of a table tell its rows apart. -/
theorem Constrained.eq_of_id (hrows : Constrained rows) (hrow : row ∈ rows) (hother : other ∈ rows)
    (hid : other.id = row.id) : other = row :=
  List.inj_on_of_nodup_map hrows.ids hother hrow hid

/-- A target has one active row at most. -/
theorem Constrained.find?_activeIn (hrows : Constrained rows) (hrow : row ∈ rows)
    (hactive : target.activeIn row = true) : rows.find? target.activeIn = some row := by
  cases hfind : rows.find? target.activeIn with
  | none => exact absurd hactive (List.find?_eq_none.mp hfind row hrow)
  | some found =>
    have hfound := activeIn_iff.mp (List.find?_some hfind)
    have hown := activeIn_iff.mp hactive
    have hsame := hrows.activeUnique found (List.mem_of_find?_eq_some hfind) row hrow hfound.2.2.2
      hown.2.2.2 (hfound.1.trans hown.1.symm) (hfound.2.1.trans hown.2.1.symm)
      (hfound.2.2.1.trans hown.2.2.1.symm)
    rw [hsame]

/-- The members of the table after a revocation. -/
theorem mem_revokeIn (hrows : Constrained rows) (hrow : row ∈ rows) (hactive : row.status = .active) :
    other ∈ revokeIn surroundings actor row rows ↔
      other = revokedRow surroundings actor row ∨ other ∈ rows ∧ other.id ≠ row.id := by
  unfold revokeIn
  rw [List.mem_map]
  constructor
  · rintro ⟨before, hbefore, rfl⟩
    by_cases hid : before.id = row.id
    · rw [hrows.eq_of_id hrow hbefore hid, if_pos ⟨rfl, hactive⟩]
      exact Or.inl rfl
    · rw [if_neg (fun hboth ↦ hid hboth.1)]
      exact Or.inr ⟨hbefore, hid⟩
  · rintro (rfl | ⟨hother, hid⟩)
    · exact ⟨row, hrow, if_pos ⟨rfl, hactive⟩⟩
    · exact ⟨other, hother, if_neg fun hboth ↦ hid hboth.1⟩

@[simp] theorem map_id_revokeIn :
    (revokeIn surroundings actor row rows).map RoleAssignment.id = rows.map RoleAssignment.id := by
  unfold revokeIn
  rw [List.map_map]
  apply List.map_congr_left
  intro other _
  simp only [Function.comp_apply]
  split_ifs <;> rfl

/-- The other assignments are left alone. -/
theorem without_revokeIn : without row.id (revokeIn surroundings actor row rows) =
    without row.id rows := by
  unfold without revokeIn
  induction rows with
  | nil => rfl
  | cons first rest ih =>
    by_cases hid : first.id = row.id
    · by_cases hactive : first.status = .active
      · simpa [hid, hactive, revokedRow] using ih
      · simpa [hid, hactive] using ih
    · simpa [hid] using ih

/-! ### The constraints are kept -/

theorem Constrained.append (hrows : Constrained rows) (hfresh : ∀ row ∈ rows, row.id ≠ surroundings.newId)
    (hvacant : rows.any target.activeIn = false) :
    Constrained (rows ++ [grantedRow surroundings actor target]) := by
  have hnone : ∀ row ∈ rows, ¬ target.activeIn row = true := by
    simpa using hvacant
  have hconflict : ∀ row ∈ rows, row.status = .active → row.userId = target.userId →
      row.roleId = target.roleId → row.tenantId = target.tenantId → False :=
    fun row hrow hactive huser hrole htenant ↦
      hnone row hrow (activeIn_iff.mpr ⟨huser, hrole, htenant, hactive⟩)
  refine ⟨?_, ?_, ?_, ?_, ?_⟩
  · rw [List.map_append, List.nodup_append]
    refine ⟨hrows.ids, List.nodup_singleton _, ?_⟩
    intro id hid new hnew
    obtain ⟨row, hrow, rfl⟩ := List.mem_map.mp hid
    rw [List.mem_singleton.mp hnew]
    exact hfresh row hrow
  · intro first hfirst second hsecond hactive hother huser hrole htenant
    rcases List.mem_append.mp hfirst with hold | hnew
    · rcases List.mem_append.mp hsecond with hold' | hnew'
      · exact hrows.activeUnique first hold second hold' hactive hother huser hrole htenant
      · rw [List.mem_singleton.mp hnew'] at huser hrole htenant
        exact (hconflict first hold hactive huser hrole htenant).elim
    · rcases List.mem_append.mp hsecond with hold' | hnew'
      · rw [List.mem_singleton.mp hnew] at huser hrole htenant
        exact (hconflict second hold' hother huser.symm hrole.symm htenant.symm).elim
      · rw [List.mem_singleton.mp hnew, List.mem_singleton.mp hnew']
  all_goals
    intro row hrow
    rcases List.mem_append.mp hrow with hold | hnew
  · exact hrows.window row hold
  · rw [List.mem_singleton.mp hnew]
    simp [grantedRow]
  · exact hrows.revocation row hold
  · rw [List.mem_singleton.mp hnew]
    simp [grantedRow]
  · exact hrows.revoker row hold
  · rw [List.mem_singleton.mp hnew]
    simp [grantedRow]

theorem Constrained.revokeIn (hrows : Constrained rows) (hrow : row ∈ rows)
    (hactive : row.status = .active) (hlater : row.effectiveFrom < surroundings.occurredAt) :
    Constrained (revokeIn surroundings actor row rows) := by
  refine ⟨?_, ?_, ?_, ?_, ?_⟩
  · rw [map_id_revokeIn]
    exact hrows.ids
  · intro first hfirst second hsecond hfirstActive hsecondActive huser hrole htenant
    rcases (mem_revokeIn hrows hrow hactive).mp hfirst with rfl | ⟨hfirst, -⟩
    · exact absurd hfirstActive (by simp [revokedRow])
    · rcases (mem_revokeIn hrows hrow hactive).mp hsecond with rfl | ⟨hsecond, -⟩
      · exact absurd hsecondActive (by simp [revokedRow])
      · exact hrows.activeUnique first hfirst second hsecond hfirstActive hsecondActive huser hrole
          htenant
  all_goals
    intro other hother
    rcases (mem_revokeIn hrows hrow hactive).mp hother with rfl | ⟨hother, -⟩
  · simpa [revokedRow] using hlater
  · exact hrows.window other hother
  · simp [revokedRow]
  · exact hrows.revocation other hother
  · simp [revokedRow]
  · exact hrows.revoker other hother

end Rows

/-! ### What a revocation does -/

/-- The actor is authorized to revoke what the input names, and the store and the audit trail work. -/
structure Authorized (surroundings : Surroundings) (rows : List RoleAssignment) (input : RoleInput)
    (actor : Option PolicyActor) (principal : PolicyActor) (target : RoleTarget) : Prop where
  actor : actor = some principal
  valid : input.validate "revocation" = .ok target
  allowed : (authorize (surroundings.resolve rows) surroundings.decidedAt (some principal)
    "authorization.role.revoke").allowed = true
  written : surroundings.writeFailure = none
  audited : ∃ failure, surroundings.audit = .ok failure

/-- A revocation leaves the table, or revokes the active row of a target whose window has started. -/
theorem revokeRole_cases (surroundings : Surroundings) (rows : List RoleAssignment)
    (input : RoleInput) (actor : Option PolicyActor) :
    (revokeRole surroundings rows input actor).rows = rows ∨
    ∃ (principal : PolicyActor) (target : RoleTarget) (row : RoleAssignment),
      rows.find? target.activeIn = some row ∧ row.effectiveFrom < surroundings.occurredAt ∧
      (revokeRole surroundings rows input actor).rows = revokeIn surroundings principal row rows := by
  cases actor with
  | none => exact Or.inl rfl
  | some principal =>
    unfold revokeRole
    rw [requirePolicyActor_some]
    cases input.validate "revocation" with
    | error error => exact Or.inl rfl
    | ok target =>
      dsimp only
      split_ifs
      · exact Or.inl rfl
      · unfold revokeActive
        cases surroundings.writeFailure with
        | some message => exact Or.inl rfl
        | none =>
          cases hfind : rows.find? target.activeIn with
          | none => exact Or.inl rfl
          | some row =>
            by_cases hlater : row.effectiveFrom < surroundings.occurredAt
            · simp only [if_pos hlater]
              exact Or.inr ⟨principal, target, row, hfind, hlater, rfl⟩
            · simp only [if_neg hlater]
              exact Or.inl trivial

section Calls

variable {surroundings : Surroundings} {rows : List RoleAssignment} {input : RoleInput}
  {actor : Option PolicyActor} {principal : PolicyActor} {target : RoleTarget} {row : RoleAssignment}
  {call : RoleCall} {calls : List RoleCall}

/-- An authorized revocation of an active row, by the row's start. -/
theorem Authorized.revokeRole_eq (hauthorized : Authorized surroundings rows input actor principal target)
    (hfind : rows.find? target.activeIn = some row) :
    ∃ failure, surroundings.audit = .ok failure ∧
      (revokeRole surroundings rows input actor).rows =
        (if row.effectiveFrom < surroundings.occurredAt then
          revokeIn surroundings principal row rows else rows) ∧
      (revokeRole surroundings rows input actor).result =
        if row.effectiveFrom < surroundings.occurredAt then
          .ok (revokedRow surroundings principal row, failure)
        else
          .error (.storeFailure s!"role revocation failed: {surroundings.checkViolation}") := by
  obtain ⟨failure, haudit⟩ := hauthorized.audited
  refine ⟨failure, haudit, ?_⟩
  have hallowed := hauthorized.allowed
  obtain rfl := hauthorized.actor
  unfold revokeRole
  rw [requirePolicyActor_some]
  simp only [hauthorized.valid, hallowed, revokeActive, hauthorized.written, hfind, haudit]
  by_cases hlater : row.effectiveFrom < surroundings.occurredAt
  · simp [hlater, revokeIn]
  · simp [hlater]

/-- Every call keeps the constraints of the table. -/
theorem Constrained.perform (hrows : Constrained rows) (hfresh : call.FreshId rows) :
    Constrained (call.perform rows) := by
  cases call with
  | assign surroundings input actor =>
    rcases assignRole_cases surroundings rows input actor with
      ⟨hsame, -⟩ | ⟨principal, target, -, -, -, hvacant, happended, -⟩
    · simp only [RoleCall.perform, hsame]
      exact hrows
    · simp only [RoleCall.perform, happended]
      exact hrows.append hfresh hvacant
  | revoke surroundings input actor =>
    rcases revokeRole_cases surroundings rows input actor with
      hsame | ⟨principal, target, row, hfind, hlater, hrevoked⟩
    · simp only [RoleCall.perform, hsame]
      exact hrows
    · simp only [RoleCall.perform, hrevoked]
      have hrow := List.mem_of_find?_eq_some hfind
      exact hrows.revokeIn hrow (status_of_activeIn (List.find?_some hfind)) hlater

theorem Sound.step (hsound : Sound rows (call :: calls)) : Sound (call.perform rows) calls :=
  ⟨hsound.1.perform hsound.2.1, hsound.2.2⟩

/-- A revoked row never changes again. -/
theorem mem_perform_of_revoked (hrows : Constrained rows) (hrow : row ∈ rows)
    (hrevoked : row.status = .revoked) : row ∈ call.perform rows := by
  cases call with
  | assign surroundings input actor =>
    rcases assignRole_cases surroundings rows input actor with
      ⟨hsame, -⟩ | ⟨principal, target, -, -, -, -, happended, -⟩
    · simp only [RoleCall.perform, hsame]
      exact hrow
    · simp only [RoleCall.perform, happended]
      exact List.mem_append_left _ hrow
  | revoke surroundings input actor =>
    rcases revokeRole_cases surroundings rows input actor with
      hsame | ⟨principal, target, other, hfind, -, hafter⟩
    · simp only [RoleCall.perform, hsame]
      exact hrow
    · simp only [RoleCall.perform, hafter]
      have hother := List.mem_of_find?_eq_some hfind
      have hactive := status_of_activeIn (List.find?_some hfind)
      refine (mem_revokeIn hrows hother hactive).mpr (Or.inr ⟨hrow, fun hid ↦ ?_⟩)
      rw [hrows.eq_of_id hother hrow hid, hactive] at hrevoked
      exact absurd hrevoked (by simp)

/-- The constraints hold along a run, and what is revoked stays. -/
theorem Sound.run (hsound : Sound rows calls) :
    Constrained (calls.foldl RoleCall.perform rows) ∧
      ∀ row ∈ rows, row.status = .revoked → row ∈ calls.foldl RoleCall.perform rows := by
  induction calls generalizing rows with
  | nil => exact ⟨hsound.1, fun row hrow _ ↦ hrow⟩
  | cons call rest ih =>
    obtain ⟨hconstrained, hstays⟩ := ih hsound.step
    refine ⟨hconstrained, fun row hrow hrevoked ↦ ?_⟩
    exact hstays row (mem_perform_of_revoked hsound.1 hrow hrevoked) hrevoked

end Calls

/-! ### Decisions -/

/-- The decision on an actor's permission at an instant, over a table. -/
def decisionOver (rows : List RoleAssignment) (actor : PolicyActor) (permission : String)
    (now : Instant) : PolicyDecision :=
  authorize (fun principal ↦ some (listOwnActive rows principal now)) now (some actor) permission

/-- No decision is made on account of an assignment: each is that of the table without it. -/
def NotOnAccountOf (id : String) (rows : List RoleAssignment) : Prop :=
  ∀ actor permission now,
    decisionOver rows actor permission now = decisionOver (without id rows) actor permission now

section Decisions

variable {rows : List RoleAssignment} {row : RoleAssignment} {id : String}

/-- Revoked rows are not read. -/
theorem listOwnActive_without (hrevoked : ∀ row ∈ rows, row.id = id → row.status = .revoked)
    (actor : PolicyActor) (now : Instant) :
    listOwnActive (without id rows) actor now = listOwnActive rows actor now := by
  unfold listOwnActive without
  rw [List.filter_filter]
  congr 1
  apply List.filter_congr
  intro row hrow
  by_cases hid : row.id = id
  · simp [hrevoked row hrow hid]
  · simp [hid]

theorem notOnAccountOf_of_revoked (hrevoked : ∀ row ∈ rows, row.id = id → row.status = .revoked) :
    NotOnAccountOf id rows := by
  intro actor permission now
  unfold decisionOver
  simp only [listOwnActive_without hrevoked]

theorem Constrained.notOnAccountOf (hrows : Constrained rows) (hrow : row ∈ rows)
    (hrevoked : row.status = .revoked) : NotOnAccountOf row.id rows := by
  apply notOnAccountOf_of_revoked
  intro other hother hid
  rw [hrows.eq_of_id hrow hother hid]
  exact hrevoked

end Decisions

/-! ### The law -/

/-- An authorized revocation of an active assignment succeeds. The row is revoked, no decision is made
on its account, and the other assignments stay as they are. -/
def Revokes (rows : List RoleAssignment) : RoleCall → Prop
  | .assign _ _ _ => True
  | .revoke surroundings input actor => ∀ principal target row,
    Authorized surroundings rows input actor principal target → row ∈ rows →
    target.activeIn row = true →
    (∃ failure, (revokeRole surroundings rows input actor).result =
      .ok (revokedRow surroundings principal row, failure)) ∧
    revokedRow surroundings principal row ∈ (revokeRole surroundings rows input actor).rows ∧
    NotOnAccountOf row.id (revokeRole surroundings rows input actor).rows ∧
    without row.id (revokeRole surroundings rows input actor).rows = without row.id rows

/-- An authorized revocation of an active assignment comes later than the start of the assignment. -/
def ComesLater (rows : List RoleAssignment) : RoleCall → Prop
  | .assign _ _ _ => True
  | .revoke surroundings input actor => ∀ principal target row,
    Authorized surroundings rows input actor principal target → row ∈ rows →
    target.activeIn row = true → row.effectiveFrom < surroundings.occurredAt

/-- Revocation is always available and immediate, along a run. -/
structure RevocationLaw (rows : List RoleAssignment) (calls : List RoleCall) : Prop where
  available : EveryStep RoleCall.perform Revokes rows calls
  /-- A revoked row never changes again, and no decision is ever made on its account. -/
  lasting : ∀ earlier middle later, calls = earlier ++ (middle ++ later) →
    ∀ row ∈ earlier.foldl RoleCall.perform rows, row.status = .revoked →
      row ∈ middle.foldl RoleCall.perform (earlier.foldl RoleCall.perform rows) ∧
      NotOnAccountOf row.id (middle.foldl RoleCall.perform (earlier.foldl RoleCall.perform rows))

section Law

variable {rows : List RoleAssignment} {call : RoleCall} {calls : List RoleCall}

theorem revokes_iff_comesLater (hrows : Constrained rows) :
    Revokes rows call ↔ ComesLater rows call := by
  cases call with
  | assign surroundings input actor => exact Iff.rfl
  | revoke surroundings input actor =>
    refine forall_congr' fun principal ↦ forall_congr' fun target ↦ forall_congr' fun row ↦ ?_
    refine forall_congr' fun hauthorized ↦ forall_congr' fun hrow ↦ forall_congr' fun hactive ↦ ?_
    obtain ⟨failure, -, hafter, hresult⟩ :=
      hauthorized.revokeRole_eq (hrows.find?_activeIn hrow hactive)
    have hstatus := status_of_activeIn hactive
    by_cases hlater : row.effectiveFrom < surroundings.occurredAt
    · rw [if_pos hlater] at hafter hresult
      rw [hafter, hresult]
      have hrevoked : revokedRow surroundings principal row ∈
          revokeIn surroundings principal row rows :=
        (mem_revokeIn hrows hrow hstatus).mpr (Or.inl rfl)
      have hnot : NotOnAccountOf (revokedRow surroundings principal row).id
          (revokeIn surroundings principal row rows) :=
        (hrows.revokeIn hrow hstatus hlater).notOnAccountOf hrevoked rfl
      exact iff_of_true ⟨⟨failure, rfl⟩, hrevoked, hnot, without_revokeIn⟩ hlater
    · rw [if_neg hlater] at hresult
      refine iff_of_false (fun hrevokes ↦ ?_) hlater
      obtain ⟨granted, hok⟩ := hrevokes.1
      rw [hresult] at hok
      exact absurd hok (by simp)

/-- Revocation is always available and immediate along a run, if and only if every authorized
revocation of an active assignment comes later than the start of the assignment. -/
theorem revocationLaw_iff (hsound : Sound rows calls) :
    RevocationLaw rows calls ↔ EveryStep RoleCall.perform ComesLater rows calls := by
  have hagree : EveryStep RoleCall.perform Revokes rows calls ↔
      EveryStep RoleCall.perform ComesLater rows calls := by
    refine everyStep_congr ?_ ?_ hsound
    · exact fun _ _ _ hkept ↦ revokes_iff_comesLater hkept.1
    · exact fun _ _ _ hkept _ ↦ hkept.step
  constructor
  · intro hlaw
    exact hagree.mp hlaw.available
  · intro hlater
    refine ⟨hagree.mpr hlater, ?_⟩
    intro earlier middle later hcalls row hrow hrevoked
    obtain ⟨hrows, hfresh⟩ := hsound
    rw [hcalls, everyStep_append, everyStep_append] at hfresh
    obtain ⟨hbefore, -⟩ := Sound.run ⟨hrows, hfresh.1⟩
    obtain ⟨hafter, hstays⟩ := Sound.run ⟨hbefore, hfresh.2.1⟩
    have hmem := hstays row hrow hrevoked
    exact ⟨hmem, hafter.notOnAccountOf hmem hrevoked⟩

end Law

/-! ### A grant taken back at once -/

/-- Whoever SUPPORT is granted to. -/
def newcomer : UserId := ⟨"22222222-2222-4222-8222-222222222222", isUuid_twos⟩

def supportForNewcomer : RoleInput := ⟨newcomer.value, "SUPPORT", none, "on call"⟩

def granting : RoleCall := .assign calm supportForNewcomer (some admin)

/-- The revocation of a grant, at an instant. -/
def revokingAt (at_ : Instant) : RoleCall :=
  .revoke { calm with decidedAt := at_, occurredAt := at_, auditedAt := at_ } supportForNewcomer
    (some admin)

theorem constrained_adminRow : Constrained [adminRow] := by
  refine ⟨by decide, ?_, by decide, by decide, by decide⟩
  intro first hfirst second hsecond _ _ _ _ _
  rw [List.mem_singleton.mp hfirst, List.mem_singleton.mp hsecond]

/-- The table after the grant. -/
theorem perform_granting : granting.perform [adminRow] =
    [adminRow, grantedRow calm admin ⟨newcomer, .support, none, "on call"⟩] := by
  decide

/-- One grant and one revocation of it are a run with ids of its own. -/
theorem sound_granting (at_ : Instant) : Sound [adminRow] [granting, revokingAt at_] := by
  refine ⟨constrained_adminRow, ?_, trivial, trivial⟩
  intro row hrow
  rw [List.mem_singleton.mp hrow]
  decide

/-- Taken back a moment later, the grant is gone for good if the law is kept. -/
theorem revocationLaw_iff_later :
    RevocationLaw [adminRow] [granting, revokingAt 2] ↔
      EveryStep RoleCall.perform ComesLater [adminRow] [granting, revokingAt 2] :=
  revocationLaw_iff (sound_granting 2)

/-- Taken back at the instant of the grant, the store refuses. -/
theorem revocation_refused_at_once :
    ¬ ∀ (start : Instant) (rows : List RoleAssignment) (calls : List RoleCall), Sound rows calls →
      (∀ row ∈ rows, row.effectiveFrom ≤ start) → ClockOrdered start calls →
      RevocationLaw rows calls := by
  intro hclaim
  have hlaw := hclaim 1 [adminRow] [granting, revokingAt 1] (sound_granting 1) (by decide)
    ⟨⟨by decide, by decide⟩, ⟨by decide, by decide⟩, trivial⟩
  have hrevokes := hlaw.available.2.1
  rw [perform_granting] at hrevokes
  obtain ⟨⟨failure, hok⟩, -⟩ := hrevokes admin ⟨newcomer, .support, none, "on call"⟩
    (grantedRow calm admin ⟨newcomer, .support, none, "on call"⟩)
    ⟨rfl, by decide, by decide, rfl, none, rfl⟩ (by decide) (by decide)
  have hrefused : (revokeRole { calm with decidedAt := 1, occurredAt := 1, auditedAt := 1 }
      [adminRow, grantedRow calm admin ⟨newcomer, .support, none, "on call"⟩] supportForNewcomer
      (some admin)).result =
        .error (.storeFailure "role revocation failed: check constraint violated") := by
    decide
  exact absurd (hrefused.symm.trans hok) (by simp)

end Karar.Authorization
