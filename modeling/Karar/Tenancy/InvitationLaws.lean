import Karar.Tenancy.Invitations

/-!
# What an operation does to invitations and memberships

`Changes` lists what an operation can do to the store. Three operations write: the count of a failed
attempt, the redemption, and the revocation. Each is conditional on the row it finds, so that a closed
invitation keeps its closing (`InvitationSucceeds`), whoever closed it and whatever was read before.
-/

namespace Karar.Tenancy

open Foundation KeyedTable Machine SharedKernel

/-! ### What an operation changes -/

/-- The operations that write. -/
def TenancyOp.writes : TenancyOp → Bool
  | .recordFailedAttempt _ _ => true
  | .commitRedemption _ _ _ => true
  | .revoke _ _ _ => true
  | _ => false

inductive Changes (store : TenancyStore) : (op : TenancyOp) → op.Value → TenancyStore → Prop
  | read {op : TenancyOp} {value : op.Value} {oracle : TenancyOracle} (hop : op.writes = false)
    (hread : store.answer op oracle = .ok (store, value)) : Changes store op value store
  | counted (tokenHash : String) (now : Instant) :
    Changes store (.recordFailedAttempt tokenHash now)
      (store.recordFailedAttempt tokenHash now).2 (store.recordFailedAttempt tokenHash now).1
  | redeemed {invitation : TenantInvitation} {userId : UserId} {occurredAt : Instant} {id : String}
    {members : MemberTable}
    (hopen : store.invitations.count (InvitationTable.IsRedeemable invitation occurredAt) ≠ 0)
    (hinsert : store.members.insert
      (TenancyStore.newMembership id invitation userId occurredAt) = some members) :
    Changes store (.commitRedemption invitation userId occurredAt)
      (some (TenancyStore.newMembership id invitation userId occurredAt))
      { store with
        invitations := InvitationTable.markRedeemed store.invitations invitation userId occurredAt
        members }
  | lostRace (invitation : TenantInvitation) (userId : UserId) (occurredAt : Instant) :
    Changes store (.commitRedemption invitation userId occurredAt) none store
  | revoked (tenantId : TenantId) (invitationId : String) (now : Instant) :
    Changes store (.revoke tenantId invitationId now)
      (store.revoke tenantId invitationId now).2 (store.revoke tenantId invitationId now).1

section Changes

variable {store later : TenancyStore} {op : TenancyOp} {oracle : TenancyOracle}

theorem changes_of_commitRedemption {invitation : TenantInvitation} {userId : UserId}
    {occurredAt : Instant} {id : String} {value : Option TenantMembership}
    (hcommit : store.commitRedemption invitation userId occurredAt id = .ok (later, value)) :
    Changes store (.commitRedemption invitation userId occurredAt) value later := by
  unfold TenancyStore.commitRedemption at hcommit
  by_cases hcount : store.invitations.count
      (InvitationTable.IsRedeemable invitation occurredAt) = 0
  · rw [if_pos hcount] at hcommit
    obtain ⟨rfl, rfl⟩ := Prod.mk.inj (Except.ok.inj hcommit)
    exact .lostRace invitation userId occurredAt
  · rw [if_neg hcount] at hcommit
    cases hinsert : store.members.insert
        (TenancyStore.newMembership id invitation userId occurredAt) with
    | none => simp [hinsert] at hcommit
    | some members =>
      simp only [hinsert] at hcommit
      obtain ⟨rfl, rfl⟩ := Prod.mk.inj (Except.ok.inj hcommit)
      exact .redeemed hcount hinsert

theorem changes_of_answer {value : op.Value} (hanswer : store.answer op oracle = .ok (later, value)) :
    Changes store op value later := by
  cases op with
  | recordFailedAttempt tokenHash now =>
    obtain ⟨rfl, rfl⟩ := Prod.mk.inj (Except.ok.inj hanswer)
    exact .counted tokenHash now
  | commitRedemption invitation userId occurredAt => exact changes_of_commitRedemption hanswer
  | revoke tenantId invitationId now =>
    obtain ⟨rfl, rfl⟩ := Prod.mk.inj (Except.ok.inj hanswer)
    exact .revoked tenantId invitationId now
  | _ =>
    obtain rfl := congrArg Prod.fst (Except.ok.inj hanswer)
    exact .read rfl hanswer

/-- What an operation that answers with a value does to the store. -/
theorem changes_of_handle {value : op.Value}
    (hanswer : TenancyStore.handle store op oracle = some (later, .ok value)) :
    Changes store op value later := by
  have hperform := perform_of_answered hanswer
  unfold TenancyStore.perform at hperform
  split at hperform
  · exact changes_of_answer hperform
  · split_ifs at hperform
    exact changes_of_answer hperform

/-- What a call reads of an invitation is a row. -/
theorem row_of_findByTokenHash {tokenHash : String} {invitation : TenantInvitation}
    (hanswer : TenancyStore.handle store (.findByTokenHash tokenHash) oracle =
      some (later, .ok (some invitation))) :
    later = store ∧ ∃ row ∈ store.invitations.rows, row.toTenantInvitation = invitation ∧
      InvitationTable.IsIdentifiedBy tokenHash row = true := by
  generalize hfound : some invitation = value at hanswer
  cases changes_of_handle hanswer with
  | read hop hread =>
    have hvalue := congrArg Prod.snd (Except.ok.inj hread)
    obtain ⟨row, hrow, hinvitation⟩ := Option.map_eq_some_iff.mp (hvalue.trans hfound.symm)
    have hidentified := List.find?_some hrow
    exact ⟨rfl, row, List.mem_of_find?_eq_some hrow, hinvitation, hidentified⟩

/-- What follows from every change, and from no change, holds of every operation. -/
theorem handled_of_changes (relation : TenancyStore → TenancyStore → Prop)
    {answer : Except String op.Value}
    (hanswer : TenancyStore.handle store op oracle = some (later, answer))
    (hsame : relation store store)
    (hchanges : ∀ value, answer = .ok value → Changes store op value later → relation store later) :
    relation store later := by
  cases answer with
  | ok value => exact hchanges value rfl (changes_of_handle hanswer)
  | error message => exact eq_of_thrown hanswer ▸ hsame

end Changes

/-! ### How an invitation changes -/

/-- Redeemed or revoked. -/
def InvitationRow.IsClosed (row : InvitationRow) : Prop :=
  row.redeemedAt ≠ none ∨ row.revokedAt ≠ none

/-- Redeemed and revoked. -/
def InvitationRow.IsBoth (row : InvitationRow) : Prop :=
  row.redeemedAt ≠ none ∧ row.revokedAt ≠ none

/-- A closed invitation keeps its closing, and an open one is closed in one way. -/
structure InvitationSucceeds (row later : InvitationRow) : Prop where
  id : later.id = row.id
  tenantId : later.tenantId = row.tenantId
  email : later.email = row.email
  tokenHash : later.tokenHash = row.tokenHash
  expiresAt : later.expiresAt = row.expiresAt
  maxAttempts : later.maxAttempts = row.maxAttempts
  attempts : row.attempts ≤ later.attempts
  closed : row.IsClosed → later.redeemedAt = row.redeemedAt ∧
    later.redeemedBy = row.redeemedBy ∧ later.revokedAt = row.revokedAt
  apart : later.IsBoth → row.IsBoth

theorem invitationSucceeds_refl (row : InvitationRow) : InvitationSucceeds row row :=
  ⟨rfl, rfl, rfl, rfl, rfl, rfl, Nat.le_refl _, fun _ ↦ ⟨rfl, rfl, rfl⟩, id⟩

theorem InvitationSucceeds.isClosed {row later : InvitationRow}
    (hsucceeds : InvitationSucceeds row later) (hclosed : row.IsClosed) : later.IsClosed := by
  obtain ⟨hredeemed, _, hrevoked⟩ := hsucceeds.closed hclosed
  unfold InvitationRow.IsClosed
  rw [hredeemed, hrevoked]
  exact hclosed

theorem InvitationSucceeds.trans {first second third : InvitationRow}
    (hfirst : InvitationSucceeds first second) (hsecond : InvitationSucceeds second third) :
    InvitationSucceeds first third where
  id := hsecond.id.trans hfirst.id
  tenantId := hsecond.tenantId.trans hfirst.tenantId
  email := hsecond.email.trans hfirst.email
  tokenHash := hsecond.tokenHash.trans hfirst.tokenHash
  expiresAt := hsecond.expiresAt.trans hfirst.expiresAt
  maxAttempts := hsecond.maxAttempts.trans hfirst.maxAttempts
  attempts := hfirst.attempts.trans hsecond.attempts
  closed hclosed := by
    obtain ⟨hredeemedAt, hredeemedBy, hrevokedAt⟩ := hsecond.closed (hfirst.isClosed hclosed)
    obtain ⟨hfirstAt, hfirstBy, hfirstRevoked⟩ := hfirst.closed hclosed
    exact ⟨hredeemedAt.trans hfirstAt, hredeemedBy.trans hfirstBy, hrevokedAt.trans hfirstRevoked⟩
  apart hboth := hfirst.apart (hsecond.apart hboth)

/-- A new invitation. -/
def IsFresh (row : InvitationRow) : Prop :=
  row.redeemedAt = none ∧ row.revokedAt = none ∧ row.attempts = 0

section Evolution

variable {store later : TenancyStore} {op : TenancyOp} {oracle : TenancyOracle}

theorem isRedeemable_iff {invitation : TenantInvitation} {occurredAt : Instant}
    {row : InvitationRow} : InvitationTable.IsRedeemable invitation occurredAt row = true ↔
      row.id = invitation.id ∧ row.tenantId = invitation.tenantId ∧ row.redeemedAt = none ∧
        row.revokedAt = none ∧ occurredAt < row.expiresAt := by
  simp [InvitationTable.IsRedeemable, and_assoc]

theorem isOpen_iff {tenantId : TenantId} {invitationId : String} {row : InvitationRow} :
    InvitationTable.IsOpen tenantId invitationId row = true ↔
      row.id = invitationId ∧ row.tenantId = tenantId ∧ row.revokedAt = none ∧
        row.redeemedAt = none := by
  simp [InvitationTable.IsOpen, and_assoc]

theorem isIdentifiedBy_iff {tokenHash : String} {row : InvitationRow} :
    InvitationTable.IsIdentifiedBy tokenHash row = true ↔
      tokenHash ≠ "" ∧ row.tokenHash = tokenHash := by
  simp [InvitationTable.IsIdentifiedBy]

theorem recordFailedAttempt_evolves (table : InvitationTable) (tokenHash : String) (now : Instant) :
    Evolves InvitationSucceeds (fun _ ↦ False) table
      (InvitationTable.recordFailedAttempt table tokenHash now) :=
  evolves_update invitationSucceeds_refl fun row _ _ ↦
    { invitationSucceeds_refl row with attempts := Nat.le_succ _ }

theorem markRedeemed_evolves (table : InvitationTable) (invitation : TenantInvitation)
    (userId : UserId) (occurredAt : Instant) :
    Evolves InvitationSucceeds (fun _ ↦ False) table
      (InvitationTable.markRedeemed table invitation userId occurredAt) := by
  refine evolves_update invitationSucceeds_refl fun row _ hcondition ↦ ?_
  obtain ⟨_, _, hredeemed, hrevoked, _⟩ := isRedeemable_iff.mp hcondition
  exact
    { invitationSucceeds_refl row with
      closed := fun hclosed ↦ absurd hclosed (by simp [InvitationRow.IsClosed, hredeemed, hrevoked])
      apart := fun hboth ↦ absurd hrevoked hboth.2 }

theorem markRevoked_evolves (table : InvitationTable) (tenantId : TenantId) (invitationId : String)
    (now : Instant) :
    Evolves InvitationSucceeds (fun _ ↦ False) table
      (InvitationTable.markRevoked table tenantId invitationId now) := by
  refine evolves_update invitationSucceeds_refl fun row _ hcondition ↦ ?_
  obtain ⟨_, _, hrevoked, hredeemed⟩ := isOpen_iff.mp hcondition
  exact
    { invitationSucceeds_refl row with
      closed := fun hclosed ↦ absurd hclosed (by simp [InvitationRow.IsClosed, hredeemed, hrevoked])
      apart := fun hboth ↦ absurd hredeemed hboth.1 }

theorem revoke_evolves (store : TenancyStore) (tenantId : TenantId) (invitationId : String)
    (now : Instant) :
    Evolves InvitationSucceeds (fun _ ↦ False) store.invitations
      (store.revoke tenantId invitationId now).1.invitations := by
  unfold TenancyStore.revoke
  split_ifs with hcount
  · exact evolves_refl invitationSucceeds_refl
  · exact markRevoked_evolves store.invitations tenantId invitationId now

theorem invitations_evolve {answer : Except String op.Value}
    (hanswer : TenancyStore.handle store op oracle = some (later, answer)) :
    Evolves InvitationSucceeds (fun _ ↦ False) store.invitations later.invitations := by
  refine handled_of_changes (fun before after ↦ Evolves InvitationSucceeds (fun _ ↦ False)
    before.invitations after.invitations) hanswer (evolves_refl invitationSucceeds_refl)
    fun value _ hchanges ↦ ?_
  cases hchanges with
  | read _ _ => exact evolves_refl invitationSucceeds_refl
  | counted tokenHash now => exact recordFailedAttempt_evolves store.invitations tokenHash now
  | redeemed hopen hinsert => exact markRedeemed_evolves store.invitations _ _ _
  | lostRace => exact evolves_refl invitationSucceeds_refl
  | revoked tenantId invitationId now => exact revoke_evolves store tenantId invitationId now

theorem invitations_evolve_turn (store : TenancyStore) (turn : TenancyTurn) :
    Evolves InvitationSucceeds IsFresh store.invitations (store.turn turn).invitations := by
  cases turn with
  | clock now => exact evolves_refl invitationSucceeds_refl
  | accounts accounts => exact evolves_refl invitationSucceeds_refl
  | invite row =>
    simp only [TenancyStore.turn]
    split
    · rename_i hinsert
      exact evolves_insert invitationSucceeds_refl ⟨rfl, rfl, rfl⟩ hinsert
    · exact evolves_refl invitationSucceeds_refl

end Evolution

end Karar.Tenancy
