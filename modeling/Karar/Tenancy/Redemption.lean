import Karar.Identity.ReferenceLibraries
import Karar.Tenancy.RedemptionConduct

/-!
# Redemption is one-time and bound to the invitee

What a call has read before it writes, together with the conditional updates of the store, gives
`redemption_once`: over any interleaving of redeeming and revoking calls each invitation is redeemed
at most once and never also revoked, each redemption is one membership of the verified invitee, and a
refused redemption has changed nothing but the count of failed attempts.
-/

namespace Karar.Tenancy

open Foundation KeyedTable Machine SharedKernel

/-! ### What a redemption leaves behind -/

/-- The invitation is redeemed by the redeemer, before its expiry, and not revoked; the membership
is there, and is an active one of the inviting tenant and of the redeemer. -/
structure LeavesBehind (store : TenancyStore) (done : Redemption) : Prop where
  invitation : ∃ row ∈ store.invitations.rows, row.id = done.invitation.id ∧
    row.tenantId = done.invitation.tenantId ∧ row.redeemedAt = some done.occurredAt ∧
    row.redeemedBy = some done.userId ∧ row.revokedAt = none ∧ done.occurredAt < row.expiresAt
  membership : done.membership ∈ store.members.rows
  tenantId : done.membership.tenantId = done.invitation.tenantId
  userId : done.membership.userId = done.userId
  state : done.membership.state = .active

section Store

variable {store later : TenancyStore} {op : TenancyOp} {oracle : TenancyOracle}

/-- The memberships grow by those of the redemptions, and by nothing else. -/
theorem members_of_handle {answer : Except String op.Value}
    (hanswer : TenancyStore.handle store op oracle = some (later, answer)) :
    later.members.rows =
      store.members.rows ++ ((redemption ⟨op, answer⟩).map (·.membership)).toList := by
  cases answer with
  | error message =>
    have hnone : redemption ⟨op, .error message⟩ = none := by
      cases op <;> rfl
    rw [hnone, eq_of_thrown hanswer]
    simp
  | ok value =>
    cases changes_of_handle hanswer with
    | read hop hread =>
      have hnone : redemption ⟨op, .ok value⟩ = none := by
        cases op with
        | commitRedemption => cases hop
        | _ => rfl
      rw [hnone]
      simp
    | counted tokenHash now => exact (List.append_nil _).symm
    | redeemed hopen hinsert => exact rows_of_insert hinsert
    | lostRace => exact (List.append_nil _).symm
    | revoked tenantId invitationId now =>
      have hsame : (store.revoke tenantId invitationId now).1.members = store.members := by
        unfold TenancyStore.revoke
        split_ifs <;> rfl
      rw [hsame]
      exact (List.append_nil _).symm

theorem leavesBehind_of_commit {invitation : TenantInvitation} {userId : UserId}
    {occurredAt : Instant} {membership : TenantMembership}
    (hanswer : TenancyStore.handle store (.commitRedemption invitation userId occurredAt) oracle =
      some (later, .ok (some membership))) :
    LeavesBehind later ⟨invitation, userId, occurredAt, membership⟩ := by
  generalize hvalue : some membership = value at hanswer
  cases changes_of_handle hanswer with
  | read hop hread => cases hop
  | lostRace => cases hvalue
  | redeemed hopen hinsert =>
    obtain rfl := Option.some.inj hvalue
    obtain ⟨row, hrow, hcondition⟩ := exists_of_count_ne_zero hopen
    obtain ⟨hid, htenant, _, hrevoked, hexpiry⟩ := isRedeemable_iff.mp hcondition
    refine ⟨⟨_, mem_update_iff.mpr ⟨row, hrow, (if_pos hcondition).symm⟩, hid, htenant, rfl, rfl,
      hrevoked, hexpiry⟩, ?_, rfl, rfl, rfl⟩
    exact (mem_insert_iff hinsert).mpr (.inr rfl)

theorem leavesBehind_of_redemption {done : Redemption}
    {performed : TenancyPerformed}
    (hdone : redemption performed = some done)
    (hanswer : TenancyStore.handle store performed.1 oracle = some (later, performed.2)) :
    LeavesBehind later done := by
  obtain rfl := redemption_eq_some hdone
  exact leavesBehind_of_commit hanswer

theorem LeavesBehind.kept {done : Redemption} {fresh : InvitationRow → Prop}
    (hleaves : LeavesBehind store done)
    (hevolves : Evolves InvitationSucceeds fresh store.invitations later.invitations)
    (hmembers : ∀ row ∈ store.members.rows, row ∈ later.members.rows) :
    LeavesBehind later done := by
  obtain ⟨row, hrow, hid, htenant, hredeemedAt, hredeemedBy, hrevoked, hexpiry⟩ := hleaves.invitation
  obtain ⟨successor, hsuccessor, hnext⟩ := hevolves.kept row hrow
  have hclosed : row.IsClosed := .inl (by simp [hredeemedAt])
  obtain ⟨hnextAt, hnextBy, hnextRevoked⟩ := hnext.closed hclosed
  refine { hleaves with
    invitation := ⟨successor, hsuccessor, hnext.id.trans hid, hnext.tenantId.trans htenant,
      hnextAt.trans hredeemedAt, hnextBy.trans hredeemedBy, hnextRevoked.trans hrevoked, ?_⟩
    membership := hmembers _ hleaves.membership }
  rw [hnext.expiresAt]
  exact hexpiry

theorem members_subset_of_handle {answer : Except String op.Value}
    (hanswer : TenancyStore.handle store op oracle = some (later, answer)) :
    ∀ row ∈ store.members.rows, row ∈ later.members.rows := by
  intro row hrow
  rw [members_of_handle hanswer]
  exact List.mem_append_left _ hrow

theorem members_of_turn (store : TenancyStore) (turn : TenancyTurn) :
    (store.turn turn).members = store.members := by
  cases turn with
  | clock now => rfl
  | accounts accounts => rfl
  | invite row =>
    simp only [TenancyStore.turn]
    split <;> rfl

/-- What turns around the calls leaves every invitation as it is, and adds new ones. -/
theorem mem_invitations_of_turn {turn : TenancyTurn} {row : InvitationRow}
    (hrow : row ∈ (store.turn turn).invitations.rows) :
    row ∈ store.invitations.rows ∨
      IsFresh row ∧ ∀ other ∈ store.invitations.rows, other.id ≠ row.id := by
  cases turn with
  | clock now => exact .inl hrow
  | accounts accounts => exact .inl hrow
  | invite invited =>
    simp only [TenancyStore.turn] at hrow
    split at hrow
    · rename_i hinsert
      refine ((mem_insert_iff hinsert).mp hrow).imp_right ?_
      rintro rfl
      exact ⟨⟨rfl, rfl, rfl⟩, key_ne_of_insert hinsert⟩
    · exact .inl hrow

/-- A row as it is but for the count of failed attempts. -/
def InvitationRow.uncounted (row : InvitationRow) : InvitationRow :=
  { row with attempts := 0, updatedAt := 0 }

/-- The memberships are the same, and the invitations but for the count of failed attempts. -/
def LeavesAlone (store later : TenancyStore) : Prop :=
  later.members = store.members ∧
    later.invitations.rows.map InvitationRow.uncounted =
      store.invitations.rows.map InvitationRow.uncounted

theorem recordFailedAttempt_uncounted (table : InvitationTable) (tokenHash : String)
    (now : Instant) :
    (InvitationTable.recordFailedAttempt table tokenHash now).rows.map InvitationRow.uncounted =
      table.rows.map InvitationRow.uncounted := by
  unfold InvitationTable.recordFailedAttempt
  rw [rows_update, List.map_map]
  refine List.map_congr_left fun row _ ↦ ?_
  by_cases hcondition : InvitationTable.IsIdentifiedBy tokenHash row = true <;>
    simp [hcondition, InvitationRow.uncounted]

/-- An operation that neither redeems nor revokes leaves the store alone. -/
theorem leavesAlone_of_handle {answer : Except String op.Value}
    (hanswer : TenancyStore.handle store op oracle = some (later, answer))
    (hredeems : redemption ⟨op, answer⟩ = none)
    (hrevokes : ∀ tenantId invitationId now, op ≠ .revoke tenantId invitationId now) :
    LeavesAlone store later := by
  refine handled_of_changes LeavesAlone hanswer ⟨rfl, rfl⟩ fun value hvalue hchanges ↦ ?_
  subst hvalue
  cases hchanges with
  | read hop hread => exact ⟨rfl, rfl⟩
  | counted tokenHash now =>
    exact ⟨rfl, recordFailedAttempt_uncounted store.invitations tokenHash now⟩
  | redeemed hopen hinsert => cases hredeems
  | lostRace => exact ⟨rfl, rfl⟩
  | revoked tenantId invitationId now => exact absurd rfl (hrevokes tenantId invitationId now)

/-- Only a redemption makes a row a redeemed one. -/
theorem redeemed_of_handle {answer : Except String op.Value}
    (hanswer : TenancyStore.handle store op oracle = some (later, answer)) :
    ∀ row ∈ later.invitations.rows, row.redeemedAt ≠ none →
      (∃ old ∈ store.invitations.rows, old.id = row.id ∧ old.redeemedAt ≠ none) ∨
        ∃ done ∈ redemption ⟨op, answer⟩, done.invitation.id = row.id := by
  cases answer with
  | error message =>
    rw [eq_of_thrown hanswer]
    exact fun row hrow hredeemed ↦ .inl ⟨row, hrow, rfl, hredeemed⟩
  | ok value =>
    intro row hrow hredeemed
    cases changes_of_handle hanswer with
    | read hop hread => exact .inl ⟨row, hrow, rfl, hredeemed⟩
    | lostRace => exact .inl ⟨row, hrow, rfl, hredeemed⟩
    | counted tokenHash now =>
      obtain ⟨old, hold, rfl⟩ := mem_update_iff.mp hrow
      refine .inl ⟨old, hold, ?_⟩
      split_ifs at hredeemed ⊢ <;> exact ⟨rfl, hredeemed⟩
    | @redeemed invitation userId occurredAt id members hopen hinsert =>
      obtain ⟨old, hold, rfl⟩ := mem_update_iff.mp hrow
      by_cases hcondition : InvitationTable.IsRedeemable invitation occurredAt old = true
      · rw [if_pos hcondition]
        exact .inr ⟨_, rfl, (isRedeemable_iff.mp hcondition).1.symm⟩
      · rw [if_neg hcondition] at hredeemed ⊢
        exact .inl ⟨old, hold, rfl, hredeemed⟩
    | revoked tenantId invitationId now =>
      unfold TenancyStore.revoke at hrow
      split_ifs at hrow with hcount
      · exact .inl ⟨row, hrow, rfl, hredeemed⟩
      · obtain ⟨old, hold, rfl⟩ := mem_update_iff.mp hrow
        refine .inl ⟨old, hold, ?_⟩
        split_ifs at hredeemed ⊢ <;> exact ⟨rfl, hredeemed⟩

/-- What a call has read of an invitation stays true of it, but for its state. -/
def IsStillThere (store : TenancyStore) : TenancyPerformed → Prop
  | ⟨.findByTokenHash tokenHash, .ok (some invitation)⟩ =>
    tokenHash ≠ "" ∧ ∃ old : InvitationRow, old.toTenantInvitation = invitation ∧
      old.tokenHash = tokenHash ∧ ∃ row ∈ store.invitations.rows, InvitationSucceeds old row
  | _ => True

theorem isStillThere_evolves {performed : TenancyPerformed}
    {fresh : InvitationRow → Prop}
    (hevolves : Evolves InvitationSucceeds fresh store.invitations later.invitations)
    (hthere : IsStillThere store performed) : IsStillThere later performed := by
  unfold IsStillThere at hthere ⊢
  split
  · obtain ⟨hne, old, hread, hhash, row, hrow, hsucceeds⟩ := hthere
    obtain ⟨successor, hsuccessor, hnext⟩ := hevolves.kept row hrow
    exact ⟨hne, old, hread, hhash, successor, hsuccessor, hsucceeds.trans hnext⟩
  · trivial

theorem isStillThere_answered {answer : Except String op.Value}
    (hanswer : TenancyStore.handle store op oracle = some (later, answer)) :
    IsStillThere later ⟨op, answer⟩ := by
  unfold IsStillThere
  split
  · rename_i tokenHash invitation heq
    obtain ⟨rfl, hvalue⟩ := Sigma.mk.inj heq
    obtain rfl := eq_of_heq hvalue
    obtain ⟨rfl, row, hrow, hinvitation, hidentified⟩ := row_of_findByTokenHash hanswer
    obtain ⟨hne, hhash⟩ := isIdentifiedBy_iff.mp hidentified
    exact ⟨hne, row, hinvitation, hhash, row, hrow, invitationSucceeds_refl row⟩
  · trivial

end Store

/-! ### Runs -/

/-- Any interleaving of redeeming and revoking calls. -/
abbrev Reachable (libraries : TenancyLibraries) (store : TenancyStore) (c : TenancyConfiguration) :
    Prop :=
  Reaches (tenancyMachine libraries) (fun _ _ ↦ True) (.initial store) c

section Runs

variable {libraries : TenancyLibraries} {store : TenancyStore} {c : TenancyConfiguration}

theorem leavesBehind_history (hreaches : Reachable libraries store c) :
    ∀ occurrence ∈ c.history, ∀ done, redemption occurrence.performed = some done →
      LeavesBehind c.store done := by
  refine hreaches.history (fun performed store ↦ ∀ done, redemption performed = some done →
      LeavesBehind store done) (fun _ _ _ _ _ hanswer done hdone ↦ ?_)
    (fun _ _ _ _ _ _ hfact hanswer done hdone ↦ ?_) (fun _ before turn hfact done hdone ↦ ?_)
    fun _ h ↦ absurd h List.not_mem_nil
  · exact leavesBehind_of_redemption hdone hanswer
  · exact (hfact done hdone).kept (invitations_evolve hanswer) (members_subset_of_handle hanswer)
  · refine (hfact done hdone).kept (invitations_evolve_turn before turn) ?_
    show ∀ row ∈ before.members.rows, row ∈ (before.turn turn).members.rows
    rw [members_of_turn]
    exact fun row hrow ↦ hrow

theorem isStillThere_history (hreaches : Reachable libraries store c) :
    ∀ occurrence ∈ c.history, IsStillThere c.store occurrence.performed :=
  hreaches.history (fun performed store ↦ IsStillThere store performed)
    (fun _ _ _ _ _ hanswer ↦ isStillThere_answered hanswer)
    (fun _ _ _ _ _ _ hthere hanswer ↦ isStillThere_evolves (invitations_evolve hanswer) hthere)
    (fun _ before turn hthere ↦ isStillThere_evolves (invitations_evolve_turn before turn) hthere)
    fun _ h ↦ absurd h List.not_mem_nil

/-- An invitation of the start is still there. -/
theorem invitations_of_start (hreaches : Reachable libraries store c) :
    ∀ old ∈ store.invitations.rows, ∃ row ∈ c.store.invitations.rows,
      InvitationSucceeds old row := by
  have hstep : ∀ (before after : TenancyStore) (fresh : InvitationRow → Prop),
      Evolves InvitationSucceeds fresh before.invitations after.invitations →
      (∀ old ∈ store.invitations.rows, ∃ row ∈ before.invitations.rows,
        InvitationSucceeds old row) →
      ∀ old ∈ store.invitations.rows, ∃ row ∈ after.invitations.rows,
        InvitationSucceeds old row := by
    intro before after fresh hevolves hkept old hold
    obtain ⟨row, hrow, hsucceeds⟩ := hkept old hold
    obtain ⟨successor, hsuccessor, hnext⟩ := hevolves.kept row hrow
    exact ⟨successor, hsuccessor, hsucceeds.trans hnext⟩
  exact hreaches.store (fun later ↦ ∀ old ∈ store.invitations.rows,
      ∃ row ∈ later.invitations.rows, InvitationSucceeds old row)
    (fun before _ _ after _ hkept hanswer ↦
      hstep before after _ (invitations_evolve hanswer) hkept)
    (fun before turn hkept ↦ hstep before _ _ (invitations_evolve_turn before turn) hkept)
    fun old hold ↦ ⟨old, hold, invitationSucceeds_refl old⟩

/-! ### The law -/

/-- The redemptions of an invitation. -/
def redemptionsOf (c : TenancyConfiguration) (id : String) :
    List TenancyOccurrence :=
  c.history.filter fun occurrence ↦
    (redemption occurrence.performed).any fun done ↦ done.invitation.id = id

theorem mem_redemptionsOf {id : String}
    {occurrence : TenancyOccurrence} :
    occurrence ∈ redemptionsOf c id ↔ occurrence ∈ c.history ∧
      ∃ done ∈ redemption occurrence.performed, done.invitation.id = id := by
  simp [redemptionsOf, Option.any_eq_true]

/-- An invitation is redeemed at most once, and not at all where it was closed at the start. -/
def RedeemedAtMostOnce (store : TenancyStore) (c : TenancyConfiguration) : Prop :=
  ∀ id, (redemptionsOf c id).length ≤ 1 ∧
    ((∃ old ∈ store.invitations.rows, old.id = id ∧ old.IsClosed) → redemptionsOf c id = [])

/-- No invitation is both redeemed and revoked, unless it was so at the start. -/
def NeverBoth (store : TenancyStore) (c : TenancyConfiguration) : Prop :=
  ∀ row ∈ c.store.invitations.rows, row.IsBoth →
    ∃ old ∈ store.invitations.rows, old.id = row.id ∧ old.IsBoth

/-- A redeemed invitation is so from the start or by a redemption of the run, and the memberships are
those of the start and one for each redemption of the run. -/
def OnlyByRedemption (store : TenancyStore) (c : TenancyConfiguration) : Prop :=
  (∀ row ∈ c.store.invitations.rows, row.redeemedAt ≠ none →
    (∃ old ∈ store.invitations.rows, old.id = row.id ∧ old.redeemedAt ≠ none) ∨
      redemptionsOf c row.id ≠ []) ∧
  c.store.members.rows = store.members.rows ++
    c.history.reverse.filterMap fun occurrence ↦
      (redemption occurrence.performed).map (·.membership)

/-- A redemption belongs to its principal, who at some moment of the call had a verified address that
normalizes to the invited one, and at some moment of the call it was the instant of redemption. Its
membership is the only one of the redeemer in the tenant. -/
structure BoundToInvitee (libraries : TenancyLibraries) (store : TenancyStore)
    (c : TenancyConfiguration) (caller : ℕ) (done : Redemption) : Prop where
  asked : ∃ token actor redeemer, c.Asked caller (.redeemInvitation token actor) ∧
    requireRedeemer actor = .ok redeemer ∧ redeemer.userId = done.userId
  leaves : LeavesBehind c.store done
  only : ∀ other ∈ c.store.members.rows, other.tenantId = done.invitation.tenantId →
    other.userId = done.userId → other = done.membership
  verified : ∃ before request account row, Reachable libraries store before ∧
    Reaches (tenancyMachine libraries) (fun _ _ ↦ True) before c ∧
    before.next caller = some (request, .verifiedEmailOf done.userId) ∧
    before.store.accounts.findById done.userId = some account ∧
    account.emailVerifiedAt.isSome = true ∧ row ∈ c.store.invitations.rows ∧
    row.id = done.invitation.id ∧ normalizeInvitationEmail libraries account.email = row.email
  instant : ∃ before request, Reachable libraries store before ∧
    Reaches (tenancyMachine libraries) (fun _ _ ↦ True) before c ∧
    before.next caller = some (request, .now) ∧ before.store.clock = done.occurredAt

/-- A redeeming call that was refused, or that failed before it redeemed anything. -/
def Unredeemed (c : TenancyConfiguration) (caller : ℕ) : Prop :=
  ∃ token actor,
    (∃ error, c.Returned caller (.redeemInvitation token actor)
      (.redeemInvitation (.error error))) ∨
    (c.calls[caller]? = some ⟨.redeemInvitation token actor, .failed⟩ ∧
      ∀ performed ∈ logOf caller c.history, redemption performed = none)

/-- Every step of a redeeming call that redeems nothing leaves invitations and memberships alone. -/
def RefusalsLeaveAlone (libraries : TenancyLibraries) (store : TenancyStore)
    (c : TenancyConfiguration) : Prop :=
  ∀ caller before after oracle, Reachable libraries store before →
    (tenancyMachine libraries).step before (.advance caller oracle) = some after →
    Reaches (tenancyMachine libraries) (fun _ _ ↦ True) after c → Unredeemed c caller →
      LeavesAlone before.store after.store

/-- A redemption finds its invitation open. -/
theorem open_of_redemption {op : TenancyOp} {answer : Except String op.Value}
    {oracle : TenancyOracle} {before later : TenancyStore}
    (hanswer : TenancyStore.handle before op oracle = some (later, answer)) {done : Redemption}
    (hdone : redemption ⟨op, answer⟩ = some done) :
    ∀ row ∈ before.invitations.rows, row.id = done.invitation.id → ¬ row.IsClosed := by
  obtain ⟨rfl, hvalue⟩ := Sigma.mk.inj (redemption_eq_some hdone)
  obtain rfl := eq_of_heq hvalue
  have hopen : before.invitations.count
      (InvitationTable.IsRedeemable done.invitation done.occurredAt) ≠ 0 := by
    generalize hvalue : some done.membership = value at hanswer
    cases changes_of_handle hanswer with
    | read hop hread => cases hop
    | lostRace => cases hvalue
    | redeemed hopen hinsert => exact hopen
  obtain ⟨found, hfound, hcondition⟩ := exists_of_count_ne_zero hopen
  obtain ⟨hid, _, hredeemed, hrevoked, _⟩ := isRedeemable_iff.mp hcondition
  intro row hrow hrowId hclosed
  obtain rfl : row = found := eq_of_key hrow hfound (hrowId.trans hid.symm)
  rcases hclosed with hclosed | hclosed
  · exact hclosed hredeemed
  · exact hclosed hrevoked

/-- The invitation that an operation has redeemed. -/
def redeemedInvitation (performed : TenancyPerformed) : Option String :=
  (redemption performed).map (·.invitation.id)

/-- A redeemed invitation was not redeemed before. -/
theorem redeemedInvitation_fresh (hreaches : Reachable libraries store c) {op : TenancyOp}
    {answer : Except String op.Value} {oracle : TenancyOracle} {later : TenancyStore} {id : String}
    (hanswer : TenancyStore.handle c.store op oracle = some (later, answer))
    (hclaim : redeemedInvitation ⟨op, answer⟩ = some id) :
    ∀ earlier ∈ c.history, redeemedInvitation earlier.performed ≠ some id := by
  intro earlier hearlier holder
  obtain ⟨done, hdone, rfl⟩ := Option.map_eq_some_iff.mp hclaim
  obtain ⟨first, hfirst, hid⟩ := Option.map_eq_some_iff.mp holder
  have hleaves := leavesBehind_history hreaches earlier hearlier first hfirst
  obtain ⟨row, hrow, hrowId, _, hredeemedAt, _⟩ := hleaves.invitation
  have hclosed : row.IsClosed := .inl (by simp [hredeemedAt])
  exact open_of_redemption hanswer hdone row hrow (hrowId.trans hid) hclosed

theorem length_redemptionsOf_le_one (hreaches : Reachable libraries store c) (id : String) :
    (redemptionsOf c id).length ≤ 1 := by
  have hapart := hreaches.claimed_once redeemedInvitation
    (fun _ _ _ _ _ _ _ _ _ hreaches _ _ hanswer hclaim ↦
      redeemedInvitation_fresh hreaches hanswer hclaim) rfl
  have hclaimed : ∀ occurrence ∈ redemptionsOf c id,
      redeemedInvitation occurrence.performed = some id := by
    intro occurrence hoccurrence
    obtain ⟨_, done, hdone, hid⟩ := mem_redemptionsOf.mp hoccurrence
    unfold redeemedInvitation
    rw [Option.mem_def.mp hdone, Option.map_some, hid]
  by_contra hlength
  match hlist : redemptionsOf c id, Nat.not_le.mp hlength with
  | second :: first :: rest, _ =>
    have hsublist : (second :: first :: rest).Sublist c.history := hlist ▸ List.filter_sublist
    have hpair := (List.pairwise_cons.mp (hapart.sublist hsublist)).1 first List.mem_cons_self
    rw [hlist] at hclaimed
    refine hpair id (hclaimed second List.mem_cons_self) ?_
    exact hclaimed first (List.mem_cons_of_mem _ List.mem_cons_self)

/-- An invitation that was closed at the start is not redeemed. -/
theorem redemptionsOf_closed (hreaches : Reachable libraries store c) {old : InvitationRow}
    (hold : old ∈ store.invitations.rows) (hclosed : old.IsClosed) : redemptionsOf c old.id = [] := by
  rw [List.eq_nil_iff_forall_not_mem]
  intro occurrence hoccurrence
  obtain ⟨hhistory, done, hdone, hid⟩ := mem_redemptionsOf.mp hoccurrence
  obtain ⟨recent, earlier, hsplit⟩ := List.append_of_mem hhistory
  obtain ⟨before, after, oracle, hbefore, hearlier, _, hstep, hafter, _⟩ :=
    hreaches.occurred rfl hsplit
  obtain ⟨given, request, next, _, _, hanswer⟩ :=
    performed_of_history_eq_cons hstep (hafter.trans (by rw [hearlier]))
  obtain ⟨row, hrow, hsucceeds⟩ := invitations_of_start hbefore old hold
  exact open_of_redemption hanswer hdone row hrow (hsucceeds.id.trans hid.symm)
    (hsucceeds.isClosed hclosed)

theorem redeemedAtMostOnce (hreaches : Reachable libraries store c) :
    RedeemedAtMostOnce store c := by
  refine fun id ↦ ⟨length_redemptionsOf_le_one hreaches id, ?_⟩
  rintro ⟨old, hold, rfl, hclosed⟩
  exact redemptionsOf_closed hreaches hold hclosed

theorem neverBoth (hreaches : Reachable libraries store c) : NeverBoth store c := by
  have hstep : ∀ (before after : TenancyStore) (fresh : InvitationRow → Prop),
      (∀ row, fresh row → ¬ row.IsBoth) →
      Evolves InvitationSucceeds fresh before.invitations after.invitations →
      (∀ row ∈ before.invitations.rows, row.IsBoth →
        ∃ old ∈ store.invitations.rows, old.id = row.id ∧ old.IsBoth) →
      ∀ row ∈ after.invitations.rows, row.IsBoth →
        ∃ old ∈ store.invitations.rows, old.id = row.id ∧ old.IsBoth := by
    intro before after fresh hfresh hevolves hkept row hrow hboth
    rcases hevolves.origin row hrow with ⟨earlier, hearlier, hsucceeds⟩ | ⟨hnew, _⟩
    · obtain ⟨old, hold, hid, holdBoth⟩ := hkept earlier hearlier (hsucceeds.apart hboth)
      exact ⟨old, hold, hid.trans hsucceeds.id.symm, holdBoth⟩
    · exact absurd hboth (hfresh row hnew)
  exact hreaches.store (fun later ↦ ∀ row ∈ later.invitations.rows, row.IsBoth →
      ∃ old ∈ store.invitations.rows, old.id = row.id ∧ old.IsBoth)
    (fun before _ _ after _ hkept hanswer ↦
      hstep before after _ (fun _ h ↦ h.elim) (invitations_evolve hanswer) hkept)
    (fun before turn hkept ↦
      hstep before _ _ (fun _ hfresh hboth ↦ hboth.1 hfresh.1)
        (invitations_evolve_turn before turn) hkept)
    fun row hrow hboth ↦ ⟨row, hrow, rfl, hboth⟩

theorem redemptionsOf_ne_nil {id : String}
    {occurrence : TenancyOccurrence}
    (hoccurrence : occurrence ∈ c.history) {done : Redemption}
    (hdone : redemption occurrence.performed = some done) (hid : done.invitation.id = id) :
    redemptionsOf c id ≠ [] :=
  List.ne_nil_of_mem (mem_redemptionsOf.mpr ⟨hoccurrence, done, hdone, hid⟩)

theorem onlyByRedemption (hreaches : Reachable libraries store c) : OnlyByRedemption store c := by
  induction hreaches with
  | refl => exact ⟨fun row hrow hredeemed ↦ .inl ⟨row, hrow, rfl, hredeemed⟩,
      (List.append_nil _).symm⟩
  | step _ _ hstep ih =>
    cases steps_of_step_eq_some hstep with
    | start request => exact ih
    | end_ hcall => exact ih
    | @perform caller oracle request op next later answer hcall hanswer =>
      constructor
      · intro row hrow hredeemed
        rcases redeemed_of_handle hanswer row hrow hredeemed with
          ⟨earlier, hearlier, hid, hearlierRedeemed⟩ | ⟨done, hdone, hid⟩
        · rcases ih.1 earlier hearlier hearlierRedeemed with ⟨old, hold, holdId, holdRedeemed⟩ | hrun
          · exact .inl ⟨old, hold, holdId.trans hid, holdRedeemed⟩
          · obtain ⟨occurrence, hoccurrence⟩ := List.exists_mem_of_ne_nil _ hrun
            obtain ⟨hhistory, done, hdone, hdoneId⟩ := mem_redemptionsOf.mp hoccurrence
            exact .inr (redemptionsOf_ne_nil (List.mem_cons_of_mem _ hhistory) hdone
              (hdoneId.trans hid))
        · exact .inr (redemptionsOf_ne_nil List.mem_cons_self hdone hid)
      · show later.members.rows = _
        rw [members_of_handle hanswer, ih.2, List.append_assoc]
        refine congrArg (store.members.rows ++ ·) ?_
        rw [List.reverse_cons, List.filterMap_append]
        refine congrArg _ ?_
        cases hdone : redemption ⟨op, answer⟩ <;> simp [hdone]
    | turn tick =>
      constructor
      · intro row hrow hredeemed
        rcases mem_invitations_of_turn hrow with hearlier | ⟨hfresh, _⟩
        · exact ih.1 row hearlier hredeemed
        · exact absurd hfresh.1 hredeemed
      · show (TenancyStore.turn _ tick).members.rows = _
        rw [members_of_turn]
        exact ih.2

/-- The moment of the run at which a call read something. -/
theorem answered_at (hreaches : Reachable libraries store c) {caller : ℕ} {op : TenancyOp}
    {value : op.Value} (hop : op.writes = false)
    (hread : (⟨op, .ok value⟩ : TenancyPerformed) ∈ logOf caller c.history) :
    ∃ before request oracle, Reachable libraries store before ∧
      Reaches (tenancyMachine libraries) (fun _ _ ↦ True) before c ∧
      before.next caller = some (request, op) ∧
      before.store.answer op oracle = .ok (before.store, value) := by
  obtain ⟨recent, earlier, hsplit⟩ := List.append_of_mem (mem_logOf.mp hread)
  obtain ⟨before, after, oracle, hbefore, hearlier, hmet, hstep, hafter, hlater⟩ :=
    hreaches.occurred rfl hsplit
  obtain ⟨given, request, next, _, hcall, hanswer⟩ :=
    performed_of_history_eq_cons hstep (hafter.trans (by rw [hearlier]))
  have hnext : before.next caller = some (request, op) := by
    unfold Configuration.next
    rw [hcall]
  generalize hstore : after.store = later at hanswer
  cases changes_of_handle hanswer with
  | @read op value oracle _ hread =>
    exact ⟨before, request, oracle, hbefore, (Reaches.refl.step hmet hstep).trans hlater, hnext,
      hread⟩
  | counted => cases hop
  | redeemed => cases hop
  | lostRace => cases hop
  | revoked => cases hop

theorem boundToInvitee (hreaches : Reachable libraries store c)
    {occurrence : TenancyOccurrence}
    (hoccurrence : occurrence ∈ c.history) {done : Redemption}
    (hdone : redemption occurrence.performed = some done) :
    BoundToInvitee libraries store c occurrence.caller done := by
  obtain ⟨recent, earlier, hsplit⟩ := List.append_of_mem hoccurrence
  obtain ⟨request, hasked, hallowed⟩ :=
    hreaches.allowed (tenancy_honours libraries) (fun _ ↦ trivial) recent occurrence earlier hsplit
  rw [redemption_eq_some hdone] at hallowed
  obtain ⟨token, actor, redeemer, email, rfl, hactor, hredeemer, hread, hgate⟩ := hallowed
  obtain ⟨hexpiry, _, given, hgiven, hmatches⟩ := evaluateRedeemability_eq_ok hgate
  obtain rfl := Option.mem_def.mp hgiven
  have hlog : ∀ performed ∈ readings libraries token done.userId done.invitation done.occurredAt
      (some given), performed ∈ logOf occurrence.caller c.history := by
    intro performed hperformed
    rw [mem_logOf, hsplit]
    refine List.mem_append_right _ (List.mem_cons_of_mem _ ?_)
    exact mem_logOf.mp (hread.mem hperformed)
  have hleaves := leavesBehind_history hreaches occurrence hoccurrence done hdone
  refine
    { asked := ⟨token, actor, redeemer, hasked, hactor, hredeemer⟩
      leaves := hleaves
      only := fun other hother htenant huser ↦ ?_
      verified := ?_
      instant := ?_ }
  · refine eq_of_alt hother hleaves.membership ?_
    rw [htenant, huser, hleaves.tenantId, hleaves.userId]
  · obtain ⟨before, request, oracle, hbefore, hlater, hnext, hanswer⟩ :=
      answered_at hreaches rfl (hlog ⟨.verifiedEmailOf done.userId, .ok (some given)⟩ (by simp [readings]))
    have hverified : before.store.verifiedEmailOf done.userId = some given :=
      congrArg Prod.snd (Except.ok.inj hanswer)
    obtain ⟨account, haccount, hsome⟩ := Option.bind_eq_some_iff.mp hverified
    split_ifs at hsome with hemail
    obtain rfl := Option.some.inj hsome
    obtain ⟨_, old, hold, _, row, hrow, hsucceeds⟩ :=
      isStillThere_history hreaches _ (mem_logOf.mp (hlog
        ⟨.findByTokenHash (libraries.hashOf token), .ok (some done.invitation)⟩
        (by simp [readings])))
    refine ⟨before, request, account, row, hbefore, hlater, hnext, haccount, hemail, hrow, ?_, ?_⟩
    · rw [hsucceeds.id, ← hold]
    · rw [hmatches, hsucceeds.email, ← hold]
  · obtain ⟨before, request, oracle, hbefore, hlater, hnext, hanswer⟩ :=
      answered_at hreaches rfl (hlog ⟨.now, .ok done.occurredAt⟩ (by simp [readings]))
    exact ⟨before, request, hbefore, hlater, hnext, congrArg Prod.snd (Except.ok.inj hanswer)⟩

theorem refusalsLeaveAlone (hreaches : Reachable libraries store c) :
    RefusalsLeaveAlone libraries store c := by
  intro caller before after oracle hbefore hstep hafter hunredeemed
  obtain ⟨token, actor, hended⟩ := hunredeemed
  have hasked : c.Asked caller (.redeemInvitation token actor) := by
    rcases hended with ⟨error, hreturned⟩ | ⟨hfailed, _⟩
    · exact hreturned.asked
    · exact asked_of_call hfailed
  have hnone : ∀ performed ∈ logOf caller c.history, redemption performed = none := by
    rcases hended with ⟨error, hreturned⟩ | ⟨_, hnone⟩
    · exact (hreaches.bound (tenancy_honours libraries) fun _ ↦ trivial).post (Nat.zero_le _)
        hreturned
    · exact hnone
  cases steps_of_step_eq_some hstep with
  | @perform _ _ request op next later answer hcall hanswer =>
    obtain ⟨recent, hhistory⟩ := hafter.history_suffix
    have hperformed : (⟨op, answer⟩ : TenancyPerformed) ∈ logOf caller c.history := by
      rw [mem_logOf, hhistory]
      exact List.mem_append_right _ List.mem_cons_self
    have hrequest : request = .redeemInvitation token actor :=
      (hafter.asked (asked_step hstep (asked_of_call hcall))).unique hasked
    refine leavesAlone_of_handle hanswer (hnone _ hperformed) ?_
    rintro tenantId invitationId now rfl
    obtain ⟨_, _, hrevoking⟩ :=
      (hbefore.bound (tenancy_honours libraries) fun _ ↦ trivial).allowed (Nat.zero_le _) hcall
    rw [hrequest] at hrevoking
    cases hrevoking
  | end_ hcall => exact ⟨rfl, rfl⟩

/-- Redemption is one-time and bound to the invitee, over any interleaving of calls. -/
theorem redemption_once (hreaches : Reachable libraries store c) :
    RedeemedAtMostOnce store c ∧ NeverBoth store c ∧ OnlyByRedemption store c ∧
      (∀ occurrence ∈ c.history, ∀ done, redemption occurrence.performed = some done →
        BoundToInvitee libraries store c occurrence.caller done) ∧
      RefusalsLeaveAlone libraries store c :=
  ⟨redeemedAtMostOnce hreaches, neverBoth hreaches, onlyByRedemption hreaches,
    fun _ hoccurrence _ hdone ↦ boundToInvitee hreaches hoccurrence hdone,
    refusalsLeaveAlone hreaches⟩

end Runs

/-! ### A redemption -/

namespace ReferenceInvitation

open Identity.ReferenceLibraries

def libraries : TenancyLibraries where
  toLowerCase value := String.ofList (value.toList.map Char.toLower)
  hashOf rawToken := "sha256:" ++ rawToken

def tenant : TenantId := ⟨"22222222-2222-4222-8222-222222222222", isUuid_twos⟩

def inviter : UserId := ⟨"33333333-3333-4333-8333-333333333333", isUuid_threes⟩

def token : String := "abcdefghijklmnopqrstuvwxyz"

def invitation : InvitationRow where
  id := "invitation"
  tenantId := tenant
  email := "owner@example.com"
  roleHint := "MEMBER"
  expiresAt := 1000
  redeemedAt := none
  redeemedBy := none
  revokedAt := none
  attempts := 0
  maxAttempts := 1
  createdBy := inviter
  createdAt := 0
  updatedAt := 0
  tokenHash := libraries.hashOf token

def store : TenancyStore where
  invitations := single invitation
  members := .empty
  accounts := ownerStore.accounts
  clock := 10

/-- A user id redeems the invitation. -/
def redeeming (userId : UserId) : TenancyRequest := .redeemInvitation token (some ⟨userId.value, none⟩)

/-- The transaction of the owner runs in the owner's own context. -/
def narrow : TenancyOracle where
  id := "membership"
  evidence := some ⟨some tenant.value, some owner.value, "karar_app", false, false⟩

/-- The owner redeems to the end. -/
def schedule : List TenancyEvent :=
  [.start (redeeming owner)] ++ List.replicate 7 (.advance 0 narrow)

def redeemed : TenancyConfiguration :=
  (tenancyMachine libraries).finish (fun _ _ ↦ True) (.initial store) schedule

end ReferenceInvitation

open ReferenceInvitation in
theorem redemption_once_redeemed : RedeemedAtMostOnce store redeemed ∧
    (redemptionsOf redeemed "invitation").length = 1 ∧
    redeemed.store.members.rows.length = 1 := by
  have hreaches : Reachable libraries store redeemed := reaches_finish schedule
  exact ⟨(redemption_once hreaches).1, by decide, by decide⟩

end Karar.Tenancy
