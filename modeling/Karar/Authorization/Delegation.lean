import Karar.Authorization.RoleAdministration
import Karar.Foundation.Run

/-!
# The delegation rule

No actor grants authority it does not hold. `AssignRole` checks two things for this: that the actor
holds `authorization.role.assign`, and that a PLATFORM_ADMIN is minted by a PLATFORM_ADMIN. A
successful grant tells that the actor is a PLATFORM_ADMIN (`platformAdmin_of_assigned`), whose
permissions are not those of the other staff roles. The rule is kept when the granted role carries
nothing, is PLATFORM_ADMIN, or is one the actor holds (`Delegable`). In a run of such grants nobody
comes to hold a permission that none of the actors held at its start
(`assignRole_no_escalation`).
-/

namespace Karar.Authorization

open Karar.SharedKernel Karar.Foundation

/-! ### What a call does to the table -/

theorem createAssignment_eq_ok {surroundings : Surroundings} {rows : List RoleAssignment}
    {actor : PolicyActor} {target : RoleTarget} {row : RoleAssignment}
    (hcreated : createAssignment surroundings rows actor target = .ok row) :
    row = grantedRow surroundings actor target ∧ rows.any target.activeIn = false := by
  unfold createAssignment at hcreated
  cases hfailure : surroundings.writeFailure with
  | some message => simp [hfailure] at hcreated
  | none =>
    simp only [hfailure] at hcreated
    split_ifs at hcreated with hconflict
    exact ⟨(Except.ok.inj hcreated).symm, by simpa using hconflict⟩

/-- A grant either leaves the table and fails, or appends the row of an actor that may assign roles. -/
theorem assignRole_cases (surroundings : Surroundings) (rows : List RoleAssignment)
    (input : RoleInput) (actor : Option PolicyActor) :
    ((assignRole surroundings rows input actor).rows = rows ∧
      ∀ granted, (assignRole surroundings rows input actor).result ≠ .ok granted) ∨
    ∃ principal target, actor = some principal ∧ input.validate "grant" = .ok target ∧
      (authorize (surroundings.resolve rows) surroundings.decidedAt (some principal)
        "authorization.role.assign").allowed = true ∧
      rows.any target.activeIn = false ∧
      (assignRole surroundings rows input actor).rows =
        rows ++ [grantedRow surroundings principal target] ∧
      ∀ granted, (assignRole surroundings rows input actor).result = .ok granted →
        granted.1 = grantedRow surroundings principal target := by
  cases actor with
  | none => exact Or.inl ⟨rfl, fun granted ↦ by simp [assignRole, requirePolicyActor]⟩
  | some principal =>
    unfold assignRole
    rw [requirePolicyActor_some]
    cases hvalid : input.validate "grant" with
    | error error => exact Or.inl ⟨rfl, fun granted ↦ by simp⟩
    | ok target =>
      by_cases hscope : roleScopeAdmitsBinding target.roleId.scope target.tenantId.isSome = false
      · simp only [if_pos hscope]
        exact Or.inl ⟨trivial, fun granted ↦ by simp⟩
      by_cases hdenied : (authorize (surroundings.resolve rows) surroundings.decidedAt
          (some principal) "authorization.role.assign").allowed = false
      · simp only [if_neg hscope, if_pos hdenied]
        refine Or.inl ⟨trivial, fun granted ↦ ?_⟩
        cases surroundings.audit <;> simp
      · simp only [if_neg hscope, if_neg hdenied]
        cases mayDelegate surroundings rows principal target.roleId with
        | error message => exact Or.inl ⟨rfl, fun granted ↦ by simp⟩
        | ok delegates =>
          cases delegates with
          | false =>
            refine Or.inl ⟨rfl, fun granted ↦ ?_⟩
            cases surroundings.audit <;> simp
          | true =>
            cases hcreated : createAssignment surroundings rows principal target with
            | error error => exact Or.inl ⟨rfl, fun granted ↦ by simp⟩
            | ok row =>
              obtain ⟨rfl, hvacant⟩ := createAssignment_eq_ok hcreated
              refine Or.inr ⟨principal, target, rfl, rfl, by simpa using hdenied, hvacant, rfl, ?_⟩
              intro granted hgranted
              cases haudit : surroundings.audit with
              | error message => simp [haudit] at hgranted
              | ok failure =>
                simp only [haudit, Except.ok.injEq] at hgranted
                rw [← hgranted]

/-- A revocation leaves every row as it is or revoked. -/
theorem revokeRole_rows (surroundings : Surroundings) (rows : List RoleAssignment) (input : RoleInput)
    (actor : Option PolicyActor) :
    ∀ row ∈ (revokeRole surroundings rows input actor).rows,
      row ∈ rows ∨ row.status = .revoked := by
  cases actor with
  | none => exact fun row hrow ↦ Or.inl hrow
  | some principal =>
    unfold revokeRole
    rw [requirePolicyActor_some]
    cases input.validate "revocation" with
    | error error => exact fun row hrow ↦ Or.inl hrow
    | ok target =>
      dsimp only
      split_ifs
      · exact fun row hrow ↦ Or.inl hrow
      · cases hrevoked : revokeActive surroundings rows principal target with
        | error message => exact fun row hrow ↦ Or.inl hrow
        | ok written =>
          obtain ⟨revoked, after⟩ := written
          have hafter : ∀ row ∈ after, row ∈ rows ∨ row.status = .revoked := by
            unfold revokeActive at hrevoked
            cases hfailure : surroundings.writeFailure with
            | some message => simp [hfailure] at hrevoked
            | none =>
              cases hfind : rows.find? target.activeIn with
              | none =>
                simp only [hfailure, hfind, Except.ok.injEq, Prod.mk.injEq] at hrevoked
                rw [← hrevoked.2]
                exact fun row hrow ↦ Or.inl hrow
              | some found =>
                simp only [hfailure, hfind] at hrevoked
                split_ifs at hrevoked
                simp only [Except.ok.injEq, Prod.mk.injEq] at hrevoked
                rw [← hrevoked.2]
                intro row hrow
                obtain ⟨other, hother, rfl⟩ := List.mem_map.mp hrow
                split_ifs
                · exact Or.inr rfl
                · exact Or.inl hother
          cases revoked <;> exact hafter

/-! ### The rule for one call -/

/-- Every permission of the role is one that the actor's applicable assignments carry. -/
def AlreadyHeld (rows : List RoleAssignment) (actor : PolicyActor) (at_ : Instant) (role : RoleId) :
    Prop :=
  ∀ permission ∈ permissionsGrantedTo role,
    ∃ assignment ∈ applicable (listOwnActive rows actor at_) actor at_,
      permission ∈ permissionsGrantedTo assignment.roleId

/-- The role carries nothing, is PLATFORM_ADMIN, or is one of the actor's applicable roles. -/
def Delegable (rows : List RoleAssignment) (actor : PolicyActor) (at_ : Instant) (role : RoleId) :
    Prop :=
  permissionsGrantedTo role = [] ∨ role = .platformAdmin ∨
    role ∈ (applicable (listOwnActive rows actor at_) actor at_).map RoleAssignment.roleId

/-- An actor that the decision lets assign roles has an applicable PLATFORM_ADMIN assignment. -/
theorem platformAdmin_of_assigned {surroundings : Surroundings} {rows : List RoleAssignment}
    {principal : PolicyActor}
    (hallowed : (authorize (surroundings.resolve rows) surroundings.decidedAt (some principal)
      "authorization.role.assign").allowed = true) :
    ∃ assignment ∈ applicable (listOwnActive rows principal surroundings.decidedAt) principal
      surroundings.decidedAt, assignment.roleId = .platformAdmin := by
  by_cases hfails : surroundings.decisionStoreFails = true
  · exfalso
    revert hallowed
    simp only [authorize, requirePolicyActor_some, Surroundings.resolve, if_pos hfails]
    split_ifs <;> simp [deny]
  · have hresolve : authorize (surroundings.resolve rows) surroundings.decidedAt (some principal)
        "authorization.role.assign" =
        authorize (fun _ ↦ some (listOwnActive rows principal surroundings.decidedAt))
          surroundings.decidedAt (some principal) "authorization.role.assign" := by
      simp only [authorize, requirePolicyActor_some, Surroundings.resolve, if_neg hfails]
    rw [hresolve] at hallowed
    obtain ⟨assignment, happlicable, hcarries⟩ := authorize_allowed_iff.mp hallowed
    obtain ⟨granted, hgranted, htext⟩ := List.any_eq_true.mp hcarries
    have hassign : granted = .authorizationRoleAssign :=
      PermissionName.text_injective (beq_iff_eq.mp htext)
    exact ⟨assignment, happlicable, granted_roleAssign_iff.mp (hassign ▸ hgranted)⟩

/-- For an actor that may assign roles, the two sides of the rule agree. -/
theorem alreadyHeld_iff_delegable {rows : List RoleAssignment} {actor : PolicyActor} {at_ : Instant}
    {role : RoleId}
    (hadmin : ∃ assignment ∈ applicable (listOwnActive rows actor at_) actor at_,
      assignment.roleId = .platformAdmin) :
    AlreadyHeld rows actor at_ role ↔ Delegable rows actor at_ role := by
  constructor
  · intro hheld
    cases hgrants : permissionsGrantedTo role with
    | nil => exact Or.inl hgrants
    | cons permission rest =>
      have hpermission : permission ∈ permissionsGrantedTo role := by simp [hgrants]
      obtain ⟨assignment, happlicable, hcarried⟩ := hheld permission hpermission
      have hrole := role_unique_of_granted hcarried hpermission
      exact Or.inr (Or.inr (hrole ▸ List.mem_map_of_mem happlicable))
  · intro hdelegable permission hpermission
    rcases hdelegable with hnothing | hplatform | hown
    · simp [hnothing] at hpermission
    · obtain ⟨assignment, happlicable, hrole⟩ := hadmin
      exact ⟨assignment, happlicable, by rw [hrole, ← hplatform]; exact hpermission⟩
    · obtain ⟨assignment, happlicable, hrole⟩ := List.mem_map.mp hown
      exact ⟨assignment, happlicable, hrole ▸ hpermission⟩

/-! ### The rule for a run -/

/-- A call of one of the two use cases. -/
inductive RoleCall
  | assign (surroundings : Surroundings) (input : RoleInput) (actor : Option PolicyActor)
  | revoke (surroundings : Surroundings) (input : RoleInput) (actor : Option PolicyActor)

namespace RoleCall

/-- The table after a call. -/
def perform (rows : List RoleAssignment) : RoleCall → List RoleAssignment
  | assign surroundings input actor => (assignRole surroundings rows input actor).rows
  | revoke surroundings input actor => (revokeRole surroundings rows input actor).rows

/-- The call reads the clock at `start` or later, and the readings do not go back. -/
def From (start : Instant) : RoleCall → Prop
  | assign surroundings _ _ | revoke surroundings _ _ =>
    start ≤ surroundings.decidedAt ∧ surroundings.decidedAt ≤ surroundings.occurredAt

/-- The clock when the call writes. -/
def writtenAt : RoleCall → Instant
  | assign surroundings _ _ | revoke surroundings _ _ => surroundings.occurredAt

/-- A grant's actor is one of the principals. -/
def GrantedBy (principals : Set UserId) : RoleCall → Prop
  | assign _ _ actor => ∀ principal, actor = some principal → principal.userId ∈ principals
  | revoke _ _ _ => True

/-- What a grant gives is delegable by its actor, as the table stands before the call. -/
def KeepsRule (rows : List RoleAssignment) : RoleCall → Prop
  | assign surroundings input actor => ∀ principal target, actor = some principal →
    input.validate "grant" = .ok target →
      Delegable rows principal surroundings.decidedAt target.roleId
  | revoke _ _ _ => True

end RoleCall

/-- The calls of a run read one clock that does not go back. -/
def ClockOrdered : Instant → List RoleCall → Prop
  | _, [] => True
  | start, call :: rest => call.From start ∧ ClockOrdered call.writtenAt rest

/-- The clock when the last call of a run writes. -/
def lastWrite : Instant → List RoleCall → Instant
  | start, [] => start
  | _, call :: rest => lastWrite call.writtenAt rest

/-- One of the principals holds the permission at the instant, in some tenant context. -/
def HeldBy (principals : Set UserId) (rows : List RoleAssignment) (permission : PermissionName)
    (at_ : Instant) : Prop :=
  ∃ row ∈ rows, row.userId ∈ principals ∧ assignmentActiveAt row at_ = true ∧
    permission ∈ permissionsGrantedTo row.roleId

section Runs

variable {principals : Set UserId} {held : PermissionName → Prop} {rows : List RoleAssignment}
  {start : Instant}

/-- From an instant on, the principals' rows carry only permissions of a set. -/
def Confined (principals : Set UserId) (held : PermissionName → Prop) (rows : List RoleAssignment)
    (start : Instant) : Prop :=
  ∀ row ∈ rows, row.userId ∈ principals → ∀ at_, start ≤ at_ → assignmentActiveAt row at_ = true →
    ∀ permission ∈ permissionsGrantedTo row.roleId, held permission

/-- Assumes: the call keeps the rule and its actor is one of the principals. Then it keeps the
principals' permissions within the set. -/
theorem Confined.perform (hconfined : Confined principals held rows start) {call : RoleCall}
    (hclock : call.From start) (hactor : call.GrantedBy principals) (hrule : call.KeepsRule rows) :
    Confined principals held (call.perform rows) call.writtenAt := by
  cases call with
  | revoke surroundings input actor =>
    intro row hrow hprincipal at_ hat hactive
    rcases revokeRole_rows surroundings rows input actor row hrow with hkept | hrevoked
    · have hlater : start ≤ at_ := le_trans hclock.1 (le_trans hclock.2 hat)
      exact hconfined row hkept hprincipal at_ hlater hactive
    · simp [assignmentActiveAt, hrevoked] at hactive
  | assign surroundings input actor =>
    have hlater : ∀ at_, surroundings.occurredAt ≤ at_ → start ≤ at_ :=
      fun at_ hat ↦ le_trans hclock.1 (le_trans hclock.2 hat)
    rcases assignRole_cases surroundings rows input actor with
      ⟨hsame, -⟩ | ⟨principal, target, hsome, hvalid, hallowed, -, happended, -⟩
    · intro row hrow hprincipal at_ hat hactive
      simp only [RoleCall.perform, hsame] at hrow
      exact hconfined row hrow hprincipal at_ (hlater at_ hat) hactive
    · intro row hrow hprincipal at_ hat hactive permission hpermission
      simp only [RoleCall.perform, happended] at hrow
      rcases List.mem_append.mp hrow with hkept | hnew
      · exact hconfined row hkept hprincipal at_ (hlater at_ hat) hactive permission hpermission
      · -- The new row's role is one whose permissions the actor holds.
        rw [List.mem_singleton.mp hnew] at hpermission
        have hheld := (alreadyHeld_iff_delegable (platformAdmin_of_assigned hallowed)).mpr
          (hrule principal target hsome hvalid)
        obtain ⟨assignment, happlicable, hcarried⟩ := hheld permission hpermission
        obtain ⟨hassignment, hown, hassignmentActive, -⟩ :=
          mem_applicable_listOwnActive.mp happlicable
        have hmember : assignment.userId ∈ principals := hown ▸ hactor principal hsome
        exact hconfined assignment hassignment hmember surroundings.decidedAt hclock.1
          hassignmentActive permission hcarried

/-- Along a run of such calls the principals' permissions stay within the set. -/
theorem Confined.run (hconfined : Confined principals held rows start) {calls : List RoleCall}
    (hclock : ClockOrdered start calls) (hactors : ∀ call ∈ calls, call.GrantedBy principals)
    (hrule : EveryStep RoleCall.perform RoleCall.KeepsRule rows calls) :
    Confined principals held (calls.foldl RoleCall.perform rows) (lastWrite start calls) := by
  induction calls generalizing rows start with
  | nil => exact hconfined
  | cons call rest ih =>
    have hnext := hconfined.perform hclock.1 (hactors call List.mem_cons_self) hrule.1
    exact ih hnext hclock.2 (fun later hlater ↦ hactors later (List.mem_cons_of_mem _ hlater)) hrule.2

end Runs

/-- A grant that succeeds gives what its actor already holds, if and only if the role is delegable by
the actor. In every run whose grants are made by a set of principals and are delegable, no principal of
the set comes to hold a permission that none of them held at the start, where no row of the start was
written ahead of its time. -/
theorem assignRole_no_escalation (rows : List RoleAssignment) :
    (∀ (surroundings : Surroundings) (input : RoleInput) (actor : PolicyActor)
      (granted : RoleAssignment × Option AuditTrailFailure),
      (assignRole surroundings rows input (some actor)).result = .ok granted →
      (AlreadyHeld rows actor surroundings.decidedAt granted.1.roleId ↔
        Delegable rows actor surroundings.decidedAt granted.1.roleId)) ∧
    (∀ (principals : Set UserId) (start : Instant) (calls : List RoleCall),
      (∀ row ∈ rows, row.effectiveFrom ≤ start) → ClockOrdered start calls →
      (∀ call ∈ calls, call.GrantedBy principals) →
      EveryStep RoleCall.perform RoleCall.KeepsRule rows calls →
      ∀ (permission : PermissionName) (at_ : Instant), lastWrite start calls ≤ at_ →
        HeldBy principals (calls.foldl RoleCall.perform rows) permission at_ →
        HeldBy principals rows permission start) := by
  constructor
  · intro surroundings input actor granted hgranted
    rcases assignRole_cases surroundings rows input (some actor) with
      ⟨-, hfailed⟩ | ⟨principal, target, hsome, -, hallowed, -, -, -⟩
    · exact absurd hgranted (hfailed granted)
    · have hprincipal := Option.some.inj hsome
      subst hprincipal
      exact alreadyHeld_iff_delegable (platformAdmin_of_assigned hallowed)
  · intro principals start calls hsettled hclock hactors hrule permission at_ hat hheld
    have hstart : Confined principals (fun permission ↦ HeldBy principals rows permission start) rows
        start := by
      intro row hrow hprincipal later hlater hactive permission hpermission
      refine ⟨row, hrow, hprincipal, ?_, hpermission⟩
      have hfrom := hsettled row hrow
      simp only [assignmentActiveAt, Bool.and_eq_true, decide_eq_true_eq, beq_iff_eq,
        Option.isNone_iff_eq_none] at hactive ⊢
      refine ⟨⟨hactive.1.1, hfrom⟩, ?_⟩
      have hwindow := hactive.2
      cases hend : row.effectiveTo with
      | none => rfl
      | some finish =>
        simp only [hend, Option.all_some, decide_eq_true_eq] at hwindow ⊢
        exact lt_of_le_of_lt hlater hwindow
    obtain ⟨row, hrow, hprincipal, hactive, hpermission⟩ := hheld
    exact hstart.run hclock hactors hrule row hrow hprincipal at_ hat hactive permission hpermission

/-! ### A PLATFORM_ADMIN that grants itself SUPPORT -/

/-- A PLATFORM_ADMIN in the platform context. -/
def admin : PolicyActor where
  userId := ⟨"11111111-1111-4111-8111-111111111111", isUuid_ones⟩
  tenantId := none
  requestId := none

/-- The only assignment there is. -/
def adminRow : RoleAssignment where
  id := "33333333-3333-4333-8333-333333333333"
  userId := admin.userId
  roleId := .platformAdmin
  tenantId := none
  status := .active
  grantedBy := admin.userId
  reason := "seed"
  effectiveFrom := 0
  effectiveTo := none
  revokedAt := none
  revokedBy := none
  createdAt := 0

/-- Surroundings in which no port fails. -/
def calm : Surroundings where
  decidedAt := 1
  rolesReadAt := 1
  occurredAt := 1
  auditedAt := 1
  createdAt := 1
  newId := "44444444-4444-4444-8444-444444444444"
  decisionStoreFails := false
  rolesStoreFailure := none
  writeFailure := none
  checkViolation := "check constraint violated"
  audit := .ok none

/-- SUPPORT, platform-wide, for the admin itself. -/
def supportForAdmin : RoleInput := ⟨admin.userId.value, "SUPPORT", none, "on call"⟩

/-- The grant succeeds, and the admin holds `users.profile.read`, which nobody held before. -/
theorem admin_grants_itself_support :
    (∃ granted, (assignRole calm [adminRow] supportForAdmin (some admin)).result = .ok granted ∧
      ¬ AlreadyHeld [adminRow] admin calm.decidedAt granted.1.roleId) ∧
    ¬ HeldBy {admin.userId} [adminRow] .usersProfileRead 1 ∧
    HeldBy {admin.userId}
      ((RoleCall.assign calm supportForAdmin (some admin)).perform [adminRow]) .usersProfileRead 1 := by
  have hgranted : (assignRole calm [adminRow] supportForAdmin (some admin)).result =
      .ok (grantedRow calm admin ⟨admin.userId, .support, none, "on call"⟩, none) := by
    decide
  refine ⟨⟨_, hgranted, ?_⟩, ?_, ?_⟩
  · intro hheld
    obtain ⟨assignment, happlicable, hcarried⟩ := hheld .usersProfileRead (by decide)
    have hrow := (mem_applicable_listOwnActive.mp happlicable).1
    rw [List.mem_singleton.mp hrow] at hcarried
    revert hcarried
    decide
  · rintro ⟨row, hrow, -, -, hcarried⟩
    rw [List.mem_singleton.mp hrow] at hcarried
    revert hcarried
    decide
  · have hrows : (RoleCall.assign calm supportForAdmin (some admin)).perform [adminRow] =
        [adminRow, grantedRow calm admin ⟨admin.userId, .support, none, "on call"⟩] := by
      decide
    rw [hrows]
    exact ⟨_, List.mem_cons_of_mem _ List.mem_cons_self, rfl, by decide, by decide⟩

end Karar.Authorization
