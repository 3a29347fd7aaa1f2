import Karar.Jurisdiction.Conduct
import Karar.Jurisdiction.WindowHistory

/-!
# Verified assignments and self-declarations

A self-declaration must not end or shadow a verified assignment in effect at its instant. The guard
of `DeclareOwnJurisdiction` reads the one row that is picked, and `endOpen` ends whatever is open
later. `not_supersedes` says under which condition on the steps of a run no declaration supersedes a
verified assignment; `operatorHistory` is a run that leads to one that does.
-/

namespace Karar.Jurisdiction

open Foundation SharedKernel

/-- A row of the declaring principal that is verified and in effect at the declaration instant. -/
def VerifiedAt (table : AssignmentTable) (input : DeclareOwnJurisdiction.Input)
    (row : UserJurisdictionAssignment) : Prop :=
  row ∈ table.rowsOf input.principal ∧ row.verificationStatus = .verified ∧
    row.window.Covers input.now

instance (table : AssignmentTable) (input : DeclareOwnJurisdiction.Input)
    (row : UserJurisdictionAssignment) : Decidable (VerifiedAt table input row) :=
  inferInstanceAs (Decidable (_ ∧ _ ∧ _))

/-- The row covers the declaration instant and is not verified. -/
def Shadows (input : DeclareOwnJurisdiction.Input) (row : UserJurisdictionAssignment) : Prop :=
  row.IsOf input.principal ∧ row.verificationStatus = .unverified ∧ row.window.Covers input.now

instance (input : DeclareOwnJurisdiction.Input) (row : UserJurisdictionAssignment) :
    Decidable (Shadows input row) :=
  inferInstanceAs (Decidable (_ ∧ _ ∧ _))

/-- Between two tables a verified row in effect is ended, or an unverified one is put beside it. -/
def Supersedes (before after : AssignmentTable) (input : DeclareOwnJurisdiction.Input) : Prop :=
  ∃ row ∈ before.rows, VerifiedAt before input row ∧
    (row ∉ after.rows ∨
      ∃ shadow ∈ after.rows, shadow.id ∉ before.rows.map (·.id) ∧ Shadows input shadow)

instance (before after : AssignmentTable) (input : DeclareOwnJurisdiction.Input) :
    Decidable (Supersedes before after input) :=
  inferInstanceAs (Decidable (∃ row ∈ before.rows, _ ∧ (_ ∨ ∃ shadow ∈ after.rows, _)))

/-- The row that is picked hides a verified one from the declaration, which goes on. -/
def Hidden (table : AssignmentTable) (input : DeclareOwnJurisdiction.Input) : Prop :=
  GoesOn input (table.listForPrincipal input.principal) ∧
    ∃ row ∈ table.rowsOf input.principal, VerifiedAt table input row

instance (table : AssignmentTable) (input : DeclareOwnJurisdiction.Input) :
    Decidable (Hidden table input) :=
  inferInstanceAs (Decidable (_ ∧ ∃ row ∈ table.rowsOf input.principal, _))

/-- The declaration that a call still has to record. -/
def pendingDeclaration (c : AssignmentConfiguration) (caller : ℕ) :
    Option DeclareOwnJurisdiction.Input :=
  match c.next caller with
  | some (.declare input, _) => if Pending input (logOf caller c.history) then some input else none
  | _ => none

/-- No declaration on its way is of the row's principal and of an instant that the row covers. -/
def Undeclared (c : AssignmentConfiguration) (row : UserJurisdictionAssignment) : Prop :=
  ∀ caller < c.calls.length, ∀ input ∈ pendingDeclaration c caller,
    ¬ (row.IsOf input.principal ∧ row.window.Covers input.now)

instance (c : AssignmentConfiguration) (row : UserJurisdictionAssignment) :
    Decidable (Undeclared c row) :=
  inferInstanceAs (Decidable (∀ caller < c.calls.length, ∀ input ∈ pendingDeclaration c caller, _))

/-- At its reading no verified row is hidden from a declaration, and no verified row is inserted
between that reading and the insertion of the declared row. -/
def RespectsVerified (c : AssignmentConfiguration) (_ : ℕ) : AssignmentRequest → AssignmentOp → Prop
  | .declare input, .listForPrincipal _ => ¬ Hidden c.store.assignments input
  | .assign _, .insert _ row => row.verificationStatus = .verified → Undeclared c row
  | _, _ => True

instance (c : AssignmentConfiguration) (caller : ℕ) (request : AssignmentRequest)
    (op : AssignmentOp) : Decidable (RespectsVerified c caller request op) :=
  match request with
  | .declare input =>
    match op with
    | .listForPrincipal _ => inferInstanceAs (Decidable (¬ Hidden c.store.assignments input))
    | .authorize _ _ | .findJurisdiction _ | .findOpen _ | .endRows _ _ _ | .insert _ _ | .nextId
    | .record _ => isTrue trivial
  | .assign _ =>
    match op with
    | .insert _ row =>
      inferInstanceAs (Decidable (row.verificationStatus = .verified → Undeclared c row))
    | .authorize _ _ | .findJurisdiction _ | .listForPrincipal _ | .findOpen _ | .endRows _ _ _
    | .nextId | .record _ => isTrue trivial
  | .endAssignment _ => isTrue trivial

/-! ### The invariant -/

section Invariant

variable {c later : AssignmentConfiguration} {store : AssignmentStore}

/-- No verified row is in effect at the instant of a declaration on its way. -/
def NoneVerified (c : AssignmentConfiguration) : Prop :=
  ∀ caller input, pendingDeclaration c caller = some input →
    ∀ row, ¬ VerifiedAt c.store.assignments input row

theorem pendingDeclaration_eq_some {caller : ℕ} {input : DeclareOwnJurisdiction.Input}
    (hpending : pendingDeclaration c caller = some input) :
    (∃ op, c.next caller = some (.declare input, op)) ∧
      Pending input (logOf caller c.history) := by
  unfold pendingDeclaration at hpending
  split at hpending
  · rename_i asked op hnext
    split_ifs at hpending with hlog
    obtain rfl := Option.some.inj hpending
    exact ⟨⟨op, hnext⟩, hlog⟩
  · cases hpending

theorem pendingDeclaration_of_call {caller : ℕ} {input : DeclareOwnJurisdiction.Input}
    {op : AssignmentOp} {next : Except String op.Value → Program AssignmentOp
      (fun op ↦ Except String op.Value) (Except String AssignmentOutcome)}
    (hcall : c.calls[caller]? = some ⟨.declare input, .running (.call op next)⟩)
    (hpending : Pending input (logOf caller c.history)) :
    pendingDeclaration c caller = some input := by
  unfold pendingDeclaration
  rw [next_of_call hcall]
  exact if_pos hpending

/-- Ending rows brings no verified row into effect. -/
theorem verifiedAt_of_ended {table after : AssignmentTable} {principal : UserAssignmentPrincipal}
    {ids : List String} {endsAt : Instant} {input : DeclareOwnJurisdiction.Input}
    {row : UserJurisdictionAssignment}
    (hopen : ∀ row ∈ table.rows, AssignmentTable.IsSelected principal ids row →
      row.effectiveTo = none)
    (hrows : after.rows = table.rows.map (AssignmentTable.endRow principal ids endsAt))
    (hverified : VerifiedAt after input row) : ∃ old, VerifiedAt table input old := by
  obtain ⟨hmem, hstatus, hcovers⟩ := hverified
  obtain ⟨hrow, hof⟩ := AssignmentTable.mem_rowsOf.mp hmem
  rw [hrows] at hrow
  obtain ⟨old, hold, rfl⟩ := List.mem_map.mp hrow
  rw [AssignmentTable.isOf_endRow] at hof
  rw [AssignmentTable.endRow_verificationStatus] at hstatus
  refine ⟨old, AssignmentTable.mem_rowsOf.mpr ⟨hold, hof⟩, hstatus, ?_⟩
  exact AssignmentTable.endRow_window principal ids endsAt (hopen old hold) _ hcovers

/-- A verified row comes into effect by its insertion. -/
theorem verifiedAt_step {event : AssignmentEvent} {input : DeclareOwnJurisdiction.Input}
    {row : UserJurisdictionAssignment} (hstep : assignmentMachine.step c event = some later)
    (hverified : VerifiedAt later.store.assignments input row) :
    (∃ old, VerifiedAt c.store.assignments input old) ∨
      ∃ caller oracle request principal, event = .advance caller oracle ∧
        c.next caller = some (request, .insert principal row) := by
  cases Machine.steps_of_step_eq_some hstep with
  | start request => exact .inl ⟨row, hverified⟩
  | end_ hcall => exact .inl ⟨row, hverified⟩
  | turn register => exact .inl ⟨row, hverified⟩
  | @perform caller oracle request op next store answer hcall hanswer =>
    have hchanges := AssignmentStore.changes_of_answered hanswer
    replace hverified : VerifiedAt store.assignments input row := hverified
    generalize store.assignments = after at hchanges hverified
    cases hchanges with
    | kept answer => exact .inl ⟨row, hverified⟩
    | ended hopen hrows => exact .inl (verifiedAt_of_ended hopen hrows hverified)
    | @inserted principal new _ hof hopen hrows =>
      obtain ⟨hmem, hstatus, hcovers⟩ := hverified
      obtain ⟨hrow, hofInput⟩ := AssignmentTable.mem_rowsOf.mp hmem
      rw [hrows] at hrow
      rcases List.mem_append.mp hrow with hold | hnew
      · exact .inl ⟨row, AssignmentTable.mem_rowsOf.mpr ⟨hold, hofInput⟩, hstatus, hcovers⟩
      · obtain rfl := List.mem_singleton.mp hnew
        exact .inr ⟨caller, oracle, request, principal, rfl, next_of_call hcall⟩

/-- What a call adds to its log leaves a declaration on its way, or is the reading that lets it go
on. -/
theorem pending_of_cons {input : DeclareOwnJurisdiction.Input} {log : List AssignmentPerformed}
    {performed : AssignmentPerformed} (hpending : Pending input (performed :: log)) :
    Pending input log ∨ goesOnAfter input performed = true := by
  obtain ⟨hgoes, hinsert⟩ := hpending
  rw [List.any_cons, Bool.or_eq_false_iff] at hinsert
  rw [List.any_cons, Bool.or_eq_true] at hgoes
  rcases hgoes with hreads | hearlier
  · exact .inr hreads
  · exact .inl ⟨hearlier, hinsert.2⟩

theorem goesOnAfter_iff {input : DeclareOwnJurisdiction.Input} {performed : AssignmentPerformed} :
    goesOnAfter input performed = true ↔
      ∃ existing, performed = ⟨.listForPrincipal input.principal, .ok existing⟩ ∧
        GoesOn input existing := by
  constructor
  · intro hgoes
    unfold goesOnAfter at hgoes
    split at hgoes
    · obtain ⟨rfl, hexisting⟩ := of_decide_eq_true hgoes
      exact ⟨_, rfl, hexisting⟩
    · cases hgoes
  · rintro ⟨existing, rfl, hexisting⟩
    simp [goesOnAfter, hexisting]

/-- A declaration comes to be on its way by its reading. -/
theorem pendingDeclaration_step {event : AssignmentEvent} {caller : ℕ}
    {input : DeclareOwnJurisdiction.Input}
    (hcallers : ∀ occurrence ∈ c.history, occurrence.caller < c.calls.length)
    (hstep : assignmentMachine.step c event = some later)
    (hpending : pendingDeclaration later caller = some input) :
    pendingDeclaration c caller = some input ∨
      ∃ oracle, event = .advance caller oracle ∧
        c.next caller = some (.declare input, .listForPrincipal input.principal) ∧
        GoesOn input (c.store.assignments.listForPrincipal input.principal) ∧
        later.store.assignments = c.store.assignments := by
  obtain ⟨⟨op, hnext⟩, hlog⟩ := pendingDeclaration_eq_some hpending
  obtain ⟨next, hcall⟩ := exists_call_of_next hnext
  cases Machine.steps_of_step_eq_some hstep with
  | turn register => exact .inl hpending
  | start request =>
    -- A call that starts has read nothing.
    have hlt : caller < c.calls.length := by
      obtain ⟨performed, hperformed, -⟩ := List.any_eq_true.mp hlog.1
      exact hcallers _ (mem_logOf.mp hperformed)
    rw [List.getElem?_append_left hlt] at hcall
    exact .inl (pendingDeclaration_of_call hcall hlog)
  | @end_ _ ender request endedOp rest hended =>
    have hne : ender ≠ caller := by
      rintro rfl
      rw [List.getElem?_set_self (List.getElem?_eq_some_iff.mp hended).1] at hcall
      cases hcall
    rw [List.getElem?_set_ne hne] at hcall
    exact .inl (pendingDeclaration_of_call hcall hlog)
  | @perform performer oracle request performed rest store answer hperformer hanswer =>
    by_cases hsame : performer = caller
    · subst hsame
      rw [List.getElem?_set_self (List.getElem?_eq_some_iff.mp hperformer).1] at hcall
      obtain rfl : request = .declare input := congrArg Call.request (Option.some.inj hcall)
      rw [logOf_cons_self] at hlog
      rcases pending_of_cons hlog with hearlier | hreads
      · exact .inl (pendingDeclaration_of_call hperformer hearlier)
      · obtain ⟨existing, heq, hgoes⟩ := goesOnAfter_iff.mp hreads
        cases heq
        obtain ⟨hexisting, hstore⟩ := AssignmentStore.existing_of_answered hanswer
        refine .inr ⟨oracle, rfl, next_of_call hperformer, hexisting ▸ hgoes, ?_⟩
        exact congrArg AssignmentStore.assignments hstore
    · rw [List.getElem?_set_ne hsame] at hcall
      rw [logOf_cons_of_ne hsame] at hlog
      exact .inl (pendingDeclaration_of_call hcall hlog)

theorem NoneVerified.step {event : AssignmentEvent} (hnone : NoneVerified c)
    (hcallers : ∀ occurrence ∈ c.history, occurrence.caller < c.calls.length)
    (hkeeps : Machine.Keeps assignmentMachine assignmentContract 0 c)
    (hmeets : Meets RespectsVerified c event)
    (hstep : assignmentMachine.step c event = some later) : NoneVerified later := by
  intro caller input hpending row hverified
  rcases pendingDeclaration_step hcallers hstep hpending with
    hbefore | ⟨oracle, rfl, hnext, hgoes, hsame⟩
  · rcases verifiedAt_step hstep hverified with
      ⟨old, hold⟩ | ⟨writer, oracle, request, principal, rfl, hinserts⟩
    · exact hnone caller input hbefore old hold
    · obtain ⟨next, hwriter⟩ := exists_call_of_next hinserts
      have hconduct := hkeeps.allowed (Nat.zero_le _) hwriter
      cases request with
      | endAssignment _ => exact hconduct
      | declare _ =>
        -- A declared row is not verified.
        exact absurd (hverified.2.1.symm.trans hconduct.2.1) (by simp)
      | assign _ =>
        have hundeclared : Undeclared c row := hmeets _ hinserts hverified.2.1
        obtain ⟨⟨op, hnext⟩, -⟩ := pendingDeclaration_eq_some hbefore
        obtain ⟨rest, hcall⟩ := exists_call_of_next hnext
        refine hundeclared caller (List.getElem?_eq_some_iff.mp hcall).1 input hbefore ⟨?_, ?_⟩
        · exact (AssignmentTable.mem_rowsOf.mp hverified.1).2
        · exact hverified.2.2
  · rw [hsame] at hverified
    have hrespects : ¬ Hidden c.store.assignments input := hmeets _ hnext
    exact hrespects ⟨hgoes, row, hverified.1, hverified⟩

/-! ### No declaration supersedes a verified assignment -/

theorem not_supersedes_self (table : AssignmentTable) (input : DeclareOwnJurisdiction.Input) :
    ¬ Supersedes table table input := by
  rintro ⟨row, hrow, -, hended | ⟨shadow, hshadow, hnew, -⟩⟩
  · exact hended hrow
  · exact hnew (List.mem_map_of_mem hshadow)

/-- A step of a declaration supersedes nothing where no verified row is in effect on its way. -/
theorem NoneVerified.keeps_verified (hnone : NoneVerified c)
    (hkeeps : Machine.Keeps assignmentMachine assignmentContract 0 c)
    {caller : ℕ} {oracle : AssignmentOracle} {input : DeclareOwnJurisdiction.Input}
    (hasked : c.Asked caller (.declare input))
    (hstep : assignmentMachine.step c (.advance caller oracle) = some later) :
    ¬ Supersedes c.store.assignments later.store.assignments input := by
  cases Machine.steps_of_step_eq_some hstep with
  | end_ hcall => exact not_supersedes_self _ _
  | @perform _ _ request op next store answer hcall hanswer =>
    obtain rfl : request = .declare input := (asked_of_call hcall).unique hasked
    have hconduct := hkeeps.allowed (Nat.zero_le _) hcall
    have hchanges := AssignmentStore.changes_of_answered hanswer
    show ¬ Supersedes c.store.assignments store.assignments input
    generalize store.assignments = after at hchanges
    cases hchanges with
    | kept answer => exact not_supersedes_self _ _
    | ended hopen hrows =>
      have hpending := pendingDeclaration_of_call hcall hconduct.2
      exact fun ⟨row, _, hverified, _⟩ ↦ hnone caller input hpending row hverified
    | inserted hof hopen hrows =>
      have hpending := pendingDeclaration_of_call hcall hconduct.2.2
      exact fun ⟨row, _, hverified, _⟩ ↦ hnone caller input hpending row hverified

theorem noneVerified_of_reaches
    (hreaches : assignmentMachine.Reaches (Meets RespectsVerified) (.initial store) c) :
    NoneVerified c ∧ Machine.Keeps assignmentMachine assignmentContract 0 c := by
  refine hreaches.keeps honours (fun _ _ ↦ trivial) ?_ (fun _ h ↦ absurd h List.not_mem_nil) ?_
  · intro c event later hreaches hnone hkeeps hmeets hstep
    have hcallers := hreaches.caller_lt fun _ h ↦ absurd h List.not_mem_nil
    exact hnone.step hcallers hkeeps hmeets hstep
  · intro caller input hpending
    obtain ⟨⟨op, hnext⟩, -⟩ := pendingDeclaration_eq_some hpending
    obtain ⟨next, hcall⟩ := exists_call_of_next hnext
    cases hcall

/-- In a run whose steps respect the verified rows, no step of a declaration supersedes one. -/
theorem not_supersedes
    (hreaches : assignmentMachine.Reaches (Meets RespectsVerified) (.initial store) c)
    {caller : ℕ} {oracle : AssignmentOracle} {input : DeclareOwnJurisdiction.Input}
    (hasked : c.Asked caller (.declare input))
    (hstep : assignmentMachine.step c (.advance caller oracle) = some later) :
    ¬ Supersedes c.store.assignments later.store.assignments input :=
  have hreached := noneVerified_of_reaches hreaches
  hreached.1.keeps_verified hreached.2 hasked hstep

end Invariant

/-! ### A verified assignment behind an unverified one -/

namespace Scenario

def declaration : DeclareOwnJurisdiction.Input := ⟨subject, "AE", 20⟩

/-- A verified assignment from 1 on, recorded while the unverified one runs, up to the declaration's
update of the open rows. -/
def backdating : List AssignmentEvent :=
  ending ++ serving 2 (assigning "AE" .providerVerified .verified 1 12) "second" 6 ++
    serving 3 (.declare declaration) "third" 4

def backdated : AssignmentConfiguration :=
  assignmentMachine.finish (fun _ _ ↦ True) (.initial store) backdating

/-- A verified assignment that ends before the declaration, up to the declaration's insertion. -/
def declaring : List AssignmentEvent :=
  serving 0 (assigning "SA" .providerVerified .verified 1 5) "first" 6 ++
    serving 1 (.endAssignment ⟨operator, subject.userId, subject.tenantId, 10, "moving", 10⟩) "" 4 ++
    serving 2 (.declare declaration) "second" 4

def declared : AssignmentConfiguration :=
  assignmentMachine.finish (Meets RespectsVerified) (.initial store) declaring

end Scenario

open Scenario in
theorem not_supersedes_declared : ∃ later,
    assignmentMachine.step declared (.advance 2 { id := "second" }) = some later ∧
      later.store.assignments.rows.length = 2 ∧
      ¬ Supersedes declared.store.assignments later.store.assignments declaration := by
  have hinserts : ((assignmentMachine.step declared (.advance 2 { id := "second" })).map
      (·.store.assignments.rows.length)) = some 2 := by decide +kernel
  obtain ⟨later, hstep, hlength⟩ := Option.map_eq_some_iff.mp hinserts
  have hasked : declared.Asked 2 (.declare declaration) := by decide
  exact ⟨later, hstep, hlength, not_supersedes (Machine.reaches_finish declaring) hasked hstep⟩

open Scenario in
theorem backdated_supersedes : ¬ ∀ store c later caller oracle input,
    assignmentMachine.Reaches (fun _ _ ↦ True) (.initial store) c →
      c.Asked caller (.declare input) →
      assignmentMachine.step c (.advance caller oracle) = some later →
      ¬ Supersedes c.store.assignments later.store.assignments input := by
  intro hlaw
  have hends : ∃ assignments ∈ (assignmentMachine.step backdated (.advance 3 {})).map
      (·.store.assignments), Supersedes backdated.store.assignments assignments declaration := by
    decide
  obtain ⟨assignments, hafter, hsupersedes⟩ := hends
  obtain ⟨later, hstep, rfl⟩ := Option.map_eq_some_iff.mp hafter
  have hasked : backdated.Asked 3 (.declare declaration) := by decide
  exact hlaw store backdated later 3 {} declaration (Machine.reaches_finish backdating) hasked hstep
    hsupersedes

end Karar.Jurisdiction
