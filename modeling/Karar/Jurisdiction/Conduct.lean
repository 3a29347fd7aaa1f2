import Karar.Jurisdiction.UserAssignments

/-!
# What the use cases do

The contract of the three use cases: a declaration ends and inserts rows only after it has read a
state that lets it go on, and inserts an unverified row; ending inserts nothing.
-/

namespace Karar.Jurisdiction

open Foundation SharedKernel

/-- The assignments as read let the declaration go on to record its own. -/
def GoesOn (input : DeclareOwnJurisdiction.Input) (existing : List UserJurisdictionAssignment) :
    Prop :=
  match effectiveJurisdictionState existing input.now with
  | .none => True
  | .unverified assignment => assignment.jurisdictionCode ≠ input.jurisdictionCode
  | .verified _ => False

instance (input : DeclareOwnJurisdiction.Input) (existing : List UserJurisdictionAssignment) :
    Decidable (GoesOn input existing) := by
  unfold GoesOn
  split <;> infer_instance

/-- The declaration's reading of the assignments, after which it goes on. -/
def goesOnAfter (input : DeclareOwnJurisdiction.Input) : AssignmentPerformed → Bool
  | ⟨.listForPrincipal principal, .ok existing⟩ =>
    decide (principal = input.principal ∧ GoesOn input existing)
  | _ => false

def isInsert : AssignmentPerformed → Bool
  | ⟨.insert _ _, _⟩ => true
  | _ => false

/-- The declaration has decided to record, and has not inserted its row. -/
def Pending (input : DeclareOwnJurisdiction.Input) (log : List AssignmentPerformed) : Prop :=
  log.any (goesOnAfter input) = true ∧ log.any isInsert = false

instance (input : DeclareOwnJurisdiction.Input) (log : List AssignmentPerformed) :
    Decidable (Pending input log) :=
  inferInstanceAs (Decidable (_ ∧ _))

/-- What a call may perform, given what it performed before. -/
def Conduct (log : List AssignmentPerformed) : AssignmentRequest → AssignmentOp → Prop
  | .declare input, .listForPrincipal principal => principal = input.principal
  | .declare input, .endRows principal _ _ => principal = input.principal ∧ Pending input log
  | .declare input, .insert principal row =>
    principal = input.principal ∧ row.verificationStatus = .unverified ∧ Pending input log
  | .endAssignment _, .insert _ _ => False
  | _, _ => True

def assignmentContract :
    Machine.Contract AssignmentOp (fun op ↦ Except String op.Value) AssignmentStore
      AssignmentRequest (Except String AssignmentOutcome) where
  invariant _ := True
  allowed request log op := Conduct log request op
  post _ _ _ := True

/-! ### Assigning and ending -/

theorem assign_honours (input : AssignUserJurisdiction.Input) :
    assignmentMachine.Honours assignmentContract (.assign input) :=
  (safe_of_uses (fun _ _ _ ↦ trivial) (Program.uses_true _)).mono fun _ _ _ ↦ trivial

def IsNotInsert : AssignmentOp → Prop
  | .insert _ _ => False
  | _ => True

theorem endOpen_uses (principal : UserAssignmentPrincipal) (endsAt : Instant) :
    (endOpen principal endsAt).run.Uses IsNotInsert := by
  unfold endOpen
  refine uses_throwing_bind (uses_ask trivial) fun ids ↦ ?_
  simp only [ne_eq]
  split_ifs
  · exact uses_return ids
  · exact uses_throwing_bind (uses_ask trivial) fun _ ↦ uses_return ids

theorem uses_requireNonEmpty {kind : AssignmentOp → Prop} (field value : String) :
    (requireNonEmpty field value).run.Uses kind := by
  unfold requireNonEmpty
  split_ifs
  · trivial
  · trivial

theorem endAssignment_honours (input : EndUserJurisdictionAssignment.Input) :
    assignmentMachine.Honours assignmentContract (.endAssignment input) := by
  have huses : (EndUserJurisdictionAssignment.execute input).run.Uses IsNotInsert := by
    unfold EndUserJurisdictionAssignment.execute
    refine uses_throwing_bind (uses_ask trivial) fun decision ↦ ?_
    cases decision with
    | error denied => trivial
    | ok _ =>
      refine uses_throwing_bind (uses_requireNonEmpty _ _) fun _ ↦ ?_
      refine uses_throwing_bind (uses_trying (endOpen_uses _ _)) fun ended ↦ ?_
      cases ended with
      | error failure => trivial
      | ok endedIds =>
        show ((if endedIds = [] then _ else _ : AssignmentStep _).run).Uses IsNotInsert
        split_ifs
        · trivial
        · refine uses_throwing_bind (uses_ask trivial) fun recorded ↦ ?_
          cases recorded <;> trivial
  have hwhole : (AssignmentRequest.execute (.endAssignment input)).run.Uses IsNotInsert :=
    uses_throwing_bind huses fun result ↦ trivial
  have hallowed : ∀ log op, IsNotInsert op →
      assignmentContract.allowed (.endAssignment input) log op := by
    intro log op hop
    cases op with
    | insert principal row => exact hop
    | _ => trivial
  exact (safe_of_uses hallowed hwhole).mono fun _ _ _ ↦ trivial

/-! ### Declaring -/

/-- What a declaration may do. -/
abbrev Declares (input : DeclareOwnJurisdiction.Input) {Result : Type}
    (post : List AssignmentPerformed → Except String Result → Prop)
    (log : List AssignmentPerformed) (step : AssignmentStep Result) : Prop :=
  Safe assignmentMachine.handler (fun _ ↦ True) (fun log op ↦ Conduct log (.declare input) op) post
    log step.run

section Declare

variable {input : DeclareOwnJurisdiction.Input} {log : List AssignmentPerformed}

theorem Pending.cons {performed : AssignmentPerformed} (hpending : Pending input log)
    (hinsert : isInsert performed = false) : Pending input (performed :: log) := by
  unfold Pending
  rw [List.any_cons, List.any_cons, hpending.1, hpending.2, hinsert]
  simp

theorem declares_endOpen {endsAt : Instant} (hpending : Pending input log) :
    Declares input (fun later _ ↦ Pending input later) log (endOpen input.principal endsAt) := by
  unfold endOpen
  refine safe_ask_then trivial (fun _ ↦ hpending.cons rfl) fun _ _ _ ids _ ↦ ?_
  have hread : Pending input (⟨.findOpen input.principal, .ok ids⟩ :: log) := hpending.cons rfl
  simp only [ne_eq]
  split_ifs
  · exact hread
  · exact safe_ask_then ⟨rfl, hread⟩ (fun _ ↦ hread.cons rfl) fun _ _ _ _ _ ↦ hread.cons rfl

/-- Superseding by an unverified row, from a state that let the declaration go on. -/
theorem declares_supersede {assignment : UserJurisdictionAssignment}
    {post : List AssignmentPerformed → Except String (List String) → Prop}
    (hpending : Pending input log) (hunverified : assignment.verificationStatus = .unverified)
    (hpost : ∀ later result, post later result) :
    Declares input post log (supersede input.principal assignment) := by
  unfold supersede
  refine safe_throwing_bind (declares_endOpen hpending) (fun _ _ _ ↦ hpost _ _) ?_
  intro later ids hlater
  refine safe_ask_then ⟨rfl, hunverified, hlater⟩ (fun _ ↦ hpost _ _) ?_
  exact fun _ _ _ _ _ ↦ hpost _ _

theorem declares_commit {register : JurisdictionRecord} (hpending : Pending input log) :
    Declares input (fun _ _ ↦ True) log (DeclareOwnJurisdiction.commit input register) := by
  unfold DeclareOwnJurisdiction.commit
  refine safe_ask_then trivial (fun _ ↦ trivial) fun _ _ _ id _ ↦ ?_
  refine safe_trying_bind (declares_supersede (hpending.cons rfl) rfl fun later result ↦ ?_)
  cases result with
  | error message => trivial
  | ok endedIds =>
    refine safe_ask_then trivial (fun _ ↦ trivial) fun _ _ _ recorded _ ↦ ?_
    cases recorded <;> trivial

/-- The rows as read let the declaration go on, or it ends. -/
theorem declares_decideOn {register : JurisdictionRecord}
    {existing : List UserJurisdictionAssignment} (hcode : register.code = input.jurisdictionCode)
    (hread : ⟨.listForPrincipal input.principal, .ok existing⟩ ∈ log)
    (hnone : log.any isInsert = false) :
    Declares input (fun _ _ ↦ True) log
      (DeclareOwnJurisdiction.decideOn input register
        (effectiveJurisdictionState existing input.now)) := by
  have hpending : GoesOn input existing → Pending input log := by
    intro hgoes
    refine ⟨List.any_eq_true.mpr ⟨_, hread, ?_⟩, hnone⟩
    simp [goesOnAfter, hgoes]
  unfold GoesOn at hpending
  cases hstate : effectiveJurisdictionState existing input.now with
  | none =>
    rw [hstate] at hpending
    exact declares_commit (hpending trivial)
  | verified assignment => trivial
  | unverified assignment =>
    rw [hstate] at hpending
    simp only [DeclareOwnJurisdiction.decideOn]
    split_ifs with hsame
    · trivial
    · exact declares_commit (hpending fun heq ↦ hsame (heq.trans hcode.symm))

theorem declare_honours (input : DeclareOwnJurisdiction.Input) :
    assignmentMachine.Honours assignmentContract (.declare input) := by
  have hdeclares : Declares input (fun _ _ ↦ True) [] (DeclareOwnJurisdiction.execute input) := by
    unfold DeclareOwnJurisdiction.execute
    refine safe_trying_bind (safe_ask trivial fun _ _ _ found hanswer ↦ ?_)
    match found, hanswer with
    | .error message, _ => trivial
    | .ok none, _ => trivial
    | .ok (some register), hanswer =>
      have hcode := AssignmentStore.code_of_answered hanswer
      cases hrefusal : declarabilityRefusalAt register input.now with
      | some refusal =>
        simp only [Except.mapError, hrefusal]
        trivial
      | none =>
        simp only [Except.mapError, hrefusal]
        refine safe_trying_bind (safe_ask rfl fun _ _ _ read _ ↦ ?_)
        cases read with
        | error message => trivial
        | ok existing => exact declares_decideOn hcode (by simp) (by simp [isInsert])
  exact safe_throwing_bind hdeclares (fun _ _ _ ↦ trivial) fun _ _ _ ↦ trivial

end Declare

theorem honours (request : AssignmentRequest) :
    assignmentMachine.Honours assignmentContract request := by
  cases request with
  | assign input => exact assign_honours input
  | endAssignment input => exact endAssignment_honours input
  | declare input => exact declare_honours input

end Karar.Jurisdiction
