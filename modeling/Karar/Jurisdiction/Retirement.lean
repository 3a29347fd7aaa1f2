import Karar.Jurisdiction.PackActivation

/-!
# What a retirement retires

A retirement is appended after its call has read a ledger in which its version is active
(`Conduct`). The append is a statement of its own, and the ledger takes any event at a new instant, so
the version may not be active any more when its retirement lands: another version can have been
activated since, which the retirement then takes out of effect. `retirements_law` says that this
happens exactly where the latest event of the ledger is not one that the retirement has read.
-/

namespace Karar.Jurisdiction.PackActivation

open Foundation SharedKernel

/-! ### What the use cases append -/

/-- The events of a ledger that a call has read. -/
def readBy (log : List PackPerformed) (code : String) (environment : PolicyEnvironment) :
    List PackActivationRecord :=
  log.flatMap fun
    | ⟨.listFor readCode readEnvironment, .ok events⟩ =>
      if readCode = code ∧ readEnvironment = environment then events else []
    | _ => []

/-- What a call may perform, given what it performed before: it retires a version that is active in
the ledger it has read. -/
def Conduct (_ : PackRequest) (log : List PackPerformed) : PackOp → Prop
  | .append event =>
    event.action = .retired →
      activeVersion (readBy log event.jurisdictionCode event.environment) = some event.packVersion
  | _ => True

def packContract :
    Machine.Contract PackOp (fun op ↦ Except String op.Value) PackStore PackRequest
      (Except String PackOutcome) where
  invariant _ := True
  allowed := Conduct
  post _ _ _ := True

/-- What a request may do. -/
abbrev Behaves (request : PackRequest) {Result : Type} (log : List PackPerformed)
    (step : PackStep Result) : Prop :=
  Safe packMachine.handler (fun _ ↦ True) (Conduct request) (fun _ _ ↦ True) log step.run

section Behaves

variable {request : PackRequest} {log : List PackPerformed}

theorem behaves_requireNonEmpty_bind {Result : Type} {field value : String}
    {rest : String → PackStep Result} (hrest : ∀ value, Behaves request log (rest value)) :
    Behaves request log (requireNonEmpty field value >>= rest) := by
  unfold requireNonEmpty
  split_ifs
  · trivial
  · exact hrest value

theorem behaves_commit {event : PackActivationRecord} {entry : AuditEntry}
    (hallowed : Conduct request log (.append event)) : Behaves request log (commit event entry) := by
  refine safe_trying_bind (safe_ask hallowed fun _ _ _ appended _ ↦ ?_)
  cases appended with
  | error message => trivial
  | ok _ =>
    refine safe_ask_then trivial (fun _ ↦ trivial) fun _ _ _ recorded _ ↦ ?_
    cases recorded <;> trivial

theorem behaves_retire_decideOn {input : PackInput} {code : String}
    {events : List PackActivationRecord} (hread : readBy log code input.environment = events) :
    Behaves request log (RetirePackVersion.decideOn input code (deriveActivePack events)) := by
  unfold RetirePackVersion.decideOn
  split_ifs with hother
  · trivial
  · refine safe_ask_then trivial (fun _ ↦ trivial) fun _ _ _ id _ ↦ ?_
    refine behaves_requireNonEmpty_bind fun reason ↦ behaves_commit fun _ ↦ ?_
    show activeVersion (readBy log code input.environment) = some input.pack.version
    rw [hread]
    exact not_not.mp hother

end Behaves

theorem activate_honours (input : PackInput) :
    packMachine.Honours packContract (.activate input) := by
  have hexecute : Behaves (.activate input) [] (ActivatePackVersion.execute input) := by
    unfold ActivatePackVersion.execute
    refine safe_ask_then trivial (fun _ ↦ trivial) fun _ _ _ decision _ ↦ ?_
    cases decision with
    | error denied => trivial
    | ok _ =>
      simp only [ne_eq]
      split_ifs
      · refine safe_trying_bind (safe_ask trivial fun _ _ _ found _ ↦ ?_)
        match found with
        | .error message => trivial
        | .ok none => trivial
        | .ok (some register) =>
          refine safe_trying_bind (safe_ask trivial fun _ _ _ read _ ↦ ?_)
          cases read with
          | error message => trivial
          | ok events =>
            show Behaves _ _ (ActivatePackVersion.decideOn input register.code _)
            unfold ActivatePackVersion.decideOn
            split_ifs
            · trivial
            · refine safe_ask_then trivial (fun _ ↦ trivial) fun _ _ _ id _ ↦ ?_
              refine behaves_requireNonEmpty_bind fun reason ↦ behaves_commit fun hretired ↦ ?_
              cases hretired
      · trivial
      · trivial
  exact safe_throwing_bind hexecute (fun _ _ _ ↦ trivial) fun _ _ _ ↦ trivial

theorem retire_honours (input : PackInput) : packMachine.Honours packContract (.retire input) := by
  have hexecute : Behaves (.retire input) [] (RetirePackVersion.execute input) := by
    unfold RetirePackVersion.execute
    refine safe_ask_then trivial (fun _ ↦ trivial) fun _ _ _ decision _ ↦ ?_
    cases decision with
    | error denied => trivial
    | ok _ =>
      refine safe_trying_bind (safe_ask trivial fun _ _ _ found _ ↦ ?_)
      match found with
      | .error message => trivial
      | .ok none => trivial
      | .ok (some register) =>
        refine safe_trying_bind (safe_ask trivial fun _ _ _ read _ ↦ ?_)
        cases read with
        | error message => trivial
        | ok events => exact behaves_retire_decideOn (by simp [readBy])
  exact safe_throwing_bind hexecute (fun _ _ _ ↦ trivial) fun _ _ _ ↦ trivial

def IsNotAppend : PackOp → Prop
  | .append _ => False
  | _ => True

theorem getActive_honours (jurisdictionCode : String) (environment : PolicyEnvironment) :
    packMachine.Honours packContract (.getActive jurisdictionCode environment) := by
  have hexecute : (GetActivePackVersion.execute jurisdictionCode environment).run.Uses
      IsNotAppend := by
    refine uses_throwing_bind (uses_trying (uses_ask trivial)) fun found ↦ ?_
    match found with
    | .error failure => trivial
    | .ok none => trivial
    | .ok (some register) =>
      refine uses_throwing_bind (uses_trying (uses_ask trivial)) fun read ↦ ?_
      cases read <;> trivial
  have hallowed : ∀ log op, IsNotAppend op →
      packContract.allowed (.getActive jurisdictionCode environment) log op := by
    intro log op hop
    cases op with
    | append event => exact hop.elim
    | _ => trivial
  have hwhole := uses_throwing_bind hexecute fun state ↦ uses_return (PackOutcome.state state)
  exact (safe_of_uses hallowed hwhole).mono fun _ _ _ ↦ trivial

theorem honours (request : PackRequest) : packMachine.Honours packContract request := by
  cases request with
  | activate input => exact activate_honours input
  | retire input => exact retire_honours input
  | getActive jurisdictionCode environment => exact getActive_honours jurisdictionCode environment

/-! ### What an operation does to the ledgers -/

/-- What the ledgers can become by an operation. -/
inductive LedgerChanges (table : LedgerTable) :
    (op : PackOp) → Except String op.Value → LedgerTable → Prop
  | kept {op : PackOp} (answer : Except String op.Value) : LedgerChanges table op answer table
  | appended {event : PackActivationRecord} {later : LedgerTable}
      (hentries : ∀ code environment, later.entries code environment =
        table.entries code environment ++
          if event.jurisdictionCode = code ∧ event.environment = environment then [event] else []) :
    LedgerChanges table (.append event) (.ok ()) later

section Answered

variable {store later : PackStore} {op : PackOp} {oracle : AssignmentOracle}

theorem perform_of_performOrFail {value : op.Value}
    (hperform : store.performOrFail op oracle = .ok (later, value)) :
    store.perform op oracle = .ok (later, value) := by
  unfold PackStore.performOrFail at hperform
  split at hperform
  · cases hperform
  · exact hperform

theorem entries_of_appended {event : PackActivationRecord}
    (hanswer : packMachine.handler store (.append event) oracle = some (later, .ok ())) :
    ∀ code environment, later.ledger.entries code environment =
      store.ledger.entries code environment ++
        if event.jurisdictionCode = code ∧ event.environment = environment then [event] else [] := by
  have hperform := perform_of_performOrFail (perform_of_answered hanswer)
  obtain ⟨ledger, happend, heq⟩ := bind_eq_ok hperform
  obtain ⟨rfl, -⟩ := Prod.mk.inj (Except.ok.inj heq)
  exact LedgerTable.append_eq_ok happend

theorem changes_of_answered {answer : Except String op.Value}
    (hanswer : packMachine.handler store op oracle = some (later, answer)) :
    LedgerChanges store.ledger op answer later.ledger := by
  cases answer with
  | error message =>
    have hsame : later = store := eq_of_thrown hanswer
    exact hsame ▸ .kept _
  | ok value =>
    cases op with
    | append event => exact .appended (entries_of_appended hanswer)
    | _ =>
      have hperform := perform_of_performOrFail (perform_of_answered hanswer)
      exact (Prod.mk.inj (Except.ok.inj hperform)).1 ▸ .kept _

theorem read_of_answered {code : String} {environment : PolicyEnvironment}
    {events : List PackActivationRecord}
    (hanswer : packMachine.handler store (.listFor code environment) oracle =
      some (later, .ok events)) :
    later = store ∧ events = store.ledger.listFor code environment := by
  have hperform := perform_of_performOrFail (perform_of_answered hanswer)
  obtain ⟨hlater, hevents⟩ := Prod.mk.inj (Except.ok.inj hperform)
  exact ⟨hlater.symm, hevents.symm⟩

theorem mem_entries_of_changes {answer : Except String op.Value} {table after : LedgerTable}
    (hchanges : LedgerChanges table op answer after) {event : PackActivationRecord} {code : String}
    {environment : PolicyEnvironment} (hevent : event ∈ table.entries code environment) :
    event ∈ after.entries code environment := by
  cases hchanges with
  | kept answer => exact hevent
  | appended hentries =>
    rw [hentries]
    exact List.mem_append_left _ hevent

end Answered

/-! ### A ledger and what was read of it -/

section Ledger

variable {events read : List PackActivationRecord} {version : String}

/-- The latest event was read, or activates the version. -/
def Unovertaken (events read : List PackActivationRecord) (version : String) : Prop :=
  ∀ event ∈ latest events, event ∈ read ∨ event.action = .activated ∧ event.packVersion = version

instance (events read : List PackActivationRecord) (version : String) :
    Decidable (Unovertaken events read version) :=
  inferInstanceAs (Decidable (∀ event ∈ latest events, _ ∨ _))

/-- A version that was active in what was read is the active one exactly if nothing has overtaken
it. -/
theorem activeVersion_iff_unovertaken (hdistinct : (events.map (·.occurredAt)).Nodup)
    (hread : ∀ event ∈ read, event ∈ events) (hactive : activeVersion read = some version) :
    activeVersion events = some version ↔ Unovertaken events read version := by
  obtain ⟨seen, hseen, hactivated, hversion⟩ := activeVersion_eq_some_iff.mp hactive
  constructor
  · intro hnow event hevent
    obtain ⟨found, hfound, haction, hsame⟩ := activeVersion_eq_some_iff.mp hnow
    obtain rfl : found = event := Option.some.inj (hfound.symm.trans hevent)
    exact .inr ⟨haction, hsame⟩
  · intro hunovertaken
    have hseenHere : seen ∈ events := hread seen (mem_of_latest hseen)
    cases hlatest : latest events with
    | none =>
      rw [latest_eq_none_iff.mp hlatest] at hseenHere
      exact absurd hseenHere List.not_mem_nil
    | some event =>
      refine activeVersion_eq_some_iff.mpr ⟨event, hlatest, ?_⟩
      rcases hunovertaken event hlatest with hknown | hreactivated
      · -- The latest event is the latest one that was read.
        have hinstant : event.occurredAt = seen.occurredAt :=
          le_antisymm (le_of_latest hseen hknown) (le_of_latest hlatest hseenHere)
        obtain rfl : event = seen :=
          eq_of_key_eq hdistinct (mem_of_latest hlatest) hseenHere hinstant
        exact ⟨hactivated, hversion⟩
      · exact hreactivated

/-- Every retirement retires the version that is active when it is appended. -/
def RetiresActive (events : List PackActivationRecord) : Prop :=
  ∀ earlier event rest, events = earlier ++ event :: rest → event.action = .retired →
    activeVersion earlier = some event.packVersion

theorem RetiresActive.nil : RetiresActive [] := by
  intro earlier event rest hsplit
  exact absurd hsplit.symm (List.append_ne_nil_of_right_ne_nil _ (List.cons_ne_nil _ _))

theorem retiresActive_concat {event : PackActivationRecord} : RetiresActive (events ++ [event]) ↔
    RetiresActive events ∧ (event.action = .retired → activeVersion events = some event.packVersion) := by
  constructor
  · intro hretires
    refine ⟨fun earlier found rest hsplit ↦ ?_, hretires events event [] rfl⟩
    refine hretires earlier found (rest ++ [event]) ?_
    rw [hsplit, List.append_assoc, List.cons_append]
  · rintro ⟨hbefore, hlast⟩ earlier found rest hsplit haction
    rcases List.eq_nil_or_concat rest with rfl | ⟨init, last, rfl⟩
    · obtain ⟨rfl, hsame⟩ := List.append_inj' hsplit rfl
      obtain rfl := List.head_eq_of_cons_eq hsame
      exact hlast haction
    · rw [List.concat_eq_append, ← List.cons_append, ← List.append_assoc] at hsplit
      exact hbefore earlier found init (List.append_inj' hsplit rfl).1 haction

/-- The ledger has an activation of the version, and no retirement. -/
def NeverRetired (events : List PackActivationRecord) (version : String) : Prop :=
  (∃ event ∈ events, event.action = .activated ∧ event.packVersion = version) ∧
    ∀ event ∈ events, event.packVersion = version → event.action ≠ .retired

instance (events : List PackActivationRecord) (version : String) :
    Decidable (NeverRetired events version) :=
  inferInstanceAs (Decidable ((∃ event ∈ events, _ ∧ _) ∧ ∀ event ∈ events, _ → _))

/-- No version is active any more, though another one was never retired. -/
def Strands (events : List PackActivationRecord) (event : PackActivationRecord) : Prop :=
  activeVersion (events ++ [event]) = none ∧
    ∃ version, version ≠ event.packVersion ∧ NeverRetired (events ++ [event]) version

theorem neverRetired_concat {event : PackActivationRecord} (hretired : event.action = .retired)
    (hne : version ≠ event.packVersion) :
    NeverRetired (events ++ [event]) version ↔ NeverRetired events version := by
  unfold NeverRetired
  simp [hretired, hne, or_imp, forall_and, eq_comm]

/-- Retiring the active version strands exactly those that it has superseded. -/
theorem strands_iff {event : PackActivationRecord} (hretired : event.action = .retired)
    (hactive : activeVersion events = some event.packVersion) :
    Strands events event ↔ (∀ other ∈ events, other.occurredAt < event.occurredAt) ∧
      ∃ version, version ≠ event.packVersion ∧ NeverRetired events version := by
  have hnever : (∃ version, version ≠ event.packVersion ∧
        NeverRetired (events ++ [event]) version) ↔
      ∃ version, version ≠ event.packVersion ∧ NeverRetired events version :=
    exists_congr fun version ↦ and_congr_right fun hne ↦ neverRetired_concat hretired hne
  unfold Strands
  rw [hnever]
  refine and_congr_left fun _ ↦ ⟨fun hnone ↦ ?_, fun hlater ↦ ?_⟩
  · by_contra hnot
    push Not at hnot
    obtain ⟨other, hother, hle⟩ := hnot
    rw [activeVersion_concat_of_le hother hle, hactive] at hnone
    cases hnone
  · rw [activeVersion_concat hlater]
    simp [hretired]

end Ledger

/-! ### Runs -/

/-- A retirement lands on a ledger whose latest event it has read, or which activates its version. -/
def LandsInTime (c : PackConfiguration) (caller : ℕ) (_ : PackRequest) : PackOp → Prop
  | .append event =>
    event.action = .retired →
      Unovertaken (c.store.ledger.entries event.jurisdictionCode event.environment)
        (readBy (logOf caller c.history) event.jurisdictionCode event.environment)
        event.packVersion
  | _ => True

instance (c : PackConfiguration) (caller : ℕ) (request : PackRequest) (op : PackOp) :
    Decidable (LandsInTime c caller request op) := by
  unfold LandsInTime
  split <;> infer_instance

section Run

variable {store : PackStore} {c later : PackConfiguration} {event : PackEvent}
  {condition : PackConfiguration → PackEvent → Prop}

/-- Whatever a call has read of a ledger is in it. -/
theorem mem_entries_of_readBy (hreaches : packMachine.Reaches condition (.initial store) c)
    (caller : ℕ) (code : String) (environment : PolicyEnvironment) :
    ∀ event ∈ readBy (logOf caller c.history) code environment,
      event ∈ c.store.ledger.entries code environment := by
  have hfacts := hreaches.history
    (fun performed store ↦ ∀ code environment events,
      performed = ⟨.listFor code environment, .ok events⟩ →
        ∀ event ∈ events, event ∈ store.ledger.entries code environment)
    (by
      rintro store op oracle later answer hanswer code environment events heq event hevent
      cases heq
      obtain ⟨rfl, rfl⟩ := read_of_answered hanswer
      exact LedgerTable.mem_listFor.mp hevent)
    (by
      rintro performed store op oracle later answer hread hanswer code environment events heq event
        hevent
      exact mem_entries_of_changes (changes_of_answered hanswer)
        (hread code environment events heq event hevent))
    (fun _ _ _ hread ↦ hread)
    (fun _ h ↦ absurd h List.not_mem_nil)
  intro event hevent
  unfold readBy at hevent
  obtain ⟨performed, hperformed, hmem⟩ := List.mem_flatMap.mp hevent
  split at hmem
  · rename_i readCode readEnvironment events
    split_ifs at hmem with hsame
    · obtain ⟨rfl, rfl⟩ := hsame
      exact hfacts _ (mem_logOf.mp hperformed) _ _ events rfl event hmem
    · exact absurd hmem List.not_mem_nil
  · exact absurd hmem List.not_mem_nil

/-- A retirement that is about to be appended retires the active version exactly if it lands in
time. -/
theorem activeVersion_iff_landsInTime (hreaches : packMachine.Reaches condition (.initial store) c)
    {caller : ℕ} {request : PackRequest} {record : PackActivationRecord}
    {next : Except String Unit → Program PackOp (fun op ↦ Except String op.Value)
      (Except String PackOutcome)}
    (hcall : c.calls[caller]? = some ⟨request, .running (.call (.append record) next)⟩)
    (hretired : record.action = .retired) :
    activeVersion (c.store.ledger.entries record.jurisdictionCode record.environment) =
        some record.packVersion ↔
      LandsInTime c caller request (.append record) := by
  have hkeeps := hreaches.bound honours fun _ ↦ trivial
  have hconduct : Conduct request (logOf caller c.history) (.append record) :=
    hkeeps.allowed (Nat.zero_le _) hcall
  rw [activeVersion_iff_unovertaken (LedgerTable.distinct_entries ..)
    (mem_entries_of_readBy hreaches caller _ _) (hconduct hretired)]
  exact ⟨fun h _ ↦ h, fun h ↦ h hretired⟩

/-- Every ledger has retired active versions only. -/
def AllRetireActive (store : PackStore) : Prop :=
  ∀ code environment, RetiresActive (store.ledger.entries code environment)

theorem allRetireActive_step (hreaches : packMachine.Reaches condition (.initial store) c)
    (hmeets : Meets LandsInTime c event) (hstep : packMachine.step c event = some later)
    (hretires : AllRetireActive c.store) : AllRetireActive later.store := by
  cases Machine.steps_of_step_eq_some hstep with
  | start request => exact hretires
  | end_ hcall => exact hretires
  | turn register => exact hretires
  | @perform caller oracle request op next store answer hcall hanswer =>
    have hlands := hmeets.performed hcall
    have hchanges := changes_of_answered hanswer
    intro code environment
    show RetiresActive (store.ledger.entries code environment)
    generalize store.ledger = after at hchanges
    cases hchanges with
    | kept answer => exact hretires code environment
    | @appended record _ hentries =>
      rw [hentries]
      split_ifs with hsame
      · obtain ⟨rfl, rfl⟩ := hsame
        refine retiresActive_concat.mpr ⟨hretires _ _, fun hretired ↦ ?_⟩
        exact (activeVersion_iff_landsInTime hreaches hcall hretired).mpr hlands
      · rw [List.append_nil]
        exact hretires code environment

theorem allRetireActive_of_reaches
    (hreaches : packMachine.Reaches (Meets LandsInTime) (.initial store) c)
    (hstart : AllRetireActive store) : AllRetireActive c.store := by
  induction hreaches with
  | refl => exact hstart
  | step hreaches hmeets hstep ih => exact allRetireActive_step hreaches hmeets hstep ih

/-- Where every retirement lands in time, each one has retired the version that was active. A
retirement that is appended next retires the active version exactly if it lands in time, and then no
version is active afterwards that was activated and never retired exactly if it is the latest event
and the version has superseded another one. -/
theorem retirements_law (hreaches : packMachine.Reaches (Meets LandsInTime) (.initial store) c)
    (hstart : AllRetireActive store) :
    AllRetireActive c.store ∧
      ∀ caller oracle request record later, c.next caller = some (request, .append record) →
        record.action = .retired →
        packMachine.step c (.advance caller oracle) = some later →
        later.history = ⟨caller, .append record, .ok ()⟩ :: c.history →
        (AllRetireActive later.store ↔ LandsInTime c caller request (.append record)) ∧
          (LandsInTime c caller request (.append record) →
            (Strands (c.store.ledger.entries record.jurisdictionCode record.environment) record ↔
              (∀ other ∈ c.store.ledger.entries record.jurisdictionCode record.environment,
                other.occurredAt < record.occurredAt) ∧
              ∃ version, version ≠ record.packVersion ∧
                NeverRetired (c.store.ledger.entries record.jurisdictionCode record.environment)
                  version)) := by
  have hretires := allRetireActive_of_reaches hreaches hstart
  refine ⟨hretires, fun caller oracle request record later hnext hretired hstep hhistory ↦ ?_⟩
  obtain ⟨next, hcall⟩ := exists_call_of_next hnext
  have hactive := activeVersion_iff_landsInTime hreaches hcall hretired
  obtain ⟨_, _, _, -, -, hanswer⟩ := Machine.performed_of_history_eq_cons hstep hhistory
  have hentries := entries_of_appended hanswer record.jurisdictionCode record.environment
  rw [if_pos ⟨rfl, rfl⟩] at hentries
  refine ⟨⟨fun hlater ↦ ?_, fun hlands ↦ ?_⟩, fun hlands ↦ ?_⟩
  · have hledger := hlater record.jurisdictionCode record.environment
    rw [hentries] at hledger
    exact hactive.mp ((retiresActive_concat.mp hledger).2 hretired)
  · have hmeets : Meets LandsInTime c (.advance caller oracle : PackEvent) := by
      intro asked hasked
      obtain rfl := Option.some.inj (hnext.symm.trans hasked)
      exact hlands
    exact allRetireActive_step hreaches hmeets hstep hretires
  · exact strands_iff hretired (hactive.mpr hlands)

end Run

/-! ### A retirement and an activation at the same time -/

namespace RetirementScenario

def operator : PolicyPrincipal := ⟨"user:operator", none⟩

def pack (version : String) : PolicyPack where
  jurisdiction := "ZZ-TEST"
  version := version
  lifecycle := .approved
  effectiveFrom := 0
  effectiveTo := none
  financialRulesets := []
  consentRequirements := .decided "basis"
  declaredPurposes := []
  processingBases := []
  retention := []
  identityRequirements := .decided "basis"
  disclosurePolicy := .decided "basis"
  approvalPolicies := []
  currencyPolicy := .decided "basis"
  aiProcessingPolicy := .decided "basis"
  clearedCapabilities := []
  resolutionStrategies := []
  approvalReference := some "approval"

def input (version : String) (now : Instant) : PackInput where
  principal := operator
  pack := pack version
  environment := .production
  reason := "reviewed"
  now := now

def store : PackStore := ⟨[⟨"ZZ-TEST", .approved, none, none⟩], .empty⟩

theorem allRetireActive_store : AllRetireActive store :=
  fun _ _ ↦ RetiresActive.nil

def steps (caller count : ℕ) (id : String) : List PackEvent :=
  List.replicate count (.advance caller { id })

/-- A version is activated, and its retirement goes on up to the append. -/
def retiring : List PackEvent :=
  [.start (.activate (input "v1" 1))] ++ steps 0 6 "activation" ++
    [.start (.retire (input "v1" 3))] ++ steps 1 4 "retirement"

def beforeRetirement : PackConfiguration :=
  packMachine.finish (Meets LandsInTime) (.initial store) retiring

def retirement : PackActivationRecord :=
  (input "v1" 3).event .retired "ZZ-TEST" "retirement" "reviewed"

/-- Another version is activated before the retirement is appended. -/
def overtaking : List PackEvent :=
  retiring ++ [.start (.activate (input "v2" 2))] ++ steps 2 5 "second"

def overtaken : PackConfiguration :=
  packMachine.finish (fun _ _ ↦ True) (.initial store) overtaking

/-- The append of the retirement goes through. -/
theorem appended_of_next {c : PackConfiguration}
    (hnext : c.next 1 = some (.retire (input "v1" 3), .append retirement))
    (hworks : (c.store.performOrFail (.append retirement) {}).isOk = true)
    (hpossible : (packMachine.step c (.advance 1 {})).isSome = true) :
    ∃ later, packMachine.step c (.advance 1 {}) = some later ∧
      later.history = ⟨1, .append retirement, .ok ()⟩ :: c.history := by
  obtain ⟨later, hstep⟩ := Option.isSome_iff_exists.mp hpossible
  obtain ⟨store, value, hanswer⟩ := exists_answered hworks
  exact ⟨later, hstep, Machine.history_of_answered hnext hanswer hstep⟩

end RetirementScenario

open RetirementScenario in
theorem retirements_law_retired : ∃ later,
    packMachine.step beforeRetirement (.advance 1 {}) = some later ∧ AllRetireActive later.store := by
  have hnext : beforeRetirement.next 1 =
      some (.retire (input "v1" 3), .append retirement) := by decide
  obtain ⟨later, hstep, hhistory⟩ :=
    appended_of_next hnext (by decide) (by decide)
  have hlaw := (retirements_law (Machine.reaches_finish retiring) allRetireActive_store).2 1 {} _
    retirement later hnext rfl hstep hhistory
  exact ⟨later, hstep, hlaw.1.mpr (by decide)⟩

open RetirementScenario in
theorem overtaken_strands : ¬ ∀ store c caller oracle later record version,
    AllRetireActive store → packMachine.Reaches (fun _ _ ↦ True) (.initial store) c →
      packMachine.step c (.advance caller oracle) = some later →
      later.history = ⟨caller, .append record, .ok ()⟩ :: c.history →
      record.action = .retired → version ≠ record.packVersion →
      activeVersion (c.store.ledger.entries record.jurisdictionCode record.environment) =
        some version →
      NeverRetired (later.store.ledger.entries record.jurisdictionCode record.environment) version →
      activeVersion (later.store.ledger.entries record.jurisdictionCode record.environment) ≠
        none := by
  intro hlaw
  have hnext : overtaken.next 1 =
      some (.retire (input "v1" 3), .append retirement) := by decide
  obtain ⟨later, hstep, hhistory⟩ :=
    appended_of_next hnext (by decide) (by decide)
  obtain ⟨_, _, _, -, -, hanswer⟩ := Machine.performed_of_history_eq_cons hstep hhistory
  have hentries := entries_of_appended hanswer "ZZ-TEST" .production
  have hbroken := hlaw store overtaken 1 {} later retirement "v2" allRetireActive_store
    (Machine.reaches_finish overtaking) hstep hhistory rfl (by decide) (by decide)
  rw [show later.store.ledger.entries retirement.jurisdictionCode retirement.environment =
    overtaken.store.ledger.entries "ZZ-TEST" .production ++ [retirement] from hentries] at hbroken
  exact hbroken (by decide) (by decide)

end Karar.Jurisdiction.PackActivation
