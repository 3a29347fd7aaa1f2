import Karar.Foundation.Run
import Karar.SubjectPolicy.Selections
import Mathlib.Data.List.Nodup

/-!
# Superseded elections

A later election is meant to shadow the earlier ones of its key from its start on. The resolver
drops a withdrawn or ended row from its candidates, so an earlier row whose own window is still open
is served again once its successor is withdrawn or has ended.
`neverSuperseded_iff_shadowed` says for the rows of one key when the resolver keeps to the law from
an instant on.

Runs of recordings and withdrawals on one (user, tenant, capability) key, with non-decreasing
instants. A committed recording supersedes the active election and appends its own, a committed
withdrawal marks the active election, which is the last one (`electionsOf_recordSelection`,
`electionsOf_withdraw`). `everyStep_keepsLaw_iff` says which runs keep to the law of supersession in
every table they reach, and `superseded_served_again` is a run that does not.
-/

namespace Karar.SubjectPolicy

open SharedKernel Foundation

/-! ## The law -/

/-! ### The law over the rows of one key -/

/-- The resolver serves no row that a later listed row superseded by the instant. The rows are
listed in the order of their recording. -/
def NeverSuperseded (elections : List SubjectPolicySelection) (at_ : Instant) : Prop :=
  ∀ served successor, resolveSelectionAt elections at_ = .effective served →
    [served, successor].Sublist elections → at_ < successor.effectiveFrom

/-- A row of the key can still be served at or after the instant on its own. -/
def StillOpen (now : Instant) (row : SubjectPolicySelection) : Prop :=
  row.withdrawnAt = none ∧ (now : WithTop Instant) < windowEnd row

/-- The row is served before the other one as long as the other one can be. -/
def Outranks (row other : SubjectPolicySelection) : Prop :=
  windowEnd other ≤ windowEnd row ∧ electionKey other < electionKey row

/-- Every earlier row that is still open is outranked by the last row, which is not withdrawn. -/
def Shadowed (now : Instant) (elections : List SubjectPolicySelection) : Prop :=
  ∀ init last, elections = init ++ [last] → ∀ earlier ∈ init, StillOpen now earlier →
    last.withdrawnAt = none ∧ Outranks last earlier

theorem pair_sublist_concat {earlier successor last : SubjectPolicySelection}
    {init : List SubjectPolicySelection} :
    [earlier, successor].Sublist (init ++ [last]) ↔
      [earlier, successor].Sublist init ∨ earlier ∈ init ∧ successor = last := by
  constructor
  · intro hsublist
    obtain ⟨front, back, hsplit, hfront, hback⟩ := List.sublist_append_iff.mp hsublist
    rcases List.sublist_singleton.mp hback with rfl | rfl
    · rw [List.append_nil] at hsplit
      exact Or.inl (hsplit ▸ hfront)
    · have hparts : front = [earlier] ∧ [successor] = [last] := by
        have hsnoc : [earlier] ++ [successor] = front ++ [last] := hsplit
        exact List.append_inj' hsnoc rfl |>.imp Eq.symm id
      obtain ⟨rfl, hlast⟩ := hparts
      exact Or.inr ⟨List.singleton_sublist.mp hfront, List.singleton_inj.mp hlast⟩
  · rintro (hsublist | ⟨hearlier, rfl⟩)
    · exact hsublist.trans (List.sublist_append_left _ _)
    · exact (List.singleton_sublist.mpr hearlier).append (List.Sublist.refl [successor])

section Key

variable {elections : List SubjectPolicySelection} {now : Instant}

theorem ids_injective (hids : (elections.map (·.id)).Nodup) :
    ∀ a ∈ elections, ∀ b ∈ elections, a.id = b.id → a = b :=
  fun _ ha _ hb heq ↦ List.inj_on_of_nodup_map hids ha hb heq

/-- From an instant after every recorded one on, a row that was not withdrawn bears on the instants
before its end. -/
theorem bearsOn_iff_of_le {row : SubjectPolicySelection} {at_ : Instant} (hat : now ≤ at_)
    (hstart : row.effectiveFrom ≤ now) (hwithdrawn : ∀ instant ∈ row.withdrawnAt, instant ≤ now) :
    bearsOn at_ row = true ↔ row.withdrawnAt = none ∧ (at_ : WithTop Instant) < windowEnd row := by
  rw [bearsOn_iff]
  constructor
  · rintro ⟨-, hend, hnot⟩
    refine ⟨Option.eq_none_iff_forall_not_mem.mpr fun instant hinstant ↦ ?_, hend⟩
    have hbefore : instant ≤ at_ := le_trans (hwithdrawn instant hinstant) hat
    exact absurd (hnot instant hinstant) (not_lt.mpr hbefore)
  · rintro ⟨hnone, hend⟩
    refine ⟨le_trans hstart hat, hend, fun instant hinstant ↦ ?_⟩
    rw [hnone] at hinstant
    simp at hinstant

/-- Assumes: distinct ids, and an instant that no start and no withdrawal of the rows is after. The
resolver keeps to the law from that instant on if and only if the last row shadows the others. -/
theorem neverSuperseded_iff_shadowed (hids : (elections.map (·.id)).Nodup)
    (hstarts : ∀ row ∈ elections, row.effectiveFrom ≤ now)
    (hwithdrawn : ∀ row ∈ elections, ∀ instant ∈ row.withdrawnAt, instant ≤ now) :
    (∀ at_, now ≤ at_ → NeverSuperseded elections at_) ↔ Shadowed now elections := by
  have hinjective := ids_injective hids
  have hbears : ∀ row ∈ elections, ∀ at_, now ≤ at_ → (bearsOn at_ row = true ↔
      row.withdrawnAt = none ∧ (at_ : WithTop Instant) < windowEnd row) :=
    fun row hrow at_ hat ↦ bearsOn_iff_of_le hat (hstarts row hrow) (hwithdrawn row hrow)
  constructor
  · intro hlaw init last heq earlier hearlier hopen
    have hmem : earlier ∈ elections := by
      rw [heq]
      exact List.mem_append_left _ hearlier
    have hlast : last ∈ elections := by
      rw [heq]
      exact List.mem_append_right _ (List.mem_singleton.mpr rfl)
    have hne : earlier ≠ last := by
      intro hsame
      rw [heq, List.map_append, List.nodup_append] at hids
      exact hids.2.2 _ (List.mem_map_of_mem hearlier) _ (List.mem_map_of_mem
        (List.mem_singleton.mpr rfl)) (congrArg (·.id) hsame)
    -- At an instant that the earlier row bears on, the law leaves only the last row to be served.
    have hserved : ∀ at_, now ≤ at_ → (at_ : WithTop Instant) < windowEnd earlier →
        resolveSelectionAt elections at_ = .effective last := by
      intro at_ hat hend
      obtain ⟨winner, hwinner⟩ :=
        exists_effective_of_bearsOn hmem ((hbears earlier hmem at_ hat).mpr ⟨hopen.1, hend⟩)
      have hwinnerMem := ((resolveSelectionAt_eq_effective_iff hinjective).mp hwinner).1
      by_cases hinit : winner ∈ init
      · have hpair : [winner, last].Sublist elections := by
          rw [heq]
          exact pair_sublist_concat.mpr (Or.inr ⟨hinit, rfl⟩)
        have hstarted : last.effectiveFrom ≤ at_ := le_trans (hstarts last hlast) hat
        exact absurd (hlaw at_ hat winner last hwinner hpair) (not_lt.mpr hstarted)
      · rw [heq, List.mem_append, List.mem_singleton] at hwinnerMem
        rw [hwinner, hwinnerMem.resolve_left hinit]
    obtain ⟨-, hlastBears, hbelow⟩ :=
      (resolveSelectionAt_eq_effective_iff hinjective).mp (hserved now le_rfl hopen.2)
    obtain ⟨hlastOpen, hlastEnd⟩ := (hbears last hlast now le_rfl).mp hlastBears
    refine ⟨hlastOpen, ?_, hbelow earlier hmem ((hbears earlier hmem now le_rfl).mpr hopen) hne⟩
    by_contra hnot
    rw [not_le] at hnot
    -- The last row ends first: at its end the earlier row is still open.
    obtain ⟨ending, hending⟩ := WithTop.ne_top_iff_exists.mp (ne_top_of_lt hnot)
    rw [← hending] at hnot hlastEnd
    have hlate : now ≤ ending := (WithTop.coe_lt_coe.mp hlastEnd).le
    have hserve := hserved ending hlate hnot
    have hcovers := ((resolveSelectionAt_eq_effective_iff hinjective).mp hserve).2.1
    have hbefore := ((hbears last hlast ending hlate).mp hcovers).2
    rw [← hending] at hbefore
    exact lt_irrefl _ hbefore
  · intro hshadowed at_ hat served successor hserved hpair
    exfalso
    obtain ⟨hmem, hservedBears, hbelow⟩ :=
      (resolveSelectionAt_eq_effective_iff hinjective).mp hserved
    obtain ⟨hopen, hend⟩ := (hbears served hmem at_ hat).mp hservedBears
    obtain ⟨init, last, heq⟩ : ∃ init last, elections = init ++ [last] :=
      List.eq_nil_or_concat' elections |>.resolve_left (List.ne_nil_of_mem hmem)
    have hearlier : served ∈ init := by
      rw [heq] at hpair
      rcases pair_sublist_concat.mp hpair with hinit | ⟨hinit, -⟩
      · exact hinit.subset List.mem_cons_self
      · exact hinit
    have hnow : (now : WithTop Instant) < windowEnd served :=
      lt_of_le_of_lt (WithTop.coe_le_coe.mpr hat) hend
    obtain ⟨hlastOpen, hends, hkey⟩ := hshadowed init last heq served hearlier ⟨hopen, hnow⟩
    have hlast : last ∈ elections := by
      rw [heq]
      exact List.mem_append_right _ (List.mem_singleton.mpr rfl)
    have hlastBears : bearsOn at_ last = true :=
      (hbears last hlast at_ hat).mpr ⟨hlastOpen, lt_of_lt_of_le hend hends⟩
    by_cases hsame : last = served
    · rw [hsame] at hkey
      exact lt_irrefl _ hkey
    · exact lt_asymm hkey (hbelow last hlast hlastBears hsame)

theorem Shadowed.mono {later : Instant} (hshadowed : Shadowed now elections)
    (hle : now ≤ later) : Shadowed later elections := by
  intro init last heq earlier hearlier hopen
  exact hshadowed init last heq earlier hearlier
    ⟨hopen.1, lt_of_le_of_lt (WithTop.coe_le_coe.mpr hle) hopen.2⟩

end Key

/-! ## Runs -/

section SupersessionRuns

/-! ### Runs on one key -/

/-- The use cases over one table, as the composition constructs them. -/
structure SubjectPolicyUseCases where
  isKnownCapability : String → Bool
  errorMessage : DatabaseError → String

def SubjectPolicyUseCases.record (useCases : SubjectPolicyUseCases) :
    RecordSubjectPolicySelection :=
  ⟨useCases.isKnownCapability, useCases.errorMessage⟩

def SubjectPolicyUseCases.withdraw (useCases : SubjectPolicyUseCases) : WithdrawOwnSelection :=
  ⟨useCases.errorMessage⟩

def SubjectPolicyUseCases.getVersion (useCases : SubjectPolicyUseCases) :
    GetSelectionVersionForResolution :=
  ⟨useCases.isKnownCapability, useCases.errorMessage⟩

/-- A (user, tenant, capability) key. -/
structure ElectionKey where
  principal : SubjectPolicyPrincipal
  capabilityId : String

/-- The elections of a key in the order of their recording. -/
def SelectionTable.electionsOf (table : SelectionTable) (key : ElectionKey) :
    List SubjectPolicySelection :=
  (table.rows.filter (ofKey key.principal key.capabilityId)).map (·.selection)

inductive SelectionCall
  | record (input : RecordSubjectPolicySelectionInput) (answers : RecordAnswers)
  | withdraw (input : WithdrawOwnSelectionInput) (answers : WithdrawAnswers)

def SelectionCall.now : SelectionCall → Instant
  | record input _ => input.now
  | withdraw input _ => input.now

/-- The call acts for the key's subject and records for its capability. -/
def SelectionCall.OnKey (key : ElectionKey) : SelectionCall → Prop
  | record input _ => input.principal = key.principal ∧ input.capabilityId = key.capabilityId
  | withdraw input _ => input.principal = key.principal

/-- The table a call leaves behind. -/
def SelectionCall.perform (useCases : SubjectPolicyUseCases) (table : SelectionTable) :
    SelectionCall → SelectionTable
  | record input answers => (useCases.record.execute input answers table).2
  | withdraw input answers => (useCases.withdraw.execute input answers table).2

/-- The resolver over the stored rows serves no election of the key that a later recorded one had
superseded by the instant. -/
def NeverServesSuperseded (useCases : SubjectPolicyUseCases) (key : ElectionKey)
    (table : SelectionTable) (at_ : Instant) : Prop :=
  ∀ served successor, [served, successor].Sublist (table.electionsOf key) →
    useCases.getVersion.execute ⟨key.principal, key.capabilityId, at_⟩ none table =
      .ok served.pinnedVersions →
    at_ < successor.effectiveFrom

/-- The law holds from the call's instant on in the table that the call leaves behind. -/
def KeepsLaw (useCases : SubjectPolicyUseCases) (key : ElectionKey) (table : SelectionTable)
    (call : SelectionCall) : Prop :=
  ∀ at_, call.now ≤ at_ → NeverServesSuperseded useCases key (call.perform useCases table) at_

/-- What the law asks of a call. A recording that commits elects a row that outranks every election
of the key that is still open; a withdrawal that commits on the key finds no other one still
open. -/
def ShadowsEarlier (useCases : SubjectPolicyUseCases) (key : ElectionKey) (table : SelectionTable) :
    SelectionCall → Prop
  | .record input answers =>
    ∀ selection committed, (useCases.record.elect input answers).run = .ok (.ok selection) →
      transact answers.outage
        (table.recordSelection input.principal selection answers.createdAt) = .ok committed →
      ∀ earlier ∈ table.electionsOf key, StillOpen input.now earlier → Outranks selection earlier
  | .withdraw input answers =>
    ∀ committed, answers.lookupOutage = none →
      transact answers.outage (table.withdraw input.principal input.selectionId input.now) =
        .ok committed →
      (∃ withdrawn ∈ table.electionsOf key, withdrawn.id = input.selectionId) →
      ∀ earlier ∈ table.electionsOf key, earlier.id ≠ input.selectionId →
        ¬ StillOpen input.now earlier

/-- What a run on a key has recorded by an instant. -/
structure ElectionHistory (useCases : SubjectPolicyUseCases) (key : ElectionKey) (now : Instant)
    (table : SelectionTable) : Prop where
  starts : ∀ row ∈ table.electionsOf key, row.effectiveFrom ≤ now
  withdrawn : ∀ row ∈ table.electionsOf key, ∀ instant ∈ row.withdrawnAt, instant ≤ now
  /-- Only the last election may be active. -/
  active : ∀ init last, table.electionsOf key = init ++ [last] →
    ∀ earlier ∈ init, earlier.status ≠ .active
  known : table.electionsOf key ≠ [] → useCases.isKnownCapability key.capabilityId = true

section Run

variable {useCases : SubjectPolicyUseCases} {key : ElectionKey} {table : SelectionTable}
  {now : Instant}

theorem electionsOf_ids (table : SelectionTable) (key : ElectionKey) :
    ((table.electionsOf key).map (·.id)).Nodup := by
  unfold SelectionTable.electionsOf
  rw [List.map_map]
  exact table.ids.sublist (List.filter_sublist.map _)

theorem mem_electionsOf {selection : SubjectPolicySelection} :
    selection ∈ table.electionsOf key ↔
      selection ∈ table.listSelections key.principal key.capabilityId := by
  rw [mem_listSelections]
  unfold SelectionTable.electionsOf
  simp only [List.mem_map, List.mem_filter, and_assoc]

/-- The order in which the rows are listed does not matter to the resolver: ids are unique. -/
theorem resolveSelectionAt_listSelections {at_ : Instant} {row : SubjectPolicySelection} :
    resolveSelectionAt (table.listSelections key.principal key.capabilityId) at_ =
        .effective row ↔
      resolveSelectionAt (table.electionsOf key) at_ = .effective row := by
  have hinjective := ids_injective (electionsOf_ids table key)
  have hlisted : ∀ a ∈ table.listSelections key.principal key.capabilityId,
      ∀ b ∈ table.listSelections key.principal key.capabilityId, a.id = b.id → a = b := by
    intro a ha b hb heq
    exact hinjective a (mem_electionsOf.mpr ha) b (mem_electionsOf.mpr hb) heq
  rw [resolveSelectionAt_eq_effective_iff hinjective, resolveSelectionAt_eq_effective_iff hlisted]
  simp only [mem_electionsOf]

theorem neverServesSuperseded_iff_neverSuperseded {at_ : Instant}
    (hhistory : ElectionHistory useCases key now table) :
    NeverServesSuperseded useCases key table at_ ↔ NeverSuperseded (table.electionsOf key) at_ := by
  have hserves : ∀ served ∈ table.electionsOf key,
      (useCases.getVersion.execute ⟨key.principal, key.capabilityId, at_⟩ none table =
        .ok served.pinnedVersions ↔
      resolveSelectionAt (table.electionsOf key) at_ = .effective served) := by
    intro served hserved
    have hknown := hhistory.known (List.ne_nil_of_mem hserved)
    rw [GetSelectionVersionForResolution.execute_eq_pinnedVersions_iff hknown]
    constructor
    · rintro ⟨winner, hwinner, hversions⟩
      rw [resolveSelectionAt_listSelections] at hwinner
      have hinjective := ids_injective (electionsOf_ids table key)
      have hmem := ((resolveSelectionAt_eq_effective_iff hinjective).mp hwinner).1
      have hid : winner.id = served.id :=
        (SelectionVersionResolution.pinnedVersions.inj hversions).1
      rw [hwinner, hinjective winner hmem served hserved hid]
    · intro heffective
      exact ⟨served, resolveSelectionAt_listSelections.mpr heffective, rfl⟩
  unfold NeverServesSuperseded NeverSuperseded
  constructor
  · intro hlaw served successor heffective hpair
    have hmem := hpair.subset List.mem_cons_self
    exact hlaw served successor hpair ((hserves served hmem).mpr heffective)
  · intro hlaw served successor hpair hexecute
    have hmem := hpair.subset List.mem_cons_self
    exact hlaw served successor ((hserves served hmem).mp hexecute) hpair

/-- In the history of a run the law holds from now on if and only if the last election shadows the
others. -/
theorem neverServesSuperseded_iff_shadowed (hhistory : ElectionHistory useCases key now table) :
    (∀ at_, now ≤ at_ → NeverServesSuperseded useCases key table at_) ↔
      Shadowed now (table.electionsOf key) := by
  rw [← neverSuperseded_iff_shadowed (electionsOf_ids table key) hhistory.starts
    hhistory.withdrawn]
  refine forall_congr' fun at_ ↦ forall_congr' fun _ ↦ ?_
  exact neverServesSuperseded_iff_neverSuperseded hhistory

/-! ### Step lemmas -/

def SubjectPolicySelection.supersedeActive (row : SubjectPolicySelection) :
    SubjectPolicySelection :=
  if row.status = .active then { row with status := .superseded } else row

def SubjectPolicySelection.withdrawIf (id : String) (at_ : Instant) (row : SubjectPolicySelection) :
    SubjectPolicySelection :=
  if row.id = id then { row with status := .withdrawn, withdrawnAt := some at_ } else row

theorem electionsOf_recordSelection {stored : SelectionTable} {supersededIds : List String}
    {selection : SubjectPolicySelection} {createdAt : Instant}
    (hrecord : table.recordSelection key.principal selection createdAt =
      .ok (stored, supersededIds))
    (hkey : ofKey key.principal key.capabilityId ⟨selection, createdAt⟩ = true) :
    stored.electionsOf key =
      (table.electionsOf key).map (·.supersedeActive) ++ [selection] := by
  have hcapability : selection.capabilityId = key.capabilityId := by
    unfold ofKey at hkey
    simp only [Bool.and_eq_true, beq_iff_eq] at hkey
    exact hkey.2
  unfold SelectionTable.electionsOf
  rw [recordSelection_eq_ok hrecord, hcapability, List.filter_append, List.map_append,
    List.filter_map, List.map_map, List.map_map, List.filter_cons_of_pos hkey]
  congr 1
  -- Superseding a row does not move it to another key.
  have hfilter : table.rows.filter ((ofKey key.principal key.capabilityId) ∘ fun row ↦
      if priorActive key.principal key.capabilityId row then row.supersede else row) =
        table.rows.filter (ofKey key.principal key.capabilityId) := by
    refine List.filter_congr fun row _ ↦ ?_
    show ofKey key.principal key.capabilityId (if _ then row.supersede else row) = _
    split_ifs <;> rfl
  rw [hfilter]
  refine List.map_congr_left fun row hrow ↦ ?_
  have hof := (List.mem_filter.mp hrow).2
  show (if priorActive _ _ row then row.supersede else row).selection =
    row.selection.supersedeActive
  unfold priorActive SubjectPolicySelection.supersedeActive
  by_cases hactive : row.selection.status = .active
  · simp [hof, hactive, SelectionRow.supersede]
  · simp [hactive]

theorem electionsOf_withdraw {stored : SelectionTable} {id : String} {at_ : Instant}
    (hwithdraw : table.withdraw key.principal id at_ = .ok stored) :
    stored.electionsOf key = (table.electionsOf key).map (·.withdrawIf id at_) ∧
      ∀ row ∈ table.electionsOf key, row.id = id → row.status = .active := by
  obtain ⟨hrows, hactive⟩ := withdraw_eq_ok hwithdraw
  constructor
  · unfold SelectionTable.electionsOf
    rw [hrows, List.filter_map, List.map_map, List.map_map]
    have hfilter : table.rows.filter ((ofKey key.principal key.capabilityId) ∘ fun row ↦
        if named key.principal id row then row.withdraw at_ else row) =
          table.rows.filter (ofKey key.principal key.capabilityId) := by
      refine List.filter_congr fun row _ ↦ ?_
      show ofKey key.principal key.capabilityId (if _ then row.withdraw at_ else row) = _
      split_ifs <;> rfl
    rw [hfilter]
    refine List.map_congr_left fun row hrow ↦ ?_
    have hof := (List.mem_filter.mp hrow).2
    unfold ofKey at hof
    rw [Bool.and_eq_true] at hof
    show (if named _ _ row then row.withdraw at_ else row).selection =
      row.selection.withdrawIf id at_
    unfold named SubjectPolicySelection.withdrawIf
    by_cases hid : row.selection.id = id
    · simp [hof.1, hid, SelectionRow.withdraw]
    · simp [hid]
  · intro selection hselection hid
    unfold SelectionTable.electionsOf at hselection
    obtain ⟨row, hrow, rfl⟩ := List.mem_map.mp hselection
    obtain ⟨hmem, hof⟩ := List.mem_filter.mp hrow
    unfold ofKey at hof
    rw [Bool.and_eq_true] at hof
    refine hactive row hmem ?_
    unfold named
    rw [Bool.and_eq_true, beq_iff_eq]
    exact ⟨hof.1, hid⟩

@[simp] theorem supersedeActive_withdrawnAt (row : SubjectPolicySelection) :
    row.supersedeActive.withdrawnAt = row.withdrawnAt := by
  unfold SubjectPolicySelection.supersedeActive
  split_ifs <;> rfl

@[simp] theorem supersedeActive_effectiveFrom (row : SubjectPolicySelection) :
    row.supersedeActive.effectiveFrom = row.effectiveFrom := by
  unfold SubjectPolicySelection.supersedeActive
  split_ifs <;> rfl

theorem supersedeActive_status (row : SubjectPolicySelection) :
    row.supersedeActive.status ≠ .active := by
  unfold SubjectPolicySelection.supersedeActive
  split_ifs with hactive
  · simp
  · exact hactive

theorem stillOpen_supersedeActive (row : SubjectPolicySelection) :
    StillOpen now row.supersedeActive ↔ StillOpen now row := by
  unfold SubjectPolicySelection.supersedeActive
  split_ifs <;> rfl

theorem outranks_supersedeActive (selection row : SubjectPolicySelection) :
    Outranks selection row.supersedeActive ↔ Outranks selection row := by
  unfold SubjectPolicySelection.supersedeActive
  split_ifs <;> rfl

/-- A committed recording extends the history, and its law is that its row outranks what is still
open. -/
theorem record_step (hhistory : ElectionHistory useCases key now table)
    {input : RecordSubjectPolicySelectionInput} {answers : RecordAnswers}
    {selection : SubjectPolicySelection} {stored : SelectionTable} {supersededIds : List String}
    (hkey : (SelectionCall.record input answers).OnKey key) (hnow : now ≤ input.now)
    (helect : (useCases.record.elect input answers).run = .ok (.ok selection))
    (hrecord : table.recordSelection input.principal selection answers.createdAt =
      .ok (stored, supersededIds)) :
    ElectionHistory useCases key input.now stored ∧
      (Shadowed input.now (stored.electionsOf key) ↔
        ∀ earlier ∈ table.electionsOf key, StillOpen input.now earlier →
          Outranks selection earlier) := by
  obtain ⟨hprincipal, hcapability⟩ := hkey
  obtain ⟨optionSet, -, hknown, -, -, -, -, -, hpinned⟩ :=
    RecordSubjectPolicySelection.elect_eq_ok helect
  have hof : ofKey key.principal key.capabilityId ⟨selection, answers.createdAt⟩ = true := by
    unfold ofKey visibleTo
    simp [hpinned, pinnedSelection, hprincipal, hcapability]
  rw [hprincipal] at hrecord
  have helections := electionsOf_recordSelection hrecord hof
  have hstart : selection.effectiveFrom = input.now := by rw [hpinned]; rfl
  have hopen : selection.withdrawnAt = none := by rw [hpinned]; rfl
  constructor
  · constructor
    · intro row hrow
      rw [helections, List.mem_append, List.mem_singleton] at hrow
      rcases hrow with hrow | rfl
      · obtain ⟨old, hold, rfl⟩ := List.mem_map.mp hrow
        rw [supersedeActive_effectiveFrom]
        exact le_trans (hhistory.starts old hold) hnow
      · exact hstart.le
    · intro row hrow instant hinstant
      rw [helections, List.mem_append, List.mem_singleton] at hrow
      rcases hrow with hrow | rfl
      · obtain ⟨old, hold, rfl⟩ := List.mem_map.mp hrow
        rw [supersedeActive_withdrawnAt] at hinstant
        exact le_trans (hhistory.withdrawn old hold instant hinstant) hnow
      · rw [hopen] at hinstant
        simp at hinstant
    · intro init last heq earlier hearlier
      rw [helections] at heq
      rw [← (List.append_inj' heq rfl).1] at hearlier
      obtain ⟨old, -, rfl⟩ := List.mem_map.mp hearlier
      exact supersedeActive_status old
    · intro _
      rw [← hcapability]
      exact hknown
  · unfold Shadowed
    rw [helections]
    constructor
    · intro hshadowed earlier hearlier hstill
      have houtranks := hshadowed _ _ rfl earlier.supersedeActive
        (List.mem_map_of_mem hearlier) ((stillOpen_supersedeActive earlier).mpr hstill)
      exact (outranks_supersedeActive selection earlier).mp houtranks.2
    · intro houtranks init last heq earlier hearlier hstill
      obtain ⟨hinit, hlast⟩ := List.append_inj' heq rfl
      rw [← hinit] at hearlier
      obtain ⟨old, hold, rfl⟩ := List.mem_map.mp hearlier
      rw [← List.singleton_inj.mp hlast]
      refine ⟨hopen, (outranks_supersedeActive selection old).mpr ?_⟩
      exact houtranks old hold ((stillOpen_supersedeActive old).mp hstill)

theorem withdrawIf_of_ne {row : SubjectPolicySelection} {id : String} {at_ : Instant}
    (hid : row.id ≠ id) : row.withdrawIf id at_ = row := by
  unfold SubjectPolicySelection.withdrawIf
  rw [if_neg hid]

theorem map_withdrawIf_of_forall_ne {rows : List SubjectPolicySelection} {id : String}
    {at_ : Instant} (hid : ∀ row ∈ rows, row.id ≠ id) :
    rows.map (·.withdrawIf id at_) = rows := by
  conv_rhs => rw [← List.map_id rows]
  refine List.map_congr_left fun row hrow ↦ ?_
  exact withdrawIf_of_ne (hid row hrow)

/-- A committed withdrawal of an election of the key withdraws the last one, and its law is that no
other one is still open. -/
theorem withdraw_step (hhistory : ElectionHistory useCases key now table)
    {id : String} {at_ : Instant} {stored : SelectionTable} (hnow : now ≤ at_)
    (hwithdraw : table.withdraw key.principal id at_ = .ok stored)
    (hfound : ∃ withdrawn ∈ table.electionsOf key, withdrawn.id = id) :
    ElectionHistory useCases key at_ stored ∧
      (Shadowed at_ (stored.electionsOf key) ↔
        ∀ earlier ∈ table.electionsOf key, earlier.id ≠ id → ¬ StillOpen at_ earlier) := by
  obtain ⟨helections, hactive⟩ := electionsOf_withdraw hwithdraw
  obtain ⟨withdrawn, hmem, hid⟩ := hfound
  obtain ⟨init, last, heq⟩ : ∃ init last, table.electionsOf key = init ++ [last] :=
    List.eq_nil_or_concat' _ |>.resolve_left (List.ne_nil_of_mem hmem)
  -- Only the last election is active, so it is the withdrawn one.
  have hlast : withdrawn = last := by
    rw [heq, List.mem_append, List.mem_singleton] at hmem
    refine hmem.resolve_left fun hinit ↦ ?_
    have hwithdrawn := hactive withdrawn
      (by rw [heq]; exact List.mem_append_left _ hinit) hid
    exact hhistory.active init last heq withdrawn hinit hwithdrawn
  rw [hlast] at hid
  have hother : ∀ row ∈ init, row.id ≠ id := by
    have hnodup := electionsOf_ids table key
    rw [heq, List.map_append, List.nodup_append] at hnodup
    intro row hrow hsame
    exact hnodup.2.2 _ (List.mem_map_of_mem hrow) _
      (List.mem_map_of_mem (List.mem_singleton.mpr rfl)) (hsame.trans hid.symm)
  have hstored : stored.electionsOf key = init ++ [last.withdrawIf id at_] := by
    rw [helections, heq, List.map_append, map_withdrawIf_of_forall_ne hother]
    rfl
  have hmark : (last.withdrawIf id at_).withdrawnAt = some at_ := by
    unfold SubjectPolicySelection.withdrawIf
    rw [if_pos hid]
  have hfrom : (last.withdrawIf id at_).effectiveFrom = last.effectiveFrom := by
    unfold SubjectPolicySelection.withdrawIf
    rw [if_pos hid]
  constructor
  · constructor
    · intro row hrow
      rw [hstored, List.mem_append, List.mem_singleton] at hrow
      rcases hrow with hrow | rfl
      · exact le_trans (hhistory.starts row (by rw [heq]; exact List.mem_append_left _ hrow)) hnow
      · rw [hfrom]
        exact le_trans (hhistory.starts last (by rw [heq]; simp)) hnow
    · intro row hrow instant hinstant
      rw [hstored, List.mem_append, List.mem_singleton] at hrow
      rcases hrow with hrow | rfl
      · exact le_trans (hhistory.withdrawn row (by rw [heq]; exact List.mem_append_left _ hrow)
          instant hinstant) hnow
      · rw [hmark, Option.mem_def, Option.some.injEq] at hinstant
        exact hinstant.ge
    · intro init' last' heq' earlier hearlier
      rw [hstored] at heq'
      rw [← (List.append_inj' heq' rfl).1] at hearlier
      exact hhistory.active init last heq earlier hearlier
    · intro _
      exact hhistory.known (List.ne_nil_of_mem hmem)
  · unfold Shadowed
    rw [hstored, heq]
    constructor
    · intro hshadowed earlier hearlier hne hstill
      rw [List.mem_append, List.mem_singleton] at hearlier
      have hinit : earlier ∈ init := hearlier.resolve_right fun hsame ↦ hne (hsame ▸ hid)
      have hnone := (hshadowed init _ rfl earlier hinit hstill).1
      rw [hmark] at hnone
      simp at hnone
    · intro hclosed init' last' heq' earlier hearlier hstill
      rw [← (List.append_inj' heq' rfl).1] at hearlier
      exact absurd hstill (hclosed earlier (List.mem_append_left _ hearlier)
        (hother earlier hearlier))

theorem ElectionHistory.mono {later : Instant} (hhistory : ElectionHistory useCases key now table)
    (hle : now ≤ later) : ElectionHistory useCases key later table where
  starts row hrow := le_trans (hhistory.starts row hrow) hle
  withdrawn row hrow instant hinstant :=
    le_trans (hhistory.withdrawn row hrow instant hinstant) hle
  active := hhistory.active
  known := hhistory.known

/-- A history depends on the elections of the key only. -/
theorem ElectionHistory.congr {other : SelectionTable}
    (hhistory : ElectionHistory useCases key now table)
    (heq : other.electionsOf key = table.electionsOf key) :
    ElectionHistory useCases key now other := by
  constructor
  · rw [heq]
    exact hhistory.starts
  · rw [heq]
    exact hhistory.withdrawn
  · rw [heq]
    exact hhistory.active
  · rw [heq]
    exact hhistory.known

/-- A call that leaves the elections of the key as they were keeps the history and the law. -/
theorem unchanged_step {other : SelectionTable} {later : Instant}
    (hhistory : ElectionHistory useCases key now table)
    (hshadowed : Shadowed now (table.electionsOf key)) (hnow : now ≤ later)
    (heq : other.electionsOf key = table.electionsOf key) :
    ElectionHistory useCases key later other ∧ Shadowed later (other.electionsOf key) := by
  refine ⟨(hhistory.mono hnow).congr heq, ?_⟩
  rw [heq]
  exact hshadowed.mono hnow

theorem perform_record_step (hhistory : ElectionHistory useCases key now table)
    (hshadowed : Shadowed now (table.electionsOf key))
    {input : RecordSubjectPolicySelectionInput} {answers : RecordAnswers}
    (hkey : (SelectionCall.record input answers).OnKey key) (hnow : now ≤ input.now) :
    ElectionHistory useCases key input.now
        ((SelectionCall.record input answers).perform useCases table) ∧
      (Shadowed input.now
          (((SelectionCall.record input answers).perform useCases table).electionsOf key) ↔
        ShadowsEarlier useCases key table (.record input answers)) := by
  by_cases hcommits : ∃ selection committed,
      (useCases.record.elect input answers).run = .ok (.ok selection) ∧
        transact answers.outage
          (table.recordSelection input.principal selection answers.createdAt) = .ok committed
  · obtain ⟨selection, ⟨stored, supersededIds⟩, helect, hrecord⟩ := hcommits
    have hperform : (SelectionCall.record input answers).perform useCases table = stored :=
      RecordSubjectPolicySelection.execute_eq_recorded helect hrecord
    obtain ⟨hlater, hiff⟩ := record_step hhistory hkey hnow helect (transact_eq_ok hrecord)
    rw [hperform]
    refine ⟨hlater, hiff.trans ?_⟩
    constructor
    · intro houtranks elected committed helected _
      rw [helect, Except.ok.injEq, Except.ok.injEq] at helected
      exact helected ▸ houtranks
    · intro hshadows
      exact hshadows selection _ helect hrecord
  · have hperform : (SelectionCall.record input answers).perform useCases table = table := by
      rcases useCases.record.execute_table input answers table with hsame | hcommitted
      · exact hsame
      · obtain ⟨selection, supersededIds, helect, hrecord⟩ := hcommitted
        exact absurd ⟨selection, _, helect, hrecord⟩ hcommits
    rw [hperform]
    obtain ⟨hlater, hlaw⟩ := unchanged_step hhistory hshadowed hnow rfl
    refine ⟨hlater, iff_of_true hlaw ?_⟩
    intro selection committed helect hrecord
    exact absurd ⟨selection, committed, helect, hrecord⟩ hcommits

theorem perform_withdraw_step (hhistory : ElectionHistory useCases key now table)
    (hshadowed : Shadowed now (table.electionsOf key))
    {input : WithdrawOwnSelectionInput} {answers : WithdrawAnswers}
    (hkey : (SelectionCall.withdraw input answers).OnKey key) (hnow : now ≤ input.now) :
    ElectionHistory useCases key input.now
        ((SelectionCall.withdraw input answers).perform useCases table) ∧
      (Shadowed input.now
          (((SelectionCall.withdraw input answers).perform useCases table).electionsOf key) ↔
        ShadowsEarlier useCases key table (.withdraw input answers)) := by
  have hprincipal : input.principal = key.principal := hkey
  by_cases hfound : ∃ withdrawn ∈ table.electionsOf key, withdrawn.id = input.selectionId
  · by_cases hcommits : answers.lookupOutage = none ∧ ∃ committed,
        transact answers.outage
          (table.withdraw input.principal input.selectionId input.now) = .ok committed
    · obtain ⟨hlookup, stored, hwithdraw⟩ := hcommits
      have hnamed : ∃ row ∈ table.rows, named input.principal input.selectionId row = true := by
        obtain ⟨withdrawn, hwithdrawn, hid⟩ := hfound
        obtain ⟨row, hrow, rfl⟩ := List.mem_map.mp hwithdrawn
        obtain ⟨hmem, hof⟩ := List.mem_filter.mp hrow
        unfold ofKey at hof
        rw [Bool.and_eq_true] at hof
        refine ⟨row, hmem, ?_⟩
        unfold named
        rw [Bool.and_eq_true, beq_iff_eq, hprincipal]
        exact ⟨hof.1, hid⟩
      have hperform : (SelectionCall.withdraw input answers).perform useCases table = stored :=
        WithdrawOwnSelection.execute_eq_withdrawn hlookup hwithdraw hnamed
      have hstored := transact_eq_ok hwithdraw
      rw [hprincipal] at hstored
      obtain ⟨hlater, hiff⟩ := withdraw_step hhistory hnow hstored hfound
      rw [hperform]
      refine ⟨hlater, hiff.trans ?_⟩
      constructor
      · intro hclosed _ _ _ _
        exact hclosed
      · intro hshadows
        exact hshadows stored hlookup hwithdraw hfound
    · have hperform : (SelectionCall.withdraw input answers).perform useCases table = table := by
        rcases useCases.withdraw.execute_table input answers table with hsame | hcommitted
        · exact hsame
        · exact absurd ⟨hcommitted.1, _, hcommitted.2⟩ hcommits
      rw [hperform]
      obtain ⟨hlater, hlaw⟩ := unchanged_step hhistory hshadowed hnow rfl
      refine ⟨hlater, iff_of_true hlaw ?_⟩
      intro committed hlookup hwithdraw _
      exact absurd ⟨hlookup, committed, hwithdraw⟩ hcommits
  · -- A withdrawal of another capability's selection does not touch the key.
    have helections : ((SelectionCall.withdraw input answers).perform useCases
        table).electionsOf key = table.electionsOf key := by
      rcases useCases.withdraw.execute_table input answers table with hsame | ⟨-, hcommitted⟩
      · exact congrArg (·.electionsOf key) hsame
      · have hwithdraw := transact_eq_ok hcommitted
        rw [hprincipal] at hwithdraw
        refine (electionsOf_withdraw hwithdraw).1.trans (map_withdrawIf_of_forall_ne ?_)
        intro row hrow hid
        exact hfound ⟨row, hrow, hid⟩
    obtain ⟨hlater, hlaw⟩ := unchanged_step hhistory hshadowed hnow helections
    refine ⟨hlater, iff_of_true hlaw ?_⟩
    intro committed _ _ hexists
    exact absurd hexists hfound

/-- One call: the history goes on, and the law holds from the call on if and only if the call
shadows what is still open. -/
theorem keepsLaw_iff_shadowsEarlier (hhistory : ElectionHistory useCases key now table)
    (hshadowed : Shadowed now (table.electionsOf key)) {call : SelectionCall}
    (hkey : call.OnKey key) (hnow : now ≤ call.now) :
    ElectionHistory useCases key call.now (call.perform useCases table) ∧
      (KeepsLaw useCases key table call ↔ ShadowsEarlier useCases key table call) := by
  have hstep : ElectionHistory useCases key call.now (call.perform useCases table) ∧
      (Shadowed call.now ((call.perform useCases table).electionsOf key) ↔
        ShadowsEarlier useCases key table call) := by
    cases call with
    | record input answers => exact perform_record_step hhistory hshadowed hkey hnow
    | withdraw input answers => exact perform_withdraw_step hhistory hshadowed hkey hnow
  exact ⟨hstep.1, (neverServesSuperseded_iff_shadowed hstep.1).trans hstep.2⟩

/-! ### Run lemma -/

/-- Assumes: a table without elections of the key, and a run of recordings and withdrawals on the key
with non-decreasing instants. In every table the run reaches, the resolver serves from the last call
on no election that a later one superseded, if and only if every call of the run shadows the
elections that are still open when it commits. -/
theorem everyStep_keepsLaw_iff {calls : List SelectionCall}
    (hfresh : table.electionsOf key = []) (hkey : ∀ call ∈ calls, call.OnKey key)
    (hnow : (calls.map (·.now)).Pairwise (· ≤ ·)) :
    EveryStep (fun table call ↦ call.perform useCases table) (KeepsLaw useCases key) table calls ↔
      EveryStep (fun table call ↦ call.perform useCases table) (ShadowsEarlier useCases key) table
        calls := by
  -- The invariant: the calls to come start after a history whose last election shadows the others.
  let invariant (table : SelectionTable) (calls : List SelectionCall) : Prop :=
    (∀ call ∈ calls, call.OnKey key) ∧ (calls.map (·.now)).Pairwise (· ≤ ·) ∧
      ∀ call ∈ calls, ∃ now ≤ call.now, ElectionHistory useCases key now table ∧
        Shadowed now (table.electionsOf key)
  have hinitial : invariant table calls := by
    refine ⟨hkey, hnow, fun call _ ↦ ⟨call.now, le_rfl, ?_, ?_⟩⟩
    · constructor <;> simp [hfresh]
    · intro init last heq
      rw [hfresh] at heq
      simp at heq
  refine everyStep_congr ?_ ?_ hinitial
  · rintro state call rest ⟨honKey, -, hhistories⟩
    obtain ⟨before, hbefore, hhistory, hshadowed⟩ := hhistories call List.mem_cons_self
    exact (keepsLaw_iff_shadowsEarlier hhistory hshadowed (honKey call List.mem_cons_self)
      hbefore).2
  · rintro state call rest ⟨honKey, hsorted, hhistories⟩ hlaw
    obtain ⟨before, hbefore, hhistory, hshadowed⟩ := hhistories call List.mem_cons_self
    rw [List.map_cons, List.pairwise_cons] at hsorted
    have hlater := (keepsLaw_iff_shadowsEarlier hhistory hshadowed
      (honKey call List.mem_cons_self) hbefore).1
    refine ⟨fun other hother ↦ honKey other (List.mem_cons_of_mem _ hother), hsorted.2, ?_⟩
    intro other hother
    refine ⟨call.now, hsorted.1 _ (List.mem_map_of_mem hother), hlater, ?_⟩
    exact (neverServesSuperseded_iff_shadowed hlater).mp hlaw

end Run

/-! ### An election served again -/

/-- A registry that knows every capability. -/
def openUseCases : SubjectPolicyUseCases where
  isKnownCapability _ := true
  errorMessage _ := "the transaction failed"

def zakatKey : ElectionKey where
  principal := ⟨"user", "tenant"⟩
  capabilityId := "ZAKAT"

/-- A pack that permits two methods. -/
def zakatOptions : SubjectOptionSet where
  capabilityId := "ZAKAT"
  jurisdictionRef := "jurisdiction:qa"
  policyPackVersion := "qa/v1"
  permittedOptions := [⟨"profile:zakat/a", ["1.0.0"]⟩, ⟨"profile:zakat/b", ["1.0.0"]⟩]

def emptyTable : SelectionTable where
  rows := []
  ids := List.nodup_nil
  checks := by simp

/-- An open-ended election of a profile at an instant, with an answering environment. -/
def electProfile (id profileRef : String) (now : Instant) : SelectionCall :=
  .record
    { principal := zakatKey.principal
      capabilityId := "ZAKAT"
      jurisdictionRef := "jurisdiction:qa"
      expectedPolicyPackVersion := "qa/v1"
      profileRef := profileRef
      profileVersion := "1.0.0"
      effectiveTo := none
      profileSnapshotHash := none
      now := now }
    { resolved := .ok (.optionSet zakatOptions)
      recheck := .ok (.optionSet zakatOptions)
      nextId := id
      createdAt := now
      outage := none
      audit := fun _ ↦ none }

def withdrawElection (id : String) (now : Instant) : SelectionCall :=
  .withdraw ⟨zakatKey.principal, id, now⟩
    { lookupOutage := none, outage := none, audit := fun _ ↦ none }

/-- The subject elects method a, then method b, then withdraws b. -/
def reelectedThenWithdrawn : List SelectionCall :=
  [electProfile "01" "profile:zakat/a" 100, electProfile "02" "profile:zakat/b" 200,
    withdrawElection "02" 300]

theorem reelectedThenWithdrawn_onKey : ∀ call ∈ reelectedThenWithdrawn, call.OnKey zakatKey := by
  simp [reelectedThenWithdrawn, electProfile, withdrawElection, SelectionCall.OnKey, zakatKey]

/-- The table after a run. -/
def tableAfter (useCases : SubjectPolicyUseCases) (table : SelectionTable)
    (calls : List SelectionCall) : SelectionTable :=
  calls.foldl (fun table call ↦ call.perform useCases table) table

/-- After the withdrawal of its successor at 300 the superseded election is served again. -/
theorem superseded_served_again :
    (∀ call ∈ reelectedThenWithdrawn, call.OnKey zakatKey) ∧
      (reelectedThenWithdrawn.map (·.now)).Pairwise (· ≤ ·) ∧
      (∃ served successor,
        (tableAfter openUseCases emptyTable reelectedThenWithdrawn).electionsOf zakatKey =
          [served, successor] ∧
        openUseCases.getVersion.execute ⟨zakatKey.principal, zakatKey.capabilityId, 300⟩ none
          (tableAfter openUseCases emptyTable reelectedThenWithdrawn) =
            .ok served.pinnedVersions ∧
        successor.effectiveFrom = 200) ∧
      ¬ EveryStep (fun table call ↦ call.perform openUseCases table)
        (KeepsLaw openUseCases zakatKey) emptyTable reelectedThenWithdrawn := by
  have hserved : ∃ served successor,
      (tableAfter openUseCases emptyTable reelectedThenWithdrawn).electionsOf zakatKey =
        [served, successor] ∧
      openUseCases.getVersion.execute ⟨zakatKey.principal, zakatKey.capabilityId, 300⟩ none
        (tableAfter openUseCases emptyTable reelectedThenWithdrawn) =
          .ok served.pinnedVersions ∧
      successor.effectiveFrom = 200 :=
    ⟨_, _, rfl, rfl, rfl⟩
  refine ⟨reelectedThenWithdrawn_onKey, by decide, hserved, ?_⟩
  rintro ⟨-, -, hlaw, -⟩
  obtain ⟨served, successor, helections, hserves, hfrom⟩ := hserved
  have hpair : [served, successor].Sublist
      ((tableAfter openUseCases emptyTable reelectedThenWithdrawn).electionsOf zakatKey) := by
    rw [helections]
  have hshadowed : 300 < successor.effectiveFrom :=
    hlaw 300 le_rfl served successor hpair hserves
  rw [hfrom] at hshadowed
  exact absurd hshadowed (by decide)

/-- `everyStep_keepsLaw_iff` at that run. -/
theorem everyStep_keepsLaw_iff_reelected :
    EveryStep (fun table call ↦ call.perform openUseCases table) (KeepsLaw openUseCases zakatKey)
        emptyTable reelectedThenWithdrawn ↔
      EveryStep (fun table call ↦ call.perform openUseCases table)
        (ShadowsEarlier openUseCases zakatKey) emptyTable reelectedThenWithdrawn :=
  everyStep_keepsLaw_iff rfl reelectedThenWithdrawn_onKey (by decide)

end SupersessionRuns

end Karar.SubjectPolicy
