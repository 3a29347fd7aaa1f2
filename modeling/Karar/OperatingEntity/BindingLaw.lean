import Karar.OperatingEntity.Bindings

/-!
# What answers for a user and a tenant

A set is meant to end the open rows of its subject and to insert their successor, and the last one to
answer from then on. The open rows are looked up by the tenant and the user, the rows in force by the
user alone. `bindings_law` says which insertions keep one open row for each subject and the latest one
on top, and exactly where a resolution then returns the last set that applies to its user and tenant.
-/

namespace Karar.OperatingEntity

open Foundation SharedKernel

/-- Every row but the last has ended, and starts before the ones after it. -/
def Ordered (rows : List OperatingEntityAssignment) : Prop :=
  rows.Pairwise fun first second ↦
    first.effectiveTo ≠ none ∧ first.effectiveFrom < second.effectiveFrom

namespace Ordered

variable {rows : List OperatingEntityAssignment} {row first second : OperatingEntityAssignment}

theorem length_open_le (hordered : Ordered rows) :
    (rows.filter (·.effectiveTo.isNone)).length ≤ 1 := by
  refine length_filter_le_one hordered fun first second hfirst _ hrelated ↦ ?_
  exact hrelated.1 (Option.isNone_iff_eq_none.mp hfirst)

theorem filter (hordered : Ordered rows) (condition : OperatingEntityAssignment → Bool) :
    Ordered (rows.filter condition) :=
  List.Pairwise.filter condition hordered

theorem lt_last (hordered : Ordered rows) (hlast : rows.getLast? = some row) (hfirst : first ∈ rows)
    (hne : first ≠ row) : first.effectiveFrom < row.effectiveFrom := by
  obtain ⟨init, rfl⟩ := List.getLast?_eq_some_iff.mp hlast
  rcases List.mem_append.mp hfirst with hinit | hsame
  · exact ((List.pairwise_append.mp hordered).2.2 first hinit row (List.mem_singleton_self row)).2
  · exact absurd (List.mem_singleton.mp hsame) hne

theorem lt_or_lt (hordered : Ordered rows) (hfirst : first ∈ rows) (hsecond : second ∈ rows)
    (hne : first ≠ second) :
    first.effectiveFrom < second.effectiveFrom ∨ second.effectiveFrom < first.effectiveFrom := by
  have hstarts : rows.Pairwise fun first second ↦
      first.effectiveFrom < second.effectiveFrom ∨ second.effectiveFrom < first.effectiveFrom :=
    hordered.imp fun hrelated ↦ .inl hrelated.2
  have hsymmetric : Std.Symm fun first second : OperatingEntityAssignment ↦
      first.effectiveFrom < second.effectiveFrom ∨ second.effectiveFrom < first.effectiveFrom :=
    ⟨fun _ _ ↦ Or.symm⟩
  exact hstarts.forall hfirst hsecond hne

/-- The last row is the newest one wherever it is in force. -/
theorem newest_eq_last (hordered : Ordered rows) (hlast : rows.getLast? = some row) {at_ : Instant}
    (hcovers : row.window.Covers at_) : newest (rows.filter (·.window.Covers at_)) = some row := by
  have hrow : row ∈ rows := List.mem_of_getLast? hlast
  refine newest_eq_of_latest (List.mem_filter.mpr ⟨hrow, by simpa using hcovers⟩) ?_
  exact fun other hother hne ↦ hordered.lt_last hlast (List.mem_filter.mp hother).1 hne

end Ordered

/-! ### What a set leaves -/

/-- Every row of the new row's subject has ended and starts before it. -/
def SucceedsIn (table : BindingTable) (row : OperatingEntityAssignment) : Prop :=
  ∀ subject ∈ row.subject, ∀ earlier ∈ table.rowsOf subject,
    earlier.effectiveTo ≠ none ∧ earlier.effectiveFrom < row.effectiveFrom

instance (table : BindingTable) (row : OperatingEntityAssignment) :
    Decidable (SucceedsIn table row) :=
  inferInstanceAs (Decidable (∀ subject ∈ row.subject, ∀ earlier ∈ table.rowsOf subject, _ ∧ _))

def Succeeds (c : EntityConfiguration) (_ : ℕ) (_ : EntityRequest) : EntityOp → Prop
  | .insertAssignment row => SucceedsIn c.store.bindings row
  | _ => True

instance (c : EntityConfiguration) (caller : ℕ) (request : EntityRequest) (op : EntityOp) :
    Decidable (Succeeds c caller request op) := by
  unfold Succeeds
  split <;> infer_instance

/-- The row is its subject's one open row, and its newest one from its start on, in any order. -/
def Takes (table : BindingTable) (row : OperatingEntityAssignment) : Prop :=
  ∀ subject ∈ row.subject,
    ((table.rowsOf subject).filter (·.effectiveTo.isNone)).length ≤ 1 ∧
      ∀ at_, row.effectiveFrom ≤ at_ → ∀ listed, listed.Perm (table.activeOf subject at_) →
        newest listed = some row

/-- Every subject has its rows in order. -/
def AllOrdered (table : BindingTable) : Prop :=
  ∀ subject, Ordered (table.rowsOf subject)

section Table

variable {table later : BindingTable}

theorem rowsOf_inserted {row : BindingRow} (hinsert : KeyedTable.insert table row = some later)
    (subject : BindingSubject) :
    later.rowsOf subject =
      table.rowsOf subject ++ if row.1.IsOf subject then [row.1] else [] := by
  unfold BindingTable.rowsOf
  rw [KeyedTable.rows_of_insert hinsert, List.map_append, List.filter_append]
  by_cases hof : row.1.IsOf subject <;> simp [hof]

/-- Ending a row, as a change of the rows. -/
def endedRow (id : String) (effectiveTo : Instant) (row : OperatingEntityAssignment) :
    OperatingEntityAssignment :=
  if row.id = id then { row with effectiveTo := some effectiveTo } else row

theorem endedRow_effectiveFrom (id : String) (effectiveTo : Instant)
    (row : OperatingEntityAssignment) :
    (endedRow id effectiveTo row).effectiveFrom = row.effectiveFrom := by
  unfold endedRow
  split_ifs <;> rfl

theorem endedRow_effectiveTo {id : String} {effectiveTo : Instant} {row : OperatingEntityAssignment}
    (hended : row.effectiveTo ≠ none) : (endedRow id effectiveTo row).effectiveTo ≠ none := by
  unfold endedRow
  split_ifs
  · exact Option.some_ne_none _
  · exact hended

theorem isOf_endedRow (id : String) (effectiveTo : Instant) (row : OperatingEntityAssignment)
    (subject : BindingSubject) : (endedRow id effectiveTo row).IsOf subject ↔ row.IsOf subject := by
  unfold endedRow
  split_ifs <;> exact Iff.rfl

theorem rowsOf_ended {id : String} {effectiveTo : Instant} {row written : BindingRow}
    (hfind : table.find id = some row)
    (hwritten : written.1 = { row.1 with effectiveTo := some effectiveTo })
    (subject : BindingSubject) :
    BindingTable.rowsOf (table.put written) subject =
      (table.rowsOf subject).map (endedRow id effectiveTo) := by
  obtain ⟨hrow, hid⟩ := KeyedTable.find_eq_some_iff.mp hfind
  have hwrittenId : written.id = id := by
    show written.1.id = id
    rw [hwritten]
    exact hid
  have hrows : (table.put written).rows.map (·.1) =
      (table.rows.map (·.1)).map (endedRow id effectiveTo) := by
    rw [KeyedTable.rows_put, List.map_map, List.map_map]
    refine List.map_congr_left fun old hold ↦ ?_
    simp only [Function.comp, hwrittenId, endedRow]
    by_cases hsame : old.id = id
    · obtain rfl := table.eq_of_key hold hrow (hsame.trans hid.symm)
      rw [if_pos hsame, if_pos hsame, hwritten]
    · rw [if_neg hsame, if_neg hsame]
  unfold BindingTable.rowsOf
  rw [hrows, List.filter_map]
  congr 1
  refine List.filter_congr fun old _ ↦ ?_
  simp [isOf_endedRow]

theorem allOrdered_ended {id : String} {effectiveTo : Instant} {row written : BindingRow}
    (hordered : AllOrdered table) (hfind : table.find id = some row)
    (hwritten : written.1 = { row.1 with effectiveTo := some effectiveTo }) :
    AllOrdered (table.put written) := by
  intro subject
  rw [rowsOf_ended hfind hwritten]
  refine List.pairwise_map.mpr ((hordered subject).imp fun hrelated ↦ ?_)
  rw [endedRow_effectiveFrom, endedRow_effectiveFrom]
  exact ⟨endedRow_effectiveTo hrelated.1, hrelated.2⟩

theorem allOrdered_inserted {row : BindingRow} (hordered : AllOrdered table)
    (hinsert : KeyedTable.insert table row = some later) (hsucceeds : SucceedsIn table row.1) :
    AllOrdered later := by
  intro subject
  rw [rowsOf_inserted hinsert]
  by_cases hof : row.1.IsOf subject
  · rw [if_pos hof]
    refine List.pairwise_append.mpr ⟨hordered subject, List.pairwise_singleton _ _, ?_⟩
    intro earlier hearlier other hother
    rw [List.mem_singleton.mp hother]
    exact hsucceeds subject hof earlier hearlier
  · rw [if_neg hof, List.append_nil]
    exact hordered subject

/-- An open row takes over exactly if every row of its subject has ended and starts before it. -/
theorem takes_iff {row : BindingRow} (hordered : AllOrdered table)
    (hinsert : KeyedTable.insert table row = some later) (hopen : row.1.effectiveTo = none) :
    Takes later row.1 ↔ SucceedsIn table row.1 := by
  have hnonempty : row.1.window.Nonempty := row.2.1
  have hcovers : ∀ at_, row.1.effectiveFrom ≤ at_ → row.1.window.Covers at_ := by
    intro at_ hle
    refine ⟨hle, fun ending hending ↦ ?_⟩
    exact absurd (hending.symm.trans hopen) (Option.some_ne_none _)
  constructor
  · intro htakes subject hof earlier hearlier
    obtain ⟨hone, hnewest⟩ := htakes subject hof
    have hofRow : row.1.IsOf subject := hof
    have hrows : later.rowsOf subject = table.rowsOf subject ++ [row.1] := by
      rw [rowsOf_inserted hinsert, if_pos hofRow]
    constructor
    · -- Two open rows would be too many.
      intro hearlierOpen
      rw [hrows, List.filter_append] at hone
      have hmem : earlier ∈ (table.rowsOf subject).filter (·.effectiveTo.isNone) :=
        List.mem_filter.mpr ⟨hearlier, by simp [hearlierOpen]⟩
      have hpos := List.length_pos_of_mem hmem
      rw [List.length_append] at hone
      simp only [hopen, List.filter_cons, Option.isNone_none, if_true, List.filter_nil,
        List.length_singleton] at hone
      omega
    · by_contra hnot
      have hle : row.1.effectiveFrom ≤ earlier.effectiveFrom := not_lt.mp hnot
      obtain ⟨⟨stored, hstored, hsame⟩, -⟩ := BindingTable.mem_rowsOf.mp hearlier
      have hactive : earlier ∈ later.activeOf subject earlier.effectiveFrom := by
        refine BindingTable.mem_activeOf.mpr ⟨?_, Window.covers_start (hsame ▸ stored.2.1)⟩
        rw [hrows]
        exact List.mem_append_left _ hearlier
      have hfirst := hnewest earlier.effectiveFrom hle _ (List.perm_cons_erase hactive).symm
      have hlatest := (newest_spec hfirst).2
      have hearlierFirst : newest (earlier ::
          (later.activeOf subject earlier.effectiveFrom).erase earlier) = some earlier := by
        refine newest_cons_eq fun other hother ↦ ?_
        exact (hlatest other (List.mem_cons_of_mem _ hother)).trans hle
      have hrow : earlier = row.1 := Option.some.inj (hearlierFirst.symm.trans hfirst)
      have hkey : stored.id = row.id := congrArg OperatingEntityAssignment.id (hsame.trans hrow)
      exact KeyedTable.key_ne_of_insert hinsert stored hstored hkey
  · intro hsucceeds subject hof
    have hofRow : row.1.IsOf subject := hof
    have hlater := allOrdered_inserted hordered hinsert hsucceeds subject
    refine ⟨hlater.length_open_le, fun at_ hle listed hperm ↦ ?_⟩
    have hlast : (later.rowsOf subject).getLast? = some row.1 := by
      rw [rowsOf_inserted hinsert, if_pos hofRow]
      simp
    have hmem : row.1 ∈ later.activeOf subject at_ :=
      BindingTable.mem_activeOf.mpr ⟨List.mem_of_getLast? hlast, hcovers at_ hle⟩
    refine newest_eq_of_latest (hperm.mem_iff.mpr hmem) fun other hother hne ↦ ?_
    exact hlater.lt_last hlast (BindingTable.mem_activeOf.mp (hperm.mem_iff.mp hother)).1 hne

end Table

/-! ### The last set that applies -/

/-- A contracting row applies to the tenant it was recorded for, or to every one. -/
def Applies (tenantId : TenantId) (row : OperatingEntityAssignment) : Prop :=
  row.tenantId = none ∨ row.tenantId = some tenantId

instance (tenantId : TenantId) (row : OperatingEntityAssignment) : Decidable (Applies tenantId row) :=
  inferInstanceAs (Decidable (_ ∨ _))

namespace BindingTable

open ResolveEffectiveOperatingEntity

def contractingRows (table : BindingTable) (userId : Option UserId) :
    List OperatingEntityAssignment :=
  userId.elim [] fun userId ↦ table.rowsOf (.user userId)

/-- The last row set for the user that applies to the tenant, or the last one set for the tenant. -/
def lastSet (table : BindingTable) (input : Input) : Option OperatingEntityAssignment :=
  ((table.contractingRows input.userId).filter (Applies input.tenantId ·)).getLast?.or
    (table.rowsOf (.tenant input.tenantId)).getLast?

/-- The resolution that the last set asks for. -/
def expected (table : BindingTable) (input : Input) :
    Except ResolveEffectiveEntityError EffectiveOperatingEntity :=
  match table.lastSet input with
  | some row => .ok (effective row.scope row)
  | none => .error noEffectiveEntity

/-- The last set that applies is in force, and a contracting row recorded for another tenant is not,
or starts before one in force that applies. -/
def Answers (table : BindingTable) (input : Input) : Prop :=
  (∀ row ∈ table.lastSet input, row.window.Covers input.at_) ∧
    ∀ row ∈ table.contractingRows input.userId, row.window.Covers input.at_ →
      Applies input.tenantId row ∨
        ∃ other ∈ table.contractingRows input.userId, Applies input.tenantId other ∧
          other.window.Covers input.at_ ∧ row.effectiveFrom < other.effectiveFrom

instance (table : BindingTable) (input : Input) : Decidable (table.Answers input) :=
  inferInstanceAs (Decidable ((∀ row ∈ table.lastSet input, _) ∧
    ∀ row ∈ table.contractingRows input.userId, _ → (_ ∨
      ∃ other ∈ table.contractingRows input.userId, _ ∧ _ ∧ _)))

variable {table : BindingTable} {input : Input} {first second row : OperatingEntityAssignment}

theorem eq_of_id {subject other : BindingSubject} (hfirst : first ∈ table.rowsOf subject)
    (hsecond : second ∈ table.rowsOf other) (hid : first.id = second.id) : first = second := by
  obtain ⟨⟨stored, hstored, rfl⟩, -⟩ := mem_rowsOf.mp hfirst
  obtain ⟨⟨found, hfound, rfl⟩, -⟩ := mem_rowsOf.mp hsecond
  exact congrArg Subtype.val (KeyedTable.eq_of_key hstored hfound hid)

theorem mem_contractingRows : row ∈ table.contractingRows input.userId ↔
    ∃ userId ∈ input.userId, row ∈ table.rowsOf (.user userId) := by
  unfold contractingRows
  cases input.userId <;> simp

theorem contracting_eq (table : BindingTable) (input : Input) :
    table.contracting input.userId input.at_ =
      newest ((table.contractingRows input.userId).filter (·.window.Covers input.at_)) := by
  unfold contracting contractingRows
  cases input.userId <;> rfl

theorem ordered_contractingRows (hordered : AllOrdered table) (userId : Option UserId) :
    Ordered (table.contractingRows userId) := by
  unfold contractingRows
  cases userId with
  | none => exact List.Pairwise.nil
  | some userId => exact hordered _

theorem scope_of_mem_contractingRows (hrow : row ∈ table.contractingRows input.userId) :
    row.scope = .userContracting := by
  obtain ⟨userId, -, hrows⟩ := mem_contractingRows.mp hrow
  exact (isOf_user_iff.mp (mem_rowsOf.mp hrows).2).1

theorem scope_of_mem_defaults (hrow : row ∈ table.rowsOf (.tenant input.tenantId)) :
    row.scope = .tenantDefault :=
  (isOf_tenant_iff.mp (mem_rowsOf.mp hrow).2).1

/-- The contracting rows that apply, in the order of their insertion. -/
def applyingRows (table : BindingTable) (input : Input) : List OperatingEntityAssignment :=
  (table.contractingRows input.userId).filter (Applies input.tenantId ·)

theorem mem_applyingRows : row ∈ table.applyingRows input ↔
    row ∈ table.contractingRows input.userId ∧ Applies input.tenantId row := by
  unfold applyingRows
  simp

theorem lastSet_of_applying (hlast : (table.applyingRows input).getLast? = some row) :
    table.lastSet input = some row := by
  unfold applyingRows at hlast
  simp [lastSet, hlast]

theorem lastSet_of_none (hnone : (table.applyingRows input).getLast? = none) :
    table.lastSet input = (table.rowsOf (.tenant input.tenantId)).getLast? := by
  unfold applyingRows at hnone
  simp [lastSet, hnone]

theorem expected_of_applying (hlast : (table.applyingRows input).getLast? = some row) :
    table.expected input = .ok (effective .userContracting row) := by
  have hmem := (mem_applyingRows.mp (List.mem_of_getLast? hlast)).1
  simp only [expected, lastSet_of_applying hlast, scope_of_mem_contractingRows hmem]

theorem expected_of_none (hnone : (table.applyingRows input).getLast? = none) :
    table.expected input =
      match (table.rowsOf (.tenant input.tenantId)).getLast? with
      | some row => .ok (effective .tenantDefault row)
      | none => .error noEffectiveEntity := by
  unfold expected
  rw [lastSet_of_none hnone]
  cases hlast : (table.rowsOf (.tenant input.tenantId)).getLast? with
  | none => rfl
  | some row =>
    show _ = Except.ok (effective .tenantDefault row)
    simp only [scope_of_mem_defaults (List.mem_of_getLast? hlast)]

theorem resolution_of_answers (hordered : AllOrdered table) (hanswers : table.Answers input) :
    table.resolution input = table.expected input := by
  obtain ⟨hinForce, hothers⟩ := hanswers
  unfold resolution
  rw [contracting_eq]
  cases hlast : (table.applyingRows input).getLast? with
  | some last =>
    have hmem := mem_applyingRows.mp (List.mem_of_getLast? hlast)
    have hcovers := hinForce last (lastSet_of_applying hlast)
    have hpicked : newest ((table.contractingRows input.userId).filter
        (·.window.Covers input.at_)) = some last := by
      have happlying : Ordered (table.applyingRows input) :=
        (ordered_contractingRows hordered _).filter _
      refine newest_eq_of_latest (List.mem_filter.mpr ⟨hmem.1, by simpa using hcovers⟩) ?_
      intro other hother hne
      obtain ⟨hrow, hcovered⟩ := List.mem_filter.mp hother
      rcases hothers other hrow (by simpa using hcovered) with happlies | hstarts
      · exact happlying.lt_last hlast (mem_applyingRows.mpr ⟨hrow, happlies⟩) hne
      · obtain ⟨applying, hlisted, happlies, -, hlt⟩ := hstarts
        by_cases hsame : applying = last
        · exact hsame ▸ hlt
        · exact hlt.trans
            (happlying.lt_last hlast (mem_applyingRows.mpr ⟨hlisted, happlies⟩) hsame)
    rw [hpicked, expected_of_applying hlast]
  | none =>
    have hempty : table.applyingRows input = [] := List.getLast?_eq_none_iff.mp hlast
    have hnotApplying : ∀ row ∈ table.contractingRows input.userId, ¬ Applies input.tenantId row := by
      intro row hrow happlies
      have hmem := mem_applyingRows.mpr ⟨hrow, happlies⟩
      rw [hempty] at hmem
      exact List.not_mem_nil hmem
    have hnoneInForce : (table.contractingRows input.userId).filter
        (·.window.Covers input.at_) = [] := by
      rw [List.filter_eq_nil_iff]
      intro row hrow hcovered
      rcases hothers row hrow (by simpa using hcovered) with happlies | ⟨other, hother, happlies, -⟩
      · exact hnotApplying row hrow happlies
      · exact hnotApplying other hother happlies
    rw [hnoneInForce, newest_eq_none_iff.mpr rfl, expected_of_none hlast]
    cases hdefault : (table.rowsOf (.tenant input.tenantId)).getLast? with
    | some last =>
      have hcovers := hinForce last ((lastSet_of_none hlast).trans hdefault)
      have hpicked : newest (table.activeOf (.tenant input.tenantId) input.at_) = some last :=
        (hordered _).newest_eq_last hdefault hcovers
      simp only [hpicked]
    | none =>
      have hnoRows : table.activeOf (.tenant input.tenantId) input.at_ = [] := by
        unfold activeOf
        rw [List.getLast?_eq_none_iff.mp hdefault, List.filter_nil]
      simp only [newest_eq_none_iff.mpr hnoRows]

theorem answers_of_resolution (hordered : AllOrdered table)
    (hresolution : table.resolution input = table.expected input) : table.Answers input := by
  unfold resolution at hresolution
  rw [contracting_eq] at hresolution
  cases hlast : (table.applyingRows input).getLast? with
  | some last =>
    have hmem := mem_applyingRows.mp (List.mem_of_getLast? hlast)
    rw [expected_of_applying hlast] at hresolution
    cases hpicked : newest ((table.contractingRows input.userId).filter
        (·.window.Covers input.at_)) with
    | none =>
      rw [hpicked] at hresolution
      cases hdefault : newest (table.activeOf (.tenant input.tenantId) input.at_) <;>
        simp [hdefault, effective] at hresolution
    | some picked =>
      rw [hpicked] at hresolution
      obtain ⟨hlisted, hlatest⟩ := newest_spec hpicked
      have hrow := (List.mem_filter.mp hlisted).1
      -- The two answers name the same row.
      have hid : picked.id = last.id :=
        congrArg EffectiveOperatingEntity.assignmentId (Except.ok.inj hresolution)
      have hsame : picked = last := by
        obtain ⟨userId, -, hpickedRow⟩ := mem_contractingRows.mp hrow
        obtain ⟨other, -, hlastRow⟩ := mem_contractingRows.mp hmem.1
        exact eq_of_id hpickedRow hlastRow hid
      have hcovers : last.window.Covers input.at_ := by
        simpa [hsame] using (List.mem_filter.mp hlisted).2
      constructor
      · intro row hset
        rw [lastSet_of_applying hlast] at hset
        exact Option.some.inj hset ▸ hcovers
      · intro row hother hcovered
        by_cases happlies : Applies input.tenantId row
        · exact .inl happlies
        · have hne : row ≠ last := fun heq ↦ happlies (heq ▸ hmem.2)
          have hle := hlatest row (List.mem_filter.mpr ⟨hother, by simpa using hcovered⟩)
          rw [hsame] at hle
          refine .inr ⟨last, hmem.1, hmem.2, hcovers, ?_⟩
          exact ((ordered_contractingRows hordered _).lt_or_lt hother hmem.1 hne).resolve_right
            (not_lt.mpr hle)
  | none =>
    rw [expected_of_none hlast] at hresolution
    cases hpicked : newest ((table.contractingRows input.userId).filter
        (·.window.Covers input.at_)) with
    | some picked =>
      rw [hpicked] at hresolution
      cases hdefault : (table.rowsOf (.tenant input.tenantId)).getLast? <;>
        simp [hdefault, effective] at hresolution
    | none =>
      rw [hpicked] at hresolution
      have hnoneInForce := newest_eq_none_iff.mp hpicked
      rw [List.filter_eq_nil_iff] at hnoneInForce
      constructor
      · intro row hset
        rw [lastSet_of_none hlast, Option.mem_def] at hset
        have hrow := List.mem_of_getLast? hset
        rw [hset] at hresolution
        cases hdefault : newest (table.activeOf (.tenant input.tenantId) input.at_) with
        | none => simp [hdefault] at hresolution
        | some picked =>
          simp only [hdefault] at hresolution
          obtain ⟨hactive, hcovers⟩ := mem_activeOf.mp (newest_spec hdefault).1
          have hid : picked.id = row.id :=
            congrArg EffectiveOperatingEntity.assignmentId (Except.ok.inj hresolution)
          exact eq_of_id hactive hrow hid ▸ hcovers
      · intro row hrow hcovered
        exact absurd (by simpa using hcovered) (hnoneInForce row hrow)

/-- The last set answers exactly where it is in force and no set for another tenant is in its way. -/
theorem resolution_eq_expected_iff (hordered : AllOrdered table) :
    table.resolution input = table.expected input ↔ table.Answers input :=
  ⟨answers_of_resolution hordered, resolution_of_answers hordered⟩

end BindingTable

/-! ### Runs -/

section Run

variable {store : EntityStore} {c later : EntityConfiguration} {event : EntityEvent}

theorem allOrdered_step (hmeets : Meets Succeeds c event)
    (hstep : entityMachine.step c event = some later) (hordered : AllOrdered c.store.bindings) :
    AllOrdered later.store.bindings := by
  cases Machine.steps_of_step_eq_some hstep with
  | start request => exact hordered
  | end_ hcall => exact hordered
  | turn entityId => exact hordered
  | @perform caller oracle request op next store answer hcall hanswer =>
    have hsucceeds := hmeets.performed hcall
    have hchanges := (changes_of_answered hanswer).2
    show AllOrdered store.bindings
    generalize store.bindings = after at hchanges
    cases hchanges with
    | kept answer => exact hordered
    | inserted hinsert => exact allOrdered_inserted hordered hinsert hsucceeds
    | ended hfind hopen hwritten => exact allOrdered_ended hordered hfind hwritten

theorem allOrdered_of_reaches (hreaches : entityMachine.Reaches (Meets Succeeds) (.initial store) c)
    (hstart : AllOrdered store.bindings) : AllOrdered c.store.bindings := by
  induction hreaches with
  | refl => exact hstart
  | step _ hmeets hstep ih => exact allOrdered_step hmeets hstep ih

/-- The row that an answered insertion puts into the table. -/
theorem inserted_of_history {caller : ℕ} {oracle : EntityOracle} {row : OperatingEntityAssignment}
    (hstep : entityMachine.step c (.advance caller oracle) = some later)
    (hhistory : later.history = ⟨caller, .insertAssignment row, .ok ()⟩ :: c.history) :
    ∃ inserted : BindingRow, inserted.1 = row ∧
      KeyedTable.insert c.store.bindings inserted = some later.store.bindings := by
  obtain ⟨_, request, next, -, -, hanswer⟩ :=
    Machine.performed_of_history_eq_cons hstep hhistory
  have hperform := perform_of_performOrFail (perform_of_answered hanswer)
  obtain ⟨bindings, hinsert, heq⟩ := bind_eq_ok hperform
  obtain ⟨hlater, -⟩ := Prod.mk.inj (Except.ok.inj heq)
  rw [← hlater]
  exact BindingTable.insert_eq_ok hinsert

/-- Where every insertion succeeds the rows of its subject, no subject has two open rows, and a
resolution returns the last set that applies exactly where that one is in force and no contracting row
recorded for another tenant is newer than those that apply. An open row that is inserted next takes
over exactly if it succeeds the rows of its subject. -/
theorem bindings_law (hreaches : entityMachine.Reaches (Meets Succeeds) (.initial store) c)
    (hstart : AllOrdered store.bindings) :
    (∀ subject,
        ((c.store.bindings.rowsOf subject).filter (·.effectiveTo.isNone)).length ≤ 1) ∧
      (∀ input, resolveIn c.store input = .ok (c.store.bindings.expected input) ↔
        c.store.bindings.Answers input) ∧
      ∀ caller oracle row later, entityMachine.step c (.advance caller oracle) = some later →
        later.history = ⟨caller, .insertAssignment row, .ok ()⟩ :: c.history →
        row.effectiveTo = none →
        (Takes later.store.bindings row ↔ SucceedsIn c.store.bindings row) := by
  have hordered := allOrdered_of_reaches hreaches hstart
  refine ⟨fun subject ↦ (hordered subject).length_open_le, fun input ↦ ?_, ?_⟩
  · rw [resolveIn_eq, ← BindingTable.resolution_eq_expected_iff hordered]
    exact ⟨Except.ok.inj, congrArg Except.ok⟩
  · intro caller oracle row later hstep hhistory hopen
    obtain ⟨inserted, rfl, hinsert⟩ := inserted_of_history hstep hhistory
    exact takes_iff hordered hinsert hopen

end Run

/-! ### Two tenants of a user -/

namespace BindingScenario

def operator : PolicyPrincipal := ⟨"user:operator", none⟩

def home : TenantId := ⟨"22222222-2222-4222-8222-222222222222", isUuid_twos⟩

def other : TenantId := ⟨"33333333-3333-4333-8333-333333333333", isUuid_threes⟩

def userId : UserId := ⟨"44444444-4444-4444-8444-444444444444", isUuid_fours⟩

def store : EntityStore := ⟨["first", "second"], .empty, .empty⟩

theorem allOrdered_store : AllOrdered store.bindings :=
  fun _ ↦ List.Pairwise.nil

def steps (caller count : ℕ) (id : String) : List EntityEvent :=
  List.replicate count (.advance caller { id })

/-- The default of a tenant is set, and set again. -/
def resetting : List EntityEvent :=
  [.start (.setTenantDefault ⟨operator, home, "first", 0, 0⟩)] ++ steps 0 6 "one" ++
    [.start (.setTenantDefault ⟨operator, home, "second", 5, 5⟩)] ++ steps 1 7 "two"

def reset : EntityConfiguration :=
  entityMachine.finish (Meets Succeeds) (.initial store) resetting

/-- A user contracts with an entity for one tenant, and with another one for another. -/
def contractingTwice : List EntityEvent :=
  [.start (.setUserContracting ⟨operator, userId, some home, "first", 0, 0⟩)] ++ steps 0 6 "one" ++
    [.start (.setUserContracting ⟨operator, userId, some other, "second", 5, 5⟩)] ++
    steps 1 6 "two"

def contractedTwice : EntityConfiguration :=
  entityMachine.finish (fun _ _ ↦ True) (.initial store) contractingTwice

/-- The user in the first tenant, after both sets. -/
def atHome : ResolveEffectiveOperatingEntity.Input := ⟨home, some userId, 10⟩

end BindingScenario

open BindingScenario in
theorem bindings_law_reset :
    resolveIn reset.store ⟨home, none, 10⟩ = .ok (.ok ⟨"second", .tenantDefault, "two"⟩) := by
  have hlaw := bindings_law (Machine.reaches_finish resetting) allOrdered_store
  have hexpected : reset.store.bindings.expected ⟨home, none, 10⟩ =
      .ok ⟨"second", .tenantDefault, "two"⟩ := by decide
  rw [← hexpected]
  exact (hlaw.2.1 ⟨home, none, 10⟩).mpr (by decide)

open BindingScenario in
theorem contractedTwice_answers_other : ¬ ∀ store c, AllOrdered store.bindings →
    entityMachine.Reaches (fun _ _ ↦ True) (.initial store) c →
      (∀ subject,
        ((c.store.bindings.rowsOf subject).filter (·.effectiveTo.isNone)).length ≤ 1) ∧
      ∀ input, (∀ row ∈ c.store.bindings.rows, row.1.effectiveFrom ≤ input.at_) →
        resolveIn c.store input = .ok (c.store.bindings.expected input) := by
  intro hlaw
  have hresolves := (hlaw store contractedTwice allOrdered_store
    (Machine.reaches_finish contractingTwice)).2 atHome (by decide)
  have hsecond : resolveIn contractedTwice.store atHome =
      .ok (.ok ⟨"second", .userContracting, "two"⟩) := by decide
  have hfirst : contractedTwice.store.bindings.expected atHome =
      .ok ⟨"first", .userContracting, "one"⟩ := by decide
  rw [hsecond, hfirst] at hresolves
  exact absurd hresolves (by decide)

end Karar.OperatingEntity
