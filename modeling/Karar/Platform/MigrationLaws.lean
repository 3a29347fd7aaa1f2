import Karar.Platform.Migrations

/-!
# Laws of the migration runner

The files of a directory are listed in the strict order of their numbers, in whatever order
`readdir` lists them (`loadMigrationFiles_perm`). A table that records a leading part of them has no
drift, and what is pending is the rest (`reconcile_of_take`). A transaction that applies a file to
such a table commits where the file is the next one, and only there (`progressed_of_transact`).

`verifyMigrations` and `migrateToLatest` compare the same files with the same rows. Both look for drift and
list the files without a row; only `reconcile` refuses a file that is numbered below a recorded version. So
the report agrees with the run except where such a file is pending and nothing has drifted
(`agrees_iff`).
-/

namespace Karar.Platform

/-! ## Files and recorded rows -/

section MigrationLaws

open Foundation

/-! ### The files of a directory -/

/-- Files in the strict order of their numbers. -/
def InOrder (files : List MigrationFile) : Prop :=
  files.Pairwise fun first second ↦ first.version < second.version

section Load

variable {libraries : MigrationLibraries}

theorem loadEntries_eq_ok {entries : List DirectoryEntry} {files : List MigrationFile}
    (hload : loadEntries libraries entries = .ok files) :
    (∀ entry ∈ entries, ∃ loaded, loadEntry libraries entry = .ok loaded) ∧
      files = entries.flatMap fun entry ↦
        ((loadEntry libraries entry).toOption.getD none).toList := by
  induction entries generalizing files with
  | nil => exact ⟨by simp, (Except.ok.inj hload).symm⟩
  | cons entry entries ih =>
    unfold loadEntries at hload
    cases hentry : loadEntry libraries entry with
    | error error => simp [hentry] at hload
    | ok loaded =>
      cases hrest : loadEntries libraries entries with
      | error error => simp [hentry, hrest, Except.map] at hload
      | ok rest =>
        simp only [hentry, hrest, Except.map, Except.ok.injEq] at hload
        obtain ⟨hall, hfiles⟩ := ih hrest
        constructor
        · intro other hother
          rcases List.mem_cons.mp hother with rfl | hlater
          · exact ⟨loaded, hentry⟩
          · exact hall other hlater
        · rw [List.flatMap_cons, ← hfiles, ← hload, hentry]
          rfl

theorem loadEntries_of_forall {entries : List DirectoryEntry}
    (hall : ∀ entry ∈ entries, ∃ loaded, loadEntry libraries entry = .ok loaded) :
    ∃ files, loadEntries libraries entries = .ok files := by
  induction entries with
  | nil => exact ⟨[], rfl⟩
  | cons entry entries ih =>
    obtain ⟨loaded, hentry⟩ := hall entry List.mem_cons_self
    obtain ⟨rest, hrest⟩ := ih fun other hother ↦ hall other (List.mem_cons_of_mem _ hother)
    refine ⟨loaded.toList ++ rest, ?_⟩
    simp [loadEntries, hentry, hrest, Except.map]

theorem isChain_of_findDuplicate {files : List MigrationFile}
    (hsorted : files.Pairwise fun first second ↦ first.version ≤ second.version)
    (hnone : findDuplicate files = none) :
    files.IsChain fun first second ↦ first.version < second.version := by
  induction files with
  | nil => exact List.IsChain.nil
  | cons previous files ih =>
    cases files with
    | nil => exact List.IsChain.singleton _
    | cons current files =>
      unfold findDuplicate at hnone
      split_ifs at hnone with hsame
      have hle := (List.pairwise_cons.mp hsorted).1 current List.mem_cons_self
      refine List.IsChain.cons_cons ?_ (ih (List.pairwise_cons.mp hsorted).2 hnone)
      exact Nat.lt_of_le_of_ne hle hsame

instance : Trans (fun first second : MigrationFile ↦ first.version < second.version)
    (fun first second : MigrationFile ↦ first.version < second.version)
    fun first second : MigrationFile ↦ first.version < second.version :=
  ⟨Nat.lt_trans⟩

instance : Std.Total fun first second : MigrationFile ↦ first.version ≤ second.version :=
  ⟨fun _ _ ↦ Nat.le_total _ _⟩

instance : IsTrans MigrationFile fun first second ↦ first.version ≤ second.version :=
  ⟨fun _ _ _ ↦ Nat.le_trans⟩

theorem findDuplicate_of_inOrder {files : List MigrationFile} (horder : InOrder files) :
    findDuplicate files = none := by
  induction files with
  | nil => rfl
  | cons previous files ih =>
    cases files with
    | nil => rfl
    | cons current files =>
      have hlt := (List.pairwise_cons.mp horder).1 current List.mem_cons_self
      unfold findDuplicate
      rw [if_neg (Nat.ne_of_lt hlt)]
      exact ih (List.pairwise_cons.mp horder).2

/-- What a directory loads: its migrations, in the strict order of their numbers. -/
theorem loadMigrationFiles_eq_ok {entries : List DirectoryEntry} {files : List MigrationFile}
    (hload : loadMigrationFiles libraries entries = .ok files) :
    ∃ loaded, loadEntries libraries entries = .ok loaded ∧ files.Perm loaded ∧ InOrder files := by
  unfold loadMigrationFiles at hload
  cases hentries : loadEntries libraries entries with
  | error error => simp [hentries] at hload
  | ok loaded =>
    simp only [hentries] at hload
    split at hload
    · cases hload
    · rename_i hnone
      obtain rfl := Except.ok.inj hload
      refine ⟨loaded, rfl, List.perm_insertionSort _ _, ?_⟩
      exact (isChain_of_findDuplicate (List.pairwise_insertionSort _ _) hnone).pairwise

/-- A number has one place in files in order. -/
theorem InOrder.lt_iff {files : List MigrationFile} (horder : InOrder files) {i j : ℕ}
    (hi : i < files.length) (hj : j < files.length) :
    files[i].version < files[j].version ↔ i < j := by
  have hforward : ∀ {i j : ℕ} (hi : i < files.length) (hj : j < files.length), i < j →
      files[i].version < files[j].version :=
    fun hi hj hlt ↦ List.pairwise_iff_getElem.mp horder _ _ hi hj hlt
  constructor
  · intro hversion
    rcases Nat.lt_trichotomy i j with hlt | rfl | hgt
    · exact hlt
    · exact absurd hversion (Nat.lt_irrefl _)
    · exact absurd hversion (Nat.lt_asymm (hforward hj hi hgt))
  · exact hforward hi hj

theorem InOrder.eq_of_version {files : List MigrationFile} (horder : InOrder files)
    {first second : MigrationFile} (hfirst : first ∈ files) (hsecond : second ∈ files)
    (hversion : first.version = second.version) : first = second := by
  obtain ⟨i, hi, rfl⟩ := List.getElem_of_mem hfirst
  obtain ⟨j, hj, rfl⟩ := List.getElem_of_mem hsecond
  have hij : ¬ i < j := fun hlt ↦ Nat.ne_of_lt ((horder.lt_iff hi hj).mpr hlt) hversion
  have hji : ¬ j < i := fun hlt ↦ Nat.ne_of_gt ((horder.lt_iff hj hi).mpr hlt) hversion
  have hsame : i = j := by omega
  simp [hsame]

/-- The order in which `readdir` lists the directory does not matter. -/
theorem loadMigrationFiles_perm {entries listing : List DirectoryEntry}
    {files : List MigrationFile} (hperm : listing.Perm entries)
    (hload : loadMigrationFiles libraries entries = .ok files) :
    loadMigrationFiles libraries listing = .ok files := by
  obtain ⟨loaded, hloaded, hfiles, horder⟩ := loadMigrationFiles_eq_ok hload
  obtain ⟨hall, rfl⟩ := loadEntries_eq_ok hloaded
  have hloads : ∀ entry ∈ listing, ∃ loaded, loadEntry libraries entry = .ok loaded :=
    fun entry hentry ↦ hall entry (hperm.mem_iff.mp hentry)
  obtain ⟨listed, hlisted⟩ := loadEntries_of_forall hloads
  have hsame : listed.Perm files := by
    rw [(loadEntries_eq_ok hlisted).2]
    exact (hperm.flatMap_right _).trans hfiles.symm
  -- The sorted listing has the files, in some order that never goes down.
  have hsorted : listed.insertionSort (fun first second ↦ first.version ≤ second.version) =
      files := by
    refine ((List.perm_insertionSort _ _).trans hsame).eq_of_pairwise ?_
      (List.pairwise_insertionSort _ _) (horder.imp fun h ↦ Nat.le_of_lt h)
    intro a b ha hb hab hba
    have hmem : a ∈ files := hsame.mem_iff.mp ((List.mem_insertionSort _).mp ha)
    exact horder.eq_of_version hmem hb (Nat.le_antisymm hab hba)
  unfold loadMigrationFiles
  simp only [hlisted, hsorted, findDuplicate_of_inOrder horder]

end Load

/-! ### Reconciliation -/

/-- What a row records of its file. -/
abbrev Record := ℕ × String × String

def MigrationFile.record (file : MigrationFile) : Record := (file.version, file.name, file.checksum)

def AppliedMigration.record (row : AppliedMigration) : Record :=
  (row.version, row.name, row.checksum)

section Reconcile

variable {files : List MigrationFile} {rows : List AppliedMigration} {n : ℕ}

theorem fileByVersion_of_mem (horder : InOrder files) {file : MigrationFile}
    (hfile : file ∈ files) : fileByVersion files file.version = some file := by
  unfold fileByVersion
  cases hfind : files.reverse.find? (·.version = file.version) with
  | none =>
    have hnone := List.find?_eq_none.mp hfind file (List.mem_reverse.mpr hfile)
    simp at hnone
  | some found =>
    have hversion : found.version = file.version := by simpa using List.find?_some hfind
    have hfound : found ∈ files := List.mem_reverse.mp (List.mem_of_find?_eq_some hfind)
    rw [horder.eq_of_version hfound hfile hversion]

/-- A row that records a file is as its file. -/
theorem classifyApplied_of_record (horder : InOrder files) {row : AppliedMigration}
    (hrow : row.record ∈ files.map MigrationFile.record) :
    classifyApplied row (fileByVersion files row.version) = .ok := by
  obtain ⟨file, hfile, hrecord⟩ := List.mem_map.mp hrow
  simp only [MigrationFile.record, AppliedMigration.record, Prod.mk.injEq] at hrecord
  obtain ⟨hversion, hname, hchecksum⟩ := hrecord
  rw [← hversion, fileByVersion_of_mem horder hfile]
  simp [classifyApplied, hname, hchecksum]

/-- Every row records a file in the place it has among the files. -/
theorem record_mem_of_take (hrows : rows.map (·.record) = (files.take n).map (·.record))
    {row : AppliedMigration} (hrow : row ∈ rows) : row.record ∈ files.map MigrationFile.record := by
  have hmem : row.record ∈ rows.map (·.record) := List.mem_map_of_mem hrow
  rw [hrows] at hmem
  obtain ⟨file, hfile, hrecord⟩ := List.mem_map.mp hmem
  exact List.mem_map.mpr ⟨file, List.mem_of_mem_take hfile, hrecord⟩

theorem findDrift_of_take (horder : InOrder files)
    (hrows : rows.map (·.record) = (files.take n).map (·.record)) :
    findDrift files rows = none := by
  refine List.find?_eq_none.mpr fun row hrow ↦ ?_
  simp [classifyApplied_of_record horder (record_mem_of_take hrows hrow)]

theorem map_version_of_take (hrows : rows.map (·.record) = (files.take n).map (·.record)) :
    rows.map (·.version) = (files.take n).map (·.version) := by
  have hfirst := congrArg (List.map Prod.fst) hrows
  simpa [List.map_map, Function.comp_def, MigrationFile.record, AppliedMigration.record]
    using hfirst

/-- The files after the recorded ones are numbered above them. -/
theorem InOrder.lt_of_take_drop (horder : InOrder files) {first second : MigrationFile}
    (hfirst : first ∈ files.take n) (hsecond : second ∈ files.drop n) :
    first.version < second.version := by
  have hsplit : (files.take n ++ files.drop n).Pairwise fun first second ↦
      first.version < second.version := by
    rw [List.take_append_drop]
    exact horder
  exact (List.pairwise_append.mp hsplit).2.2 first hfirst second hsecond

theorem pendingOf_of_take (horder : InOrder files)
    (hrows : rows.map (·.record) = (files.take n).map (·.record)) :
    pendingOf files rows = files.drop n := by
  unfold pendingOf
  rw [map_version_of_take hrows]
  conv_lhs => rw [← List.take_append_drop n files]
  rw [List.filter_append]
  have htaken : (files.take n).filter (fun file ↦
      !((files.take n).map (·.version)).contains file.version) = [] := by
    refine List.filter_eq_nil_iff.mpr fun file hfile ↦ ?_
    have hmem : file.version ∈ (files.take n).map (·.version) := List.mem_map_of_mem hfile
    simpa using hmem
  have hdropped : (files.drop n).filter (fun file ↦
      !((files.take n).map (·.version)).contains file.version) = files.drop n := by
    refine List.filter_eq_self.mpr fun file hfile ↦ ?_
    simp only [Bool.not_eq_true', List.contains_eq_mem, decide_eq_false_iff_not, List.mem_map,
      not_exists, not_and]
    exact fun taken htaken hversion ↦
      Nat.ne_of_lt (horder.lt_of_take_drop htaken hfile) hversion
  rw [List.take_append_drop, htaken, hdropped, List.nil_append]

theorem foldl_max_le {bound start : ℕ} (hstart : start ≤ bound)
    (hrows : ∀ row ∈ rows, row.version ≤ bound) :
    rows.foldl (fun greatest row ↦ max greatest row.version) start ≤ bound := by
  induction rows generalizing start with
  | nil => exact hstart
  | cons row rows ih =>
    have hrow := hrows row List.mem_cons_self
    exact ih (max_le hstart hrow) fun other hother ↦ hrows other (List.mem_cons_of_mem _ hother)

/-- A table that records a leading part of the files is in order, and the rest is pending. -/
theorem reconcile_of_take (horder : InOrder files)
    (hrows : rows.map (·.record) = (files.take n).map (·.record)) :
    reconcile files rows = .ok (files.drop n) := by
  have hnone : (files.drop n).find? (·.version < maxApplied rows) = none := by
    refine List.find?_eq_none.mpr fun file hfile ↦ ?_
    have hbound : maxApplied rows ≤ file.version := by
      refine foldl_max_le (Nat.zero_le _) fun row hrow ↦ ?_
      have hmem : row.version ∈ rows.map (·.version) := List.mem_map_of_mem hrow
      rw [map_version_of_take hrows] at hmem
      obtain ⟨taken, htaken, hversion⟩ := List.mem_map.mp hmem
      exact hversion ▸ Nat.le_of_lt (horder.lt_of_take_drop htaken hfile)
    simpa using hbound
  unfold reconcile
  simp only [findDrift_of_take horder hrows, pendingOf_of_take horder hrows, hnone]

/-- Where every file is recorded, the report is clean. -/
theorem verifyReport_clean (options : MigrationRunnerOptions) (horder : InOrder files)
    {applied : Option (List AppliedMigration)}
    (hrows : (applied.getD []).map (·.record) = files.map (·.record)) :
    (verifyReport options files applied).status = .clean := by
  have htake : (applied.getD []).map (·.record) = (files.take files.length).map (·.record) := by
    rw [List.take_length, hrows]
  have hpending : pendingOf files (applied.getD []) = [] := by
    rw [pendingOf_of_take horder htake, List.drop_length]
  have hdrift : ∀ row ∈ applied.getD [],
      classifyApplied row (fileByVersion files row.version) = .ok :=
    fun row hrow ↦ classifyApplied_of_record horder (record_mem_of_take htake hrow)
  simp only [verifyReport, hpending, List.map_nil, List.length_nil, Nat.lt_irrefl, if_false]
  rw [if_neg]
  simpa using hdrift

end Reconcile

/-! ### Transactions -/

namespace MigrationDatabase

/-- The rows of the table; a table that does not exist has none. -/
def recorded (db : MigrationDatabase) : List Record :=
  match db.table with
  | none => []
  | some table => table.rows.map (·.record)

end MigrationDatabase

section Transact

variable {db later : MigrationDatabase} {oracle : MigrationOracle}

/-- A read that the database answers shows what is recorded. -/
theorem recorded_of_select (hfailure : oracle.failure = none) :
    ∃ applied, appliedOf (db.select oracle) = .ok applied ∧
      (applied.getD []).map (·.record) = db.recorded := by
  unfold MigrationDatabase.select MigrationDatabase.recorded
  rw [hfailure]
  cases db.table with
  | none => exact ⟨none, rfl, rfl⟩
  | some table => exact ⟨some table.rows, rfl, rfl⟩

theorem commits_of_transact {statements : List Statement}
    (hcommit : db.transact statements oracle = .ok later) :
    later.commits = db.commits ++ [statements] := by
  unfold MigrationDatabase.transact at hcommit
  cases hfailure : oracle.failure with
  | some error => simp [hfailure] at hcommit
  | none =>
    cases htable : statements.foldlM (MigrationDatabase.execute oracle) db.table with
    | error error => simp [hfailure, htable, Except.map] at hcommit
    | ok table =>
      simp only [hfailure, htable, Except.map, Except.ok.injEq] at hcommit
      rw [← hcommit]

theorem recorded_of_metadata (hcommit : db.transact [.metadata] oracle = .ok later) :
    later.recorded = db.recorded := by
  unfold MigrationDatabase.transact at hcommit
  cases hfailure : oracle.failure with
  | some error => simp [hfailure] at hcommit
  | none =>
    simp only [hfailure] at hcommit
    obtain rfl := Except.ok.inj hcommit
    unfold MigrationDatabase.recorded
    cases db.table with
    | none => rfl
    | some table => rfl

/-- What a committed transaction of a file did: its number had no row, and now it has one. -/
theorem inserted_of_transact {file : MigrationFile}
    (hcommit : db.transact file.statements oracle = .ok later) :
    ∃ rows row, db.recorded = rows.map AppliedMigration.record ∧ row.record = file.record ∧
      (∀ other ∈ rows, other.version ≠ file.version) ∧
      later.recorded = (MigrationTable.insertedRows rows row).map (·.record) := by
  unfold MigrationDatabase.transact at hcommit
  cases hfailure : oracle.failure with
  | some error => simp [hfailure] at hcommit
  | none =>
    simp only [hfailure, MigrationFile.statements, List.foldlM_cons, List.foldlM_nil,
      MigrationDatabase.execute] at hcommit
    cases htable : db.table with
    | none => simp [htable, Except.map, bind, Except.bind] at hcommit
    | some table =>
      simp only [htable, bind, Except.bind] at hcommit
      split at hcommit
      · cases hcommit
      · rename_i inserted hexecute
        split at hexecute
        · cases hexecute
        · rename_i table' hinsert
          unfold MigrationTable.insert at hinsert
          split_ifs at hinsert with hkey
          obtain rfl := Option.some.inj hinsert
          obtain rfl := Except.ok.inj hexecute
          obtain rfl := Except.ok.inj hcommit
          refine ⟨table.rows, _, ?_, ?_, by simpa using hkey, rfl⟩
          · simp [MigrationDatabase.recorded, htable]
          · rfl

/-- The table records the first files, and nothing else. -/
def Progressed (files : List MigrationFile) (n : ℕ) (db : MigrationDatabase) : Prop :=
  n ≤ files.length ∧ db.recorded = (files.take n).map (·.record)

/-- A file commits to a table that records the files before it where it is the next one. Assumes:
its place is not beyond the next one. -/
theorem progressed_of_transact {files : List MigrationFile} {n i : ℕ} (horder : InOrder files)
    (hprogressed : Progressed files n db) (hi : i < files.length) (hle : i ≤ n)
    (hcommit : db.transact files[i].statements oracle = .ok later) :
    i = n ∧ Progressed files (n + 1) later := by
  obtain ⟨rows, row, hrecorded, hrow, hfresh, hlater⟩ := inserted_of_transact hcommit
  have hrows : rows.map (·.version) = (files.take n).map (·.version) :=
    map_version_of_take (hrecorded.symm.trans hprogressed.2)
  have hplace : i = n := by
    by_contra hne
    have htaken : files[i] ∈ files.take n := List.mem_take_iff_getElem.mpr ⟨i, by omega, rfl⟩
    have hmem : files[i].version ∈ rows.map (·.version) := by
      rw [hrows]
      exact List.mem_map_of_mem htaken
    obtain ⟨other, hother, hversion⟩ := List.mem_map.mp hmem
    exact hfresh other hother hversion
  subst hplace
  have hversion : row.version = files[i].version := congrArg Prod.fst hrow
  -- Every recorded file is numbered below this one, so its row comes last.
  have hbelow : ∀ other ∈ rows, other.version < row.version := by
    intro other hother
    have hmem : other.version ∈ rows.map (·.version) := List.mem_map_of_mem hother
    rw [hrows] at hmem
    obtain ⟨taken, htaken, hsame⟩ := List.mem_map.mp hmem
    rw [← hsame, hversion]
    exact horder.lt_of_take_drop htaken (List.mem_drop_iff_getElem.mpr ⟨0, by omega, rfl⟩)
  have hinserted : MigrationTable.insertedRows rows row = rows ++ [row] := by
    have hnone : rows.filter (row.version < ·.version) = [] :=
      List.filter_eq_nil_iff.mpr fun other hother ↦ by
        simpa using Nat.le_of_lt (hbelow other hother)
    have hall : rows.filter (·.version < row.version) = rows :=
      List.filter_eq_self.mpr fun other hother ↦ by simpa using hbelow other hother
    rw [MigrationTable.insertedRows, hnone, hall]
  refine ⟨rfl, hi, ?_⟩
  rw [hlater, hinserted, List.map_append, ← hrecorded, hprogressed.2,
    List.take_succ_eq_append_getElem hi, List.map_append, List.map_singleton, List.map_singleton,
    hrow]

end Transact

end MigrationLaws

/-! ## What a verification promises to a run -/

section MigrationAgreement

open SharedKernel

/-- The files without a row as a report lists them. -/
def summaries (files : List MigrationFile) : List (ℕ × String × String) :=
  files.map fun file ↦ (file.version, file.name, file.checksum)

/-- The report says of the run whether it refuses, and otherwise what it applies. -/
structure Agrees (report : VerifyReport) (reconciled : Except MigrationError (List MigrationFile)) :
    Prop where
  drift : report.status = .drift ↔ ∃ error, reconciled = .error error
  clean : report.status = .clean ↔ reconciled = .ok []
  pending : report.status = .pending ↔ ∃ files, reconciled = .ok files ∧ files ≠ []
  listed : ∀ files, reconciled = .ok files → report.pending = summaries files

/-- A row has drifted from its file. -/
def Drifted (files : List MigrationFile) (applied : List AppliedMigration) : Prop :=
  ∃ row ∈ applied, classifyApplied row (fileByVersion files row.version) ≠ .ok

/-- No file without a row is numbered below a recorded version. -/
def PendingLast (files : List MigrationFile) (applied : List AppliedMigration) : Prop :=
  ∀ file ∈ pendingOf files applied, ∀ row ∈ applied, row.version ≤ file.version

section Reconcile

variable {files : List MigrationFile} {applied : List AppliedMigration}

theorem findDrift_eq_none_iff : findDrift files applied = none ↔ ¬ Drifted files applied := by
  unfold findDrift Drifted
  rw [List.find?_eq_none]
  simp

theorem lt_foldl_max_iff {version start : ℕ} :
    version < applied.foldl (fun greatest row ↦ max greatest row.version) start ↔
      version < start ∨ ∃ row ∈ applied, version < row.version := by
  induction applied generalizing start with
  | nil => simp
  | cons row rest ih =>
    have hmax : version < max start row.version ↔ version < start ∨ version < row.version := by omega
    rw [List.foldl_cons, ih, hmax, or_assoc]
    simp

theorem lt_maxApplied_iff {version : ℕ} :
    version < maxApplied applied ↔ ∃ row ∈ applied, version < row.version := by
  unfold maxApplied
  rw [lt_foldl_max_iff]
  simp

theorem find_outOfOrder_eq_none_iff :
    (pendingOf files applied).find? (·.version < maxApplied applied) = none ↔
      PendingLast files applied := by
  rw [List.find?_eq_none]
  refine forall₂_congr fun file _ ↦ ?_
  simp [lt_maxApplied_iff]

/-- A run refuses drift, and a file that would be applied out of order. -/
theorem reconcile_of_drifted (hdrifted : Drifted files applied) :
    ∃ error, reconcile files applied = .error error := by
  unfold reconcile
  cases hdrift : findDrift files applied with
  | none => exact absurd hdrifted (findDrift_eq_none_iff.mp hdrift)
  | some row => exact ⟨_, rfl⟩

theorem reconcile_of_not_pendingLast (hlast : ¬ PendingLast files applied) :
    ∃ error, reconcile files applied = .error error := by
  unfold reconcile
  cases findDrift files applied with
  | some row => exact ⟨_, rfl⟩
  | none =>
    cases hfind : (pendingOf files applied).find? (·.version < maxApplied applied) with
    | none => exact absurd (find_outOfOrder_eq_none_iff.mp hfind) hlast
    | some file => exact ⟨_, rfl⟩

theorem reconcile_of_pendingLast (hdrifted : ¬ Drifted files applied)
    (hlast : PendingLast files applied) :
    reconcile files applied = .ok (pendingOf files applied) := by
  unfold reconcile
  rw [findDrift_eq_none_iff.mpr hdrifted]
  simp only [find_outOfOrder_eq_none_iff.mpr hlast]

end Reconcile

section Report

variable {options : MigrationRunnerOptions} {files : List MigrationFile}
  {rows : Option (List AppliedMigration)}

theorem verifyReport_pending :
    (verifyReport options files rows).pending = summaries (pendingOf files (rows.getD [])) :=
  rfl

theorem verifyReport_status_of_drifted (hdrifted : Drifted files (rows.getD [])) :
    (verifyReport options files rows).status = .drift := by
  obtain ⟨row, hrow, hstatus⟩ := hdrifted
  refine if_pos (List.any_eq_true.mpr ⟨_, List.mem_map_of_mem hrow, ?_⟩)
  simpa using hstatus

theorem verifyReport_status_of_not_drifted (hdrifted : ¬ Drifted files (rows.getD [])) :
    (verifyReport options files rows).status =
      if pendingOf files (rows.getD []) = [] then .clean else .pending := by
  have hnone : ¬ (((rows.getD []).map fun row ↦
      (row, classifyApplied row (fileByVersion files row.version))).any (·.2 ≠ .ok)) = true := by
    rw [List.any_map, List.any_eq_true]
    rintro ⟨row, hrow, hstatus⟩
    exact hdrifted ⟨row, hrow, by simpa using hstatus⟩
  show (if _ then VerifyStatus.drift else if _ then _ else _) = _
  rw [if_neg hnone]
  by_cases hpending : pendingOf files (rows.getD []) = []
  · simp [hpending]
  · rw [if_neg hpending, if_pos (List.length_pos_iff.mpr (by simpa using hpending))]

/-- A report agrees with the run on the same files and rows, unless nothing has drifted and a file would be
applied out of order. -/
theorem agrees_iff :
    Agrees (verifyReport options files rows) (reconcile files (rows.getD [])) ↔
      (Drifted files (rows.getD []) ∨ PendingLast files (rows.getD [])) := by
  constructor
  · intro hagrees
    by_contra hneither
    obtain ⟨hdrifted, hlast⟩ := not_or.mp hneither
    have hdrift := hagrees.drift.mpr (reconcile_of_not_pendingLast hlast)
    rw [verifyReport_status_of_not_drifted hdrifted] at hdrift
    split_ifs at hdrift
  · intro hcondition
    by_cases hdrifted : Drifted files (rows.getD [])
    · obtain ⟨error, herror⟩ := reconcile_of_drifted hdrifted
      have hstatus : (verifyReport options files rows).status = .drift :=
        verifyReport_status_of_drifted hdrifted
      constructor <;> simp [herror, hstatus]
    · have hok := reconcile_of_pendingLast hdrifted (hcondition.resolve_left hdrifted)
      have hstatus : (verifyReport options files rows).status = _ :=
        verifyReport_status_of_not_drifted hdrifted
      by_cases hpending : pendingOf files (rows.getD []) = []
      · rw [if_pos hpending] at hstatus
        constructor <;> simp [hok, hstatus, hpending, verifyReport_pending]
      · rw [if_neg hpending] at hstatus
        constructor <;> simp [hok, hstatus, hpending, verifyReport_pending]

end Report

/-! ### A gap in the recorded versions -/

namespace Gap

def file (version : ℕ) : MigrationFile where
  version := version
  name := "step"
  filename := s!"{padVersion version}_step.sql"
  sql := "-- rollback: none"
  checksum := "00"

def row (version : ℕ) : AppliedMigration where
  version := version
  name := "step"
  checksum := "00"
  appliedAt := "2026-01-01T00:00:00.000Z"
  appliedBy := "karar_migrator"

def options : MigrationRunnerOptions where
  database := "karar"
  migrationsDir := "db/migrations"
  entries := []

/-- The second of three files was added after the third had been applied. -/
theorem verify_pending_reconcile_refuses :
    (verifyReport options [file 1, file 2, file 3] (some [row 1, row 3])).status = .pending ∧
      (reconcile [file 1, file 2, file 3] [row 1, row 3]).isOk = false ∧
      ¬ Agrees (verifyReport options [file 1, file 2, file 3] (some [row 1, row 3]))
        (reconcile [file 1, file 2, file 3] [row 1, row 3]) := by
  have hstatus : (verifyReport options [file 1, file 2, file 3] (some [row 1, row 3])).status =
      .pending := by decide
  have hrefused : (reconcile [file 1, file 2, file 3] [row 1, row 3]).isOk = false := by
    decide
  refine ⟨hstatus, hrefused, fun hagrees ↦ ?_⟩
  obtain ⟨files, hok, -⟩ := hagrees.pending.mp hstatus
  rw [hok] at hrefused
  cases hrefused

end Gap

end MigrationAgreement

end Karar.Platform
