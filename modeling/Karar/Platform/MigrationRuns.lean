import Karar.Foundation.Interleaving
import Karar.Platform.MigrationLaws

/-!
# Concurrent runs of the migration runner

Any number of runs over one directory take turns, one transaction or read at a time. There is no
lock: a run computes its pending files once and applies them one by one while others do the same. It
applies a file only after it has seen every file before it recorded, in the table it read or in a
transaction of its own (`Planned`), and a recorded file stays recorded. So the only file that can
commit is the next one, and the table always records a leading part of the files
(`migrated_of_reaches`).
-/

namespace Karar.Platform

open Foundation Machine

/-! ### The machine -/

/-- The options of a run over a directory, in whatever order `readdir` lists it. -/
structure OptionsOver (directory : List DirectoryEntry) extends MigrationRunnerOptions where
  listed : entries.Perm directory

inductive MigrationRequest (directory : List DirectoryEntry)
  | migrateToLatest (options : OptionsOver directory)
  | verifyMigrations (options : OptionsOver directory)

inductive MigrationOutcome
  | migrated (result : Except Thrown (List MigrationFile))
  | verified (result : Except Thrown VerifyReport)

def migrationProgram (libraries : MigrationLibraries) {directory : List DirectoryEntry} :
    MigrationRequest directory → MigrationProgram MigrationOutcome
  | .migrateToLatest options => do
    return .migrated (← migrateToLatest libraries options.toMigrationRunnerOptions)
  | .verifyMigrations options => do
    return .verified (← verifyMigrations libraries options.toMigrationRunnerOptions)

/-- Runs over one directory on one database. The database changes by their transactions only. -/
def migrationMachine (libraries : MigrationLibraries) (directory : List DirectoryEntry) :
    Machine MigrationOp MigrationOp.Answer MigrationDatabase MigrationOracle
      (MigrationRequest directory) MigrationOutcome Empty where
  handler := MigrationDatabase.handle
  program := migrationProgram libraries
  turn _ tick := nomatch tick

abbrev MigrationLog := List (Performed MigrationOp MigrationOp.Answer)

abbrev MigrationConfiguration (directory : List DirectoryEntry) :=
  Configuration MigrationOp MigrationOp.Answer MigrationDatabase (MigrationRequest directory)
    MigrationOutcome

/-- The transaction that an operation has committed. -/
def committed : Performed MigrationOp MigrationOp.Answer → Option (List Statement)
  | ⟨.withTransaction statements, .ok ()⟩ => some statements
  | _ => none

/-- The transactions that apply a file. -/
def migrationCommits (commits : List (List Statement)) : List (List Statement) :=
  commits.filter (· ≠ [.metadata])

/-- What a call has committed, oldest first. -/
def commitsOf (log : MigrationLog) : List (List Statement) := (log.filterMap committed).reverse

theorem commitsOf_cons (performed : Performed MigrationOp MigrationOp.Answer) (log : MigrationLog) :
    commitsOf (performed :: log) = commitsOf log ++ (committed performed).toList := by
  unfold commitsOf
  cases hcommitted : committed performed <;> simp [hcommitted]

theorem migrationCommits_append (first second : List (List Statement)) :
    migrationCommits (first ++ second) = migrationCommits first ++ migrationCommits second :=
  List.filter_append first second

theorem migrationCommits_statements (file : MigrationFile) :
    migrationCommits [file.statements] = [file.statements] := by
  simp [migrationCommits, MigrationFile.statements]

/-! ### The contract -/

section Contract

variable {files : List MigrationFile} {log : MigrationLog}

/-- A call has read a table, reconciled it with the files, and applied a part of what was
pending. -/
def Planned (files : List MigrationFile) (log : MigrationLog) (done rest : List MigrationFile) :
    Prop :=
  ∃ answer rows, ⟨.selectApplied, answer⟩ ∈ log ∧ appliedOf answer = .ok rows ∧
    reconcile files (rows.getD []) = .ok (done ++ rest) ∧
    migrationCommits (commitsOf log) = done.map (·.statements)

/-- What a run over the directory may have applied when it ends. -/
def EndsAs (files : List MigrationFile) (log : MigrationLog) : MigrationOutcome → Prop
  | .migrated (.ok applied) => Planned files log applied []
  | .migrated (.error (.migration error)) =>
    (error.kind = .apply → ∃ done file rest cause,
      Planned files log done (file :: rest) ∧ error = applyError file cause) ∧
    (error.kind ≠ .apply → migrationCommits (commitsOf log) = [])
  | .migrated (.error (.pg _)) => migrationCommits (commitsOf log) = []
  | .verified _ => commitsOf log = []

def migrationContract (directory : List DirectoryEntry) (files : List MigrationFile) :
    Contract MigrationOp MigrationOp.Answer MigrationDatabase (MigrationRequest directory)
      MigrationOutcome where
  invariant _ := True
  allowed _ log op :=
    match op with
    | .withTransaction statements =>
      statements = [.metadata] ∨
        ∃ done file rest, Planned files log done (file :: rest) ∧ statements = file.statements
    | .selectApplied => True
  post _ log outcome := EndsAs files log outcome

/-- One more file of the plan is applied. -/
theorem Planned.advance {done rest : List MigrationFile} {file : MigrationFile}
    (hplanned : Planned files log done (file :: rest)) :
    Planned files (⟨.withTransaction file.statements, .ok ()⟩ :: log) (done ++ [file]) rest := by
  obtain ⟨answer, rows, hread, happlied, hreconcile, hcommits⟩ := hplanned
  refine ⟨answer, rows, List.mem_cons_of_mem _ hread, happlied, ?_, ?_⟩
  · simpa using hreconcile
  · rw [commitsOf_cons, migrationCommits_append, hcommits, List.map_append]
    exact congrArg (done.map (·.statements) ++ ·) (migrationCommits_statements file)

/-- A file of the plan that failed leaves the plan as it was. -/
theorem Planned.failed {done rest : List MigrationFile} {statements : List Statement}
    {error : PgError} (hplanned : Planned files log done rest) :
    Planned files (⟨.withTransaction statements, .error error⟩ :: log) done rest := by
  obtain ⟨answer, rows, hread, happlied, hreconcile, hcommits⟩ := hplanned
  refine ⟨answer, rows, List.mem_cons_of_mem _ hread, happlied, hreconcile, ?_⟩
  rw [commitsOf_cons]
  simpa [committed] using hcommits

end Contract

/-! ### Every run keeps the contract -/

section Honours

variable {libraries : MigrationLibraries} {directory : List DirectoryEntry}
  {files : List MigrationFile} {request : MigrationRequest directory}

/-- A part of a migrating run. -/
abbrev KeepsPlan (files : List MigrationFile) (request : MigrationRequest directory)
    (log : MigrationLog) (part : MigrationProgram (Except Thrown (List MigrationFile))) : Prop :=
  Safe MigrationDatabase.handle (fun _ ↦ True) ((migrationContract directory files).allowed request)
    (fun log result ↦ EndsAs files log (.migrated result)) log part

/-- The loop over the pending files, by induction on what is left of them. -/
theorem applyPending_keepsPlan {done rest : List MigrationFile} {log : MigrationLog}
    (hplanned : Planned files log done rest) :
    KeepsPlan files request log (applyPending done rest) := by
  induction rest generalizing done log with
  | nil => exact safe_pure hplanned
  | cons file rest ih =>
    refine safe_any_bind (.inr ⟨done, file, rest, hplanned, rfl⟩) fun answer ↦ ?_
    match answer with
    | .ok () => exact ih hplanned.advance
    | .error error =>
      refine safe_pure ⟨fun _ ↦ ⟨done, file, rest, error, hplanned.failed, rfl⟩, fun hkind ↦ ?_⟩
      exact absurd rfl hkind

/-- A run that throws before it applies a file. -/
theorem keepsPlan_throw {log : MigrationLog} (hnone : migrationCommits (commitsOf log) = [])
    {thrown : Thrown} (hkind : ∀ error, thrown = .migration error → error.kind ≠ .apply) :
    KeepsPlan files request log (return .error thrown) := by
  refine safe_pure ?_
  cases thrown with
  | pg error => exact hnone
  | migration error =>
    exact ⟨fun happly ↦ absurd happly (hkind error rfl), fun _ ↦ hnone⟩

theorem kind_of_reconcile {rows : List AppliedMigration} {error : MigrationError}
    (hreconcile : reconcile files rows = .error error) : error.kind ≠ .apply := by
  unfold reconcile at hreconcile
  split at hreconcile
  · obtain rfl := Except.error.inj hreconcile
    simp
  · split at hreconcile
    · obtain rfl := Except.error.inj hreconcile
      simp
    · cases hreconcile

theorem migrateToLatest_keepsPlan {options : MigrationRunnerOptions}
    (hload : loadMigrationFiles libraries options.entries = .ok files) :
    KeepsPlan files request [] (migrateToLatest libraries options) := by
  unfold migrateToLatest
  rw [hload]
  refine safe_bind (safe_any_bind (.inl rfl) fun answer ↦ ?_)
  match answer with
  | .error error =>
    have hnone : migrationCommits (commitsOf
        [⟨.withTransaction [.metadata], .error error⟩]) = [] := rfl
    dsimp only
    split
    · refine safe_pure (keepsPlan_throw hnone fun thrown hthrown ↦ ?_)
      obtain rfl := Thrown.migration.inj hthrown
      simp
    · exact safe_pure (keepsPlan_throw hnone fun thrown hthrown ↦ by cases hthrown)
  | .ok () =>
    refine safe_bind (safe_any_bind trivial fun answer ↦ safe_pure ?_)
    cases happlied : appliedOf answer with
    | error thrown =>
      refine keepsPlan_throw rfl fun error hthrown ↦ ?_
      unfold appliedOf at happlied
      split at happlied
      · cases happlied
      · split_ifs at happlied
        obtain rfl := Except.error.inj happlied
        cases hthrown
    | ok rows =>
      dsimp only
      cases hreconcile : reconcile files (rows.getD []) with
      | error error =>
        refine keepsPlan_throw rfl fun thrown hthrown ↦ ?_
        obtain rfl := Thrown.migration.inj hthrown
        exact kind_of_reconcile hreconcile
      | ok pending =>
        exact applyPending_keepsPlan ⟨answer, rows, List.mem_cons_self, happlied, hreconcile, rfl⟩

theorem verifyMigrations_keeps {options : MigrationRunnerOptions}
    (hload : loadMigrationFiles libraries options.entries = .ok files) :
    Safe MigrationDatabase.handle (fun _ ↦ True)
      ((migrationContract directory files).allowed request)
      (fun log _ ↦ commitsOf log = []) [] (verifyMigrations libraries options) := by
  unfold verifyMigrations
  rw [hload]
  refine safe_bind (safe_any_bind trivial fun answer ↦ safe_pure ?_)
  cases appliedOf answer with
  | error thrown => exact safe_pure rfl
  | ok rows => exact safe_pure rfl

theorem migration_honours (hload : loadMigrationFiles libraries directory = .ok files)
    (request : MigrationRequest directory) :
    Honours (migrationMachine libraries directory) (migrationContract directory files) request := by
  cases request with
  | migrateToLatest options =>
    exact safe_bind_of (migrateToLatest_keepsPlan (loadMigrationFiles_perm options.listed hload))
      fun _ _ hends ↦ safe_pure hends
  | verifyMigrations options =>
    exact safe_bind_of (verifyMigrations_keeps (loadMigrationFiles_perm options.listed hload))
      fun _ _ hends ↦ safe_pure hends

end Honours

/-! ### Along a run -/

theorem mem_commitsOf {log : MigrationLog} {statements : List Statement} :
    statements ∈ commitsOf log ↔ ⟨.withTransaction statements, .ok ()⟩ ∈ log := by
  unfold commitsOf
  rw [List.mem_reverse, List.mem_filterMap]
  constructor
  · rintro ⟨performed, hperformed, hcommitted⟩
    unfold committed at hcommitted
    split at hcommitted
    · exact Option.some.inj hcommitted ▸ hperformed
    · cases hcommitted
  · exact fun hmem ↦ ⟨_, hmem, rfl⟩

/-- What the calls have seen recorded is among the first files. -/
structure Seen (files : List MigrationFile) (n : ℕ)
    (history : List (Occurrence MigrationOp MigrationOp.Answer)) : Prop where
  reads : ∀ caller answer rows, ⟨caller, .selectApplied, answer⟩ ∈ history →
    appliedOf answer = .ok rows →
      ∃ m ≤ n, (rows.getD []).map (·.record) = (files.take m).map (·.record)
  commits : ∀ caller (file : MigrationFile),
    ⟨caller, .withTransaction file.statements, .ok ()⟩ ∈ history →
      file.record ∈ (files.take n).map (·.record)

section Seen

variable {files done rest : List MigrationFile} {n caller : ℕ}
  {history : List (Occurrence MigrationOp MigrationOp.Answer)}

theorem Seen.mono (hseen : Seen files n history) {later : ℕ} (hle : n ≤ later) :
    Seen files later history where
  reads caller answer rows hread happlied := by
    obtain ⟨m, hm, hrows⟩ := hseen.reads caller answer rows hread happlied
    exact ⟨m, Nat.le_trans hm hle, hrows⟩
  commits caller file hmem := by
    have hearlier : files.take n <+: files.take later := List.take_prefix_take_left hle
    exact (hearlier.map _).subset (hseen.commits caller file hmem)

/-- A file the calls have seen recorded has its place among the first ones. -/
theorem Seen.lt (hseen : Seen files n history) (horder : InOrder files) {i : ℕ}
    (hi : i < files.length)
    (hmem : ⟨caller, .withTransaction files[i].statements, .ok ()⟩ ∈ history) : i < n := by
  obtain ⟨file, hfile, hrecord⟩ := List.mem_map.mp (hseen.commits caller _ hmem)
  obtain ⟨j, hj, rfl⟩ := List.mem_take_iff_getElem.mp hfile
  have hversion : files[j].version = files[i].version := congrArg Prod.fst hrecord
  have hle : ¬ j < i := fun hlt ↦
    Nat.ne_of_lt ((horder.lt_iff (by omega) hi).mpr hlt) hversion
  have hge : ¬ i < j := fun hlt ↦
    Nat.ne_of_gt ((horder.lt_iff hi (by omega)).mpr hlt) hversion
  omega

/-- A call that has come to a place of its plan has seen every file before that place recorded. -/
theorem Planned.place (hplanned : Planned files (logOf caller history) done rest)
    (hseen : Seen files n history) (horder : InOrder files) :
    ∃ m, files.drop m = done ++ rest ∧ m + done.length ≤ n := by
  obtain ⟨answer, rows, hread, happlied, hreconcile, hcommits⟩ := hplanned
  obtain ⟨m, hm, hrows⟩ := hseen.reads caller answer rows (mem_logOf.mp hread) happlied
  have hdrop : files.drop m = done ++ rest :=
    Except.ok.inj ((reconcile_of_take horder hrows).symm.trans hreconcile)
  refine ⟨m, hdrop, ?_⟩
  by_cases hdone : done = []
  · simpa [hdone] using hm
  · -- The last file the call applied is recorded, so it is not beyond the recorded ones.
    have hpos : 0 < done.length := List.length_pos_iff.mpr hdone
    have hlength := congrArg List.length hdrop
    rw [List.length_drop, List.length_append] at hlength
    have hi : m + (done.length - 1) < files.length := by omega
    have hlast : files[m + (done.length - 1)] = done[done.length - 1] := by
      have hsome : files[m + (done.length - 1)]? = some done[done.length - 1] := by
        rw [← List.getElem?_drop, hdrop, List.getElem?_append_left (by omega)]
        exact List.getElem?_eq_getElem _
      exact (List.getElem?_eq_some_iff.mp hsome).2
    have hmem : done[done.length - 1].statements ∈
        migrationCommits (commitsOf (logOf caller history)) := by
      rw [hcommits]
      exact List.mem_map_of_mem (List.getElem_mem _)
    rw [← hlast] at hmem
    have hplace := hseen.lt horder hi (mem_logOf.mp (mem_commitsOf.mp (List.mem_filter.mp hmem).1))
    omega

end Seen

/-- The files recorded since the start were applied once each, in one commit with their rows. -/
structure Migrated (files : List MigrationFile) (db : MigrationDatabase) (k n : ℕ)
    {directory : List DirectoryEntry} (c : MigrationConfiguration directory) : Prop where
  start_le : k ≤ n
  progressed : Progressed files n c.store
  commits : migrationCommits c.store.commits =
    migrationCommits db.commits ++ ((files.take n).drop k).map (·.statements)
  seen : Seen files n c.history

section Step

variable {libraries : MigrationLibraries} {directory : List DirectoryEntry}
  {files : List MigrationFile} {db : MigrationDatabase} {k n : ℕ}
  {c later : MigrationConfiguration directory}

theorem Migrated.read (hmigrated : Migrated files db k n c) {caller : ℕ}
    {oracle : MigrationOracle} :
    Seen files n (⟨caller, .selectApplied, c.store.select oracle⟩ :: c.history) where
  reads other answer rows hread happlied := by
    rcases List.mem_cons.mp hread with heq | hearlier
    · obtain ⟨rfl, hperformed⟩ := Occurrence.mk.inj heq
      obtain rfl := eq_of_heq (Sigma.mk.inj hperformed).2
      unfold MigrationDatabase.select at happlied
      have hrecorded := hmigrated.progressed.2
      unfold MigrationDatabase.recorded at hrecorded
      split at happlied
      · -- A failure that says the table is missing reads as an empty table.
        unfold appliedOf at happlied
        dsimp only at happlied
        split_ifs at happlied
        exact ⟨0, Nat.zero_le _, Except.ok.inj happlied ▸ rfl⟩
      · exact ⟨0, Nat.zero_le _, Except.ok.inj happlied ▸ rfl⟩
      · rename_i table _ htable
        rw [htable] at hrecorded
        exact ⟨n, Nat.le_refl n, Except.ok.inj happlied ▸ hrecorded⟩
    · exact hmigrated.seen.reads other answer rows hearlier happlied
  commits other file hmem := by
    rcases List.mem_cons.mp hmem with heq | hearlier
    · cases heq
    · exact hmigrated.seen.commits other file hearlier

/-- A file of the plan of a call commits where it is the next one to record. -/
theorem Migrated.apply (hmigrated : Migrated files db k n c) (horder : InOrder files) {caller : ℕ}
    {done rest : List MigrationFile} {file : MigrationFile}
    (hplanned : Planned files (logOf caller c.history) done (file :: rest))
    {oracle : MigrationOracle} {store : MigrationDatabase}
    (hcommit : c.store.transact file.statements oracle = .ok store) :
    Progressed files (n + 1) store ∧
      migrationCommits store.commits =
        migrationCommits db.commits ++ ((files.take (n + 1)).drop k).map (·.statements) ∧
      Seen files (n + 1)
        (⟨caller, .withTransaction file.statements, .ok ()⟩ :: c.history) := by
  obtain ⟨m, hdrop, hle⟩ := hplanned.place hmigrated.seen horder
  have hsome : files[m + done.length]? = some file := by
    rw [← List.getElem?_drop, hdrop, List.getElem?_append_right (Nat.le_refl _), Nat.sub_self]
    rfl
  obtain ⟨hi, hfile⟩ := List.getElem?_eq_some_iff.mp hsome
  subst hfile
  obtain ⟨hplace, hprogressed⟩ :=
    progressed_of_transact horder hmigrated.progressed hi hle hcommit
  have hn : n < files.length := hplace ▸ hi
  have htake : files.take (n + 1) = files.take n ++ [files[m + done.length]] := by
    rw [List.take_succ_eq_append_getElem hn]
    simp only [hplace]
  refine ⟨hprogressed, ?_, ?_, ?_⟩
  · have hk : k ≤ (files.take n).length := by
      have hstart := hmigrated.start_le
      rw [List.length_take]
      omega
    rw [commits_of_transact hcommit, migrationCommits_append, hmigrated.commits, htake,
      List.drop_append_of_le_length hk, List.map_append, migrationCommits_statements,
      List.append_assoc]
    rfl
  · intro other answer rows hread happlied
    rcases List.mem_cons.mp hread with heq | hearlier
    · cases heq
    · exact (hmigrated.seen.mono (Nat.le_succ n)).reads other answer rows hearlier happlied
  · intro other applied hmem
    rcases List.mem_cons.mp hmem with heq | hearlier
    · -- The statements of a transaction name the version, the name and the checksum of its file.
      simp only [MigrationFile.statements, Occurrence.mk.injEq, Sigma.mk.injEq,
        MigrationOp.withTransaction.injEq, List.cons.injEq, Statement.script.injEq,
        Statement.insertRow.injEq] at heq
      have hrecord : applied.record = files[m + done.length].record := by
        simp [MigrationFile.record, heq]
      rw [htake, List.map_append, hrecord]
      simp
    · exact (hmigrated.seen.mono (Nat.le_succ n)).commits other applied hearlier

/-- A transaction that failed, or that only ensures the table, shows nothing new. -/
theorem Seen.other (hseen : Seen files n c.history) {caller : ℕ} {statements : List Statement}
    {answer : Except PgError Unit}
    (hother : ∀ file : MigrationFile, statements = file.statements →
      ∃ error, answer = .error error) :
    Seen files n (⟨caller, .withTransaction statements, answer⟩ :: c.history) where
  reads other read rows hread happlied := by
    rcases List.mem_cons.mp hread with heq | hearlier
    · cases heq
    · exact hseen.reads other read rows hearlier happlied
  commits other file hmem := by
    rcases List.mem_cons.mp hmem with heq | hearlier
    · simp only [Occurrence.mk.injEq, Sigma.mk.injEq, MigrationOp.withTransaction.injEq] at heq
      obtain ⟨-, rfl, hanswer⟩ := heq
      obtain ⟨error, rfl⟩ := hother file rfl
      cases eq_of_heq hanswer
    · exact hseen.commits other file hearlier

/-- One event keeps the table a record of the first files. Assumes: every call is bound by the
contract. -/
theorem Migrated.step (hmigrated : Migrated files db k n c) (horder : InOrder files)
    (hkeeps : Keeps (migrationMachine libraries directory) (migrationContract directory files) 0 c)
    {event : Event MigrationOracle (MigrationRequest directory) Empty}
    (hstep : (migrationMachine libraries directory).step c event = some later) :
    ∃ n, Migrated files db k n later := by
  cases steps_of_step_eq_some hstep with
  | start request =>
    exact ⟨n, hmigrated.start_le, hmigrated.progressed, hmigrated.commits, hmigrated.seen⟩
  | end_ hcall =>
    exact ⟨n, hmigrated.start_le, hmigrated.progressed, hmigrated.commits, hmigrated.seen⟩
  | turn tick => exact nomatch tick
  | @perform caller oracle request op next store answer hcall hanswer =>
    change MigrationDatabase.handle c.store op oracle = _ at hanswer
    cases op with
    | selectApplied =>
      obtain ⟨rfl, rfl⟩ := Prod.mk.inj (Option.some.inj hanswer)
      exact ⟨n, hmigrated.start_le, hmigrated.progressed, hmigrated.commits, hmigrated.read⟩
    | withTransaction statements =>
      have hallowed := hkeeps.allowed (Nat.zero_le caller) hcall
      simp only [MigrationDatabase.handle] at hanswer
      cases hcommit : c.store.transact statements oracle with
      | error error =>
        simp only [hcommit] at hanswer
        obtain ⟨rfl, rfl⟩ := Prod.mk.inj (Option.some.inj hanswer)
        exact ⟨n, hmigrated.start_le, hmigrated.progressed, hmigrated.commits,
          hmigrated.seen.other fun _ _ ↦ ⟨error, rfl⟩⟩
      | ok committed =>
        simp only [hcommit] at hanswer
        obtain ⟨rfl, rfl⟩ := Prod.mk.inj (Option.some.inj hanswer)
        rcases hallowed with rfl | ⟨done, file, rest, hplanned, rfl⟩
        · refine ⟨n, hmigrated.start_le, ⟨hmigrated.progressed.1, ?_⟩, ?_,
            hmigrated.seen.other fun file hfile ↦ ?_⟩
          · rw [recorded_of_metadata hcommit, hmigrated.progressed.2]
          · rw [commits_of_transact hcommit, migrationCommits_append, hmigrated.commits]
            exact List.append_nil _
          · simp [MigrationFile.statements] at hfile
        · obtain ⟨hprogressed, hcommits, hseen⟩ := hmigrated.apply horder hplanned hcommit
          exact ⟨n + 1, Nat.le_succ_of_le hmigrated.start_le, hprogressed, hcommits, hseen⟩

end Step

/-! ### Runs -/

/-- What a moment of a run shows, from the database the run started on. -/
structure MigratesOnce (libraries : MigrationLibraries) (files : List MigrationFile)
    (db : MigrationDatabase) {directory : List DirectoryEntry}
    (c : MigrationConfiguration directory) : Prop where
  /-- The table records the first files, and each file recorded since the start took effect once, in
  one commit with its row. -/
  follows : ∀ k, Progressed files k db → ∃ n, k ≤ n ∧ Progressed files n c.store ∧
    migrationCommits c.store.commits =
      migrationCommits db.commits ++ ((files.take n).drop k).map (·.statements)
  /-- The commits are those of the calls. -/
  commits : c.store.commits = db.commits ++
    (c.history.filterMap fun occurrence ↦ committed occurrence.performed).reverse
  refused : ∀ caller options error,
    c.Returned caller (.migrateToLatest options) (.migrated (.error (.migration error))) →
      error.kind = .drift ∨ error.kind = .order →
        migrationCommits (commitsOf (logOf caller c.history)) = []
  /-- A run that fails at a file has applied the files that were pending before it. -/
  failed : ∀ caller options error,
    c.Returned caller (.migrateToLatest options) (.migrated (.error (.migration error))) →
      error.kind = .apply → ∃ done file rest cause,
        Planned files (logOf caller c.history) done (file :: rest) ∧ error = applyError file cause
  /-- Where a run has returned, every run of `verifyMigrations` that the database answers reports
  clean. -/
  clean : ∀ k, Progressed files k db → ∀ caller options applied,
    c.Returned caller (.migrateToLatest options) (.migrated (.ok applied)) →
      migrationCommits (commitsOf (logOf caller c.history)) = applied.map (·.statements) ∧
      ∀ (verifying : OptionsOver directory) (oracle : MigrationOracle), oracle.failure = none →
        ∃ report, ((migrationMachine libraries directory).finish (fun _ _ ↦ True) c
            [.start (.verifyMigrations verifying), .advance c.calls.length oracle]).Returned
              c.calls.length (.verifyMigrations verifying) (.verified (.ok report)) ∧
          report.status = .clean

section Runs

variable {libraries : MigrationLibraries} {directory : List DirectoryEntry}
  {files : List MigrationFile} {db : MigrationDatabase} {k : ℕ}
  {c : MigrationConfiguration directory}

theorem commits_eq_of_reaches
    (hreaches : Reaches (migrationMachine libraries directory) (fun _ _ ↦ True) (.initial db) c) :
    c.store.commits = db.commits ++
      (c.history.filterMap fun occurrence ↦ committed occurrence.performed).reverse := by
  induction hreaches with
  | refl => exact (List.append_nil _).symm
  | step _ _ hstep ih =>
    cases steps_of_step_eq_some hstep with
    | start request => exact ih
    | end_ hcall => exact ih
    | turn tick => exact nomatch tick
    | @perform caller oracle request op next store answer hcall hanswer =>
      change MigrationDatabase.handle _ op oracle = _ at hanswer
      cases op with
      | selectApplied =>
        obtain ⟨rfl, rfl⟩ := Prod.mk.inj (Option.some.inj hanswer)
        exact ih
      | withTransaction statements =>
        simp only [MigrationDatabase.handle] at hanswer
        split at hanswer
        · rename_i later hcommit
          obtain ⟨rfl, rfl⟩ := Prod.mk.inj (Option.some.inj hanswer)
          show later.commits = _
          rw [commits_of_transact hcommit, ih, List.filterMap_cons]
          simp [committed]
        · obtain ⟨rfl, rfl⟩ := Prod.mk.inj (Option.some.inj hanswer)
          exact ih

theorem migrated_of_reaches (hload : loadMigrationFiles libraries directory = .ok files)
    (hstart : Progressed files k db)
    (hreaches : Reaches (migrationMachine libraries directory) (fun _ _ ↦ True) (.initial db) c) :
    ∃ n, Migrated files db k n c := by
  obtain ⟨_, _, _, horder⟩ := loadMigrationFiles_eq_ok hload
  have hinitial : Migrated files db k k
      (Configuration.initial db : MigrationConfiguration directory) :=
    { start_le := Nat.le_refl k
      progressed := hstart
      commits := by
        have hnone : (files.take k).drop k = [] :=
          List.drop_eq_nil_of_le (List.length_take_le _ _)
        rw [hnone]
        exact (List.append_nil _).symm
      seen := ⟨fun _ _ _ hread ↦ absurd hread List.not_mem_nil,
        fun _ _ hmem ↦ absurd hmem List.not_mem_nil⟩ }
  have hkept : ∀ (c : MigrationConfiguration directory) event later,
      Reaches (migrationMachine libraries directory) (fun _ _ ↦ True) (.initial db) c →
      (∃ n, Migrated files db k n c) →
      Keeps (migrationMachine libraries directory) (migrationContract directory files) 0 c →
      True → (migrationMachine libraries directory).step c event = some later →
        ∃ n, Migrated files db k n later := by
    rintro c event later - ⟨n, hmigrated⟩ hkeeps - hstep
    exact hmigrated.step horder hkeeps hstep
  exact (hreaches.keeps (migration_honours hload) (fun _ _ ↦ trivial) hkept
    (fun _ h ↦ absurd h List.not_mem_nil) ⟨k, hinitial⟩).1

/-- A run of `verifyMigrations` reads the table and reports. -/
theorem verifyMigrations_program (hload : loadMigrationFiles libraries directory = .ok files)
    (options : OptionsOver directory) :
    migrationProgram libraries (.verifyMigrations options) =
      .call .selectApplied fun answer ↦ .pure (.verified (match appliedOf answer with
        | .error thrown => .error thrown
        | .ok rows => .ok (verifyReport options.toMigrationRunnerOptions files rows))) := by
  simp only [migrationProgram, verifyMigrations, loadMigrationFiles_perm options.listed hload]
  refine congrArg (Program.call _) (funext fun answer ↦ ?_)
  show Program.bind (Program.bind (.pure (appliedOf answer)) _) _ = _
  cases appliedOf answer with
  | error thrown => rfl
  | ok rows => rfl

/-- A run of `verifyMigrations` that reads the table at once returns its report. -/
theorem returned_verifyMigrations (hload : loadMigrationFiles libraries directory = .ok files)
    (options : OptionsOver directory) (oracle : MigrationOracle)
    {rows : Option (List AppliedMigration)}
    (hanswer : appliedOf (c.store.select oracle) = .ok rows) :
    ((migrationMachine libraries directory).finish (fun _ _ ↦ True) c
      [.start (.verifyMigrations options), .advance c.calls.length oracle]).Returned
        c.calls.length (.verifyMigrations options)
        (.verified (.ok (verifyReport options.toMigrationRunnerOptions files rows))) := by
  have hprogram : (migrationMachine libraries directory).program (.verifyMigrations options) = _ :=
    verifyMigrations_program hload options
  have hhandler : (migrationMachine libraries directory).handler c.store .selectApplied oracle =
    some (c.store, c.store.select oracle) := rfl
  simp [finish, after, step, hprogram, hhandler, Configuration.Returned, hanswer]

/-- A run that has returned has recorded every file. -/
theorem recorded_of_returned (hload : loadMigrationFiles libraries directory = .ok files)
    (hstart : Progressed files k db)
    (hreaches : Reaches (migrationMachine libraries directory) (fun _ _ ↦ True) (.initial db) c)
    {caller : ℕ} {applied : List MigrationFile}
    (hplanned : Planned files (logOf caller c.history) applied []) :
    c.store.recorded = files.map (·.record) := by
  obtain ⟨_, _, _, horder⟩ := loadMigrationFiles_eq_ok hload
  obtain ⟨n, hmigrated⟩ := migrated_of_reaches hload hstart hreaches
  obtain ⟨m, hdrop, hle⟩ := hplanned.place hmigrated.seen horder
  have hlength := congrArg List.length hdrop
  rw [List.length_drop, List.append_nil] at hlength
  have hall : files.take n = files := List.take_of_length_le (by omega)
  rw [hmigrated.progressed.2, hall]

/-- However runs over one directory interleave and fail, each file is applied once, in order, and in
one commit with its row. -/
theorem migratesOnce (hload : loadMigrationFiles libraries directory = .ok files)
    (hreaches : Reaches (migrationMachine libraries directory) (fun _ _ ↦ True) (.initial db) c) :
    MigratesOnce libraries files db c := by
  have hends := hreaches.bound (migration_honours hload) fun _ ↦ trivial
  refine ⟨?_, commits_eq_of_reaches hreaches, ?_, ?_, ?_⟩
  · intro k hstart
    obtain ⟨n, hmigrated⟩ := migrated_of_reaches hload hstart hreaches
    exact ⟨n, hmigrated.start_le, hmigrated.progressed, hmigrated.commits⟩
  · intro caller options error hreturned hkind
    refine (hends.post (Nat.zero_le caller) hreturned).2 fun happly ↦ ?_
    simp [happly] at hkind
  · intro caller options error hreturned hkind
    exact (hends.post (Nat.zero_le caller) hreturned).1 hkind
  · intro k hstart caller options applied hreturned
    have hplanned : Planned files (logOf caller c.history) applied [] :=
      hends.post (Nat.zero_le caller) hreturned
    refine ⟨hplanned.choose_spec.choose_spec.2.2.2, fun verifying oracle hfailure ↦ ?_⟩
    obtain ⟨_, _, _, horder⟩ := loadMigrationFiles_eq_ok hload
    have hselect : ∃ rows, appliedOf (c.store.select oracle) = .ok rows ∧
        (rows.getD []).map (·.record) = c.store.recorded := recorded_of_select hfailure
    obtain ⟨rows, hanswer, hrows⟩ := hselect
    have hall := recorded_of_returned hload hstart hreaches hplanned
    exact ⟨verifyReport verifying.toMigrationRunnerOptions files rows,
      returned_verifyMigrations hload verifying oracle hanswer,
      verifyReport_clean _ horder (hrows.trans hall)⟩

end Runs

/-! Two runs read the empty table; one applies both files, the other fails at the first of them. -/

namespace Race

def first : DirectoryEntry where
  name := "0001_platform_schema.sql"
  isFile := true
  bytes := "-- rollback: drop schema platform\nCREATE SCHEMA platform;\n".toUTF8.toList

def second : DirectoryEntry where
  name := "0002_audit_table.sql"
  isFile := true
  bytes :=
    "-- Adds the audit table.\n--  Rollback: forward-fix only\nCREATE TABLE audit ();\n"
      |>.toUTF8.toList

/-- The runtime, as it answers for the bytes of the two files. -/
def libraries : MigrationLibraries where
  decodeUtf8 bytes := String.ofList (bytes.map fun byte ↦ Char.ofNat byte.toNat)
  sha256Hex bytes :=
    if bytes = first.bytes then "b776e9ff22e60bde9973b1a94b76b807fc99a596a717041583a095e1659e96f8"
    else "e0f50d4063e8c004486de4b7ff32a3c7781f64ddcd26dcf85e8f3dfdf1c7531f"

def directory : List DirectoryEntry := [second, first]

def firstFile : MigrationFile where
  version := 1
  name := "platform_schema"
  filename := "0001_platform_schema.sql"
  sql := "-- rollback: drop schema platform\nCREATE SCHEMA platform;\n"
  checksum := "b776e9ff22e60bde9973b1a94b76b807fc99a596a717041583a095e1659e96f8"

def secondFile : MigrationFile where
  version := 2
  name := "audit_table"
  filename := "0002_audit_table.sql"
  sql := "-- Adds the audit table.\n--  Rollback: forward-fix only\nCREATE TABLE audit ();\n"
  checksum := "e0f50d4063e8c004486de4b7ff32a3c7781f64ddcd26dcf85e8f3dfdf1c7531f"

def options : OptionsOver directory where
  database := "karar"
  migrationsDir := "db/migrations"
  entries := directory
  listed := .refl _

def events : List (Event MigrationOracle (MigrationRequest directory) Empty) :=
  [.start (.migrateToLatest options), .start (.migrateToLatest options), .advance 0 {},
    .advance 1 {}, .advance 0 {}, .advance 1 {}, .advance 0 {}, .advance 1 {}, .advance 0 {}]

/-- Where the two runs end. -/
def run : MigrationConfiguration directory :=
  (migrationMachine libraries directory).finish (fun _ _ ↦ True) (.initial ⟨none, []⟩) events

theorem load : loadMigrationFiles libraries directory = .ok [firstFile, secondFile] := by
  decide +kernel

end Race

theorem migratesOnce_race : MigratesOnce Race.libraries [Race.firstFile, Race.secondFile] ⟨none, []⟩
    Race.run :=
  migratesOnce Race.load (reaches_finish Race.events)

end Karar.Platform
