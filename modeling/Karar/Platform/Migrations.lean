import Karar.Foundation.Program
import Karar.SharedKernel.Basic
import Mathlib.Data.List.Sort

/-!
# The migration runner

Migrations are SQL files `NNNN_description.sql`, applied in the order of their numbers, each in a
transaction of its own that also records it in `platform.schema_migrations`. `loadMigrationFiles`
reads a directory, `reconcile` compares its files with the recorded rows, `migrateToLatest` applies
what is pending, and `verifyMigrations` only reports.

The database is the table and the transactions it has committed, oldest first. A transaction commits
as a whole or not at all, and the primary key of the table is its version. The SQL of a file is not
interpreted: that it took effect is that a committed transaction contains it. It does not write the
table of the runner.
-/

namespace Karar.Platform

open Foundation SharedKernel

/-! ### Files -/

structure MigrationFile where
  version : ℕ
  name : String
  filename : String
  sql : String
  /-- The sha256 hex digest of the raw bytes of the file. -/
  checksum : String
deriving DecidableEq

inductive MigrationErrorKind
  | format
  | order
  | drift
  | apply
  | notBootstrapped
deriving DecidableEq

inductive PgErrorCode
  | uniqueViolation
  | serializationFailure
  | insufficientPrivilege
  | connectionFailure
  | unknown
deriving DecidableEq

structure PgError where
  code : PgErrorCode
  message : String
  sqlState : Option String
deriving DecidableEq

structure MigrationError where
  kind : MigrationErrorKind
  message : String
  cause : Option PgError := none
deriving DecidableEq

/-- What a run throws. -/
inductive Thrown
  | migration (error : MigrationError)
  | pg (error : PgError)
deriving DecidableEq

/-- An entry of the migrations directory. -/
structure DirectoryEntry where
  name : String
  isFile : Bool
  bytes : List UInt8
deriving DecidableEq

/-- The functions of the runtime that a run uses. -/
structure MigrationLibraries where
  /-- `bytes.toString('utf8')`. -/
  decodeUtf8 : List UInt8 → String
  /-- The sha256 digest in hexadecimal. -/
  sha256Hex : List UInt8 → String

/-- `JSON.stringify` of one character of a string. -/
def jsonCharacter (c : Char) : List Char :=
  if c = '"' then ['\\', '"']
  else if c = '\\' then ['\\', '\\']
  else if c.val = 0x8 then ['\\', 'b']
  else if c = '\t' then ['\\', 't']
  else if c = '\n' then ['\\', 'n']
  else if c.val = 0xC then ['\\', 'f']
  else if c = '\r' then ['\\', 'r']
  else if c.val < 0x20 then
    ['\\', 'u', '0', '0', Nat.digitChar (c.val.toNat / 16), Nat.digitChar (c.val.toNat % 16)]
  else [c]

def jsonStringify (text : String) : String :=
  String.ofList ('"' :: text.toList.flatMap jsonCharacter ++ ['"'])

/-- `String(version).padStart(4, '0')`. -/
def padVersion (version : ℕ) : String :=
  let digits := Nat.toDigits 10 version
  String.ofList (List.replicate (4 - digits.length) '0' ++ digits)

/-- The characters of a description. -/
def isDescriptionCharacter (c : Char) : Bool :=
  ('a' ≤ c && c ≤ 'z') || c.isDigit || c = '_'

/-- The captures of `FILENAME_PATTERN`: the number and the description. -/
def parseFilename (filename : String) : Option (ℕ × String) :=
  match filename.toList with
  | first :: second :: third :: fourth :: '_' :: rest =>
    let digits := [first, second, third, fourth]
    let description := rest.takeWhile isDescriptionCharacter
    -- No character of a description is a dot, so the longest match is the only one.
    if digits.all Char.isDigit ∧ description ≠ [] ∧
        rest.dropWhile isDescriptionCharacter = ['.', 's', 'q', 'l'] then
      some (digits.foldl (fun value digit ↦ 10 * value + (digit.toNat - 48)) 0,
        String.ofList description)
    else none
  | _ => none

/-- The characters that end a line. -/
def isLineTerminator (c : Char) : Bool :=
  c.val ∈ [0xA, 0xD, 0x2028, 0x2029]

/-- The text starts with a word, in either case. -/
def startsWithWord (word text : List Char) : Bool :=
  (text.take word.length).map Char.toLower = word

/-- `ROLLBACK_BLOCK_PATTERN` matches at the start of the text. -/
def startsRollbackBlock (text : List Char) : Bool :=
  match text.dropWhile isTrimmed with
  | '-' :: '-' :: rest => startsWithWord "rollback:".toList (rest.dropWhile isTrimmed)
  | _ => false

/-- `ROLLBACK_BLOCK_PATTERN` matches at the start of the text or after the end of a line. -/
def hasRollbackBlock (text : List Char) : Bool :=
  startsRollbackBlock text ||
    text.tails.any fun
      | terminator :: rest => isLineTerminator terminator && startsRollbackBlock rest
      | [] => false

section Load

variable (libraries : MigrationLibraries)

/-- One entry of the directory: `none` where it is not a migration. -/
def loadEntry (entry : DirectoryEntry) : Except MigrationError (Option MigrationFile) :=
  if !entry.isFile || !(".sql".toList.isSuffixOf entry.name.toList) then .ok none
  else
    match parseFilename entry.name with
    | none =>
      .error
        { kind := .format
          message := s!"Migration filename {jsonStringify entry.name} does not match " ++
            "NNNN_description.sql (four digits, lowercase snake_case description)" }
    | some (version, name) =>
      if hasRollbackBlock (libraries.decodeUtf8 entry.bytes).toList then
        .ok (some
          { version := version
            name := name
            filename := entry.name
            sql := libraries.decodeUtf8 entry.bytes
            checksum := libraries.sha256Hex entry.bytes })
      else
        .error
          { kind := .format
            message := s!"Migration {entry.name} is missing its \"-- rollback:\" recovery " ++
              "block; every migration documents recovery expectations " ++
              "(db/migrations/README.md)" }

def loadEntries : List DirectoryEntry → Except MigrationError (List MigrationFile)
  | [] => .ok []
  | entry :: entries =>
    match loadEntry libraries entry with
    | .error error => .error error
    | .ok loaded => (loadEntries entries).map (loaded.toList ++ ·)

/-- The first two neighbours of one number. -/
def findDuplicate : List MigrationFile → Option (MigrationFile × MigrationFile)
  | previous :: current :: files =>
    if previous.version = current.version then some (previous, current)
    else findDuplicate (current :: files)
  | _ => none

/-- The migrations of a directory, as `readdir` lists it, in the order of their numbers. -/
def loadMigrationFiles (entries : List DirectoryEntry) :
    Except MigrationError (List MigrationFile) :=
  match loadEntries libraries entries with
  | .error error => .error error
  | .ok loaded =>
    let files := loaded.insertionSort fun first second ↦ first.version ≤ second.version
    match findDuplicate files with
    | some (previous, current) =>
      .error
        { kind := .format
          message := s!"Duplicate migration number {padVersion current.version}: " ++
            s!"{previous.filename} and {current.filename}" }
    | none => .ok files

end Load

/-! ### The table -/

structure AppliedMigration where
  version : ℕ
  name : String
  checksum : String
  appliedAt : String
  appliedBy : String
deriving DecidableEq

/-- `platform.schema_migrations`: no two rows have one version. -/
structure MigrationTable where
  rows : List AppliedMigration
  ordered : rows.Pairwise fun first second ↦ first.version < second.version

namespace MigrationTable

def empty : MigrationTable := ⟨[], List.Pairwise.nil⟩

/-- The rows with a row in its place. -/
def insertedRows (rows : List AppliedMigration) (row : AppliedMigration) :
    List AppliedMigration :=
  rows.filter (·.version < row.version) ++ row :: rows.filter (row.version < ·.version)

theorem ordered_insertedRows {rows : List AppliedMigration} (row : AppliedMigration)
    (hordered : rows.Pairwise fun first second ↦ first.version < second.version) :
    (insertedRows rows row).Pairwise fun first second ↦ first.version < second.version := by
  refine List.pairwise_append.mpr ⟨hordered.filter _, ?_, ?_⟩
  · refine List.pairwise_cons.mpr ⟨fun second hsecond ↦ ?_, hordered.filter _⟩
    simpa using (List.mem_filter.mp hsecond).2
  · intro first hfirst second hsecond
    have hbelow : first.version < row.version := by simpa using (List.mem_filter.mp hfirst).2
    rcases List.mem_cons.mp hsecond with rfl | habove
    · exact hbelow
    · have hrow : row.version < second.version := by simpa using (List.mem_filter.mp habove).2
      omega

/-- `INSERT`: the primary key refuses a version that is there. -/
def insert (table : MigrationTable) (row : AppliedMigration) : Option MigrationTable :=
  if table.rows.any (·.version = row.version) then none
  else some ⟨insertedRows table.rows row, ordered_insertedRows row table.ordered⟩

end MigrationTable

/-! ### Reconciliation -/

inductive AppliedStatus
  | ok
  | checksumDrift
  | missingFile
  | nameMismatch
deriving DecidableEq

/-- `filesByVersion.get(version)`: of files of one number the map keeps the last. -/
def fileByVersion (files : List MigrationFile) (version : ℕ) : Option MigrationFile :=
  files.reverse.find? (·.version = version)

def classifyApplied (row : AppliedMigration) : Option MigrationFile → AppliedStatus
  | none => .missingFile
  | some file =>
    if file.name ≠ row.name then .nameMismatch
    else if file.checksum ≠ row.checksum then .checksumDrift
    else .ok

def driftMessage (row : AppliedMigration) (file : Option MigrationFile) : AppliedStatus → String
  | .checksumDrift =>
    s!"Migration {padVersion row.version}_{row.name} has changed since it was applied " ++
      s!"(recorded sha256 {row.checksum}, file sha256 " ++
      (match file with
        | some file => file.checksum
        | none => "unknown") ++
      "). Applied migrations are immutable history; write a new forward migration instead of " ++
      "editing an applied file. If the database genuinely diverged from the repository, " ++
      "treat it as schema drift and reconcile before migrating."
  | .missingFile =>
    s!"Migration {padVersion row.version}_{row.name} is recorded as applied but its file is " ++
      "missing from the migrations directory. Restore the file; applied history must remain in " ++
      "version control."
  | .nameMismatch =>
    s!"Migration {padVersion row.version} was applied as {jsonStringify row.name} but the file " ++
      "with that number is named differently. Restore the original filename; applied history is " ++
      "immutable."
  | .ok => ""

/-- The files without a row. -/
def pendingOf (files : List MigrationFile) (applied : List AppliedMigration) :
    List MigrationFile :=
  files.filter fun file ↦ !(applied.map (·.version)).contains file.version

/-- The first row whose file is missing, renamed or changed. -/
def findDrift (files : List MigrationFile) (applied : List AppliedMigration) :
    Option AppliedMigration :=
  applied.find? fun row ↦ classifyApplied row (fileByVersion files row.version) ≠ .ok

/-- The greatest recorded version, or 0. -/
def maxApplied (applied : List AppliedMigration) : ℕ :=
  applied.foldl (fun greatest row ↦ max greatest row.version) 0

def reconcile (files : List MigrationFile) (applied : List AppliedMigration) :
    Except MigrationError (List MigrationFile) :=
  match findDrift files applied with
  | some row =>
    let file := fileByVersion files row.version
    .error { kind := .drift, message := driftMessage row file (classifyApplied row file) }
  | none =>
    match (pendingOf files applied).find? (·.version < maxApplied applied) with
    | some outOfOrder =>
      .error
        { kind := .order
          message := s!"Migration {outOfOrder.filename} is numbered below already-applied " ++
            s!"version {maxApplied applied}. Migrations apply in strict filename order; " ++
            "renumber it after the latest applied migration." }
    | none => .ok (pendingOf files applied)

/-! ### The database -/

/-- A statement of a transaction. -/
inductive Statement
  /-- `METADATA_DDL`. -/
  | metadata
  /-- The SQL of a migration file. -/
  | script (sql : String)
  /-- `INSERT INTO platform.schema_migrations`. -/
  | insertRow (version : ℕ) (name checksum : String)
deriving DecidableEq

/-- The transaction that applies a file. -/
def MigrationFile.statements (file : MigrationFile) : List Statement :=
  [.script file.sql, .insertRow file.version file.name file.checksum]

inductive MigrationOp
  | withTransaction (statements : List Statement)
  | selectApplied
deriving DecidableEq

abbrev MigrationOp.Value : MigrationOp → Type
  | .withTransaction _ => Unit
  | .selectApplied => List AppliedMigration

abbrev MigrationOp.Answer (op : MigrationOp) : Type := Except PgError op.Value

/-- What the code does not decide: whether the database fails, and the defaults of a new row. -/
structure MigrationOracle where
  failure : Option PgError := none
  appliedAt : String := ""
  appliedBy : String := ""

structure MigrationDatabase where
  /-- `platform.schema_migrations`, once it exists. -/
  table : Option MigrationTable
  /-- The committed transactions, oldest first. -/
  commits : List (List Statement)

namespace MigrationDatabase

def undefinedTable : PgError :=
  ⟨.unknown, "relation \"platform.schema_migrations\" does not exist", some "42P01"⟩

def primaryKeyViolation : PgError :=
  ⟨.uniqueViolation,
    "duplicate key value violates unique constraint \"schema_migrations_pkey\"", some "23505"⟩

/-- What a statement does to the table inside its transaction. -/
def execute (oracle : MigrationOracle) (table : Option MigrationTable) :
    Statement → Except PgError (Option MigrationTable)
  | .metadata => .ok (some (table.getD .empty))
  | .script _ => .ok table
  | .insertRow version name checksum =>
    match table with
    | none => .error undefinedTable
    | some rows =>
      match rows.insert ⟨version, name, checksum, oracle.appliedAt, oracle.appliedBy⟩ with
      | none => .error primaryKeyViolation
      | some later => .ok (some later)

/-- A transaction commits as a whole, or throws and has changed nothing. -/
def transact (db : MigrationDatabase) (statements : List Statement) (oracle : MigrationOracle) :
    Except PgError MigrationDatabase :=
  match oracle.failure with
  | some error => .error error
  | none =>
    (statements.foldlM (execute oracle) db.table).map fun table ↦
      ⟨table, db.commits ++ [statements]⟩

def select (db : MigrationDatabase) (oracle : MigrationOracle) :
    Except PgError (List AppliedMigration) :=
  match oracle.failure, db.table with
  | some error, _ => .error error
  | none, none => .error undefinedTable
  | none, some table => .ok table.rows

def handle (db : MigrationDatabase) (op : MigrationOp) (oracle : MigrationOracle) :
    Option (MigrationDatabase × op.Answer) :=
  match op with
  | .withTransaction statements =>
    match db.transact statements oracle with
    | .ok later => some (later, .ok ())
    | .error error => some (db, .error error)
  | .selectApplied => some (db, db.select oracle)

end MigrationDatabase

/-! ### The runner -/

abbrev MigrationProgram := Program MigrationOp MigrationOp.Answer

def withTransaction (statements : List Statement) : MigrationProgram (Except PgError Unit) :=
  Program.perform (MigrationOp.withTransaction statements)

def selectApplied : MigrationProgram (Except PgError (List AppliedMigration)) :=
  Program.perform MigrationOp.selectApplied

structure MigrationRunnerOptions where
  /-- The database of the adapter's profile. -/
  database : String
  migrationsDir : String
  /-- The directory, as `readdir` lists it. -/
  entries : List DirectoryEntry

/-- `null` while the table does not exist. -/
def appliedOf : Except PgError (List AppliedMigration) →
    Except Thrown (Option (List AppliedMigration))
  | .ok rows => .ok (some rows)
  | .error error =>
    if error.sqlState = some "42P01" ∨ error.sqlState = some "3F000" then .ok none
    else .error (.pg error)

def readAppliedMigrations :
    MigrationProgram (Except Thrown (Option (List AppliedMigration))) := do
  return appliedOf (← selectApplied)

def ensureMetadata (database : String) : MigrationProgram (Except Thrown Unit) := do
  match ← withTransaction [.metadata] with
  | .ok () => return .ok ()
  | .error error =>
    if error.code = .insufficientPrivilege then
      return .error (.migration
        { kind := .notBootstrapped
          message := "karar_migrator lacks privileges on database " ++
            s!"{jsonStringify database}; run db:create (bootstrap) before db:migrate."
          cause := some error })
    else return .error (.pg error)

def applyError (file : MigrationFile) (error : PgError) : MigrationError where
  kind := .apply
  message := s!"Migration {file.filename} failed and was rolled back; nothing was recorded. " ++
    s!"Cause: {error.message}"
  cause := some error

/-- The loop over the pending files. -/
def applyPending (newlyApplied : List MigrationFile) :
    List MigrationFile → MigrationProgram (Except Thrown (List MigrationFile))
  | [] => return .ok newlyApplied
  | file :: pending => do
    match ← withTransaction file.statements with
    | .ok () => applyPending (newlyApplied ++ [file]) pending
    | .error error => return .error (.migration (applyError file error))

section Runner

variable (libraries : MigrationLibraries) (options : MigrationRunnerOptions)

def migrateToLatest : MigrationProgram (Except Thrown (List MigrationFile)) :=
  match loadMigrationFiles libraries options.entries with
  | .error error => return .error (.migration error)
  | .ok files => do
    match ← ensureMetadata options.database with
    | .error thrown => return .error thrown
    | .ok () =>
      match ← readAppliedMigrations with
      | .error thrown => return .error thrown
      | .ok applied =>
        match reconcile files (applied.getD []) with
        | .error error => return .error (.migration error)
        | .ok pending => applyPending [] pending

inductive VerifyStatus
  | clean
  | pending
  | drift
deriving DecidableEq

structure VerifyReport where
  database : String
  migrationsDir : String
  /-- Whether the table exists. -/
  metadataPresent : Bool
  applied : List (AppliedMigration × AppliedStatus)
  /-- The version, the name and the checksum of every file without a row. -/
  pending : List (ℕ × String × String)
  status : VerifyStatus
deriving DecidableEq

def verifyReport (files : List MigrationFile) (rows : Option (List AppliedMigration)) :
    VerifyReport :=
  let applied := (rows.getD []).map fun row ↦
    (row, classifyApplied row (fileByVersion files row.version))
  let pending := (pendingOf files (rows.getD [])).map fun file ↦
    (file.version, file.name, file.checksum)
  { database := options.database
    migrationsDir := options.migrationsDir
    metadataPresent := rows.isSome
    applied := applied
    pending := pending
    status :=
      if applied.any (·.2 ≠ .ok) then .drift else if 0 < pending.length then .pending else .clean }

def verifyMigrations : MigrationProgram (Except Thrown VerifyReport) :=
  match loadMigrationFiles libraries options.entries with
  | .error error => return .error (.migration error)
  | .ok files => do
    match ← readAppliedMigrations with
    | .error thrown => return .error thrown
    | .ok rows => return .ok (verifyReport options files rows)

end Runner

end Karar.Platform
