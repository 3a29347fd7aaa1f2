import Karar.Foundation.KeyedTable
import Karar.Foundation.Leading
import Karar.Identity.Domain

/-!
# The stores of the identity module

Accounts and password credentials, and the statements of the account repository over them. Every
password replacement and, where asked for, every change of status moves the token version on.

The stores of verification codes and of password-reset requests. They keep rows of one shape and
share their statements; a reset request is unique by its digest as well. The increment of the
attempts and the consumption are updates by id alone: neither looks at the row it changes.
-/

namespace Karar.Identity

/-! ## The account store -/

section AccountStore

open Foundation SharedKernel

structure NewAccount where
  id : UserId
  email : String
  passwordHash : String
  paramsVersion : ℕ
  now : Instant
deriving DecidableEq

/-- What `getCredential` hands out. -/
structure CredentialView where
  passwordHash : String
  paramsVersion : ℕ
deriving DecidableEq

structure AccountStore where
  accounts : KeyedTable IdentityAccount.id IdentityAccount.email
  credentials : KeyedTable PasswordCredential.accountId PasswordCredential.accountId

inductive AccountOp
  | createWithCredential (account : NewAccount)
  | findByEmail (normalizedEmail : String)
  | findById (accountId : UserId)
  | markEmailVerified (accountId : UserId) (now : Instant)
  | setStatus (accountId : UserId) (status : AccountStatus) (reason : Option String)
      (bumpTokenVersion : Bool) (now : Instant)
  | replacePassword (accountId : UserId) (passwordHash : String) (paramsVersion : ℕ) (now : Instant)
  | getCredential (accountId : UserId)
deriving DecidableEq

/-- The result `'created'` is `true`, `'duplicate_email'` is `false`. -/
abbrev AccountOp.Answer : AccountOp → Type
  | .createWithCredential _ => Bool
  | .findByEmail _ => Option IdentityAccount
  | .findById _ => Option IdentityAccount
  | .markEmailVerified _ _ => Unit
  | .setStatus _ _ _ _ _ => Unit
  | .replacePassword _ _ _ _ => Unit
  | .getCredential _ => Option CredentialView

namespace AccountStore

def empty : AccountStore := ⟨.empty, .empty⟩

/-- The row of a new account, with the columns the insertion leaves to their defaults. -/
def NewAccount.row (account : NewAccount) : IdentityAccount where
  id := account.id
  email := account.email
  emailVerifiedAt := none
  status := .active
  disabledReason := none
  mfaRequired := false
  tokenVersion := 1
  createdAt := account.now
  updatedAt := account.now

/-- Both rows in one transaction; a unique violation of either is a duplicate. -/
def createWithCredential (store : AccountStore) (account : NewAccount) : AccountStore × Bool :=
  let inserted := do
    let accounts ← store.accounts.insert (NewAccount.row account)
    let credentials ← store.credentials.insert
      { accountId := account.id
        passwordHash := account.passwordHash
        paramsVersion := account.paramsVersion
        updatedAt := account.now }
    some ⟨accounts, credentials⟩
  match inserted with
  | some later => (later, true)
  | none => (store, false)

def findByEmail (store : AccountStore) (normalizedEmail : String) : Option IdentityAccount :=
  store.accounts.findAlt normalizedEmail

def findById (store : AccountStore) (accountId : UserId) : Option IdentityAccount :=
  store.accounts.find accountId

/-- An `update` of one account; `none` when there is no such row. -/
def updateAccount (store : AccountStore) (accountId : UserId)
    (change : KeyedTable.Rewrite IdentityAccount.id IdentityAccount.email) : Option AccountStore :=
  if store.accounts.count (fun row ↦ row.id = accountId) = 0 then none
  else
    some { store with accounts := store.accounts.update (fun row ↦ row.id = accountId) change }

def markEmailVerified (store : AccountStore) (accountId : UserId) (now : Instant) : AccountStore :=
  { store with
    accounts := store.accounts.update
      (fun row ↦ row.id = accountId ∧ row.emailVerifiedAt = none)
      ⟨fun row ↦ { row with emailVerifiedAt := some now, updatedAt := now },
        fun _ ↦ rfl, fun _ ↦ rfl⟩ }

def setStatus (store : AccountStore) (accountId : UserId) (status : AccountStatus)
    (reason : Option String) (bumpTokenVersion : Bool) (now : Instant) : Option AccountStore :=
  store.updateAccount accountId
    ⟨fun row ↦
      { row with
        status := status
        disabledReason := reason
        updatedAt := now
        tokenVersion := if bumpTokenVersion then row.tokenVersion + 1 else row.tokenVersion },
      fun _ ↦ rfl, fun _ ↦ rfl⟩

/-- The upsert of `replacePassword`. -/
def upsertCredential (store : AccountStore) (credential : PasswordCredential) :
    Option AccountStore :=
  if store.credentials.count (fun row ↦ row.accountId = credential.accountId) = 0 then do
    let credentials ← store.credentials.insert credential
    some { store with credentials }
  else
    some
      { store with
        credentials := store.credentials.update
          (fun row ↦ row.accountId = credential.accountId)
          ⟨fun row ↦
            { row with
              passwordHash := credential.passwordHash
              paramsVersion := credential.paramsVersion
              updatedAt := credential.updatedAt },
            fun _ ↦ rfl, fun _ ↦ rfl⟩ }

def replacePassword (store : AccountStore) (accountId : UserId) (passwordHash : String)
    (paramsVersion : ℕ) (now : Instant) : Option AccountStore := do
  let upserted ← store.upsertCredential ⟨accountId, passwordHash, paramsVersion, now⟩
  -- Every password replacement is a token-version boundary.
  upserted.updateAccount accountId
    ⟨fun row ↦ { row with tokenVersion := row.tokenVersion + 1, updatedAt := now },
      fun _ ↦ rfl, fun _ ↦ rfl⟩

def getCredential (store : AccountStore) (accountId : UserId) : Option CredentialView :=
  (store.credentials.find accountId).map fun row ↦ ⟨row.passwordHash, row.paramsVersion⟩

def perform (store : AccountStore) : (op : AccountOp) → Option (AccountStore × op.Answer)
  | .createWithCredential account => some (store.createWithCredential account)
  | .findByEmail normalizedEmail => some (store, store.findByEmail normalizedEmail)
  | .findById accountId => some (store, store.findById accountId)
  | .markEmailVerified accountId now => some (store.markEmailVerified accountId now, ())
  | .setStatus accountId status reason bumpTokenVersion now =>
    (store.setStatus accountId status reason bumpTokenVersion now).map (·, ())
  | .replacePassword accountId passwordHash paramsVersion now =>
    (store.replacePassword accountId passwordHash paramsVersion now).map (·, ())
  | .getCredential accountId => some (store, store.getCredential accountId)

end AccountStore

end AccountStore

/-! ## One-time codes -/

section CodeStore

open Foundation KeyedTable SharedKernel

/-- A table of one-time codes with a second unique column computed from id and digest. -/
abbrev CodeTable {Alt : Type} (alt : String → String → Alt) :=
  KeyedTable OneTimeCodeRecord.id fun row ↦ alt row.id row.codeHash

/-- `email_verifications`. -/
abbrev VerificationTable := CodeTable fun id _ ↦ id

/-- `password_reset_requests`, unique by `code_hash`. -/
abbrev ResetTable := CodeTable fun _ codeHash ↦ codeHash

namespace CodeTable

variable {Alt : Type} {alt : String → String → Alt}

/-- An `update` of one code; `none` when there is no such row. -/
def updateCode (table : CodeTable alt) (id : String)
    (change : Rewrite OneTimeCodeRecord.id fun row ↦ alt row.id row.codeHash) :
    Option (CodeTable alt) :=
  if table.count (fun row ↦ row.id = id) = 0 then none
  else some (table.update (fun row ↦ row.id = id) change)

def recordFailedAttempt (table : CodeTable alt) (id : String) : Option (CodeTable alt) :=
  table.updateCode id
    ⟨fun row ↦ { row with attempts := row.attempts + 1 }, fun _ ↦ rfl, fun _ ↦ rfl⟩

def consume (table : CodeTable alt) (id : String) (now : Instant) : Option (CodeTable alt) :=
  table.updateCode id ⟨fun row ↦ { row with consumedAt := some now }, fun _ ↦ rfl, fun _ ↦ rfl⟩

/-- `orderBy: { createdAt: 'desc' }`. -/
def createdAhead (first second : OneTimeCodeRecord) : Bool := second.createdAt < first.createdAt

def latestActive (table : CodeTable alt) (accountId : UserId) (now : Instant) :
    Option OneTimeCodeRecord :=
  leading createdAhead (table.rows.filter fun row ↦
    row.accountId = accountId ∧ row.consumedAt = none ∧ now < row.expiresAt)

def latestCreatedAt (table : CodeTable alt) (accountId : UserId) : Option Instant :=
  (leading createdAhead (table.rows.filter fun row ↦ row.accountId = accountId)).map (·.createdAt)

theorem updateCode_eq_some {table later : CodeTable alt} {id : String}
    {change : Rewrite OneTimeCodeRecord.id fun row ↦ alt row.id row.codeHash}
    (hupdate : table.updateCode id change = some later) :
    (∃ row ∈ table.rows, row.id = id) ∧ later = table.update (fun row ↦ row.id = id) change := by
  unfold updateCode at hupdate
  split_ifs at hupdate with hcount
  obtain ⟨row, hrow, hid⟩ := exists_of_count_ne_zero hcount
  exact ⟨⟨row, hrow, of_decide_eq_true hid⟩, (Option.some.inj hupdate).symm⟩

/-- An active code is a row of the account, unconsumed and unexpired. -/
theorem latestActive_eq_some {table : CodeTable alt} {accountId : UserId} {now : Instant}
    {row : OneTimeCodeRecord} (hactive : table.latestActive accountId now = some row) :
    row ∈ table.rows ∧ row.accountId = accountId ∧ row.consumedAt = none ∧ now < row.expiresAt := by
  obtain ⟨hrow, hfilter⟩ := List.mem_filter.mp (leading_mem hactive)
  exact ⟨hrow, of_decide_eq_true hfilter⟩

end CodeTable

/-! ### Verification codes -/

inductive VerificationOp
  | create (record : OneTimeCodeRecord)
  | latestActive (accountId : UserId) (now : Instant)
  | latestCreatedAt (accountId : UserId)
  | recordFailedAttempt (id : String)
  | consume (id : String) (now : Instant)
deriving DecidableEq

abbrev VerificationOp.Answer : VerificationOp → Type
  | .create _ => Unit
  | .latestActive _ _ => Option OneTimeCodeRecord
  | .latestCreatedAt _ => Option Instant
  | .recordFailedAttempt _ => Unit
  | .consume _ _ => Unit

namespace VerificationTable

def perform (table : VerificationTable) : (op : VerificationOp) →
    Option (VerificationTable × op.Answer)
  | .create record => (table.insert record).map (·, ())
  | .latestActive accountId now => some (table, CodeTable.latestActive table accountId now)
  | .latestCreatedAt accountId => some (table, CodeTable.latestCreatedAt table accountId)
  | .recordFailedAttempt id => (CodeTable.recordFailedAttempt table id).map (·, ())
  | .consume id now => (CodeTable.consume table id now).map (·, ())

end VerificationTable

/-! ### Password-reset requests -/

inductive ResetOp
  | create (record : OneTimeCodeRecord) (requestedIpDigest : Option String)
  | findByCodeHash (codeHash : String)
  | latestCreatedAt (accountId : UserId)
  | recordFailedAttempt (id : String)
  | consume (id : String) (accountId : UserId) (now : Instant)
deriving DecidableEq

abbrev ResetOp.Answer : ResetOp → Type
  | .create _ _ => Unit
  | .findByCodeHash _ => Option OneTimeCodeRecord
  | .latestCreatedAt _ => Option Instant
  | .recordFailedAttempt _ => Unit
  | .consume _ _ _ => Unit

namespace ResetTable

/-- The consumption runs under the account and reaches its rows only. -/
def consume (table : ResetTable) (id : String) (accountId : UserId) (now : Instant) :
    Option ResetTable :=
  if table.count (fun row ↦ row.id = id ∧ row.accountId = accountId) = 0 then none
  else CodeTable.consume table id now

def perform (table : ResetTable) : (op : ResetOp) → Option (ResetTable × op.Answer)
  | .create record _ => (table.insert record).map (·, ())
  | .findByCodeHash codeHash => some (table, table.findAlt codeHash)
  | .latestCreatedAt accountId => some (table, CodeTable.latestCreatedAt table accountId)
  | .recordFailedAttempt id => (CodeTable.recordFailedAttempt table id).map (·, ())
  | .consume id accountId now => (consume table id accountId now).map (·, ())

end ResetTable

end CodeStore

end Karar.Identity
