import Karar.Foundation.KeyedTable
import Karar.Identity.Domain

/-!
# The MFA store

Enrolments and recovery codes, and the statements of the MFA repository over them. The enrolment
writes are an upsert and two updates by account alone: none of them looks at the row it changes. The
consumption of a recovery code is a guarded claim.
-/

namespace Karar.Identity

open Foundation KeyedTable SharedKernel

/-- A recovery code as `replaceRecoveryCodes` takes it. -/
structure NewRecoveryCode where
  id : String
  codeHash : String
  createdAt : Instant
deriving DecidableEq

structure MfaStore where
  enrolments : KeyedTable MfaEnrolment.accountId MfaEnrolment.accountId
  recoveryCodes : KeyedTable MfaRecoveryCode.id fun row ↦ (row.accountId, row.codeHash)

inductive MfaOp
  | getEnrolment (accountId : UserId)
  | saveEnrolment (enrolment : MfaEnrolment)
  | confirmEnrolment (accountId : UserId) (now : Instant)
  | disableEnrolment (accountId : UserId) (now : Instant)
  | replaceRecoveryCodes (accountId : UserId) (codes : List NewRecoveryCode)
  | consumeRecoveryCode (accountId : UserId) (codeHash : String) (now : Instant)
  | countUnusedRecoveryCodes (accountId : UserId)
deriving DecidableEq

abbrev MfaOp.Answer : MfaOp → Type
  | .getEnrolment _ => Option MfaEnrolment
  | .saveEnrolment _ => Unit
  | .confirmEnrolment _ _ => Unit
  | .disableEnrolment _ _ => Unit
  | .replaceRecoveryCodes _ _ => Unit
  | .consumeRecoveryCode _ _ _ => Bool
  | .countUnusedRecoveryCodes _ => ℕ

namespace MfaStore

def empty : MfaStore := ⟨.empty, .empty⟩

def getEnrolment (store : MfaStore) (accountId : UserId) : Option MfaEnrolment :=
  store.enrolments.find accountId

def deleteRecoveryCodes (store : MfaStore) (accountId : UserId) : MfaStore :=
  { store with recoveryCodes := store.recoveryCodes.delete fun row ↦ row.accountId = accountId }

/-- The upsert of `saveEnrolment`. -/
def upsertEnrolment (store : MfaStore) (enrolment : MfaEnrolment) : Option MfaStore :=
  if store.enrolments.count (fun row ↦ row.accountId = enrolment.accountId) = 0 then do
    let enrolments ← store.enrolments.insert enrolment
    some { store with enrolments }
  else
    some
      { store with
        enrolments := store.enrolments.update (fun row ↦ row.accountId = enrolment.accountId)
          ⟨fun row ↦
            { row with
              secretCiphertext := enrolment.secretCiphertext
              keyVersion := enrolment.keyVersion
              createdAt := enrolment.createdAt
              confirmedAt := enrolment.confirmedAt
              disabledAt := enrolment.disabledAt },
            fun _ ↦ rfl, fun _ ↦ rfl⟩ }

def saveEnrolment (store : MfaStore) (enrolment : MfaEnrolment) : Option MfaStore := do
  let upserted ← store.upsertEnrolment enrolment
  -- A fresh enrolment invalidates any earlier recovery codes.
  some (upserted.deleteRecoveryCodes enrolment.accountId)

/-- An `update` of one enrolment; `none` when there is no such row. -/
def updateEnrolment (store : MfaStore) (accountId : UserId)
    (change : Rewrite MfaEnrolment.accountId MfaEnrolment.accountId) : Option MfaStore :=
  if store.enrolments.count (fun row ↦ row.accountId = accountId) = 0 then none
  else
    some
      { store with
        enrolments := store.enrolments.update (fun row ↦ row.accountId = accountId) change }

def confirmEnrolment (store : MfaStore) (accountId : UserId) (now : Instant) : Option MfaStore :=
  store.updateEnrolment accountId
    ⟨fun row ↦ { row with confirmedAt := some now, disabledAt := none },
      fun _ ↦ rfl, fun _ ↦ rfl⟩

def disableEnrolment (store : MfaStore) (accountId : UserId) (now : Instant) : Option MfaStore := do
  let disabled ← store.updateEnrolment accountId
    ⟨fun row ↦ { row with disabledAt := some now }, fun _ ↦ rfl, fun _ ↦ rfl⟩
  some (disabled.deleteRecoveryCodes accountId)

def insertRecoveryCodes (accountId : UserId) :
    List NewRecoveryCode → MfaStore → Option MfaStore
  | [], store => some store
  | code :: codes, store => do
    let recoveryCodes ← store.recoveryCodes.insert
      ⟨code.id, accountId, code.codeHash, none, code.createdAt⟩
    insertRecoveryCodes accountId codes { store with recoveryCodes }

def replaceRecoveryCodes (store : MfaStore) (accountId : UserId) (codes : List NewRecoveryCode) :
    Option MfaStore :=
  insertRecoveryCodes accountId codes (store.deleteRecoveryCodes accountId)

/-- The one-time claim of a recovery code. -/
def isConsumable (accountId : UserId) (codeHash : String) (row : MfaRecoveryCode) : Bool :=
  row.accountId = accountId ∧ row.codeHash = codeHash ∧ row.usedAt = none

def consumeRecoveryCode (store : MfaStore) (accountId : UserId) (codeHash : String)
    (now : Instant) : MfaStore × Bool :=
  ({ store with
      recoveryCodes := store.recoveryCodes.update (isConsumable accountId codeHash)
        ⟨fun row ↦ { row with usedAt := some now }, fun _ ↦ rfl, fun _ ↦ rfl⟩ },
    store.recoveryCodes.count (isConsumable accountId codeHash) == 1)

def countUnusedRecoveryCodes (store : MfaStore) (accountId : UserId) : ℕ :=
  store.recoveryCodes.count fun row ↦ row.accountId = accountId ∧ row.usedAt = none

def perform (store : MfaStore) : (op : MfaOp) → Option (MfaStore × op.Answer)
  | .getEnrolment accountId => some (store, store.getEnrolment accountId)
  | .saveEnrolment enrolment => (store.saveEnrolment enrolment).map (·, ())
  | .confirmEnrolment accountId now => (store.confirmEnrolment accountId now).map (·, ())
  | .disableEnrolment accountId now => (store.disableEnrolment accountId now).map (·, ())
  | .replaceRecoveryCodes accountId codes =>
    (store.replaceRecoveryCodes accountId codes).map (·, ())
  | .consumeRecoveryCode accountId codeHash now =>
    some (store.consumeRecoveryCode accountId codeHash now)
  | .countUnusedRecoveryCodes accountId => some (store, store.countUnusedRecoveryCodes accountId)

end MfaStore

end Karar.Identity
