import Karar.Identity.CodeConduct
import Karar.Identity.ReferenceLibraries

/-!
# A reset token is used once

`ResetPassword` reads the request of a token, judges it, hashes the new password, and only then
consumes the request, by its id alone. Two calls that both read a live request therefore both go on.
`resetPassword_once` is what holds of the runs in which every consumption finds the request as its
call read it; `reset_twice` is a run that does not.
-/

namespace Karar.Identity

open Foundation KeyedTable Machine SharedKernel

/-! ### The property -/

def IdentityOp.isPasswordReplacement : IdentityOp → Bool
  | .accounts (.replacePassword _ _ _ _) => true
  | _ => false

/-- A call replaced a password. -/
def Replaced (c : IdentityConfiguration) (caller : ℕ) : Prop :=
  ∃ performed ∈ logOf caller c.history, performed.1.isPasswordReplacement = true

instance (c : IdentityConfiguration) (caller : ℕ) : Decidable (Replaced c caller) :=
  inferInstanceAs (Decidable (∃ performed ∈ logOf caller c.history, _ = true))

theorem exists_of_isPasswordReplacement {op : IdentityOp} (hop : op.isPasswordReplacement = true) :
    ∃ accountId passwordHash paramsVersion now,
      op = .accounts (.replacePassword accountId passwordHash paramsVersion now) := by
  unfold IdentityOp.isPasswordReplacement at hop
  split at hop
  · exact ⟨_, _, _, _, rfl⟩
  · cases hop

structure ResetsOnce (deps : IdentityDependencies) (c : IdentityConfiguration) : Prop where
  /-- A reset that replaced the password has consumed the request of its token. -/
  claims : ∀ i input, c.Asked i (.resetPassword input) → Replaced c i →
    ∃ row ∈ c.store.resets.rows, row.codeHash = deps.resetTokenDigest input.token ∧
      ∃ accountId now, Answered (logOf i c.history) (.resets (.consume row.id accountId now)) ()
  /-- Of the calls that present one token, one replaces the password. -/
  replacers : ∀ i j input other, c.Asked i (.resetPassword input) →
    c.Asked j (.resetPassword other) →
    deps.resetTokenDigest input.token = deps.resetTokenDigest other.token →
    Replaced c i → Replaced c j → i = j
  successes : ∀ i input, c.Returned i (.resetPassword input) (.resetPassword (.ok ())) →
    Replaced c i

/-- What an event consumes was neither consumed, expired nor out of attempts. -/
def ConsumesLive (c later : IdentityConfiguration) : Prop :=
  ∀ i id accountId now answer,
    later.history = ⟨i, .resets (.consume id accountId now), answer⟩ :: c.history →
    ∃ row ∈ c.store.resets.rows, row.id = id ∧ row.isDead c.store.clock = false

/-! ### The condition -/

/-- The reset requests a call has found. -/
def foundRequests (c : IdentityConfiguration) (caller : ℕ) : List OneTimeCodeRecord :=
  (logOf caller c.history).filterMap fun performed ↦
    match performed with
    | ⟨.resets (.findByCodeHash _), found⟩ => found
    | _ => none

theorem mem_foundRequests {c : IdentityConfiguration} {caller : ℕ} {codeHash : String}
    {record : OneTimeCodeRecord}
    (hfound : Answered (logOf caller c.history) (.resets (.findByCodeHash codeHash)) (some record)) :
    record ∈ foundRequests c caller :=
  List.mem_filterMap.mpr ⟨_, hfound, rfl⟩

/-- The request that a call is about to consume is still as the call has found it: nobody has
consumed it since, and it has attempts and time left. -/
def FindsAsRead (c : IdentityConfiguration) (caller : ℕ) : IdentityRequest → IdentityOp → Prop
  | .resetPassword _, .resets (.consume id _ _) =>
    ∀ record ∈ foundRequests c caller, ∀ row ∈ c.store.resets.rows, row.id = id →
      row.consumedAt = record.consumedAt ∧ row.attempts < row.maxAttempts ∧
        c.store.clock < row.expiresAt
  | _, _ => True

instance (c : IdentityConfiguration) (caller : ℕ) (request : IdentityRequest) (op : IdentityOp) :
    Decidable (FindsAsRead c caller request op) := by
  unfold FindsAsRead
  split <;> infer_instance

/-! ### What the answers establish -/

/-- A found request has the digest it was found by and stays; a consumed one stays consumed. -/
def ResetFact : Performed IdentityOp IdentityOp.Answer → ResetTable → Prop
  | ⟨.resets (.findByCodeHash codeHash), found⟩, table => ∀ record, found = some record →
      record.codeHash = codeHash ∧ ∃ row ∈ table.rows, CodeSucceeds record row
  | ⟨.resets (.consume id _ _), _⟩, table =>
    ∃ row ∈ table.rows, row.id = id ∧ row.consumedAt ≠ none
  | _, _ => True

theorem resetFact_evolves {performed : Performed IdentityOp IdentityOp.Answer}
    {table later : ResetTable} {fresh : OneTimeCodeRecord → Prop}
    (hevolves : Evolves CodeSucceeds fresh table later) (hfact : ResetFact performed table) : ResetFact performed later := by
  unfold ResetFact at hfact ⊢
  split
  · intro record hrecord
    obtain ⟨hdigest, row, hrow, hsucceeds⟩ := hfact record hrecord
    obtain ⟨successor, hsuccessor, hnext⟩ := hevolves.kept row hrow
    exact ⟨hdigest, successor, hsuccessor, hsucceeds.trans hnext⟩
  · obtain ⟨row, hrow, hid, hconsumed⟩ := hfact
    obtain ⟨successor, hsuccessor, hnext⟩ := hevolves.kept row hrow
    exact ⟨successor, hsuccessor, hnext.id.trans hid, hnext.consumed hconsumed⟩
  · trivial

theorem resetFact_answered {deps : IdentityDependencies} {store later : IdentityStore}
    {oracle : String} {op : IdentityOp} {answer : op.Answer}
    (hanswer : store.handle deps op oracle = some (later, answer)) :
    ResetFact ⟨op, answer⟩ later.resets := by
  unfold ResetFact
  split
  · rename_i heq
    obtain ⟨rfl, heq⟩ := Sigma.mk.inj heq
    obtain rfl := eq_of_heq heq
    intro record hrecord
    obtain ⟨resets, hperform, rfl⟩ := handle_resets hanswer
    obtain ⟨rfl, rfl⟩ := Prod.mk.inj (Option.some.inj hperform)
    obtain ⟨hrow, hdigest⟩ := findAlt_eq_some_iff.mp hrecord
    exact ⟨hdigest, record, hrow, codeSucceeds_refl record⟩
  · rename_i heq
    obtain ⟨rfl, heq⟩ := Sigma.mk.inj heq
    obtain ⟨resets, hperform, rfl⟩ := handle_resets hanswer
    obtain ⟨consumed, hconsumed, heq⟩ := Option.map_eq_some_iff.mp hperform
    obtain rfl := congrArg Prod.fst heq
    exact CodeTable.exists_of_consume (ResetTable.consume_eq_some hconsumed)
  · trivial

section Runs

variable {deps : IdentityDependencies} {store : IdentityStore} {c : IdentityConfiguration}
  {condition : IdentityConfiguration → IdentityEvent → Prop}

theorem resetFact_history
    (hreaches : Reaches (identityMachine deps) condition (.initial store) c) :
    ∀ occurrence ∈ c.history, ResetFact occurrence.performed c.store.resets :=
  hreaches.history (fun performed store ↦ ResetFact performed store.resets)
    (fun _ _ _ _ _ hanswer ↦ resetFact_answered hanswer)
    (fun _ _ _ _ _ _ hfact hanswer ↦ resetFact_evolves (handle_resets_evolves hanswer) hfact)
    (fun _ _ _ hfact ↦ hfact)
    (fun _ h ↦ absurd h List.not_mem_nil)

/-- The row of a request that a call found has the digest of the call's token. -/
theorem exists_row_of_found
    (hreaches : Reaches (identityMachine deps) condition (.initial store) c) {caller : ℕ}
    {codeHash : String} {record : OneTimeCodeRecord}
    (hfound : Answered (logOf caller c.history) (.resets (.findByCodeHash codeHash))
      (some record)) :
    ∃ row ∈ c.store.resets.rows, row.id = record.id ∧ row.codeHash = codeHash ∧
      row.expiresAt = record.expiresAt ∧ row.maxAttempts = record.maxAttempts := by
  have hfact := resetFact_history hreaches _ (mem_logOf.mp hfound)
  obtain ⟨hdigest, row, hrow, hsucceeds⟩ := hfact record rfl
  exact ⟨row, hrow, hsucceeds.id, hsucceeds.codeHash.trans hdigest, hsucceeds.expiresAt,
    hsucceeds.maxAttempts⟩

/-- A consumption that finds its request as read finds it unconsumed. -/
theorem isDead_eq_false_of_findsAsRead {caller : ℕ} {input : ResetPasswordInput} {id : String}
    {accountId : UserId} {now : Instant} {record row : OneTimeCodeRecord}
    (hfinds : FindsAsRead c caller (.resetPassword input) (.resets (.consume id accountId now)))
    (hjudged : Judged deps input (logOf caller c.history) record now)
    (hrow : row ∈ c.store.resets.rows) (hid : row.id = id) :
    row.consumedAt = none ∧ row.isDead c.store.clock = false := by
  obtain ⟨hconsumed, hattempts, hexpiry⟩ :=
    hfinds record (mem_foundRequests hjudged.found) row hrow hid
  have hlive := hjudged.live
  simp only [OneTimeCodeRecord.isDead, Bool.or_eq_false_iff, Option.isSome_eq_false_iff,
    Option.isNone_iff_eq_none] at hlive
  rw [hlive.1.1] at hconsumed
  refine ⟨hconsumed, ?_⟩
  simp only [OneTimeCodeRecord.isDead, hconsumed, Option.isSome_none, Bool.false_or,
    Bool.or_eq_false_iff, decide_eq_false_iff_not, Int.not_le, Nat.not_le]
  exact ⟨hexpiry, hattempts⟩

end Runs

/-! ### The law -/

section Law

variable {deps : IdentityDependencies} {store : IdentityStore} {c : IdentityConfiguration}

/-- The request that is consumed by what was performed. -/
def consumedReset : Performed IdentityOp IdentityOp.Answer → Option String
  | ⟨.resets (.consume id _ _), _⟩ => some id
  | _ => none

/-- A request is consumed by one call. -/
theorem consumed_by_one
    (hreaches : Reaches (identityMachine deps) (Meets FindsAsRead) (.initial store) c) :
    ∀ first ∈ c.history, ∀ second ∈ c.history, ∀ id, consumedReset first.performed = some id →
      consumedReset second.performed = some id → first.caller = second.caller := by
  refine hreaches.claimed_by_one consumedReset ?_ rfl
  intro c caller oracle request op next later answer id hreaches hmeets hcall hanswer hclaim
    earlier hearlier holder
  have hallowed := (hreaches.bound code_honours (fun _ ↦ trivial)).allowed (Nat.zero_le _) hcall
  have hfinds := hmeets.performed hcall
  -- The earlier consumption left the request consumed, so this one does not find it as read.
  have hfact := resetFact_history hreaches earlier hearlier
  unfold consumedReset at hclaim holder
  split at holder
  · rename_i other accountId now given hperformed
    obtain rfl := Option.some.inj holder
    rw [hperformed] at hfact
    obtain ⟨row, hrow, hid, hconsumed⟩ := hfact
    split at hclaim
    · rename_i heq
      obtain ⟨rfl, _⟩ := Sigma.mk.inj heq
      obtain rfl := Option.some.inj hclaim
      cases request with
      | resetPassword input =>
        obtain ⟨record, hjudged, _, _⟩ := hallowed
        exact hconsumed (isDead_eq_false_of_findsAsRead hfinds hjudged hrow hid).1
      | _ => exact hallowed.elim
    · cases hclaim
  · cases holder

/-- A reset that replaced the password had consumed the request of its token. -/
theorem exists_consumed_of_replaced {condition : IdentityConfiguration → IdentityEvent → Prop}
    (hreaches : Reaches (identityMachine deps) condition (.initial store) c) {caller : ℕ}
    {input : ResetPasswordInput} (hasked : c.Asked caller (.resetPassword input))
    (hreplaced : Replaced c caller) :
    ∃ row ∈ c.store.resets.rows, row.codeHash = deps.resetTokenDigest input.token ∧
      ∃ accountId now, Answered (logOf caller c.history)
        (.resets (.consume row.id accountId now)) () := by
  obtain ⟨⟨op, answer⟩, hanswered, hop⟩ := hreplaced
  obtain ⟨accountId, passwordHash, paramsVersion, replacedAt, rfl⟩ :=
    exists_of_isPasswordReplacement hop
  obtain ⟨recent, earlier, hhistory⟩ := List.append_of_mem (mem_logOf.mp hanswered)
  obtain ⟨request, hserved, hallowed⟩ :=
    hreaches.allowed code_honours (fun _ ↦ trivial) _ _ _ hhistory
  obtain rfl : request = .resetPassword input := hserved.unique hasked
  obtain ⟨record, now, hjudged, _, hconsumed⟩ := hallowed
  have hmem : ∀ {performed}, performed ∈ logOf caller earlier →
      performed ∈ logOf caller c.history := by
    intro performed hperformed
    rw [mem_logOf] at hperformed ⊢
    rw [hhistory]
    exact List.mem_append_right _ (List.mem_cons_of_mem _ hperformed)
  obtain ⟨row, hrow, hid, hdigest, _⟩ := exists_row_of_found hreaches (hmem hjudged.found)
  exact ⟨row, hrow, hdigest, accountId, now, hid ▸ hmem hconsumed⟩

/-- In a run whose consumptions find the request as read, one call per token replaces the password,
and no request is consumed that was consumed, expired or out of attempts. -/
theorem resetPassword_once
    (hreaches : Reaches (identityMachine deps) (Meets FindsAsRead) (.initial store) c) :
    ResetsOnce deps c ∧ ∀ event later, Meets FindsAsRead c event →
      (identityMachine deps).step c event = some later → ConsumesLive c later := by
  refine ⟨⟨fun i input ↦ exists_consumed_of_replaced hreaches, ?_, ?_⟩, ?_⟩
  · intro i j input other hi hj htoken hireplaced hjreplaced
    obtain ⟨row, hrow, hdigest, accountId, now, hiconsumed⟩ :=
      exists_consumed_of_replaced hreaches hi hireplaced
    obtain ⟨second, hsecond, hsecondDigest, accountId', now', hjconsumed⟩ :=
      exists_consumed_of_replaced hreaches hj hjreplaced
    -- The digest is unique, so both calls consumed the same request.
    obtain rfl : row = second :=
      eq_of_alt hrow hsecond ((hdigest.trans htoken).trans hsecondDigest.symm)
    exact consumed_by_one hreaches _ (mem_logOf.mp hiconsumed) _ (mem_logOf.mp hjconsumed)
      row.id rfl rfl
  · intro i input hreturned
    obtain ⟨accountId, passwordHash, paramsVersion, now, hanswered⟩ :=
      (hreaches.bound code_honours (fun _ ↦ trivial)).post (Nat.zero_le _) hreturned
    exact ⟨_, hanswered, rfl⟩
  · intro event later hmeets hstep i id accountId now answer hhistory
    obtain ⟨oracle, request, next, rfl, hcall, hanswer⟩ :=
      performed_of_history_eq_cons hstep hhistory
    have hallowed := (hreaches.bound code_honours (fun _ ↦ trivial)).allowed (Nat.zero_le _) hcall
    have hfinds := hmeets.performed hcall
    have hhandle : c.store.handle deps (.resets (.consume id accountId now)) oracle =
        some (later.store, answer) := hanswer
    obtain ⟨resets, hperform, _⟩ := handle_resets hhandle
    obtain ⟨consumed, hconsumed, _⟩ := Option.map_eq_some_iff.mp hperform
    obtain ⟨row, hrow, hid⟩ :=
      CodeTable.exists_of_consume_before (ResetTable.consume_eq_some hconsumed)
    cases request with
    | resetPassword input =>
      obtain ⟨record, hjudged, _, _⟩ := hallowed
      exact ⟨row, hrow, hid, (isDead_eq_false_of_findsAsRead hfinds hjudged hrow hid).2⟩
    | _ => exact hallowed.elim

end Law

/-! ### One reset, and two at a time -/

namespace ResetOnce

open ReferenceLibraries

def deps : IdentityDependencies := dependencies defaultIdentityPolicy

def request : OneTimeCodeRecord where
  id := "request"
  accountId := owner
  codeHash := deps.resetTokenDigest "token"
  expiresAt := 1000
  attempts := 0
  maxAttempts := 5
  consumedAt := none
  createdAt := 0

def store : IdentityStore := { ownerStore with resets := single request }

def input : ResetPasswordInput := ⟨"token", "battery staple", client⟩

/-- One call, up to its consumption. -/
def reading : List IdentityEvent :=
  [.start (.resetPassword input), .advance 0 "", .advance 0 "", .advance 0 "salt"]

def read : IdentityConfiguration :=
  (identityMachine deps).finish (Meets FindsAsRead) (.initial store) reading

/-- Two calls that both read the request before either consumes it. -/
def racing : List IdentityEvent :=
  [.start (.resetPassword input), .start (.resetPassword input), .advance 0 "", .advance 1 ""] ++
    List.replicate 11 (.advance 0 "salt") ++ List.replicate 11 (.advance 1 "salt")

def raced : IdentityConfiguration :=
  (identityMachine deps).finish (fun _ _ ↦ True) (.initial store) racing

end ResetOnce

open ResetOnce in
theorem resetPassword_once_read : ∃ later, ResetsOnce deps read ∧ ConsumesLive read later ∧
    (identityMachine deps).step read (.advance 0 "") = some later := by
  obtain ⟨later, hstep⟩ : ∃ later, (identityMachine deps).step read (.advance 0 "") = some later :=
    Option.isSome_iff_exists.mp (by decide)
  have hreaches : Reaches (identityMachine deps) (Meets FindsAsRead) (.initial store) read :=
    reaches_finish reading
  have honce := resetPassword_once hreaches
  exact ⟨later, honce.1, honce.2 (.advance 0 "") later (by decide) hstep, hstep⟩

open ResetOnce in
theorem reset_twice : ¬ ∀ deps store c,
    Reaches (identityMachine deps) (fun _ _ ↦ True) (.initial store) c →
      ∀ i j input, c.Returned i (.resetPassword input) (.resetPassword (.ok ())) →
        c.Returned j (.resetPassword input) (.resetPassword (.ok ())) →
          Replaced c i → Replaced c j → i = j := by
  intro hlaw
  have hsame : 0 = 1 := hlaw deps store raced (reaches_finish racing) 0 1 input
    (by decide) (by decide) (by decide) (by decide)
  exact absurd hsame (by decide)

end Karar.Identity
