import Karar.Identity.CodeConduct
import Karar.Identity.ReferenceLibraries
import Mathlib.Data.Finset.Card

/-!
# The attempt cap of a verification code

`VerifyEmail` reads the active code, compares, and counts a mismatch in a later step. Guesses that
run at the same time are all compared before any of them is counted. `verifyEmail_capped` is what
holds of the runs in which a comparison leaves room for the mismatches that are still uncounted, and
an acceptance finds the code as its call read it; `guesses_race` is a run that does not.
-/

namespace Karar.Identity

open Foundation KeyedTable Machine SharedKernel

/-! ### Comparisons -/

/-- The stored code that a presented one is compared with. -/
def comparison : Performed IdentityOp IdentityOp.Answer → Option OneTimeCodeRecord
  | ⟨.verifications (.latestActive _ _), some active⟩ =>
    if active.attempts < active.maxAttempts then some active else none
  | _ => none

theorem mem_comparison {performed : Performed IdentityOp IdentityOp.Answer}
    {active : OneTimeCodeRecord} (hcompared : active ∈ comparison performed) :
    active.attempts < active.maxAttempts ∧ ∃ accountId now,
      performed = ⟨.verifications (.latestActive accountId now), some active⟩ := by
  unfold comparison at hcompared
  split at hcompared
  · split_ifs at hcompared with hcap
    · obtain rfl := Option.mem_some_iff.mp hcompared
      exact ⟨hcap, _, _, rfl⟩
    · cases hcompared
  · cases hcompared

/-- What a call presents, where it verifies an e-mail address. -/
def presented (c : IdentityConfiguration) (caller : ℕ) : Option VerifyEmailInput :=
  c.calls[caller]?.bind fun call ↦
    match call.request with
    | .verifyEmail input => some input
    | _ => none

/-- What a call presents depends on its request alone. -/
theorem presented_congr {c later : IdentityConfiguration} {caller : ℕ}
    (hrequest : later.calls[caller]?.map (·.request) = c.calls[caller]?.map (·.request)) :
    presented later caller = presented c caller := by
  unfold presented
  cases hlater : later.calls[caller]? with
  | none =>
    rw [hlater] at hrequest
    rw [Option.map_eq_none_iff.mp hrequest.symm]
  | some call =>
    rw [hlater] at hrequest
    obtain ⟨other, hother, heq⟩ := Option.map_eq_some_iff.mp hrequest.symm
    rw [hother, Option.bind_some, Option.bind_some, heq]

/-- A presented code was compared with a stored one and does not match it. -/
def IsMismatch (deps : IdentityDependencies) (c : IdentityConfiguration) (id : String)
    (occurrence : Occurrence IdentityOp IdentityOp.Answer) : Prop :=
  ∃ active ∈ comparison occurrence.performed, active.id = id ∧
    ∃ input ∈ presented c occurrence.caller,
      VerifyEmail.presentedDigest deps input.code ≠ active.codeHash

instance (deps : IdentityDependencies) (c : IdentityConfiguration) (id : String)
    (occurrence : Occurrence IdentityOp IdentityOp.Answer) :
    Decidable (IsMismatch deps c id occurrence) :=
  inferInstanceAs (Decidable (∃ active ∈ comparison occurrence.performed, _))

/-- The calls whose code was compared with a stored one and does not match it. -/
def mismatching (deps : IdentityDependencies) (c : IdentityConfiguration) (id : String) :
    Finset ℕ :=
  ((c.history.filter fun occurrence ↦ IsMismatch deps c id occurrence).map (·.caller)).toFinset

/-- The calls that counted a failed attempt. -/
def counted (c : IdentityConfiguration) (id : String) : Finset ℕ :=
  ((c.history.filter fun occurrence ↦
    occurrence.performed.1 = .verifications (.recordFailedAttempt id)).map (·.caller)).toFinset

theorem mem_mismatching {deps : IdentityDependencies} {c : IdentityConfiguration} {id : String}
    {caller : ℕ} : caller ∈ mismatching deps c id ↔
      ∃ occurrence ∈ c.history, IsMismatch deps c id occurrence ∧ occurrence.caller = caller := by
  simp [mismatching, and_assoc]

theorem mem_counted {c : IdentityConfiguration} {id : String} {caller : ℕ} :
    caller ∈ counted c id ↔ ∃ occurrence ∈ c.history,
      occurrence.performed.1 = .verifications (.recordFailedAttempt id) ∧
        occurrence.caller = caller := by
  simp [counted, and_assoc]

/-! ### The property -/

/-- The failed attempts a code had at the start of a run. -/
def alreadyCounted (store : IdentityStore) (id : String) : ℕ :=
  ((store.verifications.find id).map (·.attempts)).getD 0

/-- No more mismatches are compared with a code than it had attempts left at the start. -/
def StaysCapped (deps : IdentityDependencies) (store : IdentityStore) (c : IdentityConfiguration) :
    Prop :=
  ∀ row ∈ c.store.verifications.rows,
    (mismatching deps c row.id).card ≤ row.maxAttempts - alreadyCounted store row.id

/-- The verification code that is consumed by what was performed. -/
def consumedCode : Performed IdentityOp IdentityOp.Answer → Option String
  | ⟨.verifications (.consume id _), _⟩ => some id
  | _ => none

/-- A code is accepted by one call. -/
def AcceptsOnce (c : IdentityConfiguration) : Prop :=
  ∀ first ∈ c.history, ∀ second ∈ c.history, ∀ id, consumedCode first.performed = some id →
    consumedCode second.performed = some id → first.caller = second.caller

/-- A call that succeeds read a verified account or accepted a code itself. -/
def SuccessesAccept (c : IdentityConfiguration) : Prop :=
  ∀ i input, c.Returned i (.verifyEmail input) (.verifyEmail (.ok ())) →
    (∃ email account, Answered (logOf i c.history) (.accounts (.findByEmail email)) (some account) ∧
      account.emailVerifiedAt.isSome = true) ∨
    ∃ id now, Answered (logOf i c.history) (.verifications (.consume id now)) ()

/-- What an event accepts was neither accepted, expired nor at its cap. -/
def AcceptsLive (c later : IdentityConfiguration) : Prop :=
  ∀ i id now answer,
    later.history = ⟨i, .verifications (.consume id now), answer⟩ :: c.history →
    ∃ row ∈ c.store.verifications.rows, row.id = id ∧ row.isDead c.store.clock = false

/-! ### The condition -/

/-- The stored codes a call has compared its own with. -/
def comparedCodes (c : IdentityConfiguration) (caller : ℕ) : List OneTimeCodeRecord :=
  (logOf caller c.history).filterMap comparison

theorem mem_comparedCodes {c : IdentityConfiguration} {caller : ℕ} {active : OneTimeCodeRecord}
    (hcompared : Compared (logOf caller c.history) active) : active ∈ comparedCodes c caller := by
  obtain ⟨accountId, now, hread, hcap⟩ := hcompared
  refine List.mem_filterMap.mpr ⟨_, hread, ?_⟩
  show (if active.attempts < active.maxAttempts then some active else none) = some active
  rw [if_pos hcap]

/-- A comparison that fails leaves room for the mismatches that are not counted yet; a code that a
call is about to accept is still as the call has read it, with attempts and time left. -/
def LeavesRoom (deps : IdentityDependencies) (c : IdentityConfiguration) (caller : ℕ) :
    IdentityRequest → IdentityOp → Prop
  | .verifyEmail input, .verifications (.latestActive accountId now) =>
    ∀ active ∈ CodeTable.latestActive c.store.verifications accountId now,
      VerifyEmail.presentedDigest deps input.code ≠ active.codeHash →
      active.attempts < active.maxAttempts →
      active.attempts + (mismatching deps c active.id \ counted c active.id).card <
        active.maxAttempts
  | .verifyEmail _, .verifications (.consume id _) =>
    ∀ active ∈ comparedCodes c caller, ∀ row ∈ c.store.verifications.rows, row.id = id →
      row.consumedAt = active.consumedAt ∧ row.attempts < row.maxAttempts ∧
        c.store.clock < row.expiresAt
  | _, _ => True

instance (deps : IdentityDependencies) (c : IdentityConfiguration) (caller : ℕ)
    (request : IdentityRequest) (op : IdentityOp) :
    Decidable (LeavesRoom deps c caller request op) := by
  unfold LeavesRoom
  split <;> infer_instance

/-! ### What the answers establish -/

/-- An active code was unconsumed and stays; a counted one is there; a consumed one stays so. -/
def VerificationFact : Performed IdentityOp IdentityOp.Answer → VerificationTable → Prop
  | ⟨.verifications (.latestActive _ _), found⟩, table => ∀ active, found = some active →
      active.consumedAt = none ∧ ∃ row ∈ table.rows, CodeSucceeds active row
  | ⟨.verifications (.recordFailedAttempt id), _⟩, table => ∃ row ∈ table.rows, row.id = id
  | ⟨.verifications (.consume id _), _⟩, table =>
    ∃ row ∈ table.rows, row.id = id ∧ row.consumedAt ≠ none
  | _, _ => True

theorem verificationFact_evolves {performed : Performed IdentityOp IdentityOp.Answer}
    {table later : VerificationTable} {fresh : OneTimeCodeRecord → Prop}
    (hevolves : Evolves CodeSucceeds fresh table later)
    (hfact : VerificationFact performed table) : VerificationFact performed later := by
  unfold VerificationFact at hfact ⊢
  split
  · intro active hactive
    obtain ⟨hunconsumed, row, hrow, hsucceeds⟩ := hfact active hactive
    obtain ⟨successor, hsuccessor, hnext⟩ := hevolves.kept row hrow
    exact ⟨hunconsumed, successor, hsuccessor, hsucceeds.trans hnext⟩
  · obtain ⟨row, hrow, hid⟩ := hfact
    obtain ⟨successor, hsuccessor, hnext⟩ := hevolves.kept row hrow
    exact ⟨successor, hsuccessor, hnext.id.trans hid⟩
  · obtain ⟨row, hrow, hid, hconsumed⟩ := hfact
    obtain ⟨successor, hsuccessor, hnext⟩ := hevolves.kept row hrow
    exact ⟨successor, hsuccessor, hnext.id.trans hid, hnext.consumed hconsumed⟩
  · trivial

theorem verificationFact_performed {table later : VerificationTable} {op : VerificationOp}
    {answer : op.Answer} (hperform : table.perform op = some (later, answer)) :
    VerificationFact ⟨.verifications op, answer⟩ later := by
  cases op with
  | latestActive accountId now =>
    obtain ⟨rfl, rfl⟩ := Prod.mk.inj (Option.some.inj hperform)
    intro active hactive
    obtain ⟨hrow, _, hunconsumed, _⟩ := CodeTable.latestActive_eq_some hactive
    exact ⟨hunconsumed, active, hrow, codeSucceeds_refl active⟩
  | recordFailedAttempt id =>
    obtain ⟨updated, hupdated, heq⟩ := Option.map_eq_some_iff.mp hperform
    obtain rfl := congrArg Prod.fst heq
    obtain ⟨row, hrow, hid⟩ := (CodeTable.updateCode_eq_some hupdated).1
    have hevolves : Evolves CodeSucceeds (fun _ ↦ False) table updated :=
      CodeTable.recordFailedAttempt_evolves hupdated
    obtain ⟨successor, hsuccessor, hnext⟩ := hevolves.kept row hrow
    exact ⟨successor, hsuccessor, hnext.id.trans hid⟩
  | consume id now =>
    obtain ⟨updated, hupdated, heq⟩ := Option.map_eq_some_iff.mp hperform
    obtain rfl := congrArg Prod.fst heq
    exact CodeTable.exists_of_consume hupdated
  | create record => trivial
  | latestCreatedAt accountId => trivial

theorem verificationFact_answered {deps : IdentityDependencies} {store later : IdentityStore}
    {oracle : String} {op : IdentityOp} {answer : op.Answer}
    (hanswer : store.handle deps op oracle = some (later, answer)) :
    VerificationFact ⟨op, answer⟩ later.verifications := by
  cases handled_of_handle hanswer with
  | verifications hperform => exact verificationFact_performed hperform
  | _ => trivial

section Runs

variable {deps : IdentityDependencies} {store : IdentityStore} {c later : IdentityConfiguration}
  {condition : IdentityConfiguration → IdentityEvent → Prop}

theorem verificationFact_history
    (hreaches : Reaches (identityMachine deps) condition (.initial store) c) :
    ∀ occurrence ∈ c.history, VerificationFact occurrence.performed c.store.verifications :=
  hreaches.history (fun performed store ↦ VerificationFact performed store.verifications)
    (fun _ _ _ _ _ hanswer ↦ verificationFact_answered hanswer)
    (fun _ _ _ _ _ _ hfact hanswer ↦
      verificationFact_evolves (handle_verifications_evolves hanswer) hfact)
    (fun _ _ _ hfact ↦ hfact)
    (fun _ h ↦ absurd h List.not_mem_nil)

/-- A code of the start is still there. -/
theorem exists_of_start (hreaches : Reaches (identityMachine deps) condition (.initial store) c) :
    ∀ old ∈ store.verifications.rows, ∃ row ∈ c.store.verifications.rows, CodeSucceeds old row := by
  refine hreaches.store (fun later ↦ ∀ old ∈ store.verifications.rows,
      ∃ row ∈ later.verifications.rows, CodeSucceeds old row)
    (fun before op oracle later answer hkept hanswer old hold ↦ ?_) (fun _ _ hkept ↦ hkept)
    fun old hold ↦ ⟨old, hold, codeSucceeds_refl old⟩
  obtain ⟨row, hrow, hsucceeds⟩ := hkept old hold
  obtain ⟨successor, hsuccessor, hnext⟩ := (handle_verifications_evolves hanswer).kept row hrow
  exact ⟨successor, hsuccessor, hsucceeds.trans hnext⟩

/-- What was not there at any time was never compared with nor counted against. -/
theorem nothing_of_absent (hreaches : Reaches (identityMachine deps) condition (.initial store) c)
    {id : String} (habsent : ∀ row ∈ c.store.verifications.rows, row.id ≠ id) :
    mismatching deps c id = ∅ ∧ counted c id = ∅ ∧ alreadyCounted store id = 0 := by
  refine ⟨?_, ?_, ?_⟩
  · rw [Finset.eq_empty_iff_forall_notMem]
    intro caller hcaller
    obtain ⟨occurrence, hoccurrence, ⟨active, hactive, hid, _⟩, _⟩ := mem_mismatching.mp hcaller
    obtain ⟨_, accountId, now, hperformed⟩ := mem_comparison hactive
    have hfact := verificationFact_history hreaches occurrence hoccurrence
    rw [hperformed] at hfact
    obtain ⟨_, row, hrow, hsucceeds⟩ := hfact active rfl
    exact habsent row hrow (hsucceeds.id.trans hid)
  · rw [Finset.eq_empty_iff_forall_notMem]
    intro caller hcaller
    obtain ⟨⟨_, op, answer⟩, hoccurrence, hop, _⟩ := mem_counted.mp hcaller
    obtain rfl : op = .verifications (.recordFailedAttempt id) := hop
    obtain ⟨row, hrow, hid⟩ := verificationFact_history hreaches _ hoccurrence
    exact habsent row hrow hid
  · unfold alreadyCounted
    have hnone : store.verifications.find id = none := by
      rw [find_eq_none_iff]
      intro old hold hid
      obtain ⟨row, hrow, hsucceeds⟩ := exists_of_start hreaches old hold
      exact habsent row hrow (hsucceeds.id.trans hid)
    rw [hnone]
    rfl

/-! ### One event -/

theorem isMismatch_of_step {event : IdentityEvent}
    (hstep : (identityMachine deps).step c event = some later) {id : String}
    {occurrence : Occurrence IdentityOp IdentityOp.Answer}
    (hlt : occurrence.caller < c.calls.length) (hmismatch : IsMismatch deps later id occurrence) :
    IsMismatch deps c id occurrence := by
  obtain ⟨active, hactive, hid, input, hinput, hne⟩ := hmismatch
  rw [presented_congr (request_step hstep hlt)] at hinput
  exact ⟨active, hactive, hid, input, hinput, hne⟩

/-- An event that performs nothing adds no mismatch. -/
theorem mismatching_subset_of_history_eq {event : IdentityEvent}
    (hstep : (identityMachine deps).step c event = some later)
    (hcallers : ∀ occurrence ∈ c.history, occurrence.caller < c.calls.length)
    (hhistory : later.history = c.history) (id : String) :
    mismatching deps later id ⊆ mismatching deps c id := by
  intro caller hcaller
  obtain ⟨occurrence, hoccurrence, hmismatch, rfl⟩ := mem_mismatching.mp hcaller
  rw [hhistory] at hoccurrence
  exact mem_mismatching.mpr ⟨occurrence, hoccurrence,
    isMismatch_of_step hstep (hcallers _ hoccurrence) hmismatch, rfl⟩

/-- What is performed adds at most its caller to the mismatches. -/
theorem mismatching_subset_of_performed {event : IdentityEvent}
    {newest : Occurrence IdentityOp IdentityOp.Answer}
    (hstep : (identityMachine deps).step c event = some later)
    (hcallers : ∀ occurrence ∈ c.history, occurrence.caller < c.calls.length)
    (hhistory : later.history = newest :: c.history) (id : String) :
    mismatching deps later id ⊆ mismatching deps c id ∨
      IsMismatch deps later id newest ∧
        mismatching deps later id ⊆ insert newest.caller (mismatching deps c id) := by
  have hsplit : ∀ caller ∈ mismatching deps later id, caller ∈ mismatching deps c id ∨
      IsMismatch deps later id newest ∧ caller = newest.caller := by
    intro caller hcaller
    obtain ⟨occurrence, hoccurrence, hmismatch, rfl⟩ := mem_mismatching.mp hcaller
    rw [hhistory] at hoccurrence
    rcases List.mem_cons.mp hoccurrence with rfl | hearlier
    · exact .inr ⟨hmismatch, rfl⟩
    · exact .inl (mem_mismatching.mpr ⟨occurrence, hearlier,
        isMismatch_of_step hstep (hcallers _ hearlier) hmismatch, rfl⟩)
  by_cases hnewest : IsMismatch deps later id newest
  · refine .inr ⟨hnewest, fun caller hcaller ↦ ?_⟩
    rcases hsplit caller hcaller with hold | ⟨_, rfl⟩
    · exact Finset.mem_insert_of_mem hold
    · exact Finset.mem_insert_self _ _
  · refine .inl fun caller hcaller ↦ ?_
    rcases hsplit caller hcaller with hold | ⟨hnew, _⟩
    · exact hold
    · exact absurd hnew hnewest

theorem counted_subset_of_performed {newest : Occurrence IdentityOp IdentityOp.Answer}
    (hhistory : later.history = newest :: c.history) (id : String) :
    counted later id ⊆ counted c id ∨
      newest.performed.1 = .verifications (.recordFailedAttempt id) ∧
        counted later id ⊆ insert newest.caller (counted c id) := by
  have hsplit : ∀ caller ∈ counted later id, caller ∈ counted c id ∨
      newest.performed.1 = .verifications (.recordFailedAttempt id) ∧ caller = newest.caller := by
    intro caller hcaller
    obtain ⟨occurrence, hoccurrence, hop, rfl⟩ := mem_counted.mp hcaller
    rw [hhistory] at hoccurrence
    rcases List.mem_cons.mp hoccurrence with rfl | hearlier
    · exact .inr ⟨hop, rfl⟩
    · exact .inl (mem_counted.mpr ⟨occurrence, hearlier, hop, rfl⟩)
  by_cases hnewest : newest.performed.1 = .verifications (.recordFailedAttempt id)
  · refine .inr ⟨hnewest, fun caller hcaller ↦ ?_⟩
    rcases hsplit caller hcaller with hold | ⟨_, rfl⟩
    · exact Finset.mem_insert_of_mem hold
    · exact Finset.mem_insert_self _ _
  · refine .inl fun caller hcaller ↦ ?_
    rcases hsplit caller hcaller with hold | ⟨hnew, _⟩
    · exact hold
    · exact absurd hnew hnewest

/-! ### The invariant -/

/-- What was counted shows in the attempts, and the mismatches stay within the cap. -/
structure WithinCap (deps : IdentityDependencies) (store : IdentityStore)
    (c : IdentityConfiguration) : Prop where
  shown : ∀ row ∈ c.store.verifications.rows,
    alreadyCounted store row.id + (counted c row.id).card ≤ row.attempts
  capped : StaysCapped deps store c

theorem withinCap_initial : WithinCap deps store (.initial store) := by
  constructor
  · intro row hrow
    have hfind : store.verifications.find row.id = some row := find_eq_some_iff.mpr ⟨hrow, rfl⟩
    show alreadyCounted store row.id + (∅ : Finset ℕ).card ≤ row.attempts
    unfold alreadyCounted
    rw [hfind]
    exact Nat.le_refl _
  · intro row hrow
    show (∅ : Finset ℕ).card ≤ _
    exact Nat.zero_le _

/-- An event that compares and counts nothing keeps the invariant. -/
theorem withinCap_of_quiet (hwithin : WithinCap deps store c) {fresh : OneTimeCodeRecord → Prop}
    (hevolves : Evolves CodeSucceeds fresh c.store.verifications later.store.verifications)
    (hcounted : ∀ id, counted later id ⊆ counted c id)
    (hmismatching : ∀ id, mismatching deps later id ⊆ mismatching deps c id)
    (habsent : ∀ id, (∀ row ∈ c.store.verifications.rows, row.id ≠ id) →
      mismatching deps c id = ∅ ∧ counted c id = ∅ ∧ alreadyCounted store id = 0) :
    WithinCap deps store later := by
  have hcountedCard := fun id ↦ Finset.card_le_card (hcounted id)
  have hmismatchingCard := fun id ↦ Finset.card_le_card (hmismatching id)
  constructor
  · intro row hrow
    rcases hevolves.origin row hrow with ⟨old, hold, hsucceeds⟩ | ⟨_, hnew⟩
    · have hshown := hwithin.shown old hold
      have hattempts := hsucceeds.attempts
      have hcard := hcountedCard row.id
      rw [hsucceeds.id] at hcard ⊢
      omega
    · have hcard := hcountedCard row.id
      obtain ⟨_, hempty, hzero⟩ := habsent row.id hnew
      rw [hempty, Finset.card_empty] at hcard
      omega
  · intro row hrow
    rcases hevolves.origin row hrow with ⟨old, hold, hsucceeds⟩ | ⟨_, hnew⟩
    · have hcapped := hwithin.capped old hold
      have hcard := hmismatchingCard row.id
      rw [hsucceeds.id] at hcard ⊢
      rw [hsucceeds.maxAttempts]
      omega
    · have hcard := hmismatchingCard row.id
      rw [(habsent row.id hnew).1, Finset.card_empty] at hcard
      omega

/-- A counted mismatch is one more attempt. -/
theorem withinCap_of_count (hwithin : WithinCap deps store c) {id : String} {caller : ℕ}
    (hrecord : CodeTable.recordFailedAttempt c.store.verifications id =
      some later.store.verifications)
    (hcounted : ∀ other, other ≠ id → counted later other ⊆ counted c other)
    (hcountedHere : counted later id ⊆ insert caller (counted c id))
    (hmismatching : ∀ id, mismatching deps later id ⊆ mismatching deps c id) :
    WithinCap deps store later := by
  constructor
  · intro row hrow
    obtain ⟨old, hold, rfl⟩ := CodeTable.recordFailedAttempt_eq_some hrecord row hrow
    have hshown := hwithin.shown old hold
    by_cases hid : old.id = id
    · rw [if_pos hid]
      have hcard := Finset.card_le_card hcountedHere
      have hinsert := Finset.card_insert_le caller (counted c id)
      show alreadyCounted store old.id + (counted later old.id).card ≤ old.attempts + 1
      rw [hid] at hshown ⊢
      omega
    · rw [if_neg hid]
      have hcard := Finset.card_le_card (hcounted old.id hid)
      omega
  · intro row hrow
    obtain ⟨old, hold, rfl⟩ := CodeTable.recordFailedAttempt_eq_some hrecord row hrow
    have hcapped := hwithin.capped old hold
    have hcard := Finset.card_le_card (hmismatching old.id)
    by_cases hid : old.id = id
    · rw [if_pos hid]
      show (mismatching deps later old.id).card ≤ old.maxAttempts - alreadyCounted store old.id
      omega
    · rw [if_neg hid]
      omega

/-- A comparison that leaves room for what is not counted yet keeps the cap. -/
theorem withinCap_of_compare (hwithin : WithinCap deps store c)
    {active : OneTimeCodeRecord} {caller : ℕ} (hactive : active ∈ c.store.verifications.rows)
    (hstore : later.store.verifications = c.store.verifications)
    (hroom : active.attempts + (mismatching deps c active.id \ counted c active.id).card <
      active.maxAttempts)
    (hcounted : ∀ id, counted later id ⊆ counted c id)
    (hmismatching : ∀ id, id ≠ active.id → mismatching deps later id ⊆ mismatching deps c id)
    (hmismatchingHere : mismatching deps later active.id ⊆
      insert caller (mismatching deps c active.id)) : WithinCap deps store later := by
  constructor
  · intro row hrow
    rw [hstore] at hrow
    have hshown := hwithin.shown row hrow
    have hcard := Finset.card_le_card (hcounted row.id)
    omega
  · intro row hrow
    rw [hstore] at hrow
    by_cases hid : row.id = active.id
    · obtain rfl : row = active := eq_of_key hrow hactive hid
      have hshown := hwithin.shown row hrow
      have hcard := Finset.card_le_card hmismatchingHere
      have hinsert := Finset.card_insert_le caller (mismatching deps c row.id)
      have hsplit := Finset.card_le_card_sdiff_add_card (s := mismatching deps c row.id)
        (t := counted c row.id)
      omega
    · have hcapped := hwithin.capped row hrow
      have hcard := Finset.card_le_card (hmismatching row.id hid)
      omega

/-- What is performed within the condition keeps the invariant. -/
theorem withinCap_performed (hreaches : Reaches (identityMachine deps) condition (.initial store) c)
    (hwithin : WithinCap deps store c) {event : IdentityEvent} {caller : ℕ}
    {request : IdentityRequest} {op : IdentityOp} {answer : op.Answer} {oracle : String}
    (hasked : c.Asked caller request) (hroom : LeavesRoom deps c caller request op)
    (hstep : (identityMachine deps).step c event = some later)
    (hanswer : c.store.handle deps op oracle = some (later.store, answer))
    (hhistory : later.history = ⟨caller, op, answer⟩ :: c.history) :
    WithinCap deps store later := by
  have hcallers := hreaches.caller_lt fun _ h ↦ absurd h List.not_mem_nil
  have hcounted := counted_subset_of_performed hhistory
  have hmismatching := mismatching_subset_of_performed hstep hcallers hhistory
  by_cases hrecord : ∃ id, op = .verifications (.recordFailedAttempt id)
  · obtain ⟨id, rfl⟩ := hrecord
    obtain ⟨verifications, hperform, heq⟩ := handle_verifications hanswer
    obtain ⟨updated, hupdated, hpair⟩ := Option.map_eq_some_iff.mp hperform
    obtain rfl : updated = verifications := congrArg Prod.fst hpair
    have hhere : counted later id ⊆ insert caller (counted c id) :=
      (hcounted id).elim (fun h ↦ h.trans (Finset.subset_insert _ _)) And.right
    refine withinCap_of_count hwithin (heq ▸ hupdated) (fun other hne ↦ ?_) hhere fun other ↦ ?_
    · refine (hcounted other).resolve_right fun h ↦ hne ?_
      injection h.1 with hop
      injection hop with hid
      exact hid.symm
    · refine (hmismatching other).resolve_right fun h ↦ ?_
      obtain ⟨active, hactive, _⟩ := h.1
      cases hactive
  have huncounted : ∀ id, counted later id ⊆ counted c id := fun id ↦
    (hcounted id).resolve_right fun h ↦ hrecord ⟨id, h.1⟩
  by_cases hcompare : ∃ id, IsMismatch deps later id ⟨caller, op, answer⟩
  · obtain ⟨id, active, hactive, rfl, input, hinput, hne⟩ := hcompare
    obtain ⟨hcap, accountId, now, hperformed⟩ := mem_comparison hactive
    obtain ⟨rfl, hanswered⟩ := Sigma.mk.inj hperformed
    obtain rfl := eq_of_heq hanswered
    obtain ⟨verifications, hperform, heq⟩ := handle_verifications hanswer
    obtain ⟨rfl, hread⟩ := Prod.mk.inj (Option.some.inj hperform)
    -- The caller presents the code of its own request.
    have hserved : later.Asked caller request := asked_step hstep hasked
    have hrequest : request = .verifyEmail input := by
      obtain ⟨call, hcall, hcalled⟩ := Option.bind_eq_some_iff.mp hinput
      split at hcalled
      · rename_i other hother
        obtain rfl := Option.some.inj hcalled
        exact hserved.unique (asked_of_call hcall) |>.trans hother
      · cases hcalled
    subst hrequest
    have hhere : mismatching deps later active.id ⊆
        insert caller (mismatching deps c active.id) :=
      (hmismatching active.id).elim (fun h ↦ h.trans (Finset.subset_insert _ _)) And.right
    refine withinCap_of_compare hwithin (CodeTable.latestActive_eq_some hread).1 (by rw [heq])
      (hroom active hread hne hcap) huncounted (fun id hid ↦ ?_) hhere
    refine (hmismatching id).resolve_right fun h ↦ ?_
    obtain ⟨other, hother, hotherId, _⟩ := h.1
    obtain rfl : active = other := Option.mem_unique hactive hother
    exact hid hotherId.symm
  · exact withinCap_of_quiet hwithin (handle_verifications_evolves hanswer) huncounted
      (fun id ↦ (hmismatching id).resolve_right fun h ↦ hcompare ⟨id, h.1⟩)
      fun _ ↦ nothing_of_absent hreaches

theorem withinCap_step (hreaches : Reaches (identityMachine deps) condition (.initial store) c)
    (hwithin : WithinCap deps store c) {event : IdentityEvent}
    (hmeets : Meets (LeavesRoom deps) c event)
    (hstep : (identityMachine deps).step c event = some later) : WithinCap deps store later := by
  have hcallers := hreaches.caller_lt fun _ h ↦ absurd h List.not_mem_nil
  have hquiet : later.store.verifications = c.store.verifications → later.history = c.history →
      WithinCap deps store later := by
    intro hstore hhistory
    have hevolves : Evolves CodeSucceeds (fun _ ↦ False) c.store.verifications
        later.store.verifications := hstore ▸ evolves_refl codeSucceeds_refl
    refine withinCap_of_quiet hwithin hevolves (fun id ↦ ?_)
      (mismatching_subset_of_history_eq hstep hcallers hhistory) fun _ ↦ nothing_of_absent hreaches
    unfold counted
    rw [hhistory]
  cases hsteps : steps_of_step_eq_some hstep with
  | start request => exact hquiet rfl rfl
  | end_ hcall => exact hquiet rfl rfl
  | turn tick => exact hquiet rfl rfl
  | perform hcall hanswer =>
    exact withinCap_performed hreaches hwithin (asked_of_call hcall) (hmeets.performed hcall) hstep
      hanswer rfl

end Runs

/-! ### The law -/

section Law

variable {deps : IdentityDependencies} {store : IdentityStore} {c : IdentityConfiguration}

/-- An acceptance that finds its code as read finds it unaccepted. -/
theorem isDead_eq_false_of_leavesRoom {condition : IdentityConfiguration → IdentityEvent → Prop}
    (hreaches : Reaches (identityMachine deps) condition (.initial store) c)
    {caller : ℕ} {input : VerifyEmailInput} {id : String} {now : Instant}
    {row : OneTimeCodeRecord}
    (hroom : LeavesRoom deps c caller (.verifyEmail input) (.verifications (.consume id now)))
    (hallowed : MayConsumeCode deps (logOf caller c.history) id (.verifyEmail input))
    (hrow : row ∈ c.store.verifications.rows) (hid : row.id = id) :
    row.consumedAt = none ∧ row.isDead c.store.clock = false := by
  obtain ⟨active, hcompared, _, _⟩ := hallowed
  obtain ⟨hconsumed, hattempts, hexpiry⟩ :=
    hroom active (mem_comparedCodes hcompared) row hrow hid
  obtain ⟨accountId, readAt, hread, _⟩ := hcompared
  have hunconsumed : active.consumedAt = none :=
    (verificationFact_history hreaches _ (mem_logOf.mp hread) active rfl).1
  rw [hunconsumed] at hconsumed
  refine ⟨hconsumed, ?_⟩
  simp only [OneTimeCodeRecord.isDead, hconsumed, Option.isSome_none, Bool.false_or,
    Bool.or_eq_false_iff, decide_eq_false_iff_not, Int.not_le, Nat.not_le]
  exact ⟨hexpiry, hattempts⟩

theorem accepted_by_one
    (hreaches : Reaches (identityMachine deps) (Meets (LeavesRoom deps)) (.initial store) c) :
    AcceptsOnce c := by
  refine hreaches.claimed_by_one consumedCode ?_ rfl
  intro c caller oracle request op next later answer id hreaches hmeets hcall hanswer hclaim
    earlier hearlier holder
  have hallowed := (hreaches.bound code_honours (fun _ ↦ trivial)).allowed (Nat.zero_le _) hcall
  have hroom := hmeets.performed hcall
  -- The earlier acceptance left the code consumed, so this one does not find it as read.
  have hfact := verificationFact_history hreaches earlier hearlier
  unfold consumedCode at hclaim holder
  split at holder
  · rename_i other now given hperformed
    obtain rfl := Option.some.inj holder
    rw [hperformed] at hfact
    obtain ⟨row, hrow, hid, hconsumed⟩ := hfact
    split at hclaim
    · rename_i heq
      obtain ⟨rfl, _⟩ := Sigma.mk.inj heq
      obtain rfl := Option.some.inj hclaim
      cases request with
      | verifyEmail input =>
        exact hconsumed (isDead_eq_false_of_leavesRoom hreaches hroom hallowed hrow hid).1
      | _ => exact hallowed.elim
    · cases hclaim
  · cases holder

/-- In a run whose comparisons leave room and whose acceptances find the code as read, no more
mismatches are compared with a code than it has attempts, one call accepts it, and none does after
its expiry or its cap. -/
theorem verifyEmail_capped
    (hreaches : Reaches (identityMachine deps) (Meets (LeavesRoom deps)) (.initial store) c) :
    StaysCapped deps store c ∧ AcceptsOnce c ∧ SuccessesAccept c ∧
      ∀ event later, Meets (LeavesRoom deps) c event →
        (identityMachine deps).step c event = some later → AcceptsLive c later := by
  refine ⟨?_, accepted_by_one hreaches, ?_, ?_⟩
  · have hwithin : WithinCap deps store c := by
      induction hreaches with
      | refl => exact withinCap_initial
      | step hreaches hmeets hstep ih => exact withinCap_step hreaches ih hmeets hstep
    exact hwithin.capped
  · intro i input hreturned
    exact (hreaches.bound code_honours (fun _ ↦ trivial)).post (Nat.zero_le _) hreturned
  · intro event later hmeets hstep i id now answer hhistory
    obtain ⟨oracle, request, next, rfl, hcall, hanswer⟩ :=
      performed_of_history_eq_cons hstep hhistory
    have hallowed := (hreaches.bound code_honours (fun _ ↦ trivial)).allowed (Nat.zero_le _) hcall
    have hroom := hmeets.performed hcall
    have hhandle : c.store.handle deps (.verifications (.consume id now)) oracle =
        some (later.store, answer) := hanswer
    obtain ⟨verifications, hperform, _⟩ := handle_verifications hhandle
    obtain ⟨consumed, hconsumed, _⟩ := Option.map_eq_some_iff.mp hperform
    obtain ⟨row, hrow, hid⟩ := CodeTable.exists_of_consume_before hconsumed
    cases request with
    | verifyEmail input =>
      exact ⟨row, hrow, hid,
        (isDead_eq_false_of_leavesRoom hreaches hroom hallowed hrow hid).2⟩
    | _ => exact hallowed.elim

end Law

/-! ### Guesses one after another, and at a time -/

namespace AttemptCap

open ReferenceLibraries

def deps : IdentityDependencies := dependencies defaultIdentityPolicy

def code : OneTimeCodeRecord where
  id := "code"
  accountId := owner
  codeHash := deps.verificationCodeDigest "ABC123"
  expiresAt := 1000
  attempts := 0
  maxAttempts := 5
  consumedAt := none
  createdAt := 0

def store : IdentityStore :=
  { ownerStore with
    accounts := ⟨single { ownerAccount with emailVerifiedAt := none }, single ownerCredential⟩
    verifications := single code }

def presenting (code : String) : IdentityRequest :=
  .verifyEmail ⟨"owner@example.com", code, client⟩

/-- A wrong code to its end, then the right one up to its acceptance. -/
def guessing : List IdentityEvent :=
  [.start (presenting "XYZ999")] ++ List.replicate 6 (.advance 0 "") ++
    [.start (presenting "ABC123")] ++ List.replicate 3 (.advance 1 "")

def guessed : IdentityConfiguration :=
  (identityMachine deps).finish (Meets (LeavesRoom deps)) (.initial store) guessing

/-- Six wrong codes, all compared before any of them is counted. -/
def racing : List IdentityEvent :=
  List.replicate 6 (.start (presenting "XYZ999")) ++
    (List.range 6).flatMap fun caller ↦ List.replicate 3 (.advance caller "")

def raced : IdentityConfiguration :=
  (identityMachine deps).finish (fun _ _ ↦ True) (.initial store) racing

end AttemptCap

open AttemptCap in
theorem verifyEmail_capped_guessed : ∃ later, StaysCapped deps store guessed ∧
    (mismatching deps guessed "code").card = 1 ∧ AcceptsLive guessed later ∧
    (identityMachine deps).step guessed (.advance 1 "") = some later := by
  obtain ⟨later, hstep⟩ : ∃ later, (identityMachine deps).step guessed (.advance 1 "") = some later :=
    Option.isSome_iff_exists.mp (by decide)
  have hreaches : Reaches (identityMachine deps) (Meets (LeavesRoom deps)) (.initial store) guessed :=
    reaches_finish guessing
  obtain ⟨hcapped, _, _, hlive⟩ := verifyEmail_capped hreaches
  exact ⟨later, hcapped, by decide, hlive (.advance 1 "") later (by decide) hstep,
    hstep⟩

open AttemptCap in
theorem guesses_race : ¬ ∀ deps store c,
    Reaches (identityMachine deps) (fun _ _ ↦ True) (.initial store) c →
      ∀ row ∈ c.store.verifications.rows, (mismatching deps c row.id).card ≤ row.maxAttempts := by
  intro hlaw
  have hcapped := hlaw deps store raced (reaches_finish racing)
  have hexceeds : ∃ row ∈ raced.store.verifications.rows,
      row.maxAttempts < (mismatching deps raced row.id).card := by decide
  obtain ⟨row, hrow, hlt⟩ := hexceeds
  exact absurd (hcapped row hrow) (Nat.not_le.mpr hlt)

end Karar.Identity
