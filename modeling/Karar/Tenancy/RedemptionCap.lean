import Karar.Foundation.SlidingLock
import Karar.Tenancy.Redemption

/-!
# The attempt cap of an invitation

`RedeemInvitation` judges the redeemer's address on the row it read, counts a mismatch in a later and
unconditional update, and redeems in an update that does not look at the attempts. Presentations that
run at the same time are all judged before any of them is counted, and a redemption can commit on an
invitation that has died since its call read it. `redeemInvitation_capped` is what holds of the runs
in which a judgement leaves room for the mismatches that are still uncounted, and a redemption for
those counted since its call read the invitation; `presentations_race` is a run that does not.
-/

namespace Karar.Tenancy

open Foundation KeyedTable Machine SharedKernel

/-! ### Judgements -/

/-- The invitation whose address the first operations of a call, earliest first, have judged a
mismatch. -/
def judgedMismatch (libraries : TenancyLibraries) : TenancyLog → Option TenantInvitation
  | ⟨.findByTokenHash _, .ok (some invitation)⟩ :: ⟨.now, .ok now⟩ ::
      ⟨.verifiedEmailOf _, .ok email⟩ :: _ =>
    if evaluateRedeemability libraries invitation now email = .error .emailMismatch then
      some invitation
    else none
  | _ => none

/-- The invitation whose address a call has judged a mismatch. -/
def mismatch (libraries : TenancyLibraries) (log : TenancyLog) : Option TenantInvitation :=
  judgedMismatch libraries log.reverse

/-- What a call has read that is about to judge an address. -/
def aboutToJudge : TenancyLog → Option (TenantInvitation × Instant)
  | [⟨.now, .ok now⟩, ⟨.findByTokenHash _, .ok (some invitation)⟩] => some (invitation, now)
  | _ => none

/-- A failed attempt was counted. -/
def isCount : TenancyPerformed → Bool
  | ⟨.recordFailedAttempt _ _, .ok _⟩ => true
  | _ => false

/-- The calls whose address was judged and does not match the invitation's. -/
def mismatching (libraries : TenancyLibraries) (c : TenancyConfiguration) (id : String) : Finset ℕ :=
  (c.history.map (·.caller)).toFinset.filter fun caller ↦
    ∃ invitation ∈ mismatch libraries (logOf caller c.history), invitation.id = id

/-- Those of them that counted a failed attempt. -/
def counted (libraries : TenancyLibraries) (c : TenancyConfiguration) (id : String) : Finset ℕ :=
  (mismatching libraries c id).filter fun caller ↦ (logOf caller c.history).any isCount

section Judgements

variable {libraries : TenancyLibraries} {c later : TenancyConfiguration} {id : String} {caller : ℕ}

theorem mem_mismatching : caller ∈ mismatching libraries c id ↔
    ∃ invitation ∈ mismatch libraries (logOf caller c.history), invitation.id = id := by
  unfold mismatching
  rw [Finset.mem_filter, and_iff_right_iff_imp]
  rintro ⟨invitation, hmismatch, _⟩
  rw [List.mem_toFinset, List.mem_map]
  by_contra habsent
  have hempty : logOf caller c.history = [] := by
    rw [List.eq_nil_iff_forall_not_mem]
    intro performed hperformed
    exact habsent ⟨_, mem_logOf.mp hperformed, rfl⟩
  rw [hempty] at hmismatch
  cases hmismatch

theorem mem_counted : caller ∈ counted libraries c id ↔
    caller ∈ mismatching libraries c id ∧ ∃ performed ∈ logOf caller c.history,
      isCount performed = true := by
  simp [counted]

theorem judgedMismatch_eq_some {log : TenancyLog} {invitation : TenantInvitation} :
    judgedMismatch libraries log = some invitation ↔ ∃ tokenHash now userId email rest,
      log = ⟨.findByTokenHash tokenHash, .ok (some invitation)⟩ :: ⟨.now, .ok now⟩ ::
        ⟨.verifiedEmailOf userId, .ok email⟩ :: rest ∧
      evaluateRedeemability libraries invitation now email = .error .emailMismatch := by
  constructor
  · intro hjudged
    unfold judgedMismatch at hjudged
    split at hjudged
    · split_ifs at hjudged with hgate
      obtain rfl := Option.some.inj hjudged
      exact ⟨_, _, _, _, _, rfl, hgate⟩
    · cases hjudged
  · rintro ⟨tokenHash, now, userId, email, rest, rfl, hgate⟩
    simp only [judgedMismatch, if_pos hgate]

theorem aboutToJudge_eq_some {log : TenancyLog} {invitation : TenantInvitation} {now : Instant} :
    aboutToJudge log = some (invitation, now) ↔ ∃ tokenHash,
      log = [⟨.now, .ok now⟩, ⟨.findByTokenHash tokenHash, .ok (some invitation)⟩] := by
  constructor
  · intro habout
    unfold aboutToJudge at habout
    split at habout
    · obtain ⟨rfl, rfl⟩ := Prod.mk.inj (Option.some.inj habout)
      exact ⟨_, rfl⟩
    · cases habout
  · rintro ⟨tokenHash, rfl⟩
    rfl

/-- The next operation of a call judges a mismatch with an invitation. -/
def JudgesMismatch (libraries : TenancyLibraries) (log : TenancyLog)
    (performed : TenancyPerformed)
    (invitation : TenantInvitation) : Prop :=
  ∃ now userId email, performed = ⟨.verifiedEmailOf userId, .ok email⟩ ∧
    aboutToJudge log = some (invitation, now) ∧
    evaluateRedeemability libraries invitation now email = .error .emailMismatch

/-- A judgement stands, and is made by the third operation of a call. -/
theorem mismatch_cons {log : TenancyLog}
    {performed : TenancyPerformed}
    {invitation : TenantInvitation} :
    mismatch libraries (performed :: log) = some invitation ↔
      mismatch libraries log = some invitation ∨
        JudgesMismatch libraries log performed invitation := by
  unfold mismatch JudgesMismatch
  rw [List.reverse_cons, judgedMismatch_eq_some, judgedMismatch_eq_some]
  constructor
  · rintro ⟨tokenHash, now, userId, email, rest, hlog, hgate⟩
    rcases List.eq_nil_or_concat rest with rfl | ⟨early, last, rfl⟩
    · refine .inr ⟨now, userId, email, ?_⟩
      have hsplit : log.reverse ++ [performed] =
          [⟨.findByTokenHash tokenHash, .ok (some invitation)⟩, ⟨.now, .ok now⟩] ++
            [⟨.verifiedEmailOf userId, .ok email⟩] := hlog
      obtain ⟨hreverse, hlast⟩ := List.append_inj' hsplit rfl
      refine ⟨List.singleton_inj.mp hlast, aboutToJudge_eq_some.mpr ⟨tokenHash, ?_⟩, hgate⟩
      rw [← List.reverse_reverse log, hreverse]
      rfl
    · refine .inl ⟨tokenHash, now, userId, email, early, ?_, hgate⟩
      have hsplit : log.reverse ++ [performed] =
          (⟨.findByTokenHash tokenHash, .ok (some invitation)⟩ :: ⟨.now, .ok now⟩ ::
            ⟨.verifiedEmailOf userId, .ok email⟩ :: early) ++ [last] := by
        rw [hlog, List.concat_eq_append]
        rfl
      exact (List.append_inj' hsplit rfl).1
  · rintro (⟨tokenHash, now, userId, email, rest, hlog, hgate⟩ |
      ⟨now, userId, email, rfl, habout, hgate⟩)
    · exact ⟨tokenHash, now, userId, email, rest ++ [performed], by rw [hlog]; rfl, hgate⟩
    · obtain ⟨tokenHash, rfl⟩ := aboutToJudge_eq_some.mp habout
      exact ⟨tokenHash, now, userId, email, [], rfl, hgate⟩

end Judgements

/-! ### The property -/

/-- The failed attempts an invitation had at the start of a run. -/
def alreadyCounted (store : TenancyStore) (id : String) : ℕ :=
  ((store.invitations.find id).map (·.attempts)).getD 0

/-- No more mismatching presentations are judged than the invitation had attempts left at the
start. -/
def StaysCapped (libraries : TenancyLibraries) (store : TenancyStore) (c : TenancyConfiguration) :
    Prop :=
  ∀ row ∈ c.store.invitations.rows,
    (mismatching libraries c row.id).card ≤ row.maxAttempts - alreadyCounted store row.id

/-- What an event redeems has attempts left at that moment. -/
def RedeemsBelowCap (c later : TenancyConfiguration) : Prop :=
  ∀ caller performed done, later.history = ⟨caller, performed⟩ :: c.history →
    redemption performed = some done →
      ∃ row ∈ c.store.invitations.rows, row.id = done.invitation.id ∧
        row.attempts < row.maxAttempts

/-! ### The condition -/

/-- A failed attempt was counted against a token. -/
def isCountOf (tokenHash : String) : TenancyPerformed → Bool
  | ⟨.recordFailedAttempt counted _, .ok _⟩ => counted = tokenHash
  | _ => false

/-- A call read an invitation. -/
def isReading : TenancyPerformed → Bool
  | ⟨.findByTokenHash _, _⟩ => true
  | _ => false

/-- How many failed attempts were counted against a token since a call read its invitation. -/
def countedSince (c : TenancyConfiguration) (caller : ℕ) (tokenHash : String) : ℕ :=
  (c.history.takeWhile fun occurrence ↦
      !(occurrence.caller == caller && isReading occurrence.performed)).countP
    fun occurrence ↦ isCountOf tokenHash occurrence.performed

/-- A mismatch is judged where there is room for it and for the mismatches that are not counted yet;
a redemption goes on where fewer attempts were counted since its call read the invitation than the
invitation had left. -/
def LeavesRoom (libraries : TenancyLibraries) (c : TenancyConfiguration) (caller : ℕ) :
    TenancyRequest → TenancyOp → Prop
  | .redeemInvitation token _, .commitRedemption invitation _ _ =>
    invitation.attempts + countedSince c caller (libraries.hashOf token) < invitation.maxAttempts
  | _, .verifiedEmailOf userId =>
    ∀ read ∈ aboutToJudge (logOf caller c.history),
      evaluateRedeemability libraries read.1 read.2 (c.store.verifiedEmailOf userId) =
        .error .emailMismatch →
      ∀ row ∈ c.store.invitations.rows, row.id = read.1.id →
        row.attempts +
          (mismatching libraries c row.id \ counted libraries c row.id).card < row.maxAttempts
  | _, _ => True

instance (libraries : TenancyLibraries) (c : TenancyConfiguration) (caller : ℕ)
    (request : TenancyRequest) (op : TenancyOp) :
    Decidable (LeavesRoom libraries c caller request op) := by
  unfold LeavesRoom
  split <;> infer_instance

/-! ### One event -/

section Step

variable {libraries : TenancyLibraries} {store : TenancyStore} {c later : TenancyConfiguration}
  {caller : ℕ} {performed : TenancyPerformed}

theorem mismatching_congr (hhistory : later.history = c.history) (id : String) :
    mismatching libraries later id = mismatching libraries c id := by
  unfold mismatching
  rw [hhistory]

theorem counted_congr (hhistory : later.history = c.history) (id : String) :
    counted libraries later id = counted libraries c id := by
  unfold counted
  rw [mismatching_congr hhistory, hhistory]

theorem mem_mismatching_of_performed (hhistory : later.history = ⟨caller, performed⟩ :: c.history)
    {other : ℕ} {id : String} : other ∈ mismatching libraries later id ↔
      other ∈ mismatching libraries c id ∨ other = caller ∧
        ∃ invitation, invitation.id = id ∧
          JudgesMismatch libraries (logOf caller c.history) performed invitation := by
  rw [mem_mismatching, mem_mismatching, hhistory]
  by_cases hcaller : caller = other
  · subst hcaller
    rw [logOf_cons_self]
    simp only [Option.mem_def, mismatch_cons, true_and]
    constructor
    · rintro ⟨invitation, hmismatch | hjudges, hid⟩
      · exact .inl ⟨invitation, hmismatch, hid⟩
      · exact .inr ⟨invitation, hid, hjudges⟩
    · rintro (⟨invitation, hmismatch, hid⟩ | ⟨invitation, hid, hjudges⟩)
      · exact ⟨invitation, .inl hmismatch, hid⟩
      · exact ⟨invitation, .inr hjudges, hid⟩
  · rw [logOf_cons_of_ne hcaller]
    exact ⟨.inl, fun h ↦ h.resolve_right fun hnew ↦ hcaller hnew.1.symm⟩

/-- What is counted was judged before. -/
theorem mem_counted_of_performed (hhistory : later.history = ⟨caller, performed⟩ :: c.history)
    {other : ℕ} {id : String} (hcounted : other ∈ counted libraries later id) :
    other ∈ counted libraries c id ∨
      other = caller ∧ isCount performed = true ∧ caller ∈ mismatching libraries c id := by
  obtain ⟨hmismatching, found, hfound, hcount⟩ := mem_counted.mp hcounted
  rw [hhistory] at hfound
  rcases (mem_mismatching_of_performed hhistory).mp hmismatching with
    hold | ⟨rfl, invitation, _, now, userId, email, rfl, habout, _⟩
  · by_cases hcaller : caller = other
    · subst hcaller
      rw [logOf_cons_self] at hfound
      rcases List.mem_cons.mp hfound with rfl | hearlier
      · exact .inr ⟨rfl, hcount, hold⟩
      · exact .inl (mem_counted.mpr ⟨hold, found, hearlier, hcount⟩)
    · rw [logOf_cons_of_ne hcaller] at hfound
      exact .inl (mem_counted.mpr ⟨hold, found, hfound, hcount⟩)
  · -- A call that judges has performed three readings.
    obtain ⟨tokenHash, hlog⟩ := aboutToJudge_eq_some.mp habout
    rw [logOf_cons_self, hlog] at hfound
    simp only [List.mem_cons, List.not_mem_nil, or_false] at hfound
    rcases hfound with rfl | rfl | rfl <;> cases hcount

end Step

/-! ### The invariant -/

/-- Every invitation's attempts tally with what was judged and counted since the start. -/
def WithinCap (libraries : TenancyLibraries) (store : TenancyStore) (c : TenancyConfiguration) :
    Prop :=
  ∀ row ∈ c.store.invitations.rows,
    Tally (alreadyCounted store row.id) row.attempts row.maxAttempts
      (mismatching libraries c row.id) (counted libraries c row.id)

section Invariant

variable {libraries : TenancyLibraries} {store : TenancyStore} {c later : TenancyConfiguration}

theorem withinCap_initial : WithinCap libraries store (.initial store) := by
  intro row hrow
  have hfind : store.invitations.find row.id = some row := find_eq_some_iff.mpr ⟨hrow, rfl⟩
  have hbase : alreadyCounted store row.id = row.attempts := by
    unfold alreadyCounted
    rw [hfind]
    rfl
  exact Tally.start hbase.le

/-- What was read of an invitation was read of a row that is still there. -/
theorem exists_of_mismatch (hreaches : Reachable libraries store c) {caller : ℕ}
    {invitation : TenantInvitation}
    (hmismatch : mismatch libraries (logOf caller c.history) = some invitation) :
    ∃ row ∈ c.store.invitations.rows, row.id = invitation.id := by
  obtain ⟨tokenHash, now, userId, email, rest, hlog, _⟩ := judgedMismatch_eq_some.mp hmismatch
  have hread : (⟨.findByTokenHash tokenHash, .ok (some invitation)⟩ : TenancyPerformed) ∈
      logOf caller c.history := by
    rw [← List.mem_reverse, hlog]
    exact List.mem_cons_self
  obtain ⟨_, old, rfl, _, row, hrow, hsucceeds⟩ :=
    isStillThere_history hreaches _ (mem_logOf.mp hread)
  exact ⟨row, hrow, hsucceeds.id⟩

/-- Nothing was judged, counted or there at the start of an invitation that is not there. -/
theorem nothing_of_absent (hreaches : Reachable libraries store c) {id : String}
    (habsent : ∀ row ∈ c.store.invitations.rows, row.id ≠ id) :
    mismatching libraries c id = ∅ ∧ counted libraries c id = ∅ ∧ alreadyCounted store id = 0 := by
  have hmismatching : mismatching libraries c id = ∅ := by
    rw [Finset.eq_empty_iff_forall_notMem]
    intro caller hcaller
    obtain ⟨invitation, hmismatch, hid⟩ := mem_mismatching.mp hcaller
    obtain ⟨row, hrow, hrowId⟩ := exists_of_mismatch hreaches hmismatch
    exact habsent row hrow (hrowId.trans hid)
  refine ⟨hmismatching, ?_, ?_⟩
  · unfold counted
    rw [hmismatching, Finset.filter_empty]
  · have hnone : store.invitations.find id = none := by
      rw [find_eq_none_iff]
      intro old hold hid
      obtain ⟨row, hrow, hsucceeds⟩ := invitations_of_start hreaches old hold
      exact habsent row hrow (hsucceeds.id.trans hid)
    unfold alreadyCounted
    rw [hnone]
    rfl

/-- An event that judges and counts nothing keeps the tallies. -/
theorem withinCap_of_quiet (hreaches : Reachable libraries store c)
    (hwithin : WithinCap libraries store c) {fresh : InvitationRow → Prop}
    (hevolves : Evolves InvitationSucceeds fresh c.store.invitations later.store.invitations)
    (hmismatching : ∀ id, mismatching libraries later id ⊆ mismatching libraries c id)
    (hcounted : ∀ id, counted libraries later id ⊆ counted libraries c id) :
    WithinCap libraries store later := by
  intro row hrow
  rcases hevolves.origin row hrow with ⟨old, hold, hsucceeds⟩ | ⟨_, hnew⟩
  · rw [hsucceeds.id, hsucceeds.maxAttempts]
    exact (hwithin old hold).mono hsucceeds.attempts (hmismatching old.id) (hcounted old.id)
  · obtain ⟨hnone, hzero, hbase⟩ := nothing_of_absent hreaches hnew
    have hjudged := hmismatching row.id
    have hshown := hcounted row.id
    rw [hnone] at hjudged
    rw [hzero] at hshown
    rw [hbase, Finset.subset_empty.mp hjudged, Finset.subset_empty.mp hshown]
    exact Tally.start (Nat.zero_le _)

/-- The row that a call has read carries the hash of the call's token. -/
theorem hash_of_read (hreaches : Reachable libraries store c) {caller : ℕ} {tokenHash : String}
    {invitation : TenantInvitation}
    (hread : (⟨.findByTokenHash tokenHash, .ok (some invitation)⟩ : TenancyPerformed) ∈
      logOf caller c.history) {row : InvitationRow} (hrow : row ∈ c.store.invitations.rows) :
    row.id = invitation.id ↔ InvitationTable.IsIdentifiedBy tokenHash row = true := by
  obtain ⟨hne, old, rfl, rfl, found, hfound, hsucceeds⟩ :=
    isStillThere_history hreaches _ (mem_logOf.mp hread)
  rw [isIdentifiedBy_iff]
  constructor
  · intro hid
    obtain rfl : row = found := eq_of_key hrow hfound (hid.trans hsucceeds.id.symm)
    exact ⟨hne, hsucceeds.tokenHash⟩
  · rintro ⟨_, hhash⟩
    obtain rfl : row = found := eq_of_alt hrow hfound (hhash.trans hsucceeds.tokenHash.symm)
    exact hsucceeds.id

/-- Counting a mismatch that its caller has judged keeps the tallies. -/
theorem withinCap_of_count (hreaches : Reachable libraries store c)
    (hwithin : WithinCap libraries store c) {caller : ℕ} {tokenHash : String} {now : Instant}
    {answer : Bool} {request : TenancyRequest}
    (hmay : MayCount libraries (logOf caller c.history) request tokenHash)
    (hhistory : later.history =
      ⟨caller, .recordFailedAttempt tokenHash now, .ok answer⟩ :: c.history)
    (hstore : later.store.invitations =
      InvitationTable.recordFailedAttempt c.store.invitations tokenHash now) :
    WithinCap libraries store later := by
  obtain ⟨token, actor, userId, invitation, readAt, email, _, rfl, hlog, hgate⟩ := hmay
  have hread : (⟨.findByTokenHash (libraries.hashOf token), .ok (some invitation)⟩ :
      TenancyPerformed) ∈ logOf caller c.history := by
    rw [hlog]
    simp [readings]
  have hjudged : mismatch libraries (logOf caller c.history) = some invitation := by
    rw [hlog]
    exact judgedMismatch_eq_some.mpr ⟨_, _, _, _, [], rfl, hgate⟩
  have hmismatching : ∀ id, mismatching libraries later id ⊆ mismatching libraries c id := by
    intro id other hother
    refine ((mem_mismatching_of_performed hhistory).mp hother).resolve_right ?_
    rintro ⟨_, _, _, _, _, _, hverified, _⟩
    cases hverified
  intro row hrow
  rw [hstore] at hrow
  obtain ⟨old, hold, rfl⟩ := mem_update_iff.mp hrow
  by_cases hidentified : InvitationTable.IsIdentifiedBy (libraries.hashOf token) old = true
  · rw [if_pos hidentified]
    have hcounted : counted libraries later old.id ⊆ insert caller (counted libraries c old.id) := by
      intro other hother
      rcases mem_counted_of_performed hhistory hother with hearlier | ⟨rfl, _⟩
      · exact Finset.mem_insert_of_mem hearlier
      · exact Finset.mem_insert_self _ _
    exact (hwithin old hold).count (hmismatching old.id) hcounted
  · rw [if_neg hidentified]
    refine (hwithin old hold).mono (Nat.le_refl _) (hmismatching old.id) fun other hother ↦ ?_
    refine (mem_counted_of_performed hhistory hother).resolve_right ?_
    rintro ⟨_, _, hcaller⟩
    obtain ⟨judged, hmismatch, hid⟩ := mem_mismatching.mp hcaller
    obtain rfl : judged = invitation := Option.some.inj (hmismatch.symm.trans hjudged)
    exact hidentified ((hash_of_read hreaches hread hold).mp hid.symm)

/-- A judgement that leaves room for what is not counted yet keeps the tallies. -/
theorem withinCap_of_judge (hwithin : WithinCap libraries store c) {caller : ℕ}
    {request : TenancyRequest} {userId : UserId} {invitation : TenantInvitation}
    (hroom : LeavesRoom libraries c caller request (.verifiedEmailOf userId))
    (hjudges : JudgesMismatch libraries (logOf caller c.history)
      ⟨.verifiedEmailOf userId, .ok (c.store.verifiedEmailOf userId)⟩ invitation)
    (hhistory : later.history =
      ⟨caller, .verifiedEmailOf userId, .ok (c.store.verifiedEmailOf userId)⟩ :: c.history)
    (hstore : later.store = c.store) : WithinCap libraries store later := by
  obtain ⟨now, _, _, heq, habout, hgate⟩ := hjudges
  cases heq
  have hcounted : ∀ id, counted libraries later id ⊆ counted libraries c id := by
    intro id other hother
    refine (mem_counted_of_performed hhistory hother).resolve_right ?_
    rintro ⟨_, hcount, _⟩
    cases hcount
  have hmismatching : ∀ id, ∀ other ∈ mismatching libraries later id,
      other ∈ mismatching libraries c id ∨ other = caller ∧ invitation.id = id := by
    intro id other hother
    refine ((mem_mismatching_of_performed hhistory).mp hother).imp_right ?_
    rintro ⟨rfl, judged, hid, _, _, _, _, hjudged, _⟩
    obtain ⟨rfl, _⟩ := Prod.mk.inj (Option.some.inj (habout.symm.trans hjudged))
    exact ⟨rfl, hid⟩
  intro row hrow
  rw [hstore] at hrow
  by_cases hid : row.id = invitation.id
  · have hfree : row.attempts +
        (mismatching libraries c row.id \ counted libraries c row.id).card < row.maxAttempts := by
      cases request <;> exact hroom (invitation, now) habout hgate row hrow hid
    have hjudged : mismatching libraries later row.id ⊆
        insert caller (mismatching libraries c row.id) := by
      intro other hother
      rcases hmismatching row.id other hother with hearlier | ⟨rfl, _⟩
      · exact Finset.mem_insert_of_mem hearlier
      · exact Finset.mem_insert_self _ _
    exact (hwithin row hrow).judge hfree hjudged (hcounted row.id)
  · refine (hwithin row hrow).mono (Nat.le_refl _) (fun other hother ↦ ?_) (hcounted row.id)
    exact (hmismatching row.id other hother).resolve_right fun h ↦ hid h.2.symm

/-- What is performed within the condition keeps the tallies. -/
theorem withinCap_performed (hreaches : Reachable libraries store c)
    (hwithin : WithinCap libraries store c) {caller : ℕ} {request : TenancyRequest}
    {op : TenancyOp} {answer : Except String op.Value} {oracle : TenancyOracle}
    (hroom : LeavesRoom libraries c caller request op)
    (hallowed : (tenancyContract libraries).allowed request (logOf caller c.history) op)
    (hanswer : TenancyStore.handle c.store op oracle = some (later.store, answer))
    (hhistory : later.history = ⟨caller, op, answer⟩ :: c.history) :
    WithinCap libraries store later := by
  by_cases hjudges : ∃ invitation,
      JudgesMismatch libraries (logOf caller c.history) ⟨op, answer⟩ invitation
  · obtain ⟨invitation, hjudges⟩ := hjudges
    obtain ⟨userId, email, heq⟩ : ∃ userId email,
        (⟨op, answer⟩ : TenancyPerformed) = ⟨.verifiedEmailOf userId, .ok email⟩ := by
      obtain ⟨_, userId, email, heq, _⟩ := hjudges
      exact ⟨userId, email, heq⟩
    obtain ⟨rfl, hvalue⟩ := Sigma.mk.inj heq
    obtain rfl := eq_of_heq hvalue
    generalize hstore : later.store = after at hanswer
    cases changes_of_handle hanswer with
    | read hop hread =>
      obtain rfl : c.store.verifiedEmailOf userId = email :=
        congrArg Prod.snd (Except.ok.inj hread)
      exact withinCap_of_judge hwithin hroom hjudges hhistory hstore
  by_cases hcounts : isCount ⟨op, answer⟩ = true
  · unfold isCount at hcounts
    split at hcounts
    · rename_i tokenHash now value heq
      obtain ⟨rfl, hvalue⟩ := Sigma.mk.inj heq
      obtain rfl := eq_of_heq hvalue
      generalize hstore : later.store = after at hanswer
      cases changes_of_handle hanswer with
      | read hop hread => cases hop
      | counted =>
        exact withinCap_of_count hreaches hwithin hallowed hhistory (congrArg _ hstore)
    · cases hcounts
  · refine withinCap_of_quiet hreaches hwithin (invitations_evolve hanswer)
      (fun id other hother ↦ ?_) fun id other hother ↦ ?_
    · refine ((mem_mismatching_of_performed hhistory).mp hother).resolve_right ?_
      rintro ⟨rfl, invitation, _, hjudged⟩
      exact hjudges ⟨invitation, hjudged⟩
    · exact (mem_counted_of_performed hhistory hother).resolve_right fun h ↦ hcounts h.2.1

theorem withinCap_step (hreaches : Reachable libraries store c)
    (hwithin : WithinCap libraries store c) {event : TenancyEvent}
    (hmeets : Meets (LeavesRoom libraries) c event)
    (hstep : (tenancyMachine libraries).step c event = some later) :
    WithinCap libraries store later := by
  have hquiet : ∀ fresh, Evolves InvitationSucceeds fresh c.store.invitations
      later.store.invitations → later.history = c.history → WithinCap libraries store later := by
    intro fresh hevolves hhistory
    exact withinCap_of_quiet hreaches hwithin hevolves
      (fun id ↦ (mismatching_congr hhistory id).subset) fun id ↦ (counted_congr hhistory id).subset
  cases steps_of_step_eq_some hstep with
  | start request => exact hquiet (fun _ ↦ False) (evolves_refl invitationSucceeds_refl) rfl
  | end_ hcall => exact hquiet (fun _ ↦ False) (evolves_refl invitationSucceeds_refl) rfl
  | turn tick => exact hquiet IsFresh (invitations_evolve_turn c.store tick) rfl
  | perform hcall hanswer =>
    have hallowed :=
      (hreaches.bound (tenancy_honours libraries) fun _ ↦ trivial).allowed (Nat.zero_le _) hcall
    exact withinCap_performed hreaches hwithin (hmeets.performed hcall) hallowed hanswer rfl

end Invariant

/-! ### What is counted since a reading -/

section Since

variable {libraries : TenancyLibraries} {store : TenancyStore} {c : TenancyConfiguration}

/-- The attempts of the row that a token identifies grow by what is counted against the token. -/
theorem attempts_of_handle {before later : TenancyStore} {op : TenancyOp}
    {answer : Except String op.Value} {oracle : TenancyOracle}
    (hanswer : TenancyStore.handle before op oracle = some (later, answer)) {tokenHash : String} :
    ∀ row ∈ later.invitations.rows, InvitationTable.IsIdentifiedBy tokenHash row = true →
      ∃ old ∈ before.invitations.rows, old.id = row.id ∧
        InvitationTable.IsIdentifiedBy tokenHash old = true ∧
        row.attempts = old.attempts + if isCountOf tokenHash ⟨op, answer⟩ then 1 else 0 := by
  intro row hrow hidentified
  have hkept : row ∈ before.invitations.rows → isCountOf tokenHash ⟨op, answer⟩ = false →
      ∃ old ∈ before.invitations.rows, old.id = row.id ∧
        InvitationTable.IsIdentifiedBy tokenHash old = true ∧
        row.attempts = old.attempts + if isCountOf tokenHash ⟨op, answer⟩ then 1 else 0 := by
    intro hold hcount
    exact ⟨row, hold, rfl, hidentified, by rw [hcount]; rfl⟩
  cases answer with
  | error message =>
    rw [eq_of_thrown hanswer] at hrow
    exact hkept hrow (by cases op <;> rfl)
  | ok value =>
    cases changes_of_handle hanswer with
    | @read op value oracle hop hread =>
      refine hkept hrow ?_
      cases op with
      | recordFailedAttempt => cases hop
      | _ => rfl
    | lostRace => exact hkept hrow rfl
    | counted other now =>
      obtain ⟨old, hold, rfl⟩ := mem_update_iff.mp hrow
      have hsame : InvitationTable.IsIdentifiedBy tokenHash old = true := by
        split_ifs at hidentified <;> exact hidentified
      refine ⟨old, hold, by split_ifs <;> rfl, hsame, ?_⟩
      by_cases hother : InvitationTable.IsIdentifiedBy other old = true
      · have heq : other = tokenHash :=
          (isIdentifiedBy_iff.mp hother).2.symm.trans (isIdentifiedBy_iff.mp hsame).2
        subst heq
        simp [hother, isCountOf]
      · have hne : other ≠ tokenHash := fun heq ↦ hother (heq ▸ hsame)
        simp [hother, isCountOf, hne]
    | @redeemed invitation userId occurredAt id members hopen hinsert =>
      obtain ⟨old, hold, rfl⟩ := mem_update_iff.mp hrow
      by_cases hcondition : InvitationTable.IsRedeemable invitation occurredAt old = true
      · rw [if_pos hcondition] at hidentified ⊢
        exact ⟨old, hold, rfl, hidentified, rfl⟩
      · rw [if_neg hcondition] at hidentified ⊢
        exact ⟨old, hold, rfl, hidentified, rfl⟩
    | revoked tenantId invitationId now =>
      unfold TenancyStore.revoke at hrow
      split_ifs at hrow with hcount
      · exact hkept hrow rfl
      · obtain ⟨old, hold, rfl⟩ := mem_update_iff.mp hrow
        by_cases hcondition : InvitationTable.IsOpen tenantId invitationId old = true
        · rw [if_pos hcondition] at hidentified ⊢
          exact ⟨old, hold, rfl, hidentified, rfl⟩
        · rw [if_neg hcondition] at hidentified ⊢
          exact ⟨old, hold, rfl, hidentified, rfl⟩

/-- What a call read of an invitation's attempts, and what was counted against the token since, is
what the invitation shows. -/
theorem attempts_since_read (hreaches : Reachable libraries store c) :
    ∀ recent earlier caller tokenHash invitation,
      c.history = recent ++ ⟨caller, .findByTokenHash tokenHash, .ok (some invitation)⟩ :: earlier →
      ∀ row ∈ c.store.invitations.rows, row.id = invitation.id →
        row.attempts = invitation.attempts +
          recent.countP fun occurrence ↦ isCountOf tokenHash occurrence.performed := by
  induction hreaches with
  | refl =>
    intro recent earlier caller tokenHash invitation hhistory
    exact absurd hhistory.symm (List.append_ne_nil_of_right_ne_nil _ (List.cons_ne_nil _ _))
  | @step c later event hreaches hcondition hstep ih =>
    intro recent earlier caller tokenHash invitation hhistory row hrow hid
    have hlater : Reachable libraries store later := hreaches.step hcondition hstep
    have hread : (⟨.findByTokenHash tokenHash, .ok (some invitation)⟩ : TenancyPerformed) ∈
        logOf caller later.history := by
      rw [mem_logOf, hhistory]
      exact List.mem_append_right _ List.mem_cons_self
    have hidentified := (hash_of_read hlater hread hrow).mp hid
    cases steps_of_step_eq_some hstep with
    | start request => exact ih _ _ _ _ _ hhistory row hrow hid
    | end_ hcall => exact ih _ _ _ _ _ hhistory row hrow hid
    | turn tick =>
      rcases mem_invitations_of_turn hrow with hold | ⟨_, hnew⟩
      · exact ih _ _ _ _ _ hhistory row hold hid
      · obtain ⟨_, old, rfl, _, found, hfound, hsucceeds⟩ :=
          isStillThere_history hreaches _ (mem_logOf.mp hread)
        exact absurd (hsucceeds.id.trans hid.symm) (hnew found hfound)
    | @perform performer oracle request op next after answer hcall hanswer =>
      cases recent with
      | nil =>
        -- The reading itself: the row is as it was read.
        cases (List.cons.inj hhistory).1
        obtain ⟨rfl, found, hfound, rfl, _⟩ := row_of_findByTokenHash hanswer
        obtain rfl : row = found := eq_of_key hrow hfound hid
        rfl
      | cons newest recent =>
        obtain ⟨hnewest, hrest⟩ := List.cons.inj hhistory
        obtain ⟨old, hold, holdId, _, hattempts⟩ := attempts_of_handle hanswer row hrow hidentified
        rw [hattempts, ih _ _ _ _ _ hrest old hold (holdId.trans hid), List.countP_cons,
          Nat.add_assoc, ← hnewest]

/-- A redeeming call reads one invitation: what it read is the first of its readings that the history
shows. -/
theorem history_at_reading (hreaches : Reachable libraries store c) {caller : ℕ} {tokenHash : String}
    {invitation : TenantInvitation}
    (hread : (⟨.findByTokenHash tokenHash, .ok (some invitation)⟩ : TenancyPerformed) ∈
      logOf caller c.history) :
    ∃ earlier, c.history =
      (c.history.takeWhile fun occurrence ↦
        !(occurrence.caller == caller && isReading occurrence.performed)) ++
        ⟨caller, .findByTokenHash tokenHash, .ok (some invitation)⟩ :: earlier := by
  generalize hsince : (fun occurrence : TenancyOccurrence ↦
    !(occurrence.caller == caller && isReading occurrence.performed)) = since
  have hstop : since ⟨caller, .findByTokenHash tokenHash, .ok (some invitation)⟩ = false := by
    simp [← hsince, isReading]
  have hdropped : c.history.dropWhile since ≠ [] := by
    intro hnil
    have hall := List.dropWhile_eq_nil_iff.mp hnil _ (mem_logOf.mp hread)
    rw [hstop] at hall
    cases hall
  obtain ⟨reading, earlier, hsplit⟩ := List.exists_cons_of_ne_nil hdropped
  have hhistory : c.history = c.history.takeWhile since ++ reading :: earlier := by
    rw [← hsplit, List.takeWhile_append_dropWhile]
  have hreading : since reading = false := by
    have hhead := List.head_dropWhile_not since hdropped
    simpa only [hsplit, List.head_cons] using hhead
  obtain ⟨performer, op, answer⟩ := reading
  obtain ⟨rfl, hop⟩ : performer = caller ∧ isReading ⟨op, answer⟩ = true := by
    simpa [← hsince] using hreading
  cases op with
  | findByTokenHash found =>
    obtain ⟨request, _, hnone, _⟩ := hreaches.allowed (tenancy_honours libraries)
      (fun _ ↦ trivial) _ _ _ hhistory
    have hearlier : logOf performer earlier = [] := hnone
    rw [hhistory, logOf_append, logOf_cons_self, hearlier, List.mem_append,
      List.mem_singleton] at hread
    rcases hread with hrecent | hread
    · have htaken := List.mem_takeWhile_imp (mem_logOf.mp hrecent)
      rw [hstop] at htaken
      cases htaken
    · exact ⟨earlier, hread ▸ hhistory⟩
  | _ => cases hop

/-- What an invitation shows when a call may redeem it: what the call has read of it, and what was
counted since. -/
theorem attempts_at_redemption (hreaches : Reachable libraries store c) {caller : ℕ} {token : String}
    {actor : Option RedeemerActor} {invitation : TenantInvitation} {userId : UserId}
    {occurredAt : Instant}
    (hmay : MayRedeem libraries (logOf caller c.history) (.redeemInvitation token actor) invitation
      userId occurredAt) {row : InvitationRow} (hrow : row ∈ c.store.invitations.rows)
    (hid : row.id = invitation.id) :
    row.attempts = invitation.attempts + countedSince c caller (libraries.hashOf token) ∧
      row.maxAttempts = invitation.maxAttempts := by
  obtain ⟨presented, asked, redeemer, email, hrequest, _, _, hreadings, _⟩ := hmay
  obtain ⟨rfl, rfl⟩ := TenancyRequest.redeemInvitation.inj hrequest
  have hread : (⟨.findByTokenHash (libraries.hashOf token), .ok (some invitation)⟩ :
      TenancyPerformed) ∈ logOf caller c.history :=
    hreadings.subset (by simp [readings])
  obtain ⟨earlier, hhistory⟩ := history_at_reading hreaches hread
  obtain ⟨_, old, rfl, _, found, hfound, hsucceeds⟩ :=
    isStillThere_history hreaches _ (mem_logOf.mp hread)
  obtain rfl : row = found := eq_of_key hrow hfound (hid.trans hsucceeds.id.symm)
  exact ⟨attempts_since_read hreaches _ _ _ _ _ hhistory row hrow hid, hsucceeds.maxAttempts⟩

end Since

/-! ### The law -/

section Law

variable {libraries : TenancyLibraries} {store : TenancyStore} {c later : TenancyConfiguration}

theorem withinCap_of_reaches
    (hreaches : Reaches (tenancyMachine libraries) (Meets (LeavesRoom libraries)) (.initial store) c) :
    WithinCap libraries store c := by
  induction hreaches with
  | refl => exact withinCap_initial
  | step hreaches hmeets hstep ih =>
    exact withinCap_step (hreaches.mono fun _ _ _ ↦ trivial) ih hmeets hstep

theorem redeemsBelowCap_of_step (hreaches : Reachable libraries store c) {event : TenancyEvent}
    (hmeets : Meets (LeavesRoom libraries) c event)
    (hstep : (tenancyMachine libraries).step c event = some later) : RedeemsBelowCap c later := by
  intro caller performed done hhistory hdone
  obtain rfl := redemption_eq_some hdone
  cases steps_of_step_eq_some hstep with
  | start request => exact absurd hhistory.symm (List.cons_ne_self _ _)
  | end_ hcall => exact absurd hhistory.symm (List.cons_ne_self _ _)
  | turn tick => exact absurd hhistory.symm (List.cons_ne_self _ _)
  | perform hcall hanswer =>
    cases (List.cons.inj hhistory).1
    have hmay := (hreaches.bound (tenancy_honours libraries) fun _ ↦ trivial).allowed
      (Nat.zero_le _) hcall
    obtain ⟨token, actor, _, _, rfl, _⟩ := id hmay
    have hroom := hmeets.performed hcall
    obtain ⟨closed, hclosed, hid, _⟩ := (leavesBehind_of_redemption hdone hanswer).invitation
    obtain ⟨row, hrow, hrowId⟩ : ∃ row ∈ c.store.invitations.rows,
        row.id = done.invitation.id := by
      rcases (invitations_evolve hanswer).origin closed hclosed with
        ⟨row, hrow, hsucceeds⟩ | ⟨hfresh, _⟩
      · exact ⟨row, hrow, hsucceeds.id.symm.trans hid⟩
      · exact hfresh.elim
    obtain ⟨hattempts, hmax⟩ := attempts_at_redemption hreaches hmay hrow hrowId
    refine ⟨row, hrow, hrowId, ?_⟩
    rw [hattempts, hmax]
    exact hroom

/-- Where a mismatch is judged only with room for it and for the mismatches that are not counted yet,
and a redemption goes on only where what was counted since its call read the invitation leaves an
attempt, no more mismatches are judged than the invitation allows, and what is redeemed has attempts
left. -/
theorem redeemInvitation_capped (libraries : TenancyLibraries) (store : TenancyStore)
    (c : TenancyConfiguration)
    (hreaches : Reaches (tenancyMachine libraries) (Meets (LeavesRoom libraries)) (.initial store)
      c) :
    StaysCapped libraries store c ∧
      ∀ event later, Meets (LeavesRoom libraries) c event →
        (tenancyMachine libraries).step c event = some later → RedeemsBelowCap c later := by
  refine ⟨fun row hrow ↦ (withinCap_of_reaches hreaches row hrow).capped, ?_⟩
  intro event later hmeets hstep
  exact redeemsBelowCap_of_step (hreaches.mono fun _ _ _ ↦ trivial) hmeets hstep

end Law

/-! ### Presentations that run at the same time -/

namespace RedemptionCap

open Identity Identity.ReferenceLibraries ReferenceInvitation

def strangerAccount : IdentityAccount :=
  { ownerAccount with id := inviter, email := "stranger@example.com" }

/-- The invitation, with another account around that it was not meant for. -/
def store (maxAttempts : ℕ) : TenancyStore where
  invitations := single { invitation with maxAttempts := maxAttempts }
  members := .empty
  accounts :=
    let accounts := ownerStore.accounts.accounts
    { ownerStore.accounts with accounts := (accounts.insert strangerAccount).getD accounts }
  clock := 10

/-- The stranger presents the token to the end, then the owner up to the redemption. -/
def sparing : List TenancyEvent :=
  [.start (redeeming inviter)] ++ List.replicate 5 (.advance 0 narrow) ++
    [.start (redeeming owner)] ++ List.replicate 5 (.advance 1 narrow)

def spared : TenancyConfiguration :=
  (tenancyMachine libraries).finish (Meets (LeavesRoom libraries)) (.initial (store 2)) sparing

/-- The stranger presents the token twice, and both are judged before any of them is counted. -/
def racing : List TenancyEvent :=
  List.replicate 2 (.start (redeeming inviter)) ++ List.replicate 3 (.advance 0 narrow) ++
    List.replicate 3 (.advance 1 narrow)

def raced : TenancyConfiguration :=
  (tenancyMachine libraries).finish (fun _ _ ↦ True) (.initial (store 1)) racing

/-- The stranger's presentation is counted after the owner's call has read the invitation. -/
def overtaking : List TenancyEvent :=
  [.start (redeeming owner), .start (redeeming inviter)] ++ List.replicate 5 (.advance 0 narrow) ++
    List.replicate 4 (.advance 1 narrow)

def overtaken : TenancyConfiguration :=
  (tenancyMachine libraries).finish (fun _ _ ↦ True) (.initial (store 1)) overtaking

end RedemptionCap

open RedemptionCap ReferenceInvitation in
theorem redeemInvitation_capped_spared : ∃ later, StaysCapped libraries (store 2) spared ∧
    (mismatching libraries spared "invitation").card = 1 ∧
    (redemptionsOf later "invitation").length = 1 ∧ RedeemsBelowCap spared later := by
  obtain ⟨later, hlater⟩ : ∃ later,
      (tenancyMachine libraries).step spared (.advance 1 narrow) = some later :=
    Option.isSome_iff_exists.mp (by decide)
  have hredeemed : ((tenancyMachine libraries).step spared (.advance 1 narrow)).map
      (fun later ↦ (redemptionsOf later "invitation").length) = some 1 := by decide
  rw [hlater] at hredeemed
  obtain ⟨hcapped, hbelow⟩ :=
    redeemInvitation_capped libraries (store 2) spared (reaches_finish sparing)
  refine ⟨later, hcapped, by decide, Option.some.inj hredeemed, ?_⟩
  exact hbelow (.advance 1 narrow) later (by decide) hlater

open RedemptionCap ReferenceInvitation in
/-- More mismatches are judged than the invitation allows, and an invitation without attempts left is
redeemed. -/
theorem presentations_race :
    (∃ c, Reachable libraries (store 1) c ∧ ∃ row ∈ c.store.invitations.rows,
      row.maxAttempts < (mismatching libraries c row.id).card) ∧
    ∃ c later, Reachable libraries (store 1) c ∧
      (tenancyMachine libraries).step c (.advance 0 narrow) = some later ∧
      ¬ RedeemsBelowCap c later := by
  refine ⟨⟨raced, reaches_finish racing, by decide⟩, ?_⟩
  obtain ⟨later, hlater⟩ : ∃ later,
      (tenancyMachine libraries).step overtaken (.advance 0 narrow) = some later :=
    Option.isSome_iff_exists.mp (by decide)
  refine ⟨overtaken, later, reaches_finish overtaking, hlater, ?_⟩
  have hcommits : ((tenancyMachine libraries).step overtaken (.advance 0 narrow)).map
      (fun later ↦ later.history.countP fun occurrence ↦ (redemption occurrence.performed).isSome) =
        some 1 := by
    decide
  have hnone : (overtaken.history.countP fun occurrence ↦
      (redemption occurrence.performed).isSome) = 0 := by
    decide
  have hexhausted : ∀ row ∈ overtaken.store.invitations.rows, row.maxAttempts ≤ row.attempts := by
    decide
  rw [hlater, Option.map_some, Option.some.injEq] at hcommits
  intro hbelow
  cases steps_of_step_eq_some hlater with
  | perform hcall hanswer =>
    rw [List.countP_cons, hnone] at hcommits
    obtain ⟨done, hdone⟩ := Option.ne_none_iff_exists'.mp (by simpa using hcommits)
    obtain ⟨row, hrow, _, hlt⟩ := hbelow _ _ done rfl hdone
    exact absurd (hexhausted row hrow) (Nat.not_le.mpr hlt)
  | end_ hcall =>
    rw [hnone] at hcommits
    cases hcommits

end Karar.Tenancy
