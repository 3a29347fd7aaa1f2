import Karar.Identity.SessionStore

/-!
# Laws of the session store

What any operation leaves of the rows. A session keeps its identity, its account and its ceiling;
once revoked it stays revoked, once bound it stays bound. A family stays revoked. A used refresh
token never changes again. New rows come from the bundle or the successor of an operation only.

A guarded operation that reports success found its row: an unrevoked session for `rebindSession`, an
unused token for `rotateToken`.
-/

namespace Karar.Identity

open Foundation KeyedTable SharedKernel

/-! ### What a row can become -/

structure SessionSucceeds (before after : Session) : Prop where
  id : after.id = before.id
  accountId : after.accountId = before.accountId
  absoluteExpiresAt : after.absoluteExpiresAt = before.absoluteExpiresAt
  revoked : before.revokedAt ≠ none → after.revokedAt ≠ none
  bound : before.tenantBinding ≠ none → after.tenantBinding = before.tenantBinding

theorem sessionSucceeds_refl (session : Session) : SessionSucceeds session session :=
  ⟨rfl, rfl, rfl, fun h ↦ h, fun _ ↦ rfl⟩

theorem SessionSucceeds.trans (first second third : Session)
    (hfirst : SessionSucceeds first second) (hsecond : SessionSucceeds second third) :
    SessionSucceeds first third where
  id := hsecond.id.trans hfirst.id
  accountId := hsecond.accountId.trans hfirst.accountId
  absoluteExpiresAt := hsecond.absoluteExpiresAt.trans hfirst.absoluteExpiresAt
  revoked h := hsecond.revoked (hfirst.revoked h)
  bound h := by
    have hbound := hfirst.bound h
    exact (hsecond.bound (hbound ▸ h)).trans hbound

structure FamilySucceeds (before after : RefreshTokenFamily) : Prop where
  id : after.id = before.id
  sessionId : after.sessionId = before.sessionId
  accountId : after.accountId = before.accountId
  revoked : before.revokedAt ≠ none → after.revokedAt ≠ none

theorem familySucceeds_refl (family : RefreshTokenFamily) : FamilySucceeds family family :=
  ⟨rfl, rfl, rfl, fun h ↦ h⟩

theorem FamilySucceeds.trans (first second third : RefreshTokenFamily)
    (hfirst : FamilySucceeds first second) (hsecond : FamilySucceeds second third) :
    FamilySucceeds first third where
  id := hsecond.id.trans hfirst.id
  sessionId := hsecond.sessionId.trans hfirst.sessionId
  accountId := hsecond.accountId.trans hfirst.accountId
  revoked h := hsecond.revoked (hfirst.revoked h)

structure TokenSucceeds (before after : RefreshTokenRecord) : Prop where
  id : after.id = before.id
  familyId : after.familyId = before.familyId
  tokenHash : after.tokenHash = before.tokenHash
  expiresAt : after.expiresAt = before.expiresAt
  used : before.usedAt ≠ none → after = before

theorem tokenSucceeds_refl (token : RefreshTokenRecord) : TokenSucceeds token token :=
  ⟨rfl, rfl, rfl, rfl, fun _ ↦ rfl⟩

/-- The bundle an operation inserts when it goes through. -/
def SessionOp.bundle : SessionOp → Option NewSessionBundle
  | .createSession bundle => some bundle
  | .rebindSession _ _ _ bundle _ => some bundle
  | _ => none

/-- The refresh token an operation inserts when it goes through. -/
def SessionOp.insertedToken : SessionOp → Option RefreshTokenRecord
  | .createSession bundle => some bundle.firstToken
  | .rebindSession _ _ _ bundle _ => some bundle.firstToken
  | .rotateToken _ _ successor _ => some successor
  | _ => none

namespace SessionStore

variable {store later : SessionStore}

/-! ### Marking rows revoked -/

section Mark

variable {fresh : Session → Prop} {freshFamily : RefreshTokenFamily → Prop}
  {accountId : UserId} {ids : List String} {reason : RevocationReason} {now : Instant}

theorem markSessions_evolves (condition : Session → Bool) :
    Evolves SessionSucceeds fresh store.sessions
      (store.markSessions condition reason now).sessions := by
  refine evolves_update sessionSucceeds_refl fun row _ _ ↦ ?_
  exact ⟨rfl, rfl, rfl, fun _ ↦ Option.some_ne_none now, fun _ ↦ rfl⟩

theorem markFamilies_evolves (condition : RefreshTokenFamily → Bool) :
    Evolves FamilySucceeds freshFamily store.families
      (store.markFamilies condition reason now).families := by
  refine evolves_update familySucceeds_refl fun row _ _ ↦ ?_
  exact ⟨rfl, rfl, rfl, fun _ ↦ Option.some_ne_none now⟩

/-- A session that is marked is revoked afterwards. -/
theorem revokedAt_ne_none_of_mark {condition : Session → Bool} {row successor : Session}
    (hrow : row ∈ store.sessions.rows) (hcondition : condition row = true)
    (hsuccessor : successor ∈ (store.markSessions condition reason now).sessions.rows)
    (hid : successor.id = row.id) : successor.revokedAt ≠ none := by
  obtain ⟨old, hold, rfl⟩ := mem_update_iff.mp hsuccessor
  have hsame : old = row := by
    refine eq_of_key hold hrow ?_
    by_cases hother : condition old = true
    · rwa [if_pos hother] at hid
    · rwa [if_neg hother] at hid
  subst hsame
  rw [if_pos hcondition]
  exact Option.some_ne_none now

end Mark

/-! ### Inserting a bundle -/

theorem insertToken_eq_some {accountId : UserId} {token : RefreshTokenRecord}
    (hinsert : store.insertToken accountId token = some later) :
    store.ownsFamily accountId token.familyId = true ∧ later.sessions = store.sessions ∧
      later.families = store.families ∧ store.tokens.insert token.stored = some later.tokens := by
  unfold insertToken at hinsert
  split_ifs at hinsert with howns
  obtain ⟨tokens, htokens, hlater⟩ := Option.bind_eq_some_iff.mp hinsert
  obtain rfl := Option.some.inj hlater
  exact ⟨howns, rfl, rfl, htokens⟩

/-- An inserted bundle: the rows it brings in, and what was checked of them. -/
theorem insertBundle_eq_some {accountId : UserId} {bundle : NewSessionBundle}
    (hinsert : store.insertBundle accountId bundle = some later) :
    bundle.session.accountId = accountId ∧ bundle.family.accountId = accountId ∧
      store.sessions.insert bundle.storedSession = some later.sessions ∧
      store.families.insert bundle.storedFamily = some later.families ∧
      store.tokens.insert bundle.firstToken.stored = some later.tokens ∧
      later.ownsFamily accountId bundle.firstToken.familyId = true := by
  unfold insertBundle at hinsert
  split_ifs at hinsert with haccount
  obtain ⟨sessions, hsessions, hrest⟩ := Option.bind_eq_some_iff.mp hinsert
  split_ifs at hrest with hsession
  obtain ⟨families, hfamilies, htoken⟩ := Option.bind_eq_some_iff.mp hrest
  obtain ⟨howns, hsame, hsameFamilies, htokens⟩ := insertToken_eq_some htoken
  refine ⟨haccount.1, haccount.2, hsame ▸ hsessions, hsameFamilies ▸ hfamilies, htokens, ?_⟩
  unfold ownsFamily at howns ⊢
  rwa [hsameFamilies]

/-! ### The guarded operations -/

section Guarded

variable {accountId : UserId} {sessionId : String} {reason : RevocationReason} {now : Instant}

theorem isUnrevokedOf_iff {row : Session} : isUnrevokedOf accountId sessionId row = true ↔
    row.id = sessionId ∧ row.accountId = accountId ∧ row.revokedAt = none := by
  unfold isUnrevokedOf
  rw [decide_eq_true_eq]

/-- A session revocation that reports success revoked the session it names. -/
theorem revokeSession_eq_true
    (hrevoke : store.revokeSession accountId sessionId reason now = (later, true)) :
    (∃ row ∈ store.sessions.rows, isUnrevokedOf accountId sessionId row = true) ∧
      later = (store.markSessions (isUnrevokedOf accountId sessionId) reason
        now).revokeFamiliesOfSessions accountId [sessionId] reason now := by
  unfold revokeSession at hrevoke
  by_cases hcount : store.sessions.count (isUnrevokedOf accountId sessionId) = 0
  · rw [if_pos hcount] at hrevoke
    exact absurd (congrArg Prod.snd hrevoke) Bool.false_ne_true
  · rw [if_neg hcount] at hrevoke
    exact ⟨exists_of_count_ne_zero hcount, (congrArg Prod.fst hrevoke).symm⟩

theorem revokeSession_eq_false
    (hrevoke : store.revokeSession accountId sessionId reason now = (later, false)) :
    later = store ∧
      ∀ row ∈ store.sessions.rows, ¬ isUnrevokedOf accountId sessionId row = true := by
  unfold revokeSession at hrevoke
  by_cases hcount : store.sessions.count (isUnrevokedOf accountId sessionId) = 0
  · rw [if_pos hcount] at hrevoke
    exact ⟨(congrArg Prod.fst hrevoke).symm, forall_of_count_eq_zero hcount⟩
  · rw [if_neg hcount] at hrevoke
    exact absurd (congrArg Prod.snd hrevoke) (Ne.symm Bool.false_ne_true)

theorem revokeSession_sessions {answer : Bool} {fresh : Session → Prop}
    (hrevoke : store.revokeSession accountId sessionId reason now = (later, answer)) :
    Evolves SessionSucceeds fresh store.sessions later.sessions := by
  match answer, hrevoke with
  | true, hrevoke =>
    obtain ⟨_, rfl⟩ := revokeSession_eq_true hrevoke
    exact markSessions_evolves _
  | false, hrevoke =>
    obtain ⟨rfl, _⟩ := revokeSession_eq_false hrevoke
    exact evolves_refl sessionSucceeds_refl

theorem revokeSession_families {answer : Bool} {fresh : RefreshTokenFamily → Prop}
    (hrevoke : store.revokeSession accountId sessionId reason now = (later, answer)) :
    Evolves FamilySucceeds fresh store.families later.families := by
  match answer, hrevoke with
  | true, hrevoke =>
    obtain ⟨_, rfl⟩ := revokeSession_eq_true hrevoke
    exact markFamilies_evolves _
  | false, hrevoke =>
    obtain ⟨rfl, _⟩ := revokeSession_eq_false hrevoke
    exact evolves_refl familySucceeds_refl

theorem revokeSession_tokens {answer : Bool}
    (hrevoke : store.revokeSession accountId sessionId reason now = (later, answer)) :
    later.tokens = store.tokens := by
  match answer, hrevoke with
  | true, hrevoke =>
    obtain ⟨_, rfl⟩ := revokeSession_eq_true hrevoke
    rfl
  | false, hrevoke =>
    obtain ⟨rfl, _⟩ := revokeSession_eq_false hrevoke
    rfl

/-- A rebind that reports success revoked the old session and inserted the bundle. -/
theorem rebindSession_eq_true {bundle : NewSessionBundle}
    (hrebind : store.rebindSession accountId sessionId reason bundle now = some (later, true)) :
    ∃ revoked, store.revokeSession accountId sessionId reason now = (revoked, true) ∧
      revoked.insertBundle accountId bundle = some later := by
  unfold rebindSession at hrebind
  split at hrebind
  · exact absurd (congrArg Prod.snd (Option.some.inj hrebind)) Bool.false_ne_true
  · rename_i revoked hrevoked
    obtain ⟨inserted, hinserted, heq⟩ := Option.map_eq_some_iff.mp hrebind
    obtain rfl : inserted = later := congrArg Prod.fst heq
    exact ⟨revoked, hrevoked, hinserted⟩

theorem rebindSession_eq_false {bundle : NewSessionBundle}
    (hrebind : store.rebindSession accountId sessionId reason bundle now = some (later, false)) :
    later = store := by
  unfold rebindSession at hrebind
  split at hrebind
  · exact (congrArg Prod.fst (Option.some.inj hrebind)).symm
  · obtain ⟨inserted, _, heq⟩ := Option.map_eq_some_iff.mp hrebind
    exact absurd (congrArg Prod.snd heq) (Ne.symm Bool.false_ne_true)

end Guarded

/-! ### Rotation -/

section Rotate

variable {accountId : UserId} {presentedTokenId : String} {successor : RefreshTokenRecord}
  {now : Instant}

theorem isClaimable_iff {row : RefreshTokenRecord} :
    store.isClaimable accountId presentedTokenId row = true ↔
      row.id = presentedTokenId ∧ row.usedAt = none ∧
        store.ownsFamily accountId row.familyId = true := by
  unfold isClaimable
  rw [decide_eq_true_eq]

/-- What a rotation makes of the presented token. -/
def rotated (now : Instant) (successorId : String) (token : RefreshTokenRecord) :
    RefreshTokenRecord :=
  { token with usedAt := some now, supersededBy := some successorId }

theorem rotateToken_eq_false
    (hrotate : store.rotateToken accountId presentedTokenId successor now = some (later, false)) :
    later = store := by
  unfold rotateToken at hrotate
  by_cases hcount : store.tokens.count (store.isClaimable accountId presentedTokenId) = 0
  · rw [if_pos hcount] at hrotate
    exact (congrArg Prod.fst (Option.some.inj hrotate)).symm
  · rw [if_neg hcount] at hrotate
    obtain ⟨inserted, _, heq⟩ := Option.bind_eq_some_iff.mp hrotate
    exact absurd (congrArg Prod.snd (Option.some.inj heq)) (Ne.symm Bool.false_ne_true)

/-- A rotation that reports success claimed an unused token, marked it superseded by the successor,
and appended the successor; every other row is as before. -/
theorem rotateToken_eq_true
    (hrotate : store.rotateToken accountId presentedTokenId successor now = some (later, true)) :
    ∃ presented ∈ store.tokens.rows, presented.id = presentedTokenId ∧ presented.usedAt = none ∧
      later.sessions = store.sessions ∧ later.families = store.families ∧
      later.tokens.rows = (store.tokens.rows.map fun row ↦
        if row.id = presentedTokenId then rotated now successor.id row else row) ++
          [successor.stored] ∧
      (∀ row ∈ store.tokens.rows, row.id ≠ successor.id) ∧
      store.ownsFamily accountId successor.familyId = true := by
  unfold rotateToken at hrotate
  by_cases hcount : store.tokens.count (store.isClaimable accountId presentedTokenId) = 0
  · rw [if_pos hcount] at hrotate
    exact absurd (congrArg Prod.snd (Option.some.inj hrotate)) Bool.false_ne_true
  rw [if_neg hcount] at hrotate
  obtain ⟨inserted, hinserted, heq⟩ := Option.bind_eq_some_iff.mp hrotate
  obtain rfl : inserted.supersedeToken presentedTokenId successor.id = later :=
    congrArg Prod.fst (Option.some.inj heq)
  obtain ⟨presented, hpresented, hclaimable⟩ := exists_of_count_ne_zero hcount
  obtain ⟨hid, hunused, _⟩ := isClaimable_iff.mp hclaimable
  obtain ⟨howns, hsessions, hfamilies, hinsert⟩ := insertToken_eq_some hinserted
  have hclaimed : ∀ row ∈ (store.claimToken accountId presentedTokenId now).tokens.rows,
      row.id ≠ successor.stored.id := key_ne_of_insert hinsert
  have hfresh : ∀ row ∈ store.tokens.rows, row.id ≠ successor.id := key_ne_of_update hclaimed
  refine ⟨presented, hpresented, hid, hunused, hsessions, hfamilies, ?_, hfresh, howns⟩
  show (inserted.tokens.update _ _).rows = _
  rw [rows_update, rows_of_insert hinsert, List.map_append, List.map_singleton]
  congr 1
  · show (store.tokens.rows.map _).map _ = _
    rw [List.map_map]
    refine List.map_congr_left fun row hrow ↦ ?_
    by_cases hrowId : row.id = presentedTokenId
    · -- The claimed row is the only row with the presented id.
      have hsame : row = presented := eq_of_key hrow hpresented (hrowId.trans hid.symm)
      subst hsame
      simp [hclaimable, hrowId, rotated]
    · have hother : ¬ store.isClaimable accountId presentedTokenId row = true :=
        fun h ↦ hrowId (isClaimable_iff.mp h).1
      simp [hother, hrowId]
  · have hne : ¬ successor.id = presentedTokenId := fun h ↦
      hfresh presented hpresented (hid.trans h.symm)
    simp [RefreshTokenRecord.stored, hne]

/-- The rows of a table before and after a rotation. -/
theorem rotateToken_evolves
    (hrotate : store.rotateToken accountId presentedTokenId successor now = some (later, true)) :
    Evolves TokenSucceeds (fun row ↦ row = successor.stored) store.tokens later.tokens := by
  obtain ⟨presented, hpresented, hid, hunused, _, _, hrows, hfresh, _⟩ :=
    rotateToken_eq_true hrotate
  have hsucceeds : ∀ row ∈ store.tokens.rows, TokenSucceeds row
      (if row.id = presentedTokenId then rotated now successor.id row else row) := by
    intro row hrow
    by_cases hrowId : row.id = presentedTokenId
    · have hsame : row = presented := eq_of_key hrow hpresented (hrowId.trans hid.symm)
      rw [if_pos hrowId]
      exact ⟨rfl, rfl, rfl, rfl, fun hused ↦ absurd (hsame ▸ hunused) hused⟩
    · rw [if_neg hrowId]
      exact tokenSucceeds_refl row
  constructor
  · intro row hrow
    refine ⟨_, ?_, hsucceeds row hrow⟩
    rw [hrows]
    exact List.mem_append_left _ (List.mem_map_of_mem hrow)
  · intro row hrow
    rw [hrows] at hrow
    rcases List.mem_append.mp hrow with hold | hnew
    · obtain ⟨before, hbefore, rfl⟩ := List.mem_map.mp hold
      exact .inl ⟨before, hbefore, hsucceeds before hbefore⟩
    · rw [List.mem_singleton.mp hnew]
      exact .inr ⟨rfl, hfresh⟩

end Rotate

/-! ### Every operation -/

/-- What an operation does to the three tables. -/
structure Advances (op : SessionOp) (store later : SessionStore) : Prop where
  /-- Only a bundle brings a session in. -/
  sessions : Evolves SessionSucceeds (fun row ↦ ∃ bundle, op.bundle = some bundle ∧
    row = bundle.storedSession) store.sessions later.sessions
  families : Evolves FamilySucceeds (fun row ↦ ∃ bundle, op.bundle = some bundle ∧
    row = bundle.storedFamily) store.families later.families
  /-- A token comes in with a bundle or as a successor. -/
  tokens : Evolves TokenSucceeds (fun row ↦ ∃ token, op.insertedToken = some token ∧
    row = token.stored) store.tokens later.tokens

theorem advances_refl (op : SessionOp) (store : SessionStore) : Advances op store store :=
  ⟨evolves_refl sessionSucceeds_refl, evolves_refl familySucceeds_refl,
    evolves_refl tokenSucceeds_refl⟩

theorem perform_advances {op : SessionOp} {answer : op.Answer}
    (hperform : store.perform op = some (later, answer)) : Advances op store later := by
  cases op with
  | createSession bundle =>
    obtain ⟨inserted, hinserted, heq⟩ := Option.map_eq_some_iff.mp hperform
    obtain rfl := congrArg Prod.fst heq
    obtain ⟨_, _, hsessions, hfamilies, htokens, _⟩ := insertBundle_eq_some hinserted
    exact ⟨evolves_insert sessionSucceeds_refl ⟨bundle, rfl, rfl⟩ hsessions,
      evolves_insert familySucceeds_refl ⟨bundle, rfl, rfl⟩ hfamilies,
      evolves_insert tokenSucceeds_refl ⟨bundle.firstToken, rfl, rfl⟩ htokens⟩
  | findSession accountId sessionId =>
    obtain rfl := congrArg Prod.fst (Option.some.inj hperform)
    exact advances_refl _ store
  | listSessions accountId =>
    obtain rfl := congrArg Prod.fst (Option.some.inj hperform)
    exact advances_refl _ store
  | touchSession accountId sessionId now idleExpiresAt =>
    obtain rfl := congrArg Prod.fst (Option.some.inj hperform)
    refine ⟨?_, evolves_refl familySucceeds_refl, evolves_refl tokenSucceeds_refl⟩
    exact evolves_update sessionSucceeds_refl fun row _ _ ↦ ⟨rfl, rfl, rfl, fun h ↦ h, fun _ ↦ rfl⟩
  | revokeSession accountId sessionId reason now =>
    have hrevoke := Option.some.inj hperform
    refine ⟨revokeSession_sessions hrevoke, revokeSession_families hrevoke, ?_⟩
    rw [revokeSession_tokens hrevoke]
    exact evolves_refl tokenSucceeds_refl
  | selectTargets accountId exceptSessionId =>
    obtain rfl := congrArg Prod.fst (Option.some.inj hperform)
    exact advances_refl _ store
  | revokeTargets accountId ids reason now =>
    obtain rfl := congrArg Prod.fst (Option.some.inj hperform)
    exact ⟨markSessions_evolves _, markFamilies_evolves _, evolves_refl tokenSucceeds_refl⟩
  | setTenantBinding accountId sessionId tenantBinding now =>
    obtain rfl := congrArg Prod.fst (Option.some.inj hperform)
    refine ⟨?_, evolves_refl familySucceeds_refl, evolves_refl tokenSucceeds_refl⟩
    refine evolves_update sessionSucceeds_refl fun row _ hbindable ↦ ?_
    have hunbound : row.tenantBinding = none := by
      unfold isBindable at hbindable
      exact (of_decide_eq_true hbindable).2.2.2
    exact ⟨rfl, rfl, rfl, fun h ↦ h, fun hbound ↦ absurd hunbound hbound⟩
  | rebindSession accountId oldSessionId reason bundle now =>
    match answer, hperform with
    | false, hperform =>
      rw [rebindSession_eq_false hperform]
      exact advances_refl _ store
    | true, hperform =>
      obtain ⟨revoked, hrevoked, hinserted⟩ := rebindSession_eq_true hperform
      obtain ⟨_, _, hsessions, hfamilies, htokens, _⟩ := insertBundle_eq_some hinserted
      rw [revokeSession_tokens hrevoked] at htokens
      exact ⟨(revokeSession_sessions hrevoked).trans SessionSucceeds.trans (fun _ _ h ↦ h.id)
          (evolves_insert sessionSucceeds_refl ⟨bundle, rfl, rfl⟩ hsessions),
        (revokeSession_families hrevoked).trans FamilySucceeds.trans (fun _ _ h ↦ h.id)
          (evolves_insert familySucceeds_refl ⟨bundle, rfl, rfl⟩ hfamilies),
        evolves_insert tokenSucceeds_refl ⟨bundle.firstToken, rfl, rfl⟩ htokens⟩
  | findTokenAndFamily tokenHash =>
    obtain rfl := congrArg Prod.fst (Option.some.inj hperform)
    exact advances_refl _ store
  | rotateToken accountId presentedTokenId successor now =>
    match answer, hperform with
    | false, hperform =>
      rw [rotateToken_eq_false hperform]
      exact advances_refl _ store
    | true, hperform =>
      obtain ⟨_, _, _, _, hsessions, hfamilies, _⟩ := rotateToken_eq_true hperform
      refine ⟨?_, ?_, (rotateToken_evolves hperform).mono fun row hrow ↦ ⟨successor, rfl, hrow⟩⟩
      · rw [hsessions]
        exact evolves_refl sessionSucceeds_refl
      · rw [hfamilies]
        exact evolves_refl familySucceeds_refl
  | revokeFamilyAndSession accountId familyId sessionId reason now =>
    obtain rfl := congrArg Prod.fst (Option.some.inj hperform)
    exact ⟨markSessions_evolves _, markFamilies_evolves _, evolves_refl tokenSucceeds_refl⟩

end SessionStore

end Karar.Identity
