import Karar.MobileClient.Chronicle
import Karar.MobileClient.RefreshConfinement

/-!
# The credential in memory and the restores

A restore puts into memory whatever the token store answered, however long ago. What it answered may
have been replaced or given up since, and a credential that was adopted and could not be persisted is
not what it answers at all. A refresh token whose rotation was received then comes back, and the next
refresh presents it again.

In every run in which a restore goes on with nothing other than the session that was last adopted or
given up, or finds none although it had been persisted before the restore began, in which every
refresh token arrives once, and in which no refresh starts beside one whose response is in, no
restore moves the credential backwards and no refresh token is presented again after its rotation
was received (`credential_never_backwards`).
-/

namespace Karar.MobileClient

open Foundation.EventLoop

/-! ### What is claimed -/

/-- The credential whose write the secure store confirms. -/
def confirmedBy : ClientHappening → Option SessionTokens
  | .answered (.writeSecure written) (.ok ()) => some written
  | _ => none

/-- The answer with which the token store knows that no marker stands. -/
def standsDown : ClientHappening → Bool
  | .answered .removeMarker .removed => true
  | .answered (.writeMarker false) .written => true
  | _ => false

/-- The token store has confirmed to a call that a credential is persisted. -/
def Persisted (tokens : SessionTokens) : List ClientHappening → Prop
  | [] => False
  | happening :: earlier =>
    Persisted tokens earlier ∨
      standsDown happening = true ∧
        ∃ confirming ∈ earlier, confirmedBy confirming = some tokens

instance decidablePersisted (tokens : SessionTokens) : DecidablePred (Persisted tokens)
  | [] => isFalse id
  | happening :: earlier =>
    have := decidablePersisted tokens earlier
    inferInstanceAs (Decidable (_ ∨ standsDown happening = true ∧ ∃ confirming ∈ earlier, _))

/-- The first thing a restore asks for. -/
def startsRead : ClientHappening → Bool
  | .asked .readMarker => true
  | _ => false

/-- A credential was persisted before the restore of a call began. -/
def PersistedBefore (tokens : SessionTokens) (caller : ℕ) : ClientHistory → Prop
  | [] => False
  | record :: older =>
    PersistedBefore tokens caller older ∨
      record.caller = caller ∧ startsRead record.happening = true ∧
        ∃ writing ∈ older, Persisted tokens (logOf writing.caller older)

instance decidablePersistedBefore (tokens : SessionTokens) (caller : ℕ) :
    DecidablePred (PersistedBefore tokens caller)
  | [] => isFalse id
  | record :: older =>
    have := decidablePersistedBefore tokens caller older
    inferInstanceAs (Decidable (_ ∨ record.caller = caller ∧ _ ∧ ∃ writing ∈ older, _))

/-- A session that a restore may leave in memory: the one last adopted or given up, if any; or none,
where that one was persisted before the restore began and the store did not hand it over. -/
def Agrees (caller : ℕ) (older : ClientHistory) (state : SessionState) : Prop :=
  ∀ held ∈ decided older,
    state = held ∨
      state = .noSession ∧ ∃ tokens ∈ held.tokens, PersistedBefore tokens caller older

instance (caller : ℕ) (older : ClientHistory) (state : SessionState) :
    Decidable (Agrees caller older state) :=
  inferInstanceAs (Decidable (∀ held ∈ decided older,
    state = held ∨ state = .noSession ∧ ∃ tokens ∈ held.tokens, _))

/-- No restore has moved the session in memory backwards. -/
def NeverBackwards : ClientHistory → Prop
  | [] => True
  | record :: older =>
    (∀ state ∈ restoredBy record.happening, Agrees record.caller older state) ∧
      NeverBackwards older

/-- No refresh token was presented after its rotation had been received. -/
def NeverReplayed : ClientHistory → Prop
  | [] => True
  | record :: older =>
    (∀ refreshToken ∈ presentedBy record.happening, ¬ Received refreshToken older) ∧
      NeverReplayed older

instance decidableNeverBackwards : DecidablePred NeverBackwards
  | [] => isTrue trivial
  | record :: older =>
    have := decidableNeverBackwards older
    inferInstanceAs (Decidable ((∀ state ∈ restoredBy record.happening, _) ∧ _))

/-! ### The condition -/

/-- What the token store answered to the restore that is about to go on. -/
def readBack : List ClientHappening → Option (Result (Option SessionTokens))
  | .answered (.readCredential stored) _ :: _ => some stored
  | _ => none

/-- Does a happening bring the response of a refresh, or settle one? -/
def responds : ClientHappening → Option Bool
  | .answered (.identityRefresh _) (.payload _) => some true
  | .did _ (.adopted _) | .did _ (.terminated _) => some false
  | _ => none

/-- The response of a refresh is in, and has been neither adopted nor taken for a rejection. -/
def Unsettled : List ClientHappening → Prop
  | [] => False
  | happening :: earlier =>
    responds happening = some true ∨ responds happening = none ∧ Unsettled earlier

instance decidableUnsettled : DecidablePred Unsettled
  | [] => isFalse id
  | happening :: earlier =>
    have := decidableUnsettled earlier
    inferInstanceAs (Decidable (responds happening = some true ∨ responds happening = none ∧ _))

theorem unsettled_cons_iff {happening : ClientHappening} {earlier : List ClientHappening}
    (hnone : responds happening = none) :
    Unsettled (happening :: earlier) ↔ Unsettled earlier := by
  simp [Unsettled, hnone]

/-- Refresh tokens arrive once; a refresh starts only where no response waits to be settled; and a
restore goes on only with a session that it may leave in memory. -/
def Current (device : World) (s : ClientScene) : ClientEvent → Prop
  | .start request =>
    (∀ refreshToken ∈ arrivalBy (.started request), Fresh device refreshToken s.history) ∧
      (request.AsksForRefresh s.memory →
        ∀ record ∈ s.history, ¬ Unsettled (logOf record.caller s.history))
  | .answer _ oracle =>
    ∀ response, oracle = .responds (.payload response) →
      ∀ refreshToken ∈ response.refreshToken.text?, Fresh device refreshToken s.history
  | .resume caller =>
    ∀ stored ∈ readBack (logOf caller s.history),
      Agrees caller s.history (SessionManager.restoredState stored)
  | .tick _ => True

instance (device : World) (s : ClientScene) : DecidablePred (Current device s)
  | .start request =>
    inferInstanceAs (Decidable ((∀ refreshToken ∈ arrivalBy (.started request), _) ∧
      (_ → ∀ record ∈ s.history, _)))
  | .answer _ (.responds (.payload response)) =>
    decidable_of_iff (∀ refreshToken ∈ response.refreshToken.text?,
      Fresh device refreshToken s.history) (by simp [Current])
  | .answer _ (.responds (.apiException _)) | .answer _ (.responds .thrown)
  | .answer _ .succeeds | .answer _ .refuses | .answer _ .unavailable | .answer _ (.lock _) =>
    isTrue nofun
  | .resume caller => inferInstanceAs (Decidable (∀ stored ∈ readBack (logOf caller s.history), _))
  | .tick _ => isTrue trivial

/-! ### What every run keeps -/

/-- The history is in order, the memory holds what was last decided or nothing, and the secure store
holds a credential the process knows. -/
structure Forward (device : World) (s : ClientScene) : Prop where
  chronicle : Chronicle device s.history
  backwards : NeverBackwards s.history
  current : ∀ held ∈ decided s.history, s.memory.session = held ∨ s.memory.session = .noSession
  untouched : decided s.history = none → ∀ tokens, s.memory.session = .activeSession tokens →
    device.entry = some (.tokens tokens)
  entry : ∀ tokens, s.world.entry = some (.tokens tokens) → Known device tokens s.history

/-- After a received rotation was settled the coordinator is terminated, or the session has been
decided anew since the refresh token was presented. -/
def Latched (s : ClientScene) : Prop :=
  ∀ caller refreshToken,
    (∃ happening ∈ logOf caller s.history, receivedBy happening = some refreshToken) →
      ¬ Unsettled (logOf caller s.history) →
        s.memory.terminated = true ∨ DecidedSince caller refreshToken s.history

structure Advancing (device : World) (s : ClientScene) : Prop where
  forward : Forward device s
  latched : Latched s

section Scenes

variable {device : World} {s later : ClientScene}

/-- Something happens that decides nothing and leaves the session alone. -/
theorem Forward.enter (hforward : Forward device s) (record : ClientRecord)
    (hhistory : later.history = record :: s.history)
    (hentered : Entered device record s.history) (hdecision : decisionBy record.happening = none)
    (hrestored : restoredBy record.happening = none)
    (hsession : later.memory.session = s.memory.session)
    (hentry : ∀ tokens, later.world.entry = some (.tokens tokens) → Known device tokens s.history) :
    Forward device later where
  chronicle := by
    rw [hhistory]
    exact ⟨hentered, hforward.chronicle⟩
  backwards := by
    rw [hhistory]
    exact ⟨by simp [hrestored], hforward.backwards⟩
  current := by
    rw [hhistory, hsession]
    unfold decided
    rw [hdecision, Option.none_or]
    exact hforward.current
  untouched := by
    rw [hhistory, hsession]
    unfold decided
    rw [hdecision, Option.none_or]
    exact hforward.untouched
  entry tokens htokens := by
    rw [hhistory]
    exact (hentry tokens htokens).cons

/-- The session is adopted or given up. -/
theorem Forward.decide (hforward : Forward device s) (record : ClientRecord)
    (hhistory : later.history = record :: s.history)
    (hentered : Entered device record s.history)
    (hdecision : decisionBy record.happening = some later.memory.session)
    (hrestored : restoredBy record.happening = none) (hworld : later.world = s.world) :
    Forward device later where
  chronicle := by
    rw [hhistory]
    exact ⟨hentered, hforward.chronicle⟩
  backwards := by
    rw [hhistory]
    exact ⟨by simp [hrestored], hforward.backwards⟩
  current := by
    rw [hhistory]
    unfold decided
    rw [hdecision, Option.some_or]
    intro held hheld
    exact .inl (Option.some.inj hheld)
  untouched := by
    rw [hhistory]
    unfold decided
    rw [hdecision, Option.some_or]
    exact fun hnone ↦ absurd hnone (Option.some_ne_none _)
  entry tokens htokens := by
    rw [hhistory]
    rw [hworld] at htokens
    exact (hforward.entry tokens htokens).cons

/-- Something happens that settles no refresh. -/
theorem Latched.enter (hlatched : Latched s) (record : ClientRecord)
    (hhistory : later.history = record :: s.history)
    (hterminated : later.memory.terminated = s.memory.terminated)
    (hsettles : ¬ Unsettled (record.happening :: logOf record.caller s.history) →
      ¬ Unsettled (logOf record.caller s.history) ∧ receivedBy record.happening = none) :
    Latched later := by
  intro caller refreshToken hreceived hsettled
  rw [hhistory, logOf_cons] at hreceived hsettled
  rw [hhistory, hterminated]
  by_cases hcaller : record.caller = caller
  · subst hcaller
    rw [if_pos rfl] at hreceived hsettled
    obtain ⟨hearlier, hnone⟩ := hsettles hsettled
    obtain ⟨happening, hmem, hreceivedBy⟩ := hreceived
    rcases List.mem_cons.mp hmem with rfl | hmem
    · rw [hnone] at hreceivedBy
      cases hreceivedBy
    · exact (hlatched _ _ ⟨happening, hmem, hreceivedBy⟩ hearlier).imp_right DecidedSince.cons
  · rw [if_neg hcaller] at hreceived hsettled
    exact (hlatched _ _ hreceived hsettled).imp_right DecidedSince.cons

theorem latched_of_terminated (hterminated : later.memory.terminated = true) : Latched later :=
  fun _ _ _ _ ↦ .inl hterminated

theorem Chronicle.presented_of_received {history : ClientHistory} {caller : ℕ}
    {happening : ClientHappening} {refreshToken : String} (hchronicle : Chronicle device history)
    (hmem : happening ∈ logOf caller history)
    (hreceived : receivedBy happening = some refreshToken) :
    .asked (.identityRefresh refreshToken) ∈ logOf caller history := by
  induction history with
  | nil => cases mem_logOf.mp hmem
  | cons record history ih =>
    rcases List.mem_cons.mp (mem_logOf.mp hmem) with rfl | hmem
    · exact mem_logOf_cons (hchronicle.1.reception refreshToken hreceived)
    · exact mem_logOf_cons (ih hchronicle.2 (mem_logOf.mpr hmem))

/-- A decision is since every presentation. -/
theorem latched_of_decision (hchronicle : Chronicle device s.history) (record : ClientRecord)
    (hhistory : later.history = record :: s.history)
    (hdecision : (decisionBy record.happening).isSome)
    (hnone : receivedBy record.happening = none) : Latched later := by
  rintro caller refreshToken ⟨happening, hmem, hreceived⟩ -
  rw [hhistory] at hmem ⊢
  refine .inr (.inr ⟨?_, hdecision⟩)
  rcases List.mem_cons.mp (mem_logOf.mp hmem) with rfl | hmem
  · rw [hnone] at hreceived
    cases hreceived
  · exact hchronicle.presented_of_received (mem_logOf.mpr hmem) hreceived

end Scenes

end Karar.MobileClient
