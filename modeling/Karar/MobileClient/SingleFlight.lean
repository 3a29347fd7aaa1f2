import Karar.MobileClient.MemoryForward

/-!
# One refresh at a time within a session

While a session is neither signed out, nor reset, nor replaced by another one, the callers of
`ensureUsable` and `refreshAfterRejection` share one refresh. The refresh in flight holds the slot
from the moment its token is presented until its outcome is settled, so no second one is presented in
between, and the terminal latch keeps every later one away.

What the latch does not keep away is the refresh that is already in flight. A caller that finds the
chain aged out ends the session although a refresh of it is still running; if that refresh succeeds,
its tokens are adopted into the session that has ended.
-/

namespace Karar.MobileClient

open Foundation.EventLoop

/-! ### What is claimed -/

/-- The session that an assignment leaves in memory. -/
def sessionBy : ClientHappening → Option SessionState
  | .did before assignment => some (assignment.perform before).session
  | .started _ | .asked _ | .answered _ _ => none

/-- The session in memory after a history, in a process that began with a session. -/
def sessionOf (first : SessionTokens) (history : ClientHistory) : SessionState :=
  (history.findSome? fun record ↦ sessionBy record.happening).getD (.activeSession first)

/-- A refresh call presents the refresh token of the current credential. -/
def PresentsCurrent (first : SessionTokens) (record : ClientRecord) (older : ClientHistory) : Prop :=
  ∀ refreshToken ∈ presentedBy record.happening,
    (sessionOf first older).tokens.map (·.refreshToken) = some refreshToken

/-- The refresh function answers that the chain is rejected. -/
def IsRejection : ClientHappening → Prop
  | .asked (.refreshed (.result (.error failure))) =>
    TokenRefreshCoordinator.isTerminal failure = true
  | _ => False

/-- The coordinator gives the chain up. -/
def GivesUp : ClientHappening → Prop
  | .did _ (.terminated isTerminated) => isTerminated = true
  | _ => False

def GivenUp (history : ClientHistory) : Prop :=
  ∃ record ∈ history, GivesUp record.happening

/-- No refresh call is issued after the chain was rejected or given up. -/
def SilentOnceOver (record : ClientRecord) (older : ClientHistory) : Prop :=
  (∃ earlier ∈ older, IsRejection earlier.happening ∨ GivesUp earlier.happening) →
    presentedBy record.happening = none

def isEnding : ClientHappening → Bool
  | .did _ .ended => true
  | _ => false

/-- How often the session was ended. -/
def endings (history : ClientHistory) : ℕ :=
  history.countP fun record ↦ isEnding record.happening

/-- The refresh of a call is complete, and the call has not gone on yet. -/
def Waiting : List ClientHappening → Prop
  | .asked (.refreshed _) :: _ | .answered (.refreshed _) _ :: _ => True
  | _ => False

/-- A refresh fails on the way, without an answer about the chain. -/
def FailsOnTheWay : ClientHappening → Prop
  | .answered (.identityRefresh _) (.apiException failure) =>
    TokenRefreshCoordinator.isTerminal failure = false
  | .answered (.identityRefresh _) .thrown => True
  | _ => False

def Failed (caller : ℕ) (history : ClientHistory) : Prop :=
  ∃ happening ∈ logOf caller history, FailsOnTheWay happening

/-- The credential that a caller of the coordinator observed. -/
def Request.observed : Request → Option SessionTokens
  | ensureUsable observed | refreshAfterRejection observed => some observed
  | _ => none

/-- The check with which `ensureUsable` finds that the chain has aged out. -/
def FindsAgedOut (m : Memory) (observed : SessionTokens) : Prop :=
  m.terminated = false ∧ ∃ current, m.session = .activeSession current ∧
    current.accessToken = observed.accessToken ∧ current.IsAccessTokenExpired m.now ∧
      current.IsRefreshTokenExpired m.now

/-- The process after a request that is answered with the current credential, and without a call. -/
def answeredAtOnce (p : ClientProcess) (request : Request) (current : SessionTokens) :
    ClientProcess :=
  ⟨p.scene.notes p.calls.length (.started request),
    p.calls ++ [⟨request, .suspended (.pure (.refresh (.result (.ok current))))⟩]⟩

/-- An event of a call. -/
def IsEventOf (caller : ℕ) : ClientEvent → Prop
  | .answer other _ | .resume other => other = caller
  | .start _ | .tick _ => False

/-- Single flight and no refresh loop, in a process that began with a session. -/
structure SingleFlight (first : SessionTokens) (p : ClientProcess) : Prop where
  single : AtMostOneInFlight p.scene.history
  session : p.scene.memory.session = sessionOf first p.scene.history
  presents : Throughout (PresentsCurrent first) p.scene.history
  neverReplayed : NeverReplayed p.scene.history
  replaced : ∀ request observed current, request.observed = some observed →
    p.scene.memory.session = .activeSession current →
    current.accessToken ≠ observed.accessToken →
    client.step p (.start request) = some (answeredAtOnce p request current)
  endedOnce : GivenUp p.scene.history → endings p.scene.history = 1
  notEnded : ¬ GivenUp p.scene.history → endings p.scene.history = 0
  rejected : ∀ record ∈ p.scene.history, IsRejection record.happening →
    ¬ Waiting (logOf record.caller p.scene.history) → GivenUp p.scene.history
  agedOut : ∀ observed later, FindsAgedOut p.scene.memory observed →
    client.step p (.start (.ensureUsable observed)) = some later → GivenUp later.scene.history
  silent : Throughout SilentOnceOver p.scene.history
  transient : ∀ caller event later, IsEventOf caller event → client.step p event = some later →
    Failed caller later.scene.history →
      later.scene.memory.session = p.scene.memory.session ∧ later.scene.world = p.scene.world

/-! ### The runs -/

/-- A refresh token that is neither the first one nor one that has arrived since. -/
def Unseen (first : SessionTokens) (refreshToken : String) (history : ClientHistory) : Prop :=
  first.refreshToken ≠ refreshToken ∧
    ∀ record ∈ history, arrivalBy record.happening ≠ some refreshToken

/-- Only callers of the coordinator, and only successes with new tokens. -/
def Undisturbed (first : SessionTokens) (s : ClientScene) : ClientEvent → Prop
  | .start request => request.IsRefresh
  | .answer _ oracle =>
    ∀ payload, oracle = .responds (.payload payload) → ∀ sessionId tokens,
      payload.decode sessionId = .ok tokens → Unseen first tokens.refreshToken s.history
  | .resume _ | .tick _ => True

/-- The outcome of a refresh that has brought tokens. -/
def Succeeds : RefreshOutcome → Prop
  | .result (.ok _) => True
  | .result (.error _) | .thrown => False

instance : DecidablePred Succeeds
  | .result (.ok _) => isTrue trivial
  | .result (.error _) | .thrown => isFalse id

/-- A refresh that has succeeded goes on before the chain is given up. -/
def BeforeGivenUp (s : ClientScene) : ClientEvent → Prop
  | .resume caller => ∀ outcome ∈ settled (logOf caller s.history), Succeeds outcome →
    s.memory.terminated = false
  | .start _ | .answer _ _ | .tick _ => True

instance (s : ClientScene) : DecidablePred (BeforeGivenUp s)
  | .resume caller => inferInstanceAs (Decidable (∀ outcome ∈ settled (logOf caller s.history), _))
  | .start _ | .answer _ _ | .tick _ => isTrue trivial

def Within (first : SessionTokens) (s : ClientScene) (event : ClientEvent) : Prop :=
  Undisturbed first s event ∧ BeforeGivenUp s event

/-! ### How far a refresh has come -/

/-- Does an assignment take the slot of the refresh in flight, or empty it? -/
def slotBy : ClientHappening → Option Bool
  | .did _ (.inFlight flight) => some flight.isSome
  | _ => none

/-- A call has taken the slot and has not emptied it. -/
def Holding (log : List ClientHappening) : Prop :=
  log.findSome? slotBy = some true

/-- The response that a happening brings, or settles. -/
def rotationBy : ClientHappening → Option (Option SessionPayload)
  | .answered (.identityRefresh _) (.payload payload) => some (some payload)
  | .did _ (.adopted _) | .did _ (.terminated _) => some none
  | _ => none

/-- The response that a call has received and not settled. -/
def rotationOf (log : List ClientHappening) : Option SessionPayload :=
  (log.findSome? rotationBy).join

def Presented (refreshToken : String) (history : ClientHistory) : Prop :=
  ∃ record ∈ history, presentedBy record.happening = some refreshToken

section Logs

variable {happening : ClientHappening} {log : List ClientHappening}

theorem holding_cons_iff (hnone : slotBy happening = none) :
    Holding (happening :: log) ↔ Holding log := by
  simp [Holding, hnone]

theorem rotationOf_cons (hnone : rotationBy happening = none) :
    rotationOf (happening :: log) = rotationOf log := by
  simp [rotationOf, hnone]

theorem rotationOf_cons_settled (hsettled : rotationBy happening = some none) :
    rotationOf (happening :: log) = none := by
  simp [rotationOf, hsettled]

end Logs

section History

variable {first : SessionTokens} {refreshToken : String} {record : ClientRecord}
  {history : ClientHistory}

theorem sessionOf_cons_of_none (hnone : sessionBy record.happening = none) :
    sessionOf first (record :: history) = sessionOf first history := by
  simp [sessionOf, hnone]

theorem sessionOf_cons_of_some {state : SessionState}
    (hsome : sessionBy record.happening = some state) :
    sessionOf first (record :: history) = state := by
  simp [sessionOf, hsome]

theorem Presented.cons (hpresented : Presented refreshToken history) :
    Presented refreshToken (record :: history) := by
  obtain ⟨presenting, hmem, htoken⟩ := hpresented
  exact ⟨presenting, List.mem_cons_of_mem _ hmem, htoken⟩

theorem presented_cons_iff (hnone : presentedBy record.happening = none) :
    Presented refreshToken (record :: history) ↔ Presented refreshToken history := by
  simp [Presented, hnone]

theorem received_cons_iff (hnone : receivedBy record.happening = none) :
    Received refreshToken (record :: history) ↔ Received refreshToken history := by
  simp [Received, hnone]

theorem Unseen.of_cons (hunseen : Unseen first refreshToken (record :: history)) :
    Unseen first refreshToken history :=
  ⟨hunseen.1, fun earlier hearlier ↦ hunseen.2 earlier (List.mem_cons_of_mem _ hearlier)⟩

end History

/-! ### What every run keeps -/

/-- The calls that hold the slot. -/
structure Slot (s : ClientScene) : Prop where
  holder : ∀ caller, Holding (logOf caller s.history) → s.memory.inFlight = some caller
  flying : ∀ caller, InFlight caller s.history → Holding (logOf caller s.history)

/-- The refresh tokens that were presented, received and adopted. -/
structure Rotations (first : SessionTokens) (s : ClientScene) : Prop where
  session : s.memory.session = sessionOf first s.history
  presents : Throughout (PresentsCurrent first) s.history
  neverReplayed : NeverReplayed s.history
  seen : ∀ refreshToken, Presented refreshToken s.history → ¬ Unseen first refreshToken s.history
  current : ∀ tokens, s.memory.session = .activeSession tokens →
    ¬ Unseen first tokens.refreshToken s.history
  spent : ∀ tokens, s.memory.session = .activeSession tokens →
    Received tokens.refreshToken s.history →
      s.memory.terminated = true ∨ ∃ caller, (rotationOf (logOf caller s.history)).isSome
  presented : ∀ refreshToken, Received refreshToken s.history → Presented refreshToken s.history
  /-- A call that has received a response holds the slot, and its tokens are new. -/
  pending : ∀ caller, ∀ payload ∈ rotationOf (logOf caller s.history),
    Holding (logOf caller s.history) ∧ ∀ sessionId tokens, payload.decode sessionId = .ok tokens →
      ¬ Presented tokens.refreshToken s.history ∧ ¬ Unseen first tokens.refreshToken s.history

/-- The end of the session. -/
structure Ending (s : ClientScene) : Prop where
  rejected : ∀ record ∈ s.history, IsRejection record.happening → s.memory.terminated = true ∨
    Holding (logOf record.caller s.history) ∧ Waiting (logOf record.caller s.history)
  silent : Throughout SilentOnceOver s.history
  live : s.memory.terminated = false →
    ¬ GivenUp s.history ∧ endings s.history = 0 ∧ s.memory.session ≠ .noSession
  ended : s.memory.terminated = true →
    GivenUp s.history ∧ endings s.history = 1 ∧ s.memory.session = .noSession

/-- A refresh whose outcome brings neither tokens nor a rejection. -/
def ComesToNothing : RefreshOutcome → Prop
  | .result (.ok _) => False
  | .result (.error failure) => TokenRefreshCoordinator.isTerminal failure = false
  | .thrown => True

/-- What a call may still do after its refresh has failed on the way. -/
def LeavesAlone : ClientHappening → Prop
  | .did before assignment => (assignment.perform before).session = before.session
  | .asked (.refreshed outcome) | .answered (.refreshed outcome) _ => ComesToNothing outcome
  | .started _ | .answered _ _ => True
  | .asked _ => False

def IdleOnceFailed (record : ClientRecord) (older : ClientHistory) : Prop :=
  Failed record.caller older → LeavesAlone record.happening

structure Flow (first : SessionTokens) (s : ClientScene) : Prop where
  slot : Slot s
  rotations : Rotations first s
  ending : Ending s
  idle : Throughout IdleOnceFailed s.history

section Scenes

variable {first : SessionTokens} {s later : ClientScene} {caller : ℕ} {record : ClientRecord}
  {happening : ClientHappening}

/-! ### The slot -/

theorem holding_enter {history : ClientHistory} (hslot : slotBy record.happening = none) :
    Holding (logOf caller (record :: history)) ↔ Holding (logOf caller history) := by
  rw [logOf_cons]
  split_ifs with hcaller
  · rw [holding_cons_iff hslot]
  · rfl

theorem rotationOf_enter {history : ClientHistory} (hrotation : rotationBy record.happening = none) :
    rotationOf (logOf caller (record :: history)) = rotationOf (logOf caller history) := by
  rw [logOf_cons]
  split_ifs with hcaller
  · exact rotationOf_cons hrotation
  · rfl

theorem Slot.enter (hslot : Slot s) (record : ClientRecord)
    (hhistory : later.history = record :: s.history)
    (hnone : slotBy record.happening = none) (hflight : later.memory.inFlight = s.memory.inFlight)
    (hasks : AsksRefresh record.happening → Holding (logOf record.caller s.history)) :
    Slot later := by
  constructor
  · intro caller hholding
    rw [hhistory, holding_enter hnone] at hholding
    rw [hflight]
    exact hslot.holder caller hholding
  · intro caller hinFlight
    rw [hhistory] at hinFlight ⊢
    rw [holding_enter hnone]
    by_cases hcaller : record.caller = caller
    · subst hcaller
      exact hasks (inFlight_cons_self.mp hinFlight)
    · exact hslot.flying caller ((inFlight_cons_of_ne hcaller).mp hinFlight)

/-- A slot that is empty is held by none. -/
theorem Slot.not_holding (hslot : Slot s) (hempty : s.memory.inFlight = none) :
    ¬ Holding (logOf caller s.history) := by
  intro hholding
  rw [hslot.holder caller hholding] at hempty
  cases hempty

theorem Slot.acts_take (hslot : Slot s) (hempty : s.memory.inFlight = none) :
    Slot (client.acts caller (.inFlight (some caller)) s) := by
  constructor
  · intro other hholding
    by_cases hcaller : caller = other
    · rw [hcaller]
      rfl
    · rw [Loop.acts_history, logOf_cons_of_ne hcaller] at hholding
      exact absurd hholding (hslot.not_holding hempty)
  · intro other hinFlight
    by_cases hcaller : caller = other
    · subst hcaller
      exact (inFlight_cons_self.mp hinFlight).elim
    · have hother := hslot.flying other ((inFlight_cons_of_ne hcaller).mp hinFlight)
      exact absurd hother (hslot.not_holding hempty)

theorem Slot.acts_release (hslot : Slot s) (hholding : Holding (logOf caller s.history)) :
    Slot (client.acts caller (.inFlight none) s) := by
  have hothers : ∀ other, caller ≠ other → ¬ Holding (logOf other s.history) := by
    intro other hne hother
    have hsame := (hslot.holder caller hholding).symm.trans (hslot.holder other hother)
    exact hne (Option.some.inj hsame)
  constructor
  · intro other hlater
    rw [Loop.acts_history] at hlater
    by_cases hcaller : caller = other
    · subst hcaller
      have hemptied : slotBy (.did s.memory (.inFlight none)) = some false := rfl
      rw [logOf_cons_self, Holding, List.findSome?_cons, hemptied] at hlater
      cases hlater
    · rw [logOf_cons_of_ne hcaller] at hlater
      exact absurd hlater (hothers other hcaller)
  · intro other hinFlight
    by_cases hcaller : caller = other
    · subst hcaller
      exact (inFlight_cons_self.mp hinFlight).elim
    · have hother := hslot.flying other ((inFlight_cons_of_ne hcaller).mp hinFlight)
      exact absurd hother (hothers other hcaller)

/-! ### The rotations -/

theorem Rotations.enter (hrotations : Rotations first s) (record : ClientRecord)
    (hhistory : later.history = record :: s.history)
    (hpresented : presentedBy record.happening = none)
    (hreceived : receivedBy record.happening = none)
    (hsessionOf : later.memory.session = sessionOf first later.history)
    (hsession : later.memory.session = s.memory.session ∨ later.memory.session = .noSession)
    (hterminated : s.memory.terminated = true → later.memory.terminated = true)
    (hrotation : rotationBy record.happening = none ∨
      rotationBy record.happening = some none ∧ later.memory.terminated = true)
    (hslot : slotBy record.happening ≠ some false ∨
      rotationOf (logOf record.caller s.history) = none) :
    Rotations first later := by
  have hearlier : ∀ caller, ∀ payload ∈ rotationOf (logOf caller later.history),
      payload ∈ rotationOf (logOf caller s.history) := by
    intro caller payload hpayload
    rcases hrotation with hnone | ⟨hsettled, -⟩
    · rwa [hhistory, rotationOf_enter hnone] at hpayload
    · rw [hhistory, logOf_cons] at hpayload
      split_ifs at hpayload with hcaller
      · rw [rotationOf_cons_settled hsettled] at hpayload
        cases hpayload
      · exact hpayload
  have hheld : ∀ tokens, later.memory.session = .activeSession tokens →
      s.memory.session = .activeSession tokens := by
    intro tokens htokens
    rcases hsession with hsame | hnone
    · rw [← hsame, htokens]
    · rw [hnone] at htokens
      cases htokens
  have hunseen : ∀ {refreshToken}, ¬ Unseen first refreshToken s.history →
      ¬ Unseen first refreshToken later.history := by
    intro refreshToken hseen hunseen
    rw [hhistory] at hunseen
    exact hseen hunseen.of_cons
  refine ⟨hsessionOf, ?_, ?_, ?_, ?_, ?_, ?_, ?_⟩
  · rw [hhistory]
    exact ⟨by simp [PresentsCurrent, hpresented], hrotations.presents⟩
  · rw [hhistory]
    exact ⟨by simp [hpresented], hrotations.neverReplayed⟩
  · intro refreshToken htoken
    rw [hhistory, presented_cons_iff hpresented] at htoken
    exact hunseen (hrotations.seen refreshToken htoken)
  · intro tokens htokens
    exact hunseen (hrotations.current tokens (hheld tokens htokens))
  · intro tokens htokens htoken
    rw [hhistory, received_cons_iff hreceived] at htoken
    rcases hrotation with hnone | ⟨-, hover⟩
    · rcases hrotations.spent tokens (hheld tokens htokens) htoken with hover | ⟨caller, hpending⟩
      · exact .inl (hterminated hover)
      · refine .inr ⟨caller, ?_⟩
        rwa [hhistory, rotationOf_enter hnone]
    · exact .inl hover
  · intro refreshToken htoken
    rw [hhistory, received_cons_iff hreceived] at htoken
    rw [hhistory]
    exact (hrotations.presented refreshToken htoken).cons
  · intro caller payload hpayload
    obtain ⟨hholding, hnew⟩ := hrotations.pending caller payload (hearlier caller payload hpayload)
    refine ⟨?_, fun sessionId tokens hdecode ↦ ?_⟩
    · rw [hhistory, logOf_cons]
      split_ifs with hcaller
      · subst hcaller
        rcases hslot with hslot | hnone
        · unfold Holding at hholding ⊢
          rw [List.findSome?_cons]
          split
          · rename_i taken htaken
            cases taken with
            | true => rfl
            | false => exact absurd htaken hslot
          · exact hholding
        · rw [hearlier _ payload hpayload] at hnone
          cases hnone
      · exact hholding
    · obtain ⟨hnot, hseen⟩ := hnew sessionId tokens hdecode
      refine ⟨?_, hunseen hseen⟩
      rw [hhistory, presented_cons_iff hpresented]
      exact hnot

/-- A response is settled with the tokens that it brought. -/
theorem Rotations.acts_adopt (hrotations : Rotations first s) {payload : SessionPayload}
    {sessionId : Option String} {tokens : SessionTokens}
    (hpending : payload ∈ rotationOf (logOf caller s.history))
    (hdecode : payload.decode sessionId = .ok tokens) :
    Rotations first (client.acts caller (.adopted tokens) s) := by
  obtain ⟨hnot, hseen⟩ := (hrotations.pending caller payload hpending).2 sessionId tokens hdecode
  have hunseen : ∀ {refreshToken}, ¬ Unseen first refreshToken s.history →
      ¬ Unseen first refreshToken (client.acts caller (.adopted tokens) s).history :=
    fun hseen hunseen ↦ hseen hunseen.of_cons
  refine ⟨rfl, ⟨nofun, hrotations.presents⟩, ⟨nofun, hrotations.neverReplayed⟩, ?_, ?_, ?_, ?_, ?_⟩
  · intro refreshToken htoken
    exact hunseen (hrotations.seen refreshToken ((presented_cons_iff rfl).mp htoken))
  · intro held hheld
    rw [← SessionState.activeSession.inj hheld]
    exact hunseen hseen
  · intro held hheld htoken
    rw [← SessionState.activeSession.inj hheld, Loop.acts_history, received_cons_iff rfl] at htoken
    exact absurd (hrotations.presented _ htoken) hnot
  · intro refreshToken htoken
    rw [Loop.acts_history, received_cons_iff rfl] at htoken
    exact (hrotations.presented refreshToken htoken).cons
  · intro other earlier hearlier
    rw [Loop.acts_history, logOf_cons] at hearlier
    split_ifs at hearlier with hcaller
    · rw [rotationOf_cons_settled rfl] at hearlier
      cases hearlier
    · obtain ⟨hholding, hnew⟩ := hrotations.pending other earlier hearlier
      rw [Loop.acts_history, holding_enter rfl]
      refine ⟨hholding, fun sessionId tokens hdecode ↦ ?_⟩
      obtain ⟨hnot, hseen⟩ := hnew sessionId tokens hdecode
      rw [presented_cons_iff rfl]
      exact ⟨hnot, hunseen hseen⟩

/-- The refresh token of the current credential is presented, while no response is unsettled. -/
theorem Rotations.present (hrotations : Rotations first s) {current : SessionTokens}
    (hsession : s.memory.session = .activeSession current) (hlive : s.memory.terminated = false)
    (hnone : ∀ other, rotationOf (logOf other s.history) = none) :
    Rotations first (s.notes caller (.asked (.identityRefresh current.refreshToken))) := by
  have hunseen : ∀ {refreshToken}, ¬ Unseen first refreshToken s.history →
      ¬ Unseen first refreshToken
        (s.notes caller (.asked (.identityRefresh current.refreshToken))).history :=
    fun hseen hunseen ↦ hseen hunseen.of_cons
  refine ⟨?_, ⟨?_, hrotations.presents⟩, ⟨?_, hrotations.neverReplayed⟩, ?_, ?_, ?_, ?_, ?_⟩
  · rw [Scene.notes_history, sessionOf_cons_of_none rfl]
    exact hrotations.session
  · intro refreshToken htoken
    rw [← Option.some.inj htoken, ← hrotations.session, hsession]
    rfl
  · intro refreshToken htoken hreceived
    rw [← Option.some.inj htoken] at hreceived
    rcases hrotations.spent current hsession hreceived with hover | ⟨other, hpending⟩
    · rw [hlive] at hover
      cases hover
    · rw [hnone other] at hpending
      cases hpending
  · rintro refreshToken ⟨record, hrecord, htoken⟩
    rcases List.mem_cons.mp hrecord with rfl | hrecord
    · rw [← Option.some.inj htoken]
      exact hunseen (hrotations.current current hsession)
    · exact hunseen (hrotations.seen refreshToken ⟨record, hrecord, htoken⟩)
  · exact fun tokens htokens ↦ hunseen (hrotations.current tokens htokens)
  · intro tokens htokens htoken
    rw [Scene.notes_history, received_cons_iff rfl] at htoken
    refine (hrotations.spent tokens htokens htoken).imp_right fun ⟨other, hpending⟩ ↦ ⟨other, ?_⟩
    rwa [Scene.notes_history, rotationOf_enter rfl]
  · intro refreshToken htoken
    rw [Scene.notes_history, received_cons_iff rfl] at htoken
    exact (hrotations.presented refreshToken htoken).cons
  · intro other payload hpayload
    rw [Scene.notes_history, rotationOf_enter rfl, hnone other] at hpayload
    cases hpayload

/-- A response with new tokens arrives. -/
theorem Rotations.receive (hrotations : Rotations first s) {refreshToken : String}
    {payload : SessionPayload} {world : World}
    (hholding : Holding (logOf caller s.history)) (hpresented : Presented refreshToken s.history)
    (hnew : ∀ sessionId tokens, payload.decode sessionId = .ok tokens →
      Unseen first tokens.refreshToken s.history) :
    Rotations first ⟨s.memory, world,
      ⟨caller, .answered (.identityRefresh refreshToken) (.payload payload)⟩ :: s.history⟩ := by
  refine ⟨?_, ⟨nofun, hrotations.presents⟩, ⟨nofun, hrotations.neverReplayed⟩, ?_, ?_, ?_, ?_, ?_⟩
  · rw [sessionOf_cons_of_none rfl]
    exact hrotations.session
  · intro earlier htoken hunseen
    exact hrotations.seen earlier ((presented_cons_iff rfl).mp htoken) hunseen.of_cons
  · exact fun tokens htokens hunseen ↦ hrotations.current tokens htokens hunseen.of_cons
  · intro tokens htokens _
    refine .inr ⟨caller, ?_⟩
    rw [logOf_cons_self]
    rfl
  · rintro earlier ⟨record, hrecord, htoken⟩
    rcases List.mem_cons.mp hrecord with rfl | hrecord
    · rw [← Option.some.inj htoken]
      exact hpresented.cons
    · exact (hrotations.presented earlier ⟨record, hrecord, htoken⟩).cons
  · intro other pending hpending
    rw [holding_enter rfl]
    by_cases hcaller : caller = other
    · subst hcaller
      rw [logOf_cons_self] at hpending
      obtain rfl : payload = pending := Option.some.inj hpending
      refine ⟨hholding, fun sessionId tokens hdecode ↦ ⟨?_, fun hunseen ↦ ?_⟩⟩
      · rw [presented_cons_iff rfl]
        exact fun hpresented ↦ hrotations.seen _ hpresented (hnew sessionId tokens hdecode)
      · refine hunseen.2 _ List.mem_cons_self ?_
        show payload.refreshToken.text? = some tokens.refreshToken
        rw [SessionPayload.refreshToken_of_decode hdecode]
        rfl
    · rw [logOf_cons_of_ne hcaller] at hpending
      obtain ⟨hother, hpendingNew⟩ := hrotations.pending other pending hpending
      refine ⟨hother, fun sessionId tokens hdecode ↦ ?_⟩
      obtain ⟨hnot, hseen⟩ := hpendingNew sessionId tokens hdecode
      rw [presented_cons_iff rfl]
      exact ⟨hnot, fun hunseen ↦ hseen hunseen.of_cons⟩

/-! ### The end of the session -/

theorem givenUp_cons_iff {history : ClientHistory} (hnot : ¬ GivesUp record.happening) :
    GivenUp (record :: history) ↔ GivenUp history := by
  simp [GivenUp, hnot]

theorem endings_cons {history : ClientHistory} (hnot : isEnding record.happening = false) :
    endings (record :: history) = endings history := by
  simp [endings, hnot]

theorem endings_cons_ending {history : ClientHistory} (hending : isEnding record.happening = true) :
    endings (record :: history) = endings history + 1 := by
  simp [endings, hending]

theorem Ending.not_over (hending : Ending s) (hslot : Slot s) (hlive : s.memory.terminated = false)
    (hempty : s.memory.inFlight = none) :
    ¬ ∃ record ∈ s.history, IsRejection record.happening ∨ GivesUp record.happening := by
  rintro ⟨record, hrecord, hrejection | hgives⟩
  · rcases hending.rejected record hrecord hrejection with hover | ⟨hholding, -⟩
    · rw [hlive] at hover
      cases hover
    · exact hslot.not_holding hempty hholding
  · exact (hending.live hlive).1 ⟨record, hrecord, hgives⟩

/-- A call that goes on has given the chain up if it was rejected. -/
def Resolved (log : List ClientHappening) : Prop :=
  (∃ happening ∈ log, IsRejection happening) → ∃ happening ∈ log, GivesUp happening

theorem Ending.terminated_of_resolved (hending : Ending s)
    (hresolved : Resolved (logOf caller s.history))
    (hrejected : ∃ happening ∈ logOf caller s.history, IsRejection happening) :
    s.memory.terminated = true := by
  by_contra hlive
  obtain ⟨happening, hmem, hgives⟩ := hresolved hrejected
  exact (hending.live (by simpa using hlive)).1 ⟨_, mem_logOf.mp hmem, hgives⟩

/-- Assumes: a call that was rejected has given the chain up, or is still waiting to go on. -/
theorem Ending.enter (hending : Ending s) (record : ClientRecord)
    (hhistory : later.history = record :: s.history)
    (hterminated : later.memory.terminated = s.memory.terminated)
    (hsession : later.memory.session = .noSession ↔ s.memory.session = .noSession)
    (hgives : ¬ GivesUp record.happening) (hnotEnding : isEnding record.happening = false)
    (hsilent : SilentOnceOver record s.history)
    (hrejection : IsRejection record.happening →
      Holding (logOf record.caller later.history) ∧ Waiting (logOf record.caller later.history))
    (hrejected : (∃ happening ∈ logOf record.caller s.history, IsRejection happening) →
      s.memory.terminated = true ∨
        Holding (logOf record.caller later.history) ∧
          Waiting (logOf record.caller later.history)) :
    Ending later := by
  constructor
  · intro earlier hearlier hisRejection
    rw [hhistory] at hearlier
    by_cases hcaller : record.caller = earlier.caller
    · rcases List.mem_cons.mp hearlier with rfl | hmem
      · exact .inr (hrejection hisRejection)
      · rw [hterminated, ← hcaller]
        refine hrejected ⟨earlier.happening, ?_, hisRejection⟩
        rw [hcaller]
        exact mem_logOf.mpr hmem
    · rcases List.mem_cons.mp hearlier with rfl | hmem
      · exact absurd rfl hcaller
      · rw [hhistory, logOf_cons, if_neg hcaller, hterminated]
        exact hending.rejected earlier hmem hisRejection
  · rw [hhistory]
    exact ⟨hsilent, hending.silent⟩
  · intro hlive
    rw [hterminated] at hlive
    rw [hhistory, givenUp_cons_iff hgives, endings_cons hnotEnding, Ne, hsession]
    exact hending.live hlive
  · intro hover
    rw [hterminated] at hover
    rw [hhistory, givenUp_cons_iff hgives, endings_cons hnotEnding, hsession]
    exact hending.ended hover

/-- The chain of a session that is held is given up, and the session is ended. -/
theorem Ending.acts_giveUp (hending : Ending s) (hactive : s.memory.session ≠ .noSession) :
    Ending (client.acts caller .ended (client.acts caller (.terminated true) s)) := by
  have hlive : s.memory.terminated = false := by
    by_contra hover
    exact hactive (hending.ended (by simpa using hover)).2.2
  constructor
  · exact fun _ _ _ ↦ .inl rfl
  · exact ⟨fun _ ↦ rfl, fun _ ↦ rfl, hending.silent⟩
  · exact fun hlive ↦ nomatch hlive
  · refine fun _ ↦ ⟨⟨⟨caller, .did s.memory (.terminated true)⟩, ?_, rfl⟩, ?_, rfl⟩
    · exact List.mem_cons_of_mem _ List.mem_cons_self
    · rw [Loop.acts_history, endings_cons_ending rfl, Loop.acts_history, endings_cons rfl,
        (hending.live hlive).2.1]

/-- The chain of a session that has been ended is given up once more. -/
theorem Ending.acts_giveUp_again (hending : Ending s) (hnone : s.memory.session = .noSession) :
    Ending (client.acts caller (.terminated true) s) := by
  have hover : s.memory.terminated = true := by
    by_contra hlive
    exact (hending.live (by simpa using hlive)).2.2 hnone
  obtain ⟨-, honce, -⟩ := hending.ended hover
  constructor
  · exact fun _ _ _ ↦ .inl rfl
  · exact ⟨fun _ ↦ rfl, hending.silent⟩
  · exact fun hlive ↦ nomatch hlive
  · refine fun _ ↦ ⟨⟨_, List.mem_cons_self, rfl⟩, ?_, hnone⟩
    rw [Loop.acts_history, endings_cons rfl, honce]

/-! ### One step of a call -/

/-- A happening that concerns neither the slot nor a refresh nor the session. -/
structure Idle (happening : ClientHappening) : Prop where
  slot : slotBy happening = none
  rotation : rotationBy happening = none
  session : sessionBy happening = none ∨ ∃ before assignment, happening = .did before assignment ∧
    (assignment.perform before).session = before.session
  presented : presentedBy happening = none
  received : receivedBy happening = none
  asks : ¬ AsksRefresh happening
  rejection : ¬ IsRejection happening
  gives : ¬ GivesUp happening
  ending : isEnding happening = false
  fails : ¬ FailsOnTheWay happening

/-- An operation of the token store, or the await of a method. -/
def Operation.IsStorage : Operation → Prop
  | readSecure | writeSecure _ | deleteSecure | listSecure => True
  | readMarker | writeMarker _ | removeMarker | microtask => True
  | identityRefresh _ | refreshed _ | readCredential _ | loadLock => False

theorem idle_asked {op : Operation} (hop : op.IsStorage) : Idle (.asked op) := by
  cases op with
  | identityRefresh _ | refreshed _ | readCredential _ | loadLock => exact hop.elim
  | _ => exact ⟨rfl, rfl, .inl rfl, rfl, rfl, id, id, id, rfl, id⟩

theorem idle_answered {op : Operation} (hop : op.IsStorage) (answer : op.Answer) :
    Idle (.answered op answer) := by
  cases op with
  | identityRefresh _ | refreshed _ | readCredential _ | loadLock => exact hop.elim
  | _ => exact ⟨rfl, rfl, .inl rfl, rfl, rfl, id, id, id, rfl, id⟩

theorem idle_did {assignment : Assignment} (hwork : Housekeeping (.act assignment))
    (before : Memory) : Idle (.did before assignment) := by
  cases assignment with
  | abandonedThisProcess isAbandoned =>
    exact ⟨rfl, rfl, .inr ⟨before, _, rfl, rfl⟩, rfl, rfl, id, id, id, rfl, id⟩
  | emitted event =>
    exact ⟨rfl, rfl, .inr ⟨before, _, rfl, rfl⟩, rfl, rfl, id, id, id, rfl, id⟩
  | _ => exact hwork.elim

theorem idle_started (request : Request) : Idle (.started request) :=
  ⟨rfl, rfl, .inl rfl, rfl, rfl, id, id, id, rfl, id⟩

/-- The session of the history after a happening that leaves the session alone. -/
theorem Idle.sessionOf (hidle : Idle happening) (hrotations : Rotations first s)
    (hbefore : ∀ before assignment, happening = .did before assignment → before = s.memory) :
    sessionOf first (⟨caller, happening⟩ :: s.history) = s.memory.session := by
  rcases hidle.session with hnone | ⟨before, assignment, rfl, hsame⟩
  · rw [sessionOf_cons_of_none hnone, hrotations.session]
  · rw [sessionOf_cons_of_some rfl, hsame, hbefore before assignment rfl]

theorem Flow.enter (hflow : Flow first s) (hidle : Idle happening)
    (hhistory : later.history = ⟨caller, happening⟩ :: s.history)
    (hbefore : ∀ before assignment, happening = .did before assignment → before = s.memory)
    (hflight : later.memory.inFlight = s.memory.inFlight)
    (hterminated : later.memory.terminated = s.memory.terminated)
    (hsession : later.memory.session = s.memory.session)
    (hrejected : (∃ earlier ∈ logOf caller s.history, IsRejection earlier) →
      s.memory.terminated = true)
    (hfailed : Failed caller s.history → LeavesAlone happening) : Flow first later where
  slot := hflow.slot.enter _ hhistory hidle.slot hflight fun hasks ↦ absurd hasks hidle.asks
  rotations := by
    refine hflow.rotations.enter _ hhistory hidle.presented hidle.received ?_ (.inl hsession)
      (fun hover ↦ hterminated.trans hover) (.inl hidle.rotation) (.inl ?_)
    · rw [hhistory, hsession, hidle.sessionOf hflow.rotations hbefore]
    · rw [hidle.slot]
      exact Option.some_ne_none _ |>.symm
  ending := hflow.ending.enter _ hhistory hterminated (by rw [hsession]) hidle.gives hidle.ending
    (fun _ ↦ hidle.presented) (fun hrejection ↦ absurd hrejection hidle.rejection)
    fun hearlier ↦ .inl (hrejected hearlier)
  idle := by
    rw [hhistory]
    exact ⟨hfailed, hflow.idle⟩

end Scenes

/-! ### The tasks -/

/-- What a task keeps, together with a property of its own log, whatever it returns. -/
abbrev Flows (first : SessionTokens) (own : List ClientHappening → Prop) (caller : ℕ) {T : Type}
    (task : ClientTask T) (s : ClientScene) : Prop :=
  Loop.Keeps client (Flow first) (fun s caller ↦ Within first s (.resume caller)) caller
    (fun later _ ↦ Flow first later ∧ own (logOf caller later.history)) task s

/-- A property of the log of a call that storage leaves alone: the call has given up what was
rejected, and has not failed on the way. -/
structure Steady (own : List ClientHappening → Prop) : Prop where
  lasts : ∀ happening log, Idle happening → own log → own (happening :: log)
  resolved : ∀ log, own log → Resolved log
  notFailed : ∀ log, own log → ∀ happening ∈ log, ¬ FailsOnTheWay happening

section Tasks

variable {first : SessionTokens} {own : List ClientHappening → Prop} {caller : ℕ} {s : ClientScene}
  {T : Type}

theorem flow_asked (hsteady : Steady own) (hflow : Flow first s)
    (hown : own (logOf caller s.history)) {op : Operation} (hop : op.IsStorage) :
    Flow first (s.notes caller (.asked op)) := by
  refine hflow.enter (idle_asked hop) rfl ?_ rfl rfl rfl
    (hflow.ending.terminated_of_resolved (hsteady.resolved _ hown)) ?_
  · intro before assignment hdid
    cases hdid
  · rintro ⟨happening, hmem, hfails⟩
    exact absurd hfails (hsteady.notFailed _ hown happening hmem)

theorem flows_housekeeping (hsteady : Steady own) {task : ClientTask T}
    (huses : task.Uses Housekeeping) (hflow : Flow first s)
    (hown : own (logOf caller s.history)) : Flows first own caller task s := by
  refine Loop.keeps_of_uses (fun s ↦ Flow first s ∧ own (logOf caller s.history))
    ?_ ?_ ?_ huses ⟨hflow, hown⟩
  · intro s assignment hwork hs
    have hidle := idle_did hwork s.memory
    refine ⟨hs.1.enter hidle rfl ?_ ?_ ?_ ?_ ?_ ?_, ?_⟩
    · intro before other hdid
      exact (Happening.did.inj hdid).1.symm
    · cases assignment <;> first | rfl | exact hwork.elim
    · cases assignment <;> first | rfl | exact hwork.elim
    · cases assignment <;> first | rfl | exact hwork.elim
    · exact hs.1.ending.terminated_of_resolved (hsteady.resolved _ hs.2)
    · rintro ⟨happening, hmem, hfails⟩
      exact absurd hfails (hsteady.notFailed _ hs.2 happening hmem)
    · rw [Loop.acts_history, logOf_cons_self]
      exact hsteady.lasts _ _ hidle hs.2
  · intro s op hop hs
    exact flow_asked hsteady hs.1 hs.2 (by cases op <;> trivial)
  · intro s later op answer hop hs hlater _ hlog
    have hstorage : op.IsStorage := by
      cases op <;> trivial
    refine ⟨hlater, ?_⟩
    rw [hlog]
    exact hsteady.lasts _ _ (idle_answered hstorage answer)
      (hsteady.lasts _ _ (idle_asked hstorage) hs.2)

theorem awaited_flows (hsteady : Steady own) {task : ClientTask T}
    (htask : Flows first own caller task s) : Flows first own caller (awaited task) s := by
  refine Loop.keeps_bind htask fun later result hlater ↦ ?_
  exact flows_housekeeping hsteady
    (Foundation.Program.uses_bind (uses_await housekeeping_microtask) fun _ ↦ Foundation.Program.uses_pure _)
    hlater.1 hlater.2

/-! ### The coordinator -/

/-- Assumes: what is known of the log survives the assignments with which a session is ended. -/
theorem terminate_flows (hsteady : Steady own) (reason : SessionEndReason) (hflow : Flow first s)
    (hown : own (.did s.memory (.terminated true) :: logOf caller s.history))
    (hended : ∀ before log, own log → own (.did before .ended :: log)) :
    Flows first own caller (TokenRefreshCoordinator.terminate reason) s := by
  refine Loop.keeps_act_bind ?_
  have hlog : own (logOf caller (client.acts caller (.terminated true) s).history) := by
    rw [Loop.acts_history, logOf_cons_self]
    exact hown
  have hslot : Slot (client.acts caller (.terminated true) s) :=
    hflow.slot.enter ⟨caller, .did s.memory (.terminated true)⟩ rfl rfl rfl False.elim
  have hrotations : Rotations first (client.acts caller (.terminated true) s) :=
    hflow.rotations.enter ⟨caller, .did s.memory (.terminated true)⟩ rfl rfl rfl rfl
      (.inl rfl) (fun _ ↦ rfl) (.inr ⟨rfl, rfl⟩) (.inl nofun)
  have hend : Flows first own caller (SessionManager.endSession reason)
      (client.acts caller (.terminated true) s) := by
    refine Loop.keeps_look_bind (Loop.keeps_ite (fun hnone ↦ ?_) fun hactive ↦ ?_)
    · refine Loop.keeps_pure ⟨⟨hslot, hrotations, hflow.ending.acts_giveUp_again hnone, ?_⟩, hlog⟩
      exact ⟨fun _ ↦ rfl, hflow.idle⟩
    · refine Loop.keeps_act_bind (flows_housekeeping hsteady (endedSession_housekeeping reason) ?_ ?_)
      · refine ⟨hslot.enter ⟨caller, .did _ .ended⟩ rfl rfl rfl False.elim,
          hrotations.enter ⟨caller, .did _ .ended⟩ rfl rfl rfl rfl (.inr rfl) id
            (.inl rfl) (.inl nofun), hflow.ending.acts_giveUp hactive, ?_, fun _ ↦ rfl, hflow.idle⟩
        rintro ⟨happening, hmem, hfails⟩
        exact absurd hfails (hsteady.notFailed _ hlog happening hmem)
      · rw [Loop.acts_history, logOf_cons_self]
        exact hended _ _ hlog
  exact Loop.keeps_bind (awaited_flows hsteady hend) fun later result hlater ↦
    Loop.keeps_pure hlater

/-- The call may give the slot free. -/
structure Releasable (log : List ClientHappening) : Prop where
  holding : Holding log
  settled : rotationOf log = none
  resolved : Resolved log

/-- The call holds the slot, has settled what it received, and has not failed on the way. -/
structure Settled (log : List ClientHappening) : Prop extends Releasable log where
  notFailed : ∀ happening ∈ log, ¬ FailsOnTheWay happening

theorem resolved_cons {happening : ClientHappening} {log : List ClientHappening}
    (hresolved : Resolved log) (hrejection : ¬ IsRejection happening) :
    Resolved (happening :: log) := by
  rintro ⟨rejecting, hmem, hisRejection⟩
  rcases List.mem_cons.mp hmem with rfl | hmem
  · exact absurd hisRejection hrejection
  · obtain ⟨giving, hgiving, hgives⟩ := hresolved ⟨rejecting, hmem, hisRejection⟩
    exact ⟨giving, List.mem_cons_of_mem _ hgiving, hgives⟩

theorem resolved_of_none {log : List ClientHappening}
    (hnone : ∀ happening ∈ log, ¬ IsRejection happening) : Resolved log :=
  fun ⟨happening, hmem, hrejection⟩ ↦ absurd hrejection (hnone happening hmem)

theorem Settled.cons {happening : ClientHappening} {log : List ClientHappening}
    (hsettled : Settled log) (hslot : slotBy happening = none)
    (hrotation : rotationBy happening = none) (hrejection : ¬ IsRejection happening)
    (hfails : ¬ FailsOnTheWay happening) : Settled (happening :: log) where
  holding := (holding_cons_iff hslot).mpr hsettled.holding
  settled := (rotationOf_cons hrotation).trans hsettled.settled
  resolved := resolved_cons hsettled.resolved hrejection
  notFailed := List.forall_mem_cons.mpr ⟨hfails, hsettled.notFailed⟩

theorem steady_settled : Steady Settled where
  lasts _ _ hidle hsettled :=
    hsettled.cons hidle.slot hidle.rotation hidle.rejection hidle.fails
  resolved _ hsettled := hsettled.resolved
  notFailed _ hsettled := hsettled.notFailed

/-- A refresh that has succeeded adopts its tokens. -/
theorem settle_ok_flows {payload : SessionPayload} {sessionId : Option String}
    {tokens : SessionTokens} (hflow : Flow first s) (hlive : s.memory.terminated = false)
    (hholding : Holding (logOf caller s.history))
    (hpending : payload ∈ rotationOf (logOf caller s.history))
    (hdecode : payload.decode sessionId = .ok tokens)
    (hclear : ∀ happening ∈ logOf caller s.history,
      ¬ IsRejection happening ∧ ¬ FailsOnTheWay happening) :
    Flows first Releasable caller (TokenRefreshCoordinator.settle (.result (.ok tokens))) s := by
  have hlog : Settled (logOf caller (client.acts caller (.adopted tokens) s).history) := by
    rw [Loop.acts_history, logOf_cons_self]
    refine ⟨⟨(holding_cons_iff rfl).mpr hholding, rotationOf_cons_settled rfl, ?_⟩, ?_⟩
    · exact resolved_cons (resolved_of_none fun happening hmem ↦ (hclear happening hmem).1) id
    · exact List.forall_mem_cons.mpr ⟨id, fun happening hmem ↦ (hclear happening hmem).2⟩
  have hadopted : Flow first (client.acts caller (.adopted tokens) s) := by
    refine ⟨hflow.slot.enter ⟨caller, .did s.memory (.adopted tokens)⟩ rfl rfl rfl
      False.elim, hflow.rotations.acts_adopt hpending hdecode, ?_, ?_, hflow.idle⟩
    · refine hflow.ending.enter ⟨caller, .did s.memory (.adopted tokens)⟩ rfl rfl ?_ id
        rfl (fun _ ↦ rfl) False.elim ?_
      · have hheld : s.memory.session ≠ .noSession := (hflow.ending.live hlive).2.2
        simp [hheld, client, Assignment.perform]
      · rintro ⟨happening, hmem, hrejection⟩
        exact absurd hrejection (hclear happening hmem).1
    · rintro ⟨happening, hmem, hfails⟩
      exact absurd hfails (hclear happening hmem).2
  have hadopt : Flows first Settled caller (SessionManager.adopt tokens) s := by
    refine Loop.keeps_act_bind (awaited_flows steady_settled (Loop.keeps_await_bind
      (flow_asked steady_settled hadopted hlog trivial) ?_))
    intro written later hlater _ hlater_log
    refine flows_housekeeping steady_settled (SecureTokenStore.written_housekeeping written)
      hlater ?_
    rw [hlater_log]
    exact (hlog.cons rfl rfl id id).cons rfl rfl id id
  exact Loop.keeps_bind (awaited_flows steady_settled hadopt) fun later result hlater ↦
    Loop.keeps_pure ⟨hlater.1, hlater.2.toReleasable⟩

/-- A refresh that is rejected gives the chain up. -/
theorem settle_rejected_flows {failure : Failure}
    (hterminal : TokenRefreshCoordinator.isTerminal failure = true) (hflow : Flow first s)
    (hholding : Holding (logOf caller s.history))
    (hnotFailed : ∀ happening ∈ logOf caller s.history, ¬ FailsOnTheWay happening) :
    Flows first Releasable caller (TokenRefreshCoordinator.settle (.result (.error failure))) s := by
  have hsettled : Settled (.did s.memory (.terminated true) :: logOf caller s.history) := by
    refine ⟨⟨(holding_cons_iff rfl).mpr hholding, rotationOf_cons_settled rfl, fun _ ↦ ?_⟩, ?_⟩
    · exact ⟨_, List.mem_cons_self, rfl⟩
    · exact List.forall_mem_cons.mpr ⟨id, hnotFailed⟩
  have hterminate : Flows first Settled caller
      (TokenRefreshCoordinator.terminate .refreshTokenReuseDetected) s :=
    terminate_flows steady_settled _ hflow hsettled fun before log hlog ↦ hlog.cons rfl rfl id id
  refine Loop.keeps_ite (fun _ ↦ ?_) fun hnot ↦ absurd hterminal hnot
  exact Loop.keeps_bind (awaited_flows steady_settled hterminate) fun later result hlater ↦
    Loop.keeps_pure ⟨hlater.1, hlater.2.toReleasable⟩

theorem ComesToNothing.not_rejection {outcome : RefreshOutcome}
    (hnothing : ComesToNothing outcome) : ¬ IsRejection (.asked (.refreshed outcome)) := by
  match outcome with
  | .result (.ok _) => exact id
  | .result (.error failure) =>
    intro hrejection
    have hterminal : TokenRefreshCoordinator.isTerminal failure = true := hrejection
    have hnot : TokenRefreshCoordinator.isTerminal failure = false := hnothing
    rw [hterminal] at hnot
    cases hnot
  | .thrown => exact id

theorem ComesToNothing.not_succeeds {outcome : RefreshOutcome}
    (hnothing : ComesToNothing outcome) : ¬ Succeeds outcome := by
  match outcome with
  | .result (.ok _) => exact hnothing.elim
  | .result (.error _) => exact id
  | .thrown => exact id

/-- A refresh that has failed on the way leaves everything as it is. -/
theorem settle_failed_flows {outcome : RefreshOutcome} (hnothing : ComesToNothing outcome)
    (hflow : Flow first s) (hreleasable : Releasable (logOf caller s.history)) :
    Flows first Releasable caller (TokenRefreshCoordinator.settle outcome) s := by
  match outcome with
  | .result (.ok tokens) => exact hnothing.elim
  | .result (.error failure) =>
    refine Loop.keeps_ite (fun hterminal ↦ ?_) fun _ ↦ Loop.keeps_pure ⟨hflow, hreleasable⟩
    rw [show TokenRefreshCoordinator.isTerminal failure = false from hnothing] at hterminal
    cases hterminal
  | .thrown => exact Loop.keeps_pure ⟨hflow, hreleasable⟩

theorem Flow.asks_refreshed (hflow : Flow first s) (outcome : RefreshOutcome)
    (hholding : Holding (logOf caller s.history))
    (hnone : ∀ happening ∈ logOf caller s.history, ¬ IsRejection happening)
    (hfailed : Failed caller s.history → ComesToNothing outcome) :
    Flow first (s.notes caller (.asked (.refreshed outcome))) where
  slot := hflow.slot.enter ⟨caller, .asked (.refreshed outcome)⟩ rfl rfl rfl False.elim
  rotations := by
    refine hflow.rotations.enter ⟨caller, .asked (.refreshed outcome)⟩ rfl rfl rfl ?_
      (.inl rfl) id (.inl rfl) (.inl nofun)
    rw [Scene.notes_history, sessionOf_cons_of_none rfl]
    exact hflow.rotations.session
  ending := by
    refine hflow.ending.enter ⟨caller, .asked (.refreshed outcome)⟩ rfl rfl .rfl id rfl
      (fun _ ↦ rfl) (fun _ ↦ ?_) fun ⟨happening, hmem, hrejection⟩ ↦
        absurd hrejection (hnone happening hmem)
    rw [Scene.notes_history, logOf_cons_self]
    exact ⟨(holding_cons_iff rfl).mpr hholding, trivial⟩
  idle := ⟨hfailed, hflow.idle⟩

theorem Flow.acts_release (hflow : Flow first s)
    (hreleasable : Releasable (logOf caller s.history)) :
    Flow first (client.acts caller (.inFlight none) s) where
  slot := hflow.slot.acts_release hreleasable.holding
  rotations := hflow.rotations.enter ⟨caller, .did s.memory (.inFlight none)⟩ rfl rfl
    rfl rfl (.inl rfl) id (.inl rfl) (.inr hreleasable.settled)
  ending := hflow.ending.enter ⟨caller, .did s.memory (.inFlight none)⟩ rfl rfl .rfl id
    rfl (fun _ ↦ rfl) False.elim
    fun hrejected ↦ .inl (hflow.ending.terminated_of_resolved hreleasable.resolved hrejected)
  idle := ⟨fun _ ↦ rfl, hflow.idle⟩

/-- From the outcome of the refresh function on. -/
theorem refreshed_flows (outcome : RefreshOutcome) (hflow : Flow first s)
    (hholding : Holding (logOf caller s.history))
    (hnone : ∀ happening ∈ logOf caller s.history, ¬ IsRejection happening)
    (hfailed : Failed caller s.history → ComesToNothing outcome)
    (hsettle : ∀ later, Flow first later → Within first later (.resume caller) →
      logOf caller later.history =
        .answered (.refreshed outcome) () :: .asked (.refreshed outcome) ::
          logOf caller s.history →
      Flows first Releasable caller (TokenRefreshCoordinator.settle outcome) later) :
    Flows first (fun _ ↦ True) caller
      (do
        await (.refreshed outcome)
        let reply ← TokenRefreshCoordinator.settle outcome
        act (.inFlight none)
        return reply) s := by
  refine Loop.keeps_await_bind (hflow.asks_refreshed outcome hholding hnone hfailed) ?_
  intro _ later hlater hbefore hlog
  refine Loop.keeps_bind (hsettle later hlater hbefore hlog) fun last reply hlast ↦ ?_
  exact Loop.keeps_act_bind (Loop.keeps_pure ⟨hlast.1.acts_release hlast.2, trivial⟩)

/-- No call is waiting, and nothing has been rejected or given up. -/
structure Vacant (s : ClientScene) : Prop where
  unheld : ∀ caller, ¬ Holding (logOf caller s.history)
  notOver : ¬ ∃ record ∈ s.history, IsRejection record.happening ∨ GivesUp record.happening
  unsettled : ∀ caller, rotationOf (logOf caller s.history) = none

theorem Flow.vacant (hflow : Flow first s) (hlive : s.memory.terminated = false)
    (hempty : s.memory.inFlight = none) : Vacant s where
  unheld _ := hflow.slot.not_holding hempty
  notOver := hflow.ending.not_over hflow.slot hlive hempty
  unsettled other := by
    by_contra hsome
    obtain ⟨payload, hpayload⟩ := Option.ne_none_iff_exists'.mp hsome
    exact hflow.slot.not_holding hempty (hflow.rotations.pending other payload hpayload).1

theorem Vacant.not_rejection (hvacant : Vacant s) :
    ∀ happening ∈ logOf caller s.history, ¬ IsRejection happening :=
  fun _ hmem hrejection ↦ hvacant.notOver ⟨_, mem_logOf.mp hmem, .inl hrejection⟩

theorem Flow.acts_count (hflow : Flow first s) (hvacant : Vacant s) :
    Flow first (client.acts caller .refreshCallCount s) := by
  refine hflow.enter ⟨rfl, rfl, .inr ⟨s.memory, _, rfl, rfl⟩, rfl, rfl, id, id, id, rfl, id⟩ rfl ?_
    rfl rfl rfl ?_ fun _ ↦ rfl
  · intro before assignment hdid
    exact (Happening.did.inj hdid).1.symm
  · rintro ⟨happening, hmem, hrejection⟩
    exact absurd hrejection (hvacant.not_rejection happening hmem)

theorem Flow.acts_take (hflow : Flow first s) (hvacant : Vacant s)
    (hempty : s.memory.inFlight = none) :
    Flow first (client.acts caller (.inFlight (some caller)) s) where
  slot := hflow.slot.acts_take hempty
  rotations := hflow.rotations.enter ⟨caller, .did s.memory (.inFlight (some caller))⟩ rfl rfl rfl
    rfl (.inl rfl) id (.inl rfl) (.inl nofun)
  ending := hflow.ending.enter ⟨caller, .did s.memory (.inFlight (some caller))⟩ rfl rfl .rfl id rfl
    (fun _ ↦ rfl) False.elim fun ⟨happening, hmem, hrejection⟩ ↦
      absurd hrejection (hvacant.not_rejection happening hmem)
  idle := ⟨fun _ ↦ rfl, hflow.idle⟩

/-- The slot is taken, and the refresh token of the current credential is presented. -/
theorem Flow.present (hflow : Flow first s) {current : SessionTokens}
    (hsession : s.memory.session = .activeSession current) (hlive : s.memory.terminated = false)
    (hempty : s.memory.inFlight = none) (hnotFailed : ¬ Failed caller s.history) :
    Flow first ((client.acts caller (.inFlight (some caller)) s).notes caller
      (.asked (.identityRefresh current.refreshToken))) := by
  have hvacant := hflow.vacant hlive hempty
  have htaken : Flow first (client.acts caller (.inFlight (some caller)) s) :=
    hflow.acts_take hvacant hempty
  have hnotOver : ¬ ∃ record ∈ (client.acts caller (.inFlight (some caller)) s).history,
      IsRejection record.happening ∨ GivesUp record.happening := by
    rintro ⟨record, hrecord, hover⟩
    rcases List.mem_cons.mp hrecord with rfl | hrecord
    · exact hover.elim id id
    · exact hvacant.notOver ⟨record, hrecord, hover⟩
  refine ⟨htaken.slot.enter ⟨caller, _⟩ rfl rfl rfl fun _ ↦ ?_,
    htaken.rotations.present hsession hlive fun other ↦ ?_,
    htaken.ending.enter ⟨caller, _⟩ rfl rfl .rfl id rfl (fun hover ↦ absurd hover hnotOver)
      False.elim ?_, ?_, htaken.idle⟩
  · rw [Loop.acts_history, logOf_cons_self]
    rfl
  · exact (rotationOf_enter rfl).trans (hvacant.unsettled other)
  · rintro ⟨happening, hmem, hrejection⟩
    exact absurd ⟨_, mem_logOf.mp hmem, .inl hrejection⟩ hnotOver
  · rintro ⟨happening, hmem, hfails⟩
    rw [Loop.acts_history, logOf_cons_self] at hmem
    rcases List.mem_cons.mp hmem with rfl | hmem
    · exact hfails.elim
    · exact absurd ⟨happening, hmem, hfails⟩ hnotFailed

/-- A log without rejections and failures. -/
def Clear (log : List ClientHappening) : Prop :=
  ∀ happening ∈ log, ¬ IsRejection happening ∧ ¬ FailsOnTheWay happening

theorem Clear.cons {happening : ClientHappening} {log : List ClientHappening} (hclear : Clear log)
    (hrejection : ¬ IsRejection happening) (hfails : ¬ FailsOnTheWay happening) :
    Clear (happening :: log) :=
  List.forall_mem_cons.mpr ⟨⟨hrejection, hfails⟩, hclear⟩

/-- From the response of the server on. -/
theorem responded_flows {refreshToken : String} {log : List ClientHappening}
    (response : RefreshResponse) (hflow : Flow first s) (hclear : Clear log)
    (hholding : Holding log) (hunsettled : rotationOf log = none) :
    logOf caller s.history = .answered (.identityRefresh refreshToken) response :: log →
    Flows first (fun _ ↦ True) caller
      (do
        let outcome ← (match response with
          | .payload payload => do
            let m ← look
            return .result (payload.decode (m.session.tokens.map (·.sessionId)))
          | .apiException failure => return .result (.error failure)
          | .thrown => return .thrown : ClientTask RefreshOutcome)
        await (.refreshed outcome)
        let reply ← TokenRefreshCoordinator.settle outcome
        act (.inFlight none)
        return reply) s := by
  intro hlog
  have hresponded : Holding (logOf caller s.history) := by
    rw [hlog]
    exact (holding_cons_iff rfl).mpr hholding
  have hnone : ∀ happening ∈ logOf caller s.history, ¬ IsRejection happening := by
    rw [hlog]
    exact List.forall_mem_cons.mpr ⟨id, fun happening hmem ↦ (hclear happening hmem).1⟩
  have hanswered (hanswers : ¬ FailsOnTheWay (.answered (.identityRefresh refreshToken) response)) :
      ¬ Failed caller s.history := by
    rintro ⟨happening, hmem, hfails⟩
    rw [hlog] at hmem
    rcases List.mem_cons.mp hmem with rfl | hmem
    · exact hanswers hfails
    · exact (hclear happening hmem).2 hfails
  have hrest (outcome : RefreshOutcome)
      (hidle : Failed caller s.history → ComesToNothing outcome) (hsettle : ∀ later, Flow first later →
      Within first later (.resume caller) →
      logOf caller later.history = .answered (.refreshed outcome) () ::
        .asked (.refreshed outcome) :: .answered (.identityRefresh refreshToken) response :: log →
      Holding (logOf caller later.history) →
      Flows first Releasable caller (TokenRefreshCoordinator.settle outcome) later) :=
    refreshed_flows outcome hflow hresponded hnone hidle fun later hlater hbefore hlater_log ↦ by
      refine hsettle later hlater hbefore (hlog ▸ hlater_log) ?_
      rw [hlater_log]
      exact (holding_cons_iff rfl).mpr ((holding_cons_iff rfl).mpr hresponded)
  -- Of a response that is neither tokens nor a rejection nothing is left to settle.
  have hfailed (outcome : RefreshOutcome) (hnothing : ComesToNothing outcome)
      (hnoTokens : rotationBy (.answered (.identityRefresh refreshToken) response) = none) :=
    hrest outcome (fun _ ↦ hnothing) fun later hlater _ hlater_log hholding ↦ by
      refine settle_failed_flows hnothing hlater ⟨hholding, ?_, ?_⟩
      · rw [hlater_log, rotationOf_cons rfl, rotationOf_cons rfl, rotationOf_cons hnoTokens]
        exact hunsettled
      · rw [hlater_log]
        refine resolved_cons (resolved_cons (resolved_cons ?_ id) hnothing.not_rejection) id
        exact resolved_of_none fun happening hmem ↦ (hclear happening hmem).1
  have hrejected (failure : Failure)
      (hterminal : TokenRefreshCoordinator.isTerminal failure = true)
      (hanswers : ¬ FailsOnTheWay (.answered (.identityRefresh refreshToken) response)) :=
    hrest (.result (.error failure)) (fun hfailed ↦ absurd hfailed (hanswered hanswers))
        fun later hlater _ hlater_log hholding ↦ by
      refine settle_rejected_flows hterminal hlater hholding ?_
      rw [hlater_log]
      refine List.forall_mem_cons.mpr ⟨id, List.forall_mem_cons.mpr ⟨id, ?_⟩⟩
      exact List.forall_mem_cons.mpr ⟨hanswers, fun happening hmem ↦ (hclear happening hmem).2⟩
  match response with
  | .payload payload =>
    refine Loop.keeps_look_bind ?_
    cases hdecode : payload.decode (s.memory.session.tokens.map (·.sessionId)) with
    | error failure =>
      obtain ⟨location, rfl⟩ := payload.decode_error _ failure hdecode
      exact hrejected _ rfl id
    | ok tokens =>
      refine hrest _ (fun hfailed ↦ absurd hfailed (hanswered id))
        fun later hlater hbefore hlater_log hholding ↦ ?_
      refine settle_ok_flows hlater (hbefore.2 (.result (.ok tokens)) ?_ trivial) hholding ?_ hdecode ?_
      · rw [hlater_log]
        rfl
      · rw [hlater_log]
        rfl
      · rw [hlater_log]
        exact ((hclear.cons id id).cons id id).cons id id
  | .apiException failure =>
    by_cases hterminal : TokenRefreshCoordinator.isTerminal failure = true
    · refine hrejected failure hterminal ?_
      exact fun hfails ↦ by simp [FailsOnTheWay, hterminal] at hfails
    · exact hfailed (.result (.error failure)) (by simpa [ComesToNothing] using hterminal) rfl
  | .thrown => exact hfailed .thrown trivial rfl

/-- A refresh, started with an empty slot while the coordinator is live. -/
theorem performRefresh_flows {current : SessionTokens} (hflow : Flow first s)
    (hsession : s.memory.session = .activeSession current) (hlive : s.memory.terminated = false)
    (hempty : s.memory.inFlight = none) (hnotFailed : ¬ Failed caller s.history) :
    Flows first (fun _ ↦ True) caller
      (TokenRefreshCoordinator.performRefresh caller current.refreshToken) s := by
  have hvacant := hflow.vacant hlive hempty
  have hcounted : Flow first (client.acts caller .refreshCallCount s) := hflow.acts_count hvacant
  have hcounted_log : logOf caller (client.acts caller .refreshCallCount s).history =
      .did s.memory .refreshCallCount :: logOf caller s.history := logOf_cons_self _ _ _
  refine Loop.keeps_act_bind (Loop.keeps_act_bind (Loop.keeps_await_bind
    (hcounted.present hsession hlive hempty ?_) ?_))
  · rintro ⟨happening, hmem, hfails⟩
    rw [hcounted_log] at hmem
    rcases List.mem_cons.mp hmem with rfl | hmem
    · exact hfails
    · exact hnotFailed ⟨happening, hmem, hfails⟩
  · intro response later hlater _ hlog
    rw [Loop.acts_history, logOf_cons_self, hcounted_log] at hlog
    have hclear : Clear (logOf caller s.history) := fun happening hmem ↦
      ⟨hvacant.not_rejection happening hmem, fun hfails ↦ hnotFailed ⟨happening, hmem, hfails⟩⟩
    refine responded_flows response hlater (((hclear.cons id id).cons id id).cons id id) ?_ ?_ hlog
    · rfl
    · rw [rotationOf_cons rfl, rotationOf_cons rfl, rotationOf_cons rfl]
      exact hvacant.unsettled caller

/-- A caller joins the refresh in flight, or starts one. -/
theorem joinOrRefresh_flows {current : SessionTokens} (hflow : Flow first s)
    (hsession : s.memory.session = .activeSession current) (hlive : s.memory.terminated = false)
    (hnotFailed : ¬ Failed caller s.history) :
    Flows first (fun _ ↦ True) caller
      (TokenRefreshCoordinator.joinOrRefresh caller current s.memory) s := by
  unfold TokenRefreshCoordinator.joinOrRefresh
  cases hflight : s.memory.inFlight with
  | some flight => exact Loop.keeps_pure ⟨hflow, trivial⟩
  | none => exact performRefresh_flows hflow hsession hlive hflight hnotFailed

theorem refreshAfterRejection_flows (observed : SessionTokens) (hflow : Flow first s)
    (hnotFailed : ¬ Failed caller s.history) :
    Flows first (fun _ ↦ True) caller
      (TokenRefreshCoordinator.refreshAfterRejection caller observed) s := by
  refine Loop.keeps_look_bind (Loop.keeps_ite (fun _ ↦ Loop.keeps_pure ⟨hflow, trivial⟩)
    fun hlive ↦ ?_)
  cases hsession : s.memory.session with
  | noSession => exact Loop.keeps_pure ⟨hflow, trivial⟩
  | activeSession current =>
    refine Loop.keeps_ite (fun _ ↦ Loop.keeps_pure ⟨hflow, trivial⟩) fun _ ↦ ?_
    exact joinOrRefresh_flows hflow hsession (by simpa using hlive) hnotFailed

/-- The log of a call that has neither been rejected nor failed on the way. -/
theorem steady_unfailed :
    Steady fun log ↦ Resolved log ∧ ∀ happening ∈ log, ¬ FailsOnTheWay happening where
  lasts _ _ hidle hown :=
    ⟨resolved_cons hown.1 hidle.rejection, List.forall_mem_cons.mpr ⟨hidle.fails, hown.2⟩⟩
  resolved _ hown := hown.1
  notFailed _ hown := hown.2

theorem ensureUsable_flows (observed : SessionTokens) (hflow : Flow first s)
    (hnotFailed : ¬ Failed caller s.history) :
    Flows first (fun _ ↦ True) caller
      (TokenRefreshCoordinator.ensureUsable caller observed) s := by
  refine Loop.keeps_look_bind (Loop.keeps_ite (fun _ ↦ Loop.keeps_pure ⟨hflow, trivial⟩)
    fun hlive ↦ ?_)
  cases hsession : s.memory.session with
  | noSession => exact Loop.keeps_pure ⟨hflow, trivial⟩
  | activeSession current =>
    refine Loop.keeps_ite (fun _ ↦ Loop.keeps_pure ⟨hflow, trivial⟩) fun _ ↦ ?_
    refine Loop.keeps_ite (fun _ ↦ Loop.keeps_pure ⟨hflow, trivial⟩) fun _ ↦ ?_
    refine Loop.keeps_ite (fun _ ↦ ?_) fun _ ↦
      joinOrRefresh_flows hflow hsession (by simpa using hlive) hnotFailed
    refine Loop.keeps_bind (terminate_flows steady_unfailed .expired hflow ?_ ?_)
      fun later result hlater ↦ Loop.keeps_pure ⟨hlater.1, trivial⟩
    · refine ⟨fun _ ↦ ⟨_, List.mem_cons_self, rfl⟩, List.forall_mem_cons.mpr ⟨id, ?_⟩⟩
      exact fun happening hmem hfails ↦ hnotFailed ⟨happening, hmem, hfails⟩
    · exact fun before log hown ↦
        ⟨resolved_cons hown.1 id, List.forall_mem_cons.mpr ⟨id, hown.2⟩⟩

/-- Every call of the coordinator, from its start. -/
theorem task_flows {request : Request} (hrequest : request.IsRefresh) (hflow : Flow first s)
    (hnotFailed : ¬ Failed caller s.history) :
    Loop.Keeps client (Flow first) (fun s caller ↦ Within first s (.resume caller)) caller
      (fun later _ ↦ Flow first later) (client.task request caller) s := by
  cases request with
  | ensureUsable observed =>
    exact Loop.keeps_bind (ensureUsable_flows observed hflow hnotFailed)
      fun later reply hlater ↦ Loop.keeps_pure hlater.1
  | refreshAfterRejection observed =>
    exact Loop.keeps_bind (refreshAfterRejection_flows observed hflow hnotFailed)
      fun later reply hlater ↦ Loop.keeps_pure hlater.1
  | _ => exact hrequest.elim

end Tasks

/-! ### Runs -/

/-- How the process begins: with a session, a live coordinator and an empty slot. -/
structure Begins (first : SessionTokens) (memory : Memory) : Prop where
  session : memory.session = .activeSession first
  live : memory.terminated = false
  empty : memory.inFlight = none

section Runs

variable {first : SessionTokens} {memory : Memory} {world : World} {s : ClientScene} {caller : ℕ}
  {p later : ClientProcess}

theorem Begins.flow (hbegins : Begins first memory) : Flow first ⟨memory, world, []⟩ where
  slot := by
    constructor
    · simp [Holding, logOf]
    · simp [InFlight, logOf]
  rotations := by
    refine ⟨hbegins.session, trivial, trivial, ?_, ?_, ?_, ?_, ?_⟩
    · simp [Presented]
    · intro tokens htokens hunseen
      rw [SessionState.activeSession.inj (htokens.symm.trans hbegins.session)] at hunseen
      exact hunseen.1 rfl
    · simp [Received]
    · simp [Received]
    · simp [rotationOf, logOf]
  ending := by
    refine ⟨by simp, trivial, fun _ ↦ ⟨by simp [GivenUp], rfl, by simp [hbegins.session]⟩, ?_⟩
    intro hover
    rw [hbegins.live] at hover
    cases hover
  idle := trivial

/-- A call that was rejected waits until it goes on. -/
theorem Ending.rejected_answered (hending : Ending s) {op : Operation} {answer : op.Answer}
    {earlier : List ClientHappening} (hlog : logOf caller s.history = .asked op :: earlier)
    (hrejected : ∃ happening ∈ logOf caller s.history, IsRejection happening) :
    s.memory.terminated = true ∨ Holding (logOf caller s.history) ∧
      Waiting (.answered op answer :: logOf caller s.history) := by
  obtain ⟨happening, hmem, hrejection⟩ := hrejected
  refine (hending.rejected _ (mem_logOf.mp hmem) hrejection).imp_right fun ⟨hholding, hwaiting⟩ ↦ ?_
  refine ⟨hholding, ?_⟩
  rw [hlog] at hwaiting
  cases op with
  | refreshed outcome => trivial
  | _ => exact hwaiting.elim

/-- What a call does after it has failed on the way leaves everything alone. -/
theorem Flow.leavesAlone_of_log (hflow : Flow first s) {latest : ClientHappening}
    {earlier : List ClientHappening} (hlog : logOf caller s.history = latest :: earlier)
    (hlatest : ¬ FailsOnTheWay latest) (hfailed : Failed caller s.history) :
    LeavesAlone latest := by
  obtain ⟨newer, older, hhistory, holder⟩ := exists_of_logOf_eq_cons hlog
  have hidle := hflow.idle
  rw [hhistory] at hidle
  refine hidle.split ?_
  obtain ⟨happening, hmem, hfails⟩ := hfailed
  rw [hlog] at hmem
  rcases List.mem_cons.mp hmem with rfl | hmem
  · exact absurd hfails hlatest
  · exact ⟨happening, holder ▸ hmem, hfails⟩

/-- The world answers. -/
theorem Flow.answered (hflow : Flow first s) {op : Operation} {oracle : Oracle}
    {answer : op.Answer} {later : World} {earlier : List ClientHappening}
    (hundisturbed : Undisturbed first s (.answer caller oracle))
    (hlog : logOf caller s.history = .asked op :: earlier)
    (hanswer : s.world.answer op oracle = some (later, answer)) :
    Flow first ⟨s.memory, later, ⟨caller, .answered op answer⟩ :: s.history⟩ where
  slot := hflow.slot.enter ⟨caller, .answered op answer⟩ rfl rfl rfl False.elim
  rotations := by
    have hquiet (hrotation : rotationBy (.answered op answer) = none)
        (hreceived : receivedBy (.answered op answer) = none) :
        Rotations first ⟨s.memory, later, ⟨caller, .answered op answer⟩ :: s.history⟩ := by
      refine hflow.rotations.enter ⟨caller, .answered op answer⟩ rfl rfl hreceived ?_ (.inl rfl) id
        (.inl hrotation) (.inl (Option.some_ne_none _).symm)
      rw [sessionOf_cons_of_none rfl]
      exact hflow.rotations.session
    cases op with
    | identityRefresh refreshToken =>
      cases answer with
      | payload payload =>
        have hpresented : Presented refreshToken s.history := by
          refine ⟨⟨caller, .asked (.identityRefresh refreshToken)⟩, ?_, rfl⟩
          rw [← mem_logOf, hlog]
          exact List.mem_cons_self
        have hflying : InFlight caller s.history := by
          rw [InFlight, hlog]
          exact ⟨_, rfl, trivial⟩
        refine hflow.rotations.receive (hflow.slot.flying caller hflying) hpresented ?_
        refine hundisturbed payload ?_
        cases oracle with
        | responds response =>
          rw [← (Prod.mk.inj (Option.some.inj hanswer)).2]
        | _ => cases hanswer
      | apiException failure => exact hquiet rfl rfl
      | thrown => exact hquiet rfl rfl
    | _ => exact hquiet rfl rfl
  ending := by
    refine hflow.ending.enter ⟨caller, .answered op answer⟩ rfl rfl .rfl id rfl ?_ False.elim ?_
    · exact fun _ ↦ rfl
    · intro hrejected
      rw [logOf_cons_self, holding_cons_iff rfl]
      exact hflow.ending.rejected_answered hlog hrejected
  idle := by
    refine ⟨fun hfailed ↦ ?_, hflow.idle⟩
    have hleaves := hflow.leavesAlone_of_log hlog id hfailed
    cases op with
    | refreshed outcome => exact hleaves
    | _ => trivial

theorem Flow.tick (hflow : Flow first s) (now : SharedKernel.Instant) :
    Flow first { s with memory := client.tick s.memory now } :=
  ⟨⟨hflow.slot.holder, hflow.slot.flying⟩,
    ⟨hflow.rotations.session, hflow.rotations.presents, hflow.rotations.neverReplayed,
      hflow.rotations.seen, hflow.rotations.current, hflow.rotations.spent,
      hflow.rotations.presented, hflow.rotations.pending⟩,
    ⟨hflow.ending.rejected, hflow.ending.silent, hflow.ending.live, hflow.ending.ended⟩, hflow.idle⟩

/-- Along a run within the session. -/
theorem flow_of_reaches (hbegins : Begins first memory)
    (hreaches : Loop.Reaches client (Within first) (.initial memory world) p) :
    Loop.Kept client (Flow first) (fun s caller ↦ Within first s (.resume caller)) p := by
  refine Loop.Reaches.keeps (Flow first) hbegins.flow ?_ ?_ ?_ hreaches
  · intro s request caller hflow hwithin hlog
    have hstarted : Flow first (s.notes caller (.started request)) := by
      refine hflow.enter (idle_started request) rfl ?_ rfl rfl rfl ?_ fun _ ↦ trivial
      · intro before assignment hdid
        cases hdid
      · rw [hlog]
        exact fun ⟨_, hmem, _⟩ ↦ absurd hmem List.not_mem_nil
    refine task_flows hwithin.1 hstarted ?_
    rintro ⟨happening, hmem, hfails⟩
    rw [Scene.notes_history, logOf_cons_self, hlog] at hmem
    obtain rfl := List.mem_singleton.mp hmem
    exact hfails
  · intro s caller oracle op earlier later answer hflow hwithin hlog hanswer
    exact hflow.answered hwithin.1 hlog hanswer
  · exact fun s now hflow _ ↦ hflow.tick now

theorem Flow.single (hflow : Flow first s) : AtMostOneInFlight s.history := by
  intro caller other hcaller hother
  have hfirst := hflow.slot.holder caller (hflow.slot.flying caller hcaller)
  have hsecond := hflow.slot.holder other (hflow.slot.flying other hother)
  exact Option.some.inj (hfirst.symm.trans hsecond)

theorem Ending.terminated_iff (hending : Ending s) :
    s.memory.terminated = true ↔ GivenUp s.history := by
  constructor
  · exact fun hover ↦ (hending.ended hover).1
  · intro hgiven
    by_contra hlive
    exact (hending.live (by simpa using hlive)).1 hgiven

/-- A request that finds its credential replaced runs to its end at once. -/
theorem segment_replaced {request : Request} {observed current : SessionTokens}
    (hobserved : request.observed = some observed) (hlive : s.memory.terminated = false)
    (hsession : s.memory.session = .activeSession current)
    (hreplaced : current.accessToken ≠ observed.accessToken) :
    client.segment caller (client.task request caller) s =
      (s, .pure (.refresh (.result (.ok current)))) := by
  have hnot : ¬ s.memory.terminated = true := by simp [hlive]
  cases request with
  | ensureUsable other =>
    obtain rfl : other = observed := Option.some.inj hobserved
    change client.segment caller ((if s.memory.terminated = true then _ else _) >>= _) s = _
    rw [if_neg hnot]
    simp only [hsession]
    rw [if_pos hreplaced]
    rfl
  | refreshAfterRejection other =>
    obtain rfl : other = observed := Option.some.inj hobserved
    change client.segment caller ((if s.memory.terminated = true then _ else _) >>= _) s = _
    rw [if_neg hnot]
    simp only [hsession]
    rw [if_pos hreplaced]
    rfl
  | _ => cases hobserved

/-- A caller that finds the chain aged out gives it up before its first await. -/
theorem segment_agedOut {observed : SessionTokens} (hfinds : FindsAgedOut s.memory observed) :
    GivenUp (client.segment caller (client.task (.ensureUsable observed) caller) s).1.history := by
  obtain ⟨hlive, current, hsession, hsame, hexpired, haged⟩ := hfinds
  have hnot : ¬ s.memory.terminated = true := by simp [hlive]
  have hrest {T : Type} (rest : ClientTask T) :
      GivenUp (client.segment caller rest (client.acts caller (.terminated true) s)).1.history := by
    obtain ⟨newer, hnewer, -⟩ :=
      client.segment_history caller rest (client.acts caller (.terminated true) s)
    refine ⟨⟨caller, .did s.memory (.terminated true)⟩, ?_, rfl⟩
    rw [hnewer]
    exact List.mem_append_right _ List.mem_cons_self
  change GivenUp (client.segment caller ((if s.memory.terminated = true then _ else _) >>= _)
    s).1.history
  rw [if_neg hnot]
  simp only [hsession]
  rw [if_neg (not_not.mpr hsame), if_neg (not_not.mpr hexpired), if_pos haged]
  exact hrest _

/-- The network and the futures of the client leave what is stored alone. -/
theorem world_of_answer {w later : World} {op : Operation} {oracle : Oracle} {answer : op.Answer}
    (hop : op.IsRefresh ∨ LeavesAlone (.asked op)) (hanswer : w.answer op oracle = some (later, answer)) :
    later = w := by
  cases op with
  | identityRefresh _ =>
    cases oracle with
    | responds response => exact (Prod.mk.inj (Option.some.inj hanswer)).1.symm
    | _ => cases hanswer
  | refreshed _ =>
    cases oracle with
    | succeeds => exact (Prod.mk.inj (Option.some.inj hanswer)).1.symm
    | _ => cases hanswer
  | _ => exact (hop.elim id id).elim

theorem settled_eq_some {log : List ClientHappening} {outcome : RefreshOutcome}
    (hsettled : settled log = some outcome) :
    ∃ earlier, log = .answered (.refreshed outcome) () :: earlier := by
  unfold settled at hsettled
  split at hsettled
  · obtain rfl := Option.some.inj hsettled
    exact ⟨_, rfl⟩
  · cases hsettled

/-- A refresh that has failed on the way has come to nothing. -/
theorem Flow.comesToNothing (hflow : Flow first s) (hfailed : Failed caller s.history)
    {outcome : RefreshOutcome} (hsettled : settled (logOf caller s.history) = some outcome) :
    ComesToNothing outcome := by
  obtain ⟨earlier, hlog⟩ := settled_eq_some hsettled
  exact hflow.leavesAlone_of_log hlog id hfailed

/-- A refresh that has failed on the way changes neither the session nor what is stored. -/
theorem transient_of_kept
    (hkept : Loop.Kept client (Flow first) (fun s caller ↦ Within first s (.resume caller)) p)
    {event : ClientEvent} (hevent : IsEventOf caller event)
    (hstep : client.step p event = some later) (hfailed : Failed caller later.scene.history) :
    later.scene.memory.session = p.scene.memory.session ∧ later.scene.world = p.scene.world := by
  obtain ⟨happening, hmem, hfails⟩ := hfailed
  cases Loop.steps_of_step_eq_some hstep with
  | start request => exact hevent.elim
  | tick tick => exact hevent.elim
  | @answer other oracle request op next world answer hcall hanswer =>
    obtain rfl : other = caller := hevent
    obtain ⟨earlier, hlog, -⟩ := hkept.calls other _ hcall
    refine ⟨rfl, world_of_answer ?_ hanswer⟩
    rw [logOf_cons_self] at hmem
    rcases List.mem_cons.mp hmem with rfl | hmem
    · cases op with
      | identityRefresh refreshToken => exact .inl trivial
      | _ => exact hfails.elim
    · exact .inr (hkept.scene.leavesAlone_of_log hlog id ⟨happening, hmem, hfails⟩)
  | @resume other request rest hcall =>
    obtain rfl : other = caller := hevent
    have hbefore : happening ∈ logOf other p.scene.history := by
      cases happening with
      | answered op answer =>
        exact mem_logOf.mpr (Loop.answered_mem_of_segment (mem_logOf.mp hmem))
      | _ => exact hfails.elim
    refine ⟨Loop.segment_leaves Memory.session ?_, Loop.segment_world other rest p.scene⟩
    intro newer before assignment older hhistory hsuffix
    have hwithin : Within first p.scene (.resume other) :=
      ⟨trivial, fun outcome hsettled hsucceeds ↦ absurd hsucceeds
        (hkept.scene.comesToNothing ⟨happening, hbefore, hfails⟩ hsettled).not_succeeds⟩
    have hlater := (hkept.calls other _ hcall _ hkept.scene hwithin rfl).segment.1
    have hidle : Throughout IdleOnceFailed (newer ++ ⟨other, .did before assignment⟩ :: older) := by
      rw [← hhistory]
      exact hlater.idle
    exact hidle.split ⟨happening, mem_logOf.mpr (hsuffix.mem (mem_logOf.mp hbefore)), hfails⟩

/-- The claim, along every run within the session. -/
theorem single_flight (hbegins : Begins first memory)
    (hreaches : Loop.Reaches client (Within first) (.initial memory world) p) :
    SingleFlight first p := by
  have hkept := flow_of_reaches hbegins hreaches
  have hflow := hkept.scene
  constructor
  · exact hflow.single
  · exact hflow.rotations.session
  · exact hflow.rotations.presents
  · exact hflow.rotations.neverReplayed
  · intro request observed current hobserved hsession hreplaced
    have hlive : p.scene.memory.terminated = false := by
      by_contra hover
      have hnone := (hflow.ending.ended (by simpa using hover)).2.2
      rw [hsession] at hnone
      cases hnone
    have hsegment : client.segment p.calls.length (client.task request p.calls.length)
        (p.scene.notes p.calls.length (.started request)) = _ :=
      segment_replaced hobserved hlive hsession hreplaced
    unfold Loop.step
    simp only [hsegment]
    rfl
  · exact fun hgiven ↦ (hflow.ending.ended (hflow.ending.terminated_iff.mpr hgiven)).2.1
  · intro hnot
    have hlive : ¬ p.scene.memory.terminated = true := fun hover ↦
      hnot (hflow.ending.terminated_iff.mp hover)
    exact (hflow.ending.live (by simpa using hlive)).2.1
  · intro record hrecord hrejection hgone
    rcases hflow.ending.rejected record hrecord hrejection with hover | ⟨-, hwaiting⟩
    · exact hflow.ending.terminated_iff.mp hover
    · exact absurd hwaiting hgone
  · intro observed later hfinds hstep
    rw [← Option.some.inj hstep]
    exact segment_agedOut hfinds
  · exact hflow.ending.silent
  · intro caller event later hevent hstep hfailed
    exact transient_of_kept hkept hevent hstep hfailed

end Runs

/-! ### A chain that ages out during its refresh -/

namespace AgedOutInFlight

open TwoSessions

/-- A process that holds the first session. -/
def memory : Memory :=
  { Memory.launched 0 with session := .activeSession (tokens "first") }

instance (first : SessionTokens) (refreshToken : String) (history : ClientHistory) :
    Decidable (Unseen first refreshToken history) :=
  inferInstanceAs (Decidable (_ ∧ ∀ record ∈ history, _))

instance : DecidablePred Request.IsRefresh
  | .ensureUsable _ | .refreshAfterRejection _ => isTrue trivial
  | .adoptSession _ | .clearLocalCredentials | .endSession _ | .abandonPersistedSession
  | .switchTenant _ | .start | .restart | .abandonLockedSession | .onMfaChallenge
  | .onSessionEnded => isFalse id

/-- Every response has a new refresh token. -/
def Rotating (s : ClientScene) : ClientEvent → Prop
  | .start request => request.IsRefresh
  | .answer _ (.responds (.payload payload)) =>
    ∀ refreshToken ∈ payload.refreshToken.text?, Unseen (tokens "first") refreshToken s.history
  | .answer _ _ | .resume _ | .tick _ => True

instance (s : ClientScene) : DecidablePred (Rotating s)
  | .start request => inferInstanceAs (Decidable request.IsRefresh)
  | .answer _ (.responds (.payload payload)) =>
    inferInstanceAs (Decidable (∀ refreshToken ∈ payload.refreshToken.text?, _))
  | .answer _ (.responds (.apiException _)) | .answer _ (.responds .thrown)
  | .answer _ .succeeds | .answer _ .refuses | .answer _ .unavailable | .answer _ (.lock _)
  | .resume _ | .tick _ => isTrue trivial

theorem Rotating.undisturbed {s : ClientScene} {event : ClientEvent} (hrotating : Rotating s event) :
    Undisturbed (tokens "first") s event := by
  cases event with
  | start request => exact hrotating
  | answer caller oracle =>
    rintro payload rfl sessionId rotated hdecode
    refine hrotating rotated.refreshToken ?_
    rw [SessionPayload.refreshToken_of_decode hdecode]
    rfl
  | resume caller => trivial
  | tick now => trivial

/-- A refresh of the first session is answered. -/
def rotated : List ClientEvent :=
  [.start (.ensureUsable (tokens "first")), .answer 0 (.responds (.payload (rotation "second"))),
    .resume 0]

/-- Before the refresh goes on, another caller finds the chain aged out. -/
def outlived : ClientProcess :=
  client.finish (.initial memory emptyWorld)
    (rotated ++ [.tick 2000000, .start (.ensureUsable (tokens "first")), .answer 0 .succeeds,
      .resume 0])

/-- The refresh goes on at once. -/
def refreshed : ClientProcess :=
  client.finish (.initial memory emptyWorld) (rotated ++ [.answer 0 .succeeds, .resume 0])

/-- What the latest call has returned. -/
def latestReply (p : ClientProcess) : Option Reply :=
  match p.calls.getLast? with
  | some ⟨_, .suspended (.pure reply)⟩ => some reply
  | _ => none

end AgedOutInFlight

open TwoSessions AgedOutInFlight in
/-- A session that has been given up gets the tokens of its refresh, and a caller who asks for them
is told that the session has expired. -/
theorem not_single_flight :
    ¬ ∀ first memory world (p : ClientProcess), Begins first memory →
      Loop.Reaches client (Undisturbed first) (.initial memory world) p → SingleFlight first p := by
  intro hclaim
  have hreaches : Loop.Reaches client (Undisturbed (tokens "first"))
      (.initial AgedOutInFlight.memory emptyWorld) outlived :=
    (Loop.reaches_finish (by decide)).mono fun _ _ ↦ Rotating.undisturbed
  have hsingle := hclaim _ _ _ _ ⟨rfl, rfl, rfl⟩ hreaches
  have hreplaced := hsingle.replaced (.ensureUsable (tokens "first")) (tokens "first")
    { tokens "second" with sessionId := "session-first" } rfl (by decide) (by decide)
  have hexpired : (client.step outlived (.start (.ensureUsable (tokens "first")))).bind latestReply =
      some (.refresh (.result (.error (.sessionExpired .refreshRejected)))) := by
    decide
  rw [hreplaced] at hexpired
  simp [answeredAtOnce, latestReply] at hexpired

open TwoSessions AgedOutInFlight in
/-- A refresh that goes on at once. -/
theorem single_flight_refreshed :
    refreshed.scene.memory.session =
        .activeSession { tokens "second" with sessionId := "session-first" } ∧
      SingleFlight (tokens "first") refreshed := by
  have hreaches : Loop.Reaches client (fun s event ↦ Rotating s event ∧ BeforeGivenUp s event)
      (.initial AgedOutInFlight.memory emptyWorld) refreshed :=
    Loop.reaches_finish (by decide)
  have hsession : refreshed.scene.memory.session =
      .activeSession { tokens "second" with sessionId := "session-first" } := by
    decide
  exact ⟨hsession, single_flight ⟨rfl, rfl, rfl⟩
    (hreaches.mono fun _ _ hboth ↦ ⟨hboth.1.undisturbed, hboth.2⟩)⟩

end Karar.MobileClient
