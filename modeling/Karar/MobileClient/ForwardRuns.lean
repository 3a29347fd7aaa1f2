import Karar.MobileClient.MemoryForward

/-!
# Runs in which the credential only moves forward

Each task of the client keeps the scene advancing: an adoption takes a credential that has just
arrived, an end and an abandonment decide that there is none, a restore leaves what was decided, and
a refresh presents the token of the session that is held, which no received rotation belongs to.
-/

namespace Karar.MobileClient

open Foundation.EventLoop Foundation.Program

/-! ### What happens in a scene -/

/-- A happening that concerns no credential. -/
structure Plain (happening : ClientHappening) : Prop where
  arrival : arrivalBy happening = none
  adoption : adoptedBy happening = none
  decision : decisionBy happening = none
  restoration : restoredBy happening = none
  presentation : presentedBy happening = none
  reception : receivedBy happening = none
  reading : readBy happening = none
  writing : writtenBy happening = none

theorem Plain.entered {device : World} {happening : ClientHappening} (hplain : Plain happening)
    (caller : ℕ) (older : ClientHistory) : Entered device ⟨caller, happening⟩ older where
  arrival := by simp [hplain.arrival]
  adoption := by simp [hplain.adoption]
  presentation := by simp [hplain.presentation]
  reception := by simp [hplain.reception]
  reading := by simp [hplain.reading]
  writing := by simp [hplain.writing]

theorem plain_quiet {assignment : Assignment} (hquiet : assignment.Quiet) (before : Memory) :
    Plain (.did before assignment) := by
  cases assignment with
  | restored _ | adopted _ | ended | abandoned | terminated _ => exact hquiet.elim
  | _ => exact ⟨rfl, rfl, rfl, rfl, rfl, rfl, rfl, rfl⟩

theorem plain_terminated (isTerminated : Bool) (before : Memory) :
    Plain (.did before (.terminated isTerminated)) :=
  ⟨rfl, rfl, rfl, rfl, rfl, rfl, rfl, rfl⟩

theorem plain_asked {op : Operation} (hrefresh : ¬ op.IsRefresh) (hwrite : ¬ op.IsWrite) :
    Plain (.asked op) := by
  cases op with
  | identityRefresh refreshToken => exact absurd trivial hrefresh
  | writeSecure tokens => exact absurd trivial hwrite
  | _ => exact ⟨rfl, rfl, rfl, rfl, rfl, rfl, rfl, rfl⟩

/-- A quiet assignment settles no refresh. -/
theorem responds_quiet {assignment : Assignment} (hquiet : assignment.Quiet) (before : Memory) :
    responds (.did before assignment) = none := by
  cases assignment with
  | restored _ | adopted _ | ended | abandoned | terminated _ => exact hquiet.elim
  | _ => rfl

section Scenes

variable {device : World} {s : ClientScene} {caller : ℕ}

theorem Forward.acts_plain (hforward : Forward device s) (caller : ℕ) {assignment : Assignment}
    (hplain : Plain (.did s.memory assignment))
    (hsession : (assignment.perform s.memory).session = s.memory.session) :
    Forward device (client.acts caller assignment s) :=
  hforward.enter ⟨caller, .did s.memory assignment⟩ rfl (hplain.entered caller _)
    hplain.decision hplain.restoration hsession hforward.entry

theorem Advancing.acts_quiet (hadvancing : Advancing device s) (caller : ℕ)
    {assignment : Assignment} (hquiet : assignment.Quiet) : Advancing device (client.acts caller assignment s) where
  forward := hadvancing.forward.acts_plain caller (plain_quiet hquiet _) (hquiet.session _)
  latched := by
    refine hadvancing.latched.enter ⟨caller, .did s.memory assignment⟩ rfl
      (hquiet.terminated _) fun hsettled ↦ ⟨?_, rfl⟩
    exact fun hunsettled ↦ hsettled ((unsettled_cons_iff (responds_quiet hquiet _)).mpr hunsettled)

theorem Forward.acts_terminate (hforward : Forward device s) :
    Advancing device (client.acts caller (.terminated true) s) :=
  ⟨hforward.acts_plain caller (plain_terminated true _) rfl, latched_of_terminated rfl⟩

/-- The session is given up. -/
theorem Forward.acts_giveUp (hforward : Forward device s) {assignment : Assignment}
    (hgivesUp : assignment = .ended ∨ assignment = .abandoned) :
    Advancing device (client.acts caller assignment s) := by
  have hentered : Entered device ⟨caller, .did s.memory assignment⟩ s.history := by
    rcases hgivesUp with rfl | rfl <;>
      exact ⟨nofun, nofun, nofun, nofun, nofun, nofun⟩
  have hdecision : decisionBy (.did s.memory assignment) =
      some (assignment.perform s.memory).session := by
    rcases hgivesUp with rfl | rfl <;> rfl
  have hrestored : restoredBy (.did s.memory assignment) = none := by
    rcases hgivesUp with rfl | rfl <;> rfl
  refine ⟨?_, ?_⟩
  · exact hforward.decide ⟨caller, .did s.memory assignment⟩ rfl hentered hdecision
      hrestored rfl
  · refine latched_of_decision hforward.chronicle ⟨caller, .did s.memory assignment⟩
      rfl ?_ rfl
    rw [hdecision]
    rfl

/-- A credential that has arrived for the call is adopted. -/
theorem Forward.acts_adopt (hforward : Forward device s) {tokens : SessionTokens}
    (harrived : Arrived tokens.refreshToken (logOf caller s.history))
    (hnot : ¬ HasAdopted (logOf caller s.history)) :
    Advancing device (client.acts caller (.adopted tokens) s) := by
  have hentered : Entered device ⟨caller, .did s.memory (.adopted tokens)⟩ s.history := by
    refine ⟨nofun, fun adopted hadopted ↦ ?_, nofun, nofun, nofun, nofun⟩
    obtain rfl := Option.some.inj hadopted
    exact ⟨harrived, hnot⟩
  refine ⟨?_, ?_⟩
  · exact hforward.decide ⟨caller, .did s.memory (.adopted tokens)⟩ rfl hentered rfl
      rfl rfl
  · exact latched_of_decision hforward.chronicle ⟨caller, .did s.memory (.adopted tokens)⟩
      rfl rfl rfl

/-- A session is restored that agrees with what was decided. -/
theorem Advancing.acts_restore (hadvancing : Advancing device s) {state : SessionState}
    (hagrees : Agrees caller s.history state)
    (hknown : ∀ tokens, state = .activeSession tokens → Known device tokens s.history) :
    Advancing device (client.acts caller (.restored state) s) := by
  have hforward := hadvancing.forward
  refine ⟨⟨⟨?_, hforward.chronicle⟩, ⟨?_, hforward.backwards⟩, ?_, ?_, ?_⟩, ?_⟩
  · exact ⟨nofun, nofun, nofun, nofun, nofun, nofun⟩
  · intro restored hrestored
    obtain rfl := Option.some.inj hrestored
    exact hagrees
  · intro held hheld
    exact (hagrees held hheld).imp_right And.left
  · intro hdecided tokens htokens
    rcases hknown tokens htokens with hdevice | hadopted
    · exact hdevice
    · have hnone : decided s.history = none := hdecided
      exact absurd hnone (decided_of_adopted hadopted)
  · intro tokens htokens
    exact (hforward.entry tokens htokens).cons
  · exact hadvancing.latched.enter ⟨caller, .did s.memory (.restored state)⟩ rfl rfl
      fun hsettled ↦ ⟨fun hunsettled ↦ hsettled ((unsettled_cons_iff rfl).mpr hunsettled), rfl⟩

theorem Advancing.asked (hadvancing : Advancing device s) {op : Operation}
    (hentered : Entered device ⟨caller, .asked op⟩ s.history) :
    Advancing device (s.notes caller (.asked op)) where
  forward := hadvancing.forward.enter ⟨caller, .asked op⟩ rfl hentered rfl rfl rfl
    hadvancing.forward.entry
  latched := hadvancing.latched.enter ⟨caller, .asked op⟩ rfl rfl
    fun hsettled ↦ ⟨fun hunsettled ↦ hsettled ((unsettled_cons_iff rfl).mpr hunsettled), rfl⟩

end Scenes

/-! ### The tasks -/

/-- What a task keeps, together with a property of its own log, whatever it returns. -/
abbrev Advances (device : World) (own : List ClientHappening → Prop) (caller : ℕ) {T : Type}
    (task : ClientTask T) (s : ClientScene) : Prop :=
  Loop.Keeps client (Advancing device) (fun s caller ↦ Current device s (.resume caller)) caller
    (fun later _ ↦ Advancing device later ∧ own (logOf caller later.history)) task s

/-- A property of a log that only an adoption can end. -/
def Lasting (own : List ClientHappening → Prop) : Prop :=
  ∀ happening log, adoptedBy happening = none → own log → own (happening :: log)

section Tasks

variable {device : World} {own : List ClientHappening → Prop} {caller : ℕ} {s : ClientScene}
  {T : Type}

theorem Lasting.answered (hlasting : Lasting own) {op : Operation} {answer : op.Answer}
    {log : List ClientHappening} (hown : own log) :
    own (.answered op answer :: .asked op :: log) :=
  hlasting _ _ rfl (hlasting _ _ rfl hown)

/-- Still tasks keep the scene advancing. -/
theorem advances_still (hlasting : Lasting own) {task : ClientTask T} (huses : task.Uses Still)
    (hadvancing : Advancing device s) (hown : own (logOf caller s.history)) :
    Advances device own caller task s := by
  refine Loop.keeps_of_uses (fun s ↦ Advancing device s ∧ own (logOf caller s.history))
    ?_ ?_ ?_ huses ⟨hadvancing, hown⟩
  · intro s assignment hquiet hs
    refine ⟨hs.1.acts_quiet caller hquiet, ?_⟩
    rw [Loop.acts_history, logOf_cons_self]
    exact hlasting _ _ (plain_quiet hquiet _).adoption hs.2
  · intro s op hop hs
    exact hs.1.asked ((plain_asked hop.1 hop.2).entered caller _)
  · intro s later op answer _ hs hlater _ hlog
    refine ⟨hlater, ?_⟩
    rw [hlog]
    exact hlasting.answered hs.2

theorem awaited_advances (hlasting : Lasting own) {task : ClientTask T}
    (htask : Advances device own caller task s) : Advances device own caller (awaited task) s := by
  refine Loop.keeps_bind htask fun later result hlater ↦ ?_
  exact advances_still hlasting
    (uses_bind (uses_await still_microtask) fun _ ↦ uses_pure _) hlater.1 hlater.2

/-- The end of a session that is held. -/
theorem endActive_advances (hlasting : Lasting own) (reason : SessionEndReason)
    (hforward : Forward device s) (hown : own (logOf caller s.history)) :
    Advances device own caller (SessionManager.endActive reason) s := by
  refine Loop.keeps_act_bind ?_
  refine advances_still hlasting (still_of_housekeeping (endedSession_housekeeping reason))
    (hforward.acts_giveUp (.inl rfl)) ?_
  rw [Loop.acts_history, logOf_cons_self]
  exact hlasting _ _ rfl hown

theorem endSession_advances (hlasting : Lasting own) (reason : SessionEndReason)
    (hadvancing : Advancing device s) (hown : own (logOf caller s.history)) :
    Advances device own caller (SessionManager.endSession reason) s :=
  Loop.keeps_look_bind (Loop.keeps_ite (fun _ ↦ Loop.keeps_pure ⟨hadvancing, hown⟩) fun _ ↦
    endActive_advances hlasting reason hadvancing.forward hown)

theorem abandonPersistedSession_advances (hlasting : Lasting own) (hadvancing : Advancing device s)
    (hown : own (logOf caller s.history)) :
    Advances device own caller SessionManager.abandonPersistedSession s := by
  refine Loop.keeps_act_bind ?_
  refine advances_still hlasting (uses_awaited still_microtask
    (still_of_housekeeping SecureTokenStore.clear_housekeeping))
    (hadvancing.forward.acts_giveUp (.inr rfl)) ?_
  rw [Loop.acts_history, logOf_cons_self]
  exact hlasting _ _ rfl hown

theorem terminate_advances (hlasting : Lasting own) (reason : SessionEndReason)
    (hadvancing : Advancing device s) (hown : own (logOf caller s.history)) :
    Advances device own caller (TokenRefreshCoordinator.terminate reason) s := by
  refine Loop.keeps_act_bind ?_
  have hend : Advances device own caller (SessionManager.endSession reason)
      (client.acts caller (.terminated true) s) := by
    refine endSession_advances hlasting reason hadvancing.forward.acts_terminate ?_
    rw [Loop.acts_history, logOf_cons_self]
    exact hlasting _ _ rfl hown
  exact Loop.keeps_bind (awaited_advances hlasting hend) fun later result hlater ↦
    Loop.keeps_pure hlater

/-- Nothing is asked of the log. -/
theorem lasting_true : Lasting fun _ ↦ True :=
  fun _ _ _ _ ↦ trivial

/-- An adoption of a credential that has arrived for the call. -/
theorem adopt_advances {tokens : SessionTokens} (hforward : Forward device s)
    (harrived : Arrived tokens.refreshToken (logOf caller s.history))
    (hnot : ¬ HasAdopted (logOf caller s.history)) :
    Advances device (fun _ ↦ True) caller (SessionManager.adopt tokens) s := by
  refine Loop.keeps_act_bind ?_
  have hacts := hforward.acts_adopt harrived hnot
  refine awaited_advances lasting_true (Loop.keeps_await_bind (hacts.asked ?_) ?_)
  · refine ⟨nofun, nofun, nofun, nofun, nofun, fun written hwritten ↦ ?_⟩
    obtain rfl := Option.some.inj hwritten
    exact ⟨_, List.mem_cons_self, rfl⟩
  · intro written later hlater _ _
    exact advances_still lasting_true (still_of_housekeeping
      (SecureTokenStore.written_housekeeping written)) hlater trivial

/-! ### Restores -/

/-- A credential that is read was handed over by the secure store. -/
def Handed (stored : Result (Option SessionTokens)) (log : List ClientHappening) : Prop :=
  ∀ tokens, stored = .ok (some tokens) →
    .answered .readSecure (.ok (some (.tokens tokens))) ∈ log

theorem decode_eq_ok_some {stored : Result (Option StoredEntry)} {tokens : SessionTokens}
    (hdecode : stored >>= SecureTokenStore.decode = .ok (some tokens)) :
    stored = .ok (some (.tokens tokens)) := by
  obtain ⟨entry, rfl, hentry⟩ := Foundation.bind_eq_ok hdecode
  match entry, hentry with
  | some (.tokens stored), hentry =>
    rw [Option.some.inj (Except.ok.inj hentry)]

/-- What a read of the token store keeps, and what it returns. -/
abbrev Reads (device : World) (own : List ClientHappening → Prop) (caller : ℕ)
    (task : ClientTask (Result (Option SessionTokens))) (s : ClientScene) : Prop :=
  Loop.Keeps client (Advancing device) (fun s caller ↦ Current device s (.resume caller)) caller
    (fun later stored ↦ (Advancing device later ∧ own (logOf caller later.history)) ∧
      Handed stored (logOf caller later.history)) task s

theorem handed_error {failure : Failure} {log : List ClientHappening} :
    Handed (.error failure) log :=
  nofun

/-- A retried erase hands nothing back. -/
theorem retryErase_reads (hlasting : Lasting own) (hadvancing : Advancing device s)
    (hown : own (logOf caller s.history)) :
    Reads device own caller SecureTokenStore.retryErase s := by
  have hreturns : SecureTokenStore.retryErase.Returns
      fun stored ↦ ∀ tokens, stored ≠ .ok (some tokens) := by
    refine returns_bind fun erased ↦ ?_
    cases erased with
    | error failure => exact fun tokens ↦ nofun
    | ok _ => exact returns_bind fun _ ↦ returns_bind fun _ tokens ↦ nofun
  refine ((advances_still hlasting
    (still_of_housekeeping SecureTokenStore.retryErase_housekeeping) hadvancing hown).and_returns
    hreturns).mono fun later stored hlater ↦ ⟨hlater.1, fun tokens hstored ↦ ?_⟩
  exact absurd hstored (hlater.2 tokens)

theorem readStored_reads (hlasting : Lasting own) (hadvancing : Advancing device s)
    (hown : own (logOf caller s.history)) :
    Reads device own caller (awaited SecureTokenStore.readStored) s := by
  have hplain (op : Operation) (hrefresh : ¬ op.IsRefresh) (hwrite : ¬ op.IsWrite)
      (older : ClientHistory) : Entered device ⟨caller, .asked op⟩ older :=
    (plain_asked hrefresh hwrite).entered caller older
  refine Loop.keeps_await_bind (hadvancing.asked (hplain .readSecure id id _)) ?_
  intro stored later hlater _ hlog
  refine Loop.keeps_await_bind (hlater.asked (hplain .microtask id id _)) ?_
  intro _ last hlast _ hlast_log
  refine Loop.keeps_pure ⟨⟨hlast, ?_⟩, fun tokens hstored ↦ ?_⟩
  · rw [hlast_log, hlog]
    exact hlasting.answered (hlasting.answered hown)
  · rw [hlast_log, hlog, decode_eq_ok_some hstored]
    simp

theorem readUnlessAbandoned_reads (hlasting : Lasting own) (hadvancing : Advancing device s)
    (hown : own (logOf caller s.history)) :
    Reads device own caller SecureTokenStore.readUnlessAbandoned s :=
  Loop.keeps_look_bind (Loop.keeps_ite
    (fun _ ↦ retryErase_reads hlasting hadvancing hown)
    fun _ ↦ readStored_reads hlasting hadvancing hown)

theorem read_reads (hlasting : Lasting own) (hadvancing : Advancing device s)
    (hown : own (logOf caller s.history)) :
    Reads device own caller SecureTokenStore.read s := by
  refine Loop.keeps_await_bind (hadvancing.asked
    ((plain_asked id id).entered caller _)) ?_
  intro marker later hlater _ hlog
  have hlater_own : own (logOf caller later.history) := by
    rw [hlog]
    exact hlasting.answered hown
  match marker with
  | .unavailable => exact Loop.keeps_pure ⟨⟨hlater, hlater_own⟩, handed_error⟩
  | .corrupt => exact Loop.keeps_pure ⟨⟨hlater, hlater_own⟩, handed_error⟩
  | .value true => exact retryErase_reads hlasting hlater hlater_own
  | .value false => exact readUnlessAbandoned_reads hlasting hlater hlater_own
  | .absent => exact readUnlessAbandoned_reads hlasting hlater hlater_own

theorem restore_advances (hlasting : Lasting own) (hadvancing : Advancing device s)
    (hown : own (logOf caller s.history)) :
    Advances device own caller SessionManager.restore s := by
  refine Loop.keeps_bind (read_reads hlasting hadvancing hown) fun later stored hlater ↦ ?_
  obtain ⟨⟨hlater, hlater_own⟩, hhanded⟩ := hlater
  refine Loop.keeps_await_bind (hlater.asked
    ((plain_asked id id).entered caller _)) ?_
  intro _ last hlast hcurrent hlog
  have hagrees : Agrees caller last.history (SessionManager.restoredState stored) :=
    hcurrent stored (by rw [hlog]; rfl)
  refine Loop.keeps_act_bind (Loop.keeps_pure ⟨hlast.acts_restore hagrees fun tokens hstate ↦ ?_, ?_⟩)
  · have hstored : stored = .ok (some tokens) := by
      match stored, hstate with
      | .ok (some restored), hstate => rw [SessionState.activeSession.inj hstate]
    have hread : .answered .readSecure (.ok (some (.tokens tokens))) ∈
        logOf caller last.history := by
      rw [hlog]
      exact List.mem_cons_of_mem _ (List.mem_cons_of_mem _ (hhanded tokens hstored))
    exact hlast.forward.chronicle.known_of_read hread
  · rw [Loop.acts_history, logOf_cons_self, hlog]
    exact hlasting _ _ rfl (hlasting.answered hlater_own)

/-! ### Refreshes -/

/-- An outcome with tokens has arrived for the call. -/
def Delivered (outcome : RefreshOutcome) (log : List ClientHappening) : Prop :=
  ∀ tokens, outcome = .result (.ok tokens) → Arrived tokens.refreshToken log

theorem settle_advances (outcome : RefreshOutcome) (hadvancing : Advancing device s)
    (hdelivered : Delivered outcome (logOf caller s.history))
    (hnot : ¬ HasAdopted (logOf caller s.history)) :
    Advances device (fun _ ↦ True) caller (TokenRefreshCoordinator.settle outcome) s := by
  match outcome with
  | .thrown => exact Loop.keeps_pure ⟨hadvancing, trivial⟩
  | .result (.ok tokens) =>
    have hadopt := adopt_advances hadvancing.forward (hdelivered tokens rfl) hnot
    exact Loop.keeps_bind (awaited_advances lasting_true hadopt) fun later result hlater ↦
      Loop.keeps_pure hlater
  | .result (.error failure) =>
    refine Loop.keeps_ite (fun _ ↦ ?_) fun _ ↦ Loop.keeps_pure ⟨hadvancing, trivial⟩
    have hterminate : Advances device (fun _ ↦ True) caller
        (TokenRefreshCoordinator.terminate .refreshTokenReuseDetected) s :=
      terminate_advances lasting_true _ hadvancing trivial
    exact Loop.keeps_bind (awaited_advances lasting_true hterminate) fun later result hlater ↦
      Loop.keeps_pure hlater

/-- The token of the session that is held may be presented. -/
theorem Advancing.presentable (hadvancing : Advancing device s) {current : SessionTokens}
    (hsession : s.memory.session = .activeSession current) (hlive : s.memory.terminated = false)
    (hsettled : ∀ record ∈ s.history, ¬ Unsettled (logOf record.caller s.history)) :
    KnownToken device current.refreshToken s.history ∧
      ¬ Received current.refreshToken s.history := by
  have hforward := hadvancing.forward
  constructor
  · refine ⟨current, ?_, rfl⟩
    cases hdecided : decided s.history with
    | none => exact .inl (hforward.untouched hdecided current hsession)
    | some held =>
      rcases hforward.current held hdecided with hheld | hnone
      · exact .inr (adopted_of_decided (by rw [hdecided, ← hheld, hsession]))
      · rw [hsession] at hnone
        cases hnone
  · rintro ⟨record, hrecord, hreceived⟩
    have hlatched := hadvancing.latched record.caller current.refreshToken
      ⟨record.happening, mem_logOf.mpr hrecord, hreceived⟩ (hsettled record hrecord)
    rcases hlatched with hterminated | hsince
    · rw [hlive] at hterminated
      cases hterminated
    · obtain ⟨held, hheld⟩ := Option.ne_none_iff_exists'.mp hsince.decided_ne_none
      rcases hforward.current held hheld with hmemory | hnone
      · have hdecided : decided s.history = some (.activeSession current) := by
          rw [hheld, ← hmemory, hsession]
        exact hforward.chronicle.decided_ne_presented hsince hdecided rfl
      · rw [hsession] at hnone
        cases hnone

theorem received_quiet {history : ClientHistory} {refreshToken : String} {before : Memory}
    {assignment : Assignment} :
    Received refreshToken (⟨caller, .did before assignment⟩ :: history) ↔
      Received refreshToken history := by
  simp [Received, receivedBy]

theorem not_hasAdopted_answered {op : Operation} {answer : op.Answer} {log : List ClientHappening}
    (hnot : ¬ HasAdopted log) : ¬ HasAdopted (.answered op answer :: .asked op :: log) := by
  simpa [hasAdopted_cons, adoptedBy] using hnot

theorem performRefresh_advances {current : SessionTokens} (hadvancing : Advancing device s)
    (hknown : KnownToken device current.refreshToken s.history)
    (hreceived : ¬ Received current.refreshToken s.history)
    (hnot : ¬ HasAdopted (logOf caller s.history)) :
    Advances device (fun _ ↦ True) caller
      (TokenRefreshCoordinator.performRefresh caller current.refreshToken) s := by
  refine Loop.keeps_act_bind (Loop.keeps_act_bind ?_)
  have hcounted : Advancing device (client.acts caller .refreshCallCount s) :=
    hadvancing.acts_quiet caller trivial
  have hslot : Advancing device (client.acts caller (.inFlight (some caller))
      (client.acts caller .refreshCallCount s)) :=
    hcounted.acts_quiet caller trivial
  refine Loop.keeps_await_bind (hslot.asked ?_) ?_
  · refine ⟨nofun, nofun, fun presented hpresented ↦ ?_, nofun, nofun, nofun⟩
    obtain rfl := Option.some.inj hpresented
    exact ⟨hknown.cons.cons, fun hnew ↦ hreceived (received_quiet.mp (received_quiet.mp hnew))⟩
  · intro response later hlater _ hlog
    have hlater_not : ¬ HasAdopted (logOf caller later.history) := by
      rw [hlog]
      refine not_hasAdopted_answered ?_
      simpa [hasAdopted_cons, adoptedBy] using hnot
    have hrest (outcome : RefreshOutcome)
        (hdelivered : Delivered outcome (logOf caller later.history)) :
        Advances device (fun _ ↦ True) caller
          (do
            await (.refreshed outcome)
            let reply ← TokenRefreshCoordinator.settle outcome
            act (.inFlight none)
            return reply) later := by
      refine Loop.keeps_await_bind (hlater.asked
        ((plain_asked id id).entered caller _)) ?_
      intro _ last hlast _ hlast_log
      refine Loop.keeps_bind (settle_advances outcome hlast ?_ ?_) ?_
      · intro tokens houtcome
        rw [hlast_log]
        exact arrived_cons.mpr (.inr (arrived_cons.mpr (.inr (hdelivered tokens houtcome))))
      · rw [hlast_log]
        exact not_hasAdopted_answered hlater_not
      · intro final reply hfinal
        exact advances_still lasting_true
          (uses_bind (uses_act trivial) fun _ ↦ uses_pure _) hfinal.1 trivial
    cases response with
    | payload payload =>
      refine Loop.keeps_look_bind (hrest _ fun tokens houtcome ↦ ?_)
      have htoken := payload.refreshToken_of_decode (RefreshOutcome.result.inj houtcome)
      rw [hlog]
      refine arrived_cons.mpr (.inl ?_)
      simp [arrivalBy, htoken, WireValue.text?]
    | apiException failure => exact hrest _ (by simp [Delivered])
    | thrown => exact hrest _ (by simp [Delivered])

/-- A caller of the coordinator, where no response waits to be settled. -/
theorem joinOrRefresh_advances {current : SessionTokens} (hadvancing : Advancing device s)
    (hsession : s.memory.session = .activeSession current) (hlive : s.memory.terminated = false)
    (hnot : ¬ HasAdopted (logOf caller s.history))
    (hsettled : s.memory.inFlight = none →
      ∀ record ∈ s.history, ¬ Unsettled (logOf record.caller s.history)) :
    Advances device (fun _ ↦ True) caller
      (TokenRefreshCoordinator.joinOrRefresh caller current s.memory) s := by
  unfold TokenRefreshCoordinator.joinOrRefresh
  cases hflight : s.memory.inFlight with
  | some flight => exact Loop.keeps_pure ⟨hadvancing, trivial⟩
  | none =>
    obtain ⟨hknown, hreceived⟩ := hadvancing.presentable hsession hlive (hsettled hflight)
    exact performRefresh_advances hadvancing hknown hreceived hnot

theorem ensureUsable_advances (observed : SessionTokens) (hadvancing : Advancing device s)
    (hnot : ¬ HasAdopted (logOf caller s.history))
    (hsettled : (Request.ensureUsable observed).AsksForRefresh s.memory →
      ∀ record ∈ s.history, ¬ Unsettled (logOf record.caller s.history)) :
    Advances device (fun _ ↦ True) caller
      (TokenRefreshCoordinator.ensureUsable caller observed) s := by
  have hnow : Advancing device s ∧ True := ⟨hadvancing, trivial⟩
  refine Loop.keeps_look_bind (Loop.keeps_ite (fun _ ↦ Loop.keeps_pure hnow) fun hlive ↦ ?_)
  cases hsession : s.memory.session with
  | noSession => exact Loop.keeps_pure hnow
  | activeSession current =>
    refine Loop.keeps_ite (fun _ ↦ Loop.keeps_pure hnow) fun hsame ↦ ?_
    refine Loop.keeps_ite (fun _ ↦ Loop.keeps_pure hnow) fun haged ↦ ?_
    refine Loop.keeps_ite (fun _ ↦ ?_) fun hchain ↦ ?_
    · have hterminate : Advances device (fun _ ↦ True) caller
          (TokenRefreshCoordinator.terminate .expired) s :=
        terminate_advances lasting_true _ hadvancing trivial
      exact Loop.keeps_bind hterminate fun later result hlater ↦ Loop.keeps_pure hlater
    · refine joinOrRefresh_advances hadvancing hsession (by simpa using hlive) hnot ?_
      refine fun hslot ↦ hsettled ⟨by simpa using hlive, hslot, current, ?_⟩
      exact ⟨by simp [hsession, SessionState.tokens], not_not.mp hsame, not_not.mp haged, hchain⟩

theorem refreshAfterRejection_advances (observed : SessionTokens)
    (hadvancing : Advancing device s) (hnot : ¬ HasAdopted (logOf caller s.history))
    (hsettled : (Request.refreshAfterRejection observed).AsksForRefresh s.memory →
      ∀ record ∈ s.history, ¬ Unsettled (logOf record.caller s.history)) :
    Advances device (fun _ ↦ True) caller
      (TokenRefreshCoordinator.refreshAfterRejection caller observed) s := by
  have hnow : Advancing device s ∧ True := ⟨hadvancing, trivial⟩
  refine Loop.keeps_look_bind (Loop.keeps_ite (fun _ ↦ Loop.keeps_pure hnow) fun hlive ↦ ?_)
  cases hsession : s.memory.session with
  | noSession => exact Loop.keeps_pure hnow
  | activeSession current =>
    refine Loop.keeps_ite (fun _ ↦ Loop.keeps_pure hnow) fun hsame ↦ ?_
    refine joinOrRefresh_advances hadvancing hsession (by simpa using hlive) hnot ?_
    refine fun hslot ↦ hsettled ⟨by simpa using hlive, hslot, current, ?_⟩
    exact ⟨by simp [hsession, SessionState.tokens], not_not.mp hsame⟩

/-! ### Sign-in, sign-out, tenant switch -/

theorem adoptSession_advances {payload : SessionPayload} (hadvancing : Advancing device s)
    (harrived : ∀ refreshToken ∈ payload.refreshToken.text?,
      Arrived refreshToken (logOf caller s.history))
    (hnot : ¬ HasAdopted (logOf caller s.history)) :
    Advances device (fun _ ↦ True) caller (SessionAdoption.adopt payload) s := by
  unfold SessionAdoption.adopt
  cases hdecode : payload.decode none with
  | error failure => exact Loop.keeps_pure ⟨hadvancing, trivial⟩
  | ok value =>
    -- The reset falls into the segment of the adoption, which decides the session anew.
    refine Loop.keeps_act_bind (Loop.keeps_act_bind ?_)
    have hunlatched : Forward device (client.acts caller (.terminated false) s) :=
      hadvancing.forward.acts_plain caller (plain_terminated false _) rfl
    have hempty : Assignment.Quiet (.inFlight none) := trivial
    have hreset : Forward device (client.acts caller (.inFlight none)
        (client.acts caller (.terminated false) s)) :=
      hunlatched.acts_plain caller (plain_quiet hempty _) rfl
    have hlog : logOf caller (client.acts caller (.inFlight none)
        (client.acts caller (.terminated false) s)).history =
        .did { s.memory with terminated := false } (.inFlight none) ::
          .did s.memory (.terminated false) :: logOf caller s.history := by
      simp [client, Assignment.perform]
    have harrived_value : Arrived value.refreshToken (logOf caller (client.acts caller
        (.inFlight none) (client.acts caller (.terminated false) s)).history) := by
      rw [hlog]
      refine arrived_cons.mpr (.inr (arrived_cons.mpr (.inr (harrived _ ?_))))
      rw [payload.refreshToken_of_decode hdecode]
      rfl
    have hnot_value : ¬ HasAdopted (logOf caller (client.acts caller
        (.inFlight none) (client.acts caller (.terminated false) s)).history) := by
      rw [hlog]
      simpa [hasAdopted_cons, adoptedBy] using hnot
    have hadopt := adopt_advances hreset harrived_value hnot_value
    refine Loop.keeps_bind (awaited_advances lasting_true hadopt) fun later adopted hlater ↦ ?_
    cases adopted with
    | ok _ => exact Loop.keeps_pure hlater
    | error failure =>
      have hend : Advances device (fun _ ↦ True) caller
          (SessionManager.endSession .signedOut) later :=
        endSession_advances lasting_true _ hlater.1 trivial
      exact Loop.keeps_bind (awaited_advances lasting_true hend) fun last outcome hlast ↦
        Loop.keeps_pure hlast

theorem switchTenant_advances {tokens : SessionTokens} (hadvancing : Advancing device s)
    (harrived : Arrived tokens.refreshToken (logOf caller s.history))
    (hnot : ¬ HasAdopted (logOf caller s.history)) :
    Advances device (fun _ ↦ True) caller (ApiTenantBindingRepository.adopt tokens) s := by
  have hlasting : Lasting fun log ↦ Arrived tokens.refreshToken log ∧ ¬ HasAdopted log := by
    intro happening log hadopted hown
    exact ⟨arrived_cons.mpr (.inr hown.1), by simpa [hasAdopted_cons, hadopted] using hown.2⟩
  have hend := endSession_advances hlasting .revoked hadvancing ⟨harrived, hnot⟩
  refine Loop.keeps_bind (awaited_advances hlasting hend) fun later outcome hlater ↦ ?_
  have hadopt := adopt_advances hlater.1.forward hlater.2.1 hlater.2.2
  exact Loop.keeps_bind (awaited_advances lasting_true hadopt) fun last stored hlast ↦
    Loop.keeps_pure hlast

theorem clearLocalCredentials_advances (hadvancing : Advancing device s) :
    Advances device (fun _ ↦ True) caller SessionAdoption.clearLocalCredentials s := by
  have habandon : Advances device (fun _ ↦ True) caller SessionManager.abandonPersistedSession s :=
    abandonPersistedSession_advances lasting_true hadvancing trivial
  refine Loop.keeps_bind (awaited_advances lasting_true habandon) fun later outcome hlater ↦ ?_
  exact advances_still lasting_true
    (uses_bind (uses_awaited still_microtask
      (still_of_housekeeping deleteAll_housekeeping)) fun _ ↦ uses_pure _) hlater.1 trivial

/-! ### The startup coordinator -/

theorem nextGeneration_still : StartupCoordinator.nextGeneration.Uses Still :=
  uses_bind (uses_act trivial) fun _ ↦ uses_bind (uses_look trivial) fun _ ↦ uses_pure _

theorem endExpired_advances (hadvancing : Advancing device s) :
    Advances device (fun _ ↦ True) caller StartupCoordinator.endExpired s := by
  refine Loop.keeps_look_bind ?_
  cases s.memory.session with
  | noSession => exact Loop.keeps_pure ⟨hadvancing, trivial⟩
  | activeSession tokens =>
    refine Loop.keeps_ite (fun _ ↦ ?_) fun _ ↦ Loop.keeps_pure ⟨hadvancing, trivial⟩
    have hend : Advances device (fun _ ↦ True) caller (SessionManager.endSession .expired) s :=
      endSession_advances lasting_true _ hadvancing trivial
    exact Loop.keeps_bind (awaited_advances lasting_true hend) fun later outcome hlater ↦
      Loop.keeps_pure hlater

theorem restoreAndBootstrap_advances (generation : ℕ) (hadvancing : Advancing device s) :
    Advances device (fun _ ↦ True) caller
      (StartupCoordinator.restoreAndBootstrap generation) s := by
  have hrestore : Advances device (fun _ ↦ True) caller SessionManager.restore s :=
    restore_advances lasting_true hadvancing trivial
  refine Loop.keeps_bind (awaited_advances lasting_true hrestore) fun later restored hlater ↦ ?_
  refine Loop.keeps_look_bind (Loop.keeps_ite (fun _ ↦ Loop.keeps_pure hlater) fun _ ↦ ?_)
  match restored with
  | .error failure => exact Loop.keeps_pure hlater
  | .ok none => exact Loop.keeps_pure hlater
  | .ok (some tokens) => exact endExpired_advances hlater.1

theorem start_advances (hadvancing : Advancing device s) :
    Advances device (fun _ ↦ True) caller StartupCoordinator.start s := by
  refine Loop.keeps_bind (advances_still lasting_true nextGeneration_still hadvancing trivial)
    fun later generation hlater ↦ ?_
  refine Loop.keeps_await_bind (hlater.1.asked
    ((plain_asked id id).entered caller _)) ?_
  intro isOpen last hlast _ _
  have hnow : Advancing device last ∧ True := ⟨hlast, trivial⟩
  refine Loop.keeps_look_bind (Loop.keeps_ite (fun _ ↦ Loop.keeps_pure hnow) fun _ ↦ ?_)
  exact Loop.keeps_ite (fun _ ↦ restoreAndBootstrap_advances generation hlast)
    fun _ ↦ Loop.keeps_pure hnow

theorem restart_advances (hadvancing : Advancing device s) :
    Advances device (fun _ ↦ True) caller StartupCoordinator.restart s :=
  Loop.keeps_bind (advances_still lasting_true nextGeneration_still hadvancing trivial)
    fun _ generation hlater ↦ restoreAndBootstrap_advances generation hlater.1

theorem abandonLockedSession_advances (hadvancing : Advancing device s) :
    Advances device (fun _ ↦ True) caller StartupCoordinator.abandonLockedSession s := by
  refine Loop.keeps_bind (advances_still lasting_true nextGeneration_still hadvancing trivial)
    fun later generation hlater ↦ ?_
  have habandon : Advances device (fun _ ↦ True) caller SessionManager.abandonPersistedSession
      later :=
    abandonPersistedSession_advances lasting_true hlater.1 trivial
  exact Loop.keeps_bind (awaited_advances lasting_true habandon) fun last outcome hlast ↦
    Loop.keeps_pure hlast

theorem onSessionEnded_still : StartupCoordinator.onSessionEnded.Uses Still := by
  refine uses_bind (uses_look trivial) fun m ↦ ?_
  cases m.ended with
  | nil => exact uses_pure _
  | cons event events => exact uses_bind (uses_act trivial) fun _ ↦ uses_act trivial

/-- Every call, from its start: what arrives with it has arrived for it. -/
theorem task_advances (request : Request) (hadvancing : Advancing device s)
    (hlog : logOf caller s.history = [.started request])
    (hsettled : request.AsksForRefresh s.memory →
      ∀ record ∈ s.history, ¬ Unsettled (logOf record.caller s.history)) :
    Loop.Keeps client (Advancing device) (fun s caller ↦ Current device s (.resume caller)) caller
      (fun later _ ↦ Advancing device later) (client.task request caller) s := by
  have hnot : ¬ HasAdopted (logOf caller s.history) := by
    rw [hlog]
    simp [HasAdopted, adoptedBy]
  have hpart {T : Type} {part : ClientTask T} (reply : T → Reply)
      (hpart : Advances device (fun _ ↦ True) caller part s) :
      Loop.Keeps client (Advancing device) (fun s caller ↦ Current device s (.resume caller)) caller
        (fun later _ ↦ Advancing device later) (part >>= fun result ↦ Pure.pure (reply result)) s :=
    Loop.keeps_bind hpart fun later result hlater ↦ Loop.keeps_pure hlater.1
  cases request with
  | ensureUsable observed =>
    exact hpart .refresh (ensureUsable_advances observed hadvancing hnot hsettled)
  | refreshAfterRejection observed =>
    exact hpart .refresh
      (refreshAfterRejection_advances observed hadvancing hnot hsettled)
  | adoptSession payload =>
    refine hpart .established (adoptSession_advances hadvancing ?_ hnot)
    intro refreshToken htoken
    rw [hlog]
    exact arrived_cons.mpr (.inl htoken)
  | clearLocalCredentials =>
    exact hpart (fun _ ↦ .completed) (clearLocalCredentials_advances hadvancing)
  | endSession reason =>
    exact hpart .abandoned (endSession_advances lasting_true reason hadvancing trivial)
  | abandonPersistedSession =>
    exact hpart .abandoned
      (abandonPersistedSession_advances lasting_true hadvancing trivial)
  | switchTenant tokens =>
    refine hpart (fun _ ↦ .completed) (switchTenant_advances hadvancing ?_ hnot)
    rw [hlog]
    exact arrived_cons.mpr (.inl rfl)
  | start => exact hpart (fun _ ↦ .completed) (start_advances hadvancing)
  | restart => exact hpart (fun _ ↦ .completed) (restart_advances hadvancing)
  | abandonLockedSession =>
    exact hpart (fun _ ↦ .completed) (abandonLockedSession_advances hadvancing)
  | onMfaChallenge =>
    exact hpart (fun _ ↦ .completed)
      (advances_still lasting_true nextGeneration_still hadvancing trivial)
  | onSessionEnded =>
    exact hpart (fun _ ↦ .completed)
      (advances_still lasting_true onSessionEnded_still hadvancing trivial)

end Tasks

/-! ### Runs -/

theorem Chronicle.neverReplayed {device : World} {history : ClientHistory}
    (hchronicle : Chronicle device history) : NeverReplayed history := by
  induction history with
  | nil => trivial
  | cons record history ih =>
    exact ⟨fun refreshToken hpresented ↦
      (hchronicle.1.presentation refreshToken hpresented).2, ih hchronicle.2⟩

section Answers

variable {device : World} {s : ClientScene} {caller : ℕ} {oracle : Oracle} {op : Operation}
  {earlier : List ClientHappening} {world : World} {answer : op.Answer}

/-- What the world stores after an answer is a credential that the process knows. -/
theorem Forward.entry_of_answer (hforward : Forward device s)
    (hlog : logOf caller s.history = .asked op :: earlier)
    (hanswer : s.world.answer op oracle = some (world, answer)) :
    ∀ tokens, world.entry = some (.tokens tokens) → Known device tokens s.history := by
  intro tokens htokens
  rcases World.entry_of_answer hanswer with hsame | ⟨rfl, hwrites⟩
  · exact hforward.entry tokens (hsame ▸ htokens)
  · cases op with
    | writeSecure written =>
      have hworld := (Prod.mk.inj (Option.some.inj hanswer)).1
      rw [← hworld] at htokens
      obtain rfl := StoredEntry.tokens.inj (Option.some.inj htokens)
      have hasked : .asked (.writeSecure written) ∈ logOf caller s.history := by
        rw [hlog]
        exact List.mem_cons_self
      exact .inr (hforward.chronicle.adopted_of_written hasked)
    | deleteSecure =>
      have hworld := (Prod.mk.inj (Option.some.inj hanswer)).1
      rw [← hworld] at htokens
      cases htokens
    | _ => exact hwrites.elim

/-- An answer is in order: a response brings a token that is fresh, and what is read is known. -/
theorem entered_answered (hforward : Forward device s)
    (hcurrent : Current device s (.answer caller oracle))
    (hlog : logOf caller s.history = .asked op :: earlier)
    (hanswer : s.world.answer op oracle = some (world, answer)) :
    Entered device ⟨caller, .answered op answer⟩ s.history := by
  refine ⟨fun refreshToken harrival ↦ ?_, nofun, nofun, fun refreshToken hreception ↦ ?_,
    fun tokens hreading ↦ ?_, nofun⟩
  · cases op with
    | identityRefresh presented =>
      cases answer with
      | payload payload =>
        cases oracle with
        | responds response =>
          obtain ⟨-, rfl⟩ := Prod.mk.inj (Option.some.inj hanswer)
          exact hcurrent payload rfl refreshToken harrival
        | _ => cases hanswer
      | _ => cases harrival
    | _ => cases harrival
  · cases op with
    | identityRefresh presented =>
      cases answer with
      | payload payload =>
        obtain rfl := Option.some.inj hreception
        rw [hlog]
        exact List.mem_cons_self
      | _ => cases hreception
    | _ => cases hreception
  · cases op with
    | readSecure =>
      rcases answer with failure | (_ | ⟨stored⟩ | _)
      · cases hreading
      · cases hreading
      · obtain rfl := Option.some.inj hreading
        cases oracle with
        | succeeds =>
          obtain ⟨-, hentry⟩ := Prod.mk.inj (Option.some.inj hanswer)
          exact hforward.entry stored (Except.ok.inj hentry)
        | _ => simp [World.answer] at hanswer
      · cases hreading
    | _ => cases hreading

/-- A response waits to be settled; no other answer changes what does. -/
theorem unsettled_answered (log : List ClientHappening)
    (hsettled : ¬ Unsettled (.answered op answer :: log)) :
    ¬ Unsettled log ∧ receivedBy (.answered op answer) = none := by
  have hnone : responds (.answered op answer) = none ∧ receivedBy (.answered op answer) = none := by
    cases op with
    | identityRefresh presented =>
      cases answer with
      | payload payload => exact absurd (.inl rfl) hsettled
      | apiException failure => exact ⟨rfl, rfl⟩
      | thrown => exact ⟨rfl, rfl⟩
    | _ => exact ⟨rfl, rfl⟩
  exact ⟨fun hunsettled ↦ hsettled ((unsettled_cons_iff hnone.1).mpr hunsettled), hnone.2⟩

/-- The world answers. -/
theorem Advancing.answered (hadvancing : Advancing device s)
    (hcurrent : Current device s (.answer caller oracle))
    (hlog : logOf caller s.history = .asked op :: earlier)
    (hanswer : s.world.answer op oracle = some (world, answer)) :
    Advancing device
      { s with world := world, history := ⟨caller, .answered op answer⟩ :: s.history } where
  forward := hadvancing.forward.enter ⟨caller, .answered op answer⟩ rfl
    (entered_answered hadvancing.forward hcurrent hlog hanswer) rfl rfl rfl
    (hadvancing.forward.entry_of_answer hlog hanswer)
  latched := hadvancing.latched.enter ⟨caller, .answered op answer⟩ rfl rfl
    (unsettled_answered _)

end Answers

theorem advancing_of_reaches {now : SharedKernel.Instant} {device : World} {p : ClientProcess}
    (hreaches : Loop.Reaches client (Current device) (launch now device) p) :
    Advancing device p.scene := by
  refine (Loop.Reaches.keeps (Advancing device) ?_ ?_ ?_ ?_ hreaches).scene
  · refine ⟨⟨trivial, trivial, nofun, nofun, fun tokens htokens ↦ .inl htokens⟩, ?_⟩
    rintro caller refreshToken ⟨happening, hmem, -⟩
    cases hmem
  · intro s request caller hadvancing hcurrent hlog
    refine task_advances request ⟨?_, ?_⟩ ?_ ?_
    · refine hadvancing.forward.enter ⟨caller, .started request⟩ rfl ?_ rfl rfl rfl
        hadvancing.forward.entry
      exact ⟨hcurrent.1, nofun, nofun, nofun, nofun, nofun⟩
    · exact hadvancing.latched.enter ⟨caller, .started request⟩ rfl rfl
        fun hsettled ↦ ⟨fun hunsettled ↦ hsettled ((unsettled_cons_iff rfl).mpr hunsettled), rfl⟩
    · rw [Scene.notes_history, logOf_cons_self, hlog]
    · intro hasks record hrecord hunsettled
      rw [Scene.notes_history, logOf_cons] at hunsettled
      split_ifs at hunsettled with hcaller
      · rw [← hcaller, hlog] at hunsettled
        exact (unsettled_cons_iff rfl).mp hunsettled
      · rcases List.mem_cons.mp hrecord with rfl | hrecord
        · exact hcaller rfl
        · exact hcurrent.2 hasks record hrecord hunsettled
  · intro s caller oracle op earlier world answer hadvancing hcurrent hlog hanswer
    exact hadvancing.answered hcurrent hlog hanswer
  · intro s tick hadvancing _
    exact ⟨⟨hadvancing.forward.chronicle, hadvancing.forward.backwards, hadvancing.forward.current,
      hadvancing.forward.untouched, hadvancing.forward.entry⟩, hadvancing.latched⟩

/-- In every run that meets the condition, no restore has moved the session in memory backwards, and
no refresh token was presented after its rotation had been received. -/
theorem credential_never_backwards {now : SharedKernel.Instant} {device : World}
    {p : ClientProcess} (hreaches : Loop.Reaches client (Current device) (launch now device) p) :
    NeverBackwards p.scene.history ∧ NeverReplayed p.scene.history :=
  have hadvancing := advancing_of_reaches hreaches
  ⟨hadvancing.forward.backwards, hadvancing.forward.chronicle.neverReplayed⟩

/-! ### A write that failed -/

namespace FailedWrite

open TwoSessions

/-- A device on which a session is stored whose access token has aged out. -/
def device : World := ⟨some (.tokens (tokens "first")), none⟩

def restored (caller : ℕ) : List ClientEvent :=
  .start .restart :: answered caller (List.replicate 5 .succeeds)

/-- A rotation is adopted; the secure store answers its write with an oracle. -/
def rotated (caller : ℕ) (written : List Oracle) : List ClientEvent :=
  .start (.ensureUsable (tokens "first")) ::
    answered caller ([.responds (.payload (rotation "second")), .succeeds] ++ written)

/-- The write of the rotation fails, and another restore reads the first credential again; the next
caller presents its refresh token a second time. -/
def replayed : ClientProcess :=
  client.finish (launch 0 device)
    (restored 0 ++ rotated 1 [.refuses, .succeeds, .succeeds] ++ restored 2 ++
      [.start (.ensureUsable (tokens "first"))])

/-- The write of the rotation succeeds. -/
def persisted : List ClientEvent :=
  restored 0 ++ rotated 1 (List.replicate 5 .succeeds) ++ restored 2

end FailedWrite

open FailedWrite in
/-- A restore replaces a credential that could not be persisted, and the refresh token it brings back
is presented after its rotation was received. -/
theorem not_credential_never_backwards :
    ¬ ∀ now device (p : ClientProcess),
      Loop.Reaches client (fun _ _ ↦ True) (launch now device) p →
        NeverBackwards p.scene.history ∧ NeverReplayed p.scene.history := by
  intro hclaim
  have hreaches : Loop.Reaches client (fun _ _ ↦ True) (launch 0 device) replayed :=
    Loop.reaches_finish (Loop.follows_true _ _)
  have hbackwards : ¬ NeverBackwards replayed.scene.history := by decide
  exact hbackwards (hclaim 0 device replayed hreaches).1

open FailedWrite in
/-- The rotation is persisted and restored. -/
theorem credential_never_backwards_persisted :
    NeverBackwards (client.finish (launch 0 device) persisted).scene.history ∧
      NeverReplayed (client.finish (launch 0 device) persisted).scene.history :=
  credential_never_backwards (Loop.reaches_finish (by decide))

end Karar.MobileClient
