import Karar.MobileClient.Conduct

/-!
# A refresh and the session it refreshes

A refresh outlives its session when another call ends or replaces the session while the refresh
runs. The coordinator does not notice: what the refresh brings is adopted over the session that
replaced it, and a rejection ends that session. Nor does it notice that a reset has emptied the slot
of the refresh in flight, so that a second refresh call starts beside the first.

In every run in which a refresh that has outlived its session brings nothing that matters, and in
which a refresh is asked for with an empty slot only when none is in flight, at most one refresh call
is in flight, and a refresh that has outlived its session changes nothing (`refresh_confined`).
-/

namespace Karar.MobileClient

open Foundation.EventLoop

/-! ### Refreshes in the history -/

instance : DecidablePred Operation.IsRefresh
  | .identityRefresh _ => isTrue trivial
  | .refreshed _ | .readSecure | .writeSecure _ | .deleteSecure | .listSecure | .readMarker
  | .writeMarker _ | .removeMarker | .readCredential _ | .loadLock | .microtask => isFalse id

def AsksRefresh : ClientHappening → Prop
  | .asked op => op.IsRefresh
  | .started _ | .did _ _ | .answered _ _ => False

instance : DecidablePred AsksRefresh
  | .asked op => inferInstanceAs (Decidable op.IsRefresh)
  | .started _ | .did _ _ | .answered _ _ => isFalse id

/-- The refresh call of a caller has been issued and has not been answered. -/
def InFlight (caller : ℕ) (history : ClientHistory) : Prop :=
  ∃ happening ∈ (logOf caller history).head?, AsksRefresh happening

instance (caller : ℕ) (history : ClientHistory) : Decidable (InFlight caller history) :=
  inferInstanceAs (Decidable (∃ happening ∈ (logOf caller history).head?, _))

def AtMostOneInFlight (history : ClientHistory) : Prop :=
  ∀ first second, InFlight first history → InFlight second history → first = second

/-- A caller has asked for a refresh. -/
def Refreshing (caller : ℕ) (history : ClientHistory) : Prop :=
  ∃ happening ∈ logOf caller history, AsksRefresh happening

instance (caller : ℕ) (history : ClientHistory) : Decidable (Refreshing caller history) :=
  inferInstanceAs (Decidable (∃ happening ∈ logOf caller history, _))

/-- An assignment that ended or replaced the session. -/
def ChangesSession : ClientHappening → Prop
  | .did before assignment => (assignment.perform before).session ≠ before.session
  | .started _ | .asked _ | .answered _ _ => False

instance : DecidablePred ChangesSession
  | .did before assignment =>
    inferInstanceAs (Decidable ((assignment.perform before).session ≠ before.session))
  | .started _ | .asked _ | .answered _ _ => isFalse id

/-- Since a caller asked for its refresh, another call has ended or replaced the session. -/
def Outlived (caller : ℕ) : ClientHistory → Prop
  | [] => False
  | record :: older =>
    Outlived caller older ∨
      record.caller ≠ caller ∧ Refreshing caller older ∧ ChangesSession record.happening

instance decidableOutlived (caller : ℕ) : ∀ history, Decidable (Outlived caller history)
  | [] => isFalse id
  | record :: older =>
    have := decidableOutlived caller older
    inferInstanceAs (Decidable (_ ∨ record.caller ≠ caller ∧ _))

section History

variable {caller : ℕ} {happening : ClientHappening} {record : ClientRecord}
  {history : ClientHistory}

theorem inFlight_cons_self : InFlight caller (⟨caller, happening⟩ :: history) ↔
    AsksRefresh happening := by
  simp [InFlight]

theorem inFlight_cons_of_ne {other : ℕ} (hne : other ≠ caller) :
    InFlight caller (⟨other, happening⟩ :: history) ↔ InFlight caller history := by
  unfold InFlight
  rw [logOf_cons_of_ne hne]

theorem InFlight.mem (hinFlight : InFlight caller history) :
    ∃ record ∈ history, record.caller = caller := by
  obtain ⟨happening, hhead, -⟩ := hinFlight
  exact ⟨_, mem_logOf.mp (List.mem_of_mem_head? hhead), rfl⟩

theorem Outlived.refreshing (houtlived : Outlived caller history) :
    Refreshing caller history := by
  induction history with
  | nil => exact houtlived.elim
  | cons record history ih =>
    have holder : Refreshing caller history := by
      rcases houtlived with houtlived | ⟨-, hrefreshing, -⟩
      · exact ih houtlived
      · exact hrefreshing
    obtain ⟨happening, hmem, hasks⟩ := holder
    exact ⟨happening, mem_logOf.mpr (List.mem_cons_of_mem _ (mem_logOf.mp hmem)), hasks⟩

theorem Outlived.append (newer : ClientHistory) (houtlived : Outlived caller history) :
    Outlived caller (newer ++ history) := by
  induction newer with
  | nil => exact houtlived
  | cons record newer ih => exact .inl ih

theorem outlived_cons_self :
    Outlived caller (⟨caller, happening⟩ :: history) ↔ Outlived caller history := by
  simp [Outlived]

end History

/-! ### What a refresh may still do -/

/-- An assignment that leaves the session and the terminal latch as they were. -/
def KeepsCredential : ClientHappening → Prop
  | .did before assignment =>
    (assignment.perform before).session = before.session ∧
      (assignment.perform before).terminated = before.terminated
  | .started _ | .asked _ | .answered _ _ => True

/-- No refresh that has outlived its session has changed the session or the terminal latch. -/
def NoneLate : ClientHistory → Prop
  | [] => True
  | record :: older =>
    (Outlived record.caller older → KeepsCredential record.happening) ∧ NoneLate older

theorem NoneLate.split {newer older : ClientHistory} {record : ClientRecord}
    (hnone : NoneLate (newer ++ record :: older)) (houtlived : Outlived record.caller older) :
    KeepsCredential record.happening := by
  induction newer with
  | nil => exact hnone.1 houtlived
  | cons latest newer ih => exact ih hnone.2

structure Confinement (history : ClientHistory) : Prop where
  single : AtMostOneInFlight history
  noneLate : NoneLate history

theorem Confinement.cons {history : ClientHistory} {record : ClientRecord}
    (hconfined : Confinement history) (hasks : ¬ AsksRefresh record.happening)
    (hkeeps : Outlived record.caller history → KeepsCredential record.happening) :
    Confinement (record :: history) := by
  have holder : ∀ caller, InFlight caller (record :: history) → InFlight caller history := by
    intro caller hinFlight
    by_cases hne : record.caller = caller
    · subst hne
      exact absurd (inFlight_cons_self.mp hinFlight) hasks
    · exact (inFlight_cons_of_ne hne).mp hinFlight
  refine ⟨fun first second hfirst hsecond ↦ ?_, hkeeps, hconfined.noneLate⟩
  exact hconfined.single first second (holder first hfirst) (holder second hsecond)

/-- What is asked or answered leaves the session alone. -/
theorem Confinement.asked {history : ClientHistory} (hconfined : Confinement history) (caller : ℕ)
    {op : Operation} (hop : ¬ op.IsRefresh) :
    Confinement (⟨caller, .asked op⟩ :: history) :=
  hconfined.cons hop fun _ ↦ trivial

/-- Where no refresh is in flight, one may start. -/
theorem Confinement.asked_refresh {history : ClientHistory} (hconfined : Confinement history)
    (caller : ℕ) (refreshToken : String)
    (hnone : ∀ other, other ≠ caller → ¬ InFlight other history) :
    Confinement (⟨caller, .asked (.identityRefresh refreshToken)⟩ :: history) := by
  have hown : ∀ other, InFlight other (⟨caller, .asked (.identityRefresh refreshToken)⟩ :: history) →
      other = caller := by
    intro other hinFlight
    by_contra hne
    exact hnone other hne ((inFlight_cons_of_ne (Ne.symm hne)).mp hinFlight)
  refine ⟨fun first second hfirst hsecond ↦ ?_, fun _ ↦ trivial, hconfined.noneLate⟩
  rw [hown first hfirst, hown second hsecond]

/-! ### The condition -/

/-- The operation whose answer a call waits for. -/
def pending : List ClientHappening → Option Operation
  | .asked op :: _ => some op
  | _ => none

/-- The outcome with which a refresh is about to go on. -/
def settled : List ClientHappening → Option RefreshOutcome
  | .answered (.refreshed outcome) _ :: _ => some outcome
  | _ => none

/-- A request that starts a refresh, by the checks of the coordinator. -/
def Request.AsksForRefresh (m : Memory) : Request → Prop
  | ensureUsable observed =>
    m.terminated = false ∧ m.inFlight = none ∧ ∃ current ∈ m.session.tokens,
      current.accessToken = observed.accessToken ∧ current.IsAccessTokenExpired m.now ∧
        ¬ current.IsRefreshTokenExpired m.now
  | refreshAfterRejection observed =>
    m.terminated = false ∧ m.inFlight = none ∧ ∃ current ∈ m.session.tokens,
      current.accessToken = observed.accessToken
  | _ => False

instance (m : Memory) : DecidablePred (Request.AsksForRefresh m)
  | .ensureUsable _ => inferInstanceAs (Decidable (_ ∧ _ ∧ ∃ current ∈ m.session.tokens, _))
  | .refreshAfterRejection _ =>
    inferInstanceAs (Decidable (_ ∧ _ ∧ ∃ current ∈ m.session.tokens, _))
  | .adoptSession _ | .clearLocalCredentials | .endSession _ | .abandonPersistedSession
  | .switchTenant _ | .start | .restart | .abandonLockedSession | .onMfaChallenge
  | .onSessionEnded => isFalse id

/-- An answer of the world after which the stored credential is what it was. -/
def Spares (w : World) (oracle : Oracle) : Operation → Prop
  | .writeSecure tokens => oracle = .refuses ∨ w.entry = some (.tokens tokens)
  | .deleteSecure => oracle = .refuses ∨ w.entry = none
  | _ => True

instance (w : World) (oracle : Oracle) : DecidablePred (Spares w oracle)
  | .writeSecure _ | .deleteSecure => inferInstanceAs (Decidable (_ ∨ _))
  | .identityRefresh _ | .refreshed _ | .readSecure | .listSecure | .readMarker | .writeMarker _
  | .removeMarker | .readCredential _ | .loadLock | .microtask => isTrue trivial

theorem Spares.entry {w later : World} {op : Operation} {oracle : Oracle} {answer : op.Answer}
    (hspares : Spares w oracle op) (hanswer : w.answer op oracle = some (later, answer)) :
    later.entry = w.entry := by
  rcases World.entry_of_answer hanswer with hsame | ⟨rfl, hwrites⟩
  · exact hsame
  · cases op with
    | writeSecure tokens =>
      rcases hspares with hrefuses | hentry
      · cases hrefuses
      · rw [hentry, ← (Prod.mk.inj (Option.some.inj hanswer)).1]
    | deleteSecure =>
      rcases hspares with hrefuses | hentry
      · cases hrefuses
      · rw [hentry, ← (Prod.mk.inj (Option.some.inj hanswer)).1]
    | _ => exact hwrites.elim

/-- An outcome that brings a refresh nothing to change: neither tokens other than the current ones
nor a rejection of a session that has not been terminated. -/
def Harmless (m : Memory) : RefreshOutcome → Prop
  | .result (.ok tokens) => m.session = .activeSession tokens
  | .result (.error failure) =>
    TokenRefreshCoordinator.isTerminal failure = true →
      m.terminated = true ∧ m.session = .noSession
  | .thrown => True

instance (m : Memory) : DecidablePred (Harmless m)
  | .result (.ok tokens) => inferInstanceAs (Decidable (m.session = .activeSession tokens))
  | .result (.error _) => inferInstanceAs (Decidable (_ → _))
  | .thrown => isTrue trivial

/-- A refresh is started only where none is in flight, and one that has outlived its session finds
nothing to change. -/
def Timely (s : ClientScene) : ClientEvent → Prop
  | .start request =>
    request.AsksForRefresh s.memory → ∀ record ∈ s.history, ¬ InFlight record.caller s.history
  | .answer caller oracle =>
    Outlived caller s.history → ∀ op ∈ pending (logOf caller s.history), Spares s.world oracle op
  | .resume caller =>
    Outlived caller s.history →
      ∀ outcome ∈ settled (logOf caller s.history), Harmless s.memory outcome
  | .tick _ => True

instance (s : ClientScene) : DecidablePred (Timely s)
  | .start _ => inferInstanceAs (Decidable (_ → ∀ record ∈ s.history, _))
  | .answer caller _ =>
    inferInstanceAs (Decidable (_ → ∀ op ∈ pending (logOf caller s.history), _))
  | .resume caller =>
    inferInstanceAs (Decidable (_ → ∀ outcome ∈ settled (logOf caller s.history), _))
  | .tick _ => isTrue trivial

/-! ### The tasks -/

section Tasks

variable {caller : ℕ} {s : ClientScene} {T : Type}

/-- What a part of a task keeps, whatever it returns. -/
abbrev Confines (caller : ℕ) (task : ClientTask T) (s : ClientScene) : Prop :=
  Loop.Keeps client (fun s ↦ Confinement s.history) (fun s caller ↦ Timely s (.resume caller)) caller
    (fun later _ ↦ Confinement later.history) task s

/-- A call that has not asked for a refresh may do anything but ask for one. -/
theorem confines_ordinary {task : ClientTask T} (huses : task.Uses Ordinary)
    (hconfined : Confinement s.history) (hnot : ¬ Refreshing caller s.history) :
    Confines caller task s := by
  refine (Loop.keeps_of_uses (fun s ↦ Confinement s.history ∧ ¬ Refreshing caller s.history)
    ?_ ?_ ?_ huses ⟨hconfined, hnot⟩).mono fun later result hlater ↦ hlater.1
  · intro s assignment _ hs
    refine ⟨hs.1.cons id fun houtlived ↦ absurd houtlived.refreshing hs.2, ?_⟩
    simpa [Refreshing, AsksRefresh] using hs.2
  · intro s op hop hs
    exact hs.1.asked caller hop
  · intro s later op answer hop hs hlater _ hlog
    refine ⟨hlater, ?_⟩
    rintro ⟨happening, hmem, hasks⟩
    rw [hlog] at hmem
    rcases List.mem_cons.mp hmem with rfl | hmem
    · exact hasks
    rcases List.mem_cons.mp hmem with rfl | hmem
    · exact hop hasks
    · exact hs.2 ⟨happening, hmem, hasks⟩

/-- What the token store does in the background may go on at any time. -/
theorem confines_background {task : ClientTask T} (huses : task.Uses Background)
    (hconfined : Confinement s.history) : Confines caller task s := by
  refine Loop.keeps_of_uses (fun s ↦ Confinement s.history) ?_ ?_ ?_ huses hconfined
  · intro s assignment hquiet hs
    exact hs.cons id fun _ ↦ ⟨hquiet.session _, hquiet.terminated _⟩
  · intro s op hop hs
    exact hs.asked caller hop
  · intro s later op answer _ _ hlater _ _
    exact hlater

/-- An assignment, where it changes nothing for a refresh that has outlived its session. -/
theorem confinement_acts {assignment : Assignment} (hconfined : Confinement s.history)
    (hkeeps : Outlived caller s.history → KeepsCredential (.did s.memory assignment)) :
    Confinement (client.acts caller assignment s).history :=
  hconfined.cons id hkeeps

/-- The end of a session that is held, by a refresh that has not outlived it. -/
theorem endSession_confines (reason : SessionEndReason) (hconfined : Confinement s.history)
    (hheld : Outlived caller s.history → s.memory.session = .noSession) :
    Confines caller (SessionManager.endSession reason) s := by
  refine Loop.keeps_look_bind (Loop.keeps_ite (fun _ ↦ Loop.keeps_pure hconfined) fun hactive ↦ ?_)
  refine Loop.keeps_act_bind ?_
  have hacts : Confinement (client.acts caller .ended s).history :=
    confinement_acts hconfined fun houtlived ↦ absurd (hheld houtlived) hactive
  refine confines_background ((endedSession_housekeeping reason).mono
    fun _ hwork ↦ hwork.still.background) hacts

theorem awaited_confines {task : ClientTask T} (htask : Confines caller task s) :
    Confines caller (awaited task) s := by
  refine Loop.keeps_bind htask fun later result hlater ↦ ?_
  exact confines_background
    (Foundation.Program.uses_bind (uses_await id) fun _ ↦ Foundation.Program.uses_pure _) hlater

/-- The server's rejection ends the session of a refresh that has not outlived it. -/
theorem terminate_confines (reason : SessionEndReason) (hconfined : Confinement s.history)
    (hheld : Outlived caller s.history →
      s.memory.terminated = true ∧ s.memory.session = .noSession) :
    Confines caller (TokenRefreshCoordinator.terminate reason) s := by
  refine Loop.keeps_act_bind ?_
  have hacts : Confinement (client.acts caller (.terminated true) s).history :=
    confinement_acts hconfined fun houtlived ↦ ⟨rfl, (hheld houtlived).1.symm⟩
  have hend : Confines caller (SessionManager.endSession reason)
      (client.acts caller (.terminated true) s) :=
    endSession_confines reason hacts fun houtlived ↦
      (hheld (outlived_cons_self.mp houtlived)).2
  exact Loop.keeps_bind (awaited_confines hend) fun later result hlater ↦ Loop.keeps_pure hlater

/-- An outcome is settled by a refresh that has not outlived its session, or brings nothing. -/
theorem settle_confines (outcome : RefreshOutcome) (hconfined : Confinement s.history)
    (hharmless : Outlived caller s.history → Harmless s.memory outcome) :
    Confines caller (TokenRefreshCoordinator.settle outcome) s := by
  match outcome with
  | .thrown => exact Loop.keeps_pure hconfined
  | .result (.ok tokens) =>
    have hacts : Confinement (client.acts caller (.adopted tokens) s).history :=
      confinement_acts hconfined fun houtlived ↦ ⟨(hharmless houtlived).symm, rfl⟩
    have hadopt : Confines caller (SessionManager.adopt tokens) s :=
      Loop.keeps_act_bind (confines_background
        (uses_awaited id (SecureTokenStore.write_background tokens)) hacts)
    exact Loop.keeps_bind (awaited_confines hadopt) fun later result hlater ↦
      Loop.keeps_pure hlater
  | .result (.error failure) =>
    refine Loop.keeps_ite (fun hterminal ↦ ?_) fun _ ↦ Loop.keeps_pure hconfined
    have hterminate : Confines caller
        (TokenRefreshCoordinator.terminate .refreshTokenReuseDetected) s :=
      terminate_confines _ hconfined fun houtlived ↦ hharmless houtlived hterminal
    exact Loop.keeps_bind (awaited_confines hterminate) fun later result hlater ↦
      Loop.keeps_pure hlater

/-- A refresh, started where none is in flight. -/
theorem performRefresh_confines (refreshToken : String) (hconfined : Confinement s.history)
    (hnone : ∀ other, other ≠ caller → ¬ InFlight other s.history) :
    Confines caller (TokenRefreshCoordinator.performRefresh caller refreshToken) s := by
  refine Loop.keeps_act_bind (Loop.keeps_act_bind ?_)
  have hcounted : Confinement (client.acts caller .refreshCallCount s).history :=
    confinement_acts hconfined fun _ ↦ ⟨rfl, rfl⟩
  have hslot : Confinement (client.acts caller (.inFlight (some caller))
      (client.acts caller .refreshCallCount s)).history :=
    confinement_acts hcounted fun _ ↦ ⟨rfl, rfl⟩
  refine Loop.keeps_await_bind (hslot.asked_refresh caller refreshToken ?_) ?_
  · intro other hne hinFlight
    have hother := (inFlight_cons_of_ne hne.symm).mp hinFlight
    exact hnone other hne ((inFlight_cons_of_ne hne.symm).mp hother)
  · intro response later hlater _ _
    have hrest (outcome : RefreshOutcome) : Confines caller
        (do
          await (.refreshed outcome)
          let reply ← TokenRefreshCoordinator.settle outcome
          act (.inFlight none)
          return reply) later := by
      refine Loop.keeps_await_bind (hlater.asked caller id) fun _ last hlast htimely hlog ↦ ?_
      refine Loop.keeps_bind (settle_confines outcome hlast fun houtlived ↦ ?_) ?_
      · exact htimely houtlived outcome (by rw [hlog]; rfl)
      · intro final reply hfinal
        exact confines_background
          (Foundation.Program.uses_bind (uses_act trivial) fun _ ↦ Foundation.Program.uses_pure _) hfinal
    cases response with
    | payload payload => exact Loop.keeps_look_bind (hrest _)
    | apiException failure => exact hrest _
    | thrown => exact hrest _

/-- A caller joins the refresh in flight, or starts one where none is. -/
theorem joinOrRefresh_confines (current : SessionTokens) (hconfined : Confinement s.history)
    (hnone : s.memory.inFlight = none → ∀ other, other ≠ caller → ¬ InFlight other s.history) :
    Confines caller (TokenRefreshCoordinator.joinOrRefresh caller current s.memory) s := by
  unfold TokenRefreshCoordinator.joinOrRefresh
  cases hflight : s.memory.inFlight with
  | some flight => exact Loop.keeps_pure hconfined
  | none => exact performRefresh_confines _ hconfined (hnone hflight)

theorem ensureUsable_confines (observed : SessionTokens) (hconfined : Confinement s.history)
    (hnot : ¬ Refreshing caller s.history)
    (hnone : (Request.ensureUsable observed).AsksForRefresh s.memory →
      ∀ other, other ≠ caller → ¬ InFlight other s.history) :
    Confines caller (TokenRefreshCoordinator.ensureUsable caller observed) s := by
  refine Loop.keeps_look_bind (Loop.keeps_ite (fun _ ↦ Loop.keeps_pure hconfined) fun hlive ↦ ?_)
  cases hsession : s.memory.session with
  | noSession => exact Loop.keeps_pure hconfined
  | activeSession current =>
    refine Loop.keeps_ite (fun _ ↦ Loop.keeps_pure hconfined) fun hsame ↦ ?_
    refine Loop.keeps_ite (fun _ ↦ Loop.keeps_pure hconfined) fun haged ↦ ?_
    refine Loop.keeps_ite (fun _ ↦ ?_) fun hchain ↦ ?_
    · have hterminate : Confines caller (TokenRefreshCoordinator.terminate .expired) s :=
        terminate_confines _ hconfined fun houtlived ↦ absurd houtlived.refreshing hnot
      exact Loop.keeps_bind hterminate fun later result hlater ↦ Loop.keeps_pure hlater
    · refine joinOrRefresh_confines current hconfined fun hslot ↦ hnone ?_
      refine ⟨by simpa using hlive, hslot, current, by simp [hsession, SessionState.tokens], ?_⟩
      exact ⟨not_not.mp hsame, not_not.mp haged, hchain⟩

theorem refreshAfterRejection_confines (observed : SessionTokens)
    (hconfined : Confinement s.history)
    (hnone : (Request.refreshAfterRejection observed).AsksForRefresh s.memory →
      ∀ other, other ≠ caller → ¬ InFlight other s.history) :
    Confines caller (TokenRefreshCoordinator.refreshAfterRejection caller observed) s := by
  refine Loop.keeps_look_bind (Loop.keeps_ite (fun _ ↦ Loop.keeps_pure hconfined) fun hlive ↦ ?_)
  cases hsession : s.memory.session with
  | noSession => exact Loop.keeps_pure hconfined
  | activeSession current =>
    refine Loop.keeps_ite (fun _ ↦ Loop.keeps_pure hconfined) fun hsame ↦ ?_
    refine joinOrRefresh_confines current hconfined fun hslot ↦ hnone ?_
    refine ⟨by simpa using hlive, hslot, current, by simp [hsession, SessionState.tokens], ?_⟩
    exact not_not.mp hsame

/-- Every call, from its start. -/
theorem task_confines (request : Request) (hconfined : Confinement s.history)
    (hnot : ¬ Refreshing caller s.history)
    (hnone : request.AsksForRefresh s.memory →
      ∀ other, other ≠ caller → ¬ InFlight other s.history) :
    Confines caller (client.task request caller) s := by
  by_cases hrefresh : request.IsRefresh
  · cases request with
    | ensureUsable observed =>
      exact Loop.keeps_bind (ensureUsable_confines observed hconfined hnot hnone)
        fun later reply hlater ↦ Loop.keeps_pure hlater
    | refreshAfterRejection observed =>
      exact Loop.keeps_bind (refreshAfterRejection_confines observed hconfined hnone)
        fun later reply hlater ↦ Loop.keeps_pure hlater
    | _ => exact hrefresh.elim
  · exact confines_ordinary (task_ordinary hrefresh caller) hconfined hnot

end Tasks

/-! ### Runs -/

/-- What an event of a refresh that has outlived its session leaves as it was. -/
def Confined (s later : ClientScene) : ClientEvent → Prop
  | .answer caller _ | .resume caller =>
    Outlived caller s.history →
      later.memory.session = s.memory.session ∧ later.world.entry = s.world.entry ∧
        later.memory.terminated = s.memory.terminated
  | .start _ | .tick _ => True

/-- Along a run of timely events. -/
theorem confinement_of_reaches {now : SharedKernel.Instant} {world : World} {p : ClientProcess}
    (hreaches : Loop.Reaches client Timely (launch now world) p) :
    Loop.Kept client (fun s ↦ Confinement s.history) (fun s caller ↦ Timely s (.resume caller))
      p := by
  refine Loop.Reaches.keeps (fun s ↦ Confinement s.history) ?_ ?_ ?_ ?_ hreaches
  · refine ⟨fun first second hfirst ↦ ?_, trivial⟩
    obtain ⟨record, hrecord, -⟩ := hfirst.mem
    cases hrecord
  · intro s request caller hconfined htimely hlog
    have hnotes : Confinement (s.notes caller (.started request)).history :=
      hconfined.cons id fun _ ↦ trivial
    refine task_confines request hnotes ?_ fun hasks other hne hinFlight ↦ ?_
    · simp [Refreshing, hlog, AsksRefresh]
    · have hother := (inFlight_cons_of_ne hne.symm).mp hinFlight
      obtain ⟨record, hrecord, rfl⟩ := hother.mem
      exact htimely hasks record hrecord hother
  · intro s caller oracle op earlier world answer hconfined _ _ _
    exact hconfined.cons id fun _ ↦ trivial
  · intro s tick hconfined _
    exact hconfined

/-- In every run of timely events at most one refresh call is in flight, and no event of a refresh
that has outlived its session changes the credential in memory, the persisted credential or the
terminal latch. -/
theorem refresh_confined {now : SharedKernel.Instant} {world : World} {p : ClientProcess}
    (hreaches : Loop.Reaches client Timely (launch now world) p) :
    AtMostOneInFlight p.scene.history ∧
      ∀ event later, Timely p.scene event → client.step p event = some later →
        Confined p.scene later.scene event := by
  refine ⟨(confinement_of_reaches hreaches).scene.single, fun event later htimely hstep ↦ ?_⟩
  have hlater := confinement_of_reaches (hreaches.step htimely hstep)
  cases Loop.steps_of_step_eq_some hstep with
  | start request => trivial
  | tick tick => trivial
  | @answer caller oracle request op next world answer hcall hanswer =>
    intro houtlived
    refine ⟨rfl, ?_, rfl⟩
    obtain ⟨earlier, hlog, -⟩ := (confinement_of_reaches hreaches).calls caller _ hcall
    exact Spares.entry (htimely houtlived op (by rw [hlog]; rfl)) hanswer
  | @resume caller request rest hcall =>
    intro houtlived
    have hleaves : ∀ newer before assignment older,
        (client.segment caller rest p.scene).1.history =
          newer ++ ⟨caller, .did before assignment⟩ :: older →
        p.scene.history <:+ older → KeepsCredential (.did before assignment) := by
      intro newer before assignment older hhistory hsuffix
      have hnone := hlater.scene.noneLate
      rw [hhistory] at hnone
      obtain ⟨between, rfl⟩ := hsuffix
      exact hnone.split (houtlived.append between)
    refine ⟨?_, congrArg World.entry (Loop.segment_world caller rest p.scene), ?_⟩
    · exact Loop.segment_leaves Memory.session fun newer before assignment older hhistory hsuffix ↦
        (hleaves newer before assignment older hhistory hsuffix).1
    · exact Loop.segment_leaves Memory.terminated
        fun newer before assignment older hhistory hsuffix ↦
          (hleaves newer before assignment older hhistory hsuffix).2

/-! ### Two sessions -/

namespace TwoSessions

/-- The payload of a session whose access token has aged out from the start. -/
def payload (name : String) : SessionPayload where
  accessToken := .text s!"access-{name}"
  refreshToken := .text s!"refresh-{name}"
  sessionId := .text s!"session-{name}"
  accessTokenExpiresAt := some 100
  refreshTokenExpiresAt := some 1000000

def tokens (name : String) : SessionTokens where
  accessToken := s!"access-{name}"
  accessTokenExpiresAt := 100
  refreshToken := s!"refresh-{name}"
  refreshTokenExpiresAt := 1000000
  sessionId := s!"session-{name}"

/-- A rotation, which does not repeat the session identifier. -/
def rotation (name : String) : SessionPayload :=
  { payload name with sessionId := .null }

/-- The answers that a call gets one after another, each at once. -/
def answered (caller : ℕ) (oracles : List Oracle) : List ClientEvent :=
  oracles.flatMap fun oracle ↦ [.answer caller oracle, .resume caller]

/-- The first session is adopted and persisted, and a refresh of it is in flight. -/
def refreshOfFirst : List ClientEvent :=
  .start (.adoptSession (payload "first")) :: answered 0 (List.replicate 5 .succeeds) ++
    [.start (.ensureUsable (tokens "first"))]

def emptyWorld : World := ⟨none, none⟩

/-- The second session is adopted while the refresh of the first is in flight; then the refresh
brings its tokens. -/
def replaced : ClientProcess :=
  client.finish (launch 0 emptyWorld)
    (refreshOfFirst ++ .start (.adoptSession (payload "second")) ::
      answered 1 [.responds (.payload (rotation "third"))] ++ [.answer 1 .succeeds])

/-- The user signs out while the refresh is in flight; then the refresh fails on the way. -/
def signedOut : ClientProcess :=
  client.finish (launch 0 emptyWorld)
    (refreshOfFirst ++ .start .abandonPersistedSession ::
      answered 1 [.responds (.apiException .offline)] ++ [.answer 1 .succeeds])

end TwoSessions

open TwoSessions in
/-- The tokens of the first session replace the second session, under its identifier. -/
theorem not_refresh_confined :
    ¬ ∀ now world (p : ClientProcess),
      Loop.Reaches client (fun _ _ ↦ True) (launch now world) p →
      AtMostOneInFlight p.scene.history ∧
        ∀ event later, client.step p event = some later →
          Confined p.scene later.scene event := by
  intro hclaim
  have hreaches : Loop.Reaches client (fun _ _ ↦ True) (launch 0 emptyWorld) replaced :=
    Loop.reaches_finish (Loop.follows_true _ _)
  have hconfined := (hclaim 0 emptyWorld replaced hreaches).2 (.resume 1) _
    (Loop.step_eq_some_finish (by decide))
  have hoverwritten : (client.finish replaced [.resume 1]).scene.memory.session ≠
      replaced.scene.memory.session := by
    decide
  exact hoverwritten (hconfined (by decide)).1

open TwoSessions in
/-- A refresh that fails on the way after a sign-out changes nothing. -/
theorem refresh_confined_signedOut :
    Outlived 1 signedOut.scene.history ∧
      Confined signedOut.scene (client.finish signedOut [.resume 1]).scene (.resume 1) :=
  ⟨by decide,
    (refresh_confined (Loop.reaches_finish (by decide))).2 (.resume 1) _
      (by decide) (Loop.step_eq_some_finish (by decide))⟩

end Karar.MobileClient
