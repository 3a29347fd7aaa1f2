import Karar.MobileClient.SingleFlight
import Karar.MobileClient.Transport

/-!
# The tokens of a refresh

Where the tokens come from with which a refresh goes on, and which tokens a call of the coordinator
returns. The refresh function decodes the response that has just arrived with the identifier of the
session that is held; a call returns the tokens that its own refresh has brought, or the credential
it found when it was made.
-/

namespace Karar.MobileClient

open Foundation.EventLoop Foundation.Program

/-! ### What the history tells about a refresh -/

/-- The session in memory after a history, in a process that began without one. -/
def sessionIn (history : ClientHistory) : SessionState :=
  (history.findSome? fun record ↦ sessionBy record.happening).getD .noSession

/-- A call has taken the slot. -/
def Took (history : ClientHistory) (flight : ℕ) : Prop :=
  ∃ before, .did before (.inFlight (some flight)) ∈ logOf flight history

/-- The refresh function decodes the response that has just arrived, with the identifier of the
session that is held. -/
def Orderly (record : ClientRecord) (older : ClientHistory) : Prop :=
  ∀ tokens ∈ broughtBy record.happening, ∃ payload,
    arrivingIn (logOf record.caller older) = some payload ∧
      payload.decode ((sessionIn older).tokens.map (·.sessionId)) = .ok tokens

structure Informed (s : ClientScene) : Prop where
  session : s.memory.session = sessionIn s.history
  slot : ∀ flight ∈ s.memory.inFlight, Took s.history flight
  orderly : Throughout Orderly s.history

section Scenes

variable {s : ClientScene} {caller : ℕ} {T : Type}

theorem Took.cons {record : ClientRecord} {history : ClientHistory} {flight : ℕ}
    (htook : Took history flight) : Took (record :: history) flight := by
  obtain ⟨before, hmem⟩ := htook
  exact ⟨before, mem_logOf.mpr (List.mem_cons_of_mem record (mem_logOf.mp hmem))⟩

/-- An assignment leaves the slot to whom it belonged, unless it is about the slot. -/
theorem Assignment.inFlight_of_perform {assignment : Assignment} {m : Memory} {flight : ℕ}
    (hflight : (assignment.perform m).inFlight = some flight) :
    assignment = .inFlight (some flight) ∨ m.inFlight = some flight := by
  cases assignment with
  | inFlight slot =>
    obtain rfl : slot = some flight := hflight
    exact .inl rfl
  | _ => exact .inr hflight

theorem Informed.acts (hinformed : Informed s) {assignment : Assignment}
    (htaken : ∀ flight, assignment = .inFlight (some flight) → caller = flight) :
    Informed (client.acts caller assignment s) where
  session := rfl
  slot := by
    intro flight hflight
    rcases Assignment.inFlight_of_perform hflight with hassignment | hbefore
    · obtain rfl : caller = flight := htaken flight hassignment
      refine ⟨s.memory, mem_logOf.mpr ?_⟩
      rw [hassignment]
      exact List.mem_cons_self
    · exact (hinformed.slot flight hbefore).cons
  orderly := ⟨fun tokens htokens ↦ (by cases htokens), hinformed.orderly⟩

theorem Informed.notes (hinformed : Informed s) {happening : ClientHappening}
    (hsession : sessionBy happening = none)
    (hbrought : ∀ tokens ∈ broughtBy happening, ∃ payload,
      arrivingIn (logOf caller s.history) = some payload ∧
        payload.decode (s.memory.session.tokens.map (·.sessionId)) = .ok tokens) :
    Informed (s.notes caller happening) where
  session := by
    rw [Scene.notes_history, sessionIn, List.findSome?_cons, hsession]
    exact hinformed.session
  slot := fun flight hflight ↦ (hinformed.slot flight hflight).cons
  orderly := by
    refine ⟨?_, hinformed.orderly⟩
    unfold Orderly
    rw [← hinformed.session]
    exact hbrought

theorem Informed.asks (hinformed : Informed s) {op : Operation}
    (hop : Slotless (.await op) ∨ op.IsRefresh) : Informed (s.notes caller (.asked op)) := by
  refine hinformed.notes rfl ?_
  intro tokens htokens
  cases op with
  | refreshed outcome => exact (hop.elim id id).elim
  | _ => cases htokens

/-- What a task keeps, whatever it returns. -/
abbrev Informs (caller : ℕ) (task : ClientTask T) (s : ClientScene) : Prop :=
  Loop.Keeps client Informed (fun _ _ ↦ True) caller (fun later _ ↦ Informed later) task s

theorem informs_slotless {task : ClientTask T} (huses : task.Uses Slotless)
    (hinformed : Informed s) : Informs caller task s := by
  refine Loop.keeps_of_uses Informed ?_ ?_ ?_ huses hinformed
  · intro s assignment hslotless hs
    refine hs.acts fun flight hassignment ↦ ?_
    subst hassignment
    exact hslotless.elim
  · exact fun s op hop hs ↦ hs.asks (.inl hop)
  · exact fun s later op answer _ _ hlater _ _ ↦ hlater

theorem terminate_slotless (reason : SessionEndReason) :
    (TokenRefreshCoordinator.terminate reason).Uses Slotless :=
  uses_bind (uses_act trivial) fun _ ↦
    uses_bind (slotless_awaited (endSession_slotless reason)) fun _ ↦ uses_pure _

theorem settle_slotless (outcome : RefreshOutcome) :
    (TokenRefreshCoordinator.settle outcome).Uses Slotless := by
  match outcome with
  | .result (.ok value) =>
    exact uses_bind (slotless_awaited (adopt_slotless value)) fun _ ↦ uses_pure _
  | .result (.error failure) =>
    exact uses_ite (uses_bind (slotless_awaited (terminate_slotless _)) fun _ ↦ uses_pure _)
      (uses_pure _)
  | .thrown => exact uses_pure _

/-- From the outcome of the refresh function on. -/
theorem settled_informs (outcome : RefreshOutcome)
    (hasked : Informed (s.notes caller (.asked (.refreshed outcome)))) :
    Informs caller
      (do
        await (.refreshed outcome)
        let reply ← TokenRefreshCoordinator.settle outcome
        act (.inFlight none)
        return reply) s := by
  refine Loop.keeps_await_bind hasked fun _ later hlater _ _ ↦ ?_
  refine Loop.keeps_bind (informs_slotless (settle_slotless outcome) hlater) ?_
  exact fun last reply hlast ↦ Loop.keeps_act_bind (Loop.keeps_pure (hlast.acts nofun))

theorem performRefresh_informs (refreshToken : String) (hinformed : Informed s) :
    Informs caller (TokenRefreshCoordinator.performRefresh caller refreshToken) s := by
  refine Loop.keeps_act_bind (Loop.keeps_act_bind (Loop.keeps_await_bind ?_ ?_))
  · have hcounted : Informed (client.acts caller .refreshCallCount s) := hinformed.acts nofun
    have htaken : Informed (client.acts caller (.inFlight (some caller))
        (client.acts caller .refreshCallCount s)) :=
      hcounted.acts fun flight hflight ↦ Option.some.inj (Assignment.inFlight.inj hflight)
    exact htaken.asks (.inr trivial)
  · intro response later hlater _ hlog
    have hplain (outcome : RefreshOutcome)
        (hnone : ∀ tokens, outcome ≠ .result (.ok tokens)) :
        Informed (later.notes caller (.asked (.refreshed outcome))) := by
      refine hlater.notes rfl ?_
      intro tokens htokens
      match outcome with
      | .result (.ok value) => exact absurd rfl (hnone value)
      | .result (.error failure) => cases htokens
      | .thrown => cases htokens
    cases response with
    | apiException failure => exact settled_informs _ (hplain _ nofun)
    | thrown => exact settled_informs _ (hplain _ nofun)
    | payload payload =>
      refine Loop.keeps_look_bind (settled_informs _ ?_)
      refine hlater.notes rfl ?_
      intro tokens htokens
      cases hdecode : payload.decode (later.memory.session.tokens.map (·.sessionId)) with
      | error failure =>
        rw [hdecode] at htokens
        cases htokens
      | ok value =>
        rw [hdecode] at htokens
        obtain rfl : value = tokens := Option.some.inj htokens
        exact ⟨payload, by rw [hlog]; rfl, hdecode⟩

theorem joinOrRefresh_informs (current : SessionTokens) (hinformed : Informed s) :
    Informs caller (TokenRefreshCoordinator.joinOrRefresh caller current s.memory) s := by
  unfold TokenRefreshCoordinator.joinOrRefresh
  cases s.memory.inFlight with
  | some flight => exact Loop.keeps_pure hinformed
  | none => exact performRefresh_informs _ hinformed

theorem ensureUsable_informs (observed : SessionTokens) (hinformed : Informed s) :
    Informs caller (TokenRefreshCoordinator.ensureUsable caller observed) s := by
  refine Loop.keeps_look_bind (Loop.keeps_ite (fun _ ↦ Loop.keeps_pure hinformed) fun _ ↦ ?_)
  cases s.memory.session with
  | noSession => exact Loop.keeps_pure hinformed
  | activeSession current =>
    refine Loop.keeps_ite (fun _ ↦ Loop.keeps_pure hinformed) fun _ ↦ ?_
    refine Loop.keeps_ite (fun _ ↦ Loop.keeps_pure hinformed) fun _ ↦ ?_
    refine Loop.keeps_ite (fun _ ↦ ?_) fun _ ↦ joinOrRefresh_informs current hinformed
    exact informs_slotless (uses_bind (terminate_slotless _) fun _ ↦ uses_pure _) hinformed

theorem refreshAfterRejection_informs (observed : SessionTokens) (hinformed : Informed s) :
    Informs caller (TokenRefreshCoordinator.refreshAfterRejection caller observed) s := by
  refine Loop.keeps_look_bind (Loop.keeps_ite (fun _ ↦ Loop.keeps_pure hinformed) fun _ ↦ ?_)
  cases s.memory.session with
  | noSession => exact Loop.keeps_pure hinformed
  | activeSession current =>
    refine Loop.keeps_ite (fun _ ↦ Loop.keeps_pure hinformed) fun _ ↦ ?_
    exact joinOrRefresh_informs current hinformed

theorem task_informs (request : Request) (hinformed : Informed s) :
    Informs caller (client.task request caller) s := by
  by_cases hrefresh : request.IsRefresh
  · cases request with
    | ensureUsable observed =>
      exact Loop.keeps_bind (ensureUsable_informs observed hinformed)
        fun later reply hlater ↦ Loop.keeps_pure hlater
    | refreshAfterRejection observed =>
      exact Loop.keeps_bind (refreshAfterRejection_informs observed hinformed)
        fun later reply hlater ↦ Loop.keeps_pure hlater
    | _ => exact hrefresh.elim
  · exact informs_slotless (task_slotless hrefresh caller) hinformed

end Scenes

section Calls

variable {now : SharedKernel.Instant} {world : World} {p : ClientProcess}

/-- Along every run of the client. -/
theorem informed_of_reaches
    (hreaches : Loop.Reaches client (fun _ _ ↦ True) (launch now world) p) : Informed p.scene := by
  refine (Loop.Reaches.keeps Informed ⟨rfl, fun flight hflight ↦ (by cases hflight), trivial⟩ ?_ ?_ ?_ hreaches).scene
  · intro s request caller hinformed _ _
    refine task_informs request (hinformed.notes rfl ?_)
    exact fun tokens htokens ↦ by cases htokens
  · intro s caller oracle op earlier later answer hinformed _ _ _
    have hanswered : Informed (s.notes caller (.answered op answer)) :=
      hinformed.notes rfl fun tokens htokens ↦ by cases htokens
    exact ⟨hanswered.session, hanswered.slot, hanswered.orderly⟩
  · exact fun s tick hinformed _ ↦ ⟨hinformed.session, hinformed.slot, hinformed.orderly⟩

/-! ### What a call returns -/

/-- Tokens that a call returns were brought by its refresh, unless it returned at once; and it
returned at once if it joined another refresh. -/
def Accounts (log : List ClientHappening) : Reply → Prop
  | .refresh (.result (.ok tokens)) =>
    (∃ happening ∈ log, broughtBy happening = some tokens) ∨ ∃ request, log = [.started request]
  | .refresh (.joined _) => ∃ request, log = [.started request]
  | _ => True

/-- What a call of the coordinator returns, by its log. -/
abbrev Replies (log : List ClientHappening) (task : ClientTask RefreshReply) : Prop :=
  Loop.Yields (fun later reply ↦ Accounts later (.refresh reply)) log task

theorem terminate_returns (reason : SessionEndReason) :
    (TokenRefreshCoordinator.terminate reason).Returns
      fun result ↦ result = .error (.sessionExpired reason) :=
  returns_bind fun _ ↦ returns_bind fun _ ↦ rfl

theorem awaited_returns {T : Type} {good : T → Prop} {task : ClientTask T}
    (htask : task.Returns good) : (awaited task).Returns good :=
  htask.bind fun _ hgood ↦ returns_bind fun _ ↦ hgood

/-- A refresh returns the tokens that it brought, or none. -/
theorem settle_returns (outcome : RefreshOutcome) :
    (TokenRefreshCoordinator.settle outcome).Returns fun reply ↦
      (∀ tokens, reply = .result (.ok tokens) → outcome = .result (.ok tokens)) ∧
        ∀ flight, reply ≠ .joined flight := by
  match outcome with
  | .thrown => exact ⟨nofun, nofun⟩
  | .result (.ok value) =>
    refine returns_bind fun _ ↦ ⟨fun tokens htokens ↦ ?_, nofun⟩
    rw [RefreshReply.result.inj htokens]
  | .result (.error failure) =>
    refine returns_ite ?_ ⟨nofun, nofun⟩
    refine (awaited_returns (terminate_returns _)).bind fun result hresult ↦ ?_
    subst hresult
    exact ⟨nofun, nofun⟩

theorem settled_replies {log : List ClientHappening} (outcome : RefreshOutcome) :
    Replies log
      (do
        await (.refreshed outcome)
        let reply ← TokenRefreshCoordinator.settle outcome
        act (.inFlight none)
        return reply) := by
  refine Loop.yields_await_bind fun answer ↦
    Loop.yields_bind (Loop.yields_of_returns (settle_returns outcome)) ?_
  rintro later reply ⟨⟨hbrought, hnotJoined⟩, hsuffix⟩
  refine Loop.yields_act_bind fun before ↦ Loop.yields_pure ?_
  match reply with
  | .result (.ok tokens) =>
    refine .inl ⟨.asked (.refreshed outcome), ?_, ?_⟩
    · exact List.mem_cons_of_mem _ (hsuffix.mem (by simp))
    · rw [hbrought tokens rfl]
      rfl
  | .result (.error failure) => trivial
  | .joined flight => exact absurd rfl (hnotJoined flight)
  | .thrown => trivial

theorem performRefresh_replies {log : List ClientHappening} (caller : ℕ) (refreshToken : String) :
    Replies log (TokenRefreshCoordinator.performRefresh caller refreshToken) := by
  refine Loop.yields_act_bind fun _ ↦ Loop.yields_act_bind fun _ ↦
    Loop.yields_await_bind fun response ↦ ?_
  cases response with
  | payload payload => exact Loop.yields_look_bind fun m ↦ settled_replies _
  | apiException failure => exact settled_replies _
  | thrown => exact settled_replies _

theorem joinOrRefresh_replies (request : Request) (caller : ℕ) (current : SessionTokens)
    (m : Memory) :
    Replies [.started request] (TokenRefreshCoordinator.joinOrRefresh caller current m) := by
  unfold TokenRefreshCoordinator.joinOrRefresh
  cases m.inFlight with
  | some flight => exact ⟨request, rfl⟩
  | none => exact performRefresh_replies caller current.refreshToken

theorem ensureUsable_replies (request : Request) (caller : ℕ) (observed : SessionTokens) :
    Replies [.started request] (TokenRefreshCoordinator.ensureUsable caller observed) := by
  refine Loop.yields_look_bind fun m ↦ Loop.yields_ite (fun _ ↦ trivial) fun _ ↦ ?_
  cases m.session with
  | noSession => trivial
  | activeSession current =>
    refine Loop.yields_ite (fun _ ↦ .inr ⟨request, rfl⟩) fun _ ↦ ?_
    refine Loop.yields_ite (fun _ ↦ .inr ⟨request, rfl⟩) fun _ ↦ ?_
    refine Loop.yields_ite (fun _ ↦ ?_) fun _ ↦ joinOrRefresh_replies request caller current m
    refine Loop.yields_bind (Loop.yields_of_returns (terminate_returns .expired)) ?_
    rintro later result ⟨rfl, -⟩
    trivial

theorem refreshAfterRejection_replies (request : Request) (caller : ℕ) (observed : SessionTokens) :
    Replies [.started request] (TokenRefreshCoordinator.refreshAfterRejection caller observed) := by
  refine Loop.yields_look_bind fun m ↦ Loop.yields_ite (fun _ ↦ trivial) fun _ ↦ ?_
  cases m.session with
  | noSession => trivial
  | activeSession current =>
    refine Loop.yields_ite (fun _ ↦ .inr ⟨request, rfl⟩) fun _ ↦ ?_
    exact joinOrRefresh_replies request caller current m

theorem task_yields (request : Request) (caller : ℕ) :
    Loop.Yields Accounts [.started request] (client.task request caller) := by
  have hother {task : ClientTask Reply}
      (hreturns : task.Returns fun reply ↦ ∀ refreshed, reply ≠ .refresh refreshed) :
      Loop.Yields Accounts [.started request] task := by
    refine Loop.yields_mono (Loop.yields_of_returns hreturns) fun log reply hreply ↦ ?_
    cases reply with
    | refresh refreshed => exact absurd rfl (hreply.1 refreshed)
    | _ => trivial
  cases request with
  | ensureUsable observed =>
    exact Loop.yields_bind (ensureUsable_replies _ caller observed)
      fun _ _ hreply ↦ Loop.yields_pure hreply
  | refreshAfterRejection observed =>
    exact Loop.yields_bind (refreshAfterRejection_replies _ caller observed)
      fun _ _ hreply ↦ Loop.yields_pure hreply
  | _ => exact hother (returns_bind fun _ ↦ nofun)

end Calls

end Karar.MobileClient
