import Karar.MobileClient.FlightTokens

/-!
# The credentials that a send carries

A retry and a replay read the credential anew, whatever has become of the session since the first
attempt. After a sign-in of another user they carry that user's token; and a caller that joins a
refresh whose tokens are adopted, but not yet written, replays with the very token that the server
has rejected.

In every run in which a retry or a replay finds the session of its send, and after a rejection
another access token, and in which the refresh it waits for brings such tokens, every HTTP request of
a send carries a credential of one session, and no replay carries a rejected access token
(`send_faithful`).
-/

namespace Karar.MobileClient

open Foundation.EventLoop Foundation.Program

/-! ### What a call of the coordinator may bring -/

/-- The refresh of a call has brought tokens. -/
def Brings (p : ClientProcess) (flight : ℕ) (tokens : SessionTokens) : Prop :=
  ∃ happening ∈ logOf flight p.scene.history, broughtBy happening = some tokens

/-- The tokens that a call has returned, or that the refresh it waits for has brought. -/
def MayBring (p : ClientProcess) (call : ℕ) (tokens : SessionTokens) : Prop :=
  returnedBy p call = some (.result (.ok tokens)) ∨ Brings p call tokens ∨
    ∃ flight, returnedBy p call = some (.joined flight) ∧ Brings p flight tokens

/-- What is known of the client of a transport, along every run. -/
structure Sound (p : ClientProcess) : Prop where
  informed : Informed p.scene
  started : Loop.OnlyStarted p
  calls : ∀ caller call, p.calls[caller]? = some call →
    Loop.YieldsOn Accounts (logOf caller p.scene.history) call.progress

section Client

variable {now : SharedKernel.Instant} {world : World} {p later : ClientProcess} {call flight : ℕ}
  {tokens : SessionTokens} {event : ClientEvent}

theorem sound_of_reaches
    (hreaches : Loop.Reaches client (fun _ _ ↦ True) (launch now world) p) : Sound p where
  informed := informed_of_reaches hreaches
  started := (hreaches.yields task_yields).1
  calls := (hreaches.yields task_yields).2

theorem returnedBy_eq_some {reply : RefreshReply} (hreturned : returnedBy p call = some reply) :
    ∃ request, p.calls[call]? = some ⟨request, .suspended (.pure (.refresh reply))⟩ := by
  unfold returnedBy at hreturned
  split at hreturned
  · rename_i request returned hcall
    rw [hcall, Option.some.inj hreturned]
    exact ⟨request, rfl⟩
  · cases hreturned

theorem Sound.accounts (hsound : Sound p) {reply : RefreshReply}
    (hreturned : returnedBy p call = some reply) :
    Accounts (logOf call p.scene.history) (.refresh reply) := by
  obtain ⟨request, hcall⟩ := returnedBy_eq_some hreturned
  exact hsound.calls call _ hcall

theorem Took.not_started (htook : Took p.scene.history flight) :
    ¬ ∃ request, logOf flight p.scene.history = [.started request] := by
  rintro ⟨request, hlog⟩
  obtain ⟨before, hmem⟩ := htook
  rw [hlog] at hmem
  cases List.mem_singleton.mp hmem

theorem Took.lt (hsound : Sound p) (htook : Took p.scene.history flight) : flight < p.calls.length := by
  obtain ⟨before, hmem⟩ := htook
  exact hsound.started _ (mem_logOf.mp hmem)

/-- A future that is complete with tokens may bring them. -/
theorem mayBring_of_future (hsound : Sound p)
    (hjoined : ∀ flight, returnedBy p call = some (.joined flight) → Took p.scene.history flight)
    (hfuture : futureOf p call = some (.result (.ok tokens))) : MayBring p call tokens := by
  unfold futureOf at hfuture
  split at hfuture
  · rename_i flight hreturned
    have htook := hjoined flight hreturned
    rcases hsound.accounts hfuture with hbrought | hstarted
    · exact .inr (.inr ⟨flight, hreturned, hbrought⟩)
    · exact absurd hstarted htook.not_started
  · exact .inl hfuture

/-! ### One event of the client -/

theorem arrivingIn_cons {happening : ClientHappening} {log : List ClientHappening}
    {payload : SessionPayload} (harriving : arrivingIn (happening :: log) = some payload) :
    ∃ refreshToken, happening = .answered (.identityRefresh refreshToken) (.payload payload) := by
  unfold arrivingIn at harriving
  split at harriving
  · rename_i refreshToken arrived earlier hlog
    rw [(List.cons.inj hlog).1, Option.some.inj harriving]
    exact ⟨refreshToken, rfl⟩
  · cases harriving

/-- What a refresh brings, it had brought before, or it goes on with a response that has just
arrived. -/
theorem brings_of_step (hlater : Sound later) (hinformed : Informed p.scene)
    (hstep : client.step p event = some later) (hstarted : flight < p.calls.length)
    (hbrings : Brings later flight tokens) :
    Brings p flight tokens ∨ event = .resume flight ∧
      ∃ payload, arrivingIn (logOf flight p.scene.history) = some payload ∧
        payload.decode (p.scene.memory.session.tokens.map (·.sessionId)) = .ok tokens := by
  obtain ⟨happening, hmem, hbrought⟩ := hbrings
  have hmem := mem_logOf.mp hmem
  have horderly := hlater.informed.orderly
  have hsteps := Loop.steps_of_step_eq_some hstep
  obtain ⟨added, hhistory, hacting⟩ := hsteps.history
  cases hsteps with
  | start request =>
    rw [hhistory] at hmem
    rcases List.mem_append.mp hmem with hnew | hold
    · have hcaller : p.calls.length = flight := Option.some.inj (hacting _ hnew)
      omega
    · exact .inl ⟨happening, mem_logOf.mpr hold, hbrought⟩
  | @answer caller oracle request op next world answer hcall hanswer =>
    rcases List.mem_cons.mp hmem with heq | hmem
    · rw [(Record.mk.inj heq).2] at hbrought
      cases hbrought
    · exact .inl ⟨happening, mem_logOf.mpr hmem, hbrought⟩
  | @resume caller request rest hcall =>
    obtain ⟨newer, hnewer, hadded⟩ := client.segment_adds caller rest p.scene
    rw [hnewer] at hmem
    rcases List.mem_append.mp hmem with hnew | hold
    · have hcaller : flight = caller := (hadded _ hnew).1
      subst hcaller
      refine .inr ⟨rfl, ?_⟩
      obtain ⟨front, back, hsplit⟩ := List.append_of_mem hnew
      rw [hnewer, hsplit, List.append_assoc, List.cons_append] at horderly
      obtain ⟨payload, harriving, hdecode⟩ := horderly.split tokens hbrought
      cases back with
      | nil =>
        rw [List.nil_append, ← hinformed.session] at hdecode
        exact ⟨payload, harriving, hdecode⟩
      | cons record back =>
        -- The response would have to be the latest thing, and a segment adds no response.
        have hrecord : record ∈ newer := by
          rw [hsplit]
          exact List.mem_append_right _ (List.mem_cons_of_mem _ List.mem_cons_self)
        obtain ⟨hcaller, hunanswered⟩ := hadded record hrecord
        rw [List.cons_append, logOf_cons, if_pos hcaller] at harriving
        obtain ⟨refreshToken, hanswered⟩ := arrivingIn_cons harriving
        exact absurd hanswered (hunanswered _ _)
    · exact .inl ⟨happening, mem_logOf.mpr hold, hbrought⟩
  | tick tick => exact .inl ⟨happening, mem_logOf.mpr hmem, hbrought⟩

/-- What a call has returned, it had returned before, or it goes on to return it. -/
theorem returnedBy_of_step (hstep : client.step p event = some later)
    (hstarted : call < p.calls.length) {reply : RefreshReply}
    (hreturned : returnedBy later call = some reply) :
    returnedBy p call = some reply ∨ event = .resume call ∧
      ∃ request rest, p.calls[call]? = some ⟨request, .ready rest⟩ := by
  have hsteps := Loop.steps_of_step_eq_some hstep
  by_cases hacting : Loop.acting p event = some call
  · right
    cases hsteps with
    | start request =>
      have hcall : p.calls.length = call := Option.some.inj hacting
      omega
    | @answer caller oracle request op next world answer hcall hanswer =>
      obtain rfl : caller = call := Option.some.inj hacting
      obtain ⟨returning, hlater⟩ := returnedBy_eq_some hreturned
      rw [List.getElem?_set_self hstarted] at hlater
      cases Option.some.inj hlater
    | @resume caller request rest hcall =>
      obtain rfl : caller = call := Option.some.inj hacting
      exact ⟨rfl, request, rest, hcall⟩
    | tick tick => cases hacting
  · left
    rw [returnedBy, hsteps.call_of_ne hacting] at hreturned
    exact hreturned

/-- A call that goes on has more than its start behind it. -/
theorem Sound.not_started_of_ready (hsound : Sound p) (hstep : client.step p event = some later)
    {request : Request} {rest : ClientTask Reply}
    (hready : p.calls[call]? = some ⟨request, .ready rest⟩) :
    ¬ ∃ request, logOf call later.scene.history = [.started request] := by
  rintro ⟨starting, hlog⟩
  obtain ⟨⟨op, answer, earlier, hanswered⟩, -⟩ := hsound.calls call _ hready
  have hsuffix : logOf call p.scene.history <:+ logOf call later.scene.history :=
    (Loop.steps_of_step_eq_some hstep).logOf_suffix
  have hmem : .answered op answer ∈ logOf call later.scene.history :=
    hsuffix.mem (hanswered ▸ List.mem_cons_self)
  rw [hlog] at hmem
  cases List.mem_singleton.mp hmem

/-- A joined refresh has taken the slot. -/
def JoinsTaken (p : ClientProcess) (call : ℕ) : Prop :=
  ∀ flight, returnedBy p call = some (.joined flight) → Took p.scene.history flight

theorem joined_of_step (hsound : Sound p) (hlater : Sound later)
    (hstep : client.step p event = some later) (hstarted : call < p.calls.length)
    (hreturned : returnedBy later call = some (.joined flight)) :
    returnedBy p call = some (.joined flight) := by
  rcases returnedBy_of_step hstep hstarted hreturned with hbefore | ⟨-, request, rest, hready⟩
  · exact hbefore
  · exact absurd (hlater.accounts hreturned) (hsound.not_started_of_ready hstep hready)

theorem JoinsTaken.step (hjoins : JoinsTaken p call) (hsound : Sound p) (hlater : Sound later)
    (hstep : client.step p event = some later) (hstarted : call < p.calls.length) :
    JoinsTaken later call := by
  intro flight hreturned
  obtain ⟨before, hmem⟩ := hjoins flight (joined_of_step hsound hlater hstep hstarted hreturned)
  exact ⟨before, (Loop.steps_of_step_eq_some hstep).logOf_suffix.mem hmem⟩

/-- What a call may bring, it might have brought before, or a response goes on to be adopted for
which it waits. -/
theorem mayBring_of_step (hsound : Sound p) (hlater : Sound later)
    (hstep : client.step p event = some later) (hstarted : call < p.calls.length)
    (hjoins : JoinsTaken p call) (hmay : MayBring later call tokens) :
    MayBring p call tokens ∨ ∃ flight, event = .resume flight ∧
      (call = flight ∨ returnedBy p call = some (.joined flight)) ∧
        ∃ payload, arrivingIn (logOf flight p.scene.history) = some payload ∧
          payload.decode (p.scene.memory.session.tokens.map (·.sessionId)) = .ok tokens := by
  have hbrought (hbrings : Brings later call tokens) : MayBring p call tokens ∨
      ∃ flight, event = .resume flight ∧
        (call = flight ∨ returnedBy p call = some (.joined flight)) ∧
          ∃ payload, arrivingIn (logOf flight p.scene.history) = some payload ∧
            payload.decode (p.scene.memory.session.tokens.map (·.sessionId)) = .ok tokens := by
    rcases brings_of_step hlater hsound.informed hstep hstarted hbrings with hbefore | ⟨hevent, hnew⟩
    · exact .inl (.inr (.inl hbefore))
    · exact .inr ⟨call, hevent, .inl rfl, hnew⟩
  rcases hmay with hreturned | hbrings | ⟨flight, hreturned, hbrings⟩
  · rcases returnedBy_of_step hstep hstarted hreturned with hbefore | ⟨-, request, rest, hready⟩
    · exact .inl (.inl hbefore)
    · rcases hlater.accounts hreturned with hbrings | hstart
      · exact hbrought hbrings
      · exact absurd hstart (hsound.not_started_of_ready hstep hready)
  · exact hbrought hbrings
  · have hbefore := joined_of_step hsound hlater hstep hstarted hreturned
    have htook := hjoins flight hbefore
    rcases brings_of_step hlater hsound.informed hstep (htook.lt hsound) hbrings with
      hbrought | ⟨hevent, hnew⟩
    · exact .inl (.inr (.inr ⟨flight, hbefore, hbrought⟩))
    · exact .inr ⟨flight, hevent, .inr hbefore, hnew⟩

/-! ### The start of an attempt -/

/-- How a call of `ensureUsable` with the credential that is held runs to its first await. -/
inductive Begun (s : ClientScene) (caller : ℕ) (current : SessionTokens) :
    ClientScene × ClientTask Reply → Prop
  | refused (failure : Failure) : Begun s caller current
      (s, .pure (.refresh (.result (.error failure))))
  | usable (hlive : s.memory.terminated = false)
      (hfresh : ¬ current.IsAccessTokenExpired s.memory.now) : Begun s caller current
      (s, .pure (.refresh (.result (.ok current))))
  | joined (flight : ℕ) (hlive : s.memory.terminated = false)
      (hexpired : current.IsAccessTokenExpired s.memory.now)
      (hchain : ¬ current.IsRefreshTokenExpired s.memory.now)
      (hflight : s.memory.inFlight = some flight) : Begun s caller current
      (s, .pure (.refresh (.joined flight)))
  | other {scene : ClientScene} {rest : ClientTask Reply}
      (hrefuses : ∀ reply, rest = .pure reply → ∃ failure, reply = .refresh (.result (.error failure)))
      (hquiet : ∀ happening ∈ logOf caller scene.history,
        happening ∈ logOf caller s.history ∨ broughtBy happening = none) :
      Begun s caller current (scene, rest)

/-- A segment of a task that leaves the slot alone brings nothing. -/
theorem broughtBy_of_segment {s : ClientScene} {caller : ℕ} {task : ClientTask Reply}
    (huses : task.Uses Slotless) :
    ∀ happening ∈ logOf caller (client.segment caller task s).1.history,
      happening ∈ logOf caller s.history ∨ broughtBy happening = none := by
  intro happening hmem
  cases happening with
  | asked op =>
    refine (Loop.asked_of_segment huses (mem_logOf.mp hmem)).imp mem_logOf.mpr fun hslotless ↦ ?_
    cases op with
    | refreshed outcome => exact hslotless.elim
    | _ => rfl
  | _ => exact .inr rfl

theorem begun_of_uses {s : ClientScene} {caller : ℕ} {current : SessionTokens}
    {task : ClientTask Reply}
    (hreturns : task.Returns fun reply ↦ ∃ failure, reply = .refresh (.result (.error failure)))
    (huses : task.Uses Slotless) : Begun s caller current (client.segment caller task s) := by
  have hrest : (client.segment caller task s).2.Returns
      fun reply ↦ ∃ failure, reply = .refresh (.result (.error failure)) :=
    Loop.segment_returns hreturns
  have hquiet : ∀ happening ∈ logOf caller (client.segment caller task s).1.history,
      happening ∈ logOf caller s.history ∨ broughtBy happening = none :=
    broughtBy_of_segment huses
  generalize client.segment caller task s = after at hrest hquiet ⊢
  obtain ⟨scene, rest⟩ := after
  refine .other (fun reply hreply ↦ ?_) hquiet
  subst hreply
  exact hrest

theorem begun_ensureUsable {s : ClientScene} {caller : ℕ} {current : SessionTokens}
    (hsession : s.memory.session = .activeSession current) :
    Begun s caller current
      (client.segment caller (client.task (.ensureUsable current) caller) s) := by
  change Begun s caller current
    (client.segment caller ((if s.memory.terminated = true then _ else _) >>= _) s)
  by_cases hover : s.memory.terminated = true
  · rw [if_pos hover]
    exact .refused _
  · have hlive : s.memory.terminated = false := by simpa using hover
    rw [if_neg hover]
    simp only [hsession]
    rw [if_neg (not_not.mpr rfl)]
    by_cases hexpired : current.IsAccessTokenExpired s.memory.now
    · rw [if_neg (not_not.mpr hexpired)]
      by_cases hchain : current.IsRefreshTokenExpired s.memory.now
      · rw [if_pos hchain]
        have hreturns : (do
            let reply ← (do
              let terminated ← TokenRefreshCoordinator.terminate .expired
              return RefreshReply.result terminated)
            return Reply.refresh reply : ClientTask Reply).Returns
              fun reply ↦ ∃ failure, reply = .refresh (.result (.error failure)) := by
          refine Foundation.Program.Returns.bind ((terminate_returns .expired).bind fun result hresult ↦ ?_)
            fun reply hreply ↦ hreply
          exact ⟨.sessionExpired .expired, by rw [hresult]⟩
        have huses : (do
            let reply ← (do
              let terminated ← TokenRefreshCoordinator.terminate .expired
              return RefreshReply.result terminated)
            return Reply.refresh reply : ClientTask Reply).Uses Slotless :=
          uses_bind (uses_bind (terminate_slotless .expired) fun _ ↦ uses_pure _)
            fun _ ↦ uses_pure _
        exact begun_of_uses hreturns huses
      · rw [if_neg hchain]
        unfold TokenRefreshCoordinator.joinOrRefresh
        cases hflight : s.memory.inFlight with
        | some flight => exact .joined flight hlive hexpired hchain hflight
        | none =>
          refine .other (fun reply hreply ↦ by cases hreply) fun happening hmem ↦ ?_
          change happening ∈ logOf caller (⟨caller, .asked (.identityRefresh _)⟩ ::
            ⟨caller, .did _ _⟩ :: ⟨caller, .did _ _⟩ :: s.history) at hmem
          rw [logOf_cons_self, logOf_cons_self, logOf_cons_self] at hmem
          simp only [List.mem_cons] at hmem
          rcases hmem with rfl | rfl | rfl | hmem
          · exact .inr rfl
          · exact .inr rfl
          · exact .inr rfl
          · exact .inl hmem
    · rw [if_pos hexpired]
      exact .usable hlive hexpired

/-- What a call has returned that has just started. -/
theorem returnedBy_of_start {scene : ClientScene} {request : Request} {rest : ClientTask Reply}
    {reply : RefreshReply}
    (hreturned : returnedBy ⟨scene, p.calls ++ [⟨request, .suspended rest⟩]⟩ p.calls.length =
      some reply) : rest = .pure (.refresh reply) := by
  obtain ⟨returning, hcall⟩ := returnedBy_eq_some hreturned
  rw [List.getElem?_concat_length] at hcall
  simp only [Option.some.injEq, Call.mk.injEq, Progress.suspended.injEq] at hcall
  exact hcall.2

/-- A call that a send starts may bring only tokens that suit it, where the session that it finds
does. -/
theorem suits_of_start {send : Send} {replaying : Option SessionTokens} {current : SessionTokens}
    (hsound : Sound p) (hheld : p.scene.memory.session.tokens = some current)
    (hfinds : FindsSuitable p send replaying)
    (hstep : client.step p (.start (.ensureUsable current)) = some later) :
    JoinsTaken later p.calls.length ∧
      ∀ tokens, MayBring later p.calls.length tokens → send.Suits replaying tokens := by
  have hsession : p.scene.memory.session = .activeSession current := by
    cases hstate : p.scene.memory.session with
    | noSession =>
      rw [hstate] at hheld
      cases hheld
    | activeSession tokens =>
      rw [hstate] at hheld
      exact congrArg SessionState.activeSession (Option.some.inj hheld)
  have hlog : logOf p.calls.length p.scene.history = [] :=
    hsound.started.logOf_eq_nil (Nat.le_refl _)
  have hbegun : Begun (p.scene.notes p.calls.length (.started (.ensureUsable current)))
      p.calls.length current _ := begun_ensureUsable hsession
  obtain rfl := Option.some.inj hstep
  generalize client.segment _ _ _ = after at hbegun ⊢
  -- Until its first await the call has brought nothing.
  have hquiet {scene : ClientScene} {tokens : SessionTokens}
      (hkept : ∀ happening ∈ logOf p.calls.length scene.history,
        happening ∈ logOf p.calls.length
            (p.scene.notes p.calls.length (.started (.ensureUsable current))).history ∨
          broughtBy happening = none) :
      ¬ ∃ happening ∈ logOf p.calls.length scene.history, broughtBy happening = some tokens := by
    rintro ⟨happening, hmem, hbrought⟩
    rcases hkept happening hmem with hstarted | hnone
    · rw [Scene.notes_history, logOf_cons_self, hlog] at hstarted
      rw [List.mem_singleton.mp hstarted] at hbrought
      cases hbrought
    · rw [hnone] at hbrought
      cases hbrought
  cases hbegun with
  | refused failure =>
    constructor
    · intro flight hreturned
      cases returnedBy_of_start hreturned
    · rintro tokens (hreturned | hbrings | ⟨flight, hreturned, -⟩)
      · cases returnedBy_of_start hreturned
      · exact absurd hbrings (hquiet fun _ hmem ↦ .inl hmem)
      · cases returnedBy_of_start hreturned
  | usable hlive hfresh =>
    constructor
    · intro flight hreturned
      cases returnedBy_of_start hreturned
    · rintro tokens (hreturned | hbrings | ⟨flight, hreturned, -⟩)
      · cases returnedBy_of_start hreturned
        exact (hfinds hlive current hheld).1 hfresh
      · exact absurd hbrings (hquiet fun _ hmem ↦ .inl hmem)
      · cases returnedBy_of_start hreturned
  | joined flight hlive hexpired hchain hflight =>
    have htook : Took p.scene.history flight := hsound.informed.slot flight hflight
    have hlt := htook.lt hsound
    constructor
    · intro other hreturned
      cases returnedBy_of_start hreturned
      exact htook.cons
    · rintro tokens (hreturned | hbrings | ⟨other, hreturned, happening, hmem, hbrought⟩)
      · cases returnedBy_of_start hreturned
      · exact absurd hbrings (hquiet fun _ hmem ↦ .inl hmem)
      · cases returnedBy_of_start hreturned
        rw [Scene.notes_history, logOf_cons_of_ne (by omega)] at hmem
        exact (hfinds hlive current hheld).2 hexpired hchain flight hflight happening hmem tokens
          hbrought
  | other hrefuses hkept =>
    constructor
    · intro flight hreturned
      obtain ⟨failure, hreply⟩ := hrefuses _ (returnedBy_of_start hreturned)
      cases hreply
    · rintro tokens (hreturned | hbrings | ⟨flight, hreturned, -⟩)
      · obtain ⟨failure, hreply⟩ := hrefuses _ (returnedBy_of_start hreturned)
        cases hreply
      · exact absurd hbrings (hquiet hkept)
      · obtain ⟨failure, hreply⟩ := hrefuses _ (returnedBy_of_start hreturned)
        cases hreply

end Client

/-! ### The sends -/

/-- What is known of a send, along every run. -/
structure Attentive (p : ClientProcess) (send : Send) : Prop where
  faithful : send.Faithful
  carries : ∀ issue ∈ send.issued, issue.credential.isSome = send.request.requiresAuthentication
  resolving : ∀ call replaying, send.phase = .resolving call replaying →
    call < p.calls.length ∧ JoinsTaken p call ∧
      ∀ tokens, MayBring p call tokens → send.Suits replaying tokens
  authenticates : (∃ call replaying, send.phase = .resolving call replaying) ∨
    (∃ call rejected, send.phase = .refreshing call rejected) →
      send.request.requiresAuthentication = true

section Sends

variable {policy : RetryPolicy} {p later : ClientProcess} {send after : Send}
  {replaying : Option SessionTokens} {tokens : SessionTokens}

/-- A send that has not started suits any session. -/
theorem suits_of_not_issued (hissued : send.issued = []) : send.Suits none tokens := by
  constructor
  · intro first hfirst
    rw [hissued] at hfirst
    cases hfirst
  · intro rejected hrejected
    cases hrejected

/-- A send whose phase awaits no call. -/
theorem Attentive.of_phase (hfaithful : send.Faithful)
    (hcarries : ∀ issue ∈ send.issued,
      issue.credential.isSome = send.request.requiresAuthentication)
    (hresolving : ∀ call replaying, send.phase ≠ .resolving call replaying)
    (hrefreshing : ∀ call rejected, send.phase ≠ .refreshing call rejected) :
    Attentive p send where
  faithful := hfaithful
  carries := hcarries
  resolving := fun call replaying hphase ↦ absurd hphase (hresolving call replaying)
  authenticates := by
    rintro (⟨call, replaying, hphase⟩ | ⟨call, rejected, hphase⟩)
    · exact absurd hphase (hresolving call replaying)
    · exact absurd hphase (hrefreshing call rejected)

theorem Attentive.returned (hattentive : Attentive p send) (outcome : SendOutcome) :
    Attentive later { send with phase := .returned outcome } :=
  .of_phase ⟨hattentive.faithful.identity, hattentive.faithful.replay⟩ hattentive.carries nofun nofun

theorem Attentive.fail (hattentive : Attentive p send) (failure : Failure) :
    Attentive later (send.fail policy failure) := by
  unfold Send.fail
  split_ifs with hretries
  · exact .of_phase ⟨hattentive.faithful.identity, hattentive.faithful.replay⟩ hattentive.carries
      nofun nofun
  · exact hattentive.returned _

/-- Tokens that suit a send keep it faithful. -/
theorem Attentive.issue (hattentive : Attentive p send)
    (hauthenticated : send.request.requiresAuthentication = true)
    (hsuits : send.Suits replaying tokens) :
    Attentive p (send.issue (some tokens) replaying) := by
  refine .of_phase ⟨?_, ?_⟩ ?_ nofun nofun
  · intro first hfirst issue hissue
    change first ∈ (_ :: send.issued).getLast? at hfirst
    rw [List.getLast?_cons, Option.mem_some_iff] at hfirst
    cases hlast : send.issued.getLast? with
    | none =>
      have hissued : send.issued = [] := List.getLast?_eq_none_iff.mp hlast
      change issue ∈ _ :: send.issued at hissue
      rw [hlast, Option.getD_none] at hfirst
      rw [hissued, List.mem_singleton] at hissue
      rw [hissue, hfirst]
    | some oldest =>
      rw [hlast, Option.getD_some] at hfirst
      subst hfirst
      rcases List.mem_cons.mp hissue with rfl | hissue
      · have hcarried := hattentive.carries oldest (List.mem_of_getLast? hlast)
        rw [hauthenticated, Option.isSome_iff_exists] at hcarried
        obtain ⟨credential, hcredential⟩ := hcarried
        rw [hcredential]
        exact congrArg some (hsuits.1 oldest hlast credential hcredential)
      · exact hattentive.faithful.identity oldest hlast issue hissue
  · intro issue hissue rejected hrejected credential hcredential
    rcases List.mem_cons.mp hissue with rfl | hissue
    · obtain rfl : tokens = credential := Option.some.inj hcredential
      exact hsuits.2 rejected hrejected
    · exact hattentive.faithful.replay issue hissue rejected hrejected credential hcredential
  · intro issue hissue
    rcases List.mem_cons.mp hissue with rfl | hissue
    · exact hauthenticated.symm
    · exact hattentive.carries issue hissue

/-- A request without authentication carries no credential. -/
theorem Attentive.issue_none (hattentive : Attentive p send)
    (hplain : send.request.requiresAuthentication = false) :
    Attentive p (send.issue none replaying) := by
  have hnone : ∀ issue ∈ (send.issue none replaying).issued, issue.credential = none := by
    intro issue hissue
    rcases List.mem_cons.mp hissue with rfl | hissue
    · rfl
    · have hcarried := hattentive.carries issue hissue
      rw [hplain, Option.isSome_eq_false_iff, Option.isNone_iff_eq_none] at hcarried
      exact hcarried
  refine .of_phase ⟨?_, ?_⟩ ?_ nofun nofun
  · intro first hfirst issue hissue
    rw [hnone issue hissue, hnone first (List.mem_of_getLast? hfirst)]
  · intro issue hissue rejected hrejected credential hcredential
    rw [hnone issue hissue] at hcredential
    cases hcredential
  · intro issue hissue
    rw [hnone issue hissue]
    exact hplain.symm

/-- An event of the client keeps what is known of a send, if what arrives for it suits it. -/
theorem Attentive.step {event : ClientEvent} (hattentive : Attentive p send) (hsound : Sound p)
    (hlater : Sound later) (hstep : client.step p event = some later)
    (hreceives : ∀ flight, event = .resume flight → ReceivesSuitable p flight send) :
    Attentive later send where
  faithful := hattentive.faithful
  carries := hattentive.carries
  authenticates := hattentive.authenticates
  resolving := by
    intro call replaying hphase
    obtain ⟨hstarted, hjoins, hsuits⟩ := hattentive.resolving call replaying hphase
    refine ⟨?_, hjoins.step hsound hlater hstep hstarted, fun tokens hmay ↦ ?_⟩
    · have hgrows := (Loop.steps_of_step_eq_some hstep).length_calls_le
      omega
    · rcases mayBring_of_step hsound hlater hstep hstarted hjoins hmay with
        hbefore | ⟨flight, hevent, hwaits, payload, harriving, hdecode⟩
      · exact hsuits tokens hbefore
      · have hreceived := hreceives flight hevent
        unfold ReceivesSuitable at hreceived
        rw [hphase] at hreceived
        refine hreceived hwaits payload harriving tokens ?_
        rw [hdecode]
        rfl

/-- What a segment of a send leaves: the client as it was, or one call further, and the send as it
should be. -/
def Leaves (p : ClientProcess) (after : ClientProcess × Send) : Prop :=
  (after.1 = p ∨ ∃ request, client.step p (.start request) = some after.1) ∧
    Attentive after.1 after.2

theorem Leaves.here (hattentive : Attentive p send) : Leaves p (p, send) :=
  ⟨.inl rfl, hattentive⟩

section Reached

variable {now : SharedKernel.Instant} {world : World} {after : ClientProcess × Send}

theorem beginAttempt_leaves (hreaches : Loop.Reaches client (fun _ _ ↦ True) (launch now world) p)
    (hattentive : Attentive p send) (hfinds : FindsSuitable p send replaying)
    (hbegin : beginAttempt policy p send replaying = some after) : Leaves p after := by
  unfold beginAttempt at hbegin
  split at hbegin
  · rename_i hauthenticated
    cases hheld : p.scene.memory.session.tokens with
    | none =>
      rw [hheld] at hbegin
      exact Option.some.inj hbegin ▸ .here (hattentive.fail _)
    | some current =>
      rw [hheld] at hbegin
      obtain ⟨later, hstep, rfl⟩ := Option.map_eq_some_iff.mp hbegin
      obtain ⟨hjoins, hsuits⟩ := suits_of_start (sound_of_reaches hreaches) hheld hfinds hstep
      refine ⟨.inr ⟨_, hstep⟩, ⟨hattentive.faithful.identity, hattentive.faithful.replay⟩,
        hattentive.carries, ?_, fun _ ↦ hauthenticated⟩
      intro call other hphase
      obtain ⟨rfl, rfl⟩ := SendPhase.resolving.inj hphase
      refine ⟨?_, hjoins, hsuits⟩
      rw [← Option.some.inj hstep]
      simp
  · rename_i hplain
    have hplain : send.request.requiresAuthentication = false := by simpa using hplain
    exact Option.some.inj hbegin ▸ .here (hattentive.issue_none hplain)

/-- A send goes on. -/
theorem goOn_leaves (hreaches : Loop.Reaches client (fun _ _ ↦ True) (launch now world) p)
    (hattentive : Attentive p send)
    (hreplays : ReplaysSuitably p send)
    (hgoOn : send.goOn policy p = some after) : Leaves p after := by
  unfold Send.goOn at hgoOn
  split at hgoOn
  · rename_i call replaying hphase
    obtain ⟨hstarted, hjoins, hsuits⟩ := hattentive.resolving call replaying hphase
    have hauthenticated := hattentive.authenticates (.inl ⟨call, replaying, hphase⟩)
    split at hgoOn
    · rename_i credential hfuture
      have hmay := mayBring_of_future (sound_of_reaches hreaches) hjoins hfuture
      exact Option.some.inj hgoOn ▸
        .here (hattentive.issue hauthenticated (hsuits credential hmay))
    · exact Option.some.inj hgoOn ▸ .here (hattentive.fail _)
    · exact Option.some.inj hgoOn ▸ .here (hattentive.returned _)
    · cases hgoOn
    · cases hgoOn
  · rename_i call rejected hphase
    split at hgoOn
    · rename_i credential hfuture
      split_ifs at hgoOn with hreplayable
      · refine beginAttempt_leaves hreaches hattentive ?_ hgoOn
        unfold ReplaysSuitably at hreplays
        rw [hphase] at hreplays
        refine hreplays hreplayable ?_
        rw [grantedBy, hfuture]
        rfl
      · exact Option.some.inj hgoOn ▸ .here (hattentive.fail _)
    · exact Option.some.inj hgoOn ▸ .here (hattentive.fail _)
    · exact Option.some.inj hgoOn ▸ .here (hattentive.returned _)
    · cases hgoOn
    · cases hgoOn
  · cases hgoOn

/-- The answer of the server to a send. -/
theorem answer_leaves (hattentive : Attentive p send) {result : HttpResult}
    (hanswer : send.answer policy p result = some after) : Leaves p after := by
  unfold Send.answer at hanswer
  split at hanswer
  · rename_i credential replaying hphase
    split at hanswer
    · exact Option.some.inj hanswer ▸ .here (hattentive.fail _)
    · split_ifs at hanswer with hsuccess hdecodable hrejected
      · exact Option.some.inj hanswer ▸ .here (hattentive.returned _)
      · exact Option.some.inj hanswer ▸ .here (hattentive.fail _)
      · split at hanswer
        · exact Option.some.inj hanswer ▸ .here (hattentive.fail _)
        · obtain ⟨later, hstep, rfl⟩ := Option.map_eq_some_iff.mp hanswer
          refine ⟨.inr ⟨_, hstep⟩, ⟨hattentive.faithful.identity, hattentive.faithful.replay⟩,
            hattentive.carries, fun call replaying hphase ↦ ?_, fun _ ↦ hrejected.2.1⟩
          cases hphase
      · exact Option.some.inj hanswer ▸ .here (hattentive.fail _)
  · cases hanswer

/-- The next attempt of a send. -/
theorem retry_leaves (hreaches : Loop.Reaches client (fun _ _ ↦ True) (launch now world) p)
    (hattentive : Attentive p send) {isCancelled : Bool}
    (hfinds : isCancelled = false → FindsSuitable p send none)
    (hretry : send.retry policy p isCancelled = some after) : Leaves p after := by
  unfold Send.retry at hretry
  split at hretry
  · split_ifs at hretry with hcancelled
    · exact Option.some.inj hretry ▸ .here (hattentive.returned _)
    · exact beginAttempt_leaves hreaches hattentive (hfinds (by simpa using hcancelled)) hretry
  · cases hretry

end Reached

end Sends

/-! ### Runs -/

section Runs

variable {policy : RetryPolicy} {now : SharedKernel.Instant} {world : World} {t : Transport}

/-- What is known of a transport, along every run. -/
structure Careful (now : SharedKernel.Instant) (world : World) (t : Transport) : Prop where
  reaches : Loop.Reaches client (fun _ _ ↦ True) (launch now world) t.client
  sends : ∀ send ∈ t.sends, Attentive t.client send

/-- A call that starts keeps what is known of the sends. -/
theorem Careful.of_leaves (hcareful : Careful now world t) {after : ClientProcess × Send}
    (hleaves : Leaves t.client after) : Loop.Reaches client (fun _ _ ↦ True) (launch now world) after.1 ∧
      ∀ send ∈ t.sends, Attentive after.1 send := by
  rcases hleaves.1 with hsame | ⟨request, hstep⟩
  · rw [hsame]
    exact ⟨hcareful.reaches, hcareful.sends⟩
  · have hreaches := hcareful.reaches.step trivial hstep
    refine ⟨hreaches, fun send hsend ↦ ?_⟩
    exact (hcareful.sends send hsend).step (sound_of_reaches hcareful.reaches)
      (sound_of_reaches hreaches) hstep nofun

/-- A segment of one of the sends. -/
theorem Careful.segment (hcareful : Careful now world t) {later : Transport} {index : ℕ}
    {step : Send → Option (ClientProcess × Send)}
    (hleaves : ∀ send after, t.sends[index]? = some send → step send = some after →
      Leaves t.client after)
    (hstep : t.segment index step = some later) : Careful now world later := by
  unfold Transport.segment at hstep
  split at hstep
  · cases hstep
  · rename_i send hsend
    obtain ⟨⟨client, segmented⟩, hafter, rfl⟩ := Option.map_eq_some_iff.mp hstep
    have hleaves := hleaves send (client, segmented) hsend hafter
    obtain ⟨hreaches, hothers⟩ := hcareful.of_leaves hleaves
    refine ⟨hreaches, fun other hother ↦ ?_⟩
    rcases List.mem_or_eq_of_mem_set hother with hother | rfl
    · exact hothers other hother
    · exact hleaves.2

theorem Careful.step (hcareful : Careful now world t) {later : Transport} {event : TransportEvent}
    (hsame : SameSession t event) (hstep : t.step policy event = some later) :
    Careful now world later := by
  have hreaches := hcareful.reaches
  have hattentive {send : Send} {index : ℕ} (hsend : t.sends[index]? = some send) :
      Attentive t.client send :=
    hcareful.sends send (List.mem_of_getElem? hsend)
  match event with
  | .client event =>
    obtain ⟨client, hclient, rfl⟩ := Option.map_eq_some_iff.mp hstep
    have hlater := hreaches.step trivial hclient
    refine ⟨hlater, fun send hsend ↦ ?_⟩
    refine (hcareful.sends send hsend).step (sound_of_reaches hreaches) (sound_of_reaches hlater)
      hclient fun flight hevent ↦ ?_
    subst hevent
    exact hsame send hsend
  | .send request true =>
    obtain rfl := Option.some.inj hstep
    refine ⟨hreaches, fun send hsend ↦ ?_⟩
    rcases List.mem_append.mp hsend with hsend | hsend
    · exact hcareful.sends send hsend
    · rw [List.mem_singleton.mp hsend]
      exact .of_phase ⟨nofun, nofun⟩ nofun nofun nofun
  | .send request false =>
    obtain ⟨⟨client, begun⟩, hbegin, rfl⟩ := Option.map_eq_some_iff.mp hstep
    have hfresh : Attentive t.client ⟨request, 1, .backingOff, []⟩ :=
      .of_phase ⟨nofun, nofun⟩ nofun nofun nofun
    have hfinds : FindsSuitable t.client ⟨request, 1, .backingOff, []⟩ none :=
      fun _ current _ ↦ ⟨fun _ ↦ suits_of_not_issued rfl,
        fun _ _ flight _ happening _ tokens _ ↦ suits_of_not_issued rfl⟩
    have hleaves := beginAttempt_leaves hreaches hfresh hfinds hbegin
    obtain ⟨hlater, hothers⟩ := hcareful.of_leaves hleaves
    refine ⟨hlater, fun send hsend ↦ ?_⟩
    rcases List.mem_append.mp hsend with hsend | hsend
    · exact hothers send hsend
    · rw [List.mem_singleton.mp hsend]
      exact hleaves.2
  | .goOn index =>
    exact hcareful.segment
      (fun send after hsend hgoOn ↦
        goOn_leaves hreaches (hattentive hsend) (hsame send hsend) hgoOn) hstep
  | .answer index result =>
    exact hcareful.segment
      (fun send after hsend hanswer ↦ answer_leaves (hattentive hsend) hanswer) hstep
  | .retry index isCancelled =>
    exact hcareful.segment (fun send after hsend hretry ↦
      retry_leaves hreaches (hattentive hsend) (hsame send hsend) hretry) hstep

/-- In every run in which the session stays the one of the send wherever the send reads it, every
HTTP request of a send carries a credential of one session, and no replay carries the access token
that was rejected. -/
theorem send_faithful (hreaches : Foundation.Schedule.Reaches (Transport.step policy) SameSession
    (Transport.launch now world) t) :
    ∀ send ∈ t.sends, send.Faithful := by
  have hcareful : Careful now world t :=
    hreaches.keeps ⟨.refl, by simp [Transport.launch]⟩ fun _ _ _ hcareful hsame hstep ↦ hcareful.step hsame hstep
  exact fun send hsend ↦ (hcareful.sends send hsend).faithful

end Runs

/-! ### Another user, and a slow write of the store -/

namespace TwoUsers

open TwoSessions

/-- A payload whose access token has not aged out. -/
def fresh (payload : SessionPayload) : SessionPayload :=
  { payload with accessTokenExpiresAt := some 1000000 }

def policy : RetryPolicy := ⟨3, by decide⟩

def get : ApiRequest := ⟨.get, true, none⟩

def rejection : HttpResult := .response 401 true .authenticationRequired

def run (events : List TransportEvent) : Transport :=
  Foundation.Schedule.finish (Transport.step policy) (Transport.launch 0 emptyWorld) events

def clientAnswered (caller : ℕ) (oracles : List Oracle) : List TransportEvent :=
  (answered caller oracles).map .client

/-- The first user is signed in, and the first request of a send has been issued. -/
def issuedOnce : List TransportEvent :=
  .client (.start (.adoptSession (fresh (payload "first")))) ::
    clientAnswered 0 (List.replicate 5 .succeeds) ++ [.send get false, .goOn 0]

/-- The request times out, and another user signs in before the next attempt. -/
def otherUser : List TransportEvent :=
  issuedOnce ++ [.answer 0 (.failed .timeout),
    .client (.start (.adoptSession (fresh (payload "second")))), .retry 0 false, .goOn 0]

/-- A refresh has brought its tokens, and their write is not confirmed yet. A send carries them and
is rejected; it joins that refresh. -/
def slowWrite : List TransportEvent :=
  refreshOfFirst.map .client ++
    clientAnswered 1 [.responds (.payload (fresh (rotation "second"))), .succeeds] ++
    [.send get false, .goOn 0, .answer 0 rejection] ++
    clientAnswered 1 (List.replicate 5 .succeeds) ++ [.goOn 0, .goOn 0]

/-- A rejected request, the refresh that follows it, and the replay. -/
def rejectedOnce : List TransportEvent :=
  issuedOnce ++ .answer 0 rejection ::
    clientAnswered 2 [.responds (.payload (fresh (rotation "second")))] ++
    clientAnswered 2 (List.replicate 6 .succeeds) ++ [.goOn 0, .goOn 0]

end TwoUsers

open TwoUsers in
/-- A retry carries the token of another user, and a replay the very token that was rejected. -/
theorem not_send_faithful :
    (¬ ∀ policy now world t, Foundation.Schedule.Reaches (Transport.step policy) (fun _ _ ↦ True)
        (Transport.launch now world) t →
      ∀ send ∈ t.sends, ∀ first ∈ send.issued.getLast?, ∀ issue ∈ send.issued,
        issue.credential.map (·.sessionId) = first.credential.map (·.sessionId)) ∧
      ¬ ∀ policy now world t, Foundation.Schedule.Reaches (Transport.step policy) (fun _ _ ↦ True)
          (Transport.launch now world) t →
        ∀ send ∈ t.sends, ∀ issue ∈ send.issued, ∀ rejected ∈ issue.replaying,
          ∀ credential ∈ issue.credential, credential.accessToken ≠ rejected.accessToken := by
  constructor
  · intro hclaim
    have hidentity := hclaim policy 0 TwoSessions.emptyWorld (run otherUser)
      (Foundation.Schedule.reaches_finish (Foundation.Schedule.follows_true _ _))
    revert hidentity
    decide
  · intro hclaim
    have hreplay := hclaim policy 0 TwoSessions.emptyWorld (run slowWrite)
      (Foundation.Schedule.reaches_finish (Foundation.Schedule.follows_true _ _))
    revert hreplay
    decide

open TwoUsers in
/-- A refresh that the send itself has started lets it replay. -/
theorem send_faithful_rejectedOnce :
    ((run rejectedOnce).sends.map (·.issued.length)) = [2] ∧
      ∀ send ∈ (run rejectedOnce).sends, send.Faithful :=
  ⟨by decide, send_faithful (Foundation.Schedule.reaches_finish (by decide))⟩

end Karar.MobileClient
