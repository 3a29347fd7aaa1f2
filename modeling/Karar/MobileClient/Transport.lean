import Karar.Foundation.Run
import Karar.MobileClient.RefreshConfinement

/-!
# The transport of the mobile client

`DioApiTransport.send` over the session and the refresh coordinator, as the composition wires it. A
send runs beside the calls of the client: it starts calls of the coordinator, and it goes on once a
future it waits for is complete. Each of its segments reads the memory of the client and starts at
most one call.

Every HTTP request that a send issues is recorded with the credential it carries and, for a replay,
with the credential that the server has rejected.
-/

namespace Karar.MobileClient

open Foundation.EventLoop

/-! ### Requests -/

inductive HttpMethod
  | get
  | head
  | post
  | put
  | patch
  | delete
deriving DecidableEq

def HttpMethod.isIdempotent : HttpMethod → Bool
  | get | head | put | delete => true
  | post | patch => false

/-- An `ApiRequest`, as far as `send` reads it. -/
structure ApiRequest where
  method : HttpMethod
  requiresAuthentication : Bool
  idempotencyKey : Option String
deriving DecidableEq

def ApiRequest.isReplayable (request : ApiRequest) : Bool :=
  request.method.isIdempotent || request.idempotencyKey.isSome

/-- The cap on the attempts, the first included. -/
structure RetryPolicy where
  maxAttempts : ℕ
  atLeastOne : 1 ≤ maxAttempts

def RetryPolicy.isRetryableFailure : Failure → Bool
  | .offline | .timeout | .dependencyUnavailable | .rateLimited => true
  | _ => false

/-! ### One send -/

/-- How `_dio.request` ends. -/
inductive HttpResult
  /-- A `DioException`, as `_mapDioException` maps it. -/
  | failed (failure : Failure)
  /-- A response, with what `_failureFromResponse` would make of it. -/
  | response (status : ℕ) (isDecodable : Bool) (failure : Failure)
deriving DecidableEq

inductive SendOutcome
  | answered (status : ℕ)
  | failed (failure : Failure)
  | thrown
deriving DecidableEq

/-- Where a send is suspended. An attempt that replays a rejected credential carries it, and allows
no further refresh. -/
inductive SendPhase
  /-- `_resolveCredential` awaits a call of `ensureUsable`. -/
  | resolving (call : ℕ) (replaying : Option SessionTokens)
  | requesting (credential replaying : Option SessionTokens)
  /-- `_refreshAndReplay` awaits a call of `refreshAfterRejection`. -/
  | refreshing (call : ℕ) (rejected : SessionTokens)
  | backingOff
  | returned (outcome : SendOutcome)
deriving DecidableEq

/-- An HTTP request that was issued. -/
structure Issue where
  credential : Option SessionTokens
  /-- The credential that the server has rejected, of a replay. -/
  replaying : Option SessionTokens
deriving DecidableEq

structure Send where
  request : ApiRequest
  attempt : ℕ
  phase : SendPhase
  /-- Latest first. -/
  issued : List Issue
deriving DecidableEq

namespace Send

/-- The `catch` of `send`. -/
def fail (policy : RetryPolicy) (send : Send) (failure : Failure) : Send :=
  if send.attempt < policy.maxAttempts ∧ send.request.isReplayable ∧
      RetryPolicy.isRetryableFailure failure then
    { send with attempt := send.attempt + 1, phase := .backingOff }
  else
    { send with phase := .returned (.failed failure) }

def issue (send : Send) (credential replaying : Option SessionTokens) : Send :=
  { send with
    phase := .requesting credential replaying
    issued := ⟨credential, replaying⟩ :: send.issued }

end Send

/-- What a call of the coordinator has returned. -/
def returnedBy (p : ClientProcess) (call : ℕ) : Option RefreshReply :=
  match p.calls[call]? with
  | some ⟨_, .suspended (.pure (.refresh reply))⟩ => some reply
  | _ => none

/-- What the future of a call has completed with. A caller that joined a refresh has its future. -/
def futureOf (p : ClientProcess) (call : ℕ) : Option RefreshReply :=
  match returnedBy p call with
  | some (.joined flight) => returnedBy p flight
  | reply => reply

/-- The tokens with which the future of a call has completed. -/
def grantedBy (p : ClientProcess) (call : ℕ) : Option SessionTokens :=
  match futureOf p call with
  | some (.result (.ok tokens)) => some tokens
  | _ => none

/-- The beginning of `_attempt`, up to its first await. -/
def beginAttempt (policy : RetryPolicy) (p : ClientProcess) (send : Send)
    (replaying : Option SessionTokens) : Option (ClientProcess × Send) :=
  if send.request.requiresAuthentication then
    match p.scene.memory.session.tokens with
    | none => some (p, send.fail policy .authenticationRequired)
    | some current =>
      (client.step p (.start (.ensureUsable current))).map fun later ↦
        (later, { send with phase := .resolving p.calls.length replaying })
  else
    some (p, send.issue none replaying)

/-- A send goes on with what the future it waits for has completed with. -/
def Send.goOn (policy : RetryPolicy) (p : ClientProcess) (send : Send) :
    Option (ClientProcess × Send) :=
  match send.phase with
  | .resolving call replaying =>
    match futureOf p call with
    | some (.result (.ok credential)) => some (p, send.issue (some credential) replaying)
    | some (.result (.error failure)) => some (p, send.fail policy failure)
    | some .thrown => some (p, { send with phase := .returned .thrown })
    | some (.joined _) | none => none
  | .refreshing call rejected =>
    match futureOf p call with
    | some (.result (.ok _)) =>
      if send.request.isReplayable then
        beginAttempt policy p send (some rejected)
      else
        some (p, send.fail policy .unsafeRequestNotReplayed)
    | some (.result (.error failure)) => some (p, send.fail policy failure)
    | some .thrown => some (p, { send with phase := .returned .thrown })
    | some (.joined _) | none => none
  | _ => none

/-- The rest of `_attempt`, from the end of the HTTP request on. -/
def Send.answer (policy : RetryPolicy) (p : ClientProcess) (send : Send) (result : HttpResult) :
    Option (ClientProcess × Send) :=
  match send.phase with
  | .requesting credential replaying =>
    match result with
    | .failed failure => some (p, send.fail policy failure)
    | .response status isDecodable failure =>
      if 200 ≤ status ∧ status < 300 then
        if isDecodable then
          some (p, { send with phase := .returned (.answered status) })
        else
          some (p, send.fail policy (.contractViolation "response_body"))
      else if status = 401 ∧ send.request.requiresAuthentication ∧ replaying = none then
        match credential with
        | none => some (p, send.fail policy failure)
        | some rejected =>
          (client.step p (.start (.refreshAfterRejection rejected))).map fun later ↦
            (later, { send with phase := .refreshing p.calls.length rejected })
      else
        some (p, send.fail policy failure)
  | _ => none

/-- The delay before the next attempt is over. -/
def Send.retry (policy : RetryPolicy) (p : ClientProcess) (send : Send) (isCancelled : Bool) :
    Option (ClientProcess × Send) :=
  match send.phase with
  | .backingOff =>
    if isCancelled then
      some (p, { send with phase := .returned (.failed .requestCancelled) })
    else
      beginAttempt policy p send none
  | _ => none

/-! ### The client and its sends -/

structure Transport where
  client : ClientProcess
  sends : List Send

inductive TransportEvent
  | client (event : ClientEvent)
  | send (request : ApiRequest) (isCancelled : Bool)
  | goOn (send : ℕ)
  | answer (send : ℕ) (result : HttpResult)
  | retry (send : ℕ) (isCancelled : Bool)

namespace Transport

def launch (now : SharedKernel.Instant) (world : World) : Transport :=
  ⟨MobileClient.launch now world, []⟩

/-- A segment of one of the sends. -/
def segment (t : Transport) (index : ℕ) (step : Send → Option (ClientProcess × Send)) :
    Option Transport :=
  match t.sends[index]? with
  | none => none
  | some send => (step send).map fun (p, later) ↦ ⟨p, t.sends.set index later⟩

/-- One event. `none` means that the event is not possible. -/
def step (policy : RetryPolicy) (t : Transport) : TransportEvent → Option Transport
  | .client event => (MobileClient.client.step t.client event).map fun later ↦ ⟨later, t.sends⟩
  | .send request true =>
    some ⟨t.client, t.sends ++ [⟨request, 1, .returned (.failed .requestCancelled), []⟩]⟩
  | .send request false =>
    (beginAttempt policy t.client ⟨request, 1, .backingOff, []⟩ none).map fun (p, send) ↦
      ⟨p, t.sends ++ [send]⟩
  | .goOn index => t.segment index fun send ↦ send.goOn policy t.client
  | .answer index result => t.segment index fun send ↦ send.answer policy t.client result
  | .retry index isCancelled => t.segment index fun send ↦ send.retry policy t.client isCancelled

end Transport

/-! ### What is claimed -/

/-- Every HTTP request of a send carries a credential of one session, and no replay carries the
access token that was rejected. -/
structure Send.Faithful (send : Send) : Prop where
  identity : ∀ first ∈ send.issued.getLast?, ∀ issue ∈ send.issued,
    issue.credential.map (·.sessionId) = first.credential.map (·.sessionId)
  replay : ∀ issue ∈ send.issued, ∀ rejected ∈ issue.replaying, ∀ credential ∈ issue.credential,
    credential.accessToken ≠ rejected.accessToken

/-! ### The condition -/

/-- Tokens with which a send may go on: of the session of its first request, and not the ones that
it replays. -/
def Send.Suits (send : Send) (replaying : Option SessionTokens) (tokens : SessionTokens) : Prop :=
  (∀ first ∈ send.issued.getLast?, ∀ credential ∈ first.credential,
    tokens.sessionId = credential.sessionId) ∧
    ∀ rejected ∈ replaying, tokens.accessToken ≠ rejected.accessToken

/-- The tokens with which the refresh function has answered. -/
def broughtBy : ClientHappening → Option SessionTokens
  | .asked (.refreshed (.result (.ok tokens))) => some tokens
  | _ => none

/-- The response that has just arrived. -/
def arrivingIn : List ClientHappening → Option SessionPayload
  | .answered (.identityRefresh _) (.payload payload) :: _ => some payload
  | _ => none

/-- The session that an attempt finds suits the send: the credential that is held, unless it has
expired; then the tokens that the refresh in flight may already have brought. -/
def FindsSuitable (p : ClientProcess) (send : Send) (replaying : Option SessionTokens) : Prop :=
  p.scene.memory.terminated = false → ∀ current ∈ p.scene.memory.session.tokens,
    (¬ current.IsAccessTokenExpired p.scene.memory.now → send.Suits replaying current) ∧
      (current.IsAccessTokenExpired p.scene.memory.now →
        ¬ current.IsRefreshTokenExpired p.scene.memory.now →
          ∀ flight ∈ p.scene.memory.inFlight, ∀ happening ∈ logOf flight p.scene.history,
            ∀ tokens ∈ broughtBy happening, send.Suits replaying tokens)

/-- A response that arrives for a refresh suits the send, if its attempt waits for that refresh. -/
def ReceivesSuitable (p : ClientProcess) (flight : ℕ) (send : Send) : Prop :=
  match send.phase with
  | .resolving call replaying =>
    call = flight ∨ returnedBy p call = some (.joined flight) →
      ∀ payload ∈ arrivingIn (logOf flight p.scene.history),
        ∀ tokens ∈ (payload.decode (p.scene.memory.session.tokens.map (·.sessionId))).toOption,
          send.Suits replaying tokens
  | _ => True

/-- The session that a replay finds suits the send, if the refresh that it awaited has succeeded. -/
def ReplaysSuitably (p : ClientProcess) (send : Send) : Prop :=
  match send.phase with
  | .refreshing call rejected =>
    send.request.isReplayable = true → (grantedBy p call).isSome →
      FindsSuitable p send (some rejected)
  | _ => True

/-- Whenever a retry or a replay reads the credential that is held, and whenever the response arrives
of a refresh that it waits for, the session is still the one of the send, and after a rejection the
access token is another one. -/
def SameSession (t : Transport) : TransportEvent → Prop
  | .client (.resume flight) => ∀ send ∈ t.sends, ReceivesSuitable t.client flight send
  | .goOn index => ∀ send ∈ t.sends[index]?, ReplaysSuitably t.client send
  | .retry index isCancelled => ∀ send ∈ t.sends[index]?,
    isCancelled = false → FindsSuitable t.client send none
  | .client _ | .send _ _ | .answer _ _ => True

section Decidable

variable (p : ClientProcess) (send : Send) (replaying : Option SessionTokens)

instance (tokens : SessionTokens) : Decidable (send.Suits replaying tokens) :=
  inferInstanceAs (Decidable (_ ∧ _))

instance : Decidable (FindsSuitable p send replaying) :=
  inferInstanceAs (Decidable (_ → ∀ current ∈ p.scene.memory.session.tokens, _ ∧ _))

instance (flight : ℕ) : DecidablePred (ReceivesSuitable p flight)
  | ⟨_, _, .resolving call _, _⟩ =>
    inferInstanceAs (Decidable (call = flight ∨ _ → ∀ payload ∈ _, ∀ tokens ∈ _, _))
  | ⟨_, _, .requesting _ _, _⟩ | ⟨_, _, .refreshing _ _, _⟩ | ⟨_, _, .backingOff, _⟩
  | ⟨_, _, .returned _, _⟩ => isTrue trivial

instance : DecidablePred (ReplaysSuitably p)
  | ⟨_, _, .refreshing call _, _⟩ =>
    inferInstanceAs (Decidable (_ = true → (grantedBy p call).isSome → _))
  | ⟨_, _, .resolving _ _, _⟩ | ⟨_, _, .requesting _ _, _⟩ | ⟨_, _, .backingOff, _⟩
  | ⟨_, _, .returned _, _⟩ => isTrue trivial

instance (t : Transport) : DecidablePred (SameSession t)
  | .client (.resume _) => inferInstanceAs (Decidable (∀ send ∈ t.sends, _))
  | .goOn index => inferInstanceAs (Decidable (∀ send ∈ t.sends[index]?, _))
  | .retry index _ => inferInstanceAs (Decidable (∀ send ∈ t.sends[index]?, _ → _))
  | .client (.start _) | .client (.answer _ _) | .client (.tick _) | .send _ _ | .answer _ _ =>
    isTrue trivial

end Decidable

end Karar.MobileClient
