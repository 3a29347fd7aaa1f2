import Karar.Foundation.SoleRun
import Karar.MobileClient.Transport

/-!
# One send of the transport, from its first call to its last

`DioApiTransport.send` as the program of one request: the calls that it awaits, in their order, with
every answer that they can have. The session, the refresh coordinator, the network and the server are
behind these calls. An `ApiException` is a failure that `_attempt` returns and the loop of `send`
looks at; anything else that is thrown ends the send.
-/

namespace Karar.MobileClient.DioApiTransport

open Foundation

/-! ### Requests -/

/-- An `ApiRequest`, with all that the network receives of it. -/
structure ApiRequest extends MobileClient.ApiRequest where
  path : String
  query : List (String × Option String)
  body : Option String
  headers : List (String × String)
  correlationId : Option String
deriving DecidableEq

/-- A header that is set: in the place of the one of that name, or at the end. -/
def setHeader (name value : String) : List (String × String) → List (String × String)
  | [] => [(name, value)]
  | (other, old) :: rest =>
    if other = name then (name, value) :: rest else (other, old) :: setHeader name value rest

def correlationIdHeader : String := "x-correlation-id"

def idempotencyKeyHeader : String := "idempotency-key"

/-- An HTTP request, as it is handed to the network. -/
structure HttpRequest where
  method : HttpMethod
  path : String
  queryParameters : List (String × String)
  data : Option String
  headers : List (String × String)
  contentType : Option String
deriving DecidableEq

/-- The idempotency key that the server reads. -/
def HttpRequest.idempotencyKey (request : HttpRequest) : Option String :=
  request.headers.lookup idempotencyKeyHeader

/-- The HTTP request of an attempt. -/
def httpRequest (request : ApiRequest) (correlationId : String) (credential : Option SessionTokens) :
    HttpRequest where
  method := request.method
  path := request.path
  queryParameters := request.query.filterMap fun (name, value) ↦ value.map (name, ·)
  data := request.body
  headers :=
    let headers := setHeader correlationIdHeader correlationId request.headers
    let headers := match request.idempotencyKey with
      | none => headers
      | some key => setHeader idempotencyKeyHeader key headers
    match credential with
    | none => headers
    | some tokens => setHeader "authorization" s!"Bearer {tokens.accessToken}" headers
  contentType := request.body.map fun _ ↦ "application/json"

/-! ### Calls -/

/-- What a send calls. -/
inductive SendCall
  /-- `request.cancellation?.isCancelled`. -/
  | isCancelled
  /-- `_correlationIds.next()`. -/
  | nextCorrelationId
  /-- `sessions.tokens`. -/
  | sessionTokens
  | ensureUsable (observed : SessionTokens)
  | refreshAfterRejection (rejected : SessionTokens)
  | request (request : HttpRequest)
  /-- The delay before an attempt. -/
  | delay (attempt : ℕ)
deriving DecidableEq

/-- What a call that does not throw is answered with. -/
def SendCall.Value : SendCall → Type
  | isCancelled => Bool
  | nextCorrelationId => String
  | sessionTokens => Option SessionTokens
  | ensureUsable _ => Result SessionTokens
  | refreshAfterRejection _ => Result SessionTokens
  | request _ => HttpResult
  | delay _ => Unit

abbrev Answer (call : SendCall) : Type := Except String call.Value

/-- What a send has called and how it was answered, latest first. -/
abbrev Log := List (Performed SendCall Answer)

/-- A part of a send. An `ApiException` that it throws is the failure of its result. -/
abbrev Calling := Throwing SendCall SendCall.Value

abbrev isCancelled : Calling Bool := ask SendCall.isCancelled

abbrev nextCorrelationId : Calling String := ask SendCall.nextCorrelationId

abbrev sessionTokens : Calling (Option SessionTokens) := ask SendCall.sessionTokens

abbrev ensureUsable (observed : SessionTokens) : Calling (Result SessionTokens) :=
  ask (SendCall.ensureUsable observed)

abbrev refreshAfterRejection (rejected : SessionTokens) : Calling (Result SessionTokens) :=
  ask (SendCall.refreshAfterRejection rejected)

/-- `_dio.request`. -/
abbrev issue (request : HttpRequest) : Calling HttpResult := ask (SendCall.request request)

abbrev delay (attempt : ℕ) : Calling Unit := ask (SendCall.delay attempt)

/-- The collaborators of a transport. The raw transport, with which a refresh is issued, has neither. -/
structure Collaborators where
  sessionManager : Bool
  refreshCoordinator : Bool
deriving DecidableEq

section Send

variable (collaborators : Collaborators) (policy : RetryPolicy) (request : ApiRequest)

/-- `_resolveCredential`. -/
def resolveCredential : Calling (Result SessionTokens) := do
  if collaborators.sessionManager = false then return .error .authenticationRequired
  else
    match ← sessionTokens with
    | none => return .error .authenticationRequired
    | some current =>
      if collaborators.refreshCoordinator = false then return .ok current
      else ensureUsable current

/-- The credential of an attempt, where the request needs one. -/
def credentialOf : Calling (Result (Option SessionTokens)) := do
  if request.requiresAuthentication then
    return (← resolveCredential collaborators).map some
  else return .ok none

/-- The correlation id of an attempt. -/
def correlationIdOf : Calling String :=
  match request.correlationId with
  | some correlationId => return correlationId
  | none => nextCorrelationId

/-- `_attempt`, with what is done about a rejected credential: `rejection` replays the request, or
returns null where the original 401 is the answer. -/
def attemptWith (rejection : Option SessionTokens → Calling (Result (Option ℕ))) : Calling (Result ℕ) := do
  let correlationId ← correlationIdOf request
  match ← credentialOf collaborators request with
  | .error failure => return .error failure
  | .ok credential =>
    match ← issue (httpRequest request correlationId credential) with
    | .failed failure => return .error failure
    | .response status isDecodable failure =>
      if 200 ≤ status ∧ status < 300 then
        if isDecodable then return .ok status
        else return .error (.contractViolation "response_body")
      else if status = 401 ∧ request.requiresAuthentication = true then
        match ← rejection credential with
        | .error refused => return .error refused
        | .ok none => return .error failure
        | .ok (some replayed) => return .ok replayed
      else return .error failure

/-- `_attempt` without a reactive refresh. -/
def replay : Calling (Result ℕ) := attemptWith collaborators request fun _ ↦ return .ok none

/-- `_refreshAndReplay`. -/
def refreshAndReplay (rejected : Option SessionTokens) : Calling (Result (Option ℕ)) := do
  match rejected with
  | none => return .ok none
  | some rejected =>
    if collaborators.refreshCoordinator = false then return .ok none
    else
      match ← refreshAfterRejection rejected with
      | .error failure => return .error failure
      | .ok _ =>
        if request.isReplayable = false then return .error .unsafeRequestNotReplayed
        else return (← replay collaborators request).map some

/-- `_attempt`. -/
def attempt : Calling (Result ℕ) := attemptWith collaborators request (refreshAndReplay collaborators request)

/-- The loop of `send`, from an attempt on. -/
def sendFrom (number : ℕ) : Calling (Result ℕ) := do
  if (← isCancelled) = true then return .error .requestCancelled
  else
    match ← attempt collaborators request with
    | .ok status => return .ok status
    | .error failure =>
      if _hretry : number < policy.maxAttempts ∧ request.isReplayable = true ∧
          RetryPolicy.isRetryableFailure failure = true then
        delay (number + 1)
        sendFrom (number + 1)
      else return .error failure
termination_by policy.maxAttempts - number

/-- `send`. -/
def send : Calling (Result ℕ) := sendFrom collaborators policy request 1

end Send

end Karar.MobileClient.DioApiTransport
