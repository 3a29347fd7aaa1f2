import Karar.MobileClient.SendProgram

/-!
# What one send may repeat

The promises of `DioApiTransport.send` about the HTTP requests of one send, whatever the network, the
server and the refreshes answer (`send_conduct`): there are at most two of them for each attempt that
the retry policy allows, one where the request is not safe to repeat, and they differ in nothing that
the server acts on. Each but the first follows a failure that may be retried, or a 401 and a refresh
that succeeded (`Repeatable`).

The proof carries through the program what is known of its log: how many requests the current attempt
has issued, and why a further one may be issued (`Ready`).
-/

namespace Karar.MobileClient.DioApiTransport

open Foundation

/-! ### What a log says -/

/-- The HTTP requests that were issued, latest first. -/
def requestsOf (log : Log) : List HttpRequest :=
  log.filterMap fun performed ↦
    match performed.1 with
    | .request request => some request
    | _ => none

def isDelay (performed : Performed SendCall Answer) : Bool :=
  match performed.1 with
  | .delay _ => true
  | _ => false

/-- The calls before the HTTP request of an attempt. -/
def isPreparation (performed : Performed SendCall Answer) : Bool :=
  match performed.1 with
  | .isCancelled | .nextCorrelationId | .sessionTokens | .ensureUsable _ => true
  | _ => false

/-- What the current attempt has called. -/
def sinceDelay (log : Log) : Log := log.takeWhile fun performed ↦ !isDelay performed

/-- The failure that a call came to. -/
def failureOf : Performed SendCall Answer → Option Failure
  | ⟨.request _, .ok (.failed failure)⟩ => some failure
  | ⟨.request _, .ok (.response status isDecodable failure)⟩ =>
    if 200 ≤ status ∧ status < 300 then
      if isDecodable then none else some (.contractViolation "response_body")
    else some failure
  | ⟨.ensureUsable _, .ok (.error failure)⟩ => some failure
  | ⟨.refreshAfterRejection _, .ok (.error failure)⟩ => some failure
  | _ => none

/-- The last thing that happened is a refresh that succeeded, after a 401. -/
def refreshedAfter401 : Log → Bool
  | ⟨.refreshAfterRejection _, .ok (.ok _)⟩ :: ⟨.request _, .ok (.response 401 _ _)⟩ :: _ => true
  | _ => false

/-- The last thing that happened is the delay after a failure that may be retried. -/
def delayedAfterFailure : Log → Bool
  | ⟨.delay _, _⟩ :: ended :: _ => (failureOf ended).any RetryPolicy.isRetryableFailure
  | _ => false

/-- A request may be issued once more. -/
def Repeatable (log : Log) : Prop :=
  refreshedAfter401 (log.dropWhile isPreparation) = true ∨
    delayedAfterFailure (log.dropWhile isPreparation) = true

/-- The requests of a log that replay one whose credential was rejected. -/
def replays : Log → ℕ
  | [] => 0
  | performed :: earlier =>
    (if (requestsOf [performed]).length = 1 ∧
        refreshedAfter401 (earlier.dropWhile isPreparation) = true then 1 else 0) + replays earlier

/-- What one send may do. -/
structure Conduct (policy : RetryPolicy) (request : ApiRequest) (log : Log) : Prop where
  bounded : (requestsOf log).length ≤ 2 * policy.maxAttempts
  unsafeOnce : request.isReplayable = false → (requestsOf log).length ≤ 1
  same : ∀ first ∈ requestsOf log, ∀ second ∈ requestsOf log,
    first.method = second.method ∧ first.path = second.path ∧
      first.queryParameters = second.queryParameters ∧ first.data = second.data ∧
      first.idempotencyKey = second.idempotencyKey
  repeated : ∀ later http answer earlier, log = later ++ ⟨.request http, answer⟩ :: earlier →
    requestsOf earlier ≠ [] → Repeatable earlier
  replayedOnce : ∀ later earlier, log = later ++ earlier → replays (sinceDelay earlier) ≤ 1

/-! ### The requests of one send -/

theorem lookup_setHeader {name other value : String} (hne : name ≠ other)
    (headers : List (String × String)) :
    (setHeader other value headers).lookup name = headers.lookup name := by
  have hother : (name == other) = false := beq_false_of_ne hne
  induction headers with
  | nil => simp [setHeader, hother]
  | cons header rest ih =>
    obtain ⟨present, old⟩ := header
    rw [setHeader]
    split_ifs with hsame
    · rw [List.lookup_cons, List.lookup_cons, hsame, hother]
    · rw [List.lookup_cons, List.lookup_cons, ih]

theorem lookup_setHeader_self (name value : String) (headers : List (String × String)) :
    (setHeader name value headers).lookup name = some value := by
  induction headers with
  | nil => simp [setHeader]
  | cons header rest ih =>
    obtain ⟨present, old⟩ := header
    rw [setHeader]
    split_ifs with hsame
    · simp
    · have hpresent : (name == present) = false := beq_false_of_ne (Ne.symm hsame)
      rw [List.lookup_cons, hpresent, ih]

/-- The key of the request, or one that its own headers carry. -/
theorem idempotencyKey_httpRequest (request : ApiRequest) (correlationId : String)
    (credential : Option SessionTokens) :
    (httpRequest request correlationId credential).idempotencyKey =
      request.idempotencyKey.or (request.headers.lookup idempotencyKeyHeader) := by
  have hcorrelation : idempotencyKeyHeader ≠ correlationIdHeader := by decide
  have hauthorization : idempotencyKeyHeader ≠ "authorization" := by decide
  rw [HttpRequest.idempotencyKey, httpRequest, ← lookup_setHeader hcorrelation request.headers]
  cases request.idempotencyKey with
  | none =>
    cases credential with
    | none => rfl
    | some tokens => exact lookup_setHeader hauthorization _
  | some key =>
    cases credential with
    | none => exact lookup_setHeader_self _ _ _
    | some tokens => exact (lookup_setHeader hauthorization _).trans (lookup_setHeader_self _ _ _)

/-- What every HTTP request of a send has of its request. -/
structure Carries (request : ApiRequest) (http : HttpRequest) : Prop where
  method : http.method = request.method
  path : http.path = request.path
  queryParameters : http.queryParameters =
    request.query.filterMap fun (name, value) ↦ value.map (name, ·)
  data : http.data = request.body
  idempotencyKey : http.idempotencyKey =
    request.idempotencyKey.or (request.headers.lookup idempotencyKeyHeader)

theorem carries_httpRequest (request : ApiRequest) (correlationId : String)
    (credential : Option SessionTokens) :
    Carries request (httpRequest request correlationId credential) :=
  ⟨rfl, rfl, rfl, rfl, idempotencyKey_httpRequest request correlationId credential⟩

/-! ### What each call needs -/

/-- What a send knows when it makes a call. -/
def Allowed (policy : RetryPolicy) (request : ApiRequest) (log : Log) : SendCall → Prop
  | .request http => Carries request http ∧
      (requestsOf log ≠ [] → request.isReplayable = true ∧ Repeatable log) ∧
      (requestsOf (sinceDelay log)).length ≤ 1
  | .delay _ => log.countP isDelay + 1 < policy.maxAttempts
  | _ => True

section Counts

variable {log : Log} {performed : Performed SendCall Answer}

theorem requestsOf_cons_of_not (hplain : requestsOf [performed] = []) :
    requestsOf (performed :: log) = requestsOf log := by
  rw [← List.singleton_append, requestsOf, List.filterMap_append]
  exact congrArg (· ++ requestsOf log) hplain

theorem requestsOf_request (http : HttpRequest) (answer : Answer (.request http)) (log : Log) :
    requestsOf (⟨.request http, answer⟩ :: log) = http :: requestsOf log :=
  rfl

theorem sinceDelay_cons (hdelay : isDelay performed = false) :
    sinceDelay (performed :: log) = performed :: sinceDelay log := by
  rw [sinceDelay, List.takeWhile_cons_of_pos (by simp [hdelay]), sinceDelay]

theorem sinceDelay_delay (hdelay : isDelay performed = true) : sinceDelay (performed :: log) = [] := by
  rw [sinceDelay, List.takeWhile_cons_of_neg (by simp [hdelay])]

theorem isPreparation_spec (hpreparation : isPreparation performed = true) :
    isDelay performed = false ∧ requestsOf [performed] = [] := by
  obtain ⟨call, answer⟩ := performed
  cases call with
  | request http => simp [isPreparation] at hpreparation
  | refreshAfterRejection rejected => simp [isPreparation] at hpreparation
  | delay number => simp [isPreparation] at hpreparation
  | isCancelled => exact ⟨rfl, rfl⟩
  | nextCorrelationId => exact ⟨rfl, rfl⟩
  | sessionTokens => exact ⟨rfl, rfl⟩
  | ensureUsable observed => exact ⟨rfl, rfl⟩

end Counts

/-! ### The current attempt -/

/-- The current attempt has issued so many requests and may issue another. -/
structure Ready (request : ApiRequest) (issued : ℕ) (log : Log) : Prop where
  issued : (requestsOf (sinceDelay log)).length = issued
  repeatable : requestsOf log ≠ [] → request.isReplayable = true ∧ Repeatable log

variable {collaborators : Collaborators} {policy : RetryPolicy} {request : ApiRequest}

/-- A call that prepares the request changes nothing of it. -/
theorem Ready.prepared {issued : ℕ} {log : Log} (hready : Ready request issued log)
    {performed : Performed SendCall Answer} (hpreparation : isPreparation performed = true) :
    Ready request issued (performed :: log) := by
  obtain ⟨hdelay, hplain⟩ := isPreparation_spec hpreparation
  constructor
  · rw [sinceDelay_cons hdelay, requestsOf_cons_of_not hplain]
    exact hready.issued
  · rw [requestsOf_cons_of_not hplain, Repeatable, List.dropWhile_cons_of_pos hpreparation]
    exact hready.repeatable

/-- Only preparations were called, in the same attempt. -/
structure Prepared (request : ApiRequest) (issued delays : ℕ) (log : Log) : Prop where
  ready : Ready request issued log
  delays : log.countP isDelay = delays

theorem Prepared.called {issued delays : ℕ} {log : Log} (hprepared : Prepared request issued delays log)
    {performed : Performed SendCall Answer} (hpreparation : isPreparation performed = true) :
    Prepared request issued delays (performed :: log) := by
  refine ⟨hprepared.ready.prepared hpreparation, ?_⟩
  rw [List.countP_cons_of_neg (by simp [(isPreparation_spec hpreparation).1])]
  exact hprepared.delays

/-- How an attempt ends: in the same attempt, and a failure that may be retried is the one that its
last call came to. -/
structure Ended {Value : Type} (delays : ℕ) (log : Log) (result : Except String (Result Value)) :
    Prop where
  delays : log.countP isDelay = delays
  failure : ∀ failure, result = .ok (.error failure) → RetryPolicy.isRetryableFailure failure = true →
    ∃ last ∈ log.head?, failureOf last = some failure

theorem ended_of_plain {Value : Type} {delays : ℕ} {log : Log} {result : Except String (Result Value)}
    (hdelays : log.countP isDelay = delays)
    (hplain : ∀ failure, result = .ok (.error failure) →
      RetryPolicy.isRetryableFailure failure = false) : Ended delays log result := by
  refine ⟨hdelays, ?_⟩
  intro failure hresult hretryable
  simp [hplain failure hresult] at hretryable

theorem ended_of_call {Value : Type} {delays : ℕ} {log : Log} {performed : Performed SendCall Answer}
    {failure : Failure} (hdelays : (performed :: log).countP isDelay = delays)
    (hfailure : failureOf performed = some failure) :
    Ended delays (performed :: log) (.ok (.error failure) : Except String (Result Value)) := by
  refine ⟨hdelays, ?_⟩
  intro other hother _
  obtain rfl := Except.error.inj (Except.ok.inj hother)
  exact ⟨performed, rfl, hfailure⟩

/-- What the preparation of an attempt leaves behind. -/
structure Resolved {Value : Type} (request : ApiRequest) (issued delays : ℕ) (log : Log)
    (result : Except String (Result Value)) : Prop where
  prepared : ∀ value, result = .ok (.ok value) → Prepared request issued delays log
  ended : Ended delays log result

theorem Prepared.resolved {Value : Type} {issued delays : ℕ} {log : Log}
    (hprepared : Prepared request issued delays log) {result : Except String (Result Value)}
    (hplain : ∀ failure, result = .ok (.error failure) →
      RetryPolicy.isRetryableFailure failure = false) : Resolved request issued delays log result :=
  ⟨fun _ _ ↦ hprepared, ended_of_plain hprepared.delays hplain⟩

theorem safe_resolveCredential {issued delays : ℕ} {log : Log}
    (hprepared : Prepared request issued delays log) :
    Safe anyAnswer (fun _ ↦ True) (Allowed policy request) (Resolved request issued delays) log
      (resolveCredential collaborators).run := by
  unfold resolveCredential
  refine safe_ite (fun _ ↦ ?_) fun _ ↦ ?_
  · exact safe_return (hprepared.resolved (by simp [RetryPolicy.isRetryableFailure]))
  · refine safe_ask_then trivial ?_ ?_
    · intro message
      exact (hprepared.called rfl).resolved (by simp)
    · rintro - - - tokens -
      have hread : Prepared request issued delays (⟨.sessionTokens, .ok tokens⟩ :: log) :=
        hprepared.called rfl
      cases tokens with
      | none => exact safe_return (hread.resolved (by simp [RetryPolicy.isRetryableFailure]))
      | some current =>
        refine safe_ite (fun _ ↦ ?_) fun _ ↦ ?_
        · exact safe_return (hread.resolved (by simp))
        · refine safe_ask trivial ?_
          rintro - - - answer -
          have hused : Prepared request issued delays (⟨.ensureUsable current, answer⟩ :: _) :=
            hread.called rfl
          cases answer with
          | error message => exact hused.resolved (by simp)
          | ok resolved =>
            cases resolved with
            | ok credential => exact hused.resolved nofun
            | error failure => exact ⟨fun _ _ ↦ hused, ended_of_call hused.delays rfl⟩

theorem safe_credentialOf {issued delays : ℕ} {log : Log}
    (hprepared : Prepared request issued delays log) :
    Safe anyAnswer (fun _ ↦ True) (Allowed policy request) (Resolved request issued delays) log
      (credentialOf collaborators request).run := by
  unfold credentialOf
  refine safe_ite (fun _ ↦ ?_) fun _ ↦ ?_
  · refine safe_throwing_bind (safe_resolveCredential hprepared) ?_ ?_
    · intro later message hresolved
      exact ⟨by simp, ended_of_plain hresolved.ended.delays (by simp)⟩
    · intro later resolved hresolved
      refine safe_return ?_
      cases resolved with
      | ok credential => exact ⟨fun _ _ ↦ hresolved.prepared credential rfl,
          ended_of_plain hresolved.ended.delays (by simp [Except.map])⟩
      | error failure =>
        refine ⟨by simp [Except.map], hresolved.ended.delays, ?_⟩
        intro other hother
        exact hresolved.ended.failure other (by simpa [Except.map] using hother)
  · exact safe_return (hprepared.resolved (by simp))

theorem safe_correlationIdOf {issued delays : ℕ} {log : Log}
    (hprepared : Prepared request issued delays log) :
    Safe anyAnswer (fun _ ↦ True) (Allowed policy request)
      (fun later _ ↦ Prepared request issued delays later) log (correlationIdOf request).run := by
  unfold correlationIdOf
  split
  · exact safe_return hprepared
  · refine safe_ask trivial ?_
    rintro - - - answer -
    exact hprepared.called rfl

/-- The log when a 401 is handled: the attempt has issued one request more, and has ended with the
failure of the 401 if nothing is done about it. -/
structure Rejected (issued delays : ℕ) (failure : Failure) (log : Log) : Prop where
  issued : (requestsOf (sinceDelay log)).length = issued + 1
  delays : log.countP isDelay = delays
  last : ∃ http isDecodable earlier,
    log = ⟨.request http, .ok (.response 401 isDecodable failure)⟩ :: earlier

/-- How the handling of a 401 ends: as an attempt does, or with nothing called. -/
structure Handled {Value : Type} (delays : ℕ) (before log : Log)
    (result : Except String (Result (Option Value))) : Prop where
  ended : Ended delays log result
  unchanged : result = .ok (.ok none) → log = before

theorem safe_attemptWith {issued delays : ℕ} {log : Log} (hone : issued ≤ 1)
    (hprepared : Prepared request issued delays log)
    {rejection : Option SessionTokens → Calling (Result (Option ℕ))}
    (hrejection : ∀ credential failure before, Rejected issued delays failure before →
      Safe anyAnswer (fun _ ↦ True) (Allowed policy request) (Handled delays before) before
        (rejection credential).run) :
    Safe anyAnswer (fun _ ↦ True) (Allowed policy request) (Ended delays) log
      (attemptWith collaborators request rejection).run := by
  unfold attemptWith
  refine safe_throwing_bind (safe_correlationIdOf hprepared) ?_ ?_
  · intro later message hlater
    exact ended_of_plain hlater.delays (by simp)
  intro identified correlationId hidentified
  refine safe_throwing_bind (safe_credentialOf hidentified) ?_ ?_
  · intro later message hlater
    exact ended_of_plain hlater.ended.delays (by simp)
  intro resolved credential hresolved
  cases credential with
  | error failure =>
    refine safe_return ⟨hresolved.ended.delays, ?_⟩
    intro other hother
    exact hresolved.ended.failure other (by rw [Except.error.inj (Except.ok.inj hother)])
  | ok credential =>
    have hready := hresolved.prepared credential rfl
    have hdelays (answer : Answer (.request (httpRequest request correlationId credential))) :
        List.countP isDelay (⟨.request (httpRequest request correlationId credential), answer⟩ :: resolved)
          = delays := by
      rw [List.countP_cons_of_neg (by simp [isDelay])]
      exact hready.delays
    refine safe_ask_then ⟨carries_httpRequest _ _ _, hready.ready.repeatable, ?_⟩ ?_ ?_
    · rw [hready.ready.issued]
      exact hone
    · intro message
      exact ended_of_plain (hdelays _) (by simp)
    · rintro - - - result -
      cases result with
      | failed failure => exact safe_return (ended_of_call (hdelays _) rfl)
      | response status isDecodable failure =>
        refine safe_ite (fun hsuccess ↦ ?_) fun hsuccess ↦ ?_
        · refine safe_ite (fun hdecodable ↦ ?_) fun hdecodable ↦ ?_
          · exact safe_return (ended_of_plain (hdelays _) (by simp))
          · refine safe_return (ended_of_call (hdelays _) ?_)
            simp [failureOf, hsuccess, hdecodable]
        · have hfailure : failureOf ⟨.request (httpRequest request correlationId credential),
              .ok (.response status isDecodable failure)⟩ = some failure := by
            simp [failureOf, hsuccess]
          refine safe_ite (fun hrejected ↦ ?_) fun _ ↦ ?_
          · obtain ⟨rfl, -⟩ := hrejected
            refine safe_throwing_bind (hrejection credential failure _
              ⟨?_, hdelays _, _, _, _, rfl⟩) ?_ ?_
            · rw [sinceDelay_cons rfl, requestsOf_request, List.length_cons, hready.ready.issued]
            · intro later message hhandled
              exact ended_of_plain hhandled.ended.delays (by simp)
            · intro later handled hhandled
              match handled with
              | .error refused =>
                refine safe_return ⟨hhandled.ended.delays, ?_⟩
                intro other hother
                exact hhandled.ended.failure other (by rw [Except.error.inj (Except.ok.inj hother)])
              | .ok none =>
                rw [hhandled.unchanged rfl]
                exact safe_return (ended_of_call (hdelays _) hfailure)
              | .ok (some replayed) =>
                exact safe_return (ended_of_plain hhandled.ended.delays (by simp))
          · exact safe_return (ended_of_call (hdelays _) hfailure)

theorem safe_replay {delays : ℕ} {log : Log} (hprepared : Prepared request 1 delays log) :
    Safe anyAnswer (fun _ ↦ True) (Allowed policy request) (Ended delays) log
      (replay collaborators request).run := by
  refine safe_attemptWith (Nat.le_refl 1) hprepared ?_
  intro credential failure before hrejected
  exact safe_return ⟨ended_of_plain hrejected.delays (by simp), fun _ ↦ rfl⟩

theorem safe_refreshAndReplay {delays : ℕ} {before : Log} {failure : Failure}
    (hrejected : Rejected 0 delays failure before) (rejected : Option SessionTokens) :
    Safe anyAnswer (fun _ ↦ True) (Allowed policy request) (Handled delays before) before
      (refreshAndReplay collaborators request rejected).run := by
  have hnothing : Handled delays before before (.ok (.ok none) : Except String (Result (Option ℕ))) :=
    ⟨ended_of_plain hrejected.delays (by simp), fun _ ↦ rfl⟩
  unfold refreshAndReplay
  cases rejected with
  | none => exact safe_return hnothing
  | some rejected =>
    refine safe_ite (fun _ ↦ safe_return hnothing) fun _ ↦ ?_
    have hdelays (answer : Answer (.refreshAfterRejection rejected)) :
        List.countP isDelay (⟨.refreshAfterRejection rejected, answer⟩ :: before) = delays := by
      rw [List.countP_cons_of_neg (by simp [isDelay])]
      exact hrejected.delays
    refine safe_ask_then trivial ?_ ?_
    · intro message
      exact ⟨ended_of_plain (hdelays _) (by simp), by simp⟩
    · rintro - - - refreshed -
      cases refreshed with
      | error refused => exact safe_return ⟨ended_of_call (hdelays _) rfl, by simp⟩
      | ok tokens =>
        refine safe_ite (fun _ ↦ ?_) fun hreplayable ↦ ?_
        · exact safe_return ⟨ended_of_plain (hdelays _) (by simp [RetryPolicy.isRetryableFailure]),
            by simp⟩
        · have hprepared : Prepared request 1 delays
              (⟨.refreshAfterRejection rejected, .ok (.ok tokens)⟩ :: before) := by
            refine ⟨⟨?_, fun _ ↦ ⟨by simpa using hreplayable, .inl ?_⟩⟩, hdelays _⟩
            · rw [sinceDelay_cons rfl, requestsOf_cons_of_not rfl]
              exact hrejected.issued
            · obtain ⟨http, isDecodable, earlier, rfl⟩ := hrejected.last
              rfl
          refine safe_throwing_bind (safe_replay hprepared) ?_ ?_
          · intro later message hended
            exact ⟨ended_of_plain hended.delays (by simp), by simp⟩
          · intro later replayed hended
            refine safe_return ⟨⟨hended.delays, ?_⟩, ?_⟩
            · intro other hother
              cases replayed with
              | ok status => exact absurd hother (by simp [Except.map])
              | error refused =>
                exact hended.failure other (by simpa [Except.map] using hother)
            · intro hnone
              cases replayed with
              | ok status => exact absurd hnone (by simp [Except.map])
              | error refused => exact absurd hnone (by simp [Except.map])

theorem safe_attempt {delays : ℕ} {log : Log} (hprepared : Prepared request 0 delays log) :
    Safe anyAnswer (fun _ ↦ True) (Allowed policy request) (Ended delays) log
      (attempt collaborators request).run := by
  refine safe_attemptWith (by omega) hprepared ?_
  intro credential failure before hrejected
  exact safe_refreshAndReplay hrejected credential

/-- The loop, by induction on the attempts that are left. -/
theorem safe_sendFrom (left : ℕ) {number : ℕ} (hleft : policy.maxAttempts - number = left) {log : Log}
    {delays : ℕ} (hnumber : delays + 1 = number) (hprepared : Prepared request 0 delays log) :
    Safe anyAnswer (fun _ ↦ True) (Allowed policy request) (fun _ _ ↦ True) log
      (sendFrom collaborators policy request number).run := by
  induction left using Nat.strongRecOn generalizing number log delays with
  | _ left ih =>
    rw [sendFrom]
    refine safe_ask_then trivial (fun _ ↦ trivial) ?_
    rintro - - - (cancelled : Bool) -
    have hasked : Prepared request 0 delays (⟨.isCancelled, .ok cancelled⟩ :: log) :=
      hprepared.called rfl
    refine safe_ite (fun _ ↦ safe_return trivial) fun _ ↦ ?_
    refine safe_throwing_bind (safe_attempt hasked) (fun _ _ _ ↦ trivial) ?_
    intro later outcome hended
    cases outcome with
    | ok status => exact safe_return trivial
    | error failure =>
      refine safe_ite (fun hretry ↦ ?_) fun _ ↦ safe_return trivial
      obtain ⟨hmore, hreplayable, hretryable⟩ := hretry
      refine safe_ask_then ?_ (fun _ ↦ trivial) ?_
      · show later.countP isDelay + 1 < policy.maxAttempts
        rw [hended.delays, hnumber]
        exact hmore
      · rintro - - - waited -
        obtain ⟨last, hlast, hfailure⟩ := hended.failure failure rfl hretryable
        obtain ⟨earlier, rfl⟩ : ∃ earlier, later = last :: earlier := by
          cases later with
          | nil => simp at hlast
          | cons first earlier =>
            rw [List.head?_cons, Option.mem_some_iff] at hlast
            exact ⟨earlier, by rw [hlast]⟩
        have hdelays : List.countP isDelay (⟨.delay (number + 1), .ok waited⟩ :: last :: earlier) =
            number := by
          rw [List.countP_cons_of_pos rfl, hended.delays, hnumber]
        refine ih (policy.maxAttempts - (number + 1)) (by omega) rfl (congrArg (· + 1) hdelays)
          ⟨⟨?_, ?_⟩, rfl⟩
        · rw [sinceDelay_delay rfl]
          rfl
        · refine fun _ ↦ ⟨hreplayable, .inr ?_⟩
          rw [List.dropWhile_cons_of_neg (by simp [isPreparation])]
          simp [delayedAfterFailure, hfailure, hretryable]

/-! ### Counting the requests of a send -/

variable {log : Log}

/-- A call issues a request, is a delay, or is neither. -/
theorem call_cases (performed : Performed SendCall Answer) :
    (∃ http answer, performed = ⟨.request http, answer⟩) ∨
      (isDelay performed = true ∧ requestsOf [performed] = []) ∨
      (isDelay performed = false ∧ requestsOf [performed] = []) := by
  obtain ⟨call, answer⟩ := performed
  cases call with
  | request http => exact .inl ⟨http, answer, rfl⟩
  | delay number => exact .inr (.inl ⟨rfl, rfl⟩)
  | isCancelled => exact .inr (.inr ⟨rfl, rfl⟩)
  | nextCorrelationId => exact .inr (.inr ⟨rfl, rfl⟩)
  | sessionTokens => exact .inr (.inr ⟨rfl, rfl⟩)
  | ensureUsable observed => exact .inr (.inr ⟨rfl, rfl⟩)
  | refreshAfterRejection rejected => exact .inr (.inr ⟨rfl, rfl⟩)

/-- No attempt issues more than two requests. -/
theorem length_sinceDelay_le (hall : EachAllowed (Allowed policy request) log) :
    (requestsOf (sinceDelay log)).length ≤ 2 := by
  induction log with
  | nil => simp [sinceDelay, requestsOf]
  | cons performed earlier ih =>
    rcases call_cases performed with ⟨http, answer, rfl⟩ | ⟨hdelay, -⟩ | ⟨hdelay, hplain⟩
    · have hone : (requestsOf (sinceDelay earlier)).length ≤ 1 := hall.1.2.2
      rw [sinceDelay_cons rfl, requestsOf_request, List.length_cons]
      omega
    · rw [sinceDelay_delay hdelay]
      simp [requestsOf]
    · rw [sinceDelay_cons hdelay, requestsOf_cons_of_not hplain]
      exact ih hall.2

theorem length_requestsOf_le (hall : EachAllowed (Allowed policy request) log) :
    (requestsOf log).length ≤ 2 * log.countP isDelay + (requestsOf (sinceDelay log)).length := by
  induction log with
  | nil => simp [requestsOf]
  | cons performed earlier ih =>
    have hearlier := ih hall.2
    rcases call_cases performed with ⟨http, answer, rfl⟩ | ⟨hdelay, hplain⟩ | ⟨hdelay, hplain⟩
    · rw [sinceDelay_cons rfl, requestsOf_request, requestsOf_request, List.length_cons,
        List.length_cons, List.countP_cons_of_neg (by simp [isDelay])]
      omega
    · have htwo := length_sinceDelay_le hall.2
      rw [requestsOf_cons_of_not hplain, List.countP_cons_of_pos hdelay]
      omega
    · rw [sinceDelay_cons hdelay, requestsOf_cons_of_not hplain, requestsOf_cons_of_not hplain,
        List.countP_cons_of_neg (by simp [hdelay])]
      exact hearlier

theorem countP_isDelay_lt (hall : EachAllowed (Allowed policy request) log) :
    log.countP isDelay < policy.maxAttempts := by
  induction log with
  | nil => exact policy.atLeastOne
  | cons performed earlier ih =>
    obtain ⟨call, answer⟩ := performed
    cases call with
    | delay number =>
      rw [List.countP_cons_of_pos rfl]
      exact hall.1
    | request http => exact ih hall.2
    | isCancelled => exact ih hall.2
    | nextCorrelationId => exact ih hall.2
    | sessionTokens => exact ih hall.2
    | ensureUsable observed => exact ih hall.2
    | refreshAfterRejection rejected => exact ih hall.2

theorem requestsOf_ne_nil_of_refreshed {log : Log}
    (hrefreshed : refreshedAfter401 (log.dropWhile isPreparation) = true) : requestsOf log ≠ [] := by
  unfold refreshedAfter401 at hrefreshed
  split at hrefreshed
  · rename_i hlog
    rw [← List.takeWhile_append_dropWhile (p := isPreparation) (l := log), hlog]
    simp [requestsOf]
  · simp at hrefreshed

/-- A replay is not the first request. -/
theorem replays_le (log : Log) : replays log ≤ (requestsOf log).length - 1 := by
  induction log with
  | nil => simp [replays, requestsOf]
  | cons performed earlier ih =>
    rw [replays]
    rcases call_cases performed with ⟨http, answer, rfl⟩ | ⟨-, hplain⟩ | ⟨-, hplain⟩
    · rw [requestsOf_request, requestsOf_request, List.length_cons, List.length_cons]
      split_ifs with hreplay
      · have hpositive := List.length_pos_of_ne_nil (requestsOf_ne_nil_of_refreshed hreplay.2)
        omega
      · omega
    · have hsame : requestsOf (performed :: earlier) = requestsOf earlier := requestsOf_cons_of_not hplain
      rw [hsame, if_neg (by simp [hplain])]
      omega
    · have hsame : requestsOf (performed :: earlier) = requestsOf earlier := requestsOf_cons_of_not hplain
      rw [hsame, if_neg (by simp [hplain])]
      omega

theorem carries_of_mem (hall : EachAllowed (Allowed policy request) log) {http : HttpRequest}
    (hmem : http ∈ requestsOf log) : Carries request http := by
  induction log with
  | nil => simp [requestsOf] at hmem
  | cons performed earlier ih =>
    rcases call_cases performed with ⟨first, answer, rfl⟩ | ⟨-, hplain⟩ | ⟨-, hplain⟩
    · rw [requestsOf_request, List.mem_cons] at hmem
      rcases hmem with rfl | hmem
      · exact hall.1.1
      · exact ih hall.2 hmem
    · exact ih hall.2 (by rwa [requestsOf_cons_of_not hplain] at hmem)
    · exact ih hall.2 (by rwa [requestsOf_cons_of_not hplain] at hmem)

theorem length_requestsOf_le_one (hall : EachAllowed (Allowed policy request) log)
    (hnotReplayable : request.isReplayable = false) : (requestsOf log).length ≤ 1 := by
  induction log with
  | nil => simp [requestsOf]
  | cons performed earlier ih =>
    rcases call_cases performed with ⟨first, answer, rfl⟩ | ⟨-, hplain⟩ | ⟨-, hplain⟩
    · have hfirst : requestsOf earlier = [] := by
        by_contra hne
        exact absurd (hall.1.2.1 hne).1 (by simp [hnotReplayable])
      rw [requestsOf_request, hfirst]
      exact Nat.le_refl 1
    · rw [requestsOf_cons_of_not hplain]
      exact ih hall.2
    · rw [requestsOf_cons_of_not hplain]
      exact ih hall.2

theorem conduct_of_allowed (hall : EachAllowed (Allowed policy request) log) :
    Conduct policy request log where
  bounded := by
    have hrequests := length_requestsOf_le hall
    have hdelays := countP_isDelay_lt hall
    have htwo := length_sinceDelay_le hall
    omega
  unsafeOnce := length_requestsOf_le_one hall
  same first hfirst second hsecond := by
    have hone := carries_of_mem hall hfirst
    have htwo := carries_of_mem hall hsecond
    exact ⟨hone.method.trans htwo.method.symm, hone.path.trans htwo.path.symm,
      hone.queryParameters.trans htwo.queryParameters.symm, hone.data.trans htwo.data.symm,
      hone.idempotencyKey.trans htwo.idempotencyKey.symm⟩
  repeated later http answer earlier hlog hissued := by
    rw [hlog] at hall
    exact (hall.at.2.1 hissued).2
  replayedOnce later earlier hlog := by
    rw [hlog] at hall
    have hreplays := replays_le (sinceDelay earlier)
    have htwo := length_sinceDelay_le hall.before
    omega

/-- Whatever a send is answered, it ends, and it has kept to what it may do. -/
theorem send_conduct (collaborators : Collaborators) (policy : RetryPolicy) (request : ApiRequest)
    (oracle : Log → (call : SendCall) → Answer call) :
    Conduct policy request ((send collaborators policy request).run.transcript oracle []).1 := by
  have hstart : Prepared request 0 0 [] := ⟨⟨rfl, fun hne ↦ absurd rfl hne⟩, rfl⟩
  have hsafe : Safe anyAnswer (fun _ ↦ True) (Allowed policy request) (fun _ _ ↦ True) []
      (send collaborators policy request).run := safe_sendFrom _ rfl rfl hstart
  exact conduct_of_allowed (transcript_of_safe oracle hsafe trivial).1

end Karar.MobileClient.DioApiTransport
