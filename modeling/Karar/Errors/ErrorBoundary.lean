import Karar.Errors.Problems

/-!
# The error boundary

A thrown value passes `RequestLoggingInterceptor`, which derives a status for the span, the histogram
and the access line, and then `GlobalExceptionFilter`, which logs it and sends its document. The
filter sends the status that its document states and that it logs (`catch_consistent`). The
interceptor has a rule of its own, and the two agree on the values of `StatusDerivable` only
(`oneStatus_iff`).
-/

namespace Karar.Errors

open Foundation

structure Request where
  method : String
  url : String
  /-- `routeOptions?.url`. -/
  template : Option String

/-- The template of the route, or the path of the request. -/
def Request.route (request : Request) : String :=
  request.template.getD ((request.url.splitOn "?").headD "/")

/-! ### The filter -/

/-- `HTTP_STATUS_TO_CODE`. -/
def HTTP_STATUS_TO_CODE (status : ℤ) : Option ErrorCode :=
  if status = 400 then some .validationError
  else if status = 401 then some .authenticationRequired
  else if status = 403 then some .notAuthorized
  else if status = 404 then some .notFound
  else if status = 409 then some .conflict
  else if status = 429 then some .rateLimited
  else none

structure OperationDeniedBody where
  code : ErrorCode
  switchId : String
  message : String
  denial : code = .operationRestricted ∨ code = .dependencyUnavailable

/-- The body of a kill-switch denial. -/
def operationDeniedBodyOf (exception : HttpException) : Option OperationDeniedBody :=
  if exception.isServiceUnavailable then
    match exception.response with
    | .object body =>
      match member body "code", member body "switchId", member body "message" with
      | .string code, .string switchId, .string message =>
        if code = "OPERATION_RESTRICTED" then
          some ⟨.operationRestricted, switchId, message, .inl rfl⟩
        else if code = "DEPENDENCY_UNAVAILABLE" then
          some ⟨.dependencyUnavailable, switchId, message, .inr rfl⟩
        else none
      | _, _, _ => none
    | _ => none
  else none

/-- The document of an exception of the framework, where it has one of its own. -/
def toHttpProblem (exception : HttpException) (instance_ : String) (traceId : Option String) :
    Option ProblemDetails :=
  match operationDeniedBodyOf exception with
  | some denial =>
    some (toProblemDetails
      (.platformError
        (.new denial.code denial.message (some [("switchId", .string denial.switchId)]) none))
      instance_ traceId)
  | none =>
    if exception.status < 500 then
      let code := (HTTP_STATUS_TO_CODE exception.status).getD .validationError
      some
        { toProblemDetails (.platformError (.new code exception.message none none)) instance_
            traceId with
          status := exception.status }
    else none

def toProblem (exception : Thrown) (instance_ : String) (traceId : Option String) :
    ProblemDetails :=
  match exception with
  | .httpException http =>
    (toHttpProblem http instance_ traceId).getD (toProblemDetails exception instance_ traceId)
  | _ => toProblemDetails exception instance_ traceId

/-- A body that leaves the boundary. -/
inductive Body
  | problem (document : ProblemDetails)
  | authored (document : List (String × Value))

/-- `body.status`. -/
def Body.status : Body → Value
  | .problem document => .number document.status
  | .authored document => member document "status"

structure ProblemAnswer where
  status : ℤ
  code : String
  body : Body

/-- A `PlatformError` has no methods, so that `authoredProblemOf` finds no document on it. -/
def toAnswer (exception : Thrown) (instance_ : String) (traceId : Option String) :
    Except Unit ProblemAnswer := do
  match ← authoredProblemOf exception with
  | some authored =>
    return { status := authored.status, code := authored.code, body := .authored authored.body }
  | none =>
    let problem := toProblem exception instance_ traceId
    return { status := problem.status, code := problem.code.label, body := .problem problem }

/-- `err` of an error line: the exception, or a new error with its text. -/
inductive LoggedError
  | exception
  | described (text : String)

/-- `exception instanceof Error ? exception : new Error(String(exception))`. -/
def loggedError : Thrown → Except Unit LoggedError
  | .platformError _ => .ok .exception
  | .httpException _ => .ok .exception
  | .object thrown =>
    if thrown.isError then .ok .exception
    else
      match thrown.text with
      | some text => .ok (.described text)
      | none => .error ()
  | .primitive text => .ok (.described text)
  | .null => .ok (.described "null")
  | .undefined => .ok (.described "undefined")

/-- The line that the filter logs: an error line has an error. -/
structure ErrorLine where
  err : Option LoggedError
  method : String
  route : String
  status : ℤ
  code : String

/-- What the filter does: the line it logs and the response it writes. -/
structure Handled where
  line : ErrorLine
  status : ℤ
  body : Body

/-- Whether an answer is logged as a failure, and not as a rejection. -/
def ProblemAnswer.isFailure (answer : ProblemAnswer) : Bool :=
  answer.status ≥ 500 && answer.code ≠ "OPERATION_RESTRICTED"

/-- `err` of the line of an answer. -/
def errOf (exception : Thrown) (answer : ProblemAnswer) : Except Unit (Option LoggedError) :=
  if answer.isFailure then (loggedError exception).map some else .ok none

/-- The line and the response of an answer. -/
def handle (request : Request) (answer : ProblemAnswer) (err : Option LoggedError) : Handled where
  line :=
    { err := err
      method := request.method
      route := request.route
      status := answer.status
      code := answer.code }
  status := answer.status
  body := answer.body

/-- `GlobalExceptionFilter.catch`. -/
def catch_ (exception : Thrown) (request : Request) (traceId : Option String) :
    Except Unit Handled := do
  let answer ← toAnswer exception request.route traceId
  let err ← errOf exception answer
  return handle request answer err

/-! ### The interceptor -/

/-- The status of the span, of the histogram and of the access line. -/
structure Recorded where
  span : Value
  histogram : Value
  accessLine : Value

def finish (statusCode : Value) : Recorded where
  span := statusCode
  histogram := statusCode
  accessLine := statusCode

/-- The error handler of `RequestLoggingInterceptor.intercept`. -/
def interceptError (error : Thrown) : Except Unit Recorded := do
  match ← error.getStatus with
  | .absent => return finish (.number 500)
  | getStatus => return finish (← getStatus.call)

/-! ### One status -/

/-- The interceptor records the status that the filter sends, states in the body and logs. -/
def OneStatus (exception : Thrown) (request : Request) (traceId : Option String) : Prop :=
  ∃ recorded handled, interceptError exception = .ok recorded ∧
    catch_ exception request traceId = .ok handled ∧
    recorded.span = .number handled.status ∧ recorded.histogram = .number handled.status ∧
    recorded.accessLine = .number handled.status ∧ handled.body.status = .number handled.status ∧
    handled.line.status = handled.status

/-- The exception is a document of a module, under the status of that document. -/
def Authored (exception : Thrown) : Prop :=
  ∃ problem, authoredProblemOf exception = .ok (some problem)

/-- The exception is a kill-switch denial. -/
def Denied : Thrown → Prop
  | .httpException exception => (operationDeniedBodyOf exception).isSome
  | _ => False

/-- The value is an error, or `String` gives its text. -/
def ThrownObject.Describable (thrown : ThrownObject) : Prop :=
  thrown.isError ∨ thrown.text.isSome

/-- The values whose status the rule of the interceptor derives. -/
def StatusDerivable : Thrown → Prop
  | .platformError error => error.code = .configurationError ∨ error.code = .internalError
  | .httpException exception =>
    exception.status ≤ 500 ∨ Denied (.httpException exception) ∨ Authored (.httpException exception)
  | .object thrown =>
    (∃ problem, authoredProblemOf (.object thrown) = .ok (some problem) ∧
      (problem.status < 500 ∨ problem.code = "OPERATION_RESTRICTED" ∨ thrown.Describable)) ∨
    authoredProblemOf (.object thrown) = .ok none ∧ thrown.Describable ∧
      (thrown.getStatus = .absent ∨ thrown.getStatus = .returns (.number 500))
  | .primitive _ => True
  | .null => False
  | .undefined => False

/-- The values that no rule of the filter names. -/
def Unexpected : Thrown → Prop
  | .platformError _ => False
  | .httpException exception =>
    500 ≤ exception.status ∧ ¬ Denied (.httpException exception) ∧
      ¬ Authored (.httpException exception)
  | exception => ¬ Authored exception

/-! ### The answer -/

/-- The status of an answer is the one its body states. -/
theorem status_of_toAnswer {exception : Thrown} {instance_ : String} {traceId : Option String}
    {answer : ProblemAnswer} (h : toAnswer exception instance_ traceId = .ok answer) :
    answer.body.status = .number answer.status := by
  obtain ⟨authored, -, hanswer⟩ := bind_eq_ok h
  cases authored with
  | some authored =>
    rw [← Except.ok.inj hanswer]
    exact authored.status_stated
  | none =>
    rw [← Except.ok.inj hanswer]
    rfl

theorem toAnswer_of_authored {exception : Thrown} {problem : AuthoredProblem}
    (h : authoredProblemOf exception = .ok (some problem)) (instance_ : String)
    (traceId : Option String) :
    toAnswer exception instance_ traceId =
      .ok { status := problem.status, code := problem.code, body := .authored problem.body } := by
  rw [toAnswer, h]
  rfl

theorem toAnswer_of_not_authored {exception : Thrown} (h : authoredProblemOf exception = .ok none)
    (instance_ : String) (traceId : Option String) :
    toAnswer exception instance_ traceId =
      .ok
        { status := (toProblem exception instance_ traceId).status
          code := (toProblem exception instance_ traceId).code.label
          body := .problem (toProblem exception instance_ traceId) } := by
  rw [toAnswer, h]
  rfl

theorem exists_of_toAnswer {exception : Thrown} {instance_ : String} {traceId : Option String}
    {answer : ProblemAnswer} (h : toAnswer exception instance_ traceId = .ok answer) :
    ∃ authored, authoredProblemOf exception = .ok authored := by
  obtain ⟨authored, hauthored, -⟩ := bind_eq_ok h
  exact ⟨authored, hauthored⟩

/-- The error of a failure is logged, and no other. -/
theorem errOf_isOk_iff (exception : Thrown) (answer : ProblemAnswer) :
    (∃ err, errOf exception answer = .ok err) ↔
      (answer.isFailure → ∃ logged, loggedError exception = .ok logged) := by
  unfold errOf
  by_cases hfailure : answer.isFailure
  · rw [if_pos hfailure]
    cases loggedError exception with
    | ok logged => simp [Except.map]
    | error failure => simp [Except.map, hfailure]
  · simp [hfailure]

/-- The filter writes and logs its answer, where the error of a failure has a text. -/
theorem catch_eq_ok_iff {exception : Thrown} {request : Request} {traceId : Option String}
    {handled : Handled} :
    catch_ exception request traceId = .ok handled ↔
      ∃ answer err, toAnswer exception request.route traceId = .ok answer ∧
        errOf exception answer = .ok err ∧ handled = handle request answer err := by
  constructor
  · intro h
    obtain ⟨answer, hanswer, hrest⟩ := bind_eq_ok h
    obtain ⟨err, herr, hhandled⟩ := bind_eq_ok hrest
    exact ⟨answer, err, hanswer, herr, (Except.ok.inj hhandled).symm⟩
  · rintro ⟨answer, err, hanswer, herr, rfl⟩
    simp only [catch_, hanswer, herr, bind, Except.bind, pure, Except.pure]

/-- The filter sends the status that it logs and that its body states. -/
theorem catch_consistent {exception : Thrown} {request : Request} {traceId : Option String}
    {handled : Handled} (h : catch_ exception request traceId = .ok handled) :
    handled.body.status = .number handled.status ∧ handled.line.status = handled.status := by
  obtain ⟨answer, err, hanswer, -, rfl⟩ := catch_eq_ok_iff.mp h
  exact ⟨status_of_toAnswer hanswer, rfl⟩

/-- The two agree where the interceptor derives the status of the response. -/
theorem oneStatus_iff_derived (exception : Thrown) (request : Request) (traceId : Option String) :
    OneStatus exception request traceId ↔
      ∃ answer, toAnswer exception request.route traceId = .ok answer ∧
        (answer.isFailure → ∃ err, loggedError exception = .ok err) ∧
        interceptError exception = .ok (finish (.number answer.status)) := by
  constructor
  · rintro ⟨recorded, handled, hrecorded, hcatch, hspan, hhistogram, haccess, -, -⟩
    obtain ⟨answer, err, hanswer, herr, rfl⟩ := catch_eq_ok_iff.mp hcatch
    refine ⟨answer, hanswer, (errOf_isOk_iff exception answer).mp ⟨err, herr⟩, ?_⟩
    have hrecordedEq : recorded = finish (.number answer.status) := by
      cases recorded
      simp_all [handle, finish]
    rw [hrecorded, hrecordedEq]
  · rintro ⟨answer, hanswer, hlogged, hrecorded⟩
    obtain ⟨err, herr⟩ := (errOf_isOk_iff exception answer).mpr hlogged
    exact ⟨_, handle request answer err, hrecorded, catch_eq_ok_iff.mpr ⟨answer, err, hanswer, herr, rfl⟩,
      rfl, rfl, rfl, status_of_toAnswer hanswer, rfl⟩

/-! ### The status of each kind -/

/-- The interceptor derives the status of a document of a module. -/
theorem interceptError_of_authored {exception : Thrown} {problem : AuthoredProblem}
    (h : authoredProblemOf exception = .ok (some problem)) :
    interceptError exception = .ok (finish (.number problem.status)) := by
  rw [interceptError, getStatus_of_authored h]
  rfl

/-- A denial is sent under the status of its exception. -/
theorem status_of_denial {exception : HttpException} {denial : OperationDeniedBody}
    (h : operationDeniedBodyOf exception = some denial) :
    exception.status = 503 ∧ denial.code.status = 503 := by
  constructor
  · unfold operationDeniedBodyOf at h
    split at h
    next hunavailable => exact exception.status_of_unavailable hunavailable
    · exact absurd h (by simp)
  · rcases denial.denial with hcode | hcode <;> rw [hcode] <;> rfl

/-- The document of an exception of the framework keeps its status up to 500, and in a denial. -/
theorem status_of_toProblem_iff (exception : HttpException) (instance_ : String)
    (traceId : Option String) :
    exception.status = (toProblem (.httpException exception) instance_ traceId).status ↔
      exception.status ≤ 500 ∨ Denied (.httpException exception) := by
  unfold toProblem toHttpProblem
  simp only [Denied]
  cases hdenial : operationDeniedBodyOf exception with
  | some denial =>
    have hsent : (toProblemDetails
        (.platformError (.new denial.code denial.message
          (some [("switchId", .string denial.switchId)]) none)) instance_ traceId).status = 503 :=
      (status_of_denial hdenial).2
    simp [(status_of_denial hdenial).1, hsent]
  | none =>
    by_cases hstatus : exception.status < 500
    · have hle : exception.status ≤ 500 := Int.le_of_lt hstatus
      simp [hstatus, hle]
    · simp [hstatus, toProblemDetails_status, Thrown.platformError?, ErrorCode.status]
      omega

/-- Where no module wrote the document, the two agree on the status of the document. -/
theorem oneStatus_iff_of_not_authored {exception : Thrown}
    (h : authoredProblemOf exception = .ok none) (request : Request) (traceId : Option String) :
    OneStatus exception request traceId ↔
      ((toProblem exception request.route traceId).status ≥ 500 →
        (toProblem exception request.route traceId).code ≠ .operationRestricted →
        ∃ err, loggedError exception = .ok err) ∧
      interceptError exception =
        .ok (finish (.number (toProblem exception request.route traceId).status)) := by
  have hlabel : ∀ code : ErrorCode, code.label = "OPERATION_RESTRICTED" ↔
      code = .operationRestricted := by
    intro code
    cases code <;> simp [ErrorCode.label]
  rw [oneStatus_iff_derived, toAnswer_of_not_authored h]
  constructor
  · rintro ⟨answer, hanswer, hlogged, hderived⟩
    obtain rfl := Except.ok.inj hanswer
    refine ⟨fun hstatus hcode ↦ hlogged ?_, hderived⟩
    simp [ProblemAnswer.isFailure, hlabel, hstatus, hcode]
  · rintro ⟨hlogged, hderived⟩
    refine ⟨_, rfl, fun hfailure ↦ ?_, hderived⟩
    simp only [ProblemAnswer.isFailure, Bool.and_eq_true, decide_eq_true_eq, ne_eq, hlabel] at hfailure
    exact hlogged hfailure.1 hfailure.2

/-- A document of a module is sent under the status that the interceptor derives. -/
theorem oneStatus_iff_of_authored {exception : Thrown} {problem : AuthoredProblem}
    (h : authoredProblemOf exception = .ok (some problem)) (request : Request)
    (traceId : Option String) :
    OneStatus exception request traceId ↔
      (problem.status ≥ 500 → problem.code ≠ "OPERATION_RESTRICTED" →
        ∃ err, loggedError exception = .ok err) := by
  rw [oneStatus_iff_derived, toAnswer_of_authored h, interceptError_of_authored h]
  constructor
  · rintro ⟨answer, hanswer, hlogged, -⟩ hstatus hcode
    obtain rfl := Except.ok.inj hanswer
    exact hlogged (by simp [ProblemAnswer.isFailure, hstatus, hcode])
  · intro hlogged
    refine ⟨_, rfl, fun hfailure ↦ ?_, rfl⟩
    simp only [ProblemAnswer.isFailure, Bool.and_eq_true, decide_eq_true_eq, ne_eq] at hfailure
    exact hlogged hfailure.1 hfailure.2

/-- An answer needs a body whose recognition does not throw. -/
theorem not_oneStatus_of_error {exception : Thrown} (h : authoredProblemOf exception = .error ())
    (request : Request) (traceId : Option String) : ¬ OneStatus exception request traceId := by
  rw [oneStatus_iff_derived]
  rintro ⟨answer, hanswer, -, -⟩
  obtain ⟨authored, hauthored⟩ := exists_of_toAnswer hanswer
  rw [h] at hauthored
  cases hauthored

/-- The methods of an exception of the framework do not throw. -/
theorem authoredProblemOf_http (exception : HttpException) {failure : Unit} :
    authoredProblemOf (.httpException exception) ≠ .error failure := by
  simp only [authoredProblemOf, Thrown.httpExceptionLike, Method.call, bind, Except.bind]
  split
  · split
    · simp [pure, Except.pure]
    · simp [pure, Except.pure]
  · simp [pure, Except.pure]

theorem loggedError_of_describable (thrown : ThrownObject) :
    (∃ err, loggedError (.object thrown) = .ok err) ↔ thrown.Describable := by
  unfold loggedError ThrownObject.Describable
  by_cases herror : thrown.isError
  · simp [herror]
  · cases htext : thrown.text <;> simp [herror, htext]

theorem interceptError_object (thrown : ThrownObject) :
    interceptError (.object thrown) = .ok (finish (.number 500)) ↔
      thrown.getStatus = .absent ∨ thrown.getStatus = .returns (.number 500) := by
  unfold interceptError
  rw [Thrown.getStatus]
  cases thrown.getStatus with
  | absent => simp [bind, Except.bind, pure, Except.pure]
  | returns value => simp [bind, Except.bind, pure, Except.pure, Method.call, finish]
  | throws => simp [bind, Except.bind, Method.call]

/-- The interceptor and the filter agree on the values of `StatusDerivable`, and on no other. -/
theorem oneStatus_iff_statusDerivable (exception : Thrown) (request : Request)
    (traceId : Option String) : OneStatus exception request traceId ↔ StatusDerivable exception := by
  cases exception with
  | platformError error =>
    rw [oneStatus_iff_of_not_authored rfl]
    have hlogged : ∃ err, loggedError (.platformError error) = .ok err := ⟨.exception, rfl⟩
    have hderived : interceptError (.platformError error) = .ok (finish (.number 500)) := rfl
    simp only [hlogged, implies_true, true_and, hderived, StatusDerivable]
    cases hcode : error.code <;>
      simp [toProblem, toProblemDetails_status, Thrown.platformError?, hcode, ErrorCode.status, finish]
  | httpException exception =>
    have hlogged : ∃ err, loggedError (.httpException exception) = .ok err := ⟨.exception, rfl⟩
    have hderived : interceptError (.httpException exception) =
      .ok (finish (.number exception.status)) := rfl
    cases hauthored : authoredProblemOf (.httpException exception) with
    | error failure => exact absurd hauthored (authoredProblemOf_http exception)
    | ok authored =>
      cases authored with
      | some problem =>
        rw [oneStatus_iff_of_authored hauthored]
        simp only [hlogged, implies_true, true_iff]
        exact .inr (.inr ⟨problem, hauthored⟩)
      | none =>
        have hnot : ¬ Authored (.httpException exception) := by
          rintro ⟨problem, hproblem⟩
          rw [hauthored] at hproblem
          cases hproblem
        have hfinish : ∀ status : ℤ, Except.ok (finish (.number exception.status)) =
            (Except.ok (finish (.number status)) : Except Unit Recorded) ↔
              exception.status = status := by
          intro status
          simp [finish]
        simp only [oneStatus_iff_of_not_authored hauthored, hlogged, implies_true, true_and,
          hderived, hfinish, status_of_toProblem_iff, StatusDerivable, hnot, or_false]
  | object thrown =>
    cases hauthored : authoredProblemOf (.object thrown) with
    | error failure =>
      simp [StatusDerivable, hauthored, not_oneStatus_of_error hauthored]
    | ok authored =>
      cases authored with
      | some problem =>
        rw [oneStatus_iff_of_authored hauthored, loggedError_of_describable]
        simp only [StatusDerivable, hauthored, Except.ok.injEq, Option.some.injEq, exists_eq_left',
          reduceCtorEq, false_and, or_false]
        by_cases hstatus : problem.status < 500
        · exact ⟨fun _ ↦ .inl hstatus, fun _ hge ↦ absurd hge (by omega)⟩
        · by_cases hcode : problem.code = "OPERATION_RESTRICTED"
          · simp [hcode]
          · simp [hstatus, hcode]
            omega
      | none =>
        have hstatus : (toProblem (.object thrown) request.route traceId).status = 500 := rfl
        have hcode : (toProblem (.object thrown) request.route traceId).code = .internalError := rfl
        rw [oneStatus_iff_of_not_authored hauthored, loggedError_of_describable, hstatus, hcode,
          interceptError_object]
        simp [StatusDerivable, hauthored]
  | primitive text =>
    rw [oneStatus_iff_of_not_authored rfl]
    exact ⟨fun _ ↦ trivial, fun _ ↦ ⟨fun _ _ ↦ ⟨.described text, rfl⟩, rfl⟩⟩
  | null =>
    rw [oneStatus_iff_of_not_authored rfl]
    simp [StatusDerivable, interceptError, Thrown.getStatus, bind, Except.bind]
  | undefined =>
    rw [oneStatus_iff_of_not_authored rfl]
    simp [StatusDerivable, interceptError, Thrown.getStatus, bind, Except.bind]

/-! ### Unexpected values -/

/-- The document of an unexpected value does not depend on the value. -/
theorem toProblem_of_unexpected {exception : Thrown} (h : Unexpected exception) (instance_ : String)
    (traceId : Option String) :
    toProblem exception instance_ traceId = toProblemDetails .undefined instance_ traceId := by
  cases exception with
  | platformError error => exact absurd h id
  | httpException exception =>
    obtain ⟨hstatus, hdenied, -⟩ := h
    have hdenial : operationDeniedBodyOf exception = none := by
      simpa [Denied] using hdenied
    simp only [toProblem, toHttpProblem, hdenial, if_neg (Int.not_lt.mpr hstatus), Option.getD_none]
    rfl
  | object thrown => rfl
  | primitive text => rfl
  | null => rfl
  | undefined => rfl

theorem not_authored_of_unexpected {exception : Thrown} (h : Unexpected exception) :
    ¬ Authored exception := by
  cases exception with
  | platformError error => exact absurd h id
  | httpException exception => exact h.2.2
  | object thrown => exact h
  | primitive text => exact h
  | null => exact h
  | undefined => exact h

/-- The body of an unexpected value is the generic document of the route and the trace. -/
theorem body_of_unexpected {exception : Thrown} (h : Unexpected exception) {request : Request}
    {traceId : Option String} {handled : Handled}
    (hcatch : catch_ exception request traceId = .ok handled) :
    handled.body = .problem (toProblemDetails .undefined request.route traceId) := by
  obtain ⟨answer, err, hanswer, -, rfl⟩ := catch_eq_ok_iff.mp hcatch
  obtain ⟨authored, hauthored⟩ := exists_of_toAnswer hanswer
  cases authored with
  | some problem => exact absurd ⟨problem, hauthored⟩ (not_authored_of_unexpected h)
  | none =>
    rw [toAnswer_of_not_authored hauthored] at hanswer
    rw [← Except.ok.inj hanswer, ← toProblem_of_unexpected h]
    rfl

/-- The interceptor records the status of the response exactly for the values of `StatusDerivable`,
and the bodies of unexpected values on one route and trace are one body. -/
theorem oneStatus_iff (exception : Thrown) (request : Request) (traceId : Option String) :
    (OneStatus exception request traceId ↔ StatusDerivable exception) ∧
      (Unexpected exception → ∀ exception', Unexpected exception' →
        ∀ request' : Request, request'.route = request.route → ∀ handled handled',
          catch_ exception request traceId = .ok handled →
          catch_ exception' request' traceId = .ok handled' → handled.body = handled'.body) := by
  refine ⟨oneStatus_iff_statusDerivable exception request traceId, ?_⟩
  intro hunexpected exception' hunexpected' request' hroute handled handled' hcatch hcatch'
  rw [body_of_unexpected hunexpected hcatch, body_of_unexpected hunexpected' hcatch', hroute]

/-- A validation error that a handler throws is sent as 400 and recorded as 500. -/
theorem not_oneStatus_validationError :
    ¬ ∀ exception request traceId, OneStatus exception request traceId := by
  intro h
  obtain ⟨recorded, handled, hrecorded, hcatch, hspan, -⟩ :=
    h (.platformError (.new .validationError "invalid" none none)) ⟨"POST", "/x", none⟩ none
  obtain ⟨answer, err, hanswer, -, rfl⟩ := catch_eq_ok_iff.mp hcatch
  rw [← Except.ok.inj hrecorded, ← Except.ok.inj hanswer] at hspan
  exact absurd hspan (by simp [finish, handle, toProblem, toProblemDetails_status,
    Thrown.platformError?, PlatformError.new, ErrorCode.status])

end Karar.Errors
