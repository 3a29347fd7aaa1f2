import Karar.Foundation.Fallible
import Mathlib.Data.Int.Notation

/-!
# Problem documents

What a handler can throw, and the RFC 7807 documents made from it: `toProblemDetails` turns a
`PlatformError` into its document and anything else into the generic one, `authoredProblemOf`
recognises a document that a module wrote for itself.

A status is an integer. A call that throws is an `Except.error`.
-/

namespace Karar.Errors

open Foundation

/-! ### Values -/

/-- A value as the error boundary reads it: an object by its own properties. -/
inductive Value
  | undefined
  | null
  | boolean (value : Bool)
  | number (value : ℤ)
  | string (value : String)
  | array (items : List Value)
  | object (fields : List (String × Value))
  /-- A function, a symbol or a bigint. -/
  | other

namespace Value

/-- `value === number`. -/
def isNumber (number : ℤ) : Value → Bool
  | .number value => value = number
  | _ => false

theorem isNumber_iff (number : ℤ) (value : Value) : value.isNumber number ↔ value = .number number := by
  cases value <;> simp [isNumber]

end Value

/-- `fields[key]`. -/
def member (fields : List (String × Value)) (key : String) : Value :=
  ((fields.find? (·.1 = key)).map (·.2)).getD .undefined

/-! ### Platform errors -/

inductive ErrorCode
  | validationError
  | authenticationRequired
  | notAuthorized
  | configurationError
  | dependencyUnavailable
  | operationRestricted
  | conflict
  | notFound
  | rateLimited
  | internalError
deriving DecidableEq

namespace ErrorCode

def label : ErrorCode → String
  | .validationError => "VALIDATION_ERROR"
  | .authenticationRequired => "AUTHENTICATION_REQUIRED"
  | .notAuthorized => "NOT_AUTHORIZED"
  | .configurationError => "CONFIGURATION_ERROR"
  | .dependencyUnavailable => "DEPENDENCY_UNAVAILABLE"
  | .operationRestricted => "OPERATION_RESTRICTED"
  | .conflict => "CONFLICT"
  | .notFound => "NOT_FOUND"
  | .rateLimited => "RATE_LIMITED"
  | .internalError => "INTERNAL_ERROR"

/-- `STATUS`. -/
def status : ErrorCode → ℤ
  | .validationError => 400
  | .authenticationRequired => 401
  | .notAuthorized => 403
  | .configurationError => 500
  | .dependencyUnavailable => 503
  | .operationRestricted => 503
  | .conflict => 409
  | .notFound => 404
  | .rateLimited => 429
  | .internalError => 500

/-- `TITLE`. -/
def title : ErrorCode → String
  | .validationError => "Validation failed"
  | .authenticationRequired => "Authentication required"
  | .notAuthorized => "Not authorized"
  | .configurationError => "Configuration error"
  | .dependencyUnavailable => "Dependency unavailable"
  | .operationRestricted => "Operation restricted"
  | .conflict => "Conflict"
  | .notFound => "Not found"
  | .rateLimited => "Rate limited"
  | .internalError => "Internal error"

end ErrorCode

inductive SafeDetailValue
  | string (value : String)
  | number (value : ℤ)
  | boolean (value : Bool)
deriving DecidableEq

/-- Keep only the entries whose values are JSON primitives. -/
def sanitizeDetails (details : List (String × Value)) : List (String × SafeDetailValue) :=
  details.filterMap fun (key, value) ↦
    match value with
    | .string value => some (key, .string value)
    | .number value => some (key, .number value)
    | .boolean value => some (key, .boolean value)
    | _ => none

structure PlatformError where
  code : ErrorCode
  message : String
  details : Option (List (String × SafeDetailValue))
  correlationId : Option String

/-- The constructor. -/
def PlatformError.new (code : ErrorCode) (message : String)
    (details : Option (List (String × Value))) (correlationId : Option String) : PlatformError where
  code := code
  message := message
  details := details.map sanitizeDetails
  correlationId := correlationId

/-! ### Thrown values -/

/-- A property that may be a method. -/
inductive Method
  | absent
  | returns (value : Value)
  | throws

def Method.call : Method → Except Unit Value
  | .returns value => .ok value
  | .absent => .error ()
  | .throws => .error ()

theorem Method.returns_of_call {method : Method} {value : Value} (h : method.call = .ok value) :
    method = .returns value := by
  cases method with
  | returns returned => rw [Except.ok.inj h]
  | absent => cases h
  | throws => cases h

/-- An exception of the framework. The class `ServiceUnavailableException` fixes the status. -/
structure HttpException where
  isServiceUnavailable : Bool
  status : ℤ
  message : String
  response : Value
  status_of_unavailable : isServiceUnavailable = true → status = 503

/-- Any other object or function. -/
structure ThrownObject where
  isFunction : Bool
  /-- `instanceof Error`. -/
  isError : Bool
  getStatus : Method
  getResponse : Method
  /-- `String(exception)`, where that does not throw. -/
  text : Option String

inductive Thrown
  | platformError (error : PlatformError)
  | httpException (exception : HttpException)
  | object (object : ThrownObject)
  /-- A string, a number, a boolean, a bigint or a symbol, with its text. -/
  | primitive (text : String)
  | null
  | undefined

namespace Thrown

/-- `exception.getStatus`. -/
def getStatus : Thrown → Except Unit Method
  | .platformError _ => .ok .absent
  | .httpException exception => .ok (.returns (.number exception.status))
  | .object thrown => .ok thrown.getStatus
  | .primitive _ => .ok .absent
  | .null => .error ()
  | .undefined => .error ()

/-- `isHttpExceptionLike`, with the two methods. -/
def httpExceptionLike : Thrown → Option (Method × Method)
  | .httpException exception =>
    some (.returns (.number exception.status), .returns exception.response)
  | .object thrown =>
    if thrown.isFunction then none
    else
      match thrown.getStatus, thrown.getResponse with
      | .absent, _ => none
      | _, .absent => none
      | getStatus, getResponse => some (getStatus, getResponse)
  | _ => none

end Thrown

/-! ### The documents of the platform -/

structure ProblemDetails where
  type : String
  title : String
  status : ℤ
  detail : String
  instance_ : Option String
  code : ErrorCode
  traceId : Option String
  correlationId : Option String
  details : Option (List (String × SafeDetailValue))

def GENERIC_DETAIL : String := "An unexpected error occurred."

/-- `PlatformError.is(error) ? error : undefined`. -/
def Thrown.platformError? : Thrown → Option PlatformError
  | .platformError error => some error
  | _ => none

/-- The document of a thrown value, for the route and the trace of the request. -/
def toProblemDetails (error : Thrown) (instance_ : String) (traceId : Option String) :
    ProblemDetails :=
  let platformError := error.platformError?
  let code := (platformError.map (·.code)).getD .internalError
  { type := "urn:karar:error:" ++ code.label
    title := code.title
    status := code.status
    detail := (platformError.map (·.message)).getD GENERIC_DETAIL
    instance_ := some instance_
    code := code
    traceId := traceId
    correlationId := platformError.bind (·.correlationId)
    details := platformError.bind (·.details) }

theorem toProblemDetails_status (error : Thrown) (instance_ : String) (traceId : Option String) :
    (toProblemDetails error instance_ traceId).status =
      ((error.platformError?.map PlatformError.code).getD ErrorCode.internalError).status :=
  rfl

/-! ### The documents of the modules -/

/-- A complete document a module wrote for itself, with what its members state. -/
structure AuthoredProblem where
  body : List (String × Value)
  status : ℤ
  code : String
  status_stated : member body "status" = .number status
  code_stated : member body "code" = .string code

/-- The document in a body that states the four required members with the right types. -/
def AuthoredProblem.ofBody (body : List (String × Value)) : Option AuthoredProblem :=
  match member body "type", member body "title", hstatus : member body "status",
    hcode : member body "code" with
  | .string _, .string _, .number status, .string code =>
    if code = "" then none else some ⟨body, status, code, hstatus, hcode⟩
  | _, _, _, _ => none

/-- The problem carried by the exception, unless its status is not the status of the exception. -/
def authoredProblemOf (exception : Thrown) : Except Unit (Option AuthoredProblem) :=
  match exception.httpExceptionLike with
  | none => .ok none
  | some (getStatus, getResponse) => do
    match ← getResponse.call with
    | .object body =>
      match AuthoredProblem.ofBody body with
      | none => return none
      | some problem =>
        let status ← getStatus.call
        return if status.isNumber problem.status then some problem else none
    | _ => return none

/-- The two methods are the methods of the exception. -/
theorem getStatus_of_httpExceptionLike {exception : Thrown} {getStatus getResponse : Method}
    (h : exception.httpExceptionLike = some (getStatus, getResponse)) :
    exception.getStatus = .ok getStatus := by
  cases exception with
  | httpException exception =>
    simp only [Thrown.httpExceptionLike, Option.some.injEq, Prod.mk.injEq] at h
    rw [Thrown.getStatus, h.1]
  | object thrown =>
    simp only [Thrown.httpExceptionLike] at h
    split at h
    · exact absurd h (by simp)
    · split at h
      · exact absurd h (by simp)
      · exact absurd h (by simp)
      · simp only [Option.some.injEq, Prod.mk.injEq] at h
        rw [Thrown.getStatus, h.1]
  | platformError _ => exact absurd h (by simp [Thrown.httpExceptionLike])
  | primitive _ => exact absurd h (by simp [Thrown.httpExceptionLike])
  | null => exact absurd h (by simp [Thrown.httpExceptionLike])
  | undefined => exact absurd h (by simp [Thrown.httpExceptionLike])

/-- A problem is recognised only under its own status. -/
theorem getStatus_of_authored {exception : Thrown} {problem : AuthoredProblem}
    (h : authoredProblemOf exception = .ok (some problem)) :
    exception.getStatus = .ok (.returns (.number problem.status)) := by
  unfold authoredProblemOf at h
  split at h
  · exact absurd h (by simp)
  next getStatus getResponse hlike =>
    obtain ⟨response, -, hread⟩ := bind_eq_ok h
    split at hread
    next body =>
      split at hread
      · exact absurd hread (by simp [pure, Except.pure])
      next stated hstated =>
        obtain ⟨status, hstatus, hagrees⟩ := bind_eq_ok hread
        split at hagrees
        next hnumber =>
          obtain rfl : stated = problem := Option.some.inj (Except.ok.inj hagrees)
          rw [getStatus_of_httpExceptionLike hlike, Method.returns_of_call hstatus,
            (Value.isNumber_iff _ _).mp hnumber]
        · exact absurd (Except.ok.inj hagrees) (by simp)
    · exact absurd hread (by simp [pure, Except.pure])

end Karar.Errors
