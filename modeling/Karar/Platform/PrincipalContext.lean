import Karar.Identity.Libraries
import Karar.Platform.TransactionLaws

/-!
# Principals on pooled connections

`withPrincipalContext` runs a callback in a transaction whose first statement binds the principal of
the caller into the settings `app.tenant_id`, `app.user_id`, `app.session_id` and `app.request_id`,
for the transaction only. A context without a required key, or with a value that is malformed,
throws before a connection is taken.

Calls run at the same time over one pool of connections; a connection keeps the settings of its
session, whatever they are.

Whatever settings the sessions of a pool start with, and however the calls of `withPrincipalContext`
take turns and their statements fail, each statement of a callback runs under the values of its own
call (`isolated`). The programs keep to their leases (`keepsLeases_withPrincipalContext`), and the
step each statement takes is one of a session that its call alone has.
-/

namespace Karar.Platform.Principal

open Foundation Identity SharedKernel Adapter

/-! ## The principal context -/

inductive PrincipalContextKey
  | tenantId
  | userId
  | sessionId
  | requestId
deriving DecidableEq

def PrincipalContextKey.name : PrincipalContextKey → String
  | .tenantId => "tenantId"
  | .userId => "userId"
  | .sessionId => "sessionId"
  | .requestId => "requestId"

/-- The values of a context at run time: `none` where a key is absent. -/
structure PrincipalContext where
  tenantId : Option String
  userId : Option String
  sessionId : Option String
  requestId : Option String
deriving DecidableEq

/-- `context[key]`. -/
def PrincipalContext.value (context : PrincipalContext) : PrincipalContextKey → Option String
  | .tenantId => context.tenantId
  | .userId => context.userId
  | .sessionId => context.sessionId
  | .requestId => context.requestId

/-- The values of a context, with the empty string for an absent one. -/
def PrincipalContext.settings (context : PrincipalContext) : PrincipalSettings where
  tenantId := context.tenantId.getD ""
  userId := context.userId.getD ""
  sessionId := context.sessionId.getD ""
  requestId := context.requestId.getD ""

def DEFAULT_REQUIRED_CONTEXT : List PrincipalContextKey := [.tenantId, .userId]

def MAX_OPAQUE_VALUE_LENGTH : ℕ := 512

inductive PrincipalContextErrorKind
  | missingRequiredContext
  | invalidContextValue
deriving DecidableEq

structure PrincipalContextError where
  kind : PrincipalContextErrorKind
  keys : List PrincipalContextKey
  message : String
deriving DecidableEq

def joinKeys (keys : List PrincipalContextKey) : String :=
  ", ".intercalate (keys.map (·.name))

/-- The required keys that are absent or empty. -/
def missingKeys (context : PrincipalContext) (required : List PrincipalContextKey) :
    List PrincipalContextKey :=
  required.filter fun key ↦ context.value key = none ∨ context.value key = some ""

/-- A value of a session or request id that is refused. -/
def isMalformed (value : String) : Bool :=
  MAX_OPAQUE_VALUE_LENGTH < utf16Length value || value.toList.contains '\x00'

/-- The keys whose values are malformed. -/
def invalidKeys (context : PrincipalContext) : List PrincipalContextKey :=
  (if context.tenantId.any (TenantId.parse · |>.isNone) then [.tenantId] else []) ++
    (if context.userId.any (UserId.parse · |>.isNone) then [.userId] else []) ++
    [PrincipalContextKey.sessionId, .requestId].filter fun key ↦
      (context.value key).any isMalformed

def validateContext (context : PrincipalContext) (required : List PrincipalContextKey) :
    Except PrincipalContextError PrincipalSettings :=
  if missingKeys context required ≠ [] then
    .error
      { kind := .missingRequiredContext
        keys := missingKeys context required
        message := "principal context is missing required key(s) [" ++
          joinKeys (missingKeys context required) ++ "] — failing closed before any query " ++
          "(tenancy.md: RLS is the boundary; there is no default principal)" }
  else if invalidKeys context ≠ [] then
    .error
      { kind := .invalidContextValue
        keys := invalidKeys context
        message := "principal context value(s) [" ++ joinKeys (invalidKeys context) ++
          "] are malformed — failing closed before any query" }
  else .ok context.settings

/-! ### The transaction -/

section Transaction

variable {Statement Rows Thrown Result : Type}

inductive ContextStatement (Statement : Type)
  /-- `SET_PRINCIPAL_CONTEXT_SQL`, with its parameters. -/
  | setPrincipalContext (values : PrincipalSettings)
  /-- A statement of the callback. -/
  | own (statement : Statement)
deriving DecidableEq

/-- `set_config(name, value, true)` binds for the transaction; no statement of a callback does. -/
def binds : ContextStatement Statement → Option PrincipalSettings
  | .setPrincipalContext values => some values
  | .own _ => none

/-- The statements of a callback among those of its transaction. -/
def own : Callback Statement Rows Thrown Result →
    Callback (ContextStatement Statement) Rows Thrown Result
  | .pure outcome => .pure outcome
  | .call statement next => .call (.own statement) fun reply ↦ own (next reply)

/-- The callback given to the adapter: it binds the principal first. -/
def boundFirst (values : PrincipalSettings) (fn : Callback Statement Rows Thrown Result) :
    Callback (ContextStatement Statement) Rows Thrown Result :=
  .call (.setPrincipalContext values) fun
    | .error error => .pure (.error (.pg error))
    | .ok _ => own fn

inductive ContextRejection (Thrown : Type)
  | context (error : PrincipalContextError)
  | transaction (rejection : Rejection Thrown)
deriving DecidableEq

/-- A call of `withPrincipalContext`. -/
structure ContextRequest (Statement Rows Thrown Result : Type) where
  context : PrincipalContext
  /-- `options.require`. -/
  require : Option (List PrincipalContextKey)
  fn : Callback Statement Rows Thrown Result

/-- The keys a call requires. -/
def ContextRequest.required (request : ContextRequest Statement Rows Thrown Result) :
    List PrincipalContextKey :=
  request.require.getD DEFAULT_REQUIRED_CONTEXT

def withPrincipalContext (request : ContextRequest Statement Rows Thrown Result) :
    AdapterProgram (ContextStatement Statement) Rows (Except (ContextRejection Thrown) Result) :=
  match validateContext request.context request.required with
  | .error error => .pure (.error (.context error))
  | .ok values => do
    let outcome ← Adapter.withTransaction (boundFirst values request.fn)
    return outcome.mapError .transaction

/-- Calls of `withPrincipalContext` over one pool. -/
def calls (Statement Rows Thrown Result : Type) :
    Machine (AdapterOp (ContextStatement Statement))
      (AdapterAnswer (ContextStatement Statement) Rows)
      (Pool (Session (ContextStatement Statement)) (List (ContextStatement Statement)))
      (Surroundings PrincipalSettings (Fate Rows) PgError)
      (ContextRequest Statement Rows Thrown Result) (Except (ContextRejection Thrown) Result)
      Empty where
  handler := poolHandler (sessions binds)
  program := withPrincipalContext
  turn pool _ := pool

end Transaction

/-! ## Isolation -/

section PrincipalIsolation

variable {Statement Rows Thrown Result : Type}

/-! ### Contexts -/

/-- A context that cannot be bound: a required key is absent or empty, an id does not parse, or an
opaque value is too long or contains NUL. -/
def Unusable (request : ContextRequest Statement Rows Thrown Result) : Prop :=
  (∃ key ∈ request.required,
      request.context.value key = none ∨ request.context.value key = some "") ∨
    (∃ value, request.context.tenantId = some value ∧ TenantId.parse value = none) ∨
    (∃ value, request.context.userId = some value ∧ UserId.parse value = none) ∨
    ∃ key value, (key = .sessionId ∨ key = .requestId) ∧ request.context.value key = some value ∧
      (MAX_OPAQUE_VALUE_LENGTH < utf16Length value ∨ '\x00' ∈ value.toList)

theorem missingKeys_ne_nil_iff (context : PrincipalContext) (required : List PrincipalContextKey) :
    missingKeys context required ≠ [] ↔
      ∃ key ∈ required, context.value key = none ∨ context.value key = some "" := by
  unfold missingKeys
  rw [ne_eq, List.filter_eq_nil_iff]
  simp only [decide_eq_true_eq, not_forall, not_not, exists_prop]

theorem invalidKeys_eq_nil_iff (context : PrincipalContext) :
    invalidKeys context = [] ↔
      (¬ ∃ value, context.tenantId = some value ∧ TenantId.parse value = none) ∧
        (¬ ∃ value, context.userId = some value ∧ UserId.parse value = none) ∧
        ¬ ∃ key value, (key = PrincipalContextKey.sessionId ∨ key = .requestId) ∧
          context.value key = some value ∧
          (MAX_OPAQUE_VALUE_LENGTH < utf16Length value ∨ '\x00' ∈ value.toList) := by
  have htenant : (if context.tenantId.any (TenantId.parse · |>.isNone) then
      [PrincipalContextKey.tenantId] else []) = [] ↔
        ¬ ∃ value, context.tenantId = some value ∧ TenantId.parse value = none := by
    cases context.tenantId <;> simp
  have huser : (if context.userId.any (UserId.parse · |>.isNone) then
      [PrincipalContextKey.userId] else []) = [] ↔
        ¬ ∃ value, context.userId = some value ∧ UserId.parse value = none := by
    cases context.userId <;> simp
  have hmalformed : ∀ value : String, isMalformed value = true ↔
      MAX_OPAQUE_VALUE_LENGTH < utf16Length value ∨ '\x00' ∈ value.toList := by
    intro value
    simp [isMalformed]
  have hopaque : ([PrincipalContextKey.sessionId, .requestId].filter fun key ↦
      (context.value key).any isMalformed) = [] ↔
        ¬ ∃ key value, (key = PrincipalContextKey.sessionId ∨ key = .requestId) ∧
          context.value key = some value ∧
          (MAX_OPAQUE_VALUE_LENGTH < utf16Length value ∨ '\x00' ∈ value.toList) := by
    rw [List.filter_eq_nil_iff]
    constructor
    · rintro hnone ⟨key, value, hkey, hvalue, hbad⟩
      refine hnone key (by simpa using hkey) ?_
      rw [hvalue]
      exact (hmalformed value).mpr hbad
    · intro hnot key hkey hbad
      obtain ⟨value, hvalue, hmal⟩ := (Option.any_eq_true _ _).mp hbad
      exact hnot ⟨key, value, by simpa using hkey, hvalue, (hmalformed value).mp hmal⟩
  unfold invalidKeys
  rw [List.append_eq_nil_iff, List.append_eq_nil_iff, htenant, huser, hopaque, and_assoc]

/-- What the validation refuses is unusable, and it binds the values of the rest. -/
theorem validateContext_cases (request : ContextRequest Statement Rows Thrown Result) :
    (Unusable request ∧ ∃ error, validateContext request.context request.required = .error error) ∨
      (¬ Unusable request ∧
        validateContext request.context request.required = .ok request.context.settings) := by
  unfold Unusable validateContext
  rw [← missingKeys_ne_nil_iff]
  by_cases hmissing : missingKeys request.context request.required = []
  · rw [if_neg (not_not_intro hmissing)]
    by_cases hinvalid : invalidKeys request.context = []
    · rw [if_neg (not_not_intro hinvalid)]
      obtain ⟨htenant, huser, hopaque⟩ := (invalidKeys_eq_nil_iff _).mp hinvalid
      refine .inr ⟨?_, rfl⟩
      rintro (h | h | h | h)
      · exact h hmissing
      · exact htenant h
      · exact huser h
      · exact hopaque h
    · rw [if_pos hinvalid]
      refine .inl ⟨.inr ?_, _, rfl⟩
      by_contra hnot
      rw [not_or, not_or] at hnot
      exact hinvalid ((invalidKeys_eq_nil_iff _).mpr hnot)
  · rw [if_pos hmissing]
    exact .inl ⟨.inl hmissing, _, rfl⟩

/-! ### What the programs keep to -/

/-- The settings that the transaction of a session has bound. -/
def boundBy {Text : Type} : TransactionState Text → Option PrincipalSettings
  | .active _ bound => bound
  | .aborted bound => bound
  | _ => none

/-- A session serves the statements of a callback: the values are bound in its transaction, or its
connection is gone. -/
def Serving {Text : Type} (values : PrincipalSettings) (session : Session Text) : Prop :=
  boundBy session.transaction = some values ∨ ∃ committing, session.transaction = .lost committing

/-- A statement of the callback needs the values of the context, and everything else nothing. -/
def permitted (request : ContextRequest Statement Rows Thrown Result)
    (session : Session (ContextStatement Statement)) : Command (ContextStatement Statement) → Prop
  | .query (.own _) => ¬ Unusable request ∧ Serving request.context.settings session
  | _ => True

section Programs

variable {request : ContextRequest Statement Rows Thrown Result} {id : ℕ}
  {session : Session (ContextStatement Statement)}

/-- A statement of the callback leaves its session serving. -/
theorem Serving.query {values : PrincipalSettings} (hserving : Serving values session)
    (statement : Statement) (committed : List (ContextStatement Statement)) (fate : Fate Rows) :
    Serving values (serve binds session committed (.query (.own statement)) fate).1.1 := by
  obtain ⟨settings, transaction⟩ := session
  have hlost : ∀ committing, Serving values
      (⟨settings, .lost committing⟩ : Session (ContextStatement Statement)) :=
    fun committing ↦ .inr ⟨committing, rfl⟩
  cases transaction with
  | idle =>
    rcases hserving with hbound | ⟨_, hgone⟩
    · cases hbound
    · cases hgone
  | active executed bound =>
    have hbound : bound = some values := by
      rcases hserving with hbound | ⟨_, hgone⟩
      · exact hbound
      · cases hgone
    subst hbound
    cases fate with
    | done rows => exact .inl rfl
    | refused error => exact .inl rfl
    | lost executed error => exact hlost false
  | aborted bound =>
    cases fate with
    | done rows => exact hserving
    | refused error => exact hserving
    | lost executed error => exact hlost false
  | lost committing =>
    cases fate <;> exact hlost committing

/-- The program has the connection, in some state. -/
def Has (id : ℕ) (held : Option (ℕ × Session (ContextStatement Statement)))
    (_ : Except (Rejection Thrown) Result) : Prop :=
  ∃ session, held = some (id, session)

/-- The program has the connection, outside a transaction where it resolves. -/
def HasConcluded (id : ℕ) (held : Option (ℕ × Session (ContextStatement Statement)))
    (outcome : Except (Rejection Thrown) Result) : Prop :=
  ∃ session, held = some (id, session) ∧ ∀ result, outcome = .ok result → session.Idle

theorem conforms_own (husable : ¬ Unusable request)
    (hserving : Serving request.context.settings session)
    (fn : Callback Statement Rows Thrown Result) :
    Conforms (sessions binds) Session.Idle (permitted request) (Has id) (some (id, session))
      (onConnection id (own fn)) := by
  induction fn generalizing session with
  | pure outcome => exact ⟨session, rfl⟩
  | call statement next ih =>
    refine ⟨session, rfl, ⟨husable, hserving⟩, fun shared fate ↦ ?_⟩
    exact ih _ (hserving.query statement shared fate)

/-- The callback of the adapter: its own statements come after the values are bound. -/
theorem conforms_boundFirst (husable : ¬ Unusable request)
    (hbegun : session.transaction = .active [] none)
    (fn : Callback Statement Rows Thrown Result) :
    Conforms (sessions binds) Session.Idle (permitted request) (Has id) (some (id, session))
      (onConnection id (boundFirst request.context.settings fn)) := by
  obtain ⟨settings, transaction⟩ := session
  obtain rfl : transaction = .active [] none := hbegun
  refine ⟨_, rfl, trivial, fun shared fate ↦ ?_⟩
  cases fate with
  | done rows => exact conforms_own husable (.inl rfl) fn
  | refused error => exact ⟨_, rfl⟩
  | lost executed error => exact ⟨_, rfl⟩

/-- COMMIT ends the transaction where it is answered. -/
theorem conforms_commit (outcome : Except (Rejection Thrown) Result) :
    Conforms (sessions binds) Session.Idle (permitted request) (HasConcluded id)
      (some (id, session)) (commit id outcome : AdapterProgram _ Rows _) := by
  cases outcome with
  | error rejection => exact ⟨session, rfl, nofun⟩
  | ok result =>
    refine ⟨session, rfl, trivial, fun shared fate ↦ ?_⟩
    obtain ⟨settings, transaction⟩ := session
    cases transaction <;> cases fate <;>
      first
        | exact ⟨_, rfl, fun _ _ ↦ rfl⟩
        | exact ⟨_, rfl, nofun⟩

theorem conforms_attempt (husable : ¬ Unusable request) (hidle : session.Idle)
    (fn : Callback Statement Rows Thrown Result) :
    Conforms (sessions binds) Session.Idle (permitted request) (HasConcluded id)
      (some (id, session)) (attempt id (boundFirst request.context.settings fn)) := by
  refine ⟨session, rfl, trivial, fun shared fate ↦ ?_⟩
  obtain ⟨settings, transaction⟩ := session
  obtain rfl : transaction = .idle := hidle
  cases fate with
  | refused error => exact ⟨_, rfl, nofun⟩
  | lost executed error => exact ⟨_, rfl, nofun⟩
  | done rows =>
    have hbegun : Conforms (sessions binds) Session.Idle (permitted request) (HasConcluded id)
        (some (id, ⟨settings, .active [] none⟩))
        (onConnection id (boundFirst request.context.settings fn) >>= commit id) := by
      refine conforms_bind (conforms_boundFirst husable rfl fn) ?_
      rintro _ outcome ⟨session, rfl⟩
      exact conforms_commit outcome
    exact hbegun

/-- The connection goes back to the pool outside a transaction, or is discarded. -/
theorem keepsLeases_conclude {outcome : Except (Rejection Thrown) Result}
    (hidle : ∀ result, outcome = .ok result → session.Idle) :
    KeepsLeases (sessions binds) Session.Idle (permitted request) (some (id, session))
      (conclude id outcome : AdapterProgram _ Rows _) := by
  cases outcome with
  | ok result => exact ⟨session, rfl, fun _ ↦ hidle result rfl, rfl⟩
  | error rejection =>
    refine ⟨session, rfl, trivial, fun shared fate ↦ ?_⟩
    obtain ⟨settings, transaction⟩ := session
    cases transaction <;> cases fate <;>
      first
        | exact ⟨_, rfl, fun _ ↦ rfl, rfl⟩
        | exact ⟨_, rfl, nofun, rfl⟩

theorem keepsLeases_withPrincipalContext (request : ContextRequest Statement Rows Thrown Result) :
    KeepsLeases (sessions binds) Session.Idle (permitted request) none
      (withPrincipalContext request) := by
  unfold withPrincipalContext
  rcases validateContext_cases request with ⟨-, error, hrefused⟩ | ⟨husable, hvalid⟩
  · rw [hrefused]
    exact rfl
  · rw [hvalid]
    have htransaction : KeepsLeases (sessions binds) Session.Idle (permitted request) none
        (Adapter.withTransaction (boundFirst request.context.settings request.fn)) := by
      refine ⟨rfl, fun failure ↦ rfl, fun id session hidle ↦ ?_⟩
      have hconnected : KeepsLeases (sessions binds) Session.Idle (permitted request)
          (some (id, session))
          (attempt id (boundFirst request.context.settings request.fn) >>= conclude id) := by
        refine conforms_bind (conforms_attempt husable hidle request.fn) ?_
        rintro _ outcome ⟨later, rfl, hconcluded⟩
        exact keepsLeases_conclude hconcluded
      exact hconnected
    refine conforms_bind htransaction ?_
    rintro _ outcome rfl
    exact rfl

end Programs

/-! ### Isolation -/

section Isolation

abbrev ContextCalls (Statement Rows Thrown Result : Type) :=
  Configuration (AdapterOp (ContextStatement Statement))
    (AdapterAnswer (ContextStatement Statement) Rows)
    (Connections (ContextStatement Statement)) (ContextRequest Statement Rows Thrown Result)
    (Except (ContextRejection Thrown) Result)

/-- A call that still has an operation to perform. -/
def Running (c : ContextCalls Statement Rows Thrown Result) (caller : ℕ) : Prop :=
  ∃ request op next, c.calls[caller]? = some ⟨request, .running (.call op next)⟩

/-- Each call has the sessions and the settings it should have. -/
structure Isolated (c : ContextCalls Statement Rows Thrown Result) : Prop where
  /-- A statement of a callback runs where the four settings are bound to the values of its call. -/
  bound : ∀ (caller : ℕ) (request : ContextRequest Statement Rows Thrown Result) (id : ℕ)
      (statement : Statement) next,
    c.calls[caller]? = some ⟨request, .running (.call (.send id (.query (.own statement))) next)⟩ →
      ∃ session, At c.store id session ∧
        ((boundBy session.transaction = some request.context.settings ∧
            session.current = request.context.settings) ∨
          ∃ committing, session.transaction = .lost committing)
  /-- A session is at one call, which is running, or it is in the pool or destroyed. -/
  held : ∃ holder : ℕ → Option ℕ,
    (∀ caller, holder caller ≠ none → Running c caller) ∧
      (∀ first second id, holder first = some id → holder second = some id → first = second) ∧
      (∀ caller request id command next,
        c.calls[caller]? = some ⟨request, .running (.call (.send id command) next)⟩ →
          holder caller = some id) ∧
      ∀ id session, At c.store id session → ∃ caller, holder caller = some id
  /-- In the pool nothing of a call is left. -/
  restored : ∀ (id : ℕ) (session : Session (ContextStatement Statement)),
    c.store.slots[id]? = some ⟨.pooled, session⟩ →
      session.Idle ∧ session.current = session.settings
  /-- A call whose context is unusable has performed nothing. -/
  refused : ∀ caller request, c.Asked caller request → Unusable request →
    logOf caller c.history = [] ∧ ∃ error, c.Returned caller request (.error (.context error))

/-- The settings of each session that was in the pool are what they were. -/
def KeepsSettings (c later : ContextCalls Statement Rows Thrown Result) : Prop :=
  ∀ (id : ℕ) (session : Session (ContextStatement Statement)),
    c.store.slots[id]? = some ⟨.pooled, session⟩ →
      ∃ slot, later.store.slots[id]? = some slot ∧ slot.cell.settings = session.current ∧
        (slot.place = .pooled → slot.cell.current = session.current)

variable {pool : Connections (ContextStatement Statement)}
  {c later : ContextCalls Statement Rows Thrown Result}
  {condition : ContextCalls Statement Rows Thrown Result →
    Event (Surroundings PrincipalSettings (Fate Rows) PgError)
      (ContextRequest Statement Rows Thrown Result) Empty → Prop}

theorem current_of_boundBy {session : Session (ContextStatement Statement)}
    {values : PrincipalSettings} (hbound : boundBy session.transaction = some values) :
    session.current = values := by
  obtain ⟨settings, transaction⟩ := session
  cases transaction <;> simp_all [boundBy, Session.current]

theorem withPrincipalContext_of_unusable {request : ContextRequest Statement Rows Thrown Result}
    (hunusable : Unusable request) :
    ∃ error, withPrincipalContext request = .pure (.error (.context error)) := by
  rcases validateContext_cases request with ⟨-, error, hrefused⟩ | ⟨husable, -⟩
  · refine ⟨error, ?_⟩
    unfold withPrincipalContext
    rw [hrefused]
  · exact absurd hunusable husable

/-- No command changes the settings of a session. -/
theorem settings_serve (session : Session (ContextStatement Statement))
    (committed : List (ContextStatement Statement)) (command : Command (ContextStatement Statement))
    (fate : Fate Rows) :
    ((sessions binds).serve session committed command fate).1.1.settings = session.settings := by
  cases command <;> rfl

/-- The settings of a session are its own in every later configuration. -/
theorem settings_of_reaches
    (hreaches : Machine.Reaches (calls Statement Rows Thrown Result) condition c later) (id : ℕ)
    (slot : Slot (Session (ContextStatement Statement))) (hslot : c.store.slots[id]? = some slot) :
    ∃ slot', later.store.slots[id]? = some slot' ∧ slot'.cell.settings = slot.cell.settings := by
  refine hreaches.store (fun store ↦ ∃ slot', store.slots[id]? = some slot' ∧
    slot'.cell.settings = slot.cell.settings) ?_ (fun _ _ h ↦ h) ⟨slot, hslot, rfl⟩
  rintro store op surroundings next answer ⟨slot', hslot', hsettings⟩ hanswer
  obtain ⟨found, hfound, hkept⟩ :=
    handler_part Session.settings settings_serve hanswer id slot' hslot'
  exact ⟨found, hfound, hkept.trans hsettings⟩

theorem isolated_of_leasing {held : ℕ → Option (ℕ × Session (ContextStatement Statement))}
    (hreaches : Machine.Reaches (calls Statement Rows Thrown Result) condition (.initial pool) c)
    (hleasing : Leasing (sessions binds) Session.Idle permitted c held) : Isolated c := by
  refine ⟨fun caller request id statement next hcall ↦ ?_, ?_, fun id session hslot ↦ ?_,
    fun caller request hasked hunusable ↦ ?_⟩
  · obtain ⟨session, hheld, ⟨-, hserving⟩, -⟩ := hleasing.conforms caller request _ hcall
    refine ⟨session, hleasing.leased caller id session hheld, ?_⟩
    rcases hserving with hbound | hlost
    · exact .inl ⟨hbound, current_of_boundBy hbound⟩
    · exact .inr hlost
  · refine ⟨fun caller ↦ (held caller).map (·.1), fun caller hheld ↦ ?_, ?_, ?_, ?_⟩
    · by_contra hnot
      have hsome : held caller ≠ none := fun h ↦ hheld (congrArg (Option.map (·.1)) h)
      refine hsome (hleasing.absent caller fun request rest hcall ↦ ?_)
      cases rest with
      | pure outcome => exact hsome (hleasing.conforms caller request _ hcall)
      | call op next => exact hnot ⟨request, op, next, hcall⟩
    · intro first second id hfirst hsecond
      obtain ⟨⟨_, one⟩, hone, rfl⟩ := Option.map_eq_some_iff.mp hfirst
      obtain ⟨⟨_, two⟩, htwo, rfl⟩ := Option.map_eq_some_iff.mp hsecond
      exact hleasing.exclusive first second _ one two hone htwo
    · intro caller request id command next hcall
      obtain ⟨session, hheld, -⟩ := hleasing.conforms caller request _ hcall
      exact congrArg (Option.map (·.1)) hheld
    · intro id session hat
      obtain ⟨caller, hheld⟩ := hleasing.owned id session hat
      exact ⟨caller, congrArg (Option.map (·.1)) hheld⟩
  · have hidle := hleasing.cleanPool id session hslot
    refine ⟨hidle, ?_⟩
    unfold Session.current
    rw [show session.transaction = .idle from hidle]
  · obtain ⟨error, hends⟩ := withPrincipalContext_of_unusable hunusable
    obtain ⟨⟨asked, progress⟩, hcall, rfl⟩ := Option.map_eq_some_iff.mp hasked
    obtain ⟨rfl, hlog⟩ := hreaches.returned_at_once hends hcall
    exact ⟨hlog, error, hcall⟩

/-- In every run of calls of `withPrincipalContext` over a pool, the calls are isolated and the
sessions keep their settings. -/
theorem isolated
    (hready : pool.Ready Session.Idle)
    (hreaches : Machine.Reaches (calls Statement Rows Thrown Result) Unharmed (.initial pool) c)
    (hlater : Machine.Reaches (calls Statement Rows Thrown Result) Unharmed c later) :
    Isolated later ∧ KeepsSettings c later := by
  have hleasing : ∀ {c : ContextCalls Statement Rows Thrown Result},
      Machine.Reaches (calls Statement Rows Thrown Result) Unharmed (.initial pool) c →
        ∃ held, Leasing (sessions binds) Session.Idle permitted c held := fun hreaches ↦
    hreaches.leasing rfl (fun _ _ ↦ rfl) (fun _ ↦ rfl) keepsLeases_withPrincipalContext hready
  have hisolated : ∀ {c : ContextCalls Statement Rows Thrown Result},
      Machine.Reaches (calls Statement Rows Thrown Result) Unharmed (.initial pool) c →
        Isolated c := fun hreaches ↦
    isolated_of_leasing hreaches (hleasing hreaches).choose_spec
  refine ⟨hisolated (hreaches.trans hlater), fun id session hslot ↦ ?_⟩
  obtain ⟨slot, hfound, hsettings⟩ := settings_of_reaches hlater id _ hslot
  have hbefore := ((hisolated hreaches).restored id session hslot).2
  refine ⟨slot, hfound, hsettings.trans hbefore.symm, fun hpooled ↦ ?_⟩
  obtain ⟨place, after⟩ := slot
  obtain rfl : place = .pooled := hpooled
  have hafter := ((hisolated (hreaches.trans hlater)).restored id after hfound).2
  exact hafter.trans (hsettings.trans hbefore.symm)

/-! Two calls on two connections with the settings of earlier callers. -/

namespace Leftovers

def context (tenantId userId : String) : PrincipalContext where
  tenantId := some tenantId
  userId := some userId
  sessionId := none
  requestId := some "r-1"

def first : PrincipalContext :=
  context "0198c2f2-7a34-7cc8-9c33-8a1f2b3c4d5e" "f47ac10b-58cc-4372-a567-0e02b2c3d479"

def second : PrincipalContext :=
  context "11111111-7a34-7cc8-9c33-8a1f2b3c4d5e" "22222222-58cc-4372-a567-0e02b2c3d479"

/-- A call that sends one statement. -/
def request (context : PrincipalContext) : ContextRequest String Unit Unit Unit where
  context := context
  require := none
  fn := .call "SELECT * FROM tenancy.memberships" fun
    | .ok _ => .pure (.ok ())
    | .error error => .pure (.error (.pg error))

def sessionOf (context : PrincipalContext) : Slot (Session (ContextStatement String)) :=
  ⟨.pooled, ⟨context.settings, .idle⟩⟩

/-- The sessions still have session settings of the two principals, crosswise. -/
def connections : Connections (ContextStatement String) :=
  ⟨[], [sessionOf second, sessionOf first]⟩

def answered (caller id : ℕ) (fate : Fate Unit) :
    Event (Surroundings PrincipalSettings (Fate Unit) PgError)
      (ContextRequest String Unit Unit Unit) Empty :=
  .advance caller ⟨.reuse id, fate⟩

/-- The calls take turns; the statement of the second one fails. -/
def events : List (Event (Surroundings PrincipalSettings (Fate Unit) PgError)
    (ContextRequest String Unit Unit Unit) Empty) :=
  [.start (request first), .start (request second), answered 0 0 (.done ()), answered 1 1 (.done ()),
    answered 0 0 (.done ()), answered 1 1 (.done ()), answered 1 1 (.done ()),
    answered 0 0 (.done ()), answered 1 1 (.refused inFailedTransaction), answered 0 0 (.done ()),
    answered 1 1 (.done ()), answered 1 1 (.done ())]

end Leftovers

theorem isolated_leftovers :
    Isolated ((calls String Unit Unit Unit).finish Unharmed (.initial Leftovers.connections)
        Leftovers.events) ∧
      KeepsSettings (.initial Leftovers.connections)
        ((calls String Unit Unit Unit).finish Unharmed (.initial Leftovers.connections)
          Leftovers.events) := by
  have hready : Leftovers.connections.Ready Session.Idle := by
    intro slot hslot
    have hpooled : slot.place = .pooled ∧ slot.cell.Idle := by
      rcases List.mem_pair.mp hslot with rfl | rfl <;> exact ⟨rfl, rfl⟩
    exact ⟨by simp [hpooled.1], fun _ ↦ hpooled.2⟩
  exact isolated hready .refl (Machine.reaches_finish Leftovers.events)

end Isolation

end PrincipalIsolation

end Karar.Platform.Principal
