import Karar.Foundation.Fallible
import Karar.Foundation.Program

/-!
# Programs whose operations throw

An operation of such a program answers with a value or throws a message, and what throws has changed
nothing (`throwingHandler`). `Throwing` is the body of a `try` block: it stops at the first operation
that throws. `catching` is the whole block.

The rules for `Safe` follow the body: an operation is allowed, a throw meets the postcondition of the
block, and a value goes on with the rest (`safe_ask_bind`).
-/

namespace Karar.Foundation

/-- The body of a `try` block. -/
abbrev Throwing (Op : Type) (Value : Op → Type) :=
  ExceptT String (Program Op fun op ↦ Except String (Value op))

section Throwing

variable {Op : Type} {Value : Op → Type} {Result Other Store Oracle : Type}

/-- One operation of a body. -/
def ask (op : Op) : Throwing Op Value (Value op) :=
  ExceptT.mk (Program.perform op)

/-- What a `catch` makes of the end of a body. -/
def caught (recover : String → Result) : Except String Result → Result
  | .ok result => result
  | .error message => recover message

/-- A `try` block with its `catch`. -/
def catching (body : Throwing Op Value Result) (recover : String → Result) :
    Program Op (fun op ↦ Except String (Value op)) Result := do
  return caught recover (← body.run)

/-- A `try` block inside a body, whose `catch` returns a failure. -/
def trying {Failure : Type} (recover : String → Failure) (body : Throwing Op Value Result) :
    Throwing Op Value (Except Failure Result) :=
  ExceptT.mk do
    let result ← body.run
    return .ok (result.mapError recover)

/-- A component whose operations change the store or throw. What throws leaves the store alone. -/
def throwingHandler (perform : Store → (op : Op) → Oracle → Except String (Store × Value op)) :
    Handler Op (fun op ↦ Except String (Value op)) Store Oracle :=
  fun store op oracle ↦
    match perform store op oracle with
    | .ok (later, value) => some (later, .ok value)
    | .error message => some (store, .error message)

section Handler

variable {perform : Store → (op : Op) → Oracle → Except String (Store × Value op)}
  {store later : Store} {op : Op} {oracle : Oracle}

theorem perform_of_answered {value : Value op}
    (hanswer : throwingHandler perform store op oracle = some (later, .ok value)) :
    perform store op oracle = .ok (later, value) := by
  unfold throwingHandler at hanswer
  split at hanswer
  · rename_i hperform
    obtain ⟨rfl, heq⟩ := Prod.mk.inj (Option.some.inj hanswer)
    rw [hperform, Except.ok.inj heq]
  · cases (Prod.mk.inj (Option.some.inj hanswer)).2

theorem answered_of_perform {value : Value op}
    (hperform : perform store op oracle = .ok (later, value)) :
    throwingHandler perform store op oracle = some (later, .ok value) := by
  unfold throwingHandler
  rw [hperform]

/-- An operation that does not throw is answered. -/
theorem exists_answered {store : Store} (hworks : (perform store op oracle).isOk = true) :
    ∃ later value, throwingHandler perform store op oracle = some (later, .ok value) := by
  cases hperform : perform store op oracle with
  | error message =>
    rw [hperform] at hworks
    cases hworks
  | ok performed => exact ⟨_, _, answered_of_perform hperform⟩

theorem eq_of_thrown {message : String}
    (hanswer : throwingHandler perform store op oracle = some (later, .error message)) :
    later = store := by
  unfold throwingHandler at hanswer
  split at hanswer
  · cases (Prod.mk.inj (Option.some.inj hanswer)).2
  · exact (Prod.mk.inj (Option.some.inj hanswer)).1.symm

end Handler

/-! ### What a body evaluates to -/

section Eval

variable {answer : (op : Op) → Except String (Value op)}

@[simp] theorem eval_ask (op : Op) :
    (ask op : Throwing Op Value (Value op)).run.eval answer = answer op :=
  rfl

@[simp] theorem eval_return (result : Result) :
    (pure result : Throwing Op Value Result).run.eval answer = .ok result :=
  rfl

/-- A body goes on with what its first part returns, or ends where that throws. -/
theorem eval_throwing_bind (first : Throwing Op Value Result)
    (rest : Result → Throwing Op Value Other) :
    (first >>= rest).run.eval answer =
      first.run.eval answer >>= fun result ↦ (rest result).run.eval answer := by
  rw [ExceptT.run_bind, Program.eval_bind]
  cases first.run.eval answer <;> rfl

/-- A body that ends well went through its first part. -/
theorem eval_bind_eq_ok {first : Throwing Op Value Result}
    {rest : Result → Throwing Op Value Other} {result : Other}
    (heval : (first >>= rest).run.eval answer = .ok result) :
    ∃ value, first.run.eval answer = .ok value ∧ (rest value).run.eval answer = .ok result := by
  rw [eval_throwing_bind] at heval
  exact bind_eq_ok heval

theorem eval_bind_of_ok {first : Throwing Op Value Result} {rest : Result → Throwing Op Value Other}
    {value : Result} (hfirst : first.run.eval answer = .ok value) :
    (first >>= rest).run.eval answer = (rest value).run.eval answer := by
  rw [eval_throwing_bind, hfirst]
  rfl

theorem eval_trying {Failure : Type} {recover : String → Failure}
    (body : Throwing Op Value Result) :
    (trying recover body).run.eval answer = .ok ((body.run.eval answer).mapError recover) := by
  unfold trying
  rw [ExceptT.run_mk, Program.eval_bind]
  rfl

end Eval

/-! ### Operations and results of a body -/

theorem uses_ask {kind : Op → Prop} {op : Op} (hkind : kind op) :
    (ask op : Throwing Op Value (Value op)).run.Uses kind :=
  Program.uses_perform hkind

theorem uses_return {kind : Op → Prop} (result : Result) :
    (pure result : Throwing Op Value Result).run.Uses kind :=
  trivial

theorem uses_throwing_bind {kind : Op → Prop} {first : Throwing Op Value Result}
    {rest : Result → Throwing Op Value Other} (hfirst : first.run.Uses kind)
    (hrest : ∀ result, (rest result).run.Uses kind) : (first >>= rest).run.Uses kind := by
  rw [ExceptT.run_bind]
  refine Program.uses_bind hfirst fun result ↦ ?_
  cases result with
  | ok result => exact hrest result
  | error message => trivial

theorem uses_catching {kind : Op → Prop} {body : Throwing Op Value Result}
    {recover : String → Result} (hbody : body.run.Uses kind) :
    (catching body recover).Uses kind := by
  exact Program.uses_bind hbody fun result ↦ trivial

theorem uses_trying {kind : Op → Prop} {Failure : Type} {recover : String → Failure}
    {body : Throwing Op Value Result} (hbody : body.run.Uses kind) :
    (trying recover body).run.Uses kind := by
  exact Program.uses_bind hbody fun result ↦ trivial

/-! ### Safety of a body -/

variable {handler : Handler Op (fun op ↦ Except String (Value op)) Store Oracle}
  {invariant : Store → Prop}
  {allowed : List (Performed Op fun op ↦ Except String (Value op)) → Op → Prop}
  {log : List (Performed Op fun op ↦ Except String (Value op))} {op : Op}

theorem safe_return
    {post : List (Performed Op fun op ↦ Except String (Value op)) → Except String Result → Prop}
    {result : Result} (hpost : post log (.ok result)) :
    Safe handler invariant allowed post log (pure result : Throwing Op Value Result).run :=
  hpost

/-- One operation, then the rest of the body for each value a store of the invariant gives; and the
end of the body where the operation throws. -/
theorem safe_ask_bind
    {post : List (Performed Op fun op ↦ Except String (Value op)) → Except String Other → Prop}
    {rest : Value op → Throwing Op Value Other} (hallowed : allowed log op)
    (hthrown : ∀ store oracle later message, invariant store →
      handler store op oracle = some (later, .error message) →
        post (⟨op, .error message⟩ :: log) (.error message))
    (hrest : ∀ store oracle later value, invariant store →
      handler store op oracle = some (later, .ok value) →
        Safe handler invariant allowed post (⟨op, .ok value⟩ :: log) (rest value).run) :
    Safe handler invariant allowed post log (ask op >>= rest).run := by
  refine ⟨hallowed, fun store oracle later answer hinvariant hanswer ↦ ?_⟩
  cases answer with
  | ok value => exact hrest store oracle later value hinvariant hanswer
  | error message => exact hthrown store oracle later message hinvariant hanswer

/-- The same, where it does not matter what the store was when the operation throws. -/
theorem safe_ask_then
    {post : List (Performed Op fun op ↦ Except String (Value op)) → Except String Other → Prop}
    {rest : Value op → Throwing Op Value Other} (hallowed : allowed log op)
    (hthrown : ∀ message, post (⟨op, .error message⟩ :: log) (.error message))
    (hrest : ∀ store oracle later value, handler store op oracle = some (later, .ok value) →
      Safe handler invariant allowed post (⟨op, .ok value⟩ :: log) (rest value).run) :
    Safe handler invariant allowed post log (ask op >>= rest).run :=
  safe_ask_bind hallowed (fun _ _ _ message _ _ ↦ hthrown message)
    fun store oracle later value _ ↦ hrest store oracle later value

theorem safe_ask
    {post : List (Performed Op fun op ↦ Except String (Value op)) →
      Except String (Value op) → Prop} (hallowed : allowed log op)
    (hanswered : ∀ store oracle later answer, handler store op oracle = some (later, answer) →
      post (⟨op, answer⟩ :: log) answer) :
    Safe handler invariant allowed post log (ask op : Throwing Op Value (Value op)).run :=
  ⟨hallowed, fun store oracle later answer _ ↦ hanswered store oracle later answer⟩

/-- A `try` block in a body, then the rest, which sees what it threw as a failure. -/
theorem safe_trying_bind {Failure : Type} {recover : String → Failure}
    {post : List (Performed Op fun op ↦ Except String (Value op)) → Except String Other → Prop}
    {body : Throwing Op Value Result} {rest : Except Failure Result → Throwing Op Value Other}
    (hbody : Safe handler invariant allowed
      (fun later result ↦ Safe handler invariant allowed post later
        (rest (result.mapError recover)).run) log body.run) :
    Safe handler invariant allowed post log (trying recover body >>= rest).run := by
  rw [ExceptT.run_bind]
  exact safe_bind (safe_bind hbody)

/-- A part of a body with a postcondition of its own, then the rest. -/
theorem safe_throwing_bind
    {middle : List (Performed Op fun op ↦ Except String (Value op)) → Except String Result → Prop}
    {post : List (Performed Op fun op ↦ Except String (Value op)) → Except String Other → Prop}
    {first : Throwing Op Value Result} {rest : Result → Throwing Op Value Other}
    (hfirst : Safe handler invariant allowed middle log first.run)
    (hthrown : ∀ later message, middle later (.error message) → post later (.error message))
    (hrest : ∀ later result, middle later (.ok result) →
      Safe handler invariant allowed post later (rest result).run) :
    Safe handler invariant allowed post log (first >>= rest).run := by
  rw [ExceptT.run_bind]
  refine safe_bind_of hfirst fun later result hmiddle ↦ ?_
  cases result with
  | ok result => exact hrest later result hmiddle
  | error message => exact hthrown later message hmiddle

/-- A `try` block: its postcondition holds of what the body returns, and of what the `catch` makes of
what the body throws. -/
theorem safe_catching
    {post : List (Performed Op fun op ↦ Except String (Value op)) → Result → Prop}
    {body : Throwing Op Value Result} {recover : String → Result}
    (hbody : Safe handler invariant allowed
      (fun later result ↦ post later (caught recover result)) log body.run) :
    Safe handler invariant allowed post log (catching body recover) := by
  exact safe_bind_of hbody fun later result hpost ↦ hpost

end Throwing

end Karar.Foundation
