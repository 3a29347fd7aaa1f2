import Karar.Foundation.Throwing

/-!
# Programs in larger programs

A component performs operations that another component carries out by a program of its own.
`Program.substitute` puts these programs in the place of the operations. What is sequential before is so
afterwards (`substitute_bind`), so that a rule for each part of a program is a rule for it after the
substitution.

A component with operations of its own runs inside the `try` block of a larger one. `embed` is its
program as part of that body: each operation is one of the larger component, and the program stops
where one of them throws. The rules for `Safe` follow the program that is embedded, so that what is
known of its parts (`Program.Uses`) passes over to the body.
-/

namespace Karar.Foundation

/-! ## Programs in the place of operations -/

namespace Program

variable {Op Wider : Type} {Answer : Op → Type} {Value : Wider → Type} {Result Other : Type}

def substitute (into : ∀ op, Program Wider Value (Answer op)) :
    Program Op Answer Result → Program Wider Value Result
  | pure result => pure result
  | call op next => (into op).bind fun answer ↦ (next answer).substitute into

variable {into : ∀ op, Program Wider Value (Answer op)}

theorem bind_assoc {Last : Type} (program : Program Wider Value Result)
    (second : Result → Program Wider Value Other) (third : Other → Program Wider Value Last) :
    (program.bind second).bind third = program.bind fun result ↦ (second result).bind third := by
  induction program with
  | pure result => rfl
  | call op next ih => exact congrArg (call op) (funext ih)

theorem substitute_bind (first : Program Op Answer Result) (rest : Result → Program Op Answer Other) :
    (first >>= rest).substitute into =
      first.substitute into >>= fun result ↦ (rest result).substitute into := by
  induction first with
  | pure result => rfl
  | call op next ih =>
    show (into op).bind (fun answer ↦ ((next answer).bind rest).substitute into) = _
    rw [show (fun answer ↦ ((next answer).bind rest).substitute into) = fun answer ↦
      ((next answer).substitute into).bind fun result ↦ (rest result).substitute into from funext ih]
    exact (bind_assoc _ _ _).symm

/-- An operation, then the rest. -/
theorem substitute_perform_bind (op : Op) (rest : Answer op → Program Op Answer Result) :
    (perform op >>= rest).substitute into =
      into op >>= fun answer ↦ (rest answer).substitute into :=
  rfl

theorem substitute_ite {condition : Prop} [Decidable condition] (first second : Program Op Answer Result) :
    (if condition then first else second).substitute into =
      if condition then first.substitute into else second.substitute into :=
  apply_ite _ condition first second

/-- The operations after a substitution are those of the programs put in. -/
theorem uses_substitute {kind : Op → Prop} {wider : Wider → Prop} {program : Program Op Answer Result}
    (huses : program.Uses kind) (hinto : ∀ op, kind op → (into op).Uses wider) :
    (program.substitute into).Uses wider := by
  induction program with
  | pure result => trivial
  | call op next ih => exact uses_bind (hinto op huses.1) fun answer ↦ ih answer (huses.2 answer)

end Program

/-! ## Programs inside a larger `try` block -/

section Embedding

variable {Op Wider : Type} {Answer : Op → Type} {Value : Wider → Type}
  {Result Other Store Oracle : Type}

/-- A program as part of the body of a `try` block. -/
def embed (into : Op → Wider) (read : ∀ op, Value (into op) → Answer op) :
    Program Op Answer Result → Throwing Wider Value Result
  | .pure result => pure result
  | .call op next => ask (into op) >>= fun value ↦ embed into read (next (read op value))

/-- The operation threw. -/
def threw (performed : Performed Wider fun op ↦ Except String (Value op)) : Bool :=
  match performed.2 with
  | .ok _ => false
  | .error _ => true

variable {into : Op → Wider} {read : ∀ op, Value (into op) → Answer op}
  {handler : Handler Wider (fun op ↦ Except String (Value op)) Store Oracle}
  {invariant : Store → Prop}
  {allowed : List (Performed Wider fun op ↦ Except String (Value op)) → Wider → Prop}
  {log : List (Performed Wider fun op ↦ Except String (Value op))}

/-- One operation of the embedded program, then its rest. -/
theorem safe_embed_call_bind
    {post : List (Performed Wider fun op ↦ Except String (Value op)) → Except String Other → Prop}
    {op : Op} {rest : Answer op → Program Op Answer Other} (hallowed : allowed log (into op))
    (hthrown : ∀ store oracle later message, invariant store →
      handler store (into op) oracle = some (later, .error message) →
        post (⟨into op, .error message⟩ :: log) (.error message))
    (hrest : ∀ store oracle later value, invariant store →
      handler store (into op) oracle = some (later, .ok value) →
        Safe handler invariant allowed post (⟨into op, .ok value⟩ :: log)
          (embed into read (rest (read op value))).run) :
    Safe handler invariant allowed post log
      (embed into read (Program.perform op >>= rest)).run :=
  safe_ask_bind hallowed hthrown hrest

/-- A part of the embedded program with a postcondition of its own, then the rest. -/
theorem safe_embed_bind
    {middle : List (Performed Wider fun op ↦ Except String (Value op)) → Except String Result →
      Prop}
    {post : List (Performed Wider fun op ↦ Except String (Value op)) → Except String Other → Prop}
    {first : Program Op Answer Result} {rest : Result → Program Op Answer Other}
    (hfirst : Safe handler invariant allowed middle log (embed into read first).run)
    (hthrown : ∀ later message, middle later (.error message) → post later (.error message))
    (hrest : ∀ later result, middle later (.ok result) →
      Safe handler invariant allowed post later (embed into read (rest result)).run) :
    Safe handler invariant allowed post log (embed into read (first >>= rest)).run := by
  induction first generalizing log with
  | pure result => exact hrest log result hfirst
  | call op next ih =>
    refine ⟨hfirst.1, fun store oracle later answer hinvariant hanswer ↦ ?_⟩
    have hnext := hfirst.2 store oracle later answer hinvariant hanswer
    cases answer with
    | ok value => exact ih (read op value) hnext
    | error message => exact hthrown _ message hnext

/-- What a harmless part adds to what was performed: operations of a kind. Its value is a good one,
and it throws only where one of them has thrown. -/
def Passes (into : Op → Wider) (kind : Op → Prop) (good : Result → Prop)
    (log later : List (Performed Wider fun op ↦ Except String (Value op)))
    (result : Except String Result) : Prop :=
  ∃ extra, later = extra ++ log ∧
    (∀ performed ∈ extra, ∃ op, kind op ∧ performed.1 = into op) ∧
    match result with
    | .ok value => good value
    | .error _ => ∃ performed ∈ extra, threw performed = true

/-- An embedded program that performs operations of a kind only and returns a good value. Assumes:
operations of the kind are always allowed. -/
theorem safe_embed_of_uses {kind : Op → Prop} (hkind : ∀ log op, kind op → allowed log (into op))
    {good : Result → Prop} {program : Program Op Answer Result} (huses : program.Uses kind)
    (hreturns : program.Returns good) :
    Safe handler invariant allowed (Passes into kind good log) log
      (embed into read program).run := by
  induction program generalizing log with
  | pure result => exact ⟨[], rfl, by simp, hreturns⟩
  | call op next ih =>
    refine ⟨hkind log op huses.1, fun store oracle later answer _ _ ↦ ?_⟩
    cases answer with
    | error message =>
      refine ⟨[⟨into op, .error message⟩], rfl, ?_, ⟨_, List.mem_singleton_self _, rfl⟩⟩
      simpa using ⟨op, huses.1, rfl⟩
    | ok value =>
      refine (ih (read op value) (huses.2 _) (hreturns _)).mono fun longer result hlonger ↦ ?_
      obtain ⟨extra, rfl, hextra, hresult⟩ := hlonger
      refine ⟨extra ++ [⟨into op, .ok value⟩], by simp, fun performed hperformed ↦ ?_, ?_⟩
      · rcases List.mem_append.mp hperformed with hearly | hlast
        · exact hextra performed hearly
        · rw [List.mem_singleton.mp hlast]
          exact ⟨op, huses.1, rfl⟩
      · cases result with
        | ok result => exact hresult
        | error message =>
          obtain ⟨performed, hperformed, hthrew⟩ := hresult
          exact ⟨performed, List.mem_append_left _ hperformed, hthrew⟩

end Embedding

end Karar.Foundation
