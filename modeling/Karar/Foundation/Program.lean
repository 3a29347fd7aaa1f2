import Mathlib.Data.List.Basic

/-!
# Programs over typed operations

A program performs operations one after another, each with an answer of its own type, and returns a
result. It is the text of a component that reaches the outside world through ports only; what an
operation does is left to the machine that runs the program.

`Safe` is the proof obligation of one program: in every state of an invariant, every operation it
performs is allowed by what it has performed so far, and every result it returns meets a
postcondition. Its rules follow the constructors of a program (`safe_call_bind`, `safe_bind`), and a
part of a program that only performs operations of a harmless kind is passed over as a whole
(`safe_bind_of_uses`).
-/

namespace Karar.Foundation

/-- A program performs an operation and goes on with its answer, or returns. -/
inductive Program (Op : Type) (Answer : Op → Type) (Result : Type) : Type
  | pure (result : Result)
  | call (op : Op) (next : Answer op → Program Op Answer Result)

namespace Program

variable {Op : Type} {Answer : Op → Type} {Result Other : Type}

def bind : Program Op Answer Result → (Result → Program Op Answer Other) →
    Program Op Answer Other
  | pure result, rest => rest result
  | call op next, rest => call op fun answer ↦ (next answer).bind rest

instance : Monad (Program Op Answer) where
  pure := Program.pure
  bind := Program.bind

/-- The program that performs one operation and returns its answer. -/
def perform (op : Op) : Program Op Answer (Answer op) :=
  call op pure

/-- What a program returns where every operation has one answer. -/
def eval (answer : (op : Op) → Answer op) : Program Op Answer Result → Result
  | pure result => result
  | call op next => (next (answer op)).eval answer

/-- Every operation a program can perform is of a kind. -/
def Uses (kind : Op → Prop) : Program Op Answer Result → Prop
  | pure _ => True
  | call op next => kind op ∧ ∀ answer, (next answer).Uses kind

/-- Every result a program can return is a good one, whatever the answers are. -/
def Returns (good : Result → Prop) : Program Op Answer Result → Prop
  | pure result => good result
  | call _ next => ∀ answer, (next answer).Returns good

@[simp] theorem eval_pure (answer : (op : Op) → Answer op) (result : Result) :
    (Pure.pure result : Program Op Answer Result).eval answer = result :=
  rfl

@[simp] theorem eval_perform (answer : (op : Op) → Answer op) (op : Op) :
    (perform op : Program Op Answer (Answer op)).eval answer = answer op :=
  rfl

@[simp] theorem eval_bind (answer : (op : Op) → Answer op) (first : Program Op Answer Result)
    (rest : Result → Program Op Answer Other) :
    (first >>= rest).eval answer = (rest (first.eval answer)).eval answer := by
  induction first with
  | pure result => rfl
  | call op next ih => exact ih (answer op)

theorem uses_pure {kind : Op → Prop} (result : Result) :
    (Pure.pure result : Program Op Answer Result).Uses kind :=
  trivial

theorem uses_perform {kind : Op → Prop} {op : Op} (hkind : kind op) :
    (perform op : Program Op Answer (Answer op)).Uses kind :=
  ⟨hkind, fun _ ↦ trivial⟩

theorem uses_bind {kind : Op → Prop} {first : Program Op Answer Result}
    {rest : Result → Program Op Answer Other} (hfirst : first.Uses kind)
    (hrest : ∀ result, (rest result).Uses kind) : (first >>= rest).Uses kind := by
  induction first with
  | pure result => exact hrest result
  | call op next ih => exact ⟨hfirst.1, fun answer ↦ ih answer (hfirst.2 answer)⟩

theorem uses_true (program : Program Op Answer Result) : program.Uses fun _ ↦ True := by
  induction program with
  | pure result => trivial
  | call op next ih => exact ⟨trivial, ih⟩

theorem returns_true (program : Program Op Answer Result) : program.Returns fun _ ↦ True := by
  induction program with
  | pure result => trivial
  | call op next ih => exact ih

/-- What every continuation returns is good, whatever comes first. -/
theorem returns_bind {good : Other → Prop} {first : Program Op Answer Result}
    {rest : Result → Program Op Answer Other} (hrest : ∀ result, (rest result).Returns good) :
    (first >>= rest).Returns good := by
  induction first with
  | pure result => exact hrest result
  | call op next ih => exact ih

theorem Returns.bind {middle : Result → Prop} {good : Other → Prop}
    {first : Program Op Answer Result} {rest : Result → Program Op Answer Other}
    (hfirst : first.Returns middle) (hrest : ∀ result, middle result → (rest result).Returns good) :
    (first >>= rest).Returns good := by
  induction first with
  | pure result => exact hrest result hfirst
  | call op next ih => exact fun answer ↦ ih answer (hfirst answer)

/-- A program that branches, whatever it branches on. -/
theorem uses_ite {kind : Op → Prop} {condition : Prop} [Decidable condition]
    {first second : Program Op Answer Result} (hfirst : first.Uses kind)
    (hsecond : second.Uses kind) : (if condition then first else second).Uses kind := by
  split
  · exact hfirst
  · exact hsecond

theorem returns_ite {good : Result → Prop} {condition : Prop} [Decidable condition]
    {first second : Program Op Answer Result} (hfirst : first.Returns good)
    (hsecond : second.Returns good) : (if condition then first else second).Returns good := by
  split
  · exact hfirst
  · exact hsecond

theorem Uses.mono {kind wider : Op → Prop} (hwider : ∀ op, kind op → wider op)
    {program : Program Op Answer Result} (huses : program.Uses kind) : program.Uses wider := by
  induction program with
  | pure result => trivial
  | call op next ih => exact ⟨hwider op huses.1, fun answer ↦ ih answer (huses.2 answer)⟩

end Program

/-! ### Safety of one program -/

/-- An operation and the answer it got. -/
abbrev Performed (Op : Type) (Answer : Op → Type) := (op : Op) × Answer op

section Safe

variable {Op : Type} {Answer : Op → Type} {Result Other Store Oracle : Type}

/-- How the surroundings answer an operation in a store: with a new store and an answer, or the
operation throws and leaves the store alone. -/
abbrev Handler (Op : Type) (Answer : Op → Type) (Store Oracle : Type) :=
  Store → (op : Op) → Oracle → Option (Store × Answer op)

/-- In stores of an invariant the program performs allowed operations only and returns results of
the postcondition. Both may refer to what was performed before, latest first. -/
def Safe (handler : Handler Op Answer Store Oracle) (invariant : Store → Prop)
    (allowed : List (Performed Op Answer) → Op → Prop)
    (post : List (Performed Op Answer) → Result → Prop) :
    List (Performed Op Answer) → Program Op Answer Result → Prop
  | log, .pure result => post log result
  | log, .call op next =>
    allowed log op ∧ ∀ store oracle later answer, invariant store →
      handler store op oracle = some (later, answer) →
        Safe handler invariant allowed post (⟨op, answer⟩ :: log) (next answer)

variable {handler : Handler Op Answer Store Oracle} {invariant : Store → Prop}
  {allowed : List (Performed Op Answer) → Op → Prop}

theorem safe_pure {post : List (Performed Op Answer) → Result → Prop}
    {log : List (Performed Op Answer)} {result : Result} (hpost : post log result) :
    Safe handler invariant allowed post log (Pure.pure result) :=
  hpost

theorem safe_bind {post : List (Performed Op Answer) → Other → Prop}
    {log : List (Performed Op Answer)} {first : Program Op Answer Result}
    {rest : Result → Program Op Answer Other}
    (hfirst : Safe handler invariant allowed
      (fun log result ↦ Safe handler invariant allowed post log (rest result)) log first) :
    Safe handler invariant allowed post log (first >>= rest) := by
  induction first generalizing log with
  | pure result => exact hfirst
  | call op next ih =>
    refine ⟨hfirst.1, fun store oracle later answer hinvariant hanswer ↦ ?_⟩
    exact ih answer (hfirst.2 store oracle later answer hinvariant hanswer)

/-- One operation, then the rest of the program for each answer a store of the invariant gives. -/
theorem safe_call_bind {post : List (Performed Op Answer) → Other → Prop}
    {log : List (Performed Op Answer)} {op : Op} {rest : Answer op → Program Op Answer Other}
    (hallowed : allowed log op)
    (hrest : ∀ store oracle later answer, invariant store →
      handler store op oracle = some (later, answer) →
        Safe handler invariant allowed post (⟨op, answer⟩ :: log) (rest answer)) :
    Safe handler invariant allowed post log (Program.perform op >>= rest) :=
  ⟨hallowed, hrest⟩

/-- One operation, then the rest of the program for any answer at all. -/
theorem safe_any_bind {post : List (Performed Op Answer) → Other → Prop}
    {log : List (Performed Op Answer)} {op : Op} {rest : Answer op → Program Op Answer Other}
    (hallowed : allowed log op)
    (hrest : ∀ answer, Safe handler invariant allowed post (⟨op, answer⟩ :: log) (rest answer)) :
    Safe handler invariant allowed post log (Program.perform op >>= rest) :=
  ⟨hallowed, fun _ _ _ answer _ _ ↦ hrest answer⟩

theorem Safe.mono {post weaker : List (Performed Op Answer) → Result → Prop}
    (hweaker : ∀ log result, post log result → weaker log result)
    {log : List (Performed Op Answer)} {program : Program Op Answer Result}
    (hsafe : Safe handler invariant allowed post log program) :
    Safe handler invariant allowed weaker log program := by
  induction program generalizing log with
  | pure result => exact hweaker log result hsafe
  | call op next ih =>
    refine ⟨hsafe.1, fun store oracle later answer hinvariant hanswer ↦ ?_⟩
    exact ih answer (hsafe.2 store oracle later answer hinvariant hanswer)

/-- A program that branches on a condition, which each branch may use. -/
theorem safe_ite {post : List (Performed Op Answer) → Result → Prop}
    {log : List (Performed Op Answer)} {condition : Prop} [Decidable condition]
    {first second : Program Op Answer Result}
    (hfirst : condition → Safe handler invariant allowed post log first)
    (hsecond : ¬ condition → Safe handler invariant allowed post log second) :
    Safe handler invariant allowed post log (if condition then first else second) := by
  split
  · exact hfirst ‹_›
  · exact hsecond ‹_›

/-- A part of a program with a postcondition of its own, then the rest. -/
theorem safe_bind_of {middle : List (Performed Op Answer) → Result → Prop}
    {post : List (Performed Op Answer) → Other → Prop} {log : List (Performed Op Answer)}
    {first : Program Op Answer Result} {rest : Result → Program Op Answer Other}
    (hfirst : Safe handler invariant allowed middle log first)
    (hrest : ∀ later result, middle later result →
      Safe handler invariant allowed post later (rest result)) :
    Safe handler invariant allowed post log (first >>= rest) :=
  safe_bind (hfirst.mono hrest)

/-- A program that performs operations of a kind only extends what was performed by operations of
that kind. Assumes: operations of the kind are always allowed. -/
theorem safe_of_uses {kind : Op → Prop} (hkind : ∀ log op, kind op → allowed log op)
    {log : List (Performed Op Answer)} {program : Program Op Answer Result}
    (huses : program.Uses kind) :
    Safe handler invariant allowed
      (fun later _ ↦ ∃ extra, later = extra ++ log ∧ ∀ performed ∈ extra, kind performed.1)
      log program := by
  induction program generalizing log with
  | pure result => exact ⟨[], rfl, by simp⟩
  | call op next ih =>
    refine ⟨hkind log op huses.1, fun store oracle later answer _ _ ↦ ?_⟩
    refine (ih answer (huses.2 answer)).mono fun longer result hlonger ↦ ?_
    obtain ⟨extra, rfl, hextra⟩ := hlonger
    refine ⟨extra ++ [⟨op, answer⟩], by simp, fun performed hperformed ↦ ?_⟩
    rcases List.mem_append.mp hperformed with hearly | hlast
    · exact hextra performed hearly
    · rw [List.mem_singleton.mp hlast]
      exact huses.1

/-- A harmless part of a program is passed over. Assumes: it performs operations of a kind that is
always allowed. -/
theorem safe_bind_of_uses {kind : Op → Prop} (hkind : ∀ log op, kind op → allowed log op)
    {post : List (Performed Op Answer) → Other → Prop} {log : List (Performed Op Answer)}
    {first : Program Op Answer Result} {rest : Result → Program Op Answer Other}
    (huses : first.Uses kind)
    (hrest : ∀ extra result, (∀ performed ∈ extra, kind performed.1) →
      Safe handler invariant allowed post (extra ++ log) (rest result)) :
    Safe handler invariant allowed post log (first >>= rest) := by
  refine safe_bind ((safe_of_uses hkind huses).mono fun longer result hlonger ↦ ?_)
  obtain ⟨extra, rfl, hextra⟩ := hlonger
  exact hrest extra result hextra

end Safe

end Karar.Foundation
