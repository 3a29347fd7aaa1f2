import Karar.Foundation.EventLoop
import Karar.Foundation.Run

/-!
# Calls that a crash may cut short

Calls one after another, each a task that runs on its own. A crash may come between two calls, and
wherever a task awaits an operation: the call is lost and so is the memory, and the world keeps what
it has.

`Keeps` is the proof obligation of one task: at every await the world can be crashed into, and at its
end a postcondition holds. `Reaches.keeps` carries an invariant along a run. What the log tells is
said with `Since`: something has happened, and nothing since then that ends it.
-/

namespace Karar.Foundation.CrashRun

open EventLoop

variable {Memory World Act Op : Type} {Answer : Op → Type}
  {Oracle Request Reply Result Other : Type}

/-- What is logged, latest first. -/
inductive Deed (World : Type) {Op : Type} (Answer : Op → Type) (Request Reply : Type) : Type
  | called (request : Request) (before : World)
  | did (op : Op) (answer : Answer op)
  | returned (request : Request) (reply : Reply) (after : World)
  | crashed

/-- What an assignment does to the memory, how the world answers an operation, the tasks of the
calls, and the memory of a process that has just started. -/
structure Machine (Memory World Act : Type) {Op : Type} (Answer : Op → Type)
    (Oracle Request Reply : Type) where
  perform : Act → Memory → Memory
  handler : World → (op : Op) → Oracle → Option (World × Answer op)
  task : Request → Task Memory Act Answer Reply
  boot : Memory

/-- A call under way, which awaits an operation. -/
structure Awaiting (Memory Act : Type) {Op : Type} (Answer : Op → Type) (Request Reply : Type) :
    Type where
  request : Request
  op : Op
  next : Answer op → Task Memory Act Answer Reply

structure State (Memory World Act : Type) {Op : Type} (Answer : Op → Type) (Request Reply : Type) :
    Type where
  memory : Memory
  world : World
  running : Option (Awaiting Memory Act Answer Request Reply)
  log : List (Deed World Answer Request Reply)

inductive Event (Oracle Request : Type) : Type
  | call (request : Request)
  | answer (oracle : Oracle)
  | crash
deriving DecidableEq

/-! ### Steps -/

namespace Machine

variable (machine : Machine Memory World Act Answer Oracle Request Reply)

/-- A process that has just started. -/
def launched (world : World) : State Memory World Act Answer Request Reply :=
  ⟨machine.boot, world, none, []⟩

/-- A call runs to its next await, or to its end. -/
def goOn (request : Request) : Task Memory Act Answer Reply → Memory → World →
    List (Deed World Answer Request Reply) → State Memory World Act Answer Request Reply
  | .pure reply, m, w, log => ⟨m, w, none, .returned request reply w :: log⟩
  | .call .look next, m, w, log => goOn request (next m) m w log
  | .call (.act assignment) next, m, w, log =>
    goOn request (next ()) (machine.perform assignment m) w log
  | .call (.await op) next, m, w, log => ⟨m, w, some ⟨request, op, next⟩, log⟩

/-- One event. `none` means that the event is not possible. -/
def step (s : State Memory World Act Answer Request Reply) :
    Event Oracle Request → Option (State Memory World Act Answer Request Reply)
  | .call request =>
    match s.running with
    | some _ => none
    | none =>
      some (machine.goOn request (machine.task request) s.memory s.world
        (.called request s.world :: s.log))
  | .answer oracle =>
    match s.running with
    | none => none
    | some call =>
      (machine.handler s.world call.op oracle).map fun (world, answer) ↦
        machine.goOn call.request (call.next answer) s.memory world (.did call.op answer :: s.log)
  | .crash => some ⟨machine.boot, s.world, none, .crashed :: s.log⟩

end Machine

/-! ### The proof obligation of one task -/

section Keeps

variable {machine : Machine Memory World Act Answer Oracle Request Reply}
  {crashes : World → List (Deed World Answer Request Reply) → Prop} {m : Memory} {w : World}
  {log : List (Deed World Answer Request Reply)}

/-- At every await a crash finds the world and the log in order, and at the end a postcondition
holds. -/
def Keeps (machine : Machine Memory World Act Answer Oracle Request Reply)
    (crashes : World → List (Deed World Answer Request Reply) → Prop)
    (post : Result → Memory → World → List (Deed World Answer Request Reply) → Prop) :
    Task Memory Act Answer Result → Memory → World → List (Deed World Answer Request Reply) → Prop
  | .pure result, m, w, log => post result m w log
  | .call .look next, m, w, log => Keeps machine crashes post (next m) m w log
  | .call (.act assignment) next, m, w, log =>
    Keeps machine crashes post (next ()) (machine.perform assignment m) w log
  | .call (.await op) next, m, w, log =>
    crashes w log ∧ ∀ oracle later answer, machine.handler w op oracle = some (later, answer) →
      Keeps machine crashes post (next answer) m later (.did op answer :: log)

variable {post : Result → Memory → World → List (Deed World Answer Request Reply) → Prop}

theorem keeps_pure {result : Result} (hpost : post result m w log) :
    Keeps machine crashes post (pure result : Task Memory Act Answer Result) m w log :=
  hpost

theorem keeps_look_bind {rest : Memory → Task Memory Act Answer Result}
    (hrest : Keeps machine crashes post (rest m) m w log) :
    Keeps machine crashes post (look >>= rest) m w log :=
  hrest

theorem keeps_act_bind {assignment : Act} {rest : Unit → Task Memory Act Answer Result}
    (hrest : Keeps machine crashes post (rest ()) (machine.perform assignment m) w log) :
    Keeps machine crashes post (act assignment >>= rest) m w log :=
  hrest

theorem keeps_await_bind {op : Op} {rest : Answer op → Task Memory Act Answer Result}
    (hcrashes : crashes w log)
    (hrest : ∀ oracle later answer, machine.handler w op oracle = some (later, answer) →
      Keeps machine crashes post (rest answer) m later (.did op answer :: log)) :
    Keeps machine crashes post (await op >>= rest) m w log :=
  ⟨hcrashes, hrest⟩

theorem Keeps.mono {weaker : Result → Memory → World → List (Deed World Answer Request Reply) → Prop}
    {task : Task Memory Act Answer Result} (hkeeps : Keeps machine crashes post task m w log)
    (hweaker : ∀ result m w log, post result m w log → weaker result m w log) :
    Keeps machine crashes weaker task m w log := by
  induction task generalizing m w log with
  | pure result => exact hweaker result m w log hkeeps
  | call instruction next ih =>
    cases instruction with
    | look => exact ih m hkeeps
    | act assignment => exact ih () hkeeps
    | await op =>
      refine ⟨hkeeps.1, fun oracle later answer hanswer ↦ ?_⟩
      exact ih answer (hkeeps.2 oracle later answer hanswer)

/-- A part of a task, then the rest from wherever the part ends. -/
theorem keeps_bind
    {middle : Other → Memory → World → List (Deed World Answer Request Reply) → Prop}
    {first : Task Memory Act Answer Other} {rest : Other → Task Memory Act Answer Result}
    (hfirst : Keeps machine crashes middle first m w log)
    (hrest : ∀ result m w log, middle result m w log →
      Keeps machine crashes post (rest result) m w log) :
    Keeps machine crashes post (first >>= rest) m w log := by
  induction first generalizing m w log with
  | pure result => exact hrest result m w log hfirst
  | call instruction next ih =>
    cases instruction with
    | look => exact ih m hfirst
    | act assignment => exact ih () hfirst
    | await op =>
      refine ⟨hfirst.1, fun oracle later answer hanswer ↦ ?_⟩
      exact ih answer (hfirst.2 oracle later answer hanswer)

end Keeps

/-! ### Runs -/

section Runs

variable {machine : Machine Memory World Act Answer Oracle Request Reply}
  {idle : Memory → World → List (Deed World Answer Request Reply) → Prop}
  {s : State Memory World Act Answer Request Reply}

/-- A call, from where it is: a crash restores what holds between two calls, and so does its end. -/
abbrev Runs (machine : Machine Memory World Act Answer Oracle Request Reply)
    (idle : Memory → World → List (Deed World Answer Request Reply) → Prop) (request : Request) :
    Task Memory Act Answer Reply → Memory → World → List (Deed World Answer Request Reply) → Prop :=
  Keeps machine (fun w log ↦ idle machine.boot w (.crashed :: log))
    fun reply m w log ↦ idle m w (.returned request reply w :: log)

/-- What holds of a state along a run: the invariant between two calls, and the obligation of the
call under way. -/
def Kept (machine : Machine Memory World Act Answer Oracle Request Reply)
    (idle : Memory → World → List (Deed World Answer Request Reply) → Prop)
    (s : State Memory World Act Answer Request Reply) : Prop :=
  match s.running with
  | none => idle s.memory s.world s.log
  | some call =>
    Runs machine idle call.request (.call (.await call.op) call.next) s.memory s.world s.log

theorem kept_goOn {request : Request} {task : Task Memory Act Answer Reply} {m : Memory} {w : World}
    {log : List (Deed World Answer Request Reply)}
    (hruns : Runs machine idle request task m w log) :
    Kept machine idle (machine.goOn request task m w log) := by
  induction task generalizing m with
  | pure reply => exact hruns
  | call instruction next ih =>
    cases instruction with
    | look => exact ih m hruns
    | act assignment => exact ih () hruns
    | await op => exact hruns

/-- Assumes: between two calls an invariant holds, at the start and after a crash, and every call
runs from it. -/
theorem Reaches.keeps {world : World} {condition : State Memory World Act Answer Request Reply →
      Event Oracle Request → Prop}
    (hreaches : Schedule.Reaches machine.step condition (machine.launched world) s)
    (hinitial : idle machine.boot world [])
    (hcrash : ∀ m w log, idle m w log → idle machine.boot w (.crashed :: log))
    (hcall : ∀ request m w log, idle m w log →
      Runs machine idle request (machine.task request) m w (.called request w :: log)) :
    Kept machine idle s := by
  refine Schedule.Reaches.keeps hreaches hinitial ?_
  intro s event later hkept _ hstep
  obtain ⟨m, w, running, log⟩ := s
  match event, running, hkept, hstep with
  | .call request, none, hkept, hstep =>
    exact Option.some.inj hstep ▸ kept_goOn (hcall request m w log hkept)
  | .call request, some call, _, hstep => cases hstep
  | .answer oracle, none, _, hstep => cases hstep
  | .answer oracle, some call, hkept, hstep =>
    obtain ⟨⟨world, answer⟩, hanswer, rfl⟩ := Option.map_eq_some_iff.mp hstep
    exact kept_goOn (hkept.2 oracle world answer hanswer)
  | .crash, none, hkept, hstep => exact Option.some.inj hstep ▸ hcrash m w log hkept
  | .crash, some call, hkept, hstep => exact Option.some.inj hstep ▸ hkept.1

/-- What holds of the log between two calls, and may only be lost with its latest entry, holds of it
always. -/
theorem Kept.log_of_idle (hkept : Kept machine idle s)
    {good : List (Deed World Answer Request Reply) → Prop}
    (hidle : ∀ m w log, idle m w log → good log)
    (hcrashed : ∀ log, good (.crashed :: log) → good log) : good s.log := by
  unfold Kept at hkept
  split at hkept
  · exact hidle _ _ _ hkept
  · exact hcrashed _ (hidle _ _ _ hkept.1)

end Runs

/-! ### What the log tells -/

section Since

variable {Entry : Type} {ends : Entry → Prop} {happens : Entry → List Entry → Prop} {entry : Entry}
  {older : List Entry}

/-- Something has happened, and nothing since then that ends it. -/
def Since (ends : Entry → Prop) (happens : Entry → List Entry → Prop) : List Entry → Prop
  | [] => False
  | entry :: older => happens entry older ∨ ¬ ends entry ∧ Since ends happens older

theorem since_cons :
    Since ends happens (entry :: older) ↔
      happens entry older ∨ ¬ ends entry ∧ Since ends happens older :=
  Iff.rfl

end Since

end Karar.Foundation.CrashRun
