import Karar.Foundation.Throwing

/-!
# Runs of programs by themselves

`Program.transcript` performs a program whose operations are answered by an oracle. The oracle sees
what was performed before, so it stands for any surroundings at all. The transcript is finite, and
comes with the result: a program ends whatever the answers are. What `Safe` proves of a program holds
of each transcript (`transcript_of_safe`): every operation in it was allowed by those before it
(`EachAllowed`).

`RunsAlone` relates a store and a program to the end of a run that nobody else takes part in: what
was performed, oldest first, the store it leaves and the result. Its rules take a run of a compound
program apart (`runsAlone_bind_iff`, `runsAlone_perform_bind_iff`).

`Serves` is such a run where an operation may throw, which ends the call without a result; each
operation performed comes with the store it left. `Sequence` is a list of such calls, each from the
store that the one before it left.
-/

namespace Karar.Foundation

/-! ## What a program performs -/

section Transcript

variable {Op : Type} {Answer : Op → Type} {Result : Type}

/-- What a program performs, latest first, after what was performed before, and what it returns. -/
def Program.transcript (oracle : List (Performed Op Answer) → (op : Op) → Answer op) :
    List (Performed Op Answer) → Program Op Answer Result → List (Performed Op Answer) × Result
  | log, .pure result => (log, result)
  | log, .call op next => (next (oracle log op)).transcript oracle (⟨op, oracle log op⟩ :: log)

/-- Surroundings that may give any answer. -/
def anyAnswer : Handler Op Answer Unit ((op : Op) → Answer op) := fun _ op oracle ↦ some ((), oracle op)

/-- Every operation was allowed by those before it. -/
def EachAllowed (allowed : List (Performed Op Answer) → Op → Prop) :
    List (Performed Op Answer) → Prop
  | [] => True
  | performed :: before => allowed before performed.1 ∧ EachAllowed allowed before

variable {allowed : List (Performed Op Answer) → Op → Prop}

theorem EachAllowed.before {later before : List (Performed Op Answer)}
    (hall : EachAllowed allowed (later ++ before)) : EachAllowed allowed before := by
  induction later with
  | nil => exact hall
  | cons performed later ih => exact ih hall.2

/-- The operation at any place of a transcript was allowed by what stands below it. -/
theorem EachAllowed.at {later before : List (Performed Op Answer)} {op : Op} {answer : Answer op}
    (hall : EachAllowed allowed (later ++ ⟨op, answer⟩ :: before)) : allowed before op :=
  hall.before.1

theorem transcript_of_safe {post : List (Performed Op Answer) → Result → Prop}
    (oracle : List (Performed Op Answer) → (op : Op) → Answer op)
    {log : List (Performed Op Answer)} {program : Program Op Answer Result}
    (hsafe : Safe anyAnswer (fun _ ↦ True) allowed post log program)
    (hlog : EachAllowed allowed log) :
    EachAllowed allowed (program.transcript oracle log).1 ∧
      post (program.transcript oracle log).1 (program.transcript oracle log).2 := by
  induction program generalizing log with
  | pure result => exact ⟨hlog, hsafe⟩
  | call op next ih =>
    have hnext := hsafe.2 () (oracle log) () (oracle log op) trivial rfl
    exact ih (oracle log op) hnext ⟨hsafe.1, hlog⟩

end Transcript

/-! ## A program that runs alone -/

section SoleRun

variable {Op : Type} {Answer : Op → Type} {Store Oracle Result Other : Type}

inductive RunsAlone (handler : Handler Op Answer Store Oracle) :
    Store → Program Op Answer Result → List (Performed Op Answer) → Store → Result → Prop
  | pure {store : Store} {result : Result} : RunsAlone handler store (.pure result) [] store result
  | call {store later final : Store} {op : Op} {oracle : Oracle} {answer : Answer op}
      {next : Answer op → Program Op Answer Result} {log : List (Performed Op Answer)}
      {result : Result} (hanswer : handler store op oracle = some (later, answer))
      (hrest : RunsAlone handler later (next answer) log final result) :
    RunsAlone handler store (.call op next) (⟨op, answer⟩ :: log) final result

variable {handler : Handler Op Answer Store Oracle} {store final : Store}
  {log : List (Performed Op Answer)}

theorem runsAlone_pure_iff {result expected : Result} :
    RunsAlone handler store (Pure.pure expected) log final result ↔
      log = [] ∧ final = store ∧ result = expected := by
  constructor
  · intro hruns
    cases hruns
    exact ⟨rfl, rfl, rfl⟩
  · rintro ⟨rfl, rfl, rfl⟩
    exact .pure

/-- The first operation, and the run of the rest. -/
theorem runsAlone_perform_bind_iff {op : Op} {rest : Answer op → Program Op Answer Result}
    {result : Result} :
    RunsAlone handler store (Program.perform op >>= rest) log final result ↔
      ∃ oracle later answer remaining, handler store op oracle = some (later, answer) ∧
        log = ⟨op, answer⟩ :: remaining ∧
        RunsAlone handler later (rest answer) remaining final result := by
  constructor
  · intro hruns
    cases hruns with
    | call hanswer hrest => exact ⟨_, _, _, _, hanswer, rfl, hrest⟩
  · rintro ⟨oracle, later, answer, remaining, hanswer, rfl, hrest⟩
    exact .call hanswer hrest

/-- A run of two programs, one after the other. -/
theorem runsAlone_bind_iff {first : Program Op Answer Other}
    {rest : Other → Program Op Answer Result} {result : Result} :
    RunsAlone handler store (first >>= rest) log final result ↔
      ∃ early middle value late, RunsAlone handler store first early middle value ∧
        RunsAlone handler middle (rest value) late final result ∧ log = early ++ late := by
  induction first generalizing store log with
  | pure value =>
    constructor
    · exact fun hruns ↦ ⟨[], store, value, log, .pure, hruns, rfl⟩
    · rintro ⟨early, middle, other, late, hfirst, hrest, rfl⟩
      cases hfirst
      exact hrest
  | call op next ih =>
    constructor
    · intro hruns
      cases hruns with
      | call hanswer hrest =>
        obtain ⟨early, middle, value, late, hfirst, hlate, rfl⟩ := (ih _).mp hrest
        exact ⟨_, middle, value, late, .call hanswer hfirst, hlate, rfl⟩
    · rintro ⟨early, middle, value, late, hfirst, hlate, rfl⟩
      cases hfirst with
      | call hanswer hrest =>
        exact .call hanswer ((ih _).mpr ⟨_, middle, value, late, hrest, hlate, rfl⟩)

/-- A run with given oracles, one for each operation, if they suffice. -/
def runAlone (handler : Handler Op Answer Store Oracle) :
    Store → Program Op Answer Result → List Oracle →
      Option (List (Performed Op Answer) × Store × Result)
  | store, .pure result, _ => some ([], store, result)
  | _, .call _ _, [] => none
  | store, .call op next, oracle :: oracles =>
    match handler store op oracle with
    | none => none
    | some (later, answer) =>
      (runAlone handler later (next answer) oracles).map fun (log, final, result) ↦
        (⟨op, answer⟩ :: log, final, result)

theorem runsAlone_of_runAlone {program : Program Op Answer Result} {oracles : List Oracle}
    {result : Result} (hruns : runAlone handler store program oracles = some (log, final, result)) :
    RunsAlone handler store program log final result := by
  induction program generalizing store log oracles with
  | pure value =>
    obtain ⟨rfl, heq⟩ := Prod.mk.inj (Option.some.inj hruns)
    obtain ⟨rfl, rfl⟩ := Prod.mk.inj heq
    exact .pure
  | call op next ih =>
    cases oracles with
    | nil => cases hruns
    | cons oracle oracles =>
      unfold runAlone at hruns
      split at hruns
      · cases hruns
      · rename_i later answer hanswer
        obtain ⟨⟨rest, last, value⟩, hrest, heq⟩ := Option.map_eq_some_iff.mp hruns
        obtain ⟨rfl, hends⟩ := Prod.mk.inj heq
        obtain ⟨rfl, rfl⟩ := Prod.mk.inj hends
        exact .call hanswer (ih _ hrest)

end SoleRun

/-! ### Runs of a body of a `try` block -/

section Body

variable {Op : Type} {Value : Op → Type} {Store Oracle Result Other : Type}
  {handler : Handler Op (fun op ↦ Except String (Value op)) Store Oracle} {store final : Store}
  {log : List (Performed Op fun op ↦ Except String (Value op))}

/-- One operation, and what it answers. -/
theorem runsAlone_ask_iff {op : Op} {result : Except String (Value op)} :
    RunsAlone handler store (ask op : Throwing Op Value (Value op)).run log final result ↔
      log = [⟨op, result⟩] ∧ ∃ oracle, handler store op oracle = some (final, result) := by
  constructor
  · intro hruns
    cases hruns with
    | call hanswer hrest =>
      cases hrest
      exact ⟨rfl, _, hanswer⟩
  · rintro ⟨rfl, oracle, hanswer⟩
    exact .call hanswer .pure

theorem runsAlone_return_iff {expected : Result} {result : Except String Result} :
    RunsAlone handler store (pure expected : Throwing Op Value Result).run log final result ↔
      log = [] ∧ final = store ∧ result = .ok expected :=
  runsAlone_pure_iff

/-- The first part of a body throws, or it returns a value and the rest is run. -/
theorem runsAlone_throwing_bind_iff {first : Throwing Op Value Other}
    {rest : Other → Throwing Op Value Result} {result : Except String Result} :
    RunsAlone handler store (first >>= rest).run log final result ↔
      (∃ message, RunsAlone handler store first.run log final (.error message) ∧
        result = .error message) ∨
      ∃ early middle value late, RunsAlone handler store first.run early middle (.ok value) ∧
        RunsAlone handler middle (rest value).run late final result ∧ log = early ++ late := by
  rw [ExceptT.run_bind, runsAlone_bind_iff]
  constructor
  · rintro ⟨early, middle, ended, late, hfirst, hrest, rfl⟩
    cases ended with
    | ok value => exact .inr ⟨early, middle, value, late, hfirst, hrest, rfl⟩
    | error message =>
      obtain ⟨rfl, rfl, rfl⟩ := runsAlone_pure_iff.mp hrest
      rw [List.append_nil]
      exact .inl ⟨message, hfirst, rfl⟩
  · rintro (⟨message, hfirst, rfl⟩ | ⟨early, middle, value, late, hfirst, hrest, rfl⟩)
    · exact ⟨log, final, .error message, [], hfirst, .pure, (List.append_nil _).symm⟩
    · exact ⟨early, middle, .ok value, late, hfirst, hrest, rfl⟩

theorem runsAlone_trying_iff {Failure : Type} {recover : String → Failure}
    {body : Throwing Op Value Result} {result : Except String (Except Failure Result)} :
    RunsAlone handler store (trying recover body).run log final result ↔
      ∃ ended, RunsAlone handler store body.run log final ended ∧
        result = .ok (ended.mapError recover) := by
  unfold trying
  rw [ExceptT.run_mk, runsAlone_bind_iff]
  constructor
  · rintro ⟨early, middle, ended, late, hbody, hrest, rfl⟩
    obtain ⟨rfl, rfl, rfl⟩ := runsAlone_pure_iff.mp hrest
    rw [List.append_nil]
    exact ⟨ended, hbody, rfl⟩
  · rintro ⟨ended, hbody, rfl⟩
    exact ⟨log, final, ended, [], hbody, .pure, (List.append_nil _).symm⟩

end Body

/-! ## Calls one after another -/

section SequentialRun

variable {Op : Type} {Answer : Op → Type} {Store Oracle Result Other Request Outcome : Type}

/-- What was performed, each with the store it left. -/
abbrev Trail (Op : Type) (Answer : Op → Type) (Store : Type) := List (Store × Performed Op Answer)

inductive Serves (handler : Handler Op Answer Store Oracle) :
    Store → Program Op Answer Result → Trail Op Answer Store → Store → Option Result → Prop
  | returned {store : Store} {result : Result} :
    Serves handler store (.pure result) [] store (some result)
  /-- The operation throws. -/
  | thrown {store : Store} {op : Op} {next : Answer op → Program Op Answer Result} :
    Serves handler store (.call op next) [] store none
  | performed {store later final : Store} {op : Op} {oracle : Oracle} {answer : Answer op}
      {next : Answer op → Program Op Answer Result} {trail : Trail Op Answer Store}
      {result : Option Result} (hanswer : handler store op oracle = some (later, answer))
      (hrest : Serves handler later (next answer) trail final result) :
    Serves handler store (.call op next) ((later, ⟨op, answer⟩) :: trail) final result

section Serves

variable {handler : Handler Op Answer Store Oracle} {store final : Store}
  {trail : Trail Op Answer Store}

theorem serves_pure_iff {expected : Result} {result : Option Result} :
    Serves handler store (Pure.pure expected) trail final result ↔
      trail = [] ∧ final = store ∧ result = some expected := by
  constructor
  · intro hserves
    cases hserves
    exact ⟨rfl, rfl, rfl⟩
  · rintro ⟨rfl, rfl, rfl⟩
    exact .returned

/-- The first operation throws, or it is performed and the rest is served. -/
theorem serves_perform_bind_iff {op : Op} {rest : Answer op → Program Op Answer Result}
    {result : Option Result} :
    Serves handler store (Program.perform op >>= rest) trail final result ↔
      (trail = [] ∧ final = store ∧ result = none) ∨
      ∃ oracle later answer remaining, handler store op oracle = some (later, answer) ∧
        trail = (later, ⟨op, answer⟩) :: remaining ∧
        Serves handler later (rest answer) remaining final result := by
  constructor
  · intro hserves
    cases hserves with
    | thrown => exact .inl ⟨rfl, rfl, rfl⟩
    | performed hanswer hrest => exact .inr ⟨_, _, _, _, hanswer, rfl, hrest⟩
  · rintro (⟨rfl, rfl, rfl⟩ | ⟨oracle, later, answer, remaining, hanswer, rfl, hrest⟩)
    · exact .thrown
    · exact .performed hanswer hrest

/-- The first program throws, or it returns and the second is served. -/
theorem serves_bind_iff {first : Program Op Answer Other}
    {rest : Other → Program Op Answer Result} {result : Option Result} :
    Serves handler store (first >>= rest) trail final result ↔
      (Serves handler store first trail final none ∧ result = none) ∨
      ∃ early middle value late, Serves handler store first early middle (some value) ∧
        Serves handler middle (rest value) late final result ∧ trail = early ++ late := by
  induction first generalizing store trail with
  | pure value =>
    constructor
    · exact fun hserves ↦ .inr ⟨[], store, value, trail, .returned, hserves, rfl⟩
    · rintro (⟨hfirst, rfl⟩ | ⟨early, middle, other, late, hfirst, hrest, rfl⟩)
      · cases hfirst
      · cases hfirst
        exact hrest
  | call op next ih =>
    constructor
    · intro hserves
      cases hserves with
      | thrown => exact .inl ⟨.thrown, rfl⟩
      | performed hanswer hrest =>
        rcases (ih _).mp hrest with ⟨hfirst, rfl⟩ | ⟨early, middle, value, late, hfirst, hlate, rfl⟩
        · exact .inl ⟨.performed hanswer hfirst, rfl⟩
        · exact .inr ⟨_, middle, value, late, .performed hanswer hfirst, hlate, rfl⟩
    · rintro (⟨hfirst, rfl⟩ | ⟨early, middle, value, late, hfirst, hlate, rfl⟩)
      · cases hfirst with
        | thrown => exact .thrown
        | performed hanswer hrest =>
          exact .performed hanswer ((ih _).mpr (.inl ⟨hrest, rfl⟩))
      · cases hfirst with
        | performed hanswer hrest =>
          exact .performed hanswer ((ih _).mpr (.inr ⟨_, middle, value, late, hrest, hlate, rfl⟩))

/-- A program that ends by a function of what another returns. -/
theorem serves_bind_pure_iff {first : Program Op Answer Other} {value : Other → Result}
    {result : Option Result} :
    Serves handler store (first >>= fun returned ↦ Pure.pure (value returned)) trail final result ↔
      ∃ returned, Serves handler store first trail final returned ∧
        result = returned.map value := by
  rw [serves_bind_iff]
  constructor
  · rintro (⟨hfirst, rfl⟩ | ⟨early, middle, returned, late, hfirst, hrest, rfl⟩)
    · exact ⟨none, hfirst, rfl⟩
    · obtain ⟨rfl, rfl, rfl⟩ := serves_pure_iff.mp hrest
      rw [List.append_nil]
      exact ⟨some returned, hfirst, rfl⟩
  · rintro ⟨returned, hfirst, rfl⟩
    cases returned with
    | none => exact .inl ⟨hfirst, rfl⟩
    | some returned =>
      exact .inr ⟨trail, final, returned, [], hfirst, .returned, (List.append_nil _).symm⟩

/-- A program that performs operations of a kind only leaves a store related to the first, where each
such operation does. -/
theorem Serves.related {kind : Op → Prop} {program : Program Op Answer Result}
    {result : Option Result} (hserves : Serves handler store program trail final result)
    (related : Store → Store → Prop) (hrefl : ∀ store, related store store)
    (htrans : ∀ first second third, related first second → related second third →
      related first third)
    (hkind : ∀ store op oracle later answer, kind op →
      handler store op oracle = some (later, answer) → related store later)
    (huses : program.Uses kind) : related store final := by
  induction hserves with
  | returned => exact hrefl _
  | thrown => exact hrefl _
  | performed hanswer _ ih => exact htrans _ _ _ (hkind _ _ _ _ _ huses.1 hanswer) (ih (huses.2 _))

theorem Serves.kind_of_mem {kind : Op → Prop} {program : Program Op Answer Result}
    {result : Option Result} (hserves : Serves handler store program trail final result)
    (huses : program.Uses kind) : ∀ entry ∈ trail, kind entry.2.1 := by
  induction hserves with
  | returned => simp
  | thrown => simp
  | performed _ _ ih =>
    intro entry hentry
    rcases List.mem_cons.mp hentry with rfl | hentry
    · exact huses.1
    · exact ih (huses.2 _) entry hentry

end Serves

/-! ### Sequences of calls -/

/-- A call, with the store it started from and everything it did. -/
structure ServedCall (Op : Type) (Answer : Op → Type) (Store Request Outcome : Type) where
  request : Request
  before : Store
  trail : Trail Op Answer Store
  after : Store
  /-- `none` where an operation threw. -/
  outcome : Option Outcome

def ServedCall.Served (handler : Handler Op Answer Store Oracle)
    (program : Request → Program Op Answer Outcome)
    (call : ServedCall Op Answer Store Request Outcome) : Prop :=
  Serves handler call.before (program call.request) call.trail call.after call.outcome

inductive Sequence (handler : Handler Op Answer Store Oracle)
    (program : Request → Program Op Answer Outcome) :
    Store → List (ServedCall Op Answer Store Request Outcome) → Store → Prop
  | nil {store : Store} : Sequence handler program store [] store
  | cons {call : ServedCall Op Answer Store Request Outcome}
      {calls : List (ServedCall Op Answer Store Request Outcome)} {final : Store}
      (hserved : call.Served handler program)
      (hrest : Sequence handler program call.after calls final) :
    Sequence handler program call.before (call :: calls) final

/-- Assumes: an invariant of the store that every served call keeps. Then every call of a sequence
starts in a store of the invariant. -/
theorem Sequence.served_of_mem {handler : Handler Op Answer Store Oracle}
    {program : Request → Program Op Answer Outcome} {invariant : Store → Prop}
    (hkept : ∀ call : ServedCall Op Answer Store Request Outcome,
      call.Served handler program → invariant call.before → invariant call.after)
    {start final : Store} {calls : List (ServedCall Op Answer Store Request Outcome)}
    (hsequence : Sequence handler program start calls final) (hstart : invariant start) :
    ∀ call ∈ calls, call.Served handler program ∧ invariant call.before := by
  induction hsequence with
  | nil => simp
  | @cons call calls final hserved _ ih =>
    intro member hmem
    rcases List.mem_cons.mp hmem with rfl | hmem
    · exact ⟨hserved, hstart⟩
    · exact ih (hkept call hserved hstart) member hmem

/-! ### Running a call -/

/-- Serve a program with one oracle for each operation. It is cut off where they run out, and where
the handler refuses. -/
def serve (handler : Handler Op Answer Store Oracle) :
    Store → Program Op Answer Result → List Oracle → Trail Op Answer Store × Store × Option Result
  | store, .pure result, _ => ([], store, some result)
  | store, .call _ _, [] => ([], store, none)
  | store, .call op next, oracle :: oracles =>
    match handler store op oracle with
    | none => ([], store, none)
    | some (later, answer) =>
      let (trail, final, result) := serve handler later (next answer) oracles
      ((later, ⟨op, answer⟩) :: trail, final, result)

theorem serves_serve (handler : Handler Op Answer Store Oracle) (store : Store)
    (program : Program Op Answer Result) (oracles : List Oracle) :
    Serves handler store program (serve handler store program oracles).1
      (serve handler store program oracles).2.1 (serve handler store program oracles).2.2 := by
  induction program generalizing store oracles with
  | pure result => exact .returned
  | call op next ih =>
    match oracles with
    | [] => exact .thrown
    | oracle :: oracles =>
      unfold serve
      split
      · exact .thrown
      · exact .performed ‹_› (ih _ _ oracles)

/-- A request served with given oracles. -/
def ServedCall.of (handler : Handler Op Answer Store Oracle)
    (program : Request → Program Op Answer Outcome) (request : Request) (before : Store)
    (oracles : List Oracle) : ServedCall Op Answer Store Request Outcome :=
  { request
    before
    trail := (serve handler before (program request) oracles).1
    after := (serve handler before (program request) oracles).2.1
    outcome := (serve handler before (program request) oracles).2.2 }

theorem ServedCall.served_of (handler : Handler Op Answer Store Oracle)
    (program : Request → Program Op Answer Outcome) (request : Request) (before : Store)
    (oracles : List Oracle) :
    (ServedCall.of handler program request before oracles).Served handler program :=
  serves_serve handler before (program request) oracles

end SequentialRun

end Karar.Foundation
