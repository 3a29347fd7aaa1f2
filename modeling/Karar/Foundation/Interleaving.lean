import Karar.Foundation.Program
import Mathlib.Data.List.Pairwise

/-!
# Interleaved calls over one store

A machine serves calls that run at the same time over one store. Each call follows its own program;
the calls take turns in any order, one operation at a time, a call can fail at any point, and the
store can change by itself (`Machine.turn`, a clock for instance). A configuration keeps the store,
the calls in the order of their start, and the history of what was performed, latest first.

`Reaches` is reachability by events that meet a condition. An invariant of the store that every
operation keeps holds in every store reached (`Reaches.store`). A contract states what the programs
guarantee to each other: `Reaches.keeps` carries an invariant of the configurations and the safety of
every call along a run at the same time.
-/

namespace Karar.Foundation

variable {Op : Type} {Answer : Op → Type} {Store Oracle Request Outcome Tick : Type}

/-- The operations, the programs of the calls, and the moves of the store's surroundings. -/
structure Machine (Op : Type) (Answer : Op → Type) (Store Oracle Request Outcome Tick : Type) where
  handler : Handler Op Answer Store Oracle
  program : Request → Program Op Answer Outcome
  turn : Store → Tick → Store

/-- What is left of a call. A call that is left with a returned result has returned. -/
inductive Progress (Op : Type) (Answer : Op → Type) (Outcome : Type) : Type
  | running (rest : Program Op Answer Outcome)
  | failed

structure Call (Op : Type) (Answer : Op → Type) (Request Outcome : Type) : Type where
  request : Request
  progress : Progress Op Answer Outcome

/-- An operation performed by a call. -/
structure Occurrence (Op : Type) (Answer : Op → Type) : Type where
  caller : ℕ
  performed : Performed Op Answer

structure Configuration (Op : Type) (Answer : Op → Type) (Store Request Outcome : Type) : Type where
  store : Store
  /-- The calls, in the order of their start. -/
  calls : List (Call Op Answer Request Outcome)
  /-- What was performed, latest first. -/
  history : List (Occurrence Op Answer)

inductive Event (Oracle Request Tick : Type) : Type
  /-- A call starts. -/
  | start (request : Request)
  /-- A call performs its next operation. -/
  | advance (caller : ℕ) (oracle : Oracle)
  /-- A call ends by an exception of its surroundings. -/
  | fail (caller : ℕ)
  | turn (tick : Tick)

/-- A configuration without calls. -/
def Configuration.initial (store : Store) : Configuration Op Answer Store Request Outcome :=
  ⟨store, [], []⟩

/-- The call with a number has returned an outcome. -/
def Configuration.Returned (c : Configuration Op Answer Store Request Outcome) (caller : ℕ)
    (request : Request) (outcome : Outcome) : Prop :=
  c.calls[caller]? = some ⟨request, .running (.pure outcome)⟩

/-- The request and the outcome of a call that has returned. -/
def Configuration.outcome (c : Configuration Op Answer Store Request Outcome) (caller : ℕ) :
    Option (Request × Outcome) :=
  match c.calls[caller]? with
  | some ⟨request, .running (.pure outcome)⟩ => some (request, outcome)
  | _ => none

theorem returned_iff {c : Configuration Op Answer Store Request Outcome} {caller : ℕ}
    {request : Request} {outcome : Outcome} :
    c.Returned caller request outcome ↔ c.outcome caller = some (request, outcome) := by
  unfold Configuration.Returned Configuration.outcome
  constructor
  · intro hcall
    rw [hcall]
  · intro houtcome
    split at houtcome
    · rename_i hcall
      obtain ⟨rfl, rfl⟩ := Prod.mk.inj (Option.some.inj houtcome)
      exact hcall
    · cases houtcome

instance [DecidableEq Request] [DecidableEq Outcome]
    (c : Configuration Op Answer Store Request Outcome) (caller : ℕ) (request : Request)
    (outcome : Outcome) : Decidable (c.Returned caller request outcome) :=
  decidable_of_iff _ returned_iff.symm

/-- The call with a number serves a request. -/
def Configuration.Asked (c : Configuration Op Answer Store Request Outcome) (caller : ℕ)
    (request : Request) : Prop :=
  c.calls[caller]?.map (·.request) = some request

instance [DecidableEq Request] (c : Configuration Op Answer Store Request Outcome) (caller : ℕ)
    (request : Request) : Decidable (c.Asked caller request) :=
  inferInstanceAs (Decidable (_ = some request))

theorem asked_of_call {c : Configuration Op Answer Store Request Outcome} {caller : ℕ}
    {request : Request} {progress : Progress Op Answer Outcome}
    (hcall : c.calls[caller]? = some ⟨request, progress⟩) : c.Asked caller request := by
  unfold Configuration.Asked
  rw [hcall]
  rfl

theorem Configuration.Asked.unique {c : Configuration Op Answer Store Request Outcome} {caller : ℕ}
    {first second : Request} (hfirst : c.Asked caller first) (hsecond : c.Asked caller second) :
    first = second :=
  Option.some.inj (hfirst.symm.trans hsecond)

theorem Configuration.Returned.asked {c : Configuration Op Answer Store Request Outcome}
    {caller : ℕ} {request : Request} {outcome : Outcome}
    (hreturned : c.Returned caller request outcome) : c.Asked caller request :=
  asked_of_call hreturned

/-- The request of a call that still runs, and the operation it performs next. -/
def Configuration.next (c : Configuration Op Answer Store Request Outcome) (caller : ℕ) :
    Option (Request × Op) :=
  match c.calls[caller]? with
  | some ⟨request, .running (.call op _)⟩ => some (request, op)
  | _ => none

theorem next_of_call {c : Configuration Op Answer Store Request Outcome} {caller : ℕ}
    {request : Request} {op : Op} {next : Answer op → Program Op Answer Outcome}
    (hcall : c.calls[caller]? = some ⟨request, .running (.call op next)⟩) :
    c.next caller = some (request, op) := by
  unfold Configuration.next
  rw [hcall]

theorem exists_call_of_next {c : Configuration Op Answer Store Request Outcome} {caller : ℕ}
    {request : Request} {op : Op} (hnext : c.next caller = some (request, op)) :
    ∃ next, c.calls[caller]? = some ⟨request, .running (.call op next)⟩ := by
  unfold Configuration.next at hnext
  split at hnext
  · rename_i asked performed next hcall
    obtain ⟨rfl, rfl⟩ := Prod.mk.inj (Option.some.inj hnext)
    exact ⟨next, hcall⟩
  · cases hnext

/-- A condition on the operation that an event is about to perform. -/
def Meets (condition : Configuration Op Answer Store Request Outcome → ℕ → Request → Op → Prop)
    (c : Configuration Op Answer Store Request Outcome) : Event Oracle Request Tick → Prop
  | .advance caller _ => ∀ asked ∈ c.next caller, condition c caller asked.1 asked.2
  | _ => True

instance {condition : Configuration Op Answer Store Request Outcome → ℕ → Request → Op → Prop}
    [∀ c caller request op, Decidable (condition c caller request op)]
    (c : Configuration Op Answer Store Request Outcome) (event : Event Oracle Request Tick) :
    Decidable (Meets condition c event) :=
  match event with
  | .advance caller _ =>
    inferInstanceAs (Decidable (∀ asked ∈ c.next caller, condition c caller asked.1 asked.2))
  | .start _ => isTrue trivial
  | .fail _ => isTrue trivial
  | .turn _ => isTrue trivial

theorem Meets.performed
    {condition : Configuration Op Answer Store Request Outcome → ℕ → Request → Op → Prop}
    {c : Configuration Op Answer Store Request Outcome} {caller : ℕ} {oracle : Oracle}
    {request : Request} {op : Op} {next : Answer op → Program Op Answer Outcome}
    (hmeets : Meets condition c (.advance caller oracle : Event Oracle Request Tick))
    (hcall : c.calls[caller]? = some ⟨request, .running (.call op next)⟩) :
    condition c caller request op :=
  hmeets (request, op) (next_of_call hcall)

/-- What one call performed, latest first. -/
def logOf (caller : ℕ) (history : List (Occurrence Op Answer)) : List (Performed Op Answer) :=
  (history.filter (·.caller == caller)).map (·.performed)

theorem mem_logOf {caller : ℕ} {history : List (Occurrence Op Answer)}
    {performed : Performed Op Answer} :
    performed ∈ logOf caller history ↔ ⟨caller, performed⟩ ∈ history := by
  unfold logOf
  rw [List.mem_map]
  constructor
  · rintro ⟨occurrence, hoccurrence, rfl⟩
    obtain ⟨hmem, hcaller⟩ := List.mem_filter.mp hoccurrence
    rw [beq_iff_eq] at hcaller
    exact hcaller ▸ hmem
  · intro hmem
    exact ⟨_, List.mem_filter.mpr ⟨hmem, beq_self_eq_true caller⟩, rfl⟩

theorem logOf_cons_self (caller : ℕ) (performed : Performed Op Answer)
    (history : List (Occurrence Op Answer)) :
    logOf caller (⟨caller, performed⟩ :: history) = performed :: logOf caller history := by
  unfold logOf
  rw [List.filter_cons_of_pos (by simp), List.map_cons]

theorem logOf_cons_of_ne {caller other : ℕ} (hne : other ≠ caller)
    (performed : Performed Op Answer) (history : List (Occurrence Op Answer)) :
    logOf caller (⟨other, performed⟩ :: history) = logOf caller history := by
  unfold logOf
  rw [List.filter_cons_of_neg (by simpa using hne)]

/-- Where the log of a call splits, the history splits. -/
theorem exists_history_of_logOf {caller : ℕ} {history : List (Occurrence Op Answer)}
    {recent earlier : List (Performed Op Answer)} {performed : Performed Op Answer}
    (hlog : logOf caller history = recent ++ performed :: earlier) :
    ∃ newer older, history = newer ++ ⟨caller, performed⟩ :: older ∧
      logOf caller older = earlier := by
  induction history generalizing recent with
  | nil => exact absurd hlog.symm (List.append_ne_nil_of_right_ne_nil _ (List.cons_ne_nil _ _))
  | cons occurrence history ih =>
    by_cases hcaller : occurrence.caller = caller
    · subst hcaller
      rw [logOf_cons_self] at hlog
      cases recent with
      | nil =>
        obtain ⟨rfl, rfl⟩ := List.cons.inj hlog
        exact ⟨[], history, rfl, rfl⟩
      | cons newest recent =>
        obtain ⟨newer, older, rfl, holder⟩ := ih (List.cons.inj hlog).2
        exact ⟨occurrence :: newer, older, rfl, holder⟩
    · rw [logOf_cons_of_ne hcaller] at hlog
      obtain ⟨newer, older, rfl, holder⟩ := ih hlog
      exact ⟨occurrence :: newer, older, rfl, holder⟩

theorem logOf_append (caller : ℕ) (recent earlier : List (Occurrence Op Answer)) :
    logOf caller (recent ++ earlier) = logOf caller recent ++ logOf caller earlier := by
  unfold logOf
  rw [List.filter_append, List.map_append]

namespace Machine

variable (machine : Machine Op Answer Store Oracle Request Outcome Tick)

/-- One event. `none` means that the event is not possible. -/
def step (c : Configuration Op Answer Store Request Outcome) :
    Event Oracle Request Tick → Option (Configuration Op Answer Store Request Outcome)
  | .start request =>
    some { c with calls := c.calls ++ [⟨request, .running (machine.program request)⟩] }
  | .advance caller oracle =>
    match c.calls[caller]? with
    | some ⟨request, .running (.call op next)⟩ =>
      match machine.handler c.store op oracle with
      | some (store, answer) =>
        some
          { store := store
            calls := c.calls.set caller ⟨request, .running (next answer)⟩
            history := ⟨caller, op, answer⟩ :: c.history }
      | none => some { c with calls := c.calls.set caller ⟨request, .failed⟩ }
    | _ => none
  | .fail caller =>
    match c.calls[caller]? with
    | some ⟨request, .running (.call _ _)⟩ =>
      some { c with calls := c.calls.set caller ⟨request, .failed⟩ }
    | _ => none
  | .turn tick => some { c with store := machine.turn c.store tick }

/-- What one event can do. -/
inductive Steps (c : Configuration Op Answer Store Request Outcome) :
    Event Oracle Request Tick → Configuration Op Answer Store Request Outcome → Prop
  | start (request : Request) :
    Steps c (.start request)
      { c with calls := c.calls ++ [⟨request, .running (machine.program request)⟩] }
  | perform {caller : ℕ} {oracle : Oracle} {request : Request} {op : Op}
      {next : Answer op → Program Op Answer Outcome} {store : Store} {answer : Answer op}
      (hcall : c.calls[caller]? = some ⟨request, .running (.call op next)⟩)
      (hanswer : machine.handler c.store op oracle = some (store, answer)) :
    Steps c (.advance caller oracle)
      { store := store
        calls := c.calls.set caller ⟨request, .running (next answer)⟩
        history := ⟨caller, op, answer⟩ :: c.history }
  | end_ {event : Event Oracle Request Tick} {caller : ℕ} {request : Request} {op : Op}
      {next : Answer op → Program Op Answer Outcome}
      (hcall : c.calls[caller]? = some ⟨request, .running (.call op next)⟩) :
    Steps c event { c with calls := c.calls.set caller ⟨request, .failed⟩ }
  | turn (tick : Tick) : Steps c (.turn tick) { c with store := machine.turn c.store tick }

variable {machine}

theorem steps_of_step_eq_some {c later : Configuration Op Answer Store Request Outcome}
    {event : Event Oracle Request Tick} (hstep : machine.step c event = some later) :
    machine.Steps c event later := by
  cases event with
  | start request => exact Option.some.inj hstep ▸ .start request
  | turn tick => exact Option.some.inj hstep ▸ .turn tick
  | advance caller oracle =>
    unfold step at hstep
    cases hcall : c.calls[caller]? with
    | none => simp [hcall] at hstep
    | some call =>
      obtain ⟨request, progress⟩ := call
      match progress, hcall with
      | .failed, hcall => simp [hcall] at hstep
      | .running (.pure outcome), hcall => simp [hcall] at hstep
      | .running (.call op next), hcall =>
        cases hanswer : machine.handler c.store op oracle with
        | none =>
          simp only [hcall, hanswer, Option.some.injEq] at hstep
          exact hstep ▸ .end_ hcall
        | some answered =>
          simp only [hcall, hanswer, Option.some.injEq] at hstep
          exact hstep ▸ .perform hcall hanswer
  | fail caller =>
    unfold step at hstep
    cases hcall : c.calls[caller]? with
    | none => simp [hcall] at hstep
    | some call =>
      obtain ⟨request, progress⟩ := call
      match progress, hcall with
      | .failed, hcall => simp [hcall] at hstep
      | .running (.pure outcome), hcall => simp [hcall] at hstep
      | .running (.call op next), hcall =>
        simp only [hcall, Option.some.injEq] at hstep
        exact hstep ▸ .end_ hcall

/-- A call performs its next operation, or the operation is not possible and the call ends. -/
theorem step_advance_eq_some {c later : Configuration Op Answer Store Request Outcome}
    {caller : ℕ} {oracle : Oracle}
    (hstep : machine.step c (.advance caller oracle) = some later) :
    ∃ request op next, c.calls[caller]? = some ⟨request, .running (.call op next)⟩ ∧
      ((∃ store answer, machine.handler c.store op oracle = some (store, answer) ∧
          later =
            { store := store
              calls := c.calls.set caller ⟨request, .running (next answer)⟩
              history := ⟨caller, op, answer⟩ :: c.history }) ∨
        (machine.handler c.store op oracle = none ∧
          later = { c with calls := c.calls.set caller ⟨request, .failed⟩ })) := by
  unfold step at hstep
  dsimp only at hstep
  split at hstep
  · rename_i request op next hcall
    refine ⟨request, op, next, hcall, ?_⟩
    split at hstep
    · rename_i store answer hanswer
      exact .inl ⟨store, answer, hanswer, (Option.some.inj hstep).symm⟩
    · rename_i hanswer
      exact .inr ⟨hanswer, (Option.some.inj hstep).symm⟩
  · cases hstep

/-- An answered operation, and what the event that performs it leads to. -/
theorem later_of_answered {c later : Configuration Op Answer Store Request Outcome} {caller : ℕ}
    {oracle : Oracle} {request : Request} {op : Op} {next : Answer op → Program Op Answer Outcome}
    {store : Store} {answer : Answer op}
    (hcall : c.calls[caller]? = some ⟨request, .running (.call op next)⟩)
    (hanswer : machine.handler c.store op oracle = some (store, answer))
    (hstep : machine.step c (.advance caller oracle) = some later) :
    later =
      { store := store
        calls := c.calls.set caller ⟨request, .running (next answer)⟩
        history := ⟨caller, op, answer⟩ :: c.history } := by
  unfold step at hstep
  simp only [hcall, hanswer, Option.some.injEq] at hstep
  exact hstep.symm

/-- An operation that is answered is what the event adds to the history. -/
theorem history_of_answered {c later : Configuration Op Answer Store Request Outcome} {caller : ℕ}
    {oracle : Oracle} {request : Request} {op : Op} {store : Store} {answer : Answer op}
    (hnext : c.next caller = some (request, op))
    (hanswer : machine.handler c.store op oracle = some (store, answer))
    (hstep : machine.step c (.advance caller oracle) = some later) :
    later.history = ⟨caller, op, answer⟩ :: c.history := by
  obtain ⟨next, hcall⟩ := exists_call_of_next hnext
  rw [later_of_answered hcall hanswer hstep]

/-- An event that adds to the history performs what it adds. -/
theorem performed_of_history_eq_cons {c later : Configuration Op Answer Store Request Outcome}
    {event : Event Oracle Request Tick} {occurrence : Occurrence Op Answer}
    (hstep : machine.step c event = some later)
    (hhistory : later.history = occurrence :: c.history) :
    ∃ oracle request next, event = .advance occurrence.caller oracle ∧
      c.calls[occurrence.caller]? =
        some ⟨request, .running (.call occurrence.performed.1 next)⟩ ∧
      machine.handler c.store occurrence.performed.1 oracle =
        some (later.store, occurrence.performed.2) := by
  have hne : c.history ≠ occurrence :: c.history := fun h ↦
    absurd (congrArg List.length h) (by simp)
  cases steps_of_step_eq_some hstep with
  | start request => exact absurd hhistory hne
  | @perform caller oracle request op next store answer hcall hanswer =>
    obtain rfl := (List.cons.inj hhistory).1
    exact ⟨oracle, request, next, rfl, hcall, hanswer⟩
  | end_ hcall => exact absurd hhistory hne
  | turn tick => exact absurd hhistory hne

/-! ### Runs -/

/-- Reachability by events that meet a condition. -/
inductive Reaches (machine : Machine Op Answer Store Oracle Request Outcome Tick)
    (condition : Configuration Op Answer Store Request Outcome → Event Oracle Request Tick → Prop)
    (start : Configuration Op Answer Store Request Outcome) :
    Configuration Op Answer Store Request Outcome → Prop
  | refl : Reaches machine condition start start
  | step {c later : Configuration Op Answer Store Request Outcome}
      {event : Event Oracle Request Tick} (hreaches : Reaches machine condition start c)
      (hcondition : condition c event) (hstep : machine.step c event = some later) :
    Reaches machine condition start later

variable {condition : Configuration Op Answer Store Request Outcome → Event Oracle Request Tick →
  Prop} {start c later : Configuration Op Answer Store Request Outcome}

theorem Reaches.trans (hfirst : Reaches machine condition start c)
    (hsecond : Reaches machine condition c later) : Reaches machine condition start later := by
  induction hsecond with
  | refl => exact hfirst
  | step _ hcondition hstep ih => exact ih.step hcondition hstep

theorem Reaches.mono {weaker : Configuration Op Answer Store Request Outcome →
      Event Oracle Request Tick → Prop}
    (hreaches : Reaches machine condition start c)
    (hweaker : ∀ c event, condition c event → weaker c event) :
    Reaches machine weaker start c := by
  induction hreaches with
  | refl => exact .refl
  | step _ hcondition hstep ih => exact ih.step (hweaker _ _ hcondition) hstep

/-- The configuration after a schedule of events that meet a condition. -/
def after (machine : Machine Op Answer Store Oracle Request Outcome Tick)
    (condition : Configuration Op Answer Store Request Outcome → Event Oracle Request Tick → Prop)
    [∀ c event, Decidable (condition c event)]
    (c : Configuration Op Answer Store Request Outcome) :
    List (Event Oracle Request Tick) → Option (Configuration Op Answer Store Request Outcome)
  | [] => some c
  | event :: events =>
    if condition c event then
      match machine.step c event with
      | some later => machine.after condition later events
      | none => none
    else none

/-- A schedule that goes through is a run. -/
theorem reaches_of_after [∀ c event, Decidable (condition c event)]
    {events : List (Event Oracle Request Tick)}
    (hafter : machine.after condition start events = some c) :
    Reaches machine condition start c := by
  induction events generalizing start with
  | nil => exact Option.some.inj hafter ▸ .refl
  | cons event events ih =>
    unfold after at hafter
    by_cases hcondition : condition start event
    · rw [if_pos hcondition] at hafter
      cases hstep : machine.step start event with
      | none => simp [hstep] at hafter
      | some next =>
        simp only [hstep] at hafter
        exact (Reaches.step .refl hcondition hstep).trans (ih hafter)
    · rw [if_neg hcondition] at hafter
      cases hafter

/-- Where a schedule ends that goes through; otherwise where it starts. -/
def finish (machine : Machine Op Answer Store Oracle Request Outcome Tick)
    (condition : Configuration Op Answer Store Request Outcome → Event Oracle Request Tick → Prop)
    [∀ c event, Decidable (condition c event)]
    (c : Configuration Op Answer Store Request Outcome)
    (events : List (Event Oracle Request Tick)) :
    Configuration Op Answer Store Request Outcome :=
  (machine.after condition c events).getD c

/-- One event that is possible. -/
theorem step_finish {event : Event Oracle Request Tick}
    (hpossible : (machine.step start event).isSome = true) :
    machine.step start event = some (machine.finish (fun _ _ ↦ True) start [event]) := by
  obtain ⟨c, hstep⟩ := Option.isSome_iff_exists.mp hpossible
  rw [hstep]
  simp [finish, after, hstep]

theorem reaches_finish [∀ c event, Decidable (condition c event)]
    (events : List (Event Oracle Request Tick)) :
    Reaches machine condition start (machine.finish condition start events) := by
  unfold finish
  cases hafter : machine.after condition start events with
  | none => exact .refl
  | some c => exact reaches_of_after hafter

/-- An invariant of the store that every operation and every turn keep holds along a run. -/
theorem Reaches.store (invariant : Store → Prop)
    (hhandler : ∀ store op oracle later answer, invariant store →
      machine.handler store op oracle = some (later, answer) → invariant later)
    (hturn : ∀ store tick, invariant store → invariant (machine.turn store tick))
    (hreaches : Reaches machine condition start c) (hstart : invariant start.store) :
    invariant c.store := by
  induction hreaches with
  | refl => exact hstart
  | step _ _ hstep ih =>
    cases steps_of_step_eq_some hstep with
    | start request => exact ih
    | perform hcall hanswer => exact hhandler _ _ _ _ _ ih hanswer
    | end_ hcall => exact ih
    | turn tick => exact hturn _ tick ih

/-- What an answer establishes about the store, and every operation and every turn keep, holds for
everything performed along a run. -/
theorem Reaches.history (fact : Performed Op Answer → Store → Prop)
    (hanswered : ∀ store op oracle later answer,
      machine.handler store op oracle = some (later, answer) → fact ⟨op, answer⟩ later)
    (hhandler : ∀ performed store op oracle later answer, fact performed store →
      machine.handler store op oracle = some (later, answer) → fact performed later)
    (hturn : ∀ performed store tick, fact performed store →
      fact performed (machine.turn store tick))
    (hreaches : Reaches machine condition start c)
    (hstart : ∀ occurrence ∈ start.history, fact occurrence.performed start.store) :
    ∀ occurrence ∈ c.history, fact occurrence.performed c.store := by
  induction hreaches with
  | refl => exact hstart
  | step _ _ hstep ih =>
    cases steps_of_step_eq_some hstep with
    | start request => exact ih
    | perform hcall hanswer =>
      intro occurrence hoccurrence
      rcases List.mem_cons.mp hoccurrence with rfl | hearlier
      · exact hanswered _ _ _ _ _ hanswer
      · exact hhandler _ _ _ _ _ _ (ih occurrence hearlier) hanswer
    | end_ hcall => exact ih
    | turn tick => exact fun occurrence hoccurrence ↦ hturn _ _ tick (ih occurrence hoccurrence)

/-- A key that nobody claims a second time is claimed once. -/
theorem Reaches.claimed_once {Key : Type} (claim : Performed Op Answer → Option Key)
    (hfresh : ∀ c caller oracle request op next later answer key,
      Reaches machine condition start c → condition c (.advance caller oracle) →
      c.calls[caller]? = some ⟨request, .running (.call op next)⟩ →
      machine.handler c.store op oracle = some (later, answer) → claim ⟨op, answer⟩ = some key →
        ∀ earlier ∈ c.history, claim earlier.performed ≠ some key)
    (hreaches : Reaches machine condition start c) (hstart : start.history = []) :
    c.history.Pairwise fun second first ↦
      ∀ key, claim second.performed = some key → claim first.performed ≠ some key := by
  induction hreaches with
  | refl =>
    rw [hstart]
    exact List.Pairwise.nil
  | step hreaches hcondition hstep ih =>
    cases steps_of_step_eq_some hstep with
    | start request => exact ih
    | perform hcall hanswer =>
      refine List.Pairwise.cons (fun first hfirst key hkey ↦ ?_) ih
      exact hfresh _ _ _ _ _ _ _ _ key hreaches hcondition hcall hanswer hkey first hfirst
    | end_ hcall => exact ih
    | turn tick => exact ih

/-- A key that nobody claims a second time is claimed by one call. -/
theorem Reaches.claimed_by_one {Key : Type} (claim : Performed Op Answer → Option Key)
    (hfresh : ∀ c caller oracle request op next later answer key,
      Reaches machine condition start c → condition c (.advance caller oracle) →
      c.calls[caller]? = some ⟨request, .running (.call op next)⟩ →
      machine.handler c.store op oracle = some (later, answer) → claim ⟨op, answer⟩ = some key →
        ∀ earlier ∈ c.history, claim earlier.performed ≠ some key)
    (hreaches : Reaches machine condition start c) (hstart : start.history = []) :
    ∀ first ∈ c.history, ∀ second ∈ c.history, ∀ key, claim first.performed = some key →
      claim second.performed = some key → first.caller = second.caller := by
  have hapart := hreaches.claimed_once claim hfresh hstart
  have hsymmetric : Std.Symm fun second first : Occurrence Op Answer ↦
      ∀ key, claim second.performed = some key → claim first.performed ≠ some key :=
    ⟨fun second first h key hfirst hsecond ↦ h key hsecond hfirst⟩
  intro first hfirst second hsecond key hfirstKey hsecondKey
  by_contra hcaller
  have hne : first ≠ second := fun h ↦ hcaller (congrArg Occurrence.caller h)
  exact hapart.forall hfirst hsecond hne key hfirstKey hsecondKey

/-- The event that performed a part of the history, between the configurations around it. -/
theorem Reaches.occurred (hreaches : Reaches machine condition start c)
    (hstart : start.history = []) {recent earlier : List (Occurrence Op Answer)}
    {occurrence : Occurrence Op Answer}
    (hhistory : c.history = recent ++ occurrence :: earlier) :
    ∃ before after oracle, Reaches machine condition start before ∧ before.history = earlier ∧
      condition before (.advance occurrence.caller oracle) ∧
      machine.step before (.advance occurrence.caller oracle) = some after ∧
      after.history = occurrence :: earlier ∧ Reaches machine condition after c := by
  induction hreaches generalizing recent with
  | refl =>
    rw [hstart] at hhistory
    exact absurd hhistory.symm (List.append_ne_nil_of_right_ne_nil _ (List.cons_ne_nil _ _))
  | @step c later event hreaches hcondition hstep ih =>
    have hstays : ∀ recent, c.history = recent ++ occurrence :: earlier →
        ∃ before after oracle, Reaches machine condition start before ∧ before.history = earlier ∧
          condition before (.advance occurrence.caller oracle) ∧
          machine.step before (.advance occurrence.caller oracle) = some after ∧
          after.history = occurrence :: earlier ∧ Reaches machine condition after later := by
      intro recent hhistory
      obtain ⟨before, after, oracle, hbefore, hearlier, hmet, hstepped, hafter, hlater⟩ :=
        ih hhistory
      exact ⟨before, after, oracle, hbefore, hearlier, hmet, hstepped, hafter,
        hlater.step hcondition hstep⟩
    cases hsteps : steps_of_step_eq_some hstep with
    | start request => exact hstays recent hhistory
    | @perform caller oracle request op next store answer hcall hanswer =>
      cases recent with
      | nil =>
        obtain ⟨rfl, rfl⟩ := List.cons.inj hhistory
        exact ⟨c, _, oracle, hreaches, rfl, hcondition, hstep, rfl, .refl⟩
      | cons newest recent => exact hstays recent (List.cons.inj hhistory).2
    | end_ hcall => exact hstays recent hhistory
    | turn tick => exact hstays recent hhistory

/-- What a run adds to the history comes before what was there. -/
theorem Reaches.history_suffix (hreaches : Reaches machine condition start c) :
    ∃ recent, c.history = recent ++ start.history := by
  induction hreaches with
  | refl => exact ⟨[], rfl⟩
  | step _ _ hstep ih =>
    obtain ⟨recent, hhistory⟩ := ih
    cases steps_of_step_eq_some hstep with
    | start request => exact ⟨recent, hhistory⟩
    | @perform caller oracle request op next store answer hcall hanswer =>
      exact ⟨⟨caller, op, answer⟩ :: recent, by rw [hhistory, List.cons_append]⟩
    | end_ hcall => exact ⟨recent, hhistory⟩
    | turn tick => exact ⟨recent, hhistory⟩

/-- Nothing is performed by a call that has not started. -/
theorem Reaches.caller_lt (hreaches : Reaches machine condition start c)
    (hstart : ∀ occurrence ∈ start.history, occurrence.caller < start.calls.length) :
    ∀ occurrence ∈ c.history, occurrence.caller < c.calls.length := by
  induction hreaches with
  | refl => exact hstart
  | step _ _ hstep ih =>
    cases steps_of_step_eq_some hstep with
    | start request =>
      intro occurrence hoccurrence
      rw [List.length_append]
      exact Nat.lt_add_right _ (ih occurrence hoccurrence)
    | perform hcall hanswer =>
      intro occurrence hoccurrence
      rw [List.length_set]
      rcases List.mem_cons.mp hoccurrence with rfl | hearlier
      · exact (List.getElem?_eq_some_iff.mp hcall).1
      · exact ih occurrence hearlier
    | end_ hcall =>
      intro occurrence hoccurrence
      rw [List.length_set]
      exact ih occurrence hoccurrence
    | turn tick => exact ih

/-! ### Contracts -/

/-- What every program guarantees, in the stores of an invariant: what its operations may be, and
what it may return, given the request and what the call performed before. -/
structure Contract (Op : Type) (Answer : Op → Type) (Store Request Outcome : Type) where
  invariant : Store → Prop
  allowed : Request → List (Performed Op Answer) → Op → Prop
  post : Request → List (Performed Op Answer) → Outcome → Prop

variable {contract : Contract Op Answer Store Request Outcome}

/-- The program of a request keeps the contract. -/
def Honours (machine : Machine Op Answer Store Oracle Request Outcome Tick)
    (contract : Contract Op Answer Store Request Outcome) (request : Request) : Prop :=
  Safe machine.handler contract.invariant (contract.allowed request) (contract.post request) []
    (machine.program request)

/-- Every call from a number on is bound to keep the contract. -/
def Keeps (machine : Machine Op Answer Store Oracle Request Outcome Tick)
    (contract : Contract Op Answer Store Request Outcome) (first : ℕ)
    (c : Configuration Op Answer Store Request Outcome) : Prop :=
  ∀ caller request rest, first ≤ caller → c.calls[caller]? = some ⟨request, .running rest⟩ →
    Safe machine.handler contract.invariant (contract.allowed request) (contract.post request)
      (logOf caller c.history) rest

/-- A call serves one request, whatever happens. -/
theorem asked_step {event : Event Oracle Request Tick} {caller : ℕ} {request : Request}
    (hstep : machine.step c event = some later) (hasked : c.Asked caller request) :
    later.Asked caller request := by
  obtain ⟨call, hcall, rfl⟩ := Option.map_eq_some_iff.mp hasked
  have hlt : caller < c.calls.length := (List.getElem?_eq_some_iff.mp hcall).1
  -- An event puts another progress in the place of a call.
  have hset : ∀ other progress, c.calls[other]?.map (·.request) = some progress.request →
      (c.calls.set other progress)[caller]?.map (·.request) = some call.request := by
    intro other progress hother
    by_cases hsame : other = caller
    · subst hsame
      rw [List.getElem?_set_self hlt]
      rw [hcall] at hother
      exact hother.symm
    · rw [List.getElem?_set_ne hsame, hcall]
      rfl
  cases steps_of_step_eq_some hstep with
  | start asked =>
    show (c.calls ++ _)[caller]?.map _ = _
    rw [List.getElem?_append_left hlt, hcall]
    rfl
  | perform hother _ => exact hset _ _ (asked_of_call hother)
  | end_ hother => exact hset _ _ (asked_of_call hother)
  | turn tick => exact hasked

/-- A call that was there before an event serves the request it served. -/
theorem request_step {event : Event Oracle Request Tick} {caller : ℕ}
    (hstep : machine.step c event = some later) (hlt : caller < c.calls.length) :
    later.calls[caller]?.map (·.request) = c.calls[caller]?.map (·.request) := by
  have hasked : c.Asked caller c.calls[caller].request := by
    unfold Configuration.Asked
    rw [List.getElem?_eq_getElem hlt]
    rfl
  exact (asked_step hstep hasked).trans hasked.symm

theorem Reaches.asked {caller : ℕ} {request : Request}
    (hreaches : Reaches machine condition start c) (hasked : start.Asked caller request) :
    c.Asked caller request := by
  induction hreaches with
  | refl => exact hasked
  | step _ _ hstep ih => exact asked_step hstep ih

/-- The operation a bound call performs next is allowed. -/
theorem Keeps.allowed {first caller : ℕ} (hkeeps : Keeps machine contract first c)
    {request : Request} {op : Op} {next : Answer op → Program Op Answer Outcome}
    (hfirst : first ≤ caller)
    (hcall : c.calls[caller]? = some ⟨request, .running (.call op next)⟩) :
    contract.allowed request (logOf caller c.history) op :=
  (hkeeps caller request _ hfirst hcall).1

/-- What a bound call returned meets the postcondition. -/
theorem Keeps.post {first caller : ℕ} (hkeeps : Keeps machine contract first c)
    {request : Request} {outcome : Outcome} (hfirst : first ≤ caller)
    (hreturned : c.Returned caller request outcome) :
    contract.post request (logOf caller c.history) outcome :=
  hkeeps caller request _ hfirst hreturned

/-- One event keeps the bound calls bound. -/
theorem Keeps.step {first : ℕ} (hkeeps : Keeps machine contract first c)
    (hhonours : ∀ request, Honours machine contract request)
    (hinvariant : contract.invariant c.store)
    (hcallers : ∀ occurrence ∈ c.history, occurrence.caller < c.calls.length)
    {event : Event Oracle Request Tick} (hstep : machine.step c event = some later) :
    Keeps machine contract first later := by
  cases steps_of_step_eq_some hstep with
  | start request =>
    intro caller asked rest hfirst hcall
    rcases Nat.lt_trichotomy caller c.calls.length with hold | hnew | hbeyond
    · rw [List.getElem?_append_left hold] at hcall
      exact hkeeps caller asked rest hfirst hcall
    · rw [hnew, List.getElem?_append_right (Nat.le_refl _), Nat.sub_self, List.getElem?_cons_zero,
        Option.some.injEq, Call.mk.injEq, Progress.running.injEq] at hcall
      obtain ⟨rfl, rfl⟩ := hcall
      -- A call that starts has performed nothing yet.
      have hlog : logOf caller c.history = [] := by
        rw [List.eq_nil_iff_forall_not_mem]
        intro performed hperformed
        have hlt := hcallers _ (mem_logOf.mp hperformed)
        exact absurd hnew (Nat.ne_of_lt hlt)
      rw [hlog]
      exact hhonours _
    · rw [List.getElem?_eq_none (by rw [List.length_append, List.length_singleton]; omega)] at hcall
      cases hcall
  | @perform caller oracle request op next store answer hcall hanswer =>
    intro other asked rest hfirst hother
    have hlt : caller < c.calls.length := (List.getElem?_eq_some_iff.mp hcall).1
    by_cases hsame : caller = other
    · subst hsame
      rw [List.getElem?_set_self hlt, Option.some.injEq, Call.mk.injEq,
        Progress.running.injEq] at hother
      obtain ⟨rfl, rfl⟩ := hother
      rw [logOf_cons_self]
      exact (hkeeps caller _ _ hfirst hcall).2 _ oracle _ answer hinvariant hanswer
    · rw [List.getElem?_set_ne hsame] at hother
      rw [logOf_cons_of_ne hsame]
      exact hkeeps other asked rest hfirst hother
  | @end_ _ caller request op next hcall =>
    intro other asked rest hfirst hother
    have hlt : caller < c.calls.length := (List.getElem?_eq_some_iff.mp hcall).1
    by_cases hsame : caller = other
    · subst hsame
      rw [List.getElem?_set_self hlt] at hother
      cases hother
    · rw [List.getElem?_set_ne hsame] at hother
      exact hkeeps other asked rest hfirst hother
  | turn tick => exact hkeeps

/-- Assumes: every program keeps the contract; and an invariant of the configurations that implies
the contract's, and that an event keeps as long as the calls from the start on are bound by it. Then
the invariant holds along a run, and the calls that start after its first configuration are bound. -/
theorem Reaches.keeps {invariant : Configuration Op Answer Store Request Outcome → Prop}
    (hhonours : ∀ request, Honours machine contract request)
    (himplies : ∀ c, invariant c → contract.invariant c.store)
    (hkept : ∀ c event later, Reaches machine condition start c → invariant c →
      Keeps machine contract start.calls.length c → condition c event →
      machine.step c event = some later → invariant later)
    (hreaches : Reaches machine condition start c)
    (hcallers : ∀ occurrence ∈ start.history, occurrence.caller < start.calls.length)
    (hstart : invariant start) :
    invariant c ∧ Keeps machine contract start.calls.length c := by
  induction hreaches with
  | refl =>
    refine ⟨hstart, fun caller request rest hfirst hcall ↦ ?_⟩
    rw [List.getElem?_eq_none hfirst] at hcall
    cases hcall
  | step hreaches hcondition hstep ih =>
    refine ⟨hkept _ _ _ hreaches ih.1 ih.2 hcondition hstep, ?_⟩
    exact ih.2.step hhonours (himplies _ ih.1) (hreaches.caller_lt hcallers) hstep

section Initial

variable {store : Store}

/-- From a configuration without calls every call is bound. Assumes: the contract's invariant holds
in every store. -/
theorem Reaches.bound (hhonours : ∀ request, Honours machine contract request)
    (hinvariant : ∀ store, contract.invariant store)
    (hreaches : Reaches machine condition (.initial store) c) : Keeps machine contract 0 c :=
  (hreaches.keeps hhonours (fun c _ ↦ hinvariant c.store) (fun _ _ _ _ _ _ _ _ ↦ trivial)
    (fun _ h ↦ absurd h List.not_mem_nil) trivial).2

/-- Whatever was performed was allowed by what its call had performed before. -/
theorem Reaches.allowed (hhonours : ∀ request, Honours machine contract request)
    (hinvariant : ∀ store, contract.invariant store)
    (hreaches : Reaches machine condition (.initial store) c) :
    ∀ recent occurrence earlier, c.history = recent ++ occurrence :: earlier →
      ∃ request, c.Asked occurrence.caller request ∧
        contract.allowed request (logOf occurrence.caller earlier) occurrence.performed.1 := by
  induction hreaches with
  | refl =>
    intro recent occurrence earlier hhistory
    exact absurd hhistory.symm (List.append_ne_nil_of_right_ne_nil _ (List.cons_ne_nil _ _))
  | @step c later event hreaches _ hstep ih =>
    have hkept : ∀ caller request, c.Asked caller request → later.Asked caller request :=
      fun _ _ ↦ asked_step hstep
    cases steps_of_step_eq_some hstep with
    | start request =>
      intro recent occurrence earlier hhistory
      obtain ⟨request, hasked, hallowed⟩ := ih recent occurrence earlier hhistory
      exact ⟨request, hkept _ _ hasked, hallowed⟩
    | @perform caller oracle request op next store answer hcall hanswer =>
      intro recent occurrence earlier hhistory
      cases recent with
      | nil =>
        obtain ⟨rfl, rfl⟩ := List.cons.inj hhistory
        refine ⟨request, hkept _ _ (asked_of_call hcall), ?_⟩
        exact (hreaches.bound hhonours hinvariant).allowed (Nat.zero_le _) hcall
      | cons newest recent =>
        obtain ⟨request, hasked, hallowed⟩ := ih recent occurrence earlier (List.cons.inj hhistory).2
        exact ⟨request, hkept _ _ hasked, hallowed⟩
    | end_ hcall =>
      intro recent occurrence earlier hhistory
      obtain ⟨request, hasked, hallowed⟩ := ih recent occurrence earlier hhistory
      exact ⟨request, hkept _ _ hasked, hallowed⟩
    | turn tick => exact ih

/-- A call that has performed nothing is where its program starts. -/
theorem Reaches.unstarted (hreaches : Reaches machine condition (.initial store) c) {caller : ℕ}
    {request : Request} {rest : Program Op Answer Outcome}
    (hcall : c.calls[caller]? = some ⟨request, .running rest⟩) (hlog : logOf caller c.history = []) :
    rest = machine.program request := by
  induction hreaches generalizing rest with
  | refl => simp [Configuration.initial] at hcall
  | @step c later event _ _ hstep ih =>
    cases steps_of_step_eq_some hstep with
    | start asked =>
      by_cases hlt : caller < c.calls.length
      · rw [List.getElem?_append_left hlt] at hcall
        exact ih hcall hlog
      · rw [List.getElem?_append_right (Nat.not_lt.mp hlt), List.getElem?_singleton] at hcall
        split_ifs at hcall
        rw [Option.some.injEq, Call.mk.injEq, Progress.running.injEq] at hcall
        obtain ⟨rfl, rfl⟩ := hcall
        rfl
    | @perform other oracle asked op next store answer hother hanswer =>
      by_cases hsame : other = caller
      · subst hsame
        rw [logOf_cons_self] at hlog
        cases hlog
      · rw [List.getElem?_set_ne hsame] at hcall
        rw [logOf_cons_of_ne hsame] at hlog
        exact ih hcall hlog
    | @end_ _ other asked op next hother =>
      by_cases hsame : other = caller
      · subst hsame
        rw [List.getElem?_set_self (List.getElem?_eq_some_iff.mp hother).1] at hcall
        cases hcall
      · rw [List.getElem?_set_ne hsame] at hcall
        exact ih hcall hlog
    | turn tick => exact ih hcall hlog

end Initial

end Machine

end Karar.Foundation
