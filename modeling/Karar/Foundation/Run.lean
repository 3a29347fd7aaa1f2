import Mathlib.Data.List.Basic
import Mathlib.Data.Option.Basic

/-!
# Runs of a state machine

A run is the list of the calls that a state machine performs one after another. `EveryStep` says
that each call of a run meets a condition on the state it starts from. Two conditions that agree in
every state an invariant admits agree along whole runs (`everyStep_congr`).

Runs of a machine in which an event is not always possible: `step` is `none` where it is not. A
schedule is a list of events. What every event of a condition keeps holds wherever a schedule of such
events leads (`Reaches.keeps`).
-/

namespace Karar.Foundation

/-! ## Calls one after another -/

section Run

variable {State Call : Type*}

/-- Each call of a run meets the condition in the state it starts from. -/
def EveryStep (step : State → Call → State) (condition : State → Call → Prop) :
    State → List Call → Prop
  | _, [] => True
  | state, call :: rest =>
    condition state call ∧ EveryStep step condition (step state call) rest

instance decidableEveryStep {step : State → Call → State} {condition : State → Call → Prop}
    [∀ state call, Decidable (condition state call)] :
    ∀ state calls, Decidable (EveryStep step condition state calls)
  | _, [] => inferInstanceAs (Decidable True)
  | state, call :: rest =>
    @instDecidableAnd _ _ inferInstance (decidableEveryStep (step state call) rest)

/-- Assumes: an invariant of the state and the calls to come, under which the two conditions agree
on the next call, and which that call preserves when it meets them. Then the conditions agree along
the whole run. -/
theorem everyStep_congr {step : State → Call → State} {first second : State → Call → Prop}
    {invariant : State → List Call → Prop}
    (hagree : ∀ state call rest, invariant state (call :: rest) →
      (first state call ↔ second state call))
    (hkept : ∀ state call rest, invariant state (call :: rest) → first state call →
      invariant (step state call) rest)
    {state : State} {calls : List Call} (hinvariant : invariant state calls) :
    EveryStep step first state calls ↔ EveryStep step second state calls := by
  induction calls generalizing state with
  | nil => exact Iff.rfl
  | cons call rest ih =>
    unfold EveryStep
    rw [← hagree state call rest hinvariant]
    refine and_congr_right fun hfirst ↦ ?_
    exact ih (hkept state call rest hinvariant hfirst)

/-- The calls of a run split where the run does. -/
theorem everyStep_append {step : State → Call → State} {condition : State → Call → Prop} {state : State}
    {first second : List Call} :
    EveryStep step condition state (first ++ second) ↔
      EveryStep step condition state first ∧ EveryStep step condition (first.foldl step state) second := by
  induction first generalizing state with
  | nil => simp [EveryStep]
  | cons call rest ih => simp only [List.cons_append, EveryStep, List.foldl_cons, ih, and_assoc]

end Run

/-! ## Schedules of events -/

namespace Schedule

variable {State Event : Type} {step : State → Event → Option State}
  {condition : State → Event → Prop} {first s later : State}

/-- Reachability by events that meet a condition. -/
inductive Reaches (step : State → Event → Option State) (condition : State → Event → Prop)
    (first : State) : State → Prop
  | refl : Reaches step condition first first
  | step {s later : State} {event : Event} (hreaches : Reaches step condition first s)
      (hcondition : condition s event) (hstep : step s event = some later) :
    Reaches step condition first later

theorem Reaches.trans (hfirst : Reaches step condition first s)
    (hsecond : Reaches step condition s later) : Reaches step condition first later := by
  induction hsecond with
  | refl => exact hfirst
  | step _ hcondition hstep ih => exact ih.step hcondition hstep

/-- Assumes: an invariant that every event keeps which meets the condition. -/
theorem Reaches.keeps {invariant : State → Prop} (hreaches : Reaches step condition first s)
    (hfirst : invariant first)
    (hkept : ∀ s event later, invariant s → condition s event → step s event = some later →
      invariant later) : invariant s := by
  induction hreaches with
  | refl => exact hfirst
  | step _ hcondition hstep ih => exact hkept _ _ _ ih hcondition hstep

/-- The state after a schedule. `none` means that an event of it is not possible. -/
def after (step : State → Event → Option State) (s : State) : List Event → Option State
  | [] => some s
  | event :: events => (step s event).bind fun later ↦ after step later events

/-- Where a schedule ends that goes through; otherwise where it starts. -/
def finish (step : State → Event → Option State) (s : State) (events : List Event) : State :=
  (after step s events).getD s

/-- The events of a schedule meet a condition, each in the state it happens in. -/
def Follows (step : State → Event → Option State) (condition : State → Event → Prop) (s : State) :
    List Event → Prop
  | [] => True
  | event :: events =>
    condition s event ∧ ∀ later ∈ step s event, Follows step condition later events

instance decidableFollows [∀ s event, Decidable (condition s event)] (s : State) :
    ∀ events, Decidable (Follows step condition s events)
  | [] => isTrue trivial
  | event :: events =>
    have : ∀ later, Decidable (Follows step condition later events) :=
      fun later ↦ decidableFollows later events
    inferInstanceAs (Decidable (_ ∧ ∀ later ∈ step s event, _))

theorem follows_true (s : State) (events : List Event) :
    Follows step (fun _ _ ↦ True) s events := by
  induction events generalizing s with
  | nil => trivial
  | cons event events ih => exact ⟨trivial, fun later _ ↦ ih later⟩

theorem reaches_of_after {events : List Event} (hfollows : Follows step condition s events)
    (hafter : after step s events = some later) : Reaches step condition s later := by
  induction events generalizing s with
  | nil => exact Option.some.inj hafter ▸ .refl
  | cons event events ih =>
    obtain ⟨next, hstep, hrest⟩ := Option.bind_eq_some_iff.mp hafter
    exact (Reaches.step .refl hfollows.1 hstep).trans (ih (hfollows.2 next hstep) hrest)

theorem reaches_finish {events : List Event} (hfollows : Follows step condition s events) :
    Reaches step condition s (finish step s events) := by
  unfold finish
  cases hafter : after step s events with
  | none => exact .refl
  | some later => exact reaches_of_after hfollows hafter

end Schedule

end Karar.Foundation
