import Karar.Outbox.EffectivelyOnce
import Karar.Outbox.Worker

/-!
# The deliveries of the workers

A worker makes its deliveries one after another, and any number of workers run at the same time. For the
database, all that they do is a run of single deliveries: `exists_consumption` gives it, with the same
transactions. So what holds of deliveries in any order holds of the workers' (`EffectivelyOnce`).
-/

namespace Karar.Outbox

open Events Foundation Machine SharedKernel
open Platform (PgError)
open Platform.Adapter (Callback Rejection)

variable {Effect Rows Thrown Result Other : Type} {decode : String → EventEnvelope}

/-! ### Programs that deliver one after another -/

/-- The delivery of an envelope to a consumer that is subscribed to it. -/
def OfBus (delivery : ConsumerDelivery Effect Rows Thrown Unit) : Prop :=
  ∃ (bus : InMemoryEventBus Effect Rows Thrown) (envelope : EventEnvelope),
    ∃ subscription ∈ bus.subscribed envelope.eventName, delivery = subscription.delivery envelope

variable (Effect Rows Thrown) in
inductive Sequential : WorkerStep Effect Rows Result → Prop
  | done (result : Result) : Sequential (.pure result)
  | relay {op : RelayOp} {next : op.Answer → WorkerStep Effect Rows Result}
      (hnext : ∀ answer, Sequential (next answer)) : Sequential (.call (.relay op) next)
  | deliver {delivery : ConsumerDelivery Effect Rows Thrown Unit} (hbus : OfBus delivery)
      {rest : Except (Rejection Thrown) (IdempotentOutcome Unit) → WorkerStep Effect Rows Result}
      (hrest : ∀ outcome, Sequential (rest outcome)) :
    Sequential ((delivery.consume.substitute asWorker).bind rest)

theorem Sequential.bind {first : WorkerStep Effect Rows Result}
    {rest : Result → WorkerStep Effect Rows Other} (hfirst : Sequential Effect Rows Thrown first)
    (hrest : ∀ result, Sequential Effect Rows Thrown (rest result)) :
    Sequential Effect Rows Thrown (first >>= rest) := by
  induction hfirst with
  | done result => exact hrest result
  | relay _ ih => exact .relay ih
  | deliver hbus _ ih =>
    show Sequential Effect Rows Thrown (Program.bind (Program.bind _ _) rest)
    rw [Program.bind_assoc]
    exact .deliver hbus ih

theorem sequential_deliverEach {bus : InMemoryEventBus Effect Rows Thrown} (envelope : EventEnvelope)
    {subscriptions : List (Subscription Effect Rows Thrown)}
    (hsubscribed : ∀ subscription ∈ subscriptions, subscription ∈ bus.subscribed envelope.eventName) :
    Sequential Effect Rows Thrown
      (deliverEach envelope subscriptions : WorkerStep Effect Rows Unit) := by
  induction subscriptions with
  | nil => exact .done ()
  | cons subscription rest ih =>
    refine .deliver ⟨bus, envelope, subscription, hsubscribed _ List.mem_cons_self, rfl⟩ fun _ ↦ ?_
    exact ih fun other hother ↦ hsubscribed other (List.mem_cons_of_mem _ hother)

theorem sequential_publish (bus : InMemoryEventBus Effect Rows Thrown) (envelope : EventEnvelope) :
    Sequential Effect Rows Thrown (bus.publish envelope) := by
  unfold InMemoryEventBus.publish
  cases getEventEntry bus.catalogue envelope.eventName with
  | error error => exact .done _
  | ok entry => exact (sequential_deliverEach envelope fun _ ↦ id).bind fun _ ↦ .done _

/-- A relay delivers through its bus only. -/
theorem sequential_substitute (runtime : WorkerRuntime Effect Rows Thrown) (program : RelayStep Result) :
    Sequential Effect Rows Thrown (program.substitute (runtime.carryOut decode)) := by
  induction program with
  | pure result => exact .done result
  | call op next ih =>
    refine Sequential.bind ?_ ih
    cases op with
    | publish id envelope => exact sequential_publish runtime.bus (decode envelope)
    | _ => exact .relay fun _ ↦ .done _

theorem sequential_execute (request : WorkerRequest Effect Rows Thrown) :
    Sequential Effect Rows Thrown (request.execute decode) := by
  cases request with
  | run runtime => exact sequential_substitute runtime _
  | stop runtime => exact sequential_substitute runtime _

/-! ### The run of the deliveries -/

section Follows

variable {c later : WorkerConfiguration Effect Rows Thrown}
  {d : ConsumerConfiguration Effect Rows Thrown Unit}

/-- What is left of a worker's run: it is between two deliveries, or within the one of its session. -/
inductive Following (d : ConsumerConfiguration Effect Rows Thrown Unit) (session : Option ℕ) :
    WorkerStep Effect Rows RelayOutcome → Prop
  | between {rest : WorkerStep Effect Rows RelayOutcome}
      (hsequential : Sequential Effect Rows Thrown rest) : Following d session rest
  | within {number : ℕ} {delivery : ConsumerDelivery Effect Rows Thrown Unit}
      {left : ConsumerStep Effect Rows (Except (Rejection Thrown) (IdempotentOutcome Unit))}
      {rest : Except (Rejection Thrown) (IdempotentOutcome Unit) → WorkerStep Effect Rows RelayOutcome}
      (hsession : session = some number) (hcall : d.calls[number]? = some ⟨delivery, .running left⟩)
      (hrest : ∀ outcome, Sequential Effect Rows Thrown (rest outcome)) :
    Following d session ((left.substitute asWorker).bind rest)

/-- The next operation of a worker's run: its relay's, the first of a delivery, or the next one of it. -/
inductive Acts (d : ConsumerConfiguration Effect Rows Thrown Unit) (session : Option ℕ) :
    (op : WorkerOp Effect) → (WorkerAnswer Effect Rows op → WorkerStep Effect Rows RelayOutcome) → Prop
  | relay {op : RelayOp} {next : op.Answer → WorkerStep Effect Rows RelayOutcome}
      (hnext : ∀ answer, Sequential Effect Rows Thrown (next answer)) : Acts d session (.relay op) next
  | begins {delivery : ConsumerDelivery Effect Rows Thrown Unit} (hbus : OfBus delivery)
      {op : ConsumerOp Effect} {next : ConsumerAnswer Effect Rows op →
        ConsumerStep Effect Rows (Except (Rejection Thrown) (IdempotentOutcome Unit))}
      (hconsume : delivery.consume = .call op next)
      {rest : Except (Rejection Thrown) (IdempotentOutcome Unit) → WorkerStep Effect Rows RelayOutcome}
      (hrest : ∀ outcome, Sequential Effect Rows Thrown (rest outcome)) :
    Acts d session (.consumer op) fun answer ↦ ((next answer).substitute asWorker).bind rest
  | continues {number : ℕ} {delivery : ConsumerDelivery Effect Rows Thrown Unit}
      {op : ConsumerOp Effect} {next : ConsumerAnswer Effect Rows op →
        ConsumerStep Effect Rows (Except (Rejection Thrown) (IdempotentOutcome Unit))}
      (hsession : session = some number)
      (hcall : d.calls[number]? = some ⟨delivery, .running (.call op next)⟩)
      {rest : Except (Rejection Thrown) (IdempotentOutcome Unit) → WorkerStep Effect Rows RelayOutcome}
      (hrest : ∀ outcome, Sequential Effect Rows Thrown (rest outcome)) :
    Acts d session (.consumer op) fun answer ↦ ((next answer).substitute asWorker).bind rest

theorem acts_of_sequential {session : Option ℕ} {program : WorkerStep Effect Rows RelayOutcome}
    (hsequential : Sequential Effect Rows Thrown program) {op : WorkerOp Effect}
    {next : WorkerAnswer Effect Rows op → WorkerStep Effect Rows RelayOutcome}
    (hprogram : program = .call op next) : Acts d session op next := by
  cases hsequential with
  | done result => cases hprogram
  | relay hnext =>
    cases hprogram
    exact .relay hnext
  | @deliver delivery hbus rest hrest =>
    obtain ⟨first, hconsume⟩ : ∃ first, delivery.consume = .call .begin first := ⟨_, rfl⟩
    rw [hconsume] at hprogram
    cases hprogram
    exact .begins hbus hconsume hrest

theorem acts_of_following {session : Option ℕ} {program : WorkerStep Effect Rows RelayOutcome}
    (hfollowing : Following d session program) {op : WorkerOp Effect}
    {next : WorkerAnswer Effect Rows op → WorkerStep Effect Rows RelayOutcome}
    (hprogram : program = .call op next) : Acts d session op next := by
  cases hfollowing with
  | between hsequential => exact acts_of_sequential hsequential hprogram
  | @within number delivery left rest hsession hcall hrest =>
    cases left with
    | pure outcome => exact acts_of_sequential (hrest outcome) hprogram
    | call performed following =>
      cases hprogram
      exact .continues hsession hcall hrest

/-- A run of deliveries with the transactions of the workers. A delivery that a worker is within is its
own. -/
structure Follows (c : WorkerConfiguration Effect Rows Thrown)
    (d : ConsumerConfiguration Effect Rows Thrown Unit) (sessions : ℕ → Option ℕ) : Prop where
  reached : Reaches (consumerMachine Effect Rows Thrown Unit) (fun _ _ ↦ True) (.initial []) d
  journal : d.store = c.store.journal
  bus : ∀ session delivery, d.Asked session delivery → OfBus delivery
  calls : ∀ caller request rest, c.calls[caller]? = some ⟨request, .running rest⟩ →
    Following d (sessions caller) rest
  lt : ∀ caller session, sessions caller = some session → session < d.calls.length
  own : ∀ first second session, sessions first = some session → sessions second = some session →
    first = second

variable {sessions : ℕ → Option ℕ} {caller : ℕ} {request : WorkerRequest Effect Rows Thrown}

/-- A call that goes on, or that is new, or has failed; the others are where they were. -/
theorem Following.set {progress : Progress (WorkerOp Effect) (WorkerAnswer Effect Rows) RelayOutcome}
    (hcalls : ∀ other asked rest, caller ≠ other →
      c.calls[other]? = some ⟨asked, .running rest⟩ → Following d (sessions other) rest)
    (hprogress : ∀ rest, progress = .running rest → Following d (sessions caller) rest) {other : ℕ}
    {asked : WorkerRequest Effect Rows Thrown} {rest : WorkerStep Effect Rows RelayOutcome}
    (hother : (c.calls.set caller ⟨request, progress⟩)[other]? = some ⟨asked, .running rest⟩) :
    Following d (sessions other) rest := by
  by_cases hsame : caller = other
  · subst hsame
    have hlt : caller < c.calls.length := by
      have hlength := (List.getElem?_eq_some_iff.mp hother).1
      rwa [List.length_set] at hlength
    rw [List.getElem?_set_self hlt, Option.some.injEq, Call.mk.injEq] at hother
    exact hprogress rest hother.2
  · rw [List.getElem?_set_ne hsame] at hother
    exact hcalls other asked rest hsame hother

/-- A worker begins a delivery. -/
theorem Follows.start (hfollows : Follows c d sessions)
    {delivery : ConsumerDelivery Effect Rows Thrown Unit} (hbus : OfBus delivery)
    {rest : Except (Rejection Thrown) (IdempotentOutcome Unit) → WorkerStep Effect Rows RelayOutcome}
    (hrest : ∀ outcome, Sequential Effect Rows Thrown (rest outcome))
    (hcall : c.calls[caller]? =
      some ⟨request, .running ((delivery.consume.substitute asWorker).bind rest)⟩) :
    Follows c { d with calls := d.calls ++ [⟨delivery, .running delivery.consume⟩] }
      (Function.update sessions caller (some d.calls.length)) := by
  have hstep : (consumerMachine Effect Rows Thrown Unit).step d (.start delivery) =
      some { d with calls := d.calls ++ [⟨delivery, .running delivery.consume⟩] } := rfl
  have hold : ∀ other session, other ≠ caller →
      Function.update sessions caller (some d.calls.length) other = some session →
        sessions other = some session := by
    intro other session hne hsession
    rwa [Function.update_of_ne hne] at hsession
  refine ⟨hfollows.reached.step trivial hstep, hfollows.journal, ?_, ?_, ?_, ?_⟩
  · intro session asked hasked
    by_cases hlt : session < d.calls.length
    · refine hfollows.bus session asked ?_
      unfold Configuration.Asked at hasked ⊢
      rwa [List.getElem?_append_left hlt] at hasked
    · unfold Configuration.Asked at hasked
      rw [List.getElem?_append_right (not_lt.mp hlt), List.getElem?_singleton] at hasked
      split_ifs at hasked
      · exact Option.some.inj hasked ▸ hbus
      · cases hasked
  · intro other asked left hother
    by_cases hsame : other = caller
    · subst hsame
      rw [hcall, Option.some.injEq, Call.mk.injEq, Progress.running.injEq] at hother
      obtain ⟨-, rfl⟩ := hother
      have hnew : (d.calls ++ [⟨delivery, .running delivery.consume⟩])[d.calls.length]? =
          some ⟨delivery, .running delivery.consume⟩ := List.getElem?_concat_length
      exact .within (Function.update_self ..) hnew hrest
    · rw [Function.update_of_ne hsame]
      cases hfollows.calls other asked left hother with
      | between hsequential => exact .between hsequential
      | within hsession hwithin hafter =>
        have hlt := (List.getElem?_eq_some_iff.mp hwithin).1
        exact .within hsession ((List.getElem?_append_left hlt).trans hwithin) hafter
  · intro other session hsession
    rw [List.length_append, List.length_singleton]
    by_cases hsame : other = caller
    · subst hsame
      rw [Function.update_self] at hsession
      obtain rfl := Option.some.inj hsession
      exact Nat.lt_succ_self _
    · exact Nat.lt_succ_of_lt (hfollows.lt other session (hold other session hsame hsession))
  · intro first second session hfirst hsecond
    by_cases hone : first = caller <;> by_cases htwo : second = caller
    · exact hone.trans htwo.symm
    · subst hone
      rw [Function.update_self] at hfirst
      obtain rfl := Option.some.inj hfirst
      exact absurd (hfollows.lt second _ (hold second _ htwo hsecond)) (lt_irrefl _)
    · subst htwo
      rw [Function.update_self] at hsecond
      obtain rfl := Option.some.inj hsecond
      exact absurd (hfollows.lt first _ (hold first _ hone hfirst)) (lt_irrefl _)
    · exact hfollows.own first second session (hold first session hone hfirst)
        (hold second session htwo hsecond)

/-- A worker goes on with its delivery. -/
theorem Follows.advance (hfollows : Follows c d sessions) {number : ℕ}
    {delivery : ConsumerDelivery Effect Rows Thrown Unit} {op : ConsumerOp Effect}
    {next : ConsumerAnswer Effect Rows op →
      ConsumerStep Effect Rows (Except (Rejection Thrown) (IdempotentOutcome Unit))}
    (hsession : sessions caller = some number)
    (hwithin : d.calls[number]? = some ⟨delivery, .running (.call op next)⟩)
    {rest : Except (Rejection Thrown) (IdempotentOutcome Unit) → WorkerStep Effect Rows RelayOutcome}
    (hrest : ∀ outcome, Sequential Effect Rows Thrown (rest outcome)) (oracle : ConsumerOracle Rows)
    (history : List (Occurrence (WorkerOp Effect) (WorkerAnswer Effect Rows))) :
    ∃ d', Follows
      { store := { c.store with journal := (performConsumer c.store.journal op oracle).1 }
        calls := c.calls.set caller ⟨request, .running
          (((next (performConsumer c.store.journal op oracle).2).substitute asWorker).bind rest)⟩
        history := history } d' sessions := by
  obtain ⟨d', hstep⟩ : ∃ d', (consumerMachine Effect Rows Thrown Unit).step d (.advance number oracle) =
      some d' := by simp [Machine.step, hwithin, consumerMachine]
  have hd' := later_of_answered hwithin rfl hstep
  have hlt := (List.getElem?_eq_some_iff.mp hwithin).1
  refine ⟨d', hfollows.reached.step trivial hstep, ?_, ?_, ?_, ?_, hfollows.own⟩
  · rw [hd']
    show (performConsumer d.store op oracle).1 = _
    rw [hfollows.journal]
  · intro session asked hasked
    refine hfollows.bus session asked ?_
    have hlength : session < d.calls.length := by
      obtain ⟨call, hcall, -⟩ := Option.map_eq_some_iff.mp hasked
      have hbelow := (List.getElem?_eq_some_iff.mp hcall).1
      rwa [hd', List.length_set] at hbelow
    exact (request_step hstep hlength).symm.trans hasked
  · intro other asked left hother
    refine Following.set ?_ ?_ hother
    · intro one asked left hne hone
      cases hfollows.calls one asked left hone with
      | between hsequential => exact .between hsequential
      | @within found begun left after hfound hcall hafter =>
        have hapart : number ≠ found := by
          rintro rfl
          exact hne (hfollows.own caller one number hsession hfound)
        have hkept : d'.calls[found]? = some ⟨begun, .running left⟩ := by
          rw [hd', List.getElem?_set_ne hapart]
          exact hcall
        exact .within hfound hkept hafter
    · intro left hleft
      obtain rfl := Progress.running.inj hleft
      have hgoes : d'.calls[number]? = some
          ⟨delivery, .running (next (performConsumer c.store.journal op oracle).2)⟩ := by
        rw [hd', List.getElem?_set_self hlt, hfollows.journal]
        rfl
      exact .within hsession hgoes hrest
  · intro other session hother
    rw [hd', List.length_set]
    exact hfollows.lt other session hother

/-- A statement of the relay, or a call that ends, leaves the transactions and the deliveries. -/
theorem Follows.kept (hfollows : Follows c d sessions) (outbox : OutboxStore)
    {progress : Progress (WorkerOp Effect) (WorkerAnswer Effect Rows) RelayOutcome}
    (hprogress : ∀ rest, progress = .running rest → Sequential Effect Rows Thrown rest)
    (history : List (Occurrence (WorkerOp Effect) (WorkerAnswer Effect Rows))) :
    Follows
      { store := { c.store with outbox := outbox }
        calls := c.calls.set caller ⟨request, progress⟩
        history := history } d sessions := by
  refine ⟨hfollows.reached, hfollows.journal, hfollows.bus, ?_, hfollows.lt, hfollows.own⟩
  intro other asked rest hother
  exact Following.set (fun one asked rest _ hone ↦ hfollows.calls one asked rest hone)
    (fun rest hrest ↦ .between (hprogress rest hrest)) hother

theorem Follows.perform (hfollows : Follows c d sessions) {op : WorkerOp Effect}
    {next : WorkerAnswer Effect Rows op → WorkerStep Effect Rows RelayOutcome}
    (hcall : c.calls[caller]? = some ⟨request, .running (.call op next)⟩) {oracle : WorkerOracle Rows}
    {store : WorkerStore Effect} {answer : WorkerAnswer Effect Rows op}
    (hanswer : c.store.perform op oracle = some (store, answer))
    (history : List (Occurrence (WorkerOp Effect) (WorkerAnswer Effect Rows))) :
    ∃ d' sessions', Follows
      { store := store
        calls := c.calls.set caller ⟨request, .running (next answer)⟩
        history := history } d' sessions' := by
  have hacts := acts_of_following (hfollows.calls caller request _ hcall) rfl
  cases hacts with
  | relay hnext =>
    obtain ⟨answered, -, hstored⟩ := Option.map_eq_some_iff.mp hanswer
    obtain ⟨rfl, rfl⟩ := Prod.mk.inj hstored
    refine ⟨d, sessions, hfollows.kept answered.1 (fun rest hrest ↦ ?_) history⟩
    exact Progress.running.inj hrest ▸ hnext answered.2
  | @begins delivery hbus op first hconsume rest hrest =>
    obtain ⟨rfl, rfl⟩ := Prod.mk.inj (Option.some.inj hanswer)
    have hbegins : c.calls[caller]? =
        some ⟨request, .running ((delivery.consume.substitute asWorker).bind rest)⟩ := by
      rw [hconsume]
      exact hcall
    have hstarted := hfollows.start hbus hrest hbegins
    have hnew : (d.calls ++ [⟨delivery, .running delivery.consume⟩])[d.calls.length]? =
        some ⟨delivery, .running (.call op first)⟩ := by
      rw [← hconsume]
      exact List.getElem?_concat_length
    obtain ⟨d', hlater⟩ := hstarted.advance (Function.update_self ..) hnew hrest oracle.consumer history
    exact ⟨d', _, hlater⟩
  | @continues number delivery op following hsession hwithin rest hrest =>
    obtain ⟨rfl, rfl⟩ := Prod.mk.inj (Option.some.inj hanswer)
    obtain ⟨d', hlater⟩ := hfollows.advance hsession hwithin hrest oracle.consumer history
    exact ⟨d', sessions, hlater⟩

/-- The connection of a transaction is lost. -/
theorem Follows.turn (hfollows : Follows c d sessions) (tick : WorkerTick) :
    ∃ d', Follows { c with store := c.store.turn tick } d' sessions := by
  cases tick with
  | outbox tick =>
    exact ⟨d, hfollows.reached, hfollows.journal, hfollows.bus, hfollows.calls, hfollows.lt, hfollows.own⟩
  | lost transaction =>
    have hlost : (consumerMachine Effect Rows Thrown Unit).step d (.turn transaction) =
        some { d with store := rollbackTransaction d.store transaction } := rfl
    refine ⟨{ d with store := rollbackTransaction d.store transaction },
      hfollows.reached.step trivial hlost, ?_, hfollows.bus, ?_, hfollows.lt, hfollows.own⟩
    · rw [hfollows.journal]
      rfl
    · intro other asked rest hother
      cases hfollows.calls other asked rest hother with
      | between hsequential => exact .between hsequential
      | within hsession hcall hrest => exact .within hsession hcall hrest

/-- A worker starts, between two deliveries. -/
theorem Follows.started (hfollows : Follows c d sessions) (request : WorkerRequest Effect Rows Thrown) :
    Follows
      { c with calls := c.calls ++ [⟨request, .running (request.execute decode)⟩] } d sessions := by
  refine ⟨hfollows.reached, hfollows.journal, hfollows.bus, ?_, hfollows.lt, hfollows.own⟩
  intro other asked rest hother
  by_cases hlt : other < c.calls.length
  · rw [List.getElem?_append_left hlt] at hother
    exact hfollows.calls other asked rest hother
  · rw [List.getElem?_append_right (not_lt.mp hlt), List.getElem?_singleton] at hother
    split_ifs at hother
    rw [Option.some.injEq, Call.mk.injEq, Progress.running.injEq] at hother
    obtain ⟨-, rfl⟩ := hother
    exact .between (sequential_execute request)

end Follows

/-! ### Runs -/

/-- The transactions of the workers are those of a run of deliveries, each of a bus to a subscribed
consumer. -/
theorem exists_consumption {now : Instant} {c : WorkerConfiguration Effect Rows Thrown}
    (hreaches : Reaches (workerMachine Effect Rows Thrown decode) (fun _ _ ↦ True)
      (.initial ⟨emptyOutbox now, []⟩) c) :
    ∃ d sessions, Follows c d sessions := by
  induction hreaches with
  | refl =>
    refine ⟨.initial [], fun _ ↦ none, .refl, rfl, ?_, ?_, ?_, ?_⟩
    · intro session delivery hasked
      simp [Configuration.Asked, Configuration.initial] at hasked
    · intro caller request rest hcall
      simp [Configuration.initial] at hcall
    · intro caller session hsession
      cases hsession
    · intro first second session hfirst
      cases hfirst
  | step _ _ hstep ih =>
    obtain ⟨d, sessions, hfollows⟩ := ih
    cases steps_of_step_eq_some hstep with
    | start request => exact ⟨d, sessions, hfollows.started request⟩
    | perform hcall hanswer => exact hfollows.perform hcall hanswer _
    | end_ hcall =>
      exact ⟨d, sessions, hfollows.kept _ (fun rest hrest ↦ by cases hrest) _⟩
    | turn tick =>
      obtain ⟨d', hlater⟩ := hfollows.turn tick
      exact ⟨d', sessions, hlater⟩

/-- A consumer has committed its receipt for an event, with the effects of a complete run of its
handler. -/
def Consumed (journal : ConsumerJournal Effect) (delivery : ConsumerDelivery Effect Rows Thrown Unit) :
    Prop :=
  ∃ transaction ∈ journal, transaction.Commits delivery.key ∧
    ∃ executed : ConsumerDelivery Effect Rows Thrown Unit, OfBus executed ∧
      executed.key = delivery.key ∧ Completes executed.fn transaction.effects

/-- A receipt is committed with the effects of its handler. -/
theorem consumed_of_committed {now : Instant} {c : WorkerConfiguration Effect Rows Thrown}
    (hreaches : Reaches (workerMachine Effect Rows Thrown decode) (fun _ _ ↦ True)
      (.initial ⟨emptyOutbox now, []⟩) c)
    {delivery : ConsumerDelivery Effect Rows Thrown Unit}
    (hcommitted : c.store.journal.Committed delivery.key) : Consumed c.store.journal delivery := by
  obtain ⟨d, sessions, hfollows⟩ := exists_consumption hreaches
  obtain ⟨transaction, hmem, hcommits⟩ := hcommitted
  refine ⟨transaction, hmem, hcommits, ?_⟩
  obtain ⟨number, hat⟩ := List.mem_iff_getElem?.mp hmem
  rw [← hfollows.journal] at hat
  obtain ⟨session, executed, hasked, -, heffects⟩ :=
    (effectively_once hfollows.reached).complete number transaction hat hcommits.2
  rcases heffects with ⟨hinserted, hcompletes⟩ | ⟨hnone, -⟩
  · have hkey := hcommits.1
    rw [hinserted] at hkey
    exact ⟨executed, hfollows.bus session executed hasked, (List.mem_singleton.mp hkey).symm, hcompletes⟩
  · have hkey := hcommits.1
    rw [hnone] at hkey
    exact absurd hkey List.not_mem_nil

end Karar.Outbox
