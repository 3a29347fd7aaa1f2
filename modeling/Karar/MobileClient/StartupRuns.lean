import Karar.MobileClient.Startup

/-!
# Runs of the startup coordinator

Every run of the coordinator takes a generation, so that the generations count the runs and the newest
one is the last to have taken its own (`newest`). A run that another one has superseded assigns the
state no more, and what a run shows rests on the answers that it got itself (`InOrder`). So the state is
what the newest run has shown last, and once that run is over it is not a state of progress.
-/

namespace Karar.MobileClient.Startup

open Foundation SharedKernel
open Foundation.EventLoop (Happening Record Scene Throughout Process Instruction logOf uses_look
  uses_act uses_await)
open Foundation.EventLoop.Loop (Keeps Reaches Yields acts_history keeps_pure keeps_look_bind
  keeps_act_bind keeps_await_bind keeps_bind keeps_ite keeps_of_uses yields_bind yields_of_returns
  follows_true reaches_finish)
open Program (uses_pure uses_bind uses_ite)
open MobileConfiguration (AppConfiguration)
open Startup.StartupCoordinator Sessions

variable {loaded : Except (List (List Char)) AppConfiguration}

abbrev ShellHappening := Happening Memory Assignment Operation.Answer Request

abbrev ShellHistory := List (Record Memory Assignment Operation.Answer Request)

abbrev ShellScene := Scene Memory Unit Assignment Operation.Answer Request

abbrev ShellProcess := Process Memory Unit Assignment Operation.Answer Request Unit

/-! ## What a history says -/

/-- The generation that a call takes. -/
def takenBy : ShellHappening → Option ℕ
  | .did before .generation => some (before.generation + 1)
  | _ => none

/-- The state that a call assigns. -/
def emittedBy : ShellHappening → Option StartupState
  | .did _ (.state next) => some next
  | _ => none

/-- The number of generations that were taken. -/
def taken (history : ShellHistory) : ℕ :=
  history.countP fun record ↦ (takenBy record.happening).isSome

/-- The call that took the last generation. -/
def newest (history : ShellHistory) : Option ℕ :=
  (history.find? fun record ↦ (takenBy record.happening).isSome).map (·.caller)

/-- The generation of a call. -/
def generationOf (log : List ShellHappening) : Option ℕ := log.findSome? takenBy

/-- The call that has assigned the state last, and what it assigned. -/
def lastShown (history : ShellHistory) : Option (ℕ × StartupState) :=
  history.findSome? fun record ↦ (emittedBy record.happening).map (record.caller, ·)

/-- A state that is neither one of progress nor the application itself. -/
def IsGate (next : StartupState) : Prop := next.isTransient = false ∧ next.isReady = false

/-- A context that may be shown. -/
def Admitted (snapshot : BootstrapSnapshot) : Prop :=
  snapshot.emailVerified = true ∧ (∃ tenant, snapshot.binding = .tenantBound tenant) ∧
    snapshot.capabilityState = .resolved ∧
    (snapshot.operatingEntityState = .assigned ∨ snapshot.operatingEntityState = .unassigned)

/-- A call has restored a credential. -/
def Restored (log : List ShellHappening) : Prop :=
  ∃ tokens restoring restored earlier,
    log = .answered .microtask () :: .asked .microtask ::
      .did restored (.session (.activeSession tokens)) ::
      .answered .readTokens (.ok (some tokens)) :: .asked .readTokens ::
      .did restoring (.state .sessionRestoring) :: earlier

/-- A call has restored a credential, found the session's refresh chain alive, and then got the
context from the bootstrap endpoint. -/
def Backed (snapshot : BootstrapSnapshot) (log : List ShellHappening) : Prop :=
  ∃ held loading earlier,
    log = .answered .loadBootstrap (.ok snapshot) :: .asked .loadBootstrap ::
        .did loading (.state .bootstrapLoading) :: earlier ∧
      Restored earlier ∧ loading.session = .activeSession held ∧
      ¬ held.IsRefreshTokenExpired loading.now ∧ Admitted snapshot

/-- The calls that come up to the gate of the application lock. -/
def AsksGate : Request → Prop
  | .start | .unlock => True
  | _ => False

/-- What the gate says lets a call read the credential. -/
def Entitled (log : List ShellHappening) (m : Memory) : Prop :=
  ∀ request, .started request ∈ log → AsksGate request → AppLockGate.isLocked m = false

/-- Where a call is the newest run, it was the last to assign the state, and has left it at one that
is not of progress. -/
def Settled (caller : ℕ) (history : ShellHistory) : Prop :=
  newest history = some caller →
    ∃ next, lastShown history = some (caller, next) ∧ next.isTransient = false

/-- A record is in order with what had happened before it. -/
def InOrder (record : Record Memory Assignment Operation.Answer Request) (older : ShellHistory) :
    Prop :=
  match record.happening with
  | .did before .generation => before.generation = taken older
  | .did _ (.state next) => newest older = some record.caller ∧
      ∀ snapshot, next = .ready snapshot → Backed snapshot (logOf record.caller older)
  | .did _ .completed => Settled record.caller older
  | .asked .readTokens => ∃ before earlier,
      logOf record.caller older = .did before (.state .sessionRestoring) :: earlier ∧
        Entitled earlier before
  | _ => True

/-- What holds of the process whenever no call runs. -/
structure Core (s : ShellScene) : Prop where
  counted : s.memory.generation = taken s.history
  ordered : Throughout InOrder s.history
  assigned : s.memory.state = ((lastShown s.history).map Prod.snd).getD .configLoading

/-! ### Generations -/

section Generations

variable {history : ShellHistory} {caller : ℕ} {happening : ShellHappening}

theorem taken_cons_of_none (htaken : takenBy happening = none) :
    taken (⟨caller, happening⟩ :: history) = taken history := by
  simp [taken, htaken]

theorem taken_cons_of_some {number : ℕ} (htaken : takenBy happening = some number) :
    taken (⟨caller, happening⟩ :: history) = taken history + 1 := by
  simp [taken, htaken]

theorem newest_cons_of_none (htaken : takenBy happening = none) :
    newest (⟨caller, happening⟩ :: history) = newest history := by
  simp [newest, htaken]

theorem newest_cons_of_some {number : ℕ} (htaken : takenBy happening = some number) :
    newest (⟨caller, happening⟩ :: history) = some caller := by
  simp [newest, htaken]

theorem lastShown_cons_of_none (hemitted : emittedBy happening = none) :
    lastShown (⟨caller, happening⟩ :: history) = lastShown history := by
  simp [lastShown, hemitted]

theorem generationOf_cons_of_none (htaken : takenBy happening = none) (log : List ShellHappening) :
    generationOf (happening :: log) = generationOf log := by
  simp [generationOf, htaken]

theorem takenBy_eq_some {number : ℕ} (htaken : takenBy happening = some number) :
    ∃ before, happening = .did before .generation ∧ number = before.generation + 1 := by
  unfold takenBy at htaken
  split at htaken
  · rename_i before
    exact ⟨before, rfl, (Option.some.inj htaken).symm⟩
  · cases htaken

theorem emittedBy_eq_some {next : StartupState} (hemitted : emittedBy happening = some next) :
    ∃ before, happening = .did before (.state next) := by
  unfold emittedBy at hemitted
  split at hemitted
  · rename_i before shown
    exact ⟨before, by rw [Option.some.inj hemitted]⟩
  · cases hemitted

/-- The generation of a call is the newest one exactly where the call is the newest run. -/
theorem generation_iff {generation : ℕ} (hordered : Throughout InOrder history)
    (hgeneration : generationOf (logOf caller history) = some generation) :
    generation ≤ taken history ∧ (generation = taken history ↔ newest history = some caller) := by
  induction history with
  | nil => cases hgeneration
  | cons record older ih =>
    obtain ⟨other, happening⟩ := record
    obtain ⟨hrecord, hordered⟩ := hordered
    cases htaken : takenBy happening with
    | none =>
      rw [taken_cons_of_none htaken, newest_cons_of_none htaken]
      refine ih hordered ?_
      by_cases hcaller : other = caller
      · subst hcaller
        rwa [EventLoop.logOf_cons_self, generationOf_cons_of_none htaken] at hgeneration
      · rwa [EventLoop.logOf_cons_of_ne hcaller] at hgeneration
    | some number =>
      obtain ⟨before, rfl, rfl⟩ := takenBy_eq_some htaken
      have hcount : before.generation = taken older := hrecord
      rw [taken_cons_of_some htaken, newest_cons_of_some htaken]
      by_cases hcaller : other = caller
      · subst hcaller
        rw [EventLoop.logOf_cons_self] at hgeneration
        obtain rfl := Option.some.inj hgeneration
        simp [hcount]
      · rw [EventLoop.logOf_cons_of_ne hcaller] at hgeneration
        have hle := (ih hordered hgeneration).1
        exact ⟨by omega, by simp [hcaller]; omega⟩

/-- The newest run has taken a generation. -/
theorem generationOf_newest (hnewest : newest history = some caller) :
    generationOf (logOf caller history) ≠ none := by
  obtain ⟨record, hfind, rfl⟩ := Option.map_eq_some_iff.mp hnewest
  intro hnone
  have hmem := EventLoop.mem_logOf.mpr (List.mem_of_find?_eq_some hfind)
  have htaken := List.findSome?_eq_none_iff.mp hnone _ hmem
  have hsome := List.find?_some hfind
  rw [htaken] at hsome
  cases hsome

/-- As long as a call is the newest run, no other call assigns the state: where it has completed, it
has settled. -/
theorem settled_of_completed {before : Memory} {earlier : List ShellHappening}
    (hordered : Throughout InOrder history)
    (hlog : logOf caller history = .did before .completed :: earlier) : Settled caller history := by
  intro hnewest
  induction history with
  | nil => cases hlog
  | cons record older ih =>
    obtain ⟨other, happening⟩ := record
    by_cases hcaller : other = caller
    · subst hcaller
      rw [EventLoop.logOf_cons_self] at hlog
      obtain rfl := (List.cons.inj hlog).1
      exact hordered.1 hnewest
    · rw [EventLoop.logOf_cons_of_ne hcaller] at hlog
      cases htaken : takenBy happening with
      | some number =>
        rw [newest_cons_of_some htaken] at hnewest
        exact absurd (Option.some.inj hnewest) hcaller
      | none =>
        rw [newest_cons_of_none htaken] at hnewest
        cases hemitted : emittedBy happening with
        | none =>
          rw [lastShown_cons_of_none hemitted]
          exact ih hordered.2 hlog hnewest
        | some next =>
          obtain ⟨_, rfl⟩ := emittedBy_eq_some hemitted
          exact absurd (Option.some.inj (hordered.1.1.symm.trans hnewest)) hcaller

end Generations

/-! ### One record -/

section Steps

variable {s : ShellScene} {caller : ℕ} {memory : Memory} {happening : ShellHappening}

/-- A happening of which nothing is required. -/
structure Quiet (happening : ShellHappening) : Prop where
  taken : takenBy happening = none
  emitted : emittedBy happening = none
  inOrder : ∀ caller older, InOrder ⟨caller, happening⟩ older

/-- A happening that takes no generation and assigns no state. -/
theorem Core.note (hcore : Core s) (htaken : takenBy happening = none)
    (hemitted : emittedBy happening = none) (horder : InOrder ⟨caller, happening⟩ s.history)
    (hgeneration : memory.generation = s.memory.generation) (hstate : memory.state = s.memory.state) :
    Core { s with memory := memory, history := ⟨caller, happening⟩ :: s.history } := by
  constructor
  · exact hgeneration.trans (hcore.counted.trans (taken_cons_of_none htaken).symm)
  · exact ⟨horder, hcore.ordered⟩
  · rw [lastShown_cons_of_none hemitted]
    exact hstate.trans hcore.assigned

theorem Core.quiet (hcore : Core s) (hquiet : Quiet happening)
    (hgeneration : memory.generation = s.memory.generation) (hstate : memory.state = s.memory.state) :
    Core { s with memory := memory, history := ⟨caller, happening⟩ :: s.history } :=
  hcore.note hquiet.taken hquiet.emitted (hquiet.inOrder caller s.history) hgeneration hstate

theorem Core.generation (hcore : Core s) : Core ((shell loaded).acts caller .generation s) := by
  constructor
  · rw [acts_history, taken_cons_of_some rfl, ← hcore.counted]
    rfl
  · exact ⟨hcore.counted, hcore.ordered⟩
  · exact hcore.assigned

/-- The newest run assigns the state. -/
theorem Core.state (hcore : Core s) {next : StartupState} (hnewest : newest s.history = some caller)
    (hbacked : ∀ snapshot, next = .ready snapshot → Backed snapshot (logOf caller s.history)) :
    Core ((shell loaded).acts caller (.state next) s) :=
  ⟨hcore.counted, ⟨⟨hnewest, hbacked⟩, hcore.ordered⟩, rfl⟩

/-- A call reads the credential right after it has shown that it restores. -/
theorem Core.asked (hcore : Core s) {before : Memory} {earlier : List ShellHappening}
    (hlog : logOf caller s.history = .did before (.state .sessionRestoring) :: earlier)
    (hentitled : Entitled earlier before) : Core (s.notes caller (.asked .readTokens)) :=
  hcore.note rfl rfl ⟨before, earlier, hlog, hentitled⟩ rfl rfl

end Steps

/-! ## The obligation of one call -/

section Rules

variable {caller generation : ℕ} {s : ShellScene}

/-- A run: its call has taken a generation. -/
structure Running (caller generation : ℕ) (s : ShellScene) : Prop where
  core : Core s
  generation : generationOf (logOf caller s.history) = some generation

/-- The run has not been superseded. -/
structure Leads (caller generation : ℕ) (s : ShellScene) : Prop
    extends Running caller generation s where
  newest : newest s.history = some caller

theorem Running.generation_iff (hrunning : Running caller generation s) :
    generation = s.memory.generation ↔ newest s.history = some caller :=
  hrunning.core.counted ▸ (Startup.generation_iff hrunning.core.ordered hrunning.generation).2

/-- A task leaves the process in order, at every await and at its end, and ends with a property. -/
abbrev Leaves (loaded : Except (List (List Char)) AppConfiguration) (caller : ℕ)
    (ends : ShellScene → Prop) {T : Type} (task : ShellTask T) (s : ShellScene) : Prop :=
  Keeps (shell loaded) Core (fun _ _ ↦ True) caller (fun last _ ↦ ends last) task s

abbrev Settles (loaded : Except (List (List Char)) AppConfiguration) (caller : ℕ)
    (task : ShellTask Unit) (s : ShellScene) : Prop :=
  Leaves loaded caller (fun last ↦ Core last ∧ Settled caller last.history) task s

/-- An instruction of which nothing is required. -/
def IsQuiet : Instruction Assignment Operation → Prop
  | .act .generation | .act (.state _) | .act .completed | .await .readTokens => False
  | _ => True

theorem IsQuiet.act {assignment : Assignment} (hquiet : IsQuiet (.act assignment)) (before : Memory) :
    Quiet (.did before assignment) ∧ (assignment.perform before).generation = before.generation ∧
      (assignment.perform before).state = before.state := by
  cases assignment with
  | generation => exact False.elim hquiet
  | state next => exact False.elim hquiet
  | completed => exact False.elim hquiet
  | _ => exact ⟨⟨rfl, rfl, fun _ _ ↦ trivial⟩, rfl, rfl⟩

theorem IsQuiet.await {op : Operation} (hquiet : IsQuiet (.await op)) : Quiet (.asked op) := by
  cases op with
  | readTokens => exact False.elim hquiet
  | _ => exact ⟨rfl, rfl, fun _ _ ↦ trivial⟩

theorem Core.act (hcore : Core s) {assignment : Assignment} (hquiet : IsQuiet (.act assignment)) :
    Core ((shell loaded).acts caller assignment s) :=
  hcore.quiet (hquiet.act _).1 (hquiet.act _).2.1 (hquiet.act _).2.2

theorem Core.awaits (hcore : Core s) {op : Operation} (hquiet : IsQuiet (.await op)) :
    Core (s.notes caller (.asked op)) :=
  hcore.quiet hquiet.await rfl rfl

theorem generationOf_act {assignment : Assignment} (hquiet : IsQuiet (.act assignment)) :
    generationOf (logOf caller ((shell loaded).acts caller assignment s).history) =
      generationOf (logOf caller s.history) := by
  rw [acts_history, EventLoop.logOf_cons_self]
  exact generationOf_cons_of_none (hquiet.act _).1.taken _

/-- A quiet task leaves its call with the generation that it has. -/
theorem leaves_of_quiet {T : Type} {task : ShellTask T} {number : Option ℕ}
    (hquiet : task.Uses IsQuiet) (hcore : Core s)
    (hnumber : generationOf (logOf caller s.history) = number) :
    Leaves loaded caller (fun last ↦ Core last ∧ generationOf (logOf caller last.history) = number)
      task s := by
  refine keeps_of_uses
    (fun s ↦ Core s ∧ generationOf (logOf caller s.history) = number) ?_ ?_ ?_ hquiet ⟨hcore, hnumber⟩
  · intro s assignment hquiet hs
    exact ⟨hs.1.act hquiet, (generationOf_act hquiet).trans hs.2⟩
  · intro s op hquiet hs
    exact hs.1.awaits hquiet
  · intro s later op answer hquiet hs hcore _ hlog
    rw [hlog]
    exact ⟨hcore, (generationOf_cons_of_none hquiet.await.taken _).trans hs.2⟩

/-- A quiet task of a call that has taken no generation. -/
theorem settles_of_quiet {task : ShellTask Unit} (hquiet : task.Uses IsQuiet) (hcore : Core s)
    (hnone : generationOf (logOf caller s.history) = none) : Settles loaded caller task s := by
  refine (leaves_of_quiet hquiet hcore hnone).mono fun last _ hlast ↦ ?_
  exact ⟨hlast.1, fun hnewest ↦ absurd hlast.2 (generationOf_newest hnewest)⟩

/-- A quiet part of a run, and then the rest. -/
theorem settles_quiet_bind {T : Type} {first : ShellTask T} {rest : T → ShellTask Unit}
    (hquiet : first.Uses IsQuiet) (hrunning : Running caller generation s)
    (hrest : ∀ later result, Running caller generation later →
      Settles loaded caller (rest result) later) :
    Settles loaded caller (first >>= rest) s :=
  keeps_bind (leaves_of_quiet hquiet hrunning.core hrunning.generation)
    fun later result hlater ↦ hrest later result ⟨hlater.1, hlater.2⟩

/-- A quiet assignment of a run that leads, and then the rest. -/
theorem settles_act_bind {assignment : Assignment} {rest : Unit → ShellTask Unit}
    (hquiet : IsQuiet (.act assignment)) (hleads : Leads caller generation s)
    (hrest : ∀ later, Leads caller generation later → Settles loaded caller (rest ()) later) :
    Settles loaded caller (act assignment >>= rest) s := by
  refine keeps_act_bind (hrest _ ⟨⟨hleads.core.act hquiet, ?_⟩, ?_⟩)
  · exact (generationOf_act hquiet).trans hleads.generation
  · exact (newest_cons_of_none (hquiet.act _).1.taken).trans hleads.newest

/-- A call takes its generation and leads, and then the rest. -/
theorem settles_nextGeneration_bind {rest : ℕ → ShellTask Unit} (hcore : Core s)
    (hrest : ∀ later generation, Leads caller generation later →
      (Entitled (logOf caller s.history) s.memory →
        Entitled (logOf caller later.history) later.memory) →
      Settles loaded caller (rest generation) later) :
    Settles loaded caller (nextGeneration >>= rest) s := by
  refine hrest ((shell loaded).acts caller .generation s) (s.memory.generation + 1)
    ⟨⟨hcore.generation, ?_⟩, rfl⟩ fun hentitled request hstarted ↦ ?_
  · rw [acts_history, EventLoop.logOf_cons_self]
    rfl
  · rw [acts_history, EventLoop.logOf_cons_self, List.mem_cons] at hstarted
    exact hentitled request (hstarted.resolve_left (by simp))

/-- What a run that leads emits is assigned. -/
theorem keeps_emit {next : StartupState} (hleads : Leads caller generation s) :
    Leaves loaded caller (fun last ↦ last = (shell loaded).acts caller (.state next) s)
      (emit next generation) s := by
  refine keeps_look_bind (keeps_ite (fun hne ↦ ?_) fun _ ↦ ?_)
  · exact absurd (hleads.generation_iff.mpr hleads.newest) hne
  · show (shell loaded).acts caller (.state next) s = _
    rfl

/-- A run that leads shows a state, and then the rest. -/
theorem settles_emit_bind {next : StartupState} {rest : Unit → ShellTask Unit}
    (hleads : Leads caller generation s) (hready : next.isReady = false)
    (hrest : Leads caller generation ((shell loaded).acts caller (.state next) s) →
      Settles loaded caller (rest ()) ((shell loaded).acts caller (.state next) s)) :
    Settles loaded caller (emit next generation >>= rest) s := by
  refine keeps_bind (keeps_emit hleads) ?_
  rintro _ _ rfl
  refine hrest ⟨⟨hleads.core.state hleads.newest ?_, ?_⟩, ?_⟩
  · rintro snapshot rfl
    cases hready
  · rw [acts_history, EventLoop.logOf_cons_self]
    exact hleads.generation
  · exact (newest_cons_of_none rfl).trans hleads.newest

/-- A run that leads ends with a state. -/
theorem settles_emit {next : StartupState} (hleads : Leads caller generation s)
    (htransient : next.isTransient = false)
    (hbacked : ∀ snapshot, next = .ready snapshot → Backed snapshot (logOf caller s.history)) :
    Settles loaded caller (emit next generation) s := by
  refine (keeps_emit hleads).mono ?_
  rintro _ _ rfl
  exact ⟨hleads.core.state hleads.newest hbacked, fun _ ↦ ⟨next, rfl, htransient⟩⟩

/-- A run that leads ends at a gate. -/
theorem settles_emit_gate {next : StartupState} (hleads : Leads caller generation s)
    (hgate : IsGate next) :
    Settles loaded caller (emit next generation) s := by
  refine settles_emit hleads hgate.1 ?_
  rintro snapshot rfl
  cases hgate.2

/-- What a run does unless another one has superseded it. -/
theorem settles_unlessSuperseded {rest : ShellTask Unit} (hrunning : Running caller generation s)
    (hrest : Leads caller generation s → Settles loaded caller rest s) :
    Settles loaded caller (unlessSuperseded generation rest) s := by
  refine keeps_look_bind (keeps_ite (fun hne ↦ ?_) fun heq ↦ ?_)
  · refine keeps_pure ⟨hrunning.core, fun hnewest ↦ ?_⟩
    exact absurd (hrunning.generation_iff.mpr hnewest) hne
  · exact hrest ⟨hrunning, hrunning.generation_iff.mp (not_not.mp heq)⟩

end Rules

/-! ## The tasks -/

section Tasks

variable {caller generation : ℕ} {s : ShellScene}

theorem isGate_stateForAbandonment (outcome : SessionAbandonmentOutcome) :
    IsGate (stateForAbandonment outcome) := by
  cases outcome <;> exact ⟨rfl, rfl⟩

theorem isGate_stateForEnd (event : SessionEnded) :
    IsGate (stateForEnd event) := by
  unfold stateForEnd
  split_ifs
  · exact ⟨rfl, rfl⟩
  · exact isGate_stateForAbandonment event.outcome

theorem isGate_stateForBootstrapFailure (failure : Failure) :
    IsGate (stateForBootstrapFailure failure) := by
  unfold stateForBootstrapFailure
  split <;> exact ⟨rfl, rfl⟩

/-- The application is shown for a context that may be shown, and with that context. -/
theorem stateForBound_cases (snapshot : BootstrapSnapshot) :
    IsGate (stateForBound snapshot) ∨
      stateForBound snapshot = .ready snapshot ∧
        snapshot.capabilityState = .resolved ∧
        (snapshot.operatingEntityState = .assigned ∨ snapshot.operatingEntityState = .unassigned) := by
  unfold stateForBound
  split_ifs with hresolved hentity
  · exact .inl ⟨rfl, rfl⟩
  · exact .inl ⟨rfl, rfl⟩
  · refine .inr ⟨rfl, not_not.mp hresolved, ?_⟩
    rw [not_or] at hentity
    cases hstate : snapshot.operatingEntityState with
    | assigned => exact .inl rfl
    | unassigned => exact .inr rfl
    | unavailable => exact absurd hstate hentity.1
    | unknown => exact absurd hstate hentity.2

theorem stateForSnapshot_cases (snapshot : BootstrapSnapshot) :
    IsGate (stateForSnapshot snapshot) ∨
      stateForSnapshot snapshot = .ready snapshot ∧ Admitted snapshot := by
  unfold stateForSnapshot
  split_ifs with hverified
  · exact .inl ⟨rfl, rfl⟩
  · split
    · exact .inl ⟨rfl, rfl⟩
    · exact .inl ⟨rfl, rfl⟩
    · rename_i tenant hbinding
      refine (stateForBound_cases snapshot).imp_right fun hready ↦ ⟨hready.1, ?_⟩
      exact ⟨by simpa using hverified, ⟨tenant, hbinding⟩, hready.2⟩

theorem uses_endSession (reason : SessionEndReason) : (endSession reason).Uses IsQuiet := by
  refine uses_bind (uses_look trivial) fun m ↦ uses_ite ?_ ?_
  · exact uses_pure _
  · refine uses_bind (uses_act trivial) fun _ ↦
      uses_bind (uses_await trivial) fun _ ↦
        uses_bind (uses_act trivial) fun _ ↦ uses_pure _

theorem uses_abandonPersistedSession : abandonPersistedSession.Uses IsQuiet :=
  uses_bind (uses_act trivial) fun _ ↦ uses_await trivial

theorem uses_load : AppLockGate.load.Uses IsQuiet :=
  uses_bind (uses_await trivial) fun _ ↦
    uses_bind (uses_act trivial) fun _ ↦ uses_pure _

theorem uses_awaited {T : Type} {task : ShellTask T} (hquiet : task.Uses IsQuiet) :
    (awaited task).Uses IsQuiet :=
  uses_bind hquiet fun _ ↦
    uses_bind (uses_await trivial) fun _ ↦ uses_pure _

theorem uses_setEnabled (enabled : Bool) : (AppLockGate.setEnabled enabled).Uses IsQuiet := by
  refine uses_bind (uses_await trivial) fun outcome ↦ uses_ite ?_ ?_
  · refine uses_bind (uses_act trivial) fun _ ↦ uses_ite ?_ ?_
    · exact uses_act trivial
    · exact uses_pure _
  · exact uses_pure _

theorem settles_endAgedOut (hrunning : Running caller generation s) :
    Settles loaded caller (endAgedOut generation) s := by
  refine settles_quiet_bind (uses_awaited (uses_endSession _)) hrunning fun later _ hlater ↦ ?_
  exact settles_unlessSuperseded hlater fun hleads ↦ settles_emit_gate hleads ⟨rfl, rfl⟩

theorem settles_bootstrap (hleads : Leads caller generation s)
    (hrestored : Restored (logOf caller s.history)) {held : SessionTokens}
    (hsession : s.memory.session = .activeSession held)
    (halive : ¬ held.IsRefreshTokenExpired s.memory.now) :
    Settles loaded caller (bootstrap generation) s := by
  refine settles_emit_bind hleads rfl fun hleads ↦ ?_
  refine keeps_await_bind (hleads.core.awaits trivial) ?_
  intro answered later hcore _ hlog
  have hrunning : Running caller generation later := ⟨hcore, hlog ▸ hleads.generation⟩
  refine settles_unlessSuperseded hrunning fun hleads ↦ ?_
  cases answered with
  | error failure => exact settles_emit_gate hleads (isGate_stateForBootstrapFailure failure)
  | ok snapshot =>
    show Settles loaded caller
      (emit (stateForSnapshot snapshot) generation) later
    rcases stateForSnapshot_cases snapshot with hgate | ⟨hready, hadmitted⟩
    · exact settles_emit_gate hleads hgate
    · rw [hready]
      refine settles_emit hleads rfl fun shown hshown ↦ ?_
      obtain rfl := StartupState.ready.inj hshown
      refine ⟨held, s.memory, _, hlog.trans ?_, hrestored, hsession, halive, hadmitted⟩
      rw [acts_history, EventLoop.logOf_cons_self]

theorem settles_continueWithSession (hleads : Leads caller generation s)
    (hrestored : Restored (logOf caller s.history)) :
    Settles loaded caller (continueWithSession generation) s := by
  refine keeps_look_bind ?_
  cases hsession : s.memory.session with
  | noSession => exact settles_emit_gate hleads ⟨rfl, rfl⟩
  | activeSession held =>
    refine keeps_ite (fun _ ↦ ?_) fun halive ↦ ?_
    · exact settles_endAgedOut hleads.toRunning
    · exact settles_bootstrap hleads hrestored hsession halive

theorem settles_restoreAndBootstrap (hleads : Leads caller generation s)
    (hentitled : Entitled (logOf caller s.history) s.memory) :
    Settles loaded caller (restoreAndBootstrap generation) s := by
  refine settles_emit_bind hleads rfl fun hleads ↦ ?_
  -- The read of the store, with the session in memory set right after it.
  refine ⟨hleads.core.asked (EventLoop.logOf_cons_self _ _ _) hentitled, ?_⟩
  intro stored later hcore _ hlog
  have hcore :
      Core ((shell loaded).acts caller (.session (SessionManager.restoredState stored)) later) :=
    hcore.act trivial
  refine ⟨hcore.awaits trivial, ?_⟩
  intro _ last hcore _ hlast
  rw [acts_history, EventLoop.logOf_cons_self, hlog] at hlast
  have hrunning : Running caller generation last := ⟨hcore, hlast ▸ hleads.generation⟩
  refine settles_unlessSuperseded hrunning fun hleads ↦ ?_
  match stored with
  | .error _ => exact settles_emit_gate hleads ⟨rfl, rfl⟩
  | .ok none => exact settles_emit_gate hleads ⟨rfl, rfl⟩
  | .ok (some tokens) =>
    refine settles_continueWithSession hleads
      ⟨tokens, s.memory, later.memory, logOf caller s.history, hlast.trans ?_⟩
    rw [acts_history, EventLoop.logOf_cons_self]
    rfl

theorem settles_afterLoad (choice : AppLockChoice) (hleads : Leads caller generation s) :
    Settles loaded caller (afterLoad generation choice) s := by
  cases choice with
  | unavailable failure => exact settles_emit_gate hleads ⟨rfl, rfl⟩
  | notLoaded => exact settles_emit_gate hleads ⟨rfl, rfl⟩
  | known enabled =>
    refine keeps_look_bind (keeps_ite (fun _ ↦ ?_) fun hlocked ↦ ?_)
    · exact settles_emit_gate hleads ⟨rfl, rfl⟩
    · exact settles_restoreAndBootstrap hleads fun _ _ _ ↦ by simpa using hlocked

theorem settles_start (hcore : Core s) :
    Settles loaded caller (start loaded) s := by
  refine settles_nextGeneration_bind hcore fun later generation hleads _ ↦ ?_
  refine settles_act_bind trivial hleads fun later hleads ↦ ?_
  refine settles_emit_bind hleads rfl fun hleads ↦ ?_
  cases loaded with
  | error violations =>
    refine settles_act_bind trivial hleads fun later hleads ↦ ?_
    exact settles_emit_gate hleads ⟨rfl, rfl⟩
  | ok value =>
    refine settles_act_bind trivial hleads fun later hleads ↦ ?_
    refine settles_quiet_bind (uses_awaited uses_load) hleads.toRunning fun last choice hrunning ↦ ?_
    exact settles_unlessSuperseded hrunning (settles_afterLoad choice)

theorem settles_restart (hcore : Core s) (hentitled : Entitled (logOf caller s.history) s.memory) :
    Settles loaded caller restart s :=
  settles_nextGeneration_bind hcore fun _ _ hleads hcarries ↦
    settles_restoreAndBootstrap hleads (hcarries hentitled)

theorem settles_emitNext {next : StartupState} (hcore : Core s) (hgate : IsGate next) :
    Settles loaded caller (emitNext next) s :=
  settles_nextGeneration_bind hcore fun _ _ hleads _ ↦ settles_emit_gate hleads hgate

theorem settles_abandonLockedSession (hcore : Core s) :
    Settles loaded caller abandonLockedSession s := by
  refine settles_nextGeneration_bind hcore fun later generation hleads _ ↦ ?_
  refine settles_quiet_bind (uses_awaited uses_abandonPersistedSession) hleads.toRunning ?_
  intro last abandoned hrunning
  refine settles_unlessSuperseded hrunning fun hleads ↦ ?_
  exact settles_emit_gate hleads (isGate_stateForAbandonment abandoned)

/-- An unlock opens the gate before anything else. -/
theorem settles_unlock (hcore : Core s) :
    Settles loaded caller (unlock loaded) s := by
  refine keeps_act_bind (keeps_look_bind ?_)
  have hcore : Core ((shell loaded).acts caller (.unlockedThisLaunch true) s) := hcore.act trivial
  refine keeps_ite (fun _ ↦ settles_start hcore) fun _ ↦ ?_
  exact settles_restart hcore fun _ _ _ ↦ rfl

/-- The body of every call settles. -/
theorem settles_body {request : Request} (hcore : Core s)
    (hlog : logOf caller s.history = [.started request]) :
    Settles loaded caller (request.body loaded) s := by
  have hnone : generationOf (logOf caller s.history) = none := by rw [hlog]; rfl
  have hentitled : ¬ AsksGate request → Entitled (logOf caller s.history) s.memory := by
    intro hgate asked hasked hasks
    rw [hlog, List.mem_singleton] at hasked
    obtain rfl := Happening.started.inj hasked
    exact absurd hasks hgate
  have hends : ∀ reason, Settles loaded caller (Request.body loaded (.endSession reason)) s :=
    fun reason ↦ settles_of_quiet
      (uses_bind (uses_endSession reason) fun _ ↦ uses_pure _) hcore hnone
  cases request with
  | start => exact settles_start hcore
  | unlock => exact settles_unlock hcore
  | onAuthenticated => exact settles_restart hcore (hentitled id)
  | onMfaChallengeRequired => exact settles_emitNext hcore ⟨rfl, rfl⟩
  | onMfaChallengeAbandoned => exact settles_emitNext hcore ⟨rfl, rfl⟩
  | onEmailVerified => exact settles_restart hcore (hentitled id)
  | onTenantSelected => exact settles_restart hcore (hentitled id)
  | retryBootstrap => exact settles_restart hcore (hentitled id)
  | abandonLockedSession => exact settles_abandonLockedSession hcore
  | retrySecurityRecovery => exact settles_abandonLockedSession hcore
  | onSessionEnded =>
    refine keeps_look_bind ?_
    cases s.memory.ended with
    | nil => exact settles_of_quiet (uses_pure _) hcore hnone
    | cons event _ =>
      exact keeps_act_bind
        (settles_emitNext (hcore.act trivial) (isGate_stateForEnd event))
  | signOut => exact hends .signedOut
  | endSession reason => exact hends reason
  | adopt tokens =>
    refine settles_of_quiet (uses_bind ?_ fun _ ↦ uses_pure _) hcore hnone
    exact uses_bind (uses_act trivial) fun _ ↦ uses_await trivial
  | abandonPersistedSession =>
    exact settles_of_quiet
      (uses_bind uses_abandonPersistedSession fun _ ↦ uses_pure _) hcore hnone
  | relock => exact settles_of_quiet (uses_act trivial) hcore hnone
  | setLockEnabled enabled => exact settles_of_quiet (uses_setEnabled enabled) hcore hnone

end Tasks

/-! ## Whole runs -/

section Runs

variable {now : Instant} {p : ShellProcess}

/-- Every process that is reached from a start of the application. -/
abbrev ShellReaches (loaded : Except (List (List Char)) AppConfiguration) (now : Instant)
    (p : ShellProcess) : Prop :=
  Reaches (shell loaded) (fun _ _ ↦ True) (.initial (.launched now) ()) p

theorem core_of_reached (hreaches : ShellReaches loaded now p) : Core p.scene := by
  refine (hreaches.keeps Core ⟨rfl, trivial, rfl⟩ ?_ ?_ ?_).scene
  · intro s request caller hcore _ hlog
    have hstarted : Core (s.notes caller (.started request)) :=
      hcore.quiet ⟨rfl, rfl, fun _ _ ↦ trivial⟩ rfl rfl
    refine keeps_bind (settles_body hstarted ?_) ?_
    · rw [EventLoop.Scene.notes_history, EventLoop.logOf_cons_self, hlog]
    · intro last _ hlast
      exact hlast.1.note rfl rfl hlast.2 rfl rfl
  · intro s caller oracle op earlier world answer hcore _ _ _
    exact hcore.quiet ⟨rfl, rfl, fun _ _ ↦ trivial⟩ rfl rfl
  · intro s tick hcore _
    exact ⟨hcore.counted, hcore.ordered, hcore.assigned⟩

/-- The last thing a call does is to complete. -/
theorem completed_of_reached (hreaches : ShellReaches loaded now p) {caller : ℕ} {request : Request}
    (hover : p.calls[caller]? = some ⟨request, .suspended (.pure ())⟩) :
    ∃ before earlier, logOf caller p.scene.history = .did before .completed :: earlier := by
  have hcompletes : ∀ request caller, Yields
      (fun log _ ↦ ∃ before earlier, log = .did before .completed :: earlier) [.started request]
      ((shell loaded).task request caller) := by
    intro request caller
    refine yields_bind
      (yields_of_returns (Program.returns_true (request.body loaded))) ?_
    exact fun log _ _ before ↦ ⟨before, log, rfl⟩
  exact (hreaches.yields hcompletes).2 caller _ hover

/-- The application is shown only for a context that the newest run has loaded over a credential it
restored and found alive, and no state was assigned since. -/
theorem ready_of_reached (hreaches : ShellReaches loaded now p) {snapshot : BootstrapSnapshot}
    (hready : p.scene.memory.state = .ready snapshot) :
    ∃ newer caller before older,
      p.scene.history = newer ++ ⟨caller, .did before (.state (.ready snapshot))⟩ :: older ∧
        (∀ record ∈ newer, emittedBy record.happening = none) ∧
        newest older = some caller ∧ Backed snapshot (logOf caller older) := by
  have hcore := core_of_reached hreaches
  have hassigned := hcore.assigned.symm.trans hready
  cases hlast : lastShown p.scene.history with
  | none => rw [hlast] at hassigned; cases hassigned
  | some shown =>
    obtain ⟨newer, ⟨caller, happening⟩, older, hhistory, hrecord, hnewer⟩ :=
      List.findSome?_eq_some_iff.mp hlast
    obtain ⟨next, hemitted, rfl⟩ := Option.map_eq_some_iff.mp hrecord
    obtain ⟨before, rfl⟩ := emittedBy_eq_some hemitted
    rw [hlast] at hassigned
    obtain rfl : next = .ready snapshot := hassigned
    obtain ⟨hnewest, hbacked⟩ := (hhistory ▸ hcore.ordered).split
    exact ⟨newer, caller, before, older, hhistory,
      fun record hrecord ↦ Option.map_eq_none_iff.mp (hnewer record hrecord), hnewest,
      hbacked snapshot rfl⟩

/-- Only the newest run assigns the state. Once its call is over, whatever the runs that it has
superseded still await, the state is what it has shown last, and not a state of progress. -/
theorem newest_run_decides (hreaches : ShellReaches loaded now p) :
    (∀ newer caller before next older,
      p.scene.history = newer ++ ⟨caller, .did before (.state next)⟩ :: older →
        newest older = some caller) ∧
      ∀ caller request, newest p.scene.history = some caller →
        p.calls[caller]? = some ⟨request, .suspended (.pure ())⟩ →
        lastShown p.scene.history = some (caller, p.scene.memory.state) ∧
          p.scene.memory.state.isTransient = false := by
  have hcore := core_of_reached hreaches
  constructor
  · intro newer caller before next older hhistory
    exact (hhistory ▸ hcore.ordered).split.1
  · intro caller request hnewest hover
    obtain ⟨before, earlier, hlog⟩ := completed_of_reached hreaches hover
    obtain ⟨next, hlast, htransient⟩ := settled_of_completed hcore.ordered hlog hnewest
    have hstate : p.scene.memory.state = next := by
      rw [hcore.assigned, hlast]
      rfl
    exact hstate ▸ ⟨hlast, htransient⟩

/-- A start, and an unlock, read the stored credential only with the gate of the application lock open
at that moment. -/
theorem credential_behind_gate (hreaches : ShellReaches loaded now p) {caller : ℕ}
    {newer older : ShellHistory} {request : Request}
    (hhistory : p.scene.history = newer ++ ⟨caller, .asked .readTokens⟩ :: older)
    (hstarted : .started request ∈ logOf caller older) (hgate : AsksGate request) :
    ∃ before earlier, logOf caller older = .did before (.state .sessionRestoring) :: earlier ∧
      AppLockGate.isLocked before = false := by
  obtain ⟨before, earlier, hlog, hentitled⟩ :=
    (hhistory ▸ (core_of_reached hreaches).ordered : Throughout InOrder _).split
  refine ⟨before, earlier, hlog, hentitled request ?_ hgate⟩
  rw [hlog, List.mem_cons] at hstarted
  exact hstarted.resolve_left (by simp)

/-! ### A launch -/

def builtConfiguration : AppConfiguration :=
  ⟨.dev, ⟨"https".toList, [], "api.dev".toList⟩, "1.0.0".toList, "1".toList, "karar".toList⟩

/-- A start on a device without a lock comes to the stored credential. -/
def restoring : ShellProcess :=
  (shell (.ok builtConfiguration)).finish (.initial (.launched 0) ())
    [.start .start, .answer 0 (.securityState .absent), .resume 0, .answer 0 .completes, .resume 0]

theorem credential_behind_gate_restoring :
    restoring.scene.memory.choice = .known false ∧
      ∃ before earlier, logOf 0 restoring.scene.history.tail =
          .did before (.state .sessionRestoring) :: earlier ∧
        AppLockGate.isLocked before = false := by
  have hreaches : ShellReaches (.ok builtConfiguration) 0 restoring :=
    reaches_finish (follows_true _ _)
  have hhistory : restoring.scene.history =
      [] ++ ⟨0, .asked .readTokens⟩ :: restoring.scene.history.tail := rfl
  have hstarted : (logOf 0 restoring.scene.history.tail).getLast? = some (.started .start) := rfl
  exact ⟨rfl, credential_behind_gate hreaches hhistory (List.mem_of_getLast? hstarted) trivial⟩

def boundSnapshot : BootstrapSnapshot :=
  ⟨true, .tenantBound ⟨"tenant", "Tenant", "owner"⟩, .assigned, .resolved⟩

/-- It restores a credential that is alive, and the bootstrap endpoint answers. -/
def launched : ShellProcess :=
  (shell (.ok builtConfiguration)).finish restoring
    [.answer 0 (.tokens (.ok (some ⟨"access", 900000, "refresh", 86400000, "session"⟩))), .resume 0,
      .answer 0 .completes, .resume 0, .answer 0 (.bootstrap (.ok boundSnapshot)), .resume 0]

theorem launched_reached : ShellReaches (.ok builtConfiguration) 0 launched :=
  (reaches_finish (follows_true _ _)).trans
    (reaches_finish (follows_true _ _))

theorem ready_of_launched :
    launched.scene.memory.state = .ready boundSnapshot ∧
      ∃ newer caller before older,
        launched.scene.history =
            newer ++ ⟨caller, .did before (.state (.ready boundSnapshot))⟩ :: older ∧
          (∀ record ∈ newer, emittedBy record.happening = none) ∧
          newest older = some caller ∧ Backed boundSnapshot (logOf caller older) :=
  ⟨rfl, ready_of_reached launched_reached rfl⟩

theorem newest_run_decides_launched :
    newest launched.scene.history = some 0 ∧
      lastShown launched.scene.history = some (0, launched.scene.memory.state) ∧
      launched.scene.memory.state.isTransient = false :=
  ⟨rfl, (newest_run_decides launched_reached).2 0 _ rfl rfl⟩

end Runs

end Karar.MobileClient.Startup
