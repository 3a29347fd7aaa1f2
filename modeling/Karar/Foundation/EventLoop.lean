import Karar.Foundation.Program

/-!
# Event loops

Asynchronous calls of one process on a single thread. A task runs by itself from one await to the
next: in between it looks at the memory of the process and assigns to it, and no other task runs. At
an await it hands an operation to the world outside and is suspended. The world answers in its own
time; later, once again on its own, the task is resumed with the answer. Between the answer and the
resumption, as between the await and the answer, other tasks run.

`Yields` is what a task returns by its log, whatever the memory and the answers are.

`Keeps` is the proof obligation of one task: at every await, and at its end, an invariant of the
whole scene holds again, whatever the other tasks did to the scene within the invariant while it was
suspended. Inside a segment nothing is asked. `Reaches.keeps` carries the invariant along a run.
-/

namespace Karar.Foundation.EventLoop

/-- What a task does next. -/
inductive Instruction (Act Op : Type) : Type
  | look
  | act (act : Act)
  | await (op : Op)

/-- What a task gets for an instruction. -/
def Instruction.Response (Memory : Type) {Act Op : Type} (Answer : Op → Type) :
    Instruction Act Op → Type
  | look => Memory
  | act _ => Unit
  | await op => Answer op

/-- A task: what an asynchronous call does, and what it returns. -/
abbrev Task (Memory Act : Type) {Op : Type} (Answer : Op → Type) (Result : Type) : Type :=
  Program (Instruction Act Op) (Instruction.Response Memory Answer) Result

variable {Memory World Act Op : Type} {Answer : Op → Type} {Oracle Request Reply Tick Result : Type}

/-- The memory of the process, as it is now. -/
def look : Task Memory Act Answer Memory :=
  @Program.perform (Instruction Act Op) (Instruction.Response Memory Answer) .look

/-- An assignment to the memory. -/
def act (assignment : Act) : Task Memory Act Answer Unit :=
  @Program.perform (Instruction Act Op) (Instruction.Response Memory Answer) (.act assignment)

def await (op : Op) : Task Memory Act Answer (Answer op) :=
  @Program.perform (Instruction Act Op) (Instruction.Response Memory Answer) (.await op)

/-! ### The instructions of a task -/

section Uses

variable {kind : Instruction Act Op → Prop}

theorem uses_look (hkind : kind .look) :
    (look : Task Memory Act Answer Memory).Uses kind :=
  Program.uses_perform hkind

theorem uses_act {assignment : Act} (hkind : kind (.act assignment)) :
    (act assignment : Task Memory Act Answer Unit).Uses kind :=
  Program.uses_perform hkind

theorem uses_await {op : Op} (hkind : kind (.await op)) :
    (await op : Task Memory Act Answer (Answer op)).Uses kind :=
  Program.uses_perform hkind

end Uses

/-! ### What happens -/

/-- What happened to a call. -/
inductive Happening (Memory Act : Type) {Op : Type} (Answer : Op → Type) (Request : Type) : Type
  | started (request : Request)
  /-- An assignment, with the memory it was made to. -/
  | did (before : Memory) (act : Act)
  | asked (op : Op)
  | answered (op : Op) (answer : Answer op)

structure Record (Memory Act : Type) {Op : Type} (Answer : Op → Type) (Request : Type) : Type where
  caller : ℕ
  happening : Happening Memory Act Answer Request

/-- What happened to one call, latest first. -/
def logOf (caller : ℕ) (history : List (Record Memory Act Answer Request)) :
    List (Happening Memory Act Answer Request) :=
  (history.filter (·.caller == caller)).map (·.happening)

@[simp]
theorem logOf_cons_self (caller : ℕ) (happening : Happening Memory Act Answer Request)
    (history : List (Record Memory Act Answer Request)) :
    logOf caller (⟨caller, happening⟩ :: history) = happening :: logOf caller history := by
  unfold logOf
  rw [List.filter_cons_of_pos (by simp), List.map_cons]

theorem logOf_cons_of_ne {caller other : ℕ} (hne : other ≠ caller)
    (happening : Happening Memory Act Answer Request)
    (history : List (Record Memory Act Answer Request)) :
    logOf caller (⟨other, happening⟩ :: history) = logOf caller history := by
  unfold logOf
  rw [List.filter_cons_of_neg (by simpa using hne)]

theorem mem_logOf {caller : ℕ} {history : List (Record Memory Act Answer Request)}
    {happening : Happening Memory Act Answer Request} :
    happening ∈ logOf caller history ↔ ⟨caller, happening⟩ ∈ history := by
  unfold logOf
  rw [List.mem_map]
  constructor
  · rintro ⟨record, hrecord, rfl⟩
    obtain ⟨hmem, hcaller⟩ := List.mem_filter.mp hrecord
    rw [beq_iff_eq] at hcaller
    exact hcaller ▸ hmem
  · intro hmem
    exact ⟨_, List.mem_filter.mpr ⟨hmem, beq_self_eq_true caller⟩, rfl⟩

/-- Every record is in order with what had happened before it. -/
def Throughout {Entry : Type} (good : Entry → List Entry → Prop) : List Entry → Prop
  | [] => True
  | entry :: older => good entry older ∧ Throughout good older

theorem Throughout.split {Entry : Type} {good : Entry → List Entry → Prop}
    {newer older : List Entry} {entry : Entry}
    (hgood : Throughout good (newer ++ entry :: older)) : good entry older := by
  induction newer with
  | nil => exact hgood.1
  | cons latest newer ih => exact ih hgood.2

/-- The latest happening of a call, where the history has it. -/
theorem exists_of_logOf_eq_cons {caller : ℕ} {history : List (Record Memory Act Answer Request)}
    {happening : Happening Memory Act Answer Request}
    {earlier : List (Happening Memory Act Answer Request)}
    (hlog : logOf caller history = happening :: earlier) :
    ∃ newer older, history = newer ++ ⟨caller, happening⟩ :: older ∧
      logOf caller older = earlier := by
  induction history with
  | nil => cases hlog
  | cons record history ih =>
    obtain ⟨other, latest⟩ := record
    by_cases hcaller : other = caller
    · subst hcaller
      rw [logOf_cons_self] at hlog
      obtain ⟨rfl, rfl⟩ := List.cons.inj hlog
      exact ⟨[], history, rfl, rfl⟩
    · rw [logOf_cons_of_ne hcaller] at hlog
      obtain ⟨newer, older, rfl, hearlier⟩ := ih hlog
      exact ⟨⟨other, latest⟩ :: newer, older, rfl, hearlier⟩

/-- What the calls share: the memory of the process and the world outside, with what happened so
far, latest first. -/
structure Scene (Memory World Act : Type) {Op : Type} (Answer : Op → Type) (Request : Type) :
    Type where
  memory : Memory
  world : World
  history : List (Record Memory Act Answer Request)

def Scene.notes (s : Scene Memory World Act Answer Request) (caller : ℕ)
    (happening : Happening Memory Act Answer Request) : Scene Memory World Act Answer Request :=
  { s with history := ⟨caller, happening⟩ :: s.history }

section Notes

variable (s : Scene Memory World Act Answer Request) (caller : ℕ)
  (happening : Happening Memory Act Answer Request)

@[simp] theorem Scene.notes_memory : (s.notes caller happening).memory = s.memory := rfl

@[simp] theorem Scene.notes_world : (s.notes caller happening).world = s.world := rfl

@[simp]
theorem Scene.notes_history :
    (s.notes caller happening).history = ⟨caller, happening⟩ :: s.history := rfl

end Notes

/-- A process: what an assignment does to the memory, how the world answers an operation, the tasks
of the calls, and what else changes the memory. -/
structure Loop (Memory World Act : Type) {Op : Type} (Answer : Op → Type)
    (Oracle Request Reply Tick : Type) where
  perform : Act → Memory → Memory
  handler : World → (op : Op) → Oracle → Option (World × Answer op)
  task : Request → ℕ → Task Memory Act Answer Reply
  tick : Memory → Tick → Memory

inductive Progress (Memory Act : Type) {Op : Type} (Answer : Op → Type) (Reply : Type) : Type
  /-- Returned, or suspended at an await. -/
  | suspended (rest : Task Memory Act Answer Reply)
  /-- Answered, and not yet resumed. -/
  | ready (rest : Task Memory Act Answer Reply)

structure Call (Memory Act : Type) {Op : Type} (Answer : Op → Type) (Request Reply : Type) :
    Type where
  request : Request
  progress : Progress Memory Act Answer Reply

structure Process (Memory World Act : Type) {Op : Type} (Answer : Op → Type)
    (Request Reply : Type) : Type where
  scene : Scene Memory World Act Answer Request
  /-- The calls, in the order of their start. -/
  calls : List (Call Memory Act Answer Request Reply)

/-- A process without calls. -/
def Process.initial (memory : Memory) (world : World) :
    Process Memory World Act Answer Request Reply :=
  ⟨⟨memory, world, []⟩, []⟩

inductive Event (Oracle Request Tick : Type) : Type
  /-- A call starts and runs to its first await. -/
  | start (request : Request)
  /-- The world answers what a call awaits. -/
  | answer (caller : ℕ) (oracle : Oracle)
  /-- An answered call runs to its next await. -/
  | resume (caller : ℕ)
  | tick (tick : Tick)

namespace Loop

variable (loop : Loop Memory World Act Answer Oracle Request Reply Tick)

/-- A call assigns to the memory. -/
def acts (caller : ℕ) (assignment : Act) (s : Scene Memory World Act Answer Request) :
    Scene Memory World Act Answer Request :=
  { s with
    memory := loop.perform assignment s.memory
    history := ⟨caller, .did s.memory assignment⟩ :: s.history }

@[simp]
theorem acts_memory (caller : ℕ) (assignment : Act) (s : Scene Memory World Act Answer Request) :
    (loop.acts caller assignment s).memory = loop.perform assignment s.memory := rfl

@[simp]
theorem acts_world (caller : ℕ) (assignment : Act) (s : Scene Memory World Act Answer Request) :
    (loop.acts caller assignment s).world = s.world := rfl

@[simp]
theorem acts_history (caller : ℕ) (assignment : Act) (s : Scene Memory World Act Answer Request) :
    (loop.acts caller assignment s).history = ⟨caller, .did s.memory assignment⟩ :: s.history := rfl

/-- A task runs to its next await: the scene it leaves, and what is left of it. -/
def segment (caller : ℕ) : Task Memory Act Answer Result → Scene Memory World Act Answer Request →
    Scene Memory World Act Answer Request × Task Memory Act Answer Result
  | .pure result, s => (s, .pure result)
  | .call .look next, s => segment caller (next s.memory) s
  | .call (.act assignment) next, s => segment caller (next ()) (loop.acts caller assignment s)
  | .call (.await op) next, s => (s.notes caller (.asked op), .call (.await op) next)

/-- One event. `none` means that the event is not possible. -/
def step (p : Process Memory World Act Answer Request Reply) :
    Event Oracle Request Tick → Option (Process Memory World Act Answer Request Reply)
  | .start request =>
    let caller := p.calls.length
    let (scene, rest) :=
      loop.segment caller (loop.task request caller) (p.scene.notes caller (.started request))
    some ⟨scene, p.calls ++ [⟨request, .suspended rest⟩]⟩
  | .answer caller oracle =>
    match p.calls[caller]? with
    | some ⟨request, .suspended (.call (.await op) next)⟩ =>
      (loop.handler p.scene.world op oracle).map fun (world, answer) ↦
        ⟨{ p.scene with
            world := world
            history := ⟨caller, .answered op answer⟩ :: p.scene.history },
          p.calls.set caller ⟨request, .ready (next answer)⟩⟩
    | _ => none
  | .resume caller =>
    match p.calls[caller]? with
    | some ⟨request, .ready rest⟩ =>
      let (scene, rest) := loop.segment caller rest p.scene
      some ⟨scene, p.calls.set caller ⟨request, .suspended rest⟩⟩
    | _ => none
  | .tick tick => some { p with scene.memory := loop.tick p.scene.memory tick }

/-- What one event can do. -/
inductive Steps (p : Process Memory World Act Answer Request Reply) :
    Event Oracle Request Tick → Process Memory World Act Answer Request Reply → Prop
  | start (request : Request) :
    Steps p (.start request)
      ⟨(loop.segment p.calls.length (loop.task request p.calls.length)
          (p.scene.notes p.calls.length (.started request))).1,
        p.calls ++ [⟨request, .suspended (loop.segment p.calls.length
          (loop.task request p.calls.length)
          (p.scene.notes p.calls.length (.started request))).2⟩]⟩
  | answer {caller : ℕ} {oracle : Oracle} {request : Request} {op : Op}
      {next : Answer op → Task Memory Act Answer Reply} {world : World} {answer : Answer op}
      (hcall : p.calls[caller]? = some ⟨request, .suspended (.call (.await op) next)⟩)
      (hanswer : loop.handler p.scene.world op oracle = some (world, answer)) :
    Steps p (.answer caller oracle)
      ⟨{ p.scene with
          world := world
          history := ⟨caller, .answered op answer⟩ :: p.scene.history },
        p.calls.set caller ⟨request, .ready (next answer)⟩⟩
  | resume {caller : ℕ} {request : Request} {rest : Task Memory Act Answer Reply}
      (hcall : p.calls[caller]? = some ⟨request, .ready rest⟩) :
    Steps p (.resume caller)
      ⟨(loop.segment caller rest p.scene).1,
        p.calls.set caller ⟨request, .suspended (loop.segment caller rest p.scene).2⟩⟩
  | tick (tick : Tick) :
    Steps p (.tick tick) { p with scene.memory := loop.tick p.scene.memory tick }

variable {loop}

theorem steps_of_step_eq_some {p later : Process Memory World Act Answer Request Reply}
    {event : Event Oracle Request Tick} (hstep : loop.step p event = some later) :
    loop.Steps p event later := by
  cases event with
  | start request => exact Option.some.inj hstep ▸ .start request
  | tick tick => exact Option.some.inj hstep ▸ .tick tick
  | answer caller oracle =>
    unfold step at hstep
    cases hcall : p.calls[caller]? with
    | none => simp [hcall] at hstep
    | some call =>
      obtain ⟨request, progress⟩ := call
      match progress, hcall with
      | .ready rest, hcall => simp [hcall] at hstep
      | .suspended (.pure reply), hcall => simp [hcall] at hstep
      | .suspended (.call .look next), hcall => simp [hcall] at hstep
      | .suspended (.call (.act assignment) next), hcall => simp [hcall] at hstep
      | .suspended (.call (.await op) next), hcall =>
        simp only [hcall, Option.map_eq_some_iff] at hstep
        obtain ⟨⟨world, answer⟩, hanswer, rfl⟩ := hstep
        exact .answer hcall hanswer
  | resume caller =>
    unfold step at hstep
    cases hcall : p.calls[caller]? with
    | none => simp [hcall] at hstep
    | some call =>
      obtain ⟨request, progress⟩ := call
      match progress, hcall with
      | .suspended rest, hcall => simp [hcall] at hstep
      | .ready rest, hcall =>
        simp only [hcall, Option.some.injEq] at hstep
        exact hstep ▸ .resume hcall

/-! ### One segment -/

/-- A segment adds to the history what happens to its own call, and no answer of the world. -/
theorem segment_adds (caller : ℕ) (task : Task Memory Act Answer Result)
    (s : Scene Memory World Act Answer Request) :
    ∃ newer, (loop.segment caller task s).1.history = newer ++ s.history ∧
      ∀ record ∈ newer, record.caller = caller ∧
        ∀ op answer, record.happening ≠ .answered op answer := by
  induction task generalizing s with
  | pure result => exact ⟨[], rfl, by simp⟩
  | call instruction next ih =>
    cases instruction with
    | look => exact ih s.memory s
    | act assignment =>
      obtain ⟨newer, hnewer, hadded⟩ := ih () (loop.acts caller assignment s)
      refine ⟨newer ++ [⟨caller, .did s.memory assignment⟩], ?_, ?_⟩
      · unfold segment
        rw [hnewer, acts_history, List.append_assoc]
        rfl
      · simpa [or_imp, forall_and] using hadded
    | await op => exact ⟨[⟨caller, .asked op⟩], rfl, by simp⟩

theorem segment_history (caller : ℕ) (task : Task Memory Act Answer Result)
    (s : Scene Memory World Act Answer Request) :
    ∃ newer, (loop.segment caller task s).1.history = newer ++ s.history ∧
      ∀ record ∈ newer, record.caller = caller := by
  obtain ⟨newer, hnewer, hadded⟩ := loop.segment_adds caller task s
  exact ⟨newer, hnewer, fun record hrecord ↦ (hadded record hrecord).1⟩

/-- What a segment adds to the history is not an answer of the world. -/
theorem answered_mem_of_segment {caller other : ℕ} {task : Task Memory Act Answer Result}
    {s : Scene Memory World Act Answer Request} {op : Op} {answer : Answer op}
    (hmem : ⟨other, .answered op answer⟩ ∈ (loop.segment caller task s).1.history) :
    ⟨other, .answered op answer⟩ ∈ s.history := by
  obtain ⟨newer, hnewer, hadded⟩ := loop.segment_adds caller task s
  rw [hnewer] at hmem
  rcases List.mem_append.mp hmem with hnew | hold
  · exact absurd rfl ((hadded _ hnew).2 op answer)
  · exact hold

/-- What is left of a task after a segment returns what the task returns. -/
theorem segment_returns {good : Result → Prop} {caller : ℕ} {task : Task Memory Act Answer Result}
    {s : Scene Memory World Act Answer Request} (hreturns : task.Returns good) :
    (loop.segment caller task s).2.Returns good := by
  induction task generalizing s with
  | pure result => exact hreturns
  | call instruction next ih =>
    cases instruction with
    | look => exact ih s.memory (hreturns s.memory)
    | act assignment => exact ih () (hreturns ())
    | await op => exact hreturns

/-- What a segment asks for is of the kind that its task uses. -/
theorem asked_of_segment {kind : Instruction Act Op → Prop} {caller other : ℕ}
    {task : Task Memory Act Answer Result} {s : Scene Memory World Act Answer Request} {op : Op}
    (huses : task.Uses kind)
    (hmem : ⟨other, .asked op⟩ ∈ (loop.segment caller task s).1.history) :
    ⟨other, .asked op⟩ ∈ s.history ∨ kind (.await op) := by
  induction task generalizing s with
  | pure result => exact .inl hmem
  | call instruction next ih =>
    cases instruction with
    | look => exact ih s.memory (huses.2 s.memory) hmem
    | act assignment =>
      refine (ih () (huses.2 ()) hmem).imp_left fun hacted ↦ ?_
      rcases List.mem_cons.mp hacted with heq | hold
      · cases heq
      · exact hold
    | await asked =>
      rcases List.mem_cons.mp hmem with heq | hold
      · obtain rfl : op = asked := Happening.asked.inj (Record.mk.inj heq).2
        exact .inr huses.1
      · exact .inl hold

/-- A segment leaves the world alone. -/
theorem segment_world (caller : ℕ) (task : Task Memory Act Answer Result)
    (s : Scene Memory World Act Answer Request) :
    (loop.segment caller task s).1.world = s.world := by
  induction task generalizing s with
  | pure result => rfl
  | call instruction next ih =>
    cases instruction with
    | look => exact ih s.memory s
    | act assignment => exact ih () (loop.acts caller assignment s)
    | await op => rfl

/-- What none of the assignments of a segment changes, the segment does not change. -/
theorem segment_leaves {Part : Type} (part : Memory → Part) {caller : ℕ}
    {task : Task Memory Act Answer Result} {s : Scene Memory World Act Answer Request}
    (hleaves : ∀ newer before assignment older,
      (loop.segment caller task s).1.history =
        newer ++ ⟨caller, .did before assignment⟩ :: older →
      s.history <:+ older → part (loop.perform assignment before) = part before) :
    part (loop.segment caller task s).1.memory = part s.memory := by
  induction task generalizing s with
  | pure result => rfl
  | call instruction next ih =>
    cases instruction with
    | look => exact ih s.memory hleaves
    | act assignment =>
      have hrest := ih () (s := loop.acts caller assignment s)
        fun newer before later older hhistory hsuffix ↦
          hleaves newer before later older hhistory ((List.suffix_cons _ _).trans hsuffix)
      obtain ⟨newer, hnewer, -⟩ := loop.segment_history caller (next ()) (loop.acts caller assignment s)
      have hfirst := hleaves newer s.memory assignment s.history hnewer (List.suffix_refl _)
      exact hrest.trans hfirst
    | await op => rfl

/-! ### The proof obligation of one task -/

/-- At every await and at its end, a task has restored an invariant of the scene, or, at its end, a
postcondition. A suspended task finds the invariant again, and its own log extended by the
answer. -/
def Keeps (loop : Loop Memory World Act Answer Oracle Request Reply Tick)
    (invariant : Scene Memory World Act Answer Request → Prop)
    (resumes : Scene Memory World Act Answer Request → ℕ → Prop) (caller : ℕ)
    (post : Scene Memory World Act Answer Request → Result → Prop) :
    Task Memory Act Answer Result → Scene Memory World Act Answer Request → Prop
  | .pure result, s => post s result
  | .call .look next, s => Keeps loop invariant resumes caller post (next s.memory) s
  | .call (.act assignment) next, s =>
    Keeps loop invariant resumes caller post (next ()) (loop.acts caller assignment s)
  | .call (.await op) next, s =>
    invariant (s.notes caller (.asked op)) ∧ ∀ answer later, invariant later →
      resumes later caller →
      logOf caller later.history =
        .answered op answer :: .asked op :: logOf caller s.history →
      Keeps loop invariant resumes caller post (next answer) later

section Keeps

variable {invariant : Scene Memory World Act Answer Request → Prop}
  {resumes : Scene Memory World Act Answer Request → ℕ → Prop} {caller : ℕ} {Other : Type}
  {post : Scene Memory World Act Answer Request → Result → Prop}
  {s : Scene Memory World Act Answer Request}

theorem keeps_pure {result : Result} (hpost : post s result) :
    Keeps loop invariant resumes caller post
      (pure result : Task Memory Act Answer Result) s :=
  hpost

theorem keeps_look_bind {rest : Memory → Task Memory Act Answer Result}
    (hrest : Keeps loop invariant resumes caller post (rest s.memory) s) :
    Keeps loop invariant resumes caller post (look >>= rest) s :=
  hrest

theorem keeps_act_bind {assignment : Act} {rest : Unit → Task Memory Act Answer Result}
    (hrest : Keeps loop invariant resumes caller post (rest ()) (loop.acts caller assignment s)) :
    Keeps loop invariant resumes caller post (act assignment >>= rest) s :=
  hrest

theorem keeps_await_bind {op : Op} {rest : Answer op → Task Memory Act Answer Result}
    (hasks : invariant (s.notes caller (.asked op)))
    (hrest : ∀ answer later, invariant later → resumes later caller →
      logOf caller later.history =
        .answered op answer :: .asked op :: logOf caller s.history →
      Keeps loop invariant resumes caller post (rest answer) later) :
    Keeps loop invariant resumes caller post (await op >>= rest) s :=
  ⟨hasks, hrest⟩

theorem Keeps.mono {weaker : Scene Memory World Act Answer Request → Result → Prop}
    {task : Task Memory Act Answer Result}
    (hkeeps : Keeps loop invariant resumes caller post task s)
    (hweaker : ∀ later result, post later result → weaker later result) :
    Keeps loop invariant resumes caller weaker task s := by
  induction task generalizing s with
  | pure result => exact hweaker s result hkeeps
  | call instruction next ih =>
    cases instruction with
    | look => exact ih s.memory hkeeps
    | act assignment => exact ih () hkeeps
    | await op =>
      exact ⟨hkeeps.1, fun answer later hinvariant hresumes hlog ↦
        ih answer (hkeeps.2 answer later hinvariant hresumes hlog)⟩

theorem Keeps.and_returns {good : Result → Prop} {task : Task Memory Act Answer Result}
    (hkeeps : Keeps loop invariant resumes caller post task s) (hreturns : task.Returns good) :
    Keeps loop invariant resumes caller (fun later result ↦ post later result ∧ good result)
      task s := by
  induction task generalizing s with
  | pure result => exact ⟨hkeeps, hreturns⟩
  | call instruction next ih =>
    cases instruction with
    | look => exact ih s.memory hkeeps (hreturns s.memory)
    | act assignment => exact ih () hkeeps (hreturns ())
    | await op =>
      exact ⟨hkeeps.1, fun answer later hinvariant hresumes hlog ↦
        ih answer (hkeeps.2 answer later hinvariant hresumes hlog) (hreturns answer)⟩

/-- A part of a task, then the rest from wherever the part ends. -/
theorem keeps_bind {middle : Scene Memory World Act Answer Request → Other → Prop}
    {first : Task Memory Act Answer Other} {rest : Other → Task Memory Act Answer Result}
    (hfirst : Keeps loop invariant resumes caller middle first s)
    (hrest : ∀ later result, middle later result →
      Keeps loop invariant resumes caller post (rest result) later) :
    Keeps loop invariant resumes caller post (first >>= rest) s := by
  induction first generalizing s with
  | pure result => exact hrest s result hfirst
  | call instruction next ih =>
    cases instruction with
    | look => exact ih s.memory hfirst
    | act assignment => exact ih () hfirst
    | await op =>
      exact ⟨hfirst.1, fun answer later hinvariant hresumes hlog ↦
        ih answer (hfirst.2 answer later hinvariant hresumes hlog)⟩

theorem keeps_ite {condition : Prop} [Decidable condition]
    {first second : Task Memory Act Answer Result}
    (hfirst : condition → Keeps loop invariant resumes caller post first s)
    (hsecond : ¬ condition → Keeps loop invariant resumes caller post second s) :
    Keeps loop invariant resumes caller post (if condition then first else second) s := by
  split
  · exact hfirst ‹_›
  · exact hsecond ‹_›

/-- A task that only follows instructions of a kind. Assumes: a property of the scene that the kind
keeps, that includes the invariant at an await, and that the task finds again when it is resumed. -/
theorem keeps_of_uses {kind : Instruction Act Op → Prop}
    (good : Scene Memory World Act Answer Request → Prop)
    (hact : ∀ s assignment, kind (.act assignment) → good s → good (loop.acts caller assignment s))
    (hasks : ∀ s op, kind (.await op) → good s → invariant (s.notes caller (.asked op)))
    (hresumes : ∀ s later op answer, kind (.await op) → good s → invariant later →
      resumes later caller →
      logOf caller later.history = .answered op answer :: .asked op :: logOf caller s.history →
      good later)
    {task : Task Memory Act Answer Result} (huses : task.Uses kind) (hs : good s) :
    Keeps loop invariant resumes caller (fun later _ ↦ good later) task s := by
  induction task generalizing s with
  | pure result => exact hs
  | call instruction next ih =>
    cases instruction with
    | look => exact ih s.memory (huses.2 s.memory) hs
    | act assignment => exact ih () (huses.2 ()) (hact s assignment huses.1 hs)
    | await op =>
      refine ⟨hasks s op huses.1 hs, fun answer later hinvariant hresume hlog ↦ ?_⟩
      exact ih answer (huses.2 answer) (hresumes s later op answer huses.1 hs hinvariant hresume hlog)

/-- The rest of a call meets its obligation, whenever it runs again. -/
def KeepsOn (loop : Loop Memory World Act Answer Oracle Request Reply Tick)
    (invariant : Scene Memory World Act Answer Request → Prop)
    (resumes : Scene Memory World Act Answer Request → ℕ → Prop) (caller : ℕ)
    (log : List (Happening Memory Act Answer Request)) : Progress Memory Act Answer Reply → Prop
  | .suspended (.call (.await op) next) =>
    ∃ earlier, log = .asked op :: earlier ∧ ∀ answer later, invariant later →
      resumes later caller →
      logOf caller later.history = .answered op answer :: .asked op :: earlier →
      Keeps loop invariant resumes caller (fun last _ ↦ invariant last) (next answer) later
  | .suspended _ => True
  | .ready rest => ∀ later, invariant later → resumes later caller →
    logOf caller later.history = log →
    Keeps loop invariant resumes caller (fun last _ ↦ invariant last) rest later

theorem Keeps.segment {task : Task Memory Act Answer Reply}
    (hkeeps : Keeps loop invariant resumes caller (fun last _ ↦ invariant last) task s) :
    invariant (loop.segment caller task s).1 ∧
      KeepsOn loop invariant resumes caller
        (logOf caller (loop.segment caller task s).1.history)
        (.suspended (loop.segment caller task s).2) := by
  induction task generalizing s with
  | pure result => exact ⟨hkeeps, trivial⟩
  | call instruction next ih =>
    cases instruction with
    | look => exact ih s.memory hkeeps
    | act assignment => exact ih () hkeeps
    | await op => exact ⟨hkeeps.1, _, logOf_cons_self _ _ _, hkeeps.2⟩

end Keeps

/-- A segment adds nothing to the log of another call. -/
theorem logOf_segment_of_ne {caller other : ℕ} (hne : caller ≠ other)
    (task : Task Memory Act Answer Result) (s : Scene Memory World Act Answer Request) :
    logOf other (loop.segment caller task s).1.history = logOf other s.history := by
  obtain ⟨newer, hnewer, hcaller⟩ := loop.segment_history caller task s
  have hnone : newer.filter (·.caller == other) = [] := by
    rw [List.filter_eq_nil_iff]
    intro record hrecord
    rw [hcaller record hrecord]
    simpa using hne
  unfold logOf
  rw [hnewer, List.filter_append, hnone, List.nil_append]

/-! ### One event -/

/-- The call that an event is about. -/
def acting (p : Process Memory World Act Answer Request Reply) : Event Oracle Request Tick → Option ℕ
  | .start _ => some p.calls.length
  | .answer caller _ | .resume caller => some caller
  | .tick _ => none

section Frame

variable {p later : Process Memory World Act Answer Request Reply}
  {event : Event Oracle Request Tick} {other : ℕ}

/-- An event adds nothing to the log of another call. -/
theorem Steps.logOf_of_ne (hsteps : loop.Steps p event later) (hne : acting p event ≠ some other) :
    logOf other later.scene.history = logOf other p.scene.history := by
  cases hsteps with
  | start request =>
    have hother : p.calls.length ≠ other := fun heq ↦ hne (congrArg some heq)
    rw [logOf_segment_of_ne hother, Scene.notes_history, logOf_cons_of_ne hother]
  | @answer caller =>
    exact logOf_cons_of_ne (fun heq ↦ hne (congrArg some heq)) _ _
  | @resume caller =>
    exact logOf_segment_of_ne (fun heq ↦ hne (congrArg some heq)) _ _
  | tick tick => rfl

/-- An event leaves the other calls where they are. -/
theorem Steps.call_of_ne (hsteps : loop.Steps p event later) (hne : acting p event ≠ some other) :
    later.calls[other]? = p.calls[other]? := by
  cases hsteps with
  | start request =>
    have hother : p.calls.length ≠ other := fun heq ↦ hne (congrArg some heq)
    rw [List.getElem?_append]
    split_ifs with hlt
    · rfl
    · rw [List.getElem?_eq_none (by simp; omega), List.getElem?_eq_none (by omega)]
  | @answer caller =>
    exact List.getElem?_set_ne (fun heq ↦ hne (congrArg some heq))
  | @resume caller =>
    exact List.getElem?_set_ne (fun heq ↦ hne (congrArg some heq))
  | tick tick => rfl

/-- An event adds to the history what happens to its call. -/
theorem Steps.history (hsteps : loop.Steps p event later) :
    ∃ newer, later.scene.history = newer ++ p.scene.history ∧
      ∀ record ∈ newer, acting p event = some record.caller := by
  cases hsteps with
  | start request =>
    obtain ⟨newer, hnewer, hcaller⟩ := loop.segment_history p.calls.length
      (loop.task request p.calls.length) (p.scene.notes p.calls.length (.started request))
    refine ⟨newer ++ [⟨p.calls.length, .started request⟩], ?_, ?_⟩
    · rw [hnewer, Scene.notes_history, List.append_assoc]
      rfl
    · intro record hrecord
      rcases List.mem_append.mp hrecord with hrecord | hrecord
      · exact congrArg some (hcaller record hrecord).symm
      · rw [List.mem_singleton.mp hrecord]
        rfl
  | @answer caller oracle request op next world answer =>
    refine ⟨[⟨caller, .answered op answer⟩], rfl, fun record hrecord ↦ ?_⟩
    rw [List.mem_singleton.mp hrecord]
    rfl
  | @resume caller request rest =>
    obtain ⟨newer, hnewer, hcaller⟩ := loop.segment_history caller rest p.scene
    exact ⟨newer, hnewer, fun record hrecord ↦ congrArg some (hcaller record hrecord).symm⟩
  | tick tick => exact ⟨[], rfl, by simp⟩

/-- No call is ever forgotten. -/
theorem Steps.length_calls_le (hsteps : loop.Steps p event later) :
    p.calls.length ≤ later.calls.length := by
  cases hsteps with
  | start request =>
    rw [List.length_append]
    exact Nat.le_add_right _ _
  | answer => exact Nat.le_of_eq List.length_set.symm
  | resume => exact Nat.le_of_eq List.length_set.symm
  | tick tick => exact Nat.le_refl _

theorem Steps.logOf_suffix (hsteps : loop.Steps p event later) :
    logOf other p.scene.history <:+ logOf other later.scene.history := by
  obtain ⟨newer, hnewer, -⟩ := hsteps.history
  rw [hnewer]
  unfold logOf
  rw [List.filter_append, List.map_append]
  exact List.suffix_append _ _

/-- No call has happened that has not started. -/
def OnlyStarted (p : Process Memory World Act Answer Request Reply) : Prop :=
  ∀ record ∈ p.scene.history, record.caller < p.calls.length

theorem Steps.onlyStarted (hsteps : loop.Steps p event later) (hstarted : OnlyStarted p) :
    OnlyStarted later := by
  intro record hrecord
  cases hsteps with
  | start request =>
    obtain ⟨newer, hnewer, hcaller⟩ := loop.segment_history p.calls.length
      (loop.task request p.calls.length) (p.scene.notes p.calls.length (.started request))
    rw [List.length_append]
    rw [hnewer, List.mem_append, Scene.notes_history, List.mem_cons] at hrecord
    rcases hrecord with hrecord | rfl | hrecord
    · rw [hcaller record hrecord]
      simp
    · simp
    · exact Nat.lt_add_right _ (hstarted record hrecord)
  | answer hcall hanswered =>
    rw [List.length_set]
    rcases List.mem_cons.mp hrecord with rfl | hrecord
    · exact (List.getElem?_eq_some_iff.mp hcall).1
    · exact hstarted record hrecord
  | @resume caller request rest hcall =>
    obtain ⟨newer, hnewer, hcaller⟩ := loop.segment_history caller rest p.scene
    rw [List.length_set]
    rw [hnewer, List.mem_append] at hrecord
    rcases hrecord with hrecord | hrecord
    · rw [hcaller record hrecord]
      exact (List.getElem?_eq_some_iff.mp hcall).1
    · exact hstarted record hrecord
  | tick tick => exact hstarted record hrecord

theorem OnlyStarted.logOf_eq_nil (hstarted : OnlyStarted p) (hnot : p.calls.length ≤ other) :
    logOf other p.scene.history = [] := by
  unfold logOf
  rw [List.map_eq_nil_iff, List.filter_eq_nil_iff]
  intro record hrecord
  have hlt := hstarted record hrecord
  have hne : record.caller ≠ other := by omega
  simpa using hne

/-- What the log and the progress of every call meet, an event keeps, where it keeps it for the call
that it is about. -/
theorem Steps.all_calls
    (on : ℕ → List (Happening Memory Act Answer Request) → Progress Memory Act Answer Reply → Prop)
    (hsteps : loop.Steps p event later)
    (hcalls : ∀ caller call, p.calls[caller]? = some call →
      on caller (logOf caller p.scene.history) call.progress)
    (hacting : ∀ caller call, acting p event = some caller → later.calls[caller]? = some call →
      on caller (logOf caller later.scene.history) call.progress) :
    ∀ caller call, later.calls[caller]? = some call →
      on caller (logOf caller later.scene.history) call.progress := by
  intro caller call hcall
  by_cases hne : acting p event = some caller
  · exact hacting caller call hne hcall
  · rw [hsteps.logOf_of_ne hne]
    rw [hsteps.call_of_ne hne] at hcall
    exact hcalls caller call hcall

end Frame

/-! ### Runs -/

/-- Reachability by events that meet a condition. -/
inductive Reaches (loop : Loop Memory World Act Answer Oracle Request Reply Tick)
    (condition : Scene Memory World Act Answer Request → Event Oracle Request Tick → Prop)
    (first : Process Memory World Act Answer Request Reply) :
    Process Memory World Act Answer Request Reply → Prop
  | refl : Reaches loop condition first first
  | step {p later : Process Memory World Act Answer Request Reply}
      {event : Event Oracle Request Tick} (hreaches : Reaches loop condition first p)
      (hcondition : condition p.scene event) (hstep : loop.step p event = some later) :
    Reaches loop condition first later

section Reaches

variable {condition : Scene Memory World Act Answer Request → Event Oracle Request Tick → Prop}
  {first p later : Process Memory World Act Answer Request Reply}

theorem Reaches.trans (hfirst : Reaches loop condition first p)
    (hsecond : Reaches loop condition p later) : Reaches loop condition first later := by
  induction hsecond with
  | refl => exact hfirst
  | step _ hcondition hstep ih => exact ih.step hcondition hstep

theorem Reaches.mono
    {weaker : Scene Memory World Act Answer Request → Event Oracle Request Tick → Prop}
    (hreaches : Reaches loop condition first p)
    (hweaker : ∀ s event, condition s event → weaker s event) :
    Reaches loop weaker first p := by
  induction hreaches with
  | refl => exact .refl
  | step _ hcondition hstep ih => exact ih.step (hweaker _ _ hcondition) hstep

/-- The process after a schedule of events. `none` means that an event of it is not possible. -/
def after (loop : Loop Memory World Act Answer Oracle Request Reply Tick)
    (p : Process Memory World Act Answer Request Reply) :
    List (Event Oracle Request Tick) → Option (Process Memory World Act Answer Request Reply)
  | [] => some p
  | event :: events => (loop.step p event).bind fun later ↦ loop.after later events

/-- Where a schedule ends that goes through; otherwise where it starts. -/
def finish (loop : Loop Memory World Act Answer Oracle Request Reply Tick)
    (p : Process Memory World Act Answer Request Reply) (events : List (Event Oracle Request Tick)) :
    Process Memory World Act Answer Request Reply :=
  (loop.after p events).getD p

/-- The events of a schedule meet a condition, each in the scene it happens in. -/
def Follows (loop : Loop Memory World Act Answer Oracle Request Reply Tick)
    (condition : Scene Memory World Act Answer Request → Event Oracle Request Tick → Prop)
    (p : Process Memory World Act Answer Request Reply) : List (Event Oracle Request Tick) → Prop
  | [] => True
  | event :: events =>
    condition p.scene event ∧ ∀ later ∈ loop.step p event, loop.Follows condition later events

instance decidableFollows [∀ s event, Decidable (condition s event)]
    (p : Process Memory World Act Answer Request Reply) :
    ∀ events, Decidable (loop.Follows condition p events)
  | [] => isTrue trivial
  | event :: events =>
    have : ∀ later, Decidable (loop.Follows condition later events) :=
      fun later ↦ decidableFollows later events
    inferInstanceAs (Decidable (_ ∧ ∀ later ∈ loop.step p event, _))

theorem follows_true (p : Process Memory World Act Answer Request Reply)
    (events : List (Event Oracle Request Tick)) : loop.Follows (fun _ _ ↦ True) p events := by
  induction events generalizing p with
  | nil => trivial
  | cons event events ih => exact ⟨trivial, fun later _ ↦ ih later⟩

theorem reaches_of_after {events : List (Event Oracle Request Tick)}
    (hfollows : loop.Follows condition p events) (hafter : loop.after p events = some later) :
    Reaches loop condition p later := by
  induction events generalizing p with
  | nil => exact Option.some.inj hafter ▸ .refl
  | cons event events ih =>
    obtain ⟨next, hstep, hrest⟩ := Option.bind_eq_some_iff.mp hafter
    exact (Reaches.step .refl hfollows.1 hstep).trans (ih (hfollows.2 next hstep) hrest)

theorem reaches_finish {events : List (Event Oracle Request Tick)}
    (hfollows : loop.Follows condition p events) :
    Reaches loop condition p (loop.finish p events) := by
  unfold finish
  cases hafter : loop.after p events with
  | none => exact .refl
  | some later => exact reaches_of_after hfollows hafter

/-- An event that is possible leads to the end of its schedule. -/
theorem step_eq_some_finish {event : Event Oracle Request Tick}
    (hpossible : (loop.step p event).isSome) :
    loop.step p event = some (loop.finish p [event]) := by
  obtain ⟨later, hlater⟩ := Option.isSome_iff_exists.mp hpossible
  simp [finish, after, hlater]

/-- What holds of the scene and of every call along a run. -/
structure Kept (loop : Loop Memory World Act Answer Oracle Request Reply Tick)
    (invariant : Scene Memory World Act Answer Request → Prop)
    (resumes : Scene Memory World Act Answer Request → ℕ → Prop)
    (p : Process Memory World Act Answer Request Reply) : Prop where
  scene : invariant p.scene
  started : OnlyStarted p
  calls : ∀ caller call, p.calls[caller]? = some call →
    KeepsOn loop invariant resumes caller (logOf caller p.scene.history) call.progress

/-- Assumes: every task keeps the invariant from its start, and so do the answers of the world and
the changes of the memory by themselves, under the condition of the run. -/
theorem Reaches.keeps (invariant : Scene Memory World Act Answer Request → Prop)
    {memory : Memory} {world : World}
    (hinitial : invariant ⟨memory, world, []⟩)
    (hstart : ∀ s request caller, invariant s → condition s (.start request) →
      logOf caller s.history = [] →
      Keeps loop invariant (fun s caller ↦ condition s (.resume caller)) caller
        (fun last _ ↦ invariant last) (loop.task request caller)
        (s.notes caller (.started request)))
    (hanswer : ∀ s caller oracle op earlier world answer, invariant s →
      condition s (.answer caller oracle) → logOf caller s.history = .asked op :: earlier →
      loop.handler s.world op oracle = some (world, answer) →
      invariant
        { s with world := world, history := ⟨caller, .answered op answer⟩ :: s.history })
    (htick : ∀ s tick, invariant s → condition s (.tick tick) →
      invariant { s with memory := loop.tick s.memory tick })
    (hreaches : Reaches loop condition (.initial memory world) p) :
    Kept loop invariant (fun s caller ↦ condition s (.resume caller)) p := by
  induction hreaches with
  | refl => exact ⟨hinitial, by simp [OnlyStarted, Process.initial], by simp [Process.initial]⟩
  | @step p later event _ hcondition hstep ih =>
    have hsteps := steps_of_step_eq_some hstep
    refine ⟨?_, hsteps.onlyStarted ih.started, hsteps.all_calls _ ih.calls ?_⟩
    · cases hsteps with
      | start request =>
        exact (hstart _ request _ ih.scene hcondition
          (ih.started.logOf_eq_nil (Nat.le_refl _))).segment.1
      | answer hcall hanswered =>
        obtain ⟨earlier, hlog, -⟩ := ih.calls _ _ hcall
        exact hanswer _ _ _ _ _ _ _ ih.scene hcondition hlog hanswered
      | resume hcall => exact (ih.calls _ _ hcall _ ih.scene hcondition rfl).segment.1
      | tick tick => exact htick _ tick ih.scene hcondition
    · intro caller call hacting hcall
      cases hsteps with
      | start request =>
        obtain rfl := Option.some.inj hacting
        rw [List.getElem?_concat_length] at hcall
        obtain rfl := Option.some.inj hcall
        exact (hstart _ request _ ih.scene hcondition
          (ih.started.logOf_eq_nil (Nat.le_refl _))).segment.2
      | answer hearlier hanswered =>
        obtain rfl := Option.some.inj hacting
        obtain ⟨earlier, hlog, hrest⟩ := ih.calls _ _ hearlier
        rw [List.getElem?_set_self (List.getElem?_eq_some_iff.mp hearlier).1] at hcall
        obtain rfl := Option.some.inj hcall
        intro last hinvariant hresumes hlast
        refine hrest _ last hinvariant hresumes ?_
        rw [hlast, logOf_cons_self, hlog]
      | resume hearlier =>
        obtain rfl := Option.some.inj hacting
        rw [List.getElem?_set_self (List.getElem?_eq_some_iff.mp hearlier).1] at hcall
        obtain rfl := Option.some.inj hcall
        exact (ih.calls _ _ hearlier _ ih.scene hcondition rfl).segment.2
      | tick tick => cases hacting

end Reaches

/-! ### What a call returns -/

/-- Whatever the memory and the answers are, the result of a task meets a postcondition on the log
that the call then has. -/
def Yields (post : List (Happening Memory Act Answer Request) → Result → Prop) :
    List (Happening Memory Act Answer Request) → Task Memory Act Answer Result → Prop
  | log, .pure result => post log result
  | log, .call .look next => ∀ memory, Yields post log (next memory)
  | log, .call (.act assignment) next =>
    ∀ before, Yields post (.did before assignment :: log) (next ())
  | log, .call (.await op) next =>
    ∀ answer, Yields post (.answered op answer :: .asked op :: log) (next answer)

section Yields

variable {post : List (Happening Memory Act Answer Request) → Result → Prop} {Other : Type}
  {log : List (Happening Memory Act Answer Request)}

theorem yields_pure {result : Result} (hpost : post log result) :
    Yields post log (pure result : Task Memory Act Answer Result) :=
  hpost

theorem yields_look_bind {rest : Memory → Task Memory Act Answer Result}
    (hrest : ∀ memory, Yields post log (rest memory)) : Yields post log (look >>= rest) :=
  hrest

theorem yields_act_bind {assignment : Act} {rest : Unit → Task Memory Act Answer Result}
    (hrest : ∀ before, Yields post (.did before assignment :: log) (rest ())) :
    Yields post log (act assignment >>= rest) :=
  hrest

theorem yields_await_bind {op : Op} {rest : Answer op → Task Memory Act Answer Result}
    (hrest : ∀ answer, Yields post (.answered op answer :: .asked op :: log) (rest answer)) :
    Yields post log (await op >>= rest) :=
  hrest

theorem yields_ite {condition : Prop} [Decidable condition]
    {first second : Task Memory Act Answer Result}
    (hfirst : condition → Yields post log first) (hsecond : ¬ condition → Yields post log second) :
    Yields post log (if condition then first else second) := by
  split
  · exact hfirst ‹_›
  · exact hsecond ‹_›

theorem yields_bind {middle : List (Happening Memory Act Answer Request) → Other → Prop}
    {first : Task Memory Act Answer Other} {rest : Other → Task Memory Act Answer Result}
    (hfirst : Yields middle log first)
    (hrest : ∀ later result, middle later result → Yields post later (rest result)) :
    Yields post log (first >>= rest) := by
  induction first generalizing log with
  | pure result => exact hrest log result hfirst
  | call instruction next ih =>
    cases instruction with
    | look => exact fun memory ↦ ih memory (hfirst memory)
    | act assignment => exact fun before ↦ ih () (hfirst before)
    | await op => exact fun answer ↦ ih answer (hfirst answer)

theorem yields_mono {weaker : List (Happening Memory Act Answer Request) → Result → Prop}
    {task : Task Memory Act Answer Result} (hyields : Yields post log task)
    (hweaker : ∀ later result, post later result → weaker later result) :
    Yields weaker log task := by
  induction task generalizing log with
  | pure result => exact hweaker log result hyields
  | call instruction next ih =>
    cases instruction with
    | look => exact fun memory ↦ ih memory (hyields memory)
    | act assignment => exact fun before ↦ ih () (hyields before)
    | await op => exact fun answer ↦ ih answer (hyields answer)

/-- What a task returns, with a log that has only grown. -/
theorem yields_of_returns {good : Result → Prop} {task : Task Memory Act Answer Result}
    (hreturns : task.Returns good) :
    Yields (fun later result ↦ good result ∧ log <:+ later) log task := by
  have hgrown : ∀ older, log <:+ older →
      Yields (fun later result ↦ good result ∧ log <:+ later) older task := by
    induction task with
    | pure result => exact fun older hsuffix ↦ ⟨hreturns, hsuffix⟩
    | call instruction next ih =>
      intro older hsuffix
      cases instruction with
      | look => exact fun memory ↦ ih memory (hreturns memory) older hsuffix
      | act assignment =>
        exact fun before ↦ ih () (hreturns ()) _ (hsuffix.trans (List.suffix_cons _ _))
      | await op =>
        intro answer
        refine ih answer (hreturns answer) _ (hsuffix.trans ?_)
        exact (List.suffix_cons _ _).trans (List.suffix_cons _ _)
  exact hgrown log (List.suffix_refl log)

/-- The rest of a call returns what its task returns. -/
def YieldsOn (post : List (Happening Memory Act Answer Request) → Reply → Prop)
    (log : List (Happening Memory Act Answer Request)) :
    Progress Memory Act Answer Reply → Prop
  | .suspended (.call (.await op) next) => ∃ earlier, log = .asked op :: earlier ∧
    ∀ answer, Yields post (.answered op answer :: .asked op :: earlier) (next answer)
  | .suspended (.pure reply) => post log reply
  | .suspended _ => True
  | .ready rest => (∃ op answer earlier, log = .answered op answer :: earlier) ∧ Yields post log rest

theorem Yields.segment {loop : Loop Memory World Act Answer Oracle Request Reply Tick}
    {post : List (Happening Memory Act Answer Request) → Reply → Prop} {caller : ℕ}
    {task : Task Memory Act Answer Reply} {s : Scene Memory World Act Answer Request}
    (hyields : Yields post (logOf caller s.history) task) :
    YieldsOn post (logOf caller (loop.segment caller task s).1.history)
      (.suspended (loop.segment caller task s).2) := by
  induction task generalizing s with
  | pure result => exact hyields
  | call instruction next ih =>
    cases instruction with
    | look => exact ih s.memory (hyields s.memory)
    | act assignment =>
      refine ih () ?_
      rw [acts_history, logOf_cons_self]
      exact hyields s.memory
    | await op => exact ⟨_, logOf_cons_self _ _ _, hyields⟩

end Yields

/-- Every call of a run, by its log. Assumes: every task yields what it returns, from its start. -/
theorem Reaches.yields
    {condition : Scene Memory World Act Answer Request → Event Oracle Request Tick → Prop}
    {memory : Memory} {world : World} {p : Process Memory World Act Answer Request Reply}
    {post : List (Happening Memory Act Answer Request) → Reply → Prop}
    (htask : ∀ request caller, Yields post [.started request] (loop.task request caller))
    (hreaches : Reaches loop condition (.initial memory world) p) :
    OnlyStarted p ∧ ∀ caller call, p.calls[caller]? = some call →
      YieldsOn post (logOf caller p.scene.history) call.progress := by
  induction hreaches with
  | refl => exact ⟨by simp [OnlyStarted, Process.initial], by simp [Process.initial]⟩
  | @step p later event _ hcondition hstep ih =>
    obtain ⟨hstarted, hcalls⟩ := ih
    have hsteps := steps_of_step_eq_some hstep
    refine ⟨hsteps.onlyStarted hstarted, ?_⟩
    refine hsteps.all_calls (fun _ ↦ YieldsOn post) hcalls fun caller call hacting hcall ↦ ?_
    cases hsteps with
    | start request =>
      obtain rfl := Option.some.inj hacting
      rw [List.getElem?_concat_length] at hcall
      obtain rfl := Option.some.inj hcall
      refine Yields.segment ?_
      rw [Scene.notes_history, logOf_cons_self, hstarted.logOf_eq_nil (Nat.le_refl _)]
      exact htask request _
    | answer hearlier hanswered =>
      obtain rfl := Option.some.inj hacting
      obtain ⟨earlier, hlog, hrest⟩ := hcalls _ _ hearlier
      rw [List.getElem?_set_self (List.getElem?_eq_some_iff.mp hearlier).1] at hcall
      obtain rfl := Option.some.inj hcall
      rw [logOf_cons_self, hlog]
      exact ⟨⟨_, _, _, rfl⟩, hrest _⟩
    | resume hearlier =>
      obtain rfl := Option.some.inj hacting
      rw [List.getElem?_set_self (List.getElem?_eq_some_iff.mp hearlier).1] at hcall
      obtain rfl := Option.some.inj hcall
      exact Yields.segment (hcalls _ _ hearlier).2
    | tick tick => cases hacting

end Loop

end Karar.Foundation.EventLoop
