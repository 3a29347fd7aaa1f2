import Karar.Foundation.CrashRun
import Karar.MobileClient.TokenStore

/-!
# Abandoned credentials

The calls of a `SecureTokenStore` one after another, in a process that may die between two storage
operations. A process that dies loses the latch; the secure store and the marker keep what they have.

What the log tells is stated of the log alone: that a credential has been given up, in this process
or durably, and that no credential has been stored since. In every run no read hands back what has
been given up, and an outcome of `clear` tells what that call did (`stays_abandoned`). It does not
tell of a marker that an earlier call has raised (`not_stays_abandoned_exact`).
-/

namespace Karar.MobileClient

open Foundation.EventLoop Foundation.CrashRun

/-! ### The calls of the token store -/

inductive StoreCall
  | read
  | write (tokens : SessionTokens)
  | clear
deriving DecidableEq

inductive StoreReply
  | read (result : Result (Option SessionTokens))
  | written (result : Result Unit)
  | cleared (outcome : SessionAbandonmentOutcome)
deriving DecidableEq

def StoreCall.task : StoreCall → ClientTask StoreReply
  | read => do return .read (← SecureTokenStore.read)
  | write tokens => do return .written (← SecureTokenStore.write tokens)
  | clear => do return .cleared (← SecureTokenStore.clear)

def tokenStore : Machine Memory World Assignment Operation.Answer Oracle StoreCall StoreReply where
  perform := Assignment.perform
  handler := World.answer
  task := StoreCall.task
  boot := .launched 0

abbrev StoreDeed := Deed World Operation.Answer StoreCall StoreReply

abbrev StoreLog := List StoreDeed

abbrev StoreProcess := State Memory World Assignment Operation.Answer StoreCall StoreReply

namespace SessionAbandonmentOutcome

/-- Nothing that could authenticate remains in secure storage. -/
def credentialIsGone : SessionAbandonmentOutcome → Bool
  | credentialErased | credentialErasedMarkerRetained => true
  | _ => false

/-- A later launch will not restore the credential. -/
def isDurablyResolved (outcome : SessionAbandonmentOutcome) : Bool :=
  outcome.credentialIsGone || outcome == credentialPersistedButDurablyInvalidated

end SessionAbandonmentOutcome

/-! ### What the log tells -/

section Log

/-- The call under way, or the latest one where it has just ended, with the world that it found. -/
def begun : StoreLog → Option (StoreCall × World)
  | .did _ _ :: older => begun older
  | .called call before :: _ => some (call, before)
  | _ => none

/-- How the erase of that call ended. -/
def erasure : StoreLog → Option (Result Unit)
  | .did .deleteSecure answer :: _ => some answer
  | .did _ _ :: older => erasure older
  | _ => none

/-- How the write of the marker ended with which that call raised it. -/
def raising : StoreLog → Option SecurityStateWrite
  | .did (.writeMarker true) answer :: _ => some answer
  | .did _ _ :: older => raising older
  | _ => none

/-- A credential has been stored. -/
def Stores : StoreDeed → Prop
  | .did (.writeSecure _) (.ok ()) => True
  | _ => False

/-- `clear` is under way, and its marker is durable. -/
def RaisedIn (log : StoreLog) : Prop :=
  (begun log).map Prod.fst = some .clear ∧ raising log = some .written

/-- `clear` returned an outcome that is durably resolved, or the process died in it after its marker
was written. -/
def Resolves (deed : StoreDeed) (older : StoreLog) : Prop :=
  match deed with
  | .returned .clear (.cleared outcome) _ => outcome.isDurablyResolved = true
  | .crashed => RaisedIn older
  | _ => False

/-- The credential has been given up for good, and none has been stored since. -/
def DurablyAbandoned (log : StoreLog) : Prop :=
  Since Stores Resolves log

/-- The process has called `clear`, and no credential has been stored since. -/
def AbandonedHere (log : StoreLog) : Prop :=
  Since (fun deed ↦ deed matches .crashed ∨ Stores deed)
    (fun deed _ ↦ deed matches .called .clear _) log

end Log

/-! ### What is claimed -/

/-- The marker stands on the device. -/
def World.Raised (w : World) : Prop :=
  w.marker = some (.value true)

/-- An outcome is exact about what the device holds. -/
structure SessionAbandonmentOutcome.Exact (outcome : SessionAbandonmentOutcome) (log : StoreLog)
    (after : World) : Prop where
  gone : outcome.credentialIsGone = true ↔ erasure log = some (.ok ())
  invalidated : outcome = .credentialPersistedButDurablyInvalidated ↔
    (∃ failure, erasure log = some (.error failure)) ∧ after.Raised

/-- An outcome is exact about what the call did. -/
structure SessionAbandonmentOutcome.Reports (outcome : SessionAbandonmentOutcome) (log : StoreLog)
    (after : World) : Prop where
  gone : outcome.credentialIsGone = true ↔ erasure log = some (.ok ())
  invalidated : outcome = .credentialPersistedButDurablyInvalidated ↔
    (∃ failure, erasure log = some (.error failure)) ∧ raising log = some .written
  refused : outcome = .abandonmentNotDurable ↔
    (∃ failure, erasure log = some (.error failure)) ∧ raising log = some .writeFailed
  unavailable : outcome = .abandonmentSecurityStateUnavailable ↔
    (∃ failure, erasure log = some (.error failure)) ∧ raising log = some .unavailable
  /-- After a failed erase the marker stands if the call raised it, or had found it raised. -/
  standing : (∃ failure, erasure log = some (.error failure)) → ∀ call before,
    begun log = some (call, before) →
      (after.Raised ↔ outcome = .credentialPersistedButDurablyInvalidated ∨ before.Raised)

/-- An abandoned credential stays abandoned, and every outcome of `clear` is as it should be. -/
structure StaysAbandoned
    (exact : SessionAbandonmentOutcome → StoreLog → World → Prop) (log : StoreLog) : Prop where
  durable : ∀ newer tokens after older,
    log = newer ++ .returned .read (.read (.ok (some tokens))) after :: older →
      ¬ DurablyAbandoned older
  latch : ∀ newer tokens after older,
    log = newer ++ .returned .read (.read (.ok (some tokens))) after :: older → ¬ AbandonedHere older
  outcome : ∀ newer outcome after older,
    log = newer ++ .returned .clear (.cleared outcome) after :: older → exact outcome older after

/-! ### What the platform answers -/

section Answers

variable {w later : World} {oracle : Oracle}

theorem answer_readMarker {answer : SecurityStateRead}
    (hanswer : w.answer .readMarker oracle = some (later, answer)) :
    later = w ∧ (answer = w.markerRead ∨ answer = .unavailable) := by
  cases oracle <;> simp [World.answer] at hanswer
  · exact ⟨hanswer.1.symm, .inl hanswer.2.symm⟩
  · exact ⟨hanswer.1.symm, .inr hanswer.2.symm⟩

theorem answer_readSecure {answer : Result (Option StoredEntry)}
    (hanswer : w.answer .readSecure oracle = some (later, answer)) :
    later = w ∧ (answer = .ok w.entry ∨ ∃ failure, answer = .error failure) := by
  cases oracle <;> simp [World.answer] at hanswer
  · exact ⟨hanswer.1.symm, .inl hanswer.2.symm⟩
  · exact ⟨hanswer.1.symm, .inr ⟨_, hanswer.2.symm⟩⟩

theorem answer_microtask {answer : Unit}
    (hanswer : w.answer .microtask oracle = some (later, answer)) : later = w := by
  cases oracle <;> simp_all [World.answer]

theorem answer_deleteSecure {answer : Result Unit}
    (hanswer : w.answer .deleteSecure oracle = some (later, answer)) :
    answer = .ok () ∧ later.entry = none ∨ (∃ failure, answer = .error failure) ∧ later = w := by
  cases oracle <;> simp [World.answer] at hanswer
  · exact .inl ⟨hanswer.2.symm, by rw [← hanswer.1]⟩
  · exact .inr ⟨⟨_, hanswer.2.symm⟩, hanswer.1.symm⟩

theorem answer_writeSecure {tokens : SessionTokens} {answer : Result Unit}
    (hanswer : w.answer (.writeSecure tokens) oracle = some (later, answer)) :
    answer = .ok () ∨ (∃ failure, answer = .error failure) ∧ later = w := by
  cases oracle <;> simp [World.answer] at hanswer
  · exact .inl hanswer.2.symm
  · exact .inr ⟨⟨_, hanswer.2.symm⟩, hanswer.1.symm⟩

theorem answer_removeMarker {answer : SecurityStateRemoval}
    (hanswer : w.answer .removeMarker oracle = some (later, answer)) :
    later.entry = w.entry := by
  cases oracle <;> simp [World.answer] at hanswer <;> rw [← hanswer.1]

theorem answer_writeMarker {value : Bool} {answer : SecurityStateWrite}
    (hanswer : w.answer (.writeMarker value) oracle = some (later, answer)) :
    later.entry = w.entry ∧
      (answer = .written ∧ later.marker = some (.value value) ∨ answer ≠ .written ∧ later = w) := by
  cases oracle <;> simp [World.answer] at hanswer <;>
    simp [← hanswer.1, ← hanswer.2]

end Answers

/-! ### What holds at every await -/

/-- What the log should have told when it was written. -/
def GoodDeed (deed : StoreDeed) (older : StoreLog) : Prop :=
  match deed with
  | .returned .read (.read (.ok (some _))) _ => ¬ DurablyAbandoned older ∧ ¬ AbandonedHere older
  | .returned .clear (.cleared outcome) after => outcome.Reports older after
  | _ => True

/-- What has been given up in this process is withheld by the latch, and what has been given up for
good by the marker, unless nothing is stored. -/
structure Guarding (m : Memory) (w : World) (log : StoreLog) : Prop where
  here : AbandonedHere log → m.abandonedThisProcess = true ∨ w.entry = none
  durable : DurablyAbandoned log ∨ RaisedIn log → w.Raised ∨ w.entry = none
  good : Throughout GoodDeed log

/-- A log that goes on tells the same about what has been given up. -/
structure TellsTheSame (log later : StoreLog) : Prop where
  begun : begun later = begun log
  raising : raising later = raising log
  here : AbandonedHere later ↔ AbandonedHere log
  durable : DurablyAbandoned later ↔ DurablyAbandoned log
  good : Throughout GoodDeed log → Throughout GoodDeed later

section Telling

variable {m : Memory} {w later : World} {log last : StoreLog}

theorem TellsTheSame.trans {further : StoreLog} (hfirst : TellsTheSame log last)
    (hsecond : TellsTheSame last further) : TellsTheSame log further where
  begun := hsecond.begun.trans hfirst.begun
  raising := hsecond.raising.trans hfirst.raising
  here := hsecond.here.trans hfirst.here
  durable := hsecond.durable.trans hfirst.durable
  good := fun hgood ↦ hsecond.good (hfirst.good hgood)

theorem TellsTheSame.raisedIn (hsame : TellsTheSame log last) : RaisedIn last ↔ RaisedIn log := by
  unfold RaisedIn
  rw [hsame.begun, hsame.raising]

/-- An operation that neither stores a credential nor raises the marker. -/
theorem tellsTheSame_did {op : Operation} {answer : op.Answer}
    (hstores : ¬ Stores (.did op answer))
    (hraising : raising (.did op answer :: log) = raising log) :
    TellsTheSame log (.did op answer :: log) where
  begun := rfl
  raising := hraising
  here := by
    unfold AbandonedHere
    rw [since_cons]
    simp [hstores]
  durable := by
    unfold DurablyAbandoned
    rw [since_cons]
    simp [hstores, Resolves]
  good := fun hgood ↦ ⟨trivial, hgood⟩

/-- An operation that leaves what is stored and the marker alone. -/
theorem Guarding.tells (hguarding : Guarding m w log) (hsame : TellsTheSame log last) :
    Guarding m w last where
  here := fun habandoned ↦ hguarding.here (hsame.here.mp habandoned)
  durable := by
    rw [hsame.durable, hsame.raisedIn]
    exact hguarding.durable
  good := hsame.good hguarding.good

/-- Nothing is stored, or nothing is given up. -/
def Unneeded (w : World) (log : StoreLog) : Prop :=
  w.entry = none ∨ ¬ AbandonedHere log ∧ ¬ DurablyAbandoned log ∧ ¬ RaisedIn log

theorem Unneeded.tells (hunneeded : Unneeded w log) (hsame : TellsTheSame log last)
    (hentry : later.entry = w.entry) : Unneeded later last := by
  unfold Unneeded
  rw [hentry, hsame.here, hsame.durable, hsame.raisedIn]
  exact hunneeded

/-- Where neither the latch nor the marker is needed. -/
theorem Unneeded.guarding (hunneeded : Unneeded w log) (hgood : Throughout GoodDeed log) :
    Guarding m w log where
  here := fun habandoned ↦ .inr (hunneeded.resolve_right fun hnot ↦ hnot.1 habandoned)
  durable := fun habandoned ↦
    .inr (hunneeded.resolve_right fun hnot ↦ habandoned.elim hnot.2.1 hnot.2.2)
  good := hgood

/-- A process that dies while the marker guards what it must guard. -/
theorem Guarding.crashed (hguarding : Guarding m w log) :
    Guarding tokenStore.boot w (.crashed :: log) where
  here := by
    unfold AbandonedHere
    rw [since_cons]
    simp
  durable := by
    rintro (habandoned | hraised)
    · unfold DurablyAbandoned at habandoned
      rw [since_cons] at habandoned
      exact hguarding.durable (habandoned.symm.imp_left And.right)
    · cases hraised.1
  good := ⟨trivial, hguarding.good⟩

end Telling

/-! ### The tasks of the token store -/

section Tasks

variable {T : Type} {m : Memory} {w : World} {log : StoreLog}

/-- The obligation of a task of the token store: at every await its process may die. -/
abbrev Stands (post : T → Memory → World → StoreLog → Prop) :
    ClientTask T → Memory → World → StoreLog → Prop :=
  Keeps tokenStore (fun w log ↦ Guarding tokenStore.boot w (.crashed :: log)) post

variable {post : T → Memory → World → StoreLog → Prop}

/-- What a task leaves holds still after the microtask in which its await ends. -/
theorem stands_awaited {task : ClientTask T}
    (htask : Stands (fun result m w log ↦ Guarding m w log ∧ ∀ last, TellsTheSame log last →
      erasure last = erasure log → post result m w last) task m w log) :
    Stands post (awaited task) m w log := by
  refine keeps_bind htask ?_
  rintro result m w log ⟨hguarding, hpost⟩
  refine keeps_await_bind hguarding.crashed fun oracle later answer hanswer ↦ ?_
  obtain rfl := answer_microtask hanswer
  exact hpost _ (tellsTheSame_did id rfl) rfl

/-- The marker is stood down where it is not needed any more. -/
theorem clearMarker_stands (hunneeded : Unneeded w log) (hgood : Throughout GoodDeed log) :
    Stands (fun _ later w last ↦ later = m ∧ Unneeded w last ∧ TellsTheSame log last ∧
      erasure last = erasure log) PersistedSessionInvalidation.clear m w log := by
  refine keeps_await_bind (hunneeded.guarding (m := m) hgood).crashed
    fun oracle removed removal hremoval ↦ ?_
  have hsame : TellsTheSame log (.did .removeMarker removal :: log) := tellsTheSame_did id rfl
  have hremoved := hunneeded.tells hsame (answer_removeMarker hremoval)
  split_ifs
  · exact ⟨rfl, hremoved, hsame, rfl⟩
  · refine keeps_await_bind (hremoved.guarding (m := m) (hsame.good hgood)).crashed
      fun oracle stood standDown hstandDown ↦ ?_
    have hfurther : TellsTheSame log
        (.did (.writeMarker false) standDown :: .did .removeMarker removal :: log) :=
      hsame.trans (tellsTheSame_did id rfl)
    have hstood : Unneeded stood _ := hunneeded.tells hfurther
      ((answer_writeMarker hstandDown).1.trans (answer_removeMarker hremoval))
    split_ifs <;> exact ⟨rfl, hstood, hfurther, rfl⟩

theorem awaited_clearMarker_stands (hunneeded : Unneeded w log) (hgood : Throughout GoodDeed log) :
    Stands (fun _ later w last ↦ later = m ∧ Unneeded w last ∧ TellsTheSame log last ∧
      erasure last = erasure log) (awaited PersistedSessionInvalidation.clear) m w log := by
  refine stands_awaited (Keeps.mono (clearMarker_stands hunneeded hgood) ?_)
  rintro result later w last ⟨rfl, hunneeded, hsame, herasure⟩
  refine ⟨hunneeded.guarding (hsame.good hgood), fun further hfurther hagain ↦ ?_⟩
  exact ⟨rfl, hunneeded.tells hfurther rfl, hsame.trans hfurther, hagain.trans herasure⟩

/-- An erase that is tried again hands nothing back. -/
theorem retryErase_stands (hguarding : Guarding m w log) :
    Stands (fun result m w last ↦ (∀ tokens, result ≠ .ok (some tokens)) ∧ Guarding m w last ∧
      begun last = begun log) SecureTokenStore.retryErase m w log := by
  refine keeps_await_bind hguarding.crashed fun oracle later erased herased ↦ ?_
  have hsame : TellsTheSame log (.did .deleteSecure erased :: log) := tellsTheSame_did id rfl
  rcases answer_deleteSecure herased with ⟨rfl, hentry⟩ | ⟨⟨failure, rfl⟩, rfl⟩
  · have hunneeded : Unneeded later (.did .deleteSecure (.ok ()) :: log) := .inl hentry
    refine keeps_act_bind (keeps_bind
      (awaited_clearMarker_stands hunneeded (hsame.good hguarding.good)) ?_)
    rintro result m w last ⟨rfl, hlast, hfurther, -⟩
    refine ⟨by simp, hlast.guarding (hfurther.good (hsame.good hguarding.good)), ?_⟩
    exact hfurther.begun
  · exact ⟨by simp, hguarding.tells hsame, rfl⟩

/-- The reads that hand a credential back, of a process that has not given it up. -/
theorem readStored_stands (hguarding : Guarding m w log) (hlatch : m.abandonedThisProcess = false)
    (hmarker : ¬ w.Raised) :
    Stands (fun result m w last ↦
      (∀ tokens, result = .ok (some tokens) → ¬ DurablyAbandoned last ∧ ¬ AbandonedHere last) ∧
        Guarding m w last ∧ begun last = begun log) (awaited SecureTokenStore.readStored) m w log := by
  refine stands_awaited (keeps_await_bind hguarding.crashed fun oracle later stored hstored ↦ ?_)
  obtain ⟨rfl, hanswer⟩ := answer_readSecure hstored
  have hsame : TellsTheSame log (.did .readSecure stored :: log) := tellsTheSame_did id rfl
  have hread := hguarding.tells hsame
  refine keeps_pure ⟨hread, fun last hlast _ ↦ ⟨fun tokens hresult ↦ ?_, hread.tells hlast,
    hlast.begun⟩⟩
  have hentry : later.entry ≠ none := by
    intro hnone
    rcases hanswer with rfl | ⟨failure, rfl⟩
    · rw [hnone] at hresult
      cases hresult
    · cases hresult
  constructor
  · intro habandoned
    rcases (hread.tells hlast).durable (.inl habandoned) with hraised | hnone
    · exact hmarker hraised
    · exact hentry hnone
  · intro habandoned
    rcases (hread.tells hlast).here habandoned with htrue | hnone
    · rw [hlatch] at htrue
      cases htrue
    · exact hentry hnone

theorem readUnlessAbandoned_stands (hguarding : Guarding m w log) (hmarker : ¬ w.Raised) :
    Stands (fun result m w last ↦
      (∀ tokens, result = .ok (some tokens) → ¬ DurablyAbandoned last ∧ ¬ AbandonedHere last) ∧
        Guarding m w last ∧ begun last = begun log) SecureTokenStore.readUnlessAbandoned m w log := by
  refine keeps_look_bind ?_
  by_cases hlatch : m.abandonedThisProcess = true
  · rw [if_pos hlatch]
    refine (retryErase_stands hguarding).mono fun result m w last hretried ↦ ?_
    exact ⟨fun tokens hresult ↦ absurd hresult (hretried.1 tokens), hretried.2⟩
  · rw [if_neg hlatch]
    exact readStored_stands hguarding (by simpa using hlatch) hmarker

theorem read_stands (hguarding : Guarding m w log) :
    Stands (fun result m w last ↦
      (∀ tokens, result = .ok (some tokens) → ¬ DurablyAbandoned last ∧ ¬ AbandonedHere last) ∧
        Guarding m w last ∧ begun last = begun log) SecureTokenStore.read m w log := by
  refine keeps_await_bind hguarding.crashed fun oracle later marker hmarker ↦ ?_
  obtain ⟨rfl, hanswer⟩ := answer_readMarker hmarker
  have hsame : TellsTheSame log (.did .readMarker marker :: log) := tellsTheSame_did id rfl
  have hread := hguarding.tells hsame
  have hlowered (hnot : marker = .value false ∨ marker = .absent) : ¬ later.Raised := by
    intro hraised
    have hvalue : later.markerRead = .value true := by
      unfold World.markerRead
      rw [hraised]
    rw [hvalue] at hanswer
    rcases hnot with rfl | rfl <;> simp at hanswer
  match marker, hsame, hread, hlowered with
  | .unavailable, hsame, hread, _ => exact ⟨by simp, hread, hsame.begun⟩
  | .corrupt, hsame, hread, _ => exact ⟨by simp, hread, hsame.begun⟩
  | .value true, hsame, hread, _ =>
    refine (retryErase_stands hread).mono fun result m w last hretried ↦ ?_
    exact ⟨fun tokens hresult ↦ absurd hresult (hretried.1 tokens), hretried.2.1,
      hretried.2.2.trans hsame.begun⟩
  | .value false, hsame, hread, hlowered =>
    exact readUnlessAbandoned_stands hread (hlowered (.inl rfl))
  | .absent, hsame, hread, hlowered =>
    exact readUnlessAbandoned_stands hread (hlowered (.inr rfl))

/-- A credential that has been stored is given up by nobody. -/
theorem unneeded_stored {tokens : SessionTokens} {before : World}
    (hbegun : begun log = some (.write tokens, before)) :
    Unneeded w (.did (.writeSecure tokens) (.ok ()) :: log) := by
  refine .inr ⟨?_, ?_, ?_⟩
  · unfold AbandonedHere
    rw [since_cons]
    simp [Stores]
  · unfold DurablyAbandoned
    rw [since_cons]
    simp [Stores, Resolves]
  · rintro ⟨hclear, -⟩
    change (begun log).map Prod.fst = _ at hclear
    rw [hbegun] at hclear
    cases hclear

theorem write_stands {tokens : SessionTokens} {before : World} (hguarding : Guarding m w log)
    (hbegun : begun log = some (.write tokens, before)) :
    Stands (fun _ m w last ↦ Guarding m w last) (SecureTokenStore.write tokens) m w log := by
  refine keeps_await_bind hguarding.crashed fun oracle later written hwritten ↦ ?_
  rcases answer_writeSecure hwritten with rfl | ⟨⟨failure, rfl⟩, rfl⟩
  · have hgood : Throughout GoodDeed (.did (.writeSecure tokens) (.ok ()) :: log) :=
      ⟨trivial, hguarding.good⟩
    refine keeps_act_bind (keeps_bind
      (awaited_clearMarker_stands (unneeded_stored hbegun) hgood) ?_)
    rintro result m w last ⟨rfl, hunneeded, hsame, -⟩
    cases result <;> exact hunneeded.guarding (hsame.good hgood)
  · exact hguarding.tells (tellsTheSame_did id rfl)

theorem Guarding.called (hguarding : Guarding m w log) {call : StoreCall} (hcall : call ≠ .clear) :
    Guarding m w (.called call w :: log) where
  here := by
    intro habandoned
    unfold AbandonedHere at habandoned
    rw [since_cons] at habandoned
    refine hguarding.here (habandoned.resolve_left fun hclear ↦ ?_).2
    cases call <;> simp_all
  durable := by
    rintro (habandoned | hraised)
    · unfold DurablyAbandoned at habandoned
      rw [since_cons] at habandoned
      exact hguarding.durable (.inl (habandoned.resolve_left id).2)
    · cases hraised.2
  good := ⟨trivial, hguarding.good⟩

/-- A call that returns. -/
theorem Guarding.returned (hguarding : Guarding m w log) {call : StoreCall} {reply : StoreReply}
    (hgood : GoodDeed (.returned call reply w) log)
    (hresolves : Resolves (.returned call reply w) log → w.Raised ∨ w.entry = none) :
    Guarding m w (.returned call reply w :: log) where
  here := by
    intro habandoned
    unfold AbandonedHere at habandoned
    rw [since_cons] at habandoned
    exact hguarding.here (habandoned.resolve_left (by simp)).2
  durable := by
    rintro (habandoned | hraised)
    · unfold DurablyAbandoned at habandoned
      rw [since_cons] at habandoned
      rcases habandoned with hresolved | ⟨-, habandoned⟩
      · exact hresolves hresolved
      · exact hguarding.durable (.inl habandoned)
    · cases hraised.2
  good := ⟨hgood, hguarding.good⟩

/-- An erase that was confirmed. -/
theorem reports_erased {outcome : SessionAbandonmentOutcome} (hgone : outcome.credentialIsGone = true)
    (herasure : erasure log = some (.ok ())) : outcome.Reports log w where
  gone := by simp [hgone, herasure]
  invalidated := by cases outcome <;> simp_all [SessionAbandonmentOutcome.credentialIsGone]
  refused := by cases outcome <;> simp_all [SessionAbandonmentOutcome.credentialIsGone]
  unavailable := by cases outcome <;> simp_all [SessionAbandonmentOutcome.credentialIsGone]
  standing := by simp [herasure]

/-- The outcome after a failed erase. -/
def persistedOutcome : SecurityStateWrite → SessionAbandonmentOutcome
  | .written => .credentialPersistedButDurablyInvalidated
  | .writeFailed => .abandonmentNotDurable
  | .unavailable => .abandonmentSecurityStateUnavailable

theorem reports_persisted {raised : SecurityStateWrite} {failure : Failure} {before : World}
    (herasure : erasure log = some (.error failure)) (hraising : raising log = some raised)
    (hbegun : begun log = some (.clear, before))
    (hmarker : raised = .written ∧ w.Raised ∨ raised ≠ .written ∧ w.marker = before.marker) :
    (persistedOutcome raised).Reports log w where
  gone := by
    rw [herasure]
    cases raised <;> simp [persistedOutcome, SessionAbandonmentOutcome.credentialIsGone]
  invalidated := by
    rw [herasure, hraising]
    cases raised <;> simp [persistedOutcome]
  refused := by
    rw [herasure, hraising]
    cases raised <;> simp [persistedOutcome]
  unavailable := by
    rw [herasure, hraising]
    cases raised <;> simp [persistedOutcome]
  standing := by
    intro _ call found hfound
    rw [hbegun] at hfound
    obtain rfl : before = found := (Prod.mk.inj (Option.some.inj hfound)).2
    rcases hmarker with ⟨rfl, hraised⟩ | ⟨hnot, hsame⟩
    · simp [persistedOutcome, hraised]
    · have houtcome : persistedOutcome raised ≠ .credentialPersistedButDurablyInvalidated := by
        cases raised <;> simp_all [persistedOutcome]
      simp [World.Raised, hsame, houtcome]

theorem clear_stands (hguarding : Guarding m w log) :
    Stands (fun outcome m w last ↦ outcome.Reports last w ∧ Guarding m w last ∧
      (outcome.isDurablyResolved = true → w.Raised ∨ w.entry = none))
      SecureTokenStore.clear m w (.called .clear w :: log) := by
  -- From here on the latch withholds whatever is stored.
  have hentered : Guarding (Assignment.perform (.abandonedThisProcess true) m) w
      (.called .clear w :: log) :=
    { here := fun _ ↦ .inl rfl
      durable := by
        rintro (habandoned | hraised)
        · unfold DurablyAbandoned at habandoned
          rw [since_cons] at habandoned
          exact hguarding.durable (.inl (habandoned.resolve_left id).2)
        · cases hraised.2
      good := ⟨trivial, hguarding.good⟩ }
  refine keeps_act_bind (keeps_await_bind hentered.crashed fun oracle marked raised hraised ↦ ?_)
  obtain ⟨hentry, hmarker⟩ := answer_writeMarker hraised
  have hmarked : Guarding (Assignment.perform (.abandonedThisProcess true) m) marked
      (.did (.writeMarker true) raised :: .called .clear w :: log) :=
    { here := fun _ ↦ .inl rfl
      durable := by
        intro habandoned
        rcases hmarker with ⟨-, hwritten⟩ | ⟨hnot, rfl⟩
        · exact .inl hwritten
        · refine hentered.durable (.inl (habandoned.elim ?_ ?_))
          · intro habandoned
            unfold DurablyAbandoned at habandoned
            rw [since_cons] at habandoned
            exact (habandoned.resolve_left id).2
          · exact fun hraisedIn ↦ absurd (Option.some.inj hraisedIn.2) hnot
      good := ⟨trivial, hentered.good⟩ }
  refine keeps_await_bind hmarked.crashed fun oracle later erased herased ↦ ?_
  have hsame : TellsTheSame (.did (.writeMarker true) raised :: .called .clear w :: log)
      (.did .deleteSecure erased :: .did (.writeMarker true) raised :: .called .clear w :: log) :=
    tellsTheSame_did id rfl
  rcases answer_deleteSecure herased with ⟨rfl, hnone⟩ | ⟨⟨failure, rfl⟩, rfl⟩
  · have hgood := hsame.good hmarked.good
    refine keeps_act_bind (keeps_bind (awaited_clearMarker_stands (.inl hnone) hgood) ?_)
    rintro result m last further ⟨rfl, hunneeded, hfurther, herasure⟩
    have habandoned : AbandonedHere further := by
      rw [hfurther.here, hsame.here]
      unfold AbandonedHere
      rw [since_cons, since_cons]
      simp [Stores]
    have hgone : last.entry = none := hunneeded.resolve_right fun hnot ↦ hnot.1 habandoned
    cases result <;>
      exact ⟨reports_erased rfl herasure, hunneeded.guarding (hfurther.good hgood),
        fun _ ↦ .inr hgone⟩
  · have hlast := hmarked.tells hsame
    have hreports : (persistedOutcome raised).Reports (.did .deleteSecure (.error failure) ::
        .did (.writeMarker true) raised :: .called .clear w :: log) later :=
      reports_persisted rfl rfl rfl (hmarker.imp_right fun hnot ↦ ⟨hnot.1, by rw [hnot.2]⟩)
    have hresolved : (persistedOutcome raised).isDurablyResolved = true →
        later.Raised ∨ later.entry = none := by
      intro hresolved
      rcases hmarker with ⟨-, hwritten⟩ | ⟨hnot, -⟩
      · exact .inl hwritten
      · cases raised <;> simp_all [persistedOutcome, SessionAbandonmentOutcome.isDurablyResolved,
          SessionAbandonmentOutcome.credentialIsGone]
    cases raised <;> exact ⟨hreports, hlast, hresolved⟩

theorem task_stands (call : StoreCall) (hguarding : Guarding m w log) :
    Runs tokenStore Guarding call (tokenStore.task call) m w (.called call w :: log) := by
  cases call with
  | read =>
    refine keeps_bind (read_stands (hguarding.called (by simp))) ?_
    rintro result m w last ⟨hhanded, hguarding, -⟩
    refine hguarding.returned ?_ nofun
    match result, hhanded with
    | .error failure, _ => trivial
    | .ok none, _ => trivial
    | .ok (some tokens), hhanded => exact hhanded tokens rfl
  | write tokens =>
    refine keeps_bind (write_stands (hguarding.called (by simp)) rfl) ?_
    exact fun result m w last hguarding ↦ hguarding.returned trivial nofun
  | clear =>
    refine keeps_bind (clear_stands hguarding) ?_
    rintro outcome m w last ⟨hreports, hguarding, hresolved⟩
    exact hguarding.returned hreports hresolved

end Tasks

/-! ### Runs -/

/-- In every run, whatever the stores answer and wherever the process dies, what `clear` has given up
is not handed back, and its outcome tells what it did. -/
theorem stays_abandoned {world : World} {p : StoreProcess}
    (hreaches : Foundation.Schedule.Reaches tokenStore.step (fun _ _ ↦ True) (tokenStore.launched world) p) :
    StaysAbandoned SessionAbandonmentOutcome.Reports p.log := by
  have hkept : Kept tokenStore Guarding p := by
    refine Reaches.keeps hreaches ⟨False.elim, ?_, trivial⟩ (fun m w log ↦ Guarding.crashed)
      fun call m w log ↦ task_stands call
    rintro (habandoned | hraised)
    · exact habandoned.elim
    · cases hraised.1
  have hgood : Throughout GoodDeed p.log :=
    hkept.log_of_idle (fun _ _ _ hguarding ↦ hguarding.good) fun _ hcrashed ↦ hcrashed.2
  constructor
  · intro newer tokens after older hlog
    rw [hlog] at hgood
    exact hgood.split.1
  · intro newer tokens after older hlog
    rw [hlog] at hgood
    exact hgood.split.2
  · intro newer outcome after older hlog
    rw [hlog] at hgood
    exact hgood.split

/-! ### A marker that stands from an earlier call -/

namespace ClearedTwice

/-- A device with a stored credential. -/
def device : World :=
  ⟨some (.tokens ⟨"access", 100, "refresh", 1000000, "session"⟩), none⟩

/-- The erase fails, and the marker is durable. -/
def cleared : List (Foundation.CrashRun.Event Oracle StoreCall) :=
  [.call .clear, .answer .succeeds, .answer .refuses]

/-- The second time, the marker cannot be written either. -/
def clearedAgain : StoreProcess :=
  Foundation.Schedule.finish tokenStore.step (tokenStore.launched device)
    (cleared ++ [.call .clear, .answer .refuses, .answer .refuses])

/-- The process dies, and the next one reads. -/
def readAgain : List (Foundation.CrashRun.Event Oracle StoreCall) :=
  cleared ++ [.crash, .call .read, .answer .succeeds, .answer .refuses]

end ClearedTwice

open ClearedTwice in
/-- The marker of an earlier call stands, and the outcome tells that nothing durable records the
abandonment. -/
theorem not_stays_abandoned_exact :
    ¬ ∀ world (p : StoreProcess), Foundation.Schedule.Reaches tokenStore.step (fun _ _ ↦ True)
        (tokenStore.launched world) p →
      StaysAbandoned SessionAbandonmentOutcome.Exact p.log := by
  intro hclaim
  have hstays := hclaim device clearedAgain
    (Foundation.Schedule.reaches_finish (Foundation.Schedule.follows_true _ _))
  have hexact := hstays.outcome [] .abandonmentNotDurable
    ⟨device.entry, some (.value true)⟩ clearedAgain.log.tail rfl
  have hinvalidated : SessionAbandonmentOutcome.abandonmentNotDurable =
      .credentialPersistedButDurablyInvalidated :=
    hexact.invalidated.mpr ⟨⟨.secureStorageUnavailable .delete, rfl⟩, rfl⟩
  cases hinvalidated

open ClearedTwice in
/-- The next process does not hand the credential back. -/
theorem stays_abandoned_readAgain :
    (Foundation.Schedule.finish tokenStore.step (tokenStore.launched device) readAgain).log.head? =
        some (.returned .read (.read (.error (.secureStorageUnavailable .delete)))
          ⟨device.entry, some (.value true)⟩) ∧
      StaysAbandoned SessionAbandonmentOutcome.Reports
        (Foundation.Schedule.finish tokenStore.step (tokenStore.launched device) readAgain).log :=
  ⟨rfl, stays_abandoned (Foundation.Schedule.reaches_finish (Foundation.Schedule.follows_true _ _))⟩

end Karar.MobileClient
