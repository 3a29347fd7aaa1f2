import Karar.MobileClient.Client

/-!
# What the tasks of the mobile client do

Every task but a refresh leaves the refresh endpoint alone. What the token store does in the
background of an adoption or of an ending changes neither the session nor the terminal latch, and
only a write of the token store hands a credential to the secure store.
-/

namespace Karar.MobileClient

open Foundation.EventLoop Foundation.Program

/-- An assignment to something other than the session and the terminal latch. -/
def Assignment.Quiet : Assignment → Prop
  | restored _ | adopted _ | ended | abandoned | terminated _ => False
  | _ => True

theorem Assignment.Quiet.session {assignment : Assignment} (hquiet : assignment.Quiet) (m : Memory) :
    (assignment.perform m).session = m.session := by
  cases assignment with
  | restored _ | adopted _ | ended | abandoned | terminated _ => exact hquiet.elim
  | _ => rfl

theorem Assignment.Quiet.terminated {assignment : Assignment} (hquiet : assignment.Quiet)
    (m : Memory) : (assignment.perform m).terminated = m.terminated := by
  cases assignment with
  | restored _ | adopted _ | ended | abandoned | terminated _ => exact hquiet.elim
  | _ => rfl

def Operation.IsRefresh : Operation → Prop
  | identityRefresh _ => True
  | _ => False

def Operation.IsWrite : Operation → Prop
  | writeSecure _ => True
  | _ => False

abbrev ClientInstruction := Instruction Assignment Operation

/-- Every instruction but a request to the refresh endpoint. -/
def Ordinary : ClientInstruction → Prop
  | .await op => ¬ op.IsRefresh
  | .look | .act _ => True

/-- An ordinary instruction that leaves the session and the terminal latch alone. -/
def Background : ClientInstruction → Prop
  | .look => True
  | .act assignment => assignment.Quiet
  | .await op => ¬ op.IsRefresh

/-- An instruction in the background that hands no credential to the secure store. -/
def Still : ClientInstruction → Prop
  | .look => True
  | .act assignment => assignment.Quiet
  | .await op => ¬ op.IsRefresh ∧ ¬ op.IsWrite

/-- What the token store does beside handing a credential to the secure store. -/
def Housekeeping : ClientInstruction → Prop
  | .look | .act (.abandonedThisProcess _) | .act (.emitted _) => True
  | .await .readSecure | .await .deleteSecure | .await .listSecure => True
  | .await .readMarker | .await (.writeMarker _) | .await .removeMarker => True
  | .await .microtask => True
  | .act _ | .await _ => False

theorem Housekeeping.still {instruction : ClientInstruction} (hwork : Housekeeping instruction) :
    Still instruction := by
  match instruction with
  | .look => trivial
  | .act (.abandonedThisProcess _) | .act (.emitted _) => trivial
  | .await .readSecure | .await .deleteSecure | .await .listSecure => exact ⟨id, id⟩
  | .await .readMarker | .await (.writeMarker _) | .await .removeMarker => exact ⟨id, id⟩
  | .await .microtask => exact ⟨id, id⟩

theorem Still.background {instruction : ClientInstruction} (hstill : Still instruction) :
    Background instruction := by
  cases instruction with
  | look => trivial
  | act assignment => exact hstill
  | await op => exact hstill.1

/-- Every instruction but those with which a refresh takes the slot and goes on. -/
def Slotless : ClientInstruction → Prop
  | .act (.inFlight (some _)) => False
  | .await (.identityRefresh _) | .await (.refreshed _) => False
  | .look | .act _ | .await _ => True

theorem Slotless.ordinary {instruction : ClientInstruction} (hslotless : Slotless instruction) :
    Ordinary instruction := by
  match instruction with
  | .look => trivial
  | .act _ => trivial
  | .await op =>
    cases op with
    | identityRefresh refreshToken => exact hslotless.elim
    | _ => exact id

theorem Housekeeping.slotless {instruction : ClientInstruction} (hwork : Housekeeping instruction) :
    Slotless instruction := by
  match instruction with
  | .look => trivial
  | .act (.abandonedThisProcess _) | .act (.emitted _) => trivial
  | .await .readSecure | .await .deleteSecure | .await .listSecure => trivial
  | .await .readMarker | .await (.writeMarker _) | .await .removeMarker => trivial
  | .await .microtask => trivial

section Kinds

variable {kind : ClientInstruction → Prop} {T : Type}

theorem uses_awaited (hmicrotask : kind (.await .microtask)) {task : ClientTask T}
    (htask : task.Uses kind) : (awaited task).Uses kind :=
  uses_bind htask fun _ ↦ uses_bind (uses_await hmicrotask) fun _ ↦ uses_pure _

end Kinds

theorem still_microtask : Still (.await .microtask) := ⟨id, id⟩

theorem housekeeping_microtask : Housekeeping (.await .microtask) := trivial

/-! ### The token store -/

theorem clearMarker_housekeeping : PersistedSessionInvalidation.clear.Uses Housekeeping := by
  refine uses_bind (uses_await trivial) fun removal ↦ uses_ite (uses_pure _) ?_
  exact uses_bind (uses_await trivial) fun standDown ↦ uses_ite (uses_pure _) (uses_pure _)

theorem awaited_clearMarker_housekeeping : (awaited PersistedSessionInvalidation.clear).Uses Housekeeping :=
  uses_awaited housekeeping_microtask clearMarker_housekeeping

namespace SecureTokenStore

theorem retryErase_housekeeping : retryErase.Uses Housekeeping := by
  refine uses_bind (uses_await trivial) fun erased ↦ ?_
  cases erased with
  | error failure => exact uses_pure _
  | ok _ =>
    exact uses_bind (uses_act trivial) fun _ ↦
      uses_bind awaited_clearMarker_housekeeping fun _ ↦ uses_pure _

theorem readStored_housekeeping : readStored.Uses Housekeeping :=
  uses_bind (uses_await trivial) fun _ ↦ uses_pure _

theorem readUnlessAbandoned_housekeeping : readUnlessAbandoned.Uses Housekeeping :=
  uses_bind (uses_look trivial) fun _ ↦
    uses_ite retryErase_housekeeping (uses_awaited housekeeping_microtask readStored_housekeeping)

theorem read_housekeeping : read.Uses Housekeeping := by
  refine uses_bind (uses_await trivial) fun marker ↦ ?_
  match marker with
  | .unavailable => exact uses_pure _
  | .corrupt => exact uses_pure _
  | .value true => exact retryErase_housekeeping
  | .value false => exact readUnlessAbandoned_housekeeping
  | .absent => exact readUnlessAbandoned_housekeeping

theorem standDown_housekeeping : standDown.Uses Housekeeping := by
  refine uses_bind (uses_act trivial) fun _ ↦ uses_bind awaited_clearMarker_housekeeping fun cleared ↦ ?_
  cases cleared <;> exact uses_pure _

/-- Once its credential is with the secure store, a write is housekeeping. -/
theorem written_housekeeping (written : Result Unit) :
    (match written with
      | .error failure => return .error failure
      | .ok () => standDown : ClientTask (Result Unit)).Uses Housekeeping := by
  cases written with
  | error failure => exact uses_pure _
  | ok _ => exact standDown_housekeeping

theorem write_background (tokens : SessionTokens) : (write tokens).Uses Background :=
  uses_bind (uses_await id) fun written ↦ (written_housekeeping written).mono fun _ hwork ↦ hwork.still.background

theorem clear_housekeeping : clear.Uses Housekeeping := by
  refine uses_bind (uses_act trivial) fun _ ↦ uses_bind (uses_await trivial) fun raised ↦
    uses_bind (uses_await trivial) fun erased ↦ ?_
  cases erased with
  | error failure => cases raised <;> exact uses_pure _
  | ok _ =>
    refine uses_bind (uses_act trivial) fun _ ↦
      uses_bind awaited_clearMarker_housekeeping fun cleared ↦ ?_
    cases cleared <;> exact uses_pure _

end SecureTokenStore

theorem deleteAll_housekeeping : SecureStore.deleteAll.Uses Housekeeping := by
  refine uses_bind (uses_await trivial) fun listed ↦ ?_
  match listed with
  | .error failure => exact uses_pure _
  | .ok false => exact uses_pure _
  | .ok true => exact uses_await trivial

/-! ### The session manager and the calls without a refresh -/

section Slotless

open SecureTokenStore SessionManager

theorem still_of_housekeeping {T : Type} {task : ClientTask T} (htask : task.Uses Housekeeping) :
    task.Uses Still :=
  htask.mono fun _ ↦ Housekeeping.still

theorem slotless_of_housekeeping {T : Type} {task : ClientTask T}
    (htask : task.Uses Housekeeping) : task.Uses Slotless :=
  htask.mono fun _ ↦ Housekeeping.slotless

theorem slotless_awaited {T : Type} {task : ClientTask T} (htask : task.Uses Slotless) :
    (awaited task).Uses Slotless :=
  uses_awaited trivial htask

theorem restore_slotless : restore.Uses Slotless := by
  refine uses_bind (slotless_of_housekeeping read_housekeeping) fun stored ↦ ?_
  exact uses_bind (uses_await trivial) fun _ ↦ uses_bind (uses_act trivial) fun _ ↦ uses_pure _

theorem adopt_slotless (tokens : SessionTokens) : (SessionManager.adopt tokens).Uses Slotless :=
  uses_bind (uses_act trivial) fun _ ↦
    slotless_awaited (uses_bind (uses_await trivial) fun written ↦
      slotless_of_housekeeping (SecureTokenStore.written_housekeeping written))

/-- Once the session is dropped, its end is housekeeping. -/
theorem endedSession_housekeeping (reason : SessionEndReason) :
    (do
      let cleared ← awaited SecureTokenStore.clear
      act (.emitted ⟨reason, cleared⟩)
      return cleared : ClientTask SessionAbandonmentOutcome).Uses Housekeeping :=
  uses_bind (uses_awaited housekeeping_microtask clear_housekeeping) fun _ ↦
    uses_bind (uses_act trivial) fun _ ↦ uses_pure _

theorem endActive_slotless (reason : SessionEndReason) : (endActive reason).Uses Slotless :=
  uses_bind (uses_act trivial) fun _ ↦ slotless_of_housekeeping (endedSession_housekeeping reason)

theorem endSession_slotless (reason : SessionEndReason) :
    (endSession reason).Uses Slotless :=
  uses_bind (uses_look trivial) fun _ ↦ uses_ite (uses_pure _) (endActive_slotless reason)

theorem abandonPersistedSession_slotless : abandonPersistedSession.Uses Slotless :=
  uses_bind (uses_act trivial) fun _ ↦ slotless_awaited (slotless_of_housekeeping clear_housekeeping)

theorem adoptSession_slotless (payload : SessionPayload) :
    (SessionAdoption.adopt payload).Uses Slotless := by
  unfold SessionAdoption.adopt
  cases payload.decode none with
  | error failure => exact uses_pure _
  | ok value =>
    refine uses_bind (uses_bind (uses_act trivial) fun _ ↦ uses_act trivial) fun _ ↦
      uses_bind (slotless_awaited (adopt_slotless value)) fun adopted ↦ ?_
    cases adopted with
    | error failure =>
      exact uses_bind (slotless_awaited (endSession_slotless _)) fun _ ↦ uses_pure _
    | ok _ => exact uses_pure _

theorem clearLocalCredentials_slotless : SessionAdoption.clearLocalCredentials.Uses Slotless :=
  uses_bind (slotless_awaited abandonPersistedSession_slotless) fun _ ↦
    uses_bind (slotless_awaited (slotless_of_housekeeping deleteAll_housekeeping)) fun _ ↦ uses_pure _

theorem switchTenant_slotless (tokens : SessionTokens) :
    (ApiTenantBindingRepository.adopt tokens).Uses Slotless :=
  uses_bind (slotless_awaited (endSession_slotless _)) fun _ ↦
    uses_bind (slotless_awaited (adopt_slotless tokens)) fun _ ↦ uses_pure _

theorem nextGeneration_slotless : StartupCoordinator.nextGeneration.Uses Slotless :=
  uses_bind (uses_act trivial) fun _ ↦ uses_bind (uses_look trivial) fun _ ↦ uses_pure _

theorem endExpired_slotless : StartupCoordinator.endExpired.Uses Slotless := by
  refine uses_bind (uses_look trivial) fun m ↦ ?_
  cases m.session with
  | noSession => exact uses_pure _
  | activeSession tokens =>
    refine uses_ite ?_ (uses_pure _)
    exact uses_bind (slotless_awaited (endSession_slotless _)) fun _ ↦ uses_pure _

theorem restoreAndBootstrap_slotless (generation : ℕ) :
    (StartupCoordinator.restoreAndBootstrap generation).Uses Slotless := by
  refine uses_bind (slotless_awaited restore_slotless) fun restored ↦
    uses_bind (uses_look trivial) fun m ↦ uses_ite (uses_pure _) ?_
  match restored with
  | .error failure => exact uses_pure _
  | .ok none => exact uses_pure _
  | .ok (some tokens) => exact endExpired_slotless

theorem start_slotless : StartupCoordinator.start.Uses Slotless :=
  uses_bind nextGeneration_slotless fun generation ↦ uses_bind (uses_await trivial) fun _ ↦
    uses_bind (uses_look trivial) fun _ ↦ uses_ite (uses_pure _)
      (uses_ite (restoreAndBootstrap_slotless generation) (uses_pure _))

theorem onSessionEnded_slotless : StartupCoordinator.onSessionEnded.Uses Slotless := by
  refine uses_bind (uses_look trivial) fun m ↦ ?_
  cases m.ended with
  | nil => exact uses_pure _
  | cons event events => exact uses_bind (uses_act trivial) fun _ ↦ uses_act trivial

/-- A call of the refresh coordinator. -/
def Request.IsRefresh : Request → Prop
  | ensureUsable _ | refreshAfterRejection _ => True
  | _ => False

/-- Every other call leaves the slot alone. -/
theorem task_slotless {request : Request} (hrequest : ¬ request.IsRefresh) (caller : ℕ) :
    (request.task caller).Uses Slotless := by
  cases request with
  | ensureUsable observed => exact absurd trivial hrequest
  | refreshAfterRejection observed => exact absurd trivial hrequest
  | adoptSession payload => exact uses_bind (adoptSession_slotless payload) fun _ ↦ uses_pure _
  | clearLocalCredentials =>
    exact uses_bind clearLocalCredentials_slotless fun _ ↦ uses_pure _
  | endSession reason => exact uses_bind (endSession_slotless reason) fun _ ↦ uses_pure _
  | abandonPersistedSession =>
    exact uses_bind abandonPersistedSession_slotless fun _ ↦ uses_pure _
  | switchTenant tokens => exact uses_bind (switchTenant_slotless tokens) fun _ ↦ uses_pure _
  | start => exact uses_bind start_slotless fun _ ↦ uses_pure _
  | restart =>
    refine uses_bind (uses_bind nextGeneration_slotless fun generation ↦ ?_) fun _ ↦ uses_pure _
    exact restoreAndBootstrap_slotless generation
  | abandonLockedSession =>
    refine uses_bind (uses_bind nextGeneration_slotless fun _ ↦ ?_) fun _ ↦ uses_pure _
    exact uses_bind (slotless_awaited abandonPersistedSession_slotless) fun _ ↦ uses_pure _
  | onMfaChallenge => exact uses_bind nextGeneration_slotless fun _ ↦ uses_pure _
  | onSessionEnded => exact uses_bind onSessionEnded_slotless fun _ ↦ uses_pure _

/-- Every other call leaves the refresh endpoint alone. -/
theorem task_ordinary {request : Request} (hrequest : ¬ request.IsRefresh) (caller : ℕ) :
    (request.task caller).Uses Ordinary :=
  (task_slotless hrequest caller).mono fun _ ↦ Slotless.ordinary

end Slotless

end Karar.MobileClient
