import Karar.Capability.ResolutionRuns
import Karar.Foundation.Projection

/-!
# The client view

What a client is told about its capabilities: those that are allowed, and those that are denied for a
reason it can act on. Two lists of resolutions that differ in what a client is not to see give the same
view (`client_view_noninterference`).
-/

namespace Karar.Capability

open Foundation SharedKernel

/-! ### Reasons -/

def CLIENT_SURFACEABLE_REASONS : List DenialReason :=
  [.consentRequired, .reconsentRequired, .entitlementMissing, .entitlementExpired]

/-- What a client is allowed to be told about a denial. -/
abbrev ClientDenialReason :=
  {reason : DenialReason // reason ∈ CLIENT_SURFACEABLE_REASONS ∨ reason = .pendingProvider}

def clientReasonFor (reason : DenialReason) (providerPendingExplainable : Bool) :
    Option ClientDenialReason :=
  if hsurfaceable : reason ∈ CLIENT_SURFACEABLE_REASONS then some ⟨reason, .inl hsurfaceable⟩
  else if reason = .pendingProvider ∧ providerPendingExplainable = true then
    some ⟨.pendingProvider, .inr rfl⟩
  else none

/-! ### The view -/

inductive ClientCapabilityEntry
  | available (capabilityId : String) (state : AllowingState)
  | unavailable (capabilityId : String) (reason : ClientDenialReason)
deriving DecidableEq

def ClientCapabilityEntry.capabilityId : ClientCapabilityEntry → String
  | .available capabilityId _ => capabilityId
  | .unavailable capabilityId _ => capabilityId

structure ClientExposureFacts where
  hidden : Bool
  providerPendingExplainable : Bool
deriving DecidableEq

def clientExposureFactsFor (descriptor : CapabilityDescriptor) : ClientExposureFacts where
  hidden := descriptor.clientExposure = .hidden
  providerPendingExplainable := descriptor.providerPendingExplainable = some true

/-- The entry of one resolution, or none where the client is not to see it. -/
def clientEntry (exposureFor : String → ClientExposureFacts) (resolution : CapabilityResolution) :
    Option ClientCapabilityEntry :=
  let exposure := exposureFor resolution.capabilityId
  if exposure.hidden then none
  else
    match resolution.outcome with
    | .allowed state => some (.available resolution.capabilityId state)
    | .denied _ reason =>
      (clientReasonFor reason exposure.providerPendingExplainable).map
        (.unavailable resolution.capabilityId)

def toClientView (resolutions : List CapabilityResolution)
    (exposureFor : String → ClientExposureFacts) : List ClientCapabilityEntry :=
  resolutions.filterMap (clientEntry exposureFor)

/-! ### `ResolveClientCapabilityView` -/

structure ClientCapabilityView where
  environment : String
  resolvedAt : Instant
  capabilities : List ClientCapabilityEntry
deriving DecidableEq

namespace ResolveClientCapabilityView

/-- A capability without a descriptor is hidden. -/
def exposureIn (registry : CapabilityRegistryView) (capabilityId : String) : ClientExposureFacts :=
  match registry.descriptor capabilityId with
  | none => ⟨true, false⟩
  | some descriptor => clientExposureFactsFor descriptor

def execute (registry : CapabilityRegistryView) (environment : String) (subject : ResolutionSubject)
    (now : Instant) : ResolveStep (Except ResolveError ClientCapabilityView) := do
  let resolved ← ResolveCapabilityAvailability.execute registry environment ⟨subject, now, none⟩
  return resolved.map fun set ↦
    ⟨set.environment, set.resolvedAt, toClientView set.resolutions (exposureIn registry)⟩

end ResolveClientCapabilityView

/-! ### What a client can tell apart -/

section Noninterference

variable {exposureFor : String → ClientExposureFacts}

/-- The reason may be told to a client. -/
def Surfaceable (exposure : ClientExposureFacts) (reason : DenialReason) : Prop :=
  reason ∈ CLIENT_SURFACEABLE_REASONS ∨
    reason = .pendingProvider ∧ exposure.providerPendingExplainable = true

/-- The capability is hidden from clients. -/
def Hidden (exposureFor : String → ClientExposureFacts) (resolution : CapabilityResolution) : Prop :=
  (exposureFor resolution.capabilityId).hidden = true

/-- Denied for a reason that a client is not told. -/
def DeniedSilently (exposure : ClientExposureFacts) (outcome : Outcome) : Prop :=
  ∃ gate reason, outcome = .denied gate reason ∧ ¬ Surfaceable exposure reason

/-- Two resolutions of one capability with one outcome, or with denials that a client is not told. -/
def SameToClient (exposureFor : String → ClientExposureFacts) (first second : CapabilityResolution) :
    Prop :=
  first.capabilityId = second.capabilityId ∧
    (first.outcome = second.outcome ∨
      DeniedSilently (exposureFor first.capabilityId) first.outcome ∧
        DeniedSilently (exposureFor first.capabilityId) second.outcome)

theorem clientReasonFor_eq_none_iff {exposure : ClientExposureFacts} {reason : DenialReason} :
    clientReasonFor reason exposure.providerPendingExplainable = none ↔
      ¬ Surfaceable exposure reason := by
  unfold clientReasonFor Surfaceable
  split_ifs with hsurfaceable hpending <;> simp_all

theorem surfaceable_of_clientReasonFor {exposure : ClientExposureFacts} {reason : DenialReason}
    {told : ClientDenialReason}
    (htold : clientReasonFor reason exposure.providerPendingExplainable = some told) :
    Surfaceable exposure told.1 := by
  unfold clientReasonFor at htold
  split_ifs at htold with hsurfaceable hpending
  · exact Option.some.inj htold ▸ .inl hsurfaceable
  · exact Option.some.inj htold ▸ .inr ⟨rfl, hpending.2⟩

theorem clientEntry_of_hidden {resolution : CapabilityResolution}
    (hhidden : Hidden exposureFor resolution) : clientEntry exposureFor resolution = none :=
  if_pos hhidden

theorem clientEntry_of_deniedSilently {resolution : CapabilityResolution}
    (hdenied : DeniedSilently (exposureFor resolution.capabilityId) resolution.outcome) :
    clientEntry exposureFor resolution = none := by
  obtain ⟨gate, reason, houtcome, hsilent⟩ := hdenied
  simp [clientEntry, houtcome, clientReasonFor_eq_none_iff.mpr hsilent]

theorem clientEntry_of_sameToClient {first second : CapabilityResolution}
    (hsame : SameToClient exposureFor first second) :
    clientEntry exposureFor first = clientEntry exposureFor second := by
  obtain ⟨hid, houtcome | ⟨hfirst, hsecond⟩⟩ := hsame
  · unfold clientEntry
    rw [hid, houtcome]
  · rw [clientEntry_of_deniedSilently hfirst, clientEntry_of_deniedSilently (hid ▸ hsecond)]

/-- What a client sees of a capability that it sees. -/
theorem clientEntry_eq_some {resolution : CapabilityResolution} {entry : ClientCapabilityEntry}
    (hentry : clientEntry exposureFor resolution = some entry) :
    entry.capabilityId = resolution.capabilityId ∧
      (exposureFor entry.capabilityId).hidden = false ∧
      ∀ capabilityId told, entry = .unavailable capabilityId told →
        Surfaceable (exposureFor capabilityId) told.1 := by
  unfold clientEntry at hentry
  dsimp only at hentry
  split_ifs at hentry with hhidden
  split at hentry
  · obtain rfl := Option.some.inj hentry
    exact ⟨rfl, by simpa [ClientCapabilityEntry.capabilityId] using hhidden, fun _ _ heq ↦ nomatch heq⟩
  · obtain ⟨told, htold, rfl⟩ := Option.map_eq_some_iff.mp hentry
    refine ⟨rfl, by simpa [ClientCapabilityEntry.capabilityId] using hhidden,
      fun capabilityId other heq ↦ ?_⟩
    obtain ⟨rfl, rfl⟩ := ClientCapabilityEntry.unavailable.inj heq
    exact surfaceable_of_clientReasonFor htold

/-- A view tells a client nothing that it is not to see. -/
structure ViewOf (exposureFor : String → ClientExposureFacts) (capabilityIds : List String)
    (view : List ClientCapabilityEntry) : Prop where
  order : (view.map (·.capabilityId)).Sublist capabilityIds
  shown : ∀ entry ∈ view, (exposureFor entry.capabilityId).hidden = false
  told : ∀ entry ∈ view, ∀ capabilityId told, entry = .unavailable capabilityId told →
    Surfaceable (exposureFor capabilityId) told.1

theorem viewOf_toClientView (resolutions : List CapabilityResolution) :
    ViewOf exposureFor (resolutions.map (·.capabilityId)) (toClientView resolutions exposureFor) := by
  have hentry : ∀ entry ∈ toClientView resolutions exposureFor,
      (exposureFor entry.capabilityId).hidden = false ∧
        ∀ capabilityId told, entry = .unavailable capabilityId told →
          Surfaceable (exposureFor capabilityId) told.1 := by
    intro entry hentry
    obtain ⟨resolution, -, hentry⟩ := List.mem_filterMap.mp hentry
    exact (clientEntry_eq_some hentry).2
  exact ⟨filterMap_keys_sublist (fun _ _ hentry ↦ (clientEntry_eq_some hentry).1) resolutions,
    fun entry hmem ↦ (hentry entry hmem).1, fun entry hmem ↦ (hentry entry hmem).2⟩

end Noninterference

/-- The use case tells of the capabilities of the registry, in its order. -/
theorem ResolveClientCapabilityView.viewOf_of_eval {registry : CapabilityRegistryView}
    {environment : String} {subject : ResolutionSubject} {now : Instant}
    {answers : (op : ResolveOp) → Except String op.Value} {view : ClientCapabilityView}
    (heval : (execute registry environment subject now).run.eval answers = .ok (.ok view)) :
    ViewOf (exposureIn registry) registry.ids view.capabilities := by
  obtain ⟨resolved, hresolved, heval⟩ := eval_bind_eq_ok heval
  cases resolved with
  | error failure => cases Except.ok.inj heval
  | ok set =>
    obtain rfl := Except.ok.inj (Except.ok.inj heval)
    have hids : set.resolutions.map (·.capabilityId) = registry.ids :=
      ResolveCapabilityAvailability.ids_of_eval hresolved
    exact hids ▸ viewOf_toClientView set.resolutions

/-- Lists that differ in hidden capabilities and in reasons that a client is not told give one view. In
every view the capabilities stand in the order of the resolutions, none of them is hidden, and every reason
is one that a client may be told. -/
theorem client_view_noninterference (exposureFor : String → ClientExposureFacts) :
    (∀ first second : List CapabilityResolution,
      AgreeBut (Hidden exposureFor) (SameToClient exposureFor) first second →
        toClientView first exposureFor = toClientView second exposureFor) ∧
      ∀ resolutions : List CapabilityResolution,
        ViewOf exposureFor (resolutions.map (·.capabilityId)) (toClientView resolutions exposureFor) := by
  refine ⟨fun first second hagree ↦ ?_, viewOf_toClientView⟩
  exact filterMap_eq_of_agreeBut (fun _ hhidden ↦ clientEntry_of_hidden hhidden)
    (fun _ _ hsame ↦ clientEntry_of_sameToClient hsame) hagree

end Karar.Capability
