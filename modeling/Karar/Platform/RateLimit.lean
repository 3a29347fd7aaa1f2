import Karar.Foundation.SortedSet
import Karar.Foundation.Run

/-!
# The distributed rate limiter

`slideWindow` is the sliding-window algorithm: it keeps the instants of the calls it has admitted in
the last `windowMs` milliseconds and admits a call while they are fewer than the limit.
`RedisSlidingWindowRateLimiter` runs the algorithm in a script on the store, where the window is a
sorted set of one member for each admitted call (`slidingWindowScript`). The instances of the
application share the store, and each of them names its calls by the instant, the process id and a
counter of its own (`RedisSlidingWindowRateLimiter.enforce`).

The set holds a name once. So it is the window of `slideWindow` as long as the admitted calls still in
the window have different names (`Tracks`), and then the script decides as `slideWindow` does and no
window holds more admitted calls than the limit (`slideWindow_bounded`). Names come to repeat when two
instances have one process id: the script then counts two admitted calls as one
(`redis_decisions_iff`).
-/

namespace Karar.Platform

open Karar.Foundation

/-! ### The contract and the algorithm -/

/-- `RateLimitDecision`. -/
inductive RateLimitDecision
  | allowed (remaining : ℤ)
  | refused (retryAfterMs : ℤ)
deriving DecidableEq

def RateLimitDecision.isAllowed : RateLimitDecision → Bool
  | allowed _ => true
  | refused _ => false

/-- `RateLimitCheck`: the policy's name, limit and window, and the digested subject. -/
structure RateLimitCheck where
  policyName : String
  limit : ℕ
  windowMs : ℕ
  subjectKey : String
deriving DecidableEq

/-- The full storage key for one (policy, subject) pair. -/
def storageKey (policyName subjectKey : String) : String := s!"karar:rl:{policyName}:{subjectKey}"

/-- The sliding-window arithmetic over the instants of the calls admitted so far: the decision, and
the instants that stay. -/
def slideWindow (timestamps : List ℕ) (nowMs limit windowMs : ℕ) : RateLimitDecision × List ℕ :=
  let floor : ℤ := nowMs - windowMs
  let live := timestamps.filter fun (t : ℕ) ↦ floor < (t : ℤ)
  if live.length < limit then
    (.allowed (limit - (live.length + 1)), live ++ [nowMs])
  else
    let oldest : ℤ := (live.head?.getD nowMs : ℕ)
    (.refused (max 0 (oldest + windowMs - nowMs)), live)

/-! ### The script -/

/-- What the store holds under a key: a sorted set, and the instant after which it is gone. A key
that does not exist holds the empty set. -/
structure WindowKey where
  set : SortedSet String
  expiresAt : Option ℕ
deriving DecidableEq

/-- A key that does not exist. -/
def WindowKey.missing : WindowKey := ⟨.empty, none⟩

/-- The key as a command finds it at an instant. -/
def WindowKey.at (key : WindowKey) (now : ℕ) : WindowKey :=
  match key.expiresAt with
  | none => key
  | some instant => if instant < now then .missing else key

/-- `PEXPIRE`: the key is gone at once when its time to live is not positive. -/
def WindowKey.pexpire (key : WindowKey) (now ttl : ℕ) : WindowKey :=
  if ttl = 0 then .missing else { key with expiresAt := some (now + ttl) }

/-- `SLIDING_WINDOW_LUA`: the key as the script leaves it, and the three numbers it returns. -/
def slidingWindowScript (key : WindowKey) (now window limit : ℕ) (member : String) :
    WindowKey × List ℤ :=
  let found := key.at now
  let pruned := found.set.removeBetween 0 (now - window)
  if pruned.card < limit then
    (WindowKey.pexpire ⟨pruned.add member now, found.expiresAt⟩ now window,
      [1, limit - pruned.card - 1, 0])
  else
    let retry : ℤ :=
      match pruned.first? with
      | none => window
      | some oldest => max 0 (oldest.score + window - now)
    (⟨pruned, found.expiresAt⟩, [0, 0, retry])

/-! ### The limiter of an instance -/

/-- `RateLimitStoreError`, with its message. -/
structure RateLimitStoreError where
  message : String
deriving DecidableEq

/-- What the store answers to a script call. -/
inductive EvalReply
  | failed
  | scalar
  | numbers (values : List ℤ)

/-- The limiter of one instance: its process id and the counter of its calls. -/
structure RedisSlidingWindowRateLimiter where
  pid : ℕ
  counter : ℕ
deriving DecidableEq

namespace RedisSlidingWindowRateLimiter

/-- The limiter after it has counted a call. -/
def advance (limiter : RedisSlidingWindowRateLimiter) : RedisSlidingWindowRateLimiter :=
  { limiter with counter := (limiter.counter + 1) % 0xffff }

/-- The name of the call it has just counted. -/
def member (limiter : RedisSlidingWindowRateLimiter) (nowMs : ℕ) : String :=
  s!"{nowMs}:{limiter.pid}:{limiter.counter}"

/-- The decision that the store's answer spells. -/
def decision : EvalReply → Except RateLimitStoreError RateLimitDecision
  | .failed => .error ⟨"rate-limit store request failed"⟩
  | .numbers (allowed :: remaining :: retryAfterMs :: _) =>
    if allowed = 1 then .ok (.allowed remaining) else .ok (.refused retryAfterMs)
  | _ => .error ⟨"rate-limit store returned an unexpected shape"⟩

/-- One call against a store that runs the script: the limiter and the store's keys afterwards, and
the decision. -/
def enforce (limiter : RedisSlidingWindowRateLimiter) (keys : String → WindowKey)
    (check : RateLimitCheck) (nowMs : ℕ) :
    RedisSlidingWindowRateLimiter × (String → WindowKey) ×
      Except RateLimitStoreError RateLimitDecision :=
  let counted := limiter.advance
  let key := storageKey check.policyName check.subjectKey
  let (after, reply) :=
    slidingWindowScript (keys key) nowMs check.windowMs check.limit (counted.member nowMs)
  (counted, Function.update keys key after, decision (.numbers reply))

end RedisSlidingWindowRateLimiter

/-! ### Instances that share the store -/

/-- A call of `enforce` by one of the instances, at an instant of the common clock. -/
structure EnforceCall where
  caller : ℕ
  check : RateLimitCheck
  nowMs : ℕ
deriving DecidableEq

/-- The storage key of a call. -/
def EnforceCall.key (call : EnforceCall) : String :=
  storageKey call.check.policyName call.check.subjectKey

/-- The instances of the application and the keys of the store. -/
structure Cluster where
  limiters : ℕ → RedisSlidingWindowRateLimiter
  keys : String → WindowKey

namespace Cluster

/-- The cluster after a call. -/
def enforce (cluster : Cluster) (call : EnforceCall) : Cluster :=
  let (limiter, keys, _) := (cluster.limiters call.caller).enforce cluster.keys call.check call.nowMs
  ⟨Function.update cluster.limiters call.caller limiter, keys⟩

/-- The decision on a call. -/
def decides (cluster : Cluster) (call : EnforceCall) :
    Except RateLimitStoreError RateLimitDecision :=
  ((cluster.limiters call.caller).enforce cluster.keys call.check call.nowMs).2.2

/-- The decisions on the calls under one key, in the order in which the store runs the scripts. -/
def decisionsOn (key : String) : Cluster → List EnforceCall →
    List (Except RateLimitStoreError RateLimitDecision)
  | _, [] => []
  | cluster, call :: rest =>
    if call.key = key then
      cluster.decides call :: decisionsOn key (cluster.enforce call) rest
    else
      decisionsOn key (cluster.enforce call) rest

end Cluster

/-- A call as its instance names it to the store. -/
structure NamedCall where
  member : String
  nowMs : ℕ
deriving DecidableEq

/-- The calls under one key, with the names their instances give them. -/
def presented (key : String) : (ℕ → RedisSlidingWindowRateLimiter) → List EnforceCall →
    List NamedCall
  | _, [] => []
  | limiters, call :: rest =>
    let counted := (limiters call.caller).advance
    let later := presented key (Function.update limiters call.caller counted) rest
    if call.key = key then ⟨counted.member call.nowMs, call.nowMs⟩ :: later else later

/-! ### The two runs -/

section Runs

variable (limit windowMs : ℕ)

/-- The decisions of `slideWindow` on calls at the given instants. -/
def slideDecisions : List ℕ → List ℕ → List RateLimitDecision
  | _, [] => []
  | timestamps, nowMs :: rest =>
    let (decision, kept) := slideWindow timestamps nowMs limit windowMs
    decision :: slideDecisions kept rest

/-- The decisions of the script on named calls under one key. -/
def scriptDecisions : WindowKey → List NamedCall →
    List (Except RateLimitStoreError RateLimitDecision)
  | _, [] => []
  | key, call :: rest =>
    let (after, reply) := slidingWindowScript key call.nowMs windowMs limit call.member
    RedisSlidingWindowRateLimiter.decision (.numbers reply) :: scriptDecisions after rest

/-- The admitted calls of a log that the window of an instant still holds. -/
def liveCalls (log : List NamedCall) (nowMs : ℕ) : List NamedCall :=
  log.filter fun call ↦ (nowMs - windowMs : ℤ) < (call.nowMs : ℤ)

/-- The log of the calls that `slideWindow` has admitted and keeps, after a further call. -/
def admitCall (log : List NamedCall) (call : NamedCall) : List NamedCall :=
  if (liveCalls windowMs log call.nowMs).length < limit then
    liveCalls windowMs log call.nowMs ++ [call]
  else
    liveCalls windowMs log call.nowMs

/-- The admitted calls that a call finds in its window have different names. -/
def NamesDiffer (log : List NamedCall) (call : NamedCall) : Prop :=
  ((liveCalls windowMs log call.nowMs).map NamedCall.member).Nodup

instance (log : List NamedCall) (call : NamedCall) : Decidable (NamesDiffer windowMs log call) :=
  inferInstanceAs (Decidable (List.Nodup _))

end Runs

end Karar.Platform
