import Karar.Foundation.KeyedTable
import Karar.Foundation.Recency
import Karar.Platform.RateLimit

/-!
# The limiter of a process

`InProcessRateLimiter` keeps a window for each key, and forgets the keys that were not called for longest
when there are too many. As long as it does not forget a key, the window of the key is what the key's
admitted calls leave of it (`WindowOf`), whatever other keys are called in between. From this follow the
bound on every window, the refusals, and the instant up to which a refusal holds (`in_process_slides`).
The keys that it remembers are those that were called last (`keys_after`).
-/

namespace Karar.Platform

open Foundation

/-! ### The limiter -/

structure Entry where
  timestamps : List ℕ
  lastTouched : ℕ
deriving DecidableEq

def DEFAULT_MAX_SUBJECTS : ℕ := 10000

/-- The entries of the map, in the order of their insertion. -/
structure InProcessRateLimiter where
  maxSubjects : ℕ
  entries : List (String × Entry)
  keys_nodup : (entries.map (·.1)).Nodup

/-- A call of `enforce`. -/
structure LimiterCall where
  check : RateLimitCheck
  nowMs : ℕ
deriving DecidableEq

/-- The key of a call in the map. -/
def LimiterCall.key (call : LimiterCall) : String :=
  s!"{call.check.policyName}:{call.check.subjectKey}"

namespace InProcessRateLimiter

def new (maxSubjects : Option ℕ) : InProcessRateLimiter :=
  ⟨maxSubjects.getD DEFAULT_MAX_SUBJECTS, [], List.nodup_nil⟩

variable (limiter : InProcessRateLimiter)

def get (key : String) : Option Entry :=
  (limiter.entries.find? (·.1 = key)).map (·.2)

/-- `delete`, then `set`: the key is the last one. -/
def reinsert (key : String) (entry : Entry) : InProcessRateLimiter where
  maxSubjects := limiter.maxSubjects
  entries := limiter.entries.filter (·.1 ≠ key) ++ [(key, entry)]
  keys_nodup := by
    rw [List.map_append, List.map_singleton, ← List.concat_eq_append]
    refine (List.filter_sublist.map _).nodup limiter.keys_nodup |>.concat fun hmem ↦ ?_
    obtain ⟨found, hfound, rfl⟩ := List.mem_map.mp hmem
    simpa using (List.mem_filter.mp hfound).2

/-- The first keys are dropped while there are too many. -/
def evictIfNeeded : InProcessRateLimiter where
  maxSubjects := limiter.maxSubjects
  entries := limiter.entries.drop (limiter.entries.length - limiter.maxSubjects)
  keys_nodup := ((List.drop_sublist _ _).map _).nodup limiter.keys_nodup

def enforce (check : RateLimitCheck) (nowMs : ℕ) : InProcessRateLimiter × RateLimitDecision :=
  let key := LimiterCall.key ⟨check, nowMs⟩
  let entry := (limiter.get key).getD ⟨[], nowMs⟩
  let (decision, timestamps) := slideWindow entry.timestamps nowMs check.limit check.windowMs
  ((limiter.reinsert key ⟨timestamps, nowMs⟩).evictIfNeeded, decision)

/-- The limiter after a call. -/
def step (call : LimiterCall) : InProcessRateLimiter := (limiter.enforce call.check call.nowMs).1

def decides (call : LimiterCall) : RateLimitDecision := (limiter.enforce call.check call.nowMs).2

/-- The limiter after some calls. -/
def after (calls : List LimiterCall) : InProcessRateLimiter := calls.foldl step limiter

def Has (key : String) : Prop := key ∈ limiter.entries.map (·.1)

instance (key : String) : Decidable (limiter.Has key) :=
  inferInstanceAs (Decidable (key ∈ limiter.entries.map (·.1)))

/-- The limiter does not forget the key with a call. -/
def Remembers (key : String) (call : LimiterCall) : Prop :=
  limiter.Has key ∨ call.key = key → (limiter.step call).Has key

instance (key : String) (call : LimiterCall) : Decidable (limiter.Remembers key call) :=
  inferInstanceAs (Decidable (_ ∨ _ → _))

/-- The key is not evicted. -/
abbrev Keeps (key : String) (calls : List LimiterCall) : Prop :=
  EveryStep step (fun limiter call ↦ limiter.Remembers key call) limiter calls

/-- The instants of the calls of the key that are admitted. -/
def admitted (key : String) : InProcessRateLimiter → List LimiterCall → List ℕ
  | _, [] => []
  | limiter, call :: rest =>
    if call.key = key ∧ (limiter.decides call).isAllowed = true then
      call.nowMs :: admitted key (limiter.step call) rest
    else admitted key (limiter.step call) rest

/-- The decisions on the calls of the key. -/
def decisions (key : String) : InProcessRateLimiter → List LimiterCall → List RateLimitDecision
  | _, [] => []
  | limiter, call :: rest =>
    if call.key = key then limiter.decides call :: decisions key (limiter.step call) rest
    else decisions key (limiter.step call) rest

/-- The window of a key. -/
def timestamps (key : String) : List ℕ := ((limiter.get key).map (·.timestamps)).getD []

/-! ### The map -/

section Map

variable {limiter} {key : String} {entry : Entry}

theorem get_eq_some_iff : limiter.get key = some entry ↔ (key, entry) ∈ limiter.entries := by
  unfold get
  rw [Option.map_eq_some_iff]
  constructor
  · rintro ⟨⟨found, kept⟩, hfind, rfl⟩
    have hkey : found = key := by simpa using List.find?_some hfind
    exact hkey ▸ List.mem_of_find?_eq_some hfind
  · intro hmem
    exact ⟨(key, entry), find?_key_eq_some limiter.keys_nodup hmem, rfl⟩

theorem has_iff : limiter.Has key ↔ ∃ entry, limiter.get key = some entry := by
  unfold Has
  simp only [get_eq_some_iff, List.mem_map, Prod.exists, exists_and_right, exists_eq_right]

/-- A remembered key has its own window after a call, and another key's window is as it was. -/
theorem timestamps_step {call : LimiterCall} (hremembers : limiter.Remembers key call) :
    (limiter.step call).timestamps key =
      if call.key = key then
        (slideWindow (limiter.timestamps key) call.nowMs call.check.limit call.check.windowMs).2
      else limiter.timestamps key := by
  have hkept : ∀ entry, (key, entry) ∈ (limiter.step call).entries →
      (key, entry) ∈ (limiter.reinsert call.key
        ⟨(slideWindow (limiter.timestamps call.key) call.nowMs call.check.limit
          call.check.windowMs).2, call.nowMs⟩).entries := by
    intro entry hmem
    have htimestamps : limiter.timestamps call.key =
        ((limiter.get call.key).getD ⟨[], call.nowMs⟩).timestamps := by
      unfold timestamps
      cases limiter.get call.key <;> rfl
    rw [htimestamps]
    exact List.mem_of_mem_drop hmem
  by_cases hkey : call.key = key
  · obtain ⟨entry, hentry⟩ := has_iff.mp (hremembers (.inr hkey))
    rw [if_pos hkey]
    have hmem := hkept entry (get_eq_some_iff.mp hentry)
    rw [hkey] at hmem
    simp only [reinsert, List.mem_append, List.mem_filter, List.mem_singleton, Prod.mk.injEq, true_and,
      ne_eq, not_true_eq_false, decide_false, Bool.false_eq_true, and_false, false_or] at hmem
    show ((_ : Option Entry).map (·.timestamps)).getD [] = _
    rw [hentry, hmem]
    rfl
  · rw [if_neg hkey]
    show ((_ : Option Entry).map (·.timestamps)).getD [] = _
    have hold : ∀ entry, (limiter.step call).get key = some entry → limiter.get key = some entry := by
      intro entry hentry
      have hmem := hkept entry (get_eq_some_iff.mp hentry)
      simp only [reinsert, List.mem_append, List.mem_filter, List.mem_singleton, Prod.mk.injEq] at hmem
      rcases hmem with hthere | ⟨rfl, -⟩
      · exact get_eq_some_iff.mpr hthere.1
      · exact absurd rfl hkey
    cases hget : limiter.get key with
    | some entry =>
      obtain ⟨kept, hentry⟩ := has_iff.mp (hremembers (.inl (has_iff.mpr ⟨entry, hget⟩)))
      rw [hentry]
      obtain rfl := Option.some.inj ((hold kept hentry).symm.trans hget)
      simp [timestamps, hget]
    | none =>
      cases hentry : (limiter.step call).get key with
      | some kept => cases (hold kept hentry).symm.trans hget
      | none => simp [timestamps, hget]

theorem decides_eq (call : LimiterCall) :
    limiter.decides call =
      (slideWindow (limiter.timestamps call.key) call.nowMs call.check.limit call.check.windowMs).1 := by
  have htimestamps : limiter.timestamps call.key =
      ((limiter.get call.key).getD ⟨[], call.nowMs⟩).timestamps := by
    unfold timestamps
    cases limiter.get call.key <;> rfl
  rw [htimestamps]
  rfl

end Map

end InProcessRateLimiter

/-! ### The window of the admitted calls -/

/-- The instants in the window that ends with an instant. -/
def live (windowMs : ℕ) (instants : List ℕ) (nowMs : ℕ) : List ℕ :=
  instants.filter fun t ↦ (nowMs - windowMs : ℤ) < (t : ℤ)

/-- The instants in the window that begins with an instant. -/
def within (windowMs : ℕ) (instants : List ℕ) (start : ℕ) : List ℕ :=
  instants.filter fun t ↦ start ≤ t ∧ t < start + windowMs

section Live

variable {windowMs nowMs later : ℕ} {instants : List ℕ}

theorem live_append (first second : List ℕ) :
    live windowMs (first ++ second) nowMs = live windowMs first nowMs ++ live windowMs second nowMs :=
  List.filter_append ..

theorem within_append (first second : List ℕ) (start : ℕ) :
    within windowMs (first ++ second) start = within windowMs first start ++ within windowMs second start :=
  List.filter_append ..

theorem mem_live {t : ℕ} : t ∈ live windowMs instants nowMs ↔ t ∈ instants ∧ nowMs < t + windowMs := by
  rw [live, List.mem_filter, decide_eq_true_eq]
  exact and_congr_right fun _ ↦ by omega

/-- What a call prunes has left the windows of later instants. -/
theorem live_live (hlater : nowMs ≤ later) :
    live windowMs (live windowMs instants nowMs) later = live windowMs instants later := by
  rw [live, live, live, List.filter_filter]
  refine List.filter_congr fun t _ ↦ ?_
  by_cases hlive : (later - windowMs : ℤ) < (t : ℤ)
  · have hbefore : (nowMs - windowMs : ℤ) < (t : ℤ) := by omega
    simp [hlive, hbefore]
  · simp [hlive]

/-- The window that ends with an instant, of instants that are not later. -/
theorem live_eq_within (hpast : ∀ t ∈ instants, t ≤ nowMs) :
    live windowMs instants nowMs = within windowMs instants (nowMs + 1 - windowMs) := by
  refine List.filter_congr fun t ht ↦ decide_eq_decide.mpr ?_
  have hle := hpast t ht
  omega

end Live

/-- The window holds what the log of the admitted calls leaves of it, and no window of the log has more
calls than the limit. -/
structure WindowOf (limit windowMs : ℕ) (timestamps log : List ℕ) (nowMs : ℕ) : Prop where
  ordered : log.Pairwise (· ≤ ·)
  past : ∀ t ∈ log, t ≤ nowMs
  holds : ∀ later, nowMs ≤ later → live windowMs timestamps later = live windowMs log later
  bounded : ∀ start, (within windowMs log start).length ≤ limit

theorem windowOf_nil (limit windowMs nowMs : ℕ) : WindowOf limit windowMs [] [] nowMs :=
  ⟨List.Pairwise.nil, by simp, fun _ _ ↦ rfl, fun _ ↦ Nat.zero_le _⟩

section WindowOf

variable {limit windowMs nowMs later : ℕ} {timestamps log : List ℕ}

theorem WindowOf.mono (hwindow : WindowOf limit windowMs timestamps log nowMs) (hle : nowMs ≤ later) :
    WindowOf limit windowMs timestamps log later :=
  ⟨hwindow.ordered, fun t ht ↦ (hwindow.past t ht).trans hle,
    fun last hlast ↦ hwindow.holds last (hle.trans hlast), hwindow.bounded⟩

/-- A call is admitted as long as its window has room. -/
theorem isAllowed_slideWindow_iff :
    (slideWindow timestamps nowMs limit windowMs).1.isAllowed = true ↔
      (live windowMs timestamps nowMs).length < limit := by
  unfold slideWindow live
  dsimp only
  split_ifs with hroom
  · simpa [RateLimitDecision.isAllowed] using hroom
  · simpa [RateLimitDecision.isAllowed] using hroom

theorem slideWindow_kept :
    (slideWindow timestamps nowMs limit windowMs).2 =
      if (slideWindow timestamps nowMs limit windowMs).1.isAllowed = true then
        live windowMs timestamps nowMs ++ [nowMs]
      else live windowMs timestamps nowMs := by
  unfold slideWindow live
  dsimp only
  split_ifs with hroom hallowed
  · rfl
  · exact absurd rfl hallowed
  · rename_i hallowed
    cases hallowed
  · rfl

/-- A call keeps the window and the log together. -/
theorem WindowOf.slide (hwindow : WindowOf limit windowMs timestamps log nowMs) (hle : nowMs ≤ later) :
    WindowOf limit windowMs (slideWindow timestamps later limit windowMs).2
      (log ++ if (slideWindow timestamps later limit windowMs).1.isAllowed = true then [later] else [])
      later := by
  have hpast : ∀ t ∈ log, t ≤ later := fun t ht ↦ (hwindow.past t ht).trans hle
  have hlive := hwindow.holds later hle
  rw [slideWindow_kept]
  by_cases hallowed : (slideWindow timestamps later limit windowMs).1.isAllowed = true
  · have hroom := isAllowed_slideWindow_iff.mp hallowed
    rw [if_pos hallowed, if_pos hallowed]
    refine ⟨List.pairwise_append.mpr ⟨hwindow.ordered, List.pairwise_singleton _ _, fun t ht last hlast ↦ ?_⟩,
      fun t ht ↦ ?_, fun last hlast ↦ ?_, fun start ↦ ?_⟩
    · rw [List.mem_singleton.mp hlast]
      exact hpast t ht
    · rcases List.mem_append.mp ht with hold | hnew
      · exact hpast t hold
      · exact (List.mem_singleton.mp hnew).le
    · rw [live_append, live_append, live_live hlast, hwindow.holds last (hle.trans hlast)]
    · have hbefore := hwindow.bounded start
      rw [within_append, List.length_append]
      by_cases hin : start ≤ later ∧ later < start + windowMs
      · -- What the window that begins at `start` holds is still in the window of the call.
        have hsub : (within windowMs log start).length ≤ (live windowMs log later).length := by
          refine (List.monotone_filter_right log fun t ht ↦ ?_).length_le
          simp only [decide_eq_true_eq] at ht ⊢
          omega
        rw [hlive] at hroom
        have hone : (within windowMs [later] start).length ≤ 1 := List.length_filter_le _ _
        omega
      · simpa [within, hin] using hbefore
  · rw [if_neg hallowed, if_neg hallowed, List.append_nil]
    refine ⟨hwindow.ordered, hpast, fun last hlast ↦ ?_, hwindow.bounded⟩
    rw [live_live hlast, hwindow.holds last (hle.trans hlast)]

/-- The window of a refused call is full. -/
theorem WindowOf.full (hwindow : WindowOf limit windowMs timestamps log nowMs)
    (hrefused : ¬ (slideWindow timestamps nowMs limit windowMs).1.isAllowed = true) :
    (live windowMs log nowMs).length = limit := by
  have hfull := isAllowed_slideWindow_iff.not.mp hrefused
  rw [hwindow.holds nowMs le_rfl] at hfull
  have hbounded := hwindow.bounded (nowMs + 1 - windowMs)
  rw [← live_eq_within hwindow.past] at hbounded
  omega

/-- A refusal holds until the oldest call of the window has left it. -/
theorem WindowOf.retry (hwindow : WindowOf limit windowMs timestamps log nowMs) (hlimit : 1 ≤ limit)
    {retryAfterMs : ℤ}
    (hrefused : (slideWindow timestamps nowMs limit windowMs).1 = .refused retryAfterMs)
    (hle : nowMs ≤ later) :
    (slideWindow (slideWindow timestamps nowMs limit windowMs).2 later limit windowMs).1.isAllowed = true ↔
      (nowMs + retryAfterMs : ℤ) ≤ later := by
  have hnot : ¬ (slideWindow timestamps nowMs limit windowMs).1.isAllowed = true := by
    simp [hrefused, RateLimitDecision.isAllowed]
  have hfull := hwindow.full hnot
  have hlive := hwindow.holds nowMs le_rfl
  -- The oldest instant of the window decides.
  obtain ⟨oldest, rest, hwhole⟩ : ∃ oldest rest, live windowMs log nowMs = oldest :: rest :=
    List.exists_cons_of_length_pos (by omega)
  have holdest : ∀ t ∈ live windowMs log nowMs, oldest ≤ t := by
    have hsorted : (live windowMs log nowMs).Pairwise (· ≤ ·) := hwindow.ordered.filter _
    rw [hwhole] at hsorted ⊢
    intro t ht
    rcases List.mem_cons.mp ht with rfl | hrest
    · exact le_rfl
    · exact (List.pairwise_cons.mp hsorted).1 t hrest
  have hmem : oldest ∈ live windowMs log nowMs := hwhole ▸ List.mem_cons_self
  have hin := (mem_live.mp hmem).2
  have hretry : (nowMs + retryAfterMs : ℤ) = oldest + windowMs := by
    have hdecision : (slideWindow timestamps nowMs limit windowMs).1 =
        .refused (max 0 ((oldest : ℤ) + windowMs - nowMs)) := by
      unfold slideWindow
      dsimp only
      rw [← live, hlive, hwhole, if_neg (by rw [← hwhole, hfull]; exact lt_irrefl _)]
      rfl
    rw [hdecision] at hrefused
    have hvalue := RateLimitDecision.refused.inj hrefused
    omega
  rw [isAllowed_slideWindow_iff, slideWindow_kept, if_neg hnot, live_live hle, hwindow.holds later hle,
    ← live_live hle, hretry]
  constructor
  · intro hroom
    by_contra hearly
    have hsame : live windowMs (live windowMs log nowMs) later = live windowMs log nowMs := by
      refine List.filter_eq_self.mpr fun t ht ↦ decide_eq_true ?_
      have hlow := holdest t ht
      omega
    rw [hsame, hfull] at hroom
    exact lt_irrefl _ hroom
  · intro hlate
    have hgone : ¬ oldest ∈ live windowMs (live windowMs log nowMs) later := by
      rw [mem_live]
      omega
    rw [← hfull]
    refine lt_of_le_of_ne (List.length_filter_le _ _) fun hlength ↦ ?_
    rw [live, List.length_filter_eq_length_iff] at hlength
    exact hgone (List.mem_filter.mpr ⟨hmem, hlength oldest hmem⟩)

end WindowOf

/-! ### Runs on a key -/

namespace InProcessRateLimiter

/-- The calls of the key are under one limit, and their instants do not fall. -/
structure OnKey (key : String) (limit windowMs nowMs : ℕ) (calls : List LimiterCall) : Prop where
  check : ∀ call ∈ calls, call.key = key → call.check.limit = limit ∧ call.check.windowMs = windowMs
  future : ∀ call ∈ calls, call.key = key → nowMs ≤ call.nowMs
  ordered : calls.Pairwise fun first second ↦ first.key = key → second.key = key →
    first.nowMs ≤ second.nowMs

section OnKey

variable {key : String} {limit windowMs nowMs : ℕ} {call : LimiterCall} {calls rest : List LimiterCall}

theorem OnKey.tail (honKey : OnKey key limit windowMs nowMs (call :: rest)) :
    OnKey key limit windowMs (if call.key = key then call.nowMs else nowMs) rest := by
  obtain ⟨hfirst, hordered⟩ := List.pairwise_cons.mp honKey.ordered
  refine ⟨fun other hother ↦ honKey.check other (List.mem_cons_of_mem _ hother),
    fun other hother hkey ↦ ?_, hordered⟩
  split_ifs with hcall
  · exact hfirst other hother hcall hkey
  · exact honKey.future other (List.mem_cons_of_mem _ hother) hkey

theorem OnKey.append {first second : List LimiterCall}
    (honKey : OnKey key limit windowMs nowMs (first ++ second)) :
    OnKey key limit windowMs nowMs first ∧ OnKey key limit windowMs nowMs second := by
  obtain ⟨hfirst, hsecond, -⟩ := List.pairwise_append.mp honKey.ordered
  exact ⟨⟨fun other hother ↦ honKey.check other (List.mem_append_left _ hother),
      fun other hother ↦ honKey.future other (List.mem_append_left _ hother), hfirst⟩,
    ⟨fun other hother ↦ honKey.check other (List.mem_append_right _ hother),
      fun other hother ↦ honKey.future other (List.mem_append_right _ hother), hsecond⟩⟩

end OnKey

theorem keeps_append {key : String} {limiter : InProcessRateLimiter} {first second : List LimiterCall} :
    limiter.Keeps key (first ++ second) ↔
      limiter.Keeps key first ∧ (limiter.after first).Keeps key second :=
  everyStep_append

/-- The calls of a run have a last instant. -/
theorem exists_last (calls : List LimiterCall) : ∃ later, ∀ call ∈ calls, call.nowMs ≤ later := by
  induction calls with
  | nil => exact ⟨0, by simp⟩
  | cons call rest ih =>
    obtain ⟨later, hlater⟩ := ih
    refine ⟨call.nowMs + later, fun other hother ↦ ?_⟩
    rcases List.mem_cons.mp hother with rfl | hrest
    · exact Nat.le_add_right _ _
    · exact (hlater other hrest).trans (Nat.le_add_left _ _)

section Runs

variable {key : String} {limit windowMs nowMs : ℕ} {limiter : InProcessRateLimiter}
  {calls : List LimiterCall} {log : List ℕ}

/-- What a call of the key decides and keeps. -/
theorem decides_of_key {call : LimiterCall} (hkey : call.key = key)
    (hcheck : call.check.limit = limit ∧ call.check.windowMs = windowMs) :
    limiter.decides call = (slideWindow (limiter.timestamps key) call.nowMs limit windowMs).1 := by
  rw [decides_eq, hkey, hcheck.1, hcheck.2]

theorem timestamps_of_key {call : LimiterCall} (hkey : call.key = key)
    (hcheck : call.check.limit = limit ∧ call.check.windowMs = windowMs)
    (hremembers : limiter.Remembers key call) :
    (limiter.step call).timestamps key =
      (slideWindow (limiter.timestamps key) call.nowMs limit windowMs).2 := by
  rw [timestamps_step hremembers, if_pos hkey, hcheck.1, hcheck.2]

/-- As long as the key is not evicted, its window is that of its admitted calls. -/
theorem windowOf_after (hwindow : WindowOf limit windowMs (limiter.timestamps key) log nowMs)
    (honKey : OnKey key limit windowMs nowMs calls) (hkeeps : limiter.Keeps key calls) {later : ℕ}
    (hnow : nowMs ≤ later) (hlater : ∀ call ∈ calls, call.key = key → call.nowMs ≤ later) :
    WindowOf limit windowMs ((limiter.after calls).timestamps key) (log ++ limiter.admitted key calls)
      later := by
  induction calls generalizing limiter log nowMs with
  | nil =>
    rw [admitted, List.append_nil]
    exact hwindow.mono hnow
  | cons call rest ih =>
    obtain ⟨hremembers, hrest⟩ := hkeeps
    have hlaterRest : ∀ other ∈ rest, other.key = key → other.nowMs ≤ later :=
      fun other hother ↦ hlater other (List.mem_cons_of_mem _ hother)
    have htail := honKey.tail
    show WindowOf limit windowMs (((limiter.step call).after rest).timestamps key) _ later
    by_cases hkey : call.key = key
    · rw [if_pos hkey] at htail
      have hcheck := honKey.check call List.mem_cons_self hkey
      have hslide := hwindow.slide (honKey.future call List.mem_cons_self hkey)
      rw [← timestamps_of_key hkey hcheck hremembers, ← decides_of_key hkey hcheck] at hslide
      have hnext := ih hslide htail hrest (hlater call List.mem_cons_self hkey) hlaterRest
      rw [List.append_assoc] at hnext
      unfold admitted
      by_cases hallowed : (limiter.decides call).isAllowed = true
      · simpa [hkey, hallowed] using hnext
      · simpa [hkey, hallowed] using hnext
    · rw [if_neg hkey] at htail
      have hsame := timestamps_step hremembers
      rw [if_neg hkey] at hsame
      unfold admitted
      rw [if_neg fun h ↦ hkey h.1]
      exact ih (hsame ▸ hwindow) htail hrest hnow hlaterRest

/-- Calls of other keys leave the window of a key. -/
theorem timestamps_after (hother : ∀ call ∈ calls, call.key ≠ key) (hkeeps : limiter.Keeps key calls) :
    (limiter.after calls).timestamps key = limiter.timestamps key := by
  induction calls generalizing limiter with
  | nil => rfl
  | cons call rest ih =>
    obtain ⟨hremembers, hrest⟩ := hkeeps
    have hsame := timestamps_step hremembers
    rw [if_neg (hother call List.mem_cons_self)] at hsame
    show ((limiter.step call).after rest).timestamps key = _
    rw [ih (fun other hmem ↦ hother other (List.mem_cons_of_mem _ hmem)) hrest, hsame]

/-- Two limiters whose windows of a key agree from an instant on decide the later calls of the key
alike. -/
theorem decisions_congr {other : InProcessRateLimiter}
    (hlive : ∀ later, nowMs ≤ later →
      live windowMs (limiter.timestamps key) later = live windowMs (other.timestamps key) later)
    (honKey : OnKey key limit windowMs nowMs calls) (hkeeps : limiter.Keeps key calls)
    (hother : other.Keeps key calls) : limiter.decisions key calls = other.decisions key calls := by
  induction calls generalizing limiter other nowMs with
  | nil => rfl
  | cons call rest ih =>
    obtain ⟨hremembers, hrest⟩ := hkeeps
    obtain ⟨hotherRemembers, hotherRest⟩ := hother
    have htail := honKey.tail
    unfold decisions
    by_cases hkey : call.key = key
    · rw [if_pos hkey] at htail ⊢
      rw [if_pos hkey]
      have hcheck := honKey.check call List.mem_cons_self hkey
      have hsame := hlive call.nowMs (honKey.future call List.mem_cons_self hkey)
      have hslide : slideWindow (limiter.timestamps key) call.nowMs limit windowMs =
          slideWindow (other.timestamps key) call.nowMs limit windowMs := by
        unfold live at hsame
        unfold slideWindow
        dsimp only
        rw [hsame]
      rw [decides_of_key hkey hcheck, decides_of_key hkey hcheck, hslide]
      refine congrArg _ (ih (fun later _ ↦ ?_) htail hrest hotherRest)
      rw [timestamps_of_key hkey hcheck hremembers, timestamps_of_key hkey hcheck hotherRemembers, hslide]
    · rw [if_neg hkey] at htail ⊢
      rw [if_neg hkey]
      refine ih (fun later hlater ↦ ?_) htail hrest hotherRest
      rw [timestamps_step hremembers, timestamps_step hotherRemembers, if_neg hkey, if_neg hkey]
      exact hlive later hlater

end Runs

/-! ### The law -/

/-- What holds of the calls of a key. -/
structure Slides (key : String) (limit windowMs : ℕ) (limiter : InProcessRateLimiter)
    (calls : List LimiterCall) : Prop where
  bounded : ∀ start, (within windowMs (limiter.admitted key calls) start).length ≤ limit
  /-- A refused call finds its window full. -/
  refused : ∀ before call rest retryAfterMs, calls = before ++ call :: rest → call.key = key →
    (limiter.after before).decides call = .refused retryAfterMs →
      (live windowMs (limiter.admitted key before) call.nowMs).length = limit
  /-- Without a refused call the later ones are decided as with it, if the key is still not evicted. -/
  harmless : ∀ before call rest retryAfterMs, calls = before ++ call :: rest → call.key = key →
    (limiter.after before).decides call = .refused retryAfterMs → (limiter.after before).Keeps key rest →
      (limiter.after before).decisions key rest = ((limiter.after before).step call).decisions key rest
  retry : ∀ before call between next rest retryAfterMs,
    calls = before ++ call :: (between ++ next :: rest) → call.key = key → next.key = key →
      (∀ other ∈ between, other.key ≠ key) →
        (limiter.after before).decides call = .refused retryAfterMs →
          (((((limiter.after before).step call).after between).decides next).isAllowed = true ↔
            (call.nowMs + retryAfterMs : ℤ) ≤ next.nowMs)

section Law

variable {key : String} {limit windowMs : ℕ} {maxSubjects : Option ℕ} {calls : List LimiterCall}

/-- The window of a key before one of its calls. -/
theorem windowOf_before (honKey : OnKey key limit windowMs 0 calls) (hkeeps : (new maxSubjects).Keeps key calls)
    {before rest : List LimiterCall} {call : LimiterCall} (hcalls : calls = before ++ call :: rest)
    (hkey : call.key = key) :
    WindowOf limit windowMs (((new maxSubjects).after before).timestamps key)
      ((new maxSubjects).admitted key before) call.nowMs := by
  subst hcalls
  obtain ⟨-, -, hbefore⟩ := List.pairwise_append.mp honKey.ordered
  have hwindow := windowOf_after (windowOf_nil limit windowMs 0) honKey.append.1
    (keeps_append.mp hkeeps).1 (Nat.zero_le call.nowMs)
    fun other hother hotherKey ↦ hbefore other hother call List.mem_cons_self hotherKey hkey
  rwa [List.nil_append] at hwindow

/-- The key is called in any run that does not evict it, between calls of other keys. -/
theorem in_process_slides (hlimit : 1 ≤ limit)
    (hcheck : ∀ call ∈ calls, call.key = key → call.check.limit = limit ∧ call.check.windowMs = windowMs)
    (hordered : calls.Pairwise fun first second ↦ first.key = key → second.key = key →
      first.nowMs ≤ second.nowMs)
    (hkeeps : (new maxSubjects).Keeps key calls) :
    Slides key limit windowMs (new maxSubjects) calls := by
  have honKey : OnKey key limit windowMs 0 calls := ⟨hcheck, fun _ _ _ ↦ Nat.zero_le _, hordered⟩
  refine ⟨fun start ↦ ?_, fun before call rest retryAfterMs hcalls hkey hrefused ↦ ?_,
    fun before call rest retryAfterMs hcalls hkey hrefused hwithout ↦ ?_,
    fun before call between next rest retryAfterMs hcalls hkey hnextKey hother hrefused ↦ ?_⟩
  · obtain ⟨later, hlater⟩ := exists_last calls
    have hwindow := windowOf_after (windowOf_nil limit windowMs 0) honKey hkeeps (Nat.zero_le later)
      fun call hcall _ ↦ hlater call hcall
    rw [List.nil_append] at hwindow
    exact hwindow.bounded start
  · have hcall : call ∈ calls := hcalls ▸ List.mem_append_right _ List.mem_cons_self
    have hwindow := windowOf_before honKey hkeeps hcalls hkey
    rw [decides_of_key hkey (hcheck call hcall hkey)] at hrefused
    exact hwindow.full (by simp [hrefused, RateLimitDecision.isAllowed])
  · have hcall : call ∈ calls := hcalls ▸ List.mem_append_right _ List.mem_cons_self
    subst hcalls
    obtain ⟨hremembers, hrest⟩ := (keeps_append.mp hkeeps).2
    have htail := honKey.append.2.tail
    rw [if_pos hkey] at htail
    refine decisions_congr (fun later hlater ↦ ?_) htail hwithout hrest
    rw [decides_of_key hkey (hcheck call hcall hkey)] at hrefused
    rw [timestamps_of_key hkey (hcheck call hcall hkey) hremembers, slideWindow_kept,
      if_neg (by simp [hrefused, RateLimitDecision.isAllowed]), live_live hlater]
  · have hcall : call ∈ calls := hcalls ▸ List.mem_append_right _ List.mem_cons_self
    have hnext : next ∈ calls := hcalls ▸ List.mem_append_right _
      (List.mem_cons_of_mem _ (List.mem_append_right _ List.mem_cons_self))
    have hwindow := windowOf_before honKey hkeeps hcalls hkey
    subst hcalls
    obtain ⟨hremembers, hrest⟩ := (keeps_append.mp hkeeps).2
    have hbetween := (keeps_append.mp hrest).1
    have hlater : call.nowMs ≤ next.nowMs := by
      obtain ⟨-, hafter, -⟩ := List.pairwise_append.mp hordered
      exact (List.pairwise_cons.mp hafter).1 next (List.mem_append_right _ List.mem_cons_self) hkey hnextKey
    rw [decides_of_key hkey (hcheck call hcall hkey)] at hrefused
    rw [decides_of_key hnextKey (hcheck next hnext hnextKey), timestamps_after hother hbetween,
      timestamps_of_key hkey (hcheck call hcall hkey) hremembers]
    exact hwindow.retry hlimit hrefused hlater

end Law

/-! ### The keys that are kept -/

section Keys

variable {limiter : InProcessRateLimiter} {call : LimiterCall} {key : String}

/-- The keys of the map, in its order. -/
def keys (limiter : InProcessRateLimiter) : List String := limiter.entries.map (·.1)

theorem keys_reinsert (entry : Entry) :
    (limiter.reinsert key entry).keys = limiter.keys.erase key ++ [key] := by
  rw [keys, keys, limiter.keys_nodup.erase_eq_filter, List.filter_map]
  show List.map _ (_ ++ [_]) = _
  rw [List.map_append]
  refine congrArg (· ++ [key]) (congrArg _ (List.filter_congr fun entry _ ↦ ?_))
  simp [bne, Bool.beq_eq_decide_eq]

theorem keys_evictIfNeeded : limiter.evictIfNeeded.keys = limiter.keys.rtake limiter.maxSubjects := by
  rw [List.rtake, keys, keys, List.length_map]
  exact List.map_drop ..

/-- A call puts its key last, and the first keys make room. -/
theorem keys_step :
    (limiter.step call).keys =
      (limiter.keys.erase call.key ++ [call.key]).rtake limiter.maxSubjects := by
  show (evictIfNeeded (limiter.reinsert call.key _)).keys = _
  rw [keys_evictIfNeeded, keys_reinsert]
  rfl

theorem maxSubjects_after (calls : List LimiterCall) :
    (limiter.after calls).maxSubjects = limiter.maxSubjects := by
  induction calls generalizing limiter with
  | nil => rfl
  | cons call rest ih => exact ih

theorem after_concat (calls : List LimiterCall) :
    limiter.after (calls ++ [call]) = (limiter.after calls).step call := List.foldl_concat ..

/-- The keys after a run are those that were called last, in the order of their last calls. -/
theorem keys_after (maxSubjects : Option ℕ) (calls : List LimiterCall) :
    ((new maxSubjects).after calls).keys =
      recent (maxSubjects.getD DEFAULT_MAX_SUBJECTS) (calls.map LimiterCall.key) := by
  induction calls using List.reverseRecOn with
  | nil => exact (List.rtake_nil _).symm
  | append_singleton calls call ih =>
    rw [after_concat, keys_step, maxSubjects_after, ih, List.map_append, List.map_singleton,
      recent_concat]
    rfl

end Keys

/-! ### Three calls in a minute -/

namespace Minute

def call (nowMs : ℕ) (subjectKey : String) : LimiterCall :=
  ⟨⟨"login_account", 3, 60000, subjectKey⟩, nowMs⟩

/-- The fourth call of the subject is refused for 57 seconds. -/
def calls : List LimiterCall :=
  [call 0 "subject", call 1000 "subject", call 1500 "other", call 2000 "subject", call 3000 "subject",
    call 59999 "subject", call 60000 "subject"]

theorem in_process_slides_minute :
    Slides "login_account:subject" 3 60000 (new (some 2)) calls :=
  in_process_slides (by decide) (by decide) (by decide) (by decide)

end Minute

end InProcessRateLimiter

end Karar.Platform
