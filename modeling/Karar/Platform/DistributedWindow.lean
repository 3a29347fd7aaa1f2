import Karar.Platform.RateLimit

/-!
# The distributed window and the sequential one

The set of the store stands for the log of `slideWindow` when, at every instant to come, the entries
that the script will find in the window are those that the live calls of the log make when they are
added one after another (`Tracks`). A call keeps the two together (`Tracks.script`). The script counts
the names and `slideWindow` the calls, so the two decide a call alike exactly when the calls in its
window have different names (`decision_eq_iff`); a whole run takes the same decisions exactly when
this holds at each of its calls (`scriptDecisions_eq_iff`), and the calls of one key among those of a
cluster are such a run (`decisionsOn_eq`).
-/

namespace Karar.Platform

open Karar.Foundation

/-! ### The log of the sequential algorithm -/

section Sequential

variable {limit windowMs : ℕ}

/-- The instants that `slideWindow` keeps are those of the log. -/
theorem slideWindow_log (log : List NamedCall) (call : NamedCall) :
    (slideWindow (log.map NamedCall.nowMs) call.nowMs limit windowMs).2 =
      (admitCall limit windowMs log call).map NamedCall.nowMs := by
  have hlive : ((log.map NamedCall.nowMs).filter
      fun (t : ℕ) ↦ (call.nowMs - windowMs : ℤ) < (t : ℤ)) =
        (liveCalls windowMs log call.nowMs).map NamedCall.nowMs := by
    rw [List.filter_map]
    rfl
  simp only [slideWindow, hlive, List.length_map, admitCall]
  split_ifs
  · rw [List.map_append]
    rfl
  · rfl

theorem admitCall_length {log : List NamedCall} (hlog : log.length ≤ limit) (call : NamedCall) :
    (admitCall limit windowMs log call).length ≤ limit := by
  have hlive : (liveCalls windowMs log call.nowMs).length ≤ log.length := List.length_filter_le _ _
  rw [admitCall]
  split_ifs with hroom
  · rw [List.length_append, List.length_singleton]
    omega
  · omega

/-- The admitted calls of a run whose instants lie in the window that opens at `start`. -/
def admittedWithin {Failure : Type} (windowMs start : ℕ) (instants : List ℕ)
    (decisions : List (Except Failure RateLimitDecision)) : ℕ :=
  (instants.zip decisions).countP fun (nowMs, decision) ↦
    decide (start ≤ nowMs) && decide (nowMs < start + windowMs) &&
      (match decision with
        | .ok decision => decision.isAllowed
        | .error _ => false)

/-- A run whose calls all come after a window admits none in the window. -/
theorem admittedWithin_of_late {Failure : Type} {start : ℕ} {instants : List ℕ}
    (hlate : ∀ nowMs ∈ instants, start + windowMs ≤ nowMs)
    (decisions : List (Except Failure RateLimitDecision)) :
    admittedWithin windowMs start instants decisions = 0 := by
  rw [admittedWithin, List.countP_eq_zero]
  rintro ⟨nowMs, decision⟩ hmem
  have hnow := hlate nowMs (List.of_mem_zip hmem).1
  have hout : ¬ nowMs < start + windowMs := by omega
  simp [hout]

/-- From the instants kept so far on, no window holds more admitted calls than the limit. -/
theorem slideDecisions_bounded {Failure : Type} {timestamps instants : List ℕ}
    (hsorted : instants.Pairwise (· ≤ ·)) (hkept : timestamps.length ≤ limit) (start : ℕ) :
    (timestamps.filter fun t ↦ start ≤ t).length +
      admittedWithin windowMs start instants
        ((slideDecisions limit windowMs timestamps instants).map
          (Except.ok : RateLimitDecision → Except Failure RateLimitDecision)) ≤ limit := by
  induction instants generalizing timestamps with
  | nil =>
    have := List.length_filter_le (fun t ↦ decide (start ≤ t)) timestamps
    simp only [admittedWithin, List.zip_nil_left, List.countP_nil]
    omega
  | cons nowMs rest ih =>
    have hrest := (List.pairwise_cons.mp hsorted).2
    have hlater := (List.pairwise_cons.mp hsorted).1
    by_cases hopen : nowMs < start + windowMs
    · -- What the call prunes lies before the window that opens at `start`.
      have hstart : (timestamps.filter fun t ↦ start ≤ t) =
          ((timestamps.filter fun (t : ℕ) ↦ (nowMs - windowMs : ℤ) < (t : ℤ)).filter
            fun t ↦ start ≤ t) := by
        rw [List.filter_filter]
        apply List.filter_congr
        intro t _
        by_cases ht : start ≤ t
        · have hlive : (nowMs - windowMs : ℤ) < (t : ℤ) := by omega
          simp [ht, hlive]
        · simp [ht]
      have hlength : (timestamps.filter fun (t : ℕ) ↦ (nowMs - windowMs : ℤ) < (t : ℤ)).length ≤
          timestamps.length := List.length_filter_le _ _
      rw [slideDecisions, slideWindow, hstart]
      split_ifs with hroom
      · have hkeptNow : ((timestamps.filter
            fun (t : ℕ) ↦ (nowMs - windowMs : ℤ) < (t : ℤ)) ++ [nowMs]).length ≤ limit := by
          rw [List.length_append, List.length_singleton]
          omega
        have hnext := ih hrest hkeptNow
        rw [List.filter_append, List.length_append] at hnext
        simp only [admittedWithin, List.map_cons, List.zip_cons_cons, List.countP_cons] at hnext ⊢
        by_cases hbefore : start ≤ nowMs
        · simp only [hbefore, hopen, List.filter_cons, List.filter_nil, decide_true, if_true,
            List.length_singleton, RateLimitDecision.isAllowed, Bool.and_self] at hnext ⊢
          omega
        · simp only [hbefore, List.filter_cons, List.filter_nil, decide_false, Bool.false_and,
            Bool.false_eq_true, if_false, List.length_nil] at hnext ⊢
          omega
      · have hkeptNow : (timestamps.filter
            fun (t : ℕ) ↦ (nowMs - windowMs : ℤ) < (t : ℤ)).length ≤ limit := by omega
        have hnext := ih hrest hkeptNow
        simp only [admittedWithin, List.map_cons, List.zip_cons_cons, List.countP_cons,
          RateLimitDecision.isAllowed, Bool.and_false, Bool.false_eq_true, if_false] at hnext ⊢
        omega
    · have hlate : ∀ instant ∈ nowMs :: rest, start + windowMs ≤ instant := by
        intro instant hinstant
        rcases List.mem_cons.mp hinstant with rfl | hinstant
        · omega
        · have := hlater instant hinstant
          omega
      have := List.length_filter_le (fun t ↦ decide (start ≤ t)) timestamps
      rw [admittedWithin_of_late hlate]
      omega

end Sequential

/-! ### The set that stands for the log -/

/-- A call as a member of the sorted set. -/
def NamedCall.entry (call : NamedCall) : Scored String := ⟨call.member, call.nowMs⟩

section Tracking

variable {limit windowMs : ℕ}

/-- The entries of a log that the window of an instant holds are those of its live calls. -/
theorem entries_liveCalls (log : List NamedCall) (nowMs : ℕ) :
    (liveCalls windowMs log nowMs).map NamedCall.entry =
      (log.map NamedCall.entry).filter fun entry ↦ (nowMs - windowMs : ℤ) < entry.score := by
  rw [List.filter_map]
  rfl

/-- The key holds the log: at every instant from `nowMs` on, the entries that are in the window are
those that the live calls of the log make. The calls of the log were made in the order of the log, and
not after `nowMs`. -/
structure Tracks (windowMs : ℕ) (log : List NamedCall) (key : WindowKey) (nowMs : ℕ) : Prop where
  ordered : log.Pairwise fun first second ↦ first.nowMs ≤ second.nowMs
  past : ∀ call ∈ log, call.nowMs ≤ nowMs
  natural : ∀ entry ∈ key.set.entries, 0 ≤ entry.score
  holds : ∀ later, nowMs ≤ later →
    ((key.at later).set.entries.filter fun entry ↦ (later - windowMs : ℤ) < entry.score) =
      ofLog ((liveCalls windowMs log later).map NamedCall.entry)

/-- A missing key holds the empty log. -/
theorem tracks_missing (windowMs nowMs : ℕ) : Tracks windowMs [] .missing nowMs where
  ordered := List.Pairwise.nil
  past := by simp
  natural := by simp [WindowKey.missing, SortedSet.empty]
  holds := fun _ _ ↦ rfl

/-- A key holds its entries until it expires, and nothing then. -/
theorem at_entries (key : WindowKey) (now : ℕ) :
    (key.at now).set.entries = key.set.entries ∨ (key.at now).set.entries = [] := by
  unfold WindowKey.at
  split
  · exact Or.inl rfl
  · split_ifs
    · exact Or.inr rfl
    · exact Or.inl rfl

theorem at_natural {key : WindowKey} (hnatural : ∀ entry ∈ key.set.entries, 0 ≤ entry.score)
    (now : ℕ) : ∀ entry ∈ (key.at now).set.entries, 0 ≤ entry.score := by
  intro entry hentry
  rcases at_entries key now with hkept | hgone
  · rw [hkept] at hentry
    exact hnatural entry hentry
  · simp [hgone] at hentry

/-- What the script prunes is what lies before the window. -/
theorem removeBetween_entries {set : SortedSet String}
    (hnatural : ∀ entry ∈ set.entries, 0 ≤ entry.score) (floor : ℤ) :
    (set.removeBetween 0 floor).entries = set.entries.filter fun entry ↦ floor < entry.score := by
  apply List.filter_congr
  intro entry hentry
  have hscore := hnatural entry hentry
  by_cases hlive : floor < entry.score
  · have hnot : ¬ entry.score ≤ floor := by omega
    simp [hlive, hnot]
  · have hle : entry.score ≤ floor := by omega
    simp [hlive, hle, hscore]

namespace Tracks

variable {log : List NamedCall} {key : WindowKey} {nowMs : ℕ}

/-- The entries that the script counts at a call are those of the live calls of the log. -/
theorem pruned (htracks : Tracks windowMs log key nowMs) {later : ℕ} (hlater : nowMs ≤ later) :
    ((key.at later).set.removeBetween 0 (later - windowMs)).entries =
      ofLog ((liveCalls windowMs log later).map NamedCall.entry) := by
  rw [removeBetween_entries (at_natural htracks.natural later), htracks.holds later hlater]

/-- The names in the set are those of the live calls. -/
theorem card_pruned (htracks : Tracks windowMs log key nowMs) {call : NamedCall}
    (hcall : nowMs ≤ call.nowMs) (hnames : NamesDiffer windowMs log call) :
    ((key.at call.nowMs).set.removeBetween 0 (call.nowMs - windowMs)).entries =
      (liveCalls windowMs log call.nowMs).map NamedCall.entry := by
  rw [htracks.pruned hcall]
  apply ofLog_eq_self
  rw [List.map_map]
  exact hnames

/-- When a name repeats, the set holds fewer names than there are live calls. -/
theorem card_pruned_lt (htracks : Tracks windowMs log key nowMs) {call : NamedCall}
    (hcall : nowMs ≤ call.nowMs) (hnames : ¬ NamesDiffer windowMs log call) :
    ((key.at call.nowMs).set.removeBetween 0 (call.nowMs - windowMs)).card <
      (liveCalls windowMs log call.nowMs).length := by
  rw [SortedSet.card, htracks.pruned hcall, ← List.length_map NamedCall.entry]
  apply length_ofLog_lt
  rw [List.map_map]
  exact hnames

end Tracks

/-- The script decides a call as `slideWindow` does if and only if the calls in its window have
different names. Assumes: the log holds no more calls than the limit. -/
theorem decision_eq_iff {log : List NamedCall} {key : WindowKey} {nowMs : ℕ}
    (htracks : Tracks windowMs log key nowMs) (hlog : log.length ≤ limit) {call : NamedCall}
    (hcall : nowMs ≤ call.nowMs) :
    RedisSlidingWindowRateLimiter.decision (.numbers
        (slidingWindowScript key call.nowMs windowMs limit call.member).2) =
      .ok (slideWindow (log.map NamedCall.nowMs) call.nowMs limit windowMs).1 ↔
    NamesDiffer windowMs log call := by
  have hlive : ((log.map NamedCall.nowMs).filter
      fun (t : ℕ) ↦ (call.nowMs - windowMs : ℤ) < (t : ℤ)) =
        (liveCalls windowMs log call.nowMs).map NamedCall.nowMs := by
    rw [List.filter_map]
    rfl
  have hroom : (liveCalls windowMs log call.nowMs).length ≤ limit :=
    (List.length_filter_le _ _).trans hlog
  simp only [slidingWindowScript, slideWindow, hlive, List.length_map]
  constructor
  · intro hagree
    by_contra hnames
    have hfewer := htracks.card_pruned_lt hcall hnames
    rw [if_pos (by omega)] at hagree
    split_ifs at hagree with hlimit
    · simp only [RedisSlidingWindowRateLimiter.decision, if_true, Except.ok.injEq,
        RateLimitDecision.allowed.injEq] at hagree
      omega
    · simp [RedisSlidingWindowRateLimiter.decision] at hagree
  · intro hnames
    have hpruned := htracks.card_pruned hcall hnames
    have hcard : ((key.at call.nowMs).set.removeBetween 0 (call.nowMs - windowMs)).card =
        (liveCalls windowMs log call.nowMs).length := by
      rw [SortedSet.card, hpruned, List.length_map]
    rw [hcard]
    split_ifs with hlimit
    · simp only [RedisSlidingWindowRateLimiter.decision, if_true, Except.ok.injEq,
        RateLimitDecision.allowed.injEq]
      omega
    · rw [SortedSet.first?, hpruned]
      cases liveCalls windowMs log call.nowMs with
      | nil =>
        have hretry : max 0 ((call.nowMs : ℤ) + windowMs - call.nowMs) = windowMs := by omega
        simp [RedisSlidingWindowRateLimiter.decision, hretry]
      | cons oldest rest => simp [RedisSlidingWindowRateLimiter.decision, NamedCall.entry]

/-! ### What a call does to the set -/

/-- The live calls at an instant, seen at a later one, are the live calls then. -/
theorem liveCalls_liveCalls (log : List NamedCall) {nowMs later : ℕ} (hlater : nowMs ≤ later) :
    liveCalls windowMs (liveCalls windowMs log nowMs) later = liveCalls windowMs log later := by
  rw [liveCalls, liveCalls, liveCalls, List.filter_filter]
  apply List.filter_congr
  intro call _
  by_cases hlive : (later - windowMs : ℤ) < (call.nowMs : ℤ)
  · have hbefore : (nowMs - windowMs : ℤ) < (call.nowMs : ℤ) := by omega
    simp [hlive, hbefore]
  · simp [hlive]

theorem admitCall_ordered (limit windowMs : ℕ) {log : List NamedCall} {call : NamedCall}
    (hordered : log.Pairwise fun first second ↦ first.nowMs ≤ second.nowMs)
    (hpast : ∀ earlier ∈ log, earlier.nowMs ≤ call.nowMs) :
    (admitCall limit windowMs log call).Pairwise fun first second ↦ first.nowMs ≤ second.nowMs := by
  have hlive := hordered.sublist (List.filter_sublist (l := log)
    (p := fun earlier ↦ (call.nowMs - windowMs : ℤ) < (earlier.nowMs : ℤ)))
  rw [admitCall]
  split_ifs
  · rw [List.pairwise_append]
    refine ⟨hlive, List.pairwise_singleton _ _, ?_⟩
    intro earlier hearlier last hlast
    rw [List.mem_singleton.mp hlast]
    exact hpast earlier (List.mem_of_mem_filter hearlier)
  · exact hlive

theorem admitCall_past (limit windowMs : ℕ) {log : List NamedCall} {call : NamedCall}
    (hpast : ∀ earlier ∈ log, earlier.nowMs ≤ call.nowMs) :
    ∀ earlier ∈ admitCall limit windowMs log call, earlier.nowMs ≤ call.nowMs := by
  intro earlier hearlier
  rw [admitCall] at hearlier
  split_ifs at hearlier
  · rcases List.mem_append.mp hearlier with hkept | hlast
    · exact hpast earlier (List.mem_of_mem_filter hkept)
    · rw [List.mem_singleton.mp hlast]
  · exact hpast earlier (List.mem_of_mem_filter hearlier)

/-- A pruned key holds, in the windows of later instants, what the key holds. -/
theorem at_pruned {key : WindowKey} (hnatural : ∀ entry ∈ key.set.entries, 0 ≤ entry.score)
    {now later : ℕ} (hlater : now ≤ later) :
    ((WindowKey.at ⟨(key.at now).set.removeBetween 0 (now - windowMs), (key.at now).expiresAt⟩
        later).set.entries.filter fun entry ↦ (later - windowMs : ℤ) < entry.score) =
      ((key.at later).set.entries.filter fun entry ↦ (later - windowMs : ℤ) < entry.score) := by
  have hprune : ((key.set.removeBetween 0 (now - windowMs)).entries.filter
      fun entry ↦ (later - windowMs : ℤ) < entry.score) =
        key.set.entries.filter fun entry ↦ (later - windowMs : ℤ) < entry.score := by
    rw [removeBetween_entries hnatural, List.filter_filter]
    apply List.filter_congr
    intro entry _
    by_cases hlive : (later - windowMs : ℤ) < entry.score
    · have hbefore : (now - windowMs : ℤ) < entry.score := by omega
      simp [hlive, hbefore]
    · simp [hlive]
  cases hexpiry : key.expiresAt with
  | none =>
    simp only [WindowKey.at, hexpiry]
    exact hprune
  | some instant =>
    by_cases hnow : instant < now
    · have hgone : instant < later := by omega
      simp only [WindowKey.at, hexpiry, if_pos hnow, if_pos hgone]
      rfl
    · by_cases hgone : instant < later
      · simp only [WindowKey.at, hexpiry, if_neg hnow, if_pos hgone]
      · simp only [WindowKey.at, hexpiry, if_neg hnow, if_neg hgone]
        exact hprune

/-- A refused call leaves the live calls and the pruned key. -/
theorem Tracks.refused {log : List NamedCall} {key : WindowKey} {nowMs : ℕ}
    (htracks : Tracks windowMs log key nowMs) {now : ℕ} (hnow : nowMs ≤ now) :
    Tracks windowMs (liveCalls windowMs log now)
      ⟨(key.at now).set.removeBetween 0 (now - windowMs), (key.at now).expiresAt⟩ now where
  ordered := htracks.ordered.sublist List.filter_sublist
  past := fun call hcall ↦ (htracks.past call (List.mem_of_mem_filter hcall)).trans hnow
  natural := fun entry hentry ↦
    at_natural htracks.natural now entry (List.mem_of_mem_filter hentry)
  holds := by
    intro later hlater
    rw [at_pruned htracks.natural hlater, liveCalls_liveCalls log hlater]
    exact htracks.holds later (hnow.trans hlater)

/-- The set after an admitted call is the one that the live calls and the call make. -/
theorem add_entries {live : List NamedCall} {set : SortedSet String} {call : NamedCall}
    (hset : set.entries = live.map NamedCall.entry)
    (hnames : (live.map NamedCall.member).Nodup)
    (hpast : ∀ earlier ∈ live, earlier.nowMs ≤ call.nowMs) :
    (set.add call.member call.nowMs).entries = ofLog ((live ++ [call]).map NamedCall.entry) := by
  have hle : ∀ entry ∈ set.entries, entry.score ≤ (call.nowMs : ℤ) := by
    intro entry hentry
    rw [hset] at hentry
    obtain ⟨earlier, hearlier, rfl⟩ := List.mem_map.mp hentry
    exact Int.ofNat_le.mpr (hpast earlier hearlier)
  have hwhole : ofLog (live.map NamedCall.entry) = live.map NamedCall.entry := by
    apply ofLog_eq_self
    rw [List.map_map]
    exact hnames
  rw [SortedSet.add_entries_of_le hle, hset, List.map_append, List.map_cons, List.map_nil,
    ofLog_append_singleton, hwhole]
  rfl

/-- No call made up to an instant is live a window later. -/
theorem liveCalls_eq_nil {log : List NamedCall} {now later : ℕ}
    (hpast : ∀ call ∈ log, call.nowMs ≤ now) (hlater : now + windowMs ≤ later) :
    liveCalls windowMs log later = [] := by
  apply List.filter_eq_nil_iff.mpr
  intro call hcall
  have := hpast call hcall
  simp only [decide_eq_true_eq]
  omega

/-- An admitted call joins the live calls and the set. Assumes: the set holds the live calls, under
different names. -/
theorem tracks_admitted {live : List NamedCall} {set : SortedSet String} {call : NamedCall}
    {expiresAt : Option ℕ} (hset : set.entries = live.map NamedCall.entry)
    (hnames : (live.map NamedCall.member).Nodup)
    (hordered : (live ++ [call]).Pairwise fun first second ↦ first.nowMs ≤ second.nowMs)
    (hpast : ∀ earlier ∈ live ++ [call], earlier.nowMs ≤ call.nowMs) :
    Tracks windowMs (live ++ [call])
      (WindowKey.pexpire ⟨set.add call.member call.nowMs, expiresAt⟩ call.nowMs windowMs)
      call.nowMs := by
  have hadded := add_entries hset hnames fun earlier hearlier ↦
    hpast earlier (List.mem_append_left _ hearlier)
  have hentries : ((live ++ [call]).map NamedCall.entry).Pairwise
      fun first second ↦ first.score ≤ second.score := by
    rw [List.pairwise_map]
    exact hordered.imp fun hle ↦ Int.ofNat_le.mpr hle
  refine ⟨hordered, hpast, ?_, ?_⟩
  · intro entry hentry
    unfold WindowKey.pexpire at hentry
    split_ifs at hentry
    · simp [WindowKey.missing, SortedSet.empty] at hentry
    · rw [hadded] at hentry
      obtain ⟨earlier, -, rfl⟩ := List.mem_map.mp (mem_of_mem_ofLog hentry)
      exact Int.natCast_nonneg _
  · intro later hlater
    by_cases hwindow : windowMs = 0
    · rw [liveCalls_eq_nil hpast (by omega)]
      simp only [WindowKey.pexpire, if_pos hwindow]
      rfl
    · simp only [WindowKey.pexpire, if_neg hwindow, WindowKey.at]
      by_cases hgone : call.nowMs + windowMs < later
      · rw [if_pos hgone, liveCalls_eq_nil hpast (by omega)]
        rfl
      · rw [if_neg hgone, hadded, ofLog_filter hentries, ← entries_liveCalls]

/-- A call that finds different names in its window keeps the key and the log together. -/
theorem Tracks.script {log : List NamedCall} {key : WindowKey} {nowMs : ℕ}
    (htracks : Tracks windowMs log key nowMs) {call : NamedCall} (hcall : nowMs ≤ call.nowMs)
    (hnames : NamesDiffer windowMs log call) :
    Tracks windowMs (admitCall limit windowMs log call)
      (slidingWindowScript key call.nowMs windowMs limit call.member).1 call.nowMs := by
  have hpast : ∀ earlier ∈ log, earlier.nowMs ≤ call.nowMs :=
    fun earlier hearlier ↦ (htracks.past earlier hearlier).trans hcall
  have hordered := admitCall_ordered limit windowMs htracks.ordered hpast
  have hadmitted := admitCall_past limit windowMs hpast
  have hpruned := htracks.card_pruned hcall hnames
  have hcard : ((key.at call.nowMs).set.removeBetween 0 (call.nowMs - windowMs)).card =
      (liveCalls windowMs log call.nowMs).length := by
    rw [SortedSet.card, hpruned, List.length_map]
  simp only [slidingWindowScript, hcard]
  unfold admitCall at hordered hadmitted ⊢
  split_ifs at hordered hadmitted ⊢ with hroom
  · exact tracks_admitted hpruned hnames hordered hadmitted
  · exact htracks.refused hcall

/-- The script takes the decisions of `slideWindow` along a run if and only if, at each of its calls,
the calls in the window have different names. Assumes: the calls are in the order of the clock. -/
theorem scriptDecisions_eq_iff {calls : List NamedCall} {log : List NamedCall} {key : WindowKey}
    {nowMs : ℕ} (htracks : Tracks windowMs log key nowMs) (hlog : log.length ≤ limit)
    (hclock : (nowMs :: calls.map NamedCall.nowMs).Pairwise (· ≤ ·)) :
    scriptDecisions limit windowMs key calls =
      (slideDecisions limit windowMs (log.map NamedCall.nowMs) (calls.map NamedCall.nowMs)).map
        .ok ↔
    EveryStep (admitCall limit windowMs) (NamesDiffer windowMs) log calls := by
  induction calls generalizing log key nowMs with
  | nil => simp [scriptDecisions, slideDecisions, EveryStep]
  | cons call rest ih =>
    rw [List.map_cons, List.pairwise_cons] at hclock
    have hcall : nowMs ≤ call.nowMs := hclock.1 call.nowMs List.mem_cons_self
    rw [scriptDecisions, List.map_cons, slideDecisions, List.map_cons, List.cons.injEq,
      decision_eq_iff htracks hlog hcall, EveryStep]
    refine and_congr_right fun hnames ↦ ?_
    rw [slideWindow_log]
    exact ih (htracks.script hcall hnames) (admitCall_length hlog call) hclock.2

end Tracking

/-! ### The calls of a cluster -/

section Cluster

variable {key : String} {limit windowMs : ℕ}

/-- A call under another key leaves the key alone. -/
theorem enforce_keys_of_ne {cluster : Cluster} {call : EnforceCall} (hcall : call.key ≠ key) :
    (cluster.enforce call).keys key = cluster.keys key :=
  Function.update_of_ne hcall.symm _ _

/-- The decisions on the calls under one key are those of the script on these calls, as their
instances name them. Assumes: they are made under one limit and window. -/
theorem decisionsOn_eq {cluster : Cluster} {calls : List EnforceCall}
    (hpolicy : ∀ call ∈ calls, call.key = key →
      call.check.limit = limit ∧ call.check.windowMs = windowMs) :
    cluster.decisionsOn key calls =
      scriptDecisions limit windowMs (cluster.keys key) (presented key cluster.limiters calls) := by
  induction calls generalizing cluster with
  | nil => rfl
  | cons call rest ih =>
    have hrest : (cluster.enforce call).decisionsOn key rest =
        scriptDecisions limit windowMs ((cluster.enforce call).keys key)
          (presented key (cluster.enforce call).limiters rest) :=
      ih fun later hlater ↦ hpolicy later (List.mem_cons_of_mem _ hlater)
    rw [Cluster.decisionsOn, presented]
    by_cases hkey : call.key = key
    · obtain ⟨hlimit, hwindow⟩ := hpolicy call List.mem_cons_self hkey
      subst hlimit hwindow hkey
      rw [if_pos rfl, if_pos rfl, scriptDecisions]
      have hafter : (cluster.enforce call).keys call.key =
          (slidingWindowScript (cluster.keys call.key) call.nowMs call.check.windowMs
            call.check.limit ((cluster.limiters call.caller).advance.member call.nowMs)).1 :=
        Function.update_self _ _ _
      rw [hrest, hafter]
      rfl
    · rw [if_neg hkey, hrest, enforce_keys_of_ne hkey]
      simp only [if_neg hkey]
      rfl

/-- The calls under one key are made at the instants of the cluster's calls. -/
theorem presented_nowMs (key : String) (limiters : ℕ → RedisSlidingWindowRateLimiter) (calls : List EnforceCall) :
    (presented key limiters calls).map NamedCall.nowMs =
      (calls.filter fun call ↦ call.key = key).map EnforceCall.nowMs := by
  induction calls generalizing limiters with
  | nil => rfl
  | cons call rest ih =>
    rw [presented]
    by_cases hkey : call.key = key
    · simp [hkey, ih]
    · simp [hkey, ih]

/-- The script takes the decisions of `slideWindow`, and no window holds more admitted calls than the
limit, if and only if the admitted calls that a call finds in its window have different names.
Assumes: the calls are in the order of the common clock, those under the key are made under one limit
and window, and the key is missing at the start. -/
theorem redis_decisions_iff (cluster : Cluster) (key : String) (limit windowMs : ℕ)
    (calls : List EnforceCall) (hclock : (calls.map EnforceCall.nowMs).Pairwise (· ≤ ·))
    (hpolicy : ∀ call ∈ calls, call.key = key →
      call.check.limit = limit ∧ call.check.windowMs = windowMs)
    (hfresh : cluster.keys key = .missing) :
    (cluster.decisionsOn key calls =
        (slideDecisions limit windowMs []
          ((calls.filter fun call ↦ call.key = key).map EnforceCall.nowMs)).map .ok ∧
      ∀ start, admittedWithin windowMs start
        ((calls.filter fun call ↦ call.key = key).map EnforceCall.nowMs)
        (cluster.decisionsOn key calls) ≤ limit) ↔
    EveryStep (admitCall limit windowMs) (NamesDiffer windowMs) []
      (presented key cluster.limiters calls) := by
  have hinstants := presented_nowMs key cluster.limiters calls
  have hsorted : ((calls.filter fun call ↦ call.key = key).map EnforceCall.nowMs).Pairwise
      (· ≤ ·) := hclock.sublist (List.Sublist.map _ List.filter_sublist)
  have hstart : (0 :: (presented key cluster.limiters calls).map NamedCall.nowMs).Pairwise
      (· ≤ ·) := by
    rw [hinstants, List.pairwise_cons]
    exact ⟨fun nowMs _ ↦ Nat.zero_le nowMs, hsorted⟩
  have hagree : scriptDecisions limit windowMs .missing (presented key cluster.limiters calls) =
      (slideDecisions limit windowMs []
        ((presented key cluster.limiters calls).map NamedCall.nowMs)).map .ok ↔
      EveryStep (admitCall limit windowMs) (NamesDiffer windowMs) []
        (presented key cluster.limiters calls) :=
    scriptDecisions_eq_iff (tracks_missing windowMs 0) (Nat.zero_le limit) hstart
  rw [hinstants] at hagree
  rw [decisionsOn_eq hpolicy, hfresh]
  constructor
  · rintro ⟨hsame, -⟩
    exact hagree.mp hsame
  · intro hnames
    have hsame := hagree.mpr hnames
    refine ⟨hsame, fun start ↦ ?_⟩
    rw [hsame]
    exact le_trans (Nat.le_add_left _ (([] : List ℕ).filter fun t ↦ start ≤ t).length)
      (slideDecisions_bounded hsorted (Nat.zero_le limit) start)

/-! ### Instances with one process id -/

/-- The verification-mail policy, for one account. -/
def verificationSend : RateLimitCheck := ⟨"verification_send", 3, 3600000, "account"⟩

/-- Six calls in one millisecond, by two instances in turn. -/
def burst : List EnforceCall :=
  [0, 1, 0, 1, 0, 1].map fun caller ↦ ⟨caller, verificationSend, 1000⟩

/-- Instances that have made no call yet, in front of an empty store. -/
def freshCluster (pids : ℕ → ℕ) : Cluster := ⟨fun caller ↦ ⟨pids caller, 0⟩, fun _ ↦ .missing⟩

theorem redis_decisions_iff_two_pids :
    (freshCluster fun caller ↦ caller + 1).decisionsOn "karar:rl:verification_send:account" burst =
      (slideDecisions 3 3600000 []
        ((burst.filter fun call ↦ call.key = "karar:rl:verification_send:account").map
          EnforceCall.nowMs)).map .ok :=
  ((redis_decisions_iff (freshCluster fun caller ↦ caller + 1) "karar:rl:verification_send:account" 3
    3600000 burst (by decide) (by decide) rfl).mpr (by decide)).1

/-- Two instances whose process id is 1, as in two containers, have five calls admitted under a limit
of three. -/
theorem redis_over_admits :
    admittedWithin 3600000 1000 (burst.map EnforceCall.nowMs)
        ((freshCluster fun _ ↦ 1).decisionsOn "karar:rl:verification_send:account" burst) = 5 ∧
    ¬ ((freshCluster fun _ ↦ 1).decisionsOn "karar:rl:verification_send:account" burst =
        (slideDecisions 3 3600000 []
          ((burst.filter fun call ↦ call.key = "karar:rl:verification_send:account").map
            EnforceCall.nowMs)).map .ok ∧
      ∀ start, admittedWithin 3600000 start
        ((burst.filter fun call ↦ call.key = "karar:rl:verification_send:account").map
          EnforceCall.nowMs)
        ((freshCluster fun _ ↦ 1).decisionsOn "karar:rl:verification_send:account" burst) ≤ 3) := by
  refine ⟨by decide, fun hclaim ↦ ?_⟩
  have hover := hclaim.2 1000
  revert hover
  decide

end Cluster

end Karar.Platform
