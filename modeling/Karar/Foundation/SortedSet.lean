import Mathlib.Data.Finset.Card
import Mathlib.Data.List.Sort

/-!
# Sorted sets of scored members

A sorted set holds each of its members once, with a score, in the order of the scores. `add` gives a
member a score, whether or not the set holds it already, and `removeBetween` takes out the members
whose scores lie between two bounds.

A set that is fed with the entries of a log, in the order of their scores, holds for each member of
the log its last entry (`ofLog`). Taking out low scores commutes with the feeding
(`ofLog_filter`). The set is the whole log when no member occurs twice (`ofLog_eq_self`), and
is shorter than the log otherwise (`length_ofLog_lt`).
-/

namespace Karar.Foundation

variable {Member : Type*}

/-- A member with its score. -/
structure Scored (Member : Type*) where
  member : Member
  score : ℤ
deriving DecidableEq

/-- The entries of a sorted set, in the order of their scores. Entries with one score stand in the
order in which they came. -/
structure SortedSet (Member : Type*) where
  entries : List (Scored Member)
  distinct : (entries.map Scored.member).Nodup
  ordered : entries.Pairwise fun first second ↦ first.score ≤ second.score
deriving DecidableEq

/-- Puts an entry behind the entries whose scores are not above its own. -/
def insertScored (entry : Scored Member) : List (Scored Member) → List (Scored Member)
  | [] => [entry]
  | first :: rest =>
    if first.score ≤ entry.score then first :: insertScored entry rest else entry :: first :: rest

theorem insertScored_perm (entry : Scored Member) (entries : List (Scored Member)) :
    (insertScored entry entries).Perm (entry :: entries) := by
  induction entries with
  | nil => exact List.Perm.refl _
  | cons first rest ih =>
    rw [insertScored]
    split_ifs with hbelow
    · exact (ih.cons first).trans (List.Perm.swap entry first rest)
    · exact List.Perm.refl _

theorem insertScored_ordered {entry : Scored Member} {entries : List (Scored Member)}
    (hordered : entries.Pairwise fun first second ↦ first.score ≤ second.score) :
    (insertScored entry entries).Pairwise fun first second ↦ first.score ≤ second.score := by
  induction entries with
  | nil => exact List.pairwise_singleton _ _
  | cons first rest ih =>
    have hfirst := (List.pairwise_cons.mp hordered).1
    have hrest := (List.pairwise_cons.mp hordered).2
    rw [insertScored]
    split_ifs with hbelow
    · refine List.pairwise_cons.mpr ⟨?_, ih hrest⟩
      intro other hother
      rcases List.mem_cons.mp ((insertScored_perm entry rest).mem_iff.mp hother) with rfl | hrest
      · exact hbelow
      · exact hfirst other hrest
    · refine List.pairwise_cons.mpr ⟨?_, hordered⟩
      intro other hother
      rcases List.mem_cons.mp hother with rfl | hrest
      · omega
      · have := hfirst other hrest
        omega

/-- An entry with the highest score goes to the end. -/
theorem insertScored_of_le {entry : Scored Member} {entries : List (Scored Member)}
    (hle : ∀ other ∈ entries, other.score ≤ entry.score) :
    insertScored entry entries = entries ++ [entry] := by
  induction entries with
  | nil => rfl
  | cons first rest ih =>
    have hrest := ih fun other hother ↦ hle other (List.mem_cons_of_mem _ hother)
    rw [insertScored, if_pos (hle first List.mem_cons_self), hrest, List.cons_append]

namespace SortedSet

/-- The set without members. -/
def empty : SortedSet Member := ⟨[], List.nodup_nil, List.Pairwise.nil⟩

def card (set : SortedSet Member) : ℕ := set.entries.length

/-- The entry with the lowest score. -/
def first? (set : SortedSet Member) : Option (Scored Member) := set.entries.head?

/-- Takes out the members whose scores lie between the bounds, both included. -/
def removeBetween (set : SortedSet Member) (low high : ℤ) : SortedSet Member where
  entries := set.entries.filter fun entry ↦ !(decide (low ≤ entry.score) && decide (entry.score ≤ high))
  distinct := set.distinct.sublist (List.Sublist.map _ List.filter_sublist)
  ordered := set.ordered.sublist List.filter_sublist

variable [DecidableEq Member]

/-- Gives a member a score. A member that the set holds already gets the new one. -/
def add (set : SortedSet Member) (member : Member) (score : ℤ) : SortedSet Member where
  entries := insertScored ⟨member, score⟩ (set.entries.filter fun entry ↦ entry.member ≠ member)
  distinct := by
    have hperm := (insertScored_perm ⟨member, score⟩
      (set.entries.filter fun entry ↦ entry.member ≠ member)).map Scored.member
    rw [hperm.nodup_iff, List.map_cons, List.nodup_cons]
    refine ⟨?_, set.distinct.sublist (List.Sublist.map _ List.filter_sublist)⟩
    intro hmember
    obtain ⟨entry, hentry, heq⟩ := List.mem_map.mp hmember
    have hne := (List.mem_filter.mp hentry).2
    simp [heq] at hne
  ordered := insertScored_ordered (set.ordered.sublist List.filter_sublist)

/-- A member that gets the highest score goes to the end. -/
theorem add_entries_of_le {set : SortedSet Member} {member : Member} {score : ℤ}
    (hle : ∀ entry ∈ set.entries, entry.score ≤ score) :
    (set.add member score).entries =
      (set.entries.filter fun entry ↦ entry.member ≠ member) ++ [⟨member, score⟩] :=
  insertScored_of_le fun entry hentry ↦ hle entry (List.mem_of_mem_filter hentry)

end SortedSet

/-! ### Sets fed from a log -/

section Log

variable [DecidableEq Member]

/-- The entries of a set that the entries of a log were added to one after another: for each member
its last entry. -/
def ofLog (log : List (Scored Member)) : List (Scored Member) :=
  log.foldl (fun kept entry ↦ (kept.filter fun other ↦ other.member ≠ entry.member) ++ [entry]) []

@[simp] theorem ofLog_append_singleton (log : List (Scored Member)) (entry : Scored Member) :
    ofLog (log ++ [entry]) =
      ((ofLog log).filter fun other ↦ other.member ≠ entry.member) ++ [entry] := by
  rw [ofLog, List.foldl_append]
  rfl

theorem mem_of_mem_ofLog {log : List (Scored Member)} {entry : Scored Member}
    (hentry : entry ∈ ofLog log) : entry ∈ log := by
  induction log using List.reverseRecOn with
  | nil => simp [ofLog] at hentry
  | append_singleton log last ih =>
    rw [ofLog_append_singleton, List.mem_append] at hentry
    rcases hentry with hkept | hlast
    · exact List.mem_append_left _ (ih (List.mem_filter.mp hkept).1)
    · exact List.mem_append_right _ hlast

/-- A member of the log is a member of the set. -/
theorem mem_members_ofLog {log : List (Scored Member)} {member : Member} :
    member ∈ (ofLog log).map Scored.member ↔ member ∈ log.map Scored.member := by
  induction log using List.reverseRecOn with
  | nil => simp [ofLog]
  | append_singleton log last ih =>
    rw [ofLog_append_singleton, List.map_append, List.map_append, List.mem_append, List.mem_append,
      ← ih]
    by_cases hlast : member = last.member
    · simp [hlast]
    · simp only [List.mem_map, List.mem_filter, List.map_cons, List.map_nil, List.mem_singleton,
        hlast, or_false]
      constructor
      · rintro ⟨entry, ⟨hentry, -⟩, rfl⟩
        exact ⟨entry, hentry, rfl⟩
      · rintro ⟨entry, hentry, rfl⟩
        exact ⟨entry, ⟨hentry, by simpa using hlast⟩, rfl⟩

theorem nodup_members_ofLog (log : List (Scored Member)) :
    ((ofLog log).map Scored.member).Nodup := by
  induction log using List.reverseRecOn with
  | nil => simp [ofLog]
  | append_singleton log last ih =>
    rw [ofLog_append_singleton, List.map_append, List.nodup_append]
    refine ⟨ih.sublist (List.Sublist.map _ List.filter_sublist), by simp, ?_⟩
    intro first hfirst second hsecond heq
    obtain ⟨entry, hentry, rfl⟩ := List.mem_map.mp hfirst
    have hne := (List.mem_filter.mp hentry).2
    simp only [List.map_cons, List.map_nil, List.mem_singleton] at hsecond
    simp [heq, hsecond] at hne

/-- A log without repeated members is kept whole. -/
theorem ofLog_eq_self {log : List (Scored Member)} (hlog : (log.map Scored.member).Nodup) :
    ofLog log = log := by
  induction log using List.reverseRecOn with
  | nil => rfl
  | append_singleton log last ih =>
    rw [List.map_append, List.nodup_append] at hlog
    have hkept : (log.filter fun other ↦ other.member ≠ last.member) = log := by
      apply List.filter_eq_self.mpr
      intro entry hentry
      have hne := hlog.2.2 entry.member (List.mem_map_of_mem hentry) last.member (by simp)
      simpa using hne
    rw [ofLog_append_singleton, ih hlog.1, hkept]

/-- A log that repeats a member is not kept whole. -/
theorem length_ofLog_lt {log : List (Scored Member)} (hlog : ¬ (log.map Scored.member).Nodup) :
    (ofLog log).length < log.length := by
  have hmembers : ((ofLog log).map Scored.member).toFinset = (log.map Scored.member).toFinset := by
    ext member
    rw [List.mem_toFinset, List.mem_toFinset, mem_members_ofLog]
  have hset : (ofLog log).length = (log.map Scored.member).toFinset.card := by
    rw [← hmembers, List.toFinset_card_of_nodup (nodup_members_ofLog log), List.length_map]
  have hle : (log.map Scored.member).toFinset.card ≤ log.length := by
    rw [← List.length_map Scored.member]
    exact List.toFinset_card_le _
  refine lt_of_le_of_ne (hset ▸ hle) fun heq ↦ hlog ?_
  rw [hset, List.card_toFinset] at heq
  apply List.dedup_eq_self.mp
  apply List.Sublist.eq_of_length (List.dedup_sublist _)
  rw [heq, List.length_map]

/-- Low scores can be taken out before or after the feeding. Assumes: the log is in the order of its
scores. -/
theorem ofLog_filter {log : List (Scored Member)}
    (hordered : log.Pairwise fun first second ↦ first.score ≤ second.score) (floor : ℤ) :
    ((ofLog log).filter fun entry ↦ floor < entry.score) =
      ofLog (log.filter fun entry ↦ floor < entry.score) := by
  induction log using List.reverseRecOn with
  | nil => rfl
  | append_singleton log last ih =>
    have hlog := (List.pairwise_append.mp hordered).1
    have hlast : ∀ entry ∈ log, entry.score ≤ last.score :=
      fun entry hentry ↦ (List.pairwise_append.mp hordered).2.2 entry hentry last (by simp)
    rw [ofLog_append_singleton, List.filter_append, List.filter_append]
    by_cases hlive : floor < last.score
    · have hkept : ([last].filter fun entry ↦ floor < entry.score) = [last] := by simp [hlive]
      rw [hkept, ofLog_append_singleton, ← ih hlog, List.filter_filter, List.filter_filter]
      congr 2
      ext entry
      rw [Bool.and_comm]
    · have hnone : (log.filter fun entry ↦ floor < entry.score) = [] := by
        apply List.filter_eq_nil_iff.mpr
        intro entry hentry
        have := hlast entry hentry
        simp only [decide_eq_true_eq]
        omega
      have hkept : (((ofLog log).filter fun other ↦ other.member ≠ last.member).filter
          fun entry ↦ floor < entry.score) = [] := by
        apply List.filter_eq_nil_iff.mpr
        intro entry hentry
        have := hlast entry (mem_of_mem_ofLog (List.mem_filter.mp hentry).1)
        simp only [decide_eq_true_eq]
        omega
      rw [hkept, hnone]
      simp [hlive, ofLog]

end Log

end Karar.Foundation
