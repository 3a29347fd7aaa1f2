import Karar.Foundation.Interleaving

/-!
# Claims, grants and their ends

Some operations claim keys. The last claim of a key is the latest operation that claimed it, so that a
call holds the key while no other call has claimed it since (`Holds`). What a call has claimed itself
is read off its own log; where it holds a key, both readings agree (`Holds.log`).

Some operations grant keys to their calls, and some end what is granted. The grant of a key that is in
force is the last one, as long as nothing has ended it (`holding`). A call has lost its key where the key
was granted again or was taken away after its own grant (`Lost`); a grant that is lost is not in force.
-/

namespace Karar.Foundation

/-! ## Claims in a history -/

section Claims

variable {Op Key : Type} {Answer : Op → Type} [DecidableEq Key]
  (claimed : Performed Op Answer → List Key)

/-- The latest operation that claimed a key. -/
def lastClaim (history : List (Occurrence Op Answer)) (key : Key) : Option (Occurrence Op Answer) :=
  history.find? fun occurrence ↦ key ∈ claimed occurrence.performed

/-- The last claim of the key is the call's. -/
def Holds (history : List (Occurrence Op Answer)) (caller : ℕ) (key : Key) : Prop :=
  (lastClaim claimed history key).map (·.caller) = some caller

instance (history : List (Occurrence Op Answer)) (caller : ℕ) (key : Key) :
    Decidable (Holds claimed history caller key) :=
  inferInstanceAs (Decidable (_ = some caller))

variable {claimed} {history : List (Occurrence Op Answer)} {occurrence last : Occurrence Op Answer}
  {caller : ℕ} {key : Key}

theorem lastClaim_cons_of_mem (hclaims : key ∈ claimed occurrence.performed) :
    lastClaim claimed (occurrence :: history) key = some occurrence := by
  simp [lastClaim, hclaims]

theorem lastClaim_cons_of_not_mem (hclaims : key ∉ claimed occurrence.performed) :
    lastClaim claimed (occurrence :: history) key = lastClaim claimed history key := by
  simp [lastClaim, hclaims]

theorem mem_of_lastClaim (hlast : lastClaim claimed history key = some last) :
    last ∈ history ∧ key ∈ claimed last.performed := by
  refine ⟨List.mem_of_find?_eq_some hlast, ?_⟩
  simpa using List.find?_some hlast

/-- The last claim of all is the last claim in the log of its call. -/
theorem find?_logOf_of_lastClaim (hlast : lastClaim claimed history key = some last) :
    (logOf last.caller history).find? (fun performed ↦ key ∈ claimed performed) =
      some last.performed := by
  induction history with
  | nil => cases hlast
  | cons occurrence history ih =>
    by_cases hclaims : key ∈ claimed occurrence.performed
    · rw [lastClaim_cons_of_mem hclaims] at hlast
      obtain rfl := Option.some.inj hlast
      rw [show occurrence :: history = ⟨occurrence.caller, occurrence.performed⟩ :: history from rfl,
        logOf_cons_self]
      simp [hclaims]
    · rw [lastClaim_cons_of_not_mem hclaims] at hlast
      by_cases hcaller : occurrence.caller = last.caller
      · rw [show occurrence :: history = ⟨occurrence.caller, occurrence.performed⟩ :: history from rfl,
          hcaller, logOf_cons_self, List.find?_cons_of_neg (by simpa using hclaims)]
        exact ih hlast
      · rw [show occurrence :: history = ⟨occurrence.caller, occurrence.performed⟩ :: history from rfl,
          logOf_cons_of_ne hcaller]
        exact ih hlast

/-- A call that holds a key made the last claim of it, which is the last one in its log. -/
theorem Holds.log (hholds : Holds claimed history caller key) :
    ∃ last, lastClaim claimed history key = some last ∧ last.caller = caller ∧
      (logOf caller history).find? (fun performed ↦ key ∈ claimed performed) =
        some last.performed := by
  obtain ⟨last, hlast, rfl⟩ := Option.map_eq_some_iff.mp hholds
  exact ⟨last, hlast, rfl, find?_logOf_of_lastClaim hlast⟩

end Claims

/-! ## Grants and their ends -/

section Tenure

variable {Op Key : Type} {Answer : Op → Type} (granted ended taken : Performed Op Answer → List Key)

/-- After a grant of the call, the key was granted or taken away. -/
def Lost (history : List (Occurrence Op Answer)) (caller : ℕ) (key : Key) : Prop :=
  ∃ recent grant earlier, history = recent ++ grant :: earlier ∧ grant.caller = caller ∧
    key ∈ granted grant.performed ∧
      ∃ occurrence ∈ recent, key ∈ granted occurrence.performed ∨ key ∈ taken occurrence.performed

theorem lost_iff {history : List (Occurrence Op Answer)} {caller : ℕ} {key : Key} :
    Lost granted taken history caller key ↔ ∃ place ∈ List.range history.length,
      ∃ grant ∈ history[place]?, grant.caller = caller ∧ key ∈ granted grant.performed ∧
        ∃ occurrence ∈ history.take place,
          key ∈ granted occurrence.performed ∨ key ∈ taken occurrence.performed := by
  constructor
  · rintro ⟨recent, grant, earlier, rfl, hrest⟩
    refine ⟨recent.length, by simp, grant, ?_, ?_⟩
    · simp
    · rwa [List.take_left]
  · rintro ⟨place, -, grant, hgrant, hrest⟩
    obtain ⟨hlt, rfl⟩ := List.getElem?_eq_some_iff.mp hgrant
    refine ⟨history.take place, history[place], history.drop (place + 1), ?_, hrest⟩
    rw [List.getElem_cons_drop hlt, List.take_append_drop]

variable [DecidableEq Key]

instance (history : List (Occurrence Op Answer)) (caller : ℕ) (key : Key) :
    Decidable (Lost granted taken history caller key) :=
  decidable_of_iff _ (lost_iff granted taken).symm

/-- The grant of a key that is in force. -/
def holding : List (Occurrence Op Answer) → Key → Option (Occurrence Op Answer)
  | [], _ => none
  | occurrence :: earlier, key =>
    if key ∈ granted occurrence.performed then some occurrence
    else if key ∈ ended occurrence.performed then none
    else holding earlier key

/-- The grant in force is the call's. -/
def Holder (history : List (Occurrence Op Answer)) (caller : ℕ) (key : Key) : Prop :=
  (holding granted ended history key).map (·.caller) = some caller

instance (history : List (Occurrence Op Answer)) (caller : ℕ) (key : Key) :
    Decidable (Holder granted ended history caller key) :=
  inferInstanceAs (Decidable (_ = some caller))

variable {granted ended taken} {history : List (Occurrence Op Answer)}
  {occurrence grant : Occurrence Op Answer} {caller : ℕ} {key : Key}

theorem holding_cons_of_granted (hgranted : key ∈ granted occurrence.performed) :
    holding granted ended (occurrence :: history) key = some occurrence := by
  unfold holding
  rw [if_pos hgranted]

theorem holding_cons_of_ended (hgranted : key ∉ granted occurrence.performed)
    (hended : key ∈ ended occurrence.performed) :
    holding granted ended (occurrence :: history) key = none := by
  unfold holding
  rw [if_neg hgranted, if_pos hended]

theorem holding_cons_of_not (hgranted : key ∉ granted occurrence.performed)
    (hended : key ∉ ended occurrence.performed) :
    holding granted ended (occurrence :: history) key = holding granted ended history key := by
  conv_lhs => unfold holding
  rw [if_neg hgranted, if_neg hended]

/-- A grant in force is in the history, and nothing has happened to its key since. -/
theorem exists_grant (hholding : holding granted ended history key = some grant) :
    ∃ recent earlier, history = recent ++ grant :: earlier ∧ key ∈ granted grant.performed ∧
      ∀ occurrence ∈ recent, key ∉ granted occurrence.performed ∧ key ∉ ended occurrence.performed := by
  induction history with
  | nil => cases hholding
  | cons occurrence history ih =>
    by_cases hgranted : key ∈ granted occurrence.performed
    · rw [holding_cons_of_granted hgranted] at hholding
      obtain rfl := Option.some.inj hholding
      exact ⟨[], history, rfl, hgranted, by simp⟩
    · by_cases hended : key ∈ ended occurrence.performed
      · rw [holding_cons_of_ended hgranted hended] at hholding
        cases hholding
      · rw [holding_cons_of_not hgranted hended] at hholding
        obtain ⟨recent, earlier, rfl, hgrant, hrecent⟩ := ih hholding
        refine ⟨occurrence :: recent, earlier, rfl, hgrant, fun other hother ↦ ?_⟩
        rcases List.mem_cons.mp hother with rfl | hlater
        · exact ⟨hgranted, hended⟩
        · exact hrecent other hlater

theorem mem_of_holding (hholding : holding granted ended history key = some grant) :
    grant ∈ history ∧ key ∈ granted grant.performed := by
  obtain ⟨recent, earlier, rfl, hgrant, -⟩ := exists_grant hholding
  exact ⟨List.mem_append_right _ List.mem_cons_self, hgrant⟩

/-- Assumes: what is taken away is ended, and a call grants itself the key at most once. -/
theorem Lost.not_holder (hlost : Lost granted taken history caller key)
    (htaken : ∀ performed, taken performed ⊆ ended performed)
    (honce : ∀ recent later earlier, history = recent ++ later :: earlier → later.caller = caller →
      key ∈ granted later.performed → ∀ occurrence ∈ earlier, occurrence.caller = caller →
        key ∉ granted occurrence.performed) :
    ¬ Holder granted ended history caller key := by
  intro hholder
  obtain ⟨grant, hholding, hcaller⟩ := Option.map_eq_some_iff.mp hholder
  obtain ⟨recent, own, earlier, hhistory, hown, hgranted, touched, htouched, htouches⟩ := hlost
  obtain ⟨since, before, hsplit, hgrant, hsince⟩ := exists_grant hholding
  -- The grant in force is the one that was lost, since the call has no other.
  have hsame := hhistory.symm.trans hsplit
  rcases List.append_eq_append_iff.mp hsame with ⟨between, hbetween, hrest⟩ | ⟨between, hbetween, hrest⟩
  · cases between with
    | nil =>
      obtain rfl : since = recent := by simpa using hbetween
      rcases htouches with hagain | hlost
      · exact (hsince touched htouched).1 hagain
      · exact (hsince touched htouched).2 (htaken _ hlost)
    | cons first between =>
      obtain ⟨rfl, -⟩ := List.cons.inj hrest
      have hmem : own ∈ since := hbetween ▸ List.mem_append_right _ List.mem_cons_self
      exact (hsince own hmem).1 hgranted
  · cases between with
    | nil =>
      obtain rfl : since = recent := by simpa using hbetween.symm
      rcases htouches with hagain | hlost
      · exact (hsince touched htouched).1 hagain
      · exact (hsince touched htouched).2 (htaken _ hlost)
    | cons first between =>
      obtain ⟨rfl, rfl⟩ := List.cons.inj hrest
      have hmem : own ∈ between ++ own :: earlier := List.mem_append_right _ List.mem_cons_self
      exact honce since grant _ hsplit hcaller hgrant own hmem hown hgranted

end Tenure

end Karar.Foundation
