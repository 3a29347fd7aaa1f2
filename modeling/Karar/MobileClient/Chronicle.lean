import Karar.MobileClient.Client

/-!
# The credentials in the history of the client

Which credentials arrived, were adopted, presented, received and restored, as the history tells it.
`decided` is the session that the process last adopted or gave up. A chronicle is a history in which
each refresh token arrived once, each call adopted at most once and only what had arrived for it, and
only known tokens were presented, none after its rotation had been received. Whatever has been
adopted after a token was presented is not that token again (`Chronicle.decided_ne_presented`).
-/

namespace Karar.MobileClient

open Foundation.EventLoop

/-! ### What a happening tells -/

def WireValue.text? : WireValue → Option String
  | .text content => some content
  | .null | .other => none

/-- The refresh token with which a credential reaches the process. -/
def arrivalBy : ClientHappening → Option String
  | .started (.adoptSession payload) => payload.refreshToken.text?
  | .started (.switchTenant tokens) => some tokens.refreshToken
  | .answered (.identityRefresh _) (.payload payload) => payload.refreshToken.text?
  | _ => none

def adoptedBy : ClientHappening → Option SessionTokens
  | .did _ (.adopted tokens) => some tokens
  | _ => none

/-- The session that an adoption, an end or an abandonment leaves. -/
def decisionBy : ClientHappening → Option SessionState
  | .did _ (.adopted tokens) => some (.activeSession tokens)
  | .did _ .ended | .did _ .abandoned => some .noSession
  | _ => none

def restoredBy : ClientHappening → Option SessionState
  | .did _ (.restored state) => some state
  | _ => none

/-- The refresh token that is presented to the refresh call. -/
def presentedBy : ClientHappening → Option String
  | .asked (.identityRefresh refreshToken) => some refreshToken
  | _ => none

/-- The refresh token whose rotation is received. -/
def receivedBy : ClientHappening → Option String
  | .answered (.identityRefresh refreshToken) (.payload _) => some refreshToken
  | _ => none

/-- The credential that the secure store hands over. -/
def readBy : ClientHappening → Option SessionTokens
  | .answered .readSecure (.ok (some (.tokens tokens))) => some tokens
  | _ => none

def writtenBy : ClientHappening → Option SessionTokens
  | .asked (.writeSecure tokens) => some tokens
  | _ => none

/-- An adoption is a decision for a session that is held. -/
theorem adoptedBy_eq_some_iff {happening : ClientHappening} {tokens : SessionTokens} :
    adoptedBy happening = some tokens ↔
      decisionBy happening = some (.activeSession tokens) := by
  cases happening with
  | did before assignment => cases assignment <;> simp [adoptedBy, decisionBy]
  | started request => simp [adoptedBy, decisionBy]
  | asked op => simp [adoptedBy, decisionBy]
  | answered op answer => simp [adoptedBy, decisionBy]

/-! ### The history -/

/-- The session that was last adopted or given up. -/
def decided : ClientHistory → Option SessionState
  | [] => none
  | record :: older => (decisionBy record.happening).or (decided older)

def Adopted (tokens : SessionTokens) (history : ClientHistory) : Prop :=
  ∃ record ∈ history, adoptedBy record.happening = some tokens

/-- The rotation of a refresh token has been received. -/
def Received (refreshToken : String) (history : ClientHistory) : Prop :=
  ∃ record ∈ history, receivedBy record.happening = some refreshToken

/-- The refresh token of what is stored. -/
def StoredEntry.refreshToken : StoredEntry → Option String
  | tokens stored => some stored.refreshToken
  | undecodable => none

/-- A refresh token that the process has not seen: it was not stored on the device at launch and has
not arrived since. -/
def Fresh (device : World) (refreshToken : String) (history : ClientHistory) : Prop :=
  device.entry.bind StoredEntry.refreshToken ≠ some refreshToken ∧
    ∀ record ∈ history, arrivalBy record.happening ≠ some refreshToken

instance (device : World) (refreshToken : String) (history : ClientHistory) :
    Decidable (Fresh device refreshToken history) :=
  inferInstanceAs (Decidable (_ ∧ ∀ record ∈ history, _))

/-- A credential that was stored on the device at launch or has been adopted since. -/
def Known (device : World) (tokens : SessionTokens) (history : ClientHistory) : Prop :=
  device.entry = some (.tokens tokens) ∨ Adopted tokens history

def KnownToken (device : World) (refreshToken : String) (history : ClientHistory) : Prop :=
  ∃ tokens, Known device tokens history ∧ tokens.refreshToken = refreshToken

/-- A credential with this refresh token has arrived for a call. -/
def Arrived (refreshToken : String) (log : List ClientHappening) : Prop :=
  ∃ happening ∈ log, arrivalBy happening = some refreshToken

def HasAdopted (log : List ClientHappening) : Prop :=
  ∃ happening ∈ log, ∃ tokens, adoptedBy happening = some tokens

/-- The session was adopted or given up after a call had presented a refresh token. -/
def DecidedSince (caller : ℕ) (refreshToken : String) : ClientHistory → Prop
  | [] => False
  | record :: older =>
    DecidedSince caller refreshToken older ∨
      .asked (.identityRefresh refreshToken) ∈ logOf caller older ∧
        (decisionBy record.happening).isSome

section History

variable {device : World} {tokens : SessionTokens} {refreshToken : String} {caller : ℕ}
  {record : ClientRecord} {history : ClientHistory}

theorem Adopted.cons (hadopted : Adopted tokens history) : Adopted tokens (record :: history) := by
  obtain ⟨earlier, hearlier, htokens⟩ := hadopted
  exact ⟨earlier, List.mem_cons_of_mem _ hearlier, htokens⟩

theorem Known.cons (hknown : Known device tokens history) :
    Known device tokens (record :: history) :=
  hknown.imp_right Adopted.cons

theorem KnownToken.cons (hknown : KnownToken device refreshToken history) :
    KnownToken device refreshToken (record :: history) := by
  obtain ⟨tokens, htokens, htoken⟩ := hknown
  exact ⟨tokens, htokens.cons, htoken⟩

theorem arrived_cons {happening : ClientHappening} {log : List ClientHappening} :
    Arrived refreshToken (happening :: log) ↔
      arrivalBy happening = some refreshToken ∨ Arrived refreshToken log := by
  simp [Arrived]

theorem hasAdopted_cons {happening : ClientHappening} {log : List ClientHappening} :
    HasAdopted (happening :: log) ↔
      (∃ tokens, adoptedBy happening = some tokens) ∨ HasAdopted log := by
  simp [HasAdopted]

/-- The log of a call, after anything that happens. -/
theorem logOf_cons (caller : ℕ) (record : ClientRecord) (history : ClientHistory) :
    logOf caller (record :: history) =
      if record.caller = caller then record.happening :: logOf caller history
      else logOf caller history := by
  by_cases hcaller : record.caller = caller
  · subst hcaller
    rw [if_pos rfl, logOf_cons_self]
  · rw [if_neg hcaller, logOf_cons_of_ne hcaller]

theorem adopted_of_decided (hdecided : decided history = some (.activeSession tokens)) :
    Adopted tokens history := by
  induction history with
  | nil => cases hdecided
  | cons record history ih =>
    unfold decided at hdecided
    cases hdecision : decisionBy record.happening with
    | none =>
      rw [hdecision, Option.none_or] at hdecided
      exact (ih hdecided).cons
    | some state =>
      rw [hdecision, Option.some_or] at hdecided
      exact ⟨record, List.mem_cons_self, adoptedBy_eq_some_iff.mpr (hdecision.trans hdecided)⟩

theorem decided_of_adopted (hadopted : Adopted tokens history) : decided history ≠ none := by
  induction history with
  | nil =>
    obtain ⟨record, hrecord, -⟩ := hadopted
    cases hrecord
  | cons record history ih =>
    intro hdecided
    obtain ⟨hdecision, holder⟩ := Option.or_eq_none_iff.mp hdecided
    obtain ⟨adopting, hadopting, htokens⟩ := hadopted
    rcases List.mem_cons.mp hadopting with rfl | hadopting
    · rw [adoptedBy_eq_some_iff.mp htokens] at hdecision
      cases hdecision
    · exact ih ⟨adopting, hadopting, htokens⟩ holder

theorem mem_logOf_cons {happening : ClientHappening} (hmem : happening ∈ logOf caller history) :
    happening ∈ logOf caller (record :: history) :=
  mem_logOf.mpr (List.mem_cons_of_mem _ (mem_logOf.mp hmem))

theorem DecidedSince.presented (hsince : DecidedSince caller refreshToken history) :
    .asked (.identityRefresh refreshToken) ∈ logOf caller history := by
  induction history with
  | nil => exact hsince.elim
  | cons record history ih =>
    rcases hsince with hsince | ⟨hpresented, -⟩
    · exact mem_logOf_cons (ih hsince)
    · exact mem_logOf_cons hpresented

theorem DecidedSince.decided_ne_none (hsince : DecidedSince caller refreshToken history) :
    decided history ≠ none := by
  induction history with
  | nil => exact hsince.elim
  | cons record history ih =>
    intro hnone
    obtain ⟨hdecision, holder⟩ := Option.or_eq_none_iff.mp hnone
    rcases hsince with hsince | ⟨-, hsome⟩
    · exact ih hsince holder
    · rw [hdecision] at hsome
      cases hsome

theorem DecidedSince.cons (hsince : DecidedSince caller refreshToken history) :
    DecidedSince caller refreshToken (record :: history) :=
  .inl hsince

end History

/-! ### Chronicles -/

/-- What a record adds to a history is in order. -/
structure Entered (device : World) (record : ClientRecord) (older : ClientHistory) : Prop where
  arrival : ∀ refreshToken ∈ arrivalBy record.happening, Fresh device refreshToken older
  adoption : ∀ tokens ∈ adoptedBy record.happening,
    Arrived tokens.refreshToken (logOf record.caller older) ∧
      ¬ HasAdopted (logOf record.caller older)
  presentation : ∀ refreshToken ∈ presentedBy record.happening,
    KnownToken device refreshToken older ∧ ¬ Received refreshToken older
  reception : ∀ refreshToken ∈ receivedBy record.happening,
    .asked (.identityRefresh refreshToken) ∈ logOf record.caller older
  reading : ∀ tokens ∈ readBy record.happening, Known device tokens older
  writing : ∀ tokens ∈ writtenBy record.happening, Adopted tokens older

def Chronicle (device : World) : ClientHistory → Prop
  | [] => True
  | record :: older => Entered device record older ∧ Chronicle device older

section Chronicle

variable {device : World} {tokens : SessionTokens} {refreshToken : String} {caller other : ℕ}
  {history : ClientHistory}

theorem Chronicle.known_of_read (hchronicle : Chronicle device history)
    (hread : .answered .readSecure (.ok (some (.tokens tokens))) ∈ logOf caller history) :
    Known device tokens history := by
  induction history with
  | nil => cases mem_logOf.mp hread
  | cons record history ih =>
    rcases List.mem_cons.mp (mem_logOf.mp hread) with rfl | hread
    · exact (hchronicle.1.reading tokens rfl).cons
    · exact (ih hchronicle.2 (mem_logOf.mpr hread)).cons

theorem Chronicle.adopted_of_written (hchronicle : Chronicle device history)
    (hwritten : .asked (.writeSecure tokens) ∈ logOf caller history) :
    Adopted tokens history := by
  induction history with
  | nil => cases mem_logOf.mp hwritten
  | cons record history ih =>
    rcases List.mem_cons.mp (mem_logOf.mp hwritten) with rfl | hwritten
    · exact (hchronicle.1.writing tokens rfl).cons
    · exact (ih hchronicle.2 (mem_logOf.mpr hwritten)).cons

theorem Chronicle.known_of_presented (hchronicle : Chronicle device history)
    (hpresented : .asked (.identityRefresh refreshToken) ∈ logOf caller history) :
    KnownToken device refreshToken history := by
  induction history with
  | nil => cases mem_logOf.mp hpresented
  | cons record history ih =>
    rcases List.mem_cons.mp (mem_logOf.mp hpresented) with rfl | hpresented
    · exact (hchronicle.1.presentation refreshToken rfl).1.cons
    · exact (ih hchronicle.2 (mem_logOf.mpr hpresented)).cons

/-- What arrived was not stored on the device at launch. -/
theorem Chronicle.arrived_ne_device (hchronicle : Chronicle device history)
    (harrived : Arrived refreshToken (logOf caller history)) :
    device.entry.bind StoredEntry.refreshToken ≠ some refreshToken := by
  induction history with
  | nil =>
    obtain ⟨happening, hmem, -⟩ := harrived
    cases hmem
  | cons record history ih =>
    rw [logOf_cons] at harrived
    split_ifs at harrived with hcaller
    · rcases arrived_cons.mp harrived with harrival | harrived
      · exact (hchronicle.1.arrival refreshToken harrival).1
      · exact ih hchronicle.2 harrived
    · exact ih hchronicle.2 harrived

theorem arrived_history (harrived : Arrived refreshToken (logOf caller history)) :
    ∃ record ∈ history, arrivalBy record.happening = some refreshToken := by
  obtain ⟨happening, hmem, harrival⟩ := harrived
  exact ⟨_, mem_logOf.mp hmem, harrival⟩

/-- A refresh token arrives for one call only. -/
theorem Chronicle.arrived_unique (hchronicle : Chronicle device history)
    (hfirst : Arrived refreshToken (logOf caller history))
    (hsecond : Arrived refreshToken (logOf other history)) : caller = other := by
  induction history with
  | nil =>
    obtain ⟨happening, hmem, -⟩ := hfirst
    cases hmem
  | cons record history ih =>
    by_contra hne
    have hnever : ∀ who, Arrived refreshToken (logOf who history) →
        arrivalBy record.happening ≠ some refreshToken := by
      intro who harrived harrival
      obtain ⟨earlier, hearlier, hsame⟩ := arrived_history harrived
      exact (hchronicle.1.arrival refreshToken harrival).2 earlier hearlier hsame
    rw [logOf_cons] at hfirst hsecond
    split_ifs at hfirst hsecond with hcaller hother
    · exact hne (hcaller.symm.trans hother)
    · rcases arrived_cons.mp hfirst with harrival | hfirst
      · exact hnever other hsecond harrival
      · exact hne (ih hchronicle.2 hfirst hsecond)
    · rcases arrived_cons.mp hsecond with harrival | hsecond
      · exact hnever caller hfirst harrival
      · exact hne (ih hchronicle.2 hfirst hsecond)
    · exact hne (ih hchronicle.2 hfirst hsecond)

/-- What was adopted had arrived for the call that adopted it. -/
theorem Chronicle.arrived_of_adopted (hchronicle : Chronicle device history)
    (hadopted : Adopted tokens history) :
    ∃ caller, Arrived tokens.refreshToken (logOf caller history) ∧
      HasAdopted (logOf caller history) := by
  induction history with
  | nil =>
    obtain ⟨record, hrecord, -⟩ := hadopted
    cases hrecord
  | cons record history ih =>
    obtain ⟨adopting, hadopting, htokens⟩ := hadopted
    rcases List.mem_cons.mp hadopting with rfl | hadopting
    · refine ⟨adopting.caller, ?_, ?_⟩
      · rw [logOf_cons, if_pos rfl]
        exact arrived_cons.mpr (.inr (hchronicle.1.adoption tokens htokens).1)
      · rw [logOf_cons, if_pos rfl]
        exact hasAdopted_cons.mpr (.inl ⟨tokens, htokens⟩)
    · obtain ⟨caller, harrived, hhas⟩ := ih hchronicle.2 ⟨adopting, hadopting, htokens⟩
      refine ⟨caller, ?_, ?_⟩
      · rw [logOf_cons]
        split_ifs
        · exact arrived_cons.mpr (.inr harrived)
        · exact harrived
      · rw [logOf_cons]
        split_ifs
        · exact hasAdopted_cons.mpr (.inr hhas)
        · exact hhas

/-- What has arrived for a call that has not adopted is not known yet. -/
theorem Chronicle.not_known (hchronicle : Chronicle device history)
    (harrived : Arrived refreshToken (logOf caller history))
    (hnot : ¬ HasAdopted (logOf caller history)) : ¬ KnownToken device refreshToken history := by
  rintro ⟨tokens, hdevice | hadopted, rfl⟩
  · refine hchronicle.arrived_ne_device harrived ?_
    simp [hdevice, StoredEntry.refreshToken]
  · obtain ⟨adopting, hadopting, hhas⟩ := hchronicle.arrived_of_adopted hadopted
    obtain rfl := hchronicle.arrived_unique harrived hadopting
    exact hnot hhas

/-- What was decided after a refresh token had been presented is not that token again. -/
theorem Chronicle.decided_ne_presented (hchronicle : Chronicle device history)
    (hsince : DecidedSince caller refreshToken history)
    (hdecided : decided history = some (.activeSession tokens)) :
    tokens.refreshToken ≠ refreshToken := by
  induction history with
  | nil => exact hsince.elim
  | cons record history ih =>
    unfold decided at hdecided
    cases hdecision : decisionBy record.happening with
    | none =>
      rw [hdecision, Option.none_or] at hdecided
      rcases hsince with hsince | ⟨-, hsome⟩
      · exact ih hchronicle.2 hsince hdecided
      · simp [hdecision] at hsome
    | some state =>
      rw [hdecision, Option.some_or] at hdecided
      have hadopted := adoptedBy_eq_some_iff.mpr (hdecision.trans hdecided)
      obtain ⟨harrived, hnot⟩ := hchronicle.1.adoption tokens hadopted
      have hunknown := hchronicle.2.not_known harrived hnot
      have hpresented : .asked (.identityRefresh refreshToken) ∈ logOf caller history := by
        rcases hsince with hsince | ⟨hpresented, -⟩
        · exact hsince.presented
        · exact hpresented
      rintro rfl
      exact hunknown (hchronicle.2.known_of_presented hpresented)

end Chronicle

end Karar.MobileClient
