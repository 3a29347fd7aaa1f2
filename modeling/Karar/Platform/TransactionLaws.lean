import Karar.Foundation.SoleRun
import Karar.Platform.Adapter

/-!
# What a transaction reports

`CommitsWhatItReports` is the guarantee of `withTransaction` for one callback, over all outcomes of
the statements it sends: where it resolves, what the callback saw executed is committed; where it
rejects, nothing is, a COMMIT whose answer was lost aside; and the connection goes back to the pool
only outside a transaction. `commitsWhatItReports_iff` says which callbacks have it: those that never
resolve after an earlier statement was executed and a later one failed.
-/

namespace Karar.Platform.Adapter

open Foundation

variable {Statement Rows Thrown Result : Type}

/-! ### The guarantee -/

/-- The statement of a callback that was executed, as the callback was told. -/
def reportedOne : Performed (AdapterOp Statement) (AdapterAnswer Statement Rows) →
    Option Statement
  | ⟨.send _ (.query statement), reply⟩ =>
    match (show Except PgError Rows from reply) with
    | .ok _ => some statement
    | .error _ => none
  | _ => none

/-- The statements that were executed, as the callback was told, oldest first. -/
def reported (log : List (Performed (AdapterOp Statement) (AdapterAnswer Statement Rows))) :
    List Statement :=
  log.filterMap reportedOne

/-- A session outside any transaction. -/
def Session.Idle (session : Session Statement) : Prop := session.transaction = .idle

abbrev Connections (Statement : Type) := Pool (Session Statement) (List Statement)

/-- The answer to COMMIT was lost with the connection. -/
def AnswerLost (log : List (Performed (AdapterOp Statement) (AdapterAnswer Statement Rows)))
    (final : Connections Statement) : Prop :=
  ∃ id settings, ⟨PoolOp.connect, Except.ok id⟩ ∈ log ∧
    final.slots[id]? = some ⟨.discarded, ⟨settings, .lost true⟩⟩

/-- A run of `withTransaction` that has committed what it reports. -/
structure Faithful (pool final : Connections Statement)
    (log : List (Performed (AdapterOp Statement) (AdapterAnswer Statement Rows)))
    (outcome : Except (Rejection Thrown) Result) : Prop where
  resolved : ∀ result, outcome = .ok result → final.shared = pool.shared ++ reported log
  rejected : ∀ rejection, outcome = .error rejection →
    final.shared = pool.shared ∨ AnswerLost log final
  returned : final.Ready Session.Idle

def CommitsWhatItReports (binds : Statement → Option PrincipalSettings)
    (fn : Callback Statement Rows Thrown Result) : Prop :=
  ∀ pool final log outcome, pool.Ready Session.Idle →
    RunsAlone (poolHandler (sessions binds)) pool (withTransaction fn) log final outcome →
      Faithful pool final log outcome

/-- What a callback makes of the answers to its statements. -/
def replay : Callback Statement Rows Thrown Result → List (Except PgError Rows) →
    Option (Except (Rejection Thrown) Result)
  | .pure outcome, [] => some outcome
  | .call _ next, reply :: replies => replay (next reply) replies
  | _, _ => none

/-- Some statements are executed, one fails, and so do those after it. -/
def failing (rows : List Rows) (failure : PgError) (more : ℕ) : List (Except PgError Rows) :=
  rows.map .ok ++ .error failure :: List.replicate more (.error inFailedTransaction)

/-- A callback that can resolve after one of its statements was executed and a later one failed. -/
def Swallows (fn : Callback Statement Rows Thrown Result) : Prop :=
  ∃ rows failure more result, rows ≠ [] ∧ replay fn (failing rows failure more) = some (.ok result)

/-! ### One command on a connection -/

section Runs

variable {binds : Statement → Option PrincipalSettings} {pool final later : Connections Statement}
  {log : List (Performed (AdapterOp Statement) (AdapterAnswer Statement Rows))}
  {id : ℕ} {session : Session Statement}

theorem reported_append
    (first second : List (Performed (AdapterOp Statement) (AdapterAnswer Statement Rows))) :
    reported (first ++ second) = reported first ++ reported second :=
  List.filterMap_append

theorem reported_cons_of_none
    {performed : Performed (AdapterOp Statement) (AdapterAnswer Statement Rows)}
    (hnone : reportedOne performed = none) : reported (performed :: log) = reported log :=
  List.filterMap_cons_none hnone

theorem reported_append_of_nil
    {later : List (Performed (AdapterOp Statement) (AdapterAnswer Statement Rows))}
    (hnil : reported later = []) : reported (log ++ later) = reported log := by
  rw [reported_append, hnil, List.append_nil]

/-- A connection that is checked out. -/
def At (pool : Connections Statement) (id : ℕ) (session : Session Statement) : Prop :=
  pool.slots[id]? = some ⟨.leased, session⟩

/-- Only one slot of the pool has changed. -/
def Elsewhere (id : ℕ) (pool later : Connections Statement) : Prop :=
  ∀ other, other ≠ id → later.slots[other]? = pool.slots[other]?

theorem Elsewhere.refl (id : ℕ) (pool : Connections Statement) : Elsewhere id pool pool :=
  fun _ _ ↦ rfl

theorem Elsewhere.trans (hfirst : Elsewhere id pool later) (hsecond : Elsewhere id later final) :
    Elsewhere id pool final :=
  fun other hne ↦ (hsecond other hne).trans (hfirst other hne)

/-- The pool after a command on a connection. -/
def sent (pool : Connections Statement) (id : ℕ) (session : Session Statement)
    (shared : List Statement) : Connections Statement :=
  ⟨shared, pool.slots.set id ⟨.leased, session⟩⟩

theorem At.sent (hat : At pool id session) (next : Session Statement) (shared : List Statement) :
    At (sent pool id next shared) id next := by
  have hlength : id < pool.slots.length := (List.getElem?_eq_some_iff.mp hat).1
  exact List.getElem?_set_self hlength

theorem elsewhere_sent (next : Session Statement) (shared : List Statement) :
    Elsewhere id pool (sent pool id next shared) :=
  fun _ hne ↦ List.getElem?_set_ne (Ne.symm hne)

/-- One command, and the run of the rest. -/
theorem runs_send {Outcome : Type} (hat : At pool id session) {command : Command Statement}
    {rest : command.Reply Rows → AdapterProgram Statement Rows Outcome} {outcome : Outcome} :
    RunsAlone (poolHandler (sessions binds)) pool
        (.call (.send id command) rest) log final outcome ↔
      ∃ fate remaining,
        log = ⟨.send id command, (serve binds session pool.shared command fate).2⟩ :: remaining ∧
        RunsAlone (poolHandler (sessions binds))
          (sent pool id (serve binds session pool.shared command fate).1.1
            (serve binds session pool.shared command fate).1.2)
          (rest (serve binds session pool.shared command fate).2) remaining final outcome := by
  constructor
  · intro hruns
    cases hruns with
    | @call _ _ _ _ surroundings answer _ remaining _ hanswer hrest =>
      rw [handler_send hat] at hanswer
      obtain ⟨rfl, rfl⟩ := Prod.mk.inj (Option.some.inj hanswer)
      exact ⟨surroundings.fate, remaining, rfl, hrest⟩
  · rintro ⟨fate, remaining, rfl, hrest⟩
    have hanswer : poolHandler (sessions binds) pool (.send id command : AdapterOp Statement)
        ⟨.reuse 0, fate⟩ =
          some (sent pool id (serve binds session pool.shared command fate).1.1
              (serve binds session pool.shared command fate).1.2,
            (serve binds session pool.shared command fate).2) := handler_send hat
    exact .call hanswer hrest

/-- The pool after a connection is given back or discarded. -/
def released (pool : Connections Statement) (id : ℕ) (session : Session Statement)
    (failure : Option PgError) : Connections Statement :=
  ⟨pool.shared, pool.slots.set id ⟨if failure.isSome then .discarded else .pooled, session⟩⟩

theorem At.released (hat : At pool id session) (failure : Option PgError) :
    (released pool id session failure).slots[id]? =
      some ⟨if failure.isSome then .discarded else .pooled, session⟩ := by
  have hlength : id < pool.slots.length := (List.getElem?_eq_some_iff.mp hat).1
  exact List.getElem?_set_self hlength

theorem runs_release {Outcome : Type} (hat : At pool id session) {failure : Option PgError}
    {rest : Unit → AdapterProgram Statement Rows Outcome} {outcome : Outcome} :
    RunsAlone (poolHandler (sessions binds)) pool
        (.call (.release id failure) rest) log final outcome ↔
      ∃ remaining, log = ⟨.release id failure, ()⟩ :: remaining ∧
        RunsAlone (poolHandler (sessions binds)) (released pool id session failure) (rest ())
          remaining final outcome := by
  have hanswer : ∀ surroundings : Surroundings PrincipalSettings (Fate Rows) PgError,
      poolHandler (sessions binds) pool (.release id failure : AdapterOp Statement) surroundings =
        some (released pool id session failure, ()) := fun _ ↦ handler_release hat
  constructor
  · intro hruns
    cases hruns with
    | @call _ _ _ _ surroundings _ _ remaining _ hanswered hrest =>
      rw [hanswer] at hanswered
      obtain ⟨rfl, rfl⟩ := Prod.mk.inj (Option.some.inj hanswered)
      exact ⟨remaining, rfl, hrest⟩
  · rintro ⟨remaining, rfl, hrest⟩
    exact .call (hanswer ⟨.refused connectionTerminated, .refused connectionTerminated⟩) hrest

/-- What a part of the run has left of the pool. -/
structure Left (pool final : Connections Statement) (id : ℕ) (session : Session Statement) :
    Prop where
  shared : final.shared = pool.shared
  at_ : At final id session
  elsewhere : Elsewhere id pool final

theorem Left.after {next : Session Statement} (hleft : Left (sent pool id next pool.shared) final id
    session) : Left pool final id session :=
  ⟨hleft.shared, hleft.at_, (elsewhere_sent next pool.shared).trans hleft.elsewhere⟩

end Runs

/-! ### The run of a callback -/

section Callback

variable {binds : Statement → Option PrincipalSettings} {pool final : Connections Statement}
  {log : List (Performed (AdapterOp Statement) (AdapterAnswer Statement Rows))} {id : ℕ}
  {settings : PrincipalSettings} {fn : Callback Statement Rows Thrown Result}
  {outcome : Except (Rejection Thrown) Result}

/-- On a connection that is gone no statement is executed. -/
theorem left_of_lost {committing : Bool} (hat : At pool id ⟨settings, .lost committing⟩)
    (hruns : RunsAlone (poolHandler (sessions binds)) pool (onConnection id fn) log final outcome) :
    Left pool final id ⟨settings, .lost committing⟩ ∧ reported log = [] := by
  induction fn generalizing pool log with
  | pure result =>
    cases hruns
    exact ⟨⟨rfl, hat, .refl _ _⟩, rfl⟩
  | call statement next ih =>
    obtain ⟨fate, remaining, rfl, hrest⟩ := (runs_send hat).mp hruns
    obtain ⟨hleft, hreported⟩ := ih _ (hat.sent _ _) hrest
    exact ⟨hleft.after, hreported⟩

/-- In an aborted transaction no statement is executed. -/
theorem left_of_aborted {bound : Option PrincipalSettings}
    (hat : At pool id ⟨settings, .aborted bound⟩)
    (hruns : RunsAlone (poolHandler (sessions binds)) pool (onConnection id fn) log final outcome) :
    reported log = [] ∧
      ((∃ more, replay fn (List.replicate more (.error inFailedTransaction)) = some outcome ∧
          Left pool final id ⟨settings, .aborted bound⟩) ∨
        Left pool final id ⟨settings, .lost false⟩) := by
  induction fn generalizing pool log with
  | pure result =>
    cases hruns
    exact ⟨rfl, .inl ⟨0, rfl, rfl, hat, .refl _ _⟩⟩
  | call statement next ih =>
    obtain ⟨fate, remaining, rfl, hrest⟩ := (runs_send hat).mp hruns
    have hstays : ∀ answer : Except PgError Rows, answer = .error inFailedTransaction →
        RunsAlone (poolHandler (sessions binds))
          (sent pool id ⟨settings, .aborted bound⟩ pool.shared) (onConnection id (next answer))
          remaining final outcome →
        reported remaining = [] ∧
          ((∃ more, replay (.call statement next)
              (List.replicate more (.error inFailedTransaction)) = some outcome ∧
              Left pool final id ⟨settings, .aborted bound⟩) ∨
            Left pool final id ⟨settings, .lost false⟩) := by
      rintro _ rfl hrest
      obtain ⟨hreported, ⟨more, hreplay, hleft⟩ | hleft⟩ := ih _ (hat.sent _ _) hrest
      · exact ⟨hreported, .inl ⟨more + 1, hreplay, hleft.after⟩⟩
      · exact ⟨hreported, .inr hleft.after⟩
    cases fate with
    | done rows => exact hstays _ rfl hrest
    | refused error => exact hstays _ rfl hrest
    | lost executed error =>
      obtain ⟨hleft, hreported⟩ := left_of_lost (hat.sent _ _) hrest
      exact ⟨hreported, .inr hleft.after⟩

/-- In a transaction the statements reported are the ones executed, until one of them fails. -/
theorem left_of_active {executed : List Statement} {bound : Option PrincipalSettings}
    (hat : At pool id ⟨settings, .active executed bound⟩)
    (hruns : RunsAlone (poolHandler (sessions binds)) pool (onConnection id fn) log final outcome) :
    (∃ bound', Left pool final id ⟨settings, .active (executed ++ reported log) bound'⟩) ∨
      (∃ rows failure more bound', rows.length = (reported log).length ∧
        replay fn (failing rows failure more) = some outcome ∧
        Left pool final id ⟨settings, .aborted bound'⟩) ∨
      Left pool final id ⟨settings, .lost false⟩ := by
  induction fn generalizing pool log executed bound with
  | pure result =>
    cases hruns
    have hnone : executed ++ reported ([] : List (Performed (AdapterOp Statement)
        (AdapterAnswer Statement Rows))) = executed := List.append_nil executed
    exact .inl ⟨bound, rfl, by rw [hnone]; exact hat, .refl _ _⟩
  | call statement next ih =>
    obtain ⟨fate, remaining, rfl, hrest⟩ := (runs_send hat).mp hruns
    cases fate with
    | done rows =>
      have hreported : reported (⟨.send id (.query statement), Except.ok rows⟩ :: remaining) =
          statement :: reported remaining := rfl
      have hexecuted : ∀ later : List Statement,
          executed ++ [statement] ++ later = executed ++ statement :: later := by simp
      rcases ih _ (hat.sent _ _) hrest with
        ⟨bound', hleft⟩ | ⟨replies, failure, more, bound', hlength, hreplay, hleft⟩ | hleft
      · refine .inl ⟨bound', ?_⟩
        rw [hexecuted] at hleft
        exact hleft.after
      · refine .inr (.inl ⟨rows :: replies, failure, more, bound', ?_, hreplay, hleft.after⟩)
        exact congrArg (· + 1) hlength
      · exact .inr (.inr hleft.after)
    | refused error =>
      obtain ⟨hreported, ⟨more, hreplay, hleft⟩ | hleft⟩ := left_of_aborted (hat.sent _ _) hrest
      · refine .inr (.inl ⟨[], error, more, bound, ?_, hreplay, hleft.after⟩)
        exact (congrArg List.length hreported).symm
      · exact .inr (.inr hleft.after)
    | lost took error =>
      exact .inr (.inr (left_of_lost (hat.sent _ _) hrest).1.after)

/-- The end of a `try` block. -/
theorem end_of_commit {transaction : TransactionState Statement} (executed : List Statement)
    (hat : At pool id ⟨settings, transaction⟩)
    (htransaction : (∃ bound, transaction = .active executed bound) ∨
      (∃ bound, transaction = .aborted bound) ∨ transaction = .lost false)
    {ended : Except (Rejection Thrown) Result}
    (hruns : RunsAlone (poolHandler (sessions binds)) pool (commit id ended) log final outcome) :
    ∃ later, At final id ⟨settings, later⟩ ∧ Elsewhere id pool final ∧ reported log = [] ∧
      ((∃ rejection, outcome = .error rejection ∧
          (final.shared = pool.shared ∨ later = .lost true)) ∨
        ∃ result, ended = .ok result ∧ outcome = .ok result ∧ later = .idle ∧
          (((∃ bound, transaction = .active executed bound) ∧
              final.shared = pool.shared ++ executed) ∨
            ((∃ bound, transaction = .aborted bound) ∧ final.shared = pool.shared))) := by
  cases ended with
  | error rejection =>
    cases hruns
    exact ⟨_, hat, .refl _ _, rfl, .inl ⟨rejection, rfl, .inl rfl⟩⟩
  | ok result =>
    obtain ⟨fate, remaining, rfl, hrest⟩ := (runs_send hat).mp hruns
    let served := serve binds ⟨settings, transaction⟩ pool.shared .commit fate
    have hsent : At (sent pool id served.1.1 served.1.2) id served.1.1 := hat.sent _ _
    have helsewhere : Elsewhere id pool (sent pool id served.1.1 served.1.2) :=
      elsewhere_sent _ _
    rcases htransaction with ⟨bound, rfl⟩ | ⟨bound, rfl⟩ | rfl
    · cases fate with
      | done rows =>
        cases hrest
        exact ⟨_, hsent, helsewhere, rfl, .inr ⟨result, rfl, rfl, rfl, .inl ⟨⟨bound, rfl⟩, rfl⟩⟩⟩
      | refused error =>
        cases hrest
        exact ⟨_, hsent, helsewhere, rfl, .inl ⟨_, rfl, .inl rfl⟩⟩
      | lost took error =>
        cases hrest
        exact ⟨_, hsent, helsewhere, rfl, .inl ⟨_, rfl, .inr rfl⟩⟩
    · cases fate with
      | done rows =>
        cases hrest
        exact ⟨_, hsent, helsewhere, rfl, .inr ⟨result, rfl, rfl, rfl, .inr ⟨⟨bound, rfl⟩, rfl⟩⟩⟩
      | refused error =>
        cases hrest
        exact ⟨_, hsent, helsewhere, rfl, .inl ⟨_, rfl, .inl rfl⟩⟩
      | lost took error =>
        cases hrest
        exact ⟨_, hsent, helsewhere, rfl, .inl ⟨_, rfl, .inl rfl⟩⟩
    · cases hrest
      exact ⟨_, hsent, helsewhere, rfl, .inl ⟨_, rfl, .inl rfl⟩⟩

/-- The end of a transaction on a connection, before `catch` and `finally`. -/
theorem end_of_attempt (hat : At pool id ⟨settings, .idle⟩)
    (hruns : RunsAlone (poolHandler (sessions binds)) pool (attempt id fn) log final outcome) :
    ∃ later, At final id ⟨settings, later⟩ ∧ Elsewhere id pool final ∧
      ((∃ rejection, outcome = .error rejection ∧
          (final.shared = pool.shared ∨ later = .lost true)) ∨
        ∃ result, outcome = .ok result ∧ later = .idle ∧
          (final.shared = pool.shared ++ reported log ∨
            (final.shared = pool.shared ∧ reported log ≠ [] ∧ Swallows fn))) := by
  obtain ⟨fate, remaining, rfl, hrest⟩ := (runs_send hat).mp hruns
  let served := serve binds ⟨settings, .idle⟩ pool.shared .begin fate
  have hsent : At (sent pool id served.1.1 served.1.2) id served.1.1 := hat.sent _ _
  have helsewhere : Elsewhere id pool (sent pool id served.1.1 served.1.2) := elsewhere_sent _ _
  cases fate with
  | refused error =>
    cases hrest
    exact ⟨_, hsent, helsewhere, .inl ⟨_, rfl, .inl rfl⟩⟩
  | lost took error =>
    cases hrest
    exact ⟨_, hsent, helsewhere, .inl ⟨_, rfl, .inl rfl⟩⟩
  | done rows =>
    have hbegun : RunsAlone (poolHandler (sessions binds)) (sent pool id served.1.1 served.1.2)
        (onConnection id fn >>= commit id) remaining final outcome := hrest
    obtain ⟨early, middle, ended, late, hcallback, hcommit, rfl⟩ := runsAlone_bind_iff.mp hbegun
    have hreported : ∀ begun, reportedOne begun = none → reported late = [] →
        reported (begun :: (early ++ late)) = reported early :=
      fun _ hbegun hlate ↦ (reported_cons_of_none hbegun).trans (reported_append_of_nil hlate)
    rcases left_of_active hsent hcallback with
      ⟨bound, hleft⟩ | ⟨replies, failure, more, bound, hlength, hreplay, hleft⟩ | hleft
    · obtain ⟨later, hlater, hother, hlate, hend⟩ :=
        end_of_commit _ hleft.at_ (.inl ⟨bound, rfl⟩) hcommit
      refine ⟨later, hlater, (helsewhere.trans hleft.elsewhere).trans hother, ?_⟩
      rcases hend with ⟨rejection, hout, hkept⟩ | ⟨result, -, hout, hidle, ⟨-, hshared⟩ | ⟨⟨_, h⟩, -⟩⟩
      · exact .inl ⟨rejection, hout, by rwa [hleft.shared] at hkept⟩
      · refine .inr ⟨result, hout, hidle, .inl ?_⟩
        rw [hreported _ rfl hlate, hshared, hleft.shared]
        rfl
      · cases h
    · obtain ⟨later, hlater, hother, hlate, hend⟩ :=
        end_of_commit [] hleft.at_ (.inr (.inl ⟨bound, rfl⟩)) hcommit
      refine ⟨later, hlater, (helsewhere.trans hleft.elsewhere).trans hother, ?_⟩
      rcases hend with ⟨rejection, hout, hkept⟩ | ⟨result, hresult, hout, hidle, ⟨⟨_, h⟩, -⟩ | ⟨-, hshared⟩⟩
      · exact .inl ⟨rejection, hout, by rwa [hleft.shared] at hkept⟩
      · cases h
      · refine .inr ⟨result, hout, hidle, ?_⟩
        rw [hreported _ rfl hlate]
        by_cases hnone : reported early = []
        · refine .inl ?_
          rw [hnone, hshared, hleft.shared]
          exact (List.append_nil pool.shared).symm
        · refine .inr ⟨hshared.trans hleft.shared, hnone, replies, failure, more, result, ?_, ?_⟩
          · rintro rfl
            exact hnone (List.eq_nil_of_length_eq_zero hlength.symm)
          · rw [hreplay, hresult]
    · obtain ⟨later, hlater, hother, -, hend⟩ :=
        end_of_commit [] hleft.at_ (.inr (.inr rfl)) hcommit
      refine ⟨later, hlater, (helsewhere.trans hleft.elsewhere).trans hother, ?_⟩
      rcases hend with ⟨rejection, hout, hkept⟩ | ⟨result, -, -, -, ⟨⟨_, h⟩, -⟩ | ⟨⟨_, h⟩, -⟩⟩
      · exact .inl ⟨rejection, hout, by rwa [hleft.shared] at hkept⟩
      · cases h
      · cases h

/-- ROLLBACK ends the transaction, or it fails. -/
theorem serveRollback_cases (transaction : TransactionState Statement) (fate : Fate Rows) :
    (serveRollback transaction fate = (.idle, .ok .rollback) ∧ transaction ≠ .lost true) ∨
      ∃ later error, serveRollback transaction fate = (later, .error error) ∧
        (transaction = .lost true → later = .lost true) := by
  cases transaction <;> cases fate <;> simp [serveRollback]

/-- The `catch` and `finally` blocks: a connection goes back to the pool only outside a
transaction. -/
theorem end_of_conclude {transaction : TransactionState Statement}
    {ended : Except (Rejection Thrown) Result} (hat : At pool id ⟨settings, transaction⟩)
    (hidle : ∀ result, ended = .ok result → transaction = .idle)
    (hruns : RunsAlone (poolHandler (sessions binds)) pool (conclude id ended) log final outcome) :
    outcome = ended ∧ final.shared = pool.shared ∧ Elsewhere id pool final ∧ reported log = [] ∧
      ((∃ session, final.slots[id]? = some ⟨.pooled, session⟩ ∧ session.Idle ∧
          transaction ≠ .lost true) ∨
        ∃ later, final.slots[id]? = some ⟨.discarded, ⟨settings, later⟩⟩ ∧
          (transaction = .lost true → later = .lost true)) := by
  cases ended with
  | ok result =>
    have htransaction := hidle result rfl
    obtain ⟨remaining, rfl, hrest⟩ := (runs_release hat).mp hruns
    cases hrest
    refine ⟨rfl, rfl, fun _ hne ↦ List.getElem?_set_ne (Ne.symm hne), rfl, .inl ?_⟩
    refine ⟨_, hat.released none, htransaction, ?_⟩
    rw [htransaction]
    simp
  | error rejection =>
    obtain ⟨fate, remaining, rfl, hrest⟩ := (runs_send hat).mp hruns
    rcases serveRollback_cases transaction fate with ⟨hserved, hnot⟩ | ⟨later, error, hserved, hlost⟩
    · have hanswer : serve binds ⟨settings, transaction⟩ pool.shared .rollback fate =
          ((⟨settings, .idle⟩, pool.shared), Except.ok .rollback) := by
        simp only [serve, hserved]
        rfl
      rw [hanswer] at hrest
      have hsent : At (sent pool id ⟨settings, .idle⟩ pool.shared) id ⟨settings, .idle⟩ :=
        hat.sent _ _
      obtain ⟨rest, rfl, hend⟩ := (runs_release hsent).mp hrest
      cases hend
      refine ⟨rfl, rfl, (elsewhere_sent _ _).trans fun _ hne ↦ List.getElem?_set_ne (Ne.symm hne),
        rfl, .inl ⟨_, hsent.released none, rfl, hnot⟩⟩
    · have hanswer : serve binds ⟨settings, transaction⟩ pool.shared .rollback fate =
          ((⟨settings, later⟩, pool.shared), Except.error error) := by
        simp only [serve, hserved]
        rfl
      rw [hanswer] at hrest
      have hsent : At (sent pool id ⟨settings, later⟩ pool.shared) id ⟨settings, later⟩ :=
        hat.sent _ _
      obtain ⟨rest, rfl, hend⟩ := (runs_release hsent).mp hrest
      cases hend
      refine ⟨rfl, rfl, (elsewhere_sent _ _).trans fun _ hne ↦ List.getElem?_set_ne (Ne.symm hne),
        rfl, .inr ⟨later, hsent.released (some error), hlost⟩⟩

/-- Every other connection of the pool is there and clean, or discarded. -/
def OthersReady (id : ℕ) (pool : Connections Statement) : Prop :=
  ∀ (other : ℕ) (slot : Slot (Session Statement)), other ≠ id → pool.slots[other]? = some slot →
    slot.place ≠ .leased ∧ (slot.place = .pooled → slot.cell.Idle)

/-- The connection that a transaction gets is outside any transaction. -/
theorem exists_of_connected (hready : pool.Ready Session.Idle) {later : Connections Statement}
    {surroundings : Surroundings PrincipalSettings (Fate Rows) PgError}
    (hanswer : poolHandler (sessions binds) pool .connect surroundings = some (later, .ok id)) :
    ∃ settings, At later id ⟨settings, .idle⟩ ∧ later.shared = pool.shared ∧
      OthersReady id later := by
  have hslots : ∀ (other : ℕ) (slot : Slot (Session Statement)), pool.slots[other]? = some slot →
      slot.place ≠ .leased ∧ (slot.place = .pooled → slot.cell.Idle) :=
    fun other slot hslot ↦ hready slot (List.mem_of_getElem? hslot)
  obtain ⟨⟨settings, transaction⟩, hpool, ⟨hslot, hset⟩ | ⟨seed, hseed, hid, hset⟩⟩ :=
    handler_connect_ok hanswer
  · have hidle : transaction = .idle := (hslots id _ hslot).2 rfl
    have hlength : id < pool.slots.length := (List.getElem?_eq_some_iff.mp hslot).1
    subst hidle
    refine ⟨settings, ?_, by rw [hpool], fun other slot hne hfound ↦ ?_⟩
    · unfold At
      rw [hset]
      exact List.getElem?_set_self hlength
    · rw [hset, List.getElem?_set_ne (Ne.symm hne)] at hfound
      exact hslots other slot hfound
  · obtain ⟨-, rfl⟩ := Session.mk.inj hseed
    refine ⟨settings, ?_, by rw [hpool], fun other slot hne hfound ↦ ?_⟩
    · unfold At
      rw [hset, hid]
      simp
    · rw [hset] at hfound
      by_cases hother : other < pool.slots.length
      · rw [List.getElem?_append_left hother] at hfound
        exact hslots other slot hfound
      · rw [List.getElem?_append_right (by omega), List.getElem?_singleton] at hfound
        split_ifs at hfound with hlast
        omega

/-- A pool is ready again after the connection is. -/
theorem ready_of_elsewhere (hothers : OthersReady id pool) (helsewhere : Elsewhere id pool final)
    {slot : Slot (Session Statement)} (hslot : final.slots[id]? = some slot)
    (hplace : slot.place ≠ .leased ∧ (slot.place = .pooled → slot.cell.Idle)) :
    final.Ready Session.Idle := by
  intro found hfound
  obtain ⟨other, hother⟩ := List.mem_iff_getElem?.mp hfound
  by_cases hsame : other = id
  · rw [hsame, hslot] at hother
    exact Option.some.inj hother ▸ hplace
  · rw [helsewhere other hsame] at hother
    exact hothers other found hsame hother

/-- A run that does not commit what it reports is one of a callback that swallows a failure. -/
theorem faithful_or_swallows (hready : pool.Ready Session.Idle)
    (hruns : RunsAlone (poolHandler (sessions binds)) pool (withTransaction fn) log final
      outcome) :
    Faithful pool final log outcome ∨ Swallows fn := by
  obtain ⟨surroundings, connected, answer, remaining, hanswer, rfl, hrest⟩ :=
    runsAlone_perform_bind_iff.mp hruns
  match answer, hanswer, hrest with
  | .error error, hanswer, hrest =>
    obtain rfl := handler_connect_error hanswer
    cases hrest
    exact .inl ⟨nofun, fun _ _ ↦ .inl rfl, hready⟩
  | .ok id, hanswer, hrest =>
    obtain ⟨settings, hat, hshared, hothers⟩ := exists_of_connected hready hanswer
    obtain ⟨early, middle, ended, late, hattempt, hconclude, rfl⟩ := runsAlone_bind_iff.mp hrest
    obtain ⟨transaction, hmiddle, helsewhere, hended⟩ := end_of_attempt hat hattempt
    have hidle : ∀ result, ended = .ok result → transaction = .idle := by
      rintro result rfl
      rcases hended with ⟨_, h, -⟩ | ⟨_, -, hidle, -⟩
      · cases h
      · exact hidle
    obtain ⟨rfl, hfinal, hother, hlate, hslot⟩ := end_of_conclude hmiddle hidle hconclude
    have hreturned : final.Ready Session.Idle := by
      rcases hslot with ⟨session, hslot, hsession, -⟩ | ⟨later, hslot, -⟩
      · exact ready_of_elsewhere hothers (helsewhere.trans hother) hslot
          ⟨by simp, fun _ ↦ hsession⟩
      · exact ready_of_elsewhere hothers (helsewhere.trans hother) hslot ⟨by simp, by simp⟩
    have hreported : reported (⟨PoolOp.connect, Except.ok id⟩ :: (early ++ late)) =
        reported early :=
      (reported_cons_of_none rfl).trans (reported_append_of_nil hlate)
    rcases hended with ⟨rejection, rfl, hkept⟩ | ⟨result, rfl, -, hcommitted | ⟨-, -, hswallows⟩⟩
    · refine .inl ⟨nofun, fun _ _ ↦ ?_, hreturned⟩
      rcases hkept with hkept | rfl
      · exact .inl (hfinal.trans (hkept.trans hshared))
      · rcases hslot with ⟨session, -, -, hnot⟩ | ⟨later, hslot, hlost⟩
        · exact absurd rfl hnot
        · rw [hlost rfl] at hslot
          exact .inr ⟨id, settings, List.mem_cons_self, hslot⟩
    · refine .inl ⟨fun _ _ ↦ ?_, nofun, hreturned⟩
      rw [hreported, hfinal, hcommitted, hshared]
    · exact .inr hswallows

/-! ### A failure that is swallowed -/

/-- The run of a callback in an aborted transaction. -/
theorem exists_run_aborted {bound : Option PrincipalSettings} {more : ℕ} (rows : Rows)
    (hat : At pool id ⟨settings, .aborted bound⟩)
    (hreplay : replay fn (List.replicate more (.error inFailedTransaction)) = some outcome) :
    ∃ log final, RunsAlone (poolHandler (sessions binds)) pool (onConnection id fn) log final
        outcome ∧ Left pool final id ⟨settings, .aborted bound⟩ ∧ reported log = [] := by
  induction fn generalizing pool more with
  | pure ended =>
    cases more with
    | zero =>
      obtain rfl := Option.some.inj hreplay
      exact ⟨[], pool, .pure, ⟨rfl, hat, .refl _ _⟩, rfl⟩
    | succ more => cases hreplay
  | call statement next ih =>
    cases more with
    | zero => cases hreplay
    | succ more =>
      obtain ⟨log, final, hruns, hleft, hreported⟩ :=
        ih (.error inFailedTransaction) (hat.sent ⟨settings, .aborted bound⟩ pool.shared) hreplay
      exact ⟨_, final, (runs_send hat).mpr ⟨.done rows, log, rfl, hruns⟩, hleft.after, hreported⟩

/-- The run of a callback that has a statement fail after others were executed. -/
theorem exists_run_failing {executed : List Statement} {bound : Option PrincipalSettings}
    {rows : List Rows} {failure : PgError} {more : ℕ} (some_ : Rows)
    (hat : At pool id ⟨settings, .active executed bound⟩)
    (hreplay : replay fn (failing rows failure more) = some outcome) :
    ∃ log final bound', RunsAlone (poolHandler (sessions binds)) pool (onConnection id fn) log final
        outcome ∧ Left pool final id ⟨settings, .aborted bound'⟩ ∧
      (reported log).length = rows.length := by
  induction fn generalizing pool rows executed bound with
  | pure ended =>
    cases rows <;> cases hreplay
  | call statement next ih =>
    cases rows with
    | nil =>
      obtain ⟨log, final, hruns, hleft, hreported⟩ :=
        exists_run_aborted some_ (hat.sent ⟨settings, .aborted bound⟩ pool.shared) hreplay
      refine ⟨_, final, bound, (runs_send hat).mpr ⟨.refused failure, log, rfl, hruns⟩,
        hleft.after, ?_⟩
      exact congrArg List.length hreported
    | cons first rows =>
      obtain ⟨log, final, bound', hruns, hleft, hlength⟩ := ih (.ok first)
        (hat.sent ⟨settings, .active (executed ++ [statement]) (rebound binds bound statement)⟩
          pool.shared) hreplay
      refine ⟨_, final, bound', (runs_send hat).mpr ⟨.done first, log, rfl, hruns⟩, hleft.after, ?_⟩
      exact congrArg (· + 1) hlength

end Callback

/-- The whole run, on a new connection of an empty pool. -/
theorem not_commits_of_swallows (binds : Statement → Option PrincipalSettings)
    {fn : Callback Statement Rows Thrown Result} (hswallows : Swallows fn) :
    ¬ CommitsWhatItReports binds fn := by
  obtain ⟨rows, failure, more, result, hrows, hreplay⟩ := hswallows
  obtain ⟨first, rest, rfl⟩ := List.exists_cons_of_ne_nil hrows
  intro hcommits
  let settings : PrincipalSettings := ⟨"", "", "", ""⟩
  let connected : Connections Statement := ⟨[], [⟨.leased, ⟨settings, .idle⟩⟩]⟩
  have hat : At connected 0 ⟨settings, .idle⟩ := rfl
  have hbegun : At (sent connected 0 ⟨settings, .active [] none⟩ []) 0
      ⟨settings, .active [] none⟩ := hat.sent _ _
  obtain ⟨early, middle, bound, hcallback, hleft, hlength⟩ : ∃ log final bound',
      RunsAlone (poolHandler (sessions binds))
          (sent connected 0 ⟨settings, .active [] none⟩ []) (onConnection 0 fn) log final
          (.ok result) ∧
        Left (sent connected 0 ⟨settings, .active [] none⟩ []) final 0
          ⟨settings, .aborted bound'⟩ ∧
        (reported log).length = (first :: rest).length :=
    exists_run_failing first hbegun hreplay
  -- COMMIT answers ROLLBACK, and the run goes on as if it had committed.
  have hrolled : At (sent middle 0 ⟨settings, .idle⟩ middle.shared) 0 ⟨settings, .idle⟩ :=
    hleft.at_.sent _ _
  have hcommit : RunsAlone (poolHandler (sessions binds)) middle
      (commit 0 (.ok result : Except (Rejection Thrown) Result))
      [⟨.send 0 .commit, Except.ok .rollback⟩] (sent middle 0 ⟨settings, .idle⟩ middle.shared)
      (.ok result) :=
    (runs_send hleft.at_).mpr ⟨.done first, [], rfl, .pure⟩
  have hbegan : RunsAlone (poolHandler (sessions binds))
      (sent connected 0 ⟨settings, .active [] none⟩ []) (onConnection 0 fn >>= commit 0)
      (early ++ [⟨.send 0 .commit, Except.ok .rollback⟩])
      (sent middle 0 ⟨settings, .idle⟩ middle.shared) (.ok result) :=
    runsAlone_bind_iff.mpr ⟨early, middle, .ok result, _, hcallback, hcommit, rfl⟩
  have hattempt : RunsAlone (poolHandler (sessions binds)) connected (attempt 0 fn)
      (⟨.send 0 .begin, Except.ok .begin⟩ :: (early ++ [⟨.send 0 .commit, Except.ok .rollback⟩]))
      (sent middle 0 ⟨settings, .idle⟩ middle.shared) (.ok result) :=
    (runs_send hat).mpr ⟨.done first, _, rfl, hbegan⟩
  have hconclude : RunsAlone (poolHandler (sessions binds))
      (sent middle 0 ⟨settings, .idle⟩ middle.shared)
      (conclude 0 (.ok result) : AdapterProgram Statement Rows (Except (Rejection Thrown) Result))
      [⟨.release 0 none, ()⟩]
      (released (sent middle 0 ⟨settings, .idle⟩ middle.shared) 0 ⟨settings, .idle⟩ none)
      (.ok result) :=
    (runs_release hrolled).mpr ⟨[], rfl, .pure⟩
  have hconnect : poolHandler (sessions binds) ⟨[], []⟩ (.connect : AdapterOp Statement)
      ⟨.fresh settings, .done first⟩ = some (connected, .ok 0) := rfl
  have hconnected : RunsAlone (poolHandler (sessions binds)) connected
      (attempt 0 fn >>= conclude 0) _ _ (.ok result) :=
    runsAlone_bind_iff.mpr ⟨_, _, .ok result, _, hattempt, hconclude, rfl⟩
  have hruns : RunsAlone (poolHandler (sessions binds)) ⟨[], []⟩ (withTransaction fn) _ _
      (.ok result) := .call hconnect hconnected
  have hready : Pool.Ready Session.Idle (⟨[], []⟩ : Connections Statement) := nofun
  have hresolved := (hcommits _ _ _ _ hready hruns).resolved result rfl
  have hshared : middle.shared = [] := hleft.shared
  have hreported : reported early = [] := by
    refine Eq.trans ?_ (hresolved.symm.trans hshared)
    rw [List.nil_append]
    exact ((reported_cons_of_none rfl).trans ((reported_append_of_nil rfl).trans
      ((reported_cons_of_none rfl).trans (reported_append_of_nil rfl)))).symm
  rw [hreported] at hlength
  simp at hlength

/-- `withTransaction` commits what it reports exactly for the callbacks that never resolve after one
of their statements was executed and a later one failed. -/
theorem commitsWhatItReports_iff (binds : Statement → Option PrincipalSettings)
    (fn : Callback Statement Rows Thrown Result) :
    CommitsWhatItReports binds fn ↔ ¬ Swallows fn := by
  constructor
  · exact fun hcommits hswallows ↦ not_commits_of_swallows binds hswallows hcommits
  · intro hnot pool final log outcome hready hruns
    exact (faithful_or_swallows hready hruns).resolve_right hnot

/-! ### A receipt that is not kept

A consumer inserts its receipt and then an effect whose key is taken; it catches the failure. -/

namespace Caught

def uniqueViolation : PgError where
  code := .uniqueViolation
  message := "duplicate key value violates unique constraint"
  sqlState := some "23505"

/-- The consumer resolves, whatever its second statement answers. -/
def consumer : Callback String Unit String String :=
  .call "INSERT INTO platform.event_consumer_receipts" fun
    | .error error => .pure (.error (.pg error))
    | .ok _ => .call "INSERT INTO effects" fun _ ↦ .pure (.ok "executed")

end Caught

/-- The consumer is told that its receipt was inserted and resolves, and nothing is committed. -/
theorem not_commitsWhatItReports_caught :
    ¬ CommitsWhatItReports (fun _ ↦ none) Caught.consumer := by
  have hreplay : replay Caught.consumer (failing [()] Caught.uniqueViolation 0) =
      some (.ok "executed") := rfl
  exact not_commits_of_swallows _ ⟨[()], _, 0, "executed", List.cons_ne_nil _ _, hreplay⟩

end Karar.Platform.Adapter
