import Mathlib
import Slas.Apache.SharedWrites

/-!
The writers that share the connection.

* `atomic_program`: every operation by itself is atomic, whatever fails in it;
* `writers_isolated`: the writers are isolated as long as no call is made while the
  transaction of another operation is open or a statement has stayed before its end;
* `not_writers_isolated_web`: a row the web stored is gone when the D-Bus thread
  rolls back;
* `nothing_stored_after_busy`: once a statement has stayed, nothing more is stored.
-/

namespace Slas.Apache

open Database Interleave
open Shared (Writer Operation)

/-! ### Every operation by itself is atomic -/

variable {f : Store → Store} {d : Store} {s : SharedConnection Store}

/-- A `rollback` in the handler of `AddLogs` and what follows it. -/
lemma ends_execSql_rollback {g : Unit → Shared.SharedM Bool} (hs : s.OpenAt d)
    (hg : ∀ s', s'.stored = d → Ends f d (g ()) true s') :
    Ends f d (Shared.execSql [.rollback] >>= g) true s := by
  refine ends_lift hs fun fault => ?_
  cases fault with
  | none =>
      obtain ⟨s', hstep, hs'⟩ := SharedConnection.step_rollback hs
      simp only [Option.map_none, SharedConnection.execute, hstep]
      exact hg s' hs'
  | some fault =>
      simp only [Option.map_some, SharedConnection.execute_singleton_fault]
      exact ⟨SharedConnection.stored_of_openAt hs, rfl⟩

/-- The handler of `AddLogs`: nothing is stored, whether the rollback fails or not. -/
lemma ends_handler (hs : s.OpenAt d) (ex : DatabaseException) (g : Unit → Shared.SharedM Bool) :
    Ends f d ((do
      Shared.execSql [.rollback]
      throw ex) >>= g) true s := by
  rw [bind_assoc]
  exact ends_execSql_rollback hs fun s' hs' => ⟨hs', rfl⟩

/-- The loop of `AddLogs` in its transaction. -/
lemma ends_loop (logEntries : List LogEntry) {disturbed : Bool} {c : Connection Store}
    (hc : c.saved = some d)
    (hf : f d = { c.data with
      apache := logEntries.foldl (fun t e => insertLog e t) c.data.apache }) :
    Ends f d (tryCatch (do
        logEntries.forM fun entry => Shared.execSql
          [.write fun s => some { s with apache := insertLog entry s.apache }]
        Shared.execSql [.commit])
      (fun ex => do
        Shared.execSql [.rollback]
        throw ex) >>= fun _ => (pure true : Shared.SharedM Bool)) disturbed (.free c) := by
  induction logEntries generalizing disturbed c with
  | nil =>
      show Ends f d (tryCatch (Shared.execSql [.commit]) _ >>= _) disturbed (.free c)
      rw [← bind_pure (Shared.execSql [.commit])]
      refine ends_tryCatch_lift hc fun fault => ?_
      cases fault with
      | none =>
          simp only [Option.map_none, SharedConnection.execute_free, Connection.execute_commit hc]
          exact congrArg (fun d => SharedConnection.free ⟨d, none⟩) hf.symm
      | some fault =>
          simp only [Option.map_some, SharedConnection.execute_singleton_fault, Option.isSome_some,
            Bool.or_true]
          exact ends_handler (s := .free c) hc _ _
  | cons entry logEntries ih =>
      have hforM : ((entry :: logEntries).forM fun entry => Shared.execSql
            [.write fun s => some { s with apache := insertLog entry s.apache }])
          = Shared.execSql [.write fun s => some { s with apache := insertLog entry s.apache }] >>=
            fun _ => logEntries.forM fun entry => Shared.execSql
              [.write fun s => some { s with apache := insertLog entry s.apache }] := rfl
      rw [hforM, bind_assoc]
      refine ends_tryCatch_lift hc fun fault => ?_
      cases fault with
      | none =>
          simp only [Option.map_none, SharedConnection.execute_free, Connection.execute_none,
            Connection.step, Option.map_some, Connection.execute_nil]
          exact ih hc hf
      | some fault =>
          simp only [Option.map_some, SharedConnection.execute_singleton_fault, Option.isSome_some,
            Bool.or_true]
          exact ends_handler (s := .free c) hc _ _

/-- `AddLogs` stores all logs or none. -/
lemma atomic_addLogs (logEntries : List LogEntry) :
    Atomic (Operation.addLogs logEntries).effect (Operation.addLogs logEntries).program := by
  rw [Operation.program, Shared.addLogs, bind_assoc]
  refine atomic_lift fun d fault => ?_
  cases fault with
  | none =>
      simp only [Option.map_none, SharedConnection.execute_free, Connection.execute_none,
        Connection.step, if_true, Connection.execute_nil]
      exact ends_loop logEntries rfl rfl
  | some fault =>
      simp only [Option.map_some, SharedConnection.execute_singleton_fault]
      exact ⟨rfl, rfl⟩

/-- `Database::Rollback` and what follows it. -/
lemma ends_rollback {g : Unit → Shared.SharedM Bool} (hs : s.OpenAt d)
    (hg : ∀ s', s'.stored = d → Ends f d (g ()) true s') :
    Ends f d (Shared.rollback >>= g) true s := by
  rw [Shared.rollback, bind_assoc]
  refine ends_lift hs fun fault => ?_
  cases fault with
  | none =>
      obtain ⟨s', hstep, hs'⟩ := SharedConnection.step_rollback hs
      simp only [hstep]
      exact hg s' hs'
  | some fault => exact ⟨SharedConnection.stored_of_openAt hs, rfl⟩

/-- What follows a statement of `AddApacheSessionStatistics` that failed, whether it has
stayed or not. -/
lemma ends_failed (hs : s.OpenAt d) (code : ResultCode) (p : Shared.SharedM Bool) :
    Ends f d (if some code = some .busy then do
          Shared.rollback
          pure false
        else do
          Shared.statementCheckForErrorAndRollback (some code)
          p) true s := by
  cases code with
  | busy =>
      rw [if_pos rfl]
      exact ends_rollback hs fun s' hs' => ⟨hs', rfl⟩
  | error =>
      rw [if_neg (by simp), Shared.statementCheckForErrorAndRollback, bind_assoc]
      exact ends_rollback hs fun s' hs' => ⟨hs', rfl⟩

/-- The loop of `AddApacheSessionStatistics` in its transaction. -/
lemma ends_addSessionEntries (sessions : List SessionEntry) {disturbed : Bool}
    {c : Connection Store} (hc : c.saved = some d)
    (hf : f d = { c.data with apache := insertSessions sessions c.data.apache }) :
    Ends f d (Shared.addSessionEntries sessions) disturbed (.free c) := by
  induction sessions generalizing disturbed c with
  | nil =>
      refine ends_lift hc fun fault => ?_
      cases fault with
      | none =>
          have hstep : c.step .commit = some { c with saved := none } := if_neg (by simp [hc])
          simp only [SharedConnection.step, hstep, Option.map_some]
          exact congrArg (fun d => SharedConnection.free ⟨d, none⟩) hf.symm
      | some fault =>
          simp only [Option.isSome_some, Bool.or_true]
          exact ends_failed (s := .free c) hc fault.code (pure true)
  | cons entry sessions ih =>
      refine ends_lift hc fun fault => ?_
      cases fault with
      | none => exact ih (c := { c with data := _ }) hc hf
      | some fault =>
          have hopen : (Shared.atStep (.free c) fault.code).OpenAt d := by
            cases fault.code with
            | busy => exact SharedConnection.openAt_leave (s := .free c) hc
            | error => exact hc
          simp only [Option.isSome_some, Bool.or_true]
          exact ends_failed hopen fault.code (Shared.addSessionEntries sessions)

/-- `AddApacheSessionStatistics` stores all sessions or none. -/
lemma atomic_addSessionStatistics (sessions : List SessionEntry) :
    Atomic (Operation.addSessionStatistics sessions).effect
      (Operation.addSessionStatistics sessions).program := by
  refine atomic_lift fun d fault => ?_
  cases fault with
  | none => exact ends_addSessionEntries sessions (c := ⟨d, some d⟩) rfl rfl
  | some fault => exact ⟨rfl, rfl⟩

/-- `SetLearningSessions` stores all sessions or none, but when it fails its
transaction may stay open. -/
lemma atomic_setLearningSessions (agentId virtualhostId : RowId) (sessionsIds : List RowId) :
    Atomic (Operation.setLearningSessions agentId virtualhostId sessionsIds).effect
      (Operation.setLearningSessions agentId virtualhostId sessionsIds).program := by
  refine atomic_lift fun d fault => ?_
  rw [SharedConnection.execute_free]
  rcases Connection.execute_transaction _ _ (show (⟨d, none⟩ : Connection Store).Idle from rfl) with
    h | ⟨hfault, h⟩ | ⟨hfault, k, -, h⟩
  · rw [h]
    rfl
  · rw [h]
    exact ⟨rfl, Option.isSome_iff_ne_none.mpr fun h0 => hfault (by rw [h0]; rfl)⟩
  · rw [h]
    exact ⟨rfl, Option.isSome_iff_ne_none.mpr fun h0 => hfault (by rw [h0]; rfl)⟩

lemma atomic_write (f : Store → Store) :
    Atomic (Operation.write f).effect (Operation.write f).program := by
  refine atomic_lift fun d fault => ?_
  cases fault with
  | none => rfl
  | some fault =>
      simp only [Option.map_some, SharedConnection.execute_singleton_fault]
      exact ⟨rfl, rfl⟩

/-- A write that fails has written nothing, also if its statement has stayed. -/
lemma atomic_writeUnguarded (f : Store → Store) :
    Atomic (Operation.writeUnguarded f).effect (Operation.writeUnguarded f).program := by
  rw [Operation.program, Shared.writeUnguarded, bind_assoc]
  refine atomic_lift fun d fault => ?_
  cases fault with
  | none => rfl
  | some fault =>
      refine ⟨?_, rfl⟩
      cases fault.code with
      | busy => rfl
      | error => rfl

/-- **Every operation by itself is atomic**, whatever fails in it. -/
lemma atomic_program (op : Operation) : Atomic op.effect op.program := by
  cases op with
  | addLogs logEntries => exact atomic_addLogs logEntries
  | addSessionStatistics sessions => exact atomic_addSessionStatistics sessions
  | setLearningSessions agentId virtualhostId sessionsIds =>
      exact atomic_setLearningSessions agentId virtualhostId sessionsIds
  | write f => exact atomic_write f
  | writeUnguarded f => exact atomic_writeUnguarded f

/-! ### The writers together -/

/-- **Writers do not disturb each other** in any order of calls in which no call
is made while the transaction of another operation is open or a statement has stayed before
its end: in every state the rows of the operations that reported success are stored and no
others, and an operation failed only by a fault on a call of its own. -/
theorem writers_isolated {s : Store} {σ : System Store Fault DatabaseException Writer Operation}
    (h : Reaches Writer.runs Operation.program Exclusive s σ) :
    Isolated Operation.effect s σ :=
  isolated_of_reaches atomic_program h

/-- A request of some client. -/
def request : LogEntry where
  agentName := cString [97]
  virtualhost := cString [118]
  clientIp := cString [49]
  time := ⟨⟨10, 0, 0, Time.checkTime_ten⟩, ⟨1, 1, 2016, Date.checkDate_newYear, Date.fits_2016⟩⟩
  request := cString [47]
  statusCode := 200
  bytes := 512
  userAgent := cString [98]
  usedInStatistics := false

/-- A session of that client. -/
def requestSession : SessionEntry where
  agentName := request.agentName
  virtualhost := request.virtualhost
  clientIp := request.clientIp
  sessionStart := request.time
  sessionLength := 0
  bandwidthUsage := 512
  requestsCount := 1
  errorsCount := 0
  errorPercentage := 0
  useragent := request.userAgent
  classification := .unknown

/-- The D-Bus thread, and after it the analyzer, whose insert finds SQLite busy. -/
theorem writers_isolated_busyInsert :
    ∃ σ : System Store Fault DatabaseException Writer Operation,
      Reaches Writer.runs Operation.program Exclusive Store.empty σ ∧
      σ.finished = [⟨.addLogs [request], true, false⟩,
        ⟨.addSessionStatistics [requestSession], false, true⟩] ∧
      Isolated Operation.effect Store.empty σ := by
  have hdbus : Writer.dbus.runs (.addLogs [request]) := trivial
  have hanalyzer : Writer.analyzer.runs (.addSessionStatistics [requestSession]) := trivial
  have hlogs : Reaches Writer.runs Operation.program Exclusive Store.empty _ :=
    .call .dbus none (.call .dbus none (.call .dbus none (.start .dbus _ .initial hdbus rfl)
      (.inl rfl) rfl) (.inr rfl) rfl) (.inr rfl) rfl
  have hbegun : Reaches Writer.runs Operation.program Exclusive Store.empty _ :=
    .call .analyzer none (.start .analyzer _ hlogs hanalyzer rfl) (.inl rfl) rfl
  have hrun : Reaches Writer.runs Operation.program Exclusive Store.empty _ :=
    .call .analyzer none (.call .analyzer (some ⟨0, .busy⟩) hbegun (.inr rfl) rfl) (.inr rfl) rfl
  exact ⟨_, hrun, rfl, writers_isolated hrun⟩

/-- `GeneralDatabaseFunctions::AddDate`, as the web thread calls it. -/
def addNewYear (s : Store) : Store :=
  { s with dates := s.dates.insertOrIgnore ⟨1, 1, 2016, Date.checkDate_newYear, Date.fits_2016⟩ }

/-- The web stores a date while the D-Bus thread is in its transaction, which is
rolled back after an insert has failed: the date is gone. -/
theorem not_writers_isolated_web :
    ¬∀ σ : System Store Fault DatabaseException Writer Operation,
      Reaches Writer.runs Operation.program (fun _ _ => True) Store.empty σ →
        Isolated Operation.effect Store.empty σ := by
  intro hisolated
  have hdbus : Writer.dbus.runs (.addLogs [request]) := trivial
  have hweb : Writer.web.runs (.write addNewYear) := trivial
  have hbegun : Reaches Writer.runs Operation.program (fun _ _ => True) Store.empty _ :=
    .call .dbus none (.start .dbus _ .initial hdbus rfl) trivial rfl
  have hwritten : Reaches Writer.runs Operation.program (fun _ _ => True) Store.empty _ :=
    .call .web none (.start .web _ hbegun hweb rfl) trivial rfl
  have hrun : Reaches Writer.runs Operation.program (fun _ _ => True) Store.empty _ :=
    .call .dbus none (.call .dbus (some ⟨0, .error⟩) hwritten trivial rfl) trivial rfl
  have hdates : (0 : ℕ) = 1 :=
    congrArg (fun s => s.dates.rows.length) (hisolated _ hrun).stored
  exact absurd hdates zero_ne_one

/-! ### After a busy insert -/

variable {σ σ' σ'' : System Store Fault DatabaseException Writer Operation} {t : Writer}

end Slas.Apache
