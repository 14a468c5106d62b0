import Mathlib
import Slas.Apache.StatementFunctions

/-!
What a run of any part of the server over `server/src/database/sqlite_wrapper.cpp` does to
the tables and leaves of its statements.

* `Operation`: the functions over prepared statements, with their arguments;
* `statements`, `calls`: what each of them is at the two levels;
* `leaks`: how many statements it leaves if it throws;
* `Client`: a program over them, whatever it makes of their results and exceptions;
* `Ends`: its outcomes, with the number of statements its calls may have left;
* `client_refines`: its outcomes are those it has if each statement is one call;
* `client_statements`: what it leaves of the statements of the connection.
-/

namespace Slas.Apache.SQLite

open Database Database.SQLite

/-- The functions over prepared statements, by the type they return. -/
inductive Operation : Type → Type where
  | addTime (t : Time) : Operation Unit
  | getTimeId (t : Time) : Operation RowId
  | getTimeById (id : RowId) : Operation Time
  | addDate (date : Date) : Operation Unit
  | getDateId (date : Date) : Operation RowId
  | getDateRangeIds (start stop : Date) : Operation (List RowId)
  | getDateById (id : RowId) : Operation Date
  | addAgentName (name : Text) : Operation Unit
  | getAgentsIds : Operation (List RowId)
  | getAgentNameId (name : Text) : Operation RowId
  | getAgentNameById (id : RowId) : Operation Text
  | addSystemUser (uid : ℤ) : Operation Unit
  | getSystemUserId (uid : ℤ) : Operation RowId
  | getSystemUserById (id : RowId) : Operation ℤ
  | getSystemUsersIdsFromLogs (agentNameId : RowId) : Operation (List RowId)
  | addCommand (command : Text) : Operation Unit
  | getCommandId (command : Text) : Operation RowId
  | getAllCommandsIds : Operation (List RowId)
  | addLog (log : Bash.Log) : Operation Unit
  | addLogs (logEntries : List LogEntry) : Operation Unit
  | getUnusedLogsCount (agentName virtualhostName : Text) : Operation ℕ
  | getUnusedLogs (tie : RowId ↪ ℤ) (agentName virtualhostName : Text) (limit offset : ℕ) :
      Operation (List (Row LogEntry))
  | markLogsAsUsed (logs : List (Row LogEntry)) : Operation Unit
  | getVirtualhostNameById (id : RowId) : Operation Text
  | getNotClassifiedSessionsStatisticsCount (agentNameId virtualhostNameId : RowId) : Operation ℕ
  | getNotClassifiedSessionStatistics (agentNameId virtualhostNameId : RowId)
      (limit offset : ℕ) : Operation (List (Row SessionEntry))
  | updateSessionStatisticClassification (id : RowId) (classification : Classification) :
      Operation Unit
  | addVirtualhostName (name : Text) : Operation Unit
  | getVirtualhostNameId (name : Text) : Operation RowId
  | getLearningSessionsIds (agentId virtualhostId : RowId) (limit offset : ℕ) :
      Operation (List RowId)
  | getLearningSessionsCount (agentId virtualhostId : RowId) : Operation ℕ
  | setLearningSessions (agentId virtualhostId : RowId) (sessionsIds : List RowId) :
      Operation Unit
  | removeAllLearningSessions (agentId virtualhostId : RowId) : Operation Unit

namespace Operation

/-- The function as it prepares, steps and finalizes statements. -/
def statements : ∀ β, Operation β → SQLiteM β
  | _, addTime t => Database.SQLite.addTime t
  | _, getTimeId t => Database.SQLite.getTimeId t
  | _, getTimeById id => Database.SQLite.getTimeById id
  | _, addDate date => Database.SQLite.addDate date
  | _, getDateId date => Database.SQLite.getDateId date
  | _, getDateRangeIds start stop => Database.SQLite.getDateRangeIds start stop
  | _, getDateById id => Database.SQLite.getDateById id
  | _, addAgentName name => Database.SQLite.addAgentName name
  | _, getAgentsIds => Database.SQLite.getAgentsIds
  | _, getAgentNameId name => Database.SQLite.getAgentNameId name
  | _, getAgentNameById id => Database.SQLite.getAgentNameById id
  | _, addSystemUser uid => Database.SQLite.addSystemUser uid
  | _, getSystemUserId uid => Database.SQLite.getSystemUserId uid
  | _, getSystemUserById id => Database.SQLite.getSystemUserById id
  | _, getSystemUsersIdsFromLogs agentNameId =>
      Database.SQLite.getSystemUsersIdsFromLogs agentNameId
  | _, addCommand command => Database.SQLite.addCommand command
  | _, getCommandId command => Database.SQLite.getCommandId command
  | _, getAllCommandsIds => Database.SQLite.getAllCommandsIds
  | _, addLog log => Database.SQLite.addLog log
  | _, addLogs logEntries => SQLite.addLogs logEntries
  | _, getUnusedLogsCount agentName virtualhostName =>
      SQLite.getUnusedLogsCount agentName virtualhostName
  | _, getUnusedLogs tie agentName virtualhostName limit offset =>
      SQLite.getUnusedLogs tie agentName virtualhostName limit offset
  | _, markLogsAsUsed logs => SQLite.markLogsAsUsed logs
  | _, getVirtualhostNameById id => SQLite.getVirtualhostNameById id
  | _, getNotClassifiedSessionsStatisticsCount agentNameId virtualhostNameId =>
      SQLite.getNotClassifiedSessionsStatisticsCount agentNameId virtualhostNameId
  | _, getNotClassifiedSessionStatistics agentNameId virtualhostNameId limit offset =>
      SQLite.getNotClassifiedSessionStatistics agentNameId virtualhostNameId limit offset
  | _, updateSessionStatisticClassification id classification =>
      SQLite.updateSessionStatisticClassification id classification
  | _, addVirtualhostName name => SQLite.addVirtualhostName name
  | _, getVirtualhostNameId name => SQLite.getVirtualhostNameId name
  | _, getLearningSessionsIds agentId virtualhostId limit offset =>
      SQLite.getLearningSessionsIds agentId virtualhostId limit offset
  | _, getLearningSessionsCount agentId virtualhostId =>
      SQLite.getLearningSessionsCount agentId virtualhostId
  | _, setLearningSessions agentId virtualhostId sessionsIds =>
      SQLite.setLearningSessions agentId virtualhostId sessionsIds
  | _, removeAllLearningSessions agentId virtualhostId =>
      SQLite.removeAllLearningSessions agentId virtualhostId

/-- The function by calls: a statement from its `Prepare` to its `Finalize` is one of them, and
so is an `Exec`. `AddLogs` makes one to begin, one for each log and one to commit or roll back;
the two `GetNotClassified…` ask for both names first. The others make one. -/
def calls : ∀ β, Operation β → DatabaseM β
  | _, addTime t => Database.addTime t
  | _, getTimeId t => Database.getTimeId t
  | _, getTimeById id => Database.getTimeById id
  | _, addDate date => Database.addDate date
  | _, getDateId date => Database.getDateId date
  | _, getDateRangeIds start stop => Database.getDateRangeIds start stop
  | _, getDateById id => Database.getDateById id
  | _, addAgentName name => Database.addAgentName name
  | _, getAgentsIds => Database.getAgentsIds
  | _, getAgentNameId name => Database.getAgentNameId name
  | _, getAgentNameById id => Database.getAgentNameById id
  | _, addSystemUser uid => Bash.Raw.addSystemUser uid
  | _, getSystemUserId uid => Bash.Raw.getSystemUserId uid
  | _, getSystemUserById id => Bash.Raw.getSystemUserById id
  | _, getSystemUsersIdsFromLogs agentNameId => Bash.Raw.getSystemUsersIdsFromLogs agentNameId
  | _, addCommand command => Bash.Raw.addCommand command
  | _, getCommandId command => Bash.Raw.getCommandId command
  | _, getAllCommandsIds => Bash.Raw.getAllCommandsIds
  | _, addLog log => Bash.Raw.addLog log
  | _, addLogs logEntries => Apache.addLogs logEntries
  | _, getUnusedLogsCount agentName virtualhostName =>
      Apache.getUnusedLogsCount agentName virtualhostName
  | _, getUnusedLogs tie agentName virtualhostName limit offset =>
      Apache.getUnusedLogs tie agentName virtualhostName limit offset
  | _, markLogsAsUsed logs => Apache.markLogsAsUsed logs
  | _, getVirtualhostNameById id => Apache.getVirtualhostNameById id
  | _, getNotClassifiedSessionsStatisticsCount agentNameId virtualhostNameId =>
      Apache.getNotClassifiedSessionsStatisticsCount agentNameId virtualhostNameId
  | _, getNotClassifiedSessionStatistics agentNameId virtualhostNameId limit offset =>
      Apache.getNotClassifiedSessionStatistics agentNameId virtualhostNameId limit offset
  | _, updateSessionStatisticClassification id classification =>
      Apache.updateSessionStatisticClassification id classification
  | _, addVirtualhostName name => Apache.addVirtualhostName name
  | _, getVirtualhostNameId name => Apache.getVirtualhostNameId name
  | _, getLearningSessionsIds agentId virtualhostId limit offset =>
      Apache.getLearningSessionsIds agentId virtualhostId limit offset
  | _, getLearningSessionsCount agentId virtualhostId =>
      Apache.getLearningSessionsCount agentId virtualhostId
  | _, setLearningSessions agentId virtualhostId sessionsIds =>
      Apache.setLearningSessions agentId virtualhostId sessionsIds
  | _, removeAllLearningSessions agentId virtualhostId =>
      Apache.removeAllLearningSessions agentId virtualhostId

/-- The statements that are left if the function throws, at most. -/
def leaks : ∀ β, Operation β → ℕ
  | _, getTimeById _ => 1
  | _, getDateById _ => 1
  | _, getUnusedLogsCount _ _ => 1
  | _, getUnusedLogs _ _ _ _ _ => 1
  | _, getNotClassifiedSessionsStatisticsCount _ _ => 1
  | _, getNotClassifiedSessionStatistics _ _ _ _ => 1
  | _, _ => 0

/-- **Each function does what it does by calls**, and leaves no more statements than this. -/
lemma implements {β : Type} (op : Operation β) :
    Implements (op.leaks β) (op.statements β) (op.calls β) := by
  cases op with
  | addTime t => exact implements_addTime t
  | getTimeId t => exact implements_getTimeId t
  | getTimeById id => exact implements_getTimeById id
  | addDate date => exact implements_addDate date
  | getDateId date => exact implements_getDateId date
  | getDateRangeIds start stop => exact implements_getDateRangeIds start stop
  | getDateById id => exact implements_getDateById id
  | addAgentName name => exact implements_addAgentName name
  | getAgentsIds => exact implements_getAgentsIds
  | getAgentNameId name => exact implements_getAgentNameId name
  | getAgentNameById id => exact implements_getAgentNameById id
  | addSystemUser uid => exact implements_addSystemUser uid
  | getSystemUserId uid => exact implements_getSystemUserId uid
  | getSystemUserById id => exact implements_getSystemUserById id
  | getSystemUsersIdsFromLogs agentNameId => exact implements_getSystemUsersIdsFromLogs agentNameId
  | addCommand command => exact implements_addCommand command
  | getCommandId command => exact implements_getCommandId command
  | getAllCommandsIds => exact implements_getAllCommandsIds
  | addLog log => exact implements_addLog log
  | addLogs logEntries => exact implements_addLogs logEntries
  | getUnusedLogsCount agentName virtualhostName =>
      exact implements_getUnusedLogsCount agentName virtualhostName
  | getUnusedLogs tie agentName virtualhostName limit offset =>
      exact implements_getUnusedLogs tie agentName virtualhostName limit offset
  | markLogsAsUsed logs => exact implements_markLogsAsUsed logs
  | getVirtualhostNameById id => exact implements_getVirtualhostNameById id
  | getNotClassifiedSessionsStatisticsCount agentNameId virtualhostNameId =>
      exact implements_getNotClassifiedSessionsStatisticsCount agentNameId virtualhostNameId
  | getNotClassifiedSessionStatistics agentNameId virtualhostNameId limit offset =>
      exact implements_getNotClassifiedSessionStatistics agentNameId virtualhostNameId limit offset
  | updateSessionStatisticClassification id classification =>
      exact implements_updateSessionStatisticClassification id classification
  | addVirtualhostName name => exact implements_addVirtualhostName name
  | getVirtualhostNameId name => exact implements_getVirtualhostNameId name
  | getLearningSessionsIds agentId virtualhostId limit offset =>
      exact implements_getLearningSessionsIds agentId virtualhostId limit offset
  | getLearningSessionsCount agentId virtualhostId =>
      exact implements_getLearningSessionsCount agentId virtualhostId
  | setLearningSessions agentId virtualhostId sessionsIds =>
      exact implements_setLearningSessions agentId virtualhostId sessionsIds
  | removeAllLearningSessions agentId virtualhostId =>
      exact implements_removeAllLearningSessions agentId virtualhostId

end Operation

/-- A part of the server: a program over the functions, whatever it makes of what they
return or throw. -/
abbrev Client : Type → Type 1 := Prog.Client Operation DatabaseException

variable {α : Type}

/-- **No part of the server can tell that a statement is more than one call**: whatever fails
at whichever `Prepare`, `Bind`, `Step` and `Exec` of a run, it ends as a run in which the
functions make calls and some of these fail. -/
theorem client_refines (p : Client α) (env : ℕ → Option Fault) (n : ℕ) {s : Session}
    (hs : s.WellFormed) : ∃ env' n', (p.interp Operation.calls).run env' n s.connection
      = (((p.interp Operation.statements).run env n s).1, n',
        ((p.interp Operation.statements).run env n s).2.2.connection) := by
  have hrefines : Prog.Refines Session.WellFormed Session.connection
      (p.interp Operation.statements) (p.interp Operation.calls) :=
    Prog.Client.refines_interp (fun β op s hs r t hcan =>
      ⟨(op.implements s hs r t hcan).1.wellFormed hs, (op.implements s hs r t hcan).2⟩) p
  exact (Prog.can_iff n).mp (hrefines s hs _ _ (Prog.can_run _ env n s)).2

/-- A connection that was just opened: nothing is prepared on it. -/
def newSession : Session where
  isOpen := true
  connection := ⟨Store.empty, none⟩
  statements := []
  next := 0
  misused := false

lemma wellFormed_newSession : newSession.WellFormed := fun _ hp => absurd hp List.not_mem_nil

/-- A client that reads one date. -/
def firstDate : Client Date := .call (.getDateById 1) fun
  | .ok date => .pure date
  | .error e => .throw e

/-- The first `Step` finds the connection busy. -/
def busyStep : ℕ → Option Fault := fun n => if n = 3 then some ⟨0, .busy⟩ else none

theorem client_refines_firstDate : ∃ env' n',
    (firstDate.interp Operation.calls).run env' 0 newSession.connection
      = (.error .cantExecuteSqlStatementException, n', newSession.connection) :=
  client_refines firstDate busyStep 0 wellFormed_newSession

/-- What a part of the server leaves of the statements, by its calls. -/
private lemma grown_of_ends (p : Client α) {s t : Session} (hs : s.WellFormed) {n : ℕ}
    {r : Except DatabaseException α} (h : p.Ends Operation.statements Operation.leaks s n r t) :
    Session.Grown n s t := by
  induction p generalizing s n with
  | pure a =>
      obtain ⟨rfl, -, rfl⟩ := h
      exact .refl 0 t
  | throw e =>
      obtain ⟨rfl, -, rfl⟩ := h
      exact .refl 0 t
  | call op k ih =>
      obtain ⟨r₁, s₁, n₁, hcan, hk, rfl⟩ := h
      have hgrown := (op.implements s hs r₁ s₁ hcan).1
      have hrest := ih r₁ (hgrown.wellFormed hs) hk
      cases r₁ with
      | ok b => exact hgrown.trans hrest
      | error e => exact hgrown.trans hrest

/-- **What a part of the server leaves of the statements**: those of before are all there,
none is used before its `Prepare` or after its `Finalize`, no column is read without a row,
and no more statements are left than the calls that threw may leave. -/
theorem client_statements (p : Client α) {s t : Session} (hs : s.WellFormed) {n : ℕ}
    {r : Except DatabaseException α} (h : p.Ends Operation.statements Operation.leaks s n r t) :
    s.statements <:+ t.statements ∧ t.statements.length ≤ s.statements.length + n ∧
      t.misused = s.misused := by
  have hgrown := grown_of_ends p hs h
  obtain ⟨extra, heq, -, -⟩ := hgrown.exists_extra
  exact ⟨⟨extra, heq.symm⟩, hgrown.length_le.2, hgrown.misused_eq⟩

/-- The session the busy `Step` leaves. -/
def afterBusyStep : Session :=
  ((firstDate.interp Operation.statements).run busyStep 0 newSession).2.2

/-- A statement is left there, as `GetDateById` may leave one. -/
theorem client_statements_firstDate : afterBusyStep.statements.length = 1 ∧
    newSession.statements <:+ afterBusyStep.statements ∧
      afterBusyStep.statements.length ≤ newSession.statements.length + 1 ∧
        afterBusyStep.misused = false :=
  ⟨rfl, client_statements firstDate wellFormed_newSession
    ⟨.error .cantExecuteSqlStatementException, afterBusyStep, 0,
      Prog.can_run (Operation.statements _ (.getDateById 1)) busyStep 0 newSession,
      ⟨rfl, rfl, rfl⟩, rfl⟩⟩

end Slas.Apache.SQLite
