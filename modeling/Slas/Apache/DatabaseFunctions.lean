import Mathlib
import Slas.Lib.Select
import Slas.Database.GeneralDatabaseFunctions

/-!
The statements on the Apache tables,
`server/src/apache/database/database_functions.cpp` and
`server/src/database/database.cpp`.

* logs: `addLogs`, `getUnusedLogsCount`, `getUnusedLogs`, `markLogsAsUsed`;
* sessions: `addApacheSessionStatistics` and the functions of the classifier;
* the learning set: `setLearningSessions`, `removeAllLearningSessions`,
  `getLearningSessionsIds`, `getLearningSessionsCount`.

A `select` with `order by` leaves the order of equal rows to SQLite, and a
`select distinct` the order of the names; `tie` and `NamesOrder` say which order that is.
-/

namespace Slas.Apache

open Database

/-- Writes to the Apache tables. -/
def writeApache (f : Tables → Tables) : DatabaseM Unit :=
  write fun s => { s with apache := f s.apache }

@[simp] lemma exec_writeApache (f : Tables → Tables) (c : Connection Store) : (writeApache f).exec c
    = (.ok (), { c with data := { c.data with apache := f c.data.apache } }) := exec_write c _

/-! ### Logs -/

/-- An `insert into APACHE_LOGS_TABLE`; `USED_IN_STATISTICS` is left to its default. -/
def insertLog (e : LogEntry) (t : Tables) : Tables :=
  { t with logs := t.logs.insert { e with usedInStatistics := false } }

/-- `DatabaseFunctions::AddLogs`. -/
def addLogs (logEntries : List LogEntry) : DatabaseM Unit := do
  execSql [.begin]
  tryCatch
    (do
      logEntries.forM fun entry => writeApache (insertLog entry)
      execSql [.commit])
    fun ex => do
      execSql [.rollback]
      throw ex

/-- The rows `USED_IN_STATISTICS=0` of an agent and a virtualhost. -/
def isUnused (agentName virtualhostName : Text) (r : Row LogEntry) : Bool :=
  (r.val.agentName = agentName && r.val.virtualhost = virtualhostName) && !r.val.usedInStatistics

/-- `DatabaseFunctions::GetUnusedLogsCount`. -/
def getUnusedLogsCount (agentName virtualhostName : Text) : DatabaseM ℕ :=
  query fun s => s.apache.logs.rows.countP (isUnused agentName virtualhostName)

/-- The order of `GetUnusedLogs`: the columns of the time, then what SQLite does
with equal times. -/
def logKey (tie : RowId ↪ ℤ) (r : Row LogEntry) : Timestamp ×ₗ ℤ := toLex (r.val.time, tie r.id)

/-- `DatabaseFunctions::GetUnusedLogs`. -/
def getUnusedLogs (tie : RowId ↪ ℤ) (agentName virtualhostName : Text) (limit offset : ℕ) :
    DatabaseM (List (Row LogEntry)) :=
  query fun s => Select.page limit offset
    (Select.orderBy (logKey tie) (s.apache.logs.rows.filter (isUnused agentName virtualhostName)))

/-- `update APACHE_LOGS_TABLE set USED_IN_STATISTICS=1 where ID in`. -/
def markUsed (ids : List RowId) (t : Tables) : Tables :=
  { t with logs := t.logs.update fun r =>
      { r.val with usedInStatistics := r.val.usedInStatistics || ids.contains r.id } }

/-- `DatabaseFunctions::MarkLogsAsUsed`. -/
def markLogsAsUsed (logs : List (Row LogEntry)) : DatabaseM Unit :=
  writeApache (markUsed (logs.map (·.id) ++ [-1]))

/-! ### Sessions -/

/-- `Database::StatementCheckForError`. -/
def statementCheckForError (returnValue : Option ResultCode) : DatabaseM Unit :=
  match returnValue with
  | none => pure ()
  | some _ => throw .cantExecuteSqlStatementException

/-- `Database::Rollback`. -/
def rollback : DatabaseM Unit := do
  let ret ← tryExec [.rollback]
  statementCheckForError ret

/-- `Database::StatementCheckForErrorAndRollback`. -/
def statementCheckForErrorAndRollback (returnValue : Option ResultCode) : DatabaseM Unit :=
  match returnValue with
  | none => pure ()
  | some _ => do
      rollback
      throw .cantExecuteSqlStatementException

/-- An `insert into APACHE_SESSION_TABLE`. -/
def insertSession (e : SessionEntry) (t : Tables) : Tables :=
  { t with sessions := t.sessions.insert e }

/-- The statement of a session. -/
def sessionStatement (e : SessionEntry) : Statement Store :=
  .write fun s => some { s with apache := insertSession e s.apache }

/-- The loop of `Database::AddApacheSessionStatistics` and the end of the
transaction. A statement from `Prepare` to `Finalize` is one call: only its
`Step` touches the tables and can be busy. A busy one is not finalized; what this does to
the calls after this function is in `Slas.Apache.SharedWrites`. -/
def addSessionEntries : List SessionEntry → DatabaseM Bool
  | [] => do
      let ret ← tryExec [.commit]
      if ret = some .busy then
        rollback
        pure false
      else
        statementCheckForErrorAndRollback ret
        pure true
  | entry :: sessions => do
      let ret ← tryExec [sessionStatement entry]
      if ret = some .busy then
        rollback
        pure false
      else
        statementCheckForErrorAndRollback ret
        addSessionEntries sessions

/-- `Database::AddApacheSessionStatistics`. -/
def addApacheSessionStatistics (sessions : List SessionEntry) : DatabaseM Bool := do
  let ret ← tryExec [.begin]
  statementCheckForError ret
  addSessionEntries sessions

/-- `DatabaseFunctions::AddSessionStatistics`. -/
def addSessionStatistics (sessions : List SessionEntry) : DatabaseM Bool :=
  addApacheSessionStatistics sessions

/-- `DatabaseFunctions::GetVirtualhostNameById`. -/
def getVirtualhostNameById (id : RowId) : DatabaseM Text :=
  queryFirst fun s => s.apache.virtualhostsNames.get? id

/-- The rows of an agent and a virtualhost that have not been classified. -/
def isNotClassified (agentName virtualhostName : Text) (r : Row SessionEntry) : Bool :=
  (r.val.agentName = agentName && r.val.virtualhost = virtualhostName) &&
    r.val.classification = .unknown

/-- `DatabaseFunctions::GetNotClassifiedSessionsStatisticsCount`. -/
def getNotClassifiedSessionsStatisticsCount (agentNameId virtualhostNameId : RowId) :
    DatabaseM ℕ := do
  let agentName ← getAgentNameById agentNameId
  let virtualhostName ← getVirtualhostNameById virtualhostNameId
  query fun s => s.apache.sessions.rows.countP (isNotClassified agentName virtualhostName)

/-- `DatabaseFunctions::GetNotClassifiedSessionStatistics`. -/
def getNotClassifiedSessionStatistics (agentNameId virtualhostNameId : RowId)
    (limit offset : ℕ) : DatabaseM (List (Row SessionEntry)) := do
  let agentName ← getAgentNameById agentNameId
  let virtualhostName ← getVirtualhostNameById virtualhostNameId
  query fun s => Select.page limit offset
    (s.apache.sessions.rows.filter (isNotClassified agentName virtualhostName))

/-- `Database::GetApacheOneSessionStatistic`. Without a row it returns an entry
whose fields have not been set, `unset`. -/
def getOneSessionStatistic (unset : Row SessionEntry) (id : RowId) : DatabaseM (Row SessionEntry) :=
  query fun s => ((s.apache.sessions.get? id).map fun v => ⟨id, v⟩).getD unset

/-- `update APACHE_SESSION_TABLE set CLASSIFICATION`. -/
def setClassification (id : RowId) (classification : Classification) (t : Tables) : Tables :=
  { t with sessions := t.sessions.update fun r =>
      if r.id = id then { r.val with classification } else r.val }

/-- `Database::SetApacheSessionAsAnomaly`, one text. -/
def setApacheSessionAsAnomaly (all anomalies : List RowId) : DatabaseM Unit :=
  execSql (.begin :: (Connection.writes
    (all.map (fun id s => { s with apache := setClassification id .normal s.apache }) ++
      anomalies.map fun id s => { s with apache := setClassification id .anomaly s.apache }) ++
    [.commit]))

/-- `DatabaseFunctions::UpdateSessionStatisticClassification`. -/
def updateSessionStatisticClassification (id : RowId) (classification : Classification) :
    DatabaseM Unit :=
  writeApache (setClassification id classification)

/-! ### Agents and virtualhosts -/

/-- The order in which `select distinct` delivers the agents of the logs and the virtualhosts
of an agent, each of them once. -/
structure NamesOrder where
  agentNames : Table LogEntry → List Text
  virtualhostNames : Table LogEntry → Text → List Text
  nodup_agentNames : ∀ logs, (agentNames logs).Nodup
  mem_agentNames : ∀ logs name, name ∈ agentNames logs ↔ ∃ l ∈ logs.vals, l.agentName = name
  nodup_virtualhostNames : ∀ logs agentName, (virtualhostNames logs agentName).Nodup
  mem_virtualhostNames : ∀ logs agentName name, name ∈ virtualhostNames logs agentName ↔
    ∃ l ∈ logs.vals, l.agentName = agentName ∧ l.virtualhost = name

/-- `DatabaseFunctions::GetAgentNames`, the agents of the logs. -/
def getAgentNames (order : NamesOrder) : DatabaseM (List Text) :=
  query fun s => order.agentNames s.apache.logs

/-- `DatabaseFunctions::GetVirtualhostNames`. -/
def getVirtualhostNames (order : NamesOrder) (agentName : Text) : DatabaseM (List Text) :=
  query fun s => order.virtualhostNames s.apache.logs agentName

/-- `DatabaseFunctions::AddVirtualhostName`. -/
def addVirtualhostName (name : Text) : DatabaseM Unit :=
  writeApache fun t => { t with virtualhostsNames := t.virtualhostsNames.insertOrIgnore name }

/-- `DatabaseFunctions::GetVirtualhostNameId`. -/
def getVirtualhostNameId (name : Text) : DatabaseM RowId :=
  query fun s => (s.apache.virtualhostsNames.idOf? name).getD (-1)

/-- `DatabaseFunctions::AddAndGetVirtualhostNameId`. -/
def addAndGetVirtualhostNameId (name : Text) : DatabaseM RowId := do
  let id ← getVirtualhostNameId name
  if id = -1 then do
    addVirtualhostName name
    getVirtualhostNameId name
  else pure id

/-! ### The learning set -/

/-- The ids of the learning sessions of an agent and a virtualhost, in the order
of their rows. -/
def learningIds (agentId virtualhostId : RowId) (t : Tables) : List RowId :=
  (t.learningSessions.rows.filter fun r =>
    r.val.agentNameId = agentId && r.val.virtualhostNameId = virtualhostId).map (·.val.sessionId)

/-- `DatabaseFunctions::GetLearningSessionsIds`. -/
def getLearningSessionsIds (agentId virtualhostId : RowId) (limit offset : ℕ) :
    DatabaseM (List RowId) :=
  query fun s => Select.page limit offset (learningIds agentId virtualhostId s.apache)

/-- `DatabaseFunctions::GetLearningSessionsCount`. -/
def getLearningSessionsCount (agentId virtualhostId : RowId) : DatabaseM ℕ :=
  query fun s => (learningIds agentId virtualhostId s.apache).length

/-- The `insert or ignore into APACHE_LEARNING_SESSIONS` of a session. -/
def insertLearningSession (agentId virtualhostId id : RowId) (t : Tables) : Tables :=
  { t with learningSessions := t.learningSessions.insertOrIgnore ⟨agentId, virtualhostId, id⟩ }

/-- `DatabaseFunctions::SetLearningSessions`, one text. -/
def setLearningSessions (agentId virtualhostId : RowId) (sessionsIds : List RowId) :
    DatabaseM Unit :=
  execSql (.begin :: (Connection.writes (sessionsIds.map fun id s =>
    { s with apache := insertLearningSession agentId virtualhostId id s.apache }) ++ [.commit]))

/-- `DatabaseFunctions::RemoveAllLearningSessions`. -/
def removeAllLearningSessions (agentId virtualhostId : RowId) : DatabaseM Unit :=
  writeApache fun t => { t with
    learningSessions := t.learningSessions.delete fun r =>
      !(r.val.agentNameId = agentId && r.val.virtualhostNameId = virtualhostId) }

lemma mem_learningIds {agentId virtualhostId id : RowId} {t : Tables} :
    id ∈ learningIds agentId virtualhostId t ↔
      (⟨agentId, virtualhostId, id⟩ : LearningSession) ∈ t.learningSessions.vals := by
  simp only [learningIds, Table.vals, List.mem_map, List.mem_filter, Bool.and_eq_true,
    decide_eq_true_eq]
  constructor
  · rintro ⟨r, ⟨hr, rfl, rfl⟩, rfl⟩
    exact ⟨r, hr, rfl⟩
  · rintro ⟨r, hr, hval⟩
    exact ⟨r, ⟨hr, by rw [hval], by rw [hval]⟩, by rw [hval]⟩

/-- A learning session is there once. -/
lemma nodup_learningIds (agentId virtualhostId : RowId) (t : Tables) :
    (learningIds agentId virtualhostId t).Nodup := by
  refine List.pairwise_map.mpr (List.pairwise_filter.mpr ?_)
  refine t.learningSessions.unique.imp fun {r r'} hne hr hr' hid => hne ?_
  simp only [Bool.and_eq_true, decide_eq_true_eq] at hr hr'
  have hagent := hr.1.trans hr'.1.symm
  have hvirtualhost := hr.2.trans hr'.2.symm
  cases hval : r.val
  cases hval' : r'.val
  simp_all

/-! ### Undisturbed runs -/

@[simp] lemma exec_tryExec_commit {c : Connection Store} {d : Store} (h : c.saved = some d) :
    (tryExec [.commit]).exec c = (.ok none, { c with saved := none }) := by
  simp [tryExec, Connection.step, h]

@[simp] lemma exec_tryExec_sessionStatement (e : SessionEntry) (c : Connection Store) :
    (tryExec [sessionStatement e]).exec c = (.ok none,
      { c with data := { c.data with apache := insertSession e c.data.apache } }) := by
  simp [tryExec, sessionStatement, Connection.step]

/-- Sessions inserted one after another. -/
def insertSessions (sessions : List SessionEntry) (t : Tables) : Tables :=
  sessions.foldl (fun t e => insertSession e t) t

lemma insertSessions_sessions (sessions : List SessionEntry) (t : Tables) :
    (insertSessions sessions t).sessions.vals = t.sessions.vals ++ sessions := by
  induction sessions generalizing t with
  | nil => simp [insertSessions]
  | cons e sessions ih =>
      show (insertSessions sessions (insertSession e t)).sessions.vals = _
      rw [ih]
      simp [insertSession]

/-- Sessions go to their own table. -/
lemma insertSessions_eq (sessions : List SessionEntry) (t : Tables) :
    insertSessions sessions t = { t with sessions := (insertSessions sessions t).sessions } := by
  induction sessions generalizing t with
  | nil => rfl
  | cons e sessions ih => exact ih (insertSession e t)

lemma exec_addSessionEntries (sessions : List SessionEntry) {c : Connection Store} {d : Store}
    (h : c.saved = some d) : (addSessionEntries sessions).exec c
      = (.ok true, ⟨{ c.data with apache := insertSessions sessions c.data.apache }, none⟩) := by
  induction sessions generalizing c with
  | nil =>
      rw [addSessionEntries, Prog.exec_bind_ok (exec_tryExec_commit h)]
      rfl
  | cons e sessions ih =>
      rw [addSessionEntries, Prog.exec_bind_ok (exec_tryExec_sessionStatement e c)]
      exact ih h

/-- An undisturbed call with no transaction open stores all sessions. -/
lemma exec_addSessionStatistics (sessions : List SessionEntry) {c : Connection Store}
    (h : c.Idle) : (addSessionStatistics sessions).exec c
      = (.ok true, ⟨{ c.data with apache := insertSessions sessions c.data.apache }, none⟩) := by
  have hbegin : (tryExec [.begin]).exec c = (.ok none, { c with saved := some c.data }) := by
    simp [tryExec, Connection.step, show c.saved = none from h]
  rw [addSessionStatistics, addApacheSessionStatistics, Prog.exec_bind_ok hbegin]
  exact exec_addSessionEntries sessions (c := { c with saved := some c.data }) rfl

/-! ### What `MarkLogsAsUsed` marks -/

variable {t : Tables}

/-- No row has the id at the end of the list. -/
lemma markUsed_append_neg_one (ids : List RowId) (t : Tables) :
    markUsed (ids ++ [-1]) t = markUsed ids t := by
  have hrows : (markUsed (ids ++ [-1]) t).logs.rows = (markUsed ids t).logs.rows := by
    refine List.map_congr_left fun r hr => ?_
    have hid : r.id ≠ -1 := fun h => absurd (h ▸ t.logs.positive r hr) (by decide)
    simp [hid]
  exact congrArg (fun logs => { t with logs := logs }) (Table.ext_rows hrows)

lemma markUsed_nil (t : Tables) : markUsed [] t = t := by
  have hrows : (markUsed [] t).logs.rows = t.logs.rows := by
    show t.logs.rows.map _ = _
    conv_rhs => rw [← List.map_id t.logs.rows]
    exact List.map_congr_left fun r _ => by simp
  exact congrArg (fun logs => { t with logs := logs }) (Table.ext_rows hrows)

lemma markUsed_markUsed (ids ids' : List RowId) (t : Tables) :
    markUsed ids' (markUsed ids t) = markUsed (ids ++ ids') t := by
  have hrows : (markUsed ids' (markUsed ids t)).logs.rows
      = (markUsed (ids ++ ids') t).logs.rows := by
    show (t.logs.rows.map _).map _ = _
    rw [List.map_map]
    exact List.map_congr_left fun r _ => by simp [Bool.or_assoc]
  exact congrArg (fun logs => { t with logs := logs }) (Table.ext_rows hrows)

end Slas.Apache
