import Mathlib
import Slas.Apache.DatabaseFunctions
import Slas.Database.StatementFunctions

/-!
`server/src/apache/database/database_functions.cpp`, statement by statement.

* `logColumns`, `readLog`: the columns of a log in the `select` of `GetUnusedLogs` and the
  calls that read them, with `reads_readLog`;
* `logOfParameters`, `bindLog`: the placeholders of the `insert` of `AddLogs` and the calls
  that give them their values, with `runs_bindLog`;
* `sessionColumns`, `readSession`: the same of a session;
* `addLogs` to `removeAllLearningSessions`: the functions;
* `implements_…`: each of them does what the function of `Slas.Apache` with its name does.

The functions that read logs and sessions do not finalize their statement when they fail.
-/

namespace Slas.Apache.SQLite

open Database Database.SQLite

/-! ### The columns of a log -/

/-- The columns `GetUnusedLogs` selects, in order. -/
def logColumns (r : Row LogEntry) : List Value :=
  [.integer r.id, .text r.val.agentName, .text r.val.virtualhost, .text r.val.clientIp,
    .integer r.val.time.time.hour, .integer r.val.time.time.minute,
    .integer r.val.time.time.second, .integer r.val.time.date.day,
    .integer r.val.time.date.month, .integer r.val.time.date.year, .text r.val.request,
    .integer r.val.statusCode, .integer r.val.bytes, .text r.val.userAgent]

/-- The six columns of a time, from the first of them on. -/
def readTimestamp (first handle : ℕ) : SQLiteM Timestamp := do
  let hour ← columnInt handle first
  let minute ← columnInt handle (first + 1)
  let second ← columnInt handle (first + 2)
  let day ← columnInt handle (first + 3)
  let month ← columnInt handle (first + 4)
  let year ← columnInt handle (first + 5)
  checked (Timestamp.create? (Int32.ofInt hour) (Int32.ofInt minute) (Int32.ofInt second)
    (Int32.ofInt day) (Int32.ofInt month) (Int32.ofInt year))

/-- A round of the loop of `GetUnusedLogs`. -/
def readLog (handle : ℕ) : SQLiteM (Row LogEntry) := do
  let id ← columnInt64 handle 0
  let agentName ← columnText handle 1
  let virtualhost ← columnText handle 2
  let clientIp ← columnText handle 3
  let time ← readTimestamp 4 handle
  let request ← columnText handle 10
  let statusCode ← columnInt handle 11
  let bytes ← columnInt handle 12
  let userAgent ← columnText handle 13
  -- the entry has no field for the column `USED_IN_STATISTICS`
  pure ⟨id, ⟨agentName, virtualhost, clientIp, time, request, statusCode, bytes, userAgent, false⟩⟩

/-- The numbers of a time make it up again. -/
lemma create?_ofInts (t : Timestamp) : Timestamp.create? (Int32.ofInt t.time.hour)
    (Int32.ofInt t.time.minute) (Int32.ofInt t.time.second) (Int32.ofInt t.date.day)
    (Int32.ofInt t.date.month) (Int32.ofInt t.date.year) = some t := by
  rw [Timestamp.create?, create?_ofInts_time, create?_ofInts_date]
  rfl

/-- The six columns of a time are read back. -/
lemma reads_readTimestamp {first : ℕ} {row : List Value} {t : Timestamp}
    (hour : row.getD first .null = .integer t.time.hour)
    (minute : row.getD (first + 1) .null = .integer t.time.minute)
    (second : row.getD (first + 2) .null = .integer t.time.second)
    (day : row.getD (first + 3) .null = .integer t.date.day)
    (month : row.getD (first + 4) .null = .integer t.date.month)
    (year : row.getD (first + 5) .null = .integer t.date.year) :
    Reads (readTimestamp first) row t :=
  .bind (.columnInt hour) <| .bind (.columnInt minute) <| .bind (.columnInt second) <|
    .bind (.columnInt day) <| .bind (.columnInt month) <| .bind (.columnInt year) <|
      reads_checked (create?_ofInts t)

/-- **A log is read back from its columns**, as one that is not used. -/
lemma reads_readLog (r : Row LogEntry) :
    Reads readLog (logColumns r) ⟨r.id, { r.val with usedInStatistics := false }⟩ :=
  .bind (.columnInt64 rfl) <| .bind (.columnText rfl) <| .bind (.columnText rfl) <|
    .bind (.columnText rfl) <| .bind (reads_readTimestamp rfl rfl rfl rfl rfl rfl) <|
      .bind (.columnText rfl) <| .bind (.columnInt rfl) <| .bind (.columnInt rfl) <|
        .bind (.columnText rfl) <| .pure _

/-! ### The placeholders of a log -/

/-- A text that was given to a placeholder. -/
def textOf : Value → Option Text
  | .text t => some t
  | _ => none

/-- A number that was given to a placeholder. -/
def integerOf : Value → Option ℤ
  | .integer n => some n
  | _ => none

/-- The row the `insert` of `AddLogs` makes of its placeholders. -/
def logOfParameters (p : Parameters) : Option LogEntry := do
  let agentName ← textOf (p 1)
  let virtualhost ← textOf (p 2)
  let clientIp ← textOf (p 3)
  let hour ← integerOf (p 4)
  let minute ← integerOf (p 5)
  let second ← integerOf (p 6)
  let day ← integerOf (p 7)
  let month ← integerOf (p 8)
  let year ← integerOf (p 9)
  let time ← Timestamp.create? (Int32.ofInt hour) (Int32.ofInt minute) (Int32.ofInt second)
    (Int32.ofInt day) (Int32.ofInt month) (Int32.ofInt year)
  let request ← textOf (p 10)
  let statusCode ← integerOf (p 11)
  let bytes ← integerOf (p 12)
  let userAgent ← textOf (p 13)
  pure ⟨agentName, virtualhost, clientIp, time, request, statusCode, bytes, userAgent, false⟩

/-- The placeholders `AddLogs` binds for an entry, in order. -/
def bindLog (handle : ℕ) (entry : LogEntry) : SQLiteM Unit := do
  bindText handle 1 entry.agentName
  bindText handle 2 entry.virtualhost
  bindText handle 3 entry.clientIp
  bindInt handle 4 entry.time.time.hour
  bindInt handle 5 entry.time.time.minute
  bindInt handle 6 entry.time.time.second
  bindInt handle 7 entry.time.date.day
  bindInt handle 8 entry.time.date.month
  bindInt handle 9 entry.time.date.year
  bindText handle 10 entry.request
  bindInt handle 11 entry.statusCode
  bindInt handle 12 entry.bytes
  bindText handle 13 entry.userAgent

/-- Their values. -/
def logValues (entry : LogEntry) : List Value :=
  [.text entry.agentName, .text entry.virtualhost, .text entry.clientIp,
    .integer entry.time.time.hour, .integer entry.time.time.minute,
    .integer entry.time.time.second, .integer entry.time.date.day,
    .integer entry.time.date.month, .integer entry.time.date.year, .text entry.request,
    .integer entry.statusCode, .integer entry.bytes, .text entry.userAgent]

lemma bindLog_eq (handle : ℕ) (entry : LogEntry) :
    bindLog handle entry = bindAll handle 1 (logValues entry) := by
  simp only [bindLog, bindAll, logValues, bindText, bindInt, bind_pure_unit]

/-- **The row of the bound placeholders is the entry**, as one that is not used. -/
lemma logOfParameters_bound (sql : Sql) (entry : LogEntry) :
    logOfParameters (PreparedStatement.bound sql (logValues entry)).parameters
      = some { entry with usedInStatistics := false } := by
  simp [logOfParameters, PreparedStatement.bound, logValues, textOf, integerOf, create?_ofInts]

/-! ### The columns of a session -/

/-- The number of a `Classification`. -/
def classificationNumber : Classification → ℤ
  | .unknown => 0
  | .normal => 1
  | .anomaly => 2

/-- The `static_cast` of a number that is one of them. -/
def classificationOf : ℤ → Classification
  | 0 => .unknown
  | 1 => .normal
  | _ => .anomaly

/-- The columns of a session that the `select`s list, in order. -/
def sessionColumns (r : Row SessionEntry) : List Value :=
  [.integer r.id, .text r.val.agentName, .text r.val.virtualhost, .text r.val.clientIp,
    .integer r.val.sessionStart.time.hour, .integer r.val.sessionStart.time.minute,
    .integer r.val.sessionStart.time.second, .integer r.val.sessionStart.date.day,
    .integer r.val.sessionStart.date.month, .integer r.val.sessionStart.date.year,
    .integer r.val.sessionLength, .integer r.val.bandwidthUsage, .integer r.val.requestsCount,
    .integer r.val.errorsCount, .real r.val.errorPercentage, .text r.val.useragent,
    .integer (classificationNumber r.val.classification)]

/-- A round of the loop of `GetNotClassifiedSessionStatistics`. -/
def readSession (handle : ℕ) : SQLiteM (Row SessionEntry) := do
  let id ← columnInt64 handle 0
  let agentName ← columnText handle 1
  let virtualhost ← columnText handle 2
  let clientIp ← columnText handle 3
  let sessionStart ← readTimestamp 4 handle
  let sessionLength ← columnInt64 handle 10
  let bandwidthUsage ← columnInt64 handle 11
  let requestsCount ← columnInt64 handle 12
  let errorsCount ← columnInt64 handle 13
  let errorPercentage ← columnDouble handle 14
  let useragent ← columnText handle 15
  let classification ← columnInt handle 16
  pure ⟨id, ⟨agentName, virtualhost, clientIp, sessionStart, sessionLength, bandwidthUsage,
    requestsCount, errorsCount, errorPercentage, useragent, classificationOf classification⟩⟩

/-- **A session is read back from its columns.** -/
lemma reads_readSession (r : Row SessionEntry) : Reads readSession (sessionColumns r) r := by
  refine .bind (.columnInt64 rfl) <| .bind (.columnText rfl) <| .bind (.columnText rfl) <|
    .bind (.columnText rfl) <| .bind (reads_readTimestamp rfl rfl rfl rfl rfl rfl) <|
      .bind (.columnInt64 rfl) <| .bind (.columnInt64 rfl) <| .bind (.columnInt64 rfl) <|
        .bind (.columnInt64 rfl) <| .bind (.columnDouble rfl) <| .bind (.columnText rfl) <|
          .bind (.columnInt rfl) ?_
  have hclassification : classificationOf (classificationNumber r.val.classification)
      = r.val.classification := by
    cases r.val.classification <;> rfl
  rw [hclassification]
  exact .pure r

/-! ### The functions -/

/-- `DatabaseFunctions::AddLogs`. -/
def addLogs (logEntries : List LogEntry) : SQLiteM Unit := do
  exec [.begin]
  tryCatch
    (do
      logEntries.forM fun entry => do
        let handle ← prepare (.modify fun p => .write fun s =>
          (logOfParameters p).map fun e => { s with apache := insertLog e s.apache })
        guarded handle do
          bindLog handle entry
          let _ ← step handle
          pure ()
      exec [.commit])
    fun ex => do
      exec [.rollback]
      throw ex

/-- The condition of the texts that select unused logs. -/
def isUnusedOf (p : Parameters) (r : Row LogEntry) : Bool :=
  (isText (p 1) r.val.agentName && isText (p 2) r.val.virtualhost) && !r.val.usedInStatistics

/-- `DatabaseFunctions::GetUnusedLogsCount`. A number of rows is not negative. -/
def getUnusedLogsCount (agentName virtualhostName : Text) : SQLiteM ℕ := do
  let handle ← prepare (selectIntegers fun p s => [(s.apache.logs.rows.countP (isUnusedOf p) : ℕ)])
  let count ← unguarded handle do
    bindText handle 1 agentName
    bindText handle 2 virtualhostName
    let _ ← step handle
    columnInt64 handle 0
  pure count.toNat

/-- `DatabaseFunctions::GetUnusedLogs`. -/
def getUnusedLogs (tie : RowId ↪ ℤ) (agentName virtualhostName : Text) (limit offset : ℕ) :
    SQLiteM (List (Row LogEntry)) := do
  let handle ← prepare (.select fun p s => (Select.page limit offset
    (Select.orderBy (logKey tie) (s.apache.logs.rows.filter (isUnusedOf p)))).map logColumns)
  unguarded handle do
    bindText handle 1 agentName
    bindText handle 2 virtualhostName
    stepAll handle (readLog handle)

/-- `DatabaseFunctions::MarkLogsAsUsed`. -/
def markLogsAsUsed (logs : List (Row LogEntry)) : SQLiteM Unit :=
  exec [.write fun s => some { s with
    apache := markUsed (logs.map (·.id) ++ [-1]) s.apache }]

/-- `DatabaseFunctions::GetVirtualhostNameById`. -/
def getVirtualhostNameById (id : RowId) : SQLiteM Text := do
  let handle ← prepare (.select fun _ s =>
    (s.apache.virtualhostsNames.rows.filter fun r => r.id = id).map fun r => [.text r.val])
  let name ← guarded handle (stepFirst handle (columnText handle 0))
  found .itemNotFoundException name

/-- The condition of the texts that select sessions that are not classified. -/
def isNotClassifiedOf (p : Parameters) (r : Row SessionEntry) : Bool :=
  (isText (p 1) r.val.agentName && isText (p 2) r.val.virtualhost) &&
    classificationNumber r.val.classification = 0

/-- `DatabaseFunctions::GetNotClassifiedSessionsStatisticsCount`. -/
def getNotClassifiedSessionsStatisticsCount (agentNameId virtualhostNameId : RowId) :
    SQLiteM ℕ := do
  let agentName ← getAgentNameById agentNameId
  let virtualhostName ← getVirtualhostNameById virtualhostNameId
  let handle ← prepare (selectIntegers fun p s =>
    [(s.apache.sessions.rows.countP (isNotClassifiedOf p) : ℕ)])
  let count ← unguarded handle do
    bindText handle 1 agentName
    bindText handle 2 virtualhostName
    let _ ← step handle
    columnInt64 handle 0
  pure count.toNat

/-- `DatabaseFunctions::GetNotClassifiedSessionStatistics`. -/
def getNotClassifiedSessionStatistics (agentNameId virtualhostNameId : RowId)
    (limit offset : ℕ) : SQLiteM (List (Row SessionEntry)) := do
  let agentName ← getAgentNameById agentNameId
  let virtualhostName ← getVirtualhostNameById virtualhostNameId
  let handle ← prepare (.select fun p s => (Select.page limit offset
    (s.apache.sessions.rows.filter (isNotClassifiedOf p))).map sessionColumns)
  unguarded handle do
    bindText handle 1 agentName
    bindText handle 2 virtualhostName
    stepAll handle (readSession handle)

/-- `DatabaseFunctions::UpdateSessionStatisticClassification`. -/
def updateSessionStatisticClassification (id : RowId) (classification : Classification) :
    SQLiteM Unit :=
  exec [.write fun s => some { s with apache := setClassification id classification s.apache }]

/-- `DatabaseFunctions::AddVirtualhostName`. -/
def addVirtualhostName (name : Text) : SQLiteM Unit := do
  let handle ← prepare (.modify fun p => .write fun s => (textOf (p 1)).map fun name =>
    { s with apache := { s.apache with
      virtualhostsNames := s.apache.virtualhostsNames.insertOrIgnore name } })
  guarded handle do
    bindText handle 1 name
    let _ ← step handle
    pure ()

/-- `DatabaseFunctions::GetVirtualhostNameId`. -/
def getVirtualhostNameId (name : Text) : SQLiteM RowId := do
  let handle ← prepare (selectIdOfText fun s => s.apache.virtualhostsNames.rows)
  let id ← guarded handle do
    bindText handle 1 name
    stepFirst handle (columnInt64 handle 0)
  pure (id.getD (-1))

/-- `DatabaseFunctions::GetLearningSessionsIds`. -/
def getLearningSessionsIds (agentId virtualhostId : RowId) (limit offset : ℕ) :
    SQLiteM (List RowId) := do
  let handle ← prepare (selectIntegers fun _ s =>
    Select.page limit offset (learningIds agentId virtualhostId s.apache))
  guarded handle (stepAll handle (columnInt64 handle 0))

/-- `DatabaseFunctions::GetLearningSessionsCount`. -/
def getLearningSessionsCount (agentId virtualhostId : RowId) : SQLiteM ℕ := do
  let count ← getFirstInt64Column (selectIntegers fun _ s =>
    [((learningIds agentId virtualhostId s.apache).length : ℕ)])
  pure count.toNat

/-- `DatabaseFunctions::SetLearningSessions`. -/
def setLearningSessions (agentId virtualhostId : RowId) (sessionsIds : List RowId) :
    SQLiteM Unit :=
  exec (.begin :: (Connection.writes (sessionsIds.map fun id s =>
    { s with apache := insertLearningSession agentId virtualhostId id s.apache }) ++ [.commit]))

/-- `DatabaseFunctions::RemoveAllLearningSessions`. -/
def removeAllLearningSessions (agentId virtualhostId : RowId) : SQLiteM Unit :=
  exec [.write fun s => some { s with apache := { s.apache with
    learningSessions := s.apache.learningSessions.delete fun r =>
      !(r.val.agentNameId = agentId && r.val.virtualhostNameId = virtualhostId) } }]

/-! ### They do what they do as one call -/

lemma implements_markLogsAsUsed (logs : List (Row LogEntry)) :
    Implements 0 (markLogsAsUsed logs) (Apache.markLogsAsUsed logs) :=
  implements_exec (List.cons_ne_nil _ _)

lemma implements_updateSessionStatisticClassification (id : RowId)
    (classification : Classification) :
    Implements 0 (updateSessionStatisticClassification id classification)
      (Apache.updateSessionStatisticClassification id classification) :=
  implements_exec (List.cons_ne_nil _ _)

lemma implements_setLearningSessions (agentId virtualhostId : RowId) (sessionsIds : List RowId) :
    Implements 0 (setLearningSessions agentId virtualhostId sessionsIds)
      (Apache.setLearningSessions agentId virtualhostId sessionsIds) :=
  implements_exec (List.cons_ne_nil _ _)

lemma implements_removeAllLearningSessions (agentId virtualhostId : RowId) :
    Implements 0 (removeAllLearningSessions agentId virtualhostId)
      (Apache.removeAllLearningSessions agentId virtualhostId) :=
  implements_exec (List.cons_ne_nil _ _)

/-- **`AddLogs`**, whatever fails in it. -/
lemma implements_addLogs (logEntries : List LogEntry) :
    Implements 0 (addLogs logEntries) (Apache.addLogs logEntries) := by
  refine (implements_exec (List.cons_ne_nil _ _)).bind fun _ => .tryCatch ?_ fun ex =>
    (implements_exec (List.cons_ne_nil _ _)).bind fun _ => .throw ex
  refine (Implements.forM (fun entry => ?_) logEntries).bind fun _ =>
    implements_exec (List.cons_ne_nil _ _)
  refine implements_execSql fun s hs hopen => ?_
  rw [bindLog_eq]
  refine runs_bindAll hs hopen ((runs_modify hs hopen rfl rfl rfl).mono ?_)
  intro _ c' hstep
  rw [logOfParameters_bound] at hstep
  exact hstep

section Names

variable {s : Session} {sql : Sql} {α : Type} {agentName virtualhostName : Text}

/-- Two names are bound, and a condition on them is the condition on the names. -/
lemma runs_bindNames (hs : s.WellFormed) (hopen : s.isOpen = true) {c : Connection Store}
    {body : SQLiteM α} {Q : α → Connection Store → Prop}
    (h : Runs s (.bound sql [.text agentName, .text virtualhostName]) c body Q) :
    Runs s (.fresh sql) c (bindText s.next 1 agentName >>= fun _ =>
      bindText s.next 2 virtualhostName >>= fun _ => body) Q := by
  have hall := runs_bindAll hs hopen h
  simp only [bindAll, bind_assoc, pure_bind] at hall
  exact hall

lemma isUnusedOf_bound : isUnusedOf (PreparedStatement.bound sql
    [.text agentName, .text virtualhostName]).parameters = isUnused agentName virtualhostName := by
  funext r
  simp [isUnusedOf, isUnused, isText, PreparedStatement.bound, eq_comm]

lemma isNotClassifiedOf_bound : isNotClassifiedOf (PreparedStatement.bound sql
    [.text agentName, .text virtualhostName]).parameters
      = isNotClassified agentName virtualhostName := by
  funext r
  have hclassification : (classificationNumber r.val.classification = 0)
      = (r.val.classification = .unknown) := by
    cases r.val.classification <;> simp [classificationNumber]
  simp [isNotClassifiedOf, isNotClassified, isText, PreparedStatement.bound, hclassification,
    eq_comm]

end Names

/-- A number of rows. -/
lemma implements_count {β : Type} (rows : Store → List β) (p : Parameters → β → Bool)
    (agentName virtualhostName : Text) (q : β → Bool)
    (hp : ∀ sql, p (PreparedStatement.bound sql
      [.text agentName, .text virtualhostName]).parameters = q) :
    Implements 1 (prepare (selectIntegers fun params s =>
        [((rows s).countP (p params) : ℕ)]) >>= fun handle => unguarded handle (do
          bindText handle 1 agentName
          bindText handle 2 virtualhostName
          let _ ← step handle
          columnInt64 handle 0) >>= fun count => pure count.toNat)
      (query fun s => (rows s).countP q) := by
  have hquery : Implements 1 (prepare (selectIntegers fun params s =>
        [((rows s).countP (p params) : ℕ)]) >>= fun handle => unguarded handle (do
          bindText handle 1 agentName
          bindText handle 2 virtualhostName
          let _ ← step handle
          columnInt64 handle 0)) (query fun s => (((rows s).countP q : ℕ) : ℤ)) :=
    implements_query_unguarded fun s hs hopen =>
      runs_bindNames hs hopen (runs_stepRead hs hopen ⟨_, rfl⟩ rfl (reads_first _) <| by
        rw [PreparedStatement.pending_select rfl rfl]
        show List.map _ [_] = _
        rw [hp]
        rfl)
  rw [← bind_assoc]
  exact hquery.query_map Int.toNat

lemma implements_getUnusedLogsCount (agentName virtualhostName : Text) :
    Implements 1 (getUnusedLogsCount agentName virtualhostName)
      (Apache.getUnusedLogsCount agentName virtualhostName) :=
  implements_count (fun s => s.apache.logs.rows) isUnusedOf agentName virtualhostName _
    fun _ => isUnusedOf_bound

/-- **`GetUnusedLogs`.** -/
lemma implements_getUnusedLogs (tie : RowId ↪ ℤ) (agentName virtualhostName : Text)
    (limit offset : ℕ) : Implements 1 (getUnusedLogs tie agentName virtualhostName limit offset)
      (Apache.getUnusedLogs tie agentName virtualhostName limit offset) := by
  refine implements_query_unguarded fun s hs hopen => runs_bindNames hs hopen
    ((runs_stepAll hs hopen ⟨_, rfl⟩ rfl reads_readLog rfl).mono ?_)
  rintro logs c' ⟨rfl, rfl⟩
  refine ⟨?_, rfl⟩
  rw [isUnusedOf_bound]
  -- a log that is selected is unused, which is how it is read
  refine (List.map_congr_left (g := id) fun r hr => ?_).trans (List.map_id _)
  have hr := Select.mem_orderBy.mp (List.mem_of_mem_drop (List.mem_of_mem_take hr))
  have hunused := (List.mem_filter.mp hr).2
  obtain ⟨rid, e⟩ := r
  rw [isUnused, Bool.and_eq_true, Bool.not_eq_true'] at hunused
  exact congrArg (fun used => Row.mk rid { e with usedInStatistics := used }) hunused.2.symm

lemma implements_getVirtualhostNameById (id : RowId) :
    Implements 0 (getVirtualhostNameById id) (Apache.getVirtualhostNameById id) := by
  have hquery := implements_byId (fun s => s.apache.virtualhostsNames.rows)
    (fun name => [.text name]) (fun handle => columnText handle 0) (fun _ => .columnText rfl) id
  rw [getVirtualhostNameById, ← bind_assoc]
  exact hquery.queryFirst

lemma implements_getNotClassifiedSessionsStatisticsCount (agentNameId virtualhostNameId : RowId) :
    Implements 1 (getNotClassifiedSessionsStatisticsCount agentNameId virtualhostNameId)
      (Apache.getNotClassifiedSessionsStatisticsCount agentNameId virtualhostNameId) := by
  refine ((implements_getAgentNameById agentNameId).mono (Nat.zero_le 1)).bind fun agentName => ?_
  refine ((implements_getVirtualhostNameById virtualhostNameId).mono (Nat.zero_le 1)).bind
    fun virtualhostName => ?_
  exact implements_count (fun s => s.apache.sessions.rows) isNotClassifiedOf agentName
    virtualhostName _ fun _ => isNotClassifiedOf_bound

/-- **`GetNotClassifiedSessionStatistics`.** -/
lemma implements_getNotClassifiedSessionStatistics (agentNameId virtualhostNameId : RowId)
    (limit offset : ℕ) :
    Implements 1 (getNotClassifiedSessionStatistics agentNameId virtualhostNameId limit offset)
      (Apache.getNotClassifiedSessionStatistics agentNameId virtualhostNameId limit offset) := by
  refine ((implements_getAgentNameById agentNameId).mono (Nat.zero_le 1)).bind fun agentName => ?_
  refine ((implements_getVirtualhostNameById virtualhostNameId).mono (Nat.zero_le 1)).bind
    fun virtualhostName => ?_
  refine implements_query_unguarded fun s hs hopen => runs_bindNames hs hopen
    ((runs_stepAll hs hopen ⟨_, rfl⟩ rfl reads_readSession rfl).mono ?_)
  rintro sessions c' ⟨rfl, rfl⟩
  rw [isNotClassifiedOf_bound]
  exact ⟨List.map_id' _, rfl⟩

lemma implements_addVirtualhostName (name : Text) :
    Implements 0 (addVirtualhostName name) (Apache.addVirtualhostName name) :=
  implements_execSql fun _ hs hopen => runs_bind hs hopen 1 (.text name)
    ((runs_modify hs hopen rfl rfl rfl).mono fun _ _ h => h)

lemma implements_getVirtualhostNameId (name : Text) :
    Implements 0 (getVirtualhostNameId name) (Apache.getVirtualhostNameId name) := by
  have hquery := implements_idOfText (fun s => s.apache.virtualhostsNames.rows) name
  rw [getVirtualhostNameId, ← bind_assoc]
  exact hquery.query_map fun id => id.getD (-1)

lemma implements_getLearningSessionsIds (agentId virtualhostId : RowId) (limit offset : ℕ) :
    Implements 0 (getLearningSessionsIds agentId virtualhostId limit offset)
      (Apache.getLearningSessionsIds agentId virtualhostId limit offset) :=
  implements_integers _

/-- The text always selects one row. -/
lemma implements_getLearningSessionsCount (agentId virtualhostId : RowId) :
    Implements 0 (getLearningSessionsCount agentId virtualhostId)
      (Apache.getLearningSessionsCount agentId virtualhostId) := by
  have hquery := implements_first
    fun s => [((learningIds agentId virtualhostId s.apache).length : ℤ)]
  rw [getLearningSessionsCount, getFirstInt64Column, ← bind_assoc, bind_assoc]
  refine hquery.of_query (g := fun value => value.elim (.error .itemNotFoundException)
    fun n => .ok n.toNat) ?_ can_query_error can_query
  rintro (_ | n) s r t hcan
  · exact hcan
  · exact hcan

end Slas.Apache.SQLite
