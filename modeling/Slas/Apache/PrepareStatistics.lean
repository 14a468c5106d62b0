import Mathlib
import Slas.Lib.Sessionizer
import Slas.Util.RunPartially
import Slas.Apache.DatabaseFunctions

/-!
Sessions from logs,
`server/src/apache/analyzer/detail/prepare_statistics_analyzer_object.cpp`.

* `PrepareStatisticsAnalyzerObject`: the sessions in memory, which outlive a
  batch of logs;
* `calculateStatistics`, `createStatistics`: a batch, and all batches of an
  agent and a virtualhost;
* `sessionizer`: the memory is that of a `Sessionizer`, and its sessions are
  summaries of groups of logs (`summarize`);
* `exec_createStatistics`: the batches amount to one pass over the unused logs.
-/

namespace Slas.Apache

open Database

/-! ### The source -/

/-- `SESSION_LENGTH`, in seconds. -/
def sessionLength : ℤ := 3600

/-- `PrepareStatisticsAnalyzerObject::IsErrorCode`. -/
def isErrorCode (statusCode : ℤ) : Bool := statusCode ≥ 400 && statusCode ≤ 511

/-- `PrepareStatisticsAnalyzerObject::IsInThisSameSession`. -/
def isInThisSameSession (session : SessionEntry) (logEntry : LogEntry) : Bool :=
  distance session.sessionStart.time logEntry.time.time < sessionLength &&
    session.sessionStart.date = logEntry.time.date

/-- `PrepareStatisticsAnalyzerObject::CreateSession`. -/
def createSession (logEntry : LogEntry) : SessionEntry where
  agentName := logEntry.agentName
  virtualhost := logEntry.virtualhost
  clientIp := logEntry.clientIp
  sessionStart := logEntry.time
  sessionLength := 0
  bandwidthUsage := logEntry.bytes
  requestsCount := 1
  errorsCount := if isErrorCode logEntry.statusCode then 1 else 0
  errorPercentage := (if isErrorCode logEntry.statusCode then 1 else 0) * 100
  useragent := logEntry.userAgent
  classification := .unknown

/-- The branch of the loop for a log in the session in memory. -/
def extendSession (session : SessionEntry) (logEntry : LogEntry) : SessionEntry :=
  let errorsCount := session.errorsCount + if isErrorCode logEntry.statusCode then 1 else 0
  let requestsCount := session.requestsCount + 1
  { session with
    bandwidthUsage := session.bandwidthUsage + logEntry.bytes
    errorsCount
    requestsCount
    errorPercentage := errorsCount * 100 / requestsCount
    sessionLength := distance session.sessionStart.time logEntry.time.time }

/-- The members of `PrepareStatisticsAnalyzerObject` that change. -/
structure PrepareStatisticsAnalyzerObject where
  calculatedSessionsStatistics : List SessionEntry
  sessionsStatistics : SortedMap (Text ×ₗ Text) SessionEntry

/-- No session in memory. -/
def PrepareStatisticsAnalyzerObject.clear : PrepareStatisticsAnalyzerObject := ⟨[], .empty⟩

/-- `UniqueSessionId`. -/
def uniqueSessionId (logEntry : LogEntry) : Text ×ₗ Text :=
  toLex (logEntry.clientIp, logEntry.userAgent)

/-- The loop over the logs of a batch. -/
def calculateLogEntry (o : PrepareStatisticsAnalyzerObject) (log : Row LogEntry) :
    PrepareStatisticsAnalyzerObject :=
  let usi := uniqueSessionId log.val
  match o.sessionsStatistics.find? usi with
  | some session =>
      if isInThisSameSession session log.val then
        { o with sessionsStatistics :=
            o.sessionsStatistics.insert usi (extendSession session log.val) }
      else
        { calculatedSessionsStatistics := o.calculatedSessionsStatistics ++ [session]
          sessionsStatistics := o.sessionsStatistics.insert usi (createSession log.val) }
  | none =>
      { o with sessionsStatistics := o.sessionsStatistics.insert usi (createSession log.val) }

/-- `PrepareStatisticsAnalyzerObject::CalculateStatistics`. -/
def calculateStatistics (tie : RowId ↪ ℤ) (agentName virtualhostName : Text) (count : ℕ)
    (o : PrepareStatisticsAnalyzerObject) : DatabaseM PrepareStatisticsAnalyzerObject := do
  let logs ← getUnusedLogs tie agentName virtualhostName count 0
  markLogsAsUsed logs
  pure (logs.foldl calculateLogEntry o)

/-- `PrepareStatisticsAnalyzerObject::SaveAllSessions`. The result of
`AddSessionStatistics` is not looked at. -/
def saveAllSessions (o : PrepareStatisticsAnalyzerObject) :
    DatabaseM PrepareStatisticsAnalyzerObject := do
  let _ ← addSessionStatistics (o.calculatedSessionsStatistics ++ o.sessionsStatistics.values)
  pure .clear

/-- `PrepareStatisticsAnalyzerObject::CreateStatistics`, in batches of any size. -/
def createStatisticsBy (maxRowsInMemory : ℕ) (tie : RowId ↪ ℤ) (agentName virtualhostName : Text)
    (o : PrepareStatisticsAnalyzerObject) : DatabaseM PrepareStatisticsAnalyzerObject := do
  let summaryLogsCount ← getUnusedLogsCount agentName virtualhostName
  let o ← runPartially maxRowsInMemory summaryLogsCount
    (fun o partCount _ => calculateStatistics tie agentName virtualhostName partCount o) o
  saveAllSessions o

/-- `PrepareStatisticsAnalyzerObject::CreateStatistics`; `MAX_ROWS_IN_MEMORY` is
a hundred. -/
def createStatistics : (RowId ↪ ℤ) → Text → Text → PrepareStatisticsAnalyzerObject →
    DatabaseM PrepareStatisticsAnalyzerObject :=
  createStatisticsBy 100

/-! ### The memory is a sessionizer's -/

/-- Client and browser of a log. -/
def logId (r : Row LogEntry) : Text ×ₗ Text := uniqueSessionId r.val

/-- The functions above as a sessionizer. -/
def sessionizer : Sessionizer (Row LogEntry) (Text ×ₗ Text) SessionEntry where
  key := logId
  new r := createSession r.val
  same session r := isInThisSameSession session r.val
  extend session r := extendSession session r.val

def PrepareStatisticsAnalyzerObject.state (o : PrepareStatisticsAnalyzerObject) :
    Sessionizer.State (Text ×ₗ Text) SessionEntry :=
  ⟨o.sessionsStatistics, o.calculatedSessionsStatistics⟩

lemma saveAllSessions_eq (o : PrepareStatisticsAnalyzerObject) :
    saveAllSessions o = addSessionStatistics o.state.sessions >>= fun _ => pure .clear := rfl

lemma state_calculateLogEntry (o : PrepareStatisticsAnalyzerObject) (r : Row LogEntry) :
    (calculateLogEntry o r).state = sessionizer.step o.state r := by
  have hfind : o.state.opened.find? (sessionizer.key r)
      = o.sessionsStatistics.find? (uniqueSessionId r.val) := rfl
  rw [calculateLogEntry, Sessionizer.step, hfind]
  cases o.sessionsStatistics.find? (uniqueSessionId r.val) with
  | none => rfl
  | some s =>
      have hsame : sessionizer.same s r = isInThisSameSession s r.val := rfl
      simp only [hsame]
      split_ifs
      · rfl
      · rfl

lemma state_foldl_calculateLogEntry (o : PrepareStatisticsAnalyzerObject)
    (logs : List (Row LogEntry)) :
    (logs.foldl calculateLogEntry o).state = sessionizer.run o.state logs := by
  induction logs generalizing o with
  | nil => rfl
  | cons r logs ih =>
      rw [List.foldl_cons, ih, state_calculateLogEntry]
      rfl

/-! ### Sessions are summaries of groups of logs -/

/-- Logs, the first of which started a session. -/
abbrev LogGroup := Sessionizer.Group (Row LogEntry)

/-- Two logs, the first of which started a session the second is in. -/
def sameSession (r r' : Row LogEntry) : Bool := isInThisSameSession (createSession r.val) r'.val

/-- The session that counts the logs of a group. -/
def summarize (g : LogGroup) : SessionEntry where
  agentName := g.first.val.agentName
  virtualhost := g.first.val.virtualhost
  clientIp := g.first.val.clientIp
  sessionStart := g.first.val.time
  sessionLength := distance g.first.val.time.time g.last.val.time.time
  bandwidthUsage := (g.toList.map (·.val.bytes)).sum
  requestsCount := g.toList.length
  errorsCount := g.toList.countP fun r => isErrorCode r.val.statusCode
  errorPercentage :=
    (g.toList.countP fun r => isErrorCode r.val.statusCode : ℕ) * 100 / (g.toList.length : ℕ)
  useragent := g.first.val.userAgent
  classification := .unknown

lemma distance_self (t : Time) : distance t t = 0 := by simp [distance]

/-- A log by itself. -/
lemma summarize_new (r : Row LogEntry) : summarize ⟨r, []⟩ = createSession r.val := by
  simp [summarize, createSession, Sessionizer.Group.toList, Sessionizer.Group.last, distance_self,
    List.countP_cons]

/-- One more log. -/
lemma summarize_extend (g : LogGroup) (r : Row LogEntry) :
    summarize ⟨g.first, g.rest ++ [r]⟩ = extendSession (summarize g) r.val := by
  have herrors : (g.toList ++ [r]).countP (fun r => isErrorCode r.val.statusCode)
      = (g.toList.countP fun r => isErrorCode r.val.statusCode)
        + if isErrorCode r.val.statusCode then 1 else 0 := by
    rw [List.countP_append, List.countP_singleton]
  have hbytes : ((g.toList ++ [r]).map (·.val.bytes)).sum
      = (g.toList.map (·.val.bytes)).sum + r.val.bytes := by
    simp
  rw [summarize, extendSession]
  simp only [Sessionizer.Group.toList_append, Sessionizer.Group.last_append, herrors, hbytes,
    List.length_append, List.length_singleton]
  simp [summarize]

lemma homomorphism_summarize :
    Sessionizer.Homomorphism (Sessionizer.grouping logId sameSession) sessionizer summarize where
  key _ := rfl
  new r := (summarize_new r).symm
  same _ _ := rfl
  extend g r := (summarize_extend g r).symm

/-- The groups of logs that become sessions. -/
def logGroups (logs : List (Row LogEntry)) : List (LogGroup) :=
  Sessionizer.groups logId sameSession logs

/-- The sessions in memory after some logs are the summaries of their groups. -/
lemma sessions_foldl_calculateLogEntry (logs : List (Row LogEntry)) :
    (logs.foldl calculateLogEntry .clear).state.sessions = (logGroups logs).map summarize := by
  have hclear : PrepareStatisticsAnalyzerObject.clear.state
      = (Sessionizer.State.empty).map summarize :=
    rfl
  rw [state_foldl_calculateLogEntry, hclear, homomorphism_summarize.run,
    Sessionizer.State.sessions_map]
  rfl

/-! ### The batches are one pass -/

/-- The unused logs of an agent and a virtualhost in the order of `GetUnusedLogs`. -/
def unusedLogs (tie : RowId ↪ ℤ) (agentName virtualhostName : Text) (t : Tables) :
    List (Row LogEntry) :=
  Select.orderBy (logKey tie) (t.logs.rows.filter (isUnused agentName virtualhostName))

variable {tie : RowId ↪ ℤ} {agentName virtualhostName : Text} {t : Tables}

lemma mem_unusedLogs {r : Row LogEntry} : r ∈ unusedLogs tie agentName virtualhostName t ↔
    r ∈ t.logs.rows ∧ isUnused agentName virtualhostName r = true := by
  rw [unusedLogs, Select.mem_orderBy, List.mem_filter]

lemma length_unusedLogs (tie : RowId ↪ ℤ) (agentName virtualhostName : Text) (t : Tables) :
    (unusedLogs tie agentName virtualhostName t).length
      = t.logs.rows.countP (isUnused agentName virtualhostName) := by
  rw [unusedLogs, (Select.orderBy_perm _ _).length_eq, List.countP_eq_length_filter]

/-- No two rows are equal in the order. -/
lemma logKey_injOn (t : Tables) (p : Row LogEntry → Bool) :
    Set.InjOn (logKey tie) {r | r ∈ t.logs.rows.filter p} := by
  intro r hr r' hr' h
  have hid : tie r.id = tie r'.id := congrArg (fun k => (ofLex k).2) h
  exact Table.row_ext (List.mem_filter.mp hr).1 (List.mem_filter.mp hr').1 (tie.injective hid)

lemma nodup_unusedLogs_ids :
    ((unusedLogs tie agentName virtualhostName t).map (·.id)).Nodup := by
  have hperm := (Select.orderBy_perm (logKey tie)
    (t.logs.rows.filter (isUnused agentName virtualhostName))).map (·.id)
  exact hperm.nodup_iff.mpr (t.logs.nodup_ids.sublist (List.filter_sublist.map _))

lemma time_le_of_unusedLogs : (unusedLogs tie agentName virtualhostName t).Pairwise
    fun r r' => r.val.time ≤ r'.val.time := by
  refine (Select.orderBy_sorted (logKey tie) _).imp fun {r r'} h => ?_
  rcases Prod.Lex.toLex_le_toLex.mp h with h | ⟨h, -⟩
  · exact h.le
  · exact h.le

/-- Elements whose keys are not among the first are the others. -/
lemma filter_notMem_take {α κ : Type} [DecidableEq κ] {key : α → κ} {xs : List α}
    (h : (xs.map key).Nodup) (k : ℕ) :
    xs.filter (fun x => !((xs.take k).map key).contains (key x)) = xs.drop k := by
  have hsplit := List.take_append_drop k xs
  rw [← hsplit, List.map_append, List.nodup_append] at h
  have hfirst : (xs.take k).filter (fun x => !((xs.take k).map key).contains (key x)) = [] := by
    refine List.filter_eq_nil_iff.mpr fun x hx => ?_
    simp only [List.contains_eq_mem, Bool.not_eq_true', decide_eq_false_iff_not, not_not]
    exact List.mem_map_of_mem hx
  have hothers : (xs.drop k).filter (fun x => !((xs.take k).map key).contains (key x))
      = xs.drop k := by
    refine List.filter_eq_self.mpr fun x hx => ?_
    simp only [Bool.not_eq_true', List.contains_eq_mem, decide_eq_false_iff_not]
    exact fun hmem => h.2.2 _ hmem _ (List.mem_map_of_mem hx) rfl
  calc xs.filter (fun x => !((xs.take k).map key).contains (key x))
      = (xs.take k ++ xs.drop k).filter fun x => !((xs.take k).map key).contains (key x) := by
        rw [hsplit]
    _ = xs.drop k := by rw [List.filter_append, hfirst, hothers, List.nil_append]

/-- The rows that are unused once some have been marked. -/
lemma filter_isUnused_markUsed (ids : List RowId) (t : Tables) :
    (markUsed ids t).logs.rows.filter (isUnused agentName virtualhostName)
      = (t.logs.rows.filter (isUnused agentName virtualhostName)).filter
          fun r => !ids.contains r.id := by
  show (t.logs.rows.map _).filter _ = _
  rw [List.filter_map, List.filter_filter]
  have hcond : ∀ r ∈ t.logs.rows, (isUnused agentName virtualhostName ∘ fun r : Row LogEntry =>
      (⟨r.id, { r.val with usedInStatistics := r.val.usedInStatistics || ids.contains r.id }⟩ :
        Row LogEntry)) r = ((!ids.contains r.id) && isUnused agentName virtualhostName r) := by
    intro r _
    simp only [isUnused, Function.comp_apply, Bool.not_or]
    rw [← Bool.and_assoc, Bool.and_comm]
  rw [List.filter_congr hcond]
  conv_rhs => rw [← List.map_id (List.filter _ _)]
  refine List.map_congr_left fun r hr => ?_
  have hnot := (Bool.and_eq_true _ _ ▸ (List.mem_filter.mp hr).2).1
  rw [Bool.not_eq_true'] at hnot
  show (⟨r.id, { r.val with usedInStatistics := r.val.usedInStatistics || ids.contains r.id }⟩ :
    Row LogEntry) = r
  rw [hnot, Bool.or_false]

/-- Marking the first unused logs leaves the others. -/
lemma unusedLogs_markUsed (k : ℕ) : unusedLogs tie agentName virtualhostName
    (markUsed (((unusedLogs tie agentName virtualhostName t).take k).map (·.id)) t)
      = (unusedLogs tie agentName virtualhostName t).drop k := by
  set logs := unusedLogs tie agentName virtualhostName t with hlogs
  refine Select.orderBy_eq (logKey_injOn _ _) ?_ ?_
  · rw [filter_isUnused_markUsed, ← filter_notMem_take nodup_unusedLogs_ids k]
    exact (Select.orderBy_perm _ _).filter _
  · exact (Select.orderBy_sorted _ _).sublist (List.drop_sublist _ _)

/-- A batch. -/
lemma exec_calculateStatistics (count : ℕ) (o : PrepareStatisticsAnalyzerObject)
    (c : Connection Store) :
    let logs := (unusedLogs tie agentName virtualhostName c.data.apache).take count
    (calculateStatistics tie agentName virtualhostName count o).exec c
      = (.ok (logs.foldl calculateLogEntry o), { c with data := { c.data with
          apache := markUsed (logs.map (·.id)) c.data.apache } }) := by
  intro logs
  rw [calculateStatistics, getUnusedLogs, Prog.exec_bind_ok (exec_query c _), markLogsAsUsed,
    Prog.exec_bind_ok (exec_writeApache _ c), markUsed_append_neg_one]
  rfl

/-- Batches of any sizes. -/
lemma exec_batches (batches : List (ℕ × ℕ)) (o : PrepareStatisticsAnalyzerObject)
    (c : Connection Store) :
    let logs := (unusedLogs tie agentName virtualhostName c.data.apache).take
      (batches.map (·.1)).sum
    (batches.foldlM (fun o part => calculateStatistics tie agentName virtualhostName part.1 o)
        o).exec c
      = (.ok (logs.foldl calculateLogEntry o), { c with data := { c.data with
          apache := markUsed (logs.map (·.id)) c.data.apache } }) := by
  induction batches generalizing o c with
  | nil =>
      show (Pure.pure o : DatabaseM PrepareStatisticsAnalyzerObject).exec c = _
      simp [markUsed_nil]
  | cons batch batches ih =>
      intro logs
      rw [List.foldlM_cons, Prog.exec_bind_ok (exec_calculateStatistics batch.1 o c)]
      refine (ih _ _).trans ?_
      simp only [unusedLogs_markUsed, markUsed_markUsed, ← List.foldl_append, ← List.map_append]
      rw [← List.take_add]
      rfl

/-- The tables after `CreateStatistics`. -/
def statisticsCreated (tie : RowId ↪ ℤ) (agentName virtualhostName : Text) (t : Tables) : Tables :=
  let logs := unusedLogs tie agentName virtualhostName t
  insertSessions ((logGroups logs).map summarize) (markUsed (logs.map (·.id)) t)

/-- All batches, for the number of unused logs. -/
lemma exec_runPartially (maxRowsInMemory : ℕ) (o : PrepareStatisticsAnalyzerObject)
    (c : Connection Store) :
    let logs := unusedLogs tie agentName virtualhostName c.data.apache
    (runPartially maxRowsInMemory logs.length
        (fun o partCount _ => calculateStatistics tie agentName virtualhostName partCount o)
          o).exec c
      = (.ok (logs.foldl calculateLogEntry o), { c with data := { c.data with
          apache := markUsed (logs.map (·.id)) c.data.apache } }) := by
  intro logs
  refine (exec_batches (parts maxRowsInMemory logs.length) o c).trans ?_
  rw [sum_parts, List.take_length]

/-- **All batches are one pass over the unused logs**, whatever their size. -/
lemma exec_createStatisticsBy (maxRowsInMemory : ℕ) {c : Connection Store} (hc : c.Idle) :
    (createStatisticsBy maxRowsInMemory tie agentName virtualhostName .clear).exec c
      = (.ok .clear, ⟨{ c.data with
          apache := statisticsCreated tie agentName virtualhostName c.data.apache }, none⟩) := by
  have hcount := length_unusedLogs tie agentName virtualhostName c.data.apache
  rw [createStatisticsBy, getUnusedLogsCount, Prog.exec_bind_ok (exec_query c _), ← hcount,
    Prog.exec_bind_ok (exec_runPartially maxRowsInMemory .clear c), saveAllSessions_eq,
    sessions_foldl_calculateLogEntry]
  -- marking logs opens no transaction
  refine Prog.exec_bind_ok (exec_addSessionStatistics _ ?_)
  exact hc

end Slas.Apache
