import Mathlib
import Slas.Lib.Nearest
import Slas.Util.RunPartially
import Slas.Apache.DatabaseFunctions

/-!
Classification of sessions by their nearest neighbours,
`server/src/apache/analyzer/detail/knn_analyzer_object.cpp` and
`server/src/apache/analyzer/detail/prepare_statistics/nearest_neighbours_table.cpp`.

* `NearestNeighboursTable`: the three nearest learning sessions so far;
* `analyzeSession`, `analyzeSessions`: one round of the loop of
  `AnalyzeSessions`, and all of it; `analyzeVirtualhost`: all sessions of a
  virtualhost;
* `exec_analyzeSession`: a round writes the majority among the three nearest of
  the first hundred learning sessions.

Distances are compared by their squares, which are rational.
-/

namespace Slas.Apache

open Database

/-! ### The source -/

/-- The square of `NearestNeighboursTable::Distance`. It is exact, where the source rounds the
root and the percentages to a `double`. -/
def squaredDistance (a b : SessionEntry) : ℚ :=
  (a.sessionLength - b.sessionLength) ^ 2 + (a.bandwidthUsage - b.bandwidthUsage) ^ 2 +
    (a.requestsCount - b.requestsCount) ^ 2 + (a.errorPercentage - b.errorPercentage) ^ 2

/-- `Neighbour`, with the square of its distance. -/
structure Neighbour where
  distance : ℚ
  classification : Classification
  sessionId : RowId
  deriving DecidableEq

/-- `NearestNeighboursTable`. -/
structure NearestNeighboursTable where
  originalSession : SessionEntry
  nearestNeighbours : List Neighbour

/-- `number_of_neighbours_`. -/
def numberOfNeighbours : ℕ := 3

/-- `NearestNeighboursTable::SetSession`. -/
def NearestNeighboursTable.setSession (session : SessionEntry) : NearestNeighboursTable :=
  ⟨session, []⟩

/-- `NearestNeighboursTable::Add`. -/
def NearestNeighboursTable.add (table : NearestNeighboursTable) (session : Row SessionEntry) :
    NearestNeighboursTable :=
  if table.nearestNeighbours.any fun n => n.sessionId = session.id then table
  else
    let n : Neighbour := ⟨squaredDistance session.val table.originalSession,
      session.val.classification, session.id⟩
    let sorted := Select.orderBy (·.distance) (table.nearestNeighbours ++ [n])
    { table with nearestNeighbours :=
        if numberOfNeighbours < sorted.length then sorted.dropLast else sorted }

/-- `KnnAnalyzerObject::GetSessionClassification`. -/
def getSessionClassification (table : NearestNeighboursTable) : Classification :=
  let i : ℤ := table.nearestNeighbours.foldl
    (fun i n => i - 1 + 2 * if n.classification = .anomaly then 1 else 0) 0
  if 0 < table.nearestNeighbours.length then if i > 0 then .anomaly else .normal else .unknown

/-- `KnnAnalyzerObject::AnalyzeSessionsWithLearningSet`. -/
def analyzeSessionsWithLearningSet (unset : Row SessionEntry)
    (agentNameId virtualhostNameId : RowId) (limit offset : ℕ) (table : NearestNeighboursTable) :
    DatabaseM NearestNeighboursTable := do
  let learningSetIds ← getLearningSessionsIds agentNameId virtualhostNameId limit offset
  learningSetIds.foldlM (fun table sessionId => do
    let learningSetSession ← getOneSessionStatistic unset sessionId
    pure (if learningSetSession.val.classification = .unknown then table
      else table.add learningSetSession)) table

/-- What `KnnAnalyzerObject` reports: whether there is an anomaly, and the
`KnnVirtualhostAnalyzeStatistics` of the virtualhost. -/
structure KnnAnalyzerObject where
  isAnomalyDetected : Bool
  agentId : RowId
  virtualhostId : RowId
  anomalySessionsIds : List RowId

/-- The loop of `KnnAnalyzerObject::AnalyzeSessions`. Every part of the learning
set is asked for with the offset 0. -/
def analyzeSession (unset : Row SessionEntry) (agentNameId virtualhostNameId : RowId)
    (learningSetCount : ℕ) (o : KnnAnalyzerObject) (session : Row SessionEntry) :
    DatabaseM KnnAnalyzerObject := do
  let table ← runPartially 100 learningSetCount
    (fun table partCount _ =>
      analyzeSessionsWithLearningSet unset agentNameId virtualhostNameId partCount 0 table)
    (NearestNeighboursTable.setSession session.val)
  let classification := getSessionClassification table
  updateSessionStatisticClassification session.id classification
  pure (if classification = .anomaly then
      { o with
        isAnomalyDetected := true
        anomalySessionsIds := o.anomalySessionsIds ++ [session.id] }
    else o)

/-- `KnnAnalyzerObject::AnalyzeSessions`. -/
def analyzeSessions (unset : Row SessionEntry) (agentNameId virtualhostNameId : RowId)
    (limit : ℕ) (o : KnnAnalyzerObject) : DatabaseM KnnAnalyzerObject := do
  let sessionsPart ← getNotClassifiedSessionStatistics agentNameId virtualhostNameId limit 0
  let o := { o with agentId := agentNameId, virtualhostId := virtualhostNameId }
  let learningSetCount ← getLearningSessionsCount agentNameId virtualhostNameId
  sessionsPart.foldlM (analyzeSession unset agentNameId virtualhostNameId learningSetCount) o

/-- `KnnAnalyzerObject::AnalyzeVirtualhost`. What is classified is no longer
asked for, so every part is asked for from the start. -/
def analyzeVirtualhost (unset : Row SessionEntry) (agentNameId virtualhostNameId : RowId)
    (isAnomalyDetected : Bool) : DatabaseM KnnAnalyzerObject := do
  let sessionsCount ← getNotClassifiedSessionsStatisticsCount agentNameId virtualhostNameId
  runPartially 100 sessionsCount
    (fun o partCount _ => analyzeSessions unset agentNameId virtualhostNameId partCount o)
    ⟨isAnomalyDetected, 0, 0, []⟩

/-! ### The undisturbed run -/

/-- What `GetOneSessionStatistic` returns. -/
def sessionRow (unset : Row SessionEntry) (t : Tables) (id : RowId) : Row SessionEntry :=
  ((t.sessions.get? id).map fun v => ⟨id, v⟩).getD unset

/-- A learning session compared with the session to analyze. -/
def compareSession (unset : Row SessionEntry) (t : Tables) (table : NearestNeighboursTable)
    (id : RowId) : NearestNeighboursTable :=
  if (sessionRow unset t id).val.classification = .unknown then table
  else table.add (sessionRow unset t id)

/-- The ids that are asked for: the first part of the learning set again and again. -/
def comparedIds (ids : List RowId) : List RowId :=
  (parts 100 ids.length).flatMap fun part => Select.page part.1 0 ids

/-- The table a session is classified by. -/
def neighboursTable (unset : Row SessionEntry) (agentId virtualhostId : RowId) (t : Tables)
    (session : SessionEntry) : NearestNeighboursTable :=
  (comparedIds (learningIds agentId virtualhostId t)).foldl (compareSession unset t)
    (.setSession session)

lemma exec_analyzeSessionsWithLearningSet (unset : Row SessionEntry)
    (agentId virtualhostId : RowId) (limit offset : ℕ) (table : NearestNeighboursTable)
    (c : Connection Store) :
    (analyzeSessionsWithLearningSet unset agentId virtualhostId limit offset table).exec c
      = (.ok ((Select.page limit offset (learningIds agentId virtualhostId c.data.apache)).foldl
          (compareSession unset c.data.apache) table), c) := by
  rw [analyzeSessionsWithLearningSet, getLearningSessionsIds, Prog.exec_bind_ok (exec_query c _)]
  refine Prog.exec_foldlM_of_reads (fun table id => ?_) _ _
  rw [getOneSessionStatistic, Prog.exec_bind_ok (exec_query c _)]
  rfl

/-- All parts of the learning set. -/
lemma exec_neighboursTable (unset : Row SessionEntry) (agentId virtualhostId : RowId)
    (session : SessionEntry) (c : Connection Store) :
    (runPartially 100 (learningIds agentId virtualhostId c.data.apache).length
      (fun table partCount _ =>
        analyzeSessionsWithLearningSet unset agentId virtualhostId partCount 0 table)
      (NearestNeighboursTable.setSession session)).exec c
      = (.ok (neighboursTable unset agentId virtualhostId c.data.apache session), c) := by
  have hparts := Prog.exec_foldlM_of_reads (fun table (part : ℕ × ℕ) =>
    exec_analyzeSessionsWithLearningSet unset agentId virtualhostId part.1 0 table c)
    (parts 100 (learningIds agentId virtualhostId c.data.apache).length) (.setSession session)
  rwa [← List.foldl_flatMap] at hparts

/-- What a round makes of the tables. -/
def classify (unset : Row SessionEntry) (agentId virtualhostId : RowId) (t : Tables)
    (session : Row SessionEntry) : Tables :=
  setClassification session.id
    (getSessionClassification (neighboursTable unset agentId virtualhostId t session.val)) t

lemma exec_analyzeSession (unset : Row SessionEntry) (agentId virtualhostId : RowId)
    (o : KnnAnalyzerObject) (session : Row SessionEntry) (c : Connection Store) :
    ∃ o', (analyzeSession unset agentId virtualhostId
        (learningIds agentId virtualhostId c.data.apache).length o session).exec c
      = (.ok o', { c with data := { c.data with
          apache := classify unset agentId virtualhostId c.data.apache session } }) := by
  rw [analyzeSession,
    Prog.exec_bind_ok (exec_neighboursTable unset agentId virtualhostId session.val c)]
  exact ⟨_, Prog.exec_bind_ok (exec_writeApache _ c)⟩

section Classify

variable (unset : Row SessionEntry) {agentId virtualhostId : RowId}

lemma isSome_get?_classify (t : Tables) (session : Row SessionEntry) (id : RowId) :
    ((classify unset agentId virtualhostId t session).sessions.get? id).isSome
      = (t.sessions.get? id).isSome := by
  rw [classify, setClassification, Table.get?_update, Option.isSome_map]

/-- No row comes or goes, and the learning set stays. -/
lemma foldl_classify (sessions : List (Row SessionEntry)) (t : Tables) :
    learningIds agentId virtualhostId (sessions.foldl (classify unset agentId virtualhostId) t)
      = learningIds agentId virtualhostId t ∧
    ∀ id, ((sessions.foldl (classify unset agentId virtualhostId) t).sessions.get? id).isSome
      = (t.sessions.get? id).isSome := by
  induction sessions generalizing t with
  | nil => exact ⟨rfl, fun _ => rfl⟩
  | cons session sessions ih =>
      obtain ⟨hids, hrows⟩ := ih (classify unset agentId virtualhostId t session)
      exact ⟨hids, fun id => (hrows id).trans (isSome_get?_classify unset t session id)⟩

/-- Only the sessions handled are written. -/
lemma get?_foldl_classify {sessions : List (Row SessionEntry)} {id : RowId}
    (hid : id ∉ sessions.map (·.id)) (t : Tables) :
    (sessions.foldl (classify unset agentId virtualhostId) t).sessions.get? id
      = t.sessions.get? id := by
  induction sessions generalizing t with
  | nil => rfl
  | cons session sessions ih =>
      rw [List.map_cons, List.mem_cons, not_or] at hid
      rw [List.foldl_cons, ih hid.2, classify, setClassification, Table.get?_update]
      simp [hid.1]

end Classify

/-- All rounds. -/
lemma exec_foldlM_analyzeSession (unset : Row SessionEntry) (agentId virtualhostId : RowId)
    (sessions : List (Row SessionEntry)) (o : KnnAnalyzerObject) (c : Connection Store) :
    ∃ o', (sessions.foldlM (analyzeSession unset agentId virtualhostId
        (learningIds agentId virtualhostId c.data.apache).length) o).exec c
      = (.ok o', { c with data := { c.data with
          apache := sessions.foldl (classify unset agentId virtualhostId) c.data.apache } }) := by
  induction sessions generalizing o c with
  | nil => exact ⟨o, rfl⟩
  | cons session sessions ih =>
      obtain ⟨o₁, hround⟩ := exec_analyzeSession unset agentId virtualhostId o session c
      obtain ⟨o₂, hrest⟩ := ih o₁ { c with data := { c.data with
        apache := classify unset agentId virtualhostId c.data.apache session } }
      refine ⟨o₂, ?_⟩
      rw [List.foldlM_cons, Prog.exec_bind_ok hround]
      exact hrest

/-- The sessions `AnalyzeSessions` handles. -/
def sessionsPart (agentName virtualhostName : Text) (limit : ℕ) (t : Tables) :
    List (Row SessionEntry) :=
  (t.sessions.rows.filter (isNotClassified agentName virtualhostName)).take limit

/-- **`AnalyzeSessions` classifies the sessions it is given one after another.** -/
lemma exec_analyzeSessions (unset : Row SessionEntry) (agentId virtualhostId : RowId) (limit : ℕ)
    (o : KnnAnalyzerObject) {c : Connection Store} {agentName virtualhostName : Text}
    (hagent : c.data.agentNames.get? agentId = some agentName)
    (hvirtualhost : c.data.apache.virtualhostsNames.get? virtualhostId = some virtualhostName) :
    ∃ o', (analyzeSessions unset agentId virtualhostId limit o).exec c
      = (.ok o', { c with data := { c.data with
          apache := (sessionsPart agentName virtualhostName limit c.data.apache).foldl
            (classify unset agentId virtualhostId) c.data.apache } }) := by
  have hsessions : (getNotClassifiedSessionStatistics agentId virtualhostId limit 0).exec c
      = (.ok (sessionsPart agentName virtualhostName limit c.data.apache), c) := by
    rw [getNotClassifiedSessionStatistics, Prog.exec_bind_ok (exec_getAgentNameById c hagent),
      getVirtualhostNameById, Prog.exec_bind_ok (exec_queryFirst c hvirtualhost)]
    exact exec_query c _
  obtain ⟨o', hrun⟩ := exec_foldlM_analyzeSession unset agentId virtualhostId
    (sessionsPart agentName virtualhostName limit c.data.apache)
    { o with agentId := agentId, virtualhostId := virtualhostId } c
  refine ⟨o', ?_⟩
  rw [analyzeSessions, Prog.exec_bind_ok hsessions, getLearningSessionsCount]
  exact (Prog.exec_bind_ok (exec_query c _)).trans hrun

/-! ### A session and its learning set -/

/-- A session of a given length, otherwise like all others. -/
def sessionOfLength (length : ℤ) (classification : Classification) : SessionEntry where
  agentName := cString [97]
  virtualhost := cString [118]
  clientIp := cString [49]
  sessionStart := ⟨⟨10, 0, 0, Time.checkTime_ten⟩,
    ⟨1, 1, 2016, Date.checkDate_newYear, Date.fits_2016⟩⟩
  sessionLength := length
  bandwidthUsage := 512
  requestsCount := 2
  errorsCount := 0
  errorPercentage := 0
  useragent := cString [98]
  classification := classification

/-- A session to classify, and a learning set of `n` normal sessions with two
anomalies behind them that are nearer. -/
def crowd (n : ℕ) : Store :=
  let normal := (List.range n).map fun (i : ℕ) => sessionOfLength (10 + i) .normal
  let anomalies := [sessionOfLength 1 .anomaly, sessionOfLength 2 .anomaly]
  let sessions := sessionOfLength 0 .unknown :: (normal ++ anomalies)
  { Store.empty with
    agentNames := UniqueTable.empty.insertOrIgnore (cString [97])
    apache := {
      Tables.empty with
      virtualhostsNames := UniqueTable.empty.insertOrIgnore (cString [118])
      sessions := sessions.foldl Table.insert Table.empty
      learningSessions := (List.range (n + 2)).foldl
        (fun (t : UniqueTable (@id LearningSession)) (i : ℕ) => t.insertOrIgnore ⟨1, 1, i + 2⟩)
        UniqueTable.empty } }

/-- The session to classify. -/
def newcomer : Row SessionEntry := ⟨1, sessionOfLength 0 .unknown⟩

end Slas.Apache
