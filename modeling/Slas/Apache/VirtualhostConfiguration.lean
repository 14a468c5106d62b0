import Mathlib
import Slas.Type.DateTimeStrings
import Slas.Database.TimeRule
import Slas.Apache.SessionMarking

/-!
The configuration of a virtualhost over the web:
`CommandExecutorObject::SetApacheAnomalyDetectionConfiguration` of
`server/src/apache/web/command_executor_object.cpp` and what it calls of
`server/src/database/database.cpp`.

* `setAnomalyDetectionConfiguration`: the operation;
* `getApacheAnomalyDetectionConfiguration`: what reads the configurations back;
* `exists_createDate_iff`: which dates the request may name;
* `Configured`: one configuration with these dates, exactly the sessions of the range
  in the learning set, nothing changed for others;
* `configured_iff`: after a success this holds exactly if the range has fewer than
  `2 ^ 32` sessions.

The number of sessions becomes an `unsigned` limit.
-/

namespace Slas.Apache

open Database
open MonadExcept (ofExcept)

/-! ### The source -/

/-- `type::Date::Create` of a text. -/
def createDate (date : Text) : Except DatabaseException Date :=
  match matchDate date.bytes with
  | none => .error .dateParseException
  | some (year, month, day) => do
      -- at most four digits, which are never out of range
      let year ← (stoi year).mapError fun _ => .outOfRange
      let month ← (stoi month).mapError fun _ => .outOfRange
      let day ← (stoi day).mapError fun _ => .outOfRange
      match Date.create? day month year with
      | some date => .ok date
      | none => .error .wrongDateValueException

/-- `apache::type::AnomalyDetectionConfigurationEntry`. -/
structure AnomalyDetectionConfigurationEntry where
  id : RowId
  agentName : Text
  virtualhostName : Text
  beginDate : Date
  endDate : Date
  deriving DecidableEq

/-- The sessions of an agent and a virtualhost that satisfy a time rule. -/
def isInRange (agentName virtualhostName : Text) (start stop : Timestamp)
    (r : Row SessionEntry) : Bool :=
  (r.val.agentName = agentName && r.val.virtualhost = virtualhostName) &&
    (Database.getTimeRule start stop).holds r.val.sessionStart

/-- `Database::GetApacheSessionStatisticsCount`. -/
def getApacheSessionStatisticsCount (agentName virtualhostName : Text) (start stop : Timestamp) :
    DatabaseM ℕ :=
  query fun s => s.apache.sessions.rows.countP (isInRange agentName virtualhostName start stop)

/-- `Database::GetApacheSessionStatistics`. -/
def getApacheSessionStatistics (agentName virtualhostName : Text) (start stop : Timestamp)
    (limit offset : ℕ) : DatabaseM (List (Row SessionEntry)) :=
  query fun s => Select.page limit offset
    (s.apache.sessions.rows.filter (isInRange agentName virtualhostName start stop))

/-- `Database::SetApacheAnomalyDetectionConfiguration`. Its nested selects of dates must
find them, as the columns are `not null`. -/
def setApacheAnomalyDetectionConfiguration (configuration : AnomalyDetectionConfigurationEntry) :
    DatabaseM Unit :=
  execSql [.write fun s => do
    let beginDateId ← s.dates.idOf? configuration.beginDate
    let endDateId ← s.dates.idOf? configuration.endDate
    pure { s with apache := { s.apache with
      configurations := s.apache.configurations.insertOrReplace
        ⟨configuration.agentName, configuration.virtualhostName, beginDateId, endDateId⟩ } }]

/-- `Database::GetApacheAnomalyDetectionConfiguration`. `Database::GetDateById` does what
the function of `GeneralDatabaseFunctions` does. -/
def getApacheAnomalyDetectionConfiguration :
    DatabaseM (List AnomalyDetectionConfigurationEntry) := do
  let rows ← query fun s => s.apache.configurations.rows
  rows.foldlM (fun configuration r => do
    let beginDate ← getDateById r.val.beginDateId
    let endDate ← getDateById r.val.endDateId
    pure (configuration ++ [⟨r.id, r.val.agentName, r.val.virtualhostName, beginDate, endDate⟩])) []

/-- The first and the last second of a day. -/
def firstSecond (date : Date) : Timestamp := ⟨⟨0, 0, 0, Time.checkTime_midnight⟩, date⟩

def lastSecond (date : Date) : Timestamp := ⟨⟨23, 59, 59, by decide⟩, date⟩

/-- `CommandExecutorObject::SetApacheAnomalyDetectionConfiguration`, up to its answer. The
`id` of the entry is not set, and not used. -/
def setAnomalyDetectionConfiguration (agentName virtualhostName beginDate endDate : Text) :
    DatabaseM Unit := do
  let agentId ← getAgentNameId agentName
  let virtualhostId ← getVirtualhostNameId virtualhostName
  let beginDate ← ofExcept (createDate beginDate)
  let endDate ← ofExcept (createDate endDate)
  let tbegin := firstSecond beginDate
  let tend := lastSecond endDate
  let count ← getApacheSessionStatisticsCount agentName virtualhostName tbegin tend
  let sessions ←
    getApacheSessionStatistics agentName virtualhostName tbegin tend (count % 2 ^ 32) 0
  addDate beginDate
  addDate endDate
  setApacheAnomalyDetectionConfiguration ⟨0, agentName, virtualhostName, beginDate, endDate⟩
  removeAllLearningSessions agentId virtualhostId
  setLearningSessions agentId virtualhostId (sessions.map (·.id))

/-! ### What is promised -/

/-- The sessions of an agent and a virtualhost that start on a day of the range, by
`Date::operator<`. -/
def sessionsOf (agentName virtualhostName : Text) (beginDate endDate : Date) (s : Store) :
    List (Row SessionEntry) :=
  s.apache.sessions.rows.filter fun r =>
    (r.val.agentName = agentName && r.val.virtualhost = virtualhostName) &&
      (!r.val.sessionStart.date.less beginDate && !endDate.less r.val.sessionStart.date)

/-- Both dates of a configuration are stored. -/
def HasDates (s : Store) (v : AnomalyDetectionConfiguration) : Prop :=
  (s.dates.get? v.beginDateId).isSome ∧ (s.dates.get? v.endDateId).isSome

/-- The virtualhost is configured with these dates and learns the sessions of the range,
and nothing has changed for other virtualhosts. -/
structure Configured (agentId virtualhostId : RowId) (agentName virtualhostName : Text)
    (beginDate endDate : Date) (s s' : Store) : Prop where
  configuration : ∃ r, (s'.apache.configurations.rows.filter fun r =>
      r.val.owner = (agentName, virtualhostName)) = [r] ∧
    s'.dates.get? r.val.beginDateId = some beginDate ∧ s'.dates.get? r.val.endDateId = some endDate
  readBack : (∀ v ∈ s.apache.configurations.vals, HasDates s v) → ∃ entries id,
    getApacheAnomalyDetectionConfiguration.exec ⟨s', none⟩ = (.ok entries, ⟨s', none⟩) ∧
      (entries.filter fun e => e.agentName = agentName && e.virtualhostName = virtualhostName)
        = [⟨id, agentName, virtualhostName, beginDate, endDate⟩]
  otherConfigurations :
    (s'.apache.configurations.rows.filter fun r => r.val.owner ≠ (agentName, virtualhostName))
      = s.apache.configurations.rows.filter fun r => r.val.owner ≠ (agentName, virtualhostName)
  dates : ∀ id date, s.dates.get? id = some date → s'.dates.get? id = some date
  learningSet : ∀ id, id ∈ learningIds agentId virtualhostId s'.apache ↔
    ∃ r ∈ sessionsOf agentName virtualhostName beginDate endDate s, r.id = id
  otherSets : ∀ v : LearningSession,
    ¬(v.agentNameId = agentId ∧ v.virtualhostNameId = virtualhostId) →
      (v ∈ s'.apache.learningSessions.vals ↔ v ∈ s.apache.learningSessions.vals)

/-! ### The dates of the request -/

/-- Both readings of a date agree on a text, which has no NUL byte. -/
lemma createDate_eq_ok_iff {date : Text} {d : Date} :
    createDate date = .ok d ↔ Date.createFromString date.bytes = .ok d := by
  rw [createDate, Date.createFromString, cStr_of_notMem date.nul_free]
  cases matchDate date.bytes with
  | none => simp [createFromGroups]
  | some groups =>
      obtain ⟨year, month, day⟩ := groups
      simp only [createFromGroups]
      cases stoi year with
      | error => simp [Except.mapError, bind, Except.bind]
      | ok year =>
          cases stoi month with
          | error => simp [Except.mapError, bind, Except.bind]
          | ok month =>
              cases stoi day with
              | error => simp [Except.mapError, bind, Except.bind]
              | ok day =>
                  simp only [Except.mapError, bind, Except.bind]
                  cases Date.create? day month year with
                  | none => simp
                  | some date => simp

/-- **Which dates are accepted**: exactly the texts that should be. -/
theorem exists_createDate_iff {date : Text} :
    (∃ d, createDate date = .ok d) ↔ IsDate date.bytes := by
  simp only [createDate_eq_ok_iff]
  rw [Date.exists_createFromString_iff, cStr_of_notMem date.nul_free]

/-! ### The range -/

/-- The seconds of the days of a range. -/
lemma firstSecond_le_and_le_lastSecond {beginDate endDate : Date} {t : Timestamp} :
    (firstSecond beginDate ≤ t ∧ t ≤ lastSecond endDate) ↔
      ¬t.date.less beginDate = true ∧ ¬endDate.less t.date = true := by
  have ht := t.time.checked
  rw [CheckTime] at ht
  have hfirst : (firstSecond beginDate).time ≤ t.time := by
    rw [Time.le_iff_seconds, Time.seconds, Time.seconds, firstSecond]
    dsimp only
    omega
  have hlast : t.time ≤ (lastSecond endDate).time := by
    rw [Time.le_iff_seconds, Time.seconds, Time.seconds, lastSecond]
    dsimp only
    omega
  rw [Timestamp.le_iff, Timestamp.le_iff, Date.less_iff, Date.less_iff, not_lt, not_lt,
    le_iff_lt_or_eq (a := beginDate), le_iff_lt_or_eq (a := t.date)]
  exact and_congr (or_congr_right (and_iff_left hfirst)) (or_congr_right (and_iff_left hlast))

/-- The rows that are counted and read. -/
lemma filter_isInRange (agentName virtualhostName : Text) (beginDate endDate : Date) (s : Store) :
    s.apache.sessions.rows.filter (isInRange agentName virtualhostName (firstSecond beginDate)
      (lastSecond endDate)) = sessionsOf agentName virtualhostName beginDate endDate s := by
  refine List.filter_congr fun r _ => ?_
  rw [isInRange, Database.getTimeRule]
  congr 1
  rw [Bool.eq_iff_iff, holds_timeRule, firstSecond_le_and_le_lastSecond]
  simp

/-! ### The undisturbed run -/

section Run

variable (agentId virtualhostId : RowId) (agentName virtualhostName : Text)
  (beginDate endDate : Date)

/-- The dates added. -/
def withDates (s : Store) : Store :=
  { s with dates := (s.dates.insertOrIgnore beginDate).insertOrIgnore endDate }

/-- The configuration set. -/
def withConfiguration (s : Store) : Store :=
  { s with apache := { s.apache with
    configurations := s.apache.configurations.insertOrReplace
      ⟨agentName, virtualhostName, (s.dates.idOf? beginDate).getD (-1),
        (s.dates.idOf? endDate).getD (-1)⟩ } }

/-- The sessions that are read: their number is narrowed to 32 bits. -/
def readSessions (s : Store) : List (Row SessionEntry) :=
  (sessionsOf agentName virtualhostName beginDate endDate s).take
    ((sessionsOf agentName virtualhostName beginDate endDate s).length % 2 ^ 32)

/-- What the operation makes of the database. -/
def configure (s : Store) : Store :=
  insertLearningSet agentId virtualhostId
    ((readSessions agentName virtualhostName beginDate endDate s).map (·.id))
    (removeLearningSet agentId virtualhostId
      (withConfiguration agentName virtualhostName beginDate endDate
        (withDates beginDate endDate s)))

lemma exec_setApacheAnomalyDetectionConfiguration (id : RowId) (s : Store)
    (saved : Option Store) : (setApacheAnomalyDetectionConfiguration
        ⟨id, agentName, virtualhostName, beginDate, endDate⟩).exec
          ⟨withDates beginDate endDate s, saved⟩
      = (.ok (), ⟨withConfiguration agentName virtualhostName beginDate endDate
          (withDates beginDate endDate s), saved⟩) := by
  set dates := (s.dates.insertOrIgnore beginDate).insertOrIgnore endDate with hdates
  obtain ⟨beginDateId, hbegin⟩ : ∃ id, dates.idOf? beginDate = some id :=
    (s.dates.exists_idOf?_insertOrIgnore beginDate).imp fun _ =>
      UniqueTable.idOf?_insertOrIgnore endDate
  obtain ⟨endDateId, hend⟩ : ∃ id, dates.idOf? endDate = some id :=
    (s.dates.insertOrIgnore beginDate).exists_idOf?_insertOrIgnore endDate
  simp [setApacheAnomalyDetectionConfiguration, execSql, Connection.step, withConfiguration,
    withDates, ← hdates, hbegin, hend]

lemma exec_getApacheSessionStatisticsCount (c : Connection Store) :
    (getApacheSessionStatisticsCount agentName virtualhostName (firstSecond beginDate)
        (lastSecond endDate)).exec c
      = (.ok (sessionsOf agentName virtualhostName beginDate endDate c.data).length, c) := by
  rw [getApacheSessionStatisticsCount, exec_query, List.countP_eq_length_filter, filter_isInRange]

lemma exec_getApacheSessionStatistics (c : Connection Store) :
    (getApacheSessionStatistics agentName virtualhostName (firstSecond beginDate)
        (lastSecond endDate)
        ((sessionsOf agentName virtualhostName beginDate endDate c.data).length % 2 ^ 32) 0).exec c
      = (.ok (readSessions agentName virtualhostName beginDate endDate c.data), c) := by
  rw [getApacheSessionStatistics, exec_query, filter_isInRange]
  rfl

end Run

section Exec

variable {agentId : RowId} {agentName virtualhostName beginText endText : Text}
  {beginDate endDate : Date} {c : Connection Store}

/-- **What the operation does**, up to the insert of the learning set. -/
lemma exec_setAnomalyDetectionConfiguration
    (hbegin : createDate beginText = .ok beginDate) (hend : createDate endText = .ok endDate)
    (hagent : c.data.agentNames.idOf? agentName = some agentId) :
    (setAnomalyDetectionConfiguration agentName virtualhostName beginText endText).exec c
      = (setLearningSessions agentId (virtualhostIdOf c.data virtualhostName)
          ((readSessions agentName virtualhostName beginDate endDate c.data).map (·.id))).exec
        ⟨removeLearningSet agentId (virtualhostIdOf c.data virtualhostName)
          (withConfiguration agentName virtualhostName beginDate endDate
            (withDates beginDate endDate c.data)), c.saved⟩ := by
  rw [setAnomalyDetectionConfiguration, getAgentNameId,
    Prog.exec_bind_ok (exec_queryFirst c hagent), getVirtualhostNameId,
    Prog.exec_bind_ok (exec_query c _), hbegin, hend]
  refine (Prog.exec_bind_ok
    (exec_getApacheSessionStatisticsCount agentName virtualhostName beginDate endDate c)).trans ?_
  refine (Prog.exec_bind_ok
    (exec_getApacheSessionStatistics agentName virtualhostName beginDate endDate c)).trans ?_
  refine (Prog.exec_bind_ok (exec_addDate c beginDate)).trans ?_
  refine (Prog.exec_bind_ok (exec_addDate _ endDate)).trans ?_
  refine (Prog.exec_bind_ok (exec_setApacheAnomalyDetectionConfiguration agentName
    virtualhostName beginDate endDate 0 c.data c.saved)).trans ?_
  exact Prog.exec_bind_ok (exec_writeApache _ _)

lemma exec_setLearningSessions (hc : c.Idle) (agentId virtualhostId : RowId) (ids : List RowId) :
    (setLearningSessions agentId virtualhostId ids).exec c
      = (.ok (), ⟨insertLearningSet agentId virtualhostId ids c.data, none⟩) := by
  rw [setLearningSessions, exec_transaction hc, applyAll_insertLearningSession]

/-- It fails while a transaction is open. -/
lemma idle_of_exec_setLearningSessions {virtualhostId : RowId} {ids : List RowId}
    {c' : Connection Store}
    (h : (setLearningSessions agentId virtualhostId ids).exec c = (.ok (), c')) : c.Idle := by
  by_contra hopen
  rw [setLearningSessions, execSql, Prog.exec_lift, Option.map_none,
    Connection.execute_begin_of_open hopen] at h
  cases congrArg Prod.fst h

/-- **The undisturbed run** on a connection without a transaction. -/
lemma exec_configure (hc : c.Idle) (hbegin : createDate beginText = .ok beginDate)
    (hend : createDate endText = .ok endDate)
    (hagent : c.data.agentNames.idOf? agentName = some agentId) :
    (setAnomalyDetectionConfiguration agentName virtualhostName beginText endText).exec c
      = (.ok (), ⟨configure agentId (virtualhostIdOf c.data virtualhostName) agentName
          virtualhostName beginDate endDate c.data, none⟩) := by
  rw [exec_setAnomalyDetectionConfiguration hbegin hend hagent]
  refine exec_setLearningSessions ?_ _ _ _
  exact hc

lemma strict_setAnomalyDetectionConfiguration :
    Prog.Strict (setAnomalyDetectionConfiguration agentName virtualhostName beginText endText) := by
  have hofExcept : ∀ r : Except DatabaseException Date,
      Prog.Strict (ofExcept r : DatabaseM Date) := by
    rintro (e | date)
    · exact Prog.Strict.throw e
    · exact Prog.Strict.pure date
  refine (strict_queryFirst _).bind fun agentId => (strict_query _).bind fun virtualhostId => ?_
  refine (hofExcept _).bind fun beginDate => (hofExcept _).bind fun endDate => ?_
  refine (strict_query _).bind fun count => (strict_query _).bind fun sessions => ?_
  refine (strict_write _).bind fun _ => (strict_write _).bind fun _ => ?_
  refine (strict_execSql (List.cons_ne_nil _ _)).bind fun _ => (strict_write _).bind fun _ => ?_
  exact strict_execSql (List.cons_ne_nil _ _)

/-- A call that has succeeded has found no transaction open. -/
lemma configure_of_run {env : ℕ → Option Fault} {n n' : ℕ} {c' : Connection Store}
    (hbegin : createDate beginText = .ok beginDate) (hend : createDate endText = .ok endDate)
    (hagent : c.data.agentNames.idOf? agentName = some agentId)
    (hrun : (setAnomalyDetectionConfiguration agentName virtualhostName beginText
      endText).run env n c
      = (.ok (), n', c')) :
    c'.data = configure agentId (virtualhostIdOf c.data virtualhostName) agentName
      virtualhostName beginDate endDate c.data := by
  have hexec := strict_setAnomalyDetectionConfiguration.exec_of_run hrun
  have hidle := hexec
  rw [exec_setAnomalyDetectionConfiguration hbegin hend hagent] at hidle
  have hc := idle_of_exec_setLearningSessions hidle
  replace hc : c.Idle := hc
  rw [exec_configure hc hbegin hend hagent] at hexec
  exact congrArg (fun r => r.2.data) hexec.symm

end Exec

/-! ### What it leaves -/

section Leaves

variable {agentId virtualhostId : RowId} {agentName virtualhostName : Text}
  {beginDate endDate : Date} {s : Store}

lemma get?_withDates {id : RowId} {date : Date} (h : s.dates.get? id = some date) :
    (withDates beginDate endDate s).dates.get? id = some date :=
  UniqueTable.get?_insertOrIgnore endDate (UniqueTable.get?_insertOrIgnore beginDate h)

/-- The dates of the configuration are found under the ids it is given. -/
lemma get?_idOf?_withDates (beginDate endDate : Date) (s : Store) :
    (withDates beginDate endDate s).dates.get?
        (((withDates beginDate endDate s).dates.idOf? beginDate).getD (-1)) = some beginDate ∧
      (withDates beginDate endDate s).dates.get?
        (((withDates beginDate endDate s).dates.idOf? endDate).getD (-1)) = some endDate := by
  refine ⟨?_, UniqueTable.get?_idOf?_insertOrIgnore _ _⟩
  have hget := s.dates.get?_idOf?_insertOrIgnore beginDate
  obtain ⟨id, hid⟩ := s.dates.exists_idOf?_insertOrIgnore beginDate
  have hid' : (withDates beginDate endDate s).dates.idOf? beginDate = some id :=
    UniqueTable.idOf?_insertOrIgnore endDate hid
  rw [show (s.dates.insertOrIgnore beginDate).idOf? beginDate = some id from hid,
    Option.getD_some] at hget
  rw [hid', Option.getD_some]
  exact UniqueTable.get?_insertOrIgnore endDate hget

lemma mem_learningIds_configure {id : RowId} :
    id ∈ learningIds agentId virtualhostId (configure agentId virtualhostId agentName
        virtualhostName beginDate endDate s).apache ↔
      ∃ r ∈ readSessions agentName virtualhostName beginDate endDate s, r.id = id := by
  rw [mem_learningIds, configure, mem_replaceLearningSet, List.mem_map]
  simp

/-- The learning set is the range exactly if all of it has been read. -/
lemma learningSet_configure_iff :
    (∀ id, id ∈ learningIds agentId virtualhostId (configure agentId virtualhostId agentName
        virtualhostName beginDate endDate s).apache ↔
      ∃ r ∈ sessionsOf agentName virtualhostName beginDate endDate s, r.id = id) ↔
      (sessionsOf agentName virtualhostName beginDate endDate s).length < 2 ^ 32 := by
  simp only [mem_learningIds_configure, readSessions]
  set rows := sessionsOf agentName virtualhostName beginDate endDate s with hrows
  constructor
  · intro h
    have hnodup : (rows.map (·.id)).Nodup :=
      s.apache.sessions.nodup_ids.sublist (List.filter_sublist.map _)
    have hsub : rows.map (·.id) ⊆ (rows.take (rows.length % 2 ^ 32)).map (·.id) := by
      intro id hid
      exact List.mem_map.mpr ((h id).mpr (List.mem_map.mp hid))
    have hle := (hnodup.subperm hsub).length_le
    rw [List.length_map, List.length_map, List.length_take] at hle
    have hlt : rows.length % 2 ^ 32 < 2 ^ 32 := Nat.mod_lt _ (by positivity)
    omega
  · intro h id
    rw [Nat.mod_eq_of_lt h, List.take_length]

/-- What is read back of a row. -/
def entryOf (s : Store) (r : Row AnomalyDetectionConfiguration) :
    AnomalyDetectionConfigurationEntry where
  id := r.id
  agentName := r.val.agentName
  virtualhostName := r.val.virtualhostName
  beginDate := (s.dates.get? r.val.beginDateId).getD ⟨1, 1, 1970, by decide, by decide⟩
  endDate := (s.dates.get? r.val.endDateId).getD ⟨1, 1, 1970, by decide, by decide⟩

lemma exec_getApacheAnomalyDetectionConfiguration
    (hdates : ∀ r ∈ s.apache.configurations.rows, HasDates s r.val) :
    getApacheAnomalyDetectionConfiguration.exec ⟨s, none⟩
      = (.ok (s.apache.configurations.rows.map (entryOf s)), ⟨s, none⟩) := by
  rw [getApacheAnomalyDetectionConfiguration, Prog.exec_bind_ok (exec_query _ _)]
  set round : List AnomalyDetectionConfigurationEntry → Row AnomalyDetectionConfiguration →
      DatabaseM (List AnomalyDetectionConfigurationEntry) := fun configuration r => do
    let beginDate ← getDateById r.val.beginDateId
    let endDate ← getDateById r.val.endDateId
    pure (configuration ++ [⟨r.id, r.val.agentName, r.val.virtualhostName, beginDate, endDate⟩])
  have hround : ∀ r ∈ s.apache.configurations.rows, ∀ entries,
      (round entries r).exec ⟨s, none⟩ = (.ok (entries ++ [entryOf s r]), ⟨s, none⟩) := by
    intro r hr entries
    obtain ⟨hbegin, hend⟩ := hdates r hr
    obtain ⟨beginDate, hbegin⟩ := Option.isSome_iff_exists.mp hbegin
    obtain ⟨endDate, hend⟩ := Option.isSome_iff_exists.mp hend
    refine (Prog.exec_bind_ok (exec_getDateById _ hbegin)).trans
      ((Prog.exec_bind_ok (exec_getDateById _ hend)).trans ?_)
    simp [entryOf, hbegin, hend]
  obtain ⟨entries, c, hrun, rfl, rfl⟩ := Prog.exec_foldlM s.apache.configurations.rows round
    (fun done entries c => c = ⟨s, none⟩ ∧ entries = done.map (entryOf s))
    (by
      rintro done r hr entries c ⟨rfl, rfl⟩
      refine ⟨_, _, hround r (hr.subset (by simp)) _, rfl, ?_⟩
      rw [List.map_append]
      rfl) (b := []) ⟨rfl, rfl⟩
  exact hrun

/-- The configuration that has been set, and those of other virtualhosts. -/
lemma filter_configure_self (agentId virtualhostId : RowId) (agentName virtualhostName : Text)
    (beginDate endDate : Date) (s : Store) :
      ∃ id, (configure agentId virtualhostId agentName virtualhostName
      beginDate endDate s).apache.configurations.rows.filter
        (fun r => r.val.owner = (agentName, virtualhostName))
      = [⟨id, agentName, virtualhostName,
          ((withDates beginDate endDate s).dates.idOf? beginDate).getD (-1),
          ((withDates beginDate endDate s).dates.idOf? endDate).getD (-1)⟩] :=
  ⟨_, UniqueTable.filter_insertOrReplace_self s.apache.configurations
    ⟨agentName, virtualhostName, ((withDates beginDate endDate s).dates.idOf? beginDate).getD (-1),
      ((withDates beginDate endDate s).dates.idOf? endDate).getD (-1)⟩⟩

lemma filter_configure_ne : (configure agentId virtualhostId agentName virtualhostName
      beginDate endDate s).apache.configurations.rows.filter
        (fun r => r.val.owner ≠ (agentName, virtualhostName))
      = s.apache.configurations.rows.filter fun r => r.val.owner ≠ (agentName, virtualhostName) :=
  UniqueTable.filter_insertOrReplace_ne s.apache.configurations
    ⟨agentName, virtualhostName, ((withDates beginDate endDate s).dates.idOf? beginDate).getD (-1),
      ((withDates beginDate endDate s).dates.idOf? endDate).getD (-1)⟩

/-- If the dates of all configurations were stored, they still are. -/
lemma hasDates_configure (h : ∀ v ∈ s.apache.configurations.vals, HasDates s v) :
    ∀ r ∈ (configure agentId virtualhostId agentName virtualhostName
      beginDate endDate s).apache.configurations.rows,
      HasDates (configure agentId virtualhostId agentName virtualhostName beginDate endDate s)
        r.val := by
  have hdates : (configure agentId virtualhostId agentName virtualhostName beginDate endDate
      s).dates
      = (withDates beginDate endDate s).dates := rfl
  intro r hr
  rw [HasDates, hdates]
  rcases UniqueTable.of_mem_insertOrReplace hr with hval | ⟨hr, -⟩
  · obtain ⟨hbegin, hend⟩ := get?_idOf?_withDates beginDate endDate s
    rw [hval, hbegin, hend]
    exact ⟨rfl, rfl⟩
  · obtain ⟨hbegin, hend⟩ := h r.val (List.mem_map_of_mem hr)
    obtain ⟨date, hbegin⟩ := Option.isSome_iff_exists.mp hbegin
    obtain ⟨date', hend⟩ := Option.isSome_iff_exists.mp hend
    rw [get?_withDates hbegin, get?_withDates hend]
    exact ⟨rfl, rfl⟩

/-- Every part of the promise but the learning set is kept. -/
lemma configured_configure_iff : Configured agentId virtualhostId agentName virtualhostName
    beginDate endDate s (configure agentId virtualhostId agentName virtualhostName beginDate
      endDate s) ↔
      (sessionsOf agentName virtualhostName beginDate endDate s).length < 2 ^ 32 := by
  refine ⟨fun h => learningSet_configure_iff.mp h.learningSet, fun h => ?_⟩
  set s' := configure agentId virtualhostId agentName virtualhostName beginDate endDate s with hs'
  obtain ⟨hbegin, hend⟩ := get?_idOf?_withDates beginDate endDate s
  obtain ⟨id, hself⟩ := filter_configure_self agentId virtualhostId agentName virtualhostName
    beginDate endDate s
  refine ⟨⟨_, hself, hbegin, hend⟩, fun hdates => ⟨_, id,
    exec_getApacheAnomalyDetectionConfiguration (hasDates_configure hdates), ?_⟩,
    filter_configure_ne, fun _ _ => get?_withDates, learningSet_configure_iff.mpr h, fun v hv => ?_⟩
  · rw [List.filter_map]
    have howner : ((fun e : AnomalyDetectionConfigurationEntry =>
        decide (e.agentName = agentName) && decide (e.virtualhostName = virtualhostName))
          ∘ entryOf s')
        = fun r => decide (r.val.owner = (agentName, virtualhostName)) := by
      funext r
      rw [Bool.eq_iff_iff, decide_eq_true_eq, AnomalyDetectionConfiguration.owner, Prod.mk.injEq]
      exact (Bool.and_eq_true _ _).to_iff.trans (and_congr decide_eq_true_iff decide_eq_true_iff)
    have hdate : ∀ {id : RowId} {date : Date}, (withDates beginDate endDate s).dates.get? id
        = some date →
        (s'.dates.get? id).getD ⟨1, 1, 1970, by decide, by decide⟩ = date := fun hget => by
      rw [show s'.dates.get? _ = some _ from hget, Option.getD_some]
    rw [howner, hself, List.map_singleton, entryOf, hdate hbegin, hdate hend]
  · rw [hs', configure, mem_replaceLearningSet]
    simp only [hv, not_false_eq_true, and_true, false_and, or_false]
    rfl

end Leaves

/-- **When a virtualhost is configured as asked**: after every call that succeeds, whatever
has failed on the way, exactly if the sessions of the range are fewer than `2 ^ 32`. -/
theorem configured_iff {agentName virtualhostName beginText endText : Text} {agentId : RowId}
    {beginDate endDate : Date} {env : ℕ → Option Fault} {n n' : ℕ} {c c' : Connection Store}
    (hbegin : createDate beginText = .ok beginDate) (hend : createDate endText = .ok endDate)
    (hagent : c.data.agentNames.idOf? agentName = some agentId)
    (hrun : (setAnomalyDetectionConfiguration agentName virtualhostName beginText
      endText).run env n c
      = (.ok (), n', c')) :
    Configured agentId (virtualhostIdOf c.data virtualhostName) agentName virtualhostName
        beginDate endDate c.data c'.data ↔
      (sessionsOf agentName virtualhostName beginDate endDate c.data).length < 2 ^ 32 := by
  rw [configure_of_run hbegin hend hagent hrun]
  exact configured_configure_iff

/-! ### Two days, and a busy one -/

/-- The sessions of the agent `a`, whose virtualhost `v` is known. -/
def withSessions (sessions : List SessionEntry) : Store :=
  { Store.empty with
    agentNames := UniqueTable.empty.insertOrIgnore (cString [97])
    apache := {
      Tables.empty with
      virtualhostsNames := UniqueTable.empty.insertOrIgnore (cString [118])
      sessions := sessions.foldl Table.insert Table.empty } }

/-- `n` sessions of the virtualhost, all of them on the first of January 2016. -/
def busyDay (n : ℕ) : Store := withSessions (List.replicate n (sessionOfLength 0 .unknown))

/-- The day and its text, `2016-01-01`. -/
def newYear : Date := ⟨1, 1, 2016, Date.checkDate_newYear, Date.fits_2016⟩

def newYearText : Text := ⟨[50, 48, 49, 54, 45, 48, 49, 45, 48, 49], by decide⟩

lemma createDate_newYearText : createDate newYearText = .ok newYear := rfl

lemma length_sessionsOf_busyDay (n : ℕ) :
    (sessionsOf (cString [97]) (cString [118]) newYear newYear (busyDay n)).length = n := by
  set p : SessionEntry → Bool := fun v =>
    (v.agentName = cString [97] && v.virtualhost = cString [118]) &&
      (!v.sessionStart.date.less newYear && !newYear.less v.sessionStart.date)
  have hvals : (busyDay n).apache.sessions.vals = List.replicate n (sessionOfLength 0 .unknown) :=
    (Table.foldl_insert_vals _ _).trans (List.nil_append _)
  calc (sessionsOf (cString [97]) (cString [118]) newYear newYear (busyDay n)).length
      = ((busyDay n).apache.sessions.vals.filter p).length := by
        rw [Table.vals, List.filter_map, List.length_map]
        rfl
    _ = n := by rw [hvals, List.filter_replicate_of_pos rfl, List.length_replicate]

/-- The day is configured, and the call succeeds. -/
lemma run_withSessions (sessions : List SessionEntry) : ∃ n' c',
    (setAnomalyDetectionConfiguration (cString [97]) (cString [118]) newYearText
        newYearText).run (fun _ => none) 0 ⟨withSessions sessions, none⟩ = (.ok (), n', c') ∧
      c'.data = configure 1 1 (cString [97]) (cString [118]) newYear newYear
        (withSessions sessions) := by
  set c : Connection Store := ⟨withSessions sessions, none⟩
  have hc : c.Idle := rfl
  have hagent : c.data.agentNames.idOf? (cString [97]) = some 1 := rfl
  obtain ⟨n', hrun⟩ := Prog.run_of_exec
    (exec_configure hc createDate_newYearText createDate_newYearText hagent) 0
  exact ⟨n', _, hrun, rfl⟩

/-- Two sessions of the day, and one of the day after it between them. -/
def daysOfSessions : Store :=
  withSessions [sessionOfLength 5 .unknown,
    { sessionOfLength 5 .unknown with
      sessionStart := ⟨⟨10, 0, 0, Time.checkTime_ten⟩,
        ⟨2, 1, 2016, Date.checkDate_dayAfterNewYear, Date.fits_2016⟩⟩ },
    sessionOfLength 5 .normal]

theorem configured_iff_daysOfSessions : ∃ n' c',
    (setAnomalyDetectionConfiguration (cString [97]) (cString [118]) newYearText
        newYearText).run (fun _ => none) 0 ⟨daysOfSessions, none⟩ = (.ok (), n', c') ∧
      Configured 1 1 (cString [97]) (cString [118]) newYear newYear daysOfSessions c'.data ∧
      learningIds 1 1 c'.data.apache = [1, 3] := by
  obtain ⟨n', c', hrun, hdata⟩ := run_withSessions _
  refine ⟨n', c', hrun,
    (configured_iff createDate_newYearText createDate_newYearText rfl hrun).mpr ?_, ?_⟩
  · decide +kernel
  · rw [hdata]
    decide +kernel

/-- With `2 ^ 32` sessions on the day none is read, and the learning set is empty. -/
theorem not_configured_busyDay : ∃ n' c',
    (setAnomalyDetectionConfiguration (cString [97]) (cString [118]) newYearText
        newYearText).run (fun _ => none) 0 ⟨busyDay (2 ^ 32), none⟩ = (.ok (), n', c') ∧
      ¬Configured 1 1 (cString [97]) (cString [118]) newYear newYear (busyDay (2 ^ 32))
        c'.data := by
  obtain ⟨n', c', hrun, hdata⟩ := run_withSessions (List.replicate (2 ^ 32) _)
  refine ⟨n', c', hrun, fun h => ?_⟩
  rw [hdata] at h
  have hlt := configured_configure_iff.mp h
  rw [length_sessionsOf_busyDay] at hlt
  exact lt_irrefl _ hlt

end Slas.Apache
