import Mathlib
import Slas.Lib.Select
import Slas.Database.Basic

/-!
The statements on the bash tables,
`server/src/bash/database/detail/raw_database_functions.cpp`.

Every function is one call on the connection; the functions of
`bash::database::DatabaseFunctions` that only forward to one of them are not
repeated. A row that is handed out with its id is a `Row`. Where the source
leaves the order of the rows to SQLite, they come by increasing id.
-/

namespace Slas.Bash.Raw

open Database

variable (c : Connection Store)

/-- A `select` from the bash tables. -/
def queryBash {α : Type} (f : Tables → α) : DatabaseM α := query fun s => f s.bash

/-- A statement that writes to one of the bash tables. -/
def writeBash (f : Tables → Tables) : DatabaseM Unit := write fun s => { s with bash := f s.bash }

@[simp] lemma exec_queryBash {α : Type} (f : Tables → α) :
    (queryBash f).exec c = (.ok (f c.data.bash), c) := exec_query c _

@[simp] lemma exec_writeBash (f : Tables → Tables) : (writeBash f).exec c
    = (.ok (), { c with data := { c.data with bash := f c.data.bash } }) := exec_write c _

lemma triple_queryBash {env : ℕ → Option Fault} {P : ℕ → Connection Store → Prop}
    {E : DatabaseException → ℕ → Connection Store → Prop} {α : Type} {f : Tables → α}
    {Q : α → ℕ → Connection Store → Prop}
    (h : ∀ n c, P n c → (env n = none → Q (f c.data.bash) (n + 1) c) ∧
      (env n ≠ none → E .cantExecuteSqlStatementException (n + 1) c)) :
    Prog.Triple env P (queryBash f) Q E := triple_query h

lemma reads_queryBash {α : Type} (f : Tables → α) : Reads (queryBash f) := reads_query _

lemma steps_queryBash {R : Store → Store → Prop} {α : Type} (f : Tables → α) :
    StepsIn R (queryBash f) := steps_query _

lemma keeps_queryBash {P : Store → Prop} {α : Type} (f : Tables → α) :
    Prog.Keeps (fun c => c.All P) (queryBash f) := keeps_query _

lemma steps_writeBash {R : Store → Store → Prop} {f : Tables → Tables}
    (hf : ∀ s : Store, R s { s with bash := f s.bash }) : StepsIn R (writeBash f) := steps_write hf

lemma advances_queryBash {R : Store → Store → Prop} {α : Type} (f : Tables → α) :
    AdvancesIn R (queryBash f) := advances_query _

/-! ### Users, commands and logs -/

/-- `RawDatabaseFunctions::AddSystemUser`. -/
def addSystemUser (uid : ℤ) : DatabaseM Unit :=
  writeBash fun t => { t with systemUsers := t.systemUsers.insertOrIgnore uid }

/-- `RawDatabaseFunctions::GetSystemUserId`. -/
def getSystemUserId (uid : ℤ) : DatabaseM RowId :=
  queryBash fun t => (t.systemUsers.idOf? uid).getD (-1)

/-- `RawDatabaseFunctions::GetSystemUserById`. -/
def getSystemUserById (id : RowId) : DatabaseM ℤ := queryFirst fun s => s.bash.systemUsers.get? id

/-- `RawDatabaseFunctions::GetSystemUsersIdsFromLogs`. -/
def getSystemUsersIdsFromLogs (agentNameId : RowId) : DatabaseM (List RowId) :=
  queryBash fun t =>
    ((t.logs.vals.filter fun l => l.agentNameId = agentNameId).map (·.userId)).dedup

/-- `RawDatabaseFunctions::AddCommand`. -/
def addCommand (command : Text) : DatabaseM Unit :=
  writeBash fun t => { t with commands := t.commands.insertOrIgnore command }

/-- `RawDatabaseFunctions::GetCommandId`. -/
def getCommandId (command : Text) : DatabaseM RowId :=
  queryBash fun t => (t.commands.idOf? command).getD (-1)

/-- `RawDatabaseFunctions::GetAllCommandsIds`. -/
def getAllCommandsIds : DatabaseM (List RowId) := queryBash fun t => t.commands.rows.map (·.id)

/-- `RawDatabaseFunctions::AddLog`. -/
def addLog (log : Log) : DatabaseM Unit := writeBash fun t => { t with logs := t.logs.insert log }

/-! ### Daily system statistics -/

/-- `RawDatabaseFunctions::CountCommandsForDailySystemStatistic`. -/
def countCommandsForDailySystemStatistic (agentNameId dateId commandId : RowId) : DatabaseM ℤ :=
  queryBash fun t => (t.logs.vals.countP fun l =>
    l.agentNameId = agentNameId ∧ l.dateId = dateId ∧ l.commandId = commandId : ℕ)

/-- `RawDatabaseFunctions::AddDailySystemStatistics`. -/
def addDailySystemStatistics (statistics : List DailySystemStatistic) : DatabaseM Unit :=
  execSql (.begin :: (Connection.writes (statistics.map fun statistic s =>
    { s with bash := { s.bash with dailyStatistics := s.bash.dailyStatistics.insert statistic } })
    ++ [.commit]))

/-- `RawDatabaseFunctions::GetDateIdsWithoutCreatedDailySystemStatistic`. -/
def getDateIdsWithoutCreatedDailySystemStatistic (agentNameId : RowId) :
    DatabaseM (List RowId) :=
  query fun s => ((Select.leftJoin s.dates.rows s.bash.dailyStatistics.vals
    fun dt bdst => dt.id = bdst.dateId && bdst.agentNameId = agentNameId).filter
      fun p => p.2.isNone).map fun p => p.1.id

/-! ### Daily user statistics -/

/-- `RawDatabaseFunctions::CountCommandsForUserDailyStatisticFromLogs`. -/
def countCommandsForUserDailyStatisticFromLogs (agentNameId dateId userId commandId : RowId) :
    DatabaseM ℤ :=
  queryBash fun t => (t.logs.vals.countP fun l => l.agentNameId = agentNameId ∧
    l.dateId = dateId ∧ l.commandId = commandId ∧ l.userId = userId : ℕ)

/-- `RawDatabaseFunctions::GetNotCalculatedDatesIdsFromLogs`. The `on` clause
compares the users only. -/
def getNotCalculatedDatesIdsFromLogs (agentNameId userId : RowId) : DatabaseM (List RowId) :=
  queryBash fun t => (((Select.leftJoin t.logs.vals t.dailyUserStatistics.vals
    fun l s => l.userId = s.userId).filter fun p =>
      p.2.isNone && p.1.agentNameId = agentNameId && p.1.userId = userId).map
        fun p => p.1.dateId).dedup

/-- `RawDatabaseFunctions::GetCommandsIdsFromLogs`. -/
def getCommandsIdsFromLogs (agentNameId userId dateId : RowId) : DatabaseM (List RowId) :=
  queryBash fun t => ((t.logs.vals.filter fun l => l.agentNameId = agentNameId ∧
    l.dateId = dateId ∧ l.userId = userId).map (·.commandId)).dedup

/-- `RawDatabaseFunctions::AddDailyUserStatistic`. -/
def addDailyUserStatistic (us : DailyUserStatistic) : DatabaseM Unit :=
  writeBash fun t => { t with dailyUserStatistics := t.dailyUserStatistics.insert us }

/-- The rows `RawDatabaseFunctions::GetDailyUserStatisticId` finds the first of. -/
def findDailyUserStatistic (t : Tables) (agentNameId userId dateId : RowId) : Option RowId :=
  (t.dailyUserStatistics.rows.find? fun r => r.val.agentNameId = agentNameId ∧
    r.val.userId = userId ∧ r.val.dateId = dateId).map (·.id)

/-- `RawDatabaseFunctions::GetDailyUserStatisticId`. -/
def getDailyUserStatisticId (agentNameId userId dateId : RowId) : DatabaseM RowId :=
  queryFirst fun s => findDailyUserStatistic s.bash agentNameId userId dateId

/-- `RawDatabaseFunctions::AddDailyUserCommandStatistic`. -/
def addDailyUserCommandStatistic (ucs : DailyUserCommandStatistic) : DatabaseM Unit :=
  writeBash fun t =>
    { t with dailyUserCommandStatistics := t.dailyUserCommandStatistics.insert ucs }

/-! ### Configurations -/

/-- `RawDatabaseFunctions::AddAnomalyDetectionConfiguration`. -/
def addAnomalyDetectionConfiguration (configuration : AnomalyDetectionConfiguration) :
    DatabaseM Unit :=
  writeBash fun t => { t with configurations := t.configurations.insertOrReplace configuration }

/-- `RawDatabaseFunctions::GetConfigurationIdForAgent`. -/
def getConfigurationIdForAgent (agentId : RowId) : DatabaseM RowId :=
  queryFirst fun s => s.bash.configurations.idOf? agentId

/-- `RawDatabaseFunctions::RemoveAnomalyDetectionConfiguration`. -/
def removeAnomalyDetectionConfiguration (id : RowId) : DatabaseM Unit :=
  writeBash fun t => { t with configurations := t.configurations.delete fun r => r.id ≠ id }

/-- `update BASH_ANOMALY_DETECTION_CONFIGURATION_TABLE set CHANGED`. -/
def setChanged (configurationId : RowId) (changed : Bool) (t : Tables) : Tables :=
  { t with
    configurations := t.configurations.update
      (fun r => if r.id = configurationId then { r.val with changed } else r.val)
      fun r => by split_ifs <;> rfl }

/-- `RawDatabaseFunctions::MarkConfigurationAsUnchanged`. -/
def markConfigurationAsUnchanged (configurationId : RowId) : DatabaseM Unit :=
  writeBash (setChanged configurationId false)

/-- `RawDatabaseFunctions::MarkConfigurationAsChanged`. -/
def markConfigurationAsChanged (configurationId : RowId) : DatabaseM Unit :=
  writeBash (setChanged configurationId true)

/-- `RawDatabaseFunctions::RemoveAllCommandsFromConfiguration`. -/
def removeAllCommandsFromConfiguration (configurationId : RowId) : DatabaseM Unit :=
  writeBash fun t => { t with
    selectedCommands := t.selectedCommands.delete fun r => r.val.configurationId ≠ configurationId }

/-- How many commands a configuration selects by itself. -/
def defaultCommandsLimit : ℕ := 100

/-- The order in which SQLite delivers the rows of an `order by SUMMARY desc`. Which of two rows
of one summary comes first is left to it. -/
structure SummaryOrder where
  order : List (CommandStatistic × Row AnomalyDetectionConfiguration) →
    List (CommandStatistic × Row AnomalyDetectionConfiguration)
  perm : ∀ rows, (order rows).Perm rows
  sorted : ∀ rows, (order rows).Pairwise fun p q => q.1.summary ≤ p.1.summary

/-- The order that keeps the rows of one summary as they come. -/
def SummaryOrder.stable : SummaryOrder where
  order := Select.orderBy fun p => -p.1.summary
  perm := Select.orderBy_perm _
  sorted rows := (Select.orderBy_sorted (fun p : CommandStatistic × Row
    AnomalyDetectionConfiguration => -p.1.summary) rows).imp fun h => neg_le_neg_iff.mp h

/-- The commands of the range of a configuration, with the configuration. -/
def commandsOfRange (t : Tables) (configurationId : RowId) :
    List (CommandStatistic × Row AnomalyDetectionConfiguration) :=
  (Select.join t.commandsStatistics.vals t.configurations.rows fun bdrcst badct =>
    bdrcst.agentNameId = badct.val.agentNameId && bdrcst.beginDateId = badct.val.beginDateId &&
      bdrcst.endDateId = badct.val.endDateId).filter fun p => p.2.id = configurationId

/-- What `RawDatabaseFunctions::AddDefaultCommandsToConfiguration` selects. -/
def defaultCommands (order : SummaryOrder) (t : Tables) (configurationId : RowId) :
    List SelectedCommand :=
  (Select.page defaultCommandsLimit 0 (order.order (commandsOfRange t configurationId))).map
    fun p => ⟨p.2.id, p.1.commandId⟩

/-- `RawDatabaseFunctions::AddDefaultCommandsToConfiguration`. -/
def addDefaultCommandsToConfiguration (order : SummaryOrder) (configurationId : RowId) :
    DatabaseM Unit :=
  execSql [.write fun s => (s.bash.selectedCommands.insertAll
    (defaultCommands order s.bash configurationId)).map fun selectedCommands =>
      { s with bash := { s.bash with selectedCommands } }]

/-- The `insert into BASH_SELECTED_COMMANDS_TABLE` of a command. It fails if the
configuration selects the command already. -/
def insertSelectedCommand (configurationId id : RowId) (s : Store) : Option Store :=
  (s.bash.selectedCommands.insertNew ⟨configurationId, id⟩).map fun selectedCommands =>
    { s with bash := { s.bash with selectedCommands } }

/-- The inserts of a list of commands are those of the unique table. -/
lemma tryAll_insertSelectedCommands (configurationId : RowId) (ids : List RowId) (s : Store) :
    Connection.tryAll (ids.map (insertSelectedCommand configurationId)) s
      = ((ids.map fun id => ⟨configurationId, id⟩).foldlM UniqueTable.insertNew
          s.bash.selectedCommands).map fun selectedCommands =>
            { s with bash := { s.bash with selectedCommands } } := by
  induction ids generalizing s with
  | nil => rfl
  | cons id ids ih =>
      rw [List.map_cons, List.map_cons, List.foldlM_cons, Connection.tryAll, List.foldlM_cons,
        insertSelectedCommand]
      cases s.bash.selectedCommands.insertNew ⟨configurationId, id⟩ with
      | none => rfl
      | some t => exact ih _

/-- `RawDatabaseFunctions::AddSelectedCommandsIds`, one text. -/
def addSelectedCommandsIds (configurationId : RowId) (commandNamesIds : List RowId) :
    DatabaseM Unit :=
  execSql (.begin :: ((commandNamesIds.map (insertSelectedCommand configurationId)).map .write ++
    [.commit]))

/-- What `RawDatabaseFunctions::AddDailyUserStatisticsToConfiguration` selects. -/
def statisticsOfDates (t : Tables) (configurationId : RowId) (dateRangeIds : List RowId) :
    List SelectedStatistic :=
  (t.dailyUserStatistics.rows.filter fun r => r.val.dateId ∈ dateRangeIds).map
    fun r => ⟨configurationId, r.id⟩

/-- `RawDatabaseFunctions::AddDailyUserStatisticsToConfiguration`. -/
def addDailyUserStatisticsToConfiguration (configurationId : RowId)
    (dateRangeIds : List RowId) : DatabaseM Unit :=
  writeBash fun t => { t with
    selectedStatistics := (statisticsOfDates t configurationId dateRangeIds).foldl
      UniqueTable.insertOrIgnore t.selectedStatistics }

/-- `RawDatabaseFunctions::RemoveDailyStatisticsFromConfiguration`. -/
def removeDailyStatisticsFromConfiguration (configurationId : RowId) : DatabaseM Unit :=
  writeBash fun t => { t with
    selectedStatistics := t.selectedStatistics.delete
      fun r => r.val.configurationId ≠ configurationId }

/-- `RawDatabaseFunctions::GetAnomalyDetectionConfigurations`. -/
def getAnomalyDetectionConfigurations : DatabaseM (List (Row AnomalyDetectionConfiguration)) :=
  queryBash fun t => t.configurations.rows

/-! ### Command statistics of date ranges -/

/-- The `insert or ignore` of a statistic. -/
def insertCommandStatistic (statistic : CommandStatistic) (s : Store) : Store :=
  { s with bash := { s.bash with
    commandsStatistics := s.bash.commandsStatistics.insertOrIgnore statistic } }

/-- `RawDatabaseFunctions::AddCommandsStatistics`, one text. -/
def addCommandsStatistics (statistics : List CommandStatistic) : DatabaseM Unit :=
  execSql (.begin :: (Connection.writes (statistics.map insertCommandStatistic) ++ [.commit]))

/-- `RawDatabaseFunctions::IsCommandStatisticExist`. -/
def isCommandStatisticExist (agentNameId commandId beginDateId endDateId : RowId) :
    DatabaseM Bool :=
  queryBash fun t =>
    (t.commandsStatistics.idOf? (agentNameId, commandId, beginDateId, endDateId)).isSome

/-- `RawDatabaseFunctions::GetCommandsStatistics` of an agent and a range. -/
def getCommandsStatistics (agentNameId beginDateId endDateId : RowId) :
    DatabaseM (List CommandStatistic) :=
  queryBash fun t => t.commandsStatistics.vals.filter fun v => v.agentNameId = agentNameId ∧
    v.beginDateId = beginDateId ∧ v.endDateId = endDateId ∧ v.summary > 0

/-- The sum behind `RawDatabaseFunctions::CommandSummary`. -/
def commandSummaryOf (t : Tables) (agentNameId commandId : RowId) (dateRangeIds : List RowId) : ℤ :=
  ((t.dailyStatistics.vals.filter fun v => v.dateId ∈ dateRangeIds ∧
    v.commandId = commandId ∧ v.agentNameId = agentNameId).map (·.summary)).sum

/-- `RawDatabaseFunctions::CommandSummary`. The sum of no rows is read as `0`. -/
def commandSummary (agentNameId commandId : RowId) (dateRangeIds : List RowId) : DatabaseM ℤ :=
  queryBash fun t => commandSummaryOf t agentNameId commandId dateRangeIds

/-- `RawDatabaseFunctions::GetCommandNameById`. -/
def getCommandNameById (id : RowId) : DatabaseM Text := queryFirst fun s => s.bash.commands.get? id

/-! ### Selected commands and statistics -/

/-- The commands a configuration selects, in order. -/
def markedCommandsIds (t : Tables) (configurationId : RowId) : List RowId :=
  Select.orderBy id ((t.selectedCommands.vals.filter fun v =>
    v.configurationId = configurationId).map (·.commandId))

/-- `RawDatabaseFunctions::GetMarkedCommandsIds`. -/
def getMarkedCommandsIds (configurationId : RowId) : DatabaseM (List RowId) :=
  queryBash fun t => markedCommandsIds t configurationId

/-- The statistics selected for a configuration, each with its row if there is
one. -/
def selectedStatisticsOf (t : Tables) (configurationId : RowId) :
    List (SelectedStatistic × Option (Row DailyUserStatistic)) :=
  (Select.leftJoin t.selectedStatistics.vals t.dailyUserStatistics.rows
    fun badcsst bdust => badcsst.statisticId = bdust.id).filter
      fun p => p.1.configurationId = configurationId

/-- `RawDatabaseFunctions::GetUsersIdsFromSelectedDailyStatisticsInConfiguration`.
The user of a row that is missing is read as `0`. -/
def getUsersIdsFromSelectedDailyStatisticsInConfiguration (configurationId : RowId) :
    DatabaseM (List RowId) :=
  queryBash fun t => ((selectedStatisticsOf t configurationId).map fun p =>
    (p.2.map (·.val.userId)).getD 0).dedup

/-- `RawDatabaseFunctions::CountSelectedDailyStatisticsWithoutUnknownClassificationInConfiguration`. -/
def countSelectedDailyStatisticsWithoutUnknownClassification (configurationId : RowId) :
    DatabaseM ℕ :=
  queryBash fun t => (selectedStatisticsOf t configurationId).countP fun p =>
    p.2.any fun bdust => bdust.val.classification ≠ .unknown

/-- `RawDatabaseFunctions::CountSelectedDailyUserStatisticsWithoutUnknownClassificationFromConfigurationByUser`. -/
def countSelectedDailyUserStatisticsWithoutUnknownClassificationByUser
    (configurationId userId : RowId) : DatabaseM ℕ :=
  queryBash fun t => (selectedStatisticsOf t configurationId).countP fun p =>
    p.2.any fun bdust => bdust.val.userId = userId && bdust.val.classification ≠ .unknown

/-- `RawDatabaseFunctions::GetSelectedDailyUserStatisticsWithoutUnknownClassificationFromConfigurationByUser`. -/
def getSelectedDailyUserStatisticsWithoutUnknownClassificationByUser
    (configurationId userId : RowId) (limit offset : ℕ) :
    DatabaseM (List (Row DailyUserStatistic)) :=
  queryBash fun t => Select.page limit offset (t.dailyUserStatistics.rows.filter fun bdust =>
    bdust.id ∈ ((Select.leftJoin t.selectedStatistics.vals t.configurations.rows
      fun badcsst badct => badcsst.configurationId = badct.id).filter
        fun p => p.1.configurationId = configurationId).map (·.1.statisticId) ∧
    bdust.val.userId = userId ∧ bdust.val.classification ≠ .unknown)

/-- The counts of a statistic for the commands that are selected, of whichever
configuration, in order. A command comes as often as it is selected. -/
def selectedDailyUserCommandsStatistics (t : Tables) (statisticId : RowId) :
    List (Row DailyUserCommandStatistic) :=
  Select.orderBy (·.val.commandId) (((Select.leftJoin t.selectedCommands.vals
    t.dailyUserCommandStatistics.rows fun bsct bducst => bsct.commandId
      = bducst.val.commandId).filterMap
      Prod.snd).filter fun bducst => bducst.val.statisticId = statisticId)

/-- `RawDatabaseFunctions::GetSelectedDailyUserCommandsStatistics`. -/
def getSelectedDailyUserCommandsStatistics (statisticId : RowId) :
    DatabaseM (List (Row DailyUserCommandStatistic)) :=
  queryBash fun t => selectedDailyUserCommandsStatistics t statisticId

/-! ### Classification -/

/-- `RawDatabaseFunctions::CountDailyUserStatisticsForAgentWithClassification`. -/
def countDailyUserStatisticsForAgentWithClassification (agentNameId : RowId)
    (classification : Classification) : DatabaseM ℕ :=
  queryBash fun t => t.dailyUserStatistics.vals.countP fun v =>
    v.agentNameId = agentNameId ∧ v.classification = classification

/-- `RawDatabaseFunctions::GetDailyUserStatisticsForAgentWithClassification`. -/
def getDailyUserStatisticsForAgentWithClassification (agentNameId : RowId)
    (classification : Classification) (limit offset : ℕ) :
    DatabaseM (List (Row DailyUserStatistic)) :=
  queryBash fun t => Select.page limit offset (t.dailyUserStatistics.rows.filter fun r =>
    r.val.agentNameId = agentNameId ∧ r.val.classification = classification)

/-- `RawDatabaseFunctions::SetDailyUserStatisticsClassification`. -/
def setDailyUserStatisticsClassification (ids : List RowId) (classification : Classification) :
    DatabaseM Unit :=
  writeBash fun t => { t with
    dailyUserStatistics := t.dailyUserStatistics.update fun r =>
      if r.id ∈ ids then { r.val with classification } else r.val }

end Slas.Bash.Raw
