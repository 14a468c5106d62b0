import Mathlib
import Slas.Lib.Table
import Slas.Type.Text
import Slas.Type.Time

/-!
The tables, from the `CreateTables` functions of
`server/src/database/general_database_functions.cpp`,
`server/src/bash/database/detail/raw_database_functions.cpp` and
`server/src/apache/database/database_functions.cpp`.

A column that holds the id of a row of another table may hold any number: the
`foreign key` clauses are not enforced on the connection. A `unique` clause is
the key of a `UniqueTable`.
-/

namespace Slas

/-- `database::type::Classification`. -/
inductive Classification where
  | unknown
  | normal
  | anomaly
  deriving DecidableEq, Repr

namespace Bash

/-- A row of `BASH_LOGS_TABLE`. -/
structure Log where
  agentNameId : RowId
  timeId : RowId
  dateId : RowId
  userId : RowId
  commandId : RowId
  deriving DecidableEq

/-- A row of `BASH_DAILY_STATISTICS_TABLE`. -/
structure DailySystemStatistic where
  agentNameId : RowId
  dateId : RowId
  commandId : RowId
  summary : ℤ
  deriving DecidableEq

/-- A row of `BASH_ANOMALY_DETECTION_CONFIGURATION_TABLE`. -/
structure AnomalyDetectionConfiguration where
  agentNameId : RowId
  beginDateId : RowId
  endDateId : RowId
  changed : Bool
  deriving DecidableEq

/-- A row of `BASH_DATE_RANGE_COMMANDS_STATISTICS_TABLE`. -/
structure CommandStatistic where
  agentNameId : RowId
  commandId : RowId
  beginDateId : RowId
  endDateId : RowId
  summary : ℤ
  deriving DecidableEq

/-- What no two rows of `BASH_DATE_RANGE_COMMANDS_STATISTICS_TABLE` share. -/
def CommandStatistic.range (s : CommandStatistic) : RowId × RowId × RowId × RowId :=
  (s.agentNameId, s.commandId, s.beginDateId, s.endDateId)

/-- A row of `BASH_SELECTED_COMMANDS_TABLE`. -/
structure SelectedCommand where
  configurationId : RowId
  commandId : RowId
  deriving DecidableEq

/-- A row of `BASH_DAILY_USER_STATISTICS_TABLE`. -/
structure DailyUserStatistic where
  agentNameId : RowId
  userId : RowId
  dateId : RowId
  classification : Classification
  deriving DecidableEq

/-- A row of `BASH_DAILY_USER_COMMAND_STATISTICS_TABLE`. -/
structure DailyUserCommandStatistic where
  statisticId : RowId
  commandId : RowId
  summary : ℤ
  deriving DecidableEq

/-- A row of `BASH_ANOMALY_DETECTION_CONFIGURATION_SELECTED_STATISTICS_TABLE`. -/
structure SelectedStatistic where
  configurationId : RowId
  statisticId : RowId
  deriving DecidableEq

/-- The tables of `bash::database`. -/
structure Tables where
  commands : UniqueTable (@id Text)
  systemUsers : UniqueTable (@id ℤ)
  logs : Table Log
  dailyStatistics : Table DailySystemStatistic
  configurations : UniqueTable AnomalyDetectionConfiguration.agentNameId
  commandsStatistics : UniqueTable CommandStatistic.range
  selectedCommands : UniqueTable (@id SelectedCommand)
  dailyUserStatistics : Table DailyUserStatistic
  dailyUserCommandStatistics : Table DailyUserCommandStatistic
  selectedStatistics : UniqueTable (@id SelectedStatistic)

/-- The tables as they are created. -/
def Tables.empty : Tables where
  commands := .empty
  systemUsers := .empty
  logs := .empty
  dailyStatistics := .empty
  configurations := .empty
  commandsStatistics := .empty
  selectedCommands := .empty
  dailyUserStatistics := .empty
  dailyUserCommandStatistics := .empty
  selectedStatistics := .empty

end Bash

namespace Apache

/-- A row of `APACHE_LOGS_TABLE`. The six columns of its time are one field. -/
structure LogEntry where
  agentName : Text
  virtualhost : Text
  clientIp : Text
  time : Timestamp
  request : Text
  statusCode : ℤ
  bytes : ℤ
  userAgent : Text
  usedInStatistics : Bool
  deriving DecidableEq

/-- A row of `APACHE_SESSION_TABLE`. -/
structure SessionEntry where
  agentName : Text
  virtualhost : Text
  clientIp : Text
  sessionStart : Timestamp
  sessionLength : ℤ
  bandwidthUsage : ℤ
  requestsCount : ℤ
  errorsCount : ℤ
  errorPercentage : ℚ
  useragent : Text
  classification : Classification
  deriving DecidableEq

/-- A row of `APACHE_LEARNING_SESSIONS`. -/
structure LearningSession where
  agentNameId : RowId
  virtualhostNameId : RowId
  sessionId : RowId
  deriving DecidableEq

/-- A row of `APACHE_ANOMALY_DETECTION_CONFIGURATION_TABLE`. -/
structure AnomalyDetectionConfiguration where
  agentName : Text
  virtualhostName : Text
  beginDateId : RowId
  endDateId : RowId
  deriving DecidableEq

/-- What no two rows of `APACHE_ANOMALY_DETECTION_CONFIGURATION_TABLE` share. -/
def AnomalyDetectionConfiguration.owner (c : AnomalyDetectionConfiguration) : Text × Text :=
  (c.agentName, c.virtualhostName)

/-- The tables of `apache::database`. -/
structure Tables where
  logs : Table LogEntry
  virtualhostsNames : UniqueTable (@id Text)
  learningSessions : UniqueTable (@id LearningSession)
  sessions : Table SessionEntry
  configurations : UniqueTable AnomalyDetectionConfiguration.owner

/-- The tables as they are created. -/
def Tables.empty : Tables where
  logs := .empty
  virtualhostsNames := .empty
  learningSessions := .empty
  sessions := .empty
  configurations := .empty

end Apache

namespace Database

/-- The whole database. -/
structure Store where
  times : UniqueTable (@id Time)
  dates : UniqueTable (@id Date)
  agentNames : UniqueTable (@id Text)
  bash : Bash.Tables
  apache : Apache.Tables

/-- The database as it is created. -/
def Store.empty : Store where
  times := .empty
  dates := .empty
  agentNames := .empty
  bash := .empty
  apache := .empty

end Database

end Slas
