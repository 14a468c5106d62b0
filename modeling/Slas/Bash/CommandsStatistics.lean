import Mathlib
import Slas.Database.GeneralDatabaseFunctions
import Slas.Bash.RawDatabaseFunctions

/-!
The command statistics of a range of dates: `WebScripts::GetCommandsStatistics`
of `server/src/bash/domain/web_scripts.cpp` and the functions of
`server/src/bash/domain/scripts.cpp` behind it.

* `Scripts.calculateCommandStatistics`: the statistics that are missing are summed
  up and stored;
* `Scripts.getCommandsStatistics`: those stored are named and returned.
-/

namespace Slas.Bash

open Database

/-- `domain::type::CommandStatistic`. -/
structure NamedCommandStatistic where
  commandNameId : RowId
  commandName : Text
  summaryCount : ℤ
  deriving DecidableEq

namespace Scripts

/-- The capacity of the vector of command statistics. -/
def commandsStatisticsCapacity : ℕ := 500

/-- The body of the loop over the commands: sum up what is not there, collect it,
and flush a full vector. -/
def collectCommandStatistic (agentNameId beginDateId endDateId : RowId) (dateRangeIds : List RowId)
    (statistics : List CommandStatistic) (commandId : RowId) :
      DatabaseM (List CommandStatistic) := do
  let statisticsExists ← Raw.isCommandStatisticExist agentNameId commandId beginDateId endDateId
  if statisticsExists then pure statistics
  else do
    let summary ← Raw.commandSummary agentNameId commandId dateRangeIds
    let statistics := statistics ++ [⟨agentNameId, commandId, beginDateId, endDateId, summary⟩]
    if statistics.length = commandsStatisticsCapacity then do
      Raw.addCommandsStatistics statistics
      pure []
    else pure statistics

/-- `Scripts::CalculateCommandStatistics`. -/
def calculateCommandStatistics (agentNameId : RowId) (beginDate endDate : Date) :
    DatabaseM Unit := do
  let beginDateId ← addAndGetDateId beginDate
  let endDateId ← addAndGetDateId endDate
  let dateRangeIds ← getDateRangeIds beginDate endDate
  let allCommandsIds ← Raw.getAllCommandsIds
  let statistics ← allCommandsIds.foldlM
    (collectCommandStatistic agentNameId beginDateId endDateId dateRangeIds) []
  Raw.addCommandsStatistics statistics

/-- `Scripts::GetCommandsStatistics` of an agent and a range. -/
def getCommandsStatistics (agentNameId : RowId) (beginDate endDate : Date) :
    DatabaseM (List NamedCommandStatistic) := do
  let beginDateId ← addAndGetDateId beginDate
  let endDateId ← addAndGetDateId endDate
  let rawStatistics ← Raw.getCommandsStatistics agentNameId beginDateId endDateId
  rawStatistics.foldlM (fun statistics st => do
    let name ← Raw.getCommandNameById st.commandId
    pure (statistics ++ [⟨st.commandId, name, st.summary⟩])) []

end Scripts

/-- `WebScripts::GetCommandsStatistics` of an agent and a range. -/
def WebScripts.getCommandsStatistics (agentNameId : RowId) (beginDate endDate : Date) :
    DatabaseM (List NamedCommandStatistic) := do
  Scripts.calculateCommandStatistics agentNameId beginDate endDate
  Scripts.getCommandsStatistics agentNameId beginDate endDate

end Slas.Bash
