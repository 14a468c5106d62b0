import Mathlib
import Slas.Bash.SaveConfiguration

/-!
What the web changes of a configuration: `server/src/bash/domain/web_scripts.cpp`
and the functions of `server/src/bash/domain/scripts.cpp` behind it.

* `Request`, `Request.program`: the five requests;
* `steps_program`: the tables they write to.

`WebScripts::SaveSelectedCommands` and three more only forward to the function of
the same name of `Scripts`.
-/

namespace Slas.Bash

open Database

namespace Scripts

/-- How many commands a configuration may select. -/
def selectedCommandsLimit : ℕ := 100

/-- `Scripts::SaveSelectedCommands`. -/
def saveSelectedCommands (configurationId : RowId) (commandNamesIds : List RowId) :
    DatabaseM Unit :=
  if commandNamesIds.length > selectedCommandsLimit then throw .wrongNumberOfCommands
  else do
    Raw.removeAllCommandsFromConfiguration configurationId
    Raw.addSelectedCommandsIds configurationId commandNamesIds
    Raw.markConfigurationAsChanged configurationId

/-- `Scripts::SelectDefaultCommands`. -/
def selectDefaultCommands (order : Raw.SummaryOrder) (configurationId : RowId) :
    DatabaseM Unit := do
  Raw.removeAllCommandsFromConfiguration configurationId
  Raw.addDefaultCommandsToConfiguration order configurationId
  Raw.markConfigurationAsChanged configurationId

/-- `Scripts::UpdateDailyUserStatisticsClassification`. -/
def updateDailyUserStatisticsClassification (configurationId : RowId)
    (normalIds anomalyIds : List RowId) : DatabaseM Unit := do
  Raw.setDailyUserStatisticsClassification normalIds .normal
  Raw.setDailyUserStatisticsClassification anomalyIds .anomaly
  Raw.markConfigurationAsChanged configurationId

end Scripts

/-- `WebScripts::RemoveAnomalyDetectionConfiguration`. -/
def WebScripts.removeAnomalyDetectionConfiguration (id : RowId) : DatabaseM Unit := do
  Raw.removeDailyStatisticsFromConfiguration id
  Raw.removeAllCommandsFromConfiguration id
  Raw.removeAnomalyDetectionConfiguration id

/-- A request of the web. Where it selects the default commands, `order` is the one SQLite
takes then. -/
inductive Request where
  | saveConfiguration (order : Raw.SummaryOrder) (agentNameId : RowId) (beginDate endDate : Date)
  | saveSelectedCommands (configurationId : RowId) (commandNamesIds : List RowId)
  | selectDefaultCommands (order : Raw.SummaryOrder) (configurationId : RowId)
  | updateDailyUserStatisticsClassification (configurationId : RowId)
      (normalIds anomalyIds : List RowId)
  | removeAnomalyDetectionConfiguration (id : RowId)

/-- What answers it. -/
def Request.program : Request → DatabaseM Unit
  | saveConfiguration order agentNameId beginDate endDate =>
      WebScripts.saveConfiguration order agentNameId beginDate endDate
  | saveSelectedCommands configurationId commandNamesIds =>
      Scripts.saveSelectedCommands configurationId commandNamesIds
  | selectDefaultCommands order configurationId =>
      Scripts.selectDefaultCommands order configurationId
  | updateDailyUserStatisticsClassification configurationId normalIds anomalyIds =>
      Scripts.updateDailyUserStatisticsClassification configurationId normalIds anomalyIds
  | removeAnomalyDetectionConfiguration id => WebScripts.removeAnomalyDetectionConfiguration id

/-! ### What they write to -/

/-- Configurations, selections and classifications may have changed. What is
newly selected is there. -/
structure RequestWrites (s s' : Store) : Prop where
  others : s' = { s with bash := { s.bash with
    configurations := s'.bash.configurations
    selectedCommands := s'.bash.selectedCommands
    selectedStatistics := s'.bash.selectedStatistics
    dailyUserStatistics := s'.bash.dailyUserStatistics } }
  ids : s'.bash.dailyUserStatistics.rows.map (·.id) = s.bash.dailyUserStatistics.rows.map (·.id)
  selected : ∀ v ∈ s'.bash.selectedStatistics.vals, v ∈ s.bash.selectedStatistics.vals ∨
    v.statisticId ∈ s.bash.dailyUserStatistics.rows.map (·.id)

/-- A request that does not save a configuration leaves those that are there with
their agents and dates, or removes them. -/
structure SelectionWrites (s s' : Store) : Prop extends RequestWrites s s' where
  configurations : ∀ r' ∈ s'.bash.configurations.rows, ∃ r ∈ s.bash.configurations.rows,
    r.id = r'.id ∧ r.val.agentNameId = r'.val.agentNameId ∧
      r.val.beginDateId = r'.val.beginDateId ∧ r.val.endDateId = r'.val.endDateId

lemma SelectionWrites.of_eq {s s' : Store} (h : RequestWrites s s')
    (hsame : s'.bash.configurations = s.bash.configurations) : SelectionWrites s s' :=
  ⟨h, fun r hr => ⟨r, hsame ▸ hr, rfl, rfl, rfl, rfl⟩⟩

lemma advances_markConfigurationAsChanged (configurationId : RowId) :
    AdvancesIn SelectionWrites (Raw.markConfigurationAsChanged configurationId) := by
  refine advances_write fun s => ⟨⟨rfl, rfl, fun _ => .inl⟩, fun r' hr' => ?_⟩
  obtain ⟨r, hr, rfl⟩ := List.mem_map.mp hr'
  refine ⟨r, hr, rfl, ?_⟩
  dsimp only
  split_ifs <;> exact ⟨rfl, rfl, rfl⟩

lemma advances_removeAllCommandsFromConfiguration (configurationId : RowId) :
    AdvancesIn SelectionWrites (Raw.removeAllCommandsFromConfiguration configurationId) :=
  advances_write fun _ => .of_eq ⟨rfl, rfl, fun _ => .inl⟩ rfl

lemma advances_addDefaultCommandsToConfiguration (order : Raw.SummaryOrder)
    (configurationId : RowId) :
    AdvancesIn SelectionWrites (Raw.addDefaultCommandsToConfiguration order configurationId) := by
  refine advances_execSql (fun f hf s s' hs => ?_) (by simp)
  obtain rfl := Statement.write.inj (List.mem_singleton.mp hf)
  obtain ⟨t, -, rfl⟩ := Option.map_eq_some_iff.mp hs
  exact .of_eq ⟨rfl, rfl, fun _ => .inl⟩ rfl

lemma advances_addSelectedCommandsIds (configurationId : RowId) (commandNamesIds : List RowId) :
    AdvancesIn SelectionWrites (Raw.addSelectedCommandsIds configurationId commandNamesIds) := by
  refine advances_execSql (fun f hf s s' hs => ?_) (by simp)
  have hf : Statement.write f
      ∈ (commandNamesIds.map (Raw.insertSelectedCommand configurationId)).map Statement.write := by
    simpa using hf
  obtain ⟨g, hg, hfg⟩ := List.mem_map.mp hf
  obtain ⟨id, -, rfl⟩ := List.mem_map.mp hg
  obtain rfl := Statement.write.inj hfg
  obtain ⟨t, -, rfl⟩ := Option.map_eq_some_iff.mp hs
  exact .of_eq ⟨rfl, rfl, fun _ => .inl⟩ rfl

lemma advances_setDailyUserStatisticsClassification (ids : List RowId)
    (classification : Classification) :
    AdvancesIn SelectionWrites (Raw.setDailyUserStatisticsClassification ids classification) :=
  advances_write fun _ => .of_eq ⟨rfl, List.map_map .., fun _ => .inl⟩ rfl

lemma advances_addDailyUserStatisticsToConfiguration (configurationId : RowId)
    (dateRangeIds : List RowId) : AdvancesIn SelectionWrites
      (Raw.addDailyUserStatisticsToConfiguration configurationId dateRangeIds) := by
  refine advances_write fun s => .of_eq ⟨rfl, rfl, fun v hv => ?_⟩ rfl
  refine (UniqueTable.mem_vals_foldl_insertOrIgnore.mp hv).imp_right fun hv => ?_
  obtain ⟨r, hr, rfl⟩ := List.mem_map.mp hv
  exact List.mem_map_of_mem (List.mem_filter.mp hr).1

lemma advances_removeDailyStatisticsFromConfiguration (configurationId : RowId) :
    AdvancesIn SelectionWrites (Raw.removeDailyStatisticsFromConfiguration configurationId) := by
  refine advances_write fun s => .of_eq ⟨rfl, rfl, fun v hv => .inl ?_⟩ rfl
  obtain ⟨r, hr, rfl⟩ := List.mem_map.mp hv
  exact List.mem_map_of_mem (List.mem_filter.mp hr).1

lemma advances_removeAnomalyDetectionConfiguration (id : RowId) :
    AdvancesIn SelectionWrites (Raw.removeAnomalyDetectionConfiguration id) :=
  advances_write fun _ => ⟨⟨rfl, rfl, fun _ => .inl⟩,
    fun r hr => ⟨r, (List.mem_filter.mp hr).1, rfl, rfl, rfl, rfl⟩⟩

/-- What follows on the saving of the configuration itself. -/
lemma advances_afterSave (order : Raw.SummaryOrder) (agentNameId : RowId)
    (beginDate endDate : Date) :
    AdvancesIn SelectionWrites (do
      Scripts.removeAllCommandsFromAgentConfiguration agentNameId
      Scripts.addDefaultCommandsToAgentConfiguration order agentNameId
      Scripts.addDailyUserStatisticsToConfiguration agentNameId beginDate endDate) := by
  refine ((advances_queryFirst _).bind fun _ => advances_removeAllCommandsFromConfiguration _).bind
    fun _ => ?_
  refine ((advances_queryFirst _).bind fun _ =>
    advances_addDefaultCommandsToConfiguration _ _).bind fun _ => ?_
  exact (advances_queryFirst _).bind fun _ => (advances_query _).bind fun _ =>
    advances_addDailyUserStatisticsToConfiguration _ _

lemma advances_program {request : Request}
    (h : ∀ order agentNameId beginDate endDate,
      request ≠ .saveConfiguration order agentNameId beginDate endDate) :
    AdvancesIn SelectionWrites request.program := by
  cases request with
  | saveConfiguration order agentNameId beginDate endDate => exact absurd rfl (h _ _ _ _)
  | saveSelectedCommands configurationId commandNamesIds =>
      rw [Request.program, Scripts.saveSelectedCommands]
      split_ifs
      · exact Prog.Steps.throw _
      · exact (advances_removeAllCommandsFromConfiguration _).bind fun _ =>
          (advances_addSelectedCommandsIds _ _).bind fun _ => advances_markConfigurationAsChanged _
  | selectDefaultCommands order configurationId =>
      exact (advances_removeAllCommandsFromConfiguration _).bind fun _ =>
        (advances_addDefaultCommandsToConfiguration _ _).bind fun _ =>
          advances_markConfigurationAsChanged _
  | updateDailyUserStatisticsClassification configurationId normalIds anomalyIds =>
      exact (advances_setDailyUserStatisticsClassification _ _).bind fun _ =>
        (advances_setDailyUserStatisticsClassification _ _).bind fun _ =>
          advances_markConfigurationAsChanged _
  | removeAnomalyDetectionConfiguration id =>
      exact (advances_removeDailyStatisticsFromConfiguration _).bind fun _ =>
        (advances_removeAllCommandsFromConfiguration _).bind fun _ =>
          advances_removeAnomalyDetectionConfiguration _

lemma steps_saveConfiguration (order : Raw.SummaryOrder) (agentNameId : RowId)
    (beginDate endDate : Date) :
    StepsIn RequestWrites (WebScripts.saveConfiguration order agentNameId beginDate endDate) := by
  have hadd : StepsIn RequestWrites (Scripts.saveConfiguration agentNameId beginDate endDate) :=
    (steps_query _).bind fun _ => (steps_query _).bind fun _ =>
      steps_write fun _ => ⟨rfl, rfl, fun _ => .inl⟩
  exact hadd.bind fun _ => (advances_afterSave order agentNameId beginDate endDate).steps.mono
    fun _ _ => SelectionWrites.toRequestWrites

lemma steps_program (request : Request) : StepsIn RequestWrites request.program := by
  by_cases h : ∃ order agentNameId beginDate endDate,
    request = .saveConfiguration order agentNameId beginDate endDate
  · obtain ⟨order, agentNameId, beginDate, endDate, rfl⟩ := h
    exact steps_saveConfiguration order agentNameId beginDate endDate
  · refine (advances_program fun order agentNameId beginDate endDate heq => ?_).steps.mono
      fun _ _ => SelectionWrites.toRequestWrites
    exact h ⟨order, agentNameId, beginDate, endDate, heq⟩

end Slas.Bash
