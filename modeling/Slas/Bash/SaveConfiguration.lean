import Mathlib
import Slas.Database.GeneralDatabaseFunctions
import Slas.Bash.RawDatabaseFunctions

/-!
Saving the configuration of an agent: `WebScripts::SaveConfiguration` of
`server/src/bash/domain/web_scripts.cpp` and the functions of
`server/src/bash/domain/scripts.cpp` it is made of.

* `WebScripts.saveConfiguration`: the source;
* `savedConfiguration`: the four tables it changes, one after another;
* `WebScripts.exec_saveConfiguration`: the undisturbed run returns and leaves
  them.
-/

namespace Slas.Bash

open Database

/-! ### The source -/

/-- `DatabaseFunctions::AddAnomalyDetectionConfiguration`. A date that is not
there is stored as `-1`. -/
def addAnomalyDetectionConfiguration (agentNameId : RowId) (beginDate endDate : Date)
    (changed : Bool) : DatabaseM Unit := do
  let beginDateId ← getDateId beginDate
  let endDateId ← getDateId endDate
  Raw.addAnomalyDetectionConfiguration { agentNameId, beginDateId, endDateId, changed }

namespace Scripts

/-- `Scripts::SaveConfiguration`. -/
def saveConfiguration (agentNameId : RowId) (beginDate endDate : Date) : DatabaseM Unit :=
  addAnomalyDetectionConfiguration agentNameId beginDate endDate true

/-- `Scripts::RemoveAllCommandsFromAgentConfiguration`. -/
def removeAllCommandsFromAgentConfiguration (agentNameId : RowId) : DatabaseM Unit := do
  let configurationId ← Raw.getConfigurationIdForAgent agentNameId
  Raw.removeAllCommandsFromConfiguration configurationId

/-- `Scripts::AddDefaultCommandsToAgentConfiguration`. -/
def addDefaultCommandsToAgentConfiguration (order : Raw.SummaryOrder) (agentNameId : RowId) :
    DatabaseM Unit := do
  let configurationId ← Raw.getConfigurationIdForAgent agentNameId
  Raw.addDefaultCommandsToConfiguration order configurationId

/-- `Scripts::AddDailyUserStatisticsToConfiguration`. The agent serves to find
the configuration; the statistics are chosen by date. -/
def addDailyUserStatisticsToConfiguration (agentNameId : RowId) (beginDate endDate : Date) :
    DatabaseM Unit := do
  let id ← Raw.getConfigurationIdForAgent agentNameId
  let dateRangeIds ← getDateRangeIds beginDate endDate
  Raw.addDailyUserStatisticsToConfiguration id dateRangeIds

end Scripts

/-- `WebScripts::SaveConfiguration`. -/
def WebScripts.saveConfiguration (order : Raw.SummaryOrder) (agentNameId : RowId)
    (beginDate endDate : Date) : DatabaseM Unit := do
  Scripts.saveConfiguration agentNameId beginDate endDate
  Scripts.removeAllCommandsFromAgentConfiguration agentNameId
  Scripts.addDefaultCommandsToAgentConfiguration order agentNameId
  Scripts.addDailyUserStatisticsToConfiguration agentNameId beginDate endDate

/-! ### The undisturbed run -/

section Run

variable (order : Raw.SummaryOrder) (s : Store) (agentNameId : RowId) (beginDate endDate : Date)

/-- The id the configuration of the agent has, or will get. -/
def configurationIdOf : RowId :=
  (s.bash.configurations.idOf? agentNameId).getD s.bash.configurations.nextId

/-- The ids of the dates of a range. -/
def dateRangeIds : List RowId :=
  (s.dates.rows.filter fun r => inDateRange beginDate endDate r.val).map (·.id)

/-- The configuration is there. -/
def withConfiguration : Tables :=
  { s.bash with
    configurations := s.bash.configurations.insertOrReplace
      ⟨agentNameId, (s.dates.idOf? beginDate).getD (-1), (s.dates.idOf? endDate).getD (-1), true⟩ }

/-- Its commands are removed. -/
def withoutCommands : Tables :=
  { withConfiguration s agentNameId beginDate endDate with
    selectedCommands := s.bash.selectedCommands.delete
      fun r => r.val.configurationId ≠ configurationIdOf s agentNameId }

/-- What the four steps make of the database. -/
def savedConfiguration : Store :=
  let t := withoutCommands s agentNameId beginDate endDate
  { s with bash := { t with
      selectedCommands := (Raw.defaultCommands order t (configurationIdOf s agentNameId)).foldl
        UniqueTable.insertOrIgnore t.selectedCommands
      selectedStatistics := (Raw.statisticsOfDates s.bash (configurationIdOf s agentNameId)
        (dateRangeIds s beginDate endDate)).foldl UniqueTable.insertOrIgnore
          s.bash.selectedStatistics } }

variable {order s agentNameId beginDate endDate}

lemma idOf?_withConfiguration :
    (withConfiguration s agentNameId beginDate endDate).configurations.idOf? agentNameId
      = some (configurationIdOf s agentNameId) :=
  s.bash.configurations.idOf?_insertOrReplace ⟨agentNameId, _, _, true⟩

/-- No command is selected twice by default: a range of an agent has one row for
a command. -/
lemma nodup_defaultCommands (order : Raw.SummaryOrder) (t : Tables) (configurationId : RowId) :
    (Raw.defaultCommands order t configurationId).Nodup := by
  have hvals := t.commandsStatistics.nodup_keys
  set rows := Raw.commandsOfRange t configurationId with hrows
  have hinj : ∀ p ∈ rows, ∀ q ∈ rows, (⟨p.2.id, p.1.commandId⟩ : SelectedCommand)
      = ⟨q.2.id, q.1.commandId⟩ → p = q := by
    rintro ⟨b, c⟩ hp ⟨b', c'⟩ hq heq
    simp only [SelectedCommand.mk.injEq] at heq
    obtain ⟨hb, hc, hon⟩ := Select.mem_join.mp (List.mem_filter.mp hp).1
    obtain ⟨hb', hc', hon'⟩ := Select.mem_join.mp (List.mem_filter.mp hq).1
    obtain rfl := Table.row_ext hc hc' heq.1
    simp only [Bool.and_eq_true, decide_eq_true_eq] at hon hon'
    have hrange : b.range = b'.range := by
      simp [CommandStatistic.range, hon.1.1, hon.1.2, hon.2, hon'.1.1, hon'.1.2, hon'.2, heq.2]
    rw [List.inj_on_of_nodup_map hvals hb hb' hrange]
  have hnodup : rows.Nodup := by
    refine List.Nodup.filter _ (List.nodup_flatMap.mpr ⟨fun b _ => ?_, ?_⟩)
    · refine List.Nodup.map (fun c c' h => congrArg Prod.snd h) ?_
      exact (List.Nodup.of_map _ t.configurations.nodup_ids).filter _
    · refine (List.Nodup.of_map _ hvals).imp fun {b b'} hne p hp hp' => hne ?_
      obtain ⟨_, -, rfl⟩ := List.mem_map.mp hp
      obtain ⟨_, -, heq⟩ := List.mem_map.mp hp'
      exact (congrArg Prod.fst heq).symm
  have hperm := order.perm rows
  have hsub : List.Sublist (Select.page Raw.defaultCommandsLimit 0 (order.order rows))
      (order.order rows) := (List.take_sublist _ _).trans (List.drop_sublist _ _)
  exact List.Nodup.map_on
    (fun p hp q hq => hinj p (hperm.mem_iff.mp (hsub.subset hp)) q
    (hperm.mem_iff.mp (hsub.subset hq)))
    ((hperm.nodup_iff.mpr hnodup).sublist hsub)

/-- The commands selected by default are all of the configuration. -/
lemma configurationId_of_mem_defaultCommands {t : Tables} {configurationId : RowId}
    {v : SelectedCommand} (hv : v ∈ Raw.defaultCommands order t configurationId) :
    v.configurationId = configurationId := by
  obtain ⟨p, hp, rfl⟩ := List.mem_map.mp hv
  have hp := (order.perm _).mem_iff.mp (List.mem_of_mem_drop (List.mem_of_mem_take hp))
  simpa using (List.mem_filter.mp hp).2

/-- The default commands go in: the configuration has none left. -/
lemma insertAll_defaultCommands :
    (withoutCommands s agentNameId beginDate endDate).selectedCommands.insertAll
        (Raw.defaultCommands order (withoutCommands s agentNameId beginDate endDate)
          (configurationIdOf s agentNameId))
      = some ((Raw.defaultCommands order (withoutCommands s agentNameId beginDate endDate)
          (configurationIdOf s agentNameId)).foldl UniqueTable.insertOrIgnore
            (withoutCommands s agentNameId beginDate endDate).selectedCommands) := by
  refine UniqueTable.insertAll_eq_some (fun v hv => ?_) ?_
  · refine UniqueTable.idOf?_eq_none.mpr fun r hr hkey => ?_
    have hr : r ∈ s.bash.selectedCommands.rows.filter fun r =>
      r.val.configurationId ≠ configurationIdOf s agentNameId := hr
    have hne := of_decide_eq_true (List.mem_filter.mp hr).2
    rw [show r.val = v from hkey] at hne
    exact hne (configurationId_of_mem_defaultCommands hv)
  · rw [List.map_id]
    exact nodup_defaultCommands _ _ _

/-- What reads the configuration of the agent first. -/
lemma exec_getConfigurationIdForAgent_bind {c : Connection Store} {id : RowId} {α : Type}
    (h : c.data.bash.configurations.idOf? agentNameId = some id) (f : RowId → DatabaseM α) :
    (Raw.getConfigurationIdForAgent agentNameId >>= f).exec c = (f id).exec c :=
  Prog.exec_bind_ok (exec_queryFirst c h)

/-- **An undisturbed `WebScripts::SaveConfiguration` returns.** -/
lemma WebScripts.exec_saveConfiguration (order : Raw.SummaryOrder) (c : Connection Store)
    (agentNameId : RowId) (beginDate endDate : Date) :
    (WebScripts.saveConfiguration order agentNameId beginDate endDate).exec c
      = (.ok (), { c with data :=
        savedConfiguration order c.data agentNameId beginDate endDate }) := by
  have hid : (withConfiguration c.data agentNameId beginDate endDate).configurations.idOf?
    agentNameId = some (configurationIdOf c.data agentNameId) := idOf?_withConfiguration
  have hsave : (Scripts.saveConfiguration agentNameId beginDate endDate).exec c
      = (.ok (), { c with data := { c.data with
          bash := withConfiguration c.data agentNameId beginDate endDate } }) := by
    simp only [Scripts.saveConfiguration, addAnomalyDetectionConfiguration, Prog.exec_bind,
      exec_getDateId, Raw.addAnomalyDetectionConfiguration, Raw.exec_writeBash, withConfiguration]
  have hremove : (Scripts.removeAllCommandsFromAgentConfiguration agentNameId).exec
      { c with data := { c.data with
          bash := withConfiguration c.data agentNameId beginDate endDate } }
      = (.ok (), { c with data := { c.data with
          bash := withoutCommands c.data agentNameId beginDate endDate } }) := by
    rw [Scripts.removeAllCommandsFromAgentConfiguration, exec_getConfigurationIdForAgent_bind hid,
      Raw.removeAllCommandsFromConfiguration, Raw.exec_writeBash]
    rfl
  rw [WebScripts.saveConfiguration, Prog.exec_bind_ok hsave, Prog.exec_bind_ok hremove]
  have hdefault : (Scripts.addDefaultCommandsToAgentConfiguration order agentNameId).exec
      { c with data := { c.data with
          bash := withoutCommands c.data agentNameId beginDate endDate } }
      = (.ok (), { c with data := { c.data with
          bash := { withoutCommands c.data agentNameId beginDate endDate with
            selectedCommands := (savedConfiguration order c.data agentNameId beginDate
              endDate).bash.selectedCommands } } }) := by
    rw [Scripts.addDefaultCommandsToAgentConfiguration, exec_getConfigurationIdForAgent_bind hid,
      Raw.addDefaultCommandsToConfiguration, execSql, Prog.exec_lift]
    simp only [Option.map_none, Connection.execute_none, Connection.step,
      insertAll_defaultCommands, Option.map_some, Connection.execute_nil]
    rfl
  rw [Prog.exec_bind_ok hdefault, Scripts.addDailyUserStatisticsToConfiguration,
    exec_getConfigurationIdForAgent_bind hid, Prog.exec_bind_ok (exec_getDateRangeIds _ _ _),
    Raw.addDailyUserStatisticsToConfiguration, Raw.exec_writeBash]
  rfl

/-! ### The configuration of an agent -/

/-- The agent's configuration is found under its id. -/
lemma idOf?_savedConfiguration (order : Raw.SummaryOrder) (s : Store) (agentNameId : RowId)
    (beginDate endDate : Date) :
    (savedConfiguration order s agentNameId beginDate endDate).bash.configurations.idOf? agentNameId
      = some (configurationIdOf s agentNameId) := idOf?_withConfiguration

end Run

end Slas.Bash
