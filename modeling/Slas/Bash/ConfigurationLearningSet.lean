import Mathlib
import Slas.Bash.SaveConfiguration
import Slas.Bash.DailyUserStatisticsComplete

/-!
The learning set `WebScripts::SaveConfiguration` selects.

* `LearningSet`: the statistics selected are those asked for, and the other
  agents keep theirs;
* `Ready`: every statistic of the range is the agent's, and nothing else was
  selected before;
* `learning_set_iff`: the learning set is right exactly if the state was ready.

The statistics of the range are selected whoever's they are, and what an
earlier configuration selected stays.
-/

namespace Slas.Bash

open Database

/-- The date of a statistic lies in the range. -/
def InRange (s : Store) (beginDate endDate : Date) (v : DailyUserStatistic) : Prop :=
  ∃ d, s.dates.get? v.dateId = some d ∧ beginDate ≤ d ∧ d ≤ endDate

/-- A daily user statistic of the agent whose date lies in the range. -/
def AskedFor (s : Store) (agentNameId : RowId) (beginDate endDate : Date)
    (statisticId : RowId) : Prop :=
  ∃ v, s.bash.dailyUserStatistics.get? statisticId = some v ∧ v.agentNameId = agentNameId ∧
    InRange s beginDate endDate v

/-- The selections of a configuration. -/
def selectionsOf (s : Store) (configurationId : RowId) : List (Row SelectedStatistic) :=
  s.bash.selectedStatistics.rows.filter fun r => r.val.configurationId = configurationId

/-- The configuration selects what was asked for, and the other agents keep their
configurations and selections. -/
structure LearningSet (agentNameId : RowId) (beginDate endDate : Date) (s s' : Store) : Prop where
  selected : ∃ id, s'.bash.configurations.idOf? agentNameId = some id ∧ ∀ statisticId,
    statisticId ∈ (selectionsOf s' id).map (·.val.statisticId) ↔
      AskedFor s' agentNameId beginDate endDate statisticId
  others : ∀ agent ≠ agentNameId, ∀ id, s.bash.configurations.idOf? agent = some id →
    s'.bash.configurations.idOf? agent = some id ∧ selectionsOf s' id = selectionsOf s id

/-- Every statistic of the range is the agent's, and what is already selected
under the id of its configuration is asked for. -/
structure ReadyToSave (agentNameId : RowId) (beginDate endDate : Date) (s : Store) : Prop where
  statistics : ∀ r ∈ s.bash.dailyUserStatistics.rows, InRange s beginDate endDate r.val →
    r.val.agentNameId = agentNameId
  selections : ∀ r ∈ selectionsOf s (configurationIdOf s agentNameId),
    AskedFor s agentNameId beginDate endDate r.val.statisticId

section Save

variable {order : Raw.SummaryOrder} {s : Store} {agentNameId : RowId} {beginDate endDate : Date}

lemma mem_dateRangeIds {id : RowId} : id ∈ dateRangeIds s beginDate endDate ↔
    ∃ d, s.dates.get? id = some d ∧ beginDate ≤ d ∧ d ≤ endDate := by
  simp only [dateRangeIds, List.mem_map, List.mem_filter, inDateRange_iff, Table.get?_eq_some]
  constructor
  · rintro ⟨⟨id, d⟩, ⟨hr, hd⟩, rfl⟩
    exact ⟨d, hr, hd⟩
  · rintro ⟨d, hr, hd⟩
    exact ⟨⟨id, d⟩, ⟨hr, hd⟩, rfl⟩

/-- What is selected after a save: what was, and the statistics of the range. -/
lemma mem_selected {statisticId : RowId} :
    (⟨configurationIdOf s agentNameId, statisticId⟩ : SelectedStatistic)
        ∈ (savedConfiguration order s agentNameId beginDate endDate).bash.selectedStatistics.vals ↔
      (⟨configurationIdOf s agentNameId, statisticId⟩ : SelectedStatistic)
        ∈ s.bash.selectedStatistics.vals ∨
      ∃ v, s.bash.dailyUserStatistics.get? statisticId = some v ∧
        InRange s beginDate endDate v := by
  refine UniqueTable.mem_vals_foldl_insertOrIgnore.trans (or_congr Iff.rfl ?_)
  simp only [Raw.statisticsOfDates, List.mem_map, List.mem_filter, SelectedStatistic.mk.injEq,
    true_and, decide_eq_true_eq, mem_dateRangeIds, Table.get?_eq_some, InRange]
  constructor
  · rintro ⟨⟨id, v⟩, ⟨hr, hd⟩, rfl⟩
    exact ⟨v, hr, hd⟩
  · rintro ⟨v, hr, hd⟩
    exact ⟨⟨statisticId, v⟩, ⟨hr, hd⟩, rfl⟩

lemma mem_selectionsOf {configurationId statisticId : RowId} :
    statisticId ∈ (selectionsOf s configurationId).map (·.val.statisticId) ↔
      (⟨configurationId, statisticId⟩ : SelectedStatistic) ∈ s.bash.selectedStatistics.vals := by
  simp only [selectionsOf, List.mem_map, List.mem_filter, decide_eq_true_eq, Table.mem_vals]
  constructor
  · rintro ⟨⟨i, _, _⟩, ⟨hr, rfl⟩, rfl⟩
    exact ⟨i, hr⟩
  · rintro ⟨i, hr⟩
    exact ⟨⟨i, configurationId, statisticId⟩, ⟨hr, rfl⟩, rfl⟩

/-- The id of another agent's configuration is another one. -/
lemma ne_configurationIdOf {agent id : RowId} (hagent : agent ≠ agentNameId)
    (h : s.bash.configurations.idOf? agent = some id) : id ≠ configurationIdOf s agentNameId := by
  obtain ⟨v, hv, hkey⟩ := UniqueTable.idOf?_eq_some.mp h
  rw [configurationIdOf]
  cases hown : s.bash.configurations.idOf? agentNameId with
  | none => exact (Table.lt_nextId hv).ne
  | some i =>
      obtain ⟨w, hw, hkeyw⟩ := UniqueTable.idOf?_eq_some.mp hown
      rintro rfl
      have := Table.row_ext hv hw rfl
      obtain rfl : v = w := congrArg Row.val this
      exact hagent (hkey.symm.trans hkeyw)

/-- The others keep what they have in any case. -/
lemma savedConfiguration_others {agent id : RowId} (hagent : agent ≠ agentNameId)
    (h : s.bash.configurations.idOf? agent = some id) :
    (savedConfiguration order s agentNameId beginDate endDate).bash.configurations.idOf? agent
        = some id ∧
      selectionsOf (savedConfiguration order s agentNameId beginDate endDate) id
        = selectionsOf s id := by
  refine ⟨UniqueTable.idOf?_insertOrReplace_of_ne hagent h, ?_⟩
  refine UniqueTable.filter_foldl_insertOrIgnore
    (p := fun v : SelectedStatistic => decide (v.configurationId = id)) fun v hv => ?_
  obtain ⟨r, -, rfl⟩ := List.mem_map.mp hv
  exact decide_eq_false (ne_configurationIdOf hagent h).symm

lemma askedFor_savedConfiguration {statisticId : RowId} :
    AskedFor (savedConfiguration order s agentNameId beginDate endDate) agentNameId
      beginDate endDate
      statisticId ↔ AskedFor s agentNameId beginDate endDate statisticId := Iff.rfl

lemma learningSet_iff_ready :
    LearningSet agentNameId beginDate endDate s
        (savedConfiguration order s agentNameId beginDate endDate)
      ↔ ReadyToSave agentNameId beginDate endDate s := by
  constructor
  · rintro ⟨⟨id, hid, hselected⟩, -⟩
    obtain rfl : configurationIdOf s agentNameId = id :=
      Option.some.inj ((idOf?_savedConfiguration order s agentNameId beginDate
        endDate).symm.trans hid)
    have hasked : ∀ statisticId,
        ((⟨configurationIdOf s agentNameId, statisticId⟩ : SelectedStatistic)
          ∈ s.bash.selectedStatistics.vals ∨ ∃ v,
          s.bash.dailyUserStatistics.get? statisticId = some v ∧ InRange s beginDate endDate v) →
        AskedFor s agentNameId beginDate endDate statisticId := fun statisticId h =>
      (hselected statisticId).mp (mem_selectionsOf.mpr (mem_selected.mpr h))
    refine ⟨fun r hr hrange => ?_, fun r hr => ?_⟩
    · obtain ⟨v, hv, hagent, -⟩ := hasked r.id (.inr ⟨r.val, Table.get?_eq_some.mpr hr, hrange⟩)
      have := Table.row_ext (Table.get?_eq_some.mp hv) hr rfl
      rwa [← this]
    · exact hasked r.val.statisticId
        (.inl (mem_selectionsOf.mp (List.mem_map.mpr ⟨r, hr, rfl⟩)))
  · rintro ⟨hstatistics, hselections⟩
    refine ⟨⟨_, idOf?_savedConfiguration order s agentNameId beginDate endDate,
      fun statisticId => ?_⟩,
      fun agent hagent id h => savedConfiguration_others hagent h⟩
    rw [mem_selectionsOf, mem_selected, askedFor_savedConfiguration]
    constructor
    · rintro (hold | ⟨v, hv, hrange⟩)
      · obtain ⟨r, hr, rfl⟩ := List.mem_map.mp (mem_selectionsOf.mpr hold)
        exact hselections r hr
      · exact ⟨v, hv, hstatistics _ (Table.get?_eq_some.mp hv) hrange, hrange⟩
    · rintro ⟨v, hv, -, hrange⟩
      exact .inr ⟨v, hv, hrange⟩

end Save

/-- **The learning set of a saved configuration** is what was asked for exactly
if the state was ready. -/
theorem learning_set_iff (order : Raw.SummaryOrder) (s : Store) (agentNameId : RowId)
    (beginDate endDate : Date) :
    ∃ s', (WebScripts.saveConfiguration order agentNameId beginDate endDate).exec ⟨s, none⟩
        = (.ok (), ⟨s', none⟩) ∧
      (LearningSet agentNameId beginDate endDate s s' ↔
        ReadyToSave agentNameId beginDate endDate s) :=
  ⟨_, WebScripts.exec_saveConfiguration _ ⟨s, none⟩ agentNameId beginDate endDate,
    learningSet_iff_ready⟩

/-! ### Two agents -/

/-- The logs of two users on two agents, of one day. -/
def twoAgents : Store :=
  addEntry { lsOn (cString [98]) with userId := 1 } (addEntry (lsOn (cString [97])) Store.empty)

/-- The day of the logs. -/
def dayOfLogs : Date := ⟨1, 1, 2016, Date.checkDate_newYear, Date.fits_2016⟩

/-- Two agents have a statistic of the day: the configuration of the first
selects both. -/
theorem not_learning_set_two_agents :
    ∃ s s', Reachable s ∧
      (WebScripts.saveConfiguration .stable 1 dayOfLogs dayOfLogs).exec ⟨s, none⟩
        = (.ok (), ⟨s', none⟩) ∧ ¬LearningSet 1 dayOfLogs dayOfLogs s s' := by
  have hreach : Reachable twoAgents := reachable_addLog (reachable_addLog Reachable.empty _) _
  obtain ⟨s, hrun, -⟩ := exists_served hreach.consistent dayAfter
  have hs : s = ((createStatistics dayAfter).exec ⟨twoAgents, none⟩).2.data := by rw [hrun]
  refine ⟨s, _, hreach.step (.createStatistics dayAfter) hrun,
    WebScripts.exec_saveConfiguration _ ⟨s, none⟩ 1 dayOfLogs dayOfLogs, fun h => ?_⟩
  have hready := (learningSet_iff_ready.mp h).statistics ⟨2, 2, 2, 1, .unknown⟩
    (by rw [hs]; decide +kernel) ⟨dayOfLogs, by rw [hs]; decide +kernel, le_rfl, le_rfl⟩
  exact absurd hready (by decide)

end Slas.Bash
