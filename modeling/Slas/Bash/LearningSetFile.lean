import Mathlib
import Slas.Bash.SelectedCommands

/-!
The training file of a configuration,
`NetworkTrainer::CreateLearningSetFile` of
`server/src/bash/analyzer/detail/network_trainer/network_trainer.cpp`.

* `WellFormed`: the header counts what follows, every selected statistic that is
  classified has one pair of lines, and its output tells its user if it is normal;
* `exec_createLearningSetFile`: the file of a state;
* `learning_set_file_well_formed`: in every state that is reached it is well
  formed.

Four queries have to agree: the users, the number of statistics, the number of
each user, and the parts in which those are read. All of them are about
`selectedRows`.
-/

namespace Slas.Bash

open Database NetworkTrainer

/-! ### What the file should be -/

/-- The statistics a configuration selects. -/
def selectedRows (t : Tables) (configurationId : RowId) : List (Row DailyUserStatistic) :=
  t.dailyUserStatistics.rows.filter fun r =>
    (⟨configurationId, r.id⟩ : SelectedStatistic) ∈ t.selectedStatistics.vals

/-- Those that have been classified. -/
def classifiedRows (t : Tables) (configurationId : RowId) : List (Row DailyUserStatistic) :=
  (selectedRows t configurationId).filter fun r => r.val.classification ≠ .unknown

/-- A training file with a pair of lines for every selected statistic that has
been classified: its input, and its user if it is normal. -/
structure WellFormed (t : Tables) (configurationId : RowId) (file : LearningSetFile) : Prop where
  pairs : file.learningSetSize = file.rows.length
  statistics : (file.rows.map (·.statisticId)).Perm ((classifiedRows t configurationId).map (·.id))
  inputs : file.numberOfInputs = numberOfInputs ∧
    ∀ row ∈ file.rows, row.input.length = numberOfInputs ∧ none ∉ row.input
  positions : ∀ r ∈ classifiedRows t configurationId,
    ∀ w ∈ inputWrites 0 (Raw.markedCommandsIds t configurationId)
      (Raw.selectedDailyUserCommandsStatistics t r.id), w.1 < numberOfInputs
  outputs : ∃ users : List RowId, users.Nodup ∧
    (∀ user, user ∈ users ↔ ∃ r ∈ selectedRows t configurationId, r.val.userId = user) ∧
    file.numberOfOutputs = users.length ∧
    ∀ row ∈ file.rows, ∀ v, t.dailyUserStatistics.get? row.statisticId = some v →
      row.output = users.map fun user =>
        if v.classification = .normal ∧ user = v.userId then 1 else anomalyNetworkValue

/-! ### The four queries -/

section Queries

variable {t : Tables} {configurationId : RowId}

/-- The partners of the selections are the statistics selected. -/
lemma partners_perm (t : Tables) (configurationId : RowId) :
    ((Raw.selectedStatisticsOf t configurationId).filterMap Prod.snd).Perm
      (selectedRows t configurationId) := by
  set vals := t.selectedStatistics.vals.filter fun v => v.configurationId
    = configurationId with hvals
  have hpartners : (Raw.selectedStatisticsOf t configurationId).filterMap Prod.snd
      = vals.flatMap fun v => t.dailyUserStatistics.rows.filter fun r => v.statisticId = r.id := by
    rw [Raw.selectedStatisticsOf, Select.filter_leftJoin fun v : SelectedStatistic =>
      decide (v.configurationId = configurationId), Select.filterMap_leftJoin]
  have hrows : t.dailyUserStatistics.rows.Nodup :=
    List.Nodup.of_map _ t.dailyUserStatistics.nodup_ids
  have hunique : vals.Nodup := t.selectedStatistics.nodup_vals.filter _
  rw [hpartners]
  refine (List.perm_ext_iff_of_nodup (List.nodup_flatMap.mpr ⟨fun v _ => hrows.filter _, ?_⟩)
    (hrows.filter _)).mpr fun r => ?_
  · refine List.Pairwise.imp_of_mem (fun {v v'} hv hv' hne r hr hr' => hne ?_) hunique
    have hv := of_decide_eq_true (List.mem_filter.mp hv).2
    have hv' := of_decide_eq_true (List.mem_filter.mp hv').2
    have hr := of_decide_eq_true (List.mem_filter.mp hr).2
    have hr' := of_decide_eq_true (List.mem_filter.mp hr').2
    rw [show v = ⟨v.configurationId, v.statisticId⟩ from rfl, hv, hr, ← hv', ← hr']
  · simp only [List.mem_flatMap, List.mem_filter, hvals, decide_eq_true_eq]
    constructor
    · rintro ⟨v, ⟨hv, rfl⟩, hr, hid⟩
      exact ⟨hr, hid ▸ hv⟩
    · rintro ⟨hr, hv⟩
      exact ⟨_, ⟨hv, rfl⟩, hr, rfl⟩

/-- Counting the selections whose partner passes. -/
lemma countP_selectedStatisticsOf (p : Row DailyUserStatistic → Bool) :
    ((Raw.selectedStatisticsOf t configurationId).countP fun q => q.2.any p)
      = ((selectedRows t configurationId).filter p).length := by
  rw [← List.countP_eq_length_filter, ← (partners_perm t configurationId).countP_eq p,
    List.countP_filterMap]
  refine List.countP_congr fun q _ => ?_
  cases q.2 <;> rfl

/-- The users in the order of the file. -/
def learningUsers (t : Tables) (configurationId : RowId) : List RowId :=
  ((Raw.selectedStatisticsOf t configurationId).map fun p =>
    (p.2.map (·.val.userId)).getD 0).dedup

lemma nodup_learningUsers (t : Tables) (configurationId : RowId) :
    (learningUsers t configurationId).Nodup := List.nodup_dedup _

/-- If every statistic that is selected is there, the users are theirs. -/
lemma mem_learningUsers
    (hexists : ∀ v ∈ t.selectedStatistics.vals,
      v.statisticId ∈ t.dailyUserStatistics.rows.map (·.id)) {user : RowId} :
    user ∈ learningUsers t configurationId ↔
      ∃ r ∈ selectedRows t configurationId, r.val.userId = user := by
  have hpartner : ∀ r, r ∈ selectedRows t configurationId ↔
      ∃ q ∈ Raw.selectedStatisticsOf t configurationId, q.2 = some r := by
    intro r
    rw [← (partners_perm t configurationId).mem_iff, List.mem_filterMap]
  rw [learningUsers, List.mem_dedup, List.mem_map]
  constructor
  · rintro ⟨⟨v, partner⟩, hq, rfl⟩
    cases partner with
    | some r => exact ⟨r, (hpartner r).mpr ⟨_, hq, rfl⟩, rfl⟩
    | none =>
        obtain ⟨hv, hno⟩ := Select.mem_leftJoin_none.mp (List.mem_filter.mp hq).1
        obtain ⟨r, hr, hid⟩ := List.mem_map.mp (hexists v hv)
        exact absurd hid.symm (of_decide_eq_false (hno r hr))
  · rintro ⟨r, hr, rfl⟩
    obtain ⟨q, hq, hpart⟩ := (hpartner r).mp hr
    exact ⟨q, hq, by rw [hpart]; rfl⟩

/-- The statistics of a user that are read in parts. -/
lemma filter_selected (user : RowId) :
    (t.dailyUserStatistics.rows.filter fun bdust =>
      bdust.id ∈ ((Select.leftJoin t.selectedStatistics.vals t.configurations.rows
        fun badcsst badct => badcsst.configurationId = badct.id).filter
          fun p => p.1.configurationId = configurationId).map (·.1.statisticId) ∧
      bdust.val.userId = user ∧ bdust.val.classification ≠ .unknown)
      = (classifiedRows t configurationId).filter fun r => r.val.userId = user := by
  have hids : ∀ id, id ∈ ((Select.leftJoin t.selectedStatistics.vals t.configurations.rows
      fun badcsst badct => badcsst.configurationId = badct.id).filter
        fun p => p.1.configurationId = configurationId).map (·.1.statisticId) ↔
      (⟨configurationId, id⟩ : SelectedStatistic) ∈ t.selectedStatistics.vals := by
    intro id
    simp only [List.mem_map, List.mem_filter, decide_eq_true_eq]
    constructor
    · rintro ⟨⟨v, partner⟩, ⟨hq, rfl⟩, rfl⟩
      cases partner with
      | none => exact (Select.mem_leftJoin_none.mp hq).1
      | some r => exact (Select.mem_leftJoin_some.mp hq).1
    · intro hv
      by_cases hpartner : ∃ r ∈ t.configurations.rows, configurationId = r.id
      · obtain ⟨r, hr, hid⟩ := hpartner
        exact ⟨(⟨configurationId, id⟩, some r),
          ⟨Select.mem_leftJoin_some.mpr ⟨hv, hr, decide_eq_true hid⟩, rfl⟩, rfl⟩
      · refine ⟨(⟨configurationId, id⟩, none), ⟨Select.mem_leftJoin_none.mpr
          ⟨hv, fun r hr => decide_eq_false fun hid => hpartner ⟨r, hr, hid⟩⟩, rfl⟩, rfl⟩
  rw [classifiedRows, selectedRows, List.filter_filter, List.filter_filter]
  refine List.filter_congr fun r _ => ?_
  rw [Bool.eq_iff_iff]
  simp only [hids, decide_eq_true_eq, Bool.and_eq_true]
  tauto

end Queries

/-! ### The run -/

section Run

/-- The output line of a statistic of the user at a position. -/
def rowOutput (size position : ℕ) (r : Row DailyUserStatistic) : List ℤ :=
  (List.replicate size anomalyNetworkValue).set position
    (if r.val.classification = .normal then 1 else anomalyNetworkValue)

/-- Its pair of lines. -/
def learningRow (t : Tables) (configurationId : RowId) (size position : ℕ)
    (r : Row DailyUserStatistic) : LearningRow :=
  ⟨r.id, inputFor t configurationId r.id, rowOutput size position r⟩

/-- The pairs of lines of a user. -/
def userRows (t : Tables) (configurationId : RowId) (size : ℕ) (user : RowId × ℕ) :
    List LearningRow :=
  ((classifiedRows t configurationId).filter fun r => r.val.userId = user.1).map
    (learningRow t configurationId size user.2)

/-- The training file of a state. -/
def learningSetFile (t : Tables) (configurationId : RowId) : LearningSetFile where
  learningSetSize := (classifiedRows t configurationId).length
  numberOfInputs := numberOfInputs
  numberOfOutputs := (learningUsers t configurationId).length
  rows := (learningUsers t configurationId).zipIdx.flatMap
    (userRows t configurationId (learningUsers t configurationId).length)

variable {configurationId : RowId} {size position : ℕ}

/-- What has been written, and an output that is set at one position at most. -/
def WrittenUpTo (size position : ℕ) (rows : List LearningRow)
    (written : List LearningRow × List ℤ) : Prop :=
  written.1 = rows ∧ ∃ v, written.2 = (List.replicate size anomalyNetworkValue).set position v

/-- One statistic. -/
lemma exec_writeStatistic (configurationId : RowId) {c : Connection Store} {rows : List LearningRow}
    {written : List LearningRow × List ℤ} (hwritten : WrittenUpTo size position rows written)
    {r : Row DailyUserStatistic} (hr : r.val.classification ≠ .unknown) :
    ∃ written', (writeStatistic (Raw.markedCommandsIds c.data.bash configurationId) position written
        r).exec c = (.ok written', c) ∧
      WrittenUpTo size position (rows ++ [learningRow c.data.bash configurationId size position r])
        written' := by
  obtain ⟨rfl, v, hv⟩ := hwritten
  have hnew : ∀ output, output = rowOutput size position r → WrittenUpTo size position
      (written.1 ++ [learningRow c.data.bash configurationId size position r])
      (written.1 ++ [⟨r.id, inputFor c.data.bash configurationId r.id, output⟩], output) := by
    rintro _ rfl
    exact ⟨rfl, _, rfl⟩
  refine ⟨_, Prog.exec_bind_ok (Raw.exec_queryBash c _), hnew _ ?_⟩
  cases hclassification : r.val.classification with
  | unknown => exact absurd hclassification hr
  | normal => simp [rowOutput, hv, hclassification]
  | anomaly => simp [rowOutput, hv, hclassification]

/-- The statistics of a part. -/
lemma exec_writeStatistics (configurationId : RowId) {c : Connection Store}
    (rs : List (Row DailyUserStatistic))
    (hrs : ∀ r ∈ rs, r.val.classification ≠ .unknown) {rows : List LearningRow}
    {written : List LearningRow × List ℤ} (hwritten : WrittenUpTo size position rows written) :
    ∃ written', (rs.foldlM (writeStatistic (Raw.markedCommandsIds c.data.bash configurationId)
        position) written).exec c = (.ok written', c) ∧
      WrittenUpTo size position
        (rows ++ rs.map (learningRow c.data.bash configurationId size position))
        written' := by
  induction rs generalizing rows written with
  | nil =>
      refine ⟨written, rfl, ?_⟩
      rwa [List.map_nil, List.append_nil]
  | cons r rs ih =>
      rw [List.forall_mem_cons] at hrs
      obtain ⟨w, hrun, hw⟩ := exec_writeStatistic configurationId (c := c)
        hwritten hrs.1
      obtain ⟨w', hrest, hw'⟩ := ih hrs.2 hw
      refine ⟨w', ?_, ?_⟩
      · rw [List.foldlM_cons, Prog.exec_bind_ok hrun, hrest]
      · rwa [List.append_assoc, List.singleton_append] at hw'

/-- **The statistics of one user**, part by part. -/
lemma exec_writeUser {c : Connection Store} (user : RowId × ℕ) (rows : List LearningRow) :
    (writeUser configurationId (Raw.markedCommandsIds c.data.bash configurationId)
        (rows, List.replicate size anomalyNetworkValue) user).exec c
      = (.ok (rows ++ userRows c.data.bash configurationId size user,
          List.replicate size anomalyNetworkValue), c) := by
  set xs := (classifiedRows c.data.bash configurationId).filter fun r => r.val.userId
    = user.1 with hxs
  have hclassified : ∀ r ∈ xs, r.val.classification ≠ .unknown := fun r hr =>
    of_decide_eq_true (List.mem_filter.mp (List.mem_filter.mp hr).1).2
  have hcount : (Raw.countSelectedDailyUserStatisticsWithoutUnknownClassificationByUser
      configurationId user.1).exec c = (.ok xs.length, c) := by
    rw [Raw.countSelectedDailyUserStatisticsWithoutUnknownClassificationByUser, Raw.exec_queryBash,
      countP_selectedStatisticsOf, hxs, classifiedRows, List.filter_filter]
  have hpart : ∀ limit offset, (Raw.getSelectedDailyUserStatisticsWithoutUnknownClassificationByUser
      configurationId user.1 limit offset).exec c = (.ok (Select.page limit offset xs), c) := by
    intro limit offset
    rw [Raw.getSelectedDailyUserStatisticsWithoutUnknownClassificationByUser, Raw.exec_queryBash,
      filter_selected]
  obtain ⟨written, s, hrun, hs, hwritten⟩ := Prog.exec_foldlM (parts maxRowsInMemory xs.length)
    (fun written (part : ℕ × ℕ) => do
      let dailyUserStatistics ←
        Raw.getSelectedDailyUserStatisticsWithoutUnknownClassificationByUser configurationId user.1
          part.1 part.2
      dailyUserStatistics.foldlM (writeStatistic (Raw.markedCommandsIds c.data.bash configurationId)
        user.2) written)
    (fun done written s => s = c ∧ WrittenUpTo size user.2
      (rows ++ (done.flatMap fun part => Select.page part.1 part.2 xs).map
        (learningRow c.data.bash configurationId size user.2)) written)
    (by
      rintro done part - written s ⟨rfl, hwritten⟩
      obtain ⟨written', hrun, hwritten'⟩ := exec_writeStatistics configurationId
        (c := s) (Select.page part.1 part.2 xs)
        (fun r hr => hclassified r (List.mem_of_mem_drop (List.mem_of_mem_take hr))) hwritten
      refine ⟨written', s, (Prog.exec_bind_ok (hpart part.1 part.2)).trans hrun, rfl, ?_⟩
      rwa [List.append_assoc, ← List.map_append, ← List.flatMap_singleton (fun part : ℕ × ℕ =>
        Select.page part.1 part.2 xs) part, ← List.flatMap_append] at hwritten')
    (b := (rows, List.replicate size anomalyNetworkValue)) (s := c)
    ⟨rfl, by simp, anomalyNetworkValue, by simp⟩
  rw [hs] at hrun
  obtain ⟨hrows, v, hv⟩ := hwritten
  rw [flatMap_parts, List.take_length] at hrows
  rw [writeUser, Prog.exec_bind_ok hcount, runPartially, Prog.exec_bind_ok hrun, Prog.exec_pure]
  simp [hrows, hv, userRows, hxs]

/-- **The file of a state.** -/
lemma exec_createLearningSetFile (configurationId : RowId) (c : Connection Store) :
    (createLearningSetFile configurationId).exec c
      = (.ok (learningSetFile c.data.bash configurationId), c) := by
  set users := learningUsers c.data.bash configurationId with husers
  have hcount : (Raw.countSelectedDailyStatisticsWithoutUnknownClassification
      configurationId).exec c
      = (.ok (classifiedRows c.data.bash configurationId).length, c) := by
    rw [Raw.countSelectedDailyStatisticsWithoutUnknownClassification, Raw.exec_queryBash,
      countP_selectedStatisticsOf, classifiedRows]
  obtain ⟨written, s, hrun, hs, rfl⟩ := Prog.exec_foldlM users.zipIdx
    (writeUser configurationId (Raw.markedCommandsIds c.data.bash configurationId))
    (fun done written s => s = c ∧ written = (done.flatMap (userRows c.data.bash configurationId
      users.length), List.replicate users.length anomalyNetworkValue))
    (by
      rintro done user - written s ⟨rfl, rfl⟩
      refine ⟨_, s, exec_writeUser user _, rfl, ?_⟩
      rw [List.flatMap_append, List.flatMap_singleton])
    (b := ([], List.replicate users.length anomalyNetworkValue)) (s := c) ⟨rfl, rfl⟩
  rw [hs] at hrun
  have hquery : (Raw.getUsersIdsFromSelectedDailyStatisticsInConfiguration configurationId).exec c
      = (.ok users, c) := Raw.exec_queryBash c _
  have hmarked : (Raw.getMarkedCommandsIds configurationId).exec c
      = (.ok (Raw.markedCommandsIds c.data.bash configurationId), c) := Raw.exec_queryBash c _
  rw [createLearningSetFile, Prog.exec_bind_ok hquery, Prog.exec_bind_ok hcount,
    Prog.exec_bind_ok hmarked, Prog.exec_bind_ok hrun]
  rfl

end Run

/-! ### What holds in every run -/

/-- The commands of a statistic were counted. -/
def CountsNonneg (s : Store) : Prop := ∀ v ∈ s.bash.dailyUserCommandStatistics.vals, 0 ≤ v.summary

/-- The statistics that are selected are there. -/
def SelectedThere (s : Store) : Prop :=
  ∀ v ∈ s.bash.selectedStatistics.vals, v.statisticId ∈ s.bash.dailyUserStatistics.rows.map (·.id)

lemma keeps_selectedThere (x : Operation) :
    Prog.Keeps (fun c => c.All SelectedThere) x.program := by
  refine (steps_operation x).keeps fun s s' h hs v hv => ?_
  have hsame : s'.bash.selectedStatistics = s.bash.selectedStatistics →
      s'.bash.dailyUserStatistics = s.bash.dailyUserStatistics →
      v.statisticId ∈ s'.bash.dailyUserStatistics.rows.map (·.id) := by
    intro hselected hstatistics
    rw [hstatistics]
    exact hs v (hselected ▸ hv)
  cases x with
  | request r =>
      rw [RequestWrites.ids h]
      exact (RequestWrites.selected h v hv).elim (hs v) id
  | createStatistics today =>
      have hselected : s'.bash.selectedStatistics = s.bash.selectedStatistics := by rw [h.1]
      exact List.map_subset _ h.2 (hs v (hselected ▸ hv))
  | analyze debug networks =>
      have hselected : s'.bash.selectedStatistics = s.bash.selectedStatistics := by rw [h.1]
      rw [h.2]
      exact hs v (hselected ▸ hv)
  | addLog => exact hsame (by rw [h.1]) (by rw [h.1])
  | createDailySystemStatistics => exact hsame (by rw [h]) (by rw [h])
  | train => exact hsame (by rw [h]) (by rw [h])
  | getCommandsStatistics => exact hsame (by rw [h.1]) (by rw [h.1])
  | others => exact hsame (by rw [h.bash]) (by rw [h.bash])

/-- A statement on other tables. -/
lemma keeps_countsNonneg_write {f : Tables → Tables}
    (hf : ∀ t, (f t).dailyUserCommandStatistics = t.dailyUserCommandStatistics) :
    Prog.Keeps (fun c => c.All CountsNonneg) (Raw.writeBash f) := by
  refine (Raw.steps_writeBash (R := fun s s' => s'.bash.dailyUserCommandStatistics
    = s.bash.dailyUserCommandStatistics) fun s => hf s.bash).keeps fun s s' h hs v hv => ?_
  exact hs v (h ▸ hv)

/-- What `CreateStatistics` stores is a number of logs. -/
lemma keeps_countsNonneg_createStatistic (agent user date : RowId) :
    Prog.Keeps (fun c => c.All CountsNonneg) (createStatistic agent user date) := by
  refine Prog.Keeps.bind (keeps_countsNonneg_write fun _ => rfl) fun _ => ?_
  refine Prog.Keeps.bind (keeps_queryFirst _) fun id => ?_
  refine Prog.Keeps.bind (Raw.keeps_queryBash _) fun commands =>
    Prog.Keeps.forM (fun command env => ?_) _
  refine Prog.Triple.bind (Q := fun summary _ c => 0 ≤ summary ∧ c.All CountsNonneg)
    (Raw.triple_queryBash fun n c hc => ⟨fun _ => ⟨Int.natCast_nonneg _, hc⟩, fun _ => hc⟩)
      fun summary =>
      Prog.Triple.assume fun hsummary => ?_
  refine (Raw.steps_writeBash (R := fun s s' => ∀ v ∈ s'.bash.dailyUserCommandStatistics.vals,
    v ∈ s.bash.dailyUserCommandStatistics.vals ∨ 0 ≤ v.summary) fun s v hv => ?_).keeps
      (fun s s' h hs v hv => (h v hv).elim (hs v) fun h => h) env
  have hv : v ∈ (s.bash.dailyUserCommandStatistics.insert
    { statisticId := id, commandId := command, summary }).vals := hv
  rw [Table.insert_vals, List.mem_append, List.mem_singleton] at hv
  refine hv.imp_right ?_
  rintro rfl
  exact hsummary

lemma keeps_countsNonneg (x : Operation) : Prog.Keeps (fun c => c.All CountsNonneg) x.program := by
  by_cases hx : ∃ today, x = .createStatistics today
  · obtain ⟨today, rfl⟩ := hx
    refine Prog.Keeps.bind (keeps_query _) fun currentDateId => ?_
    refine Prog.Keeps.bind (keeps_query _) fun agents => Prog.Keeps.forM (fun agent => ?_) _
    refine Prog.Keeps.bind (Raw.keeps_queryBash _) fun users => Prog.Keeps.forM (fun user => ?_) _
    refine Prog.Keeps.bind (Raw.keeps_queryBash _) fun dates => Prog.Keeps.forM (fun date => ?_) _
    split_ifs
    · exact fun _ _ _ => id
    · exact keeps_countsNonneg_createStatistic agent user date
  · refine (steps_operation x).keeps fun s s' h hs v hv => hs v ?_
    exact h.dailyUserCommandStatistics hx ▸ hv

/-! ### The file is well formed -/

/-- The divider knows every count. -/
lemma commandSummaryDivider_ne_none {value : ℤ} (h : 0 ≤ value) :
    commandSummaryDivider value ≠ none := by
  have hlevel : ∀ a : ℚ, some a ≠ none := Option.some_ne_none
  refine ite_ne (hlevel _) fun h₀ => ite_ne (hlevel _) fun h₁ => ite_ne (hlevel _) fun h₂ =>
    ite_ne (hlevel _) fun h₃ => ite_ne (hlevel _) fun h₄ => ite_ne (hlevel _) fun h₅ =>
      ite_ne (hlevel _) fun h₆ => ite_ne (hlevel _) fun h₇ => ite_ne (hlevel _) fun h₈ =>
        ite_ne (hlevel _) fun h₉ => ite_ne (hlevel _) fun h₁₀ => ?_
  -- the intervals leave no gap
  omega

lemma length_loadInput (input : List ℤ) (position : ℕ) (ids : List RowId)
    (xs : List (Row DailyUserCommandStatistic)) :
    (loadInput input position ids xs).length = input.length := by
  rw [loadInput_eq_foldl]
  induction inputWrites position ids xs generalizing input with
  | nil => rfl
  | cons w ws ih => rw [List.foldl_cons, ih, List.length_set]

/-- Every value was there or is a count. -/
lemma mem_loadInput {input : List ℤ} {position : ℕ} {ids : List RowId}
    {xs : List (Row DailyUserCommandStatistic)} {v : ℤ} (hv : v ∈ loadInput input position ids xs) :
    v ∈ input ∨ ∃ x ∈ xs, x.val.summary = v := by
  induction ids generalizing input position xs with
  | nil => exact .inl (by simpa [loadInput] using hv)
  | cons id ids ih =>
      cases xs with
      | nil => exact .inl (by simpa [loadInput] using hv)
      | cons x xs =>
          rw [loadInput] at hv
          split_ifs at hv with hx
          · rcases ih hv with hv | ⟨y, hy, rfl⟩
            · exact (List.mem_or_eq_of_mem_set hv).imp_right fun hv =>
                ⟨x, List.mem_cons_self, hv.symm⟩
            · exact .inr ⟨y, List.mem_cons_of_mem _ hy, rfl⟩
          · exact ih hv

/-- Every value of an input is a level. -/
lemma none_notMem_inputFor {s : Store} (hs : CountsNonneg s) (configurationId statisticId : RowId) :
    none ∉ inputFor s.bash configurationId statisticId := by
  intro hnone
  obtain ⟨v, hv, hdivider⟩ := List.mem_map.mp hnone
  refine commandSummaryDivider_ne_none ?_ hdivider
  rcases mem_loadInput hv with hv | ⟨x, hx, rfl⟩
  · rw [List.eq_of_mem_replicate hv]
  · have hx := List.mem_filter.mp (Select.mem_orderBy.mp hx)
    obtain ⟨q, hq, hpartner⟩ := List.mem_filterMap.mp hx.1
    obtain ⟨v, partner⟩ := q
    obtain rfl : partner = some x := hpartner
    exact hs _ (List.mem_map_of_mem (Select.mem_leftJoin_some.mp hq).2.1)

lemma length_inputFor (t : Tables) (configurationId statisticId : RowId) :
    (inputFor t configurationId statisticId).length = numberOfInputs := by
  rw [inputFor, networkInput, List.length_map, length_loadInput, List.length_replicate]

section File

variable {s : Store} {configurationId : RowId}

/-- The pairs of lines, put back in the order of the table. -/
lemma statistics_perm (hs : SelectedThere s) (configurationId : RowId) :
    ((learningSetFile s.bash configurationId).rows.map (·.statisticId)).Perm
      ((classifiedRows s.bash configurationId).map (·.id)) := by
  have hrows : (learningSetFile s.bash configurationId).rows.map (·.statisticId)
      = ((learningUsers s.bash configurationId).flatMap fun user =>
          (classifiedRows s.bash configurationId).filter fun r => r.val.userId
            = user).map (·.id) := by
    rw [learningSetFile, List.map_flatMap, List.map_flatMap]
    conv_rhs => rw [← List.zipIdx_map_fst 0 (learningUsers s.bash configurationId),
      List.flatMap_map]
    refine List.flatMap_congr fun user _ => ?_
    rw [userRows, List.map_map]
    rfl
  rw [hrows]
  refine (Select.flatMap_filter_perm (nodup_learningUsers _ _) fun r hr => ?_).map _
  exact (mem_learningUsers hs).mpr ⟨r, (List.mem_filter.mp hr).1, rfl⟩

/-- One position set is one user told. -/
lemma set_replicate_eq_map {users : List RowId} (hnodup : users.Nodup) {position : ℕ} {user : RowId}
    (huser : users[position]? = some user) (P : Prop) [Decidable P] :
    (List.replicate users.length anomalyNetworkValue).set position
        (if P then 1 else anomalyNetworkValue)
      = users.map fun u => if P ∧ u = user then 1 else anomalyNetworkValue := by
  refine List.ext_getElem (by simp) fun i hi hi' => ?_
  rw [List.length_map] at hi'
  obtain ⟨hposition, huser⟩ := List.getElem?_eq_some_iff.mp huser
  rw [List.getElem_set, List.getElem_map, List.getElem_replicate]
  by_cases heq : position = i
  · subst heq
    rw [if_pos rfl, huser]
    simp
  · have hne : users[i] ≠ user := by
      rw [← huser]
      exact fun h => heq ((List.Nodup.getElem_inj_iff hnodup).mp h).symm
    rw [if_neg heq, if_neg fun h => hne h.2]

/-- **The file of a state is well formed** if its counts are counts, what is
selected is there, and no more commands are selected than there are inputs. -/
lemma wellFormed_learningSetFile (hcounts : CountsNonneg s) (hthere : SelectedThere s)
    (hlength : (Raw.markedCommandsIds s.bash configurationId).length ≤ numberOfInputs) :
    WellFormed s.bash configurationId (learningSetFile s.bash configurationId) where
  pairs := by
    have := (statistics_perm hthere configurationId).length_eq
    rw [List.length_map, List.length_map] at this
    exact this.symm
  statistics := statistics_perm hthere configurationId
  inputs := by
    refine ⟨rfl, fun row hrow => ?_⟩
    obtain ⟨user, -, hrow⟩ := List.mem_flatMap.mp hrow
    obtain ⟨r, -, rfl⟩ := List.mem_map.mp hrow
    exact ⟨length_inputFor _ _ _, none_notMem_inputFor hcounts _ _⟩
  positions r _ w hw := by
    have := lt_of_mem_inputWrites hw
    omega
  outputs := by
    refine ⟨_, nodup_learningUsers s.bash configurationId, fun user =>
      mem_learningUsers hthere, rfl,
      fun row hrow v hv => ?_⟩
    obtain ⟨⟨user, position⟩, huser, hrow⟩ := List.mem_flatMap.mp hrow
    obtain ⟨r, hr, rfl⟩ := List.mem_map.mp hrow
    obtain ⟨hr, hruser⟩ := List.mem_filter.mp hr
    have hr : r ∈ s.bash.dailyUserStatistics.rows :=
      (List.mem_filter.mp (List.mem_filter.mp hr).1).1
    obtain rfl : r.val = v := Option.some.inj ((Table.get?_eq_some.mpr hr).symm.trans hv)
    have hruser : r.val.userId = user := of_decide_eq_true hruser
    show rowOutput _ position r = _
    rw [rowOutput, hruser]
    exact set_replicate_eq_map (nodup_learningUsers _ _)
      (List.mk_mem_zipIdx_iff_getElem?.mp huser) _

end File

/-- **The training file is well formed and complete** in every state that is
reached. -/
theorem learning_set_file_well_formed {c : Connection Store} (h : Reached c)
    (configurationId : RowId)
    (hlength : (Raw.markedCommandsIds c.data.bash configurationId).length ≤ numberOfInputs) :
    ∃ file, (createLearningSetFile configurationId).exec c = (.ok file, c) ∧
      WellFormed c.data.bash configurationId file := by
  have hcounts := h.all (fun v hv => absurd hv List.not_mem_nil) keeps_countsNonneg
  have hthere := h.all (fun v hv => absurd hv List.not_mem_nil) keeps_selectedThere
  exact ⟨_, exec_createLearningSetFile configurationId c,
    wellFormed_learningSetFile hcounts.1 hthere.1 hlength⟩

/-- The logs of two users, their statistics, a configuration that selects them and both
commands, and the request that calls the first one normal and the second an anomaly. -/
def twoUsers : Connection Store :=
  runAll [.addLog someLogEntry,
    .addLog { someLogEntry with userId := 1001, command := cString [119] },
    .createStatistics dayAfterLog,
    .request (.saveConfiguration .stable 1 someLogEntry.utcTime.date someLogEntry.utcTime.date),
    .request (.saveSelectedCommands 1 [1, 2]),
    .request (.updateDailyUserStatisticsClassification 1 [1] [2])] ⟨Store.empty, none⟩

theorem learning_set_file_well_formed_twoUsers :
    ∃ file, (createLearningSetFile 1).exec twoUsers = (.ok file, twoUsers) ∧
      WellFormed twoUsers.data.bash 1 file ∧
      file.rows.map (fun row => (row.statisticId, row.output))
        = [(1, [1, anomalyNetworkValue]), (2, [anomalyNetworkValue, anomalyNetworkValue])] := by
  have hreached : Reached twoUsers := Reached.empty.runAll _
  obtain ⟨file, hfile, hwell⟩ := learning_set_file_well_formed hreached 1 (by
    rw [length_markedCommandsIds]
    exact (hreached.all bounded_empty keeps_operation).1 1)
  refine ⟨file, hfile, hwell, ?_⟩
  obtain ⟨hsame, -⟩ := Prod.mk.inj ((exec_createLearningSetFile 1 twoUsers).symm.trans hfile)
  rw [← Except.ok.inj hsame]
  decide +kernel

end Slas.Bash
