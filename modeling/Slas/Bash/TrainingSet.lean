import Mathlib
import Slas.Bash.Classification

/-!
What a network is trained on, and what it depends on.

* `Training`, `trainingOf`: the users, the selected commands and the training file
  of a configuration;
* `trainingOf_congr`: it stays the same while the configuration selects the same
  statistics and commands, those statistics stay as they are, and their inputs do;
* `inputFor_congr`: an input stays the same while no command is selected or
  deselected that comes in the way of the walk.
-/

namespace Slas.Bash

open Database NetworkTrainer

/-- What a network is trained on. -/
structure Training where
  users : List RowId
  selectedCommandsIds : List RowId
  file : LearningSetFile

/-- What `Train` would train the network of a configuration on. -/
def trainingOf (t : Tables) (configurationId : RowId) : Training where
  users := learningUsers t configurationId
  selectedCommandsIds := Raw.markedCommandsIds t configurationId
  file := learningSetFile t configurationId

/-! ### The statistics -/

section Statistics

variable {t t' : Tables} {configurationId : RowId}

/-- The statistics a configuration selects, by their ids. -/
def selectionsFor (t : Tables) (configurationId : RowId) : List SelectedStatistic :=
  t.selectedStatistics.vals.filter fun v => v.configurationId = configurationId

lemma mem_selectionsFor {v : SelectedStatistic} : v ∈ selectionsFor t configurationId ↔
    v ∈ t.selectedStatistics.vals ∧ v.configurationId = configurationId := by
  rw [selectionsFor, List.mem_filter, decide_eq_true_eq]

/-- Every selection has the row of its id, if there is one. -/
lemma selectedStatisticsOf_eq (t : Tables) (configurationId : RowId) :
    Raw.selectedStatisticsOf t configurationId = (selectionsFor t configurationId).map fun v =>
      (v, (t.dailyUserStatistics.get? v.statisticId).map (Row.mk v.statisticId)) := by
  rw [Raw.selectedStatisticsOf, Select.filter_leftJoin fun v : SelectedStatistic =>
    decide (v.configurationId = configurationId), Select.leftJoin, ← selectionsFor,
      List.map_eq_flatMap]
  refine List.flatMap_congr fun v _ => ?_
  rw [Table.filter_id]
  cases t.dailyUserStatistics.get? v.statisticId with
  | none => rfl
  | some w => rfl

/-- The statistics a configuration selects are what they were. -/
def SameStatistics (t t' : Tables) (configurationId : RowId) : Prop :=
  selectionsFor t' configurationId = selectionsFor t configurationId ∧
    ∀ v ∈ selectionsFor t configurationId,
      t'.dailyUserStatistics.get? v.statisticId = t.dailyUserStatistics.get? v.statisticId

lemma SameStatistics.learningUsers (h : SameStatistics t t' configurationId) :
    learningUsers t' configurationId = learningUsers t configurationId := by
  have hselected : Raw.selectedStatisticsOf t' configurationId
      = Raw.selectedStatisticsOf t configurationId := by
    rw [selectedStatisticsOf_eq, selectedStatisticsOf_eq, h.1]
    exact List.map_congr_left fun v hv => by rw [h.2 v hv]
  rw [Bash.learningUsers, hselected, Bash.learningUsers]

lemma mem_selectedRows {r : Row DailyUserStatistic} : r ∈ selectedRows t configurationId ↔
    t.dailyUserStatistics.get? r.id = some r.val ∧
      (⟨configurationId, r.id⟩ : SelectedStatistic) ∈ selectionsFor t configurationId := by
  rw [selectedRows, List.mem_filter, decide_eq_true_eq, Table.get?_eq_some, mem_selectionsFor]
  exact ⟨fun h => ⟨h.1, h.2, rfl⟩, fun h => ⟨h.1, h.2.1⟩⟩

lemma increasing_selectedRows (t : Tables) (configurationId : RowId) :
    (selectedRows t configurationId).Pairwise fun r r' => r.id < r'.id :=
  t.dailyUserStatistics.increasing.filter _

lemma SameStatistics.selectedRows (h : SameStatistics t t' configurationId) :
    selectedRows t' configurationId = selectedRows t configurationId := by
  have hmem : ∀ r, r ∈ Bash.selectedRows t' configurationId ↔
      r ∈ Bash.selectedRows t configurationId := by
    intro r
    rw [mem_selectedRows, mem_selectedRows, h.1]
    exact and_congr_left fun hr => by rw [h.2 _ hr]
  have hincreasing := increasing_selectedRows t configurationId
  have hincreasing' := increasing_selectedRows t' configurationId
  refine List.Perm.eq_of_pairwise (fun r r' _ _ hlt hlt' => absurd hlt (lt_asymm hlt')) hincreasing'
    hincreasing ((List.perm_ext_iff_of_nodup ?_ ?_).mpr hmem)
  · exact hincreasing'.imp fun hlt heq => hlt.ne (congrArg Row.id heq)
  · exact hincreasing.imp fun hlt heq => hlt.ne (congrArg Row.id heq)

lemma SameStatistics.classifiedRows (h : SameStatistics t t' configurationId) :
    classifiedRows t' configurationId = classifiedRows t configurationId := by
  rw [Bash.classifiedRows, h.selectedRows, Bash.classifiedRows]

/-- **What a network is trained on** stays the same. -/
lemma trainingOf_congr (h : SameStatistics t t' configurationId)
    (hcommands : Raw.markedCommandsIds t' configurationId = Raw.markedCommandsIds t configurationId)
    (hinputs : ∀ r ∈ classifiedRows t configurationId,
      inputFor t' configurationId r.id = inputFor t configurationId r.id) :
    trainingOf t' configurationId = trainingOf t configurationId := by
  have hrows : ∀ size, ∀ user : RowId × ℕ, userRows t' configurationId size user
      = userRows t configurationId size user := by
    intro size user
    rw [userRows, userRows, h.classifiedRows]
    refine List.map_congr_left fun r hr => ?_
    rw [learningRow, hinputs r (List.mem_filter.mp hr).1, learningRow]
  have hfile : learningSetFile t' configurationId = learningSetFile t configurationId := by
    rw [learningSetFile, learningSetFile, h.classifiedRows, h.learningUsers]
    congr 1
    exact List.flatMap_congr fun user _ => hrows _ user
  rw [trainingOf, trainingOf, hfile, h.learningUsers, hcommands]

end Statistics

/-! ### The inputs -/

section Inputs

variable {t t' : Tables} {configurationId statisticId : RowId}

/-- The counts of a command come once for every configuration that selects it. -/
lemma filter_partnersOf (t : Tables) (statisticId commandId : RowId) :
    ((partnersOf t statisticId).filter fun x => x.val.commandId = commandId)
      = (List.replicate (selectionsOfCommand t commandId).length
          (countsOf t statisticId commandId)).flatten := by
  rw [partnersOf, selectionsOfCommand]
  induction t.selectedCommands.vals with
  | nil => rfl
  | cons v vals ih =>
      rw [List.flatMap_cons, List.filter_append, List.filter_append, ih, List.filter_filter,
        List.filter_filter]
      by_cases hv : v.commandId = commandId
      · rw [List.filter_cons_of_pos (by simpa using hv), List.length_cons, List.replicate_succ,
          List.flatten_cons, countsOf]
        congr 1
        refine List.filter_congr fun x _ => ?_
        rw [Bool.eq_iff_iff]
        simp only [Bool.and_eq_true, decide_eq_true_eq, hv]
        tauto
      · rw [List.filter_cons_of_neg
          (by simpa using hv), List.filter_eq_nil_iff.mpr fun x _ hx => ?_,
          List.nil_append]
        simp only [Bool.and_eq_true, decide_eq_true_eq] at hx
        exact hv (hx.2.trans hx.1.1)

lemma notMem_of_countsOf_eq_nil {id : RowId} (h : countsOf t statisticId id = []) :
    ∀ x ∈ Raw.selectedDailyUserCommandsStatistics t statisticId, x.val.commandId ≠ id := by
  rintro x hx rfl
  rw [selectedDailyUserCommandsStatistics_eq, Select.mem_orderBy, mem_partnersOf] at hx
  have hmem : x ∈ countsOf t statisticId x.val.commandId :=
    List.mem_filter.mpr ⟨hx.1, decide_eq_true ⟨hx.2.1, rfl⟩⟩
  rw [h] at hmem
  exact absurd hmem List.not_mem_nil

/-- A command that is selected more or less often than before does not come in
the way: the statistic does not count it, or counts none of those behind it. -/
def OutOfTheWay (t : Tables) (configurationId statisticId commandId : RowId) : Prop :=
  countsOf t statisticId commandId = [] ∨
    ∀ id ∈ Raw.markedCommandsIds t configurationId, commandId < id → countsOf t statisticId id = []

/-- **An input** stays the same. -/
lemma inputFor_congr
    (hmarked : Raw.markedCommandsIds t' configurationId = Raw.markedCommandsIds t configurationId)
    (hlength : (Raw.markedCommandsIds t configurationId).length ≤ numberOfInputs)
    (hcounts : ∀ id, countsOf t' statisticId id = countsOf t statisticId id)
    (h : ∀ id, (selectionsOfCommand t' id).length = (selectionsOfCommand t id).length ∨
      OutOfTheWay t configurationId statisticId id) :
    inputFor t' configurationId statisticId = inputFor t configurationId statisticId := by
  set xs := Raw.selectedDailyUserCommandsStatistics t statisticId with hxs
  set ys := Raw.selectedDailyUserCommandsStatistics t' statisticId with hys
  have hfilter : ∀ t id, ((Raw.selectedDailyUserCommandsStatistics t statisticId).filter
      fun x => x.val.commandId = id) = (List.replicate (selectionsOfCommand t id).length
        (countsOf t statisticId id)).flatten := by
    intro t id
    rw [selectedDailyUserCommandsStatistics_eq, Select.filter_orderBy_key, filter_partnersOf]
  have hfill : fillInput (Raw.markedCommandsIds t configurationId) ys
      = fillInput (Raw.markedCommandsIds t configurationId) xs := by
    refine MergeFill.fill_congr pairwise_markedCommandsIds
      (sorted_selectedDailyUserCommandsStatistics t' statisticId)
      (sorted_selectedDailyUserCommandsStatistics t statisticId) fun id => ?_
    rcases h id with hsame | hnone | habove
    · left
      rw [hxs, hys, hfilter, hfilter, hsame, hcounts]
    · left
      rw [hxs, hys, hfilter, hfilter, hcounts, hnone]
      simp
    · refine .inr ⟨fun hid => ?_, fun id' hid' hlt => ?_⟩
      · rw [hxs, hys, find?_selectedDailyUserCommandsStatistics (hmarked ▸ hid),
          find?_selectedDailyUserCommandsStatistics hid, hcounts]
      · have hnone := habove id' hid' hlt
        exact ⟨notMem_of_countsOf_eq_nil ((hcounts id').trans hnone),
          notMem_of_countsOf_eq_nil hnone⟩
  rw [inputFor, inputFor, hmarked, networkInput_eq hlength, networkInput_eq hlength, hfill]

end Inputs

end Slas.Bash
