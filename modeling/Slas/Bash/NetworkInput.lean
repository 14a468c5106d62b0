import Mathlib
import Slas.Lib.MergeFill
import Slas.Bash.RawDatabaseFunctions

/-!
The input vectors of the neural networks:
`server/src/bash/analyzer/detail/command_summary_divider/command_summary_divider.h`
and the loop that `network_trainer.cpp` and `classificator.cpp` have in common.

* `commandSummaryDivider`: the levels;
* `loadInput`: the loop, which walks along the selected commands of a
  configuration and the counts of a statistic;
* `expectedInput`: the levels of the counts, in the order of the commands;
* `networkInput_iff`: the loop loads them exactly if the state `Fits`.
-/

namespace Slas.Bash

/-- `CommandSummaryDivider::operator()`. A negative value runs past its end. -/
def commandSummaryDivider (value : ℤ) : Option ℚ :=
  if value = 0 then some 0
  else if 1 ≤ value ∧ value ≤ 2 then some (1 / 10)
  else if 3 ≤ value ∧ value ≤ 5 then some (2 / 10)
  else if 6 ≤ value ∧ value ≤ 10 then some (3 / 10)
  else if 11 ≤ value ∧ value ≤ 19 then some (4 / 10)
  else if 19 ≤ value ∧ value ≤ 35 then some (5 / 10)
  else if 36 ≤ value ∧ value ≤ 68 then some (6 / 10)
  else if 69 ≤ value ∧ value ≤ 133 then some (7 / 10)
  else if 134 ≤ value ∧ value ≤ 262 then some (8 / 10)
  else if 263 ≤ value ∧ value ≤ 519 then some (9 / 10)
  else if 520 ≤ value then some 1
  else none

lemma ite_ne {p : Prop} [Decidable p] {a b r : Option ℚ} (ha : a ≠ r) (hb : ¬p → b ≠ r) :
    (if p then a else b) ≠ r := by
  split_ifs with hp
  · exact ha
  · exact hb hp

/-- Level `0` means that there is nothing. -/
lemma commandSummaryDivider_eq_zero {value : ℤ}
    (h : commandSummaryDivider value = commandSummaryDivider 0) : value = 0 := by
  by_contra hne
  rw [show commandSummaryDivider 0 = some 0 from rfl, commandSummaryDivider, if_neg hne] at h
  revert h
  refine ite_ne (by simp) fun _ => ite_ne (by simp) fun _ => ite_ne (by simp) fun _ =>
    ite_ne (by simp) fun _ => ite_ne (by simp) fun _ => ite_ne (by simp) fun _ =>
      ite_ne (by simp) fun _ => ite_ne (by simp) fun _ => ite_ne (by simp) fun _ =>
        ite_ne (by simp) fun _ => by simp

/-- The number of inputs of a network. -/
def numberOfInputs : ℕ := 100

/-- The loop over the selected commands and the counts, which come as the lists
of what is still to be visited. -/
def loadInput (input : List ℤ) (selectedCommandsPosition : ℕ) :
    List RowId → List (Row DailyUserCommandStatistic) → List ℤ
  | [], _ => input
  | _, [] => input
  | id :: selectedCommandsIds, commandStatistic :: commandsStatistics =>
      if commandStatistic.val.commandId = id then
        loadInput (input.set selectedCommandsPosition commandStatistic.val.summary)
          (selectedCommandsPosition + 1) selectedCommandsIds commandsStatistics
      else loadInput input (selectedCommandsPosition + 1) selectedCommandsIds
        (commandStatistic :: commandsStatistics)

/-- The input row for a statistic: filled with zeros, loaded and divided. -/
def networkInput (selectedCommandsIds : List RowId)
    (commandsStatistics : List (Row DailyUserCommandStatistic)) : List (Option ℚ) :=
  (loadInput (List.replicate numberOfInputs 0) 0 selectedCommandsIds commandsStatistics).map
    commandSummaryDivider

/-! ### What the input should be -/

/-- The counts of a command in a statistic; the analysis makes one at most. -/
def countsOf (t : Tables) (statisticId commandId : RowId) : List (Row DailyUserCommandStatistic) :=
  t.dailyUserCommandStatistics.rows.filter fun r =>
    r.val.statisticId = statisticId ∧ r.val.commandId = commandId

/-- The summary of a command in a statistic, `0` if it has no such command. -/
def summaryOf (t : Tables) (statisticId commandId : RowId) : ℤ :=
  ((countsOf t statisticId commandId).head?.map (·.val.summary)).getD 0

/-- The levels of the selected commands in order, and `0` after the last. -/
def expectedInput (t : Tables) (configurationId statisticId : RowId) : List (Option ℚ) :=
  let selected := Raw.markedCommandsIds t configurationId
  selected.map (fun id => commandSummaryDivider (summaryOf t statisticId id)) ++
    List.replicate (numberOfInputs - selected.length) (commandSummaryDivider 0)

/-- Who selects a command. -/
def selectionsOfCommand (t : Tables) (commandId : RowId) : List SelectedCommand :=
  t.selectedCommands.vals.filter fun v => v.commandId = commandId

/-- Below a command that counts for the configuration, every command of the
statistic is selected by no configuration, or by this one alone and is counted
once. -/
def Fits (t : Tables) (configurationId statisticId : RowId) : Prop :=
  ∀ id ∈ Raw.markedCommandsIds t configurationId, summaryOf t statisticId id ≠ 0 →
    ∀ r ∈ t.dailyUserCommandStatistics.rows, r.val.statisticId = statisticId →
      r.val.commandId < id → selectionsOfCommand t r.val.commandId = [] ∨
        (selectionsOfCommand t r.val.commandId = [⟨configurationId, r.val.commandId⟩] ∧
          (countsOf t statisticId r.val.commandId).length = 1)

instance (t : Tables) (configurationId statisticId : RowId) :
    Decidable (Fits t configurationId statisticId) := by
  unfold Fits
  infer_instance

/-! ### The loop -/

/-- The loop as a walk along two lists. -/
abbrev fillInput (ids : List RowId) (xs : List (Row DailyUserCommandStatistic)) : List ℤ :=
  MergeFill.fill (fun x => x.val.commandId) (fun x => x.val.summary) ids xs

lemma set_append_replicate (pre : List ℤ) (k : ℕ) (v : ℤ) :
    (pre ++ List.replicate (k + 1) 0).set pre.length v = pre ++ [v] ++ List.replicate k 0 := by
  rw [List.set_append_right _ _ le_rfl, Nat.sub_self, List.replicate_succ, List.set_cons_zero,
    List.append_assoc]
  rfl

/-- What the loop has passed stays, and the rest is what the walk finds. -/
lemma loadInput_eq (pre : List ℤ) (ids : List RowId) (xs : List (Row DailyUserCommandStatistic))
    (k : ℕ) : loadInput (pre ++ List.replicate (ids.length + k) 0) pre.length ids xs
      = pre ++ fillInput ids xs ++ List.replicate k 0 := by
  induction ids generalizing pre xs with
  | nil => simp [loadInput, MergeFill.fill]
  | cons id ids ih =>
      have hlength : (id :: ids).length + k = ids.length + k + 1 := by
        rw [List.length_cons]
        omega
      cases xs with
      | nil =>
          have hzero : ∀ ids : List RowId, fillInput ids [] = List.replicate ids.length 0 := by
            intro ids
            induction ids with
            | nil => rfl
            | cons id ids ih => exact congrArg (List.cons 0) ih
          rw [hzero, loadInput, List.append_assoc, ← List.replicate_add]
          simp
      | cons x xs =>
          rw [loadInput, fillInput, MergeFill.fill, hlength]
          split_ifs with hx
          · rw [set_append_replicate]
            have := ih (pre ++ [x.val.summary]) xs
            rw [List.length_append, List.length_singleton] at this
            rw [this]
            simp
          · have := ih (pre ++ [0]) (x :: xs)
            rw [List.length_append, List.length_singleton, List.append_assoc,
              List.singleton_append, ← List.replicate_succ] at this
            rw [this]
            simp

/-- The loop and the walk, with at most as many commands as inputs. -/
lemma networkInput_eq {ids : List RowId} (hlength : ids.length ≤ numberOfInputs)
    (xs : List (Row DailyUserCommandStatistic)) :
    networkInput ids xs = (fillInput ids xs).map commandSummaryDivider ++
      List.replicate (numberOfInputs - ids.length) (commandSummaryDivider 0) := by
  have hload := loadInput_eq [] ids xs (numberOfInputs - ids.length)
  rw [List.nil_append, Nat.add_sub_cancel' hlength] at hload
  have hload : loadInput (List.replicate numberOfInputs 0) 0 ids xs
      = fillInput ids xs ++ List.replicate (numberOfInputs - ids.length) 0 := hload
  rw [networkInput, hload, List.map_append, List.map_replicate]

/-! ### The two queries -/

section Queries

variable {t : Tables} {configurationId statisticId : RowId}

lemma mem_markedCommandsIds {id : RowId} : id ∈ Raw.markedCommandsIds t configurationId ↔
    (⟨configurationId, id⟩ : SelectedCommand) ∈ t.selectedCommands.vals := by
  simp only [Raw.markedCommandsIds, Select.mem_orderBy, List.mem_map, List.mem_filter,
    decide_eq_true_eq]
  constructor
  · rintro ⟨⟨c, m⟩, ⟨hv, rfl⟩, rfl⟩
    exact hv
  · exact fun hv => ⟨_, ⟨hv, rfl⟩, rfl⟩

/-- No command is selected twice by one configuration. -/
lemma pairwise_markedCommandsIds : (Raw.markedCommandsIds t configurationId).Pairwise (· < ·) := by
  have hvals := t.selectedCommands.nodup_vals
  have hnodup : (Raw.markedCommandsIds t configurationId).Nodup := by
    rw [Raw.markedCommandsIds, (Select.orderBy_perm _ _).nodup_iff]
    refine List.Nodup.map_on (fun v hv w hw h => ?_) (hvals.filter _)
    have hv := of_decide_eq_true (List.mem_filter.mp hv).2
    have hw := of_decide_eq_true (List.mem_filter.mp hw).2
    cases v
    cases w
    simp_all
  exact (Select.orderBy_sorted id _).imp₂ (fun _ _ hle hne => lt_of_le_of_ne hle hne) hnodup

/-- The join behind `GetSelectedDailyUserCommandsStatistics`, before it is
ordered. -/
def partnersOf (t : Tables) (statisticId : RowId) : List (Row DailyUserCommandStatistic) :=
  (t.selectedCommands.vals.flatMap fun bsct => t.dailyUserCommandStatistics.rows.filter
    fun bducst => bsct.commandId = bducst.val.commandId).filter
      fun bducst => bducst.val.statisticId = statisticId

lemma selectedDailyUserCommandsStatistics_eq (t : Tables) (statisticId : RowId) :
    Raw.selectedDailyUserCommandsStatistics t statisticId
      = Select.orderBy (·.val.commandId) (partnersOf t statisticId) := by
  rw [Raw.selectedDailyUserCommandsStatistics, Select.filterMap_leftJoin, partnersOf]

lemma sorted_selectedDailyUserCommandsStatistics (t : Tables) (statisticId : RowId) :
    (Raw.selectedDailyUserCommandsStatistics t statisticId).Pairwise
      fun a b => a.val.commandId ≤ b.val.commandId := by
  rw [selectedDailyUserCommandsStatistics_eq]
  exact Select.orderBy_sorted _ _

/-- The first count that is found for a command the configuration selects. -/
lemma find?_selectedDailyUserCommandsStatistics {id : RowId}
    (hid : id ∈ Raw.markedCommandsIds t configurationId) (statisticId : RowId) :
    ((Raw.selectedDailyUserCommandsStatistics t statisticId).find? fun x => x.val.commandId = id)
      = (countsOf t statisticId id).head? := by
  have hsel : ∃ v ∈ t.selectedCommands.vals, v.commandId = id :=
    ⟨_, mem_markedCommandsIds.mp hid, rfl⟩
  rw [selectedDailyUserCommandsStatistics_eq, Select.find?_orderBy_key, partnersOf,
    Select.find?_partners hsel, countsOf, List.head?_filter]
  simp only [Bool.decide_and]

/-- What there is to find for a selected command is its summary. -/
lemma first_eq_summaryOf {id : RowId} (hid : id ∈ Raw.markedCommandsIds t configurationId) :
    MergeFill.first (fun x : Row DailyUserCommandStatistic => x.val.commandId)
      (fun x => x.val.summary) (Raw.selectedDailyUserCommandsStatistics t statisticId) id
      = summaryOf t statisticId id := by
  rw [MergeFill.first, find?_selectedDailyUserCommandsStatistics hid, summaryOf]

lemma mem_partnersOf {x : Row DailyUserCommandStatistic} : x ∈ partnersOf t statisticId ↔
    x ∈ t.dailyUserCommandStatistics.rows ∧ x.val.statisticId = statisticId ∧
      selectionsOfCommand t x.val.commandId ≠ [] := by
  simp only [partnersOf, List.mem_filter, List.mem_flatMap, decide_eq_true_eq, selectionsOfCommand,
    ne_eq, List.filter_eq_nil_iff, not_forall, not_not]
  constructor
  · rintro ⟨⟨v, hv, hx, hcommand⟩, hstatistic⟩
    exact ⟨hx, hstatistic, v, hv, hcommand⟩
  · rintro ⟨hx, hstatistic, v, hv, hcommand⟩
    exact ⟨⟨v, hv, hx, hcommand⟩, hstatistic⟩

/-- The walk goes past a command that this configuration alone selects and that
is counted once. -/
lemma passable_iff {id : RowId} :
    MergeFill.Passable (fun x : Row DailyUserCommandStatistic => x.val.commandId)
        (Raw.markedCommandsIds t configurationId)
        (Raw.selectedDailyUserCommandsStatistics t statisticId) id ↔
      selectionsOfCommand t id = [⟨configurationId, id⟩] ∧
        (countsOf t statisticId id).length = 1 := by
  have hproduct : (Raw.selectedDailyUserCommandsStatistics t statisticId).countP
      (fun x => x.val.commandId = id)
      = (selectionsOfCommand t id).length * (countsOf t statisticId id).length := by
    rw [selectedDailyUserCommandsStatistics_eq, (Select.orderBy_perm _ _).countP_eq, partnersOf,
      Select.countP_partners, List.countP_eq_length_filter, List.countP_eq_length_filter,
      selectionsOfCommand, countsOf]
    simp only [Bool.decide_and]
  rw [MergeFill.Passable, hproduct, mul_eq_one, mem_markedCommandsIds]
  constructor
  · rintro ⟨hmem, hone, hcounts⟩
    refine ⟨?_, hcounts⟩
    obtain ⟨v, hv⟩ := List.length_eq_one_iff.mp hone
    have hown : (⟨configurationId, id⟩ : SelectedCommand) ∈ selectionsOfCommand t id :=
      List.mem_filter.mpr ⟨hmem, decide_eq_true rfl⟩
    rw [hv, List.mem_singleton] at hown
    rw [hv, hown]
  · rintro ⟨hone, hcounts⟩
    have hown : (⟨configurationId, id⟩ : SelectedCommand) ∈ selectionsOfCommand t id := by
      rw [hone]
      exact List.mem_cons_self
    exact ⟨(List.mem_filter.mp hown).1, by rw [hone]; rfl, hcounts⟩

/-- The walk is not stuck before a command exactly if the commands of the
statistic below it are passable. -/
lemma forall_passable_iff (id : RowId) :
    (∀ x ∈ Raw.selectedDailyUserCommandsStatistics t statisticId, x.val.commandId < id →
        MergeFill.Passable (fun x : Row DailyUserCommandStatistic => x.val.commandId)
          (Raw.markedCommandsIds t configurationId)
          (Raw.selectedDailyUserCommandsStatistics t statisticId) x.val.commandId) ↔
      ∀ r ∈ t.dailyUserCommandStatistics.rows, r.val.statisticId = statisticId →
        r.val.commandId < id → selectionsOfCommand t r.val.commandId = [] ∨
          (selectionsOfCommand t r.val.commandId = [⟨configurationId, r.val.commandId⟩] ∧
            (countsOf t statisticId r.val.commandId).length = 1) := by
  have hmem : ∀ x, x ∈ Raw.selectedDailyUserCommandsStatistics t statisticId ↔ _ := fun x => by
    rw [selectedDailyUserCommandsStatistics_eq, Select.mem_orderBy, mem_partnersOf]
  constructor
  · intro h r hr hstatistic hlt
    by_cases hsel : selectionsOfCommand t r.val.commandId = []
    · exact .inl hsel
    · exact .inr (passable_iff.mp (h r ((hmem r).mpr ⟨hr, hstatistic, hsel⟩) hlt))
  · intro h x hx hlt
    obtain ⟨hx, hstatistic, hsel⟩ := (hmem x).mp hx
    exact passable_iff.mpr ((h x hx hstatistic hlt).resolve_left hsel)

end Queries

/-- **The input vector is what it should be exactly if the state fits.** -/
lemma networkInput_iff {t : Tables} {configurationId statisticId : RowId}
    (hlength : (Raw.markedCommandsIds t configurationId).length ≤ numberOfInputs) :
    networkInput (Raw.markedCommandsIds t configurationId)
        (Raw.selectedDailyUserCommandsStatistics t statisticId)
      = expectedInput t configurationId statisticId ↔ Fits t configurationId statisticId := by
  set ids := Raw.markedCommandsIds t configurationId with hids
  set xs := Raw.selectedDailyUserCommandsStatistics t statisticId with hxs
  have hsorted : xs.Pairwise fun a b => a.val.commandId ≤ b.val.commandId :=
    sorted_selectedDailyUserCommandsStatistics t statisticId
  have hfirst : ids.map (MergeFill.first (fun x => x.val.commandId) (fun x => x.val.summary) xs)
      = ids.map (summaryOf t statisticId) :=
    List.map_congr_left fun id hid => first_eq_summaryOf hid
  have hexpected : expectedInput t configurationId statisticId
      = (ids.map (summaryOf t statisticId)).map commandSummaryDivider ++
        List.replicate (numberOfInputs - ids.length) (commandSummaryDivider 0) := by
    rw [expectedInput, List.map_map]
    rfl
  rw [networkInput_eq hlength, hexpected, List.append_left_inj, ← hfirst, fillInput,
    MergeFill.map_fill_eq_iff (fun _ => commandSummaryDivider_eq_zero) pairwise_markedCommandsIds,
    MergeFill.fill_eq_map_first_iff pairwise_markedCommandsIds hsorted, Fits]
  refine forall₂_congr fun id hid => ?_
  rw [first_eq_summaryOf hid, forall_passable_iff]

end Slas.Bash
