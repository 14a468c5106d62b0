import Mathlib
import Slas.Bash.TrainingSet

/-!
What a request of the web that has returned has done.

* `Request.target`, `Request.selects`, `Request.classify`: the configuration a
  request is about, the commands that configuration then selects, and how the
  statistics are then classified;
* `Answered`: what a request makes of the database, `answered_of_exec`;
* `Request.Spares`: the request leaves what another configuration is trained on, with
  `Answered.trainingOf_eq`.
-/

namespace Slas.Bash

open Database

/-! ### What is asked for -/

/-- The configuration a request is about. -/
def Request.target (s : Store) : Request → RowId
  | saveConfiguration _ agentNameId _ _ => configurationIdOf s agentNameId
  | saveSelectedCommands configurationId _ => configurationId
  | selectDefaultCommands _ configurationId => configurationId
  | updateDailyUserStatisticsClassification configurationId _ _ => configurationId
  | removeAnomalyDetectionConfiguration id => id

/-- The commands it selects in the end. -/
def Request.selects (s : Store) : Request → List RowId
  | saveConfiguration order agentNameId beginDate endDate =>
      (Raw.defaultCommands order (withConfiguration s agentNameId beginDate endDate)
        (configurationIdOf s agentNameId)).map (·.commandId)
  | saveSelectedCommands _ commandNamesIds => commandNamesIds
  | selectDefaultCommands order configurationId =>
      (Raw.defaultCommands order s.bash configurationId).map (·.commandId)
  | updateDailyUserStatisticsClassification configurationId _ _ =>
      Raw.markedCommandsIds s.bash configurationId
  | removeAnomalyDetectionConfiguration _ => []

/-- How a statistic is classified in the end. The anomalies come last. -/
def Request.classify : Request → Row DailyUserStatistic → Classification
  | updateDailyUserStatisticsClassification _ normalIds anomalyIds, r =>
      if r.id ∈ anomalyIds then .anomaly else if r.id ∈ normalIds then .normal
      else r.val.classification
  | _, r => r.val.classification

/-! ### What is done -/

/-- What a request that has returned has made of a database. -/
structure Answered (request : Request) (s s' : Store) : Prop where
  unchanged : ∀ r ∈ s'.bash.configurations.rows, r.val.changed = false →
    r ∈ s.bash.configurations.rows ∧ r.id ≠ request.target s
  commands : ∀ v, v ∈ s'.bash.selectedCommands.vals ↔
    (v ∈ s.bash.selectedCommands.vals ∧ v.configurationId ≠ request.target s) ∨
      (v.configurationId = request.target s ∧ v.commandId ∈ request.selects s)
  selections : ∀ k ≠ request.target s, selectionsFor s'.bash k = selectionsFor s.bash k
  statistics : ∀ id, s'.bash.dailyUserStatistics.get? id
    = (s.bash.dailyUserStatistics.get? id).map fun v =>
        { v with classification := request.classify ⟨id, v⟩ }
  counts : s'.bash.dailyUserCommandStatistics = s.bash.dailyUserCommandStatistics

section Answers

variable {order : Raw.SummaryOrder} {s s' : Store} {configurationId : RowId}
  {saved saved' : Option Store}

/-- A statement that has written. -/
lemma of_exec_writeBash {f : Tables → Tables}
    (h : (Raw.writeBash f).exec ⟨s, saved⟩ = (.ok (), ⟨s', saved'⟩)) :
    s' = { s with bash := f s.bash } := by
  rw [Raw.exec_writeBash] at h
  exact (Connection.mk.inj (congrArg Prod.snd h)).1.symm

/-- Nothing is classified anew. -/
lemma get?_of_statistics_eq {classify : Row DailyUserStatistic → Classification}
    (h : s'.bash.dailyUserStatistics = s.bash.dailyUserStatistics)
    (hclassify : ∀ r, classify r = r.val.classification) (id : RowId) :
    s'.bash.dailyUserStatistics.get? id = (s.bash.dailyUserStatistics.get? id).map fun v =>
      { v with classification := classify ⟨id, v⟩ } := by
  rw [h]
  cases s.bash.dailyUserStatistics.get? id with
  | none => rfl
  | some v => rw [Option.map_some, hclassify]

/-- The commands of a configuration are replaced by others. -/
lemma mem_replaceCommands {t : UniqueTable (@id SelectedCommand)} {vs : List SelectedCommand}
    (hvs : ∀ v ∈ vs, v.configurationId = configurationId) {v : SelectedCommand} :
    v ∈ (vs.foldl UniqueTable.insertOrIgnore
        (t.delete fun r => r.val.configurationId ≠ configurationId)).vals ↔
      (v ∈ t.vals ∧ v.configurationId ≠ configurationId) ∨
        (v.configurationId = configurationId ∧ v.commandId ∈ vs.map (·.commandId)) := by
  rw [UniqueTable.mem_vals_foldl_insertOrIgnore]
  refine or_congr ?_ ?_
  · rw [Table.vals, UniqueTable.delete_rows, Table.vals]
    constructor
    · intro hv
      obtain ⟨r, hr, rfl⟩ := List.mem_map.mp hv
      obtain ⟨hr, hne⟩ := List.mem_filter.mp hr
      exact ⟨List.mem_map_of_mem hr, of_decide_eq_true hne⟩
    · rintro ⟨hv, hne⟩
      obtain ⟨r, hr, rfl⟩ := List.mem_map.mp hv
      exact List.mem_map_of_mem (List.mem_filter.mpr ⟨hr, decide_eq_true hne⟩)
  · constructor
    · exact fun hv => ⟨hvs v hv, List.mem_map_of_mem hv⟩
    · rintro ⟨hconfiguration, hcommand⟩
      obtain ⟨w, hw, hcommand⟩ := List.mem_map.mp hcommand
      have hconfiguration := (hvs w hw).trans hconfiguration.symm
      cases v
      cases w
      obtain rfl : _ = _ := hcommand
      obtain rfl : _ = _ := hconfiguration
      exact hw

lemma selectionsFor_eq (t : Tables) (configurationId : RowId) : selectionsFor t configurationId
    = (t.selectedStatistics.rows.filter fun r => r.val.configurationId = configurationId).map
        (·.val) := by
  rw [selectionsFor, Table.vals, List.filter_map]
  rfl

/-- A configuration that is marked as changed is not unchanged. -/
lemma unchanged_setChanged {t : Tables} {r : Row AnomalyDetectionConfiguration}
    (hr : r ∈ (Raw.setChanged configurationId true t).configurations.rows)
    (hchanged : r.val.changed = false) : r ∈ t.configurations.rows ∧ r.id ≠ configurationId := by
  obtain ⟨q, hq, rfl⟩ := List.mem_map.mp hr
  dsimp only at hchanged ⊢
  split_ifs at hchanged with hid
  rw [if_neg hid]
  exact ⟨hq, hid⟩

/-- A configuration that has been saved is not unchanged. -/
lemma unchanged_insertOrReplace {v : AnomalyDetectionConfiguration} (hv : v.changed = true)
    {r : Row AnomalyDetectionConfiguration}
    (hr : r ∈ (s.bash.configurations.insertOrReplace v).rows)
    (hchanged : r.val.changed = false) :
    r ∈ s.bash.configurations.rows ∧ r.id ≠ configurationIdOf s v.agentNameId := by
  rw [configurationIdOf]
  cases hid : s.bash.configurations.idOf? v.agentNameId with
  | none =>
      rw [UniqueTable.insertOrReplace_of_none hid] at hr
      rcases UniqueTable.of_mem_insertOrIgnore hr with hr | hr
      · exact ⟨hr, (Table.lt_nextId hr).ne⟩
      · rw [hr, hv] at hchanged
        cases hchanged
  | some id =>
      rw [UniqueTable.insertOrReplace_of_some hid] at hr
      obtain ⟨q, hq, rfl⟩ := List.mem_map.mp hr
      dsimp only at hchanged ⊢
      split_ifs at hchanged with hagent
      · rw [hv] at hchanged
        cases hchanged
      · rw [if_neg hagent]
        refine ⟨hq, fun hsame => hagent ?_⟩
        obtain ⟨w, hw, heq⟩ := UniqueTable.idOf?_eq_some.mp hid
        rw [Table.row_ext hq hw hsame]
        exact heq

lemma answered_saveConfiguration (order : Raw.SummaryOrder) (s : Store) (agentNameId : RowId)
    (beginDate endDate : Date) :
    Answered (.saveConfiguration order agentNameId beginDate endDate) s
      (savedConfiguration order s agentNameId beginDate endDate) where
  unchanged _ hr hchanged :=
    unchanged_insertOrReplace (v := ⟨agentNameId, _, _, true⟩) rfl hr hchanged
  commands v := mem_replaceCommands fun _ => configurationId_of_mem_defaultCommands
  selections k hk := by
    rw [selectionsFor_eq, selectionsFor_eq]
    refine congrArg (List.map Row.val) (UniqueTable.filter_foldl_insertOrIgnore
      (p := fun v : SelectedStatistic => decide (v.configurationId = k)) fun v hv => ?_)
    obtain ⟨r, -, rfl⟩ := List.mem_map.mp hv
    exact decide_eq_false fun h => hk h.symm
  statistics := get?_of_statistics_eq rfl fun _ => rfl
  counts := rfl

/-- A text of commands goes in as a whole, or is refused. -/
lemma exec_addSelectedCommandsIds_cases (configurationId : RowId) (commandNamesIds : List RowId)
    (s : Store) :
    (∃ t, s.bash.selectedCommands.insertAll (commandNamesIds.map fun id => ⟨configurationId, id⟩)
      = some t ∧
      (Raw.addSelectedCommandsIds configurationId commandNamesIds).exec ⟨s, none⟩
        = (.ok (), ⟨{ s with bash := { s.bash with selectedCommands := t } }, none⟩)) ∨
    (s.bash.selectedCommands.insertAll (commandNamesIds.map fun id => ⟨configurationId, id⟩)
      = none ∧
      ((Raw.addSelectedCommandsIds configurationId commandNamesIds).exec ⟨s, none⟩).1
        = .error .cantExecuteSqlStatementException) := by
  set fs := commandNamesIds.map (Raw.insertSelectedCommand configurationId) with hfs
  have htry : Connection.tryAll fs s = (s.bash.selectedCommands.insertAll
      (commandNamesIds.map fun id => ⟨configurationId, id⟩)).map fun t =>
        { s with bash := { s.bash with selectedCommands := t } } :=
    Raw.tryAll_insertSelectedCommands configurationId commandNamesIds s
  have hstep : (⟨s, none⟩ : Connection Store).step .begin = some ⟨s, some s⟩ := rfl
  rw [Raw.addSelectedCommandsIds, execSql, Prog.exec_lift, Option.map_none, Connection.execute_none,
    hstep]
  dsimp only
  rcases Connection.execute_tryAll fs none (by simp) (c := ⟨s, some s⟩) (by simp)
    with ⟨-, d, hall, hrun⟩ | ⟨hrefused, d, hrun⟩
  · obtain ⟨t, ht, rfl⟩ := Option.map_eq_some_iff.mp (htry.symm.trans hall)
    rw [hrun]
    exact .inl ⟨t, ht, rfl⟩
  · have hnone := hrefused.resolve_left fun h => h rfl
    rw [hrun]
    exact .inr ⟨Option.map_eq_none_iff.mp (htry.symm.trans hnone), rfl⟩

/-- A text of commands that has been executed to its end. -/
lemma exec_addSelectedCommandsIds_ok {commandNamesIds : List RowId}
    (h : (Raw.addSelectedCommandsIds configurationId commandNamesIds).exec ⟨s, saved⟩
      = (.ok (), ⟨s', saved'⟩)) :
    s' = { s with bash := { s.bash with
      selectedCommands := (commandNamesIds.map fun id => ⟨configurationId, id⟩).foldl
        UniqueTable.insertOrIgnore s.bash.selectedCommands } } := by
  cases saved with
  | some d =>
      -- no transaction begins in another one
      rw [Raw.addSelectedCommandsIds, execSql, Prog.exec_lift,
        Connection.execute_begin_of_open (by simp [Connection.Idle])] at h
      exact absurd (congrArg Prod.fst h) (by simp)
  | none =>
      rcases exec_addSelectedCommandsIds_cases configurationId commandNamesIds s with
        ⟨t, ht, hrun⟩ | ⟨-, hrun⟩
      · obtain ⟨rfl, -⟩ := Connection.mk.inj (congrArg Prod.snd (h.symm.trans hrun))
        rw [UniqueTable.eq_foldl_of_insertAll ht]
      · rw [h] at hrun
        exact absurd hrun (by simp)

/-- The default commands, if none was refused. -/
lemma exec_addDefaultCommandsToConfiguration_ok
    (h : (Raw.addDefaultCommandsToConfiguration order configurationId).exec ⟨s, saved⟩
      = (.ok (), ⟨s', saved'⟩)) :
    s' = { s with bash := { s.bash with
      selectedCommands := (Raw.defaultCommands order s.bash configurationId).foldl
        UniqueTable.insertOrIgnore s.bash.selectedCommands } } := by
  have hexec : (Raw.addDefaultCommandsToConfiguration order configurationId).exec ⟨s, saved⟩ = _ :=
    Prog.exec_lift _ _
  rw [Option.map_none, Connection.execute_none, Connection.step] at hexec
  cases ht : s.bash.selectedCommands.insertAll
    (Raw.defaultCommands order s.bash configurationId) with
  | none =>
      simp only [ht, Option.map_none] at hexec
      rw [hexec] at h
      exact absurd (congrArg Prod.fst h) (by simp)
  | some t =>
      simp only [ht, Option.map_some, Connection.execute_nil] at hexec
      rw [hexec] at h
      obtain ⟨rfl, -⟩ := Connection.mk.inj (congrArg Prod.snd h)
      rw [UniqueTable.eq_foldl_of_insertAll ht]

/-- The commands of a configuration are replaced, and it is marked as changed. -/
lemma answered_replaceCommands {request : Request} {vs : List SelectedCommand}
    (hvs : ∀ v ∈ vs, v.configurationId = request.target s)
    (hselects : request.selects s = vs.map (·.commandId))
    (hclassify : ∀ r, request.classify r = r.val.classification) :
    Answered request s { s with bash := Raw.setChanged (request.target s) true { s.bash with
      selectedCommands := vs.foldl UniqueTable.insertOrIgnore
        (s.bash.selectedCommands.delete fun r => r.val.configurationId ≠ request.target s) } } where
  unchanged _ hr hchanged := unchanged_setChanged hr hchanged
  commands v := by
    rw [hselects]
    exact mem_replaceCommands hvs
  selections _ _ := rfl
  statistics := get?_of_statistics_eq rfl hclassify
  counts := rfl

/-- Two lists of statistics are classified one after the other. -/
lemma answered_updateDailyUserStatisticsClassification (s : Store)
    (normalIds anomalyIds : List RowId) :
    Answered (.updateDailyUserStatisticsClassification configurationId normalIds anomalyIds) s
      { s with bash := Raw.setChanged configurationId true { s.bash with
        dailyUserStatistics := (s.bash.dailyUserStatistics.update fun r =>
          if r.id ∈ normalIds then { r.val with classification := .normal } else r.val).update
            fun r => if r.id ∈ anomalyIds then { r.val with classification := .anomaly }
              else r.val } } where
  unchanged _ hr hchanged := unchanged_setChanged hr hchanged
  commands v := by
    show _ ↔ _ ∨ v.configurationId = configurationId ∧
      v.commandId ∈ Raw.markedCommandsIds s.bash configurationId
    rw [mem_markedCommandsIds]
    constructor
    · intro hv
      by_cases hconfiguration : v.configurationId = configurationId
      · exact .inr ⟨hconfiguration, hconfiguration ▸ hv⟩
      · exact .inl ⟨hv, hconfiguration⟩
    · rintro (⟨hv, -⟩ | ⟨rfl, hv⟩)
      · exact hv
      · exact hv
  selections _ _ := rfl
  statistics id := by
    dsimp only [Raw.setChanged]
    rw [Table.get?_update, Table.get?_update]
    cases s.bash.dailyUserStatistics.get? id with
    | none => rfl
    | some v =>
        simp only [Option.map_some, Request.classify]
        split_ifs <;> rfl
  counts := rfl

lemma answered_removeAnomalyDetectionConfiguration (s : Store) :
    Answered (.removeAnomalyDetectionConfiguration configurationId) s
      { s with bash := { s.bash with
        selectedStatistics := s.bash.selectedStatistics.delete
          fun r => r.val.configurationId ≠ configurationId
        selectedCommands := s.bash.selectedCommands.delete
          fun r => r.val.configurationId ≠ configurationId
        configurations := s.bash.configurations.delete fun r => r.id ≠ configurationId } } where
  unchanged r hr _ := by
    obtain ⟨hr, hne⟩ := List.mem_filter.mp hr
    exact ⟨hr, of_decide_eq_true hne⟩
  commands v := by
    have hnone : ∀ w ∈ ([] : List SelectedCommand), w.configurationId = configurationId :=
      fun _ hw => absurd hw List.not_mem_nil
    exact mem_replaceCommands hnone
  selections k hk := by
    rw [selectionsFor_eq, selectionsFor_eq]
    refine congrArg (List.map Row.val) ?_
    dsimp only
    rw [UniqueTable.delete_rows, List.filter_filter]
    refine List.filter_congr fun r _ => ?_
    by_cases hr : r.val.configurationId = k
    · simp only [hr, Request.target] at hk ⊢
      simp [hk]
    · simp [hr]
  statistics := get?_of_statistics_eq rfl fun _ => rfl
  counts := rfl

/-- **What a request does** if it returns. -/
lemma answered_of_exec {request : Request}
    (h : request.program.exec ⟨s, saved⟩ = (.ok (), ⟨s', saved'⟩)) : Answered request s s' := by
  cases request with
  | saveConfiguration order agentNameId beginDate endDate =>
      have hrun := (WebScripts.exec_saveConfiguration order ⟨s, saved⟩ agentNameId beginDate
        endDate).symm.trans h
      obtain ⟨rfl, -⟩ := Connection.mk.inj (congrArg Prod.snd hrun)
      exact answered_saveConfiguration order s agentNameId beginDate endDate
  | saveSelectedCommands configurationId commandNamesIds =>
      rw [Request.program, Scripts.saveSelectedCommands] at h
      split_ifs at h
      · exact absurd (congrArg Prod.fst h) (by simp)
      obtain ⟨_, ⟨s₁, _⟩, hremove, h⟩ := Prog.of_exec_bind h
      obtain ⟨_, ⟨s₂, _⟩, hadd, hmark⟩ := Prog.of_exec_bind h
      obtain rfl := of_exec_writeBash hremove
      obtain rfl := exec_addSelectedCommandsIds_ok hadd
      obtain rfl := of_exec_writeBash hmark
      refine answered_replaceCommands (fun v hv => ?_) ?_ fun _ => rfl
      · obtain ⟨id, -, rfl⟩ := List.mem_map.mp hv
        rfl
      · rw [List.map_map]
        exact (List.map_id _).symm
  | selectDefaultCommands order configurationId =>
      obtain ⟨_, ⟨s₁, _⟩, hremove, h⟩ := Prog.of_exec_bind h
      obtain ⟨_, ⟨s₂, _⟩, hadd, hmark⟩ := Prog.of_exec_bind h
      obtain rfl := of_exec_writeBash hremove
      obtain rfl := exec_addDefaultCommandsToConfiguration_ok hadd
      obtain rfl := of_exec_writeBash hmark
      exact answered_replaceCommands
        (fun v hv => configurationId_of_mem_defaultCommands hv) rfl fun _ => rfl
  | updateDailyUserStatisticsClassification configurationId normalIds anomalyIds =>
      obtain ⟨_, ⟨s₁, _⟩, hnormal, h⟩ := Prog.of_exec_bind h
      obtain ⟨_, ⟨s₂, _⟩, hanomaly, hmark⟩ := Prog.of_exec_bind h
      obtain rfl := of_exec_writeBash hnormal
      obtain rfl := of_exec_writeBash hanomaly
      obtain rfl := of_exec_writeBash hmark
      exact answered_updateDailyUserStatisticsClassification s normalIds anomalyIds
  | removeAnomalyDetectionConfiguration id =>
      obtain ⟨_, ⟨s₁, _⟩, hstatistics, h⟩ := Prog.of_exec_bind h
      obtain ⟨_, ⟨s₂, _⟩, hcommands, hremove⟩ := Prog.of_exec_bind h
      obtain rfl := of_exec_writeBash hstatistics
      obtain rfl := of_exec_writeBash hcommands
      obtain rfl := of_exec_writeBash hremove
      exact answered_removeAnomalyDetectionConfiguration s

end Answers

/-! ### What it leaves -/

/-- The request leaves what a configuration other than its own is trained on: its
statistics stay classified as they are, and every command that the other one
selects or no longer selects is out of the way of their inputs. -/
structure Request.Spares (request : Request) (s : Store) (configurationId : RowId) : Prop where
  classifications : ∀ q ∈ selectedRows s.bash configurationId,
    request.classify q = q.val.classification
  commands : ∀ q ∈ classifiedRows s.bash configurationId, ∀ commandId,
    (commandId ∈ Raw.markedCommandsIds s.bash (request.target s) ↔ commandId ∈ request.selects s) ∨
      OutOfTheWay s.bash configurationId q.id commandId

namespace Answered

variable {request : Request} {s s' : Store} {configurationId : RowId}

lemma markedCommandsIds_eq (h : Answered request s s')
    (hother : configurationId ≠ request.target s) :
    Raw.markedCommandsIds s'.bash configurationId
      = Raw.markedCommandsIds s.bash configurationId := by
  refine pairwise_markedCommandsIds.eq_of_mem_iff pairwise_markedCommandsIds fun id => ?_
  rw [mem_markedCommandsIds, mem_markedCommandsIds, h.commands]
  constructor
  · rintro (⟨hv, -⟩ | ⟨htarget, -⟩)
    · exact hv
    · exact absurd htarget hother
  · exact fun hv => .inl ⟨hv, hother⟩

/-- A command the configuration of the request keeps, or keeps not selecting. -/
lemma length_selectionsOfCommand (h : Answered request s s') {commandId : RowId}
    (hsame : commandId ∈ Raw.markedCommandsIds s.bash (request.target s) ↔
      commandId ∈ request.selects s) :
    (selectionsOfCommand s'.bash commandId).length
      = (selectionsOfCommand s.bash commandId).length := by
  refine ((List.perm_ext_iff_of_nodup (s'.bash.selectedCommands.nodup_vals.filter _)
    (s.bash.selectedCommands.nodup_vals.filter _)).mpr fun v => ?_).length_eq
  rw [List.mem_filter, List.mem_filter, h.commands]
  refine and_congr_left fun hcommand => ?_
  obtain rfl := of_decide_eq_true hcommand
  rw [mem_markedCommandsIds] at hsame
  by_cases htarget : v.configurationId = request.target s
  · rw [← hsame, ← htarget]
    simp
  · simp [htarget]

/-- The statistics of the other configuration. -/
lemma sameStatistics (h : Answered request s s') (hother : configurationId ≠ request.target s)
    (hclassify : ∀ q ∈ selectedRows s.bash configurationId, request.classify q
      = q.val.classification) :
    SameStatistics s.bash s'.bash configurationId := by
  refine ⟨h.selections configurationId hother, fun v hv => ?_⟩
  rw [h.statistics]
  cases hw : s.bash.dailyUserStatistics.get? v.statisticId with
  | none => rfl
  | some w =>
      have hconfiguration := (mem_selectionsFor.mp hv).2
      have hq : (⟨v.statisticId, w⟩ : Row DailyUserStatistic)
          ∈ selectedRows s.bash configurationId :=
        mem_selectedRows.mpr ⟨hw, hconfiguration ▸ hv⟩
      rw [Option.map_some, hclassify _ hq]

/-- **Another configuration** is trained on what it was. -/
lemma trainingOf_eq (h : Answered request s s') (hother : configurationId ≠ request.target s)
    (hlength : (Raw.markedCommandsIds s.bash configurationId).length ≤ numberOfInputs)
    (hspares : request.Spares s configurationId) :
    trainingOf s'.bash configurationId = trainingOf s.bash configurationId := by
  have hmarked := h.markedCommandsIds_eq hother
  refine trainingOf_congr (h.sameStatistics hother hspares.classifications) hmarked fun q hq => ?_
  refine inputFor_congr hmarked hlength (fun id => ?_) fun id => ?_
  · rw [countsOf, h.counts, countsOf]
  · exact (hspares.commands q hq id).imp_left h.length_selectionsOfCommand

end Answered

end Slas.Bash
