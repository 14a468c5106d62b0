import Mathlib
import Slas.Util.RunPartially
import Slas.Database.GeneralDatabaseFunctions
import Slas.Bash.NetworkInput

/-!
Training and judging with the neural networks:
`NetworkTrainer::CreateLearningSetFile` of `network_trainer.cpp` and
`Classificator::Analyze` of `classificator.cpp`, both in
`server/src/bash/analyzer/detail`.

* `NetworkTrainer.createLearningSetFile`, `Classificator.analyze`: the source,
  the network itself a parameter;
* `network_inputs_iff`: the rows the trainer writes and the inputs the
  classificator passes on are what they should be exactly if the state `Fits`.

Both ask for the counts of a statistic with a join over the selected commands of
all configurations.
-/

namespace Slas.Bash

open Database

/-- The rows that are held in memory at once. -/
def maxRowsInMemory : ℕ := 100

/-! ### Configurations -/

/-- `database::type::AnomalyDetectionConfiguration`. -/
structure Configuration where
  id : RowId
  agentNameId : RowId
  beginDate : Date
  endDate : Date
  changed : Bool

/-- `DatabaseFunctions::GetAnomalyDetectionConfigurations`. -/
def getAnomalyDetectionConfigurations : DatabaseM (List Configuration) := do
  let rawConfigs ← Raw.getAnomalyDetectionConfigurations
  rawConfigs.foldlM (fun configs config => do
    let beginDate ← getDateById config.val.beginDateId
    let endDate ← getDateById config.val.endDateId
    pure (configs ++ [⟨config.id, config.val.agentNameId, beginDate, endDate,
      config.val.changed⟩])) []

/-- The dates of a configuration are there. -/
def Dated (s : Store) (r : Row AnomalyDetectionConfiguration) : Prop :=
  (s.dates.get? r.val.beginDateId).isSome ∧ (s.dates.get? r.val.endDateId).isSome

/-- The body of the loop over the configurations. -/
lemma exec_readConfiguration {c : Connection Store} {r : Row AnomalyDetectionConfiguration}
    {beginDate endDate : Date} (hbegin : c.data.dates.get? r.val.beginDateId = some beginDate)
    (hend : c.data.dates.get? r.val.endDateId = some endDate) (configs : List Configuration) :
    (do
      let beginDate ← getDateById r.val.beginDateId
      let endDate ← getDateById r.val.endDateId
      pure (configs ++ [⟨r.id, r.val.agentNameId, beginDate, endDate, r.val.changed⟩])
        : DatabaseM (List Configuration)).exec c
      = (.ok (configs ++ [⟨r.id, r.val.agentNameId, beginDate, endDate, r.val.changed⟩]), c) := by
  rw [Prog.exec_bind_ok (exec_getDateById _ hbegin), Prog.exec_bind_ok (exec_getDateById _ hend),
    Prog.exec_pure]

/-- What a configuration is besides its dates. -/
def Configuration.key (c : Configuration) : RowId × RowId × Bool := (c.id, c.agentNameId, c.changed)

/-- A configuration as it is read from its row. -/
structure Configuration.ReadFrom (s : Store) (r : Row AnomalyDetectionConfiguration)
    (k : Configuration) : Prop where
  key : k.key = (r.id, r.val.agentNameId, r.val.changed)
  beginDate : s.dates.get? r.val.beginDateId = some k.beginDate
  endDate : s.dates.get? r.val.endDateId = some k.endDate

/-- The configurations are handed out if all their dates are there. -/
lemma exec_getAnomalyDetectionConfigurations_read {c : Connection Store}
    (h : ∀ r ∈ c.data.bash.configurations.rows, Dated c.data r) :
    ∃ configurations, getAnomalyDetectionConfigurations.exec c = (.ok configurations, c) ∧
      List.Forall₂ (Configuration.ReadFrom c.data) c.data.bash.configurations.rows
        configurations := by
  obtain ⟨configurations, s, hrun, rfl, hread⟩ := Prog.exec_foldlM c.data.bash.configurations.rows
    (fun (configs : List Configuration) config => do
      let beginDate ← getDateById config.val.beginDateId
      let endDate ← getDateById config.val.endDateId
      pure (configs ++ [⟨config.id, config.val.agentNameId, beginDate, endDate,
        config.val.changed⟩]))
    (fun done configs s => s = c ∧ List.Forall₂ (Configuration.ReadFrom c.data) done configs)
    (by
      rintro done r hearlier configs s ⟨rfl, hread⟩
      have hmem : r ∈ s.data.bash.configurations.rows := hearlier.subset (by simp)
      obtain ⟨beginDate, hbegin⟩ := Option.isSome_iff_exists.mp (h r hmem).1
      obtain ⟨endDate, hend⟩ := Option.isSome_iff_exists.mp (h r hmem).2
      refine ⟨_, s, exec_readConfiguration hbegin hend configs, rfl, ?_⟩
      exact List.rel_append hread (.cons ⟨rfl, hbegin, hend⟩ .nil))
    (b := []) (s := c) ⟨rfl, .nil⟩
  exact ⟨configurations, (Prog.exec_bind_ok (Raw.exec_queryBash s _)).trans hrun, hread⟩

/-- The same, but for the dates. -/
lemma exec_getAnomalyDetectionConfigurations {c : Connection Store}
    (h : ∀ r ∈ c.data.bash.configurations.rows, Dated c.data r) :
    ∃ configurations, getAnomalyDetectionConfigurations.exec c = (.ok configurations, c) ∧
      configurations.map Configuration.key
        = c.data.bash.configurations.rows.map fun r =>
          (r.id, r.val.agentNameId, r.val.changed) := by
  obtain ⟨configurations, hrun, hread⟩ := exec_getAnomalyDetectionConfigurations_read h
  refine ⟨configurations, hrun, ?_⟩
  have hkeys := List.forall₂_map_left_iff.mpr (List.forall₂_map_right_iff.mpr
    (hread.imp fun r k (h : Configuration.ReadFrom c.data r k) => h.key.symm))
  exact (List.forall₂_eq_eq_eq ▸ hkeys : _ = _).symm

/-- One date that is missing, and none is handed out. -/
lemma exec_getAnomalyDetectionConfigurations_error {c : Connection Store}
    (h : ∃ r ∈ c.data.bash.configurations.rows, ¬Dated c.data r) :
    getAnomalyDetectionConfigurations.exec c = (.error .cantExecuteSqlStatementException, c) := by
  refine (Prog.exec_bind_ok (Raw.exec_queryBash c _)).trans ?_
  have hmissing : ∀ r, ¬Dated c.data r → ∀ configs : List Configuration, (do
      let beginDate ← getDateById r.val.beginDateId
      let endDate ← getDateById r.val.endDateId
      pure (configs ++ [⟨r.id, r.val.agentNameId, beginDate, endDate, r.val.changed⟩])
        : DatabaseM (List Configuration)).exec c
        = (.error .cantExecuteSqlStatementException, c) := by
    intro r hr configs
    cases hbegin : c.data.dates.get? r.val.beginDateId with
    | none => exact Prog.exec_bind_error (exec_getDateById_none _ hbegin)
    | some beginDate =>
        cases hend : c.data.dates.get? r.val.endDateId with
        | none =>
            rw [Prog.exec_bind_ok (exec_getDateById _ hbegin)]
            exact Prog.exec_bind_error (exec_getDateById_none _ hend)
        | some endDate => exact absurd ⟨by rw [hbegin]; rfl, by rw [hend]; rfl⟩ hr
  obtain ⟨r, hr, hdated⟩ := h
  refine Prog.exec_foldlM_error (fun r _ configs => ?_) ⟨r, hr, hmissing r hdated⟩ []
  by_cases hdated : Dated c.data r
  · obtain ⟨beginDate, hbegin⟩ := Option.isSome_iff_exists.mp hdated.1
    obtain ⟨endDate, hend⟩ := Option.isSome_iff_exists.mp hdated.2
    exact .inl ⟨_, exec_readConfiguration hbegin hend configs⟩
  · exact .inr (hmissing r hdated configs)

/-! ### The trainer -/

namespace NetworkTrainer

/-- `ANOMALY_NETWORK_VALUE`. -/
def anomalyNetworkValue : ℤ := 0

/-- A row of the training file, with the statistic it is written for. -/
structure LearningRow where
  statisticId : RowId
  input : List (Option ℚ)
  output : List ℤ

/-- The training file. -/
structure LearningSetFile where
  learningSetSize : ℕ
  numberOfInputs : ℕ
  numberOfOutputs : ℕ
  rows : List LearningRow

/-- The body of the loop over the statistics of the user at a position. What is
set in the output stays for the next statistic. -/
def writeStatistic (selectedCommandsIds : List RowId) (userOutputPosition : ℕ)
    (written : List LearningRow × List ℤ) (statistic : Row DailyUserStatistic) :
    DatabaseM (List LearningRow × List ℤ) := do
  let commandsStatistics ← Raw.getSelectedDailyUserCommandsStatistics statistic.id
  let input := networkInput selectedCommandsIds commandsStatistics
  let output := match statistic.val.classification with
    | .anomaly => written.2.set userOutputPosition anomalyNetworkValue
    | .normal => written.2.set userOutputPosition 1
    | .unknown => written.2
  pure (written.1 ++ [⟨statistic.id, input, output⟩], output)

/-- The body of the loop over the users. -/
def writeUser (configurationId : RowId) (selectedCommandsIds : List RowId)
    (written : List LearningRow × List ℤ) (user : RowId × ℕ) :
    DatabaseM (List LearningRow × List ℤ) := do
  let dailyUserStatisticsCount ←
    Raw.countSelectedDailyUserStatisticsWithoutUnknownClassificationByUser configurationId user.1
  let written ← runPartially maxRowsInMemory dailyUserStatisticsCount
    (fun written partCount offset => do
      let dailyUserStatistics ←
        Raw.getSelectedDailyUserStatisticsWithoutUnknownClassificationByUser configurationId user.1
          partCount offset
      dailyUserStatistics.foldlM (writeStatistic selectedCommandsIds user.2) written) written
  pure (written.1, written.2.set user.2 anomalyNetworkValue)

/-- `NetworkTrainer::CreateLearningSetFile`. -/
def createLearningSetFile (configurationId : RowId) : DatabaseM LearningSetFile := do
  let users ← Raw.getUsersIdsFromSelectedDailyStatisticsInConfiguration configurationId
  let learningSetSize ←
    Raw.countSelectedDailyStatisticsWithoutUnknownClassification configurationId
  let output := List.replicate users.length anomalyNetworkValue
  let selectedCommandsIds ← Raw.getMarkedCommandsIds configurationId
  let written ← users.zipIdx.foldlM (writeUser configurationId selectedCommandsIds) ([], output)
  pure ⟨learningSetSize, numberOfInputs, users.length, written.1⟩

/-- `NetworkTrainer::CreateNetworkConfiguration`, as far as it asks the database:
the number of outputs of the network. -/
def createNetworkConfiguration (configurationId : RowId) : DatabaseM ℕ := do
  let users ← Raw.getUsersIdsFromSelectedDailyStatisticsInConfiguration configurationId
  pure users.length

/-- The body of the loop of `NetworkTrainer::Train`. -/
def trainConfiguration (trained : List (RowId × LearningSetFile)) (c : Configuration) :
    DatabaseM (List (RowId × LearningSetFile)) :=
  if c.changed then do
    let file ← createLearningSetFile c.id
    let _ ← createNetworkConfiguration c.id
    Raw.markConfigurationAsUnchanged c.id
    pure (trained ++ [(c.id, file)])
  else pure trained

/-- `NetworkTrainer::Train`, with the files the networks are trained on. -/
def train : DatabaseM (List (RowId × LearningSetFile)) := do
  let configurations ← getAnomalyDetectionConfigurations
  configurations.foldlM trainConfiguration []

end NetworkTrainer

/-! ### The classificator -/

namespace Classificator

/-- An input that was passed to the network of a configuration for a statistic. -/
structure Judged where
  configurationId : RowId
  statisticId : RowId
  input : List (Option ℚ)

/-- `anomaly_threshold`. -/
def anomalyThreshold : ℚ := 1 / 2

/-- The position of the largest output that is not negative, the last one if
there are several, and its value. -/
def maxOutput (calcOut : ℕ → ℚ) (size : ℕ) : ℕ × ℚ :=
  (List.range size).foldl (fun found i => if calcOut i ≥ found.2 then (i, calcOut i) else found)
    (0, 0)

/-- The text of a debug record that names the user at a position. It is made only
if debug records are kept, and then `at` throws if there is no such user. -/
def logUser (debug : Bool) (users : List RowId) (userPosition : ℕ) : DatabaseM Unit :=
  if debug && users[userPosition]?.isNone then throw .outOfRange else pure ()

/-- The body of the loop over the statistics. -/
def judge (debug : Bool) (network : List (Option ℚ) → ℕ → ℚ) (configurationId : RowId)
    (selectedCommandsIds users : List RowId) (judged : List Judged)
    (statistic : Row DailyUserStatistic) : DatabaseM (List Judged) := do
  let commandsStatistics ← Raw.getSelectedDailyUserCommandsStatistics statistic.id
  let input := networkInput selectedCommandsIds commandsStatistics
  let found := maxOutput (network input) users.length
  logUser debug users found.1
  if found.2 ≥ anomalyThreshold ∧ users[found.1]? = some statistic.val.userId then
    Raw.setDailyUserStatisticsClassification [statistic.id] .normal
  else Raw.setDailyUserStatisticsClassification [statistic.id] .anomaly
  pure (judged ++ [⟨configurationId, statistic.id, input⟩])

/-- The body of the loop over the configurations. What is judged is no longer
unknown, so every part is asked for from the start. -/
def analyzeConfiguration (debug : Bool) (networks : RowId → List (Option ℚ) → ℕ → ℚ)
    (judged : List Judged) (c : Configuration) : DatabaseM (List Judged) := do
  let selectedCommandsIds ← Raw.getMarkedCommandsIds c.id
  let users ← Raw.getUsersIdsFromSelectedDailyStatisticsInConfiguration c.id
  let dailyUserStatisticsCount ←
    Raw.countDailyUserStatisticsForAgentWithClassification c.agentNameId .unknown
  runPartially maxRowsInMemory dailyUserStatisticsCount (fun judged partCount _ => do
    let dailyUserStatistics ←
      Raw.getDailyUserStatisticsForAgentWithClassification c.agentNameId .unknown partCount 0
    dailyUserStatistics.foldlM (judge debug (networks c.id) c.id selectedCommandsIds users) judged)
      judged

/-- `Classificator::Analyze`, with what the network of each configuration makes
of an input, and whether debug records are kept. -/
def analyze (debug : Bool) (networks : RowId → List (Option ℚ) → ℕ → ℚ) :
    DatabaseM (List Judged) := do
  let configurations ← getAnomalyDetectionConfigurations
  configurations.foldlM (analyzeConfiguration debug networks) []

end Classificator

/-! ### The inputs of a run -/

section Run

variable {env : ℕ → Option Fault} {t : Tables} {configurationId : RowId}

/-- What the inputs are made from is as it was. -/
def Frozen (t : Tables) (c : Connection Store) : Prop :=
  c.data.bash.selectedCommands = t.selectedCommands ∧
    c.data.bash.dailyUserCommandStatistics = t.dailyUserCommandStatistics

lemma Frozen.markedCommandsIds {c : Connection Store} (h : Frozen t c) (configurationId : RowId) :
    Raw.markedCommandsIds c.data.bash configurationId
      = Raw.markedCommandsIds t configurationId := by
  rw [Raw.markedCommandsIds, h.1, Raw.markedCommandsIds]

lemma Frozen.selectedDailyUserCommandsStatistics {c : Connection Store} (h : Frozen t c)
    (statisticId : RowId) : Raw.selectedDailyUserCommandsStatistics c.data.bash statisticId
      = Raw.selectedDailyUserCommandsStatistics t statisticId := by
  rw [Raw.selectedDailyUserCommandsStatistics, h.1, h.2, Raw.selectedDailyUserCommandsStatistics]

/-- The input the loop makes for a statistic. -/
def inputFor (t : Tables) (configurationId statisticId : RowId) : List (Option ℚ) :=
  networkInput (Raw.markedCommandsIds t configurationId)
    (Raw.selectedDailyUserCommandsStatistics t statisticId)

/-- A `select` that leaves everything as it was. -/
lemma triple_frozen_query {α : Type} {f : Tables → α} {P : α → Prop}
    (h : ∀ c, Frozen t c → P (f c.data.bash)) :
    Prog.Triple env (fun _ c => Frozen t c) (Raw.queryBash f)
      (fun a _ c => P a ∧ Frozen t c) fun _ _ _ => True :=
  triple_query fun _ c hc => ⟨fun _ => ⟨h c hc, hc⟩, fun _ => trivial⟩

lemma triple_frozen_setClassification (ids : List RowId) (classification : Classification) :
    Prog.Triple env (fun _ c => Frozen t c)
      (Raw.setDailyUserStatisticsClassification ids classification) (fun _ _ c => Frozen t c)
      fun _ _ _ => True :=
  triple_write fun _ _ hc => ⟨fun _ => hc, fun _ => trivial⟩

/-- A loop keeps what each round keeps. -/
lemma triple_frozen_foldlM {α β : Type} {f : β → α → DatabaseM β} {G : β → Prop}
    (h : ∀ b x, G b → Prog.Triple env (fun _ c => Frozen t c) (f b x)
      (fun b _ c => G b ∧ Frozen t c) fun _ _ _ => True) (xs : List α) {b : β} (hb : G b) :
    Prog.Triple env (fun _ c => Frozen t c) (xs.foldlM f b) (fun b _ c => G b ∧ Frozen t c)
      fun _ _ _ => True :=
  (Prog.Triple.foldlM (I := fun _ b _ c => G b ∧ Frozen t c)
    (fun x _ b => Prog.Triple.assume fun hb => h b x hb) xs b).weaken
      (fun _ _ hc => ⟨hb, hc⟩) (fun _ _ _ => id) fun _ _ _ => id

/-- The rows written so far. -/
def Written (t : Tables) (configurationId : RowId)
    (written : List NetworkTrainer.LearningRow × List ℤ) : Prop :=
  ∀ row ∈ written.1, row.input = inputFor t configurationId row.statisticId

lemma triple_writeStatistic (position : ℕ) (written : List NetworkTrainer.LearningRow × List ℤ)
    (statistic : Row DailyUserStatistic) (hwritten : Written t configurationId written) :
    Prog.Triple env (fun _ c => Frozen t c)
      (NetworkTrainer.writeStatistic (Raw.markedCommandsIds t configurationId) position written
        statistic) (fun written _ c => Written t configurationId written ∧ Frozen t c)
      fun _ _ _ => True := by
  refine (triple_frozen_query (P := fun xs =>
    xs = Raw.selectedDailyUserCommandsStatistics t statistic.id)
    fun c hc => hc.selectedDailyUserCommandsStatistics statistic.id).bind fun xs => ?_
  refine Prog.Triple.assume fun hxs => Prog.Triple.pure fun n c hc => ⟨fun row hrow => ?_, hc⟩
  rcases List.mem_append.mp hrow with hrow | hrow
  · exact hwritten row hrow
  · rw [List.mem_singleton.mp hrow, hxs]
    rfl

lemma triple_createLearningSetFile :
    Prog.Triple env (fun _ c => Frozen t c) (NetworkTrainer.createLearningSetFile configurationId)
      (fun file _ _ => ∀ row ∈ file.rows, row.input = inputFor t configurationId row.statisticId)
      fun _ _ _ => True := by
  refine (triple_frozen_query (P := fun _ => True) fun _ _ => trivial).bind fun users =>
    Prog.Triple.assume fun _ => (triple_frozen_query (P := fun _ => True) fun _ _ => trivial).bind
      fun size => Prog.Triple.assume fun _ => (triple_frozen_query
        (P := fun ids => ids = Raw.markedCommandsIds t configurationId)
        fun c hc => hc.markedCommandsIds configurationId).bind fun ids =>
          Prog.Triple.assume fun hids => ?_
  subst hids
  refine (triple_frozen_foldlM (G := Written t configurationId) (fun written user hwritten => ?_) _
    fun row hrow => absurd hrow List.not_mem_nil).bind fun written =>
      Prog.Triple.pure fun _ _ hc => hc.1
  refine (triple_frozen_query (P := fun _ => True) fun _ _ => trivial).bind fun count =>
    Prog.Triple.assume fun _ => (triple_frozen_foldlM (G := Written t configurationId)
      (fun written part hwritten => ?_) _ hwritten).bind fun written =>
        Prog.Triple.pure fun _ _ hc => hc
  exact (triple_frozen_query (P := fun _ => True) fun _ _ => trivial).bind fun statistics =>
    Prog.Triple.assume fun _ => triple_frozen_foldlM
      (fun written statistic => triple_writeStatistic user.2 written statistic) statistics hwritten

/-- The inputs passed on so far. -/
def AllJudged (t : Tables) (judged : List Classificator.Judged) : Prop :=
  ∀ j ∈ judged, j.input = inputFor t j.configurationId j.statisticId

lemma triple_judge (debug : Bool) (network : List (Option ℚ) → ℕ → ℚ) (configurationId : RowId)
    (users : List RowId) (judged : List Classificator.Judged) (statistic : Row DailyUserStatistic)
    (hjudged : AllJudged t judged) :
    Prog.Triple env (fun _ c => Frozen t c)
      (Classificator.judge debug network configurationId
      (Raw.markedCommandsIds t configurationId) users
        judged statistic) (fun judged _ c => AllJudged t judged ∧ Frozen t c)
      fun _ _ _ => True := by
  refine (triple_frozen_query (P := fun xs =>
    xs = Raw.selectedDailyUserCommandsStatistics t statistic.id)
    fun c hc => hc.selectedDailyUserCommandsStatistics statistic.id).bind fun xs =>
      Prog.Triple.assume fun hxs => ?_
  have hnew : AllJudged t (judged ++ [⟨configurationId, statistic.id,
      networkInput (Raw.markedCommandsIds t configurationId) xs⟩]) := by
    intro j hj
    rcases List.mem_append.mp hj with hj | hj
    · exact hjudged j hj
    · rw [List.mem_singleton.mp hj, hxs]
      rfl
  have hlog : ∀ position, Prog.Triple env (fun _ c => Frozen t c)
      (Classificator.logUser debug users position) (fun _ _ c => Frozen t c) fun _ _ _ => True := by
    intro position
    rw [Classificator.logUser]
    split_ifs
    · exact fun _ _ _ => trivial
    · exact Prog.Triple.pure fun _ _ => id
  refine (hlog _).bind fun _ => ?_
  split_ifs
  · exact (triple_frozen_setClassification _ _).bind fun _ => Prog.Triple.pure fun _ _ hc =>
      ⟨hnew, hc⟩
  · exact (triple_frozen_setClassification _ _).bind fun _ => Prog.Triple.pure fun _ _ hc =>
      ⟨hnew, hc⟩

lemma triple_getAnomalyDetectionConfigurations :
    Prog.Triple env (fun _ c => Frozen t c) getAnomalyDetectionConfigurations
      (fun _ _ c => Frozen t c) fun _ _ _ => True := by
  have hdate : ∀ id, Prog.Triple env (fun _ c => Frozen t c) (getDateById id)
      (fun _ _ c => Frozen t c) fun _ _ _ => True := by
    intro id
    refine (triple_query (Q := fun _ _ c => Frozen t c) fun _ _ hc =>
      ⟨fun _ => hc, fun _ => trivial⟩).bind fun d => ?_
    cases d with
    | none => exact fun _ _ _ => trivial
    | some d => exact Prog.Triple.pure fun _ _ hc => hc
  refine (triple_frozen_query (P := fun _ => True) fun _ _ => trivial).bind fun rawConfigs =>
    Prog.Triple.assume fun _ => (triple_frozen_foldlM (G := fun _ => True)
      (fun configs config _ => ?_) rawConfigs trivial).weaken (fun _ _ hc => hc)
        (fun _ _ _ hc => hc.2) fun _ _ _ => id
  exact (hdate _).bind fun _ => (hdate _).bind fun _ => Prog.Triple.pure fun _ _ hc => ⟨trivial, hc⟩

lemma triple_analyze (debug : Bool) (networks : RowId → List (Option ℚ) → ℕ → ℚ) :
    Prog.Triple env (fun _ c => Frozen t c) (Classificator.analyze debug networks)
      (fun judged _ _ => AllJudged t judged) fun _ _ _ => True := by
  refine triple_getAnomalyDetectionConfigurations.bind fun configurations =>
    (triple_frozen_foldlM (G := AllJudged t) (fun judged c hjudged => ?_) configurations
      fun j hj => absurd hj List.not_mem_nil).weaken (fun _ _ => id) (fun _ _ _ hc => hc.1)
        fun _ _ _ => id
  refine (triple_frozen_query (P := fun ids => ids = Raw.markedCommandsIds t c.id)
    fun _ hc => hc.markedCommandsIds c.id).bind fun ids => Prog.Triple.assume fun hids => ?_
  subst hids
  refine (triple_frozen_query (P := fun _ => True) fun _ _ => trivial).bind fun users =>
    Prog.Triple.assume fun _ => (triple_frozen_query (P := fun _ => True) fun _ _ => trivial).bind
      fun count => Prog.Triple.assume fun _ => triple_frozen_foldlM
        (fun judged part hjudged => ?_) _ hjudged
  exact (triple_frozen_query (P := fun _ => True) fun _ _ => trivial).bind fun statistics =>
    Prog.Triple.assume fun _ => triple_frozen_foldlM
      (fun judged statistic => triple_judge debug (networks c.id) c.id users judged statistic)
        statistics
        hjudged

end Run

/-- The rows the trainer writes for a configuration and the inputs the
classificator passes on for it are right exactly for the statistics with `P`. This speaks of
runs that return only, whatever has failed in them. -/
structure InputsRightFor (s : Store) (configurationId : RowId) (P : RowId → Prop) : Prop where
  trained : ∀ env file n c, (NetworkTrainer.createLearningSetFile configurationId).run env 0
    ⟨s, none⟩ = (.ok file, n, c) → ∀ row ∈ file.rows,
      (row.input = expectedInput s.bash configurationId row.statisticId ↔ P row.statisticId)
  judged : ∀ debug networks env judged n c,
    (Classificator.analyze debug networks).run env 0 ⟨s, none⟩
    = (.ok judged, n, c) → ∀ j ∈ judged, j.configurationId = configurationId →
      (j.input = expectedInput s.bash configurationId j.statisticId ↔ P j.statisticId)

/-- **The input vectors of training and judging.** Both are what they should be
exactly for the statistics the state fits. -/
theorem network_inputs_iff (s : Store) {configurationId : RowId}
    (hlength : (Raw.markedCommandsIds s.bash configurationId).length ≤ numberOfInputs) :
    InputsRightFor s configurationId (Fits s.bash configurationId) where
  trained env file n c hrun row hrow := by
    have hinput : row.input = inputFor s.bash configurationId row.statisticId :=
      triple_createLearningSetFile.of_ok ⟨rfl, rfl⟩ hrun row hrow
    rw [hinput]
    exact networkInput_iff hlength
  judged debug networks env judged n c hrun j hj hconfiguration := by
    have hinput : j.input = inputFor s.bash j.configurationId j.statisticId :=
      (triple_analyze debug networks).of_ok ⟨rfl, rfl⟩ hrun j hj
    rw [hinput, hconfiguration]
    exact networkInput_iff hlength

/-! ### Two configurations that select one command -/

/-- The first configuration selects two commands, the second one of them. A
statistic has both, another one the first. -/
def twoConfigurations : Store :=
  { Store.empty with
    dates := UniqueTable.empty.insertOrIgnore ⟨1, 1, 2016, Date.checkDate_newYear, Date.fits_2016⟩
    bash := { Tables.empty with
      selectedCommands := [⟨1, 1⟩, ⟨1, 2⟩, ⟨2, 1⟩].foldl UniqueTable.insertOrIgnore .empty
      dailyUserStatistics := [⟨1, 1, 1, .normal⟩, ⟨1, 1, 2, .normal⟩].foldl Table.insert .empty
      dailyUserCommandStatistics :=
        [⟨1, 1, 1⟩, ⟨1, 2, 1⟩, ⟨2, 1, 1⟩].foldl Table.insert .empty
      selectedStatistics := [⟨1, 1⟩, ⟨1, 2⟩].foldl UniqueTable.insertOrIgnore .empty
      configurations :=
        [⟨1, 1, 1, true⟩, ⟨2, 1, 1, true⟩].foldl UniqueTable.insertOrIgnore .empty } }

lemma length_markedCommandsIds_twoConfigurations :
    (Raw.markedCommandsIds twoConfigurations.bash 1).length ≤ numberOfInputs := by
  rw [Raw.markedCommandsIds, (Select.orderBy_perm _ _).length_eq]
  decide

/-- The second command is out of reach. -/
lemma not_fits_twoConfigurations : ¬Fits twoConfigurations.bash 1 1 := by
  intro h
  have := h 2 (mem_markedCommandsIds.mpr (by decide)) (by decide) ⟨1, 1, 1, 1⟩ (by decide) rfl
    (by decide)
  exact absurd this (by decide)

/-- The statistic with the first command only fits. -/
theorem network_inputs_two_configurations :
    Fits twoConfigurations.bash 1 2 ∧
      InputsRightFor twoConfigurations 1 (Fits twoConfigurations.bash 1) := by
  refine ⟨fun id hid hne r hr hstatistic hlt => ?_,
    network_inputs_iff twoConfigurations length_markedCommandsIds_twoConfigurations⟩
  have hselected : (⟨1, id⟩ : SelectedCommand) ∈ [⟨1, 1⟩, ⟨1, 2⟩, ⟨2, 1⟩] :=
    mem_markedCommandsIds.mp hid
  have hcounts : r ∈ [(⟨1, 1, 1, 1⟩ : Row DailyUserCommandStatistic), ⟨2, 1, 2, 1⟩, ⟨3, 2, 1, 1⟩] :=
    hr
  -- no command lies below the first, and the second does not count
  rcases List.mem_cons.mp hselected with h | hselected
  · cases h
    simp at hcounts
    rcases hcounts with rfl | rfl | rfl <;> simp at hlt hstatistic
  · have hid : id = 2 := by simpa using hselected
    subst hid
    exact absurd (by decide) hne

/-- The row that is written for the other one is wrong. -/
theorem not_network_inputs_two_configurations :
    ¬∀ s configurationId, (Raw.markedCommandsIds s.bash configurationId).length ≤ numberOfInputs →
      InputsRightFor s configurationId fun _ => True := by
  intro h
  obtain ⟨n, hrun⟩ := Prog.run_of_exec (show (NetworkTrainer.createLearningSetFile 1).exec
    ⟨twoConfigurations, none⟩ = (.ok ⟨2, 100, 1, [⟨1, inputFor twoConfigurations.bash 1 1, [1]⟩,
      ⟨2, inputFor twoConfigurations.bash 1 2, [1]⟩]⟩, ⟨twoConfigurations, none⟩) from rfl) 0
  have hright := ((h twoConfigurations 1 length_markedCommandsIds_twoConfigurations).trained
    _ _ n _ hrun _ List.mem_cons_self).mpr trivial
  exact not_fits_twoConfigurations
    ((networkInput_iff length_markedCommandsIds_twoConfigurations).mp hright)

end Slas.Bash
