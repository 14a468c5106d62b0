import Mathlib
import Slas.Bash.LearningSetFile

/-!
The classification of the daily user statistics, `Classificator::Analyze` of
`server/src/bash/analyzer/detail/classificator/classificator.cpp`.

* `Classified`: every statistic that was unknown, of every agent with a
  configuration, has been judged once and by its greatest output, and nothing else
  has changed;
* `Judgeable`: the dates of the configurations are there, and no debug record asks
  for a user of a configuration without users;
* `classified_iff`: the pass ends and has classified exactly if the state is
  judgeable.
-/

namespace Slas.Bash

open Database Classificator

/-! ### What the pass should do -/

/-- The greatest output, the last one among equals, is at least one half and
belongs to the user. -/
def IsNormal (calcOut : ℕ → ℚ) (users : List RowId) (user : RowId) : Prop :=
  ∃ i < users.length, (∀ j < users.length, calcOut j ≤ calcOut i) ∧
    (∀ j < users.length, i < j → calcOut j < calcOut i) ∧ anomalyThreshold ≤ calcOut i ∧
      users[i]? = some user

instance (calcOut : ℕ → ℚ) (users : List RowId) (user : RowId) :
    Decidable (IsNormal calcOut users user) := by
  unfold IsNormal
  infer_instance

/-- What the network of a configuration says of a statistic. -/
def verdict (networks : RowId → List (Option ℚ) → ℕ → ℚ) (t : Tables) (configurationId : RowId)
    (r : Row DailyUserStatistic) : Classification :=
  if IsNormal (networks configurationId (inputFor t configurationId r.id))
    (learningUsers t configurationId) r.val.userId then .normal else .anomaly

/-- A statistic after the pass. -/
def judgedStatistic (networks : RowId → List (Option ℚ) → ℕ → ℚ) (t : Tables)
    (r : Row DailyUserStatistic) : DailyUserStatistic :=
  match r.val.classification, t.configurations.idOf? r.val.agentNameId with
  | .unknown, some configurationId =>
      { r.val with classification := verdict networks t configurationId r }
  | _, _ => r.val

/-- The unknown statistics of an agent. -/
def unknownRows (t : Tables) (agentNameId : RowId) : List (Row DailyUserStatistic) :=
  t.dailyUserStatistics.rows.filter fun r =>
    r.val.agentNameId = agentNameId ∧ r.val.classification = .unknown

/-- Other daily user statistics. -/
def withStatistics (s : Store) (dailyUserStatistics : Table DailyUserStatistic) : Store :=
  { s with bash := { s.bash with dailyUserStatistics } }

/-- What the pass makes of a database: every unknown statistic of an agent with a
configuration is judged once, and no other statistic and no other table has
changed. -/
structure Classified (networks : RowId → List (Option ℚ) → ℕ → ℚ) (s : Store) (judged : List Judged)
    (s' : Store) : Prop where
  once : (judged.map (·.statisticId)).Nodup
  all : ∀ id, id ∈ judged.map (·.statisticId) ↔ ∃ r ∈ s.bash.dailyUserStatistics.rows, r.id = id ∧
    r.val.classification = .unknown ∧ (s.bash.configurations.idOf? r.val.agentNameId).isSome
  statistics : s' = withStatistics s
    (s.bash.dailyUserStatistics.update (judgedStatistic networks s.bash))

/-- The pass ends without an exception and has classified. -/
def Completes (debug : Bool) (networks : RowId → List (Option ℚ) → ℕ → ℚ) (c : Connection Store) :
    Prop :=
  ∃ judged s', (Classificator.analyze debug networks).exec c = (.ok judged, { c with data := s' }) ∧
    Classified networks c.data judged s'

/-- Every configuration has its two dates, and if debug records are kept, one
whose agent has an unknown statistic has a user. -/
structure Judgeable (debug : Bool) (s : Store) : Prop where
  dates : ∀ r ∈ s.bash.configurations.rows, Dated s r
  users : debug = true → ∀ r ∈ s.bash.configurations.rows,
    unknownRows s.bash r.val.agentNameId ≠ [] →
      Raw.selectedStatisticsOf s.bash r.id ≠ []

/-! ### The greatest output -/

/-- What the loop over the first outputs has found. -/
structure Found (calcOut : ℕ → ℚ) (size : ℕ) (found : ℕ × ℚ) : Prop where
  ge : ∀ j < size, calcOut j ≤ found.2
  nonneg : 0 ≤ found.2
  position : (found.1 = 0 ∧ found.2 = 0 ∧ ∀ j < size, calcOut j < 0) ∨
    (found.1 < size ∧ calcOut found.1 = found.2 ∧ ∀ j < size, found.1 < j → calcOut j < found.2)

lemma found_maxOutput (calcOut : ℕ → ℚ) (size : ℕ) :
    Found calcOut size (maxOutput calcOut size) := by
  induction size with
  | zero => exact ⟨by simp, le_rfl, .inl ⟨rfl, rfl, by simp⟩⟩
  | succ size ih =>
      have hstep : maxOutput calcOut (size + 1) = if calcOut size ≥ (maxOutput calcOut size).2 then
          (size, calcOut size) else maxOutput calcOut size := by
        rw [maxOutput, List.range_succ, List.foldl_append]
        rfl
      rw [hstep]
      split_ifs with hge
      · refine ⟨fun j hj => ?_, ih.nonneg.trans hge,
          .inr ⟨Nat.lt_succ_self _, rfl, fun j hj hlt => ?_⟩⟩
        · rcases Nat.lt_succ_iff_lt_or_eq.mp hj with hj | rfl
          · exact (ih.ge j hj).trans hge
          · exact le_rfl
        · have hlt : size < j := hlt
          omega
      · rw [ge_iff_le, not_le] at hge
        refine ⟨fun j hj => ?_, ih.nonneg, ?_⟩
        · rcases Nat.lt_succ_iff_lt_or_eq.mp hj with hj | rfl
          · exact ih.ge j hj
          · exact hge.le
        · rcases ih.position with ⟨hzero, hvalue, hneg⟩ | ⟨hlt, hvalue, hlast⟩
          · refine .inl ⟨hzero, hvalue, fun j hj => ?_⟩
            rcases Nat.lt_succ_iff_lt_or_eq.mp hj with hj | rfl
            · exact hneg j hj
            · rwa [hvalue] at hge
          · refine .inr ⟨hlt.trans (Nat.lt_succ_self _), hvalue, fun j hj hfound => ?_⟩
            rcases Nat.lt_succ_iff_lt_or_eq.mp hj with hj | rfl
            · exact hlast j hj hfound
            · exact hge

/-- The test of the loop is the one that is asked for. -/
lemma found_iff_isNormal {calcOut : ℕ → ℚ} {users : List RowId} {user : RowId} :
    (maxOutput calcOut users.length).2 ≥ anomalyThreshold ∧
        users[(maxOutput calcOut users.length).1]? = some user ↔ IsNormal calcOut users user := by
  have hfound := found_maxOutput calcOut users.length
  set found := maxOutput calcOut users.length
  have hpos : (0 : ℚ) < anomalyThreshold := by norm_num [anomalyThreshold]
  constructor
  · rintro ⟨hthreshold, huser⟩
    rcases hfound.position with ⟨-, hvalue, -⟩ | ⟨hlt, hvalue, hlast⟩
    · rw [hvalue] at hthreshold
      exact absurd hthreshold (not_le.mpr hpos)
    · refine ⟨found.1, hlt, fun j hj => ?_, fun j hj hfj => ?_, hvalue.symm ▸ hthreshold, huser⟩
      · rw [hvalue]
        exact hfound.ge j hj
      · rw [hvalue]
        exact hlast j hj hfj
  · rintro ⟨i, hi, hmax, hlast, hthreshold, huser⟩
    have hge : anomalyThreshold ≤ found.2 := hthreshold.trans (hfound.ge i hi)
    rcases hfound.position with ⟨-, hvalue, -⟩ | ⟨hlt, hvalue, hlastFound⟩
    · rw [hvalue] at hge
      exact absurd hge (not_le.mpr hpos)
    · have heq : found.1 = i := by
        rcases lt_trichotomy found.1 i with hlt' | heq | hlt'
        · exact absurd (hmax found.1 hlt) (not_le.mpr (hvalue ▸ hlastFound i hi hlt'))
        · exact heq
        · exact absurd (hfound.ge i hi) (not_le.mpr (hvalue ▸ hlast found.1 hlt hlt'))
      rw [heq]
      exact ⟨hge, huser⟩

/-- The position is that of a user unless there is none. -/
lemma getElem?_maxOutput_isNone {calcOut : ℕ → ℚ} {users : List RowId} :
    users[(maxOutput calcOut users.length).1]?.isNone = true ↔ users = [] := by
  rw [Option.isNone_iff_eq_none, List.getElem?_eq_none_iff]
  constructor
  · intro hle
    rcases (found_maxOutput calcOut users.length).position with ⟨hzero, -⟩ | ⟨hlt, -⟩
    · exact List.length_eq_zero_iff.mp (Nat.le_zero.mp (hzero ▸ hle))
    · omega
  · rintro rfl
    exact Nat.zero_le _

/-! ### What does not change while statistics are judged -/

section Judged

variable {networks : RowId → List (Option ℚ) → ℕ → ℚ} {s : Store} {judgedIds : List RowId}

/-- The state in which some statistics have been judged. -/
def judgedStore (networks : RowId → List (Option ℚ) → ℕ → ℚ) (s : Store) (judgedIds : List RowId) :
    Store :=
  withStatistics s (s.bash.dailyUserStatistics.update fun r =>
    if r.id ∈ judgedIds then judgedStatistic networks s.bash r else r.val)

lemma judgedStore_nil (networks : RowId → List (Option ℚ) → ℕ → ℚ) (s : Store) :
    judgedStore networks s [] = s :=
  congrArg (withStatistics s) (Table.ext_rows (by simp))

lemma judgedStatistic_of_unknown (networks : RowId → List (Option ℚ) → ℕ → ℚ)
    {r : Row DailyUserStatistic} {configurationId : RowId}
    (hunknown : r.val.classification = .unknown)
    (hconfiguration : s.bash.configurations.idOf? r.val.agentNameId = some configurationId) :
    judgedStatistic networks s.bash r
      = { r.val with classification := verdict networks s.bash configurationId r } := by
  rw [judgedStatistic, hunknown, hconfiguration]

lemma judgedStatistic_eq (networks : RowId → List (Option ℚ) → ℕ → ℚ) (t : Tables)
    (r : Row DailyUserStatistic) :
    ∃ classification, judgedStatistic networks t r = { r.val with classification } := by
  rw [judgedStatistic]
  split
  · exact ⟨_, rfl⟩
  · exact ⟨r.val.classification, rfl⟩

/-- A verdict is never unknown. -/
lemma verdict_ne_unknown (networks : RowId → List (Option ℚ) → ℕ → ℚ) (t : Tables)
    (configurationId : RowId) (r : Row DailyUserStatistic) :
    verdict networks t configurationId r ≠ .unknown := by
  rw [verdict]
  split_ifs <;> exact Classification.noConfusion

/-- The users stay the same. -/
lemma learningUsers_judgedStore (configurationId : RowId) :
    learningUsers (judgedStore networks s judgedIds).bash configurationId
      = learningUsers s.bash configurationId := by
  have hpartners : ∀ r : Row DailyUserStatistic,
      (if r.id ∈ judgedIds then judgedStatistic networks s.bash r else r.val).userId
        = r.val.userId := by
    intro r
    obtain ⟨classification, heq⟩ := judgedStatistic_eq networks s.bash r
    split_ifs
    · rw [heq]
    · rfl
  rw [learningUsers, learningUsers, Raw.selectedStatisticsOf, Raw.selectedStatisticsOf, judgedStore,
    withStatistics]
  dsimp only [Table.update_rows]
  have hid : ∀ (v : SelectedStatistic) (r : Row DailyUserStatistic),
      decide (v.statisticId = (⟨r.id, if r.id ∈ judgedIds then judgedStatistic networks s.bash r
        else r.val⟩ : Row DailyUserStatistic).id) = decide (v.statisticId = r.id) := fun _ _ => rfl
  rw [Select.leftJoin_map_right hid, List.filter_map, List.map_map]
  congr 1
  refine List.map_congr_left fun q _ => ?_
  rcases q with ⟨v, _ | r⟩
  · rfl
  · exact hpartners r

/-- What is unknown afterwards was so before and has not been judged. -/
lemma unknownRows_judgedStore {agentNameId : RowId}
    (hagent : (s.bash.configurations.idOf? agentNameId).isSome) :
    unknownRows (judgedStore networks s judgedIds).bash agentNameId
      = (unknownRows s.bash agentNameId).filter fun r => r.id ∉ judgedIds := by
  obtain ⟨configurationId, hconfiguration⟩ := Option.isSome_iff_exists.mp hagent
  rw [unknownRows, unknownRows, judgedStore, withStatistics, List.filter_filter]
  dsimp only [Table.update_rows]
  generalize s.bash.dailyUserStatistics.rows = rows
  induction rows with
  | nil => rfl
  | cons r rows ih =>
      rw [List.map_cons, List.filter_cons, List.filter_cons, ih]
      obtain ⟨classification, heq⟩ := judgedStatistic_eq networks s.bash r
      by_cases hmem : r.id ∈ judgedIds
      · have hout : ¬((judgedStatistic networks s.bash r).agentNameId = agentNameId ∧
            (judgedStatistic networks s.bash r).classification = .unknown) := by
          rintro ⟨hsame, hunknown⟩
          rw [heq] at hsame
          by_cases hr : r.val.classification = .unknown
          · rw [judgedStatistic_of_unknown networks hr (hsame.symm ▸ hconfiguration)] at hunknown
            exact verdict_ne_unknown _ _ _ _ hunknown
          · have hkept : judgedStatistic networks s.bash r = r.val := by
              rw [judgedStatistic]
              split
              · exact absurd ‹_› hr
              · rfl
            exact hr (hkept ▸ hunknown)
        simp [hmem, hout]
      · simp [hmem]

/-- One more statistic. -/
lemma judgedStore_append {r : Row DailyUserStatistic} (hr : r ∈ s.bash.dailyUserStatistics.rows)
    (hnew : r.id ∉ judgedIds) {classification : Classification}
    (hverdict : judgedStatistic networks s.bash r = { r.val with classification }) :
    withStatistics s ((judgedStore networks s judgedIds).bash.dailyUserStatistics.update
      fun q => if q.id ∈ [r.id] then { q.val with classification } else q.val)
      = judgedStore networks s (judgedIds ++ [r.id]) := by
  refine congrArg (withStatistics s) (Table.ext_rows ?_)
  simp only [judgedStore, withStatistics, Table.update_rows, List.map_map]
  refine List.map_congr_left fun q hq => ?_
  by_cases hid : q.id = r.id
  · obtain rfl : q = r := Table.row_ext hq hr hid
    simp [hnew, hverdict]
  · simp [hid]

end Judged

/-! ### The pass -/

section Pass

variable {debug : Bool} {networks : RowId → List (Option ℚ) → ℕ → ℚ} {s : Store}
  {saved : Option Store} {judgedIds : List RowId}

/-- The state of a run in which some statistics have been judged. -/
abbrev judgedConnection (networks : RowId → List (Option ℚ) → ℕ → ℚ) (s : Store)
    (saved : Option Store) (judgedIds : List RowId) : Connection Store :=
  ⟨judgedStore networks s judgedIds, saved⟩

/-- What is written down of a statistic. -/
def judgedOf (t : Tables) (configurationId : RowId) (r : Row DailyUserStatistic) : Judged :=
  ⟨configurationId, r.id, inputFor t configurationId r.id⟩

/-- **One statistic.** -/
lemma exec_judge {configurationId : RowId} {r : Row DailyUserStatistic}
    (hr : r ∈ s.bash.dailyUserStatistics.rows) (hnew : r.id ∉ judgedIds)
    (hunknown : r.val.classification = .unknown)
    (hconfiguration : s.bash.configurations.idOf? r.val.agentNameId = some configurationId)
    (husers : debug = true → learningUsers s.bash configurationId ≠ []) (judged : List Judged) :
    (judge debug (networks configurationId) configurationId
        (Raw.markedCommandsIds s.bash configurationId) (learningUsers s.bash configurationId) judged
          r).exec (judgedConnection networks s saved judgedIds)
      = (.ok (judged ++ [judgedOf s.bash configurationId r]),
          judgedConnection networks s saved (judgedIds ++ [r.id])) := by
  have hlog : ∀ found, (logUser debug (learningUsers s.bash configurationId)
      (maxOutput found (learningUsers s.bash configurationId).length).1).exec
        (judgedConnection networks s saved judgedIds)
      = (.ok (), judgedConnection networks s saved judgedIds) := by
    intro found
    rw [logUser, if_neg ?_]
    · rfl
    · rw [Bool.and_eq_true, getElem?_maxOutput_isNone]
      exact fun h => husers h.1 h.2
  have hset : ∀ classification, verdict networks s.bash configurationId r = classification →
      (Raw.setDailyUserStatisticsClassification [r.id] classification).exec
        (judgedConnection networks s saved judgedIds)
      = (.ok (), judgedConnection networks s saved (judgedIds ++ [r.id])) := by
    rintro _ rfl
    have happend := judgedStore_append hr hnew
      (judgedStatistic_of_unknown networks hunknown hconfiguration)
    rw [Raw.setDailyUserStatisticsClassification, Raw.exec_writeBash]
    exact congrArg (fun s => (Except.ok (), (⟨s, saved⟩ : Connection Store))) happend
  refine (Prog.exec_bind_ok (Raw.exec_queryBash _ _)).trans ?_
  refine (Prog.exec_bind_ok (hlog _)).trans ?_
  split_ifs with hnormal
  · exact (Prog.exec_bind_ok (hset _ (if_pos (found_iff_isNormal.mp hnormal)))).trans rfl
  · exact (Prog.exec_bind_ok
      (hset _ (if_neg fun h => hnormal (found_iff_isNormal.mpr h)))).trans rfl

/-- A statistic of which a debug record cannot be made. -/
lemma exec_judge_error {configurationId : RowId} {users : List RowId} (hdebug : debug = true)
    (husers : users = []) (network : List (Option ℚ) → ℕ → ℚ) (ids : List RowId)
    (judged : List Judged)
    (r : Row DailyUserStatistic) (c : Connection Store) :
    (judge debug network configurationId ids users judged r).exec c = (.error .outOfRange, c) := by
  refine (Prog.exec_bind_ok (Raw.exec_queryBash _ _)).trans (Prog.exec_bind_error ?_)
  rw [logUser, if_pos, Prog.exec_throw]
  rw [Bool.and_eq_true, getElem?_maxOutput_isNone]
  exact ⟨hdebug, husers⟩

/-- Statistics of one agent. -/
lemma exec_judgeAll {configurationId : RowId} (rs : List (Row DailyUserStatistic))
    (hrs : ∀ r ∈ rs, r ∈ s.bash.dailyUserStatistics.rows ∧ r.val.classification = .unknown ∧
      s.bash.configurations.idOf? r.val.agentNameId = some configurationId)
    (hnodup : (judgedIds ++ rs.map (·.id)).Nodup)
    (husers : debug = true → rs ≠ [] → learningUsers s.bash configurationId ≠ [])
    (judged : List Judged) :
    (rs.foldlM (judge debug (networks configurationId) configurationId
        (Raw.markedCommandsIds s.bash configurationId) (learningUsers s.bash configurationId))
          judged).exec
          (judgedConnection networks s saved judgedIds)
      = (.ok (judged ++ rs.map (judgedOf s.bash configurationId)),
          judgedConnection networks s saved (judgedIds ++ rs.map (·.id))) := by
  induction rs generalizing judgedIds judged with
  | nil => simp
  | cons r rs ih =>
      rw [List.forall_mem_cons] at hrs
      have hnew : r.id ∉ judgedIds := fun h =>
        (List.nodup_append.mp hnodup).2.2 _ h _ List.mem_cons_self rfl
      have hrest : ((judgedIds ++ [r.id]) ++ rs.map (·.id)).Nodup := by
        rwa [List.append_assoc, List.singleton_append]
      have husers : debug = true → learningUsers s.bash configurationId ≠ [] := fun hdebug =>
        husers hdebug (List.cons_ne_nil _ _)
      rw [List.foldlM_cons,
        Prog.exec_bind_ok (exec_judge hrs.1.1 hnew hrs.1.2.1 hrs.1.2.2 husers judged),
        ih hrs.2 hrest fun hdebug _ => husers hdebug]
      simp

/-- The statistics a configuration has to judge. -/
def unknownIds (t : Tables) (c : Configuration) : List RowId :=
  (unknownRows t c.agentNameId).map (·.id)

lemma nodup_unknownIds (t : Tables) (c : Configuration) : (unknownIds t c).Nodup :=
  (List.filter_sublist.map _).nodup t.dailyUserStatistics.nodup_ids

lemma length_unknownRows (t : Tables) (agentNameId : RowId) :
    t.dailyUserStatistics.vals.countP (fun v =>
      v.agentNameId = agentNameId ∧ v.classification = .unknown)
      = (unknownRows t agentNameId).length := by
  rw [unknownRows, Table.vals, List.countP_map, List.countP_eq_length_filter]
  rfl

/-- The statistics of an agent that are left when some of them have been judged. -/
lemma unknownRows_after (networks : RowId → List (Option ℚ) → ℕ → ℚ) {c : Configuration}
    {taken rest : List (Row DailyUserStatistic)}
    (hconfiguration : s.bash.configurations.idOf? c.agentNameId = some c.id)
    (htaken : taken ++ rest = unknownRows s.bash c.agentNameId)
    (hnodup : (judgedIds ++ unknownIds s.bash c).Nodup) :
    unknownRows (judgedStore networks s (judgedIds ++ taken.map (·.id))).bash c.agentNameId
      = rest := by
  rw [unknownIds, ← htaken, List.map_append, List.nodup_append] at hnodup
  obtain ⟨-, hparts, hdisjoint⟩ := hnodup
  rw [unknownRows_judgedStore (by rw [hconfiguration]; rfl), ← htaken, List.filter_append,
    List.filter_eq_nil_iff.mpr fun r hr => ?_, List.nil_append,
      List.filter_eq_self.mpr fun r hr => ?_]
  · refine decide_eq_true fun hmem => ?_
    rcases List.mem_append.mp hmem with hmem | hmem
    · exact hdisjoint _ hmem _ (List.mem_append_right _ (List.mem_map_of_mem hr)) rfl
    · exact (List.nodup_append.mp hparts).2.2 _ hmem _ (List.mem_map_of_mem hr) rfl
  · simp only [decide_eq_true_eq, not_not]
    exact List.mem_append_right _ (List.mem_map_of_mem hr)

/-- Before any of them has been judged, all of them are left. -/
lemma unknownRows_before (networks : RowId → List (Option ℚ) → ℕ → ℚ) {c : Configuration}
    (hconfiguration : s.bash.configurations.idOf? c.agentNameId = some c.id)
    (hnodup : (judgedIds ++ unknownIds s.bash c).Nodup) :
    unknownRows (judgedStore networks s judgedIds).bash c.agentNameId
      = unknownRows s.bash c.agentNameId := by
  have hall := unknownRows_after networks hconfiguration (List.nil_append _) hnodup
  rwa [List.map_nil, List.append_nil] at hall

lemma exec_countUnknown {c : Configuration}
    (hconfiguration : s.bash.configurations.idOf? c.agentNameId = some c.id)
    (hnodup : (judgedIds ++ unknownIds s.bash c).Nodup) :
    (Raw.countDailyUserStatisticsForAgentWithClassification c.agentNameId .unknown).exec
      (judgedConnection networks s saved judgedIds)
      = (.ok (unknownRows s.bash c.agentNameId).length,
          judgedConnection networks s saved judgedIds) := by
  rw [Raw.countDailyUserStatisticsForAgentWithClassification, Raw.exec_queryBash,
    length_unknownRows, unknownRows_before networks hconfiguration hnodup]

lemma exec_getUsersIds (c : Configuration) :
    (Raw.getUsersIdsFromSelectedDailyStatisticsInConfiguration c.id).exec
      (judgedConnection networks s saved judgedIds)
      = (.ok (learningUsers s.bash c.id), judgedConnection networks s saved judgedIds) := by
  rw [Raw.getUsersIdsFromSelectedDailyStatisticsInConfiguration, Raw.exec_queryBash]
  exact congrArg (fun users => (Except.ok users, _)) (learningUsers_judgedStore c.id)

/-- **One part** of the statistics of a configuration. What has been judged is no
longer asked for. -/
lemma exec_judgePart {c : Configuration} {taken rest : List (Row DailyUserStatistic)}
    (hconfiguration : s.bash.configurations.idOf? c.agentNameId = some c.id)
    (hnodup : (judgedIds ++ unknownIds s.bash c).Nodup)
    (husers : debug = true → unknownRows s.bash c.agentNameId ≠ [] →
      learningUsers s.bash c.id ≠ [])
    (htaken : taken ++ rest = unknownRows s.bash c.agentNameId) (limit : ℕ) (judged : List Judged) :
    (Raw.getDailyUserStatisticsForAgentWithClassification c.agentNameId .unknown limit 0 >>=
      fun statistics => statistics.foldlM (judge debug (networks c.id) c.id
        (Raw.markedCommandsIds s.bash c.id) (learningUsers s.bash c.id)) judged).exec
          (judgedConnection networks s saved (judgedIds ++ taken.map (·.id)))
      = (.ok (judged ++ (rest.take limit).map (judgedOf s.bash c.id)),
          judgedConnection networks s saved
            (judgedIds ++ taken.map (·.id) ++ (rest.take limit).map (·.id))) := by
  have hpage : (Raw.getDailyUserStatisticsForAgentWithClassification c.agentNameId .unknown limit
      0).exec (judgedConnection networks s saved (judgedIds ++ taken.map (·.id)))
      = (.ok (rest.take limit),
        judgedConnection networks s saved (judgedIds ++ taken.map (·.id))) := by
    have hrest := unknownRows_after networks hconfiguration htaken hnodup
    rw [unknownRows] at hrest
    rw [Raw.getDailyUserStatisticsForAgentWithClassification, Raw.exec_queryBash, hrest,
      Select.page, List.drop_zero]
  have hpart : ∀ r ∈ rest.take limit, r ∈ unknownRows s.bash c.agentNameId := fun r hr =>
    htaken ▸ List.mem_append_right _ (List.mem_of_mem_take hr)
  have hmem : ∀ r ∈ rest.take limit, r ∈ s.bash.dailyUserStatistics.rows ∧
      r.val.classification = .unknown ∧
      s.bash.configurations.idOf? r.val.agentNameId = some c.id := by
    intro r hr
    obtain ⟨hr, hpass⟩ := List.mem_filter.mp (hpart r hr)
    obtain ⟨hagent, hunknown⟩ := of_decide_eq_true hpass
    exact ⟨hr, hunknown, hagent ▸ hconfiguration⟩
  have hnew : ((judgedIds ++ taken.map (·.id)) ++ (rest.take limit).map (·.id)).Nodup := by
    refine List.Nodup.sublist ?_ hnodup
    rw [unknownIds, ← htaken, List.map_append, List.append_assoc]
    exact (((List.take_sublist limit rest).map _).append_left _).append_left _
  rw [Prog.exec_bind_ok hpage]
  refine exec_judgeAll _ hmem hnew (fun hdebug hne => husers hdebug ?_) judged
  obtain ⟨r, hr⟩ := List.exists_mem_of_ne_nil _ hne
  exact List.ne_nil_of_mem (hpart r hr)

/-- **One configuration**, part by part. -/
lemma exec_analyzeConfiguration {c : Configuration}
    (hconfiguration : s.bash.configurations.idOf? c.agentNameId = some c.id)
    (hnodup : (judgedIds ++ unknownIds s.bash c).Nodup)
    (husers : debug = true → unknownRows s.bash c.agentNameId ≠ [] →
      learningUsers s.bash c.id ≠ []) (judged : List Judged) :
    (analyzeConfiguration debug networks judged c).exec
    (judgedConnection networks s saved judgedIds)
      = (.ok (judged ++ (unknownRows s.bash c.agentNameId).map (judgedOf s.bash c.id)),
          judgedConnection networks s saved (judgedIds ++ unknownIds s.bash c)) := by
  set xs := unknownRows s.bash c.agentNameId with hxs
  have hparts : ∃ judged' c', (runPartially maxRowsInMemory xs.length (fun judged partCount _ => do
      let dailyUserStatistics ←
        Raw.getDailyUserStatisticsForAgentWithClassification c.agentNameId .unknown partCount 0
      dailyUserStatistics.foldlM (judge debug (networks c.id) c.id
        (Raw.markedCommandsIds s.bash c.id) (learningUsers s.bash c.id)) judged) judged).exec
          (judgedConnection networks s saved judgedIds) = (.ok judged', c') ∧
      ∃ taken, taken ++ [] = xs ∧
        c' = judgedConnection networks s saved (judgedIds ++ taken.map (·.id)) ∧
        judged' = judged ++ taken.map (judgedOf s.bash c.id) := by
    refine exec_runPartially (I := fun rest judged' c' => ∃ taken, taken ++ rest = xs ∧
      c' = judgedConnection networks s saved (judgedIds ++ taken.map (·.id)) ∧
      judged' = judged ++ taken.map (judgedOf s.bash c.id)) ?_ _ ?_
    swap
    · exact ⟨[], rfl, by simp, by simp⟩
    rintro limit offset rest _ _ - ⟨taken, htaken, rfl, rfl⟩
    refine ⟨_, _, exec_judgePart hconfiguration hnodup husers htaken limit _,
      taken ++ rest.take limit, ?_, ?_, ?_⟩
    · rw [List.append_assoc, List.take_append_drop, htaken]
    · rw [List.map_append, List.append_assoc]
    · rw [List.map_append, List.append_assoc]
  obtain ⟨_, _, hrun, taken, htaken, rfl, rfl⟩ := hparts
  rw [List.append_nil] at htaken
  subst htaken
  have hmarked : (Raw.getMarkedCommandsIds c.id).exec (judgedConnection networks s saved judgedIds)
      = (.ok (Raw.markedCommandsIds s.bash c.id), judgedConnection networks s saved judgedIds) :=
    Raw.exec_queryBash _ _
  rw [analyzeConfiguration, Prog.exec_bind_ok hmarked, Prog.exec_bind_ok (exec_getUsersIds c),
    Prog.exec_bind_ok (exec_countUnknown hconfiguration hnodup)]
  exact hrun

/-- A configuration that has something to judge and no user. -/
lemma exec_analyzeConfiguration_error {c : Configuration} (hdebug : debug = true)
    (hconfiguration : s.bash.configurations.idOf? c.agentNameId = some c.id)
    (hnodup : (judgedIds ++ unknownIds s.bash c).Nodup)
    (hunknown : unknownRows s.bash c.agentNameId ≠ []) (husers : learningUsers s.bash c.id = [])
    (judged : List Judged) :
    (analyzeConfiguration debug networks judged c).exec
    (judgedConnection networks s saved judgedIds)
      = (.error .outOfRange, judgedConnection networks s saved judgedIds) := by
  set xs := unknownRows s.bash c.agentNameId with hxs
  have hpart : ∀ part ∈ parts maxRowsInMemory xs.length, ∀ (f : List Judged →
      Row DailyUserStatistic → DatabaseM (List Judged)) (judged : List Judged),
      (∀ judged r c, (f judged r).exec c = (.error .outOfRange, c)) →
      (Raw.getDailyUserStatisticsForAgentWithClassification c.agentNameId .unknown part.1 0 >>=
        fun statistics => statistics.foldlM f judged).exec
          (judgedConnection networks s saved judgedIds)
      = (.error .outOfRange, judgedConnection networks s saved judgedIds) := by
    intro part hpart f judged hf
    have hpos := pos_of_mem_parts (by decide) hpart
    have hstart := unknownRows_before networks hconfiguration hnodup
    refine (Prog.exec_bind_ok (Raw.exec_queryBash _ _)).trans ?_
    rw [unknownRows] at hstart
    rw [hstart, ← hxs, Select.page, List.drop_zero]
    cases hcases : xs with
    | nil => exact absurd hcases hunknown
    | cons r rs =>
        obtain ⟨limit, hlimit⟩ := Nat.exists_eq_succ_of_ne_zero hpos.ne'
        rw [hlimit, List.take_succ_cons, List.foldlM_cons]
        exact Prog.exec_bind_error (hf _ _ _)
  refine (Prog.exec_bind_ok (Raw.exec_queryBash _ _)).trans ?_
  refine (Prog.exec_bind_ok (exec_getUsersIds c)).trans ?_
  rw [Prog.exec_bind_ok (exec_countUnknown hconfiguration hnodup), runPartially]
  cases hparts : parts maxRowsInMemory xs.length with
  | nil =>
      have hsum := sum_parts maxRowsInMemory xs.length
      rw [hparts] at hsum
      exact absurd (List.length_eq_zero_iff.mp hsum.symm) hunknown
  | cons part ps =>
      rw [List.foldlM_cons]
      refine Prog.exec_bind_error
        (hpart part (hparts ▸ List.mem_cons_self) _ _ fun judged r c => ?_)
      exact exec_judge_error hdebug husers _ _ _ _ _

/-- Configurations one after another. -/
lemma exec_analyzeAll (cs : List Configuration)
    (hcs : ∀ c ∈ cs, s.bash.configurations.idOf? c.agentNameId = some c.id)
    (hnodup : (judgedIds ++ cs.flatMap (unknownIds s.bash)).Nodup)
    (husers : ∀ c ∈ cs, debug = true → unknownRows s.bash c.agentNameId ≠ [] →
      learningUsers s.bash c.id ≠ []) (judged : List Judged) :
    (cs.foldlM (analyzeConfiguration debug networks) judged).exec
        (judgedConnection networks s saved judgedIds)
      = (.ok (judged ++ cs.flatMap fun c =>
            (unknownRows s.bash c.agentNameId).map (judgedOf s.bash c.id)),
          judgedConnection networks s saved (judgedIds ++ cs.flatMap (unknownIds s.bash))) := by
  induction cs generalizing judgedIds judged with
  | nil => simp
  | cons c cs ih =>
      rw [List.forall_mem_cons] at hcs husers
      rw [List.flatMap_cons, ← List.append_assoc] at hnodup
      rw [List.foldlM_cons, Prog.exec_bind_ok (exec_analyzeConfiguration hcs.1
        (List.nodup_append.mp hnodup).1 husers.1 judged), ih hcs.2 hnodup husers.2]
      simp

/-- One configuration without users ends the pass. -/
lemma exec_analyzeAll_error (cs : List Configuration)
    (hcs : ∀ c ∈ cs, s.bash.configurations.idOf? c.agentNameId = some c.id)
    (hnodup : (judgedIds ++ cs.flatMap (unknownIds s.bash)).Nodup) (hdebug : debug = true)
    (husers : ∃ c ∈ cs, unknownRows s.bash c.agentNameId ≠ [] ∧ learningUsers s.bash c.id = [])
    (judged : List Judged) :
    ∃ c', (cs.foldlM (analyzeConfiguration debug networks) judged).exec
      (judgedConnection networks s saved judgedIds) = (.error .outOfRange, c') := by
  induction cs generalizing judgedIds judged with
  | nil =>
      obtain ⟨c, hc, -⟩ := husers
      exact absurd hc List.not_mem_nil
  | cons c cs ih =>
      rw [List.forall_mem_cons] at hcs
      rw [List.flatMap_cons, ← List.append_assoc] at hnodup
      rw [List.foldlM_cons]
      by_cases hbad : unknownRows s.bash c.agentNameId ≠ [] ∧ learningUsers s.bash c.id = []
      · exact ⟨_, Prog.exec_bind_error (exec_analyzeConfiguration_error hdebug hcs.1
          (List.nodup_append.mp hnodup).1 hbad.1 hbad.2 judged)⟩
      · rw [Prog.exec_bind_ok (exec_analyzeConfiguration hcs.1 (List.nodup_append.mp hnodup).1
          (fun _ hunknown hnone => hbad ⟨hunknown, hnone⟩) judged)]
        refine ih hcs.2 hnodup ?_ _
        obtain ⟨c', hc', hbad'⟩ := husers
        rcases List.mem_cons.mp hc' with rfl | hc'
        · exact absurd hbad' hbad
        · exact ⟨c', hc', hbad'⟩

/-! ### The configurations of a state -/

/-- The list of the configurations is that of the table. -/
def Lists (t : Tables) (cs : List Configuration) : Prop :=
  cs.map Configuration.key = t.configurations.rows.map fun r =>
    (r.id, r.val.agentNameId, r.val.changed)

variable {cs : List Configuration}

lemma Lists.mem_iff (h : Lists s.bash cs) {id agentNameId : RowId} :
    (∃ c ∈ cs, c.id = id ∧ c.agentNameId = agentNameId) ↔
      s.bash.configurations.idOf? agentNameId = some id := by
  have hmem : ∀ k, k ∈ cs.map Configuration.key ↔
      k ∈ s.bash.configurations.rows.map fun r => (r.id, r.val.agentNameId, r.val.changed) :=
    fun k => by rw [h]
  rw [UniqueTable.idOf?_eq_some]
  constructor
  · rintro ⟨c, hc, rfl, rfl⟩
    obtain ⟨r, hr, hkey⟩ := List.mem_map.mp ((hmem _).mp (List.mem_map_of_mem hc))
    simp only [Configuration.key, Prod.mk.injEq] at hkey
    exact ⟨r.val, hkey.1 ▸ hr, hkey.2.1⟩
  · rintro ⟨v, hv, rfl⟩
    obtain ⟨c, hc, hkey⟩ := List.mem_map.mp ((hmem _).mpr (List.mem_map_of_mem hv))
    simp only [Configuration.key, Prod.mk.injEq] at hkey
    exact ⟨c, hc, hkey.1, hkey.2.1⟩

lemma Lists.idOf? (h : Lists s.bash cs) : ∀ c ∈ cs,
    s.bash.configurations.idOf? c.agentNameId = some c.id :=
  fun c hc => h.mem_iff.mp ⟨c, hc, rfl, rfl⟩

/-- No statistic is judged for two configurations. -/
lemma Lists.nodup (h : Lists s.bash cs) : (cs.flatMap (unknownIds s.bash)).Nodup := by
  have hagents : (cs.map (·.agentNameId)).Nodup := by
    have heq : cs.map (·.agentNameId) = s.bash.configurations.rows.map (·.val.agentNameId) := by
      have := congrArg (List.map fun k : RowId × RowId × Bool => k.2.1) h
      rwa [List.map_map, List.map_map] at this
    rw [heq]
    exact List.pairwise_map.mpr s.bash.configurations.unique
  refine List.nodup_flatMap.mpr ⟨fun c _ => nodup_unknownIds s.bash c, ?_⟩
  refine (List.pairwise_map.mp hagents).imp fun {c c'} hne id hid hid' => hne ?_
  obtain ⟨r, hr, rfl⟩ := List.mem_map.mp hid
  obtain ⟨r', hr', hrow⟩ := List.mem_map.mp hid'
  obtain ⟨hr, hpass⟩ := List.mem_filter.mp hr
  obtain ⟨hr', hpass'⟩ := List.mem_filter.mp hr'
  obtain rfl := Table.row_ext hr' hr hrow
  exact (of_decide_eq_true hpass).1.symm.trans (of_decide_eq_true hpass').1

lemma Lists.mem_unknownIds (h : Lists s.bash cs) {id : RowId} :
    id ∈ cs.flatMap (unknownIds s.bash) ↔ ∃ r ∈ s.bash.dailyUserStatistics.rows, r.id = id ∧
      r.val.classification = .unknown ∧ (s.bash.configurations.idOf? r.val.agentNameId).isSome := by
  rw [List.mem_flatMap]
  constructor
  · rintro ⟨c, hc, hid⟩
    obtain ⟨r, hr, rfl⟩ := List.mem_map.mp hid
    obtain ⟨hr, hpass⟩ := List.mem_filter.mp hr
    obtain ⟨hagent, hunknown⟩ := of_decide_eq_true hpass
    exact ⟨r, hr, rfl, hunknown, by rw [hagent, h.idOf? c hc]; rfl⟩
  · rintro ⟨r, hr, rfl, hunknown, hconfiguration⟩
    obtain ⟨id, hid⟩ := Option.isSome_iff_exists.mp hconfiguration
    obtain ⟨c, hc, -, hagent⟩ := h.mem_iff.mpr hid
    exact ⟨c, hc, List.mem_map_of_mem (List.mem_filter.mpr
      ⟨hr, decide_eq_true ⟨hagent.symm, hunknown⟩⟩)⟩

/-- All of them are judged, and then every statistic is what it should be. -/
lemma Lists.judgedStore_eq (h : Lists s.bash cs) :
    judgedStore networks s (cs.flatMap (unknownIds s.bash))
      = withStatistics s (s.bash.dailyUserStatistics.update (judgedStatistic networks s.bash)) := by
  refine congrArg (withStatistics s) (Table.ext_rows ?_)
  rw [Table.update_rows, Table.update_rows]
  refine List.map_congr_left fun r hr => ?_
  by_cases hmem : r.id ∈ cs.flatMap (unknownIds s.bash)
  · rw [if_pos hmem]
  · rw [if_neg hmem, judgedStatistic]
    split
    · rename_i hunknown hconfiguration
      exact absurd (h.mem_unknownIds.mpr ⟨r, hr, rfl, hunknown, by rw [hconfiguration]; rfl⟩) hmem
    · rfl

end Pass

lemma learningUsers_eq_nil {t : Tables} {configurationId : RowId} :
    learningUsers t configurationId = [] ↔ Raw.selectedStatisticsOf t configurationId = [] := by
  rw [learningUsers, List.dedup_eq_nil, List.map_eq_nil_iff]

/-- A pass that has returned began in a judgeable state. -/
lemma judgeable_of_exec {debug : Bool} {networks : RowId → List (Option ℚ) → ℕ → ℚ}
    {c c' : Connection Store} {judged : List Judged}
    (hrun : (Classificator.analyze debug networks).exec c = (.ok judged, c')) :
    Judgeable debug c.data := by
  have hstart : c = judgedConnection networks c.data c.saved [] := by
    rw [judgedConnection, judgedStore_nil]
  have hdates : ∀ r ∈ c.data.bash.configurations.rows, Dated c.data r := by
    by_contra hnot
    push Not at hnot
    have hthrow := exec_getAnomalyDetectionConfigurations_error hnot
    rw [analyze, Prog.exec_bind_error hthrow] at hrun
    exact absurd (congrArg Prod.fst hrun) (by simp)
  refine ⟨hdates, fun hdebug r hr hunknown hnone => ?_⟩
  obtain ⟨cs, hlist, hcs⟩ := exec_getAnomalyDetectionConfigurations hdates
  have hcs : Lists c.data.bash cs := hcs
  obtain ⟨r', hr', hid, hagent⟩ := hcs.mem_iff.mpr (UniqueTable.idOf?_eq_some.mpr ⟨r.val, hr, rfl⟩)
  have hthrow : ∃ c', (cs.foldlM (analyzeConfiguration debug networks) []).exec
      (judgedConnection networks c.data c.saved []) = (.error .outOfRange, c') :=
    exec_analyzeAll_error cs hcs.idOf? hcs.nodup hdebug
      ⟨r', hr', hagent ▸ hunknown, learningUsers_eq_nil.mpr (hid ▸ hnone)⟩ []
  obtain ⟨c', hthrow⟩ := hthrow
  rw [← hstart] at hthrow
  rw [analyze, Prog.exec_bind_ok hlist, hthrow] at hrun
  exact absurd (congrArg Prod.fst hrun) (by simp)

/-- **The classification pass** ends and decides every unknown statistic of a
configured agent exactly if the state is judgeable. -/
theorem classified_iff (debug : Bool) (networks : RowId → List (Option ℚ) → ℕ → ℚ)
    (c : Connection Store) : Completes debug networks c ↔ Judgeable debug c.data := by
  have hstart : c = judgedConnection networks c.data c.saved [] := by
    rw [judgedConnection, judgedStore_nil]
  constructor
  · rintro ⟨judged, s', hrun, -⟩
    exact judgeable_of_exec hrun
  · rintro ⟨hdates, husers⟩
    obtain ⟨cs, hlist, hcs⟩ := exec_getAnomalyDetectionConfigurations hdates
    have hcs : Lists c.data.bash cs := hcs
    have husers : ∀ c' ∈ cs, debug = true → unknownRows c.data.bash c'.agentNameId ≠ [] →
        learningUsers c.data.bash c'.id ≠ [] := by
      intro c' hc' hdebug hunknown hnone
      obtain ⟨v, hv, hagent⟩ := UniqueTable.idOf?_eq_some.mp (hcs.idOf? c' hc')
      exact husers hdebug _ hv (hagent.symm ▸ hunknown) (learningUsers_eq_nil.mp hnone)
    have hrun : (cs.foldlM (analyzeConfiguration debug networks) []).exec
        (judgedConnection networks c.data c.saved []) = _ :=
      exec_analyzeAll cs hcs.idOf? hcs.nodup husers []
    rw [← hstart, List.nil_append, List.nil_append, judgedConnection, hcs.judgedStore_eq] at hrun
    have hids : (cs.flatMap fun c' => (unknownRows c.data.bash c'.agentNameId).map
        (judgedOf c.data.bash c'.id)).map (·.statisticId)
          = cs.flatMap (unknownIds c.data.bash) := by
      rw [List.map_flatMap]
      refine List.flatMap_congr fun c' _ => ?_
      rw [List.map_map]
      rfl
    refine ⟨_, _, by rw [analyze, Prog.exec_bind_ok hlist, hrun], ?_, fun id => ?_, rfl⟩
    · rw [hids]
      exact hcs.nodup
    · rw [hids]
      exact hcs.mem_unknownIds

/-! ### A configuration of a day without statistics -/

/-- A log and its statistic; the web has asked for the commands of the next day,
and makes it the range of a configuration. -/
def noUsers : Connection Store :=
  runAll [.addLog someLogEntry, .createStatistics dayAfterLog,
    .getCommandsStatistics 1 dayAfterLog dayAfterLog,
    .request (.saveConfiguration .stable 1 dayAfterLog dayAfterLog)] ⟨Store.empty, none⟩

/-- With debug records, the pass throws. -/
theorem not_classified_noUsers : ¬∀ c, Reached c →
    ∀ debug networks, Completes debug networks c := by
  intro h
  have hjudgeable := (classified_iff true (fun _ _ _ => 0) noUsers).mp
    (h noUsers (Reached.empty.runAll _) true _)
  exact hjudgeable.users rfl ⟨1, 1, 2, 2, true⟩
    (by decide +kernel) (by decide +kernel) (by decide +kernel)

end Slas.Bash
