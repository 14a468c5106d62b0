import Mathlib
import Slas.Bash.DailySystemStatisticsExact
import Slas.Bash.TrainingSet

/-!
One analysis: `BashAnalyzerObject::Analyze` of
`server/src/bash/analyzer/bash_analyzer_object.cpp`, undisturbed.

* `BashAnalyzerObject.analyze`: the source;
* `exec_train`: what `Train` makes of the configurations, and the files;
* `Kept`: what `CreateStatistics` leaves as it was;
* `Analyzed`: what a whole analysis does to a database, `analyzed_of_exec`.
-/

namespace Slas.Bash

open Database

/-- `BashAnalyzerObject::Analyze` on a day, with the files the networks are trained
on. -/
def BashAnalyzerObject.analyze (today : Date) (debug : Bool)
    (networks : RowId → List (Option ℚ) → ℕ → ℚ) :
    DatabaseM (List (RowId × NetworkTrainer.LearningSetFile)) := do
  createDailySystemStatistics
  createStatistics today
  let trained ← NetworkTrainer.train
  let _ ← Classificator.analyze debug networks
  pure trained

/-! ### The trainer -/

section Train

open NetworkTrainer

variable {c c' : Connection Store}

/-- Some configurations are no longer changed. -/
def withUnchanged (ids : List RowId) (s : Store) : Store :=
  { s with bash := { s.bash with
      configurations := s.bash.configurations.update
        (fun r => if r.id ∈ ids then { r.val with changed := false } else r.val)
        (fun r => by split_ifs <;> rfl) } }

lemma withUnchanged_nil (s : Store) : withUnchanged [] s = s := by
  have hrows : (withUnchanged [] s).bash.configurations = s.bash.configurations :=
    UniqueTable.ext_rows (by simp [withUnchanged, UniqueTable.update])
  change ({ s with bash := { s.bash with
    configurations := (withUnchanged [] s).bash.configurations } } : Store) = s
  rw [hrows]

lemma setChanged_withUnchanged (id : RowId) (ids : List RowId) (s : Store) :
    { s with bash := Raw.setChanged id false (withUnchanged ids s).bash }
      = withUnchanged (ids ++ [id]) s := by
  have hrows : (Raw.setChanged id false (withUnchanged ids s).bash).configurations
      = (withUnchanged (ids ++ [id]) s).bash.configurations := by
    refine UniqueTable.ext_rows ?_
    simp only [Raw.setChanged, withUnchanged, UniqueTable.update, Table.update_rows, List.map_map]
    refine List.map_congr_left fun r _ => ?_
    by_cases hid : r.id = id <;> by_cases hmem : r.id ∈ ids <;> simp [hid, hmem] <;> simp_all
  change ({ s with bash := { s.bash with
    configurations := (Raw.setChanged id false (withUnchanged ids s).bash).configurations } }
      : Store)
      = { s with bash := { s.bash with
        configurations := (withUnchanged (ids ++ [id]) s).bash.configurations } }
  rw [hrows]

/-- The configurations `Train` works on. -/
def changedIds (cs : List Configuration) : List RowId := (cs.filter (·.changed)).map (·.id)

/-- One configuration. -/
lemma exec_trainConfiguration (cs : List Configuration) (k : Configuration) (s : Store)
    (saved : Option Store) :
    (trainConfiguration ((changedIds cs).map fun id => (id, learningSetFile s.bash id)) k).exec
        ⟨withUnchanged (changedIds cs) s, saved⟩
      = (.ok ((changedIds (cs ++ [k])).map fun id => (id, learningSetFile s.bash id)),
          ⟨withUnchanged (changedIds (cs ++ [k])) s, saved⟩) := by
  have hids : changedIds (cs ++ [k]) = changedIds cs ++ if k.changed then [k.id] else [] := by
    rw [changedIds, List.filter_append, List.map_append, ← changedIds]
    by_cases hk : k.changed <;> simp [hk]
  rw [trainConfiguration, hids]
  split_ifs with hk
  · have hfile := exec_createLearningSetFile k.id ⟨withUnchanged (changedIds cs) s, saved⟩
    have hnetwork : (createNetworkConfiguration k.id).exec ⟨withUnchanged (changedIds cs) s, saved⟩
        = (.ok (learningUsers s.bash k.id).length, ⟨withUnchanged (changedIds cs) s, saved⟩) :=
      (Prog.exec_bind_ok (Raw.exec_queryBash _ _)).trans rfl
    rw [Prog.exec_bind_ok hfile, Prog.exec_bind_ok hnetwork, Raw.markConfigurationAsUnchanged,
      Prog.exec_bind_ok (Raw.exec_writeBash _ _), List.map_append, ← setChanged_withUnchanged]
    rfl
  · rw [List.append_nil]
    rfl

lemma exec_trainAll (cs : List Configuration) (s : Store) (saved : Option Store) :
    (cs.foldlM trainConfiguration []).exec ⟨s, saved⟩
      = (.ok ((changedIds cs).map fun id => (id, learningSetFile s.bash id)),
          ⟨withUnchanged (changedIds cs) s, saved⟩) := by
  obtain ⟨files, c', hrun, rfl, rfl⟩ := Prog.exec_foldlM cs trainConfiguration
    (fun done files c' => files
      = (changedIds done).map (fun id => (id, learningSetFile s.bash id)) ∧
      c' = ⟨withUnchanged (changedIds done) s, saved⟩)
    (by
      rintro done k - files c' ⟨rfl, rfl⟩
      exact ⟨_, _, exec_trainConfiguration done k s saved, rfl, rfl⟩)
    (b := []) (s := ⟨s, saved⟩)
      ⟨rfl, by rw [changedIds, List.filter_nil, List.map_nil, withUnchanged_nil]⟩
  exact hrun

/-- **What `Train` does** if it returns: the configurations that were changed are
trained on their files, and no configuration is changed any longer. -/
lemma exec_train {files : List (RowId × LearningSetFile)} (h : train.exec c = (.ok files, c')) :
    ∃ ids : List RowId, (∀ r ∈ c.data.bash.configurations.rows, r.id ∈ ids ↔ r.val.changed = true) ∧
      files = ids.map (fun id => (id, learningSetFile c.data.bash id)) ∧
      c' = ⟨withUnchanged ids c.data, c.saved⟩ := by
  have hdates : ∀ r ∈ c.data.bash.configurations.rows, Dated c.data r := by
    by_contra hnot
    push Not at hnot
    have hthrow := exec_getAnomalyDetectionConfigurations_error hnot
    rw [train, Prog.exec_bind_error hthrow] at h
    exact absurd (congrArg Prod.fst h) (by simp)
  obtain ⟨cs, hlist, hcs⟩ := exec_getAnomalyDetectionConfigurations hdates
  rw [train, Prog.exec_bind_ok hlist] at h
  obtain ⟨hfiles, rfl⟩ := Prod.mk.inj ((exec_trainAll cs c.data c.saved).symm.trans h)
  refine ⟨changedIds cs, fun r hr => ?_, (Except.ok.inj hfiles).symm, rfl⟩
  have hkey : ∀ k, k ∈ cs.map Configuration.key ↔
      k ∈ c.data.bash.configurations.rows.map fun r => (r.id, r.val.agentNameId, r.val.changed) :=
    fun k => by rw [hcs]
  rw [changedIds, List.mem_map]
  constructor
  · rintro ⟨k, hk, hid⟩
    obtain ⟨hk, hchanged⟩ := List.mem_filter.mp hk
    obtain ⟨r', hr', heq⟩ := List.mem_map.mp ((hkey _).mp (List.mem_map_of_mem hk))
    simp only [Configuration.key, Prod.mk.injEq] at heq
    rw [Table.row_ext hr hr' (hid.symm.trans heq.1.symm), heq.2.2]
    exact hchanged
  · intro hchanged
    obtain ⟨k, hk, heq⟩ := List.mem_map.mp ((hkey _).mpr (List.mem_map_of_mem hr))
    simp only [Configuration.key, Prod.mk.injEq] at heq
    exact ⟨k, List.mem_filter.mpr ⟨hk, by rw [heq.2.2]; exact hchanged⟩, heq.1⟩

end Train

/-! ### The statistics -/

section Statistics

/-- What the first two steps leave as it was. -/
structure Kept (s s' : Store) : Prop where
  others : s' = { s with bash := { s.bash with
    dailyStatistics := s'.bash.dailyStatistics
    dailyUserStatistics := s'.bash.dailyUserStatistics
    dailyUserCommandStatistics := s'.bash.dailyUserCommandStatistics } }
  rows : s.bash.dailyUserStatistics.rows ⊆ s'.bash.dailyUserStatistics.rows
  counts : ∀ r ∈ s.bash.dailyUserStatistics.rows, ∀ commandId,
    countsOf s'.bash r.id commandId = countsOf s.bash r.id commandId

variable {s₀ s : Store}

lemma kept_addRows (rows : List DailySystemStatistic) (s : Store) : Kept s (addRows rows s) :=
  ⟨rfl, fun _ => id, fun _ _ _ => rfl⟩

lemma Kept.addStatistic (h : Kept s₀ s) (v : DailyUserStatistic) :
    Kept s₀ { s with bash := { s.bash with
      dailyUserStatistics := s.bash.dailyUserStatistics.insert v } } where
  others := by rw [h.others]
  rows _ hr := List.mem_append_left _ (h.rows hr)
  counts := h.counts

/-- The counts of another statistic. -/
lemma Kept.addCount (h : Kept s₀ s) {v : DailyUserCommandStatistic}
    (hv : ∀ r ∈ s₀.bash.dailyUserStatistics.rows, r.id ≠ v.statisticId) :
    Kept s₀ { s with bash := { s.bash with
      dailyUserCommandStatistics := s.bash.dailyUserCommandStatistics.insert v } } where
  others := by rw [h.others]
  rows := h.rows
  counts r hr commandId := by
    rw [← h.counts r hr commandId, countsOf, countsOf]
    dsimp only
    rw [Table.insert_rows, List.filter_append, List.filter_cons_of_neg, List.filter_nil,
      List.append_nil]
    exact fun hpass => hv r hr (of_decide_eq_true hpass).1.symm

/-- A statistic that was there is that of its user. -/
lemma Kept.ne_of_findDailyUserStatistic (h : Kept s₀ s) {agent user date id : RowId}
    (huser : ∀ r ∈ s₀.bash.dailyUserStatistics.rows, r.val.userId ≠ user)
    (hid : Raw.findDailyUserStatistic s.bash agent user date = some id) :
    ∀ r ∈ s₀.bash.dailyUserStatistics.rows, r.id ≠ id := by
  rintro r hr rfl
  obtain ⟨q, hq, hid⟩ := Option.map_eq_some_iff.mp hid
  have hday : q.val.agentNameId = agent ∧ q.val.userId = user ∧ q.val.dateId = date := by
    simpa using List.find?_some hq
  obtain rfl := Table.row_ext (List.mem_of_find?_eq_some hq) (h.rows hr) hid
  exact huser q hr hday.2.1

variable {env : ℕ → Option Fault}

/-- The first two steps are under way: no transaction is open between their calls. -/
def Keeping (s₀ : Store) (c : Connection Store) : Prop := c.saved = none ∧ Kept s₀ c.data

lemma triple_query_keeping {α : Type} {f : Store → α} {Q : α → Prop}
    (h : ∀ s, Kept s₀ s → Q (f s)) :
    Prog.Triple env (fun _ => Keeping s₀) (query f) (fun a _ c => Q a ∧ Keeping s₀ c)
      fun _ _ _ => True :=
  triple_query fun _ c hc => ⟨fun _ => ⟨h c.data hc.2, hc⟩, fun _ => trivial⟩

lemma triple_queryBash_keeping {α : Type} {f : Tables → α} {Q : α → Prop}
    (h : ∀ s, Kept s₀ s → Q (f s.bash)) :
    Prog.Triple env (fun _ => Keeping s₀) (Raw.queryBash f) (fun a _ c => Q a ∧ Keeping s₀ c)
      fun _ _ _ => True := triple_query_keeping h

/-- The statistic of one date, of a user who had none. -/
lemma triple_createStatistic_keeping (agent date : RowId) {user : RowId}
    (huser : ∀ r ∈ s₀.bash.dailyUserStatistics.rows, r.val.userId ≠ user) :
    Prog.Triple env (fun _ => Keeping s₀) (createStatistic agent user date)
      (fun _ _ => Keeping s₀) fun _ _ _ => True := by
  have hadd : Prog.Triple env (fun _ => Keeping s₀)
      (Raw.addDailyUserStatistic ⟨agent, user, date, .unknown⟩) (fun _ _ => Keeping s₀)
      fun _ _ _ => True :=
    triple_write fun _ _ hc => ⟨fun _ => ⟨hc.1, hc.2.addStatistic _⟩, fun _ => trivial⟩
  have hfind : Prog.Triple env (fun _ => Keeping s₀) (Raw.getDailyUserStatisticId agent user date)
      (fun id _ c => (∀ r ∈ s₀.bash.dailyUserStatistics.rows, r.id ≠ id) ∧ Keeping s₀ c)
      fun _ _ _ => True :=
    triple_queryFirst fun _ _ hc => ⟨fun _ hid => ⟨hc.2.ne_of_findDailyUserStatistic huser hid, hc⟩,
      fun _ => trivial⟩
  refine hadd.bind fun _ => hfind.bind fun id => Prog.Triple.assume fun hid => ?_
  refine (triple_queryBash_keeping (Q := fun _ => True) fun _ _ => trivial).bind fun commands =>
    Prog.Triple.assume fun _ => Prog.Triple.forM (fun command => ?_) commands
  refine (triple_queryBash_keeping (Q := fun _ => True) fun _ _ => trivial).bind fun summary =>
    Prog.Triple.assume fun _ => ?_
  exact triple_write fun _ _ hc => ⟨fun _ => ⟨hc.1, hc.2.addCount hid⟩, fun _ => trivial⟩

/-- Dates are asked for only of a user without statistics. -/
lemma triple_getNotCalculatedDatesIdsFromLogs_keeping (agent user : RowId) :
    Prog.Triple env (fun _ => Keeping s₀) (Raw.getNotCalculatedDatesIdsFromLogs agent user)
      (fun dates _ c => (dates = [] ∨
        ∀ r ∈ s₀.bash.dailyUserStatistics.rows, r.val.userId ≠ user) ∧ Keeping s₀ c)
      fun _ _ _ => True := by
  refine triple_queryBash_keeping (Q := fun dates : List RowId => dates = [] ∨
    ∀ r ∈ s₀.bash.dailyUserStatistics.rows, r.val.userId ≠ user) fun s hs => ?_
  have hdates := exec_getNotCalculatedDatesIdsFromLogs agent user ⟨s, none⟩
  rw [Raw.getNotCalculatedDatesIdsFromLogs, Raw.exec_queryBash] at hdates
  rw [Except.ok.inj (Prod.mk.inj hdates).1]
  split_ifs with hany
  · exact .inl rfl
  · exact .inr fun r hr huser => hany ⟨r.val, List.mem_map_of_mem (hs.rows hr), huser⟩

/-- **`CreateStatistics`** leaves what was there. -/
lemma triple_createStatistics_keeping (today : Date) :
    Prog.Triple env (fun _ => Keeping s₀) (createStatistics today) (fun _ _ => Keeping s₀)
      fun _ _ _ => True := by
  refine (triple_query_keeping (Q := fun _ => True) fun _ _ => trivial).bind fun currentDateId =>
    Prog.Triple.assume fun _ => ?_
  refine (triple_query_keeping (Q := fun _ => True) fun _ _ => trivial).bind fun agents =>
    Prog.Triple.assume fun _ => Prog.Triple.forM (fun agent => ?_) agents
  refine (triple_queryBash_keeping (Q := fun _ => True) fun _ _ => trivial).bind fun users =>
    Prog.Triple.assume fun _ => Prog.Triple.forM (fun user => ?_) users
  refine (triple_getNotCalculatedDatesIdsFromLogs_keeping agent user).bind fun dates =>
    Prog.Triple.assume fun hdates => ?_
  rcases hdates with rfl | huser
  · exact Prog.Triple.pure fun _ _ => id
  · refine Prog.Triple.forM (fun date => ?_) dates
    split_ifs
    · exact Prog.Triple.pure fun _ _ => id
    · exact triple_createStatistic_keeping agent date huser

/-- Both, undisturbed. -/
lemma kept_of_exec {today : Date} {s₁ s₂ : Store} {saved saved₁ saved₂ : Option Store}
    (hdaily : createDailySystemStatistics.exec ⟨s₀, saved⟩ = (.ok (), ⟨s₁, saved₁⟩))
    (huser : (createStatistics today).exec ⟨s₁, saved₁⟩ = (.ok (), ⟨s₂, saved₂⟩)) :
    saved₂ = none ∧ Kept s₀ s₂ := by
  obtain ⟨n, hrun⟩ := Prog.run_of_exec hdaily 0
  have hok : Call.createDailySystemStatistics.outcome (fun _ => none) ⟨s₀, saved⟩
      = (.ok (), ⟨s₁, saved₁⟩) := congrArg (fun x => (x.1, x.2.2)) hrun
  obtain ⟨-, hs₁⟩ := outcome_create_ok (congrArg Prod.fst hok)
  rw [hok] at hs₁
  obtain ⟨rfl, rfl⟩ := Connection.mk.inj hs₁
  obtain ⟨m, hrun⟩ := Prog.run_of_exec huser 0
  exact (triple_createStatistics_keeping today).of_ok ⟨rfl, kept_addRows _ s₀⟩ hrun

end Statistics

/-! ### The whole analysis -/

/-- What an analysis does to a database. -/
structure Analyzed (networks : RowId → List (Option ℚ) → ℕ → ℚ) (s s₂ : Store)
    (files : List (RowId × NetworkTrainer.LearningSetFile)) (ids : List RowId) (s' : Store) :
    Prop where
  kept : Kept s s₂
  changed : ∀ r ∈ s₂.bash.configurations.rows, r.id ∈ ids ↔ r.val.changed = true
  files : files = ids.map fun id => (id, learningSetFile s₂.bash id)
  judged : s' = withStatistics (withUnchanged ids s₂) (s₂.bash.dailyUserStatistics.update
    (judgedStatistic networks (withUnchanged ids s₂).bash))

/-- **An analysis that has returned.** -/
lemma analyzed_of_exec {today : Date} {debug : Bool}
    {networks : RowId → List (Option ℚ) → ℕ → ℚ} {s s' : Store} {saved saved' : Option Store}
    {files : List (RowId × NetworkTrainer.LearningSetFile)}
    (h : (BashAnalyzerObject.analyze today debug networks).exec ⟨s, saved⟩
      = (.ok files, ⟨s', saved'⟩)) :
    saved' = none ∧ ∃ s₂ ids, (createDailySystemStatistics >>= fun _ => createStatistics today).exec
      ⟨s, saved⟩ = (.ok (), ⟨s₂, none⟩) ∧ Analyzed networks s s₂ files ids s' := by
  obtain ⟨_, ⟨s₁, saved₁⟩, hdaily, h⟩ := Prog.of_exec_bind h
  obtain ⟨_, ⟨s₂, saved₂⟩, huser, h⟩ := Prog.of_exec_bind h
  obtain ⟨trained, c₃, htrain, h⟩ := Prog.of_exec_bind h
  obtain ⟨judged, c₄, hjudge, h⟩ := Prog.of_exec_bind h
  obtain ⟨hfiles, rfl⟩ := Prod.mk.inj h
  obtain rfl := Except.ok.inj hfiles
  obtain ⟨rfl, hkept⟩ := kept_of_exec hdaily huser
  obtain ⟨ids, hchanged, hfiles, rfl⟩ := exec_train htrain
  obtain ⟨judged', s'', hrun, hclassified⟩ := (classified_iff debug networks _).mpr
    (judgeable_of_exec hjudge)
  have hend := (congrArg Prod.snd (hrun.symm.trans hjudge))
  obtain ⟨rfl, rfl⟩ := Connection.mk.inj hend
  exact ⟨rfl, s₂, ids, (Prog.exec_bind_ok hdaily).trans huser, hkept, hchanged, hfiles,
    hclassified.statistics⟩

end Slas.Bash
