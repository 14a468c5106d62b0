import Mathlib
import Slas.Bash.AddLog

/-!
Daily system statistics, `Scripts::CreateDailySystemStatistics` of
`server/src/bash/domain/scripts.cpp`.

* `createDailySystemStatistics`: the source, its loops one function each;
* `todo`: the rows an undisturbed run writes, in order;
* `flushed`: how many of them are written before a given call of the run;
* `triple_createDailySystemStatistics`: a run that returns has written all of
  them; one that is disturbed has written those, or leaves its transaction open.
-/

namespace Slas.Bash

open Database

/-! ### The source -/

/-- The capacity of the vector of statistics. -/
def statisticsCapacity : ℕ := 1000

/-- The innermost loop: count, collect, and flush a full vector. -/
def collectStatistic (agent date : RowId) (statistics : List DailySystemStatistic)
    (command : RowId) : DatabaseM (List DailySystemStatistic) := do
  let count ← Raw.countCommandsForDailySystemStatistic agent date command
  let statistics := statistics ++
    [{ agentNameId := agent, dateId := date, commandId := command, summary := count }]
  if statistics.length = statisticsCapacity then do
    Raw.addDailySystemStatistics statistics
    pure []
  else pure statistics

/-- The loop over the dates of an agent. -/
def collectAgentStatistics (commands : List RowId) (statistics : List DailySystemStatistic)
    (agent : RowId) : DatabaseM (List DailySystemStatistic) := do
  let dates ← Raw.getDateIdsWithoutCreatedDailySystemStatistic agent
  dates.foldlM (fun statistics date =>
    commands.foldlM (collectStatistic agent date) statistics) statistics

/-- `Scripts::CreateDailySystemStatistics`. -/
def createDailySystemStatistics : DatabaseM Unit := do
  let agents ← getAgentsIds
  let commands ← Raw.getAllCommandsIds
  let statistics ← agents.foldlM (collectAgentStatistics commands) []
  Raw.addDailySystemStatistics statistics

/-! ### What it has to do -/

/-- How many logs there are of an agent, a date and a command. -/
def dailyCount (t : Tables) (agent date command : RowId) : ℕ :=
  t.logs.vals.countP fun l => l.agentNameId = agent ∧ l.dateId = date ∧ l.commandId = command

/-- The dates of which an agent has no daily system statistic. -/
def openDates (s : Store) (agent : RowId) : List RowId :=
  (s.dates.rows.filter fun r => s.bash.dailyStatistics.vals.all fun v =>
    !(r.id = v.dateId && v.agentNameId = agent)).map (·.id)

/-- The rows of one agent. -/
def agentTodo (s : Store) (agent : RowId) : List DailySystemStatistic :=
  (openDates s agent).flatMap fun date => (s.bash.commands.rows.map (·.id)).map fun command =>
    { agentNameId := agent, dateId := date, commandId := command,
      summary := dailyCount s.bash agent date command }

/-- The rows an undisturbed run writes, in order. -/
def todo (s : Store) : List DailySystemStatistic :=
  (s.agentNames.rows.map (·.id)).flatMap (agentTodo s)

/-- Rows added to `BASH_DAILY_STATISTICS_TABLE`. -/
def addRows (rows : List DailySystemStatistic) (s : Store) : Store :=
  { s with bash := { s.bash with
    dailyStatistics := rows.foldl Table.insert s.bash.dailyStatistics } }

/-! ### The calls of a run -/

/-- The calls for some agents: `none` asks for the dates of an agent, `some row`
counts the logs of a row. -/
def agentEvents (s : Store) (agents : List RowId) : List (Option DailySystemStatistic) :=
  agents.flatMap fun agent => none :: (agentTodo s agent).map some

/-- The calls still to come when `pending` rows have been collected; a flush is
`true`. -/
def plan {α : Type} : ℕ → List (Option α) → List Bool
  | _, [] => [true]
  | pending, none :: es => false :: plan pending es
  | pending, some _ :: es =>
      false :: if pending + 1 = statisticsCapacity then true :: plan 0 es
        else plan (pending + 1) es

/-- The calls of an undisturbed run. -/
def calls (s : Store) : List Bool :=
  false :: false :: plan 0 (agentEvents s (s.agentNames.rows.map (·.id)))

/-- How many rows have been written before the `n`-th call. -/
def flushed (s : Store) (n : ℕ) : ℕ := statisticsCapacity * ((calls s).take n).count true

/-! ### Its statements -/

lemma addRows_append (rows rows' : List DailySystemStatistic) (s : Store) :
    addRows (rows ++ rows') s = addRows rows' (addRows rows s) := by
  simp only [addRows, List.foldl_append]

lemma vals_addRows (rows : List DailySystemStatistic) (s : Store) :
    (addRows rows s).bash.dailyStatistics.vals = s.bash.dailyStatistics.vals ++ rows :=
  Table.foldl_insert_vals _ _

/-- The inserts of a transaction, one after another. -/
lemma applyAll_inserts (rows : List DailySystemStatistic) (s : Store) :
    Connection.applyAll (rows.map fun statistic s => { s with bash := { s.bash with
      dailyStatistics := s.bash.dailyStatistics.insert statistic } }) s = addRows rows s := by
  induction rows generalizing s with
  | nil => rfl
  | cons row rows ih => exact ih _

lemma openDates_eq (s : Store) (agent : RowId) :
    (((Select.leftJoin s.dates.rows s.bash.dailyStatistics.vals
      fun dt bdst => dt.id = bdst.dateId && bdst.agentNameId = agent).filter
        fun p => p.2.isNone).map fun p => p.1.id) = openDates s agent := by
  have hjoin := Select.map_filter_isNone_leftJoin s.dates.rows s.bash.dailyStatistics.vals
    (fun dt bdst => dt.id = bdst.dateId && bdst.agentNameId = agent) fun _ => true
  simp only [Bool.and_true, Bool.true_and] at hjoin
  rw [openDates, ← hjoin, List.map_map]
  rfl

/-- The rows of other agents do not change the dates of an agent. -/
lemma openDates_addRows {s : Store} {agent : RowId} {rows : List DailySystemStatistic}
    (h : ∀ r ∈ rows, r.agentNameId ≠ agent) :
      openDates (addRows rows s) agent = openDates s agent := by
  rw [openDates, vals_addRows, openDates]
  congr 1
  refine List.filter_congr fun r _ => ?_
  have hrows : (rows.all fun v => !(decide (r.id = v.dateId) && decide (v.agentNameId = agent)))
      = true := by
    simp only [List.all_eq_true]
    intro v hv
    simp [h v hv]
  rw [List.all_append, hrows, Bool.and_true]

/-! ### The run, undisturbed and disturbed -/

section Run

variable (env : ℕ → Option Fault) (s₀ : Store)

/-- The `n`-th call is the next one and none has been disturbed: some rows are
written, `statistics` are collected, the rows of `es` are still to be counted. -/
def Progress (es : List (Option DailySystemStatistic)) (statistics : List DailySystemStatistic)
    (n : ℕ) (c : Connection Store) : Prop :=
  Prog.Clean env n ∧ statistics.length < statisticsCapacity ∧
    ∃ past written, calls s₀ = past ++ plan statistics.length es ∧ past.length = n ∧
      todo s₀ = written ++ statistics ++ es.reduceOption ∧
      written.length = statisticsCapacity * past.count true ∧ c = ⟨addRows written s₀, none⟩

/-- A call was disturbed: the rows written before it are there, or the
transaction is left open. -/
def Disturbed (c : Connection Store) : Prop :=
  ∃ n, env n ≠ none ∧ Prog.Clean env n ∧
    (c.saved = none → c.data = addRows ((todo s₀).take (flushed s₀ n)) s₀)

variable {env s₀}

/-- What is written when the `n`-th call is disturbed. -/
lemma disturbed_of_written {n : ℕ} {past rest : List Bool}
    {written statistics rows : List DailySystemStatistic} (hclean : Prog.Clean env n)
    (hn : env n ≠ none) (hcalls : calls s₀ = past ++ rest) (hpast : past.length = n)
    (htodo : todo s₀ = written ++ statistics ++ rows)
    (hwritten : written.length = statisticsCapacity * past.count true) :
    Disturbed env s₀ ⟨addRows written s₀, none⟩ := by
  have hflushed : flushed s₀ n = written.length := by
    rw [flushed, hcalls, ← hpast, List.take_left, hwritten]
  refine ⟨n, hn, hclean, fun _ => ?_⟩
  rw [hflushed, htodo, List.append_assoc, List.take_left]

lemma Progress.disturbed {es : List (Option DailySystemStatistic)}
    {statistics : List DailySystemStatistic} {n : ℕ} {c : Connection Store}
    (h : Progress env s₀ es statistics n c) (hn : env n ≠ none) : Disturbed env s₀ c := by
  obtain ⟨hclean, -, past, written, hcalls, hpast, htodo, hwritten, rfl⟩ := h
  exact disturbed_of_written hclean hn hcalls hpast htodo hwritten

/-- The transaction of a flush is undone or left open, or the call goes on. -/
lemma triple_addDailySystemStatistics {rows : List DailySystemStatistic}
    {P : ℕ → Connection Store → Prop} {Q : Unit → ℕ → Connection Store → Prop}
    (h : ∀ n c, P n c → c.saved = none ∧ Prog.Clean env n ∧
      (env n = none → Q () (n + 1) ⟨addRows rows c.data, none⟩) ∧
      (env n ≠ none → Disturbed env s₀ c)) :
    Prog.Triple env P (Raw.addDailySystemStatistics rows) Q fun _ _ c => Disturbed env s₀ c := by
  refine triple_transaction fun n c hc => ?_
  obtain ⟨hidle, hclean, hok, herror⟩ := h n c hc
  refine ⟨hidle, fun hn => by rw [applyAll_inserts]; exact hok hn, fun hn => ⟨herror hn, ?_⟩⟩
  exact fun k _ => ⟨n, hn, hclean, fun hsaved => absurd hsaved (by simp)⟩

/-- Between the count of a row and the flush it may call for. -/
def Counted (env : ℕ → Option Fault) (s₀ : Store) (es : List (Option DailySystemStatistic))
    (statistics : List DailySystemStatistic) (n : ℕ) (c : Connection Store) : Prop :=
  Prog.Clean env n ∧ statistics.length ≤ statisticsCapacity ∧
    ∃ past written, calls s₀ = past ++ (if statistics.length = statisticsCapacity
        then true :: plan 0 es else plan statistics.length es) ∧ past.length = n ∧
      todo s₀ = written ++ statistics ++ es.reduceOption ∧
      written.length = statisticsCapacity * past.count true ∧ c = ⟨addRows written s₀, none⟩

lemma Progress.counted {es : List (Option DailySystemStatistic)}
    {statistics : List DailySystemStatistic} {row : DailySystemStatistic} {n : ℕ}
    {c : Connection Store} (h : Progress env s₀ (some row :: es) statistics n c)
    (hn : env n = none) : Counted env s₀ es (statistics ++ [row]) (n + 1) c := by
  obtain ⟨hclean, hshort, past, written, hcalls, hpast, htodo, hwritten, hc⟩ := h
  refine ⟨?_, by simpa using hshort, past ++ [false], written, ?_, by simp [hpast], ?_, ?_, hc⟩
  · exact hclean.succ hn
  · rw [hcalls, plan, List.length_append, List.length_singleton, List.append_assoc]
    rfl
  · rw [htodo, List.reduceOption_cons_of_some]
    simp
  · rw [hwritten, List.count_append]
    rfl

/-- One row. -/
lemma triple_collectStatistic (agent date command : RowId) (es : List (Option DailySystemStatistic))
    (statistics : List DailySystemStatistic) :
    Prog.Triple env (Progress env s₀ (some ⟨agent, date, command,
        dailyCount s₀.bash agent date command⟩ :: es) statistics)
      (collectStatistic agent date statistics command) (Progress env s₀ es)
      fun _ _ c => Disturbed env s₀ c := by
  set row : DailySystemStatistic := ⟨agent, date, command, dailyCount s₀.bash agent date command⟩
  rw [collectStatistic, Raw.countCommandsForDailySystemStatistic, Raw.queryBash]
  refine (triple_query (Q := fun count n c => count = row.summary ∧
    Counted env s₀ es (statistics ++ [row]) n c) fun n c hc => ⟨fun hn => ?_, hc.disturbed⟩).bind
      fun count => ?_
  · refine ⟨?_, hc.counted hn⟩
    obtain ⟨-, -, -, written, -, -, -, -, rfl⟩ := hc
    rfl
  refine Prog.Triple.assume fun hcount => ?_
  subst hcount
  by_cases hfull : (statistics ++ [row]).length = statisticsCapacity
  · -- the vector is full and flushed
    rw [if_pos hfull]
    refine (triple_addDailySystemStatistics (Q := fun _ => Progress env s₀ es [])
      fun n c hc => ?_).bind fun _ => Prog.Triple.pure fun _ _ => id
    obtain ⟨hclean, -, past, written, hcalls, hpast, htodo, hwritten, rfl⟩ := hc
    refine ⟨rfl, hclean, fun hn => ⟨?_, by decide, past ++ [true],
      written ++ (statistics ++ [row]), ?_, by simp [hpast], ?_, ?_, ?_⟩, fun hn => ?_⟩
    · exact hclean.succ hn
    · rw [hcalls, if_pos hfull, List.append_assoc]
      rfl
    · rw [htodo, List.append_nil]
    · rw [List.length_append, hwritten, hfull, List.count_append, List.count_singleton_self,
        Nat.mul_add, Nat.mul_one]
    · rw [addRows_append, addRows_append, addRows_append]
    · exact disturbed_of_written hclean hn hcalls hpast htodo hwritten
  · rw [if_neg hfull]
    refine Prog.Triple.pure fun n c hc => ?_
    obtain ⟨hclean, hle, past, written, hcalls, hrest⟩ := hc
    rw [if_neg hfull] at hcalls
    exact ⟨hclean, lt_of_le_of_ne hle hfull, past, written, hcalls, hrest⟩

/-- The rows of a date. -/
lemma triple_collectDate (agent date : RowId) (commands : List RowId)
    (es : List (Option DailySystemStatistic)) (statistics : List DailySystemStatistic) :
    Prog.Triple env (Progress env s₀ (commands.map (fun command => some ⟨agent, date, command,
        dailyCount s₀.bash agent date command⟩) ++ es) statistics)
      (commands.foldlM (collectStatistic agent date) statistics) (Progress env s₀ es)
      fun _ _ c => Disturbed env s₀ c :=
  Prog.Triple.foldlM (I := fun commands => Progress env s₀ (commands.map (fun command =>
      some ⟨agent, date, command, dailyCount s₀.bash agent date command⟩) ++ es))
    (fun command _ statistics => triple_collectStatistic agent date command _ statistics)
    commands statistics

lemma reduceOption_agentEvents (s : Store) (agents : List RowId) :
    (agentEvents s agents).reduceOption = agents.flatMap (agentTodo s) := by
  induction agents with
  | nil => rfl
  | cons agent agents ih =>
      show (none :: (agentTodo s agent).map some ++ agentEvents s agents).reduceOption = _
      rw [List.cons_append, List.reduceOption_cons_of_none, List.reduceOption_append, ih,
        List.flatMap_cons, List.reduceOption, List.filterMap_map]
      congr 1
      exact List.filterMap_some

lemma agentNameId_of_mem_agentTodo {s : Store} {agent : RowId} {r : DailySystemStatistic}
    (hr : r ∈ agentTodo s agent) : r.agentNameId = agent := by
  obtain ⟨date, -, hr⟩ := List.mem_flatMap.mp hr
  obtain ⟨command, -, rfl⟩ := List.mem_map.mp hr
  rfl

/-- The rows collected before an agent's turn are of other agents. -/
lemma agentNameId_ne_of_written {s : Store} {done agents : List RowId} {agent : RowId}
    {written statistics : List DailySystemStatistic}
    (hsplit : done ++ agent :: agents = s.agentNames.rows.map (·.id))
    (htodo : todo s = written ++ statistics ++ (agentEvents s (agent :: agents)).reduceOption) :
    ∀ r ∈ written, r.agentNameId ≠ agent := by
  have hnodup := s.agentNames.nodup_ids
  rw [todo, ← hsplit, List.flatMap_append, reduceOption_agentEvents] at htodo
  have hwritten : written ++ statistics = done.flatMap (agentTodo s) :=
    (List.append_cancel_right htodo).symm
  intro r hr hagent
  have hr : r ∈ done.flatMap (agentTodo s) := hwritten ▸ List.mem_append_left _ hr
  obtain ⟨agent', hdone, hr⟩ := List.mem_flatMap.mp hr
  rw [agentNameId_of_mem_agentTodo hr] at hagent
  subst hagent
  rw [← hsplit, List.nodup_append] at hnodup
  exact hnodup.2.2 agent' hdone agent' List.mem_cons_self rfl

/-- The dates of an agent, one after another. -/
lemma triple_collectDates (agent : RowId) (dates : List RowId)
    (es : List (Option DailySystemStatistic)) (statistics : List DailySystemStatistic) :
    Prog.Triple env (Progress env s₀ ((dates.flatMap fun date =>
        (s₀.bash.commands.rows.map (·.id)).map fun command => some ⟨agent, date, command,
          dailyCount s₀.bash agent date command⟩) ++ es) statistics)
      (dates.foldlM (fun statistics date => (s₀.bash.commands.rows.map (·.id)).foldlM
        (collectStatistic agent date) statistics) statistics) (Progress env s₀ es)
      fun _ _ c => Disturbed env s₀ c := by
  refine Prog.Triple.foldlM (I := fun dates => Progress env s₀ ((dates.flatMap fun date =>
      (s₀.bash.commands.rows.map (·.id)).map fun command => some ⟨agent, date, command,
        dailyCount s₀.bash agent date command⟩) ++ es)) (fun date dates statistics => ?_)
    dates statistics
  simp only [List.flatMap_cons, List.append_assoc]
  exact triple_collectDate agent date _ _ statistics

/-- One agent: the dates it finds open are those that were open at the start. -/
lemma triple_collectAgentStatistics (agent : RowId) (agents : List RowId)
    (statistics : List DailySystemStatistic) :
    Prog.Triple env
      (fun n c => (∃ done, done ++ agent :: agents = s₀.agentNames.rows.map (·.id)) ∧
        Progress env s₀ (agentEvents s₀ (agent :: agents)) statistics n c)
      (collectAgentStatistics (s₀.bash.commands.rows.map (·.id)) statistics agent)
      (fun statistics n c => (∃ done, done ++ agents = s₀.agentNames.rows.map (·.id)) ∧
        Progress env s₀ (agentEvents s₀ agents) statistics n c)
      fun _ _ c => Disturbed env s₀ c := by
  refine Prog.Triple.assume fun ⟨done, hsplit⟩ => ?_
  rw [collectAgentStatistics, Raw.getDateIdsWithoutCreatedDailySystemStatistic]
  refine (triple_query (Q := fun dates n c => dates = openDates s₀ agent ∧
    Progress env s₀ ((agentTodo s₀ agent).map some ++ agentEvents s₀ agents) statistics n c)
    fun n c hc => ⟨fun hn => ?_, hc.disturbed⟩).bind fun dates => ?_
  · obtain ⟨hclean, hshort, past, written, hcalls, hpast, htodo, hwritten, rfl⟩ := hc
    refine ⟨?_, ?_, hshort, past ++ [false], written, ?_, by simp [hpast], htodo, ?_, rfl⟩
    · rw [openDates_eq]
      exact openDates_addRows (agentNameId_ne_of_written hsplit htodo)
    · exact hclean.succ hn
    · rw [hcalls, List.append_assoc]
      rfl
    · rw [hwritten, List.count_append]
      rfl
  refine Prog.Triple.assume fun hdates => ?_
  subst hdates
  refine (triple_collectDates agent (openDates s₀ agent) (agentEvents s₀ agents)
    statistics).weaken (fun n c hc => ?_)
      (fun _ _ _ hc => ⟨⟨done ++ [agent], by simpa using hsplit⟩,
      hc⟩) fun _ _ _ => id
  simpa only [agentTodo, List.map_flatMap, List.map_map, Function.comp_def] using hc

/-- **A run of `CreateDailySystemStatistics` on an idle connection.** -/
lemma triple_createDailySystemStatistics :
    Prog.Triple env (fun n c => n = 0 ∧ c = ⟨s₀, none⟩) createDailySystemStatistics
      (fun _ _ c => c = ⟨addRows (todo s₀) s₀, none⟩) fun _ _ c => Disturbed env s₀ c := by
  have hstart : ∀ n c, (n = 0 ∧ c = (⟨s₀, none⟩ : Connection Store)) → env n ≠ none →
      Disturbed env s₀ c := by
    rintro _ _ ⟨rfl, rfl⟩ hn
    exact ⟨0, hn, Prog.clean_zero env, fun _ => by simp [flushed, addRows]⟩
  rw [createDailySystemStatistics, getAgentsIds]
  refine (triple_query (Q := fun agents n c => agents = s₀.agentNames.rows.map (·.id) ∧ n = 1 ∧
    Prog.Clean env 1 ∧ c = ⟨s₀, none⟩) fun n c hc => ⟨fun hn => ?_, hstart n c hc⟩).bind
      fun agents => ?_
  · obtain ⟨rfl, rfl⟩ := hc
    exact ⟨rfl, rfl, (Prog.clean_zero env).succ hn, rfl⟩
  rw [Raw.getAllCommandsIds, Raw.queryBash]
  refine (triple_query (Q := fun commands n c => agents = s₀.agentNames.rows.map (·.id) ∧
    commands = s₀.bash.commands.rows.map (·.id) ∧
    Progress env s₀ (agentEvents s₀ (s₀.agentNames.rows.map (·.id))) [] n c)
    fun n c hc => ⟨fun hn => ?_, fun hn => ?_⟩).bind fun commands => ?_
  · obtain ⟨hagents, rfl, hclean, rfl⟩ := hc
    refine ⟨hagents, rfl, ?_, by decide, [false, false], [], rfl, rfl, ?_, rfl, rfl⟩
    · exact hclean.succ hn
    · rw [reduceOption_agentEvents]
      rfl
  · obtain ⟨-, rfl, hclean, rfl⟩ := hc
    refine ⟨1, hn, hclean, fun _ => ?_⟩
    simp [flushed, calls, addRows]
  refine Prog.Triple.assume fun hagents => Prog.Triple.assume fun hcommands => ?_
  subst hagents
  subst hcommands
  refine Prog.Triple.bind (Q := fun statistics n c => Progress env s₀ [] statistics n c) ?_
    fun statistics => ?_
  · exact (Prog.Triple.foldlM (I := fun agents statistics n c =>
        (∃ done, done ++ agents = s₀.agentNames.rows.map (·.id)) ∧
        Progress env s₀ (agentEvents s₀ agents) statistics n c)
      (fun agent agents statistics => triple_collectAgentStatistics agent agents statistics) _
        []).weaken (fun n c hc => ⟨⟨[], rfl⟩, hc⟩) (fun _ _ _ hc => hc.2) fun _ _ _ => id
  · -- the rest of the vector is flushed, even if it is empty
    refine triple_addDailySystemStatistics fun n c hc => ?_
    have hdisturbed := hc.disturbed
    obtain ⟨hclean, -, past, written, -, -, htodo, -, rfl⟩ := hc
    refine ⟨rfl, hclean, fun _ => ?_, hdisturbed⟩
    rw [htodo, List.reduceOption_nil, List.append_nil, addRows_append]

end Run

end Slas.Bash
