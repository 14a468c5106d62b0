import Mathlib
import Slas.Lib.FirstCome
import Slas.Bash.AddLog

/-!
Daily user statistics,
`server/src/bash/analyzer/detail/daily_user_statistics_creator.cpp`.

* `createStatistics`: `DailyUserStatisticsCreator::CreateStatistics`, its loops
  one function each;
* `Extends`: what the run has added so far: statistics behind the old ones, each
  with one row for every command logged;
* `exec_createStatistics`: the run is a pass over agents and users that serves a
  user only while the user has no statistic (`FirstCome`), since
  `GetNotCalculatedDatesIdsFromLogs` joins on the user alone.
-/

namespace Slas.Bash

open Database

/-! ### The source -/

/-- The innermost loop: the rows of one statistic. -/
def createCommandStatistics (id agent user date : RowId) : DatabaseM Unit := do
  let commands ← Raw.getCommandsIdsFromLogs agent user date
  commands.forM fun command => do
    let summary ← Raw.countCommandsForUserDailyStatisticFromLogs agent date user command
    Raw.addDailyUserCommandStatistic { statisticId := id, commandId := command, summary }

/-- The statistic of one date. -/
def createStatistic (agent user date : RowId) : DatabaseM Unit := do
  Raw.addDailyUserStatistic
    { agentNameId := agent, userId := user, dateId := date, classification := .unknown }
  let id ← Raw.getDailyUserStatisticId agent user date
  createCommandStatistics id agent user date

/-- The loop over the dates of a user. -/
def createUserStatistics (currentDateId agent user : RowId) : DatabaseM Unit := do
  let dates ← Raw.getNotCalculatedDatesIdsFromLogs agent user
  dates.forM fun date =>
    if date = currentDateId then pure () else createStatistic agent user date

/-- The loop over the users of an agent. -/
def createAgentStatistics (currentDateId agent : RowId) : DatabaseM Unit := do
  let users ← Raw.getSystemUsersIdsFromLogs agent
  users.forM (createUserStatistics currentDateId agent)

/-- `DailyUserStatisticsCreator::CreateStatistics`. -/
def createStatistics (today : Date) : DatabaseM Unit := do
  let currentDateId ← getDateId today
  let agents ← getAgentsIds
  agents.forM (createAgentStatistics currentDateId)

/-! ### Logs and the statistics they call for -/

/-- Agent, user and date of a log. -/
def Log.day (l : Log) : RowId × RowId × RowId := (l.agentNameId, l.userId, l.dateId)

/-- Agent, user and date of a statistic. -/
def DailyUserStatistic.day (s : DailyUserStatistic) : RowId × RowId × RowId :=
  (s.agentNameId, s.userId, s.dateId)

/-- The commands logged on a day, each once. -/
def loggedCommands (t : Tables) (day : RowId × RowId × RowId) : List RowId :=
  ((t.logs.vals.filter fun l => l.day = day).map (·.commandId)).dedup

/-- How often a command was logged on a day. -/
def logCount (t : Tables) (day : RowId × RowId × RowId) (command : RowId) : ℕ :=
  t.logs.vals.countP fun l => l.day = day ∧ l.commandId = command

/-- The rows of a statistic: one for every command logged on its day. -/
def commandRows (t : Tables) (r : Row DailyUserStatistic) : List DailyUserCommandStatistic :=
  (loggedCommands t r.val.day).map fun command =>
    { statisticId := r.id, commandId := command, summary := logCount t r.val.day command }

/-- The dates on which a user has logs of an agent, each once. -/
def loggedDates (t : Tables) (agent user : RowId) : List RowId :=
  ((t.logs.vals.filter fun l => l.agentNameId = agent ∧ l.userId = user).map (·.dateId)).dedup

/-- The statistics a user of an agent gets if the user has none. -/
def requests (t : Tables) (currentDateId : RowId) :
    FirstCome.Requests (RowId × RowId) DailyUserStatistic RowId where
  items p := ((loggedDates t p.1 p.2).filter (· ≠ currentDateId)).map fun date =>
    { agentNameId := p.1, userId := p.2, dateId := date, classification := .unknown }
  owner := Prod.snd
  ownerOf := DailyUserStatistic.userId
  ownerOf_items := by
    intro p v hv
    obtain ⟨d, -, rfl⟩ := List.mem_map.mp hv
    rfl

/-- The agents and users in the order of the loops. -/
def agentUsers (s : Store) : List (RowId × RowId) :=
  (s.agentNames.rows.map (·.id)).flatMap fun agent =>
    (((s.bash.logs.vals.filter fun l => l.agentNameId = agent).map (·.userId)).dedup).map
      fun user => (agent, user)

/-! ### What the run has added so far -/

/-- The tables after part of a run: `new` are the statistics added. -/
structure Extends (t₀ t : Tables) (new : List (Row DailyUserStatistic)) : Prop where
  others : t = { t₀ with
    dailyUserStatistics := t.dailyUserStatistics
    dailyUserCommandStatistics := t.dailyUserCommandStatistics }
  rows : t.dailyUserStatistics.rows = t₀.dailyUserStatistics.rows ++ new
  known : ∀ v ∈ t.dailyUserCommandStatistics.vals, v.statisticId < t.dailyUserStatistics.nextId
  commands : ∀ r ∈ new,
    t.dailyUserCommandStatistics.vals.filter (·.statisticId = r.id) = commandRows t₀ r

lemma Extends.logs {t₀ t : Tables} {new : List (Row DailyUserStatistic)} (h : Extends t₀ t new) :
    t.logs = t₀.logs := by
  rw [h.others]

/-! ### The statements of the run -/

lemma exec_getCommandsIdsFromLogs (agent user date : RowId) (c : Connection Store) :
    (Raw.getCommandsIdsFromLogs agent user date).exec c
      = (.ok (loggedCommands c.data.bash (agent, user, date)), c) := by
  rw [Raw.getCommandsIdsFromLogs, Raw.exec_queryBash, loggedCommands]
  congr 5
  funext l
  simp only [Log.day, Prod.mk.injEq, and_comm]

lemma exec_countCommandsForUserDailyStatisticFromLogs (agent user date command : RowId)
    (c : Connection Store) :
    (Raw.countCommandsForUserDailyStatisticFromLogs agent date user command).exec c
      = (.ok (logCount c.data.bash (agent, user, date) command : ℤ), c) := by
  rw [Raw.countCommandsForUserDailyStatisticFromLogs, Raw.exec_queryBash, logCount]
  congr 4
  funext l
  simp only [Log.day, Prod.mk.injEq, decide_eq_decide]
  tauto

/-- What the innermost loop makes of the tables. -/
def addCommandRows (t : Tables) (r : Row DailyUserStatistic) : Tables :=
  { t with dailyUserCommandStatistics :=
      (commandRows t r).foldl Table.insert t.dailyUserCommandStatistics }

lemma exec_createCommandStatistics (id agent user date : RowId) (cl : Classification)
    (c : Connection Store) : (createCommandStatistics id agent user date).exec c
      = (.ok (), { c with data := { c.data with
          bash := addCommandRows c.data.bash ⟨id, agent, user, date, cl⟩ } }) := by
  set day := (agent, user, date) with hday
  have hloop := Prog.exec_forM (loggedCommands c.data.bash day)
    (fun command => do
      let summary ← Raw.countCommandsForUserDailyStatisticFromLogs agent date user command
      Raw.addDailyUserCommandStatistic { statisticId := id, commandId := command, summary })
    (fun done c' => c' = { c with data := { c.data with bash := { c.data.bash with
      dailyUserCommandStatistics := (done.map fun command =>
        ({ statisticId := id, commandId := command, summary := logCount c.data.bash day command } :
          DailyUserCommandStatistic)).foldl Table.insert
            c.data.bash.dailyUserCommandStatistics } } })
    (fun done command _ c' hc' => by
      subst hc'
      refine ⟨_, ?_, rfl⟩
      rw [Prog.exec_bind_ok (exec_countCommandsForUserDailyStatisticFromLogs ..),
        Raw.addDailyUserCommandStatistic, Raw.exec_writeBash]
      simp only [List.map_append, List.map_cons, List.map_nil, List.foldl_append, List.foldl_cons,
        List.foldl_nil]
      rfl)
    (s := c) rfl
  obtain ⟨c', hrun, rfl⟩ := hloop
  rw [createCommandStatistics, Prog.exec_bind_ok (exec_getCommandsIdsFromLogs ..), hrun]
  rfl

/-- What one statistic makes of the tables. -/
def addStatistic (t : Tables) (v : DailyUserStatistic) : Tables :=
  addCommandRows { t with dailyUserStatistics := t.dailyUserStatistics.insert v }
    ⟨t.dailyUserStatistics.nextId, v⟩

/-- The first statistic of a day is found under the id it was given. -/
lemma findDailyUserStatistic_insert {t : Tables} {v : DailyUserStatistic}
    (hnew : ∀ w ∈ t.dailyUserStatistics.vals, w.day ≠ v.day) :
    Raw.findDailyUserStatistic { t with dailyUserStatistics := t.dailyUserStatistics.insert v }
      v.agentNameId v.userId v.dateId = some t.dailyUserStatistics.nextId := by
  have hnone : t.dailyUserStatistics.rows.find? (fun r => r.val.agentNameId = v.agentNameId ∧
      r.val.userId = v.userId ∧ r.val.dateId = v.dateId) = none := by
    refine List.find?_eq_none.mpr fun r hr hday => ?_
    rw [decide_eq_true_eq] at hday
    refine hnew r.val (List.mem_map_of_mem hr) ?_
    simp only [DailyUserStatistic.day, Prod.mk.injEq]
    exact hday
  simp only [Raw.findDailyUserStatistic, Table.insert_rows, List.find?_append, hnone,
    Option.none_or]
  simp

lemma exec_createStatistic {agent user date : RowId} {c : Connection Store}
    (hnew : ∀ w ∈ c.data.bash.dailyUserStatistics.vals, w.day ≠ (agent, user, date)) :
    (createStatistic agent user date).exec c = (.ok (), { c with data := { c.data with
      bash := addStatistic c.data.bash ⟨agent, user, date, .unknown⟩ } }) := by
  rw [createStatistic, Raw.addDailyUserStatistic, Prog.exec_bind_ok (Raw.exec_writeBash ..),
    Raw.getDailyUserStatisticId, Prog.exec_bind_ok (exec_queryFirst _
      (findDailyUserStatistic_insert (v := ⟨agent, user, date, .unknown⟩) hnew)),
    exec_createCommandStatistics _ _ _ _ .unknown]
  rfl

lemma commandRows_congr {t t₀ : Tables} (h : t.logs = t₀.logs) (r : Row DailyUserStatistic) :
    commandRows t r = commandRows t₀ r := by
  simp only [commandRows, loggedCommands, logCount, h]

/-- One more statistic. -/
lemma Extends.addStatistic {t₀ t : Tables} {new : List (Row DailyUserStatistic)}
    (h : Extends t₀ t new) (v : DailyUserStatistic) :
    Extends t₀ (addStatistic t v) (new ++ [⟨t.dailyUserStatistics.nextId, v⟩]) := by
  set r₀ : Row DailyUserStatistic := ⟨t.dailyUserStatistics.nextId, v⟩ with hr₀
  have hvals : (Bash.addStatistic t v).dailyUserCommandStatistics.vals
      = t.dailyUserCommandStatistics.vals ++ commandRows t₀ r₀ := by
    rw [← commandRows_congr h.logs r₀]
    exact Table.foldl_insert_vals _ _
  have hid : ∀ w ∈ commandRows t₀ r₀, w.statisticId = t.dailyUserStatistics.nextId := by
    intro w hw
    obtain ⟨command, -, rfl⟩ := List.mem_map.mp hw
    rfl
  constructor
  · rw [h.others]
    rfl
  · show (t.dailyUserStatistics.insert v).rows = _
    rw [Table.insert_rows, h.rows, List.append_assoc]
  · intro w hw
    show _ < (t.dailyUserStatistics.insert v).nextId
    rw [Table.nextId_insert]
    rw [hvals, List.mem_append] at hw
    rcases hw with hw | hw
    · exact (h.known w hw).trans (lt_add_one _)
    · rw [hid w hw]
      exact lt_add_one _
  · intro r hr
    rw [hvals, List.filter_append]
    rcases List.mem_append.mp hr with hr | hr
    · -- the rows of an earlier statistic have a smaller id
      have hrow : r ∈ t.dailyUserStatistics.rows := h.rows ▸ List.mem_append_right _ hr
      have hne : ∀ w ∈ commandRows t₀ r₀, ¬decide (w.statisticId = r.id) = true := by
        intro w hw heq
        rw [decide_eq_true_eq, hid w hw] at heq
        exact (Table.lt_nextId hrow).ne' heq
      rw [List.filter_eq_nil_iff.mpr hne, List.append_nil, h.commands r hr]
    · rw [List.mem_singleton] at hr
      subst hr
      have hnone : ∀ w ∈ t.dailyUserCommandStatistics.vals,
          ¬decide (w.statisticId = r₀.id) = true := by
        intro w hw heq
        rw [decide_eq_true_eq] at heq
        exact (h.known w hw).ne heq
      rw [List.filter_eq_nil_iff.mpr hnone, List.nil_append, List.filter_eq_self]
      exact fun w hw => by simpa using hid w hw

/-! ### The whole run -/

/-- The state after some requests have been served. -/
structure Served (s₀ : Store) (currentDateId : RowId) (served : List DailyUserStatistic)
    (c : Connection Store) : Prop where
  idle : c.saved = none
  others : c.data = { s₀ with bash := c.data.bash }
  vals : c.data.bash.dailyUserStatistics.vals = served
  extends_ : ∃ new, Extends s₀.bash c.data.bash new

/-- The join on the user alone: no date is pending once the user has a statistic. -/
lemma exec_getNotCalculatedDatesIdsFromLogs (agent user : RowId) (c : Connection Store) :
    (Raw.getNotCalculatedDatesIdsFromLogs agent user).exec c
      = (.ok (if ∃ v ∈ c.data.bash.dailyUserStatistics.vals, v.userId = user then []
          else loggedDates c.data.bash agent user), c) := by
  set t := c.data.bash with ht
  have hjoin := Select.map_filter_isNone_leftJoin t.logs.vals t.dailyUserStatistics.vals
    (fun l s => l.userId = s.userId) fun l => l.agentNameId = agent && l.userId = user
  have hdates : (((Select.leftJoin t.logs.vals t.dailyUserStatistics.vals
      fun l s => l.userId = s.userId).filter fun p =>
        p.2.isNone && p.1.agentNameId = agent && p.1.userId = user).map fun p => p.1.dateId)
      = (t.logs.vals.filter fun l => (l.agentNameId = agent && l.userId = user) &&
          t.dailyUserStatistics.vals.all fun v => !decide (l.userId = v.userId)).map
            (·.dateId) := by
    rw [← hjoin, List.map_map]
    simp only [Bool.and_assoc, Function.comp_def]
  rw [Raw.getNotCalculatedDatesIdsFromLogs, Raw.exec_queryBash, hdates]
  congr 2
  split_ifs with hany
  · obtain ⟨v, hv, huser⟩ := hany
    have hnil : (t.logs.vals.filter fun l => (l.agentNameId = agent && l.userId = user) &&
        t.dailyUserStatistics.vals.all fun v => !decide (l.userId = v.userId)) = [] := by
      refine List.filter_eq_nil_iff.mpr fun l _ hl => ?_
      simp only [Bool.and_eq_true, decide_eq_true_eq, List.all_eq_true, Bool.not_eq_true',
        decide_eq_false_iff_not] at hl
      exact hl.2 v hv (hl.1.2.trans huser.symm)
    rw [hnil]
    rfl
  · push Not at hany
    rw [loggedDates]
    congr 2
    refine List.filter_congr fun l _ => ?_
    rw [Bool.eq_iff_iff]
    simp only [Bool.and_eq_true, decide_eq_true_eq, List.all_eq_true, Bool.not_eq_true',
      decide_eq_false_iff_not, and_iff_left_iff_imp]
    rintro ⟨-, hl⟩ v hv heq
    exact hany v hv (heq.symm.trans hl)

lemma Served.addStatistic {s₀ : Store} {currentDateId : RowId} {served : List DailyUserStatistic}
    {c : Connection Store} (h : Served s₀ currentDateId served c) (v : DailyUserStatistic) :
    Served s₀ currentDateId (served ++ [v])
      { c with data := { c.data with bash := addStatistic c.data.bash v } } where
  idle := h.idle
  others := by rw [h.others]
  vals := by
    show (c.data.bash.dailyUserStatistics.insert v).vals = _
    rw [Table.insert_vals, h.vals]
  extends_ := h.extends_.elim fun _ hnew => ⟨_, hnew.addStatistic v⟩

/-- The loop over the dates of a user serves the request of the user. -/
lemma exec_createUserStatistics {s₀ : Store} {currentDateId : RowId}
    {served : List DailyUserStatistic} {c : Connection Store} (h : Served s₀ currentDateId served c)
    (agent user : RowId) : ∃ c', (createUserStatistics currentDateId agent user).exec c
      = (.ok (), c') ∧ Served s₀ currentDateId
        (FirstCome.serve (requests s₀.bash currentDateId) served (agent, user)) c' := by
  rw [createUserStatistics,
    Prog.exec_bind_ok (exec_getNotCalculatedDatesIdsFromLogs agent user c), h.vals]
  by_cases hany : ∃ v ∈ served, v.userId = user
  · exact ⟨c, by rw [if_pos hany]; rfl, by rwa [FirstCome.serve_of_owner hany]⟩
  · have hlogs : c.data.bash.logs = s₀.bash.logs := h.extends_.elim fun _ hnew => hnew.logs
    have hdates : loggedDates c.data.bash agent user = loggedDates s₀.bash agent user := by
      rw [loggedDates, hlogs, ← loggedDates]
    rw [if_neg hany, hdates]
    push Not at hany
    rw [FirstCome.serve_of_not_owner hany]
    let mk (date : RowId) : DailyUserStatistic := ⟨agent, user, date, .unknown⟩
    refine Prog.exec_forM (loggedDates s₀.bash agent user) _
      (fun done c' => Served s₀ currentDateId
        (served ++ (done.filter (· ≠ currentDateId)).map mk) c')
      (fun done date hpre c' hc' => ?_) (by simpa using h)
    by_cases hcur : date = currentDateId
    · exact ⟨c', by rw [if_pos hcur]; rfl, by simpa [hcur] using hc'⟩
    · -- the dates are distinct and the user had no statistic before the loop
      have hnodup : (done ++ [date]).Nodup := (List.nodup_dedup _).sublist hpre.sublist
      have hnew : ∀ w ∈ c'.data.bash.dailyUserStatistics.vals, w.day ≠ (agent, user, date) := by
        intro w hw hday
        simp only [DailyUserStatistic.day, Prod.mk.injEq] at hday
        rw [hc'.vals, List.mem_append] at hw
        rcases hw with hw | hw
        · exact hany w hw hday.2.1
        · obtain ⟨d, hd, rfl⟩ := List.mem_map.mp hw
          have hdone := (List.mem_filter.mp hd).1
          exact (List.nodup_append.mp hnodup).2.2 d hdone date List.mem_cons_self hday.2.2
      refine ⟨_, by rw [if_neg hcur, exec_createStatistic hnew], ?_⟩
      have hserved := hc'.addStatistic (mk date)
      simpa [hcur] using hserved

/-- The loop over the users of an agent. -/
lemma exec_createAgentStatistics {s₀ : Store} {currentDateId : RowId}
    {served : List DailyUserStatistic} {c : Connection Store} (h : Served s₀ currentDateId served c)
    (agent : RowId) : ∃ c', (createAgentStatistics currentDateId agent).exec c = (.ok (), c') ∧
      Served s₀ currentDateId (FirstCome.serveAll (requests s₀.bash currentDateId) served
        ((((s₀.bash.logs.vals.filter fun l => l.agentNameId = agent).map
          (·.userId)).dedup).map fun user => (agent, user))) c' := by
  have hlogs : c.data.bash.logs = s₀.bash.logs := h.extends_.elim fun _ hnew => hnew.logs
  rw [createAgentStatistics, Raw.getSystemUsersIdsFromLogs,
    Prog.exec_bind_ok (Raw.exec_queryBash ..), hlogs]
  refine Prog.exec_forM _ _ (fun done c' => Served s₀ currentDateId
    (FirstCome.serveAll (requests s₀.bash currentDateId) served
      (done.map fun user => (agent, user))) c') (fun done user _ c' hc' => ?_) h
  obtain ⟨c'', hrun, hserved⟩ := exec_createUserStatistics hc' agent user
  exact ⟨c'', hrun, by simpa [FirstCome.serveAll] using hserved⟩

/-- **The run serves the users of all agents, one after another.** -/
lemma exec_createStatistics {s : Store} (today : Date)
    (hknown : ∀ v ∈ s.bash.dailyUserCommandStatistics.vals,
      v.statisticId < s.bash.dailyUserStatistics.nextId) :
    ∃ c', (createStatistics today).exec ⟨s, none⟩ = (.ok (), c') ∧
      Served s ((s.dates.idOf? today).getD (-1))
        (FirstCome.serveAll (requests s.bash ((s.dates.idOf? today).getD (-1)))
          s.bash.dailyUserStatistics.vals (agentUsers s)) c' := by
  set currentDateId := (s.dates.idOf? today).getD (-1) with hcur
  rw [createStatistics, Prog.exec_bind_ok (exec_getDateId ..),
    Prog.exec_bind_ok (exec_getAgentsIds ..)]
  have hstart : Served s currentDateId s.bash.dailyUserStatistics.vals ⟨s, none⟩ :=
    ⟨rfl, rfl, rfl, [], rfl, by simp, hknown, by simp⟩
  refine Prog.exec_forM _ _ (fun done c' => Served s currentDateId
    (FirstCome.serveAll (requests s.bash currentDateId) s.bash.dailyUserStatistics.vals
      (done.flatMap fun agent => (((s.bash.logs.vals.filter fun l => l.agentNameId = agent).map
        (·.userId)).dedup).map fun user => (agent, user))) c')
    (fun done agent _ c' hc' => ?_) hstart
  obtain ⟨c'', hrun, hserved⟩ := exec_createAgentStatistics hc' agent
  exact ⟨c'', hrun, by simpa [FirstCome.serveAll] using hserved⟩

end Slas.Bash
