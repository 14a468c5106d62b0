import Mathlib
import Slas.Bash.DailyUserStatistics

/-!
When `DailyUserStatisticsCreator::CreateStatistics` leaves nothing out.

* `Reachable`: the states after any logs and analyses;
* `Complete`: what an analysis should achieve;
* `Ready`: no user with a day still to be calculated has a statistic already or
  has such days of two agents;
* `create_statistics_complete_iff`: an analysis of a reachable state achieves it
  exactly if the state is ready.

`Consistent` is the invariant: logs refer to agents and dates, no day has two
statistics, and command statistics refer to statistics that were there.
-/

namespace Slas.Bash

open Database

/-! ### Runs -/

/-- One step of a run. -/
inductive Step where
  | addLog (logEntry : BashLogEntry)
  | createStatistics (today : Date)

/-- The code of a step. -/
def Step.code : Step → DatabaseM Unit
  | addLog logEntry => Scripts.addLog logEntry
  | createStatistics today => Bash.createStatistics today

/-- The states between the steps of runs on a database that starts empty. -/
inductive Reachable : Store → Prop where
  | empty : Reachable Store.empty
  | step {s s' : Store} (st : Step) : Reachable s →
      st.code.exec ⟨s, none⟩ = (.ok (), ⟨s', none⟩) → Reachable s'

/-! ### The property and its condition -/

/-- What an analysis on the day `today` should have made of `s`. -/
structure Complete (today : Date) (s s' : Store) : Prop where
  one : ∀ l ∈ s'.bash.logs.vals, s'.dates.get? l.dateId ≠ some today →
    s'.bash.dailyUserStatistics.vals.countP (·.day = l.day) = 1
  commands : ∀ r ∈ s'.bash.dailyUserStatistics.rows, r ∉ s.bash.dailyUserStatistics.rows →
    (s'.bash.dailyUserCommandStatistics.vals.filter (·.statisticId = r.id)).Perm
      (commandRows s'.bash r)
  notToday : ∀ r ∈ s'.bash.dailyUserStatistics.rows, r ∉ s.bash.dailyUserStatistics.rows →
    s'.dates.get? r.val.dateId ≠ some today

/-- The day of a log is over and has no statistic. -/
def Pending (today : Date) (s : Store) (l : Log) : Prop :=
  s.dates.get? l.dateId ≠ some today ∧ ∀ v ∈ s.bash.dailyUserStatistics.vals, v.day ≠ l.day

instance (today : Date) (s : Store) (l : Log) : Decidable (Pending today s l) :=
  inferInstanceAs (Decidable (_ ∧ _))

/-- A user with a pending day has no statistic at all, and no pending day of
another agent. -/
def Ready (today : Date) (s : Store) : Prop :=
  ∀ l ∈ s.bash.logs.vals, Pending today s l →
    (∀ v ∈ s.bash.dailyUserStatistics.vals, v.userId ≠ l.userId) ∧
      ∀ l' ∈ s.bash.logs.vals, Pending today s l' → l'.userId = l.userId →
        l'.agentNameId = l.agentNameId

instance (today : Date) (s : Store) : Decidable (Ready today s) :=
  inferInstanceAs (Decidable (∀ l ∈ _, _))

/-! ### The invariant of the runs -/

/-- What holds between the steps of every run. -/
structure Consistent (s : Store) : Prop where
  agents : ∀ l ∈ s.bash.logs.vals, ∃ r ∈ s.agentNames.rows, r.id = l.agentNameId
  dates : ∀ l ∈ s.bash.logs.vals, ∃ date, s.dates.get? l.dateId = some date
  days : (s.bash.dailyUserStatistics.vals.map (·.day)).Nodup
  known : ∀ v ∈ s.bash.dailyUserCommandStatistics.vals,
    v.statisticId < s.bash.dailyUserStatistics.nextId

lemma consistent_empty : Consistent Store.empty := by
  constructor <;> simp [Store.empty, Tables.empty, Table.vals]

lemma Consistent.addEntry {s : Store} (h : Consistent s) (e : BashLogEntry) :
    Consistent (addEntry e s) := by
  rw [Bash.addEntry]
  split_ifs
  · exact h
  · refine ⟨?_, ?_, h.days, h.known⟩
    · intro l hl
      rw [Table.insert_vals, List.mem_append, List.mem_singleton] at hl
      rcases hl with hl | rfl
      · obtain ⟨r, hr, hid⟩ := h.agents l hl
        exact ⟨r, UniqueTable.mem_insertOrIgnore _ hr, hid⟩
      · have hget := UniqueTable.get?_idOf?_insertOrIgnore s.agentNames e.agentName
        exact ⟨_, Table.get?_eq_some.mp hget, rfl⟩
    · intro l hl
      rw [Table.insert_vals, List.mem_append, List.mem_singleton] at hl
      rcases hl with hl | rfl
      · obtain ⟨date, hdate⟩ := h.dates l hl
        exact ⟨date, UniqueTable.get?_insertOrIgnore _ hdate⟩
      · exact ⟨_, UniqueTable.get?_idOf?_insertOrIgnore s.dates e.utcTime.date⟩

/-! ### One analysis -/

lemma mem_loggedDates {t : Tables} {agent user date : RowId} :
    date ∈ loggedDates t agent user ↔ ∃ l ∈ t.logs.vals, l.day = (agent, user, date) := by
  simp only [loggedDates, List.mem_dedup, List.mem_map, List.mem_filter, decide_eq_true_eq,
    Log.day, Prod.mk.injEq]
  tauto

/-- The statistic `CreateStatistics` adds for a day. -/
def statisticOf (l : Log) : DailyUserStatistic :=
  ⟨l.agentNameId, l.userId, l.dateId, .unknown⟩

lemma mem_requests {t : Tables} {currentDateId : RowId} {p : RowId × RowId}
    {v : DailyUserStatistic} : v ∈ (requests t currentDateId).items p ↔
      ∃ l ∈ t.logs.vals, l.dateId ≠ currentDateId ∧ (l.agentNameId, l.userId) = p ∧
        v = statisticOf l := by
  obtain ⟨agent, user⟩ := p
  simp only [requests, List.mem_map, List.mem_filter, mem_loggedDates, ne_eq, decide_not,
    Bool.not_eq_true', decide_eq_false_iff_not]
  constructor
  · rintro ⟨d, ⟨⟨l, hl, hday⟩, hcur⟩, rfl⟩
    simp only [Log.day, Prod.mk.injEq] at hday
    obtain ⟨rfl, rfl, rfl⟩ := hday
    exact ⟨l, hl, hcur, rfl, rfl⟩
  · rintro ⟨l, hl, hcur, hp, rfl⟩
    rw [Prod.mk.injEq] at hp
    obtain ⟨rfl, rfl⟩ := hp
    exact ⟨l.dateId, ⟨⟨l, hl, rfl⟩, hcur⟩, rfl⟩

lemma nodup_requests (t : Tables) (currentDateId : RowId) (p : RowId × RowId) :
    (((requests t currentDateId).items p).map (·.day)).Nodup := by
  rw [requests, List.map_map]
  refine ((List.nodup_dedup _).filter _).map fun d d' h => ?_
  simpa [DailyUserStatistic.day] using h

lemma mem_agentUsers {s : Store} (h : Consistent s) {l : Log} (hl : l ∈ s.bash.logs.vals) :
    (l.agentNameId, l.userId) ∈ agentUsers s := by
  obtain ⟨r, hr, hid⟩ := h.agents l hl
  simp only [agentUsers, List.mem_flatMap, List.mem_map, List.mem_dedup, List.mem_filter,
    decide_eq_true_eq, Prod.mk.injEq]
  exact ⟨l.agentNameId, ⟨r, hr, hid⟩, l.userId, ⟨l, ⟨hl, rfl⟩, rfl⟩, rfl, rfl⟩

/-- The id of today tells the logs of today. -/
lemma dateId_eq_iff {s : Store} (h : Consistent s) {l : Log} (hl : l ∈ s.bash.logs.vals)
    (today : Date) :
    l.dateId = (s.dates.idOf? today).getD (-1) ↔ s.dates.get? l.dateId = some today := by
  obtain ⟨date, hdate⟩ := h.dates l hl
  constructor
  · intro heq
    cases hid : s.dates.idOf? today with
    | none =>
        rw [hid, Option.getD_none] at heq
        rw [heq, Table.get?_neg_one] at hdate
        exact absurd hdate (by simp)
    | some i =>
        obtain ⟨d, hd, hkey⟩ := UniqueTable.idOf?_eq_some.mp hid
        rw [hid, Option.getD_some] at heq
        rw [heq]
        exact Table.get?_eq_some.mpr ((show d = today from hkey) ▸ hd)
  · intro hget
    have hid : s.dates.idOf? today = some l.dateId :=
      UniqueTable.idOf?_eq_some.mpr ⟨today, Table.get?_eq_some.mp hget, rfl⟩
    rw [hid, Option.getD_some]

/-- An analysis returns, and serves the users as far as it does. -/
lemma exists_served {s : Store} (h : Consistent s) (today : Date) :
    ∃ s', (createStatistics today).exec ⟨s, none⟩ = (.ok (), ⟨s', none⟩) ∧
      Served s ((s.dates.idOf? today).getD (-1))
        (FirstCome.serveAll (requests s.bash ((s.dates.idOf? today).getD (-1)))
          s.bash.dailyUserStatistics.vals (agentUsers s)) ⟨s', none⟩ := by
  obtain ⟨⟨s', saved⟩, hrun, hserved⟩ := exec_createStatistics today h.known
  obtain rfl : saved = none := hserved.idle
  exact ⟨s', hrun, hserved⟩

section Analysis

variable {s s' : Store} {today : Date}

/-- The statistics after an analysis have distinct days. -/
lemma nodup_served (h : Consistent s) (currentDateId : RowId) :
    ((FirstCome.serveAll (requests s.bash currentDateId) s.bash.dailyUserStatistics.vals
      (agentUsers s)).map (·.day)).Nodup := by
  refine FirstCome.nodup_serveAll (fun v w hvw => ?_) (nodup_requests _ _) h.days
  simp only [DailyUserStatistic.day, Prod.mk.injEq] at hvw
  exact hvw.2.1

lemma Consistent.served (h : Consistent s) {currentDateId : RowId}
    (hserved : Served s currentDateId (FirstCome.serveAll (requests s.bash currentDateId)
      s.bash.dailyUserStatistics.vals (agentUsers s)) ⟨s', none⟩) : Consistent s' := by
  obtain ⟨new, hnew⟩ := hserved.extends_
  have hlogs : s'.bash.logs = s.bash.logs := hnew.logs
  have hothers : s' = { s with bash := s'.bash } := hserved.others
  constructor
  · rw [hlogs, hothers]
    exact h.agents
  · rw [hlogs, hothers]
    exact h.dates
  · rw [show s'.bash.dailyUserStatistics.vals = _ from hserved.vals]
    exact nodup_served h currentDateId
  · exact hnew.known

/-- A day occurs once among distinct days exactly if it occurs. -/
lemma countP_day_eq_one_iff {vals : List DailyUserStatistic} (h : (vals.map (·.day)).Nodup)
    (day : RowId × RowId × RowId) :
    vals.countP (·.day = day) = 1 ↔ ∃ v ∈ vals, v.day = day := by
  have hcount : vals.countP (·.day = day) = (vals.map (·.day)).count day := by
    rw [List.count, List.countP_map]
    exact List.countP_congr fun v _ => by simp
  rw [hcount]
  constructor
  · intro h1
    have hmem : day ∈ vals.map (·.day) := List.count_pos_iff.mp (by omega)
    simpa using hmem
  · rintro ⟨v, hv, rfl⟩
    exact List.count_eq_one_of_mem h (List.mem_map_of_mem hv)

lemma owner_of_mem_requests {t : Tables} {currentDateId : RowId} {p : RowId × RowId}
    {v : DailyUserStatistic} (hv : v ∈ (requests t currentDateId).items p) :
    (v.agentNameId, v.userId) = p := by
  obtain ⟨l, -, -, hp, rfl⟩ := mem_requests.mp hv
  exact hp

/-- Every pending day gets its statistic exactly if the state is ready. -/
lemma served_iff_ready (h : Consistent s) (today : Date) :
    (∀ l ∈ s.bash.logs.vals, s.dates.get? l.dateId ≠ some today →
      ∃ v ∈ FirstCome.serveAll (requests s.bash ((s.dates.idOf? today).getD (-1)))
        s.bash.dailyUserStatistics.vals (agentUsers s), v.day = l.day) ↔ Ready today s := by
  set currentDateId := (s.dates.idOf? today).getD (-1) with hcur
  constructor
  · intro hall l hl hpending
    -- the statistic of a pending day is new, and its user had none
    have hnew : ∀ l' ∈ s.bash.logs.vals, Pending today s l' → ∃ v ∈ FirstCome.serveAll
        (requests s.bash currentDateId) s.bash.dailyUserStatistics.vals (agentUsers s),
        v.day = l'.day ∧ ∀ w ∈ s.bash.dailyUserStatistics.vals, w.userId ≠ l'.userId := by
      intro l' hl' hpending'
      obtain ⟨v, hv, hday⟩ := hall l' hl' hpending'.1
      rcases FirstCome.of_mem_serveAll hv with hold | ⟨p, -, hvp, hno⟩
      · exact absurd hday (hpending'.2 v hold)
      · refine ⟨v, hv, hday, fun w hw huser => hno w hw ?_⟩
        have hp := owner_of_mem_requests hvp
        simp only [DailyUserStatistic.day, Log.day, Prod.mk.injEq] at hday
        calc w.userId = l'.userId := huser
          _ = v.userId := hday.2.1.symm
          _ = p.2 := congrArg Prod.snd hp
    obtain ⟨v, hv, hday, hno⟩ := hnew l hl hpending
    refine ⟨hno, fun l' hl' hpending' huser => ?_⟩
    obtain ⟨v', hv', hday', -⟩ := hnew l' hl' hpending'
    simp only [DailyUserStatistic.day, Log.day, Prod.mk.injEq] at hday hday'
    obtain ⟨p, -, hvp, hvp'⟩ := FirstCome.same_request hno hv hv' hday.2.1
      (hday'.2.1.trans huser)
    have hagent := (owner_of_mem_requests hvp').trans (owner_of_mem_requests hvp).symm
    rw [Prod.mk.injEq] at hagent
    calc l'.agentNameId = v'.agentNameId := hday'.1.symm
      _ = v.agentNameId := hagent.1
      _ = l.agentNameId := hday.1
  · intro hready l hl hdate
    by_cases hold : ∃ v ∈ s.bash.dailyUserStatistics.vals, v.day = l.day
    · obtain ⟨v, hv, hday⟩ := hold
      exact ⟨v, FirstCome.subset_serveAll hv, hday⟩
    · push Not at hold
      obtain ⟨hno, honly⟩ := hready l hl ⟨hdate, hold⟩
      have hne : l.dateId ≠ currentDateId := fun heq => hdate ((dateId_eq_iff h hl today).mp heq)
      refine ⟨statisticOf l, FirstCome.mem_serveAll (i := (l.agentNameId, l.userId)) hno
        (mem_agentUsers h hl) (mem_requests.mpr ⟨l, hl, hne, rfl, rfl⟩) ?_, rfl⟩
      intro p _ howner hitems
      obtain ⟨v, hv⟩ := List.exists_mem_of_ne_nil _ hitems
      obtain ⟨l', hl', hcur', rfl, rfl⟩ := mem_requests.mp hv
      have hpending : Pending today s l' := by
        refine ⟨fun hget => hcur' ((dateId_eq_iff h hl' today).mpr hget), fun w hw hday => ?_⟩
        simp only [DailyUserStatistic.day, Log.day, Prod.mk.injEq] at hday
        exact hno w hw (hday.2.1.trans howner)
      exact Prod.ext (honly l' hl' hpending howner) howner

/-- A row that was not there before comes from a request. -/
lemma request_of_new_row (h : Consistent s) {currentDateId : RowId}
    (hserved : Served s currentDateId (FirstCome.serveAll (requests s.bash currentDateId)
      s.bash.dailyUserStatistics.vals (agentUsers s)) ⟨s', none⟩)
    {r : Row DailyUserStatistic} (hr : r ∈ s'.bash.dailyUserStatistics.rows)
    (hold : r ∉ s.bash.dailyUserStatistics.rows) :
    ∃ l ∈ s.bash.logs.vals, l.dateId ≠ currentDateId ∧
      (l.agentNameId, l.userId) = (r.val.agentNameId, r.val.userId) ∧ r.val = statisticOf l := by
  obtain ⟨new, hnew⟩ := hserved.extends_
  have hval : r.val ∈ s'.bash.dailyUserStatistics.vals := List.mem_map_of_mem hr
  rw [show s'.bash.dailyUserStatistics.vals = _ from hserved.vals] at hval
  rcases FirstCome.of_mem_serveAll hval with hmem | ⟨p, -, hvp, -⟩
  · -- two rows of one day are the same row
    obtain ⟨r₀, hr₀, hr₀val⟩ := List.mem_map.mp hmem
    have hr₀' : r₀ ∈ s'.bash.dailyUserStatistics.rows := hnew.rows ▸ List.mem_append_left _ hr₀
    have hnodup := (h.served hserved).days
    rw [Table.vals, List.map_map] at hnodup
    have := List.inj_on_of_nodup_map hnodup hr₀' hr (congrArg DailyUserStatistic.day hr₀val)
    exact absurd (this ▸ hr₀) hold
  · have hp := owner_of_mem_requests hvp
    rw [hp]
    exact mem_requests.mp hvp

/-- The new statistics are as they should be in any case. -/
lemma complete_iff_served (h : Consistent s) (today : Date)
    (hserved : Served s ((s.dates.idOf? today).getD (-1))
      (FirstCome.serveAll (requests s.bash ((s.dates.idOf? today).getD (-1)))
        s.bash.dailyUserStatistics.vals (agentUsers s)) ⟨s', none⟩) :
    Complete today s s' ↔ ∀ l ∈ s.bash.logs.vals, s.dates.get? l.dateId ≠ some today →
      ∃ v ∈ FirstCome.serveAll (requests s.bash ((s.dates.idOf? today).getD (-1)))
        s.bash.dailyUserStatistics.vals (agentUsers s), v.day = l.day := by
  obtain ⟨new, hnew⟩ := hserved.extends_
  have hlogs : s'.bash.logs = s.bash.logs := hnew.logs
  have hothers : s' = { s with bash := s'.bash } := hserved.others
  have hdates : s'.dates = s.dates := by rw [hothers]
  have hvals : s'.bash.dailyUserStatistics.vals = _ := hserved.vals
  have hrow : ∀ r ∈ s'.bash.dailyUserStatistics.rows, r ∉ s.bash.dailyUserStatistics.rows →
      r ∈ new := fun r hr hold =>
    (List.mem_append.mp (hnew.rows ▸ hr)).resolve_left hold
  constructor
  · intro hc l hl hdate
    have hone := hc.one l (hlogs ▸ hl) (hdates ▸ hdate)
    rw [hvals] at hone
    exact (countP_day_eq_one_iff (nodup_served h _) _).mp hone
  · intro hall
    refine ⟨fun l hl hdate => ?_, fun r hr hold => ?_, fun r hr hold hget => ?_⟩
    · rw [hvals]
      exact (countP_day_eq_one_iff (nodup_served h _) _).mpr
        (hall l (hlogs ▸ hl) (hdates ▸ hdate))
    · rw [commandRows_congr hlogs]
      exact List.Perm.of_eq (hnew.commands r (hrow r hr hold))
    · obtain ⟨l, hl, hcur, -, hlr⟩ := request_of_new_row h hserved hr hold
      rw [hdates, hlr] at hget
      exact hcur ((dateId_eq_iff h hl today).mpr hget)

end Analysis

/-- Every reachable state is consistent. -/
lemma Reachable.consistent {s : Store} (h : Reachable s) : Consistent s := by
  induction h with
  | empty => exact consistent_empty
  | @step s s' st _ hrun ih =>
      cases st with
      | addLog e =>
          have := hrun.symm.trans (Scripts.exec_addLog e ⟨s, none⟩)
          simp only [Prod.mk.injEq, Connection.mk.injEq, and_true, true_and] at this
          exact this ▸ ih.addEntry e
      | createStatistics today =>
          obtain ⟨s'', hrun', hserved⟩ := exists_served ih today
          have := hrun.symm.trans hrun'
          simp only [Prod.mk.injEq, Connection.mk.injEq, and_true, true_and] at this
          exact this ▸ ih.served hserved

/-- **An analysis of a reachable state leaves nothing out exactly if the state
is ready.** -/
theorem create_statistics_complete_iff {s : Store} (h : Reachable s) (today : Date) :
    ∃ s', (createStatistics today).exec ⟨s, none⟩ = (.ok (), ⟨s', none⟩) ∧
      (Complete today s s' ↔ Ready today s) := by
  obtain ⟨s', hrun, hserved⟩ := exists_served h.consistent today
  exact ⟨s', hrun, (complete_iff_served h.consistent today hserved).trans
    (served_iff_ready h.consistent today)⟩

/-! ### Two days of one user -/

/-- The command `ls` of user `0` on the agent with this name. -/
def lsOn (name : Text) : BashLogEntry where
  agentName := name
  utcTime := ⟨⟨10, 0, 0, Time.checkTime_ten⟩, ⟨1, 1, 2016, Date.checkDate_newYear, Date.fits_2016⟩⟩
  userId := 0
  command := cString [108, 115]

/-- The day after. -/
def dayAfter : Date := ⟨2, 1, 2016, Date.checkDate_dayAfterNewYear, Date.fits_2016⟩

lemma reachable_addLog {s : Store} (h : Reachable s) (e : BashLogEntry) :
    Reachable (addEntry e s) :=
  h.step (.addLog e) (Scripts.exec_addLog e ⟨s, none⟩)

/-- One agent, analysed on the day after. -/
theorem create_statistics_complete_single :
    ∃ s s', Reachable s ∧ s.bash.logs.vals ≠ [] ∧
      (createStatistics dayAfter).exec ⟨s, none⟩ = (.ok (), ⟨s', none⟩) ∧
      Complete dayAfter s s' := by
  have hreach := reachable_addLog Reachable.empty (lsOn ⟨[97], by decide⟩)
  obtain ⟨s', hrun, hiff⟩ := create_statistics_complete_iff hreach dayAfter
  exact ⟨_, s', hreach, by decide, hrun, hiff.mpr (by decide)⟩

/-- Two agents with the same user: one day is left without a statistic. -/
theorem not_create_statistics_complete_shared :
    ∃ s s', Reachable s ∧ (createStatistics dayAfter).exec ⟨s, none⟩ = (.ok (), ⟨s', none⟩) ∧
      ¬Complete dayAfter s s' := by
  have hreach := reachable_addLog (reachable_addLog Reachable.empty (lsOn ⟨[97], by decide⟩))
    (lsOn ⟨[98], by decide⟩)
  obtain ⟨s', hrun, hserved⟩ := exists_served hreach.consistent dayAfter
  refine ⟨_, s', hreach, hrun, fun hcomplete => ?_⟩
  have hready := (served_iff_ready hreach.consistent dayAfter).mp
    ((complete_iff_served hreach.consistent dayAfter hserved).mp hcomplete)
  exact absurd hready (by decide)

end Slas.Bash
