import Mathlib
import Slas.Bash.DailySystemStatisticsExact
import Slas.Bash.Operation

/-!
How old the command statistics of a range of dates are.

* `currentSum`: what a range sums up to as the daily statistics stand;
* `AnswersCurrently`: an answer of `WebScripts::GetCommandsStatistics` that is one
  entry for each command with a positive sum;
* `Uncached`: no logs of a stored range are still to be counted;
* `commandsStatistics_current`: the answers are current in every run in which
  `CreateDailySystemStatistics` only starts when that is so.

`BASH_DATE_RANGE_COMMANDS_STATISTICS_TABLE` is never brought up to date: the
invariant is `Fresh`, that no stored sum is out of date.
-/

namespace Slas.Bash

open Database

/-! ### What the sums should be -/

/-- The date with this id is one of a range. -/
def inRange (s : Store) (beginDate endDate : Date) (dateId : RowId) : Bool :=
  (s.dates.get? dateId).any fun d => beginDate ≤ d ∧ d ≤ endDate

/-- The daily statistics of an agent and a command over a range, summed up. -/
def currentSum (s : Store) (agent command : RowId) (beginDate endDate : Date) : ℤ :=
  ((s.bash.dailyStatistics.vals.filter fun v => v.agentNameId = agent ∧ v.commandId = command ∧
    inRange s beginDate endDate v.dateId = true).map (·.summary)).sum

/-- One entry for each command with a positive sum, and no other. -/
def AnswersCurrently (s : Store) (agent : RowId) (beginDate endDate : Date)
    (answer : List NamedCommandStatistic) : Prop :=
  (answer.map (·.commandNameId)).Nodup ∧ ∀ st, st ∈ answer ↔
    s.bash.commands.get? st.commandNameId = some st.commandName ∧
      st.summaryCount = currentSum s agent st.commandNameId beginDate endDate ∧ 0 < st.summaryCount

/-- No stored range has a date of which its agent has logs of its command that
are still to be counted. -/
def Uncached (s : Store) : Prop :=
  ∀ v ∈ s.bash.commandsStatistics.vals, ∀ beginDate endDate,
    s.dates.get? v.beginDateId = some beginDate → s.dates.get? v.endDateId = some endDate →
      ∀ date ∈ openDates s v.agentNameId, inRange s beginDate endDate date = true →
        dailyCount s.bash v.agentNameId date v.commandId = 0

/-- The condition on a step: `CreateDailySystemStatistics` counts nothing of a
stored range. -/
def LeavesRanges : Operation → Connection Store → Prop
  | .createDailySystemStatistics, c => c.Idle → Uncached c.data
  | _, _ => True

/-! ### The invariant -/

/-- A stored sum is that of its range. -/
def UpToDate (s : Store) (v : CommandStatistic) : Prop :=
  v.commandId ∈ s.bash.commands.rows.map (·.id) ∧ ∃ beginDate endDate,
    s.dates.get? v.beginDateId = some beginDate ∧ s.dates.get? v.endDateId = some endDate ∧
      v.summary = currentSum s v.agentNameId v.commandId beginDate endDate

/-- All stored sums are, and the daily statistics refer to rows that are there. -/
structure Fresh (s : Store) : Prop where
  stored : ∀ v ∈ s.bash.commandsStatistics.vals, UpToDate s v
  dates : ∀ v ∈ s.bash.dailyStatistics.vals, v.dateId ∈ s.dates.rows.map (·.id)
  commands : ∀ v ∈ s.bash.dailyStatistics.vals, v.commandId ∈ s.bash.commands.rows.map (·.id)

lemma fresh_empty : Fresh Store.empty where
  stored v hv := absurd hv (by simp [Store.empty, Tables.empty, UniqueTable.empty])
  dates v hv := absurd hv (by simp [Store.empty, Tables.empty])
  commands v hv := absurd hv (by simp [Store.empty, Tables.empty])

/-- Names were added; neither the daily statistics nor the stored sums changed. -/
structure Named (s s' : Store) : Prop where
  stored : s'.bash.commandsStatistics = s.bash.commandsStatistics
  daily : s'.bash.dailyStatistics = s.bash.dailyStatistics
  dates : s.dates.rows ⊆ s'.dates.rows
  commands : s.bash.commands.rows ⊆ s'.bash.commands.rows

lemma get?_of_rows_subset {α : Type} {t t' : Table α} (hsub : t.rows ⊆ t'.rows) {id : RowId} {v : α}
    (h : t.get? id = some v) : t'.get? id = some v :=
  Table.get?_eq_some.mpr (hsub (Table.get?_eq_some.mp h))

/-- A sum does not change when names are added. -/
lemma currentSum_eq {s s' : Store} (hdaily : s'.bash.dailyStatistics = s.bash.dailyStatistics)
    (hdates : s.dates.rows ⊆ s'.dates.rows)
    (hfound : ∀ v ∈ s.bash.dailyStatistics.vals, v.dateId ∈ s.dates.rows.map (·.id))
    (agent command : RowId) (beginDate endDate : Date) :
    currentSum s' agent command beginDate endDate
      = currentSum s agent command beginDate endDate := by
  rw [currentSum, hdaily, currentSum]
  congr 2
  refine List.filter_congr fun v hv => ?_
  have hdate : inRange s' beginDate endDate v.dateId = inRange s beginDate endDate v.dateId :=
    congrArg (Option.any _) (Table.get?_eq_of_subset hdates (hfound v hv))
  rw [hdate]

lemma UpToDate.named {s s' : Store} {v : CommandStatistic} (h : UpToDate s v)
    (hdaily : s'.bash.dailyStatistics = s.bash.dailyStatistics)
    (hdates : s.dates.rows ⊆ s'.dates.rows)
    (hcommands : s.bash.commands.rows ⊆ s'.bash.commands.rows)
    (hfound : ∀ v ∈ s.bash.dailyStatistics.vals, v.dateId ∈ s.dates.rows.map (·.id)) :
    UpToDate s' v := by
  obtain ⟨hcommand, beginDate, endDate, hbegin, hend, hsum⟩ := h
  refine ⟨List.map_subset _ hcommands hcommand, beginDate, endDate,
    get?_of_rows_subset hdates hbegin, get?_of_rows_subset hdates hend, ?_⟩
  rw [currentSum_eq hdaily hdates hfound, hsum]

lemma Fresh.named {s s' : Store} (h : Fresh s) (hn : Named s s') : Fresh s' where
  stored v hv := (h.stored v (hn.stored ▸ hv)).named hn.daily hn.dates hn.commands h.dates
  dates v hv := List.map_subset _ hn.dates (h.dates v (hn.daily ▸ hv))
  commands v hv := List.map_subset _ hn.commands (h.commands v (hn.daily ▸ hv))

/-- Most operations only add names. -/
lemma Operation.Writes.named {x : Operation} {s s' : Store} (h : x.Writes s s')
    (hcreate : x ≠ .createDailySystemStatistics)
    (hask : ∀ agent beginDate endDate, x ≠ .getCommandsStatistics agent beginDate endDate) :
    Named s s' := by
  cases x with
  | addLog e => exact ⟨by rw [h.1], by rw [h.1], h.2.1, h.2.2⟩
  | createDailySystemStatistics => exact absurd rfl hcreate
  | createStatistics today => exact ⟨by rw [h.1], by rw [h.1], by rw [h.1]; exact fun _ => id,
      by rw [h.1]; exact fun _ => id⟩
  | train =>
      exact ⟨by rw [h], by rw [h], by rw [h]; exact fun _ => id, by rw [h]; exact fun _ => id⟩
  | analyze debug networks => exact ⟨by rw [h.1], by rw [h.1], by rw [h.1]; exact fun _ => id,
      by rw [h.1]; exact fun _ => id⟩
  | request r => exact ⟨by rw [RequestWrites.others h], by rw [RequestWrites.others h],
      by rw [RequestWrites.others h]; exact fun _ => id,
      by rw [RequestWrites.others h]; exact fun _ => id⟩
  | getCommandsStatistics agent beginDate endDate => exact absurd rfl (hask agent beginDate endDate)
  | others sts hsts =>
      exact ⟨by rw [h.bash], by rw [h.bash], h.dates, by rw [h.bash]; exact fun _ => id⟩

/-! ### Counting the logs -/

/-- Rows that were still to be counted leave every stored sum as it is. -/
lemma Fresh.addRows {s₀ s : Store} (h : Fresh s) (hun : Uncached s₀) (hdates : s.dates = s₀.dates)
    (hcommands : s.bash.commands = s₀.bash.commands)
    (hstored : s.bash.commandsStatistics = s₀.bash.commandsStatistics)
    {rows : List DailySystemStatistic} (hrows : ∀ r ∈ rows, r ∈ agentTodo s₀ r.agentNameId) :
    Fresh (addRows rows s) where
  stored v hv := by
    obtain ⟨hcommand, beginDate, endDate, hbegin, hend, hsum⟩ := h.stored v hv
    refine ⟨hcommand, beginDate, endDate, hbegin, hend, ?_⟩
    rw [hsum, currentSum, currentSum, vals_addRows, List.filter_append, List.map_append,
      List.sum_append]
    refine (add_eq_left.mpr (List.sum_eq_zero fun n hn => ?_)).symm
    obtain ⟨r, hr, rfl⟩ := List.mem_map.mp hn
    obtain ⟨hr, hids⟩ := List.mem_filter.mp hr
    obtain ⟨hagent, hcommand, hrange⟩ := of_decide_eq_true hids
    obtain ⟨-, hopen, -, hcount⟩ := mem_agentTodo.mp (hrows r hr)
    have hrange : inRange s beginDate endDate r.dateId = true := hrange
    rw [inRange, hdates] at hrange
    rw [hcount, Int.natCast_eq_zero, hagent, hcommand]
    exact hun v (hstored ▸ hv) beginDate endDate (hdates ▸ hbegin) (hdates ▸ hend) r.dateId
      (hagent ▸ hopen) hrange
  dates v hv := by
    rcases List.mem_append.mp (vals_addRows rows s ▸ hv) with hv | hv
    · exact h.dates v hv
    · obtain ⟨-, hopen, -⟩ := mem_agentTodo.mp (hrows v hv)
      show v.dateId ∈ s.dates.rows.map (·.id)
      exact hdates ▸ (mem_openDates.mp hopen).1
  commands v hv := by
    rcases List.mem_append.mp (vals_addRows rows s ▸ hv) with hv | hv
    · exact h.commands v hv
    · obtain ⟨-, -, hcommand, -⟩ := mem_agentTodo.mp (hrows v hv)
      show v.commandId ∈ s.bash.commands.rows.map (·.id)
      exact hcommands ▸ hcommand

section Create

variable {env : ℕ → Option Fault} {s₀ : Store}

/-- Between two calls: only daily statistics were added since `s₀`, and those
collected were still to be counted there. -/
structure Creating (s₀ : Store) (statistics : List DailySystemStatistic) (c : Connection Store) :
    Prop where
  fresh : c.All Fresh
  uncached : c.Idle → Uncached s₀
  others : c.data = { s₀ with bash := { s₀.bash with
    dailyStatistics := c.data.bash.dailyStatistics } }
  added : s₀.bash.dailyStatistics.vals ⊆ c.data.bash.dailyStatistics.vals
  collected : ∀ r ∈ statistics, r ∈ agentTodo s₀ r.agentNameId

/-- The dates that are open now were open. -/
lemma Creating.openDates_subset {statistics : List DailySystemStatistic} {c : Connection Store}
    (h : Creating s₀ statistics c) (agent : RowId) :
      openDates c.data agent ⊆ openDates s₀ agent := by
  intro date hdate
  obtain ⟨hfound, huntouched⟩ := mem_openDates.mp hdate
  rw [h.others] at hfound
  refine mem_openDates.mpr ⟨hfound, ?_⟩
  rintro ⟨v, hv, hids⟩
  exact huntouched ⟨v, h.added hv, hids⟩

lemma triple_flush_fresh (statistics : List DailySystemStatistic) :
    Prog.Triple env (fun _ => Creating s₀ statistics) (Raw.addDailySystemStatistics statistics)
      (fun _ _ => Creating s₀ []) fun _ _ c => c.All Fresh := by
  have hadd : ∀ c : Connection Store, Creating s₀ statistics c → c.Idle →
      ∀ rows, rows ⊆ statistics → Fresh (addRows rows c.data) := by
    intro c hc hidle rows hrows
    refine hc.fresh.1.addRows (hc.uncached hidle) ?_ ?_ ?_ fun r hr => hc.collected r (hrows hr)
    · rw [hc.others]
    · rw [hc.others]
    · rw [hc.others]
  refine triple_transaction_all (R := Fresh) (fun n c hc => ⟨hc.fresh, fun hidle k hk => ?_⟩)
    (fun n c hc hidle => ?_) fun _ _ _ _ hall _ => hall
  · rw [← List.map_take, applyAll_inserts]
    exact hadd c hc hidle _ (List.take_subset _ _)
  · rw [applyAll_inserts]
    refine ⟨⟨hadd c hc hidle _ (List.Subset.refl _), fun _ hd => nomatch hd⟩,
      fun _ => hc.uncached hidle, ?_, ?_, fun _ hr => absurd hr List.not_mem_nil⟩
    · show addRows statistics c.data = _
      rw [Bash.addRows, hc.others]
    · show _ ⊆ (addRows statistics c.data).bash.dailyStatistics.vals
      rw [vals_addRows]
      exact List.Subset.trans hc.added (List.subset_append_left _ _)

lemma triple_collectStatistic_fresh {agent date command : RowId}
    (hdate : date ∈ openDates s₀ agent) (hcommand : command ∈ s₀.bash.commands.rows.map (·.id))
    (statistics : List DailySystemStatistic) :
    Prog.Triple env (fun _ => Creating s₀ statistics)
      (collectStatistic agent date statistics command)
      (fun statistics _ => Creating s₀ statistics) fun _ _ c => c.All Fresh := by
  rw [collectStatistic, Raw.countCommandsForDailySystemStatistic]
  refine (Raw.triple_queryBash (E := fun _ _ c => c.All Fresh) (Q := fun (count : ℤ) _ c =>
    count = dailyCount s₀.bash agent date command ∧ Creating s₀ statistics c)
    fun n c hc => ⟨fun _ => ⟨?_, hc⟩, fun _ => hc.fresh⟩).bind fun count => ?_
  · rw [hc.others]
    rfl
  refine Prog.Triple.assume fun hcount => ?_
  subst hcount
  have hcollect : ∀ c, Creating s₀ statistics c → Creating s₀ (statistics ++
      [⟨agent, date, command, dailyCount s₀.bash agent date command⟩]) c := by
    refine fun c hc => { hc with collected := fun r hr => ?_ }
    rcases List.mem_append.mp hr with hr | hr
    · exact hc.collected r hr
    · rw [List.mem_singleton.mp hr]
      exact mem_agentTodo.mpr ⟨rfl, hdate, hcommand, rfl⟩
  dsimp only
  split_ifs
  · refine Prog.Triple.bind (Prog.Triple.weaken (triple_flush_fresh _) (fun _ c hc => hcollect c hc)
      (fun _ _ _ => id) fun _ _ _ => id) fun _ => Prog.Triple.pure fun _ _ => id
  · exact Prog.Triple.pure fun _ c hc => hcollect c hc

/-- **Creating the daily statistics keeps the stored sums fresh** if none of them
has logs still to be counted, whatever fails. -/
lemma triple_createDailySystemStatistics_fresh (env : ℕ → Option Fault) :
    Prog.Triple env (fun _ c => c.data = s₀ ∧ c.All Fresh ∧ (c.Idle → Uncached s₀))
      createDailySystemStatistics (fun _ _ c => c.All Fresh) fun _ _ c => c.All Fresh := by
  have hquery : ∀ {α : Type} (f : Store → α) (statistics : List DailySystemStatistic)
      {R : α → Prop}, (∀ c, Creating s₀ statistics c → R (f c.data)) →
      Prog.Triple env (fun _ => Creating s₀ statistics) (query f)
        (fun a _ c => R a ∧ Creating s₀ statistics c) fun _ _ c => c.All Fresh :=
    fun f statistics R hR => triple_query fun n c hc => ⟨fun _ => ⟨hR c hc, hc⟩, fun _ => hc.fresh⟩
  suffices hcreating : Prog.Triple env (fun _ => Creating s₀ []) createDailySystemStatistics
      (fun _ _ => Creating s₀ []) fun _ _ c => c.All Fresh by
    refine hcreating.weaken ?_ (fun _ _ _ hc => hc.fresh) fun _ _ _ => id
    rintro n ⟨s, b⟩ ⟨rfl, hall, hun⟩
    exact ⟨hall, hun, rfl, List.Subset.refl _, fun _ hr => absurd hr List.not_mem_nil⟩
  rw [createDailySystemStatistics, getAgentsIds, Raw.getAllCommandsIds, Raw.queryBash]
  refine (hquery _ [] (R := fun _ => True) fun _ _ => trivial).bind fun agents =>
    Prog.Triple.assume fun _ => ?_
  refine (hquery _ [] (R := fun ids => ids = s₀.bash.commands.rows.map (·.id)) fun c hc => ?_).bind
    fun commands => Prog.Triple.assume fun hcommands => ?_
  · rw [hc.others]
  subst hcommands
  refine Prog.Triple.bind (Prog.Triple.foldlM_mem (I := fun statistics _ => Creating s₀ statistics)
    agents (fun agent _ statistics => ?_) []) triple_flush_fresh
  rw [collectAgentStatistics, Raw.getDateIdsWithoutCreatedDailySystemStatistic]
  refine (hquery _ statistics (R := fun dates => dates ⊆ openDates s₀ agent) fun c hc => ?_).bind
    fun dates => Prog.Triple.assume fun hdates => ?_
  · rw [openDates_eq]
    exact hc.openDates_subset agent
  refine Prog.Triple.foldlM_mem (I := fun statistics _ => Creating s₀ statistics) dates
    (fun date hdate statistics => ?_) statistics
  exact Prog.Triple.foldlM_mem (I := fun statistics _ => Creating s₀ statistics) _
    (fun command hcommand statistics =>
      triple_collectStatistic_fresh (hdates hdate) hcommand statistics) statistics

end Create

/-! ### Asking for a range -/

lemma mem_rangeIds {s : Store} {beginDate endDate : Date} {id : RowId} :
    id ∈ (s.dates.rows.filter fun r => inDateRange beginDate endDate r.val).map (·.id) ↔
      inRange s beginDate endDate id = true := by
  rw [inRange, Option.any_eq_true, List.mem_map]
  constructor
  · rintro ⟨r, hr, rfl⟩
    obtain ⟨hr, hrange⟩ := List.mem_filter.mp hr
    exact ⟨r.val, Table.get?_eq_some.mpr hr, decide_eq_true (inDateRange_iff.mp hrange)⟩
  · rintro ⟨d, hd, hrange⟩
    exact ⟨⟨id, d⟩, List.mem_filter.mpr ⟨Table.get?_eq_some.mp hd,
      inDateRange_iff.mpr (of_decide_eq_true hrange)⟩, rfl⟩

/-- What `CommandSummary` sums up for the dates of a range. -/
lemma commandSummaryOf_rangeIds (s : Store) (agent command : RowId) (beginDate endDate : Date) :
    Raw.commandSummaryOf s.bash agent command
      ((s.dates.rows.filter fun r => inDateRange beginDate endDate r.val).map (·.id))
        = currentSum s agent command beginDate endDate := by
  rw [Raw.commandSummaryOf, currentSum]
  congr 2
  refine List.filter_congr fun v _ => decide_eq_decide.mpr ?_
  rw [mem_rangeIds]
  tauto

/-- Two ids of one date are the same. -/
lemma dateId_unique {s : Store} {d : Date} {i j : RowId} (hi : s.dates.get? i = some d)
    (hj : s.dates.get? j = some d) : i = j :=
  congrArg Row.id (UniqueTable.row_ext_key (Table.get?_eq_some.mp hi)
    (Table.get?_eq_some.mp hj) rfl)

/-- Statistics stored for ranges. -/
def storeStatistics (statistics : List CommandStatistic) (s : Store) : Store :=
  { s with bash := { s.bash with
    commandsStatistics := statistics.foldl UniqueTable.insertOrIgnore s.bash.commandsStatistics } }

lemma applyAll_insertCommandStatistic (statistics : List CommandStatistic) (s : Store) :
    Connection.applyAll (statistics.map Raw.insertCommandStatistic) s
      = storeStatistics statistics s := by
  induction statistics generalizing s with
  | nil => rfl
  | cons statistic statistics ih => exact ih _

lemma Fresh.storeStatistics {s : Store} (h : Fresh s) {statistics : List CommandStatistic}
    (hnew : ∀ v ∈ statistics, UpToDate s v) : Fresh (storeStatistics statistics s) where
  stored v hv := by
    obtain ⟨r, hr, rfl⟩ := List.mem_map.mp hv
    rcases UniqueTable.of_mem_foldl_insertOrIgnore hr with hr | hr
    · exact h.stored r.val (List.mem_map_of_mem hr)
    · exact hnew r.val hr
  dates := h.dates
  commands := h.commands

section Ask

variable {env : ℕ → Option Fault} {idle : Prop} {s₀ : Store} {agent : RowId}
  {beginDate endDate : Date} {beginDateId endDateId : RowId} {rangeIds : List RowId}

/-- Between two calls: only dates and sums were stored since `s₀`. -/
structure Asking (idle : Prop) (s₀ : Store) (c : Connection Store) : Prop where
  fresh : c.All Fresh
  idle : idle → c.Idle
  daily : c.data.bash.dailyStatistics = s₀.bash.dailyStatistics
  commands : c.data.bash.commands = s₀.bash.commands
  dates : s₀.dates.rows ⊆ c.data.dates.rows

/-- A call has failed; on a connection that was idle it has been disturbed. -/
def Abandoned (env : ℕ → Option Fault) (idle : Prop) (n : ℕ) (c : Connection Store) : Prop :=
  c.All Fresh ∧ (idle → ¬Prog.Clean env n)

lemma Asking.abandoned {n : ℕ} {c c' : Connection Store} (h : Asking idle s₀ c)
    (hn : c.Idle → env n ≠ none) (hc' : c'.All Fresh) : Abandoned env idle (n + 1) c' :=
  ⟨hc', fun hidle hclean => hn (h.idle hidle) (hclean n (Nat.lt_succ_self n))⟩

/-- A `select`. -/
lemma triple_query_asking {α : Type} {f : Store → α} {F : Store → Prop} {R : α → Store → Prop}
    (hR : ∀ s, F s → R (f s) s) :
    Prog.Triple env (fun _ c => Asking idle s₀ c ∧ F c.data) (query f)
      (fun a _ c => Asking idle s₀ c ∧ R a c.data) fun _ => Abandoned env idle :=
  triple_query fun _ c hc => ⟨fun _ => ⟨hc.1, hR c.data hc.2⟩,
    fun hn => hc.1.abandoned (fun _ => hn) hc.1.fresh⟩

lemma Asking.addDate {c : Connection Store} (h : Asking idle s₀ c) (date : Date) :
    Asking idle s₀ { c with data :=
      { c.data with dates := c.data.dates.insertOrIgnore date } } where
  fresh := ⟨h.fresh.1.named ⟨rfl, rfl, fun _ => UniqueTable.mem_insertOrIgnore date, fun _ => id⟩,
    h.fresh.2⟩
  idle := h.idle
  daily := h.daily
  commands := h.commands
  dates := List.Subset.trans h.dates fun _ => UniqueTable.mem_insertOrIgnore date

/-- `AddAndGetDateId` finds an id of the date. -/
lemma triple_addAndGetDateId_asking {F : Store → Prop}
    (hF : ∀ s date, F s → F { s with dates := s.dates.insertOrIgnore date }) (date : Date) :
    Prog.Triple env (fun _ c => Asking idle s₀ c ∧ F c.data) (addAndGetDateId date)
      (fun id _ c => Asking idle s₀ c ∧ F c.data ∧ c.data.dates.get? id = some date)
      fun _ => Abandoned env idle := by
  have hfind : ∀ s : Store, ∀ id, s.dates.idOf? date = some id → s.dates.get? id = some date := by
    intro s id hid
    obtain ⟨d, hrow, rfl⟩ := UniqueTable.idOf?_eq_some.mp hid
    exact Table.get?_eq_some.mpr hrow
  rw [addAndGetDateId, getDateId]
  refine (triple_query_asking (F := F)
    (R := fun id s => F s ∧ (id ≠ -1 → s.dates.get? id = some date))
    fun s hs => ⟨hs, fun hne => ?_⟩).bind fun id => ?_
  · cases hid : s.dates.idOf? date with
    | none => exact absurd (by rw [hid]; rfl) hne
    | some id => exact hfind s id hid
  split_ifs with hid
  · rw [addDate]
    refine (triple_write (Q := fun _ _ c => Asking idle s₀ c ∧ F c.data ∧
      ∃ id, c.data.dates.idOf? date = some id) fun n c hc => ⟨fun _ => ?_, fun hn => ?_⟩).bind
        fun _ => triple_query_asking (F := fun s => F s ∧ ∃ id, s.dates.idOf? date = some id)
          (R := fun id s => F s ∧ s.dates.get? id = some date) fun s hs => ⟨hs.1, ?_⟩
    · obtain ⟨r, hr, hkey⟩ := c.data.dates.exists_mem_insertOrIgnore date
      exact ⟨hc.1.addDate date, hF _ date hc.2.1, r.id,
        UniqueTable.idOf?_eq_some.mpr ⟨r.val, hr, hkey⟩⟩
    · exact hc.1.abandoned (fun _ => hn) hc.1.fresh
    · obtain ⟨-, id, hid⟩ := hs
      rw [hid]
      exact hfind s id hid
  · exact Prog.Triple.pure fun _ c hc => ⟨hc.1, hc.2.1, hc.2.2 hid⟩

/-- The statistics in hand are right, and every command that is not to come has
one stored or in hand. -/
structure Collects (s₀ : Store) (agent : RowId) (beginDate endDate : Date)
    (beginDateId endDateId : RowId) (rangeIds rest : List RowId)
    (statistics : List CommandStatistic) (s : Store) : Prop where
  begins : s.dates.get? beginDateId = some beginDate
  ends : s.dates.get? endDateId = some endDate
  ranges : rangeIds = (s.dates.rows.filter fun r => inDateRange beginDate endDate r.val).map (·.id)
  commands : ∀ id ∈ rest, id ∈ s.bash.commands.rows.map (·.id)
  collected : ∀ v ∈ statistics, UpToDate s v
  covers : ∀ id ∈ s₀.bash.commands.rows.map (·.id), id ∈ rest ∨
    ∃ v ∈ s.bash.commandsStatistics.vals ++ statistics,
      v.range = (agent, id, beginDateId, endDateId)

/-- A flush stores what is in hand. -/
lemma triple_addCommandsStatistics {rest : List RowId} (statistics : List CommandStatistic) :
    Prog.Triple env (fun _ c => Asking idle s₀ c ∧ Collects s₀ agent beginDate endDate beginDateId
        endDateId rangeIds rest statistics c.data) (Raw.addCommandsStatistics statistics)
      (fun _ _ c => Asking idle s₀ c ∧ Collects s₀ agent beginDate endDate beginDateId endDateId
        rangeIds rest [] c.data) fun _ => Abandoned env idle := by
  refine triple_transaction_all (R := Fresh) (fun n c hc => ⟨hc.1.fresh, fun hidle k hk => ?_⟩)
    (fun n c hc hidle => ?_) fun _ _ _ hc hall hn => hc.1.abandoned hn hall
  · rw [← List.map_take, applyAll_insertCommandStatistic]
    exact hc.1.fresh.1.storeStatistics fun v hv => hc.2.collected v (List.mem_of_mem_take hv)
  · obtain ⟨hask, hcollects⟩ := hc
    rw [applyAll_insertCommandStatistic]
    refine ⟨⟨⟨hask.fresh.1.storeStatistics hcollects.collected, fun _ hd => nomatch hd⟩,
      fun _ => rfl,
      hask.daily, hask.commands, hask.dates⟩, { hcollects with
        collected := fun v hv => absurd hv List.not_mem_nil
        covers := fun id hid => (hcollects.covers id hid).imp_right ?_ }⟩
    rintro ⟨v, hv, hrange⟩
    rcases List.mem_append.mp hv with hv | hv
    · obtain ⟨r, hr, rfl⟩ := List.mem_map.mp hv
      exact ⟨r.val, List.mem_append_left _ (List.mem_map_of_mem
        (UniqueTable.mem_foldl_insertOrIgnore hr)), hrange⟩
    · obtain ⟨r, hr, hkey⟩ := c.data.bash.commandsStatistics.exists_mem_foldl_insertOrIgnore hv
      exact ⟨r.val, List.mem_append_left _ (List.mem_map_of_mem hr), hkey.trans hrange⟩

/-- A command that has a sum stored. -/
lemma Collects.skip {command : RowId} {rest : List RowId} {statistics : List CommandStatistic}
    {s : Store} (h : Collects s₀ agent beginDate endDate beginDateId endDateId rangeIds
      (command :: rest) statistics s)
    (hstored : ∃ v ∈ s.bash.commandsStatistics.vals,
      v.range = (agent, command, beginDateId, endDateId)) :
    Collects s₀ agent beginDate endDate beginDateId endDateId rangeIds rest statistics s where
  begins := h.begins
  ends := h.ends
  ranges := h.ranges
  commands i hi := h.commands i (List.mem_cons_of_mem _ hi)
  collected := h.collected
  covers i hi := by
    rcases h.covers i hi with hi | hi
    · rcases List.mem_cons.mp hi with rfl | hi
      · obtain ⟨v, hv, hrange⟩ := hstored
        exact .inr ⟨v, List.mem_append_left _ hv, hrange⟩
      · exact .inl hi
    · exact .inr hi

/-- A command whose sum is taken in hand. -/
lemma Collects.collect {command : RowId} {rest : List RowId} {statistics : List CommandStatistic}
    {s : Store} (h : Collects s₀ agent beginDate endDate beginDateId endDateId rangeIds
      (command :: rest) statistics s) {v : CommandStatistic} (hv : UpToDate s v)
    (hrange : v.range = (agent, command, beginDateId, endDateId)) :
    Collects s₀ agent beginDate endDate beginDateId endDateId rangeIds rest
      (statistics ++ [v]) s where
  begins := h.begins
  ends := h.ends
  ranges := h.ranges
  commands i hi := h.commands i (List.mem_cons_of_mem _ hi)
  collected w hw := by
    rcases List.mem_append.mp hw with hw | hw
    · exact h.collected w hw
    · rwa [List.mem_singleton.mp hw]
  covers i hi := by
    rw [← List.append_assoc]
    rcases h.covers i hi with hi | ⟨w, hw, hrange'⟩
    · rcases List.mem_cons.mp hi with rfl | hi
      · exact .inr ⟨v, List.mem_append_right _ List.mem_cons_self, hrange⟩
      · exact .inl hi
    · exact .inr ⟨w, List.mem_append_left _ hw, hrange'⟩

/-- One command. -/
lemma triple_collectCommandStatistic {command : RowId} {rest : List RowId}
    (statistics : List CommandStatistic) :
    Prog.Triple env (fun _ c => Asking idle s₀ c ∧ Collects s₀ agent beginDate endDate beginDateId
        endDateId rangeIds (command :: rest) statistics c.data)
      (Scripts.collectCommandStatistic agent beginDateId endDateId rangeIds statistics command)
      (fun statistics _ c => Asking idle s₀ c ∧ Collects s₀ agent beginDate endDate beginDateId
        endDateId rangeIds rest statistics c.data) fun _ => Abandoned env idle := by
  set I := fun (rest : List RowId) (statistics : List CommandStatistic) (s : Store) =>
    Collects s₀ agent beginDate endDate beginDateId endDateId rangeIds rest statistics s with hI
  rw [Scripts.collectCommandStatistic, Raw.isCommandStatisticExist, Raw.queryBash]
  refine (triple_query_asking (F := I (command :: rest) statistics)
    (R := fun statisticsExists s => I (command :: rest) statistics s ∧ (statisticsExists = true →
      I rest statistics s)) fun s hs => ⟨hs, fun hexists => ?_⟩).bind fun statisticsExists => ?_
  · obtain ⟨id, hid⟩ := Option.isSome_iff_exists.mp hexists
    obtain ⟨v, hv, hrange⟩ := UniqueTable.idOf?_eq_some.mp hid
    exact hs.skip ⟨v, List.mem_map_of_mem hv, hrange⟩
  split_ifs with hexists
  · exact Prog.Triple.pure fun _ c hc => ⟨hc.1, hc.2.2 hexists⟩
  rw [Raw.commandSummary, Raw.queryBash]
  refine (triple_query_asking (F := fun s => I (command :: rest) statistics s ∧
    (statisticsExists = true → I rest statistics s)) (R := fun summary s => I rest (statistics ++
      [⟨agent, command, beginDateId, endDateId, summary⟩]) s) fun s hs => ?_).bind fun summary => ?_
  · have hs : I (command :: rest) statistics s := hs.1
    refine hs.collect ⟨hs.commands command List.mem_cons_self, beginDate, endDate, hs.begins,
      hs.ends, ?_⟩ rfl
    rw [hs.ranges]
    exact commandSummaryOf_rangeIds s agent command beginDate endDate
  dsimp only
  split_ifs
  · exact (triple_addCommandsStatistics _).bind fun _ => Prog.Triple.pure fun _ _ => id
  · exact Prog.Triple.pure fun _ _ => id

/-- Every command has a sum stored for the range. -/
structure RangeStored (s₀ : Store) (agent : RowId) (beginDate endDate : Date)
    (beginDateId endDateId : RowId) (s : Store) : Prop where
  begins : s.dates.get? beginDateId = some beginDate
  ends : s.dates.get? endDateId = some endDate
  covers : ∀ id ∈ s₀.bash.commands.rows.map (·.id),
    ∃ v ∈ s.bash.commandsStatistics.vals, v.range = (agent, id, beginDateId, endDateId)

lemma RangeStored.addDate {s : Store}
    (h : RangeStored s₀ agent beginDate endDate beginDateId endDateId s) (date : Date) :
    RangeStored s₀ agent beginDate endDate beginDateId endDateId
      { s with dates := s.dates.insertOrIgnore date } where
  begins := UniqueTable.get?_insertOrIgnore date h.begins
  ends := UniqueTable.get?_insertOrIgnore date h.ends
  covers := h.covers

lemma triple_calculateCommandStatistics (agent : RowId) (beginDate endDate : Date) :
    Prog.Triple env (fun _ c => Asking idle s₀ c)
      (Scripts.calculateCommandStatistics agent beginDate endDate)
      (fun _ _ c => Asking idle s₀ c ∧ ∃ beginDateId endDateId,
        RangeStored s₀ agent beginDate endDate beginDateId endDateId c.data)
      fun _ => Abandoned env idle := by
  rw [Scripts.calculateCommandStatistics, getDateRangeIds, Raw.getAllCommandsIds, Raw.queryBash]
  refine Prog.Triple.bind (Prog.Triple.weaken (triple_addAndGetDateId_asking (F := fun _ => True)
    (fun _ _ => id) beginDate) (fun _ _ hc => ⟨hc, trivial⟩) (fun _ _ _ => id) fun _ _ _ => id)
    fun beginDateId => ?_
  refine Prog.Triple.bind (Prog.Triple.weaken (triple_addAndGetDateId_asking
    (F := fun s => s.dates.get? beginDateId = some beginDate)
    (fun s date => UniqueTable.get?_insertOrIgnore date) endDate)
    (fun _ _ hc => ⟨hc.1, hc.2.2⟩) (fun _ _ _ => id) fun _ _ _ => id) fun endDateId => ?_
  refine (triple_query_asking (F := fun s => s.dates.get? beginDateId = some beginDate ∧
      s.dates.get? endDateId = some endDate)
    (R := fun rangeIds s => (s.dates.get? beginDateId = some beginDate ∧
      s.dates.get? endDateId = some endDate) ∧ rangeIds = (s.dates.rows.filter fun r =>
        inDateRange beginDate endDate r.val).map (·.id))
    fun s hs => ⟨hs, rfl⟩).bind fun rangeIds => ?_
  refine Prog.Triple.bind
    (Q := fun ids _ c => Asking idle s₀ c ∧ Collects s₀ agent beginDate endDate
    beginDateId endDateId rangeIds ids [] c.data) ?_ fun ids => ?_
  · refine triple_query fun _ c hc => ⟨fun _ => ⟨hc.1, hc.2.1.1, hc.2.1.2, hc.2.2, fun _ => id,
      fun v hv => absurd hv List.not_mem_nil, fun id hid => .inl ?_⟩,
      fun hn => hc.1.abandoned (fun _ => hn) hc.1.fresh⟩
    rw [hc.1.commands]
    exact hid
  refine Prog.Triple.bind (Prog.Triple.foldlM (I := fun rest statistics _ c => Asking idle s₀ c ∧
    Collects s₀ agent beginDate endDate beginDateId endDateId rangeIds rest statistics c.data)
    (fun command rest statistics => triple_collectCommandStatistic statistics) ids [])
    fun statistics => ?_
  refine Prog.Triple.weaken (triple_addCommandsStatistics statistics) (fun _ _ => id)
    (fun _ _ c hc => ⟨hc.1, beginDateId, endDateId, hc.2.begins, hc.2.ends, fun id hid => ?_⟩)
    fun _ _ _ => id
  obtain ⟨v, hv, hrange⟩ := (hc.2.covers id hid).resolve_left List.not_mem_nil
  exact ⟨v, by rwa [List.append_nil] at hv, hrange⟩

/-- An entry of the answer for a stored sum. -/
structure Entry (s : Store) (v : CommandStatistic) (st : NamedCommandStatistic) : Prop where
  id : st.commandNameId = v.commandId
  name : s.bash.commands.get? v.commandId = some st.commandName
  count : st.summaryCount = v.summary

lemma mem_of_forall₂ {α β : Type} {R : α → β → Prop} {xs : List α} {ys : List β}
    (h : List.Forall₂ R xs ys) :
    (∀ x ∈ xs, ∃ y ∈ ys, R x y) ∧ ∀ y ∈ ys, ∃ x ∈ xs, R x y := by
  induction h with
  | nil => exact ⟨fun _ h => absurd h List.not_mem_nil, fun _ h => absurd h List.not_mem_nil⟩
  | @cons x y xs ys hxy _ ih =>
      refine ⟨fun z hz => ?_, fun z hz => ?_⟩
      · rcases List.mem_cons.mp hz with rfl | hz
        · exact ⟨y, List.mem_cons_self, hxy⟩
        · obtain ⟨w, hw, hzw⟩ := ih.1 z hz
          exact ⟨w, List.mem_cons_of_mem _ hw, hzw⟩
      · rcases List.mem_cons.mp hz with rfl | hz
        · exact ⟨x, List.mem_cons_self, hxy⟩
        · obtain ⟨w, hw, hwz⟩ := ih.2 z hz
          exact ⟨w, List.mem_cons_of_mem _ hw, hwz⟩

/-- What `GetCommandsStatistics` reads for a range. -/
def storedFor (s : Store) (agent beginDateId endDateId : RowId) : List CommandStatistic :=
  s.bash.commandsStatistics.vals.filter fun v => v.agentNameId = agent ∧
    v.beginDateId = beginDateId ∧ v.endDateId = endDateId ∧ v.summary > 0

/-- No command has two sums for one range. -/
lemma nodup_storedFor (s : Store) (agent beginDateId endDateId : RowId) :
    ((storedFor s agent beginDateId endDateId).map (·.commandId)).Nodup := by
  have hrange : s.bash.commandsStatistics.vals.Pairwise fun v w => v.range ≠ w.range :=
    List.pairwise_map.mp s.bash.commandsStatistics.nodup_keys
  refine List.pairwise_map.mpr ((hrange.filter _).imp_of_mem fun {v w} hv hw hne hcommand => ?_)
  obtain ⟨hagent, hbegin, hend, -⟩ := of_decide_eq_true (List.mem_filter.mp hv).2
  obtain ⟨hagent', hbegin', hend', -⟩ := of_decide_eq_true (List.mem_filter.mp hw).2
  refine hne ?_
  rw [CommandStatistic.range, CommandStatistic.range, hagent, hagent', hbegin, hbegin', hend, hend',
    hcommand]

/-- **Fresh sums answer currently.** -/
lemma RangeStored.answersCurrently {s : Store} (hfresh : Fresh s)
    (h : RangeStored s agent beginDate endDate beginDateId endDateId s)
    {answer : List NamedCommandStatistic}
    (hanswer : List.Forall₂ (Entry s) (storedFor s agent beginDateId endDateId) answer) :
    AnswersCurrently s agent beginDate endDate answer := by
  obtain ⟨hleft, hright⟩ := mem_of_forall₂ hanswer
  -- a stored sum of the range is current
  have hsum : ∀ v ∈ s.bash.commandsStatistics.vals, v.beginDateId = beginDateId →
      v.endDateId = endDateId →
        v.summary = currentSum s v.agentNameId v.commandId beginDate endDate := by
    intro v hv hbegin hend
    obtain ⟨-, b, e, hb, he, hsum⟩ := hfresh.stored v hv
    obtain rfl := Option.some.inj ((hbegin ▸ hb).symm.trans h.begins)
    obtain rfl := Option.some.inj ((hend ▸ he).symm.trans h.ends)
    exact hsum
  refine ⟨?_, fun st => ⟨fun hst => ?_, ?_⟩⟩
  · have hids : answer.map (·.commandNameId)
        = (storedFor s agent beginDateId endDateId).map (·.commandId) := by
      have heq : List.Forall₂ (· = ·) (answer.map (·.commandNameId))
          ((storedFor s agent beginDateId endDateId).map (·.commandId)) :=
        List.forall₂_map_left_iff.mpr (List.forall₂_map_right_iff.mpr
          (hanswer.imp fun _ _ hentry => hentry.id).flip)
      rwa [List.forall₂_eq_eq_eq] at heq
    rw [hids]
    exact nodup_storedFor s agent beginDateId endDateId
  · obtain ⟨v, hv, hentry⟩ := hright st hst
    obtain ⟨hmem, hrange⟩ := List.mem_filter.mp hv
    obtain ⟨hagent, hbegin, hend, hpos⟩ := of_decide_eq_true hrange
    rw [hentry.id, hentry.count]
    exact ⟨hentry.name, hagent ▸ hsum v hmem hbegin hend, hpos⟩
  · rintro ⟨hname, hcount, hpos⟩
    obtain ⟨v, hv, hrange⟩ := h.covers _ (Table.mem_ids_of_get? hname)
    obtain ⟨hagent, hid, hbegin, hend⟩ : v.agentNameId = agent ∧ v.commandId = st.commandNameId ∧
        v.beginDateId = beginDateId ∧ v.endDateId = endDateId := by
      simpa [CommandStatistic.range] using hrange
    have hv' : v.summary = st.summaryCount := by
      rw [hsum v hv hbegin hend, hagent, hid, hcount]
    obtain ⟨st', hst', hentry⟩ := hleft v (List.mem_filter.mpr
      ⟨hv, decide_eq_true ⟨hagent, hbegin, hend, hv' ▸ hpos⟩⟩)
    have hname' := hentry.name
    rw [hid, hname] at hname'
    have : st' = st := by
      cases st
      cases st'
      obtain ⟨hid', -, hcount'⟩ := hentry
      simp_all
    exact this ▸ hst'

/-- The second half finds the sums the first half stored. -/
lemma triple_getCommandsStatistics_stored {beginDateId endDateId : RowId} (hfound : Fresh s₀) :
    Prog.Triple env (fun _ c => Asking idle s₀ c ∧
        RangeStored s₀ agent beginDate endDate beginDateId endDateId c.data)
      (Scripts.getCommandsStatistics agent beginDate endDate)
      (fun answer _ c => Asking idle s₀ c ∧ AnswersCurrently s₀ agent beginDate endDate answer)
      fun _ => Abandoned env idle := by
  set F := RangeStored s₀ agent beginDate endDate beginDateId endDateId with hF
  rw [Scripts.getCommandsStatistics]
  refine Prog.Triple.bind (triple_addAndGetDateId_asking (F := F) (fun s date h => h.addDate date)
    beginDate) fun i => ?_
  refine Prog.Triple.bind (Prog.Triple.weaken (triple_addAndGetDateId_asking
    (F := fun s => F s ∧ i = beginDateId) (fun s date h => ⟨h.1.addDate date, h.2⟩) endDate)
    (fun _ c hc => ⟨hc.1, hc.2.1, dateId_unique hc.2.2 hc.2.1.begins⟩) (fun _ _ _ => id)
    fun _ _ _ => id) fun j => ?_
  rw [Raw.getCommandsStatistics, Raw.queryBash]
  refine (triple_query_asking (F := fun s => (F s ∧ i = beginDateId) ∧
    s.dates.get? j = some endDate) (R := fun rows s => F s ∧
      rows = storedFor s agent beginDateId endDateId) fun s hs => ?_).bind fun rows => ?_
  · obtain ⟨⟨hs, rfl⟩, hj⟩ := hs
    obtain rfl := dateId_unique hj hs.ends
    exact ⟨hs, rfl⟩
  refine Prog.Triple.weaken (Prog.Triple.foldlM (I := fun rest answer _ (c : Connection Store) =>
    Asking idle s₀ c ∧ F c.data ∧
      ∃ done, storedFor c.data agent beginDateId endDateId = done ++ rest ∧
      List.Forall₂ (Entry c.data) done answer) (fun v rest answer => ?_) rows [])
    (fun _ c hc => ⟨hc.1, hc.2.1, [], hc.2.2.symm, List.Forall₂.nil⟩) (fun answer _ c hc => ?_)
    fun _ _ _ => id
  · refine Prog.Triple.bind (Q := fun name _ c => Asking idle s₀ c ∧ F c.data ∧ ∃ done,
      storedFor c.data agent beginDateId endDateId = done ++ v :: rest ∧
        List.Forall₂ (Entry c.data) done answer ∧ c.data.bash.commands.get? v.commandId = some name)
      (triple_queryFirst_some fun n c hc => ?_) fun name => Prog.Triple.pure fun _ c hc => ?_
    · obtain ⟨hask, hrange, done, hdone, hanswer⟩ := hc
      have hv : v ∈ storedFor c.data agent beginDateId endDateId :=
        hdone ▸ List.mem_append_right _ List.mem_cons_self
      obtain ⟨r, hr, hid⟩ := List.mem_map.mp (hask.fresh.1.stored v (List.mem_filter.mp hv).1).1
      have hname : c.data.bash.commands.get? v.commandId = some r.val :=
        Table.get?_eq_some.mpr (hid ▸ hr)
      exact ⟨r.val, hname, fun _ => ⟨hask, hrange, done, hdone, hanswer, hname⟩,
        fun hn => hask.abandoned (fun _ => hn) hask.fresh⟩
    · obtain ⟨hask, hrange, done, hdone, hanswer, hname⟩ := hc
      refine ⟨hask, hrange, done ++ [v], by rw [hdone, List.append_assoc]; rfl, ?_⟩
      exact List.rel_append hanswer (List.Forall₂.cons ⟨rfl, hname, rfl⟩ List.Forall₂.nil)
  · obtain ⟨hask, hrange, done, hdone, hanswer⟩ := hc
    rw [List.append_nil] at hdone
    refine ⟨hask, ?_⟩
    have hstored : RangeStored c.data agent beginDate endDate beginDateId endDateId c.data :=
      ⟨hrange.begins, hrange.ends, hask.commands ▸ hrange.covers⟩
    have hcurrent := hstored.answersCurrently hask.fresh.1 (hdone ▸ hanswer)
    refine ⟨hcurrent.1, fun st => (hcurrent.2 st).trans ?_⟩
    rw [hask.commands, currentSum_eq hask.daily hask.dates hfound.dates]

/-- **Asking for a range** answers with the sums as they stand, and keeps the
stored sums fresh whatever fails. -/
lemma triple_getCommandsStatistics_asking (hfound : Fresh s₀) (agent : RowId)
    (beginDate endDate : Date) (env : ℕ → Option Fault) :
    Prog.Triple env (fun _ c => Asking idle s₀ c)
      (WebScripts.getCommandsStatistics agent beginDate endDate)
      (fun answer _ c => Asking idle s₀ c ∧ AnswersCurrently s₀ agent beginDate endDate answer)
      fun _ => Abandoned env idle := by
  refine (triple_calculateCommandStatistics agent beginDate endDate).bind fun _ => ?_
  rintro n c ⟨hask, beginDateId, endDateId, hrange⟩
  exact triple_getCommandsStatistics_stored hfound n c ⟨hask, hrange⟩

end Ask

/-! ### Every run -/

lemma Asking.start {idle : Prop} {c : Connection Store} (h : c.All Fresh) (hidle : idle → c.Idle) :
    Asking idle c.data c := ⟨h, hidle, rfl, rfl, List.Subset.refl _⟩

/-- A step that counts nothing of a stored range keeps the stored sums fresh. -/
lemma fresh_step (x : Operation) (env : ℕ → Option Fault) (c : Connection Store)
    (hx : LeavesRanges x c) (hc : c.All Fresh) : ((x.program.run env 0 c).2.2).All Fresh := by
  by_cases hcreate : x = .createDailySystemStatistics
  · subst hcreate
    have htriple := triple_createDailySystemStatistics_fresh env 0 c ⟨rfl, hc, hx⟩
    show ((createDailySystemStatistics.run env 0 c).2.2).All Fresh
    rcases hrun : createDailySystemStatistics.run env 0 c with ⟨_ | _, n, c'⟩ <;>
      rw [hrun] at htriple <;> exact htriple
  by_cases hask : ∃ agent beginDate endDate, x = .getCommandsStatistics agent beginDate endDate
  · obtain ⟨agent, beginDate, endDate, rfl⟩ := hask
    have hask : Asking False c.data c := Asking.start hc False.elim
    have htriple := triple_getCommandsStatistics_asking hc.1 agent beginDate endDate env 0 c hask
    show ((WebScripts.getCommandsStatistics agent beginDate endDate >>= fun _ => pure ()).run env 0
      c).2.2.All Fresh
    rw [Prog.run_bind]
    rcases hrun : (WebScripts.getCommandsStatistics agent beginDate endDate).run env 0 c
      with ⟨_ | _, n, c'⟩ <;> rw [hrun] at htriple
    · exact htriple.1
    · exact htriple.1.fresh
  · push Not at hask
    exact (steps_operation x).keeps (fun s s' hw hs => hs.named (hw.named hcreate hask)) |>.run
      env 0 hc

/-- **Command statistics are current** on an idle connection, in every run in which
`CreateDailySystemStatistics` counts nothing of a stored range. -/
theorem commandsStatistics_current {c : Connection Store} (h : ReachedBy LeavesRanges c)
    (hidle : c.Idle) (agent : RowId) (beginDate endDate : Date) :
    ∃ answer c', (WebScripts.getCommandsStatistics agent beginDate endDate).exec c
      = (.ok answer, c') ∧ AnswersCurrently c.data agent beginDate endDate answer := by
  have hfresh : c.All Fresh := h.all fresh_empty fresh_step
  have hask : Asking True c.data c := Asking.start hfresh fun _ => hidle
  have htriple := triple_getCommandsStatistics_asking hfresh.1 agent beginDate endDate
    (fun _ => none) 0 c hask
  rcases hrun : (WebScripts.getCommandsStatistics agent beginDate endDate).run (fun _ => none) 0 c
    with ⟨e | answer, n, c'⟩ <;> rw [hrun] at htriple
  · exact absurd (fun _ _ => rfl) (htriple.2 trivial)
  · exact ⟨answer, c', Prog.exec_of_run hrun fun _ _ => rfl, htriple.2⟩

/-! ### One log -/

def dayOfLog : Date := someLogEntry.utcTime.date

/-- The daily statistics of a log, and then a question for its day. -/
def askedInTime : Connection Store :=
  runAll [.addLog someLogEntry, .createDailySystemStatistics,
    .getCommandsStatistics 1 dayOfLog dayOfLog] ⟨Store.empty, none⟩

/-- The question comes first. -/
def askedTooEarly : Connection Store :=
  runAll [.addLog someLogEntry, .getCommandsStatistics 1 dayOfLog dayOfLog,
    .createDailySystemStatistics] ⟨Store.empty, none⟩

theorem commandsStatistics_current_askedInTime :
    currentSum askedInTime.data 1 1 dayOfLog dayOfLog = 1 ∧
      ∃ answer c', (WebScripts.getCommandsStatistics 1 dayOfLog dayOfLog).exec askedInTime
        = (.ok answer, c') ∧ AnswersCurrently askedInTime.data 1 dayOfLog dayOfLog answer := by
  have hidle : askedInTime.Idle := Option.isNone_iff_eq_none.mp (by decide +kernel)
  refine ⟨by decide +kernel, commandsStatistics_current ?_ hidle 1 dayOfLog dayOfLog⟩
  have hnone : (runAll [.addLog someLogEntry] ⟨Store.empty, none⟩).data.bash.commandsStatistics.vals
      = [] := by decide +kernel
  have hlog := (ReachedBy.empty : ReachedBy LeavesRanges _).step (.addLog someLogEntry)
    (fun _ => none) trivial
  have hcreate := hlog.step .createDailySystemStatistics (fun _ => none)
    fun _ v hv => absurd (hnone ▸ hv) List.not_mem_nil
  exact hcreate.step (.getCommandsStatistics 1 dayOfLog dayOfLog) (fun _ => none) trivial

/-- The sum that was stored before the logs were counted is never corrected. -/
theorem not_commandsStatistics_current : ¬∀ c, Reached c → c.Idle → ∀ agent beginDate endDate,
    ∃ answer c', (WebScripts.getCommandsStatistics agent beginDate endDate).exec c
      = (.ok answer, c') ∧ AnswersCurrently c.data agent beginDate endDate answer := by
  intro h
  obtain ⟨answer, c', hrun, hcurrent⟩ := h askedTooEarly (Reached.empty.runAll _)
    (Option.isNone_iff_eq_none.mp (by decide +kernel)) 1 dayOfLog dayOfLog
  have hempty : ((WebScripts.getCommandsStatistics 1 dayOfLog dayOfLog).exec
    askedTooEarly).1.toOption = some [] := by decide +kernel
  rw [hrun] at hempty
  obtain rfl := Option.some.inj hempty
  have hentry := (hcurrent.2 ⟨1, ⟨[108, 115], by decide⟩, 1⟩).mpr
    ⟨by decide +kernel, by decide +kernel, by decide⟩
  exact absurd hentry List.not_mem_nil

end Slas.Bash
