import Mathlib
import Slas.Bash.DailySystemStatistics
import Slas.Bash.LogIntegrity

/-!
Daily system statistics over whole runs of `Scripts::AddLog` and
`Scripts::CreateDailySystemStatistics`, any call of which may fail.

* `Exact`: one row for every agent, date and command that has logs, with their
  number;
* `Reaches`: the states of the runs whose steps meet a condition;
* `Timely`: no log arrives for a date that is done, and no failed run leaves a
  date half done;
* `exact_of_reaches`: in a run of timely steps, what a run of
  `CreateDailySystemStatistics` that returns leaves is exact.

The invariant is `Settled`: a date that is done is exact already.
-/

namespace Slas.Bash

open Database

/-! ### What the statistics should be -/

/-- The rows of an agent, a date and a command. -/
def rowsOf (t : Tables) (agent date command : RowId) : List DailySystemStatistic :=
  t.dailyStatistics.vals.filter fun v =>
    v.agentNameId = agent ∧ v.dateId = date ∧ v.commandId = command

/-- One row for every agent, date and command that has logs: their number. -/
def Exact (t : Tables) : Prop :=
  ∀ agent date command, 0 < dailyCount t agent date command →
    rowsOf t agent date command = [⟨agent, date, command, dailyCount t agent date command⟩]

/-! ### Runs -/

/-- What the D-Bus thread and the analyzer call. -/
inductive Call where
  | addLog (e : BashLogEntry)
  | createDailySystemStatistics
  deriving DecidableEq

def Call.program : Call → DatabaseM Unit
  | .addLog e => Scripts.addLog e
  | .createDailySystemStatistics => Bash.createDailySystemStatistics

/-- The outcome of a call and the connection it leaves. -/
def Call.outcome (x : Call) (env : ℕ → Option Fault) (c : Connection Store) :
    Except DatabaseException Unit × Connection Store :=
  ((x.program.run env 0 c).1, (x.program.run env 0 c).2.2)

/-- The states of runs from the empty database whose steps meet a condition. -/
inductive Reaches (meets : Call → (ℕ → Option Fault) → Connection Store → Prop) :
    Connection Store → Prop
  | start : Reaches meets ⟨Store.empty, none⟩
  | step {c : Connection Store} (x : Call) (env : ℕ → Option Fault) :
      Reaches meets c → meets x env c → Reaches meets (x.outcome env c).2

/-- How many database calls `Scripts::AddLog` makes for an entry that is stored. -/
def addLogCalls : ℕ := 11

/-- There is a statistic for the agent and the date of an entry. -/
def Done (s : Store) (e : BashLogEntry) : Prop :=
  ∃ v ∈ s.bash.dailyStatistics.vals, s.agentNames.get? v.agentNameId = some e.agentName ∧
    s.dates.get? v.dateId = some e.utcTime.date

/-- What is left of the agents and dates that the first `k` rows begin counts no
log. -/
def Whole (s : Store) (k : ℕ) : Prop :=
  ∀ r ∈ (todo s).take k, ∀ r' ∈ (todo s).drop k,
    r'.agentNameId = r.agentNameId → r'.dateId = r.dateId → r'.summary = 0

/-- The condition on a step. A log that is stored has a command without white
space, and its date is not done; a failure of `CreateDailySystemStatistics` does
not come between the rows of an agent and a date. -/
def Timely : Call → (ℕ → Option Fault) → Connection Store → Prop
  | .addLog e, env, c => c.Idle → Storable e → Prog.Clean env addLogCalls →
      PlainCommand e ∧ ¬Done c.data e
  | .createDailySystemStatistics, env, c => c.Idle → ∀ n, env n ≠ none → Prog.Clean env n →
      Whole c.data (flushed c.data n)

/-! ### The invariant -/

/-- A date of an agent has a statistic. -/
def Touched (t : Tables) (agent date : RowId) : Prop :=
  ∃ v ∈ t.dailyStatistics.vals, v.agentNameId = agent ∧ v.dateId = date

/-- Logs and statistics refer to rows that are there, and what is touched is
exact. -/
structure Settled (s : Store) : Prop where
  agents : ∀ l ∈ s.bash.logs.vals, l.agentNameId ∈ s.agentNames.rows.map (·.id)
  dates : ∀ l ∈ s.bash.logs.vals, l.dateId ∈ s.dates.rows.map (·.id)
  commands : ∀ l ∈ s.bash.logs.vals, l.commandId ∈ s.bash.commands.rows.map (·.id)
  owners : ∀ v ∈ s.bash.dailyStatistics.vals, v.agentNameId ∈ s.agentNames.rows.map (·.id) ∧
    v.dateId ∈ s.dates.rows.map (·.id)
  touched : ∀ agent date command, Touched s.bash agent date →
    0 < dailyCount s.bash agent date command → rowsOf s.bash agent date command
      = [⟨agent, date, command, dailyCount s.bash agent date command⟩]

lemma settled_empty : Settled Store.empty where
  agents l hl := absurd hl (by simp [Store.empty, Tables.empty])
  dates l hl := absurd hl (by simp [Store.empty, Tables.empty])
  commands l hl := absurd hl (by simp [Store.empty, Tables.empty])
  owners v hv := absurd hv (by simp [Store.empty, Tables.empty])
  touched _ _ _ h := absurd h (by simp [Touched, Store.empty, Tables.empty])

/-! ### Adding a log -/

/-- Names were added and nothing else was done. -/
structure Grown (s s' : Store) : Prop where
  logs : s'.bash.logs = s.bash.logs
  dailyStatistics : s'.bash.dailyStatistics = s.bash.dailyStatistics
  agentNames : s.agentNames.rows ⊆ s'.agentNames.rows
  dates : s.dates.rows ⊆ s'.dates.rows
  commands : s.bash.commands.rows ⊆ s'.bash.commands.rows

lemma Grown.refl (s : Store) : Grown s s := ⟨rfl, rfl, fun _ => id, fun _ => id, fun _ => id⟩

lemma Grown.trans {s₁ s₂ s₃ : Store} (h : Grown s₁ s₂) (h' : Grown s₂ s₃) : Grown s₁ s₃ where
  logs := h'.logs.trans h.logs
  dailyStatistics := h'.dailyStatistics.trans h.dailyStatistics
  agentNames := List.Subset.trans h.agentNames h'.agentNames
  dates := List.Subset.trans h.dates h'.dates
  commands := List.Subset.trans h.commands h'.commands

lemma Settled.grown {s s' : Store} (h : Settled s) (hg : Grown s s') : Settled s' where
  agents l hl := List.map_subset _ hg.agentNames (h.agents l (hg.logs ▸ hl))
  dates l hl := List.map_subset _ hg.dates (h.dates l (hg.logs ▸ hl))
  commands l hl := List.map_subset _ hg.commands (h.commands l (hg.logs ▸ hl))
  owners v hv := by
    rw [hg.dailyStatistics] at hv
    exact ⟨List.map_subset _ hg.agentNames (h.owners v hv).1,
      List.map_subset _ hg.dates (h.owners v hv).2⟩
  touched := by
    simp only [Touched, rowsOf, dailyCount, hg.logs, hg.dailyStatistics]
    exact h.touched

section AddLog

variable {env : ℕ → Option Fault} {s₀ : Store} {b : Option Store} {k : ℕ}

/-- The first `k` calls added names. -/
def Interning (env : ℕ → Option Fault) (s₀ : Store) (b : Option Store) (k n : ℕ)
    (c : Connection Store) : Prop :=
  n = k ∧ Prog.Clean env n ∧ c.saved = b ∧ Grown s₀ c.data

/-- A call failed after some names were added. -/
def Interned (s₀ : Store) (b : Option Store) (c : Connection Store) : Prop :=
  c.saved = b ∧ Grown s₀ c.data

lemma Interning.next {n : ℕ} {c : Connection Store} (h : Interning env s₀ b k n c)
    (hn : env n = none) {s : Store} (hg : Grown c.data s) :
    Interning env s₀ b (k + 1) (n + 1) { c with data := s } :=
  ⟨congrArg (· + 1) h.1, h.2.1.succ hn, h.2.2.1, h.2.2.2.trans hg⟩

lemma triple_write_name {f : Store → Store} (hf : ∀ s, Grown s (f s)) :
    Prog.Triple env (Interning env s₀ b k) (write f) (fun _ => Interning env s₀ b (k + 1))
      fun _ _ c => Interned s₀ b c :=
  triple_write fun _ c hc => ⟨fun hn => hc.next hn (hf c.data), fun _ => hc.2.2⟩

lemma triple_query_name {α : Type} {f : Store → α} :
    Prog.Triple env (Interning env s₀ b k) (query f) (fun _ => Interning env s₀ b (k + 1))
      fun _ _ c => Interned s₀ b c :=
  triple_query fun _ _ hc => ⟨fun hn => hc.next hn (Grown.refl _), fun _ => hc.2.2⟩

lemma triple_queryFirst_name {α : Type} {f : Store → Option α} :
    Prog.Triple env (Interning env s₀ b k) (queryFirst f) (fun _ => Interning env s₀ b (k + 1))
      fun _ _ c => Interned s₀ b c := by
  refine Prog.Triple.lift fun n c hc => ?_
  cases henv : env n with
  | some fault => exact hc.2.2
  | none =>
      cases hf : f c.data with
      | none => exact hc.2.2
      | some a => exact hc.next henv (Grown.refl _)

lemma grown_addDate (d : Date) (s : Store) : Grown s { s with dates := s.dates.insertOrIgnore d } :=
  ⟨rfl, rfl, fun _ => id, fun _ => UniqueTable.mem_insertOrIgnore d, fun _ => id⟩

lemma grown_addAgentName (name : Text) (s : Store) :
    Grown s { s with agentNames := s.agentNames.insertOrIgnore name } :=
  ⟨rfl, rfl, fun _ => UniqueTable.mem_insertOrIgnore name, fun _ => id, fun _ => id⟩

lemma grown_addCommand (command : Text) (s : Store) :
    Grown s { s with bash := { s.bash with
      commands := s.bash.commands.insertOrIgnore command } } :=
  ⟨rfl, rfl, fun _ => id, fun _ => id, fun _ => UniqueTable.mem_insertOrIgnore command⟩

/-- **A disturbed `Scripts::AddLog`** adds names only. -/
lemma triple_addLog (e : BashLogEntry) :
    Prog.Triple env (Interning env s₀ b 0) (Scripts.addLog e)
      (fun _ n _ => Prog.Clean env n ∧ (Storable e → n = addLogCalls))
      fun _ _ c => Interned s₀ b c := by
  by_cases hblank : (stripCommand e.command).bytes = []
  · have hrun : Scripts.addLog e = pure () := by simp [Scripts.addLog, hblank]
    rw [hrun]
    exact Prog.Triple.pure fun n c hc => ⟨hc.2.1, fun hst => absurd hblank hst⟩
  · rw [Scripts.addLog]
    simp only [if_neg hblank]
    refine (triple_write_name (grown_addDate _)).bind fun _ =>
      (triple_write_name fun s => ?_).bind fun _ =>
      (triple_write_name (grown_addAgentName _)).bind fun _ =>
      (triple_write_name fun s => ?_).bind fun _ =>
      (triple_write_name (grown_addCommand _)).bind fun _ => ?_
    · exact ⟨rfl, rfl, fun _ => id, fun _ => id, fun _ => id⟩
    · exact ⟨rfl, rfl, fun _ => id, fun _ => id, fun _ => id⟩
    · simp only [Bash.addLog, Raw.getSystemUserId, Raw.getCommandId, Raw.addLog, Raw.queryBash,
        Raw.writeBash]
      refine triple_queryFirst_name.bind fun _ => triple_query_name.bind fun _ =>
        triple_query_name.bind fun _ => triple_query_name.bind fun _ =>
        triple_query_name.bind fun _ => ?_
      exact triple_write fun n c hc => ⟨fun hn => ⟨hc.2.1.succ hn, fun _ => by rw [hc.1]; rfl⟩,
        fun _ => hc.2.2⟩

/-- `Scripts::AddLog` returns with its log stored, none of its calls disturbed, or
has added names only. -/
lemma outcome_addLog (e : BashLogEntry) (env : ℕ → Option Fault) (c : Connection Store) :
    ((Storable e → Prog.Clean env addLogCalls) ∧
      ((Call.addLog e).outcome env c).2 = { c with data := addEntry e c.data }) ∨
    Interned c.data c.saved ((Call.addLog e).outcome env c).2 := by
  have hstart : Interning env c.data c.saved 0 0 c :=
    ⟨rfl, Prog.clean_zero env, rfl, Grown.refl c.data⟩
  have htriple := triple_addLog e 0 c hstart
  rcases hrun : (Scripts.addLog e).run env 0 c with ⟨a | u, n, c'⟩
  · rw [hrun] at htriple
    have hc' : ((Call.addLog e).outcome env c).2 = c' := congrArg (·.2.2) hrun
    exact .inr (hc' ▸ htriple)
  · rw [hrun] at htriple
    obtain ⟨hclean, hcalls⟩ := htriple
    have hexec := (Prog.exec_of_run hrun hclean).symm.trans (Scripts.exec_addLog e c)
    refine .inl ⟨fun hst => hcalls hst ▸ hclean, ?_⟩
    have hc' : ((Call.addLog e).outcome env c).2 = c' := congrArg (·.2.2) hrun
    rw [hc']
    exact congrArg Prod.snd hexec

end AddLog

lemma grown_internEntry (e : BashLogEntry) (s : Store) : Grown s (internEntry e s) :=
  ⟨rfl, rfl, fun _ => UniqueTable.mem_insertOrIgnore _, fun _ => UniqueTable.mem_insertOrIgnore _,
    fun _ => UniqueTable.mem_insertOrIgnore _⟩

/-- A log of a date that is not done touches nothing that is. -/
lemma not_touched_of_not_done {s : Store} (h : Settled s) {e : BashLogEntry} (hdone : ¬Done s e) :
    ¬Touched s.bash (logOf (internEntry e s) e).agentNameId (logOf (internEntry e s) e).dateId := by
  rintro ⟨v, hv, hagent, hdate⟩
  refine hdone ⟨v, hv, ?_, ?_⟩
  · refine Table.get?_of_subset (grown_internEntry e s).agentNames (h.owners v hv).1 ?_
    rw [hagent]
    exact UniqueTable.get?_idOf?_insertOrIgnore _ _
  · refine Table.get?_of_subset (grown_internEntry e s).dates (h.owners v hv).2 ?_
    rw [hdate]
    exact UniqueTable.get?_idOf?_insertOrIgnore _ _

/-- The command of a plain entry is found. -/
lemma commandId_mem_of_plain {e : BashLogEntry} (s : Store) (hst : Storable e)
    (hplain : PlainCommand e) : (logOf (internEntry e s) e).commandId
      ∈ (internEntry e s).bash.commands.rows.map (·.id) := by
  have hstrip : stripCommand e.command = e.command := stripCommand_eq_self_iff.mpr (hplain hst)
  refine Table.mem_ids_of_get? (v := e.command) ?_
  show (s.bash.commands.insertOrIgnore (stripCommand e.command)).get?
    (((s.bash.commands.insertOrIgnore (stripCommand e.command)).idOf? e.command).getD (-1)) = _
  rw [hstrip]
  exact UniqueTable.get?_idOf?_insertOrIgnore _ _

lemma Settled.addEntry {s : Store} (h : Settled s) {e : BashLogEntry}
    (he : Storable e → PlainCommand e ∧ ¬Done s e) : Settled (addEntry e s) := by
  by_cases hblank : (stripCommand e.command).bytes = []
  · rwa [Bash.addEntry, if_pos hblank]
  obtain ⟨hplain, hdone⟩ := he hblank
  have hgrown := h.grown (grown_internEntry e s)
  set l := logOf (internEntry e s) e with hl
  have hlogs : (Bash.addEntry e s).bash.logs.vals = s.bash.logs.vals ++ [l] := by
    rw [Bash.addEntry, if_neg hblank]
    exact Table.insert_vals _ _
  have hothers : Bash.addEntry e s = { internEntry e s with
      bash := { (internEntry e s).bash with logs := (Bash.addEntry e s).bash.logs } } := by
    rw [Bash.addEntry, if_neg hblank]
  -- the rows the new log refers to are there
  have hagent : l.agentNameId ∈ (internEntry e s).agentNames.rows.map (·.id) :=
    Table.mem_ids_of_get? (UniqueTable.get?_idOf?_insertOrIgnore s.agentNames e.agentName)
  have hdate : l.dateId ∈ (internEntry e s).dates.rows.map (·.id) :=
    Table.mem_ids_of_get? (UniqueTable.get?_idOf?_insertOrIgnore s.dates e.utcTime.date)
  have hcommand := commandId_mem_of_plain s hblank hplain
  have hall : ∀ {P : Log → Prop}, (∀ l' ∈ (internEntry e s).bash.logs.vals, P l') → P l →
      ∀ l' ∈ (Bash.addEntry e s).bash.logs.vals, P l' := by
    intro P hold hnew l' hl'
    rcases List.mem_append.mp (hlogs ▸ hl') with hl' | hl'
    · exact hold l' hl'
    · rwa [List.mem_singleton.mp hl']
  rw [hothers]
  refine ⟨hall hgrown.agents hagent, hall hgrown.dates hdate, hall hgrown.commands hcommand,
    hgrown.owners, ?_⟩
  intro agent date command htouched
  -- its date is not touched, so what is keeps its counts
  have hcount : dailyCount (Bash.addEntry e s).bash agent date command
      = dailyCount s.bash agent date command := by
    rw [dailyCount, hlogs, List.countP_append, List.countP_singleton, if_neg]
    · rfl
    · rw [decide_eq_true_eq]
      rintro ⟨rfl, rfl, -⟩
      exact not_touched_of_not_done h hdone htouched
  show 0 < dailyCount (Bash.addEntry e s).bash agent date command → _ = [_]
  show _ → rowsOf s.bash agent date command
    = [⟨agent, date, command, dailyCount (Bash.addEntry e s).bash agent date command⟩]
  rw [hcount]
  exact h.touched agent date command htouched

/-! ### Creating the statistics -/

lemma mem_agentTodo {s : Store} {agent : RowId} {r : DailySystemStatistic} :
    r ∈ agentTodo s agent ↔ r.agentNameId = agent ∧ r.dateId ∈ openDates s agent ∧
      r.commandId ∈ s.bash.commands.rows.map (·.id) ∧
      r.summary = dailyCount s.bash agent r.dateId r.commandId := by
  simp only [agentTodo, List.mem_flatMap, List.mem_map (f := fun command : RowId => _)]
  constructor
  · rintro ⟨date, hdate, command, hcommand, rfl⟩
    exact ⟨rfl, hdate, hcommand, rfl⟩
  · rintro ⟨hagent, hdate, hcommand, hsummary⟩
    refine ⟨r.dateId, hdate, r.commandId, hcommand, ?_⟩
    cases r
    simp_all

lemma mem_todo {s : Store} {r : DailySystemStatistic} :
    r ∈ todo s ↔ r.agentNameId ∈ s.agentNames.rows.map (·.id) ∧ r ∈ agentTodo s r.agentNameId := by
  rw [todo, List.mem_flatMap]
  constructor
  · rintro ⟨agent, hagent, hr⟩
    obtain rfl := agentNameId_of_mem_agentTodo hr
    exact ⟨hagent, hr⟩
  · exact fun h => ⟨_, h⟩

lemma mem_openDates {s : Store} {agent date : RowId} :
    date ∈ openDates s agent ↔ date ∈ s.dates.rows.map (·.id) ∧ ¬Touched s.bash agent date := by
  simp only [openDates, List.mem_map, List.mem_filter, List.all_eq_true, Touched]
  constructor
  · rintro ⟨r, ⟨hr, hopen⟩, rfl⟩
    refine ⟨⟨r, hr, rfl⟩, ?_⟩
    rintro ⟨v, hv, hagent, hdate⟩
    have := hopen v hv
    simp [hagent, hdate] at this
  · rintro ⟨⟨r, hr, rfl⟩, hno⟩
    refine ⟨r, ⟨hr, fun v hv => ?_⟩, rfl⟩
    by_cases hv' : v.agentNameId = agent ∧ v.dateId = r.id
    · exact absurd ⟨v, hv, hv'⟩ hno
    · rw [Bool.not_eq_true', Bool.and_eq_false_iff, decide_eq_false_iff_not,
        decide_eq_false_iff_not]
      by_contra hboth
      push Not at hboth
      exact hv' ⟨hboth.2, hboth.1.symm⟩

/-- No row comes twice. -/
lemma nodup_todo (s : Store) : (todo s).Nodup := by
  have hdates : ∀ agent, (openDates s agent).Nodup := fun agent =>
    s.dates.nodup_ids.sublist (List.filter_sublist.map _)
  refine List.nodup_flatMap.mpr ⟨fun agent _ => ?_, ?_⟩
  · refine List.nodup_flatMap.mpr ⟨fun date _ => ?_, (hdates agent).imp fun {d d'} hne => ?_⟩
    · exact s.bash.commands.nodup_ids.map fun a b hab =>
        congrArg DailySystemStatistic.commandId hab
    · intro r hr hr'
      obtain ⟨_, -, rfl⟩ := List.mem_map.mp hr
      obtain ⟨_, -, heq⟩ := List.mem_map.mp hr'
      exact hne (congrArg DailySystemStatistic.dateId heq).symm
  · exact s.agentNames.nodup_ids.imp fun {a a'} hne r hr hr' =>
      hne ((agentNameId_of_mem_agentTodo hr).symm.trans (agentNameId_of_mem_agentTodo hr'))

/-- The row of an agent, a date and a command that have logs, if the date is
open. -/
lemma mem_todo_of_log {s : Store} (h : Settled s) {agent date command : RowId}
    (hopen : ¬Touched s.bash agent date) (hcount : 0 < dailyCount s.bash agent date command) :
    ⟨agent, date, command, dailyCount s.bash agent date command⟩ ∈ todo s := by
  obtain ⟨l, hl, hids⟩ := List.countP_pos_iff.mp hcount
  obtain ⟨rfl, rfl, rfl⟩ := of_decide_eq_true hids
  exact mem_todo.mpr ⟨h.agents l hl,
    mem_agentTodo.mpr ⟨rfl, mem_openDates.mpr ⟨h.dates l hl, hopen⟩,
    h.commands l hl, rfl⟩⟩

lemma filter_eq_singleton {α : Type} {xs : List α} {p : α → Bool} {x : α} (hnodup : xs.Nodup)
    (hx : x ∈ xs) (hp : p x = true) (honly : ∀ y ∈ xs, p y = true → y = x) :
    xs.filter p = [x] := by
  refine List.perm_singleton.mp ((List.perm_ext_iff_of_nodup (hnodup.filter _)
    (List.nodup_singleton x)).mpr fun y => ?_)
  rw [List.mem_filter, List.mem_singleton]
  constructor
  · exact fun hy => honly y hy.1 hy.2
  · rintro rfl
    exact ⟨hx, hp⟩

lemma rowsOf_addRows (rows : List DailySystemStatistic) (s : Store) (agent date command : RowId) :
    rowsOf (addRows rows s).bash agent date command = rowsOf s.bash agent date command
      ++ rows.filter fun v => v.agentNameId = agent ∧ v.dateId = date ∧ v.commandId = command := by
  rw [rowsOf, vals_addRows, List.filter_append]
  rfl

lemma touched_addRows {rows : List DailySystemStatistic} {s : Store} {agent date : RowId} :
    Touched (addRows rows s).bash agent date ↔
      Touched s.bash agent date ∨ ∃ v ∈ rows, v.agentNameId = agent ∧ v.dateId = date := by
  simp only [Touched, vals_addRows, List.mem_append, or_and_right, exists_or]

/-- **Rows that leave no date half done keep the invariant.** -/
lemma Settled.addRows_take {s : Store} (h : Settled s) {k : ℕ} (hwhole : Whole s k) :
    Settled (addRows ((todo s).take k) s) where
  agents := h.agents
  dates := h.dates
  commands := h.commands
  owners v hv := by
    rw [vals_addRows, List.mem_append] at hv
    rcases hv with hv | hv
    · exact h.owners v hv
    · obtain ⟨hagent, hv⟩ := mem_todo.mp (List.mem_of_mem_take hv)
      exact ⟨hagent, (mem_openDates.mp (mem_agentTodo.mp hv).2.1).1⟩
  touched agent date command htouched hcount := by
    rw [rowsOf_addRows]
    have hcount : 0 < dailyCount s.bash agent date command := hcount
    show _ = [(⟨agent, date, command, dailyCount s.bash agent date command⟩ :
      DailySystemStatistic)]
    by_cases hold : Touched s.bash agent date
    · -- the new rows are of dates that were open
      rw [h.touched agent date command hold hcount, List.append_right_eq_self,
        List.filter_eq_nil_iff]
      rintro r hr hids
      obtain ⟨rfl, rfl, rfl⟩ := of_decide_eq_true hids
      have hr := (mem_todo.mp (List.mem_of_mem_take hr)).2
      exact (mem_openDates.mp (mem_agentTodo.mp hr).2.1).2 hold
    · have hnone : rowsOf s.bash agent date command = [] := by
        rw [rowsOf, List.filter_eq_nil_iff]
        rintro v hv hids
        obtain ⟨hagent, hdate, -⟩ := of_decide_eq_true hids
        exact hold ⟨v, hv, hagent, hdate⟩
      rw [hnone, List.nil_append]
      obtain ⟨v, hv, rfl, rfl⟩ := (touched_addRows.mp htouched).resolve_left hold
      have hrow := mem_todo_of_log h hold hcount
      refine filter_eq_singleton ((nodup_todo s).sublist (List.take_sublist _ _)) ?_
        (decide_eq_true ⟨rfl, rfl, rfl⟩) fun y hy hids => ?_
      · rw [← List.take_append_drop k (todo s), List.mem_append] at hrow
        refine hrow.resolve_right fun hdrop => ?_
        have := hwhole v hv _ hdrop rfl rfl
        exact hcount.ne' (Int.natCast_eq_zero.mp this)
      · obtain ⟨hagent, hdate, rfl⟩ := of_decide_eq_true hids
        have hsummary := (mem_agentTodo.mp (mem_todo.mp (List.mem_of_mem_take hy)).2).2.2.2
        rw [hagent, hdate] at hsummary
        cases y
        simp_all

/-- Nothing is left of the rows when all of them are written. -/
lemma whole_length (s : Store) : Whole s (todo s).length := by
  intro r _ r' hr'
  rw [List.drop_length] at hr'
  exact absurd hr' List.not_mem_nil

/-- What a run that returns leaves is exact. -/
lemma Settled.exact {s : Store} (h : Settled s) : Exact (addRows (todo s) s).bash := by
  intro agent date command hcount
  have hnew := h.addRows_take (whole_length s)
  rw [List.take_length] at hnew
  refine hnew.touched agent date command (touched_addRows.mpr ?_) hcount
  by_cases hold : Touched s.bash agent date
  · exact .inl hold
  · exact .inr ⟨_, mem_todo_of_log h hold hcount, rfl, rfl⟩

/-- A transaction that is open stays open. -/
def KeepsOpen {α : Type} (env : ℕ → Option Fault) (p : DatabaseM α) : Prop :=
  Prog.Triple env (fun _ c => ¬c.Idle) p (fun _ _ c => ¬c.Idle) fun _ _ c => ¬c.Idle

section Open

variable {env : ℕ → Option Fault}

lemma keepsOpen_query {α : Type} (f : Store → α) : KeepsOpen env (query f) :=
  triple_query fun _ _ hc => ⟨fun _ => hc, fun _ => hc⟩

lemma keepsOpen_foldlM {α β : Type} {f : β → α → DatabaseM β} (h : ∀ b x, KeepsOpen env (f b x))
    (xs : List α) (b : β) : KeepsOpen env (xs.foldlM f b) :=
  Prog.Triple.foldlM (I := fun _ _ _ (c : Connection Store) => ¬c.Idle) (fun x _ b => h b x) xs b

lemma triple_flush_open (rows : List DailySystemStatistic) :
    Prog.Triple env (fun _ c => ¬c.Idle) (Raw.addDailySystemStatistics rows)
      (fun _ _ _ => False) fun _ _ c => ¬c.Idle :=
  triple_transaction_open (fun _ _ => id) fun _ _ => id

lemma keepsOpen_collectStatistic (agent date : RowId) (statistics : List DailySystemStatistic)
    (command : RowId) : KeepsOpen env (collectStatistic agent date statistics command) := by
  rw [collectStatistic, Raw.countCommandsForDailySystemStatistic, Raw.queryBash]
  refine (keepsOpen_query _).bind fun count => ?_
  dsimp only
  split_ifs with hfull
  · exact (triple_flush_open _).bind fun _ _ _ => False.elim
  · exact Prog.Triple.pure fun _ _ => id

/-- While a transaction is open, no run of `CreateDailySystemStatistics`
returns. -/
lemma triple_createDailySystemStatistics_open :
    Prog.Triple env (fun _ c => ¬c.Idle) createDailySystemStatistics (fun _ _ _ => False)
      fun _ _ c => ¬c.Idle := by
  rw [createDailySystemStatistics, getAgentsIds, Raw.getAllCommandsIds, Raw.queryBash]
  refine (keepsOpen_query _).bind fun agents => (keepsOpen_query _).bind fun commands =>
    Prog.Triple.bind (keepsOpen_foldlM (fun statistics agent => ?_) agents []) triple_flush_open
  rw [collectAgentStatistics, Raw.getDateIdsWithoutCreatedDailySystemStatistic]
  exact (keepsOpen_query _).bind fun dates => keepsOpen_foldlM (fun statistics date =>
    keepsOpen_foldlM (keepsOpen_collectStatistic agent date) commands statistics) dates statistics

end Open

/-- A run of `CreateDailySystemStatistics` that returns started on an idle
connection and wrote all its rows. -/
lemma outcome_create_ok {env : ℕ → Option Fault} {c : Connection Store}
    (hok : (Call.createDailySystemStatistics.outcome env c).1 = .ok ()) :
    c.Idle ∧ (Call.createDailySystemStatistics.outcome env c).2
      = ⟨addRows (todo c.data) c.data, none⟩ := by
  rcases hrun : createDailySystemStatistics.run env 0 c with ⟨a | ⟨⟨⟩⟩, n, c'⟩
  · have : (Call.createDailySystemStatistics.outcome env c).1 = .error a := congrArg (·.1) hrun
    rw [this] at hok
    cases hok
  · have hc' : (Call.createDailySystemStatistics.outcome env c).2 = c' := congrArg (·.2.2) hrun
    by_cases hidle : c.Idle
    · obtain ⟨s, _⟩ := c
      obtain rfl : _ = none := hidle
      exact ⟨rfl, hc'.trans (triple_createDailySystemStatistics.of_ok ⟨rfl, rfl⟩ hrun)⟩
    · exact (triple_createDailySystemStatistics_open.of_ok hidle hrun).elim

/-- What a failed run leaves on the connection. -/
lemma outcome_create_error {env : ℕ → Option Fault} {c : Connection Store} {e : DatabaseException}
    (herror : (Call.createDailySystemStatistics.outcome env c).1 = .error e)
    (hidle : (Call.createDailySystemStatistics.outcome env c).2.Idle) :
    c.Idle ∧ Disturbed env c.data (Call.createDailySystemStatistics.outcome env c).2 := by
  rcases hrun : createDailySystemStatistics.run env 0 c with ⟨a | a, n, c'⟩
  · have hc' : (Call.createDailySystemStatistics.outcome env c).2 = c' := congrArg (·.2.2) hrun
    rw [hc'] at hidle ⊢
    by_cases hc : c.Idle
    · obtain ⟨s, _⟩ := c
      obtain rfl : _ = none := hc
      exact ⟨rfl, triple_createDailySystemStatistics.of_error ⟨rfl, rfl⟩ hrun⟩
    · exact absurd hidle (triple_createDailySystemStatistics_open.of_error hc hrun)
  · have : (Call.createDailySystemStatistics.outcome env c).1 = .ok a := congrArg (·.1) hrun
    rw [this] at herror
    cases herror

/-! ### Every run -/

/-- A timely step keeps the invariant of an idle connection. -/
lemma settled_step {c : Connection Store} (h : c.Idle → Settled c.data) (x : Call)
    (env : ℕ → Option Fault) (hx : Timely x env c) (hidle : (x.outcome env c).2.Idle) :
    Settled (x.outcome env c).2.data := by
  cases x with
  | addLog e =>
      rcases outcome_addLog e env c with ⟨hclean, hc'⟩ | ⟨hsaved, hgrown⟩
      · rw [hc'] at hidle ⊢
        exact (h hidle).addEntry fun hst => hx hidle hst (hclean hst)
      · exact (h (hsaved.symm.trans hidle)).grown hgrown
  | createDailySystemStatistics =>
      rcases hout : (Call.createDailySystemStatistics.outcome env c).1 with e | ⟨⟨⟩⟩
      · obtain ⟨hc, n, hn, hclean, hrows⟩ := outcome_create_error hout hidle
        rw [hrows hidle]
        exact (h hc).addRows_take (hx hc n hn hclean)
      · obtain ⟨hc, hc'⟩ := outcome_create_ok hout
        have := (h hc).addRows_take (whole_length c.data)
        rw [List.take_length] at this
        rwa [hc']

lemma settled_of_reaches {c : Connection Store} (h : Reaches Timely c) (hidle : c.Idle) :
    Settled c.data := by
  induction h with
  | start => exact settled_empty
  | step x env _ hx ih => exact settled_step ih x env hx hidle

/-- **Daily system statistics equal the logs.** In a run of timely steps a
`CreateDailySystemStatistics` that returns leaves, for every agent, date and
command that has logs, one row with their number. -/
theorem exact_of_reaches {c : Connection Store} (h : Reaches Timely c) (env : ℕ → Option Fault)
    (hok : (Call.createDailySystemStatistics.outcome env c).1 = .ok ()) :
    Exact (Call.createDailySystemStatistics.outcome env c).2.data.bash := by
  obtain ⟨hidle, hc'⟩ := outcome_create_ok hok
  rw [hc']
  exact (settled_of_reaches h hidle).exact

/-! ### One log -/

/-- The command `ls` of user `0` on the agent `a`. -/
def ls : BashLogEntry := { listing with command := cString [108, 115] }

lemma outcome_addLog_undisturbed (e : BashLogEntry) (s : Store) :
    (Call.addLog e).outcome (fun _ => none) ⟨s, none⟩ = (.ok (), ⟨addEntry e s, none⟩) := by
  obtain ⟨n, hrun⟩ := Prog.run_of_exec (Scripts.exec_addLog e ⟨s, none⟩) 0
  exact congrArg (fun x => (x.1, x.2.2)) hrun

lemma outcome_create_undisturbed (s : Store) :
    Call.createDailySystemStatistics.outcome (fun _ => none) ⟨s, none⟩
      = (.ok (), ⟨addRows (todo s) s, none⟩) := by
  rcases hout : Call.createDailySystemStatistics.outcome (fun _ => none)
    ⟨s, none⟩ with ⟨e | ⟨⟨⟩⟩, c'⟩
  · -- without a fault nothing fails
    rcases hrun : createDailySystemStatistics.run (fun _ => none) 0 ⟨s, none⟩ with ⟨a | a, n, c''⟩
    · obtain ⟨m, hm, -⟩ := triple_createDailySystemStatistics.of_error ⟨rfl, rfl⟩ hrun
      exact absurd rfl hm
    · have := (congrArg (·.1) hout).symm.trans (congrArg (·.1) hrun)
      cases this
  · have := (outcome_create_ok (congrArg (·.1) hout)).2
    rw [hout] at this
    exact congrArg _ this

/-- The same command a day later. -/
def lsNextDay : BashLogEntry :=
  { ls with utcTime :=
    ⟨ls.utcTime.time, ⟨2, 1, 2016, Date.checkDate_dayAfterNewYear, Date.fits_2016⟩⟩ }

/-- Two logs of a day, and their statistic. -/
def firstDay : Store :=
  addRows (todo (addEntry ls (addEntry ls Store.empty))) (addEntry ls (addEntry ls Store.empty))

/-- Two logs of one day, and after its statistic one of the next. -/
theorem exact_of_reaches_twoDays :
    dailyCount (addEntry lsNextDay firstDay).bash 1 1 1 = 2 ∧
      dailyCount (addEntry lsNextDay firstDay).bash 1 2 1 = 1 ∧
      Exact (Call.createDailySystemStatistics.outcome (fun _ => none)
        ⟨addEntry lsNextDay firstDay, none⟩).2.data.bash := by
  refine ⟨by decide +kernel, by decide +kernel,
    exact_of_reaches ?_ _ (by rw [outcome_create_undisturbed])⟩
  have hplain : ∀ e : BashLogEntry, e.command = cString [108, 115] → PlainCommand e := by
    intro e he _
    rw [he]
    decide +kernel
  have hlog : ∀ (e : BashLogEntry) (s : Store), e.command = cString [108, 115] → ¬Done s e →
      Reaches Timely ⟨s, none⟩ → Reaches Timely ⟨addEntry e s, none⟩ := by
    intro e s he hdone h
    have := h.step (.addLog e) (fun _ => none) fun _ _ _ => ⟨hplain e he, hdone⟩
    rwa [outcome_addLog_undisturbed] at this
  refine hlog lsNextDay firstDay rfl (by unfold Done; decide +kernel) ?_
  have htwo : Reaches Timely ⟨addEntry ls (addEntry ls Store.empty), none⟩ :=
    hlog ls _ rfl (by unfold Done; decide +kernel)
      (hlog ls _ rfl (by unfold Done; decide +kernel) .start)
  have := htwo.step .createDailySystemStatistics (fun _ => none) fun _ n hn => absurd rfl hn
  rwa [outcome_create_undisturbed] at this

/-- A second log on the same day comes too late. -/
theorem not_exact_of_reaches_late :
    ¬∀ c, Reaches (fun _ _ _ => True) c → ∀ env,
      (Call.createDailySystemStatistics.outcome env c).1 = .ok () →
      Exact (Call.createDailySystemStatistics.outcome env c).2.data.bash := by
  intro h
  have hfirst : Reaches (fun _ _ _ => True) _ :=
    Reaches.start.step (.addLog ls) (fun _ => none) trivial
  rw [outcome_addLog_undisturbed] at hfirst
  have hdone := hfirst.step .createDailySystemStatistics (fun _ => none) trivial
  rw [outcome_create_undisturbed] at hdone
  have hlate := hdone.step (.addLog ls) (fun _ => none) trivial
  rw [outcome_addLog_undisturbed] at hlate
  have hexact := h _ hlate (fun _ => none) (by rw [outcome_create_undisturbed])
  rw [outcome_create_undisturbed] at hexact
  exact absurd (hexact 1 1 1 (by decide)) (by decide)

end Slas.Bash
