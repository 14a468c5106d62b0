import Mathlib
import Slas.Bash.DailySystemStatistics
import Slas.Bash.DailyUserStatistics
import Slas.Bash.CommandsStatistics
import Slas.Bash.NeuralNetwork
import Slas.Bash.WebScripts

/-!
Whole runs of the bash side: what the D-Bus thread, the analyzer and the web do
on the connection, one after another.

* `Operation`, `Operation.program`: what is done;
* `Operation.Writes`: the tables an operation writes to, `steps_operation`;
* `Reached`: the states of all runs from the empty database, in which any
  statement may fail and the server may be started again;
* `Reached.all`: what every operation keeps holds in all of them;
* `ReachedBy`, `ReachedBy.all`: the same for the runs whose steps meet a
  condition.
-/

namespace Slas.Bash

open Database

/-! ### Operations -/

/-- What the rest of the server writes: the Apache tables, and names. -/
structure OthersWrite (s s' : Store) : Prop where
  bash : s'.bash = s.bash
  dates : s.dates.rows ⊆ s'.dates.rows

/-- An operation on the connection. -/
inductive Operation where
  | addLog (logEntry : BashLogEntry)
  | createDailySystemStatistics
  | createStatistics (today : Date)
  | train
  | analyze (debug : Bool) (networks : RowId → List (Option ℚ) → ℕ → ℚ)
  | request (request : Request)
  | getCommandsStatistics (agentNameId : RowId) (beginDate endDate : Date)
  | others (sts : List (Statement Store))
      (h : ∀ f, .write f ∈ sts → ∀ s s', f s = some s' → OthersWrite s s')

/-- The code of an operation. -/
def Operation.program : Operation → DatabaseM Unit
  | addLog logEntry => Scripts.addLog logEntry
  | createDailySystemStatistics => Bash.createDailySystemStatistics
  | createStatistics today => Bash.createStatistics today
  | train => NetworkTrainer.train >>= fun _ => pure ()
  | analyze debug networks => Classificator.analyze debug networks >>= fun _ => pure ()
  | request r => r.program
  | getCommandsStatistics agentNameId beginDate endDate =>
      WebScripts.getCommandsStatistics agentNameId beginDate endDate >>= fun _ => pure ()
  | others sts _ => execSql sts

/-! ### What they write to -/

/-- What an operation may have changed: every other table is as it was. -/
def Operation.Writes : Operation → Store → Store → Prop
  | addLog _, s, s' => (s' = { s with
      dates := s'.dates
      times := s'.times
      agentNames := s'.agentNames
      bash := { s.bash with
        systemUsers := s'.bash.systemUsers
        commands := s'.bash.commands
        logs := s'.bash.logs } }) ∧
      s.dates.rows ⊆ s'.dates.rows ∧ s.bash.commands.rows ⊆ s'.bash.commands.rows
  | createDailySystemStatistics, s, s' =>
      s' = { s with bash := { s.bash with dailyStatistics := s'.bash.dailyStatistics } }
  | createStatistics _, s, s' => (s' = { s with bash := { s.bash with
      dailyUserStatistics := s'.bash.dailyUserStatistics
      dailyUserCommandStatistics := s'.bash.dailyUserCommandStatistics } }) ∧
      s.bash.dailyUserStatistics.rows ⊆ s'.bash.dailyUserStatistics.rows
  | train, s, s' =>
      s' = { s with bash := { s.bash with configurations := s'.bash.configurations } }
  | analyze _ _, s, s' =>
      (s' = { s with bash := { s.bash with dailyUserStatistics := s'.bash.dailyUserStatistics } }) ∧
      s'.bash.dailyUserStatistics.rows.map (·.id) = s.bash.dailyUserStatistics.rows.map (·.id)
  | request _, s, s' => RequestWrites s s'
  | getCommandsStatistics _ _ _, s, s' => (s' = { s with
      dates := s'.dates
      bash := { s.bash with commandsStatistics := s'.bash.commandsStatistics } }) ∧
      s.dates.rows ⊆ s'.dates.rows
  | others _ _, s, s' => OthersWrite s s'

/-- Only the requests select commands. -/
lemma Operation.Writes.selectedCommands {x : Operation} {s s' : Store} (h : x.Writes s s')
    (hx : ¬∃ r, x = .request r) : s'.bash.selectedCommands = s.bash.selectedCommands := by
  cases x with
  | request r => exact absurd ⟨r, rfl⟩ hx
  | addLog => rw [h.1]
  | createDailySystemStatistics => rw [h]
  | createStatistics => rw [h.1]
  | train => rw [h]
  | analyze => rw [h.1]
  | getCommandsStatistics => rw [h.1]
  | others => rw [h.bash]

/-- Only `CreateStatistics` counts the commands of a day. -/
lemma Operation.Writes.dailyUserCommandStatistics {x : Operation} {s s' : Store}
    (h : x.Writes s s') (hx : ¬∃ today, x = .createStatistics today) :
    s'.bash.dailyUserCommandStatistics = s.bash.dailyUserCommandStatistics := by
  cases x with
  | createStatistics today => exact absurd ⟨today, rfl⟩ hx
  | addLog => rw [h.1]
  | createDailySystemStatistics => rw [h]
  | train => rw [h]
  | analyze => rw [h.1]
  | request => rw [RequestWrites.others h]
  | getCommandsStatistics => rw [h.1]
  | others => rw [h.bash]

section Steps

variable {R : Store → Store → Prop}

lemma reads_getDateById (id : RowId) : Reads (getDateById id) := by
  refine (reads_query _).bind fun date => ?_
  cases date with
  | none => exact Prog.Steps.throw _
  | some date => exact Prog.Steps.pure date

lemma reads_getAnomalyDetectionConfigurations : Reads getAnomalyDetectionConfigurations := by
  refine (Raw.reads_queryBash _).bind fun rawConfigs =>
    Prog.Steps.foldlM (fun configs config => ?_) _ _
  refine (reads_getDateById _).bind fun beginDate => ?_
  exact (reads_getDateById _).bind fun endDate => Prog.Steps.pure _

lemma steps_runPartially {R : Connection Store → Connection Store → Prop} {α : Type}
    {f : α → ℕ → ℕ → DatabaseM α} (h : ∀ a i j, Prog.Steps R (f a i j))
    (partCount summaryCount : ℕ) (a : α) :
      Prog.Steps R (runPartially partCount summaryCount f a) := by
  rw [runPartially]
  exact Prog.Steps.foldlM (fun a (part : ℕ × ℕ) => h a part.1 part.2) _ _

lemma reads_writeUser (configurationId : RowId) (ids : List RowId)
    (written : List NetworkTrainer.LearningRow × List ℤ) (user : RowId × ℕ) :
    Reads (NetworkTrainer.writeUser configurationId ids written user) := by
  refine (Raw.reads_queryBash _).bind fun count => ?_
  refine Prog.Steps.bind (steps_runPartially (fun written limit offset => ?_) _ _ _) fun _ =>
    Prog.Steps.pure _
  refine (Raw.reads_queryBash _).bind fun statistics =>
    Prog.Steps.foldlM (fun written statistic => ?_) _ _
  exact (Raw.reads_queryBash _).bind fun counts => Prog.Steps.pure _

lemma reads_createLearningSetFile (configurationId : RowId) :
    Reads (NetworkTrainer.createLearningSetFile configurationId) := by
  refine (Raw.reads_queryBash _).bind fun users => ?_
  refine (Raw.reads_queryBash _).bind fun size => ?_
  refine (Raw.reads_queryBash _).bind fun ids => ?_
  refine Prog.Steps.bind (Prog.Steps.foldlM (reads_writeUser configurationId ids) _ _) fun _ => ?_
  exact Prog.Steps.pure _

lemma advances_addAndGetDateId
    (hR : ∀ s date, R s { s with dates := s.dates.insertOrIgnore date }) (date : Date) :
    AdvancesIn R (addAndGetDateId date) := by
  refine (advances_query _).bind fun id => ?_
  split_ifs
  · exact (advances_write fun s => hR s date).bind fun _ => advances_query _
  · exact Prog.Steps.pure id

/-- A log adds to the names. -/
lemma advances_addLog (e : BashLogEntry) :
    AdvancesIn (fun s s' => (Operation.addLog e).Writes s s' ∧
    s.agentNames.rows ⊆ s'.agentNames.rows) (Scripts.addLog e) := by
  rw [Scripts.addLog]
  split_ifs
  · exact Prog.Steps.pure ()
  · refine (advances_write fun s => ⟨⟨rfl, fun _ => UniqueTable.mem_insertOrIgnore _, fun _ => id⟩,
      fun _ => id⟩).bind fun _ => ?_
    refine (advances_write fun s => ⟨⟨rfl, fun _ => id, fun _ => id⟩, fun _ => id⟩).bind fun _ => ?_
    refine (advances_write fun s => ⟨⟨rfl, fun _ => id, fun _ => id⟩,
      fun _ => UniqueTable.mem_insertOrIgnore _⟩).bind fun _ => ?_
    refine (advances_write fun s => ⟨⟨rfl, fun _ => id, fun _ => id⟩, fun _ => id⟩).bind fun _ => ?_
    refine (advances_write fun s => ⟨⟨rfl, fun _ => id, fun _ => UniqueTable.mem_insertOrIgnore _⟩,
      fun _ => id⟩).bind fun _ => ?_
    refine (advances_queryFirst _).bind fun agentNameId => ?_
    refine (advances_query _).bind fun dateId => ?_
    refine (advances_query _).bind fun timeId => ?_
    refine (Raw.advances_queryBash _).bind fun userId => ?_
    exact (Raw.advances_queryBash _).bind fun commandId =>
      advances_write fun s => ⟨⟨rfl, fun _ => id, fun _ => id⟩, fun _ => id⟩

lemma steps_addLog (e : BashLogEntry) :
    StepsIn (Operation.addLog e).Writes (Scripts.addLog e) :=
  (advances_addLog e).steps.mono fun _ _ => And.left

lemma steps_addDailySystemStatistics (statistics : List DailySystemStatistic) :
    StepsIn Operation.createDailySystemStatistics.Writes
      (Raw.addDailySystemStatistics statistics) := by
  refine steps_transaction fun f hf s => ?_
  obtain ⟨statistic, -, rfl⟩ := List.mem_map.mp hf
  rfl

lemma steps_createDailySystemStatistics :
    StepsIn Operation.createDailySystemStatistics.Writes createDailySystemStatistics := by
  have hcollect : ∀ agent date statistics command,
      StepsIn Operation.createDailySystemStatistics.Writes
        (collectStatistic agent date statistics command) := by
    intro agent date statistics command
    refine (Raw.steps_queryBash _).bind fun count => ?_
    dsimp only
    split_ifs
    · exact (steps_addDailySystemStatistics _).bind fun _ => Prog.Steps.pure _
    · exact Prog.Steps.pure _
  refine (steps_query _).bind fun agents => ?_
  refine (Raw.steps_queryBash _).bind fun commands => ?_
  refine Prog.Steps.bind (Prog.Steps.foldlM (fun statistics agent => ?_) _ _) fun statistics =>
    steps_addDailySystemStatistics statistics
  refine (steps_query _).bind fun dates => Prog.Steps.foldlM (fun statistics date => ?_) _ _
  exact Prog.Steps.foldlM (hcollect agent date) _ _

lemma steps_createStatistics (today : Date) :
    StepsIn (Operation.createStatistics today).Writes (createStatistics today) := by
  refine (steps_query _).bind fun currentDateId => ?_
  refine (steps_query _).bind fun agents => Prog.Steps.forM (fun agent => ?_) _
  refine (Raw.steps_queryBash _).bind fun users => Prog.Steps.forM (fun user => ?_) _
  refine (Raw.steps_queryBash _).bind fun dates => Prog.Steps.forM (fun date => ?_) _
  split_ifs
  · exact Prog.Steps.pure ()
  · refine Prog.Steps.bind (Raw.steps_writeBash fun s => ⟨rfl, fun _ => List.mem_append_left _⟩)
      fun _ => ?_
    refine (steps_queryFirst _).bind fun statisticId => ?_
    refine (Raw.steps_queryBash _).bind fun commands => Prog.Steps.forM (fun command => ?_) _
    exact (Raw.steps_queryBash _).bind fun summary =>
      Raw.steps_writeBash fun s => ⟨rfl, fun _ => id⟩

/-- The trainer changes nothing of a configuration but its flag. -/
lemma steps_train_ids : StepsIn (fun s s' => Operation.train.Writes s s' ∧
    s'.bash.configurations.rows.map (·.id) = s.bash.configurations.rows.map (·.id))
      NetworkTrainer.train := by
  refine reads_getAnomalyDetectionConfigurations.steps.bind fun configurations =>
    Prog.Steps.foldlM (fun trained c => ?_) _ _
  rw [NetworkTrainer.trainConfiguration]
  split_ifs
  · refine (reads_createLearningSetFile _).steps.bind fun file => ?_
    refine ((Raw.steps_queryBash _).bind fun users => Prog.Steps.pure _).bind fun outputs => ?_
    exact Prog.Steps.bind (Raw.steps_writeBash fun s => ⟨rfl, List.map_map ..⟩) fun _ =>
      Prog.Steps.pure _
  · exact Prog.Steps.pure _

lemma steps_train : StepsIn Operation.train.Writes NetworkTrainer.train :=
  steps_train_ids.mono fun _ _ => And.left

lemma steps_analyze (debug : Bool) (networks : RowId → List (Option ℚ) → ℕ → ℚ) :
    StepsIn (Operation.analyze debug networks).Writes (Classificator.analyze debug networks) := by
  have hset : ∀ ids classification, StepsIn (Operation.analyze debug networks).Writes
      (Raw.setDailyUserStatisticsClassification ids classification) :=
    fun ids classification => Raw.steps_writeBash fun s => ⟨rfl, List.map_map ..⟩
  have hjudge : ∀ network configurationId ids users judged statistic,
      StepsIn (Operation.analyze debug networks).Writes
        (Classificator.judge debug network configurationId ids users judged statistic) := by
    intro network configurationId ids users judged statistic
    refine (Raw.steps_queryBash _).bind fun counts => ?_
    refine Prog.Steps.bind ?_ fun _ => ?_
    · rw [Classificator.logUser]
      split_ifs
      · exact Prog.Steps.throw _
      · exact Prog.Steps.pure ()
    · split_ifs
      · exact (hset _ _).bind fun _ => Prog.Steps.pure _
      · exact (hset _ _).bind fun _ => Prog.Steps.pure _
  refine reads_getAnomalyDetectionConfigurations.steps.bind fun configurations =>
    Prog.Steps.foldlM (fun judged c => ?_) _ _
  refine (Raw.steps_queryBash _).bind fun ids => ?_
  refine (Raw.steps_queryBash _).bind fun users => ?_
  refine (Raw.steps_queryBash _).bind fun count =>
    steps_runPartially (fun judged limit offset => ?_) _ _ _
  exact (Raw.steps_queryBash _).bind fun statistics => Prog.Steps.foldlM (hjudge _ _ ids users) _ _

lemma advances_addCommandsStatistics {agentNameId : RowId} {beginDate endDate : Date}
    (statistics : List CommandStatistic) :
    AdvancesIn (Operation.getCommandsStatistics agentNameId beginDate endDate).Writes
      (Raw.addCommandsStatistics statistics) := by
  refine advances_transaction fun f hf s => ?_
  obtain ⟨statistic, -, rfl⟩ := List.mem_map.mp hf
  exact ⟨rfl, fun _ => id⟩

lemma advances_getCommandsStatistics (agentNameId : RowId) (beginDate endDate : Date) :
    AdvancesIn (Operation.getCommandsStatistics agentNameId beginDate endDate).Writes
      (WebScripts.getCommandsStatistics agentNameId beginDate endDate) := by
  have hdate : ∀ date, AdvancesIn
      (Operation.getCommandsStatistics agentNameId beginDate endDate).Writes
      (addAndGetDateId date) :=
    advances_addAndGetDateId fun s date => ⟨rfl, fun _ => UniqueTable.mem_insertOrIgnore date⟩
  refine Prog.Steps.bind ?_ fun _ => ?_
  · refine (hdate _).bind fun beginDateId => ?_
    refine (hdate _).bind fun endDateId => ?_
    refine (advances_query _).bind fun dateRangeIds => ?_
    refine (Raw.advances_queryBash _).bind fun commands => ?_
    refine Prog.Steps.bind (Prog.Steps.foldlM (fun statistics command => ?_) _ _) fun statistics =>
      advances_addCommandsStatistics statistics
    refine (Raw.advances_queryBash _).bind fun statisticsExists => ?_
    split_ifs
    · exact Prog.Steps.pure _
    · refine (Raw.advances_queryBash _).bind fun summary => ?_
      dsimp only
      split_ifs
      · exact (advances_addCommandsStatistics _).bind fun _ => Prog.Steps.pure _
      · exact Prog.Steps.pure _
  · refine (hdate _).bind fun beginDateId => ?_
    refine (hdate _).bind fun endDateId => ?_
    refine (Raw.advances_queryBash _).bind fun rawStatistics =>
      Prog.Steps.foldlM (fun statistics st => ?_) _ _
    exact (advances_queryFirst _).bind fun name => Prog.Steps.pure _

lemma steps_getCommandsStatistics (agentNameId : RowId) (beginDate endDate : Date) :
    StepsIn (Operation.getCommandsStatistics agentNameId beginDate endDate).Writes
      (WebScripts.getCommandsStatistics agentNameId beginDate endDate) :=
  (advances_getCommandsStatistics agentNameId beginDate endDate).steps

end Steps

/-- **Every operation writes to its own tables only**, whatever fails in it. -/
lemma steps_operation (x : Operation) : StepsIn x.Writes x.program := by
  cases x with
  | addLog e => exact steps_addLog e
  | createDailySystemStatistics => exact steps_createDailySystemStatistics
  | createStatistics today => exact steps_createStatistics today
  | train => exact steps_train.bind fun _ => Prog.Steps.pure ()
  | analyze debug networks => exact (steps_analyze debug networks).bind fun _ => Prog.Steps.pure ()
  | request r => exact steps_program r
  | getCommandsStatistics agentNameId beginDate endDate =>
      exact (steps_getCommandsStatistics agentNameId beginDate endDate).bind fun _ =>
        Prog.Steps.pure ()
  | others sts h => exact steps_execSql h

/-! ### Runs -/

/-- The states of all runs from the empty database. The environment may make any
statement fail; what the server has not committed is lost when it is started
again. -/
inductive Reached : Connection Store → Prop
  | empty : Reached ⟨Store.empty, none⟩
  | step {c : Connection Store} (x : Operation) (env : ℕ → Option Fault) (h : Reached c) :
      Reached (x.program.run env 0 c).2.2
  | restart {c : Connection Store} (h : Reached c) : Reached ⟨c.committed, none⟩

/-- Those of the runs every step of which meets a condition on the state it starts
from. -/
inductive ReachedBy (meets : Operation → Connection Store → Prop) : Connection Store → Prop
  | empty : ReachedBy meets ⟨Store.empty, none⟩
  | step {c : Connection Store} (x : Operation) (env : ℕ → Option Fault) (h : ReachedBy meets c)
      (hx : meets x c) : ReachedBy meets (x.program.run env 0 c).2.2
  | restart {c : Connection Store} (h : ReachedBy meets c) : ReachedBy meets ⟨c.committed, none⟩

/-- **What every step that meets the condition keeps** holds in every such run, and
of what a rollback brings back. -/
lemma ReachedBy.all {meets : Operation → Connection Store → Prop} {c : Connection Store}
    (h : ReachedBy meets c) {P : Store → Prop} (hempty : P Store.empty)
    (hkeeps : ∀ x env c, meets x c → c.All P → ((x.program.run env 0 c).2.2).All P) : c.All P := by
  induction h with
  | empty => exact ⟨hempty, fun _ hd => nomatch hd⟩
  | step x env _ hx ih => exact hkeeps x env _ hx ih
  | restart _ ih => exact ih.committed

/-- Operations one after another, undisturbed. -/
def runAll (xs : List Operation) (c : Connection Store) : Connection Store :=
  xs.foldl (fun c x => (x.program.run (fun _ => none) 0 c).2.2) c

lemma Reached.runAll {c : Connection Store} (h : Reached c) (xs : List Operation) :
    Reached (runAll xs c) := by
  induction xs generalizing c with
  | nil => exact h
  | cons x xs ih => exact ih (h.step x fun _ => none)

/-- A log of an agent, and the day after it. -/
def someLogEntry : BashLogEntry where
  agentName := cString [97]
  utcTime := ⟨⟨10, 0, 0, Time.checkTime_ten⟩, ⟨1, 1, 2016, Date.checkDate_newYear, Date.fits_2016⟩⟩
  userId := 1000
  command := cString [108, 115]

def dayAfterLog : Date := ⟨2, 1, 2016, Date.checkDate_dayAfterNewYear, Date.fits_2016⟩

/-- **What every operation keeps holds in every run**, and of what a rollback
brings back. -/
lemma Reached.all {c : Connection Store} (h : Reached c) {P : Store → Prop} (hempty : P Store.empty)
    (hkeeps : ∀ x : Operation, Prog.Keeps (fun c => c.All P) x.program) : c.All P := by
  induction h with
  | empty => exact ⟨hempty, fun _ hd => nomatch hd⟩
  | step x env _ ih => exact (hkeeps x).run env 0 ih
  | restart _ ih => exact ih.committed

end Slas.Bash
