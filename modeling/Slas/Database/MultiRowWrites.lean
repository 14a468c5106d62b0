import Mathlib
import Slas.Bash.RawDatabaseFunctions
import Slas.Apache.DatabaseFunctions

/-!
The functions that write several rows in one transaction of their own.

* `MultiRowWrite`: seven of them, with `MultiRowWrite.program`;
* `EndsAtomically`: no transaction is open afterwards, and a failed call has
  changed nothing;
* `FailsHarmlessly`: the call rolls back, or it fails before its transaction has
  begun, or nothing in it fails;
* `endsAtomically_iff`: if at most one statement is made to fail, a call ends
  atomically exactly if it fails harmlessly.

Five of them hand one text to `SQLiteWrapper::Exec` or `sqlite3_exec`, which
stops where it fails; nothing ends the transaction then.
-/

namespace Slas.Database

open Prog (Triple Clean)

/-! ### The functions -/

/-- A call of one of them. -/
inductive MultiRowWrite where
  | addDailySystemStatistics (statistics : List Bash.DailySystemStatistic)
  | addCommandsStatistics (statistics : List Bash.CommandStatistic)
  | addSelectedCommandsIds (configurationId : RowId) (commandNamesIds : List RowId)
  | addLogs (logEntries : List Apache.LogEntry)
  | setLearningSessions (agentId virtualhostId : RowId) (sessionsIds : List RowId)
  | setApacheSessionAsAnomaly (all anomalies : List RowId)
  | addApacheSessionStatistics (sessions : List Apache.SessionEntry)

namespace MultiRowWrite

/-- The call. A function without a result has succeeded when it returns. -/
def program : MultiRowWrite → DatabaseM Bool
  | addDailySystemStatistics statistics =>
      Bash.Raw.addDailySystemStatistics statistics >>= fun _ => pure true
  | addCommandsStatistics statistics =>
      Bash.Raw.addCommandsStatistics statistics >>= fun _ => pure true
  | addSelectedCommandsIds configurationId commandNamesIds =>
      Bash.Raw.addSelectedCommandsIds configurationId commandNamesIds >>= fun _ => pure true
  | addLogs logEntries => Apache.addLogs logEntries >>= fun _ => pure true
  | setLearningSessions agentId virtualhostId sessionsIds =>
      Apache.setLearningSessions agentId virtualhostId sessionsIds >>= fun _ => pure true
  | setApacheSessionAsAnomaly all anomalies =>
      Apache.setApacheSessionAsAnomaly all anomalies >>= fun _ => pure true
  | addApacheSessionStatistics sessions => Apache.addApacheSessionStatistics sessions

/-- The functions that roll back when a statement has failed. -/
def RollsBack : MultiRowWrite → Prop
  | addLogs _ => True
  | addApacheSessionStatistics _ => True
  | _ => False

/-- No insert breaks a `unique` clause. The others are `insert or ignore`, or go
to tables without one. -/
def Accepted (s : Store) : MultiRowWrite → Prop
  | addSelectedCommandsIds configurationId commandNamesIds =>
      commandNamesIds.Nodup ∧
        ∀ id ∈ commandNamesIds, (⟨configurationId, id⟩ : Bash.SelectedCommand)
          ∉ s.bash.selectedCommands.vals
  | _ => True

end MultiRowWrite

/-- How a write ends that began at `c`: no transaction is open, and if it threw or
returned `false` every table is as it was. -/
structure EndsAtomically (c : Connection Store) (r : Except DatabaseException Bool)
    (c' : Connection Store) : Prop where
  idle : c'.Idle
  unchanged : r ≠ .ok true → c'.data = c.data

/-- A call made with faults `env` ends atomically. -/
def MultiRowWrite.Atomic (w : MultiRowWrite) (env : ℕ → Option Fault)
    (c : Connection Store) : Prop :=
  EndsAtomically c (w.program.run env 0 c).1 (w.program.run env 0 c).2.2

/-- The environment makes at most one statement fail. -/
def AtMostOneFault (env : ℕ → Option Fault) : Prop := ∀ m n, env m ≠ none → env n ≠ none → m = n

/-- The function rolls back; or its `begin transaction` is what fails; or nothing
fails, neither by itself nor otherwise. -/
def MultiRowWrite.FailsHarmlessly (w : MultiRowWrite) (env : ℕ → Option Fault) (s : Store) : Prop :=
  w.RollsBack ∨ (∃ fault, env 0 = some fault ∧ fault.position = 0) ∨ (env 0 = none ∧ w.Accepted s)

/-- After a call that ended atomically another transaction can begin. -/
lemma EndsAtomically.begin {c c' : Connection Store} {r : Except DatabaseException Bool}
    (h : EndsAtomically c r c') : (c'.step .begin).isSome := by
  have hstep : c'.step .begin = some { c' with saved := some c'.data } := if_pos h.idle
  rw [hstep]
  rfl

/-! ### One text -/

section Text

variable {env : ℕ → Option Fault} {c : Connection Store}

/-- A transaction in one text ends atomically exactly if it does not begin or all
of it is executed. -/
lemma endsAtomically_text (fs : List (Store → Option Store)) (hc : c.Idle) :
    EndsAtomically c
      ((execSql (.begin :: (fs.map .write ++ [.commit])) >>= fun _ => pure true :
        DatabaseM Bool).run env 0 c).1
      ((execSql (.begin :: (fs.map .write ++ [.commit])) >>= fun _ => pure true :
        DatabaseM Bool).run env 0 c).2.2 ↔
    (∃ fault, env 0 = some fault ∧ fault.position = 0) ∨
      (env 0 = none ∧ (Connection.tryAll fs c.data).isSome) := by
  set sts := Statement.begin :: (fs.map Statement.write ++ [Statement.commit]) with hsts
  set fault := (env 0).map fun f => min f.position (sts.length - 1) with hfault
  have hrun : (execSql sts >>= fun _ => pure true : DatabaseM Bool).run env 0 c
      = (if (c.execute fault sts).1 then .ok true
          else .error .cantExecuteSqlStatementException, 1, (c.execute fault sts).2) := by
    rw [Prog.run_bind, execSql, Prog.run_lift, ← hfault]
    generalize c.execute fault sts = ended
    rcases ended with ⟨_ | _, c'⟩ <;> rfl
  have hlength : sts.length - 1 = fs.length + 1 := by simp [hsts]
  have hle : ∀ k ∈ fault, k ≤ fs.length + 1 := by
    intro k hk
    obtain ⟨f, -, rfl⟩ := Option.map_eq_some_iff.mp hk
    exact hlength ▸ min_le_right _ _
  have hzero : fault = some 0 ↔ ∃ f, env 0 = some f ∧ f.position = 0 := by
    rw [hfault, Option.map_eq_some_iff, hlength]
    refine exists_congr fun f => and_congr_right fun _ => ?_
    omega
  have hidle := Connection.idle_execute_text_iff hle hc
  have hok := Connection.execute_text_ok_iff fs hle c
  rw [← hsts] at hidle hok
  have hnone : fault = none ↔ env 0 = none := Option.map_eq_none_iff
  rw [and_iff_right hc, hnone] at hok
  rw [hrun, ← hzero, ← hok, ← hidle]
  refine ⟨fun h => h.idle, fun h => ⟨h, fun hne => ?_⟩⟩
  -- without an open transaction nothing has begun
  rcases hidle.mp h with hfirst | hdone
  · rw [hfirst, hsts, Connection.execute_fault_zero]
  · rw [if_pos hdone] at hne
    exact absurd rfl hne

/-- The same for writes no constraint refuses. -/
lemma endsAtomically_writes (fs : List (Store → Store)) (hc : c.Idle) :
    EndsAtomically c
      ((execSql (.begin :: (Connection.writes fs ++ [.commit])) >>= fun _ => pure true :
        DatabaseM Bool).run env 0 c).1
      ((execSql (.begin :: (Connection.writes fs ++ [.commit])) >>= fun _ => pure true :
        DatabaseM Bool).run env 0 c).2.2 ↔
    (∃ fault, env 0 = some fault ∧ fault.position = 0) ∨ env 0 = none := by
  have hwrites : Connection.writes fs
      = (fs.map fun f d => some (f d)).map Statement.write := (List.map_map ..).symm
  rw [hwrites, endsAtomically_text _ hc, Connection.tryAll_writes]
  simp

/-- The inserts of selected commands are accepted if no key comes twice. -/
lemma tryAll_insertSelectedCommand (configurationId : RowId) (commandNamesIds : List RowId)
    (s : Store) :
    (Connection.tryAll (commandNamesIds.map (Bash.Raw.insertSelectedCommand configurationId))
      s).isSome ↔ (MultiRowWrite.addSelectedCommandsIds configurationId
        commandNamesIds).Accepted s := by
  rw [Bash.Raw.tryAll_insertSelectedCommands, Option.isSome_map,
    UniqueTable.foldlM_insertNew_eq_some_iff, List.map_map]
  refine and_congr ?_ ?_
  · refine List.nodup_map_iff fun id id' h => ?_
    exact congrArg Bash.SelectedCommand.commandId h
  · simp only [UniqueTable.idOf?_eq_none, Table.vals, List.mem_map, not_exists, not_and, id,
      forall_exists_index, and_imp, forall_apply_eq_imp_iff₂, ne_eq]

end Text

/-! ### The functions that roll back -/

section Rollback

variable {env : ℕ → Option Fault} {d : Store}

/-- Nothing has failed so far, and the transaction began at `d`. -/
def Begun (env : ℕ → Option Fault) (d : Store) (n : ℕ) (c : Connection Store) : Prop :=
  Clean env n ∧ c.saved = some d

/-- Something has failed, nothing else will, and the transaction is still open. -/
def Failed (env : ℕ → Option Fault) (d : Store) (n : ℕ) (c : Connection Store) : Prop :=
  (∀ m, n ≤ m → env m = none) ∧ c.saved = some d

/-- A statement that is made to fail is the only one. -/
lemma Begun.failed (hone : AtMostOneFault env) {n : ℕ} {c : Connection Store}
    (h : Begun env d n c) (hn : env n ≠ none) : Failed env d (n + 1) c := by
  refine ⟨fun m hm => ?_, h.2⟩
  by_contra hne
  have := hone m n hne hn
  omega

/-- A statement of the transaction that nothing refuses. -/
lemma triple_statement (hone : AtMostOneFault env) {st : Statement Store}
    {Q : Unit → ℕ → Connection Store → Prop}
    (hst : ∀ n c, Begun env d n c → ∃ c', c.step st = some c' ∧
      (Clean env (n + 1) → Q () (n + 1) c')) :
    Triple env (Begun env d) (execSql [st]) Q fun _ => Failed env d := by
  refine triple_execSql fun n c hc => ⟨fun henv => ?_, fun henv => hc.failed hone henv⟩
  obtain ⟨c', hstep, hQ⟩ := hst n c hc
  rw [hstep]
  exact hQ (hc.1.succ henv)

/-- The handler of `AddLogs`. -/
lemma triple_handler (ex : DatabaseException) :
    Triple env (Failed env d) (do
        execSql [.rollback]
        throw ex : DatabaseM Unit)
      (fun _ _ c => c.Idle) (fun _ _ c => c = ⟨d, none⟩) := by
  refine Triple.bind (Q := fun _ _ c => c = (⟨d, none⟩ : Connection Store)) ?_ fun _ _ _ h => h
  refine triple_execSql fun n c hc => ⟨fun _ => ?_, fun henv => absurd (hc.1 n le_rfl) henv⟩
  rw [Connection.step, hc.2]
  rfl

/-- **`AddLogs` after its `begin transaction`.** -/
lemma triple_addLogs_begun (hone : AtMostOneFault env) (logEntries : List Apache.LogEntry) :
    Triple env (Begun env d)
      (tryCatch (do
          logEntries.forM fun entry => Apache.writeApache (Apache.insertLog entry)
          execSql [.commit])
        fun ex => do
          execSql [.rollback]
          throw ex)
      (fun _ _ c => c.Idle) (fun _ _ c => c = ⟨d, none⟩) := by
  refine Triple.tryCatch ?_ fun ex => triple_handler ex
  refine Triple.bind (Triple.forM (fun entry => ?_) logEntries) fun _ => ?_
  · exact triple_statement hone fun n c hc => ⟨_, rfl, fun hclean => ⟨hclean, hc.2⟩⟩
  · refine triple_statement hone fun n c hc => ⟨{ c with saved := none }, ?_, fun _ => rfl⟩
    simp [Connection.step, hc.2]

/-- The end of a call of `AddApacheSessionStatistics`. -/
def Ended (d : Store) (success : Bool) (_ : ℕ) (c : Connection Store) : Prop :=
  c.Idle ∧ (success = false → c.data = d)

/-- What follows a statement of `AddApacheSessionStatistics` that failed. -/
lemma triple_failed (code : ResultCode) (p : DatabaseM Bool) :
    Triple env (Failed env d) (if some code = some .busy then do
          Apache.rollback
          pure false
        else do
          Apache.statementCheckForErrorAndRollback (some code)
          p)
      (Ended d) (fun _ _ c => c = ⟨d, none⟩) := by
  have hrollback : Triple env (Failed env d) Apache.rollback (fun _ _ c => c = ⟨d, none⟩)
      (fun _ _ c => c = ⟨d, none⟩) := by
    refine Triple.bind (Q := fun ret _ c => ret = none ∧ c = ⟨d, none⟩) ?_ fun ret n c h => ?_
    · refine triple_tryExec fun n c hc => ⟨fun _ => ?_, fun fault henv => ?_⟩
      · rw [Connection.step, hc.2]
        exact ⟨rfl, rfl⟩
      · rw [hc.1 n le_rfl] at henv
        cases henv
    · obtain ⟨rfl, rfl⟩ := h
      rfl
  cases code with
  | busy =>
      rw [if_pos rfl]
      exact hrollback.bind fun _ => Triple.pure fun _ c hc => by rw [hc]; exact ⟨rfl, fun _ => rfl⟩
  | error =>
      rw [if_neg (by simp)]
      refine Triple.bind (Q := fun _ _ _ => False) ?_ fun _ _ _ h => absurd h not_false
      exact hrollback.bind fun _ _ _ h => h

/-- A statement of `AddApacheSessionStatistics`, for the result code. -/
lemma triple_tryStatement (hone : AtMostOneFault env) {st : Statement Store}
    {Q : ℕ → Connection Store → Prop} {E : DatabaseException → ℕ → Connection Store → Prop}
    (hst : ∀ n c, Begun env d n c → ∃ c', c.step st = some c' ∧
    (Clean env (n + 1) → Q (n + 1) c')) :
    Triple env (Begun env d) (tryExec [st])
      (fun ret n c => match ret with
        | none => Q n c
        | some _ => Failed env d n c) E := by
  refine triple_tryExec fun n c hc => ⟨fun henv => ?_, fun fault henv => ?_⟩
  · obtain ⟨c', hstep, hQ⟩ := hst n c hc
    rw [hstep]
    exact hQ (hc.1.succ henv)
  · exact hc.failed hone (by simp [henv])

/-- **`AddApacheSessionStatistics` after its `begin transaction`.** -/
lemma triple_addSessionEntries_begun (hone : AtMostOneFault env)
    (sessions : List Apache.SessionEntry) :
    Triple env (Begun env d) (Apache.addSessionEntries sessions) (Ended d)
      (fun _ _ c => c = ⟨d, none⟩) := by
  induction sessions with
  | nil =>
      refine Triple.bind (triple_tryStatement (Q := fun _ c => c.Idle) hone fun n c hc =>
        ⟨{ c with saved := none }, by simp [Connection.step, hc.2], fun _ => rfl⟩) fun ret => ?_
      cases ret with
      | none => exact Triple.pure fun _ _ hc => ⟨hc, fun h => by cases h⟩
      | some code => exact triple_failed code _
  | cons entry sessions ih =>
      refine Triple.bind (triple_tryStatement (Q := Begun env d) hone fun n c hc =>
        ⟨_, rfl, fun hclean => ⟨hclean, hc.2⟩⟩) fun ret => ?_
      cases ret with
      | none => exact ih
      | some code => exact triple_failed code _

/-- A `begin transaction` on an idle connection, and what follows it. -/
lemma triple_begin {α : Type} {c : Connection Store} (hc : c.Idle) {p : Unit → DatabaseM α}
    {Q : α → ℕ → Connection Store → Prop}
    (hp : Triple env (Begun env c.data) (p ()) Q fun _ _ c' => c' = ⟨c.data, none⟩) :
    Triple env (fun n c' => n = 0 ∧ c' = c) (execSql [.begin] >>= p) Q
      fun _ _ c' => c' = ⟨c.data, none⟩ := by
  refine Triple.bind (Q := fun _ n c' => Begun env c.data n c') ?_ fun _ => hp
  refine triple_execSql fun n c' hn => ?_
  obtain ⟨rfl, rfl⟩ := hn
  have hstep : c'.step .begin = some { c' with saved := some c'.data } := if_pos hc
  rw [hstep]
  refine ⟨fun henv => ⟨(Prog.clean_zero env).succ henv, rfl⟩, fun _ => ?_⟩
  rw [← show c'.saved = none from hc]

/-- A call that ends in one of these ways ends atomically. -/
lemma endsAtomically_of_triple {c : Connection Store} {p : DatabaseM Bool}
    (h : Triple env (fun n c' => n = 0 ∧ c' = c) p (Ended c.data)
      fun _ _ c' => c' = ⟨c.data, none⟩) :
    EndsAtomically c (p.run env 0 c).1 (p.run env 0 c).2.2 := by
  have := h 0 c ⟨rfl, rfl⟩
  rcases hrun : p.run env 0 c with ⟨e | success, n, c'⟩ <;> rw [hrun] at this
  · rw [this]
    exact ⟨rfl, fun _ => rfl⟩
  · refine ⟨this.1, fun hne => this.2 ?_⟩
    cases success with
    | false => rfl
    | true => exact absurd rfl hne

lemma atomic_addLogs (hone : AtMostOneFault env) {c : Connection Store} (hc : c.Idle)
    (logEntries : List Apache.LogEntry) : (MultiRowWrite.addLogs logEntries).Atomic env c := by
  refine endsAtomically_of_triple ?_
  refine Triple.bind (triple_begin hc (triple_addLogs_begun hone logEntries)) fun _ => ?_
  exact Triple.pure fun _ _ hidle => ⟨hidle, fun h => nomatch h⟩

lemma atomic_addApacheSessionStatistics (hone : AtMostOneFault env) {c : Connection Store}
    (hc : c.Idle) (sessions : List Apache.SessionEntry) :
    (MultiRowWrite.addApacheSessionStatistics sessions).Atomic env c := by
  refine endsAtomically_of_triple ?_
  have hbody := triple_addSessionEntries_begun (d := c.data) hone sessions
  refine Triple.bind (Q := fun ret n c' => match ret with
      | none => Begun env c.data n c'
      | some _ => c' = ⟨c.data, none⟩) ?_ fun ret => ?_
  · refine triple_tryExec fun n c' hn => ?_
    obtain ⟨rfl, rfl⟩ := hn
    have hstep : c'.step .begin = some { c' with saved := some c'.data } := if_pos hc
    rw [hstep]
    refine ⟨fun henv => ⟨(Prog.clean_zero env).succ henv, rfl⟩, fun _ _ => ?_⟩
    rw [← show c'.saved = none from hc]
  · cases ret with
    | none => exact hbody
    | some code => exact fun _ _ h => h

end Rollback

/-! ### All of them -/

section All

variable {env : ℕ → Option Fault} {c : Connection Store}

/-- **When the multi-row writes are atomic.** Whichever statement is made to fail,
a call that began with no transaction open ends atomically exactly if it fails
harmlessly. -/
theorem endsAtomically_iff (hone : AtMostOneFault env) (hc : c.Idle) (w : MultiRowWrite) :
    w.Atomic env c ↔ w.FailsHarmlessly env c.data := by
  have hwrites : (∃ fault, env 0 = some fault ∧ fault.position = 0) ∨ env 0 = none ↔
      False ∨ (∃ fault, env 0 = some fault ∧ fault.position = 0) ∨ (env 0 = none ∧ True) := by
    simp
  cases w with
  | addLogs logEntries => exact iff_of_true (atomic_addLogs hone hc logEntries) (.inl trivial)
  | addApacheSessionStatistics sessions =>
      exact iff_of_true (atomic_addApacheSessionStatistics hone hc sessions) (.inl trivial)
  | addSelectedCommandsIds configurationId commandNamesIds =>
      refine (endsAtomically_text _ hc).trans ?_
      rw [tryAll_insertSelectedCommand]
      exact (or_iff_right not_false).symm
  | addDailySystemStatistics statistics => exact (endsAtomically_writes _ hc).trans hwrites
  | addCommandsStatistics statistics => exact (endsAtomically_writes _ hc).trans hwrites
  | setLearningSessions agentId virtualhostId sessionsIds =>
      exact (endsAtomically_writes _ hc).trans hwrites
  | setApacheSessionAsAnomaly all anomalies =>
      exact (endsAtomically_writes _ hc).trans hwrites

/-- The call `k` fails, at the statement `position` of its text. -/
def failingAt (k position : ℕ) (n : ℕ) : Option Fault :=
  if n = k then some ⟨position, .error⟩ else none

lemma atMostOneFault_failingAt (k position : ℕ) : AtMostOneFault (failingAt k position) := by
  have heq : ∀ n, failingAt k position n ≠ none → n = k := fun n hn => by
    by_contra hne
    exact hn (if_neg hne)
  intro m n hm hn
  rw [heq m hm, heq n hn]

/-- A request at ten o'clock. -/
def tenOClock : Apache.LogEntry where
  agentName := cString [97]
  virtualhost := cString [118]
  clientIp := cString [49]
  time := ⟨⟨10, 0, 0, Time.checkTime_ten⟩, ⟨1, 1, 2016, Date.checkDate_newYear, Date.fits_2016⟩⟩
  request := cString [71]
  statusCode := 200
  bytes := 1
  userAgent := cString [98]
  usedInStatistics := false

/-- The second insert fails: the one of `AddLogs` is undone, that of `AddSelectedCommandsIds`
leaves the first in an open transaction. -/
theorem endsAtomically_iff_secondInsert :
    (MultiRowWrite.addLogs [tenOClock, tenOClock]).Atomic (failingAt 2 0) ⟨Store.empty, none⟩ ∧
      ¬(MultiRowWrite.addSelectedCommandsIds 1 [1, 2]).Atomic (failingAt 0 2)
        ⟨Store.empty, none⟩ := by
  constructor
  · exact (endsAtomically_iff (c := ⟨Store.empty, none⟩) (atMostOneFault_failingAt 2 0) rfl _).mpr
      (.inl trivial)
  · rw [endsAtomically_iff (c := ⟨Store.empty, none⟩) (atMostOneFault_failingAt 0 2) rfl]
    rintro (h | ⟨fault, hfault, hposition⟩ | ⟨hnone, -⟩)
    · exact h
    · obtain rfl := Option.some.inj hfault
      cases hposition
    · cases hnone

/-- A command selected twice: the second insert is refused, and the transaction
stays open. -/
theorem not_endsAtomically_repeated :
    ¬(MultiRowWrite.addSelectedCommandsIds 1 [1, 1]).Atomic (fun _ => none) ⟨Store.empty, none⟩ :=
  fun h => absurd (congrArg Option.isSome h.idle) (by decide)

end All

end Slas.Database
