import Mathlib
import Slas.Lib.Refinement
import Slas.Lib.Interleave
import Slas.Apache.DatabaseFunctions

/-!
What the threads write over the connection they share: `server/src/main.cpp` hands the one
connection to the D-Bus thread, the analyzer thread and the web command thread.

* `execSql`, `tryExec`: statements that come to their end, whether they fail or not;
* `tryStep`: a statement that stays before its end when SQLite is busy;
* `addLogs`, `addApacheSessionStatistics`, `writeUnguarded`, `setLearningSessions`: the
  functions;
* `Operation`: what the threads write, with `Operation.program` and `Operation.effect`;
* `can_toConnection`: the programs do what the functions of `Slas.Apache` do, once the
  statement that stays is forgotten;
* `steps_program`: no call ends a statement that has stayed.

`Database::AddApacheSessionStatistics` returns without `Finalize` when the `Step` of an
insert is busy, and `Database::SetApacheAnomalyDetectionConfiguration` throws without it.
The statements of the other functions are finalized in a handler or executed by `Exec`.
-/

namespace Slas.Apache.Shared

open Database Interleave

/-- Programs on the connection that the threads share. -/
abbrev SharedM := Prog (SharedConnection Store) Fault DatabaseException

/-- `SQLiteWrapper::Exec`, or one prepared statement that is finalized in any case. -/
def execSql (sts : List (Statement Store)) : SharedM Unit :=
  Prog.lift fun fault s =>
    match s.execute (fault.map fun f => min f.position (sts.length - 1)) sts with
    | (true, s') => (.ok (), s')
    | (false, s') => (.error .cantExecuteSqlStatementException, s')

/-- The connection when a statement fails at its `Step`: a busy one stays. -/
def atStep (s : SharedConnection Store) : ResultCode → SharedConnection Store
  | .busy => s.leave
  | .error => s

/-- The code of a statement that fails by itself: a transaction cannot end while a
statement has stayed. -/
def refusal : SharedConnection Store → Statement Store → ResultCode
  | .held _ _ true, .commit => .busy
  | _, _ => .error

/-- One statement, for the result code; `left` is the connection when the environment makes
it fail. -/
def attempt (left : SharedConnection Store → ResultCode → SharedConnection Store)
    (st : Statement Store) : SharedM (Option ResultCode) :=
  Prog.lift fun fault s => match fault, s.step st with
    | some f, _ => (.ok (some f.code), left s f.code)
    | none, none => (.ok (some (refusal s st)), s)
    | none, some s' => (.ok none, s')

/-- `Exec` of one statement in `database.cpp`, which looks at the result code itself. -/
def tryExec (st : Statement Store) : SharedM (Option ResultCode) := attempt (fun s _ => s) st

/-- A prepared statement of `database.cpp` from `Prepare` to `Finalize`, which is not
reached when it fails. -/
def tryStep (st : Statement Store) : SharedM (Option ResultCode) := attempt atStep st

/-- `Database::StatementCheckForError`. -/
def statementCheckForError (returnValue : Option ResultCode) : SharedM Unit :=
  match returnValue with
  | none => pure ()
  | some _ => throw .cantExecuteSqlStatementException

/-! ### The functions -/

/-- `DatabaseFunctions::AddLogs`. -/
def addLogs (logEntries : List LogEntry) : SharedM Unit := do
  execSql [.begin]
  tryCatch
    (do
      logEntries.forM fun entry => execSql
        [.write fun s => some { s with apache := insertLog entry s.apache }]
      execSql [.commit])
    fun ex => do
      execSql [.rollback]
      throw ex

/-- `Database::Rollback`. -/
def rollback : SharedM Unit := do
  let ret ← tryExec .rollback
  statementCheckForError ret

/-- `Database::StatementCheckForErrorAndRollback`. -/
def statementCheckForErrorAndRollback (returnValue : Option ResultCode) : SharedM Unit :=
  match returnValue with
  | none => pure ()
  | some _ => do
      rollback
      throw .cantExecuteSqlStatementException

/-- The loop of `Database::AddApacheSessionStatistics` and the end of the transaction. -/
def addSessionEntries : List SessionEntry → SharedM Bool
  | [] => do
      let ret ← tryExec .commit
      if ret = some .busy then
        rollback
        pure false
      else
        statementCheckForErrorAndRollback ret
        pure true
  | entry :: sessions => do
      let ret ← tryStep (sessionStatement entry)
      if ret = some .busy then
        rollback
        pure false
      else
        statementCheckForErrorAndRollback ret
        addSessionEntries sessions

/-- `Database::AddApacheSessionStatistics`. -/
def addApacheSessionStatistics (sessions : List SessionEntry) : SharedM Bool := do
  let ret ← tryExec .begin
  statementCheckForError ret
  addSessionEntries sessions

/-- A write whose statement is finalized only if it does not fail, as that of
`Database::SetApacheAnomalyDetectionConfiguration`. -/
def writeUnguarded (f : Store → Store) : SharedM Unit := do
  let ret ← tryStep (.write fun s => some (f s))
  statementCheckForError ret

/-- `DatabaseFunctions::SetLearningSessions`, one text. -/
def setLearningSessions (agentId virtualhostId : RowId) (sessionsIds : List RowId) :
    SharedM Unit :=
  execSql (.begin :: (Connection.writes (sessionsIds.map fun id s =>
    { s with apache := insertLearningSession agentId virtualhostId id s.apache }) ++ [.commit]))

/-! ### The operations -/

/-- The threads with a part in it. -/
inductive Writer where
  | dbus
  | analyzer
  | web
  deriving DecidableEq

/-- What they write. `writeUnguarded` is a write like that of
`Database::SetApacheAnomalyDetectionConfiguration`. -/
inductive Operation where
  | addLogs (logEntries : List LogEntry)
  | addSessionStatistics (sessions : List SessionEntry)
  | setLearningSessions (agentId virtualhostId : RowId) (sessionsIds : List RowId)
  | write (f : Store → Store)
  | writeUnguarded (f : Store → Store)

/-- Which thread runs which operations. -/
def Writer.runs : Writer → Operation → Prop
  | .dbus, .addLogs _ => True
  | .analyzer, .addSessionStatistics _ => True
  | .web, .setLearningSessions _ _ _ => True
  | .web, .write _ => True
  | .web, .writeUnguarded _ => True
  | _, _ => False

/-- The program of an operation. One without a result succeeds by returning. -/
def Operation.program : Operation → SharedM Bool
  | addLogs logEntries => Shared.addLogs logEntries >>= fun _ => pure true
  | addSessionStatistics sessions => Shared.addApacheSessionStatistics sessions
  | setLearningSessions agentId virtualhostId sessionsIds =>
      Shared.setLearningSessions agentId virtualhostId sessionsIds >>= fun _ => pure true
  | write f => execSql [.write fun s => some (f s)] >>= fun _ => pure true
  | writeUnguarded f => Shared.writeUnguarded f >>= fun _ => pure true

/-- The rows of an operation stored. -/
def Operation.effect : Operation → Store → Store
  | addLogs logEntries, s =>
      { s with apache := logEntries.foldl (fun t e => insertLog e t) s.apache }
  | addSessionStatistics sessions, s => { s with apache := insertSessions sessions s.apache }
  | setLearningSessions agentId virtualhostId sessionsIds, s => Connection.applyAll
      (sessionsIds.map fun id s =>
        { s with apache := insertLearningSession agentId virtualhostId id s.apache }) s
  | write f, s => f s
  | writeUnguarded f, s => f s

/-! ### The functions of one thread -/

/-- The operation as a program on a connection of its own. -/
def Operation.alone : Operation → DatabaseM Bool
  | addLogs logEntries => Apache.addLogs logEntries >>= fun _ => pure true
  | addSessionStatistics sessions => Apache.addApacheSessionStatistics sessions
  | setLearningSessions agentId virtualhostId sessionsIds =>
      Apache.setLearningSessions agentId virtualhostId sessionsIds >>= fun _ => pure true
  | write f => Database.write f >>= fun _ => pure true
  | writeUnguarded f => Database.write f >>= fun _ => pure true

/-- No statement has stayed. -/
def IsFree (s : SharedConnection Store) : Prop := ∃ c, s = .free c

lemma refines_execSql (sts : List (Statement Store)) :
    Prog.Refines IsFree SharedConnection.toConnection (execSql sts) (Database.execSql sts) := by
  rintro s ⟨c, rfl⟩ r s' hcan
  obtain ⟨fault, hop⟩ := Prog.can_lift.mp hcan
  rw [SharedConnection.execute_free] at hop
  rcases hexec : c.execute (fault.map fun f => min f.position (sts.length - 1)) sts with ⟨_ | _, c'⟩
  · rw [hexec] at hop
    obtain ⟨rfl, rfl⟩ := Prod.mk.inj hop
    exact ⟨⟨c', rfl⟩, Prog.can_lift.mpr
      ⟨fault, by rw [SharedConnection.toConnection_free, hexec]; rfl⟩⟩
  · rw [hexec] at hop
    obtain ⟨rfl, rfl⟩ := Prod.mk.inj hop
    exact ⟨⟨c', rfl⟩, Prog.can_lift.mpr
      ⟨fault, by rw [SharedConnection.toConnection_free, hexec]; rfl⟩⟩

lemma refines_addLogs (logEntries : List LogEntry) :
    Prog.Refines IsFree SharedConnection.toConnection (addLogs logEntries)
      (Apache.addLogs logEntries) :=
  (refines_execSql _).bind fun _ => Prog.Refines.tryCatch
    ((Prog.Refines.forM (fun entry => refines_execSql
      [.write fun s => some { s with apache := insertLog entry s.apache }]) logEntries).bind
        fun _ => refines_execSql _)
    fun ex => (refines_execSql _).bind fun _ => .throw ex

/-- One statement, where it does what it does without the one that has stayed. -/
lemma can_attempt {left : SharedConnection Store → ResultCode → SharedConnection Store}
    {st : Statement Store} {s s' : SharedConnection Store}
    (hleft : ∀ code, (left s code).toConnection = s.toConnection)
    (hst : (s.step st).map SharedConnection.toConnection = s.toConnection.step st)
    (hrefusal : refusal s st = .error) {r : Except DatabaseException (Option ResultCode)}
    (h : (attempt left st).Can s r s') :
    (Database.tryExec [st]).Can s.toConnection r s'.toConnection ∧
      (r = .ok none → s.step st = some s') := by
  obtain ⟨fault, hop⟩ := Prog.can_lift.mp h
  cases fault with
  | some f =>
      obtain ⟨rfl, rfl⟩ := Prod.mk.inj hop
      refine ⟨Prog.can_lift.mpr ⟨some f, ?_⟩, fun hr => by simp at hr⟩
      rw [Option.map_some, Connection.execute_singleton_fault, hleft]
      rfl
  | none =>
      cases hstep : s.step st with
      | none =>
          rw [hstep] at hst hop
          obtain ⟨rfl, rfl⟩ := Prod.mk.inj hop
          refine ⟨Prog.can_lift.mpr ⟨none, ?_⟩, fun hr => by simp at hr⟩
          rw [Option.map_none, Connection.execute_none, ← hst, hrefusal]
          rfl
      | some s₁ =>
          rw [hstep] at hst hop
          obtain ⟨rfl, rfl⟩ := Prod.mk.inj hop
          refine ⟨Prog.can_lift.mpr ⟨none, ?_⟩, fun _ => rfl⟩
          rw [Option.map_none, Connection.execute_none, ← hst]
          simp

lemma toConnection_atStep (c : Connection Store) (code : ResultCode) :
    (atStep (.free c) code).toConnection = c := by
  cases code with
  | busy => exact SharedConnection.toConnection_leave c
  | error => rfl

/-- One statement on a connection on which none has stayed; if it does not fail, none has
stayed then. -/
lemma can_attempt_free {left : SharedConnection Store → ResultCode → SharedConnection Store}
    {st : Statement Store} {c : Connection Store} {s : SharedConnection Store}
    (hleft : ∀ code, (left (.free c) code).toConnection = c)
    {r : Except DatabaseException (Option ResultCode)} (h : (attempt left st).Can (.free c) r s) :
    (Database.tryExec [st]).Can c r s.toConnection ∧ (r = .ok none → IsFree s) := by
  have hstep : (SharedConnection.free c).step st = (c.step st).map .free := rfl
  have hst : ((SharedConnection.free c).step st).map SharedConnection.toConnection
      = c.step st := by
    rw [hstep, Option.map_map]
    exact Option.map_id'
  obtain ⟨hcan, hfree⟩ := can_attempt hleft hst rfl h
  refine ⟨hcan, fun hr => ?_⟩
  obtain ⟨c', -, rfl⟩ := Option.map_eq_some_iff.mp (hstep ▸ hfree hr)
  exact ⟨c', rfl⟩

lemma can_statementCheckForError {ret : Option ResultCode} {s s' : SharedConnection Store}
    {r : Except DatabaseException Unit} (h : (statementCheckForError ret).Can s r s') :
    (Apache.statementCheckForError ret).Can s.toConnection r s'.toConnection := by
  cases ret with
  | none =>
      obtain ⟨rfl, rfl⟩ := h
      exact ⟨rfl, rfl⟩
  | some code =>
      obtain ⟨rfl, rfl⟩ := h
      exact ⟨rfl, rfl⟩

/-- A `rollback` does the same with a statement that has stayed. -/
lemma can_rollback {s s' : SharedConnection Store} {r : Except DatabaseException Unit}
    (h : rollback.Can s r s') : Apache.rollback.Can s.toConnection r s'.toConnection := by
  have hrollback : ∀ {ret s₁}, (tryExec .rollback).Can s ret s₁ →
      (Database.tryExec [.rollback]).Can s.toConnection ret s₁.toConnection := by
    intro ret s₁ hret
    rcases s with c | ⟨data, stored, _ | _⟩
    · exact (can_attempt_free (fun _ => rfl) hret).1
    · exact (can_attempt (fun _ => rfl) rfl rfl hret).1
    · exact (can_attempt (fun _ => rfl) rfl rfl hret).1
  rcases Prog.can_bind.mp h with ⟨e, rfl, he⟩ | ⟨ret, s₁, hret, hrest⟩
  · exact Prog.can_bind.mpr (.inl ⟨e, rfl, hrollback he⟩)
  · exact Prog.can_bind.mpr
      (.inr ⟨ret, s₁.toConnection, hrollback hret, can_statementCheckForError hrest⟩)

/-- The `rollback` and what comes after it. -/
lemma can_rollback_bind {α : Type} {k : SharedM α} {k' : DatabaseM α}
    {s s' : SharedConnection Store}
    {r : Except DatabaseException α} (h : (rollback >>= fun _ => k).Can s r s')
    (hk : ∀ s₁, k.Can s₁ r s' → k'.Can s₁.toConnection r s'.toConnection) :
    (Apache.rollback >>= fun _ => k').Can s.toConnection r s'.toConnection := by
  rcases Prog.can_bind.mp h with ⟨e, rfl, he⟩ | ⟨_, s₁, hroll, hrest⟩
  · exact Prog.can_bind.mpr (.inl ⟨e, rfl, can_rollback he⟩)
  · exact Prog.can_bind.mpr (.inr ⟨(), s₁.toConnection, can_rollback hroll, hk s₁ hrest⟩)

/-- What follows a statement of `AddApacheSessionStatistics`: only a `rollback` is made on a
connection on which one has stayed. -/
lemma can_afterStatement {ret : Option ResultCode} {k : SharedM Bool} {k' : DatabaseM Bool}
    {s s' : SharedConnection Store} {r : Except DatabaseException Bool}
    (hk : ret = none → k.Can s r s' → k'.Can s.toConnection r s'.toConnection)
    (h : (if ret = some .busy then do
          rollback
          pure false
        else do
          statementCheckForErrorAndRollback ret
          k : SharedM Bool).Can s r s') :
    (if ret = some .busy then do
          Apache.rollback
          pure false
        else do
          Apache.statementCheckForErrorAndRollback ret
          k' : DatabaseM Bool).Can s.toConnection r s'.toConnection := by
  rcases ret with _ | _ | _
  · exact hk rfl h
  · refine can_rollback_bind (k := (pure false : SharedM Bool)) h ?_
    rintro s₁ ⟨rfl, rfl⟩
    exact ⟨rfl, rfl⟩
  · rw [if_neg (by simp)] at h ⊢
    rw [statementCheckForErrorAndRollback, bind_assoc] at h
    rw [Apache.statementCheckForErrorAndRollback, bind_assoc]
    refine can_rollback_bind h ?_
    rintro s₁ ⟨rfl, rfl⟩
    exact ⟨rfl, rfl⟩

/-- A statement and what follows it. -/
lemma can_attempt_bind {left : SharedConnection Store → ResultCode → SharedConnection Store}
    {st : Statement Store} {c : Connection Store} {s : SharedConnection Store} {α : Type}
    {k : Option ResultCode → SharedM α} {k' : Option ResultCode → DatabaseM α}
    {r : Except DatabaseException α} (hleft : ∀ code, (left (.free c) code).toConnection = c)
    (h : (attempt left st >>= k).Can (.free c) r s)
    (hk : ∀ ret s₁, (ret = none → IsFree s₁) → (k ret).Can s₁ r s →
      (k' ret).Can s₁.toConnection r s.toConnection) :
    (Database.tryExec [st] >>= k').Can c r s.toConnection := by
  rcases Prog.can_bind.mp h with ⟨e, rfl, he⟩ | ⟨ret, s₁, hret, hrest⟩
  · exact Prog.can_bind.mpr (.inl ⟨e, rfl, (can_attempt_free hleft he).1⟩)
  · obtain ⟨hcan, hfree⟩ := can_attempt_free hleft hret
    exact Prog.can_bind.mpr (.inr ⟨ret, s₁.toConnection, hcan,
      hk ret s₁ (fun hr => hfree (congrArg _ hr)) hrest⟩)

/-- The loop of `AddApacheSessionStatistics`. -/
lemma can_addSessionEntries (sessions : List SessionEntry) {c : Connection Store}
    {s : SharedConnection Store} {r : Except DatabaseException Bool}
    (h : (addSessionEntries sessions).Can (.free c) r s) :
    (Apache.addSessionEntries sessions).Can c r s.toConnection := by
  induction sessions generalizing c with
  | nil =>
      refine can_attempt_bind (fun _ => rfl) h fun ret s₁ _ hrest => ?_
      refine can_afterStatement (k := (pure true : SharedM Bool)) ?_ hrest
      rintro - ⟨rfl, rfl⟩
      exact ⟨rfl, rfl⟩
  | cons entry sessions ih =>
      refine can_attempt_bind (toConnection_atStep c) h fun ret s₁ hfree hrest => ?_
      refine can_afterStatement (fun hret hloop => ?_) hrest
      obtain ⟨c₁, rfl⟩ := hfree hret
      exact ih hloop

/-- A statement whose failure is thrown, and what follows it. -/
lemma can_checked_bind {left : SharedConnection Store → ResultCode → SharedConnection Store}
    {st : Statement Store} {c : Connection Store} {s : SharedConnection Store} {α : Type}
    {k : SharedM α} {k' : DatabaseM α} {r : Except DatabaseException α}
    (hleft : ∀ code, (left (.free c) code).toConnection = c)
    (h : (attempt left st >>= fun ret => statementCheckForError ret >>= fun _ => k).Can
    (.free c) r s)
    (hk : ∀ c₁, k.Can (.free c₁) r s → k'.Can c₁ r s.toConnection) :
    (Database.tryExec [st] >>= fun ret =>
      Apache.statementCheckForError ret >>= fun _ => k').Can c r s.toConnection := by
  refine can_attempt_bind hleft h fun ret s₁ hfree hrest => ?_
  cases ret with
  | none =>
      obtain ⟨c₁, rfl⟩ := hfree rfl
      exact hk c₁ hrest
  | some code =>
      obtain ⟨rfl, rfl⟩ := hrest
      exact ⟨rfl, rfl⟩

/-- A statement whose failure is thrown. -/
lemma can_execSql_of_tryExec {sts : List (Statement Store)} {c c' : Connection Store} {α : Type}
    {k : DatabaseM α} {r : Except DatabaseException α}
    (h : (Database.tryExec sts >>= fun ret =>
      Apache.statementCheckForError ret >>= fun _ => k).Can c r c') :
    (Database.execSql sts >>= fun _ => k).Can c r c' := by
  rcases Prog.can_bind.mp h with ⟨e, rfl, he⟩ | ⟨ret, c₁, hret, hrest⟩
  · obtain ⟨fault, hop⟩ := Prog.can_lift.mp he
    rcases hexec : c.execute (fault.map fun f => min f.position (sts.length - 1)) sts with
      ⟨_ | _, c₁⟩ <;> rw [hexec] at hop <;> cases (Prod.mk.inj hop).1
  · obtain ⟨fault, hop⟩ := Prog.can_lift.mp hret
    rcases hexec : c.execute (fault.map fun f => min f.position (sts.length - 1))
      sts with ⟨_ | _, c₂⟩
    · rw [hexec] at hop
      obtain ⟨hok, rfl⟩ := Prod.mk.inj hop
      obtain rfl := Except.ok.inj hok
      obtain ⟨rfl, rfl⟩ := hrest
      exact Prog.can_bind.mpr (.inl ⟨_, rfl, Prog.can_lift.mpr ⟨fault, by rw [hexec]⟩⟩)
    · rw [hexec] at hop
      obtain ⟨hok, rfl⟩ := Prod.mk.inj hop
      obtain rfl := Except.ok.inj hok
      exact Prog.can_bind.mpr (.inr ⟨(), c₂, Prog.can_lift.mpr ⟨fault, by rw [hexec]⟩, hrest⟩)

/-- **The programs are those of the functions**: whatever an operation does on a connection
on which no statement has stayed, it does as a program on a connection of its own, the
statement that it leaves forgotten. -/
lemma can_toConnection (op : Operation) {c : Connection Store} {s : SharedConnection Store}
    {r : Except DatabaseException Bool} (h : op.program.Can (.free c) r s) :
    op.alone.Can c r s.toConnection := by
  have hexec : ∀ {low : SharedM Unit} {high : DatabaseM Unit},
      Prog.Refines IsFree SharedConnection.toConnection low high →
      (low >>= fun _ => (pure true : SharedM Bool)).Can (.free c) r s →
        (high >>= fun _ => (pure true : DatabaseM Bool)).Can c r s.toConnection := by
    intro low high hrefines hcan
    exact ((hrefines.bind fun _ => .pure true) (.free c) ⟨c, rfl⟩ r s hcan).2
  cases op with
  | addLogs logEntries => exact hexec (refines_addLogs logEntries) h
  | addSessionStatistics sessions =>
      exact can_checked_bind (fun _ => rfl) h fun c₁ => can_addSessionEntries sessions
  | setLearningSessions agentId virtualhostId sessionsIds => exact hexec (refines_execSql _) h
  | write f => exact hexec (refines_execSql _) h
  | writeUnguarded f =>
      have hprogram : (Operation.writeUnguarded f).program
          = tryStep (.write fun s => some (f s)) >>=
          fun ret => statementCheckForError ret >>= fun _ => pure true := bind_assoc ..
      rw [hprogram] at h
      have hpure : ∀ c₁, (pure true : SharedM Bool).Can (.free c₁) r s →
          (pure true : DatabaseM Bool).Can c₁ r s.toConnection := by
        rintro c₁ ⟨rfl, rfl⟩
        exact ⟨rfl, rfl⟩
      exact can_execSql_of_tryExec (can_checked_bind (toConnection_atStep c) h hpure)

/-! ### No call ends a statement that has stayed -/

lemma steps_execSql (sts : List (Statement Store)) : (execSql sts).Steps KeepsHeld := by
  refine Prog.Steps.lift fun fault s e hs => ?_
  have hheld := hs.execute (fault.map fun f => min f.position (sts.length - 1)) sts
  rcases hexec : s.execute (fault.map fun f => min f.position (sts.length - 1)) sts with ⟨_ | _, s'⟩
  · rw [hexec] at hheld ⊢
    exact hheld
  · rw [hexec] at hheld ⊢
    exact hheld

lemma steps_attempt {left : SharedConnection Store → ResultCode → SharedConnection Store}
    {st : Statement Store} (hleft : ∀ s code, KeepsHeld s (left s code)) :
    (attempt left st).Steps KeepsHeld := by
  refine Prog.Steps.lift fun fault s e hs => ?_
  cases fault with
  | some f => exact hleft s f.code e hs
  | none =>
      cases hstep : s.step st with
      | none => exact hs
      | some s' => exact hs.step hstep

lemma steps_tryExec (st : Statement Store) : (tryExec st).Steps KeepsHeld :=
  steps_attempt fun _ _ _ => id

lemma steps_tryStep (st : Statement Store) : (tryStep st).Steps KeepsHeld := by
  refine steps_attempt fun s code e hs => ?_
  obtain ⟨data, begun, rfl⟩ := hs
  cases code with
  | busy => exact ⟨data, begun, rfl⟩
  | error => exact ⟨data, begun, rfl⟩

lemma steps_statementCheckForError (ret : Option ResultCode) :
    (statementCheckForError ret).Steps KeepsHeld := by
  cases ret with
  | none => exact .pure ()
  | some code => exact .throw _

lemma steps_rollback : rollback.Steps KeepsHeld :=
  (steps_tryExec _).bind steps_statementCheckForError

lemma steps_afterStatement (ret : Option ResultCode) {k : SharedM Bool} (hk : k.Steps KeepsHeld) :
    (if ret = some .busy then do
          rollback
          pure false
        else do
          statementCheckForErrorAndRollback ret
          k : SharedM Bool).Steps KeepsHeld := by
  rcases ret with _ | _ | _
  · exact hk
  · exact steps_rollback.bind fun _ => .pure _
  · exact (steps_rollback.bind fun _ => .throw _).bind fun _ => hk

lemma steps_addSessionEntries (sessions : List SessionEntry) :
    (addSessionEntries sessions).Steps KeepsHeld := by
  induction sessions with
  | nil => exact (steps_tryExec _).bind fun ret => steps_afterStatement ret (.pure true)
  | cons entry sessions ih =>
      exact (steps_tryStep _).bind fun ret => steps_afterStatement ret ih

/-- **No call of an operation ends a statement that has stayed.** -/
lemma steps_program (op : Operation) : op.program.Steps KeepsHeld := by
  cases op with
  | addLogs logEntries =>
      refine ((steps_execSql _).bind fun _ => .tryCatch ?_ fun ex =>
        (steps_execSql _).bind fun _ => .throw ex).bind fun _ => .pure true
      exact (Prog.Steps.forM (fun entry => steps_execSql _) logEntries).bind fun _ =>
        steps_execSql _
  | addSessionStatistics sessions =>
      exact (steps_tryExec _).bind fun ret =>
        (steps_statementCheckForError ret).bind fun _ => steps_addSessionEntries sessions
  | setLearningSessions agentId virtualhostId sessionsIds =>
      exact (steps_execSql _).bind fun _ => .pure true
  | write f => exact (steps_execSql _).bind fun _ => .pure true
  | writeUnguarded f =>
      exact ((steps_tryStep _).bind steps_statementCheckForError).bind fun _ => .pure true

end Slas.Apache.Shared
