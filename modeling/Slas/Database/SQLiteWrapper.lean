import Mathlib
import Slas.Lib.Refinement
import Slas.Database.Basic

/-!
Prepared statements: `server/src/database/sqlite_wrapper.cpp` and the functions of SQLite
that it calls.

* `Value`, `Sql`: the values of columns, and what the text of a statement says;
* `Session`: the connection and the statements that are prepared on it;
* `sqlitePrepare`, `sqliteBind`, `sqliteStep`, `sqliteColumn`, `sqliteFinalize`,
  `sqliteExec`: the functions of SQLite, each of which the environment may make fail
  where it can fail;
* `prepare` to `getFirstInt64Column`: the functions of `SQLiteWrapper`;
* `opened`: a session with one more statement;
* `triple_prepare` to `triple_finalize`: what the functions do with that statement;
* `Reading`: a function that reads columns of the current row.

A statement that is used when it is not prepared, and a column that is read without a
row, are recorded: SQLite defines neither.
-/

namespace Slas.Database.SQLite

/-- A value of a column. -/
inductive Value where
  | null
  | integer (n : ℤ)
  | real (x : ℚ)
  | text (t : Text)
  deriving DecidableEq

/-- The values of the placeholders of a statement, by position. -/
abbrev Parameters := ℕ → Value

/-- What the text of a statement says: the rows it selects, or what it writes. -/
inductive Sql where
  | select (rows : Parameters → Store → List (List Value))
  | modify (statement : Parameters → Statement Store)

/-- A statement between its `Prepare` and its `Finalize`. Its rows are fixed by its first
`Step`; `failed` is the code its last `Step` failed with. -/
structure PreparedStatement where
  sql : Sql
  parameters : Parameters
  rows : Option (List (List Value))
  current : Option (List Value)
  failed : Option ResultCode

/-- A statement as it is prepared: no placeholder has a value. -/
def PreparedStatement.fresh (sql : Sql) : PreparedStatement where
  sql := sql
  parameters := fun _ => .null
  rows := none
  current := none
  failed := none

/-- A statement one placeholder of which is given a value. -/
def PreparedStatement.given (st : PreparedStatement) (pos : ℕ) (value : Value) :
    PreparedStatement :=
  { st with parameters := Function.update st.parameters pos value }

/-- The connection with its prepared statements, by their handles. -/
structure Session where
  isOpen : Bool
  connection : Connection Store
  statements : List (ℕ × PreparedStatement)
  next : ℕ
  misused : Bool

namespace Session

variable (s : Session) (handle : ℕ)

/-- The statement of a handle. -/
def find? : Option PreparedStatement := s.statements.lookup handle

/-- Another statement under a handle. -/
def set (statement : PreparedStatement) : Session :=
  { s with statements := s.statements.map fun p => if p.1 = handle then (handle, statement) else p }

/-- Every handle was given out. -/
def WellFormed : Prop := ∀ p ∈ s.statements, p.1 < s.next

end Session

/-- Programs on a session. -/
abbrev SQLiteM := Prog Session Fault DatabaseException

/-- The return values of SQLite that are told apart. -/
inductive ReturnValue where
  | ok
  | row
  | done
  | failure (code : ResultCode)
  deriving DecidableEq

/-! ### SQLite -/

/-- `sqlite3_prepare_v2`: a handle, which no statement has if it fails. -/
def sqlitePrepare (sql : Sql) : SQLiteM (ReturnValue × ℕ) :=
  Prog.lift fun fault s => match fault with
    | some f => (.ok (.failure f.code, s.next), s)
    | none => (.ok (.ok, s.next),
        { s with statements := (s.next, .fresh sql) :: s.statements, next := s.next + 1 })

/-- `sqlite3_bind_text`, `sqlite3_bind_int64` and the other functions that give a
placeholder its value. -/
def sqliteBind (handle pos : ℕ) (value : Value) : SQLiteM ReturnValue :=
  Prog.lift fun fault s => match s.find? handle, fault with
    | none, _ => (.ok (.failure .error), { s with misused := true })
    | some _, some f => (.ok (.failure f.code), s)
    | some st, none => (.ok .ok, s.set handle (st.given pos value))

/-- The next row of a statement whose rows are known. -/
def deliver (st : PreparedStatement) : List (List Value) → ReturnValue × PreparedStatement
  | [] => (.done, { st with rows := some [], current := none })
  | r :: rs => (.row, { st with rows := some rs, current := some r })

/-- The rows a statement that selects still delivers. -/
def PreparedStatement.pending (st : PreparedStatement) (d : Store) : List (List Value) :=
  match st.rows, st.sql with
  | some rs, _ => rs
  | none, .select rows => rows st.parameters d
  | none, .modify _ => []

/-- A step of a statement nothing makes fail. A statement that writes does so in its
first step. -/
def Session.evaluate (s : Session) (handle : ℕ) (st : PreparedStatement) : ReturnValue × Session :=
  match st.rows, st.sql with
  | none, .modify statement => match s.connection.step (statement st.parameters) with
      | none => (.failure .error, s.set handle { st with current := none, failed := some .error })
      | some c => (.done, { s.set handle (deliver st []).2 with connection := c })
  | _, _ =>
      let (ret, st') := deliver st (st.pending s.connection.data)
      (ret, s.set handle st')

/-- `sqlite3_step`. -/
def sqliteStep (handle : ℕ) : SQLiteM ReturnValue :=
  Prog.lift fun fault s => match s.find? handle, fault with
    | none, _ => (.ok (.failure .error), { s with misused := true })
    | some st, some f =>
        (.ok (.failure f.code), s.set handle { st with current := none, failed := some f.code })
    | some st, none => (.ok (s.evaluate handle st).1, (s.evaluate handle st).2)

/-- `sqlite3_column_text`, `sqlite3_column_int64` and the other functions that read a
column of the current row. -/
def sqliteColumn (handle i : ℕ) : SQLiteM Value :=
  Prog.lift fun _ s => match (s.find? handle).bind (·.current) with
    | none => (.ok .null, { s with misused := true })
    | some row => (.ok (row.getD i .null), s)

/-- `sqlite3_finalize`. It fails exactly if the last `sqlite3_step` of the statement
failed, and frees the statement in either case. -/
def sqliteFinalize (handle : ℕ) : SQLiteM ReturnValue :=
  Prog.lift fun _ s => match s.find? handle with
    | none => (.ok (.failure .error), { s with misused := true })
    | some st => (.ok ((st.failed.map .failure).getD .ok),
        { s with statements := s.statements.filter (·.1 ≠ handle) })

/-- `sqlite3_exec`. -/
def sqliteExec (sts : List (Statement Store)) : SQLiteM ReturnValue :=
  Prog.lift fun fault s =>
    match s.connection.execute (fault.map fun f => min f.position (sts.length - 1)) sts with
    | (true, c) => (.ok .ok, { s with connection := c })
    | (false, c) => (.ok (.failure ((fault.map (·.code)).getD .error)), { s with connection := c })

/-- A bound on the rows a statement still delivers. The source has no such call: its loops
end because SQLite runs out of rows, and this says after how many. -/
def rowsBound (handle : ℕ) : SQLiteM ℕ :=
  Prog.lift fun _ s => (.ok ((s.find? handle).elim 0 fun st =>
    (st.pending s.connection.data).length), s)

/-! ### `SQLiteWrapper` -/

/-- `SQLiteWrapper::CheckIsOpen`. -/
def checkIsOpen : SQLiteM Unit :=
  Prog.lift fun _ s =>
    if s.isOpen = false then (.error .cantExecuteSqlStatementException, s) else (.ok (), s)

/-- `SQLiteWrapper::CheckForError`. -/
def checkForError : ReturnValue → SQLiteM Unit
  | .failure _ => throw .cantExecuteSqlStatementException
  | _ => pure ()

/-- `SQLiteWrapper::Prepare`. -/
def prepare (sql : Sql) : SQLiteM ℕ := do
  checkIsOpen
  let (ret, handle) ← sqlitePrepare sql
  checkForError ret
  pure handle

/-- What the functions of `SQLiteWrapper` that bind a placeholder share. -/
def bind (handle pos : ℕ) (value : Value) : SQLiteM Unit := do
  checkIsOpen
  let ret ← sqliteBind handle pos value
  checkForError ret

/-- `SQLiteWrapper::BindText`. -/
def bindText (handle pos : ℕ) (value : Text) : SQLiteM Unit := bind handle pos (.text value)

/-- `SQLiteWrapper::BindInt`. -/
def bindInt (handle pos : ℕ) (value : ℤ) : SQLiteM Unit := bind handle pos (.integer value)

/-- `SQLiteWrapper::BindInt64`. -/
def bindInt64 (handle pos : ℕ) (value : ℤ) : SQLiteM Unit := bind handle pos (.integer value)

/-- `SQLiteWrapper::BindDouble`. -/
def bindDouble (handle pos : ℕ) (value : ℚ) : SQLiteM Unit := bind handle pos (.real value)

/-- `SQLiteWrapper::Step`. -/
def step (handle : ℕ) : SQLiteM ReturnValue := do
  checkIsOpen
  let ret ← sqliteStep handle
  checkForError ret
  pure ret

/-- What the functions of `SQLiteWrapper` that read a column share. -/
def column (handle i : ℕ) : SQLiteM Value := do
  checkIsOpen
  sqliteColumn handle i

/-- `SQLiteWrapper::ColumnInt64`. No function reads an integer of another column. -/
def columnInt64 (handle i : ℕ) : SQLiteM ℤ := do
  match ← column handle i with
  | .integer n => pure n
  | _ => pure 0

/-- `SQLiteWrapper::ColumnInt`, of a column that holds an `int`. -/
def columnInt (handle i : ℕ) : SQLiteM ℤ := columnInt64 handle i

/-- `SQLiteWrapper::ColumnDouble`. -/
def columnDouble (handle i : ℕ) : SQLiteM ℚ := do
  match ← column handle i with
  | .real x => pure x
  | _ => pure 0

/-- `SQLiteWrapper::ColumnText`. The text of `NULL` is empty. -/
def columnText (handle i : ℕ) : SQLiteM Text := do
  match ← column handle i with
  | .text t => pure t
  | _ => pure ⟨[], List.not_mem_nil⟩

/-- `SQLiteWrapper::Finalize`. -/
def finalize (handle : ℕ) : SQLiteM Unit := do
  checkIsOpen
  let ret ← sqliteFinalize handle
  checkForError ret

/-- `SQLiteWrapper::Exec`. -/
def exec (sts : List (Statement Store)) : SQLiteM Unit := do
  checkIsOpen
  let ret ← sqliteExec sts
  checkForError ret

/-- The end of a function that finalizes its statement when it throws, too. -/
def guarded {α : Type} (handle : ℕ) (body : SQLiteM α) : SQLiteM α := do
  let a ← tryCatch body fun ex => do
    finalize handle
    throw ex
  finalize handle
  pure a

/-- The end of a function that finalizes its statement only when it has not thrown. -/
def unguarded {α : Type} (handle : ℕ) (body : SQLiteM α) : SQLiteM α := do
  let a ← body
  finalize handle
  pure a

/-- A step, and what is read if it is a row. -/
def stepFirst {α : Type} (handle : ℕ) (read : SQLiteM α) : SQLiteM (Option α) := do
  let ret ← step handle
  if ret = .row then some <$> read else pure none

/-- The rounds of a loop over the rows of a statement. -/
def stepRounds {α : Type} (handle : ℕ) (read : SQLiteM α) : ℕ → SQLiteM (List α)
  | 0 => pure []
  | n + 1 => do
      let ret ← step handle
      if ret = .row then do
        let a ← read
        let as ← stepRounds handle read n
        pure (a :: as)
      else pure []

/-- A loop that steps until there are no more rows, and reads each of them. -/
def stepAll {α : Type} (handle : ℕ) (read : SQLiteM α) : SQLiteM (List α) := do
  let n ← rowsBound handle
  stepRounds handle read (n + 1)

/-- The end of a function that throws if it has found no row. -/
def found {α : Type} (e : DatabaseException) : Option α → SQLiteM α
  | some a => pure a
  | none => throw e

/-- `SQLiteWrapper::GetFirstInt64Column`. -/
def getFirstInt64Column (sql : Sql) : SQLiteM ℤ := do
  let handle ← prepare sql
  let value ← guarded handle (stepFirst handle (columnInt64 handle 0))
  found .itemNotFoundException value

/-- `SQLiteWrapper::GetFirstInt64Column` with a default. -/
def getFirstInt64ColumnOr (sql : Sql) (defaultReturnValue : ℤ) : SQLiteM ℤ := do
  let handle ← prepare sql
  let value ← guarded handle (stepFirst handle (columnInt64 handle 0))
  pure (value.getD defaultReturnValue)

/-! ### One more statement -/

namespace Session

/-- One more statement, on the connection as it is then. -/
def opened (s : Session) (st : PreparedStatement) (c : Connection Store) : Session :=
  { s with connection := c, statements := (s.next, st) :: s.statements, next := s.next + 1 }

/-- Its handle was given out, and the statement is finalized. -/
def closed (s : Session) (c : Connection Store) : Session :=
  { s with connection := c, next := s.next + 1 }

variable {s : Session} {st st' : PreparedStatement} {c : Connection Store}

@[simp] lemma opened_isOpen : (s.opened st c).isOpen = s.isOpen := rfl

@[simp] lemma opened_connection : (s.opened st c).connection = c := rfl

@[simp] lemma closed_isOpen : (s.closed c).isOpen = s.isOpen := rfl

@[simp] lemma closed_connection : (s.closed c).connection = c := rfl

@[simp] lemma find?_opened : (s.opened st c).find? s.next = some st := by
  simp [find?, opened]

lemma set_opened (hs : s.WellFormed) : (s.opened st c).set s.next st' = s.opened st' c := by
  have hold : s.statements.map (fun p => if p.1 = s.next then (s.next, st') else p)
      = s.statements := by
    conv_rhs => rw [← List.map_id s.statements]
    exact List.map_congr_left fun p hp => if_neg (hs p hp).ne
  simp only [set, opened, List.map_cons, if_true, hold]

lemma filter_opened (hs : s.WellFormed) :
    (s.opened st c).statements.filter (·.1 ≠ s.next) = s.statements := by
  have hold : s.statements.filter (·.1 ≠ s.next) = s.statements :=
    List.filter_eq_self.mpr fun p hp => decide_eq_true (hs p hp).ne
  simpa [opened] using hold

end Session

/-- A statement that selects. -/
def PreparedStatement.Selects (st : PreparedStatement) : Prop := ∃ rows, st.sql = .select rows

lemma PreparedStatement.pending_select {st : PreparedStatement}
    {rows : Parameters → Store → List (List Value)} (hsql : st.sql = .select rows)
    (hrows : st.rows = none) (d : Store) : st.pending d = rows st.parameters d := by
  rw [pending, hrows, hsql]

lemma Session.evaluate_select {s : Session} {st : PreparedStatement} {handle : ℕ}
    (hst : st.Selects) : s.evaluate handle st = ((deliver st (st.pending s.connection.data)).1,
      s.set handle (deliver st (st.pending s.connection.data)).2) := by
  obtain ⟨rows, hsql⟩ := hst
  rw [evaluate, hsql]
  cases st.rows <;> rfl

/-! ### What the functions do -/

section Specs

variable {α : Type} {env : ℕ → Option Fault} {s : Session} {st : PreparedStatement}
  {c : Connection Store}

/-- The exception of the wrapper. -/
private abbrev cant : DatabaseException := .cantExecuteSqlStatementException

lemma triple_checkIsOpen {P : Session → Prop} :
    Prog.Triple env (fun _ t => P t) checkIsOpen (fun _ _ t => t.isOpen = true ∧ P t)
      fun e _ t => e = cant ∧ P t := by
  refine Prog.Triple.lift fun n t ht => ?_
  by_cases hopen : t.isOpen = false
  · rw [if_pos hopen]
    exact ⟨rfl, ht⟩
  · rw [if_neg hopen]
    exact ⟨by simpa using hopen, ht⟩

/-- On a connection that is open it does nothing. -/
lemma triple_checkIsOpen_of_open (hopen : s.isOpen = true)
    {E : DatabaseException → ℕ → Session → Prop} :
    Prog.Triple env (fun _ t => t = s.opened st c) checkIsOpen (fun _ _ t => t = s.opened st c)
      E := by
  refine Prog.Triple.lift fun n t ht => ?_
  rw [if_neg (by rw [ht, Session.opened_isOpen, hopen]; exact Bool.noConfusion)]
  exact ht

/-- **`Prepare`** leaves one more statement, or nothing. -/
lemma triple_prepare (sql : Sql) :
    Prog.Triple env (fun _ t => t = s) (prepare sql)
      (fun handle _ t => s.isOpen = true ∧ handle = s.next ∧ t = s.opened (.fresh sql) s.connection)
      fun e _ t => e = cant ∧ t = s := by
  refine Prog.Triple.bind triple_checkIsOpen fun _ => ?_
  refine Prog.Triple.bind (Q := fun r _ t => s.isOpen = true ∧ match r.1 with
    | .failure _ => t = s
    | _ => r.2 = s.next ∧ t = s.opened (.fresh sql) s.connection) (Prog.Triple.lift ?_) ?_
  · rintro n t ⟨hopen, rfl⟩
    cases env n with
    | none => exact ⟨hopen, rfl, rfl⟩
    | some f => exact ⟨hopen, rfl⟩
  · rintro ⟨ret, handle⟩ n t ⟨hopen, h⟩
    cases ret with
    | failure code => exact ⟨rfl, h⟩
    | ok => exact ⟨hopen, h⟩
    | row => exact ⟨hopen, h⟩
    | done => exact ⟨hopen, h⟩

/-- **Binding** gives the placeholder its value, or does nothing. -/
lemma triple_bind (hs : s.WellFormed) (hopen : s.isOpen = true) (pos : ℕ) (value : Value) :
    Prog.Triple env (fun _ t => t = s.opened st c) (bind s.next pos value)
      (fun _ _ t => t = s.opened (st.given pos value) c)
      fun e _ t => e = cant ∧ t = s.opened st c := by
  refine Prog.Triple.bind (triple_checkIsOpen_of_open hopen) fun _ => ?_
  refine Prog.Triple.bind (Q := fun ret _ t => match ret with
    | .failure _ => t = s.opened st c
    | _ => t = s.opened (st.given pos value) c)
    (Prog.Triple.lift ?_) ?_
  · rintro n t rfl
    rw [Session.find?_opened]
    cases env n with
    | none => exact Session.set_opened hs
    | some f => rfl
  · rintro ret n t h
    cases ret with
    | failure code => exact ⟨rfl, h⟩
    | ok => exact h
    | row => exact h
    | done => exact h

/-- **`Step` of a `select`** delivers the next row, or fails. -/
lemma triple_step (hs : s.WellFormed) (hopen : s.isOpen = true) (hst : st.Selects) :
    Prog.Triple env (fun _ t => t = s.opened st c) (step s.next)
      (fun ret _ t => ret = (deliver st (st.pending c.data)).1 ∧
        t = s.opened (deliver st (st.pending c.data)).2 c)
      fun e _ t => e = cant ∧ ∃ st', t = s.opened st' c := by
  refine Prog.Triple.bind (triple_checkIsOpen_of_open hopen) fun _ => ?_
  refine Prog.Triple.bind (Q := fun ret _ t => match ret with
    | .failure _ => ∃ st', t = s.opened st' c
    | _ => ret = (deliver st (st.pending c.data)).1 ∧
        t = s.opened (deliver st (st.pending c.data)).2 c) (Prog.Triple.lift ?_) ?_
  · rintro n t rfl
    rw [Session.find?_opened]
    cases env n with
    | some f => exact ⟨_, Session.set_opened hs⟩
    | none =>
        simp only [Session.evaluate_select hst, Session.set_opened hs, Session.opened_connection]
        cases st.pending c.data with
        | nil => trivial
        | cons r rs => trivial
  · rintro ret n t h
    cases ret with
    | failure code => exact ⟨rfl, h⟩
    | ok => exact h
    | row => exact h
    | done => exact h

/-- **`Step` of a statement that writes**, in its whole. -/
lemma triple_step_modify (hs : s.WellFormed)
    (hopen : s.isOpen = true) {statement : Parameters → Statement Store}
    (hsql : st.sql = .modify statement) (hrows : st.rows = none) :
    Prog.Triple env (fun _ t => t = s.opened st c) (step s.next)
      (fun _ _ t => ∃ c', c.step (statement st.parameters) = some c' ∧
        t = s.opened (deliver st []).2 c')
      fun e _ t => e = cant ∧ ∃ st', t = s.opened st' c := by
  refine Prog.Triple.bind (triple_checkIsOpen_of_open hopen) fun _ => ?_
  refine Prog.Triple.bind (Q := fun ret _ t => match ret with
    | .failure _ => ∃ st', t = s.opened st' c
    | _ => ∃ c', c.step (statement st.parameters) = some c' ∧ t = s.opened (deliver st []).2 c')
    (Prog.Triple.lift ?_) ?_
  · rintro n t rfl
    rw [Session.find?_opened]
    cases env n with
    | some f => exact ⟨_, Session.set_opened hs⟩
    | none =>
        simp only [Session.evaluate, hrows, hsql, Session.opened_connection]
        cases hstep : c.step (statement st.parameters) with
        | none => exact ⟨_, Session.set_opened hs⟩
        | some c' =>
            refine ⟨c', rfl, ?_⟩
            simp only [Session.set_opened hs]
            rfl
  · rintro ret n t h
    cases ret with
    | failure code => exact ⟨rfl, h⟩
    | ok => exact h
    | row => exact h
    | done => exact h

/-- **`Finalize`** frees the statement even if it throws. -/
lemma triple_finalize (hs : s.WellFormed) (hopen : s.isOpen = true) :
    Prog.Triple env (fun _ t => t = s.opened st c) (finalize s.next)
      (fun _ _ t => t = s.closed c)
      fun e _ t => e = cant ∧ st.failed ≠ none ∧ t = s.closed c := by
  refine Prog.Triple.bind (triple_checkIsOpen_of_open hopen) fun _ => ?_
  refine Prog.Triple.bind (Q := fun ret _ t => t = s.closed c ∧
    ret = (st.failed.map .failure).getD .ok) (Prog.Triple.lift ?_) ?_
  · rintro n t rfl
    rw [Session.find?_opened]
    exact ⟨congrArg (fun sts => { s.opened st c with statements := sts })
      (Session.filter_opened hs), rfl⟩
  · rintro ret n t ⟨rfl, rfl⟩
    cases hfailed : st.failed with
    | none => exact rfl
    | some code => exact ⟨rfl, Option.some_ne_none _, rfl⟩

end Specs

end Slas.Database.SQLite
