import Mathlib
import Slas.Database.GeneralDatabaseFunctions
import Slas.Bash.RawDatabaseFunctions
import Slas.Database.PreparedStatements

/-!
`server/src/database/general_database_functions.cpp` and functions of
`server/src/bash/database/detail/raw_database_functions.cpp`, statement by statement.

* `selectIntegers`: a text that selects one column of numbers;
* `addTime` to `getAgentsIds`: `GeneralDatabaseFunctions`;
* `addSystemUser` to `getCommandNameById`: `bash::database::detail::RawDatabaseFunctions`;
* `implements_…`: each of them does what the function of `Slas.Database` or
  `Slas.Bash.Raw` with its name does.

`GetTimeById` and `GetDateById` do not finalize their statement when it fails.
-/

namespace Slas.Database.SQLite

/-! ### Texts that select numbers -/

/-- A text that selects one column of numbers. -/
def selectIntegers (xs : Parameters → Store → List ℤ) : Sql :=
  .select fun p s => (xs p s).map fun n => [.integer n]

/-- Its first column. -/
lemma reads_first (n : ℤ) : Reads (fun handle => columnInt64 handle 0) [.integer n] n :=
  .columnInt64 rfl

section Integers

variable {s : Session} {st : PreparedStatement} {c : Connection Store}
  {xs : Parameters → Store → List ℤ} {ys : List ℤ}

lemma runs_firstInteger (hs : s.WellFormed) (hopen : s.isOpen = true)
    (hsql : st.sql = selectIntegers xs) (hrows : st.rows = none) (hfailed : st.failed = none)
    (hys : xs st.parameters c.data = ys) :
    Runs s st c (stepFirst s.next (columnInt64 s.next 0)) fun a c' => a = ys.head? ∧ c' = c := by
  have hpending : st.pending c.data = ys.map fun n => [.integer n] := by
    rw [st.pending_select hsql hrows, hys]
  refine (runs_stepFirst hs hopen ⟨_, hsql⟩ hfailed reads_first hpending).mono fun a c' ha => ?_
  rwa [Option.map_id'] at ha

lemma runs_integers (hs : s.WellFormed) (hopen : s.isOpen = true)
    (hsql : st.sql = selectIntegers xs) (hrows : st.rows = none) (hfailed : st.failed = none)
    (hys : xs st.parameters c.data = ys) :
    Runs s st c (stepAll s.next (columnInt64 s.next 0)) fun as c' => as = ys ∧ c' = c := by
  have hpending : st.pending c.data = ys.map fun n => [.integer n] := by
    rw [st.pending_select hsql hrows, hys]
  refine (runs_stepAll hs hopen ⟨_, hsql⟩ hfailed reads_first hpending).mono fun as c' ha => ?_
  rwa [List.map_id'] at ha

end Integers

section First

/-- The first number of a text. -/
lemma implements_first (xs : Store → List ℤ) :
    Implements 0 (prepare (selectIntegers fun _ => xs) >>= fun handle =>
      guarded handle (stepFirst handle (columnInt64 handle 0))) (query fun s => (xs s).head?) :=
  implements_query fun _ hs hopen => runs_firstInteger hs hopen rfl rfl rfl rfl

/-- **`GetFirstInt64Column`**. -/
lemma implements_getFirstInt64Column (xs : Store → List ℤ) :
    Implements 0 (getFirstInt64Column (selectIntegers fun _ => xs))
      (queryFirst fun s => (xs s).head?) := by
  rw [getFirstInt64Column, ← bind_assoc]
  exact (implements_first xs).queryFirst

/-- `GetFirstInt64Column` with a default. -/
lemma implements_getFirstInt64ColumnOr (xs : Store → List ℤ) (d : ℤ) :
    Implements 0 (getFirstInt64ColumnOr (selectIntegers fun _ => xs) d)
      (query fun s => (xs s).head?.getD d) := by
  rw [getFirstInt64ColumnOr, ← bind_assoc]
  exact (implements_first xs).query_map fun value => value.getD d

/-- **A loop over numbers.** -/
lemma implements_integers (xs : Store → List ℤ) :
    Implements 0 (prepare (selectIntegers fun _ => xs) >>= fun handle =>
      guarded handle (stepAll handle (columnInt64 handle 0))) (query xs) :=
  implements_query fun _ hs hopen => runs_integers hs hopen rfl rfl rfl rfl

end First

/-- The id of the first row that satisfies a condition. -/
lemma head?_ids {α : Type} (rows : List (Row α)) (p : Row α → Bool) :
    ((rows.filter p).map (·.id)).head? = (rows.find? p).map (·.id) := by
  rw [List.head?_map, List.head?_filter]

/-! ### `GeneralDatabaseFunctions` -/

/-- `GeneralDatabaseFunctions::AddTime`. -/
def addTime (t : Time) : SQLiteM Unit :=
  exec [.write fun s => some { s with times := s.times.insertOrReplace t }]

/-- `GeneralDatabaseFunctions::GetTimeId`. -/
def getTimeId (t : Time) : SQLiteM RowId :=
  getFirstInt64ColumnOr (selectIntegers fun _ s =>
    (s.times.rows.filter fun r => r.val = t).map (·.id)) (-1)

/-- `Time::Set` and `Date::Set` of columns that hold numbers of `int`. No row of the tables
holds numbers they throw for. -/
def checked {α : Type} : Option α → SQLiteM α
  | some a => pure a
  | none => throw .wrongDateValueException

/-- The three columns of a time. -/
def readTime (handle : ℕ) : SQLiteM Time := do
  let hour ← columnInt handle 0
  let minute ← columnInt handle 1
  let second ← columnInt handle 2
  checked (Time.create? (Int32.ofInt hour) (Int32.ofInt minute) (Int32.ofInt second))

/-- `GeneralDatabaseFunctions::GetTimeById`. -/
def getTimeById (id : RowId) : SQLiteM Time := do
  let handle ← prepare (.select fun _ s => (s.times.rows.filter fun r => r.id = id).map fun r =>
    [.integer r.val.hour, .integer r.val.minute, .integer r.val.second])
  let t ← unguarded handle (stepFirst handle (readTime handle))
  found .cantExecuteSqlStatementException t

/-- `GeneralDatabaseFunctions::AddDate`. -/
def addDate (date : Date) : SQLiteM Unit :=
  exec [.write fun s => some { s with dates := s.dates.insertOrIgnore date }]

/-- `GeneralDatabaseFunctions::GetDateId`. -/
def getDateId (date : Date) : SQLiteM RowId :=
  getFirstInt64ColumnOr (selectIntegers fun _ s =>
    (s.dates.rows.filter fun r => r.val = date).map (·.id)) (-1)

/-- `GeneralDatabaseFunctions::GetDateRangeIds`. -/
def getDateRangeIds (start stop : Date) : SQLiteM (List RowId) := do
  let handle ← prepare (selectIntegers fun _ s =>
    (s.dates.rows.filter fun r => inDateRange start stop r.val).map (·.id))
  guarded handle (stepAll handle (columnInt64 handle 0))

/-- The three columns of a date. -/
def readDate (handle : ℕ) : SQLiteM Date := do
  let day ← columnInt handle 0
  let month ← columnInt handle 1
  let year ← columnInt handle 2
  checked (Date.create? (Int32.ofInt day) (Int32.ofInt month) (Int32.ofInt year))

/-- `GeneralDatabaseFunctions::GetDateById`. -/
def getDateById (id : RowId) : SQLiteM Date := do
  let handle ← prepare (.select fun _ s => (s.dates.rows.filter fun r => r.id = id).map fun r =>
    [.integer r.val.day, .integer r.val.month, .integer r.val.year])
  let date ← unguarded handle (stepFirst handle (readDate handle))
  found .cantExecuteSqlStatementException date

/-- The text a placeholder stands for. -/
def isText (value : Value) (t : Text) : Bool := value = .text t

/-- The id of a text that is given as a placeholder. -/
def selectIdOfText (rows : Store → List (Row Text)) : Sql :=
  selectIntegers fun p s => ((rows s).filter fun r => isText (p 1) r.val).map (·.id)

/-- `GeneralDatabaseFunctions::AddAgentName`. -/
def addAgentName (name : Text) : SQLiteM Unit := do
  let handle ← prepare (.modify fun p => .write fun s => match p 1 with
    | .text name => some { s with agentNames := s.agentNames.insertOrIgnore name }
    | _ => some s)
  guarded handle do
    bindText handle 1 name
    let _ ← step handle
    pure ()

/-- `GeneralDatabaseFunctions::GetAgentsIds`. -/
def getAgentsIds : SQLiteM (List RowId) := do
  let handle ← prepare (selectIntegers fun _ s => s.agentNames.rows.map (·.id))
  guarded handle (stepAll handle (columnInt64 handle 0))

/-- `GeneralDatabaseFunctions::GetAgentNameId`. -/
def getAgentNameId (name : Text) : SQLiteM RowId := do
  let handle ← prepare (selectIdOfText fun s => s.agentNames.rows)
  let id ← guarded handle do
    bindText handle 1 name
    stepFirst handle (columnInt64 handle 0)
  if id.getD (-1) < 0 then throw .itemNotFoundException else pure (id.getD (-1))

/-- `GeneralDatabaseFunctions::GetAgentNameById`. -/
def getAgentNameById (id : RowId) : SQLiteM Text := do
  let handle ← prepare (.select fun _ s =>
    (s.agentNames.rows.filter fun r => r.id = id).map fun r => [.text r.val])
  let name ← guarded handle (stepFirst handle (columnText handle 0))
  found .itemNotFoundException name

/-! ### `bash::database::detail::RawDatabaseFunctions` -/

/-- `RawDatabaseFunctions::AddSystemUser`. -/
def addSystemUser (uid : ℤ) : SQLiteM Unit :=
  exec [.write fun s => some { s with
    bash := { s.bash with systemUsers := s.bash.systemUsers.insertOrIgnore uid } }]

/-- `RawDatabaseFunctions::GetSystemUserId`. -/
def getSystemUserId (uid : ℤ) : SQLiteM RowId :=
  getFirstInt64ColumnOr (selectIntegers fun _ s =>
    (s.bash.systemUsers.rows.filter fun r => r.val = uid).map (·.id)) (-1)

/-- `RawDatabaseFunctions::GetSystemUserById`. -/
def getSystemUserById (id : RowId) : SQLiteM ℤ :=
  getFirstInt64Column (selectIntegers fun _ s =>
    (s.bash.systemUsers.rows.filter fun r => r.id = id).map (·.val))

/-- `RawDatabaseFunctions::GetSystemUsersIdsFromLogs`. -/
def getSystemUsersIdsFromLogs (agentNameId : RowId) : SQLiteM (List RowId) := do
  let handle ← prepare (selectIntegers fun _ s =>
    ((s.bash.logs.vals.filter fun l => l.agentNameId = agentNameId).map (·.userId)).dedup)
  guarded handle (stepAll handle (columnInt64 handle 0))

/-- `RawDatabaseFunctions::AddCommand`. -/
def addCommand (command : Text) : SQLiteM Unit := do
  let handle ← prepare (.modify fun p => .write fun s => match p 1 with
    | .text command => some { s with
        bash := { s.bash with commands := s.bash.commands.insertOrIgnore command } }
    | _ => some s)
  guarded handle do
    bindText handle 1 command
    let _ ← step handle
    pure ()

/-- `RawDatabaseFunctions::GetCommandId`. -/
def getCommandId (command : Text) : SQLiteM RowId := do
  let handle ← prepare (selectIdOfText fun s => s.bash.commands.rows)
  let id ← guarded handle do
    bindText handle 1 command
    stepFirst handle (columnInt64 handle 0)
  pure (id.getD (-1))

/-- `RawDatabaseFunctions::GetAllCommandsIds`. -/
def getAllCommandsIds : SQLiteM (List RowId) := do
  let handle ← prepare (selectIntegers fun _ s => s.bash.commands.rows.map (·.id))
  guarded handle (stepAll handle (columnInt64 handle 0))

/-- `RawDatabaseFunctions::AddLog`. -/
def addLog (log : Bash.Log) : SQLiteM Unit :=
  exec [.write fun s => some { s with bash := { s.bash with logs := s.bash.logs.insert log } }]

/-! ### They do what they do as one call -/

section ById

variable {β : Type} (rows : Store → List (Row β)) (columns : β → List Value)
  (read : ℕ → SQLiteM β)

/-- The first row with an id, which is read back from its columns. -/
lemma runs_byId {s : Session} (hs : s.WellFormed) (hopen : s.isOpen = true)
    (hread : ∀ x, Reads read (columns x) x) (id : RowId) :
    Runs s (.fresh (.select fun _ s => ((rows s).filter fun r => r.id = id).map fun r =>
        columns r.val)) s.connection (stepFirst s.next (read s.next)) fun a c' =>
      a = ((rows s.connection.data).find? fun r => r.id = id).map (·.val) ∧ c' = s.connection :=
  (runs_stepFirst hs hopen ⟨_, rfl⟩ rfl (fun r : Row β => hread r.val) rfl).mono
    fun a c' ha => by rwa [List.head?_filter] at ha

/-- **`select … where ID=…`**, in one row at most. -/
lemma implements_byId (hread : ∀ x, Reads read (columns x) x) (id : RowId) :
    Implements 0 (prepare (.select fun _ s => ((rows s).filter fun r => r.id = id).map fun r =>
        columns r.val) >>= fun handle => guarded handle (stepFirst handle (read handle)))
      (query fun s => ((rows s).find? fun r => r.id = id).map (·.val)) :=
  implements_query fun _ hs hopen => runs_byId rows columns read hs hopen hread id

lemma implements_byId_unguarded (hread : ∀ x, Reads read (columns x) x) (id : RowId) :
    Implements 1 (prepare (.select fun _ s => ((rows s).filter fun r => r.id = id).map fun r =>
        columns r.val) >>= fun handle => unguarded handle (stepFirst handle (read handle)))
      (query fun s => ((rows s).find? fun r => r.id = id).map (·.val)) :=
  implements_query_unguarded fun _ hs hopen => runs_byId rows columns read hs hopen hread id

end ById

section Ids

variable {α : Type} {rows : Store → List (Row α)} {p : Row α → Bool}

/-- The id of the first row that satisfies a condition, or `-1`. -/
lemma implements_firstId :
    Implements 0 (getFirstInt64ColumnOr
      (selectIntegers fun _ s => ((rows s).filter p).map (·.id)) (-1))
      (query fun s => (((rows s).find? p).map (·.id)).getD (-1)) := by
  have := implements_getFirstInt64ColumnOr (fun s => ((rows s).filter p).map (·.id)) (-1)
  simpa only [head?_ids] using this

end Ids

lemma implements_idOfText (rows : Store → List (Row Text)) (name : Text) :
    Implements 0 (prepare (selectIdOfText rows) >>= fun handle => guarded handle do
        bindText handle 1 name
        stepFirst handle (columnInt64 handle 0))
      (query fun s => ((rows s).find? fun r => r.val = name).map (·.id)) := by
  refine implements_query fun s hs hopen => runs_bind hs hopen 1 (.text name)
    ((runs_firstInteger hs hopen rfl rfl rfl rfl).mono ?_)
  rintro a c' ⟨rfl, rfl⟩
  refine ⟨?_, rfl⟩
  rw [head?_ids]
  congr 2
  funext r
  simp [isText, PreparedStatement.given, eq_comm]

lemma implements_addTime (t : Time) : Implements 0 (addTime t) (Database.addTime t) :=
  implements_exec (List.cons_ne_nil _ _)

lemma implements_getTimeId (t : Time) : Implements 0 (getTimeId t) (Database.getTimeId t) :=
  implements_firstId

lemma implements_addDate (date : Date) : Implements 0 (addDate date) (Database.addDate date) :=
  implements_exec (List.cons_ne_nil _ _)

lemma implements_getDateId (date : Date) :
    Implements 0 (getDateId date) (Database.getDateId date) := implements_firstId

lemma implements_getDateRangeIds (start stop : Date) :
    Implements 0 (getDateRangeIds start stop) (Database.getDateRangeIds start stop) :=
  implements_integers _

lemma implements_getAgentsIds : Implements 0 getAgentsIds Database.getAgentsIds :=
  implements_integers _

lemma implements_addAgentName (name : Text) :
    Implements 0 (addAgentName name) (Database.addAgentName name) :=
  implements_execSql fun _ hs hopen => runs_bind hs hopen 1 (.text name)
    ((runs_modify hs hopen rfl rfl rfl).mono fun _ _ h => h)

/-- An id that was found is not negative. -/
lemma implements_getAgentNameId (name : Text) :
    Implements 0 (getAgentNameId name) (Database.getAgentNameId name) := by
  have hquery := implements_idOfText (fun s => s.agentNames.rows) name
  rw [getAgentNameId, ← bind_assoc]
  refine hquery.of_query (g := fun id => if id.getD (-1) < 0 then .error .itemNotFoundException
    else .ok (id.getD (-1))) ?_ ?_ ?_
  · intro id s r t hcan
    by_cases hneg : id.getD (-1) < 0
    · rw [if_pos hneg] at hcan ⊢
      exact hcan
    · rw [if_neg hneg] at hcan ⊢
      exact hcan
  · exact fun c => Prog.can_lift.mpr ⟨some ⟨0, .error⟩, rfl⟩
  · intro c
    have hfirst := can_queryFirst (f := fun s => s.agentNames.idOf? name) c
    show (Database.getAgentNameId name).Can c
        (if (c.data.agentNames.idOf? name).getD (-1) < 0 then _
      else .ok ((c.data.agentNames.idOf? name).getD (-1))) c
    cases hid : c.data.agentNames.idOf? name with
    | none =>
        rw [hid] at hfirst
        exact hfirst
    | some id =>
        obtain ⟨v, hv, -⟩ := UniqueTable.idOf?_eq_some.mp hid
        rw [hid] at hfirst
        rw [Option.getD_some, if_neg (c.data.agentNames.positive _ hv).not_gt]
        exact hfirst

lemma implements_getAgentNameById (id : RowId) :
    Implements 0 (getAgentNameById id) (Database.getAgentNameById id) := by
  have hquery := implements_byId (fun s => s.agentNames.rows) (fun name => [.text name])
    (fun handle => columnText handle 0) (fun _ => .columnText rfl) id
  rw [getAgentNameById, ← bind_assoc]
  exact hquery.queryFirst

lemma reads_checked {α : Type} {row : List Value} {a : α} {b : Option α} (h : b = some a) :
    Reads (fun _ => checked b) row a := by
  rw [h]
  exact .pure a

/-- The numbers of a time make it up again. -/
lemma create?_ofInts_time (t : Time) :
    Time.create? (Int32.ofInt t.hour) (Int32.ofInt t.minute) (Int32.ofInt t.second) = some t := by
  have hchecked := t.checked
  rw [CheckTime] at hchecked
  rw [Time.create?_eq_some_iff, Int32.toInt_ofInt_of_le (by omega) (by omega),
    Int32.toInt_ofInt_of_le (by omega) (by omega), Int32.toInt_ofInt_of_le (by omega) (by omega)]
  exact ⟨rfl, rfl, rfl⟩

/-- The columns of a time are read back. -/
lemma reads_readTime (t : Time) :
    Reads readTime [.integer t.hour, .integer t.minute, .integer t.second] t :=
  .bind (.columnInt rfl) <| .bind (.columnInt rfl) <| .bind (.columnInt rfl) <|
    reads_checked (create?_ofInts_time t)

lemma implements_getTimeById (id : RowId) :
    Implements 1 (getTimeById id) (Database.getTimeById id) := by
  have hquery : Implements 1 _ (query fun s => s.times.get? id) :=
    implements_byId_unguarded (fun s => s.times.rows)
      (fun t => [.integer t.hour, .integer t.minute, .integer t.second]) readTime reads_readTime id
  rw [getTimeById, ← bind_assoc]
  refine hquery.of_query can_found (fun c => ?_) fun c => ?_
  · exact Prog.can_bind.mpr (.inl ⟨_, rfl, can_query_error c⟩)
  · refine Prog.can_bind.mpr (.inr ⟨_, c, can_query c, ?_⟩)
    cases c.data.times.get? id <;> exact ⟨rfl, rfl⟩

/-- The numbers of a date make it up again. -/
lemma create?_ofInts_date (d : Date) :
    Date.create? (Int32.ofInt d.day) (Int32.ofInt d.month) (Int32.ofInt d.year) = some d := by
  have hchecked := d.checked
  have hfits := d.fits
  rw [CheckDate] at hchecked
  rw [Date.create?_eq_some_iff, Int32.toInt_ofInt_of_le (by omega) (by omega),
    Int32.toInt_ofInt_of_le (by omega) (by omega), Int32.toInt_ofInt_of_le (by omega) (by omega)]
  exact ⟨rfl, rfl, rfl⟩

/-- The columns of a date are read back. -/
lemma reads_readDate (d : Date) :
    Reads readDate [.integer d.day, .integer d.month, .integer d.year] d :=
  .bind (.columnInt rfl) <| .bind (.columnInt rfl) <| .bind (.columnInt rfl) <|
    reads_checked (create?_ofInts_date d)

lemma implements_getDateById (id : RowId) :
    Implements 1 (getDateById id) (Database.getDateById id) := by
  have hquery : Implements 1 _ (query fun s => s.dates.get? id) :=
    implements_byId_unguarded (fun s => s.dates.rows)
      (fun d => [.integer d.day, .integer d.month, .integer d.year]) readDate reads_readDate id
  rw [getDateById, ← bind_assoc]
  refine hquery.of_query can_found (fun c => ?_) fun c => ?_
  · exact Prog.can_bind.mpr (.inl ⟨_, rfl, can_query_error c⟩)
  · refine Prog.can_bind.mpr (.inr ⟨_, c, can_query c, ?_⟩)
    cases c.data.dates.get? id <;> exact ⟨rfl, rfl⟩

lemma implements_addSystemUser (uid : ℤ) :
    Implements 0 (addSystemUser uid) (Bash.Raw.addSystemUser uid) :=
  implements_exec (List.cons_ne_nil _ _)

lemma implements_getSystemUserId (uid : ℤ) :
    Implements 0 (getSystemUserId uid) (Bash.Raw.getSystemUserId uid) := implements_firstId

lemma implements_getSystemUserById (id : RowId) :
    Implements 0 (getSystemUserById id) (Bash.Raw.getSystemUserById id) := by
  have := implements_getFirstInt64Column
    fun s => (s.bash.systemUsers.rows.filter fun r => r.id = id).map (·.val)
  simp only [List.head?_map, List.head?_filter] at this
  exact this

lemma implements_getSystemUsersIdsFromLogs (agentNameId : RowId) :
    Implements 0 (getSystemUsersIdsFromLogs agentNameId)
      (Bash.Raw.getSystemUsersIdsFromLogs agentNameId) :=
  implements_integers _

lemma implements_addCommand (command : Text) :
    Implements 0 (addCommand command) (Bash.Raw.addCommand command) :=
  implements_execSql fun _ hs hopen => runs_bind hs hopen 1 (.text command)
    ((runs_modify hs hopen rfl rfl rfl).mono fun _ _ h => h)

lemma implements_getCommandId (command : Text) :
    Implements 0 (getCommandId command) (Bash.Raw.getCommandId command) := by
  have hquery := implements_idOfText (fun s => s.bash.commands.rows) command
  rw [getCommandId, ← bind_assoc]
  exact hquery.query_map fun id => id.getD (-1)

lemma implements_getAllCommandsIds :
    Implements 0 getAllCommandsIds Bash.Raw.getAllCommandsIds := implements_integers _

lemma implements_addLog (log : Bash.Log) : Implements 0 (addLog log) (Bash.Raw.addLog log) :=
  implements_exec (List.cons_ne_nil _ _)

end Slas.Database.SQLite
