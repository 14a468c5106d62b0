import Mathlib
import Slas.Database.GeneralDatabaseFunctions
import Slas.Bash.RawDatabaseFunctions

/-!
Adding a log of a bash session: `DatabaseFunctions::AddLog` of
`server/src/bash/database/database_functions.cpp` and `Scripts::AddLog` of
`server/src/bash/domain/scripts.cpp`.

* `addLog`: the row for an entry, whose ids are looked up again;
* `Scripts.addLog`: the names of the entry are added first, its command without
  white space;
* `exec_addLog`: the undisturbed run.

The lookup uses the command as it came. A command that has white space was added
under another name, so its row gets the id of whatever command has the name as it
came, or `-1`.
-/

namespace Slas

/-- `type::BashLogEntry`. -/
structure BashLogEntry where
  agentName : Text
  utcTime : Timestamp
  userId : UInt32
  command : Text
  deriving DecidableEq

/-- The user of an entry as a `database::type::UID`, an `int`. This is what the table holds;
`uid_eq_iff`: users and their `UID`s correspond one to one. -/
def BashLogEntry.uid (e : BashLogEntry) : ℤ := e.userId.toInt32.toInt

/-- Two users of one `UID` are the same. -/
lemma BashLogEntry.uid_eq_iff {e e' : BashLogEntry} : e.uid = e'.uid ↔ e.userId = e'.userId := by
  rw [uid, uid, Int32.toInt_inj]
  constructor
  · intro h
    have := congrArg Int32.toUInt32 h
    simpa using this
  · exact congrArg _

namespace Bash

open Database

/-- `isspace` in the C locale. -/
def isspace (b : UInt8) : Bool := b = 32 || (9 ≤ b && b ≤ 13)

/-- A command without its white space, as `std::remove_if` leaves it. -/
def stripCommand (command : Text) : Text := command.filter fun b => !isspace b

/-- `DatabaseFunctions::AddLog`. -/
def addLog (logEntry : BashLogEntry) : DatabaseM Unit := do
  let agentNameId ← getAgentNameId logEntry.agentName
  let dateId ← getDateId logEntry.utcTime.date
  let timeId ← getTimeId logEntry.utcTime.time
  let userId ← Raw.getSystemUserId logEntry.uid
  let commandId ← Raw.getCommandId logEntry.command
  Raw.addLog { agentNameId, dateId, timeId, userId, commandId }

/-- `Scripts::AddLog`. -/
def Scripts.addLog (logEntry : BashLogEntry) : DatabaseM Unit := do
  let command := stripCommand logEntry.command
  if command.bytes = [] then pure ()
  else do
    addDate logEntry.utcTime.date
    addTime logEntry.utcTime.time
    addAgentName logEntry.agentName
    Raw.addSystemUser logEntry.uid
    Raw.addCommand command
    Bash.addLog logEntry

/-! ### The undisturbed run -/

/-- The names of an entry, its command without white space. -/
def internEntry (e : BashLogEntry) (s : Store) : Store :=
  { s with
    dates := s.dates.insertOrIgnore e.utcTime.date
    times := s.times.insertOrReplace e.utcTime.time
    agentNames := s.agentNames.insertOrIgnore e.agentName
    bash := { s.bash with
      systemUsers := s.bash.systemUsers.insertOrIgnore e.uid
      commands := s.bash.commands.insertOrIgnore (stripCommand e.command) } }

/-- The row `DatabaseFunctions::AddLog` builds from the tables of names. -/
def logOf (s : Store) (e : BashLogEntry) : Log where
  agentNameId := (s.agentNames.idOf? e.agentName).getD (-1)
  timeId := (s.times.idOf? e.utcTime.time).getD (-1)
  dateId := (s.dates.idOf? e.utcTime.date).getD (-1)
  userId := (s.bash.systemUsers.idOf? e.uid).getD (-1)
  commandId := (s.bash.commands.idOf? e.command).getD (-1)

lemma exec_addLog {e : BashLogEntry} {c : Connection Store} {id : RowId}
    (h : c.data.agentNames.idOf? e.agentName = some id) :
    (addLog e).exec c = (.ok (), { c with data := { c.data with bash := { c.data.bash with
      logs := c.data.bash.logs.insert (logOf c.data e) } } }) := by
  rw [addLog, Prog.exec_bind_ok (exec_getAgentNameId c h)]
  simp only [Prog.exec_bind, exec_getDateId, exec_getTimeId, Raw.getSystemUserId,
    Raw.exec_queryBash, Raw.getCommandId, Raw.addLog, Raw.exec_writeBash, logOf, h,
    Option.getD_some]

/-- What one entry makes of the database. -/
def addEntry (e : BashLogEntry) (s : Store) : Store :=
  if (stripCommand e.command).bytes = [] then s
  else
    let s' := internEntry e s
    { s' with bash := { s'.bash with logs := s'.bash.logs.insert (logOf s' e) } }

/-- The agent is there once an entry has been interned. -/
lemma exists_agentNameId (e : BashLogEntry) (s : Store) :
    ∃ id, (internEntry e s).agentNames.idOf? e.agentName = some id := by
  obtain ⟨r, hr, hkey⟩ := s.agentNames.exists_mem_insertOrIgnore e.agentName
  exact ⟨r.id, UniqueTable.idOf?_eq_some.mpr ⟨r.val, hr, hkey⟩⟩

/-- **An undisturbed `Scripts::AddLog` returns.** -/
lemma Scripts.exec_addLog (e : BashLogEntry) (c : Connection Store) :
    (Scripts.addLog e).exec c = (.ok (), { c with data := addEntry e c.data }) := by
  by_cases hempty : (stripCommand e.command).bytes = []
  · simp [Scripts.addLog, addEntry, hempty]
  · obtain ⟨id, hid⟩ := exists_agentNameId e c.data
    rw [Scripts.addLog, addEntry, if_neg hempty]
    simp only [if_neg hempty, Prog.exec_bind, exec_addDate, exec_addTime, exec_addAgentName,
      Raw.addSystemUser, Raw.addCommand, Raw.exec_writeBash]
    exact Bash.exec_addLog (c := { c with data := internEntry e c.data }) hid

end Bash

end Slas
