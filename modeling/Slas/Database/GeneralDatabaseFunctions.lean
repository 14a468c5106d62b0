import Mathlib
import Slas.Database.Basic

/-!
Dates, times and agent names,
`server/src/database/general_database_functions.cpp`.

Every function but those that add and get an id, `getTimeById` and `getDateById` is one
call on the connection; what it does undisturbed is what its `exec_…` lemma says. A date
or time that is not there has the id `-1`; an agent name that is not there is an
exception.
-/

namespace Slas.Database

variable (c : Connection Store)

/-! ### Times and dates -/

/-- `GeneralDatabaseFunctions::AddTime`. -/
def addTime (t : Time) : DatabaseM Unit :=
  write fun s => { s with times := s.times.insertOrReplace t }

/-- `GeneralDatabaseFunctions::GetTimeId`. -/
def getTimeId (t : Time) : DatabaseM RowId := query fun s => (s.times.idOf? t).getD (-1)

/-- `GeneralDatabaseFunctions::AddAndGetTimeId`. -/
def addAndGetTimeId (time : Time) : DatabaseM RowId := do
  let timeId ← getTimeId time
  if timeId = -1 then do
    addTime time
    getTimeId time
  else pure timeId

/-- `GeneralDatabaseFunctions::GetTimeById`. -/
def getTimeById (id : RowId) : DatabaseM Time := do
  match ← query fun s => s.times.get? id with
  | some time => pure time
  | none => throw .cantExecuteSqlStatementException

/-- `GeneralDatabaseFunctions::AddDate`. -/
def addDate (date : Date) : DatabaseM Unit :=
  write fun s => { s with dates := s.dates.insertOrIgnore date }

/-- `GeneralDatabaseFunctions::GetDateId`. -/
def getDateId (date : Date) : DatabaseM RowId := query fun s => (s.dates.idOf? date).getD (-1)

/-- `GeneralDatabaseFunctions::AddAndGetDateId`. -/
def addAndGetDateId (date : Date) : DatabaseM RowId := do
  let dateId ← getDateId date
  if dateId = -1 then do
    addDate date
    getDateId date
  else pure dateId

/-- `GeneralDatabaseFunctions::GetDateById`. -/
def getDateById (id : RowId) : DatabaseM Date := do
  match ← query fun s => s.dates.get? id with
  | some date => pure date
  | none => throw .cantExecuteSqlStatementException

/-- The condition of `GeneralDatabaseFunctions::GetDateRangeIds` on a row. -/
def inDateRange (start stop d : Date) : Bool :=
  (d.year > start.year || (d.year = start.year && d.month > start.month) ||
    (d.year = start.year && d.month = start.month && d.day ≥ start.day)) &&
  (d.year < stop.year || (d.year = stop.year && d.month < stop.month) ||
    (d.year = stop.year && d.month = stop.month && d.day ≤ stop.day))

/-- `GeneralDatabaseFunctions::GetDateRangeIds`. -/
def getDateRangeIds (start stop : Date) : DatabaseM (List RowId) :=
  query fun s => (s.dates.rows.filter fun r => inDateRange start stop r.val).map (·.id)

/-- The condition on the three columns is the order of dates. -/
lemma inDateRange_iff {start stop d : Date} :
    inDateRange start stop d = true ↔ start ≤ d ∧ d ≤ stop := by
  rw [Date.le_iff, Date.le_iff, inDateRange]
  simp only [gt_iff_lt, ge_iff_le, Bool.and_eq_true, Bool.or_eq_true, decide_eq_true_eq]
  omega

/-! ### Agent names -/

/-- `GeneralDatabaseFunctions::AddAgentName`. -/
def addAgentName (name : Text) : DatabaseM Unit :=
  write fun s => { s with agentNames := s.agentNames.insertOrIgnore name }

/-- `GeneralDatabaseFunctions::GetAgentNameId`. -/
def getAgentNameId (name : Text) : DatabaseM RowId :=
  queryFirst fun s => s.agentNames.idOf? name

/-- `GeneralDatabaseFunctions::AddAndGetAgentNameId`. -/
def addAndGetAgentNameId (name : Text) : DatabaseM RowId := do
  addAgentName name
  getAgentNameId name

/-- `GeneralDatabaseFunctions::GetAgentNameById`. -/
def getAgentNameById (id : RowId) : DatabaseM Text := queryFirst fun s => s.agentNames.get? id

/-- `GeneralDatabaseFunctions::GetAgentsIds`. -/
def getAgentsIds : DatabaseM (List RowId) := query fun s => s.agentNames.rows.map (·.id)

/-! ### Their undisturbed runs -/

@[simp] lemma exec_addTime (t : Time) : (addTime t).exec c
    = (.ok (), { c with data := { c.data with times := c.data.times.insertOrReplace t } }) :=
  exec_write c _

@[simp] lemma exec_getTimeId (t : Time) :
    (getTimeId t).exec c = (.ok ((c.data.times.idOf? t).getD (-1)), c) := exec_query c _

@[simp] lemma exec_addDate (date : Date) : (addDate date).exec c
    = (.ok (), { c with data := { c.data with dates := c.data.dates.insertOrIgnore date } }) :=
  exec_write c _

@[simp] lemma exec_getDateId (date : Date) :
    (getDateId date).exec c = (.ok ((c.data.dates.idOf? date).getD (-1)), c) := exec_query c _

lemma exec_getTimeById {id : RowId} {t : Time} (h : c.data.times.get? id = some t) :
    (getTimeById id).exec c = (.ok t, c) := by
  rw [getTimeById, Prog.exec_bind_ok (exec_query c _), h]
  rfl

lemma exec_getDateById {id : RowId} {date : Date} (h : c.data.dates.get? id = some date) :
    (getDateById id).exec c = (.ok date, c) := by
  rw [getDateById, Prog.exec_bind_ok (exec_query c _), h]
  rfl

lemma exec_getDateById_none {id : RowId} (h : c.data.dates.get? id = none) :
    (getDateById id).exec c = (.error .cantExecuteSqlStatementException, c) := by
  rw [getDateById, Prog.exec_bind_ok (exec_query c _), h]
  rfl

@[simp] lemma exec_getDateRangeIds (start stop : Date) : (getDateRangeIds start stop).exec c
    = (.ok ((c.data.dates.rows.filter fun r => inDateRange start stop r.val).map (·.id)), c) :=
  exec_query c _

@[simp] lemma exec_addAgentName (name : Text) : (addAgentName name).exec c
    = (.ok (), { c with data := { c.data with
        agentNames := c.data.agentNames.insertOrIgnore name } }) :=
  exec_write c _

lemma exec_getAgentNameId {name : Text} {id : RowId}
    (h : c.data.agentNames.idOf? name = some id) : (getAgentNameId name).exec c = (.ok id, c) :=
  exec_queryFirst c h

lemma exec_getAgentNameById {id : RowId} {name : Text}
    (h : c.data.agentNames.get? id = some name) : (getAgentNameById id).exec c = (.ok name, c) :=
  exec_queryFirst c h

@[simp] lemma exec_getAgentsIds :
    getAgentsIds.exec c = (.ok (c.data.agentNames.rows.map (·.id)), c) := exec_query c _

end Slas.Database
