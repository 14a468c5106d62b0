import Mathlib
import Slas.Lib.Condition
import Slas.Database.GeneralDatabaseFunctions

/-!
Ranges of times and dates in SQL and in C++.

* `TimeRule`, `timeRule`: the condition both `GetTimeRule` build, of
  `server/src/apache/database/database_functions.cpp` and of
  `server/src/database/database.cpp`;
* `timeRule_holds_iff`: it is the order of `Timestamp::operator<`;
* `ranges_ordered`: rows are selected by the order that the classes of `libslas` have.
-/

namespace Slas.Database

open Condition

/-! ### The source -/

/-- The columns of a timestamp in a table. -/
inductive TimeColumn where
  | utcHour
  | utcMinute
  | utcSecond
  | utcDay
  | utcMonth
  | utcYear
  deriving DecidableEq

/-- What a column holds. -/
def TimeColumn.value : TimeColumn → Timestamp → ℤ
  | .utcHour, t => t.time.hour
  | .utcMinute, t => t.time.minute
  | .utcSecond, t => t.time.second
  | .utcDay, t => t.date.day
  | .utcMonth, t => t.date.month
  | .utcYear, t => t.date.year

/-- The text of a time rule: two disjunctions that are joined by `and`. -/
structure TimeRule where
  lower : Disjunction TimeColumn ℤ
  upper : Disjunction TimeColumn ℤ
  deriving DecidableEq

/-- Whether a row with the timestamp `t` satisfies a time rule. -/
def TimeRule.holds (rule : TimeRule) (t : Timestamp) : Bool :=
  Condition.holds (fun column => column.value t) rule.lower &&
    Condition.holds (fun column => column.value t) rule.upper

/-- The text both classes build. -/
def timeRule (start stop : Timestamp) : TimeRule :=
  let fromDay := start.date.day
  let fromMonth := start.date.month
  let fromYear := start.date.year
  let fromHour := start.time.hour
  let fromMinute := start.time.minute
  let fromSecond := start.time.second
  let toDay := stop.date.day
  let toMonth := stop.date.month
  let toYear := stop.date.year
  let toHour := stop.time.hour
  let toMinute := stop.time.minute
  let toSecond := stop.time.second
  { lower := [
      [⟨.utcYear, .gt, fromYear⟩],
      [⟨.utcYear, .eq, fromYear⟩, ⟨.utcMonth, .gt, fromMonth⟩],
      [⟨.utcYear, .eq, fromYear⟩, ⟨.utcMonth, .eq, fromMonth⟩, ⟨.utcDay, .gt, fromDay⟩],
      [⟨.utcYear, .eq, fromYear⟩, ⟨.utcMonth, .eq, fromMonth⟩, ⟨.utcDay, .eq, fromDay⟩,
        ⟨.utcHour, .gt, fromHour⟩],
      [⟨.utcYear, .eq, fromYear⟩, ⟨.utcMonth, .eq, fromMonth⟩, ⟨.utcDay, .eq, fromDay⟩,
        ⟨.utcHour, .eq, fromHour⟩, ⟨.utcMinute, .gt, fromMinute⟩],
      [⟨.utcYear, .eq, fromYear⟩, ⟨.utcMonth, .eq, fromMonth⟩, ⟨.utcDay, .eq, fromDay⟩,
        ⟨.utcHour, .eq, fromHour⟩, ⟨.utcMinute, .eq, fromMinute⟩, ⟨.utcSecond, .ge, fromSecond⟩]]
    upper := [
      [⟨.utcYear, .lt, toYear⟩],
      [⟨.utcYear, .eq, toYear⟩, ⟨.utcMonth, .lt, toMonth⟩],
      [⟨.utcYear, .eq, toYear⟩, ⟨.utcMonth, .eq, toMonth⟩, ⟨.utcDay, .lt, toDay⟩],
      [⟨.utcYear, .eq, toYear⟩, ⟨.utcMonth, .eq, toMonth⟩, ⟨.utcDay, .eq, toDay⟩,
        ⟨.utcHour, .lt, toHour⟩],
      [⟨.utcYear, .eq, toYear⟩, ⟨.utcMonth, .eq, toMonth⟩, ⟨.utcDay, .eq, toDay⟩,
        ⟨.utcHour, .eq, toHour⟩, ⟨.utcMinute, .lt, toMinute⟩],
      [⟨.utcYear, .eq, toYear⟩, ⟨.utcMonth, .eq, toMonth⟩, ⟨.utcDay, .eq, toDay⟩,
        ⟨.utcHour, .eq, toHour⟩, ⟨.utcMinute, .eq, toMinute⟩, ⟨.utcSecond, .le, toSecond⟩]] }

/-- `Database::GetTimeRule`. -/
def getTimeRule (start stop : Timestamp) : TimeRule := timeRule start stop

end Slas.Database

/-- `DatabaseFunctions::GetTimeRule`. -/
def Slas.Apache.getTimeRule (start stop : Slas.Timestamp) : Slas.Database.TimeRule :=
  Slas.Database.timeRule start stop

namespace Slas.Database

open Condition

/-! ### The order -/

/-- The columns of a timestamp, from the one that decides first to the one that decides
last. -/
def timeColumns : List TimeColumn :=
  [.utcYear, .utcMonth, .utcDay, .utcHour, .utcMinute, .utcSecond]

/-- The columns in their order are the order of timestamps. -/
lemma le_iff_columns {t u : Timestamp} :
    t ≤ u ↔ (timeColumns.map fun column => column.value t) ≤
      timeColumns.map fun column => column.value u := by
  have ht := t.time.checked
  have hu := u.time.checked
  rw [CheckTime] at ht hu
  simp only [timeColumns, List.map_cons, List.map_nil, TimeColumn.value, cons_le_cons,
    le_refl, and_true]
  rw [Timestamp.le_iff, Date.lt_iff, Time.le_iff_seconds, Time.seconds, Time.seconds]
  have hdate : t.date = u.date ↔
      t.date.year = u.date.year ∧ t.date.month = u.date.month ∧ t.date.day = u.date.day := by
    rw [← Date.equal_iff, Date.equal]
    simp only [Bool.and_eq_true, decide_eq_true_eq]
    omega
  rw [hdate]
  omega

/-- Both disjunctions are lexicographic. -/
lemma timeRule_eq (start stop : Timestamp) : timeRule start stop =
    { lower := lexicographic .gt .ge (timeColumns.map fun column => (column, column.value start))
      upper := lexicographic .lt .le
        (timeColumns.map fun column => (column, column.value stop)) } :=
  rfl

/-- **A time rule selects the timestamps of its range.** -/
theorem holds_timeRule {start stop t : Timestamp} :
    (timeRule start stop).holds t = true ↔ start ≤ t ∧ t ≤ stop := by
  rw [timeRule_eq, TimeRule.holds, Bool.and_eq_true, holds_lexicographic_ge (by simp [timeColumns]),
    holds_lexicographic_le (by simp [timeColumns])]
  simp only [List.map_map, Function.comp_def]
  rw [← le_iff_columns, ← le_iff_columns]

/-! ### What is selected -/

/-- A row of a range by the comparisons of C++. -/
lemma holds_timeRule_iff_less {start stop t : Timestamp} :
    (timeRule start stop).holds t = true ↔ ¬t.less start = true ∧ ¬stop.less t = true := by
  rw [holds_timeRule, Timestamp.less_iff, Timestamp.less_iff, not_lt, not_lt]

/-- `Timestamp::operator<` and `Timestamp::operator==` together. -/
structure StrictOrder : Prop where
  strict : IsStrictTotalOrder Timestamp fun t u => t.less u = true
  equal : ∀ t u : Timestamp, t.equal u = true ↔ ¬t.less u = true ∧ ¬u.less t = true

lemma strictOrder : StrictOrder where
  strict :=
    { trichotomous := fun t u => by
        simp only [Timestamp.less_iff, not_lt]
        exact fun h h' => le_antisymm h' h
      irrefl := fun t => by simp [Timestamp.less_iff]
      trans := fun t u v => by
        simp only [Timestamp.less_iff]
        exact lt_trans }
  equal t u := by
    rw [Timestamp.equal_iff, Timestamp.less_iff, Timestamp.less_iff, not_lt, not_lt]
    exact ⟨fun h => h ▸ ⟨le_rfl, le_rfl⟩, fun h => le_antisymm h.2 h.1⟩

/-- **SQL ranges mean what the order of C++ means**, for both time rules and for the
dates of `DATE_TABLE`. -/
theorem ranges_ordered :
    (∀ start stop t : Timestamp,
      ((Apache.getTimeRule start stop).holds t = true ↔
        ¬t.less start = true ∧ ¬stop.less t = true) ∧
      ((getTimeRule start stop).holds t = true ↔
        ¬t.less start = true ∧ ¬stop.less t = true)) ∧
    (∀ (start stop : Date) (c : Connection Store), (getDateRangeIds start stop).exec c
      = (.ok ((c.data.dates.rows.filter fun r => !r.val.less start && !stop.less r.val).map (·.id)),
          c)) ∧
    StrictOrder := by
  refine ⟨fun start stop t => ⟨holds_timeRule_iff_less, holds_timeRule_iff_less⟩,
    fun start stop c => ?_, strictOrder⟩
  rw [exec_getDateRangeIds]
  have hrange : ∀ d : Date, inDateRange start stop d = (!d.less start && !stop.less d) :=
    fun d => by
    rw [Bool.eq_iff_iff, inDateRange_iff, Bool.and_eq_true, Bool.not_eq_true', Bool.not_eq_true',
      ← Bool.not_eq_true, ← Bool.not_eq_true, Date.less_iff, Date.less_iff, not_lt, not_lt]
  simp only [hrange]

end Slas.Database
