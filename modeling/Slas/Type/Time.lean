import Mathlib
import Slas.Type.Date

/-!
Times of day and timestamps, `libslas/src/type/time.cpp`,
`libslas/include/slas/type/timestamp.h` and `libslas/src/util/distance.cpp`.

* `Time`: the values `Time::Create` accepts; `seconds` counts them from
  midnight and orders them;
* `distance`: `util::Distance`, the difference in seconds;
* `Timestamp`: a date and a time, ordered as `Timestamp::operator<` orders them;
* `Time.equal`, `Timestamp.equal`: the equalities of the two classes;
* `Timestamp.create?`: `Timestamp::Set`, `none` where it throws.
-/

namespace Slas

/-- What `Time::CheckTime` lets through. -/
def CheckTime (hour minute second : ℤ) : Prop :=
  ¬((hour < 0 ∨ hour > 23) ∨ (minute < 0 ∨ minute > 59) ∨ (second < 0 ∨ second > 59))

instance (hour minute second : ℤ) : Decidable (CheckTime hour minute second) :=
  inferInstanceAs (Decidable ¬_)

/-- A time of day. -/
structure Time where
  hour : ℤ
  minute : ℤ
  second : ℤ
  checked : CheckTime hour minute second
  deriving DecidableEq

namespace Time

lemma checkTime_midnight : CheckTime 0 0 0 := by decide

lemma checkTime_ten : CheckTime 10 0 0 := by decide

/-- `Time::Create`; `none` if `Time::Set` throws. -/
def create? (hour minute second : Int32) : Option Time :=
  if h : CheckTime hour.toInt minute.toInt second.toInt then
    some ⟨hour.toInt, minute.toInt, second.toInt, h⟩
  else none

lemma isSome_create? {hour minute second : Int32} :
    (create? hour minute second).isSome ↔ CheckTime hour.toInt minute.toInt second.toInt := by
  rw [create?]
  split_ifs with h <;> simp [h]

lemma create?_eq_some_iff {hour minute second : Int32} {t : Time} :
    create? hour minute second = some t ↔
      t.hour = hour.toInt ∧ t.minute = minute.toInt ∧ t.second = second.toInt := by
  obtain ⟨thour, tminute, tsecond, hchecked⟩ := t
  rw [create?]
  split_ifs with h
  · rw [Option.some.injEq, mk.injEq]
    exact ⟨fun h => ⟨h.1.symm, h.2.1.symm, h.2.2.symm⟩, fun h => ⟨h.1.symm, h.2.1.symm, h.2.2.symm⟩⟩
  · refine iff_of_false (fun hnone => by cases hnone) ?_
    rintro ⟨rfl, rfl, rfl⟩
    exact h hchecked

/-- Seconds since midnight. -/
def seconds (t : Time) : ℤ := t.hour * 60 * 60 + t.minute * 60 + t.second

lemma seconds_injective : Function.Injective seconds := by
  rintro ⟨h, m, s, hc⟩ ⟨h', m', s', hc'⟩ heq
  simp only [seconds, CheckTime] at heq hc hc'
  obtain ⟨rfl, rfl, rfl⟩ : h = h' ∧ m = m' ∧ s = s' := by omega
  rfl

instance : LinearOrder Time := LinearOrder.lift' seconds seconds_injective

lemma le_iff_seconds {t u : Time} : t ≤ u ↔ t.seconds ≤ u.seconds := Iff.rfl

lemma lt_iff_seconds {t u : Time} : t < u ↔ t.seconds < u.seconds := Iff.rfl

/-- `Time::operator==`. -/
def equal (t t2 : Time) : Bool :=
  t.hour = t2.hour && t.minute = t2.minute && t.second = t2.second

lemma equal_iff {t t2 : Time} : t.equal t2 = true ↔ t = t2 := by
  obtain ⟨hour, minute, second, _⟩ := t
  obtain ⟨hour', minute', second', _⟩ := t2
  simp only [equal, Bool.and_eq_true, decide_eq_true_eq, mk.injEq]
  omega

/-- `Time::operator<`. -/
def less (t t2 : Time) : Bool :=
  if t.hour = t2.hour ∧ t.minute = t2.minute ∧ t.second < t2.second then true
  else if t.hour = t2.hour ∧ t.minute < t2.minute then true
  else if t.hour < t2.hour then true
  else false

lemma less_iff {t t2 : Time} : t.less t2 = true ↔ t < t2 := by
  have h := t.checked
  have h' := t2.checked
  rw [CheckTime] at h h'
  rw [lt_iff_seconds, less]
  simp only [seconds]
  split_ifs <;> simp <;> omega

end Time

/-- `util::Distance`. -/
def distance (t1 t2 : Time) : ℤ := |t2.seconds - t1.seconds|

/-- `type::Timestamp`. -/
structure Timestamp where
  time : Time
  date : Date
  deriving DecidableEq

namespace Timestamp

/-- `Timestamp::Set`; `none` if it throws. -/
def create? (hour minute second day month year : Int32) : Option Timestamp := do
  let time ← Time.create? hour minute second
  let date ← Date.create? day month year
  pure ⟨time, date⟩

lemma isSome_create? {hour minute second day month year : Int32} :
    (create? hour minute second day month year).isSome ↔
      CheckTime hour.toInt minute.toInt second.toInt ∧
        CheckDate day.toInt month.toInt year.toInt := by
  rw [← Time.isSome_create?, ← Date.isSome_create?, create?]
  cases Time.create? hour minute second with
  | none => simp
  | some time =>
      cases Date.create? day month year with
      | none => simp
      | some date => simp

/-- Date and time, in the order that decides. -/
def key (t : Timestamp) : Date ×ₗ Time := toLex (t.date, t.time)

lemma key_injective : Function.Injective key := by
  rintro ⟨time, date⟩ ⟨time', date'⟩ h
  simp only [key, EmbeddingLike.apply_eq_iff_eq, Prod.mk.injEq] at h
  obtain ⟨rfl, rfl⟩ := h
  rfl

instance : LinearOrder Timestamp := LinearOrder.lift' key key_injective

lemma lt_iff {t u : Timestamp} : t < u ↔ t.date < u.date ∨ t.date = u.date ∧ t.time < u.time := by
  show t.key < u.key ↔ _
  simp only [key, Prod.Lex.toLex_lt_toLex]

lemma le_iff {t u : Timestamp} : t ≤ u ↔ t.date < u.date ∨ t.date = u.date ∧ t.time ≤ u.time := by
  show t.key ≤ u.key ↔ _
  simp only [key, Prod.Lex.toLex_le_toLex]

/-- `Timestamp::operator==`. -/
def equal (t t2 : Timestamp) : Bool := t.date.equal t2.date && t.time.equal t2.time

lemma equal_iff {t t2 : Timestamp} : t.equal t2 = true ↔ t = t2 := by
  rw [equal, Bool.and_eq_true, Date.equal_iff, Time.equal_iff]
  exact ⟨fun h => by cases t; cases t2; simp_all, fun h => h ▸ ⟨rfl, rfl⟩⟩

/-- `Timestamp::operator<`. -/
def less (t t2 : Timestamp) : Bool :=
  (t.date = t2.date && t.time.less t2.time) || t.date.less t2.date

lemma less_iff {t t2 : Timestamp} : t.less t2 = true ↔ t < t2 := by
  rw [lt_iff, less, Bool.or_eq_true, Bool.and_eq_true, Time.less_iff, Date.less_iff,
    decide_eq_true_eq, or_comm]

end Timestamp

end Slas
