import Mathlib

/-!
Calendar dates, `libslas/src/type/date.cpp`.

* `Date`: the values `Date::Create` accepts, which the type carries as its
  invariant;
* `create?`: `Date::Create`, `none` where it throws;
* `equal`: `Date::operator==`;
* `less`: `Date::operator<`, and `less_iff`, that it is the order by year,
  month and day.
-/

namespace Slas

/-- What `Date::CheckDate` lets through. -/
def CheckDate (day month year : ℤ) : Prop :=
  ¬((day < 1 ∨ day > 31) ∨ (month < 1 ∨ month > 12) ∨ year < 1970)

instance (day month year : ℤ) : Decidable (CheckDate day month year) :=
  inferInstanceAs (Decidable ¬_)

/-- A date that has been set. Its fields are of type `int`, of which only the
year can come near the limit. -/
structure Date where
  day : ℤ
  month : ℤ
  year : ℤ
  checked : CheckDate day month year
  fits : year ≤ 2147483647
  deriving DecidableEq

namespace Date

lemma checkDate_newYear : CheckDate 1 1 2016 := by decide

lemma checkDate_dayAfterNewYear : CheckDate 2 1 2016 := by decide

lemma fits_2016 : (2016 : ℤ) ≤ 2147483647 := by decide

/-- `Date::Create`; `none` if `Date::Set` throws. -/
def create? (day month year : Int32) : Option Date :=
  if h : CheckDate day.toInt month.toInt year.toInt then
    some ⟨day.toInt, month.toInt, year.toInt, h, year.toInt_le⟩
  else none

lemma isSome_create? {day month year : Int32} :
    (create? day month year).isSome ↔ CheckDate day.toInt month.toInt year.toInt := by
  rw [create?]
  split_ifs with h <;> simp [h]

lemma create?_eq_some_iff {day month year : Int32} {d : Date} :
    create? day month year = some d ↔
      d.day = day.toInt ∧ d.month = month.toInt ∧ d.year = year.toInt := by
  obtain ⟨dday, dmonth, dyear, hchecked, _⟩ := d
  rw [create?]
  split_ifs with h
  · rw [Option.some.injEq, mk.injEq]
    exact ⟨fun h => ⟨h.1.symm, h.2.1.symm, h.2.2.symm⟩, fun h => ⟨h.1.symm, h.2.1.symm, h.2.2.symm⟩⟩
  · refine iff_of_false (fun hnone => by cases hnone) ?_
    rintro ⟨rfl, rfl, rfl⟩
    exact h hchecked

/-- Year, month and day, in the order that decides. -/
def key (d : Date) : ℤ ×ₗ ℤ ×ₗ ℤ := toLex (d.year, toLex (d.month, d.day))

lemma key_injective : Function.Injective key := by
  rintro ⟨day, month, year, _, _⟩ ⟨day', month', year', _, _⟩ h
  simp only [key, EmbeddingLike.apply_eq_iff_eq, Prod.mk.injEq] at h
  obtain ⟨rfl, rfl, rfl⟩ := h
  rfl

instance : LinearOrder Date := LinearOrder.lift' key key_injective

lemma lt_iff {d e : Date} : d < e ↔
    d.year < e.year ∨ d.year = e.year ∧
      (d.month < e.month ∨ d.month = e.month ∧ d.day < e.day) := by
  show d.key < e.key ↔ _
  simp only [key, Prod.Lex.toLex_lt_toLex]

lemma le_iff {d e : Date} : d ≤ e ↔
    d.year < e.year ∨ d.year = e.year ∧
      (d.month < e.month ∨ d.month = e.month ∧ d.day ≤ e.day) := by
  show d.key ≤ e.key ↔ _
  simp only [key, Prod.Lex.toLex_le_toLex]

/-- `Date::operator==`. -/
def equal (d t2 : Date) : Bool := t2.day = d.day && t2.month = d.month && t2.year = d.year

lemma equal_iff {d t2 : Date} : d.equal t2 = true ↔ d = t2 := by
  obtain ⟨day, month, year, _, _⟩ := d
  obtain ⟨day', month', year', _, _⟩ := t2
  simp only [equal, Bool.and_eq_true, decide_eq_true_eq, mk.injEq]
  omega

/-- `Date::operator<`. -/
def less (d t2 : Date) : Bool :=
  if d.year = t2.year ∧ d.month = t2.month ∧ d.day < t2.day then true
  else if d.year = t2.year ∧ d.month < t2.month then true
  else if d.year < t2.year then true
  else false

lemma less_iff {d t2 : Date} : d.less t2 = true ↔ d < t2 := by
  rw [lt_iff, less]
  split_ifs <;> simp <;> omega

end Date

end Slas
