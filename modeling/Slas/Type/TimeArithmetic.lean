import Mathlib
import Slas.Type.Time

/-!
Seconds added to a time of day and subtracted from it, `libslas/src/type/time.cpp`.

* `plus`, `minus`: `Time::operator+` and `Time::operator-`, with the ways in which
  they fail;
* `Saturated`: the time of a number of seconds, cut off at both ends of the day;
* `saturates_iff`: when the sum and the difference are saturated.

Each operator looks at one end of the day only. Seconds beyond the other end are split
into an hour, a minute and a second all the same, and `Create` refuses these, unless
the conversions to `int` happen to take away what is too much.
-/

namespace Slas.Time

/-! ### The source -/

/-- How an operator fails: with the exception of `Time::Set`, or in a signed overflow,
after which anything may happen. -/
inductive Failure where
  | wrongTimeValueException
  | overflow
  deriving DecidableEq, Repr

/-- A result of type `int`. -/
def checkedInt (n : ℤ) : Except Failure ℤ :=
  if -2147483648 ≤ n ∧ n ≤ 2147483647 then .ok n else .error .overflow

/-- A result of type `long`. -/
def checkedLong (n : ℤ) : Except Failure ℤ :=
  if -9223372036854775808 ≤ n ∧ n ≤ 9223372036854775807 then .ok n else .error .overflow

/-- `Time::Create`. -/
def create (hour minute second : Int32) : Except Failure Time :=
  match create? hour minute second with
  | some t => .ok t
  | none => .error .wrongTimeValueException

/-- The lines that both operators share. The quotients are rounded towards zero and then
converted to `int`. -/
def ofTimeInSeconds (timeInSeconds : ℤ) : Except Failure Time := do
  let hour := Int32.ofInt (timeInSeconds.tdiv (60 * 60))
  let timeInSeconds ← checkedLong (timeInSeconds - (← checkedInt (hour.toInt * (60 * 60))))
  let minute := Int32.ofInt (timeInSeconds.tdiv 60)
  let timeInSeconds ← checkedLong (timeInSeconds - (← checkedInt (minute.toInt * 60)))
  let second := Int32.ofInt timeInSeconds
  create hour minute second

/-- `Time::operator-`. The seconds since midnight are an `int`, which cannot overflow. -/
def minus (t : Time) (seconds : Int64) : Except Failure Time := do
  let timeInSeconds ← checkedLong (t.seconds - seconds.toInt)
  if timeInSeconds > 0 then ofTimeInSeconds timeInSeconds else create 0 0 0

/-- `Time::operator+`. -/
def plus (t : Time) (seconds : Int64) : Except Failure Time :=
  if seconds.toInt < 23 * 60 * 60 + 59 * 60 + 59 then do
    let timeInSeconds ← checkedLong (t.seconds + seconds.toInt)
    if timeInSeconds < 23 * 60 * 60 + 59 * 60 + 59 then ofTimeInSeconds timeInSeconds
    else create 23 59 59
  else create 23 59 59

/-! ### Saturation -/

/-- A number of seconds, cut off at midnight and at the last second of the day. -/
def saturate (n : ℤ) : ℤ := min 86399 (max 0 n)

/-- An operation has returned the time of so many seconds, cut off. -/
def Saturated (n : ℤ) (result : Except Failure Time) : Prop :=
  ∃ u, result = .ok u ∧ u.seconds = saturate n

/-- Seconds that are added or subtracted saturate. -/
structure Saturates (t : Time) (n : Int64) : Prop where
  plus : Saturated (t.seconds + n.toInt) (t.plus n)
  minus : Saturated (t.seconds - n.toInt) (t.minus n)

/-- The seconds whose hours are `2 ^ 32`. -/
def period : ℤ := 60 * 60 * 2 ^ 32

lemma fields_bounds (t : Time) : (0 ≤ t.hour ∧ t.hour ≤ 23) ∧ (0 ≤ t.minute ∧ t.minute ≤ 59) ∧
    0 ≤ t.second ∧ t.second ≤ 59 := by
  have h := t.checked
  rw [CheckTime] at h
  omega

lemma seconds_bounds (t : Time) : 0 ≤ t.seconds ∧ t.seconds ≤ 86399 := by
  have h := t.fields_bounds
  rw [seconds]
  omega

lemma exists_seconds_eq {n : ℤ} (h : 0 ≤ n ∧ n ≤ 86399) : ∃ t : Time, t.seconds = n := by
  refine ⟨⟨n / 3600, n % 3600 / 60, n % 60, ?_⟩, ?_⟩
  · rw [CheckTime]
    omega
  · simp only [seconds]
    omega

lemma saturate_bounds (n : ℤ) : 0 ≤ saturate n ∧ saturate n ≤ 86399 := by
  rw [saturate]
  omega

/-! ### What the operators return -/

lemma create_eq_ok_iff {hour minute second : Int32} {u : Time} :
    create hour minute second = .ok u ↔
      u.hour = hour.toInt ∧ u.minute = minute.toInt ∧ u.second = second.toInt := by
  rw [← create?_eq_some_iff, create]
  cases create? hour minute second with
  | some t => simp
  | none => simp

/-- A conversion to `int` keeps what it keeps modulo `2 ^ 32`. -/
lemma toInt_ofInt_eq_iff {n v : ℤ} (hv : 0 ≤ v ∧ v ≤ 59) :
    (Int32.ofInt n).toInt = v ↔ 4294967296 ∣ n - v := by
  have hsize : (Int32.size : ℤ) = 4294967296 := rfl
  rw [Int32.toInt_ofInt, Int.bmod_def, hsize]
  split_ifs <;> omega

lemma checkedInt_bind_eq_ok_iff {n : ℤ} {f : ℤ → Except Failure Time} {u : Time} :
    checkedInt n >>= f = .ok u ↔ (-2147483648 ≤ n ∧ n ≤ 2147483647) ∧ f n = .ok u := by
  rw [checkedInt]
  split_ifs with h
  · exact (and_iff_right h).symm
  · exact iff_of_false (fun heq => by cases heq) fun hand => h hand.1

lemma checkedLong_bind_eq_ok_iff {n : ℤ} {f : ℤ → Except Failure Time} {u : Time} :
    checkedLong n >>= f = .ok u ↔
      (-9223372036854775808 ≤ n ∧ n ≤ 9223372036854775807) ∧ f n = .ok u := by
  rw [checkedLong]
  split_ifs with h
  · exact (and_iff_right h).symm
  · exact iff_of_false (fun heq => by cases heq) fun hand => h hand.1

/-- A quotient that is rounded towards zero. -/
lemma tdiv_cases (n : ℤ) {d : ℤ} (hd : 0 < d) :
    (0 ≤ n ∧ d * n.tdiv d ≤ n ∧ n < d * n.tdiv d + d) ∨
      (n < 0 ∧ n ≤ d * n.tdiv d ∧ d * n.tdiv d - d < n) := by
  have hsum := Int.mul_tdiv_add_tmod n d
  rcases le_or_gt 0 n with hn | hn
  · have h₁ := Int.tmod_nonneg d hn
    have h₂ := Int.tmod_lt_of_pos n hd
    left
    omega
  · have h₁ := Int.lt_tmod_of_pos n hd
    have h₂ := Int.tmod_nonneg (a := -n) d (by omega)
    rw [Int.neg_tmod] at h₂
    right
    omega

/-- **The time that is computed**: whole periods are lost in the conversions. Before
midnight the hours have to be whole. -/
lemma ofTimeInSeconds_eq_ok_iff {n : ℤ} {u : Time}
    (hlow : -9223372036854775808 ≤ n - u.seconds) (hhigh : n ≤ 9223372036854775807)
    (hwhole : 0 ≤ n ∨ u.minute = 0 ∧ u.second = 0) :
    ofTimeInSeconds n = .ok u ↔ period ∣ n - u.seconds := by
  obtain ⟨hhour, hminute, hsecond⟩ := u.fields_bounds
  have hperiod : period = 15461882265600 := rfl
  have hhours := tdiv_cases n (d := 60 * 60) (by decide)
  have hminutes := tdiv_cases (n - u.hour * (60 * 60)) (d := 60) (by decide)
  rw [hperiod]
  rw [seconds] at hlow ⊢
  simp only [ofTimeInSeconds, checkedInt_bind_eq_ok_iff, checkedLong_bind_eq_ok_iff,
    create_eq_ok_iff]
  constructor
  · rintro ⟨-, -, -, -, h₁, h₂, h₃⟩
    rw [← h₁] at h₂ h₃
    rw [← h₂] at h₃
    rw [eq_comm, toInt_ofInt_eq_iff (by omega)] at h₁ h₂ h₃
    omega
  · intro h
    have h₁ : (Int32.ofInt (n.tdiv (60 * 60))).toInt = u.hour := by
      rw [toInt_ofInt_eq_iff (by omega)]
      omega
    have h₂ : (Int32.ofInt ((n - u.hour * (60 * 60)).tdiv 60)).toInt = u.minute := by
      rw [toInt_ofInt_eq_iff (by omega)]
      omega
    have h₃ : (Int32.ofInt (n - u.hour * (60 * 60) - u.minute * 60)).toInt = u.second := by
      rw [toInt_ofInt_eq_iff (by omega)]
      omega
    rw [h₁, h₂, h₃]
    omega

/-- The computed time is the one of the seconds cut off exactly if what is cut off are
whole periods. -/
lemma saturated_ofTimeInSeconds_iff {n : ℤ}
    (hn : -9223372036854775808 ≤ n ∧ n ≤ 9223372036854775807) :
    Saturated n (ofTimeInSeconds n) ↔ period ∣ n - saturate n := by
  obtain ⟨u, hu⟩ := exists_seconds_eq (saturate_bounds n)
  have hexists : Saturated n (ofTimeInSeconds n) ↔ ofTimeInSeconds n = .ok u := by
    constructor
    · rintro ⟨v, hv, hseconds⟩
      rwa [seconds_injective (hu.trans hseconds.symm)]
    · exact fun h => ⟨u, h, hu⟩
  have hsaturate : saturate n = min 86399 (max 0 n) := rfl
  have hlow : -9223372036854775808 ≤ n - u.seconds := by omega
  have hwhole : 0 ≤ n ∨ u.minute = 0 ∧ u.second = 0 := by
    have hfields := u.fields_bounds
    rw [seconds] at hu
    omega
  rw [hexists, ofTimeInSeconds_eq_ok_iff hlow hn.2 hwhole, hu]

lemma saturated_create_midnight {n : ℤ} (hn : n ≤ 0) : Saturated n (create 0 0 0) := by
  refine ⟨⟨0, 0, 0, checkTime_midnight⟩, rfl, ?_⟩
  simp only [seconds, saturate]
  omega

lemma saturated_create_last {n : ℤ} (hn : 86399 ≤ n) : Saturated n (create 23 59 59) := by
  refine ⟨⟨23, 59, 59, by decide⟩, rfl, ?_⟩
  simp only [seconds, saturate]
  omega

lemma not_saturated_error (n : ℤ) (failure : Failure) : ¬Saturated n (.error failure) := by
  rintro ⟨u, hu, -⟩
  cases hu

/-- A sum is saturated at the end of the day, and before midnight only by chance. -/
lemma saturated_plus_iff (t : Time) (n : Int64) : Saturated (t.seconds + n.toInt) (t.plus n) ↔
    0 ≤ t.seconds + n.toInt ∨ period ∣ t.seconds + n.toInt := by
  have hbounds := t.seconds_bounds
  have hmin := n.le_toInt
  have hsaturate : saturate (t.seconds + n.toInt) = min 86399 (max 0 (t.seconds + n.toInt)) := rfl
  rw [plus]
  by_cases hn : n.toInt < 23 * 60 * 60 + 59 * 60 + 59
  · have hfits : -9223372036854775808 ≤ t.seconds + n.toInt ∧
        t.seconds + n.toInt ≤ 9223372036854775807 := by omega
    rw [if_pos hn, checkedLong, if_pos hfits]
    show Saturated _ (if t.seconds + n.toInt < 23 * 60 * 60 + 59 * 60 + 59 then _ else _) ↔ _
    split_ifs with hsum
    · rw [saturated_ofTimeInSeconds_iff hfits]
      rcases le_or_gt 0 (t.seconds + n.toInt) with hpos | hneg
      · refine iff_of_true ?_ (.inl hpos)
        rw [show t.seconds + n.toInt - saturate (t.seconds + n.toInt) = 0 by omega]
        exact dvd_zero period
      · rw [or_iff_right (by omega), show saturate (t.seconds + n.toInt) = 0 by omega, sub_zero]
    · exact iff_of_true (saturated_create_last (by omega)) (.inl (by omega))
  · rw [if_neg hn]
    exact iff_of_true (saturated_create_last (by omega)) (.inl (by omega))

/-- A difference is saturated at midnight, and after the end of the day only by chance. -/
lemma saturated_minus_iff (t : Time) (n : Int64) : Saturated (t.seconds - n.toInt) (t.minus n) ↔
    t.seconds - n.toInt ≤ 86399 ∨
      t.seconds - n.toInt ≤ 9223372036854775807 ∧ period ∣ t.seconds - n.toInt - 86399 := by
  have hbounds := t.seconds_bounds
  have hmax := n.toInt_lt
  have hsaturate : saturate (t.seconds - n.toInt) = min 86399 (max 0 (t.seconds - n.toInt)) := rfl
  rw [minus, checkedLong]
  by_cases hfits : -9223372036854775808 ≤ t.seconds - n.toInt ∧
      t.seconds - n.toInt ≤ 9223372036854775807
  · rw [if_pos hfits]
    show Saturated _ (if t.seconds - n.toInt > 0 then _ else _) ↔ _
    split_ifs with hdifference
    · rw [saturated_ofTimeInSeconds_iff hfits]
      rcases le_or_gt (t.seconds - n.toInt) 86399 with hle | hgt
      · refine iff_of_true ?_ (.inl hle)
        rw [show t.seconds - n.toInt - saturate (t.seconds - n.toInt) = 0 by omega]
        exact dvd_zero period
      · rw [or_iff_right (by omega), and_iff_right hfits.2,
          show saturate (t.seconds - n.toInt) = 86399 by omega]
    · exact iff_of_true (saturated_create_midnight (by omega)) (.inl (by omega))
  · rw [if_neg hfits]
    exact iff_of_false (not_saturated_error _ _) (by omega)

/-- **When seconds saturate**: the sum is not before midnight and the difference not
after the end of the day, or whole periods are cut off. -/
theorem saturates_iff (t : Time) (n : Int64) : t.Saturates n ↔
    (0 ≤ t.seconds + n.toInt ∨ period ∣ t.seconds + n.toInt) ∧
      (t.seconds - n.toInt ≤ 86399 ∨
        t.seconds - n.toInt ≤ 9223372036854775807 ∧ period ∣ t.seconds - n.toInt - 86399) := by
  rw [← saturated_plus_iff, ← saturated_minus_iff]
  exact ⟨fun h => ⟨h.plus, h.minus⟩, fun h => ⟨h.1, h.2⟩⟩

/-- One second before midnight: the second is `-1`. -/
theorem not_saturates_beforeMidnight :
    ¬Saturates ⟨0, 0, 0, checkTime_midnight⟩ (-1) := by
  intro h
  exact not_saturated_error _ _ h.plus

end Slas.Time
