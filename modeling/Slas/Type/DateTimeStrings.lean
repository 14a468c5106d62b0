import Mathlib
import Slas.Type.NumbersText
import Slas.Type.Time
import Slas.Util.ToString

/-!
Dates and times printed and parsed: `ToString` and `Create` of a string in
`libslas/src/type/date.cpp` and `libslas/src/type/time.cpp`.

* `Date.toString`, `Time.toString`: what is printed;
* `Date.createFromString`, `Time.createFromString`: what is parsed, of the C string that
  the string is read as;
* `IsDate`, `IsTime`: the strings that should be accepted;
* `strings_iff`: which values and which strings the parsers get right.

A year may have more than the four digits that the parser asks for, and the parser does
not look behind a NUL byte.
-/

namespace Slas

/-! ### The source -/

/-- How both `Create` fail: the text does not match, `DateParseException` or
`TimeParseException`; its numbers are refused, `WrongDateValueException` or
`WrongTimeValueException`; or `std::stoi` throws. -/
inductive CreateException where
  | parseException
  | wrongValueException
  | std (e : StdException)
  deriving DecidableEq, Repr

/-- What `c_str()` is read as. -/
def cStr (str : Str) : Str := str.takeWhile (· ≠ 0)

/-- `^\s*([0-9]{1,2}):([0-9]{1,2}):([0-9]{1,2})\s*$`: hour, minute and second. -/
def matchTime (str : Str) : Option (Str × Str × Str) := matchNumbers (byte ':') 1 2 str

/-- What both `Create` do with the groups of a match. -/
def createFromGroups {α : Type} (create? : Int32 → Int32 → Int32 → Option α) :
    Option (Str × Str × Str) → Except CreateException α
  | none => .error .parseException
  | some (first, second, third) => do
      let first ← (stoi first).mapError .std
      let second ← (stoi second).mapError .std
      let third ← (stoi third).mapError .std
      match create? first second third with
      | some a => .ok a
      | none => .error .wrongValueException

/-- `Date::Create` of a string. -/
def Date.createFromString (date : Str) : Except CreateException Date :=
  createFromGroups (fun year month day => create? day month year) (matchDate (cStr date))

/-- `Time::Create` of a string. -/
def Time.createFromString (time : Str) : Except CreateException Time :=
  createFromGroups create? (matchTime (cStr time))

/-- The `helper` of both `ToString`. -/
def padded (i : ℤ) : Str := (if i < 10 then ascii "0" else []) ++ stdToString i

/-- `Date::ToString`. -/
def Date.toString (d : Date) : Str :=
  stdToString d.year ++ ascii "-" ++ padded d.month ++ ascii "-" ++ padded d.day

/-- `Time::ToString`. -/
def Time.toString (t : Time) : Str :=
  padded t.hour ++ ascii ":" ++ padded t.minute ++ ascii ":" ++ padded t.second

/-! ### What should be parsed -/

/-- The texts of the expression. -/
def IsTimeText (str hour minute second : Str) : Prop :=
  IsNumbersText (byte ':') 1 2 str hour minute second

/-- White space around a year, a month and a day that pass the range check. -/
def IsDate (str : Str) : Prop :=
  ∃ year month day, IsDateText str year month day ∧
    CheckDate (ofDigits day) (ofDigits month) (ofDigits year)

/-- White space around an hour, a minute and a second that pass the range check. -/
def IsTime (str : Str) : Prop :=
  ∃ hour minute second, IsTimeText str hour minute second ∧
    CheckTime (ofDigits hour) (ofDigits minute) (ofDigits second)

/-- Printed and parsed again, a date is an equal one. -/
def Date.Survives (d : Date) : Prop :=
  ∃ e, Date.createFromString d.toString = .ok e ∧ e.equal d = true

/-- Printed and parsed again, a time is an equal one. -/
def Time.Survives (t : Time) : Prop :=
  ∃ u, Time.createFromString t.toString = .ok u ∧ u.equal t = true

/-- A string is parsed exactly if it should be. -/
def ParsedRight {α : Type} (createFromString : Str → Except CreateException α)
    (shouldParse : Str → Prop) (str : Str) : Prop :=
  (∃ a, createFromString str = .ok a) ↔ shouldParse str

/-! ### The parsers -/

section Groups

variable {α : Type} {create? : Int32 → Int32 → Int32 → Option α} {separator : UInt8}
  {least most : ℕ} {str : Str} {a : α}

/-- **The numbers that are checked** are those of the three groups. -/
lemma createFromGroups_eq_ok_iff (hseparator : isDigit separator = false) (hleast : 0 < least)
    (hmost : most ≤ 9) :
    createFromGroups create? (matchNumbers separator least most str) = .ok a ↔
      ∃ first second third, IsNumbersText separator least most str first second third ∧
        create? (Int32.ofInt (ofDigits first)) (Int32.ofInt (ofDigits second))
          (Int32.ofInt (ofDigits third)) = some a := by
  have hgroups : ∀ {first second third}, IsNumbersText separator least most str first second third →
      (createFromGroups create? (some (first, second, third)) = .ok a ↔
        create? (Int32.ofInt (ofDigits first)) (Int32.ofInt (ofDigits second))
          (Int32.ofInt (ofDigits third)) = some a) := by
    rintro first second third ⟨_, _, -, -, hfirst, hsecond, hthird, -⟩
    rw [createFromGroups, hfirst.stoi hleast hmost, hsecond.stoi (by decide) (by decide),
      hthird.stoi (by decide) (by decide)]
    simp only [Except.mapError, bind, Except.bind]
    cases create? (Int32.ofInt (ofDigits first)) (Int32.ofInt (ofDigits second))
      (Int32.ofInt (ofDigits third)) with
    | none => simp
    | some b => simp
  constructor
  · intro h
    cases hmatch : matchNumbers separator least most str with
    | none =>
        rw [hmatch] at h
        cases h
    | some groups =>
        obtain ⟨first, second, third⟩ := groups
        have htext := (matchNumbers_eq_some_iff hseparator hleast).mp hmatch
        rw [hmatch] at h
        exact ⟨first, second, third, htext, (hgroups htext).mp h⟩
  · rintro ⟨first, second, third, htext, hcreate⟩
    rw [(matchNumbers_eq_some_iff hseparator hleast).mpr htext]
    exact (hgroups htext).mpr hcreate

end Groups

lemma Date.createFromString_eq_ok_iff {str : Str} {d : Date} :
    Date.createFromString str = .ok d ↔ ∃ year month day, IsDateText (cStr str) year month day ∧
      d.day = ofDigits day ∧ d.month = ofDigits month ∧ d.year = ofDigits year := by
  rw [createFromString, matchDate, createFromGroups_eq_ok_iff (by decide) (by decide) (by decide)]
  refine exists_congr fun year => exists_congr fun month => exists_congr fun day =>
    and_congr_right fun htext => ?_
  obtain ⟨_, _, -, -, hyear, hmonth, hday, -⟩ := htext
  rw [create?_eq_some_iff, hyear.toInt (by decide), hmonth.toInt (by decide),
    hday.toInt (by decide)]

lemma Time.createFromString_eq_ok_iff {str : Str} {t : Time} :
    Time.createFromString str = .ok t ↔
      ∃ hour minute second, IsTimeText (cStr str) hour minute second ∧
        t.hour = ofDigits hour ∧ t.minute = ofDigits minute ∧ t.second = ofDigits second := by
  rw [createFromString, matchTime, createFromGroups_eq_ok_iff (by decide) (by decide) (by decide)]
  refine exists_congr fun hour => exists_congr fun minute => exists_congr fun second =>
    and_congr_right fun htext => ?_
  obtain ⟨_, _, -, -, hhour, hminute, hsecond, -⟩ := htext
  rw [create?_eq_some_iff, hhour.toInt (by decide), hminute.toInt (by decide),
    hsecond.toInt (by decide)]

/-- The parser accepts a C string exactly if it should. -/
lemma Date.exists_createFromString_iff {str : Str} :
    (∃ d, Date.createFromString str = .ok d) ↔ IsDate (cStr str) := by
  constructor
  · rintro ⟨d, hd⟩
    obtain ⟨year, month, day, htext, hday, hmonth, hyear⟩ := createFromString_eq_ok_iff.mp hd
    refine ⟨year, month, day, htext, ?_⟩
    rw [← hday, ← hmonth, ← hyear]
    exact d.checked
  · rintro ⟨year, month, day, htext, hcheck⟩
    have hfits : ofDigits year ≤ 2147483647 := by
      obtain ⟨_, _, -, -, hyear, -⟩ := htext
      exact (hyear.fits (by decide)).2
    refine ⟨⟨ofDigits day, ofDigits month, ofDigits year, hcheck, hfits⟩, ?_⟩
    exact createFromString_eq_ok_iff.mpr ⟨year, month, day, htext, rfl, rfl, rfl⟩

lemma Time.exists_createFromString_iff {str : Str} :
    (∃ t, Time.createFromString str = .ok t) ↔ IsTime (cStr str) := by
  constructor
  · rintro ⟨t, ht⟩
    obtain ⟨hour, minute, second, htext, hhour, hminute, hsecond⟩ :=
      createFromString_eq_ok_iff.mp ht
    refine ⟨hour, minute, second, htext, ?_⟩
    rw [← hhour, ← hminute, ← hsecond]
    exact t.checked
  · rintro ⟨hour, minute, second, htext, hcheck⟩
    refine ⟨⟨ofDigits hour, ofDigits minute, ofDigits second, hcheck⟩, ?_⟩
    exact createFromString_eq_ok_iff.mpr ⟨hour, minute, second, htext, rfl, rfl, rfl⟩

/-! ### Printed and parsed again -/

lemma IsNumbersText.nul_notMem {separator : UInt8} {least most : ℕ} {str first second third : Str}
    (h : IsNumbersText separator least most str first second third) (hseparator : separator ≠ 0) :
    (0 : UInt8) ∉ str := by
  intro hnul
  rcases h.mem hnul with hspace | hdigit | rfl
  · exact absurd hspace (by decide)
  · exact absurd hdigit (by decide)
  · exact hseparator rfl

/-- Behind a NUL byte nothing is read. -/
lemma cStr_append {text : Str} (h : (0 : UInt8) ∉ text) (rest : Str) :
    cStr (text ++ 0 :: rest) = text := by
  have hall : ∀ c ∈ text, decide (c ≠ 0) = true := by
    intro c hc
    rw [decide_eq_true_eq]
    rintro rfl
    exact h hc
  rw [cStr, List.takeWhile_append_of_pos hall, List.takeWhile_cons_of_neg (by simp),
    List.append_nil]

lemma cStr_of_notMem {str : Str} (h : (0 : UInt8) ∉ str) : cStr str = str := by
  refine List.takeWhile_eq_self_iff.mpr fun c hc => ?_
  rw [decide_eq_true_eq]
  rintro rfl
  exact h hc

/-- A string is its C string, or there is a NUL byte behind it. -/
lemma eq_cStr_or (str : Str) : cStr str = str ∨ ∃ rest, str = cStr str ++ 0 :: rest := by
  induction str with
  | nil => exact .inl rfl
  | cons c str ih =>
      by_cases hc : c = 0
      · refine .inr ⟨str, ?_⟩
        rw [hc, cStr, List.takeWhile_cons_of_neg (by simp), List.nil_append]
      · have hcons : cStr (c :: str) = c :: cStr str := List.takeWhile_cons_of_pos (by simp [hc])
        rw [hcons]
        rcases ih with ih | ⟨rest, ih⟩
        · exact .inl (congrArg _ ih)
        · exact .inr ⟨rest, congrArg _ ih⟩

/-- **What the C string hides**: a text without NUL bytes is seen in front of one. -/
lemma cStr_right_iff {P : Str → Prop} (hP : ∀ str, P str → (0 : UInt8) ∉ str) (str : Str) :
    (P (cStr str) ↔ P str) ↔ ¬∃ text rest, str = text ++ 0 :: rest ∧ P text := by
  constructor
  · rintro hright ⟨text, rest, rfl, htext⟩
    rw [cStr_append (hP text htext)] at hright
    exact hP _ (hright.mp htext) (by simp)
  · intro hnone
    rcases eq_cStr_or str with hstr | ⟨rest, hstr⟩
    · rw [hstr]
    · refine iff_of_false (fun h => hnone ⟨cStr str, rest, hstr, h⟩) fun h => ?_
      rw [hstr] at h
      exact hP _ h (by simp)

lemma Date.parsedRight_iff (str : Str) : ParsedRight Date.createFromString IsDate str ↔
    ¬∃ text rest, str = text ++ 0 :: rest ∧ IsDate text := by
  rw [ParsedRight, exists_createFromString_iff]
  refine cStr_right_iff ?_ str
  rintro str ⟨_, _, _, htext, -⟩
  exact IsNumbersText.nul_notMem htext (by decide)

lemma Time.parsedRight_iff (str : Str) : ParsedRight Time.createFromString IsTime str ↔
    ¬∃ text rest, str = text ++ 0 :: rest ∧ IsTime text := by
  rw [ParsedRight, exists_createFromString_iff]
  refine cStr_right_iff ?_ str
  rintro str ⟨_, _, _, htext, -⟩
  exact IsNumbersText.nul_notMem htext (by decide)

/-- A zero in front of one digit makes it two. -/
lemma padded_of_lt {i : ℤ} (hlow : 0 ≤ i) (hhigh : i < 100) :
    IsDigits 1 2 (padded i) ∧ ofDigits (padded i) = i := by
  rw [padded]
  split_ifs with hone
  · have hdigits := isDigits_stdToString hlow (by decide : 0 < 1) (by omega)
    have hlength : (ascii "0" ++ stdToString i).length = 1 + (stdToString i).length := by
      rw [List.length_append]
      rfl
    refine ⟨⟨?_, ?_, ?_⟩, ofDigits_stdToString hlow⟩
    · intro c hc
      rcases List.mem_append.mp hc with hzero | hc
      · rw [List.mem_singleton.mp hzero]
        decide
      · exact hdigits.all c hc
    · rw [hlength]
      exact Nat.le_add_right 1 _
    · rw [hlength]
      exact Nat.add_le_add_left hdigits.most 1
  · rw [List.nil_append]
    exact ⟨isDigits_stdToString hlow (by decide) (by omega), ofDigits_stdToString hlow⟩

/-- **Which dates survive**: a year of four digits is printed as the parser wants it. -/
lemma Date.survives_iff (d : Date) : d.Survives ↔ d.year ≤ 9999 := by
  have hchecked := d.checked
  rw [CheckDate] at hchecked
  constructor
  · rintro ⟨e, hparsed, hequal⟩
    obtain ⟨year, month, day, ⟨_, _, -, -, hyear, -⟩, -, -, hvalue⟩ :=
      createFromString_eq_ok_iff.mp hparsed
    rw [← equal_iff.mp hequal, hvalue]
    have hbound := hyear.bounds.2
    omega
  · intro hyear
    obtain ⟨hmonthText, hmonth⟩ := padded_of_lt (i := d.month) (by omega) (by omega)
    obtain ⟨hdayText, hday⟩ := padded_of_lt (i := d.day) (by omega) (by omega)
    have hyearPos : 0 ≤ d.year := by omega
    have hyearText : IsDigits 4 4 (stdToString d.year) := by
      have hdigits := isDigits_stdToString hyearPos (by decide : 0 < 4) (by omega)
      have hlong : ¬(stdToString d.year).length ≤ 3 := by
        rw [length_stdToString_le_iff hyearPos (by decide)]
        omega
      exact ⟨hdigits.all, by omega, hdigits.most⟩
    have htext : IsDateText d.toString (stdToString d.year) (padded d.month) (padded d.day) :=
      ⟨[], [], by simp, by simp, hyearText, hmonthText, hdayText, by simp [toString, ascii, byte]⟩
    refine ⟨d, createFromString_eq_ok_iff.mpr ⟨_, _, _, ?_, hday.symm, hmonth.symm,
      (ofDigits_stdToString hyearPos).symm⟩, equal_iff.mpr rfl⟩
    rw [cStr_of_notMem (IsNumbersText.nul_notMem htext (by decide))]
    exact htext

/-- Every time survives. -/
lemma Time.survives (t : Time) : t.Survives := by
  have hchecked := t.checked
  rw [CheckTime] at hchecked
  obtain ⟨hhourText, hhour⟩ := padded_of_lt (i := t.hour) (by omega) (by omega)
  obtain ⟨hminuteText, hminute⟩ := padded_of_lt (i := t.minute) (by omega) (by omega)
  obtain ⟨hsecondText, hsecond⟩ := padded_of_lt (i := t.second) (by omega) (by omega)
  have htext : IsTimeText t.toString (padded t.hour) (padded t.minute) (padded t.second) :=
    ⟨[], [], by simp, by simp, hhourText, hminuteText, hsecondText, by simp [toString, ascii, byte]⟩
  refine ⟨t, createFromString_eq_ok_iff.mpr ⟨_, _, _, ?_, hhour.symm, hminute.symm,
    hsecond.symm⟩, equal_iff.mpr rfl⟩
  rw [cStr_of_notMem (IsNumbersText.nul_notMem htext (by decide))]
  exact htext

/-- **What is printed and what is parsed**: a date survives if its year has four digits,
and a time always does; a string is parsed as it should be, unless it has a NUL byte
behind a text that is accepted. -/
theorem strings_iff (d : Date) (t : Time) (str : Str) :
    (d.Survives ↔ d.year ≤ 9999) ∧ t.Survives ∧
    (ParsedRight Date.createFromString IsDate str ↔
      ¬∃ text rest, str = text ++ 0 :: rest ∧ IsDate text) ∧
    (ParsedRight Time.createFromString IsTime str ↔
      ¬∃ text rest, str = text ++ 0 :: rest ∧ IsTime text) :=
  ⟨d.survives_iff, t.survives, Date.parsedRight_iff str, Time.parsedRight_iff str⟩

lemma Date.checkDate_year10000 : CheckDate 1 1 10000 := by decide

/-- The first day of the year 10000 does not survive, and a date in front of a NUL byte is
parsed with what follows it. -/
theorem not_strings_year10000_nul :
    ¬Date.Survives ⟨1, 1, 10000, Date.checkDate_year10000, by decide⟩ ∧
    ¬ParsedRight Date.createFromString IsDate (ascii "2016-01-01" ++ 0 :: ascii "x") := by
  constructor
  · rw [Date.survives_iff]
    decide
  · rw [Date.parsedRight_iff, not_not]
    refine ⟨ascii "2016-01-01", ascii "x", rfl, ascii "2016", ascii "01", ascii "01", ?_, by decide⟩
    exact ⟨[], [], by simp, by simp, ⟨List.all_eq_true.mp rfl, by decide, by decide⟩,
      ⟨List.all_eq_true.mp rfl,
        by decide, by decide⟩, ⟨List.all_eq_true.mp rfl, by decide, by decide⟩, rfl⟩

end Slas
