import Mathlib
import Slas.Util.Stoi

/-!
Texts of three numbers, as the regular expressions of `libslas/src/type/date.cpp` and
`libslas/src/type/time.cpp` have them: white space around numbers of digits with a
separator between them.

* `matchNumbers`: such an expression, read from left to right;
* `IsNumbersText`: the texts it stands for, with the three groups;
* `matchNumbers_eq_some_iff`: the reading finds exactly these;
* `matchDate`, `IsDateText`: those of a date;
* `IsDigits.stoi`: a group as a number.
-/

namespace Slas

/-- The digits a text begins with, if there are as many as asked for. -/
def takeDigits (least most : ℕ) (str : Str) : Option (Str × Str) :=
  let digits := str.takeWhile isDigit
  if least ≤ digits.length ∧ digits.length ≤ most then some (digits, str.dropWhile isDigit)
  else none

/-- What follows a separator. -/
def dropSeparator (separator : UInt8) : Str → Option Str
  | [] => none
  | c :: rest => if c = separator then some rest else none

/-- White space around three numbers. The first has from `least` to `most` digits, the
others have one or two. -/
def matchNumbers (separator : UInt8) (least most : ℕ) (str : Str) : Option (Str × Str × Str) := do
  let (first, rest) ← takeDigits least most (str.dropWhile isSpace)
  let rest ← dropSeparator separator rest
  let (second, rest) ← takeDigits 1 2 rest
  let rest ← dropSeparator separator rest
  let (third, rest) ← takeDigits 1 2 rest
  if rest.all isSpace then some (first, second, third) else none

/-- A number of digits as a group of the expression. -/
structure IsDigits (least most : ℕ) (digits : Str) : Prop where
  all : ∀ c ∈ digits, isDigit c = true
  least : least ≤ digits.length
  most : digits.length ≤ most

/-- The texts of the expression. -/
def IsNumbersText (separator : UInt8) (least most : ℕ) (str first second third : Str) : Prop :=
  ∃ before after : Str, (∀ c ∈ before, isSpace c = true) ∧ (∀ c ∈ after, isSpace c = true) ∧
    IsDigits least most first ∧ IsDigits 1 2 second ∧ IsDigits 1 2 third ∧
    str = before ++ (first ++ separator :: (second ++ separator :: (third ++ after)))

/-- `^\s*([0-9]{4})-([0-9]{1,2})-([0-9]{1,2})\s*$`: year, month and day. -/
def matchDate (str : Str) : Option (Str × Str × Str) := matchNumbers (byte '-') 4 4 str

/-- The texts of a date, with year, month and day. -/
def IsDateText (str year month day : Str) : Prop := IsNumbersText (byte '-') 4 4 str year month day

/-! ### The reading -/

lemma not_isDigit_of_isSpace {c : UInt8} (h : isSpace c = true) : isDigit c = false := by
  simp only [isSpace, Bool.or_eq_true, Bool.and_eq_true, decide_eq_true_eq] at h
  simp only [isDigit, Bool.and_eq_false_iff, decide_eq_false_iff_not, UInt8.not_le]
  left
  rcases h with rfl | ⟨-, h⟩
  · decide
  · exact UInt8.lt_of_le_of_lt h (by decide)

/-- Digits that something else follows. -/
lemma takeDigits_append {least most : ℕ} {digits rest : Str} (h : IsDigits least most digits)
    (hrest : ∀ c ∈ rest.head?, isDigit c = false) :
    takeDigits least most (digits ++ rest) = some (digits, rest) := by
  have htake : rest.takeWhile isDigit = [] ∧ rest.dropWhile isDigit = rest := by
    cases rest with
    | nil => exact ⟨rfl, rfl⟩
    | cons c rest => simp [hrest c rfl]
  rw [takeDigits, List.takeWhile_append_of_pos h.all, List.dropWhile_append_of_pos h.all,
    htake.1, htake.2, List.append_nil, if_pos ⟨h.least, h.most⟩]

lemma of_takeDigits {least most : ℕ} {str digits rest : Str}
    (h : takeDigits least most str = some (digits, rest)) :
    IsDigits least most digits ∧ str = digits ++ rest := by
  rw [takeDigits] at h
  split_ifs at h with hlength
  obtain ⟨rfl, rfl⟩ := Prod.mk.inj (Option.some.inj h)
  exact ⟨⟨fun c hc => List.mem_takeWhile_imp hc, hlength.1, hlength.2⟩,
    List.takeWhile_append_dropWhile.symm⟩

lemma of_dropSeparator {separator : UInt8} {str rest : Str}
    (h : dropSeparator separator str = some rest) : str = separator :: rest := by
  cases str with
  | nil => cases h
  | cons c str =>
      rw [dropSeparator] at h
      split_ifs at h with hc
      rw [hc, Option.some.inj h]

section Reading

variable {separator : UInt8} {least most : ℕ} {str first second third : Str}

/-- **The texts that are read** are those of the expression. -/
theorem matchNumbers_eq_some_iff (hseparator : isDigit separator = false) (hleast : 0 < least) :
    matchNumbers separator least most str = some (first, second, third) ↔
      IsNumbersText separator least most str first second third := by
  constructor
  · intro h
    simp only [matchNumbers, Option.bind_eq_bind, Option.bind_eq_some_iff, Prod.exists] at h
    obtain ⟨x, rest₁, hfirst, rest₂, hdrop, y, rest₃, hsecond, rest₄, hdrop', z, rest₅, hthird,
      hend⟩ := h
    split_ifs at hend with hspaces
    simp only [Option.some.injEq, Prod.mk.injEq] at hend
    obtain ⟨rfl, rfl, rfl⟩ := hend
    replace ⟨hfirst, hstr⟩ := of_takeDigits hfirst
    replace ⟨hsecond, hrest₂⟩ := of_takeDigits hsecond
    replace ⟨hthird, hrest₄⟩ := of_takeDigits hthird
    rw [of_dropSeparator hdrop, hrest₂, of_dropSeparator hdrop', hrest₄] at hstr
    refine ⟨str.takeWhile isSpace, rest₅, fun c hc => List.mem_takeWhile_imp hc,
      fun c hc => List.all_eq_true.mp hspaces c hc, hfirst, hsecond, hthird, ?_⟩
    rw [← hstr, List.takeWhile_append_dropWhile]
  · rintro ⟨before, after, hbefore, hafter, hfirst, hsecond, hthird, rfl⟩
    have hbreak : ∀ rest : Str, ∀ c ∈ (separator :: rest).head?, isDigit c = false := by
      rintro rest c ⟨⟩
      exact hseparator
    have hspace : ∀ c ∈ after.head?, isDigit c = false := fun c hc =>
      not_isDigit_of_isSpace (hafter c (List.mem_of_mem_head? hc))
    have hstart : ∀ rest : Str, (first ++ rest).dropWhile isSpace = first ++ rest := by
      intro rest
      obtain ⟨c, digits, rfl⟩ := List.exists_cons_of_length_pos (hleast.trans_le hfirst.least)
      have hdigit := hfirst.all c List.mem_cons_self
      have hc : isSpace c = false := by
        by_contra hspace
        rw [not_isDigit_of_isSpace (by simpa using hspace)] at hdigit
        cases hdigit
      simp [hc]
    simp only [matchNumbers, List.dropWhile_append_of_pos hbefore, hstart, Option.bind_eq_bind,
      takeDigits_append hfirst (hbreak _), takeDigits_append hsecond (hbreak _),
      takeDigits_append hthird hspace, dropSeparator, Option.bind_some, if_pos]
    rw [if_pos (List.all_eq_true.mpr hafter)]

/-- Such a text is made of white space, digits and separators. -/
lemma IsNumbersText.mem (h : IsNumbersText separator least most str first second third) {c : UInt8}
    (hc : c ∈ str) : isSpace c = true ∨ isDigit c = true ∨ c = separator := by
  obtain ⟨before, after, hbefore, hafter, hfirst, hsecond, hthird, rfl⟩ := h
  simp only [List.mem_append, List.mem_cons] at hc
  rcases hc with hc | hc | hc | hc | hc | hc | hc
  · exact .inl (hbefore c hc)
  · exact .inr (.inl (hfirst.all c hc))
  · exact .inr (.inr hc)
  · exact .inr (.inl (hsecond.all c hc))
  · exact .inr (.inr hc)
  · exact .inr (.inl (hthird.all c hc))
  · exact .inl (hafter c hc)

end Reading

/-! ### The numbers -/

lemma toNat_of_isDigit {c : UInt8} (h : isDigit c = true) : 48 ≤ c.toNat ∧ c.toNat ≤ 57 := by
  rw [isDigit, Bool.and_eq_true, decide_eq_true_eq, decide_eq_true_eq, UInt8.le_iff_toNat_le,
    UInt8.le_iff_toNat_le] at h
  exact h

lemma ofDigits_concat (digits : Str) (c : UInt8) :
    ofDigits (digits ++ [c]) = 10 * ofDigits digits + ((c.toNat : ℤ) - 48) := by
  rw [ofDigits, List.foldl_append]
  rfl

lemma ofDigits_bounds {digits : Str} (h : ∀ c ∈ digits, isDigit c = true) :
    0 ≤ ofDigits digits ∧ ofDigits digits < 10 ^ digits.length := by
  induction digits using List.reverseRecOn with
  | nil => exact ⟨le_rfl, by decide⟩
  | append_singleton digits c ih =>
      obtain ⟨hlow, hhigh⟩ := ih fun d hd => h d (List.mem_append_left _ hd)
      have hc := toNat_of_isDigit (h c (List.mem_append_right _ (List.mem_singleton_self c)))
      rw [ofDigits_concat, List.length_append, List.length_singleton, pow_succ]
      omega

/-- **A group as a number**: digits are read to their end. -/
lemma stoi_eq_ok {digits : Str} (h : ∀ c ∈ digits, isDigit c = true) (hpos : 0 < digits.length)
    (hfits : ofDigits digits ≤ 2147483647) : stoi digits = .ok (Int32.ofInt (ofDigits digits)) := by
  have hlow := (ofDigits_bounds h).1
  have htake : digits.takeWhile isDigit = digits := List.takeWhile_eq_self_iff.mpr h
  have hparse : parseDigits (-2147483648) 2147483647 1 digits = .ok (ofDigits digits) := by
    rw [parseDigits, htake, one_mul, if_neg (List.ne_nil_of_length_pos hpos), if_pos (by omega)]
  obtain ⟨c, rest, rfl⟩ := List.exists_cons_of_length_pos hpos
  have hc := h c List.mem_cons_self
  have hspace : isSpace c = false := by
    by_contra hspace
    rw [not_isDigit_of_isSpace (by simpa using hspace)] at hc
    cases hc
  have hsign : c ≠ byte '-' ∧ c ≠ byte '+' := by
    constructor <;> rintro rfl <;> exact absurd hc (by decide)
  have hstart : (c :: rest).dropWhile isSpace = c :: rest :=
    List.dropWhile_cons_of_neg (by simp [hspace])
  rw [stoi, parseInteger, hstart]
  simp only [if_neg hsign.1, if_neg hsign.2, hparse]
  rfl

section Groups

variable {least most : ℕ} {digits : Str}

lemma IsDigits.bounds (h : IsDigits least most digits) :
    0 ≤ ofDigits digits ∧ ofDigits digits < 10 ^ most := by
  obtain ⟨hlow, hhigh⟩ := ofDigits_bounds h.all
  refine ⟨hlow, ?_⟩
  calc ofDigits digits < 10 ^ digits.length := hhigh
    _ ≤ 10 ^ most := pow_le_pow_right₀ (by decide) h.most

/-- A group of at most nine digits is an `int`. -/
lemma IsDigits.fits (h : IsDigits least most digits) (hmost : most ≤ 9) :
    0 ≤ ofDigits digits ∧ ofDigits digits ≤ 2147483647 := by
  obtain ⟨hlow, hhigh⟩ := h.bounds
  have hpow : (10 : ℤ) ^ most ≤ 10 ^ 9 := pow_le_pow_right₀ (by decide) hmost
  have hlimit : (10 : ℤ) ^ 9 ≤ 2147483647 := by decide
  omega

lemma IsDigits.stoi (h : IsDigits least most digits) (hleast : 0 < least) (hmost : most ≤ 9) :
    stoi digits = .ok (Int32.ofInt (ofDigits digits)) :=
  stoi_eq_ok h.all (hleast.trans_le h.least) (h.fits hmost).2

lemma IsDigits.toInt (h : IsDigits least most digits) (hmost : most ≤ 9) :
    (Int32.ofInt (ofDigits digits)).toInt = ofDigits digits := by
  have hfits := h.fits hmost
  exact Int32.toInt_ofInt_of_le (by omega) (by omega)

end Groups

end Slas
