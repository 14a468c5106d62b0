import Mathlib
import Slas.Lib.JsonGrammar
import Slas.Util.ToString

/-!
The tokens of a JSON text, as `lexer::scan` of `server/third_party/json/json.hpp` finds them.
Another reader of JSON differs in a few points only, which are those of a `Dialect`.

* `stringToken`, `numberToken`: the two tokens of any length;
* `scan`, `tokens`: the tokens of a text;
* `Spells`: a text that is read as a token, whatever ends it;
* `tokens_spelled`: tokens that are written one after another are read again, if no two of
  them would run into each other.
-/

namespace Slas.Web

/-- `null`, the two literals and the text of a number. -/
inductive Atom where
  | null
  | boolean (value : Bool)
  | number (text : Str)
  deriving DecidableEq

abbrev Token (S : Type) := JsonGrammar.Token Atom S

open JsonGrammar.Token

/-- A way to read JSON: the bytes a string may hold as they are, what is made of the text
between the quotes, if the mark of UTF-8 is passed over, and if a NUL byte ends the text. -/
structure Dialect (S : Type) where
  raw : UInt8 → Bool
  getString : Str → Option S
  bom : Bool
  nul : Bool

variable {S : Type}

/-! ### Tokens -/

def isHex (c : UInt8) : Bool :=
  isDigit c || (byte 'a' ≤ c && c ≤ byte 'f') || (byte 'A' ≤ c && c ≤ byte 'F')

/-- The value of a hexadecimal digit. -/
def hexDigitValue (c : UInt8) : ℕ :=
  if isDigit c then c.toNat - (byte '0').toNat
  else if byte 'a' ≤ c then c.toNat - (byte 'a').toNat + 10
  else c.toNat - (byte 'A').toNat + 10

/-- The number that hexadecimal digits denote. -/
def hexValue (digits : Str) : ℕ := digits.foldl (fun n c => 16 * n + hexDigitValue c) 0

/-- A hexadecimal digit, as both writers have it. -/
def hexify (v : ℕ) : UInt8 :=
  if v < 10 then byte '0' + UInt8.ofNat v else byte 'a' + UInt8.ofNat v - 10

/-- Four hexadecimal digits. -/
def hexDigits (n : ℕ) : Str :=
  [hexify (n / 4096 % 16), hexify (n / 256 % 16), hexify (n / 16 % 16), hexify (n % 16)]

/-- White space between tokens. -/
def isWhite (c : UInt8) : Bool := c = byte ' ' || c = byte '\t' || c = byte '\n' || c = byte '\r'

/-- What may follow a backslash, apart from `u`. -/
def isEscape (c : UInt8) : Bool := (ascii "\"\\/bfnrt").contains c

/-- The text up to the closing quote, and what follows that. -/
def stringToken (raw : UInt8 → Bool) : Str → Option (Str × Str)
  | [] => none
  | c :: rest =>
      if c = byte '"' then some ([], rest)
      else if c = byte '\\' then
        match rest with
        | [] => none
        | e :: rest =>
            if e = byte 'u' then
              match rest with
              | w :: x :: y :: z :: rest =>
                  if isHex w && isHex x && isHex y && isHex z then
                    (stringToken raw rest).map fun read =>
                      (c :: e :: w :: x :: y :: z :: read.1, read.2)
                  else none
              | _ => none
            else if isEscape e then
              (stringToken raw rest).map fun read => (c :: e :: read.1, read.2)
            else none
      else if raw c then (stringToken raw rest).map fun read => (c :: read.1, read.2)
      else none

/-- A zero alone, or digits that do not begin with one. -/
def wholeDigits : Str → Option (Str × Str)
  | [] => none
  | c :: rest =>
      if c = byte '0' then some ([c], rest)
      else if isDigit c then some (c :: rest.takeWhile isDigit, rest.dropWhile isDigit)
      else none

/-- A point with digits behind it, if there is one. -/
def fractionDigits : Str → Str × Str
  | [] => ([], [])
  | c :: rest =>
      if c = byte '.' ∧ rest.takeWhile isDigit ≠ [] then
        (c :: rest.takeWhile isDigit, rest.dropWhile isDigit)
      else ([], c :: rest)

/-- The sign of an exponent. -/
def exponentSign : Str → Str × Str
  | [] => ([], [])
  | c :: rest => if c = byte '+' ∨ c = byte '-' then ([c], rest) else ([], c :: rest)

/-- An exponent, if there is one. -/
def exponentDigits : Str → Str × Str
  | [] => ([], [])
  | c :: rest =>
      if (c = byte 'e' ∨ c = byte 'E') ∧ (exponentSign rest).2.takeWhile isDigit ≠ [] then
        (c :: (exponentSign rest).1 ++ (exponentSign rest).2.takeWhile isDigit,
          (exponentSign rest).2.dropWhile isDigit)
      else ([], c :: rest)

/-- The longest number that a text begins with. -/
def numberToken (text : Str) : Option (Str × Str) :=
  let sign := if text.head? = some (byte '-') then [byte '-'] else []
  (wholeDigits (text.drop sign.length)).map fun whole =>
    let fraction := fractionDigits whole.2
    let exponent := exponentDigits fraction.2
    (sign ++ whole.1 ++ fraction.1 ++ exponent.1, exponent.2)

/-- A token, which is known by its first byte. -/
def token (d : Dialect S) (c : UInt8) (rest : Str) : Option (Token S × Str) :=
  if c = byte '[' then some (beginArray, rest)
  else if c = byte ']' then some (endArray, rest)
  else if c = byte '{' then some (beginObject, rest)
  else if c = byte '}' then some (endObject, rest)
  else if c = byte ',' then some (valueSeparator, rest)
  else if c = byte ':' then some (nameSeparator, rest)
  else if c = byte 't' then
    if ascii "rue" <+: rest then some (atom (.boolean true), rest.drop 3) else none
  else if c = byte 'f' then
    if ascii "alse" <+: rest then some (atom (.boolean false), rest.drop 4) else none
  else if c = byte 'n' then
    if ascii "ull" <+: rest then some (atom .null, rest.drop 3) else none
  else if c = byte '"' then
    (stringToken d.raw rest).bind fun read => (d.getString read.1).map fun s => (string s, read.2)
  else (numberToken (c :: rest)).map fun read => (atom (.number read.1), read.2)

/-- The mark of UTF-8. -/
def bom : Str := [0xEF, 0xBB, 0xBF]

/-- The tokens of a text of fewer than `n` bytes. -/
def scan (d : Dialect S) : ℕ → Str → Option (List (Token S))
  | 0, _ => none
  | _ + 1, [] => some []
  | n + 1, c :: rest =>
      if d.nul ∧ c = 0 then some []
      else if isWhite c then scan d n rest
      else if d.bom ∧ bom <+: c :: rest then scan d n (rest.drop 2)
      else (token d c rest).bind fun read => (scan d n read.2).map (read.1 :: ·)

/-- The tokens of a text. The parser asks for them one by one; as whatever is wrong leads to
the same exception, they may as well be read at once. -/
def tokens (d : Dialect S) (text : Str) : Option (List (Token S)) := scan d (text.length + 1) text

/-! ### Texts that are read as a token -/

/-- A number that stands in front of this is over. -/
def Ends (rest : Str) : Prop :=
  ∀ c ∈ rest.head?, isDigit c = false ∧ c ≠ byte '.' ∧ c ≠ byte 'e' ∧ c ≠ byte 'E'

/-- A text that is read as a token, whatever follows, if only the token is over. -/
def Spells (d : Dialect S) (text : Str) (t : Token S) : Prop :=
  ∀ n rest, (t.IsAtom → Ends rest) → (text ++ rest).length < n →
    ∃ m, rest.length < m ∧ scan d n (text ++ rest) = (scan d m rest).map (t :: ·)

section Spells

variable {d : Dialect S} {text : Str} {t : Token S}

lemma ends_nil : Ends [] := fun _ h => by cases h

lemma ends_cons {c : UInt8} {rest : Str}
    (h : isDigit c = false ∧ c ≠ byte '.' ∧ c ≠ byte 'e' ∧ c ≠ byte 'E') : Ends (c :: rest) := by
  rintro c ⟨⟩
  exact h

/-- A token that begins with this byte. -/
lemma spells_of_token {c : UInt8} {others : Str} (hnul : c ≠ 0) (hwhite : isWhite c = false)
    (hbom : c ≠ 0xEF)
    (htoken : ∀ rest, (t.IsAtom → Ends rest) → token d c (others ++ rest) = some (t, rest)) :
    Spells d (c :: others) t := by
  intro n rest hrest hn
  obtain ⟨n, rfl⟩ : ∃ m, n = m + 1 := ⟨n - 1, by omega⟩
  have hmark : ¬(d.bom = true ∧ bom <+: c :: (others ++ rest)) := by
    rintro ⟨-, hprefix⟩
    exact hbom (List.cons_prefix_cons.mp hprefix).1.symm
  refine ⟨n, ?_, ?_⟩
  · simp only [List.cons_append, List.length_cons, List.length_append] at hn
    omega
  · rw [List.cons_append, scan, if_neg fun h => hnul h.2, if_neg (by simp [hwhite]), if_neg hmark,
      htoken rest hrest]
    rfl

/-- White space behind a token. -/
lemma Spells.space (h : Spells d text t) : Spells d (text ++ [byte ' ']) t := by
  intro n rest hrest hn
  rw [List.append_assoc] at hn ⊢
  obtain ⟨m, hm, hscan⟩ := h n ([byte ' '] ++ rest) (fun _ => ends_cons (by decide)) hn
  simp only [List.singleton_append, List.length_cons] at hm hscan ⊢
  obtain ⟨m, rfl⟩ : ∃ k, m = k + 1 := ⟨m - 1, by omega⟩
  refine ⟨m, by omega, ?_⟩
  rw [hscan, scan, if_neg fun h => absurd h.2 (by decide), if_pos (by decide)]

lemma spells_beginArray : Spells d (ascii "[") beginArray :=
  spells_of_token (by decide) (by decide) (by decide) fun _ _ => rfl

lemma spells_endArray : Spells d (ascii "]") endArray :=
  spells_of_token (by decide) (by decide) (by decide) fun _ _ => rfl

lemma spells_beginObject : Spells d (ascii "\x7b") beginObject :=
  spells_of_token (by decide) (by decide) (by decide) fun _ _ => rfl

lemma spells_endObject : Spells d (ascii "\x7d") endObject :=
  spells_of_token (by decide) (by decide) (by decide) fun _ _ => rfl

lemma spells_valueSeparator : Spells d (ascii ",") valueSeparator :=
  spells_of_token (by decide) (by decide) (by decide) fun _ _ => rfl

lemma spells_nameSeparator : Spells d (ascii ":") nameSeparator :=
  spells_of_token (by decide) (by decide) (by decide) fun _ _ => rfl

/-- A literal, of which the first byte is looked at first. -/
lemma spells_of_literal {c : UInt8} {others : Str} (hnul : c ≠ 0) (hwhite : isWhite c = false)
    (hbom : c ≠ 0xEF)
    (h : ∀ rest, token d c rest
      = if others <+: rest then some (t, rest.drop others.length) else none) :
    Spells d (c :: others) t := by
  refine spells_of_token hnul hwhite hbom fun rest _ => ?_
  rw [h, if_pos (List.prefix_append _ _), List.drop_left]

lemma spells_null : Spells d (ascii "null") (atom .null) :=
  spells_of_literal (by decide) (by decide) (by decide) fun _ => rfl

lemma spells_boolean (value : Bool) :
    Spells d (if value then ascii "true" else ascii "false") (atom (.boolean value)) := by
  cases value with
  | true => exact spells_of_literal (by decide) (by decide) (by decide) fun _ => rfl
  | false => exact spells_of_literal (by decide) (by decide) (by decide) fun _ => rfl

/-! ### Pieces of a string -/

/-- A piece of the text between quotes, none of which is taken to be the closing one. -/
def Inside (d : Dialect S) (piece : Str) : Prop :=
  ∀ rest, stringToken d.raw (piece ++ rest)
    = (stringToken d.raw rest).map fun read => (piece ++ read.1, read.2)

lemma inside_nil : Inside d [] := fun rest => by
  rw [List.nil_append]
  cases stringToken d.raw rest <;> rfl

lemma Inside.append {piece piece' : Str} (h : Inside d piece) (h' : Inside d piece') :
    Inside d (piece ++ piece') := fun rest => by
  rw [List.append_assoc, h, h', Option.map_map]
  congr 1
  funext read
  simp

lemma inside_flatMap {α : Type} {as : List α} {f : α → Str} (h : ∀ a ∈ as, Inside d (f a)) :
    Inside d (as.flatMap f) := by
  induction as with
  | nil => exact inside_nil
  | cons a as ih =>
      rw [List.forall_mem_cons] at h
      exact h.1.append (ih h.2)

lemma inside_raw {c : UInt8} (hquote : c ≠ byte '"') (hslash : c ≠ byte '\\')
    (hraw : d.raw c = true) : Inside d [c] := fun rest => by
  rw [stringToken.eq_def]
  exact (if_neg hquote).trans ((if_neg hslash).trans (if_pos hraw))

lemma inside_escape {e : UInt8} (he : isEscape e = true) : Inside d [byte '\\', e] := fun rest => by
  have hu : e ≠ byte 'u' := by
    rintro rfl
    exact absurd he (by decide)
  have hquote : byte '\\' ≠ byte '"' := by decide
  rw [stringToken.eq_def]
  exact (if_neg hquote).trans ((if_pos rfl).trans ((if_neg hu).trans (if_pos he)))

lemma inside_hex {w x y z : UInt8} (h : (isHex w && isHex x && isHex y && isHex z) = true) :
    Inside d [byte '\\', byte 'u', w, x, y, z] := fun rest => by
  have hquote : byte '\\' ≠ byte '"' := by decide
  rw [stringToken.eq_def]
  exact (if_neg hquote).trans ((if_pos rfl).trans ((if_pos rfl).trans (if_pos h)))

lemma isHex_hexify {v : ℕ} (h : v < 16) : isHex (hexify v) = true := by
  interval_cases v <;> rfl

lemma hexDigitValue_hexify {v : ℕ} (h : v < 16) : hexDigitValue (hexify v) = v := by
  interval_cases v <;> rfl

lemma isHex_hexDigits (n : ℕ) : (isHex (hexify (n / 4096 % 16)) && isHex (hexify (n / 256 % 16))
    && isHex (hexify (n / 16 % 16)) && isHex (hexify (n % 16))) = true := by
  have h : ∀ v, isHex (hexify (v % 16)) = true := fun v => isHex_hexify (Nat.mod_lt v (by decide))
  rw [h, h, h, h]
  rfl

lemma hexValue_hexDigits {n : ℕ} (hn : n < 0x10000) : hexValue (hexDigits n) = n := by
  have h : ∀ v, hexDigitValue (hexify (v % 16)) = v % 16 :=
    fun v => hexDigitValue_hexify (Nat.mod_lt v (by decide))
  simp only [hexValue, hexDigits, List.foldl_cons, List.foldl_nil, h]
  omega

lemma stringToken_inside {raw : Str} (h : Inside d raw) (rest : Str) :
    stringToken d.raw (raw ++ ([byte '"'] ++ rest)) = some (raw, rest) := by
  have hquote : stringToken d.raw (byte '"' :: rest) = some ([], rest) := by
    rw [stringToken.eq_def]
    exact if_pos rfl
  rw [h, List.singleton_append, hquote, Option.map_some, List.append_nil]

/-- A string, the text between its quotes being one that is read to its end. -/
lemma spells_string {raw : Str} {s : S} (hraw : Inside d raw) (hs : d.getString raw = some s) :
    Spells d (byte '"' :: (raw ++ [byte '"'])) (string s) := by
  refine spells_of_token (by decide) (by decide) (by decide) fun rest _ => ?_
  have htoken : token d (byte '"') (raw ++ [byte '"'] ++ rest)
      = (stringToken d.raw (raw ++ [byte '"'] ++ rest)).bind fun read =>
        (d.getString read.1).map (string ·, read.2) := rfl
  rw [htoken, List.append_assoc, stringToken_inside hraw, Option.bind_some, hs]
  rfl

/-! ### Numbers -/

lemma takeWhile_isDigit_append {digits rest : Str} (hdigits : ∀ c ∈ digits, isDigit c = true)
    (hrest : Ends rest) : (digits ++ rest).takeWhile isDigit = digits := by
  rw [List.takeWhile_append_of_pos hdigits]
  cases rest with
  | nil => exact List.append_nil digits
  | cons c rest =>
      rw [List.takeWhile_cons_of_neg (by simp [(hrest c rfl).1]), List.append_nil]

lemma dropWhile_isDigit_append {digits rest : Str} (hdigits : ∀ c ∈ digits, isDigit c = true)
    (hrest : Ends rest) : (digits ++ rest).dropWhile isDigit = rest := by
  rw [List.dropWhile_append_of_pos hdigits]
  cases rest with
  | nil => rfl
  | cons c rest => exact List.dropWhile_cons_of_neg (by simp [(hrest c rfl).1])

lemma fractionDigits_of_ends {rest : Str} (h : Ends rest) : fractionDigits rest = ([], rest) := by
  cases rest with
  | nil => rfl
  | cons c rest => exact if_neg fun hpoint => (h c rfl).2.1 hpoint.1

lemma exponentDigits_of_ends {rest : Str} (h : Ends rest) : exponentDigits rest = ([], rest) := by
  cases rest with
  | nil => rfl
  | cons c rest =>
      obtain ⟨-, -, he, hE⟩ := h c rfl
      exact if_neg fun hexponent => hexponent.1.elim he hE

/-- Only zero begins with a zero. -/
lemma exists_decimal (n : ℕ) : ∃ c rest, decimal n = c :: rest ∧ isDigit c = true ∧
    (c = byte '0' → n = 0) := by
  induction n using Nat.strong_induction_on with
  | _ n ih =>
      rw [decimal_eq]
      split_ifs with hn
      · refine ⟨_, [], rfl, ?_⟩
        interval_cases n <;> decide
      · obtain ⟨c, rest, hdecimal, hdigit, hzero⟩ := ih (n / 10) (by omega)
        rw [hdecimal]
        exact ⟨c, _, rfl, hdigit, fun hc => absurd (hzero hc) (by omega)⟩

lemma wholeDigits_decimal (n : ℕ) {rest : Str} (hrest : Ends rest) :
    wholeDigits (decimal n ++ rest) = some (decimal n, rest) := by
  obtain ⟨c, others, hdecimal, hdigit, hzero⟩ := exists_decimal n
  by_cases hc : c = byte '0'
  · rw [hzero hc]
    rfl
  · have hothers : ∀ d ∈ others, isDigit d = true := by
      intro d hd
      exact isDigit_decimal n d (hdecimal ▸ List.mem_cons_of_mem c hd)
    rw [hdecimal, List.cons_append, wholeDigits, if_neg hc, if_pos hdigit,
      takeWhile_isDigit_append hothers hrest, dropWhile_isDigit_append hothers hrest]

lemma numberToken_stdToString (n : ℤ) {rest : Str} (hrest : Ends rest) :
    numberToken (stdToString n ++ rest) = some (stdToString n, rest) := by
  rw [stdToString]
  split_ifs with hn
  · rw [numberToken, List.cons_append, List.head?_cons, if_pos rfl]
    simp only [List.length_singleton, List.drop_succ_cons, List.drop_zero,
      wholeDigits_decimal _ hrest, Option.map_some, fractionDigits_of_ends hrest,
      exponentDigits_of_ends hrest, List.append_nil]
    rfl
  · obtain ⟨c, others, hdecimal, hdigit, -⟩ := exists_decimal n.natAbs
    have hsign : (decimal n.natAbs ++ rest).head? ≠ some (byte '-') := by
      rw [hdecimal, List.cons_append, List.head?_cons]
      rintro ⟨⟩
      exact absurd hdigit (by decide)
    rw [numberToken, if_neg hsign]
    simp only [List.length_nil, List.drop_zero, wholeDigits_decimal _ hrest, Option.map_some,
      fractionDigits_of_ends hrest, exponentDigits_of_ends hrest, List.append_nil, List.nil_append]

/-- A byte that a number begins with. -/
def BeginsNumber (c : UInt8) : Prop := c = byte '-' ∨ isDigit c = true

lemma BeginsNumber.ne {c a : UInt8} (hc : BeginsNumber c) (hminus : a ≠ byte '-')
    (hdigit : isDigit a = false) : c ≠ a := by
  rintro rfl
  rcases hc with hc | hc
  · exact hminus hc
  · rw [hc] at hdigit
    cases hdigit

lemma BeginsNumber.isWhite {c : UInt8} (hc : BeginsNumber c) : isWhite c = false := by
  simp only [Web.isWhite, Bool.or_eq_false_iff, decide_eq_false_iff_not]
  exact ⟨⟨⟨hc.ne (by decide) (by decide), hc.ne (by decide) (by decide)⟩,
    hc.ne (by decide) (by decide)⟩, hc.ne (by decide) (by decide)⟩

/-- No other token begins with that byte. -/
lemma token_number {c : UInt8} (hc : BeginsNumber c) (rest : Str) :
    token d c rest = (numberToken (c :: rest)).map fun read => (atom (.number read.1), read.2) := by
  have hne : ∀ a, a ≠ byte '-' → isDigit a = false → c ≠ a := fun _ => hc.ne
  rw [token, if_neg (hne _ (by decide) (by decide)), if_neg (hne _ (by decide) (by decide)),
    if_neg (hne _ (by decide) (by decide)), if_neg (hne _ (by decide) (by decide)),
    if_neg (hne _ (by decide) (by decide)), if_neg (hne _ (by decide) (by decide)),
    if_neg (hne _ (by decide) (by decide)), if_neg (hne _ (by decide) (by decide)),
    if_neg (hne _ (by decide) (by decide)), if_neg (hne _ (by decide) (by decide))]

lemma exists_stdToString (n : ℤ) :
    ∃ c rest, stdToString n = c :: rest ∧ BeginsNumber c := by
  rw [stdToString]
  split_ifs
  · exact ⟨_, _, rfl, .inl rfl⟩
  · obtain ⟨c, rest, hdecimal, hdigit, -⟩ := exists_decimal n.natAbs
    exact ⟨c, rest, hdecimal, .inr hdigit⟩

lemma spells_number (n : ℤ) : Spells d (stdToString n) (atom (.number (stdToString n))) := by
  obtain ⟨c, others, hn, hc⟩ := exists_stdToString n
  rw [hn]
  refine spells_of_token (hc.ne (by decide) (by decide)) hc.isWhite
    (hc.ne (by decide) (by decide)) fun rest hrest => ?_
  have hread := numberToken_stdToString n (hrest trivial)
  rw [hn, List.cons_append] at hread
  rw [token_number hc, hread]
  rfl

/-! ### Texts of several tokens -/

variable {A T : Type} {spell : JsonGrammar.Token A T → Str} {read : JsonGrammar.Token A T → Token S}
  {ts : List (JsonGrammar.Token A T)}

/-- How a token is written, such that it is read as one and, unless it is an atom, ends a
number that stands in front of it. -/
structure Spelled (d : Dialect S) (spell : JsonGrammar.Token A T → Str)
    (read : JsonGrammar.Token A T → Token S) (t : JsonGrammar.Token A T) : Prop where
  spells : Spells d (spell t) (read t)
  isAtom : (read t).IsAtom → t.IsAtom
  ends : ¬t.IsAtom → ∀ rest, Ends (spell t ++ rest)

/-- A token that cannot be read. -/
structure Refused (d : Dialect S) (spell : JsonGrammar.Token A T → Str)
    (t : JsonGrammar.Token A T) : Prop where
  refused : ∀ n rest, scan d n (spell t ++ rest) = none
  ends : ∀ rest, Ends (spell t ++ rest)

/-- What follows an atom. -/
lemma ends_flatMap {t : JsonGrammar.Token A T} (ht : t.IsAtom)
    (hhead : ∀ t' ∈ ts.head?, t.Apart t')
    (hts : ∀ t ∈ ts, ¬t.IsAtom → ∀ rest, Ends (spell t ++ rest)) : Ends (ts.flatMap spell) := by
  cases ts with
  | nil => exact ends_nil
  | cons t' ts =>
      rw [List.flatMap_cons]
      exact hts t' List.mem_cons_self (hhead t' rfl ht) _

lemma scan_spelled (hchain : ts.IsChain JsonGrammar.Token.Apart)
    (hts : ∀ t ∈ ts, Spelled d spell read t) {n : ℕ} (hn : (ts.flatMap spell).length < n) :
    scan d n (ts.flatMap spell) = some (ts.map read) := by
  induction ts generalizing n with
  | nil =>
      obtain ⟨n, rfl⟩ : ∃ m, n = m + 1 := ⟨n - 1, by omega⟩
      rfl
  | cons t ts ih =>
      rw [List.forall_mem_cons] at hts
      rw [List.isChain_cons] at hchain
      rw [List.flatMap_cons] at hn ⊢
      obtain ⟨m, hm, hscan⟩ := hts.1.spells n _
        (fun hatom => ends_flatMap (hts.1.isAtom hatom) hchain.1 fun t ht => (hts.2 t ht).ends) hn
      rw [hscan, ih hchain.2 hts.2 hm]
      rfl

/-- **Tokens that are written one after another are read again.** -/
theorem tokens_spelled (hchain : ts.IsChain JsonGrammar.Token.Apart)
    (hts : ∀ t ∈ ts, Spelled d spell read t) :
    tokens d (ts.flatMap spell) = some (ts.map read) :=
  scan_spelled hchain hts (Nat.lt_succ_self _)

lemma scan_refused (hchain : ts.IsChain JsonGrammar.Token.Apart)
    (hts : ∀ t ∈ ts, Spelled d spell read t ∨ Refused d spell t)
    (hrefused : ∃ t ∈ ts, Refused d spell t) {n : ℕ} (hn : (ts.flatMap spell).length < n) :
    scan d n (ts.flatMap spell) = none := by
  induction ts generalizing n with
  | nil => simp at hrefused
  | cons t ts ih =>
      obtain ⟨t', ht', hrefused⟩ := hrefused
      rw [List.forall_mem_cons] at hts
      rw [List.isChain_cons] at hchain
      rw [List.flatMap_cons] at hn ⊢
      rcases hts.1 with hspelled | hfirst
      · have hends : ∀ t ∈ ts, ¬t.IsAtom → ∀ rest, Ends (spell t ++ rest) := fun t ht hatom =>
          (hts.2 t ht).elim (fun h => h.ends hatom) fun h => h.ends
        obtain ⟨m, hm, hscan⟩ := hspelled.spells n _
          (fun hatom => ends_flatMap (hspelled.isAtom hatom) hchain.1 hends) hn
        rcases List.mem_cons.mp ht' with rfl | ht'
        · exact hrefused.refused n _
        · rw [hscan, ih hchain.2 hts.2 ⟨t', ht', hrefused⟩ hm]
          rfl
      · exact hfirst.refused n _

/-- **A text with a token that cannot be read has no tokens.** -/
theorem tokens_refused (hchain : ts.IsChain JsonGrammar.Token.Apart)
    (hts : ∀ t ∈ ts, Spelled d spell read t ∨ Refused d spell t)
    (hrefused : ∃ t ∈ ts, Refused d spell t) : tokens d (ts.flatMap spell) = none :=
  scan_refused hchain hts hrefused (Nat.lt_succ_self _)

/-- A string that is read to its end, but stands for nothing. -/
lemma scan_string_none {raw : Str} (hraw : Inside d raw) (hs : d.getString raw = none) (n : ℕ)
    (rest : Str) : scan d n (byte '"' :: (raw ++ [byte '"']) ++ rest) = none := by
  cases n with
  | zero => rfl
  | succ n =>
      have hmark : ¬(d.bom = true ∧ bom <+: byte '"' :: (raw ++ [byte '"'] ++ rest)) := by
        rintro ⟨-, hprefix⟩
        exact absurd (List.cons_prefix_cons.mp hprefix).1 (by decide)
      have htoken : token d (byte '"') (raw ++ [byte '"'] ++ rest)
          = (stringToken d.raw (raw ++ [byte '"'] ++ rest)).bind fun read =>
              (d.getString read.1).map (string ·, read.2) := rfl
      rw [List.cons_append, scan, if_neg fun h => absurd h.2 (by decide), if_neg (by decide),
        if_neg hmark, htoken, List.append_assoc, stringToken_inside hraw, Option.bind_some, hs]
      rfl

end Spells

end Slas.Web
