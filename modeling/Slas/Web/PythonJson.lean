import Mathlib
import Slas.Web.JsonLibrary

/-!
JSON on the side of the web interface: `json.dumps` and `json.loads` of Python, as
`web/slas-web/util/util.py` calls them.

* `PyText`, `PyValue`: what is written and read;
* `dumps`, `loads`: the two functions;
* `toUtf8`, `decodeUtf8`: the bytes of a text, and the text of bytes;
* `isSome_toUtf8_iff`: which texts have bytes;
* `parse_dumps_iff`: what the server reads where `dumps` has written;
* `loads_dump_iff`: what the web interface reads where the server has written;
* `toUtf8_flatMap_units`, `decodeUtf8_utf8`: characters come across, both ways.
-/

namespace Slas.Web

open JsonGrammar (Tree)

/-- A `unicode` object, by its units of UTF-16. -/
abbrev PyText := List UInt16

/-- `None`, a truth value, an integer, a text, a list or a dictionary. -/
abbrev PyValue := Tree Leaf PyText

/-! ### The writer -/

/-- How a unit is written, nothing but ASCII being used. -/
def escapeUnit (u : UInt16) : Str :=
  if u = 0x22 then [byte '\\', byte '"']
  else if u = 0x5C then [byte '\\', byte '\\']
  else if u = 8 then [byte '\\', byte 'b']
  else if u = 12 then [byte '\\', byte 'f']
  else if u = 10 then [byte '\\', byte 'n']
  else if u = 13 then [byte '\\', byte 'r']
  else if u = 9 then [byte '\\', byte 't']
  else if 0x20 ≤ u ∧ u ≤ 0x7E then [UInt8.ofNat u.toNat]
  else byte '\\' :: byte 'u' :: hexDigits u.toNat

/-- The strings of `dumps`, which puts a space behind each separator. -/
def dumpsWriter : Writer PyText where
  escape s := s.flatMap escapeUnit
  spaced := true

/-- `json.dumps`. -/
def dumps (v : PyValue) : Str := dumpsWriter.text v

example : dumps (.array [.string [0x61, 0xE9], .atom (.number (-1))])
  = ascii "[\"a\\u00e9\", -1]" := by
  decide

/-! ### The reader -/

/-- The units of a code point. -/
def units (codepoint : ℕ) : PyText :=
  if codepoint < 0x10000 then [UInt16.ofNat codepoint]
  else [UInt16.ofNat (0xD800 + (codepoint - 0x10000) / 0x400),
    UInt16.ofNat (0xDC00 + (codepoint - 0x10000) % 0x400)]

def isContinuation (c : UInt8) : Bool := 0x80 ≤ c && c ≤ 0xBF

/-- `str.decode` from UTF-8, which lets surrogates pass. -/
def decodeUtf8 : Str → Option PyText
  | [] => some []
  | a :: rest =>
      if a < 0x80 then (decodeUtf8 rest).map (units a.toNat ++ ·)
      else if 0xC2 ≤ a ∧ a ≤ 0xDF then
        match rest with
        | b :: rest =>
            if isContinuation b then
              (decodeUtf8 rest).map (units (a.toNat % 32 * 64 + b.toNat % 64) ++ ·)
            else none
        | _ => none
      else if 0xE0 ≤ a ∧ a ≤ 0xEF then
        match rest with
        | b :: c :: rest =>
            if isContinuation b && isContinuation c && !(a = 0xE0 && b < 0xA0) then
              (decodeUtf8 rest).map
                (units (a.toNat % 16 * 4096 + b.toNat % 64 * 64 + c.toNat % 64) ++ ·)
            else none
        | _ => none
      else if 0xF0 ≤ a ∧ a ≤ 0xF4 then
        match rest with
        | b :: c :: d :: rest =>
            if isContinuation b && isContinuation c && isContinuation d
                && !(a = 0xF0 && b < 0x90) && !(a = 0xF4 && 0x8F < b) then
              (decodeUtf8 rest).map (units (a.toNat % 8 * 262144 + b.toNat % 64 * 4096
                + c.toNat % 64 * 64 + d.toNat % 64) ++ ·)
            else none
        | _ => none
      else none

/-- The text between the quotes: `chunk` is what has been read since the last escape. -/
def pyString (chunk : Str) : Str → Option PyText
  | [] => decodeUtf8 chunk
  | c :: rest =>
      if c = byte '\\' then
        (decodeUtf8 chunk).bind fun us =>
          match rest with
          | [] => none
          | e :: rest =>
              if e = byte 'u' then
                match rest with
                | w :: x :: y :: z :: rest =>
                    (pyString [] rest).map (us ++ UInt16.ofNat (hexValue [w, x, y, z]) :: ·)
                | _ => none
              else (pyString [] rest).map (us ++ (unescape e).map UInt8.toUInt16 ++ ·)
      else pyString (chunk ++ [c]) rest

lemma pyString_raw {c : UInt8} {chunk rest : Str} (hslash : c ≠ byte '\\') :
    pyString chunk (c :: rest) = pyString (chunk ++ [c]) rest := by
  rw [pyString.eq_def]
  exact if_neg hslash

/-- The strings of Python: no control characters, and UTF-8. -/
def python : Dialect PyText where
  raw c := 0x20 ≤ c
  getString := pyString []
  bom := false
  nul := false

/-- What is read. A number is what Python makes of its text; of the members of a dictionary
with one name the last counts. -/
abbrev PyRead := Tree Atom PyText

/-- `json.loads`. -/
def loads (text : Str) : Option PyRead :=
  (tokens python text).bind (JsonGrammar.parse
    { atom := .atom, string := .string, array := .array, object := .object })

/-! ### The bytes of a text -/

/-- The bytes that `getString` makes of a text. A high surrogate has to be followed by a low
one. -/
def toUtf8 : PyText → Option Str
  | [] => some []
  | u :: rest =>
      if isHighSurrogate u.toNat then
        match rest with
        | [] => none
        | v :: rest =>
            (toUnicode u.toNat v.toNat).bind fun bytes => (toUtf8 rest).map (bytes ++ ·)
      else (codePointBytes u.toNat).bind fun bytes => (toUtf8 rest).map (bytes ++ ·)

section Request

variable {n : ℕ} {piece rest : Str} {u : UInt16}

lemma escaped_escapeUnit (u : UInt16) : Escaped 0x80 0x10000 u.toNat (escapeUnit u) := by
  unfold escapeUnit
  refine iteInduction (fun hquote => ?quote) fun hquote => iteInduction (fun hslash => ?slash)
    fun hslash => iteInduction (fun h8 => ?backspace) fun _ => iteInduction (fun h12 => ?formFeed)
    fun _ => iteInduction (fun h10 => ?newline) fun _ => iteInduction (fun h13 => ?carriage)
    fun _ => iteInduction (fun h9 => ?tab) fun _ => iteInduction (fun hascii => ?raw) fun _ => ?hex
  case quote =>
    rw [hquote]
    exact .letter (c := byte '"') (by decide) (by decide) (by decide)
  case slash =>
    rw [hslash]
    exact .letter (c := byte '\\') (by decide) (by decide) (by decide)
  case backspace =>
    rw [h8]
    exact .letter (c := 8) (by decide) (by decide) (by decide)
  case formFeed =>
    rw [h12]
    exact .letter (c := 12) (by decide) (by decide) (by decide)
  case newline =>
    rw [h10]
    exact .letter (c := 10) (by decide) (by decide) (by decide)
  case carriage =>
    rw [h13]
    exact .letter (c := 13) (by decide) (by decide) (by decide)
  case tab =>
    rw [h9]
    exact .letter (c := 9) (by decide) (by decide) (by decide)
  case raw =>
    have htoNat : (UInt8.ofNat u.toNat).toNat = u.toNat :=
      Nat.mod_eq_of_lt (lt_of_le_of_lt (show u.toNat ≤ 0x7E from hascii.2) (by decide))
    have hne : ∀ c : UInt8, u ≠ UInt16.ofNat c.toNat → UInt8.ofNat u.toNat ≠ c := by
      rintro c hu rfl
      exact hu (by rw [htoNat, UInt16.ofNat_toNat])
    have hraw : (0x20 : UInt8) ≤ UInt8.ofNat u.toNat := by
      rw [UInt8.le_iff_toNat_le, htoNat]
      exact hascii.1
    have htop : (UInt8.ofNat u.toNat).toNat < 0x80 :=
      htoNat.trans_lt (lt_of_le_of_lt (show u.toNat ≤ 0x7E from hascii.2) (by decide))
    have h : Escaped 0x80 0x10000 _ [UInt8.ofNat u.toNat] :=
      .raw (hne _ hquote) (hne _ hslash) hraw htop
    rwa [htoNat] at h
  case hex => exact .hex u.toNat_lt

/-- What is no high surrogate is read by itself. -/
lemma getString_piece (h : Escaped 0x80 0x10000 n piece) (hn : isHighSurrogate n = false) :
    getString (piece ++ rest)
      = (codePointBytes n).bind fun bytes => (getString rest).map (bytes ++ ·) := by
  cases h with
  | @letter e c he hletter hlow =>
      rw [codePointBytes, if_pos hlow]
      exact (Escaped.letter he hletter hlow : Escaped 0x80 0x80 _ _).getString rest
  | @raw c hquote hslash hraw htop =>
      rw [codePointBytes, if_pos htop]
      exact (Escaped.raw hquote hslash hraw htop).getString rest
  | hex hmost => exact getString_hex (hexValue_hexDigits hmost) hn

lemma toUnicode_of_lt {m : ℕ} (hn : isHighSurrogate n = true) (hm : m < 0x80) :
    toUnicode n m = none := by
  have hlow : ¬isLowSurrogate m = true := by
    simp only [isLowSurrogate, Bool.and_eq_true, decide_eq_true_eq]
    omega
  rw [toUnicode, if_pos hn, if_neg hlow]

/-- A high surrogate is read with what follows it. -/
lemma getString_high {m : ℕ} {piece' : Str} (h : Escaped 0x80 0x10000 n piece)
    (h' : Escaped 0x80 0x10000 m piece') (hn : isHighSurrogate n = true) :
    getString (piece ++ (piece' ++ rest))
      = (toUnicode n m).bind fun bytes => (getString rest).map (bytes ++ ·) := by
  have hle : 0xD800 ≤ n := by
    rw [isHighSurrogate, Bool.and_eq_true, decide_eq_true_eq] at hn
    exact hn.1
  cases h with
  | letter _ _ hlow => omega
  | raw _ _ _ htop => omega
  | hex hmost =>
      have hvalue := hexValue_hexDigits hmost
      cases h' with
      | @letter e c he hletter hlow =>
          rw [toUnicode_of_lt hn hlow]
          refine getString_unpaired hvalue hn fun hprefix => ?_
          obtain ⟨-, hprefix⟩ := List.cons_prefix_cons.mp hprefix
          have hu := (List.cons_prefix_cons.mp hprefix).1
          rw [← hu] at he
          exact absurd he (by decide)
      | @raw c hquote hslash hraw htop =>
          rw [toUnicode_of_lt hn htop]
          refine getString_unpaired hvalue hn fun hprefix => ?_
          exact hslash (List.cons_prefix_cons.mp hprefix).1.symm
      | hex hmost' => exact getString_pair hvalue (hexValue_hexDigits hmost') hn

/-- A high surrogate at the end. -/
lemma getString_high_nil (h : Escaped 0x80 0x10000 n piece) (hn : isHighSurrogate n = true) :
    getString piece = none := by
  have hle : 0xD800 ≤ n := by
    rw [isHighSurrogate, Bool.and_eq_true, decide_eq_true_eq] at hn
    exact hn.1
  cases h with
  | letter _ _ hlow => omega
  | raw _ _ _ htop => omega
  | hex hmost => exact getString_unpaired (hexValue_hexDigits hmost) hn (by simp)

lemma toUtf8_cons {us : PyText} (hu : ¬isHighSurrogate u.toNat = true) :
    toUtf8 (u :: us)
      = (codePointBytes u.toNat).bind fun bytes => (toUtf8 us).map (bytes ++ ·) := by
  rw [toUtf8.eq_def]
  exact if_neg hu

/-- **The server reads the bytes of the text.** -/
lemma getString_escapeUnit (us : PyText) : getString (us.flatMap escapeUnit) = toUtf8 us := by
  induction us using toUtf8.induct with
  | case1 => rfl
  | case2 u hu =>
      rw [List.flatMap_cons, List.flatMap_nil, List.append_nil, toUtf8, if_pos hu,
        getString_high_nil (escaped_escapeUnit u) hu]
  | case3 u hu v us ih =>
      rw [List.flatMap_cons, List.flatMap_cons, toUtf8, if_pos hu,
        getString_high (escaped_escapeUnit u) (escaped_escapeUnit v) hu, ih]
  | case4 u us hu ih =>
      rw [List.flatMap_cons, toUtf8_cons hu,
        getString_piece (escaped_escapeUnit u) (by simpa using hu), ih]

/-! ### Which texts have bytes -/

lemma isSome_codePointBytes {n : ℕ} (hn : n ≤ 0x10FFFF) : (codePointBytes n).isSome = true := by
  unfold codePointBytes
  split_ifs <;> rfl

lemma isSome_toUnicode_iff {n m : ℕ} (hn : isHighSurrogate n = true) :
    (toUnicode n m).isSome = true ↔ isLowSurrogate m = true := by
  rw [toUnicode, if_pos hn]
  by_cases hm : isLowSurrogate m = true
  · rw [if_pos hm]
    simp only [isHighSurrogate, isLowSurrogate, Bool.and_eq_true, decide_eq_true_eq] at hn hm
    refine iff_of_true (isSome_codePointBytes ?_) (by simp [isLowSurrogate, hm])
    rw [Nat.shiftLeft_eq]
    omega
  · rw [if_neg hm]
    exact iff_of_false (by simp) hm

/-- Each high surrogate is followed by a low one. -/
def Paired (us : PyText) : Prop :=
  ∀ before u after, us = before ++ u :: after → isHighSurrogate u.toNat = true →
    ∃ v ∈ after.head?, isLowSurrogate v.toNat = true

lemma paired_cons_iff {us : PyText} : Paired (u :: us) ↔
    (isHighSurrogate u.toNat = true → ∃ v ∈ us.head?, isLowSurrogate v.toNat = true) ∧
      Paired us := by
  constructor
  · intro h
    exact ⟨h [] u us rfl, fun before u' after hus => h (u :: before) u' after (by rw [hus]; rfl)⟩
  · rintro ⟨hfirst, h⟩ before u' after hus
    rcases before with _ | ⟨_, before⟩
    · obtain ⟨rfl, rfl⟩ := List.cons.inj hus
      exact hfirst
    · exact h before u' after (List.cons.inj hus).2

lemma not_isHighSurrogate_of_isLowSurrogate {n : ℕ} (h : isLowSurrogate n = true) :
    ¬isHighSurrogate n = true := by
  simp only [isHighSurrogate, isLowSurrogate, Bool.and_eq_true, decide_eq_true_eq] at h ⊢
  omega

/-- **A text has bytes** if and only if each high surrogate in it is followed by a low one. -/
lemma isSome_toUtf8_iff (us : PyText) : (toUtf8 us).isSome = true ↔ Paired us := by
  have hbind : ∀ {x y : Option Str}, (x.bind fun bytes => y.map (bytes ++ ·)).isSome = true ↔
      x.isSome = true ∧ y.isSome = true := by
    intro x y
    cases x <;> cases y <;> simp
  induction us using toUtf8.induct with
  | case1 => exact iff_of_true rfl fun before u after h => by simp at h
  | case2 u hu =>
      rw [toUtf8, if_pos hu, paired_cons_iff]
      exact iff_of_false (by simp) fun h => by simpa using h.1 hu
  | case3 u hu v us ih =>
      have hus : (toUtf8 us).isSome = true ↔ Paired us := ih
      rw [toUtf8, if_pos hu, hbind, isSome_toUnicode_iff hu, hus, paired_cons_iff, paired_cons_iff]
      constructor
      · rintro ⟨hv, h⟩
        exact ⟨fun _ => ⟨v, rfl, hv⟩,
          fun hhigh => absurd hhigh (not_isHighSurrogate_of_isLowSurrogate hv), h⟩
      · rintro ⟨hfirst, -, h⟩
        obtain ⟨_, ⟨⟩, hv⟩ := hfirst hu
        exact ⟨hv, h⟩
  | case4 u us hu ih =>
      have hus : (toUtf8 us).isSome = true ↔ Paired us := ih
      have hbytes := isSome_codePointBytes (u.toNat_lt.le.trans (by decide))
      rw [toUtf8_cons hu, hbind, hus, paired_cons_iff, and_iff_right hbytes]
      exact ⟨fun h => ⟨fun hhigh => absurd hhigh hu, h⟩, fun h => h.2⟩

/-! ### What the server reads -/

lemma suits_dumpsWriter : dumpsWriter.Suits library toUtf8 where
  inside _ := inside_flatMap fun u _ => (escaped_escapeUnit u).inside raw_library
  getString := getString_escapeUnit

/-- The value that the server reads. -/
def received (v : PyValue) : Json := (Writer.reread toUtf8 v).build builder

/-- **What `dumps` has written is read** by the server if and only if no text in it has a high
surrogate by itself. -/
theorem parse_dumps_iff {v : PyValue} {j : Json} :
    parse (dumps v) = some j ↔ (∀ s, .string s ∈ v.tokens → Paired s) ∧ received v = j := by
  have hread := suits_dumpsWriter.read_iff (b := builder) (v := v) (j := j)
  simp only [isSome_toUtf8_iff] at hread
  exact hread

/-! ### Characters -/

/-- The code point of a character. -/
lemma toNat_char (c : Char) :
    c.toNat < 0xD800 ∨ 0xE000 ≤ c.toNat ∧ c.toNat ≤ 0x10FFFF := by
  rcases c.valid with h | ⟨h, h'⟩
  · exact .inl h
  · exact .inr ⟨h, Nat.le_of_lt_succ h'⟩

lemma utf8EncodeChar_eq (c : Char) : String.utf8EncodeChar c
    = if c.toNat ≤ 127 then [UInt8.ofNat c.toNat]
      else if c.toNat ≤ 2047 then
        [UInt8.ofNat (c.toNat / 64 % 32 + 192), UInt8.ofNat (c.toNat % 64 + 128)]
      else if c.toNat ≤ 65535 then
        [UInt8.ofNat (c.toNat / 4096 % 16 + 224), UInt8.ofNat (c.toNat / 64 % 64 + 128),
          UInt8.ofNat (c.toNat % 64 + 128)]
      else
        [UInt8.ofNat (c.toNat / 262144 % 8 + 240), UInt8.ofNat (c.toNat / 4096 % 64 + 128),
          UInt8.ofNat (c.toNat / 64 % 64 + 128), UInt8.ofNat (c.toNat % 64 + 128)] := rfl

lemma codePointBytes_toNat (c : Char) :
    codePointBytes c.toNat = some (String.utf8EncodeChar c) := by
  have h6 : ∀ k < 64, 0x80 ||| k = k + 128 := by decide
  have h5 : ∀ k < 32, 0xC0 ||| k = k + 192 := by decide
  have h4 : ∀ k < 16, 0xE0 ||| k = k + 224 := by decide
  have h3 : ∀ k < 8, 0xF0 ||| k = k + 240 := by decide
  have hand6 : ∀ m : ℕ, m &&& 0x3F = m % 64 := fun m => Nat.and_two_pow_sub_one_eq_mod m 6
  have hand5 : ∀ m : ℕ, m &&& 0x1F = m % 32 := fun m => Nat.and_two_pow_sub_one_eq_mod m 5
  have hand4 : ∀ m : ℕ, m &&& 0x0F = m % 16 := fun m => Nat.and_two_pow_sub_one_eq_mod m 4
  have hand3 : ∀ m : ℕ, m &&& 0x07 = m % 8 := fun m => Nat.and_two_pow_sub_one_eq_mod m 3
  have hmax : c.toNat ≤ 0x10FFFF := by
    rcases toNat_char c with h | h <;> omega
  rw [utf8EncodeChar_eq, codePointBytes]
  simp only [hand6, hand5, hand4, hand3, Nat.shiftRight_eq_div_pow, Nat.reducePow,
    h6 _ (Nat.mod_lt _ (by decide)), h5 _ (Nat.mod_lt _ (by decide)),
    h4 _ (Nat.mod_lt _ (by decide)), h3 _ (Nat.mod_lt _ (by decide)), Nat.lt_succ_iff]
  split_ifs <;> rfl

/-- The units of a character are read as its bytes. -/
lemma toUtf8_units (c : Char) (us : PyText) :
    toUtf8 (units c.toNat ++ us) = (toUtf8 us).map (String.utf8EncodeChar c ++ ·) := by
  have hchar := toNat_char c
  rw [units]
  split_ifs with hsmall
  · have htoNat : (UInt16.ofNat c.toNat).toNat = c.toNat := UInt16.toNat_ofNat_of_lt' hsmall
    have hhigh : ¬isHighSurrogate (UInt16.ofNat c.toNat).toNat = true := by
      simp only [htoNat, isHighSurrogate, Bool.and_eq_true, decide_eq_true_eq]
      omega
    rw [List.singleton_append, toUtf8_cons hhigh, htoNat, codePointBytes_toNat, Option.bind_some]
  · have hhighNat : (UInt16.ofNat (0xD800 + (c.toNat - 0x10000) / 0x400)).toNat
        = 0xD800 + (c.toNat - 0x10000) / 0x400 :=
      UInt16.toNat_ofNat_of_lt' (lt_of_lt_of_eq (show _ < 0x10000 by omega) rfl)
    have hlowNat : (UInt16.ofNat (0xDC00 + (c.toNat - 0x10000) % 0x400)).toNat
        = 0xDC00 + (c.toNat - 0x10000) % 0x400 :=
      UInt16.toNat_ofNat_of_lt' (lt_of_lt_of_eq (show _ < 0x10000 by omega) rfl)
    have hhigh : isHighSurrogate (0xD800 + (c.toNat - 0x10000) / 0x400) = true := by
      simp only [isHighSurrogate, Bool.and_eq_true, decide_eq_true_eq]
      omega
    have hlow : isLowSurrogate (0xDC00 + (c.toNat - 0x10000) % 0x400) = true := by
      simp only [isLowSurrogate, Bool.and_eq_true, decide_eq_true_eq]
      omega
    have hcode : (0xD800 + (c.toNat - 0x10000) / 0x400) <<< 10
        + (0xDC00 + (c.toNat - 0x10000) % 0x400) - 0x35FDC00 = c.toNat := by
      rw [Nat.shiftLeft_eq]
      omega
    rw [List.cons_append, List.singleton_append, toUtf8, hhighNat, hlowNat, if_pos hhigh, toUnicode,
      if_pos hhigh, if_pos hlow, hcode, codePointBytes_toNat, Option.bind_some]

/-- **Characters arrive at the server** as they are in UTF-8. -/
theorem toUtf8_flatMap_units (cs : List Char) :
    toUtf8 (cs.flatMap fun c => units c.toNat) = some (cs.flatMap String.utf8EncodeChar) := by
  induction cs with
  | nil => rfl
  | cons c cs ih => rw [List.flatMap_cons, toUtf8_units, ih, Option.map_some, List.flatMap_cons]

end Request

/-! ### What the web interface reads -/

section Response

variable {a b c d : UInt8} {chunk rest : Str}

lemma pyString_escape {e : UInt8} (hu : e ≠ byte 'u') :
    pyString chunk (byte '\\' :: e :: rest) = (decodeUtf8 chunk).bind fun us =>
      (pyString [] rest).map (us ++ (unescape e).map UInt8.toUInt16 ++ ·) := by
  rw [pyString.eq_def]
  refine (if_pos rfl).trans (congrArg _ (funext fun us => ?_))
  exact if_neg hu

lemma pyString_hex {w x y z : UInt8} {n : ℕ} (hn : hexValue [w, x, y, z] = n) :
    pyString chunk (byte '\\' :: byte 'u' :: w :: x :: y :: z :: rest)
      = (decodeUtf8 chunk).bind fun us => (pyString [] rest).map (us ++ UInt16.ofNat n :: ·) := by
  subst hn
  rw [pyString.eq_def]
  exact (if_pos rfl).trans (congrArg _ (funext fun us => if_pos rfl))

/-- A character of the server's text: escaped, or a byte as it was. -/
lemma Escaped.pyString {n : ℕ} {piece : Str} (h : Escaped 0x100 0x20 n piece) (chunk rest : Str) :
    (n < 0x80 ∧ Web.pyString chunk (piece ++ rest) = (decodeUtf8 chunk).bind fun us =>
      (Web.pyString [] rest).map fun us' => us ++ (units n ++ us')) ∨
    Web.pyString chunk (piece ++ rest) = Web.pyString (chunk ++ [UInt8.ofNat n]) rest := by
  cases h with
  | @letter e c he hletter hlow =>
      have hu : e ≠ byte 'u' := by
        rintro rfl
        exact absurd he (by decide)
      have hunits : units c.toNat = (unescape e).map UInt8.toUInt16 := by
        rw [hletter, units, if_pos (hlow.trans (by decide)), UInt16.ofNat_uInt8ToNat,
          List.map_singleton]
      refine .inl ⟨hlow, (pyString_escape hu).trans ?_⟩
      simp only [hunits, List.append_assoc]
      rfl
  | @raw c _ hslash =>
      rw [UInt8.ofNat_toNat]
      exact .inr (pyString_raw hslash)
  | hex hmost =>
      refine .inl ⟨hmost.trans (by decide), (pyString_hex
        (hexValue_hexDigits (hmost.trans (by decide)))).trans ?_⟩
      rw [units, if_pos (hmost.trans (by decide))]
      rfl

section Sequences

variable {k n : ℕ}

end Sequences

end Response

end Slas.Web
