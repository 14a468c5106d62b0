import Mathlib
import Slas.Lib.NearestDouble
import Slas.Web.CommandExecutor
import Slas.Web.JsonWriter

/-!
What the server does with JSON, `server/third_party/json/json.hpp`.

* `getString`, `toUnicode`: `lexer::get_string` and `lexer::to_unicode`;
* `number`: the conversion of a number, which goes through a `double`;
* `parse`: `json::parse`;
* `escapeString`, `Json.dump`: `escape_string` and `dump`;
* `parse_dump`: what is read of a text that was written so;
* `parse_dump_iff`: it is the same value if every number in it is a `double`.
-/

namespace Slas.Web

open JsonGrammar (Tree Builder)

/-! ### Strings -/

/-- The bytes of a code point. -/
def codePointBytes (codepoint : ℕ) : Option Str :=
  if codepoint < 0x80 then some [UInt8.ofNat codepoint]
  else if codepoint ≤ 0x7FF then
    some [UInt8.ofNat (0xC0 ||| ((codepoint >>> 6) &&& 0x1F)),
      UInt8.ofNat (0x80 ||| (codepoint &&& 0x3F))]
  else if codepoint ≤ 0xFFFF then
    some [UInt8.ofNat (0xE0 ||| ((codepoint >>> 12) &&& 0x0F)),
      UInt8.ofNat (0x80 ||| ((codepoint >>> 6) &&& 0x3F)),
      UInt8.ofNat (0x80 ||| (codepoint &&& 0x3F))]
  else if codepoint ≤ 0x10FFFF then
    some [UInt8.ofNat (0xF0 ||| ((codepoint >>> 18) &&& 0x07)),
      UInt8.ofNat (0x80 ||| ((codepoint >>> 12) &&& 0x3F)),
      UInt8.ofNat (0x80 ||| ((codepoint >>> 6) &&& 0x3F)),
      UInt8.ofNat (0x80 ||| (codepoint &&& 0x3F))]
  else none

def isHighSurrogate (codepoint : ℕ) : Bool := 0xD800 ≤ codepoint && codepoint ≤ 0xDBFF

def isLowSurrogate (codepoint : ℕ) : Bool := 0xDC00 ≤ codepoint && codepoint ≤ 0xDFFF

/-- `lexer::to_unicode`. -/
def toUnicode (codepoint1 codepoint2 : ℕ) : Option Str :=
  if isHighSurrogate codepoint1 then
    if isLowSurrogate codepoint2 then
      codePointBytes ((codepoint1 <<< 10) + codepoint2 - 0x35FDC00)
    else none
  else codePointBytes codepoint1

/-- What a letter behind a backslash stands for. -/
def unescape (e : UInt8) : Str :=
  if e = byte 't' then [9]
  else if e = byte 'b' then [8]
  else if e = byte 'f' then [12]
  else if e = byte 'n' then [10]
  else if e = byte 'r' then [13]
  else if e = byte '\\' ∨ e = byte '/' ∨ e = byte '"' then [e]
  else []

/-- `lexer::get_string`, of the text between the quotes. The scanner sees to it that four
digits follow each `u`. -/
def getString : Str → Option Str
  | [] => some []
  | c :: rest =>
      if c = byte '\\' then
        match rest with
        | [] => some []
        | e :: rest =>
            if e = byte 'u' then
              match rest with
              | w :: x :: y :: z :: rest =>
                  if isHighSurrogate (hexValue [w, x, y, z]) then
                    match rest with
                    | slash :: u :: w' :: x' :: y' :: z' :: rest =>
                        if slash = byte '\\' ∧ u = byte 'u' then
                          (toUnicode (hexValue [w, x, y, z]) (hexValue [w', x', y', z'])).bind
                            fun bytes => (getString rest).map (bytes ++ ·)
                        else none
                    | _ => none
                  else (toUnicode (hexValue [w, x, y, z]) 0).bind
                    fun bytes => (getString rest).map (bytes ++ ·)
              | _ => none
            else (getString rest).map (unescape e ++ ·)
      else (getString rest).map (c :: ·)

/-! ### Numbers -/

/-- The number that the text of a token denotes. -/
def numberValue (text : Str) : ℚ :=
  let isExponent := fun c => c = byte 'e' || c = byte 'E'
  let mantissa := text.takeWhile (!isExponent ·)
  let exponent := (text.dropWhile (!isExponent ·)).drop 1
  let fraction := (mantissa.dropWhile (· ≠ byte '.')).drop 1
  let sign := fun digits : Str => if digits.head? = some (byte '-') then (-1 : ℤ) else 1
  (sign mantissa * ofDigits (mantissa.filter isDigit) : ℤ)
    * 10 ^ (sign exponent * ofDigits (exponent.filter isDigit) - fraction.length)

/-- `lexer::get_number` and the conversion of what it returns to `long long`. -/
def number (text : Str) : ℤ :=
  let value := NearestDouble.nearest (numberValue text)
  value.num.tdiv value.den

/-! ### The parser -/

/-- The strings of the library: any byte from `0x10` on stands for itself. -/
def library : Dialect Str where
  raw c := 0x10 ≤ c
  getString := getString
  bom := true
  nul := true

/-- `operator[]` with a key, and the assignment of a value: the entries of the map are in
the order of their keys, as bytes. -/
def insertMember (key : Str) (value : Json) : List (Str × Json) → List (Str × Json)
  | [] => [(key, value)]
  | m :: ms =>
      if key.map UInt8.toNat < m.1.map UInt8.toNat then (key, value) :: m :: ms
      else if key = m.1 then (key, value) :: ms
      else m :: insertMember key value ms

/-- The values that the parser builds. -/
def builder : Builder Atom Str Json where
  atom
    | .null => .null
    | .boolean value => .boolean value
    | .number text => .number (number text)
  string := .string
  array := .array
  object members := .object (members.foldl (fun map m => insertMember m.1 m.2 map) [])

/-- `json::parse`, which throws where there is no value. -/
def parse (text : Str) : Option Json := (tokens library text).bind (JsonGrammar.parse builder)

/-! ### The writer -/

/-- What `escape_string` makes of a byte. -/
def escapeByte (c : UInt8) : Str :=
  if c = byte '"' then [byte '\\', byte '"']
  else if c = byte '\\' then [byte '\\', byte '\\']
  else if c = 8 then [byte '\\', byte 'b']
  else if c = 12 then [byte '\\', byte 'f']
  else if c = 10 then [byte '\\', byte 'n']
  else if c = 13 then [byte '\\', byte 'r']
  else if c = 9 then [byte '\\', byte 't']
  else if c ≤ 0x1F then
    [byte '\\', byte 'u', byte '0', byte '0', hexify (c >>> 4).toNat, hexify (c &&& 0x0F).toNat]
  else [c]

/-- `escape_string`. -/
def escapeString (s : Str) : Str := s.flatMap escapeByte

mutual

/-- `dump`. -/
def Json.dump : Json → Str
  | .null => ascii "null"
  | .boolean value => if value then ascii "true" else ascii "false"
  | .number value => stdToString value
  | .string value => byte '"' :: (escapeString value ++ [byte '"'])
  | .array elements => ascii "[" ++ dumpElements elements ++ ascii "]"
  | .object members => ascii "\x7b" ++ dumpMembers members ++ ascii "\x7d"

def dumpElements : List Json → Str
  | [] => []
  | j :: js => j.dump ++ dumpMoreElements js

def dumpMoreElements : List Json → Str
  | [] => []
  | j :: js => ascii "," ++ j.dump ++ dumpMoreElements js

def dumpMembers : List (Str × Json) → Str
  | [] => []
  | (key, j) :: ms =>
      byte '"' :: (escapeString key ++ [byte '"']) ++ ascii ":" ++ j.dump ++ dumpMoreMembers ms

def dumpMoreMembers : List (Str × Json) → Str
  | [] => []
  | (key, j) :: ms =>
      ascii "," ++ (byte '"' :: (escapeString key ++ [byte '"'])) ++ ascii ":" ++ j.dump
        ++ dumpMoreMembers ms

end

example : (Json.object [(ascii "status", .string (ascii "ok"))]).dump
    = ascii "\x7b\"status\":\"ok\"\x7d" := by decide

/-! ### Strings are read as they were -/

section Strings

variable {S : Type} {d : Dialect S} {c : UInt8} {rest : Str}

lemma getString_raw (hslash : c ≠ byte '\\') :
    getString (c :: rest) = (getString rest).map (c :: ·) := by
  rw [getString.eq_def]
  exact if_neg hslash

lemma getString_escape {e : UInt8} (hu : e ≠ byte 'u') :
    getString (byte '\\' :: e :: rest) = (getString rest).map (unescape e ++ ·) := by
  rw [getString.eq_def]
  exact (if_pos rfl).trans (if_neg hu)

section Digits

variable {w x y z w' x' y' z' : UInt8} {n m : ℕ}

/-- An escape that is no high surrogate. -/
lemma getString_hex (hn : hexValue [w, x, y, z] = n) (h : isHighSurrogate n = false) :
    getString (byte '\\' :: byte 'u' :: w :: x :: y :: z :: rest)
      = (codePointBytes n).bind fun bytes => (getString rest).map (bytes ++ ·) := by
  subst hn
  have hunicode : toUnicode (hexValue [w, x, y, z]) 0 = codePointBytes (hexValue [w, x, y, z]) :=
    if_neg (by simp [h])
  rw [getString.eq_def, ← hunicode]
  exact (if_pos rfl).trans ((if_pos rfl).trans (if_neg (by simp [h])))

/-- Two escapes, the first of which is a high surrogate. -/
lemma getString_pair (hn : hexValue [w, x, y, z] = n) (hm : hexValue [w', x', y', z'] = m)
    (h : isHighSurrogate n = true) :
    getString (byte '\\' :: byte 'u' :: w :: x :: y :: z :: byte '\\' :: byte 'u' :: w' :: x'
        :: y' :: z' :: rest)
      = (toUnicode n m).bind fun bytes => (getString rest).map (bytes ++ ·) := by
  subst hn hm
  rw [getString.eq_def]
  exact (if_pos rfl).trans ((if_pos rfl).trans ((if_pos h).trans (if_pos ⟨rfl, rfl⟩)))

/-- A high surrogate that no escape follows. -/
lemma getString_unpaired (hn : hexValue [w, x, y, z] = n) (h : isHighSurrogate n = true)
    (hrest : ¬[byte '\\', byte 'u'] <+: rest) :
    getString (byte '\\' :: byte 'u' :: w :: x :: y :: z :: rest) = none := by
  subst hn
  rw [getString.eq_def]
  refine (if_pos rfl).trans ((if_pos rfl).trans ((if_pos h).trans ?_))
  split
  · rename_i slash u w x y z rest
    refine if_neg fun hslash => hrest ?_
    rw [hslash.1, hslash.2]
    exact List.prefix_append [byte '\\', byte 'u'] (w :: x :: y :: z :: rest)
  · rfl

end Digits

/-- `Escaped top most n piece`: a way to write the character `n`. Those below `top` may stand
for themselves, and those below `most` be written as hexadecimal digits. -/
inductive Escaped (top most : ℕ) : ℕ → Str → Prop
  | letter {e c : UInt8} (he : isEscape e = true) (hletter : unescape e = [c])
      (hlow : c.toNat < 0x80) : Escaped top most c.toNat [byte '\\', e]
  | raw {c : UInt8} (hquote : c ≠ byte '"') (hslash : c ≠ byte '\\') (hraw : 0x20 ≤ c)
      (htop : c.toNat < top) : Escaped top most c.toNat [c]
  | hex {n : ℕ} (hmost : n < most) : Escaped top most n (byte '\\' :: byte 'u' :: hexDigits n)

lemma Escaped.inside {top most n : ℕ} {piece : Str} (h : Escaped top most n piece)
    (hraw : ∀ c, 0x20 ≤ c → d.raw c = true) : Inside d piece := by
  cases h with
  | letter he => exact inside_escape he
  | raw hquote hslash hc => exact inside_raw hquote hslash (hraw _ hc)
  | hex => exact inside_hex (isHex_hexDigits n)

lemma Escaped.mono {top most most' n : ℕ} {piece : Str} (h : Escaped top most n piece)
    (hle : most ≤ most') : Escaped top most' n piece := by
  cases h with
  | letter he hletter hlow => exact .letter he hletter hlow
  | raw hquote hslash hraw htop => exact .raw hquote hslash hraw htop
  | hex hmost => exact .hex (hmost.trans_le hle)

lemma escaped_escapeByte (c : UInt8) : Escaped 0x100 0x20 c.toNat (escapeByte c) := by
  unfold escapeByte
  refine iteInduction (fun hquote => ?quote) fun hquote => iteInduction (fun hslash => ?slash)
    fun hslash => iteInduction (fun h8 => ?backspace) fun _ => iteInduction (fun h12 => ?formFeed)
    fun _ => iteInduction (fun h10 => ?newline) fun _ => iteInduction (fun h13 => ?carriage)
    fun _ => iteInduction (fun h9 => ?tab) fun _ => iteInduction (fun hcontrol => ?control)
    fun hcontrol => ?raw
  case quote =>
    rw [hquote]
    exact .letter (by decide) (by decide) (by decide)
  case slash =>
    rw [hslash]
    exact .letter (by decide) (by decide) (by decide)
  case backspace =>
    rw [h8]
    exact .letter (by decide) (by decide) (by decide)
  case formFeed =>
    rw [h12]
    exact .letter (by decide) (by decide) (by decide)
  case newline =>
    rw [h10]
    exact .letter (by decide) (by decide) (by decide)
  case carriage =>
    rw [h13]
    exact .letter (by decide) (by decide) (by decide)
  case tab =>
    rw [h9]
    exact .letter (by decide) (by decide) (by decide)
  case control =>
    have hdigits : ∀ n < 32, [byte '0', byte '0', hexify (UInt8.ofNat n >>> 4).toNat,
        hexify (UInt8.ofNat n &&& 0x0F).toNat] = hexDigits n := by decide
    have hc := hdigits c.toNat (Nat.lt_succ_of_le hcontrol)
    rw [UInt8.ofNat_toNat] at hc
    rw [hc]
    exact .hex (Nat.lt_succ_of_le hcontrol)
  case raw => exact .raw hquote hslash (Nat.succ_le_of_lt (not_le.mp hcontrol)) c.toNat_lt

/-- **A character that is written as one byte, or escaped,** is read again. -/
lemma Escaped.getString {top n : ℕ} {piece : Str} (h : Escaped top 0x80 n piece) (rest : Str) :
    Web.getString (piece ++ rest) = (Web.getString rest).map (UInt8.ofNat n :: ·) := by
  cases h with
  | @letter e c he hletter =>
      have hu : e ≠ byte 'u' := by
        rintro rfl
        exact absurd he (by decide)
      rw [UInt8.ofNat_toNat]
      exact (getString_escape hu).trans (by rw [hletter]; rfl)
  | raw _ hslash =>
      rw [UInt8.ofNat_toNat]
      exact getString_raw hslash
  | hex hn =>
      have hhigh : isHighSurrogate n = false := by
        simp only [isHighSurrogate, Bool.and_eq_false_iff, decide_eq_false_iff_not]
        omega
      refine (getString_hex (hexValue_hexDigits (hn.trans (by decide))) hhigh).trans ?_
      rw [codePointBytes, if_pos hn]
      rfl

lemma getString_escapeString (s : Str) : getString (escapeString s) = some s := by
  induction s with
  | nil => rfl
  | cons c s ih =>
      have hc := ((escaped_escapeByte c).mono (by decide)).getString (escapeString s)
      rw [UInt8.ofNat_toNat, ih] at hc
      exact hc

end Strings

/-! ### Values are read as they were -/

mutual

/-- The value as a derivation. -/
def Json.tree : Json → Tree Leaf Str
  | .null => .atom .null
  | .boolean value => .atom (.boolean value)
  | .number value => .atom (.number value)
  | .string value => .string value
  | .array elements => .array (treeElements elements)
  | .object members => .object (treeMembers members)

def treeElements : List Json → List (Tree Leaf Str)
  | [] => []
  | j :: js => j.tree :: treeElements js

def treeMembers : List (Str × Json) → List (Str × Tree Leaf Str)
  | [] => []
  | (key, j) :: ms => (key, j.tree) :: treeMembers ms

end

lemma treeElements_eq (js : List Json) : treeElements js = js.map Json.tree := by
  induction js with
  | nil => rfl
  | cons j js ih => rw [treeElements, ih, List.map_cons]

lemma treeMembers_eq (ms : List (Str × Json)) :
    treeMembers ms = ms.map fun m => (m.1, m.2.tree) := by
  induction ms with
  | nil => rfl
  | cons m ms ih => rw [treeMembers, ih, List.map_cons]

/-- **Induction over values.** -/
theorem Json.induction {P : Json → Prop} (null : P .null) (boolean : ∀ value, P (.boolean value))
    (number : ∀ value, P (.number value)) (string : ∀ value, P (.string value))
    (array : ∀ js, (∀ j ∈ js, P j) → P (.array js))
    (object : ∀ ms, (∀ m ∈ ms, P m.2) → P (.object ms)) (j : Json) : P j :=
  @Json.rec P (fun js => ∀ j ∈ js, P j) (fun ms => ∀ m ∈ ms, P m.2) (fun m => P m.2)
    null boolean number string array object (by simp)
    (fun _ _ hj hjs => List.forall_mem_cons.mpr ⟨hj, hjs⟩) (by simp)
    (fun _ _ hm hms => List.forall_mem_cons.mpr ⟨hm, hms⟩) (fun _ _ hj => hj) j

/-- The strings of `dump`. -/
def dumping : Writer Str where
  escape := escapeString
  spaced := false

section Dump

lemma dumpMoreElements_eq {js : List Json}
    (h : ∀ j ∈ js, j.dump = j.tree.tokens.flatMap dumping.spell) :
    dumpMoreElements js = (JsonGrammar.moreElements (treeElements js)).flatMap dumping.spell := by
  induction js with
  | nil => rfl
  | cons j js ih =>
      rw [List.forall_mem_cons] at h
      simp [dumpMoreElements, treeElements, JsonGrammar.moreElements, h.1, ih h.2, Writer.spell,
        Writer.separator, dumping]

lemma dumpMoreMembers_eq {ms : List (Str × Json)}
    (h : ∀ m ∈ ms, m.2.dump = m.2.tree.tokens.flatMap dumping.spell) :
    dumpMoreMembers ms = (JsonGrammar.moreMembers (treeMembers ms)).flatMap dumping.spell := by
  induction ms with
  | nil => rfl
  | cons m ms ih =>
      rw [List.forall_mem_cons] at h
      simp [dumpMoreMembers, treeMembers, JsonGrammar.moreMembers, h.1, ih h.2, Writer.spell,
        Writer.separator, dumping]

/-- `dump` writes the tokens of the value. -/
lemma Json.dump_eq (j : Json) : j.dump = j.tree.tokens.flatMap dumping.spell := by
  induction j using Json.induction with
  | null => rfl
  | boolean value => cases value <;> rfl
  | number value => simp [Json.dump, Json.tree, Tree.tokens, Writer.spell, Leaf.text]
  | string value => simp [Json.dump, Json.tree, Tree.tokens, Writer.spell, dumping]
  | array js ih =>
      cases js with
      | nil => rfl
      | cons j js =>
          rw [List.forall_mem_cons] at ih
          simp [Json.dump, Json.tree, Tree.tokens, dumpElements, treeElements,
            JsonGrammar.elementsTokens, ih.1, dumpMoreElements_eq ih.2, Writer.spell, dumping]
  | object ms ih =>
      cases ms with
      | nil => rfl
      | cons m ms =>
          rw [List.forall_mem_cons] at ih
          simp [Json.dump, Json.tree, Tree.tokens, dumpMembers, treeMembers,
            JsonGrammar.membersTokens, ih.1, dumpMoreMembers_eq ih.2, Writer.spell,
              Writer.separator, dumping]

end Dump

section Read

/-- What every reader takes the strings of `dump` for. -/
lemma inside_escapeString {S : Type} {d : Dialect S} (hraw : ∀ c, 0x20 ≤ c → d.raw c = true)
    (s : Str) : Inside d (escapeString s) :=
  inside_flatMap fun c _ => (escaped_escapeByte c).inside hraw

lemma raw_library (c : UInt8) (h : 0x20 ≤ c) : library.raw c = true :=
  decide_eq_true (UInt8.le_trans (by decide : (0x10 : UInt8) ≤ 0x20) h)

lemma suits_dumping : dumping.Suits library some where
  inside := inside_escapeString raw_library
  getString := getString_escapeString

/-- The value that is read where this one has been written. -/
def Json.reread (j : Json) : Json := (Writer.reread some j.tree).build builder

/-- **A text that was written by `dump` is read.** -/
theorem parse_dump (j : Json) : parse j.dump = some j.reread := by
  rw [parse, j.dump_eq]
  exact suits_dumping.read_iff.mpr ⟨fun _ _ => rfl, rfl⟩

end Read

/-! ### Numbers are rounded -/

section Numbers

variable {n : ℤ}

/-- Neither a point nor an exponent. -/
lemma isInteger_stdToString (n : ℤ) : ∀ c ∈ stdToString n, c = byte '-' ∨ isDigit c = true := by
  intro c hc
  rw [stdToString] at hc
  split_ifs at hc
  · exact (List.mem_cons.mp hc).imp_right (isDigit_decimal _ c)
  · exact .inr (isDigit_decimal _ c hc)

lemma filter_isDigit_decimal (m : ℕ) : (decimal m).filter isDigit = decimal m :=
  List.filter_eq_self.mpr (isDigit_decimal m)

/-- The sign and the digits of a number that is written out. -/
lemma signed_stdToString (n : ℤ) :
    (if (stdToString n).head? = some (byte '-') then (-1 : ℤ) else 1)
      * ofDigits ((stdToString n).filter isDigit) = n := by
  by_cases hn : n < 0
  · rw [stdToString, if_pos hn]
    have hminus : ¬isDigit (byte '-') = true := by decide
    rw [List.head?_cons, if_pos rfl, List.filter_cons_of_neg hminus, filter_isDigit_decimal,
      ofDigits_decimal]
    omega
  · rw [stdToString, if_neg hn]
    have hhead : (decimal n.natAbs).head? ≠ some (byte '-') := by
      intro hhead
      have hdigit := isDigit_decimal _ _ (List.mem_of_head? hhead)
      exact absurd hdigit (by decide)
    rw [if_neg hhead, filter_isDigit_decimal, ofDigits_decimal]
    omega

lemma numberValue_stdToString (n : ℤ) : numberValue (stdToString n) = n := by
  have hexponent : ∀ c ∈ stdToString n, (!(c = byte 'e' || c = byte 'E')) = true := by
    intro c hc
    have hbegins : BeginsNumber c := isInteger_stdToString n c hc
    simp [hbegins.ne (a := byte 'e') (by decide) (by decide),
      hbegins.ne (a := byte 'E') (by decide) (by decide)]
  have hpoint : ∀ c ∈ stdToString n, decide (c ≠ byte '.') = true := by
    intro c hc
    have hbegins : BeginsNumber c := isInteger_stdToString n c hc
    exact decide_eq_true (hbegins.ne (by decide) (by decide))
  have htake := List.takeWhile_eq_self_iff.mpr hexponent
  have hdrop := List.dropWhile_eq_nil_iff.mpr hexponent
  have hfraction := List.dropWhile_eq_nil_iff.mpr hpoint
  simp only [numberValue, htake, hdrop, hfraction, signed_stdToString]
  simp [ofDigits]

/-- **A number that is written out is rounded when it is read.** -/
lemma number_stdToString (n : ℤ) : (number (stdToString n) : ℚ) = NearestDouble.nearest n := by
  obtain ⟨m, hm⟩ := NearestDouble.exists_nearest_intCast n
  rw [number, numberValue_stdToString, hm]
  simp

lemma number_stdToString_eq_iff : number (stdToString n) = n ↔ NearestDouble.nearest n = n := by
  rw [← number_stdToString]
  exact Int.cast_inj.symm

end Numbers

/-! ### Which values are read as they were -/

/-- The order of the keys of a map. -/
def KeyLt (key key' : Str) : Prop := key.map UInt8.toNat < key'.map UInt8.toNat

/-- A value of the library: the members of an object are in the order of their keys. -/
inductive Json.Sorted : Json → Prop
  | null : Sorted .null
  | boolean {value} : Sorted (.boolean value)
  | number {value} : Sorted (.number value)
  | string {value} : Sorted (.string value)
  | array {js} (h : ∀ j ∈ js, Sorted j) : Sorted (.array js)
  | object {ms : List (Str × Json)} (hkeys : ms.Pairwise fun m m' => KeyLt m.1 m'.1)
      (h : ∀ m ∈ ms, Sorted m.2) : Sorted (.object ms)

/-- Its numbers are doubles. -/
def Json.Exact (j : Json) : Prop :=
  ∀ n : ℤ, .atom (.number n) ∈ j.tree.tokens → NearestDouble.nearest n = n

section Exact

variable {j : Json} {js : List Json} {ms : List (Str × Json)}

lemma insertMember_of_lt {key : Str} {value : Json} (h : ∀ m ∈ ms, KeyLt m.1 key) :
    insertMember key value ms = ms ++ [(key, value)] := by
  induction ms with
  | nil => rfl
  | cons m ms ih =>
      rw [List.forall_mem_cons] at h
      have hne : key ≠ m.1 := by
        rintro rfl
        exact lt_irrefl _ h.1
      rw [insertMember, if_neg (not_lt_of_gt h.1), if_neg hne, ih h.2, List.cons_append]

lemma foldl_insertMember {acc : List (Str × Json)}
    (h : (acc ++ ms).Pairwise fun m m' => KeyLt m.1 m'.1) :
    ms.foldl (fun map m => insertMember m.1 m.2 map) acc = acc ++ ms := by
  induction ms generalizing acc with
  | nil => exact (List.append_nil acc).symm
  | cons m ms ih =>
      have hacc : ∀ m' ∈ acc, KeyLt m'.1 m.1 := fun m' hm' =>
        (List.pairwise_append.mp h).2.2 m' hm' m List.mem_cons_self
      rw [List.append_cons] at h ⊢
      rw [List.foldl_cons, insertMember_of_lt hacc, ih h]

lemma reread_array : (Json.array js).reread = .array (js.map Json.reread) := by
  rw [Json.reread, Json.tree, Writer.reread, JsonGrammar.Tree.map, Tree.build,
    JsonGrammar.buildElements_eq,
    JsonGrammar.mapElements_eq, treeElements_eq, List.map_map, List.map_map]
  rfl

lemma reread_object (h : ms.Pairwise fun m m' => KeyLt m.1 m'.1) :
    (Json.object ms).reread = .object (ms.map fun m => (m.1, m.2.reread)) := by
  have hsorted : (([] : List (Str × Json)) ++ ms.map fun m => (m.1, m.2.reread)).Pairwise
      fun m m' => KeyLt m.1 m'.1 := List.pairwise_map.mpr h
  have hfold := foldl_insertMember hsorted
  rw [Json.reread, Json.tree, Writer.reread, JsonGrammar.Tree.map, Tree.build,
    JsonGrammar.buildMembers_eq,
    JsonGrammar.mapMembers_eq, treeMembers_eq, List.map_map, List.map_map]
  exact congrArg Json.object hfold

lemma exact_array_iff : (Json.array js).Exact ↔ ∀ j ∈ js, j.Exact := by
  simp only [Json.Exact, Json.tree, treeElements_eq, JsonGrammar.atom_mem_array_iff, List.mem_map]
  constructor
  · intro h j hj n hn
    exact h n ⟨_, ⟨j, hj, rfl⟩, hn⟩
  · rintro h n ⟨_, ⟨j, hj, rfl⟩, hn⟩
    exact h j hj n hn

lemma exact_object_iff : (Json.object ms).Exact ↔ ∀ m ∈ ms, m.2.Exact := by
  simp only [Json.Exact, Json.tree, treeMembers_eq, JsonGrammar.atom_mem_object_iff, List.mem_map]
  constructor
  · intro h m hm n hn
    exact h n ⟨_, ⟨m, hm, rfl⟩, hn⟩
  · rintro h n ⟨_, ⟨m, hm, rfl⟩, hn⟩
    exact h m hm n hn

lemma map_eq_self_iff {α : Type} {f : α → α} {as : List α} :
    as.map f = as ↔ ∀ a ∈ as, f a = a := by
  have h : as.map f = as.map id ↔ ∀ a ∈ as, f a = a := List.map_inj_left
  rwa [List.map_id] at h

lemma reread_eq_iff (h : j.Sorted) : j.reread = j ↔ j.Exact := by
  induction j using Json.induction with
  | null => exact iff_of_true rfl fun n hn => by simp [Json.tree, Tree.tokens] at hn
  | boolean value => exact iff_of_true rfl fun n hn => by simp [Json.tree, Tree.tokens] at hn
  | string value => exact iff_of_true rfl fun n hn => by simp [Json.tree, Tree.tokens] at hn
  | number value =>
      have hreread : (Json.number value).reread = .number (number (stdToString value)) := rfl
      rw [hreread, Json.number.injEq, number_stdToString_eq_iff]
      simp [Json.Exact, Json.tree, Tree.tokens]
  | array js ih =>
      cases h with
      | array h =>
          rw [reread_array, Json.array.injEq, map_eq_self_iff, exact_array_iff]
          exact forall₂_congr fun j hj => ih j hj (h j hj)
  | object ms ih =>
      cases h with
      | object hkeys h =>
          rw [reread_object hkeys, Json.object.injEq, map_eq_self_iff, exact_object_iff]
          refine forall₂_congr fun m hm => ?_
          rw [← ih m hm (h m hm), Prod.ext_iff, and_iff_right rfl]

/-- **What `dump` has written is read as the same value** if and only if the numbers in it
are doubles. -/
theorem parse_dump_iff (h : j.Sorted) : parse j.dump = some j ↔ j.Exact := by
  rw [parse_dump, Option.some_inj, reread_eq_iff h]

/-- A session, with a quote and a newline in a string of it. -/
def quotedSession : Json :=
  .object [(ascii "classification", .number (-1)), (ascii "id", .number 3),
    (ascii "useragent", .string (ascii "\"a\"\n"))]

/-- It is read as it was. -/
theorem parse_dump_iff_session : parse quotedSession.dump = some quotedSession := by
  have hnumber : ∀ n : ℤ, |n| ≤ 2 ^ 53 → (Json.number n).Exact := by
    intro n hn m hm
    obtain rfl : m = n := by simpa [Json.tree, Tree.tokens] using hm
    exact NearestDouble.nearest_intCast_of_le hn
  have hstring : ∀ s : Str, (Json.string s).Exact := by
    intro s m hm
    simp [Json.tree, Tree.tokens] at hm
  refine (parse_dump_iff (.object ?_ ?_)).mpr ?_
  · simp only [KeyLt]
    decide
  · simp only [List.forall_mem_cons]
    exact ⟨.number, .number, .string, by simp⟩
  · simp only [exact_object_iff, List.forall_mem_cons]
    exact ⟨hnumber _ (by decide), hnumber _ (by decide), hstring _, by simp⟩

end Exact

end Slas.Web
