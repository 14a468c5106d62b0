import Mathlib
import Slas.Web.JsonScanner

/-!
Texts of JSON as the two programs write them, and what becomes of them where they are read.

* `Leaf`: the values that have no parts, strings apart;
* `Writer`: how strings are written, and what follows a separator;
* `Writer.Suits`: what a reader makes of such strings;
* `Writer.read_iff`: a text is read if and only if its strings are, and as the same value.
-/

namespace Slas.Web

open JsonGrammar (Tree Builder)

/-- The values that have no parts, strings apart. -/
inductive Leaf where
  | null
  | boolean (value : Bool)
  | number (value : ℤ)
  deriving DecidableEq

/-- As they are read. -/
def Leaf.atom : Leaf → Atom
  | .null => .null
  | .boolean value => .boolean value
  | .number value => .number (stdToString value)

/-- As they are written. -/
def Leaf.text : Leaf → Str
  | .null => ascii "null"
  | .boolean value => if value then ascii "true" else ascii "false"
  | .number value => stdToString value

/-- A way to write JSON. -/
structure Writer (T : Type) where
  escape : T → Str
  spaced : Bool

variable {S T J : Type}

namespace Writer

/-- A separator, and what follows it. -/
def separator (w : Writer T) (c : Str) : Str := if w.spaced then c ++ ascii " " else c

/-- A token as it is written. -/
def spell (w : Writer T) : JsonGrammar.Token Leaf T → Str
  | .atom a => a.text
  | .string s => byte '"' :: (w.escape s ++ [byte '"'])
  | .beginArray => ascii "["
  | .endArray => ascii "]"
  | .beginObject => ascii "\x7b"
  | .endObject => ascii "\x7d"
  | .nameSeparator => w.separator (ascii ":")
  | .valueSeparator => w.separator (ascii ",")

/-- The text of a value. -/
def text (w : Writer T) (v : Tree Leaf T) : Str := v.tokens.flatMap w.spell

/-- `w.Suits d read`: the strings that are written are not broken off by the reader, which makes
of them what `read` says. -/
structure Suits (w : Writer T) (d : Dialect S) (read : T → Option S) : Prop where
  inside : ∀ s, Inside d (w.escape s)
  getString : ∀ s, d.getString (w.escape s) = read s

/-- A value whose strings have been read. -/
def reread [Inhabited S] (read : T → Option S) (v : Tree Leaf T) : Tree Atom S :=
  v.map Leaf.atom fun s => (read s).getD default

section Suits

variable {w : Writer T} {d : Dialect S} {read : T → Option S}

lemma spells_leaf (a : Leaf) : Spells d a.text (.atom a.atom) := by
  cases a with
  | null => exact spells_null
  | boolean value => exact spells_boolean value
  | number value => exact spells_number value

lemma spells_separator {c : Str} {t : Token S} (h : Spells d c t) : Spells d (w.separator c) t := by
  rw [separator]
  split_ifs
  · exact h.space
  · exact h

lemma Suits.refused (h : w.Suits d read) {s : T} (hs : read s = none) :
    Refused d w.spell (.string s) where
  refused n rest := scan_string_none (h.inside s) ((h.getString s).trans hs) n rest
  ends _ := ends_cons (by decide)

variable [Inhabited S]

/-- A token is read as the same token, unless it is a string that is not. -/
lemma Suits.spelled (h : w.Suits d read) {t : JsonGrammar.Token Leaf T}
    (ht : ∀ s, t = .string s → (read s).isSome = true) :
    Spelled d w.spell (JsonGrammar.Token.map Leaf.atom fun s => (read s).getD default) t := by
  have hends : ∀ (c : UInt8) (others rest : Str), isDigit c = false ∧ c ≠ byte '.' ∧
      c ≠ byte 'e' ∧ c ≠ byte 'E' → Ends (w.separator (c :: others) ++ rest) := by
    intro c others rest hc
    rw [separator]
    split_ifs
    · exact ends_cons hc
    · exact ends_cons hc
  cases t with
  | atom a => exact ⟨spells_leaf a, id, fun h => absurd trivial h⟩
  | string s =>
      obtain ⟨value, hvalue⟩ := Option.isSome_iff_exists.mp (ht s rfl)
      refine ⟨?_, id, fun _ _ => ends_cons (by decide)⟩
      rw [JsonGrammar.Token.map, hvalue, Option.getD_some]
      exact spells_string (h.inside s) ((h.getString s).trans hvalue)
  | beginArray => exact ⟨spells_beginArray, id, fun _ _ => ends_cons (by decide)⟩
  | endArray => exact ⟨spells_endArray, id, fun _ _ => ends_cons (by decide)⟩
  | beginObject => exact ⟨spells_beginObject, id, fun _ _ => ends_cons (by decide)⟩
  | endObject => exact ⟨spells_endObject, id, fun _ _ => ends_cons (by decide)⟩
  | nameSeparator =>
      exact ⟨spells_separator spells_nameSeparator, id, fun _ rest => hends _ _ rest (by decide)⟩
  | valueSeparator =>
      exact ⟨spells_separator spells_valueSeparator, id, fun _ rest => hends _ _ rest (by decide)⟩

/-- **A text is read** if and only if all its strings are, and as the same value. -/
theorem Suits.read_iff [DecidableEq S] (h : w.Suits d read) {b : Builder Atom S J}
    {v : Tree Leaf T} {j : J} :
    (tokens d (w.text v)).bind (JsonGrammar.parse b) = some j ↔
      (∀ s, .string s ∈ v.tokens → (read s).isSome = true) ∧ (reread read v).build b = j := by
  by_cases hstrings : ∀ s, .string s ∈ v.tokens → (read s).isSome = true
  · have htokens : tokens d (w.text v) = some (reread read v).tokens := by
      rw [reread, Tree.tokens_map]
      exact tokens_spelled v.isChain_tokens fun t ht => h.spelled fun s hs => hstrings s (hs ▸ ht)
    rw [htokens, Option.bind_some, JsonGrammar.parse_eq_some_iff.mpr ⟨_, rfl, rfl⟩, Option.some_inj,
      and_iff_right hstrings]
  · have hrefused : tokens d (w.text v) = none := by
      have hts : ∀ t ∈ v.tokens, Spelled d w.spell
          (JsonGrammar.Token.map Leaf.atom fun s => (read s).getD default) t ∨
          Refused d w.spell t := by
        intro t _
        by_cases hread : ∀ s, t = .string s → (read s).isSome = true
        · exact .inl (h.spelled hread)
        · push Not at hread
          obtain ⟨s, rfl, hs⟩ := hread
          exact .inr (h.refused (by simpa using hs))
      push Not at hstrings
      obtain ⟨s, hmem, hs⟩ := hstrings
      exact tokens_refused v.isChain_tokens hts ⟨_, hmem, h.refused (by simpa using hs)⟩
    rw [hrefused]
    exact iff_of_false (by simp) fun h => hstrings h.1

end Suits

end Writer

end Slas.Web
