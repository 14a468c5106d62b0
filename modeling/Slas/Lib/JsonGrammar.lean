import Mathlib

/-!
The grammar of JSON over tokens, and a parser that goes down it.

* `Token`, `Tree`: tokens and derivations, over any atoms and any strings;
* `Tree.tokens`: the tokens of a derivation, left to right;
* `Builder`, `Tree.build`: values that are built bottom-up;
* `Tree.isChain_tokens`: no two atoms are neighbours;
* `parseValue`, `parseElements`, `parseMembers`, `parse`: the parser;
* `parseValue_tokens`, `sound`: it reads what the grammar derives, whatever follows, and
  nothing else;
* `parse_eq_some_iff`: the tokens that are accepted are those of the derivations.
-/

namespace JsonGrammar

/-- A token. Of the atoms, such as numbers, nothing is assumed. -/
inductive Token (A S : Type) where
  | atom (a : A)
  | string (s : S)
  | beginArray
  | endArray
  | beginObject
  | endObject
  | nameSeparator
  | valueSeparator
  deriving DecidableEq

/-- A derivation. -/
inductive Tree (A S : Type) where
  | atom (a : A)
  | string (s : S)
  | array (elements : List (Tree A S))
  | object (members : List (S × Tree A S))

variable {A S J : Type}

/-- How values are made of their parts. -/
structure Builder (A S J : Type) where
  atom : A → J
  string : S → J
  array : List J → J
  object : List (S × J) → J

/-! ### Derivations -/

mutual

/-- The tokens of a derivation. -/
def Tree.tokens : Tree A S → List (Token A S)
  | .atom a => [.atom a]
  | .string s => [.string s]
  | .array elements => .beginArray :: elementsTokens elements ++ [.endArray]
  | .object members => .beginObject :: membersTokens members ++ [.endObject]

/-- Elements with separators between them. -/
def elementsTokens : List (Tree A S) → List (Token A S)
  | [] => []
  | t :: ts => t.tokens ++ moreElements ts

/-- Elements, each behind a separator. -/
def moreElements : List (Tree A S) → List (Token A S)
  | [] => []
  | t :: ts => .valueSeparator :: t.tokens ++ moreElements ts

/-- Members with separators between them. -/
def membersTokens : List (S × Tree A S) → List (Token A S)
  | [] => []
  | (s, t) :: ms => .string s :: .nameSeparator :: t.tokens ++ moreMembers ms

/-- Members, each behind a separator. -/
def moreMembers : List (S × Tree A S) → List (Token A S)
  | [] => []
  | (s, t) :: ms => .valueSeparator :: .string s :: .nameSeparator :: t.tokens ++ moreMembers ms

end

mutual

/-- The value of a derivation. -/
def Tree.build (b : Builder A S J) : Tree A S → J
  | .atom a => b.atom a
  | .string s => b.string s
  | .array elements => b.array (buildElements b elements)
  | .object members => b.object (buildMembers b members)

def buildElements (b : Builder A S J) : List (Tree A S) → List J
  | [] => []
  | t :: ts => t.build b :: buildElements b ts

def buildMembers (b : Builder A S J) : List (S × Tree A S) → List (S × J)
  | [] => []
  | (s, t) :: ms => (s, t.build b) :: buildMembers b ms

end

lemma buildElements_eq (b : Builder A S J) (ts : List (Tree A S)) :
    buildElements b ts = ts.map (Tree.build b) := by
  induction ts with
  | nil => rfl
  | cons t ts ih => rw [buildElements, ih, List.map_cons]

lemma buildMembers_eq (b : Builder A S J) (ms : List (S × Tree A S)) :
    buildMembers b ms = ms.map fun m => (m.1, m.2.build b) := by
  induction ms with
  | nil => rfl
  | cons m ms ih => rw [buildMembers, ih, List.map_cons]

/-- **Induction over derivations.** -/
theorem Tree.induction {P : Tree A S → Prop} (atom : ∀ a, P (.atom a))
    (string : ∀ s, P (.string s)) (array : ∀ ts, (∀ t ∈ ts, P t) → P (.array ts))
    (object : ∀ ms, (∀ m ∈ ms, P m.2) → P (.object ms)) (t : Tree A S) : P t :=
  @Tree.rec A S P (fun ts => ∀ t ∈ ts, P t) (fun ms => ∀ m ∈ ms, P m.2) (fun m => P m.2)
    atom string array object (by simp)
    (fun _ _ ht hts => List.forall_mem_cons.mpr ⟨ht, hts⟩) (by simp)
    (fun _ _ hm hms => List.forall_mem_cons.mpr ⟨hm, hms⟩) (fun _ _ ht => ht) t

/-! ### Derivations over other atoms and strings -/

section Map

variable {A' S' : Type}

def Token.map (f : A → A') (g : S → S') : Token A S → Token A' S'
  | .atom a => .atom (f a)
  | .string s => .string (g s)
  | .beginArray => .beginArray
  | .endArray => .endArray
  | .beginObject => .beginObject
  | .endObject => .endObject
  | .nameSeparator => .nameSeparator
  | .valueSeparator => .valueSeparator

mutual

/-- The same derivation with other atoms and strings. -/
def Tree.map (f : A → A') (g : S → S') : Tree A S → Tree A' S'
  | .atom a => .atom (f a)
  | .string s => .string (g s)
  | .array elements => .array (mapElements f g elements)
  | .object members => .object (mapMembers f g members)

def mapElements (f : A → A') (g : S → S') : List (Tree A S) → List (Tree A' S')
  | [] => []
  | t :: ts => t.map f g :: mapElements f g ts

def mapMembers (f : A → A') (g : S → S') : List (S × Tree A S) → List (S' × Tree A' S')
  | [] => []
  | (s, t) :: ms => (g s, t.map f g) :: mapMembers f g ms

end

lemma mapElements_eq (f : A → A') (g : S → S') (ts : List (Tree A S)) :
    mapElements f g ts = ts.map (Tree.map f g) := by
  induction ts with
  | nil => rfl
  | cons t ts ih => rw [mapElements, ih, List.map_cons]

lemma mapMembers_eq (f : A → A') (g : S → S') (ms : List (S × Tree A S)) :
    mapMembers f g ms = ms.map fun m => (g m.1, m.2.map f g) := by
  induction ms with
  | nil => rfl
  | cons m ms ih => rw [mapMembers, ih, List.map_cons]

lemma Tree.map_map {A'' S'' : Type} (f : A → A') (g : S → S') (f' : A' → A'') (g' : S' → S'')
    (t : Tree A S) : (t.map f g).map f' g' = t.map (f' ∘ f) (g' ∘ g) := by
  induction t using Tree.induction with
  | atom a => rfl
  | string s => rfl
  | array ts ih =>
      simp only [Tree.map, mapElements_eq, List.map_map]
      exact congrArg Tree.array (List.map_congr_left ih)
  | object ms ih =>
      simp only [Tree.map, mapMembers_eq, List.map_map]
      exact congrArg Tree.object
        (List.map_congr_left fun m hm => Prod.ext rfl (ih m hm))

lemma moreElements_map {f : A → A'} {g : S → S'} {ts : List (Tree A S)}
    (h : ∀ t ∈ ts, (t.map f g).tokens = t.tokens.map (Token.map f g)) :
    moreElements (mapElements f g ts) = (moreElements ts).map (Token.map f g) := by
  induction ts with
  | nil => rfl
  | cons t ts ih =>
      rw [List.forall_mem_cons] at h
      simp [mapElements, moreElements, h.1, ih h.2, Token.map]

lemma moreMembers_map {f : A → A'} {g : S → S'} {ms : List (S × Tree A S)}
    (h : ∀ m ∈ ms, (m.2.map f g).tokens = m.2.tokens.map (Token.map f g)) :
    moreMembers (mapMembers f g ms) = (moreMembers ms).map (Token.map f g) := by
  induction ms with
  | nil => rfl
  | cons m ms ih =>
      rw [List.forall_mem_cons] at h
      simp [mapMembers, moreMembers, h.1, ih h.2, Token.map]

/-- Its tokens are the other ones. -/
lemma Tree.tokens_map (f : A → A') (g : S → S') (t : Tree A S) :
    (t.map f g).tokens = t.tokens.map (Token.map f g) := by
  induction t using Tree.induction with
  | atom a => rfl
  | string s => rfl
  | array ts ih =>
      cases ts with
      | nil => rfl
      | cons t ts =>
          rw [List.forall_mem_cons] at ih
          simp [Tree.map, Tree.tokens, mapElements, elementsTokens, ih.1, moreElements_map ih.2,
            Token.map]
  | object ms ih =>
      cases ms with
      | nil => rfl
      | cons m ms =>
          rw [List.forall_mem_cons] at ih
          simp [Tree.map, Tree.tokens, mapMembers, membersTokens, ih.1, moreMembers_map ih.2,
            Token.map]

end Map

/-! ### The atoms and the strings of a derivation -/

section Members

variable {a : A} {s : S} {ts : List (Tree A S)} {ms : List (S × Tree A S)}

lemma mem_moreElements_iff {token : Token A S} (h : token ≠ .valueSeparator) :
    token ∈ moreElements ts ↔ ∃ t ∈ ts, token ∈ t.tokens := by
  induction ts with
  | nil => simp [moreElements]
  | cons t ts ih => simp [moreElements, ih, h]

lemma mem_elementsTokens_iff {token : Token A S} (h : token ≠ .valueSeparator) :
    token ∈ elementsTokens ts ↔ ∃ t ∈ ts, token ∈ t.tokens := by
  cases ts with
  | nil => simp [elementsTokens]
  | cons t ts => simp [elementsTokens, mem_moreElements_iff h]

lemma mem_moreMembers_iff {token : Token A S} (h : token ≠ .valueSeparator)
    (h' : token ≠ .nameSeparator) :
    token ∈ moreMembers ms ↔ ∃ m ∈ ms, token = .string m.1 ∨ token ∈ m.2.tokens := by
  induction ms with
  | nil => simp [moreMembers]
  | cons m ms ih => simp [moreMembers, ih, h, h', or_assoc]

lemma mem_membersTokens_iff {token : Token A S} (h : token ≠ .valueSeparator)
    (h' : token ≠ .nameSeparator) :
    token ∈ membersTokens ms ↔ ∃ m ∈ ms, token = .string m.1 ∨ token ∈ m.2.tokens := by
  cases ms with
  | nil => simp [membersTokens]
  | cons m ms => simp [membersTokens, mem_moreMembers_iff h h', h', or_assoc]

lemma atom_mem_array_iff : .atom a ∈ (Tree.array ts).tokens ↔ ∃ t ∈ ts, .atom a ∈ t.tokens := by
  simp [Tree.tokens, mem_elementsTokens_iff]

lemma string_mem_array_iff :
    .string s ∈ (Tree.array ts).tokens ↔ ∃ t ∈ ts, .string s ∈ t.tokens := by
  simp [Tree.tokens, mem_elementsTokens_iff]

lemma atom_mem_object_iff :
    .atom a ∈ (Tree.object ms).tokens ↔ ∃ m ∈ ms, .atom a ∈ m.2.tokens := by
  simp [Tree.tokens, mem_membersTokens_iff]

lemma string_mem_object_iff :
    .string s ∈ (Tree.object ms).tokens ↔ ∃ m ∈ ms, s = m.1 ∨ .string s ∈ m.2.tokens := by
  simp [Tree.tokens, mem_membersTokens_iff]

end Members

/-! ### Neighbours -/

/-- An atom is the only token that could run into the next one. -/
def Token.IsAtom : Token A S → Prop
  | .atom _ => True
  | _ => False

/-- Not both are atoms. -/
def Token.Apart (t t' : Token A S) : Prop := t.IsAtom → ¬t'.IsAtom

lemma isChain_append {ts ts' : List (Token A S)} (h : ts.IsChain Token.Apart)
    (h' : ts'.IsChain Token.Apart) (hhead : ∀ t ∈ ts'.head?, ¬t.IsAtom) :
    (ts ++ ts').IsChain Token.Apart :=
  List.isChain_append.mpr ⟨h, h', fun _ _ t ht _ => hhead t ht⟩

lemma isChain_cons {t : Token A S} {ts : List (Token A S)} (ht : ¬t.IsAtom)
    (h : ts.IsChain Token.Apart) : (t :: ts).IsChain Token.Apart :=
  List.isChain_cons.mpr ⟨fun _ _ hatom => absurd hatom ht, h⟩

lemma isChain_moreElements {ts : List (Tree A S)}
    (h : ∀ t ∈ ts, t.tokens.IsChain Token.Apart) : (moreElements ts).IsChain Token.Apart := by
  induction ts with
  | nil => exact .nil
  | cons t ts ih =>
      rw [List.forall_mem_cons] at h
      rw [moreElements]
      refine isChain_append (isChain_cons id h.1) (ih h.2) ?_
      cases ts <;> simp [moreElements, Token.IsAtom]

lemma isChain_moreMembers {ms : List (S × Tree A S)}
    (h : ∀ m ∈ ms, m.2.tokens.IsChain Token.Apart) : (moreMembers ms).IsChain Token.Apart := by
  induction ms with
  | nil => exact .nil
  | cons m ms ih =>
      rw [List.forall_mem_cons] at h
      rw [moreMembers]
      refine isChain_append (isChain_cons id (isChain_cons id (isChain_cons id h.1))) (ih h.2) ?_
      cases ms <;> simp [moreMembers, Token.IsAtom]

/-- **No two atoms of a derivation are neighbours.** -/
theorem Tree.isChain_tokens (t : Tree A S) : t.tokens.IsChain Token.Apart := by
  induction t using Tree.induction with
  | atom a => exact .singleton _
  | string s => exact .singleton _
  | array ts ih =>
      rw [Tree.tokens]
      refine isChain_append (isChain_cons id ?_) (.singleton _) (by simp [Token.IsAtom])
      cases ts with
      | nil => exact .nil
      | cons t ts =>
          rw [List.forall_mem_cons] at ih
          refine isChain_append ih.1 (isChain_moreElements ih.2) ?_
          cases ts <;> simp [moreElements, Token.IsAtom]
  | object ms ih =>
      rw [Tree.tokens]
      refine isChain_append (isChain_cons id ?_) (.singleton _) (by simp [Token.IsAtom])
      cases ms with
      | nil => exact .nil
      | cons m ms =>
          rw [List.forall_mem_cons] at ih
          refine isChain_append (isChain_cons id (isChain_cons id ih.1))
            (isChain_moreMembers ih.2) ?_
          cases ms <;> simp [moreMembers, Token.IsAtom]

/-- No derivation begins with a token that ends or separates. -/
lemma Tree.exists_tokens (t : Tree A S) : ∃ first others, t.tokens = first :: others ∧
    first ≠ .endArray ∧ first ≠ .endObject ∧ first ≠ .valueSeparator := by
  cases t with
  | atom a => exact ⟨.atom a, [], rfl, by simp, by simp, by simp⟩
  | string s => exact ⟨.string s, [], rfl, by simp, by simp, by simp⟩
  | array elements => exact ⟨.beginArray, _, rfl, by simp, by simp, by simp⟩
  | object members => exact ⟨.beginObject, _, rfl, by simp, by simp, by simp⟩

lemma eq_cons_of_head? {ts : List (Token A S)} {t : Token A S} (h : ts.head? = some t) :
    ts = t :: ts.tail := by
  obtain ⟨others, rfl⟩ := List.head?_eq_some_iff.mp h
  rfl

/-! ### The parser -/

/-- A part that has been read, and the tokens behind it. -/
abbrev Read (A S α : Type) := Option (α × List (Token A S))

/-- What has to follow a part. -/
def expect [DecidableEq A] [DecidableEq S] {α β : Type} (token : Token A S) (make : α → β) :
    Read A S α → Read A S β
  | some (a, t :: ts) => if t = token then some (make a, ts) else none
  | _ => none

/-- The name of a member. -/
def memberName : List (Token A S) → Read A S S
  | .string s :: .nameSeparator :: ts => some (s, ts)
  | _ => none

lemma of_memberName {ts rest : List (Token A S)} {s : S} (h : memberName ts = some (s, rest)) :
    ts = .string s :: .nameSeparator :: rest := by
  unfold memberName at h
  split at h
  · obtain ⟨rfl, rfl⟩ := Prod.mk.inj (Option.some.inj h)
    rfl
  · cases h

section Parser

variable [DecidableEq A] [DecidableEq S] (b : Builder A S J)

mutual

/-- A value. The number bounds the depth of the calls. -/
def parseValue : ℕ → List (Token A S) → Read A S J
  | 0, _ => none
  | _ + 1, [] => none
  | n + 1, t :: ts =>
      match t with
      | .atom a => some (b.atom a, ts)
      | .string s => some (b.string s, ts)
      | .beginArray =>
          if ts.head? = some .endArray then some (b.array [], ts.tail)
          else expect .endArray b.array (parseElements n ts)
      | .beginObject =>
          if ts.head? = some .endObject then some (b.object [], ts.tail)
          else expect .endObject b.object (parseMembers n ts)
      | _ => none

/-- Elements, as long as a separator follows. -/
def parseElements : ℕ → List (Token A S) → Read A S (List J)
  | 0, _ => none
  | n + 1, ts =>
      (parseValue n ts).bind fun first =>
        if first.2.head? = some .valueSeparator then
          (parseElements n first.2.tail).map fun others => (first.1 :: others.1, others.2)
        else some ([first.1], first.2)

/-- Members, as long as a separator follows. -/
def parseMembers : ℕ → List (Token A S) → Read A S (List (S × J))
  | 0, _ => none
  | n + 1, ts =>
      (memberName ts).bind fun name =>
        (parseValue n name.2).bind fun first =>
          if first.2.head? = some .valueSeparator then
            (parseMembers n first.2.tail).map fun others =>
              ((name.1, first.1) :: others.1, others.2)
          else some ([(name.1, first.1)], first.2)

end

/-- The whole of the tokens. -/
def parse (ts : List (Token A S)) : Option J :=
  (parseValue b (2 * ts.length) ts).bind fun read => if read.2 = [] then some read.1 else none

end Parser

/-! ### What the grammar derives is read -/

section Complete

variable [DecidableEq A] [DecidableEq S] {b : Builder A S J} {n : ℕ} {rest : List (Token A S)}

/-- Reading a derivation, with enough calls and whatever follows it. -/
def Reads (b : Builder A S J) (t : Tree A S) : Prop :=
  ∀ n rest, 2 * t.tokens.length ≤ n → parseValue b n (t.tokens ++ rest) = some (t.build b, rest)

lemma parseElements_tokens {t : Tree A S} {ts : List (Tree A S)} (ht : Reads b t)
    (hts : ∀ t ∈ ts, Reads b t) (hn : 2 * (elementsTokens (t :: ts)).length < n)
    (hrest : rest.head? ≠ some .valueSeparator) :
    parseElements b n (elementsTokens (t :: ts) ++ rest)
      = some (buildElements b (t :: ts), rest) := by
  induction ts generalizing t n with
  | nil =>
      obtain ⟨n, rfl⟩ : ∃ m, n = m + 1 := ⟨n - 1, by omega⟩
      simp only [elementsTokens, moreElements, List.append_nil] at hn ⊢
      rw [parseElements, ht n rest (by omega), Option.bind_some, if_neg hrest]
      rfl
  | cons t' ts ih =>
      obtain ⟨n, rfl⟩ : ∃ m, n = m + 1 := ⟨n - 1, by omega⟩
      rw [List.forall_mem_cons] at hts
      have htokens : elementsTokens (t :: t' :: ts) ++ rest
          = t.tokens ++ (.valueSeparator :: (elementsTokens (t' :: ts) ++ rest)) := by
        simp [elementsTokens, moreElements]
      have hlength := congrArg List.length htokens
      simp only [List.length_append, List.length_cons] at hlength
      have hothers := ih hts.1 hts.2 (n := n) (by omega)
      rw [htokens, parseElements, ht n _ (by omega), Option.bind_some, if_pos (by simp)]
      simp only [List.tail_cons, hothers, Option.map_some]
      rfl

lemma parseMembers_tokens {m : S × Tree A S} {ms : List (S × Tree A S)} (hm : Reads b m.2)
    (hms : ∀ m ∈ ms, Reads b m.2) (hn : 2 * (membersTokens (m :: ms)).length < n)
    (hrest : rest.head? ≠ some .valueSeparator) :
    parseMembers b n (membersTokens (m :: ms) ++ rest)
      = some (buildMembers b (m :: ms), rest) := by
  induction ms generalizing m n with
  | nil =>
      obtain ⟨n, rfl⟩ : ∃ m, n = m + 1 := ⟨n - 1, by omega⟩
      simp only [membersTokens, moreMembers, List.append_nil, List.cons_append,
        List.length_cons] at hn ⊢
      rw [parseMembers, memberName, Option.bind_some, hm n rest (by omega), Option.bind_some,
        if_neg hrest]
      rfl
  | cons m' ms ih =>
      obtain ⟨n, rfl⟩ : ∃ m, n = m + 1 := ⟨n - 1, by omega⟩
      rw [List.forall_mem_cons] at hms
      have htokens : membersTokens (m :: m' :: ms) ++ rest = .string m.1 :: .nameSeparator ::
          (m.2.tokens ++ (.valueSeparator :: (membersTokens (m' :: ms) ++ rest))) := by
        simp [membersTokens, moreMembers]
      have hlength := congrArg List.length htokens
      simp only [List.length_append, List.length_cons] at hlength
      have hothers := ih hms.1 hms.2 (n := n) (by omega)
      rw [htokens, parseMembers, memberName, Option.bind_some, hm n _ (by omega), Option.bind_some,
        if_pos (by simp)]
      simp only [List.tail_cons, hothers, Option.map_some]
      rfl

/-- **What the grammar derives is read**, whatever follows it. -/
theorem parseValue_tokens (t : Tree A S) : Reads b t := by
  induction t using Tree.induction with
  | atom a =>
      intro n rest hn
      obtain ⟨n, rfl⟩ : ∃ m, n = m + 1 := ⟨n - 1, by simp [Tree.tokens] at hn; omega⟩
      rfl
  | string s =>
      intro n rest hn
      obtain ⟨n, rfl⟩ : ∃ m, n = m + 1 := ⟨n - 1, by simp [Tree.tokens] at hn; omega⟩
      rfl
  | array ts ih =>
      intro n rest hn
      simp only [Tree.tokens, List.length_append, List.length_cons] at hn
      obtain ⟨n, rfl⟩ : ∃ m, n = m + 1 := ⟨n - 1, by omega⟩
      cases ts with
      | nil => simp [Tree.tokens, elementsTokens, parseValue, Tree.build, buildElements]
      | cons t ts =>
          rw [List.forall_mem_cons] at ih
          obtain ⟨first, others, hfirst, hne, -⟩ := t.exists_tokens
          have hread : parseElements b n (elementsTokens (t :: ts) ++ .endArray :: rest)
              = some (buildElements b (t :: ts), .endArray :: rest) :=
            parseElements_tokens ih.1 ih.2 (by omega) (by simp)
          have hhead : (elementsTokens (t :: ts) ++ .endArray :: rest).head? ≠ some .endArray := by
            simpa [elementsTokens, hfirst] using hne
          rw [Tree.tokens, List.cons_append, List.cons_append, List.append_assoc,
            List.singleton_append,
            parseValue]
          simp only [if_neg hhead, hread, expect, if_true]
          rfl
  | object ms ih =>
      intro n rest hn
      simp only [Tree.tokens, List.length_append, List.length_cons] at hn
      obtain ⟨n, rfl⟩ : ∃ m, n = m + 1 := ⟨n - 1, by omega⟩
      cases ms with
      | nil => simp [Tree.tokens, membersTokens, parseValue, Tree.build, buildMembers]
      | cons m ms =>
          rw [List.forall_mem_cons] at ih
          have hread : parseMembers b n (membersTokens (m :: ms) ++ .endObject :: rest)
              = some (buildMembers b (m :: ms), .endObject :: rest) :=
            parseMembers_tokens ih.1 ih.2 (by omega) (by simp)
          have hhead : (membersTokens (m :: ms) ++ .endObject :: rest).head? ≠ some .endObject := by
            simp [membersTokens]
          rw [Tree.tokens, List.cons_append, List.cons_append, List.append_assoc,
            List.singleton_append,
            parseValue]
          simp only [if_neg hhead, hread, expect, if_true]
          rfl

end Complete

/-! ### Nothing else is read -/

section Sound

variable [DecidableEq A] [DecidableEq S] {b : Builder A S J} {n : ℕ} {ts rest : List (Token A S)}

lemma expect_eq_some_iff {α β : Type} {token : Token A S} {make : α → β} {read : Read A S α}
    {y : β} : expect token make read = some (y, rest) ↔
      ∃ x, read = some (x, token :: rest) ∧ make x = y := by
  constructor
  · intro h
    rcases read with - | ⟨x, - | ⟨t, ts⟩⟩
    · cases h
    · cases h
    · rw [expect] at h
      split_ifs at h with ht
      obtain ⟨hy, hts⟩ := Prod.mk.inj (Option.some.inj h)
      exact ⟨x, by rw [ht, hts], hy⟩
  · rintro ⟨x, rfl, rfl⟩
    simp [expect]

/-- What has been read of the tokens is derived, part by part. -/
structure Sound (b : Builder A S J) (n : ℕ) : Prop where
  value : ∀ {ts rest : List (Token A S)} {j}, parseValue b n ts = some (j, rest) →
    ∃ t : Tree A S, ts = t.tokens ++ rest ∧ t.build b = j
  elements : ∀ {ts rest : List (Token A S)} {js}, parseElements b n ts = some (js, rest) →
    ∃ us : List (Tree A S), us ≠ [] ∧ ts = elementsTokens us ++ rest ∧ buildElements b us = js
  members : ∀ {ts rest : List (Token A S)} {kjs}, parseMembers b n ts = some (kjs, rest) →
    ∃ ms : List (S × Tree A S), ms ≠ [] ∧ ts = membersTokens ms ++ rest ∧ buildMembers b ms = kjs

lemma Sound.parseValue_succ (h : Sound b n) {j : J}
    (hread : parseValue b (n + 1) ts = some (j, rest)) :
    ∃ t : Tree A S, ts = t.tokens ++ rest ∧ t.build b = j := by
  cases ts with
  | nil => cases hread
  | cons t ts =>
      cases t with
      | atom a =>
          rw [parseValue] at hread
          obtain ⟨rfl, rfl⟩ := Prod.mk.inj (Option.some.inj hread)
          exact ⟨.atom a, rfl, rfl⟩
      | string s =>
          rw [parseValue] at hread
          obtain ⟨rfl, rfl⟩ := Prod.mk.inj (Option.some.inj hread)
          exact ⟨.string s, rfl, rfl⟩
      | beginArray =>
          rw [parseValue] at hread
          split_ifs at hread with hend
          · obtain ⟨rfl, rfl⟩ := Prod.mk.inj (Option.some.inj hread)
            exact ⟨.array [], by rw [eq_cons_of_head? hend]; rfl, rfl⟩
          · obtain ⟨js, helements, rfl⟩ := expect_eq_some_iff.mp hread
            obtain ⟨us, -, rfl, rfl⟩ := h.elements helements
            exact ⟨.array us, by simp [Tree.tokens], rfl⟩
      | beginObject =>
          rw [parseValue] at hread
          split_ifs at hread with hend
          · obtain ⟨rfl, rfl⟩ := Prod.mk.inj (Option.some.inj hread)
            exact ⟨.object [], by rw [eq_cons_of_head? hend]; rfl, rfl⟩
          · obtain ⟨kjs, hmembers, rfl⟩ := expect_eq_some_iff.mp hread
            obtain ⟨ms, -, rfl, rfl⟩ := h.members hmembers
            exact ⟨.object ms, by simp [Tree.tokens], rfl⟩
      | endArray => cases hread
      | endObject => cases hread
      | nameSeparator => cases hread
      | valueSeparator => cases hread

/-- A first part, and what follows it up to the end of the others. -/
lemma Sound.parseElements_succ (h : Sound b n) {js : List J}
    (hread : parseElements b (n + 1) ts = some (js, rest)) :
    ∃ us : List (Tree A S), us ≠ [] ∧ ts = elementsTokens us ++ rest ∧ buildElements b us = js := by
  rw [parseElements, Option.bind_eq_some_iff] at hread
  obtain ⟨⟨j, ts'⟩, hfirst, hread⟩ := hread
  obtain ⟨t, rfl, rfl⟩ := h.value hfirst
  simp only at hread
  split_ifs at hread with hseparator
  · obtain ⟨⟨js', rest'⟩, hothers, heq⟩ := Option.map_eq_some_iff.mp hread
    obtain ⟨us, hne, htail, rfl⟩ := h.elements hothers
    obtain ⟨rfl, rfl⟩ := Prod.mk.inj heq
    obtain ⟨u, us, rfl⟩ := List.exists_cons_of_ne_nil hne
    refine ⟨t :: u :: us, List.cons_ne_nil _ _, ?_, rfl⟩
    rw [eq_cons_of_head? hseparator, htail]
    simp [elementsTokens, moreElements]
  · obtain ⟨rfl, rfl⟩ := Prod.mk.inj (Option.some.inj hread)
    exact ⟨[t], List.cons_ne_nil _ _, by simp [elementsTokens, moreElements], rfl⟩

lemma Sound.parseMembers_succ (h : Sound b n) {kjs : List (S × J)}
    (hread : parseMembers b (n + 1) ts = some (kjs, rest)) :
    ∃ ms : List (S × Tree A S), ms ≠ [] ∧ ts = membersTokens ms ++ rest ∧
      buildMembers b ms = kjs := by
  rw [parseMembers] at hread
  obtain ⟨⟨s, ts'⟩, hname, hread⟩ := Option.bind_eq_some_iff.mp hread
  obtain ⟨⟨j, ts''⟩, hfirst, hread⟩ := Option.bind_eq_some_iff.mp hread
  obtain rfl := of_memberName hname
  obtain ⟨t, rfl, rfl⟩ := h.value hfirst
  simp only at hread
  split_ifs at hread with hseparator
  · obtain ⟨⟨kjs', rest'⟩, hothers, heq⟩ := Option.map_eq_some_iff.mp hread
    obtain ⟨ms, hne, htail, rfl⟩ := h.members hothers
    obtain ⟨rfl, rfl⟩ := Prod.mk.inj heq
    obtain ⟨m, ms, rfl⟩ := List.exists_cons_of_ne_nil hne
    refine ⟨(s, t) :: m :: ms, List.cons_ne_nil _ _, ?_, rfl⟩
    rw [eq_cons_of_head? hseparator, htail]
    simp [membersTokens, moreMembers]
  · obtain ⟨rfl, rfl⟩ := Prod.mk.inj (Option.some.inj hread)
    exact ⟨[(s, t)], List.cons_ne_nil _ _, by simp [membersTokens, moreMembers], rfl⟩

lemma sound (n : ℕ) : Sound b n := by
  induction n with
  | zero =>
      constructor
      all_goals
        intro ts rest x h
        cases h
  | succ n ih => exact ⟨ih.parseValue_succ, ih.parseElements_succ, ih.parseMembers_succ⟩

/-- **The tokens that are accepted** are those of a derivation, and its value is the
answer. -/
theorem parse_eq_some_iff {j : J} :
    parse b ts = some j ↔ ∃ t : Tree A S, t.tokens = ts ∧ t.build b = j := by
  constructor
  · intro h
    obtain ⟨⟨j', rest⟩, hread, hend⟩ := Option.bind_eq_some_iff.mp h
    simp only at hend
    split_ifs at hend with hrest
    obtain ⟨t, rfl, rfl⟩ := (sound _).value hread
    rw [hrest, List.append_nil]
    exact ⟨t, rfl, Option.some.inj hend⟩
  · rintro ⟨t, rfl, rfl⟩
    have hread := parseValue_tokens (b := b) t _ [] le_rfl
    rw [List.append_nil] at hread
    rw [parse, hread]
    rfl

end Sound

end JsonGrammar
