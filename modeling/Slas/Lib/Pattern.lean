import Mathlib

/-!
Regular expressions that are read from left to right without a choice: single
characters and starred classes of characters, of which some are captured.

* `Piece`: what such an expression is a list of;
* `Matches`: the texts it stands for, with what the groups capture;
* `regexMatch`: the search that `std::regex_match` makes, the longest run first;
* `Separated`, `Matches.unique`: if no run can go on into what follows it, a text has
  one match only, and `regexMatch_eq_some_iff`, that the search finds it.
-/

namespace Pattern

variable {α β : Type*}

/-- A part of a regular expression. -/
inductive Piece (α : Type*) where
  | char (a : α)
  | run (p : α → Bool)
  | group (p : α → Bool)

/-- `Matches pieces text groups`: the text is a text of the expression, and the groups
capture `groups`. -/
inductive Matches : List (Piece α) → List α → List (List α) → Prop
  | nil : Matches [] [] []
  | char {pieces text groups} (a : α) (h : Matches pieces text groups) :
      Matches (.char a :: pieces) (a :: text) groups
  | run {pieces text groups} {p : α → Bool} {u : List α} (hu : ∀ a ∈ u, p a)
      (h : Matches pieces text groups) : Matches (.run p :: pieces) (u ++ text) groups
  | group {pieces text groups} {p : α → Bool} {u : List α} (hu : ∀ a ∈ u, p a)
      (h : Matches pieces text groups) :
      Matches (.group p :: pieces) (u ++ text) (u :: groups)

lemma matches_nil_iff {text : List α} {groups : List (List α)} :
    Matches [] text groups ↔ text = [] ∧ groups = [] := by
  constructor
  · rintro ⟨⟩
    exact ⟨rfl, rfl⟩
  · rintro ⟨rfl, rfl⟩
    exact .nil

lemma matches_char_iff {a : α} {pieces : List (Piece α)} {text : List α}
    {groups : List (List α)} :
    Matches (.char a :: pieces) text groups ↔ ∃ rest, text = a :: rest ∧
      Matches pieces rest groups := by
  constructor
  · rintro ⟨⟩
    exact ⟨_, rfl, ‹_›⟩
  · rintro ⟨rest, rfl, h⟩
    exact .char a h

lemma matches_group_iff {p : α → Bool} {pieces : List (Piece α)} {text : List α}
    {groups : List (List α)} :
    Matches (.group p :: pieces) text groups ↔ ∃ u rest others, (∀ a ∈ u, p a) ∧
      text = u ++ rest ∧ groups = u :: others ∧ Matches pieces rest others := by
  constructor
  · rintro ⟨⟩
    exact ⟨_, _, _, ‹_›, rfl, rfl, ‹_›⟩
  · rintro ⟨u, rest, others, hu, rfl, rfl, h⟩
    exact .group hu h

/-! ### Expressions with one match only -/

/-- What the expression goes on with, if with anything, is not in the class. -/
def StartsOutside (p : α → Bool) : List (Piece α) → Prop
  | [] => True
  | .char a :: _ => p a = false
  | .run _ :: _ | .group _ :: _ => False

/-- Every run ends where a character outside its class has to follow. -/
def Separated : List (Piece α) → Prop
  | [] => True
  | .char _ :: pieces => Separated pieces
  | .run p :: pieces | .group p :: pieces => StartsOutside p pieces ∧ Separated pieces

lemma takeWhile_of_startsOutside {p : α → Bool} {pieces : List (Piece α)} {u text : List α}
    {groups : List (List α)} (hp : StartsOutside p pieces) (hu : ∀ a ∈ u, p a)
    (h : Matches pieces text groups) : (u ++ text).takeWhile p = u := by
  rw [List.takeWhile_append_of_pos hu]
  cases h with
  | nil => simp
  | char a h => simp [show p a = false from hp]
  | run hu h => exact hp.elim
  | group hu h => exact hp.elim

/-- A run is as long as it can be. -/
lemma eq_of_append_eq {p : α → Bool} {pieces : List (Piece α)} {u u' text text' : List α}
    {groups groups' : List (List α)} (hp : StartsOutside p pieces) (hu : ∀ a ∈ u, p a)
    (hu' : ∀ a ∈ u', p a) (h : Matches pieces text groups) (h' : Matches pieces text' groups')
    (heq : u ++ text = u' ++ text') : u = u' ∧ text = text' := by
  have huu' : u = u' := by
    rw [← takeWhile_of_startsOutside hp hu h, heq, takeWhile_of_startsOutside hp hu' h']
  subst huu'
  exact ⟨rfl, List.append_cancel_left heq⟩

lemma Matches.unique {pieces : List (Piece α)} {text : List α} {groups groups' : List (List α)}
    (hsep : Separated pieces) (h : Matches pieces text groups)
    (h' : Matches pieces text groups') : groups = groups' := by
  induction h generalizing groups' with
  | nil =>
      cases h'
      rfl
  | char a h ih =>
      cases h' with
      | char _ h' => exact ih hsep h'
  | @run pieces text groups p u hu h ih =>
      generalize heq : u ++ text = whole at h'
      cases h' with
      | @run _ text' _ _ u' hu' h' =>
          obtain ⟨rfl, rfl⟩ := eq_of_append_eq hsep.1 hu hu' h h' heq
          exact ih hsep.2 h'
  | @group pieces text groups p u hu h ih =>
      generalize heq : u ++ text = whole at h'
      cases h' with
      | @group _ text' _ _ u' hu' h' =>
          obtain ⟨rfl, rfl⟩ := eq_of_append_eq hsep.1 hu hu' h h' heq
          rw [ih hsep.2 h']

/-! ### The search -/

/-- The longest run of characters of `p` after which the rest can be matched. -/
def longest (p : α → Bool) (rest : List α → Option β) : List α → Option (List α × β)
  | [] => (rest []).map fun b => ([], b)
  | a :: text =>
      match if p a then longest p rest text else none with
      | some (u, b) => some (a :: u, b)
      | none => (rest (a :: text)).map fun b => ([], b)

/-- `std::regex_match`; the result is what the groups capture. -/
def regexMatch [DecidableEq α] : List (Piece α) → List α → Option (List (List α))
  | [], [] => some []
  | [], _ :: _ => none
  | .char _ :: _, [] => none
  | .char a :: pieces, b :: text => if a = b then regexMatch pieces text else none
  | .run p :: pieces, text => (longest p (regexMatch pieces) text).map fun found => found.2
  | .group p :: pieces, text =>
      (longest p (regexMatch pieces) text).map fun found => found.1 :: found.2

/-- `match[i]`, the empty string if there is no such group. -/
def subMatch (groups : List (List α)) (i : ℕ) : List α := groups.getD (i - 1) []

lemma longest_eq_some {p : α → Bool} {rest : List α → Option β} {text u : List α} {b : β}
    (h : longest p rest text = some (u, b)) :
    ∃ t, text = u ++ t ∧ (∀ a ∈ u, p a) ∧ rest t = some b := by
  induction text generalizing u with
  | nil =>
      obtain ⟨_, hb, heq⟩ := Option.map_eq_some_iff.mp h
      obtain ⟨rfl, rfl⟩ := Prod.mk.inj heq
      exact ⟨[], rfl, by simp, hb⟩
  | cons a text ih =>
      rw [longest] at h
      split at h
      case h_1 v c hv =>
        split_ifs at hv with ha
        obtain ⟨rfl, rfl⟩ := Prod.mk.inj (Option.some.inj h)
        obtain ⟨t, rfl, hvp, ht⟩ := ih hv
        refine ⟨t, rfl, fun x hx => ?_, ht⟩
        rcases List.mem_cons.mp hx with rfl | hx
        · exact ha
        · exact hvp x hx
      case h_2 =>
        obtain ⟨_, hb, heq⟩ := Option.map_eq_some_iff.mp h
        obtain ⟨rfl, rfl⟩ := Prod.mk.inj heq
        exact ⟨a :: text, rfl, by simp, hb⟩

lemma isSome_longest {p : α → Bool} {rest : List α → Option β} {u t : List α}
    (hu : ∀ a ∈ u, p a) (ht : (rest t).isSome) : (longest p rest (u ++ t)).isSome := by
  induction u with
  | nil =>
      cases t with
      | nil => simpa [longest] using ht
      | cons a t =>
          rw [List.nil_append, longest]
          split <;> simp [ht]
  | cons a u ih =>
      obtain ⟨found, hfound⟩ := Option.isSome_iff_exists.mp
        (ih fun x hx => hu x (List.mem_cons_of_mem _ hx))
      simp [longest, hu a (List.mem_cons_self ..), hfound]

variable [DecidableEq α]

lemma matches_of_regexMatch {pieces : List (Piece α)} {text : List α} {groups : List (List α)}
    (h : regexMatch pieces text = some groups) : Matches pieces text groups := by
  induction pieces generalizing text groups with
  | nil =>
      cases text with
      | nil =>
          obtain rfl := Option.some.inj h
          exact .nil
      | cons b text => exact absurd h (by simp [regexMatch])
  | cons piece pieces ih =>
      cases piece with
      | char a =>
          cases text with
          | nil => exact absurd h (by simp [regexMatch])
          | cons b text =>
              rw [regexMatch] at h
              split_ifs at h with hab
              obtain rfl := hab
              exact .char a (ih h)
      | run p =>
          obtain ⟨⟨u, g⟩, hfound, rfl⟩ := Option.map_eq_some_iff.mp h
          obtain ⟨t, rfl, hu, ht⟩ := longest_eq_some hfound
          exact .run hu (ih ht)
      | group p =>
          obtain ⟨⟨u, g⟩, hfound, rfl⟩ := Option.map_eq_some_iff.mp h
          obtain ⟨t, rfl, hu, ht⟩ := longest_eq_some hfound
          exact .group hu (ih ht)

lemma isSome_regexMatch {pieces : List (Piece α)} {text : List α} {groups : List (List α)}
    (h : Matches pieces text groups) : (regexMatch pieces text).isSome := by
  induction h with
  | nil => rfl
  | char a h ih => simpa [regexMatch] using ih
  | run hu h ih => simpa [regexMatch] using isSome_longest hu ih
  | group hu h ih => simpa [regexMatch] using isSome_longest hu ih

/-- Of a separated expression the search finds the one match there is. -/
theorem regexMatch_eq_some_iff {pieces : List (Piece α)} (hsep : Separated pieces)
    {text : List α} {groups : List (List α)} :
    regexMatch pieces text = some groups ↔ Matches pieces text groups := by
  constructor
  · exact matches_of_regexMatch
  · intro h
    obtain ⟨groups', h'⟩ := Option.isSome_iff_exists.mp (isSome_regexMatch h)
    rw [h', h.unique hsep (matches_of_regexMatch h')]

end Pattern
