import Mathlib

/-!
Lines that end in two symbols, and a header of lines that ends in an empty one.

* `breakLine`: the first line of a text, and what follows it;
* `readHeader`: the lines up to the empty one, and what follows that;
* `writeHeader`: lines, each with its end, and an empty one;
* `breakLine_append`, `exists_breakLine`: what is read of a line that holds no line
  end, and of one that does;
* `infix_append_iff`: where a line end is in a name and a value behind it;
* `readHeader_writeHeader_iff`: what is written is read back exactly if no line holds a
  line end.
-/

namespace Lines

variable {α : Type} [DecidableEq α] {cr lf : α}

/-- The first line of a text, without its end, and the rest of the text. -/
def breakLine (cr lf : α) : List α → Option (List α × List α)
  | [] => none
  | a :: text =>
      if a = cr ∧ text.head? = some lf then some ([], text.tail)
      else (breakLine cr lf text).map fun read => (a :: read.1, read.2)

/-- The lines up to the first empty one, of which there are fewer than `n`, and the
rest of the text. -/
def readHeader (cr lf : α) : ℕ → List α → Option (List (List α) × List α)
  | 0, _ => none
  | n + 1, text =>
      (breakLine cr lf text).bind fun read =>
        if read.1 = [] then some ([], read.2)
        else (readHeader cr lf n read.2).map fun others => (read.1 :: others.1, others.2)

/-- The lines of a header with their ends, and the rest of the text. -/
def writeHeader (cr lf : α) (lines : List (List α)) (rest : List α) : List α :=
  lines.flatMap (fun line => line ++ [cr, lf]) ++ [cr, lf] ++ rest

omit [DecidableEq α] in
lemma writeHeader_cons (line : List α) (lines : List (List α)) (rest : List α) :
    writeHeader cr lf (line :: lines) rest = line ++ cr :: lf :: writeHeader cr lf lines rest := by
  simp [writeHeader]

omit [DecidableEq α] in
/-- There are more symbols than lines. -/
lemma length_lt_writeHeader (lines : List (List α)) (rest : List α) :
    lines.length < (writeHeader cr lf lines rest).length := by
  induction lines with
  | nil => simp [writeHeader]
  | cons line lines ih =>
      rw [writeHeader_cons]
      simp only [List.length_append, List.length_cons]
      omega

lemma breakLine_nil_append (rest : List α) :
    breakLine cr lf (cr :: lf :: rest) = some ([], rest) := by
  simp [breakLine]

/-- A symbol that does not begin a line end. -/
lemma breakLine_cons {a : α} {text : List α} (h : ¬(a = cr ∧ text.head? = some lf)) :
    breakLine cr lf (a :: text)
      = (breakLine cr lf text).map fun read => (a :: read.1, read.2) := by
  rw [breakLine, if_neg h]

/-- **A line without a line end** is read up to its end. -/
lemma breakLine_append (hne : cr ≠ lf) {line : List α} (hline : ¬[cr, lf] <:+: line)
    (rest : List α) : breakLine cr lf (line ++ cr :: lf :: rest) = some (line, rest) := by
  induction line with
  | nil => exact breakLine_nil_append rest
  | cons a line ih =>
      rw [List.infix_cons_iff, not_or] at hline
      have hnot : ¬(a = cr ∧ (line ++ cr :: lf :: rest).head? = some lf) := by
        rintro ⟨rfl, hhead⟩
        cases line with
        | nil => exact hne (Option.some.inj hhead)
        | cons b line =>
            obtain rfl : b = lf := Option.some.inj hhead
            exact hline.1 ⟨line, rfl⟩
      rw [List.cons_append, breakLine_cons hnot, ih hline.2]
      rfl

/-- **A line with a line end** is read up to the first one. -/
lemma exists_breakLine {line : List α} (hline : [cr, lf] <:+: line) (rest : List α) :
    ∃ first others, line = first ++ cr :: lf :: others ∧
      breakLine cr lf (line ++ rest) = some (first, others ++ rest) := by
  induction line with
  | nil => exact absurd (List.infix_nil.mp hline) (List.cons_ne_nil _ _)
  | cons a line ih =>
      by_cases hstart : a = cr ∧ (line ++ rest).head? = some lf ∧ line ≠ []
      · obtain ⟨rfl, hhead, hline⟩ := hstart
        obtain ⟨b, line, rfl⟩ := List.exists_cons_of_ne_nil hline
        obtain rfl : b = lf := Option.some.inj hhead
        exact ⟨[], line, rfl, breakLine_nil_append (line ++ rest)⟩
      · have hrest : [cr, lf] <:+: line := by
          rcases List.infix_cons_iff.mp hline with ⟨others, hprefix⟩ | hrest
          · obtain ⟨rfl, rfl⟩ := List.cons.inj hprefix
            exact absurd ⟨rfl, rfl, List.cons_ne_nil _ _⟩ hstart
          · exact hrest
        have hne : line ≠ [] := fun hnil => by
          rw [hnil, List.infix_nil] at hrest
          cases hrest
        obtain ⟨first, others, hfirst, hread⟩ := ih hrest
        refine ⟨a :: first, others, by rw [hfirst]; rfl, ?_⟩
        rw [List.cons_append, breakLine_cons fun h => hstart ⟨h.1, h.2, hne⟩, hread]
        rfl

omit [DecidableEq α] in
/-- A line end in a name and a value is in the value if the name cannot begin one. -/
lemma infix_append_iff {name : List α} (h : cr ∉ name) (value : List α) :
    [cr, lf] <:+: name ++ value ↔ [cr, lf] <:+: value := by
  induction name with
  | nil => rfl
  | cons a name ih =>
      rw [List.mem_cons, not_or] at h
      rw [List.cons_append, List.infix_cons_iff, ih h.2, or_iff_right]
      intro hprefix
      exact h.1 (List.cons_prefix_cons.mp hprefix).1

/-- **A header is read back exactly if no line of it holds a line end.** -/
theorem readHeader_writeHeader_iff (hne : cr ≠ lf) {n : ℕ} {lines : List (List α)}
    (hlines : ∀ line ∈ lines, line ≠ []) (hn : lines.length < n) (rest : List α) :
    readHeader cr lf n (writeHeader cr lf lines rest) = some (lines, rest) ↔
      ∀ line ∈ lines, ¬[cr, lf] <:+: line := by
  induction lines generalizing n with
  | nil =>
      obtain ⟨n, rfl⟩ : ∃ m, n = m + 1 := ⟨n - 1, by rw [List.length_nil] at hn; omega⟩
      rw [readHeader]
      simp [writeHeader, breakLine_nil_append]
  | cons line lines ih =>
      rw [List.forall_mem_cons] at hlines
      obtain ⟨n, rfl⟩ : ∃ m, n = m + 1 := ⟨n - 1, by rw [List.length_cons] at hn; omega⟩
      have hn : lines.length < n := by simpa using hn
      rw [writeHeader_cons, readHeader, List.forall_mem_cons]
      by_cases hline : [cr, lf] <:+: line
      · -- something shorter than the line is read
        obtain ⟨first, others, hfirst, hread⟩ :=
          exists_breakLine hline (cr :: lf :: writeHeader cr lf lines rest)
        have hshort : first ≠ line := fun heq => by
          have hlength := congrArg List.length (heq ▸ hfirst)
          simp at hlength
        rw [hread, Option.bind_some]
        refine iff_of_false (fun heq => ?_) fun h => h.1 hline
        split_ifs at heq with hnil
        · cases heq
        · obtain ⟨others', -, hothers⟩ := Option.map_eq_some_iff.mp heq
          exact hshort (List.cons.inj (Prod.mk.inj hothers).1).1
      · rw [breakLine_append hne hline, Option.bind_some, if_neg hlines.1, ← ih hlines.2 hn]
        simp only [hline, not_false_eq_true, true_and, Option.map_eq_some_iff, Prod.mk.injEq,
          List.cons.injEq, Prod.exists]
        constructor
        · rintro ⟨lines', rest', hread, rfl, rfl⟩
          exact hread
        · exact fun hread => ⟨lines, rest, hread, rfl, rfl⟩

end Lines
