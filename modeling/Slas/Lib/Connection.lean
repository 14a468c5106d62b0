import Mathlib

/-!
One connection to a transactional store.

* `Connection`: the data, and the data a `rollback` would bring back;
* `Statement`, `step`: what one statement does, if it does not fail;
* `execute`: a text of several statements, which stops at the first that fails
  and leaves the connection as that statement found it;
* `execute_writes`, `execute_transaction`: what becomes of plain writes and of
  writes between `begin` and `commit`, whichever statement fails;
* `execute_tryAll`: the same for writes that a constraint may refuse;
* `execute_text_data`, `execute_text_ok_iff`: what a transaction in one text leaves,
  wherever it stops, and when it is executed to its end;
* `step_cases`, `execute_keeps`: what a statement does, and what a text keeps;
* `All`: a property of the data that a `rollback` keeps, too;
* `Writes`: what has become of a connection by writes that stay in a relation;
* `Advances`: the same without a `rollback`, so that the data is not set back.
-/

/-- The data seen on the connection, and what it was when the transaction that
is open began. -/
structure Connection (δ : Type) where
  data : δ
  saved : Option δ
  deriving DecidableEq

/-- A statement. A write may be refused by a constraint. -/
inductive Statement (δ : Type) where
  | begin
  | commit
  | rollback
  | write (f : δ → Option δ)

namespace Connection

variable {δ : Type}

/-- No transaction is open. -/
def Idle (c : Connection δ) : Prop := c.saved = none

/-- What is left of the data if the connection is lost. -/
def committed (c : Connection δ) : δ := c.saved.getD c.data

@[simp] lemma committed_idle (d : δ) : (⟨d, none⟩ : Connection δ).committed = d := rfl

@[simp] lemma committed_open (d d' : δ) : (⟨d', some d⟩ : Connection δ).committed = d := rfl

/-- What a statement does; `none` when it fails, and then nothing changes. -/
def step (c : Connection δ) : Statement δ → Option (Connection δ)
  | .begin => if c.saved = none then some { c with saved := some c.data } else none
  | .commit => if c.saved = none then none else some { c with saved := none }
  | .rollback => c.saved.map fun d => ⟨d, none⟩
  | .write f => (f c.data).map fun d => { c with data := d }

/-- Several statements in one text. `fault` is the number of the statement the
environment makes fail. The flag tells whether all of them were executed. -/
def execute : Option ℕ → List (Statement δ) → Connection δ → Bool × Connection δ
  | _, [], c => (true, c)
  | some 0, _ :: _, c => (false, c)
  | fault, st :: sts, c =>
      match c.step st with
      | none => (false, c)
      | some c' => execute (fault.map (· - 1)) sts c'

@[simp] lemma execute_nil (fault : Option ℕ) (c : Connection δ) :
    execute fault [] c = (true, c) := by
  cases fault <;> rfl

@[simp] lemma execute_fault_zero (st : Statement δ) (sts : List (Statement δ))
    (c : Connection δ) : execute (some 0) (st :: sts) c = (false, c) := rfl

@[simp] lemma execute_fault_succ (k : ℕ) (st : Statement δ) (sts : List (Statement δ))
    (c : Connection δ) : execute (some (k + 1)) (st :: sts) c = match c.step st with
      | none => (false, c)
      | some c' => execute (some k) sts c' := rfl

@[simp] lemma execute_none (st : Statement δ) (sts : List (Statement δ)) (c : Connection δ) :
    execute none (st :: sts) c = match c.step st with
      | none => (false, c)
      | some c' => execute none sts c' := rfl

/-- The only statement of a text is the one that is made to fail. -/
lemma execute_singleton_fault (k : ℕ) (st : Statement δ) (c : Connection δ) :
    execute (some (min k ([st].length - 1))) [st] c = (false, c) := by
  rw [List.length_singleton, Nat.sub_self, Nat.min_zero, execute_fault_zero]

section Open

variable {c : Connection δ} {d : δ}

lemma committed_of_saved (hc : c.saved = some d) : c.committed = d := by
  rw [committed, hc]
  rfl

lemma execute_commit (hc : c.saved = some d) :
    execute none [.commit] c = (true, { c with saved := none }) := by
  have hstep : c.step .commit = some { c with saved := none } := if_neg (by simp [hc])
  simp only [execute_none, hstep, execute_nil]

end Open

/-- A text one statement of which is made to fail is not executed to its end. -/
lemma execute_fault_lt {k : ℕ} {sts : List (Statement δ)} (hk : k < sts.length)
    (c : Connection δ) : (execute (some k) sts c).1 = false := by
  induction sts generalizing k c with
  | nil => exact absurd hk (Nat.not_lt_zero k)
  | cons st sts ih =>
      cases k with
      | zero => rfl
      | succ k =>
          rw [execute_fault_succ]
          cases c.step st with
          | none => rfl
          | some c' => exact ih (Nat.lt_of_succ_lt_succ hk) c'

/-- Writes no constraint refuses, one after another. -/
def writes (fs : List (δ → δ)) : List (Statement δ) :=
  fs.map fun f => .write fun d => some (f d)

/-- What the writes make of the data. -/
def applyAll (fs : List (δ → δ)) (d : δ) : δ := fs.foldl (fun d f => f d) d

/-- Writes followed by other statements: either all of them are made, or the
text ends after some of them. -/
lemma execute_writes (fs : List (δ → δ)) (rest : List (Statement δ)) (fault : Option ℕ)
    (c : Connection δ) :
    (∃ fault', (fault = none → fault' = none) ∧ execute fault (writes fs ++ rest) c
        = execute fault' rest { c with data := applyAll fs c.data }) ∨
      (fault ≠ none ∧ ∃ k < fs.length, execute fault (writes fs ++ rest) c
        = (false, { c with data := applyAll (fs.take k) c.data })) := by
  induction fs generalizing fault c with
  | nil => exact .inl ⟨fault, id, rfl⟩
  | cons f fs ih =>
      have hcons : writes (f :: fs) ++ rest
          = .write (fun d => some (f d)) :: (writes fs ++ rest) := rfl
      have hstep : c.step (.write fun d => some (f d)) = some { c with data := f c.data } := rfl
      rcases fault with _ | _ | k
      · rw [hcons, execute_none, hstep]
        rcases ih none { c with data := f c.data } with h | ⟨h, -⟩
        · exact .inl h
        · exact absurd rfl h
      · exact .inr ⟨by simp, 0, by simp, rfl⟩
      · rw [hcons, execute_fault_succ, hstep]
        rcases ih (some k) { c with data := f c.data } with ⟨fault', -, h⟩ | ⟨-, j, hj, h⟩
        · exact .inl ⟨fault', by simp, h⟩
        · exact .inr ⟨by simp, j + 1, by simpa using hj, h⟩

/-- A whole transaction on an idle connection: it is made, it never began, or it
stays open and can still be rolled back to where it began. -/
lemma execute_transaction (fs : List (δ → δ)) (fault : Option ℕ) {c : Connection δ}
    (hc : c.Idle) :
    execute fault (.begin :: (writes fs ++ [Statement.commit])) c
      = (true, ⟨applyAll fs c.data, none⟩) ∨
      (fault ≠ none ∧ execute fault (.begin :: (writes fs ++ [Statement.commit])) c = (false, c)) ∨
      (fault ≠ none ∧ ∃ k ≤ fs.length, execute fault (.begin :: (writes fs ++ [Statement.commit])) c
        = (false, ⟨applyAll (fs.take k) c.data, some c.data⟩)) := by
  have hstep : c.step .begin = some { c with saved := some c.data } := if_pos hc
  suffices hbody : ∀ fault',
      execute fault' (writes fs ++ [Statement.commit]) { c with saved := some c.data }
        = (true, ⟨applyAll fs c.data, none⟩) ∨
      (fault' ≠ none ∧ ∃ k ≤ fs.length,
        execute fault' (writes fs ++ [Statement.commit]) { c with saved := some c.data }
        = (false, ⟨applyAll (fs.take k) c.data, some c.data⟩)) by
    rcases fault with _ | _ | k
    · rw [execute_none, hstep]
      exact (hbody none).imp_right fun h => .inr h
    · exact .inr (.inl ⟨by simp, rfl⟩)
    · rw [execute_fault_succ, hstep]
      exact (hbody (some k)).imp_right fun h => .inr ⟨by simp, h.2⟩
  intro fault'
  rcases execute_writes fs [Statement.commit] fault' { c with saved := some c.data } with
    ⟨fault'', hnone, h⟩ | ⟨hne, k, hk, h⟩
  · rw [h]
    rcases fault'' with _ | _ | k
    · exact .inl rfl
    · exact .inr ⟨fun h0 =>
        by simpa using hnone h0, fs.length, le_rfl, by rw [List.take_length]; rfl⟩
    · exact .inl rfl
  · exact .inr ⟨hne, k, hk.le, h⟩

/-- Writes that a constraint may refuse, one after another. -/
def tryAll (fs : List (δ → Option δ)) (d : δ) : Option δ := fs.foldlM (fun d f => f d) d

/-- Writes that may be refused, and the end of their transaction: all of it is
executed exactly if nothing is made to fail and nothing is refused. -/
lemma execute_tryAll (fs : List (δ → Option δ)) (fault : Option ℕ)
    (hfault : ∀ k ∈ fault, k ≤ fs.length) {c : Connection δ} (hc : c.saved ≠ none) :
    (fault = none ∧ ∃ d, tryAll fs c.data = some d ∧
      execute fault (fs.map Statement.write ++ [Statement.commit]) c = (true, ⟨d, none⟩)) ∨
    ((fault ≠ none ∨ tryAll fs c.data = none) ∧ ∃ d,
      execute fault (fs.map Statement.write ++ [Statement.commit]) c = (false, ⟨d, c.saved⟩)) := by
  induction fs generalizing fault c with
  | nil =>
      cases fault with
      | none => exact .inl ⟨rfl, c.data, rfl, by simp [step, hc]⟩
      | some k =>
          obtain rfl : k = 0 := Nat.le_zero.mp (hfault k rfl)
          exact .inr ⟨.inl (by simp), c.data, rfl⟩
  | cons f fs ih =>
      have hstep : c.step (.write f) = (f c.data).map fun d => { c with data := d } := rfl
      have hall : tryAll (f :: fs) c.data = (f c.data).bind (tryAll fs) := rfl
      have hcons : (f :: fs).map Statement.write ++ [Statement.commit]
          = .write f :: (fs.map Statement.write ++ [Statement.commit]) := rfl
      rcases fault with _ | _ | k
      · rw [hcons, execute_none, hstep, hall]
        cases hf : f c.data with
        | none => exact .inr ⟨.inr rfl, c.data, rfl⟩
        | some d => exact ih none (fun _ h => nomatch h) (c := { c with data := d }) hc
      · exact .inr ⟨.inl (by simp), c.data, rfl⟩
      · rw [hcons, execute_fault_succ, hstep]
        cases hf : f c.data with
        | none => exact .inr ⟨.inl (by simp), c.data, rfl⟩
        | some d =>
            have hk : ∀ j ∈ some k, j ≤ fs.length := by
              rintro j ⟨⟩
              exact Nat.le_of_succ_le_succ (hfault (k + 1) rfl)
            rcases ih (some k) hk (c := { c with data := d }) hc with ⟨h, -⟩ | ⟨-, h⟩
            · cases h
            · exact .inr ⟨.inl (by simp), h⟩

/-- Writes no constraint refuses are all made. -/
lemma tryAll_writes (fs : List (δ → δ)) (d : δ) :
    tryAll (fs.map fun f d => some (f d)) d = some (applyAll fs d) := by
  induction fs generalizing d with
  | nil => rfl
  | cons f fs ih => exact ih (f d)

/-- What writes make of the data up to the first that is refused. -/
def untilRefused : List (δ → Option δ) → δ → δ
  | [], d => d
  | f :: fs, d => match f d with
    | none => d
    | some d' => untilRefused fs d'

@[simp] lemma untilRefused_nil (d : δ) : untilRefused [] d = d := rfl

lemma untilRefused_cons (f : δ → Option δ) (fs : List (δ → Option δ)) (d : δ) :
    untilRefused (f :: fs) d = ((f d).map (untilRefused fs)).getD d := by
  rw [untilRefused]
  cases f d <;> rfl

/-- Writes no constraint refuses are all made. -/
lemma untilRefused_writes (fs : List (δ → δ)) (d : δ) :
    untilRefused (fs.map fun f d => some (f d)) d = applyAll fs d := by
  induction fs generalizing d with
  | nil => rfl
  | cons f fs ih => exact ih (f d)

/-- What comes before the statement that is made to fail. -/
def beforeFault {α : Type} : Option ℕ → List α → List α
  | none, l => l
  | some k, l => l.take k

lemma beforeFault_map {α β : Type} (fault : Option ℕ) (g : α → β) (l : List α) :
    beforeFault fault (l.map g) = (beforeFault fault l).map g := by
  cases fault with
  | none => rfl
  | some k => exact List.map_take.symm

/-- The writes of a transaction in one text that are tried: none if a transaction is
open already, and otherwise those before the statement that is made to fail. -/
def tried {α : Type} (c : Connection δ) (fault : Option ℕ) (fs : List α) : List α :=
  if c.saved = none then beforeFault (fault.map (· - 1)) fs else []

lemma tried_of_idle {α : Type} {c : Connection δ} (hc : c.Idle) (fault : Option ℕ) (fs : List α) :
    c.tried fault fs = beforeFault (fault.map (· - 1)) fs := if_pos hc

/-- Without a failure all of them are tried. -/
lemma tried_none {α : Type} {c : Connection δ} (hc : c.Idle) (fs : List α) : c.tried none fs = fs :=
  tried_of_idle hc none fs

lemma tried_map {α β : Type} (c : Connection δ) (fault : Option ℕ) (g : α → β) (l : List α) :
    c.tried fault (l.map g) = (c.tried fault l).map g := by
  rw [tried, tried]
  split_ifs
  · exact beforeFault_map _ g l
  · rfl

/-- The writes of an open transaction and what ends it: the data, wherever they stop. -/
lemma execute_commit_data (fs : List (δ → Option δ)) (fault : Option ℕ) {c : Connection δ}
    (hc : c.saved ≠ none) :
    (execute fault (fs.map Statement.write ++ [Statement.commit]) c).2.data
      = untilRefused (beforeFault fault fs) c.data := by
  induction fs generalizing fault c with
  | nil =>
      have hstep : c.step .commit = some { c with saved := none } := if_neg hc
      rcases fault with _ | _ | k
      · rw [List.map_nil, List.nil_append, execute_none, hstep]
        rfl
      · rfl
      · rw [List.map_nil, List.nil_append, execute_fault_succ, hstep]
        rfl
  | cons f fs ih =>
      have hstep : c.step (.write f) = (f c.data).map fun d => { c with data := d } := rfl
      rcases fault with _ | _ | k
      · rw [List.map_cons, List.cons_append, execute_none, hstep, beforeFault, untilRefused_cons]
        cases hf : f c.data with
        | none => rfl
        | some d => exact ih none (c := { c with data := d }) hc
      · rfl
      · rw [List.map_cons, List.cons_append, execute_fault_succ, hstep, beforeFault,
          List.take_succ_cons, untilRefused_cons]
        cases hf : f c.data with
        | none => rfl
        | some d => exact ih (some k) (c := { c with data := d }) hc

/-- **The data a transaction in one text leaves**, wherever it stops: the writes that
are tried, up to the first that is refused. -/
lemma execute_text_data (fs : List (δ → Option δ)) (fault : Option ℕ) (c : Connection δ) :
    (execute fault (.begin :: (fs.map Statement.write ++ [Statement.commit])) c).2.data
      = untilRefused (tried c fault fs) c.data := by
  by_cases hc : c.saved = none
  · have hstep : c.step .begin = some { c with saved := some c.data } := if_pos hc
    rw [tried, if_pos hc]
    rcases fault with _ | _ | k
    · rw [execute_none, hstep]
      exact execute_commit_data fs none (c := { c with saved := some c.data }) (by simp)
    · rfl
    · rw [execute_fault_succ, hstep]
      exact execute_commit_data fs (some k) (c := { c with saved := some c.data }) (by simp)
  · have hstep : c.step .begin = none := if_neg hc
    rw [tried, if_neg hc]
    rcases fault with _ | _ | k
    · rw [execute_none, hstep]
      rfl
    · rfl
    · rw [execute_fault_succ, hstep]
      rfl

/-- It is executed to its end exactly if no transaction is open before, nothing is
made to fail and nothing is refused. -/
lemma execute_text_ok_iff (fs : List (δ → Option δ)) {fault : Option ℕ}
    (hfault : ∀ k ∈ fault, k ≤ fs.length + 1) (c : Connection δ) :
    (execute fault (.begin :: (fs.map Statement.write ++ [Statement.commit])) c).1 = true ↔
      c.Idle ∧ fault = none ∧ (tryAll fs c.data).isSome := by
  by_cases hc : c.saved = none
  · have hstep : c.step .begin = some { c with saved := some c.data } := if_pos hc
    rcases fault with _ | k
    · rw [execute_none, hstep]
      rcases execute_tryAll fs none (fun _ h => nomatch h)
        (c := { c with saved := some c.data }) (by simp) with ⟨-, d, hall, hexec⟩ | ⟨hall, d, hexec⟩
      · simp only [hexec]
        exact iff_of_true trivial ⟨hc, trivial, by rw [hall]; rfl⟩
      · have hnone : tryAll fs c.data = none := hall.resolve_left fun h => h rfl
        simp only [hexec, hnone]
        exact iff_of_false (by simp) (by simp)
    · have hlt : k < (Statement.begin ::
        (fs.map Statement.write ++ [Statement.commit])).length := by
        have := hfault k rfl
        simp only [List.length_cons, List.length_append, List.length_map, List.length_nil]
        omega
      rw [execute_fault_lt hlt]
      exact iff_of_false (by simp) (by simp)
  · have hstep : c.step .begin = none := if_neg hc
    refine iff_of_false ?_ fun h => hc h.1
    rcases fault with _ | _ | k
    · rw [execute_none, hstep]
      exact Bool.false_ne_true
    · exact Bool.false_ne_true
    · rw [execute_fault_succ, hstep]
      exact Bool.false_ne_true

/-- No transaction is open after it exactly if it does not begin or is executed to its
end. -/
lemma idle_execute_text_iff {fs : List (δ → Option δ)} {fault : Option ℕ}
    (hfault : ∀ k ∈ fault, k ≤ fs.length + 1) {c : Connection δ} (hc : c.Idle) :
    (execute fault (.begin :: (fs.map Statement.write ++ [Statement.commit])) c).2.Idle ↔
      fault = some 0 ∨
        (execute fault (.begin :: (fs.map Statement.write ++ [Statement.commit])) c).1 = true := by
  have hstep : c.step .begin = some { c with saved := some c.data } := if_pos hc
  have hbegun : ∀ {fault : Option ℕ}, (∀ k ∈ fault, k ≤ fs.length) →
      ((execute fault (fs.map Statement.write ++ [Statement.commit])
        { c with saved := some c.data }).2.Idle ↔
          (execute fault (fs.map Statement.write ++ [Statement.commit])
            { c with saved := some c.data }).1 = true) := by
    intro fault hle
    rcases execute_tryAll fs fault hle (c := { c with saved := some c.data }) (by simp)
      with ⟨-, d, -, hexec⟩ | ⟨-, d, hexec⟩
    · rw [hexec]
      exact iff_of_true rfl rfl
    · rw [hexec]
      exact iff_of_false (by simp [Idle]) Bool.false_ne_true
  rcases fault with _ | _ | k
  · rw [execute_none, hstep, or_iff_right (by simp)]
    exact hbegun (by simp)
  · exact iff_of_true hc (.inl rfl)
  · rw [execute_fault_succ, hstep, or_iff_right (by simp)]
    refine hbegun ?_
    rintro j ⟨⟩
    exact Nat.le_of_succ_le_succ (hfault (k + 1) rfl)

/-- No transaction is open after a text that has been executed to its end. -/
lemma idle_execute_text {fs : List (δ → Option δ)} {fault : Option ℕ}
    (hfault : ∀ k ∈ fault, k ≤ fs.length + 1) {c : Connection δ}
    (h : (execute fault (.begin :: (fs.map Statement.write ++ [Statement.commit])) c).1 = true) :
    (execute fault (.begin :: (fs.map Statement.write ++ [Statement.commit])) c).2.Idle :=
  (idle_execute_text_iff hfault ((execute_text_ok_iff fs hfault c).mp h).1).mpr (.inr h)

/-! ### Invariants of the data -/

/-- The data has a property, and so has what a `rollback` brings back. -/
def All (P : δ → Prop) (c : Connection δ) : Prop := P c.data ∧ ∀ d ∈ c.saved, P d

/-- What a statement that does not fail has done. -/
lemma step_cases {c c' : Connection δ} {st : Statement δ} (h : c.step st = some c') :
    (st = .begin ∧ c' = ⟨c.data, some c.data⟩) ∨ (st = .commit ∧ c' = ⟨c.data, none⟩) ∨
      (∃ d ∈ c.saved, st = .rollback ∧ c' = ⟨d, none⟩) ∨
      ∃ f d, st = .write f ∧ f c.data = some d ∧ c' = ⟨d, c.saved⟩ := by
  cases st with
  | begin =>
      rw [step] at h
      split_ifs at h with hsaved
      exact .inl ⟨rfl, (Option.some.inj h).symm⟩
  | commit =>
      rw [step] at h
      split_ifs at h with hsaved
      exact .inr (.inl ⟨rfl, (Option.some.inj h).symm⟩)
  | rollback =>
      obtain ⟨d, hd, rfl⟩ := Option.map_eq_some_iff.mp h
      exact .inr (.inr (.inl ⟨d, hd, rfl, rfl⟩))
  | write f =>
      obtain ⟨d, hd, rfl⟩ := Option.map_eq_some_iff.mp h
      exact .inr (.inr (.inr ⟨f, d, rfl, hd, rfl⟩))

/-- **What every statement of a text keeps** is kept, wherever the text stops. -/
lemma execute_keeps {I : Connection δ → Prop} (fault : Option ℕ) {sts : List (Statement δ)}
    (hsts : ∀ st ∈ sts, ∀ c c', I c → c.step st = some c' → I c') {c : Connection δ} (h : I c) :
    I (c.execute fault sts).2 := by
  induction sts generalizing fault c with
  | nil =>
      rw [execute_nil]
      exact h
  | cons st sts ih =>
      rw [List.forall_mem_cons] at hsts
      rcases fault with _ | _ | k
      · rw [execute_none]
        cases hc' : c.step st with
        | none => exact h
        | some c' => exact ih none hsts.2 (hsts.1 c c' h hc')
      · exact h
      · rw [execute_fault_succ]
        cases hc' : c.step st with
        | none => exact h
        | some c' => exact ih (some k) hsts.2 (hsts.1 c c' h hc')

/-- Statements whose writes keep a property keep it, wherever they stop. -/
lemma All.execute {P : δ → Prop} (fault : Option ℕ) {sts : List (Statement δ)}
    (hsts : ∀ f, .write f ∈ sts → ∀ d d', P d → f d = some d' → P d') {c : Connection δ}
    (h : c.All P) : (c.execute fault sts).2.All P := by
  refine execute_keeps fault (fun st hst c c' hc hstep => ?_) h
  rcases step_cases hstep with ⟨-, rfl⟩ | ⟨-, rfl⟩ | ⟨d, hd, -, rfl⟩ | ⟨f, d, rfl, hd, rfl⟩
  · exact ⟨hc.1, fun d hd => Option.some.inj hd ▸ hc.1⟩
  · exact ⟨hc.1, fun d hd => nomatch hd⟩
  · exact ⟨hc.2 d hd, fun d hd => nomatch hd⟩
  · exact ⟨hsts f hst _ _ hc.1 hd, hc.2⟩

/-- The same where the writes rely on more than a `rollback` would bring back: they
rely on `Q`, too, which holds of the data alone. -/
lemma All.execute_and {P Q : δ → Prop} (fault : Option ℕ) {sts : List (Statement δ)}
    (hsts : ∀ f, .write f ∈ sts → ∀ d d', P d → Q d → f d = some d' → P d' ∧ Q d')
    (hback : .rollback ∉ sts) {c : Connection δ} (h : c.All P) (hQ : Q c.data) :
    (c.execute fault sts).2.All P ∧ Q (c.execute fault sts).2.data := by
  refine execute_keeps (I := fun c => c.All P ∧ Q c.data) fault
    (fun st hst c c' hc hstep => ?_) ⟨h, hQ⟩
  rcases step_cases hstep with ⟨-, rfl⟩ | ⟨-, rfl⟩ | ⟨d, -, rfl, -⟩ | ⟨f, d, rfl, hd, rfl⟩
  · exact ⟨⟨hc.1.1, fun d hd => Option.some.inj hd ▸ hc.1.1⟩, hc.2⟩
  · exact ⟨⟨hc.1.1, fun d hd => nomatch hd⟩, hc.2⟩
  · exact absurd hst hback
  · obtain ⟨hP, hQ⟩ := hsts f hst _ _ hc.1.1 hc.2 hd
    exact ⟨⟨hP, hc.1.2⟩, hQ⟩

/-- The property holds of what is left if the connection is lost. -/
lemma All.committed {P : δ → Prop} {c : Connection δ} (h : c.All P) :
    (⟨c.committed, none⟩ : Connection δ).All P := by
  refine ⟨?_, fun _ hd => nomatch hd⟩
  show P (c.saved.getD c.data)
  cases hsaved : c.saved with
  | none => exact h.1
  | some d => exact h.2 d hsaved

/-- By writes that stay in `R`, and by transactions that begin and end: whatever
property such writes keep is kept. -/
def Writes (R : δ → δ → Prop) (c c' : Connection δ) : Prop :=
  ∀ P : δ → Prop, (∀ d d', R d d' → P d → P d') → c.All P → c'.All P

lemma Writes.refl (R : δ → δ → Prop) (c : Connection δ) : c.Writes R c := fun _ _ => id

lemma Writes.mono {R R' : δ → δ → Prop} (hR : ∀ d d', R d d' → R' d d') {c c' : Connection δ}
    (h : c.Writes R c') : c.Writes R' c' := fun P hP => h P fun d d' hd => hP d d' (hR d d' hd)

lemma writes_execute {R : δ → δ → Prop} (fault : Option ℕ) {sts : List (Statement δ)}
    (hsts : ∀ f, .write f ∈ sts → ∀ d d', f d = some d' → R d d') (c : Connection δ) :
    c.Writes R (c.execute fault sts).2 :=
  fun _ hP hc => hc.execute fault fun f hf d d' hd hd' => hP d d' (hsts f hf d d' hd') hd

/-- The same, and what was written has not been taken back. -/
structure Advances (R : δ → δ → Prop) (c c' : Connection δ) : Prop where
  writes : c.Writes R c'
  onward : Relation.ReflTransGen R c.data c'.data

lemma Advances.refl (R : δ → δ → Prop) (c : Connection δ) : c.Advances R c :=
  ⟨.refl R c, .refl⟩

/-- What every write keeps holds of the data, whatever a `rollback` would bring back. -/
lemma Advances.keeps {R : δ → δ → Prop} {c c' : Connection δ} (h : c.Advances R c')
    {P : δ → Prop} (hP : ∀ d d', R d d' → P d → P d') (hc : P c.data) : P c'.data := by
  have honward := h.onward
  generalize c'.data = d at honward
  induction honward with
  | refl => exact hc
  | tail _ hstep ih => exact hP _ _ hstep ih

/-- A text without a `rollback`. -/
lemma advances_execute {R : δ → δ → Prop} (fault : Option ℕ) {sts : List (Statement δ)}
    (hsts : ∀ f, .write f ∈ sts → ∀ d d', f d = some d' → R d d') (hback : .rollback ∉ sts)
    (c : Connection δ) : c.Advances R (c.execute fault sts).2 := by
  refine ⟨writes_execute fault hsts c, ?_⟩
  refine execute_keeps (I := fun c' => Relation.ReflTransGen R c.data c'.data) fault
    (fun st hst c₁ c₂ hc₁ hstep => ?_) .refl
  rcases step_cases hstep with ⟨-, rfl⟩ | ⟨-, rfl⟩ | ⟨d, -, rfl, -⟩ | ⟨f, d, rfl, hd, rfl⟩
  · exact hc₁
  · exact hc₁
  · exact absurd hst hback
  · exact hc₁.tail (hsts f hst _ _ hd)

/-- While a transaction is open, another one cannot begin. -/
lemma execute_begin_of_open {c : Connection δ} (hc : ¬c.Idle) (fault : Option ℕ)
    (rest : List (Statement δ)) : execute fault (.begin :: rest) c = (false, c) := by
  have hstep : c.step .begin = none := if_neg hc
  rcases fault with _ | _ | k
  · rw [execute_none, hstep]
  · rfl
  · rw [execute_fault_succ, hstep]

end Connection
