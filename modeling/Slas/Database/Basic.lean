import Mathlib
import Slas.Lib.Prog
import Slas.Lib.Connection
import Slas.Database.Schema

/-!
Database code as programs, over the one SQLite connection that
`server/src/main.cpp` opens and `server/src/database/sqlite_wrapper.cpp` wraps.

* `query`, `queryFirst`: a `select` from `Prepare` to `Finalize`, one call;
* `execSql`: `SQLiteWrapper::Exec`, or one prepared statement that writes;
* `tryExec`: the same for `server/src/database/database.cpp`, which looks at the
  result code itself;
* `exec_query`, `exec_queryFirst`, `exec_write`: what they do undisturbed;
* `run_…`: what they do when they are disturbed;
* `triple_…`: what they do in any environment;
* `StepsIn`, `steps_…`: a relation that holds of every write of a program;
* `AdvancesIn`, `advances_…`: the same of a program that rolls nothing back;
* `Reads`, `reads_…`: a program that writes nothing;
* `strict_…`: a disturbed call throws.
-/

namespace Slas.Database

/-- The exceptions of `database::exception::detail`, and those of the code over
it: `bash::domain::exception::detail::WrongNumberOfCommands`, the two exceptions
of `type::Date::Create` and the `std::out_of_range` of `at`. -/
inductive DatabaseException where
  | cantExecuteSqlStatementException
  | itemNotFoundException
  | wrongNumberOfCommands
  | dateParseException
  | wrongDateValueException
  | outOfRange
  deriving DecidableEq, Repr

/-- The result codes of SQLite that are told apart, success aside. -/
inductive ResultCode where
  | busy
  | error
  deriving DecidableEq, Repr

/-- A failure the environment puts on a call: the number of the statement of
the call that fails, or its last one, and the code it fails with. -/
structure Fault where
  position : ℕ
  code : ResultCode
  deriving DecidableEq, Repr

/-- Programs on the connection. -/
abbrev DatabaseM := Prog (Connection Store) Fault DatabaseException

variable {α : Type}

/-- A `select`. -/
def query (f : Store → α) : DatabaseM α :=
  Prog.lift fun fault c => match fault with
    | none => (.ok (f c.data), c)
    | some _ => (.error .cantExecuteSqlStatementException, c)

/-- A `select` that must find a row, `SQLiteWrapper::GetFirstInt64Column`. -/
def queryFirst (f : Store → Option α) : DatabaseM α :=
  Prog.lift fun fault c => match fault, f c.data with
    | none, some a => (.ok a, c)
    | none, none => (.error .itemNotFoundException, c)
    | some _, _ => (.error .cantExecuteSqlStatementException, c)

/-- Statements that are executed in one call. -/
def execSql (sts : List (Statement Store)) : DatabaseM Unit :=
  Prog.lift fun fault c =>
    match c.execute (fault.map fun f => min f.position (sts.length - 1)) sts with
    | (true, c') => (.ok (), c')
    | (false, c') => (.error .cantExecuteSqlStatementException, c')

/-- One statement that writes. -/
def write (f : Store → Store) : DatabaseM Unit := execSql [.write fun s => some (f s)]

/-- Statements that are executed in one call, for the result code; `none` is
success. A statement that fails by itself fails with an error. -/
def tryExec (sts : List (Statement Store)) : DatabaseM (Option ResultCode) :=
  Prog.lift fun fault c =>
    match c.execute (fault.map fun f => min f.position (sts.length - 1)) sts with
    | (true, c') => (.ok none, c')
    | (false, c') => (.ok (some ((fault.map (·.code)).getD .error)), c')

variable (c : Connection Store)

@[simp] lemma exec_query (f : Store → α) : (query f).exec c = (.ok (f c.data), c) := by
  simp [query]

@[simp] lemma exec_write (f : Store → Store) :
    (write f).exec c = (.ok (), { c with data := f c.data }) := by
  simp [write, execSql, Connection.step]

lemma exec_queryFirst {f : Store → Option α} {a : α} (h : f c.data = some a) :
    (queryFirst f).exec c = (.ok a, c) := by
  simp [queryFirst, h]

lemma exec_queryFirst_none {f : Store → Option α} (h : f c.data = none) :
    (queryFirst f).exec c = (.error .itemNotFoundException, c) := by
  simp [queryFirst, h]

/-- A transaction of writes, undisturbed, makes all of them. -/
lemma exec_transaction {c : Connection Store} (hc : c.Idle) (fs : List (Store → Store)) :
    (execSql (.begin :: (Connection.writes fs ++ [Statement.commit]))).exec c
      = (.ok (), ⟨Connection.applyAll fs c.data, none⟩) := by
  rcases Connection.execute_transaction fs none hc with h | ⟨h, -⟩ | ⟨h, -⟩
  · simp [execSql, h]
  · exact absurd rfl h
  · exact absurd rfl h

/-! ### Their disturbed runs -/

section Runs

variable {env : ℕ → Option Fault} {n : ℕ} {c : Connection Store}

lemma run_query (f : Store → α) (henv : env n = none) :
    (query f).run env n c = (.ok (f c.data), n + 1, c) := by
  rw [query, Prog.run_lift, henv]

lemma run_query_fault (f : Store → α) (henv : env n ≠ none) :
    (query f).run env n c = (.error .cantExecuteSqlStatementException, n + 1, c) := by
  obtain ⟨fault, henv⟩ := Option.ne_none_iff_exists'.mp henv
  rw [query, Prog.run_lift, henv]

lemma run_queryFirst {f : Store → Option α} {a : α} (h : f c.data = some a) (henv : env n = none) :
    (queryFirst f).run env n c = (.ok a, n + 1, c) := by
  simp only [queryFirst, Prog.run_lift, henv, h]

/-- A `select` that fails or finds no row. -/
lemma run_queryFirst_error {f : Store → Option α} (h : f c.data = none ∨ env n ≠ none) :
    ∃ e, (queryFirst f).run env n c = (.error e, n + 1, c) := by
  cases henv : env n with
  | some fault =>
      refine ⟨.cantExecuteSqlStatementException, ?_⟩
      simp only [queryFirst, Prog.run_lift, henv]
  | none =>
      have hf : f c.data = none := h.resolve_right fun hne => hne henv
      refine ⟨.itemNotFoundException, ?_⟩
      simp only [queryFirst, Prog.run_lift, henv, hf]

lemma run_write (f : Store → Store) (henv : env n = none) :
    (write f).run env n c = (.ok (), n + 1, { c with data := f c.data }) := by
  rw [write, execSql, Prog.run_lift, henv]
  rfl

lemma run_write_fault (f : Store → Store) (henv : env n ≠ none) :
    (write f).run env n c = (.error .cantExecuteSqlStatementException, n + 1, c) := by
  obtain ⟨fault, henv⟩ := Option.ne_none_iff_exists'.mp henv
  rw [write, execSql, Prog.run_lift, henv]
  simp

/-- **A transaction in one text**, wherever it stops: it succeeds exactly if no
transaction is open before, nothing is made to fail and nothing is refused. -/
lemma run_text (env : ℕ → Option Fault) (n : ℕ) (c : Connection Store)
    (fs : List (Store → Option Store)) :
    ∃ r c', (execSql (.begin :: (fs.map .write ++ [.commit]))).run env n c = (r, n + 1, c') ∧
      c'.data = Connection.untilRefused (c.tried ((env n).map (·.position)) fs) c.data ∧
      (r = .ok () ∧ c'.Idle ∧ (c.Idle ∧ env n = none ∧ (Connection.tryAll fs c.data).isSome) ∨
        r = .error .cantExecuteSqlStatementException ∧
          ¬(c.Idle ∧ env n = none ∧ (Connection.tryAll fs c.data).isSome)) := by
  set sts := Statement.begin :: (fs.map Statement.write ++ [Statement.commit]) with hsts
  set fault := (env n).map fun f => min f.position (sts.length - 1) with hfault
  have hlen : sts.length - 1 = fs.length + 1 := by simp [hsts]
  have hle : ∀ k ∈ fault, k ≤ fs.length + 1 := by
    intro k hk
    obtain ⟨f, -, rfl⟩ := Option.map_eq_some_iff.mp hk
    exact hlen ▸ min_le_right _ _
  have htried : c.tried fault fs = c.tried ((env n).map (·.position)) fs := by
    rw [Connection.tried, Connection.tried, hfault, hlen]
    cases env n with
    | none => rfl
    | some f =>
        show (if _ then fs.take (min f.position (fs.length + 1) - 1) else [])
          = if _ then fs.take (f.position - 1) else []
        rw [show min f.position (fs.length + 1) - 1 = min (f.position - 1) fs.length by omega,
          ← List.take_eq_take_min]
  have hdata := Connection.execute_text_data fs fault c
  have hok := Connection.execute_text_ok_iff fs hle c
  rw [← hsts] at hdata hok
  have hnone : fault = none ↔ env n = none := by simp [hfault]
  rw [htried] at hdata
  rw [hnone] at hok
  rw [execSql, Prog.run_lift]
  rcases hexec : c.execute fault sts with ⟨_ | _, c'⟩
  · refine ⟨_, c', rfl, ?_, .inr ⟨rfl, ?_⟩⟩
    · rw [← hdata, hexec]
    · rw [← hok, hexec]
      exact Bool.false_ne_true
  · have hidle := Connection.idle_execute_text hle (c := c) (by rw [← hsts, hexec])
    rw [← hsts, hexec] at hidle
    refine ⟨_, c', rfl, ?_, .inl ⟨rfl, hidle, ?_⟩⟩
    · rw [← hdata, hexec]
    · rw [← hok, hexec]

/-- The same for writes no constraint refuses. -/
lemma run_transaction (env : ℕ → Option Fault) (n : ℕ) (c : Connection Store)
    (fs : List (Store → Store)) :
    ∃ r c', (execSql (.begin :: (Connection.writes fs ++ [.commit]))).run env n c = (r, n + 1, c') ∧
      c'.data = Connection.applyAll (c.tried ((env n).map (·.position)) fs) c.data ∧
      (r = .ok () ∧ c'.Idle ∧ (c.Idle ∧ env n = none) ∨
        r = .error .cantExecuteSqlStatementException ∧ ¬(c.Idle ∧ env n = none)) := by
  have hwrites : Connection.writes fs
      = (fs.map fun f d => some (f d)).map Statement.write := (List.map_map ..).symm
  have hall : (Connection.tryAll (fs.map fun f d => some (f d)) c.data).isSome := by
    rw [Connection.tryAll_writes]
    rfl
  obtain ⟨r, c', hrun, hdata, hended⟩ := run_text env n c (fs.map fun f d => some (f d))
  rw [Connection.tried_map, Connection.untilRefused_writes] at hdata
  simp only [hall, and_true] at hended
  exact ⟨r, c', hwrites ▸ hrun, hdata, hended⟩

end Runs

section Disturbed

variable {env : ℕ → Option Fault} {P : ℕ → Connection Store → Prop}
  {E : DatabaseException → ℕ → Connection Store → Prop}

lemma triple_query {f : Store → α} {Q : α → ℕ → Connection Store → Prop}
    (h : ∀ n c, P n c → (env n = none → Q (f c.data) (n + 1) c) ∧
      (env n ≠ none → E .cantExecuteSqlStatementException (n + 1) c)) :
    Prog.Triple env P (query f) Q E := by
  refine Prog.Triple.lift fun n c hc => ?_
  cases henv : env n with
  | none => exact (h n c hc).1 henv
  | some fault => exact (h n c hc).2 (by simp [henv])

lemma triple_queryFirst {f : Store → Option α} {Q : α → ℕ → Connection Store → Prop}
    (h : ∀ n c, P n c → (∀ a, f c.data = some a → Q a (n + 1) c) ∧ ∀ e, E e (n + 1) c) :
    Prog.Triple env P (queryFirst f) Q E := by
  refine Prog.Triple.lift fun n c hc => ?_
  cases henv : env n with
  | some fault => exact (h n c hc).2 _
  | none =>
      cases hf : f c.data with
      | none => exact (h n c hc).2 _
      | some a => exact (h n c hc).1 a hf

/-- A `select` that finds its row. -/
lemma triple_queryFirst_some {f : Store → Option α} {Q : α → ℕ → Connection Store → Prop}
    (h : ∀ n c, P n c → ∃ a, f c.data = some a ∧ (env n = none → Q a (n + 1) c) ∧
      (env n ≠ none → E .cantExecuteSqlStatementException (n + 1) c)) :
    Prog.Triple env P (queryFirst f) Q E := by
  refine Prog.Triple.lift fun n c hc => ?_
  obtain ⟨a, ha, hok, herror⟩ := h n c hc
  rw [ha]
  cases henv : env n with
  | none => exact hok henv
  | some fault => exact herror (by simp [henv])

lemma triple_write {f : Store → Store} {Q : Unit → ℕ → Connection Store → Prop}
    (h : ∀ n c, P n c → (env n = none → Q () (n + 1) { c with data := f c.data }) ∧
      (env n ≠ none → E .cantExecuteSqlStatementException (n + 1) c)) :
    Prog.Triple env P (write f) Q E := by
  refine Prog.Triple.lift fun n c hc => ?_
  cases henv : env n with
  | none => exact (h n c hc).1 henv
  | some fault => simpa using (h n c hc).2 (by simp [henv])

/-- One statement. -/
lemma triple_execSql {st : Statement Store} {Q : Unit → ℕ → Connection Store → Prop}
    (h : ∀ n c, P n c → (env n = none → match c.step st with
        | some c' => Q () (n + 1) c'
        | none => E .cantExecuteSqlStatementException (n + 1) c) ∧
      (env n ≠ none → E .cantExecuteSqlStatementException (n + 1) c)) :
    Prog.Triple env P (execSql [st]) Q E := by
  refine Prog.Triple.lift fun n c hc => ?_
  cases henv : env n with
  | none =>
      have := (h n c hc).1 henv
      cases hst : c.step st with
      | none => simpa [hst] using this
      | some c' => simpa [hst] using this
  | some fault => simpa using (h n c hc).2 (by simp [henv])

/-- One statement, for the result code. -/
lemma triple_tryExec {st : Statement Store} {Q : Option ResultCode → ℕ → Connection Store → Prop}
    (h : ∀ n c, P n c → (env n = none → match c.step st with
        | some c' => Q none (n + 1) c'
        | none => Q (some .error) (n + 1) c) ∧
      ∀ fault, env n = some fault → Q (some fault.code) (n + 1) c) :
    Prog.Triple env P (tryExec [st]) Q E := by
  refine Prog.Triple.lift fun n c hc => ?_
  cases henv : env n with
  | none =>
      have := (h n c hc).1 henv
      cases hst : c.step st with
      | none => simpa [hst] using this
      | some c' => simpa [hst] using this
  | some fault => simpa using (h n c hc).2 fault henv

/-- A transaction of writes: it is made if it is not disturbed, and otherwise it
never began or is left open. -/
lemma triple_transaction {fs : List (Store → Store)} {Q : Unit → ℕ → Connection Store → Prop}
    (h : ∀ n c, P n c → c.Idle ∧
      (env n = none → Q () (n + 1) ⟨Connection.applyAll fs c.data, none⟩) ∧
      (env n ≠ none → E .cantExecuteSqlStatementException (n + 1) c ∧
        ∀ k ≤ fs.length, E .cantExecuteSqlStatementException (n + 1)
          ⟨Connection.applyAll (fs.take k) c.data, some c.data⟩)) :
    Prog.Triple env P (execSql (.begin :: (Connection.writes fs ++ [Statement.commit]))) Q E := by
  refine Prog.Triple.lift fun n c hc => ?_
  obtain ⟨hidle, hok, herror⟩ := h n c hc
  set sts := Statement.begin :: (Connection.writes fs ++ [Statement.commit]) with hsts
  set fault := (env n).map fun f => min f.position (sts.length - 1) with hfault
  rcases Connection.execute_transaction fs fault hidle with hrun | ⟨hne, hrun⟩ | ⟨hne, k, hk, hrun⟩
  · rw [← hsts] at hrun
    rw [hrun]
    refine hok ?_
    -- a disturbed text is not executed to its end
    cases henv : env n with
    | none => rfl
    | some f =>
        have hlt : min f.position (sts.length - 1) < sts.length := by simp [hsts]
        have := Connection.execute_fault_lt hlt c
        rw [hfault, henv, Option.map_some] at hrun
        rw [hrun] at this
        exact absurd this (by simp)
  · rw [← hsts] at hrun
    rw [hrun]
    exact (herror fun h0 => hne (by rw [hfault, h0]; rfl)).1
  · rw [← hsts] at hrun
    rw [hrun]
    exact (herror fun h0 => hne (by rw [hfault, h0]; rfl)).2 k hk

/-- While a transaction is open, another one is refused. -/
lemma triple_transaction_open {rest : List (Statement Store)}
    {Q : Unit → ℕ → Connection Store → Prop} (hopen : ∀ n c, P n c → ¬c.Idle)
    (h : ∀ n c, P n c → E .cantExecuteSqlStatementException (n + 1) c) :
    Prog.Triple env P (execSql (.begin :: rest)) Q E := by
  refine Prog.Triple.lift fun n c hc => ?_
  rw [Connection.execute_begin_of_open (hopen n c hc)]
  exact h n c hc

/-- A transaction of writes that keep a property, whatever happens to it. -/
lemma triple_transaction_all {fs : List (Store → Store)} {R : Store → Prop}
    {Q : Unit → ℕ → Connection Store → Prop}
    (hkeeps : ∀ n c, P n c → c.All R ∧
      (c.Idle → ∀ k ≤ fs.length, R (Connection.applyAll (fs.take k) c.data)))
    (hok : ∀ n c, P n c → c.Idle → Q () (n + 1) ⟨Connection.applyAll fs c.data, none⟩)
    (herror : ∀ n c c', P n c → c'.All R → (c.Idle → env n ≠ none) →
      E .cantExecuteSqlStatementException (n + 1) c') :
    Prog.Triple env P (execSql (.begin :: (Connection.writes fs ++ [Statement.commit]))) Q E := by
  intro n c hc
  obtain ⟨hall, hpart⟩ := hkeeps n c hc
  by_cases hidle : c.Idle
  · refine triple_transaction (P := fun m d => m = n ∧ d = c) ?_ n c ⟨rfl, rfl⟩
    rintro n' c' ⟨rfl, rfl⟩
    refine ⟨hidle, fun _ => hok n' c' hc hidle, fun hn => ⟨herror n' c' c' hc hall fun _ => hn, ?_⟩⟩
    refine fun k hk => herror n' c' _ hc ⟨hpart hidle k hk, fun d hd => ?_⟩ fun _ => hn
    exact Option.some.inj hd ▸ hall.1
  · refine triple_transaction_open (P := fun m d => m = n ∧ d = c) ?_ ?_ n c ⟨rfl, rfl⟩
    · rintro n' c' ⟨rfl, rfl⟩
      exact hidle
    · rintro n' c' ⟨rfl, rfl⟩
      exact herror n' c' c' hc hall fun h => absurd h hidle

/-- A write that relies on more than a `rollback` would bring back. -/
lemma triple_write_and {R S T : Store → Prop} {f : Store → Store}
    (h : ∀ s, R s → S s → R (f s) ∧ T (f s)) : Prog.Triple env
      (fun _ c => c.All R ∧ S c.data) (write f) (fun _ _ c => c.All R ∧ T c.data)
      fun _ _ c => c.All R := by
  refine triple_write fun n c hc => ⟨fun _ => ?_, fun _ => hc.1⟩
  obtain ⟨hR, hT⟩ := h c.data hc.1.1 hc.2
  exact ⟨⟨hR, hc.1.2⟩, hT⟩

/-- The same of a text. -/
lemma triple_execSql_and {R S : Store → Prop} {sts : List (Statement Store)}
    (hsts : ∀ f, .write f ∈ sts → ∀ s s', R s → S s → f s = some s' → R s' ∧ S s')
    (hback : .rollback ∉ sts) : Prog.Triple env (fun _ c => c.All R ∧ S c.data) (execSql sts)
      (fun _ _ c => c.All R ∧ S c.data) fun _ _ c => c.All R := by
  refine Prog.Triple.lift fun n c hc => ?_
  have := Connection.All.execute_and ((env n).map fun f => min f.position (sts.length - 1)) hsts
    hback hc.1 hc.2
  generalize c.execute ((env n).map fun f => min f.position (sts.length - 1)) sts = ended at this ⊢
  rcases ended with ⟨_ | _, c'⟩
  · exact this.1
  · exact this

/-- The same of a text whose result code is looked at. -/
lemma triple_tryExec_and {R S : Store → Prop} {sts : List (Statement Store)}
    (hsts : ∀ f, .write f ∈ sts → ∀ s s', R s → S s → f s = some s' → R s' ∧ S s')
    (hback : .rollback ∉ sts) : Prog.Triple env (fun _ c => c.All R ∧ S c.data) (tryExec sts)
      (fun _ _ c => c.All R ∧ S c.data) E := by
  refine Prog.Triple.lift fun n c hc => ?_
  have := Connection.All.execute_and ((env n).map fun f => min f.position (sts.length - 1)) hsts
    hback hc.1 hc.2
  generalize c.execute ((env n).map fun f => min f.position (sts.length - 1)) sts = ended at this ⊢
  rcases ended with ⟨_ | _, c'⟩ <;> exact this

end Disturbed

/-! ### What they write -/

section Steps

open Connection (Writes)

variable {R : Store → Store → Prop}

/-- `R` holds of every write of a program. -/
abbrev StepsIn (R : Store → Store → Prop) (p : DatabaseM α) : Prop := Prog.Steps (Writes R) p

/-- No call of a program writes. -/
abbrev Reads (p : DatabaseM α) : Prop := Prog.Steps (fun c c' => c' = c) p

lemma Reads.steps {p : DatabaseM α} (h : Reads p) : StepsIn R p :=
  h.mono fun c _ hc => hc ▸ Writes.refl R c

lemma reads_query (f : Store → α) : Reads (query f) :=
  Prog.Steps.lift fun fault c => by cases fault <;> rfl

lemma reads_queryFirst (f : Store → Option α) : Reads (queryFirst f) := by
  refine Prog.Steps.lift fun fault c => ?_
  cases fault with
  | none => cases f c.data <;> rfl
  | some fault => rfl

lemma steps_query (f : Store → α) : StepsIn R (query f) := (reads_query f).steps

lemma steps_queryFirst (f : Store → Option α) :
    StepsIn R (queryFirst f) := (reads_queryFirst f).steps

lemma steps_execSql {sts : List (Statement Store)}
    (hsts : ∀ f, .write f ∈ sts → ∀ s s', f s = some s' → R s s') : StepsIn R (execSql sts) := by
  refine Prog.Steps.lift fun fault c => ?_
  have := Connection.writes_execute (fault.map fun f => min f.position (sts.length - 1)) hsts c
  generalize c.execute (fault.map fun f => min f.position (sts.length - 1)) sts = ended at this ⊢
  rcases ended with ⟨_ | _, c'⟩ <;> exact this

lemma StepsIn.mono {R' : Store → Store → Prop} {p : DatabaseM α} (h : StepsIn R p)
    (hR : ∀ s s', R s s' → R' s s') : StepsIn R' p :=
  Prog.Steps.mono h fun _ _ => Writes.mono hR

/-- What every write keeps is kept. -/
lemma StepsIn.keeps {p : DatabaseM α} (h : StepsIn R p) {P : Store → Prop}
    (hP : ∀ s s', R s s' → P s → P s') : Prog.Keeps (fun c => c.All P) p :=
  Prog.Steps.keeps h fun _ _ hc => hc P hP

lemma keeps_query {P : Store → Prop} (f : Store → α) : Prog.Keeps (fun c => c.All P) (query f) :=
  (steps_query (R := fun _ _ => False) f).keeps fun _ _ h => h.elim

lemma keeps_queryFirst {P : Store → Prop} (f : Store → Option α) :
    Prog.Keeps (fun c => c.All P) (queryFirst f) :=
  (steps_queryFirst (R := fun _ _ => False) f).keeps fun _ _ h => h.elim

/-- `R` holds of every write of a program, which rolls nothing back. -/
abbrev AdvancesIn (R : Store → Store → Prop) (p : DatabaseM α) : Prop :=
  Prog.Steps (Connection.Advances R) p

lemma Reads.advances {p : DatabaseM α} (h : Reads p) : AdvancesIn R p :=
  h.mono fun c _ hc => hc ▸ Connection.Advances.refl R c

lemma AdvancesIn.steps {p : DatabaseM α} (h : AdvancesIn R p) : StepsIn R p :=
  Prog.Steps.mono h fun _ _ => Connection.Advances.writes

lemma advances_query (f : Store → α) : AdvancesIn R (query f) := (reads_query f).advances

lemma advances_queryFirst (f : Store → Option α) : AdvancesIn R (queryFirst f) :=
  (reads_queryFirst f).advances

lemma advances_execSql {sts : List (Statement Store)}
    (hsts : ∀ f, .write f ∈ sts → ∀ s s', f s = some s' → R s s') (hback : .rollback ∉ sts) :
    AdvancesIn R (execSql sts) := by
  refine Prog.Steps.lift fun fault c => ?_
  have := Connection.advances_execute (fault.map fun f => min f.position (sts.length - 1)) hsts
    hback c
  generalize c.execute (fault.map fun f => min f.position (sts.length - 1)) sts = ended at this ⊢
  rcases ended with ⟨_ | _, c'⟩ <;> exact this

/-- Statements for the result code. -/
lemma steps_tryExec {sts : List (Statement Store)}
    (hsts : ∀ f, .write f ∈ sts → ∀ s s', f s = some s' → R s s') : StepsIn R (tryExec sts) := by
  refine Prog.Steps.lift fun fault c => ?_
  have := Connection.writes_execute (fault.map fun f => min f.position (sts.length - 1)) hsts c
  generalize c.execute (fault.map fun f => min f.position (sts.length - 1)) sts = ended at this ⊢
  rcases ended with ⟨_ | _, c'⟩ <;> exact this

lemma advances_write {f : Store → Store} (hf : ∀ s, R s (f s)) : AdvancesIn R (write f) := by
  refine advances_execSql (fun g hg s s' hs => ?_) (by simp)
  obtain rfl := Statement.write.inj (List.mem_singleton.mp hg)
  exact Option.some.inj hs ▸ hf s

/-- A transaction of writes. -/
lemma advances_transaction {fs : List (Store → Store)} (hfs : ∀ f ∈ fs, ∀ s, R s (f s)) :
    AdvancesIn R (execSql (.begin :: (Connection.writes fs ++ [Statement.commit]))) := by
  refine advances_execSql (fun g hg s s' hs => ?_) (by simp [Connection.writes])
  have hg : Statement.write g ∈ Connection.writes fs := by simpa using hg
  obtain ⟨f, hf, hfg⟩ := List.mem_map.mp hg
  obtain rfl := Statement.write.inj hfg
  exact Option.some.inj hs ▸ hfs f hf s

lemma steps_write {f : Store → Store} (hf : ∀ s, R s (f s)) : StepsIn R (write f) :=
  (advances_write hf).steps

lemma steps_transaction {fs : List (Store → Store)} (hfs : ∀ f ∈ fs, ∀ s, R s (f s)) :
    StepsIn R (execSql (.begin :: (Connection.writes fs ++ [Statement.commit]))) :=
  (advances_transaction hfs).steps

/-- What every write keeps holds of the data afterwards. -/
lemma AdvancesIn.keeps {p : DatabaseM α} (h : AdvancesIn R p) {P : Store → Prop}
    (hP : ∀ s s', R s s' → P s → P s') : Prog.Keeps (fun c => P c.data) p :=
  Prog.Steps.keeps h fun _ _ hc => hc.keeps hP

end Steps

/-! ### Disturbed calls throw -/

lemma strict_query (f : Store → α) : Prog.Strict (query f) :=
  Prog.Strict.lift fun _ _ => ⟨_, rfl⟩

lemma strict_queryFirst (f : Store → Option α) : Prog.Strict (queryFirst f) :=
  Prog.Strict.lift fun _ _ => ⟨_, rfl⟩

/-- A text with a statement that is made to fail. -/
lemma strict_execSql {sts : List (Statement Store)} (hne : sts ≠ []) :
    Prog.Strict (execSql sts) := by
  refine Prog.Strict.lift fun fault c => ?_
  have hlt : min fault.position (sts.length - 1) < sts.length := by
    have := List.length_pos_of_ne_nil hne
    omega
  have hfailed := Connection.execute_fault_lt hlt c
  rcases hexec : c.execute (some (min fault.position (sts.length - 1))) sts with ⟨_ | _, c'⟩
  · refine ⟨.cantExecuteSqlStatementException, ?_⟩
    simp only [Option.map_some, hexec]
  · rw [hexec] at hfailed
    cases hfailed

lemma strict_write (f : Store → Store) :
    Prog.Strict (write f) := strict_execSql (List.cons_ne_nil _ _)

end Slas.Database
