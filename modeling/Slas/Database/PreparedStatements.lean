import Mathlib
import Slas.Database.SQLiteWrapper

/-!
A function over prepared statements is one call: how the functions of
`server/src/database/sqlite_wrapper.cpp` make up those of the layers above.

* `Grown`: what a function leaves of the other statements of the session, and how many
  of its own it does not finalize;
* `Implements`: a function over prepared statements does what a program of
  `Slas.Database.Basic` does, with the rules `Implements.bind`, `Implements.tryCatch` and
  `Implements.forM`;
* `Reads`: a function that reads the columns of one row;
* `Runs`: what becomes of a statement between its `Prepare` and its `Finalize`, with
  `runs_bind`, `runs_stepFirst`, `runs_stepAll` and `runs_modify`;
* `triple_guarded`, `triple_unguarded`: the two ways to finalize it;
* `implements_query`, `implements_queryFirst`, `implements_write`, `implements_execSql`:
  functions that are one call.
-/

namespace Slas.Database.SQLite

variable {α β : Type} {s t u : Session} {k l : ℕ}

/-! ### The other statements -/

/-- The statements of before are as they were; at most `k` more are left, and nothing was
used that is not defined. -/
structure Session.Grown (k : ℕ) (s t : Session) : Prop where
  exists_extra : ∃ extra : List (ℕ × PreparedStatement), t.statements = extra ++ s.statements ∧
    extra.length ≤ k ∧ ∀ p ∈ extra, p.1 < t.next
  next_le : s.next ≤ t.next
  isOpen_eq : t.isOpen = s.isOpen
  misused_eq : t.misused = s.misused

namespace Session

lemma Grown.refl (k : ℕ) (s : Session) : Grown k s s where
  exists_extra := ⟨[], rfl, Nat.zero_le k, fun _ hp => absurd hp List.not_mem_nil⟩
  next_le := le_rfl
  isOpen_eq := rfl
  misused_eq := rfl

lemma Grown.trans (h : Grown k s t) (h' : Grown l t u) : Grown (k + l) s u where
  exists_extra := by
    obtain ⟨extra, heq, hlen, hlt⟩ := h.exists_extra
    obtain ⟨extra', heq', hlen', hlt'⟩ := h'.exists_extra
    refine ⟨extra' ++ extra, by rw [heq', heq, List.append_assoc], ?_, ?_⟩
    · rw [List.length_append]
      omega
    · intro p hp
      rcases List.mem_append.mp hp with hp | hp
      · exact hlt' p hp
      · exact (hlt p hp).trans_le h'.next_le
  next_le := h.next_le.trans h'.next_le
  isOpen_eq := h'.isOpen_eq.trans h.isOpen_eq
  misused_eq := h'.misused_eq.trans h.misused_eq

lemma Grown.mono (h : Grown k s t) (hkl : k ≤ l) : Grown l s t where
  exists_extra := by
    obtain ⟨extra, heq, hlen, hlt⟩ := h.exists_extra
    exact ⟨extra, heq, hlen.trans hkl, hlt⟩
  next_le := h.next_le
  isOpen_eq := h.isOpen_eq
  misused_eq := h.misused_eq

lemma Grown.length_le (h : Grown k s t) :
    s.statements.length ≤ t.statements.length ∧ t.statements.length ≤ s.statements.length + k := by
  obtain ⟨extra, heq, hlen, -⟩ := h.exists_extra
  rw [heq, List.length_append]
  omega

lemma Grown.wellFormed (h : Grown k s t) (hs : s.WellFormed) : t.WellFormed := by
  obtain ⟨extra, heq, -, hlt⟩ := h.exists_extra
  intro p hp
  rw [heq] at hp
  rcases List.mem_append.mp hp with hp | hp
  · exact hlt p hp
  · exact (hs p hp).trans_le h.next_le

lemma grown_closed (s : Session) (c : Connection Store) : Grown 0 s (s.closed c) where
  exists_extra := ⟨[], rfl, le_rfl, fun _ hp => absurd hp List.not_mem_nil⟩
  next_le := Nat.le_succ s.next
  isOpen_eq := rfl
  misused_eq := rfl

lemma grown_opened (s : Session) (st : PreparedStatement) (c : Connection Store) :
    Grown 1 s (s.opened st c) where
  exists_extra := by
    refine ⟨[(s.next, st)], rfl, le_rfl, fun p hp => ?_⟩
    rw [List.mem_singleton.mp hp]
    exact Nat.lt_succ_self s.next
  next_le := Nat.le_succ s.next
  isOpen_eq := rfl
  misused_eq := rfl

end Session

/-! ### One level does what the other does -/

/-- Every outcome of `low` is one of `high` on the connection. When it returns, `low` has
finalized its statements; when it throws, all but at most `k`. -/
def Implements (k : ℕ) (low : SQLiteM α) (high : DatabaseM α) : Prop :=
  ∀ s, s.WellFormed → ∀ r t, low.Can s r t →
    Session.Grown (match r with | .ok _ => 0 | .error _ => k) s t ∧
      high.Can s.connection r t.connection

namespace Implements

variable {low : SQLiteM α} {high : DatabaseM α}

lemma mono (h : Implements k low high) (hkl : k ≤ l) : Implements l low high := by
  intro s hs r t hcan
  obtain ⟨hgrown, hhigh⟩ := h s hs r t hcan
  refine ⟨?_, hhigh⟩
  cases r with
  | ok a => exact hgrown
  | error e => exact hgrown.mono hkl

lemma pure (a : α) : Implements k (Pure.pure a) (Pure.pure a) := by
  rintro s - r t ⟨rfl, rfl⟩
  exact ⟨.refl _ _, rfl, rfl⟩

lemma throw (e : DatabaseException) :
    Implements k (MonadExcept.throw e : SQLiteM α) (MonadExcept.throw e : DatabaseM α) := by
  rintro s - r t ⟨rfl, rfl⟩
  exact ⟨.refl _ _, rfl, rfl⟩

/-- Sequencing: only the part that throws leaves statements. -/
lemma bind {f : α → SQLiteM β} {g : α → DatabaseM β} (h : Implements k low high)
    (hfg : ∀ a, Implements k (f a) (g a)) : Implements k (low >>= f) (high >>= g) := by
  intro s hs r t hcan
  rcases Prog.can_bind.mp hcan with ⟨e, rfl, he⟩ | ⟨a, s₁, ha, hf⟩
  · obtain ⟨hgrown, hhigh⟩ := h s hs _ _ he
    exact ⟨hgrown, Prog.can_bind.mpr (.inl ⟨e, rfl, hhigh⟩)⟩
  · obtain ⟨hgrown, hhigh⟩ := h s hs _ _ ha
    obtain ⟨hgrown', hhigh'⟩ := hfg a s₁ (hgrown.wellFormed hs) _ _ hf
    refine ⟨?_, Prog.can_bind.mpr (.inr ⟨a, s₁.connection, hhigh, hhigh'⟩)⟩
    exact (hgrown.trans hgrown').mono (Nat.zero_add _).le

/-- Handling: what throws is left as it is, and the handler goes on there. -/
lemma tryCatch {f : DatabaseException → SQLiteM α} {g : DatabaseException → DatabaseM α}
    (h : Implements 0 low high) (hfg : ∀ e, Implements 0 (f e) (g e)) :
    Implements 0 (MonadExceptOf.tryCatch low f) (MonadExceptOf.tryCatch high g) := by
  intro s hs r t hcan
  rcases Prog.can_tryCatch.mp hcan with ⟨a, rfl, ha⟩ | ⟨e, s₁, he, hf⟩
  · obtain ⟨hgrown, hhigh⟩ := h s hs _ _ ha
    exact ⟨hgrown, Prog.can_tryCatch.mpr (.inl ⟨a, rfl, hhigh⟩)⟩
  · obtain ⟨hgrown, hhigh⟩ := h s hs _ _ he
    obtain ⟨hgrown', hhigh'⟩ := hfg e s₁ (hgrown.wellFormed hs) _ _ hf
    refine ⟨?_, Prog.can_tryCatch.mpr (.inr ⟨e, s₁.connection, hhigh, hhigh'⟩)⟩
    exact (hgrown.trans hgrown').mono (Nat.zero_add _).le

/-- A loop. -/
lemma forM {f : β → SQLiteM PUnit} {g : β → DatabaseM PUnit}
    (h : ∀ x, Implements k (f x) (g x)) (xs : List β) : Implements k (xs.forM f) (xs.forM g) := by
  induction xs with
  | nil => exact pure _
  | cons x xs ih => exact (h x).bind fun _ => ih

end Implements

/-! ### Reading a row -/

/-- A function that reads `a` from the current row of a statement, whichever it is. -/
def Reads (read : ℕ → SQLiteM α) (row : List Value) (a : α) : Prop :=
  ∀ s : Session, s.isOpen = true → ∀ (st : PreparedStatement) c env, st.current = some row →
    Prog.Triple env (fun _ t => t = s.opened st c) (read s.next)
      (fun b _ t => b = a ∧ t = s.opened st c) fun _ _ _ => False

namespace Reads

variable {row : List Value}

lemma pure (a : α) : Reads (fun _ => (Pure.pure a : SQLiteM α)) row a :=
  fun _ _ _ _ _ _ => Prog.Triple.pure fun _ _ h => ⟨rfl, h⟩

lemma bind {read : ℕ → SQLiteM α} {f : α → ℕ → SQLiteM β} {a : α} {b : β} (h : Reads read row a)
    (hf : Reads (f a) row b) : Reads (fun handle => read handle >>= fun a => f a handle) row b := by
  intro s hopen st c env hcurrent
  refine (h s hopen st c env hcurrent).bind fun a' => ?_
  rintro n t ⟨rfl, rfl⟩
  exact hf s hopen st c env hcurrent n _ rfl

/-- A column. -/
lemma column (i : ℕ) : Reads (fun handle => SQLite.column handle i) row (row.getD i .null) := by
  intro s hopen st c env hcurrent
  refine Prog.Triple.bind (triple_checkIsOpen_of_open hopen) fun _ => ?_
  refine Prog.Triple.lift ?_
  rintro n t rfl
  rw [Session.find?_opened, Option.bind_some, hcurrent]
  exact ⟨rfl, rfl⟩

lemma columnInt64 {i : ℕ} {n : ℤ} (h : row.getD i .null = .integer n) :
    Reads (fun handle => SQLite.columnInt64 handle i) row n := by
  refine (column i).bind ?_
  rw [h]
  exact pure n

lemma columnInt {i : ℕ} {n : ℤ} (h : row.getD i .null = .integer n) :
    Reads (fun handle => SQLite.columnInt handle i) row n := columnInt64 h

lemma columnDouble {i : ℕ} {x : ℚ} (h : row.getD i .null = .real x) :
    Reads (fun handle => SQLite.columnDouble handle i) row x := by
  refine (column i).bind ?_
  rw [h]
  exact pure x

lemma columnText {i : ℕ} {x : Text} (h : row.getD i .null = .text x) :
    Reads (fun handle => SQLite.columnText handle i) row x := by
  refine (column i).bind ?_
  rw [h]
  exact pure x

end Reads

/-! ### Between `Prepare` and `Finalize` -/

/-- From a statement on, `body` ends with the statement still there and, if it returns,
not failed. If it throws, it has done nothing on the connection. -/
def Runs (s : Session) (st : PreparedStatement) (c : Connection Store) (body : SQLiteM α)
    (Q : α → Connection Store → Prop) : Prop :=
  ∀ env, Prog.Triple env (fun _ t => t = s.opened st c) body
    (fun a _ t => ∃ st' c', t = s.opened st' c' ∧ st'.failed = none ∧ Q a c')
    fun e _ t => e = .cantExecuteSqlStatementException ∧ ∃ st', t = s.opened st' c

section Runs

variable {st : PreparedStatement} {c : Connection Store} {Q : α → Connection Store → Prop}

/-- A placeholder is given its value first. -/
lemma runs_bind (hs : s.WellFormed) (hopen : s.isOpen = true) (pos : ℕ) (value : Value)
    {body : SQLiteM α} (h : Runs s (st.given pos value) c body Q) :
    Runs s st c (bind s.next pos value >>= fun _ => body) Q := by
  intro env
  refine Prog.Triple.bind ((triple_bind hs hopen pos value).weaken (fun _ _ => id)
    (fun _ _ _ => id) ?_) fun _ => h env
  rintro e n t ⟨rfl, rfl⟩
  exact ⟨rfl, st, rfl⟩

/-- Placeholders that are bound one after another. -/
def bindAll (handle : ℕ) : ℕ → List Value → SQLiteM Unit
  | _, [] => pure ()
  | pos, value :: values => do
      bind handle pos value
      bindAll handle (pos + 1) values

/-- A statement whose placeholders have these values, from the first on. -/
def PreparedStatement.bound (sql : Sql) (values : List Value) : PreparedStatement :=
  { fresh sql with parameters := fun pos => (Value.null :: values).getD pos .null }

/-- One more placeholder. -/
lemma PreparedStatement.bound_concat (sql : Sql) (values : List Value) (value : Value) :
    (bound sql values).given (values.length + 1) value = bound sql (values ++ [value]) := by
  refine congrArg (fun p => { fresh sql with parameters := p }) (funext fun pos => ?_)
  show Function.update (fun pos => (Value.null :: values).getD pos .null)
      (values.length + 1) value pos
    = (Value.null :: (values ++ [value])).getD pos .null
  rw [← List.cons_append]
  rcases lt_trichotomy pos (values.length + 1) with hpos | rfl | hpos
  · rw [Function.update_of_ne hpos.ne, List.getD_append _ _ _ _ hpos]
  · rw [Function.update_self, List.getD_append_right _ _ _ _ (by simp)]
    simp
  · rw [Function.update_of_ne hpos.ne', List.getD_eq_default _ _ (by simpa using hpos.le),
      List.getD_eq_default _ _ (by simpa using hpos)]

/-- **The placeholders have the values they are bound to**: by the values still to come. -/
lemma runs_bindAll (hs : s.WellFormed) (hopen : s.isOpen = true) {sql : Sql} {body : SQLiteM α}
    {values : List Value} (h : Runs s (.bound sql values) c body Q) :
    Runs s (.fresh sql) c (bindAll s.next 1 values >>= fun _ => body) Q := by
  have hfresh : PreparedStatement.fresh sql = .bound sql [] := by
    refine congrArg (fun p => { PreparedStatement.fresh sql with parameters := p })
      (funext fun pos => ?_)
    cases pos <;> rfl
  suffices hgen : ∀ rest done, done ++ rest = values → Runs s (.bound sql done) c
      (bindAll s.next (done.length + 1) rest >>= fun _ => body) Q from
    hfresh ▸ hgen values [] rfl
  intro rest
  induction rest with
  | nil =>
      rintro done rfl
      rw [List.append_nil] at h
      exact h
  | cons value rest ih =>
      rintro done rfl
      have hrest := ih (done ++ [value]) (by simp)
      rw [bindAll, bind_assoc]
      refine runs_bind hs hopen _ value ?_
      rw [PreparedStatement.bound_concat]
      simpa using hrest

variable {ρ : Type} {read : ℕ → SQLiteM α} {xs : List ρ} {columns : ρ → List Value} {f : ρ → α}

/-- **The first row**, if there is one. -/
lemma runs_stepFirst (hs : s.WellFormed) (hopen : s.isOpen = true) (hst : st.Selects)
    (hfailed : st.failed = none) (hread : ∀ x, Reads read (columns x) (f x))
    (hpending : st.pending c.data = xs.map columns) :
    Runs s st c (stepFirst s.next (read s.next)) fun a c' => a = xs.head?.map f ∧ c' = c := by
  intro env
  refine Prog.Triple.bind ((triple_step hs hopen hst).weaken (fun _ _ => id) (fun _ _ _ => id)
    fun _ _ _ => id) fun ret => ?_
  rw [hpending]
  cases xs with
  | nil =>
      rintro n t ⟨rfl, rfl⟩
      exact ⟨_, c, rfl, hfailed, rfl, rfl⟩
  | cons x xs =>
      have hgoal : Prog.Triple env
          (fun _ t => t = s.opened (deliver st (columns x :: xs.map columns)).2 c)
          (some <$> read s.next)
          (fun a _ t => ∃ st' c', t = s.opened st' c' ∧ st'.failed = none ∧
            a = some (f x) ∧ c' = c)
          fun e _ t => e = .cantExecuteSqlStatementException ∧ ∃ st', t = s.opened st' c := by
        rw [map_eq_pure_bind]
        refine Prog.Triple.bind ((hread x s hopen _ c env rfl).weaken (fun _ _ => id)
          (fun _ _ _ => id) fun _ _ _ h => h.elim) fun a => Prog.Triple.pure ?_
        rintro n t ⟨rfl, rfl⟩
        exact ⟨_, c, rfl, hfailed, rfl, rfl⟩
      rintro n t ⟨rfl, rfl⟩
      exact hgoal n _ rfl

/-- The rounds of a loop, if there are enough of them: by the rows still to come. -/
lemma runs_stepRounds (hs : s.WellFormed) (hopen : s.isOpen = true) (hst : st.Selects)
    (hfailed : st.failed = none) (hread : ∀ x, Reads read (columns x) (f x))
    (hpending : st.pending c.data = xs.map columns) :
    Runs s st c (stepRounds s.next (read s.next) (xs.length + 1))
      fun as c' => as = xs.map f ∧ c' = c := by
  induction xs generalizing st with
  | nil =>
      intro env
      refine Prog.Triple.bind ((triple_step hs hopen hst).weaken (fun _ _ => id)
        (fun _ _ _ => id) fun _ _ _ => id) fun ret => ?_
      rw [hpending]
      rintro n t ⟨rfl, rfl⟩
      exact ⟨_, c, rfl, hfailed, rfl, rfl⟩
  | cons x xs ih =>
      set st₁ := (deliver st (columns x :: xs.map columns)).2 with hst₁
      have hrest := @ih st₁ hst hfailed rfl
      intro env
      refine Prog.Triple.bind ((triple_step hs hopen hst).weaken (fun _ _ => id)
        (fun _ _ _ => id) fun _ _ _ => id) fun ret => ?_
      rw [hpending]
      have hgoal : Prog.Triple env (fun _ t => t = s.opened st₁ c)
          (read s.next >>= fun a => stepRounds s.next (read s.next) (xs.length + 1) >>=
            fun as => Pure.pure (a :: as))
          (fun as _ t => ∃ st' c', t = s.opened st' c' ∧ st'.failed = none ∧
            as = (x :: xs).map f ∧ c' = c)
          fun e _ t => e = .cantExecuteSqlStatementException ∧ ∃ st', t = s.opened st' c := by
        refine Prog.Triple.bind ((hread x s hopen st₁ c env rfl).weaken (fun _ _ => id)
          (fun _ _ _ => id) fun _ _ _ h => h.elim) fun a => ?_
        rintro n t ⟨rfl, rfl⟩
        refine Prog.Triple.bind (hrest env) (fun as => Prog.Triple.pure ?_) n _ rfl
        rintro n t ⟨st', c', rfl, hst', rfl, rfl⟩
        exact ⟨st', c', rfl, hst', rfl, rfl⟩
      rintro n t ⟨rfl, rfl⟩
      exact hgoal n _ rfl

/-- **All rows.** -/
lemma runs_stepAll (hs : s.WellFormed) (hopen : s.isOpen = true) (hst : st.Selects)
    (hfailed : st.failed = none) (hread : ∀ x, Reads read (columns x) (f x))
    (hpending : st.pending c.data = xs.map columns) :
    Runs s st c (stepAll s.next (read s.next)) fun as c' => as = xs.map f ∧ c' = c := by
  intro env
  refine Prog.Triple.bind (Q := fun n _ t => n = xs.length ∧ t = s.opened st c)
    (Prog.Triple.lift ?_) fun n => ?_
  · rintro n t rfl
    rw [Session.find?_opened]
    refine ⟨?_, rfl⟩
    rw [Option.elim_some, Session.opened_connection, hpending, List.length_map]
  · rintro m t ⟨rfl, rfl⟩
    exact runs_stepRounds hs hopen hst hfailed hread hpending env m _ rfl

/-- A column of the first row, which is not asked for. -/
lemma runs_stepRead (hs : s.WellFormed) (hopen : s.isOpen = true) (hst : st.Selects)
    (hfailed : st.failed = none) {row : List Value} {rows : List (List Value)} {a : α}
    (hread : Reads read row a) (hpending : st.pending c.data = row :: rows) :
    Runs s st c (step s.next >>= fun _ => read s.next) fun b c' => b = a ∧ c' = c := by
  intro env
  refine Prog.Triple.bind ((triple_step hs hopen hst).weaken (fun _ _ => id) (fun _ _ _ => id)
    fun _ _ _ => id) fun ret => ?_
  rw [hpending]
  rintro n t ⟨-, rfl⟩
  refine (hread s hopen (deliver st (row :: rows)).2 c env rfl).weaken (fun _ _ => id) ?_
    (fun _ _ _ h => h.elim) n _ rfl
  rintro b m t ⟨rfl, rfl⟩
  exact ⟨_, c, rfl, hfailed, rfl, rfl⟩

/-- **A write.** -/
lemma runs_modify (hs : s.WellFormed) (hopen : s.isOpen = true)
    {statement : Parameters → Statement Store} (hsql : st.sql = .modify statement)
    (hrows : st.rows = none) (hfailed : st.failed = none) :
    Runs s st c (step s.next >>= fun _ => Pure.pure ())
      fun _ c' => c.step (statement st.parameters) = some c' := by
  intro env
  refine Prog.Triple.bind ((triple_step_modify hs hopen hsql hrows).weaken (fun _ _ => id)
    (fun _ _ _ => id) fun _ _ _ => id) fun ret => Prog.Triple.pure ?_
  rintro n t ⟨c', hstep, rfl⟩
  exact ⟨_, c', rfl, hfailed, hstep⟩

/-- A consequence of what it does. -/
lemma Runs.mono {body : SQLiteM α} {Q' : α → Connection Store → Prop} (h : Runs s st c body Q)
    (hQ : ∀ a c', Q a c' → Q' a c') : Runs s st c body Q' := by
  refine fun env => (h env).weaken (fun _ _ => id) ?_ fun _ _ _ => id
  rintro a n t ⟨st', c', ht, hst', ha⟩
  exact ⟨st', c', ht, hst', hQ a c' ha⟩

/-- **A guarded statement is finalized**, whether its body returns or throws. -/
lemma triple_guarded (hs : s.WellFormed) (hopen : s.isOpen = true) {body : SQLiteM α}
    (h : Runs s st c body Q) (env : ℕ → Option Fault) :
    Prog.Triple env (fun _ t => t = s.opened st c) (guarded s.next body)
      (fun a _ t => ∃ c', t = s.closed c' ∧ Q a c')
      fun e _ t => e = .cantExecuteSqlStatementException ∧ t = s.closed c := by
  refine Prog.Triple.bind (Q := fun a _ t => ∃ st' c', t = s.opened st' c' ∧ st'.failed = none ∧
    Q a c') (Prog.Triple.tryCatch (h env) fun ex => ?_) fun a => ?_
  · rintro n t ⟨rfl, st', rfl⟩
    refine Prog.Triple.bind (Q := fun _ _ t => t = s.closed c) ((triple_finalize hs hopen).weaken
      (fun _ _ => id) (fun _ _ _ => id) fun e n t ht => ⟨ht.1, ht.2.2⟩) (fun _ => ?_) n _ rfl
    rintro n t rfl
    exact ⟨rfl, rfl⟩
  · rintro n t ⟨st', c', rfl, hst', ha⟩
    refine Prog.Triple.bind (Q := fun _ _ t => t = s.closed c') ((triple_finalize hs hopen).weaken
      (fun _ _ => id) (fun _ _ _ => id) fun e n t ht => absurd hst' ht.2.1) (fun _ => ?_) n _ rfl
    rintro n t rfl
    exact ⟨c', rfl, ha⟩

/-- An unguarded statement is finalized if its body returns. -/
lemma triple_unguarded (hs : s.WellFormed) (hopen : s.isOpen = true) {body : SQLiteM α}
    (h : Runs s st c body Q) (env : ℕ → Option Fault) :
    Prog.Triple env (fun _ t => t = s.opened st c) (unguarded s.next body)
      (fun a _ t => ∃ c', t = s.closed c' ∧ Q a c')
      fun e _ t => e = .cantExecuteSqlStatementException ∧ ∃ st', t = s.opened st' c := by
  refine Prog.Triple.bind (h env) fun a => ?_
  rintro n t ⟨st', c', rfl, hst', ha⟩
  refine Prog.Triple.bind (Q := fun _ _ t => t = s.closed c') ((triple_finalize hs hopen).weaken
    (fun _ _ => id) (fun _ _ _ => id) fun e n t ht => absurd hst' ht.2.1) (fun _ => ?_) n _ rfl
  rintro n t rfl
  exact ⟨c', rfl, ha⟩

end Runs

/-! ### Functions that are one call -/

section Calls

variable {sql : Sql} {body : ℕ → SQLiteM α} {high : DatabaseM α}
  {Q : Connection Store → α → Connection Store → Prop}

/-- A function that fails as its `Prepare` does, and otherwise does what is asked for. -/
lemma implements_guarded (herror : ∀ c, high.Can c (.error .cantExecuteSqlStatementException) c)
    (hok : ∀ c a c', Q c a c' → high.Can c (.ok a) c')
    (h : ∀ s : Session, s.WellFormed → s.isOpen = true →
      Runs s (.fresh sql) s.connection (body s.next) (Q s.connection)) :
    Implements 0 (prepare sql >>= fun handle => guarded handle (body handle)) high := by
  intro s hs r t hcan
  have hpost := Prog.Triple.can (P := fun t => t = s)
    (Q := fun a t => ∃ c', t = s.closed c' ∧ Q s.connection a c')
    (E := fun e t => e = .cantExecuteSqlStatementException ∧ (t = s ∨ t = s.closed s.connection))
    (fun env => ?_) rfl hcan
  · cases r with
    | ok a =>
        obtain ⟨c', rfl, ha⟩ := hpost.1 a rfl
        exact ⟨s.grown_closed c', hok _ _ _ ha⟩
    | error e =>
        obtain ⟨rfl, rfl | rfl⟩ := hpost.2 e rfl
        · exact ⟨.refl 0 t, herror t.connection⟩
        · exact ⟨s.grown_closed s.connection, herror s.connection⟩
  · refine Prog.Triple.bind ((triple_prepare sql).weaken (fun _ _ => id) (fun _ _ _ => id)
      fun e n t ht => ⟨ht.1, .inl ht.2⟩) fun handle => ?_
    rintro n t ⟨hopen, rfl, rfl⟩
    exact (triple_guarded hs hopen (h s hs hopen) env).weaken (fun _ _ => id) (fun _ _ _ => id)
      (fun e n t ht => ⟨ht.1, .inr ht.2⟩) n _ rfl

/-- The same of a function that does not finalize its statement when it throws. -/
lemma implements_unguarded (herror : ∀ c, high.Can c (.error .cantExecuteSqlStatementException) c)
    (hok : ∀ c a c', Q c a c' → high.Can c (.ok a) c')
    (h : ∀ s : Session, s.WellFormed → s.isOpen = true →
      Runs s (.fresh sql) s.connection (body s.next) (Q s.connection)) :
    Implements 1 (prepare sql >>= fun handle => unguarded handle (body handle)) high := by
  intro s hs r t hcan
  have hpost := Prog.Triple.can (P := fun t => t = s)
    (Q := fun a t => ∃ c', t = s.closed c' ∧ Q s.connection a c')
    (E := fun e t => e = .cantExecuteSqlStatementException ∧
      (t = s ∨ ∃ st, t = s.opened st s.connection)) (fun env => ?_) rfl hcan
  · cases r with
    | ok a =>
        obtain ⟨c', rfl, ha⟩ := hpost.1 a rfl
        exact ⟨s.grown_closed c', hok _ _ _ ha⟩
    | error e =>
        obtain ⟨rfl, rfl | ⟨st, rfl⟩⟩ := hpost.2 e rfl
        · exact ⟨.refl 1 t, herror t.connection⟩
        · exact ⟨s.grown_opened st s.connection, herror s.connection⟩
  · refine Prog.Triple.bind ((triple_prepare sql).weaken (fun _ _ => id) (fun _ _ _ => id)
      fun e n t ht => ⟨ht.1, .inl ht.2⟩) fun handle => ?_
    rintro n t ⟨hopen, rfl, rfl⟩
    exact (triple_unguarded hs hopen (h s hs hopen) env).weaken (fun _ _ => id) (fun _ _ _ => id)
      (fun e n t ht => ⟨ht.1, .inr ht.2⟩) n _ rfl

/-- A statement that fails. -/
private def fault : Fault := ⟨0, .error⟩

lemma can_query {f : Store → α} (c : Connection Store) : (query f).Can c (.ok (f c.data)) c :=
  Prog.can_lift.mpr ⟨none, rfl⟩

lemma can_query_error {f : Store → α} (c : Connection Store) :
    (query f).Can c (.error .cantExecuteSqlStatementException) c :=
  Prog.can_lift.mpr ⟨some fault, rfl⟩

lemma can_execSql {sts : List (Statement Store)} {c c' : Connection Store}
    (h : c.execute none sts = (true, c')) : (execSql sts).Can c (.ok ()) c' :=
  Prog.can_lift.mpr ⟨none, by rw [Option.map_none, h]⟩

lemma can_execSql_error {st : Statement Store} (c : Connection Store) :
    (execSql [st]).Can c (.error .cantExecuteSqlStatementException) c :=
  Prog.can_lift.mpr ⟨some fault, rfl⟩

/-- **A guarded `select`.** -/
lemma implements_query {f : Store → α} (h : ∀ s : Session, s.WellFormed → s.isOpen = true →
      Runs s (.fresh sql) s.connection (body s.next)
        fun a c' => a = f s.connection.data ∧ c' = s.connection) :
    Implements 0 (prepare sql >>= fun handle => guarded handle (body handle)) (query f) := by
  refine implements_guarded (Q := fun c a c' => a = f c.data ∧ c' = c) can_query_error ?_ h
  rintro c a c' ⟨rfl, rfl⟩
  exact can_query c'

/-- An unguarded `select`. -/
lemma implements_query_unguarded {f : Store → α} (h : ∀ s : Session, s.WellFormed →
      s.isOpen = true → Runs s (.fresh sql) s.connection (body s.next)
        fun a c' => a = f s.connection.data ∧ c' = s.connection) :
    Implements 1 (prepare sql >>= fun handle => unguarded handle (body handle)) (query f) := by
  refine implements_unguarded (Q := fun c a c' => a = f c.data ∧ c' = c) can_query_error ?_ h
  rintro c a c' ⟨rfl, rfl⟩
  exact can_query c'

/-- **A guarded write.** -/
lemma implements_execSql {body : ℕ → SQLiteM Unit} {st : Statement Store}
    (h : ∀ s : Session, s.WellFormed → s.isOpen = true →
      Runs s (.fresh sql) s.connection (body s.next) fun _ c' => s.connection.step st = some c') :
    Implements 0 (prepare sql >>= fun handle => guarded handle (body handle)) (execSql [st]) := by
  refine implements_guarded (Q := fun c _ c' => c.step st = some c') can_execSql_error ?_ h
  intro c a c' hstep
  refine can_execSql ?_
  simp only [Connection.execute_none, hstep, Connection.execute_nil]

/-- The outcomes of a `select`. -/
lemma can_query_iff {f : Store → α} {c c' : Connection Store} {r : Except DatabaseException α} :
    (query f).Can c r c' ↔
      c' = c ∧ (r = .ok (f c.data) ∨ r = .error .cantExecuteSqlStatementException) := by
  refine ⟨fun h => ?_, ?_⟩
  · obtain ⟨fault, hop⟩ := Prog.can_lift.mp h
    cases fault with
    | none => exact ⟨(Prod.mk.inj hop).2.symm, .inl (Prod.mk.inj hop).1.symm⟩
    | some fault => exact ⟨(Prod.mk.inj hop).2.symm, .inr (Prod.mk.inj hop).1.symm⟩
  · rintro ⟨rfl, rfl | rfl⟩
    · exact can_query c'
    · exact can_query_error c'

/-- A `select` followed by what does not touch the connection. -/
lemma Implements.of_query {low : SQLiteM β} {f : Store → β} (h : Implements k low (query f))
    {cont : β → SQLiteM α} {g : β → Except DatabaseException α}
    (hcont : ∀ b s r t, (cont b).Can s r t → r = g b ∧ t = s)
    (herror : ∀ c, high.Can c (.error .cantExecuteSqlStatementException) c)
    (hok : ∀ c : Connection Store, high.Can c (g (f c.data)) c) :
    Implements k (low >>= cont) high := by
  intro s hs r t hcan
  rcases Prog.can_bind.mp hcan with ⟨e, rfl, he⟩ | ⟨b, s₁, hb, hrest⟩
  · obtain ⟨hgrown, hhigh⟩ := h s hs _ _ he
    obtain ⟨hc, hr | hr⟩ := can_query_iff.mp hhigh
    · cases hr
    · rw [Except.error.inj hr, hc]
      exact ⟨hgrown, herror s.connection⟩
  · obtain ⟨hgrown, hhigh⟩ := h s hs _ _ hb
    obtain ⟨hc, hr | hr⟩ := can_query_iff.mp hhigh
    · obtain ⟨rfl, rfl⟩ := hcont _ _ _ _ hrest
      refine ⟨?_, ?_⟩
      · cases g b with
        | ok a => exact hgrown
        | error e => exact hgrown.mono (Nat.zero_le k)
      · rw [Except.ok.inj hr, hc]
        exact hok s.connection
    · cases hr

/-- What is made of the result of a `select`. -/
lemma Implements.query_map {low : SQLiteM β} {f : Store → β} (h : Implements k low (query f))
    (F : β → α) : Implements k (low >>= fun b => Pure.pure (F b)) (query fun s => F (f s)) :=
  h.of_query (g := fun b => .ok (F b)) (fun _ _ _ _ h => h) can_query_error fun _ =>
    can_query_iff.mpr ⟨rfl, .inl rfl⟩

lemma can_found {e : DatabaseException} (b : Option α) (s : Session)
    (r : Except DatabaseException α)
    (t : Session) (h : (found e b).Can s r t) : r = b.elim (.error e) .ok ∧ t = s := by
  cases b with
  | none => exact h
  | some a => exact h

/-- The outcome of an undisturbed `select` that must find a row. -/
lemma can_queryFirst {f : Store → Option α} (c : Connection Store) :
    (Database.queryFirst f).Can c ((f c.data).elim (.error .itemNotFoundException) .ok) c := by
  refine Prog.can_lift.mpr ⟨none, ?_⟩
  cases f c.data <;> rfl

/-- A `select` that must find a row. -/
lemma Implements.queryFirst {low : SQLiteM (Option α)} {f : Store → Option α}
    (h : Implements k low (query f)) :
    Implements k (low >>= found .itemNotFoundException) (Database.queryFirst f) :=
  h.of_query can_found (fun _ => Prog.can_lift.mpr ⟨some fault, rfl⟩) can_queryFirst

/-- What SQLite makes of a text if `fault` is put on it. -/
private def executed (s : Session) (sts : List (Statement Store)) (fault : Option Fault) :
    Bool × Connection Store :=
  s.connection.execute (fault.map fun f => min f.position (sts.length - 1)) sts

/-- **`Exec` of a text.** -/
lemma implements_exec {sts : List (Statement Store)} (hne : sts ≠ []) :
    Implements 0 (exec sts) (execSql sts) := by
  intro s hs r t hcan
  have hpost := Prog.Triple.can (P := fun t => t = s)
    (Q := fun _ t => ∃ fault c, executed s sts fault = (true, c) ∧ t = { s with connection := c })
    (E := fun e t => e = .cantExecuteSqlStatementException ∧ ∃ fault c,
      executed s sts fault = (false, c) ∧ t = { s with connection := c }) (fun env => ?_) rfl hcan
  · cases r with
    | ok a =>
        obtain ⟨fault, c, hexec, rfl⟩ := hpost.1 a rfl
        refine ⟨⟨⟨[], rfl, le_rfl, by simp⟩, le_rfl, rfl, rfl⟩, Prog.can_lift.mpr ⟨fault, ?_⟩⟩
        rw [← executed, hexec]
    | error e =>
        obtain ⟨rfl, fault, c, hexec, rfl⟩ := hpost.2 e rfl
        refine ⟨⟨⟨[], rfl, le_rfl, by simp⟩, le_rfl, rfl, rfl⟩, Prog.can_lift.mpr ⟨fault, ?_⟩⟩
        rw [← executed, hexec]
  · refine Prog.Triple.bind (Q := fun _ _ t => t = s) (triple_checkIsOpen.weaken (fun _ _ => id)
      (fun _ _ _ h => h.2) ?_) fun _ => ?_
    · -- nothing is executed, as if the first statement failed
      rintro e n t ⟨rfl, rfl⟩
      refine ⟨rfl, some fault, t.connection, ?_, rfl⟩
      cases sts with
      | nil => exact absurd rfl hne
      | cons st sts => rfl
    · refine Prog.Triple.bind (Q := fun ret _ t => ∃ fault done c, t = { s with connection := c } ∧
        executed s sts fault = (done, c) ∧ (done = false ↔ ∃ code, ret = .failure code))
        (Prog.Triple.lift ?_) fun ret => ?_
      · rintro n t rfl
        rcases hexec : executed t sts (env n) with ⟨_ | _, c⟩
        · rw [executed] at hexec
          rw [hexec]
          exact ⟨env n, false, c, rfl, hexec, fun _ => ⟨_, rfl⟩, fun _ => rfl⟩
        · rw [executed] at hexec
          rw [hexec]
          exact ⟨env n, true, c, rfl, hexec, by simp, by simp⟩
      · rintro n t ⟨fault, done, c, rfl, hexec, hdone⟩
        cases ret with
        | failure code =>
            rw [hdone.mpr ⟨code, rfl⟩] at hexec
            exact ⟨rfl, fault, c, hexec, rfl⟩
        | ok => exact ⟨fault, c, hexec.trans (by simpa using hdone), rfl⟩
        | row => exact ⟨fault, c, hexec.trans (by simpa using hdone), rfl⟩
        | done => exact ⟨fault, c, hexec.trans (by simpa using hdone), rfl⟩

end Calls

end Slas.Database.SQLite
