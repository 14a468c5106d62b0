import Mathlib

/-!
Programs that touch a shared store through atomic calls only.

* `Prog`: a program returns, throws, or makes a call and goes on with its
  outcome; it is a lawful monad with `throw` and `tryCatch`;
* `exec`: its run when no call is disturbed, with `exec_bind` and the loop rules
  `exec_forM` and `exec_foldlM`;
* `run`: its run in an environment that may put a fault on any call;
* `Triple`: pre- and postconditions of such runs, which may speak of the number
  of the next call, with the rules `Triple.pure`, `Triple.lift`, `Triple.bind`,
  `Triple.tryCatch`, `Triple.weaken`, `Triple.forM` and `Triple.foldlM`;
* `Keeps`: an invariant of the store that every run keeps;
* `Steps`: a relation that every single call stays in, whichever store it finds,
  with `Steps.keeps`;
* `Strict`: a program that throws if any of its calls is disturbed, with
  `Strict.exec_of_run`.
-/

/-- A program on a store `σ`. A call is told the fault `φ` the environment puts
on it, if any, and answers with a value or an exception `ε`. -/
inductive Prog (σ φ ε α : Type) : Type 1 where
  | pure (a : α)
  | throw (e : ε)
  | call {β : Type} (op : Option φ → σ → Except ε β × σ) (k : Except ε β → Prog σ φ ε α)

namespace Prog

variable {σ φ ε α β γ : Type}

/-- Sequencing: an exception skips what follows. -/
def bind : Prog σ φ ε α → (α → Prog σ φ ε β) → Prog σ φ ε β
  | pure a, f => f a
  | throw e, _ => throw e
  | call op k, f => call op fun r => (k r).bind f

/-- Handling: an exception is passed to the handler. -/
def catchWith : Prog σ φ ε α → (ε → Prog σ φ ε α) → Prog σ φ ε α
  | pure a, _ => pure a
  | throw e, h => h e
  | call op k, h => call op fun r => (k r).catchWith h

instance : Monad (Prog σ φ ε) where
  pure := Prog.pure
  bind := Prog.bind

instance : MonadExceptOf ε (Prog σ φ ε) where
  throw := Prog.throw
  tryCatch := Prog.catchWith

lemma bind_pure' (p : Prog σ φ ε α) : p.bind (fun a => pure a) = p := by
  induction p with
  | pure a => rfl
  | throw e => rfl
  | call op k ih => exact congrArg (call op) (funext ih)

lemma bind_assoc' (p : Prog σ φ ε α) (f : α → Prog σ φ ε β) (g : β → Prog σ φ ε γ) :
    (p.bind f).bind g = p.bind fun a => (f a).bind g := by
  induction p with
  | pure a => rfl
  | throw e => rfl
  | call op k ih => exact congrArg (call op) (funext ih)

instance : LawfulMonad (Prog σ φ ε) :=
  LawfulMonad.mk' (Prog σ φ ε) bind_pure' (fun _ _ => rfl) bind_assoc'

/-- One call whose exceptions are those of the program. -/
def lift (op : Option φ → σ → Except ε α × σ) : Prog σ φ ε α :=
  call op fun
    | .ok a => pure a
    | .error e => throw e

/-! ### Undisturbed runs -/

/-- The outcome of a program and the store it leaves when no call is disturbed. -/
def exec : Prog σ φ ε α → σ → Except ε α × σ
  | pure a, s => (.ok a, s)
  | throw e, s => (.error e, s)
  | call op k, s => (k (op none s).1).exec (op none s).2

@[simp] lemma exec_pure (a : α) (s : σ) : (Pure.pure a : Prog σ φ ε α).exec s = (.ok a, s) := rfl

@[simp] lemma exec_throw (e : ε) (s : σ) :
    (MonadExcept.throw e : Prog σ φ ε α).exec s = (.error e, s) := rfl

@[simp] lemma exec_lift (op : Option φ → σ → Except ε α × σ) (s : σ) :
    (lift op).exec s = op none s := by
  show (match (op none s).1 with
    | .ok a => pure a
    | .error e => throw e).exec (op none s).2 = _
  rcases op none s with ⟨a | e, s'⟩ <;> rfl

lemma exec_bind (p : Prog σ φ ε α) (f : α → Prog σ φ ε β) (s : σ) :
    (p >>= f).exec s = match p.exec s with
      | (.ok a, s') => (f a).exec s'
      | (.error e, s') => (.error e, s') := by
  show (p.bind f).exec s = _
  induction p generalizing s with
  | pure a => rfl
  | throw e => rfl
  | call op k ih => exact ih _ _

lemma exec_bind_ok {p : Prog σ φ ε α} {f : α → Prog σ φ ε β} {s s' : σ} {a : α}
    (h : p.exec s = (.ok a, s')) : (p >>= f).exec s = (f a).exec s' := by
  rw [exec_bind, h]

lemma exec_bind_error {p : Prog σ φ ε α} {f : α → Prog σ φ ε β} {s s' : σ} {e : ε}
    (h : p.exec s = (.error e, s')) : (p >>= f).exec s = (.error e, s') := by
  rw [exec_bind, h]

/-- A sequence that has returned has returned from its first part. -/
lemma of_exec_bind {p : Prog σ φ ε α} {f : α → Prog σ φ ε β} {s s' : σ} {b : β}
    (h : (p >>= f).exec s = (.ok b, s')) :
    ∃ a s₁, p.exec s = (.ok a, s₁) ∧ (f a).exec s₁ = (.ok b, s') := by
  rw [exec_bind] at h
  rcases hrun : p.exec s with ⟨e | a, s₁⟩
  · rw [hrun] at h
    exact absurd (congrArg Prod.fst h) (by simp)
  · rw [hrun] at h
    exact ⟨a, s₁, rfl, h⟩

/-- A loop whose body always returns keeps what each round keeps: `I` speaks of
the elements already handled. -/
lemma exec_forM (xs : List α) (f : α → Prog σ φ ε Unit) (I : List α → σ → Prop)
    (hstep : ∀ done x, done ++ [x] <+: xs → ∀ s, I done s →
      ∃ s', (f x).exec s = (.ok (), s') ∧ I (done ++ [x]) s')
    {s : σ} (h : I [] s) : ∃ s', (xs.forM f).exec s = (.ok (), s') ∧ I xs s' := by
  suffices hgen : ∀ rest done, done ++ rest = xs → ∀ s, I done s →
      ∃ s', (rest.forM f).exec s = (.ok (), s') ∧ I xs s' from hgen xs [] rfl s h
  intro rest
  induction rest with
  | nil =>
      rintro done hdone s hs
      rw [List.append_nil] at hdone
      exact ⟨s, rfl, hdone ▸ hs⟩
  | cons x rest ih =>
      intro done hdone s hs
      obtain ⟨s₁, hrun, hs₁⟩ := hstep done x ⟨rest, by simpa using hdone⟩ s hs
      obtain ⟨s₂, hrest, hs₂⟩ := ih (done ++ [x]) (by simpa using hdone) s₁ hs₁
      exact ⟨s₂, by exact (exec_bind_ok hrun).trans hrest, hs₂⟩

/-- A loop with an accumulator, likewise. -/
lemma exec_foldlM (xs : List α) (f : β → α → Prog σ φ ε β) (I : List α → β → σ → Prop)
    (hstep : ∀ done x, done ++ [x] <+: xs → ∀ b s, I done b s →
      ∃ b' s', (f b x).exec s = (.ok b', s') ∧ I (done ++ [x]) b' s')
    {b : β} {s : σ} (h : I [] b s) :
    ∃ b' s', (xs.foldlM f b).exec s = (.ok b', s') ∧ I xs b' s' := by
  suffices hgen : ∀ rest done, done ++ rest = xs → ∀ b s, I done b s →
      ∃ b' s', (rest.foldlM f b).exec s = (.ok b', s') ∧ I xs b' s' from hgen xs [] rfl b s h
  intro rest
  induction rest with
  | nil =>
      rintro done hdone b s hs
      rw [List.append_nil] at hdone
      exact ⟨b, s, rfl, hdone ▸ hs⟩
  | cons x rest ih =>
      intro done hdone b s hs
      obtain ⟨b₁, s₁, hrun, hs₁⟩ := hstep done x ⟨rest, by simpa using hdone⟩ b s hs
      obtain ⟨b₂, s₂, hrest, hs₂⟩ := ih (done ++ [x]) (by simpa using hdone) b₁ s₁ hs₁
      exact ⟨b₂, s₂, by rw [List.foldlM_cons, exec_bind_ok hrun, hrest], hs₂⟩

/-- A loop that has returned has kept what each round keeps if it returns. -/
lemma of_exec_foldlM (xs : List α) (f : β → α → Prog σ φ ε β) (I : List α → β → σ → Prop)
    (hstep : ∀ done x, done ++ [x] <+: xs → ∀ b s b' s', I done b s →
      (f b x).exec s = (.ok b', s') → I (done ++ [x]) b' s')
    {b b' : β} {s s' : σ} (h : I [] b s) (hrun : (xs.foldlM f b).exec s = (.ok b', s')) :
    I xs b' s' := by
  suffices hgen : ∀ rest done, done ++ rest = xs → ∀ b s, I done b s →
      (rest.foldlM f b).exec s = (.ok b', s') → I xs b' s' from hgen xs [] rfl b s h hrun
  intro rest
  induction rest with
  | nil =>
      rintro done hdone b s hs hrun
      obtain ⟨hb, rfl⟩ := Prod.mk.inj hrun
      obtain rfl := Except.ok.inj hb
      rw [List.append_nil] at hdone
      exact hdone ▸ hs
  | cons x rest ih =>
      intro done hdone b s hs hrun
      rw [List.foldlM_cons] at hrun
      obtain ⟨b₁, s₁, hround, hrest⟩ := of_exec_bind hrun
      exact ih (done ++ [x]) (by simpa using hdone) b₁ s₁
        (hstep done x ⟨rest, by simpa using hdone⟩ b s b₁ s₁ hs hround) hrest

/-- A loop whose body returns and leaves the store alone is a fold. -/
lemma exec_foldlM_of_reads {f : β → α → Prog σ φ ε β} {g : β → α → β} {s : σ}
    (h : ∀ b x, (f b x).exec s = (.ok (g b x), s)) (xs : List α) (b : β) :
    (xs.foldlM f b).exec s = (.ok (xs.foldl g b), s) := by
  induction xs generalizing b with
  | nil => rfl
  | cons x xs ih => rw [List.foldlM_cons, exec_bind_ok (h b x), ih, List.foldl_cons]

/-- A loop that leaves the store alone and one round of which throws, whatever has
been accumulated. -/
lemma exec_foldlM_error {f : β → α → Prog σ φ ε β} {s : σ} {e : ε} {xs : List α}
    (hrounds : ∀ x ∈ xs, ∀ b, (∃ b', (f b x).exec s = (.ok b', s)) ∨ (f b x).exec s = (.error e, s))
    (hthrow : ∃ x ∈ xs, ∀ b, (f b x).exec s = (.error e, s)) (b : β) :
    (xs.foldlM f b).exec s = (.error e, s) := by
  induction xs generalizing b with
  | nil =>
      obtain ⟨x, hx, -⟩ := hthrow
      exact absurd hx List.not_mem_nil
  | cons x xs ih =>
      rw [List.forall_mem_cons] at hrounds
      rw [List.foldlM_cons]
      rcases hrounds.1 b with ⟨b', hrun⟩ | hrun
      · rw [exec_bind_ok hrun]
        refine ih hrounds.2 ?_ b'
        obtain ⟨y, hy, hbad⟩ := hthrow
        rcases List.mem_cons.mp hy with rfl | hy
        · exact absurd (congrArg Prod.fst ((hbad b).symm.trans hrun)) (by simp)
        · exact ⟨y, hy, hbad⟩
      · exact exec_bind_error hrun

/-- A loop whose accumulator carries more than is asked for in the end. -/
lemma map_foldlM {m : Type → Type*} [Monad m] [LawfulMonad m] {α β γ : Type} {π : β → γ}
    {f : β → α → m β} {g : γ → α → m γ} (h : ∀ b x, π <$> f b x = g (π b) x) (xs : List α) (b : β) :
    π <$> xs.foldlM f b = xs.foldlM g (π b) := by
  induction xs generalizing b with
  | nil => rw [List.foldlM_nil, List.foldlM_nil, map_pure]
  | cons x xs ih =>
      rw [List.foldlM_cons, List.foldlM_cons, map_bind, ← h, bind_map_left]
      exact bind_congr ih

lemma exec_map {p : Prog σ φ ε α} {s s' : σ} {a : α} (h : p.exec s = (.ok a, s')) (f : α → β) :
    (f <$> p).exec s = (.ok (f a), s') := by
  rw [map_eq_pure_bind, exec_bind_ok h, exec_pure]

/-! ### Runs in an environment -/

/-- The outcome when the environment puts the fault `env n` on the `n`-th call:
it is handed on with the number of the next call and the store. -/
def run (env : ℕ → Option φ) : Prog σ φ ε α → ℕ → σ → Except ε α × ℕ × σ
  | pure a, n, s => (.ok a, n, s)
  | throw e, n, s => (.error e, n, s)
  | call op k, n, s => (k (op (env n) s).1).run env (n + 1) (op (env n) s).2

lemma run_bind (env : ℕ → Option φ) (p : Prog σ φ ε α) (f : α → Prog σ φ ε β) (n : ℕ) (s : σ) :
    (p >>= f).run env n s = match p.run env n s with
      | (.ok a, n', s') => (f a).run env n' s'
      | (.error e, n', s') => (.error e, n', s') := by
  show (p.bind f).run env n s = _
  induction p generalizing n s with
  | pure a => rfl
  | throw e => rfl
  | call op k ih => exact ih _ _ _

lemma run_bind_ok {env : ℕ → Option φ} {p : Prog σ φ ε α} {f : α → Prog σ φ ε β} {n n' : ℕ}
    {s s' : σ} {a : α} (h : p.run env n s = (.ok a, n', s')) :
    (p >>= f).run env n s = (f a).run env n' s' := by
  rw [run_bind, h]

lemma run_bind_error {env : ℕ → Option φ} {p : Prog σ φ ε α} {f : α → Prog σ φ ε β} {n n' : ℕ}
    {s s' : σ} {e : ε} (h : p.run env n s = (.error e, n', s')) :
    (p >>= f).run env n s = (.error e, n', s') := by
  rw [run_bind, h]

lemma run_lift (env : ℕ → Option φ) (op : Option φ → σ → Except ε α × σ) (n : ℕ) (s : σ) :
    (lift op).run env n s = ((op (env n) s).1, n + 1, (op (env n) s).2) := by
  show (match (op (env n) s).1 with
    | .ok a => pure a
    | .error e => throw e).run env (n + 1) (op (env n) s).2 = _
  rcases op (env n) s with ⟨a | e, s'⟩ <;> rfl

lemma run_tryCatch (env : ℕ → Option φ) (p : Prog σ φ ε α) (h : ε → Prog σ φ ε α) (n : ℕ) (s : σ) :
    (tryCatch p h).run env n s = match p.run env n s with
      | (.ok a, n', s') => (.ok a, n', s')
      | (.error e, n', s') => (h e).run env n' s' := by
  show (p.catchWith h).run env n s = _
  induction p generalizing n s with
  | pure a => rfl
  | throw e => rfl
  | call op k ih => exact ih _ _ _

/-- An environment without faults does not disturb. -/
lemma run_of_exec {p : Prog σ φ ε α} {s s' : σ} {r : Except ε α} (h : p.exec s = (r, s')) (n : ℕ) :
    ∃ n', p.run (fun _ => none) n s = (r, n', s') := by
  induction p generalizing n s with
  | pure a =>
      obtain ⟨rfl, rfl⟩ := Prod.mk.inj h
      exact ⟨n, rfl⟩
  | throw e =>
      obtain ⟨rfl, rfl⟩ := Prod.mk.inj h
      exact ⟨n, rfl⟩
  | call op k ih => exact ih _ h (n + 1)

/-- No call before the `n`-th is disturbed. -/
def Clean (env : ℕ → Option φ) (n : ℕ) : Prop := ∀ m < n, env m = none

lemma clean_zero (env : ℕ → Option φ) : Clean env 0 := fun m hm => absurd hm (Nat.not_lt_zero m)

lemma Clean.succ {env : ℕ → Option φ} {n : ℕ} (h : Clean env n) (hn : env n = none) :
    Clean env (n + 1) := by
  intro m hm
  rcases Nat.lt_succ_iff_lt_or_eq.mp hm with hm | rfl
  · exact h m hm
  · exact hn

lemma Clean.mono {env : ℕ → Option φ} {n m : ℕ} (h : Clean env m) (hnm : n ≤ m) : Clean env n :=
  fun i hi => h i (hi.trans_le hnm)

lemma le_run (env : ℕ → Option φ) (p : Prog σ φ ε α) (n : ℕ) (s : σ) :
    n ≤ (p.run env n s).2.1 := by
  induction p generalizing n s with
  | pure a => exact le_rfl
  | throw e => exact le_rfl
  | call op k ih => exact (Nat.le_succ n).trans (ih _ _ _)

/-- A run none of whose calls is disturbed is undisturbed. -/
lemma exec_of_run {env : ℕ → Option φ} {p : Prog σ φ ε α} {n n' : ℕ} {s s' : σ} {r : Except ε α}
    (h : p.run env n s = (r, n', s')) (hclean : Clean env n') : p.exec s = (r, s') := by
  induction p generalizing n s with
  | pure a => exact congrArg (fun x => (x.1, x.2.2)) h
  | throw e => exact congrArg (fun x => (x.1, x.2.2)) h
  | call op k ih =>
      have hlt : n < n' := by
        have := le_run env (k (op (env n) s).1) (n + 1) (op (env n) s).2
        rw [show (k (op (env n) s).1).run env (n + 1) (op (env n) s).2 = (r, n', s') from h] at this
        exact this
      rw [run, hclean n hlt] at h
      exact ih _ h

/-- Runs of `p` from call `n` and store `s` with `P n s` end with `Q` if they
return and with `E` if they throw. -/
def Triple (env : ℕ → Option φ) (P : ℕ → σ → Prop) (p : Prog σ φ ε α)
    (Q : α → ℕ → σ → Prop) (E : ε → ℕ → σ → Prop) : Prop :=
  ∀ n s, P n s → match p.run env n s with
    | (.ok a, n', s') => Q a n' s'
    | (.error e, n', s') => E e n' s'

namespace Triple

variable {env : ℕ → Option φ} {P P' : ℕ → σ → Prop} {p : Prog σ φ ε α} {Q Q' : α → ℕ → σ → Prop}
  {E E' : ε → ℕ → σ → Prop} {n n' : ℕ} {s s' : σ}

lemma of_ok (h : Triple env P p Q E) (hP : P n s) {a : α} (hrun : p.run env n s = (.ok a, n', s')) :
    Q a n' s' := by
  have := h n s hP
  rwa [hrun] at this

lemma of_error (h : Triple env P p Q E) (hP : P n s) {e : ε}
    (hrun : p.run env n s = (.error e, n', s')) : E e n' s' := by
  have := h n s hP
  rwa [hrun] at this

/-- Consequence. -/
lemma weaken (h : Triple env P' p Q' E') (hP : ∀ n s, P n s → P' n s)
    (hQ : ∀ a n s, Q' a n s → Q a n s) (hE : ∀ e n s, E' e n s → E e n s) :
    Triple env P p Q E := by
  intro n s hs
  have := h n s (hP n s hs)
  rcases hrun : p.run env n s with ⟨a | e, n', s'⟩
  · rw [hrun] at this
    exact hE _ _ _ this
  · rw [hrun] at this
    exact hQ _ _ _ this

/-- A fact of the precondition that does not speak of the store. -/
lemma assume {R : Prop} (h : R → Triple env P p Q E) :
    Triple env (fun n s => R ∧ P n s) p Q E := fun n s hs => h hs.1 n s hs.2

lemma pure {a : α} (h : ∀ n s, P n s → Q a n s) :
    Triple env P (Pure.pure a : Prog σ φ ε α) Q E := h

/-- One call. -/
lemma lift {op : Option φ → σ → Except ε α × σ}
    (h : ∀ n s, P n s → match op (env n) s with
      | (.ok a, s') => Q a (n + 1) s'
      | (.error e, s') => E e (n + 1) s') : Triple env P (Prog.lift op) Q E := by
  intro n s hs
  have := h n s hs
  rw [run_lift]
  rcases hop : op (env n) s with ⟨a | e, s'⟩ <;> rw [hop] at this <;> exact this

/-- Sequencing. -/
lemma bind {R : β → ℕ → σ → Prop} {f : α → Prog σ φ ε β} (hp : Triple env P p Q E)
    (hf : ∀ a, Triple env (Q a) (f a) R E) : Triple env P (p >>= f) R E := by
  intro n s hs
  have := hp n s hs
  rw [run_bind]
  rcases hrun : p.run env n s with ⟨a | e, n', s'⟩
  · rw [hrun] at this
    exact this
  · rw [hrun] at this
    exact hf _ _ _ this

/-- Handling: what holds where `p` throws is what the handler starts from. -/
lemma tryCatch {h : ε → Prog σ φ ε α} {R : ε → ℕ → σ → Prop} (hp : Triple env P p Q R)
    (hh : ∀ e, Triple env (R e) (h e) Q E) : Triple env P (tryCatch p h) Q E := by
  intro n s hs
  have := hp n s hs
  rw [run_tryCatch]
  rcases hrun : p.run env n s with ⟨e | a, n', s'⟩
  · rw [hrun] at this
    exact hh _ _ _ this
  · rw [hrun] at this
    exact this

/-- A loop: `I` holds before every round. -/
lemma forM {f : β → Prog σ φ ε PUnit} {I : ℕ → σ → Prop}
    (h : ∀ x, Triple env I (f x) (fun _ => I) E) (xs : List β) :
    Triple env I (xs.forM f) (fun _ => I) E := by
  induction xs with
  | nil => exact Triple.pure fun _ _ => id
  | cons x xs ih => exact (h x).bind fun _ => ih

/-- A loop with an accumulator: `I` speaks of the elements still to come. -/
lemma foldlM {f : β → α → Prog σ φ ε β} {I : List α → β → ℕ → σ → Prop}
    (h : ∀ x xs b, Triple env (I (x :: xs) b) (f b x) (I xs) E) (xs : List α) (b : β) :
    Triple env (I xs b) (xs.foldlM f b) (I []) E := by
  induction xs generalizing b with
  | nil => exact Triple.pure fun _ _ => id
  | cons x xs ih =>
      rw [List.foldlM_cons]
      exact (h x xs b).bind ih

/-- A loop every round of which keeps `I`, for the elements it is about. -/
lemma foldlM_mem {f : β → α → Prog σ φ ε β} {I : β → ℕ → σ → Prop} (xs : List α)
    (h : ∀ x ∈ xs, ∀ b, Triple env (I b) (f b x) I E) (b : β) :
    Triple env (I b) (xs.foldlM f b) I E := by
  induction xs generalizing b with
  | nil => exact Triple.pure fun _ _ => id
  | cons x xs ih =>
      rw [List.forall_mem_cons] at h
      rw [List.foldlM_cons]
      exact (h.1 b).bind (ih h.2)

end Triple

/-! ### Invariants of the store -/

/-- Every run that starts with `I` ends with `I`, whether it returns or throws. -/
def Keeps (I : σ → Prop) (p : Prog σ φ ε α) : Prop :=
  ∀ env, Triple env (fun _ s => I s) p (fun _ _ s => I s) fun _ _ s => I s

lemma Keeps.run {I : σ → Prop} {p : Prog σ φ ε α} (h : Keeps I p)
    (env : ℕ → Option φ) (n : ℕ) {s : σ}
    (hs : I s) : I (p.run env n s).2.2 := by
  have := h env n s hs
  rcases hrun : p.run env n s with ⟨e | a, n', s'⟩ <;> rw [hrun] at this <;> exact this

/-- Sequencing. -/
lemma Keeps.bind {I : σ → Prop} {p : Prog σ φ ε α} {f : α → Prog σ φ ε β} (hp : Keeps I p)
    (hf : ∀ a, Keeps I (f a)) : Keeps I (p >>= f) :=
  fun env => (hp env).bind fun a => hf a env

/-- A loop. -/
lemma Keeps.forM {I : σ → Prop} {f : β → Prog σ φ ε PUnit} (h : ∀ x, Keeps I (f x)) (xs : List β) :
    Keeps I (xs.forM f) := fun env => Triple.forM (fun x => h x env) xs

/-- Every call of the program makes a step of `R`, whatever fault is put on it
and whatever the store is. -/
def Steps (R : σ → σ → Prop) : Prog σ φ ε α → Prop
  | pure _ => True
  | throw _ => True
  | call op k => (∀ fault s, R s (op fault s).2) ∧ ∀ r, (k r).Steps R

namespace Steps

variable {R : σ → σ → Prop} {p : Prog σ φ ε α}

lemma pure (a : α) : Steps R (Pure.pure a : Prog σ φ ε α) := trivial

lemma throw (e : ε) : Steps R (MonadExcept.throw e : Prog σ φ ε α) := trivial

/-- One call. -/
lemma lift {op : Option φ → σ → Except ε α × σ} (h : ∀ fault s, R s (op fault s).2) :
    Steps R (Prog.lift op) :=
  ⟨h, fun r => by cases r <;> trivial⟩

/-- Sequencing. -/
lemma bind {f : α → Prog σ φ ε β} (hp : Steps R p) (hf : ∀ a, Steps R (f a)) :
    Steps R (p >>= f) := by
  show Steps R (p.bind f)
  induction p with
  | pure a => exact hf a
  | throw e => trivial
  | call op k ih => exact ⟨hp.1, fun r => ih r (hp.2 r)⟩

/-- Handling. -/
lemma tryCatch {h : ε → Prog σ φ ε α} (hp : Steps R p) (hh : ∀ e, Steps R (h e)) :
    Steps R (MonadExceptOf.tryCatch p h) := by
  show Steps R (p.catchWith h)
  induction p with
  | pure a => trivial
  | throw e => exact hh e
  | call op k ih => exact ⟨hp.1, fun r => ih r (hp.2 r)⟩

/-- A loop. -/
lemma forM {f : β → Prog σ φ ε PUnit} (h : ∀ x, Steps R (f x)) (xs : List β) :
    Steps R (xs.forM f) := by
  induction xs with
  | nil => exact pure _
  | cons x xs ih => exact (h x).bind fun _ => ih

/-- A loop with an accumulator. -/
lemma foldlM {f : β → α → Prog σ φ ε β} (h : ∀ b x, Steps R (f b x)) (xs : List α) (b : β) :
    Steps R (xs.foldlM f b) := by
  induction xs generalizing b with
  | nil => exact pure b
  | cons x xs ih =>
      rw [List.foldlM_cons]
      exact (h b x).bind fun b => ih b

lemma mono {R' : σ → σ → Prop} (h : Steps R p) (hR : ∀ s s', R s s' → R' s s') : Steps R' p := by
  induction p with
  | pure a => trivial
  | throw e => trivial
  | call op k ih => exact ⟨fun fault s => hR _ _ (h.1 fault s), fun r => ih r (h.2 r)⟩

/-- What every step keeps is kept. -/
lemma keeps (h : Steps R p) {I : σ → Prop} (hR : ∀ s s', R s s' → I s → I s') : Keeps I p := by
  intro env n s hs
  induction p generalizing n s with
  | pure a => exact hs
  | throw e => exact hs
  | call op k ih => exact ih _ (h.2 _) _ _ (hR _ _ (h.1 (env n) s) hs)

end Steps

/-! ### Programs that throw when they are disturbed -/

/-- A call that is disturbed throws, and an exception of a call is one of the program. -/
def Strict : Prog σ φ ε α → Prop
  | pure _ => True
  | throw _ => True
  | call op k => (∀ fault s, ∃ e, (op (some fault) s).1 = .error e) ∧
      (∀ e, ∃ e', k (.error e) = throw e') ∧ ∀ r, (k r).Strict

namespace Strict

variable {p : Prog σ φ ε α}

lemma pure (a : α) : Strict (Pure.pure a : Prog σ φ ε α) := trivial

lemma throw (e : ε) : Strict (MonadExcept.throw e : Prog σ φ ε α) := trivial

/-- One call. -/
lemma lift {op : Option φ → σ → Except ε α × σ}
    (h : ∀ fault s, ∃ e, (op (some fault) s).1 = .error e) : Strict (Prog.lift op) :=
  ⟨h, fun e => ⟨e, rfl⟩, fun r => by cases r <;> trivial⟩

/-- Sequencing. -/
lemma bind {f : α → Prog σ φ ε β} (hp : Strict p) (hf : ∀ a, Strict (f a)) : Strict (p >>= f) := by
  show Strict (p.bind f)
  induction p with
  | pure a => exact hf a
  | throw e => trivial
  | call op k ih =>
      refine ⟨hp.1, fun e => ?_, fun r => ih r (hp.2.2 r)⟩
      obtain ⟨e', he'⟩ := hp.2.1 e
      exact ⟨e', congrArg (fun p => p.bind f) he'⟩

/-- **A run that has returned** has not been disturbed. -/
lemma exec_of_run (h : Strict p) {env : ℕ → Option φ} {n n' : ℕ} {s s' : σ} {a : α}
    (hrun : p.run env n s = (.ok a, n', s')) : p.exec s = (.ok a, s') := by
  induction p generalizing n s with
  | pure b => exact congrArg (fun x => (x.1, x.2.2)) hrun
  | throw e => cases congrArg Prod.fst hrun
  | call op k ih =>
      rw [run] at hrun
      cases henv : env n with
      | none =>
          rw [henv] at hrun
          exact ih _ (h.2.2 _) hrun
      | some fault =>
          obtain ⟨e, he⟩ := h.1 fault s
          obtain ⟨e', he'⟩ := h.2.1 e
          rw [henv, he, he'] at hrun
          cases congrArg Prod.fst hrun

end Strict

end Prog
