import Mathlib
import Slas.Lib.Prog

/-!
Programs over two levels of one store.

* `Can`: an outcome some environment brings about, with `can_iff`, `can_bind`,
  `can_tryCatch` and `can_lift`;
* `Refines`: every outcome of the program below is one of the program above, the
  store seen through an abstraction, with the rules `Refines.bind`,
  `Refines.tryCatch` and `Refines.forM`;
* `Client`: programs over a set of operations, whatever these are, and `interp`,
  the program they become once the operations are given;
* `refines_interp`: operations that refine operations do so in every client;
* `Ends`: the outcomes of a client, with what its failed calls cost, and
  `can_interp_iff`.
-/

namespace Prog

variable {σ τ φ ψ ε α β : Type}

/-- An outcome of a program and the store it leaves, whatever fault is put on
each of its calls. -/
def Can : Prog σ φ ε α → σ → Except ε α → σ → Prop
  | pure a, s, r, s' => r = .ok a ∧ s' = s
  | throw e, s, r, s' => r = .error e ∧ s' = s
  | call op k, s, r, s' => ∃ fault, (k (op fault s).1).Can (op fault s).2 r s'

/-- A run asks for the faults from its first call on. -/
lemma run_congr (p : Prog σ φ ε α) {env env' : ℕ → Option φ} {n : ℕ}
    (h : ∀ m, n ≤ m → env m = env' m) (s : σ) : p.run env n s = p.run env' n s := by
  induction p generalizing n s with
  | pure a => rfl
  | throw e => rfl
  | call op k ih =>
      rw [run, run, h n le_rfl]
      exact ih _ (fun m hm => h m (Nat.le_of_succ_le hm)) _

/-- **An outcome is one of a run**, wherever the calls are numbered from. -/
lemma can_iff {p : Prog σ φ ε α} {s s' : σ} {r : Except ε α} (n : ℕ) :
    p.Can s r s' ↔ ∃ env n', p.run env n s = (r, n', s') := by
  induction p generalizing s n with
  | pure a =>
      refine ⟨?_, ?_⟩
      · rintro ⟨rfl, rfl⟩
        exact ⟨fun _ => none, n, rfl⟩
      · rintro ⟨env, n', hrun⟩
        obtain ⟨hr, hns⟩ := Prod.mk.inj hrun
        exact ⟨hr.symm, (Prod.mk.inj hns).2.symm⟩
  | throw e =>
      refine ⟨?_, ?_⟩
      · rintro ⟨rfl, rfl⟩
        exact ⟨fun _ => none, n, rfl⟩
      · rintro ⟨env, n', hrun⟩
        obtain ⟨hr, hns⟩ := Prod.mk.inj hrun
        exact ⟨hr.symm, (Prod.mk.inj hns).2.symm⟩
  | call op k ih =>
      refine ⟨?_, ?_⟩
      · rintro ⟨fault, hcan⟩
        obtain ⟨env, n', hrun⟩ := (ih _ (n + 1)).mp hcan
        refine ⟨fun m => if m = n then fault else env m, n', ?_⟩
        rw [run, if_pos rfl, ← hrun]
        exact run_congr _ (fun m hm => if_neg (Nat.ne_of_gt hm)) _
      · rintro ⟨env, n', hrun⟩
        exact ⟨env n, (ih _ (n + 1)).mpr ⟨env, n', hrun⟩⟩

lemma can_run (p : Prog σ φ ε α) (env : ℕ → Option φ) (n : ℕ) (s : σ) :
    p.Can s (p.run env n s).1 (p.run env n s).2.2 := (can_iff n).mpr ⟨env, _, rfl⟩

lemma can_lift {op : Option φ → σ → Except ε α × σ} {s s' : σ} {r : Except ε α} :
    (lift op).Can s r s' ↔ ∃ fault, op fault s = (r, s') := by
  refine exists_congr fun fault => ?_
  rcases hop : op fault s with ⟨e | a, s₁⟩
  · exact ⟨fun h => by rw [h.1, h.2], fun h => ⟨(Prod.mk.inj h).1.symm, (Prod.mk.inj h).2.symm⟩⟩
  · exact ⟨fun h => by rw [h.1, h.2], fun h => ⟨(Prod.mk.inj h).1.symm, (Prod.mk.inj h).2.symm⟩⟩

/-- Sequencing: the first part throws, or the second goes on where it returned. -/
lemma can_bind {p : Prog σ φ ε α} {f : α → Prog σ φ ε β} {s s' : σ} {r : Except ε β} :
    (p >>= f).Can s r s' ↔ (∃ e, r = .error e ∧ p.Can s (.error e) s') ∨
      ∃ a s₁, p.Can s (.ok a) s₁ ∧ (f a).Can s₁ r s' := by
  show (p.bind f).Can s r s' ↔ _
  induction p generalizing s with
  | pure a =>
      refine ⟨fun h => .inr ⟨a, s, ⟨rfl, rfl⟩, h⟩, ?_⟩
      rintro (⟨e, -, he, -⟩ | ⟨b, s₁, ⟨hb, rfl⟩, h⟩)
      · cases he
      · exact Except.ok.inj hb ▸ h
  | throw e =>
      refine ⟨fun h => .inl ⟨e, h.1, rfl, h.2⟩, ?_⟩
      rintro (⟨e', rfl, he, rfl⟩ | ⟨b, s₁, ⟨hb, -⟩, -⟩)
      · exact ⟨congrArg _ (Except.error.inj he), rfl⟩
      · cases hb
  | call op k ih =>
      refine ⟨?_, ?_⟩
      · rintro ⟨fault, h⟩
        rcases (ih _).mp h with ⟨e, hr, he⟩ | ⟨a, s₁, ha, hf⟩
        · exact .inl ⟨e, hr, fault, he⟩
        · exact .inr ⟨a, s₁, ⟨fault, ha⟩, hf⟩
      · rintro (⟨e, hr, fault, he⟩ | ⟨a, s₁, ⟨fault, ha⟩, hf⟩)
        · exact ⟨fault, (ih _).mpr (.inl ⟨e, hr, he⟩)⟩
        · exact ⟨fault, (ih _).mpr (.inr ⟨a, s₁, ha, hf⟩)⟩

/-- Handling: the program returns, or the handler goes on where it threw. -/
lemma can_tryCatch {p : Prog σ φ ε α} {h : ε → Prog σ φ ε α} {s s' : σ} {r : Except ε α} :
    (tryCatch p h).Can s r s' ↔ (∃ a, r = .ok a ∧ p.Can s (.ok a) s') ∨
      ∃ e s₁, p.Can s (.error e) s₁ ∧ (h e).Can s₁ r s' := by
  show (p.catchWith h).Can s r s' ↔ _
  induction p generalizing s with
  | pure a =>
      refine ⟨fun h => .inl ⟨a, h.1, rfl, h.2⟩, ?_⟩
      rintro (⟨b, rfl, hb, rfl⟩ | ⟨e, s₁, ⟨he, -⟩, -⟩)
      · exact ⟨hb, rfl⟩
      · cases he
  | throw e =>
      refine ⟨fun h => .inr ⟨e, s, ⟨rfl, rfl⟩, h⟩, ?_⟩
      rintro (⟨b, -, hb, -⟩ | ⟨e', s₁, ⟨he, rfl⟩, h⟩)
      · cases hb
      · exact Except.error.inj he ▸ h
  | call op k ih =>
      refine ⟨?_, ?_⟩
      · rintro ⟨fault, h⟩
        rcases (ih _).mp h with ⟨a, hr, ha⟩ | ⟨e, s₁, he, hh⟩
        · exact .inl ⟨a, hr, fault, ha⟩
        · exact .inr ⟨e, s₁, ⟨fault, he⟩, hh⟩
      · rintro (⟨a, hr, fault, ha⟩ | ⟨e, s₁, ⟨fault, he⟩, hh⟩)
        · exact ⟨fault, (ih _).mpr (.inl ⟨a, hr, ha⟩)⟩
        · exact ⟨fault, (ih _).mpr (.inr ⟨e, s₁, he, hh⟩)⟩

/-- What the runs of a program guarantee, its outcomes do. -/
lemma Triple.can {p : Prog σ φ ε α} {P : σ → Prop} {Q : α → σ → Prop} {E : ε → σ → Prop}
    (h : ∀ env, Triple env (fun _ s => P s) p (fun a _ s => Q a s) fun e _ s => E e s)
    {s s' : σ} {r : Except ε α} (hs : P s) (hcan : p.Can s r s') :
    (∀ a, r = .ok a → Q a s') ∧ ∀ e, r = .error e → E e s' := by
  obtain ⟨env, n', hrun⟩ := (can_iff 0).mp hcan
  have := h env 0 s hs
  rw [hrun] at this
  refine ⟨?_, ?_⟩
  · rintro a rfl
    exact this
  · rintro e rfl
    exact this

/-! ### Refinement -/

/-- Where `I` holds, every outcome of `p` is an outcome of `q`, the store seen
through `abs`, and `I` holds again. -/
def Refines (I : σ → Prop) (abs : σ → τ) (p : Prog σ φ ε α) (q : Prog τ ψ ε α) : Prop :=
  ∀ s, I s → ∀ r s', p.Can s r s' → I s' ∧ q.Can (abs s) r (abs s')

namespace Refines

variable {I : σ → Prop} {abs : σ → τ} {p : Prog σ φ ε α} {q : Prog τ ψ ε α}

lemma pure (a : α) :
    Refines I abs (Pure.pure a : Prog σ φ ε α) (Pure.pure a : Prog τ ψ ε α) := by
  rintro s hs r s' ⟨rfl, rfl⟩
  exact ⟨hs, rfl, rfl⟩

lemma throw (e : ε) :
    Refines I abs (MonadExcept.throw e : Prog σ φ ε α) (MonadExcept.throw e : Prog τ ψ ε α) := by
  rintro s hs r s' ⟨rfl, rfl⟩
  exact ⟨hs, rfl, rfl⟩

/-- Sequencing. -/
lemma bind {f : α → Prog σ φ ε β} {g : α → Prog τ ψ ε β} (h : Refines I abs p q)
    (hfg : ∀ a, Refines I abs (f a) (g a)) : Refines I abs (p >>= f) (q >>= g) := by
  intro s hs r s' hcan
  rcases can_bind.mp hcan with ⟨e, hr, he⟩ | ⟨a, s₁, ha, hf⟩
  · obtain ⟨hs', he'⟩ := h s hs _ _ he
    exact ⟨hs', can_bind.mpr (.inl ⟨e, hr, he'⟩)⟩
  · obtain ⟨hs₁, ha'⟩ := h s hs _ _ ha
    obtain ⟨hs', hf'⟩ := hfg a s₁ hs₁ _ _ hf
    exact ⟨hs', can_bind.mpr (.inr ⟨a, abs s₁, ha', hf'⟩)⟩

/-- Handling. -/
lemma tryCatch {f : ε → Prog σ φ ε α} {g : ε → Prog τ ψ ε α} (h : Refines I abs p q)
    (hfg : ∀ e, Refines I abs (f e) (g e)) :
    Refines I abs (MonadExceptOf.tryCatch p f) (MonadExceptOf.tryCatch q g) := by
  intro s hs r s' hcan
  rcases can_tryCatch.mp hcan with ⟨a, hr, ha⟩ | ⟨e, s₁, he, hf⟩
  · obtain ⟨hs', ha'⟩ := h s hs _ _ ha
    exact ⟨hs', can_tryCatch.mpr (.inl ⟨a, hr, ha'⟩)⟩
  · obtain ⟨hs₁, he'⟩ := h s hs _ _ he
    obtain ⟨hs', hf'⟩ := hfg e s₁ hs₁ _ _ hf
    exact ⟨hs', can_tryCatch.mpr (.inr ⟨e, abs s₁, he', hf'⟩)⟩

/-- A loop. -/
lemma forM {f : β → Prog σ φ ε PUnit} {g : β → Prog τ ψ ε PUnit}
    (h : ∀ x, Refines I abs (f x) (g x)) (xs : List β) :
    Refines I abs (xs.forM f) (xs.forM g) := by
  induction xs with
  | nil => exact pure _
  | cons x xs ih => exact (h x).bind fun _ => ih

end Refines

/-! ### Clients of a set of operations -/

/-- A program over operations `Op`, each with the type it returns. What follows a
call depends on what it returned or threw. -/
inductive Client (Op : Type → Type) (ε : Type) : Type → Type 1 where
  | pure {α : Type} (a : α) : Client Op ε α
  | throw {α : Type} (e : ε) : Client Op ε α
  | call {α β : Type} (op : Op β) (k : Except ε β → Client Op ε α) : Client Op ε α

namespace Client

variable {Op : Type → Type}

/-- A client once its operations are programs. -/
def interp (f : ∀ β, Op β → Prog σ φ ε β) {α : Type} : Client Op ε α → Prog σ φ ε α
  | .pure a => .pure a
  | .throw e => .throw e
  | .call op k => tryCatch (Except.ok <$> f _ op) (fun e => Pure.pure (.error e)) >>= fun r =>
      (k r).interp f

/-- **Operations that refine operations do so in every client.** -/
theorem refines_interp {I : σ → Prop} {abs : σ → τ} {f : ∀ β, Op β → Prog σ φ ε β}
    {g : ∀ β, Op β → Prog τ ψ ε β} (h : ∀ β (op : Op β), Refines I abs (f β op) (g β op))
    (c : Client Op ε α) : Refines I abs (c.interp f) (c.interp g) := by
  induction c with
  | pure a => exact .pure a
  | throw e => exact .throw e
  | call op k ih =>
      refine .bind (.tryCatch ?_ fun e => .pure _) ih
      rw [map_eq_pure_bind, map_eq_pure_bind]
      exact (h _ op).bind fun b => .pure _

/-- The outcomes of a client, with the sum of what its calls that threw cost. -/
def Ends (f : ∀ β, Op β → Prog σ φ ε β) (cost : ∀ β, Op β → ℕ) {α : Type} :
    Client Op ε α → σ → ℕ → Except ε α → σ → Prop
  | .pure a, s, n, r, s' => n = 0 ∧ r = .ok a ∧ s' = s
  | .throw e, s, n, r, s' => n = 0 ∧ r = .error e ∧ s' = s
  | .call op k, s, n, r, s' => ∃ r₁ s₁ n₁, (f _ op).Can s r₁ s₁ ∧ (k r₁).Ends f cost s₁ n₁ r s' ∧
      n = (match r₁ with | .ok _ => 0 | .error _ => cost _ op) + n₁

/-- A call of a client: its outcome is what the rest starts from. -/
lemma can_interp_call {f : ∀ β, Op β → Prog σ φ ε β} {op : Op β} {k : Except ε β → Client Op ε α}
    {s s' : σ} {r : Except ε α} : ((Client.call op k).interp f).Can s r s' ↔
      ∃ r₁ s₁, (f _ op).Can s r₁ s₁ ∧ ((k r₁).interp f).Can s₁ r s' := by
  have hcall : ∀ r₁ s₁, (tryCatch (Except.ok <$> f _ op) fun e => Pure.pure (.error e) :
      Prog σ φ ε (Except ε β)).Can s (.ok r₁) s₁ ↔ (f _ op).Can s r₁ s₁ := by
    intro r₁ s₁
    rw [can_tryCatch, map_eq_pure_bind]
    refine ⟨?_, fun h => ?_⟩
    · rintro (⟨a, ha, hcan⟩ | ⟨e, s₂, hcan, ha, rfl⟩)
      · obtain rfl := Except.ok.inj ha
        rcases can_bind.mp hcan with ⟨e, he, -⟩ | ⟨b, s₂, hb, hr, rfl⟩
        · cases he
        · exact Except.ok.inj hr ▸ hb
      · rcases can_bind.mp hcan with ⟨e', he, hcan⟩ | ⟨b, s₃, -, hr, -⟩
        · rw [Except.ok.inj ha, Except.error.inj he]
          exact hcan
        · cases hr
    · cases r₁ with
      | ok b => exact .inl ⟨_, rfl, can_bind.mpr (.inr ⟨b, s₁, h, rfl, rfl⟩)⟩
      | error e => exact .inr ⟨e, s₁, can_bind.mpr (.inl ⟨e, rfl, h⟩), rfl, rfl⟩
  refine can_bind.trans ⟨?_, ?_⟩
  · rintro (⟨e, rfl, hcan⟩ | ⟨r₁, s₁, hcan, hk⟩)
    · rcases can_tryCatch.mp hcan with ⟨a, ha, -⟩ | ⟨e', s₁, -, ha, -⟩
      · cases ha
      · cases ha
    · exact ⟨r₁, s₁, (hcall r₁ s₁).mp hcan, hk⟩
  · rintro ⟨r₁, s₁, hcan, hk⟩
    exact .inr ⟨r₁, s₁, (hcall r₁ s₁).mpr hcan, hk⟩

/-- Every outcome costs something. -/
lemma can_interp_iff {f : ∀ β, Op β → Prog σ φ ε β} (cost : ∀ β, Op β → ℕ) {c : Client Op ε α}
    {s s' : σ} {r : Except ε α} :
    (c.interp f).Can s r s' ↔ ∃ n, c.Ends f cost s n r s' := by
  induction c generalizing s with
  | pure a => exact ⟨fun h => ⟨0, rfl, h⟩, fun ⟨_, _, h⟩ => h⟩
  | throw e => exact ⟨fun h => ⟨0, rfl, h⟩, fun ⟨_, _, h⟩ => h⟩
  | call op k ih =>
      rw [can_interp_call]
      refine ⟨?_, ?_⟩
      · rintro ⟨r₁, s₁, hcan, hk⟩
        obtain ⟨n, hn⟩ := (ih r₁).mp hk
        exact ⟨_, r₁, s₁, n, hcan, hn, rfl⟩
      · rintro ⟨-, r₁, s₁, n, hcan, hn, -⟩
        exact ⟨r₁, s₁, hcan, (ih r₁).mpr ⟨n, hn⟩⟩

end Client

end Prog
