import Mathlib
import Slas.Lib.Prog

/-!
Guards: objects whose destructor gives something back, however a block is left.

* `guarded`: a block with such an object;
* `Triple.guarded`: what holds after it, if the destructor makes it hold from what holds
  where the block returns and where it throws;
* `Triple.of_exists`: a precondition that speaks of something unknown;
* `Triple.rethrow`: a handler that gives something back and throws again.
-/

namespace Prog

variable {σ φ ε α : Type}

/-- A block that is left through a destructor. -/
def guarded (release : Prog σ φ ε Unit) (body : Prog σ φ ε α) : Prog σ φ ε α := do
  let a ← tryCatch body fun e => do
    release
    throw e
  release
  pure a

namespace Triple

variable {env : ℕ → Option φ} {P : ℕ → σ → Prop} {release : Prog σ φ ε Unit} {p : Prog σ φ ε α}
  {Q Q' : α → ℕ → σ → Prop} {E E' : ε → ℕ → σ → Prop}

lemma of_exists {ι : Type} {R : ι → ℕ → σ → Prop} (h : ∀ i, Triple env (R i) p Q E) :
    Triple env (fun n s => ∃ i, R i n s) p Q E := by
  rintro n s ⟨i, hs⟩
  exact h i n s hs

lemma throw {e : ε} (h : ∀ n s, P n s → E e n s) :
    Triple env P (MonadExcept.throw e : Prog σ φ ε α) Q E := h

/-- **A handler that gives something back** and throws again. -/
lemma rethrow (hp : Triple env P p Q E')
    (hrelease : ∀ e, Triple env (E' e) release (fun _ => E e) fun _ _ _ => False) :
    Triple env P (MonadExcept.tryCatch p fun e => do release; MonadExcept.throw e) Q E := by
  refine hp.tryCatch fun e => ?_
  refine Triple.bind ((hrelease e).weaken (fun _ _ h => h) (fun _ _ _ h => h) ?_)
    fun _ => .throw fun _ _ h => h
  exact fun _ _ _ h => h.elim

/-- **A block with a guard**: what the destructor leaves, however the block is left. -/
lemma guarded (hp : Triple env P p Q' E')
    (hreturn : ∀ a, Triple env (Q' a) release (fun _ => Q a) fun _ _ _ => False)
    (hthrow : ∀ e, Triple env (E' e) release (fun _ => E e) fun _ _ _ => False) :
    Triple env P (Prog.guarded release p) Q E := by
  refine (hp.rethrow hthrow).bind fun a => ?_
  refine ((hreturn a).weaken (fun _ _ h => h) (fun _ _ _ h => h) ?_).bind
    fun _ => .pure fun _ _ h => h
  exact fun _ _ _ h => h.elim

end Triple

end Prog
