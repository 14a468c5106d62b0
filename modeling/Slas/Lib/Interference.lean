import Mathlib
import Slas.Lib.Prog

/-!
Programs that others interrupt between their calls.

* `Labelled`: programs whose calls carry labels, with `erase`, which forgets the
  labels and respects sequencing and loops;
* `Labelled.Calls`: every call stays in the relation of its label, whatever store
  it finds, with the rules `Calls.pure`, `Calls.ofProg`, `Calls.bind` and
  `Calls.foldlM`;
* `Prog.Guarantees`: between any two calls the store may change by `rely`, and
  then the program still makes only calls that stay in `guar`, does not throw, and
  ends after as many calls as it should; with `Guarantees.call` and
  `Guarantees.stable`.
-/

/-- A program whose calls carry labels. -/
inductive Labelled (σ φ ε ι α : Type) : Type 1 where
  | pure (a : α)
  | throw (e : ε)
  | call {β : Type} (label : ι) (op : Option φ → σ → Except ε β × σ)
      (k : Except ε β → Labelled σ φ ε ι α)

namespace Labelled

variable {σ φ ε ι α β γ : Type}

/-- Sequencing. -/
def bind : Labelled σ φ ε ι α → (α → Labelled σ φ ε ι β) → Labelled σ φ ε ι β
  | pure a, f => f a
  | throw e, _ => throw e
  | call label op k, f => call label op fun r => (k r).bind f

instance : Monad (Labelled σ φ ε ι) where
  pure := Labelled.pure
  bind := Labelled.bind

/-- A program all calls of which carry one label. -/
def ofProg (label : ι) : Prog σ φ ε α → Labelled σ φ ε ι α
  | .pure a => pure a
  | .throw e => throw e
  | .call op k => call label op fun r => ofProg label (k r)

/-- The program without the labels. -/
def erase : Labelled σ φ ε ι α → Prog σ φ ε α
  | pure a => .pure a
  | throw e => .throw e
  | call _ op k => .call op fun r => (k r).erase

@[simp] lemma erase_pure (a : α) :
    (Pure.pure a : Labelled σ φ ε ι α).erase = (Pure.pure a : Prog σ φ ε α) := rfl

@[simp] lemma erase_ofProg (label : ι) (p : Prog σ φ ε α) : (ofProg label p).erase = p := by
  induction p with
  | pure a => rfl
  | throw e => rfl
  | call op k ih => exact congrArg (Prog.call op) (funext ih)

@[simp] lemma erase_bind (p : Labelled σ φ ε ι α) (f : α → Labelled σ φ ε ι β) :
    (p >>= f).erase = p.erase >>= fun a => (f a).erase := by
  show (p.bind f).erase = p.erase.bind fun a => (f a).erase
  induction p with
  | pure a => rfl
  | throw e => rfl
  | call label op k ih => exact congrArg (Prog.call op) (funext ih)

lemma erase_foldlM {f : β → α → Labelled σ φ ε ι β} {g : β → α → Prog σ φ ε β}
    (h : ∀ b x, (f b x).erase = g b x) (xs : List α) (b : β) :
    (xs.foldlM f b).erase = xs.foldlM g b := by
  induction xs generalizing b with
  | nil => rfl
  | cons x xs ih =>
      rw [List.foldlM_cons, List.foldlM_cons, erase_bind, h]
      exact congrArg _ (funext ih)

/-- Every call stays in the relation of its label, whatever fault is put on it and
whatever the store is. -/
def Calls (R : ι → σ → σ → Prop) : Labelled σ φ ε ι α → Prop
  | pure _ => True
  | throw _ => True
  | call label op k => (∀ fault s, R label s (op fault s).2) ∧ ∀ r, (k r).Calls R

namespace Calls

variable {R : ι → σ → σ → Prop} {p : Labelled σ φ ε ι α}

lemma pure (a : α) : Calls R (Pure.pure a : Labelled σ φ ε ι α) := trivial

lemma ofProg {label : ι} {p : Prog σ φ ε α} (h : p.Steps (R label)) :
    Calls R (Labelled.ofProg label p) := by
  induction p with
  | pure a => trivial
  | throw e => trivial
  | call op k ih => exact ⟨h.1, fun r => ih r (h.2 r)⟩

/-- Sequencing. -/
lemma bind {f : α → Labelled σ φ ε ι β} (hp : Calls R p) (hf : ∀ a, Calls R (f a)) :
    Calls R (p >>= f) := by
  show Calls R (p.bind f)
  induction p with
  | pure a => exact hf a
  | throw e => trivial
  | call label op k ih => exact ⟨hp.1, fun r => ih r (hp.2 r)⟩

/-- A loop with an accumulator. -/
lemma foldlM {f : β → α → Labelled σ φ ε ι β} (h : ∀ b x, Calls R (f b x)) (xs : List α) (b : β) :
    Calls R (xs.foldlM f b) := by
  induction xs generalizing b with
  | nil => exact pure b
  | cons x xs ih =>
      rw [List.foldlM_cons]
      exact (h b x).bind fun b => ih b

end Calls

end Labelled

namespace Prog

variable {σ φ ε α β : Type}

/-- From its `n`-th call on, no call being disturbed: whatever `rely` has made of the
store before a call, the call stays in `guar`; the program does not throw, and it
ends after a number of calls that is `done`. -/
def Guarantees (rely : σ → σ → Prop) (guar : ℕ → σ → σ → Prop) (done : ℕ → Prop) :
    ℕ → Prog σ φ ε α → σ → Prop
  | n, pure _, _ => done n
  | _, throw _, _ => False
  | n, call op k, s => ∀ s', rely s s' → guar n s' (op none s').2 ∧
      Guarantees rely guar done (n + 1) (k (op none s').1) (op none s').2

namespace Guarantees

variable {rely : σ → σ → Prop} {guar : ℕ → σ → σ → Prop} {done : ℕ → Prop} {n : ℕ} {s s' : σ}

/-- What `rely` does in between does no harm. -/
lemma stable (htrans : ∀ s₁ s₂ s₃, rely s₁ s₂ → rely s₂ s₃ → rely s₁ s₃) {p : Prog σ φ ε α}
    (h : Guarantees rely guar done n p s) (hs : rely s s') : Guarantees rely guar done n p s' := by
  cases p with
  | pure a => exact h
  | throw e => exact h
  | call op k => exact fun s'' hs' => h s'' (htrans _ _ _ hs hs')

/-- One call, and what follows. -/
lemma call {op : Option φ → σ → Except ε α × σ} {f : α → Prog σ φ ε β}
    (h : ∀ s', rely s s' → ∃ a s'', (Prog.lift op).exec s' = (.ok a, s'') ∧ guar n s' s'' ∧
      Guarantees rely guar done (n + 1) (f a) s'') :
    Guarantees rely guar done n (Prog.lift op >>= f) s := by
  intro s' hs
  obtain ⟨a, s'', hop, hguar, hrest⟩ := h s' hs
  rw [exec_lift] at hop
  refine ⟨?_, ?_⟩
  · rw [hop]
    exact hguar
  · rw [hop]
    exact hrest

/-- The last call. -/
lemma last {op : Option φ → σ → Except ε α × σ}
    (h : ∀ s', rely s s' → ∃ a s'', (Prog.lift op).exec s' = (.ok a, s'') ∧ guar n s' s'')
    (hdone : done (n + 1)) : Guarantees rely guar done n (Prog.lift op) s := by
  have hcall : Guarantees rely guar done n (Prog.lift op >>= Pure.pure) s := by
    refine call fun s' hs => ?_
    obtain ⟨a, s'', hop, hguar⟩ := h s' hs
    exact ⟨a, s'', hop, hguar, hdone⟩
  rwa [bind_pure] at hcall

end Guarantees

end Prog
