import Mathlib
import Slas.Lib.Prog

/-!
Programs while others change the store between their calls.

* `Interrupted`: the outcomes of a program if others change the store by `rely`
  before each of its calls and after the last one, and any fault that `may` be put
  on a call is put on it;
* `Stable`: what the others do not falsify;
* `Assured`: what holds of all these outcomes, with the rules `Assured.pure`,
  `Assured.throw`, `Assured.lift`, `Assured.bind`, `Assured.tryCatch`;
* `interrupted_of_exec`: nobody interrupts, and nothing fails.
-/

namespace Prog

variable {σ φ ε α β : Type}

/-- An outcome of a program that others interrupt. -/
inductive Interrupted (rely : σ → σ → Prop) (may : Option φ → Prop) :
    Prog σ φ ε α → σ → Except ε α → σ → Prop
  | pure {a : α} {s s' : σ} (h : rely s s') : Interrupted rely may (.pure a) s (.ok a) s'
  | throw {e : ε} {s s' : σ} (h : rely s s') : Interrupted rely may (.throw e) s (.error e) s'
  | call {β : Type} {op : Option φ → σ → Except ε β × σ} {k : Except ε β → Prog σ φ ε α}
      {fault : Option φ} {s s₁ s' : σ} {r : Except ε α} (h : rely s s₁) (hfault : may fault)
      (hrest : Interrupted rely may (k (op fault s₁).1) (op fault s₁).2 r s') :
      Interrupted rely may (.call op k) s r s'

/-- What the others do not falsify. -/
def Stable (rely : σ → σ → Prop) (P : σ → Prop) : Prop := ∀ s s', rely s s' → P s → P s'

/-- `Q` for what returns, and `E` for what throws. -/
def Ended (Q : α → σ → Prop) (E : ε → σ → Prop) : Except ε α → σ → Prop
  | .ok a, s => Q a s
  | .error e, s => E e s

/-- However it is interrupted, and whatever fault is put on its calls: if `P` holds
before, the program returns with `Q` or throws with `E`. -/
def Assured (rely : σ → σ → Prop) (may : Option φ → Prop) (P : σ → Prop) (p : Prog σ φ ε α)
    (Q : α → σ → Prop) (E : ε → σ → Prop) : Prop :=
  ∀ s r s', P s → Interrupted rely may p s r s' → Ended Q E r s'

section Outcomes

variable {rely : σ → σ → Prop} {may : Option φ → Prop} {s s' : σ}

/-- Sequencing: the first part throws, or the second goes on where it returned. -/
lemma interrupted_bind (hrefl : ∀ s, rely s s) {p : Prog σ φ ε α} {f : α → Prog σ φ ε β}
    {r : Except ε β} (h : Interrupted rely may (p >>= f) s r s') :
    (∃ e, r = .error e ∧ Interrupted rely may p s (.error e) s') ∨
      ∃ a s₁, Interrupted rely may p s (.ok a) s₁ ∧ Interrupted rely may (f a) s₁ r s' := by
  change Interrupted rely may (p.bind f) s r s' at h
  induction p generalizing s with
  | pure a => exact .inr ⟨a, s, .pure (hrefl s), h⟩
  | throw e =>
      cases h with
      | throw h => exact .inl ⟨e, rfl, .throw h⟩
  | call op k ih =>
      cases h with
      | call h hfault hrest =>
          rcases ih _ hrest with ⟨e, hr, he⟩ | ⟨a, s₁, ha, hf⟩
          · exact .inl ⟨e, hr, .call h hfault he⟩
          · exact .inr ⟨a, s₁, .call h hfault ha, hf⟩

/-- Handling: the program returns, or the handler goes on where it threw. -/
lemma interrupted_tryCatch (hrefl : ∀ s, rely s s) {p : Prog σ φ ε α} {f : ε → Prog σ φ ε α}
    {r : Except ε α} (h : Interrupted rely may (tryCatch p f) s r s') :
    (∃ a, r = .ok a ∧ Interrupted rely may p s (.ok a) s') ∨
      ∃ e s₁, Interrupted rely may p s (.error e) s₁ ∧ Interrupted rely may (f e) s₁ r s' := by
  change Interrupted rely may (p.catchWith f) s r s' at h
  induction p generalizing s with
  | pure a =>
      cases h with
      | pure h => exact .inl ⟨a, rfl, .pure h⟩
  | throw e => exact .inr ⟨e, s, .throw (hrefl s), h⟩
  | call op k ih =>
      cases h with
      | call h hfault hrest =>
          rcases ih _ hrest with ⟨a, hr, ha⟩ | ⟨e, s₁, he, hf⟩
          · exact .inl ⟨a, hr, .call h hfault ha⟩
          · exact .inr ⟨e, s₁, .call h hfault he, hf⟩

/-- **Nobody interrupts, and nothing fails.** -/
lemma interrupted_of_exec (hrefl : ∀ s, rely s s) (hmay : may none) {p : Prog σ φ ε α}
    {r : Except ε α} (h : p.exec s = (r, s')) : Interrupted rely may p s r s' := by
  induction p generalizing s with
  | pure a =>
      obtain ⟨rfl, rfl⟩ := Prod.mk.inj h
      exact .pure (hrefl s)
  | throw e =>
      obtain ⟨rfl, rfl⟩ := Prod.mk.inj h
      exact .throw (hrefl s)
  | call op k ih => exact .call (hrefl s) hmay (ih _ h)

end Outcomes

namespace Assured

variable {rely : σ → σ → Prop} {may : Option φ → Prop} {P P' : σ → Prop} {p : Prog σ φ ε α}
  {Q Q' : α → σ → Prop} {E E' : ε → σ → Prop}

/-- Consequence. -/
lemma weaken (h : Assured rely may P' p Q' E') (hP : ∀ s, P s → P' s)
    (hQ : ∀ a s, Q' a s → Q a s) (hE : ∀ e s, E' e s → E e s) : Assured rely may P p Q E := by
  intro s r s' hs hrun
  have hended := h s r s' (hP s hs) hrun
  cases r with
  | ok a => exact hQ a s' hended
  | error e => exact hE e s' hended

lemma pure {a : α} (hstable : Stable rely P) (h : ∀ s, P s → Q a s) :
    Assured rely may P (Pure.pure a : Prog σ φ ε α) Q E := by
  intro s r s' hs hrun
  cases hrun with
  | pure hrely => exact h s' (hstable s s' hrely hs)

lemma throw {e : ε} (hstable : Stable rely P) (h : ∀ s, P s → E e s) :
    Assured rely may P (MonadExcept.throw e : Prog σ φ ε α) Q E := by
  intro s r s' hs hrun
  cases hrun with
  | throw hrely => exact h s' (hstable s s' hrely hs)

/-- **One call.** -/
lemma lift {op : Option φ → σ → Except ε α × σ} (hP : Stable rely P) (hQ : ∀ a, Stable rely (Q a))
    (hE : ∀ e, Stable rely (E e))
    (h : ∀ s fault, may fault → P s → Ended Q E (op fault s).1 (op fault s).2) :
    Assured rely may P (Prog.lift op) Q E := by
  intro s r s' hs hrun
  cases hrun with
  | @call _ _ _ fault _ s₁ _ _ hrely hfault hrest =>
      have hended := h s₁ fault hfault (hP s s₁ hrely hs)
      rcases hop : op fault s₁ with ⟨e | a, s₂⟩
      · rw [hop] at hended hrest
        cases hrest with
        | throw hrely => exact hE e s₂ s' hrely hended
      · rw [hop] at hended hrest
        cases hrest with
        | pure hrely => exact hQ a s₂ s' hrely hended

/-- Sequencing. -/
lemma bind (hrefl : ∀ s, rely s s) {R : β → σ → Prop} {f : α → Prog σ φ ε β}
    (hp : Assured rely may P p Q E) (hf : ∀ a, Assured rely may (Q a) (f a) R E) :
    Assured rely may P (p >>= f) R E := by
  intro s r s' hs hrun
  rcases interrupted_bind hrefl hrun with ⟨e, rfl, he⟩ | ⟨a, s₁, ha, hrest⟩
  · exact hp s _ s' hs he
  · exact hf a s₁ r s' (hp s _ s₁ hs ha) hrest

/-- Handling: what holds where `p` throws is what the handler starts from. -/
lemma tryCatch (hrefl : ∀ s, rely s s) {R : ε → σ → Prop} {f : ε → Prog σ φ ε α}
    (hp : Assured rely may P p Q R) (hf : ∀ e, Assured rely may (R e) (f e) Q E) :
    Assured rely may P (tryCatch p f) Q E := by
  intro s r s' hs hrun
  rcases interrupted_tryCatch hrefl hrun with ⟨a, rfl, ha⟩ | ⟨e, s₁, he, hrest⟩
  · exact hp s _ s' hs ha
  · exact hf e s₁ r s' (hp s _ s₁ hs he) hrest

end Assured

end Prog
