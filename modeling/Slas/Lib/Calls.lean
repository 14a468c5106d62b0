import Mathlib

/-!
Computations that may throw: when they return, and what they are in a computation that
has a state.
-/

namespace Calls

variable {ε ε' S α β : Type}

lemma bind_eq_ok_iff {x : Except ε α} {f : α → Except ε β} {b : β} :
    (x >>= f) = .ok b ↔ ∃ a, x = .ok a ∧ f a = .ok b := by
  cases x with
  | error exception => exact ⟨nofun, nofun⟩
  | ok a =>
      constructor
      · intro h
        exact ⟨a, rfl, h⟩
      · rintro ⟨_, ⟨⟩, h⟩
        exact h

lemma mapError_eq_ok_iff {f : ε → ε'} {x : Except ε α} {a : α} :
    x.mapError f = .ok a ↔ x = .ok a := by
  cases x with
  | error exception => exact ⟨nofun, nofun⟩
  | ok a' => rw [Except.mapError, Except.ok.injEq, Except.ok.injEq]

lemma run_ofExcept (x : Except ε α) (s : S) :
    (MonadExcept.ofExcept x : EStateM ε S α).run s =
      match x with
      | .ok a => .ok a s
      | .error exception => .error exception s := by
  cases x with
  | ok a => rfl
  | error exception => rfl

lemma run_bind_eq_ok_iff {m : EStateM ε S α} {f : α → EStateM ε S β} {s s' : S} {b : β} :
    (m >>= f).run s = .ok b s' ↔ ∃ a t, m.run s = .ok a t ∧ (f a).run t = .ok b s' := by
  rw [EStateM.run_bind]
  cases m.run s with
  | error exception t => exact ⟨nofun, nofun⟩
  | ok a t =>
      constructor
      · intro h
        exact ⟨a, t, rfl, h⟩
      · rintro ⟨_, _, ⟨⟩, h⟩
        exact h

lemma run_bind_eq_error_iff {m : EStateM ε S α} {f : α → EStateM ε S β} {s s' : S} {exception : ε} :
    (m >>= f).run s = .error exception s' ↔ m.run s = .error exception s' ∨
      ∃ a t, m.run s = .ok a t ∧ (f a).run t = .error exception s' := by
  rw [EStateM.run_bind]
  cases m.run s with
  | error e t =>
      constructor
      · intro h
        obtain ⟨rfl, rfl⟩ := EStateM.Result.error.inj h
        exact .inl rfl
      · rintro (h | ⟨_, _, ⟨⟩, -⟩)
        obtain ⟨rfl, rfl⟩ := EStateM.Result.error.inj h
        rfl
  | ok a t =>
      constructor
      · intro h
        exact .inr ⟨a, t, rfl, h⟩
      · rintro (⟨⟨⟩⟩ | ⟨_, _, ⟨⟩, h⟩)
        exact h

lemma run_ofExcept_eq_ok_iff {x : Except ε α} {s s' : S} {a : α} :
    (MonadExcept.ofExcept x : EStateM ε S α).run s = .ok a s' ↔ x = .ok a ∧ s' = s := by
  rw [run_ofExcept]
  cases x with
  | ok b => simp [eq_comm]
  | error exception => exact ⟨nofun, nofun⟩

lemma run_ofExcept_eq_error_iff {x : Except ε α} {s s' : S} {exception : ε} :
    (MonadExcept.ofExcept x : EStateM ε S α).run s = .error exception s' ↔
      x = .error exception ∧ s' = s := by
  rw [run_ofExcept]
  cases x with
  | ok a => exact ⟨nofun, nofun⟩
  | error e => simp [eq_comm]

end Calls
