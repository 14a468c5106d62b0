import Mathlib
import Slas.Lib.Connection

/-!
A connection on which a statement that writes may stay before its end.

* `SharedConnection`: the connection, with such a statement on it or without;
* `step`, `execute`, `leave`: what statements do there, and one that stays;
* `toConnection`: the connection as it is without that statement;
* `execute_free`: as long as there is none, texts do what they do on a `Connection`;
* `HeldAt.execute`: once there is one, nothing more is stored.
-/

/-- A connection. On a `free` one every statement has come to its end. On a `held` one a
statement that writes has not: `stored` is what is left if the connection is lost, and
`begun` tells whether a `begin` is in force. -/
inductive SharedConnection (δ : Type) where
  | free (c : Connection δ)
  | held (data stored : δ) (begun : Bool)

namespace SharedConnection

variable {δ : Type}

/-- No transaction is open and no statement has stayed. -/
def Idle : SharedConnection δ → Prop
  | free c => c.Idle
  | held _ _ _ => False

/-- Whether a `begin` is in force. -/
def begun : SharedConnection δ → Bool
  | free c => c.saved.isSome
  | held _ _ begun => begun

/-- What is left of the data if the connection is lost. -/
def stored : SharedConnection δ → δ
  | free c => c.committed
  | held _ stored _ => stored

/-- A `begin` is in force that was made at `d`. -/
def OpenAt (d : δ) : SharedConnection δ → Prop
  | free c => c.saved = some d
  | held _ stored begun => stored = d ∧ begun = true

/-- What a statement does; `none` when it fails, and then nothing changes. With a statement
that has stayed, neither `commit` nor the end of a write stores anything, and a `rollback`
takes back all that was written since. -/
def step : SharedConnection δ → Statement δ → Option (SharedConnection δ)
  | free c, st => (c.step st).map free
  | held data stored begun, .begin => if begun then none else some (held data stored true)
  | held _ _ _, .commit => none
  | held _ stored begun, .rollback => if begun then some (held stored stored false) else none
  | held data stored begun, .write f => (f data).map fun d => held d stored begun

/-- Several statements in one text, as `Connection.execute`. -/
def execute : Option ℕ → List (Statement δ) → SharedConnection δ → Bool × SharedConnection δ
  | _, [], s => (true, s)
  | some 0, _ :: _, s => (false, s)
  | fault, st :: sts, s =>
      match s.step st with
      | none => (false, s)
      | some s' => execute (fault.map (· - 1)) sts s'

/-- A statement that writes stays before its end. -/
def leave : SharedConnection δ → SharedConnection δ
  | free c => held c.data c.committed c.saved.isSome
  | held data stored begun => held data stored begun

/-- The connection as it is without the statement that has stayed. -/
def toConnection : SharedConnection δ → Connection δ
  | free c => c
  | held data stored begun => ⟨data, if begun then some stored else none⟩

@[simp] lemma toConnection_free (c : Connection δ) : (free c).toConnection = c := rfl

variable {d : δ} {s s' : SharedConnection δ}

lemma begun_of_openAt (h : s.OpenAt d) : s.begun = true := by
  cases s with
  | free c =>
      rw [begun, show c.saved = some d from h]
      rfl
  | held data stored begun => exact h.2

lemma stored_of_openAt (h : s.OpenAt d) : s.stored = d := by
  cases s with
  | free c => exact Connection.committed_of_saved h
  | held data stored begun => exact h.1

lemma not_begun_of_idle (h : s.Idle) : s.begun = false := by
  cases s with
  | free c =>
      rw [begun, show c.saved = none from h]
      rfl
  | held data stored begun => exact h.elim

lemma exists_of_idle (h : s.Idle) : ∃ d, s = free ⟨d, none⟩ := by
  cases s with
  | free c =>
      obtain ⟨data, saved⟩ := c
      obtain rfl : saved = none := h
      exact ⟨data, rfl⟩
  | held data stored begun => exact h.elim

/-- A statement that stays inside a transaction leaves it open. -/
lemma openAt_leave (h : s.OpenAt d) : s.leave.OpenAt d := by
  cases s with
  | free c => exact ⟨stored_of_openAt (s := free c) h, begun_of_openAt (s := free c) h⟩
  | held data stored begun => exact h

/-- The data is as it was, and so is the transaction. -/
lemma toConnection_leave (c : Connection δ) : (free c).leave.toConnection = c := by
  obtain ⟨data, saved⟩ := c
  cases saved <;> rfl

/-- A `rollback` of the open transaction. -/
lemma step_rollback (h : s.OpenAt d) : ∃ s', s.step .rollback = some s' ∧ s'.stored = d := by
  cases s with
  | free c =>
      refine ⟨free ⟨d, none⟩, ?_, rfl⟩
      rw [step, Connection.step, show c.saved = some d from h]
      rfl
  | held data stored begun =>
      obtain ⟨rfl, rfl⟩ := h
      exact ⟨held stored stored false, rfl, rfl⟩

/-- **Without a statement that stays**, texts do what they do on the connection. -/
lemma execute_free (fault : Option ℕ) (sts : List (Statement δ)) (c : Connection δ) :
    (free c).execute fault sts = ((c.execute fault sts).1, free (c.execute fault sts).2) := by
  induction sts generalizing fault c with
  | nil => rcases fault with _ | _ | k <;> rfl
  | cons st sts ih =>
      have hstep : (free c).step st = (c.step st).map free := rfl
      rcases fault with _ | _ | k
      · rw [execute, hstep, Connection.execute_none]
        cases c.step st with
        | none => rfl
        | some c' => exact ih none c'
        · simp
      · rfl
      · rw [execute, hstep, Connection.execute_fault_succ]
        cases c.step st with
        | none => rfl
        | some c' => exact ih (some k) c'
        · simp

/-- The only statement of a text is the one that is made to fail. -/
lemma execute_singleton_fault (k : ℕ) (st : Statement δ) (s : SharedConnection δ) :
    execute (some (min k ([st].length - 1))) [st] s = (false, s) := by
  rw [List.length_singleton, Nat.sub_self, Nat.min_zero]
  rfl

/-- A statement has stayed, and this is stored. -/
def HeldAt (d : δ) (s : SharedConnection δ) : Prop := ∃ data begun, s = held data d begun

lemma HeldAt.step (h : s.HeldAt d) {st : Statement δ} (hstep : s.step st = some s') :
    s'.HeldAt d := by
  obtain ⟨data, begun, rfl⟩ := h
  cases st with
  | begin =>
      rw [SharedConnection.step, Option.ite_none_left_eq_some] at hstep
      exact ⟨data, true, (Option.some_inj.mp hstep.2).symm⟩
  | commit => cases hstep
  | rollback =>
      rw [SharedConnection.step, Option.ite_none_right_eq_some] at hstep
      exact ⟨d, false, (Option.some_inj.mp hstep.2).symm⟩
  | write f =>
      obtain ⟨data', -, rfl⟩ := Option.map_eq_some_iff.mp hstep
      exact ⟨data', begun, rfl⟩

/-- **Once a statement has stayed nothing more is stored**, whatever is executed. -/
lemma HeldAt.execute (h : s.HeldAt d) (fault : Option ℕ) (sts : List (Statement δ)) :
    (s.execute fault sts).2.HeldAt d := by
  induction sts generalizing fault s with
  | nil => rcases fault with _ | _ | k <;> exact h
  | cons st sts ih =>
      rcases fault with _ | _ | k
      · rw [SharedConnection.execute]
        cases hstep : s.step st with
        | none => exact h
        | some s' => exact ih (h.step hstep) _
        · simp
      · exact h
      · rw [SharedConnection.execute]
        cases hstep : s.step st with
        | none => exact h
        | some s' => exact ih (h.step hstep) _
        · simp

end SharedConnection
