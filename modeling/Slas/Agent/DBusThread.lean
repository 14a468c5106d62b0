import Mathlib

/-!
The queue of the agent, `agent/src/dbus/dbus_thread.cpp`: the threads that receive
logs add commands, and the thread of `StartLoop` executes them.

* `State`, `OthersStep`, `LoopStep`: the queue, where the loop is, and every step of
  the loop and of the other threads;
* `Runs`: what they make of a state in any order, with the number of steps the loop
  has made;
* `State.Kept`: what is executed is what was added, in the order in which it was
  added, and what the loop finds in the queue is executed before it sleeps;
* `queue_kept`: this is so in all states of all runs.
-/

namespace Slas.Agent

variable {R C : Type}

/-! ### The source -/

/-- A command, and the thread that added it. -/
structure Command (R C : Type) where
  receiver : R
  command : C
  deriving DecidableEq

/-- Where the thread of `StartLoop` is. -/
inductive Place (R C : Type) where
  | notRunning
  | whileRunning
  | whileAvailable
  | getCommand
  | execute (command : Command R C)
  | usleep

/-- `DBusThread`, with two records of the run: all commands ever added, and all that
were executed, both in order. -/
structure State (R C : Type) where
  commands : List (Command R C)
  loopRunning : Bool
  place : Place R C
  added : List (Command R C)
  executed : List (Command R C)

/-- A thread object that has just been created. -/
def State.initial : State R C := ⟨[], false, .notRunning, [], []⟩

/-- The steps of the other threads. -/
inductive OthersStep : State R C → State R C → Prop
  | addCommand (σ : State R C) (receiver : R) (command : C) :
      OthersStep σ { σ with
        commands := σ.commands ++ [⟨receiver, command⟩]
        added := σ.added ++ [⟨receiver, command⟩] }
  | stopLoop (σ : State R C) : OthersStep σ { σ with loopRunning := false }

/-- The steps of the loop. The mutex makes `IsCommandAvailable` and `GetCommand` one
step each. -/
inductive LoopStep : State R C → State R C → Prop
  | startLoop (σ : State R C) (h : σ.place = .notRunning) :
      LoopStep σ { σ with loopRunning := true, place := .whileRunning }
  | whileRunning (σ : State R C) (h : σ.place = .whileRunning) :
      LoopStep σ { σ with place := if σ.loopRunning then .whileAvailable else .notRunning }
  | whileAvailable (σ : State R C) (h : σ.place = .whileAvailable) :
      LoopStep σ { σ with place := if σ.commands = [] then .usleep else .getCommand }
  | getCommand (σ : State R C) {command : Command R C} {rest : List (Command R C)}
      (h : σ.place = .getCommand) (hcommands : σ.commands = command :: rest) :
      LoopStep σ { σ with commands := rest, place := .execute command }
  | execute (σ : State R C) {command : Command R C} (h : σ.place = .execute command) :
      LoopStep σ { σ with
        place := .whileAvailable
        executed := σ.executed ++ [command] }
  | usleep (σ : State R C) (h : σ.place = .usleep) :
      LoopStep σ { σ with place := .whileRunning }

/-- What becomes of a state in any order of steps, `n` of them steps of the loop. -/
inductive Runs (σ : State R C) : ℕ → State R C → Prop
  | refl : Runs σ 0 σ
  | others {n : ℕ} {σ₁ σ₂ : State R C} (h : Runs σ n σ₁) (hstep : OthersStep σ₁ σ₂) : Runs σ n σ₂
  | loop {n : ℕ} {σ₁ σ₂ : State R C} (h : Runs σ n σ₁) (hstep : LoopStep σ₁ σ₂) : Runs σ (n + 1) σ₂

/-- The states of all runs. -/
def Reachable (σ : State R C) : Prop := ∃ n, Runs State.initial n σ

/-! ### Where the commands are -/

/-- The command the loop has taken and not yet executed. -/
def Place.taken : Place R C → List (Command R C)
  | .execute command => [command]
  | _ => []

/-- The loop has not yet found the queue empty, and has made so many steps since it
last asked whether there is a command. -/
def Place.asked : Place R C → Option ℕ
  | .whileAvailable => some 0
  | .getCommand => some 1
  | .execute _ => some 2
  | _ => none

/-- What the queue keeps. A command is taken only if there is one; and what is in the
queue when the loop asks is executed before the loop sleeps, and after three steps of
the loop for each of them. -/
structure State.Kept [DecidableEq R] [DecidableEq C] (σ : State R C) : Prop where
  inOrder : σ.executed <+: σ.added
  receivers : ∀ r, σ.executed.filter (·.receiver = r) <+: σ.added.filter (·.receiver = r)
  once : ∀ command, σ.executed.count command ≤ σ.added.count command
  available : σ.place = .getCommand → σ.commands ≠ []
  beforeSleep : σ.place = .whileAvailable → ∀ n σ', Runs σ n σ' →
    σ'.place = .usleep ∨ 3 * σ.commands.length ≤ n → σ.executed ++ σ.commands <+: σ'.executed

/-- Every command is executed, taken or in the queue, in this order. -/
structure Inv (σ : State R C) : Prop where
  places : σ.added = σ.executed ++ σ.place.taken ++ σ.commands
  available : σ.place = .getCommand → σ.commands ≠ []

variable {σ σ' : State R C} {n : ℕ}

lemma inv_initial : Inv (.initial : State R C) := ⟨rfl, nofun⟩

lemma Inv.others (h : Inv σ) (hstep : OthersStep σ σ') : Inv σ' := by
  cases hstep with
  | addCommand receiver command =>
      refine ⟨?_, fun _ happend => ?_⟩
      · show σ.added ++ _ = _
        rw [h.places, List.append_assoc _ σ.commands]
      · exact absurd (List.append_eq_nil_iff.mp happend).2 (List.cons_ne_nil _ _)
  | stopLoop => exact ⟨h.places, h.available⟩

/-- A step of the loop that moves no command. -/
lemma Inv.move (h : Inv σ) {place : Place R C} {loopRunning : Bool}
    (htaken : place.taken = σ.place.taken)
    (havailable : place = .getCommand → σ.commands ≠ []) :
    Inv { σ with loopRunning := loopRunning, place := place } :=
  ⟨htaken.symm ▸ h.places, havailable⟩

/-- **Every step of the loop keeps the invariant.** -/
lemma Inv.loop (h : Inv σ) (hstep : LoopStep σ σ') : Inv σ' := by
  have hplaces := h.places
  cases hstep with
  | startLoop hplace => exact h.move (by rw [hplace]; rfl) nofun
  | whileRunning hplace =>
      refine h.move ?_ ?_
      · rw [hplace]
        split_ifs <;> rfl
      · split_ifs <;> nofun
  | whileAvailable hplace =>
      by_cases hnil : σ.commands = []
      · rw [if_pos hnil]
        exact h.move (by rw [hplace]; rfl) nofun
      · rw [if_neg hnil]
        exact h.move (by rw [hplace]; rfl) fun _ => hnil
  | @getCommand command rest hplace hcommands =>
      rw [hplace, hcommands] at hplaces
      refine ⟨?_, nofun⟩
      show σ.added = σ.executed ++ [command] ++ rest
      simpa [Place.taken] using hplaces
  | @execute command hplace =>
      rw [hplace] at hplaces
      refine ⟨?_, nofun⟩
      show σ.added = σ.executed ++ [command] ++ [] ++ σ.commands
      rw [List.append_nil]
      exact hplaces
  | usleep hplace => exact h.move (by rw [hplace]; rfl) nofun

lemma Runs.inv (hrun : Runs σ n σ') (h : Inv σ) : Inv σ' := by
  induction hrun with
  | refl => exact h
  | others _ hstep ih => exact ih.others hstep
  | loop _ hstep ih => exact ih.loop hstep

lemma Reachable.inv (h : Reachable σ) : Inv σ := by
  obtain ⟨n, hrun⟩ := h
  exact hrun.inv inv_initial

/-! ### Before the loop sleeps -/

/-- Since `σ₀` the loop has executed all that had been added then, or it is still busy
and every third step of it has executed a command. -/
def Busy (σ₀ : State R C) (n : ℕ) (σ : State R C) : Prop :=
  σ₀.added <+: σ.executed ∨
    ∃ k, σ.place.asked = some k ∧ 3 * σ.executed.length + k = 3 * σ₀.executed.length + n

/-- The records only grow. -/
lemma Runs.added (hrun : Runs σ n σ') : σ.added <+: σ'.added := by
  induction hrun with
  | refl => exact List.prefix_refl _
  | others _ hstep ih =>
      cases hstep with
      | addCommand => exact ih.trans (List.prefix_append _ _)
      | stopLoop => exact ih
  | loop _ hstep ih => cases hstep <;> exact ih

lemma LoopStep.executed (hstep : LoopStep σ σ') : σ.executed <+: σ'.executed := by
  cases hstep with
  | execute => exact List.prefix_append _ _
  | _ => exact List.prefix_refl _

/-- **One step of the loop.** -/
lemma Busy.loop {σ₀ : State R C} (h : Busy σ₀ n σ) (hinv : Inv σ) (hadded : σ₀.added <+: σ.added)
    (hstep : LoopStep σ σ') : Busy σ₀ (n + 1) σ' := by
  rcases h with hdone | ⟨k, hk, hcount⟩
  · exact .inl (hdone.trans hstep.executed)
  · have hplaces := hinv.places
    cases hstep with
    | startLoop hplace => rw [hplace] at hk; cases hk
    | whileRunning hplace => rw [hplace] at hk; cases hk
    | usleep hplace => rw [hplace] at hk; cases hk
    | whileAvailable hplace =>
        rw [hplace] at hk hplaces
        obtain rfl : 0 = k := Option.some.inj hk
        by_cases hnil : σ.commands = []
        · -- all that was added is executed
          change σ.added = σ.executed ++ [] ++ σ.commands at hplaces
          rw [hnil, List.append_nil, List.append_nil] at hplaces
          exact .inl (hplaces ▸ hadded)
        · refine .inr ⟨1, ?_, ?_⟩
          · rw [if_neg hnil]
            rfl
          · show 3 * σ.executed.length + 1 = _
            omega
    | getCommand hplace =>
        rw [hplace] at hk
        obtain rfl : 1 = k := Option.some.inj hk
        refine .inr ⟨2, rfl, ?_⟩
        show 3 * σ.executed.length + 2 = _
        omega
    | @execute command hplace =>
        rw [hplace] at hk
        obtain rfl : 2 = k := Option.some.inj hk
        refine .inr ⟨0, rfl, ?_⟩
        show 3 * (σ.executed ++ [command]).length + 0 = _
        rw [List.length_append, List.length_singleton]
        omega

/-- **From the question on**, in any order of steps. -/
lemma Runs.busy (hrun : Runs σ n σ') (h : Inv σ) (hplace : σ.place = .whileAvailable) :
    Busy σ n σ' := by
  induction hrun with
  | refl => exact .inr ⟨0, by rw [hplace]; rfl, rfl⟩
  | others hrun hstep ih => cases hstep <;> exact ih
  | loop hrun hstep ih => exact ih.loop (hrun.inv h) hrun.added hstep

/-- What the loop has found in the queue. -/
lemma Runs.executed_of_sleep_or_le (hrun : Runs σ n σ') (h : Inv σ)
    (hplace : σ.place = .whileAvailable)
    (hend : σ'.place = .usleep ∨ 3 * σ.commands.length ≤ n) :
    σ.executed ++ σ.commands <+: σ'.executed := by
  have hadded : σ.added = σ.executed ++ σ.commands := by
    have hplaces := h.places
    rw [hplace] at hplaces
    change σ.added = σ.executed ++ [] ++ σ.commands at hplaces
    rwa [List.append_nil] at hplaces
  rw [← hadded]
  rcases hrun.busy h hplace with hdone | ⟨k, hk, hcount⟩
  · exact hdone
  · rcases hend with hsleep | hsteps
    · rw [hsleep] at hk
      cases hk
    · have hle : k ≤ 2 := by
        cases hp : σ'.place with
        | whileAvailable | getCommand | execute =>
            rw [hp] at hk
            obtain rfl := Option.some.inj hk
            decide
        | _ =>
            rw [hp] at hk
            cases hk
      have hexecuted : σ'.executed <+: σ'.added := by
        rw [(hrun.inv h).places, List.append_assoc]
        exact List.prefix_append _ _
      refine List.prefix_of_prefix_length_le hrun.added hexecuted ?_
      rw [hadded, List.length_append]
      omega

/-! ### The queue -/

variable [DecidableEq R] [DecidableEq C]

/-- **What the queue keeps**, at every moment of every run. -/
theorem queue_kept (h : Reachable σ) : σ.Kept where
  inOrder := by
    rw [h.inv.places, List.append_assoc]
    exact List.prefix_append _ _
  receivers r := by
    rw [h.inv.places, List.append_assoc, List.filter_append]
    exact List.prefix_append _ _
  once command := by
    rw [h.inv.places, List.append_assoc, List.count_append]
    exact Nat.le_add_right _ _
  available := h.inv.available
  beforeSleep hplace _ _ hrun hend := hrun.executed_of_sleep_or_le h.inv hplace hend

/-- Two receivers have added a command each, and the first one is being executed. -/
theorem queue_kept_two : State.Kept (R := ℕ) (C := Unit)
    ⟨[⟨2, ()⟩], true, .execute ⟨1, ()⟩, [⟨1, ()⟩, ⟨2, ()⟩], []⟩ := by
  refine queue_kept ⟨4, ?_⟩
  refine Runs.loop ?_ (.getCommand ⟨[⟨1, ()⟩, ⟨2, ()⟩], true, .getCommand, _, _⟩ rfl rfl)
  refine Runs.loop ?_ (.whileAvailable ⟨[⟨1, ()⟩, ⟨2, ()⟩], true, .whileAvailable, _, _⟩ rfl)
  refine Runs.loop ?_ (.whileRunning ⟨[⟨1, ()⟩, ⟨2, ()⟩], true, .whileRunning, _, _⟩ rfl)
  refine Runs.others ?_ (.addCommand ⟨[⟨1, ()⟩], true, .whileRunning, [⟨1, ()⟩], []⟩ 2 ())
  refine Runs.others ?_ (.addCommand ⟨[], true, .whileRunning, [], []⟩ 1 ())
  exact Runs.refl.loop (.startLoop .initial rfl)

end Slas.Agent
