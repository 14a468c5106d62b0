import Mathlib
import Slas.Network.Basic

/-!
Threads that wait at a listening socket and serve one client after the other.

* `Client`, `Event`: a client as the calls on its socket show it, and what waiting at
  the listening socket returns;
* `Accepting`, `LoopM`: the sockets a thread has accepted and closed, and what else it
  has changed;
* `startLoop`: the loop over a list of events, until it is told to stop;
* `Serves`, `startLoop_ok_iff`: the body of the loop accepts a socket, closes it and
  otherwise does what `outcome` says, so the loop does this for every client;
* `GoesOn`, `goesOn_iff`: the loop has not stopped, and every socket it accepted is
  closed once.

Waiting at the listening socket, accepting and closing are calls no client has a hand
in; they succeed.
-/

namespace Slas.Network

variable {σ ε S C : Type}

/-- A client, as the calls on its socket show it. -/
structure Client (σ : Type) where
  system : SystemInterface σ
  world : σ

/-- What `WaitForData` on the listening socket returns. -/
inductive Event (C : Type) where
  | timeout
  | newData (client : C)

/-- The clients that connect. -/
def clients : List (Event C) → List C
  | [] => []
  | .timeout :: events => clients events
  | .newData client :: events => client :: clients events

/-- The number of sockets a thread has accepted, which are numbered from 0 on, those it
has closed, and the rest of its state. -/
structure Accepting (S : Type) where
  accepted : ℕ := 0
  closed : List ℕ := []
  state : S

abbrev LoopM (ε S : Type) := EStateM ε (Accepting S)

/-- `Network::Accept`. -/
def accept : LoopM ε S ℕ := modifyGet fun r => (r.accepted, { r with accepted := r.accepted + 1 })

/-- `Network::Close`. -/
def close (socket : ℕ) : LoopM ε S Unit := modify fun r => { r with closed := r.closed ++ [socket] }

/-- What a thread does beside accepting and closing. -/
def onState {α : Type} (m : EStateM ε S α) : LoopM ε S α := fun r =>
  match m.run r.state with
  | .ok a s => .ok a { r with state := s }
  | .error exception s => .error exception { r with state := s }

/-- The loop over what it waits for until it is told to stop. -/
def startLoop (serve : C → LoopM ε S Unit) : List (Event C) → LoopM ε S Unit
  | [] => pure ()
  | .timeout :: events => startLoop serve events
  | .newData client :: events => do
      serve client
      startLoop serve events

@[simp] lemma run_accept (r : Accepting S) :
    (accept : LoopM ε S ℕ).run r = .ok r.accepted { r with accepted := r.accepted + 1 } := rfl

@[simp] lemma run_close (socket : ℕ) (r : Accepting S) :
    (close socket : LoopM ε S Unit).run r = .ok () { r with closed := r.closed ++ [socket] } := rfl

lemma run_onState {α : Type} (m : EStateM ε S α) (r : Accepting S) :
    (onState m).run r =
      match m.run r.state with
      | .ok a s => .ok a { r with state := s }
      | .error exception s => .error exception { r with state := s } := rfl

/-! ### One client after the other -/

/-- The thread has served one more client. -/
def Accepting.served (r : Accepting S) (state : S) : Accepting S :=
  { accepted := r.accepted + 1
    closed := r.closed ++ [r.accepted]
    state }

/-- The thread has served `n` more clients. -/
def Accepting.after (r : Accepting S) (n : ℕ) (state : S) : Accepting S :=
  { accepted := r.accepted + n
    closed := r.closed ++ List.range' r.accepted n
    state }

lemma Accepting.after_zero (r : Accepting S) : r.after 0 r.state = r := by
  simp [Accepting.after]

lemma Accepting.after_served (r : Accepting S) (n : ℕ) (state state' : S) :
    (r.served state).after n state' = r.after (n + 1) state' := by
  simp only [Accepting.after, Accepting.served, List.range'_succ, List.append_assoc,
    List.singleton_append, Accepting.mk.injEq, and_true]
  omega

/-- The body of the loop accepts and closes a socket, and `outcome` is the rest of it. -/
structure Serves (serve : C → LoopM ε S Unit) (outcome : C → EStateM ε S Unit) : Prop where
  run_ok : ∀ {client state} (r : Accepting S), (outcome client).run r.state = .ok () state →
    (serve client).run r = .ok () (r.served state)
  run_error : ∀ {client exception state} (r : Accepting S),
    (outcome client).run r.state = .error exception state →
    ∃ r', (serve client).run r = .error exception r' ∧ r'.state = state

/-- A body that accepts, does something and closes. -/
lemma serves_onState (outcome : C → EStateM ε S Unit) :
    Serves (fun client => do
      let socket ← accept
      onState (outcome client)
      close socket) outcome := by
  constructor
  · intro client state r h
    simp only [EStateM.run_bind, run_accept, run_onState, h, run_close]
    rfl
  · intro client exception state r h
    simp only [EStateM.run_bind, run_accept, run_onState, h]
    exact ⟨_, rfl, rfl⟩

/-- What one client does to the state, for all of them in order. -/
inductive Steps (step : C → S → S → Prop) : List C → S → S → Prop
  | nil (s : S) : Steps step [] s s
  | cons {client cs s s' s''} (h : step client s s') (hrest : Steps step cs s' s'') :
      Steps step (client :: cs) s s''

lemma Steps.imp {step step' : C → S → S → Prop} {cs : List C} {s s' : S} (h : Steps step cs s s')
    (himp : ∀ client ∈ cs, ∀ s s', step client s s' → step' client s s') : Steps step' cs s s' := by
  induction h with
  | nil s => exact .nil s
  | cons hstep _ ih =>
      rw [List.forall_mem_cons] at himp
      exact .cons (himp.1 _ _ hstep) (ih himp.2)

/-- What every client does given enough rounds, all do given enough rounds. -/
lemma Steps.eventually {outcome : ℕ → C → S → S → Prop} {step : C → S → S → Prop}
    (henough : ∀ {client s s'}, step client s s' → ∀ᶠ rounds in Filter.atTop,
      outcome rounds client s s')
    {cs : List C} {s s' : S} (h : Steps step cs s s') :
    ∀ᶠ rounds in Filter.atTop, Steps (outcome rounds) cs s s' := by
  induction h with
  | nil s => exact .of_forall fun _ => .nil s
  | cons hstep _ ih =>
      filter_upwards [henough hstep, ih] with rounds hfirst hrest
      exact .cons hfirst hrest

variable {serve : C → LoopM ε S Unit} {outcome : C → EStateM ε S Unit}

/-- The loop comes to the end of the events if no client stops it. -/
lemma startLoop_ok_iff (hserve : Serves serve outcome) {events : List (Event C)}
    {r r' : Accepting S} :
    (startLoop serve events).run r = .ok () r' ↔
      ∃ s', Steps (fun client s s' => (outcome client).run s = .ok () s') (clients events)
          r.state s' ∧ r' = r.after (clients events).length s' := by
  induction events generalizing r with
  | nil =>
      rw [startLoop, EStateM.run_pure, clients]
      constructor
      · intro h
        obtain ⟨-, rfl⟩ := EStateM.Result.ok.inj h
        exact ⟨r.state, .nil _, r.after_zero.symm⟩
      · rintro ⟨s', h, rfl⟩
        cases h
        rw [List.length_nil, r.after_zero]
  | cons event events ih =>
      cases event with
      | timeout => exact ih
      | newData client =>
          rw [startLoop, EStateM.run_bind, clients, List.length_cons]
          cases houtcome : (outcome client).run r.state with
          | error exception state =>
              obtain ⟨r₁, hrun, -⟩ := hserve.run_error r houtcome
              rw [hrun]
              constructor
              · exact nofun
              · rintro ⟨s', h, -⟩
                cases h with
                | cons hok h => exact absurd (houtcome.symm.trans hok) nofun
          | ok _ state =>
              rw [hserve.run_ok r houtcome]
              refine ih.trans ⟨?_, ?_⟩
              · rintro ⟨s', h, rfl⟩
                exact ⟨s', .cons houtcome h, r.after_served ..⟩
              · rintro ⟨s', h, rfl⟩
                cases h with
                | cons hok h =>
                    obtain ⟨-, rfl⟩ := EStateM.Result.ok.inj (houtcome.symm.trans hok)
                    exact ⟨s', h, (r.after_served ..).symm⟩

/-- The state a loop has reached when it stops, whatever it stops with. -/
def left : EStateM.Result ε (Accepting S) Unit → S
  | .ok _ r => r.state
  | .error _ r => r.state

/-- Whether it stops or not, the loop keeps what serving a client keeps. -/
lemma startLoop_keeps (hserve : Serves serve outcome) {P : S → Prop} {events : List (Event C)}
    (hkeeps : ∀ client ∈ clients events, ∀ s, P s → ∀ s',
      ((outcome client).run s = .ok () s' ∨ ∃ exception, (outcome client).run s
        = .error exception s') →
        P s')
    {r : Accepting S} (hr : P r.state) : P (left ((startLoop serve events).run r)) := by
  induction events generalizing r with
  | nil => exact hr
  | cons event events ih =>
      cases event with
      | timeout => exact ih hkeeps hr
      | newData client =>
          rw [startLoop, EStateM.run_bind]
          have hclient := hkeeps client (List.mem_cons_self ..) r.state hr
          cases houtcome : (outcome client).run r.state with
          | error exception state =>
              obtain ⟨r₁, hrun, rfl⟩ := hserve.run_error r houtcome
              rw [hrun]
              exact hclient _ (.inr ⟨exception, houtcome⟩)
          | ok _ state =>
              rw [hserve.run_ok r houtcome]
              exact ih (fun c hc => hkeeps c (List.mem_cons_of_mem _ hc))
                (hclient state (.inl houtcome))

/-- After these events the loop is still running, and it has closed every socket it
accepted once. -/
structure GoesOn (serve : C → LoopM ε S Unit) (events : List (Event C)) (s : S)
    (r : Accepting S) : Prop where
  run_eq : (startLoop serve events).run { state := s } = .ok () r
  accepted : r.accepted = (clients events).length
  closed : ∀ socket < r.accepted, r.closed.count socket = 1

/-- A loop goes on if each of its clients can be served. -/
lemma goesOn_iff (hserve : Serves serve outcome) {events : List (Event C)} {s : S}
    {r : Accepting S} :
    GoesOn serve events s r ↔
      ∃ s', Steps (fun client s s' => (outcome client).run s = .ok () s') (clients events) s s' ∧
        r = Accepting.after { state := s } (clients events).length s' := by
  refine Iff.trans ?_ (startLoop_ok_iff hserve (r := { state := s }))
  constructor
  · intro h
    exact h.run_eq
  · intro hrun
    obtain ⟨s', -, rfl⟩ := (startLoop_ok_iff hserve).mp hrun
    refine ⟨hrun, Nat.zero_add _, fun socket hsocket => ?_⟩
    refine List.count_eq_one_of_mem List.nodup_range' (List.mem_range'_1.mpr ?_)
    exact ⟨Nat.zero_le _, hsocket⟩

/-- A loop whose body may repeat calls for some rounds goes on, with a state of the given
kind, if enough rounds let it serve its clients so. -/
lemma exists_goesOn_iff {serve : ℕ → C → LoopM ε S Unit} {outcome : ℕ → C → EStateM ε S Unit}
    (hserve : ∀ rounds, Serves (serve rounds) (outcome rounds)) {step : C → S → S → Prop}
    (hof : ∀ {rounds client s s'}, (outcome rounds client).run s = .ok () s' → step client s s')
    (henough : ∀ {client s s'}, step client s s' →
      ∀ᶠ rounds in Filter.atTop, (outcome rounds client).run s = .ok () s')
    (events : List (Event C)) (s : S) (P : S → Prop) :
    (∃ rounds r, GoesOn (serve rounds) events s r ∧ P r.state) ↔
      ∃ s', Steps step (clients events) s s' ∧ P s' := by
  constructor
  · rintro ⟨rounds, r, hgoesOn, hP⟩
    obtain ⟨s', hsteps, rfl⟩ := (goesOn_iff (hserve rounds)).mp hgoesOn
    exact ⟨s', hsteps.imp fun _ _ _ _ => hof, hP⟩
  · rintro ⟨s', hsteps, hP⟩
    obtain ⟨rounds, hrounds⟩ := (hsteps.eventually henough).exists
    exact ⟨rounds, _, (goesOn_iff (hserve rounds)).mpr ⟨s', hrounds, rfl⟩, hP⟩

/-! ### Calls on the socket of a client -/

/-- A call of the class on the socket of a client in a given state. -/
def call {α : Type} (m : NetM σ α) (world : σ) : Except Stop (α × σ) :=
  match m.run world with
  | .ok a world' => .ok (a, world')
  | .error stop _ => .error stop

lemma call_eq_ok_iff {α : Type} {m : NetM σ α} {world world' : σ} {a : α} :
    call m world = .ok (a, world') ↔ m.run world = .ok a world' := by
  rw [call]
  cases m.run world with
  | ok b w => simp
  | error stop w => simp

end Slas.Network
