import Mathlib

/-!
A caller that makes one call at a time over a link that keeps the order of messages,
and a callee that answers.

* `Caller`: the call that is pending, and what is on its way in either direction;
* `send`, `answered`, `giveUp`, `lose`, `handle`: what becomes of it;
* `Caller.Accounted`: what the callee has handled and what is on its way was sent, in
  this order, and no more calls are missing than were given up;
* `Caller.Exact`: nothing is missing, and at most one message is on its way;
* `Accounted.send`, …, `Exact.send`, …: each of them keeps these.
-/

namespace RemoteCalls

variable {M : Type}

/-- `sent` records the messages of all calls ever made, and a call is known by its
place in it. `givenUp` counts those that ended without an answer. -/
structure Caller (M : Type) where
  pending : Option ℕ
  inFlight : List (ℕ × M)
  replies : List ℕ
  sent : List M
  givenUp : ℕ

namespace Caller

/-- No call has been made. -/
def initial : Caller M := ⟨none, [], [], [], 0⟩

/-- A call is made. If nobody is there the message goes nowhere. -/
def send (up : Bool) (m : M) (a : Caller M) : Caller M :=
  { a with
    pending := some a.sent.length
    inFlight := if up then a.inFlight ++ [(a.sent.length, m)] else a.inFlight
    sent := a.sent ++ [m] }

/-- The pending call has been answered. -/
def answered (a : Caller M) : Caller M := { a with pending := none }

/-- The caller waits no longer. -/
def giveUp (a : Caller M) : Caller M := { a with pending := none, givenUp := a.givenUp + 1 }

/-- Messages get lost. -/
def lose (inFlight : List (ℕ × M)) (replies : List ℕ) (a : Caller M) : Caller M :=
  { a with inFlight := inFlight, replies := replies }

/-- The callee has handled the first message on its way and answers it. -/
def handle (n : ℕ) (rest : List (ℕ × M)) (a : Caller M) : Caller M :=
  { a with inFlight := rest, replies := a.replies ++ [n] }

/-- The calls that are pending, one at most. -/
def calling (a : Caller M) : ℕ := if a.pending.isSome then 1 else 0

/-- Those of them whose answer is on its way. -/
def replied (a : Caller M) : ℕ := if ∃ n ∈ a.replies, a.pending = some n then 1 else 0

/-- What the callee has handled was sent, in this order; and all calls that were
answered were handled. -/
structure Accounted (a : Caller M) (handled : List M) : Prop where
  pending : ∀ n, a.pending = some n → n + 1 = a.sent.length
  known : ∀ p ∈ a.inFlight, p.1 < a.sent.length
  replies : ∀ n ∈ a.replies, n < a.sent.length
  order : (handled ++ a.inFlight.map Prod.snd).Sublist a.sent
  count : a.sent.length + a.replied ≤ handled.length + a.givenUp + a.calling

/-- What was sent was handled or is on its way, which is the message of the pending
call at most; and so is its reply. -/
structure Exact (a : Caller M) (handled : List M) : Prop where
  all : handled ++ a.inFlight.map Prod.snd = a.sent
  one : a.inFlight.length ≤ a.calling
  done : a.replied = 1 → a.inFlight = []
  waits : ∀ n, a.pending = some n → (∃ m, a.inFlight = [(n, m)]) ∨ n ∈ a.replies

lemma accounted_initial : (initial : Caller M).Accounted [] where
  pending := by simp [initial]
  known := by simp [initial]
  replies := by simp [initial]
  order := List.Sublist.refl _
  count := by simp [initial, replied]

lemma exact_initial : (initial : Caller M).Exact [] :=
  ⟨rfl, Nat.zero_le _, fun _ => rfl, by simp [initial]⟩

variable {a : Caller M} {handled : List M} {m : M} {n : ℕ} {rest inFlight : List (ℕ × M)}
  {replies : List ℕ} {up : Bool}

lemma replied_le (a : Caller M) : a.replied ≤ 1 := by
  rw [replied]
  split_ifs <;> simp

lemma replied_of_none (h : a.pending = none) : a.replied = 0 := by
  simp [replied, h]

lemma calling_of_none (h : a.pending = none) : a.calling = 0 := by simp [calling, h]

lemma calling_of_some (h : a.pending = some n) : a.calling = 1 := by simp [calling, h]

lemma replied_of_mem (h : a.pending = some n) (hn : n ∈ a.replies) : a.replied = 1 :=
  if_pos ⟨n, hn, h⟩

lemma Accounted.sublist (h : a.Accounted handled) : handled.Sublist a.sent :=
  (List.sublist_append_left _ _).trans h.order

/-- The answer to a call that has just been made is not on its way. -/
lemma Accounted.replied_send (h : a.Accounted handled) : (a.send up m).replied = 0 := by
  rw [replied, if_neg]
  rintro ⟨n, hn, hpending⟩
  have hlt := h.replies n hn
  obtain rfl : a.sent.length = n := Option.some.inj hpending
  exact lt_irrefl _ hlt

/-! ### The caller -/

lemma Accounted.send (h : a.Accounted handled) (hpending : a.pending = none) :
    (a.send up m).Accounted handled where
  pending n hn := by
    obtain rfl : a.sent.length = n := Option.some.inj hn
    simp [Caller.send]
  known p hp := by
    have hlength : (a.send up m).sent.length = a.sent.length + 1 := by simp [Caller.send]
    rw [hlength]
    have hold : ∀ q ∈ a.inFlight, q.1 < a.sent.length + 1 := fun q hq =>
      (h.known q hq).trans (Nat.lt_succ_self _)
    rw [Caller.send] at hp
    cases up with
    | false => exact hold p hp
    | true =>
        rcases List.mem_append.mp hp with hp | hp
        · exact hold p hp
        · rw [List.mem_singleton.mp hp]
          exact Nat.lt_succ_self _
  replies n hn := by
    have hlt := h.replies n hn
    simp only [Caller.send, List.length_append, List.length_singleton]
    omega
  order := by
    rw [Caller.send]
    cases up with
    | false => exact h.order.trans (List.sublist_append_left _ _)
    | true =>
        simp only [if_true, List.map_append, List.map_singleton, ← List.append_assoc]
        exact h.order.append_right [m]
  count := by
    have hcount := h.count
    rw [replied_of_none hpending, calling_of_none hpending] at hcount
    have hlength : (a.send up m).sent.length = a.sent.length + 1 := by simp [Caller.send]
    have hcalling : (a.send up m).calling = 1 := calling_of_some rfl
    have hgivenUp : (a.send up m).givenUp = a.givenUp := rfl
    rw [h.replied_send, hlength, hcalling, hgivenUp]
    omega

lemma Accounted.answered (h : a.Accounted handled) (hpending : a.pending = some n)
    (hn : n ∈ a.replies) : a.answered.Accounted handled where
  pending _ hnone := by simp [Caller.answered] at hnone
  known := h.known
  replies := h.replies
  order := h.order
  count := by
    have hcount := h.count
    rw [replied_of_mem hpending hn, calling_of_some hpending] at hcount
    rw [replied_of_none (a := a.answered) rfl, calling_of_none (a := a.answered) rfl]
    show a.sent.length + 0 ≤ handled.length + a.givenUp + 0
    omega

lemma Accounted.giveUp (h : a.Accounted handled) (hpending : a.pending = some n) :
    a.giveUp.Accounted handled where
  pending _ hnone := by simp [Caller.giveUp] at hnone
  known := h.known
  replies := h.replies
  order := h.order
  count := by
    have hcount := h.count
    rw [calling_of_some hpending] at hcount
    rw [replied_of_none (a := a.giveUp) rfl, calling_of_none (a := a.giveUp) rfl]
    show a.sent.length + 0 ≤ handled.length + (a.givenUp + 1) + 0
    omega

/-- What is on its way gets lost, or arrives in time. -/
lemma Accounted.lose (h : a.Accounted handled) (hflight : inFlight.Sublist a.inFlight)
    (hreplies : replies.Sublist a.replies) : (a.lose inFlight replies).Accounted handled where
  pending := h.pending
  known p hp := h.known p (hflight.subset hp)
  replies n hn := h.replies n (hreplies.subset hn)
  order := ((hflight.map Prod.snd).append_left handled).trans h.order
  count := by
    have hle : (a.lose inFlight replies).replied ≤ a.replied := by
      by_cases hreply : ∃ n ∈ replies, a.pending = some n
      · obtain ⟨n, hn, hpending⟩ := hreply
        rw [replied_of_mem hpending (hreplies.subset hn)]
        exact replied_le _
      · exact (if_neg hreply).trans_le (Nat.zero_le _)
    exact (Nat.add_le_add_left hle _).trans h.count

lemma Exact.send (h : a.Exact handled) (haccounted : a.Accounted handled)
    (hpending : a.pending = none) : (a.send true m).Exact handled := by
  have hnil : a.inFlight = [] :=
    List.length_eq_zero_iff.mp (Nat.le_zero.mp ((calling_of_none hpending) ▸ h.one))
  have hall := h.all
  rw [hnil, List.map_nil, List.append_nil] at hall
  refine ⟨?_, ?_, fun hreplied => ?_, fun n hn => .inl ⟨m, ?_⟩⟩
  · simp [Caller.send, hnil, hall]
  · rw [calling_of_some (n := a.sent.length) rfl]
    simp [Caller.send, hnil]
  · rw [haccounted.replied_send] at hreplied
    cases hreplied
  · obtain rfl : a.sent.length = n := Option.some.inj hn
    simp [Caller.send, hnil]

lemma Exact.answered (h : a.Exact handled) (hpending : a.pending = some n) (hn : n ∈ a.replies) :
    a.answered.Exact handled := by
  have hnil := h.done (replied_of_mem hpending hn)
  refine ⟨h.all, ?_, fun _ => hnil, by simp [Caller.answered]⟩
  show a.inFlight.length ≤ _
  rw [hnil]
  exact Nat.zero_le _

/-! ### The callee -/

/-- **The callee handles a message.** -/
lemma Accounted.handle (h : a.Accounted handled) (hflight : a.inFlight = (n, m) :: rest) :
    (a.handle n rest).Accounted (handled ++ [m]) where
  pending := h.pending
  known p hp := h.known p (hflight ▸ List.mem_cons_of_mem _ hp)
  replies k hk := by
    rcases List.mem_append.mp hk with hk | hk
    · exact h.replies k hk
    · rw [List.mem_singleton.mp hk]
      exact h.known (n, m) (hflight ▸ List.mem_cons_self)
  order := by
    have horder := h.order
    rw [hflight, List.map_cons] at horder
    rwa [List.append_assoc]
  count := by
    have hcount := h.count
    have hreplied : (a.handle n rest).replied ≤ a.replied + 1 :=
      (replied_le _).trans (Nat.le_add_left _ _)
    have hsent : (a.handle n rest).sent = a.sent := rfl
    have hgivenUp : (a.handle n rest).givenUp = a.givenUp := rfl
    have hcalling : (a.handle n rest).calling = a.calling := rfl
    rw [hsent, hgivenUp, hcalling, List.length_append, List.length_singleton]
    omega

lemma Exact.handle (h : a.Exact handled) (hflight : a.inFlight = (n, m) :: rest) :
    (a.handle n rest).Exact (handled ++ [m]) := by
  have hrest : rest = [] := by
    have hone := h.one
    have hle : a.calling ≤ 1 := by
      rw [calling]
      split_ifs <;> simp
    rw [hflight, List.length_cons] at hone
    exact List.length_eq_zero_iff.mp (by omega)
  subst hrest
  refine ⟨?_, Nat.zero_le _, fun _ => rfl, fun k hk => .inr ?_⟩
  · have hall := h.all
    rw [hflight] at hall
    simpa [Caller.handle] using hall
  · rcases h.waits k hk with ⟨m', hm'⟩ | hreply
    · rw [hflight] at hm'
      rw [(Prod.mk.inj (List.cons.inj hm').1).1]
      exact List.mem_append_right _ (List.mem_singleton_self _)
    · exact List.mem_append_left _ hreply

end Caller

end RemoteCalls
