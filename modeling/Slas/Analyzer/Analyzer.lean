import Mathlib

/-!
The analysis on request, `server/src/analyzer/analyzer.cpp`: the signal handler asks
for an analysis, and the thread of `StartLoop` runs it.

* `State`, `State.startAnalyzing`, `Step`: the two flags, where the loop is, and every
  step of it and of the other threads;
* `Runs`: what they make of a state in any order, when every request meets a condition;
* `Answered`: every request before a clearing of the flag is followed by a complete
  pass over the objects;
* `answered_of_inTime`: this is so in every run in which no request is made while a
  pass is under way;
* `not_answered_of_passBegun`: and a request that is made then is dropped.

`ExecuteAll` clears the flag at the end of a pass, whoever has set it meanwhile.
-/

namespace Slas.Analyzer

variable {O : Type}

/-! ### The source -/

/-- What happens in a run: a request, a call of `Analyze`, the clearing of the flag. -/
inductive Event (O : Type) where
  | startAnalyzing
  | analyze (object : O)
  | clear
  deriving DecidableEq

/-- Where the thread of `StartLoop` is. In a pass it has objects still to come. -/
inductive Place (O : Type) where
  | notRunning
  | whileRunning
  | ifAnalyzing
  | forObjects (rest : List O)
  | analyze (rest : List O)
  | clear
  | sleep
  | terminated

/-- `Analyzer`, with a record of what has happened. -/
structure State (O : Type) where
  loopRunning : Bool
  analyzing : Bool
  place : Place O
  history : List (Event O)

/-- An analyzer that has just been created. -/
def State.initial : State O := ⟨false, false, .notRunning, []⟩

/-- `Analyzer::StartAnalyzing`. -/
def State.startAnalyzing (σ : State O) : State O :=
  { σ with analyzing := true, history := σ.history ++ [.startAnalyzing] }

/-- The other steps. An exception of an object ends the program. -/
inductive Step (objects : List O) : State O → State O → Prop
  | stopLoop (σ : State O) : Step objects σ { σ with loopRunning := false }
  | startLoop (σ : State O) (h : σ.place = .notRunning) :
      Step objects σ { σ with loopRunning := true, place := .whileRunning }
  | whileRunning (σ : State O) (h : σ.place = .whileRunning) :
      Step objects σ { σ with place := if σ.loopRunning then .ifAnalyzing else .notRunning }
  | ifAnalyzing (σ : State O) (h : σ.place = .ifAnalyzing) :
      Step objects σ { σ with place := if σ.analyzing then .forObjects objects else .sleep }
  | analyze (σ : State O) {object : O} {rest : List O}
      (h : σ.place = .forObjects (object :: rest)) :
      Step objects σ { σ with
        place := .analyze rest
        history := σ.history ++ [.analyze object] }
  | analyzed (σ : State O) {rest : List O} (h : σ.place = .analyze rest) :
      Step objects σ { σ with place := .forObjects rest }
  | throws (σ : State O) {rest : List O} (h : σ.place = .analyze rest) :
      Step objects σ { σ with place := .terminated }
  | allAnalyzed (σ : State O) (h : σ.place = .forObjects []) :
      Step objects σ { σ with place := .clear }
  | clear (σ : State O) (h : σ.place = .clear) :
      Step objects σ { σ with
        analyzing := false
        place := .sleep
        history := σ.history ++ [.clear] }
  | sleep (σ : State O) (h : σ.place = .sleep) :
      Step objects σ { σ with place := .whileRunning }

/-- What becomes of a state in any order of steps, when every request meets `P`. -/
inductive Runs (objects : List O) (P : State O → Prop) (σ : State O) : State O → Prop
  | refl : Runs objects P σ σ
  | startAnalyzing {σ' : State O} (h : Runs objects P σ σ') (hP : P σ') :
      Runs objects P σ σ'.startAnalyzing
  | step {σ' σ'' : State O} (h : Runs objects P σ σ') (hstep : Step objects σ' σ'') :
      Runs objects P σ σ''

/-! ### Requests and passes -/

/-- What was done, whatever was asked for meanwhile. -/
def work (events : List (Event O)) : List (Event O) :=
  events.filter fun
    | .startAnalyzing => false
    | _ => true

/-- A complete pass. -/
def pass (objects : List O) : List (Event O) := objects.map .analyze

/-- Whenever the flag is cleared, every request made before is followed by a complete
pass. -/
def Answered (objects : List O) (history : List (Event O)) : Prop :=
  ∀ before, before ++ [.clear] <+: history →
    ∀ a b, before = a ++ .startAnalyzing :: b → pass objects <:+: work b

/-- A pass has begun with its first object, and its end has not cleared the flag yet. -/
def State.PassBegun (objects : List O) (σ : State O) : Prop :=
  match σ.place with
  | .forObjects rest => rest.length < objects.length
  | .analyze _ => True
  | .clear => objects ≠ []
  | _ => False

section Lists

variable {objects : List O}

@[simp] lemma work_append (xs ys : List (Event O)) : work (xs ++ ys) = work xs ++ work ys :=
  List.filter_append ..

@[simp] lemma work_pass : work (pass objects) = pass objects := by
  refine List.filter_eq_self.mpr fun e he => ?_
  obtain ⟨object, -, rfl⟩ := List.mem_map.mp he
  rfl

/-- A request before a pass is followed by it. -/
lemma pass_infix_work {e c a b : List (Event O)} (hc : .startAnalyzing ∉ c)
    (h : e ++ (pass objects ++ c) = a ++ .startAnalyzing :: b) : pass objects <:+: work b := by
  have hpass : Event.startAnalyzing ∉ pass objects ++ c := by
    rw [List.mem_append, not_or]
    refine ⟨fun hmem => ?_, hc⟩
    obtain ⟨object, -, heq⟩ := List.mem_map.mp hmem
    cases heq
  rcases List.append_eq_append_iff.mp h with ⟨d, rfl, hd⟩ | ⟨d, rfl, hd⟩
  · exact absurd (hd ▸ List.mem_append_right d List.mem_cons_self) hpass
  · cases d with
    | nil => exact absurd (hd ▸ List.mem_cons_self) hpass
    | cons x d =>
        obtain ⟨rfl, rfl⟩ := List.cons.inj hd
        refine ⟨work d, work c, ?_⟩
        show _ = work (d ++ (pass objects ++ c))
        rw [work_append, work_append, work_pass, List.append_assoc]

lemma Answered.of_prefix {history history' : List (Event O)} (h : Answered objects history')
    (hearlier : history <+: history') : Answered objects history :=
  fun before hbefore => h before (hbefore.trans hearlier)

/-- More history, without another clearing. -/
lemma Answered.append {history : List (Event O)} (h : Answered objects history) {event : Event O}
    (hevent : event ≠ .clear) : Answered objects (history ++ [event]) := by
  intro before hbefore
  rcases List.prefix_concat_iff.mp hbefore with heq | hbefore
  · exact absurd (List.append_inj' heq rfl).2 fun hlast => hevent (List.cons.inj hlast).1.symm
  · exact h before hbefore

/-- The flag is cleared after a pass. -/
lemma Answered.clear {history e : List (Event O)} (h : Answered objects history)
    (hpass : history = e ++ pass objects) : Answered objects (history ++ [.clear]) := by
  intro before hbefore a b hsplit
  rcases List.prefix_concat_iff.mp hbefore with heq | hbefore
  · obtain ⟨rfl, -⟩ := List.append_inj' heq rfl
    refine pass_infix_work (e := e) (c := []) (a := a) List.not_mem_nil ?_
    rw [List.append_nil, ← hpass]
    exact hsplit
  · exact h before hbefore a b hsplit

/-- One more event is behind every request. -/
lemma pass_infix_work_concat {history : List (Event O)} {event : Event O}
    (hevent : event ≠ .startAnalyzing)
    (h : ∀ a b, history = a ++ .startAnalyzing :: b → pass objects <:+: work b)
    {a b : List (Event O)} (hsplit : history ++ [event] = a ++ .startAnalyzing :: b) :
    pass objects <:+: work b := by
  rcases List.eq_nil_or_concat' b with rfl | ⟨b', last, rfl⟩
  · exact absurd (List.cons.inj (List.append_inj' hsplit rfl).2).1 hevent
  · rw [← List.cons_append, ← List.append_assoc] at hsplit
    obtain ⟨hsplit, -⟩ := List.append_inj' hsplit rfl
    rw [work_append]
    exact (h a b' hsplit).trans (List.prefix_append _ _).isInfix

end Lists

/-! ### Runs without late requests -/

/-- What holds in a run in which no request was made while a pass was under way: if the
flag is clear, every request is answered, and a pass has no request behind its first
object. -/
structure Inv (objects : List O) (σ : State O) : Prop where
  answered : Answered objects σ.history
  flag : σ.analyzing = false →
    ∀ a b, σ.history = a ++ .startAnalyzing :: b → pass objects <:+: work b
  inPass : ∀ rest, σ.place = .forObjects rest ∨ σ.place = .analyze rest →
    ∃ e done, done ++ rest = objects ∧ σ.history = e ++ pass done
  clear : σ.place = .clear → ∃ e, σ.history = e ++ pass objects

variable {objects : List O} {P : State O → Prop} {σ σ' : State O}

lemma inv_initial : Inv objects (.initial : State O) where
  answered before hbefore := absurd (List.prefix_nil.mp hbefore) (by simp)
  flag _ a b h := absurd h.symm (by simp [State.initial])
  inPass rest h := by rcases h with h | h <;> cases h
  clear h := nomatch h

/-- **A request in time.** -/
lemma Inv.startAnalyzing (h : Inv objects σ) (hlate : ¬σ.PassBegun objects) :
    Inv objects σ.startAnalyzing where
  answered := h.answered.append nofun
  flag hflag := nomatch hflag
  inPass rest hplace := by
    rcases hplace with hplace | hplace
    · obtain ⟨e, done, rfl, hhistory⟩ := h.inPass rest (.inl hplace)
      have hdone : done = [] := by
        have hle : ¬rest.length < (done ++ rest).length := by
          intro hlt
          refine hlate ?_
          rw [State.PassBegun, show σ.place = .forObjects rest from hplace]
          exact hlt
        rw [List.length_append] at hle
        exact List.length_eq_zero_iff.mp (by omega)
      subst hdone
      refine ⟨e ++ [.startAnalyzing], [], rfl, ?_⟩
      show σ.history ++ _ = _
      rw [hhistory]
      simp [pass]
    · refine absurd ?_ hlate
      rw [State.PassBegun, show σ.place = .analyze rest from hplace]
      trivial
  clear hplace := by
    have hnil : objects = [] := by
      by_contra hne
      refine hlate ?_
      rw [State.PassBegun, show σ.place = .clear from hplace]
      exact hne
    subst hnil
    exact ⟨σ.history ++ [.startAnalyzing], (List.append_nil _).symm⟩

/-- A step outside a pass that records nothing. -/
lemma Inv.move (h : Inv objects σ) {place : Place O} (loopRunning : Bool)
    (hplace : ∀ rest, place ≠ .forObjects rest ∧ place ≠ .analyze rest) (hclear : place ≠ .clear) :
    Inv objects { σ with loopRunning := loopRunning, place := place } where
  answered := h.answered
  flag := h.flag
  inPass rest hrest := by
    rcases hrest with hrest | hrest
    · exact absurd hrest (hplace rest).1
    · exact absurd hrest (hplace rest).2
  clear hrest := absurd hrest hclear

/-- **Every other step keeps the invariant.** -/
lemma Inv.step (h : Inv objects σ) (hstep : Step objects σ σ') : Inv objects σ' := by
  cases hstep with
  | stopLoop => exact ⟨h.answered, h.flag, h.inPass, h.clear⟩
  | startLoop hplace => exact h.move true (by simp) nofun
  | whileRunning hplace =>
      cases hrunning : σ.loopRunning with
      | true => exact h.move true (by simp) (by simp)
      | false => exact h.move false (by simp) (by simp)
  | ifAnalyzing hplace =>
      cases hflag : σ.analyzing with
      | true =>
          refine ⟨h.answered, fun hfalse =>
            absurd hflag (by simp_all), fun rest hrest => ?_, by simp⟩
          rcases hrest with hrest | hrest
          · obtain rfl := Place.forObjects.inj hrest
            exact ⟨σ.history, [], rfl, (List.append_nil _).symm⟩
          · cases hrest
      | false => exact ⟨h.answered, fun _ => h.flag hflag, by simp, by simp⟩
  | @analyze object rest hplace =>
      obtain ⟨e, done, hobjects, hhistory⟩ := h.inPass _ (.inl hplace)
      refine ⟨h.answered.append nofun,
        fun hflag a b => pass_infix_work_concat
          (by simp) (h.flag hflag), fun rest' hrest => ?_, nofun⟩
      rcases hrest with hrest | hrest
      · cases hrest
      · obtain rfl := Place.analyze.inj hrest
        refine ⟨e, done ++ [object], by rw [List.append_assoc]; exact hobjects, ?_⟩
        show σ.history ++ _ = _
        rw [hhistory, pass, pass, List.map_append, List.append_assoc]
        rfl
  | @analyzed rest hplace =>
      refine ⟨h.answered, h.flag, fun rest' hrest => ?_, nofun⟩
      rcases hrest with hrest | hrest
      · obtain rfl := Place.forObjects.inj hrest
        exact h.inPass _ (.inr hplace)
      · cases hrest
  | throws hplace => exact h.move σ.loopRunning (by simp) nofun
  | allAnalyzed hplace =>
      obtain ⟨e, done, hobjects, hhistory⟩ := h.inPass _ (.inl hplace)
      rw [List.append_nil] at hobjects
      exact ⟨h.answered, h.flag, by simp, fun _ => ⟨e, hobjects ▸ hhistory⟩⟩
  | clear hplace =>
      obtain ⟨e, hhistory⟩ := h.clear hplace
      refine ⟨h.answered.clear hhistory, fun _ a b hsplit => ?_, by simp, nofun⟩
      refine pass_infix_work (e := e) (c := [.clear]) (a := a) (by simp) ?_
      rw [← List.append_assoc, ← hhistory]
      exact hsplit
  | sleep hplace => exact h.move σ.loopRunning (by simp) nofun

/-- **No request is dropped** in a run in which none is made while a pass is under way. -/
theorem answered_of_inTime (h : Runs objects (fun σ => ¬σ.PassBegun objects) .initial σ) :
    Answered objects σ.history := by
  suffices hinv : Inv objects σ from hinv.answered
  induction h with
  | refl => exact inv_initial
  | startAnalyzing _ hP ih => exact ih.startAnalyzing hP
  | step _ hstep ih => exact ih.step hstep

/-- One request, and the pass that answers it. -/
theorem answered_of_inTime_single :
    Answered [()] [.startAnalyzing, .analyze (), .clear] := by
  refine answered_of_inTime (σ := ⟨true, false, .sleep, [.startAnalyzing, .analyze (), .clear]⟩) ?_
  refine Runs.step ?_ (.clear ⟨true, true, .clear, [.startAnalyzing, .analyze ()]⟩ rfl)
  refine Runs.step ?_ (.allAnalyzed ⟨true, true, .forObjects [], _⟩ rfl)
  refine Runs.step ?_ (.analyzed ⟨true, true, .analyze [], _⟩ rfl)
  refine Runs.step ?_ (.analyze ⟨true, true, .forObjects [()], [.startAnalyzing]⟩ rfl)
  refine Runs.step ?_ (.ifAnalyzing ⟨true, true, .ifAnalyzing, _⟩ rfl)
  refine Runs.step ?_ (.whileRunning ⟨true, true, .whileRunning, _⟩ rfl)
  exact ((Runs.refl.step (.startLoop .initial rfl)).startAnalyzing id)

/-! ### Late requests -/

/-- A pass never has more objects to come than there are. -/
def Place.Within (objects : List O) : Place O → Prop
  | .forObjects rest => rest.length ≤ objects.length
  | .analyze rest => rest.length < objects.length
  | _ => True

lemma Runs.within {P : State O → Prop} (h : Runs objects P .initial σ) :
    σ.place.Within objects := by
  induction h with
  | refl => trivial
  | startAnalyzing _ _ ih => exact ih
  | @step σ' _ _ hstep ih =>
      cases hstep with
      | stopLoop => exact ih
      | whileRunning hplace =>
          show Place.Within objects (if σ'.loopRunning then .ifAnalyzing else .notRunning)
          split_ifs <;> trivial
      | ifAnalyzing hplace =>
          show Place.Within objects (if σ'.analyzing then .forObjects objects else .sleep)
          split_ifs
          · exact le_rfl
          · trivial
      | analyze hplace =>
          rw [hplace] at ih
          exact ih
      | analyzed hplace =>
          rw [hplace] at ih
          exact Nat.le_of_lt ih
      | _ => trivial

/-- Since a request behind the first object of a pass: until the flag is cleared, fewer
objects are analyzed than there are, and then the request has been dropped. -/
def Dropping (objects : List O) (history : List (Event O)) (σ : State O) : Prop :=
  ∃ b, σ.history = history ++ .startAnalyzing :: b ∧
    (¬Answered objects σ.history ∨ .clear ∉ b ∧ match σ.place with
      | .forObjects rest => (work b).length + rest.length < objects.length
      | .analyze rest => (work b).length + rest.length < objects.length
      | .clear => (work b).length < objects.length
      | .terminated => True
      | _ => False)

variable {history : List (Event O)}

lemma dropping_startAnalyzing (hwithin : σ.place.Within objects) (hbegun : σ.PassBegun objects) :
    Dropping objects σ.history σ.startAnalyzing := by
  refine ⟨[], rfl, .inr ⟨List.not_mem_nil, ?_⟩⟩
  rw [State.PassBegun] at hbegun
  show match σ.place with
    | .forObjects rest => 0 + rest.length < objects.length
    | .analyze rest => 0 + rest.length < objects.length
    | .clear => 0 < objects.length
    | .terminated => True
    | _ => False
  cases hplace : σ.place with
  | forObjects rest =>
      rw [hplace] at hbegun
      simpa using hbegun
  | analyze rest =>
      rw [hplace] at hwithin
      simpa [Place.Within] using hwithin
  | clear =>
      rw [hplace] at hbegun
      exact List.length_pos_iff.mpr hbegun
  | terminated => trivial
  | _ =>
      rw [hplace] at hbegun
      exact hbegun

/-- The flag is cleared after a part of a pass. -/
lemma not_answered_of_length (history : List (Event O)) {b : List (Event O)}
    (h : (work b).length < objects.length) :
    ¬Answered objects ((history ++ .startAnalyzing :: b) ++ [.clear]) := by
  intro hanswered
  have hinfix := hanswered _ (List.prefix_refl _) history b rfl
  have hle := hinfix.length_le
  rw [pass, List.length_map] at hle
  omega

/-- **Every other step** keeps a request from being answered. -/
lemma Dropping.step (h : Dropping objects history σ) (hstep : Step objects σ σ') :
    Dropping objects history σ' := by
  obtain ⟨b, hhistory, hnot | ⟨hclear, hplace⟩⟩ := h
  · have hearlier : σ.history <+: σ'.history := by
      cases hstep with
      | analyze | clear => exact List.prefix_append _ _
      | _ => exact List.prefix_refl _
    obtain ⟨c, hc⟩ := hearlier
    refine ⟨b ++ c, ?_, .inl fun hanswered => hnot (hanswered.of_prefix ⟨c, hc⟩)⟩
    rw [← hc, hhistory, List.append_assoc]
    rfl
  · cases hstep with
    | stopLoop => exact ⟨b, hhistory, .inr ⟨hclear, hplace⟩⟩
    | @analyze object rest hrest =>
        rw [hrest] at hplace
        refine ⟨b ++ [.analyze object], ?_, .inr ⟨by simp [hclear], ?_⟩⟩
        · show σ.history ++ _ = _
          rw [hhistory, List.append_assoc]
          rfl
        · have hwork : (work (b ++ [Event.analyze object])).length = (work b).length + 1 := by
            rw [work_append, List.length_append]
            rfl
          show (work (b ++ [Event.analyze object])).length + rest.length < objects.length
          rw [hwork]
          simpa [Nat.add_assoc, Nat.add_comm 1] using hplace
    | analyzed hrest =>
        rw [hrest] at hplace
        exact ⟨b, hhistory, .inr ⟨hclear, hplace⟩⟩
    | throws hrest => exact ⟨b, hhistory, .inr ⟨hclear, trivial⟩⟩
    | allAnalyzed hrest =>
        rw [hrest] at hplace
        exact ⟨b, hhistory, .inr ⟨hclear, hplace⟩⟩
    | clear hrest =>
        rw [hrest] at hplace
        refine ⟨b ++ [.clear], ?_, .inl ?_⟩
        · show σ.history ++ _ = _
          rw [hhistory, List.append_assoc]
          rfl
        · show ¬Answered objects (σ.history ++ [.clear])
          rw [hhistory]
          exact not_answered_of_length history hplace
    | startLoop hrest | whileRunning hrest | ifAnalyzing hrest | sleep hrest =>
        rw [hrest] at hplace
        exact hplace.elim

lemma Dropping.startAnalyzing (h : Dropping objects history σ) :
    Dropping objects history σ.startAnalyzing := by
  obtain ⟨b, hhistory, hplace⟩ := h
  refine ⟨b ++ [.startAnalyzing], ?_, ?_⟩
  · show σ.history ++ _ = _
    rw [hhistory, List.append_assoc]
    rfl
  · have hwork : work (b ++ [Event.startAnalyzing]) = work b := by
      rw [work_append]
      exact List.append_nil _
    rw [hwork]
    refine hplace.imp ?_ ?_
    · exact fun hnot hanswered => hnot (hanswered.of_prefix (List.prefix_append _ _))
    · rintro ⟨hclear, hplace⟩
      exact ⟨by simp [hclear], hplace⟩

lemma Runs.dropping {P : State O → Prop} (h : Runs objects P σ σ')
    (hσ : Dropping objects history σ) :
    Dropping objects history σ' := by
  induction h with
  | refl => exact hσ
  | startAnalyzing _ _ ih => exact ih.startAnalyzing
  | step _ hstep ih => exact ih.step hstep

/-- **A request behind the first object of a pass is dropped** as soon as the flag is
cleared, whatever else happens. -/
theorem not_answered_of_passBegun {P P' : State O → Prop} (h : Runs objects P .initial σ)
    (hbegun : σ.PassBegun objects) (hrun : Runs objects P' σ.startAnalyzing σ') {b : List (Event O)}
    (hhistory : σ'.history = σ.history ++ .startAnalyzing :: b) (hcleared : .clear ∈ b) :
    ¬Answered objects σ'.history := by
  obtain ⟨b', hhistory', hnot | ⟨hclear, -⟩⟩ :=
    hrun.dropping (dropping_startAnalyzing h.within hbegun)
  · exact hnot
  · rw [hhistory] at hhistory'
    obtain rfl : b = b' := by simpa using hhistory'
    exact absurd hcleared hclear

/-- A second request, made while the only object is analyzed for the first one. -/
theorem not_answered :
    ¬∀ (objects : List Unit) (σ : State Unit), Runs objects (fun _ => True) .initial σ →
      Answered objects σ.history := by
  intro h
  have hbegin : Runs [()] (fun _ => True) .initial
      (⟨true, true, .analyze [], [.startAnalyzing, .analyze ()]⟩ : State Unit) := by
    refine Runs.step ?_ (.analyze ⟨true, true, .forObjects [()], [.startAnalyzing]⟩ rfl)
    refine Runs.step ?_ (.ifAnalyzing ⟨true, true, .ifAnalyzing, _⟩ rfl)
    refine Runs.step ?_ (.whileRunning ⟨true, true, .whileRunning, _⟩ rfl)
    exact (Runs.refl.step (.startLoop .initial rfl)).startAnalyzing trivial
  have hend := h [()] ⟨true, false, .sleep,
    [.startAnalyzing, .analyze (), .startAnalyzing, .clear]⟩ (by
      refine Runs.step ?_ (.clear ⟨true, true, .clear,
        [.startAnalyzing, .analyze (), .startAnalyzing]⟩ rfl)
      refine Runs.step ?_ (.allAnalyzed ⟨true, true, .forObjects [], _⟩ rfl)
      exact (hbegin.startAnalyzing trivial).step (.analyzed _ rfl))
  have hlength : (work ([] : List (Event Unit))).length < [()].length := Nat.one_pos
  exact not_answered_of_length [.startAnalyzing, .analyze ()] hlength hend

end Slas.Analyzer
