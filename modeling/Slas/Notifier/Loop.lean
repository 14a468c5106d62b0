import Mathlib

/-!
The notifier, `server/src/notifier/notifier.cpp`: analyzers queue messages, and
the thread of `Loop` puts them into mails.

* `State`, `Step`: the queue, where the thread is, and every step of it and of
  the analyzers;
* `Kept`: every message is queued, collected, or in one mail that was sent, and
  the mails keep the order of the queue;
* `kept_iff`: in every state of every run, this is so exactly if no exception has
  been thrown.

`SendMailNotification` takes the messages out of the queue one by one before it
sends anything. Whatever throws until then, they are gone.
-/

namespace Slas.Notifier

variable {M : Type}

/-! ### The source -/

/-- A message with the text its `GetDetectionResults` returned. -/
structure Section (M : Type) where
  message : M
  results : String

/-- A mail that was sent, with the messages its body was made from. -/
structure SentMail (M : Type) where
  body : String
  sections : List (Section M)

/-- Where the thread of `Loop` is. In `SendMailNotification` it has a body and
the messages that went into it. -/
inductive Place (M : Type) where
  | notStarted
  | whileRunning
  | ifAvailable
  | whileAvailable (body : String) (sections : List (Section M))
  | getMessage (body : String) (sections : List (Section M))
  | getDetectionResults (body : String) (sections : List (Section M)) (message : M)
  | send (body : String) (sections : List (Section M))
  | done

/-- `Notifier`, with three records of the run: all messages ever queued, in
order; the mails that were sent; and the number of exceptions thrown. -/
structure State (M : Type) where
  messages : List M
  running : Bool
  place : Place M
  added : List M
  mails : List (SentMail M)
  thrown : ℕ

/-- A notifier that has just been created. -/
def State.initial : State M := ⟨[], false, .notStarted, [], [], 0⟩

/-- The first line of every mail. -/
def mailBody : String := "Found new anomalies."

/-- What a message adds to the body. -/
def sectionText (moduleName : M → String) (s : Section M) : String :=
  "\r\n\r\nModule: " ++ moduleName s.message ++
    "\r\n================================================================================\r\n" ++
      s.results

/-- The steps. The mutex makes `AddMessages`, `IsMessageAvailable` and
`GetMessage` one step each. -/
inductive Step (moduleName : M → String) : State M → State M → Prop
  | addMessages (σ : State M) (messages : List M) :
      Step moduleName σ { σ with
        messages := σ.messages ++ messages
        added := σ.added ++ messages }
  | stopLoop (σ : State M) : Step moduleName σ { σ with running := false }
  | loop (σ : State M) (h : σ.place = .notStarted) :
      Step moduleName σ { σ with running := true, place := .whileRunning }
  | whileRunning (σ : State M) (h : σ.place = .whileRunning) :
      Step moduleName σ { σ with place := if σ.running then .ifAvailable else .done }
  | ifAvailable (σ : State M) (h : σ.place = .ifAvailable) :
      Step moduleName σ { σ with
        place := if σ.messages = [] then .whileRunning else .whileAvailable mailBody [] }
  | whileAvailable (σ : State M) {body : String} {sections : List (Section M)}
      (h : σ.place = .whileAvailable body sections) :
      Step moduleName σ { σ with
        place := if σ.messages = [] then .send body sections else .getMessage body sections }
  | getMessage (σ : State M) {body : String} {sections : List (Section M)} {message : M}
      {rest : List M} (h : σ.place = .getMessage body sections)
      (hmessages : σ.messages = message :: rest) :
      Step moduleName σ { σ with
        messages := rest
        place := .getDetectionResults body sections message }
  | results (σ : State M) {body : String} {sections : List (Section M)} {message : M}
      (results : String) (h : σ.place = .getDetectionResults body sections message) :
      Step moduleName σ { σ with
        place := .whileAvailable (body ++ sectionText moduleName ⟨message, results⟩)
          (sections ++ [⟨message, results⟩]) }
  | resultsThrow (σ : State M) {body : String} {sections : List (Section M)} {message : M}
      (h : σ.place = .getDetectionResults body sections message) :
      Step moduleName σ { σ with
        place := .whileRunning
        thrown := σ.thrown + 1 }
  | send (σ : State M) {body : String} {sections : List (Section M)}
      (h : σ.place = .send body sections) :
      Step moduleName σ { σ with
        place := .whileRunning
        mails := σ.mails ++ [⟨body, sections⟩] }
  | sendThrow (σ : State M) {body : String} {sections : List (Section M)}
      (h : σ.place = .send body sections) :
      Step moduleName σ { σ with
        place := .whileRunning
        thrown := σ.thrown + 1 }

/-- The states of all runs. -/
inductive Reachable (moduleName : M → String) : State M → Prop
  | initial : Reachable moduleName .initial
  | step {σ σ' : State M} (h : Reachable moduleName σ) (hstep : Step moduleName σ σ') :
      Reachable moduleName σ'

/-! ### Where the messages are -/

/-- The messages a list of sections was made from. -/
def messagesOf (sections : List (Section M)) : List M := sections.map (·.message)

/-- The messages the `SendMailNotification` in progress has taken. -/
def Place.collected : Place M → List M
  | .whileAvailable _ sections => messagesOf sections
  | .getMessage _ sections => messagesOf sections
  | .getDetectionResults _ sections message => messagesOf sections ++ [message]
  | .send _ sections => messagesOf sections
  | _ => []

/-- The messages in the mails that were sent. -/
def State.mailed (σ : State M) : List M := σ.mails.flatMap fun mail => messagesOf mail.sections

/-- The body a list of sections makes. -/
def bodyOf (moduleName : M → String) (sections : List (Section M)) : String :=
  sections.foldl (fun body s => body ++ sectionText moduleName s) mailBody

/-- Every message is in exactly one place, and the mails have them in the order
in which they were queued. -/
structure Kept (moduleName : M → String) (σ : State M) : Prop where
  once : σ.added.Perm (σ.mailed ++ σ.place.collected ++ σ.messages)
  ordered : σ.mailed.Sublist σ.added
  bodies : ∀ mail ∈ σ.mails, mail.body = bodyOf moduleName mail.sections

/-- What holds where the thread is: the body is made from the sections, a message
is only taken if there is one, and no mail is sent without a section. -/
def Place.Sound (moduleName : M → String) (messages : List M) : Place M → Prop
  | .whileAvailable body sections =>
      body = bodyOf moduleName sections ∧ (sections = [] → messages ≠ [])
  | .getMessage body sections => body = bodyOf moduleName sections ∧ messages ≠ []
  | .getDetectionResults body sections _ => body = bodyOf moduleName sections
  | .send body sections => body = bodyOf moduleName sections ∧ sections ≠ []
  | _ => True

/-- Every exception has cost a message; without one the messages come out in
order. -/
structure Inv (moduleName : M → String) (σ : State M) : Prop where
  lost : σ.mailed.length + σ.place.collected.length + σ.messages.length + σ.thrown
    ≤ σ.added.length
  inOrder : σ.thrown = 0 → σ.added = σ.mailed ++ σ.place.collected ++ σ.messages
  sound : σ.place.Sound moduleName σ.messages
  bodies : ∀ mail ∈ σ.mails, mail.body = bodyOf moduleName mail.sections

variable {moduleName : M → String} {σ σ' : State M}

lemma inv_initial : Inv moduleName (.initial : State M) where
  lost := le_rfl
  inOrder _ := rfl
  sound := trivial
  bodies _ h := absurd h List.not_mem_nil

lemma bodyOf_append (sections : List (Section M)) (s : Section M) :
    bodyOf moduleName (sections ++ [s]) = bodyOf moduleName sections
      ++ sectionText moduleName s := by
  rw [bodyOf, List.foldl_append]
  rfl

/-- More messages do no harm where the thread is. -/
lemma Place.Sound.addMessages {place : Place M} {messages : List M}
    (h : place.Sound moduleName messages) (more : List M) :
    place.Sound moduleName (messages ++ more) := by
  cases place with
  | whileAvailable body sections =>
      exact ⟨h.1, fun hnil happend => h.2 hnil (List.append_eq_nil_iff.mp happend).1⟩
  | getMessage body sections =>
      exact ⟨h.1, fun happend => h.2 (List.append_eq_nil_iff.mp happend).1⟩
  | _ => exact h

/-- An exception: what has been collected is gone. -/
lemma Inv.throw (h : Inv moduleName σ) (hcollected : σ.place.collected ≠ []) :
    Inv moduleName { σ with place := .whileRunning, thrown := σ.thrown + 1 } where
  lost := by
    have hlost := h.lost
    have hpos := List.length_pos_iff.mpr hcollected
    show σ.mailed.length + 0 + σ.messages.length + (σ.thrown + 1) ≤ σ.added.length
    omega
  inOrder hthrown := absurd hthrown (Nat.succ_ne_zero _)
  sound := trivial
  bodies := h.bodies

/-- A step of the thread that hands messages on, in the order in which they are. -/
lemma Inv.handOn (h : Inv moduleName σ) (hadded : σ'.added = σ.added)
    (hthrown : σ'.thrown = σ.thrown)
    (hsame : σ'.mailed ++ σ'.place.collected ++ σ'.messages
      = σ.mailed ++ σ.place.collected ++ σ.messages)
    (hsound : σ'.place.Sound moduleName σ'.messages)
    (hbodies : ∀ mail ∈ σ'.mails, mail.body = bodyOf moduleName mail.sections) :
    Inv moduleName σ' where
  lost := by
    have hlost := h.lost
    have hlength := congrArg List.length hsame
    simp only [List.length_append] at hlength
    rw [hadded, hthrown]
    omega
  inOrder hnone := by
    rw [hadded, hsame]
    exact h.inOrder (hthrown.symm.trans hnone)
  sound := hsound
  bodies := hbodies

/-- A step of the thread that moves no message. -/
lemma Inv.move (h : Inv moduleName σ) {place : Place M} {running : Bool}
    (hcollected : place.collected = σ.place.collected)
    (hsound : place.Sound moduleName σ.messages) :
    Inv moduleName { σ with place := place, running := running } := by
  refine h.handOn rfl rfl ?_ hsound h.bodies
  show σ.mailed ++ place.collected ++ σ.messages = _
  rw [hcollected]

/-- **Every step keeps the invariant.** -/
lemma Inv.step (h : Inv moduleName σ) (hstep : Step moduleName σ σ') : Inv moduleName σ' := by
  have hsound := h.sound
  cases hstep with
  | addMessages messages =>
      refine ⟨?_, fun hthrown => ?_, hsound.addMessages messages, h.bodies⟩
      · have hlost := h.lost
        simp only [State.mailed, List.length_append] at hlost ⊢
        omega
      · show σ.added ++ messages = _
        rw [h.inOrder hthrown, List.append_assoc]
        rfl
  | stopLoop => exact h.move rfl hsound
  | loop hplace => exact h.move (by rw [hplace]; rfl) trivial
  | whileRunning hplace =>
      refine h.move ?_ ?_
      · rw [hplace]
        split_ifs <;> rfl
      · split_ifs <;> trivial
  | ifAvailable hplace =>
      by_cases hnil : σ.messages = []
      · rw [if_pos hnil]
        exact h.move (by rw [hplace]; rfl) trivial
      · rw [if_neg hnil]
        exact h.move (by rw [hplace]; rfl) ⟨rfl, fun _ => hnil⟩
  | whileAvailable hplace =>
      rw [hplace] at hsound
      by_cases hnil : σ.messages = []
      · rw [if_pos hnil]
        exact h.move (by rw [hplace]; rfl) ⟨hsound.1, fun hsections => hsound.2 hsections hnil⟩
      · rw [if_neg hnil]
        exact h.move (by rw [hplace]; rfl) ⟨hsound.1, hnil⟩
  | @getMessage body sections message rest hplace hmessages =>
      rw [hplace] at hsound
      refine h.handOn rfl rfl ?_ hsound.1 h.bodies
      rw [hplace, hmessages]
      simp [State.mailed, Place.collected]
  | @results body sections message results hplace =>
      rw [hplace] at hsound
      have hbody : body ++ sectionText moduleName ⟨message, results⟩
          = bodyOf moduleName (sections ++ [⟨message, results⟩]) := by
        rw [bodyOf_append, show body = bodyOf moduleName sections from hsound]
      refine h.move ?_ ⟨hbody, fun hnil => absurd hnil (by simp)⟩
      rw [hplace]
      simp [Place.collected, messagesOf]
  | @resultsThrow body sections message hplace =>
      refine h.throw ?_
      rw [hplace]
      simp [Place.collected]
  | @send body sections hplace =>
      rw [hplace] at hsound
      refine h.handOn rfl rfl ?_ trivial fun mail hmail => ?_
      · rw [hplace]
        simp [State.mailed, Place.collected]
      · rcases List.mem_append.mp hmail with hmail | hmail
        · exact h.bodies mail hmail
        · rw [List.mem_singleton.mp hmail]
          exact hsound.1
  | @sendThrow body sections hplace =>
      rw [hplace] at hsound
      refine h.throw ?_
      rw [hplace]
      simpa [Place.collected, messagesOf] using hsound.2

lemma Reachable.inv (h : Reachable moduleName σ) : Inv moduleName σ := by
  induction h with
  | initial => exact inv_initial
  | step _ hstep ih => exact ih.step hstep

/-- The thread never calls `front` on an empty queue. -/
lemma Reachable.messages_ne_nil (h : Reachable moduleName σ) {body : String}
    {sections : List (Section M)} (hplace : σ.place = .getMessage body sections) :
    σ.messages ≠ [] := by
  have hsound := h.inv.sound
  rw [hplace] at hsound
  exact hsound.2

/-- **What the notifier keeps.** At every moment of every run each message is in
exactly one place exactly if nothing has thrown so far. -/
theorem kept_iff (h : Reachable moduleName σ) : Kept moduleName σ ↔ σ.thrown = 0 := by
  have hinv := h.inv
  constructor
  · intro hkept
    have hlength := hkept.once.length_eq
    have hlost := hinv.lost
    simp only [List.length_append] at hlength
    omega
  · intro hthrown
    have hadded := hinv.inOrder hthrown
    refine ⟨hadded ▸ List.Perm.refl _, ?_, hinv.bodies⟩
    rw [hadded, List.append_assoc]
    exact List.sublist_append_left _ _

/-! ### Two runs -/

/-- A run in which one message is queued and asked for its text. -/
lemma reachable_getDetectionResults (moduleName : M → String) (message : M) :
    Reachable moduleName ⟨[], true, .getDetectionResults mailBody [] message, [message], [], 0⟩ :=
  ((((((Reachable.initial.step (.loop _ rfl)).step (.addMessages _ [message])).step
    (.whileRunning _ rfl)).step (.ifAvailable _ rfl)).step (.whileAvailable _ rfl)).step
      (.getMessage _ rfl rfl))

/-- It is mailed with its text, and another message is queued then. -/
lemma reachable_mailed (moduleName : M → String) (message next : M) (results : String) :
    Reachable moduleName ⟨[next], true, .whileRunning, [message, next],
      [⟨mailBody ++ sectionText moduleName ⟨message, results⟩, [⟨message, results⟩]⟩], 0⟩ :=
  ((((reachable_getDetectionResults moduleName message).step (.results _ results rfl)).step
    (.whileAvailable _ rfl)).step (.send _ rfl)).step (.addMessages _ [next])

theorem kept_iff_mailed :
    Kept (fun _ : Bool => "Apache Logs Analyzer") ⟨[false], true, .whileRunning,
    [true, false], [⟨mailBody ++ sectionText (fun _ => "Apache Logs Analyzer") ⟨true, "Results"⟩,
      [⟨true, "Results"⟩]⟩], 0⟩ :=
  (kept_iff (reachable_mailed _ true false "Results")).mpr rfl

/-- Its text cannot be made: the message is gone, and no mail was sent. -/
theorem not_kept_single :
    Reachable (fun _ : Unit => "Apache Logs Analyzer") ⟨[], true, .whileRunning, [()], [], 1⟩ ∧
      ¬Kept (fun _ : Unit => "Apache Logs Analyzer") ⟨[], true, .whileRunning, [()], [], 1⟩ := by
  refine ⟨(reachable_getDetectionResults _ ()).step (.resultsThrow _ rfl), fun hkept => ?_⟩
  exact absurd hkept.once.length_eq (by decide)

end Slas.Notifier
