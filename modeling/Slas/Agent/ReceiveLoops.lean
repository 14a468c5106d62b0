import Mathlib
import Slas.Agent.LogReceivers

/-!
What clients can do to the two loops that receive logs.

* `apacheOutcome`, `bashOutcome`: what the loops do for a client, beside accepting and
  closing its socket;
* `HandledByApache`, `HandledByBash`: the entries that the text of a client calls for;
* `Unharmed`: a loop goes on, has closed every socket it accepted once, and has added
  the entries of its clients;
* `loops_unharmed`: the clients for which this is so.
-/

namespace Slas.Agent

open MonadExcept (ofExcept)
open Network (Client Event LoopM Accepting Serves Steps GoesOn clients startLoop)
open Pattern

variable {σ E C : Type}

/-! ### The two bodies -/

/-- What the Apache loop does for a client. -/
def apacheOutcome (rounds : ℕ) (agentName : Str) (client : Client σ) :
    EStateM Exception (List ApacheLogEntry) Unit := do
  let newLog ← ofExcept (receiveText rounds client)
  match ← ofExcept (newLogEntry agentName newLog) with
  | some entry => addCommand entry
  | none => pure ()

/-- What the Bash loop does for a client. -/
def bashOutcome (rounds : ℕ) (agentName : Str) (client : BashClient σ) :
    EStateM Exception (List BashLogEntry) Unit := do
  let newCommand ← ofExcept (receiveText rounds client.toClient)
  let utcTime ← ofExcept client.now.utcTime
  addCommand { agentName, utcTime, userId := client.uid, command := newCommand.bytes }

lemma serves_apache (rounds : ℕ) (agentName : Str) :
    Serves (serveApache (σ := σ) rounds agentName) (apacheOutcome rounds agentName) := by
  have hrun : ∀ (client : Client σ) (r : Accepting (List ApacheLogEntry)),
      (serveApache rounds agentName client).run r =
        match (apacheOutcome rounds agentName client).run r.state with
        | .ok _ queue => .ok () (r.served queue)
        | .error exception queue =>
            .error exception { r with accepted := r.accepted + 1, state := queue } := by
    intro client r
    simp only [serveApache, apacheOutcome, EStateM.run_bind, Network.run_accept,
      Calls.run_ofExcept]
    cases receiveText rounds client with
    | error exception => rfl
    | ok newLog =>
        simp only
        cases newLogEntry agentName newLog with
        | error exception => rfl
        | ok entry =>
            cases entry with
            | none => rfl
            | some entry => rfl
  constructor
  · intro client queue r h
    rw [hrun, h]
  · intro client exception queue r h
    rw [hrun, h]
    exact ⟨_, rfl, rfl⟩

lemma serves_bash (rounds : ℕ) (agentName : Str) :
    Serves (serveBash (σ := σ) rounds agentName) (bashOutcome rounds agentName) := by
  constructor
  · intro client queue r h
    simp only [serveBash, bashOutcome, EStateM.run_bind, Network.run_accept,
      Calls.run_ofExcept, Network.run_close] at h ⊢
    cases htext : receiveText rounds client.toClient with
    | error exception => simp [htext] at h
    | ok newCommand =>
        cases htime : client.now.utcTime with
        | error exception => simp [htext, htime] at h
        | ok utcTime =>
            simp only [htext, htime] at h ⊢
            rw [Network.run_onState, h]
            rfl
  · intro client exception queue r h
    simp only [serveBash, bashOutcome, EStateM.run_bind, Network.run_accept,
      Calls.run_ofExcept, Network.run_close] at h ⊢
    cases htext : receiveText rounds client.toClient with
    | error e =>
        simp only [htext, EStateM.Result.error.injEq] at h
        obtain ⟨rfl, rfl⟩ := h
        exact ⟨_, rfl, rfl⟩
    | ok newCommand =>
        cases htime : client.now.utcTime with
        | error e =>
            simp only [htext, htime, EStateM.Result.error.injEq] at h
            obtain ⟨rfl, rfl⟩ := h
            exact ⟨_, rfl, rfl⟩
        | ok utcTime => simp [htext, htime, addCommand] at h

/-- The Apache loop adds the entry of a text. -/
lemma apacheOutcome_eq_ok_iff {rounds : ℕ} {agentName : Str} {client : Client σ}
    {queue queue' : List ApacheLogEntry} :
    (apacheOutcome rounds agentName client).run queue = .ok () queue' ↔
      ∃ text entry, receiveText rounds client = .ok text ∧ newLogEntry agentName text = .ok entry ∧
        queue' = queue ++ entry.toList := by
  simp only [apacheOutcome, Calls.run_bind_eq_ok_iff, Calls.run_ofExcept_eq_ok_iff]
  constructor
  · rintro ⟨text, _, ⟨htext, rfl⟩, entry, _, ⟨hentry, rfl⟩, h⟩
    refine ⟨text, entry, htext, hentry, ?_⟩
    cases entry with
    | none => simpa [eq_comm] using h
    | some entry => simpa [addCommand, eq_comm] using h
  · rintro ⟨text, entry, htext, hentry, rfl⟩
    refine ⟨text, _, ⟨htext, rfl⟩, entry, _, ⟨hentry, rfl⟩, ?_⟩
    cases entry with
    | none => simp
    | some entry => simp [addCommand]

/-- An exception leaves the queue as it is. -/
lemma apacheOutcome_error {rounds : ℕ} {agentName : Str} {client : Client σ}
    {queue queue' : List ApacheLogEntry} {exception : Exception}
    (h : (apacheOutcome rounds agentName client).run queue = .error exception queue') :
    queue' = queue := by
  simp only [apacheOutcome, Calls.run_bind_eq_error_iff, Calls.run_ofExcept_eq_ok_iff,
    Calls.run_ofExcept_eq_error_iff] at h
  rcases h with ⟨-, rfl⟩ | ⟨text, _, ⟨-, rfl⟩, ⟨-, rfl⟩ | ⟨entry, _, ⟨-, rfl⟩, h⟩⟩
  · rfl
  · rfl
  · cases entry with
    | none => exact nomatch h
    | some entry => exact nomatch h

/-- The Bash loop adds the text as a command. -/
lemma bashOutcome_eq_ok_iff {rounds : ℕ} {agentName : Str} {client : BashClient σ}
    {queue queue' : List BashLogEntry} :
    (bashOutcome rounds agentName client).run queue = .ok () queue' ↔
      ∃ text utcTime, receiveText rounds client.toClient = .ok text ∧
        client.now.utcTime = .ok utcTime ∧
        queue' = queue ++ [{ agentName, utcTime, userId := client.uid, command :=
          text.bytes }] := by
  simp only [bashOutcome, Calls.run_bind_eq_ok_iff, Calls.run_ofExcept_eq_ok_iff]
  constructor
  · rintro ⟨text, _, ⟨htext, rfl⟩, utcTime, _, ⟨htime, rfl⟩, h⟩
    obtain ⟨-, rfl⟩ := EStateM.Result.ok.inj h
    exact ⟨text, utcTime, htext, htime, rfl⟩
  · rintro ⟨text, utcTime, htext, htime, rfl⟩
    exact ⟨text, _, ⟨htext, rfl⟩, utcTime, _, ⟨htime, rfl⟩, rfl⟩

/-! ### What a text calls for -/

/-- The client sends a text, and all of it arrives before a wait has lasted too long. -/
def Sends (client : Client σ) (text : Text) : Prop :=
  ∃ rounds, receiveText rounds client = .ok text

/-- A text is dropped, or it is a line and gives one entry with its values; where there is
no text there is no entry. -/
structure HandledByApache (client : Client σ) (entries : List ApacheLogEntry) : Prop where
  of_sends : ∀ {text}, Sends client text → entries = [] ∨
    ∃ fields entry, entries = [entry] ∧ IsLine text.bytes fields ∧ EntryOf fields entry
  of_silent : (∀ text, ¬Sends client text) → entries = []

/-- A text gives one entry, with the text as the command. -/
structure HandledByBash (client : BashClient σ) (entries : List BashLogEntry) : Prop where
  of_sends : ∀ {text}, Sends client.toClient text →
    ∃ entry, entries = [entry] ∧ entry.command = text.bytes
  of_silent : (∀ text, ¬Sends client.toClient text) → entries = []

/-- After these events the loop is still running, it has closed every socket it accepted
once, and it has added the entries of its clients. -/
structure Unharmed (serve : C → LoopM Exception (List E) Unit) (Handled : C → List E → Prop)
    (events : List (Event C)) (r : Accepting (List E)) : Prop where
  goesOn : GoesOn serve events [] r
  queue : ∃ entries, List.Forall₂ Handled (clients events) entries ∧ r.state = entries.flatten

/-- If the text is a line, its time can be set and its numbers can be read. -/
def Readable (text : Text) : Prop :=
  ∀ fields, IsLine text.bytes fields →
    (∃ time, TimeOf (subMatch fields 3) time ∧ time.Checked) ∧
    (∃ statusCode, stoi (subMatch fields 5) = .ok statusCode) ∧
    ∃ bytes, stoi (subMatch fields 6) = .ok bytes

/-! ### What is added for a text -/

lemma receiveText_mono {client : Client σ} {rounds more : ℕ} {text : Text}
    (h : receiveText rounds client = .ok text) (hle : rounds ≤ more) :
    receiveText more client = .ok text := by
  rw [receiveText, Calls.mapError_eq_ok_iff] at h ⊢
  cases hcall : Network.call (Network.receiveText client.system rounds) client.world with
  | error stop => simp [hcall, Except.map] at h
  | ok received =>
      obtain ⟨_, world⟩ := received
      have hmore := Network.receiveText_mono (Network.call_eq_ok_iff.mp hcall) hle
      rw [hcall] at h
      rw [Network.call_eq_ok_iff.mpr hmore]
      exact h

lemma Sends.eventually {client : Client σ} {text : Text} (h : Sends client text) :
    ∀ᶠ rounds in Filter.atTop, receiveText rounds client = .ok text := by
  obtain ⟨rounds, h⟩ := h
  filter_upwards [Filter.eventually_ge_atTop rounds] with more hle
  exact receiveText_mono h hle

lemma Sends.unique {client : Client σ} {text text' : Text} (h : Sends client text)
    (h' : Sends client text') : text = text' := by
  obtain ⟨rounds, htext, htext'⟩ := (h.eventually.and h'.eventually).exists
  exact Except.ok.inj (htext.symm.trans htext')

/-- No month is numbered 0. -/
lemma month_ne_zero {timestamp : Str} {time : Timestamp} (h : TimeOf timestamp time) :
    time.month ≠ 0 := by
  obtain ⟨groups, -, -, hmonth, -⟩ := h
  have hall : ∀ month ∈ months, month.2 ≠ 0 := by decide
  rw [monthsAt] at hmonth
  split at hmonth
  case h_1 month hlookup =>
    obtain rfl := Except.ok.inj hmonth
    obtain ⟨before, after, heq, -⟩ := List.lookup_eq_some_iff.mp hlookup
    exact hall _ (heq ▸ List.mem_append_right _ (List.mem_cons_self ..))
  case h_2 => exact nomatch hmonth

lemma IsLine.unique {text : Str} {fields fields' : List Str} (h : IsLine text fields)
    (h' : IsLine text fields') : fields = fields' := by
  rw [← regexMatch_linePattern] at h h'
  exact Option.some.inj (h.symm.trans h')

/-- What is added for a text that can be read is what the text calls for. -/
lemma handledByApache {agentName : Str} {client : Client σ} {text : Text}
    {entry : Option ApacheLogEntry} (htext : Sends client text) (hreadable : Readable text)
    (hentry : newLogEntry agentName text = .ok entry) :
    HandledByApache client entry.toList := by
  constructor
  · intro text' htext'
    obtain rfl := htext'.unique htext
    rcases newLogEntry_eq_ok_iff.mp hentry with ⟨fields, added, hline, hadded, rfl⟩ | ⟨-, rfl⟩
    · obtain ⟨time, statusCode, bytes, htime, hstatusCode, hbytes, rfl⟩ :=
        logEntryOf_eq_ok_iff.mp hadded
      obtain ⟨⟨_, ⟨groups, hgroups, -⟩, -⟩, -⟩ := hreadable fields hline
      rcases logTimestampToTimestamp_eq_ok_iff.mp htime with ⟨htime, -⟩ | ⟨hnone, -⟩
      · exact .inr ⟨fields, _, rfl, hline, rfl, rfl, htime, rfl, hstatusCode, hbytes, rfl⟩
      · exact absurd (hnone.symm.trans hgroups) nofun
    · exact .inl rfl
  · intro hsilent
    exact absurd htext (hsilent text)

lemma handledByBash {client : BashClient σ} {text : Text} (htext : Sends client.toClient text)
    {entry : BashLogEntry} (hcommand : entry.command = text.bytes) :
    HandledByBash client [entry] := by
  constructor
  · intro text' htext'
    obtain rfl := htext'.unique htext
    exact ⟨entry, rfl, hcommand⟩
  · intro hsilent
    exact absurd htext (hsilent text)

/-- A text that can be read makes no trouble. -/
lemma exists_newLogEntry (agentName : Str) {text : Text} (h : Readable text) :
    ∃ entry, newLogEntry agentName text = .ok entry := by
  by_cases hline : ∃ fields, IsLine text.bytes fields
  · obtain ⟨fields, hfields⟩ := hline
    obtain ⟨⟨time, htime, hchecked⟩, ⟨statusCode, hstatusCode⟩, bytes, hbytes⟩ := h fields hfields
    have hadded : logEntryOf agentName fields = .ok _ := logEntryOf_eq_ok_iff.mpr ⟨time, statusCode,
      bytes, logTimestampToTimestamp_eq_ok_iff.mpr (.inl ⟨htime, hchecked⟩), hstatusCode,
        hbytes, rfl⟩
    exact ⟨_, newLogEntry_eq_ok_iff.mpr (.inl ⟨fields, _, hfields, hadded, rfl⟩)⟩
  · exact ⟨none, newLogEntry_eq_ok_iff.mpr (.inr ⟨not_exists.mp hline, rfl⟩)⟩

/-- Conversely, the text of an entry with the time of some timestamp can be read. -/
lemma readable_of_newLogEntry {agentName : Str} {text : Text} {entry : Option ApacheLogEntry}
    (hentry : newLogEntry agentName text = .ok entry)
    (htime : ∀ added ∈ entry, ∃ timestamp, TimeOf timestamp added.time) : Readable text := by
  intro fields hfields
  rcases newLogEntry_eq_ok_iff.mp hentry with ⟨_, added, hline, hadded, rfl⟩ | ⟨hnone, -⟩
  · obtain rfl := hline.unique hfields
    obtain ⟨time, statusCode, bytes, hset, hstatusCode, hbytes, rfl⟩ :=
      logEntryOf_eq_ok_iff.mp hadded
    refine ⟨⟨time, ?_⟩, ⟨statusCode, hstatusCode⟩, bytes, hbytes⟩
    rcases logTimestampToTimestamp_eq_ok_iff.mp hset with hset | ⟨-, rfl⟩
    · exact hset
    · obtain ⟨timestamp, hzero⟩ := htime _ rfl
      exact absurd rfl (month_ne_zero hzero)
  · exact absurd hfields (hnone fields)

/-! ### Lists of clients -/

/-- Adding to a queue for one client after the other. -/
lemma steps_append_iff {R : C → List E → Prop} {cs : List C} {queue queue' : List E} :
    Steps (fun client q q' => ∃ es, R client es ∧ q' = q ++ es) cs queue queue' ↔
      ∃ entries, List.Forall₂ R cs entries ∧ queue' = queue ++ entries.flatten := by
  constructor
  · intro h
    induction h with
    | nil queue => exact ⟨[], .nil, by simp⟩
    | cons hstep _ ih =>
        obtain ⟨es, hes, rfl⟩ := hstep
        obtain ⟨entries, hentries, rfl⟩ := ih
        exact ⟨es :: entries, .cons hes hentries, by simp⟩
  · rintro ⟨entries, h, rfl⟩
    induction h generalizing queue with
    | nil => simpa using Steps.nil queue
    | cons hes _ ih =>
        rw [List.flatten_cons, ← List.append_assoc]
        exact .cons ⟨_, hes, rfl⟩ ih

lemma exists_of_mem_left {A B : Type} {R : A → B → Prop} {as : List A} {bs : List B} {a : A}
    (h : List.Forall₂ R as bs) (ha : a ∈ as) : ∃ b ∈ bs, R a b := by
  induction h with
  | nil => exact absurd ha List.not_mem_nil
  | cons hab h ih =>
      rcases List.mem_cons.mp ha with rfl | ha
      · exact ⟨_, List.mem_cons_self .., hab⟩
      · obtain ⟨b, hb, hab⟩ := ih ha
        exact ⟨b, List.mem_cons_of_mem _ hb, hab⟩

lemma exists_forall₂ {A B : Type} {R : A → B → Prop} {as : List A} (h : ∀ a ∈ as, ∃ b, R a b) :
    ∃ bs, List.Forall₂ R as bs := by
  induction as with
  | nil => exact ⟨[], .nil⟩
  | cons a as ih =>
      obtain ⟨b, hb⟩ := h a (List.mem_cons_self ..)
      obtain ⟨bs, hbs⟩ := ih fun a ha => h a (List.mem_cons_of_mem _ ha)
      exact ⟨b :: bs, .cons hb hbs⟩

/-- Entries that are added and called for alike. -/
lemma exists_added_handled {Added Handled : C → List E → Prop} {cs : List C}
    (h : ∀ client ∈ cs, ∃ es, Added client es ∧ Handled client es) :
    ∃ added handled, List.Forall₂ Added cs added ∧ List.Forall₂ Handled cs handled ∧
      added.flatten = handled.flatten := by
  obtain ⟨entries, hentries⟩ := exists_forall₂ h
  exact ⟨entries, entries, hentries.imp fun _ _ h => h.1, hentries.imp fun _ _ h => h.2, rfl⟩

/-- A loop that adds entries for every client is unharmed if these are, together, the
entries its clients call for. -/
lemma exists_unharmed_iff {serve : ℕ → C → LoopM Exception (List E) Unit}
    {outcome : ℕ → C → EStateM Exception (List E) Unit} (Added : C → List E → Prop)
    {Handled : C → List E → Prop} (hserve : ∀ rounds, Serves (serve rounds) (outcome rounds))
    (hof : ∀ {rounds client q q'}, (outcome rounds client).run q = .ok () q' →
      ∃ es, Added client es ∧ q' = q ++ es)
    (henough : ∀ {client es q}, Added client es →
      ∀ᶠ rounds in Filter.atTop, (outcome rounds client).run q = .ok () (q ++ es))
    {events : List (Event C)} :
    (∃ rounds r, Unharmed (serve rounds) Handled events r) ↔
      ∃ added handled, List.Forall₂ Added (clients events) added ∧
        List.Forall₂ Handled (clients events) handled ∧ added.flatten = handled.flatten := by
  have hgoesOn := Network.exists_goesOn_iff hserve hof
    (fun {client q q'} hstep => by
      obtain ⟨es, hes, rfl⟩ := hstep
      exact henough hes)
    events [] fun queue => ∃ entries, List.Forall₂ Handled (clients events) entries ∧
      queue = entries.flatten
  constructor
  · rintro ⟨rounds, r, hr⟩
    obtain ⟨queue, hsteps, handled, hhandled, rfl⟩ := hgoesOn.mp ⟨rounds, r, hr.goesOn, hr.queue⟩
    obtain ⟨added, hadded, heq⟩ := steps_append_iff.mp hsteps
    exact ⟨added, handled, hadded, hhandled, heq.symm⟩
  · rintro ⟨added, handled, hadded, hhandled, heq⟩
    obtain ⟨rounds, r, hr, hqueue⟩ := hgoesOn.mpr ⟨added.flatten,
      steps_append_iff.mpr ⟨added, hadded, rfl⟩, handled, hhandled, heq⟩
    exact ⟨rounds, r, hr, hqueue⟩

/-! ### Which clients leave the loops unharmed -/

/-- The Apache loop is unharmed by clients that send texts it can read, and by no others. -/
lemma exists_unharmed_apache_iff {agentName : Str} {events : List (Event (Client σ))} :
    (∃ rounds r, Unharmed (serveApache rounds agentName) HandledByApache events r) ↔
      ∀ client ∈ clients events, ∃ text, Sends client text ∧ Readable text := by
  refine (exists_unharmed_iff (fun client es => ∃ text entry, Sends client text ∧
      newLogEntry agentName text = .ok entry ∧ es = entry.toList)
    (fun rounds => serves_apache rounds agentName) ?_ ?_).trans ⟨?_, ?_⟩
  · intro rounds client q q' h
    obtain ⟨text, entry, htext, hentry, rfl⟩ := apacheOutcome_eq_ok_iff.mp h
    exact ⟨_, ⟨text, entry, ⟨rounds, htext⟩, hentry, rfl⟩, rfl⟩
  · rintro client es q ⟨text, entry, hsends, hentry, rfl⟩
    filter_upwards [hsends.eventually] with rounds htext
    exact apacheOutcome_eq_ok_iff.mpr ⟨text, entry, htext, hentry, rfl⟩
  · rintro ⟨added, handled, hadded, hhandled, heq⟩ client hclient
    obtain ⟨es, hes, text, entry, hsends, hentry, rfl⟩ := exists_of_mem_left hadded hclient
    refine ⟨text, hsends, readable_of_newLogEntry hentry fun new hnew => ?_⟩
    -- the entry is one that some client's text calls for, so it has a time
    have hqueue : new ∈ handled.flatten :=
      heq ▸ List.mem_flatten_of_mem hes (Option.mem_toList.mpr hnew)
    obtain ⟨es', hes', hmem⟩ := List.mem_flatten.mp hqueue
    obtain ⟨client', -, hhandled'⟩ := exists_of_mem_left hhandled.flip hes'
    by_cases hsends' : ∃ text', Sends client' text'
    · obtain ⟨text', hsends'⟩ := hsends'
      rcases hhandled'.of_sends hsends' with rfl | ⟨fields, _, rfl, -, hof⟩
      · exact absurd hmem List.not_mem_nil
      · obtain rfl := List.mem_singleton.mp hmem
        exact ⟨_, hof.time⟩
    · rw [hhandled'.of_silent (not_exists.mp hsends')] at hmem
      exact absurd hmem List.not_mem_nil
  · refine fun h => exists_added_handled fun client hclient => ?_
    obtain ⟨text, hsends, hreadable⟩ := h client hclient
    obtain ⟨entry, hentry⟩ := exists_newLogEntry agentName hreadable
    exact ⟨_, ⟨text, entry, hsends, hentry, rfl⟩, handledByApache hsends hreadable hentry⟩

/-- The Bash loop is unharmed by clients that send texts, and by no others. -/
lemma exists_unharmed_bash_iff {agentName : Str} {events : List (Event (BashClient σ))} :
    (∃ rounds r, Unharmed (serveBash rounds agentName) HandledByBash events r) ↔
      ∀ client ∈ clients events, ∃ text, Sends client.toClient text := by
  refine (exists_unharmed_iff (fun client es => ∃ text utcTime, Sends client.toClient text ∧
      client.now.utcTime = .ok utcTime ∧
      es = [{ agentName, utcTime, userId := client.uid, command := text.bytes }])
    (fun rounds => serves_bash rounds agentName) ?_ ?_).trans ⟨?_, ?_⟩
  · intro rounds client q q' h
    obtain ⟨text, utcTime, htext, htime, rfl⟩ := bashOutcome_eq_ok_iff.mp h
    exact ⟨_, ⟨text, utcTime, ⟨rounds, htext⟩, htime, rfl⟩, rfl⟩
  · rintro client es q ⟨text, utcTime, hsends, htime, rfl⟩
    filter_upwards [hsends.eventually] with rounds htext
    exact bashOutcome_eq_ok_iff.mpr ⟨text, utcTime, htext, htime, rfl⟩
  · rintro ⟨added, handled, hadded, -, -⟩ client hclient
    obtain ⟨es, hes, text, utcTime, hsends, -⟩ := exists_of_mem_left hadded hclient
    exact ⟨text, hsends⟩
  · refine fun h => exists_added_handled fun client hclient => ?_
    obtain ⟨text, hsends⟩ := h client hclient
    obtain ⟨utcTime, htime⟩ := client.now.exists_utcTime
    exact ⟨_, ⟨text, utcTime, hsends, htime, rfl⟩, handledByBash hsends rfl⟩

/-- Both loops go on, close what they accept and add what they are called for as long as
every client sends a text, and as long as every line that Apache sends can be read. -/
theorem loops_unharmed (agentName : Str) :
    (∀ events : List (Event (Client σ)),
      (∃ rounds r, Unharmed (serveApache rounds agentName) HandledByApache events r) ↔
        ∀ client ∈ clients events, ∃ text, Sends client text ∧ Readable text) ∧
    (∀ events : List (Event (BashClient σ)),
      (∃ rounds r, Unharmed (serveBash rounds agentName) HandledByBash events r) ↔
        ∀ client ∈ clients events, ∃ text, Sends client.toClient text) :=
  ⟨fun _ => exists_unharmed_apache_iff, fun _ => exists_unharmed_bash_iff⟩

/-- A client that connects and sends nothing. -/
def silent : Client Unit where
  system := {
    poll := fun world => (0, world)
    recv := fun _ world => (none, world)
    send := fun _ world => (none, world)
    recv_le := nofun
    send_le := nofun }
  world := ()

lemma not_sends_silent (text : Text) : ¬Sends silent text := by
  rintro ⟨rounds, h⟩
  cases rounds with
  | zero => exact nomatch h
  | succ rounds => exact nomatch h

/-- Midnight of the first day that a clock may show. -/
def epoch : Tm := ⟨0, 0, 0, 1, 0, 70,
  by decide, by decide, by decide, by decide, by decide, by decide⟩

/-- A client that sends nothing harms both loops. -/
theorem not_loops_unharmed_silent :
    (¬∃ rounds r, Unharmed (serveApache rounds []) HandledByApache [.newData silent] r) ∧
    ¬∃ rounds r, Unharmed (serveBash rounds []) HandledByBash
      [.newData { silent with uid := 0, now := epoch }] r := by
  constructor
  · intro h
    obtain ⟨text, hsends, -⟩ := exists_unharmed_apache_iff.mp h silent (List.mem_singleton_self _)
    exact not_sends_silent text hsends
  · intro h
    obtain ⟨text, hsends⟩ := exists_unharmed_bash_iff.mp h _ (List.mem_singleton_self _)
    exact not_sends_silent text hsends

end Slas.Agent
