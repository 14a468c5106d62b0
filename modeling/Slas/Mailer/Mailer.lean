import Mathlib
import Slas.Lib.Guard
import Slas.Mailer.Mail
import Slas.Mailer.PayloadSource

/-!
Sending a mail, `server/src/mailer/mailer.cpp`, through the handles and lists of curl,
`server/src/library/curl/curl_wrapper.cpp`.

* `World`: the handles and lists that have not been freed, and what has been performed;
* `CurlWrapper`: its calls, any of which the environment may let fail;
* `send`: `Mailer::Send`, with the destructors of `CurlGuard` and `SListGuard`;
* `sendAll`, `notification?`: the mails of `Notifier::SendMailNotification`;
* `requested`: all that is asked of a mail server;
* `Open`, `Closed`: a handle with its list while a mail is sent, and what is left of them;
* `sendAll_frees`: whichever calls fail, nothing leaks, is freed twice or used after that,
  and mails are sent exactly as requested;
* `readMail_iff`: a notification is read with the body that it was given exactly if the
  addresses of the options are lines.
-/

namespace Slas.Mailer

/-! ### Curl -/

/-- The options that are set. -/
inductive CurlOption where
  | username
  | password
  | url
  | useSsl
  | mailFrom
  | mailRcpt
  | readFunction
  | readData
  | upload
  deriving DecidableEq

/-- What they are set to. A string is copied up to its first NUL byte, a list is not
copied. -/
inductive Parameter where
  | string (text : Str)
  | long (number : ℤ)
  | slist (list : Option ℕ)
  | payloadSource
  | userData (data : UserData)

/-- `CURLUSESSL_ALL`. -/
def curlUseSslAll : ℤ := 3

/-- The options of a handle. -/
abbrev Settings := CurlOption → Option Parameter

/-- A call of `curl_easy_perform`: what the handle had been told, the list it found under
`CURLOPT_MAIL_RCPT`, and if it succeeded. -/
structure Transfer where
  settings : Settings
  recipients : List Str
  ok : Bool

/-- Handles and lists by address, those that have been freed or never existed being
`none`; the first address that is still free; if something that does not exist has been
used or freed; and the transfers so far. -/
structure World where
  handles : ℕ → Option Settings
  slists : ℕ → Option (List Str)
  next : ℕ
  misused : Bool
  transfers : List Transfer

/-- The exceptions of `library/curl/exception`. -/
inductive CurlException where
  | curlGeneral
  | curlObjectNotCreated
  | slistAppend
  deriving DecidableEq

namespace CurlWrapper

variable {α : Type}

/-- Programs on curl, the calls of which may fail. -/
abbrev Curl := Prog World Unit CurlException

/-- `CurlWrapper::Init`. -/
def init : Curl ℕ :=
  .lift fun fault w =>
    if fault.isSome then (.error .curlObjectNotCreated, w)
    else (.ok w.next, { w with
      handles := Function.update w.handles w.next (some fun _ => none)
      next := w.next + 1 })

/-- `CurlWrapper::SetOpt`. -/
def setOpt (handler : ℕ) (option : CurlOption) (parameter : Parameter) : Curl Unit :=
  .lift fun fault w =>
    match w.handles handler with
    | none => (.error .curlGeneral, { w with misused := true })
    | some settings =>
        if fault.isSome then (.error .curlGeneral, w)
        else (.ok (), { w with
          handles := Function.update w.handles handler
            (some (Function.update settings option (some parameter))) })

/-- The list a handle finds when it performs. -/
def recipients? (w : World) (settings : Settings) : Option (List Str) :=
  match settings .mailRcpt with
  | some (.slist (some list)) => w.slists list
  | _ => some []

/-- `CurlWrapper::Perform`. -/
def perform (handler : ℕ) : Curl Unit :=
  .lift fun fault w =>
    match w.handles handler with
    | none => (.error .curlGeneral, { w with misused := true })
    | some settings =>
        match recipients? w settings with
        | none => (.error .curlGeneral, { w with misused := true })
        | some recipients =>
            (if fault.isSome then .error .curlGeneral else .ok (), { w with
              transfers := w.transfers ++ [⟨settings, recipients, fault.isNone⟩] })

/-- `CurlWrapper::Cleanup`. -/
def cleanup (handler : ℕ) : Curl Unit :=
  .lift fun _ w =>
    if (w.handles handler).isNone then (.ok (), { w with misused := true })
    else (.ok (), { w with handles := Function.update w.handles handler none })

/-- `CurlWrapper::SListAppend`. The first entry makes a list. -/
def sListAppend (list : Option ℕ) (text : Str) : Curl ℕ :=
  .lift fun fault w =>
    match list with
    | none =>
        if fault.isSome then (.error .slistAppend, w)
        else (.ok w.next, { w with
          slists := Function.update w.slists w.next (some [cStr text])
          next := w.next + 1 })
    | some list =>
        match w.slists list with
        | none => (.error .slistAppend, { w with misused := true })
        | some entries =>
            if fault.isSome then (.error .slistAppend, w)
            else (.ok list, { w with
              slists := Function.update w.slists list (some (entries ++ [cStr text])) })

/-- `CurlWrapper::SListFreeAll`. There is nothing to free behind a null pointer. -/
def sListFreeAll (list : Option ℕ) : Curl Unit :=
  .lift fun _ w =>
    match list with
    | none => (.ok (), w)
    | some list =>
        if (w.slists list).isNone then (.ok (), { w with misused := true })
        else (.ok (), { w with slists := Function.update w.slists list none })

end CurlWrapper

open CurlWrapper

/-! ### The source -/

/-- `program_options::type::SecurityOption`. -/
inductive SecurityOption where
  | starttls
  | ssl
  | none
  deriving DecidableEq

/-- Those of `program_options::type::Options` that mails depend on. -/
structure Options where
  mailServerSecure : SecurityOption
  mailServerAddress : Str
  mailServerPort : UInt32
  mailServerUser : Str
  mailServerPassword : Str
  mailTo : Str
  mailFrom : Str

/-- `Mailer::GetUrl`. -/
def getUrl (options : Options) : Str :=
  (if options.mailServerSecure = .ssl then ascii "smtps" else ascii "smtp") ++
    ascii "://" ++ options.mailServerAddress ++ ascii ":" ++ decimal options.mailServerPort.toNat

/-- One round of the loops of `GetRecipients`. The handler of both loops finds the list as
it was before the call that threw. -/
def appendRecipient (oldRecipients : Option ℕ) (r : Str) : Curl (Option ℕ) :=
  tryCatch (some <$> sListAppend oldRecipients r) fun e => do
    sListFreeAll oldRecipients
    throw e

/-- `Mailer::GetRecipients`. -/
def getRecipients (mail : Mail) : Curl (Option ℕ) := do
  let recipients ← mail.to_.foldlM appendRecipient none
  mail.cc.foldlM appendRecipient recipients

/-- `Mailer::Send`. The two guards are destroyed in the opposite order. -/
def send (options : Options) (mail : Mail) : Curl Unit := do
  let handler ← init
  Prog.guarded (cleanup handler) do
    setOpt handler .username (.string (cStr options.mailServerUser))
    setOpt handler .password (.string (cStr options.mailServerPassword))
    setOpt handler .url (.string (cStr (getUrl options)))
    if options.mailServerSecure = .starttls then
      setOpt handler .useSsl (.long curlUseSslAll)
    setOpt handler .mailFrom (.string (cStr mail.from_))
    let recipients ← getRecipients mail
    Prog.guarded (sListFreeAll recipients) do
      setOpt handler .mailRcpt (.slist recipients)
      setOpt handler .readFunction .payloadSource
      setOpt handler .readData (.userData (.ofText mail.compose))
      setOpt handler .upload (.long 1)
      perform handler

/-- One notification after another, and which of them were sent: the loop of the notifier
goes on after an exception. -/
def sendAll (options : Options) : List Mail → Curl (List Bool)
  | [] => pure []
  | mail :: mails => do
      let sent ← tryCatch (do send options mail; pure true) fun _ => pure false
      let others ← sendAll options mails
      pure (sent :: others)

/-- What `Notifier::SendMailNotification` takes from `gmtime`. -/
structure Tm where
  sec : Int32
  min : Int32
  hour : Int32
  mday : Int32
  mon : Int32
  year : Int32
  wday : Int32

/-- The mail of `Notifier::SendMailNotification`; `none` if the day or the time is refused. -/
def notification? (options : Options) (gmt : Tm) (mailBody : Str) : Option Mail := do
  let day ← toDay? gmt.wday
  let timestamp ← Timestamp.create? gmt.hour gmt.min (gmt.sec % 60) gmt.mday (gmt.mon + 1)
    (gmt.year + 1900)
  pure {
    day := day
    timestamp := timestamp
    timeZone := ascii "+0000"
    from_ := options.mailFrom
    to_ := [options.mailTo]
    cc := []
    subject := ascii "Found new anomalies"
    body := mailBody }

/-! ### What is sent -/

/-- All that is asked of a mail server. -/
def requested (options : Options) (mail : Mail) (list : Option ℕ) : Settings
  | .username => some (.string (cStr options.mailServerUser))
  | .password => some (.string (cStr options.mailServerPassword))
  | .url => some (.string (cStr (getUrl options)))
  | .useSsl => if options.mailServerSecure = .starttls then some (.long curlUseSslAll) else none
  | .mailFrom => some (.string (cStr mail.from_))
  | .mailRcpt => some (.slist list)
  | .readFunction => some .payloadSource
  | .readData => some (.userData (.ofText mail.compose))
  | .upload => some (.long 1)

/-- The transfer of a mail. -/
def transferOf (options : Options) (mail : Mail) (list : Option ℕ) (ok : Bool) : Transfer :=
  ⟨requested options mail list, (mail.to_ ++ mail.cc).map cStr, ok⟩

/-- Nothing lives at an address that has not been used. -/
def World.Fresh (w : World) : Prop :=
  ∀ address, w.next ≤ address → w.handles address = none ∧ w.slists address = none

/-- All that has been made since `w` has been freed, once, and these are the transfers
since then. -/
structure Closed (w : World) (ts : List Transfer) (s : World) : Prop where
  handles : s.handles = w.handles
  slists : s.slists = w.slists
  next : w.next ≤ s.next
  misused : s.misused = w.misused
  transfers : s.transfers = w.transfers ++ ts

/-- The lists with one more. -/
def withList (slists : ℕ → Option (List Str)) : Option ℕ → List Str → ℕ → Option (List Str)
  | none, _ => slists
  | some list, entries => Function.update slists list (some entries)

/-- A handle, with what it has been told, and the list of recipients so far. -/
structure Open (w : World) (handler : ℕ) (settings : Settings) (list : Option ℕ)
    (entries : List Str) (ts : List Transfer) (s : World) : Prop where
  newHandler : w.handles handler = none
  newList : ∀ l ∈ list, w.slists l = none
  empty : list = none → entries = []
  handles : s.handles = Function.update w.handles handler (some settings)
  slists : s.slists = withList w.slists list entries
  next : w.next ≤ s.next
  misused : s.misused = w.misused
  transfers : s.transfers = w.transfers ++ ts

/-! ### The calls -/

section Calls

variable {env : ℕ → Option Unit} {w : World} {handler : ℕ} {settings : Settings}
  {list : Option ℕ} {entries : List Str} {ts : List Transfer} {s : World}

lemma Open.handle (h : Open w handler settings list entries ts s) :
    s.handles handler = some settings := by
  rw [h.handles, Function.update_self]

lemma init_opens (hw : w.Fresh) : Prog.Triple env (fun _ s => s = w) init
    (fun handler _ s => Open w handler (fun _ => none) none [] [] s) fun _ _ s =>
      Closed w [] s := by
  refine Prog.Triple.lift fun n s hs => ?_
  subst hs
  cases env n with
  | some _ => exact ⟨rfl, rfl, le_rfl, rfl, (List.append_nil _).symm⟩
  | none => exact ⟨(hw s.next le_rfl).1, by simp, fun _ => rfl, rfl, rfl, Nat.le_succ _, rfl,
      (List.append_nil _).symm⟩

/-- **An option**: the handle is told, or nothing happens. -/
lemma setOpt_open {E : CurlException → ℕ → World → Prop} (option : CurlOption)
    (parameter : Parameter)
    (hE : ∀ e n s, Open w handler settings list entries ts s → E e n s) :
    Prog.Triple env (fun _ s => Open w handler settings list entries ts s)
      (setOpt handler option parameter)
      (fun _ _ s => Open w handler (Function.update settings option (some parameter)) list
        entries ts s)
      E := by
  refine Prog.Triple.lift fun n s hs => ?_
  rw [hs.handle]
  cases env n with
  | some _ => exact hE _ _ _ hs
  | none =>
      refine ⟨hs.newHandler, hs.newList, hs.empty, ?_, hs.slists, hs.next, hs.misused, hs.transfers⟩
      show Function.update s.handles handler _ = _
      rw [hs.handles, Function.update_idem]

/-- **A recipient**: the list has one entry more, or nothing happens. -/
lemma sListAppend_open (hw : w.Fresh) (text : Str) :
    Prog.Triple env (fun _ s => Open w handler settings list entries ts s) (sListAppend list text)
      (fun list' _ s => Open w handler settings (some list') (entries ++ [cStr text]) ts s)
      fun _ _ s => Open w handler settings list entries ts s := by
  refine Prog.Triple.lift fun n s hs => ?_
  cases list with
  | none =>
      cases env n with
      | some _ => exact hs
      | none =>
          refine ⟨hs.newHandler, ?_, by simp, hs.handles, ?_, hs.next.trans (Nat.le_succ _),
            hs.misused, hs.transfers⟩
          · rintro l ⟨⟩
            exact (hw s.next hs.next).2
          · show Function.update s.slists s.next _ = _
            rw [hs.slists, hs.empty rfl]
            rfl
  | some list =>
      have hlist : s.slists list = some entries := by
        rw [hs.slists, withList, Function.update_self]
      simp only [hlist]
      cases env n with
      | some _ => exact hs
      | none =>
          refine ⟨hs.newHandler, hs.newList, by simp, hs.handles, ?_, hs.next, hs.misused,
            hs.transfers⟩
          show Function.update s.slists list _ = _
          rw [hs.slists, withList, Function.update_idem]
          rfl

/-- **The transfer**, with the recipients that have been listed. -/
lemma perform_open (hsettings : settings .mailRcpt = some (.slist list)) :
    Prog.Triple env (fun _ s => Open w handler settings list entries [] s) (perform handler)
      (fun _ _ s => Open w handler settings list entries [⟨settings, entries, true⟩] s)
      fun _ _ s => Open w handler settings list entries [⟨settings, entries, false⟩] s := by
  refine Prog.Triple.lift fun n s hs => ?_
  have hrecipients : recipients? s settings = some entries := by
    rw [recipients?, hsettings]
    cases list with
    | none => rw [hs.empty rfl]
    | some list =>
        show s.slists list = _
        rw [hs.slists, withList, Function.update_self]
  have htransfers := hs.transfers
  rw [List.append_nil] at htransfers
  rw [hs.handle]
  simp only [hrecipients]
  cases env n with
  | some _ => exact ⟨hs.newHandler, hs.newList, hs.empty, hs.handles, hs.slists, hs.next,
      hs.misused,
      congrArg (· ++ _) htransfers⟩
  | none => exact ⟨hs.newHandler, hs.newList, hs.empty, hs.handles, hs.slists, hs.next, hs.misused,
      congrArg (· ++ _) htransfers⟩

/-- **The list is freed**, if there is one. -/
lemma sListFreeAll_open {E : CurlException → ℕ → World → Prop} :
    Prog.Triple env (fun _ s => Open w handler settings list entries ts s) (sListFreeAll list)
      (fun _ _ s => Open w handler settings none [] ts s) E := by
  refine Prog.Triple.lift fun n s hs => ?_
  cases list with
  | none =>
      obtain rfl := hs.empty rfl
      exact hs
  | some list =>
      have hlist : s.slists list = some entries := by
        rw [hs.slists, withList, Function.update_self]
      simp only [hlist]
      refine ⟨hs.newHandler, by simp, fun _ => rfl, hs.handles, ?_, hs.next, hs.misused,
        hs.transfers⟩
      show Function.update s.slists list none = _
      rw [hs.slists]
      simp only [withList]
      rw [Function.update_idem, Function.update_eq_self_iff]
      exact (hs.newList list rfl).symm

/-- **The handle is freed.** -/
lemma cleanup_closes {E : CurlException → ℕ → World → Prop} :
    Prog.Triple env (fun _ s => Open w handler settings none [] ts s) (cleanup handler)
      (fun _ _ s => Closed w ts s) E := by
  refine Prog.Triple.lift fun n s hs => ?_
  rw [hs.handle]
  refine ⟨?_, hs.slists, hs.next, hs.misused, hs.transfers⟩
  show Function.update s.handles handler none = _
  rw [hs.handles, Function.update_idem, Function.update_eq_self_iff]
  exact hs.newHandler.symm

end Calls

/-! ### The whole of it -/

section Send

variable (env : ℕ → Option Unit) {w : World} (options : Options) (mail : Mail)

/-- What is there before the recipients, whatever has been told. -/
def Prepared (w : World) (handler : ℕ) (ts : List Transfer) (s : World) : Prop :=
  ∃ settings, Open w handler settings none [] ts s

/-- Nothing has been transferred, or the transfer has failed. -/
def Unsent (options : Options) (mail : Mail) (ts : List Transfer) : Prop :=
  ts = [] ∨ ∃ list, ts = [transferOf options mail list false]

/-- **The recipients**, in their order; if one cannot be added, the list is freed. -/
lemma getRecipients_open (hw : w.Fresh) {handler : ℕ} {settings : Settings} :
    Prog.Triple env (fun _ s => Open w handler settings none [] [] s) (getRecipients mail)
      (fun list _ s => Open w handler settings list ((mail.to_ ++ mail.cc).map cStr) [] s)
      fun _ _ s => Open w handler settings none [] [] s := by
  have hround : ∀ r (done : List Str) list, Prog.Triple env
      (fun _ s => Open w handler settings list (done.map cStr) [] s) (appendRecipient list r)
      (fun list _ s => Open w handler settings list ((done ++ [r]).map cStr) [] s)
      fun _ _ s => Open w handler settings none [] [] s := by
    intro r done list
    have happend : Prog.Triple env (fun _ s => Open w handler settings list (done.map cStr) [] s)
        (some <$> sListAppend list r)
        (fun list _ s => Open w handler settings list ((done ++ [r]).map cStr) [] s)
        fun _ _ s => Open w handler settings list (done.map cStr) [] s := by
      rw [map_eq_pure_bind]
      refine (sListAppend_open hw r).bind fun list => .pure fun _ s hs => ?_
      rw [List.map_append]
      exact hs
    exact happend.rethrow fun _ => sListFreeAll_open
  have hloop : ∀ (rs done : List Str) list, Prog.Triple env
      (fun _ s => Open w handler settings list (done.map cStr) [] s)
      (rs.foldlM appendRecipient list)
      (fun list _ s => Open w handler settings list ((done ++ rs).map cStr) [] s)
      fun _ _ s => Open w handler settings none [] [] s := by
    intro rs
    induction rs with
    | nil =>
        intro done list
        refine .pure fun _ s hs => ?_
        rwa [List.append_nil]
    | cons r rs ih =>
        intro done list
        rw [List.foldlM_cons]
        refine (hround r done list).bind fun list => ?_
        have hrest := ih (done ++ [r]) list
        rwa [List.append_assoc] at hrest
  exact (hloop mail.to_ [] none).bind fun list => hloop mail.cc mail.to_ list

/-- The options that are set in front of the recipients. -/
def addressed (options : Options) (mail : Mail) : Settings
  | .mailRcpt => none
  | .readFunction => none
  | .readData => none
  | .upload => none
  | option => requested options mail none option

/-- **With the recipients**: the list is freed again, whatever fails. -/
lemma transfer_open {handler : ℕ} {list : Option ℕ} :
    Prog.Triple env
      (fun _ s => Open w handler (addressed options mail) list
      ((mail.to_ ++ mail.cc).map cStr) [] s)
      (Prog.guarded (sListFreeAll list) do
        setOpt handler .mailRcpt (.slist list)
        setOpt handler .readFunction .payloadSource
        setOpt handler .readData (.userData (.ofText mail.compose))
        setOpt handler .upload (.long 1)
        perform handler)
      (fun _ _ s => Prepared w handler [transferOf options mail list true] s)
      fun _ _ s => ∃ ts, Unsent options mail ts ∧ Prepared w handler ts s := by
  have hfinal : Function.update (Function.update (Function.update (Function.update
      (addressed options mail) .mailRcpt (some (.slist list))) .readFunction (some .payloadSource))
      .readData (some (.userData (.ofText mail.compose)))) .upload (some (.long 1))
      = requested options mail list := by
    funext option
    cases option <;> rfl
  have hbody : Prog.Triple env
      (fun _ s => Open w handler (addressed options mail) list
      ((mail.to_ ++ mail.cc).map cStr) [] s)
      (do
        setOpt handler .mailRcpt (.slist list)
        setOpt handler .readFunction .payloadSource
        setOpt handler .readData (.userData (.ofText mail.compose))
        setOpt handler .upload (.long 1)
        perform handler)
      (fun _ _ s => ∃ settings, Open w handler settings list ((mail.to_ ++ mail.cc).map cStr)
        [transferOf options mail list true] s)
      fun _ _ s => ∃ ts, Unsent options mail ts ∧ ∃ settings,
        Open w handler settings list ((mail.to_ ++ mail.cc).map cStr) ts s := by
    refine Prog.Triple.bind (setOpt_open _ _ fun _ _ _ hs => ⟨[], .inl rfl, _, hs⟩) fun _ => ?_
    refine Prog.Triple.bind (setOpt_open _ _ fun _ _ _ hs => ⟨[], .inl rfl, _, hs⟩) fun _ => ?_
    refine Prog.Triple.bind (setOpt_open _ _ fun _ _ _ hs => ⟨[], .inl rfl, _, hs⟩) fun _ => ?_
    refine Prog.Triple.bind (setOpt_open _ _ fun _ _ _ hs => ⟨[], .inl rfl, _, hs⟩) fun _ => ?_
    rw [hfinal]
    refine (perform_open rfl).weaken (fun _ _ hs => hs) (fun _ _ _ hs => ⟨_, hs⟩) ?_
    exact fun _ _ _ hs => ⟨_, .inr ⟨list, rfl⟩, _, hs⟩
  refine hbody.guarded (fun _ => .of_exists fun settings => ?_) fun _ => .of_exists fun ts => ?_
  · exact sListFreeAll_open.weaken (fun _ _ hs => hs) (fun _ _ _ hs => ⟨settings, hs⟩)
      (fun _ _ _ hs => hs)
  · refine .assume fun hts => .of_exists fun settings => ?_
    exact sListFreeAll_open.weaken (fun _ _ hs => hs) (fun _ _ _ hs => ⟨ts, hts, settings, hs⟩)
      (fun _ _ _ hs => hs)

/-- **Behind the options that are always set**: the sender, the recipients and the rest. -/
lemma addressed_open (hw : w.Fresh) {handler : ℕ} {settings : Settings}
    (hsettings : Function.update settings .mailFrom (some (.string (cStr mail.from_)))
      = addressed options mail) :
    Prog.Triple env (fun _ s => Open w handler settings none [] [] s)
      (do
        setOpt handler .mailFrom (.string (cStr mail.from_))
        let recipients ← getRecipients mail
        Prog.guarded (sListFreeAll recipients) do
          setOpt handler .mailRcpt (.slist recipients)
          setOpt handler .readFunction .payloadSource
          setOpt handler .readData (.userData (.ofText mail.compose))
          setOpt handler .upload (.long 1)
          perform handler)
      (fun _ _ s => ∃ list, Prepared w handler [transferOf options mail list true] s)
      fun _ _ s => ∃ ts, Unsent options mail ts ∧ Prepared w handler ts s := by
  refine Prog.Triple.bind (setOpt_open _ _ fun _ _ _ hs => ⟨[], .inl rfl, _, hs⟩) fun _ => ?_
  rw [hsettings]
  refine Prog.Triple.bind ((getRecipients_open env mail hw).weaken (fun _ _ hs => hs)
    (fun _ _ _ hs => hs) fun _ _ _ hs => ⟨[], .inl rfl, _, hs⟩) fun list => ?_
  exact (transfer_open env options mail).weaken (fun _ _ hs => hs) (fun _ _ _ hs => ⟨list, hs⟩)
    fun _ _ _ hs => hs

/-- **Sending a mail** frees all that it has made, and it returns exactly if the transfer
has succeeded. -/
lemma send_closes (hw : w.Fresh) : Prog.Triple env (fun _ s => s = w) (send options mail)
    (fun _ _ s => ∃ list, Closed w [transferOf options mail list true] s)
    fun _ _ s => ∃ ts, Unsent options mail ts ∧ Closed w ts s := by
  refine Prog.Triple.bind ((init_opens hw).weaken (fun _ _ hs => hs) (fun _ _ _ hs => hs)
    fun _ _ _ hs => ⟨[], .inl rfl, hs⟩) fun handler => ?_
  refine Prog.Triple.guarded (show Prog.Triple env _ _
    (fun _ _ s => ∃ list, Prepared w handler [transferOf options mail list true] s)
    (fun _ _ s => ∃ ts, Unsent options mail ts ∧ Prepared w handler ts s) from ?_)
    (fun _ => ?_) fun _ => ?_
  · refine Prog.Triple.bind (setOpt_open _ _ fun _ _ _ hs => ⟨[], .inl rfl, _, hs⟩) fun _ => ?_
    refine Prog.Triple.bind (setOpt_open _ _ fun _ _ _ hs => ⟨[], .inl rfl, _, hs⟩) fun _ => ?_
    refine Prog.Triple.bind (setOpt_open _ _ fun _ _ _ hs => ⟨[], .inl rfl, _, hs⟩) fun _ => ?_
    dsimp only
    split_ifs with htls
    · refine Prog.Triple.bind (setOpt_open _ _ fun _ _ _ hs => ⟨[], .inl rfl, _, hs⟩) fun _ => ?_
      refine addressed_open env options mail hw (funext fun option => ?_)
      cases option <;> simp [addressed, requested, htls]
    · refine addressed_open env options mail hw (funext fun option => ?_)
      cases option <;> simp [addressed, requested, htls]
  · refine .of_exists fun list => .of_exists fun settings => ?_
    exact cleanup_closes.weaken (fun _ _ hs => hs) (fun _ _ _ hs => ⟨list, hs⟩) fun _ _ _ hs => hs
  · refine .of_exists fun ts => .assume fun hts => .of_exists fun settings => ?_
    exact cleanup_closes.weaken (fun _ _ hs => hs) (fun _ _ _ hs => ⟨ts, hts, hs⟩)
      fun _ _ _ hs => hs

end Send

/-! ### One mail after another -/

section SendAll

variable {env : ℕ → Option Unit} {w s s' : World} {ts ts' : List Transfer} {options : Options}

/-- What a mail leads to, if it has been sent and if it has not. -/
def Outcome (options : Options) (mail : Mail) (sent : Bool) (ts : List Transfer) : Prop :=
  if sent then ∃ list, ts = [transferOf options mail list true] else Unsent options mail ts

/-- What some mails lead to, one after another. -/
inductive Outcomes (options : Options) : List Mail → List Bool → List Transfer → Prop
  | nil : Outcomes options [] [] []
  | cons {mail : Mail} {mails : List Mail} {sent : Bool} {others : List Bool}
      {ts ts' : List Transfer} (h : Outcome options mail sent ts)
      (hothers : Outcomes options mails others ts') :
      Outcomes options (mail :: mails) (sent :: others) (ts ++ ts')

lemma Closed.fresh (h : Closed w ts s) (hw : w.Fresh) : s.Fresh := by
  intro address haddress
  rw [h.handles, h.slists]
  exact hw address (h.next.trans haddress)

lemma Closed.trans (h : Closed w ts s) (h' : Closed s ts' s') : Closed w (ts ++ ts') s' where
  handles := h'.handles.trans h.handles
  slists := h'.slists.trans h.slists
  next := h.next.trans h'.next
  misused := h'.misused.trans h.misused
  transfers := by rw [h'.transfers, h.transfers, List.append_assoc]

/-- A mail, whatever happens to it. -/
lemma sent_closes (hw : w.Fresh) (mail : Mail) : Prog.Triple env (fun _ s => s = w)
    (tryCatch (do send options mail; pure true) fun _ => pure false)
    (fun sent _ s => ∃ ts, Outcome options mail sent ts ∧ Closed w ts s) fun _ _ _ => False := by
  refine Prog.Triple.tryCatch ((send_closes env options mail hw).bind fun _ => .pure ?_)
    fun _ => .pure ?_
  · rintro n s ⟨list, hs⟩
    exact ⟨_, ⟨list, rfl⟩, hs⟩
  · exact fun _ _ hs => hs

/-- **However many mails are sent, and whichever calls fail**, all handles and lists that
were made for them have been freed, each once, and none was used after that. A mail was sent
exactly if its transfer has succeeded, and then there was only this one; all that was ever
asked of a mail server is what the options and the mail say. -/
theorem sendAll_frees (hw : w.Fresh) (mails : List Mail) : Prog.Triple env (fun _ s => s = w)
    (sendAll options mails)
    (fun sent _ s => ∃ ts, Outcomes options mails sent ts ∧ Closed w ts s) fun _ _ _ => False := by
  induction mails generalizing w with
  | nil =>
      refine .pure fun _ s hs => ⟨[], .nil, ?_⟩
      rw [hs]
      exact ⟨rfl, rfl, le_rfl, rfl, (List.append_nil _).symm⟩
  | cons mail mails ih =>
      refine (sent_closes hw mail).bind fun sent => .of_exists fun ts => .assume fun hts => ?_
      intro n s hs
      have hrest : Prog.Triple env (fun _ s' => s' = s)
          (do let others ← sendAll options mails; pure (sent :: others))
          (fun sent _ s => ∃ ts, Outcomes options (mail :: mails) sent ts ∧ Closed w ts s)
          fun _ _ _ => False := by
        refine (ih (hs.fresh hw)).bind fun others => .pure ?_
        rintro n s' ⟨ts', hts', hs'⟩
        exact ⟨_, .cons hts hts', hs.trans hs'⟩
      exact hrest n s rfl

/-- Before the first mail. -/
def World.initial : World := ⟨fun _ => none, fun _ => none, 0, false, []⟩

lemma World.fresh_initial : World.initial.Fresh := fun _ _ => ⟨rfl, rfl⟩

/-- Options of a server that is talked to in the clear. -/
def someOptions : Options :=
  ⟨.none, ascii "localhost", 25, ascii "user", ascii "password", ascii "a@b", ascii "c@d"⟩

/-- A notification at the beginning of a year. -/
def someMail : Mail where
  day := .friday
  timestamp := ⟨⟨0, 0, 0, Time.checkTime_midnight⟩,
    ⟨1, 1, 2016, Date.checkDate_newYear, Date.fits_2016⟩⟩
  timeZone := ascii "+0000"
  from_ := someOptions.mailFrom
  to_ := [someOptions.mailTo]
  cc := []
  subject := ascii "Found new anomalies"
  body := ascii "Found new anomalies."

/-- Two notifications, the first of which fails at the third call. -/
theorem sendAll_frees_third : Prog.Triple (fun n => if n = 2 then some () else none)
    (fun _ s => s = World.initial) (sendAll someOptions [someMail, someMail])
    (fun sent _ s => ∃ ts, Outcomes someOptions [someMail, someMail] sent ts ∧
      Closed World.initial ts s) fun _ _ _ => False :=
  sendAll_frees World.fresh_initial [someMail, someMail]

end SendAll

/-! ### Notifications -/

lemma readMail_notification_iff {options : Options} {gmt : Tm} {mailBody : Str} {mail : Mail}
    (h : notification? options gmt mailBody = some mail) :
    readMail mail.compose = some (mail.lines, mailBody) ↔
      ¬ascii "\r\n" <:+: options.mailTo ∧ ¬ascii "\r\n" <:+: options.mailFrom := by
  simp only [notification?, Option.bind_eq_bind, Option.bind_eq_some_iff, Option.pure_def,
    Option.some.injEq] at h
  obtain ⟨day, -, timestamp, -, rfl⟩ := h
  refine (readMail_compose_iff _).trans ?_
  have hzone : ¬ascii "\r\n" <:+: ascii "+0000" := by decide
  have hsubject : ¬ascii "\r\n" <:+: ascii "Found new anomalies" := by decide
  simp [Mail.Unbroken, hzone, hsubject]

/-- **Header and body stay apart** exactly if no value in the header holds a line end. In a
notification the only values are the two addresses of the options: whatever a detection has
found is read as the body. -/
theorem readMail_iff (mail : Mail) (options : Options) (gmt : Tm) (mailBody : Str) :
    (readMail mail.compose = some (mail.lines, mail.body) ↔ mail.Unbroken) ∧
    ∀ notification ∈ notification? options gmt mailBody,
      (readMail notification.compose = some (notification.lines, mailBody) ↔
        ¬ascii "\r\n" <:+: options.mailTo ∧ ¬ascii "\r\n" <:+: options.mailFrom) :=
  ⟨readMail_compose_iff mail, fun _ h => readMail_notification_iff h⟩

/-- A notification is composed on the first day of a year. -/
lemma isSome_notification?_newYear : (notification? someOptions ⟨0, 0, 0, 1, 0, 116, 5⟩
    (ascii "\r\nTo: x\r\n")).isSome = true := by decide +kernel

/-- A notification of the first day of a year, its body looking like a header. -/
theorem readMail_iff_newYear :
    readMail someMail.compose = some (someMail.lines, someMail.body) ∧
    ∃ notification ∈ notification? someOptions ⟨0, 0, 0, 1, 0, 116, 5⟩ (ascii "\r\nTo: x\r\n"),
      readMail notification.compose = some (notification.lines, ascii "\r\nTo: x\r\n") := by
  have h := readMail_iff someMail someOptions ⟨0, 0, 0, 1, 0, 116, 5⟩ (ascii "\r\nTo: x\r\n")
  obtain ⟨notification, hmem⟩ := Option.isSome_iff_exists.mp isSome_notification?_newYear
  exact ⟨h.1.mpr (by decide), notification, hmem, (h.2 notification hmem).mpr (by decide)⟩

end Slas.Mailer
