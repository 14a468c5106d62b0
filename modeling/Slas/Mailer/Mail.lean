import Mathlib
import Slas.Lib.Lines
import Slas.Type.DateTimeStrings

/-!
Mails, `server/src/mailer/mail.cpp` and `libslas/include/slas/type/day.h`.

* `Mail`, `compose`: what is set in a mail, and the text it is sent as;
* `fields`, `compose_eq`: the names and values of its header, which with the body make
  up the text;
* `cr_notMem_name`: no name begins a line end;
* `Unbroken`: no value that was set holds one;
* `readHeader_compose_iff`: whoever takes the text apart at the first empty line has the
  header and the body again exactly if the mail is unbroken.

Nothing in a value is escaped or refused. Whatever the body is, it stays behind the
header.
-/

namespace Slas

/-! ### Days -/

/-- `type::Day`. -/
inductive Day where
  | sunday
  | monday
  | tuesday
  | wednesday
  | thursday
  | friday
  | saturday
  deriving DecidableEq

/-- `type::ToDay`; `none` where it throws. -/
def toDay? (dayOfWeek : Int32) : Option Day :=
  if dayOfWeek = 0 then some .sunday
  else if dayOfWeek = 1 then some .monday
  else if dayOfWeek = 2 then some .tuesday
  else if dayOfWeek = 3 then some .wednesday
  else if dayOfWeek = 4 then some .thursday
  else if dayOfWeek = 5 then some .friday
  else if dayOfWeek = 6 then some .saturday
  else none

/-- `type::ToString` of a day. -/
def Day.toString : Day → Str
  | .sunday => ascii "Sun"
  | .monday => ascii "Mon"
  | .tuesday => ascii "Tue"
  | .wednesday => ascii "Wed"
  | .thursday => ascii "Thu"
  | .friday => ascii "Fri"
  | .saturday => ascii "Sat"

namespace Mailer

/-! ### The source -/

/-- `mailer::Mail`, in which everything has been set. -/
structure Mail where
  day : Day
  timestamp : Timestamp
  timeZone : Str
  from_ : Str
  to_ : List Str
  cc : List Str
  subject : Str
  body : Str

/-- `Mail::MonthToString`. A date has no other month than these. -/
def monthToString (month : ℤ) : Str :=
  if month = 1 then ascii "Jan"
  else if month = 2 then ascii "Feb"
  else if month = 3 then ascii "Mar"
  else if month = 4 then ascii "Apr"
  else if month = 5 then ascii "May"
  else if month = 6 then ascii "Jun"
  else if month = 7 then ascii "Jul"
  else if month = 8 then ascii "Aug"
  else if month = 9 then ascii "Sep"
  else if month = 10 then ascii "Oct"
  else if month = 11 then ascii "Nov"
  else ascii "Dec"

/-- `Mail::Compose`. -/
def Mail.compose (mail : Mail) : Str :=
  let rawMail := ascii "Date: " ++ mail.day.toString ++ ascii ", " ++
    stdToString mail.timestamp.date.day ++ ascii " " ++
    monthToString mail.timestamp.date.month ++ ascii " " ++
    stdToString mail.timestamp.date.year ++ ascii " " ++
    mail.timestamp.time.toString ++ ascii " " ++
    mail.timeZone ++ ascii "\r\n"
  let rawMail := mail.to_.foldl
    (fun rawMail i => rawMail ++ (ascii "To: " ++ i ++ ascii "\r\n")) rawMail
  let rawMail := mail.cc.foldl
    (fun rawMail i => rawMail ++ (ascii "Cc: " ++ i ++ ascii "\r\n")) rawMail
  let rawMail := rawMail ++ (ascii "From: " ++ mail.from_ ++ ascii "\r\n")
  let rawMail := rawMail ++ (ascii "Subject: " ++ mail.subject ++ ascii "\r\n")
  let rawMail := rawMail ++ ascii "\r\n"
  rawMail ++ mail.body

/-! ### Header and body -/

/-- What stands in front of the time zone. -/
def Mail.date (mail : Mail) : Str :=
  ascii "Date: " ++ mail.day.toString ++ ascii ", " ++
    stdToString mail.timestamp.date.day ++ ascii " " ++
    monthToString mail.timestamp.date.month ++ ascii " " ++
    stdToString mail.timestamp.date.year ++ ascii " " ++
    mail.timestamp.time.toString ++ ascii " "

/-- The header: what the mail writes itself, with the value behind it. -/
def Mail.fields (mail : Mail) : List (Str × Str) :=
  (mail.date, mail.timeZone) :: (mail.to_.map (ascii "To: ", ·) ++ mail.cc.map (ascii "Cc: ", ·) ++
    [(ascii "From: ", mail.from_), (ascii "Subject: ", mail.subject)])

/-- The lines of the header. -/
def Mail.lines (mail : Mail) : List Str := mail.fields.map fun field => field.1 ++ field.2

/-- No value holds a line end. -/
def Mail.Unbroken (mail : Mail) : Prop :=
  ∀ value ∈ mail.timeZone :: (mail.to_ ++ mail.cc ++ [mail.from_, mail.subject]),
    ¬ascii "\r\n" <:+: value

instance (mail : Mail) : Decidable mail.Unbroken := inferInstanceAs (Decidable (∀ _ ∈ _, _))

/-- A reader: the lines up to the first empty one, and what follows. -/
def readMail (text : Str) : Option (List Str × Str) :=
  Lines.readHeader (byte '\r') (byte '\n') text.length text

/-- A loop that appends a line for every value. -/
lemma foldl_append_lines (name : Str) (values : List Str) (text : Str) :
    values.foldl (fun rawMail i => rawMail ++ (name ++ i ++ ascii "\r\n")) text
      = text ++ (values.map (name, ·)).flatMap fun field => field.1 ++ field.2 ++ ascii "\r\n" := by
  induction values generalizing text with
  | nil => simp
  | cons value values ih =>
      rw [List.foldl_cons, ih, List.append_assoc]
      rfl

/-- **A mail is a header and a body.** -/
lemma compose_eq (mail : Mail) :
    mail.compose = Lines.writeHeader (byte '\r') (byte '\n') mail.lines mail.body := by
  have hheader : Lines.writeHeader (byte '\r') (byte '\n') mail.lines mail.body
      = (mail.fields.flatMap fun field => field.1 ++ field.2 ++ ascii "\r\n") ++ ascii "\r\n"
        ++ mail.body := by
    rw [Lines.writeHeader, Mail.lines, List.flatMap_map]
    rfl
  have hcompose : mail.compose
      = mail.cc.foldl (fun rawMail i => rawMail ++ (ascii "Cc: " ++ i ++ ascii "\r\n"))
      (mail.to_.foldl (fun rawMail i => rawMail ++ (ascii "To: " ++ i ++ ascii "\r\n"))
        (mail.date ++ mail.timeZone ++ ascii "\r\n"))
      ++ (ascii "From: " ++ mail.from_ ++ ascii "\r\n")
      ++ (ascii "Subject: " ++ mail.subject ++ ascii "\r\n") ++ ascii "\r\n" ++ mail.body := rfl
  rw [hcompose, hheader, foldl_append_lines, foldl_append_lines, Mail.fields]
  simp only [List.flatMap_cons, List.flatMap_append, List.flatMap_nil, List.append_assoc,
    List.append_nil]

/-! ### What the mail writes itself -/

section Names

variable {c : UInt8} (hdigit : isDigit c = false)
include hdigit

lemma notMem_stdToString (hsign : c ≠ byte '-') (n : ℤ) : c ∉ stdToString n := by
  have hdecimal : c ∉ decimal n.natAbs := fun hc => by
    rw [isDigit_decimal _ c hc] at hdigit
    cases hdigit
  rw [stdToString]
  split_ifs
  · rw [List.mem_cons, not_or]
    exact ⟨hsign, hdecimal⟩
  · exact hdecimal

lemma notMem_padded (hsign : c ≠ byte '-') (n : ℤ) : c ∉ padded n := by
  rw [padded, List.mem_append, not_or]
  refine ⟨?_, notMem_stdToString hdigit hsign n⟩
  split_ifs
  · rintro hc
    rw [List.mem_singleton.mp hc] at hdigit
    cases hdigit
  · exact List.not_mem_nil

end Names

lemma notMem_ite {c : UInt8} {p : Prop} [Decidable p] {text other : Str} (htext : c ∉ text)
    (hother : c ∉ other) : c ∉ if p then text else other := by
  split_ifs
  · exact htext
  · exact hother

lemma cr_notMem_monthToString (month : ℤ) : byte '\r' ∉ monthToString month := by
  rw [monthToString]
  iterate 11 refine notMem_ite (by decide) ?_
  decide

lemma cr_notMem_toString (day : Day) : byte '\r' ∉ day.toString := by
  cases day <;> decide

lemma cr_notMem_date (mail : Mail) : byte '\r' ∉ mail.date := by
  have htext : ∀ text ∈ ["Date: ", ", ", " ", ":"], byte '\r' ∉ ascii text := by decide
  have hnumber := notMem_stdToString (c := byte '\r') rfl (by decide)
  have hpadded := notMem_padded (c := byte '\r') rfl (by decide)
  simp only [List.forall_mem_cons] at htext
  simp only [Mail.date, Time.toString, List.mem_append, htext, hnumber, hpadded,
    cr_notMem_toString, cr_notMem_monthToString, or_self, not_false_eq_true]

/-- **No name begins a line end**, and none is empty. -/
lemma cr_notMem_name (mail : Mail) {field : Str × Str} (h : field ∈ mail.fields) :
    byte '\r' ∉ field.1 ∧ field.1 ≠ [] := by
  have hname : ∀ name ∈ ["To: ", "Cc: ", "From: ", "Subject: "],
      byte '\r' ∉ ascii name ∧ ascii name ≠ [] := by decide
  simp only [Mail.fields, List.mem_cons, List.mem_append, List.mem_map, List.not_mem_nil,
    or_false] at h
  rcases h with rfl | (⟨_, -, rfl⟩ | ⟨_, -, rfl⟩) | rfl | rfl
  · refine ⟨cr_notMem_date mail, ?_⟩
    simp [Mail.date, ascii]
  all_goals exact hname _ (by simp)

/-! ### Taking a mail apart -/

lemma snd_mem_fields_iff (mail : Mail) {P : Str → Prop} : (∀ field ∈ mail.fields, P field.2) ↔
    ∀ value ∈ mail.timeZone :: (mail.to_ ++ mail.cc ++ [mail.from_, mail.subject]), P value := by
  simp [Mail.fields, or_imp, forall_and]

/-- The lines are unbroken exactly if the values are. -/
lemma infix_lines_iff (mail : Mail) :
    (∀ line ∈ mail.lines, ¬[byte '\r', byte '\n'] <:+: line) ↔ mail.Unbroken := by
  rw [Mail.Unbroken, ← snd_mem_fields_iff mail, Mail.lines, List.forall_mem_map]
  refine forall₂_congr fun field hfield => not_congr ?_
  exact Lines.infix_append_iff (cr_notMem_name mail hfield).1 field.2

lemma length_lines_lt (mail : Mail) : mail.lines.length < mail.compose.length := by
  rw [compose_eq]
  exact Lines.length_lt_writeHeader mail.lines mail.body

/-- **A mail is taken apart into its header and its body exactly if no value in the
header holds a line end**, whatever its body is. -/
lemma readMail_compose_iff (mail : Mail) :
    readMail mail.compose = some (mail.lines, mail.body) ↔ mail.Unbroken := by
  have hlines : ∀ line ∈ mail.lines, line ≠ [] := by
    rw [Mail.lines, List.forall_mem_map]
    exact fun field hfield hnil =>
      (cr_notMem_name mail hfield).2 (List.append_eq_nil_iff.mp hnil).1
  have hlength := length_lines_lt mail
  rw [← infix_lines_iff, readMail, compose_eq] at *
  exact Lines.readHeader_writeHeader_iff (by decide) hlines hlength mail.body

end Mailer

end Slas
