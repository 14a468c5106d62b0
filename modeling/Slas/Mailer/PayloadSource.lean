import Mathlib
import Slas.Lib.Tiling
import Slas.Type.Str

/-!
The upload of a mail, `server/src/mailer/mailer.cpp`: the library asks for the text
piece by piece.

* `payloadSource`: `Mailer::payload_source`, one call with the room that it offers;
* `deliver`: any calls, one after another;
* `Sound`: the invariant of the two counters;
* `DeliversExactly`: the pieces make up the text from its beginning, and nothing is
  returned only at its end;
* `deliversExactly`: whatever room is offered, as the callback computes it;
* `delivered_of_length_le`: enough calls with room deliver the whole text.

The room is the product of two numbers and wraps around like them.
-/

namespace Slas.Mailer

/-! ### The source -/

/-- `Mailer::UserData`. -/
structure UserData where
  messageText : Str
  left : ℕ
  sent : ℕ

/-- What `Mailer::Send` makes of the text. -/
def UserData.ofText (messageText : Str) : UserData where
  messageText := messageText
  left := messageText.length
  sent := 0

/-- The numbers in a call, each a `size_t`. -/
structure Call where
  size : UInt64
  nmemb : UInt64

/-- What a call has written to its buffer, and what it has returned. -/
structure Answer where
  written : Str
  returned : ℕ

/-- `Mailer::payload_source`. The counters never exceed the length of the text, so only
the product can overflow. -/
def payloadSource (call : Call) (data : UserData) : Answer × UserData :=
  if call.size * call.nmemb < 1 then (⟨[], 0⟩, data)
  else if 0 < data.left then
    let toSend := min call.nmemb.toNat data.left
    (⟨(data.messageText.drop data.sent).take toSend, toSend⟩,
      { data with sent := data.sent + toSend, left := data.left - toSend })
  else (⟨[], 0⟩, data)

/-- Calls one after another. -/
def deliver : List Call → UserData → List Answer × UserData
  | [], data => ([], data)
  | call :: calls, data =>
      let (answer, data) := payloadSource call data
      let (answers, data) := deliver calls data
      (answer :: answers, data)

/-! ### What is delivered -/

/-- How many bytes the buffer of a call has. -/
def Call.room (call : Call) : ℕ := call.size.toNat * call.nmemb.toNat

/-- There is room, as the callback computes it. -/
def Call.HasRoom (call : Call) : Prop := 1 ≤ call.size * call.nmemb

/-- All bytes that have been written. -/
def written (answers : List Answer) : Str := (answers.map Answer.written).flatten

/-- After these calls the text has been delivered up to some point, and a call with room
returns nothing only at the end of the text. -/
structure DeliversExactly (hasRoom : Call → Prop) (text : Str) (calls : List Call) : Prop where
  answers : List.Forall₂ (fun call (answer : Answer) =>
    answer.written.length ≤ call.room ∧ answer.returned = answer.written.length) calls
      (deliver calls (.ofText text)).1
  chunks : written (deliver calls (.ofText text)).1 <+: text
  counters : (deliver calls (.ofText text)).2.sent + (deliver calls (.ofText text)).2.left
    = text.length
  complete : ∀ call, hasRoom call →
    (payloadSource call (deliver calls (.ofText text)).2).1.returned = 0 →
      written (deliver calls (.ofText text)).1 = text

/-- The counters are in step. -/
structure Sound (text : Str) (data : UserData) : Prop where
  messageText : data.messageText = text
  counters : data.sent + data.left = text.length

lemma sound_ofText (text : Str) : Sound text (.ofText text) := ⟨rfl, Nat.zero_add _⟩

/-- In a product that is not zero neither factor is. -/
lemma Call.HasRoom.pos {call : Call} (h : call.HasRoom) :
    0 < call.size.toNat ∧ 0 < call.nmemb.toNat := by
  rw [HasRoom, UInt64.le_iff_toNat_le, UInt64.toNat_mul] at h
  refine ⟨Nat.pos_of_ne_zero fun hsize => ?_, Nat.pos_of_ne_zero fun hnmemb => ?_⟩
  · rw [hsize, Nat.zero_mul] at h
    exact absurd h (by decide)
  · rw [hnmemb, Nat.mul_zero] at h
    exact absurd h (by decide)

/-- A buffer that exists has room as soon as it has a byte. -/
lemma Call.hasRoom_iff_of_lt {call : Call} (h : call.room < 2 ^ 64) :
    call.HasRoom ↔ 1 ≤ call.room := by
  rw [HasRoom, UInt64.le_iff_toNat_le, UInt64.toNat_mul, ← room, Nat.mod_eq_of_lt h]
  rfl

/-! ### The calls -/

section Calls

variable {text : Str} {data : UserData}

/-- **A call** sends what there is room for, and nothing only if nothing is left. -/
lemma payloadSource_cases (h : Sound text data) (call : Call) :
    ∃ n, n ≤ data.left ∧ n ≤ call.room ∧ (call.HasRoom → n = 0 → data.left = 0) ∧
      payloadSource call data
        = (⟨Select.page n data.sent text, n⟩, ⟨text, data.left - n, data.sent + n⟩) := by
  obtain ⟨messageText, left, sent⟩ := data
  obtain rfl : messageText = text := h.messageText
  simp only [payloadSource, Select.page]
  split_ifs with hroom hleft
  · refine ⟨0, Nat.zero_le _, Nat.zero_le _, fun hhas => ?_, by simp⟩
    exact absurd hroom (UInt64.not_lt.mpr hhas)
  · have hpos := Call.HasRoom.pos (UInt64.not_lt.mp hroom : call.HasRoom)
    refine ⟨min call.nmemb.toNat left, min_le_right _ _, ?_, fun _ hzero => ?_, rfl⟩
    · exact (min_le_left _ _).trans (Nat.le_mul_of_pos_left _ hpos.1)
    · omega
  · exact ⟨0, Nat.zero_le _, Nat.zero_le _, fun _ _ => by omega, by simp⟩

lemma length_page {n : ℕ} (h : Sound text data) (hn : n ≤ data.left) :
    (Select.page n data.sent text).length = n := by
  have hcounters := h.counters
  rw [Select.page, List.length_take, List.length_drop]
  omega

/-- The counters stay in step. -/
lemma Sound.sent {n : ℕ} (h : Sound text data) (hn : n ≤ data.left) :
    Sound text ⟨text, data.left - n, data.sent + n⟩ := by
  have hcounters := h.counters
  refine ⟨rfl, ?_⟩
  show data.sent + n + (data.left - n) = text.length
  omega

/-- **Any calls** send pieces of the text that follow one another. -/
lemma deliver_tiling (h : Sound text data) (calls : List Call) :
    Sound text (deliver calls data).2 ∧ ∃ pieces,
      Tiling data.sent pieces (deliver calls data).2.sent ∧
      (deliver calls data).1.map Answer.written
        = pieces.map fun piece => Select.page piece.1 piece.2 text := by
  induction calls generalizing data with
  | nil => exact ⟨h, [], .nil data.sent, rfl⟩
  | cons call calls ih =>
      obtain ⟨n, hn, -, -, hcall⟩ := payloadSource_cases h call
      obtain ⟨hsound, pieces, htiling, hwritten⟩ := ih (h.sent hn)
      rw [deliver, hcall]
      exact ⟨hsound, (n, data.sent) :: pieces, .cons htiling, congrArg _ hwritten⟩

/-- What has been written is the text between the two points. -/
lemma written_deliver (h : Sound text data) (calls : List Call) :
    written (deliver calls data).1
      = Select.page ((deliver calls data).2.sent - data.sent) data.sent text := by
  obtain ⟨-, pieces, htiling, hwritten⟩ := deliver_tiling h calls
  rw [written, hwritten, ← List.flatMap_def]
  exact htiling.flatMap_page text

lemma forall₂_deliver (h : Sound text data) (calls : List Call) :
    List.Forall₂ (fun call (answer : Answer) =>
      answer.written.length ≤ call.room ∧ answer.returned = answer.written.length) calls
        (deliver calls data).1 := by
  induction calls generalizing data with
  | nil => exact .nil
  | cons call calls ih =>
      obtain ⟨n, hn, hfits, -, hcall⟩ := payloadSource_cases h call
      have hlength := length_page h hn
      rw [deliver, hcall]
      refine .cons ⟨?_, hlength.symm⟩ (ih (h.sent hn))
      rwa [hlength]

/-- Every call with room brings the end of the text nearer. -/
lemma left_deliver_le (h : Sound text data) {calls : List Call}
    (hroom : ∀ call ∈ calls, call.HasRoom) :
    (deliver calls data).2.left ≤ data.left - calls.length := by
  induction calls generalizing data with
  | nil => exact le_rfl
  | cons call calls ih =>
      obtain ⟨n, hn, -, hleft, hcall⟩ := payloadSource_cases h call
      rw [List.forall_mem_cons] at hroom
      have hstep := hleft hroom.1
      have hrest := ih (h.sent hn) hroom.2
      rw [deliver, hcall, List.length_cons]
      show (deliver calls _).2.left ≤ _
      simp only at hrest
      omega

end Calls

/-! ### From the beginning -/

section Whole

variable (text : Str) (calls : List Call)

/-- From the beginning of the text to the point that has been reached. -/
lemma written_ofText : written (deliver calls (.ofText text)).1
    = text.take (deliver calls (.ofText text)).2.sent := by
  rw [written_deliver (sound_ofText text)]
  rfl

lemma written_eq_of_left_eq_zero (h : (deliver calls (.ofText text)).2.left = 0) :
    written (deliver calls (.ofText text)).1 = text := by
  have hcounters := (deliver_tiling (sound_ofText text) calls).1.counters
  rw [h, Nat.add_zero] at hcounters
  calc written (deliver calls (.ofText text)).1
      = text.take (deliver calls (.ofText text)).2.sent := written_ofText text calls
    _ = text.take text.length := by rw [hcounters]
    _ = text := List.take_length

/-- **The mail is delivered exactly**, whatever the calls. -/
theorem deliversExactly : DeliversExactly Call.HasRoom text calls := by
  have hsound := (deliver_tiling (sound_ofText text) calls).1
  refine ⟨forall₂_deliver (sound_ofText text) calls, ?_, hsound.counters,
    fun call hroom hzero => ?_⟩
  · rw [written_ofText]
    exact List.take_prefix _ _
  · obtain ⟨n, -, -, hleft, hcall⟩ := payloadSource_cases hsound call
    rw [hcall] at hzero
    exact written_eq_of_left_eq_zero text calls (hleft hroom hzero)

/-- Buffers that have a byte are enough: as many calls as the text has bytes deliver all
of it. -/
theorem delivered_of_length_le (hroom : ∀ call ∈ calls, 1 ≤ call.room ∧ call.room < 2 ^ 64)
    (hlength : text.length ≤ calls.length) : written (deliver calls (.ofText text)).1 = text := by
  have hhas : ∀ call ∈ calls, call.HasRoom := fun call hcall =>
    (Call.hasRoom_iff_of_lt (hroom call hcall).2).mpr (hroom call hcall).1
  refine written_eq_of_left_eq_zero text calls (Nat.eq_zero_of_le_zero ?_)
  calc (deliver calls (.ofText text)).2.left
      ≤ text.length - calls.length := left_deliver_le (sound_ofText text) hhas
    _ = 0 := Nat.sub_eq_zero_of_le hlength

end Whole

/-- A call whose product is `2 ^ 64`: nothing is returned although a byte is left. -/
theorem not_deliversExactly_wrapped :
    ¬∀ text calls, DeliversExactly (fun call => 1 ≤ call.room) text calls := by
  intro h
  have hcomplete := (h [97] []).complete ⟨4294967296, 4294967296⟩ (by decide) (by decide)
  cases hcomplete

end Slas.Mailer
