import DoorAcs.Basic
import DoorAcs.Channel.Fifo
import DoorAcs.Codec.Hex
import Mathlib.Data.Stream.Init

/-!
# The traffic on a serial line

A reader device answers each request with one text and a carriage return, in order and after an
arbitrary delay, so the line is a FIFO channel whose messages are the replies. A read takes
characters that have arrived, at most as many as it is asked for and possibly none.

`Traffic.next` is what an exchange makes of the traffic. It does not depend on what is sent or on
what becomes of the text, so `Traffic.after` is known before a run. `Receipt` is the record of a
read. A text that decodes to two bytes or more answers its request alone iff the read took more than
was outstanding when the request was written (`Receipt.current_iff_catchesUp`).
-/

namespace DoorAcs

open Channel

/-! ## Deliveries -/

/-- What a read meets: how many characters arrive until it returns, and how many it takes at most,
or its exception. -/
structure Delivery where
  arriving : ℕ
  taken : Except Exception ℕ

/-- The replies to the requests to come, without their carriage returns; the deliveries to come; and
the channel of the replies. What is outstanding ends with the end of a reply. -/
structure Traffic where
  replies : Stream' Str
  deliveries : Stream' Delivery
  queue : Fifo Char
  terminated : ∀ c ∈ queue.outstanding.getLast?, c.2 = packetCarriegeReturn

namespace Traffic

/-- The line before the first request. -/
def fresh (replies : Stream' Str) (deliveries : Stream' Delivery) : Traffic where
  replies := replies
  deliveries := deliveries
  queue := .empty
  terminated := by simp [Fifo.outstanding, Fifo.empty]

/-- Behind a request, which the device will answer. -/
def request (t : Traffic) : Traffic where
  replies := t.replies.tail
  deliveries := t.deliveries
  queue := t.queue.send (t.replies.head ++ [packetCarriegeReturn])
  terminated := by
    intro c hc
    rw [Fifo.outstanding_send, List.map_append, ← List.append_assoc, List.map_singleton,
      List.getLast?_concat] at hc
    obtain rfl := Option.some_inj.mp hc
    rfl

/-- When the next read returns, before it takes anything. -/
def delivered (t : Traffic) : Traffic where
  replies := t.replies
  deliveries := t.deliveries.tail
  queue := t.queue.deliver t.deliveries.head.arriving
  terminated := by
    rw [Fifo.outstanding_deliver]
    exact t.terminated

/-- Without the first `k` characters that have arrived. -/
def readOff (t : Traffic) (k : ℕ) : Traffic where
  replies := t.replies
  deliveries := t.deliveries
  queue := t.queue.receive k
  terminated := by
    intro c hc
    apply t.terminated c
    rw [← t.queue.received_append_outstanding k, List.getLast?_append, Option.mem_def.mp hc]
    rfl

/-! ## Exchanges -/

/-- How many characters the next read of an exchange takes at most. One that throws takes none. -/
def allowance (t : Traffic) : ℕ :=
  match t.deliveries.head.taken with
  | .ok k => min k maxResponseNumberOfBytes
  | .error _ => 0

theorem allowance_of_ok {t : Traffic} {k : ℕ} (h : t.deliveries.head.taken = .ok k) :
    t.allowance = min k maxResponseNumberOfBytes := by
  rw [allowance, h]

theorem allowance_of_error {t : Traffic} {e : Exception} (h : t.deliveries.head.taken = .error e) :
    t.allowance = 0 := by
  rw [allowance, h]

/-- The characters that the read of the next exchange takes. -/
def taken (t : Traffic) : List (ℕ × Char) := t.request.delivered.queue.received t.allowance

/-- The text that it returns. -/
def text (t : Traffic) : Str := t.taken.map Prod.snd

/-- Behind the next exchange. -/
def next (t : Traffic) : Traffic := t.request.delivered.readOff t.allowance

/-- Behind `i` exchanges. -/
def after (t : Traffic) (i : ℕ) : Traffic := next^[i] t

/-- The next exchange catches up: its read takes fewer characters than any reply has, or more than
were outstanding before. -/
def CatchesUp (t : Traffic) : Prop :=
  t.taken.length < 4 ∨ t.queue.outstanding.length < t.taken.length

instance (t : Traffic) : Decidable t.CatchesUp := inferInstanceAs (Decidable (_ ∨ _))

variable {t : Traffic}

/-- An exchange on an idle line catches up. -/
theorem catchesUp_of_idle (hidle : t.queue.outstanding = []) : t.CatchesUp := by
  rw [CatchesUp, hidle, List.length_nil]
  omega

/-- On an idle line the reply to a request has arrived if as many characters arrive as it has. -/
theorem inFlight_delivered_of_idle (hidle : t.queue.outstanding = [])
    (harrives : t.replies.head.length + 1 ≤ t.deliveries.head.arriving) :
    t.request.delivered.queue.inFlight = [] := by
  change (t.queue.inFlight ++ (t.replies.head ++ [packetCarriegeReturn]).map _).drop _ = []
  rw [(List.append_eq_nil_iff.mp hidle).2, List.nil_append]
  apply List.drop_eq_nil_of_le
  rwa [List.length_map, List.length_append]

theorem after_succ (t : Traffic) (i : ℕ) : t.after (i + 1) = (t.after i).next :=
  Function.iterate_succ_apply' ..

/-- A read takes no more than it asks for. -/
theorem length_taken_le (t : Traffic) : t.taken.length ≤ maxResponseNumberOfBytes := by
  have hallowance : t.allowance ≤ maxResponseNumberOfBytes := by
    rw [allowance]
    split
    · exact Nat.min_le_right ..
    · exact Nat.zero_le _
  exact (List.length_take_le ..).trans hallowance

/-- A read takes what comes first. -/
theorem taken_append_outstanding (t : Traffic) :
    t.taken ++ t.next.queue.outstanding = t.request.queue.outstanding := by
  rw [taken, next, readOff, Fifo.received_append_outstanding, delivered, Fifo.outstanding_deliver]

theorem taken_prefix (t : Traffic) : t.taken <+: t.request.queue.outstanding :=
  ⟨_, t.taken_append_outstanding⟩

/-- A read that takes what was outstanding and more has the end of a reply in its text, with
something behind it. So the text does not decode. -/
theorem decode_text_eq_none (hbusy : t.queue.outstanding ≠ [])
    (hmore : t.queue.outstanding.length < t.taken.length) : Hex.decode t.text = none := by
  have hold : t.queue.outstanding <+: t.request.queue.outstanding :=
    ⟨_, (Fifo.outstanding_send ..).symm⟩
  obtain ⟨more, htaken⟩ := List.prefix_of_prefix_length_le hold t.taken_prefix hmore.le
  have hne : more ≠ [] := by
    rintro rfl
    rw [← htaken, List.append_nil] at hmore
    exact Nat.lt_irrefl _ hmore
  -- the last character outstanding ends a reply
  obtain ⟨⟨i, c⟩, hlast⟩ := Option.ne_none_iff_exists'.mp (mt List.getLast?_eq_none_iff.mp hbusy)
  obtain rfl : c = packetCarriegeReturn := t.terminated _ hlast
  obtain ⟨earlier, hearlier⟩ := List.getLast?_eq_some_iff.mp hlast
  rw [text, ← htaken, hearlier, List.append_assoc, List.map_append, List.singleton_append,
    List.map_cons]
  have hreturn : packetCarriegeReturn ∉ Hex.digitsOfEitherCase := by decide
  exact Hex.decode_append_cons_eq_none hreturn (mt List.map_eq_nil_iff.mp hne)

/-- If all has arrived, the read takes as much of it as it may. -/
theorem taken_eq_take (harrived : t.request.delivered.queue.inFlight = []) :
    t.taken = t.request.queue.outstanding.take t.allowance := by
  have houtstanding : t.request.delivered.queue.outstanding = t.request.queue.outstanding :=
    Fifo.outstanding_deliver ..
  rw [← houtstanding, Fifo.outstanding, harrived, List.append_nil, taken, Fifo.received]

/-- On an idle line, that is the reply to the request. -/
theorem text_of_idle (hidle : t.queue.outstanding = [])
    (harrived : t.request.delivered.queue.inFlight = []) :
    t.text = (t.replies.head ++ [packetCarriegeReturn]).take t.allowance := by
  rw [text, taken_eq_take harrived, request, Fifo.outstanding_send, hidle, List.nil_append,
    ← List.map_take, List.map_map]
  exact List.map_id _

/-- Nothing is outstanding behind the next exchange iff its read takes everything. -/
theorem outstanding_next_eq_nil_iff :
    t.next.queue.outstanding = [] ↔ t.taken = t.request.queue.outstanding := by
  rw [← t.taken_append_outstanding, List.self_eq_append_right]

end Traffic

/-! ## Records of reads -/

/-- The record of a read: the frame written last and the number of that request, and the characters
that the read took. A character is numbered with the request that it is part of the reply to. -/
structure Receipt where
  frame : Str
  request : ℕ
  taken : List (ℕ × Char)
  deriving DecidableEq

namespace Receipt

/-- The text that the read returned. -/
def text (receipt : Receipt) : Str := receipt.taken.map Prod.snd

/-- All of the text answers the request written last. -/
def Current (receipt : Receipt) : Prop := ∀ c ∈ receipt.taken, c.1 = receipt.request

/-- It is the record of the exchange that finds the traffic `t`. -/
structure IsOf (receipt : Receipt) (t : Traffic) : Prop where
  request_eq : receipt.request = t.queue.sent + 1
  taken_eq : receipt.taken = t.taken

variable {receipt : Receipt} {t : Traffic}

/-- A text that is something answers its request alone iff nothing was outstanding. -/
theorem IsOf.current_iff (h : receipt.IsOf t) (hne : receipt.taken ≠ []) :
    receipt.Current ↔ t.queue.outstanding = [] := by
  rw [h.taken_eq] at hne
  rw [Current, h.request_eq, h.taken_eq]
  exact Fifo.taken_of_last_iff t.taken_prefix hne

/-- A text that is long enough for a reply and decodes answers its request alone iff the exchange
catches up. -/
theorem IsOf.current_iff_catchesUp (h : receipt.IsOf t) {bytes : List BYTE}
    (hdecode : Hex.decode receipt.text = some bytes) (hlength : 4 ≤ receipt.text.length) :
    receipt.Current ↔ t.CatchesUp := by
  have htext : receipt.text = t.text := congrArg (List.map Prod.snd) h.taken_eq
  rw [htext] at hdecode
  rw [htext, Traffic.text, List.length_map] at hlength
  have hne : receipt.taken ≠ [] := by
    rw [h.taken_eq]
    exact List.ne_nil_of_length_pos (by omega)
  rw [h.current_iff hne]
  constructor
  · exact Traffic.catchesUp_of_idle
  · rintro (hshort | hmore)
    · omega
    · by_contra hbusy
      -- a text with the end of a reply inside does not decode
      rw [Traffic.decode_text_eq_none hbusy hmore] at hdecode
      cases hdecode

end Receipt

end DoorAcs
