import DoorAcs.SerialPort.Line

/-!
# Replies that fit one read

`MAX_RESPONSE_NUMBER_OF_BYTES` is the number of bytes that a request allows the card to answer with
and the number of characters that a read asks for. A reply of `n` bytes has `2 * n + 1` characters,
so the card may answer with more than one read takes. `getID_returns_whole_iff` says when the answer
to GET RESPONSE comes back whole: the line was idle before it, and its reply fits a read.
-/

namespace DoorAcs

open Cpp Channel

namespace Line

/-- The next request is answered with `body` and a carriage return: the write succeeds, and when the
read returns everything has arrived and the read takes as many characters as it asked for. -/
structure Meets (line : Line) (body : Str) : Prop where
  writes : ∃ n, line.writes.head = .ok n
  reply : line.replies.head = body
  arrived : line.request.delivered.queue.inFlight = []
  takes : ∃ k, line.deliveries.head.taken = .ok k ∧ maxResponseNumberOfBytes ≤ k

/-- The line behind an exchange whose read is put on record. -/
def answered (line : Line) (frame : Str) : Line :=
  line.exchanged frame (line.receipts ++ [line.record frame])

namespace Meets

variable {line line' : Line} {body frame : Str} {bytes : List BYTE}

/-- The read takes as many characters as it asked for, if so many have arrived. -/
theorem allowance_eq (h : line.Meets body) : line.allowance = maxResponseNumberOfBytes := by
  obtain ⟨k, htaken, hk⟩ := h.takes
  rw [Traffic.allowance_of_ok htaken, Nat.min_eq_right hk]

/-- The exchange returns the bytes that its text decodes to. -/
theorem run_ask_eq_ok_iff (h : line.Meets body) :
    (port.ask frame).run line = .ok bytes line' ↔
      Hex.decode line.text = some bytes ∧ line.answered frame = line' := by
  obtain ⟨k, htaken, -⟩ := h.takes
  rw [Line.run_ask_eq_ok_iff, and_iff_right h.writes, and_iff_right ⟨k, htaken⟩, answered]

/-- On an idle line, a reply that fits the read is taken whole. -/
theorem text_eq (h : line.Meets body) (hidle : line.queue.outstanding = [])
    (hfits : (body ++ [packetCarriegeReturn]).length ≤ maxResponseNumberOfBytes) :
    line.text = body ++ [packetCarriegeReturn] := by
  rw [Traffic.text_of_idle hidle h.arrived, h.reply, h.allowance_eq, List.take_of_length_le hfits]

/-- Then nothing is left of it. -/
theorem outstanding_answered (h : line.Meets body) (hidle : line.queue.outstanding = [])
    (hfits : (body ++ [packetCarriegeReturn]).length ≤ maxResponseNumberOfBytes) (frame : Str) :
    (line.answered frame).queue.outstanding = [] := by
  refine Traffic.outstanding_next_eq_nil_iff.mpr ?_
  rw [Traffic.taken_eq_take h.arrived, h.allowance_eq]
  apply List.take_of_length_le
  rwa [Traffic.request, Fifo.outstanding_send, hidle, List.nil_append, List.length_map, h.reply]

end Meets

/-- If an exchange leaves nothing outstanding and its text decodes, the line was idle before it and
the reply fits the read. -/
theorem idle_of_outstanding_answered {line : Line} {frame : Str} {bytes : List BYTE}
    (hdecode : Hex.decode line.text = some bytes)
    (hempty : (line.answered frame).queue.outstanding = []) :
    line.queue.outstanding = [] ∧
      (line.replies.head ++ [packetCarriegeReturn]).length ≤ maxResponseNumberOfBytes := by
  have htaken : line.taken = line.request.queue.outstanding :=
    Traffic.outstanding_next_eq_nil_iff.mp hempty
  rw [Traffic.request, Fifo.outstanding_send] at htaken
  have hidle : line.queue.outstanding = [] := by
    by_contra hbusy
    -- else the end of an earlier reply is inside the text
    rw [Traffic.decode_text_eq_none hbusy (by rw [htaken]; simp)] at hdecode
    cases hdecode
  refine ⟨hidle, ?_⟩
  have hlength := congrArg List.length htaken
  rw [hidle, List.nil_append, List.length_map] at hlength
  rw [← hlength]
  exact line.length_taken_le

end Line

/-! ## The answer to GET RESPONSE -/

/-- The reply to GET RESPONSE if the card answers with the data `d` and the status word 9000. -/
def getResponseReply (d : List BYTE) : Str :=
  Hex.encode ([0x00, 0x01, UInt8.ofNat (d.length + 2)] ++ d ++ [0x90, 0x00])

/-- Two characters a byte: the error, the result, the size and the status word besides the data, and
the carriage return. -/
theorem length_getResponseReply (d : List BYTE) :
    (getResponseReply d ++ [packetCarriegeReturn]).length = 2 * d.length + 11 := by
  rw [List.length_append, getResponseReply, Hex.length_encode]
  simp only [List.length_append, List.length_cons, List.length_nil]
  omega

/-- A reply that is read whole tells of the card's answer. -/
theorem exists_decode_getResponseReply {d : List BYTE} (hd : d.length + 2 ≤ 255) :
    ∃ bytes, Hex.decode (getResponseReply d ++ [packetCarriegeReturn]) = some bytes ∧
      ApduReply.ofBytes? bytes = some (some ⟨d, 0x90, 0x00⟩) := by
  refine ⟨_, Hex.decode_encode_of_length_le_one _ (by simp), ?_⟩
  -- the size fits its byte
  have hsize : (UInt8.ofNat (d.length + 2)).toNat = (d ++ [(0x90 : BYTE), 0x00]).length := by
    rw [UInt8.toNat_ofNat', List.length_append, List.length_cons, List.length_singleton]
    omega
  rw [ApduReply.ofBytes?_eq_answer_iff]
  refine ⟨0x01, UInt8.ofNat (d.length + 2), d ++ [0x90, 0x00], by simp, by decide, hsize.le, ?_⟩
  rw [hsize, List.take_length]

namespace Reader

/-- In a poll begun in `r`, the reply to the search reports a tag and the card answers SELECT FILE
with the status word 9000. The line is then in the state `line`. -/
def ReachesGetResponse (r : Reader Line) (line : Line) : Prop :=
  ∃ t bits n uid enough line₁ select,
    Line.port.askSearch.run r.serialPort = .ok (.tag t bits n uid enough) line₁ ∧
    (Line.port.askCard selectFileFrame).run line₁ = .ok (some select) line ∧ select.IsOk

variable {r r' : Reader Line} {line : Line} {d : List BYTE} {id : Str}

/-- A `GetID` that returns from there ends where the exchange of GET RESPONSE does, whose text
decodes. -/
theorem ReachesGetResponse.exists_decode (h : ReachesGetResponse r line)
    (hrun : (getID Line.port).run r = .ok id r') :
    ∃ bytes, Hex.decode line.text = some bytes ∧
      r'.serialPort = line.answered getResponseFrame := by
  obtain ⟨t, bits, n, uid, enough, line₁, select, hsearch, hselect, hok⟩ := h
  -- follow the conversation through search and SELECT FILE
  obtain ⟨conversation, hconverse, -⟩ := refines_getID.of_run_eq_ok hrun
  rw [SerialPort.converse, Spec.run_bind_of_ok hsearch] at hconverse
  obtain ⟨hce, q, hhce, hend⟩ := Spec.run_bind_eq_ok.mp hconverse
  cases hend
  rw [SerialPort.askHce, Spec.run_bind_of_ok hselect] at hhce
  dsimp only at hhce
  rw [if_pos hok] at hhce
  -- the exchange of GET RESPONSE is the last one
  obtain ⟨answer, q, hresponse, hend⟩ := Spec.run_bind_eq_ok.mp hhce
  obtain ⟨bytes, hask, -⟩ := SerialPort.run_askCard_eq_ok_iff.mp hresponse
  obtain ⟨-, -, hdecode, hline⟩ := Line.run_ask_eq_ok_iff.mp hask
  refine ⟨bytes, hdecode, ?_⟩
  cases answer <;> cases hend <;> exact hline.symm

/-- If the card then answers GET RESPONSE, `GetID` returns its data. -/
theorem ReachesGetResponse.exists_run {line' : Line} {reply : ApduReply}
    (h : ReachesGetResponse r line)
    (hresponse : (Line.port.askCard getResponseFrame).run line = .ok (some reply) line') :
    ∃ r', (getID Line.port).run r = .ok (Hex.encode reply.data) r' ∧ r'.serialPort = line' := by
  obtain ⟨t, bits, n, uid, enough, line₁, select, hsearch, hselect, hok⟩ := h
  have hconverse : Line.port.converse.run r.serialPort =
      .ok (.tag uid (.answered reply)) line' :=
    SerialPort.run_converse_eq_tag_iff.mpr ⟨t, bits, n, enough, line₁, hsearch,
      SerialPort.run_askHce_eq_answered_iff.mpr ⟨select, line, hselect, hok, hresponse⟩⟩
  obtain ⟨id, r', hrun, hport, rfl⟩ := refines_getID.exists_run hconverse
  exact ⟨r', hrun, hport⟩

/-- `GetID` returns the data `d` whole and leaves nothing unread. -/
def ReturnsWhole (r : Reader Line) (d : List BYTE) : Prop :=
  ∃ r', (getID Line.port).run r = .ok (Hex.encode d) r' ∧
    r'.serialPort.queue.outstanding = []

/-- Then the line was idle and the reply fits a read. -/
theorem idle_of_returnsWhole (h : ReachesGetResponse r line)
    (hmeets : line.Meets (getResponseReply d)) (hwhole : ReturnsWhole r d) :
    line.queue.outstanding = [] ∧ d.length ≤ 122 := by
  obtain ⟨r', hrun, hempty⟩ := hwhole
  obtain ⟨bytes, hdecode, hline⟩ := h.exists_decode hrun
  rw [hline] at hempty
  obtain ⟨hidle, hfits⟩ := Line.idle_of_outstanding_answered hdecode hempty
  rw [hmeets.reply, length_getResponseReply, maxResponseNumberOfBytes] at hfits
  exact ⟨hidle, by omega⟩

/-- On an idle line, a reply that fits a read is returned whole. -/
theorem returnsWhole_of_idle (h : ReachesGetResponse r line)
    (hmeets : line.Meets (getResponseReply d)) (hidle : line.queue.outstanding = [])
    (hshort : d.length ≤ 122) : ReturnsWhole r d := by
  -- the read takes the reply whole, and it decodes to the answer with the data `d`
  have hfits : (getResponseReply d ++ [packetCarriegeReturn]).length ≤
      maxResponseNumberOfBytes := by
    rw [length_getResponseReply, maxResponseNumberOfBytes]
    omega
  obtain ⟨bytes, hdecode, hbytes⟩ := exists_decode_getResponseReply (d := d) (by omega)
  have hask : (Line.port.ask getResponseFrame).run line =
      .ok bytes (line.answered getResponseFrame) := by
    rw [hmeets.run_ask_eq_ok_iff, hmeets.text_eq hidle hfits]
    exact ⟨hdecode, rfl⟩
  obtain ⟨r', hrun, hport⟩ :=
    h.exists_run (SerialPort.run_askCard_eq_ok_iff.mpr ⟨bytes, hask, hbytes⟩)
  refine ⟨r', hrun, ?_⟩
  rw [hport]
  exact hmeets.outstanding_answered hidle hfits _

/-- `GetID` returns the answer of the card whole and leaves nothing of it unread exactly if nothing
was outstanding on the line when GET RESPONSE was written and the answer has up to 122 bytes: then
its reply has no more characters than a read takes. The request allows 253 bytes. -/
theorem getID_returns_whole_iff (hreaches : ReachesGetResponse r line)
    (hmeets : line.Meets (getResponseReply d)) :
    ReturnsWhole r d ↔ line.queue.outstanding = [] ∧ d.length ≤ 122 :=
  ⟨idle_of_returnsWhole hreaches hmeets, fun ⟨hidle, hshort⟩ =>
    returnsWhole_of_idle hreaches hmeets hidle hshort⟩

/-! ## A line without delays -/

/-- Each reply has arrived when the read returns. A tag is found, the card takes SELECT FILE and
answers GET RESPONSE with `d`. -/
def promptLine (d : List BYTE) : Line :=
  .fresh
    (Stream'.cons "000180200401020304".toList
      (Stream'.cons "0001029000".toList (Stream'.const (getResponseReply d))))
    (Stream'.const ⟨2 * d.length + 19, .ok maxResponseNumberOfBytes⟩)
    (.simpleTimeout 700) (Stream'.const (.ok ()))
    (Stream'.const (.ok 7)) (Stream'.const (.ok ()))

/-- The search is answered at once. -/
theorem meets_search (d : List BYTE) : (promptLine d).Meets "000180200401020304".toList where
  writes := ⟨7, rfl⟩
  reply := rfl
  arrived := Traffic.inFlight_delivered_of_idle rfl (Nat.le_add_left 19 _)
  takes := ⟨_, rfl, Nat.le_refl _⟩

/-- The reply to the search was taken whole. -/
theorem idle_selectFile (d : List BYTE) :
    ((promptLine d).answered searchFrame).queue.outstanding = [] :=
  (meets_search d).outstanding_answered rfl (by decide) searchFrame

/-- SELECT FILE is answered at once. -/
theorem meets_selectFile (d : List BYTE) :
    ((promptLine d).answered searchFrame).Meets "0001029000".toList where
  writes := ⟨7, rfl⟩
  reply := rfl
  arrived := Traffic.inFlight_delivered_of_idle (idle_selectFile d)
    (Nat.le_trans (show "0001029000".toList.length + 1 ≤ 19 by decide) (Nat.le_add_left 19 _))
  takes := ⟨_, rfl, Nat.le_refl _⟩

/-- The reply to SELECT FILE was taken whole. -/
theorem idle_getResponse (d : List BYTE) :
    (((promptLine d).answered searchFrame).answered selectFileFrame).queue.outstanding = [] :=
  (meets_selectFile d).outstanding_answered (idle_selectFile d) (by decide) selectFileFrame

/-- GET RESPONSE is answered at once, with a reply of any length. -/
theorem meets_getResponse (d : List BYTE) :
    (((promptLine d).answered searchFrame).answered selectFileFrame).Meets
      (getResponseReply d) where
  writes := ⟨7, rfl⟩
  reply := rfl
  arrived := by
    refine Traffic.inFlight_delivered_of_idle (idle_getResponse d) ?_
    have hlength := length_getResponseReply d
    rw [List.length_append, List.length_singleton] at hlength
    change (getResponseReply d).length + 1 ≤ 2 * d.length + 19
    omega
  takes := ⟨_, rfl, Nat.le_refl _⟩

/-- The line without delays comes to GET RESPONSE. -/
theorem reachesGetResponse_promptLine (d : List BYTE) :
    ReachesGetResponse (.start (promptLine d))
      (((promptLine d).answered searchFrame).answered selectFileFrame) := by
  have hsearch : Hex.decode (promptLine d).text =
      some [0x00, 0x01, 0x80, 0x20, 0x04, 0x01, 0x02, 0x03, 0x04] := by
    rw [(meets_search d).text_eq rfl (by decide)]
    rfl
  have hselect : Hex.decode ((promptLine d).answered searchFrame).text =
      some [0x00, 0x01, 0x02, 0x90, 0x00] := by
    rw [(meets_selectFile d).text_eq (idle_selectFile d) (by decide)]
    rfl
  exact ⟨0x80, 0x20, 0x04, [0x01, 0x02, 0x03, 0x04], by decide,
    (promptLine d).answered searchFrame, ⟨[], 0x90, 0x00⟩,
    SerialPort.run_askSearch_eq_ok_iff.mpr
      ⟨_, (meets_search d).run_ask_eq_ok_iff.mpr ⟨hsearch, rfl⟩, rfl⟩,
    SerialPort.run_askCard_eq_ok_iff.mpr
      ⟨_, (meets_selectFile d).run_ask_eq_ok_iff.mpr ⟨hselect, rfl⟩, rfl⟩, ⟨rfl, rfl⟩⟩

/-- An answer of two bytes. -/
theorem getID_returns_whole_short :
    ReturnsWhole (.start (promptLine [0xA0, 0x01])) [0xA0, 0x01] :=
  (getID_returns_whole_iff (reachesGetResponse_promptLine _) (meets_getResponse _)).mpr
    ⟨idle_getResponse _, by decide⟩

/-- An answer of 123 bytes, as the request allows it, on an idle line. -/
theorem not_returnsWhole_long :
    ¬ ∀ (r : Reader Line) (line : Line) (d : List BYTE), d.length + 2 ≤ 255 →
      ReachesGetResponse r line → line.queue.outstanding = [] →
      line.Meets (getResponseReply d) → ReturnsWhole r d := by
  intro hall
  have hlength : (List.replicate 123 (0 : BYTE)).length = 123 := List.length_replicate
  have hreaches := reachesGetResponse_promptLine (List.replicate 123 0)
  have hmeets := meets_getResponse (List.replicate 123 0)
  have hshort := (idle_of_returnsWhole hreaches hmeets
    (hall _ _ _ (by omega) hreaches (idle_getResponse _) hmeets)).2
  omega

end Reader

end DoorAcs
