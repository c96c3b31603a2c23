import DoorAcs.AccessControlSystem.PortInvariant
import DoorAcs.SerialPort.Line

/-!
# Requests and replies stay together

Over a line to the reader device, `GetID` can take the reply to an earlier request for the reply to
its own: replies bear no number, and neither a timeout nor the `flush` behind an exception removes
what is still to come. `synchronised_of_catchesUp` says when that does not happen: the exchanges of
the run catch up with what was late.
-/

namespace DoorAcs

open Cpp

/-! ## Accepted texts -/

/-- The packet that was sent in the frame takes the text for its reply: the text decodes, and the
packet parses it without throwing. -/
inductive Accepts : Str → Str → Prop where
  | searchTag {text bytes packet} (hdecode : hexStringToBytes text = .ok bytes)
      (hparse : (SearchTagPacket.parseResponse bytes).run (.new 16) = .ok () packet) :
      Accepts searchFrame text
  | transmit {α : Type} [IsAPDUCommand α] (apduCommand : α) {text bytes packet}
      (hdecode : hexStringToBytes text = .ok bytes)
      (hparse : (ISO14443_4_TDX_Packet.parseResponse bytes).run (apduPacket apduCommand) =
        .ok () packet) :
      Accepts (apduPacket apduCommand).getData text

/-- A text that a packet takes decodes, and to two bytes at least. -/
theorem Accepts.exists_decode {frame text : Str} (h : Accepts frame text) :
    (∃ bytes, Hex.decode text = some bytes) ∧ 4 ≤ text.length := by
  have hlength {bytes : List BYTE} (hdecode : hexStringToBytes text = .ok bytes)
      (htwo : 2 ≤ bytes.length) : (∃ bytes, Hex.decode text = some bytes) ∧ 4 ≤ text.length := by
    rw [hexStringToBytes_eq_ok_iff] at hdecode
    rw [Hex.length_of_decode hdecode] at htwo
    exact ⟨⟨bytes, hdecode⟩, by omega⟩
  cases h with
  | searchTag hdecode hparse =>
    obtain ⟨reply, hreply, -⟩ := SearchTagPacket.run_parseResponse_eq_ok_iff.mp hparse
    exact hlength hdecode (SearchReply.two_le_length_of_ofBytes? hreply)
  | transmit apduCommand hdecode hparse =>
    obtain ⟨reply, hreply, -⟩ := ISO14443_4_TDX_Packet.run_parseResponse_eq_ok_iff.mp hparse
    obtain ⟨r, n, rest, rfl, -⟩ := TdxReply.ofBytes?_eq_some_iff.mp hreply
    exact hlength hdecode (Nat.le_add_left 2 _)

/-- `GetID` takes the text of the read for the reply to the frame written last. -/
def Receipt.Accepted (receipt : Receipt) : Prop := Accepts receipt.frame receipt.text

/-- An accepted text answers its request alone iff the exchange catches up. -/
theorem Receipt.Accepted.current_iff_catchesUp {receipt : Receipt} {t : Traffic}
    (h : receipt.Accepted) (hof : receipt.IsOf t) : receipt.Current ↔ t.CatchesUp := by
  obtain ⟨⟨bytes, hdecode⟩, hlength⟩ := h.exists_decode
  exact hof.current_iff_catchesUp hdecode hlength

/-! ## The reads of `GetID` -/

namespace Reader

/-- The reads put on record from `r` to `r'` were all accepted. -/
def AcceptedSince (r r' : Reader Line) : Prop :=
  ∃ reads, r'.serialPort.receipts = r.serialPort.receipts ++ reads ∧
    ∀ receipt ∈ reads, receipt.Accepted

/-- Whenever `m` returns, the reads that it put on record were accepted. -/
def RecordsAccepted {α : Type} (m : Prog Exception (Reader Line) α) : Prop :=
  ∀ {r a r'}, m.run r = .ok a r' → AcceptedSince r r'

/-- Nothing was read. -/
theorem AcceptedSince.refl (r : Reader Line) : AcceptedSince r r :=
  ⟨[], (List.append_nil _).symm, fun _ hmem => absurd hmem List.not_mem_nil⟩

/-- What is accepted in two steps is accepted in both together. -/
theorem AcceptedSince.trans {r r₁ r' : Reader Line} (h : AcceptedSince r r₁)
    (h' : AcceptedSince r₁ r') : AcceptedSince r r' := by
  obtain ⟨reads, hreads, haccepted⟩ := h
  obtain ⟨reads', hreads', haccepted'⟩ := h'
  refine ⟨reads ++ reads', by rw [hreads', hreads, List.append_assoc], fun receipt hmem => ?_⟩
  rcases List.mem_append.mp hmem with hmem | hmem
  · exact haccepted receipt hmem
  · exact haccepted' receipt hmem

section Rules

variable {α β : Type} {m : Prog Exception (Reader Line) α}

/-- A value reads nothing. -/
theorem recordsAccepted_pure (a : α) : RecordsAccepted (pure a) := by
  intro r a' r' h
  cases h
  exact .refl r

/-- A pure computation reads nothing. -/
theorem recordsAccepted_lift (x : Except (Failure Exception) α) :
    RecordsAccepted (Prog.lift x) := by
  intro r a r' h
  cases x with
  | ok a' =>
    cases h
    exact .refl r
  | error f => cases h

/-- A sequence accepts what its parts accept. -/
theorem recordsAccepted_bind {k : α → Prog Exception (Reader Line) β} (hm : RecordsAccepted m)
    (hk : ∀ a, RecordsAccepted (k a)) : RecordsAccepted (m >>= k) := by
  intro r b r' h
  obtain ⟨a, r₁, hfirst, hrest⟩ := Prog.run_bind_eq_ok.mp h
  exact (hm hfirst).trans (hk a hrest)

/-- A branch accepts what its side accepts. -/
theorem recordsAccepted_ite {c : Prop} [Decidable c] {m' : Prog Exception (Reader Line) α}
    (hm : RecordsAccepted m) (hm' : RecordsAccepted m') :
    RecordsAccepted (if c then m else m') := by
  split
  · exact hm
  · exact hm'

end Rules

variable {r r' : Reader Line}

/-- A search that returns puts an accepted read on record, behind the frame just written. -/
theorem exists_accepted_of_searchTag {packet : SearchTagPacket}
    (h : (searchTag Line.port).run r = .ok packet r') :
    ∃ receipt, r'.serialPort.receipts = r.serialPort.receipts ++ [receipt] ∧
      receipt.frame = searchFrame ∧ receipt.request = r.serialPort.queue.sent + 1 ∧
      receipt.Accepted := by
  obtain ⟨reply, hsearch, -⟩ := refines_searchTag.of_run_eq_ok h
  obtain ⟨bytes, hask, hbytes⟩ := SerialPort.run_askSearch_eq_ok_iff.mp hsearch
  -- the write made the frame and the number of the record, the read its text
  obtain ⟨-, -, hdecode, hline⟩ := Line.run_ask_eq_ok_iff.mp hask
  exact ⟨_, congrArg Line.receipts hline.symm, rfl, rfl,
    .searchTag (hexStringToBytes_of_decode hdecode)
      (SearchTagPacket.run_parseResponse_of_some _ hbytes)⟩

/-- So does an APDU command whose exchange returns. -/
theorem exists_accepted_of_transmit {α : Type} [IsAPDUCommand α] {apduCommand : α}
    {packet : ISO14443_4_TDX_Packet} (h : (transmit Line.port apduCommand).run r = .ok packet r') :
    ∃ receipt, r'.serialPort.receipts = r.serialPort.receipts ++ [receipt] ∧
      receipt.frame = (apduPacket apduCommand).getData ∧
      receipt.request = r.serialPort.queue.sent + 1 ∧ receipt.Accepted := by
  obtain ⟨reply, hcard, -⟩ := (refines_transmit apduCommand).of_run_eq_ok h
  obtain ⟨bytes, line, hask, hreply⟩ := Spec.run_bind_eq_ok.mp hcard
  obtain ⟨hbytes, rfl⟩ := Spec.run_ofOption_eq_ok.mp hreply
  obtain ⟨-, -, hdecode, hline⟩ := Line.run_ask_eq_ok_iff.mp hask
  exact ⟨_, congrArg Line.receipts hline.symm, rfl, rfl,
    .transmit apduCommand (hexStringToBytes_of_decode hdecode)
      (ISO14443_4_TDX_Packet.run_parseResponse_of_some _ hbytes)⟩

/-- An exchange with the card that returns has accepted its text. -/
theorem recordsAccepted_transmit {α : Type} [IsAPDUCommand α] (apduCommand : α) :
    RecordsAccepted (transmit Line.port apduCommand) := by
  intro r packet r' h
  obtain ⟨receipt, hreceipts, -, -, haccepted⟩ := exists_accepted_of_transmit h
  exact ⟨[receipt], hreceipts, fun _ hmem => (List.mem_singleton.mp hmem) ▸ haccepted⟩

/-- So have the exchanges with the HCE service. -/
theorem recordsAccepted_readHceId (id : Str) : RecordsAccepted (readHceId Line.port id) := by
  refine recordsAccepted_bind (recordsAccepted_transmit _) fun selectFile => ?_
  refine recordsAccepted_ite ?_ (recordsAccepted_pure _)
  refine recordsAccepted_bind (recordsAccepted_lift _) fun selectFileResponse => ?_
  refine recordsAccepted_ite ?_ (recordsAccepted_pure _)
  refine recordsAccepted_bind (recordsAccepted_transmit _) fun getResponse => ?_
  refine recordsAccepted_ite ?_ (recordsAccepted_pure _)
  exact recordsAccepted_bind (recordsAccepted_lift _) fun _ => recordsAccepted_pure _

/-- A `GetID` that returns has read the reply to its search, and the reads that it made for its
decision were accepted. -/
theorem exists_accepted_of_getID {id : Str} (h : (getID Line.port).run r = .ok id r') :
    ∃ search reads, r'.serialPort.receipts = r.serialPort.receipts ++ search :: reads ∧
      search.frame = searchFrame ∧ ∀ receipt ∈ search :: reads, receipt.Accepted := by
  rw [getID, print, Prog.run_modify_bind] at h
  obtain ⟨packet, r₁, hsearch, h⟩ := Prog.run_bind_eq_ok.mp h
  obtain ⟨search, hreceipts, hframe, -, haccepted⟩ := exists_accepted_of_searchTag hsearch
  replace hreceipts : r₁.serialPort.receipts = r.serialPort.receipts ++ [search] := hreceipts
  have hrest : AcceptedSince r₁ r' := by
    rw [Prog.run_ite] at h
    split_ifs at h
    · cases h
      exact .refl _
    · obtain ⟨found, r₂, hhce, hend⟩ := Prog.run_bind_eq_ok.mp h
      obtain ⟨reads, hreads, haccepted⟩ := recordsAccepted_readHceId _ hhce
      -- the message about the id puts nothing on record
      cases hend
      exact ⟨reads, hreads, haccepted⟩
  obtain ⟨reads, hreads, hall⟩ := hrest
  refine ⟨search, reads, ?_, hframe, List.forall_mem_cons.mpr ⟨haccepted, hall⟩⟩
  rw [hreads, hreceipts, List.append_assoc, List.singleton_append]

end Reader

/-! ## Runs of the program -/

namespace Line

variable {start : Traffic} {line : Line}

/-- Exchanges follow the schedule, and a flush changes nothing. -/
theorem keeps_onSchedule : port.Keeps (OnSchedule start) where
  ask frame := by
    intro line h
    rcases finalState_ask line frame with hwrite | ⟨receipts, hreceipts, hexchanged⟩
    · rw [hwrite]
      exact ⟨h.toTraffic_eq, h.receipts_isOf⟩
    · rw [hexchanged]
      exact h.of_exchanged hreceipts
  flush := by
    intro line h
    rw [finalState_flush]
    exact ⟨h.toTraffic_eq, h.receipts_isOf⟩

/-- Every run of the program is on schedule. -/
theorem onSchedule_main (h : line.OnSchedule start) (n : ℕ) :
    ((AccessControlSystem.main port n).finalState (.start line)).reader.serialPort.OnSchedule
      start :=
  keeps_onSchedule.of_main
    (fun hset => preserves_setTimeouts.of_run_eq_ok h (Spec.run_ofThrowing_eq_ok.mpr hset)) id
    (fun hset => preserves_setTimeouts.of_run_eq_error h
      (Spec.run_ofThrowing_eq_error.mpr ⟨_, hset⟩)) n

/-- If the exchanges made all catch up, the accepted texts all answer their requests. -/
theorem OnSchedule.current_of_accepted (h : line.OnSchedule start)
    (hcatchesUp : ∀ i < line.queue.sent, (start.after i).CatchesUp) :
    ∀ receipt ∈ line.receipts, receipt.Accepted → receipt.Current := by
  intro receipt hmem haccepted
  obtain ⟨i, hi, hof⟩ := h.receipts_isOf receipt hmem
  exact (haccepted.current_iff_catchesUp hof).mpr (hcatchesUp i hi)

end Line

namespace AccessControlSystem

/-- In every run of the program over a line whose exchanges all catch up, whichever way it ends:
the texts that `GetID` has taken for replies all answer the request it wrote last. If the poll that
comes next catches up as well and `GetID` returns there, all its texts are such replies, that of the
search first.

An exchange catches up if its read takes fewer than four characters, or more than were outstanding
when its request was written. The schedule says which ones do. -/
theorem synchronised_of_catchesUp (replies : Stream' Str) (deliveries : Stream' Delivery)
    (timeout : Timeout) (configurations : Stream' (Except Exception Unit))
    (writes : Stream' (Except Exception ℕ)) (flushes : Stream' (Except Exception Unit)) (n : ℕ) :
    let s := (main Line.port n).finalState
      (.start (.fresh replies deliveries timeout configurations writes flushes))
    (∀ i < s.reader.serialPort.queue.sent,
      ((Traffic.fresh replies deliveries).after i).CatchesUp) →
    (∀ receipt ∈ s.reader.serialPort.receipts, receipt.Accepted → receipt.Current) ∧
    ∀ id r', (Reader.getID Line.port).run s.reader = .ok id r' →
      (∀ i < r'.serialPort.queue.sent, ((Traffic.fresh replies deliveries).after i).CatchesUp) →
      ∃ search reads, r'.serialPort.receipts = s.reader.serialPort.receipts ++ search :: reads ∧
        search.frame = searchFrame ∧
        ∀ receipt ∈ search :: reads, receipt.Accepted ∧ receipt.Current := by
  intro s hcatchesUp
  have hfresh : (Line.fresh replies deliveries timeout configurations writes flushes).OnSchedule
      (.fresh replies deliveries) :=
    ⟨rfl, fun _ hmem => absurd hmem List.not_mem_nil⟩
  have hs : s.reader.serialPort.OnSchedule (.fresh replies deliveries) :=
    Line.onSchedule_main hfresh n
  refine ⟨hs.current_of_accepted hcatchesUp, fun id r' hrun hcatchesUp' => ?_⟩
  obtain ⟨search, reads, hreceipts, hframe, haccepted⟩ := Reader.exists_accepted_of_getID hrun
  have hr' : r'.serialPort.OnSchedule (.fresh replies deliveries) :=
    Line.keeps_onSchedule.getID.of_run_eq_ok hs hrun
  refine ⟨search, reads, hreceipts, hframe, fun receipt hmem => ?_⟩
  have hmem' : receipt ∈ r'.serialPort.receipts := by
    rw [hreceipts]
    exact List.mem_append_right _ hmem
  exact ⟨haccepted receipt hmem,
    hr'.current_of_accepted hcatchesUp' receipt hmem' (haccepted receipt hmem)⟩

/-- A tag is presented, and taken away before the second poll. -/
def lateReplies : Stream' Str :=
  Stream'.cons "00".toList
    (Stream'.cons "000180200469B90152".toList (Stream'.const "0000".toList))

/-- The search of the first poll times out. The second takes the reply to it together with its own,
so the third finds the line idle. -/
def recoveringDeliveries : Stream' Delivery :=
  Stream'.cons ⟨3, .ok 3⟩ (Stream'.cons ⟨0, .ok 0⟩
    (Stream'.cons ⟨24, .ok 24⟩ (Stream'.const ⟨5, .ok 5⟩)))

/-- Three polls on a line that loses the reply to the first search and catches up in the second. -/
theorem synchronised_recovering :
    let s := (main Line.port 3).finalState (.start (.fresh lateReplies recoveringDeliveries
      (.simpleTimeout 700) (Stream'.const (.ok ())) (Stream'.const (.ok 7))
      (Stream'.const (.ok ()))))
    (∀ receipt ∈ s.reader.serialPort.receipts, receipt.Accepted → receipt.Current) ∧
    ∀ id r', (Reader.getID Line.port).run s.reader = .ok id r' →
      (∀ i < r'.serialPort.queue.sent,
        ((Traffic.fresh lateReplies recoveringDeliveries).after i).CatchesUp) →
      ∃ search reads, r'.serialPort.receipts = s.reader.serialPort.receipts ++ search :: reads ∧
        search.frame = searchFrame ∧
        ∀ receipt ∈ search :: reads, receipt.Accepted ∧ receipt.Current :=
  synchronised_of_catchesUp lateReplies recoveringDeliveries (.simpleTimeout 700)
    (Stream'.const (.ok ())) (Stream'.const (.ok 7)) (Stream'.const (.ok ())) 3
    (by decide +kernel)

/-- The search of the first poll times out. The reply to it arrives during the search of the
second. -/
def lateDeliveries : Stream' Delivery :=
  Stream'.cons ⟨3, .ok 3⟩ (Stream'.cons ⟨0, .ok 0⟩ (Stream'.const ⟨19, .ok 19⟩))

/-- The read of the second search: it takes the reply to the first. -/
def lateReceipt : Receipt :=
  { frame := searchFrame
    request := 3
    taken := "000180200469B90152\r".toList.map (Prod.mk 2) }

/-- The third read of the program takes the reply to the first search. -/
theorem receipts_late :
    ((main Line.port 2).finalState (.start (.fresh lateReplies lateDeliveries (.simpleTimeout 700)
      (Stream'.const (.ok ())) (Stream'.const (.ok 7))
      (Stream'.const (.ok ()))))).reader.serialPort.receipts[2]? = some lateReceipt := by
  decide +kernel

/-- That text is a reply to a search as any other. -/
theorem accepted_lateReceipt : lateReceipt.Accepted :=
  .searchTag (show hexStringToBytes "000180200469B90152\r".toList =
    .ok [0x00, 0x01, 0x80, 0x20, 0x04, 0x69, 0xB9, 0x01, 0x52] from rfl) rfl

/-- The second poll takes the tag for present. -/
theorem not_synchronised_late :
    ¬ ∀ (replies : Stream' Str) (deliveries : Stream' Delivery) (timeout : Timeout)
        (configurations : Stream' (Except Exception Unit)) (writes : Stream' (Except Exception ℕ))
        (flushes : Stream' (Except Exception Unit)) (n : ℕ),
      let s := (main Line.port n).finalState
        (.start (.fresh replies deliveries timeout configurations writes flushes))
      ∀ receipt ∈ s.reader.serialPort.receipts, receipt.Accepted → receipt.Current := by
  intro hall
  -- the first character on the record of the second search belongs to the first
  have hcurrent := hall lateReplies lateDeliveries (.simpleTimeout 700) (Stream'.const (.ok ()))
    (Stream'.const (.ok 7)) (Stream'.const (.ok ())) 2 lateReceipt
    (List.mem_of_getElem? receipts_late) accepted_lateReceipt
  exact absurd (hcurrent (2, '0') (by decide)) (by decide)

end AccessControlSystem

end DoorAcs
