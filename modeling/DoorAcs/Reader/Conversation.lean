import DoorAcs.Cpp.Refinement
import DoorAcs.Packet.Request
import DoorAcs.Packet.TdxReply
import DoorAcs.Reader

/-!
# The conversation of a poll

What `GetID` is for, in terms of what the reader device and the card say. A `Conversation` is what
the replies of one poll come to: no tag, or a tag and what came of asking for an HCE id.
`SerialPort.converse` holds it over any serial port, and `Reader.getID` refines that
(`Reader.refines_getID`): it returns the id of the conversation, and fails where there is none.
-/

namespace DoorAcs

open Cpp

variable {π : Type}

/-! ## Frames -/

/-- The frame that asks for a tag with an id of up to 16 bytes. -/
def searchFrame : Str := (SearchTagPacket.new 16).getData

/-- The packet an APDU command is sent in. -/
def apduPacket {α : Type} [IsAPDUCommand α] (apduCommand : α) : ISO14443_4_TDX_Packet :=
  .ofAPDUCommand apduCommand (UInt8.ofNat maxResponseNumberOfBytes)

/-- The frame that selects the HCE service. -/
def selectFileFrame : Str := (apduPacket (SelectFileAPDUCommand.new hceServiceAid)).getData

/-- The frame that asks the HCE service for its id. -/
def getResponseFrame : Str := (apduPacket GetResponseAPDUCommand.new).getData

/-- The frames, character by character. -/
theorem frames_eq : searchFrame = "050010\r".toList ∧
    selectFileFrame = "12030E00A4040008FF00000000000001FFFF\r".toList ∧
    getResponseFrame = "12030600C0000000FFFF\r".toList := by decide

/-! ## Conversations -/

/-- What came of asking for an HCE id. -/
inductive HceAttempt where
  /-- No card took SELECT FILE, or its status word was not 9000. -/
  | notSelected
  /-- No card took GET RESPONSE. -/
  | unanswered
  /-- A card answered GET RESPONSE. -/
  | answered (reply : ApduReply)
  deriving DecidableEq

/-- The attempt gave an id. -/
def HceAttempt.isAnswered : HceAttempt → Bool
  | .answered _ => true
  | _ => false

/-- What the replies of one poll come to. -/
inductive Conversation where
  | noTag
  | tag (uid : List BYTE) (hce : HceAttempt)
  deriving DecidableEq

namespace Conversation

/-- The bytes to decide on: the data of the HCE service if it answered, else the UID. -/
def credential : Conversation → List BYTE
  | .noTag => []
  | .tag _ (.answered reply) => reply.data
  | .tag uid _ => uid

/-- The id to decide on. -/
def id (conversation : Conversation) : Str := Hex.encode conversation.credential

end Conversation

namespace SerialPort

variable (port : SerialPort π)

/-- Send a frame, read a text and decode it. -/
def ask (frame : Str) : Spec π (List BYTE) := do
  let _ ← .ofThrowing (port.write frame)
  let text ← .ofThrowing (port.read maxResponseNumberOfBytes)
  .ofOption (Hex.decode text)

/-- Ask for a tag. -/
def askSearch : Spec π SearchReply := do
  .ofOption (SearchReply.ofBytes? (← port.ask searchFrame))

/-- Ask the card, with a frame that carries an APDU command. The result is `none` if the reader
device says that the exchange failed. -/
def askCard (frame : Str) : Spec π (Option ApduReply) := do
  .ofOption (ApduReply.ofBytes? (← port.ask frame))

/-- Asking the card, as the packet and the response of the answer are parsed. -/
theorem askCard_eq (frame : Str) :
    port.askCard frame =
      (port.ask frame >>= fun bytes => .ofOption (TdxReply.ofBytes? bytes)) >>= fun reply =>
        if reply.success = true then
          .ofOption (ApduReply.ofPayload? reply.payload) >>= fun answer => pure (some answer)
        else pure none := by
  -- both sides ask first and then depend on the bytes alone
  rw [askCard, bind_assoc]
  congr 1
  ext bytes : 1
  rw [ApduReply.ofBytes?]
  cases TdxReply.ofBytes? bytes with
  | none => rfl
  | some reply =>
    rw [Option.bind_some, Spec.ofOption_some_bind]
    split
    · rcases ApduReply.ofPayload? reply.payload with _ | answer <;> rfl
    · rfl

/-- Ask for an HCE id. -/
def askHce : Spec π HceAttempt := do
  match ← port.askCard selectFileFrame with
  | none => return .notSelected
  | some select =>
    if select.IsOk then
      -- whatever its status word, the answer to GET RESPONSE counts
      match ← port.askCard getResponseFrame with
      | none => return .unanswered
      | some reply => return .answered reply
    else return .notSelected

/-- Hold a conversation. -/
def converse : Spec π Conversation := do
  match ← port.askSearch with
  | .noTag => return .noTag
  | .tag _ _ _ uid _ => return .tag uid (← port.askHce)

end SerialPort

/-! ## Conversations that were held -/

namespace SerialPort

variable {port : SerialPort π}

/-- An exchange returns bytes iff the write and the read succeed and the text decodes to them. -/
theorem run_ask_eq_ok_iff {frame : Str} {q q' : π} {bytes : List BYTE} :
    (port.ask frame).run q = .ok bytes q' ↔
      ∃ n q₁ text, (port.write frame).run q = .ok n q₁ ∧
        (port.read maxResponseNumberOfBytes).run q₁ = .ok text q' ∧
        Hex.decode text = some bytes := by
  simp only [ask, Spec.run_bind_eq_ok, Spec.run_ofThrowing_eq_ok, Spec.run_ofOption_eq_ok]
  constructor
  · rintro ⟨n, q₁, hwrite, text, q₂, hread, hdecode, rfl⟩
    exact ⟨n, q₁, text, hwrite, hread, hdecode⟩
  · rintro ⟨n, q₁, text, hwrite, hread, hdecode⟩
    exact ⟨n, q₁, hwrite, text, q', hread, hdecode, rfl⟩

/-- A search returns the reply that its bytes are. -/
theorem run_askSearch_eq_ok_iff {q q' : π} {reply : SearchReply} :
    port.askSearch.run q = .ok reply q' ↔
      ∃ bytes, (port.ask searchFrame).run q = .ok bytes q' ∧
        SearchReply.ofBytes? bytes = some reply := by
  rw [askSearch, Spec.run_bind_ofOption_eq_ok]

/-- An exchange with the card returns the answer that its bytes are. -/
theorem run_askCard_eq_ok_iff {frame : Str} {q q' : π} {answer : Option ApduReply} :
    (port.askCard frame).run q = .ok answer q' ↔
      ∃ bytes, (port.ask frame).run q = .ok bytes q' ∧
        ApduReply.ofBytes? bytes = some answer := by
  rw [askCard, Spec.run_bind_ofOption_eq_ok]

/-- An HCE id was obtained iff the card answered SELECT FILE with the status word 9000, and then
GET RESPONSE. -/
theorem run_askHce_eq_answered_iff {q q' : π} {reply : ApduReply} :
    port.askHce.run q = .ok (.answered reply) q' ↔
      ∃ select q₁, (port.askCard selectFileFrame).run q = .ok (some select) q₁ ∧ select.IsOk ∧
        (port.askCard getResponseFrame).run q₁ = .ok (some reply) q' := by
  constructor
  · -- every other branch ends with another result
    intro h
    obtain ⟨answer, q₁, hselect, h⟩ := Spec.run_bind_eq_ok.mp h
    cases answer with
    | none => cases h
    | some select =>
      dsimp only at h
      split at h
      · next hok =>
        obtain ⟨answer, q₂, hresponse, h⟩ := Spec.run_bind_eq_ok.mp h
        cases answer with
        | none => cases h
        | some reply' =>
          cases h
          exact ⟨select, q₁, hselect, hok, hresponse⟩
      · cases h
  · rintro ⟨select, q₁, hselect, hok, hresponse⟩
    rw [askHce, Spec.run_bind_of_ok hselect]
    dsimp only
    rw [if_pos hok, Spec.run_bind_of_ok hresponse, EStateM.run_pure]

/-- A poll finds a tag iff the search does, and then the HCE service is asked. -/
theorem run_converse_eq_tag_iff {q q' : π} {uid : List BYTE} {hce : HceAttempt} :
    port.converse.run q = .ok (.tag uid hce) q' ↔
      ∃ t bits n enough q₁, port.askSearch.run q = .ok (.tag t bits n uid enough) q₁ ∧
        port.askHce.run q₁ = .ok hce q' := by
  constructor
  · intro h
    obtain ⟨reply, q₁, hsearch, h⟩ := Spec.run_bind_eq_ok.mp h
    cases reply with
    | noTag => cases h
    | tag t bits n uid' enough =>
      obtain ⟨hce', q₂, hhce, h⟩ := Spec.run_bind_eq_ok.mp h
      cases h
      exact ⟨t, bits, n, enough, q₁, hsearch, hhce⟩
  · rintro ⟨t, bits, n, enough, q₁, hsearch, hhce⟩
    rw [converse, Spec.run_bind_of_ok hsearch]
    dsimp only
    rw [Spec.run_bind_of_ok hhce, EStateM.run_pure]

/-- There is no tag to speak of iff the reply to the search is `[00, 00]`. -/
theorem run_converse_eq_noTag_iff {q q' : π} :
    port.converse.run q = .ok .noTag q' ↔ (port.ask searchFrame).run q = .ok [0, 0] q' := by
  constructor
  · intro h
    obtain ⟨reply, q₁, hsearch, h⟩ := Spec.run_bind_eq_ok.mp h
    cases reply with
    | noTag =>
      cases h
      obtain ⟨bytes, hask, hbytes⟩ := run_askSearch_eq_ok_iff.mp hsearch
      rwa [SearchReply.ofBytes?_eq_noTag_iff.mp hbytes] at hask
    | tag =>
      obtain ⟨hce, q₂, hhce, h⟩ := Spec.run_bind_eq_ok.mp h
      cases h
  · intro h
    rw [converse, Spec.run_bind_of_ok (run_askSearch_eq_ok_iff.mpr ⟨[0, 0], h, rfl⟩)]
    rfl

end SerialPort

/-! ## Refinement -/

namespace Reader

variable {port : SerialPort π}

/-- Code on the serial port refines itself. -/
theorem refines_onSerialPort {α : Type} (m : EStateM Exception π α) :
    Prog.Refines serialPort Eq (onSerialPort m) (.ofThrowing m) :=
  .onField (fun _ _ => rfl) m

/-- The decoder of the program is that of the codec. -/
theorem refines_lift_hexStringToBytes (text : Str) :
    Prog.Refines serialPort Eq
      (.lift (hexStringToBytes text) : Prog Exception (Reader π) (List BYTE))
      (.ofOption (Hex.decode text)) := by
  apply Prog.Refines.lift
  rw [hexStringToBytes_eq]
  rcases Hex.decode text with _ | bytes <;> simp [Agrees]

/-- `GetID` makes its exchanges as they are described. -/
theorem refines_exchange (frame : Str) :
    Prog.Refines serialPort Eq (exchange port frame) (port.ask frame) := by
  -- storing the frame, the count and the text leaves the port as it is
  refine .modify_bind (fun _ => rfl) ?_
  refine (refines_onSerialPort _).bind fun n _ _ => ?_
  refine .modify_bind (fun _ => rfl) ?_
  refine (refines_onSerialPort _).bind fun text _ htext => ?_
  subst htext
  exact .modify_bind (fun _ => rfl) (refines_lift_hexStringToBytes text)

/-- The packet of the search holds the reply. -/
theorem refines_searchTag :
    Prog.Refines serialPort (fun packet reply => packet = (SearchTagPacket.new 16).parsed reply)
      (searchTag port) port.askSearch := by
  refine (refines_exchange _).bind fun bytes _ hbytes => ?_
  subst hbytes
  apply Prog.Refines.onLocal
  cases h : SearchReply.ofBytes? bytes with
  | some reply =>
    rw [SearchTagPacket.run_parseResponse_of_some _ h]
    exact ⟨reply, rfl, rfl⟩
  | none =>
    obtain ⟨p, herror⟩ := SearchTagPacket.run_parseResponse_of_none (.new 16) h
    rw [herror]

/-- The result and the response of the packet are those of the reply. -/
theorem refines_transmit {α : Type} [IsAPDUCommand α] (apduCommand : α) :
    Prog.Refines serialPort
      (fun packet reply => packet.result = reply.success ∧
        packet.response = Hex.encode reply.payload)
      (transmit port apduCommand)
      (port.ask (apduPacket apduCommand).getData >>= fun bytes =>
        .ofOption (TdxReply.ofBytes? bytes)) := by
  refine (refines_exchange _).bind fun bytes _ hbytes => ?_
  subst hbytes
  apply Prog.Refines.onLocal
  cases h : TdxReply.ofBytes? bytes with
  | some reply =>
    have hok := ISO14443_4_TDX_Packet.run_parseResponse_of_some (apduPacket apduCommand) h
    rw [apduPacket] at hok
    rw [hok]
    exact ⟨reply, rfl, rfl, rfl⟩
  | none =>
    -- an exception or a read outside the reply: the packet is lost either way
    obtain ⟨failure, p, herror⟩ :=
      ISO14443_4_TDX_Packet.exists_run_parseResponse_of_none (apduPacket apduCommand) h
    rw [apduPacket] at herror
    rw [herror]

/-- Cutting the response of the packet gives the data and the status word of the answer. -/
theorem agrees_selectFileResponse (payload : List BYTE) :
    Agrees (fun response answer => response.status = Hex.encode [answer.sw1, answer.sw2])
      (SelectFileAPDUResponse.new (Hex.encode payload)) (ApduReply.ofPayload? payload) := by
  cases h : ApduReply.ofPayload? payload with
  | some answer =>
    rw [SelectFileAPDUResponse.new, APDUResponse.new_encode_of_some h]
    rfl
  | none =>
    rw [SelectFileAPDUResponse.new, APDUResponse.new_encode_of_none h]
    exact trivial

/-- The id is the text of the data in the answer. -/
theorem agrees_getResponseResponse (payload : List BYTE) :
    Agrees (fun response answer => response.id = Hex.encode answer.data)
      (GetResponseAPDUResponse.new (Hex.encode payload)) (ApduReply.ofPayload? payload) := by
  cases h : ApduReply.ofPayload? payload with
  | some answer =>
    rw [GetResponseAPDUResponse.new, APDUResponse.new_encode_of_some h]
    rfl
  | none =>
    rw [GetResponseAPDUResponse.new, APDUResponse.new_encode_of_none h]
    exact trivial

/-- An exchange with the card: `GetID` cuts the response of the packet if the exchange succeeded. -/
def askCard {α ρ : Type} [IsAPDUCommand α] (port : SerialPort π) (apduCommand : α)
    (new : Str → Except (Failure Exception) ρ) : Prog Exception (Reader π) (Option ρ) := do
  let packet ← transmit port apduCommand
  if packet.result = true then return some (← .lift (new packet.response)) else return none

/-- Behind the search, `GetID` has two exchanges with the card at most. -/
theorem readHceId_eq (id : Str) :
    readHceId port id = do
      match ← askCard port (SelectFileAPDUCommand.new hceServiceAid) SelectFileAPDUResponse.new with
      | none => return (id, false)
      | some selectFileResponse =>
        if selectFileResponse.status = apduStatusOk then
          match ← askCard port GetResponseAPDUCommand.new GetResponseAPDUResponse.new with
          | none => return (id, false)
          | some getResponseResponse => return (getResponseResponse.id, true)
        else return (id, false) := by
  rw [readHceId, askCard, bind_assoc]
  congr 1
  ext selectFile : 1
  split
  · rw [bind_assoc]
    congr 1
    ext response : 1
    rw [pure_bind]
    dsimp only
    split
    · rw [askCard, bind_assoc]
      congr 1
      ext getResponse : 1
      split
      · rw [bind_assoc]
        rfl
      · rfl
    · rfl
  · rfl

/-- An exchange with the card gives what its constructor makes of the answer. -/
theorem refines_askCard {α ρ : Type} [IsAPDUCommand α] (apduCommand : α)
    {new : Str → Except (Failure Exception) ρ} {V : ρ → ApduReply → Prop}
    (hnew : ∀ payload, Agrees V (new (Hex.encode payload)) (ApduReply.ofPayload? payload)) :
    Prog.Refines serialPort (Option.Rel V) (askCard port apduCommand new)
      (port.askCard (apduPacket apduCommand).getData) := by
  rw [SerialPort.askCard_eq]
  refine (refines_transmit _).bind fun packet reply hreply => ?_
  refine .ite (by rw [hreply.1]) (fun _ => ?_) fun _ => .pure .none
  rw [hreply.2]
  exact (Prog.Refines.lift (hnew _)).bind fun response answer hanswer => .pure (.some hanswer)

/-- The id behind the search is the one of the conversation. -/
theorem refines_readHceId (uid : List BYTE) :
    Prog.Refines serialPort
      (fun found hce => found.1 = (Conversation.tag uid hce).id ∧ found.2 = hce.isAnswered)
      (readHceId port (Hex.encode uid)) port.askHce := by
  rw [readHceId_eq]
  refine (refines_askCard _ agrees_selectFileResponse).bind fun response select hselect => ?_
  cases hselect with
  | none => exact .pure ⟨rfl, rfl⟩
  | some hstatus =>
    refine .ite (by rw [hstatus, APDUResponse.encode_status_eq_ok_iff]) (fun _ => ?_)
      fun _ => .pure ⟨rfl, rfl⟩
    refine (refines_askCard _ agrees_getResponseResponse).bind fun response reply hreply => ?_
    cases hreply with
    | none => exact .pure ⟨rfl, rfl⟩
    | some hid => exact .pure ⟨hid, rfl⟩

/-- `GetID` returns the id of the conversation, and fails where there is none. -/
theorem refines_getID :
    Prog.Refines serialPort (fun id conversation => id = conversation.id)
      (getID port) port.converse := by
  refine .modify_bind (fun _ => rfl) ?_
  refine refines_searchTag.bind fun packet reply hpacket => ?_
  subst hpacket
  cases reply with
  | noTag =>
    -- `GetID` returns at once, without a message
    exact .pure rfl
  | tag tagType idBitCount idByteCount uid enough =>
    refine (refines_readHceId uid).bind fun found hce hid => ?_
    exact .modify_bind (fun _ => rfl) (.pure hid.1)

end Reader

end DoorAcs
