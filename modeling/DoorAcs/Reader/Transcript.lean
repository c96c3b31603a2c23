import DoorAcs.Packet.History
import DoorAcs.Reader.Diagnostics
import DoorAcs.Reader.Invariant

/-!
# What the reader leaves behind

All that `GetID` changes, in terms of the conversation it has: the port, the three members about the
exchanges, and the messages. The constructor has an exchange of its own, which leaves the members.

* `Reader.run_construct_eq_ok_iff`: the constructor succeeds iff the reader device takes the tag
  types.
* `Reader.exists_conversation_of_run_getID`: the id and the messages are those of the conversation.
* `Reader.cout_of_run_getID_error`: without a conversation, only the search is announced.
* `Reader.diagnostics_getID`: the members are those behind all exchanges of the poll.
-/

namespace DoorAcs

open Cpp

variable {π : Type}

/-! ## Messages -/

/-- The messages of a conversation: what `GetID` prints. -/
def Conversation.messages : Conversation → List ConsoleLine
  | .noTag => [.searching]
  | .tag _ (.answered reply) => [.searching, .hceServiceId (Hex.encode reply.data)]
  | .tag uid _ => [.searching, .tagId (Hex.encode uid)]

/-- Behind the search, the message is about an HCE id iff the attempt gave one. -/
theorem Conversation.messages_tag (uid : List BYTE) (hce : HceAttempt) :
    (Conversation.tag uid hce).messages = [.searching,
      if hce.isAnswered then .hceServiceId (Conversation.tag uid hce).id
      else .tagId (Conversation.tag uid hce).id] := by
  cases hce <;> rfl

/-! ## Exchanges -/

/-- The frame that selects all tag types. -/
def setTagTypesFrame : Str := (SetTagTypesPacket.new .noTag .allTags).getData

namespace SerialPort

variable (port : SerialPort π)

/-- The exchanges with the card in a poll, each with its frame and the port when it begins. -/
def cardExchanges (q : π) : List (Str × π) :=
  (selectFileFrame, q) ::
    match (port.askCard selectFileFrame).run q with
    | .ok (some select) q₁ => if select.IsOk then [(getResponseFrame, q₁)] else []
    | _ => []

/-- The exchanges of a poll. It may break off in the last. -/
def exchanges (q : π) : List (Str × π) :=
  (searchFrame, q) ::
    match port.askSearch.run q with
    | .ok (.tag ..) q₁ => port.cardExchanges q₁
    | _ => []

/-- Set the timeouts of the reader: there is none between two bytes, and the others stay. -/
def setTimeouts : EStateM Exception π Unit := fun q =>
  (port.setTimeout { port.getTimeout q with interByteTimeout := 0 }).run q

/-- Set the timeouts, and empty the port if it is open. -/
def initialise : Spec π Unit := do
  .ofThrowing port.setTimeouts
  if port.isOpen (← get) then .ofThrowing port.flush else throw ()

/-- Set the reader device up: initialise the port, select all tag types and wait for the answer,
which is the error byte 0 alone. -/
def setUp : Spec π Unit := do
  port.initialise
  let bytes ← port.ask setTagTypesFrame
  .ofOption (if bytes = [0] then some () else none)

variable {port} {q q' : π}

/-- The serial port is initialised if the timeouts are set, it is open, and the flush succeeds. -/
theorem run_initialise_eq_ok_iff :
    port.initialise.run q = .ok () q' ↔
      ∃ q₀, port.setTimeouts.run q = .ok () q₀ ∧ port.isOpen q₀ = true ∧
        port.flush.run q₀ = .ok () q' := by
  rw [initialise, Spec.run_bind_eq_ok]
  simp only [Spec.run_ofThrowing_eq_ok, EStateM.run_bind, EStateM.run_get]
  constructor
  · rintro ⟨_, q₀, htimeouts, h⟩
    split_ifs at h with hopen
    · exact ⟨q₀, htimeouts, hopen, Spec.run_ofThrowing_eq_ok.mp h⟩
    · cases h
  · rintro ⟨q₀, htimeouts, hopen, hflush⟩
    refine ⟨(), q₀, htimeouts, ?_⟩
    rw [if_pos hopen]
    exact Spec.run_ofThrowing_eq_ok.mpr hflush

/-- The reader device is set up iff the port takes the timeouts, is open and can be emptied, and the
device answers. -/
theorem run_setUp_eq_ok_iff :
    port.setUp.run q = .ok () q' ↔
      ∃ q₁, port.initialise.run q = .ok () q₁ ∧
        (port.ask setTagTypesFrame).run q₁ = .ok [0] q' := by
  rw [setUp, Spec.run_bind_eq_ok]
  constructor
  · rintro ⟨_, q₁, hinitialise, h⟩
    obtain ⟨bytes, hask, hbytes⟩ := Spec.run_bind_ofOption_eq_ok.mp h
    obtain rfl : bytes = [0] := by simpa using hbytes
    exact ⟨q₁, hinitialise, hask⟩
  · rintro ⟨q₁, hinitialise, hask⟩
    exact ⟨(), q₁, hinitialise, Spec.run_bind_ofOption_eq_ok.mpr ⟨[0], hask, rfl⟩⟩

end SerialPort

/-- Behind a list of exchanges. -/
def Diagnostics.behindAll (d : Diagnostics) (port : SerialPort π) (exchanges : List (Str × π)) :
    Diagnostics :=
  exchanges.foldl (fun d exchange => d.behind port exchange.1 exchange.2) d

namespace Reader

variable {port : SerialPort π} {r r' : Reader π}

/-! ## The constructor -/

/-- Code on the serial port leaves the other members. -/
theorem run_onSerialPort {α : Type} (m : EStateM Exception π α) (r : Reader π) :
    (onSerialPort m).run r = match m.run r.serialPort with
      | .ok a q => .ok a { r with serialPort := q }
      | .error e q => .error (.exception e) { r with serialPort := q } := by
  rw [onSerialPort, Prog.run_onField, Prog.run_ofThrowing]
  rcases m.run r.serialPort with ⟨a, q⟩ | ⟨e, q⟩ <;> rfl

/-- Code on the serial port returns iff it does so on the port alone. -/
theorem run_onSerialPort_eq_ok_iff {α : Type} {m : EStateM Exception π α} {a : α} :
    (onSerialPort m).run r = .ok a r' ↔
      ∃ q, m.run r.serialPort = .ok a q ∧ r' = { r with serialPort := q } := by
  rw [run_onSerialPort]
  rcases m.run r.serialPort with ⟨b, q⟩ | ⟨e, q⟩ <;> simp [eq_comm]

/-- `InitialiseSerialPort` sets the timeouts, looks whether the port is open, prints and flushes. -/
theorem initialiseSerialPort_eq (port : SerialPort π) :
    initialiseSerialPort port = (do
      onSerialPort port.setTimeouts
      if port.isOpen (← get).serialPort then
        print .serialPortOpened
        flushSerialPort port
      else
        Prog.raise (.runtimeError "Serial port failed to open.")) := rfl

/-- The port is given its timeouts, and is emptied if it is open. -/
theorem run_initialiseSerialPort (r : Reader π) :
    (initialiseSerialPort port).run r =
      match port.setTimeouts.run r.serialPort with
      | .error e q => .error (.exception e) { r with serialPort := q }
      | .ok _ q =>
        if port.isOpen q then
          (flushSerialPort port).run
            { r with serialPort := q, cout := r.cout ++ [.serialPortOpened] }
        else .error (.exception (.runtimeError "Serial port failed to open."))
          { r with serialPort := q } := by
  rw [initialiseSerialPort_eq, EStateM.run_bind, run_onSerialPort]
  cases port.setTimeouts.run r.serialPort with
  | error e q => rfl
  | ok _ q =>
    dsimp only
    rw [EStateM.run_bind, EStateM.run_get]
    dsimp only
    rw [Prog.run_ite]
    rfl

/-- `InitialiseSerialPort` returns iff the port can be initialised. It prints one message. -/
theorem run_initialiseSerialPort_eq_ok_iff :
    (initialiseSerialPort port).run r = .ok () r' ↔
      ∃ q, port.initialise.run r.serialPort = .ok () q ∧
        r' = { r with serialPort := q, cout := r.cout ++ [.serialPortOpened] } := by
  rw [run_initialiseSerialPort]
  simp only [SerialPort.run_initialise_eq_ok_iff]
  cases htimeouts : port.setTimeouts.run r.serialPort with
  | error e q => simp
  | ok _ q₀ =>
    dsimp only
    split_ifs with hopen
    · rw [flushSerialPort, run_onSerialPort_eq_ok_iff]
      simp [hopen]
    · simp [hopen]

/-- Decoding a text changes nothing in the reader. -/
theorem run_lift_hexStringToBytes_eq_ok_iff {text : Str} {bytes : List BYTE} :
    (Prog.lift (hexStringToBytes text) : Prog Exception (Reader π) _).run r = .ok bytes r' ↔
      Hex.decode text = some bytes ∧ r = r' := by
  rw [hexStringToBytes_eq]
  rcases Hex.decode text with _ | bytes' <;> simp

/-- The constructor returns iff the reader device could be set up. It leaves a message, and its own
exchange does not show in the members. -/
theorem run_construct_eq_ok_iff :
    (construct port).run r = .ok () r' ↔
      ∃ q, port.setUp.run r.serialPort = .ok () q ∧
        r' = { r with serialPort := q, cout := r.cout ++ [.serialPortOpened] } := by
  simp only [SerialPort.run_setUp_eq_ok_iff, SerialPort.run_ask_eq_ok_iff]
  constructor
  · intro h
    obtain ⟨_, r₁, hinitialised, h⟩ := Prog.run_bind_eq_ok.mp h
    obtain ⟨q₁, hinitialise, rfl⟩ := run_initialiseSerialPort_eq_ok_iff.mp hinitialised
    obtain ⟨n, r₂, hwritten, h⟩ := Prog.run_bind_eq_ok.mp h
    obtain ⟨q₂, hwrite, rfl⟩ := run_onSerialPort_eq_ok_iff.mp hwritten
    obtain ⟨text, r₃, htext, h⟩ := Prog.run_bind_eq_ok.mp h
    obtain ⟨q₃, hread, rfl⟩ := run_onSerialPort_eq_ok_iff.mp htext
    obtain ⟨bytes, r₄, hbytes, h⟩ := Prog.run_bind_eq_ok.mp h
    obtain ⟨hdecode, rfl⟩ := run_lift_hexStringToBytes_eq_ok_iff.mp hbytes
    obtain ⟨packet, r₅, hpacket, h⟩ := Prog.run_bind_eq_ok.mp h
    obtain ⟨⟨_, hparse⟩, rfl⟩ := Prog.run_onLocal_eq_ok.mp hpacket
    obtain ⟨rfl, -⟩ := SetTagTypesPacket.run_parseResponse_eq_ok_iff.mp hparse
    cases h
    exact ⟨q₃, ⟨q₁, hinitialise, n, q₂, text, hwrite, hread, hdecode⟩, rfl⟩
  · rintro ⟨q, ⟨q₁, hinitialise, n, q₂, text, hwrite, hread, hdecode⟩, rfl⟩
    rw [construct, Prog.run_bind_of_ok
      (run_initialiseSerialPort_eq_ok_iff.mpr ⟨q₁, hinitialise, rfl⟩)]
    dsimp only
    rw [Prog.run_bind_of_ok (run_onSerialPort_eq_ok_iff.mpr ⟨q₂, hwrite, rfl⟩),
      Prog.run_bind_of_ok (run_onSerialPort_eq_ok_iff.mpr ⟨q, hread, rfl⟩),
      Prog.run_bind_of_ok (run_lift_hexStringToBytes_eq_ok_iff.mpr ⟨hdecode, rfl⟩),
      Prog.run_bind_of_ok (Prog.run_onLocal_eq_ok.mpr
        ⟨⟨(), SetTagTypesPacket.run_parseResponse_eq_ok_iff.mpr ⟨rfl, rfl⟩⟩, rfl⟩),
      EStateM.run_pure]

/-- For the port, `InitialiseSerialPort` is its initialisation. -/
theorem refines_initialiseSerialPort :
    Prog.Refines serialPort Eq (initialiseSerialPort port) port.initialise := by
  rw [initialiseSerialPort_eq]
  refine (refines_onSerialPort _).bind fun _ _ _ => .get_bind fun q => ?_
  -- the message does not show in the port
  exact .ite Iff.rfl (fun _ => .modify_bind (fun _ => rfl) (refines_onSerialPort _))
    fun _ => .raise _

/-- On return and on failure alike, the constructor leaves the port as setting it up does. -/
theorem refines_construct :
    Prog.Refines serialPort Eq (construct port) port.setUp := by
  simp only [construct, SerialPort.setUp, SerialPort.ask, bind_assoc]
  refine refines_initialiseSerialPort.bind fun _ _ _ => ?_
  refine (refines_onSerialPort _).bind fun n _ _ => ?_
  refine (refines_onSerialPort _).bind fun text _ htext => ?_
  subst htext
  refine (refines_lift_hexStringToBytes text).bind fun bytes _ hbytes => ?_
  subst hbytes
  rw [← bind_pure (Spec.ofOption _)]
  refine (Prog.Refines.onLocal (V := fun _ _ => True) ?_).bind fun _ _ _ => .pure rfl
  cases hrun : (SetTagTypesPacket.parseResponse bytes).run (.new .noTag .allTags) with
  | ok _ p =>
    obtain ⟨rfl, -⟩ := SetTagTypesPacket.run_parseResponse_eq_ok_iff.mp hrun
    exact ⟨(), rfl, trivial⟩
  | error f p =>
    refine if_neg ?_
    rintro rfl
    cases hrun

/-! ## `GetID` -/

/-- The search prints nothing. -/
theorem cout_searchTag (port : SerialPort π) (r : Reader π) :
    ((searchTag port).finalState r).cout = r.cout :=
  (ExchangeInvariant.of_cout (· = r.cout)).preserves_searchTag r rfl

/-- The exchanges with the HCE service print nothing. -/
theorem cout_readHceId (port : SerialPort π) (id : Str) (r : Reader π) :
    ((readHceId port id).finalState r).cout = r.cout :=
  (ExchangeInvariant.of_cout (· = r.cout)).preserves_readHceId id r rfl

/-- If `GetID` returns, the id and the messages are those of the conversation. -/
theorem exists_conversation_of_run_getID {id : Str} (h : (getID port).run r = .ok id r') :
    ∃ conversation, port.converse.run r.serialPort = .ok conversation r'.serialPort ∧
      id = conversation.id ∧ r'.cout = r.cout ++ conversation.messages := by
  rw [getID, print, Prog.run_modify_bind] at h
  obtain ⟨packet, r₁, hsearch, h⟩ := Prog.run_bind_eq_ok.mp h
  have hcout₁ := cout_searchTag port { r with cout := r.cout ++ [.searching] }
  rw [Prog.finalState_of_ok hsearch] at hcout₁
  obtain ⟨reply, hreply, rfl⟩ := refines_searchTag.of_run_eq_ok hsearch
  cases reply with
  | noTag =>
    cases h
    obtain ⟨bytes, hask, hbytes⟩ := SerialPort.run_askSearch_eq_ok_iff.mp hreply
    rw [SearchReply.ofBytes?_eq_noTag_iff.mp hbytes] at hask
    exact ⟨.noTag, SerialPort.run_converse_eq_noTag_iff.mpr hask, rfl, hcout₁⟩
  | tag t bits n uid enough =>
    obtain ⟨found, r₂, hhce, h⟩ := Prog.run_bind_eq_ok.mp h
    have hcout₂ := cout_readHceId port (Hex.encode uid) r₁
    rw [show readHceId port (Hex.encode uid) = readHceId port
      ((SearchTagPacket.new 16).parsed (.tag t bits n uid enough)).id from rfl,
      Prog.finalState_of_ok hhce] at hcout₂
    obtain ⟨hce, hspec, hid, hused⟩ := (refines_readHceId uid).of_run_eq_ok hhce
    cases h
    refine ⟨.tag uid hce, SerialPort.run_converse_eq_tag_iff.mpr
      ⟨t, bits, n, enough, r₁.serialPort, hreply, hspec⟩, hid, ?_⟩
    rw [Conversation.messages_tag, ← hid, ← hused]
    change r₂.cout ++ [_] = _
    rw [hcout₂, hcout₁, List.append_assoc]
    rfl

/-- If `GetID` fails, it has announced the search and nothing else. -/
theorem cout_of_run_getID_error {f : Failure Exception}
    (h : (getID port).run r = .error f r') : r'.cout = r.cout ++ [.searching] := by
  rw [getID, print, Prog.run_modify_bind] at h
  have hcout₁ := cout_searchTag port { r with cout := r.cout ++ [.searching] }
  rcases Prog.run_bind_eq_error.mp h with hsearch | ⟨packet, r₁, hsearch, h⟩
  · rwa [Prog.finalState_of_error hsearch] at hcout₁
  · rw [Prog.finalState_of_ok hsearch] at hcout₁
    rw [Prog.run_ite] at h
    split at h
    · cases h
    · rcases Prog.run_bind_eq_error.mp h with hhce | ⟨found, r₂, hhce, h⟩
      · have hcout₂ := cout_readHceId port packet.id r₁
        rw [Prog.finalState_of_error hhce] at hcout₂
        rw [hcout₂, hcout₁]
      · cases h

/-- Behind the search, the members are those behind the exchanges with the card. -/
theorem diagnostics_readHceId (port : SerialPort π) (id : Str) (r : Reader π) :
    ((readHceId port id).finalState r).diagnostics =
      r.diagnostics.behindAll port (port.cardExchanges r.serialPort) := by
  have hrefines : Prog.Refines serialPort _ _ (port.askCard selectFileFrame) :=
    refines_askCard (SelectFileAPDUCommand.new hceServiceAid) agrees_selectFileResponse
  have hexchange : IsExchange port selectFileFrame
      (askCard port (SelectFileAPDUCommand.new hceServiceAid) SelectFileAPDUResponse.new) :=
    isExchange_askCard _ _
  have hmembers := hexchange.diagnostics_finalState r
  rw [readHceId_eq, SerialPort.cardExchanges]
  cases hselect : (askCard port (SelectFileAPDUCommand.new hceServiceAid)
      SelectFileAPDUResponse.new).run r with
  | error f r₁ =>
    rw [Prog.finalState_of_error hselect] at hmembers
    rw [Prog.finalState_bind_of_error hselect, hrefines.of_run_eq_error hselect]
    exact hmembers
  | ok response r₁ =>
    rw [Prog.finalState_of_ok hselect] at hmembers
    rw [Prog.finalState_bind_of_ok hselect]
    obtain ⟨answer, hanswer, hstatus⟩ := hrefines.of_run_eq_ok hselect
    rw [hanswer]
    cases hstatus with
    | none => exact hmembers
    | @some response select hstatus =>
      dsimp only
      by_cases hok : select.IsOk
      · -- GET RESPONSE is one more exchange, and the returns behind it leave the members
        have hcode : response.status = apduStatusOk := by
          rwa [hstatus, APDUResponse.encode_status_eq_ok_iff]
        rw [if_pos hcode, if_pos hok,
          Prog.finalState_bind_of_preserves (fun found I => by
            cases found <;> exact Prog.preserves_pure _),
          (isExchange_askCard _ _).diagnostics_finalState, hmembers]
        rfl
      · have hcode : ¬ response.status = apduStatusOk := by
          rwa [hstatus, APDUResponse.encode_status_eq_ok_iff]
        rw [if_neg hcode, if_neg hok]
        exact hmembers

/-- The members are those behind all exchanges of the poll. -/
theorem diagnostics_getID (port : SerialPort π) (r : Reader π) :
    ((getID port).finalState r).diagnostics =
      r.diagnostics.behindAll port (port.exchanges r.serialPort) := by
  have hexchange : IsExchange port searchFrame (searchTag port) := isExchange_searchTag
  have hmembers := hexchange.diagnostics_finalState { r with cout := r.cout ++ [.searching] }
  rw [getID, print, Prog.finalState, Prog.run_modify_bind, ← Prog.finalState,
    SerialPort.exchanges]
  cases hsearch : (searchTag port).run { r with cout := r.cout ++ [.searching] } with
  | error f r₁ =>
    rw [Prog.finalState_of_error hsearch] at hmembers
    have hspec := refines_searchTag.of_run_eq_error hsearch
    dsimp only at hspec
    rw [Prog.finalState_bind_of_error hsearch, hspec]
    exact hmembers
  | ok packet r₁ =>
    rw [Prog.finalState_of_ok hsearch] at hmembers
    rw [Prog.finalState_bind_of_ok hsearch]
    obtain ⟨reply, hreply, rfl⟩ := refines_searchTag.of_run_eq_ok hsearch
    dsimp only at hreply
    rw [hreply]
    cases reply with
    | noTag => exact hmembers
    | tag t bits n uid enough =>
      have hcard := diagnostics_readHceId port (Hex.encode uid) r₁
      rw [hmembers] at hcard
      -- the message about the id leaves the members
      exact (Prog.get_finalState_bind (fun _ _ => rfl) r₁).trans hcard

end Reader

end DoorAcs
