import DoorAcs.Reader.Conversation

/-!
# What the reader remembers of an exchange

The handler of `MainLoop` prints three members of the reader: the frame sent, the number of bytes
written and the text read. An exchange sets them one after the other, and resets none of them when
it begins (`Reader.diagnostics_exchange`).

`SerialPort.brokenOff?` tells in which exchange a poll breaks off, and `SerialPort.failureIn` with
what failure. `Reader.brokeOff_of_run_getID` says what the members are when `GetID` fails there.
-/

namespace DoorAcs

open Cpp

variable {π : Type}

/-! ## What comes of an exchange -/

namespace SerialPort

variable (port : SerialPort π)

/-- The number of bytes written in the exchange of `frame` that finds the port in state `q`, if the
write returns. -/
def written? (frame : Str) (q : π) : Option ℕ :=
  match (port.write frame).run q with
  | .ok n _ => some n
  | .error _ _ => none

/-- The text read in that exchange, if the write and the read return. -/
def text? (frame : Str) (q : π) : Option Str :=
  match (port.write frame).run q with
  | .ok _ q₁ =>
    match (port.read maxResponseNumberOfBytes).run q₁ with
    | .ok text _ => some text
    | .error _ _ => none
  | .error _ _ => none

/-- The exchange that a poll breaks off in, if it does: its frame, and the port when it begins. -/
def brokenOff? (q : π) : Option (Str × π) :=
  match port.askSearch.run q with
  | .error _ _ => some (searchFrame, q)
  | .ok .noTag _ => none
  | .ok (.tag ..) q₁ =>
    match (port.askCard selectFileFrame).run q₁ with
    | .error _ _ => some (selectFileFrame, q₁)
    | .ok none _ => none
    | .ok (some select) q₂ =>
      if select.IsOk then
        match (port.askCard getResponseFrame).run q₂ with
        | .error _ _ => some (getResponseFrame, q₂)
        | .ok _ _ => none
      else none

/-- How the code behind an exchange of `frame` fails on bytes that it cannot parse. -/
def parseFailure (frame : Str) (bytes : List BYTE) : Failure Exception :=
  if frame = searchFrame then .exception (.runtimeError (SearchTagPacket.refusal bytes))
  else if TdxReply.Overruns bytes then .fault
  else .exception (.runtimeError (ApduReply.refusal bytes))

/-- How the exchange of `frame` that finds the port in state `q` fails, if it does. -/
def failureIn (frame : Str) (q : π) : Failure Exception :=
  match (port.write frame).run q with
  | .error e _ => .exception e
  | .ok _ q₁ =>
    match (port.read maxResponseNumberOfBytes).run q₁ with
    | .error e _ => .exception e
    | .ok text _ =>
      match Hex.decode text with
      | none => .exception invalidAsciiChar
      | some bytes => parseFailure frame bytes

/-- How a poll fails, if it breaks off. -/
def failure? (q : π) : Option (Failure Exception) :=
  (port.brokenOff? q).map fun exchange => port.failureIn exchange.1 exchange.2

/-- The text read in the exchange of `frame` makes the parser of its packet read outside the reply.
-/
def OverrunsIn (frame : Str) (q : π) : Prop :=
  ∃ text bytes, port.text? frame q = some text ∧ Hex.decode text = some bytes ∧
    TdxReply.Overruns bytes

/-- A poll breaks off in an exchange with the card whose reply declares more bytes than it has. -/
def Overruns (q : π) : Prop :=
  ∃ frame q₁, port.brokenOff? q = some (frame, q₁) ∧ frame ≠ searchFrame ∧
    port.OverrunsIn frame q₁

variable {port}

/-- What is not written is not answered. -/
theorem text?_eq_none_of_written?_eq_none {frame : Str} {q : π} (h : port.written? frame q = none) :
    port.text? frame q = none := by
  rw [written?] at h
  rw [text?]
  cases hwrite : (port.write frame).run q with
  | ok n q₁ =>
    rw [hwrite] at h
    cases h
  | error e q₁ => rfl

/-- The text of an exchange that gave bytes is not empty. -/
theorem exists_text?_of_run_ask {frame : Str} {q q' : π} {bytes : List BYTE}
    (h : (port.ask frame).run q = .ok bytes q') (hne : bytes ≠ []) :
    ∃ text, port.text? frame q = some text ∧ text ≠ [] := by
  obtain ⟨n, q₁, text, hwrite, hread, hdecode⟩ := run_ask_eq_ok_iff.mp h
  refine ⟨text, ?_, ?_⟩
  · rw [text?, hwrite]
    dsimp only
    rw [hread]
  · rintro rfl
    cases hdecode
    exact hne rfl

/-- An exchange with the card fails with a fault iff its reply declares more bytes than it has, and
a search never does. -/
theorem failureIn_eq_fault_iff {frame : Str} {q : π} :
    port.failureIn frame q = .fault ↔ frame ≠ searchFrame ∧ port.OverrunsIn frame q := by
  rw [failureIn, OverrunsIn, text?]
  cases (port.write frame).run q with
  | error e q₁ => simp
  | ok n q₁ =>
    dsimp only
    cases (port.read maxResponseNumberOfBytes).run q₁ with
    | error e q₂ => simp
    | ok text q₂ =>
      dsimp only
      cases hdecode : Hex.decode text with
      | none => simp [hdecode]
      | some bytes =>
        dsimp only [parseFailure]
        split_ifs with hframe hoverruns <;> simp [*]

/-- A poll fails with a fault iff it breaks off in an exchange with the card whose reply declares
more bytes than it has. -/
theorem failure?_eq_fault_iff {q : π} : port.failure? q = some .fault ↔ port.Overruns q := by
  simp only [failure?, Overruns, Option.map_eq_some_iff, failureIn_eq_fault_iff, Prod.exists]

/-- A poll that breaks off is no conversation. -/
theorem run_converse_of_brokenOff? {q q₁ : π} {frame : Str}
    (h : port.brokenOff? q = some (frame, q₁)) : ∃ q', port.converse.run q = .error () q' := by
  rw [brokenOff?] at h
  rw [converse, EStateM.run_bind]
  cases hsearch : port.askSearch.run q with
  | error e q' => exact ⟨q', rfl⟩
  | ok reply q₂ =>
    rw [hsearch] at h
    cases reply with
    | noTag => cases h
    | tag t bits n uid enough =>
      dsimp only at h ⊢
      rw [EStateM.run_bind, askHce, EStateM.run_bind]
      cases hselect : (port.askCard selectFileFrame).run q₂ with
      | error e q' => exact ⟨q', rfl⟩
      | ok select q₃ =>
        rw [hselect] at h
        cases select with
        | none => cases h
        | some select =>
          dsimp only at h ⊢
          split_ifs at h with hok
          rw [if_pos hok, EStateM.run_bind]
          cases hresponse : (port.askCard getResponseFrame).run q₃ with
          | error e q' => exact ⟨q', rfl⟩
          | ok response q₄ =>
            rw [hresponse] at h
            cases h

end SerialPort

/-- What the handler prints of the reader. -/
structure Diagnostics where
  dataString : Str
  writtenBytes : Int32
  responseString : Str
  deriving DecidableEq

namespace Diagnostics

/-- Behind an exchange. What has not come about of it is left as it was. -/
def behind (d : Diagnostics) (port : SerialPort π) (frame : Str) (q : π) : Diagnostics :=
  { dataString := frame
    writtenBytes := ((port.written? frame q).map Int32.ofNat).getD d.writtenBytes
    responseString := (port.text? frame q).getD d.responseString }

/-- Of an exchange alone. What has not come about of it is zero or empty. -/
def ofExchange (port : SerialPort π) (frame : Str) (q : π) : Diagnostics :=
  { dataString := frame
    writtenBytes := ((port.written? frame q).map Int32.ofNat).getD 0
    responseString := (port.text? frame q).getD [] }

/-- The reported members describe an exchange iff what it did not set was empty before. -/
theorem behind_eq_ofExchange_iff {d : Diagnostics} {port : SerialPort π} {frame : Str} {q : π} :
    d.behind port frame q = .ofExchange port frame q ↔
      (port.written? frame q = none → d.writtenBytes = 0) ∧
        (port.text? frame q = none → d.responseString = []) := by
  simp only [behind, ofExchange, Diagnostics.mk.injEq, true_and]
  apply and_congr
  · cases port.written? frame q <;> simp
  · cases port.text? frame q <;> simp

end Diagnostics

/-! ## The members behind an exchange -/

namespace Reader

variable {port : SerialPort π} {r r' : Reader π}

/-- What the handler prints of the reader. -/
def diagnostics (r : Reader π) : Diagnostics :=
  { dataString := r.dataString, writtenBytes := r.writtenBytes
    responseString := r.responseString }

/-- The exchange line by line: what is stored before the line that throws stays. -/
theorem run_exchange (frame : Str) (r : Reader π) :
    (exchange port frame).run r =
      match (port.write frame).run r.serialPort with
      | .error e q => .error (.exception e) { r with serialPort := q, dataString := frame }
      | .ok n q =>
        match (port.read maxResponseNumberOfBytes).run q with
        | .error e q =>
          .error (.exception e)
            { r with serialPort := q, dataString := frame, writtenBytes := .ofNat n }
        | .ok text q =>
          (Prog.lift (hexStringToBytes text)).run
            { r with
              serialPort := q, dataString := frame, writtenBytes := .ofNat n
              responseString := text } := by
  rw [exchange, Prog.run_modify_bind, EStateM.run_bind, onSerialPort, Prog.run_onField,
    Prog.run_ofThrowing]
  cases (port.write frame).run r.serialPort with
  | error e q => rfl
  | ok n q =>
    dsimp only
    rw [Prog.run_modify_bind, EStateM.run_bind, onSerialPort, Prog.run_onField,
      Prog.run_ofThrowing]
    dsimp only
    cases (port.read maxResponseNumberOfBytes).run q with
    | error e q => rfl
    | ok text q => rfl

/-- An exchange sets the members up to where it fails. -/
theorem diagnostics_exchange (frame : Str) (r : Reader π) :
    ((exchange port frame).finalState r).diagnostics =
      r.diagnostics.behind port frame r.serialPort := by
  rw [Prog.finalState, run_exchange, Diagnostics.behind, SerialPort.written?, SerialPort.text?]
  cases (port.write frame).run r.serialPort with
  | error e q => rfl
  | ok n q =>
    dsimp only
    cases (port.read maxResponseNumberOfBytes).run q with
    | error e q => rfl
    | ok text q =>
      dsimp only
      rcases hexStringToBytes text with f | bytes <;> rfl

/-- An exchange with code behind it that fails does so as the port and the bytes say. -/
theorem eq_failureIn_of_run_exchange {α : Type} {frame : Str} {f : Failure Exception}
    {k : List BYTE → Prog Exception (Reader π) α}
    (hk : ∀ {bytes r₁ f r'}, (k bytes).run r₁ = .error f r' →
      f = SerialPort.parseFailure frame bytes)
    (h : (exchange port frame >>= k).run r = .error f r') :
    f = port.failureIn frame r.serialPort := by
  rw [SerialPort.failureIn]
  rcases Prog.run_bind_eq_error.mp h with h | ⟨bytes, r₁, hok, h⟩
  · rw [run_exchange] at h
    cases hwrite : (port.write frame).run r.serialPort with
    | error e q =>
      rw [hwrite] at h
      cases h
      rfl
    | ok n q =>
      rw [hwrite] at h
      dsimp only at h ⊢
      cases hread : (port.read maxResponseNumberOfBytes).run q with
      | error e q =>
        rw [hread] at h
        cases h
        rfl
      | ok text q =>
        rw [hread] at h
        dsimp only at h ⊢
        rw [hexStringToBytes_eq] at h
        cases hdecode : Hex.decode text with
        | none =>
          rw [hdecode] at h
          cases h
          rfl
        | some bytes =>
          rw [hdecode] at h
          cases h
  · -- the exchange gave bytes
    obtain ⟨_, hask, rfl⟩ := (refines_exchange frame).of_run_eq_ok hok
    obtain ⟨n, q, text, hwrite, hread, hdecode⟩ := SerialPort.run_ask_eq_ok_iff.mp hask
    rw [hwrite]
    dsimp only
    rw [hread]
    dsimp only
    rw [hdecode]
    exact hk h

/-- `m` is an exchange of `frame`, with code behind it that parses the reply and leaves the reader
as it is. -/
def IsExchange {α : Type} (port : SerialPort π) (frame : Str) (m : Prog Exception (Reader π) α) :
    Prop :=
  ∃ k, m = exchange port frame >>= k ∧ ∀ bytes (I : Reader π → Prop), Prog.Preserves I (k bytes)

/-- The search is one exchange. -/
theorem isExchange_searchTag : IsExchange port searchFrame (searchTag port) :=
  ⟨_, rfl, fun _ _ => Prog.preserves_onLocal _ _⟩

/-- An exchange with the card, with the parser behind it. -/
theorem askCard_eq {α ρ : Type} [IsAPDUCommand α] (apduCommand : α)
    (new : Str → Except (Failure Exception) ρ) :
    askCard port apduCommand new = exchange port (apduPacket apduCommand).getData >>= fun bytes =>
      .onLocal (apduPacket apduCommand) (ISO14443_4_TDX_Packet.parseResponse bytes) >>=
        fun packet => if packet.result = true then do return some (← .lift (new packet.response))
          else return none := by
  rw [askCard, transmit, bind_assoc]
  rfl

/-- An exchange with the card is one exchange. -/
theorem isExchange_askCard {α ρ : Type} [IsAPDUCommand α] (apduCommand : α)
    (new : Str → Except (Failure Exception) ρ) :
    IsExchange port (apduPacket apduCommand).getData (askCard port apduCommand new) := by
  refine ⟨_, askCard_eq apduCommand new, fun bytes I => ?_⟩
  refine Prog.preserves_bind (Prog.preserves_onLocal _ _) fun packet => ?_
  refine Prog.preserves_ite ?_ (Prog.preserves_pure _)
  exact Prog.preserves_bind (Prog.preserves_lift _) fun _ => Prog.preserves_pure _

namespace IsExchange

variable {α : Type} {frame : Str} {m : Prog Exception (Reader π) α}

/-- Code that makes one exchange sets the members as that does. -/
theorem diagnostics_finalState (hm : IsExchange port frame m) (r : Reader π) :
    (m.finalState r).diagnostics = r.diagnostics.behind port frame r.serialPort := by
  obtain ⟨k, rfl, hk⟩ := hm
  rw [Prog.finalState_bind_of_preserves hk, diagnostics_exchange]

/-- Behind an exchange that gave bytes the reader holds a text. -/
theorem responseString_ne_nil (hm : IsExchange port frame m) {a : α}
    (h : m.run r = .ok a r') {bytes : List BYTE} {q : π}
    (hask : (port.ask frame).run r.serialPort = .ok bytes q) (hne : bytes ≠ []) :
    r'.diagnostics.responseString ≠ [] := by
  obtain ⟨text, htext, hnil⟩ := SerialPort.exists_text?_of_run_ask hask hne
  rw [← Prog.finalState_of_ok h, hm.diagnostics_finalState, Diagnostics.behind, htext]
  exact hnil

end IsExchange

/-! ## Where `GetID` fails -/

/-- One of the exchanges of `GetID`, of `frame` and begun with `r₁`, failed with `f` and `r'`. -/
inductive FailedExchange (port : SerialPort π) (r₁ : Reader π) (f : Failure Exception)
    (r' : Reader π) : Str → Prop where
  | search (h : (searchTag port).run r₁ = .error f r') : FailedExchange port r₁ f r' searchFrame
  | selectFile (h : (askCard port (SelectFileAPDUCommand.new hceServiceAid)
      SelectFileAPDUResponse.new).run r₁ = .error f r') :
      FailedExchange port r₁ f r' selectFileFrame
  | getResponse (h : (askCard port GetResponseAPDUCommand.new
      GetResponseAPDUResponse.new).run r₁ = .error f r') :
      FailedExchange port r₁ f r' getResponseFrame

/-- Behind a search that found a tag, an exchange with the card fails. -/
theorem exists_failedExchange_of_run_readHceId {t bits n : BYTE} {uid : List BYTE} {enough}
    {r₁ : Reader π} {id : Str} {f : Failure Exception}
    (hsearch : port.askSearch.run r.serialPort = .ok (.tag t bits n uid enough) r₁.serialPort)
    (htext : r₁.diagnostics.responseString ≠ [])
    (h : (readHceId port id).run r₁ = .error f r') :
    ∃ frame r₂, port.brokenOff? r.serialPort = some (frame, r₂.serialPort) ∧
      FailedExchange port r₂ f r' frame ∧ frame ≠ searchFrame ∧
      r₂.diagnostics.responseString ≠ [] := by
  have hrefines₁ : Prog.Refines serialPort _ _ (port.askCard selectFileFrame) :=
    refines_askCard (SelectFileAPDUCommand.new hceServiceAid) agrees_selectFileResponse
  have hrefines₂ : Prog.Refines serialPort _ _ (port.askCard getResponseFrame) :=
    refines_askCard GetResponseAPDUCommand.new agrees_getResponseResponse
  rw [readHceId_eq] at h
  rcases Prog.run_bind_eq_error.mp h with hselect | ⟨response, r₂, hselect, h⟩
  · refine ⟨selectFileFrame, r₁, ?_, .selectFile hselect, by decide, htext⟩
    rw [SerialPort.brokenOff?, hsearch]
    dsimp only
    rw [hrefines₁.of_run_eq_error hselect]
  obtain ⟨answer, hanswer, hstatus⟩ := hrefines₁.of_run_eq_ok hselect
  cases hstatus with
  | none => cases h
  | @some response select hstatus =>
    dsimp only at h
    rw [Prog.run_ite] at h
    split_ifs at h with hok
    · rcases Prog.run_bind_eq_error.mp h with hresponse | ⟨found, r₃, hresponse, h⟩
      · rw [hstatus, APDUResponse.encode_status_eq_ok_iff] at hok
        refine ⟨getResponseFrame, r₂, ?_, .getResponse hresponse, by decide, ?_⟩
        · rw [SerialPort.brokenOff?, hsearch]
          dsimp only
          rw [hanswer]
          dsimp only
          rw [if_pos hok, hrefines₂.of_run_eq_error hresponse]
        · -- the reply to SELECT FILE was not empty
          have hexchange : IsExchange port selectFileFrame
              (askCard port (SelectFileAPDUCommand.new hceServiceAid) SelectFileAPDUResponse.new) :=
            isExchange_askCard _ _
          obtain ⟨bytes, hask, hbytes⟩ := SerialPort.run_askCard_eq_ok_iff.mp hanswer
          exact hexchange.responseString_ne_nil hselect hask (by rintro rfl; cases hbytes)
      · -- the returns behind the last exchange do not fail
        cases found <;> cases h
    · cases h

/-- If `GetID` fails, it fails in the exchange that the poll breaks off in. Before a search the
members are those it began with, before another exchange they hold a text. -/
theorem exists_failedExchange_of_run_getID {f : Failure Exception}
    (h : (getID port).run r = .error f r') :
    ∃ frame r₁, port.brokenOff? r.serialPort = some (frame, r₁.serialPort) ∧
      FailedExchange port r₁ f r' frame ∧
      if frame = searchFrame then r₁.diagnostics = r.diagnostics
        else r₁.diagnostics.responseString ≠ [] := by
  rw [getID, print, Prog.run_modify_bind] at h
  -- the message changes neither the port nor the members
  set r₀ : Reader π := { r with cout := r.cout ++ [.searching] }
  rcases Prog.run_bind_eq_error.mp h with hsearch | ⟨packet, r₁, hsearch, h⟩
  · refine ⟨searchFrame, r₀, ?_, .search hsearch, by rw [if_pos rfl]; rfl⟩
    rw [SerialPort.brokenOff?, ← show r₀.serialPort = r.serialPort from rfl,
      refines_searchTag.of_run_eq_error hsearch]
  obtain ⟨reply, hreply, rfl⟩ := refines_searchTag.of_run_eq_ok hsearch
  cases reply with
  | noTag => cases h
  | tag t bits n uid enough =>
    obtain ⟨bytes, hask, hbytes⟩ := SerialPort.run_askSearch_eq_ok_iff.mp hreply
    have htext := isExchange_searchTag.responseString_ne_nil hsearch hask
      (by rintro rfl; cases hbytes)
    rcases Prog.run_bind_eq_error.mp h with hhce | ⟨found, r₂, hhce, h⟩
    · obtain ⟨frame, r₂, hbroken, hfailed, hframe, hresponse⟩ :=
        exists_failedExchange_of_run_readHceId (r := r₀) hreply htext hhce
      exact ⟨frame, r₂, hbroken, hfailed, by rwa [if_neg hframe]⟩
    · -- the message about the id and the return behind it do not fail
      cases h

/-! ### The failure -/

/-- A search fails as its exchange and its parser do. -/
theorem eq_failureIn_of_run_searchTag {f : Failure Exception}
    (h : (searchTag port).run r = .error f r') : f = port.failureIn searchFrame r.serialPort := by
  refine eq_failureIn_of_run_exchange (fun {bytes r₁ f r'} h => ?_) h
  rw [SerialPort.parseFailure, if_pos rfl]
  cases hreply : SearchReply.ofBytes? bytes with
  | some reply =>
    rw [Prog.run_onLocal_eq_ok.mpr
      ⟨⟨(), SearchTagPacket.run_parseResponse_of_some _ hreply⟩, rfl⟩] at h
    cases h
  | none =>
    obtain ⟨p, herror⟩ := SearchTagPacket.run_parseResponse_of_none (.new 16) hreply
    cases (Prog.run_onLocal_of_error herror).symm.trans h
    rfl

/-- The bytes of an exchange with the card are parsed by its packet, and the response is cut. -/
theorem eq_failureIn_of_run_askCard {α ρ : Type} [IsAPDUCommand α] {apduCommand : α}
    {new : Str → Except (Failure Exception) ρ} {f : Failure Exception}
    (hframe : (apduPacket apduCommand).getData ≠ searchFrame)
    (hnew : ∀ {payload f}, new (Hex.encode payload) = .error f →
      f = .exception (.runtimeError "APDUResponse invalid response"))
    (h : (askCard port apduCommand new).run r = .error f r') :
    f = port.failureIn (apduPacket apduCommand).getData r.serialPort := by
  rw [askCard_eq] at h
  refine eq_failureIn_of_run_exchange (fun {bytes r₁ f r'} h => ?_) h
  rw [SerialPort.parseFailure, if_neg hframe, ApduReply.refusal]
  cases hreply : TdxReply.ofBytes? bytes with
  | none =>
    by_cases hoverruns : TdxReply.Overruns bytes
    · obtain ⟨p, hfault⟩ :=
        ISO14443_4_TDX_Packet.run_parseResponse_of_overruns (apduPacket apduCommand) hoverruns
      cases (Prog.run_bind_of_error (Prog.run_onLocal_of_error hfault)).symm.trans h
      rw [if_pos hoverruns]
    · obtain ⟨error, herror⟩ := ISO14443_4_TDX_Packet.run_parseResponse_of_none
        (apduPacket apduCommand) hreply hoverruns
      cases (Prog.run_bind_of_error (Prog.run_onLocal_of_error herror)).symm.trans h
      rw [if_neg hoverruns]
      rfl
  | some reply =>
    -- what is left is cutting the response
    have hoverruns : ¬ TdxReply.Overruns bytes := fun hoverruns => by
      cases (TdxReply.ofBytes?_of_overruns hoverruns).symm.trans hreply
    rw [if_neg hoverruns]
    rw [Prog.run_bind_of_ok (Prog.run_onLocal_eq_ok.mpr
      ⟨⟨(), ISO14443_4_TDX_Packet.run_parseResponse_of_some _ hreply⟩, rfl⟩), Prog.run_ite] at h
    split_ifs at h
    · rcases Prog.run_bind_eq_error.mp h with hcut | ⟨response, r₂, -, h⟩
      · change (Prog.lift (new (Hex.encode reply.payload))).run r₁ = .error f r' at hcut
        cases hcase : new (Hex.encode reply.payload) with
        | ok response =>
          rw [hcase] at hcut
          cases hcut
        | error e =>
          rw [hcase] at hcut
          cases hcut
          exact hnew hcase
      · cases h
    · cases h

/-- The failure is that of the exchange. -/
theorem FailedExchange.eq_failureIn {r₁ : Reader π} {f : Failure Exception} {frame : Str}
    (h : FailedExchange port r₁ f r' frame) : f = port.failureIn frame r₁.serialPort := by
  have hnew {apduCommandType : APDUCommandType} {payload : List BYTE} {f : Failure Exception}
      (h : APDUResponse.new apduCommandType (Hex.encode payload) = .error f) :
      f = .exception (.runtimeError "APDUResponse invalid response") :=
    (APDUResponse.eq_of_new_encode_eq_error h).2
  cases h with
  | search h => exact eq_failureIn_of_run_searchTag h
  | selectFile h =>
    exact eq_failureIn_of_run_askCard (by decide) (fun h => hnew (eq_error_of_bind_pure h)) h
  | getResponse h =>
    exact eq_failureIn_of_run_askCard (by decide) (fun h => hnew (eq_error_of_bind_pure h)) h

/-- `GetID` fails as the port says. -/
theorem failure?_of_run_getID {f : Failure Exception} (h : (getID port).run r = .error f r') :
    port.failure? r.serialPort = some f := by
  obtain ⟨frame, r₁, hbroken, hfailed, -⟩ := exists_failedExchange_of_run_getID h
  rw [SerialPort.failure?, hbroken, Option.map_some, ← hfailed.eq_failureIn]

/-- So a poll that breaks off has a failure. -/
theorem exists_failure?_of_run_converse {q q' : π} (h : port.converse.run q = .error () q') :
    ∃ f, port.failure? q = some f := by
  obtain ⟨f, r', hrun, -⟩ := refines_getID.exists_error (s := start q) h
  exact ⟨f, failure?_of_run_getID hrun⟩

/-! ### The members -/

/-- `GetID` began with `r` and failed with `f` and `r'`: the poll breaks off in an exchange, and the
members are those behind it. Before a search they were those of `r`, before another exchange they
held a text. -/
def BrokeOff (port : SerialPort π) (r r' : Reader π) (f : Failure Exception) : Prop :=
  ∃ frame q d, port.brokenOff? r.serialPort = some (frame, q) ∧
    r'.diagnostics = d.behind port frame q ∧
    (f = .fault → port.text? frame q ≠ none) ∧
    if frame = searchFrame then d = r.diagnostics else d.responseString ≠ []

/-- The members are set as the failed exchange does. -/
theorem FailedExchange.diagnostics_eq {r₁ : Reader π} {f : Failure Exception} {frame : Str}
    (h : FailedExchange port r₁ f r' frame) :
    r'.diagnostics = r₁.diagnostics.behind port frame r₁.serialPort := by
  have hmembers {α : Type} {frame : Str} {m : Prog Exception (Reader π) α}
      (hm : IsExchange port frame m) (h : m.run r₁ = .error f r') :
      r'.diagnostics = r₁.diagnostics.behind port frame r₁.serialPort := by
    rw [← Prog.finalState_of_error h]
    exact hm.diagnostics_finalState r₁
  cases h with
  | search h => exact hmembers isExchange_searchTag h
  | selectFile h => exact hmembers (isExchange_askCard _ _) h
  | getResponse h => exact hmembers (isExchange_askCard _ _) h

/-- A poll that fails broke off in one of its exchanges. -/
theorem brokeOff_of_run_getID {f : Failure Exception}
    (h : (getID port).run r = .error f r') : BrokeOff port r r' f := by
  obtain ⟨frame, r₁, hbroken, hfailed, hbefore⟩ := exists_failedExchange_of_run_getID h
  refine ⟨frame, r₁.serialPort, r₁.diagnostics, hbroken, hfailed.diagnostics_eq, ?_, hbefore⟩
  -- a read outside a reply needs a reply
  rintro rfl
  obtain ⟨-, text, bytes, htext, -⟩ :=
    SerialPort.failureIn_eq_fault_iff.mp hfailed.eq_failureIn.symm
  rw [htext]
  exact Option.some_ne_none text

/-! ### Faults -/

/-- If `GetID` fails, it ends with a fault iff a reply of the card declares more bytes than it has.
-/
theorem eq_fault_iff_of_run_getID {f : Failure Exception} (h : (getID port).run r = .error f r') :
    f = .fault ↔ port.Overruns r.serialPort := by
  rw [← SerialPort.failure?_eq_fault_iff, failure?_of_run_getID h, Option.some_inj]

/-- `GetID` reads outside a reply exactly if the poll breaks off in an exchange with the card whose
reply declares more bytes than it has. -/
theorem getID_faults_iff (port : SerialPort π) (r : Reader π) :
    (∃ r', (getID port).run r = .error .fault r') ↔ port.Overruns r.serialPort := by
  constructor
  · rintro ⟨r', h⟩
    exact (eq_fault_iff_of_run_getID h).mp rfl
  · intro hoverruns
    have ⟨frame, q, hbroken, _⟩ := hoverruns
    obtain ⟨q', hconverse⟩ := SerialPort.run_converse_of_brokenOff? hbroken
    obtain ⟨f, r', hrun, -⟩ := refines_getID.exists_error hconverse
    rw [(eq_fault_iff_of_run_getID hrun).mpr hoverruns] at hrun
    exact ⟨r', hrun⟩

end Reader

end DoorAcs
