import DoorAcs.APDUCommand

/-!
# Packets

The classes of `Packet.cpp`. A packet is built from the parameters of a request, gives the frame
to send (`getData`) and takes the decoded reply (`parseResponse`). A getter that returns a field
is that field.

Replies are read element by element with `elementAt`, so an index past the end of the reply is a
fault, as it is undefined behaviour in the source.
-/

namespace DoorAcs

open Cpp

/-- `Packet` -/
structure Packet where
  packetType : PacketType
  commandNumber : Str
  packetResponseErrorType : PacketResponseErrorType
  deriving DecidableEq, Repr

namespace Packet

/-- `Packet::Packet` -/
def new (packetType : PacketType) (commandNumber : Str) : Packet :=
  { packetType, commandNumber, packetResponseErrorType := .errNone }

/-- `Packet::ParseResponse`: parses the error byte. -/
def parseResponse (response : List BYTE) : Prog Exception Packet Unit :=
  -- the response has to be at least 1 byte long
  if response.length < 1 then .raise (.runtimeError "Packet invalid response")
  else do
    let error ← .lift (elementAt response 0)
    -- stored before it is checked, so it stays when the packet throws
    modify fun p => { p with packetResponseErrorType := ⟨error⟩ }
    if (← get).packetResponseErrorType ≠ .errNone then
      .raise (.runtimeError "Packet error response type")

end Packet

/-! ## Searching a tag -/

/-- `SearchTagPacket` -/
structure SearchTagPacket extends Packet where
  maxIdBytes : BYTE
  result : Bool
  tagType : TagType
  idBitCount : BYTE
  idByteCount : BYTE
  id : Str
  deriving DecidableEq, Repr

namespace SearchTagPacket

/-- `SearchTagPacket::SearchTagPacket` -/
def new (maxIdBytes : BYTE) : SearchTagPacket :=
  { toPacket := Packet.new .searchTag commandNumberSearchTag
    maxIdBytes, result := false, tagType := .noTag, idBitCount := 0, idByteCount := 0, id := [] }

/-- `SearchTagPacket::GetData` -/
def getData (p : SearchTagPacket) : Str :=
  ({} : StringStream).putString p.commandNumber
    |>.hex |>.setfill '0' |>.uppercase
    |>.setw 2 |>.putNat (p.maxIdBytes.toNat &&& 0xFF)
    |>.putChar packetCarriegeReturn
    |>.str

/-- `response.size() < 2 || response[0] != 0 || response[1] == 0 && response.size() != 2`: a later
operand is evaluated only if the earlier ones leave the condition open. -/
def isInvalid (response : List BYTE) : Except (Failure Exception) Bool := do
  if response.length < 2 then return true
  else if (← elementAt response 0) ≠ 0 then return true
  else if (← elementAt response 1) = 0 then return response.length ≠ 2
  else return false

/-- `SearchTagPacket::ParseResponse` -/
def parseResponse (response : List BYTE) : Prog Exception SearchTagPacket Unit := do
  .onField toPacket (fun p base => { p with toPacket := base }) (Packet.parseResponse response)
  -- the response has to be at least 2 bytes long
  if ← .lift (isInvalid response) then
    .raise (.runtimeError "SearchTagPacket invalid response")
  else do
    let found ← .lift (elementAt response 1)
    modify fun p => { p with result := found ≠ 0 }
    if (← get).result = false then
      -- no tag found
      return ()
    else if response.length < 5 then
      .raise (.runtimeError "SearchTagPacket invalid response - tag found")
    else do
      let tagType ← .lift (elementAt response 2)
      modify fun p => { p with tagType := .ofByte tagType }
      let idBitCount ← .lift (elementAt response 3)
      modify fun p => { p with idBitCount := idBitCount }
      let idByteCount ← .lift (elementAt response 4)
      modify fun p => { p with idByteCount := idByteCount }
      if response.length < (← get).idByteCount.toNat + 5 then
        .raise (.runtimeError "SearchTagPacket invalid response - tag length")
      else
        -- from the end of the count byte to the end of the response
        let idBytes := response.drop 5
        modify fun p => { p with id := vectorToStringCompact idBytes }

end SearchTagPacket

/-! ## Choosing tag types -/

/-- `SetTagTypesPacket` -/
structure SetTagTypesPacket extends Packet where
  lf : TagType
  hf : TagType
  deriving DecidableEq, Repr

namespace SetTagTypesPacket

/-- `SetTagTypesPacket::SetTagTypesPacket` -/
def new (lf hf : TagType) : SetTagTypesPacket :=
  { toPacket := Packet.new .setTagTypes commandNumberSetTagTypes, lf, hf }

/-- `SetTagTypesPacket::GetData` -/
def getData (p : SetTagTypesPacket) : Str :=
  ({} : StringStream).putString p.commandNumber
    |>.hex |>.setfill '0' |>.uppercase
    -- LF
    |>.setw 2 |>.putNat (p.lf.value &&& 0xFF).toNat
    |>.setw 2 |>.putNat ((p.lf.value &&& 0xFF00) >>> 8).toNat
    |>.setw 2 |>.putNat ((p.lf.value &&& 0xFF0000) >>> 16).toNat
    |>.setw 2 |>.putNat ((p.lf.value &&& 0xFF000000) >>> 24).toNat
    -- HF
    |>.setw 2 |>.putNat (p.hf.value &&& 0xFF).toNat
    |>.setw 2 |>.putNat ((p.hf.value &&& 0xFF00) >>> 8).toNat
    |>.setw 2 |>.putNat ((p.hf.value &&& 0xFF0000) >>> 16).toNat
    |>.setw 2 |>.putNat ((p.hf.value &&& 0xFF000000) >>> 24).toNat
    |>.putChar packetCarriegeReturn
    |>.str

/-- `SetTagTypesPacket::ParseResponse` -/
def parseResponse (response : List BYTE) : Prog Exception SetTagTypesPacket Unit := do
  .onField toPacket (fun p base => { p with toPacket := base }) (Packet.parseResponse response)
  -- the response contains only the error byte
  if response.length ≠ 1 then
    .raise (.runtimeError "SetTagTypesPacket invalid response")

end SetTagTypesPacket

/-! ## Exchanging data with a card -/

/-- `ISO14443_4_TDX_Packet` -/
structure ISO14443_4_TDX_Packet extends Packet where
  payloadSize : BYTE
  payload : Str
  maximumResponseSize : BYTE
  result : Bool
  actualResponseSize : BYTE
  response : Str
  deriving DecidableEq, Repr

namespace ISO14443_4_TDX_Packet

/-- `ISO14443_4_TDX_Packet::ISO14443_4_TDX_Packet(BYTE, const string&, BYTE)` -/
def new (payloadSize : BYTE) (payload : Str) (maximumResponseSize : BYTE) :
    ISO14443_4_TDX_Packet :=
  { toPacket := Packet.new .iso14443_4_TDX commandNumberISO14443_4_TDX
    payloadSize, payload, maximumResponseSize
    result := false, actualResponseSize := 0, response := [] }

/-- `ISO14443_4_TDX_Packet::ISO14443_4_TDX_Packet(const APDUCommand&, BYTE)` -/
def ofAPDUCommand {α : Type} [IsAPDUCommand α] (apduCommand : α) (maximumResponseSize : BYTE) :
    ISO14443_4_TDX_Packet :=
  new (IsAPDUCommand.base apduCommand).getPayloadSize (IsAPDUCommand.getPayload apduCommand)
    maximumResponseSize

/-- `ISO14443_4_TDX_Packet::GetData` -/
def getData (p : ISO14443_4_TDX_Packet) : Str :=
  ({} : StringStream).putString p.commandNumber
    |>.hex |>.setfill '0' |>.uppercase
    |>.setw 2 |>.putNat (p.payloadSize.toNat &&& 0xFF)
    |>.putString p.payload
    |>.setw 2 |>.putNat (p.maximumResponseSize.toNat &&& 0xFF)
    |>.putChar packetCarriegeReturn
    |>.str

/-- `ISO14443_4_TDX_Packet::ParseResponse` -/
def parseResponse (response : List BYTE) : Prog Exception ISO14443_4_TDX_Packet Unit := do
  .onField toPacket (fun p base => { p with toPacket := base }) (Packet.parseResponse response)
  -- the response has to be at least 3 bytes long
  if response.length < 3 then
    .raise (.runtimeError "ISO14443_4_TDX_Packet invalid response")
  else do
    let result ← .lift (elementAt response 1)
    modify fun p => { p with result := result ≠ 0 }
    let actualResponseSize ← .lift (elementAt response 2)
    modify fun p => { p with actualResponseSize := actualResponseSize }
    -- the loop runs up to the declared size, whatever the size of the response
    let responseBytes ← .lift ((List.range (← get).actualResponseSize.toNat).mapM fun i =>
      elementAt response (i + 3))
    modify fun p => { p with response := vectorToStringCompact responseBytes }

end ISO14443_4_TDX_Packet

end DoorAcs
