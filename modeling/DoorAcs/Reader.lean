import DoorAcs.APDUResponse
import DoorAcs.Packet
import DoorAcs.SerialPort.Interface

/-!
# The reader

`Reader.cpp` over an arbitrary serial port. The constructor of the port itself, which runs before
the body of the reader's, is in `SerialPort.Serial`.
-/

namespace DoorAcs

open Cpp

/-! ## The console -/

/-- What the program prints to `std::cout`, one constructor for each kind of message. -/
inductive ConsoleLine where
  | serialPortOpened
  | searching
  | hceServiceId (id : Str)
  | tagId (id : Str)
  | accessGranted
  | accessDenied
  | exceptionReport (sentData : Str) (writtenBytes : Int32) (responseData : Str) (what : String)
  | blank
  deriving DecidableEq, Repr

/-- The text of a message. -/
def ConsoleLine.text : ConsoleLine → Str
  | .serialPortOpened => "Serial port opened successfully...\n".toList
  | .searching => "Searching...\n".toList
  | .hceServiceId id => "HCE Service ID = ".toList ++ id ++ ['\n']
  | .tagId id => "Tag ID = ".toList ++ id ++ ['\n']
  | .accessGranted => "Access granted!\n".toList
  | .accessDenied => "Access denied!\n".toList
  | .exceptionReport sentData writtenBytes responseData what =>
    "\n--- EXCEPTION!! ---\n".toList ++
    "Sent data = ".toList ++ sentData ++ ['\n'] ++
    "Number of bytes written = ".toList ++ (toString writtenBytes).toList ++ ['\n'] ++
    "Response data = ".toList ++ responseData ++ ['\n'] ++
    what.toList ++ ['\n']
  | .blank => ['\n']

/-- No other message has the text that grants access. -/
theorem ConsoleLine.text_eq_accessGranted_iff {line : ConsoleLine} :
    line.text = "Access granted!\n".toList ↔ line = .accessGranted := by
  constructor
  · intro h
    -- the first character or the eighth tells the messages apart
    have hfirst : line.text[0]? = some 'A' := by rw [h]; rfl
    have heighth : line.text[7]? = some 'g' := by rw [h]; rfl
    cases line with
    | accessGranted => rfl
    | accessDenied => exact absurd heighth (show some 'd' ≠ some 'g' by decide)
    | serialPortOpened | searching => exact absurd hfirst (show some 'S' ≠ some 'A' by decide)
    | hceServiceId id => exact absurd hfirst (show some 'H' ≠ some 'A' by decide)
    | tagId id => exact absurd hfirst (show some 'T' ≠ some 'A' by decide)
    | exceptionReport | blank => exact absurd hfirst (show some '\n' ≠ some 'A' by decide)
  · rintro rfl
    rfl

/-- `Reader`, with the messages printed so far. -/
structure Reader (π : Type) where
  serialPort : π
  dataString : Str
  writtenBytes : Int32
  responseString : Str
  cout : List ConsoleLine

namespace Reader

variable {π : Type}

/-- The members before the constructor runs. -/
def start (serialPort : π) : Reader π :=
  { serialPort, dataString := [], writtenBytes := 0, responseString := [], cout := [] }

/-- `std::cout << …` -/
def print (line : ConsoleLine) : Prog Exception (Reader π) PUnit :=
  modify fun r => { r with cout := r.cout ++ [line] }

/-- Use an operation of the serial port. -/
def onSerialPort {α : Type} (m : EStateM Exception π α) : Prog Exception (Reader π) α :=
  .onField serialPort (fun r q => { r with serialPort := q }) (.ofThrowing m)

/-- `Reader::FlushSerialPort` -/
def flushSerialPort (port : SerialPort π) : Prog Exception (Reader π) Unit :=
  onSerialPort port.flush

/-- `Reader::InitialiseSerialPort` -/
def initialiseSerialPort (port : SerialPort π) : Prog Exception (Reader π) Unit := do
  -- set the timeouts, which may throw
  let timeout := port.getTimeout (← get).serialPort
  onSerialPort (port.setTimeout { timeout with interByteTimeout := 0 })
  -- open the serial port
  if port.isOpen (← get).serialPort then
    print .serialPortOpened
    -- flush input and output of the serial port
    flushSerialPort port
  else
    .raise (.runtimeError "Serial port failed to open.")

/-- The body of `Reader::Reader`. Its `written_bytes_` and `response_string_` are local variables
that hide the members. -/
def construct (port : SerialPort π) : Prog Exception (Reader π) Unit := do
  initialiseSerialPort port
  -- send `SetTagTypesPacket`
  let setTagTypes := SetTagTypesPacket.new .noTag .allTags
  let _writtenBytes ← onSerialPort (port.write setTagTypes.getData)
  let responseString ← onSerialPort (port.read maxResponseNumberOfBytes)
  let responseBytes ← .lift (hexStringToBytes responseString)
  let _ ← .onLocal setTagTypes (SetTagTypesPacket.parseResponse responseBytes)

/-! ## GetID -/

/-- The lines `GetID` repeats for each packet: send the frame, read the reply and decode it. -/
def exchange (port : SerialPort π) (frame : Str) : Prog Exception (Reader π) (List BYTE) := do
  -- the members keep what they hold when `write` or `read` throws
  modify fun r => { r with dataString := frame }
  let writtenBytes ← onSerialPort (port.write frame)
  modify fun r => { r with writtenBytes := .ofNat writtenBytes }
  let responseString ← onSerialPort (port.read maxResponseNumberOfBytes)
  modify fun r => { r with responseString := responseString }
  .lift (hexStringToBytes responseString)

/-- Send `SearchTagPacket` and parse the reply. -/
def searchTag (port : SerialPort π) : Prog Exception (Reader π) SearchTagPacket := do
  let packet := SearchTagPacket.new 16
  let responseBytes ← exchange port packet.getData
  .onLocal packet (SearchTagPacket.parseResponse responseBytes)

/-- Send an APDU command in an `ISO14443_4_TDX_Packet` and parse the reply. -/
def transmit {α : Type} [IsAPDUCommand α] (port : SerialPort π) (apduCommand : α) :
    Prog Exception (Reader π) ISO14443_4_TDX_Packet := do
  let packet := ISO14443_4_TDX_Packet.ofAPDUCommand apduCommand
    (UInt8.ofNat maxResponseNumberOfBytes)
  let responseBytes ← exchange port packet.getData
  .onLocal packet (ISO14443_4_TDX_Packet.parseResponse responseBytes)

/-- The part of `GetID` behind the search: the id of the HCE service if a phone answers, else
`id`; and whether HCE was used. -/
def readHceId (port : SerialPort π) (id : Str) : Prog Exception (Reader π) (Str × Bool) := do
  let selectFile ← transmit port (SelectFileAPDUCommand.new hceServiceAid)
  -- parse the SELECT FILE response only when the command was sent successfully
  if selectFile.result = true then
    let selectFileResponse ← .lift (SelectFileAPDUResponse.new selectFile.response)
    -- check if the phone responded with the status OK
    if selectFileResponse.status = apduStatusOk then
      let getResponse ← transmit port GetResponseAPDUCommand.new
      -- parse the GET RESPONSE response only when the command was sent successfully
      if getResponse.result = true then
        let getResponseResponse ← .lift (GetResponseAPDUResponse.new getResponse.response)
        -- the status word of this response is not looked at
        return (getResponseResponse.id, true)
      else return (id, false)
    else return (id, false)
  else return (id, false)

/-- `Reader::GetID` -/
def getID (port : SerialPort π) : Prog Exception (Reader π) Str := do
  print .searching
  let searchTag ← searchTag port
  -- no tag or card found
  if searchTag.result = false then return []
  else
    let (id, wasHceUsed) ← readHceId port searchTag.id
    print (if wasHceUsed then .hceServiceId id else .tagId id)
    return id

end Reader

end DoorAcs
