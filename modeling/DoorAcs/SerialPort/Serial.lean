import DoorAcs.Cpp.Scope
import DoorAcs.SerialPort.Interface
import DoorAcs.SerialPort.Windows

/-!
# The serial library

`serial.cc` and `win.cc` over arbitrary Windows calls. `SerialImpl ω` is the object behind a
`serial::Serial`, with the system around it and the log of the calls it has made. The functions of
`SerialImpl` are in its namespace, those of `Serial`, which add the scoped locks, in `Serial`.
A function that only reads a member is that member.
-/

namespace DoorAcs

open Cpp

variable {ω : Type}

/-! ## Settings -/

/-- `bytesize_t` -/
structure Bytesize where
  value : UInt32
  deriving DecidableEq, Repr

/-- `parity_t` -/
structure Parity where
  value : UInt32
  deriving DecidableEq, Repr

/-- `stopbits_t` -/
structure Stopbits where
  value : UInt32
  deriving DecidableEq, Repr

/-- `flowcontrol_t` -/
structure Flowcontrol where
  value : UInt32
  deriving DecidableEq, Repr

/-- `fivebits` -/
def Bytesize.fivebits : Bytesize := ⟨5⟩

/-- `sixbits` -/
def Bytesize.sixbits : Bytesize := ⟨6⟩

/-- `sevenbits` -/
def Bytesize.sevenbits : Bytesize := ⟨7⟩

/-- `eightbits` -/
def Bytesize.eightbits : Bytesize := ⟨8⟩

/-- `parity_none` -/
def Parity.none : Parity := ⟨0⟩

/-- `parity_odd` -/
def Parity.odd : Parity := ⟨1⟩

/-- `parity_even` -/
def Parity.even : Parity := ⟨2⟩

/-- `parity_mark` -/
def Parity.mark : Parity := ⟨3⟩

/-- `parity_space` -/
def Parity.space : Parity := ⟨4⟩

/-- `stopbits_one` -/
def Stopbits.one : Stopbits := ⟨1⟩

/-- `stopbits_two` -/
def Stopbits.two : Stopbits := ⟨2⟩

/-- `stopbits_one_point_five` -/
def Stopbits.onePointFive : Stopbits := ⟨3⟩

/-- `flowcontrol_none` -/
def Flowcontrol.none : Flowcontrol := ⟨0⟩

/-- `flowcontrol_software` -/
def Flowcontrol.software : Flowcontrol := ⟨1⟩

/-- `flowcontrol_hardware` -/
def Flowcontrol.hardware : Flowcontrol := ⟨2⟩

/-- The members that the settings of the port are made of. -/
structure Settings where
  timeout : Timeout
  baudrate : UInt32
  parity : Parity
  bytesize : Bytesize
  stopbits : Stopbits
  flowcontrol : Flowcontrol
  deriving DecidableEq, Repr

/-! ## The object -/

/-- `Serial::SerialImpl`, with the state of the system and the calls made so far. -/
structure SerialImpl (ω : Type) where
  port : Str
  /-- `INVALID_HANDLE_VALUE` if it is missing. -/
  fd : Option Handle
  isOpen : Bool
  settings : Settings
  os : ω
  calls : List ApiCall

/-- `IOException`, thrown in a line of `win.cc`. -/
def ioException (line : ℕ) (description : String) : Exception :=
  .serial ("IO Exception: " ++ description ++ ", file include\\serial\\impl\\win.cc, line " ++
    toString line ++ ".")

/-- `PortNotOpenedException` -/
def portNotOpenedException (description : String) : Exception :=
  .serial ("PortNotOpenedException " ++ description ++ " failed.")

/-- `SerialException` -/
def serialException (description : String) : Exception :=
  .serial ("SerialException " ++ description ++ " failed.")

namespace SerialImpl

/-- The object behind more calls, which left the system in the state `os`. -/
def behind (s : SerialImpl ω) (os : ω) (calls : List ApiCall) : SerialImpl ω :=
  { s with os, calls := s.calls ++ calls }

/-- Make a call and log it. -/
def call {α : Type} (f : StateM ω α) (entry : α → ApiCall) : Prog Exception (SerialImpl ω) α :=
  fun s => .ok (f.run s.os).1 (s.behind (f.run s.os).2 [entry (f.run s.os).1])

/-! ### Opening and closing -/

/-- `throw invalid_argument` -/
def invalidArgument {α : Type} (what : String) : Except (Failure Exception) α :=
  .error (.exception (.invalidArgument what))

/-- The `ByteSize` that `reconfigurePort` fills in. -/
def setupByteSize (bytesize : Bytesize) : Except (Failure Exception) UInt8 :=
  if bytesize = .eightbits then .ok 8
  else if bytesize = .sevenbits then .ok 7
  else if bytesize = .sixbits then .ok 6
  else if bytesize = .fivebits then .ok 5
  else invalidArgument "invalid char len"

/-- The `StopBits`: `ONESTOPBIT`, `ONE5STOPBITS` or `TWOSTOPBITS`. -/
def setupStopBits (stopbits : Stopbits) : Except (Failure Exception) UInt8 :=
  if stopbits = .one then .ok 0
  else if stopbits = .onePointFive then .ok 1
  else if stopbits = .two then .ok 2
  else invalidArgument "invalid stop bit"

/-- The `Parity`: `NOPARITY`, `EVENPARITY`, `ODDPARITY`, `MARKPARITY` or `SPACEPARITY`. -/
def setupParity (parity : Parity) : Except (Failure Exception) UInt8 :=
  if parity = .none then .ok 0
  else if parity = .even then .ok 2
  else if parity = .odd then .ok 1
  else if parity = .mark then .ok 3
  else if parity = .space then .ok 4
  else invalidArgument "invalid parity"

/-- The fields for the flow control. One that is none of the three leaves them. -/
def setupFlowcontrol (flowcontrol : Flowcontrol) (dcb : DCB) : DCB :=
  if flowcontrol = .none then
    { dcb with
      fOutxCtsFlow := false, fRtsControl := rtsControlDisable, fOutX := false, fInX := false }
  else if flowcontrol = .software then
    { dcb with
      fOutxCtsFlow := false, fRtsControl := rtsControlDisable, fOutX := true, fInX := true }
  else if flowcontrol = .hardware then
    { dcb with
      fOutxCtsFlow := true, fRtsControl := rtsControlHandshake, fOutX := false, fInX := false }
  else dcb

/-- The part of `reconfigurePort` that fills in the `DCB`. Every case of its switch on the baud rate
assigns the number of the label, and so does the default. -/
def setupDCB (settings : Settings) (dcb : DCB) : Except (Failure Exception) DCB := do
  let byteSize ← setupByteSize settings.bytesize
  let stopBits ← setupStopBits settings.stopbits
  let parity ← setupParity settings.parity
  return setupFlowcontrol settings.flowcontrol
    { dcb with baudRate := settings.baudrate, byteSize, stopBits, parity }

/-- The `COMMTIMEOUTS` that `reconfigurePort` fills in. -/
def setupTimeouts (timeout : Timeout) : CommTimeouts :=
  { readIntervalTimeout := timeout.interByteTimeout
    readTotalTimeoutConstant := timeout.readTimeoutConstant
    readTotalTimeoutMultiplier := timeout.readTimeoutMultiplier
    writeTotalTimeoutConstant := timeout.writeTimeoutConstant
    writeTotalTimeoutMultiplier := timeout.writeTimeoutMultiplier }

variable (win : WinApi ω)

/-- `CreateFileW`. A new handle is the number of calls before this one. -/
def createFile (name : Str) : Prog Exception (SerialImpl ω) (Except UInt32 Handle) := do
  let fd := (← get).calls.length
  let result ← call (win.createFile name) fun result =>
    .createFile name (if result.isOk then some fd else none)
  return result.map fun _ => fd

/-- `CloseHandle` of a port. -/
def closeHandle (fd : Handle) : Prog Exception (SerialImpl ω) (Except UInt32 Unit) :=
  call (win.closeHandle fd) fun result => .closeHandle fd result.isOk

/-- `SerialImpl::reconfigurePort` -/
def reconfigurePort : Prog Exception (SerialImpl ω) Unit := do
  match (← get).fd with
  | none => .raise (ioException 99 "Invalid file descriptor, is the serial port open?")
  | some fd =>
    match ← call (win.getCommState fd) fun dcb => .getCommState fd dcb.isSome with
    | none => .raise (ioException 108 "Error getting the serial port state.")
    | some dcb =>
      let dcb ← .lift (setupDCB (← get).settings dcb)
      -- activate settings
      if ← call (win.setCommState fd dcb) (.setCommState fd dcb) then
        let timeouts := setupTimeouts (← get).settings.timeout
        if ← call (win.setCommTimeouts fd timeouts) (.setCommTimeouts fd timeouts) then
          return ()
        else
          .raise (ioException 273 "Error setting timeouts.")
      else
        -- the handle is closed, and the object keeps it
        let _ ← closeHandle win fd
        .raise (ioException 262 "Error setting serial port settings.")

/-- `_prefix_port_if_needed` -/
def prefixPortIfNeeded (input : Str) : Str :=
  let windowsComPortPrefix := "\\\\.\\".toList
  if input.take windowsComPortPrefix.length ≠ windowsComPortPrefix then
    windowsComPortPrefix ++ input
  else input

/-- What `open` throws if `CreateFileW` fails. -/
def openException (port : Str) (code : UInt32) : Exception :=
  if code = errorFileNotFound then
    ioException 83 ("Specified port, " ++ String.ofList port ++ ", does not exist.")
  else ioException 86 ("Unknown error opening the serial port: " ++ toString code)

/-- `SerialImpl::open` -/
def openPort : Prog Exception (SerialImpl ω) Unit := do
  let s ← get
  if s.port = [] then .raise (.invalidArgument "Empty port is invalid.")
  else if s.isOpen = true then .raise (serialException "Serial port already open.")
  else
    match ← createFile win (prefixPortIfNeeded s.port) with
    | .error code =>
      modify fun s => { s with fd := none }
      .raise (openException s.port code)
    | .ok fd =>
      modify fun s => { s with fd := some fd }
      reconfigurePort win
      modify fun s => { s with isOpen := true }

/-- `SerialImpl::close` -/
def close : Prog Exception (SerialImpl ω) Unit := do
  let s ← get
  if s.isOpen = true then
    match s.fd with
    | some fd =>
      match ← closeHandle win fd with
      | .error code =>
        .raise (ioException 287 ("Error while closing serial port: " ++ toString code))
      | .ok _ => modify fun s => { s with fd := none, isOpen := false }
    | none => modify fun s => { s with isOpen := false }

/-- `SerialImpl::setPort` -/
def setPort (port : Str) : Prog Exception (SerialImpl ω) Unit :=
  modify fun s => { s with port }

/-! ### Settings -/

/-- The functions that set one of the settings: they store it, and configure the port if it is
open. -/
def set (f : Settings → Settings) : Prog Exception (SerialImpl ω) Unit := do
  modify fun s => { s with settings := f s.settings }
  if (← get).isOpen = true then
    reconfigurePort win

/-- `SerialImpl::setTimeout` -/
def setTimeout (timeout : Timeout) : Prog Exception (SerialImpl ω) Unit :=
  set win fun settings => { settings with timeout }

/-- `SerialImpl::setBaudrate` -/
def setBaudrate (baudrate : UInt32) : Prog Exception (SerialImpl ω) Unit :=
  set win fun settings => { settings with baudrate }

/-- `SerialImpl::setBytesize` -/
def setBytesize (bytesize : Bytesize) : Prog Exception (SerialImpl ω) Unit :=
  set win fun settings => { settings with bytesize }

/-- `SerialImpl::setParity` -/
def setParity (parity : Parity) : Prog Exception (SerialImpl ω) Unit :=
  set win fun settings => { settings with parity }

/-- `SerialImpl::setStopbits` -/
def setStopbits (stopbits : Stopbits) : Prog Exception (SerialImpl ω) Unit :=
  set win fun settings => { settings with stopbits }

/-- `SerialImpl::setFlowcontrol` -/
def setFlowcontrol (flowcontrol : Flowcontrol) : Prog Exception (SerialImpl ω) Unit :=
  set win fun settings => { settings with flowcontrol }

/-! ### Using the port -/

/-- The functions that need an open port. -/
def onOpenPort {α : Type} (function : String)
    (k : Option Handle → Prog Exception (SerialImpl ω) α) : Prog Exception (SerialImpl ω) α := do
  let s ← get
  if s.isOpen = true then k s.fd else .raise (portNotOpenedException function)

/-- A call on the port that is open. -/
def io {α : Type} (f : Option Handle → StateM ω α) (entry : IoCall) (fd : Option Handle) :
    Prog Exception (SerialImpl ω) α :=
  call (f fd) fun _ => .io fd entry

/-- `SerialImpl::read` -/
def read (size : ℕ) : Prog Exception (SerialImpl ω) Str :=
  onOpenPort "Serial::read" fun fd => do
    match ← io (win.readFile · (.ofNat size)) (.readFile (.ofNat size)) fd with
    | .error code =>
      .raise (ioException 340 ("Error while reading from the serial port: " ++ toString code))
    | .ok bytes => return bytes

/-- `SerialImpl::write` -/
def write (data : Str) : Prog Exception (SerialImpl ω) ℕ :=
  onOpenPort "Serial::write" fun fd => do
    match ← io (win.writeFile · data (.ofNat data.length)) (.writeFile data) fd with
    | .error code =>
      .raise (ioException 355 ("Error while writing to the serial port: " ++ toString code))
    | .ok bytesWritten => return bytesWritten.toNat

/-- `SerialImpl::flush`. What `FlushFileBuffers` returns is not looked at. -/
def flush : Prog Exception (SerialImpl ω) Unit :=
  onOpenPort "Serial::flush" (io win.flushFileBuffers .flushFileBuffers)

/-- `SerialImpl::flushInput` -/
def flushInput : Prog Exception (SerialImpl ω) Unit :=
  onOpenPort "Serial::flushInput" (io (win.purgeComm · purgeRxClear) (.purgeComm purgeRxClear))

/-- `SerialImpl::flushOutput` -/
def flushOutput : Prog Exception (SerialImpl ω) Unit :=
  onOpenPort "Serial::flushOutput" (io (win.purgeComm · purgeTxClear) (.purgeComm purgeTxClear))

/-- `SerialImpl::available` -/
def available : Prog Exception (SerialImpl ω) ℕ := do
  let s ← get
  if s.isOpen = true then
    match ← io win.clearCommError .clearCommError s.fd with
    | .error code =>
      .raise (ioException 312
        ("Error while checking status of the serial port: " ++ toString code))
    | .ok cbInQue => return cbInQue.toNat
  else return 0

/-- The functions that raise or drop a line. -/
def setLine (function : String) (on off : UInt32) (level : Bool) :
    Prog Exception (SerialImpl ω) Unit :=
  let code := if level then on else off
  onOpenPort function (io (win.escapeCommFunction · code) (.escapeCommFunction code))

/-- `SerialImpl::setBreak`, with `SETBREAK` and `CLRBREAK` -/
def setBreak : Bool → Prog Exception (SerialImpl ω) Unit := setLine win "Serial::setBreak" 8 9

/-- `SerialImpl::setRTS`, with `SETRTS` and `CLRRTS` -/
def setRTS : Bool → Prog Exception (SerialImpl ω) Unit := setLine win "Serial::setRTS" 3 4

/-- `SerialImpl::setDTR`, with `SETDTR` and `CLRDTR` -/
def setDTR : Bool → Prog Exception (SerialImpl ω) Unit := setLine win "Serial::setDTR" 5 6

/-- `SerialImpl::waitForChange`, with `EV_CTS | EV_DSR | EV_RING | EV_RLSD` -/
def waitForChange : Prog Exception (SerialImpl ω) Bool :=
  onOpenPort "Serial::waitForChange" fun fd => do
    if ← io (win.setCommMask · 0x138) (.setCommMask 0x138) fd then
      io win.waitCommEvent .waitCommEvent fd
    else return false

/-- The functions that look at a line. -/
def getLine (function : String) (line : ℕ) (name : String) (mask : UInt32) :
    Prog Exception (SerialImpl ω) Bool :=
  onOpenPort function fun fd => do
    match ← io win.getCommModemStatus .getCommModemStatus fd with
    | none => .raise (ioException line ("Error getting the status of the " ++ name ++ " line."))
    | some status => return (mask &&& status) ≠ 0

/-- `SerialImpl::getCTS` -/
def getCTS : Prog Exception (SerialImpl ω) Bool := getLine win "Serial::getCTS" 564 "CTS" 0x10

/-- `SerialImpl::getDSR` -/
def getDSR : Prog Exception (SerialImpl ω) Bool := getLine win "Serial::getDSR" 578 "DSR" 0x20

/-- `SerialImpl::getRI` -/
def getRI : Prog Exception (SerialImpl ω) Bool := getLine win "Serial::getRI" 592 "RI" 0x40

/-- `SerialImpl::getCD` -/
def getCD : Prog Exception (SerialImpl ω) Bool := getLine win "Serial::getCD" 607 "CD" 0x80

/-- `SerialImpl::waitReadable` -/
def waitReadable : Prog Exception (SerialImpl ω) Bool :=
  .raise (ioException 320 "waitReadable is not implemented on Windows.")

/-- `SerialImpl::waitByteTimes` -/
def waitByteTimes : Prog Exception (SerialImpl ω) Unit :=
  .raise (ioException 327 "waitByteTimes is not implemented on Windows.")

/-- `SerialImpl::sendBreak` -/
def sendBreak : Prog Exception (SerialImpl ω) Unit :=
  .raise (ioException 492 "sendBreak is not supported on Windows.")

/-! ### Locks -/

/-- The functions that wait for a mutex. -/
def claim (mutex : Mutex) (e : Exception) : Prog Exception (SerialImpl ω) Unit := do
  if ← call (win.waitForSingleObject mutex) (.waitForSingleObject mutex) then return ()
  else .raise e

/-- The functions that release a mutex. `ReleaseMutex` succeeds iff it is held. -/
def release (mutex : Mutex) (e : Exception) : Prog Exception (SerialImpl ω) Unit := do
  let isHeld := decide (0 < held mutex (← get).calls)
  if ← call (pure isHeld) (.releaseMutex mutex) then return () else .raise e

/-- `SerialImpl::readLock` -/
def readLock : Prog Exception (SerialImpl ω) Unit :=
  claim win .read (ioException 617 "Error claiming read mutex.")

/-- `SerialImpl::readUnlock` -/
def readUnlock : Prog Exception (SerialImpl ω) Unit :=
  release .read (ioException 625 "Error releasing read mutex.")

/-- `SerialImpl::writeLock` -/
def writeLock : Prog Exception (SerialImpl ω) Unit :=
  claim win .write (ioException 633 "Error claiming write mutex.")

/-- `SerialImpl::writeUnlock` -/
def writeUnlock : Prog Exception (SerialImpl ω) Unit :=
  release .write (ioException 641 "Error releasing write mutex.")

/-! ### Construction and destruction -/

/-- The members before the constructor runs. The timeout has its default. -/
def start (port : Str) (baudrate : UInt32) (bytesize : Bytesize) (parity : Parity)
    (stopbits : Stopbits) (flowcontrol : Flowcontrol) (os : ω) : SerialImpl ω :=
  { port, fd := none, isOpen := false
    settings := { timeout := ⟨0, 0, 0, 0, 0⟩, baudrate, parity, bytesize, stopbits, flowcontrol }
    os, calls := [] }

/-- The body of `SerialImpl::SerialImpl` -/
def construct : Prog Exception (SerialImpl ω) Unit := do
  if (← get).port ≠ [] then
    openPort win
  call (pure ()) fun _ => .createMutex .read
  call (pure ()) fun _ => .createMutex .write

/-- `SerialImpl::~SerialImpl`. It must not throw. -/
def destruct : Prog Exception (SerialImpl ω) Unit := do
  .noexcept (close win)
  call (pure ()) fun _ => .closeMutex .read
  call (pure ()) fun _ => .closeMutex .write

end SerialImpl

/-! ## The interface -/

namespace Serial

variable (win : WinApi ω)

/-- The scope of a `ScopedReadLock`. -/
def scopedReadLock {α : Type} :
    Prog Exception (SerialImpl ω) α → Prog Exception (SerialImpl ω) α :=
  .inScope (SerialImpl.readLock win) SerialImpl.readUnlock

/-- The scope of a `ScopedWriteLock`. -/
def scopedWriteLock {α : Type} :
    Prog Exception (SerialImpl ω) α → Prog Exception (SerialImpl ω) α :=
  .inScope (SerialImpl.writeLock win) SerialImpl.writeUnlock

/-- The body of `Serial::Serial` -/
def construct (timeout : Timeout) : Prog Exception (SerialImpl ω) Unit := do
  SerialImpl.construct win
  SerialImpl.setTimeout win timeout

/-- `Serial::read` into a new string. -/
def read (size : ℕ) : Prog Exception (SerialImpl ω) Str :=
  scopedReadLock win (SerialImpl.read win size)

/-- The loop of `Serial::readline`. What it has read is `buffer`. -/
def readlineLoop (size : ℕ) (eol buffer : Str) : Prog Exception (SerialImpl ω) Str := do
  let bytes ← SerialImpl.read win 1
  -- timeout
  if bytes = [] then return buffer
  -- a byte behind the buffer
  else if size < (buffer ++ bytes).length then throw .fault
  else if (buffer ++ bytes).length < eol.length then readlineLoop size eol (buffer ++ bytes)
  -- end of the line
  else if (buffer ++ bytes).drop ((buffer ++ bytes).length - eol.length) = eol then
    return buffer ++ bytes
  -- maximal length
  else if (buffer ++ bytes).length = size then return buffer ++ bytes
  else readlineLoop size eol (buffer ++ bytes)
termination_by size - buffer.length
decreasing_by
  all_goals
    have hpos := List.length_pos_iff.mpr ‹¬ bytes = []›
    simp only [List.length_append] at *
    omega

/-- `Serial::readline` into a new string. -/
def readline (size : ℕ) (eol : Str) : Prog Exception (SerialImpl ω) Str :=
  scopedReadLock win (readlineLoop win size eol [])

/-- The lines with the one from `startOfLine` to the end of the buffer, unless that is empty. -/
def pushRest (buffer : Str) (startOfLine : ℕ) (lines : List Str) : List Str :=
  if startOfLine ≠ buffer.length then lines ++ [buffer.drop startOfLine] else lines

/-- The start of the line and the lines, behind a test for the end of a line. -/
def findLine (eol buffer : Str) (startOfLine : ℕ) (lines : List Str) : ℕ × List Str :=
  if buffer.drop (buffer.length - eol.length) = eol then
    (buffer.length, lines ++ [buffer.drop startOfLine])
  else (startOfLine, lines)

/-- The loop of `Serial::readlines`. What it has read is `buffer`. -/
def readlinesLoop (size : ℕ) (eol buffer : Str) (startOfLine : ℕ) (lines : List Str) :
    Prog Exception (SerialImpl ω) (List Str) := do
  if buffer.length < size then
    let bytes ← SerialImpl.read win 1
    -- timeout
    if bytes = [] then return pushRest buffer startOfLine lines
    -- a byte behind the buffer
    else if size < (buffer ++ bytes).length then throw .fault
    else if (buffer ++ bytes).length < eol.length then
      readlinesLoop size eol (buffer ++ bytes) startOfLine lines
    else
      let found := findLine eol (buffer ++ bytes) startOfLine lines
      -- maximal length
      if (buffer ++ bytes).length = size then return pushRest (buffer ++ bytes) found.1 found.2
      else readlinesLoop size eol (buffer ++ bytes) found.1 found.2
  else return lines
termination_by size - buffer.length
decreasing_by
  all_goals
    have hpos := List.length_pos_iff.mpr ‹¬ bytes = []›
    simp only [List.length_append] at *
    omega

/-- `Serial::readlines` -/
def readlines (size : ℕ) (eol : Str) : Prog Exception (SerialImpl ω) (List Str) :=
  scopedReadLock win (readlinesLoop win size eol [] 0 [])

/-- `Serial::write` of a string. -/
def write (data : Str) : Prog Exception (SerialImpl ω) ℕ :=
  scopedWriteLock win (SerialImpl.write win data)

/-- `Serial::setPort` -/
def setPort (port : Str) : Prog Exception (SerialImpl ω) Unit :=
  scopedReadLock win <| scopedWriteLock win do
    let wasOpen := (← get).isOpen
    if wasOpen = true then SerialImpl.close win
    SerialImpl.setPort port
    if wasOpen = true then SerialImpl.openPort win

/-- `Serial::flush` -/
def flush : Prog Exception (SerialImpl ω) Unit :=
  scopedReadLock win <| scopedWriteLock win (SerialImpl.flush win)

/-- `Serial::flushInput` -/
def flushInput : Prog Exception (SerialImpl ω) Unit :=
  scopedReadLock win (SerialImpl.flushInput win)

/-- `Serial::flushOutput` -/
def flushOutput : Prog Exception (SerialImpl ω) Unit :=
  scopedWriteLock win (SerialImpl.flushOutput win)

/-! ### Lives of an object -/

/-- A call of a member function that does not only read a member. The overloads of one function make
the same calls. -/
inductive Call where
  | openPort
  | close
  | available
  | read (size : ℕ)
  | readline (size : ℕ) (eol : Str)
  | readlines (size : ℕ) (eol : Str)
  | write (data : Str)
  | setPort (port : Str)
  | setTimeout (timeout : Timeout)
  | setBaudrate (baudrate : UInt32)
  | setBytesize (bytesize : Bytesize)
  | setParity (parity : Parity)
  | setStopbits (stopbits : Stopbits)
  | setFlowcontrol (flowcontrol : Flowcontrol)
  | flush
  | flushInput
  | flushOutput
  | setBreak (level : Bool)
  | setRTS (level : Bool)
  | setDTR (level : Bool)
  | waitForChange
  | getCTS
  | getDSR
  | getRI
  | getCD
  | waitReadable
  | waitByteTimes
  | sendBreak
  deriving DecidableEq, Repr

/-- Make the call and leave its result. The functions that only forward to `SerialImpl` are those of
`SerialImpl`. -/
def perform : Call → Prog Exception (SerialImpl ω) Unit
  | .openPort => SerialImpl.openPort win
  | .close => SerialImpl.close win
  | .available => SerialImpl.available win >>= fun _ => pure ()
  | .read size => read win size >>= fun _ => pure ()
  | .readline size eol => readline win size eol >>= fun _ => pure ()
  | .readlines size eol => readlines win size eol >>= fun _ => pure ()
  | .write data => write win data >>= fun _ => pure ()
  | .setPort port => setPort win port
  | .setTimeout timeout => SerialImpl.setTimeout win timeout
  | .setBaudrate baudrate => SerialImpl.setBaudrate win baudrate
  | .setBytesize bytesize => SerialImpl.setBytesize win bytesize
  | .setParity parity => SerialImpl.setParity win parity
  | .setStopbits stopbits => SerialImpl.setStopbits win stopbits
  | .setFlowcontrol flowcontrol => SerialImpl.setFlowcontrol win flowcontrol
  | .flush => flush win
  | .flushInput => flushInput win
  | .flushOutput => flushOutput win
  | .setBreak level => SerialImpl.setBreak win level
  | .setRTS level => SerialImpl.setRTS win level
  | .setDTR level => SerialImpl.setDTR win level
  | .waitForChange => SerialImpl.waitForChange win >>= fun _ => pure ()
  | .getCTS => SerialImpl.getCTS win >>= fun _ => pure ()
  | .getDSR => SerialImpl.getDSR win >>= fun _ => pure ()
  | .getRI => SerialImpl.getRI win >>= fun _ => pure ()
  | .getCD => SerialImpl.getCD win >>= fun _ => pure ()
  | .waitReadable => SerialImpl.waitReadable >>= fun _ => pure ()
  | .waitByteTimes => SerialImpl.waitByteTimes
  | .sendBreak => SerialImpl.sendBreak

/-- Make the calls. The caller catches what they throw. -/
def performAll : List Call → Prog Exception (SerialImpl ω) Unit
  | [] => pure ()
  | call :: calls => do
    .catchException (perform win call) fun _ => pure ()
    performAll calls

/-- The arguments of `Serial::Serial`. -/
structure Arguments where
  port : Str
  baudrate : UInt32
  timeout : Timeout
  bytesize : Bytesize
  parity : Parity
  stopbits : Stopbits
  flowcontrol : Flowcontrol

/-- A port at 9600 baud. -/
def Arguments.com3 : Arguments :=
  { port := "COM3".toList, baudrate := 9600, timeout := .simpleTimeout 700, bytesize := .eightbits
    parity := .none, stopbits := .one, flowcontrol := .none }

/-- The object before its constructor runs. -/
def Arguments.start (args : Arguments) (os : ω) : SerialImpl ω :=
  .start args.port args.baudrate args.bytesize args.parity args.stopbits args.flowcontrol os

/-- The life of an object: it is constructed, used and destroyed. -/
def life (timeout : Timeout) (calls : List Call) : Prog Exception (SerialImpl ω) Unit := do
  construct win timeout
  performAll win calls
  SerialImpl.destruct win

/-- The object at the end of its life, whichever way that ends. -/
def lived (args : Arguments) (calls : List Call) (os : ω) : SerialImpl ω :=
  (life win args.timeout calls).finalState (args.start os)

end Serial

end DoorAcs
