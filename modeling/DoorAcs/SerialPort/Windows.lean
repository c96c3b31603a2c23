import DoorAcs.Basic

/-!
# The Windows calls of the serial library

`WinApi ω` is what the calls of `win.cc` do to a system in a state of type `ω`: it may grant or
refuse each of them. A handle is known by its number among the calls made so far, so no two handles
that `CreateFileW` returns are the same. `ReleaseMutex` is not part of it: it succeeds exactly if
the mutex is held, which the log of calls tells.
-/

namespace DoorAcs

/-! ## Values -/

/-- A `HANDLE` that `CreateFileW` returned. -/
abbrev Handle := ℕ

/-- The fields of `DCB` that the library sets, and the others together. -/
structure DCB where
  baudRate : UInt32
  byteSize : UInt8
  stopBits : UInt8
  parity : UInt8
  fOutxCtsFlow : Bool
  fRtsControl : UInt8
  fOutX : Bool
  fInX : Bool
  others : List UInt8
  deriving DecidableEq, Repr

/-- `COMMTIMEOUTS` -/
structure CommTimeouts where
  readIntervalTimeout : UInt32
  readTotalTimeoutConstant : UInt32
  readTotalTimeoutMultiplier : UInt32
  writeTotalTimeoutConstant : UInt32
  writeTotalTimeoutMultiplier : UInt32
  deriving DecidableEq, Repr

/-- The two mutexes of a port. -/
inductive Mutex where
  | read
  | write
  deriving DecidableEq, Repr

/-- A call on an open port that neither configures nor closes it. -/
inductive IoCall where
  | readFile (size : UInt32)
  | writeFile (data : Str)
  | flushFileBuffers
  | purgeComm (flags : UInt32)
  | clearCommError
  | escapeCommFunction (function : UInt32)
  | getCommModemStatus
  | setCommMask (events : UInt32)
  | waitCommEvent
  deriving DecidableEq, Repr

/-- A call of the Windows API and how it ended. A missing handle is `INVALID_HANDLE_VALUE`. -/
inductive ApiCall where
  | createFile (name : Str) (fd : Option Handle)
  | getCommState (fd : Handle) (ok : Bool)
  | setCommState (fd : Handle) (dcb : DCB) (ok : Bool)
  | setCommTimeouts (fd : Handle) (timeouts : CommTimeouts) (ok : Bool)
  | io (fd : Option Handle) (call : IoCall)
  | closeHandle (fd : Handle) (ok : Bool)
  | createMutex (mutex : Mutex)
  | waitForSingleObject (mutex : Mutex) (ok : Bool)
  | releaseMutex (mutex : Mutex) (ok : Bool)
  | closeMutex (mutex : Mutex)
  deriving DecidableEq, Repr

/-- How often a mutex is held behind a call, if it was held `n` times before. -/
def ApiCall.holding (mutex : Mutex) (n : ℕ) : ApiCall → ℕ
  | .waitForSingleObject mutex' true => if mutex' = mutex then n + 1 else n
  | .releaseMutex mutex' true => if mutex' = mutex then n - 1 else n
  | _ => n

/-- How often a mutex is held behind the calls. -/
def held (mutex : Mutex) (calls : List ApiCall) : ℕ := calls.foldl (ApiCall.holding mutex) 0

theorem held_append_singleton (mutex : Mutex) (calls : List ApiCall) (call : ApiCall) :
    held mutex (calls ++ [call]) = call.holding mutex (held mutex calls) := by
  rw [held, List.foldl_append]
  rfl

/-! ## The system -/

/-- What the calls do. A call that fails gives what `GetLastError` returns behind it where the
library asks for that. -/
structure WinApi (ω : Type) where
  createFile : Str → StateM ω (Except UInt32 Unit)
  getCommState : Handle → StateM ω (Option DCB)
  setCommState : Handle → DCB → StateM ω Bool
  setCommTimeouts : Handle → CommTimeouts → StateM ω Bool
  closeHandle : Handle → StateM ω (Except UInt32 Unit)
  readFile : Option Handle → UInt32 → StateM ω (Except UInt32 Str)
  writeFile : Option Handle → Str → UInt32 → StateM ω (Except UInt32 UInt32)
  flushFileBuffers : Option Handle → StateM ω Unit
  purgeComm : Option Handle → UInt32 → StateM ω Unit
  clearCommError : Option Handle → StateM ω (Except UInt32 UInt32)
  escapeCommFunction : Option Handle → UInt32 → StateM ω Unit
  getCommModemStatus : Option Handle → StateM ω (Option UInt32)
  setCommMask : Option Handle → UInt32 → StateM ω Bool
  waitCommEvent : Option Handle → StateM ω Bool
  waitForSingleObject : Mutex → StateM ω Bool

/-- A read gives no more bytes than it is asked for, as `ReadFile` is documented. -/
def WinApi.ReadsAtMost (win : WinApi ω) : Prop :=
  ∀ fd? size os bytes os', (win.readFile fd? size).run os = (.ok bytes, os') →
    bytes.length ≤ size.toNat

/-- A system that grants every call. Each read takes the next of the texts, if there is one. -/
def WinApi.granting : WinApi (List Str) where
  createFile _ := pure (.ok ())
  getCommState _ := pure (some
    { baudRate := 1200, byteSize := 7, stopBits := 0, parity := 2, fOutxCtsFlow := false
      fRtsControl := 1, fOutX := false, fInX := false, others := [] })
  setCommState _ _ := pure true
  setCommTimeouts _ _ := pure true
  closeHandle _ := pure (.ok ())
  readFile _ size := do
    let texts ← get
    set texts.tail
    return .ok ((texts.headD []).take size.toNat)
  writeFile _ _ size := pure (.ok size)
  flushFileBuffers _ := pure ()
  purgeComm _ _ := pure ()
  clearCommError _ := return .ok (.ofNat ((← get).headD []).length)
  escapeCommFunction _ _ := pure ()
  getCommModemStatus _ := pure (some 0)
  setCommMask _ _ := pure true
  waitCommEvent _ := pure true
  waitForSingleObject _ := pure true

theorem WinApi.granting_readsAtMost : WinApi.granting.ReadsAtMost := by
  intro fd? size os bytes os' h
  cases h
  exact List.length_take_le _ _

/-- `ERROR_FILE_NOT_FOUND` -/
def errorFileNotFound : UInt32 := 2

/-- `RTS_CONTROL_DISABLE` -/
def rtsControlDisable : UInt8 := 0

/-- `RTS_CONTROL_HANDSHAKE` -/
def rtsControlHandshake : UInt8 := 2

/-- `PURGE_RXCLEAR` -/
def purgeRxClear : UInt32 := 0x8

/-- `PURGE_TXCLEAR` -/
def purgeTxClear : UInt32 := 0x4

end DoorAcs
