import DoorAcs.Basic

/-!
# The interface of the serial library

`SerialPort π` is what the reader uses of a `serial::Serial`: what the operations do to a port in a
state of type `π`, exceptions included. Nothing is assumed of them here. `SerialPort.Script` and
`SerialPort.Line` are ports to run the reader on, and `SerialPort.Use` is the one of the library.
-/

namespace DoorAcs

/-! ## Timeouts -/

/-- `serial::Timeout` -/
structure Timeout where
  interByteTimeout : UInt32
  readTimeoutConstant : UInt32
  readTimeoutMultiplier : UInt32
  writeTimeoutConstant : UInt32
  writeTimeoutMultiplier : UInt32
  deriving DecidableEq, Repr

/-- `Timeout::max` -/
def Timeout.max : UInt32 := 0xFFFFFFFF

/-- `Timeout::simpleTimeout` -/
def Timeout.simpleTimeout (timeout : UInt32) : Timeout := ⟨max, timeout, 0, timeout, 0⟩

/-! ## Ports -/

/-- The operations of `serial::Serial` that the reader uses. -/
structure SerialPort (π : Type) where
  getTimeout : π → Timeout
  setTimeout : Timeout → EStateM Exception π Unit
  isOpen : π → Bool
  write : Str → EStateM Exception π ℕ
  read : ℕ → EStateM Exception π Str
  flush : EStateM Exception π Unit

end DoorAcs
