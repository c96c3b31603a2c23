import DoorAcs.Cpp.Program

/-!
# Constants, enumerations and exceptions

The macros of `Constants.h` and the types of `Libs.h` and `Enums.h` that the modelled functions
use. A C++ enumeration with an underlying type holds every value of that type, named or not, so
`TagType` and `PacketResponseErrorType` wrap that value; the two enumerations the code only ever
sets to a named value are inductive types.
-/

namespace DoorAcs

open Cpp

/-- `BYTE` -/
abbrev BYTE := UInt8

/-- `string` -/
abbrev Str := List Char

/-! ## Exceptions -/

/-- The exceptions the code throws or lets through. All of them derive from `std::exception`. -/
inductive Exception where
  | runtimeError (what : String)
  | invalidArgument (what : String)
  /-- One of the exceptions of the serial library. -/
  | serial (what : String)
  deriving DecidableEq, Repr

/-- `e.what()` -/
def Exception.what : Exception → String
  | .runtimeError what => what
  | .invalidArgument what => what
  | .serial what => what

/-- `throw std::runtime_error(what)`, as the result of a computation on no object. -/
def runtimeError {α : Type} (what : String) : Except (Failure Exception) α :=
  .error (.exception (.runtimeError what))

/-! ## Constants -/

/-- `MAX_RESPONSE_NUMBER_OF_BYTES` -/
def maxResponseNumberOfBytes : ℕ := 0xFF

/-- `PACKET_CARRIEGE_RETURN` -/
def packetCarriegeReturn : Char := '\r'

/-- `HCE_SERVICE_AID` -/
def hceServiceAid : Str := "FF00000000000001".toList

/-- `DEFAULT_CLA` -/
def defaultCla : BYTE := 0

/-- `NO_PARAMETER` -/
def noParameter : BYTE := 0

/-- `P1_SELECT_FILE` -/
def p1SelectFile : BYTE := 4

/-- `INS_SELECT_FILE` -/
def insSelectFile : BYTE := 0xA4

/-- `INS_GET_RESPONSE` -/
def insGetResponse : BYTE := 0xC0

/-- `APDU_HEADER_LENGTH` -/
def apduHeaderLength : ℕ := 5

/-- `APDU_STATUS_OK` -/
def apduStatusOk : Str := "9000".toList

/-- `COMMAND_NUMBER_SEARCH_TAG` -/
def commandNumberSearchTag : Str := "0500".toList

/-- `COMMAND_NUMBER_SET_TAG_TYPES` -/
def commandNumberSetTagTypes : Str := "0502".toList

/-- `COMMAND_NUMBER_ISO14443_4_TDX` -/
def commandNumberISO14443_4_TDX : Str := "1203".toList

/-! ## Enumerations -/

/-- `TagType`, a 32-bit value: the type of a found tag or a mask of types. -/
structure TagType where
  value : UInt32
  deriving DecidableEq, Repr

namespace TagType

/-- `TagType::NOTAG` -/
def noTag : TagType := ⟨0⟩

/-- `TagType::ALL_TAGS` -/
def allTags : TagType := ⟨0xFFFFFFFF⟩

/-- `static_cast<TagType>` of a byte. -/
def ofByte (b : BYTE) : TagType := ⟨b.toUInt32⟩

end TagType

/-- `PacketType`, less the type that no packet has. -/
inductive PacketType where
  | searchTag
  | setTagTypes
  | iso14443_4_TDX
  deriving DecidableEq, Repr

/-- `PacketResponseErrorType`: the error byte of a reply. -/
structure PacketResponseErrorType where
  value : BYTE
  deriving DecidableEq, Repr

/-- `PacketResponseErrorType::ERR_NONE` -/
def PacketResponseErrorType.errNone : PacketResponseErrorType := ⟨0⟩

/-- `APDUCommandType` -/
inductive APDUCommandType where
  | selectFile
  | getResponse
  deriving DecidableEq, Repr

end DoorAcs
