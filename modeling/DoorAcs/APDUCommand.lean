import DoorAcs.Utilities

/-!
# APDU commands

The classes of `APDUCommand.cpp`. A getter that returns a field is that field.

* `getHeader_eq`, `SelectFileAPDUCommand.getPayload_eq`, `GetResponseAPDUCommand.getPayload_eq`:
  the texts the commands are sent as.
-/

namespace DoorAcs

open Cpp

/-- `GetInstructionFromAPDUCommandType` -/
def getInstructionFromAPDUCommandType : APDUCommandType → BYTE
  | .selectFile => insSelectFile
  | .getResponse => insGetResponse

/-- `APDUCommand` -/
structure APDUCommand where
  apduCommandType : APDUCommandType
  cla : BYTE
  ins : BYTE
  parameter1 : BYTE
  parameter2 : BYTE
  dataLength : BYTE
  data : Str
  responseLength : BYTE
  deriving DecidableEq, Repr

namespace APDUCommand

/-- `APDUCommand::APDUCommand` -/
def new (apduCommandType : APDUCommandType) (cla parameter1 parameter2 responseLength : BYTE) :
    APDUCommand :=
  { apduCommandType, cla, ins := getInstructionFromAPDUCommandType apduCommandType, parameter1,
    parameter2, dataLength := 0, data := [], responseLength }

/-- `APDUCommand::GetPayloadSize`, narrowed to a byte. -/
def getPayloadSize (c : APDUCommand) : BYTE :=
  -- header, data and one byte for the response length
  UInt8.ofNat (apduHeaderLength + c.dataLength.toNat + 1)

/-- `APDUCommand::GetHeader` -/
def getHeader (c : APDUCommand) : Str :=
  ({} : StringStream).hex |>.setfill '0' |>.uppercase
    |>.setw 2 |>.putNat (c.cla.toNat &&& 0xFF)
    |>.setw 2 |>.putNat (c.ins.toNat &&& 0xFF)
    |>.setw 2 |>.putNat (c.parameter1.toNat &&& 0xFF)
    |>.setw 2 |>.putNat (c.parameter2.toNat &&& 0xFF)
    |>.setw 2 |>.putNat (c.dataLength.toNat &&& 0xFF)
    |>.str

/-- `APDUCommand::SetData`. The size is narrowed to a byte before it is halved. -/
def setData (data : Str) (c : APDUCommand) : APDUCommand :=
  { c with dataLength := UInt8.ofNat ((UInt8.ofNat data.length).toNat / 2), data := data }

theorem getHeader_eq (c : APDUCommand) :
    c.getHeader = Hex.encode [c.cla, c.ins, c.parameter1, c.parameter2, c.dataLength] := by
  -- each field is a mask that does nothing and two digits
  simp only [getHeader, StringStream.uppercase_setfill_hex_empty, StringStream.toNat_and_mask,
    StringStream.setw_putNat_toNat_inHex, StringStream.str_inHex]
  rfl

end APDUCommand

/-- A class derived from `APDUCommand`: its base object and its `GetPayload`. -/
class IsAPDUCommand (α : Type) where
  base : α → APDUCommand
  getPayload : α → Str

/-! ## SELECT FILE -/

/-- `SelectFileAPDUCommand` -/
structure SelectFileAPDUCommand extends APDUCommand where
  aid : Str
  deriving DecidableEq, Repr

namespace SelectFileAPDUCommand

/-- `SelectFileAPDUCommand::SelectFileAPDUCommand` -/
def new (aid : Str) : SelectFileAPDUCommand :=
  { toAPDUCommand := (APDUCommand.new .selectFile defaultCla p1SelectFile noParameter
      (UInt8.ofNat maxResponseNumberOfBytes)).setData aid
    aid := aid }

/-- `SelectFileAPDUCommand::GetPayload` -/
def getPayload (c : SelectFileAPDUCommand) : Str :=
  ({} : StringStream).hex |>.setfill '0' |>.uppercase
    |>.putString c.getHeader
    |>.putString c.data
    |>.setw 2 |>.putNat maxResponseNumberOfBytes
    |>.str

instance : IsAPDUCommand SelectFileAPDUCommand := ⟨toAPDUCommand, getPayload⟩

theorem getPayload_eq (c : SelectFileAPDUCommand) :
    c.getPayload = c.getHeader ++ c.data ++ Hex.encode [0xFF] := by
  simp only [getPayload, StringStream.uppercase_setfill_hex_empty, StringStream.putString_inHex,
    StringStream.setw_putNat_inHex (n := maxResponseNumberOfBytes) (by decide),
    StringStream.str_inHex, List.nil_append]
  rfl

end SelectFileAPDUCommand

/-! ## GET RESPONSE -/

/-- `GetResponseAPDUCommand` -/
structure GetResponseAPDUCommand extends APDUCommand
  deriving DecidableEq, Repr

namespace GetResponseAPDUCommand

/-- `GetResponseAPDUCommand::GetResponseAPDUCommand` -/
def new : GetResponseAPDUCommand :=
  { toAPDUCommand := (APDUCommand.new .getResponse defaultCla noParameter noParameter
      (UInt8.ofNat maxResponseNumberOfBytes)).setData [] }

/-- `GetResponseAPDUCommand::GetPayload` -/
def getPayload (c : GetResponseAPDUCommand) : Str :=
  ({} : StringStream).hex |>.setfill '0' |>.uppercase
    |>.putString c.getHeader
    |>.setw 2 |>.putNat maxResponseNumberOfBytes
    |>.str

instance : IsAPDUCommand GetResponseAPDUCommand := ⟨toAPDUCommand, getPayload⟩

theorem getPayload_eq (c : GetResponseAPDUCommand) :
    c.getPayload = c.getHeader ++ Hex.encode [0xFF] := by
  simp only [getPayload, StringStream.uppercase_setfill_hex_empty, StringStream.putString_inHex,
    StringStream.setw_putNat_inHex (n := maxResponseNumberOfBytes) (by decide),
    StringStream.str_inHex, List.nil_append]
  rfl

end GetResponseAPDUCommand

end DoorAcs
