import DoorAcs.Utilities

/-!
# APDU responses

The classes of `APDUResponse.cpp`: a response is cut into data and the four characters of the
status word, counted from its end. `APDUResponse.new_encode` says where the cut falls in the
bytes.
-/

namespace DoorAcs

open Cpp

/-- `APDUResponse` -/
structure APDUResponse where
  apduCommandType : APDUCommandType
  data : Str
  status : Str
  deriving DecidableEq, Repr

/-- `APDUResponse::APDUResponse` -/
def APDUResponse.new (apduCommandType : APDUCommandType) (response : Str) :
    Except (Failure Exception) APDUResponse :=
  -- SW1 and SW2 are mandatory
  if response.length < 4 then runtimeError "APDUResponse invalid response"
  else do
    -- the four characters of SW1 and SW2
    let sw1High ← elementAt response (response.length - 4)
    let sw1Low ← elementAt response (response.length - 3)
    let sw2High ← elementAt response (response.length - 2)
    let sw2Low ← elementAt response (response.length - 1)
    return {
      apduCommandType
      data := response.take (response.length - 4)
      status := [sw1High, sw1Low, sw2High, sw2Low] }

/-- `SelectFileAPDUResponse` -/
structure SelectFileAPDUResponse extends APDUResponse
  deriving DecidableEq, Repr

/-- `SelectFileAPDUResponse::SelectFileAPDUResponse` -/
def SelectFileAPDUResponse.new (response : Str) :
    Except (Failure Exception) SelectFileAPDUResponse := do
  return { toAPDUResponse := ← APDUResponse.new .selectFile response }

/-- `GetResponseAPDUResponse` -/
structure GetResponseAPDUResponse extends APDUResponse where
  id : Str
  deriving DecidableEq, Repr

/-- `GetResponseAPDUResponse::GetResponseAPDUResponse` -/
def GetResponseAPDUResponse.new (response : Str) :
    Except (Failure Exception) GetResponseAPDUResponse := do
  let base ← APDUResponse.new .getResponse response
  -- the data of the response consists of the id of the HCE service only
  return { toAPDUResponse := base, id := base.data }

namespace APDUResponse

variable {apduCommandType : APDUCommandType}

/-- A response too short for a status word makes the constructor throw. -/
theorem new_of_length_lt {response : Str} (h : response.length < 4) :
    new apduCommandType response = runtimeError "APDUResponse invalid response" :=
  if_pos h

/-- The four characters counted from the end are the last four. -/
theorem new_append (data : Str) (a b c d : Char) :
    new apduCommandType (data ++ [a, b, c, d]) =
      .ok { apduCommandType, data, status := [a, b, c, d] } := by
  have hlength : (data ++ [a, b, c, d]).length = data.length + 4 := List.length_append
  rw [new, if_neg (by omega), hlength]
  simp [elementAt, bind, Except.bind, pure, Except.pure]

/-- On a re-encoded payload the cut falls before the last two bytes. -/
theorem new_encode (data : List BYTE) (sw1 sw2 : BYTE) :
    new apduCommandType (Hex.encode (data ++ [sw1, sw2])) =
      .ok { apduCommandType, data := Hex.encode data, status := Hex.encode [sw1, sw2] } := by
  rw [Hex.encode_append]
  exact new_append _ _ _ _ _

end APDUResponse

end DoorAcs
