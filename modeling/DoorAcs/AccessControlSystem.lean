import DoorAcs.Reader
import Mathlib.Data.Finset.Insert

/-!
# The access control system

`AccessControlSystem.cpp`: the loop that polls the reader and decides on the id it gets.
-/

namespace DoorAcs

open Cpp

/-- `AccessControlSystem` -/
structure AccessControlSystem (π : Type) where
  isRunning : Bool
  reader : Reader π
  accessGrantedIds : Finset Str

namespace AccessControlSystem

variable {π : Type}

/-- The members before the constructor runs, with the ids the source lists: an NFC tag and the
HCE service of a phone. -/
def start (serialPort : π) : AccessControlSystem π :=
  { isRunning := false
    reader := .start serialPort
    accessGrantedIds := {"69B90152".toList, "A001".toList} }

/-- Use a member function of the reader. -/
def onReader {α : Type} (m : Prog Exception (Reader π) α) :
    Prog Exception (AccessControlSystem π) α :=
  .onField reader (fun s r => { s with reader := r }) m

/-- `AccessControlSystem::AccessControlSystem` -/
def construct (port : SerialPort π) : Prog Exception (AccessControlSystem π) Unit := do
  onReader (Reader.construct port)
  modify fun s => { s with isRunning := true }

/-- `AccessControlSystem::IsIdValid` -/
def isIdValid (s : AccessControlSystem π) (id : Str) : Bool := id ∈ s.accessGrantedIds

/-- The `try` block of `MainLoop`. The result says whether the round goes on behind the block, or
ends with `continue`. -/
def decideOnId (port : SerialPort π) : Prog Exception (AccessControlSystem π) Bool := do
  let id ← onReader (Reader.getID port)
  -- check if an id was found; `continue` leaves out the blank line
  if id = [] then return false
  -- check if the id is valid
  else if isIdValid (← get) id then
    onReader (Reader.print .accessGranted)
    return true
  else
    onReader (Reader.print .accessDenied)
    return true

/-- The `catch` block of `MainLoop`, behind which the round goes on. -/
def reportException (port : SerialPort π) (e : Exception) :
    Prog Exception (AccessControlSystem π) Bool := do
  -- what the reader stored last, which `GetID` may have left in the middle of an exchange
  let r := (← get).reader
  onReader (Reader.print
    (.exceptionReport r.dataString r.writtenBytes r.responseString e.what))
  onReader (Reader.flushSerialPort port)
  return true

/-- One round of the loop in `MainLoop`. -/
def poll (port : SerialPort π) : Prog Exception (AccessControlSystem π) Unit := do
  let goesOn ← .catchException (decideOnId port) (reportException port)
  if goesOn then
    onReader (Reader.print .blank)

/-- `AccessControlSystem::MainLoop`, cut off after `n` polls. -/
def mainLoop (port : SerialPort π) (n : ℕ) : Prog Exception (AccessControlSystem π) Unit :=
  .repeatWhile isRunning (poll port) n

/-- `main`: construct the system and run its loop. -/
def main (port : SerialPort π) (n : ℕ) : Prog Exception (AccessControlSystem π) Unit := do
  construct port
  mainLoop port n

/-- The loop that starts in `s₀` comes to begin a poll in `s`. -/
def BeginsPoll (port : SerialPort π) (s₀ s : AccessControlSystem π) : Prop :=
  Prog.AtLoopHead isRunning (poll port) s₀ s ∧ s.isRunning = true

/-- The states in which a poll begins are those in which `MainLoop`, cut off after some polls, is
still running. -/
theorem beginsPoll_iff {port : SerialPort π} {s₀ s : AccessControlSystem π} :
    BeginsPoll port s₀ s ↔ (∃ n, (mainLoop port n).run s₀ = .ok () s) ∧ s.isRunning = true := by
  refine and_congr_left fun _ => ⟨Prog.AtLoopHead.exists_repeatWhile, ?_⟩
  -- the cut may fall anywhere
  rintro ⟨n, hrun⟩
  exact .of_repeatWhile n hrun

end AccessControlSystem

end DoorAcs
