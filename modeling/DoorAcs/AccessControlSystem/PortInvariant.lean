import DoorAcs.AccessControlSystem.Poll
import DoorAcs.Reader.Transcript

/-!
# Invariants of the port

What an exchange and a flush keep of the port, a run of the program keeps from the moment the reader
has set its timeouts. `SerialPort.Keeps` lists these two operations; `Keeps.of_main` is the rule for
a run of the program, whichever way it ends.
-/

namespace DoorAcs

open Cpp

variable {π : Type}

namespace SerialPort

/-- Exchanges and flushes keep the invariant `J` of the port. -/
structure Keeps (port : SerialPort π) (J : π → Prop) : Prop where
  ask : ∀ frame, Spec.Preserves J (port.ask frame)
  flush : Spec.Preserves J (.ofThrowing port.flush)

namespace Keeps

variable {port : SerialPort π} {J : π → Prop}

/-- What a write and a read keep, an exchange keeps. -/
theorem of_operations (hwrite : ∀ frame, Spec.Preserves J (.ofThrowing (port.write frame)))
    (hread : ∀ size, Spec.Preserves J (.ofThrowing (port.read size)))
    (hflush : Spec.Preserves J (.ofThrowing port.flush)) : port.Keeps J where
  ask frame :=
    Spec.preserves_bind (hwrite frame) fun _ =>
      Spec.preserves_bind (hread _) fun _ => Spec.preserves_ofOption _
  flush := hflush

variable (h : port.Keeps J)
include h

/-! ### Polls -/

/-- An exchange with the card. -/
theorem askCard (frame : Str) : Spec.Preserves J (port.askCard frame) :=
  Spec.preserves_bind (h.ask frame) fun _ => Spec.preserves_ofOption _

/-- The attempt to get an HCE id. -/
theorem askHce : Spec.Preserves J port.askHce := by
  refine Spec.preserves_bind (h.askCard _) fun select => ?_
  cases select with
  | none => exact Spec.preserves_pure _
  | some select =>
    refine Spec.preserves_ite ?_ (Spec.preserves_pure _)
    refine Spec.preserves_bind (h.askCard _) fun reply => ?_
    cases reply <;> exact Spec.preserves_pure _

/-- A conversation is made of exchanges. -/
theorem converse : Spec.Preserves J port.converse := by
  refine Spec.preserves_bind
    (Spec.preserves_bind (h.ask _) fun _ => Spec.preserves_ofOption _) fun reply => ?_
  cases reply with
  | noTag => exact Spec.preserves_pure _
  | tag => exact Spec.preserves_bind h.askHce fun _ => Spec.preserves_pure _

/-- `GetID` leaves the port as a conversation does. -/
theorem getID : Prog.Preserves (fun r : Reader π => J r.serialPort) (Reader.getID port) :=
  Reader.refines_getID.preserves h.converse

/-- A poll is `GetID`, some messages, and the flush behind an exception. -/
theorem poll : Prog.Preserves (fun s : AccessControlSystem π => J s.reader.serialPort)
    (AccessControlSystem.poll port) := by
  have hflush : Prog.Preserves (fun r : Reader π => J r.serialPort) (Reader.flushSerialPort port) :=
    (Reader.refines_onSerialPort port.flush).preserves h.flush
  have hprint (line : ConsoleLine) :
      Prog.Preserves (fun r : Reader π => J r.serialPort) (Reader.print line) :=
    Prog.preserves_modify fun _ hr => hr
  exact AccessControlSystem.preserves_poll (AccessControlSystem.preserves_onReader hflush)
    (AccessControlSystem.preserves_onReader h.getID) fun line =>
      AccessControlSystem.preserves_onReader (hprint line)

/-- What every poll keeps, the loop keeps. -/
theorem mainLoop (n : ℕ) : Prog.Preserves (fun s : AccessControlSystem π => J s.reader.serialPort)
    (AccessControlSystem.mainLoop port n) :=
  Prog.preserves_repeatWhile h.poll n

/-! ### Runs of the program -/

variable {K : π → Prop} {q : π} (hok : ∀ {q'}, port.setTimeouts.run q = .ok () q' → J q')
include hok

/-- If `J` holds once the timeouts are set, it holds once the reader device is set up. -/
theorem of_run_setUp_eq_ok {q' : π} (hrun : port.setUp.run q = .ok () q') : J q' := by
  obtain ⟨q₁, hinitialise, hask⟩ := run_setUp_eq_ok_iff.mp hrun
  obtain ⟨q₀, htimeouts, -, hflush⟩ := run_initialise_eq_ok_iff.mp hinitialise
  have hflushed := h.flush.of_run_eq_ok (hok htimeouts) (Spec.run_ofThrowing_eq_ok.mpr hflush)
  exact (h.ask _).of_run_eq_ok hflushed hask

variable (hJK : ∀ {q}, J q → K q)
  (herror : ∀ {e q'}, port.setTimeouts.run q = .error e q' → K q')
include hJK herror

/-- If the device cannot be set up, the timeouts could not be set, or `J` holds. -/
theorem of_run_setUp_eq_error {q' : π} (hrun : port.setUp.run q = .error () q') : K q' := by
  rcases Spec.run_bind_eq_error.mp hrun with hinitialise | ⟨_, q₁, hinitialise, hrest⟩
  · rcases Spec.run_bind_eq_error.mp hinitialise with htimeouts | ⟨_, q₀, htimeouts, hrest⟩
    · obtain ⟨e, htimeouts⟩ := Spec.run_ofThrowing_eq_error.mp htimeouts
      exact herror htimeouts
    · have hkept : Spec.Preserves J (if port.isOpen q₀ then .ofThrowing port.flush else throw ()) :=
        Spec.preserves_ite h.flush Spec.preserves_throw
      exact hJK (hkept.of_run_eq_error (hok (Spec.run_ofThrowing_eq_ok.mp htimeouts)) hrest)
  · obtain ⟨q₀, htimeouts, -, hflush⟩ := run_initialise_eq_ok_iff.mp hinitialise
    have hflushed := h.flush.of_run_eq_ok (hok htimeouts) (Spec.run_ofThrowing_eq_ok.mpr hflush)
    have hkept : Spec.Preserves J (port.ask setTagTypesFrame >>= fun bytes =>
        Spec.ofOption (if bytes = [0] then some () else none)) :=
      Spec.preserves_bind (h.ask _) fun _ => Spec.preserves_ofOption _
    exact hJK (hkept.of_run_eq_error hflushed hrest)

/-- Whichever way a run of the program ends: if the timeouts could be set and left the port with
`J`, `J` holds of it at the end. `K` is what then is left in either case. -/
theorem of_main (n : ℕ) :
    K ((AccessControlSystem.main port n).finalState (.start q)).reader.serialPort := by
  have hreader : Prog.Refines Reader.serialPort Eq (Reader.construct port) port.setUp :=
    Reader.refines_construct
  cases hconstruct : (Reader.construct port).run (.start q) with
  | error f r =>
    have hsetUp := hreader.of_run_eq_error hconstruct
    rw [AccessControlSystem.main, AccessControlSystem.construct, Prog.finalState_bind_of_error
      (Prog.run_bind_of_error (AccessControlSystem.run_onReader_of_error hconstruct))]
    exact h.of_run_setUp_eq_error hok hJK herror hsetUp
  | ok _ r =>
    obtain ⟨_, hsetUp, -⟩ := hreader.of_run_eq_ok hconstruct
    have hstarted : (AccessControlSystem.construct port).run (.start q) =
        .ok () { AccessControlSystem.start q with isRunning := true, reader := r } := by
      rw [AccessControlSystem.construct,
        Prog.run_bind_of_ok (AccessControlSystem.run_onReader_of_ok hconstruct)]
      rfl
    rw [AccessControlSystem.main, Prog.finalState_bind_of_ok hstarted]
    exact hJK (h.mainLoop n _ (h.of_run_setUp_eq_ok hok hsetUp))

end Keeps

end SerialPort

end DoorAcs
