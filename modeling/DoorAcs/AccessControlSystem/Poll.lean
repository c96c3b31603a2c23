import DoorAcs.AccessControlSystem
import DoorAcs.Reader.Invariant

/-!
# What a poll prints

A poll prints a verdict iff `GetID` returned an id that is not empty: `Access granted!` if the id
is one of the accepted ones, else `Access denied!` (`verdicts_of_ok`, `verdicts_of_error`). What it
prints behind the messages of `GetID` is in `cout_finalState_of_ok` and `cout_finalState_of_error`.
-/

namespace DoorAcs

open Cpp

variable {π : Type}

/-- The verdicts among messages. -/
def ConsoleLine.verdictsIn (lines : List ConsoleLine) : List ConsoleLine :=
  lines.filter fun line => line.IsVerdict

theorem ConsoleLine.verdictsIn_append (lines lines' : List ConsoleLine) :
    verdictsIn (lines ++ lines') = verdictsIn lines ++ verdictsIn lines' :=
  List.filter_append ..

/-- Behind the messages `shown` there is no verdict. -/
def ConsoleLine.NoVerdictSince (shown lines : List ConsoleLine) : Prop :=
  ∃ more, lines = shown ++ more ∧ verdictsIn more = []

namespace AccessControlSystem

variable (port : SerialPort π) {s : AccessControlSystem π}

/-- The messages of the poll begun in `s`. -/
def printed (s : AccessControlSystem π) : List ConsoleLine :=
  ((poll port).finalState s).reader.cout.drop s.reader.cout.length

/-- The verdicts of the poll begun in `s`. -/
def verdicts (s : AccessControlSystem π) : List ConsoleLine :=
  ConsoleLine.verdictsIn (printed port s)

/-- The verdicts on `id` if the accepted ids are `ids`. -/
def verdictsOn (ids : Finset Str) (id : Str) : List ConsoleLine :=
  if id = [] then [] else if id ∈ ids then [.accessGranted] else [.accessDenied]

/-- What the handler prints if `GetID` ended with `f` and left the reader `r`. -/
def reportOn (r : Reader π) : Failure Exception → List ConsoleLine
  -- nothing runs behind a fault
  | .fault => []
  | .exception e =>
    .exceptionReport r.dataString r.writtenBytes r.responseString e.what ::
      match port.flush.run r.serialPort with
      | .ok _ _ => [.blank]
      -- the flush ends the loop
      | .error _ _ => []

variable {port}

/-- The report of an exception comes first, and at most a blank line behind it. -/
theorem exists_reportOn_exception (port : SerialPort π) (r : Reader π) (e : Exception) :
    ∃ more, (more = [] ∨ more = [.blank]) ∧ reportOn port r (.exception e) =
      .exceptionReport r.dataString r.writtenBytes r.responseString e.what :: more := by
  rw [reportOn]
  cases port.flush.run r.serialPort with
  | ok _ q => exact ⟨[.blank], .inr rfl, rfl⟩
  | error e' q => exact ⟨[], .inl rfl, rfl⟩

theorem run_onReader_of_ok {α : Type} {m : Prog Exception (Reader π) α} {a : α} {r' : Reader π}
    (h : m.run s.reader = .ok a r') : (onReader m).run s = .ok a { s with reader := r' } :=
  Prog.run_onField_eq_ok.mpr ⟨r', h, rfl⟩

theorem run_onReader_of_error {α : Type} {m : Prog Exception (Reader π) α}
    {e : Failure Exception} {r' : Reader π} (h : m.run s.reader = .error e r') :
    (onReader m).run s = .error e { s with reader := r' } := by
  rw [onReader, Prog.run_onField, h]

/-- What the reader keeps in itself, the system keeps. -/
theorem preserves_onReader {α : Type} {I : Reader π → Prop} {m : Prog Exception (Reader π) α}
    (h : Prog.Preserves I m) :
    Prog.Preserves (fun s : AccessControlSystem π => I s.reader) (onReader m) :=
  Prog.preserves_onField h (fun _ hs => hs) fun _ _ _ ht => ht

section Poll

variable {I : AccessControlSystem π → Prop}
  (hflush : Prog.Preserves I (onReader (Reader.flushSerialPort port)))
include hflush

/-- The `catch` block reports the exception and flushes the port. -/
theorem preserves_reportException
    (hprint : ∀ line, Prog.Preserves I (onReader (Reader.print line))) (e : Exception) :
    Prog.Preserves I (reportException port e) := by
  refine Prog.preserves_bind Prog.preserves_get fun s => ?_
  refine Prog.preserves_bind (hprint _) fun _ => ?_
  exact Prog.preserves_bind hflush fun _ => Prog.preserves_pure _

/-- A poll is made of `GetID`, messages and the flush. -/
theorem preserves_poll (hgetID : Prog.Preserves I (onReader (Reader.getID port)))
    (hprint : ∀ line, Prog.Preserves I (onReader (Reader.print line))) :
    Prog.Preserves I (poll port) := by
  refine Prog.preserves_bind
    (Prog.preserves_catchException ?_ (preserves_reportException hflush hprint))
    fun goesOn => Prog.preserves_ite (hprint _) (Prog.preserves_pure _)
  -- the `try` block
  refine Prog.preserves_bind hgetID fun id => ?_
  refine Prog.preserves_ite (Prog.preserves_pure _) ?_
  refine Prog.preserves_bind Prog.preserves_get fun s => ?_
  exact Prog.preserves_ite
    (Prog.preserves_bind (hprint _) fun _ => Prog.preserves_pure _)
    (Prog.preserves_bind (hprint _) fun _ => Prog.preserves_pure _)

end Poll

/-- `GetID` prints no verdict. -/
theorem noVerdictSince_getID (port : SerialPort π) (r : Reader π) :
    ConsoleLine.NoVerdictSince r.cout ((Reader.getID port).finalState r).cout := by
  obtain ⟨more, hcout, hmore⟩ := Reader.exists_cout_getID port r
  refine ⟨more, hcout, List.filter_eq_nil_iff.mpr fun line hmem => ?_⟩
  rw [decide_eq_true_iff]
  exact (hmore line hmem).not_isVerdict

theorem run_print (line : ConsoleLine) (s : AccessControlSystem π) :
    (onReader (Reader.print line)).run s =
      .ok ⟨⟩ { s with reader := { s.reader with cout := s.reader.cout ++ [line] } } := rfl

/-- If `GetID` returns an id, the poll prints a verdict and goes on. -/
theorem run_decideOnId_of_ne {id : Str} {r' : Reader π} (hne : id ≠ [])
    (h : (Reader.getID port).run s.reader = .ok id r') :
    (decideOnId port).run s = .ok true
      { s with reader := { r' with cout := r'.cout ++ verdictsOn s.accessGrantedIds id } } := by
  rw [decideOnId, Prog.run_bind_of_ok (run_onReader_of_ok h), if_neg hne, verdictsOn, if_neg hne]
  -- `IsIdValid` looks the id up among the accepted ones, which `GetID` has not touched
  by_cases hmem : id ∈ s.accessGrantedIds
  · have hvalid : isIdValid { s with reader := r' } id = true := decide_eq_true hmem
    rw [if_pos hmem, EStateM.run_bind, EStateM.run_get]
    dsimp only
    rw [if_pos hvalid, Prog.run_bind_of_ok (run_print ..), EStateM.run_pure]
  · have hvalid : ¬ isIdValid { s with reader := r' } id = true := by
      rw [isIdValid, decide_eq_true_iff]
      exact hmem
    rw [if_neg hmem, EStateM.run_bind, EStateM.run_get]
    dsimp only
    rw [if_neg hvalid, Prog.run_bind_of_ok (run_print ..), EStateM.run_pure]

/-- If `GetID` returns, the poll prints the verdicts on the id, and a blank line behind one. -/
theorem run_poll_of_ok {id : Str} {r' : Reader π}
    (h : (Reader.getID port).run s.reader = .ok id r') :
    (poll port).run s = .ok () { s with reader := { r' with cout := r'.cout ++
      (verdictsOn s.accessGrantedIds id ++ if id = [] then [] else [.blank]) } } := by
  by_cases hempty : id = []
  · -- `continue`
    have htry : (decideOnId port).run s = .ok false { s with reader := r' } := by
      rw [decideOnId, Prog.run_bind_of_ok (run_onReader_of_ok h), if_pos hempty, EStateM.run_pure]
    rw [poll, Prog.run_bind_of_ok (Prog.run_catchException_of_ok htry), verdictsOn, if_pos hempty,
      if_pos hempty, List.append_nil, List.append_nil]
    rfl
  · have htry := run_decideOnId_of_ne hempty h
    rw [poll, Prog.run_bind_of_ok (Prog.run_catchException_of_ok htry), if_neg hempty,
      ← List.append_assoc]
    exact run_print .blank _

theorem cout_finalState_of_ok {id : Str} {r' : Reader π}
    (h : (Reader.getID port).run s.reader = .ok id r') :
    ((poll port).finalState s).reader.cout =
      r'.cout ++ (verdictsOn s.accessGrantedIds id ++ if id = [] then [] else [.blank]) := by
  rw [Prog.finalState_of_ok (run_poll_of_ok h)]

/-- The `catch` block: the report is printed before the flush, which may throw. -/
theorem run_reportException (e : Exception) (s : AccessControlSystem π) :
    (reportException port e).run s =
      let cout := s.reader.cout ++ [.exceptionReport s.reader.dataString s.reader.writtenBytes
        s.reader.responseString e.what]
      match port.flush.run s.reader.serialPort with
      | .ok _ q => .ok true { s with reader := { s.reader with serialPort := q, cout } }
      | .error e' q =>
        .error (.exception e') { s with reader := { s.reader with serialPort := q, cout } } := by
  rw [reportException, EStateM.run_bind, EStateM.run_get]
  dsimp only
  rw [Prog.run_bind_of_ok (run_print ..), EStateM.run_bind, onReader, Reader.flushSerialPort,
    Reader.onSerialPort, Prog.run_onField, Prog.run_onField, Prog.run_ofThrowing]
  dsimp only
  cases port.flush.run s.reader.serialPort with
  | ok _ q => rfl
  | error e' q => rfl

/-- A fault ends the poll. -/
theorem run_poll_of_fault {r' : Reader π}
    (h : (Reader.getID port).run s.reader = .error .fault r') :
    (poll port).run s = .error .fault { s with reader := r' } := by
  have htry : (decideOnId port).run s = .error .fault { s with reader := r' } :=
    Prog.run_bind_of_error (run_onReader_of_error h)
  exact Prog.run_bind_of_error (Prog.run_catchException_of_fault htry)

/-- If `GetID` throws, the poll goes on behind the handler unless the flush throws. -/
theorem run_poll_of_exception {e : Exception} {r' : Reader π}
    (h : (Reader.getID port).run s.reader = .error (.exception e) r') :
    (poll port).run s =
      let reader : Reader π := { r' with cout := r'.cout ++ reportOn port r' (.exception e) }
      match port.flush.run r'.serialPort with
      | .ok _ q => .ok () { s with reader := { reader with serialPort := q } }
      | .error e' q =>
        .error (.exception e') { s with reader := { reader with serialPort := q } } := by
  have htry : (decideOnId port).run s = .error (.exception e) { s with reader := r' } :=
    Prog.run_bind_of_error (run_onReader_of_error h)
  have hcatch : (Prog.catchException (decideOnId port) (reportException port)).run s =
      (reportException port e).run { s with reader := r' } :=
    Prog.run_catchException_of_exception htry
  rw [run_reportException] at hcatch
  rw [poll, reportOn]
  dsimp only at hcatch ⊢
  cases hflush : port.flush.run r'.serialPort with
  | ok _ q =>
    rw [hflush] at hcatch
    rw [Prog.run_bind_of_ok hcatch, if_pos rfl, run_print]
    dsimp only
    rw [List.append_assoc]
    rfl
  | error e' q =>
    rw [hflush] at hcatch
    rw [Prog.run_bind_of_error hcatch]

/-- If `GetID` fails, the poll prints what the handler does, and a blank line behind it. -/
theorem cout_finalState_of_error {f : Failure Exception} {r' : Reader π}
    (h : (Reader.getID port).run s.reader = .error f r') :
    ((poll port).finalState s).reader.cout = r'.cout ++ reportOn port r' f := by
  cases f with
  | fault => rw [Prog.finalState_of_error (run_poll_of_fault h), reportOn, List.append_nil]
  | exception e =>
    rw [Prog.finalState, run_poll_of_exception h]
    rcases port.flush.run r'.serialPort with ⟨_, q⟩ | ⟨e', q⟩ <;> rfl

/-- If `GetID` returns, the poll decides on the id. -/
theorem verdicts_of_ok {id : Str} {r' : Reader π}
    (h : (Reader.getID port).run s.reader = .ok id r') :
    verdicts port s = verdictsOn s.accessGrantedIds id := by
  obtain ⟨more, hcout, hmore⟩ := noVerdictSince_getID port s.reader
  rw [Prog.finalState_of_ok h] at hcout
  -- the blank line is no verdict
  have hdecision : ConsoleLine.verdictsIn (verdictsOn s.accessGrantedIds id ++
      if id = [] then [] else [.blank]) = verdictsOn s.accessGrantedIds id := by
    unfold verdictsOn
    split_ifs <;> rfl
  rw [verdicts, printed, cout_finalState_of_ok h, hcout, List.append_assoc, List.drop_left,
    ConsoleLine.verdictsIn_append, hmore, hdecision, List.nil_append]

/-- If `GetID` fails, the poll prints no verdict. -/
theorem verdicts_of_error {e : Failure Exception} {r' : Reader π}
    (h : (Reader.getID port).run s.reader = .error e r') : verdicts port s = [] := by
  obtain ⟨more, hcout, hmore⟩ := noVerdictSince_getID port s.reader
  rw [Prog.finalState_of_error h] at hcout
  -- neither the report nor the blank line is a verdict
  have hreport : ConsoleLine.verdictsIn (reportOn port r' e) = [] := by
    cases e with
    | fault => rfl
    | exception e =>
      obtain ⟨behind, hbehind, hreport⟩ := exists_reportOn_exception port r' e
      rw [hreport]
      rcases hbehind with rfl | rfl <;> rfl
  rw [verdicts, printed, cout_finalState_of_error h, hcout, List.append_assoc, List.drop_left,
    ConsoleLine.verdictsIn_append, hmore, hreport, List.nil_append]

/-- A poll grants access iff `GetID` returned an accepted id that is not empty. -/
theorem accessGranted_mem_printed_iff :
    .accessGranted ∈ printed port s ↔
      ∃ id r', (Reader.getID port).run s.reader = .ok id r' ∧ id ≠ [] ∧
        id ∈ s.accessGrantedIds := by
  -- what holds of the verdicts holds of all messages
  have hverdict : .accessGranted ∈ printed port s ↔ .accessGranted ∈ verdicts port s := by
    simp [verdicts, ConsoleLine.verdictsIn, ConsoleLine.IsVerdict]
  rw [hverdict]
  cases hrun : (Reader.getID port).run s.reader with
  | ok id r' =>
    rw [verdicts_of_ok hrun, verdictsOn]
    split_ifs with hempty hmem <;> simp [*]
  | error e r' => simp [verdicts_of_error hrun]

end AccessControlSystem

end DoorAcs
