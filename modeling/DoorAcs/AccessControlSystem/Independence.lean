import DoorAcs.AccessControlSystem.Transcript

/-!
# What the decisions do not depend on

Two ports are alike if they differ at most in the numbers of bytes that they say were written. Under
alike ports, systems that differ at most in the members that a report shows give the same verdicts
(`agreesWith_mainLoop`). So what the reader holds of earlier exchanges decides nothing
(`mainLoop_forgets`), and a frame that is not written whole goes unnoticed (`main_ignoresCounts`).
-/

namespace DoorAcs

open Cpp

variable {π : Type}

/-! ## Ports that are alike -/

namespace SerialPort

/-- The ports do the same, but may disagree about how much they wrote. -/
structure Alike (port port' : SerialPort π) : Prop where
  getTimeout_eq : port.getTimeout = port'.getTimeout
  setTimeout_eq : port.setTimeout = port'.setTimeout
  isOpen_eq : port.isOpen = port'.isOpen
  ask_eq : port.ask = port'.ask
  text?_eq : port.text? = port'.text?
  flush_eq : port.flush = port'.flush

namespace Alike

variable {port port' : SerialPort π}

/-- Every port is like itself. -/
theorem refl (port : SerialPort π) : port.Alike port := ⟨rfl, rfl, rfl, rfl, rfl, rfl⟩

/-- Being alike is symmetric. -/
theorem symm (h : port.Alike port') : port'.Alike port :=
  ⟨h.getTimeout_eq.symm, h.setTimeout_eq.symm, h.isOpen_eq.symm, h.ask_eq.symm, h.text?_eq.symm,
    h.flush_eq.symm⟩

/-- The reader device is set up alike. -/
theorem setUp_eq (h : port.Alike port') : port.setUp = port'.setUp := by
  have htimeouts : port.setTimeouts = port'.setTimeouts := by
    funext q
    rw [setTimeouts, setTimeouts, h.getTimeout_eq, h.setTimeout_eq]
  rw [setUp, setUp, initialise, initialise, htimeouts, h.isOpen_eq, h.flush_eq, h.ask_eq]

/-- A search goes alike: the counts of written bytes are not looked at. -/
theorem askSearch_eq (h : port.Alike port') : port.askSearch = port'.askSearch := by
  rw [askSearch, askSearch, h.ask_eq]

/-- An exchange with the card goes alike. -/
theorem askCard_eq (h : port.Alike port') : port.askCard = port'.askCard := by
  ext frame : 1
  rw [askCard, askCard, h.ask_eq]

/-- A poll goes alike. -/
theorem converse_eq (h : port.Alike port') : port.converse = port'.converse := by
  rw [converse, converse, h.askSearch_eq, askHce, askHce, h.askCard_eq]

/-- A reply declares more bytes than it has on the one iff on the other. -/
theorem overruns_iff (h : port.Alike port') {q : π} : port.Overruns q ↔ port'.Overruns q := by
  have hbroken : port.brokenOff? q = port'.brokenOff? q := by
    rw [brokenOff?, brokenOff?, h.askSearch_eq, h.askCard_eq]
  simp only [Overruns, OverrunsIn, hbroken, h.text?_eq]

end Alike

/-- The port, with other numbers of bytes written. -/
def miscounting (count : Str → ℕ → π → ℕ) (port : SerialPort π) : SerialPort π :=
  { port with
    write := fun frame => do
      let n ← port.write frame
      return count frame n (← get) }

section Miscounting

variable {port : SerialPort π} (count : Str → ℕ → π → ℕ) {frame : Str} {q q' : π}

/-- A write that succeeds reports the other count. -/
theorem run_write_miscounting_of_ok {n : ℕ} (h : (port.write frame).run q = .ok n q') :
    ((port.miscounting count).write frame).run q = .ok (count frame n q') q' := by
  rw [miscounting, EStateM.run_bind, h]
  rfl

/-- A write that throws does so as before. -/
theorem run_write_miscounting_of_error {e : Exception}
    (h : (port.write frame).run q = .error e q') :
    ((port.miscounting count).write frame).run q = .error e q' := by
  rw [miscounting, EStateM.run_bind, h]

/-- What is read is all that is looked at. -/
theorem alike_miscounting : port.Alike (port.miscounting count) := by
  refine ⟨rfl, rfl, rfl, ?_, ?_, rfl⟩
  · funext frame q
    change (port.ask frame).run q = ((port.miscounting count).ask frame).run q
    rw [ask, ask, EStateM.run_bind, EStateM.run_bind, Spec.run_ofThrowing, Spec.run_ofThrowing]
    cases h : (port.write frame).run q with
    | ok n q' =>
      rw [run_write_miscounting_of_ok count h]
      rfl
    | error e q' => rw [run_write_miscounting_of_error count h]
  · ext frame q : 2
    rw [text?, text?]
    cases h : (port.write frame).run q with
    | ok n q' =>
      rw [run_write_miscounting_of_ok count h]
      rfl
    | error e q' => rw [run_write_miscounting_of_error count h]

end Miscounting

end SerialPort

namespace AccessControlSystem

variable {port port' : SerialPort π} {s s' : AccessControlSystem π}

/-! ## Systems that agree -/

/-- The systems are in the same state but for the members that a report shows, and they have given
the same verdicts. -/
structure AgreesWith (s s' : AccessControlSystem π) : Prop where
  isRunning_eq : s.isRunning = s'.isRunning
  accessGrantedIds_eq : s.accessGrantedIds = s'.accessGrantedIds
  serialPort_eq : s.reader.serialPort = s'.reader.serialPort
  verdicts_eq : ConsoleLine.verdictsIn s.reader.cout = ConsoleLine.verdictsIn s'.reader.cout

/-- One poll: the port decides which conversation there is, and where it leaves the port. -/
theorem serialPort_eq_of_polls (h : port.Alike port') {t u t' u' : PollState π}
    {result result' : PollResult} (hport : t.serialPort = u.serialPort)
    (hpolls : Polls port t result t') (hpolls' : Polls port' u result' u') :
    t'.serialPort = u'.serialPort ∧ result.conversation? = result'.conversation? := by
  cases hpolls with
  | held hconverse =>
    rw [h.converse_eq] at hconverse
    cases hport
    cases hpolls' with
    | held hconverse' =>
      cases hconverse.symm.trans hconverse'
      exact ⟨rfl, rfl⟩
    | reported hconverse' => cases hconverse.symm.trans hconverse'
  | reported hconverse hfails hflush =>
    rw [h.converse_eq] at hconverse
    rw [h.flush_eq] at hflush
    cases hport
    cases hpolls' with
    | held hconverse' => cases hconverse.symm.trans hconverse'
    | reported hconverse' hfails' hflush' =>
      cases hconverse.symm.trans hconverse'
      cases hflush.symm.trans hflush'
      exact ⟨rfl, rfl⟩

/-- A poll derails on the one iff on the other. -/
theorem derails_iff (h : port.Alike port') {q : π} : Derails port q ↔ Derails port' q := by
  have hderails {port port' : SerialPort π} (h : port.Alike port') (hq : Derails port q) :
      Derails port' q := by
    cases hq with
    | overruns hoverruns => exact .overruns (h.overruns_iff.mp hoverruns)
    | flush hconverse hflush =>
      rw [h.converse_eq] at hconverse
      rw [h.flush_eq] at hflush
      exact .flush hconverse hflush
  exact ⟨hderails h, hderails h.symm⟩

/-- Alike ports have traces of the same lengths. -/
theorem exists_trace_of_alike (h : port.Alike port') {t u : PollState π}
    (hport : t.serialPort = u.serialPort) {n : ℕ}
    (htrace : ∃ results t', results.length = n ∧ Trace (Polls port) t results t') :
    ∃ results u', results.length = n ∧ Trace (Polls port') u results u' := by
  obtain ⟨results, t', rfl, htrace⟩ := htrace
  refine htrace.exists_of_related (R := fun t u => t.serialPort = u.serialPort) ?_ hport
  intro t u result t' hport hpolls
  have hstep : ∃ result' u', Polls port' u result' u' := by
    rw [exists_polls_iff, ← derails_iff h, ← hport, ← exists_polls_iff]
    exact ⟨result, t', hpolls⟩
  obtain ⟨result', u', hpolls'⟩ := hstep
  exact ⟨result', u', hpolls', (serialPort_eq_of_polls h hport hpolls hpolls').1⟩

/-- Systems that agree do as many polls under alike ports, and agree behind them. -/
theorem agreesWith_mainLoop (h : port.Alike port') (hs : s.AgreesWith s') (n : ℕ) :
    ((∃ u, (mainLoop port n).run s = .ok () u) ↔ ∃ u', (mainLoop port' n).run s' = .ok () u') ∧
    ∀ u u', (mainLoop port n).run s = .ok () u → (mainLoop port' n).run s' = .ok () u' →
      u.AgreesWith u' := by
  by_cases hrunning : s.isRunning = true
  · have hfollows := loopFollows_poll port s.accessGrantedIds
    have hfollows' := loopFollows_poll port' s.accessGrantedIds
    have hwith : s.RunsWith s.accessGrantedIds := ⟨hrunning, rfl⟩
    have hwith' : s'.RunsWith s.accessGrantedIds :=
      ⟨hs.isRunning_eq.symm.trans hrunning, hs.accessGrantedIds_eq.symm⟩
    have hport : s.pollState.serialPort = s'.pollState.serialPort := hs.serialPort_eq
    refine ⟨?_, fun u u' hrun hrun' => ?_⟩
    · refine (hfollows.exists_run_iff n hwith).trans ?_
      refine Iff.trans ?_ (hfollows'.exists_run_iff n hwith').symm
      exact ⟨exists_trace_of_alike h hport, exists_trace_of_alike h.symm hport.symm⟩
    · obtain ⟨hu, results, hlength, htrace, hcout⟩ := hfollows.exists_trace hwith hrun
      obtain ⟨hu', results', hlength', htrace', hcout'⟩ := hfollows'.exists_trace hwith' hrun'
      obtain ⟨hport', hresults⟩ := htrace.lockstep
        (R := fun t u => t.serialPort = u.serialPort)
        (serialPort_eq_of_polls h) htrace' (hlength.trans hlength'.symm) hport
      refine ⟨hu.1.trans hu'.1.symm, hu.2.trans hu'.2.symm, hport', ?_⟩
      rw [hcout, hcout', ConsoleLine.verdictsIn_append, ConsoleLine.verdictsIn_append,
        PollResult.verdictsIn_flatMap_lines, PollResult.verdictsIn_flatMap_lines, hresults,
        hs.verdicts_eq]
  · -- the loop ends before its first poll
    have hrunning' : ¬ s'.isRunning = true := hs.isRunning_eq ▸ hrunning
    have hrun : (mainLoop port n).run s = .ok () s := Prog.run_repeatWhile_of_not hrunning n
    have hrun' : (mainLoop port' n).run s' = .ok () s' := Prog.run_repeatWhile_of_not hrunning' n
    refine ⟨iff_of_true ⟨_, hrun⟩ ⟨_, hrun'⟩, fun u u' hu hu' => ?_⟩
    cases hrun.symm.trans hu
    cases hrun'.symm.trans hu'
    exact hs

/-! ## What decides nothing -/

/-- The system with other members about earlier exchanges. -/
def remembering (s : AccessControlSystem π) (d : Diagnostics) : AccessControlSystem π :=
  { s with reader := { s.reader with
      dataString := d.dataString, writtenBytes := d.writtenBytes
      responseString := d.responseString } }

/-- What the reader holds of earlier exchanges decides nothing: with other members, the loop does as
many polls, gives the same verdicts and leaves the port in the same state. -/
theorem mainLoop_forgets (port : SerialPort π) (s : AccessControlSystem π) (d : Diagnostics)
    (n : ℕ) :
    ((∃ u, (mainLoop port n).run s = .ok () u) ↔
      ∃ u', (mainLoop port n).run (s.remembering d) = .ok () u') ∧
    ∀ u u', (mainLoop port n).run s = .ok () u →
      (mainLoop port n).run (s.remembering d) = .ok () u' →
      u.reader.serialPort = u'.reader.serialPort ∧
        ConsoleLine.verdictsIn u.reader.cout = ConsoleLine.verdictsIn u'.reader.cout := by
  have hagrees : s.AgreesWith (s.remembering d) := ⟨rfl, rfl, rfl, rfl⟩
  obtain ⟨hruns, hends⟩ := agreesWith_mainLoop (.refl port) hagrees n
  refine ⟨hruns, fun u u' hrun hrun' => ?_⟩
  exact ⟨(hends u u' hrun hrun').serialPort_eq, (hends u u' hrun hrun').verdicts_eq⟩

/-- How much of a frame was written decides nothing: with other counts, the program does as many
polls, gives the same verdicts and leaves the port in the same state. -/
theorem main_ignoresCounts (port : SerialPort π) (count : Str → ℕ → π → ℕ) (q : π) (n : ℕ) :
    ((∃ u, (main port n).run (start q) = .ok () u) ↔
      ∃ u', (main (port.miscounting count) n).run (start q) = .ok () u') ∧
    ∀ u u', (main port n).run (start q) = .ok () u →
      (main (port.miscounting count) n).run (start q) = .ok () u' →
      u.reader.serialPort = u'.reader.serialPort ∧
        ConsoleLine.verdictsIn u.reader.cout = ConsoleLine.verdictsIn u'.reader.cout := by
  have halike : port.Alike (port.miscounting count) := SerialPort.alike_miscounting count
  have hagrees (q₁ : π) : (ready q₁).AgreesWith (ready q₁) := ⟨rfl, rfl, rfl, rfl⟩
  simp only [run_main_eq_ok_iff, ← halike.setUp_eq]
  refine ⟨?_, ?_⟩
  · constructor
    · rintro ⟨u, q₁, hsetUp, hrun⟩
      obtain ⟨u', hrun'⟩ := (agreesWith_mainLoop halike (hagrees q₁) n).1.mp ⟨u, hrun⟩
      exact ⟨u', q₁, hsetUp, hrun'⟩
    · rintro ⟨u', q₁, hsetUp, hrun'⟩
      obtain ⟨u, hrun⟩ := (agreesWith_mainLoop halike (hagrees q₁) n).1.mpr ⟨u', hrun'⟩
      exact ⟨u, q₁, hsetUp, hrun⟩
  · rintro u u' ⟨q₁, hsetUp, hrun⟩ ⟨q₂, hsetUp', hrun'⟩
    cases hsetUp.symm.trans hsetUp'
    have hends := (agreesWith_mainLoop halike (hagrees q₁) n).2 u u' hrun hrun'
    exact ⟨hends.serialPort_eq, hends.verdicts_eq⟩

end AccessControlSystem

end DoorAcs
