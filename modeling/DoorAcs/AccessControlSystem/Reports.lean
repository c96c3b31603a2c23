import DoorAcs.AccessControlSystem.Poll
import DoorAcs.Reader.Diagnostics
import DoorAcs.SerialPort.Script

/-!
# Which exchange a report is about

The handler of `MainLoop` prints the frame sent, the number of bytes written and the text read. A
report describes the exchange that the poll breaks off in if it shows what came of that exchange,
and zero or nothing in place of what did not.

* `reportsDescribe_iff`: all reports of a run do, exactly if no poll breaks off in a write or a read
  while the reader holds something from before.
-/

namespace DoorAcs

open Cpp

variable {π : Type}

/-! ## Reports among the messages -/

namespace AccessControlSystem

variable {port : SerialPort π} {s : AccessControlSystem π}

theorem exceptionReport_mem_reportOn_iff {r : Reader π} {f : Failure Exception}
    {sent response : Str} {written : Int32} {what : String} :
    .exceptionReport sent written response what ∈ reportOn port r f ↔
      ∃ e, f = .exception e ∧ r.diagnostics = ⟨sent, written, response⟩ ∧ e.what = what := by
  cases f with
  | fault => simp [reportOn]
  | exception e =>
    obtain ⟨more, hmore, hreport⟩ := exists_reportOn_exception port r e
    -- only the first of the messages is a report
    have hnone : .exceptionReport sent written response what ∉ more := by
      rcases hmore with rfl | rfl <;> simp
    rw [hreport, List.mem_cons, or_iff_left hnone]
    constructor
    · intro h
      cases h
      exact ⟨e, rfl, rfl, rfl⟩
    · rintro ⟨e', he, hmembers, rfl⟩
      cases he
      cases hmembers
      rfl

/-- A poll prints a report iff `GetID` threw, and the report is of the reader as it was then. -/
theorem exceptionReport_mem_printed_iff {sent response : Str} {written : Int32} {what : String} :
    .exceptionReport sent written response what ∈ printed port s ↔
      ∃ e r', (Reader.getID port).run s.reader = .error (.exception e) r' ∧
        r'.diagnostics = ⟨sent, written, response⟩ ∧ e.what = what := by
  obtain ⟨more, hcout, hmore⟩ := Reader.exists_cout_getID port s.reader
  -- `GetID` prints no report
  have hnone : .exceptionReport sent written response what ∉ more := by
    intro hmem
    cases hmore _ hmem
  rw [printed]
  cases hrun : (Reader.getID port).run s.reader with
  | ok id r' =>
    rw [Prog.finalState_of_ok hrun] at hcout
    rw [cout_finalState_of_ok hrun, hcout, List.append_assoc, List.drop_left]
    unfold verdictsOn
    split_ifs <;> simp [hnone]
  | error f r' =>
    rw [Prog.finalState_of_error hrun] at hcout
    rw [cout_finalState_of_error hrun, hcout, List.append_assoc, List.drop_left, List.mem_append,
      or_iff_right hnone, exceptionReport_mem_reportOn_iff]
    constructor
    · rintro ⟨e, rfl, hreport⟩
      exact ⟨e, r', rfl, hreport⟩
    · rintro ⟨e, r'', heq, hreport⟩
      cases heq
      exact ⟨e, rfl, hreport⟩

/-! ## Reports about one exchange -/

variable (port) in
/-- A report of the poll begun in `s` shows the frame of the exchange that the poll breaks off in,
and the number of bytes and the text that came of that exchange, or zero and nothing. -/
def ReportsDescribe (s : AccessControlSystem π) : Prop :=
  ∀ sent written response what, .exceptionReport sent written response what ∈ printed port s →
    ∃ frame q, port.brokenOff? s.reader.serialPort = some (frame, q) ∧
      Diagnostics.mk sent written response = .ofExchange port frame q

variable (port) in
/-- The poll begun with `r` breaks off in a write or a read while the reader holds something from
before: the reply to the search if it is an exchange with the card, and what the last poll left if
it is the search. -/
def ReportsEarlier (r : Reader π) : Prop :=
  ∃ frame q, port.brokenOff? r.serialPort = some (frame, q) ∧ port.text? frame q = none ∧
    (frame = searchFrame →
      r.responseString ≠ [] ∨ port.written? frame q = none ∧ r.writtenBytes ≠ 0)

/-- The reports of a poll describe the exchange that it breaks off in, exactly if the reader holds
nothing from before when that exchange ends early. -/
theorem poll_reportsDescribe_iff (s : AccessControlSystem π) :
    ReportsDescribe port s ↔ ¬ ReportsEarlier port s.reader := by
  constructor
  · rintro hdescribe ⟨frame, q, hbroken, htext, hheld⟩
    -- `GetID` fails in that exchange, and with an exception
    obtain ⟨q', hconverse⟩ := SerialPort.run_converse_of_brokenOff? hbroken
    obtain ⟨f, r', hrun, -⟩ := Reader.refines_getID.exists_error hconverse
    obtain ⟨frame', q₁, d, hbroken', hmembers, hfault, hbefore⟩ := Reader.brokeOff_of_run_getID hrun
    cases hbroken.symm.trans hbroken'
    cases f with
    | fault => exact hfault rfl htext
    | exception e =>
      -- the report is about another exchange unless the members were empty before
      obtain ⟨frame', q', hbroken', hreport⟩ := hdescribe _ _ _ _
        (exceptionReport_mem_printed_iff.mpr ⟨e, r', hrun, rfl, rfl⟩)
      cases hbroken.symm.trans hbroken'
      have hempty := Diagnostics.behind_eq_ofExchange_iff.mp (hmembers.symm.trans hreport)
      by_cases hframe : frame = searchFrame
      · rw [if_pos hframe] at hbefore
        subst hbefore
        rcases hheld hframe with hresponse | ⟨hwritten, hcount⟩
        · exact hresponse (hempty.2 htext)
        · exact hcount (hempty.1 hwritten)
      · rw [if_neg hframe] at hbefore
        exact hbefore (hempty.2 htext)
  · intro hearlier sent written response what hmem
    obtain ⟨e, r', hrun, hmembers, -⟩ := exceptionReport_mem_printed_iff.mp hmem
    obtain ⟨frame, q, d, hbroken, hbehind, -, hbefore⟩ := Reader.brokeOff_of_run_getID hrun
    refine ⟨frame, q, hbroken, ?_⟩
    rw [← hmembers, hbehind, Diagnostics.behind_eq_ofExchange_iff]
    -- what is missing of the exchange was empty when it began
    have hempty (htext : port.text? frame q = none) :
        (port.written? frame q = none → d.writtenBytes = 0) ∧ d.responseString = [] := by
      by_contra hheld
      refine hearlier ⟨frame, q, hbroken, htext, fun hframe => ?_⟩
      rw [if_pos hframe] at hbefore
      subst hbefore
      by_contra hnot
      rw [not_or, not_not, not_and_not_right] at hnot
      exact hheld hnot.symm
    refine ⟨fun hwritten => ?_, fun htext => (hempty htext).2⟩
    exact (hempty (SerialPort.text?_eq_none_of_written?_eq_none hwritten)).1 hwritten

/-- In every run of the main loop: each report describes the exchange that its poll breaks off in,
exactly if no poll breaks off in a write or a read while the reader holds something from before. -/
theorem reportsDescribe_iff (port : SerialPort π) (s₀ : AccessControlSystem π) :
    (∀ s, BeginsPoll port s₀ s → ReportsDescribe port s) ↔
      ∀ s, BeginsPoll port s₀ s → ¬ ReportsEarlier port s.reader :=
  forall_congr' fun s => forall_congr' fun _ => poll_reportsDescribe_iff s

/-- A tag is found, and then the reader device is unplugged. -/
def unplugged : Script :=
  { timeout := .simpleTimeout 700
    configurations := Stream'.const (.ok ())
    isOpen := true
    writes := Stream'.cons (.ok 7) (Stream'.const (.error (.serial
      "IO Exception: Error while writing to the serial port: 22, file win.cc, line 355.")))
    reads := Stream'.const (.ok "000180200469B90152\r".toList)
    flushes := Stream'.const (.ok ())
    log := [] }

/-- The report shows SELECT FILE as sent, with the bytes written of the search and its reply. -/
theorem not_reportsDescribe_unplugged :
    ¬ ∀ s₀ s : AccessControlSystem Script, BeginsPoll Script.port s₀ s →
      ReportsDescribe Script.port s := by
  intro hall
  let s : AccessControlSystem Script := { start unplugged with isRunning := true }
  -- the write throws, so there is no text of this exchange, and it is not the search
  have hearlier : ReportsEarlier Script.port s.reader :=
    ⟨selectFileFrame, _, rfl, rfl, fun hframe => absurd hframe (by decide)⟩
  exact (poll_reportsDescribe_iff s).mp (hall s s ⟨.refl, rfl⟩) hearlier

end AccessControlSystem

end DoorAcs
