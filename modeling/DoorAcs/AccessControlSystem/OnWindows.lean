import DoorAcs.AccessControlSystem.PortInvariant
import DoorAcs.SerialPort.Calls

/-!
# The program on Windows

The access control system with the serial library as its port: `openSerialPort` is the member
initialiser that opens the port before the body of the reader's constructor runs, and `Serial.port`
is what the program does to it from then on.

* `main_uses`: whenever the program uses the port, the handle is open, the settings of the reader
  are in force, and the mutexes that the call needs are held.
* `main_calls`: the calls of the Windows API that a run makes.
* `derails_iff_overruns`: where the mutexes can be claimed, a poll derails only by an overrun. So
  the program goes on for good iff no poll overruns a reply (`main_endless_onWindows`).
-/

namespace DoorAcs

open Cpp

variable {ω : Type}

/-- `COM_PORT` -/
def comPort : Str := "COM3".toList

/-- `BAUD_RATE` -/
def baudRate : UInt32 := 9600

/-- `SERIAL_PORT_TIMEOUT` -/
def serialPortTimeout : UInt32 := 700

namespace Reader

/-- The initialisation of `serial_port_`. -/
def openSerialPort (win : WinApi ω) : Prog Exception (SerialImpl ω) Unit :=
  Serial.construct win (.simpleTimeout serialPortTimeout)

/-- The members of `serial_port_` before. The constructor has defaults for all but the first two. -/
def unopenedSerialPort (os : ω) : SerialImpl ω :=
  .start comPort baudRate .eightbits .none .one .none os

/-- The settings that the reader asks for, once it has set its timeouts. -/
def settings : Settings :=
  { timeout := ⟨0, serialPortTimeout, 0, serialPortTimeout, 0⟩
    baudrate := baudRate
    parity := .none
    bytesize := .eightbits
    stopbits := .one
    flowcontrol := .none }

/-- The settings in Windows' own terms: 9600 baud, eight data bits, no parity, one stop bit, no flow
control, and a read that returns at the latest after 700 milliseconds. -/
theorem inForce_settings {fd : Handle} {calls : List ApiCall} (h : settings.InForce fd calls) :
    ∃ dcb, dcbInForce fd calls = some dcb ∧
      dcb = { dcb with
        baudRate := 9600, byteSize := 8, parity := 0, stopBits := 0
        fOutxCtsFlow := false, fRtsControl := rtsControlDisable, fOutX := false, fInX := false } ∧
      timeoutsInForce fd calls = some
        { readIntervalTimeout := 0
          readTotalTimeoutConstant := 700
          readTotalTimeoutMultiplier := 0
          writeTotalTimeoutConstant := 700
          writeTotalTimeoutMultiplier := 0 } := by
  obtain ⟨⟨old, dcb, hdcb, hinForce⟩, htimeouts⟩ := h
  refine ⟨dcb, hinForce, ?_, htimeouts⟩
  cases hdcb
  rfl

/-- The calls that open the port. It is configured when it is opened, with the timeout that its
constructor is given, and with the timeouts of the reader. -/
inductive OpeningCalls : List ApiCall → Prop where
  | intro {calls₀ calls₁ calls₂}
      (hcalls₀ : Configures { settings with timeout := ⟨0, 0, 0, 0, 0⟩ } 0 calls₀ true)
      (hcalls₁ : Configures { settings with timeout := .simpleTimeout serialPortTimeout } 0 calls₁
        true)
      (hcalls₂ : Configures settings 0 calls₂ true) :
      OpeningCalls (.createFile "\\\\.\\COM3".toList (some 0) :: calls₀ ++
        [.createMutex .read, .createMutex .write] ++ calls₁ ++ calls₂)

namespace OpeningCalls

variable {calls : List ApiCall} (h : OpeningCalls calls)
include h

theorem closeHandle_not_mem (fd : Handle) : .closeHandle fd true ∉ calls := by
  obtain ⟨hcalls₀, hcalls₁, hcalls₂⟩ := h
  simp [hcalls₀.not_mem_of_ok, hcalls₁.not_mem_of_ok, hcalls₂.not_mem_of_ok]

theorem io_not_mem (fd? : Option Handle) (call : IoCall) : .io fd? call ∉ calls := by
  obtain ⟨hcalls₀, hcalls₁, hcalls₂⟩ := h
  simp [hcalls₀.io_not_mem, hcalls₁.io_not_mem, hcalls₂.io_not_mem]

theorem inForce : settings.InForce 0 calls := by
  obtain ⟨-, -, hcalls₂⟩ := h
  exact hcalls₂.inForce

end OpeningCalls

/-- What is known of a port that could be opened: one handle is in use, nothing was closed, and the
timeouts of the reader complete its opening. -/
structure Opened (s : SerialImpl ω) : Prop where
  onHandle : s.OnHandle 0
  settings_eq : s.settings = { settings with timeout := .simpleTimeout serialPortTimeout }
  tracked : s.Tracked
  closeHandle_not_mem : ∀ fd, .closeHandle fd true ∉ s.calls
  io_not_mem : ∀ fd? call, .io fd? call ∉ s.calls
  openingCalls : ∀ {calls}, Configures settings 0 calls true → OpeningCalls (s.calls ++ calls)

namespace Opened

variable {s : SerialImpl ω} (hs : Opened s) {calls : List ApiCall}
include hs

theorem withoutInterByteTimeout_eq : s.settings.withoutInterByteTimeout = settings := by
  rw [hs.settings_eq]
  rfl

/-- The handle is open. -/
theorem accepts : handleMonitor.Accepts s.calls ∧ 0 ∈ live s.calls :=
  (hs.tracked.accepts_iff_of_open hs.onHandle.1.isOpen hs.onHandle.1.fd_eq).mp
    (refusalMonitor_accepts hs.closeHandle_not_mem)

/-- Behind the timeouts of the reader, the port is open with its settings. -/
theorem openWith (hcalls : Configures settings 0 calls true) (os : ω) :
    SerialImpl.OpenWith settings 0 { s.behind os calls with settings } := by
  have hopening := hs.openingCalls hcalls
  have hstep : SerialImpl.Step s { s.behind os calls with settings } :=
    .reconfigured hs.onHandle.1.isOpen hs.onHandle.1.fd_eq hcalls
  -- no handle was closed, so none was closed for a refusal
  obtain ⟨hhandles, hlive⟩ := ((SerialImpl.keptBySteps_tracked _ _ hstep
    hs.tracked).accepts_iff_of_open hs.onHandle.1.isOpen hs.onHandle.1.fd_eq).mp
      (refusalMonitor_accepts hopening.closeHandle_not_mem)
  exact ⟨⟨hs.onHandle.1.isOpen, hs.onHandle.1.fd_eq⟩,
    ⟨hhandles, settingsMonitor_accepts hopening.io_not_mem⟩, hlive, hopening.inForce⟩

/-- If they are refused, the port has not been used. -/
theorem usedWith (hcalls : Configures settings 0 calls false) {s' : SerialImpl ω}
    (hs' : s'.calls = s.calls ++ calls) : s'.UsedWith settings 0 := by
  obtain ⟨hhandles, hlive⟩ := hs.accepts
  refine ⟨?_, settingsMonitor_accepts fun fd? call => ?_⟩
  · rw [hs', Monitor.accepts_append]
    exact ⟨hhandles, (hcalls.handle_allowsAll_iff _).mpr hlive⟩
  · rw [hs', List.mem_append]
    exact not_or.mpr ⟨hs.io_not_mem fd? call, hcalls.io_not_mem fd? call⟩

end Opened

variable {win : WinApi ω} {os : ω} {s : SerialImpl ω}

/-- The port that could be opened. -/
theorem opened_of_run_openSerialPort
    (h : (openSerialPort win).run (unopenedSerialPort os) = .ok () s) : Opened s := by
  have hlocked : Prog.Safe (SerialImpl.Locked 0 0) (openSerialPort win) := Serial.safe_construct _
  have hkept : Prog.Preserves SerialImpl.Tracked (openSerialPort win) :=
    Serial.preserves_construct SerialImpl.keptBySteps_tracked _
  have hs := hlocked.of_run_eq_ok
    (Serial.locked_start comPort baudRate .eightbits .none .one .none os) h
  have htracked := hkept.of_run_eq_ok
    (Serial.tracked_start comPort baudRate .eightbits .none .one .none os) h
  obtain ⟨_, s₀, hconstruct, htimeout⟩ := Prog.run_bind_eq_ok.mp h
  obtain ⟨os₀, calls₀, hcalls₀, rfl⟩ := SerialImpl.exists_of_run_construct win
    (show comPort ≠ [] by decide) hconstruct
  obtain ⟨os₁, calls₁, hcalls₁, rfl⟩ := SerialImpl.exists_of_run_set win rfl rfl htimeout
  refine ⟨⟨⟨rfl, rfl⟩, hs⟩, rfl, htracked, fun fd => ?_, fun fd? call => ?_, fun hcalls₂ =>
    .intro hcalls₀ hcalls₁ hcalls₂⟩
  · simp [SerialImpl.behind, unopenedSerialPort, SerialImpl.start, hcalls₀.not_mem_of_ok,
      hcalls₁.not_mem_of_ok]
  · simp [SerialImpl.behind, unopenedSerialPort, SerialImpl.start, hcalls₀.io_not_mem,
      hcalls₁.io_not_mem]

/-- The port can be opened on a system that grants everything. -/
theorem run_openSerialPort_granting (texts : List Str) :
    (openSerialPort .granting).run (unopenedSerialPort texts) =
      .ok () ((openSerialPort .granting).finalState (unopenedSerialPort texts)) := rfl

end Reader

namespace AccessControlSystem

variable {win : WinApi ω} {os : ω}

/-- The device takes the tag types, and then there is no tag. -/
def noTagTexts : List Str := ["00\r".toList, "0000\r".toList, "0000\r".toList]

/-- The program on a system that grants everything. -/
def granted (texts : List Str) :
    AccessControlSystem {s : SerialImpl (List Str) // s.OnHandle 0} :=
  start ⟨_, (Reader.opened_of_run_openSerialPort
    (Reader.run_openSerialPort_granting texts)).onHandle⟩

/-- Once settings are in force, exchanges and flushes keep them. -/
theorem keeps_openWith (win : WinApi ω) (settings : Settings) (fd : Handle) :
    (Serial.port win fd).Keeps fun s => s.1.OpenWith settings fd :=
  .of_operations
    (fun data => (Serial.safe_write_onHandle win data).preserves_toThrowing
      (Serial.preserves_write SerialImpl.keptByUse_openWith data))
    (fun size => (Serial.safe_read_onHandle win size).preserves_toThrowing
      (Serial.preserves_read SerialImpl.keptByUse_openWith size))
    ((Serial.safe_flush_onHandle win).preserves_toThrowing
      (Serial.preserves_flush SerialImpl.keptByUse_openWith))

/-- In every run of the program, whichever way it ends: whenever it has used the port, the handle
was open, the settings of the reader were in force, and the mutexes were held that the call needs.
-/
theorem main_uses {s₀ : SerialImpl ω}
    (h : (Reader.openSerialPort win).run (Reader.unopenedSerialPort os) = .ok () s₀) (n : ℕ) :
    let s := (main (Serial.port win 0) n).finalState
      (start ⟨s₀, (Reader.opened_of_run_openSerialPort h).onHandle⟩)
    ∀ older fd? call newer, s.reader.serialPort.1.calls = older ++ .io fd? call :: newer →
      fd? = some 0 ∧ 0 ∈ live older ∧ Reader.settings.InForce 0 older ∧
        call.Guarded fun mutex => held mutex older := by
  intro s older fd? call newer heq
  have hopened := Reader.opened_of_run_openSerialPort h
  have hused : s.reader.serialPort.1.UsedWith Reader.settings 0 := by
    refine (keeps_openWith win Reader.settings 0).of_main
      (K := fun s => s.1.UsedWith Reader.settings 0) (fun htimeouts => ?_)
      (fun hs => hs.toUsedWith) (fun htimeouts => ?_) n
    · obtain ⟨os', calls, hcalls, hs'⟩ := Serial.exists_of_run_setTimeouts_eq_ok htimeouts
      rw [hopened.withoutInterByteTimeout_eq] at hcalls hs'
      rw [hs']
      exact hopened.openWith hcalls os'
    · obtain ⟨calls, hcalls, hs'⟩ := Serial.exists_of_run_setTimeouts_eq_error htimeouts
      rw [hopened.withoutInterByteTimeout_eq] at hcalls
      exact hopened.usedWith hcalls hs'
  exact hused.of_calls_eq s.reader.serialPort.2.2 heq

/-- The device takes the tag types, and two polls find no tag. -/
theorem main_uses_granting :
    let s := (main (Serial.port .granting 0) 2).finalState
      (start ⟨_, (Reader.opened_of_run_openSerialPort
        (Reader.run_openSerialPort_granting noTagTexts)).onHandle⟩)
    ∀ older fd? call newer, s.reader.serialPort.1.calls = older ++ .io fd? call :: newer →
      fd? = some 0 ∧ 0 ∈ live older ∧ Reader.settings.InForce 0 older ∧
        call.Guarded fun mutex => held mutex older :=
  main_uses (Reader.run_openSerialPort_granting noTagTexts) 2

/-- Everything that a run of the program asks of Windows: it opens the port, flushes it and selects
the tag types, and then polls. The messages are about the same polls. -/
theorem main_calls {s₀ : SerialImpl ω}
    (h : (Reader.openSerialPort win).run (Reader.unopenedSerialPort os) = .ok () s₀) (n : ℕ)
    {s : AccessControlSystem {s : SerialImpl ω // s.OnHandle 0}}
    (hrun : (main (Serial.port win 0) n).run
      (start ⟨s₀, (Reader.opened_of_run_openSerialPort h).onHandle⟩) = .ok () s) :
    ∃ opening results parts, Reader.OpeningCalls opening ∧ results.length = n ∧
      List.Forall₂ (PollLog (exchangeCalls 0) (BrokenOffCalls 0) (flushCalls 0)) results parts ∧
      s.reader.serialPort.1.calls = opening ++
        (flushCalls 0 ++ exchangeCalls 0 setTagTypesFrame ++ parts.flatten) ∧
      s.reader.cout = .serialPortOpened :: results.flatMap
        (PollResult.lines {"69B90152".toList, "A001".toList}) := by
  have hopened := Reader.opened_of_run_openSerialPort h
  obtain ⟨timed, results, parts, htimed, hlength, hparts, hcalls, hcout⟩ :=
    Serial.logs_port.exists_of_run_main hrun
  rw [hopened.withoutInterByteTimeout_eq] at htimed
  refine ⟨s₀.calls ++ timed, results, parts, hopened.openingCalls htimed, hlength, hparts, ?_,
    hcout⟩
  rw [hcalls]
  simp only [List.append_assoc]

theorem main_calls_granting :
    let s := (main (Serial.port .granting 0) 1).finalState (granted noTagTexts)
    ∃ opening results parts, Reader.OpeningCalls opening ∧ results.length = 1 ∧
      List.Forall₂ (PollLog (exchangeCalls 0) (BrokenOffCalls 0) (flushCalls 0)) results parts ∧
      s.reader.serialPort.1.calls = opening ++
        (flushCalls 0 ++ exchangeCalls 0 setTagTypesFrame ++ parts.flatten) ∧
      s.reader.cout = .serialPortOpened :: results.flatMap
        (PollResult.lines {"69B90152".toList, "A001".toList}) :=
  main_calls (Reader.run_openSerialPort_granting noTagTexts) 1
    (Prog.run_of_returns (by decide +kernel))

/-- Where the mutexes can be claimed, the flush behind a report does not throw. -/
theorem derails_iff_overruns {fd : Handle}
    (hwait : ∀ mutex os, ((win.waitForSingleObject mutex).run os).1 = true)
    (s : {s : SerialImpl ω // s.OnHandle fd}) :
    Derails (Serial.port win fd) s ↔ (Serial.port win fd).Overruns s := by
  constructor
  · rintro (hoverruns | ⟨-, hflush⟩)
    · exact hoverruns
    · obtain ⟨s', hrun⟩ := Serial.exists_run_port_flush hwait _
      cases hrun.symm.trans hflush
  · exact .overruns

/-- Where the mutexes can be claimed, whatever else Windows and the device do: the program polls for
good iff the reader device can be set up and no reply overruns. -/
theorem main_endless_onWindows {fd : Handle}
    (hwait : ∀ mutex os, ((win.waitForSingleObject mutex).run os).1 = true)
    (s : {s : SerialImpl ω // s.OnHandle fd}) :
    (∀ n, ∃ s', (main (Serial.port win fd) n).run (start s) = .ok () s') ↔
      ∃ s₁, (Serial.port win fd).setUp.run s = .ok () s₁ ∧
        ∀ results t, Trace (Polls (Serial.port win fd)) ⟨s₁, .none⟩ results t →
          ¬ (Serial.port win fd).Overruns t.serialPort := by
  rw [forall_exists_run_main_iff]
  simp only [exists_polls_iff, derails_iff_overruns hwait]

/-- On a system on which the set-up succeeds and a poll is done. -/
theorem main_endless_onWindows_granting :
    (∃ s', (main (Serial.port .granting 0) 1).run (granted noTagTexts) = .ok () s') ∧
    ((∀ n, ∃ s', (main (Serial.port .granting 0) n).run (granted noTagTexts) = .ok () s') ↔
      ∃ s₁, (Serial.port .granting 0).setUp.run
          (granted noTagTexts).reader.serialPort = .ok () s₁ ∧
        ∀ results t, Trace (Polls (Serial.port .granting 0)) ⟨s₁, .none⟩ results t →
          ¬ (Serial.port .granting 0).Overruns t.serialPort) :=
  ⟨⟨_, Prog.run_of_returns (by decide +kernel)⟩,
    main_endless_onWindows (fun _ _ => rfl) (granted noTagTexts).reader.serialPort⟩

end AccessControlSystem

end DoorAcs
