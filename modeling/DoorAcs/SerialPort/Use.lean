import DoorAcs.Reader.Transcript
import DoorAcs.SerialPort.Handles
import DoorAcs.SerialPort.Locks
import DoorAcs.SerialPort.Settings

/-!
# A port in use

A serial object that has opened its port goes on to use one handle (`SerialImpl.OnHandle`), also
when Windows refuses another timeout. Reading, writing and flushing terminate the program in no
case, so `Serial.port` gives a reader a port that cannot be in any other state. Behind a timeout
that was accepted the settings are in force (`SerialImpl.OpenWith`), and stay so.
-/

namespace DoorAcs

open Cpp

variable {ω : Type}

/-- The settings as the reader wants them: with no timeout between two bytes. -/
def Settings.withoutInterByteTimeout (settings : Settings) : Settings :=
  { settings with timeout := { settings.timeout with interByteTimeout := 0 } }

/-- The handle `fd` is the only one that is used, and only while the settings are in force on it.
The state is the calls made. -/
def settingsMonitor (settings : Settings) (fd : Handle) : Monitor (List ApiCall) ApiCall where
  init := []
  next calls call := calls ++ [call]
  Allows calls
    | .io fd? _ => fd? = some fd ∧ settings.InForce fd calls
    | _ => True

/-- The state of the monitor is the calls so far. -/
theorem settingsMonitor_state (settings : Settings) (fd : Handle) (calls : List ApiCall) :
    (settingsMonitor settings fd).state calls = calls := by
  induction calls using List.reverseRecOn with
  | nil => rfl
  | append_singleton calls call ih =>
    rw [Monitor.state_append_singleton, ih]
    rfl

/-- Where no open port was used, the settings were never missing. -/
theorem settingsMonitor_accepts {settings : Settings} {fd : Handle} {calls : List ApiCall}
    (h : ∀ fd? call, .io fd? call ∉ calls) : (settingsMonitor settings fd).Accepts calls := by
  refine (settingsMonitor settings fd).accepts_iff.mpr fun older call newer heq => ?_
  have hmem : call ∈ calls := by simp [heq]
  cases call with
  | io fd? call => exact absurd hmem (h fd? call)
  | _ => trivial

/-- A configuration does not use the port. -/
theorem Configures.io_not_mem {settings : Settings} {fd : Handle} {calls : List ApiCall} {ok : Bool}
    (h : Configures settings fd calls ok) (fd? : Option Handle) (call : IoCall) :
    .io fd? call ∉ calls := by
  cases h <;> simp

namespace SerialImpl

/-- The port counts as open and has the handle `fd`. -/
structure HasHandle (fd : Handle) (s : SerialImpl ω) : Prop where
  isOpen : s.isOpen = true
  fd_eq : s.fd = some fd

/-- It has the handle, and the mutexes are free. -/
def OnHandle (fd : Handle) (s : SerialImpl ω) : Prop := s.HasHandle fd ∧ s.Locked 0 0

/-- No rule for handles and settings has been broken. -/
structure UsedWith (settings : Settings) (fd : Handle) (s : SerialImpl ω) : Prop where
  handles : handleMonitor.Accepts s.calls
  uses : (settingsMonitor settings fd).Accepts s.calls

/-- The port is open with the handle `fd` and has the settings in force, and no rule for handles and
settings has been broken. -/
structure OpenWith (settings : Settings) (fd : Handle) (s : SerialImpl ω) : Prop
    extends HasHandle fd s, UsedWith settings fd s where
  mem_live : fd ∈ live s.calls
  inForce : settings.InForce fd s.calls

variable {settings : Settings} {fd : Handle} {s : SerialImpl ω}

/-- One more call that opens, configures and closes nothing. -/
theorem OpenWith.behind {os : ω} {call : ApiCall} (hs : s.OpenWith settings fd)
    (hcompletes : call.completes? = none)
    (hlive : handleMonitor.next (live s.calls) call = live s.calls)
    (hhandle : handleMonitor.Allows (live s.calls) call)
    (huse : (settingsMonitor settings fd).Allows s.calls call) :
    OpenWith settings fd (s.behind os [call]) where
  isOpen := hs.isOpen
  fd_eq := hs.fd_eq
  mem_live := by
    show fd ∈ handleMonitor.state (s.calls ++ [call])
    rw [Monitor.state_append_singleton]
    exact hlive.symm ▸ hs.mem_live
  inForce := hs.inForce.append (by simpa using hcompletes)
  handles := handleMonitor.accepts_append_singleton.mpr ⟨hs.handles, hhandle⟩
  uses := by
    refine (settingsMonitor settings fd).accepts_append_singleton.mpr ⟨hs.uses, ?_⟩
    rwa [settingsMonitor_state]

/-- Every use was made of the one handle, while it was open, with the settings in force and the
mutexes held that the call needs. -/
theorem UsedWith.of_calls_eq (hs : s.UsedWith settings fd) (hlocked : s.Locked 0 0)
    {older newer : List ApiCall} {fd? : Option Handle} {call : IoCall}
    (heq : s.calls = older ++ .io fd? call :: newer) :
    fd? = some fd ∧ fd ∈ live older ∧ settings.InForce fd older ∧
      call.Guarded fun mutex => held mutex older := by
  obtain ⟨fd', hlive, hfd'⟩ := handleMonitor.accepts_iff.mp hs.handles older _ newer heq
  obtain ⟨hfd, hinForce⟩ := (settingsMonitor settings fd).accepts_iff.mp hs.uses older _ newer heq
  have hguarded := lockMonitor.accepts_iff.mp hlocked.accepts older _ newer heq
  rw [settingsMonitor_state] at hinForce
  rw [lockMonitor_state] at hguarded
  cases hfd'.symm.trans hfd
  exact ⟨hfd, hlive, hinForce, hguarded⟩

/-- Neither reading nor writing changes the handle. -/
theorem keptByUse_hasHandle : KeptByUse (HasHandle fd : SerialImpl ω → Prop) where
  used _ hs := ⟨hs.isOpen, hs.fd_eq⟩
  mutex _ hs := ⟨hs.isOpen, hs.fd_eq⟩

/-- Using the port leaves it open with its settings. -/
theorem keptByUse_openWith : KeptByUse (OpenWith settings fd : SerialImpl ω → Prop) where
  used _ hs := hs.behind rfl rfl ⟨fd, hs.mem_live, hs.fd_eq⟩ ⟨hs.fd_eq, hs.inForce⟩
  mutex hcall hs := by
    cases hcall <;> exact hs.behind rfl rfl trivial trivial

/-- A change of settings that Windows refuses leaves the members as they are. -/
theorem preserves_set_hasHandle (win : WinApi ω) (f : Settings → Settings) :
    Prog.Preserves (HasHandle fd) (set win f) := by
  intro s hs
  rw [Prog.finalState, run_set, if_pos hs.isOpen]
  obtain ⟨os, calls, ⟨-, hrun⟩ | ⟨e, -, hrun⟩⟩ :=
    exists_run_reconfigurePort win (s := { s with settings := f s.settings }) hs.fd_eq
  · rw [hrun]
    exact ⟨hs.isOpen, hs.fd_eq⟩
  · rw [hrun]
    exact ⟨hs.isOpen, hs.fd_eq⟩

end SerialImpl

namespace Serial

open SerialImpl

variable (win : WinApi ω) {settings : Settings} {fd : Handle}

/-- `setTimeout` leaves the handle and the mutexes. -/
theorem safe_setTimeout_onHandle (timeout : Timeout) :
    Prog.Safe (OnHandle fd) (SerialImpl.setTimeout win timeout) :=
  (safe_set _).and (preserves_set_hasHandle win _)

/-- `read` leaves the handle and the mutexes. -/
theorem safe_read_onHandle (size : ℕ) : Prog.Safe (OnHandle fd) (read win size) :=
  (safe_read size).and (preserves_read keptByUse_hasHandle size)

/-- `write` leaves the handle and the mutexes. -/
theorem safe_write_onHandle (data : Str) : Prog.Safe (OnHandle fd) (write win data) :=
  (safe_write data).and (preserves_write keptByUse_hasHandle data)

/-- `flush` leaves the handle and the mutexes. -/
theorem safe_flush_onHandle : Prog.Safe (OnHandle fd) (flush win) :=
  safe_flush.and (preserves_flush keptByUse_hasHandle)

/-- A port in use, as the port of a reader. -/
def port (fd : Handle) : SerialPort {s : SerialImpl ω // s.OnHandle fd} where
  getTimeout s := s.1.settings.timeout
  setTimeout timeout := (safe_setTimeout_onHandle win timeout).toThrowing
  isOpen s := s.1.isOpen
  write data := (safe_write_onHandle win data).toThrowing
  read size := (safe_read_onHandle win size).toThrowing
  flush := (safe_flush_onHandle win).toThrowing

variable {win}

/-- Where both mutexes can be claimed, flushing does not throw. -/
theorem exists_run_port_flush
    (hwait : ∀ mutex os, ((win.waitForSingleObject mutex).run os).1 = true)
    (s : {s : SerialImpl ω // s.OnHandle fd}) :
    ∃ s', (port win fd).flush.run s = .ok () s' := by
  obtain ⟨s', hrun⟩ := exists_run_flush s.2.2 s.2.1.isOpen hwait
  exact ⟨⟨s', (safe_flush_onHandle win).of_run_eq_ok s.2 hrun⟩,
    (safe_flush_onHandle win).run_toThrowing_eq_ok.mpr hrun⟩

/-- If the reader could set its timeouts, the port was configured with them. -/
theorem exists_of_run_setTimeouts_eq_ok {s s' : {s : SerialImpl ω // s.OnHandle fd}}
    (h : (port win fd).setTimeouts.run s = .ok () s') :
    ∃ os calls, Configures s.1.settings.withoutInterByteTimeout fd calls true ∧
      s'.1 = { s.1.behind os calls with settings := s.1.settings.withoutInterByteTimeout } :=
  exists_of_run_set win s.2.1.isOpen s.2.1.fd_eq
    ((safe_setTimeout_onHandle win _).run_toThrowing_eq_ok.mp h)

/-- If they could not be set, the configuration was not completed. -/
theorem exists_of_run_setTimeouts_eq_error {s s' : {s : SerialImpl ω // s.OnHandle fd}}
    {e : Exception} (h : (port win fd).setTimeouts.run s = .error e s') :
    ∃ calls, Configures s.1.settings.withoutInterByteTimeout fd calls false ∧
      s'.1.calls = s.1.calls ++ calls := by
  have hrun := (safe_setTimeout_onHandle win _).run_toThrowing_eq_error.mp h
  rw [SerialImpl.setTimeout, run_set, if_pos s.2.1.isOpen] at hrun
  obtain ⟨os, calls, ⟨-, hok⟩ | ⟨e', hcalls, herror⟩⟩ := exists_run_reconfigurePort win
    (s := { s.1 with settings := s.1.settings.withoutInterByteTimeout }) s.2.1.fd_eq
  · cases hok.symm.trans hrun
  · have hs' := herror.symm.trans hrun
    rw [EStateM.Result.error.injEq] at hs'
    exact ⟨calls, hcalls, (congrArg SerialImpl.calls hs'.2).symm⟩

end Serial

end DoorAcs
