import DoorAcs.SerialPort.Serial

/-!
# What the serial library can do

`SerialImpl.Step` lists what happens to a serial object between two calls of its member functions
and within them, one constructor for each way a piece of `win.cc` can go. What all steps keep, every
member function keeps (`Serial.preserves_perform`), and so does every life of an object
(`Serial.preserves_life`).
-/

namespace DoorAcs

open Cpp

variable {ω : Type}

/-- The calls of `reconfigurePort` on the handle `fd`, and whether it returns. -/
inductive Configures (settings : Settings) (fd : Handle) : List ApiCall → Bool → Prop where
  | noState : Configures settings fd [.getCommState fd false] false
  /-- One of the settings is none of the known ones. -/
  | invalid : Configures settings fd [.getCommState fd true] false
  | refused {old dcb ok} (hdcb : SerialImpl.setupDCB settings old = .ok dcb) :
      Configures settings fd
        [.getCommState fd true, .setCommState fd dcb false, .closeHandle fd ok] false
  | noTimeouts {old dcb} (hdcb : SerialImpl.setupDCB settings old = .ok dcb) :
      Configures settings fd
        [.getCommState fd true, .setCommState fd dcb true,
          .setCommTimeouts fd (SerialImpl.setupTimeouts settings.timeout) false] false
  | done {old dcb} (hdcb : SerialImpl.setupDCB settings old = .ok dcb) :
      Configures settings fd
        [.getCommState fd true, .setCommState fd dcb true,
          .setCommTimeouts fd (SerialImpl.setupTimeouts settings.timeout) true] true

/-- The call is about a mutex. -/
inductive ApiCall.IsAboutMutex : ApiCall → Prop where
  | create (mutex : Mutex) : IsAboutMutex (.createMutex mutex)
  | wait (mutex : Mutex) (ok : Bool) : IsAboutMutex (.waitForSingleObject mutex ok)
  | release (mutex : Mutex) (ok : Bool) : IsAboutMutex (.releaseMutex mutex ok)
  | close (mutex : Mutex) : IsAboutMutex (.closeMutex mutex)

namespace SerialImpl

/-- What can happen to the object, with any state of the system behind it. -/
inductive Step (s : SerialImpl ω) : SerialImpl ω → Prop where
  | setPort (port : Str) : Step s { s with port }
  | store (settings : Settings) (hclosed : s.isOpen = true → s.fd = none) :
      Step s { s with settings }
  | notCreated (name : Str) (os : ω) (hclosed : s.isOpen = false) :
      Step s { s.behind os [.createFile name none] with fd := none }
  | notOpened {name : Str} {os : ω} {calls : List ApiCall} (hclosed : s.isOpen = false)
      (hcalls : Configures s.settings s.calls.length calls false) :
      Step s { s.behind os (.createFile name (some s.calls.length) :: calls) with
        fd := some s.calls.length }
  | opened {name : Str} {os : ω} {calls : List ApiCall} (hclosed : s.isOpen = false)
      (hcalls : Configures s.settings s.calls.length calls true) :
      Step s { s.behind os (.createFile name (some s.calls.length) :: calls) with
        fd := some s.calls.length, isOpen := true }
  | notClosed {fd : Handle} {os : ω} (hopen : s.isOpen = true) (hfd : s.fd = some fd) :
      Step s (s.behind os [.closeHandle fd false])
  | closed {fd : Handle} {os : ω} (hopen : s.isOpen = true) (hfd : s.fd = some fd) :
      Step s { s.behind os [.closeHandle fd true] with fd := none, isOpen := false }
  | forgotten (hopen : s.isOpen = true) (hfd : s.fd = none) : Step s { s with isOpen := false }
  | reconfigured {fd : Handle} {settings : Settings} {os : ω} {calls : List ApiCall} {ok : Bool}
      (hopen : s.isOpen = true) (hfd : s.fd = some fd) (hcalls : Configures settings fd calls ok) :
      Step s { s.behind os calls with settings }
  | used (call : IoCall) (os : ω) (hopen : s.isOpen = true) :
      Step s (s.behind os [.io s.fd call])
  | mutex {call : ApiCall} (os : ω) (hcall : call.IsAboutMutex) : Step s (s.behind os [call])

/-- Every step keeps `I`. -/
def KeptBySteps (I : SerialImpl ω → Prop) : Prop := ∀ s s', Step s s' → I s → I s'

/-- The steps that neither open, configure nor close the port keep `I`. -/
structure KeptByUse (I : SerialImpl ω → Prop) : Prop where
  used : ∀ {s : SerialImpl ω} {os : ω} {call : IoCall}, s.isOpen = true → I s →
    I (s.behind os [.io s.fd call])
  mutex : ∀ {s : SerialImpl ω} {os : ω} {call : ApiCall}, call.IsAboutMutex → I s →
    I (s.behind os [call])

/-- What all steps keep, those of use keep. -/
theorem KeptBySteps.use {I : SerialImpl ω → Prop} (hI : KeptBySteps I) : KeptByUse I where
  used hopen hs := hI _ _ (.used _ _ hopen) hs
  mutex hcall hs := hI _ _ (.mutex _ hcall) hs

/-! ## Runs of the member functions -/

/-- Calls do not change the handle. -/
@[simp]
theorem behind_fd (s : SerialImpl ω) (os : ω) (calls : List ApiCall) :
    (s.behind os calls).fd = s.fd := rfl

/-- Calls do not change whether the port counts as open. -/
@[simp]
theorem behind_isOpen (s : SerialImpl ω) (os : ω) (calls : List ApiCall) :
    (s.behind os calls).isOpen = s.isOpen := rfl

/-- Calls do not change the settings. -/
@[simp]
theorem behind_settings (s : SerialImpl ω) (os : ω) (calls : List ApiCall) :
    (s.behind os calls).settings = s.settings := rfl

/-- Calls behind calls are one list of calls. -/
theorem behind_behind (s : SerialImpl ω) (os os' : ω) (calls calls' : List ApiCall) :
    (s.behind os calls).behind os' calls' = s.behind os' (calls ++ calls') := by
  simp [behind]

variable (win : WinApi ω) {s : SerialImpl ω}

/-- What follows a call starts behind its entry in the log. -/
theorem run_call_bind {α β : Type} {f : StateM ω α} {entry : α → ApiCall}
    {k : α → Prog Exception (SerialImpl ω) β} {a : α} {os : ω} (h : f.run s.os = (a, os)) :
    (call f entry >>= k).run s = (k a).run (s.behind os [entry a]) := by
  rw [EStateM.run_bind, EStateM.run, call, h]

/-- What follows a look at the object starts in the same state. -/
theorem run_get_bind {β : Type} (k : SerialImpl ω → Prog Exception (SerialImpl ω) β)
    (s : SerialImpl ω) : (get >>= k).run s = (k s).run s := rfl

/-- Settings that are not known are an exception. -/
theorem exists_of_setupDCB_eq_error {settings : Settings} {old : DCB} {f : Failure Exception}
    (h : setupDCB settings old = .error f) : ∃ e, f = .exception e := by
  -- one of the three settings was refused
  have herror : setupByteSize settings.bytesize = .error f ∨
      setupStopBits settings.stopbits = .error f ∨ setupParity settings.parity = .error f := by
    rw [setupDCB] at h
    rcases hsize : setupByteSize settings.bytesize with e | byteSize
    · rw [hsize] at h
      cases h
      exact .inl rfl
    rcases hstop : setupStopBits settings.stopbits with e | stopBits
    · rw [hsize, hstop] at h
      cases h
      exact .inr (.inl rfl)
    rcases hparity : setupParity settings.parity with e | parity
    · rw [hsize, hstop, hparity] at h
      cases h
      exact .inr (.inr rfl)
    · rw [hsize, hstop, hparity] at h
      cases h
  rcases herror with h | h | h
  · rw [setupByteSize] at h
    split_ifs at h
    cases h
    exact ⟨_, rfl⟩
  · rw [setupStopBits] at h
    split_ifs at h
    cases h
    exact ⟨_, rfl⟩
  · rw [setupParity] at h
    split_ifs at h
    cases h
    exact ⟨_, rfl⟩

/-- The calls of `reconfigurePort` come behind the others, and nothing else changes. -/
theorem exists_run_reconfigurePort {fd : Handle} (hfd : s.fd = some fd) :
    ∃ os calls, (Configures s.settings fd calls true ∧
        (reconfigurePort win).run s = .ok () (s.behind os calls)) ∨
      ∃ e, Configures s.settings fd calls false ∧
        (reconfigurePort win).run s = .error (.exception e) (s.behind os calls) := by
  rw [reconfigurePort, run_get_bind, hfd]
  dsimp only
  rcases hstate : (win.getCommState fd).run s.os with ⟨old?, os₁⟩
  rw [run_call_bind hstate]
  rcases old? with _ | old
  · exact ⟨os₁, _, .inr ⟨_, .noState, rfl⟩⟩
  dsimp only
  rw [run_get_bind, behind_settings]
  rcases hdcb : setupDCB s.settings old with f | dcb
  · obtain ⟨e, rfl⟩ := exists_of_setupDCB_eq_error hdcb
    exact ⟨os₁, _, .inr ⟨e, .invalid, rfl⟩⟩
  rcases hsetState : (win.setCommState fd dcb).run os₁ with ⟨accepted, os₂⟩
  rw [Prog.run_bind_of_ok (Prog.run_lift_ok dcb), run_call_bind hsetState, behind_behind]
  cases accepted with
  | false =>
    rcases hclose : (win.closeHandle fd).run os₂ with ⟨result, os₃⟩
    rw [if_neg Bool.false_ne_true, closeHandle, run_call_bind hclose, behind_behind]
    exact ⟨os₃, _, .inr ⟨_, .refused hdcb, rfl⟩⟩
  | true =>
    rw [if_pos rfl, run_get_bind, behind_settings]
    rcases hset : (win.setCommTimeouts fd (setupTimeouts s.settings.timeout)).run os₂ with
      ⟨accepted, os₃⟩
    rw [run_call_bind hset, behind_behind]
    cases accepted with
    | false => exact ⟨os₃, _, .inr ⟨_, .noTimeouts hdcb, rfl⟩⟩
    | true => exact ⟨os₃, _, .inl ⟨.done hdcb, rfl⟩⟩

/-- A setting is stored first, and the port is configured if it is open. -/
theorem run_set (f : Settings → Settings) :
    (set win f).run s = if s.isOpen = true then
        (reconfigurePort win).run { s with settings := f s.settings }
      else .ok () { s with settings := f s.settings } := by
  rw [set, Prog.run_modify_bind, run_get_bind, Prog.run_ite]
  rfl

/-- Opening, once the port has a name and is closed. -/
theorem run_openPort (hport : s.port ≠ []) (hclosed : s.isOpen = false) :
    ∃ os, (∃ e, (openPort win).run s = .error (.exception e)
        { s.behind os [.createFile (prefixPortIfNeeded s.port) none] with fd := none }) ∨
      (openPort win).run s = (do
        reconfigurePort win
        modify fun s => { s with isOpen := true } : Prog Exception (SerialImpl ω) Unit).run
          { s.behind os [.createFile (prefixPortIfNeeded s.port) (some s.calls.length)] with
            fd := some s.calls.length } := by
  rw [openPort, run_get_bind, if_neg hport, if_neg (by rw [hclosed]; exact Bool.false_ne_true),
    createFile, bind_assoc, run_get_bind]
  rcases hcreate : (win.createFile (prefixPortIfNeeded s.port)).run s.os with ⟨result, os⟩
  rw [bind_assoc, run_call_bind hcreate]
  refine ⟨os, ?_⟩
  rcases result with code | _
  · exact .inl ⟨openException s.port code, rfl⟩
  · exact .inr rfl

/-- The port that could be opened. -/
theorem exists_of_run_openPort {s' : SerialImpl ω} (h : (openPort win).run s = .ok () s') :
    ∃ os calls, Configures s.settings s.calls.length calls true ∧
      s' = { s.behind os
          (.createFile (prefixPortIfNeeded s.port) (some s.calls.length) :: calls) with
        fd := some s.calls.length, isOpen := true } := by
  by_cases hport : s.port = []
  · rw [openPort, run_get_bind, if_pos hport] at h
    cases h
  by_cases hopen : s.isOpen = true
  · rw [openPort, run_get_bind, if_neg hport, if_pos hopen] at h
    cases h
  obtain ⟨os, ⟨e, hrun⟩ | hrun⟩ := run_openPort win hport (eq_false_of_ne_true hopen)
  · cases hrun.symm.trans h
  rw [hrun] at h
  obtain ⟨_, s₁, hconfigure, h⟩ := Prog.run_bind_eq_ok.mp h
  cases h
  obtain ⟨os', calls, ⟨hcalls, hrun'⟩ | ⟨e, -, hrun'⟩⟩ := exists_run_reconfigurePort win
    (s := { s.behind os [.createFile (prefixPortIfNeeded s.port) (some s.calls.length)] with
      fd := some s.calls.length }) rfl
  · cases hrun'.symm.trans hconfigure
    refine ⟨os', calls, hcalls, ?_⟩
    simp [behind]
  · cases hrun'.symm.trans hconfigure

/-- The object that could be constructed with the name of a port. -/
theorem exists_of_run_construct {s' : SerialImpl ω} (hport : s.port ≠ [])
    (h : (construct win).run s = .ok () s') :
    ∃ os calls, Configures s.settings s.calls.length calls true ∧
      s' = { s.behind os (.createFile (prefixPortIfNeeded s.port) (some s.calls.length) :: calls ++
          [.createMutex .read, .createMutex .write]) with
        fd := some s.calls.length, isOpen := true } := by
  rw [construct, run_get_bind, if_pos hport] at h
  obtain ⟨_, s₁, hopen, h⟩ := Prog.run_bind_eq_ok.mp h
  obtain ⟨os, calls, hcalls, rfl⟩ := exists_of_run_openPort win hopen
  cases h
  have happend :
      (s.calls ++ .createFile (prefixPortIfNeeded s.port) (some s.calls.length) :: calls) ++
        [.createMutex .read] ++ [.createMutex .write] =
        s.calls ++ (.createFile (prefixPortIfNeeded s.port) (some s.calls.length) :: calls ++
          [.createMutex .read, .createMutex .write]) := by
    simp
  exact ⟨os, calls, hcalls, congrArg (fun calls =>
    { s with fd := some s.calls.length, isOpen := true, os, calls }) happend⟩

/-- A setting that could be changed while the port is open. -/
theorem exists_of_run_set {f : Settings → Settings} {fd : Handle} {s' : SerialImpl ω}
    (hopen : s.isOpen = true) (hfd : s.fd = some fd) (h : (set win f).run s = .ok () s') :
    ∃ os calls, Configures (f s.settings) fd calls true ∧
      s' = { s.behind os calls with settings := f s.settings } := by
  rw [run_set, if_pos hopen] at h
  obtain ⟨os, calls, ⟨hcalls, hrun⟩ | ⟨e, -, hrun⟩⟩ :=
    exists_run_reconfigurePort win (s := { s with settings := f s.settings }) hfd
  · cases hrun.symm.trans h
    exact ⟨os, calls, hcalls, rfl⟩
  · cases hrun.symm.trans h

/-- Closing a port that is open. -/
theorem run_close {fd : Handle} (hopen : s.isOpen = true) (hfd : s.fd = some fd) :
    ∃ os, (∃ e, (close win).run s = .error (.exception e) (s.behind os [.closeHandle fd false])) ∨
      (close win).run s =
        .ok () { s.behind os [.closeHandle fd true] with fd := none, isOpen := false } := by
  rw [close, run_get_bind, if_pos hopen, hfd]
  dsimp only
  rcases hclose : (win.closeHandle fd).run s.os with ⟨result, os⟩
  rw [closeHandle, run_call_bind hclose]
  refine ⟨os, ?_⟩
  rcases result with code | _
  · exact .inl ⟨_, rfl⟩
  · exact .inr rfl

/-- A `close` that returns leaves the port closed. -/
theorem isOpen_of_run_close {s' : SerialImpl ω} (h : (close win).run s = .ok () s') :
    s'.isOpen = false := by
  by_cases hopen : s.isOpen = true
  · obtain ⟨fd?, hfd⟩ : ∃ fd?, s.fd = fd? := ⟨_, rfl⟩
    cases fd? with
    | none =>
      rw [close, run_get_bind, if_pos hopen, hfd] at h
      cases h
      rfl
    | some fd =>
      obtain ⟨os, ⟨e, hrun⟩ | hrun⟩ := run_close win hopen hfd
      · cases hrun.symm.trans h
      · cases hrun.symm.trans h
        rfl
  · rw [close, run_get_bind, if_neg hopen] at h
    cases h
    exact eq_false_of_ne_true hopen

/-- The port of an object that could be destroyed is closed. -/
theorem isOpen_of_run_destruct {s' : SerialImpl ω} (h : (destruct win).run s = .ok () s') :
    s'.isOpen = false := by
  obtain ⟨_, s₁, hclose, hmutexes⟩ := Prog.run_bind_eq_ok.mp h
  have hclosed := isOpen_of_run_close win (Prog.run_noexcept_eq_ok.mp hclose)
  cases hmutexes
  exact hclosed

/-! ## What all steps keep -/

/-- Code that runs while the port is open with the handle it was given. -/
theorem preserves_onOpenPort {α : Type} (function : String)
    {I : SerialImpl ω → Prop} {k : Option Handle → Prog Exception (SerialImpl ω) α}
    (hk : ∀ fd, Prog.Preserves (fun s => I s ∧ s.isOpen = true ∧ s.fd = fd) (k fd)) :
    Prog.Preserves I (onOpenPort function k) := by
  intro s hs
  by_cases hopen : s.isOpen = true
  · rw [onOpenPort, Prog.finalState, run_get_bind, if_pos hopen]
    exact (hk s.fd s ⟨hs, hopen, rfl⟩).1
  · rw [onOpenPort, Prog.finalState, run_get_bind, if_neg hopen]
    exact hs

section Use

variable {win} {I : SerialImpl ω → Prop} (hI : KeptByUse I)
include hI

/-- A call on the open port is a step of use, and leaves its handle. -/
theorem preserves_io {α : Type} (f : Option Handle → StateM ω α) (entry : IoCall)
    (fd : Option Handle) :
    Prog.Preserves (fun s => I s ∧ s.isOpen = true ∧ s.fd = fd) (io f entry fd) := by
  rintro s ⟨hs, hopen, rfl⟩
  exact ⟨hI.used hopen hs, hopen, rfl⟩

/-- `SerialImpl::read` only uses the port. -/
theorem preserves_read (size : ℕ) : Prog.Preserves I (read win size) := by
  refine preserves_onOpenPort _ fun fd => ?_
  refine Prog.preserves_bind (preserves_io hI _ _ fd) fun result => ?_
  cases result with
  | error code => exact Prog.preserves_raise _
  | ok bytes => exact Prog.preserves_pure _

/-- `SerialImpl::write` only uses the port. -/
theorem preserves_write (data : Str) : Prog.Preserves I (write win data) := by
  refine preserves_onOpenPort _ fun fd => ?_
  refine Prog.preserves_bind (preserves_io hI _ _ fd) fun result => ?_
  cases result with
  | error code => exact Prog.preserves_raise _
  | ok bytesWritten => exact Prog.preserves_pure _

/-- `SerialImpl::available` only uses the port. -/
theorem preserves_available : Prog.Preserves I (available win) := by
  intro s hs
  by_cases hopen : s.isOpen = true
  · have hio := preserves_io hI win.clearCommError .clearCommError s.fd
    rw [available, Prog.finalState, run_get_bind, if_pos hopen]
    refine (Prog.preserves_bind hio (fun result => ?_) s ⟨hs, hopen, rfl⟩).1
    cases result with
    | error code => exact Prog.preserves_raise _
    | ok cbInQue => exact Prog.preserves_pure _
  · rw [available, Prog.finalState, run_get_bind, if_neg hopen]
    exact hs

/-- `SerialImpl::waitForChange` only uses the port, up to two times. -/
theorem preserves_waitForChange : Prog.Preserves I (waitForChange win) := by
  refine preserves_onOpenPort _ fun fd => ?_
  refine Prog.preserves_bind (preserves_io hI _ _ fd) fun ok => ?_
  exact Prog.preserves_ite (preserves_io hI _ _ fd) (Prog.preserves_pure _)

/-- The functions that look at a line only use the port. -/
theorem preserves_getLine (function : String) (line : ℕ) (name : String) (mask : UInt32) :
    Prog.Preserves I (getLine win function line name mask) := by
  refine preserves_onOpenPort _ fun fd => ?_
  refine Prog.preserves_bind (preserves_io hI _ _ fd) fun status? => ?_
  cases status? with
  | none => exact Prog.preserves_raise _
  | some status => exact Prog.preserves_pure _

/-- A call about a mutex. -/
theorem preserves_call {α : Type} (f : StateM ω α) {entry : α → ApiCall}
    (hentry : ∀ a, (entry a).IsAboutMutex) : Prog.Preserves I (call f entry) :=
  fun _ hs => hI.mutex (hentry _) hs

/-- Claiming a mutex is a step of use, whether it is granted or not. -/
theorem preserves_claim (mutex : Mutex) (e : Exception) : Prog.Preserves I (claim win mutex e) := by
  refine Prog.preserves_bind (preserves_call hI _ fun ok => .wait mutex ok) fun ok => ?_
  exact Prog.preserves_ite (Prog.preserves_pure _) (Prog.preserves_raise _)

/-- Releasing a mutex is a step of use. -/
theorem preserves_release (mutex : Mutex) (e : Exception) :
    Prog.Preserves I (release mutex e : Prog Exception (SerialImpl ω) Unit) := by
  refine Prog.preserves_bind Prog.preserves_get fun s => ?_
  refine Prog.preserves_bind (preserves_call hI _ fun ok => .release mutex ok) fun ok => ?_
  exact Prog.preserves_ite (Prog.preserves_pure _) (Prog.preserves_raise _)

/-- The functions that make one call on an open port only use it. -/
theorem preserves_onOpenPort_io {α : Type} (function : String) (f : Option Handle → StateM ω α)
    (entry : IoCall) : Prog.Preserves I (onOpenPort function (io f entry)) :=
  preserves_onOpenPort _ fun fd => preserves_io hI _ _ fd

end Use

section Kept

variable {win} {I : SerialImpl ω → Prop} (hI : KeptBySteps I)
include hI

/-- New settings, stored and then configured, are one step. -/
theorem of_run_reconfigurePort {settings : Settings} (hopen : s.isOpen = true) (hs : I s) :
    I ((reconfigurePort win).finalState { s with settings }) := by
  obtain ⟨fd?, hfd⟩ : ∃ fd?, s.fd = fd? := ⟨_, rfl⟩
  cases fd? with
  | none =>
    have hrun : (reconfigurePort win).run { s with settings } = .error (.exception
        (ioException 99 "Invalid file descriptor, is the serial port open?"))
        { s with settings } := by
      rw [reconfigurePort, run_get_bind]
      dsimp only
      rw [hfd]
      rfl
    rw [Prog.finalState_of_error hrun]
    exact hI _ _ (.store settings fun _ => hfd) hs
  | some fd =>
    obtain ⟨os, calls, ⟨hcalls, hrun⟩ | ⟨e, hcalls, hrun⟩⟩ :=
      exists_run_reconfigurePort win (s := { s with settings }) hfd
    · rw [Prog.finalState_of_ok hrun]
      exact hI _ _ (.reconfigured hopen hfd hcalls) hs
    · rw [Prog.finalState_of_error hrun]
      exact hI _ _ (.reconfigured hopen hfd hcalls) hs

/-- Setting one of the settings is one step, with the configuration that follows. -/
theorem preserves_set (f : Settings → Settings) : Prog.Preserves I (set win f) := by
  intro s hs
  rw [Prog.finalState, run_set]
  by_cases hopen : s.isOpen = true
  · rw [if_pos hopen]
    exact of_run_reconfigurePort hI hopen hs
  · rw [if_neg hopen]
    exact hI _ _ (.store _ fun h => absurd h hopen) hs

/-- Opening is one step, with the configuration that follows. -/
theorem preserves_openPort : Prog.Preserves I (openPort win) := by
  intro s hs
  by_cases hport : s.port = []
  · rw [openPort, Prog.finalState, run_get_bind, if_pos hport]
    exact hs
  by_cases hopen : s.isOpen = true
  · rw [openPort, Prog.finalState, run_get_bind, if_neg hport, if_pos hopen]
    exact hs
  have hclosed : s.isOpen = false := eq_false_of_ne_true hopen
  obtain ⟨os, ⟨e, hrun⟩ | hrun⟩ := run_openPort win hport hclosed
  · rw [Prog.finalState_of_error hrun]
    exact hI _ _ (.notCreated _ os hclosed) hs
  -- the port was created, and is configured next
  set s₁ : SerialImpl ω :=
    { s.behind os [.createFile (prefixPortIfNeeded s.port) (some s.calls.length)] with
      fd := some s.calls.length }
  have hbehind (os' : ω) (calls : List ApiCall) : s₁.behind os' calls =
      { s.behind os' (.createFile (prefixPortIfNeeded s.port) (some s.calls.length) :: calls) with
        fd := some s.calls.length } := by
    simp [s₁, behind]
  rw [Prog.finalState, hrun]
  obtain ⟨os', calls, ⟨hcalls, hrun'⟩ | ⟨e, hcalls, hrun'⟩⟩ :=
    exists_run_reconfigurePort win (s := s₁) rfl
  · rw [Prog.run_bind_of_ok hrun', hbehind]
    exact hI _ _ (.opened hclosed hcalls) hs
  · rw [Prog.run_bind_of_error hrun', hbehind]
    exact hI _ _ (.notOpened hclosed hcalls) hs

/-- Closing is one step. -/
theorem preserves_close : Prog.Preserves I (close win) := by
  intro s hs
  by_cases hopen : s.isOpen = true
  · obtain ⟨fd?, hfd⟩ : ∃ fd?, s.fd = fd? := ⟨_, rfl⟩
    cases fd? with
    | none =>
      rw [close, Prog.finalState, run_get_bind, if_pos hopen, hfd]
      exact hI _ _ (.forgotten hopen hfd) hs
    | some fd =>
      obtain ⟨os, ⟨e, hrun⟩ | hrun⟩ := run_close win hopen hfd
      · rw [Prog.finalState_of_error hrun]
        exact hI _ _ (.notClosed hopen hfd) hs
      · rw [Prog.finalState_of_ok hrun]
        exact hI _ _ (.closed hopen hfd) hs
  · rw [close, Prog.finalState, run_get_bind, if_neg hopen]
    exact hs

/-- The constructor opens the port and makes the mutexes. -/
theorem preserves_construct : Prog.Preserves I (construct win) := by
  have hcreate (mutex : Mutex) : Prog.Preserves I
      (call (pure ()) fun _ => .createMutex mutex : Prog Exception (SerialImpl ω) Unit) :=
    preserves_call hI.use _ fun _ => .create mutex
  have hmutexes := Prog.preserves_bind (hcreate .read) fun _ => hcreate .write
  refine Prog.preserves_bind Prog.preserves_get fun s => ?_
  exact Prog.preserves_ite (Prog.preserves_bind (preserves_openPort hI) fun _ => hmutexes) hmutexes

/-- The destructor closes the port and the mutexes. -/
theorem preserves_destruct : Prog.Preserves I (destruct win) := by
  have hclose (mutex : Mutex) : Prog.Preserves I
      (call (pure ()) fun _ => .closeMutex mutex : Prog Exception (SerialImpl ω) Unit) :=
    preserves_call hI.use _ fun _ => .close mutex
  exact Prog.preserves_bind (Prog.preserves_noexcept (preserves_close hI)) fun _ =>
    Prog.preserves_bind (hclose .read) fun _ => hclose .write

end Kept

end SerialImpl

namespace Serial

variable {win : WinApi ω} {I : SerialImpl ω → Prop}

/-- What single reads keep, the loop of `readline` keeps. -/
theorem preserves_readlineLoop (hread : Prog.Preserves I (SerialImpl.read win 1)) (size : ℕ)
    (eol buffer : Str) : Prog.Preserves I (readlineLoop win size eol buffer) := by
  -- the induction is on the room in the buffer
  induction hroom : size - buffer.length using Nat.strongRecOn generalizing buffer with
  | _ room ih =>
    rw [readlineLoop]
    refine Prog.preserves_bind hread fun bytes => ?_
    have hnext (hbytes : bytes ≠ []) (hsize : ¬ size < (buffer ++ bytes).length) :
        Prog.Preserves I (readlineLoop win size eol (buffer ++ bytes)) := by
      refine ih _ ?_ _ rfl
      have hpos := List.length_pos_iff.mpr hbytes
      rw [List.length_append] at hsize ⊢
      omega
    split_ifs with hnil hsize
    · exact Prog.preserves_pure _
    · exact fun _ hs => hs
    · exact hnext hnil hsize
    · exact Prog.preserves_pure _
    · exact Prog.preserves_pure _
    · exact hnext hnil hsize

/-- What single reads keep, the loop of `readlines` keeps. -/
theorem preserves_readlinesLoop (hread : Prog.Preserves I (SerialImpl.read win 1)) (size : ℕ)
    (eol buffer : Str) (startOfLine : ℕ) (lines : List Str) :
    Prog.Preserves I (readlinesLoop win size eol buffer startOfLine lines) := by
  -- the induction is on the room in the buffer
  induction hroom : size - buffer.length using Nat.strongRecOn
    generalizing buffer startOfLine lines with
  | _ room ih =>
    rw [readlinesLoop]
    refine Prog.preserves_ite (Prog.preserves_bind hread fun bytes => ?_) (Prog.preserves_pure _)
    have hnext (hbytes : bytes ≠ []) (hsize : ¬ size < (buffer ++ bytes).length)
        (startOfLine' : ℕ) (lines' : List Str) :
        Prog.Preserves I (readlinesLoop win size eol (buffer ++ bytes) startOfLine' lines') := by
      refine ih _ ?_ _ _ _ rfl
      have hpos := List.length_pos_iff.mpr hbytes
      rw [List.length_append] at hsize ⊢
      omega
    split_ifs with hnil hsize
    · exact Prog.preserves_pure _
    · exact fun _ hs => hs
    · exact hnext hnil hsize _ _
    · exact Prog.preserves_pure _
    · exact hnext hnil hsize _ _

section Use

variable (hI : SerialImpl.KeptByUse I)
include hI

/-- What the steps of use and the body keep, the scope of a `ScopedReadLock` keeps. -/
theorem preserves_scopedReadLock {α : Type} {body : Prog Exception (SerialImpl ω) α}
    (hbody : Prog.Preserves I body) : Prog.Preserves I (scopedReadLock win body) :=
  Prog.preserves_inScope (SerialImpl.preserves_claim hI _ _) (SerialImpl.preserves_release hI _ _)
    hbody

/-- What the steps of use and the body keep, the scope of a `ScopedWriteLock` keeps. -/
theorem preserves_scopedWriteLock {α : Type} {body : Prog Exception (SerialImpl ω) α}
    (hbody : Prog.Preserves I body) : Prog.Preserves I (scopedWriteLock win body) :=
  Prog.preserves_inScope (SerialImpl.preserves_claim hI _ _) (SerialImpl.preserves_release hI _ _)
    hbody

/-- `read` only uses the port. -/
theorem preserves_read (size : ℕ) : Prog.Preserves I (read win size) :=
  preserves_scopedReadLock hI (SerialImpl.preserves_read hI size)

/-- `readline` only uses the port, even where it runs past its buffer. -/
theorem preserves_readline (size : ℕ) (eol : Str) : Prog.Preserves I (readline win size eol) :=
  preserves_scopedReadLock hI (preserves_readlineLoop (SerialImpl.preserves_read hI 1) size eol [])

/-- `readlines` only uses the port. -/
theorem preserves_readlines (size : ℕ) (eol : Str) : Prog.Preserves I (readlines win size eol) :=
  preserves_scopedReadLock hI
    (preserves_readlinesLoop (SerialImpl.preserves_read hI 1) size eol [] 0 [])

/-- `write` only uses the port. -/
theorem preserves_write (data : Str) : Prog.Preserves I (write win data) :=
  preserves_scopedWriteLock hI (SerialImpl.preserves_write hI data)

/-- `flush` only uses the port. -/
theorem preserves_flush : Prog.Preserves I (flush win) :=
  preserves_scopedReadLock hI
    (preserves_scopedWriteLock hI (SerialImpl.preserves_onOpenPort_io hI _ _ _))

end Use

variable (hI : SerialImpl.KeptBySteps I)
include hI

/-- `setPort` closes the port, takes the new name and opens the port again. -/
theorem preserves_setPort (port : Str) : Prog.Preserves I (setPort win port) := by
  refine preserves_scopedReadLock hI.use (preserves_scopedWriteLock hI.use ?_)
  refine Prog.preserves_bind Prog.preserves_get fun s => ?_
  have hrest : Prog.Preserves I (SerialImpl.setPort port >>= fun _ =>
      if s.isOpen = true then SerialImpl.openPort win else pure ()) :=
    Prog.preserves_bind (Prog.preserves_modify fun s => hI s _ (.setPort port)) fun _ =>
      Prog.preserves_ite (SerialImpl.preserves_openPort hI) (Prog.preserves_pure _)
  exact Prog.preserves_ite
    (Prog.preserves_bind (SerialImpl.preserves_close hI) fun _ => hrest) hrest

/-- Every member function is made of steps. -/
theorem preserves_perform (call : Call) : Prog.Preserves I (perform win call) := by
  have hio (function : String) (f : Option Handle → StateM ω Unit) (entry : IoCall) :
      Prog.Preserves I (SerialImpl.onOpenPort function (SerialImpl.io f entry)) :=
    SerialImpl.preserves_onOpenPort_io hI.use _ _ _
  have hset (f : Settings → Settings) : Prog.Preserves I (SerialImpl.set win f) :=
    SerialImpl.preserves_set hI f
  cases call with
  | openPort => exact SerialImpl.preserves_openPort hI
  | close => exact SerialImpl.preserves_close hI
  | available => exact (SerialImpl.preserves_available hI.use).discard
  | read size => exact (preserves_read hI.use size).discard
  | readline size eol => exact (preserves_readline hI.use size eol).discard
  | readlines size eol => exact (preserves_readlines hI.use size eol).discard
  | write data => exact (preserves_write hI.use data).discard
  | setPort port => exact preserves_setPort hI port
  | setTimeout timeout => exact hset fun settings => { settings with timeout }
  | setBaudrate baudrate => exact hset fun settings => { settings with baudrate }
  | setBytesize bytesize => exact hset fun settings => { settings with bytesize }
  | setParity parity => exact hset fun settings => { settings with parity }
  | setStopbits stopbits => exact hset fun settings => { settings with stopbits }
  | setFlowcontrol flowcontrol => exact hset fun settings => { settings with flowcontrol }
  | flush => exact preserves_flush hI.use
  | flushInput => exact preserves_scopedReadLock hI.use (hio _ _ _)
  | flushOutput => exact preserves_scopedWriteLock hI.use (hio _ _ _)
  | setBreak | setRTS | setDTR => exact hio _ _ _
  | waitForChange => exact (SerialImpl.preserves_waitForChange hI.use).discard
  | getCTS | getDSR | getRI | getCD => exact (SerialImpl.preserves_getLine hI.use _ _ _ _).discard
  | waitReadable | waitByteTimes | sendBreak => exact fun s hs => hs

/-- What all steps keep, any calls keep. -/
theorem preserves_performAll (calls : List Call) : Prog.Preserves I (performAll win calls) := by
  induction calls with
  | nil => exact Prog.preserves_pure _
  | cons call calls ih =>
    exact Prog.preserves_bind (Prog.preserves_catchException (preserves_perform hI call)
      fun _ => Prog.preserves_pure _) fun _ => ih

/-- The constructor of `Serial` sets the timeouts behind that of `SerialImpl`. -/
theorem preserves_construct (timeout : Timeout) : Prog.Preserves I (construct win timeout) :=
  Prog.preserves_bind (SerialImpl.preserves_construct hI) fun _ =>
    SerialImpl.preserves_set hI fun settings => { settings with timeout }

/-- What all steps keep holds at the end of every life of an object, however it ends. -/
theorem preserves_life (timeout : Timeout) (calls : List Call) :
    Prog.Preserves I (life win timeout calls) :=
  Prog.preserves_bind (preserves_construct hI timeout) fun _ =>
    Prog.preserves_bind (preserves_performAll hI calls) fun _ => SerialImpl.preserves_destruct hI

end Serial

end DoorAcs
