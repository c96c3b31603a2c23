import DoorAcs.Cpp.Monitor
import DoorAcs.SerialPort.Step

/-!
# The locks of a serial object

`lockMonitor` says which of the two mutexes must be held for which call, and in which order they are
claimed and released. The member functions keep to it, and each leaves the mutexes as it found them.
Those that read lines are in `DoorAcs.SerialPort.ReadLine`.
-/

namespace DoorAcs

open Cpp

variable {ω : Type}

/-! ## Monitor -/

/-- The mutexes that are held are those that the call needs. -/
def IoCall.Guarded (n : Mutex → ℕ) : IoCall → Prop
  | .readFile _ => 0 < n .read
  | .writeFile _ => 0 < n .write
  | .flushFileBuffers => 0 < n .read ∧ 0 < n .write
  | .purgeComm flags =>
    (flags = purgeRxClear → 0 < n .read) ∧ (flags = purgeTxClear → 0 < n .write)
  | _ => True

/-- The rules for the mutexes: none is claimed twice, the read mutex is claimed before the write
mutex and released behind it, only what is held is released, and what is destroyed is free. The
state is how often each is held. -/
def lockMonitor : Monitor (Mutex → ℕ) ApiCall where
  init _ := 0
  next n call mutex := call.holding mutex (n mutex)
  Allows n
    | .waitForSingleObject .read _ => n .read = 0 ∧ n .write = 0
    | .waitForSingleObject .write _ => n .write = 0
    | .releaseMutex .read ok => ok = true ∧ 0 < n .read ∧ n .write = 0
    | .releaseMutex .write ok => ok = true ∧ 0 < n .write
    | .closeMutex mutex => n mutex = 0
    | .io _ call => call.Guarded n
    | _ => True

/-- The state of the monitor is how often each mutex is held. -/
theorem lockMonitor_state (calls : List ApiCall) :
    lockMonitor.state calls = fun mutex => held mutex calls := by
  induction calls using List.reverseRecOn with
  | nil => rfl
  | append_singleton calls call ih =>
    rw [Monitor.state_append_singleton, ih]
    funext mutex
    rw [held_append_singleton]
    rfl

namespace SerialImpl

/-! ## The invariant -/

/-- The rules were kept, and the mutexes are held `read` and `write` times. -/
structure Locked (read write : ℕ) (s : SerialImpl ω) : Prop where
  accepts : lockMonitor.Accepts s.calls
  held_read : held .read s.calls = read
  held_write : held .write s.calls = write

variable {win : WinApi ω} {α : Type} {read write read' write' : ℕ} {s : SerialImpl ω}

/-- One more call. -/
theorem Locked.behind {os : ω} {call : ApiCall} (hs : s.Locked read write)
    (hallows : ∀ n : Mutex → ℕ, n .read = read → n .write = write → lockMonitor.Allows n call)
    (hread : call.holding .read read = read') (hwrite : call.holding .write write = write') :
    Locked read' write' (s.behind os [call]) := by
  refine ⟨?_, ?_, ?_⟩
  · refine lockMonitor.accepts_append_singleton.mpr ⟨hs.accepts, ?_⟩
    rw [lockMonitor_state]
    exact hallows _ hs.held_read hs.held_write
  · rw [SerialImpl.behind, held_append_singleton, hs.held_read, hread]
  · rw [SerialImpl.behind, held_append_singleton, hs.held_write, hwrite]

/-- A call that is allowed and leaves the mutexes alone. -/
theorem safe_call {f : StateM ω α} {entry : α → ApiCall}
    (hallows : ∀ (n : Mutex → ℕ) a, n .read = read → n .write = write →
      lockMonitor.Allows n (entry a))
    (hread : ∀ a, (entry a).holding .read read = read)
    (hwrite : ∀ a, (entry a).holding .write write = write) :
    Prog.Safe (Locked read write) (call f entry) :=
  ⟨fun _ hs => hs.behind (hallows · _) (hread _) (hwrite _), fun _ hrun => nomatch hrun⟩

/-- What is only stored in the object changes nothing about the mutexes. -/
theorem safe_modify {f : SerialImpl ω → SerialImpl ω} (hf : ∀ s, (f s).calls = s.calls) :
    Prog.Safe (Locked read write) (modify f : Prog Exception (SerialImpl ω) PUnit) := by
  refine Prog.safe_modify fun s hs => ⟨?_, ?_, ?_⟩ <;> rw [hf]
  · exact hs.accepts
  · exact hs.held_read
  · exact hs.held_write

/-- A call on the port is safe where the mutexes are held that it needs. -/
theorem safe_io {f : Option Handle → StateM ω α} {entry : IoCall} {fd : Option Handle}
    (h : ∀ n : Mutex → ℕ, n .read = read → n .write = write → entry.Guarded n) :
    Prog.Safe (Locked read write) (io f entry fd) :=
  safe_call (fun n _ => h n) (fun _ => rfl) fun _ => rfl

/-! ## The member functions -/

/-- A function that needs an open port throws if there is none. -/
theorem safe_onOpenPort {I : SerialImpl ω → Prop} {function : String}
    {k : Option Handle → Prog Exception (SerialImpl ω) α} (hk : ∀ fd, Prog.Safe I (k fd)) :
    Prog.Safe I (onOpenPort function k) :=
  Prog.safe_bind Prog.safe_get fun _ => Prog.safe_ite (hk _) (Prog.safe_raise _)

/-- Closing a handle needs no mutex. -/
theorem safe_closeHandle (fd : Handle) :
    Prog.Safe (Locked read write) (closeHandle win fd) :=
  safe_call (fun _ _ _ _ => trivial) (fun _ => rfl) fun _ => rfl

/-- Every way out of `reconfigurePort` that does not return is an exception. -/
theorem safe_reconfigurePort : Prog.Safe (Locked read write) (reconfigurePort win) := by
  refine Prog.safe_bind Prog.safe_get fun s => ?_
  cases s.fd with
  | none => exact Prog.safe_raise _
  | some fd =>
    refine Prog.safe_bind (safe_call (fun _ _ _ _ => trivial) (fun _ => rfl) fun _ => rfl)
      fun old? => ?_
    cases old? with
    | none => exact Prog.safe_raise _
    | some old =>
      refine Prog.safe_bind Prog.safe_get fun s => Prog.safe_bind ?_ fun dcb => ?_
      · cases hdcb : setupDCB s.settings old with
        | ok dcb => exact Prog.safe_pure _
        | error f =>
          obtain ⟨e, rfl⟩ := exists_of_setupDCB_eq_error hdcb
          exact Prog.safe_raise _
      · refine Prog.safe_bind (safe_call (fun _ _ _ _ => trivial) (fun _ => rfl) fun _ => rfl)
          fun accepted => Prog.safe_ite (Prog.safe_bind Prog.safe_get fun s => ?_) ?_
        · exact Prog.safe_bind (safe_call (fun _ _ _ _ => trivial) (fun _ => rfl) fun _ => rfl)
            fun accepted => Prog.safe_ite (Prog.safe_pure _) (Prog.safe_raise _)
        · exact Prog.safe_bind (safe_closeHandle fd) fun _ => Prog.safe_raise _

/-- Opening the port needs no mutex. -/
theorem safe_openPort : Prog.Safe (Locked read write) (openPort win) := by
  refine Prog.safe_bind Prog.safe_get fun s => Prog.safe_ite (Prog.safe_raise _)
    (Prog.safe_ite (Prog.safe_raise _) (Prog.safe_bind (Prog.safe_bind Prog.safe_get fun s =>
      Prog.safe_bind ?_ fun _ => Prog.safe_pure _) fun result => ?_))
  · exact safe_call (fun _ _ _ _ => trivial) (fun _ => rfl) fun _ => rfl
  cases result with
  | error code =>
    exact Prog.safe_bind (safe_modify fun _ => rfl)
      fun _ => Prog.safe_raise _
  | ok fd =>
    refine Prog.safe_bind (safe_modify fun _ => rfl)
      fun _ => Prog.safe_bind safe_reconfigurePort fun _ => ?_
    exact safe_modify fun _ => rfl

/-- Setting one of the settings needs no mutex. -/
theorem safe_set (f : Settings → Settings) : Prog.Safe (Locked read write) (set win f) := by
  refine Prog.safe_bind (safe_modify fun _ => rfl)
    fun _ => Prog.safe_bind Prog.safe_get fun s => ?_
  exact Prog.safe_ite safe_reconfigurePort (Prog.safe_pure _)

/-- `ReadFile` needs the read mutex. -/
theorem safe_read (size : ℕ) (hread : 0 < read) :
    Prog.Safe (Locked read write) (SerialImpl.read win size) := by
  refine safe_onOpenPort fun fd => Prog.safe_bind (safe_io fun n hn _ => ?_) fun result => ?_
  · exact lt_of_lt_of_eq hread hn.symm
  cases result with
  | error code => exact Prog.safe_raise _
  | ok bytes => exact Prog.safe_pure _

/-- `WriteFile` needs the write mutex. -/
theorem safe_write (data : Str) (hwrite : 0 < write) :
    Prog.Safe (Locked read write) (SerialImpl.write win data) := by
  refine safe_onOpenPort fun fd => Prog.safe_bind (safe_io fun n _ hn => ?_) fun result => ?_
  · exact lt_of_lt_of_eq hwrite hn.symm
  cases result with
  | error code => exact Prog.safe_raise _
  | ok bytesWritten => exact Prog.safe_pure _

/-- `FlushFileBuffers` needs both mutexes. -/
theorem safe_flush (hread : 0 < read) (hwrite : 0 < write) :
    Prog.Safe (Locked read write) (flush win) :=
  safe_onOpenPort fun _ => safe_io fun _ hr hw =>
    ⟨lt_of_lt_of_eq hread hr.symm, lt_of_lt_of_eq hwrite hw.symm⟩

/-- A mutex is claimed if Windows grants it. -/
theorem run_claim_of_wait {mutex : Mutex} {e : Exception} {os : ω}
    (h : (win.waitForSingleObject mutex).run s.os = (true, os)) :
    (claim win mutex e).run s = .ok () (s.behind os [.waitForSingleObject mutex true]) := by
  rw [claim, run_call_bind h, if_pos rfl]
  rfl

/-- A mutex that may be claimed is claimed, or nothing changes. -/
theorem run_claim {mutex : Mutex} {e : Exception} (hs : s.Locked read write)
    (hallows : ∀ (n : Mutex → ℕ) ok, n .read = read → n .write = write →
      lockMonitor.Allows n (.waitForSingleObject mutex ok))
    (hread : (ApiCall.waitForSingleObject mutex true).holding .read read = read')
    (hwrite : (ApiCall.waitForSingleObject mutex true).holding .write write = write') :
    (∃ s', (claim win mutex e).run s = .ok () s' ∧ s'.Locked read' write') ∨
      ∃ e' s', (claim win mutex e).run s = .error (.exception e') s' ∧ s'.Locked read write := by
  rcases hwait : (win.waitForSingleObject mutex).run s.os with ⟨ok, os⟩
  cases ok with
  | true => exact .inl ⟨_, run_claim_of_wait hwait, hs.behind (hallows · true) hread hwrite⟩
  | false =>
    rw [claim, run_call_bind hwait, if_neg Bool.false_ne_true]
    exact .inr ⟨e, _, rfl, hs.behind (hallows · false) rfl rfl⟩

/-- A mutex that is held is released. -/
theorem run_release {mutex : Mutex} {e : Exception} (hs : s.Locked read write)
    (hheld : 0 < held mutex s.calls)
    (hallows : ∀ n : Mutex → ℕ, n .read = read → n .write = write →
      lockMonitor.Allows n (.releaseMutex mutex true))
    (hread : (ApiCall.releaseMutex mutex true).holding .read read = read')
    (hwrite : (ApiCall.releaseMutex mutex true).holding .write write = write') :
    ∃ s', (release mutex e : Prog Exception (SerialImpl ω) Unit).run s = .ok () s' ∧
      s'.Locked read' write' := by
  refine ⟨s.behind s.os [.releaseMutex mutex true], ?_, hs.behind hallows hread hwrite⟩
  have hreleased : (pure (decide (0 < held mutex s.calls)) : StateM ω Bool).run s.os =
      (true, s.os) := by
    rw [decide_eq_true hheld]
    rfl
  rw [release, run_get_bind, run_call_bind hreleased, if_pos rfl]
  rfl

end SerialImpl

namespace Serial

open SerialImpl

variable {win : WinApi ω} {α : Type}

/-- The read mutex is claimed while no mutex is held, or nothing changes. -/
theorem run_readLock {s : SerialImpl ω} (hs : s.Locked 0 0) :
    (∃ s', (readLock win).run s = .ok () s' ∧ s'.Locked 1 0) ∨
      ∃ e s', (readLock win).run s = .error (.exception e) s' ∧ s'.Locked 0 0 :=
  run_claim hs (fun _ _ hr hw => ⟨hr, hw⟩) rfl rfl

/-- The write mutex is claimed while it is free, or nothing changes. -/
theorem run_writeLock {read : ℕ} {s : SerialImpl ω} (hs : s.Locked read 0) :
    (∃ s', (writeLock win).run s = .ok () s' ∧ s'.Locked read 1) ∨
      ∃ e s', (writeLock win).run s = .error (.exception e) s' ∧ s'.Locked read 0 :=
  run_claim hs (fun _ _ _ hw => hw) rfl rfl

/-- The read mutex is released if it alone is held. -/
theorem run_readUnlock {s : SerialImpl ω} (hs : s.Locked 1 0) :
    ∃ s', (readUnlock : Prog Exception (SerialImpl ω) Unit).run s = .ok () s' ∧ s'.Locked 0 0 := by
  refine run_release hs ?_ (fun n hr hw => ⟨rfl, ?_, hw⟩) rfl rfl
  · rw [hs.held_read]
    exact Nat.one_pos
  · rw [hr]
    exact Nat.one_pos

/-- The write mutex is released if it is held. -/
theorem run_writeUnlock {read : ℕ} {s : SerialImpl ω} (hs : s.Locked read 1) :
    ∃ s', (writeUnlock : Prog Exception (SerialImpl ω) Unit).run s = .ok () s' ∧
      s'.Locked read 0 := by
  refine run_release hs ?_ (fun n _ hw => ⟨rfl, ?_⟩) rfl rfl
  · rw [hs.held_write]
    exact Nat.one_pos
  · rw [hw]
    exact Nat.one_pos

/-- Behind the scope of a `ScopedReadLock` the read mutex is free again. -/
theorem safe_scopedReadLock {body : Prog Exception (SerialImpl ω) α}
    (hbody : Prog.Safe (Locked 1 0) body) : Prog.Safe (Locked 0 0) (scopedReadLock win body) :=
  Prog.safe_inScope (fun _ => run_readLock) (fun _ => run_readUnlock) hbody

/-- Behind the scope of a `ScopedWriteLock` the write mutex is free again. The read mutex may be
held around it. -/
theorem safe_scopedWriteLock {read : ℕ} {body : Prog Exception (SerialImpl ω) α}
    (hbody : Prog.Safe (Locked read 1) body) :
    Prog.Safe (Locked read 0) (scopedWriteLock win body) :=
  Prog.safe_inScope (fun _ => run_writeLock) (fun _ => run_writeUnlock) hbody

/-- `read` claims the mutex it needs. -/
theorem safe_read (size : ℕ) : Prog.Safe (Locked 0 0) (read win size) :=
  safe_scopedReadLock (SerialImpl.safe_read size Nat.one_pos)

/-- `write` claims the mutex it needs. -/
theorem safe_write (data : Str) : Prog.Safe (Locked 0 0) (write win data) :=
  safe_scopedWriteLock (SerialImpl.safe_write data Nat.one_pos)

/-- `flush` claims both mutexes, the read mutex first. -/
theorem safe_flush : Prog.Safe (Locked 0 0) (flush win) :=
  safe_scopedReadLock (safe_scopedWriteLock (SerialImpl.safe_flush Nat.one_pos Nat.one_pos))

/-- Where both mutexes can be claimed, an open port is flushed without an exception: what
`FlushFileBuffers` returns is not looked at. -/
theorem exists_run_flush {s : SerialImpl ω} (hs : s.Locked 0 0) (hopen : s.isOpen = true)
    (hwait : ∀ mutex os, ((win.waitForSingleObject mutex).run os).1 = true) :
    ∃ s', (flush win).run s = .ok () s' := by
  have hgranted (mutex : Mutex) (os : ω) : ∃ os', (win.waitForSingleObject mutex).run os =
      (true, os') := ⟨_, Prod.ext (hwait mutex os) rfl⟩
  obtain ⟨os₁, hread⟩ := hgranted .read s.os
  obtain ⟨os₂, hwrite⟩ := hgranted .write os₁
  -- the states behind the first and the second mutex
  set s₁ := s.behind os₁ [.waitForSingleObject .read true]
  set s₂ := s₁.behind os₂ [.waitForSingleObject .write true]
  have hs₁ : s₁.Locked 1 0 := hs.behind (fun _ hr hw => ⟨hr, hw⟩) rfl rfl
  have hs₂ : s₂.Locked 1 1 := hs₁.behind (fun _ _ hw => hw) rfl rfl
  have hflush : ∃ s₃, (SerialImpl.flush win).run s₂ = .ok () s₃ := by
    rw [SerialImpl.flush, onOpenPort, run_get_bind]
    exact ⟨_, by rw [if_pos (show s₂.isOpen = true from hopen)]; rfl⟩
  obtain ⟨s₃, hflush⟩ := hflush
  have hs₃ := (SerialImpl.safe_flush Nat.one_pos Nat.one_pos).of_run_eq_ok hs₂ hflush
  obtain ⟨s₄, hwriteUnlock, hs₄⟩ := run_writeUnlock hs₃
  obtain ⟨s₅, hreadUnlock, -⟩ := run_readUnlock hs₄
  exact ⟨s₅, Prog.run_inScope_of_ok (run_claim_of_wait hread)
    (Prog.run_inScope_of_ok (run_claim_of_wait hwrite) hflush hwriteUnlock) hreadUnlock⟩

/-- The constructor makes the mutexes and claims none. A port that cannot be opened is an exception.
-/
theorem safe_construct (timeout : Timeout) : Prog.Safe (Locked 0 0) (construct win timeout) := by
  have hcreate (mutex : Mutex) : Prog.Safe (Locked 0 0)
      (call (pure ()) fun _ => .createMutex mutex : Prog Exception (SerialImpl ω) Unit) :=
    safe_call (fun _ _ _ _ => trivial) (fun _ => rfl) fun _ => rfl
  have hmutexes := Prog.safe_bind (hcreate .read) fun _ => hcreate .write
  refine Prog.safe_bind (Prog.safe_bind Prog.safe_get fun s => ?_) fun _ =>
    safe_set fun settings => { settings with timeout }
  exact Prog.safe_ite (Prog.safe_bind safe_openPort fun _ => hmutexes) hmutexes

/-- An object whose constructor has not run has made no calls. -/
theorem locked_start (port : Str) (baudrate : UInt32) (bytesize : Bytesize) (parity : Parity)
    (stopbits : Stopbits) (flowcontrol : Flowcontrol) (os : ω) :
    Locked 0 0 (start port baudrate bytesize parity stopbits flowcontrol os) :=
  ⟨trivial, rfl, rfl⟩

end Serial

end DoorAcs
