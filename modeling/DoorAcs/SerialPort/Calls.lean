import DoorAcs.AccessControlSystem.Log
import DoorAcs.SerialPort.Use

/-!
# The Windows calls of an exchange

What reading, writing and flushing an open port make of Windows calls, and from it the log of what a
reader does: `Serial.logs_port`.
-/

namespace DoorAcs

open Cpp

variable {ω : Type}

/-- The calls that write. -/
def writeCalls (fd : Handle) (data : Str) : List ApiCall :=
  [.waitForSingleObject .write true, .io (some fd) (.writeFile data), .releaseMutex .write true]

/-- The calls that read. -/
def readCalls (fd : Handle) (size : ℕ) : List ApiCall :=
  [.waitForSingleObject .read true, .io (some fd) (.readFile (.ofNat size)),
    .releaseMutex .read true]

/-- The calls that flush. -/
def flushCalls (fd : Handle) : List ApiCall :=
  [.waitForSingleObject .read true, .waitForSingleObject .write true,
    .io (some fd) .flushFileBuffers, .releaseMutex .write true, .releaseMutex .read true]

/-- The calls of an exchange that sends `frame`. -/
def exchangeCalls (fd : Handle) (frame : Str) : List ApiCall :=
  writeCalls fd frame ++ readCalls fd maxResponseNumberOfBytes

/-- The calls of an exchange that breaks off: a mutex could not be claimed, or the frame not
written, or the reply not read or not parsed. -/
inductive BrokenOffCalls (fd : Handle) (frame : Str) : List ApiCall → Prop where
  | notClaimed : BrokenOffCalls fd frame [.waitForSingleObject .write false]
  | notWritten : BrokenOffCalls fd frame (writeCalls fd frame)
  | written : BrokenOffCalls fd frame (writeCalls fd frame ++ [.waitForSingleObject .read false])
  | whole : BrokenOffCalls fd frame (exchangeCalls fd frame)

namespace SerialImpl

variable {win : WinApi ω} {α : Type} {s s' : SerialImpl ω} {mutex : Mutex}

/-- A mutex that was granted was waited for once. -/
theorem calls_of_run_claim_eq_ok {e : Exception} (h : (claim win mutex e).run s = .ok () s') :
    ∃ os, s' = s.behind os [.waitForSingleObject mutex true] := by
  rcases hwait : (win.waitForSingleObject mutex).run s.os with ⟨ok, os⟩
  rw [claim, run_call_bind hwait] at h
  cases ok <;> cases h
  exact ⟨os, rfl⟩

/-- A mutex that was not granted was waited for once. -/
theorem calls_of_run_claim_eq_error {e : Exception} {f : Failure Exception}
    (h : (claim win mutex e).run s = .error f s') :
    ∃ os, s' = s.behind os [.waitForSingleObject mutex false] := by
  rcases hwait : (win.waitForSingleObject mutex).run s.os with ⟨ok, os⟩
  rw [claim, run_call_bind hwait] at h
  cases ok <;> cases h
  exact ⟨os, rfl⟩

/-- A mutex that was released was released once. -/
theorem calls_of_run_release_eq_ok {e : Exception}
    (h : (release mutex e : Prog Exception (SerialImpl ω) Unit).run s = .ok () s') :
    s' = s.behind s.os [.releaseMutex mutex true] := by
  have hrun : (pure (decide (0 < held mutex s.calls)) : StateM ω Bool).run s.os =
      (decide (0 < held mutex s.calls), s.os) := rfl
  rw [release, run_get_bind, run_call_bind hrun] at h
  cases hheld : decide (0 < held mutex s.calls) <;> rw [hheld] at h <;> cases h
  rfl

section Scope

variable {e e' : Exception} {body : Prog Exception (SerialImpl ω) α} {calls : List ApiCall}

/-- A scope with a lock that is left with a value. -/
theorem calls_of_run_inScope_eq_ok {a : α}
    (hbody : ∀ {s₁ s₂ : SerialImpl ω}, body.run s₁ = .ok a s₂ → s₁.isOpen = s.isOpen →
      s₁.fd = s.fd → ∃ os, s₂ = s₁.behind os calls)
    (h : (Prog.inScope (claim win mutex e) (release mutex e') body).run s = .ok a s') :
    ∃ os, s' = s.behind os
      (.waitForSingleObject mutex true :: calls ++ [.releaseMutex mutex true]) := by
  obtain ⟨s₁, s₂, hclaim, hrun, hrelease⟩ := Prog.run_inScope_eq_ok.mp h
  obtain ⟨os₁, rfl⟩ := calls_of_run_claim_eq_ok hclaim
  obtain ⟨os₂, rfl⟩ := hbody hrun rfl rfl
  obtain rfl := calls_of_run_release_eq_ok hrelease
  exact ⟨os₂, by rw [behind_behind, behind_behind]; rfl⟩

/-- A scope with a lock that is left with an exception: the mutex could not be claimed, or the body
threw. -/
theorem calls_of_run_inScope_eq_exception {x : Exception}
    (hbody : ∀ {s₁ s₂ : SerialImpl ω}, body.run s₁ = .error (.exception x) s₂ →
      s₁.isOpen = s.isOpen → s₁.fd = s.fd → ∃ os, s₂ = s₁.behind os calls)
    (h : (Prog.inScope (claim win mutex e) (release mutex e') body).run s =
      .error (.exception x) s') :
    (∃ os, s' = s.behind os [.waitForSingleObject mutex false]) ∨
      ∃ os, s' = s.behind os
        (.waitForSingleObject mutex true :: calls ++ [.releaseMutex mutex true]) := by
  rcases Prog.run_inScope_eq_exception.mp h with hclaim | ⟨s₁, s₂, hclaim, hrun, hrelease⟩
  · exact .inl (calls_of_run_claim_eq_error hclaim)
  · obtain ⟨os₁, rfl⟩ := calls_of_run_claim_eq_ok hclaim
    obtain ⟨os₂, rfl⟩ := hbody hrun rfl rfl
    obtain rfl := calls_of_run_release_eq_ok hrelease
    exact .inr ⟨os₂, by rw [behind_behind, behind_behind]; rfl⟩

end Scope

/-- Reading makes one call, whether it succeeds or not. -/
theorem exists_finalState_read (hopen : s.isOpen = true) (size : ℕ) :
    ∃ os, (SerialImpl.read win size).finalState s =
      s.behind os [.io s.fd (.readFile (.ofNat size))] := by
  rcases hread : (win.readFile s.fd (.ofNat size)).run s.os with ⟨result, os⟩
  rw [SerialImpl.read, onOpenPort, Prog.finalState, run_get_bind, if_pos hopen, io,
    run_call_bind hread]
  cases result <;> exact ⟨os, rfl⟩

/-- Writing makes one call, whether it succeeds or not. -/
theorem exists_finalState_write (hopen : s.isOpen = true) (data : Str) :
    ∃ os, (SerialImpl.write win data).finalState s = s.behind os [.io s.fd (.writeFile data)] := by
  rcases hwrite : (win.writeFile s.fd data (.ofNat data.length)).run s.os with ⟨result, os⟩
  rw [SerialImpl.write, onOpenPort, Prog.finalState, run_get_bind, if_pos hopen, io,
    run_call_bind hwrite]
  cases result <;> exact ⟨os, rfl⟩

/-- On an open port `SerialImpl::flush` makes its one call. -/
theorem exists_finalState_flush (win : WinApi ω) (hopen : s.isOpen = true) :
    ∃ os, (SerialImpl.flush win).finalState s = s.behind os [.io s.fd .flushFileBuffers] := by
  rw [SerialImpl.flush, onOpenPort, Prog.finalState, run_get_bind, if_pos hopen]
  exact ⟨_, rfl⟩

end SerialImpl

/-! ## The port of a reader -/

namespace Serial

open SerialImpl

variable {win : WinApi ω} {fd : Handle} {s s' : {s : SerialImpl ω // s.OnHandle fd}}

section Locked

variable {α : Type} {mutex : Mutex} {e e' : Exception} {body : Prog Exception (SerialImpl ω) α}
  {call : IoCall} {t t' : SerialImpl ω}
  (hbody : ∀ {t : SerialImpl ω}, t.isOpen = true →
    ∃ os, body.finalState t = t.behind os [.io t.fd call])
  (ht : t.HasHandle fd)
include hbody ht

/-- One call on the port, with the mutex held. -/
theorem calls_of_run_locked_eq_ok {a : α}
    (h : (Prog.inScope (claim win mutex e) (release mutex e') body).run t = .ok a t') :
    t'.calls = t.calls ++
      [.waitForSingleObject mutex true, .io (some fd) call, .releaseMutex mutex true] := by
  obtain ⟨os, rfl⟩ := calls_of_run_inScope_eq_ok (fun hrun hopen hfd => by
    obtain ⟨os, ht₁⟩ := hbody (hopen.trans ht.isOpen)
    rw [Prog.finalState_of_ok hrun, hfd, ht.fd_eq] at ht₁
    exact ⟨os, ht₁⟩) h
  rfl

/-- If it throws, the mutex was not to be had, or the call was made. -/
theorem calls_of_run_locked_eq_exception {x : Exception}
    (h : (Prog.inScope (claim win mutex e) (release mutex e') body).run t =
      .error (.exception x) t') :
    t'.calls = t.calls ++ [.waitForSingleObject mutex false] ∨
      t'.calls = t.calls ++
        [.waitForSingleObject mutex true, .io (some fd) call, .releaseMutex mutex true] := by
  have hends := calls_of_run_inScope_eq_exception (fun hrun hopen hfd => by
    obtain ⟨os, ht₁⟩ := hbody (hopen.trans ht.isOpen)
    rw [Prog.finalState_of_error hrun, hfd, ht.fd_eq] at ht₁
    exact ⟨os, ht₁⟩) h
  rcases hends with ⟨os, rfl⟩ | ⟨os, rfl⟩
  · exact .inl rfl
  · exact .inr rfl

end Locked

/-- The calls of a write that succeeds. -/
theorem calls_of_run_write_eq_ok {data : Str} {n : ℕ}
    (h : ((port win fd).write data).run s = .ok n s') :
    s'.1.calls = s.1.calls ++ writeCalls fd data :=
  calls_of_run_locked_eq_ok (fun hopen => exists_finalState_write hopen data) s.2.1
    ((safe_write_onHandle win data).run_toThrowing_eq_ok.mp h)

/-- The calls of a write that throws: the mutex is not granted, or `WriteFile` fails inside the
scope. -/
theorem calls_of_run_write_eq_error {data : Str} {e : Exception}
    (h : ((port win fd).write data).run s = .error e s') :
    s'.1.calls = s.1.calls ++ [.waitForSingleObject .write false] ∨
      s'.1.calls = s.1.calls ++ writeCalls fd data :=
  calls_of_run_locked_eq_exception (fun hopen => exists_finalState_write hopen data) s.2.1
    ((safe_write_onHandle win data).run_toThrowing_eq_error.mp h)

/-- The calls of a read that succeeds. -/
theorem calls_of_run_read_eq_ok {size : ℕ} {text : Str}
    (h : ((port win fd).read size).run s = .ok text s') :
    s'.1.calls = s.1.calls ++ readCalls fd size :=
  calls_of_run_locked_eq_ok (fun hopen => exists_finalState_read hopen size) s.2.1
    ((safe_read_onHandle win size).run_toThrowing_eq_ok.mp h)

/-- The calls of a read that throws: the mutex is not granted, or `ReadFile` fails inside the scope.
-/
theorem calls_of_run_read_eq_error {size : ℕ} {e : Exception}
    (h : ((port win fd).read size).run s = .error e s') :
    s'.1.calls = s.1.calls ++ [.waitForSingleObject .read false] ∨
      s'.1.calls = s.1.calls ++ readCalls fd size :=
  calls_of_run_locked_eq_exception (fun hopen => exists_finalState_read hopen size) s.2.1
    ((safe_read_onHandle win size).run_toThrowing_eq_error.mp h)

/-- The calls of a flush that succeeds. -/
theorem calls_of_run_flush_eq_ok (h : (port win fd).flush.run s = .ok () s') :
    s'.1.calls = s.1.calls ++ flushCalls fd := by
  have hs := s.2.1
  -- the write lock inside the read lock
  have hinner {t t' : SerialImpl ω}
      (hrun : (scopedWriteLock win (SerialImpl.flush win)).run t = .ok () t')
      (hopen : t.isOpen = s.1.isOpen) (hfd : t.fd = s.1.fd) : ∃ os, t' = t.behind os
        (.waitForSingleObject .write true :: [.io (some fd) .flushFileBuffers] ++
          [.releaseMutex .write true]) := by
    refine calls_of_run_inScope_eq_ok (fun {t₁ t₂} hrun hopen' hfd' => ?_) hrun
    show ∃ os, t₂ = t₁.behind os [.io (some fd) .flushFileBuffers]
    obtain ⟨os, hs₁⟩ := exists_finalState_flush win ((hopen'.trans hopen).trans hs.isOpen)
    rw [Prog.finalState_of_ok hrun, hfd', hfd, hs.fd_eq] at hs₁
    exact ⟨os, hs₁⟩
  obtain ⟨os, hs'⟩ := calls_of_run_inScope_eq_ok hinner
    ((safe_flush_onHandle win).run_toThrowing_eq_ok.mp h)
  rw [hs']
  rfl

/-- The log of Windows calls is the log of the timeouts, the exchanges and the flushes. -/
theorem logs_port : (port win fd).Logs (fun s => s.1.calls)
    (fun s timed => Configures s.1.settings.withoutInterByteTimeout fd timed true)
    (exchangeCalls fd) (BrokenOffCalls fd) (flushCalls fd) where
  timeouts_ok h := by
    obtain ⟨os, timed, htimed, hs'⟩ := exists_of_run_setTimeouts_eq_ok h
    exact ⟨timed, htimed, congrArg SerialImpl.calls hs'⟩
  ask_ok hask := by
    obtain ⟨n, s₁, text, hwrite, hread, -⟩ := SerialPort.run_ask_eq_ok_iff.mp hask
    rw [calls_of_run_read_eq_ok hread, calls_of_run_write_eq_ok hwrite, List.append_assoc]
    rfl
  ask_error hask := by
    rcases Spec.run_bind_eq_error.mp hask with hask | ⟨n, s₁, hwritten, hask⟩
    · obtain ⟨e, hwrite⟩ := Spec.run_ofThrowing_eq_error.mp hask
      rcases calls_of_run_write_eq_error hwrite with hcalls | hcalls
      · exact ⟨_, .notClaimed, hcalls⟩
      · exact ⟨_, .notWritten, hcalls⟩
    have hwrite := calls_of_run_write_eq_ok (Spec.run_ofThrowing_eq_ok.mp hwritten)
    rcases Spec.run_bind_eq_error.mp hask with hask | ⟨text, s₂, htext, hask⟩
    · obtain ⟨e, hread⟩ := Spec.run_ofThrowing_eq_error.mp hask
      rcases calls_of_run_read_eq_error hread with hcalls | hcalls
      · exact ⟨_, .written, by rw [hcalls, hwrite, List.append_assoc]⟩
      · exact ⟨_, .whole, by rw [hcalls, hwrite, List.append_assoc]; rfl⟩
    · -- the text was no hexadecimal number
      obtain ⟨-, rfl⟩ := Spec.run_ofOption_eq_error.mp hask
      have hread := calls_of_run_read_eq_ok (Spec.run_ofThrowing_eq_ok.mp htext)
      exact ⟨_, .whole, by rw [hread, hwrite, List.append_assoc]; rfl⟩
  flush_ok := calls_of_run_flush_eq_ok
  part_whole _ := .whole

end Serial

end DoorAcs
