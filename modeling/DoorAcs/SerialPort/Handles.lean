import DoorAcs.Cpp.Monitor
import DoorAcs.SerialPort.Step
import Mathlib.Data.Finset.Disjoint
import Mathlib.Data.Finset.Erase

/-!
# The handles of a serial object

Rules for handles, as monitors of the calls: `handleMonitor` allows a call on a handle only while it
is open, `refusalMonitor` allows everything except that a port in use is closed because Windows
refuses its new settings.

* `Serial.life_handles_iff`: a life of a serial object keeps to the first rule exactly if it keeps
  to the second.
* `Serial.life_closes`: a life that returns has closed every port that was configured.
-/

namespace DoorAcs

open Cpp

variable {ω : Type}

/-! ## Monitors -/

/-- Handles are used and closed only while they are open. The state is the open handles. -/
def handleMonitor : Monitor (Finset Handle) ApiCall where
  init := ∅
  next live
    | .createFile _ (some fd) => insert fd live
    | .closeHandle fd true => live.erase fd
    | _ => live
  Allows live
    | .getCommState fd _ => fd ∈ live
    | .setCommState fd _ _ => fd ∈ live
    | .setCommTimeouts fd _ _ => fd ∈ live
    | .closeHandle fd _ => fd ∈ live
    | .io fd? _ => ∃ fd ∈ live, fd? = some fd
    | _ => True

instance (live : Finset Handle) : (call : ApiCall) → Decidable (handleMonitor.Allows live call)
  | .getCommState fd _ => inferInstanceAs (Decidable (fd ∈ live))
  | .setCommState fd _ _ => inferInstanceAs (Decidable (fd ∈ live))
  | .setCommTimeouts fd _ _ => inferInstanceAs (Decidable (fd ∈ live))
  | .closeHandle fd _ => inferInstanceAs (Decidable (fd ∈ live))
  | .io fd? _ => inferInstanceAs (Decidable (∃ fd ∈ live, fd? = some fd))
  | .createFile .. => inferInstanceAs (Decidable True)
  | .createMutex _ => inferInstanceAs (Decidable True)
  | .waitForSingleObject .. => inferInstanceAs (Decidable True)
  | .releaseMutex .. => inferInstanceAs (Decidable True)
  | .closeMutex _ => inferInstanceAs (Decidable True)

/-- What is known of refusals: the handles that were configured at least once, and the one whose
settings the last call refused. -/
structure Refusals where
  configured : Finset Handle
  refused : Option Handle

/-- No port that has been configured is closed for the refusal of other settings. -/
def refusalMonitor : Monitor Refusals ApiCall where
  init := { configured := ∅, refused := none }
  next r
    | .setCommTimeouts fd _ true => { configured := insert fd r.configured, refused := none }
    | .setCommState fd _ false => { r with refused := some fd }
    | _ => { r with refused := none }
  Allows r
    | .closeHandle fd true => ¬ (r.refused = some fd ∧ fd ∈ r.configured)
    | _ => True

/-- Where no port was closed, none was closed for a refusal. -/
theorem refusalMonitor_accepts {calls : List ApiCall}
    (h : ∀ fd, .closeHandle fd true ∉ calls) : refusalMonitor.Accepts calls := by
  refine refusalMonitor.accepts_iff.mpr fun older call newer heq => ?_
  have hmem : call ∈ calls := by simp [heq]
  cases call with
  | closeHandle fd ok =>
    cases ok with
    | true => exact absurd hmem (h fd)
    | false => trivial
  | _ => trivial

namespace Configures

variable {settings : Settings} {fd : Handle} {calls : List ApiCall} {ok : Bool}
  (h : Configures settings fd calls ok)
include h

/-- A configuration that succeeds closes nothing. -/
theorem not_mem_of_ok (hok : ok = true) (fd' : Handle) : .closeHandle fd' true ∉ calls := by
  cases h <;> simp_all

/-- A configuration needs its handle to be open, and nothing else. -/
theorem handle_allowsAll_iff (live : Finset Handle) :
    handleMonitor.AllowsAll live calls ↔ fd ∈ live := by
  cases h <;> simp [handleMonitor]

/-- A configuration leaves the other handles open, and its own unless it closes it. -/
theorem handle_after (live : Finset Handle) :
    handleMonitor.after live calls =
      if .closeHandle fd true ∈ calls then live.erase fd else live := by
  cases h with
  | @refused old dcb ok hdcb => cases ok <;> simp [handleMonitor]
  | noState | invalid | noTimeouts | done => simp [handleMonitor]

/-- A configuration may close its handle only if that was never configured. -/
theorem refusal_allowsAll_iff (r : Refusals) :
    refusalMonitor.AllowsAll r calls ↔ (.closeHandle fd true ∈ calls → fd ∉ r.configured) := by
  cases h with
  | @refused old dcb ok hdcb => cases ok <;> simp [refusalMonitor]
  | noState | invalid | noTimeouts | done => simp [refusalMonitor]

/-- A configuration that succeeds makes its handle one that is configured. -/
theorem refusal_after (r : Refusals) :
    refusalMonitor.after r calls =
      { configured := if ok = true then insert fd r.configured else r.configured
        refused := none } := by
  cases h with
  | @refused old dcb ok hdcb => cases ok <;> simp [refusalMonitor]
  | noState | invalid | noTimeouts | done => simp [refusalMonitor]

end Configures

/-! ## The invariant -/

/-- The handles that are open behind the calls. -/
def live (calls : List ApiCall) : Finset Handle := handleMonitor.state calls

/-- The handles that were configured in the calls. -/
def configured (calls : List ApiCall) : Finset Handle := (refusalMonitor.state calls).configured

namespace SerialImpl

/-- The object has an open handle. -/
def HoldsLive (s : SerialImpl ω) : Prop := ∃ fd ∈ live s.calls, s.fd = some fd

/-- An object holds an open handle if its own handle is open. -/
theorem holdsLive_iff {s : SerialImpl ω} {fd : Handle} (hfd : s.fd = some fd) :
    s.HoldsLive ↔ fd ∈ live s.calls := by
  simp [HoldsLive, hfd]

/-- What the object knows of its handle. An open object has a handle that was configured, and no
other configured handle is open; it has lost its own iff a port in use was closed for a refusal and
no rule for handles is broken yet. -/
structure Tracked (s : SerialImpl ω) : Prop where
  settled : (refusalMonitor.state s.calls).refused = none
  fresh : ∀ fd ∈ configured s.calls, fd < s.calls.length
  configured_of_open : s.isOpen = true → ∃ fd ∈ configured s.calls, s.fd = some fd
  open_of_mem : ∀ fd ∈ live s.calls, fd ∈ configured s.calls → s.isOpen = true ∧ s.fd = some fd
  accepts_iff : refusalMonitor.Accepts s.calls ↔
    handleMonitor.Accepts s.calls ∧ (s.isOpen = true → s.HoldsLive)

namespace Tracked

variable {s : SerialImpl ω} (hs : s.Tracked)
include hs

/-- While the port is closed, the two rules say the same. -/
theorem accepts_iff_of_closed (hclosed : s.isOpen = false) :
    refusalMonitor.Accepts s.calls ↔ handleMonitor.Accepts s.calls := by
  simpa [hclosed] using hs.accepts_iff

/-- While the port is open, the rule about refusals says that its handle is open besides. -/
theorem accepts_iff_of_open {fd : Handle} (hopen : s.isOpen = true) (hfd : s.fd = some fd) :
    refusalMonitor.Accepts s.calls ↔ handleMonitor.Accepts s.calls ∧ fd ∈ live s.calls := by
  rw [hs.accepts_iff, forall_prop_of_true hopen, holdsLive_iff hfd]

/-- While the port is closed, no handle that is open was configured. -/
theorem not_mem_of_closed (hclosed : s.isOpen = false) {fd : Handle} (hlive : fd ∈ live s.calls) :
    fd ∉ configured s.calls := fun hfd =>
  absurd (hs.open_of_mem fd hlive hfd).1 (by rw [hclosed]; exact Bool.false_ne_true)

/-- The handle of an open port was configured. -/
theorem mem_configured {fd : Handle} (hopen : s.isOpen = true) (hfd : s.fd = some fd) :
    fd ∈ configured s.calls := by
  obtain ⟨fd', hmem, hfd'⟩ := hs.configured_of_open hopen
  rw [hfd] at hfd'
  cases hfd'
  exact hmem

/-- A handle that was configured is older than any that comes later. -/
theorem fresh_append {calls : List ApiCall} :
    ∀ fd ∈ configured s.calls, fd < (s.calls ++ calls).length := by
  intro fd hfd
  rw [List.length_append]
  exact Nat.lt_add_right _ (hs.fresh fd hfd)

end Tracked

/-- The invariant behind more calls, in terms of what the monitors make of these. -/
theorem tracked_of_calls {s s' : SerialImpl ω} {calls : List ApiCall} {r : Refusals}
    {live' : Finset Handle} (hcalls : s'.calls = s.calls ++ calls)
    (hr : refusalMonitor.after (refusalMonitor.state s.calls) calls = r)
    (hrefused : r.refused = none)
    (hlive : handleMonitor.after (live s.calls) calls = live')
    (hfresh : ∀ fd ∈ r.configured, fd < (s.calls ++ calls).length)
    (hopen : s'.isOpen = true → ∃ fd ∈ r.configured, s'.fd = some fd)
    (hown : ∀ fd ∈ live', fd ∈ r.configured → s'.isOpen = true ∧ s'.fd = some fd)
    (haccepts : (refusalMonitor.Accepts s.calls ∧
        refusalMonitor.AllowsAll (refusalMonitor.state s.calls) calls) ↔
      (handleMonitor.Accepts s.calls ∧ handleMonitor.AllowsAll (live s.calls) calls) ∧
        (s'.isOpen = true → ∃ fd ∈ live', s'.fd = some fd)) : s'.Tracked := by
  have hstate : refusalMonitor.state s'.calls = r := by
    rw [hcalls, Monitor.state_append, hr]
  have hlive' : DoorAcs.live s'.calls = live' := by
    rw [DoorAcs.live, hcalls, Monitor.state_append]
    exact hlive
  refine ⟨?_, ?_, ?_, ?_, ?_⟩
  · rw [hstate, hrefused]
  · rwa [configured, hstate, hcalls]
  · rwa [configured, hstate]
  · rwa [hlive', configured, hstate]
  · rw [HoldsLive, hlive', hcalls, Monitor.accepts_append, Monitor.accepts_append]
    exact haccepts

namespace Tracked

variable {s : SerialImpl ω} (hs : s.Tracked)
include hs

/-- A port that Windows does not create changes nothing about the handles. -/
theorem notCreated {name : Str} {os : ω} (hclosed : s.isOpen = false) :
    Tracked { s.behind os [.createFile name none] with fd := none } := by
  refine tracked_of_calls rfl rfl rfl rfl hs.fresh_append ?_ ?_ ?_
  · simp [behind, hclosed]
  · exact fun fd hlive hfd => absurd hfd (hs.not_mem_of_closed hclosed hlive)
  · show (refusalMonitor.Accepts s.calls ∧ True ∧ True) ↔
      (handleMonitor.Accepts s.calls ∧ True ∧ True) ∧ (s.isOpen = true → _)
    simp [hs.accepts_iff_of_closed hclosed, hclosed]

/-- A handle whose configuration fails is never used, whether it is closed or not. -/
theorem notOpened {name : Str} {os : ω} {calls : List ApiCall} (hclosed : s.isOpen = false)
    (hcalls : Configures s.settings s.calls.length calls false) :
    Tracked { s.behind os (.createFile name (some s.calls.length) :: calls) with
      fd := some s.calls.length } := by
  -- the new handle is none of those that were configured
  have hnew : s.calls.length ∉ configured s.calls := fun h => lt_irrefl _ (hs.fresh _ h)
  refine tracked_of_calls rfl rfl ?_ rfl ?_ ?_ ?_ ?_
  · rw [Monitor.after_cons, hcalls.refusal_after]
  · rw [Monitor.after_cons, hcalls.refusal_after]
    exact hs.fresh_append
  · simp [behind, hclosed]
  · rw [Monitor.after_cons, hcalls.handle_after, Monitor.after_cons, hcalls.refusal_after]
    intro fd hlive hfd
    have hmem : fd ∈ insert s.calls.length (live s.calls) := by
      split_ifs at hlive
      · exact Finset.mem_of_mem_erase hlive
      · exact hlive
    obtain rfl | hmem := Finset.mem_insert.mp hmem
    · exact absurd hfd hnew
    · exact absurd hfd (hs.not_mem_of_closed hclosed hmem)
  · rw [Monitor.allowsAll_cons, Monitor.allowsAll_cons, hcalls.refusal_allowsAll_iff,
      hcalls.handle_allowsAll_iff]
    show (refusalMonitor.Accepts s.calls ∧ True ∧ (_ → s.calls.length ∉ configured s.calls)) ↔
      (handleMonitor.Accepts s.calls ∧ True ∧ s.calls.length ∈ insert _ (live s.calls)) ∧
        (s.isOpen = true → _)
    simp [hs.accepts_iff_of_closed hclosed, hclosed, hnew]

/-- A port that is opened and configured. -/
theorem opened {name : Str} {os : ω} {calls : List ApiCall} (hclosed : s.isOpen = false)
    (hcalls : Configures s.settings s.calls.length calls true) :
    Tracked { s.behind os (.createFile name (some s.calls.length) :: calls) with
      fd := some s.calls.length, isOpen := true } := by
  have hnew : s.calls.length ∉ configured s.calls := fun h => lt_irrefl _ (hs.fresh _ h)
  have hkept := hcalls.not_mem_of_ok rfl s.calls.length
  refine tracked_of_calls rfl rfl ?_ rfl ?_ ?_ ?_ ?_
  · rw [Monitor.after_cons, hcalls.refusal_after]
  · rw [Monitor.after_cons, hcalls.refusal_after]
    intro fd hfd
    obtain rfl | hfd := Finset.mem_insert.mp hfd
    · simp
    · exact hs.fresh_append fd hfd
  · intro _
    rw [Monitor.after_cons, hcalls.refusal_after]
    exact ⟨_, Finset.mem_insert_self _ _, rfl⟩
  · rw [Monitor.after_cons, hcalls.handle_after, if_neg hkept, Monitor.after_cons,
      hcalls.refusal_after]
    intro fd hlive hfd
    obtain rfl | hlive := Finset.mem_insert.mp hlive
    · exact ⟨rfl, rfl⟩
    obtain rfl | hfd := Finset.mem_insert.mp hfd
    · exact ⟨rfl, rfl⟩
    · exact absurd hfd (hs.not_mem_of_closed hclosed hlive)
  · rw [Monitor.allowsAll_cons, Monitor.allowsAll_cons, hcalls.refusal_allowsAll_iff,
      hcalls.handle_allowsAll_iff, Monitor.after_cons, hcalls.handle_after, if_neg hkept]
    show (refusalMonitor.Accepts s.calls ∧ True ∧ (_ → s.calls.length ∉ configured s.calls)) ↔
      (handleMonitor.Accepts s.calls ∧ True ∧ s.calls.length ∈ insert _ (live s.calls)) ∧
        (_ → ∃ fd ∈ insert s.calls.length (live s.calls), some s.calls.length = some fd)
    simp [hs.accepts_iff_of_closed hclosed, hnew]

/-- A port that Windows does not close keeps its handle. -/
theorem notClosed {fd : Handle} {os : ω} (hopen : s.isOpen = true) (hfd : s.fd = some fd) :
    Tracked (s.behind os [.closeHandle fd false]) := by
  refine tracked_of_calls rfl rfl rfl rfl hs.fresh_append hs.configured_of_open hs.open_of_mem ?_
  show (refusalMonitor.Accepts s.calls ∧ True ∧ True) ↔
    (handleMonitor.Accepts s.calls ∧ fd ∈ live s.calls ∧ True) ∧ (s.isOpen = true → s.HoldsLive)
  simp [hs.accepts_iff_of_open hopen hfd, holdsLive_iff hfd, hopen]

/-- A port that is closed gives up its handle. -/
theorem closed {fd : Handle} {os : ω} (hopen : s.isOpen = true) (hfd : s.fd = some fd) :
    Tracked { s.behind os [.closeHandle fd true] with fd := none, isOpen := false } := by
  refine tracked_of_calls rfl rfl rfl rfl hs.fresh_append nofun ?_ ?_
  · intro fd' hlive hfd'
    have hown := (hs.open_of_mem fd' (Finset.mem_of_mem_erase hlive) hfd').2
    rw [hfd] at hown
    cases hown
    exact absurd rfl (Finset.ne_of_mem_erase hlive)
  · show (refusalMonitor.Accepts s.calls ∧
        ¬ ((refusalMonitor.state s.calls).refused = some fd ∧ _) ∧ True) ↔
      (handleMonitor.Accepts s.calls ∧ fd ∈ live s.calls ∧ True) ∧ (false = true → _)
    simp [hs.accepts_iff_of_open hopen hfd, hs.settled]

/-- An open port is lost exactly if it is closed for the refusal of its settings. -/
theorem reconfigured {fd : Handle} {settings : Settings} {os : ω} {calls : List ApiCall} {ok : Bool}
    (hopen : s.isOpen = true) (hfd : s.fd = some fd) (hcalls : Configures settings fd calls ok) :
    Tracked { s.behind os calls with settings } := by
  have hconfigured := hs.mem_configured hopen hfd
  have hinsert : (if ok = true then insert fd (configured s.calls) else configured s.calls) =
      configured s.calls := by
    rw [Finset.insert_eq_of_mem hconfigured, ite_self]
  refine tracked_of_calls rfl (hcalls.refusal_after _) rfl (hcalls.handle_after _) ?_ ?_ ?_ ?_
  · show ∀ fd' ∈ if ok = true then insert fd (configured s.calls) else configured s.calls, _
    rw [hinsert]
    exact hs.fresh_append
  · show _ → ∃ fd' ∈ if ok = true then insert fd (configured s.calls) else configured s.calls, _
    rw [hinsert]
    exact fun _ => ⟨fd, hconfigured, hfd⟩
  · show ∀ fd' ∈ _, fd' ∈ (if ok = true then insert fd (configured s.calls) else
      configured s.calls) → s.isOpen = true ∧ s.fd = some fd'
    rw [hinsert]
    intro fd' hlive hfd'
    refine hs.open_of_mem fd' ?_ hfd'
    split_ifs at hlive
    · exact Finset.mem_of_mem_erase hlive
    · exact hlive
  · rw [hcalls.refusal_allowsAll_iff, hcalls.handle_allowsAll_iff,
      hs.accepts_iff_of_open hopen hfd]
    show (_ ∧ (_ → fd ∉ configured s.calls)) ↔ _ ∧ (s.isOpen = true → ∃ fd' ∈ _, s.fd = some fd')
    by_cases hclose : .closeHandle fd true ∈ calls
    · simp [hclose, hconfigured, hopen, hfd]
    · simp [hclose, hopen, hfd]

/-- A use of the port. -/
theorem used {os : ω} (call : IoCall) (hopen : s.isOpen = true) :
    Tracked (s.behind os [.io s.fd call]) := by
  refine tracked_of_calls rfl rfl rfl rfl hs.fresh_append hs.configured_of_open hs.open_of_mem ?_
  show (refusalMonitor.Accepts s.calls ∧ True ∧ True) ↔
    (handleMonitor.Accepts s.calls ∧ s.HoldsLive ∧ True) ∧ (s.isOpen = true → s.HoldsLive)
  simp [hs.accepts_iff, hopen]

/-- A call about a mutex. -/
theorem mutex {os : ω} {call : ApiCall} (hcall : call.IsAboutMutex) :
    Tracked (s.behind os [call]) := by
  have haccepts : (refusalMonitor.Accepts s.calls ∧ True ∧ True) ↔
      (handleMonitor.Accepts s.calls ∧ True ∧ True) ∧ (s.isOpen = true → s.HoldsLive) := by
    simp [hs.accepts_iff]
  cases hcall <;>
    exact tracked_of_calls rfl rfl rfl rfl hs.fresh_append hs.configured_of_open hs.open_of_mem
      haccepts

end Tracked

/-- Every step keeps the relation between the two rules. -/
theorem keptBySteps_tracked : KeptBySteps (Tracked : SerialImpl ω → Prop) := by
  intro s s' hstep hs
  cases hstep with
  | setPort port | store settings hclosed =>
    exact ⟨hs.settled, hs.fresh, hs.configured_of_open, hs.open_of_mem, hs.accepts_iff⟩
  | notCreated name os hclosed => exact hs.notCreated hclosed
  | notOpened hclosed hcalls => exact hs.notOpened hclosed hcalls
  | opened hclosed hcalls => exact hs.opened hclosed hcalls
  | notClosed hopen hfd => exact hs.notClosed hopen hfd
  | closed hopen hfd => exact hs.closed hopen hfd
  | forgotten hopen hfd =>
    obtain ⟨fd, -, hfd'⟩ := hs.configured_of_open hopen
    cases hfd.symm.trans hfd'
  | reconfigured hopen hfd hcalls => exact hs.reconfigured hopen hfd hcalls
  | used call os hopen => exact hs.used call hopen
  | mutex os hcall => exact hs.mutex hcall

end SerialImpl

/-! ## Lives -/

namespace Serial

/-- Before its constructor runs, an object has no handle. -/
theorem tracked_start (port : Str) (baudrate : UInt32) (bytesize : Bytesize) (parity : Parity)
    (stopbits : Stopbits) (flowcontrol : Flowcontrol) (os : ω) :
    (SerialImpl.start port baudrate bytesize parity stopbits flowcontrol os).Tracked where
  settled := rfl
  fresh fd hfd := absurd hfd (Finset.notMem_empty fd)
  configured_of_open := nofun
  open_of_mem fd hfd := absurd hfd (Finset.notMem_empty fd)
  accepts_iff := ⟨fun _ => ⟨trivial, nofun⟩, fun _ => trivial⟩

variable (win : WinApi ω) (args : Arguments) (calls : List Call) (os : ω)

/-- At the end of every life the relation between the two rules holds. -/
theorem tracked_lived : (lived win args calls os).Tracked :=
  preserves_life SerialImpl.keptBySteps_tracked args.timeout calls _ (tracked_start ..)

/-- However a life ends: no port in use was closed for the refusal of other settings, if and only if
every handle was open when it was used and an object that still counts as open has an open one. -/
theorem life_handles_iff :
    refusalMonitor.Accepts (lived win args calls os).calls ↔
      handleMonitor.Accepts (lived win args calls os).calls ∧
        ((lived win args calls os).isOpen = true →
          ∃ fd ∈ live (lived win args calls os).calls, (lived win args calls os).fd = some fd) :=
  (tracked_lived win args calls os).accepts_iff

/-- Where 115200 baud are refused, the port is closed, and the destructor closes the handle again.
-/
example : ¬ handleMonitor.Accepts
    (lived { WinApi.granting with setCommState := fun _ dcb => pure (dcb.baudRate != 115200) }
      .com3 [.setBaudrate 115200] []).calls := by
  decide +kernel

variable {win args calls os}

/-- A life that returns closes every port that was configured. -/
theorem life_closes {s : SerialImpl ω}
    (h : (life win args.timeout calls).run (args.start os) = .ok () s) :
    Disjoint (live s.calls) (configured s.calls) := by
  have hs := tracked_lived win args calls os
  rw [lived, Prog.finalState_of_ok h] at hs
  refine Finset.disjoint_left.mpr fun fd hlive => hs.not_mem_of_closed ?_ hlive
  obtain ⟨_, s₁, -, hrest⟩ := Prog.run_bind_eq_ok.mp h
  obtain ⟨_, s₂, -, hdestruct⟩ := Prog.run_bind_eq_ok.mp hrest
  exact SerialImpl.isOpen_of_run_destruct win hdestruct

/-- A port that is opened twice is closed twice. -/
theorem life_closes_granting :
    let s := lived .granting .com3 [.setBaudrate 115200, .close, .openPort] []
    Disjoint (live s.calls) (configured s.calls) :=
  life_closes (Prog.run_of_returns (by decide +kernel))

end Serial

end DoorAcs
