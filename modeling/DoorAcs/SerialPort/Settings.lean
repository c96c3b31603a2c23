import DoorAcs.SerialPort.Step

/-!
# The settings of a serial object

Windows keeps for each port what the last accepted call has set. A function that sets one of the
settings stores it before it configures the port, so when Windows refuses, the members and the port
differ until a later configuration succeeds.

* `Serial.settings_inForce`: behind a configuration that succeeded, what is in force on the port of
  a serial object is what its members say.
-/

namespace DoorAcs

open Cpp

variable {ω : Type}

/-! ## What is in force -/

/-- The `DCB` that the call puts in force on the port. -/
def ApiCall.dcb? (fd : Handle) : ApiCall → Option DCB
  | .setCommState fd' dcb true => if fd' = fd then some dcb else none
  | _ => none

/-- The timeouts that the call puts in force on the port. -/
def ApiCall.timeouts? (fd : Handle) : ApiCall → Option CommTimeouts
  | .setCommTimeouts fd' timeouts true => if fd' = fd then some timeouts else none
  | _ => none

/-- Whether the call, if it is one that configures a port, completes the configuration. -/
def ApiCall.completes? : ApiCall → Option Bool
  | .getCommState _ _ => some false
  | .setCommState _ _ _ => some false
  | .setCommTimeouts _ _ ok => some ok
  | _ => none

/-- The `DCB` in force on a port. -/
def dcbInForce (fd : Handle) (calls : List ApiCall) : Option DCB :=
  (calls.filterMap (ApiCall.dcb? fd)).getLast?

/-- The timeouts in force on a port. -/
def timeoutsInForce (fd : Handle) (calls : List ApiCall) : Option CommTimeouts :=
  (calls.filterMap (ApiCall.timeouts? fd)).getLast?

/-- Whether the last configuration was completed. -/
def completed (calls : List ApiCall) : Bool :=
  (calls.filterMap ApiCall.completes?).getLast?.getD false

/-- The settings are in force on the port. -/
def Settings.InForce (settings : Settings) (fd : Handle) (calls : List ApiCall) : Prop :=
  (∃ old dcb, SerialImpl.setupDCB settings old = .ok dcb ∧ dcbInForce fd calls = some dcb) ∧
    timeoutsInForce fd calls = some (SerialImpl.setupTimeouts settings.timeout)

/-- Calls that configure nothing leave what is in force. -/
theorem filterMap_append_of_forall {α β : Type} {f : α → Option β} {xs ys : List α}
    (h : ∀ y ∈ ys, f y = none) : (xs ++ ys).filterMap f = xs.filterMap f := by
  rw [List.filterMap_append, List.filterMap_eq_nil_iff.mpr h, List.append_nil]

namespace SerialImpl

/-- An open object whose last configuration was completed has its settings in force. -/
def Truthful (s : SerialImpl ω) : Prop :=
  ∀ fd, s.isOpen = true → s.fd = some fd → completed s.calls = true → s.settings.InForce fd s.calls

end SerialImpl

namespace Configures

variable {settings : Settings} {fd : Handle} {calls older : List ApiCall}

/-- A configuration that succeeds puts the settings in force. -/
theorem inForce (h : Configures settings fd calls true) :
    settings.InForce fd (older ++ calls) := by
  cases h with
  | @done old dcb hdcb =>
    refine ⟨⟨old, dcb, hdcb, ?_⟩, ?_⟩
    · simp [dcbInForce, ApiCall.dcb?, List.findSome?_cons]
    · simp [timeoutsInForce, ApiCall.timeouts?]

/-- A configuration that fails is not completed. -/
theorem not_completed (h : Configures settings fd calls false) :
    completed (older ++ calls) = false := by
  cases h <;> simp [completed, ApiCall.completes?, List.filterMap_cons]

end Configures

/-- Behind calls that configure nothing, what was in force still is. -/
theorem Settings.InForce.append {settings : Settings} {fd : Handle} {calls more : List ApiCall}
    (h : settings.InForce fd calls) (hmore : ∀ call ∈ more, call.completes? = none) :
    settings.InForce fd (calls ++ more) := by
  have hdcb : ∀ call ∈ more, call.dcb? fd = none := fun call hcall => by
    have hnone := hmore call hcall
    cases call <;> first | rfl | cases hnone
  have htimeouts : ∀ call ∈ more, call.timeouts? fd = none := fun call hcall => by
    have hnone := hmore call hcall
    cases call <;> first | rfl | cases hnone
  rwa [InForce, dcbInForce, timeoutsInForce, filterMap_append_of_forall hdcb,
    filterMap_append_of_forall htimeouts]

/-- Calls that configure nothing leave the last configuration. -/
theorem completed_append {calls more : List ApiCall}
    (hmore : ∀ call ∈ more, call.completes? = none) :
    completed (calls ++ more) = completed calls := by
  rw [completed, filterMap_append_of_forall hmore]
  rfl

namespace SerialImpl

variable {s : SerialImpl ω}

/-- Calls that configure nothing. -/
theorem Truthful.behind {os : ω} {calls : List ApiCall} (hs : s.Truthful)
    (hcalls : ∀ call ∈ calls, call.completes? = none) : Truthful (s.behind os calls) := by
  intro fd hopen hfd hcompleted
  rw [SerialImpl.behind, completed_append hcalls] at hcompleted
  exact (hs fd hopen hfd hcompleted).append hcalls

/-- Every step keeps the settings of an open port truthful. -/
theorem keptBySteps_truthful : KeptBySteps (Truthful : SerialImpl ω → Prop) := by
  have hone {call : ApiCall} (h : call.completes? = none) :
      ∀ call' ∈ [call], call'.completes? = none := by
    simpa using h
  intro s s' hstep hs
  cases hstep with
  | setPort port => exact hs
  | store settings hclosed =>
    intro fd hopen hfd
    cases (hclosed hopen).symm.trans hfd
  | notCreated name os hclosed => exact fun fd hopen => absurd hopen (by simp [behind, hclosed])
  | notOpened hclosed hcalls => exact fun fd hopen => absurd hopen (by simp [behind, hclosed])
  | @opened name os calls hclosed hcalls =>
    intro fd _ hfd _
    cases hfd
    show s.settings.InForce s.calls.length (s.calls ++ .createFile name _ :: calls)
    rw [List.append_cons]
    exact hcalls.inForce
  | notClosed hopen hfd => exact hs.behind (hone rfl)
  | closed hopen hfd => exact fun fd hopen => absurd hopen Bool.false_ne_true
  | forgotten hopen hfd => exact fun fd hopen => absurd hopen Bool.false_ne_true
  | @reconfigured fd settings os calls ok hopen hfd hcalls =>
    intro fd' _ hfd' hcompleted
    cases hfd.symm.trans hfd'
    cases ok with
    | true => exact hcalls.inForce
    | false => cases hcalls.not_completed.symm.trans hcompleted
  | used call os hopen => exact hs.behind (hone rfl)
  | mutex os hcall =>
    refine hs.behind (hone ?_)
    cases hcall <;> rfl

end SerialImpl

namespace Serial

variable {win : WinApi ω} {args : Arguments} {calls : List Call} {os : ω}

/-- Whatever an object was used for: if its port is open and the last configuration was completed,
then the settings in force are those its members say. -/
theorem settings_inForce {s : SerialImpl ω} {fd : Handle}
    (h : (construct win args.timeout >>= fun _ => performAll win calls).finalState
      (args.start os) = s)
    (hopen : s.isOpen = true) (hfd : s.fd = some fd) (hcompleted : completed s.calls = true) :
    s.settings.InForce fd s.calls := by
  have huse : Prog.Preserves SerialImpl.Truthful
      (construct win args.timeout >>= fun _ => performAll win calls) :=
    Prog.preserves_bind (preserves_construct SerialImpl.keptBySteps_truthful _) fun _ =>
      preserves_performAll SerialImpl.keptBySteps_truthful calls
  subst h
  exact huse _ (fun _ h => absurd h Bool.false_ne_true) fd hopen hfd hcompleted

/-- A baud rate that was changed is in force. -/
theorem settings_inForce_granting :
    let s := (construct .granting Arguments.com3.timeout >>= fun _ =>
      performAll .granting [.setBaudrate 115200, .read 16]).finalState (Arguments.com3.start [])
    s.settings.InForce 0 s.calls :=
  settings_inForce rfl (by decide +kernel) (by decide +kernel) (by decide +kernel)

end Serial

end DoorAcs
