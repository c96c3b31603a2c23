import DoorAcs.AccessControlSystem.Poll
import DoorAcs.Cpp.Simulation
import DoorAcs.Reader.Transcript
import DoorAcs.SerialPort.Script

/-!
# The system as a transition system

A run of `MainLoop` on the level of conversations. `Polls` is what one poll does there: it has a
conversation, or it breaks off and is reported. `loopFollows_poll` says that the loop does exactly
that, whatever the serial port. From it:

* `main_transcript`: everything that a run of the program prints and leaves, poll by poll.
* `main_endless_iff`: when the program goes on for good.
* `main_opensDoor`: the credentials that open the door.
-/

namespace DoorAcs

open Cpp

variable {π : Type}

/-! ## Polls -/

/-- What a poll depends on and changes besides the messages: the port, and the members that a report
shows. -/
structure PollState (π : Type) where
  serialPort : π
  members : Diagnostics

/-- The members before the first poll. -/
def Diagnostics.none : Diagnostics :=
  { dataString := [], writtenBytes := 0, responseString := [] }

/-- What comes of a poll that ends. -/
inductive PollResult where
  /-- A conversation was had. -/
  | held (conversation : Conversation)
  /-- An exception was thrown, and reported with the members and its text. -/
  | reported (members : Diagnostics) (what : String)
  deriving DecidableEq

namespace PollResult

/-- The messages of a poll. -/
def lines (ids : Finset Str) : PollResult → List ConsoleLine
  | held conversation =>
    conversation.messages ++ (AccessControlSystem.verdictsOn ids conversation.id ++
      if conversation.id = [] then [] else [.blank])
  | reported members what =>
    [.searching, .exceptionReport members.dataString members.writtenBytes members.responseString
      what, .blank]

/-- The conversation, if there was one. -/
def conversation? : PollResult → Option Conversation
  | held conversation => some conversation
  | reported .. => none

/-- The poll was about a card with one of the accepted ids. -/
def Grants (ids : Finset Str) : PollResult → Prop
  | held conversation => conversation.id ≠ [] ∧ conversation.id ∈ ids
  | reported .. => False

instance (ids : Finset Str) : (result : PollResult) → Decidable (result.Grants ids)
  | held _ => inferInstanceAs (Decidable (_ ∧ _))
  | reported .. => inferInstanceAs (Decidable False)

/-- The bytes decided on are those of the NFC tag or of the HCE service that the source lists. -/
def OpensDoor : PollResult → Prop
  | held conversation =>
    conversation.credential = [0x69, 0xB9, 0x01, 0x52] ∨ conversation.credential = [0xA0, 0x01]
  | reported .. => False

instance : (result : PollResult) → Decidable result.OpensDoor
  | held _ => inferInstanceAs (Decidable (_ ∨ _))
  | reported .. => inferInstanceAs (Decidable False)

/-- A poll grants access at most once. -/
theorem count_lines (ids : Finset Str) (result : PollResult) :
    (result.lines ids).count .accessGranted = if result.Grants ids then 1 else 0 := by
  cases result with
  | reported members what => rfl
  | held conversation =>
    have hmessages : conversation.messages.count .accessGranted = 0 := by
      rcases conversation with _ | ⟨uid, _ | _ | reply⟩ <;> rfl
    change _ = if conversation.id ≠ [] ∧ conversation.id ∈ ids then 1 else 0
    rw [lines, List.count_append, hmessages, AccessControlSystem.verdictsOn]
    split_ifs <;> simp_all

theorem count_flatMap_lines (ids : Finset Str) (results : List PollResult) :
    (results.flatMap (lines ids)).count .accessGranted =
      results.countP fun result => result.Grants ids := by
  induction results with
  | nil => rfl
  | cons result results ih =>
    rw [List.flatMap_cons, List.count_append, count_lines, ih, List.countP_cons, Nat.add_comm]
    simp

/-- The conversations decide the verdicts. -/
theorem verdictsIn_flatMap_lines (ids : Finset Str) (results : List PollResult) :
    ConsoleLine.verdictsIn (results.flatMap (lines ids)) =
      (results.map conversation?).flatMap fun conversation? =>
        conversation?.elim [] fun conversation =>
          AccessControlSystem.verdictsOn ids conversation.id := by
  rw [ConsoleLine.verdictsIn, List.filter_flatMap, List.flatMap_map]
  congr 1
  ext1 result
  cases result with
  | reported members what => rfl
  | held conversation =>
    have hmessages : ConsoleLine.verdictsIn conversation.messages = [] := by
      rcases conversation with _ | ⟨uid, _ | _ | reply⟩ <;> rfl
    have hverdicts : ConsoleLine.verdictsIn
        (AccessControlSystem.verdictsOn ids conversation.id ++
          if conversation.id = [] then [] else [.blank]) =
        AccessControlSystem.verdictsOn ids conversation.id := by
      unfold AccessControlSystem.verdictsOn
      split_ifs <;> rfl
    change ConsoleLine.verdictsIn (lines ids (held conversation)) = _
    rw [lines, ConsoleLine.verdictsIn_append, hmessages, hverdicts]
    rfl

end PollResult

variable (port : SerialPort π)

/-- A poll, seen from the port. It ends with a conversation, or with a report of the exception that
it broke off with, unless the flush behind the report throws. The members are in any case those
behind its exchanges. -/
inductive Polls : PollState π → PollResult → PollState π → Prop where
  | held {q d conversation q'} (hconverse : port.converse.run q = .ok conversation q') :
      Polls ⟨q, d⟩ (.held conversation) ⟨q', d.behindAll port (port.exchanges q)⟩
  | reported {q d q₁ q₂ e} (hconverse : port.converse.run q = .error () q₁)
      (hfails : port.failure? q = some (.exception e)) (hflush : port.flush.run q₁ = .ok () q₂) :
      Polls ⟨q, d⟩ (.reported (d.behindAll port (port.exchanges q)) e.what)
        ⟨q₂, d.behindAll port (port.exchanges q)⟩

/-- The poll that finds the port in state `q` does not end: a reply overruns, or there is an
exception and the flush behind the report throws another. -/
inductive Derails (q : π) : Prop where
  | overruns (hoverruns : port.Overruns q)
  | flush {q₁ e q₂} (hconverse : port.converse.run q = .error () q₁)
      (hflush : port.flush.run q₁ = .error e q₂)

variable {port}

/-- There is a step unless the poll derails. -/
theorem exists_polls_iff {t : PollState π} :
    (∃ result t', Polls port t result t') ↔ ¬ Derails port t.serialPort := by
  obtain ⟨q, d⟩ := t
  constructor
  · rintro ⟨result, t', hpolls⟩ hderails
    cases hpolls with
    | held hconverse =>
      cases hderails with
      | overruns hoverruns =>
        -- an overrun breaks the poll off
        obtain ⟨frame, q₁, hbroken, -⟩ := hoverruns
        obtain ⟨q', hfailed⟩ := SerialPort.run_converse_of_brokenOff? hbroken
        cases hconverse.symm.trans hfailed
      | flush hfailed => cases hconverse.symm.trans hfailed
    | reported hconverse hfails hflush =>
      cases hderails with
      | overruns hoverruns =>
        cases hfails.symm.trans (SerialPort.failure?_eq_fault_iff.mpr hoverruns)
      | flush hfailed hthrows =>
        cases hconverse.symm.trans hfailed
        cases hflush.symm.trans hthrows
  · intro hderails
    cases hconverse : port.converse.run q with
    | ok conversation q' => exact ⟨_, _, .held hconverse⟩
    | error _ q₁ =>
      obtain ⟨f, hfails⟩ := Reader.exists_failure?_of_run_converse hconverse
      cases f with
      | fault => exact absurd (.overruns (SerialPort.failure?_eq_fault_iff.mp hfails)) hderails
      | exception e =>
        cases hflush : port.flush.run q₁ with
        | ok _ q₂ => exact ⟨_, _, .reported hconverse hfails hflush⟩
        | error e' q₂ => exact absurd (.flush hconverse hflush) hderails

namespace AccessControlSystem

/-- The state of the transition system. -/
def pollState (s : AccessControlSystem π) : PollState π :=
  { serialPort := s.reader.serialPort, members := s.reader.diagnostics }

/-- The system is running and accepts `ids`. -/
def RunsWith (ids : Finset Str) (s : AccessControlSystem π) : Prop :=
  s.isRunning = true ∧ s.accessGrantedIds = ids

theorem runsWith_of_run_poll {ids : Finset Str} {s s' : AccessControlSystem π}
    (h : s.RunsWith ids) (hpoll : (poll port).run s = .ok () s') : s'.RunsWith ids := by
  -- a poll works on the reader alone
  have honReader {α : Type} (m : Prog Exception (Reader π) α) :
      Prog.Preserves (RunsWith ids) (onReader m) :=
    Prog.preserves_onField (J := fun _ => True) (fun _ _ => trivial) (fun _ _ => trivial)
      fun _ _ h _ => h
  have hpreserves : Prog.Preserves (RunsWith ids) (poll port) :=
    preserves_poll (honReader _) (honReader _) fun _ => honReader _
  have hkept := hpreserves s h
  rwa [Prog.finalState_of_ok hpoll] at hkept

/-- A poll that ends is one of the transition system. -/
theorem exists_polls_of_run_poll {s s' : AccessControlSystem π}
    (h : (poll port).run s = .ok () s') :
    ∃ result, Polls port s.pollState result s'.pollState ∧
      s'.reader.cout = s.reader.cout ++ result.lines s.accessGrantedIds := by
  have hmembers := Reader.diagnostics_getID port s.reader
  cases hrun : (Reader.getID port).run s.reader with
  | ok id r' =>
    obtain ⟨conversation, hconverse, rfl, hcout⟩ := Reader.exists_conversation_of_run_getID hrun
    rw [Prog.finalState_of_ok hrun] at hmembers
    cases (run_poll_of_ok hrun).symm.trans h
    refine ⟨.held conversation, ?_, ?_⟩
    · have hstep := Polls.held (d := s.reader.diagnostics) hconverse
      rwa [← hmembers] at hstep
    · rw [hcout, List.append_assoc]
      rfl
  | error f r' =>
    rw [Prog.finalState_of_error hrun] at hmembers
    cases f with
    | fault => cases (run_poll_of_fault hrun).symm.trans h
    | exception e =>
      have hpoll := run_poll_of_exception hrun
      have hcout := Reader.cout_of_run_getID_error hrun
      have hconverse := Reader.refines_getID.of_run_eq_error hrun
      have hfails := Reader.failure?_of_run_getID hrun
      rw [h] at hpoll
      cases hflush : port.flush.run r'.serialPort with
      | error e' q =>
        rw [hflush] at hpoll
        cases hpoll
      | ok _ q =>
        rw [hflush] at hpoll
        cases hpoll
        refine ⟨.reported r'.diagnostics e.what, ?_, ?_⟩
        · have hstep := Polls.reported (d := s.reader.diagnostics) hconverse hfails hflush
          rwa [← hmembers] at hstep
        · rw [reportOn, hflush]
          dsimp only
          rw [hcout, List.append_assoc]
          rfl

/-- Where the transition system has a step, the poll ends, and in the state of that step. -/
theorem exists_run_poll_of_polls {s : AccessControlSystem π} {result : PollResult}
    {t : PollState π} (h : Polls port s.pollState result t) :
    ∃ s', (poll port).run s = .ok () s' ∧ s'.pollState = t := by
  have hmembers := Reader.diagnostics_getID port s.reader
  generalize hstart : s.pollState = t₀ at h
  cases h with
  | @held q d conversation q' hconverse =>
    cases hstart
    obtain ⟨id, r', hrun, rfl, -⟩ := Reader.refines_getID.exists_run hconverse
    rw [Prog.finalState_of_ok hrun] at hmembers
    exact ⟨_, run_poll_of_ok hrun, by rw [← hmembers]; rfl⟩
  | @reported q d q₁ q₂ e hconverse hfails hflush =>
    cases hstart
    obtain ⟨f, r', hrun, rfl⟩ := Reader.refines_getID.exists_error hconverse
    rw [Prog.finalState_of_error hrun] at hmembers
    obtain rfl := Option.some_inj.mp ((Reader.failure?_of_run_getID hrun).symm.trans hfails)
    have hpoll := run_poll_of_exception hrun
    rw [hflush] at hpoll
    exact ⟨_, hpoll, by rw [← hmembers]; rfl⟩

/-- The loop does what `Polls` says, poll by poll. -/
theorem loopFollows_poll (port : SerialPort π) (ids : Finset Str) :
    Prog.LoopFollows (RunsWith ids) isRunning (poll port) pollState (fun s => s.reader.cout)
      (Polls port) (PollResult.lines ids) where
  guard_eq h := h.1
  keeps := runsWith_of_run_poll
  exists_step := by
    rintro s s' ⟨-, rfl⟩ hpoll
    exact exists_polls_of_run_poll hpoll
  exists_round _ hpolls := exists_run_poll_of_polls hpolls

/-! ## The program -/

/-- The system when its loop begins and the port is in state `q`. -/
def ready (q : π) : AccessControlSystem π :=
  { start q with
    isRunning := true
    reader := { Reader.start q with cout := [.serialPortOpened] } }

theorem run_construct_eq_ok_iff {q : π} {s : AccessControlSystem π} :
    (construct port).run (start q) = .ok () s ↔
      ∃ q₁, port.setUp.run q = .ok () q₁ ∧ s = ready q₁ := by
  constructor
  · intro h
    obtain ⟨_, s₁, hreader, h⟩ := Prog.run_bind_eq_ok.mp h
    obtain ⟨r, hconstruct, rfl⟩ := Prog.run_onField_eq_ok.mp hreader
    obtain ⟨q₁, hsetUp, rfl⟩ := Reader.run_construct_eq_ok_iff.mp hconstruct
    cases h
    exact ⟨q₁, hsetUp, rfl⟩
  · rintro ⟨q₁, hsetUp, rfl⟩
    rw [construct, Prog.run_bind_of_ok (run_onReader_of_ok
      (Reader.run_construct_eq_ok_iff.mpr ⟨q₁, hsetUp, rfl⟩))]
    rfl

/-- The program does `n` polls iff the reader device can be set up and the loop does them. -/
theorem run_main_eq_ok_iff {q : π} {n : ℕ} {s : AccessControlSystem π} :
    (main port n).run (start q) = .ok () s ↔
      ∃ q₁, port.setUp.run q = .ok () q₁ ∧ (mainLoop port n).run (ready q₁) = .ok () s := by
  constructor
  · intro h
    obtain ⟨_, s₁, hconstruct, hrun⟩ := Prog.run_bind_eq_ok.mp h
    obtain ⟨q₁, hsetUp, rfl⟩ := run_construct_eq_ok_iff.mp hconstruct
    exact ⟨q₁, hsetUp, hrun⟩
  · rintro ⟨q₁, hsetUp, hrun⟩
    rwa [main, Prog.run_bind_of_ok (run_construct_eq_ok_iff.mpr ⟨q₁, hsetUp, rfl⟩)]

/-- The program does as many polls as the transition system takes steps. -/
theorem exists_run_main_iff (port : SerialPort π) (q : π) (n : ℕ) :
    (∃ s, (main port n).run (start q) = .ok () s) ↔
      ∃ q₁, port.setUp.run q = .ok () q₁ ∧ ∃ results t, results.length = n ∧
        Trace (Polls port) ⟨q₁, .none⟩ results t := by
  simp only [run_main_eq_ok_iff]
  constructor
  · rintro ⟨s, q₁, hsetUp, hrun⟩
    obtain ⟨results, t, hlength, htrace⟩ :=
      ((loopFollows_poll port _).exists_run_iff n ⟨rfl, rfl⟩).mp ⟨s, hrun⟩
    exact ⟨q₁, hsetUp, results, t, hlength, htrace⟩
  · rintro ⟨q₁, hsetUp, results, t, hlength, htrace⟩
    obtain ⟨s, hrun⟩ := ((loopFollows_poll port (start q).accessGrantedIds).exists_run_iff n
      (s := ready q₁) ⟨rfl, rfl⟩).mpr ⟨results, t, hlength, htrace⟩
    exact ⟨s, q₁, hsetUp, hrun⟩

/-- Everything a run of the program prints and leaves: the message that the port is open, and then
poll by poll the messages of what came of it. -/
theorem exists_trace_of_run_main {q : π} {n : ℕ} {s : AccessControlSystem π}
    (h : (main port n).run (start q) = .ok () s) :
    ∃ q₁ results, port.setUp.run q = .ok () q₁ ∧ results.length = n ∧
      Trace (Polls port) ⟨q₁, .none⟩ results s.pollState ∧
      s.reader.cout = .serialPortOpened ::
        results.flatMap (PollResult.lines (start q).accessGrantedIds) := by
  obtain ⟨q₁, hsetUp, hrun⟩ := run_main_eq_ok_iff.mp h
  obtain ⟨-, results, hlength, htrace, hcout⟩ :=
    (loopFollows_poll port (start q).accessGrantedIds).exists_trace (s := ready q₁) ⟨rfl, rfl⟩ hrun
  exact ⟨q₁, results, hsetUp, hlength, htrace, hcout⟩

/-- The program does `n` polls iff the reader device can be set up and the transition system takes
`n` steps from there. Everything it has printed then, and the state it is in, are those of `n` such
steps. -/
theorem main_transcript (port : SerialPort π) (q : π) (n : ℕ) :
    ((∃ s, (main port n).run (start q) = .ok () s) ↔
      ∃ q₁, port.setUp.run q = .ok () q₁ ∧ ∃ results t, results.length = n ∧
        Trace (Polls port) ⟨q₁, .none⟩ results t) ∧
    ∀ s, (main port n).run (start q) = .ok () s →
      ∃ q₁ results, port.setUp.run q = .ok () q₁ ∧ results.length = n ∧
        Trace (Polls port) ⟨q₁, .none⟩ results s.pollState ∧
        s.reader.cout = .serialPortOpened ::
          results.flatMap (PollResult.lines (start q).accessGrantedIds) :=
  ⟨exists_run_main_iff port q n, fun _ => exists_trace_of_run_main⟩

/-- The program polls for good iff the reader device can be set up and the transition system does
not get stuck behind that. -/
theorem forall_exists_run_main_iff {q : π} :
    (∀ n, ∃ s, (main port n).run (start q) = .ok () s) ↔
      ∃ q₁, port.setUp.run q = .ok () q₁ ∧ ∀ results t,
        Trace (Polls port) ⟨q₁, .none⟩ results t → ∃ result t', Polls port t result t' := by
  simp only [run_main_eq_ok_iff]
  have hendless (q₁ : π) := (loopFollows_poll port (start q).accessGrantedIds).endless_iff
    (s := ready q₁) ⟨rfl, rfl⟩
  constructor
  · intro hruns
    obtain ⟨_, q₁, hsetUp, -⟩ := hruns 0
    refine ⟨q₁, hsetUp, (hendless q₁).mp fun n => ?_⟩
    -- the device is set up once, so all runs go on from there
    obtain ⟨s, q₂, hsetUp', hrun⟩ := hruns n
    cases hsetUp.symm.trans hsetUp'
    exact ⟨s, hrun⟩
  · rintro ⟨q₁, hsetUp, hlive⟩ n
    obtain ⟨s, hrun⟩ := (hendless q₁).mpr hlive n
    exact ⟨s, q₁, hsetUp, hrun⟩

/-- The program polls for good iff the reader device can be set up and no poll derails. -/
theorem main_endless_iff (port : SerialPort π) (q : π) :
    (∀ n, ∃ s, (main port n).run (start q) = .ok () s) ↔
      ∃ q₁, port.setUp.run q = .ok () q₁ ∧
        ∀ results t, Trace (Polls port) ⟨q₁, .none⟩ results t → ¬ Derails port t.serialPort := by
  rw [forall_exists_run_main_iff]
  simp only [exists_polls_iff]

/-! ## Which credentials open the door -/

/-- The accepted ids are those of two credentials. -/
theorem grants_start_iff (q : π) {result : PollResult} :
    result.Grants (start q).accessGrantedIds ↔ result.OpensDoor := by
  cases result with
  | reported members what => exact Iff.rfl
  | held conversation =>
    have hids : (start q).accessGrantedIds =
        {Hex.encode [0x69, 0xB9, 0x01, 0x52], Hex.encode [0xA0, 0x01]} := rfl
    rw [PollResult.Grants, PollResult.OpensDoor, hids, Finset.mem_insert, Finset.mem_singleton,
      Conversation.id, Hex.encode_injective.eq_iff, Hex.encode_injective.eq_iff]
    constructor
    · rintro ⟨-, hmem⟩
      exact hmem
    · intro h
      refine ⟨?_, h⟩
      rw [Ne, Hex.encode_eq_nil_iff]
      rintro hnil
      rw [hnil] at h
      rcases h with h | h <;> cases h

/-- In every run of the program the door opens once for each poll about one of two credentials, and
not otherwise. -/
theorem main_opensDoor (port : SerialPort π) (q : π) (n : ℕ) :
    ∀ s, (main port n).run (start q) = .ok () s →
      ∃ q₁ results, port.setUp.run q = .ok () q₁ ∧ results.length = n ∧
        Trace (Polls port) ⟨q₁, .none⟩ results s.pollState ∧
        s.reader.cout.count .accessGranted =
          results.countP fun result => result.OpensDoor := by
  intro s hrun
  obtain ⟨q₁, results, hsetUp, hlength, htrace, hcout⟩ := exists_trace_of_run_main hrun
  refine ⟨q₁, results, hsetUp, hlength, htrace, ?_⟩
  rw [hcout, List.count_cons_of_ne (by decide), PollResult.count_flatMap_lines]
  simp only [grants_start_iff]

/-- A script on which the card of the first credential is held to the reader. It is no phone, so it
does not take SELECT FILE. -/
def cardScript : Script :=
  .replying (Stream'.const 7) (fun i =>
    ["00\r".toList, "000180200469B90152\r".toList, "000000\r".toList].getD i []) []

theorem main_opensDoor_card :
    let s := (main Script.port 1).finalState (start cardScript)
    ∃ q₁ results, Script.port.setUp.run cardScript = .ok () q₁ ∧ results.length = 1 ∧
      Trace (Polls Script.port) ⟨q₁, .none⟩ results s.pollState ∧
      s.reader.cout.count .accessGranted =
        results.countP fun result => result.OpensDoor :=
  main_opensDoor Script.port cardScript 1 ((main Script.port 1).finalState (start cardScript))
    (Prog.run_of_returns (by decide +kernel))

end AccessControlSystem

end DoorAcs
