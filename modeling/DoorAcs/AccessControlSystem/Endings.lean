import DoorAcs.AccessControlSystem.Transcript

/-!
# How the program ends

Nothing stops the loop, so the program ends only with a failure. Once there is a serial port, there
are two places for it:

* The constructor of the reader sets the reader device up. `SerialPort.SetUpFails` lists what can go
  wrong there, in the order of the source, with the exception that is thrown and the messages there
  are by then. Nothing catches it.
* `PollEnds`: a poll reads outside a reply, or the flush behind a report throws.

`AccessControlSystem.main_ends` says that the program ends in these ways and in no other, and what
it has printed by then.
-/

namespace DoorAcs

open Cpp

variable {π : Type}

/-! ## Refusals -/

namespace SetTagTypesPacket

/-- What `ParseResponse` throws about a reply, if it does. -/
def refusal? (response : List BYTE) : Option String :=
  (Packet.refusal? response).orElse fun _ =>
    if response.length ≠ 1 then some "SetTagTypesPacket invalid response" else none

/-- A single zero byte is the only response that is not refused. -/
theorem refusal?_eq_none_iff {response : List BYTE} :
    refusal? response = none ↔ response = [0] := by
  cases response with
  | nil => simp [refusal?, Packet.refusal?]
  | cons error rest =>
    rw [refusal?, Packet.refusal?]
    split_ifs with herror hrest <;> simp_all

/-- A response that is refused makes the parser throw that text. -/
theorem exists_run_parseResponse_of_refusal? (p : SetTagTypesPacket) {response : List BYTE}
    {what : String} (h : refusal? response = some what) :
    ∃ p', (parseResponse response).run p = .error (.exception (.runtimeError what)) p' := by
  cases response with
  | nil =>
    cases h
    exact ⟨_, rfl⟩
  | cons error rest =>
    by_cases herror : error = 0
    · -- the error byte says that all is well, but more follows it
      subst herror
      rw [refusal?, Packet.refusal?_zero_cons, Option.orElse_none] at h
      split_ifs at h with hlength
      cases h
      refine ⟨{ p with packetResponseErrorType := .errNone }, ?_⟩
      rw [parseResponse, Prog.run_bind_of_ok (Prog.run_onField_eq_ok.mpr
        ⟨_, Packet.run_parseResponse_zero rest p.toPacket, rfl⟩), Prog.run_ite, if_pos hlength,
        Prog.run_raise]
    · rw [refusal?, Packet.refusal?_cons_of_ne herror, Option.orElse_some] at h
      cases h
      refine ⟨{ p with packetResponseErrorType := ⟨error⟩ }, ?_⟩
      rw [parseResponse, Prog.run_bind_of_error]
      rw [Prog.run_onField, Packet.run_parseResponse_error herror]

end SetTagTypesPacket

/-! ## What can go wrong at the start -/

namespace SerialPort

/-- The port could be initialised, and the device answered the choice of tag types with `text`. -/
def Answers (port : SerialPort π) (q : π) (text : Str) (q' : π) : Prop :=
  ∃ q₁ n q₂, port.initialise.run q = .ok () q₁ ∧
    (port.write setTagTypesFrame).run q₁ = .ok n q₂ ∧
    (port.read maxResponseNumberOfBytes).run q₂ = .ok text q'

/-- What the constructor of the reader throws, what it has printed by then, and where it leaves the
port. -/
inductive SetUpFails (port : SerialPort π) (q : π) : Exception → List ConsoleLine → π → Prop where
  | timeouts {e q₀} (htimeouts : port.setTimeouts.run q = .error e q₀) : SetUpFails port q e [] q₀
  | notOpen {q₀} (htimeouts : port.setTimeouts.run q = .ok () q₀)
      (hopen : ¬ port.isOpen q₀ = true) :
      SetUpFails port q (.runtimeError "Serial port failed to open.") [] q₀
  | flush {q₀ e q₁} (htimeouts : port.setTimeouts.run q = .ok () q₀)
      (hopen : port.isOpen q₀ = true) (hflush : port.flush.run q₀ = .error e q₁) :
      SetUpFails port q e [.serialPortOpened] q₁
  | write {q₁ e q₂} (hinitialise : port.initialise.run q = .ok () q₁)
      (hwrite : (port.write setTagTypesFrame).run q₁ = .error e q₂) :
      SetUpFails port q e [.serialPortOpened] q₂
  | read {q₁ n q₂ e q₃} (hinitialise : port.initialise.run q = .ok () q₁)
      (hwrite : (port.write setTagTypesFrame).run q₁ = .ok n q₂)
      (hread : (port.read maxResponseNumberOfBytes).run q₂ = .error e q₃) :
      SetUpFails port q e [.serialPortOpened] q₃
  | notHex {text q'} (hanswers : port.Answers q text q') (hdecode : Hex.decode text = none) :
      SetUpFails port q invalidAsciiChar [.serialPortOpened] q'
  | refused {text q' bytes what} (hanswers : port.Answers q text q')
      (hdecode : Hex.decode text = some bytes)
      (hrefused : SetTagTypesPacket.refusal? bytes = some what) :
      SetUpFails port q (.runtimeError what) [.serialPortOpened] q'

variable (port : SerialPort π) (q : π)

/-- The port is initialised, or something goes wrong there. -/
theorem exists_initialise_or_setUpFails :
    (∃ q', port.initialise.run q = .ok () q') ∨
      ∃ e messages q', port.SetUpFails q e messages q' := by
  cases htimeouts : port.setTimeouts.run q with
  | error e q₀ => exact .inr ⟨e, [], q₀, .timeouts htimeouts⟩
  | ok _ q₀ =>
    by_cases hopen : port.isOpen q₀ = true
    · cases hflush : port.flush.run q₀ with
      | error e q₁ => exact .inr ⟨e, _, q₁, .flush htimeouts hopen hflush⟩
      | ok _ q₁ => exact .inl ⟨q₁, run_initialise_eq_ok_iff.mpr ⟨q₀, htimeouts, hopen, hflush⟩⟩
    · exact .inr ⟨_, [], q₀, .notOpen htimeouts hopen⟩

/-- The device is set up, or something goes wrong. -/
theorem exists_setUp_or_setUpFails :
    (∃ q', port.setUp.run q = .ok () q') ∨ ∃ e messages q', port.SetUpFails q e messages q' := by
  rcases port.exists_initialise_or_setUpFails q with ⟨q₁, hinitialise⟩ | hfails
  · cases hwrite : (port.write setTagTypesFrame).run q₁ with
    | error e q₂ => exact .inr ⟨e, _, q₂, .write hinitialise hwrite⟩
    | ok n q₂ =>
      cases hread : (port.read maxResponseNumberOfBytes).run q₂ with
      | error e q₃ => exact .inr ⟨e, _, q₃, .read hinitialise hwrite hread⟩
      | ok text q₃ =>
        have hanswers : port.Answers q text q₃ := ⟨q₁, n, q₂, hinitialise, hwrite, hread⟩
        cases hdecode : Hex.decode text with
        | none => exact .inr ⟨_, _, q₃, .notHex hanswers hdecode⟩
        | some bytes =>
          cases hrefused : SetTagTypesPacket.refusal? bytes with
          | some what => exact .inr ⟨_, _, q₃, .refused hanswers hdecode hrefused⟩
          | none =>
            obtain rfl := SetTagTypesPacket.refusal?_eq_none_iff.mp hrefused
            exact .inl ⟨q₃, run_setUp_eq_ok_iff.mpr ⟨q₁, hinitialise,
              run_ask_eq_ok_iff.mpr ⟨n, q₂, text, hwrite, hread, hdecode⟩⟩⟩
  · exact .inr hfails

end SerialPort

/-! ## The constructor -/

variable {port : SerialPort π}

namespace Reader

/-- The members when the constructor has thrown, printed `messages` and left the port in state `q'`.
-/
def notSetUp (r : Reader π) (messages : List ConsoleLine) (q' : π) : Reader π :=
  { r with serialPort := q', cout := r.cout ++ messages }

/-- A text that does not decode makes the decoder throw. -/
theorem run_lift_of_decode_eq_none {text : Str} (h : Hex.decode text = none) (r : Reader π) :
    (Prog.lift (hexStringToBytes text) : Prog Exception (Reader π) _).run r =
      .error (.exception invalidAsciiChar) r := by
  rw [hexStringToBytes_eq, h]
  rfl

/-- Behind an answer of the device, the constructor decodes and parses it. -/
theorem run_construct_of_answers {r : Reader π} {text : Str} {q' : π}
    (h : port.Answers r.serialPort text q') :
    (construct port).run r =
      (do
        let bytes ← .lift (hexStringToBytes text)
        let _ ← .onLocal (SetTagTypesPacket.new .noTag .allTags)
          (SetTagTypesPacket.parseResponse bytes) : Prog Exception (Reader π) Unit).run
        (notSetUp r [.serialPortOpened] q') := by
  obtain ⟨q₁, n, q₂, hinitialise, hwrite, hread⟩ := h
  rw [notSetUp, construct, Prog.run_bind_of_ok
    (run_initialiseSerialPort_eq_ok_iff.mpr ⟨q₁, hinitialise, rfl⟩)]
  dsimp only
  rw [Prog.run_bind_of_ok (run_onSerialPort_eq_ok_iff.mpr ⟨q₂, hwrite, rfl⟩),
    Prog.run_bind_of_ok (run_onSerialPort_eq_ok_iff.mpr ⟨q', hread, rfl⟩)]

/-- Whatever goes wrong, the constructor throws what the list says. -/
theorem run_construct_of_setUpFails {r : Reader π} {e : Exception} {messages : List ConsoleLine}
    {q' : π} (h : port.SetUpFails r.serialPort e messages q') :
    (construct port).run r = .error (.exception e) (notSetUp r messages q') := by
  cases h with
  | timeouts htimeouts =>
    rw [construct, Prog.run_bind_of_error]
    rw [run_initialiseSerialPort, htimeouts, notSetUp, List.append_nil]
  | notOpen htimeouts hopen =>
    rw [construct, Prog.run_bind_of_error]
    rw [run_initialiseSerialPort, htimeouts, notSetUp, List.append_nil]
    exact if_neg hopen
  | flush htimeouts hopen hflush =>
    rw [construct, Prog.run_bind_of_error]
    rw [run_initialiseSerialPort, htimeouts]
    dsimp only
    rw [if_pos hopen, flushSerialPort, run_onSerialPort, notSetUp]
    dsimp only
    rw [hflush]
  | write hinitialise hwrite =>
    rw [construct, Prog.run_bind_of_ok
      (run_initialiseSerialPort_eq_ok_iff.mpr ⟨_, hinitialise, rfl⟩)]
    dsimp only
    rw [Prog.run_bind_of_error]
    rw [run_onSerialPort]
    dsimp only
    rw [setTagTypesFrame] at hwrite
    rw [hwrite, notSetUp]
  | read hinitialise hwrite hread =>
    rw [construct, Prog.run_bind_of_ok
      (run_initialiseSerialPort_eq_ok_iff.mpr ⟨_, hinitialise, rfl⟩)]
    dsimp only
    rw [Prog.run_bind_of_ok (run_onSerialPort_eq_ok_iff.mpr ⟨_, hwrite, rfl⟩),
      Prog.run_bind_of_error]
    rw [run_onSerialPort]
    dsimp only
    rw [hread, notSetUp]
  | notHex hanswers hdecode =>
    rw [run_construct_of_answers hanswers,
      Prog.run_bind_of_error (run_lift_of_decode_eq_none hdecode _)]
  | refused hanswers hdecode hrefused =>
    obtain ⟨_, hparse⟩ := SetTagTypesPacket.exists_run_parseResponse_of_refusal?
      (.new .noTag .allTags) hrefused
    rw [run_construct_of_answers hanswers,
      Prog.run_bind_of_ok (run_lift_hexStringToBytes_eq_ok_iff.mpr ⟨hdecode, rfl⟩),
      Prog.run_bind_of_error (Prog.run_onLocal_of_error hparse)]

/-- How the constructor fails: in no other way. -/
theorem run_construct_eq_error_iff {r r' : Reader π} {f : Failure Exception} :
    (construct port).run r = .error f r' ↔
      ∃ e messages q', port.SetUpFails r.serialPort e messages q' ∧ f = .exception e ∧
        r' = notSetUp r messages q' := by
  constructor
  · intro h
    rcases port.exists_setUp_or_setUpFails r.serialPort with
      ⟨q', hsetUp⟩ | ⟨e, messages, q', hfails⟩
    · rw [run_construct_eq_ok_iff.mpr ⟨q', hsetUp, rfl⟩] at h
      cases h
    · rw [run_construct_of_setUpFails hfails] at h
      cases h
      exact ⟨e, messages, q', hfails, rfl, rfl⟩
  · rintro ⟨e, messages, q', hfails, rfl, rfl⟩
    exact run_construct_of_setUpFails hfails

end Reader

namespace AccessControlSystem

/-- The constructor fails iff the reader device cannot be set up, and as that fails. -/
theorem run_construct_eq_error_iff {q : π} {s : AccessControlSystem π} {f : Failure Exception} :
    (construct port).run (start q) = .error f s ↔
      ∃ e messages q', port.SetUpFails q e messages q' ∧ f = .exception e ∧
        s = { start q with reader := Reader.notSetUp (.start q) messages q' } := by
  constructor
  · intro h
    rcases Prog.run_bind_eq_error.mp h with hreader | ⟨_, s₁, -, hmodify⟩
    · rw [onReader, Prog.run_onField] at hreader
      cases hconstruct : (Reader.construct port).run (start q).reader with
      | ok _ r => simp [hconstruct] at hreader
      | error f' r =>
        obtain ⟨e, messages, q', hfails, rfl, rfl⟩ :=
          Reader.run_construct_eq_error_iff.mp hconstruct
        rw [hconstruct] at hreader
        cases hreader
        exact ⟨e, messages, q', hfails, rfl, rfl⟩
    · cases hmodify
  · rintro ⟨e, messages, q', hfails, rfl, rfl⟩
    rw [construct, Prog.run_bind_of_error]
    rw [onReader, Prog.run_onField,
      Reader.run_construct_of_setUpFails (r := (start q).reader) hfails]
    rfl

end AccessControlSystem

/-! ## The last poll -/

/-- The report of an exception with the text `what`. -/
def Diagnostics.report (d : Diagnostics) (what : String) : ConsoleLine :=
  .exceptionReport d.dataString d.writtenBytes d.responseString what

/-- How a poll ends the program, with the failure and the messages since the poll began. The report
of the exception that the poll broke off with comes before the flush. -/
inductive PollEnds (port : SerialPort π) :
    PollState π → Failure Exception → List ConsoleLine → PollState π → Prop where
  | overruns {q d q'} (hconverse : port.converse.run q = .error () q')
      (hoverruns : port.Overruns q) :
      PollEnds port ⟨q, d⟩ .fault [.searching] ⟨q', d.behindAll port (port.exchanges q)⟩
  | flush {q d q₁ e e' q₂} (hconverse : port.converse.run q = .error () q₁)
      (hfails : port.failure? q = some (.exception e)) (hflush : port.flush.run q₁ = .error e' q₂) :
      PollEnds port ⟨q, d⟩ (.exception e')
        [.searching, (d.behindAll port (port.exchanges q)).report e.what]
        ⟨q₂, d.behindAll port (port.exchanges q)⟩

/-- A poll ends the program exactly if it derails. -/
theorem exists_pollEnds_iff {t : PollState π} :
    (∃ f last t', PollEnds port t f last t') ↔ Derails port t.serialPort := by
  obtain ⟨q, d⟩ := t
  constructor
  · rintro ⟨f, last, t', hends⟩
    cases hends with
    | overruns _ hoverruns => exact .overruns hoverruns
    | flush hconverse _ hflush => exact .flush hconverse hflush
  · intro hderails
    cases hderails with
    | overruns hoverruns =>
      obtain ⟨frame, q₁, hbroken, -⟩ := id hoverruns
      obtain ⟨q', hconverse⟩ := SerialPort.run_converse_of_brokenOff? hbroken
      exact ⟨_, _, _, .overruns hconverse hoverruns⟩
    | flush hconverse hflush =>
      -- there is no report if a reply overran, but the program ends there as well
      obtain ⟨f, hfails⟩ := Reader.exists_failure?_of_run_converse hconverse
      cases f with
      | fault =>
        exact ⟨_, _, _, .overruns hconverse (SerialPort.failure?_eq_fault_iff.mp hfails)⟩
      | exception e => exact ⟨_, _, _, .flush hconverse hfails hflush⟩

namespace AccessControlSystem

/-- A poll that fails ends the program in one of the ways described. -/
theorem exists_pollEnds_of_run_poll {s s' : AccessControlSystem π} {f : Failure Exception}
    (h : (poll port).run s = .error f s') :
    ∃ last, PollEnds port s.pollState f last s'.pollState ∧
      s'.reader.cout = s.reader.cout ++ last := by
  have hmembers := Reader.diagnostics_getID port s.reader
  cases hrun : (Reader.getID port).run s.reader with
  | ok id r' => cases (run_poll_of_ok hrun).symm.trans h
  | error f' r' =>
    rw [Prog.finalState_of_error hrun] at hmembers
    have hcout := Reader.cout_of_run_getID_error hrun
    have hconverse := Reader.refines_getID.of_run_eq_error hrun
    have hfault := Reader.eq_fault_iff_of_run_getID hrun
    cases f' with
    | fault =>
      cases (run_poll_of_fault hrun).symm.trans h
      refine ⟨_, ?_, hcout⟩
      have hends : PollEnds port ⟨s.reader.serialPort, s.reader.diagnostics⟩ .fault _ _ :=
        .overruns hconverse (hfault.mp rfl)
      rwa [← hmembers] at hends
    | exception e =>
      have hpoll := run_poll_of_exception hrun
      have hfails := Reader.failure?_of_run_getID hrun
      rw [h] at hpoll
      cases hflush : port.flush.run r'.serialPort with
      | ok _ q =>
        rw [hflush] at hpoll
        cases hpoll
      | error e' q =>
        rw [hflush] at hpoll
        cases hpoll
        refine ⟨[.searching, r'.diagnostics.report e.what], ?_, ?_⟩
        · have hends := PollEnds.flush (d := s.reader.diagnostics) hconverse hfails hflush
          rwa [← hmembers] at hends
        · rw [reportOn, hflush]
          dsimp only
          rw [hcout, List.append_assoc]
          rfl

/-- Each of these ways occurs in the program. -/
theorem exists_run_poll_of_pollEnds {s : AccessControlSystem π} {f : Failure Exception}
    {last : List ConsoleLine} {t : PollState π} (h : PollEnds port s.pollState f last t) :
    ∃ s', (poll port).run s = .error f s' ∧ s'.pollState = t := by
  have hmembers := Reader.diagnostics_getID port s.reader
  generalize hstart : s.pollState = t₀ at h
  cases h with
  | @overruns q d q' hconverse hoverruns =>
    cases hstart
    obtain ⟨f, r', hrun, rfl⟩ := Reader.refines_getID.exists_error hconverse
    rw [Prog.finalState_of_error hrun] at hmembers
    obtain rfl := (Reader.eq_fault_iff_of_run_getID hrun).mpr hoverruns
    exact ⟨_, run_poll_of_fault hrun, by rw [← hmembers]; rfl⟩
  | @flush q d q₁ e e' q₂ hconverse hfails hflush =>
    cases hstart
    obtain ⟨f, r', hrun, rfl⟩ := Reader.refines_getID.exists_error hconverse
    rw [Prog.finalState_of_error hrun] at hmembers
    obtain rfl := Option.some_inj.mp ((Reader.failure?_of_run_getID hrun).symm.trans hfails)
    have hpoll := run_poll_of_exception hrun
    rw [hflush] at hpoll
    exact ⟨_, hpoll, by rw [← hmembers]; rfl⟩

/-- A poll fails as `PollEnds` says. -/
theorem roundFails_poll (port : SerialPort π) (ids : Finset Str) :
    Prog.RoundFails (RunsWith ids) (poll port) pollState (fun s => s.reader.cout)
      (PollEnds port) where
  exists_end _ h := exists_pollEnds_of_run_poll h
  exists_failure _ h := exists_run_poll_of_pollEnds h

/-! ## The program -/

/-- A run of the program that fails does so in the constructor or in a poll. -/
theorem run_main_eq_error_iff {q : π} {n : ℕ} {f : Failure Exception} {s : AccessControlSystem π} :
    (main port n).run (start q) = .error f s ↔
      (construct port).run (start q) = .error f s ∨
      ∃ q₁, port.setUp.run q = .ok () q₁ ∧ (mainLoop port n).run (ready q₁) = .error f s := by
  rw [main, Prog.run_bind_eq_error]
  refine or_congr_right ?_
  constructor
  · rintro ⟨_, s₁, hconstruct, hrun⟩
    obtain ⟨q₁, hsetUp, rfl⟩ := run_construct_eq_ok_iff.mp hconstruct
    exact ⟨q₁, hsetUp, hrun⟩
  · rintro ⟨q₁, hsetUp, hrun⟩
    exact ⟨(), _, run_construct_eq_ok_iff.mpr ⟨q₁, hsetUp, rfl⟩, hrun⟩

/-- What a run that failed has done: the reader device could not be set up, or it was set up and
some polls went well before the last one. -/
theorem exists_ending_of_run_main {q : π} {n : ℕ} {f : Failure Exception}
    {s : AccessControlSystem π} (h : (main port n).run (start q) = .error f s) :
    (∃ e messages q', port.SetUpFails q e messages q' ∧ f = .exception e ∧
      s = { start q with reader := Reader.notSetUp (.start q) messages q' }) ∨
    ∃ q₁ results t last, port.setUp.run q = .ok () q₁ ∧ results.length < n ∧
      Trace (Polls port) ⟨q₁, .none⟩ results t ∧ PollEnds port t f last s.pollState ∧
      s.reader.cout = .serialPortOpened ::
        (results.flatMap (PollResult.lines (start q).accessGrantedIds) ++ last) := by
  rcases run_main_eq_error_iff.mp h with hconstruct | ⟨q₁, hsetUp, hrun⟩
  · exact .inl (run_construct_eq_error_iff.mp hconstruct)
  · obtain ⟨results, t, last, hlength, htrace, hends, hcout⟩ :=
      (roundFails_poll port (start q).accessGrantedIds).exists_trace
        (loopFollows_poll port _) (s := ready q₁) ⟨rfl, rfl⟩ hrun
    exact .inr ⟨q₁, results, t, last, hsetUp, hlength, htrace, hends, hcout⟩

/-- The ways for a run of `n` polls to end with the failure `f`. -/
theorem exists_run_main_error_iff (port : SerialPort π) (q : π) (n : ℕ) (f : Failure Exception) :
    (∃ s, (main port n).run (start q) = .error f s) ↔
      (∃ e messages q', port.SetUpFails q e messages q' ∧ f = .exception e) ∨
      ∃ q₁ results t last t', port.setUp.run q = .ok () q₁ ∧ results.length < n ∧
        Trace (Polls port) ⟨q₁, .none⟩ results t ∧ PollEnds port t f last t' := by
  constructor
  · rintro ⟨s, hrun⟩
    rcases exists_ending_of_run_main hrun with
      ⟨e, messages, q', hfails, rfl, -⟩ | ⟨q₁, results, t, last, hsetUp, hlength, htrace, hends, -⟩
    · exact .inl ⟨e, messages, q', hfails, rfl⟩
    · exact .inr ⟨q₁, results, t, last, _, hsetUp, hlength, htrace, hends⟩
  · rintro (⟨e, messages, q', hfails, rfl⟩ |
      ⟨q₁, results, t, last, t', hsetUp, hlength, htrace, hends⟩)
    · exact ⟨_, run_main_eq_error_iff.mpr
        (.inl (run_construct_eq_error_iff.mpr ⟨e, messages, q', hfails, rfl, rfl⟩))⟩
    · obtain ⟨s, hrun, -⟩ := (roundFails_poll port (start q).accessGrantedIds).exists_error
        (loopFollows_poll port _) (s := ready q₁) ⟨rfl, rfl⟩ hlength htrace hends
      exact ⟨s, run_main_eq_error_iff.mpr (.inr ⟨q₁, hsetUp, hrun⟩)⟩

/-- How a run of the program ends that does not do its `n` polls. The reader device could not be set
up, and the exception is the first of those on the list; or it was set up and fewer than `n` polls
went well, until one read outside a reply, or the flush behind a report threw. What it has printed
is the messages of these polls and those of the last. -/
theorem main_ends (port : SerialPort π) (q : π) (n : ℕ) (f : Failure Exception) :
    ((∃ s, (main port n).run (start q) = .error f s) ↔
      (∃ e messages q', port.SetUpFails q e messages q' ∧ f = .exception e) ∨
      ∃ q₁ results t last t', port.setUp.run q = .ok () q₁ ∧ results.length < n ∧
        Trace (Polls port) ⟨q₁, .none⟩ results t ∧ PollEnds port t f last t') ∧
    ∀ s, (main port n).run (start q) = .error f s →
      (∃ e messages q', port.SetUpFails q e messages q' ∧ f = .exception e ∧
        s = { start q with reader := Reader.notSetUp (.start q) messages q' }) ∨
      ∃ q₁ results t last, port.setUp.run q = .ok () q₁ ∧ results.length < n ∧
        Trace (Polls port) ⟨q₁, .none⟩ results t ∧ PollEnds port t f last s.pollState ∧
        s.reader.cout = .serialPortOpened ::
          (results.flatMap (PollResult.lines (start q).accessGrantedIds) ++ last) :=
  ⟨exists_run_main_error_iff port q n f, fun _ => exists_ending_of_run_main⟩

end AccessControlSystem

end DoorAcs
