import DoorAcs.AccessControlSystem.Transcript

/-!
# What a run leaves in a log

Under a port that logs what it does, a run of the program leaves a log that its polls determine up
to the point where an exchange breaks off. `SerialPort.Logs` says what the port writes for its
timeouts, an exchange and a flush; `SerialPort.Logs.exists_of_run_main` says what is in the log
behind `n` polls, and that the messages printed are about the same polls.
-/

namespace DoorAcs

open Cpp

variable {π η : Type}

/-! ## Frames -/

/-- The frames sent to ask for an HCE id. -/
def HceAttempt.frames : HceAttempt → List Str
  | .notSelected => [selectFileFrame]
  | .unanswered => [selectFileFrame, getResponseFrame]
  | .answered _ => [selectFileFrame, getResponseFrame]

/-- The frames sent in a conversation. -/
def Conversation.frames : Conversation → List Str
  | .noTag => [searchFrame]
  | .tag _ hce => searchFrame :: hce.frames

/-- The longest sequence of frames that a poll sends. -/
def pollFrames : List Str := [searchFrame, selectFileFrame, getResponseFrame]

/-! ## Ports that log -/

/-- What the port adds to its log: something with `Timed` when the reader has set the timeouts,
`whole` for an exchange, something with `Part` if the exchange breaks off, and `flushed` for a
flush. -/
structure SerialPort.Logs (port : SerialPort π) (log : π → List η) (Timed : π → List η → Prop)
    (whole : Str → List η) (Part : Str → List η → Prop) (flushed : List η) : Prop where
  timeouts_ok : ∀ {q q'}, port.setTimeouts.run q = .ok () q' →
    ∃ timed, Timed q timed ∧ log q' = log q ++ timed
  ask_ok : ∀ {frame q q' bytes}, (port.ask frame).run q = .ok bytes q' →
    log q' = log q ++ whole frame
  ask_error : ∀ {frame q q'}, (port.ask frame).run q = .error () q' →
    ∃ part, Part frame part ∧ log q' = log q ++ part
  flush_ok : ∀ {q q'}, port.flush.run q = .ok () q' → log q' = log q ++ flushed
  part_whole : ∀ frame, Part frame (whole frame)

/-- What a poll adds to the log. If it is reported, it broke off in one of its exchanges. -/
inductive PollLog (whole : Str → List η) (Part : Str → List η → Prop) (flushed : List η) :
    PollResult → List η → Prop where
  | held (conversation : Conversation) :
      PollLog whole Part flushed (.held conversation) (conversation.frames.flatMap whole)
  | reported {members what done frame rest part} (hframes : done ++ frame :: rest = pollFrames)
      (hpart : Part frame part) :
      PollLog whole Part flushed (.reported members what) (done.flatMap whole ++ part ++ flushed)

namespace SerialPort.Logs

variable {port : SerialPort π} {log : π → List η} {Timed : π → List η → Prop}
  {whole : Str → List η} {Part : Str → List η → Prop} {flushed : List η} {q q' : π}
  (h : port.Logs log Timed whole Part flushed)
include h

/-! ### Conversations -/

/-- Behind an exchange, the bytes are parsed. -/
theorem ask_ofOption_ok {α : Type} {frame : Str} {parse : List BYTE → Option α} {a : α}
    (hask : (port.ask frame >>= fun bytes => Spec.ofOption (parse bytes)).run q = .ok a q') :
    log q' = log q ++ whole frame := by
  obtain ⟨bytes, hask, -⟩ := Spec.run_bind_ofOption_eq_ok.mp hask
  exact h.ask_ok hask

/-- An exchange that fails logs a part, also where its bytes are no reply. -/
theorem ask_ofOption_error {α : Type} {frame : Str} {parse : List BYTE → Option α}
    (hask : (port.ask frame >>= fun bytes => Spec.ofOption (parse bytes)).run q = .error () q') :
    ∃ part, Part frame part ∧ log q' = log q ++ part := by
  rcases Spec.run_bind_eq_error.mp hask with herror | ⟨bytes, q₁, hok, hparse⟩
  · exact h.ask_error herror
  · -- the reply was read, but could not be parsed
    obtain ⟨-, rfl⟩ := Spec.run_ofOption_eq_error.mp hparse
    exact ⟨whole frame, h.part_whole frame, h.ask_ok hok⟩

/-- Two exchanges with the HCE service log whole the frames they write. -/
theorem askHce_ok {hce : HceAttempt} (hrun : port.askHce.run q = .ok hce q') :
    log q' = log q ++ hce.frames.flatMap whole := by
  obtain ⟨select, q₁, hselect, hrun⟩ := Spec.run_bind_eq_ok.mp hrun
  have hlog := h.ask_ofOption_ok hselect
  cases select with
  | none =>
    cases hrun
    simpa [HceAttempt.frames] using hlog
  | some select =>
    dsimp only at hrun
    split_ifs at hrun
    · obtain ⟨response, q₂, hresponse, hrun⟩ := Spec.run_bind_eq_ok.mp hrun
      have hlog' := h.ask_ofOption_ok hresponse
      cases response <;>
      · cases hrun
        simp [HceAttempt.frames, hlog', hlog]
    · cases hrun
      simpa [HceAttempt.frames] using hlog

/-- The log of a conversation. -/
theorem converse_ok {conversation : Conversation}
    (hrun : port.converse.run q = .ok conversation q') :
    log q' = log q ++ conversation.frames.flatMap whole := by
  obtain ⟨reply, q₁, hsearch, hrun⟩ := Spec.run_bind_eq_ok.mp hrun
  have hlog := h.ask_ofOption_ok hsearch
  cases reply with
  | noTag =>
    cases hrun
    simpa [Conversation.frames] using hlog
  | tag t bits n uid enough =>
    obtain ⟨hce, q₂, hhce, hrun⟩ := Spec.run_bind_eq_ok.mp hrun
    cases hrun
    simp [Conversation.frames, h.askHce_ok hhce, hlog]

/-- If they fail, the last of them logs a part. -/
theorem askHce_error (hrun : port.askHce.run q = .error () q') :
    ∃ done frame rest part, done ++ frame :: rest = [selectFileFrame, getResponseFrame] ∧
      Part frame part ∧ log q' = log q ++ (done.flatMap whole ++ part) := by
  rcases Spec.run_bind_eq_error.mp hrun with hselect | ⟨select, q₁, hselect, hrun⟩
  · obtain ⟨part, hpart, hlog⟩ := h.ask_ofOption_error hselect
    exact ⟨[], selectFileFrame, [getResponseFrame], part, rfl, hpart, hlog⟩
  · have hlog := h.ask_ofOption_ok hselect
    cases select with
    | none => cases hrun
    | some select =>
      dsimp only at hrun
      split_ifs at hrun
      · rcases Spec.run_bind_eq_error.mp hrun with hresponse | ⟨response, q₂, hresponse, hrun⟩
        · obtain ⟨part, hpart, hlog'⟩ := h.ask_ofOption_error hresponse
          refine ⟨[selectFileFrame], getResponseFrame, [], part, rfl, hpart, ?_⟩
          simp [hlog', hlog]
        · cases response <;> cases hrun
      · cases hrun

/-- The log of a poll that breaks off. -/
theorem converse_error (hrun : port.converse.run q = .error () q') :
    ∃ done frame rest part, done ++ frame :: rest = pollFrames ∧ Part frame part ∧
      log q' = log q ++ (done.flatMap whole ++ part) := by
  rcases Spec.run_bind_eq_error.mp hrun with hsearch | ⟨reply, q₁, hsearch, hrun⟩
  · obtain ⟨part, hpart, hlog⟩ := h.ask_ofOption_error hsearch
    exact ⟨[], searchFrame, _, part, rfl, hpart, hlog⟩
  · have hlog := h.ask_ofOption_ok hsearch
    cases reply with
    | noTag => cases hrun
    | tag t bits n uid enough =>
      rcases Spec.run_bind_eq_error.mp hrun with hhce | ⟨hce, q₂, -, hrun⟩
      · obtain ⟨done, frame, rest, part, hframes, hpart, hlog'⟩ := h.askHce_error hhce
        refine ⟨searchFrame :: done, frame, rest, part, ?_, hpart, ?_⟩
        · rw [List.cons_append, hframes, pollFrames]
        · simp [hlog', hlog]
      · cases hrun

/-! ### Runs -/

/-- Setting the reader device up logs the timeouts, the flush and the exchange that selects the tag
types. -/
theorem setUp_ok (hrun : port.setUp.run q = .ok () q') :
    ∃ timed, Timed q timed ∧ log q' = log q ++ (timed ++ flushed ++ whole setTagTypesFrame) := by
  obtain ⟨q₁, hinitialise, hask⟩ := SerialPort.run_setUp_eq_ok_iff.mp hrun
  obtain ⟨q₀, htimeouts, -, hflush⟩ := SerialPort.run_initialise_eq_ok_iff.mp hinitialise
  obtain ⟨timed, htimed, hlog⟩ := h.timeouts_ok htimeouts
  refine ⟨timed, htimed, ?_⟩
  rw [h.ask_ok hask, h.flush_ok hflush, hlog]
  simp only [List.append_assoc]

/-- A poll logs what its result says. -/
theorem exists_of_polls {t t' : PollState π} {result : PollResult}
    (hpolls : Polls port t result t') :
    ∃ part, PollLog whole Part flushed result part ∧
      log t'.serialPort = log t.serialPort ++ part := by
  cases hpolls with
  | held hconverse => exact ⟨_, .held _, h.converse_ok hconverse⟩
  | reported hconverse hfails hflush =>
    obtain ⟨done, frame, rest, part, hframes, hpart, hlog⟩ := h.converse_error hconverse
    refine ⟨_, .reported hframes hpart, ?_⟩
    rw [h.flush_ok hflush, hlog, List.append_assoc]

/-- The log of a run: the timeouts, the flush and the exchange of the constructor, and then what its
polls add, which are the polls that the messages are about. -/
theorem exists_of_run_main {n : ℕ} {s : AccessControlSystem π}
    (hrun : (AccessControlSystem.main port n).run (.start q) = .ok () s) :
    ∃ timed results parts, Timed q timed ∧ results.length = n ∧
      List.Forall₂ (PollLog whole Part flushed) results parts ∧
      log s.reader.serialPort =
        log q ++ (timed ++ flushed ++ whole setTagTypesFrame ++ parts.flatten) ∧
      s.reader.cout = .serialPortOpened :: results.flatMap
        (PollResult.lines (AccessControlSystem.start q).accessGrantedIds) := by
  obtain ⟨q₁, results, hsetUp, hlength, htrace, hcout⟩ :=
    AccessControlSystem.exists_trace_of_run_main hrun
  obtain ⟨parts, hparts, hlog⟩ := htrace.exists_log (fun t => log t.serialPort) h.exists_of_polls
  obtain ⟨timed, htimed, hlog₁⟩ := h.setUp_ok hsetUp
  refine ⟨timed, results, parts, htimed, hlength, hparts, ?_, hcout⟩
  rw [show log s.reader.serialPort = _ from hlog, hlog₁, List.append_assoc]

end SerialPort.Logs

end DoorAcs
