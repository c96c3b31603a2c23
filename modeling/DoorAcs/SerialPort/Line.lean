import DoorAcs.Reader.Transcript
import DoorAcs.SerialPort.Traffic

/-!
# A serial line to the reader device

The port at the end of a line to the reader device. A write that returns sends a request, and a read
takes from the traffic and is put on record; `flush` pushes output and takes nothing from the line,
as in `win.cc`.

`Line.finalState_ask` says what an exchange does to the line, whichever way it ends. So the traffic
is the one behind as many exchanges as the reader has made, whatever it does, and the records are of
these exchanges (`Line.OnSchedule`).
-/

namespace DoorAcs

open Cpp Channel

/-- The line: its traffic; the timeout, and the results to come of setting one, of the writes and of
the flushes; the frame written last; and the records of the reads. -/
structure Line extends Traffic where
  timeout : Timeout
  configurations : Stream' (Except Exception Unit)
  writes : Stream' (Except Exception ℕ)
  flushes : Stream' (Except Exception Unit)
  lastFrame : Str
  receipts : List Receipt

namespace Line

/-- The line before the first request. -/
def fresh (replies : Stream' Str) (deliveries : Stream' Delivery) (timeout : Timeout)
    (configurations : Stream' (Except Exception Unit)) (writes : Stream' (Except Exception ℕ))
    (flushes : Stream' (Except Exception Unit)) : Line :=
  { Traffic.fresh replies deliveries with
    timeout, configurations, writes, flushes, lastFrame := [], receipts := [] }

/-- The line behind a write of `frame`. -/
def written (line : Line) (frame : Str) : Line :=
  { line with toTraffic := line.request, writes := line.writes.tail, lastFrame := frame }

/-- The record of a read that takes `k` characters. -/
def receipt (line : Line) (k : ℕ) : Receipt :=
  { frame := line.lastFrame
    request := line.queue.sent
    taken := line.delivered.queue.received k }

/-- The line behind a read that takes `k` characters. -/
def afterRead (line : Line) (k : ℕ) : Line :=
  { line with
    toTraffic := line.delivered.readOff k
    receipts := line.receipts ++ [line.receipt k] }

/-- The port at the end of the line. -/
def port : SerialPort Line where
  getTimeout := timeout
  setTimeout timeout line :=
    -- the timeout is stored whether or not the port takes it
    match line.configurations.head with
    | .ok () => .ok () { line with timeout, configurations := line.configurations.tail }
    | .error e => .error e { line with timeout, configurations := line.configurations.tail }
  isOpen _ := true
  write frame line :=
    match line.writes.head with
    | .ok n => .ok n (line.written frame)
    -- a write that throws sends no request
    | .error e => .error e { line with writes := line.writes.tail }
  read size line :=
    match line.deliveries.head.taken with
    | .ok k => .ok (line.receipt (min k size)).text (line.afterRead (min k size))
    -- a read that throws takes nothing, but characters arrive meanwhile
    | .error e => .error e { line with toTraffic := line.delivered }
  flush line :=
    -- the receive queue stays as it is
    match line.flushes.head with
    | .ok () => .ok () { line with flushes := line.flushes.tail }
    | .error e => .error e { line with flushes := line.flushes.tail }

/-! ## What the operations do -/

/-- A write succeeds as the line says next, and the request is on its way. -/
theorem run_write_eq_ok_iff {line line' : Line} {frame : Str} {n : ℕ} :
    (port.write frame).run line = .ok n line' ↔
      line.writes.head = .ok n ∧ line.written frame = line' := by
  simp only [port, EStateM.run]
  rcases line.writes.head with e | m <;> simp

/-- A read takes what the line lets it, and is put on record. -/
theorem run_read_eq_ok_iff {line line' : Line} {size : ℕ} {text : Str} :
    (port.read size).run line = .ok text line' ↔
      ∃ k, line.deliveries.head.taken = .ok k ∧ (line.receipt (min k size)).text = text ∧
        line.afterRead (min k size) = line' := by
  simp only [port, EStateM.run]
  rcases line.deliveries.head.taken with e | k <;> simp

/-- The record of an exchange of `frame`. -/
def record (line : Line) (frame : Str) : Receipt :=
  { frame, request := line.queue.sent + 1, taken := line.taken }

/-- The line behind an exchange of `frame`, with the records `receipts`. -/
def exchanged (line : Line) (frame : Str) (receipts : List Receipt) : Line :=
  { line with
    toTraffic := line.next, writes := line.writes.tail, lastFrame := frame, receipts }

/-- A write and a read are an exchange. -/
theorem afterRead_written {line : Line} {k : ℕ} (h : line.deliveries.head.taken = .ok k)
    (frame : Str) :
    (line.written frame).afterRead (min k maxResponseNumberOfBytes) =
      line.exchanged frame (line.receipts ++ [line.record frame]) := by
  rw [exchanged, record, Traffic.next, Traffic.taken, Traffic.allowance_of_ok h]
  rfl

/-- The text of the exchange is that of the traffic. -/
theorem text_receipt_written {line : Line} {k : ℕ} (h : line.deliveries.head.taken = .ok k)
    (frame : Str) :
    ((line.written frame).receipt (min k maxResponseNumberOfBytes)).text = line.text := by
  rw [Traffic.text, Traffic.taken, Traffic.allowance_of_ok h]
  rfl

/-- Asking writes the frame, and reads and decodes a text that is put on record. -/
theorem run_ask_eq_ok_iff {line line' : Line} {frame : Str} {bytes : List BYTE} :
    (port.ask frame).run line = .ok bytes line' ↔
      (∃ n, line.writes.head = .ok n) ∧ (∃ k, line.deliveries.head.taken = .ok k) ∧
        Hex.decode line.text = some bytes ∧
        line.exchanged frame (line.receipts ++ [line.record frame]) = line' := by
  simp only [SerialPort.ask, Spec.run_bind_eq_ok, Spec.run_ofThrowing_eq_ok, run_write_eq_ok_iff,
    run_read_eq_ok_iff, Spec.run_ofOption_eq_ok]
  constructor
  · rintro ⟨n, _, ⟨hwrite, rfl⟩, text, _, ⟨k, htaken, rfl, rfl⟩, hdecode, rfl⟩
    replace htaken : line.deliveries.head.taken = .ok k := htaken
    rw [text_receipt_written htaken] at hdecode
    exact ⟨⟨n, hwrite⟩, ⟨k, htaken⟩, hdecode, (afterRead_written htaken frame).symm⟩
  · rintro ⟨⟨n, hwrite⟩, ⟨k, htaken⟩, hdecode, rfl⟩
    rw [← text_receipt_written htaken frame] at hdecode
    exact ⟨n, _, ⟨hwrite, rfl⟩, _, _, ⟨k, htaken, rfl, rfl⟩, hdecode,
      afterRead_written htaken frame⟩

/-- However asking ends: no request was sent, or there was an exchange, and at most its read was put
on record. -/
theorem finalState_ask (line : Line) (frame : Str) :
    (port.ask frame).finalState line = { line with writes := line.writes.tail } ∨
      ∃ receipts ∈ [line.receipts, line.receipts ++ [line.record frame]],
        (port.ask frame).finalState line = line.exchanged frame receipts := by
  cases hwrite : line.writes.head with
  | error e =>
    have hrun : (port.write frame).run line =
        .error e { line with writes := line.writes.tail } := by
      simp only [port, EStateM.run, hwrite]
    left
    rw [Spec.finalState, SerialPort.ask,
      Spec.run_bind_of_error (Spec.run_ofThrowing_eq_error.mpr ⟨e, hrun⟩)]
  | ok n =>
    right
    have hrun : (port.write frame).run line = .ok n (line.written frame) :=
      run_write_eq_ok_iff.mpr ⟨hwrite, rfl⟩
    rw [Spec.finalState, SerialPort.ask, Spec.run_bind_of_ok (Spec.run_ofThrowing_eq_ok.mpr hrun)]
    cases htaken : line.deliveries.head.taken with
    | error e =>
      have hread : (port.read maxResponseNumberOfBytes).run (line.written frame) =
          .error e (line.exchanged frame line.receipts) := by
        rw [exchanged, Traffic.next, Traffic.allowance_of_error htaken]
        simp only [port, EStateM.run, written, Traffic.request, htaken]
        rfl
      refine ⟨line.receipts, by simp, ?_⟩
      rw [Spec.run_bind_of_error (Spec.run_ofThrowing_eq_error.mpr ⟨e, hread⟩)]
    | ok k =>
      have hread : (port.read maxResponseNumberOfBytes).run (line.written frame) =
          .ok line.text (line.exchanged frame (line.receipts ++ [line.record frame])) :=
        run_read_eq_ok_iff.mpr
          ⟨k, htaken, text_receipt_written htaken frame, afterRead_written htaken frame⟩
      refine ⟨line.receipts ++ [line.record frame], by simp, ?_⟩
      rw [Spec.run_bind_of_ok (Spec.run_ofThrowing_eq_ok.mpr hread)]
      cases Hex.decode line.text <;> rfl

/-- A flush takes nothing from the line. -/
theorem finalState_flush (line : Line) :
    (Spec.ofThrowing port.flush).finalState line = { line with flushes := line.flushes.tail } := by
  rw [Spec.finalState, Spec.run_ofThrowing]
  simp only [port, EStateM.run]
  rcases line.flushes.head with e | _ <;> rfl

/-- Setting the timeouts takes nothing from it either. -/
theorem exists_finalState_setTimeouts (line : Line) :
    ∃ timeout, (Spec.ofThrowing port.setTimeouts).finalState line =
      { line with timeout, configurations := line.configurations.tail } := by
  rw [Spec.finalState, Spec.run_ofThrowing]
  simp only [SerialPort.setTimeouts, port, EStateM.run]
  rcases line.configurations.head with e | _ <;> exact ⟨_, rfl⟩

/-! ## Runs -/

/-- The traffic is the one behind the exchanges made, of which `start` is the schedule, and the
reads on record are of these exchanges. -/
structure OnSchedule (start : Traffic) (line : Line) : Prop where
  toTraffic_eq : line.toTraffic = start.after line.queue.sent
  receipts_isOf : ∀ receipt ∈ line.receipts, ∃ i < line.queue.sent, receipt.IsOf (start.after i)

variable {start : Traffic}

/-- An exchange keeps to the schedule, whether its read is put on record or throws. -/
theorem OnSchedule.of_exchanged {line : Line} (h : line.OnSchedule start) {frame : Str}
    {receipts : List Receipt}
    (hreceipts : receipts ∈ [line.receipts, line.receipts ++ [line.record frame]]) :
    (line.exchanged frame receipts).OnSchedule start where
  toTraffic_eq := by
    change line.next = start.after (line.queue.sent + 1)
    rw [Traffic.after_succ, ← h.toTraffic_eq]
  receipts_isOf := by
    change ∀ receipt ∈ receipts, ∃ i < line.queue.sent + 1, receipt.IsOf (start.after i)
    have hold (receipt : Receipt) (hmem : receipt ∈ line.receipts) :
        ∃ i < line.queue.sent + 1, receipt.IsOf (start.after i) := by
      obtain ⟨i, hi, hof⟩ := h.receipts_isOf receipt hmem
      exact ⟨i, Nat.lt_succ_of_lt hi, hof⟩
    rcases List.mem_pair.mp hreceipts with rfl | rfl
    · exact hold
    · -- the new record is of the exchange just made
      intro receipt hmem
      rcases List.mem_append.mp hmem with hmem | hmem
      · exact hold receipt hmem
      · rw [List.mem_singleton.mp hmem]
        refine ⟨line.queue.sent, Nat.lt_succ_self _, ?_⟩
        rw [← h.toTraffic_eq]
        exact ⟨rfl, rfl⟩

/-- Setting the timeouts does not touch the traffic. -/
theorem preserves_setTimeouts :
    Spec.Preserves (OnSchedule start) (.ofThrowing port.setTimeouts) := by
  intro line h
  obtain ⟨timeout, hset⟩ := exists_finalState_setTimeouts line
  rw [hset]
  exact ⟨h.toTraffic_eq, h.receipts_isOf⟩

end Line

end DoorAcs
