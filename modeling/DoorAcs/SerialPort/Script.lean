import DoorAcs.Reader.Conversation
import Mathlib.Data.Stream.Init

/-!
# A scripted serial port

A port that does what a script says: the results to come of the writes, reads and flushes and of
setting the timeouts, each a value or an exception. It keeps a log of what was done to it. Over all
scripts it shows every behaviour of a port that one run can meet.

`Script.replying` is the script on which every write and every read succeeds;
`run_ask_replying`, `run_askSearch_replying` and `run_askCard_replying` say what asking comes to
there.
-/

namespace DoorAcs

open Cpp

/-! ## The port -/

/-- An operation of the port and its result. -/
inductive PortEvent where
  | setTimeout (timeout : Timeout) (result : Except Exception Unit)
  | wrote (frame : Str) (result : Except Exception ℕ)
  | read (size : ℕ) (result : Except Exception Str)
  | flushed (result : Except Exception Unit)

/-- The frames that were written, as a log tells. -/
def PortEvent.frames (log : List PortEvent) : List Str :=
  log.filterMap fun
    | .wrote frame (.ok _) => some frame
    | _ => none

/-- The results to come, and the log of what was done. -/
structure Script where
  timeout : Timeout
  configurations : Stream' (Except Exception Unit)
  isOpen : Bool
  writes : Stream' (Except Exception ℕ)
  reads : Stream' (Except Exception Str)
  flushes : Stream' (Except Exception Unit)
  log : List PortEvent

namespace Script

/-- End an operation with `result` in the state `q`. -/
def ending {α : Type} (q : Script) : Except Exception α → EStateM.Result Exception Script α
  | .ok a => .ok a q
  | .error e => .error e q

/-- The port that follows its script. -/
def port : SerialPort Script where
  getTimeout := timeout
  setTimeout timeout q :=
    -- the timeout is stored whether or not the port takes it
    ending
      { q with
        timeout, configurations := q.configurations.tail
        log := q.log ++ [.setTimeout timeout q.configurations.head] }
      q.configurations.head
  isOpen := isOpen
  write frame q :=
    ending { q with writes := q.writes.tail, log := q.log ++ [.wrote frame q.writes.head] }
      q.writes.head
  read size q :=
    ending { q with reads := q.reads.tail, log := q.log ++ [.read size q.reads.head] }
      q.reads.head
  flush q :=
    ending { q with flushes := q.flushes.tail, log := q.log ++ [.flushed q.flushes.head] }
      q.flushes.head

/-! ## Scripts of replies -/

/-- Every operation succeeds: `counts` are the numbers of bytes written, `replies` the texts read.
-/
def replying (counts : Stream' ℕ) (replies : Stream' Str) (log : List PortEvent) : Script :=
  { timeout := .simpleTimeout 700, configurations := Stream'.const (.ok ()), isOpen := true
    writes := counts.map .ok, reads := replies.map .ok, flushes := Stream'.const (.ok ()), log }

/-- What one exchange adds to the log. -/
def exchangeLog (frame : Str) (count : ℕ) (reply : Str) : List PortEvent :=
  [.wrote frame (.ok count), .read maxResponseNumberOfBytes (.ok reply)]

variable (counts : Stream' ℕ) (replies : Stream' Str) (log : List PortEvent) (frame : Str)

/-- The log that a script starts with. -/
@[simp]
theorem log_replying : (replying counts replies log).log = log := rfl

/-- An exchange adds its frame to those written. -/
theorem frames_append_exchangeLog (count : ℕ) (reply : Str) :
    PortEvent.frames (log ++ exchangeLog frame count reply) = PortEvent.frames log ++ [frame] := by
  simp [PortEvent.frames, exchangeLog]

/-- An exchange takes the next reply. -/
theorem run_ask_replying :
    (port.ask frame).run (replying counts replies log) =
      (Spec.ofOption (Hex.decode replies.head)).run
        (replying counts.tail replies.tail
          (log ++ exchangeLog frame counts.head replies.head)) := by
  -- the write and the read extend the log one after the other
  have hlog : log ++ exchangeLog frame counts.head replies.head =
      log ++ [.wrote frame (.ok counts.head)] ++
        [.read maxResponseNumberOfBytes (.ok replies.head)] := by
    rw [List.append_assoc, exchangeLog, List.singleton_append]
  rw [hlog]
  rfl

/-- A search takes the next reply. -/
theorem run_askSearch_replying :
    port.askSearch.run (replying counts replies log) =
      (Spec.ofOption (SearchReply.ofText? replies.head)).run
        (replying counts.tail replies.tail
          (log ++ exchangeLog searchFrame counts.head replies.head)) := by
  rw [SerialPort.askSearch, EStateM.run_bind, run_ask_replying, SearchReply.ofText?]
  rcases Hex.decode replies.head with _ | bytes <;> rfl

/-- An exchange with the card takes the next reply. -/
theorem run_askCard_replying :
    (port.askCard frame).run (replying counts replies log) =
      (Spec.ofOption (ApduReply.ofText? replies.head)).run
        (replying counts.tail replies.tail
          (log ++ exchangeLog frame counts.head replies.head)) := by
  rw [SerialPort.askCard, EStateM.run_bind, run_ask_replying, ApduReply.ofText?]
  rcases Hex.decode replies.head with _ | bytes <;> rfl

end Script

end DoorAcs
