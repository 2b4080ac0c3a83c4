import MultisensorStation.Base.Bytes
import MultisensorStation.Patterns.BufferRuns

/-!
# `EventLogger` and the objects that log to it

* `EventLogger` : the circular buffer of lines and the console; `logStateChange`, `printLatestLogs`;
* `StatefulObjectLogged` : a state, and `setState`, which logs every change;
* `LoggedObjects` : a family of such objects that share the logger; `LoggedObjects.changes` : the calls of `setState`
  that changed the state of their object.
-/

namespace MultisensorStation.Logger
open MultisensorStation.Base MultisensorStation.Patterns

def CIRCULAR_BUFFER_MAX_SIZE : Nat := 30

/-- The lines, with a `size_t` of 32 bits, and what `ESP_LOGI` has written. -/
structure EventLogger where
  logs : CircularBuffer Bytes 32 CIRCULAR_BUFFER_MAX_SIZE
  console : List Bytes

namespace EventLogger

def fresh : EventLogger := ⟨CircularBuffer.fresh, []⟩

def getCurrentTimestamp : Bytes := ascii "<timestamp_not_implemented>"

/-- `"[%s] %s -> %s"` in a buffer of 64 bytes. -/
def line (id state : Bytes) : Bytes :=
  snprintf 64 (ascii "[" ++ cString getCurrentTimestamp ++ ascii "] " ++ cString id ++ ascii " -> " ++ cString state)

def printLatestLogs (logger : EventLogger) : EventLogger :=
  let shown := (List.range logger.logs.size.toNat).filterMap fun i =>
    (logger.logs.atIndex (BitVec.ofNat 32 i)).map cString
  { logger with console := logger.console ++ shown }

/-- The critical section of `logStateChange`. -/
def pushLine (id state : Bytes) (logger : EventLogger) : EventLogger :=
  ⟨(logger.logs.pushMove (line id state)).2, logger.console ++ [line id state]⟩

def logStateChange (id state : Bytes) (logger : EventLogger) : EventLogger :=
  let buffer := line id state
  let logger : EventLogger := ⟨(logger.logs.pushMove buffer).2, logger.console ++ [buffer]⟩
  if logger.logs.isMax then logger.printLatestLogs else logger

/-- The whole line, whatever its length. -/
def fullLine (id state : Bytes) : Bytes := ascii "[<timestamp_not_implemented>] " ++ id ++ ascii " -> " ++ state

theorem length_fullLine (id state : Bytes) : (fullLine id state).length = 34 + id.length + state.length := by
  have hpre : (ascii "[<timestamp_not_implemented>] ").length = 30 := by decide
  have harrow : (ascii " -> ").length = 4 := by decide
  unfold fullLine
  simp only [List.length_append, hpre, harrow]
  omega

/-- The buffer cuts the line off. -/
theorem line_eq_take {id state : Bytes} (hid : 0 ∉ id) (hstate : 0 ∉ state) :
    line id state = (fullLine id state).take 63 := by
  have htext : ascii "[" ++ cString getCurrentTimestamp ++ ascii "] " = ascii "[<timestamp_not_implemented>] " := by
    decide
  have hpre : (0 : UInt8) ∉ ascii "[<timestamp_not_implemented>] " := by decide
  have harrow : (0 : UInt8) ∉ ascii " -> " := by decide
  have hfull : 0 ∉ fullLine id state := by
    unfold fullLine
    simp only [List.mem_append, not_or]
    exact ⟨⟨⟨hpre, hid⟩, harrow⟩, hstate⟩
  unfold line
  rw [htext, cString_of_not_mem hid, cString_of_not_mem hstate]
  exact snprintf_of_not_mem hfull

theorem line_of_fits {id state : Bytes} (hfits : 34 + id.length + state.length ≤ 63) (hid : 0 ∉ id)
    (hstate : 0 ∉ state) : line id state = fullLine id state := by
  rw [line_eq_take hid hstate]
  exact List.take_of_length_le (by rwa [length_fullLine])

/-- What is printed stops at a NUL, and there is none in a line. -/
theorem cString_line (id state : Bytes) : cString (line id state) = line id state := cString_cString _

theorem logStateChange_eq (id state : Bytes) (logger : EventLogger) :
    logger.logStateChange id state =
      if (logger.pushLine id state).logs.isMax then (logger.pushLine id state).printLatestLogs
      else logger.pushLine id state := rfl

/-- A dump prints the whole buffer, oldest line first. -/
theorem printLatestLogs_of_observed {logger : EventLogger} {q : List Bytes} (h : logger.logs.Observed q)
    (hq : q.length ≤ CIRCULAR_BUFFER_MAX_SIZE) :
    logger.printLatestLogs = { logger with console := logger.console ++ q.map cString } := by
  have hshown := h.filterMap_atIndex (Nat.lt_of_le_of_lt hq (by decide))
  unfold printLatestLogs
  rw [← List.map_filterMap, hshown]

/-- A change adds its line to the buffer, whether or not the buffer is dumped. -/
theorem logs_logStateChange (id state : Bytes) (logger : EventLogger) :
    (logger.logStateChange id state).logs = (logger.logs.pushMove (line id state)).2 := by
  unfold logStateChange
  dsimp only
  split <;> rfl

end EventLogger

/-! ## `StatefulObjectLogged` -/

structure StatefulObjectLogged (S : Type) where
  id : Bytes
  state : S
  getStateAsString : S → Bytes

namespace StatefulObjectLogged

variable {S : Type} [DecidableEq S]

def setState (newState : S) (object : StatefulObjectLogged S) (logger : EventLogger) :
    StatefulObjectLogged S × EventLogger :=
  if object.state ≠ newState then
    let object := { object with state := newState }
    (object, logger.logStateChange object.id (object.getStateAsString object.state))
  else (object, logger)

theorem state_setState (newState : S) (object : StatefulObjectLogged S) (logger : EventLogger) :
    (object.setState newState logger).1.state = newState := by
  unfold setState
  split
  · rfl
  · next h => exact not_not.mp h

end StatefulObjectLogged

/-- A family of objects and the logger they share. -/
structure LoggedObjects {ι : Type} (S : ι → Type) where
  objects : ∀ i, StatefulObjectLogged (S i)
  logger : EventLogger

namespace LoggedObjects

variable {ι : Type} {S : ι → Type} [DecidableEq ι] [∀ i, DecidableEq (S i)]

/-- `setState(c.2)` on the object `c.1`. -/
def setState (w : LoggedObjects S) (c : Sigma S) : LoggedObjects S :=
  let (object, logger) := (w.objects c.1).setState c.2 w.logger
  ⟨Function.update w.objects c.1 object, logger⟩

def run (w : LoggedObjects S) (calls : List (Sigma S)) : LoggedObjects S := calls.foldl setState w

/-- The calls that changed the state of their object, oldest first. -/
def changes (w : LoggedObjects S) : List (Sigma S) → List (Sigma S)
  | [] => []
  | c :: cs =>
    if (w.objects c.1).state = c.2 then changes (w.setState c) cs else c :: changes (w.setState c) cs

end LoggedObjects

end MultisensorStation.Logger
