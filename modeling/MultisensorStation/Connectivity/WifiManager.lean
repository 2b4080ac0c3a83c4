import MultisensorStation.Base.Runs
import Mathlib.Logic.Function.Basic

/-!
# `WifiManager`

The tasks that share a `WifiManager`, one statement a step, in any order.

* `TaskStmt` : the statements of `reconnectTask`; the two waits are taken apart into the test of their predicate
  under the mutex, the step that releases the mutex and blocks, and the one that takes the mutex again;
* `HandlerStmt` : the statements of `eventHandler`, which the event task runs for one event at a time;
* `CallerStmt` : the statements of `updateCredentials` and `reconnect`, called by any number of tasks;
* `wifiSystem` : the step function; a `Label` names the statement that is executed; `OthersStep` : what the steps of
  the other parties can do to `reconnectTask`;
* `connectsSinceReset` : how often `reconnectTask` called `esp_wifi_connect` since the last reset of the counter.
-/

namespace MultisensorStation.Connectivity
open MultisensorStation.Base

/-- `wifiState_t` -/
inductive WifiState where
  | notInitialized
  | disconnected
  | connecting
  | connected
  deriving DecidableEq

def WIFI_RECONNECT_ATTEMPT_MAXIMUM_RETRY : Int := 5

/-- What `reconnectTask` executes next. -/
inductive TaskStmt where
  | lock
  -- `cv.wait(lock, ...)`
  | firstTest
  | firstBlock
  | firstBlocked
  | firstRelock
  | retryTest
  | connect
  | increment
  | setFailBit
  | restart
  -- `cv.wait_for(lock, ...)`
  | secondTest
  | secondBlock
  | secondBlocked
  | secondRelock
  | secondTimedOut
  | isConnected
  | resetBackoff
  | doubleBackoff
  -- the end of the scope of `lock`
  | unlock
  deriving DecidableEq

inductive WifiEvent where
  | staStart
  | staDisconnected
  | gotIp
  | other
  deriving DecidableEq

/-- What `eventHandler` executes next. -/
inductive HandlerStmt where
  | idle
  | startSetState
  | startConnect
  | disconnectedSetState
  | disconnectedNotify
  | gotIpSetState
  | gotIpResetCount
  | gotIpSetBits
  | gotIpNotify
  deriving DecidableEq

def WifiEvent.firstStmt : WifiEvent → HandlerStmt
  | .staStart => .startSetState
  | .staDisconnected => .disconnectedSetState
  | .gotIp => .gotIpSetState
  | .other => .idle

inductive Call where
  | updateCredentials
  | reconnect
  deriving DecidableEq

/-- What a caller of `updateCredentials` or `reconnect` executes next; the two share their last two statements. -/
inductive CallerStmt where
  | idle
  | setConfig
  | setState
  | notify
  deriving DecidableEq

def Call.firstStmt : Call → CallerStmt
  | .updateCredentials => .setConfig
  | .reconnect => .setState

inductive Party where
  | task
  | handler
  | caller (i : Nat)
  deriving DecidableEq

structure State where
  wifi : WifiState
  retryCount : Int
  /-- a local variable of `reconnectTask` -/
  backoffDelay : Int
  /-- `reconnectTask` holds `mtx`; none of the others takes it -/
  mtx : Bool
  connectedBit : Bool
  failBit : Bool
  task : TaskStmt
  handler : HandlerStmt
  callers : Nat → CallerStmt
  /-- restarted, or aborted by `ESP_ERROR_CHECK` -/
  halted : Bool

def State.init : State where
  wifi := .notInitialized
  retryCount := 0
  backoffDelay := 10
  mtx := false
  connectedBit := false
  failBit := false
  task := .lock
  handler := .idle
  callers := fun _ => .idle
  halted := false

inductive Label where
  /-- the next statement of `reconnectTask`; of a blocked one a spurious wake-up -/
  | task (stmt : TaskStmt)
  /-- the end of the time of `wait_for` -/
  | timeout
  | event (e : WifiEvent)
  | handler (stmt : HandlerStmt)
  | call (i : Nat) (c : Call)
  | caller (i : Nat) (stmt : CallerStmt)
  /-- the call inside an `ESP_ERROR_CHECK` is made and fails -/
  | abort (p : Party)
  deriving DecidableEq

/-- `cv.notify_all()` wakes a task that is blocked, and no other. -/
def TaskStmt.notified : TaskStmt → TaskStmt
  | .firstBlocked => .firstRelock
  | .secondBlocked => .secondRelock
  | t => t

namespace State

def notifyAll (s : State) : State := { s with task := s.task.notified }

def runTask (s : State) : TaskStmt → Option State
  | .lock => if s.mtx then none else some { s with mtx := true, task := .firstTest }
  | .firstTest => some { s with task := if s.wifi = .disconnected then .retryTest else .firstBlock }
  | .firstBlock => some { s with mtx := false, task := .firstBlocked }
  | .firstBlocked => some { s with task := .firstRelock }
  | .firstRelock => if s.mtx then none else some { s with mtx := true, task := .firstTest }
  | .retryTest =>
    some { s with task := if s.retryCount < WIFI_RECONNECT_ATTEMPT_MAXIMUM_RETRY then .connect else .setFailBit }
  | .connect => some { s with task := .increment }
  | .increment => some { s with retryCount := s.retryCount + 1, task := .secondTest }
  | .setFailBit => some { s with failBit := true, task := .restart }
  | .restart => some { s with halted := true }
  | .secondTest => some { s with task := if s.wifi = .connected then .isConnected else .secondBlock }
  | .secondBlock => some { s with mtx := false, task := .secondBlocked }
  | .secondBlocked => some { s with task := .secondRelock }
  | .secondRelock => if s.mtx then none else some { s with mtx := true, task := .secondTest }
  -- the predicate is tested once more, but nothing depends on the answer
  | .secondTimedOut => if s.mtx then none else some { s with mtx := true, task := .isConnected }
  | .isConnected => some { s with task := if s.wifi = .connected then .resetBackoff else .doubleBackoff }
  | .resetBackoff => some { s with backoffDelay := 10, task := .unlock }
  | .doubleBackoff => some { s with backoffDelay := min (s.backoffDelay * 2) 300, task := .unlock }
  | .unlock => some { s with mtx := false, task := .lock }

def runHandler (s : State) : HandlerStmt → Option State
  | .idle => none
  | .startSetState => some { s with wifi := .connecting, handler := .startConnect }
  | .startConnect => some { s with handler := .idle }
  | .disconnectedSetState => some { s with wifi := .disconnected, handler := .disconnectedNotify }
  | .disconnectedNotify => some { s.notifyAll with handler := .idle }
  | .gotIpSetState => some { s with wifi := .connected, handler := .gotIpResetCount }
  | .gotIpResetCount => some { s with retryCount := 0, handler := .gotIpSetBits }
  | .gotIpSetBits => some { s with connectedBit := true, handler := .gotIpNotify }
  | .gotIpNotify => some { s.notifyAll with handler := .idle }

def setCaller (s : State) (i : Nat) (stmt : CallerStmt) : State :=
  { s with callers := Function.update s.callers i stmt }

def runCaller (s : State) (i : Nat) : CallerStmt → Option State
  | .idle => none
  | .setConfig => some (s.setCaller i .setState)
  | .setState => some ({ s with wifi := .disconnected }.setCaller i .notify)
  | .notify => some (s.notifyAll.setCaller i .idle)

/-- The party is about to make a call inside an `ESP_ERROR_CHECK`. -/
def atErrorCheck (s : State) : Party → Bool
  | .task => s.task = .connect
  | .handler => s.handler = .startConnect
  | .caller i => s.callers i = .setConfig

/-- Each label names the statement its party is about to execute. -/
def step (s : State) : Label → Option State
  | .task stmt => if s.task = stmt then s.runTask stmt else none
  | .timeout => if s.task = .secondBlocked then some { s with task := .secondTimedOut } else none
  | .event e => if s.handler = .idle then some { s with handler := e.firstStmt } else none
  | .handler stmt => if s.handler = stmt then s.runHandler stmt else none
  | .call i c => if s.callers i = .idle then some (s.setCaller i c.firstStmt) else none
  | .caller i stmt => if s.callers i = stmt then s.runCaller i stmt else none
  | .abort p => if s.atErrorCheck p then some { s with halted := true } else none

def next (s : State) (l : Label) : Option State := if s.halted then none else s.step l

end State

def wifiSystem : System State Label := ⟨State.init, State.next⟩

/-! ## The history of a run -/

/-- `wifi_reconnect_retry_count = 0` -/
def Label.IsReset (l : Label) : Prop := l = .handler .gotIpResetCount

/-- `reconnectTask` calls `esp_wifi_connect`. -/
def Label.IsConnect (l : Label) : Prop := l = .task .connect ∨ l = .abort .task

instance (l : Label) : Decidable l.IsReset := inferInstanceAs (Decidable (_ = _))
instance (l : Label) : Decidable l.IsConnect := inferInstanceAs (Decidable (_ ∨ _))

/-- The statement of `reconnectTask` that is executed to its end. -/
def Label.taskStmt : Label → Option TaskStmt
  | .task stmt => some stmt
  | _ => none

def countConnect (n : Nat) (l : Label) : Nat := if l.IsReset then 0 else if l.IsConnect then n + 1 else n

/-- The calls of `esp_wifi_connect` by `reconnectTask` since the last reset, or since the start. -/
def connectsSinceReset (ls : List Label) : Nat := ls.foldl countConnect 0

@[simp] theorem connectsSinceReset_concat (ls : List Label) (l : Label) :
    connectsSinceReset (ls ++ [l]) = countConnect (connectsSinceReset ls) l := by
  unfold connectsSinceReset
  rw [List.foldl_append, List.foldl_cons, List.foldl_nil]

theorem countConnect_of_isReset (n : Nat) {l : Label} (h : l.IsReset) : countConnect n l = 0 := if_pos h

theorem countConnect_of_isConnect (n : Nat) {l : Label} (h : l.IsConnect) : countConnect n l = n + 1 := by
  have hreset : ¬ l.IsReset := by
    rintro rfl
    rcases h with h | h <;> cases h
  unfold countConnect
  rw [if_neg hreset, if_pos h]

theorem countConnect_of_not (n : Nat) {l : Label} (hr : ¬ l.IsReset) (hc : ¬ l.IsConnect) :
    countConnect n l = n := by
  unfold countConnect
  rw [if_neg hr, if_neg hc]

/-- Of the statements of `reconnectTask` only one counts. -/
theorem countConnect_task (n : Nat) {stmt : TaskStmt} (h : stmt ≠ .connect) : countConnect n (.task stmt) = n := by
  apply countConnect_of_not
  · intro hl
    cases hl
  · rintro (hl | hl)
    · cases hl
      exact h rfl
    · cases hl

/-- Without a reset every attempt counts. -/
theorem connectsSinceReset_append (pre : List Label) {mid : List Label} (h : ∀ l ∈ mid, ¬ l.IsReset) :
    connectsSinceReset (pre ++ mid) = connectsSinceReset pre + mid.countP (fun l => l.IsConnect) := by
  induction mid using List.reverseRecOn with
  | nil => simp
  | append_singleton mid l ih =>
    rw [List.forall_mem_append, List.forall_mem_singleton] at h
    rw [← List.append_assoc, connectsSinceReset_concat, ih h.1, List.countP_append, List.countP_singleton]
    by_cases hc : l.IsConnect
    · rw [countConnect_of_isConnect _ hc]
      simp [hc, Nat.add_assoc]
    · rw [countConnect_of_not _ h.2 hc]
      simp [hc]

/-! ## What a step can do -/

namespace State
variable {s s' : State} {i : Nat}

theorem next_eq_some {l : Label} : s.next l = some s' ↔ s.halted = false ∧ s.step l = some s' := by
  unfold next
  rw [Option.ite_none_left_eq_some, Bool.not_eq_true]

theorem step_task {stmt : TaskStmt} (h : s.step (.task stmt) = some s') :
    s.task = stmt ∧ s.runTask stmt = some s' :=
  Option.ite_none_right_eq_some.mp h

theorem step_timeout (h : s.step .timeout = some s') :
    s.task = .secondBlocked ∧ s' = { s with task := .secondTimedOut } := by
  obtain ⟨htask, hs⟩ := Option.ite_none_right_eq_some.mp h
  exact ⟨htask, (Option.some.inj hs).symm⟩

theorem step_event {e : WifiEvent} (h : s.step (.event e) = some s') :
    s.handler = .idle ∧ s' = { s with handler := e.firstStmt } := by
  obtain ⟨hidle, hs⟩ := Option.ite_none_right_eq_some.mp h
  exact ⟨hidle, (Option.some.inj hs).symm⟩

theorem step_handler {stmt : HandlerStmt} (h : s.step (.handler stmt) = some s') :
    s.handler = stmt ∧ s.runHandler stmt = some s' :=
  Option.ite_none_right_eq_some.mp h

theorem step_call {c : Call} (h : s.step (.call i c) = some s') :
    s.callers i = .idle ∧ s' = s.setCaller i c.firstStmt := by
  obtain ⟨hidle, hs⟩ := Option.ite_none_right_eq_some.mp h
  exact ⟨hidle, (Option.some.inj hs).symm⟩

theorem step_caller {stmt : CallerStmt} (h : s.step (.caller i stmt) = some s') :
    s.callers i = stmt ∧ s.runCaller i stmt = some s' :=
  Option.ite_none_right_eq_some.mp h

theorem step_abort {p : Party} (h : s.step (.abort p) = some s') :
    s.atErrorCheck p = true ∧ s' = { s with halted := true } := by
  obtain ⟨hcheck, hs⟩ := Option.ite_none_right_eq_some.mp h
  exact ⟨hcheck, (Option.some.inj hs).symm⟩

/-- What the steps of the other parties can do to `reconnectTask` and to the variables that it shares. -/
structure OthersStep (s : State) (l : Label) (s' : State) : Prop where
  task : s'.task = s.task ∨ s'.task = s.task.notified ∨ (s.task = .secondBlocked ∧ s'.task = .secondTimedOut)
  backoffDelay : s'.backoffDelay = s.backoffDelay
  retryCount : ¬ l.IsReset → s'.retryCount = s.retryCount
  handler : s'.handler = s.handler ∨ s.handler = .idle ∨ l = .handler s.handler

theorem othersStep_of_runHandler {stmt : HandlerStmt} (hstmt : s.handler = stmt) (h : s.runHandler stmt = some s') :
    OthersStep s (.handler stmt) s' := by
  cases stmt
  all_goals simp only [runHandler, Option.some.injEq, reduceCtorEq] at h
  all_goals subst h
  case gotIpResetCount => exact ⟨Or.inl rfl, rfl, fun hreset => absurd rfl hreset, Or.inr (Or.inr (hstmt ▸ rfl))⟩
  case disconnectedNotify | gotIpNotify =>
    exact ⟨Or.inr (Or.inl rfl), rfl, fun _ => rfl, Or.inr (Or.inr (hstmt ▸ rfl))⟩
  all_goals exact ⟨Or.inl rfl, rfl, fun _ => rfl, Or.inr (Or.inr (hstmt ▸ rfl))⟩

theorem othersStep_of_runCaller {stmt : CallerStmt} (h : s.runCaller i stmt = some s') :
    OthersStep s (.caller i stmt) s' := by
  cases stmt
  all_goals simp only [runCaller, Option.some.injEq, reduceCtorEq] at h
  all_goals subst h
  case notify => exact ⟨Or.inr (Or.inl rfl), rfl, fun _ => rfl, Or.inl rfl⟩
  all_goals exact ⟨Or.inl rfl, rfl, fun _ => rfl, Or.inl rfl⟩

theorem othersStep_of_step {l : Label} (hl : l.taskStmt = none) (h : s.step l = some s') : OthersStep s l s' := by
  cases l with
  | task stmt => cases hl
  | timeout =>
    obtain ⟨htask, rfl⟩ := step_timeout h
    exact ⟨Or.inr (Or.inr ⟨htask, rfl⟩), rfl, fun _ => rfl, Or.inl rfl⟩
  | event e =>
    obtain ⟨hidle, rfl⟩ := step_event h
    exact ⟨Or.inl rfl, rfl, fun _ => rfl, Or.inr (Or.inl hidle)⟩
  | handler stmt =>
    obtain ⟨hstmt, hs⟩ := step_handler h
    exact othersStep_of_runHandler hstmt hs
  | call i c =>
    obtain ⟨-, rfl⟩ := step_call h
    exact ⟨Or.inl rfl, rfl, fun _ => rfl, Or.inl rfl⟩
  | caller i stmt => exact othersStep_of_runCaller (step_caller h).2
  | abort p =>
    obtain ⟨-, rfl⟩ := step_abort h
    exact ⟨Or.inl rfl, rfl, fun _ => rfl, Or.inl rfl⟩

/-- The reset of the counter does nothing else. -/
theorem step_reset (h : s.step (.handler .gotIpResetCount) = some s') :
    s.handler = .gotIpResetCount ∧ s' = { s with retryCount := 0, handler := .gotIpSetBits } := by
  obtain ⟨hstmt, hs⟩ := step_handler h
  exact ⟨hstmt, (Option.some.inj hs).symm⟩

end State

end MultisensorStation.Connectivity
