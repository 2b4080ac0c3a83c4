import MultisensorStation.Base.Simulation
import MultisensorStation.Connectivity.LostDisconnect
import MultisensorStation.Connectivity.RetryBudget

/-!
# The internet check

`checkInternetConnectivityTask` beside the tasks of `WifiManager`: it takes the same mutex as `reconnectTask`, keeps
it while it pings, and calls `reconnect()` with it.

* `CheckStmt` : the statements of the task, its wait taken apart as those of `reconnectTask` are;
* `checkedSystem` : the step function of all parties;
* `checkedSimulation` : for the others the task is one more caller of `reconnect()`;
* `one_inside` : the two tasks exclude each other, and the one inside can go on;
  `connects_bounded_while_checked` : the budget of attempts is kept;
  `check_is_heard` : the disconnect that the task sets is never missed.
-/

namespace MultisensorStation.Connectivity
open MultisensorStation.Base

/-- What `checkInternetConnectivityTask` executes next. -/
inductive CheckStmt where
  | lock
  -- `cv.wait_for(lock, ...)`
  | waitTest
  | waitBlock
  | waitBlocked
  | waitRelock
  | waitTimedOut
  | ping
  -- `reconnect()`
  | setState
  | notify
  -- the end of the scope of `lock`
  | unlock
  deriving DecidableEq

/-- `receivedCount > 0` -/
def checkInternetConnectivity (receivedCount : BitVec 32) : Bool := decide (0#32 < receivedCount)

structure CheckedState where
  /-- its `mtx` is held by one of the two tasks -/
  wifi : State
  check : CheckStmt

inductive CheckedLabel where
  | wifi (l : Label)
  /-- the next statement of the check task; of a blocked one a spurious wake-up -/
  | check (stmt : CheckStmt)
  /-- the end of the time of its `wait_for` -/
  | checkTimeout
  /-- a ping with what `esp_ping_get_profile` answers -/
  | ping (receivedCount : BitVec 32)

def CheckStmt.notified : CheckStmt → CheckStmt
  | .waitBlocked => .waitRelock
  | c => c

namespace CheckedState

def init : CheckedState := ⟨.init, .lock⟩

def runCheck (s : CheckedState) : CheckStmt → Option CheckedState
  | .lock => if s.wifi.mtx then none else some ⟨{ s.wifi with mtx := true }, .waitTest⟩
  | .waitTest => some { s with check := if s.wifi.wifi = .connected then .ping else .waitBlock }
  | .waitBlock => some ⟨{ s.wifi with mtx := false }, .waitBlocked⟩
  | .waitBlocked => some { s with check := .waitRelock }
  | .waitRelock => if s.wifi.mtx then none else some ⟨{ s.wifi with mtx := true }, .waitTest⟩
  -- what the predicate answers then is not used
  | .waitTimedOut => if s.wifi.mtx then none else some ⟨{ s.wifi with mtx := true }, .ping⟩
  | .ping => none
  | .setState => some ⟨{ s.wifi with wifi := .disconnected }, .notify⟩
  | .notify => some ⟨s.wifi.notifyAll, .unlock⟩
  | .unlock => some ⟨{ s.wifi with mtx := false }, .lock⟩

def step (s : CheckedState) : CheckedLabel → Option CheckedState
  | .wifi l =>
    (s.wifi.step l).map fun wifi => ⟨wifi, if l.notifier.isSome then s.check.notified else s.check⟩
  | .check stmt => if s.check = stmt then s.runCheck stmt else none
  | .checkTimeout => if s.check = .waitBlocked then some { s with check := .waitTimedOut } else none
  | .ping receivedCount =>
    if s.check = .ping then
      some { s with check := if checkInternetConnectivity receivedCount then .unlock else .setState }
    else none

def next (s : CheckedState) (l : CheckedLabel) : Option CheckedState := if s.wifi.halted then none else s.step l

end CheckedState

def checkedSystem : System CheckedState CheckedLabel := ⟨CheckedState.init, CheckedState.next⟩

/-! ## Who holds the mutex -/

def TaskStmt.holdsMtx : TaskStmt → Bool
  | .lock | .firstBlocked | .firstRelock | .secondBlocked | .secondRelock | .secondTimedOut => false
  | _ => true

def CheckStmt.holdsMtx : CheckStmt → Bool
  | .lock | .waitBlocked | .waitRelock | .waitTimedOut => false
  | _ => true

@[simp] theorem TaskStmt.holdsMtx_notified (t : TaskStmt) : t.notified.holdsMtx = t.holdsMtx := by
  cases t <;> rfl

@[simp] theorem CheckStmt.holdsMtx_notified (c : CheckStmt) : c.notified.holdsMtx = c.holdsMtx := by
  cases c <;> rfl

/-- What a step of the parties of `wifiSystem` can do to the mutex. -/
inductive MtxStep (s : State) : Label → State → Prop where
  | take {stmt : TaskStmt} {s' : State} (hfree : s.mtx = false) (hout : s.task.holdsMtx = false) (hmtx : s'.mtx = true)
      (hin : s'.task.holdsMtx = true) : MtxStep s (.task stmt) s'
  | release {stmt : TaskStmt} {s' : State} (hin : s.task.holdsMtx = true) (hmtx : s'.mtx = false)
      (hout : s'.task.holdsMtx = false) : MtxStep s (.task stmt) s'
  | keep {l : Label} {s' : State} (hmtx : s'.mtx = s.mtx) (htask : s'.task.holdsMtx = s.task.holdsMtx) : MtxStep s l s'

namespace State
variable {s s' : State}

theorem mtxStep_of_runTask {stmt : TaskStmt} (htask : s.task = stmt) (h : s.runTask stmt = some s') :
    MtxStep s (.task stmt) s' := by
  cases stmt
  all_goals simp only [runTask, Option.ite_none_left_eq_some, Option.some.injEq, Bool.not_eq_true] at h
  case lock | firstRelock | secondRelock | secondTimedOut =>
    obtain ⟨hfree, rfl⟩ := h
    exact .take hfree (htask ▸ rfl) rfl rfl
  case firstBlock | secondBlock | unlock =>
    subst h
    exact .release (htask ▸ rfl) rfl rfl
  all_goals
    subst h
    refine .keep rfl ?_
    grind [TaskStmt.holdsMtx]

theorem mtxStep_of_step {l : Label} (h : s.step l = some s') : MtxStep s l s' := by
  cases l with
  | task stmt =>
    obtain ⟨htask, hs⟩ := step_task h
    exact mtxStep_of_runTask htask hs
  | timeout =>
    obtain ⟨htask, rfl⟩ := step_timeout h
    exact .keep rfl (htask ▸ rfl)
  | event e =>
    obtain ⟨-, rfl⟩ := step_event h
    exact .keep rfl rfl
  | handler stmt =>
    obtain ⟨-, hs⟩ := step_handler h
    cases stmt
    all_goals simp only [runHandler, Option.some.injEq, reduceCtorEq] at hs
    all_goals subst hs
    all_goals exact .keep rfl (by simp [notifyAll])
  | call i c =>
    obtain ⟨-, rfl⟩ := step_call h
    exact .keep rfl rfl
  | caller i stmt =>
    obtain ⟨-, hs⟩ := step_caller h
    cases stmt
    all_goals simp only [runCaller, Option.some.injEq, reduceCtorEq] at hs
    all_goals subst hs
    all_goals exact .keep rfl (by simp [setCaller, notifyAll])
  | abort p =>
    obtain ⟨-, rfl⟩ := step_abort h
    exact .keep rfl rfl

end State

/-- The mutex is held exactly while one of the tasks is inside, and never by both. -/
structure Owned (s : CheckedState) : Prop where
  mtx_eq : s.wifi.mtx = (s.wifi.task.holdsMtx || s.check.holdsMtx)
  not_both : (s.wifi.task.holdsMtx && s.check.holdsMtx) = false

namespace CheckedState
variable {s s' : CheckedState}

theorem next_eq_some {l : CheckedLabel} : s.next l = some s' ↔ s.wifi.halted = false ∧ s.step l = some s' := by
  unfold next
  rw [Option.ite_none_left_eq_some, Bool.not_eq_true]

theorem step_wifi {l : Label} (h : s.step (.wifi l) = some s') :
    s.wifi.step l = some s'.wifi ∧ s'.check = if l.notifier.isSome then s.check.notified else s.check := by
  obtain ⟨wifi, hstep, rfl⟩ := Option.map_eq_some_iff.mp h
  exact ⟨hstep, rfl⟩

theorem step_check {stmt : CheckStmt} (h : s.step (.check stmt) = some s') :
    s.check = stmt ∧ s.runCheck stmt = some s' :=
  Option.ite_none_right_eq_some.mp h

theorem step_checkTimeout (h : s.step .checkTimeout = some s') :
    s.check = .waitBlocked ∧ s' = { s with check := .waitTimedOut } := by
  obtain ⟨hcheck, hs⟩ := Option.ite_none_right_eq_some.mp h
  exact ⟨hcheck, (Option.some.inj hs).symm⟩

theorem step_ping {receivedCount : BitVec 32} (h : s.step (.ping receivedCount) = some s') :
    s.check = .ping ∧
      s' = { s with check := if checkInternetConnectivity receivedCount then .unlock else .setState } := by
  obtain ⟨hcheck, hs⟩ := Option.ite_none_right_eq_some.mp h
  exact ⟨hcheck, (Option.some.inj hs).symm⟩

end CheckedState

namespace Owned
variable {s s' : CheckedState}

theorem of_wifi {l : Label} (h : Owned s) (hs : MtxStep s.wifi l s'.wifi)
    (hcheck : s'.check.holdsMtx = s.check.holdsMtx) : Owned s' := by
  obtain ⟨hmtx, hboth⟩ := h
  cases hs with
  | take hfree hout hmtx' hin =>
    rw [hfree, hout, Bool.false_or] at hmtx
    exact ⟨by rw [hmtx', hin, Bool.true_or], by rw [hcheck, ← hmtx, Bool.and_false]⟩
  | release hin hmtx' hout =>
    rw [hin, Bool.true_and] at hboth
    exact ⟨by rw [hmtx', hout, hcheck, hboth, Bool.or_false], by rw [hout, Bool.false_and]⟩
  | keep hmtx' htask =>
    exact ⟨by rw [hmtx', htask, hcheck, hmtx], by rw [htask, hcheck, hboth]⟩

theorem of_check {stmt : CheckStmt} (h : Owned s) (hcheck : s.check = stmt) (hs : s.runCheck stmt = some s') :
    Owned s' := by
  obtain ⟨hmtx, hboth⟩ := h
  rw [hcheck] at hmtx hboth
  cases stmt
  all_goals simp only [CheckedState.runCheck, Option.ite_none_left_eq_some, Option.some.injEq, Bool.not_eq_true,
    reduceCtorEq] at hs
  case lock | waitRelock | waitTimedOut =>
    obtain ⟨hfree, rfl⟩ := hs
    rw [hfree, CheckStmt.holdsMtx, Bool.or_false] at hmtx
    exact ⟨by simp [CheckStmt.holdsMtx], by rw [← hmtx, Bool.false_and]⟩
  case waitBlock | unlock =>
    subst hs
    have hout : s.wifi.task.holdsMtx = false := by simpa [CheckStmt.holdsMtx] using hboth
    exact ⟨by simp [hout, CheckStmt.holdsMtx], by simp [CheckStmt.holdsMtx]⟩
  case waitTest =>
    subst hs
    constructor <;> split_ifs <;> assumption
  case notify =>
    subst hs
    exact ⟨hmtx.trans (by simp [State.notifyAll, CheckStmt.holdsMtx]),
      by simpa [State.notifyAll, CheckStmt.holdsMtx] using hboth⟩
  case waitBlocked | setState =>
    subst hs
    exact ⟨hmtx, hboth⟩

theorem step {l : CheckedLabel} (h : Owned s) (hs : s.step l = some s') : Owned s' := by
  cases l with
  | wifi l =>
    obtain ⟨hwifi, hcheck⟩ := CheckedState.step_wifi hs
    apply h.of_wifi (State.mtxStep_of_step hwifi)
    rw [hcheck]
    split_ifs <;> simp
  | check stmt =>
    obtain ⟨hcheck, hrun⟩ := CheckedState.step_check hs
    exact h.of_check hcheck hrun
  | checkTimeout =>
    obtain ⟨hcheck, rfl⟩ := CheckedState.step_checkTimeout hs
    exact h.of_wifi (l := .timeout) (.keep rfl rfl) (hcheck ▸ rfl)
  | ping receivedCount =>
    obtain ⟨hcheck, rfl⟩ := CheckedState.step_ping hs
    refine h.of_wifi (l := .timeout) (.keep rfl rfl) ?_
    rw [hcheck]
    dsimp only
    split_ifs <;> rfl

end Owned

theorem owned_of_exec {ls : List CheckedLabel} {s : CheckedState} (h : checkedSystem.exec ls = some s) : Owned s := by
  apply checkedSystem.run_invariant (I := fun _ s => Owned s) _ _ ls s h
  · exact ⟨rfl, rfl⟩
  · exact fun _ _ _ _ hi hl => hi.step (CheckedState.next_eq_some.mp hl).2

theorem CheckedState.runCheck_isSome {s : CheckedState} (hin : s.check.holdsMtx = true) (hping : s.check ≠ .ping) :
    (s.runCheck s.check).isSome = true := by
  generalize hcheck : s.check = stmt at hin hping ⊢
  cases stmt <;> first | rfl | exact absurd rfl hping | cases hin

theorem State.runTask_isSome {s : State} (hin : s.task.holdsMtx = true) : (s.runTask s.task).isSome = true := by
  generalize htask : s.task = stmt at hin ⊢
  cases stmt <;> first | rfl | cases hin

/-- **One task inside.** In every interleaving the mutex is held exactly while one of the two tasks is inside its
critical section, and never by both; so no call of `esp_wifi_connect` by `reconnectTask` falls into a check, and no
ping and no disconnect of a check into an attempt. The task that is inside always has a next step. -/
theorem one_inside (ls : List CheckedLabel) (s : CheckedState) (h : checkedSystem.exec ls = some s) :
    (s.wifi.mtx = true ↔ s.wifi.task.holdsMtx = true ∨ s.check.holdsMtx = true) ∧
      ¬ (s.wifi.task.holdsMtx = true ∧ s.check.holdsMtx = true) ∧
      (∀ l s', l.IsConnect → s.next (.wifi l) = some s' → s.check.holdsMtx = false) ∧
      (∀ receivedCount s', s.next (.ping receivedCount) = some s' → s.wifi.task.holdsMtx = false) ∧
      (s.wifi.halted = false → s.wifi.task.holdsMtx = true → (s.next (.wifi (.task s.wifi.task))).isSome = true) ∧
      (s.wifi.halted = false → s.check.holdsMtx = true →
        if s.check = .ping then ∀ receivedCount, (s.next (.ping receivedCount)).isSome = true
        else (s.next (.check s.check)).isSome = true) := by
  have howned := owned_of_exec h
  have hnot : ¬ (s.wifi.task.holdsMtx = true ∧ s.check.holdsMtx = true) := by
    rw [← Bool.and_eq_true, howned.not_both]
    decide
  refine ⟨by rw [howned.mtx_eq, Bool.or_eq_true], hnot, ?_, ?_, ?_, ?_⟩
  · intro l s' hl hs
    obtain ⟨hstep, -⟩ := CheckedState.step_wifi (CheckedState.next_eq_some.mp hs).2
    have htask : s.wifi.task = .connect := by
      rcases hl with rfl | rfl
      · exact (State.step_task hstep).1
      · simpa [State.atErrorCheck] using (State.step_abort hstep).1
    rw [← Bool.not_eq_true]
    exact fun hcheck => hnot ⟨by rw [htask]; rfl, hcheck⟩
  · intro receivedCount s' hs
    obtain ⟨hping, -⟩ := CheckedState.step_ping (CheckedState.next_eq_some.mp hs).2
    rw [← Bool.not_eq_true]
    exact fun htask => hnot ⟨htask, by rw [hping]; rfl⟩
  · intro hrun hin
    simp only [CheckedState.next, hrun, CheckedState.step, State.step, if_true, Bool.false_eq_true, if_false,
      Option.isSome_map]
    exact State.runTask_isSome hin
  · intro hrun hin
    split_ifs with hping
    · intro receivedCount
      simp [CheckedState.next, hrun, CheckedState.step, hping]
    · simp only [CheckedState.next, hrun, CheckedState.step, if_true, Bool.false_eq_true, if_false]
      exact CheckedState.runCheck_isSome hin hping

/-- The check task is inside, and `reconnectTask` cannot enter. -/
theorem one_inside_ping :
    let run : List CheckedLabel := [.check .lock, .check .waitTest, .check .waitBlock, .checkTimeout,
      .check .waitTimedOut]
    ∃ s, checkedSystem.exec run = some s ∧ s.check = .ping ∧ s.wifi.task.holdsMtx = false ∧
      s.next (.wifi (.task .lock)) = none := by
  intro run
  refine ⟨_, rfl, rfl, ?_, rfl⟩
  exact (one_inside run _ rfl).2.2.2.1 0 _ rfl

/-! ## The check task as a caller of `reconnect()` -/

def CheckStmt.asCaller : CheckStmt → CallerStmt
  | .setState => .setState
  | .notify => .notify
  | _ => .idle

/-- The callers, with one more in front. -/
def consCaller (c : CallerStmt) (callers : Nat → CallerStmt) : Nat → CallerStmt
  | 0 => c
  | i + 1 => callers i

theorem update_consCaller_zero (c d : CallerStmt) (callers : Nat → CallerStmt) :
    Function.update (consCaller c callers) 0 d = consCaller d callers := by
  funext i
  cases i with
  | zero => exact Function.update_self ..
  | succ i => exact Function.update_of_ne (Nat.succ_ne_zero i) ..

theorem update_consCaller_succ (c d : CallerStmt) (callers : Nat → CallerStmt) (i : Nat) :
    Function.update (consCaller c callers) (i + 1) d = consCaller c (Function.update callers i d) := by
  funext j
  cases j with
  | zero => exact Function.update_of_ne (Nat.succ_ne_zero i).symm ..
  | succ j =>
    by_cases hj : j = i
    · subst hj
      show _ = Function.update callers j d j
      rw [Function.update_self, Function.update_self]
    · rw [Function.update_of_ne (fun h => hj (Nat.succ_inj.mp h))]
      exact (Function.update_of_ne hj ..).symm

def Party.shift : Party → Party
  | .caller i => .caller (i + 1)
  | p => p

/-- The step of the same party when there is one more caller in front. -/
def Label.shift : Label → Label
  | .call i c => .call (i + 1) c
  | .caller i stmt => .caller (i + 1) stmt
  | .abort p => .abort p.shift
  | l => l

/-- What the others see of the state: the mutex is taken by `reconnectTask` only. -/
def CheckedState.asWifi (s : CheckedState) : State :=
  { s.wifi with mtx := s.wifi.task.holdsMtx, callers := consCaller s.check.asCaller s.wifi.callers }

/-- What the others see of a step. -/
def CheckedLabel.asWifi : CheckedLabel → List Label
  | .wifi l => [l.shift]
  | .check .setState => [.caller 0 .setState]
  | .check .notify => [.caller 0 .notify]
  | .check _ => []
  | .checkTimeout => []
  | .ping receivedCount => if checkInternetConnectivity receivedCount then [] else [.call 0 .reconnect]

@[simp] theorem CheckStmt.asCaller_notified (c : CheckStmt) : c.notified.asCaller = c.asCaller := by
  cases c <;> rfl

/-- The steps of the other parties do not depend on who else is there. -/
theorem State.step_shift {s s' : State} {l : Label} (h : s.step l = some s') (c : CallerStmt) :
    ({ s with mtx := s.task.holdsMtx, callers := consCaller c s.callers } : State).step l.shift =
      some { s' with mtx := s'.task.holdsMtx, callers := consCaller c s'.callers } := by
  cases l with
  | task stmt =>
    obtain ⟨htask, hs⟩ := step_task h
    cases stmt
    all_goals simp only [runTask, Option.ite_none_left_eq_some, Option.some.injEq, Bool.not_eq_true] at hs
    case lock | firstRelock | secondRelock | secondTimedOut =>
      obtain ⟨-, rfl⟩ := hs
      simp [Label.shift, step, runTask, htask, TaskStmt.holdsMtx]
    all_goals
      subst hs
      simp only [Label.shift, step, runTask, htask, if_true, TaskStmt.holdsMtx]
    all_goals split_ifs <;> rfl
  | timeout =>
    obtain ⟨htask, rfl⟩ := step_timeout h
    simp [Label.shift, step, htask, TaskStmt.holdsMtx]
  | event e =>
    obtain ⟨hidle, rfl⟩ := step_event h
    simp [Label.shift, step, hidle]
  | handler stmt =>
    obtain ⟨hstmt, hs⟩ := step_handler h
    cases stmt
    all_goals simp only [runHandler, Option.some.injEq, reduceCtorEq] at hs
    all_goals
      subst hs
      simp [Label.shift, step, runHandler, notifyAll, hstmt]
  | call i call =>
    obtain ⟨hidle, rfl⟩ := step_call h
    simp [Label.shift, step, setCaller, consCaller, hidle, update_consCaller_succ]
  | caller i stmt =>
    obtain ⟨hstmt, hs⟩ := step_caller h
    cases stmt
    all_goals simp only [runCaller, Option.some.injEq, reduceCtorEq] at hs
    all_goals
      subst hs
      simp [Label.shift, step, runCaller, setCaller, notifyAll, consCaller, hstmt, update_consCaller_succ]
  | abort p =>
    obtain ⟨hcheck, rfl⟩ := step_abort h
    exact if_pos (by cases p <;> exact hcheck)

theorem CheckedState.asWifi_step {s s' : CheckedState} {l : CheckedLabel} (h : s.next l = some s') :
    l.asWifi.foldlM State.next s.asWifi = some s'.asWifi := by
  obtain ⟨hrun, hstep⟩ := next_eq_some.mp h
  cases l with
  | wifi l =>
    obtain ⟨hwifi, hcheck⟩ := step_wifi hstep
    have hcaller : s'.check.asCaller = s.check.asCaller := by
      rw [hcheck]
      split_ifs <;> simp
    have hnext : s.asWifi.next l.shift = some s'.asWifi := by
      refine State.next_eq_some.mpr ⟨hrun, ?_⟩
      unfold asWifi
      rw [hcaller]
      exact State.step_shift hwifi s.check.asCaller
    simpa [CheckedLabel.asWifi] using hnext
  | check stmt =>
    obtain ⟨hcheck, hs⟩ := step_check hstep
    cases stmt
    all_goals simp only [runCheck, Option.ite_none_left_eq_some, Option.some.injEq, Bool.not_eq_true, reduceCtorEq] at hs
    case lock | waitRelock | waitTimedOut =>
      obtain ⟨-, rfl⟩ := hs
      simp [CheckedLabel.asWifi, asWifi, hcheck, CheckStmt.asCaller]
    case waitTest =>
      subst hs
      simp only [CheckedLabel.asWifi, asWifi, hcheck]
      split_ifs <;> rfl
    case waitBlock | waitBlocked | unlock =>
      subst hs
      simp [CheckedLabel.asWifi, asWifi, hcheck, CheckStmt.asCaller]
    case setState | notify =>
      subst hs
      simp [CheckedLabel.asWifi, asWifi, State.next, State.step, State.runCaller, State.setCaller, State.notifyAll, hrun,
        hcheck, CheckStmt.asCaller, consCaller, update_consCaller_zero]
  | checkTimeout =>
    obtain ⟨hcheck, rfl⟩ := step_checkTimeout hstep
    simp [CheckedLabel.asWifi, asWifi, hcheck, CheckStmt.asCaller]
  | ping receivedCount =>
    obtain ⟨hcheck, rfl⟩ := step_ping hstep
    by_cases hreply : checkInternetConnectivity receivedCount = true
    · simp [CheckedLabel.asWifi, asWifi, hcheck, hreply, CheckStmt.asCaller]
    · simp [CheckedLabel.asWifi, asWifi, hcheck, hreply, State.next, State.step, State.setCaller, Call.firstStmt, hrun,
        CheckStmt.asCaller, consCaller, update_consCaller_zero]

def checkedSimulation : Simulation checkedSystem wifiSystem where
  abs := CheckedState.asWifi
  trace := CheckedLabel.asWifi
  Inv := fun _ => True
  inv_init := trivial
  abs_init := by
    have hcallers : consCaller .idle (fun _ => .idle) = fun _ => .idle := by
      funext i
      cases i <;> rfl
    show ({ State.init with mtx := false, callers := consCaller .idle fun _ => .idle } : State) = State.init
    rw [hcallers]
    rfl
  inv_step := fun _ _ _ _ _ => trivial
  abs_step := fun _ _ _ _ h => CheckedState.asWifi_step h

/-! ## The budget of attempts -/

/-- `reconnectTask` calls `esp_wifi_connect`. -/
def CheckedLabel.IsConnect : CheckedLabel → Prop
  | .wifi l => l.IsConnect
  | _ => False

/-- `wifi_reconnect_retry_count = 0` -/
def CheckedLabel.IsReset : CheckedLabel → Prop
  | .wifi l => l.IsReset
  | _ => False

instance : (l : CheckedLabel) → Decidable l.IsConnect
  | .wifi l => inferInstanceAs (Decidable l.IsConnect)
  | .check _ | .checkTimeout | .ping _ => inferInstanceAs (Decidable False)

instance : (l : CheckedLabel) → Decidable l.IsReset
  | .wifi l => inferInstanceAs (Decidable l.IsReset)
  | .check _ | .checkTimeout | .ping _ => inferInstanceAs (Decidable False)

theorem Label.isConnect_shift (l : Label) : l.shift.IsConnect ↔ l.IsConnect := by
  cases l with
  | abort p => cases p <;> simp [shift, Party.shift, IsConnect]
  | _ => simp [shift, IsConnect]

theorem Label.isReset_shift (l : Label) : l.shift.IsReset ↔ l.IsReset := by
  cases l <;> simp [shift, IsReset]

/-- The check task makes no attempts, and it resets nothing. -/
theorem CheckedLabel.countP_asWifi (l : CheckedLabel) :
    l.asWifi.countP (fun k => k.IsConnect) = if l.IsConnect then 1 else 0 := by
  cases l with
  | wifi l => by_cases h : l.IsConnect <;> simp [asWifi, IsConnect, Label.isConnect_shift, h]
  | check stmt => cases stmt <;> simp [asWifi, IsConnect, Label.IsConnect]
  | checkTimeout => rfl
  | ping receivedCount =>
    simp only [asWifi, IsConnect]
    split_ifs <;> simp [Label.IsConnect]

theorem countP_flatMap_asWifi (ls : List CheckedLabel) :
    (ls.flatMap CheckedLabel.asWifi).countP (fun k => k.IsConnect) = ls.countP (fun l => l.IsConnect) := by
  induction ls with
  | nil => rfl
  | cons l ls ih =>
    rw [List.flatMap_cons, List.countP_append, ih, CheckedLabel.countP_asWifi, List.countP_cons, Nat.add_comm]
    simp

theorem CheckedLabel.not_isReset_of_mem {l : CheckedLabel} (h : ¬ l.IsReset) : ∀ k ∈ l.asWifi, ¬ k.IsReset := by
  cases l with
  | wifi l => simpa [asWifi, IsReset, Label.isReset_shift] using h
  | check stmt => cases stmt <;> simp [asWifi, Label.IsReset]
  | checkTimeout => simp [asWifi]
  | ping receivedCount =>
    simp only [asWifi]
    split_ifs <;> simp [Label.IsReset]

/-- **Bounded attempts with the check task running.** However often the checks fail, and in every interleaving, the
counter and the delay stay within their bounds, and between two resets there are no more attempts than the maximum. -/
theorem connects_bounded_while_checked (ls : List CheckedLabel) (s : CheckedState)
    (h : checkedSystem.exec ls = some s) :
    (0 ≤ s.wifi.retryCount ∧ s.wifi.retryCount ≤ WIFI_RECONNECT_ATTEMPT_MAXIMUM_RETRY) ∧
      (10 ≤ s.wifi.backoffDelay ∧ s.wifi.backoffDelay ≤ 300) ∧
      ∀ pre mid, ls = pre ++ mid → (∀ l ∈ mid, ¬ l.IsReset) →
        (mid.countP (fun l => l.IsConnect) : Int) ≤ WIFI_RECONNECT_ATTEMPT_MAXIMUM_RETRY := by
  have hbudget : Budget _ s.asWifi := checkedSimulation.transfer (fun _ _ => budget_of_exec) h
  have hdelay : 10 ≤ s.asWifi.backoffDelay ∧ s.asWifi.backoffDelay ≤ 300 :=
    checkedSimulation.transfer (P := fun _ s => 10 ≤ s.backoffDelay ∧ s.backoffDelay ≤ 300)
      (fun _ _ => backoffDelay_of_exec) h
  refine ⟨⟨hbudget.count_nonneg, hbudget.count_le⟩, hdelay, ?_⟩
  rintro pre mid rfl hmid
  have hattempts := hbudget.attempts_le
  have hnone : ∀ k ∈ mid.flatMap CheckedLabel.asWifi, ¬ k.IsReset := by
    intro k hk
    obtain ⟨l, hl, hkl⟩ := List.mem_flatMap.mp hk
    exact CheckedLabel.not_isReset_of_mem (hmid l hl) k hkl
  rw [show checkedSimulation.trace = CheckedLabel.asWifi from rfl, List.flatMap_append,
    connectsSinceReset_append _ hnone, countP_flatMap_asWifi] at hattempts
  omega

/-- The wait of the check task ends in front of a ping, which is not answered. -/
def unansweredPing : List CheckedLabel :=
  [.check .lock, .check .waitTest, .check .waitBlock, .checkTimeout, .check .waitTimedOut, .ping 0]

/-- A check that fails, and the attempt after it. -/
theorem connects_bounded_while_checked_one_attempt :
    let run := unansweredPing ++ [.check .setState, .check .notify, .check .unlock, .wifi (.task .lock),
      .wifi (.task .firstTest), .wifi (.task .retryTest), .wifi (.task .connect)]
    ∃ s, checkedSystem.exec run = some s ∧ run.countP (fun l => l.IsConnect) = 1 ∧
      (run.countP (fun l => l.IsConnect) : Int) ≤ WIFI_RECONNECT_ATTEMPT_MAXIMUM_RETRY := by
  intro run
  refine ⟨_, rfl, rfl, ?_⟩
  exact (connects_bounded_while_checked run _ rfl).2.2 [] run rfl (by decide)

/-! ## The disconnect that a check sets -/

/-- The event handler sets another state. -/
def CheckedLabel.Overwrites (l : CheckedLabel) : Prop :=
  l = .wifi (.handler .startSetState) ∨ l = .wifi (.handler .gotIpSetState)

/-- The state is disconnected, and `reconnectTask` knows it or will be told by the check task. -/
structure Announced (s : CheckedState) : Prop where
  disconnected : s.wifi.wifi = .disconnected
  told : s.check = .notify ∨ s.wifi.task.inFirstWait = false

theorem State.wifi_of_step {s s' : State} {l : Label} (h : s.step l = some s') (hwifi : s.wifi = .disconnected)
    (hstart : l ≠ .handler .startSetState) (hgotIp : l ≠ .handler .gotIpSetState) : s'.wifi = .disconnected := by
  cases l with
  | task stmt =>
    obtain ⟨-, hs⟩ := step_task h
    cases stmt
    all_goals simp only [runTask, Option.ite_none_left_eq_some, Option.some.injEq] at hs
    all_goals grind
  | timeout => exact (step_timeout h).2 ▸ hwifi
  | event e => exact (step_event h).2 ▸ hwifi
  | handler stmt =>
    obtain ⟨-, hs⟩ := step_handler h
    cases stmt
    all_goals simp only [runHandler, Option.some.injEq, reduceCtorEq] at hs
    case startSetState => exact absurd rfl hstart
    case gotIpSetState => exact absurd rfl hgotIp
    all_goals
      subst hs
      first | rfl | exact hwifi
  | call i c => exact (step_call h).2 ▸ hwifi
  | caller i stmt =>
    obtain ⟨-, hs⟩ := step_caller h
    cases stmt
    all_goals simp only [runCaller, Option.some.injEq, reduceCtorEq] at hs
    all_goals
      subst hs
      first | rfl | exact hwifi
  | abort p => exact (step_abort h).2 ▸ hwifi

theorem TaskStmt.inFirstWait_notified {t : TaskStmt} (h : t ≠ .firstBlock) : t.notified.inFirstWait = false := by
  cases t <;> first | rfl | exact absurd rfl h

/-- A task that is not in its first wait does not enter it while the state is disconnected. -/
theorem State.inFirstWait_of_step {s s' : State} {l : Label} (h : s.step l = some s') (hwifi : s.wifi = .disconnected)
    (hout : s.task.inFirstWait = false) : s'.task.inFirstWait = false := by
  cases waitStep_of_step h with
  | test hne => exact absurd hwifi hne
  | block htask =>
    rw [htask] at hout
    cases hout
  | leave htask => exact htask
  | notify p _ htask _ _ =>
    rw [htask]
    apply TaskStmt.inFirstWait_notified
    intro hblock
    rw [hblock] at hout
    cases hout
  | quiet htask _ _ => rwa [htask]

theorem Announced.step {s s' : CheckedState} {l : CheckedLabel} (h : Announced s) (howned : Owned s)
    (hl : ¬ l.Overwrites) (hs : s.step l = some s') : Announced s' := by
  obtain ⟨hwifi, htold⟩ := h
  cases l with
  | wifi l =>
    obtain ⟨hstep, hcheck⟩ := CheckedState.step_wifi hs
    refine ⟨State.wifi_of_step hstep hwifi (fun h => hl (Or.inl (h ▸ rfl))) (fun h => hl (Or.inr (h ▸ rfl))), ?_⟩
    refine htold.imp (fun hnotify => ?_) (State.inFirstWait_of_step hstep hwifi)
    rw [hcheck, hnotify]
    exact ite_self _
  | check stmt =>
    obtain ⟨hcheck, hrun⟩ := CheckedState.step_check hs
    cases stmt
    all_goals simp only [CheckedState.runCheck, Option.ite_none_left_eq_some, Option.some.injEq, reduceCtorEq] at hrun
    case notify =>
      subst hrun
      refine ⟨hwifi, Or.inr (TaskStmt.inFirstWait_notified ?_)⟩
      -- the check task is inside, so `reconnectTask` is not between its test and the block
      intro hblock
      have hboth := howned.not_both
      rw [hblock, hcheck] at hboth
      cases hboth
    case setState =>
      subst hrun
      exact ⟨rfl, Or.inl rfl⟩
    case lock | waitRelock | waitTimedOut =>
      obtain ⟨-, rfl⟩ := hrun
      exact ⟨hwifi, Or.inr (htold.resolve_left (by rw [hcheck]; decide))⟩
    all_goals
      subst hrun
      exact ⟨hwifi, Or.inr (htold.resolve_left (by rw [hcheck]; decide))⟩
  | checkTimeout =>
    obtain ⟨hcheck, rfl⟩ := CheckedState.step_checkTimeout hs
    exact ⟨hwifi, Or.inr (htold.resolve_left (by rw [hcheck]; decide))⟩
  | ping receivedCount =>
    obtain ⟨hcheck, rfl⟩ := CheckedState.step_ping hs
    exact ⟨hwifi, Or.inr (htold.resolve_left (by rw [hcheck]; decide))⟩

/-- **A check is heard.** From the moment a check has set the state to DISCONNECTED, and until the event handler sets
another one, the check task is still in front of its `notify_all` or `reconnectTask` is not in its first wait, and
does not get back there: this disconnect is never lost, in no interleaving. -/
theorem check_is_heard (ls mid : List CheckedLabel) (s : CheckedState)
    (h : checkedSystem.exec (ls ++ .check .setState :: mid) = some s) (hmid : ∀ l ∈ mid, ¬ l.Overwrites) :
    s.wifi.wifi = .disconnected ∧ (s.check = .notify ∨ s.wifi.task.inFirstWait = false) := by
  rw [← List.singleton_append, ← List.append_assoc] at h
  obtain ⟨t', ht'⟩ := checkedSystem.exec_prefix h
  obtain ⟨t, ht, hset⟩ := checkedSystem.exec_concat_eq_some.mp ht'
  obtain ⟨-, hs⟩ := CheckedState.step_check (CheckedState.next_eq_some.mp hset).2
  obtain rfl := Option.some.inj hs
  have hstart : Announced ⟨{ t.wifi with wifi := .disconnected }, .notify⟩ := ⟨rfl, Or.inl rfl⟩
  have hend : Announced s ∧ Owned s := by
    refine checkedSystem.invariant_after (I := fun s => Announced s ∧ Owned s) ?_ ht'
      ⟨hstart, owned_of_exec ht'⟩ h hmid
    rintro s l s' ⟨hann, howned⟩ hl hnext
    have hstep := (CheckedState.next_eq_some.mp hnext).2
    exact ⟨hann.step howned hl hstep, howned.step hstep⟩
  exact ⟨hend.1.disconnected, hend.1.told⟩

/-- `reconnectTask` is blocked when the check begins, and finds the state disconnected. -/
theorem check_is_heard_woken :
    let run := [.wifi (.task .lock), .wifi (.task .firstTest), .wifi (.task .firstBlock)] ++ unansweredPing ++
      .check .setState :: [.check .notify, .check .unlock, .wifi (.task .firstRelock), .wifi (.task .firstTest)]
    ∃ s, checkedSystem.exec run = some s ∧ s.check = .lock ∧ s.wifi.task = .retryTest ∧
      (s.check = .notify ∨ s.wifi.task.inFirstWait = false) := by
  intro run
  refine ⟨_, rfl, rfl, rfl, ?_⟩
  refine (check_is_heard _ [.check .notify, .check .unlock, .wifi (.task .firstRelock), .wifi (.task .firstTest)] _
    (rfl : checkedSystem.exec run = _) ?_).2
  simp [CheckedLabel.Overwrites]

end MultisensorStation.Connectivity
