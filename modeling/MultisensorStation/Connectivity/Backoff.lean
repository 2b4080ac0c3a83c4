import MultisensorStation.Connectivity.RetryBudget
import Mathlib.Algebra.Group.Int.Defs

/-!
# The delay and the counter

`reconnectTask` keeps its delay in a local variable and resets it when it finds the state connected after an attempt;
`eventHandler` resets the counter whenever there is an IP.

* `backoff` : the delay that belongs to a value of the counter;
* `TaskStmt.phase`, `BackoffStep` : what a step can do to the counter, to the delay and to the part of the loop that
  the task is in;
* `InStep` : a reset of the counter comes where the task will still notice it, and the task notices it then;
* `Agrees` : what this keeps; `backoff_agrees` : then the delay of every attempt is that of the counter.
-/

namespace MultisensorStation.Connectivity
open MultisensorStation.Base

/-- `10 * 2 ^ r` seconds, 300 at most. -/
def backoff (r : Int) : Int := min (10 * 2 ^ r.toNat) 300

theorem backoff_zero : backoff 0 = 10 := rfl

theorem backoff_succ {r : Int} (h : 0 ≤ r) : backoff (r + 1) = min (backoff r * 2) 300 := by
  obtain ⟨n, rfl⟩ := Int.eq_ofNat_of_zero_le h
  have hsucc : ((n : Int) + 1).toNat = n + 1 := by omega
  unfold backoff
  rw [hsucc, Int.toNat_natCast, Int.pow_succ]
  omega

/-- The parts of the loop of `reconnectTask`. -/
inductive TaskPhase where
  /-- up to the end of the first wait -/
  | firstWait
  /-- up to the increment -/
  | attempt
  /-- up to the question whether the attempt was a success -/
  | secondWait
  | succeeded
  | failed
  | restarting
  deriving DecidableEq

def TaskStmt.phase : TaskStmt → TaskPhase
  | .unlock | .lock | .firstTest | .firstBlock | .firstBlocked | .firstRelock => .firstWait
  | .retryTest | .connect | .increment => .attempt
  | .secondTest | .secondBlock | .secondBlocked | .secondRelock | .secondTimedOut | .isConnected => .secondWait
  | .resetBackoff => .succeeded
  | .doubleBackoff => .failed
  | .setFailBit | .restart => .restarting

theorem TaskStmt.phase_notified (t : TaskStmt) : t.notified.phase = t.phase := by
  cases t <;> rfl

/-- The steps that end a part of the loop, the reset of the counter, and all others. -/
inductive BackoffStep (s : State) : Label → State → Prop where
  | wakeUp (hwifi : s.wifi = .disconnected) (hphase : s.task.phase = .firstWait) :
      BackoffStep s (.task .firstTest) { s with task := .retryTest }
  | giveUp {l : Label} {s' : State} (hphase : s'.task.phase = .restarting) (hcount : s'.retryCount = s.retryCount) :
      BackoffStep s l s'
  | increment (h : s.task = .increment) :
      BackoffStep s (.task .increment) { s with retryCount := s.retryCount + 1, task := .secondTest }
  | isConnected (h : s.task = .isConnected) : BackoffStep s (.task .isConnected)
      { s with task := if s.wifi = .connected then .resetBackoff else .doubleBackoff }
  | resetBackoff (h : s.task = .resetBackoff) :
      BackoffStep s (.task .resetBackoff) { s with backoffDelay := 10, task := .unlock }
  | doubleBackoff (h : s.task = .doubleBackoff) : BackoffStep s (.task .doubleBackoff)
      { s with backoffDelay := min (s.backoffDelay * 2) 300, task := .unlock }
  | reset (h : s.handler = .gotIpResetCount) :
      BackoffStep s (.handler .gotIpResetCount) { s with retryCount := 0, handler := .gotIpSetBits }
  | within {l : Label} {s' : State} (hphase : s'.task.phase = s.task.phase) (hcount : s'.retryCount = s.retryCount)
      (hdelay : s'.backoffDelay = s.backoffDelay)
      (hhandler : s.handler = .gotIpResetCount → s'.handler = .gotIpResetCount) : BackoffStep s l s'

namespace State
variable {s s' : State}

theorem backoffStep_of_runTask {stmt : TaskStmt} (htask : s.task = stmt) (h : s.runTask stmt = some s') :
    BackoffStep s (.task stmt) s' := by
  cases stmt
  all_goals simp only [runTask, Option.ite_none_left_eq_some, Option.some.injEq] at h
  case firstTest =>
    by_cases hwifi : s.wifi = .disconnected
    · rw [if_pos hwifi] at h
      exact h ▸ .wakeUp hwifi (htask ▸ rfl)
    · rw [if_neg hwifi] at h
      exact h ▸ .within (htask ▸ rfl) rfl rfl id
  case retryTest =>
    by_cases hcount : s.retryCount < WIFI_RECONNECT_ATTEMPT_MAXIMUM_RETRY
    · rw [if_pos hcount] at h
      exact h ▸ .within (htask ▸ rfl) rfl rfl id
    · rw [if_neg hcount] at h
      exact h ▸ .giveUp rfl rfl
  case increment => exact h ▸ .increment htask
  case setFailBit => exact h ▸ .giveUp rfl rfl
  case restart => exact h ▸ .giveUp (htask ▸ rfl) rfl
  case isConnected => exact h ▸ .isConnected htask
  case resetBackoff => exact h ▸ .resetBackoff htask
  case doubleBackoff => exact h ▸ .doubleBackoff htask
  case secondTest =>
    subst h
    refine .within ?_ rfl rfl id
    rw [htask]
    dsimp only
    split <;> rfl
  case lock | firstRelock | secondRelock | secondTimedOut => exact h.2 ▸ .within (htask ▸ rfl) rfl rfl id
  case connect | firstBlock | firstBlocked | secondBlock | secondBlocked | unlock =>
    exact h ▸ .within (htask ▸ rfl) rfl rfl id

/-- The others leave the task where it is in its loop. -/
theorem OthersStep.phase {l : Label} (h : OthersStep s l s') : s'.task.phase = s.task.phase := by
  rcases h.task with hsame | hnotified | ⟨hblocked, htimeout⟩
  · rw [hsame]
  · rw [hnotified, TaskStmt.phase_notified]
  · rw [hblocked, htimeout]
    rfl

theorem backoffStep_of_others {l : Label} (hl : l.taskStmt = none) (h : s.step l = some s') : BackoffStep s l s' := by
  by_cases hreset : l.IsReset
  · obtain rfl := hreset
    obtain ⟨hstmt, rfl⟩ := step_reset h
    exact .reset hstmt
  · have hothers := othersStep_of_step hl h
    refine .within hothers.phase (hothers.retryCount hreset) hothers.backoffDelay ?_
    intro hpending
    rcases hothers.handler with hsame | hidle | hown
    · rw [hsame, hpending]
    · rw [hidle] at hpending
      cases hpending
    · rw [hpending] at hown
      exact absurd hown hreset

theorem backoffStep_of_step {l : Label} (h : s.step l = some s') : BackoffStep s l s' := by
  cases l with
  | task stmt =>
    obtain ⟨htask, hs⟩ := step_task h
    exact backoffStep_of_runTask htask hs
  | _ => exact backoffStep_of_others rfl h

end State

/-! ## Resets that the task notices -/

/-- Where the counter can be reset without the delay falling behind. -/
def ResetInStep (s : State) : Prop :=
  match s.task.phase with
  | .firstWait => s.backoffDelay = 10
  | .attempt | .failed => s.retryCount = 0
  | .secondWait | .succeeded | .restarting => True

instance (s : State) : Decidable (ResetInStep s) := by
  unfold ResetInStep
  split <;> infer_instance

/-- The delay and the counter are reset together: a reset of the counter comes in the second wait, or where it finds
the other one reset; the task then finds the state connected, and does not without a reset; and no attempt starts
between `setState(CONNECTED)` and the reset. -/
structure InStep (s : State) (l : Label) : Prop where
  reset : l = .handler .gotIpResetCount → ResetInStep s
  connected : l = .task .isConnected → s.wifi = .connected → s.retryCount = 0 ∨ s.handler = .gotIpResetCount
  notConnected : l = .task .isConnected → s.wifi ≠ .connected → s.retryCount ≠ 0
  wakeUp : l = .task .firstTest → s.wifi = .disconnected → s.handler ≠ .gotIpResetCount

theorem inStep_iff {s : State} {l : Label} : InStep s l ↔ (l = .handler .gotIpResetCount → ResetInStep s) ∧
    (l = .task .isConnected → s.wifi = .connected → s.retryCount = 0 ∨ s.handler = .gotIpResetCount) ∧
    (l = .task .isConnected → s.wifi ≠ .connected → s.retryCount ≠ 0) ∧
    (l = .task .firstTest → s.wifi = .disconnected → s.handler ≠ .gotIpResetCount) :=
  ⟨fun h => ⟨h.1, h.2, h.3, h.4⟩, fun h => ⟨h.1, h.2.1, h.2.2.1, h.2.2.2⟩⟩

instance (s : State) (l : Label) : Decidable (InStep s l) := decidable_of_iff _ inStep_iff.symm

/-- What the delay and the counter have to do with each other in the parts of the loop. -/
def DelayAgrees (s : State) : TaskPhase → Prop
  -- the handler may still have to reset the counter
  | .firstWait => s.backoffDelay = backoff s.retryCount ∨ (s.backoffDelay = 10 ∧ s.handler = .gotIpResetCount)
  | .attempt => s.backoffDelay = backoff s.retryCount
  | .secondWait => s.retryCount = 0 ∨ s.backoffDelay = backoff (s.retryCount - 1)
  | .succeeded => s.retryCount = 0 ∨ s.handler = .gotIpResetCount
  | .failed => s.retryCount ≠ 0 ∧ s.backoffDelay = backoff (s.retryCount - 1)
  | .restarting => True

structure Agrees (s : State) : Prop where
  count_nonneg : 0 ≤ s.retryCount
  delay : DelayAgrees s s.task.phase

/-- A step within a part of the loop. -/
theorem DelayAgrees.within {s s' : State} {phase : TaskPhase} (h : DelayAgrees s phase)
    (hcount : s'.retryCount = s.retryCount) (hdelay : s'.backoffDelay = s.backoffDelay)
    (hhandler : s.handler = .gotIpResetCount → s'.handler = .gotIpResetCount) : DelayAgrees s' phase := by
  cases phase with
  | firstWait =>
    rw [DelayAgrees, hcount, hdelay]
    exact h.imp id (And.imp id hhandler)
  | attempt =>
    rw [DelayAgrees, hcount, hdelay]
    exact h
  | secondWait =>
    rw [DelayAgrees, hcount, hdelay]
    exact h
  | succeeded =>
    rw [DelayAgrees, hcount]
    exact h.imp id hhandler
  | failed =>
    rw [DelayAgrees, hcount, hdelay]
    exact h
  | restarting => trivial

/-- After a reset the delay has to be that of a counter of 0. -/
theorem DelayAgrees.reset {s : State} (h : DelayAgrees s s.task.phase) (hreset : ResetInStep s) :
    DelayAgrees { s with retryCount := 0, handler := .gotIpSetBits } s.task.phase := by
  unfold ResetInStep at hreset
  cases hphase : s.task.phase <;> rw [hphase] at h hreset
  case firstWait => exact Or.inl hreset
  case attempt =>
    have hdelay : s.backoffDelay = backoff s.retryCount := h
    rw [hreset] at hdelay
    exact hdelay
  case secondWait => exact Or.inl rfl
  case succeeded => exact Or.inl rfl
  case failed => exact absurd hreset h.1
  case restarting => trivial

theorem Agrees.step {s s' : State} {l : Label} (h : Agrees s) (hl : InStep s l) (hs : BackoffStep s l s') :
    Agrees s' := by
  obtain ⟨hnonneg, hdelay⟩ := h
  cases hs with
  | wakeUp hwifi hphase =>
    rw [hphase] at hdelay
    refine ⟨hnonneg, ?_⟩
    rcases hdelay with hagree | ⟨-, hpending⟩
    · exact hagree
    · exact absurd hpending (hl.wakeUp rfl hwifi)
  | giveUp hphase hcount =>
    refine ⟨hcount ▸ hnonneg, ?_⟩
    rw [hphase]
    trivial
  | increment ht =>
    rw [ht] at hdelay
    have hsame : s.backoffDelay = backoff s.retryCount := hdelay
    refine ⟨Int.add_nonneg hnonneg (by decide), Or.inr ?_⟩
    show s.backoffDelay = backoff (s.retryCount + 1 - 1)
    rw [hsame, Int.add_sub_cancel]
  | isConnected ht =>
    rw [ht] at hdelay
    refine ⟨hnonneg, ?_⟩
    by_cases hwifi : s.wifi = .connected
    · rw [if_pos hwifi]
      exact hl.connected rfl hwifi
    · rw [if_neg hwifi]
      have hcount := hl.notConnected rfl hwifi
      exact ⟨hcount, hdelay.resolve_left hcount⟩
  | resetBackoff ht =>
    rw [ht] at hdelay
    refine ⟨hnonneg, ?_⟩
    rcases hdelay with hcount | hpending
    · left
      show 10 = backoff s.retryCount
      rw [hcount, backoff_zero]
    · exact Or.inr ⟨rfl, hpending⟩
  | doubleBackoff ht =>
    rw [ht] at hdelay
    obtain ⟨hcount, hsame⟩ := hdelay
    refine ⟨hnonneg, Or.inl ?_⟩
    show min (s.backoffDelay * 2) 300 = backoff s.retryCount
    rw [hsame, ← backoff_succ (by omega), Int.sub_add_cancel]
  | reset ht => exact ⟨Int.le_refl 0, hdelay.reset (hl.reset rfl)⟩
  | within hphase hcount hsame hhandler =>
    refine ⟨hcount ▸ hnonneg, ?_⟩
    rw [hphase]
    exact hdelay.within hcount hsame hhandler

/-- **When the delay is that of the counter.** In every run in which the counter and the delay are reset together,
`reconnectTask` stands in front of `esp_wifi_connect` only with the delay that belongs to the counter. -/
theorem backoff_agrees (ls : List Label) (s : State) (h : wifiSystem.exec ls = some s)
    (hinStep : wifiSystem.Meets InStep ls) (hconnect : s.task = .connect) :
    s.backoffDelay = min (10 * 2 ^ s.retryCount.toNat) 300 := by
  have hagrees : Agrees s := by
    apply wifiSystem.run_invariant_of_meets (I := fun _ s => Agrees s) _ _ ls s h hinStep
    · exact ⟨Int.le_refl 0, Or.inl rfl⟩
    · intro ls s l s' hi hC hs
      exact hi.step hC (State.backoffStep_of_step (State.next_eq_some.mp hs).2)
  have hdelay := hagrees.delay
  rw [hconnect] at hdelay
  exact hdelay

/-- The wake-up and the test of the counter. -/
def wakeUp : List Label := [.task .lock, .task .firstTest, .task .retryTest]

/-- An attempt that ends with an IP. -/
def goodAttempt : List Label :=
  wakeUp ++ [.task .connect, .task .increment, .task .secondTest, .task .secondBlock] ++ gotIp ++
    [.task .secondRelock, .task .secondTest, .task .isConnected, .task .resetBackoff, .task .unlock]

def disconnect : List Label := [.event .staDisconnected, .handler .disconnectedSetState, .handler .disconnectedNotify]

/-- Two failed attempts and a good one, and a failed one after the next disconnect. -/
theorem backoff_agrees_four_attempts :
    let run := firstDisconnect ++ failedAttempt ++ failedAttempt ++ goodAttempt ++ disconnect ++ failedAttempt ++ wakeUp
    ∃ s, wifiSystem.exec run = some s ∧ s.task = .connect ∧ s.retryCount = 1 ∧
      s.backoffDelay = min (10 * 2 ^ s.retryCount.toNat) 300 := by
  intro run
  have hend : (wifiSystem.exec run).map (fun s => (s.task, s.retryCount)) = some (.connect, 1) := by decide
  obtain ⟨s, hs, htask⟩ := Option.map_eq_some_iff.mp hend
  obtain ⟨htask, hcount⟩ := Prod.mk.inj htask
  have hinStep : wifiSystem.Meets InStep run := wifiSystem.meets_of_forall_take (by decide)
  exact ⟨s, hs, htask, hcount, backoff_agrees run s hs hinStep htask⟩

/-- The IP comes after the second wait has timed out: the counter starts again, and the delay does not. -/
theorem delay_left_behind :
    let run := firstDisconnect ++ failedAttempt ++ gotIp ++ disconnect ++ wakeUp
    (wifiSystem.exec run).map (fun s => (s.task, s.retryCount, s.backoffDelay)) = some (.connect, 0, 20) ∧
      (20 : Int) ≠ min (10 * 2 ^ (0 : Int).toNat) 300 := by
  decide

end MultisensorStation.Connectivity
