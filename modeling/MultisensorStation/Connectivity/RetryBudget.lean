import MultisensorStation.Connectivity.WifiManager

/-!
# The budget of reconnect attempts

* `RetryStep` : what a step can do to the counter and to `reconnectTask` between its test of the counter and its
  second wait;
* `Budget` : the counter is never behind the attempts since its last reset; `connects_bounded`;
* `Spent` : it is not ahead of them either while no reset lands inside an attempt (`CleanReset`);
  `restart_after_budget`.
-/

namespace MultisensorStation.Connectivity
open MultisensorStation.Base

/-- Behind the test of the counter, in front of the second wait. -/
def TaskStmt.inAttempt : TaskStmt → Bool
  | .connect | .increment | .setFailBit | .restart => true
  | _ => false

theorem TaskStmt.inAttempt_notified (t : TaskStmt) :
    t.notified = t ∨ (t.inAttempt = false ∧ t.notified.inAttempt = false) := by
  cases t <;> simp [notified, inAttempt]

/-- The statements of an attempt, the reset, and the other steps of the task and of the others. -/
inductive RetryStep (s : State) : Label → State → Prop where
  | retryTest (h : s.task = .retryTest) : RetryStep s (.task .retryTest)
      { s with task := if s.retryCount < WIFI_RECONNECT_ATTEMPT_MAXIMUM_RETRY then .connect else .setFailBit }
  | connect (h : s.task = .connect) : RetryStep s (.task .connect) { s with task := .increment }
  | increment (h : s.task = .increment) :
      RetryStep s (.task .increment) { s with retryCount := s.retryCount + 1, task := .secondTest }
  | setFailBit (h : s.task = .setFailBit) :
      RetryStep s (.task .setFailBit) { s with failBit := true, task := .restart }
  | restart (h : s.task = .restart) : RetryStep s (.task .restart) { s with halted := true }
  | connectFails (h : s.task = .connect) : RetryStep s (.abort .task) { s with halted := true }
  | elsewhere {stmt : TaskStmt} {s' : State} (h : s.task = stmt) (hstmt : stmt.inAttempt = false)
      (htask : s'.task.inAttempt = false) (hcount : s'.retryCount = s.retryCount) : RetryStep s (.task stmt) s'
  | reset : RetryStep s (.handler .gotIpResetCount) { s with retryCount := 0, handler := .gotIpSetBits }
  | others {l : Label} {s' : State} (hl : l.taskStmt = none) (hreset : ¬ l.IsReset) (hconnect : ¬ l.IsConnect)
      (htask : s'.task = s.task ∨ (s.task.inAttempt = false ∧ s'.task.inAttempt = false))
      (hcount : s'.retryCount = s.retryCount) : RetryStep s l s'

namespace State
variable {s s' : State}

theorem retryStep_of_runTask {stmt : TaskStmt} (htask : s.task = stmt) (h : s.runTask stmt = some s') :
    RetryStep s (.task stmt) s' := by
  cases stmt
  all_goals simp only [runTask, Option.ite_none_left_eq_some, Option.some.injEq] at h
  case retryTest => exact h ▸ .retryTest htask
  case connect => exact h ▸ .connect htask
  case increment => exact h ▸ .increment htask
  case setFailBit => exact h ▸ .setFailBit htask
  case restart => exact h ▸ .restart htask
  all_goals
    apply RetryStep.elsewhere htask rfl
    all_goals grind [TaskStmt.inAttempt]

/-- The others neither take the task into an attempt nor out of one. -/
theorem OthersStep.inAttempt {l : Label} (h : OthersStep s l s') :
    s'.task = s.task ∨ (s.task.inAttempt = false ∧ s'.task.inAttempt = false) := by
  rcases h.task with hsame | hnotified | ⟨hblocked, htimeout⟩
  · exact Or.inl hsame
  · exact hnotified ▸ s.task.inAttempt_notified
  · exact Or.inr ⟨hblocked ▸ rfl, htimeout ▸ rfl⟩

theorem retryStep_of_step {l : Label} (h : s.step l = some s') : RetryStep s l s' := by
  cases hl : l.taskStmt with
  | some stmt =>
    obtain rfl : l = .task stmt := by
      cases l
      case task stmt' => exact congrArg Label.task (Option.some.inj hl)
      all_goals cases hl
    obtain ⟨htask, hs⟩ := step_task h
    exact retryStep_of_runTask htask hs
  | none =>
    by_cases hreset : l.IsReset
    · obtain rfl := hreset
      obtain ⟨-, rfl⟩ := step_reset h
      exact .reset
    · by_cases habort : l = .abort .task
      · obtain rfl := habort
        obtain ⟨hcheck, rfl⟩ := step_abort h
        exact .connectFails (by simpa [atErrorCheck] using hcheck)
      · have hothers := othersStep_of_step hl h
        refine .others hl hreset ?_ hothers.inAttempt (hothers.retryCount hreset)
        rintro (rfl | rfl)
        · cases hl
        · exact habort rfl

/-- Where a step does not touch an attempt, the task is at the same statement of it before and after. -/
theorem task_eq_iff (h : s'.task = s.task ∨ (s.task.inAttempt = false ∧ s'.task.inAttempt = false))
    (t : TaskStmt) (ht : t.inAttempt = true) : s'.task = t ↔ s.task = t := by
  rcases h with hsame | ⟨hout, hout'⟩
  · rw [hsame]
  · constructor
    · rintro rfl
      rw [ht] at hout'
      cases hout'
    · rintro rfl
      rw [ht] at hout
      cases hout

end State

theorem TaskStmt.ne_connect_of_inAttempt {stmt : TaskStmt} (h : stmt.inAttempt = false) : stmt ≠ .connect := by
  rintro rfl
  cases h

/-! ## The counter is not behind the attempts -/

/-- `attempts` is the number of attempts since the last reset. -/
structure Budget (attempts : Nat) (s : State) : Prop where
  count_nonneg : 0 ≤ s.retryCount
  count_le : s.retryCount ≤ WIFI_RECONNECT_ATTEMPT_MAXIMUM_RETRY
  count_lt : s.task = .connect ∨ s.task = .increment → s.retryCount < WIFI_RECONNECT_ATTEMPT_MAXIMUM_RETRY
  attempts_le : (attempts : Int) ≤ WIFI_RECONNECT_ATTEMPT_MAXIMUM_RETRY
  attempts_le_count : s.halted = false →
    (attempts : Int) ≤ s.retryCount + if s.task = .increment then 1 else 0

theorem budget_zero {s : State} (h : s.retryCount = 0) : Budget 0 s := by
  refine ⟨Int.le_of_eq h.symm, ?_, fun _ => ?_, by decide, fun _ => ?_⟩
  · rw [h]
    decide
  · rw [h]
    decide
  · rw [h]
    split_ifs <;> decide

/-- A step that leaves the counter alone and does not enter or go on with an attempt. -/
theorem Budget.keep {a : Nat} {s s' : State} (h : Budget a s) (hrun : s.halted = false)
    (hcount : s'.retryCount = s.retryCount)
    (htask : s'.task = s.task ∨ (s.task.inAttempt = false ∧ s'.task.inAttempt = false)) : Budget a s' := by
  refine ⟨hcount ▸ h.count_nonneg, hcount ▸ h.count_le, ?_, h.attempts_le, fun _ => ?_⟩
  · rw [hcount, State.task_eq_iff htask .connect rfl, State.task_eq_iff htask .increment rfl]
    exact h.count_lt
  · simp only [hcount, State.task_eq_iff htask .increment rfl]
    exact h.attempts_le_count hrun

theorem Budget.step {a : Nat} {s s' : State} {l : Label} (h : Budget a s) (hrun : s.halted = false)
    (hs : RetryStep s l s') : Budget (countConnect a l) s' := by
  have hcount := h.attempts_le_count hrun
  have hnonneg := h.count_nonneg
  have hle := h.count_le
  cases hs with
  | retryTest ht =>
    rw [if_neg (by rw [ht]; decide)] at hcount
    rw [countConnect_task _ (by decide)]
    refine ⟨hnonneg, hle, ?_, h.attempts_le, ?_⟩
    · intro ht'
      by_contra hge
      simp [if_neg hge] at ht'
    · intro _
      dsimp only
      split_ifs <;> omega
  | connect ht =>
    have hlt := h.count_lt (Or.inl ht)
    rw [if_neg (by rw [ht]; decide)] at hcount
    rw [countConnect_of_isConnect _ (Or.inl rfl)]
    exact ⟨hnonneg, hle, fun _ => hlt, by omega, fun _ => by simp; omega⟩
  | increment ht =>
    have hlt := h.count_lt (Or.inr ht)
    rw [if_pos ht] at hcount
    rw [countConnect_task _ (by decide)]
    exact ⟨by simp; omega, by simp; omega, by simp, h.attempts_le, fun _ => by simp; omega⟩
  | setFailBit ht =>
    rw [if_neg (by rw [ht]; decide)] at hcount
    rw [countConnect_task _ (by decide)]
    exact ⟨hnonneg, hle, by simp, h.attempts_le, fun _ => by simp; omega⟩
  | restart ht =>
    rw [countConnect_task _ (by decide)]
    exact ⟨hnonneg, hle, h.count_lt, h.attempts_le, by simp⟩
  | connectFails ht =>
    have hlt := h.count_lt (Or.inl ht)
    rw [if_neg (by rw [ht]; decide)] at hcount
    rw [countConnect_of_isConnect _ (Or.inr rfl)]
    exact ⟨hnonneg, hle, h.count_lt, by omega, by simp⟩
  | elsewhere ht hstmt htask hcnt =>
    rw [countConnect_task _ (TaskStmt.ne_connect_of_inAttempt hstmt)]
    exact h.keep hrun hcnt (Or.inr ⟨ht ▸ hstmt, htask⟩)
  | reset =>
    rw [countConnect_of_isReset _ rfl]
    exact budget_zero rfl
  | others hl hreset hconnect htask hcnt =>
    rw [countConnect_of_not _ hreset hconnect]
    exact h.keep hrun hcnt htask

theorem budget_of_exec {ls : List Label} {s : State} (h : wifiSystem.exec ls = some s) :
    Budget (connectsSinceReset ls) s := by
  apply wifiSystem.run_invariant (I := fun ls s => Budget (connectsSinceReset ls) s) _ _ ls s h
  · exact budget_zero rfl
  · intro ls s l s' hb hs
    obtain ⟨hrun, hstep⟩ := State.next_eq_some.mp hs
    rw [connectsSinceReset_concat]
    exact hb.step hrun (State.retryStep_of_step hstep)

/-! ## The delay -/

theorem State.backoffDelay_step {s s' : State} {l : Label} (h : s.step l = some s') :
    s'.backoffDelay = s.backoffDelay ∨ s'.backoffDelay = 10 ∨ s'.backoffDelay = min (s.backoffDelay * 2) 300 := by
  cases l with
  | task stmt =>
    obtain ⟨-, hs⟩ := step_task h
    cases stmt
    all_goals simp only [runTask, Option.ite_none_left_eq_some, Option.some.injEq] at hs
    all_goals grind
  | _ => exact Or.inl (othersStep_of_step rfl h).backoffDelay

theorem backoffDelay_of_exec {ls : List Label} {s : State} (h : wifiSystem.exec ls = some s) :
    10 ≤ s.backoffDelay ∧ s.backoffDelay ≤ 300 := by
  apply wifiSystem.run_invariant (I := fun _ s => 10 ≤ s.backoffDelay ∧ s.backoffDelay ≤ 300) _ _ ls s h
  · exact ⟨by decide, by decide⟩
  · intro ls s l s' hb hs
    rcases State.backoffDelay_step (State.next_eq_some.mp hs).2 with h | h | h <;> omega

/-! ## The way to the restart -/

/-- The statements that `reconnectTask` has executed since it stood at `.setFailBit`, and where it is now. -/
inductive Restarting : List TaskStmt → State → Prop where
  | setFailBit {s : State} (h : s.task = .setFailBit) : Restarting [] s
  | restart {s : State} (h : s.task = .restart) : Restarting [.setFailBit] s
  | restarted {s : State} (h : s.halted = true) : Restarting [.setFailBit, .restart] s

theorem Restarting.step {stmts : List TaskStmt} {s s' : State} {l : Label} (h : Restarting stmts s)
    (hrun : s.halted = false) (hs : RetryStep s l s') : Restarting (stmts ++ l.taskStmt.toList) s' := by
  cases h with
  | setFailBit ht =>
    cases hs with
    | setFailBit => exact .restart rfl
    | others hl hreset hconnect htask hcnt =>
      rw [hl]
      exact .setFailBit ((State.task_eq_iff htask .setFailBit rfl).mpr ht)
    | reset => exact .setFailBit ht
    | elsewhere h hstmt => simp [← h, ht, TaskStmt.inAttempt] at hstmt
    | retryTest h | connect h | increment h | restart h | connectFails h => simp [ht] at h
  | restart ht =>
    cases hs with
    | restart => exact .restarted rfl
    | others hl hreset hconnect htask hcnt =>
      rw [hl]
      exact .restart ((State.task_eq_iff htask .restart rfl).mpr ht)
    | reset => exact .restart ht
    | elsewhere h hstmt => simp [← h, ht, TaskStmt.inAttempt] at hstmt
    | retryTest h | connect h | increment h | setFailBit h | connectFails h => simp [ht] at h
  | restarted hh => simp [hrun] at hh

theorem Restarting.prefix_of {stmts : List TaskStmt} {s : State} (h : Restarting stmts s) :
    stmts <+: [.setFailBit, .restart] := by
  cases h with
  | setFailBit => exact List.nil_prefix
  | restart => exact ⟨[.restart], rfl⟩
  | restarted => exact List.prefix_rfl

theorem restarting_of_exec {ls : List Label} {s : State} (hs : wifiSystem.exec ls = some s)
    (ht : s.task = .setFailBit) (post : List Label) :
    ∀ s', wifiSystem.exec (ls ++ post) = some s' → Restarting (post.filterMap Label.taskStmt) s' := by
  induction post using List.reverseRecOn with
  | nil =>
    intro s' hs'
    rw [List.append_nil, hs, Option.some.injEq] at hs'
    exact hs' ▸ .setFailBit ht
  | append_singleton post l ih =>
    intro s'' hs''
    rw [← List.append_assoc] at hs''
    obtain ⟨s', hs', hnext⟩ := wifiSystem.exec_concat_eq_some.mp hs''
    obtain ⟨hrun, hstep⟩ := State.next_eq_some.mp hnext
    have hmore := (ih s' hs').step hrun (State.retryStep_of_step hstep)
    rw [List.filterMap_append]
    cases hl : l.taskStmt with
    | none => simpa [hl] using hmore
    | some stmt => simpa [hl] using hmore

/-- Until the device halts the next of these statements can be executed, and the second one halts it. -/
theorem Restarting.goes_on {stmts : List TaskStmt} {s : State} (h : Restarting stmts s) (hrun : s.halted = false) :
    ∃ s', s.next (.task s.task) = some s' ∧ (s.task = .restart → s'.halted = true) := by
  have hnext : s.next (.task s.task) = s.runTask s.task := by
    rw [State.next, hrun, if_neg Bool.false_ne_true, State.step, if_pos rfl]
  rw [hnext]
  cases h with
  | setFailBit ht =>
    rw [ht]
    exact ⟨_, rfl, fun heq => nomatch heq⟩
  | restart ht =>
    rw [ht]
    exact ⟨_, rfl, fun _ => rfl⟩
  | restarted hhalt => simp [hrun] at hhalt

/-- **Bounded attempts.** In every reachable state the counter and the delay are within their bounds; between two
resets there are no more attempts than the maximum. Once there were that many, the next wake-up leads to the restart:
from its test of the counter on the task stands at `.setFailBit`, then at `.restart`, until the device halts; it can go
on from there whatever the others do, and `.restart` halts. -/
theorem connects_bounded (ls : List Label) (s : State) (h : wifiSystem.exec ls = some s) :
    (0 ≤ s.retryCount ∧ s.retryCount ≤ WIFI_RECONNECT_ATTEMPT_MAXIMUM_RETRY) ∧
      (10 ≤ s.backoffDelay ∧ s.backoffDelay ≤ 300) ∧
      (∀ pre mid, ls = pre ++ mid → (∀ l ∈ mid, ¬ l.IsReset) →
        (mid.countP (fun l => l.IsConnect) : Int) ≤ WIFI_RECONNECT_ATTEMPT_MAXIMUM_RETRY) ∧
      ∀ pre mid post, ls = pre ++ mid ++ .task .retryTest :: post → (∀ l ∈ mid, ¬ l.IsReset) →
        (mid.countP (fun l => l.IsConnect) : Int) = WIFI_RECONNECT_ATTEMPT_MAXIMUM_RETRY →
          post.filterMap Label.taskStmt <+: [.setFailBit, .restart] ∧ Restarting (post.filterMap Label.taskStmt) s ∧
            (s.halted = false → ∃ s', s.next (.task s.task) = some s' ∧ (s.task = .restart → s'.halted = true)) := by
  have hb := budget_of_exec h
  refine ⟨⟨hb.count_nonneg, hb.count_le⟩, backoffDelay_of_exec h, ?_, ?_⟩
  · rintro pre mid rfl hmid
    have hattempts := hb.attempts_le
    rw [connectsSinceReset_append pre hmid] at hattempts
    omega
  · rintro pre mid post rfl hmid hspent
    rw [← List.singleton_append, ← List.append_assoc] at h
    obtain ⟨t', ht'⟩ := wifiSystem.exec_prefix h
    obtain ⟨t, ht, hnext⟩ := wifiSystem.exec_concat_eq_some.mp ht'
    obtain ⟨hrun, hstep⟩ := State.next_eq_some.mp hnext
    obtain ⟨htest, hs⟩ := State.step_task hstep
    -- all attempts are used up, so the counter has reached its maximum
    have hcount := (budget_of_exec ht).attempts_le_count hrun
    rw [connectsSinceReset_append pre hmid, if_neg (by rw [htest]; decide)] at hcount
    have hfail : t'.task = .setFailBit := by
      rw [State.runTask, if_neg (by omega)] at hs
      rw [← Option.some.inj hs]
    have hrestarting := restarting_of_exec ht' hfail post s h
    exact ⟨hrestarting.prefix_of, hrestarting, hrestarting.goes_on⟩

/-- `STA_START`, and a first connection that fails. -/
def firstDisconnect : List Label :=
  [.event .staStart, .handler .startSetState, .handler .startConnect,
    .event .staDisconnected, .handler .disconnectedSetState, .handler .disconnectedNotify]

/-- A wake-up, an attempt, and a second wait that times out. -/
def failedAttempt : List Label :=
  [.task .lock, .task .firstTest, .task .retryTest, .task .connect, .task .increment, .task .secondTest,
    .task .secondBlock, .timeout, .task .secondTimedOut, .task .isConnected, .task .doubleBackoff, .task .unlock]

/-- The wake-up that finds the budget used up. -/
def lastWakeUp : List Label := [.task .lock, .task .firstTest, .task .retryTest, .task .setFailBit]

/-- Five attempts that fail, the wake-up that finds the budget used up, and the restart. -/
theorem connects_bounded_five_attempts :
    let run := firstDisconnect ++ (List.replicate 5 failedAttempt).flatten ++ lastWakeUp
    ∃ s s', wifiSystem.exec run = some s ∧ s.retryCount ≤ WIFI_RECONNECT_ATTEMPT_MAXIMUM_RETRY ∧ s.task = .restart ∧
      wifiSystem.exec (run ++ [.task .restart]) = some s' ∧ s'.halted = true := by
  intro run
  have hreach : (wifiSystem.exec run).map (fun s => (s.task, s.halted)) = some (.restart, false) := by decide
  obtain ⟨s, hs, hat⟩ := Option.map_eq_some_iff.mp hreach
  obtain ⟨htask, hrun⟩ := Prod.mk.inj hat
  obtain ⟨hcount, -, -, hrestart⟩ := connects_bounded run s hs
  obtain ⟨-, -, hgoes⟩ := hrestart firstDisconnect
    ((List.replicate 5 failedAttempt).flatten ++ [.task .lock, .task .firstTest]) [.task .setFailBit] rfl (by decide)
    (by decide)
  obtain ⟨s', hs', hhalts⟩ := hgoes hrun
  rw [htask] at hs' hhalts
  exact ⟨s, s', hs, hcount.2, htask, wifiSystem.exec_concat_eq_some.mpr ⟨s, hs, hs'⟩, hhalts rfl⟩

/-! ## The counter is not ahead of the attempts -/

/-- No reset lands between the call of `esp_wifi_connect` and the increment, nor between the failed test of the counter
and `esp_restart`. -/
def CleanReset (s : State) (l : Label) : Prop :=
  l.IsReset → s.task ≠ .increment ∧ s.task ≠ .setFailBit ∧ s.task ≠ .restart

structure Spent (attempts : Nat) (s : State) : Prop where
  count_le : s.halted = false → s.retryCount + (if s.task = .increment then 1 else 0) ≤ attempts
  restart : s.task = .setFailBit ∨ s.task = .restart → WIFI_RECONNECT_ATTEMPT_MAXIMUM_RETRY ≤ attempts

theorem Spent.keep {a : Nat} {s s' : State} (h : Spent a s) (hrun : s.halted = false)
    (hcount : s'.retryCount = s.retryCount)
    (htask : s'.task = s.task ∨ (s.task.inAttempt = false ∧ s'.task.inAttempt = false)) : Spent a s' := by
  refine ⟨fun _ => ?_, ?_⟩
  · simp only [hcount, State.task_eq_iff htask .increment rfl]
    exact h.count_le hrun
  · rw [State.task_eq_iff htask .setFailBit rfl, State.task_eq_iff htask .restart rfl]
    exact h.restart

theorem Spent.step {a : Nat} {s s' : State} {l : Label} (h : Spent a s) (hrun : s.halted = false)
    (hclean : CleanReset s l) (hs : RetryStep s l s') : Spent (countConnect a l) s' := by
  have hcount := h.count_le hrun
  cases hs with
  | retryTest ht =>
    rw [if_neg (by rw [ht]; decide)] at hcount
    rw [countConnect_task _ (by decide)]
    refine ⟨fun _ => ?_, ?_⟩
    · dsimp only
      split_ifs <;> simp_all
    · intro ht'
      by_contra hlt
      rw [if_pos (by omega)] at ht'
      simp at ht'
  | connect ht =>
    rw [if_neg (by rw [ht]; decide)] at hcount
    rw [countConnect_of_isConnect _ (Or.inl rfl)]
    exact ⟨fun _ => by simp; omega, by simp⟩
  | increment ht =>
    rw [if_pos ht] at hcount
    rw [countConnect_task _ (by decide)]
    exact ⟨fun _ => by simpa using hcount, by simp⟩
  | setFailBit ht =>
    rw [if_neg (by rw [ht]; decide)] at hcount
    rw [countConnect_task _ (by decide)]
    exact ⟨fun _ => by simpa using hcount, fun _ => h.restart (Or.inl ht)⟩
  | restart ht =>
    rw [countConnect_task _ (by decide)]
    exact ⟨by simp, h.restart⟩
  | connectFails ht =>
    rw [countConnect_of_isConnect _ (Or.inr rfl)]
    exact ⟨by simp, by simp [ht]⟩
  | elsewhere ht hstmt htask hcnt =>
    rw [countConnect_task _ (TaskStmt.ne_connect_of_inAttempt hstmt)]
    exact h.keep hrun hcnt (Or.inr ⟨ht ▸ hstmt, htask⟩)
  | reset =>
    -- the task is outside the two windows, so a counter of 0 is exact
    obtain ⟨hinc, hfail, hrestart⟩ := hclean rfl
    rw [countConnect_of_isReset _ rfl]
    refine ⟨fun _ => ?_, ?_⟩
    · dsimp only
      rw [if_neg hinc]
      decide
    · rintro (ht | ht)
      · exact absurd ht hfail
      · exact absurd ht hrestart
  | others hl hreset hconnect htask hcnt =>
    rw [countConnect_of_not _ hreset hconnect]
    exact h.keep hrun hcnt htask

/-- **When the budget is used up at the restart.** In every run whose resets are clean, `reconnectTask` reaches
`esp_restart` only after the maximum number of attempts since the last reset. -/
theorem restart_after_budget (ls : List Label) (s : State) (h : wifiSystem.exec ls = some s)
    (hclean : wifiSystem.Meets CleanReset ls) (hrestart : s.task = .restart) :
    WIFI_RECONNECT_ATTEMPT_MAXIMUM_RETRY ≤ connectsSinceReset ls := by
  have hspent : Spent (connectsSinceReset ls) s := by
    apply wifiSystem.run_invariant_of_meets (I := fun ls s => Spent (connectsSinceReset ls) s) _ _ ls s h hclean
    · exact ⟨fun _ => by decide, by rintro (ht | ht) <;> cases ht⟩
    · intro ls s l s' hi hC hs
      obtain ⟨hrun, hstep⟩ := State.next_eq_some.mp hs
      rw [connectsSinceReset_concat]
      exact hi.step hrun hC (State.retryStep_of_step hstep)
  exact hspent.restart (Or.inr hrestart)

/-- `GOT_IP`, up to the notification. -/
def gotIp : List Label :=
  [.event .gotIp, .handler .gotIpSetState, .handler .gotIpResetCount, .handler .gotIpSetBits, .handler .gotIpNotify]

/-- A clean reset, then a disconnect and five attempts that fail. -/
theorem restart_after_budget_five_attempts :
    let run := gotIp ++ (firstDisconnect ++ (List.replicate 5 failedAttempt).flatten ++ lastWakeUp)
    ∃ s, wifiSystem.exec run = some s ∧ s.task = .restart ∧
      WIFI_RECONNECT_ATTEMPT_MAXIMUM_RETRY ≤ connectsSinceReset run := by
  intro run
  have htask : (wifiSystem.exec run).map State.task = some .restart := by decide
  obtain ⟨s, hs, hrestart⟩ := Option.map_eq_some_iff.mp htask
  have hbefore : wifiSystem.Meets CleanReset ([] ++ [.event .gotIp, .handler .gotIpSetState]) :=
    wifiSystem.meets_append (wifiSystem.meets_nil _) (by simp [CleanReset, Label.IsReset])
  have hreset : wifiSystem.Meets CleanReset ([] ++ [.event .gotIp, .handler .gotIpSetState] ++
      [.handler .gotIpResetCount]) := by
    refine wifiSystem.meets_concat hbefore ?_
    intro t ht
    cases ht
    exact fun _ => ⟨by decide, by decide, by decide⟩
  have hrest : ∀ l ∈ run.drop 3, ¬ l.IsReset := by decide
  have hclean := wifiSystem.meets_append hreset (fun l hl t hl' => absurd hl' (hrest l hl))
  exact ⟨s, hs, hrestart, restart_after_budget run s hs hclean hrestart⟩

/-- The reset lands between the first call of `esp_wifi_connect` and its increment: the counter starts at 1 and the
restart comes after four attempts. -/
theorem restart_after_four_attempts :
    let run := firstDisconnect ++ [.task .lock, .task .firstTest, .task .retryTest, .task .connect] ++ gotIp ++
      [.task .increment, .task .secondTest, .task .isConnected, .task .resetBackoff, .task .unlock,
        .event .staDisconnected, .handler .disconnectedSetState, .handler .disconnectedNotify] ++
      (List.replicate 4 failedAttempt).flatten ++ lastWakeUp
    (wifiSystem.exec run).map State.task = some .restart ∧ connectsSinceReset run = 4 := by
  decide

end MultisensorStation.Connectivity
