import MultisensorStation.Connectivity.WifiManager

/-!
# Disconnects that `reconnectTask` misses

`reconnectTask` tests the state under the mutex and blocks in a later step; the state is changed and announced
without the mutex, so both can fall in between.

* `State.WillNotify` : the parties that still have a `notify_all` in front of them;
* `WaitStep` : what a step can do to the first wait, to the Wi-Fi state and to these parties;
* `Heard` : while the task stays in its first wait, a disconnected state has a notification still to come;
* `MissesLastNotify` : the step that can break `Heard`, a notification between the test and the block;
  `no_lost_disconnect`.
-/

namespace MultisensorStation.Connectivity
open MultisensorStation.Base

/-- The predicate of the first wait was false, and the task has not been woken since. -/
def TaskStmt.inFirstWait : TaskStmt → Bool
  | .firstBlock | .firstBlocked => true
  | _ => false

def HandlerStmt.willNotify : HandlerStmt → Bool
  | .idle | .startSetState | .startConnect => false
  | _ => true

def State.WillNotify (s : State) : Party → Prop
  | .task => False
  | .handler => s.handler.willNotify = true
  | .caller i => s.callers i ≠ .idle

/-- The party whose `notify_all` is executed. -/
def Label.notifier : Label → Option Party
  | .handler .disconnectedNotify | .handler .gotIpNotify => some .handler
  | .caller i .notify => some (.caller i)
  | _ => none

inductive WaitStep (s : State) : Label → State → Prop where
  | test (h : s.wifi ≠ .disconnected) : WaitStep s (.task .firstTest) { s with task := .firstBlock }
  | block (h : s.task = .firstBlock) : WaitStep s (.task .firstBlock) { s with mtx := false, task := .firstBlocked }
  | leave {l : Label} {s' : State} (htask : s'.task.inFirstWait = false) : WaitStep s l s'
  | notify {l : Label} {s' : State} (p : Party) (hl : l.notifier = some p) (htask : s'.task = s.task.notified)
      (hwifi : s'.wifi = s.wifi) (hothers : ∀ q ≠ p, s.WillNotify q → s'.WillNotify q) : WaitStep s l s'
  | quiet {l : Label} {s' : State} (htask : s'.task = s.task)
      (hwifi : s'.wifi = .disconnected → s.wifi = .disconnected ∨ ∃ p, s'.WillNotify p)
      (hparties : ∀ p, s.WillNotify p → s'.WillNotify p) : WaitStep s l s'

namespace State
variable {s s' : State}

/-- A party that has its `notify_all` in front of it keeps it unless it moves on. -/
theorem WillNotify.keep {p : Party} (h : s.WillNotify p)
    (hhandler : p = .handler → s.handler.willNotify = true → s'.handler.willNotify = true)
    (hcaller : ∀ i, p = .caller i → s.callers i ≠ .idle → s'.callers i ≠ .idle) : s'.WillNotify p := by
  cases p with
  | task => exact h
  | handler => exact hhandler rfl h
  | caller i => exact hcaller i rfl h

theorem setCaller_ne_idle {i : Nat} {stmt : CallerStmt} (hstmt : stmt ≠ .idle) (j : Nat) (h : s.callers j ≠ .idle) :
    (s.setCaller i stmt).callers j ≠ .idle := by
  unfold setCaller
  by_cases hj : j = i
  · rw [hj]
    simpa using hstmt
  · simpa [Function.update_of_ne hj] using h

theorem waitStep_of_runTask {stmt : TaskStmt} (htask : s.task = stmt) (h : s.runTask stmt = some s') :
    WaitStep s (.task stmt) s' := by
  cases stmt
  all_goals simp only [runTask, Option.ite_none_left_eq_some, Option.some.injEq] at h
  case firstTest =>
    by_cases hw : s.wifi = .disconnected
    · rw [if_pos hw] at h
      exact .leave (h ▸ rfl)
    · rw [if_neg hw] at h
      exact h ▸ .test hw
  case firstBlock => exact h ▸ .block htask
  all_goals
    apply WaitStep.leave
    grind [TaskStmt.inFirstWait]

theorem waitStep_of_runHandler {stmt : HandlerStmt} (hstmt : s.handler = stmt) (h : s.runHandler stmt = some s') :
    WaitStep s (.handler stmt) s' := by
  cases stmt
  all_goals simp only [runHandler, Option.some.injEq, reduceCtorEq] at h
  all_goals subst h
  case disconnectedNotify | gotIpNotify =>
    exact .notify .handler rfl rfl rfl (fun q hq hwill => hwill.keep (fun h => absurd h hq) (fun _ _ h => h))
  case disconnectedSetState =>
    exact .quiet rfl (fun _ => Or.inr ⟨.handler, rfl⟩) (fun p hwill => hwill.keep (fun _ _ => rfl) (fun _ _ h => h))
  case gotIpSetState =>
    exact .quiet rfl (fun h => by cases h) (fun p hwill => hwill.keep (fun _ _ => rfl) (fun _ _ h => h))
  case gotIpResetCount | gotIpSetBits =>
    exact .quiet rfl Or.inl (fun p hwill => hwill.keep (fun _ _ => rfl) (fun _ _ h => h))
  case startSetState =>
    refine .quiet rfl (fun h => by cases h) (fun p hwill => hwill.keep (fun _ h => ?_) (fun _ _ h => h))
    simp [hstmt, HandlerStmt.willNotify] at h
  case startConnect =>
    refine .quiet rfl Or.inl (fun p hwill => hwill.keep (fun _ h => ?_) (fun _ _ h => h))
    simp [hstmt, HandlerStmt.willNotify] at h

theorem waitStep_of_runCaller {i : Nat} {stmt : CallerStmt} (h : s.runCaller i stmt = some s') :
    WaitStep s (.caller i stmt) s' := by
  cases stmt
  all_goals simp only [runCaller, Option.some.injEq, reduceCtorEq] at h
  all_goals subst h
  case setConfig =>
    exact .quiet rfl Or.inl (fun p hwill => hwill.keep (fun _ h => h) (fun j _ => setCaller_ne_idle (by decide) j))
  case setState =>
    refine .quiet rfl (fun _ => Or.inr ⟨.caller i, ?_⟩)
      (fun p hwill => hwill.keep (fun _ h => h) (fun j _ => setCaller_ne_idle (by decide) j))
    simp [WillNotify, setCaller]
  case notify =>
    refine .notify (.caller i) rfl rfl rfl (fun q hq hwill => hwill.keep (fun _ h => h) (fun j hj h => ?_))
    have hji : j ≠ i := by
      rintro rfl
      exact hq hj
    simpa [setCaller, notifyAll, Function.update_of_ne hji] using h

theorem waitStep_of_step {l : Label} (h : s.step l = some s') : WaitStep s l s' := by
  cases l with
  | task stmt =>
    obtain ⟨htask, hs⟩ := step_task h
    exact waitStep_of_runTask htask hs
  | timeout =>
    obtain ⟨-, rfl⟩ := step_timeout h
    exact .leave rfl
  | event e =>
    obtain ⟨hidle, rfl⟩ := step_event h
    refine .quiet rfl Or.inl (fun p hwill => hwill.keep (fun _ h => ?_) (fun _ _ h => h))
    simp [hidle, HandlerStmt.willNotify] at h
  | handler stmt =>
    obtain ⟨hstmt, hs⟩ := step_handler h
    exact waitStep_of_runHandler hstmt hs
  | call i c =>
    obtain ⟨-, rfl⟩ := step_call h
    exact .quiet rfl Or.inl
      (fun p hwill => hwill.keep (fun _ h => h) (fun j _ => setCaller_ne_idle (by cases c <;> decide) j))
  | caller i stmt => exact waitStep_of_runCaller (step_caller h).2
  | abort p =>
    obtain ⟨-, rfl⟩ := step_abort h
    exact .quiet rfl Or.inl (fun p hwill => hwill.keep (fun _ h => h) (fun _ _ h => h))

end State

/-! ## Runs -/

/-- While the task stays in its first wait, a disconnected state has a notification still to come. -/
def Heard (s : State) : Prop := s.task.inFirstWait = true → s.wifi = .disconnected → ∃ p, s.WillNotify p

/-- The last notification comes after the task has found the state other than disconnected, and before it blocks. -/
def MissesLastNotify (s : State) (l : Label) : Prop :=
  ∃ p, l.notifier = some p ∧ s.task = .firstBlock ∧ s.wifi = .disconnected ∧ ∀ q ≠ p, ¬ s.WillNotify q

theorem Heard.step {s s' : State} {l : Label} (h : Heard s) (hl : ¬ MissesLastNotify s l) (hs : WaitStep s l s') :
    Heard s' := by
  intro htask' hwifi'
  cases hs with
  | test hw => exact absurd hwifi' hw
  | block ht => exact h (by rw [ht]; rfl) hwifi'
  | leave htask => simp [htask] at htask'
  | notify p hp htask hwifi hothers =>
    rw [hwifi] at hwifi'
    -- a blocked task is woken, so it can only be one that has not blocked yet
    have ht : s.task = .firstBlock := by
      rw [htask] at htask'
      cases hst : s.task <;> simp [hst, TaskStmt.notified, TaskStmt.inFirstWait] at htask' ⊢
    by_contra hnone
    refine hl ⟨p, hp, ht, hwifi', fun q hq hwill => hnone ⟨q, hothers q hq hwill⟩⟩
  | quiet htask hwifi hparties =>
    rw [htask] at htask'
    rcases hwifi hwifi' with hold | hnew
    · obtain ⟨p, hp⟩ := h htask' hold
      exact ⟨p, hparties p hp⟩
    · exact hnew

/-- **When no disconnect is lost.** In every run in which the task never misses the last notification, it is not
blocked in its first wait while the state is disconnected and every handler and caller has finished. -/
theorem no_lost_disconnect (ls : List Label) (s : State) (h : wifiSystem.exec ls = some s)
    (hmiss : wifiSystem.Meets (fun s l => ¬ MissesLastNotify s l) ls) (hhandler : s.handler = .idle)
    (hcallers : ∀ i, s.callers i = .idle) : ¬ (s.wifi = .disconnected ∧ s.task = .firstBlocked) := by
  have hheard : Heard s := by
    apply wifiSystem.run_invariant_of_meets (I := fun _ s => Heard s) _ _ ls s h hmiss
    · intro htask
      cases htask
    · intro ls s l s' hi hC hs
      exact hi.step hC (State.waitStep_of_step (State.next_eq_some.mp hs).2)
  rintro ⟨hwifi, htask⟩
  obtain ⟨p, hp⟩ := hheard (by rw [htask]; rfl) hwifi
  cases p with
  | task => exact hp
  | handler =>
    rw [State.WillNotify, hhandler] at hp
    cases hp
  | caller i => exact hp (hcallers i)

/-- The task finds the state other than disconnected, blocks, and is woken by the handler of a disconnect. -/
theorem no_lost_disconnect_woken :
    let run : List Label := [.task .lock, .task .firstTest, .task .firstBlock, .event .staDisconnected,
      .handler .disconnectedSetState] ++ [.handler .disconnectedNotify]
    ∃ s, wifiSystem.exec run = some s ∧ ¬ (s.wifi = .disconnected ∧ s.task = .firstBlocked) := by
  intro run
  refine ⟨_, rfl, no_lost_disconnect run _ rfl ?_ rfl (fun _ => rfl)⟩
  have hquiet : ∀ l ∈ run.dropLast, l.notifier = none := by decide
  refine wifiSystem.meets_concat ?_ ?_
  · rw [← List.nil_append (List.cons _ _)]
    refine wifiSystem.meets_append (wifiSystem.meets_nil _) ?_
    rintro l hl t ⟨p, hp, -⟩
    rw [hquiet l hl] at hp
    cases hp
  · rintro t ht ⟨p, -, htask, -⟩
    cases ht
    cases htask

/-- The disconnect falls between the test and the block: the task stays blocked, and nobody will wake it. -/
theorem disconnect_lost :
    let run : List Label := [.event .staStart, .handler .startSetState, .handler .startConnect, .task .lock,
      .task .firstTest, .event .staDisconnected, .handler .disconnectedSetState, .handler .disconnectedNotify,
      .task .firstBlock]
    ∃ s, wifiSystem.exec run = some s ∧ s.handler = .idle ∧ (∀ i, s.callers i = .idle) ∧
      s.wifi = .disconnected ∧ s.task = .firstBlocked :=
  ⟨_, rfl, rfl, fun _ => rfl, rfl, rfl⟩

end MultisensorStation.Connectivity
