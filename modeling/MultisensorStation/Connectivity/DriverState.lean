import MultisensorStation.Connectivity.RetryBudget

/-!
# The manager's state and the driver's

`esp_wifi_connect` is meant for a station that is not connected. The manager calls it by its own state, which
`eventHandler` sets a step after the event, and which `updateCredentials` and `reconnect` set without the driver.

* `driverConnected`, `stationSystem` : the runs of the manager together with the state of the driver;
* `Undisturbed` : what the callers do and when the events come;
* `Apart` : while the driver is connected the manager is too, and nobody is on the way to a connect;
* `connect_while_disconnected` : then `esp_wifi_connect` is called only while the driver is not connected.
-/

namespace MultisensorStation.Connectivity
open MultisensorStation.Base

/-- Connected from an IP to the next disconnect; nothing calls `esp_wifi_disconnect`. -/
def driverConnected (connected : Bool) : Label → Bool
  | .event .gotIp => true
  | .event .staDisconnected => false
  | _ => connected

def stationSystem : System (State × Bool) Label := wifiSystem.withGhost driverConnected false

/-- The manager runs as it does alone. -/
theorem exec_stationSystem (ls : List Label) :
    stationSystem.exec ls = (wifiSystem.exec ls).map (fun s => (s, ls.foldl driverConnected false)) :=
  wifiSystem.exec_withGhost driverConnected false ls

/-- `reconnectTask` or `eventHandler` calls `esp_wifi_connect`. -/
def Label.CallsConnect (l : Label) : Prop := l.IsConnect ∨ l = .handler .startConnect ∨ l = .abort .handler

/-- While the driver is connected, no caller sets the state to disconnected behind the handler's back and the station
does not start; an IP does not come when the task has decided to connect, and the task does not look at the state
between an IP and its `setState(CONNECTED)`. -/
def Undisturbed (s : State × Bool) : Label → Prop
  | .caller _ .setState => s.2 = true → s.1.handler = .gotIpSetState
  | .event .staStart => s.2 = false
  | .event .gotIp => s.1.task ≠ .retryTest ∧ s.1.task ≠ .connect
  | .task .firstTest => s.1.wifi = .disconnected → s.1.handler ≠ .gotIpSetState
  | _ => True

instance (s : State × Bool) (l : Label) : Decidable (Undisturbed s l) := by
  unfold Undisturbed
  split <;> infer_instance

/-- On the way to `esp_wifi_connect`. -/
def TaskStmt.connects : TaskStmt → Bool
  | .retryTest | .connect => true
  | _ => false

/-- Handling an event that does not leave the station connected. -/
def HandlerStmt.other : HandlerStmt → Bool
  | .startSetState | .startConnect | .disconnectedSetState => true
  | _ => false

/-- What holds while the driver is connected. -/
structure Linked (s : State) : Prop where
  task : s.task.connects = false
  handler : s.handler.other = false
  wifi : s.handler = .gotIpSetState ∨ s.wifi = .connected

def Apart (s : State × Bool) : Prop := s.2 = true → Linked s.1

theorem TaskStmt.connects_notified (t : TaskStmt) : t.notified.connects = t.connects := by
  cases t <;> rfl

namespace Linked
variable {s s' : State}

theorem runTask (h : Linked s) {stmt : TaskStmt} (htask : s.task = stmt) (hs : s.runTask stmt = some s')
    (hwake : stmt = .firstTest → s.wifi = .disconnected → s.handler ≠ .gotIpSetState) : Linked s' := by
  have hawake : stmt = .firstTest → s.wifi ≠ .disconnected := by
    intro hfirst hwifi
    rcases h.wifi with hset | hconn
    · exact hwake hfirst hwifi hset
    · rw [hwifi] at hconn
      cases hconn
  have hconnects := h.task
  rw [htask] at hconnects
  have hsame : s'.handler = s.handler ∧ s'.wifi = s.wifi ∧ s'.task.connects = false := by
    cases stmt
    all_goals simp only [State.runTask, Option.ite_none_left_eq_some, Option.some.injEq] at hs
    all_goals grind [TaskStmt.connects]
  exact ⟨hsame.2.2, hsame.1 ▸ h.handler, by rw [hsame.1, hsame.2.1]; exact h.wifi⟩

/-- The handler is at an IP or at the end of an event. -/
theorem runHandler (h : Linked s) {stmt : HandlerStmt} (hstmt : s.handler = stmt) (hs : s.runHandler stmt = some s') :
    Linked s' := by
  have hother := h.handler
  have hwifi := h.wifi
  rw [hstmt] at hother hwifi
  cases stmt
  all_goals simp only [State.runHandler, Option.some.injEq, reduceCtorEq] at hs
  all_goals subst hs
  case startSetState | startConnect | disconnectedSetState => cases hother
  case gotIpSetState => exact ⟨h.task, rfl, Or.inr rfl⟩
  case gotIpResetCount | gotIpSetBits => exact ⟨h.task, rfl, Or.inr (hwifi.resolve_left (by decide))⟩
  case disconnectedNotify | gotIpNotify =>
    exact ⟨s.task.connects_notified.trans h.task, rfl, Or.inr (hwifi.resolve_left (by decide))⟩

theorem runCaller (h : Linked s) {i : Nat} {stmt : CallerStmt} (hs : s.runCaller i stmt = some s')
    (hset : stmt = .setState → s.handler = .gotIpSetState) : Linked s' := by
  cases stmt
  all_goals simp only [State.runCaller, Option.some.injEq, reduceCtorEq] at hs
  all_goals subst hs
  case setConfig => exact ⟨h.task, h.handler, h.wifi⟩
  case setState => exact ⟨h.task, h.handler, Or.inl (hset rfl)⟩
  case notify => exact ⟨s.task.connects_notified.trans h.task, h.handler, h.wifi⟩

end Linked

theorem Apart.step {s : State × Bool} {s' : State} {l : Label} (h : Apart s) (hl : Undisturbed s l)
    (hs : s.1.step l = some s') : Apart (s', driverConnected s.2 l) := by
  intro hconn
  cases l with
  | task stmt =>
    obtain ⟨htask, hrun⟩ := State.step_task hs
    apply (h hconn).runTask htask hrun
    rintro rfl
    exact hl
  | timeout =>
    obtain ⟨-, rfl⟩ := State.step_timeout hs
    exact ⟨rfl, (h hconn).handler, (h hconn).wifi⟩
  | event e =>
    obtain ⟨hidle, rfl⟩ := State.step_event hs
    cases e with
    | staStart =>
      have hdown : s.2 = false := hl
      rw [show s.2 = true from hconn] at hdown
      cases hdown
    | staDisconnected => cases hconn
    | gotIp =>
      obtain ⟨hretry, hconnect⟩ := hl
      refine ⟨?_, rfl, Or.inl rfl⟩
      show s.1.task.connects = false
      cases ht : s.1.task
      case retryTest => exact absurd ht hretry
      case connect => exact absurd ht hconnect
      all_goals rfl
    | other =>
      have hwifi := (h hconn).wifi
      rw [hidle] at hwifi
      exact ⟨(h hconn).task, rfl, Or.inr (hwifi.resolve_left nofun)⟩
  | handler stmt =>
    obtain ⟨hstmt, hrun⟩ := State.step_handler hs
    exact (h hconn).runHandler hstmt hrun
  | call i c =>
    obtain ⟨-, rfl⟩ := State.step_call hs
    exact ⟨(h hconn).task, (h hconn).handler, (h hconn).wifi⟩
  | caller i stmt =>
    obtain ⟨-, hrun⟩ := State.step_caller hs
    apply (h hconn).runCaller hrun
    rintro rfl
    exact hl hconn
  | abort p =>
    obtain ⟨-, rfl⟩ := State.step_abort hs
    exact ⟨(h hconn).task, (h hconn).handler, (h hconn).wifi⟩

/-- A call of `esp_wifi_connect` that can be made now. -/
theorem Linked.not_callsConnect {s s' : State} (h : Linked s) {l : Label} (hs : s.step l = some s') :
    ¬ l.CallsConnect := by
  have htask := h.task
  have hhandler := h.handler
  rintro ((rfl | rfl) | rfl | rfl)
  · rw [(State.step_task hs).1] at htask
    cases htask
  · obtain ⟨hcheck, -⟩ := State.step_abort hs
    rw [show s.task = .connect by simpa [State.atErrorCheck] using hcheck] at htask
    cases htask
  · rw [(State.step_handler hs).1] at hhandler
    cases hhandler
  · obtain ⟨hcheck, -⟩ := State.step_abort hs
    rw [show s.handler = .startConnect by simpa [State.atErrorCheck] using hcheck] at hhandler
    cases hhandler

theorem apart_of_exec {ls : List Label} {s : State × Bool} (h : stationSystem.exec ls = some s)
    (hC : stationSystem.Meets Undisturbed ls) : Apart s := by
  apply stationSystem.run_invariant_of_meets (I := fun _ s => Apart s) _ _ ls s h hC
  · intro hconn
    cases hconn
  · intro ls s l s' hi hC hs
    obtain ⟨t, ht, rfl⟩ := Option.map_eq_some_iff.mp hs
    exact hi.step hC (State.next_eq_some.mp ht).2

/-- **When `esp_wifi_connect` is called only while not connected.** In every run that is not disturbed, each call finds
the driver not connected. -/
theorem connect_while_disconnected (ls : List Label) (s : State × Bool) (h : stationSystem.exec ls = some s)
    (hC : stationSystem.Meets Undisturbed ls) :
    ∀ pre l t, pre ++ [l] <+: ls → stationSystem.exec pre = some t → l.CallsConnect → t.2 = false := by
  rintro pre l t ⟨post, rfl⟩ ht hcall
  obtain ⟨u, hu⟩ := stationSystem.exec_prefix h
  obtain ⟨t', ht', hnext⟩ := stationSystem.exec_concat_eq_some.mp hu
  obtain rfl := Option.some.inj (ht.symm.trans ht')
  obtain ⟨v, hv, -⟩ := Option.map_eq_some_iff.mp hnext
  have hapart := apart_of_exec ht (hC.of_prefix ((List.prefix_append _ _).trans (List.prefix_append _ _)))
  cases hconn : t.2 with
  | false => rfl
  | true => exact absurd hcall ((hapart hconn).not_callsConnect (State.next_eq_some.mp hv).2)

/-- A first connection that fails, an attempt that ends with an IP, and an attempt after the next disconnect. -/
theorem connect_while_disconnected_twice :
    let pre : List Label := firstDisconnect ++ [.task .lock, .task .firstTest, .task .retryTest, .task .connect,
      .task .increment] ++ gotIp ++ [.task .secondTest, .task .isConnected, .task .resetBackoff, .task .unlock,
      .event .staDisconnected, .handler .disconnectedSetState, .handler .disconnectedNotify, .task .lock,
      .task .firstTest, .task .retryTest]
    ∃ t, stationSystem.exec pre = some t ∧ t.1.task = .connect ∧ t.2 = false := by
  intro pre
  obtain ⟨s, hs⟩ := Option.isSome_iff_exists.mp
    (show (stationSystem.exec (pre ++ [.task .connect])).isSome = true by decide)
  have hC : stationSystem.Meets Undisturbed (pre ++ [.task .connect]) := stationSystem.meets_of_forall_take (by decide)
  have htask : (stationSystem.exec pre).map (fun t => t.1.task) = some .connect := by decide
  obtain ⟨t, ht, htask⟩ := Option.map_eq_some_iff.mp htask
  exact ⟨t, ht, htask,
    connect_while_disconnected _ s hs hC pre (.task .connect) t (List.prefix_refl _) ht (Or.inl (Or.inl rfl))⟩

/-- `updateCredentials` while the driver is connected: the task calls `esp_wifi_connect`. -/
theorem connect_while_connected :
    let pre := gotIp ++ [.call 0 .updateCredentials, .caller 0 .setConfig, .caller 0 .setState, .caller 0 .notify,
      .task .lock, .task .firstTest, .task .retryTest]
    (stationSystem.exec pre).map (fun t => (t.1.task, t.2)) = some (.connect, true) ∧
      (stationSystem.exec (pre ++ [.task .connect])).isSome = true ∧ (Label.task .connect).CallsConnect := by
  exact ⟨by decide, by decide, Or.inl (Or.inl rfl)⟩

end MultisensorStation.Connectivity
