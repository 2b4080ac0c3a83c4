import MultisensorStation.Base.Simulation
import MultisensorStation.Connectivity.DriverState

/-!
# Booting

`main` up to the call of `MqttManager::init`, with `WifiManager::init` inside of it, while the tasks of the manager
already run: `reconnectTask` starts with the manager, before anything of the driver is there.

* `MainStmt` : the calls of `main`, each with what it returns;
* `BootState.allows` : `esp_wifi_set_config` needs an initialized driver and `esp_wifi_connect` a started one, which also
  posts the events; a call that comes too early fails and aborts;
* `bootSimulation` : the fresh event group of `init` loses no bit, so that a boot is a run of the manager;
  `boot_exact` : and each run of the manager follows a boot;
* `quiet_until_started` : until the driver runs, `reconnectTask` stays in its first wait.
-/

namespace MultisensorStation.Connectivity
open MultisensorStation.Base

/-- `esp_err_t`, and whether a pointer that is returned is not null. -/
inductive EspErr where
  | ok
  | nvsNoFreePages
  | nvsNewVersionFound
  | fail
  deriving DecidableEq

/-- What `main` calls next. -/
inductive MainStmt where
  | nvsFlashInit
  | nvsFlashErase
  | nvsFlashInitAgain
  -- `WifiManager::getInstance()`, `wifiManager.init()`
  | getInstance
  | createEventGroup
  | netifInit
  | eventLoopCreate
  | createWifiSta
  | wifiInit
  | registerWifiEvent
  | registerIpEvent
  | setMode
  | setConfig
  | wifiStart
  -- `mqttManager.init()`
  | mqttInit
  deriving DecidableEq

structure BootState where
  main : MainStmt
  manager : State
  constructed : Bool
  /-- `esp_wifi_init` -/
  initialized : Bool
  /-- `esp_wifi_start` -/
  started : Bool
  /-- by an `ESP_ERROR_CHECK` of `main` -/
  aborted : Bool

inductive BootLabel where
  /-- the next call of `main`, and what it returns -/
  | main (stmt : MainStmt) (ret : EspErr)
  | manager (l : Label)

namespace BootState

def init : BootState := ⟨.nvsFlashInit, State.init, false, false, false, false⟩

/-- `ESP_ERROR_CHECK(ret)`, and on with `main`. -/
def check (s : BootState) (ret : EspErr) (s' : BootState) : BootState :=
  if ret = .ok then s' else { s with aborted := true }

/-- `xEventGroupCreate()` -/
def freshEventGroup (m : State) : State := { m with connectedBit := false, failBit := false }

def runMain (s : BootState) (ret : EspErr) : MainStmt → Option BootState
  | .nvsFlashInit =>
    if ret = .nvsNoFreePages ∨ ret = .nvsNewVersionFound then some { s with main := .nvsFlashErase }
    else some (s.check ret { s with main := .getInstance })
  | .nvsFlashErase => some (s.check ret { s with main := .nvsFlashInitAgain })
  | .nvsFlashInitAgain => some (s.check ret { s with main := .getInstance })
  | .getInstance => some { s with constructed := true, main := .createEventGroup }
  | .createEventGroup => some { s with manager := freshEventGroup s.manager, main := .netifInit }
  | .netifInit => some (s.check ret { s with main := .eventLoopCreate })
  | .eventLoopCreate => some (s.check ret { s with main := .createWifiSta })
  -- without an interface `init` returns early, and `main` goes on
  | .createWifiSta => some { s with main := if ret = .ok then .wifiInit else .mqttInit }
  | .wifiInit => some (s.check ret { s with initialized := true, main := .registerWifiEvent })
  | .registerWifiEvent => some (s.check ret { s with main := .registerIpEvent })
  | .registerIpEvent => some (s.check ret { s with main := .setMode })
  | .setMode => some (s.check ret { s with main := .setConfig })
  | .setConfig => some (s.check ret { s with main := .wifiStart })
  | .wifiStart => some (s.check ret { s with started := true, main := .mqttInit })
  | .mqttInit => none

/-- What the driver has to be ready for. -/
def allows (s : BootState) : Label → Bool
  | .event _ => s.started
  | .task .connect => s.started
  | .handler .startConnect => s.started
  | .caller _ .setConfig => s.initialized
  | _ => true

def step (s : BootState) : BootLabel → Option BootState
  | .main stmt ret => if s.main = stmt ∧ s.manager.halted = false then s.runMain ret stmt else none
  | .manager l =>
    if s.constructed = true ∧ s.allows l = true then (s.manager.next l).map fun m => { s with manager := m } else none

def next (s : BootState) (l : BootLabel) : Option BootState := if s.aborted then none else s.step l

end BootState

def bootSystem : System BootState BootLabel := ⟨BootState.init, BootState.next⟩

/-! ## One step -/

namespace BootState
variable {s s' : BootState}

theorem next_eq_some {l : BootLabel} : s.next l = some s' ↔ s.aborted = false ∧ s.step l = some s' := by
  unfold next
  rw [Option.ite_none_left_eq_some, Bool.not_eq_true]

theorem step_manager {l : Label} (h : s.step (.manager l) = some s') :
    s.allows l = true ∧ s.manager.next l = some s'.manager ∧ s'.main = s.main ∧ s'.started = s.started := by
  obtain ⟨⟨-, hallows⟩, hs⟩ := Option.ite_none_right_eq_some.mp h
  obtain ⟨m, hm, rfl⟩ := Option.map_eq_some_iff.mp hs
  exact ⟨hallows, hm, rfl, rfl⟩

theorem step_main {stmt : MainStmt} {ret : EspErr} (h : s.step (.main stmt ret) = some s') :
    s.main = stmt ∧ s.runMain ret stmt = some s' := by
  obtain ⟨⟨hmain, -⟩, hs⟩ := Option.ite_none_right_eq_some.mp h
  exact ⟨hmain, hs⟩

/-- What a call of `main` can do to the manager and to the driver. -/
inductive MainStep (s : BootState) (stmt : MainStmt) (ret : EspErr) (s' : BootState) : Prop where
  | group (hstmt : stmt = .createEventGroup) (hmanager : s'.manager = freshEventGroup s.manager)
    (hmain : s'.main = .netifInit) (hstarted : s'.started = s.started)
  | noInterface (hstmt : stmt = .createWifiSta) (hret : ret ≠ .ok) (hmanager : s'.manager = s.manager)
    (hmain : s'.main = .mqttInit) (hstarted : s'.started = s.started)
  | start (hstmt : stmt = .wifiStart) (hmanager : s'.manager = s.manager) (hmain : s'.main = .mqttInit)
  | other (hret : stmt = .createWifiSta → ret = .ok) (hmanager : s'.manager = s.manager)
    (hstarted : s'.started = s.started)

/-- `main` is in `WifiManager::init` or in front of it. -/
theorem main_ne_mqttInit {stmt : MainStmt} {ret : EspErr} (h : s.step (.main stmt ret) = some s') :
    s.main ≠ .mqttInit := by
  obtain ⟨hmain, hs⟩ := step_main h
  rw [hmain]
  rintro rfl
  cases hs

theorem mainStep_of_check {stmt : MainStmt} {ret : EspErr} {s₁ : BootState} (h : s.check ret s₁ = s')
    (hstmt : stmt ≠ .createWifiSta) (hmanager : s₁.manager = s.manager) (hstarted : s₁.started = s.started) :
    MainStep s stmt ret s' := by
  unfold check at h
  split_ifs at h
  · subst h
    exact .other (fun heq => absurd heq hstmt) hmanager hstarted
  · subst h
    exact .other (fun heq => absurd heq hstmt) rfl rfl

theorem mainStep_of_step {stmt : MainStmt} {ret : EspErr} (h : s.step (.main stmt ret) = some s') :
    MainStep s stmt ret s' := by
  obtain ⟨-, hs⟩ := step_main h
  cases stmt
  all_goals simp only [runMain, Option.some.injEq, reduceCtorEq] at hs
  case nvsFlashInit =>
    split_ifs at hs
    · obtain rfl := Option.some.inj hs
      exact .other (fun heq => nomatch heq) rfl rfl
    · exact mainStep_of_check (Option.some.inj hs) (by decide) rfl rfl
  case getInstance =>
    subst hs
    exact .other (fun heq => nomatch heq) rfl rfl
  case createEventGroup =>
    subst hs
    exact .group rfl rfl rfl rfl
  case createWifiSta =>
    subst hs
    by_cases hret : ret = .ok
    · exact .other (fun _ => hret) rfl rfl
    · exact .noInterface rfl hret rfl (if_neg hret) rfl
  case wifiStart =>
    unfold check at hs
    split_ifs at hs
    · subst hs
      exact .start rfl rfl rfl
    · subst hs
      exact .other (fun heq => nomatch heq) rfl rfl
  all_goals exact mainStep_of_check hs (by decide) rfl rfl

end BootState

/-! ## Before the driver is started -/

/-- Up to the first call of `esp_wifi_connect` that returns. -/
def TaskStmt.beforeIncrement : TaskStmt → Bool
  | .lock | .firstTest | .firstBlock | .firstBlocked | .firstRelock | .retryTest | .connect => true
  | _ => false

/-- In the first wait, or about to enter it. -/
def TaskStmt.beforeAttempt : TaskStmt → Bool
  | .lock | .firstTest | .firstBlock | .firstBlocked | .firstRelock => true
  | _ => false

theorem TaskStmt.beforeIncrement_notified (t : TaskStmt) : t.notified.beforeIncrement = t.beforeIncrement := by
  cases t <;> rfl

theorem TaskStmt.beforeIncrement_of_beforeAttempt {t : TaskStmt} (h : t.beforeAttempt = true) :
    t.beforeIncrement = true := by
  cases t
  case lock | firstTest | firstBlock | firstBlocked | firstRelock => rfl
  all_goals cases h

/-- No attempt has been made, and no event has come. -/
structure Unstarted (m : State) : Prop where
  retryCount : m.retryCount = 0
  connectedBit : m.connectedBit = false
  failBit : m.failBit = false
  handler : m.handler = .idle
  task : m.task.beforeIncrement = true

/-- And nobody has asked for one. -/
structure Quiet (m : State) : Prop extends Unstarted m where
  wifi : m.wifi = .notInitialized
  callers : ∀ i, m.callers i = .idle
  firstWait : m.task.beforeAttempt = true

/-- What a step can do before the driver is started. -/
inductive EarlyStep (m : State) : Label → State → Prop where
  | wait {stmt : TaskStmt} (mtx : Bool) {task : TaskStmt} (hfrom : m.task.beforeAttempt = true)
    (hto : task.beforeAttempt = true) : EarlyStep m (.task stmt) { m with mtx := mtx, task := task }
  | disconnected (hwifi : m.wifi = .disconnected) : EarlyStep m (.task .firstTest) { m with task := .retryTest }
  | retryTest (htask : m.task = .retryTest) : EarlyStep m (.task .retryTest) { m with task := .connect }
  | call (i : Nat) (c : Call) : EarlyStep m (.call i c) (m.setCaller i c.firstStmt)
  | caller {i : Nat} {stmt : CallerStmt} {m' : State} (hstmt : m.callers i = stmt)
    (hrun : m.runCaller i stmt = some m') : EarlyStep m (.caller i stmt) m'
  | abort {p : Party} (hcheck : m.atErrorCheck p = true) : EarlyStep m (.abort p) { m with halted := true }

section Step
variable {s : BootState} {m m' : State} {l : Label}

theorem earlyStep_of_runTask {stmt : TaskStmt} (h : Unstarted m) (hconnect : stmt ≠ .connect) (htask : m.task = stmt)
    (hrun : m.runTask stmt = some m') : EarlyStep m (.task stmt) m' := by
  have hbefore := h.task
  rw [htask] at hbefore
  cases stmt
  all_goals simp only [State.runTask, Option.ite_none_left_eq_some, Option.some.injEq] at hrun
  case lock | firstRelock =>
    obtain ⟨-, rfl⟩ := hrun
    exact .wait true (htask ▸ rfl) rfl
  case firstTest =>
    subst hrun
    split_ifs with hwifi
    · exact .disconnected hwifi
    · exact .wait m.mtx (htask ▸ rfl) rfl
  case firstBlock =>
    subst hrun
    exact .wait false (htask ▸ rfl) rfl
  case firstBlocked =>
    subst hrun
    exact .wait m.mtx (htask ▸ rfl) rfl
  case retryTest =>
    have hleft : m.retryCount < WIFI_RECONNECT_ATTEMPT_MAXIMUM_RETRY := by
      rw [h.retryCount]
      decide
    rw [if_pos hleft] at hrun
    subst hrun
    exact .retryTest htask
  case connect => exact absurd rfl hconnect
  all_goals cases hbefore

theorem earlyStep_of_step (h : Unstarted s.manager) (hstarted : s.started = false) (hl : s.allows l = true)
    (hs : s.manager.step l = some m') : EarlyStep s.manager l m' := by
  cases l with
  | task stmt =>
    obtain ⟨htask, hrun⟩ := State.step_task hs
    refine earlyStep_of_runTask h ?_ htask hrun
    rintro rfl
    rw [BootState.allows, hstarted] at hl
    cases hl
  | timeout =>
    have hbefore := h.task
    rw [(State.step_timeout hs).1] at hbefore
    cases hbefore
  | event e =>
    rw [BootState.allows, hstarted] at hl
    cases hl
  | handler stmt =>
    obtain ⟨hstmt, hrun⟩ := State.step_handler hs
    rw [h.handler] at hstmt
    subst hstmt
    cases hrun
  | call i c =>
    obtain ⟨-, rfl⟩ := State.step_call hs
    exact .call i c
  | caller i stmt =>
    obtain ⟨hstmt, hrun⟩ := State.step_caller hs
    exact .caller hstmt hrun
  | abort p =>
    obtain ⟨hcheck, rfl⟩ := State.step_abort hs
    exact .abort hcheck

theorem Unstarted.step (h : Unstarted m) (hs : EarlyStep m l m') : Unstarted m' := by
  cases hs with
  | wait mtx hfrom hto =>
    exact ⟨h.retryCount, h.connectedBit, h.failBit, h.handler, TaskStmt.beforeIncrement_of_beforeAttempt hto⟩
  | disconnected hwifi => exact ⟨h.retryCount, h.connectedBit, h.failBit, h.handler, rfl⟩
  | retryTest htask => exact ⟨h.retryCount, h.connectedBit, h.failBit, h.handler, rfl⟩
  | call i c => exact ⟨h.retryCount, h.connectedBit, h.failBit, h.handler, h.task⟩
  | @caller i stmt m' hstmt hrun =>
    cases stmt
    all_goals simp only [State.runCaller, Option.some.injEq, reduceCtorEq] at hrun
    all_goals subst hrun
    case notify =>
      refine ⟨h.retryCount, h.connectedBit, h.failBit, h.handler, ?_⟩
      exact (TaskStmt.beforeIncrement_notified _).trans h.task
    all_goals exact ⟨h.retryCount, h.connectedBit, h.failBit, h.handler, h.task⟩
  | abort hcheck => exact ⟨h.retryCount, h.connectedBit, h.failBit, h.handler, h.task⟩

/-- Nobody is in front of a call that could fail. -/
theorem Quiet.atErrorCheck (h : Quiet m) (p : Party) : m.atErrorCheck p = false := by
  cases p with
  | task =>
    apply decide_eq_false
    intro hconnect
    have hfirst := h.firstWait
    rw [hconnect] at hfirst
    cases hfirst
  | handler => simp [State.atErrorCheck, h.handler]
  | caller i => simp [State.atErrorCheck, h.callers i]

theorem Quiet.step (h : Quiet m) (hcall : ∀ i c, l ≠ .call i c) (hs : EarlyStep m l m') : Quiet m' := by
  have hunstarted := h.toUnstarted.step hs
  cases hs with
  | wait mtx hfrom hto => exact ⟨hunstarted, h.wifi, h.callers, hto⟩
  | disconnected hwifi =>
    rw [h.wifi] at hwifi
    cases hwifi
  | retryTest htask =>
    have hfirst := h.firstWait
    rw [htask] at hfirst
    cases hfirst
  | call i c => exact absurd rfl (hcall i c)
  | caller hstmt hrun =>
    rw [h.callers] at hstmt
    subst hstmt
    cases hrun
  | abort hcheck =>
    rw [h.atErrorCheck] at hcheck
    cases hcheck

end Step

/-! ## Runs -/

/-- What holds in every run. -/
structure Booting (s : BootState) : Prop where
  order : s.started = true → s.main = .mqttInit
  unstarted : s.started = false → Unstarted s.manager

theorem booting_init : Booting BootState.init :=
  ⟨fun hstarted => (nomatch hstarted), fun _ => ⟨rfl, rfl, rfl, rfl, rfl⟩⟩

theorem Booting.not_started {s : BootState} (h : Booting s) (hmain : s.main ≠ .mqttInit) : s.started = false := by
  rw [← Bool.not_eq_true]
  exact fun hstarted => hmain (h.order hstarted)

theorem freshEventGroup_eq {m : State} (h : Unstarted m) : BootState.freshEventGroup m = m := by
  obtain ⟨-, hconnected, hfail, -, -⟩ := h
  cases m
  dsimp only at hconnected hfail
  subst hconnected hfail
  rfl

theorem Booting.manager_step {s s' : BootState} (h : Booting s) {l : Label} (hs : s.step (.manager l) = some s') :
    Booting s' := by
  obtain ⟨hallows, hnext, hmain, hstarted⟩ := BootState.step_manager hs
  constructor
  · rw [hmain, hstarted]
    exact h.order
  · rw [hstarted]
    intro hnot
    have hunstarted := h.unstarted hnot
    exact hunstarted.step (earlyStep_of_step hunstarted hnot hallows (State.next_eq_some.mp hnext).2)

theorem Booting.main_step {s s' : BootState} (h : Booting s) {stmt : MainStmt} {ret : EspErr}
    (hs : s.step (.main stmt ret) = some s') : Booting s' ∧ s'.manager = s.manager := by
  have hnot := h.not_started (BootState.main_ne_mqttInit hs)
  have hunstarted := h.unstarted hnot
  have hkeeps : s'.manager = s.manager → (s'.started = true → s'.main = .mqttInit) →
      Booting s' ∧ s'.manager = s.manager := by
    intro hmanager horder
    exact ⟨⟨horder, fun _ => by rw [hmanager]; exact hunstarted⟩, hmanager⟩
  have hagain : s'.started = s.started → s'.started = true → s'.main = .mqttInit := by
    intro heq hstarted
    rw [heq, hnot] at hstarted
    cases hstarted
  cases BootState.mainStep_of_step hs with
  | group _ hmanager _ hstarted => exact hkeeps (hmanager.trans (freshEventGroup_eq hunstarted)) (hagain hstarted)
  | noInterface _ _ hmanager hmain _ => exact hkeeps hmanager (fun _ => hmain)
  | start _ hmanager hmain => exact hkeeps hmanager (fun _ => hmain)
  | other _ hmanager hstarted => exact hkeeps hmanager (hagain hstarted)

def BootLabel.managerLabels : BootLabel → List Label
  | .main _ _ => []
  | .manager l => [l]

/-- A boot is a run of the manager. -/
def bootSimulation : Simulation bootSystem wifiSystem where
  abs := BootState.manager
  trace := BootLabel.managerLabels
  Inv := Booting
  inv_init := booting_init
  abs_init := rfl
  inv_step := by
    intro s l s' h hl
    obtain ⟨-, hs⟩ := BootState.next_eq_some.mp hl
    cases l with
    | main stmt ret => exact (h.main_step hs).1
    | manager l => exact h.manager_step hs
  abs_step := by
    intro s l s' h hl
    obtain ⟨-, hs⟩ := BootState.next_eq_some.mp hl
    cases l with
    | main stmt ret =>
      rw [(h.main_step hs).2]
      rfl
    | manager l =>
      have hnext : wifiSystem.next s.manager l = some s'.manager := (BootState.step_manager hs).2.1
      show (wifiSystem.next s.manager l).bind some = some s'.manager
      rw [hnext]
      rfl

/-- A boot in which every call succeeds. -/
def bootOk : List BootLabel :=
  [.nvsFlashInit, .getInstance, .createEventGroup, .netifInit, .eventLoopCreate, .createWifiSta, .wifiInit,
    .registerWifiEvent, .registerIpEvent, .setMode, .setConfig, .wifiStart].map fun stmt => .main stmt .ok

def BootState.booted (m : State) : BootState := ⟨.mqttInit, m, true, true, true, false⟩

theorem exec_bootOk : bootSystem.exec bootOk = some (.booted State.init) := rfl

theorem BootState.next_booted (m : State) (l : Label) :
    (booted m).next (.manager l) = (m.next l).map BootState.booted := by
  have hallows : (booted m).allows l = true := by
    unfold allows
    split <;> rfl
  show (if (booted m).constructed = true ∧ (booted m).allows l = true then _ else none) = _
  rw [if_pos ⟨rfl, hallows⟩]
  rfl

theorem exec_booted {ks : List Label} {m : State} (h : wifiSystem.exec ks = some m) :
    bootSystem.exec (bootOk ++ ks.map BootLabel.manager) = some (.booted m) := by
  induction ks using List.reverseRecOn generalizing m with
  | nil =>
    obtain rfl := Option.some.inj h
    exact exec_bootOk
  | append_singleton ks l ih =>
    obtain ⟨m₀, hm₀, hl⟩ := wifiSystem.exec_concat_eq_some.mp h
    rw [List.map_append, ← List.append_assoc]
    refine bootSystem.exec_concat_eq_some.mpr ⟨_, ih hm₀, ?_⟩
    have hnext : m₀.next l = some m := hl
    show (BootState.booted m₀).next (.manager l) = _
    rw [BootState.next_booted, hnext]
    rfl

theorem managerLabels_bootOk (ks : List Label) :
    (bootOk ++ ks.map BootLabel.manager).flatMap BootLabel.managerLabels = ks := by
  rw [List.flatMap_append, List.flatMap_map]
  exact List.flatMap_singleton' ks

/-- **What a boot adds.** The tasks of the manager, which run beside `main` from the constructor on, can do exactly
what they can do on their own: whatever `main` and the driver do in between, and whatever fails, they go through a run
of the manager; and each of its runs follows a boot. -/
theorem boot_exact (ks : List Label) (m : State) :
    (∃ ls s, bootSystem.exec ls = some s ∧ ls.flatMap BootLabel.managerLabels = ks ∧ s.manager = m) ↔
      wifiSystem.exec ks = some m := by
  constructor
  · rintro ⟨ls, s, hs, rfl, rfl⟩
    exact bootSimulation.exec hs
  · intro h
    exact ⟨bootOk ++ ks.map BootLabel.manager, .booted m, exec_booted h, managerLabels_bootOk ks, rfl⟩

/-- `updateCredentials` and `reconnect` are called when the driver has been started. -/
def CallsAfterStart (s : BootState) (l : BootLabel) : Prop := ∀ i c, l = .manager (.call i c) → s.started = true

/-- What holds after the steps `ls`, if nobody calls too early. -/
structure QuietBoot (ls : List BootLabel) (s : BootState) : Prop where
  booting : Booting s
  quiet : s.started = false → Quiet s.manager
  noInterface : ∀ ret, .main .createWifiSta ret ∈ ls → ret ≠ .ok → s.main = .mqttInit ∧ s.started = false

theorem QuietBoot.step {ls : List BootLabel} {s s' : BootState} {l : BootLabel} (h : QuietBoot ls s)
    (hcalls : CallsAfterStart s l) (hl : s.next l = some s') : QuietBoot (ls ++ [l]) s' := by
  obtain ⟨-, hs⟩ := BootState.next_eq_some.mp hl
  cases l with
  | main stmt ret =>
    have hmain := BootState.main_ne_mqttInit hs
    have hnot := h.booting.not_started hmain
    obtain ⟨hbooting, hmanager⟩ := h.booting.main_step hs
    refine ⟨hbooting, fun _ => ?_, ?_⟩
    · rw [hmanager]
      exact h.quiet hnot
    · intro ret' hmem hret
      rcases List.mem_append.mp hmem with hbefore | hlast
      · exact absurd (h.noInterface ret' hbefore hret).1 hmain
      · obtain ⟨rfl, rfl⟩ := BootLabel.main.inj (List.mem_singleton.mp hlast)
        cases BootState.mainStep_of_step hs with
        | group hstmt => cases hstmt
        | noInterface _ _ _ hmain' hstarted => exact ⟨hmain', hstarted.trans hnot⟩
        | start hstmt => cases hstmt
        | other hok => exact absurd (hok rfl) hret
  | manager l =>
    obtain ⟨hallows, hnext, hmain, hstarted⟩ := BootState.step_manager hs
    refine ⟨h.booting.manager_step hs, ?_, ?_⟩
    · rw [hstarted]
      intro hnot
      have hquiet := h.quiet hnot
      apply hquiet.step _ (earlyStep_of_step hquiet.toUnstarted hnot hallows (State.next_eq_some.mp hnext).2)
      rintro i c rfl
      rw [hcalls i c rfl] at hnot
      cases hnot
    · intro ret hmem hret
      rw [hmain, hstarted]
      rcases List.mem_append.mp hmem with hbefore | hlast
      · exact h.noInterface ret hbefore hret
      · cases List.mem_singleton.mp hlast

theorem quietBoot_of_exec {ls : List BootLabel} {s : BootState} (h : bootSystem.exec ls = some s)
    (hcalls : bootSystem.Meets CallsAfterStart ls) : QuietBoot ls s := by
  refine bootSystem.run_invariant_of_meets (C := CallsAfterStart) (I := QuietBoot) ?_ ?_ ls s h hcalls
  · refine ⟨booting_init, fun _ => ?_, fun ret hmem => absurd hmem List.not_mem_nil⟩
    exact ⟨⟨rfl, rfl, rfl, rfl, rfl⟩, rfl, fun _ => rfl, rfl⟩
  · exact fun ls s l s' h hC hl => h.step hC hl

theorem Quiet.not_callsConnect {m m' : State} {l : Label} (h : Quiet m) (hl : m.next l = some m') :
    ¬ l.CallsConnect := by
  have hs := (State.next_eq_some.mp hl).2
  have habort : ∀ p, l ≠ .abort p := by
    rintro p rfl
    have hcheck := (State.step_abort hs).1
    rw [h.atErrorCheck p] at hcheck
    cases hcheck
  rintro ((rfl | rfl) | rfl | rfl)
  · have hfirst := h.firstWait
    rw [(State.step_task hs).1] at hfirst
    cases hfirst
  · exact habort _ rfl
  · have hstmt := (State.step_handler hs).1
    rw [h.handler] at hstmt
    cases hstmt
  · exact habort _ rfl

/-- **A quiet boot.** In every interleaving of `main` with the tasks of the manager in which `updateCredentials` and
`reconnect` are called only when the driver has been started, `esp_wifi_connect` is called only then as well; before
that `reconnectTask` stays in its first wait, and the state and the counter are as they were constructed. Where there is
no interface, `init` returns early, `main` goes on to MQTT, and so it stays for ever. -/
theorem quiet_until_started (ls : List BootLabel) (s : BootState) (h : bootSystem.exec ls = some s)
    (hcalls : bootSystem.Meets CallsAfterStart ls) :
    (s.started = false → Quiet s.manager) ∧
      (∀ pre l post, ls = pre ++ .manager l :: post → l.CallsConnect →
        ∃ t, bootSystem.exec pre = some t ∧ t.started = true) ∧
      ∀ ret, .main .createWifiSta ret ∈ ls → ret ≠ .ok → s.main = .mqttInit ∧ Quiet s.manager := by
  have hquiet := quietBoot_of_exec h hcalls
  refine ⟨hquiet.quiet, ?_, ?_⟩
  · rintro pre l post rfl hconnect
    rw [List.append_cons] at h hcalls
    obtain ⟨t', ht'⟩ := bootSystem.exec_prefix h
    obtain ⟨t, ht, hl⟩ := bootSystem.exec_concat_eq_some.mp ht'
    refine ⟨t, ht, ?_⟩
    have hprefix : pre <+: pre ++ [.manager l] ++ post := (List.prefix_append _ _).trans (List.prefix_append _ _)
    have hpre := quietBoot_of_exec ht (hcalls.of_prefix hprefix)
    have hnext := (BootState.step_manager (BootState.next_eq_some.mp hl).2).2.1
    by_contra hnot
    rw [Bool.not_eq_true] at hnot
    exact (hpre.quiet hnot).not_callsConnect hnext hconnect
  · intro ret hmem hret
    obtain ⟨hmain, hnot⟩ := hquiet.noInterface ret hmem hret
    exact ⟨hmain, hquiet.quiet hnot⟩

/-- Without an interface. -/
def bootWithoutInterface : List BootLabel :=
  [.main .nvsFlashInit .nvsNoFreePages, .main .nvsFlashErase .ok, .main .nvsFlashInitAgain .ok, .main .getInstance .ok,
    .manager (.task .lock), .main .createEventGroup .ok, .main .netifInit .ok, .manager (.task .firstTest),
    .main .eventLoopCreate .ok, .main .createWifiSta .fail, .manager (.task .firstBlock)]

theorem quiet_until_started_without_interface :
    ∃ s, bootSystem.exec bootWithoutInterface = some s ∧ s.main = .mqttInit ∧ Quiet s.manager := by
  obtain ⟨s, hs⟩ : ∃ s, bootSystem.exec bootWithoutInterface = some s := ⟨_, rfl⟩
  have hcalls : bootSystem.Meets CallsAfterStart bootWithoutInterface := by
    rintro pre l hpre t - i c rfl
    have hmem := hpre.subset (List.mem_append_right pre List.mem_cons_self)
    simp [bootWithoutInterface] at hmem
  exact ⟨s, hs, (quiet_until_started _ s hs hcalls).2.2 .fail (by simp [bootWithoutInterface]) (by decide)⟩

end MultisensorStation.Connectivity
