import MultisensorStation.Base.Runs
import Mathlib.Logic.Function.Basic

/-!
# `OtaManager`

The two threads that `OtaManager::start` leaves behind, one statement a step, in any order.

* `Stmt` : the statements of `monitorButton`, `checkForOtaUpdates`, `enterOtaMode` and `performOtaUpdate`;
* `otaSystem` : the step function; a `Label` names the thread and what the outside world answers it;
* `PassesBehind` : the step that lets a second thread into `performOtaUpdate`, past a guard that the first one has
  passed but not closed yet;
* `one_update_iff` : the runs without such a step are those in which only one update ever runs.
-/

namespace MultisensorStation.Ota
open MultisensorStation.Base

inductive OtaState where
  | idle
  | checking
  | downloading
  | applying
  | success
  | failed
  deriving DecidableEq

inductive OtaThread where
  | button
  | check
  deriving DecidableEq

def OtaThread.other : OtaThread → OtaThread
  | .button => .check
  | .check => .button

/-- What a thread executes next. -/
inductive Stmt where
  /-- `gpio_get_level(BUTTON_GPIO) == 0` -/
  | readButton
  /-- `getState() == OtaState::Idle` in `checkForOtaUpdates` -/
  | testIdle
  | checkOtaAvailability
  /-- `getState() != OtaState::Idle` in `enterOtaMode` -/
  | guard
  -- `performOtaUpdate`
  | setChecking
  | setDownloading
  | httpsOta
  | setSuccess
  | setFailed
  | restart
  deriving DecidableEq

/-- The start of the loop of a thread. -/
def OtaThread.loop : OtaThread → Stmt
  | .button => .readButton
  | .check => .testIdle

structure State where
  state : OtaState
  /-- the values that `state` has taken, oldest first; nothing reads them -/
  values : List OtaState
  stmt : OtaThread → Stmt
  /-- `esp_restart` was called -/
  halted : Bool

def State.init : State where
  state := .idle
  values := [.idle]
  stmt := OtaThread.loop
  halted := false

/-- The next statement of `thread`, where `answer` is that the button is pressed, that an update is available, or that
`esp_https_ota` succeeds; other statements do not ask. -/
structure Label where
  thread : OtaThread
  answer : Bool
  deriving DecidableEq

namespace State

def goto (s : State) (t : OtaThread) (stmt : Stmt) : State := { s with stmt := Function.update s.stmt t stmt }

/-- `StatefulObject::setState` -/
def setState (s : State) (newState : OtaState) : State :=
  if s.state ≠ newState then { s with state := newState, values := s.values ++ [newState] } else s

def run (s : State) (t : OtaThread) (answer : Bool) : Stmt → State
  | .readButton => s.goto t (if answer then .guard else .readButton)
  | .testIdle => s.goto t (if s.state = .idle then .checkOtaAvailability else .testIdle)
  | .checkOtaAvailability => s.goto t (if answer then .guard else .testIdle)
  | .guard => s.goto t (if s.state ≠ .idle then t.loop else .setChecking)
  | .setChecking => (s.setState .checking).goto t .setDownloading
  | .setDownloading => (s.setState .downloading).goto t .httpsOta
  | .httpsOta => s.goto t (if answer then .setSuccess else .setFailed)
  | .setSuccess => (s.setState .success).goto t .restart
  | .setFailed => (s.setState .failed).goto t .restart
  | .restart => { s with halted := true }

def next (s : State) (l : Label) : Option State :=
  if s.halted then none else some (s.run l.thread l.answer (s.stmt l.thread))

end State

def otaSystem : System State Label := ⟨State.init, State.next⟩

/-! ## Updates -/

/-- The statements of `performOtaUpdate`. -/
def Stmt.inUpdate : Stmt → Bool
  | .setChecking | .setDownloading | .httpsOta | .setSuccess | .setFailed | .restart => true
  | _ => false

/-- `esp_https_ota` ends in `last`. -/
def updateValues (last : OtaState) : List OtaState := [.idle, .checking, .downloading, last]

/-- The two threads are not both inside `performOtaUpdate`, and the state takes the values of one update. -/
structure OneUpdate (s : State) : Prop where
  alone : ¬ ((s.stmt .button).inUpdate = true ∧ (s.stmt .check).inUpdate = true)
  values : s.values <+: updateValues .success ∨ s.values <+: updateValues .failed

/-- The guard of `enterOtaMode` finds the state idle while the other thread has passed it and has not set the state
yet. -/
def PassesBehind (s : State) (l : Label) : Prop :=
  s.stmt l.thread = .guard ∧ s.state = .idle ∧ s.stmt l.thread.other = .setChecking

instance (s : State) (l : Label) : Decidable (PassesBehind s l) := inferInstanceAs (Decidable (_ ∧ _ ∧ _))

/-- The values that the state has taken when a thread is about to execute the statement inside its update. -/
def Stmt.Follows : Stmt → List OtaState → Prop
  | .setChecking, vs => vs = [.idle]
  | .setDownloading, vs => vs = [.idle, .checking]
  | .httpsOta, vs | .setSuccess, vs | .setFailed, vs => vs = [.idle, .checking, .downloading]
  | .restart, vs => vs = updateValues .success ∨ vs = updateValues .failed
  | _, _ => True

structure Inv (s : State) : Prop where
  alone : ∀ t, (s.stmt t).inUpdate = true → (s.stmt t.other).inUpdate = false
  last : s.values.getLast? = some s.state
  idle : (∀ t, (s.stmt t).inUpdate = false) → s.values = [.idle]
  follows : ∀ t, (s.stmt t).Follows s.values

theorem OtaThread.eq_or_eq_other (t v : OtaThread) : v = t ∨ v = t.other := by
  cases t <;> cases v <;> decide

theorem OtaThread.other_ne (t : OtaThread) : t.other ≠ t := by
  cases t <;> decide

theorem OtaThread.other_other (t : OtaThread) : t.other.other = t := by
  cases t <;> rfl

theorem Stmt.follows_of_outside {stmt : Stmt} (h : stmt.inUpdate = false) (vs : List OtaState) : stmt.Follows vs := by
  cases stmt <;> trivial

theorem OtaThread.loop_outside (t : OtaThread) : t.loop.inUpdate = false := by
  cases t <;> rfl

namespace State
variable {s : State} {t : OtaThread} {stmt : Stmt}

@[simp] theorem stmt_goto_self : (s.goto t stmt).stmt t = stmt := Function.update_self ..

@[simp] theorem stmt_goto_other : (s.goto t stmt).stmt t.other = s.stmt t.other :=
  Function.update_of_ne t.other_ne ..

theorem setState_of_ne {v : OtaState} (h : s.state ≠ v) :
    s.setState v = { s with state := v, values := s.values ++ [v] } := if_pos h

end State

namespace Inv
variable {s : State} {t : OtaThread} {stmt : Stmt}

theorem init : Inv State.init where
  alone := by intro t; cases t <;> decide
  last := rfl
  idle := fun _ => rfl
  follows := by intro t; cases t <;> trivial

/-- One thread is inside its update and the other is not. -/
theorem inside (hin : (s.stmt t).inUpdate = true) (hother : (s.stmt t.other).inUpdate = false)
    (hlast : s.values.getLast? = some s.state) (hfollows : (s.stmt t).Follows s.values) : Inv s := by
  refine ⟨fun v hv => ?_, hlast, fun hall => ?_, fun v => ?_⟩
  · rcases t.eq_or_eq_other v with rfl | rfl
    · exact hother
    · rw [hother] at hv
      cases hv
  · rw [hall t] at hin
    cases hin
  · rcases t.eq_or_eq_other v with rfl | rfl
    · exact hfollows
    · exact Stmt.follows_of_outside hother _

/-- A thread that stays outside does not matter. -/
theorem outside (h : Inv s) (hold : (s.stmt t).inUpdate = false) (hnew : stmt.inUpdate = false) :
    Inv (s.goto t stmt) := by
  refine ⟨fun v hv => ?_, h.last, fun hall => ?_, fun v => ?_⟩
  · rcases t.eq_or_eq_other v with rfl | rfl
    · rw [State.stmt_goto_self, hnew] at hv
      cases hv
    · rw [OtaThread.other_other, State.stmt_goto_self]
      exact hnew
  · apply h.idle
    intro v
    rcases t.eq_or_eq_other v with rfl | rfl
    · exact hold
    · have := hall t.other
      rwa [State.stmt_goto_other] at this
  · rcases t.eq_or_eq_other v with rfl | rfl
    · rw [State.stmt_goto_self]
      exact Stmt.follows_of_outside hnew _
    · rw [State.stmt_goto_other]
      exact h.follows _

/-- A thread inside its update goes on, with the state as it is. -/
theorem goOn (h : Inv s) (hin : (s.stmt t).inUpdate = true) (hstmt : stmt.inUpdate = true)
    (hfollows : stmt.Follows s.values) : Inv (s.goto t stmt) := by
  apply inside (t := t)
  · rwa [State.stmt_goto_self]
  · rw [State.stmt_goto_other]
    exact h.alone t hin
  · exact h.last
  · rwa [State.stmt_goto_self]

/-- A thread inside its update sets the state and goes on. -/
theorem setState (h : Inv s) (hin : (s.stmt t).inUpdate = true) {v : OtaState} (hv : s.state ≠ v)
    (hstmt : stmt.inUpdate = true) (hfollows : stmt.Follows (s.values ++ [v])) :
    Inv ((s.setState v).goto t stmt) := by
  rw [State.setState_of_ne hv]
  apply inside (t := t)
  · rwa [State.stmt_goto_self]
  · rw [State.stmt_goto_other]
    exact h.alone t hin
  · exact List.getLast?_concat ..
  · rwa [State.stmt_goto_self]

/-- A thread that finds the state idle is alone, unless the other one has just passed the guard. -/
theorem other_outside (h : Inv s) (hidle : s.state = .idle) (hother : s.stmt t.other ≠ .setChecking) :
    (s.stmt t.other).inUpdate = false := by
  have hlast := h.last
  have hfollows := h.follows t.other
  rw [hidle] at hlast
  cases hst : s.stmt t.other
  case setChecking => exact absurd hst hother
  case restart =>
    rw [hst] at hfollows
    rcases hfollows with hvs | hvs <;> rw [hvs] at hlast <;> cases hlast
  case setDownloading | httpsOta | setSuccess | setFailed =>
    rw [hst] at hfollows
    rw [show s.values = _ from hfollows] at hlast
    cases hlast
  all_goals rfl

/-- What the values say about the state. -/
theorem state_of_values (h : Inv s) {vs : List OtaState} {v : OtaState} (hvs : s.values = vs)
    (hv : vs.getLast? = some v) : s.state = v := by
  have hlast := h.last
  rw [hvs, hv, Option.some.injEq] at hlast
  exact hlast.symm

/-- The next value of an update, after those that its statement follows. -/
theorem advance (h : Inv s) (hin : (s.stmt t).inUpdate = true) {vs : List OtaState} (hvs : s.values = vs)
    {last v : OtaState} (hlast : vs.getLast? = some last) (hv : last ≠ v) (hstmt : stmt.inUpdate = true)
    (hfollows : stmt.Follows (vs ++ [v])) : Inv ((s.setState v).goto t stmt) := by
  apply h.setState hin _ hstmt
  · rwa [hvs]
  · rwa [h.state_of_values hvs hlast]

/-- A thread that passes the guard begins an update. -/
theorem passGuard (h : Inv s) (hst : s.stmt t = .guard) (hidle : s.state = .idle)
    (hother : s.stmt t.other ≠ .setChecking) : Inv (s.goto t .setChecking) := by
  have houtside := h.other_outside hidle hother
  have hquiet : ∀ v, (s.stmt v).inUpdate = false := by
    intro v
    rcases t.eq_or_eq_other v with rfl | rfl
    · rw [hst]
      rfl
    · exact houtside
  apply inside (t := t)
  · rw [State.stmt_goto_self]
    rfl
  · rwa [State.stmt_goto_other]
  · exact h.last
  · rw [State.stmt_goto_self]
    exact h.idle hquiet

theorem step {l : Label} {s' : State} (h : Inv s) (hl : ¬ PassesBehind s l) (hs : s.next l = some s') : Inv s' := by
  obtain ⟨t, answer⟩ := l
  obtain ⟨-, hs⟩ := Option.ite_none_left_eq_some.mp hs
  obtain rfl := Option.some.inj hs
  have hfollows := h.follows t
  dsimp only
  cases hst : s.stmt t <;> rw [hst] at hfollows <;> unfold State.run
  case readButton =>
    apply h.outside (by rw [hst]; rfl)
    cases answer <;> rfl
  case testIdle =>
    apply h.outside (by rw [hst]; rfl)
    split_ifs <;> rfl
  case checkOtaAvailability =>
    apply h.outside (by rw [hst]; rfl)
    cases answer <;> rfl
  case guard =>
    by_cases hidle : s.state = .idle
    · rw [if_neg (not_not_intro hidle)]
      exact h.passGuard hst hidle (fun hc => hl ⟨hst, hidle, hc⟩)
    · rw [if_pos hidle]
      exact h.outside (by rw [hst]; rfl) t.loop_outside
  case httpsOta =>
    apply h.goOn (by rw [hst]; rfl)
    · cases answer <;> rfl
    · cases answer <;> exact hfollows
  case setChecking | setDownloading => exact h.advance (by rw [hst]; rfl) hfollows rfl (by decide) rfl rfl
  case setSuccess => exact h.advance (by rw [hst]; rfl) hfollows rfl (by decide) rfl (Or.inl rfl)
  case setFailed => exact h.advance (by rw [hst]; rfl) hfollows rfl (by decide) rfl (Or.inr rfl)
  case restart => exact ⟨h.alone, h.last, h.idle, h.follows⟩

theorem oneUpdate (h : Inv s) : OneUpdate s := by
  constructor
  · rintro ⟨hbutton, hcheck⟩
    have := h.alone .button hbutton
    rw [OtaThread.other, hcheck] at this
    cases this
  · by_cases hquiet : ∀ t, (s.stmt t).inUpdate = false
    · left
      rw [h.idle hquiet]
      exact ⟨[.checking, .downloading, .success], rfl⟩
    · rw [not_forall] at hquiet
      obtain ⟨t, ht⟩ := hquiet
      have hfollows := h.follows t
      cases hst : s.stmt t <;> rw [hst] at ht hfollows
      case restart =>
        rcases hfollows with hvs | hvs
        · exact Or.inl (hvs ▸ List.prefix_refl _)
        · exact Or.inr (hvs ▸ List.prefix_refl _)
      case setChecking => exact Or.inl ⟨[.checking, .downloading, .success], congrArg (· ++ _) hfollows⟩
      case setDownloading => exact Or.inl ⟨[.downloading, .success], congrArg (· ++ _) hfollows⟩
      case httpsOta | setSuccess | setFailed => exact Or.inl ⟨[.success], congrArg (· ++ _) hfollows⟩
      all_goals exact absurd rfl ht

end Inv

/-- Past the guard the second thread is inside the update, as the first one is. -/
theorem not_oneUpdate_of_passesBehind {s s' : State} {l : Label} (hl : PassesBehind s l) (hs : s.next l = some s') :
    ¬ OneUpdate s' := by
  obtain ⟨t, answer⟩ := l
  obtain ⟨hguard, hidle, hother⟩ := hl
  obtain ⟨-, hs⟩ := Option.ite_none_left_eq_some.mp hs
  obtain rfl := Option.some.inj hs
  intro h
  dsimp only at hguard hother h
  rw [hguard, State.run, if_neg (not_not_intro hidle)] at h
  have hself : ((s.goto t .setChecking).stmt t).inUpdate = true := by
    rw [State.stmt_goto_self]
    rfl
  have hboth : ((s.goto t .setChecking).stmt t.other).inUpdate = true := by
    rw [State.stmt_goto_other, hother]
    rfl
  cases t with
  | button => exact h.alone ⟨hself, hboth⟩
  | check => exact h.alone ⟨hboth, hself⟩

/-- **When only one update runs.** The states of a run all have at most one thread in `performOtaUpdate`, and values of
one update, exactly when no step of the run passes the guard behind the other thread. -/
theorem one_update_iff (ls : List Label) (s : State) (h : otaSystem.exec ls = some s) :
    otaSystem.Meets (fun s l => ¬ PassesBehind s l) ls ↔
      ∀ pre t, pre <+: ls → otaSystem.exec pre = some t → OneUpdate t :=
  otaSystem.meets_iff_forall_states Inv.init (fun _ _ _ hi hl hs => hi.step hl hs) (fun _ hi => hi.oneUpdate)
    (fun _ _ _ hl hs => not_oneUpdate_of_passesBehind (not_not.mp hl) hs) h

/-- The button is pressed while the other thread waits for the server, and finds the guard closed afterwards. -/
theorem one_update_iff_guarded :
    let run : List Label := [⟨.check, false⟩, ⟨.button, true⟩, ⟨.check, true⟩, ⟨.check, false⟩, ⟨.check, false⟩,
      ⟨.button, false⟩, ⟨.check, false⟩, ⟨.check, false⟩, ⟨.check, false⟩, ⟨.check, false⟩]
    ∃ s, otaSystem.exec run = some s ∧ s.halted = true ∧ OneUpdate s ∧ s.values = updateValues .failed := by
  intro run
  refine ⟨_, rfl, rfl, ?_, rfl⟩
  have hrun := one_update_iff run _ rfl
  exact hrun.mp (otaSystem.meets_of_forall_take (by decide)) run _ (List.prefix_refl _) rfl

/-- Both threads find the state idle before either sets it: two updates run at a time. -/
theorem two_updates :
    let run : List Label := [⟨.check, false⟩, ⟨.button, true⟩, ⟨.check, true⟩, ⟨.check, false⟩, ⟨.button, false⟩,
      ⟨.check, false⟩, ⟨.check, false⟩, ⟨.button, false⟩]
    ∃ s, otaSystem.exec run = some s ∧ s.stmt .check = .httpsOta ∧ s.stmt .button = .setDownloading ∧
      s.values = [.idle, .checking, .downloading, .checking] ∧ ¬ OneUpdate s := by
  intro run
  refine ⟨_, rfl, rfl, rfl, rfl, ?_⟩
  intro h
  exact h.alone ⟨rfl, rfl⟩

end MultisensorStation.Ota
