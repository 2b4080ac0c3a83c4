import MultisensorStation.Connectivity.Backoff

/-!
# How long `reconnectTask` waits for a connection

Each attempt ends in one call of `cv.wait_for`, which is given the delay of the moment; spurious wake-ups do not prolong
it. A reset of the counter can come between the increment and this call.

* `Waits`, `addWait` : the times that these calls are given since the last reset of the counter, and of them the one for
  an attempt that was counted before the reset;
* `downtime` : the delays of so many attempts in a row;
* `waits_bounded` : they are never more than 300 seconds for each attempt that is counted and for one more;
* `waits_add_up` : in the runs in which the counter and the delay are reset together they are `downtime` and the early
  one, at most 470 seconds; and they are 310 seconds and the early one when the task gives up.
-/

namespace MultisensorStation.Connectivity
open MultisensorStation.Base

/-- The calls of `wait_for` since the last reset of the counter. -/
structure Waits where
  /-- the times that they were given, in seconds -/
  waited : Int
  /-- of these, the time for an attempt that was counted before the reset -/
  early : Int
  /-- the task stands in front of the call; whether its attempt was counted since the reset -/
  atCall : Option Bool

def Waits.init : Waits := ⟨0, 0, none⟩

/-- `cv.wait_for` is called with the delay; when it is under way already, its predicate is tested once more. -/
def Waits.call (w : Waits) (delay : Int) : Waits :=
  match w.atCall with
  | none => w
  | some true => { w with waited := w.waited + delay, atCall := none }
  | some false => { waited := w.waited + delay, early := w.early + delay, atCall := none }

def addWait (w : Waits) (s : State) (l : Label) : Waits :=
  if l.IsReset then { Waits.init with atCall := w.atCall.map fun _ => false }
  else if l = .task .increment then { w with atCall := some true }
  else if l = .task .secondTest then w.call s.backoffDelay
  else w

/-- The runs of the manager with the time of the waits. -/
def timedSystem : System (State × Waits) Label := wifiSystem.withCost addWait Waits.init

/-- The delays of the first `r` attempts. -/
def downtime : Nat → Int
  | 0 => 0
  | r + 1 => downtime r + backoff r

theorem backoff_nonneg (r : Nat) : 0 ≤ backoff r := by
  have hpow : (0 : Int) ≤ 2 ^ (r : Int).toNat := Int.pow_nonneg (by decide)
  unfold backoff
  omega

theorem downtime_mono {m n : Nat} (h : m ≤ n) : downtime m ≤ downtime n := by
  induction h with
  | refl => exact Int.le_refl _
  | @step n _ ih =>
    have hpos := backoff_nonneg n
    show downtime m ≤ downtime n + backoff n
    omega

/-- The delay of an attempt that the budget allows. -/
theorem backoff_le_160 {r : Nat} (h : r < 5) : backoff r ≤ 160 := by
  have hcases : r = 0 ∨ r = 1 ∨ r = 2 ∨ r = 3 ∨ r = 4 := by omega
  rcases hcases with rfl | rfl | rfl | rfl | rfl <;> decide

/-! ## One step -/

section Step
variable (w : Waits) (s : State)

theorem addWait_reset : addWait w s (.handler .gotIpResetCount) =
    { Waits.init with atCall := w.atCall.map fun _ => false } := if_pos rfl

theorem addWait_increment : addWait w s (.task .increment) = { w with atCall := some true } := by
  unfold addWait
  rw [if_neg (by simp [Label.IsReset]), if_pos rfl]

theorem addWait_secondTest : addWait w s (.task .secondTest) = w.call s.backoffDelay := by
  unfold addWait
  rw [if_neg (by simp [Label.IsReset]), if_neg (by simp), if_pos rfl]

theorem addWait_of_ne {l : Label} (hreset : ¬ l.IsReset) (hinc : l ≠ .task .increment) (htest : l ≠ .task .secondTest) :
    addWait w s l = w := by
  unfold addWait
  rw [if_neg hreset, if_neg hinc, if_neg htest]

end Step

/-- What a step does to the waits, to the counter and to a task in front of the call of `wait_for`. -/
inductive WaitedStep (w : Waits) (s s' : State) : Waits → Prop where
  | reset (hcount : s'.retryCount = 0) (htask : s'.task = s.task) (hdelay : s'.backoffDelay = s.backoffDelay) :
      WaitedStep w s s' { Waits.init with atCall := w.atCall.map fun _ => false }
  | increment (htask : s.task = .increment) (htask' : s'.task = .secondTest)
      (hcount : s'.retryCount = s.retryCount + 1) : WaitedStep w s s' { w with atCall := some true }
  | secondTest (htask : s.task = .secondTest) (hcount : s'.retryCount = s.retryCount) :
      WaitedStep w s s' (w.call s.backoffDelay)
  | same (hcount : s'.retryCount = s.retryCount)
      (htask : s.task = .secondTest → s'.task = .secondTest ∧ s'.backoffDelay = s.backoffDelay) : WaitedStep w s s' w

namespace State
variable {s s' : State}

theorem waitedStep_of_runTask (w : Waits) {stmt : TaskStmt} (htask : s.task = stmt) (h : s.runTask stmt = some s') :
    WaitedStep w s s' (addWait w s (.task stmt)) := by
  cases stmt
  all_goals simp only [runTask, Option.ite_none_left_eq_some, Option.some.injEq] at h
  case increment =>
    rw [addWait_increment]
    exact h ▸ .increment htask rfl rfl
  case secondTest =>
    rw [addWait_secondTest]
    exact h ▸ .secondTest htask rfl
  all_goals
    rw [addWait_of_ne w s (by simp [Label.IsReset]) (by simp) (by simp)]
    exact .same (by grind) (fun hat => by rw [htask] at hat; cases hat)

theorem waitedStep_of_step (w : Waits) {l : Label} (h : s.step l = some s') :
    WaitedStep w s s' (addWait w s l) := by
  cases hl : l.taskStmt with
  | some stmt =>
    obtain rfl : l = .task stmt := by
      cases l
      case task stmt' => exact congrArg Label.task (Option.some.inj hl)
      all_goals cases hl
    exact waitedStep_of_runTask w (step_task h).1 (step_task h).2
  | none =>
    by_cases hreset : l.IsReset
    · obtain rfl := hreset
      obtain ⟨-, rfl⟩ := step_reset h
      rw [addWait_reset]
      exact .reset rfl rfl rfl
    · have hothers := othersStep_of_step hl h
      rw [addWait_of_ne w s hreset (by rintro rfl; cases hl) (by rintro rfl; cases hl)]
      refine .same (hothers.retryCount hreset) (fun hat => ⟨?_, hothers.backoffDelay⟩)
      rcases hothers.task with hsame | hnotified | ⟨hblocked, -⟩
      · exact hsame.trans hat
      · rw [hnotified, hat]
        rfl
      · rw [hat] at hblocked
        cases hblocked

end State

/-! ## Runs -/

/-- Each counted attempt accounts for 300 seconds, and the call that the task stands in front of is still to come. -/
structure WaitsBounded (w : Waits) (s : State) : Prop where
  early_nonneg : 0 ≤ w.early
  early_le : w.early ≤ 300
  early_le_waited : w.early ≤ w.waited
  waited_le : w.waited + (if w.atCall = some true then 300 else 0) ≤ w.early + 300 * s.retryCount
  early_atCall : w.atCall = some false → w.early = 0

theorem WaitsBounded.step {w w' : Waits} {s s' : State} (h : WaitsBounded w s) (hlow : 10 ≤ s.backoffDelay)
    (hhigh : s.backoffDelay ≤ 300) (hs : WaitedStep w s s' w') : WaitsBounded w' s' := by
  obtain ⟨hnonneg, hearly, hle, hwaited, hat⟩ := h
  cases hs with
  | reset hcount =>
    refine ⟨Int.le_refl 0, show (0 : Int) ≤ 300 by decide, Int.le_refl 0, ?_, fun _ => rfl⟩
    rw [hcount]
    cases w.atCall <;> simp [Waits.init]
  | increment htask htask' hcount =>
    refine ⟨hnonneg, hearly, hle, ?_, (fun hfalse => nomatch hfalse)⟩
    rw [hcount]
    simp only [if_true]
    split_ifs at hwaited <;> omega
  | secondTest htask hcount =>
    unfold Waits.call
    cases hcall : w.atCall with
    | none => exact ⟨hnonneg, hearly, hle, by rwa [hcount], by simp [hcall]⟩
    | some counted =>
      rw [hcall] at hwaited hat
      cases counted with
      | true =>
        rw [if_pos rfl] at hwaited
        exact ⟨hnonneg, hearly, by simp; omega, by simp; omega, by simp⟩
      | false =>
        have hzero := hat rfl
        rw [if_neg (by simp)] at hwaited
        exact ⟨by simp; omega, by simp; omega, by simp; omega, by simp; omega, by simp⟩
  | same hcount => exact ⟨hnonneg, hearly, hle, by rwa [hcount], hat⟩

/-- **The waits are bounded.** In every run the calls of `cv.wait_for` since the last reset of the counter were given at
most 300 seconds for each attempt that is counted, and 300 more for at most one attempt that was counted before the reset
and had not called it then; so 1800 in all. -/
theorem waits_bounded (ls : List Label) (s : State) (w : Waits) (h : timedSystem.exec ls = some (s, w)) :
    0 ≤ w.early ∧ w.early ≤ 300 ∧ w.early ≤ w.waited ∧ w.waited ≤ w.early + 300 * s.retryCount ∧ w.waited ≤ 1800 := by
  have hinv : WaitsBounded w s := by
    refine wifiSystem.cost_invariant (C := fun _ _ => True) (I := WaitsBounded) ?_ ?_ h (wifiSystem.meets_true ls)
    · exact ⟨Int.le_refl 0, by decide, Int.le_refl 0, by decide, fun _ => rfl⟩
    · intro ls w s l s' hs hw _ hl
      obtain ⟨hlow, hhigh⟩ := backoffDelay_of_exec hs
      exact hw.step hlow hhigh (State.waitedStep_of_step w (State.next_eq_some.mp hl).2)
  have hcount : s.retryCount ≤ 5 := (budget_of_exec (wifiSystem.exec_of_withCost h)).count_le
  have hearly := hinv.early_le
  have hwaited := hinv.waited_le
  refine ⟨hinv.early_nonneg, hearly, hinv.early_le_waited, ?_, ?_⟩
  · split_ifs at hwaited <;> omega
  · split_ifs at hwaited <;> omega

/-- The fifth attempt is counted, an IP resets the counter, a call of `reconnect` sets the state back, and only then the
wait begins. -/
def lateWait : List Label :=
  firstDisconnect ++ (List.replicate 4 failedAttempt).flatten ++ wakeUp ++ [.task .connect, .task .increment,
    .event .gotIp, .handler .gotIpSetState, .handler .gotIpResetCount, .call 0 .reconnect, .caller 0 .setState,
    .task .secondTest]

/-- 160 seconds with the counter at 0. -/
theorem waits_bounded_late_wait :
    ∃ s w, timedSystem.exec lateWait = some (s, w) ∧ s.retryCount = 0 ∧ w.waited = 160 ∧
      w.waited ≤ w.early + 300 * s.retryCount ∧ w.waited ≤ 1800 := by
  have hend : (timedSystem.exec lateWait).map (fun s => (s.1.retryCount, s.2.waited)) = some (0, 160) := by decide +kernel
  obtain ⟨⟨s, w⟩, hs, hat⟩ := Option.map_eq_some_iff.mp hend
  obtain ⟨hcount, hwaited⟩ := Prod.mk.inj hat
  exact ⟨s, w, hs, hcount, hwaited, (waits_bounded _ s w hs).2.2.2⟩

/-- What the times of the waits have to do with the counter and the delay. -/
structure AddsUp (w : Waits) (s : State) : Prop where
  agrees : Agrees s
  atCall : w.atCall ≠ none → s.task = .secondTest
  counted : w.atCall = some true → 1 ≤ s.retryCount
  notCounted : w.atCall = some false → w.early = 0 ∧ ∃ r : Nat, r < 5 ∧ s.backoffDelay = backoff r
  early : w.early = 0 ∨ ∃ r : Nat, r < 5 ∧ w.early = backoff r
  waited : w.waited = w.early + downtime (s.retryCount.toNat - if w.atCall = some true then 1 else 0)

/-- In front of the call the delay is the one of the attempt that was counted last. -/
theorem AddsUp.delay {w : Waits} {s : State} (h : AddsUp w s) (hat : w.atCall = some true) :
    s.backoffDelay = backoff (s.retryCount.toNat - 1 : Nat) := by
  have hcount := h.counted hat
  have hdelay := h.agrees.delay
  rw [h.atCall (by rw [hat]; simp)] at hdelay
  have hone : ((s.retryCount.toNat - 1 : Nat) : Int) = s.retryCount - 1 := by omega
  rw [hone]
  rcases hdelay with hzero | hsame
  · omega
  · exact hsame

theorem AddsUp.step {w w' : Waits} {s s' : State} (h : AddsUp w s) (hle : s.retryCount ≤ 5) (hagrees : Agrees s')
    (hs : WaitedStep w s s' w') : AddsUp w' s' := by
  cases hs with
  | reset hcount htask hdelay =>
    refine ⟨hagrees, fun hat => ?_, fun hat => ?_, fun hat => ⟨rfl, ?_⟩, Or.inl rfl, ?_⟩
    · rw [htask]
      apply h.atCall
      rintro hnone
      simp [hnone] at hat
    · obtain ⟨_, -, hfalse⟩ := Option.map_eq_some_iff.mp hat
      cases hfalse
    · obtain ⟨counted, hcall, -⟩ := Option.map_eq_some_iff.mp hat
      rw [hdelay]
      cases counted with
      | true => exact ⟨s.retryCount.toNat - 1, by omega, h.delay hcall⟩
      | false => exact (h.notCounted hcall).2
    · rw [hcount]
      simp [Waits.init, downtime]
  | increment htask htask' hcount =>
    have hnone : w.atCall = none := by
      by_contra hat
      have hsecond := h.atCall hat
      rw [htask] at hsecond
      cases hsecond
    have hnonneg := h.agrees.count_nonneg
    refine ⟨hagrees, fun _ => htask', fun _ => by omega, (fun hat => nomatch hat), h.early, ?_⟩
    have hwaited := h.waited
    rw [hnone, if_neg (by simp), Nat.sub_zero] at hwaited
    have hone : s'.retryCount.toNat - 1 = s.retryCount.toNat := by omega
    show w.waited = w.early + downtime (s'.retryCount.toNat - if some true = some true then 1 else 0)
    rw [if_pos rfl, hone, hwaited]
  | secondTest htask hcount =>
    have hwaited := h.waited
    unfold Waits.call
    cases hcall : w.atCall with
    | none =>
      refine ⟨hagrees, fun hat => absurd hcall hat, fun hat => ?_, fun hat => ?_, h.early, by rwa [hcount]⟩
      · rw [hcall] at hat
        cases hat
      · rw [hcall] at hat
        cases hat
    | some counted =>
      rw [hcall] at hwaited
      cases counted with
      | true =>
        rw [if_pos rfl] at hwaited
        refine ⟨hagrees, by simp, by simp, by simp, h.early, ?_⟩
        have hcounted := h.counted hcall
        have hsucc : s.retryCount.toNat = (s.retryCount.toNat - 1) + 1 := by omega
        show w.waited + s.backoffDelay = w.early + downtime (s'.retryCount.toNat - 0)
        rw [Nat.sub_zero, hcount, hsucc, downtime, h.delay hcall, hwaited]
        omega
      | false =>
        rw [if_neg (by simp), Nat.sub_zero] at hwaited
        obtain ⟨hzero, r, hr, hdelay⟩ := h.notCounted hcall
        refine ⟨hagrees, by simp, by simp, by simp, Or.inr ⟨r, hr, ?_⟩, ?_⟩
        · show w.early + s.backoffDelay = backoff r
          rw [hzero, Int.zero_add, hdelay]
        · show w.waited + s.backoffDelay = w.early + s.backoffDelay + downtime (s'.retryCount.toNat - 0)
          rw [Nat.sub_zero, hcount, hwaited]
          omega
  | same hcount htask =>
    refine ⟨hagrees, fun hat => (htask (h.atCall hat)).1, fun hat => hcount ▸ h.counted hat, fun hat => ?_, h.early,
      by rw [hcount]; exact h.waited⟩
    rw [(htask (h.atCall (by rw [hat]; simp))).2]
    exact h.notCounted hat

theorem addsUp_of_exec {ls : List Label} {s : State} {w : Waits} (h : timedSystem.exec ls = some (s, w))
    (hinStep : wifiSystem.Meets InStep ls) : AddsUp w s := by
  refine wifiSystem.cost_invariant (C := InStep) (I := AddsUp) ?_ ?_ h hinStep
  · exact ⟨⟨Int.le_refl 0, Or.inl rfl⟩, fun hat => absurd rfl hat, (fun hat => nomatch hat), (fun hat => nomatch hat),
      Or.inl rfl, rfl⟩
  · intro ls w s l s' hs hw hl hnext
    have hstep := (State.next_eq_some.mp hnext).2
    exact hw.step (budget_of_exec hs).count_le (hw.agrees.step hl (State.backoffStep_of_step hstep))
      (State.waitedStep_of_step w hstep)

/-- **The waits add up to 310 seconds.** In every run in which the counter and the delay are reset together, the calls of
`cv.wait_for` since the last reset were given the delays of the attempts that are counted, up to the one in front of
whose call the task may still stand, and the delay of at most one attempt from before the reset, at most 160 seconds; so
470 in all. When no attempt is left and the last call is made, these are 310 seconds and the early delay. -/
theorem waits_add_up (ls : List Label) (s : State) (w : Waits) (h : timedSystem.exec ls = some (s, w))
    (hinStep : wifiSystem.Meets InStep ls) :
    w.waited = w.early + downtime (s.retryCount.toNat - if w.atCall = some true then 1 else 0) ∧
      (w.early = 0 ∨ ∃ r : Nat, r < 5 ∧ w.early = backoff r) ∧ w.early ≤ 160 ∧ w.waited ≤ 470 ∧
      (WIFI_RECONNECT_ATTEMPT_MAXIMUM_RETRY ≤ s.retryCount → s.task ≠ .secondTest → w.waited = 310 + w.early) := by
  have hinv := addsUp_of_exec h hinStep
  have hcount : s.retryCount ≤ 5 := (budget_of_exec (wifiSystem.exec_of_withCost h)).count_le
  have hall : downtime 5 = 310 := by decide
  have hearly : w.early ≤ 160 := by
    rcases hinv.early with hzero | ⟨r, hr, hdelay⟩
    · omega
    · exact hdelay ▸ backoff_le_160 hr
  have hdown : downtime (s.retryCount.toNat - if w.atCall = some true then 1 else 0) ≤ 310 := by
    rw [← hall]
    apply downtime_mono
    omega
  refine ⟨hinv.waited, hinv.early, hearly, ?_, fun hspent htask => ?_⟩
  · have hwaited := hinv.waited
    omega
  · have hcalled : w.atCall ≠ some true := fun hat => htask (hinv.atCall (by rw [hat]; simp))
    have hfive : s.retryCount = 5 := Int.le_antisymm hcount hspent
    have hwaited := hinv.waited
    rw [if_neg hcalled, Nat.sub_zero, hfive] at hwaited
    rw [hwaited, show (5 : Int).toNat = 5 from rfl, hall, Int.add_comm]

/-- The fifth attempt succeeds between its increment and its wait, and after the next disconnect five attempts fail. -/
theorem waits_add_up_restart :
    let run := firstDisconnect ++ (List.replicate 4 failedAttempt).flatten ++ wakeUp ++
      [.task .connect, .task .increment] ++ gotIp ++
      [.task .secondTest, .task .isConnected, .task .resetBackoff, .task .unlock] ++ disconnect ++
      (List.replicate 5 failedAttempt).flatten ++ wakeUp
    ∃ s w, timedSystem.exec run = some (s, w) ∧ s.task = .setFailBit ∧ w.early = 160 ∧ w.waited = 310 + w.early := by
  intro run
  have hend : (timedSystem.exec run).map (fun s => (s.1.task, s.1.retryCount, s.2.early)) =
      some (.setFailBit, 5, 160) := by decide +kernel
  obtain ⟨⟨s, w⟩, hs, hat⟩ := Option.map_eq_some_iff.mp hend
  obtain ⟨htask, hat⟩ := Prod.mk.inj hat
  obtain ⟨hcount, hearly⟩ := Prod.mk.inj hat
  have hinStep : wifiSystem.Meets InStep run := wifiSystem.meets_of_forall_take (by decide +kernel)
  have hsum := (waits_add_up run s w hs hinStep).2.2.2.2 (Int.le_of_eq hcount.symm)
  exact ⟨s, w, hs, htask, hearly, hsum (by rw [show s.task = .setFailBit from htask]; decide)⟩

end MultisensorStation.Connectivity
