import MultisensorStation.Ota.OtaManager
import Mathlib.Algebra.BigOperators.Group.List.Basic
import Mathlib.Algebra.GroupWithZero.Nat

/-!
# What any run of `OtaManager` keeps

The guard of `enterOtaMode` lets both threads in when they race. This is what holds all the same, in every interleaving.

* `Stmt.ahead` : how much a thread can still add to a weight of the values of the state; `Race` : what every step keeps
  of it; `racing_updates` : the states of two updates at most, and no way back;
* `Stmt.remaining` : the steps up to the restart; `every_update_ends` : a thread in its update gets there in these;
* `Shipped`, `shipped_one_update` : `checkOtaAvailability` returns `false`, and then there is only the button's update.
-/

namespace MultisensorStation.Ota
open MultisensorStation.Base

/-- The most that the values of one update weigh. -/
def updateWeight (w : OtaState → Nat) : Nat := w .checking + w .downloading + max (w .success) (w .failed)

/-- What the thread can still add; outside of an update it can begin one while the state is idle. -/
def Stmt.ahead (w : OtaState → Nat) (idle : Prop) [Decidable idle] : Stmt → Nat
  | .setChecking => updateWeight w
  | .setDownloading => w .downloading + max (w .success) (w .failed)
  | .httpsOta => max (w .success) (w .failed)
  | .setSuccess => w .success
  | .setFailed => w .failed
  | .restart => 0
  | _ => if idle then updateWeight w else 0

section Weights
variable (w : OtaState → Nat)

/-- The threads cannot add more than two updates weigh. -/
structure Race (s : State) : Prop where
  values : ∃ tail, s.values = .idle :: tail ∧ (s.state = .idle ↔ tail = []) ∧
    (tail.map w).sum + ((s.stmt .button).ahead w (s.state = .idle) + (s.stmt .check).ahead w (s.state = .idle)) ≤
      2 * updateWeight w

variable {w} {s s' : State} {t : OtaThread} {stmt : Stmt}

theorem Stmt.ahead_of_not {idle idle' : Prop} [Decidable idle] [Decidable idle'] (h : ¬ idle') (stmt : Stmt) :
    stmt.ahead w idle' ≤ stmt.ahead w idle := by
  cases stmt <;> simp [ahead, h]

/-- The two threads, one of them first. -/
theorem ahead_comm (f : Stmt → Nat) (s : State) (t : OtaThread) :
    f (s.stmt .button) + f (s.stmt .check) = f (s.stmt t) + f (s.stmt t.other) := by
  cases t
  · rfl
  · exact Nat.add_comm _ _

namespace Race

theorem init : Race w State.init := by
  refine ⟨[], rfl, ⟨fun _ => rfl, fun _ => rfl⟩, ?_⟩
  have hboth : (State.init.stmt .button).ahead w (State.init.state = .idle) +
      (State.init.stmt .check).ahead w (State.init.state = .idle) = updateWeight w + updateWeight w := by
    simp [State.init, OtaThread.loop, Stmt.ahead]
  rw [hboth, List.map_nil, List.sum_nil]
  omega

theorem goto (h : Race w s) (hstmt : stmt.ahead w (s.state = .idle) ≤ (s.stmt t).ahead w (s.state = .idle)) :
    Race w (s.goto t stmt) := by
  obtain ⟨tail, hvalues, hidle, hsum⟩ := h.values
  refine ⟨tail, hvalues, hidle, ?_⟩
  rw [ahead_comm (Stmt.ahead w (s.state = .idle)) s t] at hsum
  show (tail.map w).sum + (Stmt.ahead w (s.state = .idle) _ + Stmt.ahead w (s.state = .idle) _) ≤ _
  rw [ahead_comm (Stmt.ahead w (s.state = .idle)) (s.goto t stmt) t, State.stmt_goto_self, State.stmt_goto_other]
  omega

theorem setState (h : Race w s) {v : OtaState} (hv : v ≠ .idle)
    (hstmt : w v + stmt.ahead w (v = .idle) ≤ (s.stmt t).ahead w (s.state = .idle)) :
    Race w ((s.setState v).goto t stmt) := by
  by_cases hsame : s.state = v
  · have hset : s.setState v = s := if_neg (not_not_intro hsame)
    rw [hset]
    refine h.goto (le_trans ?_ hstmt)
    rw [hsame]
    exact Nat.le_add_left _ _
  · obtain ⟨tail, hvalues, hidle, hsum⟩ := h.values
    rw [State.setState_of_ne hsame]
    refine ⟨tail ++ [v], congrArg (· ++ [v]) hvalues, by simp [State.goto, hv], ?_⟩
    rw [ahead_comm (Stmt.ahead w (s.state = .idle)) s t] at hsum
    have hother : (s.stmt t.other).ahead w (v = .idle) ≤ (s.stmt t.other).ahead w (s.state = .idle) :=
      Stmt.ahead_of_not hv _
    show ((tail ++ [v]).map w).sum + (Stmt.ahead w (v = .idle) _ + Stmt.ahead w (v = .idle) _) ≤ _
    rw [ahead_comm (Stmt.ahead w (v = .idle)) _ t, State.stmt_goto_self, State.stmt_goto_other, List.map_append,
      List.sum_append, List.map_singleton, List.sum_singleton]
    dsimp only
    omega

theorem step {l : Label} (h : Race w s) (hs : s.next l = some s') : Race w s' := by
  obtain ⟨t, answer⟩ := l
  obtain ⟨-, hs⟩ := Option.ite_none_left_eq_some.mp hs
  obtain rfl := Option.some.inj hs
  dsimp only
  cases hst : s.stmt t <;> unfold State.run
  case readButton =>
    apply h.goto
    rw [hst]
    cases answer <;> exact le_refl _
  case testIdle =>
    apply h.goto
    rw [hst]
    split_ifs <;> exact le_refl _
  case checkOtaAvailability =>
    apply h.goto
    rw [hst]
    cases answer <;> exact le_refl _
  case guard =>
    apply h.goto
    rw [hst]
    by_cases hidle : s.state = .idle
    · simp [hidle, Stmt.ahead]
    · cases t <;> simp [hidle, Stmt.ahead, OtaThread.loop]
  case setChecking =>
    apply h.setState (by decide)
    rw [hst]
    simp only [Stmt.ahead, updateWeight]
    omega
  case setDownloading =>
    apply h.setState (by decide)
    rw [hst]
    exact le_refl _
  case httpsOta =>
    apply h.goto
    rw [hst]
    cases answer
    · exact le_max_right _ _
    · exact le_max_left _ _
  case setSuccess =>
    apply h.setState (by decide)
    rw [hst]
    exact le_refl _
  case setFailed =>
    apply h.setState (by decide)
    rw [hst]
    exact le_refl _
  case restart => exact ⟨h.values⟩

end Race

theorem race_of_exec (w : OtaState → Nat) {ls : List Label} (h : otaSystem.exec ls = some s) : Race w s :=
  otaSystem.run_invariant (I := fun _ s => Race w s) Race.init (fun _ _ _ _ hr hs => hr.step hs) ls s h

/-- Of a weight, the values behind the first one have at most that of two updates. -/
theorem weight_le (w : OtaState → Nat) {ls : List Label} (h : otaSystem.exec ls = some s) :
    (s.values.tail.map w).sum ≤ 2 * updateWeight w := by
  obtain ⟨tail, hvalues, -, hsum⟩ := (race_of_exec w h).values
  rw [hvalues, List.tail_cons]
  exact le_trans (Nat.le_add_right _ _) hsum

end Weights

/-- An update takes each state but one of the last two. -/
theorem updateWeight_count (v : OtaState) : updateWeight (fun u => if u = v then 1 else 0) ≤ 1 := by
  cases v <;> decide

theorem count_eq_sum (v : OtaState) (vs : List OtaState) :
    vs.count v = (vs.map (fun u => if u = v then 1 else 0)).sum := by
  induction vs with
  | nil => rfl
  | cons u vs ih =>
    rw [List.count_cons, ih, List.map_cons, List.sum_cons, Nat.add_comm]
    simp

/-- **At most two updates, and no way back.** In every interleaving the state leaves `Idle` at most once and never comes
back to it before the restart, is never `Applying`, and takes each of the other values at most twice, `Success` and
`Failed` together; six values in all. -/
theorem racing_updates (ls : List Label) (s : State) (h : otaSystem.exec ls = some s) :
    ∃ tail, s.values = .idle :: tail ∧ (s.state = .idle ↔ tail = []) ∧ tail.length ≤ 6 ∧ .idle ∉ tail ∧
      .applying ∉ tail ∧ (∀ v, tail.count v ≤ 2) ∧ tail.count .success + tail.count .failed ≤ 2 := by
  obtain ⟨tail, hvalues, hidle, -⟩ := (race_of_exec (fun _ => 1) h).values
  have hweight : ∀ w : OtaState → Nat, (tail.map w).sum ≤ 2 * updateWeight w := by
    intro w
    have hle := weight_le w h
    rwa [hvalues, List.tail_cons] at hle
  have hcount : ∀ v, tail.count v ≤ 2 * updateWeight (fun u => if u = v then 1 else 0) := by
    intro v
    rw [count_eq_sum]
    exact hweight _
  refine ⟨tail, hvalues, hidle, ?_, ?_, ?_, fun v => ?_, ?_⟩
  · have hlength := hweight (fun _ => 1)
    simpa [updateWeight] using hlength
  · exact List.count_eq_zero.mp (Nat.le_zero.mp (hcount .idle))
  · exact List.count_eq_zero.mp (Nat.le_zero.mp (hcount .applying))
  · have hone := updateWeight_count v
    have hle := hcount v
    omega
  · have hends := hweight (fun u => if u = .success ∨ u = .failed then 1 else 0)
    have hsum : tail.count .success + tail.count .failed =
        (tail.map (fun u => if u = .success ∨ u = .failed then 1 else 0)).sum := by
      rw [count_eq_sum, count_eq_sum, ← List.sum_map_add]
      congr 1
      apply List.map_congr_left
      intro u _
      cases u <;> rfl
    rw [hsum]
    exact hends

/-- Both threads are let in: six values. -/
theorem racing_updates_both :
    let run : List Label := [⟨.check, false⟩, ⟨.button, true⟩, ⟨.check, true⟩, ⟨.check, false⟩, ⟨.button, false⟩,
      ⟨.check, false⟩, ⟨.check, false⟩, ⟨.button, false⟩, ⟨.check, false⟩, ⟨.check, false⟩, ⟨.button, false⟩,
      ⟨.button, true⟩, ⟨.button, true⟩]
    ∃ s, otaSystem.exec run = some s ∧
      s.values = [.idle, .checking, .downloading, .checking, .failed, .downloading, .success] ∧
      s.values.tail.count .checking ≤ 2 := by
  intro run
  refine ⟨_, rfl, rfl, ?_⟩
  obtain ⟨tail, hvalues, -, -, -, -, hcount, -⟩ := racing_updates run _ rfl
  rw [hvalues]
  exact hcount .checking

/-! ## Every update ends -/

/-- The steps up to the restart. -/
def Stmt.remaining : Stmt → Nat
  | .setChecking => 5
  | .setDownloading => 4
  | .httpsOta => 3
  | .setSuccess | .setFailed => 2
  | .restart => 1
  | _ => 0

/-- A thread in its update takes the next step of it, or restarts the device. -/
theorem remaining_run {s : State} {t : OtaThread} (hin : (s.stmt t).inUpdate = true) (answer : Bool) :
    ((s.run t answer (s.stmt t)).halted = true ∧ (s.stmt t).remaining = 1) ∨
      (((s.run t answer (s.stmt t)).stmt t).inUpdate = true ∧
        ((s.run t answer (s.stmt t)).stmt t).remaining + 1 = (s.stmt t).remaining) := by
  cases hst : s.stmt t <;> rw [hst] at hin <;> unfold State.run
  case setChecking | setDownloading | setSuccess | setFailed =>
    right
    rw [State.stmt_goto_self]
    exact ⟨rfl, rfl⟩
  case httpsOta =>
    right
    rw [State.stmt_goto_self]
    cases answer <;> exact ⟨rfl, rfl⟩
  case restart => exact Or.inl ⟨rfl, rfl⟩
  all_goals cases hin

/-- The other thread's step. -/
theorem stmt_run_other (s : State) (t : OtaThread) (answer : Bool) (stmt : Stmt) :
    (s.run t.other answer stmt).stmt t = s.stmt t := by
  have hgoto : ∀ (s : State) (stmt' : Stmt), (s.goto t.other stmt').stmt t = s.stmt t := by
    intro s stmt'
    have hother : (s.goto t.other stmt').stmt t.other.other = s.stmt t.other.other := State.stmt_goto_other
    rwa [OtaThread.other_other] at hother
  have hset : ∀ v, (s.setState v).stmt t = s.stmt t := by
    intro v
    unfold State.setState
    split_ifs <;> rfl
  cases stmt <;> simp [State.run, hgoto, hset]

theorem halted_run {s : State} {t : OtaThread} {answer : Bool} {stmt : Stmt}
    (h : (s.run t answer stmt).halted = true) : s.halted = true ∨ stmt = .restart := by
  have hset : ∀ v, (s.setState v).halted = s.halted := by
    intro v
    unfold State.setState
    split_ifs <;> rfl
  cases stmt
  case restart => exact Or.inr rfl
  all_goals exact Or.inl (by simpa only [State.run, State.goto, hset] using h)

/-- **Every update ends in a restart.** A thread that is in its update stays in it, whatever the other one does; it
cannot take more steps than are left up to its restart, and when it has taken them the device has restarted. -/
theorem every_update_ends (t : OtaThread) (pre post : List Label) (s s' : State) (hpre : otaSystem.exec pre = some s)
    (hin : (s.stmt t).inUpdate = true) (h : otaSystem.exec (pre ++ post) = some s') :
    post.countP (fun l => l.thread = t) ≤ (s.stmt t).remaining ∧
      (post.countP (fun l => l.thread = t) = (s.stmt t).remaining → s'.halted = true) ∧
      (s'.halted = false → (s'.stmt t).inUpdate = true ∧
        post.countP (fun l => l.thread = t) + (s'.stmt t).remaining = (s.stmt t).remaining) := by
  suffices hcount : (s'.halted = true ∧ post.countP (fun l => l.thread = t) ≤ (s.stmt t).remaining) ∨
      ((s'.stmt t).inUpdate = true ∧
        post.countP (fun l => l.thread = t) + (s'.stmt t).remaining = (s.stmt t).remaining) by
    rcases hcount with ⟨hhalted, hle⟩ | ⟨hin', hcount⟩
    · refine ⟨hle, fun _ => hhalted, fun hf => ?_⟩
      rw [hhalted] at hf
      cases hf
    · have hpos : 0 < (s'.stmt t).remaining := by
        cases hst : s'.stmt t <;> rw [hst] at hin' <;> first | decide | cases hin'
      exact ⟨by omega, fun heq => by omega, fun _ => ⟨hin', hcount⟩⟩
  induction post using List.reverseRecOn generalizing s' with
  | nil =>
    rw [List.append_nil, hpre] at h
    obtain rfl := Option.some.inj h
    exact Or.inr ⟨hin, Nat.zero_add _⟩
  | append_singleton post l ih =>
    rw [← List.append_assoc] at h
    obtain ⟨s₁, hs₁, hl⟩ := otaSystem.exec_concat_eq_some.mp h
    obtain ⟨hrunning, hs⟩ := Option.ite_none_left_eq_some.mp hl
    obtain rfl := Option.some.inj hs
    have hold : (s₁.stmt t).inUpdate = true ∧
        post.countP (fun l => l.thread = t) + (s₁.stmt t).remaining = (s.stmt t).remaining :=
      (ih s₁ hs₁).resolve_left (fun hh => hrunning hh.1)
    rw [List.countP_append, List.countP_singleton]
    rcases t.eq_or_eq_other l.thread with hthread | hthread
    · rw [hthread, if_pos (by simp)]
      rcases remaining_run hold.1 l.answer with ⟨hhalted, hone⟩ | ⟨hin', hnext⟩
      · exact Or.inl ⟨hhalted, by omega⟩
      · exact Or.inr ⟨hin', by omega⟩
    · rw [hthread, if_neg (by simp [OtaThread.other_ne]), stmt_run_other]
      exact Or.inr hold

/-- The button's update runs to its end while the other thread looks at the state. -/
theorem every_update_ends_button :
    let pre : List Label := [⟨.button, true⟩, ⟨.button, false⟩]
    let post : List Label := [⟨.check, false⟩, ⟨.button, false⟩, ⟨.button, false⟩, ⟨.check, false⟩, ⟨.button, true⟩,
      ⟨.button, false⟩, ⟨.button, false⟩]
    ∃ s s', otaSystem.exec pre = some s ∧ otaSystem.exec (pre ++ post) = some s' ∧ s'.halted = true := by
  intro pre post
  refine ⟨_, _, rfl, rfl, ?_⟩
  exact (every_update_ends .button pre post _ _ rfl rfl rfl).2.1 rfl

/-! ## The program as it is shipped -/

/-- `checkOtaAvailability` returns `false`. -/
def Shipped (s : State) (l : Label) : Prop := s.stmt l.thread = .checkOtaAvailability → l.answer = false

instance (s : State) (l : Label) : Decidable (Shipped s l) := inferInstanceAs (Decidable (_ → _))

/-- The other thread only looks. -/
structure OnlyButton (s : State) : Prop where
  inv : Inv s
  check : s.stmt .check = .testIdle ∨ s.stmt .check = .checkOtaAvailability
  halted : s.halted = true → s.stmt .button = .restart

namespace OnlyButton

variable {s s' : State}

theorem check_outside (h : OnlyButton s) : (s.stmt .check).inUpdate = false := by
  rcases h.check with hst | hst <;> rw [hst] <;> rfl

theorem not_passesBehind (h : OnlyButton s) (l : Label) : ¬ PassesBehind s l := by
  rintro ⟨hguard, -, hother⟩
  obtain ⟨t, answer⟩ := l
  rcases h.check with hst | hst
  all_goals
    cases t
    · rw [OtaThread.other, hst] at hother
      cases hother
    · rw [hst] at hguard
      cases hguard

theorem step {l : Label} (h : OnlyButton s) (hl : Shipped s l) (hs : s.next l = some s') : OnlyButton s' := by
  have hinv := h.inv.step (h.not_passesBehind l) hs
  obtain ⟨t, answer⟩ := l
  obtain ⟨hrunning, hs⟩ := Option.ite_none_left_eq_some.mp hs
  obtain rfl := Option.some.inj hs
  refine ⟨hinv, ?_, ?_⟩
  · cases t with
    | button =>
      have hsame := stmt_run_other s .check answer (s.stmt .button)
      exact hsame.symm ▸ h.check
    | check =>
      dsimp only
      rcases h.check with hst | hst
      · rw [hst, State.run, State.stmt_goto_self]
        split_ifs
        · exact Or.inr rfl
        · exact Or.inl rfl
      · obtain rfl : answer = false := hl hst
        rw [hst, State.run, State.stmt_goto_self]
        exact Or.inl rfl
  · intro hhalted
    have hrestart := (halted_run hhalted).resolve_left hrunning
    cases t with
    | button =>
      dsimp only at hrestart ⊢
      rw [hrestart]
      exact hrestart
    | check =>
      dsimp only at hrestart
      rcases h.check with hst | hst <;> rw [hrestart] at hst <;> cases hst

end OnlyButton

/-- **As shipped, one update at a time.** While `checkOtaAvailability` returns `false`, in every interleaving the check
thread never enters an update, only one runs, and the device restarts at the end of one that the button began. -/
theorem shipped_one_update (ls : List Label) (s : State) (h : otaSystem.exec ls = some s)
    (hshipped : otaSystem.Meets Shipped ls) :
    OneUpdate s ∧ (s.stmt .check).inUpdate = false ∧
      (s.halted = true → s.values = updateValues .success ∨ s.values = updateValues .failed) := by
  have hinv : OnlyButton s := by
    refine otaSystem.run_invariant_of_meets (I := fun _ s => OnlyButton s) ?_ ?_ ls s h hshipped
    · exact ⟨Inv.init, Or.inl rfl, fun hf => by cases hf⟩
    · exact fun _ _ _ _ hi hl hs => hi.step hl hs
  refine ⟨hinv.inv.oneUpdate, hinv.check_outside, fun hhalted => ?_⟩
  have hfollows := hinv.inv.follows .button
  rw [hinv.halted hhalted] at hfollows
  exact hfollows

theorem shipped_one_update_pressed :
    let run : List Label := [⟨.check, false⟩, ⟨.button, true⟩, ⟨.check, false⟩, ⟨.button, false⟩, ⟨.button, false⟩,
      ⟨.check, true⟩, ⟨.button, false⟩, ⟨.button, true⟩, ⟨.button, false⟩, ⟨.button, false⟩]
    ∃ s, otaSystem.exec run = some s ∧ s.halted = true ∧ OneUpdate s := by
  intro run
  refine ⟨_, rfl, rfl, ?_⟩
  exact (shipped_one_update run _ rfl (otaSystem.meets_of_forall_take (by decide))).1

end MultisensorStation.Ota
