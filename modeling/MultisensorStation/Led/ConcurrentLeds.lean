import MultisensorStation.Base.CriticalSections
import MultisensorStation.Base.Simulation
import MultisensorStation.Led.Blinking

/-!
# The LEDs between threads

`setLEDMode` and `processLog` called by any number of threads beside `blinkingTask`, statement by statement, and the
destructor that ends the task.

* `LedStmt`, `ledSections` : the code under `mtx`;
* `BlinkStmt`, `ledSystem` : the loop of `blinkingTask` around its round, and all parties together;
* `calls` : the calls in the order in which they got the mutex;
* `serial_calls` : every interleaving is a sequence of calls;
  `listed_call_stops_all` : a report with an entry in the table stops the LEDs and all their users;
  `stop_ends_blinking` : the rounds after `running` was cleared.
-/

namespace MultisensorStation.Led
open MultisensorStation.Base

/-! ## The code under the mutex -/

inductive LedStmt where
  | setMode (color : LEDColor) (mode : LEDMode)
  | setInterval (color : LEDColor) (intervalMs : Int)
  | updateLEDState (color : LEDColor)
  -- the two halves of a round for one color
  | readLevel (color : LEDColor)
  | writeLevel (color : LEDColor)
  /-- the `lock_guard` of `setLEDMode` inside `processLog` -/
  | lockAgain

/-- What the thread inside works on. -/
structure LedSection where
  leds : Leds
  /-- the level that a round has read for its color, if that color blinks -/
  level : Option Bool

namespace LedSection

def exec (d : LedSection) : LedStmt → Option LedSection
  | .setMode color mode =>
    some { d with leds := { d.leds with ledModes := Function.update d.leds.ledModes color mode } }
  | .setInterval color intervalMs =>
    some { d with leds := { d.leds with ledIntervals := Function.update d.leds.ledIntervals color intervalMs } }
  | .updateLEDState color => some { d with leds := d.leds.updateLEDState color }
  | .readLevel color =>
    some { d with
      level := if d.leds.ledModes color = .blink then some (d.leds.gpio.getLevel (getPinForColor color)) else none }
  | .writeLevel color =>
    match d.level with
    | some level => some ⟨{ d.leds with gpio := d.leds.gpio.setLevel (getPinForColor color) (!level) }, none⟩
    | none => some d
  | .lockAgain => none

end LedSection

/-- The statements between taking `mtx` and giving it back. -/
def LedCall.body : LedCall → List LedStmt
  | .setLEDMode color mode intervalMs => [.setMode color mode, .setInterval color intervalMs, .updateLEDState color]
  | .processLog id state => if prescribed id state = none then [] else [.lockAgain]
  | .blinkingPass order => order.colors.flatMap fun color => [.readLevel color, .writeLevel color]

def ledSections : Sections LedSection LedCall LedStmt := ⟨LedCall.body, LedSection.exec⟩

/-! ## All threads -/

/-- What `blinkingTask` executes next. -/
inductive BlinkStmt where
  | test
  | lock
  | inside
  | sleep
  | finished
  deriving DecidableEq

structure LedState where
  shared : Shared LedSection LedStmt
  blink : BlinkStmt
  running : Bool

inductive LedLabel where
  /-- a thread other than `blinkingTask` gets the mutex for a call -/
  | call (thread : Thread) (c : LedCall)
  /-- the thread inside executes its next statement -/
  | execute (thread : Thread)
  | leave (thread : Thread)
  -- `blinkingTask`
  | test
  | enterPass (order : MapOrder)
  | wake
  /-- the destructor: `running = false` -/
  | stop

/-- The number of `blinkingTask` among the threads. -/
def blinkingThread : Thread := 0

namespace LedState

def init (gpio : Gpio) : LedState := ⟨⟨⟨(LedManager.fresh gpio).init.data, none⟩, none⟩, .test, true⟩

def next (s : LedState) : LedLabel → Option LedState
  | .call thread c =>
    if thread ≠ blinkingThread ∧ c.isPass = false then
      (ledSections.next s.shared (.enter thread c)).map fun shared => { s with shared }
    else none
  | .execute thread => (ledSections.next s.shared (.execute thread)).map fun shared => { s with shared }
  | .leave thread =>
    (ledSections.next s.shared (.leave thread)).map fun shared =>
      { s with shared, blink := if thread = blinkingThread then .sleep else s.blink }
  | .test => if s.blink = .test then some { s with blink := if s.running then .lock else .finished } else none
  | .enterPass order =>
    if s.blink = .lock then
      (ledSections.next s.shared (.enter blinkingThread (.blinkingPass order))).map fun shared =>
        { s with shared, blink := .inside }
    else none
  | .wake => if s.blink = .sleep then some { s with blink := .test } else none
  | .stop => some { s with running := false }

end LedState

def ledSystem (gpio : Gpio) : System LedState LedLabel := ⟨LedState.init gpio, LedState.next⟩

/-- What the step does to the mutex and what it protects. -/
def LedLabel.section : LedLabel → List (SectionLabel LedCall)
  | .call thread c => [.enter thread c]
  | .execute thread => [.execute thread]
  | .leave thread => [.leave thread]
  | .enterPass order => [.enter blinkingThread (.blinkingPass order)]
  | .test | .wake | .stop => []

/-- The calls in the order in which they got the mutex. -/
def calls (ls : List LedLabel) : List (Thread × LedCall) := entered (ls.flatMap LedLabel.section)

theorem LedState.shared_of_next {s s' : LedState} {l : LedLabel} (h : s.next l = some s') :
    l.section.foldlM ledSections.next s.shared = some s'.shared := by
  cases l with
  | call thread c =>
    obtain ⟨-, hs⟩ := Option.ite_none_right_eq_some.mp h
    obtain ⟨shared, hshared, rfl⟩ := Option.map_eq_some_iff.mp hs
    simpa [LedLabel.section] using hshared
  | execute thread =>
    obtain ⟨shared, hshared, rfl⟩ := Option.map_eq_some_iff.mp h
    simpa [LedLabel.section] using hshared
  | leave thread =>
    obtain ⟨shared, hshared, rfl⟩ := Option.map_eq_some_iff.mp h
    simpa [LedLabel.section] using hshared
  | enterPass order =>
    obtain ⟨-, hs⟩ := Option.ite_none_right_eq_some.mp h
    obtain ⟨shared, hshared, rfl⟩ := Option.map_eq_some_iff.mp hs
    simpa [LedLabel.section] using hshared
  | test =>
    obtain ⟨-, hs⟩ := Option.ite_none_right_eq_some.mp h
    exact congrArg (fun s => some s.shared) (Option.some.inj hs)
  | wake =>
    obtain ⟨-, hs⟩ := Option.ite_none_right_eq_some.mp h
    exact congrArg (fun s => some s.shared) (Option.some.inj hs)
  | stop => exact congrArg (fun s => some s.shared) (Option.some.inj h)

/-- Of the parties only the sections are seen. -/
def ledSimulation (gpio : Gpio) :
    Simulation (ledSystem gpio) (ledSections.system ⟨(LedManager.fresh gpio).init.data, none⟩) where
  abs := LedState.shared
  trace := LedLabel.section
  Inv := fun _ => True
  inv_init := trivial
  abs_init := rfl
  inv_step := fun _ _ _ _ _ => trivial
  abs_step := fun _ _ _ _ h => LedState.shared_of_next h

/-! ## Every interleaving is a sequence of calls -/

namespace LedSection

/-- The two halves of a round for one color are its toggling. -/
theorem foldlM_toggle (colors : List LEDColor) (leds : Leds) :
    (colors.flatMap fun color => [LedStmt.readLevel color, .writeLevel color]).foldlM exec ⟨leds, none⟩ =
      some ⟨colors.foldl Leds.toggle leds, none⟩ := by
  induction colors generalizing leds with
  | nil => rfl
  | cons color colors ih =>
    have hcolor : [LedStmt.readLevel color, .writeLevel color].foldlM exec ⟨leds, none⟩ =
        some ⟨leds.toggle color, none⟩ := by
      by_cases hblink : leds.ledModes color = .blink <;> simp [exec, Leds.toggle, hblink]
    rw [List.flatMap_cons, List.foldlM_append, hcolor, List.foldl_cons]
    exact ih (leds.toggle color)

theorem run_of_unlisted {c : LedCall} (h : c.Unlisted) (leds : Leds) :
    ledSections.run ⟨leds, none⟩ c = some ⟨LedManager.effect c leds, none⟩ := by
  cases c with
  | setLEDMode color mode intervalMs => rfl
  | processLog id state =>
    have hbody : LedCall.body (.processLog id state) = [] := if_pos h
    show (LedCall.body (.processLog id state)).foldlM exec _ = _
    rw [hbody]
    rfl
  | blinkingPass order => exact foldlM_toggle order.colors leds

theorem run_of_listed {id state : Bytes} (h : prescribed id state ≠ none) (d : LedSection) :
    ledSections.run d (.processLog id state) = none := by
  have hbody : LedCall.body (.processLog id state) = [.lockAgain] := if_neg h
  show (LedCall.body (.processLog id state)).foldlM exec _ = _
  rw [hbody]
  rfl

theorem unlisted_of_run {c : LedCall} {d d' : LedSection} (h : ledSections.run d c = some d') : c.Unlisted := by
  cases c with
  | setLEDMode color mode intervalMs => trivial
  | blinkingPass order => trivial
  | processLog id state =>
    by_contra hlisted
    rw [run_of_listed hlisted] at h
    cases h

/-- Sections that all end are calls that all return. -/
theorem respond_of_runAll {m : LedManager} (hm : m.mtx = none) {cs : List (Thread × LedCall)} {d : LedSection}
    (h : ledSections.runAll ⟨m.data, none⟩ cs = some d) :
    (∀ c ∈ cs, c.2.Unlisted) ∧
      respond LedManager.call m cs = (cs.map fun _ => .returned, ⟨none, d.leds⟩) ∧ d.level = none := by
  induction cs generalizing m with
  | nil =>
    obtain rfl := Option.some.inj h
    exact ⟨fun c hc => absurd hc List.not_mem_nil, by rw [← hm]; rfl, rfl⟩
  | cons c cs ih =>
    obtain ⟨d₁, hrun, hrest⟩ := Option.bind_eq_some_iff.mp (show (ledSections.run _ c.2).bind _ = some d from h)
    have hc := unlisted_of_run hrun
    rw [run_of_unlisted hc] at hrun
    obtain rfl := Option.some.inj hrun
    have hcall := LedManager.call_of_unlisted hm hc
    obtain ⟨hunlisted, hrespond, hlevel⟩ := ih (m := { m with data := LedManager.effect c.2 m.data }) hm hrest
    refine ⟨List.forall_mem_cons.mpr ⟨hc, hunlisted⟩, ?_, hlevel⟩
    rw [respond_cons, hcall, hrespond]
    rfl

end LedSection

namespace LedState

variable {s s' : LedState}

theorem next_call {thread : Thread} {c : LedCall} (h : s.next (.call thread c) = some s') :
    s.shared.inside = none ∧ s'.shared = ⟨s.shared.data, some (thread, c.body)⟩ := by
  obtain ⟨-, hs⟩ := Option.ite_none_right_eq_some.mp h
  obtain ⟨shared, hshared, rfl⟩ := Option.map_eq_some_iff.mp hs
  exact Sections.next_enter hshared

end LedState

/-- **Every interleaving is a sequence of calls.** However the threads interleave, statement by statement, when nobody
is inside the calls that got the mutex have all returned, none of them had an entry in the table, and the modes, the
intervals and the pins are what these calls leave when they are made one after the other, in the order in which they
got the mutex. So with all pins low at first every color that does not blink has the level of its mode. -/
theorem serial_calls (gpio : Gpio) (ls : List LedLabel) (s : LedState) (h : (ledSystem gpio).exec ls = some s)
    (hfree : s.shared.inside = none) :
    (∀ c ∈ calls ls, c.2.Unlisted) ∧
      respond LedManager.call (LedManager.fresh gpio).init (calls ls) =
        ((calls ls).map fun _ => .returned, ⟨none, s.shared.data.leds⟩) ∧
      ((∀ pin, gpio.level pin = false) → ∀ color,
        (s.shared.data.leds.ledModes color = .off → s.shared.data.leds.level color = false) ∧
          (s.shared.data.leds.ledModes color = .on → s.shared.data.leds.level color = true)) := by
  have hrun : ledSections.runAll ⟨(LedManager.fresh gpio).init.data, none⟩ (calls ls) = some s.shared.data :=
    Sections.serial_of_free ((ledSimulation gpio).exec h) hfree
  obtain ⟨hunlisted, hrespond, -⟩ := LedSection.respond_of_runAll (m := (LedManager.fresh gpio).init) rfl hrun
  refine ⟨hunlisted, hrespond, fun hlow color => ?_⟩
  have hfollows := LedManager.follows_after hlow hunlisted color
  have hafter : (LedManager.after gpio (calls ls)).data = s.shared.data.leds :=
    congrArg (fun r => r.2.data) hrespond
  rw [hafter] at hfollows
  exact ⟨hfollows.off, hfollows.on⟩

/-- A setting by one thread, in the middle of which `blinkingTask` waits for the mutex, and a round after it. -/
theorem serial_calls_round :
    let ls : List LedLabel := [.test, .call 1 (.setLEDMode .red .on 0), .execute 1, .execute 1, .execute 1, .leave 1,
      .enterPass LedManager.redGreenBlue] ++ List.replicate 6 (.execute 0) ++ [.leave 0]
    ∃ s, (ledSystem LedManager.lowPins).exec ls = some s ∧ s.shared.data.leds.level .red = true := by
  intro ls
  refine ⟨_, rfl, ?_⟩
  exact ((serial_calls LedManager.lowPins ls _ rfl rfl).2.2 (fun _ => rfl) .red).2 rfl

/-! ## A report with an entry in the table -/

/-- A thread waits inside for the mutex that it holds. -/
def LedState.Stuck (s : LedState) : Prop := ∃ thread, s.shared.inside = some (thread, [.lockAgain])

theorem LedState.Stuck.next_section {s : LedState} (h : s.Stuck) (l : SectionLabel LedCall) :
    ledSections.next s.shared l = none := by
  obtain ⟨thread, hinside⟩ := h
  exact Sections.next_of_stuck hinside rfl l

theorem LedState.Stuck.step {s s' : LedState} {l : LedLabel} (h : s.Stuck) (hl : s.next l = some s') :
    l.section = [] ∧ s'.shared = s.shared := by
  have hshared := LedState.shared_of_next hl
  cases hsection : l.section with
  | nil =>
    rw [hsection] at hshared
    exact ⟨rfl, (Option.some.inj hshared).symm⟩
  | cons k ks =>
    rw [hsection, List.foldlM_cons, h.next_section k] at hshared
    cases hshared

/-- **A listed report stops the LEDs.** Once a `processLog` of an id and a state that have an entry in the table has
got the mutex, in no continuation of the run does anybody get it again: no setting, no report and no round of
`blinkingTask` is ever made, and the modes, the intervals and the pins stay what they are. -/
theorem listed_call_stops_all (gpio : Gpio) (ls post : List LedLabel) (thread : Thread) (id state : Bytes)
    (hlisted : prescribed id state ≠ none) (t s : LedState)
    (ht : (ledSystem gpio).exec (ls ++ [.call thread (.processLog id state)]) = some t)
    (h : (ledSystem gpio).exec (ls ++ [.call thread (.processLog id state)] ++ post) = some s) :
    (∀ l ∈ post, l.section = []) ∧ s.shared = t.shared ∧ calls (ls ++ [.call thread (.processLog id state)] ++ post) =
      calls ls ++ [(thread, .processLog id state)] := by
  have hstuck : t.Stuck := by
    obtain ⟨t₀, -, hcall⟩ := (ledSystem gpio).exec_concat_eq_some.mp ht
    obtain ⟨-, hshared⟩ := LedState.next_call hcall
    exact ⟨thread, by rw [hshared]; exact congrArg (fun b => some (thread, b)) (if_neg hlisted)⟩
  have hpost : (∀ l ∈ post, l.section = []) ∧ s.shared = t.shared := by
    induction post using List.reverseRecOn generalizing s with
    | nil =>
      rw [List.append_nil, ht] at h
      exact ⟨fun l hl => absurd hl List.not_mem_nil, congrArg LedState.shared (Option.some.inj h).symm⟩
    | append_singleton post l ih =>
      rw [← List.append_assoc] at h
      obtain ⟨s₁, hs₁, hl⟩ := (ledSystem gpio).exec_concat_eq_some.mp h
      obtain ⟨hquiet, hsame⟩ := ih s₁ hs₁
      have hstuck₁ : s₁.Stuck := by
        obtain ⟨holder, hinside⟩ := hstuck
        exact ⟨holder, by rw [hsame, hinside]⟩
      obtain ⟨hnone, hkeep⟩ := hstuck₁.step hl
      exact ⟨List.forall_mem_append.mpr ⟨hquiet, List.forall_mem_singleton.mpr hnone⟩, hkeep.trans hsame⟩
  refine ⟨hpost.1, hpost.2, ?_⟩
  have hnone : post.flatMap LedLabel.section = [] := List.flatMap_eq_nil_iff.mpr hpost.1
  unfold calls
  rw [List.flatMap_append, hnone, List.append_nil, List.flatMap_append]
  exact Sections.entered_concat _ _

/-- The Wi-Fi manager connects; the destructor cannot end `blinkingTask` any more. -/
theorem listed_call_stops_all_connected :
    let call : LedLabel := .call 1 (.processLog (ascii "WifiManager") (ascii "CONNECTED"))
    ∃ t s, (ledSystem LedManager.lowPins).exec ([.test] ++ [call]) = some t ∧
      (ledSystem LedManager.lowPins).exec ([.test] ++ [call] ++ [.stop]) = some s ∧ s.shared = t.shared := by
  intro call
  refine ⟨_, _, rfl, rfl, ?_⟩
  exact (listed_call_stops_all LedManager.lowPins [.test] [.stop] 1 _ _ (by decide) _ _ rfl rfl).2.1

/-! ## The destructor -/

def LedLabel.isPass : LedLabel → Bool
  | .enterPass _ => true
  | _ => false

/-- The rounds that `blinkingTask` can still begin once `running` is cleared. -/
def LedState.roundsLeft (s : LedState) : Nat := if s.blink = .lock then 1 else 0

/-- `blinkingTask` is inside only during its round. -/
def LedState.InRound (s : LedState) : Prop :=
  ∀ rest, s.shared.inside = some (blinkingThread, rest) → s.blink = .inside

theorem LedState.InRound.step {s s' : LedState} {l : LedLabel} (h : s.InRound) (hl : s.next l = some s') :
    s'.InRound := by
  cases l with
  | call thread c =>
    obtain ⟨⟨hother, -⟩, hs⟩ := Option.ite_none_right_eq_some.mp hl
    obtain ⟨shared, hshared, rfl⟩ := Option.map_eq_some_iff.mp hs
    obtain ⟨-, rfl⟩ := Sections.next_enter hshared
    intro rest hinside
    cases hinside
    exact absurd rfl hother
  | execute thread =>
    obtain ⟨shared, hshared, rfl⟩ := Option.map_eq_some_iff.mp hl
    obtain ⟨b, rest, data, hinside, -, rfl⟩ := Sections.next_execute hshared
    intro rest' hinside'
    cases hinside'
    exact h (b :: rest) hinside
  | leave thread =>
    obtain ⟨shared, hshared, rfl⟩ := Option.map_eq_some_iff.mp hl
    obtain ⟨-, rfl⟩ := Sections.next_leave hshared
    intro rest hinside
    cases hinside
  | test =>
    obtain ⟨htest, hs⟩ := Option.ite_none_right_eq_some.mp hl
    obtain rfl := Option.some.inj hs
    intro rest hinside
    have hround := h rest hinside
    rw [htest] at hround
    cases hround
  | enterPass order =>
    obtain ⟨-, hs⟩ := Option.ite_none_right_eq_some.mp hl
    obtain ⟨shared, -, rfl⟩ := Option.map_eq_some_iff.mp hs
    exact fun _ _ => rfl
  | wake =>
    obtain ⟨hsleep, hs⟩ := Option.ite_none_right_eq_some.mp hl
    obtain rfl := Option.some.inj hs
    intro rest hinside
    have hround := h rest hinside
    rw [hsleep] at hround
    cases hround
  | stop =>
    obtain rfl := Option.some.inj hl
    exact h

theorem inRound_of_exec {gpio : Gpio} {ls : List LedLabel} {s : LedState} (h : (ledSystem gpio).exec ls = some s) :
    s.InRound := by
  apply (ledSystem gpio).run_invariant (I := fun _ s => s.InRound) _ _ ls s h
  · intro rest hinside
    cases hinside
  · exact fun _ _ _ _ hi hl => hi.step hl

/-- Once `running` is cleared a round can only be begun if it was already on its way. -/
theorem LedState.stopped_step {s s' : LedState} {l : LedLabel} (hround : s.InRound) (hstop : s.running = false)
    (h : s.next l = some s') :
    s'.running = false ∧ (if l.isPass then 1 else 0) + s'.roundsLeft = s.roundsLeft ∧
      (s.blink = .finished → s'.blink = .finished) := by
  cases l with
  | call thread c =>
    obtain ⟨-, hs⟩ := Option.ite_none_right_eq_some.mp h
    obtain ⟨shared, -, rfl⟩ := Option.map_eq_some_iff.mp hs
    exact ⟨hstop, Nat.zero_add _, fun hf => hf⟩
  | execute thread =>
    obtain ⟨shared, -, rfl⟩ := Option.map_eq_some_iff.mp h
    exact ⟨hstop, Nat.zero_add _, fun hf => hf⟩
  | leave thread =>
    obtain ⟨shared, hshared, rfl⟩ := Option.map_eq_some_iff.mp h
    by_cases hblink : thread = blinkingThread
    · have hinside := hround [] (hblink ▸ (Sections.next_leave hshared).1)
      simp [hstop, LedLabel.isPass, roundsLeft, hblink, hinside]
    · simp [hstop, LedLabel.isPass, roundsLeft, hblink]
  | test =>
    obtain ⟨htest, hs⟩ := Option.ite_none_right_eq_some.mp h
    obtain rfl := Option.some.inj hs
    simp [hstop, LedLabel.isPass, roundsLeft, htest]
  | enterPass order =>
    obtain ⟨hlock, hs⟩ := Option.ite_none_right_eq_some.mp h
    obtain ⟨shared, -, rfl⟩ := Option.map_eq_some_iff.mp hs
    simp [hstop, LedLabel.isPass, roundsLeft, hlock]
  | wake =>
    obtain ⟨hsleep, hs⟩ := Option.ite_none_right_eq_some.mp h
    obtain rfl := Option.some.inj hs
    simp [hstop, LedLabel.isPass, roundsLeft, hsleep]
  | stop =>
    obtain rfl := Option.some.inj h
    exact ⟨rfl, Nat.zero_add _, fun hf => hf⟩

/-- **The destructor ends the blinking.** After `running = false`, in every interleaving `blinkingTask` begins at most
one more round: none unless it had already found `running` set and was waiting for the mutex; and a task that has
ended does not come back. -/
theorem stop_ends_blinking (gpio : Gpio) (ls post : List LedLabel) (t s : LedState)
    (ht : (ledSystem gpio).exec (ls ++ [.stop]) = some t)
    (h : (ledSystem gpio).exec (ls ++ [.stop] ++ post) = some s) :
    post.countP LedLabel.isPass + s.roundsLeft = (if t.blink = .lock then 1 else 0) ∧
      (t.blink = .finished → post.countP LedLabel.isPass = 0 ∧ s.blink = .finished) := by
  have hstart : t.running = false := by
    obtain ⟨t₀, -, hstop⟩ := (ledSystem gpio).exec_concat_eq_some.mp ht
    exact congrArg LedState.running (Option.some.inj hstop).symm
  have hall : s.running = false ∧ post.countP LedLabel.isPass + s.roundsLeft = t.roundsLeft ∧
      (t.blink = .finished → s.blink = .finished) := by
    induction post using List.reverseRecOn generalizing s with
    | nil =>
      rw [List.append_nil, ht] at h
      obtain rfl := Option.some.inj h
      exact ⟨hstart, Nat.zero_add _, fun hf => hf⟩
    | append_singleton post l ih =>
      rw [← List.append_assoc] at h
      obtain ⟨s₁, hs₁, hl⟩ := (ledSystem gpio).exec_concat_eq_some.mp h
      obtain ⟨hrun, hcount, hfinished⟩ := ih s₁ hs₁
      obtain ⟨hrun', hstep, hstay⟩ := LedState.stopped_step (inRound_of_exec hs₁) hrun hl
      refine ⟨hrun', ?_, fun hf => hstay (hfinished hf)⟩
      rw [List.countP_append, List.countP_singleton]
      omega
  refine ⟨hall.2.1, fun hf => ⟨?_, hall.2.2 hf⟩⟩
  have hnone : t.roundsLeft = 0 := by
    rw [LedState.roundsLeft, if_neg (by rw [hf]; decide)]
  omega

/-- The task waits for the mutex when `running` is cleared: one more round, and the end. -/
theorem stop_ends_blinking_waiting :
    let post : List LedLabel := .enterPass LedManager.redGreenBlue :: List.replicate 6 (.execute 0) ++
      [.leave 0, .wake, .test]
    ∃ t s, (ledSystem LedManager.lowPins).exec ([.test] ++ [.stop]) = some t ∧
      (ledSystem LedManager.lowPins).exec ([.test] ++ [.stop] ++ post) = some s ∧ s.blink = .finished ∧
      post.countP LedLabel.isPass + s.roundsLeft = 1 := by
  intro post
  exact ⟨_, _, rfl, rfl, rfl, (stop_ends_blinking LedManager.lowPins [.test] post _ _ rfl rfl).1⟩

end MultisensorStation.Led
