import MultisensorStation.Base.Bytes
import MultisensorStation.Base.Mutex
import MultisensorStation.Base.Runs
import Mathlib.Logic.Function.Basic

/-!
# `LedManager`

* `Gpio` : the pins of the driver, with what `gpio_get_level` answers;
* `Leds` : the two maps and the pins, all that `mtx` protects; `updateLEDState`, `toggle`;
* `init`, `setLEDMode`, `processLog`, `blinkingPass` : the members, the last one a round of `blinkingTask`;
* `LedCall`, `call` : the calls, in the order in which they get the mutex;
* `prescribed` : what `processLog` is to set for an id and a state;
* `no_self_lock_iff` : every call returns and does what is prescribed exactly when nothing is prescribed.
-/

namespace MultisensorStation.Led
open MultisensorStation.Base

inductive LEDColor where
  | red
  | green
  | blue
  deriving DecidableEq

inductive LEDMode where
  | off
  | on
  | blink
  deriving DecidableEq

/-! ## The pins -/

structure Gpio where
  /-- configured as `GPIO_MODE_OUTPUT` -/
  output : Nat → Bool
  /-- what the pin is driven with -/
  level : Nat → Bool

namespace Gpio

/-- `gpio_config` with `GPIO_MODE_OUTPUT` for the pins of the mask. -/
def config (pinBitMask : BitVec 64) (g : Gpio) : Gpio :=
  { g with output := fun pin => pinBitMask.getLsbD pin || g.output pin }

def setLevel (pin : Nat) (level : Bool) (g : Gpio) : Gpio := { g with level := Function.update g.level pin level }

/-- An output that is not also an input reads as 0. -/
def getLevel (pin : Nat) (g : Gpio) : Bool := if g.output pin then false else g.level pin

end Gpio

def redPin : Nat := 17
def greenPin : Nat := 18
def bluePin : Nat := 19

def getPinForColor : LEDColor → Nat
  | .red => redPin
  | .green => greenPin
  | .blue => bluePin

theorem getPinForColor_injective : Function.Injective getPinForColor := by
  intro c d h
  cases c <;> cases d <;> first | rfl | cases h

/-! ## What the mutex protects -/

structure Leds where
  ledModes : LEDColor → LEDMode
  /-- in milliseconds -/
  ledIntervals : LEDColor → Int
  gpio : Gpio

namespace Leds

def updateLEDState (color : LEDColor) (leds : Leds) : Leds :=
  match leds.ledModes color with
  | .off => { leds with gpio := leds.gpio.setLevel (getPinForColor color) false }
  | .on => { leds with gpio := leds.gpio.setLevel (getPinForColor color) true }
  | .blink => leds

/-- The body of `setLEDMode`. -/
def setMode (color : LEDColor) (mode : LEDMode) (intervalMs : Int) (leds : Leds) : Leds :=
  let leds := { leds with
    ledModes := Function.update leds.ledModes color mode
    ledIntervals := Function.update leds.ledIntervals color intervalMs }
  leds.updateLEDState color

/-- One color in the loop of `blinkingTask`. -/
def toggle (leds : Leds) (color : LEDColor) : Leds :=
  if leds.ledModes color = .blink then
    let pin := getPinForColor color
    { leds with gpio := leds.gpio.setLevel pin (!leds.gpio.getLevel pin) }
  else leds

/-- What the pin of the color is driven with. -/
def level (leds : Leds) (color : LEDColor) : Bool := leds.gpio.level (getPinForColor color)

end Leds

/-- The order in which the loop over `ledModes` comes to the colors. -/
structure MapOrder where
  colors : List LEDColor
  nodup : colors.Nodup
  complete : ∀ color, color ∈ colors

/-! ## The members -/

abbrev LedManager := Guarded Leds

namespace LedManager

/-- The constructor. -/
def fresh (gpio : Gpio) : LedManager := ⟨none, fun _ => .off, fun _ => 1000, gpio⟩

def init (m : LedManager) : LedManager :=
  { m with data := { m.data with gpio := m.data.gpio.config (1 <<< redPin ||| 1 <<< greenPin ||| 1 <<< bluePin) } }

def setLEDMode (thread : Thread) (color : LEDColor) (mode : LEDMode) (intervalMs : Int) :
    LedManager → Outcome × LedManager :=
  Guarded.lockGuard thread (Guarded.modify (Leds.setMode color mode intervalMs))

def processLog (thread : Thread) (id state : Bytes) : LedManager → Outcome × LedManager :=
  Guarded.lockGuard thread fun m =>
    if id = ascii "WifiManager" then
      if state = ascii "CONNECTED" then setLEDMode thread .green .blink 500 m
      else if state = ascii "DISCONNECTED" then setLEDMode thread .green .off 1000 m
      else (.returned, m)
    else if id = ascii "MqttManager" then
      if state = ascii "CONNECTED" then setLEDMode thread .blue .blink 1000 m
      else if state = ascii "DISCONNECTED" then setLEDMode thread .blue .off 1000 m
      else (.returned, m)
    else if id = ascii "Error" then setLEDMode thread .red .blink 200 m
    else (.returned, m)

def blinkingPass (thread : Thread) (order : MapOrder) : LedManager → Outcome × LedManager :=
  Guarded.lockGuard thread (Guarded.modify (fun leds => order.colors.foldl Leds.toggle leds))

end LedManager

inductive LedCall where
  | processLog (id state : Bytes)
  | setLEDMode (color : LEDColor) (mode : LEDMode) (intervalMs : Int)
  | blinkingPass (order : MapOrder)

/-- A call, by the thread `c.1`. -/
def LedManager.call (m : LedManager) (c : Thread × LedCall) : Outcome × LedManager :=
  match c.2 with
  | .processLog id state => LedManager.processLog c.1 id state m
  | .setLEDMode color mode intervalMs => LedManager.setLEDMode c.1 color mode intervalMs m
  | .blinkingPass order => LedManager.blinkingPass c.1 order m

/-! ## What is prescribed -/

/-- The color, mode and interval that `processLog` is to set, if there are any. -/
def prescribed (id state : Bytes) : Option (LEDColor × LEDMode × Int) :=
  if id = ascii "WifiManager" then
    if state = ascii "CONNECTED" then some (.green, .blink, 500)
    else if state = ascii "DISCONNECTED" then some (.green, .off, 1000) else none
  else if id = ascii "MqttManager" then
    if state = ascii "CONNECTED" then some (.blue, .blink, 1000)
    else if state = ascii "DISCONNECTED" then some (.blue, .off, 1000) else none
  else if id = ascii "Error" then some (.red, .blink, 200) else none

/-- The maps after `processLog`: as they are to be, all other entries unchanged. -/
def Leds.DoesPrescribed (before : Leds) (id state : Bytes) (after : Leds) : Prop :=
  match prescribed id state with
  | some (color, mode, intervalMs) =>
    after.ledModes = Function.update before.ledModes color mode ∧
      after.ledIntervals = Function.update before.ledIntervals color intervalMs
  | none => after.ledModes = before.ledModes ∧ after.ledIntervals = before.ledIntervals

/-- A call that does not report an event with an entry in the table. -/
def LedCall.Unlisted : LedCall → Prop
  | .processLog id state => prescribed id state = none
  | _ => True

namespace LedManager

variable {m : LedManager}

/-- What `processLog` does under the mutex. -/
theorem processLog_eq (thread : Thread) (id state : Bytes) :
    processLog thread id state = Guarded.lockGuard thread (fun m =>
      match prescribed id state with
      | some (color, mode, intervalMs) => setLEDMode thread color mode intervalMs m
      | none => (.returned, m)) := by
  unfold processLog prescribed
  congr 1
  funext m
  split_ifs <;> rfl

theorem processLog_of_unlisted (h : m.mtx = none) (thread : Thread) {id state : Bytes}
    (hnone : prescribed id state = none) : processLog thread id state m = (.returned, m) := by
  rw [processLog_eq, hnone]
  exact Guarded.lockGuard_modify h thread (fun leds => leds)

/-- The helper takes the mutex that `processLog` holds. -/
theorem processLog_of_listed (h : m.mtx = none) (thread : Thread) {id state : Bytes}
    (hsome : prescribed id state ≠ none) : (processLog thread id state m).1 = .selfLocked := by
  obtain ⟨⟨color, mode, intervalMs⟩, hentry⟩ := Option.ne_none_iff_exists'.mp hsome
  rw [processLog_eq, hentry]
  exact Guarded.lockGuard_nested h rfl

/-- What a call does that gets the mutex and does not take it again. -/
def effect : LedCall → Leds → Leds
  | .processLog _ _, leds => leds
  | .setLEDMode color mode intervalMs, leds => leds.setMode color mode intervalMs
  | .blinkingPass order, leds => order.colors.foldl Leds.toggle leds

theorem call_of_unlisted (h : m.mtx = none) {c : Thread × LedCall} (hc : c.2.Unlisted) :
    m.call c = (.returned, { m with data := effect c.2 m.data }) := by
  obtain ⟨thread, c⟩ := c
  cases c with
  | processLog id state => exact processLog_of_unlisted h thread hc
  | setLEDMode color mode intervalMs => exact Guarded.lockGuard_modify h thread (Leds.setMode color mode intervalMs)
  | blinkingPass order =>
    exact Guarded.lockGuard_modify h thread (fun leds => order.colors.foldl Leds.toggle leds)

/-- Calls that are not listed leave the mutex free. -/
theorem mtx_respond (h : m.mtx = none) {calls : List (Thread × LedCall)} (hcalls : ∀ c ∈ calls, c.2.Unlisted) :
    (respond call m calls).2.mtx = none := by
  induction calls generalizing m with
  | nil => exact h
  | cons c calls ih =>
    rw [respond_cons]
    apply ih _ (fun d hd => hcalls d (List.mem_cons_of_mem _ hd))
    rw [call_of_unlisted h (hcalls c List.mem_cons_self)]
    exact h

/-- A call returns, and `processLog` does what is prescribed. -/
def Succeeds (m : LedManager) (c : Thread × LedCall) : Prop :=
  (m.call c).1 = .returned ∧
    ∀ id state, c.2 = .processLog id state → m.data.DoesPrescribed id state (m.call c).2.data

theorem succeeds_iff (h : m.mtx = none) (c : Thread × LedCall) : m.Succeeds c ↔ c.2.Unlisted := by
  constructor
  · intro hs
    obtain ⟨thread, c⟩ := c
    cases c with
    | processLog id state =>
      by_contra hlisted
      have hstuck := processLog_of_listed h thread hlisted
      cases hs.1.symm.trans hstuck
    | setLEDMode color mode intervalMs => trivial
    | blinkingPass order => trivial
  · intro hc
    have hcall := call_of_unlisted h hc
    refine ⟨by rw [hcall], fun id state hlog => ?_⟩
    rw [hlog] at hc
    rw [hcall, hlog]
    unfold Leds.DoesPrescribed
    rw [show prescribed id state = none from hc]
    exact ⟨rfl, rfl⟩

/-- **When LED updates from the log do not lock up.** In every sequence of calls each one returns, no thread takes
`mtx` while it holds it, and `processLog` does what is prescribed, exactly when no `processLog` of the sequence has
anything prescribed. -/
theorem no_self_lock_iff (gpio : Gpio) (calls : List (Thread × LedCall)) :
    (∀ pre c, pre ++ [c] <+: calls → Succeeds (respond call (fresh gpio).init pre).2 c) ↔
      ∀ c ∈ calls, c.2.Unlisted := by
  constructor
  · intro hall
    induction calls using List.reverseRecOn with
    | nil => exact fun c hc => absurd hc List.not_mem_nil
    | append_singleton calls c ih =>
      have hbefore := ih (fun pre d hp => hall pre d (hp.trans (List.prefix_append _ _)))
      rw [List.forall_mem_append, List.forall_mem_singleton]
      exact ⟨hbefore, (succeeds_iff (mtx_respond rfl hbefore) c).mp (hall calls c List.prefix_rfl)⟩
  · rintro hall pre c ⟨post, rfl⟩
    rw [List.forall_mem_append, List.forall_mem_append, List.forall_mem_singleton] at hall
    exact (succeeds_iff (mtx_respond rfl hall.1.1) c).mpr hall.1.2

/-- A connected Wi-Fi manager locks up the thread that reported it. -/
theorem self_lock :
    let m := (fresh ⟨fun _ => false, fun _ => false⟩).init
    (m.call (0, .processLog (ascii "WifiManager") (ascii "CONNECTED"))).1 = .selfLocked :=
  processLog_of_listed rfl 0 (by decide)

end LedManager

end MultisensorStation.Led
