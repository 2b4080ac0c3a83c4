import MultisensorStation.Led.LedManager

/-!
# What the pins show

`blinkingTask` sets the pin of every blinking color in each of its rounds, whatever the interval of the color is, and
reads the pin back to find the level to set, which an output does not answer.

* `flips`, `passes` : how often a pin changes its level during some calls, and how many rounds there are among them;
* `Follows` : a color that does not blink has the level of its mode; every call keeps it;
* `flips_of_blinking` : a blinking pin goes high in the first round and stays there;
* `Shows`, `InStep` : a color shows its mode and blinks at its interval, and when one change is what that takes;
* `shows_iff` : exactly then.
-/

namespace MultisensorStation.Led
open MultisensorStation.Base

def LedCall.Sets (color : LEDColor) : LedCall → Prop
  | .setLEDMode c _ _ => c = color
  | _ => False

def LedCall.isPass : LedCall → Bool
  | .blinkingPass _ => true
  | _ => false

def passes (calls : List (Thread × LedCall)) : Nat := calls.countP (fun c => c.2.isPass)

theorem passes_cons (c : Thread × LedCall) (calls : List (Thread × LedCall)) :
    passes (c :: calls) = passes calls + if c.2.isPass then 1 else 0 := List.countP_cons

/-! ## One color and the pins -/

namespace Leds

variable {leds : Leds} {color : LEDColor}

theorem output_updateLEDState (leds : Leds) (c : LEDColor) :
    (leds.updateLEDState c).gpio.output = leds.gpio.output := by
  unfold updateLEDState
  split <;> rfl

theorem ledModes_updateLEDState (leds : Leds) (c : LEDColor) : (leds.updateLEDState c).ledModes = leds.ledModes := by
  unfold updateLEDState
  split <;> rfl

theorem level_setLevel (leds : Leds) (c : LEDColor) (b : Bool) :
    ({ leds with gpio := leds.gpio.setLevel (getPinForColor c) b } : Leds).level color =
      if c = color then b else leds.level color := by
  unfold level Gpio.setLevel
  dsimp only
  by_cases hc : c = color
  · rw [if_pos hc, hc, Function.update_self]
  · rw [if_neg hc, Function.update_of_ne (fun h => hc (getPinForColor_injective h).symm)]

theorem level_updateLEDState (leds : Leds) (c : LEDColor) :
    (leds.updateLEDState c).level color =
      if c = color then
        match leds.ledModes c with
        | .off => false
        | .on => true
        | .blink => leds.level color
      else leds.level color := by
  unfold updateLEDState
  cases leds.ledModes c with
  | off => exact level_setLevel leds c false
  | on => exact level_setLevel leds c true
  | blink => exact (ite_self _).symm

theorem output_toggle (leds : Leds) (c : LEDColor) : (leds.toggle c).gpio.output = leds.gpio.output := by
  unfold toggle
  split <;> rfl

theorem ledModes_toggle (leds : Leds) (c : LEDColor) : (leds.toggle c).ledModes = leds.ledModes := by
  unfold toggle
  split <;> rfl

/-- An output reads as 0, so "toggling" drives it high. -/
theorem level_toggle (hout : leds.gpio.output (getPinForColor color) = true) (c : LEDColor) :
    (leds.toggle c).level color = if c = color ∧ leds.ledModes color = .blink then true else leds.level color := by
  unfold toggle
  by_cases hblink : leds.ledModes c = .blink
  · rw [if_pos hblink, level_setLevel]
    by_cases hc : c = color
    · subst hc
      rw [if_pos rfl, if_pos ⟨rfl, hblink⟩, Gpio.getLevel, if_pos hout]
      rfl
    · rw [if_neg hc, if_neg (fun h => hc h.1)]
  · rw [if_neg hblink, if_neg]
    rintro ⟨rfl, h⟩
    exact hblink h

/-- A round of the loop. -/
theorem foldl_toggle (cs : List LEDColor) :
    ∀ leds : Leds, leds.gpio.output (getPinForColor color) = true →
      (cs.foldl toggle leds).ledModes = leds.ledModes ∧ (cs.foldl toggle leds).gpio.output = leds.gpio.output ∧
        (cs.foldl toggle leds).level color =
          if color ∈ cs ∧ leds.ledModes color = .blink then true else leds.level color := by
  induction cs with
  | nil => exact fun leds _ => ⟨rfl, rfl, (if_neg (fun h => List.not_mem_nil h.1)).symm⟩
  | cons c cs ih =>
    intro leds hout
    obtain ⟨hmodes, houtput, hlevel⟩ := ih (leds.toggle c) (by rw [output_toggle, hout])
    rw [ledModes_toggle] at hmodes hlevel
    rw [output_toggle] at houtput
    rw [level_toggle hout] at hlevel
    refine ⟨hmodes, houtput, hlevel.trans ?_⟩
    by_cases hblink : leds.ledModes color = .blink
    · by_cases hc : c = color
      · simp [hc, hblink]
      · simp [hc, hblink, Ne.symm hc]
    · simp [hblink]

end Leds

/-! ## One call -/

namespace LedManager

variable {leds : Leds} {color : LEDColor} {c : LedCall}

/-- A call that does not set the color. -/
theorem effect_of_not_sets (hout : leds.gpio.output (getPinForColor color) = true) (hc : ¬ c.Sets color) :
    (effect c leds).ledModes color = leds.ledModes color ∧ (effect c leds).gpio.output = leds.gpio.output ∧
      (effect c leds).level color =
        if c.isPass = true ∧ leds.ledModes color = .blink then true else leds.level color := by
  cases c with
  | processLog id state => exact ⟨rfl, rfl, rfl⟩
  | setLEDMode d mode intervalMs =>
    have hd : d ≠ color := hc
    refine ⟨?_, Leds.output_updateLEDState _ d, ?_⟩
    · show (Leds.updateLEDState d _).ledModes color = _
      rw [Leds.ledModes_updateLEDState]
      exact Function.update_of_ne hd.symm ..
    · show (Leds.updateLEDState d _).level color = _
      rw [Leds.level_updateLEDState, if_neg hd]
      rfl
  | blinkingPass order =>
    obtain ⟨hmodes, houtput, hlevel⟩ := Leds.foldl_toggle order.colors leds hout
    refine ⟨congrFun hmodes color, houtput, hlevel.trans ?_⟩
    simp [order.complete color, LedCall.isPass]

/-- A call that sets the color. -/
theorem effect_of_sets (color : LEDColor) (mode : LEDMode) (intervalMs : Int) (leds : Leds) :
    (effect (.setLEDMode color mode intervalMs) leds).ledModes color = mode ∧
      (effect (.setLEDMode color mode intervalMs) leds).gpio.output = leds.gpio.output ∧
      (effect (.setLEDMode color mode intervalMs) leds).level color =
        match mode with
        | .off => false
        | .on => true
        | .blink => leds.level color := by
  refine ⟨?_, Leds.output_updateLEDState _ color, ?_⟩
  · show (Leds.updateLEDState color _).ledModes color = _
    rw [Leds.ledModes_updateLEDState]
    exact Function.update_self ..
  · show (Leds.updateLEDState color _).level color = _
    rw [Leds.level_updateLEDState, if_pos rfl]
    dsimp only
    rw [Function.update_self]
    rfl

/-- The pin is an output, and has the level of a mode other than `BLINK`. -/
structure Follows (color : LEDColor) (leds : Leds) : Prop where
  output : leds.gpio.output (getPinForColor color) = true
  off : leds.ledModes color = .off → leds.level color = false
  on : leds.ledModes color = .on → leds.level color = true

theorem Follows.effect (h : Follows color leds) (c : LedCall) : Follows color (effect c leds) := by
  by_cases hc : c.Sets color
  · cases c with
    | processLog id state => exact hc.elim
    | blinkingPass order => exact hc.elim
    | setLEDMode d mode intervalMs =>
      obtain rfl : d = color := hc
      obtain ⟨hmode, houtput, hlevel⟩ := effect_of_sets d mode intervalMs leds
      refine ⟨houtput ▸ h.output, fun hoff => ?_, fun hon => ?_⟩
      · rw [hlevel, hmode.symm.trans hoff]
      · rw [hlevel, hmode.symm.trans hon]
  · obtain ⟨hmode, houtput, hlevel⟩ := effect_of_not_sets h.output hc
    refine ⟨houtput ▸ h.output, fun hoff => ?_, fun hon => ?_⟩
    · rw [hmode] at hoff
      rw [hlevel, if_neg (fun hb => by rw [hb.2] at hoff; cases hoff), h.off hoff]
    · rw [hmode] at hon
      rw [hlevel, if_neg (fun hb => by rw [hb.2] at hon; cases hon), h.on hon]

/-! ## Sequences of calls -/

/-- How often the calls change the level of the pin. -/
def flips (color : LEDColor) : LedManager → List (Thread × LedCall) → Nat
  | _, [] => 0
  | m, c :: calls =>
    (if (m.call c).2.data.level color = m.data.level color then 0 else 1) + flips color (m.call c).2 calls

/-- The manager after the calls. -/
def after (gpio : Gpio) (calls : List (Thread × LedCall)) : LedManager := (respond call (fresh gpio).init calls).2

theorem after_concat (gpio : Gpio) (calls : List (Thread × LedCall)) (c : Thread × LedCall) :
    after gpio (calls ++ [c]) = ((after gpio calls).call c).2 := by
  unfold after
  rw [respond_append]
  rfl

theorem mtx_after (gpio : Gpio) {calls : List (Thread × LedCall)} (hcalls : ∀ c ∈ calls, c.2.Unlisted) :
    (after gpio calls).mtx = none := mtx_respond rfl hcalls

theorem follows_after {gpio : Gpio} (hlow : ∀ pin, gpio.level pin = false) {calls : List (Thread × LedCall)}
    (hcalls : ∀ c ∈ calls, c.2.Unlisted) (color : LEDColor) : Follows color (after gpio calls).data := by
  induction calls using List.reverseRecOn with
  | nil =>
    refine ⟨?_, fun _ => hlow _, fun h => ?_⟩
    · cases color <;> rfl
    · cases h
  | append_singleton calls c ih =>
    rw [List.forall_mem_append, List.forall_mem_singleton] at hcalls
    rw [after_concat, call_of_unlisted (mtx_after gpio hcalls.1) hcalls.2]
    exact (ih hcalls.1).effect c.2

/-- A blinking pin goes high in the first round, and stays high. -/
theorem flips_of_blinking {calls : List (Thread × LedCall)} :
    ∀ m : LedManager, m.mtx = none → m.data.gpio.output (getPinForColor color) = true →
      m.data.ledModes color = .blink → (∀ c ∈ calls, c.2.Unlisted ∧ ¬ c.2.Sets color) →
        flips color m calls = if m.data.level color = true then 0 else min 1 (passes calls) := by
  induction calls with
  | nil =>
    intro m _ _ _ _
    exact (ite_self 0).symm
  | cons c calls ih =>
    intro m hm hout hblink hcalls
    rw [List.forall_mem_cons] at hcalls
    obtain ⟨⟨hunlisted, hsets⟩, hrest⟩ := hcalls
    obtain ⟨hmode, houtput, hlevel⟩ := effect_of_not_sets hout hsets
    have hcall := call_of_unlisted hm hunlisted
    have hnext := ih (m.call c).2 (by rw [hcall]; exact hm) (by rw [hcall]; exact houtput ▸ hout)
      (by rw [hcall]; exact hmode.trans hblink) hrest
    have hnew : (m.call c).2.data.level color = if c.2.isPass = true then true else m.data.level color := by
      rw [hcall]
      show (effect c.2 m.data).level color = _
      rw [hlevel]
      simp only [hblink, and_true]
    rw [flips, hnext, hnew, passes_cons]
    cases hpass : c.2.isPass with
    | true =>
      cases m.data.level color with
      | true => rfl
      | false =>
        simp only [if_true, Bool.true_eq_false, if_false, Bool.false_eq_true]
        omega
    | false =>
      simp only [Bool.false_eq_true, if_false, if_true, Nat.zero_add, Nat.add_zero]

/-- From the setting on, the level that the pin had before it decides. -/
theorem flips_after_setting {gpio : Gpio} (hlow : ∀ pin, gpio.level pin = false) {pre post : List (Thread × LedCall)}
    {thread : Thread} {intervalMs : Int}
    (hcalls : ∀ c ∈ pre ++ (thread, .setLEDMode color .blink intervalMs) :: post, c.2.Unlisted)
    (hpost : ∀ c ∈ post, ¬ c.2.Sets color) :
    flips color (after gpio (pre ++ [(thread, .setLEDMode color .blink intervalMs)])) post =
      if (after gpio pre).data.level color = true then 0 else min 1 (passes post) := by
  rw [List.forall_mem_append, List.forall_mem_cons] at hcalls
  obtain ⟨hpre, hset, hrest⟩ := hcalls
  have hcall := call_of_unlisted (mtx_after gpio hpre) hset
  obtain ⟨hmode, houtput, hlevel⟩ := effect_of_sets color .blink intervalMs (after gpio pre).data
  rw [after_concat, hcall]
  refine (flips_of_blinking
    { after gpio pre with data := effect (.setLEDMode color .blink intervalMs) (after gpio pre).data }
    (mtx_after gpio hpre) ?_ hmode (fun c hc => ⟨hrest c hc, hpost c hc⟩)).trans ?_
  · exact houtput ▸ (follows_after hlow hpre color).output
  · exact congrArg (fun b => if b = true then 0 else min 1 (passes post)) hlevel

/-! ## The result -/

/-- At the end of the calls the color shows its mode, and if it blinks it has done so at its interval. -/
structure Shows (gpio : Gpio) (calls : List (Thread × LedCall)) (color : LEDColor) : Prop where
  off : (after gpio calls).data.ledModes color = .off → (after gpio calls).data.level color = false
  on : (after gpio calls).data.ledModes color = .on → (after gpio calls).data.level color = true
  blink : ∀ pre thread intervalMs post, calls = pre ++ (thread, .setLEDMode color .blink intervalMs) :: post →
    (∀ c ∈ post, ¬ c.2.Sets color) → 0 < intervalMs →
      (flips color (after gpio (pre ++ [(thread, .setLEDMode color .blink intervalMs)])) post : Int) =
        100 * passes post / intervalMs
  others : ∀ thread d mode intervalMs, d ≠ color →
    ((after gpio calls).call (thread, .setLEDMode d mode intervalMs)).2.data.level color =
      (after gpio calls).data.level color

/-- `p` rounds after the mode was set: the interval is not over and the pin was high, or there was no round yet, or the
interval is over once and the pin was low. -/
def InStep (high : Bool) (p : Nat) (intervalMs : Int) : Prop :=
  if high = true then 100 * p < intervalMs else p = 0 ∨ (intervalMs ≤ 100 * p ∧ 100 * p < 2 * intervalMs)

theorem inStep_iff (high : Bool) (p : Nat) {intervalMs : Int} (hpos : 0 < intervalMs) :
    (((if high = true then 0 else min 1 p : Nat) : Int) = 100 * p / intervalMs) ↔ InStep high p intervalMs := by
  have hzero : (100 * (p : Int) / intervalMs = 0) ↔ 100 * (p : Int) < intervalMs := by
    rw [Int.ediv_eq_iff_of_pos hpos]
    omega
  have hone : (100 * (p : Int) / intervalMs = 1) ↔ intervalMs ≤ 100 * p ∧ 100 * (p : Int) < 2 * intervalMs := by
    rw [Int.ediv_eq_iff_of_pos hpos]
    omega
  unfold InStep
  cases high with
  | true =>
    rw [if_pos rfl, if_pos rfl, ← hzero]
    exact eq_comm
  | false =>
    rw [if_neg Bool.false_ne_true, if_neg Bool.false_ne_true]
    by_cases hp : p = 0
    · simp [hp]
    · rw [show min 1 p = 1 by omega, ← hone, or_iff_right hp]
      exact eq_comm

/-- **When the LEDs show their modes.** For every sequence of calls after `init`, with all pins low at first: every
color shows its mode and has blinked at its interval, exactly when one change of the level is what its interval asks
for, or none if the pin was high. -/
theorem shows_iff (gpio : Gpio) (hlow : ∀ pin, gpio.level pin = false) (calls : List (Thread × LedCall))
    (hcalls : ∀ c ∈ calls, c.2.Unlisted) (color : LEDColor) :
    Shows gpio calls color ↔
      ∀ pre thread intervalMs post, calls = pre ++ (thread, .setLEDMode color .blink intervalMs) :: post →
        (∀ c ∈ post, ¬ c.2.Sets color) → 0 < intervalMs →
          InStep ((after gpio pre).data.level color) (passes post) intervalMs := by
  have hfollows := follows_after hlow hcalls color
  constructor
  · intro h pre thread intervalMs post hpre hpost hpos
    rw [← inStep_iff _ _ hpos, ← flips_after_setting hlow (hpre ▸ hcalls) hpost]
    exact h.blink pre thread intervalMs post hpre hpost hpos
  · intro h
    refine ⟨hfollows.off, hfollows.on, fun pre thread intervalMs post hpre hpost hpos => ?_,
      fun thread d mode intervalMs hd => ?_⟩
    · rw [flips_after_setting hlow (hpre ▸ hcalls) hpost, inStep_iff _ _ hpos]
      exact h pre thread intervalMs post hpre hpost hpos
    · rw [call_of_unlisted (mtx_after gpio hcalls) (show LedCall.Unlisted (.setLEDMode d mode intervalMs) from trivial)]
      exact (effect_of_not_sets hfollows.output (show ¬ LedCall.Sets color (.setLEDMode d mode intervalMs) from hd)).2.2

/-- The order in which `std::unordered_map` is gone through here. -/
def redGreenBlue : MapOrder := ⟨[.red, .green, .blue], by decide, by rintro (_ | _ | _) <;> decide⟩

def lowPins : Gpio := ⟨fun _ => false, fun _ => false⟩

/-- One round of 100 ms, for a color that is to change every 100 ms. -/
theorem shows_iff_first_round :
    Shows lowPins [(0, .setLEDMode .red .blink 100), (1, .blinkingPass redGreenBlue)] .red := by
  refine (shows_iff lowPins (fun _ => rfl) _ (by simp [LedCall.Unlisted]) .red).mpr ?_
  rintro (_ | ⟨c, _ | ⟨d, pre⟩⟩) thread intervalMs post h - -
  · cases h
    exact (if_neg Bool.false_ne_true).mpr (.inr ⟨by decide, by decide⟩)
  · cases h
  · exact absurd (congrArg List.length h) (by simp)

/-- After two rounds of 100 ms a color that is to change every 100 ms has changed once. -/
theorem not_in_step :
    ¬ Shows lowPins
      [(0, .setLEDMode .red .blink 100), (1, .blinkingPass redGreenBlue), (1, .blinkingPass redGreenBlue)] .red := by
  intro h
  have hblink := h.blink [] 0 100 [(1, .blinkingPass redGreenBlue), (1, .blinkingPass redGreenBlue)] rfl
    (by simp [LedCall.Sets]) (by decide)
  exact absurd hblink (by decide)

end LedManager

end MultisensorStation.Led
