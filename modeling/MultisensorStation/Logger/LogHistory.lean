import MultisensorStation.Logger.EventLogger

/-!
# What the log says about the objects

* `LoggedObjects.changes_concat`, `setState_of_same`, `setState_of_changed` : one more call of `setState`;
* `Logged` : the buffer stands for the queue of the lines of all changes, and the last change of an object is its
  state; it survives every call;
* `log_faithful` : what this means for the buffer at the end of a run.
-/

namespace MultisensorStation.Logger
open MultisensorStation.Base MultisensorStation.Patterns

namespace LoggedObjects

variable {ι : Type} {S : ι → Type}

/-- A new family, with an empty log. -/
def init (objects : ∀ i, StatefulObjectLogged (S i)) : LoggedObjects S := ⟨objects, .fresh⟩

/-- The line that a change to `c.2` of the object `c.1` should leave. -/
def text (w : LoggedObjects S) (c : Sigma S) : Bytes :=
  EventLogger.fullLine (w.objects c.1).id ((w.objects c.1).getStateAsString c.2)

/-- No NUL bytes, and every line fits into the buffer of `logStateChange`. -/
structure Fits (w : LoggedObjects S) : Prop where
  length_le : ∀ i x, 34 + (w.objects i).id.length + ((w.objects i).getStateAsString x).length ≤ 63
  id : ∀ i, 0 ∉ (w.objects i).id
  getStateAsString : ∀ i x, 0 ∉ (w.objects i).getStateAsString x

variable [DecidableEq ι] [∀ i, DecidableEq (S i)]

theorem run_concat (w : LoggedObjects S) (cs : List (Sigma S)) (c : Sigma S) :
    w.run (cs ++ [c]) = (w.run cs).setState c := by
  unfold run
  rw [List.foldl_append, List.foldl_cons, List.foldl_nil]

theorem changes_concat (w : LoggedObjects S) (cs : List (Sigma S)) (c : Sigma S) :
    w.changes (cs ++ [c]) = w.changes cs ++ if ((w.run cs).objects c.1).state = c.2 then [] else [c] := by
  induction cs generalizing w with
  | nil =>
    show (if _ then _ else _) = _
    rfl
  | cons d cs ih =>
    rw [List.cons_append, changes, changes, ih]
    split <;> rfl

/-- A call with the current state changes nothing. -/
theorem setState_of_same {w : LoggedObjects S} {c : Sigma S} (h : (w.objects c.1).state = c.2) :
    w.setState c = w := by
  unfold setState StatefulObjectLogged.setState
  rw [if_neg (by simpa using h)]
  show (⟨Function.update w.objects c.1 (w.objects c.1), w.logger⟩ : LoggedObjects S) = w
  rw [Function.update_eq_self]

theorem setState_of_changed {w : LoggedObjects S} {c : Sigma S} (h : (w.objects c.1).state ≠ c.2) :
    w.setState c =
      ⟨Function.update w.objects c.1 { w.objects c.1 with state := c.2 },
        w.logger.logStateChange (w.objects c.1).id ((w.objects c.1).getStateAsString c.2)⟩ := by
  unfold setState StatefulObjectLogged.setState
  rw [if_pos h]

omit [∀ i, DecidableEq (S i)] in
/-- A change of a state keeps everything else about the objects. -/
theorem update_state_same (w : LoggedObjects S) (c : Sigma S) (i : ι) :
    (Function.update w.objects c.1 { w.objects c.1 with state := c.2 } i).id = (w.objects i).id ∧
      (Function.update w.objects c.1 { w.objects c.1 with state := c.2 } i).getStateAsString =
        (w.objects i).getStateAsString := by
  by_cases hi : i = c.1
  · subst hi
    rw [Function.update_self]
    exact ⟨rfl, rfl⟩
  · rw [Function.update_of_ne hi]
    exact ⟨rfl, rfl⟩

/-- What holds after the calls `cs`. -/
structure Logged (w₀ : LoggedObjects S) (cs : List (Sigma S)) (w : LoggedObjects S) : Prop where
  lines : w.logger.logs.Represents (((w₀.changes cs).map w₀.text).foldl BoundedQueue.push (.empty _ _))
  id : ∀ i, (w.objects i).id = (w₀.objects i).id
  getStateAsString : ∀ i, (w.objects i).getStateAsString = (w₀.objects i).getStateAsString
  latest : ∀ pre i x post, w₀.changes cs = pre ++ ⟨i, x⟩ :: post → (∀ c ∈ post, c.1 ≠ i) → (w.objects i).state = x

theorem logged_init (objects : ∀ i, StatefulObjectLogged (S i)) : Logged (init objects) [] (init objects) where
  lines := CircularBuffer.represents_fresh
  id := fun _ => rfl
  getStateAsString := fun _ => rfl
  latest := by
    intro pre i x post h
    have hlen := congrArg List.length h
    simp [changes] at hlen

/-- The new line is the whole line of the change. -/
theorem Logged.line_eq {w₀ w : LoggedObjects S} {cs : List (Sigma S)} (h : Logged w₀ cs w) (hfits : w₀.Fits)
    (c : Sigma S) :
    EventLogger.line (w.objects c.1).id ((w.objects c.1).getStateAsString c.2) = w₀.text c := by
  rw [h.id, h.getStateAsString]
  exact EventLogger.line_of_fits (hfits.length_le c.1 c.2) (hfits.id c.1) (hfits.getStateAsString c.1 c.2)

omit [DecidableEq ι] [∀ i, DecidableEq (S i)] in
/-- The latest change of `i` among `ds` and `c`: it is `c`, or `c` belongs to another object. -/
theorem latest_concat {ds pre post : List (Sigma S)} {c d : Sigma S} (heq : ds ++ [c] = pre ++ d :: post)
    (hpost : ∀ e ∈ post, e.1 ≠ d.1) :
    c = d ∨ (c.1 ≠ d.1 ∧ ∃ post', ds = pre ++ d :: post' ∧ ∀ e ∈ post', e.1 ≠ d.1) := by
  rcases List.eq_nil_or_concat post with rfl | ⟨post', e, rfl⟩
  · obtain ⟨-, hlast⟩ := List.append_inj' heq rfl
    exact Or.inl (List.singleton_inj.mp hlast)
  · right
    rw [List.concat_eq_append] at heq hpost
    rw [List.forall_mem_append, List.forall_mem_singleton] at hpost
    rw [← List.cons_append, ← List.append_assoc] at heq
    obtain ⟨hold, hlast⟩ := List.append_inj' heq rfl
    rw [List.singleton_inj] at hlast
    exact ⟨hlast ▸ hpost.2, post', hold, hpost.1⟩

theorem Logged.setState {w₀ : LoggedObjects S} {cs : List (Sigma S)} (h : Logged w₀ cs (w₀.run cs))
    (hfits : w₀.Fits) (c : Sigma S) : Logged w₀ (cs ++ [c]) (w₀.run (cs ++ [c])) := by
  rw [run_concat]
  by_cases hc : ((w₀.run cs).objects c.1).state = c.2
  · have hsame : w₀.changes (cs ++ [c]) = w₀.changes cs := by
      rw [changes_concat, if_pos hc, List.append_nil]
    rw [setState_of_same hc]
    exact ⟨hsame ▸ h.lines, h.id, h.getStateAsString, hsame ▸ h.latest⟩
  · have hmore : w₀.changes (cs ++ [c]) = w₀.changes cs ++ [c] := by
      rw [changes_concat, if_neg hc]
    rw [setState_of_changed hc]
    refine ⟨?_, ?_, ?_, ?_⟩
    · rw [hmore, List.map_append, List.foldl_append]
      show (EventLogger.logStateChange _ _ _).logs.Represents _
      rw [EventLogger.logs_logStateChange, h.line_eq hfits]
      exact (h.lines.pushSlot (by decide) (by decide) _).2
    · exact fun i => (update_state_same _ _ i).1.trans (h.id i)
    · exact fun i => (update_state_same _ _ i).2.trans (h.getStateAsString i)
    · intro pre i x post heq hpost
      rw [hmore] at heq
      dsimp only
      rcases latest_concat heq hpost with rfl | ⟨hne, post', hold, hpost'⟩
      · rw [Function.update_self]
      · rw [Function.update_of_ne hne.symm]
        exact h.latest pre i x post' hold hpost'

theorem logged_run (objects : ∀ i, StatefulObjectLogged (S i)) (hfits : (init objects).Fits)
    (cs : List (Sigma S)) : Logged (init objects) cs ((init objects).run cs) := by
  induction cs using List.reverseRecOn with
  | nil => exact logged_init objects
  | append_singleton cs c ih => exact ih.setState hfits c

/-- **The log is faithful.** For objects whose lines fit and have no NUL bytes, after any calls of `setState` the buffer
shows the whole lines of the last 30 changes, and the latest of them that belongs to an object shows its state. -/
theorem log_faithful (objects : ∀ i, StatefulObjectLogged (S i)) (hfits : (init objects).Fits)
    (calls : List (Sigma S)) :
    let w := (init objects).run calls
    let kept := ((init objects).changes calls).rtake 30
    w.logger.logs.Observed (kept.map (init objects).text) ∧
      ∀ pre i x post, kept = pre ++ ⟨i, x⟩ :: post → (∀ c ∈ post, c.1 ≠ i) →
        (init objects).text ⟨i, x⟩ = (init objects).text ⟨i, (w.objects i).state⟩ := by
  intro w kept
  have h := logged_run objects hfits calls
  constructor
  · have hobs := h.lines.observed (by decide) (by decide)
    rw [BoundedQueue.items_foldl_push, ← BoundedQueue.map_rtake] at hobs
    exact hobs
  · intro pre i x post heq hpost
    have hdrop : (init objects).changes calls =
        ((init objects).changes calls).take (((init objects).changes calls).length - 30) ++ kept :=
      (List.take_append_drop _ _).symm
    rw [heq, ← List.append_assoc] at hdrop
    rw [h.latest _ i x post hdrop hpost]

/-- Two objects, and a call that changes nothing. -/
theorem log_faithful_two_objects :
    let objects : Bool → StatefulObjectLogged Bool := fun i =>
      { id := if i then ascii "WifiManager" else ascii "MqttManager"
        state := false
        getStateAsString := fun x => if x then ascii "CONNECTED" else ascii "DISCONNECTED" }
    let w := (init objects).run [⟨true, true⟩, ⟨true, true⟩, ⟨false, true⟩, ⟨true, false⟩]
    w.logger.logs.Observed [ascii "[<timestamp_not_implemented>] WifiManager -> CONNECTED",
      ascii "[<timestamp_not_implemented>] MqttManager -> CONNECTED",
      ascii "[<timestamp_not_implemented>] WifiManager -> DISCONNECTED"] := by
  intro objects w
  have hfits : (init objects).Fits := ⟨by decide, by decide, by decide⟩
  have hlog := (log_faithful objects hfits [⟨true, true⟩, ⟨true, true⟩, ⟨false, true⟩, ⟨true, false⟩]).1
  have hkept : ((init objects).changes [⟨true, true⟩, ⟨true, true⟩, ⟨false, true⟩, ⟨true, false⟩]).rtake 30 =
      [⟨true, true⟩, ⟨false, true⟩, ⟨true, false⟩] := rfl
  have htext : [⟨true, true⟩, ⟨false, true⟩, ⟨true, false⟩].map (init objects).text =
      [ascii "[<timestamp_not_implemented>] WifiManager -> CONNECTED",
        ascii "[<timestamp_not_implemented>] MqttManager -> CONNECTED",
        ascii "[<timestamp_not_implemented>] WifiManager -> DISCONNECTED"] := by decide
  rwa [hkept, htext] at hlog

/-- `%s` stops at a NUL inside the state string, so the line in the buffer lacks the rest of it. -/
theorem log_stops_at_nul :
    let objects : Unit → StatefulObjectLogged Bool := fun _ =>
      { id := ascii "w", state := false, getStateAsString := fun x => if x then [65, 0, 66] else [67] }
    let w := (init objects).run [⟨(), true⟩]
    (∀ i x, 34 + (objects i).id.length + ((objects i).getStateAsString x).length ≤ 63) ∧
      (init objects).changes [⟨(), true⟩] = [⟨(), true⟩] ∧
      w.logger.logs.atIndex 0 = some (ascii "[<timestamp_not_implemented>] w -> A") ∧
      w.logger.logs.atIndex 0 ≠ some ((init objects).text ⟨(), true⟩) := by
  intro objects w
  exact ⟨fun _ x => by cases x <;> decide, rfl, by decide, by decide⟩

end LoggedObjects

end MultisensorStation.Logger
