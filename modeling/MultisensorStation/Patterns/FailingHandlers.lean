import MultisensorStation.Patterns.Announcements

/-!
# Changes whose handlers throw

`changeToState` stores the new state before it calls anyone, and catches nothing.

* `mayThrow` : a handler that leaves the machine alone and may end with an exception;
* `announce` : recording events one by one up to the first whose handler throws, which is what `notifyStateChange` does
  with `announcements` (`notifyStateChange_mayThrow`);
* `failing_change` : the state after a change, and who has been called.
-/

namespace MultisensorStation.Patterns
open MultisensorStation.Base

variable {S K O : Type}

/-- Whether it throws may depend on everything that has happened. -/
def mayThrow (throws : Traced S K O → Bool) : Handler S K O := fun w => (!throws w, w)

/-- Does the handler that the event is about throw? -/
def Event.throwing (callbackThrows : Traced S K O → Bool) (observerThrows : Nat → Traced S K O → Bool) :
    Event S K O → Traced S K O → Bool
  | .changed _ _ _, _ => false
  | .callback _ _ _, w => callbackThrows w
  | .notify i _ _ _, w => observerThrows i w

namespace Traced

/-- Record the events one by one, up to the first whose handler throws. -/
def announce (throws : Event S K O → Traced S K O → Bool) : List (Event S K O) → Handler S K O
  | [], w => (true, w)
  | e :: es, w => if throws e (w.record e) then (false, w.record e) else announce throws es (w.record e)

/-- After the first `n` of the events. -/
def recordFirst (es : List (Event S K O)) (n : Nat) (w : Traced S K O) : Traced S K O :=
  { w with trace := w.trace ++ es.take n }

theorem recordFirst_record (e : Event S K O) (es : List (Event S K O)) (n : Nat) (w : Traced S K O) :
    recordFirst es n (w.record e) = recordFirst (e :: es) (n + 1) w := by
  show ({ w with trace := w.trace ++ [e] ++ es.take n } : Traced S K O) = { w with trace := _ }
  rw [← List.append_cons]
  rfl

/-- Either all events are recorded, or those up to one whose handler throws. -/
theorem announce_eq (throws : Event S K O → Traced S K O → Bool) (es : List (Event S K O)) :
    ∀ w : Traced S K O, announce throws es w = (true, recordFirst es es.length w) ∨
      ∃ k e, es[k]? = some e ∧ throws e (recordFirst es (k + 1) w) = true ∧
        announce throws es w = (false, recordFirst es (k + 1) w) := by
  induction es with
  | nil =>
    intro w
    refine .inl ?_
    show (true, w) = (true, { w with trace := w.trace ++ [] })
    rw [List.append_nil]
  | cons e es ih =>
    intro w
    have hrec : recordFirst (e :: es) 1 w = w.record e := rfl
    by_cases he : throws e (w.record e) = true
    · exact .inr ⟨0, e, rfl, he, if_pos he⟩
    · have hrest : announce throws (e :: es) w = announce throws es (w.record e) := if_neg he
      rcases ih (w.record e) with hall | ⟨k, f, hf, hthrows, hsome⟩
      · exact .inl (by rw [hrest, hall, recordFirst_record]; rfl)
      · rw [recordFirst_record] at hthrows hsome
        exact .inr ⟨k + 1, f, hf, hthrows, hrest.trans hsome⟩

section Notify
variable (callbackThrows : Traced S K O → Bool) (observerThrows : Nat → Traced S K O → Bool) (oldState newState : S)

theorem notifyObservers_mayThrow (os : List O) :
    ∀ (i : Nat) (w : Traced S K O),
      notifyObservers (fun i => mayThrow (observerThrows i)) oldState newState os i w =
        announce (Event.throwing callbackThrows observerThrows)
          ((os.zipIdx i).map (fun p => .notify p.2 p.1 oldState newState)) w := by
  induction os with
  | nil => exact fun i w => rfl
  | cons o os ih =>
    intro i w
    rw [List.zipIdx_cons, List.map_cons, announce, ← ih, notifyObservers]
    show _ = if observerThrows i (w.record (.notify i o oldState newState)) = true then _ else _
    unfold mayThrow
    cases observerThrows i (w.record (.notify i o oldState newState)) with
    | true => rfl
    | false => rfl

theorem notifyStateChange_mayThrow (w : Traced S K O) :
    notifyStateChange (mayThrow callbackThrows) (fun i => mayThrow (observerThrows i)) oldState newState w =
      announce (Event.throwing callbackThrows observerThrows) (announcements w.machine oldState newState) w := by
  have hobservers := notifyObservers_mayThrow callbackThrows observerThrows oldState newState w.machine.observers 0
  unfold notifyStateChange announcements
  cases w.machine.stateChangeCallbacks (oldState, newState) with
  | none => exact hobservers w
  | some k =>
    rw [Option.toList_some, List.map_singleton, List.singleton_append, announce, ← hobservers]
    show _ = if callbackThrows (w.record (.callback k oldState newState)) = true then _ else _
    unfold mayThrow
    dsimp only
    cases callbackThrows (w.record (.callback k oldState newState)) with
    | true => rfl
    | false => rfl

end Notify

/-- **A change whose handlers may throw.** Once a registered change to `newState` is called, the machine is in
`newState`, whether the call returns `true` or exits by an exception. If it returns, the callback and every observer
have been called; if not, they have been called in this order up to the one that threw. -/
theorem failing_change [DecidableEq S] (callbackThrows : Traced S K O → Bool)
    (observerThrows : Nat → Traced S K O → Bool) (w : Traced S K O) (newState : S) (k : K)
    (hv : w.machine.isValidTransition w.machine.currentState newState = true)
    (hk : w.machine.stateChangeCallbacks (w.machine.currentState, newState) = some k) :
    let oldState := w.machine.currentState
    let r := w.changeToState .outside (mayThrow callbackThrows) (fun i => mayThrow (observerThrows i)) newState
    let called := .callback k oldState newState ::
      w.machine.observers.zipIdx.map (fun p => .notify p.2 p.1 oldState newState)
    r.2.machine = { w.machine with currentState := newState } ∧
      (r.1 = some true ∧ r.2.trace = w.trace ++ .changed .outside oldState newState :: called ∨
        r.1 = none ∧ ∃ n e, called[n]? = some e ∧ e.throwing callbackThrows observerThrows r.2 = true ∧
          r.2.trace = w.trace ++ .changed .outside oldState newState :: called.take (n + 1)) := by
  intro oldState r called
  have hcalled : announcements (w.setCurrentState .outside newState).machine oldState newState = called := by
    show announcements w.machine oldState newState = called
    unfold announcements
    rw [hk]
    rfl
  have hr : r = _ := changeToState_of_valid hv
  rw [notifyStateChange_mayThrow, hcalled] at hr
  -- the state is stored before the events of `called`
  have htrace : ∀ es : List (Event S K O), (w.setCurrentState .outside newState).trace ++ es =
      w.trace ++ .changed .outside oldState newState :: es := fun es => (List.append_cons ..).symm
  rcases announce_eq (Event.throwing callbackThrows observerThrows) called (w.setCurrentState .outside newState) with
    hall | ⟨n, e, he, hthrows, hsome⟩
  · rw [hall] at hr
    rw [hr]
    refine ⟨rfl, .inl ⟨rfl, ?_⟩⟩
    show _ ++ called.take called.length = _
    rw [List.take_length, htrace]
  · rw [hsome] at hr
    rw [hr]
    exact ⟨rfl, .inr ⟨rfl, n, e, he, hthrows, htrace _⟩⟩

/-- A transition from 0 to 1, with a callback and an observer. -/
def oneStep : Traced Nat Unit Unit :=
  ⟨((StateMachine.start 0).registerStateTransition 0 1 ()).registerObserver (), []⟩

/-- The observer throws. -/
theorem failing_change_observer :
    (oneStep.changeToState .outside (mayThrow fun _ => false) (fun _ => mayThrow fun _ => true) 1).2.machine =
      { oneStep.machine with currentState := 1 } :=
  (failing_change (fun _ => false) (fun _ _ => true) oneStep 1 () (by decide) rfl).1

/-- After an exception the machine is in the new state. -/
theorem failing_change_not_undone :
    let r := oneStep.changeToState .outside (mayThrow fun _ => true) (fun _ => mayThrow fun _ => false) 1
    r.1 = none ∧ r.2.machine.getState ≠ oneStep.machine.getState := by
  decide

end Traced

end MultisensorStation.Patterns
