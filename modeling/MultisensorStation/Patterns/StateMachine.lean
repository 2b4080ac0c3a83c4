import MultisensorStation.Base.Trail
import Mathlib.Logic.Function.Basic

/-!
# `StateMachine<stateType_t>`

* `StateMachine` : the state, the two tables of transitions and the list of observers;
* `Traced` : a machine with the history of what it has done, `Event` by `Event`;
* `Handler` : the user code behind a callback or an observer; it works on the machine that calls it, and may end
  with an exception;
* `registerStateTransition`, `registerObserver`, `changeToState`, `isValidTransition`, `notifyStateChange` : the
  members;
* `delivered`, `received` : the pairs that one registration, or one observer, was notified of.
-/

namespace MultisensorStation.Patterns
open MultisensorStation.Base

/-- `K` names the callbacks and `O` the observers. -/
structure StateMachine (S K O : Type) where
  currentState : S
  stateTransitions : S → Option (List S)
  stateChangeCallbacks : S × S → Option K
  observers : List O

/-- Who calls `changeToState`: code outside of the machine, a callback, or an observer (by its place in the list). -/
inductive Caller where
  | outside
  | callback
  | observer (i : Nat)
  deriving DecidableEq

inductive Event (S K O : Type) where
  | changed (caller : Caller) (oldState newState : S)
  | callback (k : K) (oldState newState : S)
  /-- the `i`-th registered observer, which is `o` -/
  | notify (i : Nat) (o : O) (oldState newState : S)
  deriving DecidableEq

structure Traced (S K O : Type) where
  machine : StateMachine S K O
  /-- oldest first -/
  trace : List (Event S K O)

/-- User code; `false` when it ends with an exception. -/
abbrev Handler (S K O : Type) := Traced S K O → Bool × Traced S K O

namespace StateMachine

variable {S K O : Type}

/-- `unordered_map`s and the vector start out empty. -/
def start (s₀ : S) : StateMachine S K O := ⟨s₀, fun _ => none, fun _ => none, []⟩

def getState (m : StateMachine S K O) : S := m.currentState

variable [DecidableEq S]

def registerStateTransition (fromState toState : S) (callback : K) (m : StateMachine S K O) : StateMachine S K O :=
  { m with
    stateTransitions := Function.update m.stateTransitions fromState
      (some ((m.stateTransitions fromState).getD [] ++ [toState]))
    stateChangeCallbacks := Function.update m.stateChangeCallbacks (fromState, toState) (some callback) }

def registerObserver (observer : O) (m : StateMachine S K O) : StateMachine S K O :=
  { m with observers := m.observers ++ [observer] }

def isValidTransition (fromState toState : S) (m : StateMachine S K O) : Bool :=
  match m.stateTransitions fromState with
  | none => false
  | some targets => targets.any (fun validState => validState = toState)

end StateMachine

namespace Traced

variable {S K O : Type}

def record (e : Event S K O) (w : Traced S K O) : Traced S K O := { w with trace := w.trace ++ [e] }

/-- `for (auto& observer : observers)`, from the `i`-th one on; an exception ends the loop. -/
def notifyObservers (onObserver : Nat → Handler S K O) (oldState newState : S) :
    List O → Nat → Handler S K O
  | [], _, w => (true, w)
  | o :: os, i, w =>
    match onObserver i (w.record (.notify i o oldState newState)) with
    | (true, w) => notifyObservers onObserver oldState newState os (i + 1) w
    | (false, w) => (false, w)

def notifyStateChange (onCallback : Handler S K O) (onObserver : Nat → Handler S K O) (oldState newState : S) :
    Handler S K O := fun w =>
  let (returned, w) := match w.machine.stateChangeCallbacks (oldState, newState) with
    | some k => onCallback (w.record (.callback k oldState newState))
    | none => (true, w)
  if returned then notifyObservers onObserver oldState newState w.machine.observers 0 w else (false, w)

/-- `currentState = newState` -/
def setCurrentState (caller : Caller) (newState : S) (w : Traced S K O) : Traced S K O :=
  record (.changed caller w.machine.currentState newState)
    { w with machine := { w.machine with currentState := newState } }

/-- The returned value, or `none` when a handler's exception passes through. -/
def changeToState [DecidableEq S] (caller : Caller) (onCallback : Handler S K O) (onObserver : Nat → Handler S K O)
    (newState : S) (w : Traced S K O) : Option Bool × Traced S K O :=
  if w.machine.isValidTransition w.machine.currentState newState then
    let oldState := w.machine.currentState
    let (returned, w) := notifyStateChange onCallback onObserver oldState newState (w.setCurrentState caller newState)
    (if returned then some true else none, w)
  else (some false, w)

theorem changeToState_of_valid [DecidableEq S] {caller : Caller} {onCallback : Handler S K O}
    {onObserver : Nat → Handler S K O} {newState : S} {w : Traced S K O}
    (hv : w.machine.isValidTransition w.machine.currentState newState = true) :
    let after := notifyStateChange onCallback onObserver w.machine.currentState newState
      (w.setCurrentState caller newState)
    w.changeToState caller onCallback onObserver newState = (if after.1 then some true else none, after.2) := by
  unfold changeToState
  rw [if_pos hv]

theorem changeToState_of_not_valid [DecidableEq S] {caller : Caller} {onCallback : Handler S K O}
    {onObserver : Nat → Handler S K O} {newState : S} {w : Traced S K O}
    (hv : ¬ w.machine.isValidTransition w.machine.currentState newState = true) :
    w.changeToState caller onCallback onObserver newState = (some false, w) := by
  unfold changeToState
  rw [if_neg hv]

end Traced

/-! ## What observers hear -/

section Delivered
variable {S K O : Type}

/-- The pair, if the `i`-th registered observer is notified. -/
def Event.deliveredTo (i : Nat) : Event S K O → Option (S × S)
  | .notify j _ oldState newState => if j = i then some (oldState, newState) else none
  | _ => none

def Event.receivedBy [DecidableEq O] (o : O) : Event S K O → Option (S × S)
  | .notify _ p oldState newState => if p = o then some (oldState, newState) else none
  | _ => none

def delivered (i : Nat) (trace : List (Event S K O)) : List (S × S) := trace.filterMap (Event.deliveredTo i)

def received [DecidableEq O] (o : O) (trace : List (Event S K O)) : List (S × S) :=
  trace.filterMap (Event.receivedBy o)

theorem delivered_append (i : Nat) (t u : List (Event S K O)) :
    delivered i (t ++ u) = delivered i t ++ delivered i u := by
  unfold delivered
  exact List.filterMap_append

theorem delivered_notify (i j : Nat) (o : O) (oldState newState : S) :
    delivered i [(.notify j o oldState newState : Event S K O)] = if j = i then [(oldState, newState)] else [] := by
  unfold delivered Event.deliveredTo
  by_cases h : j = i <;> simp [h]

theorem delivered_changed (i : Nat) (caller : Caller) (oldState newState : S) :
    delivered i [(.changed caller oldState newState : Event S K O)] = [] := rfl

theorem delivered_callback (i : Nat) (k : K) (oldState newState : S) :
    delivered i [(.callback k oldState newState : Event S K O)] = [] := rfl

theorem delivered_record (i : Nat) (w : Traced S K O) (e : Event S K O) :
    delivered i (w.record e).trace = delivered i w.trace ++ delivered i [e] := delivered_append i w.trace [e]

end Delivered

end MultisensorStation.Patterns
