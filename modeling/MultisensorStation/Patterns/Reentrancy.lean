import MultisensorStation.Patterns.StateMachine

/-!
# Handlers that call the machine again

* `Reaction` : the calls of `changeToState` that a piece of user code makes, each with the reactions of the callback
  and of the observers it notifies; `Reaction.perform`;
* `Caller.fromOrBehind` : the callers that observer `i` hears in order, which are the code outside, the observer itself
  and those registered behind it;
* `InSync` : observer `i` believes in the current state; `InOrder` : what a reaction does to it, `inOrder_perform`;
* `heard_in_order` : when only such callers make changes, what observer `i` hears is a chain.
-/

namespace MultisensorStation.Patterns
open MultisensorStation.Base

/-- One run of user code, with finitely many nested calls. -/
inductive Reaction (S : Type) where
  | done
  | change (newState : S) (onCallback : Reaction S) (onObserver : Nat → Reaction S) (next : Reaction S)

variable {S K O : Type}

/-- User code that always returns. -/
def returning (f : Traced S K O → Traced S K O) : Handler S K O := fun w => (true, f w)

def Reaction.perform [DecidableEq S] : Reaction S → Caller → Traced S K O → Traced S K O
  | .done, _, w => w
  | .change newState onCallback onObserver next, caller, w =>
    next.perform caller (w.changeToState caller (returning (onCallback.perform .callback))
      (fun i => returning ((onObserver i).perform (.observer i))) newState).2

section Change
variable [DecidableEq S] {newState : S} {onCallback next : Reaction S} {onObserver : Nat → Reaction S}
  {caller : Caller} {w : Traced S K O}

theorem Reaction.perform_change_of_valid
    (hv : w.machine.isValidTransition w.machine.currentState newState = true) :
    (Reaction.change newState onCallback onObserver next).perform caller w =
      next.perform caller (Traced.notifyStateChange (returning (onCallback.perform .callback))
        (fun i => returning ((onObserver i).perform (.observer i))) w.machine.currentState newState
        (w.setCurrentState caller newState)).2 := by
  rw [perform, Traced.changeToState_of_valid hv]

theorem Reaction.perform_change_of_not_valid
    (hv : ¬ w.machine.isValidTransition w.machine.currentState newState = true) :
    (Reaction.change newState onCallback onObserver next).perform caller w = next.perform caller w := by
  rw [perform, Traced.changeToState_of_not_valid hv]

end Change

/-- Observer `i` has already been notified of a change when one of these makes a change in reaction to it. -/
def Caller.fromOrBehind (i : Nat) : Caller → Prop
  | .outside => True
  | .callback => False
  | .observer j => i ≤ j

/-- All changes were made by such callers. -/
def Clean (i : Nat) (trace : List (Event S K O)) : Prop :=
  ∀ caller s t, .changed caller s t ∈ trace → caller.fromOrBehind i

theorem Clean.of_prefix {i : Nat} {t u : List (Event S K O)} (h : Clean i u) (hp : t <+: u) : Clean i t :=
  fun caller a b hmem => h caller a b (hp.subset hmem)

/-! ## Traces only grow -/

structure Grows (w w' : Traced S K O) : Prop where
  observers : w'.machine.observers = w.machine.observers
  trace : w.trace <+: w'.trace

theorem Grows.refl (w : Traced S K O) : Grows w w := ⟨rfl, List.prefix_rfl⟩

theorem Grows.trans {u v w : Traced S K O} (h : Grows u v) (h' : Grows v w) : Grows u w :=
  ⟨h'.observers.trans h.observers, h.trace.trans h'.trace⟩

/-- The observers stay registered. -/
theorem Grows.lt_observers {w w' : Traced S K O} (h : Grows w w') {i : Nat} (hi : i < w.machine.observers.length) :
    i < w'.machine.observers.length := by
  rw [h.observers]
  exact hi

theorem Grows.record (w : Traced S K O) (e : Event S K O) : Grows w (w.record e) := ⟨rfl, List.prefix_append _ _⟩

theorem Grows.setCurrentState (w : Traced S K O) (caller : Caller) (t : S) : Grows w (w.setCurrentState caller t) :=
  ⟨rfl, List.prefix_append _ _⟩

section Grows
variable {onCallback : Traced S K O → Traced S K O} {onObserver : Nat → Traced S K O → Traced S K O} {s t : S}

/-- One turn of the loop over the observers. -/
theorem notifyObservers_cons (o : O) (os : List O) (n : Nat) (w : Traced S K O) :
    Traced.notifyObservers (fun i => returning (onObserver i)) s t (o :: os) n w =
      Traced.notifyObservers (fun i => returning (onObserver i)) s t os (n + 1)
        (onObserver n (w.record (.notify n o s t))) := rfl

theorem grows_notifyObservers (hobserver : ∀ i w, Grows w (onObserver i w)) (os : List O) :
    ∀ (n : Nat) (w : Traced S K O),
      Grows w (Traced.notifyObservers (fun i => returning (onObserver i)) s t os n w).2 := by
  induction os with
  | nil => exact fun n w => Grows.refl w
  | cons o os ih =>
    intro n w
    rw [notifyObservers_cons]
    exact ((Grows.record w _).trans (hobserver n _)).trans (ih (n + 1) _)

theorem notifyStateChange_of_none {w : Traced S K O} (hk : w.machine.stateChangeCallbacks (s, t) = none) :
    Traced.notifyStateChange (returning onCallback) (fun i => returning (onObserver i)) s t w =
      Traced.notifyObservers (fun i => returning (onObserver i)) s t w.machine.observers 0 w := by
  unfold Traced.notifyStateChange
  rw [hk]
  rfl

theorem notifyStateChange_of_some {w : Traced S K O} {k : K}
    (hk : w.machine.stateChangeCallbacks (s, t) = some k) :
    let w' := onCallback (w.record (.callback k s t))
    Traced.notifyStateChange (returning onCallback) (fun i => returning (onObserver i)) s t w =
      Traced.notifyObservers (fun i => returning (onObserver i)) s t w'.machine.observers 0 w' := by
  unfold Traced.notifyStateChange
  rw [hk]
  rfl

theorem grows_notifyStateChange (hcallback : ∀ w, Grows w (onCallback w))
    (hobserver : ∀ i w, Grows w (onObserver i w)) (w : Traced S K O) :
    Grows w (Traced.notifyStateChange (returning onCallback) (fun i => returning (onObserver i)) s t w).2 := by
  cases hk : w.machine.stateChangeCallbacks (s, t) with
  | none =>
    rw [notifyStateChange_of_none hk]
    exact grows_notifyObservers hobserver _ 0 w
  | some k =>
    rw [notifyStateChange_of_some hk]
    exact ((Grows.record w _).trans (hcallback _)).trans (grows_notifyObservers hobserver _ 0 _)

theorem Reaction.grows_perform [DecidableEq S] (r : Reaction S) :
    ∀ (caller : Caller) (w : Traced S K O), Grows w (r.perform caller w) := by
  induction r with
  | done => exact fun caller w => Grows.refl w
  | change newState onCallback onObserver next ihc iho ihn =>
    intro caller w
    by_cases hv : w.machine.isValidTransition w.machine.currentState newState = true
    · rw [perform_change_of_valid hv]
      exact ((Grows.setCurrentState w caller newState).trans
        (grows_notifyStateChange (ihc .callback) (fun i => iho i (.observer i)) _)).trans (ihn caller _)
    · rw [perform_change_of_not_valid hv]
      exact ihn caller w

end Grows

/-! ## What observer `i` believes -/

/-- The pairs it was notified of lead from `s₀` to the current state. -/
def InSync (s₀ : S) (i : Nat) (w : Traced S K O) : Prop :=
  Trail (fun _ _ => True) s₀ (delivered i w.trace) w.machine.currentState

/-- What user code of the given caller does to observer `i`. -/
structure InOrder (s₀ : S) (i : Nat) (caller : Caller) (f : Traced S K O → Traced S K O) : Prop where
  grows : ∀ w, Grows w (f w)
  /-- it makes no change, or is one of those whose changes are heard in order -/
  idle : ¬ caller.fromOrBehind i → ∀ w, Clean i (f w).trace → f w = w
  sync : caller.fromOrBehind i → ∀ w, i < w.machine.observers.length → Clean i (f w).trace → InSync s₀ i w →
    InSync s₀ i (f w)

section Loop
variable {s₀ : S} {i : Nat} {onCallback : Traced S K O → Traced S K O}
  {onObserver : Nat → Traced S K O → Traced S K O} {s t : S}

theorem delivered_setCurrentState (w : Traced S K O) (caller : Caller) :
    delivered i (w.setCurrentState caller t).trace = delivered i w.trace := by
  unfold Traced.setCurrentState
  rw [delivered_record, delivered_changed, List.append_nil]

theorem delivered_record_of_ne {n : Nat} (hn : n ≠ i) (w : Traced S K O) (o : O) :
    delivered i (w.record (.notify n o s t)).trace = delivered i w.trace := by
  rw [delivered_record, delivered_notify, if_neg hn, List.append_nil]

/-- A notification of the change to `t` brings observer `i` in sync, if it had heard of everything before. -/
theorem inSync_record_of_eq {n : Nat} (hn : n = i) {w : Traced S K O} (o : O)
    (htrail : Trail (fun _ _ => True) s₀ (delivered i w.trace) s) (hstate : w.machine.currentState = t) :
    InSync s₀ i (w.record (.notify n o s t)) := by
  unfold InSync
  rw [delivered_record, delivered_notify, if_pos hn]
  show Trail _ s₀ _ w.machine.currentState
  rw [hstate]
  exact htrail.concat trivial

/-- Behind observer `i` the loop keeps it in sync. -/
theorem inSync_notifyObservers_behind (hobserver : ∀ j, InOrder s₀ i (.observer j) (onObserver j)) (os : List O) :
    ∀ (n : Nat) (w : Traced S K O), i < n → i < w.machine.observers.length →
      Clean i (Traced.notifyObservers (fun j => returning (onObserver j)) s t os n w).2.trace → InSync s₀ i w →
        InSync s₀ i (Traced.notifyObservers (fun j => returning (onObserver j)) s t os n w).2 := by
  induction os with
  | nil => exact fun n w _ _ _ h => h
  | cons o os ih =>
    intro n w hn hi hclean hsync
    rw [notifyObservers_cons] at hclean ⊢
    have hclean' := hclean.of_prefix (grows_notifyObservers (fun j => (hobserver j).grows) os (n + 1) _).trace
    have hheard : InSync s₀ i (w.record (.notify n o s t)) := by
      unfold InSync
      rw [delivered_record_of_ne (by omega)]
      exact hsync
    have hafter := (hobserver n).sync (Nat.le_of_lt hn) (w.record (.notify n o s t)) hi hclean' hheard
    have hi' := ((hobserver n).grows (w.record (.notify n o s t))).lt_observers hi
    exact ih (n + 1) _ (by omega) hi' hclean hafter

/-- Up to observer `i` nobody makes a change, and its own turn brings it in sync. -/
theorem inSync_notifyObservers (hobserver : ∀ j, InOrder s₀ i (.observer j) (onObserver j)) (os : List O) :
    ∀ (n : Nat) (w : Traced S K O), n ≤ i → i < n + os.length → i < w.machine.observers.length →
      Clean i (Traced.notifyObservers (fun j => returning (onObserver j)) s t os n w).2.trace →
      Trail (fun _ _ => True) s₀ (delivered i w.trace) s → w.machine.currentState = t →
        InSync s₀ i (Traced.notifyObservers (fun j => returning (onObserver j)) s t os n w).2 := by
  induction os with
  | nil =>
    intro n w hn hlt
    rw [List.length_nil] at hlt
    omega
  | cons o os ih =>
    intro n w hn hlt hi hclean htrail hstate
    rw [List.length_cons] at hlt
    rw [notifyObservers_cons] at hclean ⊢
    have hclean' := hclean.of_prefix (grows_notifyObservers (fun j => (hobserver j).grows) os (n + 1) _).trace
    by_cases hni : n = i
    · have hheard := inSync_record_of_eq hni o htrail hstate
      have hafter := (hobserver n).sync (Nat.le_of_eq hni.symm) (w.record (.notify n o s t)) hi hclean' hheard
      have hi' := ((hobserver n).grows (w.record (.notify n o s t))).lt_observers hi
      exact inSync_notifyObservers_behind hobserver os (n + 1) _ (by omega) hi' hclean hafter
    · have hidle := (hobserver n).idle (show ¬ i ≤ n by omega) _ hclean'
      rw [hidle] at hclean ⊢
      exact ih (n + 1) _ (by omega) (by omega) hi hclean (by rwa [delivered_record_of_ne hni]) hstate

theorem inSync_notifyStateChange (hcallback : InOrder s₀ i .callback onCallback)
    (hobserver : ∀ j, InOrder s₀ i (.observer j) (onObserver j)) {w : Traced S K O}
    (hi : i < w.machine.observers.length)
    (hclean : Clean i
      (Traced.notifyStateChange (returning onCallback) (fun j => returning (onObserver j)) s t w).2.trace)
    (htrail : Trail (fun _ _ => True) s₀ (delivered i w.trace) s) (hstate : w.machine.currentState = t) :
    InSync s₀ i (Traced.notifyStateChange (returning onCallback) (fun j => returning (onObserver j)) s t w).2 := by
  cases hk : w.machine.stateChangeCallbacks (s, t) with
  | none =>
    rw [notifyStateChange_of_none hk] at hclean ⊢
    exact inSync_notifyObservers hobserver _ 0 w (Nat.zero_le i) (by rwa [Nat.zero_add]) hi hclean htrail hstate
  | some k =>
    rw [notifyStateChange_of_some hk] at hclean ⊢
    -- the callback makes no change, because observer `i` has not heard of this one yet
    have hclean' := hclean.of_prefix (grows_notifyObservers (fun j => (hobserver j).grows) _ 0 _).trace
    have hidle := hcallback.idle not_false (w.record (.callback k s t)) hclean'
    rw [hidle] at hclean ⊢
    refine inSync_notifyObservers hobserver _ 0 _ (Nat.zero_le i) (by rwa [Nat.zero_add]) hi hclean ?_ hstate
    rw [delivered_record, delivered_callback, List.append_nil]
    exact htrail

end Loop

/-- **One reaction, and observer `i`.** By induction on the nested calls. -/
theorem inOrder_perform [DecidableEq S] (s₀ : S) (i : Nat) (r : Reaction S) :
    ∀ caller, InOrder s₀ i caller (r.perform caller : Traced S K O → Traced S K O) := by
  induction r with
  | done => exact fun caller => ⟨fun w => Grows.refl w, fun _ _ _ => rfl, fun _ _ _ _ h => h⟩
  | change newState onCallback onObserver next ihc iho ihn =>
    intro caller
    refine ⟨Reaction.grows_perform _ caller, ?_, ?_⟩
    · intro hcaller w hclean
      by_cases hv : w.machine.isValidTransition w.machine.currentState newState = true
      · -- the change is in the trace
        have hgrows := (grows_notifyStateChange (s := w.machine.currentState) (t := newState) (ihc .callback).grows
          (fun j => (iho j (.observer j)).grows) (w.setCurrentState caller newState)).trans ((ihn caller).grows _)
        rw [Reaction.perform_change_of_valid hv] at hclean
        have hmem : .changed caller w.machine.currentState newState ∈ (w.setCurrentState caller newState).trace :=
          List.mem_append_right _ List.mem_cons_self
        exact absurd (hclean _ _ _ (hgrows.trace.subset hmem)) hcaller
      · rw [Reaction.perform_change_of_not_valid hv] at hclean ⊢
        exact (ihn caller).idle hcaller w hclean
    · intro hcaller w hi hclean hsync
      by_cases hv : w.machine.isValidTransition w.machine.currentState newState = true
      · rw [Reaction.perform_change_of_valid hv] at hclean ⊢
        have hgrows := grows_notifyStateChange (s := w.machine.currentState) (t := newState) (ihc .callback).grows
          (fun j => (iho j (.observer j)).grows) (w.setCurrentState caller newState)
        refine (ihn caller).sync hcaller _ ?_ hclean ?_
        · exact hgrows.lt_observers hi
        · refine inSync_notifyStateChange (ihc .callback) (fun j => iho j (.observer j)) hi
            (hclean.of_prefix ((ihn caller).grows _).trace) ?_ rfl
          rw [delivered_setCurrentState]
          exact hsync
      · rw [Reaction.perform_change_of_not_valid hv] at hclean ⊢
        exact (ihn caller).sync hcaller w hi hclean hsync

/-- **What an observer hears in order.** Whatever the handlers do: when callbacks and the observers registered before
observer `i` make no change while they are being notified, the notifications delivered to observer `i` form a chain
from the initial state to the state at the end. -/
theorem heard_in_order [DecidableEq S] (m : StateMachine S K O) (r : Reaction S) (i : Nat)
    (hi : i < m.observers.length)
    (hclean : ∀ caller s t, .changed caller s t ∈ (r.perform .outside (⟨m, []⟩ : Traced S K O)).trace →
      caller.fromOrBehind i) :
    Trail (fun _ _ => True) m.currentState (delivered i (r.perform .outside (⟨m, []⟩ : Traced S K O)).trace)
      (r.perform .outside (⟨m, []⟩ : Traced S K O)).machine.currentState :=
  (inOrder_perform m.currentState i r .outside).sync trivial ⟨m, []⟩ hi hclean rfl

/-- A machine with all transitions between 0, 1 and 2, and two observers. -/
def triangle : StateMachine Nat Unit Unit :=
  { currentState := 0
    stateTransitions := fun _ => some [0, 1, 2]
    stateChangeCallbacks := fun _ => none
    observers := [(), ()] }

/-- On the way to 1 the observer at the place `j` of the list changes to 2. -/
def reactingObserver (j : Nat) : Reaction Nat :=
  .change 1 .done (fun k => if k = j then .change 2 .done (fun _ => .done) .done else .done) .done

/-- The last observer reacts: both hear of the two changes in order. -/
theorem heard_in_order_last_reacts :
    let w := (reactingObserver 1).perform .outside ⟨triangle, []⟩
    w.machine.currentState = 2 ∧ Trail (fun _ _ => True) 0 (delivered 0 w.trace) w.machine.currentState ∧
      Trail (fun _ _ => True) 0 (delivered 1 w.trace) w.machine.currentState := by
  intro w
  have htrace : w.trace = [.changed .outside 0 1, .notify 0 () 0 1, .notify 1 () 0 1, .changed (.observer 1) 1 2,
      .notify 0 () 1 2, .notify 1 () 1 2] := by decide
  have hclean : ∀ i ≤ 1, ∀ caller s t, .changed caller s t ∈ w.trace → caller.fromOrBehind i := by
    intro i hi caller s t h
    rw [htrace] at h
    simp only [List.mem_cons, List.not_mem_nil, Event.changed.injEq, reduceCtorEq, false_or, or_false] at h
    rcases h with ⟨rfl, -⟩ | ⟨rfl, -⟩
    · trivial
    · exact hi
  exact ⟨by decide, heard_in_order triangle (reactingObserver 1) 0 (by decide) (hclean 0 (by decide)),
    heard_in_order triangle (reactingObserver 1) 1 (by decide) (hclean 1 (by decide))⟩

/-- The first observer reacts: the second one hears of the second change before the first. -/
theorem heard_out_of_order :
    let w := (reactingObserver 0).perform .outside ⟨triangle, []⟩
    w.machine.currentState = 2 ∧ delivered 1 w.trace = [(1, 2), (0, 1)] ∧
      ¬ Trail (fun _ _ => True) 0 (delivered 1 w.trace) w.machine.currentState := by
  intro w
  have hpairs : delivered 1 w.trace = [(1, 2), (0, 1)] := by decide
  refine ⟨by decide, hpairs, fun h => ?_⟩
  rw [hpairs] at h
  obtain ⟨hstart, -⟩ := h
  cases hstart

end MultisensorStation.Patterns
