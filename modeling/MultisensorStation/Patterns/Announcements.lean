import MultisensorStation.Patterns.StateMachine

/-!
# What a `StateMachine` announces

Runs of registrations and changes whose handlers return normally and leave the machine alone.

* `changeToState_quiet` : such a change, and the events it adds, `announcements`;
* `Registered` : the tables and the list of observers say what was registered; `registered_run`;
* `delivered_trail` : what one registration was notified of leads from the state at that time to the current one;
* `follows_graph` : all of this for every run.
-/

namespace MultisensorStation.Patterns
open MultisensorStation.Base

inductive MachineCall (S K O : Type) where
  | registerStateTransition (fromState toState : S) (callback : K)
  | registerObserver (observer : O)
  | changeToState (newState : S)
  deriving DecidableEq

/-- Returns normally and does not touch the machine. -/
def quiet {S K O : Type} : Handler S K O := fun w => (true, w)

section Registrations
variable {S K O : Type} [DecidableEq S]

/-- The callback, if the call registers one for this transition. -/
def MachineCall.callbackFor (s t : S) : MachineCall S K O → Option K
  | .registerStateTransition a b k => if (a, b) = (s, t) then some k else none
  | _ => none

omit [DecidableEq S] in
def MachineCall.observer : MachineCall S K O → Option O
  | .registerObserver o => some o
  | _ => none

/-- `registerStateTransition(s, t, _)` is among the calls. -/
def Edge (calls : List (MachineCall S K O)) (s t : S) : Prop := ∃ k, .registerStateTransition s t k ∈ calls

def lastCallback (s t : S) (calls : List (MachineCall S K O)) : Option K :=
  (calls.filterMap (MachineCall.callbackFor s t)).getLast?

def registeredObservers (calls : List (MachineCall S K O)) : List O := calls.filterMap MachineCall.observer

end Registrations

namespace Traced

variable {S K O : Type}

/-- What a change tells the callback of its transition, and after it the observers. -/
def announcements (m : StateMachine S K O) (oldState newState : S) : List (Event S K O) :=
  (m.stateChangeCallbacks (oldState, newState)).toList.map (fun k => .callback k oldState newState) ++
    m.observers.zipIdx.map (fun p => .notify p.2 p.1 oldState newState)

theorem notifyObservers_quiet (oldState newState : S) (os : List O) :
    ∀ (i : Nat) (w : Traced S K O), notifyObservers (fun _ => quiet) oldState newState os i w =
      (true, { w with trace := w.trace ++ (os.zipIdx i).map (fun p => .notify p.2 p.1 oldState newState) }) := by
  induction os with
  | nil =>
    intro i w
    show (true, w) = (true, { w with trace := w.trace ++ [] })
    rw [List.append_nil]
  | cons o os ih =>
    intro i w
    show notifyObservers (fun _ => quiet) oldState newState os (i + 1) (w.record (.notify i o oldState newState)) = _
    rw [ih, List.zipIdx_cons, List.map_cons, List.append_cons]
    rfl

theorem notifyStateChange_quiet (oldState newState : S) (w : Traced S K O) :
    notifyStateChange quiet (fun _ => quiet) oldState newState w =
      (true, { w with trace := w.trace ++ announcements w.machine oldState newState }) := by
  unfold notifyStateChange announcements
  cases w.machine.stateChangeCallbacks (oldState, newState) with
  | none =>
    show notifyObservers _ _ _ _ _ _ = _
    rw [notifyObservers_quiet]
    rfl
  | some k =>
    show notifyObservers _ _ _ _ _ _ = _
    rw [notifyObservers_quiet]
    show (true, _) = (true, _)
    simp [record]

variable [DecidableEq S]

/-- A valid change is announced. -/
theorem changeToState_quiet {newState : S} {w : Traced S K O}
    (hv : w.machine.isValidTransition w.machine.currentState newState = true) :
    w.changeToState .outside quiet (fun _ => quiet) newState =
      (some true, ⟨{ w.machine with currentState := newState },
        w.trace ++ .changed .outside w.machine.currentState newState ::
          announcements w.machine w.machine.currentState newState⟩) := by
  rw [changeToState_of_valid hv, notifyStateChange_quiet, List.append_cons]
  rfl

def call (w : Traced S K O) : MachineCall S K O → Traced S K O
  | .registerStateTransition a b k => { w with machine := w.machine.registerStateTransition a b k }
  | .registerObserver o => { w with machine := w.machine.registerObserver o }
  | .changeToState t => (w.changeToState .outside quiet (fun _ => quiet) t).2

theorem call_of_valid {t : S} {w : Traced S K O}
    (hv : w.machine.isValidTransition w.machine.currentState t = true) :
    w.call (.changeToState t) = ⟨{ w.machine with currentState := t },
      w.trace ++ .changed .outside w.machine.currentState t :: announcements w.machine w.machine.currentState t⟩ := by
  show (w.changeToState _ _ _ _).2 = _
  rw [changeToState_quiet hv]

theorem call_of_not_valid {t : S} {w : Traced S K O}
    (hv : ¬ w.machine.isValidTransition w.machine.currentState t = true) : w.call (.changeToState t) = w := by
  show (w.changeToState _ _ _ _).2 = _
  rw [changeToState_of_not_valid hv]

/-- The machine after the calls, started in `s₀`. -/
def run (s₀ : S) (calls : List (MachineCall S K O)) : Traced S K O := calls.foldl call ⟨.start s₀, []⟩

theorem run_concat (s₀ : S) (calls : List (MachineCall S K O)) (c : MachineCall S K O) :
    run s₀ (calls ++ [c]) = (run s₀ calls).call c := by
  unfold run
  rw [List.foldl_append, List.foldl_cons, List.foldl_nil]

end Traced

/-! ## The tables -/

section Tables
variable {S K O : Type} [DecidableEq S]

structure Registered (calls : List (MachineCall S K O)) (m : StateMachine S K O) : Prop where
  valid_iff : ∀ s t, m.isValidTransition s t = true ↔ Edge calls s t
  callback_eq : ∀ s t, m.stateChangeCallbacks (s, t) = lastCallback s t calls
  observers_eq : m.observers = registeredObservers calls

omit [DecidableEq S] in
theorem registeredObservers_append (calls more : List (MachineCall S K O)) :
    registeredObservers (calls ++ more) = registeredObservers calls ++ registeredObservers more := by
  unfold registeredObservers
  exact List.filterMap_append

theorem exists_lastCallback {calls : List (MachineCall S K O)} {s t : S} (h : Edge calls s t) :
    ∃ k, lastCallback s t calls = some k := by
  obtain ⟨k, hk⟩ := h
  have hmem : k ∈ calls.filterMap (MachineCall.callbackFor s t) :=
    List.mem_filterMap.mpr ⟨_, hk, if_pos rfl⟩
  unfold lastCallback
  exact ⟨_, List.getLast?_eq_some_getLast (List.ne_nil_of_mem hmem)⟩

theorem StateMachine.isValidTransition_iff {m : StateMachine S K O} {s t : S} :
    m.isValidTransition s t = true ↔ t ∈ (m.stateTransitions s).getD [] := by
  unfold isValidTransition
  cases m.stateTransitions s with
  | none => simp
  | some targets => simp

theorem StateMachine.isValidTransition_register {m : StateMachine S K O} {a b s t : S} {k : K} :
    (m.registerStateTransition a b k).isValidTransition s t = true ↔
      m.isValidTransition s t = true ∨ (s = a ∧ t = b) := by
  rw [isValidTransition_iff, isValidTransition_iff]
  unfold registerStateTransition
  by_cases hs : s = a
  · subst hs
    simp
  · simp [hs]

omit [DecidableEq S] in
theorem edge_concat {calls : List (MachineCall S K O)} {c : MachineCall S K O} {s t : S} :
    Edge (calls ++ [c]) s t ↔ Edge calls s t ∨ ∃ k, c = .registerStateTransition s t k := by
  unfold Edge
  constructor
  · rintro ⟨k, hk⟩
    rcases List.mem_append.mp hk with h | h
    · exact Or.inl ⟨k, h⟩
    · exact Or.inr ⟨k, (List.mem_singleton.mp h).symm⟩
  · rintro (⟨k, hk⟩ | ⟨k, rfl⟩)
    · exact ⟨k, List.mem_append_left _ hk⟩
    · exact ⟨k, List.mem_append_right _ List.mem_cons_self⟩

theorem lastCallback_concat {calls : List (MachineCall S K O)} {c : MachineCall S K O} {s t : S} :
    lastCallback s t (calls ++ [c]) = (c.callbackFor s t).or (lastCallback s t calls) := by
  unfold lastCallback
  rw [List.filterMap_append]
  cases hc : c.callbackFor s t with
  | none => simp [hc]
  | some k => simp [hc]

/-- Apart from the state, a change keeps the machine. -/
theorem Traced.machine_changeToState (w : Traced S K O) (t : S) :
    (w.call (.changeToState t)).machine =
      { w.machine with currentState := (w.call (.changeToState t)).machine.currentState } := by
  by_cases hv : w.machine.isValidTransition w.machine.currentState t = true
  · rw [call_of_valid hv]
  · rw [call_of_not_valid hv]

theorem Registered.call {calls : List (MachineCall S K O)} {w : Traced S K O} (h : Registered calls w.machine)
    (c : MachineCall S K O) : Registered (calls ++ [c]) (w.call c).machine := by
  cases c with
  | registerStateTransition a b k =>
    refine ⟨fun s t => ?_, fun s t => ?_, ?_⟩
    · show (w.machine.registerStateTransition a b k).isValidTransition s t = true ↔ _
      rw [StateMachine.isValidTransition_register, h.valid_iff, edge_concat]
      apply or_congr_right
      constructor
      · rintro ⟨rfl, rfl⟩
        exact ⟨k, rfl⟩
      · rintro ⟨k', hk'⟩
        cases hk'
        exact ⟨rfl, rfl⟩
    · show Function.update w.machine.stateChangeCallbacks (a, b) (some k) (s, t) = _
      rw [lastCallback_concat, MachineCall.callbackFor]
      by_cases hab : (a, b) = (s, t)
      · rw [if_pos hab, ← hab, Function.update_self]
        rfl
      · rw [if_neg hab, Function.update_of_ne (Ne.symm hab), h.callback_eq]
        rfl
    · show w.machine.observers = _
      rw [registeredObservers_append, h.observers_eq]
      exact (List.append_nil _).symm
  | registerObserver o =>
    refine ⟨fun s t => ?_, fun s t => ?_, ?_⟩
    · rw [edge_concat, ← h.valid_iff]
      simp [Traced.call, StateMachine.registerObserver, StateMachine.isValidTransition]
    · rw [lastCallback_concat, ← h.callback_eq]
      rfl
    · show w.machine.observers ++ [o] = _
      rw [registeredObservers_append, h.observers_eq]
      rfl
  | changeToState newState =>
    rw [Traced.machine_changeToState]
    refine ⟨fun s t => ?_, fun s t => ?_, ?_⟩
    · rw [edge_concat, ← h.valid_iff]
      simp [StateMachine.isValidTransition]
    · rw [lastCallback_concat, ← h.callback_eq]
      rfl
    · show w.machine.observers = _
      rw [registeredObservers_append, h.observers_eq]
      exact (List.append_nil _).symm

theorem registered_run (s₀ : S) (calls : List (MachineCall S K O)) :
    Registered calls (Traced.run s₀ calls : Traced S K O).machine := by
  induction calls using List.reverseRecOn with
  | nil =>
    refine ⟨fun s t => ?_, fun _ _ => rfl, rfl⟩
    simp [Traced.run, StateMachine.start, StateMachine.isValidTransition, Edge]
  | append_singleton calls c ih => exact Traced.run_concat s₀ calls c ▸ ih.call c

end Tables

/-! ## The way an observer sees -/

section Trails
variable {S K O : Type}

theorem delivered_zipIdx (i : Nat) (s t : S) (os : List O) :
    ∀ n : Nat, delivered i ((os.zipIdx n).map (fun p => (.notify p.2 p.1 s t : Event S K O))) =
      if n ≤ i ∧ i < n + os.length then [(s, t)] else [] := by
  induction os with
  | nil =>
    intro n
    rw [if_neg (by simp)]
    rfl
  | cons o os ih =>
    intro n
    rw [List.zipIdx_cons, List.map_cons, ← List.singleton_append, delivered_append, delivered_notify, ih,
      List.length_cons]
    by_cases hni : n = i
    · rw [if_pos hni, if_neg (by omega), if_pos (by omega), List.append_nil]
    · rw [if_neg hni, List.nil_append]
      congr 1
      simp only [eq_iff_iff]
      omega

theorem delivered_announcements (i : Nat) (m : StateMachine S K O) (s t : S) :
    delivered i (Traced.announcements m s t) = if i < m.observers.length then [(s, t)] else [] := by
  have hcallback : delivered i ((m.stateChangeCallbacks (s, t)).toList.map
      (fun k => (.callback k s t : Event S K O))) = [] := by
    cases m.stateChangeCallbacks (s, t) <;> rfl
  unfold Traced.announcements
  rw [delivered_append, hcallback, delivered_zipIdx, List.nil_append]
  simp

variable [DecidableEq S]

theorem Traced.delivered_call_changeToState {w : Traced S K O} {t : S} (i : Nat)
    (hv : w.machine.isValidTransition w.machine.currentState t = true) :
    delivered i (w.call (.changeToState t)).trace = delivered i w.trace ++
      if i < w.machine.observers.length then [(w.machine.currentState, t)] else [] := by
  rw [call_of_valid hv, List.append_cons, delivered_append, delivered_append, delivered_changed, List.append_nil,
    delivered_announcements]

/-- A place in the list that is not taken yet has heard nothing. -/
theorem delivered_eq_nil (s₀ : S) (calls : List (MachineCall S K O)) (i : Nat)
    (hi : (registeredObservers calls).length ≤ i) : delivered i (Traced.run s₀ calls : Traced S K O).trace = [] := by
  induction calls using List.reverseRecOn with
  | nil => rfl
  | append_singleton calls c ih =>
    have hle : (registeredObservers calls).length ≤ i := by
      rw [registeredObservers_append, List.length_append] at hi
      omega
    rw [Traced.run_concat]
    cases c with
    | registerStateTransition a b k => exact ih hle
    | registerObserver o => exact ih hle
    | changeToState t =>
      by_cases hv : (Traced.run s₀ calls : Traced S K O).machine.isValidTransition
          (Traced.run s₀ calls : Traced S K O).machine.currentState t = true
      · rw [Traced.delivered_call_changeToState i hv, ih hle, (registered_run s₀ calls).observers_eq,
          if_neg (by omega), List.append_nil]
      · rw [Traced.call_of_not_valid hv]
        exact ih hle

/-- What one registration was notified of leads from the state at that time to the current one. -/
theorem delivered_trail (s₀ : S) (before : List (MachineCall S K O)) (o : O) (after : List (MachineCall S K O)) :
    let w := Traced.run s₀ (before ++ .registerObserver o :: after)
    Trail (Edge (before ++ .registerObserver o :: after)) (Traced.run s₀ before).machine.currentState
      (delivered (registeredObservers before).length w.trace) w.machine.currentState := by
  induction after using List.reverseRecOn with
  | nil =>
    dsimp only
    rw [Traced.run_concat]
    show Trail _ _ (delivered _ (Traced.run s₀ before : Traced S K O).trace) _
    rw [delivered_eq_nil s₀ before _ (Nat.le_refl _)]
    rfl
  | append_singleton after c ih =>
    dsimp only at ih ⊢
    have hcalls : before ++ .registerObserver o :: (after ++ [c]) =
        before ++ .registerObserver o :: after ++ [c] := by
      rw [List.append_assoc, List.cons_append]
    rw [hcalls, Traced.run_concat]
    generalize hw : Traced.run s₀ (before ++ .registerObserver o :: after) = w at ih ⊢
    have hreg : Registered (before ++ .registerObserver o :: after) w.machine := hw ▸ registered_run s₀ _
    have hold := ih.mono (Q := Edge (before ++ .registerObserver o :: after ++ [c]))
      (fun x y h => edge_concat.mpr (Or.inl h))
    cases c with
    | registerStateTransition a b k => exact hold
    | registerObserver p => exact hold
    | changeToState t =>
      by_cases hv : w.machine.isValidTransition w.machine.currentState t = true
      · have hlt : (registeredObservers before).length < w.machine.observers.length := by
          rw [hreg.observers_eq, registeredObservers_append, List.length_append]
          show _ < _ + (o :: registeredObservers after).length
          rw [List.length_cons]
          omega
        rw [Traced.delivered_call_changeToState _ hv, if_pos hlt, Traced.call_of_valid hv]
        exact hold.concat (edge_concat.mpr (Or.inl ((hreg.valid_iff _ _).mp hv)))
      · rw [Traced.call_of_not_valid hv]
        exact hold

/-- **The machine follows its registered graph and announces every change.** After any calls `pre`, `changeToState`
answers whether the transition was registered; a change calls the last callback registered for it and then every
registered observer; a refused one does nothing; and each registration of an observer has heard of a path from the
state at that time to the current one. -/
theorem follows_graph (s₀ : S) (pre : List (MachineCall S K O)) (t : S) :
    let w := Traced.run s₀ pre
    let s := w.machine.currentState
    let r := w.changeToState .outside quiet (fun _ => quiet) t
    (r.1 = some true ↔ ∃ k, .registerStateTransition s t k ∈ pre) ∧
      (r.1 = some true → ∃ k, lastCallback s t pre = some k ∧
        r.2 = ⟨{ w.machine with currentState := t }, w.trace ++ .changed .outside s t :: .callback k s t ::
          (registeredObservers pre).zipIdx.map (fun p => .notify p.2 p.1 s t)⟩) ∧
      (r.1 ≠ some true → r = (some false, w)) ∧
      ∀ before o after, pre = before ++ .registerObserver o :: after →
        Trail (fun a b => ∃ k, .registerStateTransition a b k ∈ pre) (Traced.run s₀ before).machine.currentState
          (delivered (registeredObservers before).length w.trace) s := by
  intro w s r
  have hreg : Registered pre w.machine := registered_run s₀ pre
  have htrail : ∀ before o after, pre = before ++ .registerObserver o :: after →
      Trail (fun a b => ∃ k, .registerStateTransition a b k ∈ pre) (Traced.run s₀ before).machine.currentState
        (delivered (registeredObservers before).length w.trace) s := by
    rintro before o after rfl
    exact delivered_trail s₀ before o after
  by_cases hv : w.machine.isValidTransition s t = true
  · have hr : r = (some true, _) := Traced.changeToState_quiet hv
    have hedge := (hreg.valid_iff s t).mp hv
    obtain ⟨k, hk⟩ := exists_lastCallback hedge
    refine ⟨⟨fun _ => hedge, fun _ => by rw [hr]⟩, fun _ => ⟨k, hk, ?_⟩, fun h => absurd (by rw [hr]) h, htrail⟩
    rw [hr, Traced.announcements, hreg.callback_eq, hk, hreg.observers_eq]
    rfl
  · have hr : r = (some false, w) := Traced.changeToState_of_not_valid hv
    refine ⟨⟨fun h => ?_, fun h => absurd ((hreg.valid_iff s t).mpr h) hv⟩, fun h => ?_, fun _ => hr, htrail⟩
    · rw [hr] at h
      cases h
    · rw [hr] at h
      cases h

/-- A second callback for the same transition replaces the first; the observer registered last has heard of the second
change only. -/
theorem follows_graph_two_changes :
    let pre : List (MachineCall Nat Nat Nat) := [.registerStateTransition 0 1 10, .registerObserver 20,
      .changeToState 1, .registerStateTransition 1 0 11, .registerStateTransition 1 0 12, .registerObserver 21,
      .changeToState 2]
    let w := Traced.run 0 pre
    (w.changeToState .outside quiet (fun _ => quiet) 0).1 = some true ∧
      (w.changeToState .outside quiet (fun _ => quiet) 0).2.trace = w.trace ++
        [.changed .outside 1 0, .callback 12 1 0, .notify 0 20 1 0, .notify 1 21 1 0] := by
  intro pre w
  obtain ⟨hiff, hchange, -, -⟩ := follows_graph 0 pre 0
  have htrue := hiff.mpr ⟨11, by decide⟩
  obtain ⟨k, hk, htrace⟩ := hchange htrue
  cases hk
  exact ⟨htrue, congrArg Traced.trace htrace⟩

/-- An observer that is registered twice hears of each change twice, which is no path. -/
theorem registered_twice_no_path :
    let calls : List (MachineCall Nat Unit Unit) := [.registerStateTransition 0 1 (), .registerObserver (),
      .registerObserver (), .changeToState 1]
    received () (Traced.run 0 calls).trace = [(0, 1), (0, 1)] ∧
      ∀ a b, ¬ Trail (fun _ _ => True) a (received () (Traced.run 0 calls).trace) b := by
  intro calls
  have hpairs : received () (Traced.run 0 calls).trace = [(0, 1), (0, 1)] := by decide
  refine ⟨hpairs, fun a b h => ?_⟩
  rw [hpairs] at h
  obtain ⟨-, -, hstart, -⟩ := h
  cases hstart

end Trails

end MultisensorStation.Patterns
