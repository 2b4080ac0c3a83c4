import Mathlib.Data.List.Forall2
import MultisensorStation.Base.Runs
import MultisensorStation.Logger.EventLogger

/-!
# Concurrent calls of `StatefulObjectLogged::setState`

Any number of threads that call `setState` on one object, one statement a step.

* `SetStateStmt`, `SharedObject` : the statements of a call, the object with its logger, and what the calls have
  assigned and logged so far;
* `waiting` : the threads that have assigned and not logged yet, in the order in which they did;
* `InTurn` : nothing is assigned while a thread is about to read the state back, and the threads log in the order in
  which they assigned;
* `Orderly` : what the steps in turn keep; `logged_in_order` : then the log shows the assigned values;
* `logged_twice` : two calls that do not, and a log without the first value.
-/

namespace MultisensorStation.Logger
open MultisensorStation.Base MultisensorStation.Patterns

/-- What a thread executes next in `setState(newState)`. -/
inductive SetStateStmt (S : Type) where
  | idle
  | assign (newState : S)
  | getStateAsString (newState : S)
  | logStateChange (state : Bytes)

structure SharedObject (S : Type) where
  object : StatefulObjectLogged S
  logger : EventLogger
  threads : Nat → SetStateStmt S
  /-- the assigned values, oldest first; nothing reads them -/
  assigned : List S
  /-- the strings that were logged, oldest first; nothing reads them -/
  logged : List Bytes

inductive SetStateLabel (S : Type) where
  /-- the call, with the comparison of the two states -/
  | call (i : Nat) (newState : S)
  | stmt (i : Nat)

namespace SharedObject

variable {S : Type}

def init (object : StatefulObjectLogged S) : SharedObject S := ⟨object, .fresh, fun _ => .idle, [], []⟩

def goto (s : SharedObject S) (i : Nat) (stmt : SetStateStmt S) : SharedObject S :=
  { s with threads := Function.update s.threads i stmt }

def assign (s : SharedObject S) (newState : S) : SharedObject S :=
  { s with object := { s.object with state := newState }, assigned := s.assigned ++ [newState] }

def logStateChange (s : SharedObject S) (state : Bytes) : SharedObject S :=
  { s with logger := s.logger.logStateChange s.object.id state, logged := s.logged ++ [state] }

def run (s : SharedObject S) (i : Nat) : SetStateStmt S → Option (SharedObject S)
  | .idle => none
  | .assign newState => some ((s.assign newState).goto i (.getStateAsString newState))
  | .getStateAsString _ => some (s.goto i (.logStateChange (s.object.getStateAsString s.object.state)))
  | .logStateChange state => some ((s.logStateChange state).goto i .idle)

variable [DecidableEq S]

def next (s : SharedObject S) : SetStateLabel S → Option (SharedObject S)
  | .call i newState =>
    match s.threads i with
    | .idle => some (if s.object.state ≠ newState then s.goto i (.assign newState) else s)
    | _ => none
  | .stmt i => s.run i (s.threads i)

end SharedObject

def sharedSystem {S : Type} [DecidableEq S] (object : StatefulObjectLogged S) :
    System (SharedObject S) (SetStateLabel S) :=
  ⟨SharedObject.init object, SharedObject.next⟩

/-- The threads that have assigned and not logged yet, in the order of their assignments. -/
def waiting {S : Type} (queue : List Nat) (s : SharedObject S) : SetStateLabel S → List Nat
  | .call _ _ => queue
  | .stmt i =>
    match s.threads i with
    | .assign _ => queue ++ [i]
    | .logStateChange _ => queue.erase i
    | _ => queue

/-- The runs of the calls with the threads that wait. -/
def queuedSystem {S : Type} [DecidableEq S] (object : StatefulObjectLogged S) :
    System (SharedObject S × List Nat) (SetStateLabel S) :=
  (sharedSystem object).withCost waiting []

/-- Nothing is assigned while a thread stands in front of its `getStateAsString()`, and nobody calls the logger while a
thread that assigned earlier has not logged yet. -/
def InTurn {S : Type} (s : SharedObject S × List Nat) : SetStateLabel S → Prop
  | .call _ _ => True
  | .stmt i =>
    match s.1.threads i with
    | .idle => True
    | .assign _ => ∀ j v, s.1.threads j ≠ .getStateAsString v
    | .getStateAsString _ => True
    | .logStateChange _ => s.2.head? = some i

/-! ## Invariant -/

/-- The thread has assigned the value, and will log its string. -/
def SetStateStmt.Carries {S : Type} (toString : S → Bytes) (v : S) : SetStateStmt S → Prop
  | .idle => False
  | .assign _ => False
  | .getStateAsString newState => newState = v
  | .logStateChange state => state = toString v

/-- The first values are logged in the order of their assignments, and each of the others is carried by its thread. -/
structure Orderly {S : Type} (object : StatefulObjectLogged S) (s : SharedObject S) (queue : List Nat) : Prop where
  id : s.object.id = object.id
  getStateAsString : s.object.getStateAsString = object.getStateAsString
  state : s.assigned.getLast?.getD object.state = s.object.state
  logged : s.logged = (s.assigned.take s.logged.length).map object.getStateAsString
  lines : s.logger.logs.Represents ((s.logged.map (EventLogger.line object.id)).foldl BoundedQueue.push (.empty _ _))
  own : ∀ i v, s.threads i = .getStateAsString v → s.object.state = v
  carried : List.Forall₂ (fun i v => (s.threads i).Carries object.getStateAsString v) queue
    (s.assigned.drop s.logged.length)
  nodup : queue.Nodup

section Steps
variable {S : Type} {object : StatefulObjectLogged S} {s s' : SharedObject S} {queue : List Nat} {i j : Nat}
  {stmt : SetStateStmt S}

@[simp] theorem SharedObject.threads_goto_self : (s.goto i stmt).threads i = stmt := Function.update_self ..

theorem SharedObject.threads_goto_other (h : j ≠ i) : (s.goto i stmt).threads j = s.threads j :=
  Function.update_of_ne h ..

/-- A thread goes where it reads nothing back: the others stand where they stood. -/
theorem SharedObject.threads_of_goto {v : S} (hstmt : ∀ v, stmt ≠ .getStateAsString v)
    (h : (s.goto i stmt).threads j = .getStateAsString v) : s.threads j = .getStateAsString v := by
  by_cases hji : j = i
  · rw [hji, SharedObject.threads_goto_self] at h
    exact absurd h (hstmt v)
  · rwa [SharedObject.threads_goto_other hji] at h

theorem orderly_init (object : StatefulObjectLogged S) : Orderly object (SharedObject.init object) [] where
  id := rfl
  getStateAsString := rfl
  state := rfl
  logged := rfl
  lines := CircularBuffer.represents_fresh
  own := by
    intro i v h
    cases h
  carried := .nil
  nodup := List.nodup_nil

namespace Orderly

theorem logged_le (h : Orderly object s queue) : s.logged.length ≤ s.assigned.length := by
  have hlen := congrArg List.length h.logged
  rw [List.length_map, List.length_take] at hlen
  omega

/-- A thread that carries nothing does not wait. -/
theorem not_mem (h : Orderly object s queue) (hi : ∀ v, ¬ (s.threads i).Carries object.getStateAsString v) :
    i ∉ queue := by
  intro hmem
  obtain ⟨k, hk, rfl⟩ := List.mem_iff_getElem.mp hmem
  exact hi _ (h.carried.get hk (h.carried.length_eq ▸ hk))

/-- Threads other than `i` carry what they carried. -/
theorem carries_goto {ms : List Nat} {vs : List S} {t : SharedObject S} (hi : i ∉ ms)
    (ht : t.threads = s.threads)
    (h : List.Forall₂ (fun i v => (s.threads i).Carries object.getStateAsString v) ms vs) :
    List.Forall₂ (fun j v => ((t.goto i stmt).threads j).Carries object.getStateAsString v) ms vs := by
  have hne : ∀ j ∈ ms, j ≠ i := by
    rintro j hj rfl
    exact hi hj
  refine ((List.forall₂_and_left _ _).mpr ⟨hne, h⟩).imp ?_
  rintro j v ⟨hj, hcarries⟩
  rwa [SharedObject.threads_goto_other hj, ht]

theorem call (h : Orderly object s queue) (hi : s.threads i = .idle) (newState : S) :
    Orderly object (s.goto i (.assign newState)) queue := by
  have hnot : i ∉ queue := h.not_mem (by simp [hi, SetStateStmt.Carries])
  refine ⟨h.id, h.getStateAsString, h.state, h.logged, h.lines, ?_, carries_goto hnot rfl h.carried, h.nodup⟩
  exact fun j v hj => h.own j v (SharedObject.threads_of_goto (by simp) hj)

/-- Nobody is about to read the state back, so the new value is found by the thread that assigns it. -/
theorem assign {newState : S} (h : Orderly object s queue) (hi : s.threads i = .assign newState)
    (hnobody : ∀ j v, s.threads j ≠ .getStateAsString v) :
    Orderly object ((s.assign newState).goto i (.getStateAsString newState)) (queue ++ [i]) := by
  have hnot : i ∉ queue := h.not_mem (by simp [hi, SetStateStmt.Carries])
  have hassigned : ((s.assign newState).goto i (.getStateAsString newState)).assigned = s.assigned ++ [newState] := rfl
  refine ⟨h.id, h.getStateAsString, ?_, ?_, h.lines, ?_, ?_, ?_⟩
  · rw [hassigned, List.getLast?_concat]
    rfl
  · rw [hassigned]
    show s.logged = ((s.assigned ++ [newState]).take s.logged.length).map _
    rw [List.take_append_of_le_length h.logged_le]
    exact h.logged
  · intro j v hj
    by_cases hji : j = i
    · rw [hji, SharedObject.threads_goto_self] at hj
      cases hj
      rfl
    · rw [SharedObject.threads_goto_other hji] at hj
      exact absurd hj (hnobody j v)
  · rw [hassigned]
    show List.Forall₂ _ (queue ++ [i]) ((s.assigned ++ [newState]).drop s.logged.length)
    rw [List.drop_append_of_le_length h.logged_le]
    refine List.rel_append (carries_goto hnot rfl h.carried) (.cons ?_ .nil)
    rw [SharedObject.threads_goto_self]
    rfl
  · exact List.nodup_append_comm.mp (List.nodup_cons.mpr ⟨hnot, h.nodup⟩)

/-- The thread reads the value back that it has assigned. -/
theorem readBack {newState : S} (h : Orderly object s queue) (hi : s.threads i = .getStateAsString newState) :
    Orderly object (s.goto i (.logStateChange (s.object.getStateAsString s.object.state))) queue := by
  refine ⟨h.id, h.getStateAsString, h.state, h.logged, h.lines, ?_, h.carried.imp ?_, h.nodup⟩
  · exact fun j v hj => h.own j v (SharedObject.threads_of_goto (by simp) hj)
  · intro j v hcarries
    by_cases hji : j = i
    · rw [hji, hi] at hcarries
      have hv : newState = v := hcarries
      rw [hji, SharedObject.threads_goto_self, h.getStateAsString, h.own i newState hi, hv]
      rfl
    · rwa [SharedObject.threads_goto_other hji]

/-- The first thread that waits logs the next value. -/
theorem logStateChange {state : Bytes} (h : Orderly object s queue) (hi : s.threads i = .logStateChange state)
    (hfirst : queue.head? = some i) :
    Orderly object ((s.logStateChange state).goto i .idle) (queue.erase i) := by
  obtain ⟨rest, rfl⟩ := List.head?_eq_some_iff.mp hfirst
  have hnodup := List.nodup_cons.mp h.nodup
  have hlogged : ((s.logStateChange state).goto i .idle).logged = s.logged ++ [state] := rfl
  cases hdrop : s.assigned.drop s.logged.length with
  | nil =>
    have hqueue := h.carried
    rw [hdrop] at hqueue
    cases hqueue
  | cons v vs =>
    have hqueue := h.carried
    rw [hdrop, List.forall₂_cons, hi] at hqueue
    obtain ⟨hstate, hrest⟩ := hqueue
    have hnext : s.assigned[s.logged.length]? = some v := by
      rw [← List.head?_drop, hdrop, List.head?_cons]
    rw [List.erase_cons_head]
    refine ⟨h.id, h.getStateAsString, h.state, ?_, ?_, ?_, ?_, hnodup.2⟩
    · rw [hlogged, List.length_append, List.length_singleton]
      show s.logged ++ [state] = (s.assigned.take (s.logged.length + 1)).map _
      rw [List.take_add_one, hnext, List.map_append, ← h.logged, show state = object.getStateAsString v from hstate]
      rfl
    · rw [hlogged, List.map_append, List.foldl_append]
      show (s.logger.logStateChange s.object.id state).logs.Represents _
      rw [EventLogger.logs_logStateChange, h.id]
      exact (h.lines.pushSlot (by decide) (by decide) _).2
    · exact fun j v' hj => h.own j v' (SharedObject.threads_of_goto (s := s.logStateChange state) (by simp) hj)
    · rw [hlogged, List.length_append, List.length_singleton]
      show List.Forall₂ _ rest (s.assigned.drop (s.logged.length + 1))
      rw [← List.drop_drop, hdrop, List.drop_one, List.tail_cons]
      exact carries_goto hnodup.1 rfl hrest

end Orderly

variable [DecidableEq S]

theorem SharedObject.step_call {newState : S} (h : s.next (.call i newState) = some s') :
    s.threads i = .idle ∧ s' = if s.object.state ≠ newState then s.goto i (.assign newState) else s := by
  have hcall : (match s.threads i with
    | .idle => some (if s.object.state ≠ newState then s.goto i (.assign newState) else s)
    | _ => none) = some s' := h
  split at hcall
  · next hidle => exact ⟨hidle, (Option.some.inj hcall).symm⟩
  · cases hcall

/-- The steps of one thread alone are a call of `setState`. -/
theorem SharedObject.steps_alone (h : s.threads i = .idle) (newState : S) :
    ∃ ls : List (SetStateLabel S), (ls.foldlM next s).map (fun s' => (s'.object, s'.logger)) =
      some (s.object.setState newState s.logger) := by
  by_cases hsame : s.object.state = newState
  · refine ⟨[.call i newState], ?_⟩
    simp [next, h, StatefulObjectLogged.setState, hsame]
  · refine ⟨[.call i newState, .stmt i, .stmt i, .stmt i], ?_⟩
    simp [next, run, goto, assign, logStateChange, h, StatefulObjectLogged.setState, hsame]

theorem Orderly.step {l : SetStateLabel S} (h : Orderly object s queue) (hl : InTurn (s, queue) l)
    (hs : s.next l = some s') : Orderly object s' (waiting queue s l) := by
  cases l with
  | call i newState =>
    obtain ⟨hidle, rfl⟩ := SharedObject.step_call hs
    split
    · exact h.call hidle newState
    · exact h
  | stmt i =>
    have hrun : s.run i (s.threads i) = some s' := hs
    unfold InTurn at hl
    unfold waiting
    cases hi : s.threads i with
    | idle =>
      rw [hi] at hrun
      cases hrun
    | assign newState =>
      rw [hi] at hrun
      obtain rfl := Option.some.inj hrun
      simp only [hi] at hl ⊢
      exact h.assign hi hl
    | getStateAsString newState =>
      rw [hi] at hrun
      obtain rfl := Option.some.inj hrun
      simp only [hi]
      exact h.readBack hi
    | logStateChange state =>
      rw [hi] at hrun
      obtain rfl := Option.some.inj hrun
      simp only [hi] at hl ⊢
      exact h.logStateChange hi hl

end Steps

variable {S : Type} [DecidableEq S]

/-- **When the log shows the assigned values.** Take any run of calls on a new object in which nothing is assigned while
a thread stands in front of its `getStateAsString()`, and nobody calls the logger while a thread that assigned earlier
has not logged yet. When all calls are finished and at most 30 lines were logged, these are the lines of the assigned
values in the order of the assignments, and the last of them shows the state of the object. -/
theorem logged_in_order (object : StatefulObjectLogged S) (ls : List (SetStateLabel S)) (s : SharedObject S)
    (h : (sharedSystem object).exec ls = some s) (hturn : (queuedSystem object).Meets InTurn ls)
    (hidle : ∀ i, s.threads i = .idle) (hlines : s.logged.length ≤ 30) :
    s.logged = s.assigned.map object.getStateAsString ∧
      s.logger.logs.Observed
        (s.assigned.map fun v => EventLogger.line object.id (object.getStateAsString v)) ∧
      ∀ line, (s.assigned.map fun v => EventLogger.line object.id (object.getStateAsString v)).getLast? = some line →
        line = EventLogger.line object.id (object.getStateAsString s.object.state) := by
  obtain ⟨queue, hqueue⟩ := (sharedSystem object).exists_exec_withCost waiting [] h
  have horder : Orderly object s queue := by
    refine (queuedSystem object).run_invariant_of_meets (I := fun _ s => Orderly object s.1 s.2)
      (orderly_init object) ?_ ls (s, queue) hqueue hturn
    intro _ t l t' ht hl hs
    obtain ⟨s', hs', rfl⟩ := Option.map_eq_some_iff.mp hs
    exact ht.step hl hs'
  -- nobody is between its assignment and its line
  have hall : s.assigned.length ≤ s.logged.length := by
    have hnobody := horder.carried
    cases queue with
    | nil => exact List.drop_eq_nil_iff.mp (List.forall₂_nil_left_iff.mp hnobody)
    | cons i queue =>
      obtain ⟨v, vs, hcarries, -, -⟩ := List.forall₂_cons_left_iff.mp hnobody
      rw [hidle i] at hcarries
      exact hcarries.elim
  have hlogged := horder.logged
  rw [List.take_of_length_le hall] at hlogged
  refine ⟨hlogged, ?_, ?_⟩
  · have hobs := horder.lines.observed (by decide) (by decide)
    rw [BoundedQueue.items_foldl_push, BoundedQueue.rtake_of_length_le (by rwa [List.length_map]), hlogged,
      List.map_map] at hobs
    exact hobs
  · intro line hline
    have hstate := horder.state
    rw [List.getLast?_map, Option.map_eq_some_iff] at hline
    obtain ⟨v, hv, rfl⟩ := hline
    rw [← hstate, hv]
    rfl

/-- Two calls that overlap and stay in turn: the second one assigns before the first one logs. -/
theorem logged_in_order_overlapping :
    let object : StatefulObjectLogged Nat := ⟨ascii "w", 0, fun n => [UInt8.ofNat (48 + n)]⟩
    let ls : List (SetStateLabel Nat) := [.call 0 1, .call 1 2, .stmt 0, .stmt 0, .stmt 1, .stmt 0, .stmt 1, .stmt 1]
    ∃ s, (sharedSystem object).exec ls = some s ∧ s.logged = [ascii "1", ascii "2"] ∧
      s.logger.logs.Observed [EventLogger.line (ascii "w") (ascii "1"), EventLogger.line (ascii "w") (ascii "2")] := by
  intro object ls
  obtain ⟨s, hs, hidle, hassigned, hlogged⟩ : ∃ s, (sharedSystem object).exec ls = some s ∧
      (∀ i, s.threads i = .idle) ∧ s.assigned = [1, 2] ∧ s.logged = [ascii "1", ascii "2"] := by
    refine ⟨_, rfl, ?_, rfl, rfl⟩
    intro i
    match i with
    | 0 => rfl
    | 1 => rfl
    | i + 2 => rfl
  have hturn : (queuedSystem object).Meets InTurn ls := by
    refine (queuedSystem object).meets_of_forall_take (fun k hk t ht l hl => ?_)
    match k with
    | 0 | 1 | 3 | 5 | 6 | 7 =>
      cases ht
      cases hl
      trivial
    -- the assignments, before which nobody is about to read the state back
    | 2 | 4 =>
      cases ht
      cases hl
      intro j v
      match j with
      | 0 | 1 => exact fun heq => nomatch heq
      | j + 2 => exact fun heq => nomatch heq
    | k + 8 => exact absurd hk (by simp [ls])
  have hlog := (logged_in_order object ls s hs hturn hidle (by rw [hlogged]; decide)).2.1
  rw [hassigned] at hlog
  exact ⟨s, hs, hlogged, hlog⟩

/-- Two calls, both assigned before either reads the state back: the first value is nowhere in the log. -/
theorem logged_twice :
    let object : StatefulObjectLogged Nat := ⟨ascii "w", 0, fun n => [UInt8.ofNat (48 + n)]⟩
    let ls : List (SetStateLabel Nat) := [.call 0 1, .call 1 2, .stmt 0, .stmt 1, .stmt 0, .stmt 0, .stmt 1, .stmt 1]
    ∃ s, (sharedSystem object).exec ls = some s ∧ (∀ i, s.threads i = .idle) ∧ s.assigned = [1, 2] ∧
      s.logged = [ascii "2", ascii "2"] ∧ s.logged ≠ s.assigned.map object.getStateAsString ∧
      s.logger.logs.atIndex 0 = some (EventLogger.line (ascii "w") (ascii "2")) ∧
      s.logger.logs.atIndex 1 = some (EventLogger.line (ascii "w") (ascii "2")) := by
  intro object ls
  refine ⟨_, rfl, ?_, rfl, rfl, by decide, by decide, by decide⟩
  intro i
  match i with
  | 0 => rfl
  | 1 => rfl
  | i + 2 => rfl

end MultisensorStation.Logger
