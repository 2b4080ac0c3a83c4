import MultisensorStation.Patterns.BufferRuns

/-!
# Pushes whose assignment throws

The assignment of an item to a slot is a copy or a move of a `T`, which may throw. `push` catches nothing, so the
exception leaves it between the updates of `tail_`, `size_`, the slot and `head_`.

* `Assignment` : how the assignment ends; `tryPushSlot`, `TryCall`, `tryCall` : the calls with it;
* `SameAs` : what no observer and no later call tells apart; buffers that represent one queue are (`Represents.sameAs`);
* `tryQueueStep` : what a call does to the queue, a failing push into a full buffer gives up the oldest item;
* `failing_push` : what a failing push loses, after every run.
-/

namespace MultisensorStation.Patterns
open MultisensorStation.Base

universe u

/-- How the assignment of the item to the slot ends. -/
inductive Assignment (T : Type u) where
  | stores
  /-- exits by an exception and leaves `left` in the slot -/
  | throws (left : Option T)
  deriving DecidableEq

/-- A call of a mutating member, with the end of the assignment in it. -/
inductive TryCall (T : Type u) where
  | pushCopy (item : T) (assignment : Assignment T)
  | pushMove (item : T) (assignment : Assignment T)
  | pop
  deriving DecidableEq

namespace CircularBuffer

variable {T : Type u} {w BufferSize : Nat}

/-- The body both overloads of `push` share; no answer when it exits by the exception. -/
def tryPushSlot (b : CircularBuffer T w BufferSize) (v : Option T) (assignment : Assignment T) :
    Option Bool × CircularBuffer T w BufferSize :=
  let next_head := next BufferSize b.head_
  let b := if b.isMax then b.dropOldest else b
  match assignment with
  | .throws left => (none, b.setSlot b.head_ left)
  | .stores =>
    let b := b.setSlot b.head_ v
    (some true, { b with head_ := next_head, size_ := b.size_ + 1 })

/-- `push(const T&)`. -/
def tryPush (b : CircularBuffer T w BufferSize) (item : T) (assignment : Assignment T) :
    Option Bool × CircularBuffer T w BufferSize :=
  b.tryPushSlot (some item) assignment

/-- `push(T&&)`. -/
def tryPushMove (b : CircularBuffer T w BufferSize) (item : T) (assignment : Assignment T) :
    Option Bool × CircularBuffer T w BufferSize :=
  b.tryPushSlot (some item) assignment

/-- A call and its answer. -/
def tryCall (movedFrom : T → T) (b : CircularBuffer T w BufferSize) :
    TryCall T → Option (QueueAnswer T) × CircularBuffer T w BufferSize
  | .pushCopy item assignment => ((b.tryPush item assignment).1.map .pushed, (b.tryPush item assignment).2)
  | .pushMove item assignment => ((b.tryPushMove item assignment).1.map .pushed, (b.tryPushMove item assignment).2)
  | .pop => (some (.popped (b.pop movedFrom).1), (b.pop movedFrom).2)

/-- An assignment that stores the item makes it the push of `CircularBuffer`. -/
theorem tryPushSlot_stores (b : CircularBuffer T w BufferSize) (v : Option T) :
    b.tryPushSlot v .stores = (some (b.pushSlot v).1, (b.pushSlot v).2) := rfl

/-- No observer and no later sequence of calls tells the two buffers apart. -/
structure SameAs (b c : CircularBuffer T w BufferSize) : Prop where
  size_eq : b.size = c.size
  isEmpty_eq : b.isEmpty = c.isEmpty
  isMax_eq : b.isMax = c.isMax
  atIndex_eq : ∀ i : BitVec w, i.toNat < c.size.toNat → b.atIndex i = c.atIndex i
  later : ∀ movedFrom calls, (respond (tryCall movedFrom) b calls).1 = (respond (tryCall movedFrom) c calls).1

/-! ## What a call does to the queue -/

/-- A push that fails in a full queue has given up the oldest item. -/
def tryQueuePush (q : BoundedQueue T BufferSize) (item : T) :
    Assignment T → Option (QueueAnswer T) × BoundedQueue T BufferSize
  | .stores => (some (.pushed true), q.push item)
  | .throws _ => (none, if q.items.length = BufferSize then q.pop.2 else q)

def tryQueueStep (q : BoundedQueue T BufferSize) : TryCall T → Option (QueueAnswer T) × BoundedQueue T BufferSize
  | .pushCopy item assignment => tryQueuePush q item assignment
  | .pushMove item assignment => tryQueuePush q item assignment
  | .pop => (some (.popped q.pop.1), q.pop.2)

namespace Represents

variable {b c : CircularBuffer T w BufferSize} {q : BoundedQueue T BufferSize}

/-- The slot at `head_` is not in the window. -/
theorem setSlot_head (h : b.Represents q) (v : Option T) : (b.setSlot b.head_ v).Represents q where
  tail_lt := h.tail_lt
  head_eq := h.head_eq
  size_eq := h.size_eq
  cells := by
    rw [slot_setSlot b h.head_lt, h.head_eq]
    exact h.cells.update_outside (Nat.lt_succ_of_le q.length_le) (Nat.le_refl _) v

theorem tryPushSlot (h : b.Represents q) (hN : 1 ≤ BufferSize) (hw : BufferSize + 1 < 2 ^ w) (item : T)
    (assignment : Assignment T) :
    (b.tryPushSlot (some item) assignment).1.map QueueAnswer.pushed = (tryQueuePush q item assignment).1 ∧
      (b.tryPushSlot (some item) assignment).2.Represents (tryQueuePush q item assignment).2 := by
  cases assignment with
  | stores =>
    obtain ⟨htrue, hpush⟩ := h.pushSlot hN hw item
    rw [tryPushSlot_stores, htrue]
    exact ⟨rfl, hpush⟩
  | throws left =>
    refine ⟨rfl, ?_⟩
    simp only [CircularBuffer.tryPushSlot, tryQueuePush]
    by_cases hfull : q.items.length = BufferSize
    · obtain ⟨x, xs, hq⟩ : ∃ x xs, q.items = x :: xs := List.exists_cons_of_length_pos (by omega)
      rw [if_pos ((h.isMax_iff hw).mpr hfull), if_pos hfull]
      exact (h.dropOldest hw hq).setSlot_head left
    · rw [if_neg (fun hm => hfull ((h.isMax_iff hw).mp hm)), if_neg hfull]
      exact h.setSlot_head left

theorem tryCall (h : b.Represents q) (hN : 1 ≤ BufferSize) (hw : BufferSize + 1 < 2 ^ w) (movedFrom : T → T)
    (c : TryCall T) :
    (b.tryCall movedFrom c).1 = (tryQueueStep q c).1 ∧ (b.tryCall movedFrom c).2.Represents (tryQueueStep q c).2 := by
  cases c with
  | pushCopy item assignment => exact h.tryPushSlot hN hw item assignment
  | pushMove item assignment => exact h.tryPushSlot hN hw item assignment
  | pop =>
    obtain ⟨hitem, hpop⟩ := h.pop hw movedFrom
    exact ⟨congrArg (fun item => some (QueueAnswer.popped item)) hitem, hpop⟩

/-- Every run is answered as by the queue, failing pushes included. -/
theorem respond_tryCall (h : b.Represents q) (hN : 1 ≤ BufferSize) (hw : BufferSize + 1 < 2 ^ w) (movedFrom : T → T)
    (calls : List (TryCall T)) :
    (respond (CircularBuffer.tryCall movedFrom) b calls).1 = (respond tryQueueStep q calls).1 ∧
      (respond (CircularBuffer.tryCall movedFrom) b calls).2.Represents (respond tryQueueStep q calls).2 := by
  have hsim := respond_simulates (g := tryQueueStep) id calls
    (fun c _ b q (h : b.Represents q) => h.tryCall hN hw movedFrom c) b q h
  rwa [List.map_id] at hsim

/-- Buffers that represent one queue. -/
theorem sameAs (h : b.Represents q) (h' : c.Represents q) (hN : 1 ≤ BufferSize)
    (hw : 2 * (BufferSize + 1) ≤ 2 ^ w) : b.SameAs c where
  size_eq := by rw [← BitVec.toNat_inj, size, size, h.size_eq, h'.size_eq]
  isEmpty_eq := by rw [Bool.eq_iff_iff, h.isEmpty_iff, h'.isEmpty_iff]
  isMax_eq := by rw [Bool.eq_iff_iff, h.isMax_iff (by omega), h'.isMax_iff (by omega)]
  atIndex_eq := fun i hi => by
    rw [size, h'.size_eq] at hi
    rw [h.atIndex_eq hw hi, h'.atIndex_eq hw hi]
  later := fun movedFrom calls => by
    rw [(h.respond_tryCall hN (by omega) movedFrom calls).1, (h'.respond_tryCall hN (by omega) movedFrom calls).1]

/-- A call that exits by the exception. -/
theorem tryCall_none (h : b.Represents q) (hN : 1 ≤ BufferSize) (hw : BufferSize + 1 < 2 ^ w) {movedFrom : T → T}
    {c : TryCall T} (hthrows : (b.tryCall movedFrom c).1 = none) :
    (b.tryCall movedFrom c).2.Represents (if q.items.length = BufferSize then q.pop.2 else q) := by
  obtain ⟨hans, hrep⟩ := h.tryCall hN hw movedFrom c
  rw [hans] at hthrows
  cases c with
  | pushCopy item assignment | pushMove item assignment =>
    cases assignment with
    | stores => cases hthrows
    | throws left => exact hrep
  | pop => cases hthrows

end Represents

/-- **What a failing push loses.** After every run, failing pushes included, a push that exits by the exception leaves
a buffer that was not full as it was, and a full one without its oldest item, as a `pop` would. -/
theorem failing_push (hN : 1 ≤ BufferSize) (hw : 2 * (BufferSize + 1) ≤ 2 ^ w) (movedFrom : T → T)
    (calls : List (TryCall T)) (c : TryCall T) :
    let b := (respond (tryCall movedFrom) (fresh : CircularBuffer T w BufferSize) calls).2
    (b.tryCall movedFrom c).1 = none →
      (b.isMax = false → (b.tryCall movedFrom c).2.SameAs b) ∧
        (b.isMax = true → (b.tryCall movedFrom c).2.SameAs (b.pop movedFrom).2) := by
  intro b hthrows
  have h : b.Represents (respond tryQueueStep (.empty T BufferSize) calls).2 :=
    (represents_fresh.respond_tryCall hN (by omega) movedFrom calls).2
  have hafter := h.tryCall_none hN (by omega) hthrows
  refine ⟨fun hroom => ?_, fun hfull => ?_⟩
  · rw [if_neg (fun hlen => by rw [(h.isMax_iff (by omega)).mpr hlen] at hroom; cases hroom)] at hafter
    exact hafter.sameAs h hN hw
  · rw [if_pos ((h.isMax_iff (by omega)).mp hfull)] at hafter
    exact hafter.sameAs (h.pop (by omega) movedFrom).2 hN hw

/-- The third push into a buffer of two, after one that failed with room left. -/
theorem failing_push_full :
    let b := (respond (tryCall id) (fresh : CircularBuffer Nat 32 2)
      [.pushCopy 1 .stores, .pushMove 7 (.throws none), .pushMove 2 .stores]).2
    (b.tryCall id (.pushCopy 3 (.throws (some 9)))).2.SameAs (b.pop id).2 :=
  (failing_push (by decide) (by decide) id _ (.pushCopy 3 (.throws (some 9))) rfl).2 rfl

/-- The oldest item is lost with the one that was not stored. -/
theorem failing_push_loses_oldest :
    let b := (respond (tryCall id) (fresh : CircularBuffer Nat 32 2) [.pushCopy 1 .stores, .pushMove 2 .stores]).2
    let r := b.tryCall id (.pushCopy 3 (.throws none))
    r.1 = none ∧ r.2.size ≠ b.size ∧ (r.2.pop id).1 ≠ (b.pop id).1 := by
  decide

end CircularBuffer

end MultisensorStation.Patterns
