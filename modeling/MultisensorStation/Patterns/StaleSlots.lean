import MultisensorStation.Patterns.BufferRuns

/-!
# What `at` shows outside the window

`at(index)` answers whatever is in the slot that the index leads to, and no member ever resets a slot: a pop leaves
its item moved from, an overwrite leaves the spare slot as it is.

* `pushes` : the number of push calls;
* `EngagedBelow b k` : after `k` pushes the slots with a value are those below `k`; every call keeps it;
* `atIndex_isSome_iff` : where `at` has a value, after every run.
-/

namespace MultisensorStation.Patterns
open MultisensorStation.Base

universe u

/-- The number of push calls. -/
def pushes {T : Type u} (calls : List (BufferCall T)) : Nat := calls.countP (fun c => c.item.isSome)

theorem pushes_concat {T : Type u} (calls : List (BufferCall T)) (c : BufferCall T) :
    pushes (calls ++ [c]) = pushes calls + if c.item.isSome then 1 else 0 := by
  rw [pushes, List.countP_append, List.countP_singleton]
  rfl

namespace CircularBuffer

variable {T : Type u} {w BufferSize : Nat}

/-- The pushes have come to the first `k` slots, in their order, and every one of them still has a value. -/
structure EngagedBelow (b : CircularBuffer T w BufferSize) (k : Nat) : Prop where
  head_eq : b.head_.toNat = k % (BufferSize + 1)
  tail_lt : b.tail_.toNat < BufferSize + 1
  isSome_iff : ∀ j < BufferSize + 1, (b.slot j).isSome = true ↔ j < k

theorem engagedBelow_fresh : (fresh : CircularBuffer T w BufferSize).EngagedBelow 0 where
  head_eq := by simp [fresh]
  tail_lt := by simp [fresh]
  isSome_iff := fun j hj => by simp [fresh, slot, hj]

namespace EngagedBelow

variable {b : CircularBuffer T w BufferSize} {k : Nat}

theorem head_lt (h : b.EngagedBelow k) : b.head_.toNat < BufferSize + 1 := by
  rw [h.head_eq]
  exact Nat.mod_lt _ (Nat.succ_pos _)

/-- The push writes the slot of its number. -/
theorem pushSlot (h : b.EngagedBelow k) (hw : BufferSize + 1 < 2 ^ w) (x : T) :
    (b.pushSlot (some x)).2.EngagedBelow (k + 1) := by
  have hslot : (b.pushSlot (some x)).2.slot = Function.update b.slot b.head_.toNat (some x) := by
    rw [← slot_setSlot b h.head_lt, CircularBuffer.pushSlot]
    split <;> rfl
  have htail : (b.pushSlot (some x)).2.tail_ = if b.isMax then next BufferSize b.tail_ else b.tail_ := by
    rw [CircularBuffer.pushSlot]
    split <;> rfl
  refine ⟨?_, ?_, fun j hj => ?_⟩
  · show (next BufferSize b.head_).toNat = _
    rw [toNat_next hw h.head_lt, h.head_eq, Nat.mod_add_mod]
  · rw [htail]
    split
    · exact toNat_next_lt hw h.tail_lt
    · exact h.tail_lt
  · rw [hslot, h.head_eq]
    by_cases hjk : j = k % (BufferSize + 1)
    · rw [hjk, Function.update_self]
      exact iff_of_true rfl (Nat.lt_succ_of_le (Nat.mod_le _ _))
    · -- the other slots below `k + 1` are below `k`: `k` itself is a slot only in the first revolution
      rw [Function.update_of_ne hjk, h.isSome_iff j hj]
      have hne : j ≠ k := by
        rintro rfl
        exact hjk (Nat.mod_eq_of_lt hj).symm
      omega

/-- A popped slot keeps a value. -/
theorem pop (h : b.EngagedBelow k) (hw : BufferSize + 1 < 2 ^ w) (movedFrom : T → T) :
    (b.pop movedFrom).2.EngagedBelow k := by
  rw [CircularBuffer.pop]
  split
  · exact h
  · refine ⟨h.head_eq, toNat_next_lt hw h.tail_lt, fun j hj => ?_⟩
    rw [← h.isSome_iff j hj]
    show ((b.setSlot b.tail_ ((b.slot b.tail_.toNat).map movedFrom)).slot j).isSome = true ↔ _
    rw [slot_setSlot b h.tail_lt]
    by_cases hjt : j = b.tail_.toNat
    · rw [hjt, Function.update_self, Option.isSome_map]
    · rw [Function.update_of_ne hjt]

theorem call (h : b.EngagedBelow k) (hw : BufferSize + 1 < 2 ^ w) (movedFrom : T → T) (c : BufferCall T) :
    (b.call movedFrom c).2.EngagedBelow (k + if c.item.isSome then 1 else 0) := by
  cases c with
  | pushCopy item => exact h.pushSlot hw item
  | pushMove item => exact h.pushSlot hw item
  | pop => exact h.pop hw movedFrom

/-- The sum of `tail_` and the index wraps before it is reduced to a slot. -/
theorem atIndex_isSome (h : b.EngagedBelow k) (hw : BufferSize + 1 < 2 ^ w) (index : BitVec w) :
    (b.atIndex index).isSome = true ↔ (b.tail_.toNat + index.toNat) % 2 ^ w % (BufferSize + 1) < k := by
  rw [atIndex, BitVec.toNat_umod, toNat_slots hw, BitVec.toNat_add]
  exact h.isSome_iff _ (Nat.mod_lt _ (Nat.succ_pos _))

end EngagedBelow

theorem engagedBelow_respond (hw : BufferSize + 1 < 2 ^ w) (movedFrom : T → T) (calls : List (BufferCall T)) :
    (respond (call movedFrom) (fresh : CircularBuffer T w BufferSize) calls).2.EngagedBelow (pushes calls) := by
  induction calls using List.reverseRecOn with
  | nil => exact engagedBelow_fresh
  | append_singleton calls c ih =>
    rw [respond_append, pushes_concat]
    exact ih.call hw movedFrom c

/-- **Where `at` has a value.** After every run of calls and for every index: below `size()`, `at` answers the item in
that place of the queue; at any index it has a value exactly when the slot it leads to has ever been pushed to. -/
theorem atIndex_isSome_iff (hN : 1 ≤ BufferSize) (hw : 2 * (BufferSize + 1) ≤ 2 ^ w) (movedFrom : T → T)
    (calls : List (BufferCall T)) (index : BitVec w) :
    let b := (respond (call movedFrom) (fresh : CircularBuffer T w BufferSize) calls).2
    let q := (respond queueStep (.empty T BufferSize) (calls.map BufferCall.queueOp)).2
    (index.toNat < b.size.toNat → b.atIndex index = q.items[index.toNat]? ∧ (b.atIndex index).isSome = true) ∧
      ((b.atIndex index).isSome = true ↔
        (b.tail_.toNat + index.toNat) % 2 ^ w % (BufferSize + 1) < pushes calls) := by
  intro b q
  have hobs : b.Observed q.items := (respond_represents hN (by omega) movedFrom calls).2.observed hN hw
  refine ⟨fun hi => ?_, (engagedBelow_respond (by omega) movedFrom calls).atIndex_isSome (by omega) index⟩
  rw [hobs.size_eq] at hi
  rw [hobs.atIndex_eq index hi, List.getElem?_eq_getElem hi]
  exact ⟨rfl, rfl⟩

/-- Index 2 of a buffer of two, after three pushes: the slot of the item that was overwritten. -/
theorem atIndex_isSome_iff_overwritten :
    let b := (respond (call id) (fresh : CircularBuffer Nat 32 2) [.pushCopy 1, .pushMove 2, .pushCopy 3]).2
    b.size.toNat = 2 ∧ (b.atIndex 2).isSome = true := by
  refine ⟨by decide, (atIndex_isSome_iff (by decide) (by decide) id _ 2).2.mpr ?_⟩
  decide

/-- A popped item is still shown. -/
theorem atIndex_popped :
    let b := (respond (call id) (fresh : CircularBuffer Nat 32 2) [.pushCopy 1, .pop]).2
    b.size.toNat = 0 ∧ b.atIndex 2 = some 1 := by
  decide

end CircularBuffer

end MultisensorStation.Patterns
