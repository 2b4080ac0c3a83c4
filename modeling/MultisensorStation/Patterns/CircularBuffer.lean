import MultisensorStation.Base.Ring
import MultisensorStation.Base.BoundedQueue
import Mathlib.Data.Vector.Basic

/-!
# `CircularBuffer<T, BufferSize>`

The ring buffer of `lib/Patterns/CircularBuffer.hpp`: `BufferSize + 1` slots and the counters `head_`, `tail_`,
`size_`, all of type `size_t`, a `BitVec w` here, so that every index computation wraps at `2 ^ w`.

* `push`, `pushMove` : the two overloads; `pop`; `isEmpty`, `isMax`, `size`, `atIndex`;
* `Represents b q` : the buffer `b` stands for the bounded queue `q`; it holds of a fresh buffer, and `push` and
  `pop` keep it (`Represents.push`, `Represents.pop`);
* what the observers answer on a buffer that represents a queue.
-/

namespace MultisensorStation.Patterns
open MultisensorStation.Base

universe u

/-- The members of `CircularBuffer`; a slot of `buffer_` is an `std::optional<T>`. -/
structure CircularBuffer (T : Type u) (w BufferSize : Nat) where
  buffer_ : Vector (Option T) (BufferSize + 1)
  head_ : BitVec w
  tail_ : BitVec w
  size_ : BitVec w
  deriving DecidableEq

namespace CircularBuffer

variable {T : Type u} {w BufferSize : Nat}

/-- The constructor. -/
def fresh : CircularBuffer T w BufferSize := ⟨Vector.replicate (BufferSize + 1) none, 0, 0, 0⟩

/-- `BufferSize + 1`, computed in `size_t`. -/
def slots (w BufferSize : Nat) : BitVec w := BitVec.ofNat w BufferSize + 1

/-- The index after `i`. -/
def next (BufferSize : Nat) (i : BitVec w) : BitVec w := (i + 1) % slots w BufferSize

/-- Reading `buffer_[i]`. -/
def slot (b : CircularBuffer T w BufferSize) (i : Nat) : Option T := b.buffer_[i]?.join

/-- Writing `buffer_[i]`. -/
def setSlot (b : CircularBuffer T w BufferSize) (i : BitVec w) (v : Option T) : CircularBuffer T w BufferSize :=
  { b with buffer_ := b.buffer_.setIfInBounds i.toNat v }

def isEmpty (b : CircularBuffer T w BufferSize) : Bool := b.head_ == b.tail_

def isMax (b : CircularBuffer T w BufferSize) : Bool := next BufferSize b.head_ == b.tail_

def size (b : CircularBuffer T w BufferSize) : BitVec w := b.size_

/-- `at(index)`. -/
def atIndex (b : CircularBuffer T w BufferSize) (index : BitVec w) : Option T :=
  b.slot ((b.tail_ + index) % slots w BufferSize).toNat

/-- The full case of `push`: give up the oldest item by moving `tail_` past it. -/
def dropOldest (b : CircularBuffer T w BufferSize) : CircularBuffer T w BufferSize :=
  { b with tail_ := next BufferSize b.tail_, size_ := b.size_ - 1 }

/-- The body both overloads of `push` share; `v` is what the assignment leaves in the slot. -/
def pushSlot (b : CircularBuffer T w BufferSize) (v : Option T) : Bool × CircularBuffer T w BufferSize :=
  let next_head := next BufferSize b.head_
  let b := if b.isMax then b.dropOldest else b
  let b := b.setSlot b.head_ v
  (true, { b with head_ := next_head, size_ := b.size_ + 1 })

/-- `push(const T&)` copies the item into the slot. -/
def push (b : CircularBuffer T w BufferSize) (item : T) : Bool × CircularBuffer T w BufferSize :=
  b.pushSlot (some item)

/-- `push(T&&)` moves the item into the slot. -/
def pushMove (b : CircularBuffer T w BufferSize) (item : T) : Bool × CircularBuffer T w BufferSize :=
  b.pushSlot (some item)

/-- `pop()`; the popped slot keeps an engaged optional whose value has been moved from. -/
def pop (movedFrom : T → T) (b : CircularBuffer T w BufferSize) : Option T × CircularBuffer T w BufferSize :=
  if b.isEmpty then (none, b)
  else
    let item := b.slot b.tail_.toNat
    let b := b.setSlot b.tail_ (item.map movedFrom)
    (item, { b with tail_ := next BufferSize b.tail_, size_ := b.size_ - 1 })

/-! ## Index arithmetic -/

theorem toNat_one {w : Nat} (hw : 1 < 2 ^ w) : (1 : BitVec w).toNat = 1 := by
  change (BitVec.ofNat w 1).toNat = 1
  rw [BitVec.toNat_ofNat, Nat.mod_eq_of_lt hw]

theorem toNat_slots (hw : BufferSize + 1 < 2 ^ w) : (slots w BufferSize).toNat = BufferSize + 1 := by
  rw [slots, BitVec.toNat_add, BitVec.toNat_ofNat, toNat_one (by omega), Nat.mod_add_mod, Nat.mod_eq_of_lt hw]

theorem toNat_next (hw : BufferSize + 1 < 2 ^ w) {i : BitVec w} (hi : i.toNat < BufferSize + 1) :
    (next BufferSize i).toNat = (i.toNat + 1) % (BufferSize + 1) := by
  rw [next, BitVec.toNat_umod, toNat_slots hw, BitVec.toNat_add, toNat_one (by omega),
    Nat.mod_eq_of_lt (b := 2 ^ w) (by omega)]

theorem toNat_next_lt (hw : BufferSize + 1 < 2 ^ w) {i : BitVec w} (hi : i.toNat < BufferSize + 1) :
    (next BufferSize i).toNat < BufferSize + 1 := by
  rw [toNat_next hw hi]
  exact Nat.mod_lt _ (Nat.succ_pos _)

theorem toNat_pred {i : BitVec w} (hi : i.toNat ≠ 0) : (i - 1).toNat = i.toNat - 1 := by
  have hlt := i.isLt
  rw [BitVec.toNat_sub, toNat_one (by omega)]
  rw [show 2 ^ w - 1 + i.toNat = (i.toNat - 1) + 2 ^ w by omega, Nat.add_mod_right, Nat.mod_eq_of_lt (by omega)]

theorem toNat_succ {i : BitVec w} (hi : i.toNat + 1 < 2 ^ w) : (i + 1).toNat = i.toNat + 1 := by
  rw [BitVec.toNat_add, toNat_one (by omega), Nat.mod_eq_of_lt hi]

theorem slot_setSlot (b : CircularBuffer T w BufferSize) {i : BitVec w} (hi : i.toNat < BufferSize + 1)
    (v : Option T) : (b.setSlot i v).slot = Function.update b.slot i.toNat v := by
  funext j
  by_cases hj : j = i.toNat
  · subst hj
    rw [Function.update_self, slot, setSlot, Vector.getElem?_setIfInBounds, if_pos rfl, if_pos hi]
    rfl
  · rw [Function.update_of_ne hj, slot, setSlot, Vector.getElem?_setIfInBounds, if_neg (Ne.symm hj)]
    rfl

/-! ## The queue a buffer stands for -/

/-- The window of slots from `tail_` on holds the queue, and `head_` and `size_` agree with its length. -/
structure Represents (b : CircularBuffer T w BufferSize) (q : BoundedQueue T BufferSize) : Prop where
  tail_lt : b.tail_.toNat < BufferSize + 1
  head_eq : b.head_.toNat = (b.tail_.toNat + q.items.length) % (BufferSize + 1)
  size_eq : b.size_.toNat = q.items.length
  cells : Window b.slot (BufferSize + 1) b.tail_.toNat q.items

theorem represents_fresh : (fresh : CircularBuffer T w BufferSize).Represents (.empty T BufferSize) where
  tail_lt := by simp [fresh]
  head_eq := by simp [fresh]
  size_eq := by simp [fresh]
  cells := Window.nil _ _ _

namespace Represents

variable {b : CircularBuffer T w BufferSize} {q : BoundedQueue T BufferSize}

theorem head_lt (h : b.Represents q) : b.head_.toNat < BufferSize + 1 := by
  rw [h.head_eq]
  exact Nat.mod_lt _ (Nat.succ_pos _)

theorem isEmpty_iff (h : b.Represents q) : b.isEmpty = true ↔ q.items = [] := by
  rw [isEmpty, beq_iff_eq, ← BitVec.toNat_inj, h.head_eq,
    ring_slot_eq_start h.tail_lt (Nat.lt_succ_of_le q.length_le), List.length_eq_zero_iff]

/-- The slot after `head_` is `tail_` exactly when only the spare slot is left. -/
theorem isMax_iff (h : b.Represents q) (hw : BufferSize + 1 < 2 ^ w) :
    b.isMax = true ↔ q.items.length = BufferSize := by
  have hle := q.length_le
  rw [isMax, beq_iff_eq, ← BitVec.toNat_inj, toNat_next hw h.head_lt, h.head_eq, ring_slot_next]
  constructor
  · intro he
    by_contra hne
    have := (ring_slot_eq_start h.tail_lt (by omega : q.items.length + 1 < BufferSize + 1)).mp he
    omega
  · intro he
    rw [he, Nat.add_mod_right, Nat.mod_eq_of_lt h.tail_lt]

/-- `at(index)` reads the queue; the sum `tail_ + index` stays below `2 ^ w`. -/
theorem atIndex_eq (h : b.Represents q) (hw : 2 * (BufferSize + 1) ≤ 2 ^ w) {index : BitVec w}
    (hi : index.toNat < q.items.length) : b.atIndex index = q.items[index.toNat]? := by
  have hle := q.length_le
  have ht := h.tail_lt
  rw [atIndex, BitVec.toNat_umod, toNat_slots (by omega), BitVec.toNat_add,
    Nat.mod_eq_of_lt (b := 2 ^ w) (by omega), h.cells _ hi, List.getElem?_eq_getElem hi]

/-- The decrement of `size_` in a push never starts from 0. -/
theorem size_ne_zero_of_isMax (h : b.Represents q) (hN : 1 ≤ BufferSize) (hw : BufferSize + 1 < 2 ^ w)
    (hmax : b.isMax = true) : b.size_.toNat ≠ 0 := by
  rw [h.size_eq, (h.isMax_iff hw).mp hmax]
  omega

/-- The decrement of `size_` in a pop never starts from 0. -/
theorem size_ne_zero_of_not_isEmpty (h : b.Represents q) (hne : b.isEmpty = false) : b.size_.toNat ≠ 0 := by
  rw [h.size_eq]
  intro h0
  rw [h.isEmpty_iff.mpr (List.eq_nil_of_length_eq_zero h0)] at hne
  cases hne

/-- Giving up the oldest item leaves the rest of the queue. -/
theorem dropOldest {x : T} {xs : List T} (h : b.Represents q) (hw : BufferSize + 1 < 2 ^ w)
    (hq : q.items = x :: xs) : b.dropOldest.Represents q.pop.2 := by
  have hlen : q.items.length = xs.length + 1 := by rw [hq, List.length_cons]
  have hrest : q.pop.2.items = xs := by rw [BoundedQueue.items_pop, hq, List.tail_cons]
  have hsize := h.size_eq
  refine ⟨?_, ?_, ?_, ?_⟩
  · exact toNat_next_lt hw h.tail_lt
  · rw [CircularBuffer.dropOldest, toNat_next hw h.tail_lt, hrest, ring_slot_succ, ← hlen]
    exact h.head_eq
  · rw [CircularBuffer.dropOldest, toNat_pred (by omega), hrest]
    omega
  · rw [CircularBuffer.dropOldest, toNat_next hw h.tail_lt, hrest]
    exact (hq ▸ h.cells).tail

/-- Storing into the spare slot appends, while there is room. -/
theorem store (h : b.Represents q) (hw : BufferSize + 1 < 2 ^ w) (hroom : q.items.length < BufferSize) (x : T)
    {r : BoundedQueue T BufferSize} (hr : r.items = q.items ++ [x]) :
    ({ b.setSlot b.head_ (some x) with head_ := next BufferSize b.head_, size_ := b.size_ + 1 } :
      CircularBuffer T w BufferSize).Represents r := by
  have hlen : r.items.length = q.items.length + 1 := by rw [hr, List.length_append, List.length_singleton]
  have hsize := h.size_eq
  refine ⟨h.tail_lt, ?_, ?_, ?_⟩
  · simp only
    rw [toNat_next hw h.head_lt, h.head_eq, ring_slot_next, hlen]
    rfl
  · simp only
    rw [toNat_succ (by omega), hlen, hsize]
  · have hcells := h.cells.push (by omega) x
    rw [← h.head_eq, ← slot_setSlot b h.head_lt, ← hr] at hcells
    exact hcells

/-- **`push` keeps the last `BufferSize` items of the queue and the new one.** -/
theorem pushSlot (h : b.Represents q) (hN : 1 ≤ BufferSize) (hw : BufferSize + 1 < 2 ^ w) (x : T) :
    (b.pushSlot (some x)).1 = true ∧ (b.pushSlot (some x)).2.Represents (q.push x) := by
  refine ⟨rfl, ?_⟩
  by_cases hmax : b.isMax = true
  · have hfull := (h.isMax_iff hw).mp hmax
    obtain ⟨y, ys, hq⟩ : ∃ y ys, q.items = y :: ys := List.exists_cons_of_length_pos (by omega)
    have hdrop := h.dropOldest hw hq
    simp only [CircularBuffer.pushSlot, hmax, if_true]
    refine hdrop.store hw ?_ x ?_
    · rw [BoundedQueue.items_pop, List.length_tail]
      omega
    · rw [BoundedQueue.items_push_of_full hN hfull, BoundedQueue.items_pop]
  · have hroom : q.items.length < BufferSize :=
      lt_of_le_of_ne q.length_le (fun he => hmax ((h.isMax_iff hw).mpr he))
    simp only [CircularBuffer.pushSlot, hmax, if_false, Bool.false_eq_true]
    exact h.store hw hroom x (BoundedQueue.items_push_of_lt hroom x)

/-- Marking the popped slot as moved from does not touch the rest of the queue. -/
theorem setSlot_tail (h : b.Represents q) (v : Option T) {xs : List T}
    (hrest : Window b.slot (BufferSize + 1) ((b.tail_.toNat + 1) % (BufferSize + 1)) xs)
    (hxs : xs.length ≤ BufferSize) :
    Window (b.setSlot b.tail_ v).slot (BufferSize + 1) ((b.tail_.toNat + 1) % (BufferSize + 1)) xs := by
  have hslot : b.tail_.toNat = ((b.tail_.toNat + 1) % (BufferSize + 1) + BufferSize) % (BufferSize + 1) := by
    rw [ring_slot_succ, Nat.add_mod_right, Nat.mod_eq_of_lt h.tail_lt]
  rw [slot_setSlot b h.tail_lt]
  have := hrest.update_outside (Nat.lt_succ_self _) hxs v
  rwa [← hslot] at this

/-- **`pop` answers the head of the queue and keeps the rest.** -/
theorem pop (h : b.Represents q) (hw : BufferSize + 1 < 2 ^ w) (movedFrom : T → T) :
    (b.pop movedFrom).1 = q.pop.1 ∧ (b.pop movedFrom).2.Represents q.pop.2 := by
  cases hq : q.items with
  | nil =>
    have hempty := h.isEmpty_iff.mpr hq
    have hqq : q.pop.2 = q := BoundedQueue.ext_items (by rw [BoundedQueue.items_pop, hq]; rfl)
    rw [CircularBuffer.pop, if_pos hempty, hqq, BoundedQueue.pop_fst, hq]
    exact ⟨rfl, h⟩
  | cons x xs =>
    have hne : b.isEmpty = false := by
      rw [← Bool.not_eq_true, h.isEmpty_iff, hq]
      exact List.cons_ne_nil _ _
    have hhead : b.slot b.tail_.toNat = some x := by
      have := (hq ▸ h.cells : Window b.slot (BufferSize + 1) b.tail_.toNat (x :: xs)).head
      rwa [Nat.mod_eq_of_lt h.tail_lt] at this
    have hdrop := h.dropOldest hw hq
    simp only [CircularBuffer.pop, hne, if_false, Bool.false_eq_true]
    refine ⟨?_, hdrop.tail_lt, hdrop.head_eq, hdrop.size_eq, ?_⟩
    · rw [hhead, BoundedQueue.pop_fst, hq, List.head?_cons]
    · have hcells := hdrop.cells
      have hnext := toNat_next hw h.tail_lt
      change Window b.slot _ (next BufferSize b.tail_).toNat _ at hcells
      change Window (b.setSlot b.tail_ _).slot _ (next BufferSize b.tail_).toNat _
      rw [hnext] at hcells ⊢
      exact h.setSlot_tail _ hcells q.pop.2.length_le

end Represents

end CircularBuffer

end MultisensorStation.Patterns
