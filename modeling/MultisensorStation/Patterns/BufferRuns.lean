import MultisensorStation.Patterns.CircularBuffer

/-!
# Runs of `CircularBuffer`

* `BufferCall`, `call` : the calls of the three mutating members and their answers;
* `Observed b q` : what the observers answer when the buffer holds the list `q`;
* `respond_as_queue` : over every run the answers are those of a bounded queue that drops its oldest item, and the
  observers show that queue;
* `History` : the same code run on items that carry the number of their push call; `history_erase` : erasing the
  numbers gives the run itself;
* `loss_law` : which items a run pops, loses and still holds.
-/

namespace MultisensorStation.Patterns
open MultisensorStation.Base

universe u

/-- A call of a mutating member of `CircularBuffer`. -/
inductive BufferCall (T : Type u) where
  | pushCopy (item : T)
  | pushMove (item : T)
  | pop
  deriving DecidableEq

/-- The queue operation a call stands for. -/
def BufferCall.queueOp {T : Type u} : BufferCall T → QueueOp T
  | .pushCopy item => .push item
  | .pushMove item => .push item
  | .pop => .pop

namespace CircularBuffer

variable {T : Type u} {w BufferSize : Nat}

/-- One call and its answer. -/
def call (movedFrom : T → T) (b : CircularBuffer T w BufferSize) :
    BufferCall T → QueueAnswer T × CircularBuffer T w BufferSize
  | .pushCopy item => (.pushed (b.push item).1, (b.push item).2)
  | .pushMove item => (.pushed (b.pushMove item).1, (b.pushMove item).2)
  | .pop => (.popped (b.pop movedFrom).1, (b.pop movedFrom).2)

/-- The observers show the list `q`, both indices are in range, and neither `--size_` starts from 0. -/
structure Observed (b : CircularBuffer T w BufferSize) (q : List T) : Prop where
  size_eq : b.size.toNat = q.length
  isEmpty_iff : b.isEmpty = true ↔ q = []
  isMax_iff : b.isMax = true ↔ q.length = BufferSize
  atIndex_eq : ∀ i : BitVec w, i.toNat < q.length → b.atIndex i = q[i.toNat]?
  head_lt : b.head_.toNat < BufferSize + 1
  tail_lt : b.tail_.toNat < BufferSize + 1
  push_size : b.isMax = true → b.size_.toNat ≠ 0
  pop_size : b.isEmpty = false → b.size_.toNat ≠ 0
  pop_empty : q = [] → ∀ movedFrom : T → T, b.pop movedFrom = (none, b)

theorem Represents.observed {b : CircularBuffer T w BufferSize} {q : BoundedQueue T BufferSize}
    (h : b.Represents q) (hN : 1 ≤ BufferSize) (hw : 2 * (BufferSize + 1) ≤ 2 ^ w) : b.Observed q.items where
  size_eq := h.size_eq
  isEmpty_iff := h.isEmpty_iff
  isMax_iff := h.isMax_iff (by omega)
  atIndex_eq := fun _ hi => h.atIndex_eq hw hi
  head_lt := h.head_lt
  tail_lt := h.tail_lt
  push_size := h.size_ne_zero_of_isMax hN (by omega)
  pop_size := h.size_ne_zero_of_not_isEmpty
  pop_empty := fun hq _ => by rw [CircularBuffer.pop, if_pos (h.isEmpty_iff.mpr hq)]

/-- `for (i = 0; i < size(); ++i) at(i)` goes through the queue. -/
theorem Observed.filterMap_atIndex {b : CircularBuffer T w BufferSize} {q : List T} (h : b.Observed q)
    (hq : q.length < 2 ^ w) : (List.range b.size.toNat).filterMap (fun i => b.atIndex (BitVec.ofNat w i)) = q := by
  have hat : ∀ i ∈ List.range q.length, b.atIndex (BitVec.ofNat w i) = q[i]? := by
    intro i hi
    rw [List.mem_range] at hi
    have hi' : (BitVec.ofNat w i).toNat = i := by
      rw [BitVec.toNat_ofNat, Nat.mod_eq_of_lt (by omega)]
    rw [h.atIndex_eq _ (by rwa [hi']), hi']
  rw [h.size_eq, List.filterMap_congr hat, filterMap_getElem?_range]

/-- One call on a buffer that represents a queue. -/
theorem Represents.call {b : CircularBuffer T w BufferSize} {q : BoundedQueue T BufferSize} (h : b.Represents q)
    (hN : 1 ≤ BufferSize) (hw : BufferSize + 1 < 2 ^ w) (movedFrom : T → T) (c : BufferCall T) :
    (b.call movedFrom c).1 = (queueStep q c.queueOp).1 ∧
      (b.call movedFrom c).2.Represents (queueStep q c.queueOp).2 := by
  cases c with
  | pushCopy item => exact ⟨congrArg QueueAnswer.pushed (h.pushSlot hN hw item).1, (h.pushSlot hN hw item).2⟩
  | pushMove item => exact ⟨congrArg QueueAnswer.pushed (h.pushSlot hN hw item).1, (h.pushSlot hN hw item).2⟩
  | pop => exact ⟨congrArg QueueAnswer.popped (h.pop hw movedFrom).1, (h.pop hw movedFrom).2⟩

theorem respond_represents (hN : 1 ≤ BufferSize) (hw : BufferSize + 1 < 2 ^ w) (movedFrom : T → T)
    (calls : List (BufferCall T)) :
    let run := respond (call movedFrom) (fresh : CircularBuffer T w BufferSize) calls
    let spec := respond queueStep (.empty T BufferSize) (calls.map BufferCall.queueOp)
    run.1 = spec.1 ∧ run.2.Represents spec.2 := by
  intro run spec
  exact respond_simulates BufferCall.queueOp calls
    (fun c _ b q (h : b.Represents q) => h.call hN hw movedFrom c) _ _ (@represents_fresh T w BufferSize)

/-- **A buffer is a bounded queue that drops its oldest item.** Every run of calls is answered as by the queue
`spec.2`, which the observers show at the end of the run, hence after every call. -/
theorem respond_as_queue (hN : 1 ≤ BufferSize) (hw : 2 * (BufferSize + 1) ≤ 2 ^ w) (movedFrom : T → T)
    (calls : List (BufferCall T)) :
    let run := respond (call movedFrom) (fresh : CircularBuffer T w BufferSize) calls
    let spec := respond queueStep (.empty T BufferSize) (calls.map BufferCall.queueOp)
    run.1 = spec.1 ∧ run.2.Observed spec.2.items := by
  intro run spec
  obtain ⟨hans, hrep⟩ := respond_represents (w := w) hN (by omega) movedFrom calls
  exact ⟨hans, hrep.observed hN hw⟩

/-- Five pushes around a pop, in a buffer of three on a 32-bit `size_t`. -/
theorem respond_as_queue_wraps :
    let calls : List (BufferCall Nat) :=
      [.pushCopy 1, .pushMove 2, .pushCopy 3, .pushCopy 4, .pop, .pushMove 5, .pushCopy 6, .pop]
    let run := respond (call id) (fresh : CircularBuffer Nat 32 3) calls
    run.1 = [.pushed true, .pushed true, .pushed true, .pushed true, .popped (some 2), .pushed true, .pushed true,
      .popped (some 4)] ∧ run.2.Observed [5, 6] := by
  intro calls run
  exact @respond_as_queue Nat 32 3 (by decide) (by decide) id calls

/-! ## Erasing what the items carry -/

section Erase
variable {S : Type u} (f : S → T)

/-- Apply `f` to every item in the slots. -/
def map (b : CircularBuffer S w BufferSize) : CircularBuffer T w BufferSize :=
  { buffer_ := b.buffer_.map (Option.map f), head_ := b.head_, tail_ := b.tail_, size_ := b.size_ }

@[simp] theorem isEmpty_map (b : CircularBuffer S w BufferSize) : (b.map f).isEmpty = b.isEmpty := rfl
@[simp] theorem isMax_map (b : CircularBuffer S w BufferSize) : (b.map f).isMax = b.isMax := rfl

theorem map_fresh : (fresh : CircularBuffer S w BufferSize).map f = fresh := by
  simp [map, fresh]

theorem slot_map (b : CircularBuffer S w BufferSize) (i : Nat) : (b.map f).slot i = (b.slot i).map f := by
  rw [slot, slot, map, Vector.getElem?_map]
  cases b.buffer_[i]? with
  | none => rfl
  | some v => rfl

theorem setSlot_map (b : CircularBuffer S w BufferSize) (i : BitVec w) (v : Option S) :
    (b.map f).setSlot i (v.map f) = (b.setSlot i v).map f := by
  simp only [setSlot, map, Vector.map_setIfInBounds]

theorem pushSlot_map (b : CircularBuffer S w BufferSize) (x : S) :
    (b.map f).pushSlot (some (f x)) = ((b.pushSlot (some x)).1, (b.pushSlot (some x)).2.map f) := by
  have hset := fun (b : CircularBuffer S w BufferSize) (i : BitVec w) => setSlot_map f b i (some x)
  simp only [Option.map_some] at hset
  cases hmax : b.isMax with
  | true =>
    simp only [pushSlot, isMax_map, hmax, if_true]
    exact congrArg (fun b' : CircularBuffer T w BufferSize =>
      (true, { b' with head_ := next BufferSize b.head_, size_ := b'.size_ + 1 })) (hset b.dropOldest b.head_)
  | false =>
    simp only [pushSlot, isMax_map, hmax, Bool.false_eq_true, if_false]
    exact congrArg (fun b' : CircularBuffer T w BufferSize =>
      (true, { b' with head_ := next BufferSize b.head_, size_ := b'.size_ + 1 })) (hset b b.head_)

theorem pop_map {movedS : S → S} {movedT : T → T} (hmoved : ∀ x, f (movedS x) = movedT (f x))
    (b : CircularBuffer S w BufferSize) :
    (b.map f).pop movedT = ((b.pop movedS).1.map f, (b.pop movedS).2.map f) := by
  have hslot : ((b.map f).slot b.tail_.toNat).map movedT = ((b.slot b.tail_.toNat).map movedS).map f := by
    rw [slot_map, Option.map_map, Option.map_map]
    exact congrArg (fun g => (b.slot b.tail_.toNat).map g) (funext fun x => (hmoved x).symm)
  cases hempty : b.isEmpty with
  | true =>
    rw [pop, pop, if_pos hempty, if_pos ((isEmpty_map f b).trans hempty)]
    rfl
  | false =>
    have hset := setSlot_map f b b.tail_ ((b.slot b.tail_.toNat).map movedS)
    simp only [pop, isEmpty_map, hempty, Bool.false_eq_true, if_false]
    rw [show (b.map f).tail_ = b.tail_ from rfl, hslot, hset, slot_map]
    rfl

end Erase

/-! ## The history of a run -/

end CircularBuffer

/-- The item of a push call. -/
def BufferCall.item {T : Type u} : BufferCall T → Option T
  | .pushCopy item => some item
  | .pushMove item => some item
  | .pop => none

/-- A buffer of numbered items, with what became of the items that left it. -/
structure History (T : Type u) (w BufferSize : Nat) where
  /-- the items of the push calls so far; push number `k` pushed the `k`-th of them -/
  given : List T
  buffer : CircularBuffer (Nat × T) w BufferSize
  /-- what the successful pops returned, oldest first -/
  popped : List (Nat × T)
  /-- number of the overwritten item, number of the push that overwrote it -/
  overwritten : List (Nat × Nat)

namespace History

variable {T : Type u} {w BufferSize : Nat}

def fresh : History T w BufferSize := ⟨[], .fresh, [], []⟩

/-- The item the next push overwrites: the one at `tail_`, when the buffer is full. -/
def victim (b : CircularBuffer (Nat × T) w BufferSize) : Option (Nat × T) :=
  if b.isMax then b.slot b.tail_.toNat else none

/-- A push of `item`, with the next number. -/
def push (h : History T w BufferSize) (item : T)
    (code : CircularBuffer (Nat × T) w BufferSize → Nat × T → Bool × CircularBuffer (Nat × T) w BufferSize) :
    History T w BufferSize :=
  { given := h.given ++ [item]
    buffer := (code h.buffer (h.given.length, item)).2
    popped := h.popped
    overwritten := h.overwritten ++ (victim h.buffer).toList.map (fun p => (p.1, h.given.length)) }

/-- One call of the code on the numbered items. -/
def call (movedFrom : T → T) (h : History T w BufferSize) : BufferCall T → History T w BufferSize
  | .pushCopy item => h.push item CircularBuffer.push
  | .pushMove item => h.push item CircularBuffer.pushMove
  | .pop =>
    let (item, buffer) := h.buffer.pop (Prod.map id movedFrom)
    { h with buffer := buffer, popped := h.popped ++ item.toList }

end History

/-- The history of a run that starts with a fresh buffer. -/
def history (w BufferSize : Nat) {T : Type u} (movedFrom : T → T) (calls : List (BufferCall T)) :
    History T w BufferSize :=
  calls.foldl (History.call movedFrom) .fresh

theorem history_concat {T : Type u} {w BufferSize : Nat} (movedFrom : T → T) (calls : List (BufferCall T))
    (c : BufferCall T) :
    history w BufferSize movedFrom (calls ++ [c]) = (history w BufferSize movedFrom calls).call movedFrom c := by
  rw [history, history, List.foldl_append]
  rfl

/-- The items in the window, oldest first. -/
def CircularBuffer.contents {T : Type u} {w BufferSize : Nat} (b : CircularBuffer T w BufferSize) : List T :=
  windowItems b.slot (BufferSize + 1) b.tail_.toNat b.size_.toNat

namespace History

variable {T : Type u} {w BufferSize : Nat}

/-- The numbers of the items that were popped, in that order. -/
def poppedNumbers (h : History T w BufferSize) : List Nat := h.popped.map Prod.fst

/-- The numbers of the items that were overwritten, in that order. -/
def overwrittenNumbers (h : History T w BufferSize) : List Nat := h.overwritten.map Prod.fst

/-- The numbers of the items that are still held, oldest first. -/
def heldNumbers (h : History T w BufferSize) : List Nat := h.buffer.contents.map Prod.fst

/-- The history is the ledger `L`, its queue represented by the buffer. -/
structure Follows (h : History T w BufferSize) (L : Ledger T BufferSize) : Prop where
  given_eq : h.given = L.given
  buffer_rep : h.buffer.Represents L.held
  popped_eq : h.popped = L.popped
  overwritten_eq : h.overwritten = L.overwritten

end History

theorem CircularBuffer.Represents.contents_eq {T : Type u} {w BufferSize : Nat} {b : CircularBuffer T w BufferSize}
    {q : BoundedQueue T BufferSize} (h : b.Represents q) : b.contents = q.items := by
  rw [contents, h.size_eq, h.cells.items_eq]

namespace History

variable {T : Type u} {w BufferSize : Nat}

theorem victim_eq {b : CircularBuffer (Nat × T) w BufferSize} {q : BoundedQueue (Nat × T) BufferSize}
    (h : b.Represents q) (hN : 1 ≤ BufferSize) (hw : BufferSize + 1 < 2 ^ w) :
    (victim b).toList = if q.items.length = BufferSize then q.items.head?.toList else [] := by
  by_cases hfull : q.items.length = BufferSize
  · obtain ⟨x, xs, hq⟩ : ∃ x xs, q.items = x :: xs := List.exists_cons_of_length_pos (by omega)
    have hhead := (hq ▸ h.cells : Window b.slot (BufferSize + 1) b.tail_.toNat (x :: xs)).head
    rw [Nat.mod_eq_of_lt h.tail_lt] at hhead
    rw [victim, if_pos ((h.isMax_iff hw).mpr hfull), if_pos hfull, hhead, hq, List.head?_cons]
  · rw [victim, if_neg (fun hm => hfull ((h.isMax_iff hw).mp hm)), if_neg hfull]
    rfl

theorem Follows.push {h : History T w BufferSize} {L : Ledger T BufferSize} (hf : h.Follows L)
    (hN : 1 ≤ BufferSize) (hw : BufferSize + 1 < 2 ^ w) (item : T) :
    (h.push item CircularBuffer.push).Follows (L.step (.push item)) where
  given_eq := congrArg (· ++ [item]) hf.given_eq
  buffer_rep := by
    rw [History.push, hf.given_eq]
    exact (hf.buffer_rep.pushSlot hN hw _).2
  popped_eq := hf.popped_eq
  overwritten_eq := by
    simp only [History.push, Ledger.step, victim_eq hf.buffer_rep hN hw, hf.given_eq, hf.overwritten_eq]
    split <;> rfl

theorem Follows.call {h : History T w BufferSize} {L : Ledger T BufferSize} (hf : h.Follows L)
    (hN : 1 ≤ BufferSize) (hw : BufferSize + 1 < 2 ^ w) (movedFrom : T → T) (c : BufferCall T) :
    (h.call movedFrom c).Follows (L.step c.queueOp) := by
  cases c with
  | pushCopy item => exact hf.push hN hw item
  | pushMove item => exact hf.push hN hw item
  | pop =>
    obtain ⟨hitem, hrep⟩ := hf.buffer_rep.pop hw (Prod.map id movedFrom)
    refine ⟨hf.given_eq, hrep, ?_, hf.overwritten_eq⟩
    simp only [History.call, BufferCall.queueOp, Ledger.step, hitem, BoundedQueue.pop_fst, hf.popped_eq]

end History

/-- The history of every run is the ledger of its queue operations. -/
theorem history_follows {T : Type u} {w BufferSize : Nat} (hN : 1 ≤ BufferSize) (hw : BufferSize + 1 < 2 ^ w)
    (movedFrom : T → T) (calls : List (BufferCall T)) :
    (history w BufferSize movedFrom calls).Follows (Ledger.run (calls.map BufferCall.queueOp)) := by
  induction calls using List.reverseRecOn with
  | nil => exact ⟨rfl, CircularBuffer.represents_fresh, rfl, rfl⟩
  | append_singleton calls c ih =>
    rw [history_concat, List.map_append, List.map_singleton, Ledger.run_concat]
    exact ih.call hN hw movedFrom c

/-- Erasing the numbers from one call. -/
theorem History.call_erase {T : Type u} {w BufferSize : Nat} (movedFrom : T → T) (h : History T w BufferSize)
    (c : BufferCall T) :
    let r := CircularBuffer.call movedFrom (h.buffer.map Prod.snd) c
    r.2 = (h.call movedFrom c).buffer.map Prod.snd ∧
      h.popped.map Prod.snd ++ r.1.item.toList = (h.call movedFrom c).popped.map Prod.snd ∧
      h.given ++ c.item.toList = (h.call movedFrom c).given := by
  have hpush := fun item => CircularBuffer.pushSlot_map Prod.snd h.buffer (h.given.length, item)
  cases c with
  | pushCopy item => exact ⟨congrArg Prod.snd (hpush item), List.append_nil _, rfl⟩
  | pushMove item => exact ⟨congrArg Prod.snd (hpush item), List.append_nil _, rfl⟩
  | pop =>
    have hmoved : ∀ x : Nat × T, (Prod.map id movedFrom x).2 = movedFrom x.2 := fun _ => rfl
    have hpop := CircularBuffer.pop_map Prod.snd hmoved h.buffer
    refine ⟨congrArg Prod.snd hpop, ?_, List.append_nil _⟩
    simp only [CircularBuffer.call, hpop, History.call, QueueAnswer.item, List.map_append]
    congr 1
    cases (h.buffer.pop (Prod.map id movedFrom)).1 <;> rfl

/-- Erasing the numbers gives the run of the code on the items themselves. -/
theorem history_erase {T : Type u} {w BufferSize : Nat} (movedFrom : T → T) (calls : List (BufferCall T)) :
    let h := history w BufferSize movedFrom calls
    let run := respond (CircularBuffer.call movedFrom) (CircularBuffer.fresh : CircularBuffer T w BufferSize) calls
    run.2 = h.buffer.map Prod.snd ∧ run.1.filterMap QueueAnswer.item = h.popped.map Prod.snd ∧
      calls.filterMap BufferCall.item = h.given := by
  induction calls using List.reverseRecOn with
  | nil => exact ⟨(CircularBuffer.map_fresh Prod.snd).symm, rfl, rfl⟩
  | append_singleton calls c ih =>
    obtain ⟨hbuf, hpop, hgiven⟩ := ih
    obtain ⟨hbuf', hpop', hgiven'⟩ := (history w BufferSize movedFrom calls).call_erase movedFrom c
    simp only [respond_append, respond_cons, respond_nil, List.filterMap_append, hpop, hgiven, hbuf, history_concat,
      ← hbuf', ← hpop', ← hgiven']
    exact ⟨trivial, rfl, rfl⟩

/-- A push call of the run is a push of its queue operations. -/
theorem push_prefix_iff {T : Type u} {calls : List (BufferCall T)} {P : List (QueueOp T) → Prop} :
    (∃ pre x, pre ++ [.push x] <+: calls.map BufferCall.queueOp ∧ P pre) ↔
      ∃ pre c, pre ++ [c] <+: calls ∧ c.item.isSome ∧ P (pre.map BufferCall.queueOp) := by
  constructor
  · rintro ⟨pre, x, ⟨post, hpost⟩, hP⟩
    obtain ⟨front, back, rfl, hfront, -⟩ := List.map_eq_append_iff.mp hpost.symm
    obtain ⟨pre', last, rfl, rfl, hlast⟩ := List.map_eq_append_iff.mp hfront
    obtain ⟨c, rest, rfl, hc, hrest⟩ := List.map_eq_cons_iff.mp hlast
    rw [List.map_eq_nil_iff.mp hrest]
    refine ⟨pre', c, List.prefix_append _ _, ?_, hP⟩
    cases c with
    | pushCopy item => rfl
    | pushMove item => rfl
    | pop => cases hc
  · rintro ⟨pre, c, hpre, hc, hP⟩
    have hmap := hpre.map BufferCall.queueOp
    rw [List.map_append, List.map_singleton] at hmap
    cases c with
    | pushCopy item => exact ⟨_, item, hmap, hP⟩
    | pushMove item => exact ⟨_, item, hmap, hP⟩
    | pop => cases hc

/-- Which items a run overwrites, and by which push calls. -/
theorem mem_overwritten_iff {T : Type u} {w BufferSize : Nat} (hN : 1 ≤ BufferSize) (hw : BufferSize + 1 < 2 ^ w)
    (movedFrom : T → T) (calls : List (BufferCall T)) (k p : Nat) :
    (k, p) ∈ (history w BufferSize movedFrom calls).overwritten ↔ p = k + BufferSize ∧
      ∃ pre c, pre ++ [c] <+: calls ∧ c.item.isSome ∧ (history w BufferSize movedFrom pre).given.length = p ∧
        k ∉ (history w BufferSize movedFrom pre).poppedNumbers := by
  have hpre : ∀ pre : List (BufferCall T),
      ((Ledger.run (pre.map BufferCall.queueOp) : Ledger T BufferSize).given.length = p ∧ p = k + BufferSize ∧
        k ∉ (Ledger.run (pre.map BufferCall.queueOp) : Ledger T BufferSize).popped.map Prod.fst) ↔
      (p = k + BufferSize ∧ (history w BufferSize movedFrom pre).given.length = p ∧
        k ∉ (history w BufferSize movedFrom pre).poppedNumbers) := by
    intro pre
    have hf := history_follows (w := w) hN hw movedFrom pre
    rw [hf.given_eq, History.poppedNumbers, hf.popped_eq]
    tauto
  rw [(history_follows hN hw movedFrom calls).overwritten_eq, Ledger.overwritten_run_iff hN,
    push_prefix_iff (P := fun pre => (Ledger.run pre : Ledger T BufferSize).given.length = p ∧
      p = k + BufferSize ∧ k ∉ (Ledger.run pre : Ledger T BufferSize).popped.map Prod.fst)]
  constructor
  · rintro ⟨pre, c, hc, hpush, hrest⟩
    obtain ⟨hpk, hlen, hnot⟩ := (hpre pre).mp hrest
    exact ⟨hpk, pre, c, hc, hpush, hlen, hnot⟩
  · rintro ⟨hpk, pre, c, hc, hpush, hlen, hnot⟩
    exact ⟨pre, c, hc, hpush, (hpre pre).mpr ⟨hpk, hlen, hnot⟩⟩

/-- **Loss law.** For every run of calls on a fresh buffer: the successful pops return items of strictly increasing
push numbers; each pushed item is in exactly one of the classes popped, overwritten, held, and the classes add up;
item `k` is overwritten exactly by push number `k + BufferSize`, and only if it is executed while item `k` has not
been popped. -/
theorem loss_law {T : Type u} {w BufferSize : Nat} (hN : 1 ≤ BufferSize) (hw : BufferSize + 1 < 2 ^ w)
    (movedFrom : T → T) (calls : List (BufferCall T)) :
    let h := history w BufferSize movedFrom calls
    let run := respond (CircularBuffer.call movedFrom) (CircularBuffer.fresh : CircularBuffer T w BufferSize) calls
    (run.2 = h.buffer.map Prod.snd ∧ run.1.filterMap QueueAnswer.item = h.popped.map Prod.snd ∧
      calls.filterMap BufferCall.item = h.given) ∧
    h.poppedNumbers.Pairwise (· < ·) ∧
    (∀ p ∈ h.popped ++ h.buffer.contents, h.given[p.1]? = some p.2) ∧
    (∀ k < h.given.length,
      (k ∈ h.poppedNumbers ∧ k ∉ h.overwrittenNumbers ∧ k ∉ h.heldNumbers) ∨
      (k ∉ h.poppedNumbers ∧ k ∈ h.overwrittenNumbers ∧ k ∉ h.heldNumbers) ∨
      (k ∉ h.poppedNumbers ∧ k ∉ h.overwrittenNumbers ∧ k ∈ h.heldNumbers)) ∧
    h.given.length = h.popped.length + h.overwritten.length + run.2.size.toNat ∧
    ∀ k p, (k, p) ∈ h.overwritten ↔ p = k + BufferSize ∧
      ∃ pre c, pre ++ [c] <+: calls ∧ c.item.isSome ∧ (history w BufferSize movedFrom pre).given.length = p ∧
        k ∉ (history w BufferSize movedFrom pre).poppedNumbers := by
  intro h run
  have hf : h.Follows (Ledger.run (calls.map BufferCall.queueOp)) := history_follows hN hw movedFrom calls
  obtain ⟨lo, hval⟩ := Ledger.valid_run (α := T) hN (calls.map BufferCall.queueOp)
  have herase := @history_erase T w BufferSize movedFrom calls
  have hsize : run.2.size.toNat =
      (Ledger.run (calls.map BufferCall.queueOp) : Ledger T BufferSize).held.items.length := by
    rw [herase.1]
    exact hf.buffer_rep.size_eq
  refine ⟨herase, ?_, ?_, ?_, ?_, ?_⟩
  · rw [History.poppedNumbers, hf.popped_eq]
    exact hval.popped_lt
  · rw [hf.popped_eq, hf.buffer_rep.contents_eq, hf.given_eq]
    exact fun p hp => hval.given_of_mem hp
  · rw [History.poppedNumbers, History.overwrittenNumbers, History.heldNumbers, hf.given_eq, hf.popped_eq,
      hf.overwritten_eq, hf.buffer_rep.contents_eq]
    exact fun k hk => hval.one_class hk
  · rw [hf.given_eq, hf.popped_eq, hf.overwritten_eq, hsize]
    exact hval.length_given
  · exact mem_overwritten_iff hN hw movedFrom calls

/-- Four pushes and a pop in a buffer of two: item 0 is popped, item 1 is overwritten by push 3. -/
theorem loss_law_two_slots :
    let calls : List (BufferCall Nat) := [.pushCopy 10, .pushCopy 11, .pop, .pushMove 12, .pushCopy 13]
    let h := history 32 2 id calls
    h.poppedNumbers = [0] ∧ h.heldNumbers = [2, 3] ∧ (1, 3) ∈ h.overwritten := by
  intro calls h
  have hlaw := @loss_law Nat 32 2 (by decide) (by decide) id calls
  refine ⟨by decide, by decide, (hlaw.2.2.2.2.2 1 3).mpr ⟨rfl, calls.take 4, .pushCopy 13, ?_, rfl, ?_, ?_⟩⟩
  · exact List.prefix_refl _
  · decide
  · decide

end MultisensorStation.Patterns
