import MultisensorStation.Base.Runs
import Mathlib.Data.List.DropRight
import Mathlib.Data.List.Perm.Lattice

/-!
# Bounded queues that drop their oldest item

* `BoundedQueue α N` : at most `N` items, oldest first; `push` keeps the last `N` items, `pop` takes the head;
* `queueStep` : the queue as a machine that answers every call;
* `Ledger α N` : the queue together with its history. Push calls are numbered `0, 1, 2, ...` and every item carries
  its number, so that the ledger can say which items were popped, which were overwritten (and by which push) and
  which are held;
* `Ledger.Valid` : the held items are a contiguous window of the numbers, and everything older is either popped
  or overwritten; `Ledger.valid_run` : it holds after every run;
* `Ledger.overwritten_run_iff` : item `k` is overwritten exactly by push `k + N`, and only while not popped.
-/

namespace MultisensorStation.Base

universe u

/-- At most `N` items, oldest first. -/
structure BoundedQueue (α : Type u) (N : Nat) where
  items : List α
  length_le : items.length ≤ N

namespace BoundedQueue

variable {α : Type u} {N : Nat}

theorem length_rtake_le (l : List α) (N : Nat) : (l.rtake N).length ≤ N := by
  rw [List.rtake, List.length_drop]
  omega

theorem length_rtake (l : List α) (N : Nat) : (l.rtake N).length = min N l.length := by
  rw [List.rtake, List.length_drop]
  omega

theorem rtake_of_length_le {l : List α} {N : Nat} (h : l.length ≤ N) : l.rtake N = l := by
  rw [List.rtake, Nat.sub_eq_zero_of_le h, List.drop_zero]

theorem map_rtake {β : Type*} (f : α → β) (l : List α) (N : Nat) : (l.rtake N).map f = (l.map f).rtake N := by
  rw [List.rtake, List.rtake, List.map_drop, List.length_map]

/-- An item stays among the last ones until enough others came after it. -/
theorem rtake_append_cons (before after : List α) (x : α) {N : Nat} (h : after.length < N) :
    (before ++ x :: after).rtake N = before.rtake (N - 1 - after.length) ++ x :: after := by
  have hdrop : (before ++ x :: after).length - N = before.length - (N - 1 - after.length) := by
    rw [List.length_append, List.length_cons]
    omega
  rw [List.rtake, hdrop, List.drop_append_of_le_length (Nat.sub_le _ _), List.rtake]

def empty (α : Type u) (N : Nat) : BoundedQueue α N := ⟨[], Nat.zero_le N⟩

/-- Append `x` and keep the last `N` items. -/
def push (q : BoundedQueue α N) (x : α) : BoundedQueue α N := ⟨(q.items ++ [x]).rtake N, length_rtake_le _ _⟩

/-- The head, if there is one, and the rest. -/
def pop (q : BoundedQueue α N) : Option α × BoundedQueue α N :=
  (q.items.head?, ⟨q.items.tail, by have := q.length_le; rw [List.length_tail]; omega⟩)

@[simp] theorem items_empty : (empty α N).items = [] := rfl
theorem items_push (q : BoundedQueue α N) (x : α) : (q.push x).items = (q.items ++ [x]).rtake N := rfl
@[simp] theorem pop_fst (q : BoundedQueue α N) : q.pop.1 = q.items.head? := rfl
@[simp] theorem items_pop (q : BoundedQueue α N) : q.pop.2.items = q.items.tail := rfl

theorem ext_items {q r : BoundedQueue α N} (h : q.items = r.items) : q = r := by
  cases q
  cases r
  exact (mk.injEq ..).mpr h

theorem items_push_of_lt {q : BoundedQueue α N} (h : q.items.length < N) (x : α) :
    (q.push x).items = q.items ++ [x] := by
  rw [items_push, List.rtake, List.length_append, List.length_singleton,
    Nat.sub_eq_zero_of_le (by omega), List.drop_zero]

theorem items_push_of_full {q : BoundedQueue α N} (hN : 1 ≤ N) (h : q.items.length = N) (x : α) :
    (q.push x).items = q.items.tail ++ [x] := by
  rw [items_push, List.rtake, List.length_append, List.length_singleton, show q.items.length + 1 - N = 1 by omega,
    List.drop_append_of_le_length (by omega), List.drop_one]

theorem rtake_concat_rtake (l : List α) (x : α) (N : Nat) : (l.rtake N ++ [x]).rtake N = (l ++ [x]).rtake N := by
  unfold List.rtake
  rw [← List.drop_append_of_le_length (Nat.sub_le _ _), List.drop_drop]
  congr 1
  simp only [List.length_drop, List.length_append, List.length_singleton]
  omega

/-- A queue that is only pushed to holds the last `N` items. -/
theorem items_foldl_push (xs : List α) : (xs.foldl push (empty α N)).items = xs.rtake N := by
  induction xs using List.reverseRecOn with
  | nil => simp [List.rtake]
  | append_singleton xs x ih =>
    rw [List.foldl_append, List.foldl_cons, List.foldl_nil, items_push, ih, rtake_concat_rtake]

end BoundedQueue

/-- A call on a queue. -/
inductive QueueOp (α : Type u) where
  | push (x : α)
  | pop
  deriving DecidableEq

/-- The answer to a call on a queue. -/
inductive QueueAnswer (α : Type u) where
  | pushed (ok : Bool)
  | popped (item : Option α)
  deriving DecidableEq

/-- The item an answer delivers. -/
def QueueAnswer.item {α : Type u} : QueueAnswer α → Option α
  | .pushed _ => none
  | .popped item => item

/-- The queue as a machine: every push is accepted, a pop answers the head. -/
def queueStep {α : Type u} {N : Nat} (q : BoundedQueue α N) : QueueOp α → QueueAnswer α × BoundedQueue α N
  | .push x => (.pushed true, q.push x)
  | .pop => (.popped q.pop.1, q.pop.2)

/-! ## The queue with its history -/

/-- A queue whose items carry the number of the push that brought them, with the fate of those that left. -/
structure Ledger (α : Type u) (N : Nat) where
  /-- the pushed items, so that push number `k` is the `k`-th of them -/
  given : List α
  held : BoundedQueue (Nat × α) N
  /-- what the successful pops returned, oldest first -/
  popped : List (Nat × α)
  /-- number of the lost item, number of the push that overwrote it -/
  overwritten : List (Nat × Nat)

namespace Ledger

variable {α : Type u} {N : Nat}

def empty (α : Type u) (N : Nat) : Ledger α N := ⟨[], .empty _ N, [], []⟩

/-- A push into a full queue overwrites the head; a pop moves the head to `popped`. -/
def step (L : Ledger α N) : QueueOp α → Ledger α N
  | .push x =>
    { given := L.given ++ [x]
      held := L.held.push (L.given.length, x)
      popped := L.popped
      overwritten := L.overwritten ++
        if L.held.items.length = N then L.held.items.head?.toList.map (fun p => (p.1, L.given.length)) else [] }
  | .pop => { L with held := L.held.pop.2, popped := L.popped ++ L.held.items.head?.toList }

def run (ops : List (QueueOp α)) : Ledger α N := ops.foldl step (empty α N)

@[simp] theorem run_nil : run ([] : List (QueueOp α)) = empty α N := rfl

theorem run_concat (ops : List (QueueOp α)) (op : QueueOp α) :
    (run (ops ++ [op]) : Ledger α N) = (run ops).step op := by
  rw [run, run, List.foldl_append]
  rfl

/-- The items with their numbers. -/
def numbered (l : List α) : List (Nat × α) := l.mapIdx Prod.mk

@[simp] theorem length_numbered (l : List α) : (numbered l).length = l.length := List.length_mapIdx

theorem numbered_concat (l : List α) (x : α) : numbered (l ++ [x]) = numbered l ++ [(l.length, x)] := by
  simp [numbered, List.mapIdx_append]

theorem getElem_numbered (l : List α) (k : Nat) (h : k < (numbered l).length) :
    (numbered l)[k] = (k, l.get ⟨k, length_numbered l ▸ h⟩) := by
  simp [numbered]

theorem mem_numbered {l : List α} {p : Nat × α} (h : p ∈ numbered l) : l[p.1]? = some p.2 := by
  obtain ⟨k, hk, rfl⟩ := List.mem_iff_getElem.mp h
  rw [getElem_numbered]
  simp

/-- The numbers from `lo` on are held; the ones below are popped or overwritten, each once. -/
structure Valid (L : Ledger α N) (lo : Nat) : Prop where
  lo_le : lo ≤ L.given.length
  held_eq : L.held.items = (numbered L.given).drop lo
  gone : (L.popped.map Prod.fst ++ L.overwritten.map Prod.fst).Perm (List.range lo)
  popped_lt : (L.popped.map Prod.fst).Pairwise (· < ·)
  overwritten_lt : (L.overwritten.map Prod.fst).Pairwise (· < ·)
  popped_given : ∀ p ∈ L.popped, L.given[p.1]? = some p.2
  overwritten_by : ∀ e ∈ L.overwritten, e.2 = e.1 + N

theorem valid_empty : (empty α N).Valid 0 where
  lo_le := Nat.zero_le _
  held_eq := rfl
  gone := List.Perm.refl _
  popped_lt := List.Pairwise.nil
  overwritten_lt := List.Pairwise.nil
  popped_given := fun _ hp => absurd hp List.not_mem_nil
  overwritten_by := fun _ he => absurd he List.not_mem_nil

namespace Valid

variable {L : Ledger α N} {lo : Nat}

theorem length_held (h : L.Valid lo) : L.held.items.length = L.given.length - lo := by
  rw [h.held_eq, List.length_drop, length_numbered]

theorem gone_iff (h : L.Valid lo) (k : Nat) :
    k < lo ↔ k ∈ L.popped.map Prod.fst ∨ k ∈ L.overwritten.map Prod.fst := by
  rw [← List.mem_append, h.gone.mem_iff, List.mem_range]

theorem popped_lt_lo (h : L.Valid lo) {k : Nat} (hk : k ∈ L.popped.map Prod.fst) : k < lo :=
  (h.gone_iff k).mpr (.inl hk)

theorem overwritten_lt_lo (h : L.Valid lo) {k : Nat} (hk : k ∈ L.overwritten.map Prod.fst) : k < lo :=
  (h.gone_iff k).mpr (.inr hk)

theorem length_gone (h : L.Valid lo) : L.popped.length + L.overwritten.length = lo := by
  have := h.gone.length_eq
  simpa using this

theorem held_iff (h : L.Valid lo) (k : Nat) :
    k ∈ L.held.items.map Prod.fst ↔ lo ≤ k ∧ k < L.given.length := by
  rw [h.held_eq, List.mem_map]
  constructor
  · rintro ⟨p, hp, rfl⟩
    obtain ⟨i, hi, rfl⟩ := List.mem_iff_getElem.mp hp
    rw [List.getElem_drop, getElem_numbered]
    rw [List.length_drop, length_numbered] at hi
    exact ⟨by simp, by simp; omega⟩
  · rintro ⟨hlo, hk⟩
    refine ⟨(k, L.given[k]), ?_, rfl⟩
    rw [List.mem_iff_getElem]
    refine ⟨k - lo, by rw [List.length_drop, length_numbered]; omega, ?_⟩
    rw [List.getElem_drop, getElem_numbered]
    simp [Nat.add_sub_cancel' hlo]

/-- A number that was given out is in exactly one of the three classes. -/
theorem one_class (h : L.Valid lo) {k : Nat} (hk : k < L.given.length) :
    (k ∈ L.popped.map Prod.fst ∧ k ∉ L.overwritten.map Prod.fst ∧ k ∉ L.held.items.map Prod.fst) ∨
    (k ∉ L.popped.map Prod.fst ∧ k ∈ L.overwritten.map Prod.fst ∧ k ∉ L.held.items.map Prod.fst) ∨
    (k ∉ L.popped.map Prod.fst ∧ k ∉ L.overwritten.map Prod.fst ∧ k ∈ L.held.items.map Prod.fst) := by
  have hdisj := (List.nodup_append.mp (h.gone.nodup_iff.mpr List.nodup_range)).2.2
  rw [h.held_iff]
  by_cases hlo : k < lo
  · rcases (h.gone_iff k).mp hlo with hp | ho
    · exact Or.inl ⟨hp, fun ho => hdisj k hp k ho rfl, by omega⟩
    · exact Or.inr (Or.inl ⟨fun hp => hdisj k hp k ho rfl, ho, by omega⟩)
  · have hgone := (h.gone_iff k).not.mp hlo
    rw [not_or] at hgone
    exact Or.inr (Or.inr ⟨hgone.1, hgone.2, by omega, hk⟩)

/-- The classes add up to the pushes. -/
theorem length_given (h : L.Valid lo) :
    L.given.length = L.popped.length + L.overwritten.length + L.held.items.length := by
  have := h.lo_le
  rw [h.length_gone, h.length_held]
  omega

/-- Nothing is popped or held that was not pushed under its number. -/
theorem given_of_mem (h : L.Valid lo) {p : Nat × α} (hp : p ∈ L.popped ++ L.held.items) :
    L.given[p.1]? = some p.2 := by
  rcases List.mem_append.mp hp with hp | hp
  · exact h.popped_given p hp
  · rw [h.held_eq] at hp
    exact mem_numbered (List.mem_of_mem_drop hp)

/-- The head of a nonempty queue has the lowest number that is still held. -/
theorem head_held (h : L.Valid lo) (hlo : lo < L.given.length) :
    L.held.items.head? = some (lo, L.given[lo]) := by
  rw [h.held_eq, List.head?_drop, List.getElem?_eq_getElem (by simpa using hlo), getElem_numbered,
    List.get_eq_getElem]

theorem tail_held (h : L.Valid lo) : L.held.items.tail = (numbered L.given).drop (lo + 1) := by
  rw [h.held_eq, List.tail_drop]

theorem gone_concat {l m : List Nat} (h : (l ++ m).Perm (List.range lo)) :
    (l ++ [lo] ++ m).Perm (List.range (lo + 1)) ∧ (l ++ (m ++ [lo])).Perm (List.range (lo + 1)) := by
  rw [List.range_succ]
  constructor
  · rw [List.append_assoc]
    have hswap : (l ++ ([lo] ++ m)).Perm (l ++ (m ++ [lo])) := List.perm_append_comm.append_left l
    rw [← List.append_assoc l m] at hswap
    exact hswap.trans (h.append_right [lo])
  · rw [← List.append_assoc]
    exact h.append_right [lo]

theorem pairwise_concat {l : List Nat} (h : l.Pairwise (· < ·)) (hlo : ∀ k ∈ l, k < lo) :
    (l ++ [lo]).Pairwise (· < ·) := by
  rw [List.pairwise_append]
  exact ⟨h, List.pairwise_singleton _ _, fun a ha b hb => by rw [List.mem_singleton.mp hb]; exact hlo a ha⟩

theorem popped_given_concat (h : L.Valid lo) (x : α) : ∀ p ∈ L.popped, (L.given ++ [x])[p.1]? = some p.2 := by
  intro p hp
  have hlt : p.1 < L.given.length := lt_of_lt_of_le (h.popped_lt_lo (List.mem_map_of_mem hp)) h.lo_le
  rw [List.getElem?_append_left hlt]
  exact h.popped_given p hp

/-- A push while there is room. -/
theorem push_of_lt (h : L.Valid lo) (hlt : L.held.items.length < N) (x : α) : (L.step (.push x)).Valid lo where
  lo_le := by have := h.lo_le; simp only [step, List.length_append]; omega
  held_eq := by
    simp only [step]
    rw [BoundedQueue.items_push_of_lt hlt, h.held_eq, numbered_concat,
      List.drop_append_of_le_length (by simpa using h.lo_le)]
  gone := by simpa only [step, if_neg (Nat.ne_of_lt hlt), List.append_nil] using h.gone
  popped_lt := h.popped_lt
  overwritten_lt := by simpa only [step, if_neg (Nat.ne_of_lt hlt), List.append_nil] using h.overwritten_lt
  popped_given := h.popped_given_concat x
  overwritten_by := by simpa only [step, if_neg (Nat.ne_of_lt hlt), List.append_nil] using h.overwritten_by

theorem overwritten_push_of_full (h : L.Valid lo) (hN : 1 ≤ N) (hfull : L.held.items.length = N) (x : α) :
    (L.step (.push x)).overwritten = L.overwritten ++ [(lo, L.given.length)] := by
  have hlen := h.length_held
  simp only [step, if_pos hfull, h.head_held (by omega), Option.toList_some, List.map_cons, List.map_nil]

/-- A push into a full queue loses the oldest held item, whose number is `N` below the push's own. -/
theorem push_of_full (h : L.Valid lo) (hN : 1 ≤ N) (hfull : L.held.items.length = N) (x : α) :
    (L.step (.push x)).Valid (lo + 1) := by
  have hlen := h.length_held
  have how := h.overwritten_push_of_full hN hfull x
  refine ⟨?_, ?_, ?_, h.popped_lt, ?_, h.popped_given_concat x, ?_⟩
  · simp only [step, List.length_append]
    omega
  · simp only [step]
    rw [BoundedQueue.items_push_of_full hN hfull, h.tail_held, numbered_concat,
      List.drop_append_of_le_length (by rw [length_numbered]; omega)]
  · rw [how, List.map_append]
    exact (gone_concat h.gone).2
  · rw [how, List.map_append]
    exact pairwise_concat h.overwritten_lt fun k hk => h.overwritten_lt_lo hk
  · intro e he
    rw [how, List.mem_append, List.mem_singleton] at he
    rcases he with he | rfl
    · exact h.overwritten_by e he
    · simp only
      omega

/-- A pop of an empty queue changes nothing. -/
theorem pop_of_empty (h : L.Valid lo) (hlo : lo = L.given.length) : (L.step .pop).Valid lo := by
  have hnil : L.held.items = [] := List.eq_nil_of_length_eq_zero (by rw [h.length_held]; omega)
  have hstep : L.step .pop = L := by
    have hq : L.held.pop.2 = L.held := BoundedQueue.ext_items (by rw [BoundedQueue.items_pop, hnil]; rfl)
    rw [step, hq, hnil, List.head?_nil, Option.toList_none, List.append_nil]
  rw [hstep]
  exact h

/-- A pop of a nonempty queue takes the oldest held item. -/
theorem pop_of_lt (h : L.Valid lo) (hlo : lo < L.given.length) : (L.step .pop).Valid (lo + 1) := by
  have hpop : (L.step .pop).popped = L.popped ++ [(lo, L.given[lo])] := by
    rw [step, h.head_held hlo]
    rfl
  refine ⟨hlo, h.tail_held, ?_, ?_, h.overwritten_lt, ?_, h.overwritten_by⟩
  · rw [hpop, List.map_append]
    exact (gone_concat h.gone).1
  · rw [hpop, List.map_append]
    exact pairwise_concat h.popped_lt fun k hk => h.popped_lt_lo hk
  · intro p hp
    rw [hpop, List.mem_append, List.mem_singleton] at hp
    rcases hp with hp | rfl
    · exact h.popped_given p hp
    · exact List.getElem?_eq_getElem hlo

theorem step (h : L.Valid lo) (hN : 1 ≤ N) (op : QueueOp α) : ∃ lo', (L.step op).Valid lo' := by
  cases op with
  | push x =>
    rcases Nat.lt_or_eq_of_le L.held.length_le with hlt | hfull
    · exact ⟨lo, h.push_of_lt hlt x⟩
    · exact ⟨lo + 1, h.push_of_full hN hfull x⟩
  | pop =>
    rcases Nat.lt_or_eq_of_le h.lo_le with hlo | hlo
    · exact ⟨lo + 1, h.pop_of_lt hlo⟩
    · exact ⟨lo, h.pop_of_empty hlo⟩

end Valid

/-- **The ledger of every run is valid.** -/
theorem valid_run (hN : 1 ≤ N) (ops : List (QueueOp α)) : ∃ lo, (run ops : Ledger α N).Valid lo := by
  induction ops using List.reverseRecOn with
  | nil => exact ⟨0, valid_empty⟩
  | append_singleton ops op ih =>
    obtain ⟨lo, h⟩ := ih
    rw [run_concat]
    exact h.step hN op

/-- An entry of `overwritten` that a step adds is `N` below the number of that step's push. -/
theorem overwritten_step_iff {L : Ledger α N} {lo : Nat} (h : L.Valid lo) (hN : 1 ≤ N) (op : QueueOp α)
    (k p : Nat) : (k, p) ∈ (L.step op).overwritten ↔ (k, p) ∈ L.overwritten ∨
      (∃ x, op = .push x) ∧ L.given.length = p ∧ p = k + N ∧ k ∉ L.popped.map Prod.fst := by
  have hlen := h.length_held
  have hle := L.held.length_le
  cases op with
  | pop => simp [step]
  | push x =>
    rcases Nat.lt_or_eq_of_le hle with hlt | hfull
    · have how : (L.step (.push x)).overwritten = L.overwritten := by
        simp only [step, if_neg (Nat.ne_of_lt hlt), List.append_nil]
      rw [how]
      refine ⟨Or.inl, ?_⟩
      rintro (hmem | ⟨-, hp, hpk, hk⟩)
      · exact hmem
      · -- with room left, the item `N` below the push has already gone
        have hklo : k < lo := by have := h.lo_le; omega
        rcases (h.gone_iff k).mp hklo with hpop | how'
        · exact absurd hpop hk
        · obtain ⟨e, he, rfl⟩ := List.mem_map.mp how'
          rwa [show p = e.2 by rw [h.overwritten_by e he, hpk]]
    · rw [h.overwritten_push_of_full hN hfull, List.mem_append, List.mem_singleton, Prod.mk.injEq]
      constructor
      · rintro (hmem | ⟨rfl, rfl⟩)
        · exact Or.inl hmem
        · exact Or.inr ⟨⟨x, rfl⟩, rfl, by omega, fun hk => Nat.lt_irrefl _ (h.popped_lt_lo hk)⟩
      · rintro (hmem | ⟨-, rfl, hpk, -⟩)
        · exact Or.inl hmem
        · exact Or.inr ⟨by omega, rfl⟩

/-- **Loss law.** Item `k` is overwritten by push `p` exactly when `p = k + N` and that push is executed while item
`k` has not been popped. -/
theorem overwritten_run_iff (hN : 1 ≤ N) (ops : List (QueueOp α)) (k p : Nat) :
    (k, p) ∈ (run ops : Ledger α N).overwritten ↔ ∃ pre x, pre ++ [.push x] <+: ops ∧
      (run pre : Ledger α N).given.length = p ∧ p = k + N ∧ k ∉ (run pre : Ledger α N).popped.map Prod.fst := by
  induction ops using List.reverseRecOn with
  | nil => simp [empty]
  | append_singleton ops op ih =>
    obtain ⟨lo, h⟩ := valid_run (α := α) hN ops
    rw [run_concat, overwritten_step_iff h hN, ih]
    constructor
    · rintro (⟨pre, x, hpre, hrest⟩ | ⟨⟨x, rfl⟩, hrest⟩)
      · exact ⟨pre, x, hpre.trans (List.prefix_append _ _), hrest⟩
      · exact ⟨ops, x, List.prefix_refl _, hrest⟩
    · rintro ⟨pre, x, hpre, hrest⟩
      rcases List.prefix_concat_iff.mp hpre with heq | hpre
      · obtain ⟨rfl, hop⟩ := List.append_inj' heq rfl
        exact Or.inr ⟨⟨x, (List.singleton_inj.mp hop).symm⟩, hrest⟩
      · exact Or.inl ⟨pre, x, hpre, hrest⟩

end Ledger

end MultisensorStation.Base
