import Mathlib.Data.List.Basic
import Mathlib.Data.List.Induction
import Mathlib.Data.Nat.ModEq
import Mathlib.Logic.Function.Basic

/-!
# Windows on a ring of slots

A ring of `M` slots is read through a function `cells : Nat → Option α`, and `Window cells M t q` says that the
slots `t, t + 1, ...` (modulo `M`) hold the list `q`. Writing the first free slot appends to the list
(`Window.push`), advancing the start drops its head (`Window.tail`), and a slot outside the window does not matter
(`Window.update_outside`). `windowItems` reads a window back (`Window.items_eq`).
-/

namespace MultisensorStation.Base

variable {α : Type*}

/-- The slots from `t` on hold `q`. -/
def Window (cells : Nat → Option α) (M t : Nat) (q : List α) : Prop :=
  ∀ i (h : i < q.length), cells ((t + i) % M) = some q[i]

/-- The items found in the `n` slots from `t` on. -/
def windowItems (cells : Nat → Option α) (M t n : Nat) : List α :=
  (List.range n).filterMap (fun i => cells ((t + i) % M))

/-- Reading all indices gives the list back. -/
theorem filterMap_getElem?_range (l : List α) : (List.range l.length).filterMap (fun i => l[i]?) = l := by
  induction l with
  | nil => rfl
  | cons a l ih =>
    rw [List.length_cons, List.range_succ_eq_map, List.filterMap_cons, List.filterMap_map]
    exact congrArg (a :: ·) ih

/-- Offsets below one revolution reach distinct slots. -/
theorem ring_slot_inj {M t i j : Nat} (hi : i < M) (hj : j < M) (h : (t + i) % M = (t + j) % M) : i = j := by
  have hij : i ≡ j [MOD M] := Nat.ModEq.add_left_cancel' t h
  rwa [Nat.ModEq, Nat.mod_eq_of_lt hi, Nat.mod_eq_of_lt hj] at hij

theorem ring_slot_succ (M t i : Nat) : ((t + 1) % M + i) % M = (t + (i + 1)) % M := by
  rw [Nat.mod_add_mod, Nat.add_assoc, Nat.add_comm 1 i]

theorem ring_slot_next (M t i : Nat) : ((t + i) % M + 1) % M = (t + (i + 1)) % M := by
  rw [Nat.mod_add_mod, Nat.add_assoc]

/-- The ring is full or the slot after the window is not its first one. -/
theorem ring_slot_eq_start {M t n : Nat} (ht : t < M) (hn : n < M) : (t + n) % M = t ↔ n = 0 := by
  constructor
  · intro h
    have h0 : (t + n) % M = (t + 0) % M := by rw [h, Nat.add_zero, Nat.mod_eq_of_lt ht]
    exact ring_slot_inj hn (by omega) h0
  · rintro rfl
    rw [Nat.add_zero, Nat.mod_eq_of_lt ht]

namespace Window

variable {cells : Nat → Option α} {M t : Nat} {q : List α}

theorem nil (cells : Nat → Option α) (M t : Nat) : Window cells M t [] := fun i h => by simp at h

theorem head {x : α} (h : Window cells M t (x :: q)) : cells (t % M) = some x := by
  have h0 := h 0 (Nat.succ_pos _)
  rwa [Nat.add_zero, List.getElem_cons_zero] at h0

/-- Advancing the start drops the head. -/
theorem tail {x : α} (h : Window cells M t (x :: q)) : Window cells M ((t + 1) % M) q := by
  intro i hi
  rw [ring_slot_succ]
  have hs := h (i + 1) (Nat.succ_lt_succ hi)
  rwa [List.getElem_cons_succ] at hs

/-- Writing a slot behind the window leaves the window as it is. -/
theorem update_outside (h : Window cells M t q) {j : Nat} (hj : j < M) (hq : q.length ≤ j) (v : Option α) :
    Window (Function.update cells ((t + j) % M) v) M t q := by
  intro i hi
  have hne : (t + i) % M ≠ (t + j) % M := by
    intro he
    have := ring_slot_inj (by omega) hj he
    omega
  rw [Function.update_of_ne hne]
  exact h i hi

/-- Writing the first free slot appends. -/
theorem push (h : Window cells M t q) (hq : q.length < M) (x : α) :
    Window (Function.update cells ((t + q.length) % M) (some x)) M t (q ++ [x]) := by
  intro i hi
  rw [List.length_append, List.length_singleton] at hi
  by_cases hlt : i < q.length
  · rw [h.update_outside hq (Nat.le_refl _) _ i hlt, List.getElem_append_left hlt]
  · have hieq : i = q.length := by omega
    subst hieq
    rw [Function.update_self]
    simp

/-- A window determines its list. -/
theorem items_eq (h : Window cells M t q) : windowItems cells M t q.length = q := by
  have hcells : ∀ i ∈ List.range q.length, cells ((t + i) % M) = q[i]? := by
    intro i hi
    rw [List.mem_range] at hi
    rw [h i hi, List.getElem?_eq_getElem hi]
  rw [windowItems, List.filterMap_congr hcells, filterMap_getElem?_range]

end Window

end MultisensorStation.Base
