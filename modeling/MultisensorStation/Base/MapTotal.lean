import Mathlib.Algebra.BigOperators.Group.List.Basic
import Mathlib.Data.List.Induction

/-!
# Sums over ordered maps

* `figure f m k` : the figure `f` of the entry of `k`, 0 when there is none;
* `total f m` : the sum of the figures of all entries; `foldl_total` : a loop over the map that adds them up;
* `total_eq_sum_of_subset` : the same sum taken over the keys of a larger map;
* `total_sub` : what two totals differ by, when the second map has all keys of the first;
* `foldl_keeps_last`, `getLast?_toList` : a loop that keeps a figure of its last entry, which is that of the largest key.
-/

namespace MultisensorStation.Base

variable {κ β τ M : Type*} {cmp : κ → κ → Ordering}

section Loop
variable [AddCommMonoid M]

/-- A loop that adds `f e` to the measure `μ` of its state in each round. -/
theorem foldl_additive {μ : τ → M} {f : β → M} {step : τ → β → τ} (h : ∀ t e, μ (step t e) = μ t + f e) (es : List β) :
    ∀ t, μ (es.foldl step t) = μ t + (es.map f).sum := by
  induction es with
  | nil => exact fun t => (add_zero _).symm
  | cons e es ih =>
    intro t
    rw [List.foldl_cons, ih, h, List.map_cons, List.sum_cons, add_assoc]

/-- Summands that are 0 can be left out. -/
theorem sum_map_filter {f : κ → M} {p : κ → Bool} (ks : List κ) (h : ∀ k ∈ ks, p k = false → f k = 0) :
    ((ks.filter p).map f).sum = (ks.map f).sum := by
  induction ks with
  | nil => rfl
  | cons k ks ih =>
    have hrest := ih (fun j hj => h j (List.mem_cons_of_mem _ hj))
    rw [List.map_cons, List.sum_cons]
    cases hk : p k with
    | true => rw [List.filter_cons_of_pos hk, List.map_cons, List.sum_cons, hrest]
    | false => rw [List.filter_cons_of_neg (by simp [hk]), hrest, h k List.mem_cons_self hk, zero_add]

end Loop

section Total
variable [AddCommMonoid M]

def figure (f : β → M) (m : Std.TreeMap κ β cmp) (k : κ) : M := (m[k]?.map f).getD 0

def total (f : β → M) (m : Std.TreeMap κ β cmp) : M := (m.toList.map (fun e => f e.2)).sum

theorem figure_of_some {f : β → M} {m : Std.TreeMap κ β cmp} {k : κ} {v : β} (h : m[k]? = some v) :
    figure f m k = f v := by
  unfold figure
  rw [h]
  rfl

theorem figure_of_none {f : β → M} {m : Std.TreeMap κ β cmp} {k : κ} (h : m[k]? = none) : figure f m k = 0 := by
  unfold figure
  rw [h]
  rfl

/-- `for (const auto& [key, value] : m)` -/
theorem foldl_total {μ : τ → M} {f : β → M} {step : τ → β → τ} (h : ∀ t v, μ (step t v) = μ t + f v)
    (m : Std.TreeMap κ β cmp) (t : τ) : μ (m.foldl (fun t _ v => step t v) t) = μ t + total f m := by
  rw [Std.TreeMap.foldl_eq_foldl_toList]
  exact foldl_additive (f := fun e : κ × β => f e.2) (fun t e => h t e.2) m.toList t

variable [Std.TransCmp cmp] [Std.LawfulEqCmp cmp]

theorem total_eq_sum_keys (f : β → M) (m : Std.TreeMap κ β cmp) : total f m = (m.keys.map (figure f m)).sum := by
  have hentry : ∀ e ∈ m.toList, f e.2 = figure f m e.1 := fun e he =>
    (figure_of_some (Std.TreeMap.mem_toList_iff_getElem?_eq_some.mp he)).symm
  unfold total
  rw [← Std.TreeMap.map_fst_toList_eq_keys, List.map_map, List.map_congr_left hentry]
  rfl

/-- The keys that `m` lacks add nothing. -/
theorem total_eq_sum_of_subset (f : β → M) {m m' : Std.TreeMap κ β cmp} (hsub : ∀ k ∈ m, k ∈ m') :
    total f m = (m'.keys.map (figure f m)).sum := by
  have hkeys : (m'.keys.filter (fun k => k ∈ m)).Perm m.keys := by
    rw [List.perm_ext_iff_of_nodup (Std.TreeMap.nodup_keys.filter _) Std.TreeMap.nodup_keys]
    intro k
    rw [List.mem_filter, Std.TreeMap.mem_keys, Std.TreeMap.mem_keys, decide_eq_true_iff]
    exact ⟨fun h => h.2, fun h => ⟨hsub k h, h⟩⟩
  have hzero : ∀ k ∈ m'.keys, decide (k ∈ m) = false → figure f m k = 0 := by
    intro k _ hk
    apply figure_of_none
    rw [decide_eq_false_iff_not, Std.TreeMap.mem_iff_isSome_getElem?] at hk
    simpa using hk
  rw [total_eq_sum_keys, ← sum_map_filter m'.keys hzero]
  exact ((hkeys.map _).sum_eq).symm

end Total

/-- **Two totals differ by the sum of what the figures differ by.** -/
theorem total_sub [AddCommGroup M] [Std.TransCmp cmp] [Std.LawfulEqCmp cmp] (f : β → M)
    {m m' : Std.TreeMap κ β cmp} (hsub : ∀ k ∈ m, k ∈ m') :
    total f m' - total f m = (m'.keys.map (fun k => figure f m' k - figure f m k)).sum := by
  have hadd : (m'.keys.map (fun k => figure f m' k - figure f m k)).sum + (m'.keys.map (figure f m)).sum =
      (m'.keys.map (figure f m')).sum := by
    rw [← List.sum_map_add]
    simp only [sub_add_cancel]
  rw [total_eq_sum_keys f m', total_eq_sum_of_subset f hsub, ← hadd, add_sub_cancel_right]

/-- A loop that keeps `g e` of the last entry. -/
theorem foldl_keeps_last {μ : τ → M} {g : β → M} {step : τ → β → τ} (h : ∀ t v, μ (step t v) = g v)
    (m : Std.TreeMap κ β cmp) (t : τ) :
    μ (m.foldl (fun t _ v => step t v) t) = (m.toList.getLast?.map (fun e => g e.2)).getD (μ t) := by
  rw [Std.TreeMap.foldl_eq_foldl_toList]
  induction m.toList using List.reverseRecOn with
  | nil => rfl
  | append_singleton es e _ =>
    rw [List.foldl_append, List.getLast?_concat]
    exact h _ e.2

/-- The last entry of the loop is that of the largest key. -/
theorem getLast?_toList [Std.TransCmp cmp] [Std.LawfulEqCmp cmp] {m : Std.TreeMap κ β cmp} {k : κ} {v : β}
    (hv : m[k]? = some v) (hmax : ∀ j ∈ m, (cmp j k).isLE = true) : m.toList.getLast? = some (k, v) := by
  have hk : k ∈ m := by
    rw [Std.TreeMap.mem_iff_isSome_getElem?, hv]
    rfl
  have hlast : m.keys.getLast? = some k := by
    rw [← Std.TreeMap.maxKey?_eq_getLast?_keys, Std.TreeMap.maxKey?_eq_some_iff_mem_and_forall]
    exact ⟨hk, hmax⟩
  rw [← Std.TreeMap.map_fst_toList_eq_keys, List.getLast?_map, Option.map_eq_some_iff] at hlast
  obtain ⟨⟨j, w⟩, hj, rfl⟩ := hlast
  have hw := Std.TreeMap.mem_toList_iff_getElem?_eq_some.mp (List.mem_of_getLast? hj)
  rw [hj, Option.some.inj (hw.symm.trans hv)]

end MultisensorStation.Base
