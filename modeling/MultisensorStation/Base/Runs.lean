import Mathlib.Data.List.Induction
import Mathlib.Data.List.Infix

/-!
# Guarded step functions, responding machines and their runs

* `System` : a state, its initial value and a guarded step function; `System.exec` replays a list of labels and
  is `none` as soon as one of them is not enabled;
* `System.run_invariant` : what holds of the empty run and survives every step holds of every run; the invariant
  sees the whole history, so that counts over the history need no ghost fields in the state;
* `System.invariant_after` : the same from a state of the run on;
* `System.Meets` : every step of a run meets a condition on the state before it; `System.run_invariant_of_meets`;
  `System.meets_iff_forall_states` : when such a condition is exact for a property of the states;
* `System.withGhost` : a system that also folds its labels, with the same runs; `System.withCost` : one that folds them
  with the states that its steps start from, say what they cost there; `filterMap_concat` : what a history records;
  `exists_split_concat` : what was the case when a label came;
* `respond` : the run of a machine that answers every input; `respond_simulates` : two machines related by a
  simulation give the same answers.
-/

namespace MultisensorStation.Base

universe u v

/-- A guarded step function: `next s l` is `none` when the step labelled `l` is not enabled in `s`. -/
structure System (σ : Type u) (ℓ : Type v) where
  init : σ
  next : σ → ℓ → Option σ

namespace System

variable {σ : Type u} {ℓ : Type v} (M : System σ ℓ)

/-- The state reached by the labels `ls`, oldest first. -/
def exec (ls : List ℓ) : Option σ := ls.foldlM M.next M.init

@[simp] theorem exec_nil : M.exec [] = some M.init := rfl

theorem exec_append (pre post : List ℓ) :
    M.exec (pre ++ post) = (M.exec pre).bind (fun s => post.foldlM M.next s) := by
  rw [exec, exec, List.foldlM_append]
  rfl

theorem exec_concat (ls : List ℓ) (l : ℓ) : M.exec (ls ++ [l]) = (M.exec ls).bind (fun s => M.next s l) := by
  rw [exec_append]
  congr 1
  funext s
  simp

theorem exec_concat_eq_some {ls : List ℓ} {l : ℓ} {s' : σ} :
    M.exec (ls ++ [l]) = some s' ↔ ∃ s, M.exec ls = some s ∧ M.next s l = some s' := by
  rw [exec_concat, Option.bind_eq_some_iff]

/-- A prefix of a run is a run. -/
theorem exec_prefix {pre post : List ℓ} {s : σ} (h : M.exec (pre ++ post) = some s) :
    ∃ t, M.exec pre = some t := by
  rw [exec_append, Option.bind_eq_some_iff] at h
  obtain ⟨t, ht, -⟩ := h
  exact ⟨t, ht⟩

/-- Every step of the run `ls` meets `C`, a condition on the state before the step and its label. -/
def Meets (C : σ → ℓ → Prop) (ls : List ℓ) : Prop :=
  ∀ pre l, pre ++ [l] <+: ls → ∀ s, M.exec pre = some s → C s l

theorem meets_true (ls : List ℓ) : M.Meets (fun _ _ => True) ls := fun _ _ _ _ _ => trivial

theorem meets_nil (C : σ → ℓ → Prop) : M.Meets C [] := by
  intro pre l hp
  have hlen := hp.length_le
  simp at hlen

theorem meets_concat {C : σ → ℓ → Prop} {ls : List ℓ} {l : ℓ} (h : M.Meets C ls)
    (hl : ∀ s, M.exec ls = some s → C s l) : M.Meets C (ls ++ [l]) := by
  intro pre k hp s hs
  rcases List.prefix_concat_iff.mp hp with heq | hp'
  · obtain ⟨rfl, hk⟩ := List.append_inj' heq rfl
    rw [List.singleton_inj] at hk
    exact hk ▸ hl s hs
  · exact h pre k hp' s hs

/-- Labels that meet the condition in every state can be added at the end. -/
theorem meets_append {C : σ → ℓ → Prop} {ls ms : List ℓ} (h : M.Meets C ls) (hms : ∀ l ∈ ms, ∀ s, C s l) :
    M.Meets C (ls ++ ms) := by
  induction ms using List.reverseRecOn with
  | nil => rwa [List.append_nil]
  | append_singleton ms l ih =>
    rw [List.forall_mem_append, List.forall_mem_singleton] at hms
    rw [← List.append_assoc]
    exact M.meets_concat (ih hms.1) (fun s _ => hms.2 s)

/-- A condition that can be tested is tested step by step. -/
theorem meets_of_forall_take {C : σ → ℓ → Prop} {ls : List ℓ}
    (h : ∀ i < ls.length, ∀ s ∈ M.exec (ls.take i), ∀ l ∈ ls[i]?, C s l) : M.Meets C ls := by
  rintro pre l ⟨post, rfl⟩ s hs
  have htake : (pre ++ [l] ++ post).take pre.length = pre := by simp
  have hget : (pre ++ [l] ++ post)[pre.length]? = some l := by simp
  exact h pre.length (by simp) s (htake.symm ▸ hs) l hget

theorem Meets.of_prefix {M : System σ ℓ} {C : σ → ℓ → Prop} {pre ls : List ℓ} (h : M.Meets C ls)
    (hp : pre <+: ls) : M.Meets C pre :=
  fun p l hpl s hs => h p l (hpl.trans hp) s hs

/-- **Run rule.** The invariant may speak about the history; its step has the condition `C` to use. -/
theorem run_invariant_of_meets {C : σ → ℓ → Prop} {I : List ℓ → σ → Prop} (hinit : I [] M.init)
    (hstep : ∀ ls s l s', I ls s → C s l → M.next s l = some s' → I (ls ++ [l]) s') :
    ∀ ls s, M.exec ls = some s → M.Meets C ls → I ls s := by
  intro ls
  induction ls using List.reverseRecOn with
  | nil =>
    intro s hs _
    rw [exec_nil, Option.some.injEq] at hs
    exact hs ▸ hinit
  | append_singleton ls l ih =>
    intro s' hs' hC
    obtain ⟨s, hs, hl⟩ := M.exec_concat_eq_some.mp hs'
    exact hstep ls s l s' (ih s hs (hC.of_prefix (List.prefix_append _ _)))
      (hC ls l (List.prefix_refl _) s hs) hl

/-- The run rule without a condition on the steps. -/
theorem run_invariant {I : List ℓ → σ → Prop} (hinit : I [] M.init)
    (hstep : ∀ ls s l s', I ls s → M.next s l = some s' → I (ls ++ [l]) s') :
    ∀ ls s, M.exec ls = some s → I ls s :=
  fun ls s hs => M.run_invariant_of_meets (C := fun _ _ => True) hinit
    (fun ls s l s' hI _ hl => hstep ls s l s' hI hl) ls s hs (M.meets_true ls)

/-- The run rule from a state of the run on, where the labels that follow meet a condition. -/
theorem invariant_after {I : σ → Prop} {C : ℓ → Prop} (hstep : ∀ s l s', I s → C l → M.next s l = some s' → I s')
    {pre post : List ℓ} {t s : σ} (ht : M.exec pre = some t) (hI : I t) (h : M.exec (pre ++ post) = some s)
    (hC : ∀ l ∈ post, C l) : I s := by
  induction post using List.reverseRecOn generalizing s with
  | nil =>
    rw [List.append_nil, ht, Option.some.injEq] at h
    exact h ▸ hI
  | append_singleton post l ih =>
    rw [List.forall_mem_append, List.forall_mem_singleton] at hC
    rw [← List.append_assoc] at h
    obtain ⟨s₁, hs₁, hl⟩ := M.exec_concat_eq_some.mp h
    exact hstep s₁ l s (ih hs₁ hC.1) hC.2 hl

/-- **Exact conditions.** Where a step that meets `C` keeps an invariant that gives `P`, and one that does not leads to
a state without `P`, the steps of a run meet `C` exactly when all its states have `P`. -/
theorem meets_iff_forall_states {C : σ → ℓ → Prop} {I P : σ → Prop} (hinit : I M.init)
    (hstep : ∀ s l s', I s → C s l → M.next s l = some s' → I s') (hP : ∀ s, I s → P s)
    (hbreak : ∀ s l s', ¬ C s l → M.next s l = some s' → ¬ P s') {ls : List ℓ} {s : σ} (h : M.exec ls = some s) :
    M.Meets C ls ↔ ∀ pre t, pre <+: ls → M.exec pre = some t → P t := by
  constructor
  · intro hC pre t hp ht
    apply hP
    exact M.run_invariant_of_meets (I := fun _ s => I s) hinit
      (fun _ s l s' hi hc hs => hstep s l s' hi hc hs) pre t ht (hC.of_prefix hp)
  · intro hall pre l hp t ht
    by_contra hc
    obtain ⟨post, rfl⟩ := hp
    obtain ⟨t', ht'⟩ := M.exec_prefix h
    obtain ⟨u, hu, hl⟩ := M.exec_concat_eq_some.mp ht'
    have hut : u = t := Option.some.inj (hu.symm.trans ht)
    exact hbreak u l t' (hut ▸ hc) hl (hall _ t' (List.prefix_append _ _) ht')

/-- The system that also folds its labels, so that conditions on a step can use the result. -/
def withGhost {γ : Type*} (ghost : γ → ℓ → γ) (ghost₀ : γ) : System (σ × γ) ℓ where
  init := (M.init, ghost₀)
  next := fun s l => (M.next s.1 l).map (fun s' => (s', ghost s.2 l))

/-- It has the runs of the system itself. -/
theorem exec_withGhost {γ : Type*} (ghost : γ → ℓ → γ) (ghost₀ : γ) (ls : List ℓ) :
    (M.withGhost ghost ghost₀).exec ls = (M.exec ls).map (fun s => (s, ls.foldl ghost ghost₀)) := by
  induction ls using List.reverseRecOn with
  | nil => rfl
  | append_singleton ls l ih =>
    rw [exec_concat, exec_concat, ih, List.foldl_append]
    cases M.exec ls with
    | none => rfl
    | some s => rfl

/-- The system that also keeps what its steps cost, each in the state before it. -/
def withCost {γ : Type*} (cost : γ → σ → ℓ → γ) (cost₀ : γ) : System (σ × γ) ℓ where
  init := (M.init, cost₀)
  next := fun s l => (M.next s.1 l).map (fun s' => (s', cost s.2 s.1 l))

/-- Its runs are runs of the system itself. -/
theorem exec_of_withCost {γ : Type*} {cost : γ → σ → ℓ → γ} {cost₀ : γ} {ls : List ℓ} {s : σ × γ}
    (h : (M.withCost cost cost₀).exec ls = some s) : M.exec ls = some s.1 := by
  refine (M.withCost cost cost₀).run_invariant (I := fun ls s => M.exec ls = some s.1) rfl ?_ ls s h
  intro ls s l s' hs hl
  obtain ⟨t, ht, rfl⟩ := Option.map_eq_some_iff.mp hl
  exact M.exec_concat_eq_some.mpr ⟨s.1, hs, ht⟩

/-- And each run of the system itself is one of them. -/
theorem exists_exec_withCost {γ : Type*} (cost : γ → σ → ℓ → γ) (cost₀ : γ) {ls : List ℓ} {s : σ}
    (h : M.exec ls = some s) : ∃ c, (M.withCost cost cost₀).exec ls = some (s, c) := by
  induction ls using List.reverseRecOn generalizing s with
  | nil =>
    obtain rfl := Option.some.inj h
    exact ⟨cost₀, rfl⟩
  | append_singleton ls l ih =>
    obtain ⟨t, ht, hl⟩ := M.exec_concat_eq_some.mp h
    obtain ⟨c, hc⟩ := ih ht
    exact ⟨cost c t l, (M.withCost cost cost₀).exec_concat_eq_some.mpr
      ⟨(t, c), hc, Option.map_eq_some_iff.mpr ⟨s, hl, rfl⟩⟩⟩

/-- **Cost rule.** A relation of the cost to the state, kept by every step whose label and state meet a condition; the
runs of the system are there to use. -/
theorem cost_invariant {γ : Type*} {cost : γ → σ → ℓ → γ} {cost₀ : γ} {C : σ → ℓ → Prop} {I : γ → σ → Prop}
    (hinit : I cost₀ M.init)
    (hstep : ∀ ls c s l s', M.exec ls = some s → I c s → C s l → M.next s l = some s' → I (cost c s l) s')
    {ls : List ℓ} {s : σ × γ} (h : (M.withCost cost cost₀).exec ls = some s) (hC : M.Meets C ls) : I s.2 s.1 := by
  induction ls using List.reverseRecOn generalizing s with
  | nil =>
    obtain rfl := Option.some.inj h
    exact hinit
  | append_singleton ls l ih =>
    obtain ⟨t, ht, hl⟩ := (M.withCost cost cost₀).exec_concat_eq_some.mp h
    obtain ⟨s', hs', rfl⟩ := Option.map_eq_some_iff.mp hl
    have hrun := M.exec_of_withCost ht
    exact hstep ls t.2 t.1 l s' hrun (ih ht (hC.of_prefix (List.prefix_append _ _)))
      (hC ls l (List.prefix_refl _) t.1 hrun) hs'

end System

theorem filterMap_concat {α β : Type*} (f : α → Option β) (ls : List α) (l : α) :
    (ls ++ [l]).filterMap f = ls.filterMap f ++ (f l).toList := by
  rw [List.filterMap_append]
  cases hl : f l with
  | none => rw [List.filterMap_cons_none hl, List.filterMap_nil, Option.toList_none]
  | some b => rw [List.filterMap_cons_some hl, List.filterMap_nil, Option.toList_some]

/-- A label of a longer history is its last one or was there before. -/
theorem exists_split_concat {α : Type*} {ls : List α} {l k : α} {P : List α → Prop} :
    (∃ pre post, ls ++ [l] = pre ++ k :: post ∧ P pre) ↔
      (l = k ∧ P ls) ∨ ∃ pre post, ls = pre ++ k :: post ∧ P pre := by
  constructor
  · rintro ⟨pre, post, heq, hP⟩
    rcases List.eq_nil_or_concat' post with rfl | ⟨post, m, rfl⟩
    · obtain ⟨rfl, hl⟩ := List.append_inj' heq rfl
      exact Or.inl ⟨List.singleton_inj.mp hl, hP⟩
    · rw [← List.cons_append, ← List.append_assoc] at heq
      exact Or.inr ⟨pre, post, (List.append_inj' heq rfl).1, hP⟩
  · rintro (⟨rfl, hP⟩ | ⟨pre, post, rfl, hP⟩)
    · exact ⟨ls, [], rfl, hP⟩
    · exact ⟨pre, post ++ [l], by rw [List.append_assoc, List.cons_append], hP⟩

theorem forall_split_concat {α : Type*} {ls : List α} {l k : α} {P : List α → Prop} :
    (∀ pre post, ls ++ [l] = pre ++ k :: post → P pre) ↔
      (l = k → P ls) ∧ ∀ pre post, ls = pre ++ k :: post → P pre := by
  have hiff : (¬ ∃ pre post, ls ++ [l] = pre ++ k :: post ∧ ¬ P pre) ↔
      ¬ ((l = k ∧ ¬ P ls) ∨ ∃ pre post, ls = pre ++ k :: post ∧ ¬ P pre) := not_congr exists_split_concat
  simpa only [not_or, not_exists, not_and, not_not] using hiff

/-! ## Machines that answer every input -/

section Respond
variable {σ τ ι κ ο : Type*}

/-- Feed the inputs to `step` from `s`; the last state and the answers, oldest first. -/
def respond (step : σ → ι → ο × σ) (s : σ) : List ι → List ο × σ
  | [] => ([], s)
  | i :: is => ((step s i).1 :: (respond step (step s i).2 is).1, (respond step (step s i).2 is).2)

@[simp] theorem respond_nil (step : σ → ι → ο × σ) (s : σ) : respond step s [] = ([], s) := rfl

theorem respond_cons (step : σ → ι → ο × σ) (s : σ) (i : ι) (is : List ι) :
    respond step s (i :: is) =
      ((step s i).1 :: (respond step (step s i).2 is).1, (respond step (step s i).2 is).2) := rfl

theorem respond_append (step : σ → ι → ο × σ) (s : σ) (is js : List ι) :
    respond step s (is ++ js) =
      ((respond step s is).1 ++ (respond step (respond step s is).2 js).1,
        (respond step (respond step s is).2 js).2) := by
  induction is generalizing s with
  | nil => rfl
  | cons i is ih => simp only [List.cons_append, respond_cons, ih]

/-- **Simulation.** Machines whose related states answer related inputs alike and stay related give equal answers
over every run. -/
theorem respond_simulates {R : σ → τ → Prop} {f : σ → ι → ο × σ} {g : τ → κ → ο × τ} (φ : ι → κ) (is : List ι)
    (hstep : ∀ i ∈ is, ∀ s t, R s t → (f s i).1 = (g t (φ i)).1 ∧ R (f s i).2 (g t (φ i)).2) :
    ∀ s t, R s t →
      (respond f s is).1 = (respond g t (is.map φ)).1 ∧ R (respond f s is).2 (respond g t (is.map φ)).2 := by
  induction is with
  | nil => exact fun s t h => ⟨rfl, h⟩
  | cons i is ih =>
    intro s t h
    obtain ⟨hans, hnext⟩ := hstep i List.mem_cons_self s t h
    obtain ⟨hrest, hend⟩ := ih (fun j hj => hstep j (List.mem_cons_of_mem _ hj)) _ _ hnext
    simp only [List.map_cons, respond_cons]
    exact ⟨by rw [hans, hrest], hend⟩

end Respond

end MultisensorStation.Base
