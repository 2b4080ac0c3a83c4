import MultisensorStation.Base.Runs

/-!
# Forward simulations

A system that is abstracted to another one step by step, one step to any number of steps of the other.

* `Simulation` : the abstraction of the states, the steps that a label stands for, and the invariant that both need;
* `Simulation.exec` : a run stands for a run; `Simulation.transfer` : what holds of all runs of the other system.
-/

namespace MultisensorStation.Base

universe u v u' v'

structure Simulation {σ : Type u} {ℓ : Type v} {τ : Type u'} {κ : Type v'} (M : System σ ℓ) (N : System τ κ) where
  abs : σ → τ
  trace : ℓ → List κ
  Inv : σ → Prop
  inv_init : Inv M.init
  abs_init : abs M.init = N.init
  inv_step : ∀ s l s', Inv s → M.next s l = some s' → Inv s'
  abs_step : ∀ s l s', Inv s → M.next s l = some s' → (trace l).foldlM N.next (abs s) = some (abs s')

namespace Simulation

variable {σ : Type u} {ℓ : Type v} {τ : Type u'} {κ : Type v'} {M : System σ ℓ} {N : System τ κ}

theorem inv (S : Simulation M N) {ls : List ℓ} {s : σ} (h : M.exec ls = some s) : S.Inv s :=
  M.run_invariant (I := fun _ s => S.Inv s) S.inv_init (fun _ s l s' hi hl => S.inv_step s l s' hi hl) ls s h

/-- A run stands for a run of the other system, which ends in the abstraction of its last state. -/
theorem exec (S : Simulation M N) {ls : List ℓ} {s : σ} (h : M.exec ls = some s) :
    N.exec (ls.flatMap S.trace) = some (S.abs s) := by
  refine M.run_invariant (I := fun ls s => S.Inv s ∧ N.exec (ls.flatMap S.trace) = some (S.abs s)) ?_ ?_ ls s h |>.2
  · exact ⟨S.inv_init, congrArg some S.abs_init.symm⟩
  · rintro ls s l s' ⟨hinv, hrun⟩ hl
    refine ⟨S.inv_step s l s' hinv hl, ?_⟩
    rw [List.flatMap_append, List.flatMap_singleton, System.exec_append, hrun]
    exact S.abs_step s l s' hinv hl

/-- What holds of every run of the other system holds of the abstraction of every run. -/
theorem transfer (S : Simulation M N) {P : List κ → τ → Prop} (hP : ∀ ks t, N.exec ks = some t → P ks t)
    {ls : List ℓ} {s : σ} (h : M.exec ls = some s) : P (ls.flatMap S.trace) (S.abs s) :=
  hP _ _ (S.exec h)

end Simulation

end MultisensorStation.Base
