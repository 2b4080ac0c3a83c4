import Mathlib.Data.List.Induction

/-!
# Trails

* `Trail R a ps b` : the pairs `ps` lead from `a` to `b`, each of them a step of `R` that starts where the one before
  it ended;
* `trail_append`, `Trail.concat`, `Trail.mono` : how trails compose.
-/

namespace MultisensorStation.Base

variable {α : Type*} {R Q : α → α → Prop} {a b c : α} {ps qs : List (α × α)}

def Trail (R : α → α → Prop) : α → List (α × α) → α → Prop
  | a, [], b => a = b
  | a, p :: ps, b => p.1 = a ∧ R p.1 p.2 ∧ Trail R p.2 ps b

theorem trail_append : Trail R a (ps ++ qs) c ↔ ∃ b, Trail R a ps b ∧ Trail R b qs c := by
  induction ps generalizing a with
  | nil =>
    constructor
    · exact fun h => ⟨a, rfl, h⟩
    · rintro ⟨b, rfl, h⟩
      exact h
  | cons p ps ih =>
    show p.1 = a ∧ R p.1 p.2 ∧ Trail R p.2 (ps ++ qs) c ↔ _
    rw [ih]
    constructor
    · rintro ⟨hstart, hstep, b, hps, hqs⟩
      exact ⟨b, ⟨hstart, hstep, hps⟩, hqs⟩
    · rintro ⟨b, ⟨hstart, hstep, hps⟩, hqs⟩
      exact ⟨hstart, hstep, b, hps, hqs⟩

/-- One more step at the end. -/
theorem Trail.concat (h : Trail R a ps b) (hstep : R b c) : Trail R a (ps ++ [(b, c)]) c :=
  trail_append.mpr ⟨b, h, rfl, hstep, rfl⟩

theorem Trail.mono (h : Trail R a ps b) (hRQ : ∀ x y, R x y → Q x y) : Trail Q a ps b := by
  induction ps generalizing a with
  | nil => exact h
  | cons p ps ih =>
    obtain ⟨hstart, hstep, hrest⟩ := h
    exact ⟨hstart, hRQ _ _ hstep, ih hrest⟩

end MultisensorStation.Base
