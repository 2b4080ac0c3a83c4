import Mathlib.Data.List.Infix

/-!
# Two parts joined by a separator

* `splitFirst sep l` : the parts of `l` in front of and behind the first occurrence of `sep`;
* `splitFirst_append` : what was joined is split again, when no `sep` begins inside the first part;
* `concat_suffix_concat` : a suffix and its last element.
-/

namespace MultisensorStation.Base

universe u

variable {α : Type u}

theorem concat_suffix_concat {l m : List α} {a b : α} : l ++ [a] <:+ m ++ [b] ↔ a = b ∧ l <:+ m := by
  constructor
  · rintro ⟨t, ht⟩
    rw [← List.append_assoc] at ht
    obtain ⟨hl, hab⟩ := List.append_inj' ht rfl
    exact ⟨List.singleton_inj.mp hab, t, hl⟩
  · rintro ⟨rfl, h⟩
    exact List.suffix_append_self_iff.mpr h

variable [DecidableEq α] {sep x y : List α}

def splitFirst (sep : List α) : List α → Option (List α × List α)
  | [] => none
  | a :: l =>
    if sep <+: a :: l then some ([], (a :: l).drop sep.length)
    else (splitFirst sep l).map (fun p => (a :: p.1, p.2))

/-- The first part and all of the separator but its last element hold no separator. -/
theorem splitFirst_append (hsep : sep ≠ []) (y : List α) (h : ¬ sep <:+: x ++ sep.dropLast) :
    splitFirst sep (x ++ (sep ++ y)) = some (x, y) := by
  induction x with
  | nil =>
    obtain ⟨s, rest, rfl⟩ := List.exists_cons_of_ne_nil hsep
    rw [List.nil_append, List.cons_append, splitFirst, ← List.cons_append, if_pos (List.prefix_append _ _),
      List.drop_left]
  | cons a x ih =>
    have hnot : ¬ sep <+: a :: (x ++ (sep ++ y)) := by
      intro hp
      apply h
      -- an occurrence at the front ends before the last element of the separator
      have hparts : a :: (x ++ (sep ++ y)) = (a :: x ++ sep.dropLast) ++ (sep.getLast hsep :: y) := by
        conv_lhs => rw [← List.dropLast_append_getLast hsep]
        simp
      have hlen : sep.length ≤ (a :: x ++ sep.dropLast).length := by
        have := List.length_pos_of_ne_nil hsep
        rw [List.length_append, List.length_cons, List.length_dropLast]
        omega
      rw [hparts] at hp
      exact (List.prefix_of_prefix_length_le hp (List.prefix_append _ _) hlen).isInfix
    have hrest := ih (fun hx => h (hx.trans (List.suffix_cons a _).isInfix))
    rw [List.cons_append, splitFirst, if_neg hnot, hrest]
    rfl

end MultisensorStation.Base
