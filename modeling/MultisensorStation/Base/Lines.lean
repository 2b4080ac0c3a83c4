import Mathlib.Data.List.Induction
import Mathlib.Data.List.Infix

/-!
# Text as lines

Texts over an arbitrary alphabet with one separator `sep`.

* `lines sep c` : the lines of `c`, where the last one may lack its separator;
* `unlines sep ls` : the text of `ls`, every line terminated;
* `lines_unlines`, `unlines_lines` : the two are inverse, up to a missing last separator;
* `firstLine`, `afterFirst` : the part of a text before and behind its first separator.
-/

namespace MultisensorStation.Base

variable {α : Type*}

def unlines (sep : α) (ls : List (List α)) : List α := ls.flatMap (· ++ [sep])

/-- Empty, or ending with a separator. -/
def Terminated (sep : α) (c : List α) : Prop := c = [] ∨ c.getLast? = some sep

section Join
variable {sep : α}

@[simp] theorem unlines_nil : unlines sep ([] : List (List α)) = [] := rfl

theorem unlines_cons (l : List α) (ls : List (List α)) : unlines sep (l :: ls) = l ++ sep :: unlines sep ls := by
  unfold unlines
  rw [List.flatMap_cons, List.append_assoc, List.singleton_append]

theorem unlines_append (ls ms : List (List α)) : unlines sep (ls ++ ms) = unlines sep ls ++ unlines sep ms := by
  unfold unlines
  exact List.flatMap_append

theorem unlines_terminated (ls : List (List α)) : Terminated sep (unlines sep ls) := by
  induction ls using List.reverseRecOn with
  | nil => exact Or.inl rfl
  | append_singleton ls l _ =>
    right
    rw [unlines_append, unlines_cons, unlines_nil, ← List.append_assoc, List.getLast?_concat]

theorem terminated_cons_self (c : List α) : Terminated sep (sep :: c) ↔ Terminated sep c := by
  unfold Terminated
  cases c with
  | nil => simp
  | cons b c => simp

theorem terminated_cons_of_ne_nil (a : α) {c : List α} (hc : c ≠ []) :
    Terminated sep (a :: c) ↔ Terminated sep c := by
  unfold Terminated
  cases c with
  | nil => exact absurd rfl hc
  | cons b c => simp

theorem terminated_append_sep (l c : List α) : Terminated sep (l ++ sep :: c) ↔ Terminated sep c := by
  induction l with
  | nil => exact terminated_cons_self c
  | cons a l ih =>
    have hne : l ++ sep :: c ≠ [] := List.append_ne_nil_of_right_ne_nil _ (List.cons_ne_nil _ _)
    rw [List.cons_append, terminated_cons_of_ne_nil a hne, ih]

theorem terminated_append (l : List α) {c : List α} (hc : c ≠ []) : Terminated sep (l ++ c) ↔ Terminated sep c := by
  unfold Terminated
  obtain ⟨a, ha⟩ := Option.isSome_iff_exists.mp (List.getLast?_isSome.mpr hc)
  rw [List.getLast?_append, ha, List.append_eq_nil_iff]
  simp [hc]

theorem not_terminated_singleton {a : α} (ha : a ≠ sep) : ¬ Terminated sep [a] := by
  unfold Terminated
  simpa using ha

end Join

section Split
variable [DecidableEq α]

def lines (sep : α) : List α → List (List α)
  | [] => []
  | a :: c =>
    if a = sep then [] :: lines sep c
    else match lines sep c with
      | [] => [[a]]
      | l :: ls => (a :: l) :: ls

/-- The part before the first separator, or everything. -/
def firstLine (sep : α) : List α → List α
  | [] => []
  | a :: c => if a = sep then [] else a :: firstLine sep c

/-- The part behind the first separator, or nothing. -/
def afterFirst (sep : α) : List α → List α
  | [] => []
  | a :: c => if a = sep then c else afterFirst sep c

instance (sep : α) (c : List α) : Decidable (Terminated sep c) :=
  inferInstanceAs (Decidable (c = [] ∨ c.getLast? = some sep))

variable {sep : α}

@[simp] theorem lines_nil : lines sep ([] : List α) = [] := rfl

theorem lines_eq_nil_iff {c : List α} : lines sep c = [] ↔ c = [] := by
  constructor
  · intro h
    cases c with
    | nil => rfl
    | cons a c =>
      unfold lines at h
      split at h
      · cases h
      · split at h <;> cases h
  · rintro rfl
    rfl

theorem lines_append_sep (l c : List α) (hl : sep ∉ l) : lines sep (l ++ sep :: c) = l :: lines sep c := by
  induction l with
  | nil =>
    show lines sep (sep :: c) = [] :: lines sep c
    rw [lines, if_pos rfl]
  | cons a l ih =>
    rw [List.mem_cons, not_or] at hl
    rw [List.cons_append, lines, if_neg (fun h => hl.1 h.symm), ih hl.2]

/-- Splitting a joined text gives the lines back. -/
theorem lines_unlines (ls : List (List α)) (h : ∀ l ∈ ls, sep ∉ l) : lines sep (unlines sep ls) = ls := by
  induction ls with
  | nil => rfl
  | cons l ls ih =>
    have hrest : ∀ m ∈ ls, sep ∉ m := fun m hm => h m (List.mem_cons_of_mem _ hm)
    rw [unlines_cons, lines_append_sep _ _ (h l List.mem_cons_self), ih hrest]

/-- Joining the lines of a text gives the text, with its last separator if that was missing. -/
theorem unlines_lines (c : List α) :
    unlines sep (lines sep c) = if Terminated sep c then c else c ++ [sep] := by
  induction c with
  | nil => rfl
  | cons a c ih =>
    by_cases ha : a = sep
    · subst ha
      rw [lines, if_pos rfl, unlines_cons, List.nil_append, ih]
      simp only [terminated_cons_self]
      split <;> rfl
    · rw [lines, if_neg ha]
      cases hc : lines sep c with
      | nil =>
        rw [lines_eq_nil_iff] at hc
        subst hc
        rw [if_neg (not_terminated_singleton ha)]
        rfl
      | cons l ls =>
        have hne : c ≠ [] := by
          rintro rfl
          cases hc
        rw [hc, unlines_cons] at ih
        simp only [terminated_cons_of_ne_nil a hne]
        rw [unlines_cons, List.cons_append, ih]
        split <;> rfl

/-! ## The first line -/

theorem firstLine_of_not_mem (c : List α) (hc : sep ∉ c) : firstLine sep c = c := by
  induction c with
  | nil => rfl
  | cons a c ih =>
    rw [List.mem_cons, not_or] at hc
    rw [firstLine, if_neg (fun h => hc.1 h.symm), ih hc.2]

theorem firstLine_append_sep (l c : List α) (hl : sep ∉ l) : firstLine sep (l ++ sep :: c) = l := by
  induction l with
  | nil =>
    show firstLine sep (sep :: c) = []
    rw [firstLine, if_pos rfl]
  | cons a l ih =>
    rw [List.mem_cons, not_or] at hl
    rw [List.cons_append, firstLine, if_neg (fun h => hl.1 h.symm), ih hl.2]

/-- The first line of a joined text. -/
theorem firstLine_unlines (ls : List (List α)) (h : ∀ l ∈ ls, sep ∉ l) :
    firstLine sep (unlines sep ls) = ls.headD [] := by
  cases ls with
  | nil => rfl
  | cons l ls =>
    rw [unlines_cons, firstLine_append_sep _ _ (h l List.mem_cons_self)]
    rfl

theorem sep_not_mem_firstLine (c : List α) : sep ∉ firstLine sep c := by
  induction c with
  | nil => exact List.not_mem_nil
  | cons a c ih =>
    unfold firstLine
    split
    · exact List.not_mem_nil
    · next ha =>
      rw [List.mem_cons, not_or]
      exact ⟨fun h => ha h.symm, ih⟩

/-- A text with a separator is its first line, the separator and the rest. -/
theorem eq_firstLine_append (c : List α) (hc : sep ∈ c) : c = firstLine sep c ++ sep :: afterFirst sep c := by
  induction c with
  | nil => exact absurd hc List.not_mem_nil
  | cons a c ih =>
    unfold firstLine afterFirst
    split
    · next ha => rw [ha, List.nil_append]
    · next ha =>
      have hc' : sep ∈ c := by
        rcases List.mem_cons.mp hc with h | h
        · exact absurd h.symm ha
        · exact h
      rw [List.cons_append, ← ih hc']

theorem lines_of_mem (c : List α) (hc : sep ∈ c) :
    lines sep c = firstLine sep c :: lines sep (afterFirst sep c) := by
  conv_lhs => rw [eq_firstLine_append c hc]
  exact lines_append_sep _ _ (sep_not_mem_firstLine c)

theorem lines_of_not_mem (c : List α) (hc : sep ∉ c) (hne : c ≠ []) : lines sep c = [c] := by
  induction c with
  | nil => exact absurd rfl hne
  | cons a c ih =>
    rw [List.mem_cons, not_or] at hc
    rw [lines, if_neg (fun h => hc.1 h.symm)]
    cases c with
    | nil => rfl
    | cons b c => rw [ih hc.2 (List.cons_ne_nil _ _)]

theorem afterFirst_of_not_mem (c : List α) (hc : sep ∉ c) : afterFirst sep c = [] := by
  induction c with
  | nil => rfl
  | cons a c ih =>
    rw [List.mem_cons, not_or] at hc
    rw [afterFirst, if_neg (fun h => hc.1 h.symm), ih hc.2]

theorem afterFirst_append_of_not_mem (c : List α) {l : List α} (hl : sep ∉ l) :
    afterFirst sep (l ++ c) = afterFirst sep c := by
  induction l with
  | nil => rfl
  | cons a l ih =>
    rw [List.mem_cons, not_or] at hl
    rw [List.cons_append, afterFirst, if_neg (fun h => hl.1 h.symm), ih hl.2]

theorem firstLine_isPrefix (c : List α) : firstLine sep c <+: c := by
  by_cases hc : sep ∈ c
  · conv_rhs => rw [eq_firstLine_append c hc]
    exact List.prefix_append _ _
  · rw [firstLine_of_not_mem c hc]

/-- A piece of a line in front of a text makes one more line at most. -/
theorem length_lines_append_le (c : List α) {l : List α} (hl : sep ∉ l) :
    (lines sep (l ++ c)).length ≤ (lines sep c).length + 1 := by
  induction l with
  | nil => exact Nat.le_add_right _ 1
  | cons a l ih =>
    rw [List.mem_cons, not_or] at hl
    have hle := ih hl.2
    rw [List.cons_append, lines, if_neg (fun h => hl.1 h.symm)]
    cases hlines : lines sep (l ++ c) with
    | nil => exact Nat.le_add_left 1 _
    | cons m ms =>
      rw [hlines] at hle
      exact hle

/-- Without its first line a text has the lines of the part behind its first separator. -/
theorem tail_lines (c : List α) : (lines sep c).tail = lines sep (afterFirst sep c) := by
  by_cases hc : sep ∈ c
  · rw [lines_of_mem c hc, List.tail_cons]
  · rw [afterFirst_of_not_mem c hc, lines_nil]
    by_cases hne : c = []
    · rw [hne]
      rfl
    · rw [lines_of_not_mem c hc hne, List.tail_cons]

/-- A separator at the end does not change the first line. -/
theorem firstLine_concat_sep (c : List α) : firstLine sep (c ++ [sep]) = firstLine sep c := by
  induction c with
  | nil => exact if_pos rfl
  | cons a c ih => rw [List.cons_append, firstLine, firstLine, ih]

theorem length_afterFirst_lt (c : List α) (hc : sep ∈ c) : (afterFirst sep c).length < c.length := by
  conv_rhs => rw [eq_firstLine_append c hc]
  rw [List.length_append, List.length_cons]
  omega

/-- Without its first line a text is shorter, so it never starts with the text it came from. -/
theorem not_prefix_unlines_tail (c : List α) (hc : lines sep c ≠ []) :
    ¬ c <+: unlines sep (lines sep c).tail := by
  intro hp
  obtain ⟨l, ls, hls⟩ := List.exists_cons_of_ne_nil hc
  have hjoin := @unlines_lines α _ sep c
  have hlen := hp.length_le
  rw [hls, List.tail_cons] at hp hlen
  rw [hls, unlines_cons] at hjoin
  have hcount := congrArg List.length hjoin
  rw [List.length_append, List.length_cons] at hcount
  split at hcount
  · omega
  · next hopen =>
    rw [List.length_append, List.length_singleton] at hcount
    have heq : c = unlines sep ls := hp.eq_of_length (by omega)
    exact hopen (heq ▸ unlines_terminated ls)

end Split

end MultisensorStation.Base
