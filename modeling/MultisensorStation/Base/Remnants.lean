import MultisensorStation.Base.Lines

/-!
# What is left of lines

Texts made of the beginnings of given lines, over an arbitrary alphabet with one separator `sep`.

* `Remnant sep ls c` : `c` has from each of the lines `ls` a first part, in their order, with or without a separator
  behind it;
* `Remnant.append_line`, `Remnant.of_isPrefix`, `Remnant.terminate` : more lines, cuts, a last separator;
* `Remnant.without_first` : without its first line a text has nothing from the first of the lines;
* `Remnant.length_lines_le` : it has no more lines than were given.
-/

namespace MultisensorStation.Base

variable {α : Type*} {sep : α}

inductive Remnant (sep : α) : List (List α) → List α → Prop where
  | nil (ls : List (List α)) : Remnant sep ls []
  | part {l pre : List α} {ls : List (List α)} {c : List α} (hpre : pre <+: l) (hc : Remnant sep ls c) :
      Remnant sep (l :: ls) (pre ++ c)
  | closed {l pre : List α} {ls : List (List α)} {c : List α} (hpre : pre <+: l) (hc : Remnant sep ls c) :
      Remnant sep (l :: ls) (pre ++ sep :: c)

/-- A prefix of a joined text ends in the first part of it or goes on into the second one. -/
theorem prefix_or_exists_of_isPrefix_append {c' c d : List α} (h : c' <+: c ++ d) :
    c' <+: c ∨ ∃ d', d' <+: d ∧ c' = c ++ d' := by
  by_cases hlen : c'.length ≤ c.length
  · exact Or.inl (List.prefix_of_prefix_length_le h (List.prefix_append c d) hlen)
  · obtain ⟨d', rfl⟩ := List.prefix_of_prefix_length_le (List.prefix_append c d) h (by omega)
    exact Or.inr ⟨d', (List.prefix_append_right_inj c).mp h, rfl⟩

namespace Remnant

variable {ls : List (List α)} {l c : List α}

theorem of_isPrefix_line (h : c <+: l) : Remnant sep (l :: ls) c := by
  rw [← List.append_nil c]
  exact part h (nil ls)

/-- From a line there need not be anything. -/
theorem cons (l : List α) (h : Remnant sep ls c) : Remnant sep (l :: ls) c := part List.nil_prefix h

theorem of_tail (h : Remnant sep ls.tail c) : Remnant sep ls c := by
  cases ls with
  | nil => exact h
  | cons l ls => exact h.cons l

theorem eq_nil (h : Remnant sep [] c) : c = [] := by
  cases h
  rfl

theorem append_left (ms : List (List α)) (h : Remnant sep ls c) : Remnant sep (ms ++ ls) c := by
  induction ms with
  | nil => exact h
  | cons m ms ih => exact ih.cons m

theorem append_line {fragment : List α} (h : Remnant sep ls c) (hfragment : fragment <+: l ++ [sep]) :
    Remnant sep (ls ++ [l]) (c ++ fragment) := by
  induction h with
  | nil ls =>
    apply append_left
    rcases List.prefix_concat_iff.mp hfragment with rfl | hshort
    · exact closed List.prefix_rfl (nil [])
    · exact of_isPrefix_line hshort
  | part hpre _ ih =>
    rw [List.append_assoc]
    exact part hpre ih
  | closed hpre _ ih =>
    rw [List.append_assoc]
    exact closed hpre ih

theorem of_isPrefix {c' : List α} (h : Remnant sep ls c) (hc' : c' <+: c) : Remnant sep ls c' := by
  induction h generalizing c' with
  | nil ls =>
    rw [List.prefix_nil.mp hc']
    exact nil ls
  | part hpre _ ih =>
    rcases prefix_or_exists_of_isPrefix_append hc' with hshort | ⟨d, hd, rfl⟩
    · exact of_isPrefix_line (hshort.trans hpre)
    · exact part hpre (ih hd)
  | closed hpre _ ih =>
    rcases prefix_or_exists_of_isPrefix_append hc' with hshort | ⟨d, hd, rfl⟩
    · exact of_isPrefix_line (hshort.trans hpre)
    · rcases List.prefix_cons_iff.mp hd with rfl | ⟨d, rfl, hd'⟩
      · rw [List.append_nil]
        exact of_isPrefix_line hpre
      · exact closed hpre (ih hd')

section Split
variable [DecidableEq α]

/-- The separator that the last line may lack. -/
theorem terminate (h : Remnant sep ls c) : Remnant sep ls (unlines sep (lines sep c)) := by
  rw [unlines_lines]
  split
  · exact h
  · next hopen =>
    induction h with
    | nil ls => exact absurd (Or.inl rfl) hopen
    | @part l pre ls c hpre hc ih =>
      by_cases hnil : c = []
      · rw [hnil, List.append_nil]
        exact closed hpre (nil ls)
      · rw [List.append_assoc]
        exact part hpre (ih (fun hterm => hopen ((terminated_append pre hnil).mpr hterm)))
    | closed hpre _ ih =>
      rw [List.append_assoc]
      exact closed hpre (ih (fun hterm => hopen ((terminated_append_sep _ _).mpr hterm)))

/-- The first line of a text uses up the first of the lines at least. -/
theorem afterFirst (h : Remnant sep ls c) (hls : ∀ l ∈ ls, sep ∉ l) : Remnant sep ls.tail (afterFirst sep c) := by
  induction h with
  | nil ls => exact nil _
  | part hpre _ ih =>
    rw [List.forall_mem_cons] at hls
    rw [afterFirst_append_of_not_mem _ (fun hmem => hls.1 (hpre.subset hmem))]
    exact (ih hls.2).of_tail
  | closed hpre hc _ =>
    rw [List.forall_mem_cons] at hls
    rw [afterFirst_append_of_not_mem _ (fun hmem => hls.1 (hpre.subset hmem))]
    rw [Base.afterFirst, if_pos rfl]
    exact hc

theorem without_first {c' : List α} (h : Remnant sep ls c) (hls : ∀ l ∈ ls, sep ∉ l)
    (hc' : c' <+: unlines sep (lines sep c).tail) : Remnant sep ls.tail c' := by
  rw [tail_lines] at hc'
  exact (h.afterFirst hls).terminate.of_isPrefix hc'

theorem length_lines_le (h : Remnant sep ls c) (hls : ∀ l ∈ ls, sep ∉ l) : (lines sep c).length ≤ ls.length := by
  induction h with
  | nil ls => exact Nat.zero_le _
  | @part l pre ls c hpre _ ih =>
    rw [List.forall_mem_cons] at hls
    have hle := length_lines_append_le c (fun hmem => hls.1 (hpre.subset hmem))
    exact hle.trans (Nat.succ_le_succ (ih hls.2))
  | closed hpre _ ih =>
    rw [List.forall_mem_cons] at hls
    rw [lines_append_sep _ _ (fun hmem => hls.1 (hpre.subset hmem))]
    exact Nat.succ_le_succ (ih hls.2)

end Split

end Remnant

end MultisensorStation.Base
