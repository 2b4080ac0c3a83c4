import MultisensorStation.Base.Mutex
import MultisensorStation.Base.Runs

/-!
# Critical sections, statement by statement

Any number of threads that run pieces of code under one mutex. A thread enters a section when nobody is inside,
executes the statements of the section one at a time, in between the steps of the others, and leaves after the last.

* `Sections` : the statements of every piece of code, and what a statement does; one that never ends is `none`;
* `Shared` : the protected data, and who is inside with what is left to do; `Sections.next` : the steps;
* `entered` : the sections of a run in the order in which the mutex was taken;
* `Sections.serial` : what is left to do leads to what these sections do one after the other;
* `Sections.next_of_stuck` : a thread that is stuck inside stops all.
-/

namespace MultisensorStation.Base

universe u v w

structure Sections (τ : Type u) (α : Type v) (β : Type w) where
  /-- the statements of a section -/
  body : α → List β
  exec : τ → β → Option τ

structure Shared (τ : Type u) (β : Type w) where
  data : τ
  /-- the thread that holds the mutex, and what it still has to execute of its section -/
  inside : Option (Thread × List β)

inductive SectionLabel (α : Type v) where
  | enter (thread : Thread) (a : α)
  | execute (thread : Thread)
  | leave (thread : Thread)

namespace Shared

variable {τ : Type u} {β : Type w}

/-- What is left to do of the section that was entered last. -/
def pending (s : Shared τ β) : List β :=
  match s.inside with
  | none => []
  | some (_, rest) => rest

end Shared

def SectionLabel.entered {α : Type v} : SectionLabel α → Option (Thread × α)
  | .enter thread a => some (thread, a)
  | _ => none

/-- The sections in the order in which they were entered. -/
def entered {α : Type v} (ls : List (SectionLabel α)) : List (Thread × α) := ls.filterMap SectionLabel.entered

namespace Sections

variable {τ : Type u} {α : Type v} {β : Type w} (C : Sections τ α β)

def next (s : Shared τ β) : SectionLabel α → Option (Shared τ β)
  | .enter thread a =>
    match s.inside with
    | none => some ⟨s.data, some (thread, C.body a)⟩
    | some _ => none
  | .execute thread =>
    match s.inside with
    | some (holder, b :: rest) =>
      if holder = thread then (C.exec s.data b).map fun data => ⟨data, some (thread, rest)⟩ else none
    | _ => none
  | .leave thread =>
    match s.inside with
    | some (holder, []) => if holder = thread then some ⟨s.data, none⟩ else none
    | _ => none

def system (data : τ) : System (Shared τ β) (SectionLabel α) := ⟨⟨data, none⟩, C.next⟩

/-- A section from its first statement to its last. -/
def run (data : τ) (a : α) : Option τ := (C.body a).foldlM C.exec data

/-- Sections one after the other. -/
def runAll (data : τ) (as : List (Thread × α)) : Option τ := as.foldlM (fun data p => C.run data p.2) data

variable {C} {s s' : Shared τ β} {thread : Thread}

theorem next_enter {a : α} (h : C.next s (.enter thread a) = some s') :
    s.inside = none ∧ s' = ⟨s.data, some (thread, C.body a)⟩ := by
  simp only [next] at h
  split at h
  · exact ⟨‹_›, (Option.some.inj h).symm⟩
  · cases h

theorem next_execute (h : C.next s (.execute thread : SectionLabel α) = some s') :
    ∃ b rest data, s.inside = some (thread, b :: rest) ∧ C.exec s.data b = some data ∧
      s' = ⟨data, some (thread, rest)⟩ := by
  simp only [next] at h
  split at h
  · rename_i holder b rest hinside
    obtain ⟨rfl, hexec⟩ := Option.ite_none_right_eq_some.mp h
    obtain ⟨data, hdata, rfl⟩ := Option.map_eq_some_iff.mp hexec
    exact ⟨b, rest, data, hinside, hdata, rfl⟩
  · cases h

theorem next_leave (h : C.next s (.leave thread : SectionLabel α) = some s') :
    s.inside = some (thread, []) ∧ s' = ⟨s.data, none⟩ := by
  simp only [next] at h
  split at h
  · rename_i holder hinside
    obtain ⟨rfl, hs⟩ := Option.ite_none_right_eq_some.mp h
    exact ⟨hinside, (Option.some.inj hs).symm⟩
  · cases h

theorem runAll_concat (data : τ) (as : List (Thread × α)) (p : Thread × α) :
    C.runAll data (as ++ [p]) = (C.runAll data as).bind fun data => C.run data p.2 := by
  unfold runAll
  rw [List.foldlM_append]
  cases as.foldlM (fun data p => C.run data p.2) data with
  | none => rfl
  | some data => simp

theorem entered_concat (ls : List (SectionLabel α)) (l : SectionLabel α) :
    entered (ls ++ [l]) = entered ls ++ l.entered.toList := by
  unfold entered
  rw [List.filterMap_append]
  cases hl : l.entered <;> simp [hl]

/-- **Serial order.** In every interleaving, what the thread inside still has to do leads from the data to what the
sections entered so far do one after the other. -/
theorem serial {data : τ} {ls : List (SectionLabel α)} (h : (C.system data).exec ls = some s) :
    s.pending.foldlM C.exec s.data = C.runAll data (entered ls) := by
  apply (C.system data).run_invariant
    (I := fun ls s => s.pending.foldlM C.exec s.data = C.runAll data (entered ls)) _ _ ls s h
  · rfl
  · intro ls s l s' ih hl
    rw [entered_concat]
    cases l with
    | enter thread a =>
      obtain ⟨hfree, rfl⟩ := next_enter hl
      have hdata : C.runAll data (entered ls) = some s.data := by
        rw [← ih, Shared.pending, hfree]
        rfl
      show _ = C.runAll data (entered ls ++ [(thread, a)])
      rw [runAll_concat, hdata]
      rfl
    | execute thread =>
      obtain ⟨b, rest, data', hinside, hexec, rfl⟩ := next_execute hl
      show _ = C.runAll data (entered ls ++ [])
      rw [List.append_nil, ← ih, Shared.pending, Shared.pending, hinside, List.foldlM_cons, hexec]
      rfl
    | leave thread =>
      have hleave : C.next s (.leave thread) = some s' := hl
      obtain ⟨hinside, rfl⟩ := next_leave hleave
      show _ = C.runAll data (entered ls ++ [])
      rw [List.append_nil, ← ih, Shared.pending, Shared.pending, hinside]

/-- When nobody is inside, the data are what the sections entered so far make of them one after the other. -/
theorem serial_of_free {data : τ} {ls : List (SectionLabel α)} (h : (C.system data).exec ls = some s)
    (hfree : s.inside = none) : C.runAll data (entered ls) = some s.data := by
  rw [← serial h, Shared.pending, hfree]
  rfl

/-- A thread that is stuck inside stops all of them. -/
theorem next_of_stuck {b : β} {rest : List β} (hinside : s.inside = some (thread, b :: rest))
    (hstuck : C.exec s.data b = none) (l : SectionLabel α) : C.next s l = none := by
  cases l with
  | enter other a => simp [next, hinside]
  | execute other => simp [next, hinside, hstuck]
  | leave other => simp [next, hinside]

end Sections

end MultisensorStation.Base
