import MultisensorStation.FileSystem.SDCardFileSystem

/-!
# `removeFirstLine` on any content

* `removeFirstLine_works` : on a working device, what is left of an arbitrary content, and what `readFirstLine` then
  gives;

`removeFirstLine` truncates the file and writes the kept lines back one by one, so its early return in that loop
leaves the file without the lines it had not written yet.

* `ReachesWriteBack` : nothing went wrong before the loop;
* `WriteBackFails` : one of the insertions of the loop fails;
* `removeFirstLine_false_keeps` : a call that returns `false` leaves the file as it was unless both happen; when both
  do and the fault lasts, it does not.
-/

namespace MultisensorStation.FileSystem.SDCardFilesystem
open MultisensorStation.Base

/-! ## A working device -/

section Works
variable {Path : Type} [DecidableEq Path]

/-- **`removeFirstLine` on any content.** When no stream operation fails, the part behind the first `'\n'` is left, with
a `'\n'` at its end, and the first line of this part is what `readFirstLine` then gives. -/
theorem removeFirstLine_works {d d' : Device} (hd : d.Works) (hd' : d'.Works) (path : Path) (files : Files Path)
    (c : Bytes) (hc : files path = some c) :
    let r := afterFirst newline c
    let after := removeFirstLine d path files
    after = (true, Function.update files path (some (if Terminated newline r then r else r ++ [newline]))) ∧
      readFirstLine d' path after.2 = firstLine newline r := by
  intro r after
  have hafter : after =
      (true, Function.update files path (some (if Terminated newline r then r else r ++ [newline]))) := by
    show removeFirstLine d path files = _
    rw [removeFirstLine_of_works hd hc, tail_lines, unlines_lines]
  refine ⟨hafter, ?_⟩
  rw [hafter, readFirstLine_of_works hd']
  dsimp only
  rw [Function.update_self, Option.map_some, Option.getD_some]
  split
  · rfl
  · exact firstLine_concat_sep r

/-- An empty line comes first, and the last line has no `'\n'`. -/
theorem removeFirstLine_works_unterminated :
    let files : Files Nat := fun _ => some [97, 10, 10, 98]
    (removeFirstLine (Device.reliable 1) 0 files).1 = true ∧
      (removeFirstLine (Device.reliable 1) 0 files).2 0 = some [10, 98, 10] ∧
      readFirstLine (Device.reliable 1) 0 (removeFirstLine (Device.reliable 1) 0 files).2 = [] := by
  intro files
  obtain ⟨hafter, hfirst⟩ := removeFirstLine_works (Device.works_reliable 1) (Device.works_reliable 1) 0 files
    [97, 10, 10, 98] rfl
  exact ⟨congrArg Prod.fst hafter, congrFun (congrArg Prod.snd hafter) 0, hfirst⟩

end Works

/-! ## A failing device -/

/-- The file opens, is read to its end and opens again for writing. -/
def ReachesWriteBack (d : Device) (c : Bytes) : Prop :=
  d.openIn = true ∧ (∀ k < IFStream.deviceReads c, d.getline k = false) ∧ d.openOut = true

/-- Of the two insertions for each kept line one fails. -/
def WriteBackFails (d : Device) (c : Bytes) : Prop :=
  ∃ k < 2 * (lines newline c).tail.length, (d.insert k).fails = true

variable {Path : Type} [DecidableEq Path] {d : Device} {path : Path} {files : Files Path} {c : Bytes}

/-- Every early return in front of the truncation leaves all files alone. -/
theorem removeFirstLine_of_not_reachesWriteBack (hc : files path = some c) (h : ¬ ReachesWriteBack d c) :
    removeFirstLine d path files = (false, files) := by
  by_cases hin : d.openIn = true
  · by_cases hread : ∀ k < IFStream.deviceReads c, d.getline k = false
    · have hout : d.openOut = false := by
        by_contra hout
        exact h ⟨hin, hread, by simpa using hout⟩
      unfold removeFirstLine
      rw [openForReading_of_openIn hin, hc, hout, Option.map_some]
      dsimp only
      rw [IFStream.skipThenGetlines_of_ok _ _ hread]
      rfl
    · have hbad : ∃ k < IFStream.deviceReads c, d.getline k = true := by
        simpa using hread
      obtain ⟨hfail, heof⟩ := IFStream.skipThenGetlines_of_error _ _ hbad
      unfold removeFirstLine
      rw [openForReading_of_openIn hin, hc, Option.map_some]
      dsimp only
      rw [hfail, heof]
      rfl
  · unfold removeFirstLine openForReading
    rw [if_neg hin]

theorem removeFirstLine_of_write_back (hc : files path = some c) (h : ReachesWriteBack d c)
    (hok : ¬ WriteBackFails d c) : (removeFirstLine d path files).1 = true := by
  rw [removeFirstLine_of_read hc h.1 h.2.1 h.2.2]
  apply (writeLines_of_ok d.insert _ 0 _ rfl _).1
  intro k hk
  by_contra hkf
  exact hok ⟨k, hk, by simpa using hkf⟩

theorem removeFirstLine_of_writeBackFails (hc : files path = some c) (h : ReachesWriteBack d c)
    (hbad : WriteBackFails d c) : (removeFirstLine d path files).1 = false := by
  obtain ⟨k, hk, hkf⟩ := hbad
  rw [removeFirstLine_of_read hc h.1 h.2.1 h.2.2]
  exact writeLines_of_fail d.insert _ 0 _ ⟨k, hk, by rwa [Nat.zero_add]⟩

/-- What is left are first bytes of the kept lines, and the old content is none of these. -/
theorem removeFirstLine_ne_of_faultsLast (hd : d.FaultsLast) (hc : files path = some c) (h : ReachesWriteBack d c)
    (hbad : WriteBackFails d c) : (removeFirstLine d path files).2 path ≠ files path := by
  obtain ⟨k, hk, -⟩ := hbad
  have hlines : lines newline c ≠ [] := by
    intro hnil
    rw [hnil] at hk
    exact absurd hk (Nat.not_lt_zero k)
  rw [removeFirstLine_of_read hc h.1 h.2.1 h.2.2]
  show Function.update files path _ path ≠ files path
  rw [Function.update_self, hc]
  intro heq
  have hprefix := content_close_writeLines hd (lines newline c).tail
  rw [Option.some.inj heq] at hprefix
  exact not_prefix_unlines_tail c hlines hprefix

theorem removeFirstLine_keeps (h : ∀ c, files path = some c → ReachesWriteBack d c → ¬ WriteBackFails d c)
    (hfalse : (removeFirstLine d path files).1 = false) : (removeFirstLine d path files).2 path = files path := by
  cases hc : files path with
  | none =>
    rw [removeFirstLine_of_absent d hc]
    exact hc
  | some c =>
    by_cases hreach : ReachesWriteBack d c
    · rw [removeFirstLine_of_write_back hc hreach (h c hc hreach)] at hfalse
      cases hfalse
    · rw [removeFirstLine_of_not_reachesWriteBack hc hreach]
      exact hc

/-- **When a failing `removeFirstLine` keeps the file.** On any device it does unless the loop that writes the kept lines
back is reached and one of its insertions fails. Then it does not, if the fault lasts until `close`; after a fault that
passes, the buffer that `close` writes again can happen to make up the old content. -/
theorem removeFirstLine_false_keeps (d : Device) (path : Path) (files : Files Path) :
    let keeps := (removeFirstLine d path files).1 = false → (removeFirstLine d path files).2 path = files path
    let safe := ∀ c, files path = some c → ReachesWriteBack d c → ¬ WriteBackFails d c
    (safe → keeps) ∧ (d.FaultsLast → (keeps ↔ safe)) := by
  refine ⟨removeFirstLine_keeps, fun hd => ⟨fun hkeeps c hc hreach hbad => ?_, removeFirstLine_keeps⟩⟩
  exact removeFirstLine_ne_of_faultsLast hd hc hreach hbad (hkeeps (removeFirstLine_of_writeBackFails hc hreach hbad))

/-- The card is full when the third of three lines is written back. -/
theorem removeFirstLine_false_keeps_full_card :
    let files : Files Nat := fun _ => some [97, 10, 98, 10, 99, 10]
    let d : Device :=
      { Device.reliable 1 with insert := fun k => if k = 2 then ⟨0, true⟩ else ⟨1, false⟩, close := ⟨0, true⟩ }
    ¬ ((removeFirstLine d 0 files).1 = false → (removeFirstLine d 0 files).2 0 = files 0) := by
  intro files d hkeeps
  have hd : d.FaultsLast := fun _ _ => ⟨rfl, rfl⟩
  have hsafe := ((removeFirstLine_false_keeps d 0 files).2 hd).mp hkeeps
  exact hsafe [97, 10, 98, 10, 99, 10] rfl ⟨rfl, fun _ _ => rfl, rfl⟩ ⟨2, by decide +kernel, rfl⟩

/-- A fault that passes: half of what was written back stays in the buffer, and `close` writes it again. -/
example :
    let files : Files Nat := fun _ => some (ascii "x\nx\nx\nx\n")
    let d : Device := { Device.reliable 0 with insert := fun k => if k = 4 then ⟨4, true⟩ else ⟨0, false⟩ }
    (removeFirstLine d 0 files).1 = false ∧ (removeFirstLine d 0 files).2 0 = files 0 := by
  intro files d
  rw [removeFirstLine_of_read (show files 0 = some (ascii "x\nx\nx\nx\n") from rfl) rfl (fun _ _ => rfl) rfl]
  decide +kernel

/-- A file of three lines, and a device that takes the second one back and fails on the third. -/
theorem removeFirstLine_loses_third_line :
    let files : Files Nat := fun _ => some [97, 10, 98, 10, 99, 10]
    let d : Device := { Device.reliable 1 with insert := fun k => if k = 2 then ⟨0, true⟩ else ⟨1, false⟩ }
    (removeFirstLine d 0 files).1 = false ∧ (removeFirstLine d 0 files).2 0 = some [98, 10] ∧
      (removeFirstLine d 0 files).2 0 ≠ files 0 := by
  intro files d
  rw [removeFirstLine_of_read (show files 0 = some [97, 10, 98, 10, 99, 10] from rfl) rfl (fun _ _ => rfl) rfl]
  decide

end MultisensorStation.FileSystem.SDCardFilesystem
